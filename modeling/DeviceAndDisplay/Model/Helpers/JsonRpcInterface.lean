import DeviceAndDisplay.Model.Helpers.Settings
import Mathlib.Data.Int.Notation
import Mathlib.Logic.Function.Basic

/-! # JsonRpcInterface

`sendRequest` on any number of threads, and the messages that arrive meanwhile. -/

namespace DeviceAndDisplay.WebSockets

open Helpers

/-! ### Messages -/

/-- Which members of the error object are set. -/
structure ResponseError where
  code : Bool
  text : Bool
deriving DecidableEq, Repr

/-- `JsonRpc::Response` after `FromString`; a member is `none` if it is not set. -/
structure Response where
  jsonrpc : Option Text
  id : Option UInt32
  /-- The label `success` of the result, by `getBoolParameter`; `none` if it is not there. -/
  result : Option (Option Bool)
  error : Option ResponseError
deriving DecidableEq

namespace Response

def getId (r : Response) : UInt32 := r.id.getD 0

def isResult (r : Response) : Bool := r.result.isSome

def isError (r : Response) : Bool := r.error.isSome

/-- `Message::DefaultVersion` -/
def defaultVersion : Text := ['2', '.', '0']

def isValid (r : Response) : Bool :=
  r.jsonrpc == some defaultVersion && r.id.isSome && (r.isResult || r.isError) &&
    !(r.isResult && r.isError) && r.error.all fun error => error.code && error.text

end Response

/-- The value of a label `id`. -/
inductive MessageId where
  | number (n : ℤ)
  | other
deriving DecidableEq

/-- A message by what is read from its text: as a `JsonObject`, and as a `Response`. -/
structure Message where
  /-- The text is a JSON object. -/
  wellFormed : Bool := true
  id : Option MessageId
  hasMethod : Bool := false
  response : Response
deriving DecidableEq

/-- `processResponse`: the value of `success`. -/
def processResponse (id : UInt32) (response : Response) : Bool :=
  if response.isValid && response.getId == id then (response.result.bind fun b => b).getD false
  else false

/-! ### Requests -/

/-- What a call of `sendRequest` does next. -/
inductive RequestPoint where
  | isRequestProcessingOngoing
  | createFutureResponse
  | send
  /-- Waits for the response, for five seconds. -/
  | getAsyncResponse
  /-- The response is ready: removes the promise. -/
  | removeAnswered
  | processResponse
  /-- Sending failed, or the time is over: removes the promise. -/
  | removeFailed
  | returned (success : Bool)
deriving DecidableEq

structure RequestCall where
  id : UInt32 := 0
  point : RequestPoint := .returned false
  /-- What the promise of the call was set to. -/
  future : Option Message := none
deriving DecidableEq

/-- The calls are numbered in the order of their start; a promise goes by the number of the call
that created it. -/
structure JsonRpcInterface where
  responseToPromise : UInt32 → Option ℕ := fun _ => none
  started : ℕ := 0
  calls : ℕ → RequestCall := fun _ => {}

namespace JsonRpcInterface

def moveCall (i : ℕ) (point : RequestPoint) (s : JsonRpcInterface) : JsonRpcInterface :=
  { s with calls := Function.update s.calls i { s.calls i with point := point } }

def emplacePromise (i : ℕ) (s : JsonRpcInterface) : JsonRpcInterface :=
  { s with responseToPromise := Function.update s.responseToPromise (s.calls i).id (some i) }

def removePromise (id : UInt32) (s : JsonRpcInterface) : JsonRpcInterface :=
  { s with responseToPromise := Function.update s.responseToPromise id none }

/-- `sendRequest` is called. -/
def startRequest (id : UInt32) (s : JsonRpcInterface) : JsonRpcInterface :=
  { s with
    started := s.started + 1
    calls := Function.update s.calls s.started
      { id := id, point := .isRequestProcessingOngoing } }

/-- The next step of a call; `sent` is what `send` returns. The wait ends when the response is
ready, and may end at any time before. -/
def proceed (i : ℕ) (sent : Bool) (s : JsonRpcInterface) : Option JsonRpcInterface :=
  let call := s.calls i
  match call.point with
  | .isRequestProcessingOngoing =>
      if (s.responseToPromise call.id).isSome then some (s.moveCall i (.returned false))
      else some (s.moveCall i .createFutureResponse)
  | .createFutureResponse =>
      if (s.responseToPromise call.id).isSome then some (s.moveCall i (.returned false))
      else some ((s.emplacePromise i).moveCall i .send)
  | .send => some (s.moveCall i (if sent then .getAsyncResponse else .removeFailed))
  | .getAsyncResponse =>
      some (s.moveCall i (if call.future.isSome then .removeAnswered else .removeFailed))
  | .removeAnswered => some ((s.removePromise call.id).moveCall i .processResponse)
  | .processResponse =>
      call.future.map fun message =>
        s.moveCall i (.returned (WebSockets.processResponse call.id message.response))
  | .removeFailed => some ((s.removePromise call.id).moveCall i (.returned false))
  | .returned _ => none

/-- `handleResponse`; `none` if `set_value` throws. -/
def handleResponse (id : UInt32) (message : Message) (s : JsonRpcInterface) :
    Option JsonRpcInterface :=
  match s.responseToPromise id with
  | none => some s
  | some i =>
      if (s.calls i).future.isSome then none
      else some { s with
        calls := Function.update s.calls i { s.calls i with future := some message } }

/-- `onMessage` as far as requests are concerned; `none` if an exception leaves it. -/
def onMessage (message : Message) (s : JsonRpcInterface) : Option JsonRpcInterface :=
  if message.wellFormed = false then some s
  else
    match message.id with
    | none => some s
    | some id =>
        if message.hasMethod then some s
        else
          match id with
          | .other => some s
          | .number n => s.handleResponse (UInt32.ofInt n) message

end JsonRpcInterface

inductive InterfaceAction where
  | sendRequest (id : UInt32)
  | proceed (i : ℕ) (sent : Bool)
  | onMessage (message : Message)
deriving DecidableEq

/-- An exception that leaves `onMessage` has released the mutex and changed nothing. -/
def interfaceStep (s : JsonRpcInterface) : InterfaceAction → Option JsonRpcInterface
  | .sendRequest id => some (s.startRequest id)
  | .proceed i sent => s.proceed i sent
  | .onMessage message => some ((s.onMessage message).getD s)

end DeviceAndDisplay.WebSockets
