import DeviceAndDisplay.Storage.Text

/-! # The system mode file

`/tmp/SystemMode.txt` as `updateSystemModeFile` writes it and `getSystemModePropertyValue` reads
it. -/

namespace DeviceAndDisplay.SystemMode

open Storage

/-- A `std::string`. -/
abbrev Text := List Char

/-- `"currentstate"`. -/
def currentstate : Text := ['c', 'u', 'r', 'r', 'e', 'n', 't', 's', 't', 'a', 't', 'e']

/-- `"callsign"`. -/
def callsign : Text := ['c', 'a', 'l', 'l', 's', 'i', 'g', 'n']

/-- `"DEVICE_OPTIMIZE"`. -/
def deviceOptimize : Text :=
  ['D', 'E', 'V', 'I', 'C', 'E', '_', 'O', 'P', 'T', 'I', 'M', 'I', 'Z', 'E']

/-- `"VIDEO"`. -/
def video : Text := ['V', 'I', 'D', 'E', 'O']

inductive FileAction where
  | add
  | delete
  | deleteall
  | checkandadd
deriving DecidableEq, Repr

/-- Whether the file can be created, and whether it can be opened for writing. -/
structure FileIo where
  creates : Bool := true
  writes : Bool := true
deriving DecidableEq, Repr

/-- `searchKey`. -/
def searchKey (systemMode property : Text) : Text := systemMode ++ '_' :: property

/-- What becomes of a line that was read; `none` if the line is skipped. -/
def updateLine (systemMode property value : Text) (action : FileAction) (line : Text) :
    Option Text :=
  if searchKey systemMode property <+: line then
    if action = .deleteall ∧ value = [] then
      none
    else if property = currentstate then
      match action with
      | .add | .checkandadd => some (searchKey systemMode property ++ '=' :: value)
      | .delete => some []
      | .deleteall => some line
    else if property = callsign then
      match action with
      | .add =>
          match find value line with
          | none => some (line ++ (value ++ ['|']))
          | some _ => some line
      | .delete =>
          match find value line with
          | none => some line
          | some pos => some (erase pos (value.length + 1) line)
      | .deleteall | .checkandadd => some line
    else
      some line
  else
    some line

/-- What is written at the end if no line starts with the key. -/
def newLines (systemMode property value : Text) (action : FileAction) : List Text :=
  if action = .add ∨ action = .checkandadd then
    if property = currentstate then [searchKey systemMode property ++ '=' :: value]
    else if property = callsign then [searchKey systemMode property ++ '=' :: (value ++ ['|'])]
    else []
  else
    []

/-- The lines of the buffer that is written back; empty lines are dropped. -/
def updateLines (systemMode property value : Text) (action : FileAction) (lines : List Text) :
    List Text :=
  (lines.filterMap (updateLine systemMode property value action)).filter (· ≠ []) ++
    if ∃ line ∈ lines, searchKey systemMode property <+: line then []
    else newLines systemMode property value action

/-- The part of `updateSystemModeFile` from the loop on; `lines` are those that the stream gives,
`text` is what the file holds. -/
def rewriteFile (io : FileIo) (systemMode property value : Text) (action : FileAction)
    (lines : List Text) (text : Text) : Text :=
  if io.writes then terminate '\n' (updateLines systemMode property value action lines)
  else text

/-- `updateSystemModeFile`; `none` stands for a string that is none of the four actions. A file
that does not exist is created with the default state, but the stream that was opened before
gives no line of it. -/
def updateSystemModeFile (io : FileIo) (systemMode property value : Text)
    (action : Option FileAction) (file : Option Text) : Option Text :=
  if systemMode = [] ∨ property = [] then
    file
  else
    match action with
    | none => file
    | some action =>
        match file with
        | some text =>
            some (rewriteFile io systemMode property value action (readParts '\n' text) text)
        | none =>
            if io.creates then
              let text := rewriteFile io deviceOptimize currentstate video .add [] []
              some (rewriteFile io systemMode property value action [] text)
            else
              none

/-- The text after the first `=` of a line. -/
def lineValue (line : Text) : Option Text :=
  match find ['='] line with
  | none => none
  | some pos => some (line.drop (pos + 1))

/-- `getSystemModePropertyValue`; `none` if it returns `false`. -/
def getSystemModePropertyValue (systemMode property : Text) (file : Option Text) : Option Text :=
  if systemMode = [] ∨ property = [] then
    none
  else
    match file with
    | none => none
    | some text => (readParts '\n' text).findSome? fun line =>
        if searchKey systemMode property <+: line then lineValue line else none

/-- `Utils::String::split`, for one delimiter. -/
def split (delimiter : Char) (s : Text) : List Text := s.splitOn delimiter

/-- The callsigns that are read back. The constructor of `SystemModeImplementation` hands every
piece to `ClientActivated`, which ignores empty ones. -/
def storedCallsigns (systemMode : Text) (file : Option Text) : List Text :=
  match getSystemModePropertyValue systemMode callsign file with
  | none => []
  | some value => (split '|' value).filter (· ≠ [])

/-- One call of `updateSystemModeFile`. -/
structure FileCall where
  io : FileIo := {}
  systemMode : Text
  property : Text
  value : Text
  action : Option FileAction
deriving DecidableEq, Repr

def fileStep (file : Option Text) (call : FileCall) : Option (Option Text) :=
  some (updateSystemModeFile call.io call.systemMode call.property call.value call.action file)

end DeviceAndDisplay.SystemMode

/-! ## The clients of the system mode

`SystemModeImplementation` with its map `_clients`, the requests it makes of activators, and the
file. -/

namespace DeviceAndDisplay.SystemMode

/-- `"GAME"`. -/
def game : Text := ['G', 'A', 'M', 'E']

/-- `ISystemMode::SystemMode`. -/
inductive Mode where
  | deviceOptimize
  | other (value : ℕ)
deriving DecidableEq, Repr

/-- `ISystemMode::State`. -/
inductive State where
  | video
  | game
  | other (value : ℕ)
deriving DecidableEq, Repr

/-- An `IDeviceOptimizeStateActivator` of the plugin with the callsign. -/
structure Activator where
  plugin : Text
  id : ℕ
deriving DecidableEq, Repr

/-- A call of `Request` and its argument. -/
abbrev Request := Activator × Text

structure SystemModeImplementation where
  /-- Nothing depends on the order of the map. -/
  clients : List Activator := []
  stateRequested : Bool := false
  deviceOptimizeStateMap : List (State × Text) := [(.video, video), (.game, game)]
  file : Option Text

/-- What a call of `ClientActivated` meets outside of the plugin. -/
structure Activation where
  io : FileIo := {}
  /-- The activator that is obtained, if the shell of the plugin and its interface are. -/
  activator : Option ℕ
  /-- What `successResult.state` holds before it is set. -/
  unset : State := .video

namespace SystemModeImplementation

/-- `SystemModeMap`. -/
def systemModeMap : Mode → Option Text
  | .deviceOptimize => some deviceOptimize
  | .other _ => none

/-- `SystemModeInterfaceMap`. -/
def systemModeInterfaceMap (systemMode : Text) : Option Mode :=
  if systemMode = deviceOptimize then some .deviceOptimize else none

/-- `none` stands for `ERROR_GENERAL`. Otherwise `successResult.state` is set if the state that
was read is a state. -/
def getState (pSystemMode : Mode) (s : SystemModeImplementation) : Option (Option State) :=
  match systemModeMap pSystemMode with
  | none => none
  | some systemMode =>
      let value := (getSystemModePropertyValue systemMode currentstate s.file).getD []
      some ((s.deviceOptimizeStateMap.find? fun pair => pair.2 = value).map Prod.fst)

/-- The result is `none` for `ERROR_GENERAL`, otherwise it has the requests. -/
def requestState (io : FileIo) (pSystemMode : Mode) (pState : State)
    (s : SystemModeImplementation) : Option (List Request) × SystemModeImplementation :=
  match systemModeMap pSystemMode with
  | none => (none, s)
  | some systemMode =>
      match s.deviceOptimizeStateMap.lookup pState with
      | none => (none, s)
      | some newState =>
          (some (s.clients.map fun client => (client, newState)),
            { s with
              file := updateSystemModeFile io systemMode currentstate newState (some .add) s.file
              stateRequested := true })

/-- `_clients.insert`, which leaves an entry that exists as it is. -/
def insertClient (activator : Activator) (clients : List Activator) : List Activator :=
  if ∃ client ∈ clients, client.plugin = activator.plugin then clients else clients ++ [activator]

/-- `deviceOptimizeStateMap[state]`, which adds an empty name for a state that has none. -/
def stateName (state : State) (s : SystemModeImplementation) : Text × SystemModeImplementation :=
  match s.deviceOptimizeStateMap.lookup state with
  | some name => (name, s)
  | none => ([], { s with deviceOptimizeStateMap := s.deviceOptimizeStateMap ++ [(state, [])] })

/-- The request to an activator that comes after `RequestState`. -/
def lateRequest (activator : Activator) (unset : State) (s : SystemModeImplementation) :
    List Request × SystemModeImplementation :=
  if s.stateRequested then
    match s.getState .deviceOptimize with
    | none => ([], s)
    | some state =>
        let (name, s) := s.stateName (state.getD unset)
        ([(activator, name)], s)
  else
    ([], s)

/-- The requests that are made, and the new state. -/
def clientActivated (env : Activation) (callsign systemMode : Text)
    (s : SystemModeImplementation) : List Request × SystemModeImplementation :=
  match systemModeInterfaceMap systemMode with
  | none => ([], s)
  | some _ =>
      if callsign ≠ [] then
        match env.activator with
        | none => ([], s)
        | some id =>
            let activator : Activator := ⟨callsign, id⟩
            { s with
              clients := insertClient activator s.clients
              file := updateSystemModeFile env.io deviceOptimize SystemMode.callsign callsign
                (some .add) s.file }.lateRequest activator env.unset
      else
        ([], s)

def clientDeactivated (io : FileIo) (callsign systemMode : Text) (s : SystemModeImplementation) :
    SystemModeImplementation :=
  match systemModeInterfaceMap systemMode with
  | none => s
  | some _ =>
      if ∃ client ∈ s.clients, client.plugin = callsign then
        { s with
          clients := s.clients.filter fun client => client.plugin ≠ callsign
          file := updateSystemModeFile io deviceOptimize SystemMode.callsign callsign
            (some .delete) s.file }
      else
        s

/-! ### The constructor -/

/-- The file with a current state. -/
def defaultState (io : FileIo) : Option Text → Option Text
  | none =>
      if io.creates then
        updateSystemModeFile io deviceOptimize currentstate video (some .add) (some [])
      else
        none
  | some text =>
      if (getSystemModePropertyValue deviceOptimize currentstate (some text)).getD [] = [] then
        updateSystemModeFile io deviceOptimize currentstate video (some .add) (some text)
      else
        some text

/-- The callsigns that the file lists are taken out of it. -/
def takeCallsigns (io : FileIo) (file : Option Text) : List Text × Option Text :=
  let value := (getSystemModePropertyValue deviceOptimize callsign file).getD []
  if value ≠ [] then
    (split '|' value, updateSystemModeFile io deviceOptimize callsign [] (some .deleteall) file)
  else
    ([], file)

/-- The callsigns that the constructor activates, and the file before that. A file that is
created lists none. -/
def startFile (io : FileIo) (file : Option Text) : List Text × Option Text :=
  takeCallsigns io (defaultState io file)

/-- `activations k` is what the call for the `k`th callsign meets. -/
def construct (io : FileIo) (activations : ℕ → Activation) (file : Option Text) :
    SystemModeImplementation :=
  (startFile io file).1.zipIdx.foldl
    (fun s token => (s.clientActivated (activations token.2) token.1 deviceOptimize).2)
    { file := (startFile io file).2 }

end SystemModeImplementation

end DeviceAndDisplay.SystemMode
