import DeviceAndDisplay.Model.Helpers.NotificationJobs
import DeviceAndDisplay.Model.Helpers.Settings
import DeviceAndDisplay.Storage.CString
import DeviceAndDisplay.Storage.Numeral
import Mathlib.Data.Int.Notation

/-! # LightReset

The loop over the variables of `LIGHT_RESET_SCRIPT`, and what is executed. -/

namespace DeviceAndDisplay.Warehouse

open Helpers Storage

/-- The environment, what is in `/proc/mounts` if it can be opened, and what `v_secure_system`
returns. -/
structure LightResetIo where
  getenv : Text → Option Text
  mounts : Option Text
  returned : ℤ

/-- The words of `LIGHT_RESET_SCRIPT`. -/
def lightResetWords : List Text :=
  ["/opt/netflix/*".toList, "SD_CARD_MOUNT_PATH/netflix/*".toList, "XDG_DATA_HOME/*".toList,
    "XDG_CACHE_HOME/*".toList, "XDG_CACHE_HOME/../.sparkStorage/".toList,
    "/opt/QT/home/data/*".toList, "/opt/hn_service_settings.conf".toList,
    "/opt/apps/common/proxies.conf".toList, "/opt/lib/bluetooth".toList,
    "/opt/persistent/rdkservicestore".toList]

/-- `LIGHT_RESET_SCRIPT`. -/
def lightResetScript : Text := [' '].intercalate lightResetWords

/-! ### Variables -/

/-- `[A-Z_]` -/
def isNameStart (c : Char) : Bool := c.isUpper || c = '_'

/-- `[0-9A-Z_]` -/
def isNameCharacter (c : Char) : Bool := c.isDigit || isNameStart c

/-- What the groups of `(\s+)([A-Z_][0-9A-Z_]*)(\S*)` match, and the text around the match. -/
structure Match where
  before : Text
  spaces : Text
  var : Text
  suffix : Text
  after : Text

/-- `regexec` for this expression: the leftmost match, and the longest one there. -/
def regexec : Text → Option Match
  | [] => none
  | c :: rest =>
      let word := (c :: rest).dropWhile isSpace
      if isSpace c ∧ word.head?.any isNameStart then
        let tail := word.dropWhile isNameCharacter
        some {
          before := []
          spaces := (c :: rest).takeWhile isSpace
          var := word.takeWhile isNameCharacter
          suffix := tail.takeWhile fun c => !isSpace c
          after := tail.dropWhile fun c => !isSpace c }
      else
        (regexec rest).map fun found => { found with before := c :: found.before }

/-- The text without the blanks at its ends. -/
def trimBlanks (text : Text) : Text :=
  let isBlank := fun c : Char => c ∈ [' ', '\n', '\r', '\t']
  ((text.dropWhile isBlank).reverse.dropWhile isBlank).reverse

/-- `getSDCardMountPath`: the path if it returns `true`. -/
def getSDCardMountPath (mounts : Option Text) : Option Text :=
  (mounts.map (fgets 1024)).getD [] |>.findSome? fun buffer =>
    (find "mmcblk0p1".toList (cText buffer)).map fun pos =>
      ((((cText buffer).drop pos).dropWhile (· ≠ ' ')).dropWhile (· = ' ')).takeWhile (· ≠ ' ')

/-- `envVar` as a text, which is empty if the variable is unset. -/
def envVar (io : LightResetIo) (var : Text) : Text :=
  let value := (io.getenv var).getD []
  if var = "SD_CARD_MOUNT_PATH".toList ∧ value = [] then
    ((getSDCardMountPath io.mounts).map trimBlanks).getD []
  else value

/-- `replace`. -/
def replacement (io : LightResetIo) (found : Match) : Text :=
  let value := envVar io found.var
  if value = [] then []
  else
    let replace := value ++ found.suffix
    if replace.head? = some '/' then
      match replace.dropWhile (· = '/') with
      | [] => []
      | '*' :: _ => []
      | _ => found.spaces ++ replace
    else found.spaces ++ replace

/-- The loop, for at most `n` rounds. The script is `front`, which ends at `pos`, and `rest`. -/
def expandScript (io : LightResetIo) : ℕ → (front rest : Text) → Option Text
  | 0, _, _ => none
  | n + 1, front, rest =>
      match regexec rest with
      | none => some (front ++ rest)
      | some found =>
          expandScript io n (front ++ found.before ++ replacement io found) found.after

/-- What is logged, what `v_secure_system` executes, and `successErr`. -/
structure LightReset where
  script : Text
  command : Text
  success : Bool
  error : Text
deriving DecidableEq, Repr

/-- `LightReset`, if the loop ends within `n` rounds. -/
def lightReset (n : ℕ) (io : LightResetIo) : Option LightReset :=
  (expandScript io n [] lightResetScript).map fun script =>
    { script := script
      command := "sh -c 'rm -rf ".toList ++ lightResetScript ++ ['\'']
      success := io.returned = 0
      error := [] }

end DeviceAndDisplay.Warehouse

/-! ## Resetting the device

`ResetDevice` with the thread that runs `WareHouseResetIARM`, one effect of it at a time. Waiting
is left out. -/

namespace DeviceAndDisplay.Warehouse

open Helpers

/-- A pointer to an `INotification`. -/
abbrev Sink := ℕ

/-- What a reset does to the device. -/
inductive ResetEffect where
  /-- `v_secure_system`. -/
  | system (command : String)
  | resetWarehouseRebootFlag
  /-- The file is created. -/
  | create (path : String)
deriving DecidableEq, Repr

/-- The effects of a reset in their order, and whether it returns the result of its last command or
`ERROR_NONE`. -/
structure ResetProcess where
  effects : List ResetEffect
  returnsResult : Bool
deriving DecidableEq, Repr

def processColdFactoryReset : ResetProcess where
  effects := [.system "sh /lib/rdk/deviceReset.sh coldfactory", .resetWarehouseRebootFlag,
    .system (" /rebootNow.sh -s PowerMgr_coldFactoryReset -o " ++
      "'Rebooting the box due to Cold Factory Reset process ...'")]
  returnsResult := false

def processFactoryReset : ResetProcess where
  effects := [.system "sh /lib/rdk/deviceReset.sh factory", .resetWarehouseRebootFlag]
  returnsResult := false

def processUserFactoryReset : ResetProcess where
  effects := [.resetWarehouseRebootFlag, .system "sh /lib/rdk/deviceReset.sh userfactory"]
  returnsResult := false

def processWHClear : ResetProcess where
  effects := [.resetWarehouseRebootFlag, .create "/tmp/.warehouse-clear",
    .system "sh /lib/rdk/deviceReset.sh WAREHOUSE_CLEAR"]
  returnsResult := false

def processWHClearNoReboot : ResetProcess where
  effects := [.create "/tmp/.warehouse-clear",
    .system "sh /lib/rdk/deviceReset.sh WAREHOUSE_CLEAR --suppressReboot"]
  returnsResult := true

def processWHReset : ResetProcess where
  effects := [.resetWarehouseRebootFlag, .create "/tmp/.warehouse-reset",
    .system "sh /lib/rdk/deviceReset.sh warehouse"]
  returnsResult := true

def processWHResetNoReboot : ResetProcess where
  effects := [.create "/tmp/.warehouse-reset",
    .system "sh /lib/rdk/deviceReset.sh warehouse --suppressReboot &"]
  returnsResult := true

/-- The arguments of `ResetDevice`. -/
structure ResetRequest where
  suppressReboot : Bool
  resetType : String
deriving DecidableEq, Repr

namespace ResetRequest

def process (request : ResetRequest) : ResetProcess :=
  if request.resetType = "COLD" then processColdFactoryReset
  else if request.resetType = "FACTORY" then processFactoryReset
  else if request.resetType = "USERFACTORY" then processUserFactoryReset
  else if request.resetType = "WAREHOUSE_CLEAR" then
    if request.suppressReboot then processWHClearNoReboot else processWHClear
  else
    if request.suppressReboot then processWHResetNoReboot else processWHReset

/-- The types whose branch may set `isWareHouse`. -/
def isWareHouse (request : ResetRequest) : Bool :=
  request.resetType ≠ "COLD" ∧ request.resetType ≠ "FACTORY" ∧ request.resetType ≠ "USERFACTORY"

end ResetRequest

/-- The parameters of `ResetDone`. -/
structure ResetDone where
  success : Bool
  error : String
deriving DecidableEq, Repr

/-- A thread that was started and not joined: the effects still to come, the result of the last
command, and whether the function has returned. -/
structure ResetThread where
  request : ResetRequest
  remaining : List ResetEffect
  result : ℤ := 0
  returned : Bool := false
deriving DecidableEq, Repr

/-- What became of a request (history variable). -/
inductive ResetRecord where
  /-- The thread could not be started. -/
  | notStarted
  /-- The reset returned; `failed` tells whether it returned an error. -/
  | finished (request : ResetRequest) (failed : Bool)
deriving DecidableEq, Repr

/-- `WarehouseImplementation`, with the effects so far and the records, both newest first. -/
structure Implementation where
  resetThread : Option ResetThread := none
  notifications : NotificationJobs Sink ResetDone := {}
  effects : List ResetEffect := []
  records : List ResetRecord := []
deriving DecidableEq, Repr

namespace Implementation

/-- `ResetDone`. -/
def resetDone (success : Bool) (error : String) (w : Implementation) : Implementation :=
  { w with notifications := w.notifications.dispatchEvent ⟨success, error⟩ }

/-- `ResetDevice`, which waits for the thread before it starts another; `starts` tells whether that
succeeds. The response is a success either way. -/
def resetDevice (request : ResetRequest) (starts : Bool) (w : Implementation) :
    Option Implementation :=
  if w.resetThread.any fun thread => !thread.returned then
    none
  else if starts then
    some { w with resetThread := some { request := request, remaining := request.process.effects } }
  else
    some ({ w with resetThread := none, records := .notStarted :: w.records }.resetDone false
      "exception in submitting request")

/-- The end of `WareHouseResetIARM`: only the warehouse resets that return no error and suppress the
reboot are announced. -/
def returnFromReset (thread : ResetThread) (w : Implementation) : Implementation :=
  let failed := thread.request.process.returnsResult && thread.result ≠ 0
  let w := { w with
    resetThread := some { thread with returned := true }
    records := .finished thread.request failed :: w.records }
  if thread.request.isWareHouse && !failed && thread.request.suppressReboot then
    w.resetDone true ""
  else
    w

/-- The thread performs its next effect, of which `result` is the result if it is a command, or
returns. -/
def advanceReset (result : ℤ) (w : Implementation) : Option Implementation :=
  match w.resetThread with
  | none => none
  | some thread =>
      if thread.returned then
        none
      else
        match thread.remaining with
        | [] => some (w.returnFromReset thread)
        | effect :: remaining =>
            let result :=
              match effect with
              | .system _ => result
              | .resetWarehouseRebootFlag | .create _ => thread.result
            some { w with
              resetThread := some { thread with remaining := remaining, result := result }
              effects := effect :: w.effects }

end Implementation

inductive ResetAction where
  | resetDevice (request : ResetRequest) (starts : Bool)
  | advanceReset (result : ℤ)
  | notification (action : NotificationAction Sink)
deriving DecidableEq, Repr

def resetStep (w : Implementation) : ResetAction → Option Implementation
  | .resetDevice request starts => w.resetDevice request starts
  | .advanceReset result => w.advanceReset result
  | .notification action =>
      (w.notifications.step action).map fun notifications => { w with notifications }

end DeviceAndDisplay.Warehouse
