import Mathlib.Data.Nat.Notation

/-! # DRMConnector

The display that is read from the connectors of a DRM device. -/

namespace DeviceAndDisplay.DisplayInfo

/-- `drmModeModeInfo`, as far as it is read. -/
structure DrmModeInfo where
  hdisplay : UInt16
  vdisplay : UInt16
  vrefresh : UInt32
  type : UInt32
deriving DecidableEq, Repr

/-- `drmModeConnector`. -/
structure DrmModeConnector where
  connectorType : UInt32
  modes : List DrmModeInfo
deriving DecidableEq, Repr

namespace DrmModeInfo

/-- `DRM_MODE_TYPE_PREFERRED` -/
def typePreferred : UInt32 := 8

def preferred (mode : DrmModeInfo) : Bool := mode.type &&& typePreferred ≠ 0

/-- `hdisplay * vdisplay` -/
def area (mode : DrmModeInfo) : ℕ := mode.hdisplay.toNat * mode.vdisplay.toNat

/-- The product, which is of type `int`, does not overflow. -/
def AreaFits (mode : DrmModeInfo) : Prop := mode.area ≤ 2147483647

instance (mode : DrmModeInfo) : Decidable mode.AreaFits := inferInstanceAs (Decidable (_ ≤ _))

/-- `lhs > rhs`; `none` if the behaviour is not defined because a product overflows. -/
def greater (lhs rhs : DrmModeInfo) : Option Bool :=
  if lhs.AreaFits ∧ rhs.AreaFits then some (decide (lhs.area > rhs.area)) else none

end DrmModeInfo

/-- One pass of the loop of `BestMode`. -/
def betterMode (result : Option DrmModeInfo) (mode : DrmModeInfo) :
    Option (Option DrmModeInfo) :=
  match result with
  | none => some (some mode)
  | some best => (best.greater mode).map fun greater => some (if greater then best else mode)

/-- `BestMode` -/
def bestMode (modes : List DrmModeInfo) : Option (Option DrmModeInfo) :=
  modes.foldlM betterMode none

/-- `PreferredMode` -/
def preferredMode (modes : List DrmModeInfo) : Option DrmModeInfo :=
  modes.foldl (fun result mode => if mode.preferred then some mode else result) none

structure DRMConnector where
  connected : Bool := false
  width : UInt32 := 0
  height : UInt32 := 0
  refreshRate : UInt32 := 0
deriving DecidableEq, Repr

/-- The fields for a mode, or for none. -/
def DRMConnector.ofMode : Option DrmModeInfo → DRMConnector
  | some mode => {
      connected := true
      width := mode.hdisplay.toUInt32
      height := mode.vdisplay.toUInt32
      refreshRate := mode.vrefresh }
  | none => {}

/-- `InitializeWithConnector`, which sets all fields. -/
def initializeWithConnector (connector : DrmModeConnector) (usePreferredMode : Bool) :
    Option DRMConnector :=
  if usePreferredMode then some (.ofMode (preferredMode connector.modes))
  else (bestMode connector.modes).map .ofMode

/-- The constructor, for the answers of `drmModeGetConnector` to the connectors of the device. -/
def drmConnector (connectors : List (Option DrmModeConnector)) (drmConnectorType : UInt32)
    (usePreferredMode : Bool) : Option DRMConnector :=
  connectors.foldlM (fun display answer =>
    match answer with
    | some connector =>
        if connector.connectorType = drmConnectorType then
          initializeWithConnector connector usePreferredMode
        else some display
    | none => some display) {}

end DeviceAndDisplay.DisplayInfo

/-! ## kms_setup

The connector, the encoder and the crtc of a kms context. What the kernel answers to the queries is
a parameter. A read beyond the end of an array and an access through a null pointer are faults. -/

namespace DeviceAndDisplay.DisplayInfo.Kms

/-- `drmModeConnection` -/
inductive DrmModeConnection where
  | connected
  | disconnected
  | unknown
deriving DecidableEq, Repr

/-- `drmModeConnector` -/
structure DrmModeConnector where
  connectorId : UInt32
  encoderId : UInt32
  connection : DrmModeConnection
  modes : List DrmModeInfo
deriving DecidableEq, Repr

/-- `drmModeEncoder` -/
structure DrmModeEncoder where
  encoderId : UInt32
  crtcId : UInt32
  possibleCrtcs : UInt32
deriving DecidableEq, Repr

/-- `drmModeCrtc` -/
structure DrmModeCrtc where
  modeValid : Bool
  mode : DrmModeInfo
deriving DecidableEq, Repr

/-- `drmModeRes`; the counts are the lengths. -/
structure DrmModeRes where
  connectors : List UInt32
  encoders : List UInt32
  crtcs : List UInt32
deriving DecidableEq, Repr

/-- What the queries answer. From 32 on, the value of `1 << j` is that of the platform. -/
structure DrmEnv where
  getConnector : UInt32 → Option DrmModeConnector
  getEncoder : UInt32 → Option DrmModeEncoder
  getCrtc : UInt32 → Option DrmModeCrtc
  wideShift : ℕ → UInt32

/-- `1 << j` -/
def DrmEnv.bit (env : DrmEnv) (j : ℕ) : UInt32 :=
  if j < 32 then 1 <<< UInt32.ofNat j else env.wideShift j

inductive Fault where
  | outOfBounds
  | nullConnector
  | nullEncoder
deriving DecidableEq, Repr

/-- `kms_ctx`, as `kms_setup` fills it. -/
structure KmsCtx where
  connector : Option DrmModeConnector := none
  encoder : Option DrmModeEncoder := none
  crtc : Option DrmModeCrtc := none
  currentInfo : Option DrmModeInfo := none
  connectorId : UInt32 := 0
  crtcId : UInt32 := 0
  encoderId : UInt32 := 0
deriving DecidableEq, Repr

/-- An array of the resources at an index. -/
def readAt (ids : List UInt32) (index : ℕ) : Except Fault UInt32 :=
  match ids[index]? with
  | some id => .ok id
  | none => .error .outOfBounds

/-! ### kms_setup_connector -/

/-- The connector is connected, and has modes. -/
def DrmModeConnector.Usable (connector : DrmModeConnector) : Prop :=
  connector.modes ≠ [] ∧ connector.connection = .connected

instance (connector : DrmModeConnector) : Decidable connector.Usable :=
  inferInstanceAs (Decidable (_ ∧ _))

/-- The loop, over the indices that are left, with what the last query answered. -/
def findConnector (env : DrmEnv) (connectors : List UInt32) (connector : Option DrmModeConnector) :
    List ℕ → Except Fault (Option DrmModeConnector)
  | [] => .ok connector
  | i :: indices =>
      match readAt connectors i with
      | .error fault => .error fault
      | .ok id =>
          match env.getConnector id with
          | some found =>
              if found.Usable then .ok (some found)
              else findConnector env connectors (some found) indices
          | none => findConnector env connectors none indices

def kmsSetupConnector (env : DrmEnv) (res : DrmModeRes) (kms : KmsCtx) : Except Fault KmsCtx :=
  match findConnector env res.connectors none (List.range res.connectors.length) with
  | .error fault => .error fault
  | .ok none => .ok kms
  | .ok (some connector) =>
      .ok { kms with connector := some connector, connectorId := connector.connectorId }

/-! ### kms_setup_encoder -/

/-- The first crtc of the encoder, by its index. -/
def firstCrtc (env : DrmEnv) (res : DrmModeRes) (encoder : DrmModeEncoder) : Option ℕ :=
  (List.range res.crtcs.length).find? fun j => encoder.possibleCrtcs &&& env.bit j ≠ 0

/-- The encoder is queried again, with the index of the crtc. -/
def takeCrtc (env : DrmEnv) (res : DrmModeRes) (kms : KmsCtx) (j : ℕ) : Except Fault KmsCtx :=
  match readAt res.encoders j with
  | .error fault => .error fault
  | .ok id =>
      match env.getEncoder id with
      | none => .error .nullEncoder
      | some encoder =>
          .ok { kms with
            encoder := some { encoder with crtcId := UInt32.ofNat j }
            crtcId := UInt32.ofNat j }

/-- The loop over the encoders, over the indices that are left. -/
def findEncoder (env : DrmEnv) (res : DrmModeRes) (kms : KmsCtx) : List ℕ → Except Fault KmsCtx
  | [] => .ok kms
  | i :: indices =>
      match readAt res.encoders i with
      | .error fault => .error fault
      | .ok id =>
          match env.getEncoder id with
          | none => .ok { kms with encoder := none }
          | some encoder =>
              match kms.connector with
              | none => .error .nullConnector
              | some connector =>
                  if encoder.encoderId = connector.encoderId then
                    .ok { kms with encoder := some encoder, encoderId := encoder.encoderId }
                  else
                    match firstCrtc env res encoder with
                    | some j => takeCrtc env res kms j
                    | none => findEncoder env res { kms with encoder := some encoder } indices

def kmsSetupEncoder (env : DrmEnv) (res : DrmModeRes) (kms : KmsCtx) : Except Fault KmsCtx :=
  findEncoder env res kms (List.range res.encoders.length)

/-! ### kms_setup_crtc and kms_setup -/

def kmsSetupCrtc (env : DrmEnv) (kms : KmsCtx) : KmsCtx :=
  match kms.encoder with
  | none => kms
  | some encoder =>
      match env.getCrtc encoder.crtcId with
      | none => { kms with crtc := none }
      | some crtc =>
          if crtc.modeValid then
            { kms with
              crtc := some crtc
              currentInfo := some crtc.mode
              crtcId := encoder.crtcId }
          else { kms with crtc := some crtc }

def kmsSetup (env : DrmEnv) (res : DrmModeRes) : Except Fault KmsCtx :=
  match kmsSetupConnector env res {} with
  | .error fault => .error fault
  | .ok kms =>
      match kmsSetupEncoder env res kms with
      | .error fault => .error fault
      | .ok kms => .ok (kmsSetupCrtc env kms)

end DeviceAndDisplay.DisplayInfo.Kms
