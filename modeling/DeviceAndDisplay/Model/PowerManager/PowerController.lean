import DeviceAndDisplay.Model.PowerManager.Types

/-! # PowerController

The part of `PowerController` that holds and changes the stored power state. Settings are
written back to `/opt` after every change; no function modelled here reads the file again. -/

namespace DeviceAndDisplay.PowerManager

/-- The fields of `Settings` that the power-mode transitions read and write. -/
structure Settings where
  powerState : PowerState := .on
  deepSleepTimeout : ℕ := 8 * 60 * 60
  nwStandbyMode : Bool := false
deriving DecidableEq, Repr

structure PowerController where
  settings : Settings := {}
  lastKnownPowerState : PowerState := .on
  /-- `_isDeepSleepTimeoutSet` of `_deepSleepWakeupSettings`. -/
  isDeepSleepTimeoutSet : Bool := false
deriving DecidableEq, Repr

namespace PowerController

/-- `GetPowerState`: the current and the previous state. -/
def getPowerState (c : PowerController) : ErrorCode × PowerState × PowerState :=
  (.errorNone, c.settings.powerState, c.lastKnownPowerState)

/-- `/tmp/ignoredeepsleep` makes `SetPowerState` refuse the state without asking the platform. -/
def ignores (env : Env) (powerState : PowerState) : Bool :=
  env.ignoreDeepSleep && powerState == .standbyDeepSleep

/-- `SetPowerState`; the key code and the reason only reach log lines. -/
def setPowerState (env : Env) (powerState : PowerState) (c : PowerController) :
    ErrorCode × PowerController :=
  if ignores env powerState then
    (.errorIllegalState, c)
  else if env.platformSetPowerState ≠ .errorNone then
    (env.platformSetPowerState, c)
  else
    (.errorNone, { c with
      settings := { c.settings with powerState := powerState }
      lastKnownPowerState := c.settings.powerState })

/-- `DeepSleepWakeupSettings::timeout`. -/
def deepSleepTimeout (env : Env) (c : PowerController) : ℕ :=
  if c.isDeepSleepTimeoutSet then c.settings.deepSleepTimeout else env.wakeupTime

/-- The platform accepts every state and no override file refuses one. -/
def Accepting (env : Env) : Prop :=
  env.platformSetPowerState = .errorNone ∧ env.ignoreDeepSleep = false

instance (env : Env) : Decidable (Accepting env) := inferInstanceAs (Decidable (_ ∧ _))

/-- Either the call succeeds and stores the state, or it changes nothing. -/
theorem setPowerState_cases (env : Env) (s : PowerState) (c : PowerController) :
    ((c.setPowerState env s).1 = .errorNone ∧
      (c.setPowerState env s).2.settings.powerState = s) ∨
    ((c.setPowerState env s).1 ≠ .errorNone ∧ (c.setPowerState env s).2 = c) := by
  unfold setPowerState
  split
  · exact .inr ⟨by simp, rfl⟩
  · split
    · rename_i h
      exact .inr ⟨h, rfl⟩
    · exact .inl ⟨rfl, rfl⟩

theorem setPowerState_of_accepting {env : Env} (h : Accepting env) (s : PowerState)
    (c : PowerController) :
    (c.setPowerState env s).1 = .errorNone ∧
      (c.setPowerState env s).2.settings.powerState = s := by
  simp [setPowerState, ignores, h.1, h.2]

end PowerController

end DeviceAndDisplay.PowerManager
