import DeviceAndDisplay.Model.SystemServices.OperatingMode
import DeviceAndDisplay.Transition.Run
import DeviceAndDisplay.Verification.Helpers.Settings

/-! # The operating mode lasts as long as asked -/

namespace DeviceAndDisplay.SystemServices

open Helpers Transition

variable {τ J : Type*} {T : TimerOperations τ} {O : JsonObject J}

def ValidMode (mode : Text) : Prop := mode = modeNormal ∨ mode = modeWarehouse ∨ mode = modeEas

instance (mode : Text) : Decidable (ValidMode mode) := inferInstanceAs (Decidable (_ ∨ _ ∨ _))

/-! ### Decimal texts -/

theorem mem_decimal {c : Char} {n : ℤ} (h : c ∈ decimal n) : c = '-' ∨ c.isDigit = true := by
  cases n with
  | ofNat n => exact .inr (Nat.isDigit_of_mem_toDigits (by decide) (by decide) h)
  | negSucc n =>
      rcases List.mem_cons.mp h with h | h
      · exact .inl h
      · exact .inr (Nat.isDigit_of_mem_toDigits (by decide) (by decide) h)

theorem decimal_ne_nil (n : ℤ) : decimal n ≠ [] := by
  cases n with
  | ofNat n => exact Nat.toDigits_ne_nil
  | negSucc n => exact List.cons_ne_nil _ _

/-- What a value that is read back as it was written does not contain. -/
def Storable (value : Text) : Prop := '\n' ∉ value ∧ '=' ∉ value

instance (value : Text) : Decidable (Storable value) := inferInstanceAs (Decidable (_ ∧ _))

theorem storable_decimal (n : ℤ) : Storable (decimal n) := by
  constructor
  · intro h
    exact absurd (mem_decimal h) (by decide)
  · intro h
    exact absurd (mem_decimal h) (by decide)

theorem ValidMode.storable {mode : Text} (h : ValidMode mode) : Storable mode := by
  rcases h with rfl | rfl | rfl <;> decide

theorem ValidMode.ne_nil {mode : Text} (h : ValidMode mode) : mode ≠ [] := by
  rcases h with rfl | rfl | rfl <;> decide

namespace OperatingMode

/-! ### What a call of setMode does -/

/-- The branches of `setMode`. -/
inductive SetsMode (T : TimerOperations τ) (O : JsonObject J) (io : ModeIo) (duration : ℤ)
    (newMode : Text) (s : OperatingMode τ J) : Bool × OperatingMode τ J → Prop
  | rejects (hmode : ¬ ValidMode newMode) : SetsMode T O io duration newMode s (false, s)
  | keeps (hmode : ValidMode newMode) (hcurrent : s.currentMode = modeNormal)
      (hnormal : duration = 0 ∨ newMode = modeNormal) :
      SetsMode T O io duration newMode s (true, s)
  | stays (hmode : ValidMode newMode) (hne : newMode ≠ modeNormal) (hduration : duration < 0) :
      SetsMode T O io duration newMode s
        (io.iarm, changeMode T O io
          (stopModeTimer T O io.settings { s with currentMode := newMode }))
  | lasts (hmode : ValidMode newMode) (hne : newMode ≠ modeNormal) (hduration : 0 < duration) :
      SetsMode T O io duration newMode s
        (io.iarm, changeMode T O io
          (startModeTimer T O io.settings duration { s with currentMode := newMode }))
  | ends (hmode : ValidMode newMode) (hnormal : duration = 0 ∨ newMode = modeNormal) :
      SetsMode T O io duration newMode s
        (io.iarm, changeMode T O io
          (stopModeTimer T O io.settings { s with currentMode := modeNormal }))

theorem setMode_spec (s : OperatingMode τ J) (io : ModeIo) (duration : ℤ) (newMode : Text) :
    SetsMode T O io duration newMode s
      (s.setMode T O io (some { duration := some duration, mode := some newMode })) := by
  by_cases hmode : ValidMode newMode
  · have hvalid : ¬ (newMode ≠ modeNormal ∧ newMode ≠ modeWarehouse ∧ newMode ≠ modeEas) := by
      rintro ⟨hnormal, hwarehouse, heas⟩
      rcases hmode with h | h | h
      · exact hnormal h
      · exact hwarehouse h
      · exact heas h
    simp only [setMode, if_neg hvalid, selectMode]
    by_cases hend : duration = 0 ∨ newMode = modeNormal
    · have hnot : ¬ (newMode ≠ modeNormal ∧ duration ≠ 0) := fun h => hend.elim h.2 h.1
      have hor : duration = 0 ∨ (duration ≠ 0 ∧ newMode = modeNormal) := by
        by_cases hzero : duration = 0
        · exact .inl hzero
        · exact .inr ⟨hzero, hend.resolve_left hzero⟩
      by_cases hcurrent : s.currentMode = modeNormal
      · rw [if_pos ⟨hcurrent, hor⟩]
        exact .keeps hmode hcurrent hend
      · rw [if_neg (fun h => hcurrent h.1), if_neg hnot]
        exact .ends hmode hend
    · rw [not_or] at hend
      have hnot : ¬ (s.currentMode = modeNormal ∧
          (duration = 0 ∨ (duration ≠ 0 ∧ newMode = modeNormal))) := by
        rintro ⟨_, hzero | ⟨_, hnormal⟩⟩
        · exact hend.1 hzero
        · exact hend.2 hnormal
      rw [if_neg hnot, if_pos ⟨hend.2, hend.1⟩]
      by_cases hneg : duration < 0
      · rw [if_pos hneg]
        exact .stays hmode hend.2 hneg
      · rw [if_neg hneg]
        exact .lasts hmode hend.2 (by omega)
  · have hinvalid : newMode ≠ modeNormal ∧ newMode ≠ modeWarehouse ∧ newMode ≠ modeEas := by
      simpa [ValidMode] using hmode
    simp only [setMode, if_pos hinvalid]
    exact .rejects hmode

/-! ### The settings -/

/-- The file exists, and the store can be written and read back. -/
structure Writable (O : JsonObject J) (settings : Settings J) : Prop where
  file : ∃ text, settings.file = some text
  clean : Settings.Clean O settings.data
  free : Settings.SeparatorFree O settings.data

/-- The file holds the mode and the remaining duration. -/
structure Saved (O : JsonObject J) (s : OperatingMode τ J) : Prop extends
    Writable O s.tempSettings where
  written : s.tempSettings.file = some (Settings.written O s.tempSettings.data)
  mode : O.get s.tempSettings.data modeKey = some s.currentMode
  duration : O.get s.tempSettings.data modeDurationKey = some (decimal s.remainingDuration)

theorem setValue_eq {settings : Settings J} {key value : Text}
    (hfile : ∃ text, settings.file = some text) (hkey : '\x00' ∉ key) :
    (settings.setValue O {} key value).2 =
      { data := O.set settings.data key value
        file := some (Settings.written O (O.set settings.data key value)) } := by
  obtain ⟨text, hfile⟩ := hfile
  simp [Settings.setValue, Settings.writeToFile, hfile, cStr_eq_self hkey]

theorem Writable.setValue (hO : O.Lawful) {settings : Settings J} (h : Writable O settings)
    {key value : Text} (hnul : '\x00' ∉ key) (hkey : '\n' ∉ key) (hvalue : Storable value) :
    Writable O (settings.setValue O {} key value).2 := by
  have hclean := Settings.clean_set hO h.clean hkey hvalue.1
  rw [cStr_eq_self hnul] at hclean
  rw [setValue_eq h.file hnul]
  refine ⟨⟨_, rfl⟩, hclean, ?_⟩
  exact Settings.separatorFree_set hO h.free hvalue.2

theorem saved_setDuration (hO : O.Lawful) {s : OperatingMode τ J}
    (h : Writable O s.tempSettings)
    (hmode : O.get s.tempSettings.data modeKey = some s.currentMode) :
    Saved O (s.setSetting O {} modeDurationKey (decimal s.remainingDuration)) := by
  have hwritable : Writable O (s.setSetting O {} modeDurationKey
      (decimal s.remainingDuration)).tempSettings :=
    h.setValue hO (by decide) (by decide) (storable_decimal s.remainingDuration)
  refine ⟨hwritable, ?_, ?_, ?_⟩
  · simp only [setSetting, setValue_eq h.file (show '\x00' ∉ modeDurationKey by decide)]
  · simp only [setSetting, setValue_eq h.file (show '\x00' ∉ modeDurationKey by decide)]
    rw [hO.get_set_ne _ _ _ _ (by decide), hmode]
  · simp only [setSetting, setValue_eq h.file (show '\x00' ∉ modeDurationKey by decide)]
    rw [hO.get_set_self]

theorem writable_setMode (hO : O.Lawful) {s : OperatingMode τ J} (h : Writable O s.tempSettings)
    {mode : Text} (hmode : Storable mode) :
    Writable O (s.setSetting O {} modeKey mode).tempSettings :=
  h.setValue hO (by decide) (by decide) hmode

theorem writable_stopModeTimer (hO : O.Lawful) {s : OperatingMode τ J}
    (h : Writable O s.tempSettings) : Writable O (s.stopModeTimer T O {}).tempSettings :=
  h.setValue hO (by decide) (by decide) (storable_decimal 0)

theorem writable_startModeTimer (hO : O.Lawful) {s : OperatingMode τ J}
    (h : Writable O s.tempSettings) (duration : ℤ) :
    Writable O (s.startModeTimer T O {} duration).tempSettings :=
  h.setValue hO (by decide) (by decide) (storable_decimal duration)

/-! ### What changeMode leaves -/

@[simp] theorem updateWarehouseFile_eq (s : OperatingMode τ J) (iarm : Bool) :
    s.updateWarehouseFile { iarm := iarm } =
      { s with warehouseModeFile := decide (s.currentMode = modeWarehouse) } := by
  unfold updateWarehouseFile
  split <;> simp [*]

theorem saved_changeMode (hO : O.Lawful) {s : OperatingMode τ J} (h : Writable O s.tempSettings)
    (hmode : Storable s.currentMode) (iarm : Bool) :
    Saved O (s.changeMode T O { iarm := iarm }) := by
  have hsaved : ∀ s : OperatingMode τ J, Writable O s.tempSettings → Storable s.currentMode →
      Saved O ((s.setSetting O {} modeKey s.currentMode).setSetting O {} modeDurationKey
        (decimal s.remainingDuration)) := by
    intro s h hmode
    apply saved_setDuration hO (writable_setMode hO h hmode)
    simp only [setSetting, setValue_eq h.file (show '\x00' ∉ modeKey by decide)]
    rw [hO.get_set_self]
  cases iarm with
  | true =>
      simp only [changeMode, updateWarehouseFile_eq, if_true]
      exact hsaved { s with warehouseModeFile := _ } h hmode
  | false =>
      simp only [changeMode, updateWarehouseFile_eq, Bool.false_eq_true, if_false]
      exact hsaved
        { stopModeTimer T O {} s with currentMode := modeNormal, warehouseModeFile := _ }
        (writable_stopModeTimer hO h) (show Storable modeNormal by decide)

theorem changeMode_success (s : OperatingMode τ J) :
    (s.changeMode T O {}).currentMode = s.currentMode ∧
      (s.changeMode T O {}).remainingDuration = s.remainingDuration ∧
      (s.changeMode T O {}).operatingModeTimer = s.operatingModeTimer := by
  simp [changeMode, setSetting]

/-- A call of the daemon that fails ends in NORMAL. -/
theorem changeMode_failure (s : OperatingMode τ J) :
    (s.changeMode T O { iarm := false }).currentMode = modeNormal ∧
      (s.changeMode T O { iarm := false }).operatingModeTimer = T.stop s.operatingModeTimer := by
  simp [changeMode, setSetting, stopModeTimer]

theorem changeMode_warehouse (s : OperatingMode τ J) (iarm : Bool) :
    (s.changeMode T O { iarm := iarm }).warehouseModeFile = true ↔
      (s.changeMode T O { iarm := iarm }).currentMode = modeWarehouse := by
  cases iarm <;> simp [changeMode, setSetting]

end OperatingMode

/-! ### What was asked for -/

/-- A mode other than NORMAL that was accepted, with the ticks since then. -/
structure Grant where
  mode : Text
  duration : ℤ
  ticks : ℕ
deriving DecidableEq, Repr

/-- A run with what the last call asked for. -/
structure GrantedMode (J : Type*) where
  state : OperatingMode Bool J
  grant : Option Grant

variable {number : Text → ℤ}

/-- What is asked for after an action. -/
def nextGrant (O : JsonObject J) (s : GrantedMode J) : ModeAction → Option Grant
  | .setMode duration newMode iarm =>
      if (s.state.setMode tickingTimer O { iarm := iarm }
          (some { duration := some duration, mode := some newMode })).1 then
        if newMode ≠ modeNormal ∧ duration ≠ 0 then some ⟨newMode, duration, 0⟩ else none
      else if ValidMode newMode then
        none
      else
        s.grant
  | .tick _ => s.grant.map fun grant => { grant with ticks := grant.ticks + 1 }
  | .restart iarm => if iarm then s.grant else none

def grantStep (O : JsonObject J) (number : Text → ℤ) (s : GrantedMode J) (a : ModeAction) :
    Option (GrantedMode J) :=
  (modeStep O number s.state a).map fun state => ⟨state, nextGrant O s a⟩

/-- The first process, after `Initialize`. -/
def firstBoot (O : JsonObject J) (number : Text → ℤ) (warehouseModeFile iarm : Bool) :
    GrantedMode J where
  state := (OperatingMode.processStart O false {} none warehouseModeFile).initializeMode
    tickingTimer O number { iarm := iarm }
  grant := none

namespace GrantedMode

variable {s s' : GrantedMode J} {a : ModeAction}

/-- The mode lasts as long as asked. -/
structure AsAsked (s : GrantedMode J) : Prop where
  normal : s.grant = none → s.state.currentMode = modeNormal
  unlimited : ∀ grant ∈ s.grant, grant.duration < 0 → s.state.currentMode = grant.mode
  least : ∀ grant ∈ s.grant, grant.ticks < grant.duration → s.state.currentMode = grant.mode
  /-- As long as it is in force, the timer ticks. -/
  most : ∀ grant ∈ s.grant, 0 < grant.duration → s.state.currentMode ≠ modeNormal →
    s.state.currentMode = grant.mode ∧ grant.ticks ≤ grant.duration ∧
      s.state.operatingModeTimer = true
  warehouse : s.state.warehouseModeFile = true ↔ s.state.currentMode = modeWarehouse

/-- A mode without a limit is not restored. -/
def RestartsLimited (s : GrantedMode J) : ModeAction → Prop
  | .restart iarm => iarm = true →
      s.state.currentMode = modeNormal ∨ s.state.operatingModeTimer = true
  | _ => True

instance (s : GrantedMode J) : ∀ a, Decidable (s.RestartsLimited a)
  | .restart _ => inferInstanceAs (Decidable (_ → _))
  | .setMode _ _ _ | .tick _ => isTrue trivial

/-! ### The invariant -/

/-- How the mode, the timer and the remaining duration stand to what was asked for. -/
inductive Holds : Option Grant → OperatingMode Bool J → Prop
  | normal {state : OperatingMode Bool J} (hmode : state.currentMode = modeNormal)
      (htimer : state.operatingModeTimer = false) : Holds none state
  | unlimited {state : OperatingMode Bool J} {grant : Grant} (hvalid : ValidMode grant.mode)
      (hne : grant.mode ≠ modeNormal) (hduration : grant.duration < 0)
      (hmode : state.currentMode = grant.mode) (htimer : state.operatingModeTimer = false)
      (hremaining : state.remainingDuration = 0) : Holds (some grant) state
  | limited {state : OperatingMode Bool J} {grant : Grant} (hvalid : ValidMode grant.mode)
      (hne : grant.mode ≠ modeNormal) (hmode : state.currentMode = grant.mode)
      (htimer : state.operatingModeTimer = true) (hpos : 0 ≤ state.remainingDuration)
      (hduration : 0 < grant.duration)
      (hremaining : state.remainingDuration = grant.duration - grant.ticks) :
      Holds (some grant) state
  | ended {state : OperatingMode Bool J} {grant : Grant} (hduration : 0 < grant.duration)
      (hticks : grant.duration ≤ grant.ticks) (hmode : state.currentMode = modeNormal)
      (htimer : state.operatingModeTimer = false) : Holds (some grant) state

structure Restorable (O : JsonObject J) (s : GrantedMode J) : Prop where
  saved : s.state.Saved O
  warehouse : s.state.warehouseModeFile = true ↔ s.state.currentMode = modeWarehouse
  holds : Holds s.grant s.state

theorem Holds.normal_or {grant : Option Grant} {state : OperatingMode Bool J}
    (h : Holds grant state) :
    state.currentMode = modeNormal ∧ state.operatingModeTimer = false ∨
      ValidMode state.currentMode ∧ state.currentMode ≠ modeNormal := by
  cases h with
  | normal hmode htimer => exact .inl ⟨hmode, htimer⟩
  | unlimited hvalid hne _ hmode => exact .inr ⟨hmode ▸ hvalid, hmode ▸ hne⟩
  | limited hvalid hne hmode => exact .inr ⟨hmode ▸ hvalid, hmode ▸ hne⟩
  | ended _ _ hmode htimer => exact .inl ⟨hmode, htimer⟩

theorem Restorable.asAsked (h : s.Restorable O) : s.AsAsked where
  normal hnone := by
    have hholds := h.holds
    rw [hnone] at hholds
    cases hholds with
    | normal hmode _ => exact hmode
  unlimited grant hgrant hneg := by
    have hholds := h.holds
    rw [hgrant] at hholds
    cases hholds with
    | unlimited _ _ _ hmode => exact hmode
    | limited _ _ _ _ _ hduration => omega
    | ended hduration => omega
  least grant hgrant hlt := by
    have hholds := h.holds
    rw [hgrant] at hholds
    cases hholds with
    | unlimited _ _ _ hmode => exact hmode
    | limited _ _ hmode => exact hmode
    | ended _ hticks => omega
  most grant hgrant hpos hne := by
    have hholds := h.holds
    rw [hgrant] at hholds
    cases hholds with
    | unlimited _ _ hneg => omega
    | limited _ _ hmode htimer hnonneg _ hremaining => exact ⟨hmode, by omega, htimer⟩
    | ended _ _ hmode => exact absurd hmode hne
  warehouse := h.warehouse

/-! ### Steps -/

/-- The grant of a call. -/
def granted (duration : ℤ) (newMode : Text) (accepted : Bool) : Option Grant :=
  if accepted = true ∧ newMode ≠ modeNormal ∧ duration ≠ 0 then some ⟨newMode, duration, 0⟩
  else none

theorem granted_eq_none {duration : ℤ} {newMode : Text}
    (h : duration = 0 ∨ newMode = modeNormal) (accepted : Bool) :
    granted duration newMode accepted = none := by
  rw [granted, if_neg]
  rintro ⟨_, hne, hzero⟩
  exact h.elim hzero hne

theorem granted_eq_some {duration : ℤ} {newMode : Text} (hne : newMode ≠ modeNormal)
    (hduration : duration ≠ 0) : granted duration newMode true = some ⟨newMode, duration, 0⟩ := by
  rw [granted, if_pos ⟨rfl, hne, hduration⟩]

/-- A changed state is what is asked for if the daemon takes it, and is NORMAL otherwise. -/
theorem restorable_changeMode (hO : O.Lawful) (selected : OperatingMode Bool J)
    (hw : selected.tempSettings |> OperatingMode.Writable O)
    (hstorable : Storable selected.currentMode) {duration : ℤ} {newMode : Text} {iarm : Bool}
    (hholds : Holds (granted duration newMode true) (selected.changeMode tickingTimer O {})) :
    Restorable O ⟨selected.changeMode tickingTimer O { iarm := iarm },
      granted duration newMode iarm⟩ := by
  refine ⟨OperatingMode.saved_changeMode hO hw hstorable iarm,
    OperatingMode.changeMode_warehouse selected iarm, ?_⟩
  cases iarm with
  | true => exact hholds
  | false =>
      obtain ⟨hnormal, htimer⟩ :=
        OperatingMode.changeMode_failure (T := tickingTimer) (O := O) selected
      simpa [granted] using Holds.normal hnormal htimer

/-- A call for a valid mode, from any mode that it does not keep. -/
theorem restorable_setMode (hO : O.Lawful) (state : OperatingMode Bool J)
    (hw : state.tempSettings |> OperatingMode.Writable O)
    (hkeep : state.currentMode = modeNormal → Restorable O ⟨state, none⟩) {newMode : Text}
    (hmode : ValidMode newMode) (duration : ℤ) (iarm : Bool)
    {result : Bool × OperatingMode Bool J}
    (hresult : state.setMode tickingTimer O { iarm := iarm }
      (some { duration := some duration, mode := some newMode }) = result) :
    Restorable O ⟨result.2, granted duration newMode result.1⟩ := by
  have hspec := OperatingMode.setMode_spec (T := tickingTimer) (O := O) state { iarm := iarm }
    duration newMode
  rw [hresult] at hspec
  cases hspec with
  | rejects hinvalid => exact absurd hmode hinvalid
  | keeps _ hcurrent hnormal =>
      rw [granted_eq_none hnormal]
      exact hkeep hcurrent
  | stays _ hne hneg =>
      have hw' := OperatingMode.writable_stopModeTimer (T := tickingTimer) hO
        (s := { state with currentMode := newMode }) hw
      refine restorable_changeMode hO _ hw' hmode.storable ?_
      obtain ⟨hcurrent, hremaining, htimer⟩ := OperatingMode.changeMode_success (T := tickingTimer)
        (O := O)
        (OperatingMode.stopModeTimer tickingTimer O {} { state with currentMode := newMode })
      rw [granted_eq_some hne (by omega)]
      exact .unlimited hmode hne hneg hcurrent htimer hremaining
  | lasts _ hne hpos =>
      have hw' := OperatingMode.writable_startModeTimer (T := tickingTimer) hO
        (s := { state with currentMode := newMode }) hw duration
      refine restorable_changeMode hO _ hw' hmode.storable ?_
      obtain ⟨hcurrent, hremaining, htimer⟩ := OperatingMode.changeMode_success (T := tickingTimer)
        (O := O)
        (OperatingMode.startModeTimer tickingTimer O {} duration
          { state with currentMode := newMode })
      rw [granted_eq_some hne (by omega)]
      refine .limited hmode hne hcurrent htimer ?_ hpos ?_
      · rw [hremaining]
        exact Int.le_of_lt hpos
      · rw [hremaining]
        simp [OperatingMode.startModeTimer, OperatingMode.setSetting]
  | ends _ hnormal =>
      have hw' := OperatingMode.writable_stopModeTimer (T := tickingTimer) hO
        (s := { state with currentMode := modeNormal }) hw
      refine restorable_changeMode hO _ hw' (show Storable modeNormal by decide) ?_
      obtain ⟨hcurrent, _, htimer⟩ := OperatingMode.changeMode_success (T := tickingTimer) (O := O)
        (OperatingMode.stopModeTimer tickingTimer O {} { state with currentMode := modeNormal })
      rw [granted_eq_none hnormal]
      exact .normal hcurrent htimer

theorem Restorable.of_normal (h : s.Restorable O) (hmode : s.state.currentMode = modeNormal) :
    Restorable O ⟨s.state, none⟩ := by
  refine ⟨h.saved, h.warehouse, ?_⟩
  rcases h.holds.normal_or with ⟨_, htimer⟩ | ⟨_, hne⟩
  · exact .normal hmode htimer
  · exact absurd hmode hne

theorem restorable_call (hO : O.Lawful) (h : s.Restorable O) (duration : ℤ) (newMode : Text)
    (iarm : Bool) :
    Restorable O ⟨(s.state.setMode tickingTimer O { iarm := iarm }
        (some { duration := some duration, mode := some newMode })).2,
      nextGrant O s (.setMode duration newMode iarm)⟩ := by
  simp only [nextGrant]
  have hspec := OperatingMode.setMode_spec (T := tickingTimer) (O := O) s.state { iarm := iarm }
    duration newMode
  generalize hresult : s.state.setMode tickingTimer O { iarm := iarm }
    (some { duration := some duration, mode := some newMode }) = result at hspec ⊢
  by_cases hmode : ValidMode newMode
  · have hcall := restorable_setMode hO s.state h.saved.toWritable h.of_normal hmode duration iarm
      hresult
    cases haccepted : result.1 with
    | false => simpa [granted, haccepted, hmode] using hcall
    | true => simpa [granted, haccepted] using hcall
  · cases hspec with
    | rejects => simpa [hmode] using h
    | keeps hvalid => exact absurd hvalid hmode
    | stays hvalid => exact absurd hvalid hmode
    | lasts hvalid => exact absurd hvalid hmode
    | ends hvalid => exact absurd hvalid hmode

theorem restorable_tick (hO : O.Lawful) (h : s.Restorable O)
    (htimer : s.state.operatingModeTimer = true) (iarm : Bool) :
    Restorable O ⟨s.state.updateDuration tickingTimer O { iarm := iarm },
      nextGrant O s (.tick iarm)⟩ := by
  obtain ⟨state, grant⟩ := s
  have hholds : Holds grant state := h.holds
  cases hholds with
  | normal _ hstopped => exact absurd (htimer.symm.trans hstopped) (by simp)
  | unlimited _ _ _ _ hstopped => exact absurd (htimer.symm.trans hstopped) (by simp)
  | ended _ _ _ hstopped => exact absurd (htimer.symm.trans hstopped) (by simp)
  | @limited _ grant hvalid hne hmode _ hnonneg hduration hremaining =>
      simp only [OperatingMode.updateDuration, nextGrant, Option.map_some]
      split
      · next hpos =>
          refine ⟨OperatingMode.saved_setDuration hO h.saved.toWritable h.saved.mode, h.warehouse,
            ?_⟩
          refine .limited hvalid hne hmode htimer ?_ hduration ?_
          · simp only [OperatingMode.setSetting]
            omega
          · simp only [OperatingMode.setSetting]
            push_cast
            omega
      · next hzero =>
          have hkeep : state.currentMode ≠ modeNormal := hmode ▸ hne
          have hcall := restorable_setMode hO
            { state with operatingModeTimer := tickingTimer.detach (tickingTimer.stop
              state.operatingModeTimer) }
            h.saved.toWritable (fun hnormal => absurd hnormal hkeep) (.inl rfl) 0 iarm rfl
          rw [granted_eq_none (.inl rfl)] at hcall
          refine ⟨OperatingMode.saved_setDuration hO hcall.saved.toWritable hcall.saved.mode,
            hcall.warehouse, ?_⟩
          have hnone := hcall.holds
          cases hnone with
          | normal hnormal hstopped =>
              refine .ended hduration ?_ hnormal hstopped
              push_cast
              omega

/-! ### Restarts -/

/-- What a new process reads of what the last one wrote. -/
theorem restart_reads (hO : O.Lawful) {state : OperatingMode Bool J} (h : state.Saved O)
    (hmode : state.currentMode ≠ []) :
    OperatingMode.Writable O (.cSettings O {} state.tempSettings.file) ∧
    (Settings.cSettings O {} state.tempSettings.file).contains O modeKey = true ∧
    (Settings.cSettings O {} state.tempSettings.file).getValue O modeKey = state.currentMode ∧
    (Settings.cSettings O {} state.tempSettings.file).getValue O modeDurationKey =
      decimal state.remainingDuration := by
  have hdata := Settings.cSettings_data (O := O) h.written
  have hget := Settings.get_readLines_written hO h.clean h.free
  have hread := Settings.readLines_clean hO (Settings.written O state.tempSettings.data)
  have hmodeKey : cStr modeKey = modeKey := by decide
  have hdurationKey : cStr modeDurationKey = modeDurationKey := by decide
  refine ⟨⟨?_, ?_, ?_⟩, ?_, ?_, ?_⟩
  · rw [h.written]
    exact ⟨_, rfl⟩
  · rw [hdata]
    exact hread.1
  · rw [hdata]
    exact hread.2
  · rw [Settings.contains_eq, hmodeKey, hdata, hget, h.mode]
    simp [Option.filter_some, hmode]
  · rw [Settings.getValue, hmodeKey, hdata, hget, h.mode]
    simp [Option.filter_some, hmode]
  · rw [Settings.getValue, hdurationKey, hdata, hget, h.duration]
    simp [Option.filter_some, decimal_ne_nil]

/-- A call that changes the mode has the result of the daemon. -/
theorem setMode_result {state : OperatingMode Bool J} {newMode : Text} (hmode : ValidMode newMode)
    (hne : state.currentMode ≠ modeNormal) (duration : ℤ) (iarm : Bool) :
    (state.setMode tickingTimer O { iarm := iarm }
      (some { duration := some duration, mode := some newMode })).1 = iarm := by
  have hspec := OperatingMode.setMode_spec (T := tickingTimer) (O := O) state { iarm := iarm }
    duration newMode
  generalize state.setMode tickingTimer O { iarm := iarm }
    (some { duration := some duration, mode := some newMode }) = result at hspec ⊢
  cases hspec with
  | rejects hinvalid => exact absurd hmode hinvalid
  | keeps _ hcurrent => exact absurd hcurrent hne
  | stays => rfl
  | lasts => rfl
  | ends => rfl

/-- `Initialize` asks for the mode that was saved, for the duration that was saved. -/
theorem restorable_initializeMode (hO : O.Lawful) (hnumber : ∀ n, number (decimal n) = n)
    {state : OperatingMode Bool J} (hempty : state.currentMode = [])
    (hw : state.tempSettings |> OperatingMode.Writable O)
    (hcontains : state.tempSettings.contains O modeKey = true) {newMode : Text}
    (hmode : state.tempSettings.getValue O modeKey = newMode) (hvalid : ValidMode newMode)
    {duration : ℤ}
    (hduration : state.tempSettings.getValue O modeDurationKey = decimal duration) (iarm : Bool) :
    Restorable O ⟨state.initializeMode tickingTimer O number { iarm := iarm },
      granted duration newMode iarm⟩ := by
  have hne : state.currentMode ≠ modeNormal := by
    rw [hempty]
    decide
  have hcall := restorable_setMode hO state hw (fun hnormal => absurd hnormal hne) hvalid duration
    iarm rfl
  rw [setMode_result hvalid hne] at hcall
  simpa [OperatingMode.initializeMode, hempty, hcontains, hmode, hduration, hnumber] using hcall

theorem restorable_restart (hO : O.Lawful) (hnumber : ∀ n, number (decimal n) = n)
    (h : s.Restorable O) {iarm : Bool} {state : OperatingMode Bool J}
    (hstep : modeStep O number s.state (.restart iarm) = some state) :
    Restorable O ⟨state, granted s.state.remainingDuration s.state.currentMode iarm⟩ := by
  have hvalid : ValidMode s.state.currentMode := by
    rcases h.holds.normal_or with ⟨hnormal, _⟩ | ⟨hvalid, _⟩
    · exact .inl hnormal
    · exact hvalid
  obtain ⟨hw, hcontains, hmode, hduration⟩ := restart_reads hO h.saved hvalid.ne_nil
  simp only [modeStep, Option.some.injEq] at hstep
  rw [← hstep]
  exact restorable_initializeMode hO hnumber rfl hw hcontains hmode hvalid hduration iarm

/-- A restart keeps what was asked for unless it restores a mode without a limit. -/
theorem holds_restart {state : OperatingMode Bool J} {iarm : Bool} (h : Holds s.grant s.state)
    (hC : s.RestartsLimited (.restart iarm))
    (hrestored : Holds (granted s.state.remainingDuration s.state.currentMode iarm) state) :
    Holds (if iarm then s.grant else none) state := by
  cases iarm with
  | false => simpa [granted] using hrestored
  | true =>
      rw [if_pos rfl]
      cases hgrant : s.grant with
      | none =>
          rw [hgrant] at h
          cases h with
          | normal hmode _ => rwa [granted_eq_none (.inr hmode)] at hrestored
      | some grant =>
          rw [hgrant] at h
          cases h with
          | unlimited hvalid hne _ hmode htimer _ =>
              rcases hC rfl with hnormal | hticks
              · exact absurd (hmode.symm.trans hnormal) hne
              · exact absurd (htimer.symm.trans hticks) (by simp)
          | ended hduration hticks hmode _ =>
              rw [granted_eq_none (.inr hmode)] at hrestored
              cases hrestored with
              | normal hmode' htimer' => exact .ended hduration hticks hmode' htimer'
          | limited hvalid hne hmode _ hnonneg hduration hremaining =>
              by_cases hzero : s.state.remainingDuration = 0
              · rw [granted_eq_none (.inl hzero)] at hrestored
                cases hrestored with
                | normal hmode' htimer' => exact .ended hduration (by omega) hmode' htimer'
              · have hne' : s.state.currentMode ≠ modeNormal := hmode ▸ hne
                rw [granted_eq_some hne' hzero] at hrestored
                cases hrestored with
                | unlimited _ _ hneg => exact absurd hneg (Int.not_lt.mpr hnonneg)
                | ended hpos hticks =>
                    have hpos : 0 < s.state.remainingDuration := hpos
                    have hticks : s.state.remainingDuration ≤ 0 := hticks
                    omega
                | limited _ _ hmode' htimer' hnonneg' _ hremaining' =>
                    refine .limited hvalid hne (hmode'.trans hmode) htimer' hnonneg' hduration ?_
                    have hsame : state.remainingDuration =
                        s.state.remainingDuration - ((0 : ℕ) : ℤ) := hremaining'
                    omega

/-! ### Runs -/

theorem restorable_step (hO : O.Lawful) (hnumber : ∀ n, number (decimal n) = n)
    (h : s.Restorable O) (hC : s.RestartsLimited a) (hstep : grantStep O number s a = some s') :
    s'.Restorable O := by
  obtain ⟨state, hstate, rfl⟩ := Option.map_eq_some_iff.mp hstep
  cases a with
  | setMode duration newMode iarm =>
      cases hstate
      exact restorable_call hO h duration newMode iarm
  | tick iarm =>
      obtain ⟨htimer, hs'⟩ := Option.ite_none_right_eq_some.mp hstate
      cases hs'
      exact restorable_tick hO h htimer iarm
  | restart iarm =>
      have hrestored := restorable_restart hO hnumber h hstate
      exact ⟨hrestored.saved, hrestored.warehouse, holds_restart h.holds hC hrestored.holds⟩

/-- A mode without a limit that is restored ends. -/
theorem restartsLimited_of_asAsked (hO : O.Lawful) (hnumber : ∀ n, number (decimal n) = n)
    (h : s.Restorable O) (hstep : grantStep O number s a = some s') (hs' : s'.AsAsked) :
    s.RestartsLimited a := by
  obtain ⟨state, hstate, rfl⟩ := Option.map_eq_some_iff.mp hstep
  cases a with
  | setMode duration newMode iarm => trivial
  | tick iarm => trivial
  | restart iarm =>
      rintro rfl
      have hrestored := restorable_restart hO hnumber h hstate
      obtain ⟨old, grant⟩ := s
      have hholds : Holds grant old := h.holds
      cases hholds with
      | normal hmode _ => exact .inl hmode
      | limited _ _ _ htimer => exact .inr htimer
      | ended _ _ hmode => exact .inl hmode
      | @unlimited _ grant _ hne hneg _ _ hremaining =>
          have hkept : state.currentMode = grant.mode := hs'.unlimited grant rfl hneg
          have hended := hrestored.holds
          rw [granted_eq_none (.inl hremaining)] at hended
          cases hended with
          | normal hmode' => exact absurd (hkept.symm.trans hmode') hne

theorem restorable_firstBoot (hO : O.Lawful) (warehouseModeFile iarm : Bool) :
    (firstBoot O number warehouseModeFile iarm).Restorable O := by
  have hw : OperatingMode.Writable O (.cSettings O {} none) := by
    have hclean := Settings.readLines_clean hO []
    exact ⟨⟨[], rfl⟩, hclean.1, hclean.2⟩
  have hcontains : (Settings.cSettings O {} none).contains O modeKey = false := by
    rw [Settings.contains_eq]
    simp [Settings.cSettings, Settings.readFromFile, hO.get_empty]
  have hempty : ([] : Text) ≠ modeNormal := by decide
  have hcall := restorable_setMode hO (.processStart O false {} none warehouseModeFile) hw
    (fun hnormal => absurd hnormal hempty) (.inl rfl) (-1) iarm rfl
  rw [granted_eq_none (.inr rfl)] at hcall
  simpa [firstBoot, OperatingMode.initializeMode, OperatingMode.processStart, hcontains] using hcall

/-- The mode lasts as long as asked throughout a run exactly if no restart restores a mode without a
limit. -/
theorem operating_mode_as_asked_iff (hO : O.Lawful) (hnumber : ∀ n, number (decimal n) = n)
    (warehouseModeFile iarm : Bool) {as : List ModeAction}
    (hr : run (grantStep O number) (firstBoot O number warehouseModeFile iarm) as = some s) :
    (∀ bs u, bs <+: as →
      run (grantStep O number) (firstBoot O number warehouseModeFile iarm) bs = some u →
        u.AsAsked) ↔
      Along (grantStep O number) RestartsLimited
        (firstBoot O number warehouseModeFile iarm) as := by
  refine throughout_iff_along (I := Restorable O) (P := AsAsked) ?_ ?_ ?_
    (restorable_firstBoot hO warehouseModeFile iarm) hr
  · intro s a s' h hC hstep
    exact restorable_step hO hnumber h hC hstep
  · intro s h
    exact h.asAsked
  · intro s a s' h hstep hs'
    exact restartsLimited_of_asAsked hO hnumber h hstep hs'

/-- The number of a decimal text. -/
def readDecimal : Text → ℤ
  | '-' :: digits => -(Nat.ofDigitChars 10 digits 0 : ℕ)
  | digits => (Nat.ofDigitChars 10 digits 0 : ℕ)

theorem readDecimal_decimal (n : ℤ) : readDecimal (decimal n) = n := by
  cases n with
  | ofNat n =>
      have hne : ∀ digits, Nat.toDigits 10 n ≠ '-' :: digits := by
        intro digits h
        have hmem : '-' ∈ Nat.toDigits 10 n := h ▸ List.mem_cons_self
        exact absurd (Nat.isDigit_of_mem_toDigits (by decide) (by decide) hmem) (by decide)
      unfold readDecimal decimal
      split
      · next digits h => exact absurd h (hne digits)
      · rw [Nat.ofDigitChars_ten_toDigits]
        rfl
  | negSucc n =>
      simp only [readDecimal, decimal, Nat.ofDigitChars_ten_toDigits]
      rfl

/-- A restart in the middle of a mode of two ticks. -/
theorem operating_mode_restored :
    ∃ s, run (grantStep Settings.assocObject readDecimal)
        (firstBoot Settings.assocObject readDecimal true true)
        [.setMode 2 modeWarehouse true, .tick true, .restart true, .tick true] = some s ∧
      s.AsAsked := by
  have hr : run (grantStep Settings.assocObject readDecimal)
      (firstBoot Settings.assocObject readDecimal true true)
      [.setMode 2 modeWarehouse true, .tick true, .restart true, .tick true] = some _ := rfl
  refine ⟨_, hr, (operating_mode_as_asked_iff Storage.AssocList.table_lawful readDecimal_decimal
    true true hr).mpr ?_ _ _ List.prefix_rfl hr⟩
  decide

/-- A restart while EAS is in force without a limit. -/
theorem operating_mode_lost :
    ∃ s, run (grantStep Settings.assocObject readDecimal)
        (firstBoot Settings.assocObject readDecimal false true)
        [.setMode (-1) modeEas true, .restart true] = some s ∧ ¬ s.AsAsked := by
  refine ⟨_, rfl, fun h => ?_⟩
  have hmode := h.unlimited ⟨modeEas, -1, 0⟩ (by decide) (by decide)
  exact absurd hmode (by decide)

end GrantedMode

end DeviceAndDisplay.SystemServices
