import DeviceAndDisplay.Model.SystemServices.NetworkStandbyMode
import DeviceAndDisplay.Transition.Run

/-! # The cached mode is not stale

The cache is kept right by the order of the notifications, except against a getter that writes an
answer it got before a notification that has overtaken it. -/

namespace DeviceAndDisplay.SystemServices

open Transition

namespace StandbyModeCache

variable {s s' : StandbyModeCache} {a : StandbyModeAction}

/-- No call is in progress and every notification is delivered. -/
def Quiescent (s : StandbyModeCache) : Prop :=
  (∀ t, s.threads t = .idle) ∧ s.undelivered = []

/-- A valid cache holds the mode PowerManager reports. -/
def Fresh (s : StandbyModeCache) : Prop :=
  s.networkStandbyModeValid = true → s.networkStandbyMode = s.powerManagerMode

/-- The cache is right unless a notification is still to come. -/
def Settled (s : StandbyModeCache) : Prop := s.undelivered = [] → s.Fresh

/-- A getter writes the mode PowerManager has, or a notification is still to come. -/
def WritesCurrent (s : StandbyModeCache) : StandbyModeAction → Prop
  | .proceed t _ => ∀ nwStandby, s.threads t = .writeCache nwStandby →
      nwStandby = s.powerManagerMode ∨ s.undelivered ≠ []
  | _ => True

instance (s : StandbyModeCache) : ∀ a, Decidable (s.WritesCurrent a)
  | .proceed _ _ => inferInstanceAs (Decidable (∀ _ : Bool, _ → _))
  | .getNetworkStandbyMode _ | .setNetworkStandbyMode _ _ | .powerManagerChange _
  | .onNetworkModeChanged => isTrue trivial

/-- The last notification on its way tells the mode PowerManager has. -/
def Announced (s : StandbyModeCache) : Prop :=
  ∀ mode ∈ s.undelivered.getLast?, mode = s.powerManagerMode

/-! ### Steps -/

theorem announced_change (mode : Bool) : (s.change mode).Announced := by
  intro mode' hmode
  rw [change, List.getLast?_concat] at hmode
  exact (Option.some.inj hmode).symm

theorem announced_step (hs : s.Announced) (h : standbyModeStep s a = some s') :
    s'.Announced := by
  cases a with
  | getNetworkStandbyMode t =>
      cases (Option.ite_none_right_eq_some.mp h).2
      unfold readCache
      split
      · exact hs
      · exact hs
  | setNetworkStandbyMode t nwStandby =>
      have hcall := (Option.ite_none_right_eq_some.mp h).2
      cases nwStandby with
      | none =>
          cases hcall
          exact hs
      | some bStandbyMode =>
          cases hcall
          exact hs
  | proceed t success =>
      simp only [standbyModeStep, proceed] at h
      cases hcall : s.threads t with
      | idle => simp [hcall] at h
      | callGet =>
          cases success <;> simp only [hcall] at h <;> cases h <;> exact hs
      | writeCache nwStandby =>
          simp only [hcall] at h
          cases h
          exact hs
      | callSet bStandbyMode =>
          cases success <;> simp only [hcall] at h <;> cases h
          · exact hs
          · exact announced_change bStandbyMode
      | invalidate =>
          simp only [hcall] at h
          cases h
          exact hs
  | powerManagerChange mode =>
      cases h
      exact announced_change mode
  | onNetworkModeChanged =>
      simp only [standbyModeStep, onNetworkModeChanged] at h
      cases hu : s.undelivered with
      | nil => simp [hu] at h
      | cons mode undelivered =>
          simp only [hu] at h
          cases h
          intro mode' hmode
          apply hs
          rw [hu]
          cases undelivered with
          | nil => cases hmode
          | cons mode'' undelivered =>
              rw [List.getLast?_cons_cons]
              exact hmode

theorem settled_change (mode : Bool) : (s.change mode).Settled := by
  intro hu
  simp [change] at hu

/-- A step keeps the cache right exactly if no getter writes an overtaken answer. -/
theorem settled_step_iff (ha : s.Announced) (hs : s.Settled)
    (h : standbyModeStep s a = some s') : s'.Settled ↔ s.WritesCurrent a := by
  cases a with
  | getNetworkStandbyMode t =>
      cases (Option.ite_none_right_eq_some.mp h).2
      refine iff_of_true ?_ trivial
      unfold readCache
      split
      · exact hs
      · exact hs
  | setNetworkStandbyMode t nwStandby =>
      have hcall := (Option.ite_none_right_eq_some.mp h).2
      refine iff_of_true ?_ trivial
      cases nwStandby with
      | none =>
          cases hcall
          exact hs
      | some bStandbyMode =>
          cases hcall
          exact hs
  | proceed t success =>
      simp only [standbyModeStep, proceed] at h
      simp only [WritesCurrent]
      cases hcall : s.threads t with
      | idle => simp [hcall] at h
      | callGet =>
          refine iff_of_true ?_ (by simp)
          cases success <;> simp only [hcall] at h <;> cases h <;> exact hs
      | writeCache nwStandby =>
          simp only [hcall] at h
          cases h
          simp only [Settled, Fresh, respond, goTo, true_imp_iff, StandbyModeCall.writeCache.injEq,
            forall_eq']
          exact imp_iff_or_not
      | callSet bStandbyMode =>
          refine iff_of_true ?_ (by simp)
          cases success <;> simp only [hcall] at h <;> cases h
          · exact hs
          · exact settled_change bStandbyMode
      | invalidate =>
          simp only [hcall] at h
          cases h
          refine iff_of_true ?_ (by simp)
          intro _ hvalid
          cases hvalid
  | powerManagerChange mode =>
      cases h
      exact iff_of_true (settled_change mode) trivial
  | onNetworkModeChanged =>
      refine iff_of_true ?_ trivial
      simp only [standbyModeStep, onNetworkModeChanged] at h
      cases hu : s.undelivered with
      | nil => simp [hu] at h
      | cons mode undelivered =>
          simp only [hu] at h
          cases h
          intro hnil _
          have hnil : undelivered = [] := hnil
          apply ha
          rw [hu, hnil]
          rfl

/-! ### Runs -/

/-- The cache is right throughout a run, up to notifications on their way, exactly if no getter
writes an overtaken answer. -/
theorem settled_iff_along {as : List StandbyModeAction} (ha : s.Announced) (hs : s.Settled)
    (hr : run standbyModeStep s as = some s') :
    (∀ bs u, bs <+: as → bs ≠ [] → run standbyModeStep s bs = some u → u.Settled) ↔
      Along standbyModeStep WritesCurrent s as := by
  refine always_iff_along (I := fun s => s.Announced ∧ s.Settled) ?_ ?_ ⟨ha, hs⟩ hr
  · intro s a t hi hC h
    exact ⟨announced_step hi.1 h, (settled_step_iff hi.1 hi.2 h).mpr hC⟩
  · intro s a t hi h
    exact settled_step_iff hi.1 hi.2 h

/-- In every state that is reached while no getter writes an overtaken answer, the cache is not
stale once no call is in progress and no notification is undelivered. -/
theorem standby_mode_not_stale (networkStandbyMode powerManagerMode : Bool)
    (h : ReachableBy standbyModeStep WritesCurrent
      { networkStandbyMode := networkStandbyMode, powerManagerMode := powerManagerMode } s)
    (hq : s.Quiescent) : s.Fresh := by
  have hi : s.Announced ∧ s.Settled := by
    refine h.invariant (I := fun s => s.Announced ∧ s.Settled) (fun s a t hi hC hstep => ?_) ?_
    · exact ⟨announced_step hi.1 hstep, (settled_step_iff hi.1 hi.2 hstep).mpr hC⟩
    · constructor
      · intro mode hmode
        cases hmode
      · intro _ hvalid
        cases hvalid
  exact hi.2 hq.2

/-- A notification that comes after the getter has written its answer. -/
theorem standby_mode_not_stale_delivered :
    ∃ s, run standbyModeStep { networkStandbyMode := false, powerManagerMode := false }
        [.getNetworkStandbyMode 0, .proceed 0 true, .powerManagerChange true, .proceed 0 true,
          .onNetworkModeChanged] = some s ∧
      s.networkStandbyModeValid = true ∧ s.networkStandbyMode = true := by
  have hr : run standbyModeStep { networkStandbyMode := false, powerManagerMode := false }
      [.getNetworkStandbyMode 0, .proceed 0 true, .powerManagerChange true, .proceed 0 true,
        .onNetworkModeChanged] = some _ := rfl
  have hC : Along standbyModeStep WritesCurrent
      { networkStandbyMode := false, powerManagerMode := false }
      [.getNetworkStandbyMode 0, .proceed 0 true, .powerManagerChange true, .proceed 0 true,
        .onNetworkModeChanged] := by decide
  refine ⟨_, hr, rfl, ?_⟩
  apply standby_mode_not_stale false false ⟨_, hr, hC⟩ _ rfl
  refine ⟨fun t => ?_, rfl⟩
  simp [readCache, respond, change, goTo]

/-- A notification that comes between the getter's call of PowerManager and its write. -/
theorem standby_mode_stale :
    ∃ s, run standbyModeStep { networkStandbyMode := false, powerManagerMode := false }
        [.getNetworkStandbyMode 0, .proceed 0 true, .powerManagerChange true,
          .onNetworkModeChanged, .proceed 0 true] = some s ∧
      s.Quiescent ∧ ¬ s.Fresh := by
  refine ⟨_, rfl, ⟨fun t => ?_, rfl⟩, fun h => absurd (h rfl) (by decide)⟩
  simp [readCache, respond, change, goTo]

end StandbyModeCache

end DeviceAndDisplay.SystemServices
