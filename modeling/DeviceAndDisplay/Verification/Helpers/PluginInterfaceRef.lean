import DeviceAndDisplay.Model.Helpers.PluginInterfaceRef
import DeviceAndDisplay.Transition.Ownership
import DeviceAndDisplay.Transition.Run

/-! # Ownership of plugin interfaces

Each interface has one owner until it is released, apart from those that a move assignment
overwrites: nobody owns them any more, and nobody releases them. -/

namespace DeviceAndDisplay.Helpers

open Transition

namespace PluginInterfaces

variable {s t : PluginInterfaces} {op : RefOperation} {ops : List RefOperation} {ref other a : ℕ}

/-- The interface that a reference owns. -/
def owner (s : PluginInterfaces) (ref : ℕ) : InterfacePtr := (s.refs ref).join

/-- An interface has at most one owner all the time, and has been released once when no reference
is left. -/
structure ReleasedOnce (ops : List RefOperation) : Prop where
  exclusive : ∀ before s, before <+: ops → run step {} before = some s → Exclusive s.owner
  released : ∀ t, run step {} ops = some t → (∀ ref, t.refs ref = none) →
    ∀ a < t.acquired, t.released a = 1

/-- A reference that another one is move assigned to is empty. -/
def KeepsInterface (s : PluginInterfaces) (op : RefOperation) : Prop :=
  ∀ ref other, op = .moveAssign ref other → ref ≠ other → s.owner ref = none

/-- An interface that is owned has not been released. -/
structure Ownership (s : PluginInterfaces) : Prop where
  exclusive : Exclusive s.owner
  lt : ∀ a, Owned s.owner a → a < s.acquired
  unreleased : ∀ a, Owned s.owner a → s.released a = 0
  beyond : ∀ a, s.acquired ≤ a → s.released a = 0

/-- Every interface is owned or has been released once. -/
def NoLeak (s : PluginInterfaces) : Prop :=
  ∀ a < s.acquired, Owned s.owner a ∨ s.released a = 1

/-! ### The changes of a step -/

theorem owner_setRef (ref : ℕ) (content : Option InterfacePtr) (s : PluginInterfaces) :
    (s.setRef ref content).owner = Function.update s.owner ref content.join := by
  funext other
  unfold owner setRef
  by_cases hother : other = ref
  · subst hother
    simp
  · simp [hother]

theorem owner_release (interface : InterfacePtr) (s : PluginInterfaces) :
    (s.release interface).owner = s.owner := by
  cases interface <;> rfl

theorem acquired_release (interface : InterfacePtr) (s : PluginInterfaces) :
    (s.release interface).acquired = s.acquired := by
  cases interface <;> rfl

theorem released_release (interface : InterfacePtr) (s : PluginInterfaces) (a : ℕ) :
    (s.release interface).released a =
      if interface = some a then s.released a + 1 else s.released a := by
  cases interface with
  | none => rfl
  | some released =>
      by_cases ha : released = a
      · subst ha
        simp [release]
      · simp [release, ha, Function.update_of_ne (Ne.symm ha)]

/-- The owners stay the same. -/
theorem Ownership.same (h : Ownership s) (howner : t.owner = s.owner)
    (hacquired : t.acquired = s.acquired) (hreleased : t.released = s.released) :
    Ownership t ∧ (NoLeak t ↔ NoLeak s) := by
  refine ⟨⟨?_, ?_, ?_, ?_⟩, ?_⟩
  · rw [howner]
    exact h.exclusive
  · rw [howner, hacquired]
    exact h.lt
  · rw [howner, hreleased]
    exact h.unreleased
  · rw [hacquired, hreleased]
    exact h.beyond
  · unfold NoLeak
    rw [howner, hacquired, hreleased]

/-- A reference gets an interface that a query returned. -/
theorem Ownership.acquire (h : Ownership s) (hempty : s.owner ref = none)
    (howner : t.owner = Function.update s.owner ref (some s.acquired))
    (hacquired : t.acquired = s.acquired + 1) (hreleased : t.released = s.released) :
    Ownership t ∧ (NoLeak t ↔ NoLeak s) := by
  have hnew : ¬ Owned s.owner s.acquired := fun howned => Nat.lt_irrefl _ (h.lt _ howned)
  have howned : ∀ a, Owned t.owner a ↔ a = s.acquired ∨ Owned s.owner a := by
    intro a
    rw [howner, h.exclusive.owned_update_some, hempty]
    simp
  refine ⟨⟨?_, fun a ha => ?_, fun a ha => ?_, fun a ha => ?_⟩, ?_⟩
  · rw [howner]
    exact h.exclusive.update_some hnew ref
  · rw [hacquired]
    rcases (howned a).mp ha with rfl | ha
    · exact Nat.lt_succ_self _
    · exact Nat.lt_succ_of_lt (h.lt a ha)
  · rw [hreleased]
    rcases (howned a).mp ha with rfl | ha
    · exact h.beyond _ (Nat.le_refl _)
    · exact h.unreleased a ha
  · rw [hreleased]
    exact h.beyond a (by omega)
  · unfold NoLeak
    simp only [howned, hacquired, hreleased]
    constructor
    · intro hall a ha
      rcases hall a (by omega) with (rfl | howned) | hreleased
      · exact absurd ha (Nat.lt_irrefl _)
      · exact .inl howned
      · exact .inr hreleased
    · intro hall a ha
      by_cases heq : a = s.acquired
      · exact .inl (.inl heq)
      · rcases hall a (by omega) with howned | hreleased
        · exact .inl (.inr howned)
        · exact .inr hreleased

/-- An interface goes to another reference. What that one had is not released. -/
theorem Ownership.transfer (h : Ownership s) (hne : ref ≠ other)
    (howner : t.owner = Transition.transfer s.owner other ref)
    (hacquired : t.acquired = s.acquired) (hreleased : t.released = s.released) :
    Ownership t ∧ (NoLeak t ↔ NoLeak s ∧ s.owner ref = none) := by
  have howned : ∀ a, Owned t.owner a ↔ Owned s.owner a ∧ s.owner ref ≠ some a := by
    intro a
    rw [howner, h.exclusive.owned_transfer hne]
  refine ⟨⟨?_, fun a ha => ?_, fun a ha => ?_, ?_⟩, ?_⟩
  · rw [howner]
    exact h.exclusive.transfer other ref
  · rw [hacquired]
    exact h.lt a ((howned a).mp ha).1
  · rw [hreleased]
    exact h.unreleased a ((howned a).mp ha).1
  · rw [hacquired, hreleased]
    exact h.beyond
  · unfold NoLeak
    simp only [howned, hacquired, hreleased]
    constructor
    · intro hall
      refine ⟨fun a ha => (hall a ha).imp And.left id, ?_⟩
      cases hcontent : s.owner ref with
      | none => rfl
      | some lost =>
          have hlost : Owned s.owner lost := ⟨ref, hcontent⟩
          have hzero := h.unreleased lost hlost
          rcases hall lost (h.lt lost hlost) with ⟨_, hkept⟩ | hone
          · exact absurd hcontent hkept
          · omega
    · intro hboth a ha
      obtain ⟨hall, hempty⟩ := hboth
      rcases hall a ha with howned | hone
      · exact .inl ⟨howned, by rw [hempty]; simp⟩
      · exact .inr hone

/-- A reference releases its interface. -/
theorem Ownership.release (h : Ownership s) (howner : t.owner = Function.update s.owner ref none)
    (hacquired : t.acquired = s.acquired)
    (hreleased : t.released = (s.release (s.owner ref)).released) :
    Ownership t ∧ (NoLeak t ↔ NoLeak s) := by
  have howned : ∀ a, Owned t.owner a ↔ Owned s.owner a ∧ s.owner ref ≠ some a := by
    intro a
    rw [howner, h.exclusive.owned_update_none]
  refine ⟨⟨?_, fun a ha => ?_, fun a ha => ?_, fun a ha => ?_⟩, ?_⟩
  · rw [howner]
    exact h.exclusive.update_none ref
  · rw [hacquired]
    exact h.lt a ((howned a).mp ha).1
  · obtain ⟨ha, hne⟩ := (howned a).mp ha
    rw [hreleased, released_release, if_neg hne]
    exact h.unreleased a ha
  · have hne : s.owner ref ≠ some a := by
      intro hcontent
      have hlt := h.lt a ⟨ref, hcontent⟩
      omega
    rw [hreleased, released_release, if_neg hne]
    exact h.beyond a (by omega)
  · unfold NoLeak
    rw [hacquired]
    apply forall₂_congr
    intro a ha
    rw [howned, hreleased, released_release]
    by_cases hcontent : s.owner ref = some a
    · have hmine : Owned s.owner a := ⟨ref, hcontent⟩
      simp [hcontent, hmine, h.unreleased a hmine]
    · simp [hcontent]

/-! ### Steps -/

theorem owner_of_refs_eq_none (h : s.refs ref = none) : s.owner ref = none := by
  rw [owner, h]
  rfl

theorem owner_of_refs_eq_some {interface : InterfacePtr} (h : s.refs ref = some interface) :
    s.owner ref = interface := by
  rw [owner, h]
  rfl

theorem query_cases (builder : PluginInterfaceBuilder) (s : PluginInterfaces) :
    s.query builder = (some s.acquired, { s with acquired := s.acquired + 1 }) ∨
      s.query builder = (none, s) := by
  unfold query
  split
  · exact .inl rfl
  · exact .inr rfl

theorem createInterface_cases (ref : ℕ) (builder : PluginInterfaceBuilder)
    (s : PluginInterfaces) :
    s.createInterface ref builder =
        ({ s with acquired := s.acquired + 1 } : PluginInterfaces).setRef ref
          (some (some s.acquired)) ∨
      s.createInterface ref builder = s.setRef ref (some none) := by
  unfold createInterface
  rcases query_cases builder s with heq | heq
  · rw [heq]
    exact .inl rfl
  · rw [heq]
    exact .inr rfl

theorem step_construct :
    s.step (.construct ref) = some t ↔ s.refs ref = none ∧ t = s.setRef ref (some none) := by
  cases href : s.refs ref <;> simp [step, href, eq_comm]

theorem step_createInterface {builder : PluginInterfaceBuilder} :
    s.step (.createInterface ref builder) = some t ↔
      s.refs ref = none ∧ t = s.createInterface ref builder := by
  cases href : s.refs ref <;> simp [step, href, eq_comm]

theorem step_moveConstruct :
    s.step (.moveConstruct ref other) = some t ↔
      s.refs ref = none ∧ ∃ interface, s.refs other = some interface ∧
        t = (s.setRef other (some none)).setRef ref (some interface) := by
  cases href : s.refs ref <;> cases hother : s.refs other <;>
    simp [step, href, hother, moved, eq_comm]

theorem step_moveAssign :
    s.step (.moveAssign ref other) = some t ↔
      (s.refs ref).isSome ∧ ∃ interface, s.refs other = some interface ∧
        t = if ref = other then s
          else (s.setRef ref (some interface)).setRef other (some none) := by
  cases href : s.refs ref with
  | none => simp [step, href]
  | some old =>
      cases hother : s.refs other with
      | none => simp [step, href, hother]
      | some interface =>
          simp only [step, href, hother, Option.isSome_some, true_and, Option.some_inj,
            exists_eq_left']
          by_cases hsame : ref = other
          · simp [hsame, eq_comm]
          · simp [hsame, eq_comm]

theorem step_reset :
    s.step (.reset ref) = some t ↔
      ∃ interface, s.refs ref = some interface ∧
        t = (s.release interface).setRef ref (some none) := by
  cases href : s.refs ref <;> simp [step, href, eq_comm]

theorem step_destroy :
    s.step (.destroy ref) = some t ↔
      ∃ interface, s.refs ref = some interface ∧ t = (s.release interface).setRef ref none := by
  cases href : s.refs ref <;> simp [step, href, eq_comm]

theorem Ownership.construct (h : Ownership s) (hnone : s.refs ref = none) :
    Ownership (s.setRef ref (some none)) ∧ (NoLeak (s.setRef ref (some none)) ↔ NoLeak s) := by
  refine h.same ?_ rfl rfl
  rw [owner_setRef, Function.update_eq_self_iff, owner_of_refs_eq_none hnone]
  rfl

theorem Ownership.createInterface (h : Ownership s) (hnone : s.refs ref = none)
    (builder : PluginInterfaceBuilder) :
    Ownership (s.createInterface ref builder) ∧
      (NoLeak (s.createInterface ref builder) ↔ NoLeak s) := by
  rcases createInterface_cases ref builder s with heq | heq
  · rw [heq]
    exact h.acquire (owner_of_refs_eq_none hnone) (owner_setRef ref _ _) rfl rfl
  · rw [heq]
    exact h.construct hnone

theorem Ownership.moveConstruct (h : Ownership s) {interface : InterfacePtr}
    (hnone : s.refs ref = none) (hsome : s.refs other = some interface) :
    Ownership ((s.setRef other (some none)).setRef ref (some interface)) ∧
      (NoLeak ((s.setRef other (some none)).setRef ref (some interface)) ↔ NoLeak s) := by
  have hne : ref ≠ other := by
    intro heq
    rw [heq, hsome] at hnone
    cases hnone
  have howner : ((s.setRef other (some none)).setRef ref (some interface)).owner =
      Transition.transfer s.owner other ref := by
    rw [owner_setRef, owner_setRef, Transition.transfer, owner_of_refs_eq_some hsome]
    rfl
  have hboth := h.transfer hne howner rfl rfl
  rwa [and_iff_left (owner_of_refs_eq_none hnone)] at hboth

theorem Ownership.moveAssign (h : Ownership s) {interface : InterfacePtr} (hne : ref ≠ other)
    (hsome : s.refs other = some interface) :
    Ownership ((s.setRef ref (some interface)).setRef other (some none)) ∧
      (NoLeak ((s.setRef ref (some interface)).setRef other (some none)) ↔
        NoLeak s ∧ s.owner ref = none) := by
  refine h.transfer hne ?_ rfl rfl
  rw [owner_setRef, owner_setRef, Function.update_comm hne, Transition.transfer,
    owner_of_refs_eq_some hsome]
  rfl

theorem Ownership.reset (h : Ownership s) {interface : InterfacePtr}
    (hsome : s.refs ref = some interface) (content : Option InterfacePtr)
    (hcontent : content.join = none) :
    Ownership ((s.release interface).setRef ref content) ∧
      (NoLeak ((s.release interface).setRef ref content) ↔ NoLeak s) := by
  have howner : ((s.release interface).setRef ref content).owner =
      Function.update s.owner ref none := by
    rw [owner_setRef, owner_release, hcontent]
  refine h.release howner (acquired_release interface s) ?_
  rw [owner_of_refs_eq_some hsome]
  rfl

theorem keepsInterface_of_ne (h : ∀ ref other, op ≠ .moveAssign ref other) : KeepsInterface s op :=
  fun ref other hop => absurd hop (h ref other)

theorem keepsInterface_moveAssign :
    KeepsInterface s (.moveAssign ref other) ↔ (ref ≠ other → s.owner ref = none) := by
  constructor
  · intro h
    exact h ref other rfl
  · intro h ref' other' hop hne
    cases hop
    exact h hne

/-- What a step does to the owners, and when it leaks an interface. -/
theorem Ownership.step (h : Ownership s) (ht : s.step op = some t) :
    Ownership t ∧ (NoLeak t ↔ NoLeak s ∧ KeepsInterface s op) := by
  cases op with
  | construct ref =>
      obtain ⟨hnone, rfl⟩ := step_construct.mp ht
      rw [and_iff_left (keepsInterface_of_ne (by simp))]
      exact h.construct hnone
  | createInterface ref builder =>
      obtain ⟨hnone, rfl⟩ := step_createInterface.mp ht
      rw [and_iff_left (keepsInterface_of_ne (by simp))]
      exact h.createInterface hnone builder
  | moveConstruct ref other =>
      obtain ⟨hnone, interface, hsome, rfl⟩ := step_moveConstruct.mp ht
      rw [and_iff_left (keepsInterface_of_ne (by simp))]
      exact h.moveConstruct hnone hsome
  | moveAssign ref other =>
      obtain ⟨_, interface, hsome, rfl⟩ := step_moveAssign.mp ht
      rw [keepsInterface_moveAssign]
      by_cases hne : ref = other
      · rw [if_pos hne, and_iff_left fun h => absurd hne h]
        exact ⟨h, Iff.rfl⟩
      · rw [if_neg hne]
        simpa [hne] using h.moveAssign hne hsome
  | reset ref =>
      obtain ⟨interface, hsome, rfl⟩ := step_reset.mp ht
      rw [and_iff_left (keepsInterface_of_ne (by simp))]
      exact h.reset hsome (some none) rfl
  | destroy ref =>
      obtain ⟨interface, hsome, rfl⟩ := step_destroy.mp ht
      rw [and_iff_left (keepsInterface_of_ne (by simp))]
      exact h.reset hsome none rfl

/-! ### Programs -/

theorem ownership_empty : Ownership {} := by
  have hnone : ∀ a, ¬ Owned ({} : PluginInterfaces).owner a := by
    intro a h
    obtain ⟨ref, href⟩ := h
    cases href
  exact ⟨fun _ _ _ h => (nomatch h), fun a h => absurd h (hnone a), fun a h => absurd h (hnone a),
    fun _ _ => rfl⟩

theorem noLeak_empty : NoLeak {} := fun a ha => absurd ha (Nat.not_lt_zero a)

theorem ownership_of_run (hrun : run step {} ops = some t) : Ownership t :=
  Reachable.invariant (fun _ _ _ h ht => (h.step ht).1) ownership_empty ⟨ops, hrun⟩

/-- An interface is leaked by a move assignment onto a reference that has one, and by nothing
else. -/
theorem noLeak_iff_along (hrun : run step {} ops = some t) :
    NoLeak t ↔ Along step KeepsInterface {} ops := by
  have hiff := run_iff_along (D := fun _ => True) (I := Ownership) (P := NoLeak)
    (fun _ _ _ h _ ht => (h.step ht).1) (fun _ _ _ h _ ht => (h.step ht).2) ownership_empty
    (fun _ _ => trivial) hrun
  rwa [and_iff_right noLeak_empty] at hiff

theorem noLeak_iff_released (hdestroyed : ∀ ref, t.refs ref = none) :
    NoLeak t ↔ ∀ a < t.acquired, t.released a = 1 := by
  have hnone : ∀ a, ¬ Owned t.owner a := by
    intro a h
    obtain ⟨ref, href⟩ := h
    rw [owner_of_refs_eq_none (hdestroyed ref)] at href
    cases href
  simp [NoLeak, hnone]

/-- A program that destroys all its references releases each interface once exactly if no reference
that has an interface is move assigned to. -/
theorem released_once_iff (ops : List RefOperation) (t : PluginInterfaces)
    (hrun : run step {} ops = some t) (hdestroyed : ∀ ref, t.refs ref = none) :
    ReleasedOnce ops ↔ Along step KeepsInterface {} ops := by
  rw [← noLeak_iff_along hrun, noLeak_iff_released hdestroyed]
  constructor
  · intro h
    exact h.released t hrun hdestroyed
  · intro hreleased
    refine ⟨fun before s _ hbefore => (ownership_of_run hbefore).exclusive, fun u hu _ => ?_⟩
    rw [hrun] at hu
    cases hu
    exact hreleased

/-! ### An assignment onto a reference that has an interface -/

/-- The first query returns an interface. -/
def available : PluginInterfaceBuilder := {
  hasController := true
  retryCount := 0
  queries := fun _ => true }

/-- One reference is assigned to another, and both have an interface. -/
def overwriting : List RefOperation :=
  [.createInterface 0 available, .createInterface 1 available, .moveAssign 0 1, .destroy 0,
    .destroy 1]

/-- Nobody has released the interface that the first reference had. -/
theorem not_releasedOnce_overwriting : ¬ ReleasedOnce overwriting := by
  intro h
  have hreleased := h.released _ rfl ?_ 0 ?_
  · cases hreleased
  · intro ref
    match ref with
    | 0 => rfl
    | 1 => rfl
    | _ + 2 => rfl
  · exact Nat.zero_lt_two

/-- The interface is moved to a reference that is empty. -/
def moving : List RefOperation :=
  [.construct 0, .createInterface 1 available, .moveAssign 0 1, .destroy 1, .destroy 0]

theorem released_once_iff_moving :
    ReleasedOnce moving ↔ Along step KeepsInterface {} moving := by
  refine released_once_iff moving _ rfl fun ref => ?_
  match ref with
  | 0 => rfl
  | 1 => rfl
  | _ + 2 => rfl

end PluginInterfaces

end DeviceAndDisplay.Helpers
