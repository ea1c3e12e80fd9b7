import DeviceAndDisplay.Model.FrameRate.Statistics
import DeviceAndDisplay.Transition.Run
import Mathlib.Data.List.Induction
import Mathlib.Data.List.Nodup

/-! # Registered sinks

The list of sinks represents the set of the registered ones as long as no sink is registered a
second time; `Register` reports a second time, and lets it happen. -/

namespace DeviceAndDisplay.FrameRate

open Transition

/-- Whether a sink has been registered, and not been unregistered since. -/
def registered (sink : Sink) (done : List NotifierAction) : Bool :=
  done.foldl (fun known action =>
    match action with
    | .register notification => known || notification == sink
    | .unregister notification => known && notification != sink
    | .fps _ | .displayFramerateChange _ _ => known) false

/-- What an action that is an event has to call on each registered sink. -/
def NotifierAction.call : NotifierAction → Option NotificationCall
  | .register _ | .unregister _ => none
  | .fps event => some (.onFpsEvent event.average event.min event.max)
  | .displayFramerateChange .displayFramratePrechange params =>
      some (.onDisplayFrameRateChanging params)
  | .displayFramerateChange .displayFrameratePostchange params =>
      some (.onDisplayFrameRateChanged params)

/-- The promises of `Register` and `Unregister` in a run from an empty list. -/
structure RegisteredOnce (references : Sink → ℕ) (actions : List NotifierAction) : Prop where
  nodup : ∀ done n, done <+: actions → run notifierStep { references } done = some n →
    n.framerateNotification.Nodup
  refused : ∀ done sink n, done ++ [.register sink] <+: actions →
    run notifierStep { references } done = some n → (n.register sink).1 ≠ .errorNone →
    (n.register sink).2 = n
  delivered : ∀ done action n call, done ++ [action] <+: actions →
    run notifierStep { references } done = some n → action.call = some call →
    ∀ sink, (notifierCalls n action).filter (·.1 = sink) =
      if registered sink done then [(sink, call)] else []
  /-- No call reaches a sink between its `Unregister` and its next `Register`. -/
  silent : ∀ done sink between action n m,
    done ++ .unregister sink :: between ++ [action] <+: actions →
    run notifierStep { references } done = some n → (n.unregister sink).1 = .errorNone →
    .register sink ∉ between →
    run notifierStep { references } (done ++ .unregister sink :: between) = some m →
    ∀ call ∈ notifierCalls m action, call.1 ≠ sink

/-- `Register` is called with sinks only that are not registered. -/
def RegistersNewSinks (actions : List NotifierAction) : Prop :=
  ∀ done sink, done ++ [.register sink] <+: actions → registered sink done = false

/-- The list holds each registered sink once. -/
structure Consistent (done : List NotifierAction) (n : Notifier) : Prop where
  nodup : n.framerateNotification.Nodup
  mem : ∀ sink, sink ∈ n.framerateNotification ↔ registered sink done = true

/-! ### Histories -/

theorem registered_append (sink : Sink) (done : List NotifierAction) (action : NotifierAction) :
    registered sink (done ++ [action]) =
      match action with
      | .register notification => registered sink done || notification == sink
      | .unregister notification => registered sink done && notification != sink
      | .fps _ | .displayFramerateChange _ _ => registered sink done := by
  rw [registered, List.foldl_append]
  rfl

theorem registersNewSinks_append {done : List NotifierAction} {action : NotifierAction} :
    RegistersNewSinks (done ++ [action]) ↔ RegistersNewSinks done ∧
      ∀ sink, action = .register sink → registered sink done = false := by
  constructor
  · intro h
    refine ⟨fun done' sink hinit => h done' sink (hinit.trans (List.prefix_append _ _)), ?_⟩
    rintro sink rfl
    exact h done sink (List.prefix_rfl)
  · rintro ⟨hdone, haction⟩ done' sink hinit
    rcases List.prefix_concat_iff.mp hinit with heq | hinit
    · obtain ⟨rfl, hlast⟩ := List.append_inj' heq rfl
      exact haction sink (List.singleton_injective hlast).symm
    · exact hdone done' sink hinit

theorem RegistersNewSinks.mono {done actions : List NotifierAction}
    (h : RegistersNewSinks actions) (hinit : done <+: actions) : RegistersNewSinks done :=
  fun done' sink hdone => h done' sink (hdone.trans hinit)

/-- A sink that is not registered again stays unregistered. -/
theorem registered_unregister {sink : Sink} {done between : List NotifierAction}
    (h : .register sink ∉ between) :
    registered sink (done ++ .unregister sink :: between) = false := by
  induction between using List.reverseRecOn with
  | nil => simp [registered_append]
  | append_singleton between action ih =>
      have hbetween : .register sink ∉ between := fun hmem =>
        h (List.mem_append_left _ hmem)
      rw [← List.cons_append, ← List.append_assoc, registered_append, ih hbetween]
      cases action with
      | register notification =>
          have hne : notification ≠ sink := by
            rintro rfl
            exact h (List.mem_append_right _ List.mem_cons_self)
          simpa using hne
      | unregister | fps | displayFramerateChange => rfl

/-! ### Steps -/

theorem exists_run (n : Notifier) (actions : List NotifierAction) :
    ∃ m, run notifierStep n actions = some m := by
  induction actions generalizing n with
  | nil => exact ⟨n, rfl⟩
  | cons action actions ih =>
      cases action with
      | register | unregister | fps | displayFramerateChange => exact ih _

theorem Consistent.step {done : List NotifierAction} {n m : Notifier} {action : NotifierAction}
    (h : Consistent done n)
    (hnew : ∀ sink, action = .register sink → registered sink done = false)
    (hstep : notifierStep n action = some m) : Consistent (done ++ [action]) m := by
  cases action with
  | register notification =>
      cases hstep
      have hmem : notification ∉ n.framerateNotification := by
        rw [h.mem, hnew notification rfl]
        decide
      refine ⟨?_, fun sink => ?_⟩
      · exact h.nodup.append (List.nodup_singleton _)
          (List.disjoint_singleton.mpr hmem)
      · rw [registered_append]
        simp only [Notifier.register, List.mem_append, List.mem_singleton, h.mem, Bool.or_eq_true,
          beq_iff_eq]
        rw [eq_comm (a := sink)]
  | unregister notification =>
      cases hstep
      rw [Notifier.unregister]
      split
      · refine ⟨h.nodup.erase _, fun sink => ?_⟩
        rw [registered_append, h.nodup.mem_erase_iff, h.mem]
        simp only [Bool.and_eq_true, bne_iff_ne, ne_eq]
        rw [and_comm, eq_comm (a := sink)]
      · rename_i hmem
        refine ⟨h.nodup, fun sink => ?_⟩
        simp only [registered_append, Bool.and_eq_true, bne_iff_ne, ne_eq, h.mem]
        refine ⟨fun hsink => ⟨hsink, ?_⟩, And.left⟩
        rintro rfl
        exact hmem ((h.mem notification).mpr hsink)
  | fps | displayFramerateChange =>
      cases hstep
      exact ⟨h.nodup, fun sink => by rw [registered_append]; exact h.mem sink⟩

theorem consistent_of_run {references : Sink → ℕ} {done : List NotifierAction} {n : Notifier}
    (h : RegistersNewSinks done) (hrun : run notifierStep { references } done = some n) :
    Consistent done n := by
  induction done using List.reverseRecOn generalizing n with
  | nil =>
      cases hrun
      exact ⟨List.nodup_nil, fun sink => by simp [registered]⟩
  | append_singleton done action ih =>
      obtain ⟨hdone, hnew⟩ := registersNewSinks_append.mp h
      rw [run_append, Option.bind_eq_some_iff] at hrun
      obtain ⟨m, hm, hstep⟩ := hrun
      rw [run_singleton] at hstep
      exact (ih hdone hm).step hnew hstep

/-! ### Deliveries -/

theorem notifierCalls_eq {action : NotifierAction} {call : NotificationCall}
    (h : action.call = some call) (n : Notifier) : notifierCalls n action = n.dispatch call := by
  cases action with
  | register | unregister => cases h
  | fps event =>
      cases h
      rfl
  | displayFramerateChange event params =>
      cases event <;> cases h <;> rfl

theorem filter_dispatch {done : List NotifierAction} {n : Notifier} (h : Consistent done n)
    (call : NotificationCall) (sink : Sink) :
    (n.dispatch call).filter (·.1 = sink) =
      if registered sink done then [(sink, call)] else [] := by
  have hfilter : (n.dispatch call).filter (·.1 = sink) =
      (n.framerateNotification.filter (· = sink)).map fun index => (index, call) := by
    rw [Notifier.dispatch, List.filter_map]
    rfl
  rw [hfilter, List.filter_eq]
  by_cases hmem : sink ∈ n.framerateNotification
  · rw [List.count_eq_one_of_mem h.nodup hmem, if_pos ((h.mem sink).mp hmem)]
    rfl
  · rw [List.count_eq_zero_of_not_mem hmem, if_neg (mt (h.mem sink).mpr hmem)]
    rfl

theorem call_of_mem_notifierCalls {n : Notifier} {action : NotifierAction}
    {call : Sink × NotificationCall} (h : call ∈ notifierCalls n action) :
    call.1 ∈ n.framerateNotification := by
  cases action with
  | register | unregister => cases h
  | fps event =>
      obtain ⟨sink, hsink, rfl⟩ := List.mem_map.mp h
      exact hsink
  | displayFramerateChange event params =>
      cases event <;>
        · obtain ⟨sink, hsink, rfl⟩ := List.mem_map.mp h
          exact hsink

/-! ### Runs -/

theorem registeredOnce_of_registersNewSinks (references : Sink → ℕ)
    {actions : List NotifierAction} (h : RegistersNewSinks actions) :
    RegisteredOnce references actions where
  nodup := fun done n hinit hrun => (consistent_of_run (h.mono hinit) hrun).nodup
  refused := by
    intro done sink n hinit hrun hstatus
    have hdone : RegistersNewSinks done := h.mono ((List.prefix_append _ _).trans hinit)
    have hnew := h done sink hinit
    have hmem : sink ∉ n.framerateNotification := by
      rw [(consistent_of_run hdone hrun).mem, hnew]
      decide
    exact absurd (if_neg hmem) hstatus
  delivered := by
    intro done action n call hinit hrun hcall sink
    have hdone : RegistersNewSinks done := h.mono ((List.prefix_append _ _).trans hinit)
    rw [notifierCalls_eq hcall, filter_dispatch (consistent_of_run hdone hrun)]
  silent := by
    rintro done sink between action n m hinit - - hbetween hrun call hcall rfl
    have hdone := h.mono ((List.prefix_append _ _).trans hinit)
    have hmem := call_of_mem_notifierCalls hcall
    rw [(consistent_of_run hdone hrun).mem, registered_unregister hbetween] at hmem
    cases hmem

/-- The promises are kept in exactly the runs that register no sink a second time. -/
theorem registeredOnce_iff (references : Sink → ℕ) (actions : List NotifierAction) :
    RegisteredOnce references actions ↔ RegistersNewSinks actions := by
  refine ⟨fun h => ?_, registeredOnce_of_registersNewSinks references⟩
  have hdone : ∀ done, done <+: actions → RegistersNewSinks done := by
    intro done hinit
    induction done using List.reverseRecOn with
    | nil => exact fun done sink hnil => by simp at hnil
    | append_singleton done action ih =>
        have hdone := ih ((List.prefix_append _ _).trans hinit)
        refine registersNewSinks_append.mpr ⟨hdone, ?_⟩
        rintro sink rfl
        obtain ⟨n, hrun⟩ := exists_run { references } done
        by_contra hregistered
        -- the sink is in the list, so the call is refused, and yet the list is longer
        have hmem : sink ∈ n.framerateNotification :=
          ((consistent_of_run hdone hrun).mem sink).mpr (by simpa using hregistered)
        have hstatus : (n.register sink).1 ≠ .errorNone := by
          simp [Notifier.register, hmem]
        have hlist := congrArg (List.length ∘ Notifier.framerateNotification)
          (h.refused done sink n hinit hrun hstatus)
        simp [Notifier.register] at hlist
  exact hdone actions List.prefix_rfl

/-- The second `Register` of sink 7 is refused; the sink then gets the event twice. -/
theorem not_registeredOnce_twice :
    ¬ RegisteredOnce (fun _ => 1) [.register 7, .register 7, .fps ⟨30, 20, 60⟩] := by
  intro h
  have hcalls := h.delivered [.register 7, .register 7] (.fps ⟨30, 20, 60⟩) _ _ List.prefix_rfl
    rfl rfl 7
  revert hcalls
  decide

end DeviceAndDisplay.FrameRate
