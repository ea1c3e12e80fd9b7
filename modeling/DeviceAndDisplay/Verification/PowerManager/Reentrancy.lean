import DeviceAndDisplay.Verification.PowerManager.Listeners
import DeviceAndDisplay.Verification.PowerManager.StackSteps

/-! # Listeners that call back

A listener may call any method of the plugin on the thread that calls it, with two exceptions:
`SetPowerState` while a function below it on the stack holds `selfLock`, and the `Unregister`
that erases the node at which a loop below it, or a submit loop, stands. -/

namespace DeviceAndDisplay.PowerManager

open Transition Storage Implementation

namespace ThreadedPlugin

variable {env : Env} {s s' : ThreadedPlugin} {t : ThreadId} {fs gs rest : List StackFrame}

/-! ### `selfLock` -/

/-- `selfLock` is taken exactly while one function on all stacks is to release it. -/
structure SelfLocked (s : ThreadedPlugin) : Prop where
  async : s.plugin.Async
  guarded : ∀ t, Guarded (s.threads t)
  owner : ∃ owner : Option ThreadId, s.plugin.selfLock = owner.isSome ∧
    ∀ t, (s.threads t).countP StackFrame.holdsSelfLock = if owner = some t then 1 else 0

theorem selfLocked_init (b : Bool) (pc : PowerController) (w : WakeupSrcType → Bool) :
    (init b pc w).SelfLocked where
  async := async_init b pc
  guarded := fun _ => trivial
  owner := ⟨none, rfl, fun _ => rfl⟩

theorem SelfLocked.moves (hs : s.SelfLocked) (h : Moves t s s' fs gs rest) : s'.SelfLocked where
  async := h.async
  guarded := by
    intro u
    rw [h.after]
    rcases eq_or_ne u t with rfl | hu
    · rw [Function.update_self]
      exact h.guarded
    · rw [Function.update_of_ne hu]
      exact hs.guarded u
  owner := by
    obtain ⟨owner, howner, hcount⟩ := hs.owner
    have hbefore := hcount t
    rw [h.before, List.countP_append] at hbefore
    have hother : ∀ u, u ≠ t → (s'.threads u).countP StackFrame.holdsSelfLock =
        if owner = some u then 1 else 0 := by
      intro u hu
      rw [h.after, Function.update_of_ne hu]
      exact hcount u
    have hself : (s'.threads t).countP StackFrame.holdsSelfLock =
        gs.countP StackFrame.holdsSelfLock + rest.countP StackFrame.holdsSelfLock := by
      rw [h.after, Function.update_self, List.countP_append]
    cases h.selfLock with
    | keep hl hc =>
        refine ⟨owner, hl.trans howner, fun u => ?_⟩
        rcases eq_or_ne u t with rfl | hu
        · rw [hself, hc, hbefore]
        · exact hother u hu
    | acquire hl hl' hc =>
        have hnone : owner = none := by
          rw [hl] at howner
          exact Option.isNone_iff_eq_none.mp (by simpa using howner.symm)
        rw [hnone, if_neg (by simp)] at hbefore
        refine ⟨some t, hl', fun u => ?_⟩
        rcases eq_or_ne u t with rfl | hu
        · rw [hself, if_pos rfl]
          omega
        · rw [hother u hu, hnone]
          simp [hu.symm]
    | release hl hc =>
        have howns : owner = some t := by
          by_contra hne
          rw [if_neg hne] at hbefore
          omega
        rw [if_pos howns] at hbefore
        refine ⟨none, hl, fun u => ?_⟩
        rcases eq_or_ne u t with rfl | hu
        · rw [hself, if_neg (by simp)]
          omega
        · rw [hother u hu, howns]
          simp [hu.symm]

/-- The thread is at `selfLock.Lock()`, and only itself could release the lock. -/
def WaitsForItself (t : ThreadId) (s : ThreadedPlugin) : Prop :=
  (∃ newState origin rest, s.threads t = .awaitSelfLock newState origin :: rest) ∧
    s.plugin.selfLock = true ∧
    ∀ u, (∃ f ∈ s.threads u, f.holdsSelfLock = true) → u = t

/-- Another thread has a function that is to release the lock. -/
theorem SelfLocked.not_waitsForItself (hs : s.SelfLocked) : ¬ s.WaitsForItself t := by
  rintro ⟨⟨newState, origin, rest, hstack⟩, hlocked, honly⟩
  obtain ⟨owner, howner, hcount⟩ := hs.owner
  rw [hlocked] at howner
  obtain ⟨u, rfl⟩ := Option.isSome_iff_exists.mp howner.symm
  have hu := hcount u
  rw [if_pos rfl] at hu
  have hholds : ∃ f ∈ s.threads u, f.holdsSelfLock = true := by
    apply List.countP_pos_iff.mp
    omega
  have hut := honly u hholds
  obtain ⟨f, hf, hf'⟩ := hholds
  rw [hut, hstack] at hf
  have hg := hs.guarded t
  rw [hstack] at hg
  rcases List.mem_cons.mp hf with rfl | hf
  · cases hf'
  · rw [hg.1 f hf] at hf'
    cases hf'

/-! ### Loops over the lists -/

theorem node_injective (kind : NotificationKind) (s : ThreadedPlugin) :
    Function.Injective (s.node kind) := by
  intro a b h
  exact congrArg Node.notification h

theorem registration_of_mem_nodes {kind : NotificationKind} {n : Node} (h : n ∈ s.nodes kind) :
    n.registration = s.registrations kind n.notification := by
  obtain ⟨sink, -, rfl⟩ := List.mem_map.mp h
  rfl

theorem register_of_mem {kind : NotificationKind} {sink : Sink}
    (h : sink ∈ (s.plugin.notifications kind).sinks) :
    (s.register kind sink).plugin.notifications = s.plugin.notifications ∧
      (s.register kind sink).registrations = s.registrations := by
  have hl : (s.plugin.notifications kind).register sink =
      (.errorGeneral, s.plugin.notifications kind) := if_pos h
  have hstatus : (s.plugin.register kind sink).1 = .errorGeneral := by
    simp only [Implementation.register, hl]
  constructor
  · simp only [register, register_snd, hl, Function.update_eq_self]
  · simp only [register, hstatus]
    rfl

theorem registrations_register {kind : NotificationKind} {sink : Sink}
    (h : sink ∉ (s.plugin.notifications kind).sinks) :
    (s.register kind sink).registrations = Function.update s.registrations kind
      (Function.update (s.registrations kind) sink (s.registrations kind sink + 1)) := by
  have hl : ((s.plugin.notifications kind).register sink).1 = .errorNone :=
    NotificationList.register_errorNone.mpr h
  have hstatus : (s.plugin.register kind sink).1 = .errorNone := by
    simp only [Implementation.register, hl]
  simp only [register, hstatus, if_true]

/-- Registration counts never go back. -/
theorem registrations_le_register (kind k : NotificationKind) (sink x : Sink) :
    s.registrations k x ≤ (s.register kind sink).registrations k x := by
  by_cases h : sink ∈ (s.plugin.notifications kind).sinks
  · rw [(register_of_mem h).2]
  · rw [registrations_register h]
    rcases eq_or_ne k kind with rfl | hk
    · rw [Function.update_self]
      rcases eq_or_ne x sink with rfl | hx
      · rw [Function.update_self]
        omega
      · rw [Function.update_of_ne hx]
    · rw [Function.update_of_ne hk]

/-- A sink that was not registered gets a new node at the end of the list. -/
theorem nodes_register {kind : NotificationKind} {sink : Sink}
    (h : sink ∉ (s.plugin.notifications kind).sinks) :
    (s.register kind sink).nodes kind =
      s.nodes kind ++ [⟨sink, s.registrations kind sink + 1⟩] := by
  have hl : ((s.plugin.notifications kind).register sink).2.sinks =
      (s.plugin.notifications kind).sinks ++ [sink] := by
    simp [NotificationList.register, h]
  have hlists : ((s.register kind sink).plugin.notifications kind).sinks =
      (s.plugin.notifications kind).sinks ++ [sink] := by
    simp only [register, register_snd, Function.update_self]
    exact hl
  have hold : ∀ x ∈ (s.plugin.notifications kind).sinks,
      (s.register kind sink).node kind x = s.node kind x := by
    intro x hx
    have hne : x ≠ sink := ne_of_mem_of_not_mem hx h
    rw [node, registrations_register h, Function.update_self, Function.update_of_ne hne]
    rfl
  have hnew : (s.register kind sink).node kind sink = ⟨sink, s.registrations kind sink + 1⟩ := by
    rw [node, registrations_register h, Function.update_self, Function.update_self]
  rw [nodes, hlists, List.map_append, List.map_congr_left hold, List.map_singleton, hnew]
  rfl

theorem nodes_register_of_ne {kind k : NotificationKind} {sink : Sink} (hk : k ≠ kind) :
    (s.register kind sink).nodes k = s.nodes k := by
  by_cases h : sink ∈ (s.plugin.notifications kind).sinks
  · exact nodes_congr (register_of_mem h).1 (register_of_mem h).2 k
  · have hlists : (s.register kind sink).plugin.notifications k = s.plugin.notifications k := by
      simp only [register, register_snd, Function.update_of_ne hk]
    have hnode : (s.register kind sink).node k = s.node k := by
      funext x
      rw [node, registrations_register h, Function.update_of_ne hk]
      rfl
    rw [nodes, nodes, hlists, hnode]

theorem nodes_unregister (kind : NotificationKind) (sink : Sink) :
    (s.unregister kind sink).nodes kind = (s.nodes kind).erase (s.node kind sink) := by
  have hlists : ((s.unregister kind sink).plugin.notifications kind).sinks =
      (s.plugin.notifications kind).sinks.erase sink := by
    simp only [unregister, unregister_snd, Function.update_self, NotificationList.unregister]
    split
    · rfl
    · rename_i h
      exact (List.erase_of_not_mem h).symm
  rw [nodes, hlists]
  exact List.map_erase (node_injective kind s) _

theorem nodes_unregister_of_ne {kind k : NotificationKind} {sink : Sink} (hk : k ≠ kind) :
    (s.unregister kind sink).nodes k = s.nodes k := by
  have hlists : (s.unregister kind sink).plugin.notifications k = s.plugin.notifications k := by
    simp only [unregister, unregister_snd, Function.update_of_ne hk]
  rw [nodes, nodes, hlists]
  rfl

/-- A loop stands at a node of its list, and has run its body for nodes that were on it. -/
def Sound (s : ThreadedPlugin) (f : StackFrame) : Prop :=
  ∀ kind it, f.position = some (kind, it) → StandsAt (s.nodes kind) it f.called ∧
    ∀ n ∈ f.called, n.registration ≤ s.registrations kind n.notification

variable {f : StackFrame}

theorem Sound.congr (hf : s.Sound f) (hl : s'.plugin.notifications = s.plugin.notifications)
    (hr : s'.registrations = s.registrations) : s'.Sound f := by
  intro kind it hpos
  rw [nodes_congr hl hr, hr]
  exact hf kind it hpos

theorem Arrives.sound (hnodup : ∀ kind, (s.nodes kind).Nodup) (hfs : ∀ g ∈ fs, s.Sound g)
    (h : s.Arrives fs f) : s.Sound f := by
  intro kind it hpos
  cases h with
  | plain h =>
      rw [h] at hpos
      cases hpos
  | begin h hn hc =>
      rw [h] at hpos
      cases hpos
      have hstands := StandsAt.head (hnodup kind) hn
      rw [hc]
      refine ⟨hstands, fun n hmem => ?_⟩
      rw [List.mem_singleton.mp hmem, registration_of_mem_nodes hstands.mem]
  | next hg hgpos h hn hc =>
      rw [h] at hpos
      cases hpos
      obtain ⟨hstands, hknown⟩ := hfs _ hg _ _ hgpos
      have hnext := hstands.step (hnodup kind) hn
      rw [hc]
      refine ⟨hnext, fun n hmem => ?_⟩
      rcases List.mem_append.mp hmem with hmem | hmem
      · exact hknown n hmem
      · rw [List.mem_singleton.mp hmem, registration_of_mem_nodes hnext.mem]

/-- A registration appends a node that no loop has come to. -/
theorem Sound.register (hf : s.Sound f) (kind : NotificationKind) (sink : Sink) :
    (s.register kind sink).Sound f := by
  intro k it hpos
  obtain ⟨hstands, hknown⟩ := hf k it hpos
  refine ⟨?_, fun n hn => (hknown n hn).trans (registrations_le_register kind k sink _)⟩
  rcases eq_or_ne k kind with rfl | hk
  · by_cases hsink : sink ∈ (s.plugin.notifications k).sinks
    · rw [nodes_congr (register_of_mem hsink).1 (register_of_mem hsink).2]
      exact hstands
    · rw [nodes_register hsink]
      apply hstands.pushBack
      intro hmem
      have hle := hknown _ hmem
      dsimp only at hle
      omega
  · rw [nodes_register_of_ne hk]
    exact hstands

theorem Sound.unregister (hf : s.Sound f) {kind : NotificationKind} {sink : Sink}
    (hpos : f.position ≠ some (kind, s.node kind sink)) : (s.unregister kind sink).Sound f := by
  intro k it hit
  obtain ⟨hstands, hknown⟩ := hf k it hit
  refine ⟨?_, hknown⟩
  rcases eq_or_ne k kind with rfl | hk
  · rw [nodes_unregister]
    apply hstands.erase
    rintro rfl
    exact hpos hit
  · rw [nodes_unregister_of_ne hk]
    exact hstands

/-- Every loop stands at a node of its list, and a dispatch loop holds `_callbackLock`. -/
structure Looping (s : ThreadedPlugin) : Prop where
  counted : ∀ kind, (s.plugin.notifications kind).Counted
  depth : ∀ t, s.callbackLock.depth t = (s.threads t).countP StackFrame.holdsCallbackLock
  loops : ∀ t, ∀ f ∈ s.threads t, s.Sound f

theorem looping_init (b : Bool) (pc : PowerController) (w : WakeupSrcType → Bool) :
    (init b pc w).Looping where
  counted := fun _ => ⟨List.nodup_nil, List.Perm.refl _⟩
  depth := fun _ => rfl
  loops := by simp [init]

theorem Looping.nodup_nodes (hs : s.Looping) (kind : NotificationKind) : (s.nodes kind).Nodup :=
  (hs.counted kind).nodup.map (node_injective kind s)

theorem Looping.depth_moves (hs : s.Looping) (h : Moves t s s' fs gs rest) (u : ThreadId) :
    s'.callbackLock.depth u = (s'.threads u).countP StackFrame.holdsCallbackLock := by
  have hbefore := hs.depth t
  rw [h.before, List.countP_append] at hbefore
  have hself : (s'.threads t).countP StackFrame.holdsCallbackLock =
      gs.countP StackFrame.holdsCallbackLock + rest.countP StackFrame.holdsCallbackLock := by
    rw [h.after, Function.update_self, List.countP_append]
  have hother : u ≠ t → (s'.threads u).countP StackFrame.holdsCallbackLock =
      s.callbackLock.depth u := by
    intro hu
    rw [h.after, Function.update_of_ne hu, hs.depth u]
  cases h.callbackLock with
  | keep hl hc =>
      rw [hl]
      rcases eq_or_ne u t with rfl | hu
      · rw [hself, hbefore, hc]
      · rw [hother hu]
  | lock ha hl hc =>
      rw [hl]
      rcases eq_or_ne u t with rfl | hu
      · rw [RecursiveLock.depth_lock_self, hself, hbefore, hc]
        omega
      · rw [RecursiveLock.depth_lock_of_ne ha hu, hother hu]
  | unlock hl hc =>
      have hpos : 0 < s.callbackLock.depth t := by
        rw [hbefore]
        omega
      rw [hl]
      rcases eq_or_ne u t with rfl | hu
      · rw [RecursiveLock.depth_unlock_self hpos, hself, hbefore]
        omega
      · rw [RecursiveLock.depth_unlock_of_ne hpos hu, hother hu]

/-- Another thread has no dispatch loop while the thread can take `_callbackLock`. -/
theorem Looping.not_dispatching (hs : s.Looping) (ha : s.callbackLock.Available t) {u : ThreadId}
    (hu : u ≠ t) (hf : f ∈ s.threads u) : f.holdsCallbackLock = false := by
  have hdepth := ha.depth_eq_zero hu
  rw [hs.depth u] at hdepth
  simpa using List.countP_eq_zero.mp hdepth f hf

theorem Looping.moves (hs : s.Looping) (h : Moves t s s' fs gs rest) : s'.Looping := by
  have hstack : ∀ u, ∀ f ∈ s'.threads u, f ∈ gs ∨ f ∈ s.threads u := by
    intro u f hf
    rw [h.after] at hf
    rcases eq_or_ne u t with rfl | hu
    · rw [Function.update_self] at hf
      rcases List.mem_append.mp hf with hf | hf
      · exact .inl hf
      · rw [h.before]
        exact .inr (List.mem_append_right fs hf)
    · rw [Function.update_of_ne hu] at hf
      exact .inr hf
  have hfs : ∀ g ∈ fs, s.Sound g := by
    intro g hg
    apply hs.loops t
    rw [h.before]
    exact List.mem_append_left rest hg
  cases h.lists with
  | keep hl hr hgs =>
      refine ⟨by rw [hl]; exact hs.counted, hs.depth_moves h, fun u f hf => ?_⟩
      rcases hstack u f hf with hf | hf
      · exact ((hgs f hf).sound hs.nodup_nodes hfs).congr hl hr
      · exact (hs.loops u f hf).congr hl hr
  | register kind sink hgs heq =>
      refine ⟨fun k => ?_, hs.depth_moves h, fun u f hf => ?_⟩
      · rw [heq]
        simp only [ThreadedPlugin.register, register_snd]
        rcases eq_or_ne k kind with rfl | hk
        · rw [Function.update_self]
          exact (hs.counted k).register sink
        · rw [Function.update_of_ne hk]
          exact hs.counted k
      · rw [heq]
        rcases hstack u f hf with hf | hf
        · rw [hgs] at hf
          cases hf
        · exact (hs.loops u f hf).register kind sink
  | unregister kind sink hgs ha hC heq =>
      refine ⟨fun k => ?_, hs.depth_moves h, fun u f hf => ?_⟩
      · rw [heq]
        simp only [ThreadedPlugin.unregister, unregister_snd]
        rcases eq_or_ne k kind with rfl | hk
        · rw [Function.update_self]
          exact (hs.counted k).unregister sink
        · rw [Function.update_of_ne hk]
          exact hs.counted k
      · rw [heq]
        rcases hstack u f hf with hf | hf
        · rw [hgs] at hf
          cases hf
        · apply (hs.loops u f hf).unregister
          apply hC u f hf
          rcases eq_or_ne u t with hu | hu
          · exact .inl hu
          · exact .inr (hs.not_dispatching ha hu hf)

/-! ### Every run -/

/-- No thread waits for itself, every loop can go on, and a loop that is about to end has run its
body once for every sink on its list, so for every sink that stayed on it. -/
structure CallsBackSafely (s : ThreadedPlugin) : Prop where
  waits : ∀ t, ¬ s.WaitsForItself t
  valid : ∀ t, ∀ f ∈ s.threads t, ∀ kind it, f.position = some (kind, it) → it ∈ s.nodes kind
  once : ∀ t f rest kind it, s.threads t = f :: rest → f.position = some (kind, it) →
    next it (s.nodes kind) = none →
      ∀ sink ∈ (s.plugin.notifications kind).sinks, f.called.count (s.node kind sink) = 1

theorem callsBackSafely_of_invariants (hs : s.SelfLocked) (hl : s.Looping) :
    s.CallsBackSafely where
  waits := fun _ => hs.not_waitsForItself
  valid := fun t f hf kind it hpos => (hl.loops t f hf kind it hpos).1.mem
  once := by
    intro t f rest kind it hstack hpos hn sink hsink
    have hf : f ∈ s.threads t := by
      rw [hstack]
      exact List.mem_cons_self
    apply (hl.loops t f hf kind it hpos).1.count_eq_one (hl.nodup_nodes kind) hn
    exact List.mem_map_of_mem hsink

/-- `SetPowerState` above a function that holds `selfLock` waits for it. -/
theorem SelfLocked.waitsForItself (hs : s.SelfLocked) (hf : f ∈ s.threads t)
    (hself : f.holdsSelfLock = true) (newState : PowerState) (origin : Origin) :
    (s.push t (.awaitSelfLock newState origin)).WaitsForItself t := by
  obtain ⟨owner, howner, hcount⟩ := hs.owner
  have hpos : 0 < (s.threads t).countP StackFrame.holdsSelfLock :=
    List.countP_pos_iff.mpr ⟨f, hf, hself⟩
  have howns : owner = some t := by
    by_contra hne
    rw [hcount t, if_neg hne] at hpos
    omega
  refine ⟨⟨newState, origin, s.threads t, Function.update_self ..⟩, ?_, ?_⟩
  · rw [howns] at howner
    exact howner
  · rintro u ⟨g, hg, hholds⟩
    by_contra hu
    simp only [push, setStack, Function.update_of_ne hu] at hg
    have hzero := hcount u
    rw [howns, if_neg (fun h => hu (Option.some.inj h).symm)] at hzero
    exact List.countP_eq_zero.mp hzero g hg hholds

/-- A call that does not meet the condition leads to a state that is not safe. -/
theorem mayCall_of_callsBackSafely {a : ThreadAction} (hs : s.SelfLocked) (hl : s.Looping)
    (h : threadStep s (env, t, a) = some s') (hsafe : s'.CallsBackSafely) :
    s.MayCall (env, t, a) := by
  cases a with
  | call method =>
      simp only [threadStep] at h
      have hcall : s.callMethod env t method = some s' := by
        split at h
        · exact h
        · exact h
        · cases h
      cases method with
      | setPowerState newState =>
          cases hcall
          intro f hf
          by_contra hself
          have hwaits := hs.waitsForItself hf (by simpa using hself) newState .client
          exact hsafe.waits t hwaits
      | unregister kind sink =>
          simp only [callMethod] at hcall
          split at hcall
          · cases hcall
            intro u f hf _ hpos
            have hmem := hsafe.valid u f hf kind _ hpos
            rw [nodes_unregister] at hmem
            exact (hl.nodup_nodes kind).not_mem_erase hmem
          · cases hcall
      | _ => trivial
  | _ => trivial

/-- Listeners may call back, to any depth and with any other threads in the plugin: every state
of a run is safe exactly when all its calls meet the condition. -/
theorem calls_back_safely_iff {b : Bool} {pc : PowerController} {w : WakeupSrcType → Bool}
    {as : List (Env × ThreadId × ThreadAction)} (hr : run threadStep (init b pc w) as = some s) :
    (∀ bs u, bs <+: as → bs ≠ [] → run threadStep (init b pc w) bs = some u →
      u.CallsBackSafely) ↔ Along threadStep MayCall (init b pc w) as := by
  apply always_iff_along (I := fun s => s.SelfLocked ∧ s.Looping)
  · rintro s ⟨env, t, a⟩ s' ⟨hs, hl⟩ hC h
    obtain ⟨fs, gs, rest, hmoves⟩ := threadStep_moves hs.async (hs.guarded t) hC h
    exact ⟨hs.moves hmoves, hl.moves hmoves⟩
  · rintro s ⟨env, t, a⟩ s' ⟨hs, hl⟩ h
    constructor
    · exact mayCall_of_callsBackSafely hs hl h
    · intro hC
      obtain ⟨fs, gs, rest, hmoves⟩ := threadStep_moves hs.async (hs.guarded t) hC h
      exact callsBackSafely_of_invariants (hs.moves hmoves) (hl.moves hmoves)
  · exact ⟨selfLocked_init b pc w, looping_init b pc w⟩
  · exact hr

/-- Two network standby listeners; the first calls `SetNetworkStandbyMode` from its event, and in
the inner event unregisters the second and registers a third. -/
def nestedCalls : List (Env × ThreadId × ThreadAction) :=
  [.call (.register .networkStandbyModeChanged 1), .call (.register .networkStandbyModeChanged 2),
    .call (.wakeup {} (.setNetworkStandbyMode true)), .proceed,
    .call (.wakeup {} (.setNetworkStandbyMode false)), .proceed,
    .call (.unregister .networkStandbyModeChanged 2),
    .call (.register .networkStandbyModeChanged 3), .returns, .proceed, .returns, .proceed,
    .returns, .proceed, .returns, .proceed].map fun a => ({}, 0, a)

theorem along_nestedCalls :
    Along threadStep MayCall (init false {} fun _ => false) nestedCalls := by
  iterate 6
    refine ⟨trivial, ?_⟩
    rintro _ ⟨⟩
  refine ⟨?_, ?_⟩
  · rintro (_ | u) f hf _
    · revert f
      decide
    · exact absurd hf List.not_mem_nil
  · rintro _ ⟨⟩
    iterate 9
      refine ⟨trivial, ?_⟩
      rintro _ ⟨⟩
    trivial

theorem calls_back_safely_nested :
    Along threadStep MayCall (init false {} fun _ => false) nestedCalls ∧
      ∀ bs u, bs <+: nestedCalls → bs ≠ [] →
        run threadStep (init false {} fun _ => false) bs = some u → u.CallsBackSafely := by
  have hr : run threadStep (init false {} fun _ => false) nestedCalls = some _ := rfl
  exact ⟨along_nestedCalls, (calls_back_safely_iff hr).mpr along_nestedCalls⟩

/-- A listener of `OnPowerModeChanged` without pre-change clients calls `SetPowerState`, and a
listener of `OnNetworkStandbyModeChanged` unregisters itself. -/
theorem calls_back_unsafely :
    (∃ s, Reachable threadStep (init false {} fun _ => false) s ∧ s.WaitsForItself 0) ∧
    ∃ s, Reachable threadStep (init false {} fun _ => false) s ∧
      ∃ f ∈ s.threads 0, ∃ it, f.position = some (.networkStandbyModeChanged, it) ∧
        it ∉ s.nodes .networkStandbyModeChanged := by
  constructor
  · have hr : run threadStep (init false {} fun _ => false)
        ([.call (.register .modeChanged 7), .call (.setPowerState .standby), .proceed, .proceed,
          .proceed, .proceed, .proceed, .proceed, .call (.setPowerState .on)].map
            fun a => ({}, 0, a)) = some _ := rfl
    refine ⟨_, ⟨_, hr⟩, ⟨_, _, _, rfl⟩, rfl, ?_⟩
    rintro (_ | u) ⟨f, hf, -⟩
    · rfl
    · exact absurd hf List.not_mem_nil
  · have hr : run threadStep (init false {} fun _ => false)
        ([.call (.register .networkStandbyModeChanged 7),
          .call (.wakeup {} (.setNetworkStandbyMode true)), .proceed,
          .call (.unregister .networkStandbyModeChanged 7)].map fun a => ({}, 0, a)) =
          some _ := rfl
    refine ⟨_, ⟨_, hr⟩, .dispatch .networkStandbyModeChanged ⟨7, 1⟩ [⟨7, 1⟩], ?_, _, rfl, ?_⟩
    · exact .tail _ (.head _)
    · exact List.not_mem_nil

end ThreadedPlugin

end DeviceAndDisplay.PowerManager
