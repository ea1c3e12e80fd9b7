import DeviceAndDisplay.Model.PowerManager.CallStacks
import DeviceAndDisplay.Verification.PowerManager.Steps

/-! # The functions on a call stack

What the parts of the cut functions do to `selfLock`, to the notification lists and to the
handlers that are stored, and what they do together when every listener just returns. -/

namespace DeviceAndDisplay.PowerManager

open Transition Storage

/-! ### Stored handlers -/

namespace AckController

variable {H : Type} {c c' : AckController H}

theorem of_mem_callHandler {isTimedout isRevoked : Bool} {call : HandlerCall H}
    (h : call ∈ c.callHandler isTimedout isRevoked) :
    c.handler = some call.handler ∧ call.isRevoked = isRevoked := by
  obtain ⟨handler, hh, rfl⟩ := Option.map_eq_some_iff.mp h
  exact ⟨hh, rfl⟩

/-- An acknowledgement keeps the handler, and does not abort it. -/
theorem ack_handler (clientId : ClientId) (transactionId : TransactionId) (c : AckController H) :
    (c.ack clientId transactionId).2.1.handler = c.handler ∧
      ∀ call ∈ (c.ack clientId transactionId).2.2,
        c.handler = some call.handler ∧ call.isRevoked = false := by
  by_cases h : c.IsLastAck clientId transactionId
  · obtain ⟨hcall, hs⟩ := ack_last_stopped h
    rw [hcall]
    exact ⟨hs.handler, fun call hmem => of_mem_callHandler hmem⟩
  · obtain ⟨hnone, hk, -⟩ := ack_not_last_kept h
    rw [hnone]
    exact ⟨hk.handler, by simp⟩

theorem timerRun_handler {handlerCall : Option (HandlerCall H)}
    (h : c.timerRun = some (c', handlerCall)) :
    c'.handler = c.handler ∧
      ∀ call ∈ handlerCall, c.handler = some call.handler ∧ call.isRevoked = false := by
  obtain ⟨-, ⟨-, rfl, hk⟩ | ⟨rfl, hs⟩⟩ := timerRun_cases h
  · exact ⟨hk.handler, by simp⟩
  · exact ⟨hs.handler, fun call hmem => of_mem_callHandler hmem⟩

/-- The handler that the controller stores does not release `selfLock`. -/
def IsAsync (c : PreModeChangeController) : Prop :=
  ∀ h ∈ c.handler, h.isSync = false

theorem IsAsync.congr {c c' : PreModeChangeController} (hc : c.IsAsync)
    (h : c'.handler = c.handler) : c'.IsAsync := by
  unfold IsAsync
  rw [h]
  exact hc

end AckController

namespace Implementation

variable {env : Env} {m m' m₀ : Implementation}

/-- A stored handler belongs to a call that released `selfLock` itself. -/
structure Async (m : Implementation) : Prop where
  stored : ∀ c ∈ m.modeChangeController, c.IsAsync
  cancelled : ∀ c ∈ m.cancelledControllers, c.IsAsync
  call : ∀ call ∈ m.call, call.phase = .tested ∨ call.phase = .armed → call.isSync = false

theorem async_init (b : Bool) (pc : PowerController) : (init b pc).Async := by
  constructor <;> simp [init]

/-- A part of a function that keeps `selfLock` and the notification lists. -/
structure Calm (m m' : Implementation) : Prop where
  async : m'.Async
  selfLock : m'.selfLock = m.selfLock
  notifications : m'.notifications = m.notifications

/-- The last part of a `SetPowerState` call. -/
structure Returned (m m' : Implementation) : Prop where
  async : m'.Async
  selfLock : m'.selfLock = false
  call : m'.call = none
  notifications : m'.notifications = m.notifications

theorem Calm.refl (hm : m.Async) : Calm m m := ⟨hm, rfl, rfl⟩

theorem Calm.trans (h : Calm m m₀) (h' : Calm m₀ m') : Calm m m' :=
  ⟨h'.async, h'.selfLock.trans h.selfLock, h'.notifications.trans h.notifications⟩

theorem Returned.of_calm (h : Returned m₀ m') (hc : Calm m m₀) : Returned m m' :=
  ⟨h.async, h.selfLock, h.call, h.notifications.trans hc.notifications⟩

/-- The part touches none of the fields that matter here. -/
theorem Calm.of_same (hm : m.Async) (hlock : m'.selfLock = m.selfLock)
    (hlists : m'.notifications = m.notifications)
    (hstored : m'.modeChangeController = m.modeChangeController)
    (hcancelled : m'.cancelledControllers = m.cancelledControllers)
    (hcall : m'.call = m.call) : Calm m m' where
  async := by
    constructor
    · rw [hstored]
      exact hm.stored
    · rw [hcancelled]
      exact hm.cancelled
    · rw [hcall]
      exact hm.call
  selfLock := hlock
  notifications := hlists

/-- The stored controller changes, but for its handler. -/
theorem Calm.of_stored (hm : m.Async) {c c' : PreModeChangeController}
    (hc : m.modeChangeController = some c) (hh : c'.handler = c.handler) :
    Calm m { m with modeChangeController := some c' } where
  async := by
    refine ⟨?_, hm.cancelled, hm.call⟩
    rintro _ ⟨⟩
    exact (hm.stored c hc).congr hh
  selfLock := rfl
  notifications := rfl

theorem Calm.of_cancelled (hm : m.Async) {cs : List PreModeChangeController}
    (hcs : ∀ c ∈ cs, c.IsAsync) : Calm m { m with cancelledControllers := cs } :=
  ⟨⟨hm.stored, hcs, hm.call⟩, rfl, rfl⟩

/-! ### Parts of SetPowerState -/

/-- The first part of the atomic model is the acquisition of `selfLock` and `compareStates`. -/
theorem enterSetPowerState_eq_compareStates (newState : PowerState) (origin : Origin) :
    m.enterSetPowerState env newState origin =
      if m.selfLock then none else some (m.lockSelf.compareStates env newState origin) := by
  simp only [enterSetPowerState, compareStates]
  repeat' split
  all_goals rfl

theorem returned_of_returnFromCall (hm : m.Async) (newState : PowerState) (unlock : Bool)
    (h : unlock = true ∨ m.selfLock = false) : Returned m (m.returnFromCall newState unlock) := by
  rw [returnFromCall_eq]
  refine ⟨⟨hm.stored, hm.cancelled, by simp⟩, ?_, rfl, rfl⟩
  rcases h with rfl | h
  · rfl
  · simp [h]

theorem compareStates_cases (hm : m.Async) (newState : PowerState) (origin : Origin) :
    Returned m (m.compareStates env newState origin) ∨
      Calm m (m.compareStates env newState origin) ∧
        (m.compareStates env newState origin).call.isSome = true := by
  have hcall : ∀ call : Call, call.phase = .checked → ∀ m' : Implementation,
      m'.modeChangeController = m.modeChangeController →
      m'.cancelledControllers = m.cancelledControllers → m'.call = some call → m'.Async := by
    intro call hphase m' hstored hcancelled hm'
    refine ⟨hstored ▸ hm.stored, hcancelled ▸ hm.cancelled, ?_⟩
    rw [hm']
    rintro _ ⟨⟩ (h | h) <;> rw [hphase] at h <;> cases h
  simp only [compareStates]
  split
  · exact .inl (returned_of_returnFromCall hm newState true (.inl rfl))
  · split
    · split
      · exact .inl (returned_of_returnFromCall hm newState true (.inl rfl))
      · exact .inr ⟨⟨hcall _ rfl _ rfl rfl rfl, rfl, rfl⟩, rfl⟩
    · exact .inr ⟨⟨hcall _ rfl _ rfl rfl rfl, rfl, rfl⟩, rfl⟩

/-- An aborted handler that is async only writes the log. -/
theorem calm_resetController (hm : m.Async) {c : PreModeChangeController}
    (hc : m.modeChangeController = some c) : Calm m (m.resetController env c) := by
  have hreset : ({ m with modeChangeController := none } : Implementation).Async :=
    ⟨by simp, hm.cancelled, hm.call⟩
  unfold resetController
  dsimp only
  split
  · have hm' : Calm m (({ m with modeChangeController := none } : Implementation).emit
        (.cancelled c.transactionId)) := ⟨⟨by simp [emit], hm.cancelled, hm.call⟩, rfl, rfl⟩
    unfold runHandler AckController.revoke
    split
    · exact hm'
    · rename_i handlerCall hcall
      split at hcall
      · obtain ⟨h, hh, rfl⟩ := Option.map_eq_some_iff.mp hcall
        have hsync := hm.stored c hc h hh
        rw [completionHandler_aborted hsync]
        exact hm'.trans (.of_same hm'.async rfl rfl rfl rfl rfl)
      · cases hcall
  · refine ⟨⟨by simp [emit], ?_, hm.call⟩, rfl, rfl⟩
    intro d hd
    rcases List.mem_append.mp hd with hd | hd
    · exact hm.cancelled d hd
    · rw [List.mem_singleton.mp hd]
      exact hm.stored c hc

theorem calm_createController (hm : m.Async) (call : Call) :
    Calm m (m.createController env call) := by
  rw [createController_eq]
  refine ⟨⟨?_, hm.cancelled, ?_⟩, rfl, rfl⟩
  · rintro _ ⟨⟩ h hh
    rw [freshController_eq] at hh
    cases hh
  · rintro _ ⟨⟩ (h | h) <;> cases h

/-- What a part of the call under way does, other than a loop or a handler. -/
theorem advance_returned_or_calm (hm : m.Async) {call : Call} (hcall : m.call = some call)
    (hphase : call.phase = .checked ∨ m.modeChangeController = none ∨
      call.phase = .tested ∨ call.phase = .armed) :
    Returned m (m.advance env call) ∨
      Calm m (m.advance env call) ∧ (m.advance env call).call.isSome = true := by
  by_cases hchecked : call.phase = .checked
  · rw [advance_checked hchecked]
    unfold installController
    split
    · exact .inr ⟨calm_createController hm call, rfl⟩
    · rename_i c hc
      split
      · exact .inl (returned_of_returnFromCall hm call.newState true (.inl rfl))
      · have hreset : Calm m (m.resetController env c) := calm_resetController hm hc
        exact .inr ⟨hreset.trans (calm_createController hreset.async call), rfl⟩
  · cases hc : m.modeChangeController with
    | none =>
        rw [advance_no_controller hchecked hc]
        exact .inr ⟨.refl hm, by rw [hcall]; rfl⟩
    | some c =>
        rcases hphase with h | h | h | h
        · exact absurd h hchecked
        · rw [h] at hc
          cases hc
        · have hsync := hm.call call hcall (.inl h)
          rw [advance_tested h hc]
          refine .inr ⟨⟨⟨?_, hm.cancelled, ?_⟩, rfl, rfl⟩, rfl⟩
          · rintro _ ⟨⟩ _ ⟨⟩
            exact hsync
          · rintro _ ⟨⟩ _
            exact hsync
        · have hsync := hm.call call hcall (.inr h)
          have hh : (c.startTimer env.now (call.timeOut * 1000)).handler = c.handler := rfl
          have hstart := Calm.of_stored hm hc hh
          rw [advance_armed h hc, hsync]
          have hr := returned_of_returnFromCall hstart.async call.newState true (.inl rfl)
          exact .inl ⟨hr.async, hr.selfLock, hr.call, hr.notifications⟩

end Implementation

end DeviceAndDisplay.PowerManager
