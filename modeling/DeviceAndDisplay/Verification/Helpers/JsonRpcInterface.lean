import DeviceAndDisplay.Model.Helpers.JsonRpcInterface
import DeviceAndDisplay.Storage.Bytes
import DeviceAndDisplay.Transition.Run

/-! # Responses and the requests they answer

A promise stays in the table until its call removes it, so a second message with the same id finds
it set. The id of a message is reduced to 32 bits before it is looked up. -/

namespace DeviceAndDisplay.WebSockets

open Transition

/-! ### Ids -/

/-- The number selects the request of the same id if it fits into 32 bits. -/
theorem eq_toNat_iff {n : ℤ} {id : UInt32} (h : UInt32.ofInt n = id) :
    n = id.toNat ↔ 0 ≤ n ∧ n < 4294967296 := by
  have hlt := id.toNat_lt
  have hn : id.toNat = (n % 4294967296).toNat := by rw [← h, Storage.toNat_ofInt]
  omega

/-- The call has created its promise and not removed it. -/
def RequestPoint.holdsPromise : RequestPoint → Bool
  | .send | .getAsyncResponse | .removeAnswered | .removeFailed => true
  | _ => false

/-- The interface with the moments, counted in messages, when promises were created and set. -/
structure TrackedInterface where
  interface : JsonRpcInterface := {}
  received : ℕ := 0
  createdAt : ℕ → ℕ := fun _ => 0
  deliveredAt : ℕ → Option ℕ := fun _ => none

namespace TrackedInterface

def received' (t : TrackedInterface) : InterfaceAction → ℕ
  | .onMessage _ => t.received + 1
  | _ => t.received

def afterAction (t : TrackedInterface) (s : JsonRpcInterface) (a : InterfaceAction) :
    TrackedInterface where
  interface := s
  received := t.received' a
  createdAt i :=
    if (s.calls i).point = .send ∧ (t.interface.calls i).point ≠ .send then t.received
    else t.createdAt i
  deliveredAt i :=
    if (s.calls i).future.isSome ∧ (t.interface.calls i).future = none then some t.received
    else t.deliveredAt i

def step (t : TrackedInterface) (a : InterfaceAction) : Option TrackedInterface :=
  (interfaceStep t.interface a).map fun s => t.afterAction s a

/-- The promise of the call was set, after it was created, by a valid result with the id of the
call. -/
def Answered (t : TrackedInterface) (i : ℕ) : Prop :=
  ∃ message k, (t.interface.calls i).future = some message ∧
    message.response.isValid = true ∧ message.response.isResult = true ∧
    message.id = some (.number (t.interface.calls i).id.toNat) ∧
    t.deliveredAt i = some k ∧ t.createdAt i ≤ k

structure Matched (t : TrackedInterface) : Prop where
  answered : ∀ i, (t.interface.calls i).point = .returned true → t.Answered i
  /-- No message was delivered to two requests. -/
  once : ∀ i j k, t.deliveredAt i = some k → t.deliveredAt j = some k → i = j
  /-- No promise is left of a call that has returned. -/
  removed : ∀ i success, (t.interface.calls i).point = .returned success →
    ∀ id, t.interface.responseToPromise id ≠ some i

/-- No exception leaves `onMessage`, and all requests and responses are matched afterwards. -/
def Right (t : TrackedInterface) (a : InterfaceAction) : Prop :=
  (∀ message, a = .onMessage message → (t.interface.onMessage message).isSome) ∧
    ∀ u, t.step a = some u → u.Matched

/-- A message does not find its promise set, and an id out of the range of `uint32_t` does not
make a result count as that of the call. -/
def Unambiguous (t : TrackedInterface) : InterfaceAction → Prop
  | .onMessage message => message.wellFormed = true → message.hasMethod = false →
      ∀ n, message.id = some (.number n) →
        ∀ i, t.interface.responseToPromise (UInt32.ofInt n) = some i →
          (t.interface.calls i).future = none
  | .proceed i _ => (t.interface.calls i).point = .processResponse →
      ∀ message n, (t.interface.calls i).future = some message → message.id = some (.number n) →
        message.response.isValid = true → message.response.getId = (t.interface.calls i).id →
          message.response.result = some (some true) → 0 ≤ n ∧ n < 4294967296
  | .sendRequest _ => True

/-! ### The invariant -/

structure Sound (t : TrackedInterface) : Prop extends t.Matched where
  entry : ∀ id i, t.interface.responseToPromise id = some i →
    (t.interface.calls i).id = id ∧ (t.interface.calls i).point.holdsPromise = true
  held : ∀ i, (t.interface.calls i).point.holdsPromise = true →
    t.interface.responseToPromise (t.interface.calls i).id = some i
  idle : ∀ i, t.interface.started ≤ i → t.interface.calls i = {}
  /-- Before a promise is created it is not set. -/
  unset : ∀ i, (t.interface.calls i).point = .isRequestProcessingOngoing ∨
    (t.interface.calls i).point = .createFutureResponse → (t.interface.calls i).future = none
  ready : ∀ i, (t.interface.calls i).point = .removeAnswered ∨
    (t.interface.calls i).point = .processResponse → (t.interface.calls i).future.isSome
  created : ∀ i, t.createdAt i ≤ t.received
  delivered : ∀ i k, t.deliveredAt i = some k → k < t.received
  origin : ∀ i message, (t.interface.calls i).future = some message →
    (∃ n, message.id = some (.number n) ∧ UInt32.ofInt n = (t.interface.calls i).id) ∧
      ∃ k, t.deliveredAt i = some k ∧ t.createdAt i ≤ k

theorem sound_init : Sound {} := by
  constructor
  · constructor <;> simp
  all_goals simp [RequestPoint.holdsPromise]

variable {t u : TrackedInterface}

/-! ### Steps of a call -/

/-- The interface after a step of call `i` that may also change the table. -/
def moved (t : TrackedInterface) (i : ℕ) (point : RequestPoint)
    (promises : UInt32 → Option ℕ) : JsonRpcInterface :=
  { t.interface.moveCall i point with responseToPromise := promises }

theorem moved_calls_self (t : TrackedInterface) (i : ℕ) (point : RequestPoint)
    (promises : UInt32 → Option ℕ) :
    (t.moved i point promises).calls i = { t.interface.calls i with point := point } :=
  Function.update_self ..

theorem moved_calls_of_ne (t : TrackedInterface) {i j : ℕ} (hj : j ≠ i) (point : RequestPoint)
    (promises : UInt32 → Option ℕ) : (t.moved i point promises).calls j = t.interface.calls j :=
  Function.update_of_ne hj ..

/-- A step of a call sets no promise. -/
theorem afterAction_moved (t : TrackedInterface) (i : ℕ) (sent : Bool) (point : RequestPoint)
    (promises : UInt32 → Option ℕ) :
    t.afterAction (t.moved i point promises) (.proceed i sent) =
      ⟨t.moved i point promises, t.received,
        if point = .send ∧ (t.interface.calls i).point ≠ .send then
          Function.update t.createdAt i t.received else t.createdAt, t.deliveredAt⟩ := by
  simp only [afterAction, received', TrackedInterface.mk.injEq, true_and]
  constructor
  · funext j
    by_cases hj : j = i
    · rw [hj, moved_calls_self]
      split <;> simp
    · rw [moved_calls_of_ne t hj]
      split
      · rename_i h
        exact absurd h.1 h.2
      · split
        · rw [Function.update_of_ne hj]
        · rfl
  · funext j
    by_cases hj : j = i
    · rw [hj, moved_calls_self]
      cases (t.interface.calls i).future <;> simp
    · rw [moved_calls_of_ne t hj]
      cases (t.interface.calls j).future <;> simp

/-- What has to hold of a call after its step; `createdAt` is when its promise was created. -/
structure MovesTo (t : TrackedInterface) (i : ℕ) (point : RequestPoint)
    (promises : UInt32 → Option ℕ) (createdAt : ℕ → ℕ) : Prop where
  started : i < t.interface.started
  unset : point = .isRequestProcessingOngoing ∨ point = .createFutureResponse →
    (t.interface.calls i).future = none
  ready : point = .removeAnswered ∨ point = .processResponse → (t.interface.calls i).future.isSome
  answered : point = .returned true → t.Answered i
  held : point.holdsPromise = true → promises (t.interface.calls i).id = some i
  entry : ∀ id, promises id = some i →
    (t.interface.calls i).id = id ∧ point.holdsPromise = true
  others : ∀ j, j ≠ i → ∀ id, promises id = some j ↔ t.interface.responseToPromise id = some j
  createdAt : createdAt = t.createdAt ∨
    createdAt = Function.update t.createdAt i t.received ∧ (t.interface.calls i).future = none

theorem answered_moved {i : ℕ} {point : RequestPoint} {promises : UInt32 → Option ℕ}
    {createdAt : ℕ → ℕ} (h : t.MovesTo i point promises createdAt) {j : ℕ} (hj : t.Answered j) :
    Answered ⟨t.moved i point promises, t.received, createdAt, t.deliveredAt⟩ j := by
  obtain ⟨message, k, hfuture, hvalid, hresult, hid, hk, hle⟩ := hj
  have hcreated : createdAt j = t.createdAt j := by
    rcases h.createdAt with rfl | ⟨rfl, hnone⟩
    · rfl
    · by_cases hji : j = i
      · rw [hji, hnone] at hfuture
        cases hfuture
      · exact Function.update_of_ne hji ..
  refine ⟨message, k, ?_, hvalid, hresult, ?_, hk, hcreated.trans_le hle⟩
  · by_cases hji : j = i
    · rw [hji] at hfuture
      rw [hji, moved_calls_self]
      exact hfuture
    · rw [moved_calls_of_ne t hji]
      exact hfuture
  · by_cases hji : j = i
    · rw [hji] at hid
      rw [hji, moved_calls_self]
      exact hid
    · rw [moved_calls_of_ne t hji]
      exact hid

theorem sound_moved (ht : t.Sound) {i : ℕ} {point : RequestPoint} {promises : UInt32 → Option ℕ}
    {createdAt : ℕ → ℕ} (h : t.MovesTo i point promises createdAt) :
    Sound ⟨t.moved i point promises, t.received, createdAt, t.deliveredAt⟩ where
  answered := by
    intro j hpoint
    apply answered_moved h
    by_cases hj : j = i
    · rw [hj, moved_calls_self] at hpoint
      rw [hj]
      exact h.answered hpoint
    · rw [moved_calls_of_ne t hj] at hpoint
      exact ht.answered j hpoint
  once := ht.once
  removed := by
    intro j success hpoint id hentry
    by_cases hj : j = i
    · rw [hj, moved_calls_self] at hpoint
      change point = .returned success at hpoint
      rw [hj] at hentry
      have hholds := (h.entry id hentry).2
      rw [hpoint] at hholds
      cases hholds
    · rw [moved_calls_of_ne t hj] at hpoint
      exact ht.removed j success hpoint id ((h.others j hj id).mp hentry)
  entry := by
    intro id j hentry
    by_cases hj : j = i
    · rw [hj] at hentry ⊢
      rw [moved_calls_self]
      exact h.entry id hentry
    · rw [moved_calls_of_ne t hj]
      exact ht.entry id j ((h.others j hj id).mp hentry)
  held := by
    intro j hholds
    by_cases hj : j = i
    · rw [hj, moved_calls_self] at hholds ⊢
      exact h.held hholds
    · rw [moved_calls_of_ne t hj] at hholds ⊢
      exact (h.others j hj _).mpr (ht.held j hholds)
  idle := by
    intro j hle
    have hj : j ≠ i := fun heq => absurd h.started (Nat.not_lt.mpr (heq ▸ hle))
    rw [moved_calls_of_ne t hj]
    exact ht.idle j hle
  unset := by
    intro j hpoint
    by_cases hj : j = i
    · rw [hj, moved_calls_self] at hpoint ⊢
      exact h.unset hpoint
    · rw [moved_calls_of_ne t hj] at hpoint ⊢
      exact ht.unset j hpoint
  ready := by
    intro j hpoint
    by_cases hj : j = i
    · rw [hj, moved_calls_self] at hpoint ⊢
      exact h.ready hpoint
    · rw [moved_calls_of_ne t hj] at hpoint ⊢
      exact ht.ready j hpoint
  created := by
    intro j
    rcases h.createdAt with rfl | ⟨rfl, _⟩
    · exact ht.created j
    · by_cases hj : j = i
      · rw [hj]
        exact (Function.update_self ..).le
      · exact (Function.update_of_ne hj t.received t.createdAt).trans_le (ht.created j)
  delivered := ht.delivered
  origin := by
    intro j message hfuture
    have hold : (t.interface.calls j).future = some message := by
      by_cases hj : j = i
      · rw [hj, moved_calls_self] at hfuture
        rw [hj]
        exact hfuture
      · rw [moved_calls_of_ne t hj] at hfuture
        exact hfuture
    obtain ⟨hid, k, hk, hle⟩ := ht.origin j message hold
    constructor
    · by_cases hj : j = i
      · rw [hj] at hid
        rw [hj, moved_calls_self]
        exact hid
      · rw [moved_calls_of_ne t hj]
        exact hid
    · refine ⟨k, hk, ?_⟩
      rcases h.createdAt with rfl | ⟨rfl, hnone⟩
      · exact hle
      · have hj : j ≠ i := by
          rintro rfl
          rw [hnone] at hold
          cases hold
        exact (Function.update_of_ne hj t.received t.createdAt).trans_le hle

/-! ### The steps of the interface -/

theorem started_of_point (ht : t.Sound) {i : ℕ}
    (h : (t.interface.calls i).point ≠ .returned false) : i < t.interface.started := by
  by_contra hle
  rw [ht.idle i (Nat.not_lt.mp hle)] at h
  exact h rfl

/-- What `processResponse` accepts is a valid result with the id of the call. -/
theorem processResponse_iff {id : UInt32} {r : Response} :
    processResponse id r = true ↔
      r.isValid = true ∧ r.getId = id ∧ r.result = some (some true) := by
  unfold processResponse
  split
  · rename_i hvalid
    rw [Bool.and_eq_true, beq_iff_eq] at hvalid
    rw [and_iff_right hvalid.1, and_iff_right hvalid.2]
    rcases r.result with _ | _ | _ | _ <;> simp
  · rename_i hvalid
    rw [Bool.and_eq_true, beq_iff_eq] at hvalid
    exact iff_of_false (by simp) fun h => hvalid ⟨h.1, h.2.1⟩

/-- The call keeps or does not have a promise. -/
theorem movesTo_keep (ht : t.Sound) {i : ℕ} {point : RequestPoint}
    (hstarted : (t.interface.calls i).point ≠ .returned false)
    (hholds : point.holdsPromise = (t.interface.calls i).point.holdsPromise)
    (hunset : point = .isRequestProcessingOngoing ∨ point = .createFutureResponse →
      (t.interface.calls i).future = none)
    (hready : point = .removeAnswered ∨ point = .processResponse →
      (t.interface.calls i).future.isSome)
    (hanswered : point = .returned true → t.Answered i) :
    t.MovesTo i point t.interface.responseToPromise t.createdAt where
  started := started_of_point ht hstarted
  unset := hunset
  ready := hready
  answered := hanswered
  held hp := ht.held i (hholds ▸ hp)
  entry id hentry := ⟨(ht.entry id i hentry).1, hholds.trans (ht.entry id i hentry).2⟩
  others _ _ _ := Iff.rfl
  createdAt := .inl rfl

theorem movesTo_remove (ht : t.Sound) {i : ℕ} {point : RequestPoint}
    (hold : (t.interface.calls i).point.holdsPromise = true)
    (hready : point = .processResponse ∧ (t.interface.calls i).future.isSome ∨
      point = .returned false) :
    t.MovesTo i point
      (Function.update t.interface.responseToPromise (t.interface.calls i).id none)
      t.createdAt where
  started := started_of_point ht (by rintro hpoint; rw [hpoint] at hold; cases hold)
  unset := by rcases hready with ⟨rfl, _⟩ | rfl <;> simp
  ready := by rcases hready with ⟨rfl, hsome⟩ | rfl <;> simp [*]
  answered := by rcases hready with ⟨rfl, _⟩ | rfl <;> simp
  held := by rcases hready with ⟨rfl, _⟩ | rfl <;> simp [RequestPoint.holdsPromise]
  entry := by
    intro id hentry
    by_cases hid : id = (t.interface.calls i).id
    · rw [hid, Function.update_self] at hentry
      cases hentry
    · rw [Function.update_of_ne hid] at hentry
      exact absurd (ht.entry id i hentry).1.symm hid
  others := by
    intro j hj id
    by_cases hid : id = (t.interface.calls i).id
    · rw [hid, Function.update_self, ht.held i hold, Option.some.injEq]
      exact iff_of_false (by simp) fun heq => hj heq.symm
    · rw [Function.update_of_ne hid]
  createdAt := .inl rfl

theorem movesTo_emplace (ht : t.Sound) {i : ℕ}
    (hpoint : (t.interface.calls i).point = .createFutureResponse)
    (hnone : t.interface.responseToPromise (t.interface.calls i).id = none) :
    t.MovesTo i .send
      (Function.update t.interface.responseToPromise (t.interface.calls i).id (some i))
      (Function.update t.createdAt i t.received) where
  started := started_of_point ht (by simp [hpoint])
  unset := by simp
  ready := by simp
  answered := by simp
  held := by simp
  entry := by
    intro id hentry
    by_cases hid : id = (t.interface.calls i).id
    · exact ⟨hid.symm, rfl⟩
    · rw [Function.update_of_ne hid] at hentry
      exact absurd (ht.entry id i hentry).1.symm hid
  others := by
    intro j hj id
    by_cases hid : id = (t.interface.calls i).id
    · rw [hid, Function.update_self, hnone, Option.some.injEq]
      exact iff_of_false (fun heq => hj heq.symm) (by simp)
    · rw [Function.update_of_ne hid]
  createdAt := .inr ⟨rfl, ht.unset i (.inr hpoint)⟩

/-- A step that creates no promise keeps what holds of all calls. -/
theorem sound_afterAction (ht : t.Sound) {i : ℕ} {sent : Bool} {point : RequestPoint}
    {promises : UInt32 → Option ℕ} (hsend : point ≠ .send)
    (h : t.MovesTo i point promises t.createdAt) :
    (t.afterAction (t.moved i point promises) (.proceed i sent)).Sound := by
  rw [afterAction_moved, if_neg fun hp => hsend hp.1]
  exact sound_moved ht h

theorem sound_proceed (ht : t.Sound) {i : ℕ} {sent : Bool} (hc : t.Unambiguous (.proceed i sent))
    (h : t.step (.proceed i sent) = some u) : u.Sound := by
  obtain ⟨s, hs, rfl⟩ := Option.map_eq_some_iff.mp h
  change t.interface.proceed i sent = some s at hs
  unfold JsonRpcInterface.proceed at hs
  cases hpoint : (t.interface.calls i).point with
  | isRequestProcessingOngoing =>
      simp only [hpoint] at hs
      have hunset := ht.unset i (.inl hpoint)
      split at hs <;> cases hs <;>
        exact sound_afterAction ht (by simp) (movesTo_keep ht (by simp [hpoint])
          (by rw [hpoint]; rfl) (fun _ => hunset) (by simp) (by simp))
  | createFutureResponse =>
      simp only [hpoint] at hs
      split at hs
      · cases hs
        exact sound_afterAction ht (by simp) (movesTo_keep ht (by simp [hpoint])
          (by rw [hpoint]; rfl) (by simp) (by simp) (by simp))
      · rename_i hnone
        cases hs
        have hmoves := movesTo_emplace ht hpoint (by simpa using hnone)
        have hsound := sound_moved ht hmoves
        have hafter := afterAction_moved t i sent .send
          (Function.update t.interface.responseToPromise (t.interface.calls i).id (some i))
        rw [if_pos ⟨rfl, by simp [hpoint]⟩] at hafter
        exact hafter ▸ hsound
  | send =>
      simp only [hpoint] at hs
      cases hs
      cases sent <;>
        exact sound_afterAction ht (by simp) (movesTo_keep ht (by simp [hpoint])
          (by rw [hpoint]; rfl) (by simp) (by simp) (by simp))
  | getAsyncResponse =>
      simp only [hpoint] at hs
      cases hs
      by_cases hready : (t.interface.calls i).future.isSome = true
      · rw [if_pos hready]
        exact sound_afterAction ht (by simp) (movesTo_keep ht (by simp [hpoint])
          (by rw [hpoint]; rfl) (by simp) (fun _ => hready) (by simp))
      · rw [if_neg hready]
        exact sound_afterAction ht (by simp) (movesTo_keep ht (by simp [hpoint])
          (by rw [hpoint]; rfl) (by simp) (by simp) (by simp))
  | removeAnswered =>
      simp only [hpoint] at hs
      cases hs
      exact sound_afterAction ht (by simp) (movesTo_remove ht (by rw [hpoint]; rfl)
        (.inl ⟨rfl, ht.ready i (.inl hpoint)⟩))
  | processResponse =>
      simp only [hpoint] at hs
      obtain ⟨message, hmessage, rfl⟩ := Option.map_eq_some_iff.mp hs
      refine sound_afterAction ht (by simp) (movesTo_keep ht (by simp [hpoint])
        (by rw [hpoint]; rfl) (by simp) (by simp) fun hreturned => ?_)
      have htrue := RequestPoint.returned.inj hreturned
      obtain ⟨⟨n, hn, hid⟩, k, hk, hle⟩ := ht.origin i message hmessage
      obtain ⟨hvalid, hgetId, hresult⟩ := processResponse_iff.mp htrue
      have hnumber := (eq_toNat_iff hid).mpr (hc hpoint message n hmessage hn hvalid hgetId hresult)
      have hisResult : message.response.isResult = true := by rw [Response.isResult, hresult]; rfl
      exact ⟨message, k, hmessage, hvalid, hisResult, hnumber ▸ hn, hk, hle⟩
  | removeFailed =>
      simp only [hpoint] at hs
      cases hs
      exact sound_afterAction ht (by simp) (movesTo_remove ht (by rw [hpoint]; rfl) (.inr rfl))
  | returned success =>
      simp only [hpoint] at hs
      cases hs

theorem Answered.congr {i : ℕ} (h : t.Answered i)
    (hcall : u.interface.calls i = t.interface.calls i)
    (hdelivered : u.deliveredAt i = t.deliveredAt i) (hcreated : u.createdAt i = t.createdAt i) :
    u.Answered i := by
  obtain ⟨message, k, hfuture, hvalid, hresult, hid, hk, hle⟩ := h
  exact ⟨message, k, hcall ▸ hfuture, hvalid, hresult, hcall ▸ hid, hdelivered ▸ hk, hcreated ▸ hle⟩

theorem startRequest_calls_self (s : JsonRpcInterface) (id : UInt32) :
    (s.startRequest id).calls s.started = { id := id, point := .isRequestProcessingOngoing } :=
  Function.update_self ..

theorem startRequest_calls_of_ne (s : JsonRpcInterface) (id : UInt32) {j : ℕ}
    (hj : j ≠ s.started) : (s.startRequest id).calls j = s.calls j :=
  Function.update_of_ne hj ..

theorem afterAction_startRequest (t : TrackedInterface) (id : UInt32) :
    t.afterAction (t.interface.startRequest id) (.sendRequest id) =
      ⟨t.interface.startRequest id, t.received, t.createdAt, t.deliveredAt⟩ := by
  simp only [afterAction, received', TrackedInterface.mk.injEq, true_and]
  constructor <;> funext j <;> by_cases hj : j = t.interface.started
  · simp [hj, startRequest_calls_self]
  · simp [startRequest_calls_of_ne _ id hj]
  · simp [hj, startRequest_calls_self]
  · rw [startRequest_calls_of_ne _ id hj]
    cases (t.interface.calls j).future <;> simp

/-- A call that has not started has no entry. -/
theorem Sound.ne_started (ht : t.Sound) {id : UInt32} {j : ℕ}
    (hj : t.interface.responseToPromise id = some j) : j ≠ t.interface.started := by
  intro heq
  have hholds := (ht.entry id j hj).2
  rw [heq, ht.idle t.interface.started le_rfl] at hholds
  cases hholds

theorem sound_startRequest (ht : t.Sound) (id : UInt32) :
    Sound ⟨t.interface.startRequest id, t.received, t.createdAt, t.deliveredAt⟩ where
  answered := by
    intro j hpoint
    by_cases hj : j = t.interface.started
    · rw [hj, startRequest_calls_self] at hpoint
      cases hpoint
    · have hsame := startRequest_calls_of_ne t.interface id hj
      rw [hsame] at hpoint
      exact (ht.answered j hpoint).congr hsame rfl rfl
  once := ht.once
  removed := by
    intro j success hpoint id' hj
    rw [startRequest_calls_of_ne _ id (ht.ne_started hj)] at hpoint
    exact ht.removed j success hpoint id' hj
  entry := by
    intro id' j hj
    rw [startRequest_calls_of_ne _ id (ht.ne_started hj)]
    exact ht.entry id' j hj
  held := by
    intro j hholds
    by_cases hj : j = t.interface.started
    · rw [hj, startRequest_calls_self] at hholds
      cases hholds
    · rw [startRequest_calls_of_ne _ id hj] at hholds ⊢
      exact ht.held j hholds
  idle := by
    intro j hle
    have hlt : t.interface.started < j := hle
    rw [startRequest_calls_of_ne _ id hlt.ne']
    exact ht.idle j hlt.le
  unset := by
    intro j hpoint
    by_cases hj : j = t.interface.started
    · rw [hj, startRequest_calls_self]
    · rw [startRequest_calls_of_ne _ id hj] at hpoint ⊢
      exact ht.unset j hpoint
  ready := by
    intro j hpoint
    by_cases hj : j = t.interface.started
    · rw [hj, startRequest_calls_self] at hpoint
      rcases hpoint with hpoint | hpoint <;> cases hpoint
    · rw [startRequest_calls_of_ne _ id hj] at hpoint ⊢
      exact ht.ready j hpoint
  created := ht.created
  delivered := ht.delivered
  origin := by
    intro j message hfuture
    by_cases hj : j = t.interface.started
    · rw [hj, startRequest_calls_self] at hfuture
      cases hfuture
    · rw [startRequest_calls_of_ne _ id hj] at hfuture ⊢
      exact ht.origin j message hfuture

theorem sound_sendRequest (ht : t.Sound) {id : UInt32} (h : t.step (.sendRequest id) = some u) :
    u.Sound := by
  cases h
  change (t.afterAction (t.interface.startRequest id) (.sendRequest id)).Sound
  rw [afterAction_startRequest]
  exact sound_startRequest ht id

/-! ### Messages -/

/-- The message is looked up in the table under this id. -/
def LooksUp (message : Message) (id : UInt32) : Prop :=
  message.wellFormed = true ∧ message.hasMethod = false ∧
    ∃ n, message.id = some (.number n) ∧ UInt32.ofInt n = id

/-- The promise of a call is set. -/
def deliver (i : ℕ) (message : Message) (s : JsonRpcInterface) : JsonRpcInterface :=
  { s with calls := Function.update s.calls i { s.calls i with future := some message } }

/-- A message is dropped, or it sets a promise, or it finds the promise set. -/
theorem onMessage_cases (s : JsonRpcInterface) (message : Message) :
    s.onMessage message = some s ∨
    (∃ id i, LooksUp message id ∧ s.responseToPromise id = some i ∧ (s.calls i).future = none ∧
      s.onMessage message = some (deliver i message s)) ∨
    ∃ id i, LooksUp message id ∧ s.responseToPromise id = some i ∧
      (s.calls i).future.isSome ∧ s.onMessage message = none := by
  unfold JsonRpcInterface.onMessage
  cases hformed : message.wellFormed with
  | false => exact .inl (if_pos rfl)
  | true =>
      rw [if_neg (by simp)]
      cases hid : message.id with
      | none => exact .inl rfl
      | some messageId =>
          cases hmethod : message.hasMethod with
          | true => exact .inl rfl
          | false =>
              cases messageId with
              | other => exact .inl rfl
              | number n =>
                  have hlooks : LooksUp message (UInt32.ofInt n) :=
                    ⟨hformed, hmethod, n, hid, rfl⟩
                  simp only [Bool.false_eq_true, if_false, JsonRpcInterface.handleResponse]
                  cases hentry : s.responseToPromise (UInt32.ofInt n) with
                  | none => exact .inl rfl
                  | some i =>
                      right
                      by_cases hset : (s.calls i).future.isSome = true
                      · exact .inr ⟨_, i, hlooks, hentry, hset, if_pos hset⟩
                      · exact .inl ⟨_, i, hlooks, hentry, by simpa using hset, if_neg hset⟩

theorem sound_received (ht : t.Sound) : Sound { t with received := t.received + 1 } where
  answered i hpoint := (ht.answered i hpoint).congr rfl rfl rfl
  once := ht.once
  removed := ht.removed
  entry := ht.entry
  held := ht.held
  idle := ht.idle
  unset := ht.unset
  ready := ht.ready
  created i := (ht.created i).trans (Nat.le_succ _)
  delivered i k hk := (ht.delivered i k hk).trans (Nat.lt_succ_self _)
  origin := ht.origin

theorem afterAction_dropped (t : TrackedInterface) (message : Message) :
    t.afterAction t.interface (.onMessage message) = { t with received := t.received + 1 } := by
  simp only [afterAction, received', TrackedInterface.mk.injEq, true_and]
  constructor <;> funext j
  · exact if_neg fun h => h.2 h.1
  · cases (t.interface.calls j).future <;> simp

theorem deliver_calls_self (i : ℕ) (message : Message) (s : JsonRpcInterface) :
    (deliver i message s).calls i = { s.calls i with future := some message } :=
  Function.update_self ..

theorem deliver_calls_of_ne {i j : ℕ} (hj : j ≠ i) (message : Message) (s : JsonRpcInterface) :
    (deliver i message s).calls j = s.calls j := Function.update_of_ne hj ..

theorem deliver_point (i j : ℕ) (message : Message) (s : JsonRpcInterface) :
    ((deliver i message s).calls j).point = (s.calls j).point := by
  by_cases hj : j = i
  · rw [hj, deliver_calls_self]
  · rw [deliver_calls_of_ne hj]

theorem deliver_id (i j : ℕ) (message : Message) (s : JsonRpcInterface) :
    ((deliver i message s).calls j).id = (s.calls j).id := by
  by_cases hj : j = i
  · rw [hj, deliver_calls_self]
  · rw [deliver_calls_of_ne hj]

theorem deliver_future (i j : ℕ) (message : Message) (s : JsonRpcInterface) :
    ((deliver i message s).calls j).future =
      if j = i then some message else (s.calls j).future := by
  by_cases hj : j = i
  · rw [if_pos hj, hj, deliver_calls_self]
  · rw [if_neg hj, deliver_calls_of_ne hj]

theorem afterAction_deliver (t : TrackedInterface) {i : ℕ} {message : Message}
    (hnone : (t.interface.calls i).future = none) :
    t.afterAction (deliver i message t.interface) (.onMessage message) =
      ⟨deliver i message t.interface, t.received + 1, t.createdAt,
        Function.update t.deliveredAt i (some t.received)⟩ := by
  simp only [afterAction, received', deliver_point, deliver_future, TrackedInterface.mk.injEq,
    true_and]
  constructor <;> funext j
  · exact if_neg fun h => h.2 h.1
  · by_cases hj : j = i
    · simp [hj, hnone]
    · cases (t.interface.calls j).future <;> simp [hj]

theorem sound_deliver (ht : t.Sound) {i : ℕ} {id : UInt32} {message : Message}
    (hlooks : LooksUp message id) (hi : t.interface.responseToPromise id = some i)
    (hnone : (t.interface.calls i).future = none) :
    Sound ⟨deliver i message t.interface, t.received + 1, t.createdAt,
      Function.update t.deliveredAt i (some t.received)⟩ := by
  have hholds := (ht.entry id i hi).2
  -- only the calls that hold no promise have a past that the new stamp could disturb
  have hreturned : ∀ j success, (t.interface.calls j).point = .returned success → j ≠ i := by
    rintro j success hj rfl
    rw [hj] at hholds
    cases hholds
  have hstamp : ∀ j k, Function.update t.deliveredAt i (some t.received) j = some k →
      j = i ∧ k = t.received ∨ t.deliveredAt j = some k := by
    intro j k hk
    by_cases hj : j = i
    · rw [hj, Function.update_self] at hk
      exact .inl ⟨hj, (Option.some.inj hk).symm⟩
    · rw [Function.update_of_ne hj] at hk
      exact .inr hk
  constructor
  · constructor
    · intro j hj
      rw [deliver_point] at hj
      have hne := hreturned j true hj
      exact (ht.answered j hj).congr (deliver_calls_of_ne hne ..) (Function.update_of_ne hne ..) rfl
    · intro j j' k hj hj'
      -- the new stamp is larger than all the others
      have hlt := ht.delivered
      rcases hstamp j k hj with ⟨hi, hk⟩ | hold <;> rcases hstamp j' k hj' with ⟨hi', hk'⟩ | hold'
      · rw [hi, hi']
      · exact absurd hk (hlt j' k hold').ne
      · exact absurd hk' (hlt j k hold).ne
      · exact ht.once j j' k hold hold'
    · intro j success hj
      rw [deliver_point] at hj
      exact ht.removed j success hj
  · intro id' j hj
    rw [deliver_point, deliver_id]
    exact ht.entry id' j hj
  · intro j hj
    rw [deliver_point] at hj
    rw [deliver_id]
    exact ht.held j hj
  · intro j hle
    have hne : j ≠ i := by
      rintro rfl
      rw [ht.idle j hle] at hholds
      cases hholds
    rw [deliver_calls_of_ne hne]
    exact ht.idle j hle
  · intro j hj
    rw [deliver_point] at hj
    have hne : j ≠ i := by
      rintro rfl
      rcases hj with hj | hj <;> rw [hj] at hholds <;> cases hholds
    rw [deliver_calls_of_ne hne]
    exact ht.unset j hj
  · intro j hj
    rw [deliver_point] at hj
    rw [deliver_future]
    split
    · rfl
    · exact ht.ready j hj
  · exact fun j => (ht.created j).trans (Nat.le_succ _)
  · intro j k hk
    rcases hstamp j k hk with ⟨_, rfl⟩ | hold
    · exact Nat.lt_succ_self _
    · exact (ht.delivered j k hold).trans (Nat.lt_succ_self _)
  · intro j other hfuture
    rw [deliver_id]
    rw [deliver_future] at hfuture
    by_cases hj : j = i
    · obtain ⟨_, _, n, hn, heq⟩ := hlooks
      rw [if_pos hj] at hfuture
      cases hfuture
      rw [hj]
      refine ⟨⟨n, hn, ?_⟩, t.received, Function.update_self .., ht.created i⟩
      exact heq.trans (ht.entry id i hi).1.symm
    · rw [if_neg hj] at hfuture
      obtain ⟨hnumber, k, hk, hle⟩ := ht.origin j other hfuture
      exact ⟨hnumber, k, (Function.update_of_ne hj ..).trans hk, hle⟩

/-- After a message, whatever it is: an exception changes nothing. -/
theorem sound_onMessage (ht : t.Sound) {message : Message}
    (h : t.step (.onMessage message) = some u) : u.Sound := by
  cases h
  change (t.afterAction ((t.interface.onMessage message).getD t.interface) _).Sound
  rcases onMessage_cases t.interface message with heq | ⟨id, i, hlooks, hi, hnone, heq⟩ |
    ⟨id, i, hlooks, hi, hset, heq⟩
  · rw [heq, Option.getD_some, afterAction_dropped]
    exact sound_received ht
  · rw [heq, Option.getD_some, afterAction_deliver t hnone]
    exact sound_deliver ht hlooks hi hnone
  · rw [heq, Option.getD_none, afterAction_dropped]
    exact sound_received ht

theorem sound_step {a : InterfaceAction} (ht : t.Sound) (hc : t.Unambiguous a)
    (h : t.step a = some u) : u.Sound := by
  cases a with
  | sendRequest id => exact sound_sendRequest ht h
  | proceed i sent => exact sound_proceed ht hc h
  | onMessage message => exact sound_onMessage ht h

/-! ### The condition -/

theorem onMessage_of_looksUp {message : Message} {id : UInt32} (h : LooksUp message id)
    (s : JsonRpcInterface) : s.onMessage message = s.handleResponse id message := by
  obtain ⟨hformed, hmethod, n, hn, rfl⟩ := h
  simp [JsonRpcInterface.onMessage, hformed, hmethod, hn]

/-- No exception leaves `onMessage` exactly if the message does not find its promise set. -/
theorem onMessage_isSome_iff (t : TrackedInterface) (message : Message) :
    (t.interface.onMessage message).isSome ↔ t.Unambiguous (.onMessage message) := by
  constructor
  · intro hsome hformed hmethod n hn i hi
    rw [onMessage_of_looksUp ⟨hformed, hmethod, n, hn, rfl⟩,
      JsonRpcInterface.handleResponse] at hsome
    simp only [hi] at hsome
    by_contra hset
    rw [if_pos (Option.isSome_iff_ne_none.mpr hset)] at hsome
    cases hsome
  · intro hc
    rcases onMessage_cases t.interface message with heq | ⟨_, _, _, _, _, heq⟩ |
      ⟨_, i, ⟨hformed, hmethod, n, hn, rfl⟩, hi, hset, _⟩
    · rw [heq]
      rfl
    · rw [heq]
      rfl
    · rw [hc hformed hmethod n hn i hi] at hset
      cases hset

theorem right_iff {a : InterfaceAction} (ht : t.Sound) : t.Right a ↔ t.Unambiguous a := by
  constructor
  · intro h
    cases a with
    | sendRequest id => trivial
    | onMessage message => exact (onMessage_isSome_iff t message).mp (h.1 message rfl)
    | proceed i sent =>
        intro hpoint message n hmessage hn hvalid hgetId hresult
        -- the call is about to return true, so the message has its id
        have hproceed : t.interface.proceed i sent =
            some (t.moved i (.returned true) t.interface.responseToPromise) := by
          have htrue := processResponse_iff.mpr ⟨hvalid, hgetId, hresult⟩
          simp [JsonRpcInterface.proceed, hpoint, hmessage, htrue, moved, JsonRpcInterface.moveCall]
        have hmatched := h.2 _ (congrArg (Option.map _) hproceed)
        obtain ⟨other, k, hother, _, _, hid, _⟩ := hmatched.answered i (by
          change ((t.moved i _ _).calls i).point = _
          rw [moved_calls_self])
        change ((t.moved i _ _).calls i).future = _ at hother
        change other.id = some (.number ((t.moved i _ _).calls i).id.toNat) at hid
        rw [moved_calls_self] at hother hid
        cases hother.symm.trans hmessage
        cases hn.symm.trans hid
        exact (eq_toNat_iff ((ht.origin i message hmessage).1.elim fun m hm =>
          MessageId.number.inj (Option.some.inj (hm.1.symm.trans hn)) ▸ hm.2)).mp rfl
  · intro hc
    refine ⟨?_, fun u hu => (sound_step ht hc hu).toMatched⟩
    rintro message rfl
    exact (onMessage_isSome_iff t message).mpr hc

/-- In a run the requests and responses are matched one to one, and no exception leaves
`onMessage`, exactly if no message finds its promise set and no id is out of range. -/
theorem requests_matched_iff (as : List InterfaceAction) :
    Along step Right {} as ↔ Along step Unambiguous {} as :=
  along_iff_along (fun _ _ _ ht hc h => sound_step ht hc h) (fun _ _ ht => right_iff ht)
    sound_init as

/-- The response `true` to the request with this id. -/
def accepted (id : UInt32) : Message where
  id := some (.number id.toNat)
  response := ⟨some Response.defaultVersion, some id, some (some true), none⟩

/-- A request is sent and its response arrives twice before the waiting call wakes up. -/
theorem response_twice :
    ∃ t, run step {} [.sendRequest 1, .proceed 0 true, .proceed 0 true, .proceed 0 true,
      .onMessage (accepted 1)] = some t ∧
      (t.interface.calls 0).point = .getAsyncResponse ∧
      t.interface.onMessage (accepted 1) = none :=
  ⟨_, rfl, rfl, rfl⟩

end TrackedInterface

end DeviceAndDisplay.WebSockets
