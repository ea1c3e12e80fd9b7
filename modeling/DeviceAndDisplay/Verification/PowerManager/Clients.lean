import DeviceAndDisplay.Verification.PowerManager.Atomic
import Mathlib.Algebra.Group.Nat.Defs
import Mathlib.Data.List.Nodup

/-! # Pre-change clients and pending acknowledgements

The client map and the pending set of the stored controller agree between calls: only
registered clients are awaited, and every id is given out once. -/

namespace DeviceAndDisplay.PowerManager

namespace AckController

variable {H : Type} {c : AckController H}

/-- An acknowledgement of the controller's own transaction takes the client from the pending
set, any other one changes nothing. -/
theorem ack_pending (clientId : ClientId) (transactionId : TransactionId) (c : AckController H) :
    (c.ack clientId transactionId).2.1.transactionId = c.transactionId ∧
      (c.ack clientId transactionId).2.1.pending =
        if transactionId = c.transactionId then c.pending.erase clientId else c.pending := by
  unfold ack
  by_cases ht : transactionId = c.transactionId
  · by_cases hmem : clientId ∈ c.pending
    · simp only [ht, hmem, ne_eq, not_true_eq_false, if_false, if_true]
      split <;> exact ⟨rfl, rfl⟩
    · simp only [ht, hmem, ne_eq, not_true_eq_false, not_false_eq_true, if_false, if_true]
      exact ⟨trivial, (Finset.erase_eq_of_notMem hmem).symm⟩
  · simp [ht]

theorem ack_pending_subset (clientId : ClientId) (transactionId : TransactionId)
    (c : AckController H) : (c.ack clientId transactionId).2.1.pending ⊆ c.pending := by
  rw [(ack_pending clientId transactionId c).2]
  split
  · exact Finset.erase_subset _ _
  · exact subset_rfl

/-- The acknowledgement of a pending client of a running controller calls the handler exactly
when nobody else is pending. -/
theorem ack_calls_iff {clientId : ClientId} {handler : H} (hr : c.running = true)
    (hh : c.handler = some handler) (hmem : clientId ∈ c.pending) :
    (c.ack clientId c.transactionId).2.2 =
      if c.pending.erase clientId = ∅ then some ⟨handler, false, false⟩ else none := by
  simp only [ack, hr, hmem, ne_eq, not_true_eq_false, if_false, and_true]
  split
  · simp [callHandler, hh]
  · rfl

end AckController

namespace Implementation

open Transition

variable {env : Env} {m m' : Implementation}

/-! ### Registration -/

/-- The id that an action gives to a name that has none, with the name. -/
def registration (m : Implementation) : Env × AtomicAction → Option (ClientId × String)
  | (_, .api (.addPowerModePreChangeClient clientName)) =>
      if clientName ∈ m.modeChangeClients.map Prod.snd then none
      else (m.addPowerModePreChangeClient clientName).2.1.map fun id => (id, clientName)
  | _ => none

/-- The object with one more client. -/
def addClient (clientName : String) (m : Implementation) : Implementation :=
  { m with
    nextClientId := m.nextClientId + 1
    modeChangeClients := (m.nextClientId + 1, clientName) ::
      m.modeChangeClients.filter fun client => client.1 ≠ m.nextClientId + 1 }

theorem addPowerModePreChangeClient_new {clientName : String} (hne : clientName ≠ "")
    (hnew : clientName ∉ m.modeChangeClients.map Prod.snd) :
    m.addPowerModePreChangeClient clientName =
      (.errorNone, some (m.nextClientId + 1), m.addClient clientName) := by
  have hfind : (m.modeChangeClients.find? fun client => client.2 = clientName) = none := by
    refine List.find?_eq_none.mpr fun client hmem heq => ?_
    exact hnew (List.mem_map.mpr ⟨client, hmem, of_decide_eq_true heq⟩)
  rw [addPowerModePreChangeClient, if_neg hne, hfind]
  rfl

/-- A name that is registered under one id only gets that id again. -/
theorem addPowerModePreChangeClient_again {client : ClientId × String}
    (hnodup : (m.modeChangeClients.map Prod.snd).Nodup) (hmem : client ∈ m.modeChangeClients)
    (hne : client.2 ≠ "") :
    m.addPowerModePreChangeClient client.2 = (.errorNone, some client.1, m) := by
  have hfind : (m.modeChangeClients.find? fun other => other.2 = client.2) = some client := by
    cases hf : m.modeChangeClients.find? fun other => other.2 = client.2 with
    | none =>
        have hno := List.find?_eq_none.mp hf client hmem
        simp at hno
    | some other =>
        have hname : other.2 = client.2 := by simpa using List.find?_some hf
        rw [List.inj_on_of_nodup_map hnodup (List.mem_of_find?_eq_some hf) hmem hname]
  rw [addPowerModePreChangeClient, if_neg hne, hfind]

theorem addPowerModePreChangeClient_cases (env : Env) (clientName : String) :
    m.registration (env, .api (.addPowerModePreChangeClient clientName)) = none ∧
      (m.addPowerModePreChangeClient clientName).2.2 = m ∨
    clientName ≠ "" ∧ clientName ∉ m.modeChangeClients.map Prod.snd ∧
      m.registration (env, .api (.addPowerModePreChangeClient clientName)) =
        some (m.nextClientId + 1, clientName) ∧
      (m.addPowerModePreChangeClient clientName).2.2 = m.addClient clientName := by
  by_cases hnew : clientName ∈ m.modeChangeClients.map Prod.snd
  · left
    refine ⟨if_pos hnew, ?_⟩
    obtain ⟨client, hmem, heq⟩ := List.mem_map.mp hnew
    unfold addPowerModePreChangeClient
    split
    · rfl
    · split
      · rfl
      · rename_i hf
        exact absurd heq (by simpa using List.find?_eq_none.mp hf client hmem)
  · by_cases hne : clientName = ""
    · left
      refine ⟨?_, ?_⟩
      · rw [registration, if_neg hnew, addPowerModePreChangeClient, if_pos hne]
        rfl
      · rw [addPowerModePreChangeClient, if_pos hne]
    · right
      have hadd := addPowerModePreChangeClient_new hne hnew
      refine ⟨hne, hnew, ?_, ?_⟩
      · rw [registration, if_neg hnew, hadd]
        rfl
      · rw [hadd]

theorem removePowerModePreChangeClient_eq (env : Env) (clientId : ClientId) :
    (m.removePowerModePreChangeClient env clientId).2 = m ∧
      (∀ client ∈ m.modeChangeClients, client.1 ≠ clientId) ∨
    (∃ client ∈ m.modeChangeClients, client.1 = clientId) ∧
      (m.removePowerModePreChangeClient env clientId).2 =
        { m with
          modeChangeClients := m.modeChangeClients.filter fun client => client.1 ≠ clientId
          modeChangeController :=
            m.modeChangeController.map fun c => (AckController.ackClient clientId c).2.1
        }.runHandler env
          (m.modeChangeController.bind fun c => (AckController.ackClient clientId c).2.2) := by
  by_cases hany : (m.modeChangeClients.any fun client => client.1 = clientId) = true
  · right
    refine ⟨by simpa using hany, ?_⟩
    rw [removePowerModePreChangeClient, if_pos hany]
    cases hc : m.modeChangeController <;> rfl
  · left
    rw [removePowerModePreChangeClient, if_neg hany]
    refine ⟨rfl, fun client hmem heq => hany ?_⟩
    exact List.any_eq_true.mpr ⟨client, hmem, decide_eq_true heq⟩

/-! ### Steps that register nobody -/

theorem runHandler_frame (env : Env) (handlerCall : Option (HandlerCall Completion))
    (m : Implementation) : Frame m (m.runHandler env handlerCall) := by
  cases handlerCall with
  | none => constructor <;> rfl
  | some call =>
      exact (completionHandler_effect env call.handler call.isTimedout call.isRevoked m).frame

/-- The registered clients are the same. The stored controller awaits no others than before, or
it is a new one that awaits all of them. -/
structure SameClients (m m' : Implementation) : Prop where
  clients : m'.modeChangeClients = m.modeChangeClients
  nextClientId : m'.nextClientId = m.nextClientId
  nextTransactionId : m.nextTransactionId ≤ m'.nextTransactionId
  stored : ∀ c', m'.modeChangeController = some c' →
    (∃ c, m.modeChangeController = some c ∧ c'.transactionId = c.transactionId ∧
      c'.pending ⊆ c.pending) ∨
    m.nextTransactionId < c'.transactionId ∧
      c'.pending = (m.modeChangeClients.map Prod.fst).toFinset

theorem SameClients.of_same (hclients : m'.modeChangeClients = m.modeChangeClients)
    (hid : m'.nextClientId = m.nextClientId)
    (hnext : m'.nextTransactionId = m.nextTransactionId)
    (hstored : m'.modeChangeController = m.modeChangeController) : SameClients m m' :=
  ⟨hclients, hid, hnext.ge, fun c' hc' => .inl ⟨c', hstored ▸ hc', rfl, subset_rfl⟩⟩

/-- The stored controller takes a step of its own, after which its handler may be called. -/
theorem SameClients.of_stored (env : Env) {c c' : PreModeChangeController}
    (hc : m.modeChangeController = some c) (ht : c'.transactionId = c.transactionId)
    (hp : c'.pending ⊆ c.pending) (handlerCall : Option (HandlerCall Completion)) :
    SameClients m ({ m with modeChangeController := some c' }.runHandler env handlerCall) := by
  have hf := runHandler_frame env handlerCall { m with modeChangeController := some c' }
  refine ⟨hf.modeChangeClients, hf.nextClientId, hf.nextTransactionId.ge, ?_⟩
  intro d hd
  rw [hf.modeChangeController] at hd
  cases hd
  exact .inl ⟨c, hc, ht, hp⟩

theorem Requested.sameClients {newState : PowerState} {origin : Origin} (hs : m.Settled)
    (h : Requested env newState origin m m') : SameClients m m' := by
  cases h with
  | declined _ => exact .of_same rfl rfl rfl rfl
  | redundant _ _ _ =>
      rw [entered_eq, returnFromCall_eq]
      exact .of_same rfl rfl rfl rfl
  | @completed call c _ _ hcall _ _ =>
      have hf := (completionHandler_effect env (call.completion c) false false
        (m.prepared env newState origin)).frame
      have hstored := completed_controller env hs newState origin (call.completion c)
        (!call.isSync)
      rw [returnFromCall_eq] at hstored ⊢
      rw [prepared_eq hs] at hf
      refine ⟨?_, ?_, ?_, ?_⟩
      · rw [prepared_eq hs]
        exact hf.modeChangeClients
      · rw [prepared_eq hs]
        exact hf.nextClientId
      · rw [prepared_eq hs]
        exact (Nat.le_succ _).trans hf.nextTransactionId.ge
      · intro d hd
        rw [← Option.some.inj (hstored.symm.trans hd), freshController_eq]
        exact .inr ⟨Nat.lt_succ_self _, rfl⟩
  | @scheduled call c _ _ hcall hc _ =>
      rw [prepared_eq hs, returnFromCall_eq]
      refine ⟨rfl, rfl, Nat.le_succ _, ?_⟩
      rintro d ⟨⟩
      rw [hc, freshController_eq]
      exact .inr ⟨Nat.lt_succ_self _, rfl⟩

theorem timerExpired_sameClients
    (h : (m.timerDispatch.bind fun m => m.timerRun env) = some m') : SameClients m m' := by
  obtain ⟨c, c', handlerCall, hc, hexp, rfl⟩ := expire_of_timerExpired h
  obtain ⟨deadline, n, hj, heq⟩ := AckController.expire_eq_some hexp
  obtain ⟨rfl, rfl⟩ := Prod.mk.inj heq
  apply SameClients.of_stored env hc
  · rfl
  · exact subset_rfl

/-- An API call that neither adds nor removes a client. -/
theorem apiStep_sameClients {a : ApiAction} (h : m.apiStep env a = some m')
    (hadd : ∀ clientName, a ≠ .addPowerModePreChangeClient clientName)
    (hremove : ∀ clientId, a ≠ .removePowerModePreChangeClient clientId) : SameClients m m' := by
  cases a with
  | powerModePreChangeComplete clientId transactionId =>
      cases h
      unfold powerModePreChangeComplete
      split
      · exact .of_same rfl rfl rfl rfl
      · rename_i c hc
        apply SameClients.of_stored env hc
        · exact (AckController.ack_pending clientId transactionId c).1
        · exact AckController.ack_pending_subset clientId transactionId c
  | delayPowerModeChangeBy clientId transactionId delayPeriod =>
      cases h
      unfold delayPowerModeChangeBy
      split
      · exact .of_same rfl rfl rfl rfl
      · rename_i c hc
        obtain ⟨hk, _⟩ :=
          AckController.reschedule_kept clientId transactionId (delayPeriod * 1000) env.now c
        exact .of_stored env hc hk.transactionId hk.pending none
  | addPowerModePreChangeClient clientName => exact absurd rfl (hadd clientName)
  | removePowerModePreChangeClient clientId => exact absurd rfl (hremove clientId)
  | register kind notification =>
      cases h
      rw [register_snd]
      exact .of_same rfl rfl rfl rfl
  | unregister kind notification =>
      cases h
      rw [unregister_snd]
      exact .of_same rfl rfl rfl rfl
  | preChangeJob i =>
      obtain ⟨job, _, rfl⟩ := Option.map_eq_some_iff.mp h
      exact .of_same rfl rfl rfl rfl
  | event kind =>
      simp only [apiStep] at h
      split at h
      · cases h
        rw [dispatchEvent_eq]
        exact .of_same rfl rfl rfl rfl
      · cases h

/-- A step adds a client, removes one, or leaves the client map alone. -/
theorem atomicStep_clients (hs : m.Settled) {a : AtomicAction}
    (h : atomicStep m (env, a) = some m') :
    (∃ clientName, a = .api (.addPowerModePreChangeClient clientName)) ∨
    (∃ clientId, a = .api (.removePowerModePreChangeClient clientId)) ∨
    m.registration (env, a) = none ∧ SameClients m m' := by
  cases a with
  | setPowerState newState =>
      right; right
      exact ⟨rfl, (setPowerState_requested hs h).sameClients hs⟩
  | wakeup i =>
      right; right
      refine ⟨rfl, ?_⟩
      obtain ⟨⟨newState, origin, m₀⟩, hw, h⟩ := Option.bind_eq_some_iff.mp h
      obtain ⟨entries, rfl⟩ := requested_eq (a := .wakeup i) hw
      have hs₀ : (m.setEntries entries).Settled :=
        hs.of_same hs.selfLock hs.call rfl rfl rfl rfl rfl
      obtain ⟨h₁, h₂, h₃, h₄⟩ := (setPowerState_requested hs₀ h).sameClients hs₀
      exact ⟨h₁, h₂, h₃, h₄⟩
  | timerExpired =>
      right; right
      exact ⟨rfl, timerExpired_sameClients h⟩
  | sleep a =>
      right; right
      obtain ⟨c, _, rfl⟩ := sleepStep_cases h
      exact ⟨rfl, .of_same rfl rfl rfl rfl⟩
  | api a =>
      by_cases hadd : ∃ clientName, a = .addPowerModePreChangeClient clientName
      · obtain ⟨clientName, rfl⟩ := hadd
        exact .inl ⟨clientName, rfl⟩
      · by_cases hremove : ∃ clientId, a = .removePowerModePreChangeClient clientId
        · obtain ⟨clientId, rfl⟩ := hremove
          exact .inr (.inl ⟨clientId, rfl⟩)
        · right; right
          refine ⟨?_, apiStep_sameClients h (fun n hn => hadd ⟨n, hn⟩)
            fun i hi => hremove ⟨i, hi⟩⟩
          cases a with
          | addPowerModePreChangeClient clientName => exact absurd ⟨clientName, rfl⟩ hadd
          | _ => rfl

/-! ### The invariant -/

/-- The client map, the ids given out so far and the pending set agree. -/
structure Enrolled (history : List (ClientId × String)) (m : Implementation) : Prop where
  numbered : history.map Prod.fst =
    (List.range history.length).map fun i => UInt32.ofNat (i + 1)
  next : m.nextClientId = UInt32.ofNat history.length
  registered : ∀ client ∈ m.modeChangeClients, client ∈ history
  ids : (m.modeChangeClients.map Prod.fst).Nodup
  names : (m.modeChangeClients.map Prod.snd).Nodup
  named : ∀ client ∈ m.modeChangeClients, client.2 ≠ ""
  pending : ∀ c, m.modeChangeController = some c →
    ∀ id ∈ c.pending, id ∈ m.modeChangeClients.map Prod.fst

variable {history : List (ClientId × String)}

theorem enrolled_init (b : Bool) (pc : PowerController) : (init b pc).Enrolled [] where
  numbered := rfl
  next := rfl
  registered := by simp [init]
  ids := .nil
  names := .nil
  named := by simp [init]
  pending := by simp [init]

/-- The counter has not wrapped around, so no id occurs twice. -/
theorem Enrolled.history_nodup (he : m.Enrolled history) (hfew : history.length < 2 ^ 32) :
    (history.map Prod.fst).Nodup := by
  rw [he.numbered]
  refine List.Nodup.map_on ?_ List.nodup_range
  intro i hi j hj hij
  rw [List.mem_range] at hi hj
  have hmod := congrArg UInt32.toNat hij
  rw [UInt32.toNat_ofNat_of_lt' (by simp only [UInt32.size]; omega),
    UInt32.toNat_ofNat_of_lt' (by simp only [UInt32.size]; omega)] at hmod
  omega

theorem Enrolled.of_sameClients (he : m.Enrolled history) (h : SameClients m m') :
    m'.Enrolled history where
  numbered := he.numbered
  next := h.nextClientId.trans he.next
  registered := h.clients ▸ he.registered
  ids := h.clients ▸ he.ids
  names := h.clients ▸ he.names
  named := h.clients ▸ he.named
  pending := by
    intro c' hc' id hid
    rw [h.clients]
    rcases h.stored c' hc' with ⟨c, hc, _, hsub⟩ | ⟨_, hp⟩
    · exact he.pending c hc id (hsub hid)
    · rw [hp] at hid
      exact List.mem_toFinset.mp hid

theorem Enrolled.addClient (he : m.Enrolled history) {clientName : String}
    (hne : clientName ≠ "") (hnew : clientName ∉ m.modeChangeClients.map Prod.snd) :
    (m.addClient clientName).Enrolled (history ++ [(m.nextClientId + 1, clientName)]) where
  numbered := by
    rw [List.map_append, he.numbered, List.length_append, List.length_singleton,
      List.range_succ, List.map_append, he.next]
    simp [UInt32.ofNat_add]
  next := by
    have h := he.next
    simp [Implementation.addClient, h, UInt32.ofNat_add]
  registered := by
    intro client hmem
    rcases List.mem_cons.mp hmem with rfl | hmem
    · simp
    · exact List.mem_append_left _ (he.registered client (List.mem_filter.mp hmem).1)
  ids := by
    refine List.nodup_cons.mpr ⟨?_, he.ids.sublist (List.filter_sublist.map _)⟩
    intro hmem
    obtain ⟨client, hclient, heq⟩ := List.mem_map.mp hmem
    exact absurd heq (by simpa using (List.mem_filter.mp hclient).2)
  names := by
    refine List.nodup_cons.mpr ⟨?_, he.names.sublist (List.filter_sublist.map _)⟩
    intro hmem
    obtain ⟨client, hclient, heq⟩ := List.mem_map.mp hmem
    exact hnew (List.mem_map.mpr ⟨client, (List.mem_filter.mp hclient).1, heq⟩)
  named := by
    intro client hmem
    rcases List.mem_cons.mp hmem with rfl | hmem
    · exact hne
    · exact he.named client (List.mem_filter.mp hmem).1
  pending := by
    intro c hc id hid
    obtain ⟨client, hclient, rfl⟩ := List.mem_map.mp (he.pending c hc id hid)
    by_cases hsame : client.1 = m.nextClientId + 1
    · exact List.mem_map.mpr ⟨_, List.mem_cons_self, hsame.symm⟩
    · refine List.mem_map.mpr ⟨client, List.mem_cons_of_mem _ ?_, rfl⟩
      exact List.mem_filter.mpr ⟨hclient, by simpa using hsame⟩

/-- The removed client is taken from the pending set in the same call. -/
theorem Enrolled.removeClient (he : m.Enrolled history) (env : Env) (clientId : ClientId) :
    (m.removePowerModePreChangeClient env clientId).2.Enrolled history := by
  rcases removePowerModePreChangeClient_eq env clientId with ⟨heq, _⟩ | ⟨_, heq⟩
  · rw [heq]
    exact he
  · have hf := runHandler_frame env
      (m.modeChangeController.bind fun c => (AckController.ackClient clientId c).2.2)
      { m with
        modeChangeClients := m.modeChangeClients.filter fun client => client.1 ≠ clientId
        modeChangeController :=
          m.modeChangeController.map fun c => (AckController.ackClient clientId c).2.1 }
    rw [heq]
    refine ⟨he.numbered, hf.nextClientId.trans he.next, ?_, ?_, ?_, ?_, ?_⟩
    · rw [hf.modeChangeClients]
      exact fun client hmem => he.registered client (List.mem_filter.mp hmem).1
    · rw [hf.modeChangeClients]
      exact he.ids.sublist (List.filter_sublist.map _)
    · rw [hf.modeChangeClients]
      exact he.names.sublist (List.filter_sublist.map _)
    · rw [hf.modeChangeClients]
      exact fun client hmem => he.named client (List.mem_filter.mp hmem).1
    · intro c' hc' id hid
      rw [hf.modeChangeController] at hc'
      obtain ⟨c, hc, rfl⟩ := Option.map_eq_some_iff.mp hc'
      rw [AckController.ackClient, (AckController.ack_pending clientId c.transactionId c).2,
        if_pos rfl] at hid
      obtain ⟨hne, hid⟩ := Finset.mem_erase.mp hid
      obtain ⟨client, hclient, rfl⟩ := List.mem_map.mp (he.pending c hc id hid)
      rw [hf.modeChangeClients]
      exact List.mem_map.mpr ⟨client, List.mem_filter.mpr ⟨hclient, by simpa using hne⟩, rfl⟩

theorem enrolled_step (hs : m.Settled) (he : m.Enrolled history) {a : AtomicAction}
    (h : atomicStep m (env, a) = some m') :
    m'.Enrolled (history ++ (m.registration (env, a)).toList) := by
  rcases atomicStep_clients hs h with ⟨clientName, rfl⟩ | ⟨clientId, rfl⟩ | ⟨hnone, hsame⟩
  · cases h
    rcases addPowerModePreChangeClient_cases env clientName with
      ⟨hnone, heq⟩ | ⟨hne, hnew, hreg, heq⟩
    · rw [hnone, heq, Option.toList_none, List.append_nil]
      exact he
    · rw [hreg, heq, Option.toList_some]
      exact he.addClient hne hnew
  · cases h
    rw [registration, Option.toList_none, List.append_nil]
    · exact he.removeClient env clientId
    · intro _ _
      simp
  · rw [hnone, Option.toList_none, List.append_nil]
    exact he.of_sameClients hsame

/-! ### Later registrations -/

/-- In a step the stored controller gets no further clients to await, or it is a new one. -/
theorem atomicStep_pending (hs : m.Settled) {a : AtomicAction}
    (h : atomicStep m (env, a) = some m') :
    m.nextTransactionId ≤ m'.nextTransactionId ∧
      ∀ c', m'.modeChangeController = some c' →
        (∃ c, m.modeChangeController = some c ∧ c'.transactionId = c.transactionId ∧
          c'.pending ⊆ c.pending) ∨
        m.nextTransactionId < c'.transactionId := by
  rcases atomicStep_clients hs h with ⟨clientName, rfl⟩ | ⟨clientId, rfl⟩ | ⟨_, hsame⟩
  · cases h
    rcases addPowerModePreChangeClient_cases env clientName with ⟨_, heq⟩ | ⟨_, _, _, heq⟩
    · rw [heq]
      exact ⟨le_rfl, fun c hc => .inl ⟨c, hc, rfl, subset_rfl⟩⟩
    · rw [heq]
      exact ⟨le_rfl, fun c hc => .inl ⟨c, hc, rfl, subset_rfl⟩⟩
  · cases h
    rcases removePowerModePreChangeClient_eq env clientId with ⟨heq, _⟩ | ⟨_, heq⟩
    · rw [heq]
      exact ⟨le_rfl, fun c hc => .inl ⟨c, hc, rfl, subset_rfl⟩⟩
    · rw [heq]
      have hf := runHandler_frame env
        (m.modeChangeController.bind fun c => (AckController.ackClient clientId c).2.2)
        { m with
          modeChangeClients := m.modeChangeClients.filter fun client => client.1 ≠ clientId
          modeChangeController :=
            m.modeChangeController.map fun c => (AckController.ackClient clientId c).2.1 }
      refine ⟨hf.nextTransactionId.ge, fun c' hc' => .inl ?_⟩
      rw [hf.modeChangeController] at hc'
      obtain ⟨c, hc, rfl⟩ := Option.map_eq_some_iff.mp hc'
      exact ⟨c, hc, (AckController.ack_pending clientId c.transactionId c).1,
        AckController.ack_pending_subset clientId c.transactionId c⟩
  · refine ⟨hsame.nextTransactionId, fun c' hc' => ?_⟩
    exact (hsame.stored c' hc').imp id And.left

/-- Whoever a controller does not await when some moment is past, it never awaits. -/
theorem pending_shrinks {m₁ : Implementation} {as : List (Env × AtomicAction)}
    {c₁ : PreModeChangeController} (hs : m₁.Settled) (hc₁ : m₁.modeChangeController = some c₁)
    (hr : run atomicStep m₁ as = some m) {c : PreModeChangeController}
    (hc : m.modeChangeController = some c) (ht : c.transactionId = c₁.transactionId) :
    c.pending ⊆ c₁.pending := by
  have hinv : m.Settled ∧ m₁.nextTransactionId ≤ m.nextTransactionId ∧
      ∀ c, m.modeChangeController = some c → c.transactionId = c₁.transactionId →
        c.pending ⊆ c₁.pending := by
    refine (Reachable.invariant (I := fun m => m.Settled ∧
      m₁.nextTransactionId ≤ m.nextTransactionId ∧
      ∀ c, m.modeChangeController = some c → c.transactionId = c₁.transactionId →
        c.pending ⊆ c₁.pending) ?_ ⟨hs, le_rfl, ?_⟩ ⟨as, hr⟩)
    · rintro s ⟨env, a⟩ t ⟨hss, hnext, hsub⟩ hst
      obtain ⟨hmono, hpending⟩ := atomicStep_pending hss hst
      refine ⟨settled_step hss hst, hnext.trans hmono, fun c' hc' ht' => ?_⟩
      rcases hpending c' hc' with ⟨d, hd, htd, hsubd⟩ | hlt
      · exact hsubd.trans (hsub d hd (htd ▸ ht'))
      · rw [ht', hs.transactionId c₁ hc₁] at hlt
        exact absurd hnext (Nat.not_le.mpr hlt)
    · intro d hd _
      rw [← Option.some.inj (hc₁.symm.trans hd)]
  exact hinv.2.2 c hc ht

/-! ### The last call -/

/-- The acknowledgement or the removal of a pending client takes it from the pending set, and
runs the completion handler when it was the last one. -/
theorem pending_client_done (hs : m.Settled) (he : m.Enrolled history)
    {c : PreModeChangeController} (hc : m.modeChangeController = some c) (hr : c.running = true)
    {id : ClientId} (hid : id ∈ c.pending) (env : Env) {a : ApiAction}
    (ha : a = .powerModePreChangeComplete id c.transactionId ∨
      a = .removePowerModePreChangeClient id) :
    ∃ m' c' es, atomicStep m (env, .api a) = some m' ∧ m'.log = es ++ m.log ∧
      m'.modeChangeController = some c' ∧ c'.transactionId = c.transactionId ∧
      c'.pending = c.pending.erase id ∧
      (c'.pending = ∅ ↔ .completionHandler c.transactionId false false ∈ es) := by
  obtain ⟨_, h, hh, hsv⟩ := hs.running c hc hr
  obtain ⟨hack_id, hack_pending⟩ := AckController.ack_pending id c.transactionId c
  rw [if_pos rfl] at hack_pending
  have hcall := AckController.ack_calls_iff hr hh hid
  obtain ⟨clients, hstep⟩ : ∃ clients, atomicStep m (env, .api a) =
      some ({ m with
        modeChangeController := some (c.ack id c.transactionId).2.1
        modeChangeClients := clients
      }.runHandler env (c.ack id c.transactionId).2.2) := by
    rcases ha with rfl | rfl
    · refine ⟨m.modeChangeClients, ?_⟩
      simp only [atomicStep, apiStep, powerModePreChangeComplete, hc]
    · obtain ⟨client, hclient, heq⟩ := List.mem_map.mp (he.pending c hc id hid)
      rcases removePowerModePreChangeClient_eq env id with ⟨_, hno⟩ | ⟨_, hrem⟩
      · exact absurd heq (hno client hclient)
      · refine ⟨m.modeChangeClients.filter fun client => client.1 ≠ id,
          congrArg some (hrem.trans ?_)⟩
        rw [hc]
        rfl
  have hf := runHandler_frame env (c.ack id c.transactionId).2.2 { m with
    modeChangeController := some (c.ack id c.transactionId).2.1
    modeChangeClients := clients }
  by_cases hlast : c.pending.erase id = ∅
  · rw [if_pos hlast] at hcall
    have heff := completionHandler_effect env h false false { m with
      modeChangeController := some (c.ack id c.transactionId).2.1
      modeChangeClients := clients }
    rw [hcall] at hstep
    refine ⟨_, _, _, hstep, heff.log, heff.frame.modeChangeController, hack_id, hack_pending, ?_⟩
    rw [hack_pending, ← hsv.transactionId]
    exact iff_of_true hlast (by simp [completionLog])
  · rw [if_neg hlast] at hcall
    rw [hcall] at hstep
    refine ⟨_, _, [], hstep, rfl, rfl, hack_id, hack_pending, ?_⟩
    rw [hack_pending]
    exact iff_of_false hlast (by simp)

/-- What clients can rely on between calls, if the ids of `history` were given out. -/
structure Agreement (history : List (ClientId × String)) (m : Implementation) : Prop where
  ids : (m.modeChangeClients.map Prod.fst).Nodup
  names : (m.modeChangeClients.map Prod.snd).Nodup
  again : ∀ client ∈ m.modeChangeClients,
    m.addPowerModePreChangeClient client.2 = (.errorNone, some client.1, m)
  once : (history.map Prod.fst).Nodup
  registered : ∀ client ∈ m.modeChangeClients, client ∈ history
  pending : ∀ c, m.modeChangeController = some c → c.running = true →
    ∀ id ∈ c.pending, id ∈ m.modeChangeClients.map Prod.fst
  lastCall : ∀ c, m.modeChangeController = some c → c.running = true → ∀ id ∈ c.pending,
    ∀ env a, a = .powerModePreChangeComplete id c.transactionId ∨
        a = .removePowerModePreChangeClient id →
      ∃ m' c' es, atomicStep m (env, .api a) = some m' ∧ m'.log = es ++ m.log ∧
        m'.modeChangeController = some c' ∧ c'.transactionId = c.transactionId ∧
        c'.pending = c.pending.erase id ∧
        (c'.pending = ∅ ↔ .completionHandler c.transactionId false false ∈ es)

theorem Enrolled.agreement (hs : m.Settled) (he : m.Enrolled history)
    (hfew : history.length < 2 ^ 32) : m.Agreement history where
  ids := he.ids
  names := he.names
  again := fun client hmem =>
    addPowerModePreChangeClient_again he.names hmem (he.named client hmem)
  once := he.history_nodup hfew
  registered := he.registered
  pending := fun c hc _ => he.pending c hc
  lastCall := fun _ hc hr _ hid env _ ha => pending_client_done hs he hc hr hid env ha

theorem enrolled_of_run {b : Bool} {pc : PowerController} {as : List (Env × AtomicAction)}
    (hr : run atomicStep (init b pc) as = some m) :
    m.Settled ∧ m.Enrolled (outputs atomicStep registration (init b pc) as) := by
  rw [← List.nil_append (outputs _ _ _ _)]
  refine run_outputs_invariant (I := fun history m => m.Settled ∧ m.Enrolled history) ?_
    ⟨settled_init b pc, enrolled_init b pc⟩ hr
  rintro history s ⟨env, a⟩ t ⟨hs, he⟩ ht
  exact ⟨settled_step hs ht, enrolled_step hs he ht⟩

/-- With fewer registrations than there are ids, clients and pending acknowledgements agree
throughout a run, and no transition awaits a client that registered after it started. -/
theorem clients_and_acks_consistent (b : Bool) (pc : PowerController)
    (as : List (Env × AtomicAction)) (m : Implementation)
    (hr : run atomicStep (init b pc) as = some m)
    (hfew : (outputs atomicStep registration (init b pc) as).length < 2 ^ 32) :
    m.Agreement (outputs atomicStep registration (init b pc) as) ∧
      ∀ as₁ a as₂ m₁ client, as = as₁ ++ a :: as₂ → run atomicStep (init b pc) as₁ = some m₁ →
        m₁.registration a = some client →
        ∀ c₁ c, m₁.modeChangeController = some c₁ → m.modeChangeController = some c →
          c.transactionId = c₁.transactionId → client.1 ∉ c.pending := by
  obtain ⟨hs, he⟩ := enrolled_of_run hr
  refine ⟨he.agreement hs hfew, ?_⟩
  intro as₁ a as₂ m₁ client has hr₁ hreg c₁ c hc₁ hc ht hmem
  obtain ⟨hs₁, he₁⟩ := enrolled_of_run hr₁
  -- the controller only loses clients from the registration on
  have hrest : run atomicStep m₁ (a :: as₂) = some m := by
    rw [has, run_append, hr₁] at hr
    exact hr
  have hold : client.1 ∈ c₁.pending := pending_shrinks hs₁ hc₁ hrest hc ht hmem
  obtain ⟨known, hknown, heq⟩ := List.mem_map.mp (he₁.pending c₁ hc₁ client.1 hold)
  -- and the id it would have awaited before was given out twice
  obtain ⟨m₂, hm₂, hr₂⟩ := run_cons_eq_some.mp hrest
  have hnodup := he.history_nodup hfew
  rw [has, outputs_append hr₁, outputs_cons hm₂, hreg, List.map_append, List.map_append] at hnodup
  refine (List.disjoint_of_nodup_append hnodup) (a := client.1) ?_ ?_
  · exact List.mem_map.mpr ⟨known, he₁.registered known hknown, heq⟩
  · simp

/-- Two clients, one of which registers while the transition is pending. -/
def lateClientRun : List (Env × AtomicAction) :=
  [({}, .api (.addPowerModePreChangeClient "first")), ({}, .setPowerState .standby),
    ({}, .api (.addPowerModePreChangeClient "second"))]

theorem clients_and_acks_consistent_late :
    ∃ m c, run atomicStep (init false {}) lateClientRun = some m ∧
      m.modeChangeClients = [(2, "second"), (1, "first")] ∧
      m.modeChangeController = some c ∧ c.pending = {1} ∧ 2 ∉ c.pending := by
  have hr : run atomicStep (init false {}) lateClientRun = some _ := rfl
  have h := clients_and_acks_consistent false {} lateClientRun _ hr (by decide)
  exact ⟨_, _, hr, rfl, rfl, rfl, h.2 (lateClientRun.take 2) _ [] _ (2, "second") rfl rfl rfl _ _
    rfl rfl rfl⟩

end Implementation

end DeviceAndDisplay.PowerManager
