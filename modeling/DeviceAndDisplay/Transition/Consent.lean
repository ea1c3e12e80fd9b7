import DeviceAndDisplay.Transition.Run
import Mathlib.Data.Finset.Basic

/-! # Changing a state by consent

A service changes its state when every client that was enrolled at the proposal has answered or
left, or when time has run out. A later proposal takes the place of an earlier one. -/

namespace DeviceAndDisplay.Consent

/-- A change that awaits the answers of some clients. -/
@[ext] structure Proposal (σ κ : Type*) where
  target : σ
  awaited : Finset κ

@[ext] structure Service (σ κ : Type*) where
  state : σ
  previous : σ
  clients : Finset κ
  /-- How many changes were proposed; the last one has this number. -/
  proposed : ℕ
  /-- The target that was proposed last. -/
  latest : Option σ
  proposal : Option (Proposal σ κ)
  /-- The changes made, oldest first. -/
  changes : List (σ × σ)

inductive Action (σ κ : Type*) where
  | enrol (client : κ)
  | leave (client : κ)
  | answer (client : κ) (number : ℕ)
  | propose (target : σ)
  | timeout

/-- An action, with the states that the device accepts while it is performed. -/
structure Input (σ κ : Type*) where
  accepts : σ → Bool
  action : Action σ κ

variable {σ κ : Type*} [DecidableEq σ] [DecidableEq κ]

namespace Service

/-- The proposal is over; the change is made if the device accepts it. -/
def conclude (accepts : σ → Bool) (target : σ) (s : Service σ κ) : Service σ κ :=
  let s := { s with proposal := none }
  if accepts target then
    { s with state := target, previous := s.state, changes := s.changes ++ [(s.state, target)] }
  else
    s

/-- The client is no longer awaited. -/
def discharge (accepts : σ → Bool) (client : κ) (s : Service σ κ) : Service σ κ :=
  match s.proposal with
  | none => s
  | some p =>
      if client ∈ p.awaited then
        if p.awaited.erase client = ∅ then
          s.conclude accepts p.target
        else
          { s with proposal := some { p with awaited := p.awaited.erase client } }
      else
        s

/-- A target that was just proposed is not proposed again; an urgent change awaits nobody. -/
def propose (urgent : σ → σ → Bool) (accepts : σ → Bool) (target : σ) (s : Service σ κ) :
    Service σ κ :=
  if target = s.state ∨ s.latest = some target then
    s
  else
    let s := { s with proposed := s.proposed + 1, latest := some target }
    if s.clients = ∅ ∨ urgent s.state target then
      s.conclude accepts target
    else
      { s with proposal := some ⟨target, s.clients⟩ }

def step (urgent : σ → σ → Bool) (s : Service σ κ) (input : Input σ κ) : Service σ κ :=
  match input.action with
  | .enrol client => { s with clients := insert client s.clients }
  | .leave client =>
      if client ∈ s.clients then
        { s with clients := s.clients.erase client }.discharge input.accepts client
      else
        s
  | .answer client number =>
      if number = s.proposed then s.discharge input.accepts client else s
  | .propose target => s.propose urgent input.accepts target
  | .timeout =>
      match s.proposal with
      | none => s
      | some p => s.conclude input.accepts p.target

/-- The service after all the inputs. -/
def after (urgent : σ → σ → Bool) (s : Service σ κ) (inputs : List (Input σ κ)) : Service σ κ :=
  inputs.foldl (step urgent) s

/-! ### What one input does -/

variable {urgent : σ → σ → Bool} {accepts : σ → Bool} {s s₀ before : Service σ κ} {target : σ}
  {client : κ} {input : Input σ κ} {done later : List (Input σ κ)}

theorem after_concat (s : Service σ κ) (done : List (Input σ κ)) (input : Input σ κ) :
    s.after urgent (done ++ [input]) = (s.after urgent done).step urgent input :=
  List.foldl_concat ..

omit [DecidableEq σ] [DecidableEq κ] in
theorem conclude_proposal (accepts : σ → Bool) (target : σ) (s : Service σ κ) :
    (s.conclude accepts target).proposal = none := by
  unfold conclude
  split <;> rfl

omit [DecidableEq σ] [DecidableEq κ] in
theorem conclude_changes (accepts : σ → Bool) (target : σ) (s : Service σ κ) :
    (s.conclude accepts target).changes =
      s.changes ++ if accepts target then [(s.state, target)] else [] := by
  unfold conclude
  split <;> simp

omit [DecidableEq σ] in
theorem discharge_cases (accepts : σ → Bool) (client : κ) (s : Service σ κ) :
    s.discharge accepts client = s ∨
    ∃ p, s.proposal = some p ∧
      (p.awaited.erase client = ∅ ∧
          s.discharge accepts client = s.conclude accepts p.target ∨
        s.discharge accepts client =
          { s with proposal := some { p with awaited := p.awaited.erase client } }) := by
  unfold discharge
  cases hp : s.proposal with
  | none => exact .inl rfl
  | some p =>
      by_cases hmem : client ∈ p.awaited
      · right
        refine ⟨p, rfl, ?_⟩
        by_cases hlast : p.awaited.erase client = ∅
        · simp [hmem, hlast]
        · simp [hmem, hlast]
      · simp [hmem]

/-! ### Consent -/

/-- Of the inputs, those in `later` came after the proposal that was made to the service `before`;
each later one that proposes anything proposes the same or the state already reached. -/
structure ProposedBy (urgent : σ → σ → Bool) (s₀ : Service σ κ) (done : List (Input σ κ))
    (before : Service σ κ) (target : σ) (later : List (Input σ κ)) : Prop where
  split : ∃ earlier input, done = earlier ++ input :: later ∧ input.action = .propose target ∧
    before = s₀.after urgent earlier
  last : ∀ input ∈ later, ∀ other, input.action = .propose other →
    other = target ∨ other = before.state

omit [DecidableEq σ] [DecidableEq κ] in
/-- The client answered the change of that number, or left. -/
def Answered (number : ℕ) (client : κ) (inputs : List (Input σ κ)) : Prop :=
  ∃ input ∈ inputs, input.action = .answer client number ∨ input.action = .leave client

theorem ProposedBy.extend (h : ProposedBy urgent s₀ done before target later)
    (hlast : ∀ other, input.action = .propose other → other = target ∨ other = before.state) :
    ProposedBy urgent s₀ (done ++ [input]) before target (later ++ [input]) where
  split := by
    obtain ⟨earlier, first, hdone, haction, hbefore⟩ := h.split
    exact ⟨earlier, first, by rw [hdone, List.append_assoc]; rfl, haction, hbefore⟩
  last := by
    intro other hother
    rcases List.mem_append.mp hother with hold | hnew
    · exact h.last other hold
    · rw [List.mem_singleton.mp hnew]
      exact hlast

omit [DecidableEq σ] [DecidableEq κ] in
theorem Answered.extend {number : ℕ} (h : Answered number client later) :
    Answered number client (later ++ [input]) := by
  obtain ⟨answer, hmem, haction⟩ := h
  exact ⟨answer, List.mem_append_left _ hmem, haction⟩

omit [DecidableEq σ] [DecidableEq κ] in
theorem answered_concat {number : ℕ}
    (h : input.action = .answer client number ∨ input.action = .leave client) :
    Answered number client (later ++ [input]) :=
  ⟨input, by simp, h⟩

/-- How an open proposal came about, and who has answered it since. -/
structure Open (urgent : σ → σ → Bool) (s₀ : Service σ κ) (done : List (Input σ κ))
    (s : Service σ κ) (p : Proposal σ κ) (before : Service σ κ) (later : List (Input σ κ)) :
    Prop where
  proposed : ProposedBy urgent s₀ done before p.target later
  state : s.state = before.state
  number : s.proposed = before.proposed + 1
  latest : s.latest = some p.target
  clients : ∀ client ∈ before.clients, client ∈ p.awaited ∨ Answered s.proposed client later

/-- Every proposal that is open has such a history. -/
def Recorded (urgent : σ → σ → Bool) (s₀ : Service σ κ) (done : List (Input σ κ))
    (s : Service σ κ) : Prop :=
  ∀ p, s.proposal = some p → ∃ before later, Open urgent s₀ done s p before later

/-- The proposal stays open; the clients that are not awaited any more have answered. -/
theorem Open.extend {p : Proposal σ κ} (h : Open urgent s₀ done s p before later)
    {s' : Service σ κ} {awaited : Finset κ} (hstate : s'.state = s.state)
    (hnumber : s'.proposed = s.proposed) (hlatest : s'.latest = s.latest)
    (hawaited : ∀ client ∈ p.awaited, client ∈ awaited ∨
      input.action = .answer client s.proposed ∨ input.action = .leave client)
    (hlast : ∀ other, input.action = .propose other → other = p.target ∨ other = s.state) :
    Open urgent s₀ (done ++ [input]) s' { p with awaited := awaited } before
      (later ++ [input]) where
  proposed := h.proposed.extend (h.state ▸ hlast)
  state := hstate.trans h.state
  number := hnumber.trans h.number
  latest := hlatest.trans h.latest
  clients := by
    intro client hclient
    rw [hnumber]
    rcases h.clients client hclient with hstill | hanswered
    · exact (hawaited client hstill).imp id answered_concat
    · exact .inr hanswered.extend

/-- An input that proposes nothing and leaves the proposal alone. -/
theorem Recorded.extend (h : Recorded urgent s₀ done s) {s' : Service σ κ}
    (hstate : s'.state = s.state) (hnumber : s'.proposed = s.proposed)
    (hlatest : s'.latest = s.latest) (hproposal : s'.proposal = s.proposal)
    (hlast : ∀ other, input.action = .propose other → other = s.state ∨ s.latest = some other) :
    Recorded urgent s₀ (done ++ [input]) s' := by
  intro p hp
  obtain ⟨before, later, ho⟩ := h p (hproposal ▸ hp)
  refine ⟨before, _, ho.extend hstate hnumber hlatest (fun _ hmem => .inl hmem) ?_⟩
  intro other hother
  rcases hlast other hother with heq | heq
  · exact .inr heq
  · exact .inl (Option.some.inj (heq.symm.trans ho.latest))

theorem recorded_of_none (h : s.proposal = none) : Recorded urgent s₀ done s := by
  intro p hp
  rw [h] at hp
  cases hp

/-- An answer or the departure of a client. -/
theorem Recorded.discharge (h : Recorded urgent s₀ done s) {clients : Finset κ}
    (hinput : input.action = .answer client s.proposed ∨ input.action = .leave client) :
    Recorded urgent s₀ (done ++ [input])
      ({ s with clients := clients }.discharge input.accepts client) := by
  have hnothing : ∀ other, input.action ≠ .propose other := by
    intro other hother
    rcases hinput with hi | hi <;> rw [hi] at hother <;> cases hother
  rcases discharge_cases input.accepts client { s with clients := clients } with
    heq | ⟨p, hp, ⟨_, heq⟩ | heq⟩
  · rw [heq]
    exact h.extend rfl rfl rfl rfl fun other hother => absurd hother (hnothing other)
  · rw [heq]
    exact recorded_of_none (conclude_proposal _ _ _)
  · rw [heq]
    intro p' hp'
    cases hp'
    obtain ⟨before, later, ho⟩ := h p hp
    refine ⟨before, _, ho.extend rfl rfl rfl ?_ fun other hother => absurd hother (hnothing other)⟩
    intro other hother
    by_cases hsame : other = client
    · right
      rw [hsame]
      exact hinput
    · exact .inl (Finset.mem_erase.mpr ⟨hsame, hother⟩)

/-- A fresh target is proposed, or nothing happens. -/
theorem propose_cases (urgent : σ → σ → Bool) (accepts : σ → Bool) (target : σ)
    (s : Service σ κ) :
    (target = s.state ∨ s.latest = some target) ∧ s.propose urgent accepts target = s ∨
    (s.clients = ∅ ∨ urgent s.state target = true) ∧ s.propose urgent accepts target =
      { s with proposed := s.proposed + 1, latest := some target }.conclude accepts target ∨
    s.propose urgent accepts target = { s with
      proposed := s.proposed + 1
      latest := some target
      proposal := some ⟨target, s.clients⟩ } := by
  unfold propose
  by_cases hold : target = s.state ∨ s.latest = some target
  · exact .inl ⟨hold, if_pos hold⟩
  · right
    rw [if_neg hold]
    by_cases hurgent : s.clients = ∅ ∨ urgent s.state target = true
    · exact .inl ⟨hurgent, if_pos hurgent⟩
    · exact .inr (if_neg hurgent)

theorem Recorded.step (h : Recorded urgent s₀ done (s₀.after urgent done)) (input : Input σ κ) :
    Recorded urgent s₀ (done ++ [input]) (s₀.after urgent (done ++ [input])) := by
  rw [after_concat]
  generalize hs : s₀.after urgent done = s at h ⊢
  cases haction : input.action with
  | enrol client =>
      simp only [Service.step, haction]
      exact h.extend rfl rfl rfl rfl (by simp [haction])
  | leave client =>
      simp only [Service.step, haction]
      split
      · exact h.discharge (.inr haction)
      · exact h.extend rfl rfl rfl rfl (by simp [haction])
  | answer client number =>
      simp only [Service.step, haction]
      split
      · rename_i hnumber
        exact h.discharge (.inl (by rw [haction, hnumber]))
      · exact h.extend rfl rfl rfl rfl (by simp [haction])
  | propose target =>
      simp only [Service.step, haction]
      rcases propose_cases urgent input.accepts target s with
        ⟨hold, heq⟩ | ⟨_, heq⟩ | heq
      · rw [heq]
        refine h.extend rfl rfl rfl rfl fun other hother => ?_
        rw [haction] at hother
        cases hother
        exact hold
      · rw [heq]
        exact recorded_of_none (conclude_proposal _ _ _)
      · rw [heq]
        intro p hp
        cases hp
        refine ⟨s, [], ⟨⟨done, input, rfl, haction, hs.symm⟩, by simp⟩, rfl, rfl, rfl, ?_⟩
        exact fun client hclient => .inl hclient
  | timeout =>
      simp only [Service.step, haction]
      split
      · exact recorded_of_none ‹_›
      · exact recorded_of_none (conclude_proposal _ _ _)

theorem recorded_after (h₀ : s₀.proposal = none) (done : List (Input σ κ)) :
    Recorded urgent s₀ done (s₀.after urgent done) := by
  induction done using List.reverseRecOn with
  | nil => exact recorded_of_none h₀
  | append_singleton done input ih => exact ih.step input

omit [DecidableEq σ] [DecidableEq κ] in
theorem conclude_changes_of_ne (h : (s.conclude accepts target).changes ≠ s.changes) :
    (s.conclude accepts target).changes = s.changes ++ [(s.state, target)] := by
  rw [conclude_changes] at h ⊢
  split at h
  · rename_i haccepts
    rw [if_pos haccepts]
  · exact absurd (List.append_nil _) h

/-- The end of an open proposal, if the change is made. -/
theorem Open.conclude {p : Proposal σ κ} (h : Open urgent s₀ done s p before later)
    {clients : Finset κ}
    (hne : ({ s with clients := clients }.conclude accepts p.target).changes ≠ s.changes)
    (hnothing : ∀ other, input.action ≠ .propose other) :
    ProposedBy urgent s₀ (done ++ [input]) before p.target (later ++ [input]) ∧
      ({ s with clients := clients }.conclude accepts p.target).changes =
        s.changes ++ [(before.state, p.target)] := by
  refine ⟨h.proposed.extend fun other hother => absurd hother (hnothing other), ?_⟩
  rw [← h.state]
  exact conclude_changes_of_ne hne

/-- The last awaited client answers or leaves. -/
theorem Recorded.change_by_discharge (h : Recorded urgent s₀ done s) {clients : Finset κ}
    (hinput : input.action = .answer client s.proposed ∨ input.action = .leave client)
    (hne : ({ s with clients := clients }.discharge input.accepts client).changes ≠ s.changes) :
    ∃ before target later, ProposedBy urgent s₀ (done ++ [input]) before target later ∧
      ({ s with clients := clients }.discharge input.accepts client).changes =
        s.changes ++ [(before.state, target)] ∧
      ∀ client ∈ before.clients, Answered (before.proposed + 1) client later := by
  have hnothing : ∀ other, input.action ≠ .propose other := by
    intro other hother
    rcases hinput with hi | hi <;> rw [hi] at hother <;> cases hother
  rcases discharge_cases input.accepts client { s with clients := clients } with
    heq | ⟨p, hp, ⟨hlast, heq⟩ | heq⟩
  · rw [heq] at hne
    exact absurd rfl hne
  · rw [heq] at hne ⊢
    obtain ⟨before, later, ho⟩ := h p hp
    obtain ⟨hproposed, hchanges⟩ := ho.conclude hne hnothing
    refine ⟨before, p.target, _, hproposed, hchanges, fun other hother => ?_⟩
    rw [← ho.number]
    rcases ho.clients other hother with hawaited | hanswered
    · have hsame : other = client := by
        by_contra hdiffers
        have hmem := Finset.mem_erase.mpr ⟨hdiffers, hawaited⟩
        rw [hlast] at hmem
        exact Finset.notMem_empty _ hmem
      rw [hsame]
      exact answered_concat hinput
    · exact hanswered.extend
  · rw [heq] at hne
    exact absurd rfl hne

/-- A change is made only when every client that was enrolled at its proposal has answered or
left, when time has run out, or when it is urgent; and nothing else was proposed in between. -/
theorem change_by_consent (h₀ : s₀.proposal = none)
    (hne : (s₀.after urgent (done ++ [input])).changes ≠ (s₀.after urgent done).changes) :
    ∃ before target later, ProposedBy urgent s₀ (done ++ [input]) before target later ∧
      (s₀.after urgent (done ++ [input])).changes =
        (s₀.after urgent done).changes ++ [(before.state, target)] ∧
      (urgent before.state target = true ∨ input.action = .timeout ∨
        ∀ client ∈ before.clients, Answered (before.proposed + 1) client later) := by
  have h : Recorded urgent s₀ done (s₀.after urgent done) := recorded_after h₀ done
  rw [after_concat] at hne ⊢
  generalize hs : s₀.after urgent done = s at h hne ⊢
  cases haction : input.action with
  | enrol client =>
      simp only [Service.step, haction] at hne
      exact absurd rfl hne
  | leave client =>
      simp only [Service.step, haction] at hne ⊢
      split at hne
      · rename_i hmem
        rw [if_pos hmem]
        obtain ⟨before, target, later, hp, hc, ha⟩ := h.change_by_discharge (.inr haction) hne
        exact ⟨before, target, later, hp, hc, .inr (.inr ha)⟩
      · exact absurd rfl hne
  | answer client number =>
      simp only [Service.step, haction] at hne ⊢
      split at hne
      · rename_i hnumber
        rw [if_pos hnumber]
        obtain ⟨before, target, later, hp, hc, ha⟩ :=
          h.change_by_discharge (.inl (by rw [haction, hnumber])) hne
        exact ⟨before, target, later, hp, hc, .inr (.inr ha)⟩
      · exact absurd rfl hne
  | propose target =>
      simp only [Service.step, haction] at hne ⊢
      have hfirst : ProposedBy urgent s₀ (done ++ [input]) s target [] :=
        ⟨⟨done, input, rfl, haction, hs.symm⟩, by simp⟩
      rcases propose_cases urgent input.accepts target s with
        ⟨_, heq⟩ | ⟨hurgent, heq⟩ | heq
      · rw [heq] at hne
        exact absurd rfl hne
      · rw [heq] at hne ⊢
        refine ⟨s, target, [], hfirst, conclude_changes_of_ne hne, ?_⟩
        rcases hurgent with hnobody | hurgent
        · right
          right
          intro client hclient
          rw [hnobody] at hclient
          exact absurd hclient (Finset.notMem_empty _)
        · exact .inl hurgent
      · rw [heq] at hne
        exact absurd rfl hne
  | timeout =>
      simp only [Service.step, haction] at hne ⊢
      cases hp : s.proposal with
      | none =>
          rw [hp] at hne
          exact absurd rfl hne
      | some p =>
          rw [hp] at hne
          obtain ⟨before, later, ho⟩ := h p hp
          have hnothing : ∀ other, input.action ≠ .propose other := by simp [haction]
          obtain ⟨hproposed, hchanges⟩ := ho.conclude hne hnothing
          exact ⟨before, p.target, _, hproposed, hchanges, .inr (.inl trivial)⟩

end Service

end DeviceAndDisplay.Consent
