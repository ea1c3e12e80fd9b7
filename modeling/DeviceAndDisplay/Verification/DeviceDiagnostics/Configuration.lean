import DeviceAndDisplay.Model.DeviceDiagnostics.Configuration

/-! # Extracting the parameters from any response

Where a name is not followed by its value, the end of the value is searched for near the start of
the response. The loop then goes back behind the name unless no closing brace stands between. -/

namespace DeviceAndDisplay.DeviceDiagnostics

open Helpers Storage

/-! ### What a response should be like -/

/-- Where the value of the name that begins at a position begins: a quoted text follows the name,
and then `"value":`. -/
def valueStart (response : Text) (name : ℕ) : Option ℕ := do
  let opening ← findFrom ['"'] response (some (name + 6))
  let closing ← findFrom ['"'] response (some (opening + 1))
  let value ← findFrom valueMark response (some closing)
  return value + 8

/-- The start of the search for a closing brace if the name has no value: behind the first
`"value":` of the response if no quote follows the name, and near the start of the response
otherwise. -/
def strayStart (response : Text) (name : ℕ) : ℕ :=
  match findFrom ['"'] response (some (name + 6)) with
  | some _ => 7
  | none =>
      match findFrom valueMark response (some 0) with
      | some value => value + 8
      | none => 7

/-- Read from a position on, each name has a value, or there is no closing brace between the stray
start and the name. Reading goes on at the first closing brace. -/
inductive Scannable (response : Text) : Option ℕ → Prop where
  | done {stop} : findFrom nameMark response stop = none → Scannable response stop
  | complete {stop name start} : findFrom nameMark response stop = some name →
      valueStart response name = some start →
      Scannable response (findFrom ['}'] response (some start)) → Scannable response stop
  | incomplete {stop name} : findFrom nameMark response stop = some name →
      valueStart response name = none →
      (∀ i, strayStart response name ≤ i → i ≤ name → ¬ Occurs ['}'] response i) →
      Scannable response (findFrom ['}'] response (some (strayStart response name))) →
      Scannable response stop

/-- The positions at which the loop condition is evaluated. -/
inductive Reached (response : Text) : Option ℕ → Prop where
  | start : Reached response (some 0)
  | next {stop param stop'} : Reached response stop →
      round response stop = .next param stop' → Reached response stop'

structure ScansResponse (response : Text) : Prop where
  terminates : ∃ fuel params,
    extract response [] fuel (some 0) = some (.extracted params) ∧
      params.length ≤ occurrences nameMark response
  progress : ∀ stop name param stop', Reached response stop →
    findFrom nameMark response stop = some name → round response stop = .next param stop' →
    ∀ pos ∈ stop', name < pos
  inRange : ∀ stop, Reached response stop → round response stop ≠ .outOfRange

variable {response : Text} {stop : Option ℕ} {name : ℕ}

/-! ### Rounds -/

theorem exists_substr {text : Text} {start : ℕ} (h : start ≤ text.length) (stop : Option ℕ) :
    ∃ part, substr text start stop = some part := by
  cases stop with
  | none => exact ⟨_, if_pos h⟩
  | some stop => exact ⟨_, if_pos h⟩

theorem le_of_findFrom {pattern : Text} (hne : pattern ≠ []) {pos n : ℕ}
    (h : findFrom pattern response (some pos) = some n) :
    pos ≤ n ∧ n + pattern.length ≤ response.length := by
  obtain ⟨hle, hoccurs, -⟩ := (findFrom_eq_some_iff hne).mp h
  exact ⟨hle, hoccurs.length hne⟩

theorem occurs_of_findFrom {pattern : Text} (hne : pattern ≠ [])
    (h : findFrom pattern response stop = some name) : Occurs pattern response name := by
  cases stop with
  | none => cases h
  | some pos => exact ((findFrom_eq_some_iff hne).mp h).2.1

/-- The first `"value":` is not before the first quote. -/
theorem findFrom_valueMark_quote {quote : ℕ} (h : findFrom ['"'] response (some 0) = some quote) :
    findFrom valueMark response (some quote) = findFrom valueMark response (some 0) := by
  obtain ⟨-, -, hfirst⟩ := (findFrom_eq_some_iff (by decide)).mp h
  refine (findFrom_skip (by decide) (Nat.zero_le quote) fun i hle hlt hoccurs => ?_).symm
  exact hfirst i hle hlt (((List.prefix_append ['"'] _).trans hoccurs))

/-- No round throws, and the end of a value is searched for from its start, or a stray one. -/
theorem round_of_name (h : findFrom nameMark response stop = some name) :
    ∃ param, round response stop = .next param (findFrom ['}'] response
      (some ((valueStart response name).getD (strayStart response name)))) := by
  have hname := occurs_of_findFrom (by decide) h
  have hlength : name + 7 ≤ response.length := hname.length (by decide)
  simp only [round, h, valueStart, strayStart]
  cases hopening : findFrom ['"'] response (some (name + 6)) with
  | none =>
      obtain ⟨quote, hquote⟩ : ∃ quote, findFrom ['"'] response (some 0) = some quote := by
        cases hquote : findFrom ['"'] response (some 0) with
        | none =>
            rw [findFrom_eq_none_iff (by decide)] at hquote
            exact absurd ((List.prefix_append ['"'] _).trans hname) (hquote name (Nat.zero_le _))
        | some quote => exact ⟨quote, rfl⟩
      obtain ⟨part, hpart⟩ := exists_substr (Nat.zero_le response.length) (some quote)
      simp only [advance, hquote, hpart, findFrom_valueMark_quote hquote]
      cases hvalue : findFrom valueMark response (some 0) with
      | none =>
          obtain ⟨value, hsubstr⟩ := exists_substr (show 7 ≤ response.length by omega)
            (findFrom ['}'] response (some 7))
          simp [hsubstr]
      | some value =>
          have hle : value + 8 ≤ response.length := (le_of_findFrom (by decide) hvalue).2
          obtain ⟨part, hsubstr⟩ := exists_substr hle
            (findFrom ['}'] response (some (value + 8)))
          simp [hsubstr]
  | some opening =>
      have hle : opening + 1 ≤ response.length := (le_of_findFrom (by decide) hopening).2
      obtain ⟨part, hpart⟩ := exists_substr hle (findFrom ['"'] response (some (opening + 1)))
      simp only [advance, hpart]
      cases hclosing : findFrom ['"'] response (some (opening + 1)) with
      | none =>
          obtain ⟨value, hsubstr⟩ := exists_substr (show 7 ≤ response.length by omega)
            (findFrom ['}'] response (some 7))
          simp [hsubstr, hclosing]
      | some closing =>
          cases hvalue : findFrom valueMark response (some closing) with
          | none =>
              obtain ⟨value, hsubstr⟩ := exists_substr (show 7 ≤ response.length by omega)
                (findFrom ['}'] response (some 7))
              simp [hsubstr, hclosing, hvalue]
          | some value =>
              have hle' : value + 8 ≤ response.length := (le_of_findFrom (by decide) hvalue).2
              obtain ⟨part', hsubstr⟩ := exists_substr hle'
                (findFrom ['}'] response (some (value + 8)))
              simp [hsubstr, hclosing, hvalue]

theorem lt_of_valueStart {start : ℕ} (h : valueStart response name = some start) :
    name < start := by
  simp only [valueStart, Option.bind_eq_bind, Option.bind_eq_some_iff] at h
  obtain ⟨opening, hopening, closing, hclosing, value, hvalue, hstart⟩ := h
  have ho := (le_of_findFrom (by decide) hopening).1
  have hc := (le_of_findFrom (by decide) hclosing).1
  have hv := (le_of_findFrom (by decide) hvalue).1
  have hstart' : value + 8 = start := Option.some.inj hstart
  omega

/-- The round goes on behind the name exactly if no brace stands before. -/
theorem forall_lt_findFrom_iff {start : ℕ} :
    (∀ pos ∈ findFrom ['}'] response (some start), name < pos) ↔
      ∀ i, start ≤ i → i ≤ name → ¬ Occurs ['}'] response i := by
  constructor
  · intro h i hi hle hoccurs
    cases hfind : findFrom ['}'] response (some start) with
    | none => exact (findFrom_eq_none_iff (by decide)).mp hfind i hi hoccurs
    | some pos =>
        obtain ⟨-, -, hfirst⟩ := (findFrom_eq_some_iff (by decide)).mp hfind
        have hpos := h pos hfind
        exact hfirst i hi (Nat.lt_of_le_of_lt hle hpos) hoccurs
  · intro h pos hpos
    obtain ⟨hle, hoccurs, -⟩ := (findFrom_eq_some_iff (by decide)).mp hpos
    exact Nat.lt_of_not_le fun hname => h pos hle hname hoccurs

theorem round_eq_finished_iff :
    round response stop = .finished ↔ findFrom nameMark response stop = none := by
  cases h : findFrom nameMark response stop with
  | none => simp [round, h]
  | some name =>
      obtain ⟨param, hround⟩ := round_of_name h
      simp [hround]

theorem round_ne_outOfRange (stop : Option ℕ) : round response stop ≠ .outOfRange := by
  cases h : findFrom nameMark response stop with
  | none =>
      rw [round_eq_finished_iff.mpr h]
      decide
  | some name =>
      obtain ⟨param, hround⟩ := round_of_name h
      simp [hround]

/-! ### Scannable responses -/

/-- What a round with a name comes to in a scannable response. -/
theorem Scannable.round (h : Scannable response stop)
    (hname : findFrom nameMark response stop = some name) :
    ∃ param stop', DeviceDiagnostics.round response stop = .next param stop' ∧
      (∀ pos ∈ stop', name < pos) ∧ Scannable response stop' := by
  obtain ⟨param, hround⟩ := round_of_name hname
  refine ⟨param, _, hround, ?_⟩
  cases h with
  | done hnone =>
      rw [hname] at hnone
      cases hnone
  | complete hname' hstart hrest =>
      cases hname.symm.trans hname'
      rw [hstart, Option.getD_some]
      refine ⟨fun pos hpos => ?_, hrest⟩
      exact (lt_of_valueStart hstart).trans_le (le_of_findFrom (by decide) hpos).1
  | incomplete hname' hstart hbrace hrest =>
      cases hname.symm.trans hname'
      rw [hstart, Option.getD_none]
      exact ⟨forall_lt_findFrom_iff.mpr hbrace, hrest⟩

theorem Scannable.reached (h : Scannable response (some 0)) (hreached : Reached response stop) :
    Scannable response stop := by
  induction hreached with
  | start => exact h
  | @next stop param stop' _ hround ih =>
      cases hname : findFrom nameMark response stop with
      | none =>
          rw [round_eq_finished_iff.mpr hname] at hround
          cases hround
      | some name =>
          obtain ⟨param', stop'', hround', -, hrest⟩ := ih.round hname
          rw [hround'] at hround
          cases hround
          exact hrest

/-- How often the name mark occurs from a position on. -/
def marksFrom (response : Text) : Option ℕ → ℕ
  | some pos => occurrences nameMark (response.drop pos)
  | none => 0

/-- Each round uses a mark that no later round sees. -/
theorem marksFrom_lt {stop' : Option ℕ} (hname : findFrom nameMark response stop = some name)
    (h : ∀ pos ∈ stop', name < pos) : marksFrom response stop' < marksFrom response stop := by
  cases stop with
  | none => cases hname
  | some pos =>
      obtain ⟨hle, hoccurs, -⟩ := (findFrom_eq_some_iff (by decide)).mp hname
      cases stop' with
      | none =>
          have hlt := occurrences_drop_lt (by decide) hle hoccurs (Nat.lt_succ_self name)
          exact Nat.zero_lt_of_lt hlt
      | some pos' => exact occurrences_drop_lt (by decide) hle hoccurs (h pos' rfl)

/-- The induction is on the marks that are left; a round uses one of them and adds one parameter. -/
theorem Scannable.exists_extract (h : Scannable response stop) (params : List ParamList) :
    ∃ fuel more, extract response params fuel stop = some (.extracted (params ++ more)) ∧
      more.length ≤ marksFrom response stop := by
  generalize hn : marksFrom response stop = n
  induction n using Nat.strongRecOn generalizing stop params with
  | ind n ih =>
      cases hname : findFrom nameMark response stop with
      | none =>
          refine ⟨1, [], ?_, Nat.zero_le _⟩
          simp [extract, round_eq_finished_iff.mpr hname]
      | some name =>
          obtain ⟨param, stop', hround, hprogress, hrest⟩ := h.round hname
          have hlt := marksFrom_lt hname hprogress
          rw [hn] at hlt
          obtain ⟨fuel, more, hextract, hlength⟩ := ih _ hlt hrest (params ++ [param]) rfl
          refine ⟨fuel + 1, param :: more, ?_, ?_⟩
          · simp only [extract, hround, hextract]
            simp
          · exact Nat.succ_le_of_lt (Nat.lt_of_le_of_lt hlength hlt)

/-- A response in which every round makes progress is scannable; the induction is again on the marks
that are left. -/
theorem scannable_of_progress (h : ScansResponse response) (hreached : Reached response stop) :
    Scannable response stop := by
  generalize hn : marksFrom response stop = n
  induction n using Nat.strongRecOn generalizing stop with
  | ind n ih =>
      cases hname : findFrom nameMark response stop with
      | none => exact .done hname
      | some name =>
          obtain ⟨param, hround⟩ := round_of_name hname
          have hprogress := h.progress stop name param _ hreached hname hround
          have hlt := marksFrom_lt hname hprogress
          rw [hn] at hlt
          have hrest := ih _ hlt (hreached.next hround) rfl
          cases hstart : valueStart response name with
          | some start =>
              rw [hstart] at hrest
              exact .complete hname hstart hrest
          | none =>
              rw [hstart] at hrest hprogress
              exact .incomplete hname hstart (forall_lt_findFrom_iff.mp hprogress) hrest

/-- The loop ends, makes progress and stays in the response exactly for scannable responses. -/
theorem scansResponse_iff (response : Text) :
    ScansResponse response ↔ Scannable response (some 0) := by
  constructor
  · exact fun h => scannable_of_progress h .start
  · intro h
    obtain ⟨fuel, params, hextract, hlength⟩ := h.exists_extract []
    refine ⟨⟨fuel, params, hextract, hlength⟩, ?_, fun stop _ => round_ne_outOfRange stop⟩
    intro stop name param stop' hreached hname hround
    obtain ⟨param', stop'', hround', hprogress, -⟩ := (h.reached hreached).round hname
    rw [hround'] at hround
    cases hround
    exact hprogress

theorem extract_of_round_self {param : ParamList} (h : round response stop = .next param stop)
    (fuel : ℕ) (params : List ParamList) : extract response params fuel stop = none := by
  induction fuel generalizing params with
  | zero => rfl
  | succ fuel ih => simp only [extract, h, ih]

/-- `[{"name":"a","value":1},{"name":"b"}]`. -/
def responseWithoutValue : Text :=
  ['[', '{'] ++ nameMark ++ ['"', 'a', '"', ','] ++ valueMark ++ ['1', '}', ',', '{'] ++
    nameMark ++ ['"', 'b', '"', '}', ']']

/-- From the brace behind the first value, the loop comes back to this brace. -/
theorem responseWithoutValue_never_ends :
    (∀ fuel, extract responseWithoutValue [] fuel (some 0) = none) ∧
      ¬ ScansResponse responseWithoutValue := by
  have hfirst : round responseWithoutValue (some 0) = .next ⟨['a'], ['1']⟩ (some 22) := by decide
  have hsecond : round responseWithoutValue (some 22) =
      .next ⟨['b'], ['"', ':', '"', 'a', '"', ','] ++ valueMark ++ ['1']⟩ (some 22) := by decide
  have hends : ∀ fuel, extract responseWithoutValue [] fuel (some 0) = none := by
    intro fuel
    cases fuel with
    | zero => rfl
    | succ fuel => simp only [extract, hfirst, extract_of_round_self hsecond]
  refine ⟨hends, fun h => ?_⟩
  obtain ⟨fuel, params, hextract, -⟩ := h.terminates
  rw [hends fuel] at hextract
  cases hextract

end DeviceAndDisplay.DeviceDiagnostics
