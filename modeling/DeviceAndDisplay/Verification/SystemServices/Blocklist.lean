import DeviceAndDisplay.Model.SystemServices.Blocklist

/-! # The stored blocklist flag

What a call does depends on the values in the lines of the flag: the reader takes the first of them,
while the writer returns as soon as any of them is the requested one. -/

namespace DeviceAndDisplay.SystemServices.Blocklist

open Helpers Storage

variable {param : Text} {value : Bool} {lines : List Text} {file : Option Text}

/-- The value that a line gives a parameter. -/
def valueOf (param line : Text) : Option Text :=
  match splitLine line with
  | some (fileParam, fileValue) => if fileParam = param then some fileValue else none
  | none => none

def valuesOf (param : Text) (lines : List Text) : List Text := lines.filterMap (valueOf param)

/-- The flag that a value stands for. -/
def flagOf (text : Text) : Option Bool :=
  if text = flagText true then some true
  else if text = flagText false then some false
  else none

/-- What a call should do. -/
structure StoresAsReported (io : SetIo) (blocklistFlag : Option Bool) (file : Option Text)
    (outcome : SetOutcome) : Prop where
  stored : outcome.success = true →
    ∃ flag, blocklistFlag = some flag ∧ getBlocklistFlag true outcome.file = .ok flag
  others : (fileLines outcome.file).filter (fun line => valueOf blocklist line = none) =
    (fileLines file).filter fun line => valueOf blocklist line = none
  failed : outcome.success = false → outcome.file = file
  event : ∀ new old, outcome.event = some (new, old) ↔
    outcome.success = true ∧ blocklistFlag = some new ∧ getBlocklistFlag true file = .ok old ∧
      old ≠ new

/-- The first line of the flag has the requested value; or it has the other one, and no later line
has the requested one, or there is no line of the flag, and the file can be opened. -/
def Storable (io : SetIo) (flag : Bool) (file : Option Text) : Prop :=
  match valuesOf blocklist (fileLines file) with
  | [] => io.opens = true
  | first :: rest =>
      flagOf first = some flag ∨
        flagOf first = some (!flag) ∧ flagText flag ∉ rest ∧ io.opens = true

/-! ### Lines -/

theorem flagOf_flagText (value : Bool) : flagOf (flagText value) = some value := by
  cases value <;> rfl

theorem flagOf_eq_some_iff {text : Text} : flagOf text = some value ↔ text = flagText value := by
  constructor
  · intro h
    rw [flagOf] at h
    split at h
    · rename_i htext
      cases h
      exact htext
    · split at h
      · rename_i htext
        cases h
        exact htext
      · cases h
  · rintro rfl
    exact flagOf_flagText value

theorem valuesOf_cons_of_none {line : Text} (h : valueOf param line = none) :
    valuesOf param (line :: lines) = valuesOf param lines := by
  rw [valuesOf, List.filterMap_cons_none h]
  rfl

theorem valuesOf_cons_of_some {line text : Text} (h : valueOf param line = some text) :
    valuesOf param (line :: lines) = text :: valuesOf param lines := by
  rw [valuesOf, List.filterMap_cons_some h]
  rfl

theorem readLines_cons (param line : Text) (rest : List Text) :
    readLines param (line :: rest) =
      match valueOf param line with
      | none => readLines param rest
      | some text => flagOf text := by
  rw [readLines, valueOf]
  cases splitLine line with
  | none => rfl
  | some parts => by_cases hparam : parts.1 = param <;> simp [hparam, flagOf]

/-- The reader takes the first value. -/
theorem readLines_eq (param : Text) (lines : List Text) :
    readLines param lines = (valuesOf param lines).head?.bind flagOf := by
  induction lines with
  | nil => rfl
  | cons line rest ih =>
      rw [readLines_cons]
      cases hvalue : valueOf param line with
      | none => rw [valuesOf_cons_of_none hvalue, ih]
      | some text =>
          rw [valuesOf_cons_of_some hvalue]
          rfl

theorem getBlocklistFlag_eq_ok_iff {flag : Bool} : getBlocklistFlag true file = .ok flag ↔
    (valuesOf blocklist (fileLines file)).head? = some (flagText flag) := by
  have hread : readParameters file blocklist = readLines blocklist (fileLines file) := by
    cases file <;> rfl
  rw [getBlocklistFlag, if_pos rfl, hread, readLines_eq]
  cases hhead : (valuesOf blocklist (fileLines file)).head? with
  | none => simp
  | some text =>
      rw [Option.bind_some, Option.some.injEq, ← flagOf_eq_some_iff]
      cases flagOf text <;> simp

theorem valueOf_paramLine (hparam : '=' ∉ param) (value : Bool) :
    valueOf param (paramLine param value) = some (flagText value) := by
  rw [valueOf, splitLine, paramLine, find_separator hparam]
  simp only [List.take_left, List.drop_length_add_append, if_true]
  rfl

/-- What the loop makes of a line. -/
def rewritten (param : Text) (value : Bool) (line : Text) : Text :=
  if valueOf param line = none then line else paramLine param value

/-- The last flag among the values, or the flag before. -/
def lastFlag (before : Bool) (values : List Text) : Bool :=
  values.foldl (fun old text => (flagOf text).getD old) before

theorem rewriteLines_cons (param : Text) (value : Bool) (line : Text) (rest : List Text)
    (s : Rewrite) :
    rewriteLines param value (line :: rest) s =
      match valueOf param line with
      | none => rewriteLines param value rest { s with lines := s.lines ++ [line] }
      | some text =>
          if text = flagText value then none
          else rewriteLines param value rest { s with
            update := true
            oldBlocklistFlag := (flagOf text).getD s.oldBlocklistFlag
            paramFound := true
            lines := s.lines ++ [paramLine param value] } := by
  rw [rewriteLines, valueOf]
  cases splitLine line with
  | none => rfl
  | some parts =>
      obtain ⟨fileParam, fileValue⟩ := parts
      by_cases hparam : fileParam = param
      · have hold : (if fileValue = flagText true then true
            else if fileValue = flagText false then false else s.oldBlocklistFlag) =
            (flagOf fileValue).getD s.oldBlocklistFlag := by
          rw [flagOf]
          split
          · rfl
          · split <;> rfl
        simp only [hparam, if_true, hold]
      · simp [hparam]

/-- The loop returns early if a line has the value, and rewrites all lines of the parameter
otherwise. -/
theorem rewriteLines_eq (param : Text) (value : Bool) (lines : List Text) (s : Rewrite) :
    rewriteLines param value lines s =
      if flagText value ∈ valuesOf param lines then none
      else some {
        update := s.update || valuesOf param lines ≠ []
        oldBlocklistFlag := lastFlag s.oldBlocklistFlag (valuesOf param lines)
        paramFound := s.paramFound || valuesOf param lines ≠ []
        lines := s.lines ++ lines.map (rewritten param value) } := by
  induction lines generalizing s with
  | nil => simp [rewriteLines, valuesOf, lastFlag]
  | cons line rest ih =>
      rw [rewriteLines_cons]
      cases hvalue : valueOf param line with
      | none =>
          simp only [ih, valuesOf_cons_of_none hvalue, List.map_cons, rewritten, hvalue, if_true,
            List.append_assoc, List.singleton_append]
      | some text =>
          rw [valuesOf_cons_of_some hvalue]
          by_cases htext : text = flagText value
          · simp [htext]
          · simp [htext, Ne.symm htext, ih, rewritten, hvalue, lastFlag]

theorem valueOf_rewritten (hparam : '=' ∉ param) (value : Bool) (line : Text) :
    valueOf param (rewritten param value line) =
      (valueOf param line).map fun _ => flagText value := by
  rw [rewritten]
  cases hvalue : valueOf param line with
  | none => rw [if_pos rfl, hvalue, Option.map_none]
  | some text => rw [if_neg (by simp), valueOf_paramLine hparam, Option.map_some]

/-- The lines that are not of the parameter stay. -/
theorem filter_rewritten (hparam : '=' ∉ param) (value : Bool) (lines : List Text) :
    (lines.map (rewritten param value)).filter (fun line => valueOf param line = none) =
      lines.filter fun line => valueOf param line = none := by
  induction lines with
  | nil => rfl
  | cons line rest ih =>
      have hline := valueOf_rewritten hparam value line
      cases hvalue : valueOf param line with
      | none =>
          have hsame : rewritten param value line = line := if_pos hvalue
          simp [hsame, hvalue, ih]
      | some text =>
          rw [hvalue] at hline
          simp [hline, hvalue, ih]

/-- All values are the new one after a rewrite. -/
theorem valuesOf_rewritten (hparam : '=' ∉ param) (value : Bool) (lines : List Text) :
    valuesOf param (lines.map (rewritten param value)) =
      (valuesOf param lines).map fun _ => flagText value := by
  rw [valuesOf, valuesOf, List.filterMap_map, List.map_filterMap]
  refine List.filterMap_congr fun line _ => ?_
  exact valueOf_rewritten hparam value line

/-! ### The file after a call -/

/-- The lines that are written. -/
def newLines (param : Text) (value : Bool) (lines : List Text) : List Text :=
  lines.map (rewritten param value) ++
    if valuesOf param lines = [] then [paramLine param value] else []

theorem writeParameters_eq (file : Option Text) (opens : Bool) (param : Text) (value : Bool)
    (oldBlocklistFlag : Bool) :
    writeParameters file opens param value oldBlocklistFlag =
      let values := valuesOf param (fileLines file)
      if flagText value ∈ values then
        { status := true, update := false, oldBlocklistFlag, file }
      else
        { status := true
          update := values ≠ []
          oldBlocklistFlag := lastFlag oldBlocklistFlag values
          file := if opens then some (terminate '\n' (newLines param value (fileLines file)))
            else file } := by
  rw [writeParameters, rewriteLines_eq]
  by_cases hmem : flagText value ∈ valuesOf param (fileLines file)
  · simp [hmem]
  · by_cases hnil : valuesOf param (fileLines file) = []
    · simp [hnil, newLines]
    · simp [hmem, hnil, newLines]

theorem blocklist_not_mem : '=' ∉ blocklist := by decide

theorem fileLines_terminate (file : Option Text) (flag : Bool) :
    fileLines (some (terminate '\n' (newLines blocklist flag (fileLines file)))) =
      newLines blocklist flag (fileLines file) := by
  have hparam : '\n' ∉ paramLine blocklist flag := by cases flag <;> decide
  refine readParts_terminate fun line hline => ?_
  rcases List.mem_append.mp hline with hline | hline
  · obtain ⟨before, hbefore, rfl⟩ := List.mem_map.mp hline
    rw [rewritten]
    split
    · exact not_mem_of_mem_readParts hbefore
    · exact hparam
  · split at hline
    · rw [List.mem_singleton.mp hline]
      exact hparam
    · cases hline

theorem head_newLines (flag : Bool) (lines : List Text) :
    (valuesOf blocklist (newLines blocklist flag lines)).head? = some (flagText flag) := by
  have hvalues := valuesOf_rewritten blocklist_not_mem flag lines
  rw [newLines, valuesOf, List.filterMap_append, ← valuesOf, ← valuesOf, hvalues]
  cases hnil : valuesOf blocklist lines with
  | nil =>
      rw [if_pos rfl, valuesOf_cons_of_some (valueOf_paramLine blocklist_not_mem flag)]
      rfl
  | cons first rest => rfl

theorem filter_newLines (flag : Bool) (lines : List Text) :
    (newLines blocklist flag lines).filter (fun line => valueOf blocklist line = none) =
      lines.filter fun line => valueOf blocklist line = none := by
  have hline := valueOf_paramLine blocklist_not_mem flag
  rw [newLines, List.filter_append, filter_rewritten blocklist_not_mem]
  split
  · simp [hline]
  · simp

theorem lastFlag_of_before {flag : Bool} {values : List Text} (h : flagText flag ∉ values) :
    lastFlag (!flag) values = !flag := by
  induction values with
  | nil => rfl
  | cons text rest ih =>
      rw [List.mem_cons, not_or] at h
      have hnext : (flagOf text).getD (!flag) = !flag := by
        cases hflag : flagOf text with
        | none => rfl
        | some other =>
            have hne : other ≠ flag := by
              rintro rfl
              exact h.1 (flagOf_eq_some_iff.mp hflag).symm
            exact Bool.eq_not_of_ne hne
      rw [lastFlag, List.foldl_cons, hnext]
      exact ih h.2

theorem lastFlag_of_first {flag : Bool} {rest : List Text} (h : flagText flag ∉ rest)
    (before : Bool) : lastFlag before (flagText (!flag) :: rest) = !flag := by
  rw [lastFlag, List.foldl_cons, flagOf_flagText]
  exact lastFlag_of_before h

/-! ### Calls -/

theorem setBlocklistFlag_eq (io : SetIo) (flag : Bool) (file : Option Text)
    (hdir : io.storeDir = true) : setBlocklistFlag io (some flag) file =
      let values := valuesOf blocklist (fileLines file)
      if flagText flag ∈ values then
        { success := true, error := none, file, event := none }
      else
        { success := true
          error := none
          file := if io.opens then some (terminate '\n' (newLines blocklist flag (fileLines file)))
            else file
          event :=
            if values ≠ [] then some (flag, lastFlag io.oldBlocklistFlag values) else none } := by
  simp only [setBlocklistFlag, hdir, writeParameters_eq]
  by_cases hmem : flagText flag ∈ valuesOf blocklist (fileLines file)
  · simp [hmem]
  · simp [hmem]

/-- The file has the requested value, and the call returns without a look at the first line. -/
theorem storesAsReported_found_iff {io : SetIo} {flag : Bool} (hdir : io.storeDir = true)
    (hmem : flagText flag ∈ valuesOf blocklist (fileLines file)) :
    StoresAsReported io (some flag) file (setBlocklistFlag io (some flag) file) ↔
      (valuesOf blocklist (fileLines file)).head? = some (flagText flag) := by
  rw [setBlocklistFlag_eq io flag file hdir]
  simp only [hmem, if_true]
  constructor
  · intro h
    obtain ⟨flag', hflag, hget⟩ := h.stored rfl
    cases hflag
    exact getBlocklistFlag_eq_ok_iff.mp hget
  · intro hhead
    have hget := getBlocklistFlag_eq_ok_iff.mpr hhead
    refine ⟨fun _ => ⟨flag, rfl, hget⟩, rfl, fun _ => rfl, fun new old => ?_⟩
    constructor
    · intro h
      cases h
    · rintro ⟨-, hnew, hold, hne⟩
      cases hnew
      rw [hget] at hold
      cases hold
      exact absurd rfl hne

/-- A file that cannot be opened stays as it is, and yet the call succeeds. -/
theorem not_storesAsReported_closed {io : SetIo} {flag : Bool} (hdir : io.storeDir = true)
    (hmem : flagText flag ∉ valuesOf blocklist (fileLines file)) (hopens : io.opens = false) :
    ¬ StoresAsReported io (some flag) file (setBlocklistFlag io (some flag) file) := by
  rw [setBlocklistFlag_eq io flag file hdir]
  simp only [hmem, if_false, hopens, Bool.false_eq_true]
  intro h
  obtain ⟨flag', hflag, hget⟩ := h.stored rfl
  cases hflag
  exact hmem (List.mem_of_mem_head? (getBlocklistFlag_eq_ok_iff.mp hget))

/-- A file that is rewritten: the event is right if the first value was the other flag. -/
theorem storesAsReported_rewritten_iff {io : SetIo} {flag : Bool} (hdir : io.storeDir = true)
    (hmem : flagText flag ∉ valuesOf blocklist (fileLines file)) (hopens : io.opens = true) :
    StoresAsReported io (some flag) file (setBlocklistFlag io (some flag) file) ↔
      ∀ text ∈ (valuesOf blocklist (fileLines file)).head?, text = flagText (!flag) := by
  rw [setBlocklistFlag_eq io flag file hdir]
  simp only [hmem, if_false, hopens, if_true]
  cases hvalues : valuesOf blocklist (fileLines file) with
  | nil =>
      simp only [List.head?_nil, Option.mem_def, reduceCtorEq, false_imp_iff, implies_true,
        iff_true]
      refine ⟨fun _ => ⟨flag, rfl, ?_⟩, ?_, fun h => ?_, fun new old => ?_⟩
      · rw [getBlocklistFlag_eq_ok_iff, fileLines_terminate, head_newLines]
      · rw [fileLines_terminate, filter_newLines]
      · cases h
      · simp [getBlocklistFlag_eq_ok_iff, hvalues]
  | cons first rest =>
      simp only [List.head?_cons, Option.mem_def, Option.some.injEq, forall_eq']
      rw [hvalues, List.mem_cons, not_or] at hmem
      constructor
      · intro h
        obtain ⟨-, -, hget, hne⟩ :=
          (h.event flag (lastFlag io.oldBlocklistFlag (first :: rest))).mp (by simp)
        rw [getBlocklistFlag_eq_ok_iff, hvalues] at hget
        rw [Option.some.inj hget, Bool.eq_not_of_ne hne]
      · rintro rfl
        have hget : getBlocklistFlag true file = .ok (!flag) := by
          rw [getBlocklistFlag_eq_ok_iff, hvalues]
          rfl
        refine ⟨fun _ => ⟨flag, rfl, ?_⟩, ?_, fun h => ?_, fun new old => ?_⟩
        · rw [getBlocklistFlag_eq_ok_iff, fileLines_terminate, head_newLines]
        · rw [fileLines_terminate, filter_newLines]
        · cases h
        · rw [lastFlag_of_first hmem.2, hget]
          cases flag <;> cases new <;> cases old <;> simp

theorem storable_found_iff {io : SetIo} {flag : Bool}
    (hmem : flagText flag ∈ valuesOf blocklist (fileLines file)) :
    Storable io flag file ↔
      (valuesOf blocklist (fileLines file)).head? = some (flagText flag) := by
  rw [Storable]
  cases hvalues : valuesOf blocklist (fileLines file) with
  | nil =>
      rw [hvalues] at hmem
      cases hmem
  | cons first rest =>
      simp only [List.head?_cons, Option.some.injEq, flagOf_eq_some_iff]
      refine ⟨fun h => h.elim id ?_, Or.inl⟩
      rintro ⟨rfl, hrest, -⟩
      rw [hvalues] at hmem
      rcases List.mem_cons.mp hmem with heq | hmem
      · cases flag <;> exact absurd heq (by decide)
      · exact absurd hmem hrest

theorem storable_missing_iff {io : SetIo} {flag : Bool}
    (hmem : flagText flag ∉ valuesOf blocklist (fileLines file)) :
    Storable io flag file ↔ io.opens = true ∧
      ∀ text ∈ (valuesOf blocklist (fileLines file)).head?, text = flagText (!flag) := by
  rw [Storable]
  cases hvalues : valuesOf blocklist (fileLines file) with
  | nil => simp
  | cons first rest =>
      rw [hvalues, List.mem_cons, not_or] at hmem
      have hfirst : first ≠ flagText flag := Ne.symm hmem.1
      simp [flagOf_eq_some_iff, hfirst, hmem.2, and_comm]

/-- A call does what it reports exactly if it writes nothing, or the flag is storable. -/
theorem setBlocklistFlag_storesAsReported_iff (io : SetIo) (blocklistFlag : Option Bool)
    (file : Option Text) :
    StoresAsReported io blocklistFlag file (setBlocklistFlag io blocklistFlag file) ↔
      ∀ flag, blocklistFlag = some flag → io.storeDir = true → Storable io flag file := by
  cases blocklistFlag with
  | none =>
      refine iff_of_true ⟨fun h => ?_, rfl, fun _ => rfl, fun new old => ?_⟩ fun flag h => ?_
      · cases h
      · simp [setBlocklistFlag]
      · cases h
  | some flag =>
      simp only [Option.some.injEq, forall_eq']
      cases hdir : io.storeDir with
      | false =>
          refine iff_of_true ⟨fun h => ?_, ?_, fun _ => ?_, fun new old => ?_⟩ fun h => ?_
          · simp [setBlocklistFlag, hdir] at h
          · simp [setBlocklistFlag, hdir]
          · simp [setBlocklistFlag, hdir]
          · simp [setBlocklistFlag, hdir]
          · cases h
      | true =>
          simp only [forall_const]
          by_cases hmem : flagText flag ∈ valuesOf blocklist (fileLines file)
          · rw [storesAsReported_found_iff hdir hmem, storable_found_iff hmem]
          · cases hopens : io.opens with
            | false =>
                refine iff_of_false (not_storesAsReported_closed hdir hmem hopens) fun h => ?_
                rw [storable_missing_iff hmem, hopens] at h
                cases h.1
            | true =>
                rw [storesAsReported_rewritten_iff hdir hmem hopens, storable_missing_iff hmem,
                  and_iff_right hopens]

/-- The file cannot be opened, and the call succeeds. -/
theorem setBlocklistFlag_not_stored :
    setBlocklistFlag ⟨true, false, false⟩ (some true) none = ⟨true, none, none, none⟩ ∧
      getBlocklistFlag true none = .error retrievalFailed ∧
      ¬ StoresAsReported ⟨true, false, false⟩ (some true) none
        (setBlocklistFlag ⟨true, false, false⟩ (some true) none) := by
  refine ⟨rfl, rfl, fun h => ?_⟩
  obtain ⟨flag, -, hget⟩ := h.stored rfl
  cases hget

end DeviceAndDisplay.SystemServices.Blocklist
