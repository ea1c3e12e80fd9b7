import DeviceAndDisplay.Model.Helpers.PropertyFile
import DeviceAndDisplay.Transition.Acyclic

/-! # Lookups in property files

A lookup ends exactly if no property it comes to leads back to itself. It comes to the references
of a property one after the other, as long as those before have no value. -/

namespace DeviceAndDisplay.Helpers

open Relation Storage Transition

variable {file : Option Text} {property name value : Text} {read : Text → Option (Option Text)}
  {calls : ℕ} {result : Option Text}

/-! ### What a file says about properties -/

/-- What the lines of a property hold. -/
def contents (file : Option Text) (property : Text) : List Text :=
  ((linesOf file).filter fun line => IsLineOf property line).map propertyContent

/-- Every line of the property refers to a property without a value. -/
inductive Undefined (file : Option Text) : Text → Prop
  | intro (property : Text)
      (hrefs : ∀ content ∈ contents file property, content.head? = some '$')
      (hnames : ∀ name, '$' :: name ∈ contents file property → Undefined file name) :
      Undefined file property

/-- A line of the property refers to the other one, and the lines before it to properties without a
value. -/
def Refers (file : Option Text) (property name : Text) : Prop :=
  ∃ before after, contents file property = before ++ ('$' :: name) :: after ∧
    ∀ content ∈ before, ∃ other, content = '$' :: other ∧ Undefined file other

/-- The first lines of the properties refer from one to the next, and the last one holds a plain
value. -/
inductive Chain (file : Option Text) : Text → Text → Prop
  | plain {property content : Text} {rest : List Text}
      (hcontents : contents file property = content :: rest)
      (hplain : content.head? ≠ some '$') : Chain file property (chomp content)
  | reference {property name value : Text} {rest : List Text}
      (hcontents : contents file property = ('$' :: name) :: rest)
      (hchain : Chain file name value) : Chain file property value

/-- With enough nested calls, the lookup has this result. -/
def Returns (file : Option Text) (property : Text) (result : Option Text) : Prop :=
  ∃ calls, readPropertyFromFile file calls property = some result

def Terminates (file : Option Text) (property : Text) : Prop :=
  ∃ result, Returns file property result

/-! ### One call -/

/-- The loop over what the lines of the property hold. -/
def readContents (read : Text → Option (Option Text)) : List Text → Option (Option Text)
  | [] => some none
  | ('$' :: name) :: contents =>
      match read name with
      | none => none
      | some (some value) => some (some value)
      | some none => readContents read contents
  | content :: _ => some (some (chomp content))

theorem readPropertyLines_eq (read : Text → Option (Option Text)) (property : Text)
    (lines : List Text) :
    readPropertyLines read property lines =
      readContents read
        ((lines.filter fun line => IsLineOf property line).map propertyContent) := by
  induction lines with
  | nil => rfl
  | cons line lines ih =>
      rw [readPropertyLines, List.filter_cons]
      by_cases hline : IsLineOf property line
      · simp only [hline, if_true, decide_true, List.map_cons]
        split
        · rename_i name hname
          cases hread : read name with
          | none => simp only [hname, readContents, hread]
          | some found => cases found <;> simp only [hname, readContents, hread, ih]
        · rename_i hplain
          rw [readContents]
          exact hplain
      · simpa only [hline, if_false, decide_false, Bool.false_eq_true] using ih

theorem readPropertyFromFile_succ (file : Option Text) (calls : ℕ) (property : Text) :
    readPropertyFromFile file (calls + 1) property =
      readContents (readPropertyFromFile file calls) (contents file property) :=
  readPropertyLines_eq _ _ _

theorem readContents_plain {content : Text} (h : content.head? ≠ some '$') (rest : List Text) :
    readContents read (content :: rest) = some (some (chomp content)) := by
  rw [readContents]
  rintro name rfl
  exact h rfl

/-- A lookup without a value has met nothing but references without a value. -/
theorem readContents_eq_none {cs : List Text} (h : readContents read cs = some none) :
    ∀ content ∈ cs, ∃ name, content = '$' :: name ∧ read name = some none := by
  induction cs with
  | nil => simp
  | cons content cs ih =>
      by_cases hplain : content.head? = some '$'
      · obtain ⟨name, rfl⟩ := List.head?_eq_some_iff.mp hplain
        rw [readContents] at h
        cases hname : read name with
        | none => simp [hname] at h
        | some found =>
            rw [hname] at h
            cases found with
            | none => exact List.forall_mem_cons.mpr ⟨⟨name, rfl, hname⟩, ih h⟩
            | some v => cases h
      · rw [readContents_plain hplain] at h
        cases h

/-- A lookup that ends has looked up a reference if those before have no value. -/
theorem read_of_readContents {before after : List Text}
    (hbefore : ∀ content ∈ before, ∃ other, content = '$' :: other ∧
      ∀ found, read other = some found → found = none)
    (h : readContents read (before ++ ('$' :: name) :: after) = some result) :
    ∃ found, read name = some found := by
  induction before with
  | nil =>
      rw [List.nil_append, readContents] at h
      cases hname : read name with
      | none => simp [hname] at h
      | some found => exact ⟨found, rfl⟩
  | cons content before ih =>
      obtain ⟨⟨other, rfl, hother⟩, hrest⟩ := List.forall_mem_cons.mp hbefore
      rw [List.cons_append, readContents] at h
      cases hread : read other with
      | none => simp [hread] at h
      | some found =>
          rw [hread, hother found hread] at h
          exact ih hrest h

theorem readContents_mono {read' : Text → Option (Option Text)}
    (hread : ∀ name result, read name = some result → read' name = some result)
    {cs : List Text} (h : readContents read cs = some result) :
    readContents read' cs = some result := by
  induction cs with
  | nil => exact h
  | cons content cs ih =>
      by_cases hplain : content.head? = some '$'
      · obtain ⟨name, rfl⟩ : ∃ name, content = '$' :: name := List.head?_eq_some_iff.mp hplain
        rw [readContents] at h ⊢
        cases hname : read name with
        | none => simp [hname] at h
        | some found =>
            rw [hread name found hname]
            rw [hname] at h
            cases found with
            | none => exact ih h
            | some v => exact h
      · rw [readContents_plain hplain] at h ⊢
        exact h

/-! ### Nested calls -/

/-- More nested calls do not change the result. -/
theorem readPropertyFromFile_mono (h : readPropertyFromFile file calls property = some result)
    {more : ℕ} (hle : calls ≤ more) : readPropertyFromFile file more property = some result := by
  induction more generalizing calls property result with
  | zero =>
      cases calls with
      | zero => exact h
      | succ calls => exact absurd hle (Nat.not_succ_le_zero calls)
  | succ more ih =>
      cases calls with
      | zero => cases h
      | succ calls =>
          rw [readPropertyFromFile_succ] at h ⊢
          exact readContents_mono (fun name found hname => ih hname (Nat.le_of_succ_le_succ hle)) h

theorem Returns.unique {result' : Option Text} (h : Returns file property result)
    (h' : Returns file property result') : result = result' := by
  obtain ⟨calls, hcalls⟩ := h
  obtain ⟨calls', hcalls'⟩ := h'
  have hmax := readPropertyFromFile_mono hcalls (Nat.le_max_left calls calls')
  have hmax' := readPropertyFromFile_mono hcalls' (Nat.le_max_right calls calls')
  rw [hmax] at hmax'
  exact Option.some.inj hmax'

/-! ### The rules of a lookup -/

/-- With enough nested calls, the loop over these contents has this result. -/
def Settles (file : Option Text) (cs : List Text) (result : Option Text) : Prop :=
  ∃ calls, readContents (readPropertyFromFile file calls) cs = some result

theorem returns_iff_settles :
    Returns file property result ↔ Settles file (contents file property) result := by
  constructor
  · rintro ⟨calls, h⟩
    cases calls with
    | zero => cases h
    | succ calls => exact ⟨calls, readPropertyFromFile_succ file calls property ▸ h⟩
  · rintro ⟨calls, h⟩
    exact ⟨calls + 1, (readPropertyFromFile_succ file calls property).trans h⟩

theorem settles_nil (file : Option Text) : Settles file [] none := ⟨0, rfl⟩

theorem settles_plain {content : Text} (h : content.head? ≠ some '$') (rest : List Text) :
    Settles file (content :: rest) (some (chomp content)) :=
  ⟨0, readContents_plain h rest⟩

theorem settles_value (h : Returns file name (some value)) (rest : List Text) :
    Settles file (('$' :: name) :: rest) (some value) := by
  obtain ⟨calls, hcalls⟩ := h
  exact ⟨calls, by rw [readContents, hcalls]⟩

theorem settles_of_none {rest : List Text} (h : Returns file name none)
    (hrest : Settles file rest result) : Settles file (('$' :: name) :: rest) result := by
  obtain ⟨calls, hcalls⟩ := h
  obtain ⟨calls', hcalls'⟩ := hrest
  have hname := readPropertyFromFile_mono hcalls (Nat.le_max_left calls calls')
  refine ⟨max calls calls', ?_⟩
  rw [readContents, hname]
  exact readContents_mono
    (fun _ _ hread => readPropertyFromFile_mono hread (Nat.le_max_right calls calls')) hcalls'

/-! ### Values and their absence -/

theorem returns_none_of_undefined (h : Undefined file property) : Returns file property none := by
  induction h with
  | intro property hrefs _ ih =>
      rw [returns_iff_settles]
      have hall : ∀ cs, (∀ content ∈ cs, content ∈ contents file property) →
          Settles file cs none := by
        intro cs
        induction cs with
        | nil => exact fun _ => settles_nil file
        | cons content cs ihcs =>
            intro hmem
            obtain ⟨hcontent, hcs⟩ := List.forall_mem_cons.mp hmem
            obtain ⟨name, rfl⟩ := List.head?_eq_some_iff.mp (hrefs content hcontent)
            exact settles_of_none (ih name hcontent) (ihcs hcs)
      exact hall _ fun _ hcontent => hcontent

theorem undefined_of_calls (h : readPropertyFromFile file calls property = some none) :
    Undefined file property := by
  induction calls generalizing property with
  | zero => cases h
  | succ calls ih =>
      rw [readPropertyFromFile_succ] at h
      have hall := readContents_eq_none h
      refine .intro property (fun content hcontent => ?_) fun name hname => ?_
      · obtain ⟨name, rfl, _⟩ := hall content hcontent
        rfl
      · obtain ⟨other, heq, hother⟩ := hall _ hname
        rw [(List.cons.inj heq).2]
        exact ih hother

/-- The properties whose lookup returns `false` are those without a value. -/
theorem returns_none_iff : Returns file property none ↔ Undefined file property :=
  ⟨fun ⟨_, h⟩ => undefined_of_calls h, returns_none_of_undefined⟩

theorem Chain.returns (h : Chain file property value) : Returns file property (some value) := by
  induction h with
  | plain hcontents hplain =>
      rw [returns_iff_settles, hcontents]
      exact settles_plain hplain _
  | reference hcontents _ ih =>
      rw [returns_iff_settles, hcontents]
      exact settles_value ih _

/-! ### Termination -/

theorem acc_of_calls (h : readPropertyFromFile file calls property = some result) :
    Acc (flip (Refers file)) property := by
  induction calls generalizing property result with
  | zero => cases h
  | succ calls ih =>
      rw [readPropertyFromFile_succ] at h
      refine Acc.intro _ fun name hrefers => ?_
      obtain ⟨before, after, hcontents, hbefore⟩ := hrefers
      rw [hcontents] at h
      have hundefined : ∀ content ∈ before, ∃ other, content = '$' :: other ∧
          ∀ found, readPropertyFromFile file calls other = some found → found = none := by
        intro content hcontent
        obtain ⟨other, heq, hother⟩ := hbefore content hcontent
        refine ⟨other, heq, fun found hfound => ?_⟩
        exact Returns.unique ⟨calls, hfound⟩ (returns_none_of_undefined hother)
      obtain ⟨found, hfound⟩ := read_of_readContents hundefined h
      exact ih hfound

theorem terminates_of_acc (h : Acc (flip (Refers file)) property) : Terminates file property := by
  induction h with
  | intro property _ ih =>
      -- the contents that are left, after references without a value
      have hsettles : ∀ after before, contents file property = before ++ after →
          (∀ content ∈ before, ∃ other, content = '$' :: other ∧ Undefined file other) →
          ∃ result, Settles file after result := by
        intro after
        induction after with
        | nil => exact fun _ _ _ => ⟨none, settles_nil file⟩
        | cons content after ihafter =>
            intro before hcontents hbefore
            by_cases hplain : content.head? = some '$'
            · obtain ⟨name, rfl⟩ := List.head?_eq_some_iff.mp hplain
              obtain ⟨found, hfound⟩ := ih name ⟨before, after, hcontents, hbefore⟩
              cases found with
              | some value => exact ⟨some value, settles_value hfound after⟩
              | none =>
                  have hname := returns_none_iff.mp hfound
                  obtain ⟨result, hresult⟩ := ihafter (before ++ ['$' :: name])
                    (by rw [hcontents, List.append_assoc]; rfl)
                    (List.forall_mem_append.mpr ⟨hbefore, by simpa using hname⟩)
                  exact ⟨result, settles_of_none hfound hresult⟩
            · exact ⟨_, settles_plain hplain after⟩
      obtain ⟨result, hresult⟩ := hsettles _ [] rfl (by simp)
      exact ⟨result, returns_iff_settles.mpr hresult⟩

theorem terminates_iff_acc : Terminates file property ↔ Acc (flip (Refers file)) property :=
  ⟨fun ⟨_, _, h⟩ => acc_of_calls h, terminates_of_acc⟩

/-- The properties that are referred to are named in the file. -/
theorem Refers.mem (h : Refers file property name) :
    name ∈ ((linesOf file).map propertyContent).map List.tail := by
  obtain ⟨before, after, hcontents, _⟩ := h
  have hmem : '$' :: name ∈ contents file property := by
    rw [hcontents]
    simp
  obtain ⟨line, hline, heq⟩ := List.mem_map.mp hmem
  rw [List.mem_map]
  exact ⟨'$' :: name, List.mem_map.mpr ⟨line, (List.mem_filter.mp hline).1, heq⟩, rfl⟩

theorem terminates_iff_acyclic :
    Terminates file property ↔ Acyclic (Refers file) property := by
  rw [terminates_iff_acc]
  exact acc_iff_acyclic (List.finite_toSet _) fun _ _ => Refers.mem

/-- The lookup ends, and gives the value at the end of the chain if there is one, exactly if no
property it comes to leads back to itself. -/
theorem lookup_ends_iff (file : Option Text) (property : Text) :
    (Terminates file property ∧
      ∀ value, Chain file property value → Returns file property (some value)) ↔
    Acyclic (Refers file) property := by
  rw [← terminates_iff_acyclic]
  exact and_iff_left fun _ hchain => hchain.returns

/-- In the file `A=$A` the lookup of `A` does not end. -/
theorem lookup_does_not_end :
    ¬ Terminates (some ['A', '=', '$', 'A']) ['A'] := by
  rw [terminates_iff_acyclic]
  intro h
  have hrefers : Refers (some ['A', '=', '$', 'A']) ['A'] ['A'] :=
    ⟨[], [], by decide, by simp⟩
  exact h ['A'] ReflTransGen.refl (TransGen.single hrefers)

end DeviceAndDisplay.Helpers
