import DeviceAndDisplay.Model.SystemServices.PlatformQuery
import Mathlib.Data.List.TakeWhile

/-! # What a platform query selects

The pattern of a query is anchored at its start but not at its end. -/

namespace DeviceAndDisplay.SystemServices

open Helpers Pattern

variable {data : PlatformCapsData} {query member rest : Text} {part other : CapsPart}

/-- The query is the name of the section, or a dot and the member follow it. -/
def Names (query : Text) (part : CapsPart) (member : Text) : Prop :=
  query = sectionName part ∧ member = [] ∨
    query = sectionName part ++ '.' :: member ∧ ∀ c ∈ member, isWordChar c = true

/-- All members that have a value, or the one that is named. -/
def Selects (members : List CapsMember) (member : Text) (result : List (Text × CapsValue)) :
    Prop :=
  ∀ label value, (label, value) ∈ result ↔
    (label, some value) ∈ members ∧ (member = [] ∨ label = member)

/-- The query is answered with what it names, or rejected. -/
structure SelectsExactly (data : PlatformCapsData) (query : Text) : Prop where
  all : query = [] → (loadPlatformAnswer data query).success = true ∧
    ∀ part, ∃ result, (loadPlatformAnswer data query).sections part = some result ∧
      Selects (sectionMembers data part) [] result
  named : ∀ part member, Names query part member →
    (loadPlatformAnswer data query).success = true ∧
    (∃ result, (loadPlatformAnswer data query).sections part = some result ∧
      Selects (sectionMembers data part) member result) ∧
    ∀ other, other ≠ part → (loadPlatformAnswer data query).sections other = none
  rejected : query ≠ [] → (∀ part member, ¬ Names query part member) →
    (loadPlatformAnswer data query).success = false ∧
    ∀ part, (loadPlatformAnswer data query).sections part = none

/-! ### Section names -/

theorem head?_sectionName (part : CapsPart) :
    (sectionName part).head? =
      match part with
      | .accountInfo => some 'A'
      | .deviceInfo => some 'D' := by
  cases part <;> decide

/-- No text begins with the names of both sections. -/
theorem part_eq_of_isPrefix (h : sectionName part <+: query) (h' : sectionName other <+: query) :
    part = other := by
  obtain ⟨back, rfl⟩ := h
  obtain ⟨back', hback⟩ := h'
  have hhead := congrArg List.head? hback
  rw [List.head?_append, List.head?_append, head?_sectionName, head?_sectionName] at hhead
  cases part <;> cases other <;> simp_all

theorem sectionName_ne_nil (part : CapsPart) : sectionName part ≠ [] := by
  intro hnil
  have hhead := head?_sectionName part
  rw [hnil] at hhead
  cases part <;> cases hhead

/-! ### The pattern -/

theorem take_length_sub_dropWhile (accepts : Char → Bool) (text : Text) :
    text.take (text.length - (text.dropWhile accepts).length) = text.takeWhile accepts := by
  have hsplit := List.takeWhile_append_dropWhile (p := accepts) (l := text)
  have hlength := congrArg List.length hsplit
  rw [List.length_append] at hlength
  have htake : text.length - (text.dropWhile accepts).length = (text.takeWhile accepts).length := by
    omega
  rw [htake]
  exact (List.prefix_iff_eq_take.mp ⟨_, hsplit⟩).symm

/-- Behind a dot, the third group is what there is of word characters. -/
theorem findFrom_memberPattern_dot (before rest : Text) (groups : List (ℕ × Text)) :
    ∃ text, memberPattern.findFrom some ⟨before, '.' :: rest, groups⟩ =
      some ⟨(rest.takeWhile isWordChar).reverse ++ '.' :: before, rest.dropWhile isWordChar,
        (2, text) :: (3, rest.takeWhile isWordChar) :: groups⟩ := by
  unfold memberPattern
  rw [findFrom_group, findFrom_seq, findFrom_one_cons, if_pos (by simp), findFrom_group]
  let extend : Cursor Char → Cursor Char := fun behind => ⟨behind.before, behind.rest,
    (2, ('.' :: rest).take (('.' :: rest).length - behind.rest.length)) ::
    (3, rest.take (rest.length - behind.rest.length)) :: behind.groups⟩
  have hmap : Option.map extend ((Regex.star isWordChar).findFrom some
      ⟨'.' :: before, rest, groups⟩) = _ := map_findFrom extend _ _
  rw [findFrom_star_some, Option.map_some] at hmap
  refine ⟨('.' :: rest).take (('.' :: rest).length - (rest.dropWhile isWordChar).length),
    hmap.symm.trans ?_⟩
  simp only [extend, take_length_sub_dropWhile]

theorem memberPattern_run_of_ne (before rest : Text) (groups : List (ℕ × Text))
    (h : rest.head? ≠ some '.') : memberPattern.run ⟨before, rest, groups⟩ = [] := by
  cases rest with
  | nil => rfl
  | cons c rest =>
      have hc : (c == '.') = false := by simpa using h
      simp [memberPattern, Regex.run, hc]

/-- The groups behind the member, if there is a dot. -/
theorem findFrom_perhaps_member (before rest name : Text) :
    ∃ sm, (Regex.times 0 (some 1) memberPattern).findFrom some ⟨before, rest, [(1, name)]⟩ =
        some sm ∧
      sm.groups.lookup 1 = some name ∧ (sm.groups.lookup 3).getD [] = capsMember rest := by
  rw [findFrom_perhaps_some memberPattern _ (by simp [memberPattern, Regex.indices])]
  by_cases hdot : rest.head? = some '.'
  · obtain ⟨rest, rfl⟩ : ∃ back, rest = '.' :: back := by
      cases rest with
      | nil => cases hdot
      | cons c back => exact ⟨back, by rw [Option.some_inj.mp hdot]⟩
    obtain ⟨text, hfind⟩ := findFrom_memberPattern_dot before rest [(1, name)]
    rw [findFrom_some] at hfind
    have hle : (rest.dropWhile isWordChar).length ≤ rest.length :=
      (List.dropWhile_sublist _).length_le
    obtain ⟨later, hrun⟩ := List.head?_eq_some_iff.mp hfind
    rw [hrun, List.filter_cons_of_pos (by simp; omega)]
    exact ⟨_, rfl, rfl, rfl⟩
  · rw [memberPattern_run_of_ne before rest _ hdot]
    refine ⟨_, rfl, rfl, ?_⟩
    cases rest with
    | nil => rfl
    | cons c rest =>
        have hc : c ≠ '.' := fun heq => hdot (by rw [heq]; rfl)
        unfold capsMember
        split
        · rename_i heq
          exact absurd (List.cons.inj heq).1 hc
        · rfl

/-- The search finds the name of a section at the start, and the member behind it. -/
theorem find_queryPattern_append (part : CapsPart) (rest : Text) :
    ∃ sm, queryPattern.find (sectionName part ++ rest) = some sm ∧
      sm.groups.lookup 1 = some (sectionName part) ∧
      (sm.groups.lookup 3).getD [] = capsMember rest := by
  have hliteral : ∀ next : Cursor Char → Option (Cursor Char),
      (∀ sm, (next ⟨(sectionName part).reverse ++ [], rest, []⟩) = some sm →
        (Regex.either (.literal (sectionName .accountInfo))
          (.literal (sectionName .deviceInfo))).findFrom next
            ⟨[], sectionName part ++ rest, []⟩ = some sm) := by
    intro next sm hnext
    rw [findFrom_either]
    cases part with
    | accountInfo =>
        rw [findFrom_literal_append, hnext]
        rfl
    | deviceInfo =>
        have hnot : ¬ sectionName .accountInfo <+: sectionName .deviceInfo ++ rest := by
          intro hprefix
          cases part_eq_of_isPrefix hprefix (List.prefix_append _ _)
        rw [findFrom_literal_of_not_isPrefix hnot, findFrom_literal_append, hnext]
        rfl
  obtain ⟨sm, hsm, hname, hmember⟩ :=
    findFrom_perhaps_member ((sectionName part).reverse ++ []) rest (sectionName part)
  refine ⟨sm, ?_, hname, hmember⟩
  rw [queryPattern, find_first_seq, findFrom_seq, findFrom_group]
  apply hliteral
  rw [List.length_append, Nat.add_sub_cancel_right, List.take_left]
  exact hsm

theorem find_queryPattern_of_not (h : ∀ part, ¬ sectionName part <+: query) :
    queryPattern.find query = none := by
  rw [queryPattern, find_first_seq, findFrom_seq, findFrom_group, findFrom_either,
    findFrom_literal_of_not_isPrefix (h .accountInfo),
    findFrom_literal_of_not_isPrefix (h .deviceInfo)]
  rfl

/-! ### Answers -/

theorem mem_loadMembers {members : List CapsMember} :
    Selects members member (loadMembers member members) := by
  intro label value
  unfold loadMembers
  rw [List.mem_filterMap]
  constructor
  · intro h
    obtain ⟨⟨name, content⟩, hmem, hvalue⟩ := h
    split at hvalue
    · rename_i hquery
      obtain ⟨value', rfl, heq⟩ := Option.map_eq_some_iff.mp hvalue
      cases heq
      exact ⟨hmem, hquery.imp id Eq.symm⟩
    · cases hvalue
  · intro h
    refine ⟨(label, some value), h.1, ?_⟩
    rw [if_pos (h.2.imp id Eq.symm)]
    rfl

/-- A query that begins with the name of a section is answered. -/
theorem loadPlatformAnswer_append (data : PlatformCapsData) (part : CapsPart) (rest : Text) :
    (loadPlatformAnswer data (sectionName part ++ rest)).success = true ∧
      (loadPlatformAnswer data (sectionName part ++ rest)).sections part =
        some (loadMembers (capsMember rest) (sectionMembers data part)) ∧
      ∀ other, other ≠ part →
        (loadPlatformAnswer data (sectionName part ++ rest)).sections other = none := by
  obtain ⟨sm, hfind, hname, hmember⟩ := find_queryPattern_append part rest
  have hne : sectionName part ++ rest ≠ [] := by simp [sectionName_ne_nil]
  have hpart : submatch (some sm) 1 = sectionName part := by simp [submatch, hname]
  have hquery : submatch (some sm) 3 = capsMember rest := hmember
  unfold loadPlatformAnswer
  rw [hfind]
  simp only [hne, false_or, Option.isSome_some, if_true, hpart, hquery, true_and]
  intro other hother
  apply if_neg
  intro heq
  have hprefix : sectionName other <+: sectionName part := heq ▸ List.prefix_refl _
  exact hother (part_eq_of_isPrefix hprefix (List.prefix_refl _))

theorem loadPlatformAnswer_of_not (data : PlatformCapsData) (hne : query ≠ [])
    (h : ∀ part, ¬ sectionName part <+: query) :
    loadPlatformAnswer data query = { sections := fun _ => none, success := false } := by
  unfold loadPlatformAnswer
  rw [find_queryPattern_of_not h]
  exact if_neg (by simp [hne])

theorem loadPlatformAnswer_nil (data : PlatformCapsData) :
    loadPlatformAnswer data [] = {
      sections := fun part => some (loadMembers [] (sectionMembers data part))
      success := true } := by
  have hnone : queryPattern.find [] = none := by
    apply find_queryPattern_of_not
    intro part hprefix
    exact sectionName_ne_nil part (List.prefix_nil.mp hprefix)
  unfold loadPlatformAnswer
  rw [hnone]
  simp [submatch]

/-! ### The member asked for

The smaller model takes the section and the member from the query without the pattern. -/

theorem parseQuery_eq (query : Text) :
    parseQuery query =
      if (sectionName .accountInfo).isPrefixOf query then
        some (.accountInfo, capsMember (query.drop (sectionName .accountInfo).length))
      else if (sectionName .deviceInfo).isPrefixOf query then
        some (.deviceInfo, capsMember (query.drop (sectionName .deviceInfo).length))
      else none := by
  have haccount : sectionName .accountInfo = "AccountInfo".toList := rfl
  have hdevice : sectionName .deviceInfo = "DeviceInfo".toList := rfl
  simp only [parseQuery, haccount, hdevice, String.length_toList]

theorem parseQuery_append (part : CapsPart) (rest : Text) :
    parseQuery (sectionName part ++ rest) = some (part, capsMember rest) := by
  have hown : (sectionName part).isPrefixOf (sectionName part ++ rest) = true :=
    List.isPrefixOf_iff_prefix.mpr (List.prefix_append _ _)
  rw [parseQuery_eq]
  cases part with
  | accountInfo => rw [if_pos hown, List.drop_left]
  | deviceInfo =>
      have hnot : ¬ (sectionName .accountInfo).isPrefixOf (sectionName .deviceInfo ++ rest) := by
        intro hprefix
        cases part_eq_of_isPrefix (List.isPrefixOf_iff_prefix.mp hprefix) (List.prefix_append _ _)
      rw [if_neg hnot, if_pos hown, List.drop_left]

theorem parseQuery_of_not (h : ∀ part, ¬ sectionName part <+: query) : parseQuery query = none := by
  have hnot : ∀ part, ¬ (sectionName part).isPrefixOf query :=
    fun part hprefix => h part (List.isPrefixOf_iff_prefix.mp hprefix)
  rw [parseQuery_eq, if_neg (hnot .accountInfo), if_neg (hnot .deviceInfo)]

/-- Both answers have the same result. -/
theorem loadPlatformAnswer_success (data : PlatformCapsData) (env : CapsEnv) (query : Text)
    (flag : Bool) :
    (loadPlatformAnswer data query).success = (loadPlatformCaps env query flag).1.success := by
  by_cases hnil : query = []
  · rw [hnil, loadPlatformAnswer_nil]
    rfl
  rw [loadPlatformCaps, if_neg hnil]
  by_cases hprefix : ∃ part, sectionName part <+: query
  · obtain ⟨part, rest, rfl⟩ := hprefix
    rw [(loadPlatformAnswer_append data part rest).1, parseQuery_append]
    cases part <;> rfl
  · rw [not_exists] at hprefix
    rw [loadPlatformAnswer_of_not data hnil hprefix, parseQuery_of_not hprefix]

/-! ### Names -/

theorem Names.isPrefix (h : Names query part member) : sectionName part <+: query := by
  rcases h with ⟨rfl, _⟩ | ⟨rfl, _⟩
  · exact List.prefix_refl _
  · exact List.prefix_append _ _

theorem names_append_iff :
    Names (sectionName part ++ rest) part member ↔
      rest = [] ∧ member = [] ∨ rest = '.' :: member ∧ ∀ c ∈ member, isWordChar c = true := by
  simp [Names]

/-- The member that is named is the one that is found. -/
theorem capsMember_of_names (h : Names (sectionName part ++ rest) part member) :
    capsMember rest = member := by
  rcases names_append_iff.mp h with ⟨rfl, rfl⟩ | ⟨rfl, hword⟩
  · rfl
  · exact List.takeWhile_eq_self_iff.mpr hword

/-- A query selects exactly what it names if and only if it names something as soon as it begins
with the name of a section. -/
theorem selectsExactly_iff (data : PlatformCapsData) (query : Text) :
    SelectsExactly data query ↔
      ∀ part, sectionName part <+: query → ∃ member, Names query part member := by
  constructor
  · intro h part hprefix
    by_contra hnone
    obtain ⟨rest, rfl⟩ := hprefix
    have hne : sectionName part ++ rest ≠ [] := by simp [sectionName_ne_nil]
    have hnot : ∀ other member, ¬ Names (sectionName part ++ rest) other member := by
      intro other member hnames
      obtain rfl := part_eq_of_isPrefix hnames.isPrefix (List.prefix_append _ _)
      exact hnone ⟨member, hnames⟩
    have hfailure := (h.rejected hne hnot).1
    rw [(loadPlatformAnswer_append data part rest).1] at hfailure
    cases hfailure
  · intro h
    refine ⟨fun hnil => ?_, fun part member hnames => ?_, fun hne hnot => ?_⟩
    · rw [hnil, loadPlatformAnswer_nil]
      exact ⟨rfl, fun part => ⟨_, rfl, mem_loadMembers⟩⟩
    · obtain ⟨rest, rfl⟩ := hnames.isPrefix
      obtain ⟨hsuccess, hpart, hother⟩ := loadPlatformAnswer_append data part rest
      rw [capsMember_of_names hnames] at hpart
      exact ⟨hsuccess, ⟨_, hpart, mem_loadMembers⟩, hother⟩
    · have hprefix : ∀ part, ¬ sectionName part <+: query := by
        intro part hprefix
        obtain ⟨member, hnames⟩ := h part hprefix
        exact hnot part member hnames
      rw [loadPlatformAnswer_of_not data hne hprefix]
      exact ⟨rfl, fun _ => rfl⟩

/-- A query for a section that there is not. -/
def unknownSection : Text := sectionName .deviceInfo ++ ['X']

/-- It is answered with all of `DeviceInfo`. -/
theorem not_selectsExactly_unknownSection : ¬ SelectsExactly default unknownSection := by
  intro h
  have hne : unknownSection ≠ [] := by simp [unknownSection]
  have hnot : ∀ part member, ¬ Names unknownSection part member := by
    intro part member hnames
    obtain rfl := part_eq_of_isPrefix hnames.isPrefix (List.prefix_append _ _)
    rcases names_append_iff.mp hnames with ⟨hnil, _⟩ | ⟨hdot, _⟩
    · cases hnil
    · cases (List.cons.inj hdot).1
  have hfailure := (h.rejected hne hnot).1
  rw [unknownSection, (loadPlatformAnswer_append default .deviceInfo ['X']).1] at hfailure
  cases hfailure

end DeviceAndDisplay.SystemServices
