import Mathlib.Data.List.Nodup
import Mathlib.Data.Option.Basic

/-! # Objects in objects

A tree whose nodes have named entries, and what a path of names leads to in it. -/

namespace DeviceAndDisplay.Storage

variable {κ ν α : Type*}

/-- The value of a name, in a list of entries that has it at most once. -/
def setEntry [DecidableEq κ] (name : κ) (value : ν) : List (κ × ν) → List (κ × ν)
  | [] => [(name, value)]
  | entry :: entries =>
      if entry.1 = name then (name, value) :: entries else entry :: setEntry name value entries

/-- The value of the first entry of a name. -/
def getEntry [DecidableEq κ] (name : κ) : List (κ × ν) → Option ν
  | [] => none
  | entry :: entries => if name = entry.1 then some entry.2 else getEntry name entries

inductive ObjectTree (κ α : Type*) where
  | leaf (a : α)
  | node (entries : List (κ × ObjectTree κ α))

theorem map_fst_eq {R : ν → ν → Prop} {entries entries' : List (κ × ν)}
    (h : List.Forall₂ (fun entry entry' => entry.1 = entry'.1 ∧ R entry.2 entry'.2)
      entries entries') : entries.map Prod.fst = entries'.map Prod.fst := by
  induction h with
  | nil => rfl
  | cons hentry _ ih => rw [List.map_cons, List.map_cons, hentry.1, ih]

variable [DecidableEq κ]

theorem getEntry_setEntry (name name' : κ) (value : ν) (entries : List (κ × ν)) :
    getEntry name' (setEntry name value entries) =
      if name' = name then some value else getEntry name' entries := by
  induction entries with
  | nil => rfl
  | cons entry entries ih =>
      rw [setEntry]
      by_cases hentry : entry.1 = name
      · by_cases h : name' = name <;> simp [getEntry, h, hentry]
      · rw [if_neg hentry, getEntry, ih, getEntry]
        by_cases h : name' = entry.1 <;> simp [h, hentry]

theorem getEntry_eq_none {name : κ} {entries : List (κ × ν)} (h : name ∉ entries.map Prod.fst) :
    getEntry name entries = none := by
  induction entries with
  | nil => rfl
  | cons entry entries ih =>
      rw [List.map_cons, List.mem_cons, not_or] at h
      rw [getEntry, if_neg h.1, ih h.2]

theorem mem_of_getEntry {name : κ} {value : ν} {entries : List (κ × ν)}
    (h : getEntry name entries = some value) : (name, value) ∈ entries := by
  induction entries with
  | nil => cases h
  | cons entry entries ih =>
      rw [getEntry] at h
      split_ifs at h with hname
      · cases h
        rw [hname]
        exact List.mem_cons_self
      · exact List.mem_cons_of_mem entry (ih h)

/-- The entries are set from left to right. -/
def setEntries (entries out : List (κ × ν)) : List (κ × ν) :=
  entries.foldl (fun out entry => setEntry entry.1 entry.2 out) out

theorem getEntry_setEntries {entries : List (κ × ν)} (h : (entries.map Prod.fst).Nodup) (name : κ)
    (out : List (κ × ν)) :
    getEntry name (setEntries entries out) = (getEntry name entries).or (getEntry name out) := by
  induction entries generalizing out with
  | nil => rfl
  | cons entry entries ih =>
      obtain ⟨hnot, h⟩ := List.nodup_cons.mp h
      have hrest := ih h (setEntry entry.1 entry.2 out)
      rw [getEntry_setEntry] at hrest
      rw [setEntries, List.foldl_cons, getEntry]
      refine hrest.trans ?_
      by_cases hname : name = entry.1
      · rw [hname, getEntry_eq_none hnot]
        simp
      · simp [hname]

theorem getEntry_filter {entries : List (κ × ν)} (h : (entries.map Prod.fst).Nodup) (name : κ)
    (p : κ × ν → Bool) :
    getEntry name (entries.filter p) =
      (getEntry name entries).filter fun value => p (name, value) := by
  induction entries with
  | nil => rfl
  | cons entry entries ih =>
      obtain ⟨name', value⟩ := entry
      obtain ⟨hnot, h⟩ := List.nodup_cons.mp h
      have hrest := ih h
      rw [List.filter_cons, getEntry]
      by_cases hname : name = name'
      · subst hname
        rw [getEntry_eq_none hnot] at hrest
        cases hp : p (name, value) <;> simp [hp, getEntry, hrest, Option.filter]
      · cases p (name', value) <;> simp [getEntry, hname, hrest]

namespace ObjectTree

/-- What the names lead to. -/
def find : ObjectTree κ α → List κ → Option (ObjectTree κ α)
  | tree, [] => some tree
  | .leaf _, _ :: _ => none
  | .node entries, name :: names => (getEntry name entries).bind fun tree => tree.find names

@[simp] theorem find_nil (tree : ObjectTree κ α) : tree.find [] = some tree := by
  cases tree <;> rfl

@[simp] theorem find_leaf_cons (a : α) (name : κ) (names : List κ) :
    (leaf a : ObjectTree κ α).find (name :: names) = none := rfl

@[simp] theorem find_node_cons (entries : List (κ × ObjectTree κ α)) (name : κ) (names : List κ) :
    (node entries).find (name :: names) =
      (getEntry name entries).bind fun tree => tree.find names := rfl

/-- The trees have the same leaves in the same places. -/
def SameLeaves (tree tree' : ObjectTree κ α) : Prop :=
  ∀ names a, tree.find names = some (leaf a) ↔ tree'.find names = some (leaf a)

theorem SameLeaves.refl (tree : ObjectTree κ α) : SameLeaves tree tree := fun _ _ => Iff.rfl

/-- Nodes whose entries of each name have the same leaves have the same leaves. -/
theorem sameLeaves_node {entries entries' : List (κ × ObjectTree κ α)}
    (h : ∀ name, Option.Rel SameLeaves (getEntry name entries) (getEntry name entries')) :
    SameLeaves (node entries) (node entries') := by
  intro names a
  cases names with
  | nil => simp
  | cons name names =>
      have hname := h name
      rw [find_node_cons, find_node_cons]
      revert hname
      cases getEntry name entries <;> cases getEntry name entries' <;> intro hname
      · exact Iff.rfl
      · cases hname
      · cases hname
      · cases hname with
        | some hrel => exact hrel names a

/-- Lists whose entries have the same names and the same leaves, one by one. -/
theorem rel_getEntry {entries entries' : List (κ × ObjectTree κ α)}
    (h : List.Forall₂ (fun entry entry' => entry.1 = entry'.1 ∧ SameLeaves entry.2 entry'.2)
      entries entries') (name : κ) :
    Option.Rel SameLeaves (getEntry name entries) (getEntry name entries') := by
  induction h with
  | nil => exact .none
  | cons hentry _ ih =>
      rw [getEntry, getEntry, hentry.1]
      split_ifs with hname
      · exact .some hentry.2
      · exact ih

end ObjectTree

end DeviceAndDisplay.Storage
