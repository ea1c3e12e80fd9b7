import Mathlib.Data.List.Nodup

/-! Tables: values under keys, with the laws that their operations have to meet. -/

namespace DeviceAndDisplay.Storage

variable {τ κ ν : Type*}

structure Table (τ κ ν : Type*) where
  empty : τ
  get : τ → κ → Option ν
  set : τ → κ → ν → τ
  remove : τ → κ → τ
  /-- In the order of an iteration. -/
  keys : τ → List κ

namespace Table

/-- A key that was removed may be left with its value. -/
structure Lawful (T : Table τ κ ν) : Prop where
  get_empty : ∀ k, T.get T.empty k = none
  get_set_self : ∀ d k v, T.get (T.set d k v) k = some v
  get_set_ne : ∀ d k k' v, k' ≠ k → T.get (T.set d k v) k' = T.get d k'
  get_remove_self : ∀ d k, T.get (T.remove d k) k = none ∨ T.get (T.remove d k) k = T.get d k
  get_remove_ne : ∀ d k k', k' ≠ k → T.get (T.remove d k) k' = T.get d k'
  mem_keys : ∀ d k, k ∈ T.keys d ↔ (T.get d k).isSome = true
  nodup_keys : ∀ d, (T.keys d).Nodup

/-- The keys with their values. -/
def entries (T : Table τ κ ν) (d : τ) : List (κ × ν) :=
  (T.keys d).filterMap fun k => (T.get d k).map fun v => (k, v)

/-- The values are set from left to right. -/
def setAll (T : Table τ κ ν) (d : τ) (entries : List (κ × ν)) : τ :=
  entries.foldl (fun d entry => T.set d entry.1 entry.2) d

variable {T : Table τ κ ν}

theorem mem_entries (hT : T.Lawful) {d : τ} {k : κ} {v : ν} :
    (k, v) ∈ T.entries d ↔ T.get d k = some v := by
  simp only [entries, List.mem_filterMap, Option.map_eq_some_iff, Prod.mk.injEq]
  constructor
  · rintro ⟨k', _, v', hv', rfl, rfl⟩
    exact hv'
  · intro hv
    refine ⟨k, ?_, v, hv, rfl, rfl⟩
    rw [hT.mem_keys, hv]
    rfl

theorem keys_entries (hT : T.Lawful) (d : τ) : (T.entries d).map Prod.fst = T.keys d := by
  have hkey : ∀ k ∈ T.keys d,
      ((T.get d k).map fun v => (k, v)).map Prod.fst = some k := by
    intro k hk
    obtain ⟨v, hv⟩ := Option.isSome_iff_exists.mp ((hT.mem_keys d k).mp hk)
    rw [hv]
    rfl
  rw [entries, List.map_filterMap]
  generalize T.keys d = ks at hkey
  induction ks with
  | nil => rfl
  | cons k ks ih =>
      rw [List.filterMap_cons, hkey k List.mem_cons_self]
      simp only
      rw [ih fun k' hk' => hkey k' (List.mem_cons_of_mem k hk')]

@[simp] theorem setAll_nil (d : τ) : T.setAll d [] = d := rfl

@[simp] theorem setAll_cons (d : τ) (entry : κ × ν) (entries : List (κ × ν)) :
    T.setAll d (entry :: entries) = T.setAll (T.set d entry.1 entry.2) entries := rfl

theorem get_setAll_of_not_mem (hT : T.Lawful) {k : κ} {entries : List (κ × ν)}
    (h : k ∉ entries.map Prod.fst) (d : τ) : T.get (T.setAll d entries) k = T.get d k := by
  induction entries generalizing d with
  | nil => rfl
  | cons entry entries ih =>
      rw [List.map_cons, List.mem_cons, not_or] at h
      rw [setAll_cons, ih h.2, hT.get_set_ne _ _ _ _ h.1]

theorem get_setAll_of_mem (hT : T.Lawful) {k : κ} {v : ν} {entries : List (κ × ν)}
    (hd : (entries.map Prod.fst).Nodup) (h : (k, v) ∈ entries) (d : τ) :
    T.get (T.setAll d entries) k = some v := by
  induction entries generalizing d with
  | nil => cases h
  | cons entry entries ih =>
      rw [List.map_cons, List.nodup_cons] at hd
      rw [setAll_cons]
      rcases List.mem_cons.mp h with rfl | h
      · rw [get_setAll_of_not_mem hT hd.1, hT.get_set_self]
      · exact ih hd.2 h _

theorem mem_or_of_get_setAll (hT : T.Lawful) {k : κ} {v : ν} {entries : List (κ × ν)} {d : τ}
    (h : T.get (T.setAll d entries) k = some v) : (k, v) ∈ entries ∨ T.get d k = some v := by
  induction entries generalizing d with
  | nil => exact .inr h
  | cons entry entries ih =>
      rw [setAll_cons] at h
      rcases ih h with hmem | hget
      · exact .inl (List.mem_cons_of_mem entry hmem)
      · by_cases hk : k = entry.1
        · rw [hk, hT.get_set_self, Option.some.injEq] at hget
          rw [hk, ← hget]
          exact .inl List.mem_cons_self
        · rw [hT.get_set_ne _ _ _ _ hk] at hget
          exact .inr hget

theorem mem_of_get_setAll (hT : T.Lawful) {k : κ} {v : ν} {entries : List (κ × ν)}
    (h : T.get (T.setAll T.empty entries) k = some v) : (k, v) ∈ entries := by
  rcases mem_or_of_get_setAll hT h with hmem | hget
  · exact hmem
  · rw [hT.get_empty] at hget
    cases hget

end Table

/-! ### Association lists -/

/-- At most one value under a key. -/
structure AssocList (κ ν : Type*) where
  entries : List (κ × ν)
  nodup : (entries.map Prod.fst).Nodup

namespace AssocList

variable [DecidableEq κ]

def get (d : AssocList κ ν) (k : κ) : Option ν := d.entries.lookup k

def remove (d : AssocList κ ν) (k : κ) : AssocList κ ν where
  entries := d.entries.filter fun entry => entry.1 ≠ k
  nodup := d.nodup.sublist ((List.filter_sublist).map Prod.fst)

theorem not_mem_keys_remove (d : AssocList κ ν) (k : κ) :
    k ∉ (d.remove k).entries.map Prod.fst := by
  intro h
  obtain ⟨entry, hentry, hk⟩ := List.mem_map.mp h
  have hne := (List.mem_filter.mp hentry).2
  simp [hk] at hne

def set (d : AssocList κ ν) (k : κ) (v : ν) : AssocList κ ν where
  entries := (k, v) :: (d.remove k).entries
  nodup := List.nodup_cons.mpr ⟨not_mem_keys_remove d k, (d.remove k).nodup⟩

theorem get_remove_ne (d : AssocList κ ν) {k k' : κ} (h : k' ≠ k) :
    (d.remove k).get k' = d.get k' := by
  simp only [get, remove]
  generalize d.entries = entries
  induction entries with
  | nil => rfl
  | cons entry entries ih =>
      rw [List.filter_cons, List.lookup_cons]
      split
      · rw [List.lookup_cons, ih]
      · rename_i hk
        have hk : entry.1 = k := by simpa using hk
        have hne : (k' == entry.1) = false := by simpa [hk] using h
        rw [ih, hne]

theorem mem_keys_iff (d : AssocList κ ν) (k : κ) :
    k ∈ d.entries.map Prod.fst ↔ (d.get k).isSome = true := by
  simp only [get]
  generalize d.entries = entries
  induction entries with
  | nil => simp
  | cons entry entries ih =>
      rw [List.map_cons, List.mem_cons, List.lookup_cons, ih]
      by_cases h : k = entry.1
      · simp [h]
      · have hne : (k == entry.1) = false := by simpa using h
        rw [hne]
        exact or_iff_right h

def table (κ ν : Type*) [DecidableEq κ] : Table (AssocList κ ν) κ ν where
  empty := ⟨[], List.nodup_nil⟩
  get := get
  set := set
  remove := remove
  keys d := d.entries.map Prod.fst

theorem table_lawful : (table κ ν).Lawful where
  get_empty _ := rfl
  get_set_self d k v := by
    simp [table, get, set]
  get_set_ne d k k' v h := by
    have hne : (k' == k) = false := by simpa using h
    simp only [table, get, set, List.lookup_cons, hne]
    exact get_remove_ne d h
  get_remove_self d k := by
    left
    rw [← Option.not_isSome_iff_eq_none]
    exact fun h => not_mem_keys_remove d k ((mem_keys_iff (d.remove k) k).mpr h)
  get_remove_ne d _ _ h := get_remove_ne d h
  mem_keys := mem_keys_iff
  nodup_keys d := d.nodup

end AssocList

end DeviceAndDisplay.Storage
