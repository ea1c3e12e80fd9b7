import Mathlib.Data.List.Basic
import Mathlib.Data.List.Induction
import Mathlib.Logic.Function.Basic

/-! Writes to memory, element by element, and blocks of consecutive elements. -/

namespace DeviceAndDisplay.Storage

variable {α : Type*}

/-- One element written at an index. -/
structure Write (α : Type*) where
  index : ℕ
  value : α
deriving DecidableEq, Repr

/-- The memory after the writes, the first one first. -/
def store (writes : List (Write α)) (memory : ℕ → α) : ℕ → α :=
  writes.foldl (fun memory w => Function.update memory w.index w.value) memory

/-- The writes of consecutive elements from an index on. -/
def block (start : ℕ) : List α → List (Write α)
  | [] => []
  | a :: rest => ⟨start, a⟩ :: block (start + 1) rest

theorem index_of_mem_block {values : List α} {start : ℕ} {w : Write α}
    (h : w ∈ block start values) : start ≤ w.index ∧ w.index < start + values.length := by
  induction values generalizing start with
  | nil => cases h
  | cons a rest ih =>
      rw [List.length_cons]
      rcases List.mem_cons.mp h with rfl | h
      · exact ⟨Nat.le_refl start, Nat.lt_add_of_pos_right (Nat.succ_pos _)⟩
      · obtain ⟨hle, hlt⟩ := ih h
        omega

theorem exists_mem_block {values : List α} (start : ℕ) {i : ℕ} (h : i < values.length) :
    ∃ w ∈ block start values, w.index = start + i := by
  induction values generalizing start i with
  | nil => cases h
  | cons a rest ih =>
      cases i with
      | zero => exact ⟨⟨start, a⟩, List.mem_cons_self, rfl⟩
      | succ i =>
          obtain ⟨w, hw, hi⟩ := ih (start + 1) (Nat.lt_of_succ_lt_succ h)
          exact ⟨w, List.mem_cons_of_mem _ hw, by omega⟩

/-- Nothing before a block is touched. -/
theorem store_block_of_lt (values : List α) {start i : ℕ} (memory : ℕ → α) (h : i < start) :
    store (block start values) memory i = memory i := by
  induction values generalizing start memory with
  | nil => rfl
  | cons a rest ih =>
      have hrest := ih (Function.update memory start a) (Nat.lt_succ_of_lt h)
      rw [Function.update_of_ne (by omega)] at hrest
      exact hrest

theorem store_block {values : List α} (start : ℕ) {i : ℕ} (memory : ℕ → α)
    (h : i < values.length) :
    some (store (block start values) memory (start + i)) = values[i]? := by
  induction values generalizing start i memory with
  | nil => cases h
  | cons a rest ih =>
      cases i with
      | zero =>
          have hfirst := store_block_of_lt rest (Function.update memory start a)
            (Nat.lt_succ_self start)
          rw [Function.update_self] at hfirst
          exact congrArg some hfirst
      | succ i =>
          have hrest := ih (start + 1) (Function.update memory start a)
            (Nat.lt_of_succ_lt_succ h)
          rw [Nat.add_assoc, Nat.add_comm 1 i] at hrest
          exact hrest

end DeviceAndDisplay.Storage

/-! ## A sequence of writes

A table after a sequence of writes holds at each place what was written there last. -/

namespace DeviceAndDisplay.Storage

variable {ι β : Type*} [DecidableEq ι]

/-- The table after the writes, from the first to the last. -/
def writeAll (table : ι → β) (writes : List (ι × β)) : ι → β :=
  writes.foldl (fun table w => Function.update table w.1 w.2) table

/-- What is written at the place last. -/
def lastWrite (place : ι) (writes : List (ι × β)) : Option β :=
  (writes.reverse.find? fun w => w.1 = place).map Prod.snd

theorem writeAll_append (table : ι → β) (writes writes' : List (ι × β)) :
    writeAll table (writes ++ writes') = writeAll (writeAll table writes) writes' :=
  List.foldl_append ..

theorem writeAll_flatten (table : ι → β) (writes : List (List (ι × β))) :
    writeAll table writes.flatten = writes.foldl writeAll table := by
  induction writes generalizing table with
  | nil => rfl
  | cons first rest ih =>
      rw [List.flatten_cons, writeAll_append]
      exact ih (writeAll table first)

theorem writeAll_apply (table : ι → β) (writes : List (ι × β)) (place : ι) :
    writeAll table writes place = (lastWrite place writes).getD (table place) := by
  induction writes using List.reverseRecOn with
  | nil => rfl
  | append_singleton writes w ih =>
      rw [writeAll_append]
      by_cases hw : w.1 = place
      · simp [writeAll, lastWrite, hw]
      · have hne : place ≠ w.1 := Ne.symm hw
        simp only [lastWrite, List.reverse_append, List.reverse_singleton, List.singleton_append,
          List.find?_cons, hw, decide_false] at ih ⊢
        rw [← ih]
        simp [writeAll, hne]

/-- A write of what is there already changes nothing. -/
theorem writeAll_self {table : ι → β} {writes : List (ι × β)}
    (h : ∀ w ∈ writes, table w.1 = w.2) : writeAll table writes = table := by
  induction writes with
  | nil => rfl
  | cons w writes ih =>
      have hw : Function.update table w.1 w.2 = table := by
        rw [← h w List.mem_cons_self]
        exact Function.update_eq_self w.1 table
      rw [writeAll, List.foldl_cons, hw]
      exact ih fun w' hw' => h w' (List.mem_cons_of_mem w hw')

end DeviceAndDisplay.Storage
