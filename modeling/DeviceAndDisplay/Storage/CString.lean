import DeviceAndDisplay.Storage.Text
import Mathlib.Data.List.TakeWhile

/-! C strings in arrays of a fixed size. An access outside the array has no result. -/

namespace DeviceAndDisplay.Storage

/-- The character that ends a C string. -/
def nul : Char := .ofNat 0

/-- The C string at the start of an array. -/
def cText (array : List Char) : List Char :=
  array.takeWhile fun c => c ≠ nul

/-- `array[i]`. -/
def loadAt (array : List Char) (i : ℕ) : Option Char := array[i]?

/-- `array[i] = c`. -/
def storeAt (array : List Char) (i : ℕ) (c : Char) : Option (List Char) :=
  if i < array.length then some (array.set i c) else none

/-- `strlen`. -/
def strlen (array : List Char) : Option ℕ :=
  if nul ∈ array then some (cText array).length else none

/-- `strncpy`: `n` characters are written, with NULs after the end of the source, which is read up
to its NUL. -/
def strncpy (dest src : List Char) (n : ℕ) : Option (List Char) :=
  if dest.length < n then
    none
  else if nul ∈ src ∨ n ≤ src.length then
    some ((cText src).take n ++ List.replicate (n - (cText src).length) nul ++ dest.drop n)
  else
    none

theorem cText_append {text : List Char} (h : nul ∉ text) (rest : List Char) :
    cText (text ++ nul :: rest) = text := by
  induction text with
  | nil => simp [cText]
  | cons c text ih =>
      rw [List.mem_cons, not_or] at h
      rw [List.cons_append, cText, List.takeWhile_cons_of_pos (by simpa using Ne.symm h.1)]
      exact congrArg (c :: ·) (ih h.2)

theorem nul_notMem_cText (array : List Char) : nul ∉ cText array := by
  intro h
  simpa using List.mem_takeWhile_imp h

theorem strlen_append {text : List Char} (h : nul ∉ text) (rest : List Char) :
    strlen (text ++ nul :: rest) = some text.length := by
  rw [strlen, if_pos (by simp), cText_append h]

theorem strncpy_eq_none {dest src : List Char} {n : ℕ} (h : dest.length < n) :
    strncpy dest src n = none :=
  if_pos h

/-- A copy that is terminated within the array holds the start of the source. -/
theorem strncpy_storeAt {dest src : List Char} {n : ℕ} (hn : n < dest.length) (hsrc : nul ∈ src) :
    ∃ array, ((strncpy dest src n).bind fun copy => storeAt copy n nul) = some array ∧
      array.length = dest.length ∧ cText array = (cText src).take n := by
  have hlen : ((cText src).take n ++ List.replicate (n - (cText src).length) nul).length = n := by
    simp only [List.length_append, List.length_take, List.length_replicate]
    omega
  have hdrop : dest.drop n = dest[n] :: dest.drop (n + 1) := List.drop_eq_getElem_cons hn
  refine ⟨(cText src).take n ++ List.replicate (n - (cText src).length) nul ++
    nul :: dest.drop (n + 1), ?_, ?_, ?_⟩
  · rw [strncpy, if_neg (Nat.not_lt.mpr (Nat.le_of_lt hn)), if_pos (.inl hsrc), Option.bind_some,
      storeAt, if_pos (by rw [List.length_append, hlen, List.length_drop]; omega), hdrop,
      List.set_append_right _ _ (Nat.le_of_eq hlen), hlen, Nat.sub_self, List.set_cons_zero]
  · rw [List.length_append, hlen, List.length_cons, List.length_drop]
    omega
  · have hnul : nul ∉ (cText src).take n := fun h =>
      nul_notMem_cText src (List.mem_of_mem_take h)
    rw [List.append_assoc]
    cases hpad : n - (cText src).length with
    | zero => exact cText_append hnul _
    | succ k => exact cText_append hnul _

/-! ### Reading into an array -/

/-- The texts that `fgets` reads after `line`, if it may read `room` more characters, and at most
`limit` each time after that. -/
def fgetsFrom (limit : ℕ) : (room : ℕ) → (line : List Char) → List Char → List (List Char)
  | _, line, [] => if line = [] then [] else [line]
  | room, line, c :: rest =>
      if c = '\n' ∨ room ≤ 1 then (line ++ [c]) :: fgetsFrom limit limit [] rest
      else fgetsFrom limit (room - 1) (line ++ [c]) rest

/-- The texts that calls of `fgets` read from a file, for an array of `size` characters. -/
def fgets (size : ℕ) (text : List Char) : List (List Char) :=
  fgetsFrom (size - 1) (size - 1) [] text

theorem flatten_fgetsFrom (limit room : ℕ) (line text : List Char) :
    (fgetsFrom limit room line text).flatten = line ++ text := by
  induction text generalizing room line with
  | nil =>
      rw [fgetsFrom]
      split
      · rename_i hline
        rw [hline]
        rfl
      · simp
  | cons c rest ih =>
      rw [fgetsFrom]
      split
      · rw [List.flatten_cons, ih, List.nil_append, List.append_assoc]
        rfl
      · rw [ih, List.append_assoc]
        rfl

theorem cText_of_nul_notMem {text : List Char} (h : nul ∉ text) : cText text = text := by
  rw [cText, List.takeWhile_eq_self_iff]
  intro c hc
  simpa using fun heq : c = nul => h (heq ▸ hc)

/-- A text without NUL is read as it is. -/
theorem flatMap_fgets {size : ℕ} {text : List Char} (h : nul ∉ text) :
    (fgets size text).flatMap cText = text := by
  have hflatten : (fgets size text).flatten = text := flatten_fgetsFrom _ _ [] text
  have hparts : ∀ part ∈ fgets size text, cText part = part := by
    intro part hpart
    refine cText_of_nul_notMem fun hnul => h ?_
    rw [← hflatten]
    exact List.mem_flatten_of_mem hpart hnul
  rw [List.flatMap_def, List.map_congr_left hparts, List.map_id'']
  · exact hflatten
  · exact fun _ => rfl

/-! ### Pieces of lines -/

theorem fgetsFrom_append_newline (limit room : ℕ) (line part rest : List Char)
    (hpart : '\n' ∉ part) (hroom : 0 < room) :
    fgetsFrom limit room line (part ++ '\n' :: rest) =
      if part.length < room then (line ++ part ++ ['\n']) :: fgetsFrom limit limit [] rest
      else (line ++ part.take room) ::
        fgetsFrom limit limit [] (part.drop room ++ '\n' :: rest) := by
  induction part generalizing room line with
  | nil => simp [fgetsFrom, hroom]
  | cons c part ih =>
      rw [List.mem_cons, not_or] at hpart
      rw [List.cons_append, fgetsFrom, List.length_cons]
      by_cases hone : room = 1
      · subst hone
        simp
      · obtain ⟨next, rfl⟩ : ∃ next, room = next + 1 := ⟨room - 1, by omega⟩
        rw [if_neg (by simp [Ne.symm hpart.1]; omega), Nat.add_sub_cancel,
          ih next _ hpart.2 (by omega)]
        simp

theorem fgetsFrom_of_not_mem (limit room : ℕ) (line part : List Char) (hpart : '\n' ∉ part)
    (hroom : 0 < room) (hne : line ++ part ≠ []) :
    fgetsFrom limit room line part =
      (line ++ part.take room) :: fgetsFrom limit limit [] (part.drop room) := by
  induction part generalizing room line with
  | nil =>
      rw [List.append_nil] at hne
      simp [fgetsFrom, hne]
  | cons c part ih =>
      rw [List.mem_cons, not_or] at hpart
      rw [fgetsFrom]
      by_cases hone : room = 1
      · subst hone
        simp
      · obtain ⟨next, rfl⟩ : ∃ next, room = next + 1 := ⟨room - 1, by omega⟩
        rw [if_neg (by simp [Ne.symm hpart.1]; omega), Nat.add_sub_cancel,
          ih next _ hpart.2 (by omega) (by simp)]
        simp

/-- Lines that fit into the array are read one by one. -/
theorem fgets_lines {size : ℕ} {lines : List (List Char)}
    (h : ∀ line ∈ lines, ∃ body, line = body ++ ['\n'] ∧ '\n' ∉ body ∧ line.length < size) :
    fgets size lines.flatten = lines := by
  induction lines with
  | nil => rfl
  | cons line lines ih =>
      obtain ⟨body, rfl, hbody, hlength⟩ := h line List.mem_cons_self
      rw [List.length_append, List.length_singleton] at hlength
      have hrest := ih fun other hother => h other (List.mem_cons_of_mem _ hother)
      rw [fgets] at hrest ⊢
      rw [List.flatten_cons, List.append_assoc, List.singleton_append,
        fgetsFrom_append_newline _ _ _ _ _ hbody (by omega), if_pos (by omega), hrest]
      rfl

variable {β : Type*} {f : List Char → Option β} {size : ℕ}

/-- What a line has from a multiple of the size on, and not more than the size. -/
def pieceAt (size : ℕ) (line : List Char) (k : ℕ) : List Char := (line.drop (size * k)).take size

theorem pieceAt_succ (size : ℕ) (line : List Char) (k : ℕ) :
    pieceAt size line (k + 1) = pieceAt size (line.drop size) k := by
  rw [pieceAt, pieceAt, List.drop_drop, Nat.mul_succ, Nat.add_comm]

theorem pieceAt_nil (size k : ℕ) : pieceAt size [] k = [] := by
  rw [pieceAt, List.drop_nil, List.take_nil]

/-- The first result for the pieces of a line. -/
def firstPiece (f : List Char → Option β) (size : ℕ) (line : List Char) : Option β :=
  if line = [] ∨ size = 0 then none
  else (f (line.take size)).or (firstPiece f size (line.drop size))
termination_by line.length
decreasing_by
  rename_i hline
  rw [not_or, ← List.length_eq_zero_iff] at hline
  rw [List.length_drop]
  omega

theorem firstPiece_nil (f : List Char → Option β) (size : ℕ) : firstPiece f size [] = none := by
  rw [firstPiece, if_pos (.inl rfl)]

theorem firstPiece_step (hnil : f [] = none) (hsize : 0 < size) (line : List Char) :
    firstPiece f size line = (f (line.take size)).or (firstPiece f size (line.drop size)) := by
  by_cases hline : line = []
  · rw [hline, List.take_nil, List.drop_nil, firstPiece_nil, hnil]
    rfl
  · rw [firstPiece, if_neg (by simp [hline]; omega)]

theorem firstPiece_eq_some_iff (hnil : f [] = none) (hsize : 0 < size) (line : List Char)
    (result : β) :
    firstPiece f size line = some result ↔
      ∃ k, f (pieceAt size line k) = some result ∧ ∀ j < k, f (pieceAt size line j) = none := by
  induction hlength : line.length using Nat.strongRecOn generalizing line with
  | ind length ih =>
      by_cases hline : line = []
      · subst hline
        simp [firstPiece_nil, pieceAt_nil, hnil]
      · have hpos := List.length_pos_iff.mpr hline
        have hrest := ih (line.drop size).length (by rw [List.length_drop]; omega) _ rfl
        have hzero : pieceAt size line 0 = line.take size := rfl
        rw [firstPiece_step hnil hsize, Option.or_eq_some_iff, hrest]
        constructor
        · intro h
          rcases h with h | ⟨hnone, k, hk, hbefore⟩
          · exact ⟨0, hzero ▸ h, fun j hj => absurd hj (Nat.not_lt_zero j)⟩
          · refine ⟨k + 1, by rw [pieceAt_succ, hk], fun j hj => ?_⟩
            cases j with
            | zero => rw [hzero, hnone]
            | succ j => rw [pieceAt_succ, hbefore j (by omega)]
        · intro h
          obtain ⟨k, hk, hbefore⟩ := h
          cases k with
          | zero => exact .inl (hzero ▸ hk)
          | succ k =>
              refine .inr ⟨hzero ▸ hbefore 0 (Nat.succ_pos k), k, pieceAt_succ size line k ▸ hk, ?_⟩
              intro j hj
              rw [← pieceAt_succ, hbefore (j + 1) (by omega)]

theorem findSome?_fgetsFrom_append_newline (hnil : f [] = none)
    (hnewline : ∀ piece, f (piece ++ ['\n']) = f piece) (hsize : 0 < size) (part rest : List Char)
    (hpart : '\n' ∉ part) :
    (fgetsFrom size size [] (part ++ '\n' :: rest)).findSome? f =
      (firstPiece f size part).or ((fgetsFrom size size [] rest).findSome? f) := by
  induction hlength : part.length using Nat.strongRecOn generalizing part with
  | ind length ih =>
      rw [fgetsFrom_append_newline size size [] part rest hpart hsize, firstPiece_step hnil hsize]
      split
      · rename_i hshort
        have htake : part.take size = part := List.take_of_length_le (by omega)
        have hdrop : part.drop size = [] := List.drop_of_length_le (by omega)
        rw [htake, hdrop, firstPiece_nil, List.findSome?_cons, List.nil_append, hnewline]
        cases f part <;> rfl
      · have hmem : '\n' ∉ part.drop size := fun h => hpart (List.mem_of_mem_drop h)
        have hrest := ih (part.drop size).length (by rw [List.length_drop]; omega) _ hmem rfl
        rw [List.findSome?_cons, hrest, List.nil_append]
        cases f (part.take size) <;> rfl

theorem findSome?_fgetsFrom_of_not_mem (hnil : f [] = none) (hsize : 0 < size) (part : List Char)
    (hpart : '\n' ∉ part) :
    (fgetsFrom size size [] part).findSome? f = firstPiece f size part := by
  induction hlength : part.length using Nat.strongRecOn generalizing part with
  | ind length ih =>
      by_cases hne : part = []
      · subst hne
        rw [firstPiece_nil]
        rfl
      · have hpos := List.length_pos_iff.mpr hne
        have hmem : '\n' ∉ part.drop size := fun h => hpart (List.mem_of_mem_drop h)
        have hrest := ih (part.drop size).length (by rw [List.length_drop]; omega) _ hmem rfl
        rw [fgetsFrom_of_not_mem size size [] part hpart hsize (by simpa using hne),
          List.findSome?_cons, hrest, firstPiece_step hnil hsize part, List.nil_append]
        cases f (part.take size) <;> rfl

/-- A search among what `fgets` reads is one among the pieces of each line, if a line end makes no
difference to it. -/
theorem findSome?_fgets (hnil : f [] = none) (hnewline : ∀ piece, f (piece ++ ['\n']) = f piece)
    (hsize : 1 < size) (text : List Char) :
    (fgets size text).findSome? f =
      (readParts '\n' text).findSome? (firstPiece f (size - 1)) := by
  have hroom : 0 < size - 1 := by omega
  unfold fgets
  induction hlength : text.length using Nat.strongRecOn generalizing text with
  | ind length ih =>
      by_cases hmem : '\n' ∈ text
      · obtain ⟨part, rest, rfl, hpart⟩ := List.eq_append_cons_of_mem hmem
        have hrest := ih rest.length (by rw [← hlength]; simp; omega) rest rfl
        rw [findSome?_fgetsFrom_append_newline hnil hnewline hroom part rest hpart,
          readParts_append_cons hpart, List.findSome?_cons, hrest]
        cases firstPiece f (size - 1) part <;> rfl
      · rw [findSome?_fgetsFrom_of_not_mem hnil hroom text hmem]
        by_cases hne : text = []
        · rw [hne, firstPiece_nil]
          rfl
        · rw [readParts_of_not_mem hmem hne, List.findSome?_cons]
          cases firstPiece f (size - 1) text <;> rfl

end DeviceAndDisplay.Storage
