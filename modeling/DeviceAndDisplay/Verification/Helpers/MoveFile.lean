import DeviceAndDisplay.Model.Helpers.MoveFile

/-! # Files that are moved

A `Read` that gives nothing ends the copy, which then counts as complete. -/

namespace DeviceAndDisplay.Helpers

open MoveFile

variable {calls : FileCalls} {content written : List UInt8} {position : ℕ}

/-- What `MoveFile` promises: the file is moved, or nothing has changed. -/
structure NeverLoses (calls : FileCalls) (files : TwoFiles) : Prop where
  moved : (moveFile calls files).1 = true →
    ∃ content, files.source = some content ∧
      (moveFile calls files).2 = { source := none, destination := some content }
  kept : (moveFile calls files).1 = false → (moveFile calls files).2 = files

/-- Every `Write` from the position on, until `count` bytes are written, writes something. -/
inductive AllWritten (calls : FileCalls) : ℕ → ℕ → Prop
  | done (position : ℕ) : AllWritten calls position 0
  | more {position count : ℕ} (hwrites : 0 < calls.writes position)
      (hrest : AllWritten calls (position + min (calls.writes position) count)
        (count - min (calls.writes position) count)) :
      AllWritten calls position count

/-- The copy gets to a `Read` at the position: each `Read` before it gave a piece, and all of it was
written. -/
inductive Reaches (calls : FileCalls) (content : List UInt8) : ℕ → Prop
  | start : Reaches calls content 0
  | next {position : ℕ} (hbefore : Reaches calls content position)
      (hpiece : readPiece calls content position ≠ [])
      (hwritten : AllWritten calls position (readPiece calls content position).length) :
      Reaches calls content (position + (readPiece calls content position).length)

/-- A `Read` before the end of the file fails. -/
def ReadFails (calls : FileCalls) (content : List UInt8) (position : ℕ) : Prop :=
  position < content.length ∧ calls.reads position = 0

/-! ### Pieces -/

theorem readPiece_eq_nil_iff :
    readPiece calls content position = [] ↔
      content.length ≤ position ∨ calls.reads position = 0 := by
  have hbuf : bufLen = 1024 := rfl
  rw [readPiece, ← List.length_eq_zero_iff, List.length_take, List.length_drop]
  omega

theorem take_append_readPiece :
    content.take position ++ readPiece calls content position =
      content.take (position + (readPiece calls content position).length) := by
  rw [List.take_add]
  congr 1
  rw [readPiece, List.length_take, List.take_eq_take_iff]
  omega

theorem position_add_readPiece_le (hposition : position ≤ content.length) :
    position + (readPiece calls content position).length ≤ content.length := by
  rw [readPiece, List.length_take, List.length_drop]
  omega

theorem allWritten_iff {count : ℕ} (hcount : 0 < count) :
    AllWritten calls position count ↔
      0 < calls.writes position ∧
        AllWritten calls (position + min (calls.writes position) count)
          (count - min (calls.writes position) count) := by
  constructor
  · intro h
    cases h with
    | done => omega
    | more hwrites hrest => exact ⟨hwrites, hrest⟩
  · intro h
    exact .more h.1 h.2

/-- The inner loop appends the piece, or the copy fails. -/
theorem writePiece_spec (calls : FileCalls) (written piece : List UInt8) (hpiece : piece ≠ []) :
    (AllWritten calls written.length piece.length ∧
        writePiece calls written piece = (true, written ++ piece)) ∨
      (¬ AllWritten calls written.length piece.length ∧
        (writePiece calls written piece).1 = false) := by
  induction written, piece using writePiece.induct calls with
  | case1 written piece count hcount =>
      have hlength := List.length_pos_iff.mpr hpiece
      have hnone : ¬ 0 < calls.writes written.length := by omega
      rw [writePiece, if_pos hcount, allWritten_iff hlength]
      exact .inr ⟨fun h => hnone h.1, rfl⟩
  | case2 written piece count hcount len hlen =>
      have hlength := List.length_pos_iff.mpr hpiece
      have hall : count = piece.length := by omega
      have hdone : AllWritten calls (written.length + count) (piece.length - count) := by
        rw [hall, Nat.sub_self]
        exact .done _
      rw [writePiece, if_neg hcount, if_pos hlen, allWritten_iff hlength]
      refine .inl ⟨⟨by omega, hdone⟩, ?_⟩
      change (true, written ++ piece.take count) = _
      rw [hall, List.take_length]
  | case3 written piece count hcount written' len hlen ih =>
      have hlength := List.length_pos_iff.mpr hpiece
      have hnext : written'.length = written.length + count := by
        rw [List.length_append, List.length_take, Nat.min_eq_left (by omega)]
      have hrest : piece.drop count ≠ [] := by
        rw [ne_eq, ← List.length_eq_zero_iff, List.length_drop]
        exact hlen
      have hiff : AllWritten calls written.length piece.length ↔
          AllWritten calls written'.length (piece.drop count).length := by
        rw [hnext, List.length_drop, allWritten_iff hlength]
        exact and_iff_right (by omega)
      have happend : written ++ piece = written' ++ piece.drop count := by
        rw [List.append_assoc, List.take_append_drop]
      rw [hiff, happend, writePiece, if_neg hcount, if_neg hlen]
      exact ih hrest

/-! ### The copy -/

theorem copyPieces_of_nil (h : readPiece calls content position = []) :
    copyPieces calls content position written = (true, written) := by
  rw [copyPieces, if_pos h]

/-- One pass of the outer loop, when its piece is written. -/
theorem copyPieces_of_written (hposition : position ≤ content.length)
    (hpiece : readPiece calls content position ≠ [])
    (hwritten : AllWritten calls position (readPiece calls content position).length) :
    copyPieces calls content position (content.take position) =
      copyPieces calls content (position + (readPiece calls content position).length)
        (content.take (position + (readPiece calls content position).length)) := by
  have hlength : (content.take position).length = position := by
    rw [List.length_take, Nat.min_eq_left hposition]
  rw [copyPieces, if_neg hpiece]
  rcases writePiece_spec calls (content.take position) _ hpiece with ⟨_, hall⟩ | ⟨hnot, _⟩
  · rw [hall, take_append_readPiece]
  · rw [hlength] at hnot
    exact absurd hwritten hnot

theorem copyPieces_of_not_written (hposition : position ≤ content.length)
    (hpiece : readPiece calls content position ≠ [])
    (hwritten : ¬ AllWritten calls position (readPiece calls content position).length) :
    (copyPieces calls content position (content.take position)).1 = false := by
  have hlength : (content.take position).length = position := by
    rw [List.length_take, Nat.min_eq_left hposition]
  rw [copyPieces, if_neg hpiece]
  rcases writePiece_spec calls (content.take position) _ hpiece with ⟨hall, _⟩ | ⟨_, hfalse⟩
  · rw [hlength] at hall
    exact absurd hall hwritten
  · split
    · rename_i heq
      rw [heq] at hfalse
      cases hfalse
    · rfl

/-- At each `Read` that the copy gets to, all before it is in the destination. -/
theorem Reaches.copyPieces_eq (h : Reaches calls content position) :
    position ≤ content.length ∧
      copyPieces calls content 0 [] =
        copyPieces calls content position (content.take position) := by
  induction h with
  | start => exact ⟨Nat.zero_le _, rfl⟩
  | next hbefore hpiece hwritten ih =>
      refine ⟨position_add_readPiece_le ih.1, ?_⟩
      rw [ih.2]
      exact copyPieces_of_written ih.1 hpiece hwritten

/-- A copy that counts as complete ends with a `Read` that gives nothing. -/
theorem exists_reaches (hreaches : Reaches calls content position)
    (htrue : (copyPieces calls content position (content.take position)).1 = true) :
    ∃ last, Reaches calls content last ∧ readPiece calls content last = [] := by
  have hposition := hreaches.copyPieces_eq.1
  -- on what is left of the content
  induction hleft : content.length - position using Nat.strongRecOn generalizing position with
  | ind left ih =>
      by_cases hpiece : readPiece calls content position = []
      · exact ⟨position, hreaches, hpiece⟩
      · by_cases hwritten : AllWritten calls position (readPiece calls content position).length
        · have hnext := Reaches.next hreaches hpiece hwritten
          have hle := hnext.copyPieces_eq.1
          have hpos := List.length_pos_iff.mpr hpiece
          rw [copyPieces_of_written hposition hpiece hwritten] at htrue
          exact ih _ (by omega) hnext htrue hle rfl
        · have hfalse := copyPieces_of_not_written hposition hpiece hwritten
          rw [hfalse] at htrue
          cases htrue

/-! ### The move -/

theorem moveFile_of_copy (content : List UInt8) (hstarts : (calls.opens && calls.creates) = true) :
    moveFile calls { source := some content, destination := none } =
      if (copyPieces calls content 0 []).1 then
        (true, { source := none, destination := some (copyPieces calls content 0 []).2 })
      else (false, { source := some content, destination := none }) := by
  simp only [moveFile, hstarts, if_true]
  generalize copyPieces calls content 0 [] = result
  obtain ⟨complete, written⟩ := result
  cases complete <;> rfl

theorem moveFile_of_incomplete (hstarts : (calls.opens && calls.creates) = true)
    (hfalse : (copyPieces calls content 0 []).1 = false) :
    moveFile calls { source := some content, destination := none } =
      (false, { source := some content, destination := none }) := by
  rw [moveFile_of_copy content hstarts, hfalse]
  rfl

/-- Where a `Read` gives nothing, the copy ends as complete. -/
theorem moveFile_of_reaches (hstarts : (calls.opens && calls.creates) = true)
    (hreaches : Reaches calls content position)
    (hnil : readPiece calls content position = []) :
    moveFile calls { source := some content, destination := none } =
      (true, { source := none, destination := some (content.take position) }) := by
  rw [moveFile_of_copy content hstarts, hreaches.copyPieces_eq.2, copyPieces_of_nil hnil]
  rfl

/-- Without a copy, nothing changes. -/
theorem neverLoses_of_not_copy {files : TwoFiles}
    (h : ¬ (files.source.isSome ∧ files.destination = none ∧ calls.opens ∧ calls.creates)) :
    NeverLoses calls files := by
  have hfalse : moveFile calls files = (false, files) := by
    obtain ⟨source, destination⟩ := files
    cases source with
    | none => rfl
    | some content =>
        cases destination with
        | some old => rfl
        | none =>
            have hnot : ¬ (calls.opens && calls.creates) = true := by simpa using h
            simp only [moveFile, hnot]
            rfl
  refine ⟨fun htrue => ?_, fun _ => ?_⟩
  · rw [hfalse] at htrue
    cases htrue
  · rw [hfalse]

theorem neverLoses_of_copy (hstarts : (calls.opens && calls.creates) = true) :
    NeverLoses calls { source := some content, destination := none } ↔
      ∀ position, Reaches calls content position → ¬ ReadFails calls content position := by
  constructor
  · intro h position hreaches hfails
    have hmove := moveFile_of_reaches hstarts hreaches (readPiece_eq_nil_iff.mpr (.inr hfails.2))
    obtain ⟨original, horiginal, hfiles⟩ := h.moved (by rw [hmove])
    rw [hmove] at hfiles
    obtain rfl := Option.some_inj.mp horiginal
    have htake : content.take position = content := by simpa using hfiles
    have hlength := congrArg List.length htake
    rw [List.length_take] at hlength
    have hlt := hfails.1
    omega
  · intro h
    cases hcomplete : (copyPieces calls content 0 []).1 with
    | false =>
        have hmove := moveFile_of_incomplete hstarts hcomplete
        refine ⟨fun htrue => ?_, fun _ => ?_⟩
        · rw [hmove] at htrue
          cases htrue
        · rw [hmove]
    | true =>
        obtain ⟨last, hreaches, hnil⟩ := exists_reaches .start hcomplete
        have hmove := moveFile_of_reaches hstarts hreaches hnil
        have hend : content.length ≤ last := by
          rcases readPiece_eq_nil_iff.mp hnil with hend | hzero
          · exact hend
          · by_contra hlt
            exact h last hreaches ⟨by omega, hzero⟩
        rw [List.take_of_length_le hend] at hmove
        refine ⟨fun _ => ⟨content, rfl, ?_⟩, fun hfalse => ?_⟩
        · rw [hmove]
        · rw [hmove] at hfalse
          cases hfalse

/-- The file is never lost exactly if, in a copy that starts, no `Read` that the copy gets to fails
before the end of the file. -/
theorem neverLoses_iff (calls : FileCalls) (files : TwoFiles) :
    NeverLoses calls files ↔
      (files.destination = none → calls.opens = true → calls.creates = true →
        ∀ content, files.source = some content →
          ∀ position, Reaches calls content position → ¬ ReadFails calls content position) := by
  by_cases hcopy : files.source.isSome ∧ files.destination = none ∧ calls.opens ∧ calls.creates
  · obtain ⟨hsource, hdestination, hopens, hcreates⟩ := hcopy
    obtain ⟨content, hcontent⟩ := Option.isSome_iff_exists.mp hsource
    obtain ⟨source, destination⟩ := files
    subst hcontent hdestination
    rw [neverLoses_of_copy (by rw [hopens, hcreates]; rfl)]
    simp [hopens, hcreates]
  · refine iff_of_true (neverLoses_of_not_copy hcopy) ?_
    intro hdestination hopens hcreates content hcontent
    exact absurd ⟨by rw [hcontent]; rfl, hdestination, hopens, hcreates⟩ hcopy

/-- No `Read` succeeds. -/
def brokenReads : FileCalls := {
  opens := true
  creates := true
  reads := fun _ => 0
  writes := fun count => count }

/-- The only copy of the byte is destroyed. -/
theorem not_neverLoses_brokenReads :
    ¬ NeverLoses brokenReads { source := some [1], destination := none } := by
  intro h
  have hmove : moveFile brokenReads { source := some [1], destination := none } =
      (true, { source := none, destination := some [] }) := by
    have hnil : readPiece brokenReads [1] 0 = [] := rfl
    rw [moveFile_of_copy [1] rfl, copyPieces_of_nil hnil]
    rfl
  obtain ⟨content, hcontent, hfiles⟩ := h.moved (by rw [hmove])
  rw [hmove] at hfiles
  obtain rfl := Option.some_inj.mp hcontent
  simp at hfiles

end DeviceAndDisplay.Helpers
