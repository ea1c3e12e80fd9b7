import Mathlib.Data.List.Basic

/-! # MoveFile

How the operations on the two files behave is a parameter: a `Read` and a `Write` go on from a
position, which no other call of the same run goes on from. -/

namespace DeviceAndDisplay.Helpers

/-- The operations on the files. The numbers are those of the bytes that the calls want to handle,
at the position of the file; 0 is an error. -/
structure FileCalls where
  opens : Bool
  creates : Bool
  reads : ℕ → ℕ
  writes : ℕ → ℕ

/-- The contents of the two files; `none` if the file does not exist. -/
structure TwoFiles where
  source : Option (List UInt8)
  destination : Option (List UInt8)
deriving DecidableEq, Repr

namespace MoveFile

def bufLen : ℕ := 1024

/-- `fileFrom.Read(buffer, bufLen)`: the bytes that are read, none at the end or on an error. -/
def readPiece (calls : FileCalls) (content : List UInt8) (position : ℕ) : List UInt8 :=
  (content.drop position).take (min (calls.reads position) bufLen)

/-- The inner loop writes the bytes that are left, and gives up when nothing was written. -/
def writePiece (calls : FileCalls) (written ptr : List UInt8) : Bool × List UInt8 :=
  let count := min (calls.writes written.length) ptr.length
  if count = 0 then (false, written)
  else
    let written := written ++ ptr.take count
    let len := ptr.length - count
    if len = 0 then (true, written) else writePiece calls written (ptr.drop count)
termination_by ptr.length
decreasing_by
  rw [List.length_drop]
  omega

/-- The outer loop, which ends when nothing was read. -/
def copyPieces (calls : FileCalls) (content : List UInt8) (position : ℕ) (written : List UInt8) :
    Bool × List UInt8 :=
  let piece := readPiece calls content position
  if piece = [] then (true, written)
  else
    match writePiece calls written piece with
    | (true, written) => copyPieces calls content (position + piece.length) written
    | (false, written) => (false, written)
termination_by content.length - position
decreasing_by
  have hne : readPiece calls content position ≠ [] := ‹_›
  have hpiece : 0 < (readPiece calls content position).length := List.length_pos_iff.mpr hne
  have hrest : (readPiece calls content position).length ≤ content.length - position := by
    rw [readPiece, List.length_take, List.length_drop]
    exact Nat.min_le_right _ _
  omega

end MoveFile

/-- `MoveFile`: the files after the copy, which destroys one of them. -/
def moveFile (calls : FileCalls) (files : TwoFiles) : Bool × TwoFiles :=
  match files.source, files.destination with
  | some content, none =>
      if calls.opens && calls.creates then
        match MoveFile.copyPieces calls content 0 [] with
        | (true, written) => (true, { source := none, destination := some written })
        | (false, _) => (false, { source := some content, destination := none })
      else (false, files)
  | _, _ => (false, files)

end DeviceAndDisplay.Helpers
