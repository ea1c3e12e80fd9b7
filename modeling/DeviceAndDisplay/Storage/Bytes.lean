import Mathlib.Algebra.Group.Nat.Defs
import Mathlib.Data.List.Basic

/-! Bytes of a file: little-endian words at an offset, and a write at the start of the file that
accepts a prefix of its buffer. -/

namespace DeviceAndDisplay.Storage

abbrev Bytes := List UInt8

/-- The conversion of a number to a word. -/
theorem toNat_ofInt (n : Int) : (UInt32.ofInt n).toNat = (n % 4294967296).toNat := by
  rw [UInt32.ofInt, UInt32.toNat_ofNat']
  omega

/-- The four bytes of a word, least significant first. -/
def word (n : UInt32) : Bytes :=
  [.ofNat n.toNat, .ofNat (n.toNat / 2 ^ 8), .ofNat (n.toNat / 2 ^ 16),
    .ofNat (n.toNat / 2 ^ 24)]

/-- The word at the start of the bytes. -/
def readWord : Bytes → UInt32
  | b₀ :: b₁ :: b₂ :: b₃ :: _ =>
      .ofNat (b₀.toNat + 2 ^ 8 * b₁.toNat + 2 ^ 16 * b₂.toNat + 2 ^ 24 * b₃.toNat)
  | _ => 0

/-- The flag at the start of the bytes. -/
def readFlag : Bytes → Bool
  | b :: _ => b != 0
  | [] => false

/-- What a file holds after `write`, at offset 0, has accepted `n` bytes of the buffer. -/
def overwrite (buffer : Bytes) (n : ℕ) (file : Bytes) : Bytes :=
  buffer.take n ++ file.drop (min n buffer.length)

@[simp] theorem length_word (n : UInt32) : (word n).length = 4 := rfl

theorem readWord_word (n : UInt32) (rest : Bytes) : readWord (word n ++ rest) = n := by
  apply UInt32.toNat_inj.mp
  have hn : n.toNat < 2 ^ 32 := n.toNat_lt
  simp only [word, readWord, List.cons_append, UInt8.toNat_ofNat', UInt32.toNat_ofNat']
  omega

theorem readWord_take (bytes : Bytes) : readWord (bytes.take 4) = readWord bytes := by
  match bytes with
  | [] | [_] | [_, _] | [_, _, _] => rfl
  | _ :: _ :: _ :: _ :: _ => rfl

theorem readFlag_take (bytes : Bytes) : readFlag (bytes.take 1) = readFlag bytes := by
  cases bytes <;> rfl

theorem length_overwrite (buffer : Bytes) (n : ℕ) (file : Bytes) :
    (overwrite buffer n file).length = max (min n buffer.length) file.length := by
  simp only [overwrite, List.length_append, List.length_take, List.length_drop]
  omega

/-- What lies within the accepted bytes is what the buffer holds there. -/
theorem take_drop_overwrite {buffer : Bytes} {n offset size : ℕ} (h : offset + size ≤ n)
    (hb : offset + size ≤ buffer.length) (file : Bytes) :
    ((overwrite buffer n file).drop offset).take size = (buffer.drop offset).take size := by
  have hlen : offset + size ≤ (buffer.take n).length := by
    rw [List.length_take]
    omega
  rw [overwrite, List.drop_append_of_le_length (by omega),
    List.take_append_of_le_length (by rw [List.length_drop]; omega), List.drop_take,
    List.take_take]
  congr 1
  omega

theorem readWord_overwrite {buffer : Bytes} {n offset : ℕ} (h : offset + 4 ≤ n)
    (hb : offset + 4 ≤ buffer.length) (file : Bytes) :
    readWord ((overwrite buffer n file).drop offset) = readWord (buffer.drop offset) := by
  rw [← readWord_take, take_drop_overwrite h hb file, readWord_take]

theorem readFlag_overwrite {buffer : Bytes} {n offset : ℕ} (h : offset + 1 ≤ n)
    (hb : offset + 1 ≤ buffer.length) (file : Bytes) :
    readFlag ((overwrite buffer n file).drop offset) = readFlag (buffer.drop offset) := by
  rw [← readFlag_take, take_drop_overwrite h hb file, readFlag_take]

/-- Two buffers that agree on the accepted bytes leave the same file. -/
theorem overwrite_congr {buffer buffer' : Bytes} {n : ℕ} (h : buffer.take n = buffer'.take n)
    (hlen : buffer.length = buffer'.length) (file : Bytes) :
    overwrite buffer n file = overwrite buffer' n file := by
  rw [overwrite, overwrite, h, hlen]

end DeviceAndDisplay.Storage
