import Mathlib.Algebra.Group.Nat.Defs
import Mathlib.Data.Int.Notation
import Mathlib.Data.List.TakeWhile

/-! Numbers at the start of a text, as the C library reads them, and the conversion to `int`. -/

namespace DeviceAndDisplay.Storage

/-- `isspace`. -/
def isSpace (c : Char) : Bool := c = ' ' || (9 ≤ c.toNat && c.toNat ≤ 13)

/-- The number that the digits at the start of a text stand for. -/
def leadingNumber (text : List Char) : ℕ := Nat.ofDigitChars 10 (text.takeWhile Char.isDigit) 0

/-- The number at the start of a text, after spaces and with a sign; zero if there is none. -/
def integerAt (text : List Char) : ℤ :=
  match text.dropWhile isSpace with
  | '-' :: rest => -leadingNumber rest
  | '+' :: rest => leadingNumber rest
  | rest => leadingNumber rest

/-- `strtol` for base 10 and a `long` of 64 bits. -/
def strtol (text : List Char) : ℤ :=
  max (-9223372036854775808) (min 9223372036854775807 (integerAt text))

/-- The conversion to `int`. -/
def toInt (n : ℤ) : ℤ := (n + 2147483648) % 4294967296 - 2147483648

/-- `atoi`. -/
def atoi (text : List Char) : ℤ := toInt (strtol text)

def hexValue (c : Char) : Option ℕ :=
  if c.isDigit then some (c.toNat - '0'.toNat)
  else if 'a' ≤ c ∧ c ≤ 'f' then some (c.toNat - 'a'.toNat + 10)
  else if 'A' ≤ c ∧ c ≤ 'F' then some (c.toNat - 'A'.toNat + 10)
  else none

/-- The number of the hexadecimal digits at the start of a text. -/
def leadingHex (n : ℕ) : List Char → ℕ
  | [] => n
  | c :: rest =>
      match hexValue c with
      | some d => leadingHex (16 * n + d) rest
      | none => n

/-- The text without `0x` if a digit follows. -/
def dropHexMark : List Char → List Char
  | '0' :: x :: d :: rest =>
      if (x = 'x' ∨ x = 'X') ∧ (hexValue d).isSome then d :: rest else '0' :: x :: d :: rest
  | text => text

/-- `strtoul` for base 16 and an `unsigned long` of 64 bits. -/
def strtoulHex (text : List Char) : ℕ :=
  match text.dropWhile isSpace with
  | '-' :: rest =>
      let n := leadingHex 0 (dropHexMark rest)
      if n < 2 ^ 64 then (2 ^ 64 - n) % 2 ^ 64 else 2 ^ 64 - 1
  | '+' :: rest => min (leadingHex 0 (dropHexMark rest)) (2 ^ 64 - 1)
  | rest => min (leadingHex 0 (dropHexMark rest)) (2 ^ 64 - 1)

/-- The digits at the start of a text as an `unsigned long` of 64 bits that is cut to 32, and the
text behind them. -/
def scanDigits (negative : Bool) (text : List Char) : Option (UInt32 × List Char) :=
  if text.head?.any Char.isDigit then
    let n := leadingNumber text
    let value := if 2 ^ 64 ≤ n then 2 ^ 64 - 1 else if negative then (2 ^ 64 - n) % 2 ^ 64 else n
    some (.ofNat value, text.dropWhile Char.isDigit)
  else none

/-- `fscanf` for `%u`: the number, and what is left of the text. -/
def scanUnsigned (text : List Char) : Option (UInt32 × List Char) :=
  match text.dropWhile isSpace with
  | '-' :: rest => scanDigits true rest
  | '+' :: rest => scanDigits false rest
  | rest => scanDigits false rest

theorem toInt_of_fits {n : ℤ} (hlow : -2147483648 ≤ n) (hhigh : n < 2147483648) :
    toInt n = n := by
  unfold toInt
  omega

theorem toInt_bounds (n : ℤ) : -2147483648 ≤ toInt n ∧ toInt n < 2147483648 := by
  unfold toInt
  omega

theorem atoi_of_fits {text : List Char} (hlow : -2147483648 ≤ integerAt text)
    (hhigh : integerAt text < 2147483648) : atoi text = integerAt text := by
  have hstrtol : strtol text = integerAt text := by
    unfold strtol
    omega
  rw [atoi, hstrtol, toInt_of_fits hlow hhigh]

/-! ### Decimal numerals -/

/-- The numeral of a number. -/
def decimal (n : ℕ) : List Char := Nat.toDigits 10 n

theorem isDigit_of_mem_decimal {n : ℕ} {c : Char} (h : c ∈ decimal n) : c.isDigit = true :=
  Nat.isDigit_of_mem_toDigits (by decide) (by decide) h

theorem not_mem_decimal {n : ℕ} {c : Char} (h : c.isDigit = false) : c ∉ decimal n := by
  intro hc
  rw [isDigit_of_mem_decimal hc] at h
  cases h

theorem isSpace_of_isDigit {c : Char} (h : c.isDigit = true) : isSpace c = false := by
  have hbounds : 48 ≤ c.toNat := by
    simp only [Char.isDigit, Bool.and_eq_true, decide_eq_true_eq] at h
    exact h.1
  have hne : c ≠ ' ' := by
    rintro rfl
    exact absurd h (by decide)
  simp only [isSpace, hne, decide_false, Bool.false_or, Bool.and_eq_false_iff,
    decide_eq_false_iff_not]
  omega

theorem leadingNumber_decimal (n : ℕ) : leadingNumber (decimal n) = n := by
  have hall : (decimal n).takeWhile Char.isDigit = decimal n :=
    List.takeWhile_eq_self_iff.mpr fun c hc => isDigit_of_mem_decimal hc
  rw [leadingNumber, hall]
  exact Nat.ofDigitChars_ten_toDigits

theorem integerAt_decimal (n : ℕ) : integerAt (decimal n) = n := by
  cases htext : decimal n with
  | nil => exact absurd htext Nat.toDigits_ne_nil
  | cons c rest =>
      have hdigit : c.isDigit = true := by
        apply isDigit_of_mem_decimal (n := n)
        rw [htext]
        exact List.mem_cons_self
      have hspace : ¬ isSpace c = true := by simp [isSpace_of_isDigit hdigit]
      have hnumber := leadingNumber_decimal n
      rw [htext] at hnumber
      unfold integerAt
      rw [List.dropWhile_cons_of_neg hspace]
      split
      · rename_i h
        rw [(List.cons.inj h).1] at hdigit
        exact absurd hdigit (by decide)
      · rename_i h
        rw [(List.cons.inj h).1] at hdigit
        exact absurd hdigit (by decide)
      · rw [hnumber]

/-- A text that starts with neither space, sign nor digit stands for zero. -/
theorem integerAt_cons_of_other {c : Char} {rest : List Char} (hspace : isSpace c = false)
    (hminus : c ≠ '-') (hplus : c ≠ '+') (hdigit : c.isDigit = false) :
    integerAt (c :: rest) = 0 := by
  unfold integerAt
  rw [List.dropWhile_cons_of_neg (by simp [hspace])]
  split
  · rename_i h
    exact absurd (List.cons.inj h).1 hminus
  · rename_i h
    exact absurd (List.cons.inj h).1 hplus
  · simp [leadingNumber, hdigit]

theorem length_decimal_le {n k : ℕ} (hk : 0 < k) (h : n < 10 ^ k) : (decimal n).length ≤ k :=
  (Nat.length_toDigits_le_iff (by decide) hk).mpr h

/-- What is read back of a numeral that no digit follows. -/
theorem scanDigits_decimal (n : UInt32) {rest : List Char}
    (hrest : ∀ c ∈ rest.head?, c.isDigit = false) :
    scanDigits false (decimal n.toNat ++ rest) = some (n, rest) := by
  have hall : ∀ c ∈ decimal n.toNat, c.isDigit = true := fun c hc => isDigit_of_mem_decimal hc
  have hstop : rest.takeWhile Char.isDigit = [] ∧ rest.dropWhile Char.isDigit = rest := by
    cases rest with
    | nil => exact ⟨rfl, rfl⟩
    | cons c rest =>
        have hc : ¬ c.isDigit = true := by simp [hrest c rfl]
        exact ⟨List.takeWhile_cons_of_neg hc, List.dropWhile_cons_of_neg hc⟩
  have hnumber : leadingNumber (decimal n.toNat ++ rest) = n.toNat := by
    rw [leadingNumber, List.takeWhile_append_of_pos hall, hstop.1, List.append_nil]
    exact Nat.ofDigitChars_ten_toDigits
  have hdigit : (decimal n.toNat ++ rest).head?.any Char.isDigit = true := by
    cases htext : decimal n.toNat with
    | nil => exact absurd htext Nat.toDigits_ne_nil
    | cons c text =>
        rw [htext] at hall
        simpa using hall c List.mem_cons_self
  have hfits : ¬ 2 ^ 64 ≤ n.toNat := by
    have hn := n.toNat_lt
    omega
  rw [scanDigits, if_pos hdigit, hnumber, List.dropWhile_append_of_pos hall, hstop.2]
  dsimp only
  rw [if_neg hfits, if_neg (by decide), UInt32.ofNat_toNat]

/-- Numerals are read with the blanks before them. -/
theorem scanUnsigned_decimal (n : UInt32) {pad rest : List Char}
    (hpad : ∀ c ∈ pad, isSpace c = true) (hrest : ∀ c ∈ rest.head?, c.isDigit = false) :
    scanUnsigned (pad ++ (decimal n.toNat ++ rest)) = some (n, rest) := by
  have hscan := scanDigits_decimal n hrest
  have hall : ∀ c ∈ decimal n.toNat, c.isDigit = true := fun c hc => isDigit_of_mem_decimal hc
  rw [scanUnsigned, List.dropWhile_append_of_pos hpad]
  cases htext : decimal n.toNat with
  | nil => exact absurd htext Nat.toDigits_ne_nil
  | cons c text =>
      rw [htext] at hscan hall
      have hdigit := hall c List.mem_cons_self
      rw [List.cons_append] at hscan ⊢
      rw [List.dropWhile_cons_of_neg (by simp [isSpace_of_isDigit hdigit])]
      split
      · rename_i h
        rw [(List.cons.inj h).1] at hdigit
        exact absurd hdigit (by decide)
      · rename_i h
        rw [(List.cons.inj h).1] at hdigit
        exact absurd hdigit (by decide)
      · exact hscan

theorem scanUnsigned_of_blank {text : List Char} (h : ∀ c ∈ text, isSpace c = true) :
    scanUnsigned text = none := by
  rw [scanUnsigned, List.dropWhile_eq_nil_iff.mpr h]
  rfl

/-! ### Hexadecimal numerals -/

theorem hexValue_bounds {c : Char} {d : ℕ} (h : hexValue c = some d) : d < 16 ∧ 48 ≤ c.toNat := by
  rw [hexValue] at h
  split at h
  · rename_i hc
    simp only [Char.isDigit, Bool.and_eq_true, decide_eq_true_eq] at hc
    have hlow : 48 ≤ c.toNat := hc.1
    have hhigh : c.toNat ≤ 57 := hc.2
    have hd : c.toNat - 48 = d := Option.some.inj h
    omega
  · split at h
    · rename_i hc
      have hlow : 97 ≤ c.toNat := hc.1
      have hhigh : c.toNat ≤ 102 := hc.2
      have hd : c.toNat - 97 + 10 = d := Option.some.inj h
      omega
    · split at h
      · rename_i hc
        have hlow : 65 ≤ c.toNat := hc.1
        have hhigh : c.toNat ≤ 70 := hc.2
        have hd : c.toNat - 65 + 10 = d := Option.some.inj h
        omega
      · cases h

theorem isSpace_of_hexValue {c : Char} {d : ℕ} (h : hexValue c = some d) : isSpace c = false := by
  have hlow := (hexValue_bounds h).2
  have hne : c ≠ ' ' := by
    rintro rfl
    exact absurd hlow (by decide)
  simp only [isSpace, hne, decide_false, Bool.false_or, Bool.and_eq_false_iff,
    decide_eq_false_iff_not]
  omega

theorem ne_of_hexValue {c c' : Char} {d : ℕ} (h : hexValue c = some d) (h' : hexValue c' = none) :
    c ≠ c' := by
  rintro rfl
  rw [h] at h'
  cases h'

/-- Two digits that no third one follows are read as they stand. -/
theorem strtoulHex_pair {a b : Char} {x y : ℕ} {rest : List Char} (ha : hexValue a = some x)
    (hb : hexValue b = some y) (hrest : leadingHex (16 * x + y) rest = 16 * x + y) :
    strtoulHex (a :: b :: rest) = 16 * x + y := by
  have hx := (hexValue_bounds ha).1
  have hy := (hexValue_bounds hb).1
  have hmark : dropHexMark (a :: b :: rest) = a :: b :: rest := by
    unfold dropHexMark
    split
    · rename_i htext
      have hsecond := (List.cons.inj (List.cons.inj htext).2).1
      rw [if_neg]
      · exact htext.symm
      · rintro ⟨hx | hx, -⟩
        · exact ne_of_hexValue hb rfl (hsecond.trans hx)
        · exact ne_of_hexValue hb rfl (hsecond.trans hx)
    · rfl
  have hnumber : leadingHex 0 (a :: b :: rest) = 16 * x + y := by
    simp [leadingHex, ha, hb, hrest]
  unfold strtoulHex
  rw [List.dropWhile_cons_of_neg (by simp [isSpace_of_hexValue ha])]
  split
  · rename_i h
    exact absurd (List.cons.inj h).1 (ne_of_hexValue ha rfl)
  · rename_i h
    exact absurd (List.cons.inj h).1 (ne_of_hexValue ha rfl)
  · rw [hmark, hnumber]
    omega

end DeviceAndDisplay.Storage
