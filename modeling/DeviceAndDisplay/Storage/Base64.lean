import DeviceAndDisplay.Storage.Bytes
import Mathlib.Data.List.DropRight

/-! Base 64 as in RFC 4648: three bytes are four digits, and the last quantum is padded. The
decoder accepts canonical texts only. -/

namespace DeviceAndDisplay.Storage.Base64

/-- The character of a digit below 64. -/
def char (d : ℕ) : Char :=
  if d < 26 then .ofNat ('A'.toNat + d)
  else if d < 52 then .ofNat ('a'.toNat + (d - 26))
  else if d < 62 then .ofNat ('0'.toNat + (d - 52))
  else if d = 62 then '+'
  else '/'

def digit (c : Char) : Option ℕ :=
  if 'A' ≤ c ∧ c ≤ 'Z' then some (c.toNat - 'A'.toNat)
  else if 'a' ≤ c ∧ c ≤ 'z' then some (c.toNat - 'a'.toNat + 26)
  else if '0' ≤ c ∧ c ≤ '9' then some (c.toNat - '0'.toNat + 52)
  else if c = '+' then some 62
  else if c = '/' then some 63
  else none

def pad : Char := '='

/-- The digits of the bytes, the last one with zero bits at its end. -/
def digits : Bytes → List ℕ
  | [] => []
  | [a] => [a.toNat / 4, a.toNat % 4 * 16]
  | [a, b] => [a.toNat / 4, a.toNat % 4 * 16 + b.toNat / 16, b.toNat % 16 * 4]
  | a :: b :: c :: rest =>
      [a.toNat / 4, a.toNat % 4 * 16 + b.toNat / 16, b.toNat % 16 * 4 + c.toNat / 64,
        c.toNat % 64] ++ digits rest

/-- What completes the last quantum of `n` bytes. -/
def padding (n : ℕ) : List Char :=
  if n % 3 = 1 then [pad, pad] else if n % 3 = 2 then [pad] else []

def encode (bytes : Bytes) : List Char :=
  (digits bytes).map char ++ padding bytes.length

/-- The bytes of a quantum without padding. -/
def decodeQuantum (c₀ c₁ c₂ c₃ : Char) : Option Bytes := do
  let w ← digit c₀
  let x ← digit c₁
  let y ← digit c₂
  let z ← digit c₃
  return [.ofNat (w * 4 + x / 16), .ofNat (x % 16 * 16 + y / 4), .ofNat (y % 4 * 64 + z)]

/-- The bytes of a quantum with padding; the bits that no byte has must be zero. -/
def decodePadded (c₀ c₁ c₂ : Char) : Option Bytes := do
  let w ← digit c₀
  let x ← digit c₁
  if c₂ = pad then
    if x % 16 = 0 then some [.ofNat (w * 4 + x / 16)] else none
  else
    let y ← digit c₂
    if y % 4 = 0 then some [.ofNat (w * 4 + x / 16), .ofNat (x % 16 * 16 + y / 4)] else none

def decode : List Char → Option Bytes
  | [] => some []
  | c₀ :: c₁ :: c₂ :: c₃ :: rest =>
      if c₃ = pad then
        if rest = [] then decodePadded c₀ c₁ c₂ else none
      else do return (← decodeQuantum c₀ c₁ c₂ c₃) ++ (← decode rest)
  | _ => none

/-! ### Digits -/

theorem digit_char : ∀ d < 64, digit (char d) = some d := by decide

theorem char_ne_pad : ∀ d < 64, char d ≠ pad := by decide

theorem digits_lt {bytes : Bytes} : ∀ d ∈ digits bytes, d < 64 := by
  induction bytes using digits.induct with
  | case1 => simp [digits]
  | case2 a =>
      have ha : a.toNat < 256 := a.toNat_lt
      simp only [digits, List.mem_cons, List.not_mem_nil, or_false]
      omega
  | case3 a b =>
      have ha : a.toNat < 256 := a.toNat_lt
      have hb : b.toNat < 256 := b.toNat_lt
      simp only [digits, List.mem_cons, List.not_mem_nil, or_false]
      omega
  | case4 a b c rest ih =>
      have ha : a.toNat < 256 := a.toNat_lt
      have hb : b.toNat < 256 := b.toNat_lt
      have hc : c.toNat < 256 := c.toNat_lt
      intro d hd
      rcases List.mem_append.mp hd with hd | hd
      · simp only [List.mem_cons, List.not_mem_nil, or_false] at hd
        omega
      · exact ih d hd

/-! ### Encoding -/

theorem padding_add_three (n : ℕ) : padding (n + 3) = padding n := by
  rw [padding, padding, Nat.add_mod_right]

theorem encode_cons (a b c : UInt8) (rest : Bytes) :
    encode (a :: b :: c :: rest) =
      [char (a.toNat / 4), char (a.toNat % 4 * 16 + b.toNat / 16),
        char (b.toNat % 16 * 4 + c.toNat / 64), char (c.toNat % 64)] ++ encode rest := by
  simp [encode, digits, padding_add_three]

theorem length_encode (bytes : Bytes) :
    (encode bytes).length = 4 * ((bytes.length + 2) / 3) := by
  induction bytes using digits.induct with
  | case1 => rfl
  | case2 => simp [encode, digits, padding]
  | case3 => simp [encode, digits, padding]
  | case4 a b c rest ih =>
      rw [encode_cons, List.length_append, ih]
      simp only [List.length_cons, List.length_nil]
      omega

theorem mem_encode {bytes : Bytes} {c : Char} (h : c ∈ encode bytes) :
    (∃ d < 64, c = char d) ∨ c = pad := by
  rcases List.mem_append.mp h with h | h
  · obtain ⟨d, hd, rfl⟩ := List.mem_map.mp h
    exact .inl ⟨d, digits_lt d hd, rfl⟩
  · refine .inr ?_
    simp only [padding] at h
    split at h
    · simpa using h
    · split at h
      · simpa using h
      · exact absurd h List.not_mem_nil

/-- The padding is all that a text has of its own at the end. -/
theorem rdropWhile_encode (bytes : Bytes) :
    (encode bytes).rdropWhile (· == pad) = (digits bytes).map char := by
  have hpad : ∀ c ∈ padding bytes.length, (c == pad) = true := by
    intro c hc
    simp only [padding] at hc
    split at hc
    · simpa using hc
    · split at hc
      · simpa using hc
      · exact absurd hc List.not_mem_nil
  have hdigits : ∀ c ∈ (digits bytes).map char, ¬ (c == pad) = true := by
    intro c hc
    obtain ⟨d, hd, rfl⟩ := List.mem_map.mp hc
    simpa using char_ne_pad d (digits_lt d hd)
  rw [encode, List.rdropWhile, List.reverse_append,
    List.dropWhile_append_of_pos fun c hc => hpad c (List.mem_reverse.mp hc),
    ← List.rdropWhile, List.rdropWhile_eq_self_iff]
  exact fun hne => hdigits _ (List.getLast_mem hne)

/-! ### Decoding -/

theorem ofNat_eq {b : UInt8} {n : ℕ} (h : n = b.toNat) : UInt8.ofNat n = b := by
  rw [h, UInt8.ofNat_toNat]

theorem decodeQuantum_digits (a b c : UInt8) :
    decodeQuantum (char (a.toNat / 4)) (char (a.toNat % 4 * 16 + b.toNat / 16))
      (char (b.toNat % 16 * 4 + c.toNat / 64)) (char (c.toNat % 64)) = some [a, b, c] := by
  have ha : a.toNat < 256 := a.toNat_lt
  have hb : b.toNat < 256 := b.toNat_lt
  have hc : c.toNat < 256 := c.toNat_lt
  rw [decodeQuantum, digit_char _ (by omega), digit_char _ (by omega), digit_char _ (by omega),
    digit_char _ (by omega)]
  have h₀ : UInt8.ofNat (a.toNat / 4 * 4 + (a.toNat % 4 * 16 + b.toNat / 16) / 16) = a :=
    ofNat_eq (by omega)
  have h₁ : UInt8.ofNat ((a.toNat % 4 * 16 + b.toNat / 16) % 16 * 16 +
      (b.toNat % 16 * 4 + c.toNat / 64) / 4) = b :=
    ofNat_eq (by omega)
  have h₂ : UInt8.ofNat ((b.toNat % 16 * 4 + c.toNat / 64) % 4 * 64 + c.toNat % 64) = c :=
    ofNat_eq (by omega)
  exact congrArg some (congrArg₂ _ h₀ (congrArg₂ _ h₁ (congrArg₂ _ h₂ rfl)))

theorem decodePadded_one (a : UInt8) :
    decodePadded (char (a.toNat / 4)) (char (a.toNat % 4 * 16)) pad = some [a] := by
  have ha : a.toNat < 256 := a.toNat_lt
  have hbyte : UInt8.ofNat (a.toNat / 4 * 4 + a.toNat % 4 * 16 / 16) = a := ofNat_eq (by omega)
  have hmod : a.toNat % 4 * 16 % 16 = 0 := by omega
  rw [decodePadded, digit_char _ (by omega), digit_char _ (by omega)]
  simp only [Option.bind_eq_bind, Option.bind_some, if_pos hmod, if_true, hbyte]

theorem decodePadded_two (a b : UInt8) :
    decodePadded (char (a.toNat / 4)) (char (a.toNat % 4 * 16 + b.toNat / 16))
      (char (b.toNat % 16 * 4)) = some [a, b] := by
  have ha : a.toNat < 256 := a.toNat_lt
  have hb : b.toNat < 256 := b.toNat_lt
  have h₀ : UInt8.ofNat (a.toNat / 4 * 4 + (a.toNat % 4 * 16 + b.toNat / 16) / 16) = a :=
    ofNat_eq (by omega)
  have h₁ : UInt8.ofNat ((a.toNat % 4 * 16 + b.toNat / 16) % 16 * 16 +
      b.toNat % 16 * 4 / 4) = b :=
    ofNat_eq (by omega)
  have hmod : b.toNat % 16 * 4 % 4 = 0 := by omega
  have hpad : char (b.toNat % 16 * 4) ≠ pad := char_ne_pad _ (by omega)
  rw [decodePadded, digit_char _ (by omega), digit_char _ (by omega), digit_char _ (by omega)]
  simp only [Option.bind_eq_bind, Option.bind_some, if_neg hpad, if_pos hmod, h₀, h₁]

theorem decode_encode (bytes : Bytes) : decode (encode bytes) = some bytes := by
  induction bytes using digits.induct with
  | case1 => rfl
  | case2 a => simp [encode, digits, padding, decode, decodePadded_one]
  | case3 a b => simp [encode, digits, padding, decode, decodePadded_two]
  | case4 a b c rest ih =>
      have hpad : char (c.toNat % 64) ≠ pad := char_ne_pad _ (by omega)
      rw [encode_cons]
      simp [decode, hpad, decodeQuantum_digits, ih]

end DeviceAndDisplay.Storage.Base64
