import DeviceAndDisplay.Storage.Binary32
import DeviceAndDisplay.Storage.CString
import DeviceAndDisplay.Storage.Numeral

/-! # Floating-point numbers in texts

What `strtof` reads at the start of a text, and the texts that are such a number as a whole. -/

namespace DeviceAndDisplay.Storage

/-- How numbers are written: their digits, the letters that an exponent starts with, and what it is
an exponent of. -/
structure Radix where
  digit : Char → Option ℕ
  base : ℕ
  marks : List Char
  power : ℕ

def decimalDigit (c : Char) : Option ℕ := if c.isDigit then some (c.toNat - '0'.toNat) else none

def decimalRadix : Radix where
  digit := decimalDigit
  base := 10
  marks := ['e', 'E']
  power := 10

def hexRadix : Radix where
  digit := hexValue
  base := 16
  marks := ['p', 'P']
  power := 2

namespace Radix

variable (r : Radix)

def isDigit (c : Char) : Bool := (r.digit c).isSome

/-- The number of a text of digits. -/
def numberOf (digits : List Char) : ℕ :=
  digits.foldl (fun n c => r.base * n + (r.digit c).getD 0) 0

/-- The digits after a point, and what follows. -/
def scanFraction : List Char → List Char × List Char
  | '.' :: rest => (rest.takeWhile r.isDigit, rest.dropWhile r.isDigit)
  | text => ([], text)

end Radix

/-- Whether there is a minus sign, and what follows the sign. -/
def scanSign : List Char → Bool × List Char
  | '-' :: rest => (true, rest)
  | '+' :: rest => (false, rest)
  | text => (false, text)

namespace Radix

variable (r : Radix)

/-- The exponent; zero if there is none with a digit. -/
def scanExponent : List Char → ℤ
  | c :: rest =>
      if c ∈ r.marks then
        let digits := (scanSign rest).2.takeWhile Char.isDigit
        if (scanSign rest).1 then -decimalRadix.numberOf digits else decimalRadix.numberOf digits
      else 0
  | [] => 0

/-- Digits with a point among them or without one, and an exponent. -/
def scan (text : List Char) : Option ℚ :=
  let whole := text.takeWhile r.isDigit
  let fraction := r.scanFraction (text.dropWhile r.isDigit)
  if whole ++ fraction.1 = [] then none
  else some (r.numberOf (whole ++ fraction.1) / r.base ^ fraction.1.length *
    r.power ^ r.scanExponent fraction.2)

end Radix

inductive Scanned where
  | number (negative : Bool) (magnitude : ℚ)
  | infinity (negative : Bool)
  | nan

/-- The text starts with a word of three letters, which is in lower case. -/
def startsWith (word text : List Char) : Bool := (text.take 3).map Char.toLower = word

/-- A number after blanks and a sign. -/
def scanMagnitude : List Char → Option ℚ
  | '0' :: x :: rest =>
      if x ∈ ['x', 'X'] then (hexRadix.scan rest).or (decimalRadix.scan ('0' :: x :: rest))
      else decimalRadix.scan ('0' :: x :: rest)
  | text => decimalRadix.scan text

/-- What `strtof` converts, before it is rounded; `none` if there is nothing to convert. -/
def strtof (text : List Char) : Option Scanned :=
  let (negative, text) := scanSign (text.dropWhile isSpace)
  if startsWith ['i', 'n', 'f'] text then some (.infinity negative)
  else if startsWith ['n', 'a', 'n'] text then some .nan
  else (scanMagnitude text).map (.number negative)

/-! ### Numbers as a whole text -/

/-- A sign, or none. -/
inductive Sign where
  | none
  | plus
  | minus
deriving DecidableEq, Repr

def Sign.text : Sign → List Char
  | .none => []
  | .plus => ['+']
  | .minus => ['-']

def Sign.negative : Sign → Bool
  | .minus => true
  | _ => false

structure Exponent where
  mark : Char
  sign : Sign
  digits : List Char
  isDigit : ∀ c ∈ digits, c.isDigit = true
  nonempty : digits ≠ []

def Exponent.text (e : Exponent) : List Char := e.mark :: (e.sign.text ++ e.digits)

def Exponent.number (e : Exponent) : ℤ :=
  if e.sign.negative then -decimalRadix.numberOf e.digits else decimalRadix.numberOf e.digits

/-- A number with at least one digit. -/
structure FloatNumber (r : Radix) where
  whole : List Char
  fraction : Option (List Char)
  exponent : Option Exponent
  whole_isDigit : ∀ c ∈ whole, r.isDigit c = true
  fraction_isDigit : ∀ digits ∈ fraction, ∀ c ∈ digits, r.isDigit c = true
  nonempty : whole ++ fraction.getD [] ≠ []
  marked : ∀ e ∈ exponent, e.mark ∈ r.marks

namespace FloatNumber

variable {r : Radix} (f : FloatNumber r)

def text : List Char :=
  f.whole ++ f.fraction.elim [] (fun digits => '.' :: digits) ++ f.exponent.elim [] Exponent.text

def number : ℚ :=
  r.numberOf (f.whole ++ f.fraction.getD []) / r.base ^ (f.fraction.getD []).length *
    r.power ^ f.exponent.elim 0 Exponent.number

end FloatNumber

/-- A text is a number as a whole: blanks, a sign, and a decimal number, or a hexadecimal one after
`0x`. -/
inductive IsFloatText : List Char → Bool → ℚ → Prop
  | decimal (blanks : List Char) (sign : Sign) (f : FloatNumber decimalRadix)
      (h : ∀ c ∈ blanks, isSpace c = true) :
      IsFloatText (blanks ++ sign.text ++ f.text) sign.negative f.number
  | hex (blanks : List Char) (sign : Sign) (x : Char) (f : FloatNumber hexRadix)
      (h : ∀ c ∈ blanks, isSpace c = true) (hx : x ∈ ['x', 'X']) :
      IsFloatText (blanks ++ sign.text ++ '0' :: x :: f.text) sign.negative f.number

/-! ### A number is read as a whole -/

/-- The first character, if there is one, is not of the kind. -/
def StopsAt (p : Char → Bool) (text : List Char) : Prop := ∀ c ∈ text.head?, p c = false

theorem span_append {p : Char → Bool} {front rest : List Char} (h : ∀ c ∈ front, p c = true)
    (hrest : StopsAt p rest) :
    (front ++ rest).takeWhile p = front ∧ (front ++ rest).dropWhile p = rest := by
  induction front with
  | nil =>
      cases rest with
      | nil => simp
      | cons c rest =>
          have hc : ¬ p c = true := by simp [hrest c rfl]
          simp [hc]
  | cons c front ih =>
      have hc : p c = true := h c List.mem_cons_self
      have htail := ih fun c hc => h c (List.mem_cons_of_mem _ hc)
      simp [hc, htail.1, htail.2]

namespace Radix

/-- Neither a point nor a letter before an exponent is a digit. -/
structure Separates (r : Radix) : Prop where
  point : r.isDigit '.' = false
  mark : ∀ c ∈ r.marks, r.isDigit c = false
  point_notMem : '.' ∉ r.marks

theorem separates_decimalRadix : decimalRadix.Separates := by
  constructor
  · rfl
  · simp [decimalRadix, isDigit, decimalDigit]
  · simp [decimalRadix]

theorem separates_hexRadix : hexRadix.Separates := by
  constructor
  · rfl
  · simp [hexRadix, isDigit, hexValue]
  · simp [hexRadix]

end Radix

theorem scanSign_sign (sign : Sign) {rest : List Char} (hminus : rest.head? ≠ some '-')
    (hplus : rest.head? ≠ some '+') : scanSign (sign.text ++ rest) = (sign.negative, rest) := by
  cases sign with
  | none =>
      unfold scanSign
      split
      · rename_i h
        simp only [Sign.text, List.nil_append] at h
        exact absurd (congrArg List.head? h) hminus
      · rename_i h
        simp only [Sign.text, List.nil_append] at h
        exact absurd (congrArg List.head? h) hplus
      · rfl
  | plus => rfl
  | minus => rfl

namespace FloatNumber

variable {r : Radix} (f : FloatNumber r)

theorem stopsAt_exponent (hr : r.Separates) :
    StopsAt r.isDigit (f.exponent.elim [] Exponent.text) := by
  intro c hc
  cases hexponent : f.exponent with
  | none => simp [hexponent] at hc
  | some e =>
      simp only [hexponent, Option.elim_some, Exponent.text, List.head?_cons, Option.mem_def,
        Option.some.injEq] at hc
      rw [← hc]
      exact hr.mark _ (f.marked e hexponent)

theorem scanExponent_text : r.scanExponent (f.exponent.elim [] Exponent.text) =
    f.exponent.elim 0 Exponent.number := by
  cases hexponent : f.exponent with
  | none => rfl
  | some e =>
      have hhead : ∀ c, c.isDigit = false → e.digits.head? ≠ some c := by
        intro c hc hsome
        have hdigit := e.isDigit c (List.mem_of_mem_head? hsome)
        rw [hc] at hdigit
        cases hdigit
      have hsign := scanSign_sign e.sign (hhead '-' rfl) (hhead '+' rfl)
      have hdigits : e.digits.takeWhile Char.isDigit = e.digits :=
        List.takeWhile_eq_self_iff.mpr e.isDigit
      simp only [Option.elim_some, Exponent.text, Radix.scanExponent,
        if_pos (f.marked e hexponent), hsign, hdigits]
      rfl

theorem scanFraction_text (hr : r.Separates) :
    r.scanFraction (f.fraction.elim [] (fun digits => '.' :: digits) ++
        f.exponent.elim [] Exponent.text) =
      (f.fraction.getD [], f.exponent.elim [] Exponent.text) := by
  have hstop := f.stopsAt_exponent hr
  cases hfraction : f.fraction with
  | none =>
      simp only [Option.elim_none, List.nil_append, Option.getD_none]
      unfold Radix.scanFraction
      split
      · rename_i rest h
        cases hexponent : f.exponent with
        | none => simp [hexponent] at h
        | some e =>
            simp only [hexponent, Option.elim_some, Exponent.text, List.cons.injEq] at h
            have hmark := f.marked e hexponent
            rw [h.1] at hmark
            exact absurd hmark hr.point_notMem
      · rfl
  | some digits =>
      have hspan := span_append (f.fraction_isDigit digits hfraction) hstop
      simp [Radix.scanFraction, hspan.1, hspan.2]

/-- A number is read up to its end. -/
theorem scan_text (hr : r.Separates) : r.scan f.text = some f.number := by
  have hstop : StopsAt r.isDigit (f.fraction.elim [] (fun digits => '.' :: digits) ++
      f.exponent.elim [] Exponent.text) := by
    cases hfraction : f.fraction with
    | none => exact f.stopsAt_exponent hr
    | some digits =>
        intro c hc
        simp only [Option.elim_some, List.cons_append, List.head?_cons, Option.mem_def,
          Option.some.injEq] at hc
        rw [← hc]
        exact hr.point
  have hspan := span_append f.whole_isDigit hstop
  unfold Radix.scan text number
  rw [List.append_assoc, hspan.1, hspan.2, f.scanFraction_text hr, if_neg f.nonempty,
    f.scanExponent_text]

theorem exists_text_eq_cons :
    ∃ c rest, f.text = c :: rest ∧ (r.isDigit c = true ∨ c = '.') := by
  unfold text
  cases hwhole : f.whole with
  | cons c rest =>
      refine ⟨c, _, rfl, .inl (f.whole_isDigit c ?_)⟩
      rw [hwhole]
      exact List.mem_cons_self
  | nil =>
      cases hfraction : f.fraction with
      | none =>
          refine absurd ?_ f.nonempty
          simp [hwhole, hfraction]
      | some digits => exact ⟨'.', _, rfl, .inr rfl⟩

/-- The characters of a number. -/
theorem mem_text {c : Char} (h : c ∈ f.text) :
    r.isDigit c = true ∨ c ∈ r.marks ∨ c.isDigit = true ∨ c ∈ ['.', '+', '-'] := by
  unfold text at h
  rw [List.mem_append, List.mem_append] at h
  rcases h with (hwhole | hfraction) | hexponent
  · exact .inl (f.whole_isDigit c hwhole)
  · cases hf : f.fraction with
    | none => simp [hf] at hfraction
    | some digits =>
        rw [hf, Option.elim_some, List.mem_cons] at hfraction
        cases hfraction with
        | inl hpoint => simp [hpoint]
        | inr hdigit => exact .inl (f.fraction_isDigit digits hf c hdigit)
  · cases he : f.exponent with
    | none => simp [he] at hexponent
    | some e =>
        rw [he, Option.elim_some, Exponent.text, List.mem_cons, List.mem_append] at hexponent
        rcases hexponent with hmark | hsign | hdigit
        · refine .inr (.inl ?_)
          rw [hmark]
          exact f.marked e he
        · cases hs : e.sign with
          | none => simp [hs, Sign.text] at hsign
          | plus => simp_all [Sign.text]
          | minus => simp_all [Sign.text]
        · exact .inr (.inr (.inl (e.isDigit c hdigit)))

end FloatNumber

theorem isDigit_of_decimalRadix {c : Char} (h : decimalRadix.isDigit c = true) :
    c.isDigit = true := by
  simp only [Radix.isDigit, decimalRadix, decimalDigit] at h
  cases hc : c.isDigit with
  | true => rfl
  | false => simp [hc] at h

theorem scanMagnitude_decimal (f : FloatNumber decimalRadix) :
    scanMagnitude f.text = some f.number := by
  have hscan := f.scan_text Radix.separates_decimalRadix
  unfold scanMagnitude
  split
  · rename_i x rest htext
    have hx : x ∉ ['x', 'X'] := by
      intro hmem
      have hchar := f.mem_text (c := x) (by simp [htext])
      have hcase : x = 'x' ∨ x = 'X' := by simpa using hmem
      rcases hcase with rfl | rfl
      · revert hchar
        decide
      · revert hchar
        decide
    rw [if_neg hx, ← htext]
    exact hscan
  · exact hscan

theorem scanMagnitude_hex {x : Char} (hx : x ∈ ['x', 'X']) (f : FloatNumber hexRadix) :
    scanMagnitude ('0' :: x :: f.text) = some f.number := by
  simp only [scanMagnitude, if_pos hx, f.scan_text Radix.separates_hexRadix, Option.some_or]

theorem toNat_of_isDigit {c : Char} (h : c.isDigit = true) : 48 ≤ c.toNat ∧ c.toNat ≤ 57 := by
  simp only [Char.isDigit, Bool.and_eq_true, decide_eq_true_eq] at h
  exact h

theorem toLower_of_isDigit {c : Char} (h : c.isDigit = true) : c.toLower = c := by
  have hhigh := (toNat_of_isDigit h).2
  unfold Char.toLower
  rw [dif_neg]
  intro hletter
  have hlow : 65 ≤ c.toNat := hletter.1
  omega

theorem startsWith_cons_eq_false {c c' : Char} {word rest : List Char} (h : c.toLower ≠ c') :
    startsWith (c' :: word) (c :: rest) = false := by
  simp [startsWith, h]

/-- What follows the blanks and the sign of a number starts with a digit or a point. -/
theorem strtof_append {blanks rest : List Char} {sign : Sign} {c : Char} {q : ℚ}
    (hblanks : ∀ c ∈ blanks, isSpace c = true) (hc : c.isDigit = true ∨ c = '.')
    (h : scanMagnitude (c :: rest) = some q) :
    strtof (blanks ++ sign.text ++ c :: rest) = some (.number sign.negative q) := by
  have hother : isSpace c = false ∧ c ≠ '-' ∧ c ≠ '+' ∧ c.toLower ≠ 'i' ∧ c.toLower ≠ 'n' := by
    cases hc with
    | inr hpoint =>
        rw [hpoint]
        decide
    | inl hdigit =>
        have hbounds := toNat_of_isDigit hdigit
        have hne : ∀ d : Char, d.toNat < 48 ∨ 57 < d.toNat → c ≠ d := by
          intro d hd heq
          rw [heq] at hbounds
          omega
        rw [toLower_of_isDigit hdigit]
        exact ⟨isSpace_of_isDigit hdigit, hne _ (by decide), hne _ (by decide), hne _ (by decide),
          hne _ (by decide)⟩
  obtain ⟨hspace, hminus, hplus, hi, hn⟩ := hother
  have hstop : StopsAt isSpace (sign.text ++ c :: rest) := by
    cases sign with
    | none => simpa [StopsAt, Sign.text] using hspace
    | plus => simp [StopsAt, Sign.text, isSpace]
    | minus => simp [StopsAt, Sign.text, isSpace]
  have hsign : scanSign (sign.text ++ c :: rest) = (sign.negative, c :: rest) :=
    scanSign_sign sign (by simpa using hminus) (by simpa using hplus)
  unfold strtof
  rw [List.append_assoc, (span_append hblanks hstop).2, hsign]
  simp [startsWith_cons_eq_false hi, startsWith_cons_eq_false hn, h]

/-- A text that is a number as a whole is read as this number. -/
theorem strtof_of_isFloatText {text : List Char} {negative : Bool} {q : ℚ}
    (h : IsFloatText text negative q) : strtof text = some (.number negative q) := by
  cases h with
  | decimal blanks sign f hblanks =>
      obtain ⟨c, rest, htext, hc⟩ := f.exists_text_eq_cons
      have hscan := scanMagnitude_decimal f
      rw [htext] at hscan ⊢
      exact strtof_append hblanks (hc.imp_left isDigit_of_decimalRadix) hscan
  | hex blanks sign x f hblanks hx =>
      exact strtof_append hblanks (.inl rfl) (scanMagnitude_hex hx f)

theorem Radix.nonneg_of_scan {r : Radix} {text : List Char} {q : ℚ} (h : r.scan text = some q) :
    0 ≤ q := by
  unfold Radix.scan at h
  dsimp only at h
  split at h
  · cases h
  · rw [← Option.some.inj h]
    refine mul_nonneg (div_nonneg (Nat.cast_nonneg _) ?_) (zpow_nonneg (Nat.cast_nonneg _) _)
    positivity

theorem nonneg_of_scanMagnitude {text : List Char} {q : ℚ} (h : scanMagnitude text = some q) :
    0 ≤ q := by
  unfold scanMagnitude at h
  split at h
  · split at h
    · rw [Option.or_eq_some_iff] at h
      cases h with
      | inl h => exact Radix.nonneg_of_scan h
      | inr h => exact Radix.nonneg_of_scan h.2
    · exact Radix.nonneg_of_scan h
  · exact Radix.nonneg_of_scan h

theorem nonneg_of_strtof {text : List Char} {negative : Bool} {q : ℚ}
    (h : strtof text = some (.number negative q)) : 0 ≤ q := by
  unfold strtof at h
  dsimp only at h
  split at h
  · cases h
  · split at h
    · cases h
    · obtain ⟨q', hscan, hq⟩ := Option.map_eq_some_iff.mp h
      rw [← (Scanned.number.inj hq).2]
      exact nonneg_of_scanMagnitude hscan

/-- A number as a whole text has no NUL. -/
theorem FloatNumber.nul_notMem_text {r : Radix} (f : FloatNumber r) (hr : r.isDigit nul = false)
    (hmark : nul ∉ r.marks) : nul ∉ f.text := by
  intro h
  rcases f.mem_text h with hdigit | hmem | hdigit | hmem
  · rw [hr] at hdigit
    cases hdigit
  · exact hmark hmem
  · exact absurd hdigit (by decide)
  · exact absurd hmem (by decide)

theorem IsFloatText.nul_notMem {text : List Char} {negative : Bool} {q : ℚ}
    (h : IsFloatText text negative q) : nul ∉ text := by
  have hblanks : ∀ blanks : List Char, (∀ c ∈ blanks, isSpace c = true) → nul ∉ blanks :=
    fun _ hspace hnul => absurd (hspace nul hnul) (by decide)
  have hsign : ∀ sign : Sign, nul ∉ sign.text := by
    intro sign
    cases sign with
    | none => decide
    | plus => decide
    | minus => decide
  cases h with
  | decimal blanks sign f hspace =>
      rw [List.mem_append, List.mem_append, not_or, not_or]
      exact ⟨⟨hblanks blanks hspace, hsign sign⟩, f.nul_notMem_text rfl (by decide)⟩
  | hex blanks sign x f hspace hx =>
      have hx' : nul ≠ x := by
        rintro rfl
        exact absurd hx (by decide)
      rw [List.mem_append, List.mem_append, not_or, not_or, List.mem_cons, List.mem_cons, not_or,
        not_or]
      exact ⟨⟨hblanks blanks hspace, hsign sign⟩, by decide, hx',
        f.nul_notMem_text rfl (by decide)⟩

end DeviceAndDisplay.Storage
