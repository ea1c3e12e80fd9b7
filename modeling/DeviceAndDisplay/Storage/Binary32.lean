import Mathlib.Algebra.Order.Floor.Semiring
import Mathlib.Data.Nat.Log
import Mathlib.Data.Rat.Floor
import Mathlib.Tactic.Linarith
import Mathlib.Tactic.NormNum
import Mathlib.Tactic.Positivity

/-! # Floats of 32 bits

The bits of the finite floats are in the order of what they stand for, so a number is rounded to a
float by rounding it to a multiple of the distance between the floats around it. -/

namespace DeviceAndDisplay.Storage

/-- The nearest natural number, and of two the even one. -/
def roundEven (x : ℚ) : ℕ :=
  let n := ⌊x⌋₊
  if x < n + 1 / 2 ∨ x = n + 1 / 2 ∧ Even n then n else n + 1

theorem roundEven_cases (x : ℚ) :
    (roundEven x = ⌊x⌋₊ ∧ x ≤ ⌊x⌋₊ + 1 / 2) ∨ (roundEven x = ⌊x⌋₊ + 1 ∧ ⌊x⌋₊ + 1 / 2 ≤ x) := by
  by_cases h : x < ⌊x⌋₊ + 1 / 2 ∨ x = ⌊x⌋₊ + 1 / 2 ∧ Even ⌊x⌋₊
  · refine .inl ⟨if_pos h, ?_⟩
    cases h with
    | inl h => exact h.le
    | inr h => exact h.1.le
  · refine .inr ⟨if_neg h, ?_⟩
    rw [not_or] at h
    exact not_lt.mp h.1

theorem abs_roundEven_sub_le {x : ℚ} (hx : 0 ≤ x) : |(roundEven x : ℚ) - x| ≤ 1 / 2 := by
  have hlow := Nat.floor_le hx
  have hhigh := Nat.lt_floor_add_one x
  rw [abs_le]
  cases roundEven_cases x with
  | inl h =>
      rw [h.1]
      constructor
      · linarith [h.2]
      · linarith
  | inr h =>
      rw [h.1, Nat.cast_add, Nat.cast_one]
      constructor
      · linarith
      · linarith [h.2]

/-- No natural number is nearer. -/
theorem roundEven_nearest {x : ℚ} (hx : 0 ≤ x) (m : ℕ) :
    |(roundEven x : ℚ) - x| ≤ |(m : ℚ) - x| := by
  have hhalf := abs_roundEven_sub_le hx
  by_cases hm : roundEven x = m
  · rw [hm]
  · have hapart : (1 : ℚ) ≤ |(roundEven x : ℚ) - m| := by
      have hne : (roundEven x : ℤ) - m ≠ 0 := by omega
      have hone : (1 : ℤ) ≤ |(roundEven x : ℤ) - m| := Int.one_le_abs hne
      exact_mod_cast hone
    have htriangle := abs_sub_le (roundEven x : ℚ) x m
    rw [abs_sub_comm x] at htriangle
    linarith

theorem le_roundEven {x : ℚ} {m : ℕ} (h : (m : ℚ) ≤ x) : m ≤ roundEven x := by
  have hfloor : m ≤ ⌊x⌋₊ := Nat.le_floor h
  cases roundEven_cases x with
  | inl hr => rw [hr.1]; exact hfloor
  | inr hr => rw [hr.1]; omega

theorem roundEven_le {x : ℚ} {m : ℕ} (h : x ≤ m) : roundEven x ≤ m := by
  cases roundEven_cases x with
  | inl hr =>
      rw [hr.1]
      exact Nat.floor_le_of_le h
  | inr hr =>
      rw [hr.1]
      have hlt : (⌊x⌋₊ : ℚ) < m := by linarith [hr.2]
      exact_mod_cast hlt

/-- A number half way below an even one is rounded up. -/
theorem roundEven_lt_iff {x : ℚ} {m : ℕ} (hx : 0 ≤ x) (heven : Even m) :
    roundEven x < m ↔ x < m - 1 / 2 := by
  have hlow := Nat.floor_le hx
  constructor
  · intro h
    by_contra hle
    have hbelow : ⌊x⌋₊ < m := by
      cases roundEven_cases x with
      | inl hr => omega
      | inr hr => omega
    have hcast : (⌊x⌋₊ : ℚ) + 1 ≤ m := by exact_mod_cast hbelow
    have hfloor : ⌊x⌋₊ + 1 = m := by
      have hhigh := Nat.lt_floor_add_one x
      have hlt : (m : ℚ) < ⌊x⌋₊ + 1 + 1 := by linarith
      have hlt' : m < ⌊x⌋₊ + 1 + 1 := by exact_mod_cast hlt
      omega
    have hodd : ¬ Even ⌊x⌋₊ := by
      rw [← hfloor, Nat.even_add_one] at heven
      exact heven
    have hup : ¬ (x < ⌊x⌋₊ + 1 / 2 ∨ x = ⌊x⌋₊ + 1 / 2 ∧ Even ⌊x⌋₊) := by
      intro hcase
      cases hcase with
      | inl hlt => linarith
      | inr htie => exact hodd htie.2
    rw [roundEven, if_neg hup, hfloor] at h
    exact absurd h (Nat.lt_irrefl m)
  · intro h
    have hhalf := (abs_le.mp (abs_roundEven_sub_le hx)).2
    have hlt : (roundEven x : ℚ) < m := by linarith
    exact_mod_cast hlt

/-! ### The finite floats -/

/-- The bits of a finite float without its sign: an exponent of 8 bits, not the greatest one, and 23
bits of the fraction. -/
abbrev Magnitude := Fin (255 * 2 ^ 23)

/-- What bits stand for, in units of the least float. -/
def unitsOf (bits : ℕ) : ℕ :=
  if bits < 2 ^ 23 then bits else (2 ^ 23 + bits % 2 ^ 23) * 2 ^ (bits / 2 ^ 23 - 1)

def Magnitude.value (b : Magnitude) : ℚ := unitsOf b / 2 ^ 149

/-- A float that no other one is nearer to. -/
def Nearest (x : ℚ) (b : Magnitude) : Prop :=
  ∀ b' : Magnitude, |b.value - x| ≤ |b'.value - x|

/-- The logarithm of the distance between the floats around a number, in units. -/
def spacing (y : ℚ) : ℕ := Nat.log 2 ⌊y⌋₊ - 23

/-- The bits of a number that is given in units; too many of them for a number that is too great. -/
def bitsOf (y : ℚ) : ℕ := spacing y * 2 ^ 23 + roundEven (y / 2 ^ spacing y)

theorem unitsOf_mul_add {k n : ℕ} (hlow : k = 0 ∨ 2 ^ 23 ≤ n) (hhigh : n ≤ 2 ^ 24) :
    unitsOf (k * 2 ^ 23 + n) = n * 2 ^ k := by
  unfold unitsOf
  by_cases hsmall : k * 2 ^ 23 + n < 2 ^ 23
  · have hk : k = 0 := by omega
    rw [if_pos hsmall, hk]
    omega
  · rw [if_neg hsmall]
    by_cases htop : n = 2 ^ 24
    · have hmod : (k * 2 ^ 23 + n) % 2 ^ 23 = 0 := by omega
      have hdiv : (k * 2 ^ 23 + n) / 2 ^ 23 - 1 = k + 1 := by omega
      rw [hmod, hdiv, htop, Nat.pow_succ]
      ring
    · have hmod : 2 ^ 23 + (k * 2 ^ 23 + n) % 2 ^ 23 = n := by omega
      have hdiv : (k * 2 ^ 23 + n) / 2 ^ 23 - 1 = k := by omega
      rw [hmod, hdiv]

/-- Every float is a multiple of a power of two, with a factor of 24 bits. -/
theorem unitsOf_eq_mul (bits : ℕ) : ∃ m j, m < 2 ^ 24 ∧ unitsOf bits = m * 2 ^ j := by
  unfold unitsOf
  by_cases hsmall : bits < 2 ^ 23
  · refine ⟨bits, 0, by omega, ?_⟩
    rw [if_pos hsmall, Nat.pow_zero, Nat.mul_one]
  · exact ⟨2 ^ 23 + bits % 2 ^ 23, bits / 2 ^ 23 - 1, by omega, if_neg hsmall⟩

theorem lt_pow_spacing (y : ℚ) : y < 2 ^ (spacing y + 24) := by
  have hlog : ⌊y⌋₊ < 2 ^ (spacing y + 24) := by
    calc
      ⌊y⌋₊ < 2 ^ (Nat.log 2 ⌊y⌋₊ + 1) := Nat.lt_pow_succ_log_self (by decide) _
      _ ≤ 2 ^ (spacing y + 24) := Nat.pow_le_pow_right (by decide) (by unfold spacing; omega)
  have hcast : (⌊y⌋₊ : ℚ) + 1 ≤ 2 ^ (spacing y + 24) := by exact_mod_cast hlog
  linarith [Nat.lt_floor_add_one y]

theorem pow_spacing_le {y : ℚ} (hy : 0 ≤ y) (h : spacing y ≠ 0) : 2 ^ (spacing y + 23) ≤ y := by
  have hlog : spacing y + 23 = Nat.log 2 ⌊y⌋₊ := by
    unfold spacing at h ⊢
    omega
  have hne : ⌊y⌋₊ ≠ 0 := by
    intro hzero
    rw [spacing, hzero, Nat.log_zero_right] at h
    exact h rfl
  have hfloor : 2 ^ (spacing y + 23) ≤ ⌊y⌋₊ := by
    rw [hlog]
    exact Nat.pow_log_le_self 2 hne
  have hcast : (2 : ℚ) ^ (spacing y + 23) ≤ ⌊y⌋₊ := by exact_mod_cast hfloor
  exact hcast.trans (Nat.floor_le hy)

/-- The factor that is rounded fits in 24 bits, or is the first one that does not. -/
theorem roundEven_spacing {y : ℚ} (hy : 0 ≤ y) :
    (spacing y = 0 ∨ 2 ^ 23 ≤ roundEven (y / 2 ^ spacing y)) ∧
      roundEven (y / 2 ^ spacing y) ≤ 2 ^ 24 := by
  have hpos : (0 : ℚ) < 2 ^ spacing y := by positivity
  constructor
  · by_cases h : spacing y = 0
    · exact .inl h
    · refine .inr (le_roundEven ?_)
      rw [le_div_iff₀ hpos]
      have hle := pow_spacing_le hy h
      rw [pow_add] at hle
      push_cast
      linarith
  · apply roundEven_le
    rw [div_le_iff₀ hpos]
    have hlt := lt_pow_spacing y
    rw [pow_add] at hlt
    push_cast
    linarith

theorem unitsOf_bitsOf {y : ℚ} (hy : 0 ≤ y) :
    unitsOf (bitsOf y) = roundEven (y / 2 ^ spacing y) * 2 ^ spacing y :=
  unitsOf_mul_add (roundEven_spacing hy).1 (roundEven_spacing hy).2

/-- No multiple of the distance is nearer. -/
theorem abs_unitsOf_bitsOf_le {y : ℚ} (hy : 0 ≤ y) (m : ℕ) :
    |(unitsOf (bitsOf y) : ℚ) - y| ≤ |(m * 2 ^ spacing y : ℚ) - y| := by
  have hpos : (0 : ℚ) < 2 ^ spacing y := by positivity
  have hscale : ∀ z : ℚ, |z * 2 ^ spacing y - y| = |z - y / 2 ^ spacing y| * 2 ^ spacing y := by
    intro z
    calc
      |z * 2 ^ spacing y - y| = |(z - y / 2 ^ spacing y) * 2 ^ spacing y| := by
          rw [sub_mul, div_mul_cancel₀ _ hpos.ne']
      _ = |z - y / 2 ^ spacing y| * 2 ^ spacing y := by rw [abs_mul, abs_of_pos hpos]
  rw [unitsOf_bitsOf hy, Nat.cast_mul, Nat.cast_pow, Nat.cast_ofNat, hscale, hscale]
  exact mul_le_mul_of_nonneg_right (roundEven_nearest (div_nonneg hy hpos.le) m) hpos.le

/-- No float is nearer. -/
theorem abs_unitsOf_bitsOf_le_unitsOf {y : ℚ} (hy : 0 ≤ y) (bits : ℕ) :
    |(unitsOf (bitsOf y) : ℚ) - y| ≤ |(unitsOf bits : ℚ) - y| := by
  obtain ⟨m, j, hm, hunits⟩ := unitsOf_eq_mul bits
  by_cases hj : spacing y ≤ j
  · have hmultiple : (unitsOf bits : ℚ) = (m * 2 ^ (j - spacing y) : ℕ) * 2 ^ spacing y := by
      have hpow : 2 ^ j = 2 ^ (j - spacing y) * 2 ^ spacing y := by
        rw [← Nat.pow_add, Nat.sub_add_cancel hj]
      rw [hunits, hpow]
      push_cast
      ring
    rw [hmultiple]
    exact abs_unitsOf_bitsOf_le hy _
  · -- a finer float is below the least number with this distance
    have hbelow : unitsOf bits ≤ 2 ^ (spacing y + 23) := by
      calc
        unitsOf bits = m * 2 ^ j := hunits
        _ ≤ 2 ^ 24 * 2 ^ (spacing y - 1) :=
            Nat.mul_le_mul hm.le (Nat.pow_le_pow_right (by decide) (by omega))
        _ = 2 ^ (spacing y + 23) := by
            rw [← Nat.pow_add]
            congr 1
            omega
    have hcast : (unitsOf bits : ℚ) ≤ 2 ^ (spacing y + 23) := by exact_mod_cast hbelow
    have habove := pow_spacing_le hy (by omega)
    have hcorner : (2 : ℚ) ^ (spacing y + 23) = (2 ^ 23 : ℕ) * 2 ^ spacing y := by
      rw [pow_add]
      push_cast
      ring
    calc
      |(unitsOf (bitsOf y) : ℚ) - y| ≤ |2 ^ (spacing y + 23) - y| := by
          rw [hcorner]
          exact abs_unitsOf_bitsOf_le hy _
      _ ≤ |(unitsOf bits : ℚ) - y| := by
          rw [abs_of_nonpos (by linarith), abs_of_nonpos (by linarith)]
          linarith

/-- Too many bits stand for a number that is at least half way to where the next float would be. -/
theorem bitsOf_lt_iff {y : ℚ} (hy : 0 ≤ y) :
    bitsOf y < 255 * 2 ^ 23 ↔ y < (2 ^ 24 - 1 / 2) * 2 ^ 253 := by
  have hround := roundEven_spacing hy
  have hpos : (0 : ℚ) < 2 ^ 253 := by positivity
  unfold bitsOf
  by_cases hlow : spacing y ≤ 252
  · constructor
    · intro _
      calc
        y < 2 ^ (spacing y + 24) := lt_pow_spacing y
        _ ≤ 2 ^ (23 + 253) := pow_le_pow_right₀ (by norm_num) (by omega)
        _ = 2 ^ 23 * 2 ^ 253 := pow_add 2 23 253
        _ < (2 ^ 24 - 1 / 2) * 2 ^ 253 := mul_lt_mul_of_pos_right (by norm_num) hpos
    · intro _
      omega
  · by_cases hhigh : 254 ≤ spacing y
    · have hle : (2 ^ 24 - 1 / 2) * 2 ^ 253 ≤ y := by
        calc
          (2 ^ 24 - 1 / 2) * 2 ^ 253 ≤ 2 ^ 24 * 2 ^ 253 :=
              mul_le_mul_of_nonneg_right (by norm_num) hpos.le
          _ = 2 ^ (24 + 253) := (pow_add 2 24 253).symm
          _ ≤ 2 ^ (spacing y + 23) := pow_le_pow_right₀ (by norm_num) (by omega)
          _ ≤ y := pow_spacing_le hy (by omega)
      constructor
      · intro h
        omega
      · intro h
        exact absurd hle (not_le.mpr h)
    · have hlast : spacing y = 253 := by omega
      have hiff : roundEven (y / 2 ^ 253) < 2 ^ 24 ↔ y / 2 ^ 253 < (2 ^ 24 : ℕ) - 1 / 2 :=
        roundEven_lt_iff (div_nonneg hy (by positivity)) (by decide)
      rw [div_lt_iff₀ (by positivity), Nat.cast_pow, Nat.cast_ofNat] at hiff
      rw [hlast, ← hiff]
      omega

/-! ### Values of the type `float` -/

inductive FloatValue where
  | finite (negative : Bool) (magnitude : Magnitude)
  | infinity (negative : Bool)
  | nan
deriving DecidableEq, Repr

/-- The nearest float; infinity for a number that is too great. -/
def toFloat (negative : Bool) (x : ℚ) : FloatValue :=
  if h : bitsOf (x * 2 ^ 149) < 255 * 2 ^ 23 then .finite negative ⟨bitsOf (x * 2 ^ 149), h⟩
  else .infinity negative

namespace FloatValue

/-- The number of a finite float. -/
def number : FloatValue → Option ℚ
  | .finite negative b => some (if negative then -b.value else b.value)
  | _ => none

/-- Whether the number is less, as the operator `<` finds it. -/
def lt : FloatValue → ℚ → Bool
  | .infinity negative, _ => negative
  | .nan, _ => false
  | .finite negative b, bound => (if negative then -b.value else b.value) < bound

def gt : FloatValue → ℚ → Bool
  | .infinity negative, _ => !negative
  | .nan, _ => false
  | .finite negative b, bound => bound < if negative then -b.value else b.value

/-- The conversion to `int`; `none` where it is undefined. -/
def truncate : FloatValue → Option ℤ
  | .finite negative b =>
      let n : ℤ := if negative then -⌊b.value⌋ else ⌊b.value⌋
      if -2147483648 ≤ n ∧ n < 2147483648 then some n else none
  | _ => none

end FloatValue

/-- The numbers whose nearest float is finite. -/
def FloatRange (x : ℚ) : Prop := x < (2 ^ 24 - 1 / 2) * 2 ^ 104

theorem exists_toFloat_iff (negative : Bool) {x : ℚ} (hx : 0 ≤ x) :
    (∃ b, toFloat negative x = .finite negative b) ↔ FloatRange x := by
  have hiff := bitsOf_lt_iff (y := x * 2 ^ 149) (by positivity)
  have hrange : x * 2 ^ 149 < (2 ^ 24 - 1 / 2) * 2 ^ 253 ↔ FloatRange x := by
    unfold FloatRange
    constructor
    · intro h
      nlinarith
    · intro h
      nlinarith
  rw [← hrange, ← hiff]
  unfold toFloat
  constructor
  · rintro ⟨b, hb⟩
    by_contra h
    rw [dif_neg h] at hb
    cases hb
  · intro h
    exact ⟨⟨bitsOf (x * 2 ^ 149), h⟩, dif_pos h⟩

theorem toFloat_eq_infinity_iff (negative : Bool) {x : ℚ} (hx : 0 ≤ x) :
    toFloat negative x = .infinity negative ↔ ¬ FloatRange x := by
  rw [← exists_toFloat_iff negative hx]
  unfold toFloat
  split
  · simp
  · simp

theorem nearest_of_toFloat {negative : Bool} {x : ℚ} {b : Magnitude} (hx : 0 ≤ x)
    (h : toFloat negative x = .finite negative b) : Nearest x b := by
  intro b'
  have hscale : ∀ u : ℕ, |(u : ℚ) / 2 ^ 149 - x| = |(u : ℚ) - x * 2 ^ 149| / 2 ^ 149 := by
    intro u
    have hpos : (0 : ℚ) < 2 ^ 149 := by positivity
    rw [← abs_of_pos hpos, ← abs_div, abs_of_pos hpos, sub_div, mul_div_cancel_right₀ _ hpos.ne']
  unfold toFloat at h
  split at h
  · have hbits : b.val = bitsOf (x * 2 ^ 149) := by
      rw [← (FloatValue.finite.inj h).2]
    unfold Magnitude.value
    rw [hbits, hscale, hscale]
    exact div_le_div_of_nonneg_right
      (abs_unitsOf_bitsOf_le_unitsOf (by positivity) b'.val) (by positivity)
  · cases h

/-- A number below the normal floats that is not a float itself. -/
def underflows (x : ℚ) : Bool :=
  x < 1 / 2 ^ 126 && unitsOf (bitsOf (x * 2 ^ 149)) ≠ x * 2 ^ 149

theorem underflows_iff {x : ℚ} (hx : 0 ≤ x) :
    underflows x = true ↔ x < 1 / 2 ^ 126 ∧ ∀ b : Magnitude, b.value ≠ x := by
  have hunits : ∀ u : ℕ, (u : ℚ) = x * 2 ^ 149 ↔ (u : ℚ) / 2 ^ 149 = x := fun u =>
    (div_eq_iff (by positivity)).symm
  unfold underflows
  rw [Bool.and_eq_true, decide_eq_true_eq, decide_eq_true_eq]
  apply and_congr_right
  intro hsmall
  constructor
  · intro hne b hb
    have hnear := abs_unitsOf_bitsOf_le_unitsOf (y := x * 2 ^ 149) (by positivity) b.val
    rw [(hunits _).mpr hb, sub_self, abs_zero] at hnear
    exact hne (sub_eq_zero.mp (abs_eq_zero.mp (le_antisymm hnear (abs_nonneg _))))
  · intro hne hexact
    have hfits : bitsOf (x * 2 ^ 149) < 255 * 2 ^ 23 := by
      rw [bitsOf_lt_iff (by positivity)]
      calc
        x * 2 ^ 149 < 1 / 2 ^ 126 * 2 ^ 149 := mul_lt_mul_of_pos_right hsmall (by positivity)
        _ ≤ (2 ^ 24 - 1 / 2) * 2 ^ 253 := by norm_num
    exact hne ⟨_, hfits⟩ ((hunits _).mp hexact)

end DeviceAndDisplay.Storage
