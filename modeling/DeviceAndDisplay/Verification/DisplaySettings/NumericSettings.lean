import DeviceAndDisplay.Model.DisplaySettings.NumericSettings
import DeviceAndDisplay.Verification.Helpers.Settings

/-! # Which texts the numeric audio settings handle

A text is either a number that is passed on, or rejected without a call. For the methods that
validate their text this fails where `std::stoi` throws or does not see the whole text; for the ones
that do not it fails for everything that is not a number. -/

namespace DeviceAndDisplay.DisplaySettings

open Helpers Storage
open Arc (isValidInt stoi)

/-! ### Numbers -/

def InInt (n : ℤ) : Prop := -2147483648 ≤ n ∧ n < 2147483648

instance (n : ℤ) : Decidable (InInt n) := inferInstanceAs (Decidable (_ ∧ _))

/-- A number without sign. -/
structure IsUnsigned (text : Text) (n : ℤ) : Prop where
  nonempty : text ≠ []
  isDigit : ∀ c ∈ text, c.isDigit = true
  value : n = Nat.ofDigitChars 10 text 0

/-- A number that may have a minus sign. -/
def IsSigned (text : Text) (n : ℤ) : Prop :=
  IsUnsigned text n ∨ ∃ digits, text = '-' :: digits ∧ IsUnsigned digits (-n)

theorem foldl_digits {digits : Text} (h : ∀ c ∈ digits, c.isDigit = true) (n : ℕ) :
    digits.foldl (fun n c => 10 * n + (c.toNat - '0'.toNat : ℤ)) (n : ℤ) =
      Nat.ofDigitChars 10 digits n := by
  induction digits generalizing n with
  | nil => rfl
  | cons c digits ih =>
      have hlow : '0'.toNat ≤ c.toNat := (toNat_of_isDigit (h c List.mem_cons_self)).1
      have hdigit : (10 * (n : ℤ) + (c.toNat - '0'.toNat : ℤ)) =
          ((10 * n + (c.toNat - '0'.toNat) : ℕ) : ℤ) := by
        rw [Nat.cast_add, Nat.cast_mul, Nat.cast_sub hlow]
        rfl
      rw [List.foldl_cons, hdigit, ih fun c hc => h c (List.mem_cons_of_mem _ hc)]
      rfl

/-- The digits of a number, and what follows them. -/
theorem exists_append_of_cStr (text : Text) :
    ∃ rest, text = cStr text ++ rest ∧ StopsAt Char.isDigit rest := by
  refine ⟨text.dropWhile (· ≠ '\x00'), List.takeWhile_append_dropWhile.symm, ?_⟩
  intro c hc
  have hnul := List.head?_dropWhile_not (· ≠ '\x00') text
  rw [Option.mem_def] at hc
  rw [hc] at hnul
  have heq : c = '\x00' := by simpa using hnul
  rw [heq]
  rfl

theorem filter_inInt (n : ℤ) :
    ((some n).filter fun n => decide (-2147483648 ≤ n) && decide (n < 2147483648)) =
      if InInt n then some n else none := by
  by_cases h : InInt n
  · rw [if_pos h, Option.filter_some, if_pos (by simpa [InInt] using h)]
  · rw [if_neg h, Option.filter_some, if_neg (by simpa [InInt] using h)]

theorem stoi_digits {digits rest : Text} (hne : digits ≠ [])
    (hdigits : ∀ c ∈ digits, c.isDigit = true) (hrest : StopsAt Char.isDigit rest) :
    stoi (digits ++ rest) = if InInt (Nat.ofDigitChars 10 digits 0 : ℕ) then
      some (Nat.ofDigitChars 10 digits 0 : ℤ) else none := by
  have htake := (span_append hdigits hrest).1
  have hvalue := foldl_digits hdigits 0
  have hhead : ∀ c, (digits ++ rest).head? = some c → 48 ≤ c.toNat ∧ c.toNat ≤ 57 := by
    intro c hc
    rw [List.head?_append_of_ne_nil _ hne] at hc
    exact toNat_of_isDigit (hdigits c (List.mem_of_mem_head? hc))
  have hother : ∀ c tail, digits ++ rest = c :: tail → c ≠ '-' ∧ c ≠ '+' ∧
      Arc.isSpace c = false := by
    intro c tail htext
    have hbounds := hhead c (by rw [htext]; rfl)
    have hne' : ∀ d : Char, d.toNat < 48 → c ≠ d := by
      intro d hd heq
      rw [heq] at hbounds
      omega
    refine ⟨hne' _ (by decide), hne' _ (by decide), ?_⟩
    simp [Arc.isSpace, hne']
  have hspace : (digits ++ rest).dropWhile Arc.isSpace = digits ++ rest := by
    cases htext : digits ++ rest with
    | nil => rfl
    | cons c tail =>
        rw [List.dropWhile_cons_of_neg]
        simp [(hother c tail htext).2.2]
  rw [← filter_inInt]
  unfold stoi
  dsimp only
  rw [hspace]
  split
  · rename_i htext
    exact absurd rfl (hother _ _ htext).1
  · rename_i htext
    exact absurd rfl (hother _ _ htext).2.1
  · rw [htake, if_neg hne]
    simp only [Nat.cast_zero] at hvalue
    rw [hvalue]

theorem stoi_minus {digits rest : Text} (hne : digits ≠ [])
    (hdigits : ∀ c ∈ digits, c.isDigit = true) (hrest : StopsAt Char.isDigit rest) :
    stoi ('-' :: (digits ++ rest)) = if InInt (-(Nat.ofDigitChars 10 digits 0 : ℕ)) then
      some (-(Nat.ofDigitChars 10 digits 0 : ℤ)) else none := by
  have htake := (span_append hdigits hrest).1
  have hvalue := foldl_digits hdigits 0
  have hspace : ('-' :: (digits ++ rest)).dropWhile Arc.isSpace = '-' :: (digits ++ rest) :=
    List.dropWhile_cons_of_neg (by decide)
  rw [← filter_inInt]
  unfold stoi
  dsimp only
  simp only [Nat.cast_zero] at hvalue
  simp only [hspace, htake, if_neg hne, hvalue, Option.map_some]

/-- How a validator and `std::stoi` agree on texts of a form. -/
structure Reads (isValid : Text → Bool) (form : Text → ℤ → Prop) : Prop where
  valid : ∀ text, isValid text = true ↔ ∃ n, form text n
  stoi : ∀ text n, form (cStr text) n → stoi text = if InInt n then some n else none
  cStr : ∀ text n, form text n → cStr text = text

theorem cStr_of_isDigit {digits : Text} (h : ∀ c ∈ digits, c.isDigit = true) :
    cStr digits = digits := by
  apply cStr_eq_self
  intro hnul
  exact absurd (h _ hnul) (by decide)

theorem reads_isUnsigned : Reads isValidUnsignedInt IsUnsigned where
  valid := by
    intro text
    constructor
    · intro h
      simp only [isValidUnsignedInt, Bool.and_eq_true, Bool.not_eq_true', List.all_eq_true,
        List.isEmpty_eq_false_iff] at h
      exact ⟨_, h.1, h.2, rfl⟩
    · rintro ⟨n, h⟩
      simp only [isValidUnsignedInt, Bool.and_eq_true, Bool.not_eq_true', List.all_eq_true,
        List.isEmpty_eq_false_iff]
      exact ⟨h.nonempty, h.isDigit⟩
  stoi := by
    intro text n h
    obtain ⟨rest, htext, hrest⟩ := exists_append_of_cStr text
    have hstoi := stoi_digits h.nonempty h.isDigit hrest
    rw [← htext] at hstoi
    rw [h.value]
    exact hstoi
  cStr := fun text n h => cStr_of_isDigit h.isDigit

theorem isValidInt_eq_true_iff (text : Text) :
    isValidInt text = true ↔
      isValidUnsignedInt text = true ∨
        ∃ digits, text = '-' :: digits ∧ isValidUnsignedInt digits = true := by
  unfold isValidInt isValidUnsignedInt
  cases text with
  | nil => simp
  | cons c digits =>
      by_cases hc : c = '-'
      · simp [hc, show '-'.isDigit = false from rfl]
      · simp [hc]

theorem reads_isSigned : Reads isValidInt IsSigned where
  valid := by
    intro text
    rw [isValidInt_eq_true_iff, reads_isUnsigned.valid]
    constructor
    · rintro (⟨n, h⟩ | ⟨digits, htext, hvalid⟩)
      · exact ⟨n, .inl h⟩
      · obtain ⟨n, h⟩ := (reads_isUnsigned.valid digits).mp hvalid
        exact ⟨-n, .inr ⟨digits, htext, by rwa [neg_neg]⟩⟩
    · rintro ⟨n, h | ⟨digits, htext, h⟩⟩
      · exact .inl ⟨n, h⟩
      · exact .inr ⟨digits, htext, (reads_isUnsigned.valid digits).mpr ⟨-n, h⟩⟩
  stoi := by
    intro text n h
    cases h with
    | inl h => exact reads_isUnsigned.stoi text n h
    | inr h =>
        obtain ⟨digits, hcStr, h⟩ := h
        obtain ⟨rest, htext, hrest⟩ := exists_append_of_cStr text
        have hstoi := stoi_minus h.nonempty h.isDigit hrest
        rw [← List.cons_append, ← hcStr, ← htext, ← h.value, neg_neg] at hstoi
        exact hstoi
  cStr := by
    intro text n h
    cases h with
    | inl h => exact cStr_of_isDigit h.isDigit
    | inr h =>
        obtain ⟨digits, htext, h⟩ := h
        rw [htext, cStr, List.takeWhile_cons_of_pos (by decide)]
        exact congrArg ('-' :: ·) (cStr_of_isDigit h.isDigit)

/-! ### What a method is to do -/

/-- The port is found, and nothing throws before the setter. -/
def AudioEnv.Serves (env : AudioEnv) : Prop :=
  (∀ port, env.unknownPort port = false) ∧ env.getLevelThrows = false

/-- No exception leaves a method, whatever the device settings library does. A setter is called with
what the texts ask for; if they ask for nothing, none is called and the answer is `false`. -/
structure RejectsBadText (asks : AudioSetting → Prop) (outcome : AudioEnv → Option AudioAnswer) :
    Prop where
  returns : ∀ env, outcome env ≠ none
  sets : (∃ setting, asks setting) → ∀ env answer, env.Serves → outcome env = some answer →
    ∃ setting, asks setting ∧ answer.calls.map Prod.snd = [setting] ∧
      answer.success = !env.setterThrows setting
  rejects : (¬ ∃ setting, asks setting) → ∀ env answer, outcome env = some answer →
    answer.success = false ∧ answer.calls = []

/-- The setter is called if the port is there. -/
def Applies (setting : AudioSetting) (apply : AudioEnv → AudioAnswer) : Prop :=
  ∀ env, env.Serves → (apply env).calls.map Prod.snd = [setting] ∧
    (apply env).success = !env.setterThrows setting

section Outcomes

variable {asks : AudioSetting → Prop} {outcome : AudioEnv → Option AudioAnswer}

theorem not_rejectsBadText_of_none (h : ∀ env, outcome env = none) :
    ¬ RejectsBadText asks outcome :=
  fun hrejects => hrejects.returns { } (h _)

theorem rejectsBadText_of_rejected (h : ∀ env, outcome env = some { success := false })
    (hasks : ¬ ∃ setting, asks setting) : RejectsBadText asks outcome where
  returns := by
    intro env
    rw [h]
    exact Option.some_ne_none _
  sets := fun hex => absurd hex hasks
  rejects := by
    intro _ env answer hanswer
    rw [h] at hanswer
    rw [← Option.some.inj hanswer]
    exact ⟨rfl, rfl⟩

theorem rejectsBadText_iff_of_applies {setting : AudioSetting} {apply : AudioEnv → AudioAnswer}
    (h : ∀ env, outcome env = some (apply env)) (happly : Applies setting apply) :
    RejectsBadText asks outcome ↔ asks setting := by
  constructor
  · intro hrejects
    have hserves : AudioEnv.Serves { } := ⟨fun _ => rfl, rfl⟩
    have hcalls := (happly _ hserves).1
    by_cases hasks : ∃ setting, asks setting
    · obtain ⟨setting', hasks', hcalls', -⟩ := hrejects.sets hasks _ _ hserves (h _)
      rw [hcalls] at hcalls'
      rw [List.singleton_inj.mp hcalls']
      exact hasks'
    · rw [(hrejects.rejects hasks _ _ (h { })).2] at hcalls
      cases hcalls
  · intro hasks
    constructor
    · intro env
      rw [h]
      exact Option.some_ne_none _
    · intro _ env answer hserves hanswer
      rw [h] at hanswer
      rw [← Option.some.inj hanswer]
      exact ⟨setting, hasks, happly env hserves⟩
    · intro hnone
      exact absurd ⟨setting, hasks⟩ hnone

end Outcomes

theorem applies_setOnPort (audioPort : Option Text) (setting : AudioSetting) :
    Applies setting fun env => env.setOnPort audioPort setting := by
  intro env hserves
  simp [AudioEnv.setOnPort, AudioEnv.callSetter, hserves.1]

theorem applies_setFader (audioPort : Option Text) (setting : AudioSetting) :
    Applies setting fun env => env.setFader audioPort setting := by
  intro env hserves
  dsimp only [AudioEnv.setFader]
  split
  · exact applies_setOnPort audioPort setting env hserves
  · exact ⟨rfl, rfl⟩

theorem applies_setLevel (audioPort : Option Text) (level : FloatValue) :
    Applies (.level level) fun env => env.setLevel audioPort level := by
  intro env hserves
  dsimp only [AudioEnv.setLevel]
  rw [if_neg (by simp [hserves.1, hserves.2])]
  split
  · exact ⟨rfl, rfl⟩
  · exact ⟨rfl, rfl⟩

/-! ### One number -/

/-- If the text has the form up to its first NUL, it has no NUL and the number is an `int`. -/
def FitsInt (form : Text → ℤ → Prop) (text : Text) : Prop :=
  ∀ n, form (cStr text) n → cStr text = text ∧ InInt n

/-- What a text that is a number of the form asks for. -/
def AsksNumber (form : Text → ℤ → Prop) (text : Text) (setting : ℤ → AudioSetting)
    (s : AudioSetting) : Prop :=
  ∃ n, form text n ∧ InInt n ∧ s = setting n

theorem rejectsBadText_setNumber_iff {isValid : Text → Bool} {form : Text → ℤ → Prop}
    (hreads : Reads isValid form) {setting : ℤ → AudioSetting} {set : ℤ → AudioEnv → AudioAnswer}
    (happly : ∀ n, Applies (setting n) (set n)) (text : Text) :
    RejectsBadText (AsksNumber form text setting)
        (fun env => setNumber isValid (some text) fun n => set n env) ↔
      FitsInt form text := by
  cases hvalid : isValid (cStr text) with
  | false =>
      have hform : ∀ n, ¬ form (cStr text) n := by
        intro n h
        have htrue := (hreads.valid _).mpr ⟨n, h⟩
        rw [hvalid] at htrue
        cases htrue
      have hasks : ¬ ∃ s, AsksNumber form text setting s := by
        rintro ⟨s, n, h, -⟩
        apply hform n
        rw [hreads.cStr text n h]
        exact h
      refine iff_of_true (rejectsBadText_of_rejected ?_ hasks) fun n h => absurd h (hform n)
      intro env
      exact if_pos hvalid
  | true =>
      obtain ⟨n, hn⟩ := (hreads.valid _).mp hvalid
      have hstoi := hreads.stoi text n hn
      have houtcome : ∀ env, setNumber isValid (some text) (fun n => set n env) =
          (stoi text).map fun n => set n env := by
        intro env
        unfold setNumber
        dsimp only
        rw [if_neg (by simp [hvalid])]
      by_cases hint : InInt n
      · rw [if_pos hint] at hstoi
        have hsome : ∀ env, setNumber isValid (some text) (fun n => set n env) =
            some (set n env) := by
          intro env
          rw [houtcome, hstoi]
          rfl
        rw [rejectsBadText_iff_of_applies hsome (happly n)]
        constructor
        · rintro ⟨m, hm, -, -⟩ n' hn'
          refine ⟨hreads.cStr text m hm, ?_⟩
          have hstoi' := hreads.stoi text n' hn'
          rw [hstoi] at hstoi'
          by_contra h
          rw [if_neg h] at hstoi'
          cases hstoi'
        · intro hfits
          have hform := hn
          rw [(hfits n hn).1] at hform
          exact ⟨n, hform, hint, rfl⟩
      · rw [if_neg hint] at hstoi
        refine iff_of_false (not_rejectsBadText_of_none ?_) fun hfits => hint (hfits n hn).2
        intro env
        rw [houtcome, hstoi]
        rfl

/-! ### A mode and a number -/

/-- What a mode and a number ask for: the number is only passed on if the mode is on. -/
def AsksMode (mode number : Text) (setting : ℤ → ℤ → AudioSetting) (s : AudioSetting) : Prop :=
  ∃ m n, IsUnsigned mode m ∧ InInt m ∧ IsUnsigned number n ∧ InInt n ∧
    (m = 0 ∧ s = setting 0 0 ∨ m = 1 ∧ s = setting 1 n ∨ m = 2 ∧ s = setting 2 0)

theorem IsUnsigned.eq {text : Text} {m n : ℤ} (hm : IsUnsigned text m) (hn : IsUnsigned text n) :
    m = n :=
  hm.value.trans hn.value.symm

theorem IsUnsigned.nonneg {text : Text} {n : ℤ} (h : IsUnsigned text n) : 0 ≤ n := by
  rw [h.value]
  exact Int.natCast_nonneg _

/-- The mode is an `int`; and if it is one of the three, both texts are numbers as a whole, and the
second one is an `int`, too. -/
def FitsMode (mode number : Text) : Prop :=
  ∀ m, IsUnsigned (cStr mode) m →
    InInt m ∧ (m ≤ 2 → cStr mode = mode ∧ ∃ n, IsUnsigned number n ∧ InInt n)

section Modes

variable {mode number : Text} {setting : ℤ → ℤ → AudioSetting}
  {set : ℤ → ℤ → AudioEnv → AudioAnswer} {m : ℤ}

theorem not_asksMode_of_not_isUnsigned (h : ∀ m, ¬ IsUnsigned (cStr mode) m) :
    ¬ ∃ s, AsksMode mode number setting s := by
  rintro ⟨s, m, n, hm, -⟩
  apply h m
  rw [reads_isUnsigned.cStr mode m hm]
  exact hm

theorem eq_of_asksMode (hm : IsUnsigned (cStr mode) m) {s : AudioSetting}
    (h : AsksMode mode number setting s) : m = 0 ∨ m = 1 ∨ m = 2 := by
  obtain ⟨m', n, hm', -, -, -, hcase⟩ := h
  rw [reads_isUnsigned.cStr mode m' hm'] at hm
  rw [hm.eq hm']
  rcases hcase with hoff | hon | hauto
  · exact .inl hoff.1
  · exact .inr (.inl hon.1)
  · exact .inr (.inr hauto.1)

theorem asksMode_iff (hm : IsUnsigned (cStr mode) m) (hmode : m = 0 ∨ m = 1 ∨ m = 2) {k : ℤ}
    (hk : ∀ n, IsUnsigned number n → k = if m = 1 then n else 0) :
    AsksMode mode number setting (setting m k) ↔
      cStr mode = mode ∧ ∃ n, IsUnsigned number n ∧ InInt n := by
  constructor
  · rintro ⟨m', n, hm', -, hn, hint, -⟩
    exact ⟨reads_isUnsigned.cStr mode m' hm', n, hn, hint⟩
  · rintro ⟨hcStr, n, hn, hint⟩
    rw [hcStr] at hm
    refine ⟨m, n, hm, ?_, hn, hint, ?_⟩
    · unfold InInt
      omega
    · rw [hk n hn]
      rcases hmode with rfl | rfl | rfl
      · exact .inl ⟨rfl, rfl⟩
      · exact .inr (.inl ⟨rfl, rfl⟩)
      · exact .inr (.inr ⟨rfl, rfl⟩)

theorem stoi_of_isUnsigned {text : Text} {n : ℤ} (h : IsUnsigned text n) :
    stoi text = if InInt n then some n else none := by
  apply reads_isUnsigned.stoi
  rw [reads_isUnsigned.cStr text n h]
  exact h

/-- The setter is called with the number `k`. -/
theorem rejectsBadText_iff_of_setsMode (happly : ∀ m n, Applies (setting m n) (set m n))
    (hm : IsUnsigned (cStr mode) m) (hmode : m = 0 ∨ m = 1 ∨ m = 2) {k : ℤ}
    (hk : ∀ n, IsUnsigned number n → k = if m = 1 then n else 0)
    {outcome : AudioEnv → Option AudioAnswer} (h : ∀ env, outcome env = some (set m k env)) :
    RejectsBadText (AsksMode mode number setting) outcome ↔
      cStr mode = mode ∧ ∃ n, IsUnsigned number n ∧ InInt n :=
  (rejectsBadText_iff_of_applies h (happly m k)).trans (asksMode_iff hm hmode hk)

/-- The mode has passed its check. -/
theorem rejectsBadText_setMode_iff (happly : ∀ m n, Applies (setting m n) (set m n))
    (hm : IsUnsigned (cStr mode) m) :
    RejectsBadText (AsksMode mode number setting)
        (fun env => setMode mode number fun m n => set m n env) ↔
      InInt m ∧ (m ≤ 2 → cStr mode = mode ∧ ∃ n, IsUnsigned number n ∧ InInt n) := by
  have hstoi := reads_isUnsigned.stoi mode m hm
  have hpos := hm.nonneg
  have hzero : m ≠ 1 → ∀ n, IsUnsigned number n → 0 = if m = 1 then n else 0 :=
    fun hne n _ => (if_neg hne).symm
  unfold setMode
  by_cases hint : InInt m
  · rw [if_pos hint] at hstoi
    rw [hstoi, and_iff_right hint]
    by_cases hoff : m = 0
    · rw [imp_iff_right (by omega)]
      apply rejectsBadText_iff_of_setsMode happly hm (.inl hoff) (hzero (by omega))
      intro env
      simp [hoff]
    · by_cases hon : m = 1
      · rw [imp_iff_right (by omega)]
        cases hnumber : stoi number with
        | none =>
            refine iff_of_false (not_rejectsBadText_of_none ?_) ?_
            · intro env
              simp [hon]
            · rintro ⟨-, n, hn, hint⟩
              rw [stoi_of_isUnsigned hn, if_pos hint] at hnumber
              cases hnumber
        | some k =>
            have hk : ∀ n, IsUnsigned number n → k = if m = 1 then n else 0 := by
              intro n hn
              rw [stoi_of_isUnsigned hn] at hnumber
              split at hnumber
              · rw [if_pos hon]
                exact (Option.some.inj hnumber).symm
              · cases hnumber
            apply rejectsBadText_iff_of_setsMode happly hm (.inr (.inl hon)) hk
            intro env
            simp [hon]
      · by_cases hauto : m = 2
        · rw [imp_iff_right (by omega)]
          apply rejectsBadText_iff_of_setsMode happly hm (.inr (.inr hauto)) (hzero hon)
          intro env
          simp [hauto]
        · refine iff_of_true (rejectsBadText_of_rejected ?_ ?_) fun hle => by omega
          · intro env
            simp [hoff, hon, hauto]
          · rintro ⟨s, hasks⟩
            have hcase := eq_of_asksMode hm hasks
            omega
  · rw [if_neg hint] at hstoi
    refine iff_of_false (not_rejectsBadText_of_none ?_) fun h => hint h.1
    intro env
    rw [hstoi]

end Modes

/-! ### A float -/

/-- A text is a number as a whole, which is in the range of `float`; `x` is the nearest float. -/
def IsFloat (text : Text) (x : FloatValue) : Prop :=
  ∃ negative q b, IsFloatText text negative q ∧ FloatRange q ∧ Nearest q b ∧
    x = toFloat negative q ∧ x = .finite negative b

def AsksFloat (isInvalid : FloatValue → Bool) (text : Text) (setting : FloatValue → AudioSetting)
    (s : AudioSetting) : Prop :=
  ∃ x, IsFloat text x ∧ isInvalid x = false ∧ s = setting x

/-- A number underflows, and the C library sets `errno`. -/
def SignalsUnderflow (erange : ℚ → Bool) (q : ℚ) : Prop :=
  (q < 1 / 2 ^ 126 ∧ ∀ b : Magnitude, b.value ≠ q) ∧ erange q = true

/-- A text is a number as a whole, which `float` has room for. -/
def FitsFloat (erange : ℚ → Bool) (text : Text) : Prop :=
  ∃ negative q, IsFloatText text negative q ∧ FloatRange q ∧ ¬ SignalsUnderflow erange q

/-- What a text starts with is converted to `x`. -/
def Converts (erange : ℚ → Bool) (text : Text) (x : FloatValue) : Prop :=
  match strtof (cStr text) with
  | none => False
  | some (.infinity negative) => x = .infinity negative
  | some .nan => x = .nan
  | some (.number negative q) =>
      FloatRange q ∧ ¬ SignalsUnderflow erange q ∧ x = toFloat negative q

section Floats

variable {erange : ℚ → Bool} {text : Text} {x : FloatValue}

theorem stof_eq_some_iff : stof erange text = some x ↔ Converts erange text x := by
  unfold stof Converts
  cases hscan : strtof (cStr text) with
  | none => simp
  | some scanned =>
      cases scanned with
      | infinity negative => simp [eq_comm]
      | nan => simp [eq_comm]
      | number negative q =>
          have hpos := nonneg_of_strtof hscan
          dsimp only
          split
          · rename_i h
            rw [toFloat_eq_infinity_iff negative hpos, underflows_iff hpos] at h
            refine iff_of_false (fun hnone => by cases hnone) ?_
            rintro ⟨hrange, hsignals, -⟩
            cases h with
            | inl hnot => exact hnot hrange
            | inr hunder => exact hsignals hunder
          · rename_i h
            rw [toFloat_eq_infinity_iff negative hpos, underflows_iff hpos, not_or, not_not] at h
            constructor
            · intro hx
              exact ⟨h.1, h.2, (Option.some.inj hx).symm⟩
            · rintro ⟨-, -, hx⟩
              rw [hx]

theorem strtof_cStr_of_isFloatText {negative : Bool} {q : ℚ}
    (h : IsFloatText text negative q) : strtof (cStr text) = some (.number negative q) := by
  rw [cStr_eq_self h.nul_notMem]
  exact strtof_of_isFloatText h

theorem FitsFloat.exists_converts (h : FitsFloat erange text) :
    ∃ x, Converts erange text x ∧ IsFloat text x := by
  obtain ⟨negative, q, htext, hrange, hunder⟩ := h
  have hscan := strtof_cStr_of_isFloatText htext
  have hpos := nonneg_of_strtof hscan
  obtain ⟨b, hb⟩ := (exists_toFloat_iff negative hpos).mpr hrange
  have hnear := nearest_of_toFloat hpos hb
  refine ⟨toFloat negative q, ?_, negative, q, b, htext, hrange, hnear, rfl, hb⟩
  unfold Converts
  rw [hscan]
  exact ⟨hrange, hunder, rfl⟩

/-- What a number as a whole text is converted to is the nearest float. -/
theorem eq_of_isFloat {y : FloatValue} (hconverts : Converts erange text x)
    (h : IsFloat text y) : y = x ∧ FitsFloat erange text := by
  obtain ⟨negative, q, b, htext, hrange, -, hy, -⟩ := h
  unfold Converts at hconverts
  rw [strtof_cStr_of_isFloatText htext] at hconverts
  exact ⟨hy.trans hconverts.2.2.symm, negative, q, htext, hrange, hconverts.2.1⟩

theorem rejectsBadText_setFloat_iff {isInvalid : FloatValue → Bool}
    {setting : FloatValue → AudioSetting} {set : FloatValue → AudioEnv → AudioAnswer}
    (happly : ∀ x, Applies (setting x) (set x)) :
    RejectsBadText (AsksFloat isInvalid text setting)
        (fun env => setFloat erange isInvalid (some text) fun x => set x env) ↔
      FitsFloat erange text ∨ ∃ x, Converts erange text x ∧ isInvalid x = true := by
  unfold setFloat
  dsimp only
  cases hstof : stof erange text with
  | none =>
      have hnone : ∀ x, ¬ Converts erange text x := by
        intro x hx
        rw [stof_eq_some_iff.mpr hx] at hstof
        cases hstof
      refine iff_of_false (not_rejectsBadText_of_none fun env => rfl) ?_
      rintro (hfits | ⟨x, hx, -⟩)
      · obtain ⟨x, hx, -⟩ := hfits.exists_converts
        exact hnone x hx
      · exact hnone x hx
  | some x =>
      have hx : Converts erange text x := stof_eq_some_iff.mp hstof
      have hunique : ∀ y, Converts erange text y → y = x := by
        intro y hy
        rw [stof_eq_some_iff.mpr hy] at hstof
        exact Option.some.inj hstof
      cases hinvalid : isInvalid x with
      | true =>
          refine iff_of_true (rejectsBadText_of_rejected ?_ ?_) (.inr ⟨x, hx, hinvalid⟩)
          · intro env
            simp [hinvalid]
          · rintro ⟨s, y, hy, hvalid, -⟩
            rw [(eq_of_isFloat hx hy).1, hinvalid] at hvalid
            cases hvalid
      | false =>
          have hsome : ∀ env, (some x).map (fun x =>
              if isInvalid x = true then { success := false } else set x env) =
              some (set x env) := by
            intro env
            simp [hinvalid]
          rw [rejectsBadText_iff_of_applies hsome (happly x)]
          constructor
          · rintro ⟨y, hy, -⟩
            exact .inl (eq_of_isFloat hx hy).2
          · rintro (hfits | ⟨y, hy, htrue⟩)
            · obtain ⟨y, hy, hfloat⟩ := hfits.exists_converts
              rw [hunique y hy] at hfloat
              exact ⟨x, hfloat, hinvalid, rfl⟩
            · rw [hunique y hy, hinvalid] at htrue
              cases htrue

end Floats

/-! ### The nine methods -/

/-- A method with the texts that are given for its numeric parameters. -/
inductive NumericRequest where
  | setVolumeLeveller (level : Text)
  | setVolumeLeveller2 (mode level : Text)
  | setBassEnhancer (bassBoost : Text)
  | setSurroundVirtualizer (boost : Text)
  | setSurroundVirtualizer2 (mode boost : Text)
  | setDRCMode (DRCMode : Text)
  | setFaderControl (mixerBalance : Text)
  | setGain (gain : Text)
  | setVolumeLevel (volumeLevel : Text)

namespace NumericRequest

def handle (erange : ℚ → Bool) (audioPort : Option Text) :
    NumericRequest → AudioEnv → Option AudioAnswer
  | .setVolumeLeveller level => DisplaySettings.setVolumeLeveller (some level) audioPort
  | .setVolumeLeveller2 mode level =>
      DisplaySettings.setVolumeLeveller2 (some mode) (some level) audioPort
  | .setBassEnhancer bassBoost => DisplaySettings.setBassEnhancer (some bassBoost) audioPort
  | .setSurroundVirtualizer boost => DisplaySettings.setSurroundVirtualizer (some boost) audioPort
  | .setSurroundVirtualizer2 mode boost =>
      DisplaySettings.setSurroundVirtualizer2 (some mode) (some boost) audioPort
  | .setDRCMode DRCMode => DisplaySettings.setDRCMode (some DRCMode) audioPort
  | .setFaderControl mixerBalance => DisplaySettings.setFaderControl (some mixerBalance) audioPort
  | .setGain gain => DisplaySettings.setGain erange (some gain) audioPort
  | .setVolumeLevel volumeLevel =>
      DisplaySettings.setVolumeLevel erange (some volumeLevel) audioPort

/-- The setter call that the texts ask for, if they are numbers as the method requires them. -/
def Asks : NumericRequest → AudioSetting → Prop
  | .setVolumeLeveller level =>
      AsksNumber IsUnsigned level fun n => .volumeLeveller (if n = 0 then 0 else 1) n
  | .setVolumeLeveller2 mode level => AsksMode mode level .volumeLeveller
  | .setBassEnhancer bassBoost => AsksNumber IsUnsigned bassBoost .bassEnhancer
  | .setSurroundVirtualizer boost =>
      AsksNumber IsUnsigned boost fun n => .surroundVirtualizer (if n = 0 then 0 else 1) n
  | .setSurroundVirtualizer2 mode boost => AsksMode mode boost .surroundVirtualizer
  | .setDRCMode DRCMode => AsksNumber IsUnsigned DRCMode .drcMode
  | .setFaderControl mixerBalance => AsksNumber IsSigned mixerBalance .faderControl
  | .setGain gain => AsksFloat isInvalidGain gain .gain
  | .setVolumeLevel volumeLevel => AsksFloat (fun _ => false) volumeLevel .level

/-- The texts that a method handles. -/
def Handled (erange : ℚ → Bool) : NumericRequest → Prop
  | .setVolumeLeveller level => FitsInt IsUnsigned level
  | .setVolumeLeveller2 mode level => FitsMode mode level
  | .setBassEnhancer bassBoost => FitsInt IsUnsigned bassBoost
  | .setSurroundVirtualizer boost => FitsInt IsUnsigned boost
  | .setSurroundVirtualizer2 mode boost =>
      (∃ n, IsUnsigned (cStr boost) n) → FitsMode mode boost
  | .setDRCMode DRCMode => FitsInt IsUnsigned DRCMode
  | .setFaderControl mixerBalance => FitsInt IsSigned mixerBalance
  | .setGain gain =>
      FitsFloat erange gain ∨ ∃ x, Converts erange gain x ∧ isInvalidGain x = true
  | .setVolumeLevel volumeLevel => FitsFloat erange volumeLevel

end NumericRequest

section Methods

variable (mode number : Text) (audioPort : Option Text)

theorem rejectsBadText_setVolumeLeveller2_iff :
    RejectsBadText (AsksMode mode number .volumeLeveller)
        (setVolumeLeveller2 (some mode) (some number) audioPort) ↔
      FitsMode mode number := by
  cases hvalid : isValidUnsignedInt (cStr mode) with
  | false =>
      have hform : ∀ m, ¬ IsUnsigned (cStr mode) m := by
        intro m h
        rw [(reads_isUnsigned.valid _).mpr ⟨m, h⟩] at hvalid
        cases hvalid
      have hrejected : ∀ env, setVolumeLeveller2 (some mode) (some number) audioPort env =
          some { success := false } := fun env => if_pos (.inl hvalid)
      exact iff_of_true (rejectsBadText_of_rejected hrejected
        (not_asksMode_of_not_isUnsigned hform)) fun m h => absurd h (hform m)
  | true =>
      obtain ⟨m, hm⟩ := (reads_isUnsigned.valid _).mp hvalid
      have houtcome : setVolumeLeveller2 (some mode) (some number) audioPort = fun env =>
          setMode mode number fun m n => env.setOnPort audioPort (.volumeLeveller m n) := by
        funext env
        exact if_neg (by simp [hvalid])
      rw [houtcome, rejectsBadText_setMode_iff (fun m n => applies_setOnPort audioPort _) hm]
      constructor
      · intro h m' hm'
        rw [hm'.eq hm]
        exact h
      · exact fun h => h m hm

theorem rejectsBadText_setSurroundVirtualizer2_iff :
    RejectsBadText (AsksMode mode number .surroundVirtualizer)
        (setSurroundVirtualizer2 (some mode) (some number) audioPort) ↔
      ((∃ n, IsUnsigned (cStr number) n) → FitsMode mode number) := by
  by_cases hvalid : isValidUnsignedInt (cStr mode) = true ∧ isValidUnsignedInt (cStr number) = true
  · obtain ⟨m, hm⟩ := (reads_isUnsigned.valid _).mp hvalid.1
    have hnumber := (reads_isUnsigned.valid _).mp hvalid.2
    have houtcome : setSurroundVirtualizer2 (some mode) (some number) audioPort = fun env =>
        setMode mode number fun m n => env.setOnPort audioPort (.surroundVirtualizer m n) := by
      funext env
      exact if_neg (by simp [hvalid.1, hvalid.2])
    rw [houtcome, rejectsBadText_setMode_iff (fun m n => applies_setOnPort audioPort _) hm,
      imp_iff_right hnumber]
    constructor
    · intro h m' hm'
      rw [hm'.eq hm]
      exact h
    · exact fun h => h m hm
  · have hrejected : ∀ env, setSurroundVirtualizer2 (some mode) (some number) audioPort env =
        some { success := false } := by
      intro env
      rw [not_and_or, Bool.not_eq_true, Bool.not_eq_true] at hvalid
      exact if_pos hvalid
    rw [reads_isUnsigned.valid, reads_isUnsigned.valid, not_and] at hvalid
    refine iff_of_true (rejectsBadText_of_rejected hrejected ?_) ?_
    · rintro ⟨s, m, n, hm, -, hn, -⟩
      refine hvalid ⟨m, ?_⟩ ⟨n, ?_⟩
      · rw [reads_isUnsigned.cStr mode m hm]
        exact hm
      · rw [reads_isUnsigned.cStr number n hn]
        exact hn
    · intro hnumber m hm
      exact absurd hnumber (hvalid ⟨m, hm⟩)

end Methods

/-- Which texts are handled: those that a validator does not take, and numbers that the type has
room for. What `std::stof` takes is not validated at all. -/
theorem rejectsBadText_iff (erange : ℚ → Bool) (audioPort : Option Text)
    (request : NumericRequest) :
    RejectsBadText request.Asks (request.handle erange audioPort) ↔ request.Handled erange := by
  cases request with
  | setVolumeLeveller level =>
      exact rejectsBadText_setNumber_iff reads_isUnsigned
        (fun n => applies_setOnPort audioPort _) level
  | setVolumeLeveller2 mode level =>
      exact rejectsBadText_setVolumeLeveller2_iff mode level audioPort
  | setBassEnhancer bassBoost =>
      exact rejectsBadText_setNumber_iff reads_isUnsigned
        (fun n => applies_setOnPort audioPort _) bassBoost
  | setSurroundVirtualizer boost =>
      exact rejectsBadText_setNumber_iff reads_isUnsigned
        (fun n => applies_setOnPort audioPort _) boost
  | setSurroundVirtualizer2 mode boost =>
      exact rejectsBadText_setSurroundVirtualizer2_iff mode boost audioPort
  | setDRCMode DRCMode =>
      exact rejectsBadText_setNumber_iff reads_isUnsigned
        (fun n => applies_setOnPort audioPort _) DRCMode
  | setFaderControl mixerBalance =>
      exact rejectsBadText_setNumber_iff reads_isSigned
        (fun n => applies_setFader audioPort _) mixerBalance
  | setGain gain => exact rejectsBadText_setFloat_iff fun x => applies_setOnPort audioPort _
  | setVolumeLevel volumeLevel =>
      refine (rejectsBadText_setFloat_iff fun x => applies_setLevel audioPort x).trans ?_
      simp [NumericRequest.Handled]

/-- An exception leaves `setVolumeLevel` for a text that is not a number. -/
theorem not_rejectsBadText_loud :
    ¬ RejectsBadText (NumericRequest.setVolumeLevel ['l', 'o', 'u', 'd']).Asks
      ((NumericRequest.setVolumeLevel ['l', 'o', 'u', 'd']).handle (fun _ => true) none) := by
  apply not_rejectsBadText_of_none
  intro env
  have hscan : strtof (cStr ['l', 'o', 'u', 'd']) = none := by decide
  simp only [NumericRequest.handle, setVolumeLevel, setFloat, stof, hscan, Option.map_none]

end DeviceAndDisplay.DisplaySettings
