import DeviceAndDisplay.Model.PowerManager.ThermalConfig

/-! # Reading thermal settings

The quote at the end is looked for where the clamped text ends, and the length that remains is
unsigned. A lone quote makes `strncpy` write past the buffer; quotes around a longer text stay. -/

namespace DeviceAndDisplay.PowerManager

open Storage

/-! ### What a value stands for -/

/-- The text without a pair of enclosing quotes. -/
def unquote (text : List Char) : List Char :=
  if 2 ≤ text.length ∧ text.head? = some quote ∧ text.getLast? = some quote then
    (text.drop 1).dropLast
  else
    text

/-- A text, or `none` for the null pointer if there is none. -/
def nonEmpty (text : List Char) : Option (List Char) :=
  if text = [] then none else some text

/-- What `read_ConfigProperty` is to return for a value. -/
def propertyText (text : List Char) : Option (List Char) :=
  nonEmpty ((unquote text).take 15)

theorem nonEmpty_inj {a b : List Char} : nonEmpty a = nonEmpty b ↔ a = b := by
  unfold nonEmpty
  split <;> split <;> simp_all

namespace ThermalConfig

/-! ### What the code reads -/

variable {param : ParamValue} {valueBuf : List Char}

/-- The text that the code finds: quotes are removed if the clamped text has them. -/
def readText (text : List Char) : List Char :=
  if text.head? = some quote ∧ text[min text.length 15 - 1]? = some quote then
    (text.drop 1).take (min text.length 15 - 2)
  else
    text.take 15

theorem dataLen_toNat (h : param.text.length < 2 ^ 32) :
    (dataLen param.text.length).toNat = min param.text.length 15 := by
  have hlen : (UInt32.ofNat param.text.length).toNat = param.text.length := by
    rw [UInt32.toNat_ofNat']
    exact Nat.mod_eq_of_lt h
  have hmax : (maxThermalRfc - 1).toNat = 15 := rfl
  unfold dataLen
  split
  · rename_i hgt
    have := UInt32.lt_iff_toNat_lt.mp hgt
    omega
  · rename_i hle
    have : ¬ (maxThermalRfc - 1).toNat < (UInt32.ofNat param.text.length).toNat := fun hlt =>
      hle (UInt32.lt_iff_toNat_lt.mpr hlt)
    omega

theorem nul_mem_array (param : ParamValue) : nul ∈ param.array := by
  simp [ParamValue.array]

theorem cText_array (param : ParamValue) : cText param.array = param.text :=
  cText_append param.terminated param.rest

/-- A copy that fits in the buffer. -/
theorem copy_eq {src : List Char} {n : UInt32} (hn : n.toNat < valueBuf.length)
    (hsrc : nul ∈ src) : ∃ buffer, copy valueBuf src n = some buffer ∧
      buffer.length = valueBuf.length ∧ cText buffer = (cText src).take n.toNat :=
  strncpy_storeAt hn hsrc

/-- A copy that is longer than the buffer writes past it. -/
theorem copy_eq_none {src : List Char} {n : UInt32} (hn : valueBuf.length < n.toNat) :
    copy valueBuf src n = none := by
  rw [copy, strncpy_eq_none hn]
  rfl

theorem dataLen_sub_toNat {k : UInt32} (hk : k.toNat ≤ min param.text.length 15) :
    (dataLen param.text.length - k).toNat = min param.text.length 15 - k.toNat := by
  rw [UInt32.toNat_sub_of_le, dataLen_toNat param.fits]
  rw [UInt32.le_iff_toNat_le, dataLen_toNat param.fits]
  exact hk

theorem isQuoted_eq (param : ParamValue) :
    isQuoted param.array (dataLen param.text.length) =
      some (decide (param.text.head? = some quote ∧
        param.text[min param.text.length 15 - 1]? = some quote)) := by
  cases htext : param.text with
  | nil => simp [isQuoted, ParamValue.array, htext, loadAt, nul, quote]
  | cons c text =>
      have hfirst : loadAt param.array 0 = some c := by
        simp [loadAt, ParamValue.array, htext]
      rw [← htext]
      have hlen : 0 < param.text.length := by simp [htext]
      have hone : (1 : UInt32).toNat = 1 := rfl
      have hindex : (dataLen param.text.length - 1).toNat = min param.text.length 15 - 1 :=
        dataLen_sub_toNat (by omega)
      have hlast : loadAt param.array (min param.text.length 15 - 1) =
          param.text[min param.text.length 15 - 1]? :=
        List.getElem?_append_left (by omega)
      obtain ⟨d, hd⟩ : ∃ d, param.text[min param.text.length 15 - 1]? = some d :=
        ⟨_, List.getElem?_eq_getElem (by omega)⟩
      have hhead : param.text.head? = some c := by simp [htext]
      by_cases hc : c = quote
      · simp [isQuoted, hfirst, hindex, hlast, hd, hhead, hc]
      · simp [isQuoted, hfirst, hhead, hc]

theorem copyValue_array (param : ParamValue) (valueBuf : List Char) :
    copyValue param.array valueBuf =
      if param.text.head? = some quote ∧
          param.text[min param.text.length 15 - 1]? = some quote then
        copy valueBuf (param.array.drop 1) (dataLen param.text.length - 2)
      else
        copy valueBuf param.array (maxThermalRfc - 1) := by
  have hlen : strlen param.array = some param.text.length :=
    strlen_append param.terminated param.rest
  simp [copyValue, hlen, isQuoted_eq]

/-- Only the lone quote is a quoted text of one character. -/
theorem eq_lone_quote_iff {text : List Char} :
    text = [quote] ↔ text.length = 1 ∧ text.head? = some quote := by
  cases text with
  | nil => simp
  | cons c text => simp [and_comm]

theorem two_le_length {text : List Char} (hne : text ≠ [quote])
    (hhead : text.head? = some quote) : 2 ≤ text.length := by
  have hone : text.length ≠ 1 := fun h => hne (eq_lone_quote_iff.mpr ⟨h, hhead⟩)
  have hzero : text.length ≠ 0 := fun h => by
    rw [List.length_eq_zero_iff.mp h] at hhead
    cases hhead
  omega

/-- Any value but a lone quote is copied within the buffer. -/
theorem copyValue_eq (hbuf : valueBuf.length = 16) (hne : param.text ≠ [quote]) :
    ∃ buffer, copyValue param.array valueBuf = some buffer ∧ buffer.length = 16 ∧
      cText buffer = readText param.text := by
  rw [copyValue_array, readText]
  split
  · rename_i hquoted
    have htwo : (2 : UInt32).toNat = 2 := rfl
    have hlen : 2 ≤ param.text.length := two_le_length hne hquoted.1
    have hsub : (dataLen param.text.length - 2).toNat = min param.text.length 15 - 2 :=
      dataLen_sub_toNat (by omega)
    have hdrop : param.array.drop 1 = param.text.drop 1 ++ nul :: param.rest :=
      List.drop_append_of_le_length (by omega)
    have hnul : nul ∉ param.text.drop 1 := fun h => param.terminated (List.mem_of_mem_drop h)
    have hfits : (dataLen param.text.length - 2).toNat < valueBuf.length := by omega
    have hsrc : nul ∈ param.array.drop 1 := by simp [hdrop]
    obtain ⟨buffer, hcopy, hlength, htext⟩ := copy_eq hfits hsrc
    refine ⟨buffer, hcopy, hlength.trans hbuf, ?_⟩
    rw [htext, hdrop, cText_append hnul, hsub]
  · have hmax : (maxThermalRfc - 1).toNat = 15 := rfl
    have hfits : (maxThermalRfc - 1).toNat < valueBuf.length := by omega
    obtain ⟨buffer, hcopy, hlength, htext⟩ := copy_eq hfits (nul_mem_array param)
    refine ⟨buffer, hcopy, hlength.trans hbuf, ?_⟩
    rw [htext, cText_array, hmax]

/-- A lone quote leaves a length of -2, as an unsigned number. -/
theorem copyValue_lone_quote (hbuf : valueBuf.length = 16) (h : param.text = [quote]) :
    copyValue param.array valueBuf = none := by
  rw [copyValue_array, h, if_pos ⟨rfl, rfl⟩]
  apply copy_eq_none
  rw [hbuf]
  decide

/-! ### What a call returns -/

/-- The test of the first character tells an empty text. -/
theorem returned_eq {buffer : List Char} (h : buffer ≠ []) : ∃ first, loadAt buffer 0 = some first ∧
    (if first = nul then none else some (cText buffer)) = nonEmpty (cText buffer) := by
  cases buffer with
  | nil => exact absurd rfl h
  | cons first rest =>
      refine ⟨first, rfl, ?_⟩
      by_cases hfirst : first = nul
      · simp [hfirst, cText, nonEmpty]
      · simp [hfirst, cText, nonEmpty]

/-- The static buffer keeps its length, and a value that is copied is returned unless empty. -/
theorem readConfigProperty_eq (hbuf : valueBuf.length = 16) (hne : param.text ≠ [quote]) :
    ∃ buffer, buffer.length = 16 ∧ readConfigProperty (some param) valueBuf =
      some (nonEmpty (readText param.text), buffer) := by
  have hset : (valueBuf.set 0 nul).length = 16 := by simpa using hbuf
  obtain ⟨buffer, hcopy, hlength, htext⟩ := copyValue_eq hset hne
  refine ⟨buffer, hlength, ?_⟩
  have hne : buffer ≠ [] := by
    intro hnil
    simp [hnil] at hlength
  obtain ⟨first, hload, hreturned⟩ := returned_eq hne
  rw [htext] at hreturned
  simp [readConfigProperty, storeAt, hbuf, hcopy, hload, htext, hreturned]

theorem readConfigProperty_lone_quote (hbuf : valueBuf.length = 16) (h : param.text = [quote]) :
    readConfigProperty (some param) valueBuf = none := by
  have hset : (valueBuf.set 0 nul).length = 16 := by simpa using hbuf
  have hcopy := copyValue_lone_quote hset h
  simp [readConfigProperty, storeAt, hbuf, hcopy]

/-! ### Quotes and the clamped text -/

/-- The value is not a lone quote, and either it fits in the buffer, or it does not start with a
quote, or neither the clamped nor the whole text ends with one. -/
def Decodable (text : List Char) : Prop :=
  text ≠ [quote] ∧ (text.length ≤ 15 ∨ text.head? ≠ some quote ∨
    text[14]? ≠ some quote ∧ text.getLast? ≠ some quote)

instance (text : List Char) : Decidable (Decodable text) :=
  inferInstanceAs (Decidable (_ ∧ _))

theorem unquote_of_quoted {text : List Char} (hlen : 2 ≤ text.length)
    (hhead : text.head? = some quote) (hlast : text.getLast? = some quote) :
    unquote text = (text.drop 1).take (text.length - 2) := by
  rw [unquote, if_pos ⟨hlen, hhead, hlast⟩, List.dropLast_eq_take, List.length_drop]
  rfl

theorem unquote_of_head {text : List Char} (h : text.head? ≠ some quote) : unquote text = text :=
  if_neg fun hquoted => h hquoted.2.1

theorem unquote_of_getLast {text : List Char} (h : text.getLast? ≠ some quote) :
    unquote text = text :=
  if_neg fun hquoted => h hquoted.2.2

theorem readText_of_head {text : List Char} (h : text.head? ≠ some quote) :
    readText text = text.take 15 :=
  if_neg fun hquoted => h hquoted.1

/-- A text that fits in the buffer is read as it should be. -/
theorem readText_of_le {text : List Char} (hne : text ≠ [quote]) (hlen : text.length ≤ 15) :
    readText text = (unquote text).take 15 := by
  by_cases hhead : text.head? = some quote
  · have htwo : 2 ≤ text.length := two_le_length hne hhead
    by_cases hlast : text.getLast? = some quote
    · rw [unquote_of_quoted htwo hhead hlast, readText, Nat.min_eq_left hlen,
        ← List.getLast?_eq_getElem?, if_pos ⟨hhead, hlast⟩, List.take_take,
        Nat.min_eq_right (by omega)]
    · rw [unquote_of_getLast hlast, readText, Nat.min_eq_left hlen, ← List.getLast?_eq_getElem?,
        if_neg fun h => hlast h.2]
  · rw [unquote_of_head hhead, readText_of_head hhead]

/-- A quoted text in which every character is followed by itself has only quotes. -/
theorem quotes_of_shift {text : List Char} (hhead : text.head? = some quote) {n : ℕ}
    (hshift : ∀ i < n, text[i]? = text[i + 1]?) : text[n]? = some quote := by
  induction n with
  | zero => rw [← hhead, List.head?_eq_getElem?]
  | succ n ih =>
      rw [← hshift n (Nat.lt_succ_self n)]
      exact ih fun i hi => hshift i (Nat.lt_succ_of_lt hi)

/-- The text within the quotes is not the text with its first quote. -/
theorem take_ne_of_quoted {text : List Char} (hlen : 15 < text.length)
    (hhead : text.head? = some quote) (h14 : text[14]? ≠ some quote) :
    text.take 15 ≠ ((text.drop 1).take (text.length - 2)).take 15 := by
  intro h
  rw [List.take_take] at h
  have hlength := congrArg List.length h
  simp only [List.length_take, List.length_drop] at hlength
  refine h14 (quotes_of_shift hhead fun i hi => ?_)
  have hget := congrArg (fun l => l[i]?) h
  simp only [List.getElem?_take, List.getElem?_drop] at hget
  rw [if_pos (by omega), if_pos (by omega), Nat.add_comm] at hget
  exact hget

/-- A longer text is read as it should be if its quotes do not matter. -/
theorem readText_eq_iff_of_gt {text : List Char} (hlen : 15 < text.length) :
    readText text = (unquote text).take 15 ↔ text.head? ≠ some quote ∨
      text[14]? ≠ some quote ∧ text.getLast? ≠ some quote := by
  by_cases hhead : text.head? = some quote
  · have hmin : min text.length 15 = 15 := by omega
    simp only [hhead, ne_eq, not_true, false_or]
    by_cases h14 : text[14]? = some quote
    · -- thirteen characters are left, and at least fourteen are asked for
      have hread : (readText text).length = 13 := by
        rw [readText, hmin, if_pos ⟨hhead, h14⟩]
        simp only [List.length_take, List.length_drop]
        omega
      have hunquote : 14 ≤ (unquote text).length := by
        by_cases hlast : text.getLast? = some quote
        · rw [unquote_of_quoted (by omega) hhead hlast, List.length_take, List.length_drop]
          omega
        · rw [unquote_of_getLast hlast]
          omega
      simp only [h14, not_true, false_and, iff_false]
      intro h
      have hlength := congrArg List.length h
      rw [hread, List.length_take] at hlength
      omega
    · have hread : readText text = text.take 15 := by
        rw [readText, hmin, if_neg fun h => h14 h.2]
      rw [hread]
      by_cases hlast : text.getLast? = some quote
      · rw [unquote_of_quoted (by omega) hhead hlast]
        simp only [hlast, not_true, and_false, iff_false]
        exact take_ne_of_quoted hlen hhead h14
      · rw [unquote_of_getLast hlast]
        simp [h14, hlast]
  · rw [readText_of_head hhead, unquote_of_head hhead]
    simp [hhead]

theorem readText_eq_iff {text : List Char} (hne : text ≠ [quote]) :
    readText text = (unquote text).take 15 ↔ Decodable text := by
  by_cases hlen : text.length ≤ 15
  · exact ⟨fun _ => ⟨hne, .inl hlen⟩, fun _ => readText_of_le hne hlen⟩
  · rw [readText_eq_iff_of_gt (Nat.lt_of_not_le hlen)]
    simp [Decodable, hne, hlen]

/-! ### Reading one key -/

/-- The call accesses only its two arrays, and returns the text that the value stands for. -/
def DecodesSafely (param : ParamValue) (valueBuf : List Char) : Prop :=
  ∃ buffer, buffer.length = 16 ∧
    readConfigProperty (some param) valueBuf = some (propertyText param.text, buffer)

theorem decodesSafely_iff (hbuf : valueBuf.length = 16) :
    DecodesSafely param valueBuf ↔ Decodable param.text := by
  by_cases hne : param.text = [quote]
  · rw [DecodesSafely, readConfigProperty_lone_quote hbuf hne]
    simp [Decodable, hne]
  · obtain ⟨buffer, hlength, hread⟩ := readConfigProperty_eq hbuf hne
    rw [← readText_eq_iff hne, ← nonEmpty_inj, DecodesSafely, hread]
    constructor
    · rintro ⟨_, _, h⟩
      exact congrArg Prod.fst (Option.some.inj h)
    · intro h
      exact ⟨buffer, hlength, by rw [h]; rfl⟩

/-- A decimal number: digits, after a sign or not. -/
def IsDecimal (text : List Char) : Prop :=
  ∃ sign digits, text = sign ++ digits ∧ (sign = [] ∨ sign = ['-'] ∨ sign = ['+']) ∧
    digits ≠ [] ∧ ∀ c ∈ digits, c.isDigit = true

theorem IsDecimal.quote_notMem {text : List Char} (h : IsDecimal text) : quote ∉ text := by
  obtain ⟨sign, digits, rfl, hsign, _, hdigits⟩ := h
  intro hmem
  rcases List.mem_append.mp hmem with hmem | hmem
  · rcases hsign with rfl | rfl | rfl
    · cases hmem
    · exact absurd (List.mem_singleton.mp hmem) (by decide)
    · exact absurd (List.mem_singleton.mp hmem) (by decide)
  · exact absurd (hdigits quote hmem) (by decide)

/-- A text without quotes stands for the same as the text within quotes. -/
theorem propertyText_quoted {text : List Char} (h : quote ∉ text) :
    propertyText (quote :: (text ++ [quote])) = propertyText text := by
  have hhead : text.head? ≠ some quote := fun hh => h (List.mem_of_head? hh)
  have hlast : (quote :: (text ++ [quote])).getLast? = some quote := by
    rw [← List.cons_append]
    exact List.getLast?_concat
  have hunquote : unquote (quote :: (text ++ [quote])) = text := by
    rw [unquote_of_quoted (by simp) rfl hlast]
    simp
  rw [propertyText, propertyText, hunquote, unquote_of_head hhead]

/-- A text without quotes is decodable. -/
theorem decodable_of_quote_notMem {text : List Char} (h : quote ∉ text) : Decodable text := by
  refine ⟨?_, .inr (.inl fun hh => h (List.mem_of_head? hh))⟩
  rintro rfl
  exact h List.mem_cons_self

/-- The call is safe and returns the value without its quotes exactly if the value is decodable;
and then `atoi` gives the same for a decimal number with quotes and without them. -/
theorem config_property_decoded_iff {valueBuf : List Char} (hbuf : valueBuf.length = 16) :
    (∀ param, DecodesSafely param valueBuf ↔ Decodable param.text) ∧
    ∀ plain quoted : ParamValue, IsDecimal plain.text →
      quoted.text = quote :: (plain.text ++ [quote]) → Decodable quoted.text →
      ∀ atoi : List Char → ℤ,
        (readConfigProperty (some plain) valueBuf).map (fun r => r.1.map atoi) =
          (readConfigProperty (some quoted) valueBuf).map fun r => r.1.map atoi := by
  refine ⟨fun param => decodesSafely_iff hbuf, ?_⟩
  intro plain quoted hdecimal htext hdecodable atoi
  have hplain : Decodable plain.text := decodable_of_quote_notMem hdecimal.quote_notMem
  obtain ⟨_, _, hread⟩ := (decodesSafely_iff hbuf).mpr hplain
  obtain ⟨_, _, hread'⟩ := (decodesSafely_iff hbuf).mpr hdecodable
  rw [hread, hread', htext, propertyText_quoted hdecimal.quote_notMem]
  rfl

/-- A value in quotes, and the same value without them. -/
theorem config_property_decoded_quoted :
    DecodesSafely ⟨[quote, '9', '5', quote], [], by decide, by decide⟩ (List.replicate 16 nul) :=
  ((config_property_decoded_iff rfl).1 _).mpr (by decide)

/-- A lone quote makes the call write past its buffer, and a number of fourteen digits keeps the
quote before it. -/
theorem config_property_not_decoded :
    readConfigProperty (some ⟨[quote], [], by decide, by decide⟩) (List.replicate 16 nul) = none ∧
    ∃ plain quoted : ParamValue, quoted.text = quote :: (plain.text ++ [quote]) ∧
      plain.text = List.replicate 12 '0' ++ ['4', '2'] ∧
      (readConfigProperty (some plain) (List.replicate 16 nul)).map Prod.fst =
        some (some plain.text) ∧
      (readConfigProperty (some quoted) (List.replicate 16 nul)).map Prod.fst =
        some (some (quote :: plain.text)) := by
  refine ⟨by decide, ⟨List.replicate 12 '0' ++ ['4', '2'], [], by decide, by decide⟩,
    ⟨quote :: (List.replicate 12 '0' ++ ['4', '2'] ++ [quote]), [], by decide, by decide⟩,
    rfl, rfl, ?_, ?_⟩ <;> decide

/-! ### Reading all keys -/

theorem readConfigProperty_none (hbuf : valueBuf.length = 16) :
    ∃ buffer, buffer.length = 16 ∧ readConfigProperty none valueBuf = some (none, buffer) := by
  refine ⟨valueBuf.set 0 nul, by simpa using hbuf, ?_⟩
  simp [readConfigProperty, storeAt, hbuf, loadAt]

/-- A member after its key was read. -/
def configured (rfc : String → Option ParamValue) (atoi : List Char → ℤ) (c : ThermalConfig)
    (prop : String × (ℤ → ThermalConfig → ThermalConfig)) : ThermalConfig :=
  ((rfc prop.1).bind fun param => propertyText param.text).elim c fun text => prop.2 (atoi text) c

/-- If all values are decodable, each member is set to the number of its text. -/
theorem readConfigProps_eq {rfc : String → Option ParamValue}
    (hrfc : ∀ key param, rfc key = some param → Decodable param.text) (atoi : List Char → ℤ)
    (c : ThermalConfig) (hbuf : valueBuf.length = 16) :
    ∃ buffer, buffer.length = 16 ∧ readConfigProps rfc atoi (c, valueBuf) =
      some (configProps.foldl (configured rfc atoi) c, buffer) := by
  unfold readConfigProps
  generalize configProps = props
  induction props generalizing c valueBuf with
  | nil => exact ⟨valueBuf, hbuf, rfl⟩
  | cons prop props ih =>
      obtain ⟨buffer, hlength, hread⟩ : ∃ buffer, buffer.length = 16 ∧
          readConfigProperty (rfc prop.1) valueBuf =
            some ((rfc prop.1).bind fun param => propertyText param.text, buffer) := by
        cases hparam : rfc prop.1 with
        | none => exact readConfigProperty_none hbuf
        | some param => exact (decodesSafely_iff hbuf).mpr (hrfc prop.1 param hparam)
      have hprop : readConfigProp rfc atoi prop (c, valueBuf) =
          some (configured rfc atoi c prop, buffer) := by
        rw [readConfigProp, hread]
        rfl
      rw [List.foldlM_cons, hprop, List.foldl_cons]
      exact ih (configured rfc atoi c prop) hlength

end ThermalConfig

end DeviceAndDisplay.PowerManager
