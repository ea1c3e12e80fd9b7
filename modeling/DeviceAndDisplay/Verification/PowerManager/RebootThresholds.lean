import DeviceAndDisplay.Model.PowerManager.RebootController
import DeviceAndDisplay.Transition.Run

/-! # Thresholds for maintenance reboots

The quote at the end is looked for at the terminating NUL, so quoted thresholds read as zero and
are ignored. The forced threshold is looked at only when the standby threshold is exceeded. -/

namespace DeviceAndDisplay.PowerManager

open Storage

namespace RebootController

open Transition

/-! ### Reading a value -/

theorem isQuoted_array (param : ParamValue) :
    isQuoted param.array param.text.length = some false := by
  have hlast : loadAt param.array param.text.length = some nul := by
    rw [loadAt, ParamValue.array, List.getElem?_append_right (Nat.le_refl _), Nat.sub_self]
    rfl
  have hnul : decide (nul = quote) = false := by decide
  cases htext : param.text with
  | nil =>
      have hfirst : loadAt param.array 0 = some nul := by
        simp [loadAt, ParamValue.array, htext]
      simp [isQuoted, hfirst, nul, quote]
  | cons c text =>
      have hfirst : loadAt param.array 0 = some c := by
        simp [loadAt, ParamValue.array, htext]
      rw [← htext]
      by_cases hc : c = quote
      · simp [isQuoted, hfirst, hlast, hc, hnul]
      · simp [isQuoted, hfirst, hc]

/-- A value of at most 14 characters is read whole, with its quotes. -/
theorem fetchRFCValueInt_of_length_le (param : ParamValue) (h : param.text.length ≤ 14) :
    fetchRFCValueInt (some param) = some (atoi param.text) := by
  have hlen : strlen param.array = some param.text.length :=
    strlen_append param.terminated param.rest
  have hclamp : (if param.text.length > maxRfcLen then maxRfcLen else param.text.length) =
      param.text.length := if_neg (by rw [maxRfcLen]; omega)
  have htext : cText param.array = param.text := cText_append param.terminated param.rest
  have hnul : nul ∈ param.array := by simp [ParamValue.array]
  obtain ⟨k, hk⟩ : ∃ k, 14 - param.text.length + 1 = k + 1 := ⟨_, rfl⟩
  have hcopy : strncpy (List.replicate (maxRfcLen + 1) nul) param.array (maxRfcLen - 1) =
      some (param.text ++ nul :: List.replicate (k + 1) nul) := by
    have hfits : ¬ (List.replicate (maxRfcLen + 1) nul).length < maxRfcLen - 1 := by decide
    have hrest : (List.replicate (maxRfcLen + 1) nul).drop (maxRfcLen - 1) =
        List.replicate 2 nul := rfl
    have htake : param.text.take (maxRfcLen - 1) = param.text := List.take_of_length_le h
    have hpad : maxRfcLen - 1 - param.text.length + 2 = k + 1 + 1 := by
      rw [maxRfcLen]
      omega
    rw [strncpy, if_neg hfits, if_pos (.inl hnul), htext, htake, hrest, List.append_assoc,
      List.replicate_append_replicate, hpad, List.replicate_succ]
  have hstore : storeAt (param.text ++ nul :: List.replicate (k + 1) nul) param.text.length nul =
      some (param.text ++ nul :: List.replicate (k + 1) nul) := by
    rw [storeAt, if_pos (by simp), List.set_append_right _ _ (Nat.le_refl _), Nat.sub_self,
      List.set_cons_zero]
  have hread : cText (param.text ++ nul :: List.replicate (k + 1) nul) = param.text :=
    cText_append param.terminated _
  simp only [fetchRFCValueInt, hlen, Option.bind_eq_bind, Option.bind_some, hclamp,
    isQuoted_array, Bool.false_eq_true, if_false, hcopy, hstore, hread]

/-! ### Thresholds as RFC delivers them -/

/-- A positive threshold below `10 ^ 9`, bare or in double quotes, and what the array holds after
it. -/
structure RfcThreshold where
  value : ℕ
  positive : 0 < value
  small : value < 10 ^ 9
  quoted : Bool
  rest : List Char

namespace RfcThreshold

def text (t : RfcThreshold) : List Char :=
  if t.quoted then quote :: (decimal t.value ++ [quote]) else decimal t.value

theorem length_text_le (t : RfcThreshold) : t.text.length ≤ 11 := by
  have hlen : (decimal t.value).length ≤ 9 := length_decimal_le (by decide) t.small
  unfold text
  split
  · rw [List.length_cons, List.length_append, List.length_singleton]
    omega
  · omega

theorem nul_notMem_text (t : RfcThreshold) : nul ∉ t.text := by
  have hnul : nul ∉ decimal t.value := not_mem_decimal (by decide)
  unfold text
  split
  · rw [List.mem_cons, List.mem_append, List.mem_singleton, not_or, not_or]
    exact ⟨by decide, hnul, by decide⟩
  · exact hnul

def param (t : RfcThreshold) : ParamValue where
  text := t.text
  rest := t.rest
  terminated := t.nul_notMem_text
  fits := by
    have hlen := t.length_text_le
    omega

/-- The number that is read. -/
def read (t : RfcThreshold) : ℤ := if t.quoted then 0 else t.value

theorem fetch_param (t : RfcThreshold) : fetchRFCValueInt (some t.param) = some t.read := by
  have hlen : t.param.text.length ≤ 14 := Nat.le_trans t.length_text_le (by decide)
  rw [fetchRFCValueInt_of_length_le _ hlen]
  have htext : t.param.text = t.text := rfl
  rw [htext, text, read]
  cases t.quoted with
  | true =>
      have hzero : integerAt (quote :: (decimal t.value ++ [quote])) = 0 :=
        integerAt_cons_of_other (by decide) (by decide) (by decide) (by decide)
      simp only [if_true]
      rw [atoi_of_fits (by omega) (by omega), hzero]
  | false =>
      have hvalue := integerAt_decimal t.value
      have hsmall := t.small
      simp only [Bool.false_eq_true, if_false]
      rw [atoi_of_fits (by omega) (by omega), hvalue]

/-- What the value leaves of a threshold. -/
theorem setThreshold_fetch (t : RfcThreshold) (threshold : Threshold) :
    threshold.setThreshold t.read =
      if t.quoted then threshold else { threshold with threshold := t.value } := by
  have hpos := t.positive
  rw [read, Threshold.setThreshold]
  cases t.quoted with
  | true => rfl
  | false => exact if_pos (by simpa using hpos)

end RfcThreshold

/-! ### Heartbeats -/

/-- The first heartbeat, which gets the thresholds. -/
def Heartbeat.deliver (standby forced : RfcThreshold) (h : Heartbeat) : Heartbeat :=
  { h with standbyReboot := some standby.param, forceReboot := some forced.param }

/-- A reboot is due. -/
def RebootDue (standby forced : ℕ) (h : Heartbeat) : Prop :=
  forced ≤ h.uptime ∨ standby ≤ h.uptime ∧ 300 ≤ h.inactiveDuration

/-- After the heartbeat the thresholds are the configured ones, and if reboots in standby are
enabled, it has issued a reboot command exactly if one is due. -/
def Applies (standby forced : ℕ) (c : RebootController) (h : Heartbeat) : Prop :=
  ∃ commands c', c.heartbeatMsg h = some (commands, c') ∧
    c'.standbyRebootThreshold.threshold = standby ∧
    c'.forcedRebootThreshold.threshold = forced ∧
    (isStandbyRebootEnabled h.standbyRebootEnable = true →
      (commands ≠ [] ↔ RebootDue standby forced h))

/-- Where the forced threshold is reached, the standby threshold is too, by the uptime as an
`int`, and so is the forced one or the grace interval. -/
def Unmasked (standby forced : ℕ) (h : Heartbeat) : Prop :=
  forced ≤ h.uptime →
    standby ≤ toInt h.uptime ∧ (forced ≤ toInt h.uptime ∨ 300 ≤ h.inactiveDuration)

/-- Below `2 ^ 31` seconds, the forced threshold must not be reached before the standby one. -/
theorem unmasked_iff_of_fits {standby forced : ℕ} {h : Heartbeat} (hfits : h.uptime < 2 ^ 31) :
    Unmasked standby forced h ↔ (forced ≤ h.uptime → standby ≤ h.uptime) := by
  have hint : toInt h.uptime = h.uptime := toInt_of_fits (by omega) (by omega)
  rw [Unmasked, hint]
  omega

/-- The controller that has read the thresholds. -/
structure HasThresholds (standby forced : ℕ) (c : RebootController) : Prop where
  standby_eq : c.standbyRebootThreshold = { threshold := standby, graceInterval := 300 }
  forced_eq : c.forcedRebootThreshold.threshold = forced
  updated : c.rfcUpdated = true

theorem rebootCommands_ne_nil_iff {standby forced : ℕ} {c : RebootController} {h : Heartbeat}
    (hc : HasThresholds standby forced c)
    (he : isStandbyRebootEnabled h.standbyRebootEnable = true) :
    c.rebootCommands h ≠ [] ↔
      standby ≤ toInt h.uptime ∧ (300 ≤ h.inactiveDuration ∨ forced ≤ toInt h.uptime) := by
  have hgrace : ((300 : ℤ) ≤ h.inactiveDuration) ↔ 300 ≤ h.inactiveDuration := by omega
  simp only [rebootCommands, he, if_true, Threshold.isThresholdExceeded,
    Threshold.isGraceIntervalExceeded, hc.standby_eq, hc.forced_eq, decide_eq_true_eq, hgrace]
  by_cases hstandby : (standby : ℤ) ≤ toInt h.uptime
  · by_cases hinactive : 300 ≤ h.inactiveDuration <;>
      by_cases hforced : (forced : ℤ) ≤ toInt h.uptime <;> simp [hstandby, hinactive, hforced]
  · simp [hstandby]

/-- A reboot is decided as configured exactly if the forced threshold is not masked. -/
theorem decides_iff {standby forced : ℕ} {c : RebootController} {h : Heartbeat}
    (hsmall : forced < 10 ^ 9) (hc : HasThresholds standby forced c)
    (he : isStandbyRebootEnabled h.standbyRebootEnable = true) :
    (c.rebootCommands h ≠ [] ↔ RebootDue standby forced h) ↔ Unmasked standby forced h := by
  rw [rebootCommands_ne_nil_iff hc he, RebootDue, Unmasked]
  by_cases hfits : h.uptime < 2147483648
  · rw [toInt_of_fits (by omega) (by omega)]
    omega
  · omega

theorem heartbeatMsg_of_updated {c : RebootController} (h : Heartbeat)
    (hc : c.rfcUpdated = true) : c.heartbeatMsg h = some (c.rebootCommands h, c) := by
  rw [heartbeatMsg, updateThresholds, if_pos hc]
  rfl

/-- The controller after the first heartbeat. -/
def configured (standby forced : RfcThreshold) : RebootController where
  standbyRebootThreshold :=
    { threshold := if standby.quoted then 86400 * 3 else standby.value, graceInterval := 300 }
  forcedRebootThreshold := { threshold := if forced.quoted then 172800 * 3 else forced.value }
  rfcUpdated := true

theorem heartbeatMsg_create (standby forced : RfcThreshold) (h : Heartbeat) :
    heartbeatMsg (Heartbeat.deliver standby forced h) {} =
      some ((configured standby forced).rebootCommands (Heartbeat.deliver standby forced h),
        configured standby forced) := by
  have hvalue : ∀ t : RfcThreshold, -1 ≠ t.read := by
    intro t
    unfold RfcThreshold.read
    split <;> omega
  have hupdate : updateThresholds (Heartbeat.deliver standby forced h) {} =
      some (configured standby forced) := by
    simp only [updateThresholds, Heartbeat.deliver, Bool.false_eq_true, if_false,
      RfcThreshold.fetch_param, Option.bind_eq_bind, Option.bind_some, hvalue, ne_eq,
      not_false_eq_true, if_true, RfcThreshold.setThreshold_fetch, configured]
    cases standby.quoted <;> cases forced.quoted <;> rfl
  rw [heartbeatMsg, hupdate]
  rfl

/-- The threshold is read as it is configured: it is bare, or the same as the default one. -/
def RfcThreshold.Read (default : ℕ) (t : RfcThreshold) : Prop :=
  t.quoted = false ∨ t.value = default

theorem configured_threshold_iff (standby forced : RfcThreshold) :
    ((configured standby forced).standbyRebootThreshold.threshold = standby.value ∧
      (configured standby forced).forcedRebootThreshold.threshold = forced.value) ↔
    standby.Read (86400 * 3) ∧ forced.Read (172800 * 3) := by
  have hread : ∀ (t : RfcThreshold) (default : ℕ),
      (if t.quoted then (default : ℤ) else t.value) = t.value ↔ t.Read default := by
    intro t default
    unfold RfcThreshold.Read
    cases t.quoted with
    | true =>
        simp only [if_true, Bool.true_eq_false, false_or]
        omega
    | false => simp
  exact and_congr (hread standby (86400 * 3)) (hread forced (172800 * 3))

theorem hasThresholds_configured {standby forced : RfcThreshold}
    (hs : standby.Read (86400 * 3)) (hf : forced.Read (172800 * 3)) :
    HasThresholds standby.value forced.value (configured standby forced) := by
  obtain ⟨hstandby, hforced⟩ := (configured_threshold_iff standby forced).mpr ⟨hs, hf⟩
  exact ⟨congrArg (Threshold.mk · 300) hstandby, hforced, rfl⟩

/-! ### Runs of heartbeats -/

/-- A later heartbeat keeps the thresholds. -/
theorem along_applies_iff {standby forced : ℕ} (hsmall : forced < 10 ^ 9) {c : RebootController}
    (hc : HasThresholds standby forced c) (hs : List Heartbeat) :
    Along heartbeatStep (Applies standby forced) c hs ↔
      ∀ h ∈ hs, isStandbyRebootEnabled h.standbyRebootEnable = true →
        Unmasked standby forced h := by
  induction hs with
  | nil => simp [Along]
  | cons h hs ih =>
      have hmsg := heartbeatMsg_of_updated h hc.updated
      have hstep : heartbeatStep c h = some c := by
        rw [heartbeatStep, hmsg]
        rfl
      have happlies : Applies standby forced c h ↔
          (isStandbyRebootEnabled h.standbyRebootEnable = true →
            Unmasked standby forced h) := by
        constructor
        · rintro ⟨commands, c', hmsg', _, _, hdecides⟩ he
          rw [hmsg] at hmsg'
          cases hmsg'
          exact (decides_iff hsmall hc he).mp (hdecides he)
        · intro hunmasked
          refine ⟨_, c, hmsg, ?_, hc.forced_eq, fun he => ?_⟩
          · rw [hc.standby_eq]
          · exact (decides_iff hsmall hc he).mpr (hunmasked he)
      rw [Along, happlies, hstep, List.forall_mem_cons]
      simp [ih]

/-- The thresholds apply exactly if each is bare or the default one, and no heartbeat with reboots
enabled meets a masked forced threshold. -/
theorem thresholds_apply_iff (standby forced : RfcThreshold) (h : Heartbeat)
    (hs : List Heartbeat) :
    Along heartbeatStep (Applies standby.value forced.value) {}
        (Heartbeat.deliver standby forced h :: hs) ↔
      standby.Read (86400 * 3) ∧ forced.Read (172800 * 3) ∧
        ∀ h' ∈ Heartbeat.deliver standby forced h :: hs,
          isStandbyRebootEnabled h'.standbyRebootEnable = true →
            Unmasked standby.value forced.value h' := by
  have hmsg := heartbeatMsg_create standby forced h
  constructor
  · intro halong
    obtain ⟨⟨commands, c', hmsg', hstandby, hforced, hdecides⟩, hrest⟩ := halong
    rw [hmsg] at hmsg'
    cases hmsg'
    obtain ⟨hs, hf⟩ := (configured_threshold_iff standby forced).mp ⟨hstandby, hforced⟩
    have hc := hasThresholds_configured hs hf
    refine ⟨hs, hf, List.forall_mem_cons.mpr ⟨fun he => ?_, ?_⟩⟩
    · exact (decides_iff forced.small hc he).mp (hdecides he)
    · apply (along_applies_iff forced.small hc _).mp
      apply hrest
      rw [heartbeatStep, hmsg]
      rfl
  · rintro ⟨hs, hf, hunmasked⟩
    have hc := hasThresholds_configured hs hf
    obtain ⟨hfirst, hrest⟩ := List.forall_mem_cons.mp hunmasked
    obtain ⟨hstandby, hforced⟩ := (configured_threshold_iff standby forced).mpr ⟨hs, hf⟩
    refine ⟨⟨_, _, hmsg, hstandby, hforced, fun he => ?_⟩, fun t ht => ?_⟩
    · exact (decides_iff forced.small hc he).mpr (hfirst he)
    · rw [heartbeatStep, hmsg] at ht
      cases ht
      exact (along_applies_iff forced.small hc _).mpr hrest

/-- The thresholds `"100000"` and `"200000"` leave the default ones. -/
theorem quoted_thresholds_ignored :
    let standby : RfcThreshold := ⟨100000, by decide, by decide, true, []⟩
    let forced : RfcThreshold := ⟨200000, by decide, by decide, true, []⟩
    let h : Heartbeat := Heartbeat.deliver standby forced ⟨none, none, none, 150000, 400⟩
    (heartbeatStep {} h = some { rfcUpdated := true }) ∧
      ¬ Along heartbeatStep (Applies standby.value forced.value) {} [h] := by
  refine ⟨by decide, fun halong => ?_⟩
  obtain ⟨⟨_, _, hmsg, hstandby, _⟩, _⟩ := halong
  cases hmsg
  exact absurd hstandby (by decide)

end RebootController

end DeviceAndDisplay.PowerManager
