import DeviceAndDisplay.Model.SystemServices.LogUpload

/-! # Leaking settings

The scratch string keeps the text of a key for the outputs whose own key is absent. -/

namespace DeviceAndDisplay.SystemServices.UploadLogs

open Helpers Storage

/-- The trimmed text behind a key; `none` if the key is absent. -/
def settingText (key dcminfo : Text) : Option Text := (regexSearch key dcminfo).map trim

/-- The text of a setting if it is not blank, and the initial value otherwise. -/
def ownSetting (key dcminfo initial : Text) : Text :=
  ((settingText key dcminfo).filter (· ≠ [])).getD initial

/-- What the outputs should be. -/
def expectedSettings (dcminfo : Text) (s : DcmSettings) : DcmSettings where
  uploadProtocol := ownSetting uploadProtocolKey dcminfo s.uploadProtocol
  httplink := ownSetting urlKey dcminfo s.httplink
  uploadCheck := ownSetting uploadOnRebootKey dcminfo s.uploadCheck

/-- What an output keeps of the text of the last key that was found before. -/
def Harmless (before : Option Text) (initial : Text) : Prop :=
  ∀ text ∈ before, text = [] ∨ text = initial

/-- A key is absent only where the text before is blank or the initial value itself. -/
structure SettingsApart (dcminfo : Text) (s : DcmSettings) : Prop where
  httplink : settingText urlKey dcminfo = none →
    Harmless (settingText uploadProtocolKey dcminfo) s.httplink
  uploadCheck : settingText uploadOnRebootKey dcminfo = none →
    Harmless ((settingText urlKey dcminfo).or (settingText uploadProtocolKey dcminfo))
      s.uploadCheck

theorem searchInto_eq (key dcminfo : Text) (before : Option Text) :
    searchInto key dcminfo (before.getD []) = ((settingText key dcminfo).or before).getD [] := by
  rw [searchInto, settingText]
  cases regexSearch key dcminfo <;> rfl

theorem store_getD (text : Option Text) (initial : Text) :
    store (text.getD []) initial = (text.filter (· ≠ [])).getD initial := by
  cases text with
  | none => rfl
  | some text => cases text <;> rfl

/-- An output is right if its key is found, or what is stored instead is harmless. -/
theorem store_or_iff (own before : Option Text) (initial : Text) :
    store ((own.or before).getD []) initial = (own.filter (· ≠ [])).getD initial ↔
      (own = none → Harmless before initial) := by
  rw [store_getD]
  cases own with
  | some text => simp
  | none =>
      cases before with
      | none => simp [Harmless]
      | some text =>
          by_cases h : text = []
          · simp [Harmless, h, Option.filter]
          · simp [Harmless, h, Option.filter]

theorem getDCMconfigDetails_eq (file : Option Text) (s : DcmSettings) :
    (getDCMconfigDetails file s).2 =
      let protocol := settingText uploadProtocolKey (file.getD [])
      let url := (settingText urlKey (file.getD [])).or protocol
      let reboot := (settingText uploadOnRebootKey (file.getD [])).or url
      { uploadProtocol := store (protocol.getD []) s.uploadProtocol
        httplink := store (url.getD []) s.httplink
        uploadCheck := store (reboot.getD []) s.uploadCheck } := by
  cases file with
  | none => rfl
  | some dcminfo =>
      cases dcminfo with
      | nil => rfl
      | cons c rest =>
          have hprotocol := searchInto_eq uploadProtocolKey (c :: rest) none
          rw [Option.or_none, Option.getD_none] at hprotocol
          simp only [getDCMconfigDetails, List.length_cons, Nat.not_lt_of_le, Nat.succ_pos,
            Nat.succ_le_of_lt, if_false, hprotocol, searchInto_eq, Option.getD_some]

/-- The outputs are set from their own keys exactly if what is left of the keys before is
harmless. -/
theorem getDCMconfigDetails_iff (file : Option Text) (s : DcmSettings) :
    (getDCMconfigDetails file s).2 = expectedSettings (file.getD []) s ↔
      SettingsApart (file.getD []) s := by
  have hprotocol : store ((settingText uploadProtocolKey (file.getD [])).getD [])
      s.uploadProtocol = ownSetting uploadProtocolKey (file.getD []) s.uploadProtocol :=
    store_getD _ _
  rw [getDCMconfigDetails_eq]
  simp only [expectedSettings, DcmSettings.mk.injEq, hprotocol, true_and, ownSetting,
    store_or_iff]
  exact ⟨fun h => ⟨h.1, h.2⟩, fun h => ⟨h.httplink, h.uploadCheck⟩⟩

/-! ### A file with one key -/

theorem regexSearch_of_not_mem {key content : Text} {c : Char} (hkey : c ∈ key)
    (hcontent : c ∉ content) : regexSearch key content = none := by
  induction content with
  | nil => rfl
  | cons d rest ih =>
      rw [regexSearch, if_neg]
      · exact ih fun hrest => hcontent (List.mem_cons_of_mem d hrest)
      · exact fun h => hcontent (h.1.subset hkey)

theorem regexSearch_append {key line : Text} (hkey : key ≠ []) (hne : line ≠ [])
    (hline : '\n' ∉ line) : regexSearch key (key ++ line) = some line := by
  have hall : line.takeWhile (· ≠ '\n') = line :=
    List.takeWhile_eq_self_iff.mpr fun c hc => by
      have hc' : c ≠ '\n' := fun h => hline (h ▸ hc)
      simpa using hc'
  obtain ⟨c, rest, rfl⟩ := List.exists_cons_of_ne_nil hkey
  rw [List.cons_append, regexSearch, ← List.cons_append, List.drop_left, hall,
    if_pos ⟨List.prefix_append _ _, hne⟩]

theorem urlKey_mem_iff (c : Char) : c ∈ urlKey ↔
    c ∈ "LogUploadSettings:".toList ∨ c ∈ "UploadRepository:".toList ∨ c ∈ "URL=".toList := by
  unfold urlKey
  rw [List.mem_append, List.mem_append, or_assoc]

theorem not_mem_urlKey : 'P' ∉ urlKey ∧ 'O' ∉ urlKey := by
  rw [urlKey_mem_iff, urlKey_mem_iff]
  simp only [String.reduceToList]
  decide

theorem mem_uploadProtocolKey : 'P' ∈ uploadProtocolKey := by
  unfold uploadProtocolKey
  simp only [String.reduceToList]
  decide

theorem mem_uploadOnRebootKey : 'O' ∈ uploadOnRebootKey := by
  unfold uploadOnRebootKey
  simp only [String.reduceToList]
  decide

/-- `LogUploadSettings:UploadRepository:URL=u`: the link becomes the value of `uploadCheck` too. -/
theorem getDCMconfigDetails_leaks :
    (getDCMconfigDetails (some (urlKey ++ ['u'])) ⟨[], [], []⟩).2 = ⟨[], ['u'], ['u']⟩ ∧
      expectedSettings (urlKey ++ ['u']) ⟨[], [], []⟩ = ⟨[], ['u'], []⟩ := by
  have habsent : ∀ key c, c ∈ key → c ∉ urlKey → c ≠ 'u' →
      settingText key (urlKey ++ ['u']) = none := by
    intro key c hkey hurl hne
    rw [settingText, regexSearch_of_not_mem hkey (by simp [hurl, hne])]
    rfl
  have hprotocol := habsent _ _ mem_uploadProtocolKey not_mem_urlKey.1 (by decide)
  have hreboot := habsent _ _ mem_uploadOnRebootKey not_mem_urlKey.2 (by decide)
  have hurl : settingText urlKey (urlKey ++ ['u']) = some ['u'] := by
    have hmem : '=' ∈ urlKey := by
      rw [urlKey_mem_iff]
      simp only [String.reduceToList]
      decide
    have hne : urlKey ≠ [] := List.ne_nil_of_mem hmem
    rw [settingText, regexSearch_append hne (by decide) (by decide)]
    decide
  rw [getDCMconfigDetails_eq]
  simp only [Option.getD_some, expectedSettings, ownSetting, hprotocol, hreboot, hurl]
  decide

end DeviceAndDisplay.SystemServices.UploadLogs
