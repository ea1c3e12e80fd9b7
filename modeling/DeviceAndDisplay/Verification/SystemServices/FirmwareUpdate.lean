import DeviceAndDisplay.Model.SystemServices.FirmwareUpdate
import DeviceAndDisplay.Transition.Changes
import Mathlib.Tactic.Basic

/-! # What is told of a firmware update

The file of the download as a list of records, and what the calls answer after any history of events
and calls. -/

namespace DeviceAndDisplay.SystemServices.FirmwareUpdate

open Helpers Storage Transition

/-! ### Records -/

/-- A line of the file: a key and a value with a bar between them. -/
structure DownloadRecord where
  key : Text
  value : Text
  plain : ∀ c ∈ key ++ value, c ≠ '|' ∧ c ≠ '\n' ∧ c ≠ '\r' ∧ c ≠ nul

def DownloadRecord.line (r : DownloadRecord) : Text := r.key ++ '|' :: r.value

/-- The file with the records. -/
def written (records : List DownloadRecord) : Text :=
  terminate '\n' (records.map DownloadRecord.line)

/-- The value without the blanks at its ends, if the key ends with the field and more than one
character is left. -/
def told (field : Text) (r : DownloadRecord) : Option Text :=
  let value := trimBy isSpaceCharacter r.value
  if field <:+ r.key ∧ 1 < value.length then some value else none

/-- What is told of the field last. -/
def lastTold (field : Text) (records : List DownloadRecord) : Text :=
  (records.filterMap (told field)).getLastD []

/-- `Reboot` -/
def rebootField : Text := ['R', 'e', 'b', 'o', 'o', 't']

/-- `DnldVersn` -/
def versionField : Text := ['D', 'n', 'l', 'd', 'V', 'e', 'r', 's', 'n']

/-- `DnldURL` -/
def locationField : Text := ['D', 'n', 'l', 'd', 'U', 'R', 'L']

/-- `FailureReason` -/
def failureField : Text := ['F', 'a', 'i', 'l', 'u', 'r', 'e', 'R', 'e', 'a', 's', 'o', 'n']

namespace DownloadRecord

variable (r : DownloadRecord)

theorem bar_notMem_key : '|' ∉ r.key := fun h => (r.plain _ (List.mem_append_left _ h)).1 rfl

theorem bar_notMem_value : '|' ∉ r.value := fun h => (r.plain _ (List.mem_append_right _ h)).1 rfl

theorem newline_notMem_line : '\n' ∉ r.line := by
  intro h
  rw [line, List.mem_append, List.mem_cons] at h
  rcases h with h | h | h
  · exact (r.plain _ (List.mem_append_left _ h)).2.1 rfl
  · cases h
  · exact (r.plain _ (List.mem_append_right _ h)).2.1 rfl

theorem line_ne_nil : r.line ≠ [] := by simp [line]

/-- The bar is the only one. -/
theorem line_eq_iff {front back : Text} : r.line = front ++ '|' :: back ↔
    r.key = front ∧ r.value = back := by
  rw [line, List.append_cons_inj_of_notMem r.bar_notMem_key r.bar_notMem_value]
  simp

theorem infix_line_iff {field : Text} : field ++ ['|'] <:+: r.line ↔ field <:+ r.key := by
  constructor
  · intro h
    obtain ⟨front, back, heq⟩ := h
    have hline : r.line = (front ++ field) ++ '|' :: back := by
      rw [← heq]
      simp
    exact ⟨front, (r.line_eq_iff.mp hline).1.symm⟩
  · intro h
    obtain ⟨front, heq⟩ := h
    refine ⟨front, r.value, ?_⟩
    rw [line, ← heq]
    simp

theorem prefix_line_iff {field : Text} : field ++ ['|'] <+: r.line ↔ r.key = field := by
  constructor
  · intro h
    obtain ⟨back, heq⟩ := h
    have hline : r.line = field ++ '|' :: back := by
      rw [← heq]
      simp
    exact (r.line_eq_iff.mp hline).1
  · intro h
    refine ⟨r.value, ?_⟩
    rw [line, h]
    simp

end DownloadRecord

theorem contentLines_written (records : List DownloadRecord) :
    TimeZone.contentLines (written records) = records.map DownloadRecord.line := by
  rw [TimeZone.contentLines, written, readParts_terminate, List.filter_eq_self]
  · intro line hline
    obtain ⟨r, _, rfl⟩ := List.mem_map.mp hline
    simpa using r.line_ne_nil
  · intro line hline
    obtain ⟨r, _, rfl⟩ := List.mem_map.mp hline
    exact r.newline_notMem_line

/-! ### The fields of a line -/

theorem eraseDelimited_of_notMem {line : Text} (h : '|' ∉ line) : eraseDelimited line = line := by
  have hfind := find_separator_eq_none h
  rw [eraseDelimited]
  split
  · rename_i pos hpos
    rw [hfind] at hpos
    cases hpos
  · rfl

theorem eraseDelimited_line (r : DownloadRecord) : eraseDelimited r.line = r.value := by
  have hfind : find ['|'] r.line = some r.key.length := find_separator r.bar_notMem_key r.value
  rw [eraseDelimited]
  split
  · rename_i pos hpos
    rw [hfind] at hpos
    cases hpos
    have hdrop : r.line.drop (r.key.length + 1) = r.value := by
      rw [DownloadRecord.line]
      simp
    rw [hdrop, eraseDelimited_of_notMem r.bar_notMem_value]
  · rename_i hnone
    rw [hfind] at hnone
    cases hnone

variable {field : Text} {store : Text → DownloadedFirmware → DownloadedFirmware}
  {info : DownloadedFirmware} {r : DownloadRecord}

theorem readField_line (hfield : field <:+ r.key) :
    readField (field ++ ['|']) store (r.line, info) =
      (trimBy isSpaceCharacter r.value, ((told field r).map (store · info)).getD info) := by
  have hfind : (find (field ++ ['|']) r.line).isSome = true :=
    find_isSome_iff.mpr (r.infix_line_iff.mpr hfield)
  simp only [readField, told]
  rw [if_pos hfind, eraseDelimited_line]
  by_cases hlength : 1 < (trimBy isSpaceCharacter r.value).length
  · rw [if_pos hlength, if_pos ⟨hfield, hlength⟩]
    rfl
  · rw [if_neg hlength, if_neg fun h => hlength h.2]
    rfl

theorem readField_line_of_not (hfield : ¬ field <:+ r.key) :
    readField (field ++ ['|']) store (r.line, info) = (r.line, info) := by
  have hfind : ¬ (find (field ++ ['|']) r.line).isSome = true := fun h =>
    hfield (r.infix_line_iff.mp (find_isSome_iff.mp h))
  rw [readField, if_neg hfind]

/-- What is left of a line that was read has no label. -/
theorem readField_value :
    readField (field ++ ['|']) store (trimBy isSpaceCharacter r.value, info) =
      (trimBy isSpaceCharacter r.value, info) := by
  have hfind : ¬ (find (field ++ ['|']) (trimBy isSpaceCharacter r.value)).isSome = true := by
    intro h
    have hinfix := find_isSome_iff.mp h
    have hbar : '|' ∈ trimBy isSpaceCharacter r.value := hinfix.subset (by simp)
    have htrim : trimBy isSpaceCharacter r.value <:+: r.value :=
      (List.rdropWhile_prefix _ _).isInfix.trans (List.dropWhile_suffix _).isInfix
    exact r.bar_notMem_value (htrim.subset hbar)
  rw [readField, if_neg hfind]

theorem told_of_not (hfield : ¬ field <:+ r.key) : told field r = none :=
  if_neg fun h => hfield h.1

theorem suffix_of_told {value : Text} (h : told field r = some value) : field <:+ r.key := by
  by_contra hnot
  rw [told_of_not hnot] at h
  cases h

theorem cText_of_told {value : Text} (h : told field r = some value) : cText value = value := by
  simp only [told] at h
  split at h
  · cases h
    refine cText_of_nul_notMem fun hnul => ?_
    have htrim : nul ∈ r.value :=
      (List.dropWhile_suffix _).subset ((List.rdropWhile_prefix _ _).subset hnul)
    exact (r.plain _ (List.mem_append_right _ htrim)).2.2.2 rfl
  · cases h

/-- A key ends with one of the fields only. -/
theorem not_suffix_of_suffix {field' key : Text} (hfield : field <:+ key)
    (hlast : field'.getLast? ≠ field.getLast?) (hne : field ≠ []) (hne' : field' ≠ []) :
    ¬ field' <:+ key := by
  intro hfield'
  obtain ⟨front, rfl⟩ := hfield
  obtain ⟨front', heq⟩ := hfield'
  have hkey := congrArg List.getLast? heq
  rw [List.getLast?_append_of_ne_nil _ hne', List.getLast?_append_of_ne_nil _ hne] at hkey
  exact hlast hkey

/-- What a line of a record changes. -/
theorem readDownloadLine_line (latestEvent : ℤ) (info : DownloadedFirmware) (r : DownloadRecord) :
    readDownloadLine latestEvent info r.line =
      { downloadedFWVersion :=
          if 2 ≤ latestEvent then (told versionField r).getD info.downloadedFWVersion
          else info.downloadedFWVersion
        downloadedFWLocation :=
          if 2 ≤ latestEvent then (told locationField r).getD info.downloadedFWLocation
          else info.downloadedFWLocation
        isRebootDeferred := info.isRebootDeferred || (told rebootField r).any defersReboot } := by
  have hreboot : rebootLabel = rebootField ++ ['|'] := rfl
  have hversion : versionLabel = versionField ++ ['|'] := rfl
  have hlocation : locationLabel = locationField ++ ['|'] := rfl
  simp only [readDownloadLine, hreboot, hversion, hlocation]
  by_cases h₁ : rebootField <:+ r.key
  · have hno₂ : ¬ versionField <:+ r.key :=
      not_suffix_of_suffix h₁ (by decide) (by decide) (by decide)
    have hno₃ : ¬ locationField <:+ r.key :=
      not_suffix_of_suffix h₁ (by decide) (by decide) (by decide)
    rw [readField_line h₁, readField_value, readField_value, told_of_not hno₂, told_of_not hno₃]
    cases told rebootField r with
    | none => simp
    | some value => by_cases hdefers : defersReboot value = true <;> simp [storeReboot, hdefers]
  · rw [readField_line_of_not h₁, told_of_not h₁]
    by_cases h₂ : versionField <:+ r.key
    · have hno₃ : ¬ locationField <:+ r.key :=
        not_suffix_of_suffix h₂ (by decide) (by decide) (by decide)
      rw [readField_line h₂, readField_value, told_of_not hno₃]
      cases htold : told versionField r with
      | none => simp
      | some value =>
          have hvalue := cText_of_told htold
          by_cases hstate : 2 ≤ latestEvent <;> simp [storeVersion, hstate, hvalue]
    · rw [readField_line_of_not h₂, told_of_not h₂]
      by_cases h₃ : locationField <:+ r.key
      · rw [readField_line h₃]
        cases htold : told locationField r with
        | none => simp
        | some value =>
            have hvalue := cText_of_told htold
            by_cases hstate : 2 ≤ latestEvent <;> simp [storeLocation, hstate, hvalue]
      · rw [readField_line_of_not h₃, told_of_not h₃]
        simp

/-- The file tells of each field what it was told last. -/
theorem readDownloadFile_written (latestEvent : ℤ) (records : List DownloadRecord) :
    readDownloadFile latestEvent (written records) =
      { downloadedFWVersion := if 2 ≤ latestEvent then lastTold versionField records else []
        downloadedFWLocation := if 2 ≤ latestEvent then lastTold locationField records else []
        isRebootDeferred := records.any fun r => (told rebootField r).any defersReboot } := by
  rw [readDownloadFile, contentLines_written]
  have hlast : ∀ (field : Text) (records : List DownloadRecord) (r : DownloadRecord),
      lastTold field (records ++ [r]) = (told field r).getD (lastTold field records) := by
    intro field records r
    rw [lastTold, List.filterMap_append]
    cases htold : told field r with
    | none => simp [htold, lastTold]
    | some value => simp [htold]
  induction records using List.reverseRecOn with
  | nil => simp [lastTold]
  | append_singleton records r ih =>
      rw [List.map_append, List.foldl_append, ih]
      simp only [List.map_cons, List.map_nil, List.foldl_cons, List.foldl_nil]
      rw [readDownloadLine_line, hlast, hlast, List.any_append]
      by_cases hstate : 2 ≤ latestEvent <;> simp [hstate]

/-! ### The reason of a failure -/

/-- The value of the last record with the key. -/
def lastValue (key : Text) (records : List DownloadRecord) : Text :=
  ((records.filter fun r => r.key = key).map DownloadRecord.value).getLastD []

theorem failureText_line (r : DownloadRecord) :
    failureText r.line = if r.key = failureField then some r.value else none := by
  have hlabel : failureLabel = failureField ++ ['|'] := rfl
  have hstarts : failureLabel.isPrefixOf r.line = true ↔ r.key = failureField := by
    rw [List.isPrefixOf_iff_prefix, hlabel, r.prefix_line_iff]
  by_cases hkey : r.key = failureField
  · have hdrop : r.line.drop failureLabel.length = r.value := by
      rw [DownloadRecord.line, hkey]
      rfl
    have hnewline : '\n' ∉ r.value := fun h => (r.plain _ (List.mem_append_right _ h)).2.1 rfl
    have hreturn : '\r' ∉ r.value := fun h => (r.plain _ (List.mem_append_right _ h)).2.2.1 rfl
    simp only [failureText, hdrop]
    rw [if_pos ⟨hstarts.mpr hkey, hnewline, hreturn⟩, if_pos hkey]
  · simp only [failureText]
    rw [if_neg fun h => hkey (hstarts.mp h.1), if_neg hkey]

theorem lastFailureText_written (records : List DownloadRecord) :
    lastFailureText (written records) = lastValue failureField records := by
  rw [lastFailureText, contentLines_written]
  induction records using List.reverseRecOn with
  | nil => rfl
  | append_singleton records r ih =>
      rw [List.map_append, List.foldl_append, ih]
      simp only [List.map_cons, List.map_nil, List.foldl_cons, List.foldl_nil]
      rw [failureText_line, lastValue, lastValue, List.filter_append, List.map_append]
      by_cases hkey : r.key = failureField <;> simp [hkey]

/-! ### Histories -/

variable {criticalReboot : ℤ} {history : List FirmwareAction} {s : FirmwareUpdate}

/-- The state after the events and calls. -/
def performed (criticalReboot : ℤ) (history : List FirmwareAction) : FirmwareUpdate :=
  history.foldl (fun s action => (firmwareUpdateStep criticalReboot s action).2) {}

/-- The state of the update that an event tells, unless a critical reboot is due. -/
def toldState (criticalReboot : ℤ) : FirmwareAction → Option ℤ
  | .systemStateChanged (.firmwareUpdateState state) =>
      if criticalReboot = state then none else some state
  | _ => none

/-- Actions that tell of a reboot. -/
def tellsReboot (criticalReboot : ℤ) : FirmwareAction → Bool
  | .systemStateChanged (.firmwareUpdateState state) => criticalReboot = state
  | .fireFirmwarePendingReboot reset => reset
  | _ => false

/-- The file of the version at a call that needs the version. -/
def versionRead : FirmwareAction → Option (Option Text)
  | .getDownloadedFirmwareInfo files =>
      if files.download = none ∨ files.opens = true then some files.version else none
  | _ => none

def Notification.stateChange : Notification → Option ℤ
  | .firmwareUpdateStateChange state => some state
  | _ => none

/-- What the history says of the state. -/
structure Tells (criticalReboot : ℤ) (history : List FirmwareAction) (s : FirmwareUpdate) :
    Prop where
  latest : s.latestEvent = current id 0 (history.filterMap (toldState criticalReboot))
  changed : s.notifications.filterMap Notification.stateChange =
    (changes id 0 (history.filterMap (toldState criticalReboot))).map Prod.snd
  reboots : s.notifications.count (.firmwarePendingReboot 600) =
    history.countP (tellsReboot criticalReboot)
  version : s.stbVersionString = ((history.filterMap versionRead).head?.map readVersion).getD []

theorem token_ne_nil {line token : Text} (h : versionOf line = some token) : token ≠ [] := by
  simp only [versionOf] at h
  split at h
  · obtain ⟨hne, heq⟩ := Option.ite_none_left_eq_some.mp h
    exact Option.some.inj heq ▸ hne
  · cases h

theorem readVersion_ne_nil (file : Option Text) : readVersion file ≠ [] := by
  cases file with
  | none => decide
  | some content =>
      rw [readVersion]
      cases hfound : (TimeZone.contentLines content).findSome? versionOf with
      | none => decide
      | some token =>
          obtain ⟨line, _, hversion⟩ := List.exists_of_findSome?_eq_some hfound
          exact token_ne_nil hversion

/-- What a step does with the state and with what is published. -/
structure Effect (criticalReboot : ℤ) (s : FirmwareUpdate) (action : FirmwareAction)
    (t : FirmwareUpdate) : Prop where
  latest : t.latestEvent = (toldState criticalReboot action).getD s.latestEvent
  changed : t.notifications.filterMap Notification.stateChange =
    s.notifications.filterMap Notification.stateChange ++
      (changes id s.latestEvent (toldState criticalReboot action).toList).map Prod.snd
  reboots : t.notifications.count (.firmwarePendingReboot 600) =
    s.notifications.count (.firmwarePendingReboot 600) +
      [action].countP (tellsReboot criticalReboot)
  version : t.stbVersionString =
    if s.stbVersionString = [] then ((versionRead action).map readVersion).getD []
    else s.stbVersionString

/-- An action that tells nothing. -/
theorem effect_silent {action : FirmwareAction} (hstate : toldState criticalReboot action = none)
    (hreboot : tellsReboot criticalReboot action = false) (hread : versionRead action = none) :
    Effect criticalReboot s action s := by
  constructor
  · rw [hstate]
    rfl
  · rw [hstate]
    simp [changes]
  · simp [hreboot]
  · rw [hread]
    split
    · assumption
    · rfl

theorem effect_pendingReboot {action : FirmwareAction}
    (hstate : toldState criticalReboot action = none)
    (hreboot : tellsReboot criticalReboot action = true) (hread : versionRead action = none) :
    Effect criticalReboot s action (s.onFirmwarePendingReboot 600) := by
  rw [FirmwareUpdate.onFirmwarePendingReboot, FirmwareUpdate.notify]
  constructor
  · rw [hstate]
    rfl
  · rw [hstate]
    simp [changes, Notification.stateChange]
  · simp [hreboot]
  · rw [hread]
    split
    · assumption
    · rfl

theorem effect_updateState {state : ℤ} (hne : criticalReboot ≠ state) :
    Effect criticalReboot s (.systemStateChanged (.firmwareUpdateState state))
      (s.onFirmwareUpdateStateChange state) := by
  have htold : toldState criticalReboot (.systemStateChanged (.firmwareUpdateState state)) =
      some state := if_neg hne
  have hversion : ∀ text : Text, text = if text = [] then [] else text := by
    intro text
    split
    · assumption
    · rfl
  rw [FirmwareUpdate.onFirmwareUpdateStateChange]
  by_cases hsame : state = s.latestEvent
  · rw [if_neg (not_not.mpr hsame)]
    constructor
    · rw [htold, hsame]
      rfl
    · rw [htold]
      simp [changes, hsame]
    · simp [tellsReboot, hne]
    · exact hversion _
  · rw [if_pos hsame, FirmwareUpdate.notify]
    constructor
    · rw [htold]
      rfl
    · rw [htold]
      simp [changes, hsame, Notification.stateChange]
    · simp [tellsReboot, hne]
    · exact hversion _

theorem effect_clock {state : ℤ} :
    Effect criticalReboot s (.systemStateChanged (.timeSource state))
      (s.systemStateChanged criticalReboot (.timeSource state)) := by
  have hsilent : Effect criticalReboot s (.systemStateChanged (.timeSource state)) s :=
    effect_silent rfl rfl rfl
  rw [FirmwareUpdate.systemStateChanged]
  split
  · constructor
    · exact hsilent.latest
    · rw [← hsilent.changed]
      simp [FirmwareUpdate.notify, Notification.stateChange]
    · rw [← hsilent.reboots]
      simp [FirmwareUpdate.notify]
    · exact hsilent.version
  · exact hsilent

/-- A call that needs the version. -/
theorem effect_readsVersion {files : FirmwareFiles}
    (hreads : files.download = none ∨ files.opens = true) :
    Effect criticalReboot s (.getDownloadedFirmwareInfo files)
      (s.getStbVersionString files.version).2 := by
  have hread : versionRead (.getDownloadedFirmwareInfo files) = some files.version := if_pos hreads
  rw [FirmwareUpdate.getStbVersionString]
  by_cases hempty : s.stbVersionString = []
  · rw [if_neg (not_not.mpr hempty)]
    constructor
    · rfl
    · simp [toldState, changes]
    · simp [tellsReboot]
    · rw [if_pos hempty, hread]
      rfl
  · rw [if_pos hempty]
    constructor
    · rfl
    · simp [toldState, changes]
    · simp [tellsReboot]
    · rw [if_neg hempty]

theorem effect_step (s : FirmwareUpdate) (action : FirmwareAction) :
    Effect criticalReboot s action (firmwareUpdateStep criticalReboot s action).2 := by
  cases action with
  | systemStateChanged event =>
      cases event with
      | firmwareUpdateState state =>
          rw [firmwareUpdateStep, FirmwareUpdate.systemStateChanged]
          by_cases hcritical : criticalReboot = state
          · rw [if_pos hcritical]
            exact effect_pendingReboot (if_pos hcritical) (decide_eq_true hcritical) rfl
          · rw [if_neg hcritical]
            exact effect_updateState hcritical
      | timeSource state => exact effect_clock
      | other => exact effect_silent rfl rfl rfl
  | fireFirmwarePendingReboot reset =>
      cases reset with
      | true => exact effect_pendingReboot rfl rfl rfl
      | false => exact effect_silent rfl rfl rfl
  | getFirmwareUpdateState => exact effect_silent rfl rfl rfl
  | getDownloadedFirmwareInfo files =>
      simp only [firmwareUpdateStep, FirmwareUpdate.getDownloadedFirmwareInfo]
      cases hdownload : files.download with
      | none => exact effect_readsVersion (.inl hdownload)
      | some content =>
          by_cases hopens : files.opens = true
          · simp only [hopens, if_true]
            exact effect_readsVersion (.inr hopens)
          · have hread : versionRead (.getDownloadedFirmwareInfo files) = none :=
              if_neg (by simp [hdownload, hopens])
            simp only [hopens, Bool.false_eq_true, if_false]
            exact effect_silent rfl rfl hread
  | getLastFirmwareFailureReason files => exact effect_silent rfl rfl rfl

theorem current_toList (start : ℤ) (states : List ℤ) (state : Option ℤ) :
    current id start (states ++ state.toList) = state.getD (current id start states) := by
  cases state with
  | none => rw [Option.toList_none, List.append_nil, Option.getD_none]
  | some state => rw [Option.toList_some, current_concat, Option.getD_some, id]

theorem filterMap_singleton {α β : Type*} (f : α → Option β) (x : α) :
    [x].filterMap f = (f x).toList := by
  cases h : f x <;> simp [h]

theorem Tells.step {t : FirmwareUpdate} {action : FirmwareAction}
    (h : Tells criticalReboot history s) (heffect : Effect criticalReboot s action t) :
    Tells criticalReboot (history ++ [action]) t := by
  have hlatest := h.latest
  have hchanged := h.changed
  have hreboots := h.reboots
  have hversion := h.version
  constructor
  · rw [heffect.latest, hlatest, List.filterMap_append, filterMap_singleton, current_toList]
  · rw [heffect.changed, hchanged, hlatest, List.filterMap_append, filterMap_singleton,
      changes_append, List.map_append]
  · rw [heffect.reboots, hreboots, List.countP_append]
  · rw [heffect.version, List.filterMap_append, List.head?_append, filterMap_singleton]
    cases hreads : (history.filterMap versionRead).head? with
    | none =>
        rw [hreads] at hversion
        have hstored : s.stbVersionString = [] := hversion
        rw [if_pos hstored]
        cases versionRead action <;> rfl
    | some first =>
        rw [hreads] at hversion
        have hstored : s.stbVersionString = readVersion first := hversion
        rw [if_neg (hstored ▸ readVersion_ne_nil first), hstored]
        rfl

theorem tells_performed (criticalReboot : ℤ) (history : List FirmwareAction) :
    Tells criticalReboot history (performed criticalReboot history) := by
  induction history using List.reverseRecOn with
  | nil => exact ⟨rfl, rfl, rfl, rfl⟩
  | append_singleton history action ih =>
      rw [performed, List.foldl_append]
      exact ih.step (effect_step _ action)

/-- The version is that of the first file that was read. -/
theorem Tells.getStbVersionString (h : Tells criticalReboot history s) (file : Option Text) :
    (s.getStbVersionString file).1 = readVersion ((history.filterMap versionRead).headD file) := by
  have hversion := h.version
  rw [FirmwareUpdate.getStbVersionString, List.headD_eq_head?_getD]
  cases hreads : (history.filterMap versionRead).head? with
  | none =>
      rw [hreads] at hversion
      have hstored : s.stbVersionString = [] := hversion
      rw [if_neg (not_not.mpr hstored), Option.getD_none]
  | some first =>
      rw [hreads] at hversion
      have hstored : s.stbVersionString = readVersion first := hversion
      rw [if_pos (hstored ▸ readVersion_ne_nil first), Option.getD_some, ← hstored]

/-! ### What the calls answer -/

end DeviceAndDisplay.SystemServices.FirmwareUpdate
