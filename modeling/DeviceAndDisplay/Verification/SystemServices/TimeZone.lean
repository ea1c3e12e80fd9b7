import DeviceAndDisplay.Model.SystemServices.TimeZone

/-! # What setTimeZoneDST reports

The call reports success without a zone and for any path that exists, and does so too if the file of
the accuracy cannot be opened. The event carries what was to be stored. -/

namespace DeviceAndDisplay.SystemServices.TimeZone

open Helpers Storage

variable {env : TimeZoneEnv} {timeZone : Text} {accuracy : Option Text} {files : TimeZoneFiles}

/-! ### The promises -/

/-- A file that can be read. -/
def readable : FileIo where
  accepted := 0
  flushed := 0

def storedTimeZone (files : TimeZoneFiles) : Text := getTimeZoneDSTHelper readable files.timeZone

def storedAccuracy (files : TimeZoneFiles) : Text :=
  getTimeZoneAccuracyDSTHelper readable files.accuracy

/-- The event for a change of the files, if it changes what is stored. -/
def storedChange (before after : TimeZoneFiles) : Option TimeZoneChanged :=
  if storedTimeZone before = storedTimeZone after ∧
      storedAccuracy before = storedAccuracy after then
    none
  else
    some ⟨storedTimeZone before, storedTimeZone after, storedAccuracy before, storedAccuracy after⟩

/-- The zone is a regular file strictly inside the directory of the zones. -/
def NamesZone (tree : FileTree) (timeZone : Text) : Prop :=
  ∃ directory entry, tree zoneinfoDir = some directory ∧
    tree (cStr (zoneinfoDir ++ ['/'] ++ timeZone)) = some entry ∧ entry.kind = .regular ∧
    directory.location <+: entry.location ∧ directory.location ≠ entry.location

structure ReportsTruthfully (env : TimeZoneEnv) (timeZone : Option Text) (files : TimeZoneFiles)
    (outcome : TimeZoneOutcome) : Prop where
  success : outcome.success = true → ∃ zone, timeZone = some zone ∧ NamesZone env.tree zone ∧
    getTimeZoneDST readable readable outcome.files =
      ⟨zone, some (storedAccuracy outcome.files), true⟩
  failed : outcome.success = false → outcome.files.timeZone = files.timeZone
  event : outcome.event = storedChange files outcome.files

/-! ### When they are kept -/

/-- The zone that the call compares with. -/
def oldTimeZone (env : TimeZoneEnv) (files : TimeZoneFiles) : Text :=
  getTimeZoneDSTHelper env.timeZoneIo files.timeZone

/-- The accuracy that the call compares with. -/
def oldAccuracy (env : TimeZoneEnv) (files : TimeZoneFiles) : Text :=
  getTimeZoneAccuracyDSTHelper env.accuracyIo files.accuracy

/-- The accuracy that is to be stored. -/
def newAccuracy (env : TimeZoneEnv) (accuracy : Option Text) (files : TimeZoneFiles) : Text :=
  acceptedAccuracy (oldAccuracy env files) accuracy

/-- The whole text gets into the file. -/
def FileIo.Completes (io : FileIo) (text : Text) : Prop :=
  text.length ≤ io.accepted ∧ text.length ≤ io.flushed

/-- `fwrite` does not take the whole accuracy. -/
def ShortAccuracy (env : TimeZoneEnv) (accuracy : Option Text) (files : TimeZoneFiles) : Prop :=
  newAccuracy env accuracy files ≠ oldAccuracy env files ∧ env.accuracyIo.opens = true ∧
    env.accuracyIo.accepted < (newAccuracy env accuracy files).length

/-- What a supported zone needs besides. -/
structure ZoneStorable (env : TimeZoneEnv) (timeZone : Text) (accuracy : Option Text)
    (files : TimeZoneFiles) : Prop where
  /-- What is replaced can be read. -/
  reads : oldTimeZone env files ≠ timeZone ∨
      newAccuracy env accuracy files ≠ oldAccuracy env files →
    oldTimeZone env files = storedTimeZone files ∧ oldAccuracy env files = storedAccuracy files
  /-- A new zone is one line and gets into its file. -/
  writesZone : oldTimeZone env files ≠ timeZone → env.timeZoneIo.opens = true ∧
    env.timeZoneIo.Completes timeZone ∧ '\n' ∉ timeZone ∧ ¬ ShortAccuracy env accuracy files
  /-- A new accuracy gets into its file, or may be lost because it is the default. -/
  writesAccuracy : newAccuracy env accuracy files ≠ oldAccuracy env files →
    env.accuracyIo.opens = true ∧ (newAccuracy env accuracy files = tzAccuracyInitial ∨
      env.accuracyIo.Completes (newAccuracy env accuracy files))
  /-- The zone is in the database, and an old one is the first line of its file. -/
  zone : ¬ ShortAccuracy env accuracy files → NamesZone env.tree timeZone ∧
    (oldTimeZone env files = timeZone →
      getTimeZoneDST readable readable files = ⟨timeZone, some (storedAccuracy files), true⟩)

/-! ### Contents -/

theorem FileIo.written_eq_iff (io : FileIo) (text : Text) :
    io.written text = text ↔ io.Completes text := by
  rw [FileIo.written, FileIo.Completes, List.take_take]
  constructor
  · intro h
    have hlen := congrArg List.length h
    rw [List.length_take] at hlen
    omega
  · rintro ⟨haccepted, hflushed⟩
    exact List.take_of_length_le (by omega)

theorem headD_readParts {text : Text} (h : '\n' ∉ text) :
    (readParts '\n' text).headD [] = text := by
  by_cases hempty : text = []
  · rw [hempty]
    rfl
  · rw [readParts_of_not_mem h hempty]
    rfl

/-- What is stored after a part of a zone was written is the zone only if it is all of it, and one
line. -/
theorem headD_contentLines_iff {text zone : Text} (h : text <+: zone) :
    (contentLines text).headD [] = zone ↔ text = zone ∧ '\n' ∉ zone := by
  constructor
  · intro hhead
    cases hlines : contentLines text with
    | nil =>
        rw [hlines] at hhead
        obtain rfl : [] = zone := hhead
        exact ⟨List.prefix_nil.mp h, List.not_mem_nil⟩
    | cons part lines =>
        rw [hlines] at hhead
        obtain rfl : part = zone := hhead
        have hfilter : part ∈ contentLines text := by
          rw [hlines]
          exact List.mem_cons_self
        have hpart : part ∈ readParts '\n' text := (List.mem_filter.mp hfilter).1
        have hlen := length_le_of_mem_readParts hpart
        exact ⟨h.eq_of_length_le hlen, not_mem_of_mem_readParts hpart⟩
  · rintro ⟨rfl, hline⟩
    by_cases hempty : text = []
    · rw [hempty]
      rfl
    · rw [contentLines, readParts_of_not_mem hline hempty]
      simp [hempty]

theorem FileIo.written_prefix (io : FileIo) (text : Text) : io.written text <+: text := by
  rw [FileIo.written, List.take_take]
  exact List.take_prefix _ text

theorem storedTimeZone_written_iff (io : FileIo) (zone : Text) :
    getTimeZoneDSTHelper readable (some (io.written zone)) = zone ↔
      io.Completes zone ∧ '\n' ∉ zone := by
  rw [← io.written_eq_iff zone]
  exact headD_contentLines_iff (io.written_prefix zone)

theorem not_mem_of_isAccuracy {accuracy : Text} (h : isAccuracy accuracy = true) :
    '\n' ∉ accuracy := by
  simp only [isAccuracy, Bool.or_eq_true, decide_eq_true_eq] at h
  rcases h with (rfl | rfl) | rfl <;> decide

/-- A part of the default, if it is not all of it, is read as the default. -/
theorem getTimeZoneAccuracyDSTHelper_initial :
    ∀ text ∈ tzAccuracyInitial.inits,
      getTimeZoneAccuracyDSTHelper readable (some text) = tzAccuracyInitial := by
  decide

theorem getTimeZoneAccuracyDSTHelper_readable (text : Text) :
    getTimeZoneAccuracyDSTHelper readable (some text) =
      if isAccuracy ((contentLines text).headD []) then (contentLines text).headD []
      else tzAccuracyInitial := rfl

theorem storedAccuracy_written_iff (io : FileIo) {accuracy : Text}
    (h : isAccuracy accuracy = true) :
    getTimeZoneAccuracyDSTHelper readable (some (io.written accuracy)) = accuracy ↔
      accuracy = tzAccuracyInitial ∨ io.Completes accuracy := by
  have hinit := io.written_prefix accuracy
  constructor
  · intro hread
    rw [getTimeZoneAccuracyDSTHelper_readable] at hread
    split at hread
    · have hwritten := ((headD_contentLines_iff hinit).mp hread).1
      exact Or.inr ((io.written_eq_iff accuracy).mp hwritten)
    · exact Or.inl hread.symm
  · rintro (rfl | hcompletes)
    · exact getTimeZoneAccuracyDSTHelper_initial _ ((List.mem_inits _ _).mpr hinit)
    · have hwritten := (io.written_eq_iff accuracy).mpr hcompletes
      have hhead := (headD_contentLines_iff hinit).mpr ⟨hwritten, not_mem_of_isAccuracy h⟩
      rw [getTimeZoneAccuracyDSTHelper_readable, hhead, if_pos h]

theorem isAccuracy_newAccuracy
    (h : newAccuracy env accuracy files ≠ oldAccuracy env files) :
    isAccuracy (newAccuracy env accuracy files) = true := by
  cases accuracy with
  | none => exact absurd rfl h
  | some accuracy =>
      by_cases hvalid : isAccuracy accuracy = true
      · have hnew : newAccuracy env (some accuracy) files = accuracy := if_pos hvalid
        rwa [hnew]
      · exact absurd (if_neg hvalid) h

/-! ### What a call stores -/

theorem writeTimeZone_fst_iff (io : FileIo) (old zone : Text) (file : Option Text) :
    (writeTimeZone io old zone file).1 = true ↔
      (old ≠ zone → io.opens = true ∧ zone.length ≤ io.accepted) := by
  by_cases hold : old = zone <;> by_cases hopens : io.opens = true <;>
    simp [writeTimeZone, hold, hopens]

theorem writeTimeZone_file (io : FileIo) (old zone : Text) (file : Option Text) :
    (writeTimeZone io old zone file).2.2 =
      if old ≠ zone ∧ io.opens = true then some (io.written zone) else file := by
  by_cases hold : old = zone <;> by_cases hopens : io.opens = true <;>
    simp [writeTimeZone, hold, hopens]

/-- The zone that is stored after the call is the one that was asked for. -/
theorem writeTimeZone_stores_iff (io : FileIo) {old : Text} {file : Option Text} (zone : Text)
    (hold : old = getTimeZoneDSTHelper readable file) :
    getTimeZoneDSTHelper readable (writeTimeZone io old zone file).2.2 = zone ↔
      (old ≠ zone → io.opens = true ∧ io.Completes zone ∧ '\n' ∉ zone) := by
  rw [writeTimeZone_file]
  split
  · rename_i hwrites
    rw [storedTimeZone_written_iff]
    exact ⟨fun h _ => ⟨hwrites.2, h⟩, fun h => (h hwrites.1).2⟩
  · rename_i hkeeps
    rw [← hold]
    constructor
    · exact fun heq hne => absurd heq hne
    · intro h
      by_contra hne
      exact hkeeps ⟨hne, (h hne).1⟩

theorem writeAccuracy_fst_iff (io : FileIo) (old accuracy : Text) (file : Option Text) :
    (writeAccuracy io old accuracy file).1 = true ↔
      ¬ (accuracy ≠ old ∧ io.opens = true ∧ io.accepted < accuracy.length) := by
  by_cases hwrites : accuracy ≠ old ∧ io.opens = true
  · simp [writeAccuracy, hwrites]
  · rw [writeAccuracy, if_neg hwrites]
    exact iff_of_true rfl fun h => hwrites ⟨h.1, h.2.1⟩

/-- The accuracy that is stored after the call is the one that is reported. -/
theorem writeAccuracy_stores_iff (io : FileIo) {old accuracy : Text} {file : Option Text}
    (hold : old = getTimeZoneAccuracyDSTHelper readable file)
    (hvalid : accuracy ≠ old → isAccuracy accuracy = true) :
    getTimeZoneAccuracyDSTHelper readable (writeAccuracy io old accuracy file).2 = accuracy ↔
      (accuracy ≠ old →
        io.opens = true ∧ (accuracy = tzAccuracyInitial ∨ io.Completes accuracy)) := by
  by_cases hwrites : accuracy ≠ old ∧ io.opens = true
  · rw [writeAccuracy, if_pos hwrites]
    have hread := storedAccuracy_written_iff io (hvalid hwrites.1)
    exact ⟨fun h _ => ⟨hwrites.2, hread.mp h⟩, fun h => hread.mpr (h hwrites.1).2⟩
  · rw [writeAccuracy, if_neg hwrites, ← hold]
    constructor
    · exact fun heq hne => absurd heq.symm hne
    · intro h
      by_contra hne
      exact hwrites ⟨Ne.symm hne, (h (Ne.symm hne)).1⟩

/-! ### The event -/

theorem storedChange_eq_some_iff {before after : TimeZoneFiles} {change : TimeZoneChanged} :
    storedChange before after = some change ↔
      (change.oldTimeZone ≠ change.newTimeZone ∨ change.oldAccuracy ≠ change.newAccuracy) ∧
        change = ⟨storedTimeZone before, storedTimeZone after, storedAccuracy before,
          storedAccuracy after⟩ := by
  rw [storedChange]
  split
  · rename_i hsame
    refine iff_of_false (by simp) ?_
    rintro ⟨hchanged, rfl⟩
    exact hchanged.elim (· hsame.1) (· hsame.2)
  · rename_i hchanged
    rw [Option.some.injEq]
    constructor
    · rintro rfl
      exact ⟨not_and_or.mp hchanged, rfl⟩
    · exact fun h => h.2.symm

theorem storeTimeZone_unchanged (hold : oldTimeZone env files = zone)
    (hnew : newAccuracy env accuracy files = oldAccuracy env files) :
    storeTimeZone env zone accuracy files = { success := true, files } := by
  unfold oldTimeZone at hold
  unfold newAccuracy oldAccuracy at hnew
  simp [storeTimeZone, writeTimeZone, writeAccuracy, hold, hnew]

theorem storeTimeZone_event (hchanged : oldTimeZone env files ≠ zone ∨
      newAccuracy env accuracy files ≠ oldAccuracy env files) :
    (storeTimeZone env zone accuracy files).event =
      some ⟨oldTimeZone env files, zone, oldAccuracy env files,
        newAccuracy env accuracy files⟩ :=
  if_pos (hchanged.imp_right Ne.symm)

theorem storeTimeZone_event_iff :
    (storeTimeZone env zone accuracy files).event =
        storedChange files (storeTimeZone env zone accuracy files).files ↔
      (oldTimeZone env files ≠ zone ∨ newAccuracy env accuracy files ≠ oldAccuracy env files →
        oldTimeZone env files = storedTimeZone files ∧
          oldAccuracy env files = storedAccuracy files) ∧
      (oldTimeZone env files ≠ zone → env.timeZoneIo.opens = true ∧
        env.timeZoneIo.Completes zone ∧ '\n' ∉ zone) ∧
      (newAccuracy env accuracy files ≠ oldAccuracy env files → env.accuracyIo.opens = true ∧
        (newAccuracy env accuracy files = tzAccuracyInitial ∨
          env.accuracyIo.Completes (newAccuracy env accuracy files))) := by
  by_cases hchanged : oldTimeZone env files ≠ zone ∨
      newAccuracy env accuracy files ≠ oldAccuracy env files
  · have hdiffer : oldTimeZone env files ≠ zone ∨
        oldAccuracy env files ≠ newAccuracy env accuracy files := hchanged.imp_right Ne.symm
    have hzone (hold : oldTimeZone env files = storedTimeZone files) :=
      writeTimeZone_stores_iff env.timeZoneIo zone hold
    have hvalid : newAccuracy env accuracy files ≠ oldAccuracy env files →
        isAccuracy (newAccuracy env accuracy files) = true := isAccuracy_newAccuracy
    have haccuracy (hold : oldAccuracy env files = storedAccuracy files) :=
      writeAccuracy_stores_iff env.accuracyIo hold hvalid
    rw [storeTimeZone_event hchanged, eq_comm, storedChange_eq_some_iff, TimeZoneChanged.mk.injEq]
    constructor
    · rintro ⟨-, hold, hstored, holdAccuracy, hstoredAccuracy⟩
      exact ⟨fun _ => ⟨hold, holdAccuracy⟩, (hzone hold).mp hstored.symm,
        (haccuracy holdAccuracy).mp hstoredAccuracy.symm⟩
    · rintro ⟨hreads, hwritesZone, hwritesAccuracy⟩
      obtain ⟨hold, holdAccuracy⟩ := hreads hchanged
      exact ⟨hdiffer, hold, ((hzone hold).mpr hwritesZone).symm, holdAccuracy,
        ((haccuracy holdAccuracy).mpr hwritesAccuracy).symm⟩
  · rw [not_or, not_not, not_not] at hchanged
    obtain ⟨hold, hnew⟩ := hchanged
    rw [storeTimeZone_unchanged hold hnew]
    refine iff_of_true (if_pos ⟨rfl, rfl⟩).symm ⟨fun h => ?_, (absurd hold ·), (absurd hnew ·)⟩
    exact h.elim (absurd hold) (absurd hnew)

/-! ### The call -/

theorem getTimeZoneDST_readable_iff :
    getTimeZoneDST readable readable files = ⟨zone, some (storedAccuracy files), true⟩ ↔
      (files.timeZone.elim tzDefault fun content => (readParts '\n' content).headD []) = zone := by
  unfold getTimeZoneDST
  cases files.timeZone with
  | none => simp [storedAccuracy]
  | some content => simp [storedAccuracy, readable]

theorem storeTimeZone_success_iff :
    (storeTimeZone env zone accuracy files).success = true ↔
      (oldTimeZone env files ≠ zone →
        env.timeZoneIo.opens = true ∧ zone.length ≤ env.timeZoneIo.accepted) ∧
      ¬ ShortAccuracy env accuracy files := by
  have hsuccess : (storeTimeZone env zone accuracy files).success =
      ((writeTimeZone env.timeZoneIo (oldTimeZone env files) zone files.timeZone).1 &&
        (writeAccuracy env.accuracyIo (oldAccuracy env files) (newAccuracy env accuracy files)
          files.accuracy).1) := rfl
  rw [hsuccess, Bool.and_eq_true, writeTimeZone_fst_iff, writeAccuracy_fst_iff]
  rfl

theorem storeTimeZone_timeZone :
    (storeTimeZone env zone accuracy files).files.timeZone =
      if oldTimeZone env files ≠ zone ∧ env.timeZoneIo.opens = true then
        some (env.timeZoneIo.written zone)
      else
        files.timeZone :=
  writeTimeZone_file env.timeZoneIo (oldTimeZone env files) zone files.timeZone

/-- A zone whose write is cut short by the one of the accuracy is in its file nevertheless. -/
theorem ReportsTruthfully.not_shortAccuracy
    (h : ReportsTruthfully env (some zone) files (storeTimeZone env zone accuracy files))
    (hold : oldTimeZone env files = storedTimeZone files) (hne : oldTimeZone env files ≠ zone)
    (hopens : env.timeZoneIo.opens = true) (hcompletes : env.timeZoneIo.Completes zone)
    (hline : '\n' ∉ zone) : ¬ ShortAccuracy env accuracy files := by
  intro hshort
  have hfailed : (storeTimeZone env zone accuracy files).success = false := by
    rw [Bool.eq_false_iff]
    exact fun hsuccess => (storeTimeZone_success_iff.mp hsuccess).2 hshort
  have hkept := h.failed hfailed
  rw [storeTimeZone_timeZone, if_pos ⟨hne, hopens⟩] at hkept
  have hstored : storedTimeZone files = zone := by
    rw [storedTimeZone, ← hkept]
    exact (storedTimeZone_written_iff env.timeZoneIo zone).mpr ⟨hcompletes, hline⟩
  exact hne (hold.trans hstored)

theorem ReportsTruthfully.zoneStorable
    (h : ReportsTruthfully env (some zone) files (storeTimeZone env zone accuracy files)) :
    ZoneStorable env zone accuracy files := by
  obtain ⟨hreads, hwritesZone, hwritesAccuracy⟩ := storeTimeZone_event_iff.mp h.event
  refine ⟨hreads, fun hne => ?_, hwritesAccuracy, fun hshort => ?_⟩
  · obtain ⟨hopens, hcompletes, hline⟩ := hwritesZone hne
    have hold := (hreads (Or.inl hne)).1
    exact ⟨hopens, hcompletes, hline, h.not_shortAccuracy hold hne hopens hcompletes hline⟩
  · have hsuccess : (storeTimeZone env zone accuracy files).success = true :=
      storeTimeZone_success_iff.mpr
        ⟨fun hne => ⟨(hwritesZone hne).1, (hwritesZone hne).2.1.1⟩, hshort⟩
    obtain ⟨zone', hzone, hnames, hget⟩ := h.success hsuccess
    obtain rfl := Option.some.inj hzone
    refine ⟨hnames, fun hold => ?_⟩
    rw [getTimeZoneDST_readable_iff] at hget ⊢
    rwa [storeTimeZone_timeZone, if_neg fun hwrites => hwrites.1 hold] at hget

theorem reportsTruthfully_storeTimeZone (h : ZoneStorable env zone accuracy files) :
    ReportsTruthfully env (some zone) files (storeTimeZone env zone accuracy files) where
  success := by
    intro hsuccess
    obtain ⟨-, hshort⟩ := storeTimeZone_success_iff.mp hsuccess
    obtain ⟨hnames, hget⟩ := h.zone hshort
    refine ⟨zone, rfl, hnames, ?_⟩
    rw [getTimeZoneDST_readable_iff, storeTimeZone_timeZone]
    by_cases hold : oldTimeZone env files = zone
    · rw [if_neg fun hwrites => hwrites.1 hold]
      exact getTimeZoneDST_readable_iff.mp (hget hold)
    · obtain ⟨hopens, hcompletes, hline, -⟩ := h.writesZone hold
      rw [if_pos ⟨hold, hopens⟩, (env.timeZoneIo.written_eq_iff zone).mpr hcompletes]
      exact headD_readParts hline
  failed := by
    intro hfailed
    rw [storeTimeZone_timeZone, if_neg]
    rintro ⟨hne, hopens⟩
    obtain ⟨-, hcompletes, -, hshort⟩ := h.writesZone hne
    have hsuccess : (storeTimeZone env zone accuracy files).success = true :=
      storeTimeZone_success_iff.mpr ⟨fun _ => ⟨hopens, hcompletes.1⟩, hshort⟩
    rw [hfailed] at hsuccess
    cases hsuccess
  event := by
    refine storeTimeZone_event_iff.mpr ⟨h.reads, fun hne => ?_, h.writesAccuracy⟩
    obtain ⟨hopens, hcompletes, hline, -⟩ := h.writesZone hne
    exact ⟨hopens, hcompletes, hline⟩

/-- The test of the format passes every zone. -/
theorem setTimeZoneDST_some (env : TimeZoneEnv) (zone : Text) (accuracy : Option Text)
    (files : TimeZoneFiles) :
    setTimeZoneDST env (some zone) accuracy files =
      if isSupported env.tree zone then storeTimeZone env zone accuracy files
      else { success := false, error := some .fileNotPresent, files } := by
  by_cases h : zone = universal <;> simp [setTimeZoneDST, h]

theorem reportsTruthfully_refused (env : TimeZoneEnv) (timeZone : Option Text)
    (files : TimeZoneFiles) (error : Option TimeZoneError) :
    ReportsTruthfully env timeZone files { success := false, error, files } where
  success h := by cases h
  failed _ := rfl
  event := (if_pos ⟨rfl, rfl⟩).symm

theorem setTimeZoneDST_reportsTruthfully_iff (env : TimeZoneEnv) (timeZone accuracy : Option Text)
    (files : TimeZoneFiles) :
    ReportsTruthfully env timeZone files (setTimeZoneDST env timeZone accuracy files) ↔
      ∃ zone, timeZone = some zone ∧
        (isSupported env.tree zone = true → ZoneStorable env zone accuracy files) := by
  cases timeZone with
  | none =>
      refine iff_of_false (fun h => ?_) (by simp)
      obtain ⟨zone, hzone, -⟩ := h.success rfl
      cases hzone
  | some zone =>
      rw [setTimeZoneDST_some]
      by_cases hsupported : isSupported env.tree zone = true
      · rw [if_pos hsupported]
        constructor
        · exact fun h => ⟨zone, rfl, fun _ => h.zoneStorable⟩
        · rintro ⟨zone', hzone, h⟩
          obtain rfl := Option.some.inj hzone
          exact reportsTruthfully_storeTimeZone (h hsupported)
      · rw [if_neg hsupported]
        exact iff_of_true (reportsTruthfully_refused env (some zone) files _)
          ⟨zone, rfl, fun h => absurd h hsupported⟩

/-- `America`. -/
def america : Text := ['A', 'm', 'e', 'r', 'i', 'c', 'a']

/-- The names on the way to `zoneinfoDir`. -/
def zoneinfoLocation : List Text :=
  [['u', 's', 'r'], ['s', 'h', 'a', 'r', 'e'], ['z', 'o', 'n', 'e', 'i', 'n', 'f', 'o']]

/-- The directory of the zones with that of America in it. -/
def americaOnly : FileTree := fun path =>
  if path = zoneinfoDir ∨ path = zoneinfoDir ++ ['/'] then some ⟨.directory, zoneinfoLocation⟩
  else if path = zoneinfoDir ++ ['/'] ++ america then
    some ⟨.directory, zoneinfoLocation ++ [america]⟩
  else none

def americaEnv : TimeZoneEnv where
  tree := americaOnly
  timeZoneIo := { accepted := 4096, flushed := 4096 }
  accuracyIo := { accepted := 4096, flushed := 4096 }

/-- A directory is stored as a zone. -/
theorem setTimeZoneDST_stores_directory :
    ¬ ReportsTruthfully americaEnv (some america) ⟨none, none⟩
      (setTimeZoneDST americaEnv (some america) none ⟨none, none⟩) := by
  intro h
  have hsuccess : (setTimeZoneDST americaEnv (some america) none ⟨none, none⟩).success = true := by
    decide
  obtain ⟨zone, hzone, ⟨directory, entry, -, hentry, hregular, -⟩, -⟩ := h.success hsuccess
  obtain rfl := Option.some.inj hzone
  have hdirectory : americaEnv.tree (cStr (zoneinfoDir ++ ['/'] ++ america)) =
      some ⟨.directory, zoneinfoLocation ++ [america]⟩ := by
    decide
  rw [hdirectory] at hentry
  obtain rfl := Option.some.inj hentry
  cases hregular

end DeviceAndDisplay.SystemServices.TimeZone
