import DeviceAndDisplay.Model.DisplayInfo.KmsSetup
import DeviceAndDisplay.Storage.Selection
import Mathlib.Data.Nat.Basic

/-! # Accesses of kms_setup

The encoders are read with the index of a crtc, and a connector is taken for granted. -/

namespace DeviceAndDisplay.DisplayInfo.Kms

open Storage

variable {env : DrmEnv} {res : DrmModeRes} {kms : KmsCtx} {ids before after : List UInt32}
  {id : UInt32} {connector : DrmModeConnector}

/-- The query for the connector answers with one that is connected and has modes. -/
def UsableId (env : DrmEnv) (id : UInt32) : Prop :=
  ∃ connector, env.getConnector id = some connector ∧ connector.Usable

/-- No fault, and a connector that is connected and has modes is stored if there is one. -/
def SetupSafe (env : DrmEnv) (res : DrmModeRes) : Prop :=
  ∃ kms, kmsSetup env res = .ok kms ∧
    ((∃ id ∈ res.connectors, UsableId env id) →
      ∃ id ∈ res.connectors, ∃ connector,
        env.getConnector id = some connector ∧ kms.connector = some connector ∧ connector.Usable)

/-- The connector of the first usable answer, or of the last answer if none is usable. -/
def ChosenConnector (env : DrmEnv) (ids : List UInt32) (connector : DrmModeConnector) : Prop :=
  (∃ id, IsFirst (UsableId env) ids id ∧ env.getConnector id = some connector) ∨
    (∀ id ∈ ids, ¬ UsableId env id) ∧
      ∃ id, ids.getLast? = some id ∧ env.getConnector id = some connector

/-- The crtc, which has an index below `count`, is a possible one of the encoder. -/
def HasCrtcBelow (env : DrmEnv) (count : ℕ) (encoder : DrmModeEncoder) : Prop :=
  ∃ j < count, encoder.possibleCrtcs &&& env.bit j ≠ 0

/-- The encoder is that of the connector, or has a crtc. -/
def SelectedEncoder (env : DrmEnv) (res : DrmModeRes) (connector : DrmModeConnector)
    (id : UInt32) : Prop :=
  ∃ encoder, env.getEncoder id = some encoder ∧
    (encoder.encoderId = connector.encoderId ∨ HasCrtcBelow env res.crtcs.length encoder)

/-- The first selected encoder is that of the connector, or has a crtc whose index is one of an
encoder, too. -/
def CrtcFits (env : DrmEnv) (res : DrmModeRes) (connector : DrmModeConnector)
    (ids : List UInt32) : Prop :=
  ∀ id, IsFirst (SelectedEncoder env res connector) ids id →
    ∀ encoder, env.getEncoder id = some encoder →
      encoder.encoderId = connector.encoderId ∨
        HasCrtcBelow env (min res.crtcs.length res.encoders.length) encoder

/-! ### Reads -/

theorem readAt_of_append (h : ids = before ++ id :: after) :
    readAt ids before.length = .ok id := by
  simp [readAt, h]

theorem readAt_eq_ok_of_lt {j : ℕ} (hj : j < ids.length) : ∃ id ∈ ids, readAt ids j = .ok id :=
  ⟨ids[j], List.getElem_mem hj, by simp [readAt, hj]⟩

theorem readAt_eq_error {j : ℕ} (hj : ids.length ≤ j) : readAt ids j = .error .outOfBounds := by
  simp [readAt, hj]

/-! ### The connector -/

theorem ChosenConnector.usable (h : ChosenConnector env ids connector)
    (husable : ∃ id ∈ ids, UsableId env id) :
    ∃ id ∈ ids, env.getConnector id = some connector ∧ connector.Usable := by
  rcases h with ⟨id, hfirst, hconnector⟩ | ⟨hnone, _⟩
  · obtain ⟨found, hfound, hconn⟩ := hfirst.holds
    rw [hconnector] at hfound
    obtain rfl := Option.some_inj.mp hfound
    exact ⟨id, hfirst.mem, hconnector, hconn⟩
  · obtain ⟨id, hid, husable⟩ := husable
    exact absurd husable (hnone id hid)

theorem exists_chosenConnector (husable : ∃ id ∈ ids, UsableId env id) :
    ∃ connector, ChosenConnector env ids connector := by
  obtain ⟨id, hid, husable⟩ := husable
  obtain ⟨first, hfirst⟩ := exists_isFirst hid husable
  obtain ⟨connector, hconnector, _⟩ := hfirst.holds
  exact ⟨connector, .inl ⟨first, hfirst, hconnector⟩⟩

theorem not_chosenConnector_nil : ¬ ChosenConnector env [] connector := by
  rintro (⟨id, hfirst, _⟩ | ⟨_, id, hlast, _⟩)
  · exact not_isFirst_nil hfirst
  · cases hlast

theorem chosenConnector_cons :
    ChosenConnector env (id :: ids) connector ↔
      UsableId env id ∧ env.getConnector id = some connector ∨
        ¬ UsableId env id ∧ (ChosenConnector env ids connector ∨
          ids = [] ∧ env.getConnector id = some connector) := by
  unfold ChosenConnector
  simp only [isFirst_cons]
  by_cases husable : UsableId env id
  · simp [husable]
  · cases ids with
    | nil => simp [husable, not_isFirst_nil]
    | cons next ids => simp [husable]

/-- The loop reads below the count, and finds the chosen connector. -/
theorem findConnector_eq (env : DrmEnv) (before after : List UInt32)
    (initial : Option DrmModeConnector) (hids : ids = before ++ after) :
    ∃ found, findConnector env ids initial (List.range' before.length after.length) = .ok found ∧
      ∀ connector, found = some connector ↔
        ChosenConnector env after connector ∨ after = [] ∧ initial = some connector := by
  induction after generalizing before initial with
  | nil => exact ⟨initial, rfl, fun connector => by simp [not_chosenConnector_nil]⟩
  | cons id after ih =>
      have hnext : ids = (before ++ [id]) ++ after := by rw [hids, List.append_cons]
      have hlength : before.length + 1 = (before ++ [id]).length := by simp
      rw [List.length_cons, List.range'_succ, findConnector, readAt_of_append hids, hlength]
      simp only [chosenConnector_cons, reduceCtorEq, false_and, or_false]
      cases hquery : env.getConnector id with
      | none =>
          have hnot : ¬ UsableId env id := by simp [UsableId, hquery]
          obtain ⟨found, hfound, hiff⟩ := ih _ none hnext
          exact ⟨found, hfound, by simpa [hnot] using hiff⟩
      | some answer =>
          simp only
          split
          · rename_i husable
            have huse : UsableId env id := ⟨answer, hquery, husable⟩
            exact ⟨some answer, rfl, fun connector => by simp [huse]⟩
          · rename_i husable
            have hnot : ¬ UsableId env id := by
              rintro ⟨connector, hconnector, huse⟩
              rw [hquery] at hconnector
              obtain rfl := Option.some_inj.mp hconnector
              exact husable huse
            obtain ⟨found, hfound, hiff⟩ := ih _ (some answer) hnext
            exact ⟨found, hfound, by simpa [hnot] using hiff⟩

theorem kmsSetupConnector_eq (env : DrmEnv) (res : DrmModeRes) :
    ∃ kms, kmsSetupConnector env res {} = .ok kms ∧
      ∀ connector, kms.connector = some connector ↔
        ChosenConnector env res.connectors connector := by
  have hids : res.connectors = [] ++ res.connectors := rfl
  obtain ⟨found, hfound, hiff⟩ := findConnector_eq env [] res.connectors none hids
  rw [List.length_nil, ← List.range_eq_range'] at hfound
  rw [kmsSetupConnector, hfound]
  simp only [reduceCtorEq, and_false, or_false] at hiff
  cases found with
  | none => exact ⟨{}, rfl, hiff⟩
  | some connector => exact ⟨_, rfl, hiff⟩

/-! ### The encoder -/

theorem firstCrtc_eq_some {encoder : DrmModeEncoder} {j : ℕ}
    (h : firstCrtc env res encoder = some j) :
    j < res.crtcs.length ∧ encoder.possibleCrtcs &&& env.bit j ≠ 0 ∧
      ∀ i < j, encoder.possibleCrtcs &&& env.bit i = 0 := by
  obtain ⟨hj, hbit, hfirst⟩ := (List.find?_range_eq_some).mp h
  refine ⟨List.mem_range.mp hbit, by simpa using hj, fun i hi => ?_⟩
  simpa using hfirst i hi

theorem firstCrtc_eq_none {encoder : DrmModeEncoder} (h : firstCrtc env res encoder = none) :
    ¬ HasCrtcBelow env res.crtcs.length encoder := by
  rintro ⟨j, hj, hbit⟩
  have hnone := List.find?_eq_none.mp h j (List.mem_range.mpr hj)
  exact hnone (by simpa using hbit)

/-- The first crtc has the least index, so that it decides. -/
theorem hasCrtcBelow_min_iff {encoder : DrmModeEncoder} {j count : ℕ}
    (h : firstCrtc env res encoder = some j) :
    HasCrtcBelow env (min res.crtcs.length count) encoder ↔ j < count := by
  obtain ⟨hj, hbit, hfirst⟩ := firstCrtc_eq_some h
  constructor
  · rintro ⟨i, hi, hother⟩
    by_contra hcount
    exact hother (hfirst i (by omega))
  · intro hcount
    exact ⟨j, by omega, hbit⟩

theorem hasCrtcBelow_of_min {encoder : DrmModeEncoder} {count : ℕ}
    (h : HasCrtcBelow env (min res.crtcs.length count) encoder) :
    HasCrtcBelow env res.crtcs.length encoder := by
  obtain ⟨j, hj, hbit⟩ := h
  exact ⟨j, by omega, hbit⟩

theorem takeCrtc_isOk_iff (hencoders : ∀ id ∈ res.encoders, (env.getEncoder id).isSome) {j : ℕ} :
    (∃ kms', takeCrtc env res kms j = .ok kms') ↔ j < res.encoders.length := by
  constructor
  · rintro ⟨kms', hkms'⟩
    by_contra hj
    rw [takeCrtc, readAt_eq_error (by omega)] at hkms'
    cases hkms'
  · intro hj
    obtain ⟨id, hid, hread⟩ := readAt_eq_ok_of_lt hj
    obtain ⟨encoder, hencoder⟩ := Option.isSome_iff_exists.mp (hencoders id hid)
    rw [takeCrtc, hread]
    simp only [hencoder]
    exact ⟨_, rfl⟩

theorem takeCrtc_connector {kms' : KmsCtx} {j : ℕ} (h : takeCrtc env res kms j = .ok kms') :
    kms'.connector = kms.connector := by
  unfold takeCrtc at h
  split at h
  · cases h
  · split at h
    · cases h
    · cases h
      rfl

/-- The encoders leave the connector as it is. -/
theorem findEncoder_connector {kms' : KmsCtx} (indices : List ℕ) (kms : KmsCtx)
    (h : findEncoder env res kms indices = .ok kms') : kms'.connector = kms.connector := by
  induction indices generalizing kms with
  | nil =>
      cases h
      rfl
  | cons i indices ih =>
      rw [findEncoder] at h
      split at h
      · cases h
      · split at h
        · cases h
          rfl
        · split at h
          · cases h
          · split at h
            · cases h
              rfl
            · split at h
              · exact takeCrtc_connector h
              · have hrest := ih _ h
                exact hrest

theorem crtcFits_nil : CrtcFits env res connector [] := fun _ hfirst =>
  absurd hfirst not_isFirst_nil

theorem crtcFits_cons {encoder : DrmModeEncoder} (hencoder : env.getEncoder id = some encoder) :
    CrtcFits env res connector (id :: ids) ↔
      encoder.encoderId = connector.encoderId ∨
        HasCrtcBelow env (min res.crtcs.length res.encoders.length) encoder ∨
        ¬ HasCrtcBelow env res.crtcs.length encoder ∧ CrtcFits env res connector ids := by
  have hselected : SelectedEncoder env res connector id ↔
      encoder.encoderId = connector.encoderId ∨ HasCrtcBelow env res.crtcs.length encoder := by
    simp [SelectedEncoder, hencoder]
  have hbelow : HasCrtcBelow env (min res.crtcs.length res.encoders.length) encoder →
      HasCrtcBelow env res.crtcs.length encoder := hasCrtcBelow_of_min
  unfold CrtcFits
  simp only [isFirst_cons]
  by_cases hsel : SelectedEncoder env res connector id
  · have hcase := hselected.mp hsel
    simp only [hsel, true_and, not_true_eq_false, false_and, or_false, forall_eq, hencoder,
      Option.some_inj, forall_eq']
    tauto
  · have hcase := hselected.not.mp hsel
    rw [not_or] at hcase
    simp [hsel, hcase.1, hcase.2, mt hbelow hcase.2]

/-- The loop reads below the count, and an encoder that is queried again has to be there. -/
theorem findEncoder_isOk_iff (hencoders : ∀ id ∈ res.encoders, (env.getEncoder id).isSome)
    (before after : List UInt32) (kms : KmsCtx) (hids : res.encoders = before ++ after)
    (hconnector : kms.connector = some connector) :
    (∃ kms', findEncoder env res kms (List.range' before.length after.length) = .ok kms') ↔
      CrtcFits env res connector after := by
  induction after generalizing before kms with
  | nil => exact iff_of_true ⟨kms, rfl⟩ crtcFits_nil
  | cons id after ih =>
      have hnext : res.encoders = (before ++ [id]) ++ after := by rw [hids, List.append_cons]
      have hlength : before.length + 1 = (before ++ [id]).length := by simp
      have hmem : id ∈ res.encoders := by simp [hids]
      obtain ⟨encoder, hencoder⟩ := Option.isSome_iff_exists.mp (hencoders id hmem)
      rw [List.length_cons, List.range'_succ, findEncoder, readAt_of_append hids, hlength,
        crtcFits_cons hencoder]
      simp only [hencoder, hconnector]
      by_cases hown : encoder.encoderId = connector.encoderId
      · simp [hown]
      · simp only [hown, if_false, false_or]
        cases hcrtc : firstCrtc env res encoder with
        | some j =>
            obtain ⟨hj, hbit, _⟩ := firstCrtc_eq_some hcrtc
            have hhas : HasCrtcBelow env res.crtcs.length encoder := ⟨j, hj, hbit⟩
            rw [hasCrtcBelow_min_iff hcrtc]
            simpa [hhas] using takeCrtc_isOk_iff hencoders
        | none =>
            have hnot := firstCrtc_eq_none hcrtc
            have hbelow : ¬ HasCrtcBelow env (min res.crtcs.length res.encoders.length) encoder :=
              mt hasCrtcBelow_of_min hnot
            -- the connector has been rewritten in the context of the next pass
            have hrest := ih _ { kms with connector := some connector, encoder := some encoder }
              hnext rfl
            simpa [hnot, hbelow] using hrest

theorem kmsSetupEncoder_of_connector
    (hencoders : ∀ id ∈ res.encoders, (env.getEncoder id).isSome)
    (hconnector : kms.connector = some connector) :
    (∃ kms', kmsSetupEncoder env res kms = .ok kms') ↔
      CrtcFits env res connector res.encoders := by
  rw [kmsSetupEncoder, List.range_eq_range']
  exact findEncoder_isOk_iff hencoders [] res.encoders kms rfl hconnector

/-- Without a connector, the first encoder is compared through a null pointer. -/
theorem kmsSetupEncoder_of_no_connector
    (hencoders : ∀ id ∈ res.encoders, (env.getEncoder id).isSome)
    (hconnector : kms.connector = none) :
    (∃ kms', kmsSetupEncoder env res kms = .ok kms') ↔ res.encoders = [] := by
  unfold kmsSetupEncoder
  cases hids : res.encoders with
  | nil => exact iff_of_true ⟨kms, rfl⟩ rfl
  | cons id ids =>
      obtain ⟨encoder, hencoder⟩ := Option.isSome_iff_exists.mp (hencoders id (by simp [hids]))
      refine iff_of_false ?_ (by simp)
      rintro ⟨kms', hkms'⟩
      rw [List.length_cons, List.range_succ_eq_map, findEncoder, hids] at hkms'
      simp only [readAt, List.getElem?_cons_zero, hencoder, hconnector, reduceCtorEq] at hkms'

/-! ### The whole setup -/

theorem kmsSetupCrtc_connector (env : DrmEnv) (kms : KmsCtx) :
    (kmsSetupCrtc env kms).connector = kms.connector := by
  unfold kmsSetupCrtc
  split
  · rfl
  · split
    · rfl
    · split <;> rfl

theorem kmsSetup_eq_ok_iff {last : KmsCtx} :
    kmsSetup env res = .ok last ↔
      ∃ kms, kmsSetupConnector env res {} = .ok kms ∧
        ∃ kms', kmsSetupEncoder env res kms = .ok kms' ∧ last = kmsSetupCrtc env kms' := by
  unfold kmsSetup
  cases hkms : kmsSetupConnector env res {} with
  | error fault => simp
  | ok kms =>
      cases hkms' : kmsSetupEncoder env res kms with
      | error fault => simp [hkms']
      | ok kms' => simp [hkms', eq_comm]

/-- Only a fault makes the setup miss a usable connector. -/
theorem setupSafe_iff_isOk (env : DrmEnv) (res : DrmModeRes) :
    SetupSafe env res ↔ ∃ kms, kmsSetup env res = .ok kms := by
  constructor
  · intro h
    obtain ⟨kms, hkms, _⟩ := h
    exact ⟨kms, hkms⟩
  · intro h
    obtain ⟨last, hlast⟩ := h
    obtain ⟨kms, hkms, kms', hkms', rfl⟩ := kmsSetup_eq_ok_iff.mp hlast
    refine ⟨_, hlast, fun husable => ?_⟩
    obtain ⟨first, hfirst, hchosen⟩ := kmsSetupConnector_eq env res
    rw [hkms] at hfirst
    obtain rfl := Except.ok.inj hfirst
    obtain ⟨connector, hconnector⟩ := exists_chosenConnector husable
    obtain ⟨id, hid, hanswer, huse⟩ := hconnector.usable husable
    refine ⟨id, hid, connector, hanswer, ?_, huse⟩
    rw [kmsSetupCrtc_connector, findEncoder_connector _ _ hkms', hchosen]
    exact hconnector

/-- `kms_setup` stays inside its resources exactly if a connector is stored before an encoder is
looked at, and the crtc that is taken has the index of an encoder. -/
theorem setupSafe_iff (env : DrmEnv) (res : DrmModeRes)
    (hencoders : ∀ id ∈ res.encoders, (env.getEncoder id).isSome) :
    SetupSafe env res ↔
      (res.encoders = [] ∨ ∃ connector, ChosenConnector env res.connectors connector) ∧
      ∀ connector, ChosenConnector env res.connectors connector →
        CrtcFits env res connector res.encoders := by
  obtain ⟨kms, hkms, hchosen⟩ := kmsSetupConnector_eq env res
  have hok : (∃ last, kmsSetup env res = .ok last) ↔
      ∃ kms', kmsSetupEncoder env res kms = .ok kms' := by
    simp [kmsSetup_eq_ok_iff, hkms]
  rw [setupSafe_iff_isOk, hok]
  cases hconnector : kms.connector with
  | none =>
      have hno : ∀ connector, ¬ ChosenConnector env res.connectors connector := by
        intro connector h
        rw [(hchosen connector).mpr h] at hconnector
        cases hconnector
      rw [kmsSetupEncoder_of_no_connector hencoders hconnector]
      simp [hno]
  | some connector =>
      have hmine := (hchosen connector).mp hconnector
      rw [kmsSetupEncoder_of_connector hencoders hconnector]
      constructor
      · intro hfits
        refine ⟨.inr ⟨connector, hmine⟩, fun other hother => ?_⟩
        have hsome := (hchosen other).mpr hother
        rw [hconnector] at hsome
        obtain rfl := Option.some_inj.mp hsome
        exact hfits
      · intro h
        exact h.2 connector hmine

/-! ### A headless device -/

/-- One encoder, and no connector. -/
def headlessRes : DrmModeRes := { connectors := [], encoders := [1], crtcs := [] }

def headlessEnv : DrmEnv where
  getConnector _ := none
  getEncoder id := some { encoderId := id, crtcId := 0, possibleCrtcs := 0 }
  getCrtc _ := none
  wideShift _ := 0

/-- The hypothesis of the theorem holds, and its condition is that there is no encoder. -/
theorem setupSafe_iff_headless :
    SetupSafe headlessEnv headlessRes ↔
      (headlessRes.encoders = [] ∨
        ∃ connector, ChosenConnector headlessEnv headlessRes.connectors connector) ∧
      ∀ connector, ChosenConnector headlessEnv headlessRes.connectors connector →
        CrtcFits headlessEnv headlessRes connector headlessRes.encoders :=
  setupSafe_iff headlessEnv headlessRes fun _ _ => rfl

/-- The encoder is compared with a connector that is not there. -/
theorem not_setupSafe_headless : ¬ SetupSafe headlessEnv headlessRes := by
  rintro ⟨kms, hkms, _⟩
  have hfault : kmsSetup headlessEnv headlessRes = .error .nullConnector := rfl
  rw [hfault] at hkms
  cases hkms

end DeviceAndDisplay.DisplayInfo.Kms
