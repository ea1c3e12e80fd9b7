import DeviceAndDisplay.Model.DisplayInfo.DisplayUpdates
import Mathlib.Data.List.Nodup

/-! # The messages of udev

A message is decoded whatever is in the receive buffer behind it, and calls the callback of each
device type that it tells. -/

namespace DeviceAndDisplay.DisplayInfo

open Storage

/-- A message of udev: the fields of its header in their order, what may stand between the header
and the properties, and the properties. -/
structure UdevMessage where
  /-- `prefix`, `magic` and `header_size` -/
  start : Bytes
  /-- The hashes of the subsystem and of the device type. -/
  hashes : Bytes
  filterTagBloomHi : UInt32
  filterTagBloomLo : UInt32
  gap : Bytes
  properties : List Bytes
  length_start : start.length = 16
  length_hashes : hashes.length = 8
  no_nul : ∀ property ∈ properties, 0 ∉ property
  length_lt : headerSize + gap.length + (terminate 0 properties).length < 2 ^ 32

namespace UdevMessage

def header (message : UdevMessage) : UdevMonitorNetlinkHeader where
  propertiesOff := .ofNat (headerSize + message.gap.length)
  propertiesLen := .ofNat (terminate 0 message.properties).length
  filterTagBloomHi := message.filterTagBloomHi
  filterTagBloomLo := message.filterTagBloomLo

/-- The bytes of the header. -/
def head (message : UdevMessage) : Bytes :=
  message.start ++ (word message.header.propertiesOff ++ (word message.header.propertiesLen ++
    (message.hashes ++ (word message.filterTagBloomHi ++ word message.filterTagBloomLo))))

/-- The bytes of the datagram. -/
def frame (message : UdevMessage) : Bytes :=
  message.head ++ (message.gap ++ terminate 0 message.properties)

/-- The observer does not look at messages with a tag filter. -/
def Untagged (message : UdevMessage) : Prop :=
  message.filterTagBloomHi = 0 ∧ message.filterTagBloomLo = 0

instance (message : UdevMessage) : Decidable message.Untagged :=
  inferInstanceAs (Decidable (_ ∧ _))

/-- The message is about a device of the type. -/
def Tells (message : UdevMessage) (devtype : Bytes) : Prop :=
  message.Untagged ∧ ascii "DEVTYPE=" ++ devtype ∈ message.properties

instance (message : UdevMessage) (devtype : Bytes) : Decidable (message.Tells devtype) :=
  inferInstanceAs (Decidable (_ ∧ _))

variable (message : UdevMessage)

theorem length_head : message.head.length = headerSize := by
  simp [head, headerSize, message.length_start, message.length_hashes]

theorem length_properties_lt : (terminate 0 message.properties).length < 2 ^ 32 := by
  have h := message.length_lt
  omega

theorem toNat_propertiesOff :
    message.header.propertiesOff.toNat = headerSize + message.gap.length := by
  have h := message.length_lt
  rw [header, UInt32.toNat_ofNat']
  omega

theorem toNat_propertiesLen :
    message.header.propertiesLen.toNat = (terminate 0 message.properties).length := by
  have h := message.length_properties_lt
  rw [header, UInt32.toNat_ofNat']
  omega

theorem readHeader_head (rest : Bytes) : readHeader (message.head ++ rest) = message.header := by
  have drop_start : ∀ n bytes, (message.start ++ bytes).drop (16 + n) = bytes.drop n := by
    intro n bytes
    rw [← message.length_start, List.drop_length_add_append]
  have drop_hashes : ∀ n bytes, (message.hashes ++ bytes).drop (8 + n) = bytes.drop n := by
    intro n bytes
    rw [← message.length_hashes, List.drop_length_add_append]
  have drop_word : ∀ w n bytes, (word w ++ bytes).drop (4 + n) = bytes.drop n := by
    intro w n bytes
    rw [← length_word w, List.drop_length_add_append]
  simp only [readHeader, head, List.append_assoc]
  rw [drop_start 0, drop_start 4, drop_start 16, drop_start 20, drop_word _ 0, drop_word _ 12,
    drop_word _ 8, drop_hashes 0, drop_word _ 16, drop_word _ 12, drop_hashes 4, drop_word _ 0]
  simp only [List.drop_zero, readWord_word]
  rfl

end UdevMessage

namespace UdevObserver

variable {callbacks : List Bytes}

theorem receiveData_frame (callbacks : List Bytes) (message : UdevMessage) (rest : Bytes) :
    receiveData callbacks (message.frame ++ rest) =
      some (callbacks.filter fun devtype => message.Tells devtype) := by
  have hlength : ¬ (message.frame ++ rest).length < headerSize := by
    rw [UdevMessage.frame, List.length_append, List.length_append, message.length_head]
    omega
  have hheader : readHeader (message.frame ++ rest) = message.header := by
    rw [UdevMessage.frame, List.append_assoc, message.readHeader_head]
  have hvalues : (message.frame ++ rest).drop message.header.propertiesOff.toNat =
      terminate 0 message.properties ++ rest := by
    rw [message.toNat_propertiesOff, UdevMessage.frame, List.append_assoc, List.append_assoc,
      ← message.length_head, List.drop_length_add_append, List.drop_left]
  have hread : getMessageValues (terminate 0 message.properties ++ rest)
      message.header.propertiesLen.toNat = some message.properties := by
    rw [message.toNat_propertiesLen]
    exact readBlock_terminate message.no_nul le_rfl rest
  have htag : (message.header.filterTagBloomHi = 0 ∧ message.header.filterTagBloomLo = 0) =
      message.Untagged := rfl
  simp only [receiveData, hlength, if_false, hheader, hvalues, hread, htag]
  by_cases h : message.Untagged
  · simp [h, UdevMessage.Tells]
  · simp [h, UdevMessage.Tells]

/-- What is read stays within the buffer: a string ends at the last of the bytes that the header
announces or behind it. -/
def Within (dataFrame : Bytes) : Prop :=
  let header := readHeader dataFrame
  headerSize ≤ dataFrame.length ∧
    (header.filterTagBloomHi = 0 ∧ header.filterTagBloomLo = 0 → header.propertiesLen = 0 ∨
      0 ∈ dataFrame.drop (header.propertiesOff.toNat + (header.propertiesLen.toNat - 1)))

theorem isSome_receiveData_iff (callbacks : List Bytes) (dataFrame : Bytes) :
    (receiveData callbacks dataFrame).isSome ↔ Within dataFrame := by
  have hread := @isSome_readBlock_iff UInt8 _ 0 _ _
    (dataFrame.drop (readHeader dataFrame).propertiesOff.toNat)
    (le_refl (readHeader dataFrame).propertiesLen.toNat)
  rw [List.drop_drop] at hread
  rw [← UInt32.toNat_zero, UInt32.toNat_inj] at hread
  rw [Within, ← hread]
  by_cases hlength : dataFrame.length < headerSize
  · simp [receiveData, hlength, not_le.mpr hlength]
  · by_cases htag : (readHeader dataFrame).filterTagBloomHi = 0 ∧
        (readHeader dataFrame).filterTagBloomLo = 0
    · simp [receiveData, hlength, htag, getMessageValues, not_lt.mp hlength, Option.isSome_bind]
    · simp [receiveData, hlength, htag, not_lt.mp hlength]

theorem nodup_register (devtype : Bytes) (h : callbacks.Nodup) :
    (register devtype callbacks).2.Nodup := by
  rw [register]
  split_ifs with hmem
  · exact h
  · rw [← List.concat_eq_append]
    exact (List.nodup_concat callbacks devtype).mpr ⟨hmem, h⟩

theorem mem_register {devtype other : Bytes} :
    other ∈ (register devtype callbacks).2 ↔ other ∈ callbacks ∨ other = devtype := by
  rw [register]
  split_ifs with hmem
  · exact (or_iff_left_of_imp fun h => h ▸ hmem).symm
  · simp

/-- The callbacks after registrations, which start without any. -/
def registerAll (devtypes : List Bytes) : List Bytes :=
  devtypes.foldl (fun callbacks devtype => (register devtype callbacks).2) []

theorem nodup_registerAll (devtypes : List Bytes) : (registerAll devtypes).Nodup := by
  induction devtypes using List.reverseRecOn with
  | nil => exact List.nodup_nil
  | append_singleton devtypes devtype ih =>
      rw [registerAll, List.foldl_append]
      exact nodup_register devtype ih

theorem mem_registerAll {devtypes : List Bytes} {devtype : Bytes} :
    devtype ∈ registerAll devtypes ↔ devtype ∈ devtypes := by
  induction devtypes using List.reverseRecOn with
  | nil => exact Iff.rfl
  | append_singleton devtypes last ih =>
      rw [registerAll, List.foldl_append, List.mem_append, ← ih, List.mem_singleton]
      exact mem_register

/-- After any registrations, a message calls the callback of each registered device type that it
tells, once and no other, whatever is in the buffer behind it. A datagram of any content is read
without leaving the buffer exactly when a string ends at the end of its properties or behind it. -/
theorem udev_messages_call_devtypes (devtypes : List Bytes) :
    (∀ (message : UdevMessage) (rest : Bytes), ∃ called,
      receiveData (registerAll devtypes) (message.frame ++ rest) = some called ∧ called.Nodup ∧
        ∀ devtype, devtype ∈ called ↔ devtype ∈ devtypes ∧ message.Tells devtype) ∧
      ∀ dataFrame, (receiveData (registerAll devtypes) dataFrame).isSome ↔ Within dataFrame := by
  refine ⟨fun message rest => ?_, isSome_receiveData_iff _⟩
  refine ⟨_, receiveData_frame _ message rest, (nodup_registerAll devtypes).filter _, ?_⟩
  intro devtype
  rw [List.mem_filter, mem_registerAll, decide_eq_true_iff]

end UdevObserver

end DeviceAndDisplay.DisplayInfo
