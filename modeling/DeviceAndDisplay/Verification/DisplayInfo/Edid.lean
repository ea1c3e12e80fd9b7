import DeviceAndDisplay.Model.DisplayInfo.Edid
import Mathlib.Data.List.Infix

/-! # The buffer of EDID

The DeviceSettings implementation keeps within the caller's buffer. The Linux one copies all bytes
it has, and does so only for a buffer that is long enough. -/

namespace DeviceAndDisplay.DisplayInfo

open Storage

/-- The buffer contract: only the buffer is written, the length is that of the part of the EDID
that fits, and this part is what the buffer holds. -/
structure RespectsBuffer (edid : Bytes) (length : UInt16) (call : EdidCall) : Prop where
  within : ∀ w ∈ call.writes, w.index < length.toNat
  length : call.length.toNat = min (min length.toNat edid.length) 65535
  bytes : ∀ data i, i < call.length.toNat → some (store call.writes data i) = edid[i]?

/-! ### DeviceSettings -/

theorem copyLoop_eq (length size i : ℕ) (bytes : Bytes) :
    copyLoop length size i bytes =
      (i + (bytes.take (min length size - i)).length,
        block i (bytes.take (min length size - i))) := by
  induction bytes generalizing i with
  | nil => simp [copyLoop, block]
  | cons b rest ih =>
      rw [copyLoop]
      by_cases h : i < length ∧ i < size
      · obtain ⟨n, hn⟩ : ∃ n, min length size - i = n + 1 := ⟨min length size - i - 1, by omega⟩
        have hn' : min length size - (i + 1) = n := by omega
        rw [if_pos h, ih, hn, hn', List.take_succ_cons, List.length_cons, block]
        simp only [Prod.mk.injEq, and_true]
        omega
      · have hzero : min length size - i = 0 := by omega
        rw [if_neg h, hzero, List.take_zero]
        rfl

theorem edid_deviceSettings (edid : Bytes) (length : UInt16) :
    RespectsBuffer edid length (DeviceSettings.edid (.connected edid) length) := by
  have hl : length.toNat < 65536 := length.toNat_lt
  have hsize : (UInt16.ofNat (min edid.length 65535)).toNat = min edid.length 65535 :=
    UInt16.toNat_ofNat_of_lt' (by simp only [UInt16.size]; omega)
  let n := min length.toNat edid.length
  have hn : min length.toNat (min edid.length 65535) - 0 = n := by omega
  have htake : (edid.take n).length = n := by
    rw [List.length_take]
    omega
  have hcall : DeviceSettings.edid (.connected edid) length =
      ⟨.errorNone, .ofNat n, block 0 (edid.take n)⟩ := by
    simp only [DeviceSettings.edid, hsize, copyLoop_eq, hn, htake, Nat.zero_add]
  have hlength : (UInt16.ofNat n).toNat = n :=
    UInt16.toNat_ofNat_of_lt' (by simp only [UInt16.size]; omega)
  rw [hcall]
  constructor
  · intro w hw
    have hindex := (index_of_mem_block hw).2
    omega
  · dsimp only
    omega
  · intro data i hi
    rw [hlength] at hi
    have hbytes := store_block 0 data (htake.symm ▸ hi : i < (edid.take n).length)
    rw [Nat.zero_add, List.getElem?_take_of_lt hi] at hbytes
    exact hbytes

/-! ### Linux -/

theorem edid_linux_iff (edid : Bytes) (length : UInt16) :
    RespectsBuffer edid length (Linux.edid (some edid) length) ↔
      length = 0 ∨ edid.length ≤ length.toNat := by
  have hl : length.toNat < 65536 := length.toNat_lt
  by_cases hzero : length = 0
  · subst hzero
    simp only [true_or, iff_true]
    constructor
    · intro w hw
      cases hw
    · exact (Nat.min_eq_zero_iff.mpr (.inl (Nat.min_eq_zero_iff.mpr (.inl rfl)))).symm
    · intro data i hi
      cases hi
  · have hpos : length > 0 := UInt16.pos_iff_ne_zero.mpr hzero
    have hcall : Linux.edid (some edid) length =
        ⟨.errorNone, .ofNat edid.length, block 0 edid⟩ := if_pos hpos
    rw [hcall, or_iff_right hzero]
    constructor
    · intro h
      -- the last byte is written within the buffer
      by_contra hlong
      obtain ⟨w, hw, hindex⟩ :=
        exists_mem_block 0 (by omega : length.toNat < edid.length)
      have hwithin := h.within w hw
      omega
    · intro h
      have hlength : (UInt16.ofNat edid.length).toNat = edid.length :=
        UInt16.toNat_ofNat_of_lt' (by simp only [UInt16.size]; omega)
      constructor
      · intro w hw
        have hindex := (index_of_mem_block hw).2
        omega
      · dsimp only
        omega
      · intro data i hi
        rw [hlength] at hi
        have hbytes := store_block 0 data hi
        rw [Nat.zero_add] at hbytes
        exact hbytes

/-- With a display connected, both implementations respect the buffer if and only if the buffer is
empty or takes the whole EDID. -/
theorem edid_respects_buffer_iff (edid : Bytes) (length : UInt16) :
    RespectsBuffer edid length (Linux.edid (some edid) length) ∧
        RespectsBuffer edid length (DeviceSettings.edid (.connected edid) length) ↔
      length = 0 ∨ edid.length ≤ length.toNat := by
  rw [edid_linux_iff]
  exact and_iff_left (edid_deviceSettings edid length)

/-- A buffer of one byte and an EDID of two. -/
theorem edid_overflows : ¬ RespectsBuffer [0, 255] 1 (Linux.edid (some [0, 255]) 1) := by
  intro h
  have hwithin := h.within ⟨1, 255⟩ (by decide)
  exact absurd hwithin (by decide)

end DeviceAndDisplay.DisplayInfo

/-! ## The EDID after a query

A node that is opened adds its bytes, and one more, to what has been read before. -/

namespace DeviceAndDisplay.DisplayInfo

open Storage

/-- The bytes that pairs of hexadecimal digits encode. -/
def hexBytes : List Char → Option Bytes
  | [] => some []
  | a :: b :: rest => do
      let x ← hexValue a
      let y ← hexValue b
      let bytes ← hexBytes rest
      return .ofNat (16 * x + y) :: bytes
  | [_] => none

/-- The bytes that `EDID` should give after a query. -/
def EdidQuery.expected (query : EdidQuery) : Option Bytes :=
  match query.node with
  | some content => hexBytes content
  | none => some []

/-- The EDID is that of the last query after each query of a run. -/
def AlwaysExpected (queries : List EdidQuery) : Prop :=
  ∀ done query, done ++ [query] <+: queries →
    some ((done ++ [query]).foldl queryEdid []) = query.expected

theorem length_hexBytes {content : List Char} {bytes : Bytes} (h : hexBytes content = some bytes) :
    content.length = 2 * bytes.length := by
  induction content using hexBytes.induct generalizing bytes with
  | case1 =>
      cases h
      rfl
  | case2 a b rest ih =>
      simp only [hexBytes, Option.bind_eq_bind, Option.bind_eq_some_iff] at h
      obtain ⟨x, -, y, -, bytes', hrest, hbytes⟩ := h
      cases hbytes
      have hlen := ih hrest
      simp only [List.length_cons]
      omega
  | case3 => cases h

theorem length_readRounds (behind : List Char) (array : Char × Char) (content : List Char) :
    (readRounds behind array content).length = content.length / 2 + 1 := by
  induction content using hexBytes.induct generalizing array with
  | case1 => rfl
  | case2 a b rest ih =>
      simp only [readRounds, List.length_cons, ih]
      omega
  | case3 => simp [readRounds]

/-- Where no digit stands behind the array, the bytes are read as they should be, and the last one
is read a second time. -/
theorem readRounds_eq {behind content : List Char} {bytes : Bytes}
    (hbehind : ∀ c ∈ behind.head?, hexValue c = none) (array : Char × Char)
    (h : hexBytes content = some bytes) :
    readRounds behind array content =
      bytes ++ [bytes.getLast?.getD (readAsciiHexByte behind array.1 array.2)] := by
  have hstop : ∀ n, leadingHex n behind = n := by
    intro n
    cases behind with
    | nil => rfl
    | cons c rest => simp [leadingHex, hbehind c rfl]
  induction content using hexBytes.induct generalizing array bytes with
  | case1 =>
      cases h
      rfl
  | case2 a b rest ih =>
      simp only [hexBytes, Option.bind_eq_bind, Option.bind_eq_some_iff] at h
      obtain ⟨x, hx, y, hy, bytes', hrest, hbytes⟩ := h
      cases hbytes
      have hbyte : readAsciiHexByte behind a b = .ofNat (16 * x + y) := by
        rw [readAsciiHexByte, strtoulHex_pair hx hy (hstop _)]
      rw [readRounds, ih (a, b) hrest, hbyte]
      cases bytes' with
      | nil => rfl
      | cons byte bytes' => simp [List.getLast?_cons]
  | case3 => cases h

/-- A query leaves what it should exactly if the node cannot be opened. -/
theorem queryEdid_eq_expected_iff {query : EdidQuery} (h : query.expected.isSome = true)
    (edid : Bytes) : some (queryEdid edid query) = query.expected ↔ query.node = none := by
  rw [EdidQuery.expected] at h ⊢
  rw [queryEdid]
  cases hnode : query.node with
  | none => simp
  | some content =>
      rw [hnode] at h
      obtain ⟨bytes, hbytes⟩ := Option.isSome_iff_exists.mp h
      simp only [hbytes, Option.some.injEq, reduceCtorEq, iff_false]
      intro heq
      have hlen := congrArg List.length heq
      rw [List.length_append, length_readRounds, length_hexBytes hbytes] at hlen
      omega

/-- The EDID is that of the last query throughout exactly if the node can be opened in no query. -/
theorem edid_expected_iff {queries : List EdidQuery}
    (h : ∀ query ∈ queries, query.expected.isSome = true) :
    AlwaysExpected queries ↔ ∀ query ∈ queries, query.node = none := by
  have hstep : ∀ done query, done ++ [query] <+: queries →
      (some ((done ++ [query]).foldl queryEdid []) = query.expected ↔ query.node = none) := by
    intro done query hinit
    rw [List.foldl_append]
    exact queryEdid_eq_expected_iff (h query (hinit.subset (by simp))) _
  constructor
  · intro hall query hquery
    obtain ⟨done, rest, rfl⟩ := List.append_of_mem hquery
    have hinit : done ++ [query] <+: done ++ query :: rest := ⟨rest, by simp⟩
    exact (hstep done query hinit).mp (hall done query hinit)
  · intro hall done query hinit
    exact (hstep done query hinit).mpr (hall query (hinit.subset (by simp)))

/-- Two queries of a node that cannot be opened. -/
theorem edid_expected_unavailable :
    AlwaysExpected [⟨none, ('0', '0'), []⟩, ⟨none, ('0', '0'), []⟩] :=
  (edid_expected_iff (by decide)).mpr (by decide)

/-- The content `00ff` is read as three bytes, and after a second query there are six. -/
theorem edid_not_expected :
    queryEdid [] ⟨some ['0', '0', 'f', 'f'], ('0', '0'), []⟩ = [0x00, 0xFF, 0xFF] ∧
      EdidQuery.expected ⟨some ['0', '0', 'f', 'f'], ('0', '0'), []⟩ = some [0x00, 0xFF] ∧
      queryEdid [0x00, 0xFF, 0xFF] ⟨some ['0', '0', 'f', 'f'], ('0', '0'), []⟩ =
        [0x00, 0xFF, 0xFF, 0x00, 0xFF, 0xFF] := by
  decide

end DeviceAndDisplay.DisplayInfo
