import DeviceAndDisplay.Storage.Bytes
import DeviceAndDisplay.Storage.Memory
import DeviceAndDisplay.Storage.Numeral

/-! # The two implementations of IConnectionProperties::EDID

`DisplayInfoImplementation::EDID` of the Linux and of the DeviceSettings platform. The writes are
those to `data`, by their index. -/

namespace DeviceAndDisplay.DisplayInfo

open Storage

/-- The `Core::hresult` values that `EDID` returns. -/
inductive ErrorCode where
  | errorNone
  | errorGeneral
  | errorUnavailable
deriving DecidableEq, Repr

/-- What a call returns, the length it leaves, and its writes to `data`. -/
structure EdidCall where
  result : ErrorCode
  length : UInt16
  writes : List (Write UInt8)
deriving DecidableEq, Repr

/-! ### Linux -/

/-- `EDID` of the Linux platform; `display` is `_display`, with the bytes it holds. -/
def Linux.edid (display : Option Bytes) (length : UInt16) : EdidCall :=
  match display with
  | some edid =>
      if length > 0 then
        -- `memcpy` with the size of the source
        ⟨.errorNone, .ofNat edid.length, block 0 edid⟩
      else
        ⟨.errorUnavailable, length, []⟩
  | none => ⟨.errorUnavailable, length, []⟩

/-! ### DeviceSettings -/

/-- What the video output port tells. -/
inductive VideoOutputPort where
  | connected (edid : Bytes)
  | disconnected
  /-- A call of the library throws. -/
  | throws
deriving DecidableEq, Repr

/-- `{'u','n','k','n','o','w','n'}`. -/
def unknown : Bytes := [117, 110, 107, 110, 111, 119, 110]

/-- The loop from index `i` on; the result is the final value of `i` and the writes. -/
def copyLoop (length size : ℕ) (i : ℕ) : Bytes → ℕ × List (Write UInt8)
  | [] => (i, [])
  | b :: rest =>
      if i < length ∧ i < size then
        let (n, writes) := copyLoop length size (i + 1) rest
        (n, ⟨i, b⟩ :: writes)
      else
        (i, [])

/-- `EDID` of the DeviceSettings platform. -/
def DeviceSettings.edid (port : VideoOutputPort) (length : UInt16) : EdidCall :=
  let (ret, edidVec) := match port with
    | .connected edid => (ErrorCode.errorNone, edid)
    | .disconnected | .throws => (ErrorCode.errorGeneral, unknown)
  let size : UInt16 := .ofNat (min edidVec.length 65535)
  let (i, writes) := copyLoop length.toNat size.toNat 0 edidVec
  ⟨ret, .ofNat i, writes⟩

end DeviceAndDisplay.DisplayInfo

/-! ## QueryEDID

The part of `RequeryProperties` of the Linux platform that reads the EDID node into `_edid`. -/

namespace DeviceAndDisplay.DisplayInfo

open Storage

/-- What a call of `QueryEDID` meets. -/
structure EdidQuery where
  /-- The content of the node; `none` if it cannot be opened. -/
  node : Option (List Char)
  /-- The array, which is not initialized. -/
  asciiHexByte : Char × Char
  /-- The memory behind the array, up to a character that ends what `strtoul` reads. -/
  behind : List Char
deriving DecidableEq, Repr

/-- `std::strtoul(asciiHexByte, nullptr, 16)` as a byte. -/
def readAsciiHexByte (behind : List Char) (a b : Char) : UInt8 :=
  .ofNat (strtoulHex (a :: b :: behind))

/-- The rounds of `while(!instream.eof())`. A read that asks for more than is left sets `eof`; what
it gets, if anything, is in the array then. -/
def readRounds (behind : List Char) (array : Char × Char) : List Char → Bytes
  | a :: b :: rest => readAsciiHexByte behind a b :: readRounds behind (a, b) rest
  | [a] => [readAsciiHexByte behind a array.2]
  | [] => [readAsciiHexByte behind array.1 array.2]

def queryEdid (edid : Bytes) (query : EdidQuery) : Bytes :=
  match query.node with
  | some content => edid ++ readRounds query.behind query.asciiHexByte content
  | none => []

end DeviceAndDisplay.DisplayInfo
