import DeviceAndDisplay.Storage.Bytes
import DeviceAndDisplay.Model.Helpers.Settings

/-! # imageEncoder

The base 64 encoder of `UtilsString.h`. A read outside of the array or of the table is `none`. -/

namespace DeviceAndDisplay.Helpers

open Storage

/-- The table, with the character that ends the literal. -/
def base64Chars : Text :=
  "ABCDEFGHIJKLMNOPQRSTUVWXYZ".toList ++ "abcdefghijklmnopqrstuvwxyz".toList ++
    "0123456789+/".toList ++ ['\x00']

/-- The local variables of `imageEncoder`, and the indices at which the table has been read. -/
structure ImageEncoder where
  state : UInt8 := 0
  lastStuff : UInt8 := 0
  result : Text
  indices : List UInt8 := []
deriving DecidableEq, Repr

namespace ImageEncoder

/-- `result += base64_chars[i]`. -/
def append (e : ImageEncoder) (i : UInt8) : Option ImageEncoder := do
  let c ← base64Chars[i.toNat]?
  return { e with result := e.result ++ [c], indices := e.indices ++ [i] }

/-- One round of the loop, with the byte `object[index]`. -/
def round (e : ImageEncoder) (byte : UInt8) : Option ImageEncoder :=
  if e.state = 0 then do
    let e ← e.append ((byte &&& 0xFC) >>> 2)
    return { e with lastStuff := (byte &&& 0x03) <<< 4, state := 1 }
  else if e.state = 1 then do
    let e ← e.append (((byte &&& 0xF0) >>> 4) ||| e.lastStuff)
    return { e with lastStuff := (byte &&& 0x0F) <<< 2, state := 2 }
  else if e.state = 2 then do
    let e ← e.append (((byte &&& 0xC0) >>> 6) ||| e.lastStuff)
    let e ← e.append (byte &&& 0x3F)
    return { e with state := 0 }
  else
    return e

/-- What follows the loop. -/
def finish (e : ImageEncoder) (padding : Bool) : Option ImageEncoder :=
  if e.state ≠ 0 then do
    let e ← e.append e.lastStuff
    if padding then
      if e.state = 1 then
        return { e with result := e.result ++ ['=', '='] }
      else
        return { e with result := e.result ++ ['='] }
    else
      return e
  else
    return e

end ImageEncoder

/-- The rounds of `while (index < length)`. -/
def encodeRounds (object : Bytes) (length : ℕ) (e : ImageEncoder) : Option ImageEncoder :=
  (List.range length).foldlM (fun e index => do e.round (← object[index]?)) e

def imageEncoder (object : Bytes) (length : UInt32) (padding : Bool) (result : Text) :
    Option ImageEncoder := do
  let e ← encodeRounds object length.toNat { result }
  e.finish padding

end DeviceAndDisplay.Helpers
