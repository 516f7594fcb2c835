import NknSdk.Lib.Wire
import NknSdk.Lib.Machine
import NknSdk.Lib.Utf8

/-!
# Serialization

The writers and the readers of `src/serialization.rs`.  Numbers are written highest
byte first.  A writer is the bytes it appends to its buffer, and a reader is a call
over the buffer, from whose front it takes what it reads.
-/

namespace NknSdk

open Exec

/-- `isize::MAX`, the most bytes a `Vec` or a `str` has. -/
def isizeMax : Nat := 0x7FFFFFFFFFFFFFFF

/-! ## Writers -/

/-- `serialization::write_var_u64`. -/
def writeVarU64 (val : UInt64) : Bytes :=
  if val < 0xFD then [val.toUInt8]
  else if val ≤ 0xFFFF then 0xFD :: beBytes 2 val.toNat
  else if val ≤ 0xFFFFFFFF then 0xFE :: beBytes 4 val.toNat
  else 0xFF :: beBytes 8 val.toNat

/-- `serialization::write_var_bytes`. -/
def writeVarBytes (val : Bytes) : Bytes := writeVarU64 (UInt64.ofNat val.length) ++ val

/-- `serialization::write_var_str`. -/
def writeVarStr (val : String) : Bytes :=
  writeVarU64 (UInt64.ofNat val.utf8ByteSize) ++ val.toUTF8.toList

/-- `serialization::write_u8`. -/
def writeU8 (val : UInt8) : Bytes := [val]

/-- `serialization::write_u16`. -/
def writeU16 (val : UInt16) : Bytes := beBytes 2 val.toNat

/-- `serialization::write_u32`. -/
def writeU32 (val : UInt32) : Bytes := beBytes 4 val.toNat

/-- `serialization::write_u64`. -/
def writeU64 (val : UInt64) : Bytes := beBytes 8 val.toNat

/-- `serialization::write_bool`. -/
def writeBool (val : Bool) : Bytes := [val.toUInt8]

/-! ## Readers -/

abbrev Reader (α : Type) : Type := Exec Empty Bytes α

/-- `Vec::drain` of the first `n` bytes, which panics if there are fewer. -/
def drain (n : Nat) : Reader Bytes := fun bytes =>
  if n ≤ bytes.length then (.ok (bytes.take n), bytes.drop n) else (.panic, bytes)

/-- `serialization::read_u8`. -/
def readU8 : Reader UInt8 := do
  let buf ← drain 1
  unwrap buf.head?

/-- `serialization::read_u16`. -/
def readU16 : Reader UInt16 := do
  let buf ← drain 2
  return UInt16.ofNat (ofBeBytes buf)

/-- `serialization::read_u32`. -/
def readU32 : Reader UInt32 := do
  let buf ← drain 4
  return UInt32.ofNat (ofBeBytes buf)

/-- `serialization::read_u64`. -/
def readU64 : Reader UInt64 := do
  let buf ← drain 8
  return UInt64.ofNat (ofBeBytes buf)

/-- `serialization::read_bool`. -/
def readBool : Reader Bool := do
  let byte ← readU8
  return byte != 0

/-- `serialization::read_var_u64`. -/
def readVarU64 : Reader UInt64 := do
  let size ← readU8
  if size = 0xFD then do
    let val ← readU16
    return val.toUInt64
  else if size = 0xFE then do
    let val ← readU32
    return val.toUInt64
  else if size = 0xFF then readU64
  else do
    let val ← readU8
    return val.toUInt64

/-- `serialization::read_var_bytes`. -/
def readVarBytes : Reader Bytes := do
  let len ← readVarU64
  drain len.toNat

/-- `serialization::read_var_str`. -/
def readVarStr : Reader String := do
  let value ← readVarBytes
  unwrap (Utf8.strict value)

end NknSdk
