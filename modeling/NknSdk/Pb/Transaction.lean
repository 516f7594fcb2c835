import NknSdk.Lib.Wire

/-!
# Transaction messages

The messages of `protos/transaction.proto` that the modelled code reads, and the
encoding of those it writes.  A message field is an `Option`, a repeated field a
list, and an enumeration field holds the raw number, as in the generated code.
-/

namespace NknSdk.Pb

/-- `PayloadType`. -/
inductive PayloadType where
  | coinbaseType
  | transferAssetType
  | sigChainTxnType
  | registerNameType
  | transferNameType
  | deleteNameType
  | subscribeType
  | unsubscribeType
  | generateIdType
  | nanoPayType
  | issueAssetType
  | generateId2Type
deriving DecidableEq, Repr

/-- `PayloadType::from_i32`. -/
def PayloadType.fromI32 (n : Int32) : Option PayloadType :=
  match n.toInt with
  | 0 => some .coinbaseType
  | 1 => some .transferAssetType
  | 2 => some .sigChainTxnType
  | 3 => some .registerNameType
  | 4 => some .transferNameType
  | 5 => some .deleteNameType
  | 6 => some .subscribeType
  | 7 => some .unsubscribeType
  | 8 => some .generateIdType
  | 9 => some .nanoPayType
  | 10 => some .issueAssetType
  | 11 => some .generateId2Type
  | _ => none

/-- The number of a payload type on the wire. -/
def PayloadType.toI32 : PayloadType → Int32
  | .coinbaseType => 0
  | .transferAssetType => 1
  | .sigChainTxnType => 2
  | .registerNameType => 3
  | .transferNameType => 4
  | .deleteNameType => 5
  | .subscribeType => 6
  | .unsubscribeType => 7
  | .generateIdType => 8
  | .nanoPayType => 9
  | .issueAssetType => 10
  | .generateId2Type => 11

theorem PayloadType.fromI32_toI32 (t : PayloadType) : fromI32 t.toI32 = some t := by
  cases t <;> rfl

theorem PayloadType.toI32_injective : Function.Injective PayloadType.toI32 := by
  intro t t' h
  have hread := fromI32_toI32 t
  rw [h, fromI32_toI32] at hread
  exact (Option.some.inj hread).symm

structure Payload where
  type : Int32
  data : Bytes
deriving DecidableEq, Repr

structure UnsignedTx where
  payload : Option Payload
  nonce : UInt64
  fee : Int64
  attributes : Bytes
deriving DecidableEq, Repr

structure Program where
  code : Bytes
  parameter : Bytes
deriving DecidableEq, Repr

structure Transaction where
  unsignedTx : Option UnsignedTx
  programs : List Program
deriving DecidableEq, Repr

structure NanoPay where
  sender : Bytes
  recipient : Bytes
  id : UInt64
  amount : Int64
  txnExpiration : UInt32
  nanoPayExpiration : UInt32
deriving DecidableEq, Repr

/-! ## Encoding -/

/-- A negative number is written as its 64-bit two's complement. -/
def Payload.encode (p : Payload) : Bytes :=
  Wire.uintField 1 p.type.toInt64.toUInt64.toNat ++ Wire.bytesField 2 p.data

def UnsignedTx.encode (u : UnsignedTx) : Bytes :=
  (u.payload.elim [] fun p => Wire.delimited 1 p.encode) ++
    Wire.uintField 2 u.nonce.toNat ++
    Wire.uintField 3 u.fee.toUInt64.toNat ++
    Wire.bytesField 4 u.attributes

def Program.encode (p : Program) : Bytes :=
  Wire.bytesField 1 p.code ++ Wire.bytesField 2 p.parameter

def Transaction.encode (t : Transaction) : Bytes :=
  (t.unsignedTx.elim [] fun u => Wire.delimited 1 u.encode) ++
    t.programs.flatMap fun p => Wire.delimited 2 p.encode

def NanoPay.encode (p : NanoPay) : Bytes :=
  Wire.bytesField 1 p.sender ++
    Wire.bytesField 2 p.recipient ++
    Wire.uintField 3 p.id.toNat ++
    Wire.uintField 4 p.amount.toUInt64.toNat ++
    Wire.uintField 5 p.txnExpiration.toNat ++
    Wire.uintField 6 p.nanoPayExpiration.toNat

theorem Program.encode_injective : Function.Injective Program.encode := by
  intro p q h
  obtain ⟨hcode, hparameter⟩ :=
    Wire.bytesField_pair_inj (k := 0x0A) (l := 0x12) (by decide) (by decide) (by decide) h
  cases p
  cases q
  simp_all

/-- The program list can be read off the end of an encoded transaction. -/
theorem Program.encode_list_injective :
    Function.Injective fun ps : List Program => ps.flatMap fun p => Wire.delimited 2 p.encode :=
  ((Wire.delimited_selfDelimiting 2).comp Program.encode_injective).flatMap_injective
    fun p => Wire.delimited_ne_nil 2 p.encode

end NknSdk.Pb
