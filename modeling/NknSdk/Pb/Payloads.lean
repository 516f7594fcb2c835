import NknSdk.Lib.Wire

/-!
# Client messages

The messages of `protos/payloads.proto`, which two clients exchange, and those of
`protos/clientmessage.proto`, in which a client and its node carry them.
-/

namespace NknSdk.Pb

/-! ## Payloads -/

namespace Payloads

/-- `payloads::PayloadType`. -/
inductive PayloadType where
  | binary
  | text
  | ack
  | session
deriving DecidableEq, Repr

/-- A cast of a `PayloadType`. -/
def PayloadType.toI32 : PayloadType → Int32
  | .binary => 0
  | .text => 1
  | .ack => 2
  | .session => 3

/-- `PayloadType::from_i32`. -/
def PayloadType.fromI32 (n : Int32) : Option PayloadType :=
  match n.toInt with
  | 0 => some .binary
  | 1 => some .text
  | 2 => some .ack
  | 3 => some .session
  | _ => none

structure Message where
  payload : Bytes
  encrypted : Bool
  nonce : Bytes
  encryptedKey : Bytes
deriving DecidableEq, Repr

structure Payload where
  type : Int32 := 0
  messageId : Bytes := []
  data : Bytes := []
  replyToId : Bytes := []
  noReply : Bool := false
deriving DecidableEq, Repr

structure TextData where
  text : String
deriving DecidableEq, Repr

def Message.encode (m : Message) : Bytes :=
  Wire.bytesField 1 m.payload ++
    Wire.boolField 2 m.encrypted ++
    Wire.bytesField 3 m.nonce ++
    Wire.bytesField 4 m.encryptedKey

def Payload.encode (p : Payload) : Bytes :=
  Wire.uintField 1 p.type.toInt64.toUInt64.toNat ++
    Wire.bytesField 2 p.messageId ++
    Wire.bytesField 3 p.data ++
    Wire.bytesField 4 p.replyToId ++
    Wire.boolField 5 p.noReply

end Payloads

/-! ## Between a client and its node -/

inductive ClientMessageType where
  | outboundMessage
  | inboundMessage
  | receipt
deriving DecidableEq, Repr

/-- `ClientMessageType::from_i32`. -/
def ClientMessageType.fromI32 (n : Int32) : Option ClientMessageType :=
  match n.toInt with
  | 0 => some .outboundMessage
  | 1 => some .inboundMessage
  | 2 => some .receipt
  | _ => none

def ClientMessageType.toI32 : ClientMessageType → Int32
  | .outboundMessage => 0
  | .inboundMessage => 1
  | .receipt => 2

inductive CompressionType where
  | compressionNone
  | compressionZlib
deriving DecidableEq, Repr

def CompressionType.toI32 : CompressionType → Int32
  | .compressionNone => 0
  | .compressionZlib => 1

structure ClientMessage where
  messageType : Int32
  message : Bytes
  compressionType : Int32
deriving DecidableEq, Repr

structure OutboundMessage where
  dest : String
  payload : Bytes
  dests : List String
  maxHoldingSeconds : UInt32
  nonce : UInt32
  blockHash : Bytes
  signatures : List Bytes
  payloads : List Bytes
deriving DecidableEq, Repr

structure InboundMessage where
  src : String
  payload : Bytes
  prevHash : Bytes
deriving DecidableEq, Repr

structure Receipt where
  prevHash : Bytes
  signature : Bytes
deriving DecidableEq, Repr

def ClientMessage.encode (m : ClientMessage) : Bytes :=
  Wire.uintField 1 m.messageType.toInt64.toUInt64.toNat ++
    Wire.bytesField 2 m.message ++
    Wire.uintField 3 m.compressionType.toInt64.toUInt64.toNat

def OutboundMessage.encode (m : OutboundMessage) : Bytes :=
  Wire.bytesField 1 m.dest.toUTF8.toList ++
    Wire.bytesField 2 m.payload ++
    (m.dests.flatMap fun dest => Wire.delimited 3 dest.toUTF8.toList) ++
    Wire.uintField 4 m.maxHoldingSeconds.toNat ++
    Wire.uintField 5 m.nonce.toNat ++
    Wire.bytesField 6 m.blockHash ++
    (m.signatures.flatMap fun signature => Wire.delimited 7 signature) ++
    m.payloads.flatMap fun payload => Wire.delimited 8 payload

def InboundMessage.encode (m : InboundMessage) : Bytes :=
  Wire.bytesField 1 m.src.toUTF8.toList ++
    Wire.bytesField 2 m.payload ++
    Wire.bytesField 3 m.prevHash

def Receipt.encode (r : Receipt) : Bytes :=
  Wire.bytesField 1 r.prevHash ++ Wire.bytesField 2 r.signature

end NknSdk.Pb
