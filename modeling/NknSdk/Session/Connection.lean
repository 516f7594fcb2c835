import NknSdk.Lib.Exec
import NknSdk.Lib.Heap
import NknSdk.Pb.Packet
import NknSdk.Utils.Seq
import Mathlib.Data.List.AList
import Mathlib.Data.Rat.Defs

/-!
# Connections

`src/connection.rs`: the part of a session that belongs to one pair of clients.  A
connection remembers when it sent each packet that is not acknowledged yet, which
of these it has sent again, and the sequence numbers it still has to acknowledge.

Window sizes are `f64` in the source and rationals here.  Times are nanoseconds.
A channel of capacity one that carries no data is the `Bool` that says whether it
is full.
-/

namespace NknSdk.Ncp

open Exec

/-- What a call takes from outside: the build, the decoder of packets, the time,
and the float arithmetic of the retransmission timeout. -/
structure Deps where
  overflow : Overflow
  /-- `Packet::decode`. -/
  decodePacket : Bytes → Option Pb.Packet
  /-- `SystemTime::now`. -/
  now : Nat
  /-- `f64::tanh`, cast to an integer. -/
  tanh : ℚ → Nat

/-- `error::NcpError`, the ones that sessions return. -/
inductive NcpError where
  | sessionNotEstablished
  | sessionClosed
  | bufferEmpty
  | bufferTooLarge
deriving DecidableEq, Repr

/-- `connection::Connection`. -/
structure Connection where
  localClientId : String
  remoteClientId : String
  /-- In milliseconds, from the default configuration. -/
  maxRetransmissionTimeout : Nat
  windowSize : ℚ
  sendWindowUpdate : Bool
  timeSentSeq : AList fun _ : UInt32 => Nat
  resentSeq : AList fun _ : UInt32 => Unit
  sendAckQueue : List UInt32
  retransmissionTimeout : Nat

namespace Connection

/-- `Connection::new`. -/
def new (localClientId remoteClientId : String) (windowSize : ℚ) : Connection where
  localClientId
  remoteClientId
  maxRetransmissionTimeout := 10000
  windowSize
  sendWindowUpdate := false
  timeSentSeq := ∅
  resentSeq := ∅
  sendAckQueue := []
  retransmissionTimeout := 5000 * 10 ^ 6

/-- `SeqElem::partial_cmp` as `<=`. -/
def seqElemLe (a b : UInt32) : Bool := compareSeq a b = 0 || compareSeq a b = -1

/-- `Connection::send_ack`. -/
def sendAck (conn : Connection) (seq : UInt32) : Connection :=
  { conn with sendAckQueue := Heap.push seqElemLe conn.sendAckQueue seq }

/-- `Connection::set_window_size`. -/
def setWindowSize (conn : Connection) (n minConnectionWindowSize : ℚ) : Connection :=
  { conn with windowSize := if n < minConnectionWindowSize then minConnectionWindowSize else n }

/-- The new retransmission timeout of `receive_ack`.  A negative time panics, and so does
one of 2^64 seconds or more. -/
def adjustTimeout (d : Deps) (t : Nat) : Exec NcpError Connection Unit := do
  let conn ← get
  require (t ≤ d.now)
  let rtt := d.now - t
  require (3 * rtt < 2 ^ 64 * 10 ^ 9)
  require (conn.retransmissionTimeout ≤ 3 * rtt)
  let x : ℚ := ((3 * rtt - conn.retransmissionTimeout : Nat) : ℚ) / 10 ^ 9 * 10 ^ 8
  let ms := d.tanh x
  modify fun conn => { conn with retransmissionTimeout := ms }
  if conn.maxRetransmissionTimeout < ms / 10 ^ 6 then
    modify fun conn =>
      { conn with retransmissionTimeout := conn.maxRetransmissionTimeout * 10 ^ 6 }
  else
    return ()

/-- `Connection::receive_ack`. -/
def receiveAck (d : Deps) (sequenceId : UInt32) (isSentByMe : Bool) :
    Exec NcpError Connection Unit := do
  let conn ← get
  match conn.timeSentSeq.lookup sequenceId with
  | none => return ()
  | some t =>
      when isSentByMe (adjustTimeout d t)
      modify fun conn =>
        { conn with
          timeSentSeq := conn.timeSentSeq.erase sequenceId
          resentSeq := conn.resentSeq.erase sequenceId }
      let conn ← get
      if conn.sendWindowUpdate then panic
      else modify fun conn => { conn with sendWindowUpdate := true }

end Connection

/-! ## The ack packets that `send_ack` builds -/

/-- Every range is a single number, so that the counts are left out. -/
def omitCount (ackSeqCountList : List UInt32) : Bool := ackSeqCountList.all (· = 1)

/-- The packet that `send_ack` builds from the ranges it has collected. -/
def ackPacket (ackStartSeqList ackSeqCountList : List UInt32) : Pb.Packet :=
  { ackStartSeq := ackStartSeqList
    ackSeqCount := if omitCount ackSeqCountList then [] else ackSeqCountList
    bytesRead := 0 }

end NknSdk.Ncp
