import NknSdk.Client.Error
import NknSdk.Pb.Payloads
import NknSdk.Pb.SigChain
import NknSdk.Tx.Signing
import NknSdk.Utils.Address
import NknSdk.Utils.Json
import NknSdk.Utils.SharedKey

/-!
# Clients

`Client` of `src/client.rs`: what its calls and its background tasks share.  Each
call is an `Exec` over the client.  A send on a bounded channel that is full
blocks, since nothing in the call itself will empty it.

`dispatches` is not in the source.  It records each reply that was looked up among
the response channels, and whose channel it went to; a response channel keeps the
id of the message it was registered for.
-/

namespace NknSdk

open Exec

/-! ## What clients exchange -/

abbrev nonceSize : Nat := 24

abbrev Nonce : Type := Vector UInt8 nonceSize

/-- `message::MessageConfig`, the entries that `send` reads. -/
structure MessageConfig where
  unencrypted : Bool := false
  noReply : Bool := false
  maxHoldingSecs : UInt32 := 10000
deriving DecidableEq

/-- `message::Message`, without the channel for its reply. -/
structure Message where
  src : String
  data : Bytes
  type : UInt32
  encrypted : Bool
  messageId : Bytes
  noReply : Bool
deriving DecidableEq

/-- `rpc::Node`. -/
structure Node where
  addr : String
  rpcAddr : String
  pubkey : String
  id : String
deriving DecidableEq

/-- `utils::StSaltAndSignature`. -/
structure StSaltAndSignature where
  clientSalt : Bytes
  signature : Signature
deriving DecidableEq

/-- `client::SetClientResult`, the entry that is read. -/
structure SetClientResult where
  sigChainBlockHash : String

/-! ## The state -/

/-- What a client needs from other crates and from the nodes it asks. -/
structure ClientDeps where
  primitives : Primitives
  toCurve25519Pk : PublicKey → Option PublicKey
  toCurve25519Sk : PrivateKey → PrivateKey
  precompute : PublicKey → PrivateKey → SharedKey
  sealPrecomputed : Bytes → Bytes → Bytes → Bytes
  openPrecomputed : Bytes → Bytes → Bytes → Option Bytes
  /-- The public key that goes with a private key. -/
  publicKeyOf : PrivateKey → PublicKey
  /-- `rpc::get_registrant`, the registrant of the answer. -/
  getRegistrant : String → Except String String
  /-- `flate2::ZlibEncoder`. -/
  zlib : Bytes → Bytes
  /-- `serde_json::from_slice`. -/
  parseJson : Bytes → Option Json
  /-- `serde_json::from_value`. -/
  setClientResult : Json → Option SetClientResult
  decodeClientMessage : Bytes → Option Pb.ClientMessage
  decodeInboundMessage : Bytes → Option Pb.InboundMessage
  decodeMessage : Bytes → Option Pb.Payloads.Message
  decodePayload : Bytes → Option Pb.Payloads.Payload
  decodeTextData : Bytes → Option Pb.Payloads.TextData

/-- What a call draws from `thread_rng`. -/
structure Draws where
  key : SharedKey
  msgNonce : Nonce
  /-- The nonce of the key, for each destination. -/
  keyNonce : Nat → Nonce
  /-- The nonce of each outbound message. -/
  nonce : Nat → UInt32
  clientSalt : Vector UInt8 32

inductive WsMessage where
  | text (s : String)
  | binary (data : Bytes)
  | ping
deriving DecidableEq

/-- The sending end of the websocket's queue. -/
structure Stdin where
  /-- The websocket still takes messages from the queue. -/
  isOpen : Bool
  queue : List WsMessage
deriving DecidableEq

/-- A `bounded(1)` channel, with the id of the message it was registered for. -/
structure ResponseChannel where
  messageId : Bytes
  queue : Option Message
deriving DecidableEq

/-- A reply that was looked up among the response channels. -/
structure Dispatch where
  replyToId : Bytes
  /-- The id of the message whose channel it was put on, if there was one. -/
  channel : Option Bytes
deriving DecidableEq

/-- `client::Client`. -/
structure Client where
  account : Account
  addressId : Bytes
  closed : Bool
  node : Option Node
  sharedKeys : Utils.SharedKeys
  curveSecretKey : PrivateKey
  sigChainBlockHash : Option String
  connectChannel : Option Node
  messageChannel : Option Message
  stdin : Option Stdin
  responseChannels : AList fun _ : String => ResponseChannel
  /-- The channel of `connect`, until its receiver is gone. -/
  challengeChannel : Option (List StSaltAndSignature)
  dispatches : List Dispatch

abbrev ClientCall (α : Type) : Type := Exec String Client α

namespace Client

/-- `Client::new`, before it is connected. -/
def new (d : ClientDeps) (account : Account) (identifier : Option String) : Client where
  account
  addressId :=
    d.primitives.sha256Hash
      (Utils.makeAddressString account.publicKey.toList (identifier.getD "")).toUTF8.toList
  closed := false
  node := none
  sharedKeys := ∅
  curveSecretKey := d.toCurve25519Sk account.privateKey
  sigChainBlockHash := none
  connectChannel := none
  messageChannel := none
  stdin := none
  responseChannels := ∅
  challengeChannel := none
  dispatches := []

end Client

/-! ## Steps that several calls share -/

variable {ε σ : Type}

/-- `crypto::encrypt`. -/
def encrypt (d : ClientDeps) (message nonce sharedKey : Bytes) : Exec ε σ Bytes := do
  require (nonce.length = nonceSize)
  require (sharedKey.length = sharedKeyLen)
  return d.sealPrecomputed message nonce sharedKey

/-- `crypto::decrypt`. -/
def decrypt (d : ClientDeps) (encrypted nonce sharedKey : Bytes) : Exec ε σ (Option Bytes) := do
  require (nonce.length = nonceSize)
  require (sharedKey.length = sharedKeyLen)
  return d.openPrecomputed encrypted nonce sharedKey

/-- The key shared with the owner of an address, through the client's cache. -/
def sharedKeyWith (d : ClientDeps) (publicKey : PublicKey) : ClientCall SharedKey := do
  let c ← get
  zoom Client.sharedKeys (fun c sharedKeys => { c with sharedKeys })
    (Utils.getOrComputeSharedKey d.toCurve25519Pk d.precompute publicKey c.curveSecretKey)

/-- `client::write_message`. -/
def writeMessage (data : Bytes) : ClientCall Unit := do
  let c ← get
  let stdin ← unwrap c.stdin
  if stdin.isOpen then
    modify fun c => { c with
      stdin := some { stdin with queue := stdin.queue ++ [.binary data] } }
  else throw "send failed because receiver is gone"

/-! ## What the shared steps leave alone -/

/-- `I` says nothing of what sending changes. -/
structure SendFrame (I : Client → Prop) : Prop where
  sharedKeys : ∀ c sharedKeys, I c → I { c with sharedKeys }
  stdin : ∀ c stdin, I c → I { c with stdin }

/-- `I` says nothing of what a client exchanges with its node and its owner. -/
structure Frame (I : Client → Prop) : Prop extends SendFrame I where
  sigChainBlockHash : ∀ c sigChainBlockHash, I c → I { c with sigChainBlockHash }
  connectChannel : ∀ c connectChannel, I c → I { c with connectChannel }
  messageChannel : ∀ c messageChannel, I c → I { c with messageChannel }
  challengeChannel : ∀ c challengeChannel, I c → I { c with challengeChannel }

section Frame

variable {I : Client → Prop} {d : ClientDeps}

theorem keeps_encrypt (message nonce sharedKey : Bytes) :
    Keeps I (encrypt d message nonce sharedKey : ClientCall Bytes) :=
  keeps_bind (keeps_require _) fun _ => keeps_bind (keeps_require _) fun _ => keeps_pure _

theorem keeps_decrypt (encrypted nonce sharedKey : Bytes) :
    Keeps I (decrypt d encrypted nonce sharedKey : ClientCall (Option Bytes)) :=
  keeps_bind (keeps_require _) fun _ => keeps_bind (keeps_require _) fun _ => keeps_pure _

theorem SendFrame.sharedKeyWith (frame : SendFrame I) (publicKey : PublicKey) :
    Keeps I (sharedKeyWith d publicKey) :=
  keeps_bind keeps_get fun _ => keeps_zoom frame.sharedKeys _

theorem SendFrame.writeMessage (frame : SendFrame I) (data : Bytes) :
    Keeps I (writeMessage data) := by
  refine keeps_bind keeps_get fun c => keeps_bind (keeps_unwrap _) fun stdin => ?_
  exact keeps_ite (keeps_modify fun c h => frame.stdin c _ h) (keeps_throw _)

end Frame

end NknSdk
