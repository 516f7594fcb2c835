import NknSdk.Client.Client

/-!
# Sending messages

`Client::send` and what it calls.  `send_messages` resolves the destinations,
seals the payload for each of them, packs the sealed payloads into outbound
messages of bounded size and puts these on the queue of the websocket.  An error
of the websocket is only logged.  `send` then registers a response channel under
the id of the message read as text.
-/

namespace NknSdk

open Exec

/-! ## Destinations -/

/-- The destination a name or an address stands for, as `process_dests` finds it. -/
def resolveDest (d : ClientDeps) (dest : String) : Option String :=
  let address := Utils.splitDots dest
  let last := address.getLastD ""
  if last.utf8ByteSize < 2 * publicKeyLen then
    match d.getRegistrant last with
    | .error _ => none
    | .ok registrant =>
        if registrant = "" then none
        else some (".".intercalate (address.dropLast ++ [registrant]))
  else some (".".intercalate address)

/-- `client::process_dests`. -/
def processDests (d : ClientDeps) (dests : List String) : Except String (List String) :=
  if dests = [] then .ok []
  else
    let processedDests := dests.filterMap (resolveDest d)
    if processedDests = [] then .error "invalid destination" else .ok processedDests

/-! ## Payloads -/

/-- The sealed messages of `encrypt_payload` for several destinations, each with
its index. -/
def encryptFor (d : ClientDeps) (rng : Draws) (encryptedPayload : Bytes) :
    List (String × Nat) → ClientCall (List Bytes)
  | [] => return []
  | (dest, i) :: dests => do
      let (_, destPubkey, _) ← ofExcept (Utils.parseClientAddress d.primitives dest)
      let sharedKey ← sharedKeyWith d destPubkey
      let encryptedKey ← encrypt d rng.key.toList (rng.keyNonce i).toList sharedKey.toList
      let pbMessage : Pb.Payloads.Message :=
        { payload := encryptedPayload
          encrypted := true
          nonce := (rng.keyNonce i).toList ++ rng.msgNonce.toList
          encryptedKey }
      let msgs ← encryptFor d rng encryptedPayload dests
      return pbMessage.encode :: msgs

/-- `client::encrypt_payload`. -/
def encryptPayload (d : ClientDeps) (rng : Draws) (payload : Pb.Payloads.Payload)
    (dests : List String) : ClientCall (List Bytes) := do
  let rawPayload := payload.encode
  if 1 < dests.length then
    let encryptedPayload ← encrypt d rawPayload rng.msgNonce.toList rng.key.toList
    encryptFor d rng encryptedPayload dests.zipIdx
  else
    let dest ← unwrap dests.head?
    let (_, destPubkey, _) ← ofExcept (Utils.parseClientAddress d.primitives dest)
    let sharedKey ← sharedKeyWith d destPubkey
    let encryptedPayload ← encrypt d rawPayload rng.msgNonce.toList sharedKey.toList
    let pbMessage : Pb.Payloads.Message :=
      { payload := encryptedPayload
        encrypted := true
        nonce := rng.msgNonce.toList
        encryptedKey := [] }
    return [pbMessage.encode]

/-- `client::create_payloads`. -/
def createPayloads (d : ClientDeps) (rng : Draws) (dests : List String)
    (payload : Pb.Payloads.Payload) (encrypted : Bool) : ClientCall (List Bytes) :=
  if encrypted then encryptPayload d rng payload dests
  else
    let pbMessage : Pb.Payloads.Message :=
      { payload := payload.encode, encrypted := false, nonce := [], encryptedKey := [] }
    return [pbMessage.encode]

/-! ## Outbound messages -/

/-- The signatures of the sigchains to the destinations, each with its index. -/
def signFor (d : ClientDeps) (sigChain : Pb.SigChain) (sigChainElementSer : Bytes)
    (payloads : List Bytes) : List (String × Nat) → ClientCall (List Bytes)
  | [] => return []
  | (dest, i) :: dests => do
      let (destId, destPublicKey, _) ← ofExcept (Utils.parseClientAddress d.primitives dest)
      let payload ← unwrap payloads[if 1 < payloads.length then i else 0]?
      let sigChain :=
        { sigChain with
          destId
          destPubkey := destPublicKey.toList
          dataSize := UInt32.ofNat payload.length }
      let c ← get
      let digest := d.primitives.sha256Hash
        (d.primitives.sha256Hash sigChain.serializeMetadata ++ sigChainElementSer)
      let signature := d.primitives.ed25519Sign digest
        (c.account.privateKey.toList ++ c.account.publicKey.toList)
      let signatures ← signFor d sigChain sigChainElementSer payloads dests
      return signature.toList :: signatures

/-- The bytes of the block hash that the node announced. -/
def decodeBlockHash (sigChainBlockHash : Option String) : ClientCall Bytes :=
  match sigChainBlockHash with
  | some sigChainBlockHash => unwrap (Hex.decode sigChainBlockHash)
  | none => pure []

/-- `client::create_outbound_message`. -/
def createOutboundMessage (d : ClientDeps) (nonce : UInt32) (dests : List String)
    (payloads : List Bytes) (maxHoldingSeconds : UInt32) : ClientCall Pb.OutboundMessage := do
  let c ← get
  let node ← unwrap c.node
  let nodePublicKey ← unwrap (Hex.decode node.pubkey)
  let sigChainElement : Pb.SigChainElem :=
    { nextPubkey := nodePublicKey, sigAlgo := Pb.SigAlgo.signature.toI32 }
  let blockHash ← decodeBlockHash c.sigChainBlockHash
  let sigChain : Pb.SigChain :=
    { nonce
      dataSize := 0
      blockHash
      srcId := c.addressId
      srcPubkey := c.account.publicKey.toList
      destId := []
      destPubkey := []
      elems := [sigChainElement] }
  let signatures ← signFor d sigChain sigChainElement.serializeUnsigned payloads dests.zipIdx
  return { dest := "", payload := [], dests, maxHoldingSeconds, nonce, blockHash, signatures,
           payloads }

/-- `client::create_client_message`. -/
def createClientMessage (d : ClientDeps) (outboundMsg : Pb.OutboundMessage) : Pb.ClientMessage :=
  if 1 < outboundMsg.payloads.length then
    { messageType := Pb.ClientMessageType.outboundMessage.toI32
      message := d.zlib outboundMsg.encode
      compressionType := Pb.CompressionType.compressionZlib.toI32 }
  else
    { messageType := Pb.ClientMessageType.outboundMessage.toI32
      message := outboundMsg.encode
      compressionType := Pb.CompressionType.compressionNone.toI32 }

def maxClientMessageSize : Nat := 4000000

/-- The loop of `send_messages` over the payloads and their destinations: the
outbound messages that are full, and the lists of the one in progress. -/
def batch (d : ClientDeps) (rng : Draws) (maxHoldingSeconds : UInt32) :
    List (Bytes × String) → Nat → List String → List Bytes → List Pb.OutboundMessage →
      ClientCall (List Pb.OutboundMessage × List String × List Bytes)
  | [], _, destList, payloadList, outboundMsgs => return (outboundMsgs, destList, payloadList)
  | (payload, dest) :: rest, totalSize, destList, payloadList, outboundMsgs => do
      let size := payload.length + dest.utf8ByteSize + signatureLen
      if maxClientMessageSize < size then throw "message oversize"
      else if maxClientMessageSize < totalSize + size then
        let outboundMsg ← createOutboundMessage d (rng.nonce outboundMsgs.length) destList
          payloadList maxHoldingSeconds
        batch d rng maxHoldingSeconds rest size [dest] [payload] (outboundMsgs ++ [outboundMsg])
      else
        batch d rng maxHoldingSeconds rest (totalSize + size) (destList ++ [dest])
          (payloadList ++ [payload]) outboundMsgs

/-- The outbound messages that are full, and the lists of the last one.  A single
payload is for all destinations. -/
def pack (d : ClientDeps) (rng : Draws) (maxHoldingSeconds : UInt32) (dests : List String)
    (payloads : List Bytes) :
    ClientCall (List Pb.OutboundMessage × List String × List Bytes) :=
  if 1 < payloads.length then batch d rng maxHoldingSeconds (payloads.zip dests) 0 [] [] []
  else do
    let payload ← unwrap payloads.head?
    let size := payload.length + (dests.map fun dest => dest.utf8ByteSize + signatureLen).sum
    if maxClientMessageSize < size then throw "message oversize"
    else return ([], dests, payloads)

/-- `client::send_messages`. -/
def sendMessages (d : ClientDeps) (rng : Draws) (dests : List String)
    (payload : Pb.Payloads.Payload) (encrypted : Bool) (maxHoldingSeconds : UInt32) :
    ClientCall Unit := do
  let dests ← ofExcept (processDests d dests)
  if dests = [] then return ()
  else
    let payloads ← createPayloads d rng dests payload encrypted
    let (outboundMsgs, destList, payloadList) ← pack d rng maxHoldingSeconds dests payloads
    let last ← createOutboundMessage d (rng.nonce outboundMsgs.length) destList payloadList
      maxHoldingSeconds
    (outboundMsgs ++ [last]).forM fun outboundMsg =>
      logged (writeMessage (createClientMessage d outboundMsg).encode)

/-! ## Sending with a reply -/

/-- The registration of `send`. -/
def register (config : MessageConfig) (messageId : Bytes) : ClientCall Unit :=
  when (config.noReply = false) do
    let key ← unwrap (Utf8.strict messageId)
    modify fun c =>
      { c with responseChannels := c.responseChannels.insert key { messageId, queue := none } }

/-- `Client::send`. -/
def send (d : ClientDeps) (rng : Draws) (dests : List String) (payload : Pb.Payloads.Payload)
    (config : MessageConfig) : ClientCall Unit := do
  sendMessages d rng dests payload (!config.unencrypted) config.maxHoldingSecs
  register config payload.messageId

/-! ## What sending leaves alone -/

section Frame

variable {I : Client → Prop} {d : ClientDeps} {rng : Draws}

theorem SendFrame.encryptFor (frame : SendFrame I) (encryptedPayload : Bytes)
    (dests : List (String × Nat)) : Keeps I (encryptFor d rng encryptedPayload dests) := by
  induction dests with
  | nil => exact keeps_pure _
  | cons dest dests ih =>
      refine keeps_bind (keeps_ofExcept _) fun parsed => ?_
      refine keeps_bind (frame.sharedKeyWith _) fun sharedKey => ?_
      exact keeps_bind (keeps_encrypt _ _ _) fun key => keeps_bind ih fun msgs => keeps_pure _

theorem SendFrame.createPayloads (frame : SendFrame I) (dests : List String)
    (payload : Pb.Payloads.Payload) (encrypted : Bool) :
    Keeps I (createPayloads d rng dests payload encrypted) := by
  refine keeps_ite (keeps_ite ?_ ?_) (keeps_pure _)
  · exact keeps_bind (keeps_encrypt _ _ _) fun encryptedPayload => frame.encryptFor _ _
  · refine keeps_bind (keeps_unwrap _) fun dest => keeps_bind (keeps_ofExcept _) fun parsed => ?_
    refine keeps_bind (frame.sharedKeyWith _) fun sharedKey => ?_
    exact keeps_bind (keeps_encrypt _ _ _) fun encryptedPayload => keeps_pure _

theorem keeps_signFor (sigChain : Pb.SigChain) (elem : Bytes) (payloads : List Bytes)
    (dests : List (String × Nat)) : Keeps I (signFor d sigChain elem payloads dests) := by
  induction dests generalizing sigChain with
  | nil => exact keeps_pure _
  | cons dest dests ih =>
      refine keeps_bind (keeps_ofExcept _) fun parsed => keeps_bind (keeps_unwrap _) fun payload => ?_
      exact keeps_bind keeps_get fun c => keeps_bind (ih _) fun signatures => keeps_pure _

theorem keeps_createOutboundMessage (nonce : UInt32) (dests : List String) (payloads : List Bytes)
    (maxHoldingSeconds : UInt32) :
    Keeps I (createOutboundMessage d nonce dests payloads maxHoldingSeconds) := by
  refine keeps_bind keeps_get fun c => keeps_bind (keeps_unwrap _) fun node => ?_
  refine keeps_bind (keeps_unwrap _) fun nodePublicKey => keeps_bind ?_ fun blockHash => ?_
  · cases c.sigChainBlockHash with
    | none => exact keeps_pure _
    | some hash => exact keeps_unwrap _
  · exact keeps_bind (keeps_signFor _ _ _ _) fun signatures => keeps_pure _

theorem keeps_batch (maxHoldingSeconds : UInt32) (rest : List (Bytes × String)) (totalSize : Nat)
    (destList : List String) (payloadList : List Bytes)
    (outboundMsgs : List Pb.OutboundMessage) :
    Keeps I (batch d rng maxHoldingSeconds rest totalSize destList payloadList outboundMsgs) := by
  induction rest generalizing totalSize destList payloadList outboundMsgs with
  | nil => exact keeps_pure _
  | cons next rest ih =>
      refine keeps_ite (keeps_throw _) (keeps_ite ?_ (ih _ _ _ _))
      exact keeps_bind (keeps_createOutboundMessage _ _ _ _) fun outboundMsg => ih _ _ _ _

/-- Sending changes the shared keys and the queue of the websocket. -/
theorem SendFrame.sendMessages (frame : SendFrame I) (dests : List String)
    (payload : Pb.Payloads.Payload) (encrypted : Bool) (maxHoldingSeconds : UInt32) :
    Keeps I (sendMessages d rng dests payload encrypted maxHoldingSeconds) := by
  refine keeps_bind (keeps_ofExcept _) fun dests => keeps_ite (keeps_pure _) ?_
  refine keeps_bind (frame.createPayloads _ _ _) fun payloads => ?_
  refine keeps_bind (keeps_ite (keeps_batch _ _ _ _ _ _) ?_) fun packed => ?_
  · refine keeps_bind (keeps_unwrap _) fun payload => ?_
    exact keeps_ite (keeps_throw _) (keeps_pure _)
  · refine keeps_bind (keeps_createOutboundMessage _ _ _ _) fun last => ?_
    exact keeps_forM fun outboundMsg => keeps_logged (frame.writeMessage _)

end Frame

end NknSdk
