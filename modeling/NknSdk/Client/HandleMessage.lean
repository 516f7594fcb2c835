import NknSdk.Client.Client

/-!
# Handling what the node sends

`handle_message` of `src/client.rs`.  A text frame is a JSON message of the node
itself.  A binary frame is a client message, of which only inbound messages are
handled: the payload is decoded through its wrappings, and goes to a response
channel if it is a reply and to the message channel if it is not.

Replies are looked up under their `reply_to_id` in hexadecimal.
-/

namespace NknSdk

open Exec

/-! ## Text frames -/

/-- `bounded(1).send` on the channel of connections. -/
def sendConnect (node : Node) : ClientCall Unit := do
  let c ← get
  if c.connectChannel.isSome then block
  else modify fun c => { c with connectChannel := some node }

/-- The answer to `setClient`. -/
def handleSetClient (d : ClientDeps) (msg : Json) : ClientCall Unit := do
  let result ← unwrap (d.setClientResult (msg.get "Result"))
  modify fun c => { c with sigChainBlockHash := some result.sigChainBlockHash }
  let c ← get
  if c.closed then return ()
  else
    let node ← unwrap c.node
    sendConnect node

def challengeChannelLen : Nat := 100

/-- `bounded(100).send` of a signed challenge.  Once its receiver is gone, the error
is logged. -/
def sendChallenge (saltSignature : StSaltAndSignature) : ClientCall Unit := do
  let c ← get
  match c.challengeChannel with
  | none => return ()
  | some queue =>
      if challengeChannelLen ≤ queue.length then block
      else modify fun c => { c with challengeChannel := some (queue ++ [saltSignature]) }

/-- The challenge of the node. -/
def handleAuthChallenge (d : ClientDeps) (rng : Draws) (msg : Json) : ClientCall Unit := do
  let challenge ← unwrap (msg.get "Challenge").asStr
  let challengeBytes ← unwrap (Hex.decode challenge)
  let c ← get
  let hash := d.primitives.sha256Hash (challengeBytes ++ rng.clientSalt.toList)
  let wallet : Wallet := { account := c.account }
  sendChallenge
    { clientSalt := rng.clientSalt.toList, signature := wallet.sign d.primitives hash }

/-- The text branch of `handle_message`. -/
def handleText (d : ClientDeps) (rng : Draws) (data : Bytes) : ClientCall Unit := do
  let msg ← unwrap (d.parseJson data)
  let action ← unwrap (msg.get "Action").asStr
  let code ← unwrap (msg.get "Error").asI64
  let error ← unwrap (NKNError.fromI64 code)
  if error ≠ .success then
    if error = .wrongNode then panic
    else throw "Error"
  else if action = "setClient" then handleSetClient d msg
  else if action = "updateSigChainBlockHash" then
    let hash ← unwrap (msg.get "Result").asStr
    modify fun c => { c with sigChainBlockHash := some hash }
  else if action = "authChallenge" then handleAuthChallenge d rng msg
  else return ()

/-! ## Binary frames -/

/-- `client::send_receipt`. -/
def sendReceipt (d : ClientDeps) (prevSignature : Bytes) : ClientCall Unit := do
  let c ← get
  let sigChainElement : Pb.SigChainElem := {}
  let digest := d.primitives.sha256Hash
    (d.primitives.sha256Hash prevSignature ++ sigChainElement.serializeUnsigned)
  let publicKey := d.publicKeyOf c.account.privateKey
  let signature := d.primitives.ed25519Sign digest
    (c.account.privateKey.toList ++ publicKey.toList)
  let receipt : Pb.Receipt := { prevHash := prevSignature, signature := signature.toList }
  let clientMsg : Pb.ClientMessage :=
    { messageType := Pb.ClientMessageType.receipt.toI32
      message := receipt.encode
      compressionType := Pb.CompressionType.compressionNone.toI32 }
  writeMessage clientMsg.encode

/-- `client::decrypt_payload`. -/
def decryptPayload (d : ClientDeps) (msg : Pb.Payloads.Message) (srcAddress : String) :
    ClientCall Bytes := do
  let (_, srcPubkey, _) ← ofExcept (Utils.parseClientAddress d.primitives srcAddress)
  let sharedKey ← sharedKeyWith d srcPubkey
  if msg.encryptedKey ≠ [] then
    require (nonceSize ≤ msg.nonce.length)
    let key ← decrypt d msg.encryptedKey (msg.nonce.take nonceSize) sharedKey.toList
    let key ← unwrap key
    let payload ← decrypt d msg.payload (msg.nonce.drop nonceSize) key
    unwrap payload
  else
    let payload ← decrypt d msg.payload msg.nonce sharedKey.toList
    unwrap payload

/-- The bytes of a payload, decrypted if they have to be. -/
def payloadBytes (d : ClientDeps) (msg : Pb.Payloads.Message) (src : String) : ClientCall Bytes :=
  if msg.encrypted then decryptPayload d msg src else pure msg.payload

/-- The data of a payload by its type. -/
def payloadData (d : ClientDeps) (payload : Pb.Payloads.Payload) : ClientCall Bytes :=
  match Pb.Payloads.PayloadType.fromI32 payload.type with
  | some .text => do
      let textData ← unwrap (d.decodeTextData payload.data)
      return textData.text.toUTF8.toList
  | some .ack => return []
  | _ => return payload.data

/-- The look-up of a reply among the response channels. -/
def dispatchReply (replyToId : Bytes) (msg : Message) : ClientCall Unit := do
  let c ← get
  let msgIdStr := Hex.encode replyToId
  match c.responseChannels.lookup msgIdStr with
  | none => modify fun c => { c with dispatches := c.dispatches ++ [{ replyToId, channel := none }] }
  | some channel =>
      if channel.queue.isSome then block
      else
        modify fun c => { c with
          responseChannels :=
            c.responseChannels.insert msgIdStr { channel with queue := some msg }
          dispatches := c.dispatches ++ [{ replyToId, channel := some channel.messageId }] }
        modify fun c => { c with responseChannels := c.responseChannels.erase msgIdStr }

/-- `bounded(1).send` on the channel of messages. -/
def sendMessage (msg : Message) : ClientCall Unit := do
  let c ← get
  if c.messageChannel.isSome then block
  else modify fun c => { c with messageChannel := some msg }

/-- A payload that has been decoded. -/
def handlePayload (d : ClientDeps) (src : String) (encrypted : Bool)
    (payload : Pb.Payloads.Payload) : ClientCall Unit := do
  let data ← payloadData d payload
  let msg : Message :=
    { src
      data
      type := payload.type.toUInt32
      encrypted
      messageId := payload.messageId
      noReply := payload.noReply }
  if payload.replyToId ≠ [] then dispatchReply payload.replyToId msg
  else
    let c ← get
    if c.closed then return () else sendMessage msg

/-- An inbound message. -/
def handleInbound (d : ClientDeps) (inboundMsg : Pb.InboundMessage) : ClientCall Unit := do
  when (inboundMsg.prevHash ≠ []) (spawn (sendReceipt d inboundMsg.prevHash))
  let payloadMsg ← unwrap (d.decodeMessage inboundMsg.payload)
  let bytes ← payloadBytes d payloadMsg inboundMsg.src
  let payload ← unwrap (d.decodePayload bytes)
  handlePayload d inboundMsg.src payloadMsg.encrypted payload

/-- The binary branch of `handle_message`. -/
def handleBinary (d : ClientDeps) (data : Bytes) : ClientCall Unit := do
  let clientMsg ← unwrap (d.decodeClientMessage data)
  match Pb.ClientMessageType.fromI32 clientMsg.messageType with
  | some .inboundMessage =>
      let inboundMsg ← unwrap (d.decodeInboundMessage clientMsg.message)
      handleInbound d inboundMsg
  | _ => return ()

/-- `client::handle_message`. -/
def handleMessage (d : ClientDeps) (rng : Draws) (isText : Bool) (data : Bytes) :
    ClientCall Unit := do
  let c ← get
  if c.closed then return ()
  else if isText then handleText d rng data
  else handleBinary d data

/-! ## What handling leaves alone -/

section Frame

variable {I : Client → Prop} {d : ClientDeps}

theorem Frame.handleSetClient (frame : Frame I) (msg : Json) :
    Keeps I (handleSetClient d msg) := by
  refine keeps_bind (keeps_unwrap _) fun result => ?_
  refine keeps_bind (keeps_modify fun c h => frame.sigChainBlockHash c _ h) fun _ => ?_
  refine keeps_bind keeps_get fun c => keeps_ite (keeps_pure _) ?_
  refine keeps_bind (keeps_unwrap _) fun node => keeps_bind keeps_get fun c => ?_
  exact keeps_ite keeps_block (keeps_modify fun c h => frame.connectChannel c _ h)

theorem Frame.handleAuthChallenge (frame : Frame I) (rng : Draws) (msg : Json) :
    Keeps I (handleAuthChallenge d rng msg) := by
  refine keeps_bind (keeps_unwrap _) fun challenge => keeps_bind (keeps_unwrap _) fun bytes => ?_
  refine keeps_bind keeps_get fun c => keeps_bind keeps_get fun c' => ?_
  cases c'.challengeChannel with
  | none => exact keeps_pure _
  | some queue =>
      exact keeps_ite keeps_block (keeps_modify fun c h => frame.challengeChannel c _ h)

/-- A text frame. -/
theorem Frame.handleText (frame : Frame I) (rng : Draws) (data : Bytes) :
    Keeps I (handleText d rng data) := by
  refine keeps_bind (keeps_unwrap _) fun msg => keeps_bind (keeps_unwrap _) fun action => ?_
  refine keeps_bind (keeps_unwrap _) fun code => keeps_bind (keeps_unwrap _) fun error => ?_
  refine keeps_ite (keeps_ite keeps_panic (keeps_throw _)) ?_
  refine keeps_ite (frame.handleSetClient msg) (keeps_ite ?_ ?_)
  · exact keeps_bind (keeps_unwrap _) fun hash =>
      keeps_modify fun c h => frame.sigChainBlockHash c _ h
  · exact keeps_ite (frame.handleAuthChallenge rng msg) (keeps_pure _)

theorem SendFrame.sendReceipt (frame : SendFrame I) (prevSignature : Bytes) :
    Keeps I (sendReceipt d prevSignature) :=
  keeps_bind keeps_get fun _ => frame.writeMessage _

/-- Decrypting changes the shared keys at most. -/
theorem keeps_decryptPayload (hkeys : ∀ c sharedKeys, I c → I { c with sharedKeys })
    (msg : Pb.Payloads.Message) (src : String) : Keeps I (decryptPayload d msg src) := by
  refine keeps_bind (keeps_ofExcept _) fun parsed => ?_
  refine keeps_bind (keeps_bind keeps_get fun _ => keeps_zoom hkeys _) fun sharedKey =>
    keeps_ite ?_ ?_
  · refine keeps_bind (keeps_require _) fun _ => keeps_bind (keeps_decrypt _ _ _) fun key => ?_
    refine keeps_bind (keeps_unwrap _) fun key => keeps_bind (keeps_decrypt _ _ _) fun payload => ?_
    exact keeps_unwrap _
  · exact keeps_bind (keeps_decrypt _ _ _) fun payload => keeps_unwrap _

theorem keeps_payloadData (payload : Pb.Payloads.Payload) : Keeps I (payloadData d payload) := by
  unfold payloadData
  split
  next => exact keeps_bind (keeps_unwrap _) fun _ => keeps_pure _
  next => exact keeps_pure _
  next => exact keeps_pure _

/-- A binary frame, where a reply is dispatched under `I`. -/
theorem SendFrame.handleBinary (frame : SendFrame I)
    (hmessage : ∀ c messageChannel, I c → I { c with messageChannel })
    (hdispatch : ∀ replyToId msg, replyToId ≠ [] → Keeps I (dispatchReply replyToId msg))
    (data : Bytes) : Keeps I (handleBinary d data) := by
  refine keeps_bind (keeps_unwrap _) fun clientMsg => ?_
  split
  next =>
    refine keeps_bind (keeps_unwrap _) fun inboundMsg => ?_
    refine keeps_bind (keeps_when (keeps_spawn (frame.sendReceipt _))) fun _ => ?_
    refine keeps_bind (keeps_unwrap _) fun payloadMsg => ?_
    have hdecrypt := fun msg src => keeps_decryptPayload (d := d) frame.sharedKeys msg src
    refine keeps_bind (keeps_ite (hdecrypt _ _) (keeps_pure _)) fun bytes => ?_
    refine keeps_bind (keeps_unwrap _) fun payload => ?_
    refine keeps_bind (keeps_payloadData payload) fun data => ?_
    by_cases hreply : payload.replyToId ≠ []
    · rw [if_pos hreply]
      exact hdispatch _ _ hreply
    · rw [if_neg hreply]
      refine keeps_bind keeps_get fun c => keeps_ite (keeps_pure _) ?_
      refine keeps_bind keeps_get fun c => keeps_ite keeps_block ?_
      exact keeps_modify fun c h => hmessage c _ h
  next => exact keeps_pure _

theorem Frame.handleMessage (frame : Frame I)
    (hdispatch : ∀ replyToId msg, replyToId ≠ [] → Keeps I (dispatchReply replyToId msg))
    (rng : Draws) (isText : Bool) (data : Bytes) : Keeps I (handleMessage d rng isText data) := by
  refine keeps_bind keeps_get fun c => keeps_ite (keeps_pure _) ?_
  exact keeps_ite (frame.handleText rng data)
    (frame.handleBinary frame.messageChannel hdispatch data)

end Frame

end NknSdk
