import NknSdk.Client.Encryption

/-!
# What a frame does to the receive loop

`handle_message` is made of unwraps.  A frame that is well formed on every level it
is read on is handled, and the call comes back.  Everything else panics, with two
exceptions: an error that the node reports, and a source address that cannot be
parsed when there is something to decrypt.

The `Accepted` propositions say on which frames the call comes back, in which state
of the client; the channels matter, since a send on a full one waits.
`handles_safely_iff` is that they say exactly this.
-/

namespace NknSdk

open Exec

variable {d : ClientDeps} {c : Client}

/-! ## Text frames -/

/-- There is room for a signed challenge, or nobody waits for one. -/
def Client.TakesChallenge (c : Client) : Prop :=
  ∀ queue ∈ c.challengeChannel, queue.length < challengeChannelLen

/-- The entries that the action needs are there, and there is room for its result. -/
structure ActionAccepted (d : ClientDeps) (c : Client) (msg : Json) (action : String) : Prop where
  setClient : action = "setClient" →
    (∃ result, d.setClientResult (msg.get "Result") = some result) ∧ ¬ c.connectChannel.isSome
  updateSigChainBlockHash : action = "updateSigChainBlockHash" →
    ∃ hash, (msg.get "Result").asStr = some hash
  authChallenge : action = "authChallenge" →
    ∃ challenge, (msg.get "Challenge").asStr = some challenge ∧
      (∃ bytes, Hex.decode challenge = some bytes) ∧ c.TakesChallenge

def TextAccepted (d : ClientDeps) (c : Client) (data : Bytes) : Prop :=
  ∃ msg, d.parseJson data = some msg ∧
    ∃ action, (msg.get "Action").asStr = some action ∧
      ∃ code, (msg.get "Error").asI64 = some code ∧
        ∃ error, NKNError.fromI64 code = some error ∧
          error ≠ .wrongNode ∧ (error = .success → ActionAccepted d c msg action)

theorem handleSetClient_returns (msg : Json) (hopen : c.closed = false) (hnode : c.node.isSome) :
    (handleSetClient d msg c).1.Returns ↔
      (∃ result, d.setClientResult (msg.get "Result") = some result) ∧
        ¬ c.connectChannel.isSome := by
  obtain ⟨node, hnode⟩ := Option.isSome_iff_exists.mp hnode
  rw [handleSetClient, returns_unwrap_bind]
  simp only [modify_bind_apply, get_bind_apply, hopen, Bool.false_eq_true, if_false, hnode,
    unwrap_some, pure_bind, sendConnect, returns_ite_block, exists_and_right]

theorem sendChallenge_returns (saltSignature : StSaltAndSignature) :
    (sendChallenge saltSignature c).1.Returns ↔ c.TakesChallenge := by
  rw [sendChallenge, get_bind_apply, Client.TakesChallenge]
  cases c.challengeChannel with
  | none => simp
  | some queue =>
      dsimp only
      rw [returns_ite_block]
      simp

theorem handleAuthChallenge_returns (rng : Draws) (msg : Json) :
    (handleAuthChallenge d rng msg c).1.Returns ↔
      ∃ challenge, (msg.get "Challenge").asStr = some challenge ∧
        (∃ bytes, Hex.decode challenge = some bytes) ∧ c.TakesChallenge := by
  simp only [handleAuthChallenge, returns_unwrap_bind, get_bind_apply, sendChallenge_returns,
    exists_and_right]

theorem handleText_returns (rng : Draws) (data : Bytes) (hopen : c.closed = false)
    (hnode : c.node.isSome) :
    (handleText d rng data c).1.Returns ↔ TextAccepted d c data := by
  simp only [handleText, returns_unwrap_bind, TextAccepted]
  refine exists_congr fun msg => and_congr_right fun _ => exists_congr fun action =>
    and_congr_right fun _ => exists_congr fun code => and_congr_right fun _ =>
      exists_congr fun error => and_congr_right fun _ => ?_
  by_cases hsuccess : error = .success
  · subst hsuccess
    simp only [ne_eq, not_true_eq_false, if_false, reduceCtorEq, not_false_eq_true, true_and,
      true_implies]
    by_cases hsetClient : action = "setClient"
    · subst hsetClient
      rw [if_pos rfl, handleSetClient_returns msg hopen hnode]
      exact ⟨fun h => ⟨fun _ => h, by simp, by simp⟩, fun h => h.setClient rfl⟩
    · rw [if_neg hsetClient]
      by_cases hupdate : action = "updateSigChainBlockHash"
      · subst hupdate
        simp only [if_true, returns_unwrap_bind, modify_apply, Outcome.returns_ok, and_true]
        exact ⟨fun h => ⟨by simp, fun _ => h, by simp⟩, fun h => h.updateSigChainBlockHash rfl⟩
      · rw [if_neg hupdate]
        by_cases hchallenge : action = "authChallenge"
        · subst hchallenge
          rw [if_pos rfl, handleAuthChallenge_returns]
          exact ⟨fun h => ⟨by simp, by simp, fun _ => h⟩, fun h => h.authChallenge rfl⟩
        · rw [if_neg hchallenge]
          simp only [pure_apply, Outcome.returns_ok, true_iff]
          exact ⟨fun h => absurd h hsetClient, fun h => absurd h hupdate,
            fun h => absurd h hchallenge⟩
  · by_cases hwrong : error = .wrongNode
    · simp [hwrong]
    · simp [hsuccess, hwrong]

/-! ## Binary frames -/

/-- The payload's data can be read, and there is room where the message goes. -/
structure PayloadAccepted (d : ClientDeps) (c : Client) (payload : Pb.Payloads.Payload) : Prop where
  text : Pb.Payloads.PayloadType.fromI32 payload.type = some .text →
    ∃ textData, d.decodeTextData payload.data = some textData
  reply : payload.replyToId ≠ [] →
    ∀ channel ∈ c.responseChannels.lookup (Hex.encode payload.replyToId), ¬ channel.queue.isSome
  message : payload.replyToId = [] → ¬ c.messageChannel.isSome

/-- The bytes of the payload, which the client can decrypt if it has to. -/
def Reveals (d : ClientDeps) (c : Client) (src : String) (msg : Pb.Payloads.Message)
    (bytes : Bytes) : Prop :=
  (msg.encrypted = false ∧ msg.payload = bytes) ∨
    (msg.encrypted = true ∧ ∃ srcPubkey sharedKey, ParsesTo d src srcPubkey ∧
      (sharedKeyWith d srcPubkey c).1 = .ok sharedKey ∧
      contents d msg sharedKey.toList = some bytes)

/-- There is something to decrypt, but the source address cannot be parsed. -/
def BadSource (d : ClientDeps) (src : String) (msg : Pb.Payloads.Message) : Prop :=
  msg.encrypted = true ∧ ∃ e, Utils.parseClientAddress d.primitives src = .error e

def InboundAccepted (d : ClientDeps) (c : Client) (inboundMsg : Pb.InboundMessage) : Prop :=
  ∃ payloadMsg, d.decodeMessage inboundMsg.payload = some payloadMsg ∧
    (BadSource d inboundMsg.src payloadMsg ∨
      ∃ bytes, Reveals d c inboundMsg.src payloadMsg bytes ∧
        ∃ payload, d.decodePayload bytes = some payload ∧ PayloadAccepted d c payload)

def BinaryAccepted (d : ClientDeps) (c : Client) (data : Bytes) : Prop :=
  ∃ clientMsg, d.decodeClientMessage data = some clientMsg ∧
    (Pb.ClientMessageType.fromI32 clientMsg.messageType = some .inboundMessage →
      ∃ inboundMsg, d.decodeInboundMessage clientMsg.message = some inboundMsg ∧
        InboundAccepted d c inboundMsg)

theorem dispatchReply_returns (replyToId : Bytes) (msg : Message) :
    (dispatchReply replyToId msg c).1.Returns ↔
      ∀ channel ∈ c.responseChannels.lookup (Hex.encode replyToId), ¬ channel.queue.isSome := by
  rw [dispatchReply, get_bind_apply]
  cases c.responseChannels.lookup (Hex.encode replyToId) with
  | none => simp
  | some channel =>
      cases hqueue : channel.queue with
      | none => simp [hqueue]
      | some reply => simp [hqueue]

/-- The data of a payload is read before anything that depends on it. -/
theorem payloadData_bind_returns {payload : Pb.Payloads.Payload} {f : Bytes → ClientCall Unit}
    {P : Prop} (hf : ∀ data, (f data c).1.Returns ↔ P) :
    ((payloadData d payload >>= f) c).1.Returns ↔
      (Pb.Payloads.PayloadType.fromI32 payload.type = some .text →
        ∃ textData, d.decodeTextData payload.data = some textData) ∧ P := by
  unfold payloadData
  split
  next htext =>
    cases hdata : d.decodeTextData payload.data with
    | none => simp [htext]
    | some textData =>
        simp only [unwrap_some, pure_bind, hf, htext, true_implies, Option.some.injEq,
          exists_eq', true_and]
  next hack => simp [hack, hf]
  next hnot _ =>
    simp only [pure_bind, hf]
    exact ⟨fun h => ⟨fun htext => absurd htext hnot, h⟩, fun h => h.2⟩

theorem handlePayload_returns (src : String) (encrypted : Bool) (payload : Pb.Payloads.Payload)
    (hopen : c.closed = false) :
    (handlePayload d src encrypted payload c).1.Returns ↔ PayloadAccepted d c payload := by
  have hchannel : ∀ msg, ((if payload.replyToId ≠ [] then dispatchReply payload.replyToId msg
      else do
        let c ← get
        if c.closed then return () else sendMessage msg : ClientCall Unit) c).1.Returns ↔
      (payload.replyToId ≠ [] → ∀ channel ∈ c.responseChannels.lookup (Hex.encode payload.replyToId),
        ¬ channel.queue.isSome) ∧ (payload.replyToId = [] → ¬ c.messageChannel.isSome) := by
    intro msg
    by_cases hreply : payload.replyToId = []
    · rw [if_neg (not_not_intro hreply), get_bind_apply, if_neg (by simp [hopen]), sendMessage,
        get_bind_apply, returns_ite_block]
      exact ⟨fun h => ⟨fun hne => absurd hreply hne, fun _ => h⟩, fun h => h.2 hreply⟩
    · rw [if_pos hreply, dispatchReply_returns]
      exact ⟨fun h => ⟨fun _ => h, fun heq => absurd heq hreply⟩, fun h => h.1 hreply⟩
  rw [handlePayload, payloadData_bind_returns fun data => hchannel _]
  exact ⟨fun h => ⟨h.1, h.2.1, h.2.2⟩, fun h => ⟨h.text, h.reply, h.message⟩⟩

/-- The shared key is found or computed, or the public key is not on the curve. -/
theorem sharedKeyWith_cases (publicKey : PublicKey) :
    (∃ sharedKey, (sharedKeyWith d publicKey c).1 = .ok sharedKey) ∨
      (sharedKeyWith d publicKey c).1 = .panic := by
  rw [sharedKeyWith_eq, Utils.getOrComputeSharedKey_eq]
  cases (Memo.call Utils.keyText (Utils.uncached d.toCurve25519Pk d.precompute c.curveSecretKey)
      publicKey c.sharedKeys).1 with
  | none => exact Or.inr rfl
  | some sharedKey => exact Or.inl ⟨sharedKey, rfl⟩

/-- What decrypting with the key of a parsed address gives is what the message
reveals. -/
theorem reveals_iff {msg : Pb.Payloads.Message} {src : String} {srcPubkey : PublicKey}
    (hencrypted : msg.encrypted = true) (hsrc : ParsesTo d src srcPubkey) (bytes : Bytes) :
    Reveals d c src msg bytes ↔ ∃ sharedKey, (sharedKeyWith d srcPubkey c).1 = .ok sharedKey ∧
      contents d msg sharedKey.toList = some bytes := by
  constructor
  · rintro (⟨hplain, -⟩ | ⟨-, pk, sharedKey, hpk, hkey, hcontents⟩)
    · rw [hencrypted] at hplain
      cases hplain
    · cases hsrc.unique hpk
      exact ⟨sharedKey, hkey, hcontents⟩
  · rintro ⟨sharedKey, hkey, hcontents⟩
    exact Or.inr ⟨hencrypted, srcPubkey, sharedKey, hsrc, hkey, hcontents⟩

theorem Reveals.not_badSource {src : String} {msg : Pb.Payloads.Message} {bytes : Bytes}
    (h : Reveals d c src msg bytes) : ¬ BadSource d src msg := by
  rintro ⟨hencrypted, e, hparse⟩
  rcases h with ⟨hplain, -⟩ | ⟨-, pk, sharedKey, ⟨clientId, identifier, hok⟩, -⟩
  · rw [hencrypted] at hplain
    cases hplain
  · rw [hparse] at hok
    cases hok

theorem Reveals.unique {src : String} {msg : Pb.Payloads.Message} {bytes bytes' : Bytes}
    (h : Reveals d c src msg bytes) (h' : Reveals d c src msg bytes') : bytes = bytes' := by
  rcases h with ⟨hplain, rfl⟩ | ⟨hencrypted, pk, sharedKey, hpk, hkey, hcontents⟩
  · rcases h' with ⟨-, rfl⟩ | ⟨hencrypted, -⟩
    · rfl
    · rw [hplain] at hencrypted
      cases hencrypted
  · obtain ⟨sharedKey', hkey', hcontents'⟩ := (reveals_iff hencrypted hpk bytes').mp h'
    rw [hkey] at hkey'
    cases hkey'
    rw [hcontents] at hcontents'
    cases hcontents'
    rfl

theorem decryptPayload_refused {msg : Pb.Payloads.Message} {src e : String}
    (hparse : Utils.parseClientAddress d.primitives src = .error e) :
    decryptPayload d msg src c = (.err e, c) := by
  rw [decryptPayload, hparse, ofExcept_error, throw_bind, throw_apply]

/-- Decrypting gives an error if the source address cannot be parsed, what the
message reveals if it reveals something, and panics otherwise. -/
theorem payloadBytes_cases (msg : Pb.Payloads.Message) (src : String) :
    (BadSource d src msg ∧ ∃ e, payloadBytes d msg src c = (.err e, c)) ∨
      (∃ bytes sharedKeys, Reveals d c src msg bytes ∧
        payloadBytes d msg src c = (.ok bytes, { c with sharedKeys })) ∨
      (¬ BadSource d src msg ∧ (∀ bytes, ¬ Reveals d c src msg bytes) ∧
        ∃ c', payloadBytes d msg src c = (.panic, c')) := by
  unfold payloadBytes
  split
  next hencrypted =>
    cases hparse : Utils.parseClientAddress d.primitives src with
    | error e =>
        exact Or.inl ⟨⟨hencrypted, e, hparse⟩, e, decryptPayload_refused hparse⟩
    | ok parsed =>
        obtain ⟨clientId, srcPubkey, identifier⟩ := parsed
        have hsrc : ParsesTo d src srcPubkey := ⟨clientId, identifier, hparse⟩
        have hgood : ¬ BadSource d src msg := by
          rintro ⟨-, e, he⟩
          rw [hparse] at he
          cases he
        have hreveals := reveals_iff (c := c) hencrypted hsrc
        rcases sharedKeyWith_cases (d := d) (c := c) srcPubkey with ⟨sharedKey, hkey⟩ | hkey
        · rw [decryptPayload_eq msg hsrc (Prod.ext hkey rfl)]
          cases hcontents : contents d msg sharedKey.toList with
          | some bytes =>
              exact Or.inr (Or.inl ⟨bytes, (sharedKeyWith d srcPubkey c).2.sharedKeys,
                (hreveals bytes).mpr ⟨sharedKey, hkey, hcontents⟩, rfl⟩)
          | none =>
              refine Or.inr (Or.inr ⟨hgood, fun bytes h => ?_, _, rfl⟩)
              obtain ⟨sharedKey', hkey', hcontents'⟩ := (hreveals bytes).mp h
              rw [hkey] at hkey'
              cases hkey'
              rw [hcontents] at hcontents'
              cases hcontents'
        · refine Or.inr (Or.inr ⟨hgood, fun bytes h => ?_, (sharedKeyWith d srcPubkey c).2, ?_⟩)
          · obtain ⟨sharedKey, hkey', -⟩ := (hreveals bytes).mp h
            rw [hkey] at hkey'
            cases hkey'
          · have hpanic : sharedKeyWith d srcPubkey c = (.panic, (sharedKeyWith d srcPubkey c).2) :=
              Prod.ext hkey rfl
            rw [decryptPayload, hparse, ofExcept_ok, pure_bind]
            dsimp only
            exact bind_panic hpanic
  next hplain =>
    refine Or.inr (Or.inl ⟨msg.payload, c.sharedKeys, Or.inl ⟨by simpa using hplain, rfl⟩, rfl⟩)

/-- A receipt is sent by a task of its own, which touches only the queue of the
websocket. -/
theorem receipt_eq (prevHash : Bytes) : ∃ stdin,
    (when (prevHash ≠ []) (spawn (sendReceipt d prevHash)) : ClientCall Unit) c =
      (.ok (), { c with stdin }) := by
  by_cases hprev : prevHash ≠ []
  · rw [when_pos hprev, spawn, sendReceipt, get_bind_apply, writeMessage, get_bind_apply]
    cases hstdin : c.stdin with
    | none =>
        rw [unwrap_none, panic_bind]
        exact ⟨c.stdin, rfl⟩
    | some stdin =>
        rw [unwrap_some, pure_bind]
        by_cases hstdinOpen : stdin.isOpen
        · rw [if_pos hstdinOpen]
          exact ⟨_, rfl⟩
        · rw [if_neg hstdinOpen]
          exact ⟨c.stdin, rfl⟩
  · rw [when_neg hprev]
    exact ⟨c.stdin, rfl⟩

theorem handleInbound_returns (inboundMsg : Pb.InboundMessage) (hopen : c.closed = false) :
    (handleInbound d inboundMsg c).1.Returns ↔ InboundAccepted d c inboundMsg := by
  obtain ⟨stdin, hreceipt⟩ := receipt_eq (d := d) (c := c) inboundMsg.prevHash
  rw [handleInbound, bind_ok hreceipt, returns_unwrap_bind, InboundAccepted]
  refine exists_congr fun payloadMsg => and_congr_right fun _ => ?_
  rcases payloadBytes_cases (d := d) (c := { c with stdin }) payloadMsg inboundMsg.src with
    ⟨hbad, e, heq⟩ | ⟨bytes, sharedKeys, hreveals, heq⟩ | ⟨hgood, hnone, c', heq⟩
  · rw [bind_err heq]
    simp [hbad]
  · rw [bind_ok heq, returns_unwrap_bind]
    have hgood : ¬ BadSource d inboundMsg.src payloadMsg := hreveals.not_badSource
    constructor
    · rintro ⟨payload, hpayload, hreturns⟩
      rw [handlePayload_returns _ _ _ (by exact hopen)] at hreturns
      obtain ⟨htext, hreply, hmessage⟩ := hreturns
      exact Or.inr ⟨bytes, hreveals, payload, hpayload,
        ⟨htext, hreply, hmessage⟩⟩
    · rintro (hbad | ⟨bytes', hreveals', payload, hpayload, haccepted⟩)
      · exact absurd hbad hgood
      · cases hreveals.unique hreveals'
        refine ⟨payload, hpayload, ?_⟩
        rw [handlePayload_returns _ _ _ (by exact hopen)]
        exact ⟨haccepted.text, haccepted.reply, haccepted.message⟩
  · rw [bind_panic heq]
    simp only [Outcome.not_returns_panic, false_iff, not_or, not_exists, not_and]
    exact ⟨hgood, fun bytes hreveals => absurd hreveals (hnone bytes)⟩

theorem handleBinary_returns (data : Bytes) (hopen : c.closed = false) :
    (handleBinary d data c).1.Returns ↔ BinaryAccepted d c data := by
  rw [handleBinary, returns_unwrap_bind, BinaryAccepted]
  refine exists_congr fun clientMsg => and_congr_right fun _ => ?_
  cases Pb.ClientMessageType.fromI32 clientMsg.messageType with
  | none => simp
  | some type =>
      cases type with
      | inboundMessage =>
          simp only [returns_unwrap_bind, handleInbound_returns _ hopen, true_implies]
      | outboundMessage => simp
      | receipt => simp

/-! ## Malformed frames -/

inductive MalformedText (d : ClientDeps) (data : Bytes) : Prop where
  | json (hjson : d.parseJson data = none)
  | error {msg : Json} (hjson : d.parseJson data = some msg)
      (herror : (msg.get "Error").asI64.bind NKNError.fromI64 = none)

/-- A message whose payload cannot be got at, or cannot be read. -/
inductive MalformedMessage (d : ClientDeps) (c : Client) (src : String)
    (msg : Pb.Payloads.Message) : Prop where
  | source (hbad : BadSource d src msg)
  /-- The nonce has the wrong length, or the contents do not decrypt. -/
  | contents {srcPubkey : PublicKey} {sharedKey : SharedKey} (hencrypted : msg.encrypted = true)
      (hsrc : ParsesTo d src srcPubkey) (hkey : (sharedKeyWith d srcPubkey c).1 = .ok sharedKey)
      (hcontents : NknSdk.contents d msg sharedKey.toList = none)
  | payload {bytes : Bytes} (hreveals : Reveals d c src msg bytes)
      (hpayload : d.decodePayload bytes = none)
  | textData {bytes : Bytes} {payload : Pb.Payloads.Payload} (hreveals : Reveals d c src msg bytes)
      (hpayload : d.decodePayload bytes = some payload)
      (htext : Pb.Payloads.PayloadType.fromI32 payload.type = some .text)
      (hdata : d.decodeTextData payload.data = none)

/-- The inbound message that a binary frame carries. -/
def Carries (d : ClientDeps) (data : Bytes) (inboundMsg : Pb.InboundMessage) : Prop :=
  ∃ clientMsg, d.decodeClientMessage data = some clientMsg ∧
    Pb.ClientMessageType.fromI32 clientMsg.messageType = some .inboundMessage ∧
      d.decodeInboundMessage clientMsg.message = some inboundMsg

inductive MalformedBinary (d : ClientDeps) (c : Client) (data : Bytes) : Prop where
  | clientMessage (hclient : d.decodeClientMessage data = none)
  | inboundMessage {clientMsg : Pb.ClientMessage}
      (hclient : d.decodeClientMessage data = some clientMsg)
      (htype : Pb.ClientMessageType.fromI32 clientMsg.messageType = some .inboundMessage)
      (hinbound : d.decodeInboundMessage clientMsg.message = none)
  | message {inboundMsg : Pb.InboundMessage} (hcarries : Carries d data inboundMsg)
      (hmessage : d.decodeMessage inboundMsg.payload = none)
  | contents {inboundMsg : Pb.InboundMessage} {payloadMsg : Pb.Payloads.Message}
      (hcarries : Carries d data inboundMsg)
      (hmessage : d.decodeMessage inboundMsg.payload = some payloadMsg)
      (hmalformed : MalformedMessage d c inboundMsg.src payloadMsg)

/-- The frame is malformed on a level that it is read on. -/
def Malformed (d : ClientDeps) (c : Client) (isText : Bool) (data : Bytes) : Prop :=
  if isText then MalformedText d data else MalformedBinary d c data

def Accepted (d : ClientDeps) (c : Client) (isText : Bool) (data : Bytes) : Prop :=
  if isText then TextAccepted d c data else BinaryAccepted d c data

/-- The call comes back, and a malformed frame gives an error and nothing else. -/
structure HandlesSafely (d : ClientDeps) (rng : Draws) (c : Client) (isText : Bool)
    (data : Bytes) : Prop where
  returns : (handleMessage d rng isText data c).1.Returns
  rejects : Malformed d c isText data → ∃ e c', handleMessage d rng isText data c = (.err e, c') ∧
    c'.sigChainBlockHash = c.sigChainBlockHash ∧ c'.responseChannels = c.responseChannels ∧
      c'.messageChannel = c.messageChannel

theorem TextAccepted.not_malformed {data : Bytes} (h : TextAccepted d c data) :
    ¬ MalformedText d data := by
  obtain ⟨msg, hmsg, action, -, code, hcode, error, herror, -⟩ := h
  intro hmalformed
  cases hmalformed with
  | json hjson =>
      rw [hmsg] at hjson
      cases hjson
  | error hjson hnone =>
      rw [hmsg] at hjson
      cases hjson
      rw [hcode, Option.bind_some, herror] at hnone
      cases hnone

/-- Of the malformed messages only those with a bad source address are handled. -/
theorem InboundAccepted.badSource {inboundMsg : Pb.InboundMessage}
    {payloadMsg : Pb.Payloads.Message} (h : InboundAccepted d c inboundMsg)
    (hmessage : d.decodeMessage inboundMsg.payload = some payloadMsg)
    (hmalformed : MalformedMessage d c inboundMsg.src payloadMsg) :
    BadSource d inboundMsg.src payloadMsg := by
  obtain ⟨payloadMsg', hmessage', h⟩ := h
  rw [hmessage] at hmessage'
  cases hmessage'
  rcases h with hbad | ⟨bytes, hreveals, payload, hpayload, haccepted⟩
  · exact hbad
  · exfalso
    cases hmalformed with
    | source hbad => exact hreveals.not_badSource hbad
    | contents hencrypted hsrc hkey hcontents =>
        obtain ⟨sharedKey, hkey', hcontents'⟩ := (reveals_iff hencrypted hsrc bytes).mp hreveals
        rw [hkey] at hkey'
        cases hkey'
        rw [hcontents] at hcontents'
        cases hcontents'
    | payload hreveals' hpayload' =>
        cases hreveals.unique hreveals'
        rw [hpayload] at hpayload'
        cases hpayload'
    | textData hreveals' hpayload' htext hdata =>
        cases hreveals.unique hreveals'
        rw [hpayload] at hpayload'
        cases hpayload'
        obtain ⟨textData, hdata'⟩ := haccepted.text htext
        rw [hdata] at hdata'
        cases hdata'

theorem BinaryAccepted.inbound {data : Bytes} {inboundMsg : Pb.InboundMessage}
    (h : BinaryAccepted d c data) (hcarries : Carries d data inboundMsg) :
    InboundAccepted d c inboundMsg := by
  obtain ⟨clientMsg, hclient, htype, hinbound⟩ := hcarries
  obtain ⟨clientMsg', hclient', h⟩ := h
  rw [hclient] at hclient'
  cases hclient'
  obtain ⟨inboundMsg', hinbound', h⟩ := h htype
  rw [hinbound] at hinbound'
  cases hinbound'
  exact h

theorem BinaryAccepted.badSource {data : Bytes} (h : BinaryAccepted d c data)
    (hmalformed : MalformedBinary d c data) :
    ∃ inboundMsg payloadMsg, Carries d data inboundMsg ∧
      d.decodeMessage inboundMsg.payload = some payloadMsg ∧
        BadSource d inboundMsg.src payloadMsg := by
  cases hmalformed with
  | clientMessage hclient =>
      obtain ⟨clientMsg, hclient', -⟩ := h
      rw [hclient] at hclient'
      cases hclient'
  | inboundMessage hclient htype hinbound =>
      obtain ⟨clientMsg, hclient', h⟩ := h
      rw [hclient] at hclient'
      cases hclient'
      obtain ⟨inboundMsg, hinbound', -⟩ := h htype
      rw [hinbound] at hinbound'
      cases hinbound'
  | message hcarries hmessage =>
      obtain ⟨payloadMsg, hmessage', -⟩ := h.inbound hcarries
      rw [hmessage] at hmessage'
      cases hmessage'
  | contents hcarries hmessage hmalformed =>
      exact ⟨_, _, hcarries, hmessage, (h.inbound hcarries).badSource hmessage hmalformed⟩

/-- A bad source address is reported, after the receipt has been sent. -/
theorem handleBinary_badSource {data : Bytes} {inboundMsg : Pb.InboundMessage}
    {payloadMsg : Pb.Payloads.Message} (hcarries : Carries d data inboundMsg)
    (hmessage : d.decodeMessage inboundMsg.payload = some payloadMsg)
    (hbad : BadSource d inboundMsg.src payloadMsg) :
    ∃ e stdin, handleBinary d data c = (.err e, { c with stdin }) := by
  obtain ⟨clientMsg, hclient, htype, hinbound⟩ := hcarries
  obtain ⟨hencrypted, e, hparse⟩ := hbad
  obtain ⟨stdin, hreceipt⟩ := receipt_eq (d := d) (c := c) inboundMsg.prevHash
  refine ⟨e, stdin, ?_⟩
  rw [handleBinary, hclient, unwrap_some, pure_bind, htype]
  dsimp only
  rw [hinbound, unwrap_some, pure_bind, handleInbound, bind_ok hreceipt, hmessage, unwrap_some,
    pure_bind, payloadBytes, if_pos hencrypted, decryptPayload, hparse, ofExcept_error, throw_bind,
    throw_bind, throw_apply]

/-- Exactly on the accepted frames the call comes back and rejects what is malformed. -/
theorem handles_safely_iff (d : ClientDeps) (rng : Draws) (c : Client) (isText : Bool)
    (data : Bytes) (hopen : c.closed = false) (hconnected : c.node.isSome) :
    HandlesSafely d rng c isText data ↔ Accepted d c isText data := by
  have heq : handleMessage d rng isText data c =
      if isText then handleText d rng data c else handleBinary d data c := by
    rw [handleMessage, get_bind_apply, if_neg (by simp [hopen])]
    cases isText <;> rfl
  cases isText with
  | true =>
      simp only [if_true] at heq
      constructor
      · rintro ⟨hreturns, -⟩
        rw [heq] at hreturns
        exact (handleText_returns rng data hopen hconnected).mp hreturns
      · intro haccepted
        refine ⟨?_, fun hmalformed => absurd hmalformed (TextAccepted.not_malformed haccepted)⟩
        rw [heq]
        exact (handleText_returns rng data hopen hconnected).mpr haccepted
  | false =>
      simp only [Bool.false_eq_true, if_false] at heq
      constructor
      · rintro ⟨hreturns, -⟩
        rw [heq] at hreturns
        exact (handleBinary_returns data hopen).mp hreturns
      · intro haccepted
        refine ⟨?_, fun hmalformed => ?_⟩
        · rw [heq]
          exact (handleBinary_returns data hopen).mpr haccepted
        · obtain ⟨_, _, hcarries, hmessage, hbad⟩ := BinaryAccepted.badSource haccepted hmalformed
          obtain ⟨e, stdin, hbinary⟩ := handleBinary_badSource (c := c) hcarries hmessage hbad
          rw [heq]
          exact ⟨e, _, hbinary, rfl, rfl, rfl⟩

namespace Exchange

/-- A reply that nobody waits for. -/
theorem sample_frame_handled :
    HandlesSafely sampleClientDeps sampleDraws sampleClient false sampleFrame.encode := by
  have haccepted : PayloadAccepted sampleClientDeps sampleClient sampleReply :=
    { text := fun htext => absurd htext (by decide), reply := by decide, message := by decide }
  have hinbound : InboundAccepted sampleClientDeps sampleClient sampleInbound :=
    ⟨sampleReplyMessage, by decide +kernel,
      Or.inr ⟨sampleReply.encode, Or.inl ⟨rfl, rfl⟩, sampleReply, by decide +kernel, haccepted⟩⟩
  exact (handles_safely_iff sampleClientDeps sampleDraws sampleClient false sampleFrame.encode rfl
    rfl).mpr ⟨sampleFrame, by decide +kernel, fun _ => ⟨sampleInbound, by decide +kernel, hinbound⟩⟩

/-- A text frame that is not JSON stops the receive loop. -/
theorem invalid_json_not_handled :
    sampleClient.closed = false ∧ sampleClient.node.isSome ∧
      MalformedText sampleClientDeps [] ∧
        ¬ HandlesSafely sampleClientDeps sampleDraws sampleClient true [] := by
  refine ⟨rfl, rfl, MalformedText.json rfl, fun h => ?_⟩
  exact h.returns

end Exchange

end NknSdk
