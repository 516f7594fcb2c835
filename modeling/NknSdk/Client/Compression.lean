import NknSdk.Client.Robustness
import NknSdk.Pb.Decode

/-!
# Compression

`create_client_message` compresses a body where it holds several payloads, and says
so in the frame.  `handle_message` does not read this: it takes the body of every
frame as it stands.

`Transparent` says that a client does the same on the two frames of a body, the one
in which it is as it is and the one in which it is compressed.  This is so exactly
for the bodies that say the same as their compressed form does when nothing
decompresses it (`compression_transparent_iff`).
-/

namespace NknSdk

open Exec

variable {d : ClientDeps} {c : Client} {body : Bytes}

/-! ## The two frames of a body -/

def plainFrame (body : Bytes) : Pb.ClientMessage :=
  { messageType := Pb.ClientMessageType.inboundMessage.toI32
    message := body
    compressionType := Pb.CompressionType.compressionNone.toI32 }

def zlibFrame (d : ClientDeps) (body : Bytes) : Pb.ClientMessage :=
  { messageType := Pb.ClientMessageType.inboundMessage.toI32
    message := d.zlib body
    compressionType := Pb.CompressionType.compressionZlib.toI32 }

/-! ## Reading a body -/

/-- `handle_message` on an inbound message, up to the message that it makes of it,
with the id that this replies to. -/
def readBody (d : ClientDeps) (body : Bytes) : ClientCall (Bytes × Message) := do
  let inboundMsg ← unwrap (d.decodeInboundMessage body)
  when (inboundMsg.prevHash ≠ []) (spawn (sendReceipt d inboundMsg.prevHash))
  let payloadMsg ← unwrap (d.decodeMessage inboundMsg.payload)
  let bytes ← payloadBytes d payloadMsg inboundMsg.src
  let payload ← unwrap (d.decodePayload bytes)
  let data ← payloadData d payload
  return (payload.replyToId,
    { src := inboundMsg.src
      data
      type := payload.type.toUInt32
      encrypted := payloadMsg.encrypted
      messageId := payload.messageId
      noReply := payload.noReply })

/-- `handle_message` from there on. -/
def deliver (read : Bytes × Message) : ClientCall Unit :=
  if read.1 ≠ [] then dispatchReply read.1 read.2
  else do
    let c ← get
    if c.closed then return () else sendMessage read.2

/-- Handling is reading, and then delivering. -/
theorem handleInbound_eq (d : ClientDeps) (body : Bytes) :
    unwrap (d.decodeInboundMessage body) >>= handleInbound d = readBody d body >>= deliver := by
  simp only [readBody, Exec.bind_assoc]
  rfl

theorem handleMessage_inbound
    (hdecode : ∀ m : Pb.ClientMessage, d.decodeClientMessage m.encode = some m) (rng : Draws)
    {frame : Pb.ClientMessage} (htype : frame.messageType = Pb.ClientMessageType.inboundMessage.toI32)
    (hopen : c.closed = false) :
    handleMessage d rng false frame.encode c = (readBody d frame.message >>= deliver) c := by
  rw [handleMessage, get_bind_apply, if_neg (by simp [hopen]), if_neg (by simp), handleBinary,
    hdecode, unwrap_some, Exec.pure_bind, htype, ← handleInbound_eq]
  rfl

/-! ## What a body says -/

/-- The previous hash that the body asks a receipt for, empty if it asks for none. -/
def requested (d : ClientDeps) (body : Bytes) : Bytes :=
  ((d.decodeInboundMessage body).map fun inboundMsg => inboundMsg.prevHash).getD []

/-- The client, after the receipt that the body asks for. -/
def receipted (d : ClientDeps) (body : Bytes) (c : Client) : Client :=
  ((when (requested d body ≠ []) (spawn (sendReceipt d (requested d body))) : ClientCall Unit) c).2

/-- The data of a payload by its type, if it can be read. -/
def dataOf (d : ClientDeps) (payload : Pb.Payloads.Payload) : Option Bytes :=
  match Pb.Payloads.PayloadType.fromI32 payload.type with
  | some .text => (d.decodeTextData payload.data).map fun textData => textData.text.toUTF8.toList
  | some .ack => some []
  | _ => some payload.data

/-- A client with the keys of `c` reads the body as the message `msg`, which replies
to `replyToId`. -/
def Means (d : ClientDeps) (c : Client) (body replyToId : Bytes) (msg : Message) : Prop :=
  ∃ inboundMsg, d.decodeInboundMessage body = some inboundMsg ∧
    ∃ payloadMsg, d.decodeMessage inboundMsg.payload = some payloadMsg ∧
      ∃ bytes, Reveals d c inboundMsg.src payloadMsg bytes ∧
        ∃ payload, d.decodePayload bytes = some payload ∧ payload.replyToId = replyToId ∧
          ∃ data, dataOf d payload = some data ∧
            msg =
              { src := inboundMsg.src
                data
                type := payload.type.toUInt32
                encrypted := payloadMsg.encrypted
                messageId := payload.messageId
                noReply := payload.noReply }

/-- There is something to decrypt, but the source cannot be parsed, with the error `e`. -/
def Refuses (d : ClientDeps) (body : Bytes) (e : String) : Prop :=
  ∃ inboundMsg, d.decodeInboundMessage body = some inboundMsg ∧
    ∃ payloadMsg, d.decodeMessage inboundMsg.payload = some payloadMsg ∧
      payloadMsg.encrypted = true ∧
        Utils.parseClientAddress d.primitives inboundMsg.src = .error e

/-- The two bodies ask for the same receipt, are refused for the same reason, and
every client reads the same message in them. -/
structure MeansSame (d : ClientDeps) (body body' : Bytes) : Prop where
  request : requested d body = requested d body'
  refusal : ∀ e, Refuses d body e ↔ Refuses d body' e
  message : ∀ c replyToId msg, Means d c body replyToId msg ↔ Means d c body' replyToId msg

theorem payloadData_eq (payload : Pb.Payloads.Payload) :
    payloadData d payload = unwrap (dataOf d payload) := by
  unfold payloadData dataOf
  cases Pb.Payloads.PayloadType.fromI32 payload.type with
  | none => rfl
  | some type =>
      cases type with
      | text =>
          cases d.decodeTextData payload.data with
          | none => rfl
          | some textData => rfl
      | ack => rfl
      | binary => rfl
      | session => rfl

theorem payloadBytes_refused {msg : Pb.Payloads.Message} {src e : String}
    (hencrypted : msg.encrypted = true)
    (hparse : Utils.parseClientAddress d.primitives src = .error e) :
    payloadBytes d msg src c = (.err e, c) := by
  rw [payloadBytes, if_pos hencrypted, decryptPayload_refused hparse]

theorem Reveals.payloadBytes_eq {msg : Pb.Payloads.Message} {src : String} {bytes : Bytes}
    (h : Reveals d c src msg bytes) : (payloadBytes d msg src c).1 = .ok bytes := by
  rcases payloadBytes_cases (d := d) (c := c) msg src with
    ⟨hbad, -⟩ | ⟨bytes', _, hreveals, hok⟩ | ⟨-, hnone, -⟩
  · exact absurd hbad h.not_badSource
  · rw [hok, h.unique hreveals]
  · exact absurd h (hnone bytes)

theorem readBody_of_means {replyToId : Bytes} {msg : Message} (h : Means d c body replyToId msg) :
    (readBody d body c).1 = .ok (replyToId, msg) := by
  obtain ⟨inboundMsg, hinbound, payloadMsg, hmsg, bytes, hreveals, payload, hpayload, rfl, data,
    hdata, rfl⟩ := h
  obtain ⟨stdin, hreceipt⟩ := receipt_eq (d := d) (c := c) inboundMsg.prevHash
  have hbytes : Reveals d { c with stdin } inboundMsg.src payloadMsg bytes := hreveals
  rw [readBody, hinbound, unwrap_some, Exec.pure_bind, bind_ok hreceipt, hmsg, unwrap_some,
    Exec.pure_bind, bind_ok (Prod.ext hbytes.payloadBytes_eq rfl), hpayload, unwrap_some,
    Exec.pure_bind, payloadData_eq, hdata, unwrap_some, Exec.pure_bind]
  rfl

theorem readBody_of_refuses {e : String} (h : Refuses d body e) :
    (readBody d body c).1 = .err e := by
  obtain ⟨inboundMsg, hinbound, payloadMsg, hmsg, hencrypted, hparse⟩ := h
  obtain ⟨stdin, hreceipt⟩ := receipt_eq (d := d) (c := c) inboundMsg.prevHash
  rw [readBody, hinbound, unwrap_some, Exec.pure_bind, bind_ok hreceipt, hmsg, unwrap_some,
    Exec.pure_bind, bind_err (payloadBytes_refused hencrypted hparse)]

/-- A body that says nothing and is not refused is not read. -/
theorem readBody_cases (d : ClientDeps) (body : Bytes) (c : Client) :
    (∃ replyToId msg, Means d c body replyToId msg) ∨ (∃ e, Refuses d body e) ∨
      (readBody d body c).1 = .panic := by
  rw [readBody]
  cases hinbound : d.decodeInboundMessage body with
  | none => exact Or.inr (Or.inr rfl)
  | some inboundMsg =>
      obtain ⟨stdin, hreceipt⟩ := receipt_eq (d := d) (c := c) inboundMsg.prevHash
      rw [unwrap_some, Exec.pure_bind, bind_ok hreceipt]
      cases hmsg : d.decodeMessage inboundMsg.payload with
      | none => exact Or.inr (Or.inr rfl)
      | some payloadMsg =>
          rw [unwrap_some, Exec.pure_bind]
          rcases payloadBytes_cases (d := d) (c := { c with stdin }) payloadMsg inboundMsg.src with
            ⟨⟨hencrypted, e, hparse⟩, -⟩ | ⟨bytes, _, hreveals, hok⟩ | ⟨-, -, c', hpanic⟩
          · exact Or.inr (Or.inl ⟨e, inboundMsg, hinbound, payloadMsg, hmsg, hencrypted, hparse⟩)
          · rw [bind_ok hok]
            cases hpayload : d.decodePayload bytes with
            | none => exact Or.inr (Or.inr rfl)
            | some payload =>
                rw [unwrap_some, Exec.pure_bind, payloadData_eq]
                cases hdata : dataOf d payload with
                | none => exact Or.inr (Or.inr rfl)
                | some data =>
                    exact Or.inl ⟨payload.replyToId, _, inboundMsg, hinbound, payloadMsg, hmsg,
                      bytes, hreveals, payload, hpayload, rfl, data, hdata, rfl⟩
          · exact Or.inr (Or.inr (by rw [bind_panic hpanic]))

theorem readBody_eq_ok {replyToId : Bytes} {msg : Message} :
    (readBody d body c).1 = .ok (replyToId, msg) ↔ Means d c body replyToId msg := by
  refine ⟨fun h => ?_, readBody_of_means⟩
  rcases readBody_cases d body c with ⟨replyToId', msg', hmeans⟩ | ⟨e, hrefuses⟩ | hpanic
  · cases (readBody_of_means hmeans).symm.trans h
    exact hmeans
  · cases (readBody_of_refuses hrefuses).symm.trans h
  · cases hpanic.symm.trans h

theorem readBody_eq_err {e : String} : (readBody d body c).1 = .err e ↔ Refuses d body e := by
  refine ⟨fun h => ?_, readBody_of_refuses⟩
  rcases readBody_cases d body c with ⟨_, _, hmeans⟩ | ⟨e', hrefuses⟩ | hpanic
  · cases (readBody_of_means hmeans).symm.trans h
  · cases (readBody_of_refuses hrefuses).symm.trans h
    exact hrefuses
  · cases hpanic.symm.trans h

/-- Bodies that say the same are read alike. -/
theorem MeansSame.readBody_eq {body' : Bytes} (h : MeansSame d body body') (c : Client) :
    (readBody d body c).1 = (readBody d body' c).1 := by
  rcases readBody_cases d body c with ⟨replyToId, msg, hmeans⟩ | ⟨e, hrefuses⟩ | hpanic
  · rw [readBody_of_means hmeans, readBody_of_means ((h.message c replyToId msg).mp hmeans)]
  · rw [readBody_of_refuses hrefuses, readBody_of_refuses ((h.refusal e).mp hrefuses)]
  · rcases readBody_cases d body' c with ⟨replyToId, msg, hmeans⟩ | ⟨e, hrefuses⟩ | hpanic'
    · cases hpanic.symm.trans (readBody_of_means ((h.message c replyToId msg).mpr hmeans))
    · cases hpanic.symm.trans (readBody_of_refuses ((h.refusal e).mpr hrefuses))
    · rw [hpanic, hpanic']

/-- Reading a body sends the receipt that it asks for, and changes the shared keys at
most. -/
theorem readBody_snd (d : ClientDeps) (body : Bytes) (c : Client) :
    ∃ sharedKeys, (readBody d body c).2 = { receipted d body c with sharedKeys } := by
  let I : Client → Prop := fun c' => ∃ sharedKeys, c' = { receipted d body c with sharedKeys }
  have hkeys : ∀ c' sharedKeys, I c' → I { c' with sharedKeys } := by
    rintro _ sharedKeys ⟨_, rfl⟩
    exact ⟨sharedKeys, rfl⟩
  rw [readBody]
  cases hinbound : d.decodeInboundMessage body with
  | none =>
      have hnone : requested d body = [] := by rw [requested, hinbound]; rfl
      refine ⟨c.sharedKeys, ?_⟩
      rw [receipted, hnone, when_neg (not_not_intro rfl)]
      rfl
  | some inboundMsg =>
      have hsome : requested d body = inboundMsg.prevHash := by rw [requested, hinbound]; rfl
      obtain ⟨stdin, hreceipt⟩ := receipt_eq (d := d) (c := c) inboundMsg.prevHash
      have hstart : I { c with stdin } := by
        refine ⟨c.sharedKeys, ?_⟩
        rw [receipted, hsome, hreceipt]
      rw [unwrap_some, Exec.pure_bind, bind_ok hreceipt]
      refine keeps_bind (keeps_unwrap _) (fun payloadMsg => ?_) _ hstart
      refine keeps_bind (keeps_ite (keeps_decryptPayload hkeys _ _) (keeps_pure _)) fun bytes => ?_
      refine keeps_bind (keeps_unwrap _) fun payload => ?_
      exact keeps_bind (keeps_payloadData payload) fun data => keeps_pure _

/-! ## Delivering -/

theorem deliver_message (hopen : c.closed = false) (hfree : c.messageChannel = none)
    (msg : Message) : deliver ([], msg) c = (.ok (), { c with messageChannel := some msg }) := by
  rw [deliver, if_neg (not_not_intro rfl), get_bind_apply, if_neg (by simp [hopen]), sendMessage,
    get_bind_apply, if_neg (by simp [hfree])]
  rfl

theorem deliver_reply {replyToId : Bytes} (hreply : replyToId ≠ [])
    (hfree : ∀ channel ∈ c.responseChannels.lookup (Hex.encode replyToId), channel.queue = none)
    (msg : Message) : ∃ responseChannels channel,
      deliver (replyToId, msg) c = (.ok (), { c with
        responseChannels, dispatches := c.dispatches ++ [{ replyToId, channel }] }) := by
  rw [deliver, if_pos hreply, dispatchReply, get_bind_apply]
  cases hchannel : c.responseChannels.lookup (Hex.encode replyToId) with
  | none => exact ⟨c.responseChannels, none, rfl⟩
  | some channel =>
      dsimp only
      rw [if_neg (by simp [hfree channel hchannel])]
      exact ⟨_, _, rfl⟩

/-- Delivering does not look at the shared keys. -/
theorem deliver_sharedKeys (read : Bytes × Message) (c : Client) (sharedKeys : Utils.SharedKeys) :
    deliver read { c with sharedKeys } =
      ((deliver read c).1, { (deliver read c).2 with sharedKeys }) := by
  unfold deliver
  split
  next =>
    rw [dispatchReply, get_bind_apply, get_bind_apply]
    dsimp only
    cases c.responseChannels.lookup (Hex.encode read.1) with
    | none => rfl
    | some channel =>
        dsimp only
        split
        next => rfl
        next => rfl
  next =>
    rw [get_bind_apply, get_bind_apply]
    dsimp only
    split
    next => rfl
    next =>
      rw [sendMessage, get_bind_apply, get_bind_apply]
      dsimp only
      split
      next => rfl
      next => rfl

/-! ## What a frame does -/

/-- How the call ends, what it leaves on the channel of messages and on the queue of
the websocket, the replies that it looks up, and the message that it puts on a
response channel. -/
structure Handled where
  outcome : Outcome String Unit
  messageChannel : Option Message
  stdin : Option Stdin
  dispatches : List Dispatch
  replied : Option Message

/-- The message that goes to a response channel, if it is a reply and somebody waits
for it. -/
def repliedWith (c : Client) : Outcome String (Bytes × Message) → Option Message
  | .ok (replyToId, msg) =>
      if replyToId = [] then none
      else
        match c.responseChannels.lookup (Hex.encode replyToId) with
        | some channel => if channel.queue.isSome then none else some msg
        | none => none
  | _ => none

/-- What handling the frame of an inbound message does. -/
def handled (d : ClientDeps) (rng : Draws) (frame : Pb.ClientMessage) (c : Client) : Handled where
  outcome := (handleMessage d rng false frame.encode c).1
  messageChannel := (handleMessage d rng false frame.encode c).2.messageChannel
  stdin := (handleMessage d rng false frame.encode c).2.stdin
  dispatches := (handleMessage d rng false frame.encode c).2.dispatches
  replied := if c.closed then none else repliedWith c (readBody d frame.message c).1

/-- Every client does the same on the two frames of the body. -/
def Transparent (d : ClientDeps) (body : Bytes) : Prop :=
  ∀ rng c, handled d rng (plainFrame body) c = handled d rng (zlibFrame d body) c

/-- The end of a call whose body was read with the outcome `o`. -/
def finish (o : Outcome String (Bytes × Message)) : ClientCall Unit :=
  match o with
  | .ok read => deliver read
  | .err e => throw e
  | .panic => panic
  | .block => block

theorem bind_deliver (m : ClientCall (Bytes × Message)) :
    (m >>= deliver) c = finish (m c).1 (m c).2 := by
  rw [bind_apply]
  rcases m c with ⟨o, c'⟩
  cases o with
  | ok read => rfl
  | err e => rfl
  | panic => rfl
  | block => rfl

theorem finish_sharedKeys (o : Outcome String (Bytes × Message)) (c : Client)
    (sharedKeys : Utils.SharedKeys) :
    finish o { c with sharedKeys } = ((finish o c).1, { (finish o c).2 with sharedKeys }) := by
  cases o with
  | ok read => exact deliver_sharedKeys read c sharedKeys
  | err e => rfl
  | panic => rfl
  | block => rfl

/-- Delivering leaves the queue of the websocket. -/
theorem finish_stdin (o : Outcome String (Bytes × Message)) (c : Client) :
    (finish o c).2.stdin = c.stdin := by
  let I : Client → Prop := fun c' => c'.stdin = c.stdin
  cases o with
  | ok read =>
      have hkeep : Keeps I (deliver read) := by
        refine keeps_ite (keeps_bind keeps_get fun c => ?_) (keeps_bind keeps_get fun c => ?_)
        · dsimp only
          cases c.responseChannels.lookup (Hex.encode read.1) with
          | none => exact keeps_modify fun _ h => h
          | some channel =>
              exact keeps_ite keeps_block (keeps_bind (keeps_modify fun _ h => h) fun _ =>
                keeps_modify fun _ h => h)
        · refine keeps_ite (keeps_pure _) (keeps_bind keeps_get fun c => ?_)
          exact keeps_ite keeps_block (keeps_modify fun _ h => h)
      exact hkeep c rfl
  | err e => rfl
  | panic => rfl
  | block => rfl

/-- What a frame does to an open client: it sends the receipt, and ends as the reading
of its body did. -/
theorem handled_eq (hdecode : ∀ m : Pb.ClientMessage, d.decodeClientMessage m.encode = some m)
    (rng : Draws) {frame : Pb.ClientMessage}
    (htype : frame.messageType = Pb.ClientMessageType.inboundMessage.toI32)
    (hopen : c.closed = false) :
    handled d rng frame c =
      { outcome := (finish (readBody d frame.message c).1 (receipted d frame.message c)).1
        messageChannel :=
          (finish (readBody d frame.message c).1 (receipted d frame.message c)).2.messageChannel
        stdin := (finish (readBody d frame.message c).1 (receipted d frame.message c)).2.stdin
        dispatches :=
          (finish (readBody d frame.message c).1 (receipted d frame.message c)).2.dispatches
        replied := repliedWith c (readBody d frame.message c).1 } := by
  obtain ⟨sharedKeys, hsnd⟩ := readBody_snd d frame.message c
  have hhandle : handleMessage d rng false frame.encode c =
      ((finish (readBody d frame.message c).1 (receipted d frame.message c)).1,
        { (finish (readBody d frame.message c).1 (receipted d frame.message c)).2 with
          sharedKeys }) := by
    rw [handleMessage_inbound hdecode rng htype hopen, bind_deliver, hsnd, finish_sharedKeys]
  rw [handled, hhandle, if_neg (by simp [hopen])]

/-! ## Bodies that mean the same -/

theorem MeansSame.transparent
    (hdecode : ∀ m : Pb.ClientMessage, d.decodeClientMessage m.encode = some m)
    (h : MeansSame d body (d.zlib body)) : Transparent d body := by
  intro rng c
  cases hclosed : c.closed with
  | true =>
      have hignored : ∀ frame : Pb.ClientMessage,
          handleMessage d rng false frame.encode c = (.ok (), c) := by
        intro frame
        rw [handleMessage, get_bind_apply, if_pos hclosed]
        rfl
      simp only [handled, hignored, hclosed, if_true]
  | false =>
      have hreceipted : receipted d body c = receipted d (d.zlib body) c := by
        rw [receipted, receipted, h.request]
      rw [handled_eq hdecode rng rfl hclosed, handled_eq hdecode rng rfl hclosed]
      show _ = _
      dsimp only [plainFrame, zlibFrame]
      rw [h.readBody_eq c, hreceipted]

/-- The client takes every message at once. -/
structure Ready (c : Client) : Prop where
  isOpen : c.closed = false
  messageChannel : c.messageChannel = none
  free : ∀ key, ∀ channel ∈ c.responseChannels.lookup key, channel.queue = none

/-- A client that is ready takes a message or looks up a reply, and it shows which. -/
theorem Ready.deliver_cases (h : Ready c) (replyToId : Bytes) (msg : Message) :
    (deliver (replyToId, msg) c).1 = .ok () ∧
      ((replyToId = [] ∧ (deliver (replyToId, msg) c).2.messageChannel = some msg ∧
          (deliver (replyToId, msg) c).2.dispatches = c.dispatches) ∨
        (replyToId ≠ [] ∧ (deliver (replyToId, msg) c).2.messageChannel = none ∧
          ∃ channel, (deliver (replyToId, msg) c).2.dispatches =
            c.dispatches ++ [Dispatch.mk replyToId channel])) := by
  by_cases hreply : replyToId = []
  · subst hreply
    rw [deliver_message h.isOpen h.messageChannel]
    exact ⟨rfl, Or.inl ⟨rfl, rfl, rfl⟩⟩
  · obtain ⟨_, channel, heq⟩ := deliver_reply hreply (h.free _) msg
    rw [heq]
    exact ⟨rfl, Or.inr ⟨hreply, h.messageChannel, channel, rfl⟩⟩

/-- Two clients that are ready end alike only if they have read the same. -/
theorem Ready.eq_of_finish_eq {c' : Client} (h : Ready c) (h' : Ready c')
    (hsame : c.dispatches = c'.dispatches) {replyToId : Bytes} {msg : Message}
    {o : Outcome String (Bytes × Message)}
    (houtcome : (finish (.ok (replyToId, msg)) c).1 = (finish o c').1)
    (hchannel : (finish (.ok (replyToId, msg)) c).2.messageChannel =
      (finish o c').2.messageChannel)
    (hdispatches : (finish (.ok (replyToId, msg)) c).2.dispatches = (finish o c').2.dispatches)
    (hreplied : ∀ msg', o = .ok (replyToId, msg') → replyToId ≠ [] → msg' = msg) :
    o = .ok (replyToId, msg) := by
  obtain ⟨hok, hshown⟩ := h.deliver_cases replyToId msg
  rw [finish, hok] at houtcome
  rw [finish] at hchannel hdispatches
  cases o with
  | err e => cases houtcome
  | panic => cases houtcome
  | block => cases houtcome
  | ok read =>
      obtain ⟨replyToId', msg'⟩ := read
      rw [finish] at hchannel hdispatches
      obtain ⟨-, hshown'⟩ := h'.deliver_cases replyToId' msg'
      rcases hshown with ⟨hnil, hmsg, hnone⟩ | ⟨hreply, hmsg, channel, hlast⟩
      · rcases hshown' with ⟨hnil', hmsg', -⟩ | ⟨-, hmsg', -⟩
        · rw [hmsg, hmsg'] at hchannel
          cases hchannel
          rw [hnil, hnil']
        · rw [hmsg, hmsg'] at hchannel
          cases hchannel
      · rcases hshown' with ⟨-, hmsg', hnone'⟩ | ⟨-, -, channel', hlast'⟩
        · rw [hmsg, hmsg'] at hchannel
          cases hchannel
        · rw [hlast, hlast', hsame, List.append_right_inj, List.cons.injEq, Dispatch.mk.injEq]
            at hdispatches
          obtain ⟨⟨rfl, -⟩, -⟩ := hdispatches
          rw [hreplied msg' rfl hreply]

/-- The client with the keys of `c`, where somebody waits for a reply to `replyToId` and
the channel of messages and the queue of the websocket are empty. -/
def waiting (c : Client) (replyToId : Bytes) : Client :=
  { c with
    closed := false
    messageChannel := none
    stdin := some { isOpen := true, queue := [] }
    responseChannels :=
      (∅ : AList fun _ : String => ResponseChannel).insert (Hex.encode replyToId)
        { messageId := [], queue := none } }

theorem lookup_waiting (c : Client) (replyToId : Bytes) :
    (waiting c replyToId).responseChannels.lookup (Hex.encode replyToId) =
      some { messageId := [], queue := none } := AList.lookup_insert _

theorem waiting_free (c : Client) (replyToId : Bytes) (key : String) :
    ∀ channel ∈ (waiting c replyToId).responseChannels.lookup key, channel.queue = none := by
  intro channel hchannel
  by_cases hkey : key = Hex.encode replyToId
  · rw [hkey, lookup_waiting] at hchannel
    cases hchannel
    rfl
  · cases (AList.lookup_insert_ne hkey).symm.trans hchannel

/-- A receipt leaves everything but the queue of the websocket. -/
theorem receipted_eq (d : ClientDeps) (body : Bytes) (c : Client) :
    ∃ stdin, receipted d body c = { c with stdin } := by
  obtain ⟨stdin, hreceipt⟩ := receipt_eq (d := d) (c := c) (requested d body)
  exact ⟨stdin, by rw [receipted, hreceipt]⟩

theorem ready_receipted (d : ClientDeps) (body : Bytes) (c : Client) (replyToId : Bytes) :
    Ready (receipted d body (waiting c replyToId)) ∧
      (receipted d body (waiting c replyToId)).dispatches = c.dispatches := by
  obtain ⟨stdin, heq⟩ := receipted_eq d body (waiting c replyToId)
  rw [heq]
  exact ⟨⟨rfl, rfl, waiting_free c replyToId⟩, rfl⟩

theorem repliedWith_waiting {replyToId : Bytes} (hreply : replyToId ≠ []) (c : Client)
    (msg : Message) :
    repliedWith (waiting c replyToId) (.ok (replyToId, msg)) = some msg := by
  rw [repliedWith, if_neg hreply, lookup_waiting]
  rfl

/-- Reading depends on the client's keys only. -/
theorem means_waiting {replyToId replyToId' : Bytes} {msg : Message} :
    Means d (waiting c replyToId') body replyToId msg ↔ Means d c body replyToId msg := Iff.rfl

/-- A receipt, as it is put on the queue of the websocket. -/
def receiptFrame (d : ClientDeps) (c : Client) (prevHash : Bytes) : Pb.ClientMessage :=
  let elem : Pb.SigChainElem := {}
  let digest := d.primitives.sha256Hash
    (d.primitives.sha256Hash prevHash ++ elem.serializeUnsigned)
  let signature := d.primitives.ed25519Sign digest
    (c.account.privateKey.toList ++ (d.publicKeyOf c.account.privateKey).toList)
  let receipt : Pb.Receipt := { prevHash, signature := signature.toList }
  { messageType := Pb.ClientMessageType.receipt.toI32
    message := receipt.encode
    compressionType := Pb.CompressionType.compressionNone.toI32 }

/-- The queue of a waiting client shows which receipt it was asked for. -/
theorem stdin_receipted (d : ClientDeps) (body : Bytes) (c : Client) (replyToId : Bytes) :
    (receipted d body (waiting c replyToId)).stdin = some
      { isOpen := true
        queue := if requested d body = [] then []
          else [.binary (receiptFrame d c (requested d body)).encode] } := by
  by_cases hnil : requested d body = []
  · rw [receipted, when_neg (not_not_intro hnil), if_pos hnil]
    rfl
  · rw [receipted, when_pos hnil, if_neg hnil]
    rfl

theorem requested_eq_of_stdin_eq
    (hdecode : ∀ m : Pb.ClientMessage, d.decodeClientMessage m.encode = some m) {body' : Bytes}
    {replyToId : Bytes} (h : (receipted d body (waiting c replyToId)).stdin =
      (receipted d body' (waiting c replyToId)).stdin) : requested d body = requested d body' := by
  rw [stdin_receipted, stdin_receipted, Option.some.injEq, Stdin.mk.injEq] at h
  obtain ⟨-, hqueue⟩ := h
  by_cases hnil : requested d body = []
  · by_cases hnil' : requested d body' = []
    · rw [hnil, hnil']
    · rw [if_pos hnil, if_neg hnil'] at hqueue
      cases hqueue
  · by_cases hnil' : requested d body' = []
    · rw [if_neg hnil, if_pos hnil'] at hqueue
      cases hqueue
    · rw [if_neg hnil, if_neg hnil', List.cons.injEq, WsMessage.binary.injEq] at hqueue
      have hframe := hdecode (receiptFrame d c (requested d body))
      rw [hqueue.1, hdecode, Option.some.injEq] at hframe
      have hreceipt := congrArg (fun frame => Pb.Receipt.decode frame.message) hframe
      simp only [receiptFrame, Pb.Receipt.decode_encode, Option.some.injEq, Pb.Receipt.mk.injEq]
        at hreceipt
      exact hreceipt.1.symm

section Alike

variable {frame frame' : Pb.ClientMessage}
  (hdecode : ∀ m : Pb.ClientMessage, d.decodeClientMessage m.encode = some m)
  (htype : frame.messageType = Pb.ClientMessageType.inboundMessage.toI32)
  (htype' : frame'.messageType = Pb.ClientMessageType.inboundMessage.toI32)
  (halike : ∀ rng c, handled d rng frame c = handled d rng frame' c)
include hdecode htype htype' halike

/-- A message in one of two frames that are handled alike is in the other one. -/
theorem means_of_handled_eq {replyToId : Bytes} {msg : Message}
    (hmeans : Means d c frame.message replyToId msg) :
    Means d c frame'.message replyToId msg := by
  have hsame := halike Exchange.sampleDraws (waiting c replyToId)
  have hread : (readBody d frame.message (waiting c replyToId)).1 = .ok (replyToId, msg) :=
    readBody_of_means (means_waiting.mpr hmeans)
  rw [handled_eq hdecode _ htype rfl, handled_eq hdecode _ htype' rfl, hread, Handled.mk.injEq]
    at hsame
  obtain ⟨houtcome, hchannel, -, hdispatches, hreplied⟩ := hsame
  obtain ⟨hready, hbefore⟩ := ready_receipted d frame.message c replyToId
  obtain ⟨hready', hbefore'⟩ := ready_receipted d frame'.message c replyToId
  have hread' := hready.eq_of_finish_eq hready' (hbefore.trans hbefore'.symm) houtcome hchannel
    hdispatches fun msg' hok hreply => by
      rw [hok, repliedWith_waiting hreply, repliedWith_waiting hreply] at hreplied
      exact (Option.some.inj hreplied).symm
  exact means_waiting.mp (readBody_eq_ok.mp hread')

theorem refuses_of_handled_eq {e : String} (hrefuses : Refuses d frame.message e) :
    Refuses d frame'.message e := by
  have hsame := halike Exchange.sampleDraws (waiting Exchange.sampleClient [])
  rw [handled_eq hdecode _ htype rfl, handled_eq hdecode _ htype' rfl,
    readBody_of_refuses hrefuses, Handled.mk.injEq] at hsame
  obtain ⟨houtcome, -⟩ := hsame
  obtain ⟨hready', -⟩ := ready_receipted d frame'.message Exchange.sampleClient []
  cases hread' : (readBody d frame'.message (waiting Exchange.sampleClient [])).1 with
  | ok read =>
      rw [hread', finish, finish, (hready'.deliver_cases read.1 read.2).1] at houtcome
      cases houtcome
  | err e' =>
      rw [hread'] at houtcome
      cases houtcome
      exact readBody_eq_err.mp hread'
  | panic =>
      rw [hread'] at houtcome
      cases houtcome
  | block =>
      rw [hread'] at houtcome
      cases houtcome

theorem requested_of_handled_eq : requested d frame.message = requested d frame'.message := by
  have hsame := halike Exchange.sampleDraws (waiting Exchange.sampleClient [])
  rw [handled_eq hdecode _ htype rfl, handled_eq hdecode _ htype' rfl, Handled.mk.injEq] at hsame
  obtain ⟨-, -, hstdin, -⟩ := hsame
  rw [finish_stdin, finish_stdin] at hstdin
  exact requested_eq_of_stdin_eq hdecode hstdin

end Alike

/-- Compression is transparent exactly for the bodies that mean the same as their
compressed form, which nothing decompresses. -/
theorem compression_transparent_iff (d : ClientDeps)
    (hdecode : ∀ m : Pb.ClientMessage, d.decodeClientMessage m.encode = some m) (body : Bytes) :
    Transparent d body ↔ MeansSame d body (d.zlib body) := by
  refine ⟨fun h => ?_, fun h => h.transparent hdecode⟩
  have hback : ∀ rng c, handled d rng (zlibFrame d body) c = handled d rng (plainFrame body) c :=
    fun rng c => (h rng c).symm
  exact
    { request := requested_of_handled_eq hdecode rfl rfl h
      refusal := fun e =>
        ⟨refuses_of_handled_eq hdecode rfl rfl h, refuses_of_handled_eq hdecode rfl rfl hback⟩
      message := fun c replyToId msg =>
        ⟨means_of_handled_eq hdecode rfl rfl h, means_of_handled_eq hdecode rfl rfl hback⟩ }

theorem MeansSame.of_unreadable {body' : Bytes} (h : d.decodeInboundMessage body = none)
    (h' : d.decodeInboundMessage body' = none) : MeansSame d body body' where
  request := by rw [requested, requested, h, h']
  refusal e := by
    constructor
    · rintro ⟨_, hsome, -⟩
      cases h.symm.trans hsome
    · rintro ⟨_, hsome, -⟩
      cases h'.symm.trans hsome
  message c replyToId msg := by
    constructor
    · rintro ⟨_, hsome, -⟩
      cases h.symm.trans hsome
    · rintro ⟨_, hsome, -⟩
      cases h'.symm.trans hsome

/-! ## A greeting and a byte that is no body -/

namespace Exchange

/-- The sample payload, not encrypted, in an inbound message from `a`. -/
def sampleBody : Bytes := [10, 1, 97, 18, 9, 10, 7, 18, 1, 97, 26, 2, 104, 105]

example : (Pb.InboundMessage.mk "a" (Pb.Payloads.Message.mk samplePayload.encode false [] []).encode
    []).encode = sampleBody := by
  decide +kernel

/-- Compression as it is on the two bodies of the sample. -/
def sampleZlib (data : Bytes) : Bytes :=
  if data = sampleBody then
    [120, 156, 227, 98, 76, 20, 226, 228, 98, 23, 98, 76, 148, 98, 202, 200, 4, 0, 10, 245, 1, 250]
  else if data = [255] then [120, 156, 251, 15, 0, 1, 0, 1, 0]
  else data

def sampleZlibDeps : ClientDeps :=
  { sampleBoxDeps with
    zlib := sampleZlib
    decodeClientMessage := Pb.ClientMessage.decode
    decodeInboundMessage := Pb.InboundMessage.decode
    decodePayload := fun data => if data = samplePayload.encode then some samplePayload else none }

/-- A byte that is no body is none when it is compressed. -/
theorem sample_transparent : Transparent sampleZlibDeps [255] :=
  (compression_transparent_iff sampleZlibDeps Pb.ClientMessage.decode_encode [255]).mpr
    (.of_unreadable (by decide +kernel) (by decide +kernel))

/-- The client takes the greeting, and panics on it when it is compressed. -/
theorem greeting_not_transparent :
    (handleMessage sampleZlibDeps sampleDraws false (plainFrame sampleBody).encode
        sampleClient).1 = .ok () ∧
      (handleMessage sampleZlibDeps sampleDraws false (zlibFrame sampleZlibDeps sampleBody).encode
        sampleClient).1 = .panic ∧
      ¬ Transparent sampleZlibDeps sampleBody := by
  have hplain : (handleMessage sampleZlibDeps sampleDraws false (plainFrame sampleBody).encode
      sampleClient).1 = .ok () := by
    decide +kernel
  have hzlib : (handleMessage sampleZlibDeps sampleDraws false
      (zlibFrame sampleZlibDeps sampleBody).encode sampleClient).1 = .panic := by
    decide +kernel
  refine ⟨hplain, hzlib, fun h => ?_⟩
  have hsame := congrArg Handled.outcome (h sampleDraws sampleClient)
  rw [handled, handled, hplain, hzlib] at hsame
  cases hsame

end Exchange

end NknSdk
