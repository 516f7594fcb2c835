import NknSdk.Lib.Run
import NknSdk.Client.HandleMessage
import NknSdk.Client.Send

/-!
# Replies

`send` waits for nothing: it registers a channel for the reply after it has put
the message on the queue of the websocket, and the task that receives runs beside
it.  `Exchange` is a client with the sends that were made on it.  Its events are
the two parts of a send, the handling of a frame, and whatever the rest of the
program does to the client, which leaves the registrations alone.

A channel is registered under the id of the message read as text and looked up
under the id in hexadecimal.  The hexadecimal text of an id that is not empty is
longer than any text the id can be, so a reply never goes to the channel of the
message it answers (`reply_misses`).
-/

namespace NknSdk

open Exec

/-! ## Sends and frames in any order -/

/-- Where a send stands. -/
inductive SendPc where
  /-- The messages are on the queue, and the registration is next. -/
  | register
  | done
  | failed (e : String)
  | panicked
deriving DecidableEq

structure Sending where
  messageId : Bytes
  config : MessageConfig
  /-- The number of replies looked up before the messages were on the queue. -/
  since : Nat
  pc : SendPc
deriving DecidableEq

structure Exchange where
  client : Client
  sends : List Sending

inductive ExchangeEvent where
  /-- The first part of a send. -/
  | send (rng : Draws) (dests : List String) (payload : Pb.Payloads.Payload)
      (config : MessageConfig)
  /-- The registration of a send. -/
  | register (i : Nat)
  | handle (rng : Draws) (isText : Bool) (data : Bytes)
  /-- The rest of the program turns the client into `c`, but for the registrations. -/
  | others (c : Client)

namespace Exchange

def new (c : Client) : Exchange := { client := c, sends := [] }

def stepSend (d : ClientDeps) (rng : Draws) (dests : List String) (payload : Pb.Payloads.Payload)
    (config : MessageConfig) (m : Exchange) : Option Exchange :=
  let after (pc : SendPc) (c : Client) : Exchange :=
    { client := c
      sends := m.sends ++
        [{ messageId := payload.messageId, config, since := c.dispatches.length, pc }] }
  match sendMessages d rng dests payload (!config.unencrypted) config.maxHoldingSecs m.client with
  | (.ok _, c) => some (after .register c)
  | (.err e, c) => some (after (.failed e) c)
  | (.panic, c) => some (after .panicked c)
  | (.block, _) => none

def stepRegister (i : Nat) (m : Exchange) : Option Exchange :=
  match m.sends[i]? with
  | none => none
  | some w =>
      let after (pc : SendPc) (c : Client) : Exchange :=
        { client := c, sends := m.sends.set i { w with pc } }
      match w.pc, NknSdk.register w.config w.messageId m.client with
      | .register, (.ok _, c) => some (after .done c)
      | .register, (.panic, c) => some (after .panicked c)
      | _, _ => none

/-- One event.  The handling of a frame may fail or panic; its error is logged, and
a reconnect starts the task again. -/
def step (d : ClientDeps) (m : Exchange) : ExchangeEvent → Option Exchange
  | .send rng dests payload config => m.stepSend d rng dests payload config
  | .register i => m.stepRegister i
  | .handle rng isText data =>
      some { m with client := (handleMessage d rng isText data m.client).2 }
  | .others c =>
      some { m with client := { c with
        responseChannels := m.client.responseChannels
        dispatches := m.client.dispatches } }

/-! ## The property -/

/-- The reply `x` got to the send `w`: it was put on the channel registered for the
message, and the registration is gone. -/
structure Answered (m : Exchange) (w : Sending) (x : Dispatch) : Prop where
  returned : w.pc = .done
  reached : x.channel = some w.messageId
  removed : ∀ key channel, m.client.responseChannels.lookup key = some channel →
    channel.messageId ≠ w.messageId

end Exchange

/-! ## The two keys -/

/-- No id but the empty one reads as its own hexadecimal text. -/
theorem strict_ne_encode {id : Bytes} (hid : id ≠ []) :
    Utf8.strict id ≠ some (Hex.encode id) := by
  intro h
  have hle : (Hex.encode id).length ≤ id.length := Utf8.length_le_of_strict h
  have hpos : 0 < id.length := List.length_pos_iff.mpr hid
  rw [Hex.length_encode] at hle
  omega

/-- A registration is kept under the text of its message's id with an empty
channel, and no reply has gone to the message it answers. -/
structure Registered (c : Client) : Prop where
  keyed : ∀ key channel, c.responseChannels.lookup key = some channel →
    Utf8.strict channel.messageId = some key ∧ channel.queue = none
  missed : ∀ x ∈ c.dispatches, x.replyToId ≠ [] → x.channel ≠ some x.replyToId

namespace Registered

theorem frame : Frame Registered where
  sharedKeys _ _ h := ⟨h.keyed, h.missed⟩
  stdin _ _ h := ⟨h.keyed, h.missed⟩
  sigChainBlockHash _ _ h := ⟨h.keyed, h.missed⟩
  connectChannel _ _ h := ⟨h.keyed, h.missed⟩
  messageChannel _ _ h := ⟨h.keyed, h.missed⟩
  challengeChannel _ _ h := ⟨h.keyed, h.missed⟩

theorem new {c : Client} (hnew : c.responseChannels = ∅) (hnone : c.dispatches = []) :
    Registered c where
  keyed key channel hlookup := by
    rw [hnew] at hlookup
    cases hlookup
  missed x hx := by
    rw [hnone] at hx
    cases hx

theorem register (config : MessageConfig) (messageId : Bytes) :
    Keeps Registered (register config messageId) := by
  intro c h
  unfold NknSdk.register
  by_cases hreply : config.noReply = false
  · rw [when_pos hreply]
    cases hkey : Utf8.strict messageId with
    | none => exact h
    | some key =>
        refine ⟨?_, h.missed⟩
        intro key' channel hlookup
        by_cases hk : key' = key
        · subst hk
          have hsome := (AList.lookup_insert c.responseChannels).symm.trans hlookup
          cases hsome
          exact ⟨hkey, rfl⟩
        · exact h.keyed key' channel ((AList.lookup_insert_ne hk).symm.trans hlookup)
  · rw [when_neg hreply]
    exact h

/-- What the look-up of a reply does: it takes out the registration that it finds,
if there is one, and records whose it was. -/
theorem dispatchReply_eq {c : Client} (h : Registered c) (replyToId : Bytes) (msg : Message) :
    ∃ responseChannels channel,
      dispatchReply replyToId msg c =
        (.ok (), { c with
          responseChannels, dispatches := c.dispatches ++ [{ replyToId, channel }] }) ∧
      (∀ key other, responseChannels.lookup key = some other →
        c.responseChannels.lookup key = some other) ∧
      ∀ messageId, channel = some messageId →
        Utf8.strict messageId = some (Hex.encode replyToId) := by
  rw [NknSdk.dispatchReply, get_bind_apply]
  cases hchannel : c.responseChannels.lookup (Hex.encode replyToId) with
  | none =>
      refine ⟨c.responseChannels, none, rfl, fun _ _ h => h, ?_⟩
      intro messageId hnone
      cases hnone
  | some channel =>
      obtain ⟨hkeyed, hempty⟩ := h.keyed _ _ hchannel
      have hfree : ¬ channel.queue.isSome = true := by simp [hempty]
      refine ⟨_, some channel.messageId, by simp only [if_neg hfree]; rfl, ?_, ?_⟩
      · intro key other hlookup
        have hne : key ≠ Hex.encode replyToId := by
          rintro rfl
          cases (AList.lookup_erase _ _).symm.trans hlookup
        have hinsert := (AList.lookup_erase_ne hne).symm.trans hlookup
        exact (AList.lookup_insert_ne hne).symm.trans hinsert
      · intro messageId hsome
        cases hsome
        exact hkeyed

theorem dispatchReply (replyToId : Bytes) (msg : Message) (hid : replyToId ≠ []) :
    Keeps Registered (dispatchReply replyToId msg) := by
  intro c h
  obtain ⟨responseChannels, channel, heq, hsub, hchannel⟩ := h.dispatchReply_eq replyToId msg
  rw [heq]
  refine ⟨fun key other hlookup => h.keyed key other (hsub key other hlookup), ?_⟩
  intro x hx hne
  rcases List.mem_append.mp hx with hold | hnew
  · exact h.missed x hold hne
  · cases List.mem_singleton.mp hnew
    -- The channel was found under the hexadecimal text of the id, and it is kept under the
    -- text of the id of its own message.
    intro hsame
    exact strict_ne_encode hid (hchannel replyToId hsame)

/-- Every reply whose data is read is looked up. -/
theorem handlePayload_reply {c : Client} {d : ClientDeps} {src : String} {encrypted : Bool}
    {payload : Pb.Payloads.Payload} {data : Bytes} (h : Registered c)
    (hreply : payload.replyToId ≠ []) (hdata : payloadData d payload c = (.ok data, c)) :
    ∃ c' channel, handlePayload d src encrypted payload c = (.ok (), c') ∧
      c'.dispatches = c.dispatches ++ [{ replyToId := payload.replyToId, channel }] := by
  rw [handlePayload, bind_ok hdata]
  simp only [if_pos hreply]
  obtain ⟨_, channel, heq, -, -⟩ := h.dispatchReply_eq payload.replyToId _
  exact ⟨_, channel, heq, rfl⟩

end Registered

/-! ## Runs -/

namespace Exchange

variable {d : ClientDeps} {m m' : Exchange} {e : ExchangeEvent}

theorem registered_stepSend {rng : Draws} {dests : List String} {payload : Pb.Payloads.Payload}
    {config : MessageConfig} (h : Registered m.client)
    (hs : m.stepSend d rng dests payload config = some m') : Registered m'.client := by
  have hkeep : Registered (sendMessages d rng dests payload (!config.unencrypted)
      config.maxHoldingSecs m.client).2 :=
    Registered.frame.sendMessages dests payload _ _ m.client h
  simp only [stepSend] at hs
  split at hs
  next c hsend => cases hs; rw [hsend] at hkeep; exact hkeep
  next e c hsend => cases hs; rw [hsend] at hkeep; exact hkeep
  next c hsend => cases hs; rw [hsend] at hkeep; exact hkeep
  next => cases hs

theorem registered_stepRegister {i : Nat} (h : Registered m.client)
    (hs : m.stepRegister i = some m') : Registered m'.client := by
  simp only [stepRegister] at hs
  split at hs
  next => cases hs
  next w hw =>
    have hkeep := Registered.register w.config w.messageId m.client h
    split at hs
    next c hpc hregister => cases hs; rw [hregister] at hkeep; exact hkeep
    next c hpc hregister => cases hs; rw [hregister] at hkeep; exact hkeep
    next => cases hs

theorem registered_step (h : Registered m.client) (hs : m.step d e = some m') :
    Registered m'.client := by
  cases e with
  | send rng dests payload config => exact registered_stepSend h hs
  | register i => exact registered_stepRegister h hs
  | handle rng isText data =>
      cases hs
      exact Registered.frame.handleMessage Registered.dispatchReply rng isText data m.client h
  | others c => cases hs; exact ⟨h.keyed, h.missed⟩

/-- In every run of sends and frames, no send is answered by a reply to its
message, wherever the reply comes in after the message has gone out. -/
theorem reply_misses (d : ClientDeps) (c : Client) (events : List ExchangeEvent) (m : Exchange)
    (hnew : c.responseChannels = ∅) (hnone : c.dispatches = [])
    (hrun : Run.runFrom (step d) (new c) events = some m) :
    ∀ w ∈ m.sends, w.config.noReply = false → w.messageId ≠ [] →
      ∀ x ∈ m.client.dispatches.drop w.since, x.replyToId = w.messageId → ¬ m.Answered w x := by
  have hend : Registered m.client :=
    Run.invariant_of_step (I := fun m => Registered m.client)
      (fun _ _ _ h hs => registered_step h hs) (Registered.new hnew hnone) hrun
  intro w _ _ hid x hx hmatch hanswered
  have hmiss := hend.missed x (List.mem_of_mem_drop hx) (by rw [hmatch]; exact hid)
  rw [hmatch] at hmiss
  exact hmiss hanswered.reached

/-- The two parts of a send, with nothing in between, are `send`. -/
theorem send_alone {rng : Draws} {dests : List String} {payload : Pb.Payloads.Payload}
    {config : MessageConfig} {c : Client}
    (h : send d rng dests payload config m.client = (.ok (), c)) :
    ∃ since, Run.runFrom (step d) m
        [.send rng dests payload config, .register m.sends.length] =
      some { client := c
             sends := m.sends ++
               [{ messageId := payload.messageId, config, since, pc := .done }] } := by
  obtain ⟨client, sends⟩ := m
  obtain ⟨_, c₁, hmessages, hregister⟩ := bind_eq_ok h
  refine ⟨c₁.dispatches.length, ?_⟩
  let sending (pc : SendPc) : Sending :=
    { messageId := payload.messageId, config, since := c₁.dispatches.length, pc }
  have hlast : (sends ++ [sending .register])[sends.length]? = some (sending .register) :=
    List.getElem?_concat_length
  have hsend : stepSend d rng dests payload config ⟨client, sends⟩ =
      some ⟨c₁, sends ++ [sending .register]⟩ := by
    simp only [stepSend, hmessages]
    rfl
  have hregistered : stepRegister sends.length ⟨c₁, sends ++ [sending .register]⟩ =
      some ⟨c, sends ++ [sending .done]⟩ := by
    simp only [stepRegister, hlast]
    simp only [sending, hregister, List.set_append_right _ _ (Nat.le_refl _), Nat.sub_self,
      List.set_cons_zero]
  show (stepSend d rng dests payload config ⟨client, sends⟩).bind _ = _
  rw [hsend]
  show (stepRegister sends.length ⟨c₁, sends ++ [sending .register]⟩).bind _ = _
  rw [hregistered]
  rfl

/-! ## A message to oneself -/

def sampleAddress : String := Hex.encode sampleWallet.publicKey.toList

def sampleNode : Node :=
  { addr := "127.0.0.1:30002", rpcAddr := "127.0.0.1:30003", pubkey := sampleAddress, id := "" }

def sampleAddressId : Bytes :=
  [149, 187, 251, 177, 240, 239, 143, 35, 5, 190, 6, 154, 154, 45, 125, 157,
   62, 154, 192, 242, 179, 38, 250, 158, 214, 217, 218, 252, 102, 210, 161, 17]

/-- The hash of the sigchain's metadata. -/
def sampleMetadataHash : Bytes :=
  [39, 224, 160, 234, 102, 252, 118, 170, 182, 208, 123, 195, 176, 124, 89, 196,
   223, 100, 228, 40, 79, 11, 112, 201, 1, 207, 21, 245, 41, 208, 10, 52]

def sampleHashes : Primitives where
  sha256Hash := fun data =>
    if data = sampleAddress.toUTF8.toList then sampleAddressId
    else if data = sampleMetadataHash ++
        Pb.SigChainElem.serializeUnsigned { nextPubkey := sampleWallet.publicKey.toList } then
      [207, 245, 54, 5, 86, 176, 30, 239, 140, 126, 75, 27, 254, 134, 217, 107,
       202, 110, 244, 119, 122, 113, 248, 226, 180, 119, 115, 92, 228, 248, 224, 72]
    else sampleMetadataHash
  ed25519Sign := fun _ _ =>
    ⟨#[
      3, 133, 73, 236, 225, 30, 184, 155, 1, 48, 21, 143, 184, 231, 27, 113,
      184, 2, 46, 23, 195, 241, 11, 109, 232, 241, 133, 114, 222, 251, 48, 199,
      124, 98, 101, 112, 37, 84, 206, 225, 76, 118, 101, 43, 185, 208, 217, 95,
      198, 185, 242, 33, 72, 97, 197, 138, 97, 231, 177, 153, 187, 161, 111, 4], rfl⟩
  ed25519Verify := fun _ _ _ => true

/-- A reply to the message `a`. -/
def sampleReply : Pb.Payloads.Payload :=
  { messageId := [0x62], data := [0x6f, 0x6b], replyToId := [0x61] }

def sampleReplyMessage : Pb.Payloads.Message :=
  { payload := sampleReply.encode, encrypted := false, nonce := [], encryptedKey := [] }

def sampleInbound : Pb.InboundMessage :=
  { src := sampleAddress, payload := sampleReplyMessage.encode, prevHash := [] }

def sampleFrame : Pb.ClientMessage :=
  { messageType := 1, message := sampleInbound.encode, compressionType := 0 }

def sampleClientDeps : ClientDeps where
  primitives := sampleHashes
  toCurve25519Pk := some
  toCurve25519Sk := fun _ =>
    ⟨#[
      88, 232, 110, 251, 117, 250, 78, 44, 65, 15, 70, 225, 109, 233, 246, 172,
      174, 26, 23, 3, 82, 134, 81, 182, 155, 193, 118, 192, 136, 190, 243, 110], rfl⟩
  precompute := fun publicKey _ => publicKey
  sealPrecomputed := fun message _ _ => message
  openPrecomputed := fun message _ _ => some message
  publicKeyOf := fun _ => sampleWallet.publicKey
  getRegistrant := fun _ => .ok ""
  zlib := id
  parseJson := fun _ => none
  setClientResult := fun _ => none
  decodeClientMessage := fun data => if data = sampleFrame.encode then some sampleFrame else none
  decodeInboundMessage := fun data =>
    if data = sampleInbound.encode then some sampleInbound else none
  decodeMessage := fun data =>
    if data = sampleReplyMessage.encode then some sampleReplyMessage else none
  decodePayload := fun data => if data = sampleReply.encode then some sampleReply else none
  decodeTextData := fun _ => none

def sampleDraws : Draws where
  key := Vector.replicate 32 0
  msgNonce := Vector.replicate 24 0
  keyNonce := fun _ => Vector.replicate 24 0
  nonce := fun _ => 7
  clientSalt := Vector.replicate 32 0

/-- A client that is connected to its node. -/
def sampleClient : Client :=
  { Client.new sampleClientDeps sampleWallet.account none with
    node := some sampleNode, stdin := some { isOpen := true, queue := [] } }

/-- The message with the id `id`, to the client itself and not encrypted. -/
def sampleSend (id : Bytes) : ExchangeEvent :=
  .send sampleDraws [sampleAddress] { messageId := id, data := [0x68, 0x69] } { unencrypted := true }

def sampleHandle : ExchangeEvent := .handle sampleDraws false sampleFrame.encode

/-- The send of the message `a`, after it has returned. -/
def sampleSent : Sending :=
  { messageId := [0x61], config := { unencrypted := true }, since := 0, pc := .done }

/-- A reply that comes in before the registration misses it. -/
theorem early_reply_misses :
    ∃ m, Run.runFrom (step sampleClientDeps) (new sampleClient)
        [sampleSend [0x61], sampleHandle, .register 0] = some m ∧
      sampleSent ∈ m.sends ∧
        ∃ x ∈ m.client.dispatches.drop sampleSent.since,
          x.replyToId = sampleSent.messageId ∧ ¬ m.Answered sampleSent x := by
  have hrun : (Run.runFrom (step sampleClientDeps) (new sampleClient)
      [sampleSend [0x61], sampleHandle, .register 0]).map
      (fun m => (m.sends, m.client.dispatches)) =
        some ([sampleSent], [{ replyToId := [0x61], channel := none }]) := by
    decide +kernel
  obtain ⟨m, hm, hend⟩ := Option.map_eq_some_iff.mp hrun
  obtain ⟨hsends, hdispatches⟩ := Prod.mk.inj hend
  have hw : sampleSent ∈ m.sends := by
    rw [hsends]
    exact List.mem_singleton_self _
  have hx : { replyToId := [0x61], channel := none } ∈
      m.client.dispatches.drop sampleSent.since := by
    rw [hdispatches]
    exact List.mem_singleton_self _
  exact ⟨m, hm, hw, _, hx, rfl, reply_misses sampleClientDeps sampleClient _ m rfl rfl hm
    sampleSent hw rfl (List.cons_ne_nil _ _) _ hx rfl⟩

/-- A reply that comes in after the send has returned is put nowhere, and the
registration of its message stays. -/
theorem late_reply_dropped :
    ∃ m, Run.runFrom (step sampleClientDeps) (new sampleClient)
        [sampleSend [0x61], .register 0, sampleHandle] = some m ∧
      m.sends = [sampleSent] ∧
      m.client.dispatches = [{ replyToId := [0x61], channel := none }] ∧
      m.client.responseChannels.lookup "a" = some { messageId := [0x61], queue := none } ∧
      ∀ x ∈ m.client.dispatches.drop sampleSent.since, ¬ m.Answered sampleSent x := by
  have hrun : (Run.runFrom (step sampleClientDeps) (new sampleClient)
      [sampleSend [0x61], .register 0, sampleHandle]).map
      (fun m => (m.sends, m.client.dispatches, m.client.responseChannels.lookup "a")) =
        some ([sampleSent], [{ replyToId := [0x61], channel := none }],
          some { messageId := [0x61], queue := none }) := by
    decide +kernel
  obtain ⟨m, hm, hend⟩ := Option.map_eq_some_iff.mp hrun
  simp only [Prod.mk.injEq] at hend
  obtain ⟨hsends, hdispatches, hlookup⟩ := hend
  refine ⟨m, hm, hsends, hdispatches, hlookup, ?_⟩
  intro x hx hanswered
  have hx' := List.mem_of_mem_drop hx
  rw [hdispatches] at hx'
  cases List.mem_singleton.mp hx'
  cases hanswered.reached

/-- A send with an id that is not UTF-8 panics. -/
example : (Run.runFrom (step sampleClientDeps) (new sampleClient)
    [sampleSend [0xff], .register 0]).map (fun m => m.sends.map (·.pc)) = some [.panicked] := by
  decide +kernel

/-- A reply to the message `a` goes to the message `61`. -/
example : (Run.runFrom (step sampleClientDeps) (new sampleClient)
    [sampleSend [0x36, 0x31], .register 0, sampleHandle]).map (fun m => m.client.dispatches) =
      some [{ replyToId := [0x61], channel := some [0x36, 0x31] }] := by
  decide +kernel

end Exchange

end NknSdk
