import NknSdk.Client.Replies
import NknSdk.Lib.Threads
import NknSdk.Utils.Identifier

/-!
# Multi-clients

`src/multiclient.rs`.  `MultiClient::new` starts a task for each sub-client.  A task
makes its client, waits until it is connected, and then takes the lock of `clients` to
put it there.  The guard of the lock is a variable of the task, and the task goes on with
a loop over `message_channel`, into which nobody puts a message but such a loop after it
has taken one out.  So the first task that gets there keeps the lock for ever: no other
sub-client is ever there, and `send_data` finds no client or waits for ever
(`multiClient_never_sends`).

The steps are those between two waits, in any order.  What is registered in `clients` is
the identifier of the client.  `default_client` is left out, since each task sets a copy
of its own and nothing reads it.
-/

namespace NknSdk

open Exec

/-! ## The state -/

/-- Where the task of a sub-client is. -/
inductive SubPlace where
  | creating
  | connecting
  /-- It waits for the lock of `clients`. -/
  | locking (node : Node)
  /-- It is registered, has the lock, and waits for room in `connect_channel`. -/
  | announcing (node : Node)
  /-- It has the lock, and waits for a message. -/
  | receiving
  | ended
deriving DecidableEq

/-- It has the lock of `clients`. -/
def SubPlace.isInside : SubPlace → Bool
  | .announcing _ => true
  | .receiving => true
  | _ => false

/-- How many nodes it still has to announce. -/
def SubPlace.toAnnounce : SubPlace → Nat
  | .announcing _ => 1
  | _ => 0

structure SubClient where
  index : Int32
  identifier : String
  place : SubPlace

/-- What `send_with_client` hands to `Client::send_messages`. -/
structure MultiSend where
  clientId : Int32
  dests : List String
  payload : Pb.Payloads.Payload
  encrypted : Bool
  maxHoldingSecs : UInt32

/-- Where a call of `send_data` is, once it has its destinations. -/
structure MultiSending where
  dests : List String
  payload : Pb.Payloads.Payload
  config : MessageConfig
  /-- It has asked for the number of clients. -/
  counted : Bool

/-- `multiclient::MultiClient`. -/
structure MultiClient where
  offset : Int32
  closed : Bool
  subs : List SubClient
  /-- The position of the task that has the lock of `clients`. -/
  holder : Option Nat
  /-- A task has panicked while it had the lock. -/
  poisoned : Bool
  clients : AList fun _ : Int32 => String
  /-- The node waiting in `connect_channel`. -/
  connectChan : Option Node
  /-- The message waiting in `message_channel`. -/
  messageChan : Option Message
  msgCache : List String
  sending : Option MultiSending
  /-- Oldest first. -/
  sent : List MultiSend
  /-- What calls of `wait_for_connect` have returned. -/
  connected : List Node

namespace MultiClient

/-- The numbers of the sub-clients. -/
def indices (offset numSubClients : Int32) : List Int32 :=
  (List.range (numSubClients.toInt + offset.toInt).toNat).map fun k =>
    Int32.ofInt (k - offset.toInt)

/-- A multi-client whose tasks have not begun. -/
def start (offset : Int32) (baseIdentifier : String) (numSubClients : Int32) : MultiClient where
  offset
  closed := false
  subs := (indices offset numSubClients).map fun index =>
    { index, identifier := Utils.addIdentifier baseIdentifier index, place := .creating }
  holder := none
  poisoned := false
  clients := ∅
  connectChan := none
  messageChan := none
  msgCache := []
  sending := none
  sent := []
  connected := []

/-- `MultiClient::new`.  Its count of the clients may overflow. -/
def new (o : Overflow) (baseIdentifier : String) (numSubClients : Int32) (originalClient : Bool) :
    Exec String Unit MultiClient := do
  let offset : Int32 := if originalClient then 1 else 0
  let _ ← arith o (numSubClients.toInt + offset.toInt < 2 ^ 31) (numSubClients + offset)
  return start offset baseIdentifier numSubClients

def setPlace (m : MultiClient) (j : Nat) (sub : SubClient) (place : SubPlace) : MultiClient :=
  { m with subs := m.subs.set j { sub with place } }

/-! ## The task of a sub-client -/

/-- `Client::new` comes back. -/
def created (m : MultiClient) (j : Nat) (isOk : Bool) : Option MultiClient := do
  let sub ← m.subs[j]?
  if sub.place = .creating then
    some (m.setPlace j sub (if isOk ∧ m.closed = false then .connecting else .ended))
  else none

/-- `Client::wait_for_connect` comes back. -/
def gotNode (m : MultiClient) (j : Nat) (node : Except String Node) : Option MultiClient := do
  let sub ← m.subs[j]?
  if sub.place = .connecting then
    match node with
    | .ok node => some (m.setPlace j sub (.locking node))
    | .error _ => some (m.setPlace j sub .ended)
  else none

/-- The task gets the lock and registers its client.  A poisoned lock makes it panic. -/
def register (m : MultiClient) (j : Nat) : Option MultiClient := do
  let sub ← m.subs[j]?
  match sub.place with
  | .locking node =>
      if m.poisoned then some (m.setPlace j sub .ended)
      else if m.holder = none then
        some ({ m with
          holder := some j
          clients := m.clients.insert sub.index sub.identifier }.setPlace j sub (.announcing node))
      else none
  | _ => none

/-- The task puts its node into `connect_channel`. -/
def announce (m : MultiClient) (j : Nat) : Option MultiClient := do
  let sub ← m.subs[j]?
  match sub.place, m.connectChan with
  | .announcing node, none => some ({ m with connectChan := some node }.setPlace j sub .receiving)
  | _, _ => none

/-- The task takes a message.  Every kind of message that is new ends in a panic. -/
def receive (m : MultiClient) (j : Nat) : Option MultiClient := do
  let sub ← m.subs[j]?
  let msg ← m.messageChan
  if sub.place = .receiving then
    let m := { m with messageChan := none }
    let panicked (m : MultiClient) : MultiClient :=
      { m with holder := none, poisoned := true }.setPlace j sub .ended
    if msg.type = Pb.Payloads.PayloadType.session.toI32.toUInt32 then some (panicked m)
    else
      let cacheKey := Hex.encode msg.messageId
      if cacheKey ∈ m.msgCache then some m
      else some (panicked { m with msgCache := cacheKey :: m.msgCache })
  else none

/-! ## The callers -/

/-- `MultiClient::wait_for_connect`. -/
def waitForConnect (m : MultiClient) : Option MultiClient := do
  let node ← m.connectChan
  some { m with connectChan := none, connected := m.connected ++ [node] }

/-- `MultiClient::send_data` up to its first wait.  Without destinations it returns, and
where none is valid it panics. -/
def sendData (d : ClientDeps) (m : MultiClient) (dests : List String) (text msgId : Bytes)
    (config : MessageConfig) : Option MultiClient :=
  if m.sending.isSome then none
  else
    match processDests d dests with
    | .error _ => some m
    | .ok [] => some m
    | .ok dests =>
        let payload : Pb.Payloads.Payload :=
          { type := Pb.Payloads.PayloadType.binary.toI32, messageId := msgId, data := text
            replyToId := [], noReply := config.noReply }
        some { m with sending := some { dests, payload, config, counted := false } }

/-- It asks for the number of clients. -/
def countClients (m : MultiClient) : Option MultiClient := do
  let sending ← m.sending
  if sending.counted = false then
    if m.poisoned then some { m with sending := none }
    else if m.holder = none then some { m with sending := some { sending with counted := true } }
    else none
  else none

/-- The entries that a call of `send_data` gets to: it panics at the first error. -/
def upToError (answer : Int32 → Bool) : List Int32 → List Int32
  | [] => []
  | clientId :: clientIds =>
      if answer clientId then clientId :: upToError answer clientIds else [clientId]

/-- It takes the lock and sends over every client. -/
def sendAll (m : MultiClient) (answer : Int32 → Bool) : Option MultiClient := do
  let sending ← m.sending
  if sending.counted then
    if m.poisoned then some { m with sending := none }
    else if m.holder = none then
      let sends := (upToError answer m.clients.keys).map fun clientId =>
        { clientId
          dests := Utils.addMulticlientPrefix sending.dests clientId
          payload := sending.payload
          encrypted := !sending.config.unencrypted
          maxHoldingSecs := sending.config.maxHoldingSecs }
      some { m with
        sent := m.sent ++ sends
        poisoned := !m.clients.keys.all answer
        sending := none }
    else none
  else none

end MultiClient

inductive MultiEvent where
  | created (j : Nat) (isOk : Bool)
  | gotNode (j : Nat) (node : Except String Node)
  | register (j : Nat)
  | announce (j : Nat)
  | receive (j : Nat)
  | waitForConnect
  | sendData (dests : List String) (text msgId : Bytes) (config : MessageConfig)
  | countClients
  | sendAll (answer : Int32 → Bool)

namespace MultiClient

def step (d : ClientDeps) (m : MultiClient) : MultiEvent → Option MultiClient
  | .created j isOk => m.created j isOk
  | .gotNode j node => m.gotNode j node
  | .register j => m.register j
  | .announce j => m.announce j
  | .receive j => m.receive j
  | .waitForConnect => m.waitForConnect
  | .sendData dests text msgId config => m.sendData d dests text msgId config
  | .countClients => m.countClients
  | .sendAll answer => m.sendAll answer

/-! ## What every step keeps -/

/-- Everything of the lock, the channels and the clients.  Either nobody has got to the
lock, or one task has it and has registered its client. -/
inductive Locked (m : MultiClient) : Prop where
  | nobody (hholder : m.holder = none) (hclients : m.clients = ∅) (hchan : m.connectChan = none)
      (hconnected : m.connected = [])
      (houtside : ∀ (j : Nat) (sub : SubClient), m.subs[j]? = some sub → sub.place.isInside = false)
  | one (k : Nat) (owner : SubClient) (hholder : m.holder = some k)
      (hclients : m.clients = AList.singleton owner.index owner.identifier)
      (howner : m.subs[k]? = some owner) (hinside : owner.place.isInside = true)
      (hnodes : m.connected.length + m.connectChan.toList.length + owner.place.toAnnounce = 1)
      (houtside : ∀ (j : Nat) (sub : SubClient), j ≠ k → m.subs[j]? = some sub →
        sub.place.isInside = false)

structure Inv (m : MultiClient) : Prop where
  messageChan : m.messageChan = none
  poisoned : m.poisoned = false
  sent : m.sent = []
  locked : m.Locked

namespace Locked

variable {m : MultiClient} {j : Nat} {sub : SubClient} {place : SubPlace}

theorem of_eq (h : m.Locked) {m' : MultiClient} (hholder : m'.holder = m.holder)
    (hclients : m'.clients = m.clients) (hsubs : m'.subs = m.subs)
    (hchan : m'.connectChan = m.connectChan) (hconnected : m'.connected = m.connected) :
    m'.Locked := by
  cases h with
  | nobody h₁ h₂ h₃ h₄ h₅ =>
      exact .nobody (hholder.trans h₁) (hclients.trans h₂) (hchan.trans h₃) (hconnected.trans h₄)
        (hsubs ▸ h₅)
  | one k owner h₁ h₂ h₃ h₄ h₅ h₆ =>
      refine .one k owner (hholder.trans h₁) (hclients.trans h₂) (hsubs ▸ h₃) h₄ ?_ (hsubs ▸ h₆)
      rw [hconnected, hchan]
      exact h₅

/-- A task outside the lock that stays outside changes nothing. -/
theorem setPlace (h : m.Locked) (hsub : m.subs[j]? = some sub)
    (hbefore : sub.place.isInside = false) (hplace : place.isInside = false) :
    (m.setPlace j sub place).Locked := by
  cases h with
  | nobody hholder hclients hchan hconnected houtside =>
      refine .nobody hholder hclients hchan hconnected fun i other hother => ?_
      rcases Threads.get_set hother with ⟨-, rfl⟩ | ⟨-, hother⟩
      · exact hplace
      · exact houtside i other hother
  | one k owner hholder hclients howner hinside hnodes houtside =>
      have hne : k ≠ j := by
        rintro rfl
        cases howner.symm.trans hsub
        rw [hbefore] at hinside
        cases hinside
      refine .one k owner hholder hclients ?_ hinside hnodes fun i other hi hother => ?_
      · exact (List.getElem?_set_ne hne.symm).trans howner
      · rcases Threads.get_set hother with ⟨-, rfl⟩ | ⟨-, hother⟩
        · exact hplace
        · exact houtside i other hi hother

/-- The lock is free only as long as nobody has got to it. -/
theorem clients_eq (h : m.Locked) (hholder : m.holder = none) : m.clients = ∅ := by
  cases h with
  | nobody _ hclients _ _ _ => exact hclients
  | one k owner hholder' _ _ _ _ _ => cases hholder.symm.trans hholder'

theorem register (h : m.Locked) (hsub : m.subs[j]? = some sub) {node : Node}
    (hlocking : sub.place = .locking node) (hholder : m.holder = none) :
    ({ m with
      holder := some j
      clients := m.clients.insert sub.index sub.identifier }.setPlace j sub
        (.announcing node)).Locked := by
  cases h with
  | nobody _ hclients hchan hconnected houtside =>
      refine .one j { sub with place := .announcing node } rfl ?_ ?_ rfl ?_ fun i other hi hother => ?_
      · show m.clients.insert sub.index sub.identifier = _
        rw [hclients, AList.insert_empty]
      · exact List.getElem?_set_self (List.getElem?_eq_some_iff.mp hsub).1
      · show m.connected.length + m.connectChan.toList.length + 1 = 1
        rw [hconnected, hchan]
        rfl
      · rcases Threads.get_set hother with ⟨hij, -⟩ | ⟨-, hother⟩
        · exact absurd hij hi
        · exact houtside i other hother
  | one k owner hholder' _ _ _ _ _ => cases hholder.symm.trans hholder'

theorem announce (h : m.Locked) (hsub : m.subs[j]? = some sub) {node : Node}
    (hannouncing : sub.place = .announcing node) (hchan : m.connectChan = none) :
    ({ m with connectChan := some node }.setPlace j sub .receiving).Locked := by
  have hinside : sub.place.isInside = true := by rw [hannouncing]; rfl
  cases h with
  | nobody _ _ _ _ houtside =>
      rw [houtside j sub hsub] at hinside
      cases hinside
  | one k owner hholder hclients howner _ hnodes houtside =>
      have hk : j = k := by
        by_contra hne
        rw [houtside j sub hne hsub] at hinside
        cases hinside
      subst hk
      cases hsub.symm.trans howner
      refine .one j { sub with place := .receiving } hholder hclients ?_ rfl ?_ fun i other hi hother => ?_
      · exact List.getElem?_set_self (List.getElem?_eq_some_iff.mp hsub).1
      · rw [hchan, hannouncing] at hnodes
        exact hnodes
      · rcases Threads.get_set hother with ⟨hij, -⟩ | ⟨-, hother⟩
        · exact absurd hij hi
        · exact houtside i other hi hother

theorem waitForConnect (h : m.Locked) {node : Node} (hchan : m.connectChan = some node) :
    { m with connectChan := none, connected := m.connected ++ [node] }.Locked := by
  cases h with
  | nobody _ _ hnone _ _ => cases hchan.symm.trans hnone
  | one k owner hholder hclients howner hinside hnodes houtside =>
      refine .one k owner hholder hclients howner hinside ?_ houtside
      rw [hchan] at hnodes
      rw [List.length_append]
      exact hnodes

end Locked

section Steps

variable {d : ClientDeps} {m m' : MultiClient} {event : MultiEvent}

theorem Inv.step (h : m.Inv) (hs : m.step d event = some m') : m'.Inv := by
  have hpoisoned : ¬ m.poisoned = true := by rw [h.poisoned]; exact Bool.false_ne_true
  cases event with
  | created j isOk =>
      obtain ⟨sub, hsub, hs⟩ := Option.bind_eq_some_iff.mp hs
      split at hs
      next hplace =>
        cases hs
        have hbefore : sub.place.isInside = false := by rw [hplace]; rfl
        refine ⟨h.messageChan, h.poisoned, h.sent, h.locked.setPlace hsub hbefore ?_⟩
        split
        next => rfl
        next => rfl
      next => cases hs
  | gotNode j node =>
      obtain ⟨sub, hsub, hs⟩ := Option.bind_eq_some_iff.mp hs
      split at hs
      next hplace =>
        have hbefore : sub.place.isInside = false := by rw [hplace]; rfl
        cases node with
        | ok node =>
            cases hs
            exact ⟨h.messageChan, h.poisoned, h.sent, h.locked.setPlace hsub hbefore rfl⟩
        | error e =>
            cases hs
            exact ⟨h.messageChan, h.poisoned, h.sent, h.locked.setPlace hsub hbefore rfl⟩
      next => cases hs
  | register j =>
      obtain ⟨sub, hsub, hs⟩ := Option.bind_eq_some_iff.mp hs
      split at hs
      next node hlocking =>
        rw [if_neg hpoisoned] at hs
        split at hs
        next hholder =>
          cases hs
          exact ⟨h.messageChan, h.poisoned, h.sent, h.locked.register hsub hlocking hholder⟩
        next => cases hs
      next => cases hs
  | announce j =>
      obtain ⟨sub, hsub, hs⟩ := Option.bind_eq_some_iff.mp hs
      split at hs
      next node hannouncing hchan =>
        cases hs
        exact ⟨h.messageChan, h.poisoned, h.sent, h.locked.announce hsub hannouncing hchan⟩
      next => cases hs
  | receive j =>
      obtain ⟨sub, hsub, hs⟩ := Option.bind_eq_some_iff.mp hs
      rw [h.messageChan] at hs
      cases hs
  | waitForConnect =>
      obtain ⟨node, hchan, hs⟩ := Option.bind_eq_some_iff.mp hs
      cases hs
      exact ⟨h.messageChan, h.poisoned, h.sent, h.locked.waitForConnect hchan⟩
  | sendData dests text msgId config =>
      simp only [step, sendData] at hs
      split at hs
      next => cases hs
      next =>
        split at hs
        next => cases hs; exact h
        next => cases hs; exact h
        next =>
          cases hs
          exact ⟨h.messageChan, h.poisoned, h.sent, h.locked.of_eq rfl rfl rfl rfl rfl⟩
  | countClients =>
      obtain ⟨sending, -, hs⟩ := Option.bind_eq_some_iff.mp hs
      split at hs
      next =>
        split at hs
        next =>
          cases hs
          exact ⟨h.messageChan, h.poisoned, h.sent, h.locked.of_eq rfl rfl rfl rfl rfl⟩
        next => cases hs
      next => cases hs
  | sendAll answer =>
      obtain ⟨sending, -, hs⟩ := Option.bind_eq_some_iff.mp hs
      split at hs
      next =>
        split at hs
        next hholder =>
          -- The lock is free, so there is no client to send over.
          have hkeys : m.clients.keys = [] := by rw [h.locked.clients_eq hholder]; rfl
          cases hs
          refine ⟨h.messageChan, ?_, ?_, h.locked.of_eq rfl rfl rfl rfl rfl⟩
          · simp [hkeys]
          · simp [hkeys, upToError, h.sent]
        next => cases hs
      next => cases hs

/-- While a task has the lock, `send_data` waits. -/
theorem Inv.countClients_eq_none (h : m.Inv) (hholder : m.holder ≠ none) :
    m.countClients = none := by
  cases hsending : m.sending with
  | none => simp [countClients, hsending]
  | some sending => simp [countClients, hsending, h.poisoned, hholder]

theorem Inv.sendAll_eq_none (h : m.Inv) (hholder : m.holder ≠ none) (answer : Int32 → Bool) :
    m.sendAll answer = none := by
  cases hsending : m.sending with
  | none => simp [sendAll, hsending]
  | some sending => simp [sendAll, hsending, h.poisoned, hholder]

end Steps

/-- A new multi-client has only tasks that make their clients. -/
theorem Inv.new {o : Overflow} {baseIdentifier : String} {numSubClients : Int32}
    {originalClient : Bool} {m : MultiClient}
    (hnew : (new o baseIdentifier numSubClients originalClient ()).1 = .ok m) : m.Inv := by
  have hstart : ∃ offset, m = start offset baseIdentifier numSubClients := by
    unfold MultiClient.new at hnew
    rcases arith_eq (ε := String) (σ := Unit) o
      (numSubClients.toInt + (if originalClient then 1 else 0 : Int32).toInt < 2 ^ 31)
      (numSubClients + if originalClient then 1 else 0) with harith | harith
    · simp only [harith, Exec.pure_bind, pure_apply, Outcome.ok.injEq] at hnew
      exact ⟨_, hnew.symm⟩
    · simp only [harith, panic_bind, panic_apply, reduceCtorEq] at hnew
  obtain ⟨offset, rfl⟩ := hstart
  refine ⟨rfl, rfl, rfl, .nobody rfl rfl rfl rfl fun j sub hsub => ?_⟩
  obtain ⟨index, -, rfl⟩ := Option.map_eq_some_iff.mp (List.getElem?_map.symm.trans hsub)
  rfl

/-- In no order of the tasks and callers of a multi-client is a message ever sent or
received: at most one sub-client is ever registered and one node announced, and with a
registered sub-client no call of `send_data` comes back. -/
theorem multiClient_never_sends {d : ClientDeps} {o : Overflow} {baseIdentifier : String}
    {numSubClients : Int32} {originalClient : Bool} {m m' : MultiClient}
    (hnew : (new o baseIdentifier numSubClients originalClient ()).1 = .ok m)
    (events : List MultiEvent) (hrun : Run.runFrom (step d) m events = some m') :
    m'.sent = [] ∧ m'.messageChan = none ∧ m'.clients.keys.length ≤ 1 ∧
      m'.connected.length ≤ 1 ∧
      (m'.clients ≠ ∅ → m'.countClients = none ∧ ∀ answer, m'.sendAll answer = none) := by
  have h : m'.Inv := Run.invariant_of_step (fun _ _ _ h hs => h.step hs) (Inv.new hnew) hrun
  refine ⟨h.sent, h.messageChan, ?_⟩
  cases h.locked with
  | nobody hholder hclients hchan hconnected houtside =>
      refine ⟨?_, ?_, fun hne => absurd hclients hne⟩
      · rw [hclients]
        exact Nat.zero_le 1
      · rw [hconnected]
        exact Nat.zero_le 1
  | one k owner hholder hclients howner hinside hnodes houtside =>
      refine ⟨?_, by omega, fun _ => ⟨?_, fun answer => ?_⟩⟩
      · rw [hclients]
        exact Nat.le_refl 1
      · exact h.countClients_eq_none (by rw [hholder]; exact nofun)
      · exact h.sendAll_eq_none (by rw [hholder]; exact nofun) answer

/-! ## A run -/

/-- The original client and two more. -/
def sampleMulti : MultiClient := start 1 "" 2

def sampleNode : Node := { addr := "127.0.0.1:30002", rpcAddr := "", pubkey := "", id := "" }

/-- Two clients connect, and the second is registered.  Then a message is to be sent. -/
def sampleMultiEvents : List MultiEvent :=
  [.created 0 true, .created 1 true, .gotNode 0 (.ok sampleNode), .gotNode 1 (.ok sampleNode),
    .created 2 false, .register 1, .announce 1, .waitForConnect,
    .sendData ["0123456789abcdef0123456789abcdef0123456789abcdef0123456789abcdef"] [1, 2] [3] {}]

theorem sample_multiClient_never_sends : ∃ m, Run.runFrom (step Exchange.sampleClientDeps) sampleMulti
    sampleMultiEvents = some m ∧ m.clients.keys = [0] ∧ m.sending.isSome = true ∧
    m.sent = [] ∧ m.messageChan = none ∧ m.clients.keys.length ≤ 1 ∧ m.connected.length ≤ 1 ∧
    (m.clients ≠ ∅ → m.countClients = none ∧ ∀ answer, m.sendAll answer = none) := by
  have hend : (Run.runFrom (step Exchange.sampleClientDeps) sampleMulti sampleMultiEvents).map
      (fun m => (m.clients.keys, m.sending.isSome)) = some ([0], true) := by
    decide +kernel
  obtain ⟨m, hrun, hm⟩ := Option.map_eq_some_iff.mp hend
  rw [Prod.mk.injEq] at hm
  have hnew : (new .checked "" 2 true ()).1 = .ok sampleMulti := rfl
  exact ⟨m, hrun, hm.1, hm.2, multiClient_never_sends hnew sampleMultiEvents hrun⟩

end MultiClient

end NknSdk
