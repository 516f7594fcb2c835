import NknSdk.Client.Batching

/-!
# What `send_messages` reports

`Ok` from `send_messages` should mean that every outbound message is on the queue of
the websocket.  An error of a write is only logged, though, and a client without a
node or without a websocket panics, as does a destination whose key is none of the
curve.  `sends_truthfully_iff` says exactly when the report is true.

The writer of the websocket may go away while the messages are written.  In
`sendMessagesWhile` it is gone by the write `i` where `gone i` says so, and
`sendMessages` is the case in which it stays as it is.
-/

namespace NknSdk

open Exec

/-- The websocket takes no more messages from the queue. -/
def dropWriter (c : Client) : Client :=
  { c with stdin := c.stdin.map fun stdin => { stdin with isOpen := false } }

/-- The loop of `send_messages` that writes the outbound messages, from the write `i` on. -/
def writeOutbound (d : ClientDeps) (gone : Nat → Bool) : Nat → List Pb.OutboundMessage → ClientCall Unit
  | _, [] => return ()
  | i, outboundMsg :: outboundMsgs => do
      when (gone i) (modify dropWriter)
      logged (writeMessage (createClientMessage d outboundMsg).encode)
      writeOutbound d gone (i + 1) outboundMsgs

/-- `send_messages`, while the writer of the websocket goes away. -/
def sendMessagesWhile (d : ClientDeps) (rng : Draws) (gone : Nat → Bool) (dests : List String)
    (payload : Pb.Payloads.Payload) (encrypted : Bool) (maxHoldingSeconds : UInt32) :
    ClientCall Unit := do
  let dests ← ofExcept (processDests d dests)
  if dests = [] then return ()
  else
    let payloads ← createPayloads d rng dests payload encrypted
    let outboundMsgs ← outboundMessages d rng maxHoldingSeconds dests payloads
    writeOutbound d gone 0 outboundMsgs

/-- The messages that a call for `resolved` has to write. -/
def messagesFor (d : ClientDeps) (rng : Draws) (resolved : List String)
    (payload : Pb.Payloads.Payload) (encrypted : Bool) (maxHoldingSeconds : UInt32) :
    ClientCall (List Pb.OutboundMessage) := do
  let payloads ← createPayloads d rng resolved payload encrypted
  outboundMessages d rng maxHoldingSeconds resolved payloads

/-- The messages were put on the queue of the websocket. -/
def Queued (d : ClientDeps) (c c' : Client) (outboundMsgs : List Pb.OutboundMessage) : Prop :=
  ∃ stdin stdin', c.stdin = some stdin ∧ c'.stdin = some stdin' ∧
    stdin'.queue = stdin.queue ++ frames d outboundMsgs

/-- The call returns an error, or it returns and has queued all of its messages. -/
def SendsTruthfully (d : ClientDeps) (rng : Draws) (gone : Nat → Bool) (dests resolved : List String)
    (payload : Pb.Payloads.Payload) (encrypted : Bool) (maxHoldingSeconds : UInt32) (c : Client) :
    Prop :=
  (∃ e c', sendMessagesWhile d rng gone dests payload encrypted maxHoldingSeconds c = (.err e, c')) ∨
    ∃ c' outboundMsgs,
      sendMessagesWhile d rng gone dests payload encrypted maxHoldingSeconds c = (.ok (), c') ∧
      (messagesFor d rng resolved payload encrypted maxHoldingSeconds c).1 = .ok outboundMsgs ∧
      Queued d c c' outboundMsgs

/-- The websocket is there, and so is its writer for the first `n` writes. -/
def WriterStays (gone : Nat → Bool) (n : Nat) (c : Client) : Prop :=
  ∃ stdin, c.stdin = some stdin ∧ stdin.isOpen = true ∧ ∀ i < n, gone i = false

variable {d : ClientDeps} {rng : Draws} {gone : Nat → Bool} {c c' : Client}

/-! ## The writes -/

theorem writeOutbound_never (i : Nat) (outboundMsgs : List Pb.OutboundMessage) :
    writeOutbound d (fun _ => false) i outboundMsgs =
      outboundMsgs.forM fun m => logged (writeMessage (createClientMessage d m).encode) := by
  induction outboundMsgs generalizing i with
  | nil => rfl
  | cons m outboundMsgs ih =>
      rw [writeOutbound, when_neg (by simp), Exec.pure_bind, ih]
      rfl

/-- Where the writer stays as it is, this is `send_messages`. -/
theorem sendMessagesWhile_never (d : ClientDeps) (rng : Draws) (dests : List String)
    (payload : Pb.Payloads.Payload) (encrypted : Bool) (maxHoldingSeconds : UInt32) :
    sendMessagesWhile d rng (fun _ => false) dests payload encrypted maxHoldingSeconds =
      sendMessages d rng dests payload encrypted maxHoldingSeconds := by
  cases hdests : processDests d dests with
  | error e =>
      rw [sendMessagesWhile, sendMessages, hdests]
      rfl
  | ok resolved =>
      by_cases hne : resolved = []
      · rw [sendMessagesWhile, sendMessages, hdests, ofExcept_ok, Exec.pure_bind, Exec.pure_bind,
          if_pos hne, if_pos hne]
      · rw [sendMessages_eq hdests hne, sendMessagesWhile, hdests, ofExcept_ok, Exec.pure_bind,
          if_neg hne]
        simp only [writeOutbound_never]

/-- The client with another websocket. -/
def putStdin (c : Client) (stdin : Stdin) : Client := { c with stdin := some stdin }

theorem putStdin_self {stdin : Stdin} (h : c.stdin = some stdin) : putStdin c stdin = c := by
  rw [putStdin, ← h]

theorem logged_writeMessage {stdin : Stdin} (hstdin : c.stdin = some stdin) (data : Bytes) :
    (logged (writeMessage data) : ClientCall Unit) c =
      (.ok (), putStdin c { stdin with
        queue := stdin.queue ++ if stdin.isOpen then [.binary data] else [] }) := by
  rw [logged, writeMessage, get_bind_apply, hstdin, unwrap_some, Exec.pure_bind]
  by_cases hopen : stdin.isOpen = true
  · rw [if_pos hopen, if_pos hopen]
    rfl
  · rw [if_neg hopen, if_neg hopen, List.append_nil]
    exact congrArg _ (putStdin_self hstdin).symm

/-- The websocket by the write `i`. -/
def stdinAt (gone : Nat → Bool) (i : Nat) (stdin : Stdin) : Stdin :=
  { stdin with isOpen := stdin.isOpen && !gone i }

theorem dropWriter_apply {stdin : Stdin} (hstdin : c.stdin = some stdin) (i : Nat) :
    (when (gone i) (modify dropWriter) : ClientCall Unit) c =
      (.ok (), putStdin c (stdinAt gone i stdin)) := by
  rw [when_modify_apply, stdinAt]
  cases hgone : gone i with
  | true =>
      rw [if_pos rfl, dropWriter, hstdin, Bool.not_true, Bool.and_false]
      rfl
  | false =>
      rw [if_neg Bool.false_ne_true, Bool.not_false, Bool.and_true]
      exact congrArg _ (putStdin_self hstdin).symm

/-- The websocket after the write `i`. -/
def stdinAfter (d : ClientDeps) (gone : Nat → Bool) (i : Nat) (m : Pb.OutboundMessage)
    (stdin : Stdin) : Stdin where
  isOpen := stdin.isOpen && !gone i
  queue := stdin.queue ++
    if stdin.isOpen && !gone i then [.binary (createClientMessage d m).encode] else []

/-- One round of the loop. -/
theorem writeOutbound_cons {stdin : Stdin} (hstdin : c.stdin = some stdin) (i : Nat)
    (m : Pb.OutboundMessage) (outboundMsgs : List Pb.OutboundMessage) :
    writeOutbound d gone i (m :: outboundMsgs) c =
      writeOutbound d gone (i + 1) outboundMsgs (putStdin c (stdinAfter d gone i m stdin)) := by
  have hwrite := logged_writeMessage (c := putStdin c (stdinAt gone i stdin)) rfl
    (createClientMessage d m).encode
  rw [writeOutbound, bind_ok (dropWriter_apply hstdin i), bind_ok hwrite]
  rfl

/-- Without a websocket the first write panics. -/
theorem writeOutbound_none (hstdin : c.stdin = none) (i : Nat) {outboundMsgs : List Pb.OutboundMessage}
    (hne : outboundMsgs ≠ []) : writeOutbound d gone i outboundMsgs c = (.panic, c) := by
  cases outboundMsgs with
  | nil => exact absurd rfl hne
  | cons m outboundMsgs =>
      have hdrop : (when (gone i) (modify dropWriter) : ClientCall Unit) c = (.ok (), c) := by
        rw [when_modify_apply, dropWriter, hstdin, Option.map_none, ← hstdin, ite_self]
      have hwrite : (logged (writeMessage (createClientMessage d m).encode) : ClientCall Unit) c =
          (.panic, c) := by
        rw [logged, writeMessage, get_bind_apply, hstdin]
        rfl
      rw [writeOutbound, bind_ok hdrop, bind_panic hwrite]

/-- The writes return, and have put as many messages on the queue as the writer was there for. -/
theorem writeOutbound_some (d : ClientDeps) (gone : Nat → Bool) {stdin : Stdin}
    (hstdin : c.stdin = some stdin) (i : Nat) (outboundMsgs : List Pb.OutboundMessage) :
    ∃ stdin' written, writeOutbound d gone i outboundMsgs c = (.ok (), putStdin c stdin') ∧
      stdin'.queue = stdin.queue ++ written ∧ written.length ≤ outboundMsgs.length ∧
      (written.length = outboundMsgs.length → outboundMsgs ≠ [] →
        stdin.isOpen = true ∧ ∀ j < outboundMsgs.length, gone (i + j) = false) := by
  induction outboundMsgs generalizing c stdin i with
  | nil =>
      exact ⟨stdin, [], by rw [putStdin_self hstdin]; rfl, (List.append_nil _).symm, Nat.le_refl _,
        fun _ h => absurd rfl h⟩
  | cons m outboundMsgs ih =>
      rw [writeOutbound_cons hstdin]
      let first : List WsMessage :=
        if stdin.isOpen && !gone i then [.binary (createClientMessage d m).encode] else []
      have hfirst : first.length ≤ 1 ∧ (first.length = 1 → stdin.isOpen = true ∧ gone i = false) := by
        by_cases hboth : (stdin.isOpen && !gone i) = true
        · rw [show first = [.binary (createClientMessage d m).encode] from if_pos hboth]
          exact ⟨Nat.le_refl 1, fun _ => by simpa using hboth⟩
        · rw [show first = [] from if_neg hboth]
          exact ⟨Nat.zero_le 1, fun h => absurd h Nat.zero_ne_one⟩
      have hqueue₁ : (stdinAfter d gone i m stdin).queue = stdin.queue ++ first := rfl
      obtain ⟨stdin', written, hrun, hqueue, hle, hall⟩ :=
        ih (c := putStdin c (stdinAfter d gone i m stdin)) rfl (i + 1)
      refine ⟨stdin', first ++ written, hrun, ?_, ?_, ?_⟩
      · rw [hqueue, hqueue₁, List.append_assoc]
      · rw [List.length_append, List.length_cons]
        omega
      · rw [List.length_append, List.length_cons]
        intro hlen _
        obtain ⟨hopen, hgone⟩ := hfirst.2 (by omega)
        refine ⟨hopen, ?_⟩
        intro j hj
        cases j with
        | zero => exact hgone
        | succ j =>
            have hne : outboundMsgs ≠ [] := by
              rintro rfl
              exact absurd hj (by simp)
            have := (hall (by omega) hne).2 j (by omega)
            rwa [Nat.add_assoc, Nat.add_comm 1 j] at this

/-- Where the writer stays, the writes put the messages on the queue, in their order. -/
theorem writeOutbound_open {stdin : Stdin} (hstdin : c.stdin = some stdin)
    (hopen : stdin.isOpen = true) (i : Nat) (outboundMsgs : List Pb.OutboundMessage)
    (hgone : ∀ j < outboundMsgs.length, gone (i + j) = false) :
    writeOutbound d gone i outboundMsgs c =
      (.ok (), putStdin c { stdin with queue := stdin.queue ++ frames d outboundMsgs }) := by
  induction outboundMsgs generalizing c stdin i with
  | nil =>
      rw [frames, List.map_nil, List.append_nil, putStdin_self hstdin]
      rfl
  | cons m outboundMsgs ih =>
      have hfirst : gone i = false := hgone 0 (Nat.succ_pos _)
      let stdin₁ : Stdin :=
        { stdin with queue := stdin.queue ++ [.binary (createClientMessage d m).encode] }
      have hafter : stdinAfter d gone i m stdin = stdin₁ := by
        rw [stdinAfter, hfirst, Bool.not_false, Bool.and_true, if_pos hopen]
      have hrest : ∀ j < outboundMsgs.length, gone (i + 1 + j) = false := by
        intro j hj
        have := hgone (j + 1) (Nat.succ_lt_succ hj)
        rwa [Nat.add_comm j 1, ← Nat.add_assoc] at this
      rw [writeOutbound_cons hstdin, hafter]
      have hstdin₁ : (putStdin c stdin₁).stdin = some stdin₁ := rfl
      refine (ih hstdin₁ hopen (i + 1) hrest).trans ?_
      rw [List.append_assoc]
      rfl

/-! ## The messages -/

/-- A destination whose key is neither in the cache nor one of the curve panics. -/
theorem encryptFor_panic (rng : Draws) (encryptedPayload : Bytes) {dests : List (String × Nat)}
    {known : String → Prop} (hknown : ∀ text, Known c text ↔ known text)
    (hkeys : ¬ KeysFound d known (dests.map Prod.fst)) :
    (encryptFor d rng encryptedPayload dests c).1 = .panic := by
  induction dests generalizing c known with
  | nil => exact absurd trivial hkeys
  | cons dest dests ih =>
      obtain ⟨dest, i⟩ := dest
      rw [List.map_cons, KeysFound] at hkeys
      push Not at hkeys
      obtain ⟨publicKey, ⟨destId, identifier, hparse⟩, hbad⟩ := hkeys
      rw [encryptFor, hparse, ofExcept_ok, Exec.pure_bind]
      dsimp only
      by_cases hfound : Known c (Utils.keyText publicKey) ∨ (d.toCurve25519Pk publicKey).isSome
      · obtain ⟨key, sharedKeys, hkey, hknown'⟩ := sharedKeyWith_ok hfound
        rw [bind_ok hkey, bind_ok (encrypt_eq _ _ _ _)]
        have hrest := ih (c := { c with sharedKeys })
          (fun text => (hknown' text).trans (or_congr_right (hknown text)))
          (hbad (hfound.imp_left (hknown _).mp))
        rw [bind_panic (Prod.ext hrest rfl)]
      · rw [bind_panic (sharedKeyWith_panic hfound)]

theorem createPayloads_panic (rng : Draws) (payload : Pb.Payloads.Payload) {dests : List String}
    (hne : dests ≠ []) (hkeys : ¬ KeysFound d (Known c) dests) :
    (createPayloads d rng dests payload true c).1 = .panic := by
  rw [createPayloads, if_pos rfl, encryptPayload]
  dsimp only
  by_cases hseveral : 1 < dests.length
  · rw [if_pos hseveral, bind_ok (encrypt_eq _ _ _ _)]
    refine encryptFor_panic rng _ (fun _ => Iff.rfl) ?_
    rwa [List.zipIdx_map_fst]
  · obtain ⟨dest, rfl⟩ : ∃ dest, dests = [dest] := by
      have hpos := List.length_pos_iff.mpr hne
      exact List.length_eq_one_iff.mp (by omega)
    rw [KeysFound] at hkeys
    push Not at hkeys
    obtain ⟨publicKey, ⟨destId, identifier, hparse⟩, hbad⟩ := hkeys
    have hfound : ¬ (Known c (Utils.keyText publicKey) ∨ (d.toCurve25519Pk publicKey).isSome) :=
      fun hfound => hbad hfound trivial
    rw [if_neg hseveral, List.head?_cons, unwrap_some, Exec.pure_bind, hparse, ofExcept_ok,
      Exec.pure_bind]
    dsimp only
    rw [bind_panic (sharedKeyWith_panic hfound)]

/-- There is a message for every call that is not refused. -/
theorem outboundMessages_ne_nil {maxHoldingSeconds : UInt32} {dests : List String}
    {payloads : List Bytes} {outboundMsgs : List Pb.OutboundMessage}
    (h : outboundMessages d rng maxHoldingSeconds dests payloads c = (.ok outboundMsgs, c')) :
    outboundMsgs ≠ [] := by
  obtain ⟨⟨full, destList, payloadList⟩, c₁, -, hrest⟩ := bind_eq_ok h
  obtain ⟨last, c₂, -, hreturn⟩ := bind_eq_ok hrest
  cases hreturn
  exact List.concat_ne_nil last full

theorem RefusedFirst.refused {dests : List String} {payload : Pb.Payloads.Payload}
    {encrypted : Bool} (h : RefusedFirst d rng dests payload encrypted c) :
    Refused d rng dests payload encrypted c := by
  rcases h with ⟨-, hbad⟩ | ⟨payloads, hok, hover⟩
  · exact Or.inl hbad
  · exact Or.inr ⟨payloads, hok, hover.oversize⟩

/-! ## When the report is true -/

/-- Where there are messages to write, the report is true exactly when the writer stays. -/
theorem writes_truthfully_iff {outboundMsgs : List Pb.OutboundMessage} (hne : outboundMsgs ≠ []) :
    (∃ c', writeOutbound d gone 0 outboundMsgs c = (.ok (), c') ∧ Queued d c c' outboundMsgs) ↔
      WriterStays gone outboundMsgs.length c := by
  constructor
  · rintro ⟨c', hrun, stdin, stdin', hstdin, hstdin', hqueue⟩
    obtain ⟨stdin₁, written, hrun₁, hqueue₁, -, hall⟩ := writeOutbound_some d gone hstdin 0
      outboundMsgs
    rw [hrun₁] at hrun
    cases hrun
    cases hstdin'
    rw [hqueue₁, List.append_cancel_left_eq] at hqueue
    obtain ⟨hopen, hgone⟩ := hall (by rw [hqueue, frames, List.length_map]) hne
    exact ⟨stdin, hstdin, hopen, fun i hi => by simpa using hgone i hi⟩
  · rintro ⟨stdin, hstdin, hopen, hgone⟩
    have hrun := writeOutbound_open (d := d) hstdin hopen 0 outboundMsgs
      fun j hj => by simpa using hgone j hj
    exact ⟨_, hrun, stdin, _, hstdin, rfl, rfl⟩

theorem writeOutbound_ne_err {outboundMsgs : List Pb.OutboundMessage} (hne : outboundMsgs ≠ [])
    (e : String) : writeOutbound d gone 0 outboundMsgs c ≠ (.err e, c') := by
  intro h
  cases hstdin : c.stdin with
  | none =>
      rw [writeOutbound_none hstdin 0 hne] at h
      cases h
  | some stdin =>
      obtain ⟨stdin', written, hrun, -⟩ := writeOutbound_some d gone hstdin 0
        outboundMsgs
      rw [hrun] at h
      cases h

theorem not_sendsTruthfully_of_panic {dests resolved : List String} {payload : Pb.Payloads.Payload}
    {encrypted : Bool} {maxHoldingSeconds : UInt32}
    (hpanic : (sendMessagesWhile d rng gone dests payload encrypted maxHoldingSeconds c).1 = .panic) :
    ¬ SendsTruthfully d rng gone dests resolved payload encrypted maxHoldingSeconds c := by
  rintro (⟨e, c', h⟩ | ⟨c', msgs, h, -⟩)
  · rw [h] at hpanic
    cases hpanic
  · rw [h] at hpanic
    cases hpanic

section Call

variable {dests resolved : List String} {payload : Pb.Payloads.Payload} {encrypted : Bool}
  {maxHoldingSeconds : UInt32} {payloads : List Bytes} {sharedKeys : Utils.SharedKeys}

theorem sendMessagesWhile_eq (hdests : processDests d dests = .ok resolved) (hne : resolved ≠ []) :
    sendMessagesWhile d rng gone dests payload encrypted maxHoldingSeconds =
      createPayloads d rng resolved payload encrypted >>= fun payloads =>
        outboundMessages d rng maxHoldingSeconds resolved payloads >>= writeOutbound d gone 0 := by
  rw [sendMessagesWhile, hdests, ofExcept_ok, Exec.pure_bind, if_neg hne]

/-- A call whose messages were made reports truthfully exactly where the writer stays. -/
theorem sendsTruthfully_made_iff {msgs : List Pb.OutboundMessage} (hne : msgs ≠ [])
    (hmade : (messagesFor d rng resolved payload encrypted maxHoldingSeconds c).1 = .ok msgs)
    (hrun : sendMessagesWhile d rng gone dests payload encrypted maxHoldingSeconds c =
      writeOutbound d gone 0 msgs { c with sharedKeys }) :
    SendsTruthfully d rng gone dests resolved payload encrypted maxHoldingSeconds c ↔
      WriterStays gone msgs.length c := by
  have hwrites : (∃ c', writeOutbound d gone 0 msgs { c with sharedKeys } = (.ok (), c') ∧
      Queued d c c' msgs) ↔ WriterStays gone msgs.length c :=
    writes_truthfully_iff (c := { c with sharedKeys }) hne
  rw [← hwrites]
  constructor
  · rintro (⟨e, c', herr⟩ | ⟨c', msgs', hreturns, hmade', hqueued⟩)
    · exact absurd (hrun.symm.trans herr) (writeOutbound_ne_err hne e)
    · cases hmade.symm.trans hmade'
      exact ⟨c', hrun.symm.trans hreturns, hqueued⟩
  · rintro ⟨c', hwrite, hqueued⟩
    exact Or.inr ⟨c', msgs, hrun.trans hwrite, hmade, hqueued⟩

/-- With a readable node the call is refused, or its messages are made. -/
theorem sendsTruthfully_ready_iff (hdests : processDests d dests = .ok resolved)
    (hne : resolved ≠ []) (hready : NodeReady c)
    (hok : createPayloads d rng resolved payload encrypted c =
      (.ok payloads, { c with sharedKeys }))
    (hmatch : Matches resolved payloads) :
    SendsTruthfully d rng gone dests resolved payload encrypted maxHoldingSeconds c ↔
      Refused d rng resolved payload encrypted c ∨
        WriterStays gone (batchCount resolved payloads) c := by
  have hfst : (createPayloads d rng resolved payload encrypted c).1 = .ok payloads := by rw [hok]
  have hcall : sendMessagesWhile d rng gone dests payload encrypted maxHoldingSeconds c =
      (outboundMessages d rng maxHoldingSeconds resolved payloads >>= writeOutbound d gone 0)
        { c with sharedKeys } := by
    rw [sendMessagesWhile_eq hdests hne, bind_ok hok]
  rcases outboundMessages_readable (d := d) (c := { c with sharedKeys }) hready.node
    ⟨hready.readable.pubkey, hready.readable.blockHash⟩ rng maxHoldingSeconds hne hmatch with
    ⟨e, herr, hreason⟩ | ⟨msgs, hmsgs, hsize, hcount, hbatched⟩
  · refine iff_of_true (Or.inl ⟨e, _, hcall.trans (bind_err herr)⟩) (Or.inl ?_)
    exact hreason.elim (fun hover => Or.inr ⟨payloads, hfst, hover⟩) Or.inl
  · have hnot : ¬ Refused d rng resolved payload encrypted c := by
      rintro (⟨dest, hdest, hbad⟩ | ⟨payloads', hpayloads', hover⟩)
      · exact hbad (hbatched.parses hmatch dest hdest)
      · cases hfst.symm.trans hpayloads'
        exact hsize hover
    have hmade : (messagesFor d rng resolved payload encrypted maxHoldingSeconds c).1 =
        .ok msgs := by
      rw [messagesFor, bind_ok hok, hmsgs]
    rw [or_iff_right hnot, ← hcount]
    exact sendsTruthfully_made_iff (outboundMessages_ne_nil hmsgs) hmade
      (hcall.trans (bind_ok hmsgs))

/-- Without a readable node the call reports truthfully only where it is refused before its first
message is made. -/
theorem sendsTruthfully_unready_iff (hdests : processDests d dests = .ok resolved)
    (hne : resolved ≠ []) (hready : ¬ NodeReady c)
    (hok : createPayloads d rng resolved payload encrypted c =
      (.ok payloads, { c with sharedKeys }))
    (hmatch : Matches resolved payloads)
    (hparses : encrypted = true → ∀ dest ∈ resolved, Parses d dest) :
    SendsTruthfully d rng gone dests resolved payload encrypted maxHoldingSeconds c ↔
      RefusedFirst d rng resolved payload encrypted c := by
  have hfst : (createPayloads d rng resolved payload encrypted c).1 = .ok payloads := by rw [hok]
  have hcall : sendMessagesWhile d rng gone dests payload encrypted maxHoldingSeconds c =
      (outboundMessages d rng maxHoldingSeconds resolved payloads >>= writeOutbound d gone 0)
        { c with sharedKeys } := by
    rw [sendMessagesWhile_eq hdests hne, bind_ok hok]
  have hready' : ¬ NodeReady { c with sharedKeys } := fun h =>
    hready ⟨h.node, h.readable.pubkey, h.readable.blockHash⟩
  have hpayloads : payloads ≠ [] := by
    rw [← List.length_pos_iff]
    have hpos := List.length_pos_iff.mpr hne
    rcases hmatch with hone | hlen
    · omega
    · omega
  rcases outboundMessages_unreadable (d := d) hready' rng maxHoldingSeconds resolved hpayloads with
    ⟨hfirst, e, herr⟩ | ⟨hfree, hpanic⟩
  · exact iff_of_true (Or.inl ⟨e, _, hcall.trans (bind_err herr)⟩)
      (Or.inr ⟨payloads, hfst, hfirst⟩)
  · refine iff_of_false (not_sendsTruthfully_of_panic ?_) ?_
    · rw [hcall, bind_panic hpanic]
    · rintro (⟨hencrypted, dest, hdest, hbad⟩ | ⟨payloads', hpayloads', hfirst⟩)
      · exact hbad (hparses hencrypted dest hdest)
      · cases hfst.symm.trans hpayloads'
        exact hfree hfirst

end Call

/-- `send_messages` reports truthfully, for every state of the client and wherever the writer of
the websocket goes away, exactly where no key panics and either the call is refused before its
first outbound message is made, or there is a readable node and the call is refused later or the
writer stays until the last message. -/
theorem sends_truthfully_iff (d : ClientDeps) (rng : Draws) (gone : Nat → Bool)
    (dests resolved : List String) (payload : Pb.Payloads.Payload) (encrypted : Bool)
    (maxHoldingSeconds : UInt32) (c : Client) (hdests : processDests d dests = .ok resolved)
    (hne : resolved ≠ []) :
    SendsTruthfully d rng gone dests resolved payload encrypted maxHoldingSeconds c ↔
      (encrypted = true → KeysFound d (Known c) resolved) ∧
        (RefusedFirst d rng resolved payload encrypted c ∨
          NodeReady c ∧ (Refused d rng resolved payload encrypted c ∨
            ∃ payloads, (createPayloads d rng resolved payload encrypted c).1 = .ok payloads ∧
              WriterStays gone (batchCount resolved payloads) c)) := by
  by_cases hkeys : encrypted = true → KeysFound d (Known c) resolved
  · rw [and_iff_right hkeys]
    rcases createPayloads_cases (c := c) rng payload encrypted hne hkeys with
      ⟨e, sharedKeys, herr, hencrypted, hbad⟩ | ⟨payloads, sharedKeys, hok, hmatch, hparses⟩
    · refine iff_of_true (Or.inl ⟨e, { c with sharedKeys }, ?_⟩)
        (Or.inl (Or.inl ⟨hencrypted, hbad⟩))
      rw [sendMessagesWhile_eq hdests hne, bind_err herr]
    · by_cases hready : NodeReady c
      · rw [sendsTruthfully_ready_iff hdests hne hready hok hmatch]
        constructor
        · rintro (hrefused | hstays)
          · exact Or.inr ⟨hready, Or.inl hrefused⟩
          · exact Or.inr ⟨hready, Or.inr ⟨payloads, by rw [hok], hstays⟩⟩
        · rintro (hfirst | ⟨-, hrefused | ⟨payloads', hpayloads', hstays⟩⟩)
          · exact Or.inl hfirst.refused
          · exact Or.inl hrefused
          · rw [hok] at hpayloads'
            cases hpayloads'
            exact Or.inr hstays
      · rw [sendsTruthfully_unready_iff hdests hne hready hok hmatch hparses]
        exact (or_iff_left fun h => hready h.1).symm
  · refine iff_of_false (not_sendsTruthfully_of_panic ?_) fun h => hkeys h.1
    push Not at hkeys
    obtain ⟨rfl, hbad⟩ := hkeys
    have hpanic := createPayloads_panic rng payload hne hbad
    rw [sendMessagesWhile_eq hdests hne, bind_panic (Prod.ext hpanic rfl)]

/-! ## A writer that goes away -/

namespace Exchange

/-- The writer of the sample client is gone before the first write, and the call returns `Ok`. -/
theorem dropped_message_reported :
    processDests sampleBoxDeps [sampleAddress] = .ok [sampleAddress] ∧
      ¬ SendsTruthfully sampleBoxDeps sampleDraws (fun _ => true) [sampleAddress] [sampleAddress]
        samplePayload false 0 sampleClient := by
  refine ⟨sample_processDests, ?_⟩
  have hreturns : (sendMessagesWhile sampleBoxDeps sampleDraws (fun _ => true) [sampleAddress]
      samplePayload false 0 sampleClient).1 = .ok () := by decide +kernel
  have hstdin : (sendMessagesWhile sampleBoxDeps sampleDraws (fun _ => true) [sampleAddress]
      samplePayload false 0 sampleClient).2.stdin = some { isOpen := false, queue := [] } := by
    decide +kernel
  rintro (⟨e, c', herr⟩ | ⟨c', msgs, hok, hmade, stdin, stdin', hbefore, hafter, hqueue⟩)
  · rw [herr] at hreturns
    cases hreturns
  · rw [hok, hafter] at hstdin
    cases hstdin
    have hempty : frames sampleBoxDeps msgs = [] := (List.append_eq_nil_iff.mp hqueue.symm).2
    obtain ⟨payloads, c₁, -, hmsgs⟩ := bind_eq_ok (Prod.ext hmade rfl)
    exact outboundMessages_ne_nil hmsgs (List.map_eq_nil_iff.mp hempty)

/-- A message of the sample client to itself, with a writer that stays. -/
theorem sample_sends_truthfully :
    SendsTruthfully sampleBoxDeps sampleDraws (fun _ => false) [sampleAddress] [sampleAddress]
      samplePayload false 0 sampleClient := by
  refine (sends_truthfully_iff sampleBoxDeps sampleDraws (fun _ => false) [sampleAddress]
    [sampleAddress] samplePayload false 0 sampleClient sample_processDests
    (List.cons_ne_nil _ _)).mpr ⟨nofun, Or.inr ⟨⟨rfl, sample_nodeReadable⟩, Or.inr ?_⟩⟩
  exact ⟨_, rfl, sampleStdin, rfl, rfl, fun _ _ => rfl⟩

/-- A client that was never connected panics. -/
example : (sendMessagesWhile sampleBoxDeps sampleDraws (fun _ => false) [sampleAddress]
    samplePayload false 0 { sampleClient with node := none }).1 = .panic := by
  decide +kernel

end Exchange

end NknSdk
