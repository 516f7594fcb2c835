import NknSdk.Session.Runs

/-!
# Acknowledgements

Two results about acks, over every reachable session.

A receiver should acknowledge only data that it holds.  `receive_with` puts the
number of a data packet on the ack queue whether or not it has stored the data,
and it never stores any.  So what it acknowledges is covered exactly when the
number is behind the start of the receive window, which stays at the first
number (`acked_held_iff`).

A sender should understand the ranges that `send_ack` writes.  When every count
is one, `send_ack` leaves the counts out, and then the ack loop takes its number
of rounds from the list that is empty.  So the loop runs through the ranges
exactly when some count is not one and the packet is short enough to be taken
at all (`ack_rounds_iff`).
-/

namespace NknSdk.Ncp

open Exec

/-! ## Histories -/

/-- A session with the numbers and data of the packets it has queued for an ack. -/
structure History where
  session : Session
  /-- Oldest first. -/
  accepted : List (UInt32 × Bytes)

/-- Between `s` and `s'`, `seq` was pushed onto the ack queue of a connection. -/
def Pushes (s s' : Session) (seq : UInt32) : Prop :=
  ∃ key ∈ s.connections.keys,
    (s.connections.lookup key).map (fun conn => (conn.sendAck seq).sendAckQueue) =
      (s'.connections.lookup key).map Connection.sendAckQueue

instance (s s' : Session) (seq : UInt32) : Decidable (Pushes s s' seq) :=
  inferInstanceAs (Decidable (∃ key ∈ s.connections.keys, _))

namespace History

/-- A fresh session. -/
def new (config : NcpConfig) (localClientIds remoteClientIds : List String) : History :=
  { session := Session.new config localClientIds remoteClientIds, accepted := [] }

/-- What an event adds to the accepted packets. -/
def newlyAccepted (d : Deps) (s : Session) (e : Event) : List (UInt32 × Bytes) :=
  match e with
  | .receive _ _ _ buf =>
      match d.decodePacket buf with
      | some p =>
          if 0 < p.sequenceId ∧ Pushes s (s.after d e) p.sequenceId then [(p.sequenceId, p.data)]
          else []
      | none => []
  | _ => []

def after (d : Deps) (h : History) (e : Event) : History where
  session := h.session.after d e
  accepted := h.accepted ++ newlyAccepted d h.session e

def step (d : Deps) (h : History) (e : Event) : Option History := some (h.after d e)

/-- The data of the first accepted packet with the number `seq`. -/
def firstData (h : History) (seq : UInt32) : Option Bytes := h.accepted.lookup seq

/-- The session holds the first data that came with `seq`, or has moved past it. -/
def Holds (h : History) (seq : UInt32) : Prop :=
  (∃ data, h.session.recvWindowData.lookup seq = some data ∧ h.firstData seq = some data) ∨
    compareSeq seq h.session.recvWindowStartSeq < 0

end History

/-- Every state of every run keeps the invariant. -/
theorem inv_of_run {d : Deps} {config : NcpConfig} {localClientIds remoteClientIds : List String}
    {events : List Event} {h : History}
    (hrun : Run.runFrom (History.step d) (History.new config localClientIds remoteClientIds)
      events = some h) : Inv h.session := by
  refine Run.invariant_of_step (I := fun h => Inv h.session) ?_
    (Inv.new config localClientIds remoteClientIds) hrun
  intro h e h' inv hstep
  cases hstep
  exact inv.after d e

/-! ## What is acknowledged is held -/

/-- The receive window holds nothing, so a number is covered only if it is behind. -/
theorem holds_iff {h : History} (inv : Inv h.session) {seq : UInt32} (hseq : 0 < seq) :
    h.Holds seq ↔ 2 ^ 31 ≤ seq.toNat := by
  rw [History.Holds, inv.recvWindowStartSeq, compareSeq_min_neg hseq]
  constructor
  · rintro (⟨data, hdata, -⟩ | hbehind)
    · rw [inv.recvWindowData, AList.lookup_empty] at hdata
      cases hdata
    · exact hbehind
  · exact Or.inr

/-- In every state of every run and for every buffer, a number that the call puts
on an ack queue is held exactly when it is in the upper half of the numbers. -/
theorem acked_held_iff (d : Deps) (config : NcpConfig)
    (localClientIds remoteClientIds : List String) (events : List Event) (h h' : History)
    (hrun : Run.runFrom (History.step d) (History.new config localClientIds remoteClientIds)
      events = some h)
    (now : Nat) (localClientId remoteClientId : String) (buf : Bytes)
    (hcall : h.step d (.receive now localClientId remoteClientId buf) = some h')
    (seq : UInt32) (hseq : 0 < seq) :
    (Pushes h.session h'.session seq → h'.Holds seq) ↔
      (Pushes h.session h'.session seq → 2 ^ 31 ≤ seq.toNat) := by
  cases hcall
  have inv : Inv (h.after d (.receive now localClientId remoteClientId buf)).session :=
    (inv_of_run hrun).after d (.receive now localClientId remoteClientId buf)
  rw [holds_iff inv hseq]

theorem held_sample :
    ∃ h h', Run.runFrom (History.step sampleDeps) (History.new {} ["a"] []) sampleSession =
        some h ∧
      h.step sampleDeps (.receive 0 "a" "b" (sampleData 3000000000).encode) = some h' ∧
      Pushes h.session h'.session 3000000000 ∧ h'.Holds 3000000000 := by
  have hpush : Pushes ((History.new {} ["a"] []).after sampleDeps
        (.receive 0 "a" "b" sampleHandshake.encode)).session
      (((History.new {} ["a"] []).after sampleDeps
        (.receive 0 "a" "b" sampleHandshake.encode)).after sampleDeps
          (.receive 0 "a" "b" (sampleData 3000000000).encode)).session 3000000000 := by
    decide +kernel
  refine ⟨_, _, rfl, rfl, hpush, ?_⟩
  refine (acked_held_iff sampleDeps {} ["a"] [] sampleSession _ _ rfl 0 "a" "b" _ rfl
    3000000000 (by decide)).mpr ?_ hpush
  intro _
  decide

/-- The first data packet is acknowledged and its data is nowhere. -/
theorem acked_not_held :
    ∃ h h', Run.runFrom (History.step sampleDeps) (History.new {} ["a"] []) sampleSession =
        some h ∧
      h.session.isEstablished = true ∧
      h.step sampleDeps (.receive 0 "a" "b" (sampleData 1).encode) = some h' ∧
      Pushes h.session h'.session 1 ∧ ¬ h'.Holds 1 := by
  refine ⟨_, _, rfl, by decide +kernel, rfl, by decide +kernel, ?_⟩
  have inv : Inv (((History.new {} ["a"] []).after sampleDeps
      (.receive 0 "a" "b" sampleHandshake.encode)).after sampleDeps
        (.receive 0 "a" "b" (sampleData 1).encode)).session :=
    ((Inv.new {} ["a"] []).after sampleDeps _).after sampleDeps
      (.receive 0 "a" "b" (sampleData 1).encode)
  rw [holds_iff inv (by decide)]
  decide

/-! ## The rounds of the ack loop -/

/-- The bounds that a range stands for. -/
def bounds (range : UInt32 × UInt32) : UInt32 × UInt32 :=
  (range.1, nextSeq range.1 range.2.toNat)

/-- The packet that `send_ack` builds when it has collected `ranges`. -/
def packetOf (ranges : List (UInt32 × UInt32)) : Pb.Packet :=
  ackPacket (ranges.map Prod.fst) (ranges.map Prod.snd)

/-- After rounds over `rs` that left the send window at `start`. -/
def Session.acked (s : Session) (rs : List (UInt32 × UInt32)) (start : UInt32) : Session :=
  { s with ackRanges := s.ackRanges ++ rs.map bounds, sendWindowStartSeq := start }

section AckRounds

variable {d : Deps} {s : Session} {ranges : List (UInt32 × UInt32)}

/-- A packet with counts gives the loop one range in each round. -/
theorem ackRound_eq {p : Pb.Packet} {i : Nat} {range : UInt32 × UInt32}
    (hstarts : p.ackStartSeq = ranges.map Prod.fst) (hcounts : p.ackSeqCount = ranges.map Prod.snd)
    (hi : ranges[i]? = some range) (he : s.sendWindowEndSeq ≠ 0) :
    ∃ start, ackRound d p i s = (.ok (), s.acked [range] start) := by
  have hne : ranges ≠ [] := by
    rintro rfl
    cases hi
  have hstart : ackStart p i = pure range.1 := by
    rw [ackStart, hstarts, if_pos (by simpa using hne), List.getElem?_map, hi]
    rfl
  have hend : ackEnd p i range.1 = pure (bounds range).2 := by
    rw [ackEnd, hcounts, if_pos (by simpa using hne), List.getElem?_map, hi]
    rfl
  rw [ackRound, hstart, pure_bind, hend, pure_bind, modify_bind_apply]
  exact applyAck_eq d _ _ he

/-- The loop over some of the rounds. -/
theorem ackRounds_eq {p : Pb.Packet} (hstarts : p.ackStartSeq = ranges.map Prod.fst)
    (hcounts : p.ackSeqCount = ranges.map Prod.snd) (is : List Nat)
    (rs : List (UInt32 × UInt32)) (his : is.map (fun i => ranges[i]?) = rs.map some)
    (he : s.sendWindowEndSeq ≠ 0) :
    ∃ start, is.forM (ackRound d p) s = (.ok (), s.acked rs start) := by
  induction is generalizing rs s with
  | nil =>
      obtain rfl : rs = [] := by simpa using his.symm
      refine ⟨s.sendWindowStartSeq, ?_⟩
      simp [Session.acked]
  | cons i is ih =>
      cases rs with
      | nil => cases his
      | cons range rs =>
          rw [List.map_cons, List.map_cons, List.cons.injEq] at his
          obtain ⟨start, hround⟩ := ackRound_eq (d := d) hstarts hcounts his.1 he
          obtain ⟨start', hrest⟩ := ih (s := s.acked [range] start) rs his.2 he
          refine ⟨start', ?_⟩
          show (ackRound d p i >>= fun _ => is.forM (ackRound d p)) s = _
          rw [bind_ok hround, hrest]
          simp [Session.acked]

theorem range_map_getElem? (rs : List (UInt32 × UInt32)) :
    (List.range rs.length).map (fun i => rs[i]?) = rs.map some := by
  refine List.ext_getElem? fun i => ?_
  by_cases hi : i < rs.length
  · simp [hi]
  · simp [hi]

theorem packetOf_ackSeqCount (homit : ¬ omitCount (ranges.map Prod.snd) = true) :
    (packetOf ranges).ackSeqCount = ranges.map Prod.snd := if_neg homit

theorem packetOf_ackSeqCount_nil (homit : omitCount (ranges.map Prod.snd) = true) :
    (packetOf ranges).ackSeqCount = [] := if_pos homit

/-- The whole ack loop on a packet that `send_ack` has built: it runs through the
ranges if some count is not one, and else it does not run at all. -/
theorem ackLoop_rounds (hne : ranges ≠ []) (he : s.sendWindowEndSeq ≠ 0) :
    ∃ start, (List.range (ackCount (packetOf ranges))).forM (ackRound d (packetOf ranges)) s =
      (.ok (), s.acked (if omitCount (ranges.map Prod.snd) then [] else ranges) start) := by
  by_cases homit : omitCount (ranges.map Prod.snd) = true
  · have hcount : ackCount (packetOf ranges) = 0 := by
      rw [ackCount, packetOf_ackSeqCount_nil homit]
      rfl
    rw [hcount, if_pos homit]
    refine ⟨s.sendWindowStartSeq, ?_⟩
    simp [Session.acked]
  · have hcount : ackCount (packetOf ranges) = ranges.length := by
      rw [ackCount, packetOf_ackSeqCount homit, if_pos (by simpa using hne)]
      simp [packetOf, ackPacket]
    rw [hcount, if_neg homit]
    exact ackRounds_eq rfl (packetOf_ackSeqCount homit) _ _ (range_map_getElem? ranges) he

theorem updateConnWindowSize_eq (s : Session) :
    ∃ connections, updateConnWindowSize s = (.ok (), { s with connections }) := by
  rw [updateConnWindowSize, get_bind_apply]
  split
  · exact ⟨s.connections, rfl⟩
  · exact ⟨_, rfl⟩

/-- Acks of a packet that `send_ack` has built never end the call. -/
theorem receiveAcks_packetOf (hne : ranges ≠ []) (he : s.sendWindowEndSeq ≠ 0) :
    ∃ s', receiveAcks d true (packetOf ranges) s = (.ok true, s') ∧
      s'.ackRanges = s.ackRanges ++
        (if omitCount (ranges.map Prod.snd) then [] else ranges).map bounds := by
  have hlengths : ¬ ((packetOf ranges).ackStartSeq.length ≠ (packetOf ranges).ackSeqCount.length ∧
      (packetOf ranges).ackStartSeq ≠ [] ∧ (packetOf ranges).ackSeqCount ≠ []) := by
    rintro ⟨hlen, -, hcounts⟩
    by_cases homit : omitCount (ranges.map Prod.snd) = true
    · exact hcounts (packetOf_ackSeqCount_nil homit)
    · rw [packetOf_ackSeqCount homit] at hlen
      simp [packetOf, ackPacket] at hlen
  have hstarts : (packetOf ranges).ackStartSeq ≠ [] := by
    simpa [packetOf, ackPacket] using hne
  obtain ⟨start, hloop⟩ := ackLoop_rounds (d := d) hne he
  obtain ⟨connections, hupdate⟩ := updateConnWindowSize_eq
    (s.acked (if omitCount (ranges.map Prod.snd) then [] else ranges) start)
  refine ⟨{ s.acked (if omitCount (ranges.map Prod.snd) then [] else ranges) start with
    connections }, ?_, rfl⟩
  rw [receiveAcks, if_pos ⟨rfl, Or.inl hstarts⟩, ackLoop, if_neg hlengths, bind_ok hloop,
    bind_ok hupdate]
  rfl

/-- The rounds that `receive_with` makes on an ack packet. -/
theorem receiveWith_packetOf (localClientId remoteClientId : String) (hne : ranges ≠ [])
    (hest : s.isEstablished = true) (he : s.sendWindowEndSeq ≠ 0)
    (hdecode : d.decodePacket (packetOf ranges).encode = some (packetOf ranges)) :
    (receiveWith d localClientId remoteClientId (packetOf ranges).encode s).2.ackRanges =
      s.ackRanges ++ (if maxReceiveLen < (packetOf ranges).encode.length ∨
        omitCount (ranges.map Prod.snd) then [] else ranges).map bounds := by
  by_cases hlong : maxReceiveLen < (packetOf ranges).encode.length
  · rw [receiveWith, if_pos hlong, if_pos (Or.inl hlong)]
    simp
  · obtain ⟨s', hacks, hranges⟩ := receiveAcks_packetOf (d := d) hne he
    have hbytes : receiveBytesRead (packetOf ranges) s' = (.ok (), s') := by
      rw [receiveBytesRead, get_bind_apply, if_neg (by simp [packetOf, ackPacket])]
      rfl
    have hpacket : receivePacket d localClientId remoteClientId (packetOf ranges) s =
        (.ok (), s') := by
      rw [receivePacket, if_neg (by simp [packetOf, ackPacket]), get_bind_apply,
        when_neg (by simp [packetOf, ackPacket]), pure_bind, hest, bind_ok hacks, if_pos rfl,
        when_pos rfl, bind_ok hbytes, when_neg (by simp [packetOf, ackPacket])]
      rfl
    rw [receiveWith, if_neg hlong, hdecode, unwrap_some, pure_bind, hpacket]
    simp only [hlong, false_or]
    exact hranges

end AckRounds

theorem bounds_nil_iff {ranges : List (UInt32 × UInt32)} (hne : ranges ≠ []) (c : Prop)
    [Decidable c] : (if c then [] else ranges).map bounds = ranges.map bounds ↔ ¬ c := by
  split
  next hc =>
    constructor
    · intro h
      exact absurd (by simpa using h.symm) hne
    · exact fun h => absurd hc h
  next hc => exact ⟨fun _ => hc, fun _ => rfl⟩

/-- In every reachable session that is established, the ack loop runs through the
ranges that `send_ack` has collected, in order, exactly when some count is not one
and the packet is no longer than what `receive_with` takes. -/
theorem ack_rounds_iff (d : Deps) (config : NcpConfig)
    (localClientIds remoteClientIds : List String) (events : List Event) (h : History)
    (hrun : Run.runFrom (History.step d) (History.new config localClientIds remoteClientIds)
      events = some h)
    (hest : h.session.isEstablished = true) (localClientId remoteClientId : String)
    (ranges : List (UInt32 × UInt32)) (hne : ranges ≠ [])
    (hdecode : d.decodePacket (packetOf ranges).encode = some (packetOf ranges)) :
    (receiveWith d localClientId remoteClientId (packetOf ranges).encode h.session).2.ackRanges =
        h.session.ackRanges ++ ranges.map bounds ↔
      (∃ r ∈ ranges, r.2 ≠ 1) ∧ (packetOf ranges).encode.length ≤ maxReceiveLen := by
  rw [receiveWith_packetOf localClientId remoteClientId hne hest
    (inv_of_run hrun).sendWindowEndSeq hdecode, List.append_right_inj, bounds_nil_iff hne]
  rw [not_or, Nat.not_lt, and_comm]
  simp [omitCount]

/-- A range of two numbers is understood. -/
theorem ack_rounds_of_pair :
    ∃ h, Run.runFrom (History.step sampleDeps) (History.new {} ["a"] []) sampleSession = some h ∧
      (receiveWith sampleDeps "a" "b" (packetOf [(1, 2)]).encode h.session).2.ackRanges =
        h.session.ackRanges ++ [(1, 3)] := by
  refine ⟨_, rfl, ?_⟩
  refine (ack_rounds_iff sampleDeps {} ["a"] [] sampleSession _ rfl (by decide +kernel) "a" "b"
    [(1, 2)] (by simp) (by decide +kernel)).mpr ?_
  decide +kernel

/-- The ack of a single packet starts no round. -/
theorem single_ack_ignored :
    ∃ h, Run.runFrom (History.step sampleDeps) (History.new {} ["a"] []) sampleSession = some h ∧
      h.session.isEstablished = true ∧
      sampleDeps.decodePacket (packetOf [(1, 1)]).encode = some (packetOf [(1, 1)]) ∧
      (receiveWith sampleDeps "a" "b" (packetOf [(1, 1)]).encode h.session).2.ackRanges ≠
        h.session.ackRanges ++ [(1, 1)].map bounds := by
  refine ⟨_, rfl, ?_⟩
  decide +kernel

end NknSdk.Ncp
