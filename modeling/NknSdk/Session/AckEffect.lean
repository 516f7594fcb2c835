import NknSdk.Session.Delivery

/-!
# What acks do to the send window

An ack should remove the packets of its ranges from the send window and move the
start of the window to the first packet that is left.  The loop that removes ends
before its first round (`ackSeqLoop_eq`), and so no ack ever removes a packet
(`sendWindowData_receiveWith`).  The start of the window may move, but not where no
range contains a packet that is still there (`sendWindow_receiveWith`).  Hence an ack
has its effect exactly when none does (`acks_take_effect_iff`).
-/

namespace NknSdk.Ncp

open Exec

/-! ## The contract -/

/-- `x` is one of the `count` numbers from `start` on. -/
def InRange (start count x : UInt32) : Prop :=
  ∃ k < count.toNat, x = nextSeq start (k : Nat)

/-- Some range of the packet contains `x`. -/
def Acked (p : Pb.Packet) (x : UInt32) : Prop :=
  ∃ range ∈ p.ackStartSeq.zip p.ackSeqCount, InRange range.1 range.2 x

/-- `x` is met on the way from `start` to `fin`, before `fin`. -/
def InWindow (start fin x : UInt32) : Prop :=
  ∃ k : Nat, x = nextSeq start k ∧ ∀ j ≤ k, nextSeq start (j : Nat) ≠ fin

/-- `x` is the first number from `start` on that is a key, or `fin` if none is before
it. -/
def IsWindowStart (data : AList fun _ : UInt32 => Bytes) (start fin x : UInt32) : Prop :=
  ∃ k : Nat, x = nextSeq start k ∧ (x ∈ data ∨ x = fin) ∧
    ∀ j < k, nextSeq start (j : Nat) ∉ data ∧ nextSeq start (j : Nat) ≠ fin

/-- The send window of an established session holds packets between its start and
its end only, and the one at its start unless it is empty.  Both ends are numbers of
the circle, which leaves out `0`. -/
structure Windowed (s : Session) : Prop where
  established : s.isEstablished = true
  start_ne_zero : s.sendWindowStartSeq ≠ 0
  end_ne_zero : s.sendWindowEndSeq ≠ 0
  inWindow : ∀ x ∈ s.sendWindowData, InWindow s.sendWindowStartSeq s.sendWindowEndSeq x
  start_mem : s.sendWindowStartSeq ≠ s.sendWindowEndSeq →
    s.sendWindowStartSeq ∈ s.sendWindowData

/-- The packet acks ranges of numbers that were sent before `sendWindowEndSeq`. -/
structure AcksSent (s : Session) (p : Pb.Packet) : Prop where
  length_eq : p.ackStartSeq.length = p.ackSeqCount.length
  ne_nil : p.ackStartSeq ≠ []
  start_ne_zero : ∀ range ∈ p.ackStartSeq.zip p.ackSeqCount, range.1 ≠ 0
  count_pos : ∀ range ∈ p.ackStartSeq.zip p.ackSeqCount, 0 < range.2
  sent : ¬ Acked p s.sendWindowEndSeq

/-- Between `s` and `s'` the acks of `p` had their effect. -/
structure AcksTakeEffect (s : Session) (p : Pb.Packet) (s' : Session) : Prop where
  removed : ∀ x, Acked p x → x ∉ s'.sendWindowData
  kept : ∀ x, ¬ Acked p x → s'.sendWindowData.lookup x = s.sendWindowData.lookup x
  sendWindowEndSeq : s'.sendWindowEndSeq = s.sendWindowEndSeq
  sendWindowStartSeq : IsWindowStart s'.sendWindowData s.sendWindowStartSeq s.sendWindowEndSeq
    s'.sendWindowStartSeq

/-! ## Ranges -/

/-- A number is in a range if it is close enough behind its start. -/
theorem inRange_iff {start x : UInt32} (hstart : start ≠ 0) (hx : x ≠ 0) (count : UInt32) :
    InRange start count x ↔
      (x.toNat + (2 ^ 32 - 1) - start.toNat) % (2 ^ 32 - 1) < count.toNat := by
  have hstart_lt := start.toNat_lt
  have hx_lt := x.toNat_lt
  have hstart_pos : 0 < start.toNat := toNat_pos_of_ne_zero hstart
  have hx_pos : 0 < x.toNat := toNat_pos_of_ne_zero hx
  constructor
  · rintro ⟨k, hk, rfl⟩
    rw [nextSeq_toNat hstart]
    omega
  · intro h
    refine ⟨_, h, ?_⟩
    rw [← UInt32.toNat_inj, nextSeq_toNat hstart]
    omega

theorem inRange_start {start count : UInt32} (hstart : start ≠ 0) (hcount : 0 < count) :
    InRange start count start :=
  ⟨0, UInt32.lt_iff_toNat_lt.mp hcount, (nextSeq_zero hstart).symm⟩

/-- The last number of a range, as the ack loop finds it. -/
theorem last_toNat {start count : UInt32} (hstart : start ≠ 0) (hcount : 0 < count) :
    (nextSeq (nextSeq start count.toNat) (-1)).toNat =
      (start.toNat - 1 + (count.toNat - 1)) % (2 ^ 32 - 1) + 1 := by
  have hpos : 0 < count.toNat := UInt32.lt_iff_toNat_lt.mp hcount
  obtain ⟨k, hk⟩ := Nat.exists_eq_succ_of_ne_zero (Nat.ne_of_gt hpos)
  rw [hk, Nat.succ_eq_add_one, nextSeq_neg_one_nextSeq, nextSeq_toNat hstart]
  rfl

/-- A range that contains neither end of the send window does not start at the
start of the window, once it is cut. -/
theorem clampStart_ne {s : Session} (hS₀ : s.sendWindowStartSeq ≠ 0)
    (hE₀ : s.sendWindowEndSeq ≠ 0) {start count : UInt32} (hstart : start ≠ 0)
    (hcount : 0 < count) (hend : ¬ InRange start count s.sendWindowEndSeq)
    (hbegin : ¬ InRange start count s.sendWindowStartSeq)
    (hlast : seqInBetween s.sendWindowStartSeq s.sendWindowEndSeq
      (nextSeq (nextSeq start count.toNat) (-1)) = true) :
    clampStart s start ≠ s.sendWindowStartSeq := by
  have hne : start ≠ s.sendWindowStartSeq := by
    rintro rfl
    exact hbegin (inRange_start hstart hcount)
  have hinside : seqInBetween s.sendWindowStartSeq s.sendWindowEndSeq start = true := by
    rw [inRange_iff hstart hE₀] at hend
    rw [inRange_iff hstart hS₀] at hbegin
    rw [seqInBetween_iff, last_toNat hstart hcount] at hlast
    rw [seqInBetween_iff]
    have hstart_lt := start.toNat_lt
    have hstart_pos : 0 < start.toNat := toNat_pos_of_ne_zero hstart
    have hcount_pos : 0 < count.toNat := UInt32.lt_iff_toNat_lt.mp hcount
    have hS := s.sendWindowStartSeq.toNat_lt
    have hE := s.sendWindowEndSeq.toNat_lt
    have hS_pos := toNat_pos_of_ne_zero hS₀
    have hE_pos := toNat_pos_of_ne_zero hE₀
    split at hlast
    next hle => split <;> omega
    next hgt => split <;> omega
  rw [clampStart, if_pos hinside]
  exact hne

/-! ## What a packet does to the send window -/

/-- The part of a session that acks are about. -/
structure SendWindow where
  start : UInt32
  fin : UInt32
  data : AList fun _ : UInt32 => Bytes

def Session.sendWindow (s : Session) : SendWindow :=
  ⟨s.sendWindowStartSeq, s.sendWindowEndSeq, s.sendWindowData⟩

section SendWindow

variable {P : SendWindow → Prop}

/-- A statement that leaves the send window alone keeps what is said of it. -/
theorem keeps_sendWindow {f : Session → Session} (hf : ∀ s, (f s).sendWindow = s.sendWindow) :
    Keeps (fun s => P s.sendWindow) (modify f : Call Unit) := by
  intro s h
  show P (f s).sendWindow
  rw [hf]
  exact h

theorem handleHandshakePacket_sendWindow (p : Pb.Packet) :
    Keeps (fun s => P s.sendWindow) (handleHandshakePacket p) := by
  refine keeps_bind keeps_get fun s => ?_
  refine keeps_ite (keeps_pure _) (keeps_ite (keeps_pure _) ?_)
  refine keeps_bind (keeps_when (keeps_sendWindow fun _ => rfl)) fun _ => ?_
  refine keeps_ite (keeps_pure _) ?_
  refine keeps_bind (keeps_when (keeps_sendWindow fun _ => rfl)) fun _ => ?_
  refine keeps_bind (keeps_sendWindow fun _ => rfl) fun _ => ?_
  refine keeps_ite (keeps_pure _) (keeps_bind (keeps_sendWindow fun _ => rfl) fun _ => ?_)
  exact keeps_bind keeps_get fun s => keeps_ite keeps_block (keeps_sendWindow fun _ => rfl)

theorem receiveBytesRead_sendWindow (p : Pb.Packet) :
    Keeps (fun s => P s.sendWindow) (receiveBytesRead p) := by
  refine keeps_bind keeps_get fun s => keeps_ite ?_ (keeps_pure _)
  refine keeps_bind (keeps_sendWindow fun _ => rfl) fun _ => ?_
  exact keeps_ite keeps_block (keeps_sendWindow fun _ => rfl)

theorem receiveData_sendWindow (d : Deps) (localClientId remoteClientId : String)
    (p : Pb.Packet) :
    Keeps (fun s => P s.sendWindow) (receiveData d localClientId remoteClientId p) := by
  refine keeps_bind keeps_get fun s => keeps_ite (keeps_pure _) ?_
  refine keeps_bind ?_ fun goOn => keeps_ite ?_ (keeps_pure _)
  · refine keeps_bind keeps_get fun s => keeps_ite ?_ (keeps_pure _)
    refine keeps_bind (keeps_arith _ _ _) fun used => keeps_ite (keeps_pure _) ?_
    refine keeps_bind (keeps_sendWindow fun _ => rfl) fun _ => ?_
    refine keeps_bind (keeps_arith _ _ _) fun _ => ?_
    refine keeps_bind (keeps_sendWindow fun _ => rfl) fun _ => ?_
    exact keeps_bind (keeps_when (keeps_sendWindow fun _ => rfl)) fun _ => keeps_pure _
  · refine keeps_bind keeps_get fun s => ?_
    dsimp only
    cases s.connections.lookup (connKey localClientId remoteClientId) with
    | some conn => exact keeps_sendWindow fun _ => rfl
    | none => exact keeps_pure _

/-- A round of the ack loop keeps what its range keeps. -/
theorem ackRound_sendWindow {d : Deps} {p : Pb.Packet} (hstarts : p.ackStartSeq ≠ [])
    (hcounts : p.ackSeqCount ≠ [])
    (happly : ∀ range ∈ p.ackStartSeq.zip p.ackSeqCount,
      Keeps (fun s => P s.sendWindow) (applyAck d range.1 (nextSeq range.1 range.2.toNat)))
    (i : Nat) : Keeps (fun s => P s.sendWindow) (ackRound d p i) := by
  rw [ackRound, ackStart, if_pos hstarts]
  cases hstart : p.ackStartSeq[i]? with
  | none => exact keeps_panic
  | some start =>
      rw [unwrap_some, pure_bind, ackEnd, if_pos hcounts]
      cases hcount : p.ackSeqCount[i]? with
      | none => exact keeps_panic
      | some count =>
          have hzip : (p.ackStartSeq.zip p.ackSeqCount)[i]? = some (start, count) :=
            List.getElem?_zip_eq_some.mpr ⟨hstart, hcount⟩
          rw [unwrap_some, pure_bind, pure_bind]
          refine keeps_bind (keeps_sendWindow fun _ => rfl) fun _ => ?_
          exact happly (start, count) (List.mem_of_getElem? hzip)

/-- A packet keeps what each of its ranges keeps. -/
theorem receiveWith_sendWindow {d : Deps} {p : Pb.Packet} {buf : Bytes}
    (hdecode : d.decodePacket buf = some p) (hstarts : p.ackStartSeq ≠ [])
    (hcounts : p.ackSeqCount ≠ [])
    (happly : ∀ range ∈ p.ackStartSeq.zip p.ackSeqCount,
      Keeps (fun s => P s.sendWindow) (applyAck d range.1 (nextSeq range.1 range.2.toNat)))
    (localClientId remoteClientId : String) :
    Keeps (fun s => P s.sendWindow) (receiveWith d localClientId remoteClientId buf) := by
  rw [receiveWith, hdecode, unwrap_some, pure_bind]
  refine keeps_ite (keeps_pure _) (keeps_receivePacket ?_ (handleHandshakePacket_sendWindow p) ?_
    (receiveBytesRead_sendWindow p) (receiveData_sendWindow d localClientId remoteClientId p))
  · refine keeps_bind keeps_get fun s => ?_
    exact keeps_ite (keeps_sendWindow fun _ => rfl) (keeps_pure _)
  · intro isEstablished
    refine keeps_ite (keeps_ite (keeps_pure _) ?_) (keeps_pure _)
    refine keeps_bind (keeps_forM (ackRound_sendWindow hstarts hcounts happly)) fun _ => ?_
    refine keeps_bind (keeps_bind keeps_get fun s => ?_) fun _ => keeps_pure _
    exact keeps_ite (keeps_pure _) (keeps_sendWindow fun _ => rfl)

end SendWindow

section Effect

variable {d : Deps} {s : Session} {p : Pb.Packet} {buf : Bytes}

theorem AcksSent.counts_ne_nil (hp : AcksSent s p) : p.ackSeqCount ≠ [] := by
  intro h
  have hlen := hp.length_eq
  rw [h, List.length_nil, List.length_eq_zero_iff] at hlen
  exact hp.ne_nil hlen

/-- No ack removes anything, and none moves the end of the window. -/
theorem sendWindowData_receiveWith (hs : Windowed s) (hp : AcksSent s p)
    (hdecode : d.decodePacket buf = some p) (localClientId remoteClientId : String) :
    (receiveWith d localClientId remoteClientId buf s).2.sendWindowData = s.sendWindowData ∧
      (receiveWith d localClientId remoteClientId buf s).2.sendWindowEndSeq =
        s.sendWindowEndSeq := by
  refine receiveWith_sendWindow (P := fun w => w.data = s.sendWindowData ∧
    w.fin = s.sendWindowEndSeq) hdecode hp.ne_nil hp.counts_ne_nil ?_ _ _ s ⟨rfl, rfl⟩
  rintro range - t ⟨hdata, hfin⟩
  have hnonzero : t.sendWindowEndSeq ≠ 0 := by
    rw [show t.sendWindowEndSeq = s.sendWindowEndSeq from hfin]
    exact hs.end_ne_zero
  obtain ⟨start, heq⟩ := applyAck_eq d range.1 (nextSeq range.1 range.2.toNat) hnonzero
  rw [heq]
  exact ⟨hdata, hfin⟩

/-- A range that contains neither end of the window leaves its start alone. -/
theorem applyAck_eq_self (d : Deps) (hS₀ : s.sendWindowStartSeq ≠ 0)
    (hE₀ : s.sendWindowEndSeq ≠ 0) {start count : UInt32} (hstart : start ≠ 0)
    (hcount : 0 < count) (hend : ¬ InRange start count s.sendWindowEndSeq)
    (hbegin : ¬ InRange start count s.sendWindowStartSeq) :
    applyAck d start (nextSeq start count.toNat) s = (.ok (), s) := by
  rw [applyAck, get_bind_apply]
  split
  next hlast =>
    have hne := clampStart_ne hS₀ hE₀ hstart hcount hend hbegin hlast
    show (ackSeqLoop d (clampStart s start) _ loopFuel (clampStart s start) >>= fun _ =>
      advanceWindow (clampStart s start)) s = _
    rw [ackSeqLoop_eq, pure_bind, advanceWindow, get_bind_apply, if_neg hne]
    rfl
  next => rfl

/-- Where no range contains a packet that is still there, the start of the window
stays as well. -/
theorem sendWindow_receiveWith (hs : Windowed s) (hp : AcksSent s p)
    (hfree : ∀ x ∈ s.sendWindowData, ¬ Acked p x) (hdecode : d.decodePacket buf = some p)
    (localClientId remoteClientId : String) :
    (receiveWith d localClientId remoteClientId buf s).2.sendWindow = s.sendWindow := by
  have hbegin : ¬ Acked p s.sendWindowStartSeq := by
    by_cases hempty : s.sendWindowStartSeq = s.sendWindowEndSeq
    · rw [hempty]
      exact hp.sent
    · exact hfree _ (hs.start_mem hempty)
  refine receiveWith_sendWindow (P := fun w => w = s.sendWindow) hdecode hp.ne_nil
    hp.counts_ne_nil ?_ _ _ s rfl
  intro range hrange t ht
  have hstart : t.sendWindowStartSeq = s.sendWindowStartSeq := congrArg SendWindow.start ht
  have hfin : t.sendWindowEndSeq = s.sendWindowEndSeq := congrArg SendWindow.fin ht
  rw [applyAck_eq_self d (hstart ▸ hs.start_ne_zero) (hfin ▸ hs.end_ne_zero)
    (hp.start_ne_zero range hrange) (hp.count_pos range hrange)]
  · exact ht
  · rw [hfin]
    exact fun hin => hp.sent ⟨range, hrange, hin⟩
  · rw [hstart]
    exact fun hin => hbegin ⟨range, hrange, hin⟩

end Effect

/-- The acks of a packet have their effect on the send window exactly if none of their
ranges contains a number that is still in it. -/
theorem acks_take_effect_iff (d : Deps) (localClientId remoteClientId : String) (buf : Bytes)
    (s : Session) (p : Pb.Packet) (hs : Windowed s) (hp : AcksSent s p)
    (hdecode : d.decodePacket buf = some p) :
    AcksTakeEffect s p (receiveWith d localClientId remoteClientId buf s).2 ↔
      ∀ x ∈ s.sendWindowData, ¬ Acked p x := by
  obtain ⟨hdata, hfin⟩ :=
    sendWindowData_receiveWith hs hp hdecode localClientId remoteClientId
  constructor
  · intro heffect x hx hacked
    have hgone := heffect.removed x hacked
    rw [hdata] at hgone
    exact hgone hx
  · intro hfree
    have hwindow := sendWindow_receiveWith hs hp hfree hdecode localClientId remoteClientId
    have hstart : (receiveWith d localClientId remoteClientId buf s).2.sendWindowStartSeq =
        s.sendWindowStartSeq := congrArg SendWindow.start hwindow
    refine ⟨?_, ?_, hfin, ?_⟩
    · intro x hacked
      rw [hdata]
      exact fun hx => hfree x hx hacked
    · intro x _
      rw [hdata]
    · refine ⟨0, ?_, ?_, fun j hj => absurd hj (Nat.not_lt_zero j)⟩
      · rw [hstart]
        exact (nextSeq_zero hs.start_ne_zero).symm
      · rw [hstart, hdata]
        by_cases hempty : s.sendWindowStartSeq = s.sendWindowEndSeq
        · exact Or.inr hempty
        · exact Or.inl (hs.start_mem hempty)

/-! ## A late ack and a first ack -/

/-- A packet that acks one number. -/
def sampleAck (seq : UInt32) : Pb.Packet := { ackStartSeq := [seq], ackSeqCount := [1] }

/-- The decoder at such a packet. -/
def sampleAckDeps (seq : UInt32) : Deps :=
  { sampleDeps with
    decodePacket := fun buf => if buf = (sampleAck seq).encode then some (sampleAck seq) else none }

theorem acked_sampleAck {seq x : UInt32} (hseq : seq ≠ 0) : Acked (sampleAck seq) x ↔ x = seq := by
  constructor
  · rintro ⟨range, hrange, k, hk, rfl⟩
    obtain rfl : range = (seq, 1) := List.mem_singleton.mp hrange
    obtain rfl : k = 0 := Nat.lt_one_iff.mp hk
    exact nextSeq_zero hseq
  · rintro rfl
    exact ⟨(x, 1), List.mem_singleton.mpr rfl, 0, Nat.one_pos, (nextSeq_zero hseq).symm⟩

theorem sampleAck_decodes (seq : UInt32) :
    (sampleAckDeps seq).decodePacket (sampleAck seq).encode = some (sampleAck seq) := if_pos rfl

theorem acksSent_sampleAck {s : Session} {seq : UInt32} (hseq : seq ≠ 0)
    (hend : s.sendWindowEndSeq ≠ seq) : AcksSent s (sampleAck seq) where
  length_eq := rfl
  ne_nil := List.cons_ne_nil _ _
  start_ne_zero range hrange := by
    obtain rfl : range = (seq, 1) := List.mem_singleton.mp hrange
    exact hseq
  count_pos range hrange := by
    obtain rfl : range = (seq, 1) := List.mem_singleton.mp hrange
    exact (by decide : (0 : UInt32) < 1)
  sent := by
    rw [acked_sampleAck hseq]
    exact hend

/-- The ack of a number that is long gone changes nothing. -/
theorem late_ack_takes_effect :
    AcksTakeEffect { sampleEstablished with sendWindowStartSeq := 5, sendWindowEndSeq := 5 }
      (sampleAck 2) (receiveWith (sampleAckDeps 2) "a" "b" (sampleAck 2).encode
        { sampleEstablished with sendWindowStartSeq := 5, sendWindowEndSeq := 5 }).2 := by
  refine (acks_take_effect_iff (sampleAckDeps 2) "a" "b" (sampleAck 2).encode _ (sampleAck 2)
    ⟨by decide, by decide, by decide, ?_, fun h => absurd rfl h⟩
    (acksSent_sampleAck (by decide) (by decide)) (sampleAck_decodes 2)).mpr ?_
  · intro x hx
    exact absurd hx (AList.notMem_empty x)
  · intro x hx
    exact absurd hx (AList.notMem_empty x)

/-- One packet is on its way. -/
theorem mem_sampleWritten {x : UInt32} : x ∈ sampleWritten.sendWindowData ↔ x = 1 := by
  obtain ⟨-, hlen, bytesWrite, heq⟩ := write_ok (by decide +kernel) sampleWritten_eq
  have hdata : sampleWritten.sendWindowData.keys = [1] := by
    rw [heq]
    rfl
  rw [AList.mem_keys, hdata, List.mem_singleton]

theorem windowed_sampleWritten : Windowed sampleWritten where
  established := by decide +kernel
  start_ne_zero := by decide +kernel
  end_ne_zero := by decide +kernel
  inWindow x hx := by
    obtain rfl := mem_sampleWritten.mp hx
    refine ⟨0, by decide +kernel, ?_⟩
    intro j hj
    obtain rfl : j = 0 := Nat.le_zero.mp hj
    decide +kernel
  start_mem _ := mem_sampleWritten.mpr (by decide +kernel)

/-- The ack of the first packet leaves it in the window. -/
theorem first_ack_removes_nothing :
    Windowed sampleWritten ∧ AcksSent sampleWritten (sampleAck 1) ∧
      (sampleAckDeps 1).decodePacket (sampleAck 1).encode = some (sampleAck 1) ∧
      ¬ AcksTakeEffect sampleWritten (sampleAck 1)
        (receiveWith (sampleAckDeps 1) "a" "b" (sampleAck 1).encode sampleWritten).2 := by
  have hsent : AcksSent sampleWritten (sampleAck 1) :=
    acksSent_sampleAck (by decide) (by decide +kernel)
  refine ⟨windowed_sampleWritten, hsent, sampleAck_decodes 1, ?_⟩
  intro heffect
  have hgone := heffect.removed 1 ((acked_sampleAck (by decide)).mpr rfl)
  rw [(sendWindowData_receiveWith windowed_sampleWritten hsent (sampleAck_decodes 1) "a" "b").1]
    at hgone
  exact hgone (mem_sampleWritten.mpr rfl)

end NknSdk.Ncp
