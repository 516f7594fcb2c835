import NknSdk.Lib.Run
import NknSdk.Session.Connection
import Mathlib.Tactic

/-!
# Calls of `receive_ack`

Whatever a connection has been through, `receive_ack` takes an ack in unless a
duration under- or overflows or the notification channel is still full.  The new
timeout is a hyperbolic tangent in nanoseconds, so that it is next to nothing after
the first ack, and the channel has room for one notification, so that of two acks
without a reader between them the second one panics (`acks_safely_iff`).

A run is calls for packets of the connection, each some time after its packet was
sent, and takes of the notification.
-/

namespace NknSdk.Ncp

open Exec

/-- The calls' surroundings, with `tanh` as a function into the interval from -1 to 1 and its
value cast to a `u64`. -/
def Deps.withTanh (d : Deps) (tanh : ℚ → Set.Icc (-1 : ℚ) 1) : Deps :=
  { d with tanh := fun x => ⌊(tanh x : ℚ)⌋₊ }

theorem Deps.withTanh_le_one (d : Deps) (tanh : ℚ → Set.Icc (-1 : ℚ) 1) (x : ℚ) :
    (d.withTanh tanh).tanh x ≤ 1 :=
  Nat.floor_le_of_le (by simpa using (tanh x).2.2)

inductive AckEvent where
  /-- `receive_ack(seq, true)`, `rtt` nanoseconds after the packet was sent. -/
  | ack (seq : UInt32) (rtt : Nat)
  /-- The notification is taken out of its channel. -/
  | drain

namespace Connection

/-- `receive_ack(seq, true)`, `rtt` nanoseconds after the packet was sent. -/
def ackCall (d : Deps) (seq : UInt32) (rtt : Nat) (conn : Connection) :
    Outcome NcpError Unit × Connection :=
  receiveAck { d with now := (conn.timeSentSeq.lookup seq).getD 0 + rtt } seq true conn

def drain (conn : Connection) : Connection := { conn with sendWindowUpdate := false }

/-- What the ack of `seq` did to the connection is what it should do. -/
structure AckTaken (conn : Connection) (seq : UInt32) (conn' : Connection) : Prop where
  removes : conn.timeSentSeq.lookup seq ≠ none →
    conn'.timeSentSeq = conn.timeSentSeq.erase seq ∧ conn'.resentSeq = conn.resentSeq.erase seq
  unknown : conn.timeSentSeq.lookup seq = none → conn' = conn
  timeout : conn'.retransmissionTimeout ≤ conn'.maxRetransmissionTimeout * 10 ^ 6

/-- Every call of the run completes and does what it should do. -/
def AcksSafely (d : Deps) : Connection → List AckEvent → Prop
  | _, [] => True
  | conn, .ack seq rtt :: events =>
      ∃ conn', conn.ackCall d seq rtt = (.ok (), conn') ∧ conn.AckTaken seq conn' ∧
        AcksSafely d conn' events
  | conn, .drain :: events => AcksSafely d conn.drain events

/-- The connection after an event that completes. -/
def ackStep (d : Deps) (conn : Connection) : AckEvent → Option Connection
  | .ack seq rtt =>
      match conn.ackCall d seq rtt with
      | (.ok _, conn') => some conn'
      | _ => none
  | .drain => some conn.drain

/-- What the float arithmetic of the timeout starts from. -/
def timeoutInput (conn : Connection) (rtt : Nat) : ℚ :=
  ((3 * rtt - conn.retransmissionTimeout : Nat) : ℚ) / 10 ^ 9 * 10 ^ 8

/-- The channel has room, three round trips are at least the timeout and fit into a duration,
and the new timeout is no more than the largest one. -/
structure Ready (d : Deps) (conn : Connection) (rtt : Nat) : Prop where
  room : conn.sendWindowUpdate = false
  fits : 3 * rtt < 2 ^ 64 * 10 ^ 9
  slow : conn.retransmissionTimeout ≤ 3 * rtt
  bounded : d.tanh (conn.timeoutInput rtt) ≤ conn.maxRetransmissionTimeout * 10 ^ 6

/-- The connection is ready for an ack of one of its packets, and its timeout is in its bound
for another one. -/
def AckFits (d : Deps) (conn : Connection) : AckEvent → Prop
  | .ack seq rtt =>
      if conn.timeSentSeq.lookup seq = none then
        conn.retransmissionTimeout ≤ conn.maxRetransmissionTimeout * 10 ^ 6
      else conn.Ready d rtt
  | .drain => True

/-! ## What a call does -/

/-- The connection after an ack of `seq`, with its new timeout. -/
def acked (conn : Connection) (seq : UInt32) (timeout : Nat) : Connection :=
  { conn with
    timeSentSeq := conn.timeSentSeq.erase seq
    resentSeq := conn.resentSeq.erase seq
    sendWindowUpdate := true
    retransmissionTimeout := timeout }

variable {d : Deps} {conn conn' : Connection} {seq : UInt32} {rtt : Nat}

theorem ackCall_unknown (h : conn.timeSentSeq.lookup seq = none) :
    conn.ackCall d seq rtt = (.ok (), conn) := by
  rw [ackCall, receiveAck, get_bind_apply, h]
  rfl

/-- The new timeout, which is below every bound that is not zero. -/
theorem adjustTimeout_eq {d : Deps} {t : Nat} (htanh : ∀ x, d.tanh x ≤ 1) (hnow : d.now = t + rtt)
    (hfits : 3 * rtt < 2 ^ 64 * 10 ^ 9) (hslow : conn.retransmissionTimeout ≤ 3 * rtt) :
    adjustTimeout d t conn =
      (.ok (), { conn with retransmissionTimeout := d.tanh (conn.timeoutInput rtt) }) := by
  have hrtt : d.now - t = rtt := by omega
  have hsmall : ¬ conn.maxRetransmissionTimeout < d.tanh (conn.timeoutInput rtt) / 10 ^ 6 := by
    have := htanh (conn.timeoutInput rtt)
    omega
  rw [adjustTimeout, get_bind_apply, require_pos (by omega), Exec.pure_bind]
  dsimp only
  rw [hrtt, require_pos hfits, Exec.pure_bind, require_pos hslow, Exec.pure_bind, modify_bind_apply]
  rw [timeoutInput] at hsmall ⊢
  rw [if_neg hsmall]
  rfl

/-- An ack that comes too soon, or too late, panics. -/
theorem adjustTimeout_panic {d : Deps} {t : Nat} (hnow : d.now = t + rtt)
    (h : ¬ (3 * rtt < 2 ^ 64 * 10 ^ 9 ∧ conn.retransmissionTimeout ≤ 3 * rtt)) :
    adjustTimeout d t conn = (.panic, conn) := by
  have hrtt : d.now - t = rtt := by omega
  rw [adjustTimeout, get_bind_apply, require_pos (by omega), Exec.pure_bind]
  dsimp only
  rw [hrtt]
  by_cases hfits : 3 * rtt < 2 ^ 64 * 10 ^ 9
  · rw [require_pos hfits, Exec.pure_bind, require_neg fun hslow => h ⟨hfits, hslow⟩]
    rfl
  · rw [require_neg hfits]
    rfl

theorem ackCall_known {t : Nat} (ht : conn.timeSentSeq.lookup seq = some t) :
    conn.ackCall d seq rtt =
      (adjustTimeout { d with now := t + rtt } t >>= fun _ => do
        modify fun conn =>
          { conn with
            timeSentSeq := conn.timeSentSeq.erase seq
            resentSeq := conn.resentSeq.erase seq }
        let conn ← get
        if conn.sendWindowUpdate then panic
        else modify fun conn => { conn with sendWindowUpdate := true }) conn := by
  rw [ackCall, receiveAck, get_bind_apply, ht]
  rfl

/-- An ack of a packet of the connection completes where there is room for it. -/
theorem ackCall_eq (htanh : ∀ x, d.tanh x ≤ 1) (hknown : conn.timeSentSeq.lookup seq ≠ none)
    (hroom : conn.sendWindowUpdate = false) (hfits : 3 * rtt < 2 ^ 64 * 10 ^ 9)
    (hslow : conn.retransmissionTimeout ≤ 3 * rtt) :
    conn.ackCall d seq rtt = (.ok (), conn.acked seq (d.tanh (conn.timeoutInput rtt))) := by
  obtain ⟨t, ht⟩ := Option.ne_none_iff_exists'.mp hknown
  have hadjust := adjustTimeout_eq (d := { d with now := t + rtt }) (t := t) htanh rfl hfits hslow
  rw [ackCall_known ht, bind_ok hadjust, modify_bind_apply, get_bind_apply, hroom]
  rfl

/-- An ack of a packet of the connection completes only where there is room for it. -/
theorem ready_of_ackCall (hknown : conn.timeSentSeq.lookup seq ≠ none)
    (htanh : ∀ x, d.tanh x ≤ 1) (h : conn.ackCall d seq rtt = (.ok (), conn')) :
    conn.sendWindowUpdate = false ∧ 3 * rtt < 2 ^ 64 * 10 ^ 9 ∧
      conn.retransmissionTimeout ≤ 3 * rtt := by
  obtain ⟨t, ht⟩ := Option.ne_none_iff_exists'.mp hknown
  rw [ackCall_known ht] at h
  by_cases hrtt : 3 * rtt < 2 ^ 64 * 10 ^ 9 ∧ conn.retransmissionTimeout ≤ 3 * rtt
  · refine ⟨?_, hrtt⟩
    have hadjust :=
      adjustTimeout_eq (d := { d with now := t + rtt }) (t := t) htanh rfl hrtt.1 hrtt.2
    rw [bind_ok hadjust, modify_bind_apply, get_bind_apply] at h
    cases hroom : conn.sendWindowUpdate with
    | false => rfl
    | true =>
        dsimp only at h
        rw [hroom] at h
        cases h
  · rw [bind_panic (adjustTimeout_panic rfl hrtt)] at h
    cases h

/-! ## Calls that complete -/

/-- A call completes and does what it should do exactly when the connection is ready for it. -/
theorem ack_safely_iff (htanh : ∀ x, d.tanh x ≤ 1) :
    (∃ conn', conn.ackCall d seq rtt = (.ok (), conn') ∧ conn.AckTaken seq conn') ↔
      conn.AckFits d (.ack seq rtt) := by
  rw [AckFits]
  split
  next hnone =>
    rw [ackCall_unknown hnone]
    constructor
    · rintro ⟨conn', hcall, htaken⟩
      cases hcall
      exact htaken.timeout
    · exact fun htimeout => ⟨conn, rfl, fun h => absurd hnone h, fun _ => rfl, htimeout⟩
  next hknown =>
    constructor
    · rintro ⟨conn', hcall, htaken⟩
      obtain ⟨hroom, hfits, hslow⟩ := ready_of_ackCall hknown htanh hcall
      rw [ackCall_eq htanh hknown hroom hfits hslow] at hcall
      cases hcall
      exact ⟨hroom, hfits, hslow, htaken.timeout⟩
    · rintro ⟨hroom, hfits, hslow, hbounded⟩
      exact ⟨_, ackCall_eq htanh hknown hroom hfits hslow, fun _ => ⟨rfl, rfl⟩,
        fun h => absurd h hknown, hbounded⟩

theorem ackStep_ack (h : conn.ackCall d seq rtt = (.ok (), conn')) :
    conn.ackStep d (.ack seq rtt) = some conn' := by
  rw [ackStep, h]

/-- A sequence of calls completes, each of them doing what it should do, exactly when the
connection is ready for every one of them. -/
theorem acks_safely_iff (d : Deps) (tanh : ℚ → Set.Icc (-1 : ℚ) 1) (conn : Connection)
    (events : List AckEvent) :
    conn.AcksSafely (d.withTanh tanh) events ↔
      Run.Meets (ackStep (d.withTanh tanh)) (AckFits (d.withTanh tanh)) conn events := by
  have htanh := d.withTanh_le_one tanh
  induction events generalizing conn with
  | nil => exact Iff.rfl
  | cons e events ih =>
      cases e with
      | drain =>
          rw [AcksSafely, Run.Meets]
          constructor
          · intro hrest
            refine ⟨trivial, ?_⟩
            rintro conn' hstep
            cases hstep
            exact (ih conn.drain).mp hrest
          · exact fun h => (ih conn.drain).mpr (h.2 _ rfl)
      | ack seq rtt =>
          rw [AcksSafely, Run.Meets, ← ack_safely_iff htanh]
          constructor
          · rintro ⟨conn', hcall, htaken, hrest⟩
            refine ⟨⟨conn', hcall, htaken⟩, ?_⟩
            intro conn'' hstep
            cases (ackStep_ack hcall).symm.trans hstep
            exact (ih conn').mp hrest
          · rintro ⟨⟨conn', hcall, htaken⟩, hrest⟩
            exact ⟨conn', hcall, htaken, (ih conn').mpr (hrest conn' (ackStep_ack hcall))⟩

/-! ## The bound of the timeout -/

/-- The timeout is within its bound, which is not zero. -/
structure TimeoutBounded (conn : Connection) : Prop where
  positive : 0 < conn.maxRetransmissionTimeout
  timeout : conn.retransmissionTimeout ≤ conn.maxRetransmissionTimeout * 10 ^ 6

theorem new_timeoutBounded (localClientId remoteClientId : String) (windowSize : ℚ) :
    (new localClientId remoteClientId windowSize).TimeoutBounded where
  positive := show 0 < 10000 by decide
  timeout := show 5000 * 10 ^ 6 ≤ 10000 * 10 ^ 6 by decide

/-- Within its bound the timeout asks for nothing more than that a packet is not acknowledged
before a third of the timeout has passed. -/
theorem TimeoutBounded.ackFits_iff (h : conn.TimeoutBounded) (htanh : ∀ x, d.tanh x ≤ 1) :
    conn.AckFits d (.ack seq rtt) ↔ (conn.timeSentSeq.lookup seq ≠ none →
      conn.sendWindowUpdate = false ∧ 3 * rtt < 2 ^ 64 * 10 ^ 9 ∧
        conn.retransmissionTimeout ≤ 3 * rtt) := by
  have hpos := h.positive
  rw [AckFits]
  split
  next hnone => exact iff_of_true h.timeout fun hknown => absurd hnone hknown
  next hknown =>
    constructor
    · exact fun hready _ => ⟨hready.room, hready.fits, hready.slow⟩
    · intro hall
      obtain ⟨hroom, hfits, hslow⟩ := hall hknown
      have := htanh (conn.timeoutInput rtt)
      exact ⟨hroom, hfits, hslow, by omega⟩

/-- Events that complete keep the timeout within its bound. -/
theorem TimeoutBounded.step (h : conn.TimeoutBounded) (htanh : ∀ x, d.tanh x ≤ 1) {e : AckEvent}
    (hfits : conn.AckFits d e) (hstep : conn.ackStep d e = some conn') : conn'.TimeoutBounded := by
  cases e with
  | drain =>
      cases hstep
      exact ⟨h.positive, h.timeout⟩
  | ack seq rtt =>
      obtain ⟨conn₁, hcall, htaken⟩ := (ack_safely_iff htanh).mpr hfits
      cases (ackStep_ack hcall).symm.trans hstep
      by_cases hknown : conn.timeSentSeq.lookup seq = none
      · exact htaken.unknown hknown ▸ h
      · obtain ⟨hroom, hfits, hslow⟩ := ready_of_ackCall hknown htanh hcall
        rw [ackCall_eq htanh hknown hroom hfits hslow] at hcall
        cases hcall
        exact ⟨h.positive, htaken.timeout⟩

/-! ## Two packets on their way -/

/-- A new connection with two packets that are not acknowledged, sent at the time zero. -/
def sampleSent : Connection :=
  { new "a" "b" 4 with timeSentSeq := ((∅ : AList fun _ : UInt32 => Nat).insert 1 0).insert 2 0 }

def sampleAckDeps : Deps where
  overflow := .checked
  decodePacket := fun _ => none
  now := 0
  tanh := fun _ => 0

theorem zero_mem_interval : (0 : ℚ) ∈ Set.Icc (-1 : ℚ) 1 := by norm_num

theorem one_mem_interval : (1 : ℚ) ∈ Set.Icc (-1 : ℚ) 1 := by norm_num

/-- A packet that is acknowledged a second after it was sent. -/
theorem early_ack_panics :
    ¬ sampleSent.AcksSafely (sampleAckDeps.withTanh fun _ => ⟨1, one_mem_interval⟩)
      [.ack 1 (10 ^ 9)] := by
  rintro ⟨conn', hcall, -⟩
  have hready := ready_of_ackCall (by decide)
    (sampleAckDeps.withTanh_le_one fun _ => ⟨1, one_mem_interval⟩) hcall
  exact absurd hready.2.2 (by decide)

/-- The first ack, the notification, and the second ack. -/
theorem sample_acks_safely :
    sampleSent.AcksSafely (sampleAckDeps.withTanh fun _ => ⟨0, zero_mem_interval⟩)
      [.ack 1 (2 * 10 ^ 9), .drain, .ack 2 (3 * 10 ^ 9)] := by
  refine (acks_safely_iff sampleAckDeps (fun _ => ⟨0, zero_mem_interval⟩) sampleSent _).mpr ?_
  have htanh := sampleAckDeps.withTanh_le_one fun _ => ⟨0, zero_mem_interval⟩
  have hbounded : sampleSent.TimeoutBounded := ⟨by decide, by decide⟩
  have hfirst : sampleSent.AckFits (sampleAckDeps.withTanh fun _ => ⟨0, zero_mem_interval⟩)
      (.ack 1 (2 * 10 ^ 9)) :=
    (hbounded.ackFits_iff htanh).mpr fun _ => ⟨rfl, by decide, by decide⟩
  refine ⟨hfirst, fun conn₁ hstep₁ => ⟨trivial, fun conn₂ hstep₂ => ⟨?_, fun _ _ => trivial⟩⟩⟩
  have hbounded₁ := hbounded.step htanh hfirst hstep₁
  have hbounded₂ := hbounded₁.step (e := .drain) htanh trivial hstep₂
  rw [ackStep_ack (ackCall_eq htanh (by decide) rfl (by decide) (by decide))] at hstep₁
  cases hstep₁
  cases hstep₂
  refine (hbounded₂.ackFits_iff htanh).mpr fun _ => ⟨rfl, by decide, ?_⟩
  have hsmall := htanh (sampleSent.timeoutInput (2 * 10 ^ 9))
  exact hsmall.trans (by decide)

end Connection

end NknSdk.Ncp
