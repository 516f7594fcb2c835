import NknSdk.Pb.Decode
import NknSdk.Nanopay.Agreement

/-!
# The payments of a payer

`Payments` is a payer together with the deltas it has accepted since its id was
drawn and with the messages it has sent.  Its events are calls of
`increase_amount`; a call that panics has no successor.

The amount is summed up as a `u64`, handed out as an `i64`, and the expirations
are sums of `u32`.  A payment is what was accepted (`PaysExactly`) as long as none
of these is left (`InBounds`), and only then (`pays_exactly_iff`).
-/

namespace NknSdk.Nanopay

open Exec

/-- The message of a nanopay transaction. -/
def payment (tx : Transaction) : Option Pb.NanoPay :=
  tx.pbTx.unsignedTx.bind fun unsignedTx =>
    unsignedTx.payload.bind fun payload =>
      if Pb.PayloadType.fromI32 payload.type = some .nanoPayType then
        Pb.NanoPay.decode payload.data
      else none

theorem payment_transaction (s : NanoPay) (attrs : Bytes) (fee : UInt64) :
    payment (s.transaction attrs fee) = some s.message := Pb.NanoPay.decode_encode s.message

/-! ## Calls -/

/-- One call of `increase_amount`, with the id that it draws if it needs one. -/
structure PaymentCall where
  getHeight : Except String UInt32
  id : UInt64
  attrs : Bytes
  delta : UInt64
  fee : UInt64

structure Payments where
  payer : NanoPay
  /-- The deltas accepted since the id was drawn. -/
  since : List UInt64
  /-- The messages of the transactions, oldest first. -/
  sent : List Pb.NanoPay

namespace Payments

def new (programHash recipientProgramHash : Vector UInt8 uint160Size) (fee : Int64)
    (duration : UInt32) (id : UInt64) : Payments :=
  { payer := NanoPay.new programHash recipientProgramHash fee duration id, since := [], sent := [] }

def call (o : Overflow) (p : Payments) (c : PaymentCall) : Outcome String Transaction × NanoPay :=
  increaseAmount o c.getHeight c.id c.attrs c.delta c.fee p.payer

/-- The deltas, with that of the next payment, since its id was drawn. -/
def accepted (p : Payments) (height : UInt32) (delta : UInt64) : List UInt64 :=
  (if p.payer.Draws height then [] else p.since) ++ [delta]

def step (o : Overflow) (p : Payments) (c : PaymentCall) : Option Payments :=
  match c.getHeight, p.call o c with
  | .ok height, (.ok tx, payer) =>
      some { payer, since := p.accepted height c.delta, sent := p.sent ++ (payment tx).toList }
  | _, (.err _, payer) => some { p with payer }
  | _, _ => none

/-- The call fails and leaves the payer as it was, or it returns a transaction for
exactly what was accepted, which expires late enough and is for no less than any
before it under its id. -/
def PaysExactly (o : Overflow) (p : Payments) (c : PaymentCall) : Prop :=
  (∃ e payer, p.call o c = (.err e, payer) ∧ payer.id = p.payer.id ∧
    payer.amount = p.payer.amount ∧ payer.expiration = p.payer.expiration) ∨
  ∃ height tx payer np, c.getHeight = .ok height ∧ p.call o c = (.ok tx, payer) ∧
    payment tx = some np ∧
    np.amount.toInt = total (p.accepted height c.delta) ∧
    height.toNat + senderExpirationDelta.toNat ≤ np.txnExpiration.toNat ∧
    np.nanoPayExpiration.toNat = np.txnExpiration.toNat + p.payer.duration.toNat ∧
    ∀ earlier ∈ p.sent, earlier.id = np.id → earlier.amount.toInt ≤ np.amount.toInt

/-- No sum of a payment of `delta` at `height` leaves its type, and an id that is drawn
again is drawn for a payment of at least as much. -/
structure Bounded (p : Payments) (height : UInt32) (id delta : UInt64) : Prop where
  limit : height.toNat + senderExpirationDelta.toNat < 2 ^ 32
  kept : ¬ p.payer.Draws height → p.payer.amount.toNat + delta.toNat < 2 ^ 63
  drawn : p.payer.Draws height → delta.toNat < 2 ^ 63
  expiration : p.payer.Draws height →
    height.toNat + senderExpirationDelta.toNat + p.payer.duration.toNat < 2 ^ 32
  again : p.payer.Draws height →
    ∀ earlier ∈ p.sent, earlier.id = id → earlier.amount.toInt ≤ delta.toNat

def InBounds (p : Payments) (c : PaymentCall) : Prop :=
  ∀ height, c.getHeight = .ok height → p.Bounded height c.id c.delta

/-- The amount is what was accepted, and no less than what was sent. -/
structure Tracks (p : Payments) : Prop where
  amount : p.payer.amount.toNat = total p.since
  expiration : p.payer.expiration ≠ 0 →
    p.payer.expiration.toNat + p.payer.duration.toNat < 2 ^ 32
  sent : ∀ np ∈ p.sent, np.id = p.payer.id → np.amount.toInt ≤ p.payer.amount.toNat

/-- The payer `payer`, after a payment of `delta` at `height`, has exact sums. -/
structure Exact (p : Payments) (height : UInt32) (delta : UInt64) (payer : NanoPay) : Prop where
  amount : payer.amount.toNat = total (p.accepted height delta)
  bound : payer.amount.toNat < 2 ^ 63
  limit : height.toNat + senderExpirationDelta.toNat ≤ payer.expiration.toNat
  expiration : payer.expiration.toNat + payer.duration.toNat < 2 ^ 32
  sent : ∀ np ∈ p.sent, np.id = payer.id → np.amount.toInt ≤ payer.amount.toNat

end Payments

/-! ## One payment -/

section Payment

open Payments

variable {o : Overflow} {p : Payments} {c : PaymentCall} {height : UInt32} {id delta : UInt64}

/-- The sums under a new id. -/
theorem exact_drawn_iff (hdraws : p.payer.Draws height) :
    p.Exact height delta ((p.payer.renewed height id).paid delta) ↔
      p.Bounded height id delta := by
  have hlast : p.accepted height delta = [delta] := by
    rw [accepted, if_pos hdraws, List.nil_append]
  have hzero : (0 + delta).toNat = delta.toNat := by rw [UInt64.zero_add]
  have hsum (h : height.toNat + senderExpirationDelta.toNat < 2 ^ 32) :
      (height + senderExpirationDelta).toNat = height.toNat + senderExpirationDelta.toNat :=
    UInt32.toNat_add_of_lt h
  rw [renewed_of_draws hdraws]
  constructor
  · intro h
    have hlimit := Nat.lt_of_le_of_lt h.limit (UInt32.toNat_lt _)
    have hbound : (0 + delta).toNat < 2 ^ 63 := h.bound
    have hexpiration : (height + senderExpirationDelta).toNat + p.payer.duration.toNat < 2 ^ 32 :=
      h.expiration
    have hsent : ∀ np ∈ p.sent, np.id = id → np.amount.toInt ≤ (0 + delta).toNat := h.sent
    rw [hzero] at hbound hsent
    rw [hsum hlimit] at hexpiration
    exact ⟨hlimit, fun h => absurd hdraws h, fun _ => hbound, fun _ => hexpiration, fun _ => hsent⟩
  · intro h
    refine ⟨?_, ?_, ?_, ?_, ?_⟩
    · rw [hlast, Deal.total_cons]
      exact hzero
    · show (0 + delta).toNat < 2 ^ 63
      rw [hzero]
      exact h.drawn hdraws
    · exact Nat.le_of_eq (hsum h.limit).symm
    · show (height + senderExpirationDelta).toNat + p.payer.duration.toNat < 2 ^ 32
      rw [hsum h.limit]
      exact h.expiration hdraws
    · show ∀ np ∈ p.sent, np.id = id → np.amount.toInt ≤ (0 + delta).toNat
      rw [hzero]
      exact h.again hdraws

/-- The sums under the id of the last payment. -/
theorem exact_kept_iff (hp : p.Tracks) (hkeeps : ¬ p.payer.Draws height) :
    p.Exact height delta ((p.payer.renewed height id).paid delta) ↔
      p.Bounded height id delta := by
  have hsince : total (p.accepted height delta) = p.payer.amount.toNat + delta.toNat := by
    rw [accepted, if_neg hkeeps, Deal.total_append, ← hp.amount]
    rfl
  have hexpiration : p.payer.expiration ≠ 0 := fun h => hkeeps (Or.inl h)
  rw [renewed_of_not_draws hkeeps]
  constructor
  · intro h
    refine ⟨?_, ?_, ?_, ?_, ?_⟩
    · exact Nat.lt_of_le_of_lt h.limit (UInt32.toNat_lt _)
    · intro _
      rw [← hsince, ← h.amount]
      exact h.bound
    · exact fun hdraws => absurd hdraws hkeeps
    · exact fun hdraws => absurd hdraws hkeeps
    · exact fun hdraws => absurd hdraws hkeeps
  · intro h
    have hfits := h.kept hkeeps
    have hamount : (p.payer.amount + delta).toNat = p.payer.amount.toNat + delta.toNat := by
      rw [UInt64.toNat_add, Nat.mod_eq_of_lt (by omega)]
    have hlater : ¬ p.payer.expiration < height + senderExpirationDelta :=
      fun hlt => hkeeps (Or.inr hlt)
    refine ⟨?_, ?_, ?_, hp.expiration hexpiration, ?_⟩
    · rw [hsince]
      exact hamount
    · show (p.payer.amount + delta).toNat < 2 ^ 63
      rw [hamount]
      exact hfits
    · show height.toNat + senderExpirationDelta.toNat ≤ p.payer.expiration.toNat
      rw [← UInt32.toNat_add_of_lt h.limit]
      exact UInt32.le_iff_toNat_le.mp (UInt32.not_lt.mp hlater)
    · intro np hnp hid
      show np.amount.toInt ≤ (p.payer.amount + delta).toNat
      have hle := hp.sent np hnp hid
      rw [hamount]
      omega

theorem exact_iff (hp : p.Tracks) :
    p.Exact height delta ((p.payer.renewed height id).paid delta) ↔ p.Bounded height id delta := by
  by_cases hdraws : p.payer.Draws height
  · exact exact_drawn_iff hdraws
  · exact exact_kept_iff hp hdraws

theorem toInt_toInt64 {n : UInt64} (h : n.toNat < 2 ^ 63) : n.toInt64.toInt = n.toNat := by
  show n.toBitVec.toInt = n.toNat
  rw [BitVec.toInt_eq_toNat_of_lt]
  · rfl
  · show 2 * n.toNat < 2 ^ 64
    omega

/-- A sum that comes out of the `i64` as it was is below its limit. -/
theorem lt_of_toInt_toInt64 {n : UInt64} {m : Nat} (h : n.toInt64.toInt = m) :
    n.toNat < 2 ^ 63 := by
  by_contra hlarge
  have hint : n.toInt64.toInt = (n.toNat : Int) - 2 ^ 64 := by
    show n.toBitVec.toInt = _
    rw [BitVec.toInt_eq_toNat_cond, if_neg]
    · rfl
    · show ¬ 2 * n.toNat < 2 ^ 64
      omega
  have hlt := n.toNat_lt
  omega

theorem call_error {e : String} (h : c.getHeight = .error e) :
    p.call o c = (.err e, p.payer) := by
  rw [call, h]
  rfl

theorem duration_renewed (s : NanoPay) (height : UInt32) (id : UInt64) :
    (s.renewed height id).duration = s.duration := by
  rw [NanoPay.renewed]
  split <;> rfl

/-- Exact sums fit. -/
theorem Payments.Exact.fits (h : p.Exact height delta ((p.payer.renewed height id).paid delta))
    (hbounded : p.Bounded height id delta) : (p.payer.renewed height id).Fits height delta := by
  refine ⟨hbounded.limit, ?_, h.expiration⟩
  by_cases hdraws : p.payer.Draws height
  · rw [renewed_of_draws hdraws]
    show (0 : UInt64).toNat + delta.toNat < 2 ^ 64
    have hdelta := delta.toNat_lt
    rw [UInt64.toNat_zero]
    omega
  · rw [renewed_of_not_draws hdraws]
    have hkept := hbounded.kept hdraws
    omega

/-- A payment within the bounds returns. -/
theorem call_eq (hp : p.Tracks) (hheight : c.getHeight = .ok height)
    (hbounded : p.Bounded height c.id c.delta) :
    p.call o c = (.ok (((p.payer.renewed height c.id).paid c.delta).transaction c.attrs c.fee),
      (p.payer.renewed height c.id).paid c.delta) := by
  rw [call, hheight]
  exact increaseAmount_eq (((exact_iff hp).mpr hbounded).fits hbounded) c.attrs c.fee

theorem bounded_of_paysExactly (hp : p.Tracks) (h : p.PaysExactly o c) : p.InBounds c := by
  intro height hheight
  rw [← exact_iff hp]
  rcases h with ⟨e, payer, hcall, -⟩ | ⟨height', tx, payer, np, hheight', hcall, hnp, hamount,
    hlimit, hexpiration, hsent⟩
  · rw [call, hheight] at hcall
    exact absurd hcall increaseAmount_ne_err
  · cases hheight.symm.trans hheight'
    rw [call, hheight] at hcall
    obtain ⟨rfl, rfl⟩ := increaseAmount_ok hcall
    rw [payment_transaction] at hnp
    cases hnp
    generalize hpayer : (p.payer.renewed height c.id).paid c.delta = payer at *
    have hduration : payer.duration = p.payer.duration := by
      rw [← hpayer]
      exact duration_renewed p.payer height c.id
    have hbound : payer.amount.toNat < 2 ^ 63 := lt_of_toInt_toInt64 hamount
    have hint : payer.message.amount.toInt = payer.amount.toNat := toInt_toInt64 hbound
    rw [hint] at hamount
    refine ⟨Int.ofNat.inj hamount, hbound, hlimit, ?_, ?_⟩
    · have hsum : payer.message.nanoPayExpiration.toNat =
          payer.expiration.toNat + p.payer.duration.toNat := hexpiration
      rw [hduration, ← hsum]
      exact UInt32.toNat_lt _
    · intro np hnp hid
      rw [← hint]
      exact hsent np hnp hid

theorem paysExactly_of_bounded (hp : p.Tracks) (h : p.InBounds c) : p.PaysExactly o c := by
  cases hheight : c.getHeight with
  | error e => exact Or.inl ⟨e, p.payer, call_error hheight, rfl, rfl, rfl⟩
  | ok height =>
      have hbounded := h height hheight
      have hexact := (exact_iff hp).mpr hbounded
      have hint := toInt_toInt64 hexact.bound
      refine Or.inr ⟨height, _, _, _, hheight, call_eq hp hheight hbounded,
        payment_transaction _ _ _, ?_, hexact.limit, ?_, ?_⟩
      · show ((p.payer.renewed height c.id).paid c.delta).amount.toInt64.toInt = _
        rw [hint, hexact.amount]
      · rw [← duration_renewed p.payer height c.id]
        exact UInt32.toNat_add_of_lt hexact.expiration
      · intro np hnp hid
        show np.amount.toInt ≤ ((p.payer.renewed height c.id).paid c.delta).amount.toInt64.toInt
        rw [hint]
        exact hexact.sent np hnp hid

theorem paysExactly_iff (hp : p.Tracks) : p.PaysExactly o c ↔ p.InBounds c :=
  ⟨bounded_of_paysExactly hp, paysExactly_of_bounded hp⟩

/-! ## A run of payments -/

theorem tracks_step {p' : Payments} (hp : p.Tracks) (h : p.InBounds c)
    (hstep : p.step o c = some p') : p'.Tracks := by
  cases hheight : c.getHeight with
  | error e =>
      rw [step, hheight, call_error hheight] at hstep
      cases hstep
      exact hp
  | ok height =>
      have hbounded := h height hheight
      have hexact := (exact_iff hp).mpr hbounded
      rw [step, hheight, call_eq hp hheight hbounded] at hstep
      cases hstep
      refine ⟨hexact.amount, fun _ => hexact.expiration, ?_⟩
      intro np hnp hid
      rcases List.mem_append.mp hnp with hnp | hnp
      · exact hexact.sent np hnp hid
      · rw [payment_transaction, Option.toList_some, List.mem_singleton] at hnp
        rw [hnp]
        exact Int.le_of_eq (toInt_toInt64 hexact.bound)

theorem tracks_new (programHash recipientProgramHash : Vector UInt8 uint160Size) (fee : Int64)
    (duration : UInt32) (id : UInt64) :
    (Payments.new programHash recipientProgramHash fee duration id).Tracks :=
  ⟨rfl, fun h => absurd rfl h, nofun⟩

end Payment

/-- Every payment of a run is what was accepted exactly if every payment of it stays
within the bounds of the types, at every build. -/
theorem pays_exactly_iff (o : Overflow)
    (programHash recipientProgramHash : Vector UInt8 uint160Size) (fee : Int64) (duration : UInt32)
    (id : UInt64) (calls : List PaymentCall) :
    Run.Meets (Payments.step o) (Payments.PaysExactly o)
        (Payments.new programHash recipientProgramHash fee duration id) calls ↔
      Run.Meets (Payments.step o) Payments.InBounds
        (Payments.new programHash recipientProgramHash fee duration id) calls :=
  Run.meets_iff (I := Payments.Tracks) (fun _ _ hp => paysExactly_iff hp)
    (fun _ _ _ hp hexact => tracks_step hp ((paysExactly_iff hp).mp hexact))
    (tracks_new programHash recipientProgramHash fee duration id) calls

/-- One payment, of `2 ^ 63`. -/
def largeCall : PaymentCall :=
  { getHeight := .ok 10, id := 2, attrs := [], delta := 0x8000000000000000, fee := 0 }

/-- It is handed out as a negative amount, at every build. -/
theorem large_payment_wraps :
    (¬ Run.Meets (Payments.step .checked) (Payments.PaysExactly .checked)
        (Payments.new (Vector.replicate _ 7) (Vector.replicate _ 9) 0 100 1) [largeCall]) ∧
      ¬ Run.Meets (Payments.step .wrapping) (Payments.PaysExactly .wrapping)
        (Payments.new (Vector.replicate _ 7) (Vector.replicate _ 9) 0 100 1) [largeCall] := by
  have hlarge (o : Overflow) : ¬ (Payments.new (Vector.replicate _ 7) (Vector.replicate _ 9) 0
      100 1).PaysExactly o largeCall := by
    intro hexact
    have hbounds := bounded_of_paysExactly (tracks_new _ _ _ _ _) hexact 10 rfl
    exact absurd (hbounds.drawn (Or.inl rfl)) (by decide)
  exact ⟨fun h => hlarge .checked h.1, fun h => hlarge .wrapping h.1⟩

end NknSdk.Nanopay
