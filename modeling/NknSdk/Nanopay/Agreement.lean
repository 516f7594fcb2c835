import NknSdk.Lib.Run
import NknSdk.Nanopay.Payer
import NknSdk.Pb.Decode
import Mathlib.Tactic

/-!
# Payer and claimer

A payer creates transactions, and a claimer is given each of them once and in
order.  In between there are flushes.  `Deal` is the two of them with what is on
its way.

A `Position` is where a payer stands: an id, what was paid under earlier ids, and
what was paid under this one.  `Route` says that the payments on their way lead
from the position of the claimer to the position of the payer.  The claimer takes
an id that it does not know for a new one, and adds up what the earlier ids
brought, so it arrives at the same sum (`claim_next`).

The payer gives a transaction five blocks and the claimer wants more than three,
which leaves one block between the two.
-/

namespace NknSdk.Nanopay

open Exec

/-! ## Flushing without a panic -/

section Flush

variable {d : Deps} {s : World}

theorem nanoPay_eq_some {tx : Transaction} {np : Pb.NanoPay} (h : d.nanoPay tx = some np) :
    ∃ unsignedTx payload, tx.pbTx.unsignedTx = some unsignedTx ∧ unsignedTx.payload = some payload ∧
      Pb.PayloadType.fromI32 payload.type = some .nanoPayType ∧
        d.decodeNanoPay payload.data = some np := by
  obtain ⟨unsignedTx, hunsigned, h⟩ := Option.bind_eq_some_iff.mp h
  obtain ⟨payload, hpayload, h⟩ := Option.bind_eq_some_iff.mp h
  split at h
  next htype => exact ⟨unsignedTx, payload, hunsigned, hpayload, htype, h⟩
  next => cases h

theorem belowThreshold_of_fits (hfits : FitsI64 (s.amount.toInt - s.prevFlushAmount.toInt))
    (force : Bool) : ∃ below, belowThreshold d force s = (.ok below, s) := by
  cases force with
  | true => exact ⟨false, rfl⟩
  | false =>
      refine ⟨decide (s.amount - s.prevFlushAmount < s.minFlushAmount), ?_⟩
      rw [belowThreshold, if_neg Bool.false_ne_true, get_bind_apply, subI64, arith_of_fits hfits]
      rfl

theorem readStored_of_nanoPay {tx : Transaction} {np : Pb.NanoPay} (htx : s.tx = some tx)
    (hnp : d.nanoPay tx = some np) : readStored d s = (.ok np, s) := by
  obtain ⟨unsignedTx, payload, hunsigned, hpayload, htype, hdecode⟩ := nanoPay_eq_some hnp
  have hdecode' : d.decodeNanoPay (unpackPayload payload) = some np := hdecode
  rw [readStored, get_bind_apply, htx, unwrap_some, pure_bind, hunsigned, unwrap_some, pure_bind,
    hpayload, unwrap_some, pure_bind, hdecode', unwrap_some, pure_bind, if_pos htype]
  rfl

/-- A flush does nothing, sends the kept transaction, or reports that it could not be
sent. -/
theorem flushFn_of_readable (rpc : Rpc)
    (hstored : ∀ tx, s.tx = some tx → ∃ np, d.nanoPay tx = some np)
    (hfits : FitsI64 (s.amount.toInt - s.prevFlushAmount.toInt)) (force : Bool) :
    flushFn d rpc force s = (.ok (), s) ∨
      ∃ tx np, s.tx = some tx ∧ d.nanoPay tx = some np ∧
        ((∃ r, rpc.sendRawTransaction tx = .ok r) ∧
            flushFn d rpc force s = (.ok (), s.flushed tx np rpc.now) ∨
          ∃ e, rpc.sendRawTransaction tx = .error e ∧ flushFn d rpc force s = (.err e, s)) := by
  obtain ⟨below, hbelow⟩ := belowThreshold_of_fits (d := d) hfits force
  rw [flushFn, bind_ok hbelow]
  cases below with
  | true => exact Or.inl rfl
  | false =>
      rw [if_neg Bool.false_ne_true, get_bind_apply]
      cases htx : s.tx with
      | none => exact Or.inl rfl
      | some tx =>
          obtain ⟨np, hnp⟩ := hstored tx htx
          refine Or.inr ⟨tx, np, rfl, hnp, ?_⟩
          rw [if_neg (Option.some_ne_none tx), bind_ok (readStored_of_nanoPay htx hnp)]
          cases hsend : rpc.sendRawTransaction tx with
          | ok r =>
              refine Or.inl ⟨⟨r, rfl⟩, ?_⟩
              have hsent : sendStored rpc s = (.ok (), { s with sent := s.sent ++ [tx] }) := by
                rw [sendStored, get_bind_apply, htx, unwrap_some, pure_bind, hsend, ofExcept_ok,
                  pure_bind]
                rfl
              rw [bind_ok hsent]
              rfl
          | error e =>
              refine Or.inr ⟨e, rfl, ?_⟩
              have hfailed : sendStored rpc s = (.err e, s) := by
                rw [sendStored, get_bind_apply, htx, unwrap_some, pure_bind, hsend, ofExcept_error,
                  throw_bind]
                rfl
              rw [bind_apply, hfailed]

end Flush

/-! ## Positions -/

/-- Where a payer stands. -/
structure Position where
  id : UInt64
  /-- What was paid under earlier ids. -/
  base : Nat
  /-- What was paid under this one. -/
  amount : Nat

/-- What was paid in all. -/
def Position.due (p : Position) : Nat := p.base + p.amount

/-- Paying `delta` more leads from `p` to `q`. -/
inductive Pays (delta : Nat) (p q : Position) : Prop where
  | sameId (hid : q.id = p.id) (hbase : q.base = p.base) (hamount : q.amount = p.amount + delta)
  | newId (hid : q.id ≠ p.id) (hbase : q.base = p.due) (hamount : q.amount = delta)

theorem Pays.due {delta : Nat} {p q : Position} (h : Pays delta p q) : q.due = p.due + delta := by
  cases h with
  | sameId hid hbase hamount =>
      rw [Position.due, Position.due, hbase, hamount, Nat.add_assoc]
  | newId hid hbase hamount => rw [Position.due, hbase, hamount]

/-- The transaction of the position `q`, created at `height`. -/
structure Carries (d : Deps) (programHash recipientProgramHash : Vector UInt8 uint160Size)
    (q : Position) (tx : Transaction) (height : UInt32) (np : Pb.NanoPay) : Prop where
  message : d.nanoPay tx = some np
  sender : np.sender = programHash.toList
  recipient : np.recipient = recipientProgramHash.toList
  id : np.id = q.id
  amount : np.amount.toInt = q.amount
  txnExpiration : height.toNat + senderExpirationDelta.toNat ≤ np.txnExpiration.toNat
  nanoPayExpiration : np.txnExpiration.toNat ≤ np.nanoPayExpiration.toNat

/-- The claimer has been given the transactions up to the position `p`. -/
structure Holds (d : Deps) (recipientProgramHash : Vector UInt8 uint160Size) (p : Position)
    (w : World) : Prop where
  recipient : w.recipientProgramHash = recipientProgramHash.toList
  opened : w.closed = false
  id : w.id = some p.id ∨ w.id = none ∧ p.due = 0
  amount : w.amount.toInt = p.amount
  base : w.prevClaimedAmount.toInt = p.base
  flushed : 0 ≤ w.prevFlushAmount.toInt ∧ w.prevFlushAmount.toInt ≤ p.amount
  stored : ∀ tx, w.tx = some tx → ∃ np, d.nanoPay tx = some np ∧ np.amount = w.amount

section Claim

variable {d : Deps} {rpc : Rpc} {w : World} {p q : Position} {delta : Nat} {tx : Transaction}
variable {height : UInt32} {np : Pb.NanoPay}
variable {programHash recipientProgramHash : Vector UInt8 uint160Size}

namespace Holds

theorem fits (h : Holds d recipientProgramHash p w) :
    FitsI64 (w.amount.toInt - w.prevFlushAmount.toInt) := by
  have hflushed := h.flushed
  have hamount := h.amount
  have hlt := w.amount.toInt_lt
  unfold FitsI64
  omega

theorem readable (h : Holds d recipientProgramHash p w) (tx : Transaction) (htx : w.tx = some tx) :
    ∃ np, d.nanoPay tx = some np := by
  obtain ⟨np, hnp, -⟩ := h.stored tx htx
  exact ⟨np, hnp⟩

theorem flushedTo (h : Holds d recipientProgramHash p w) (htx : w.tx = some tx)
    (hnp : d.nanoPay tx = some np) (now : Nat) :
    Holds d recipientProgramHash p (w.flushed tx np now) := by
  obtain ⟨np', hnp', hamount⟩ := h.stored tx htx
  rw [hnp] at hnp'
  cases hnp'
  refine ⟨h.recipient, h.opened, h.id, h.amount, h.base, ?_, ?_⟩
  · show 0 ≤ np.amount.toInt ∧ np.amount.toInt ≤ p.amount
    rw [hamount, h.amount]
    exact ⟨Int.natCast_nonneg _, Int.le_refl _⟩
  · intro tx' htx'
    cases htx'

/-- A flush leaves the position, whether it can send or not. -/
theorem flush (h : Holds d recipientProgramHash p w) (rpc : Rpc) (force : Bool) :
    Holds d recipientProgramHash p (flush d rpc force w).2 := by
  rw [Nanopay.flush]
  rcases flushFn_of_readable rpc h.readable h.fits force with
    heq | ⟨tx, np, htx, hnp, ⟨-, heq⟩ | ⟨e, -, heq⟩⟩
  · rw [heq]
    exact h
  · rw [heq]
    exact h.flushedTo htx hnp rpc.now
  · rw [heq]
    exact h

/-- A flush that can send what is kept returns. -/
theorem flush_ok (h : Holds d recipientProgramHash p w)
    (hsend : ∀ tx, w.tx = some tx → ∃ r, rpc.sendRawTransaction tx = .ok r) (force : Bool) :
    ∃ w', Nanopay.flush d rpc force w = (.ok (), w') ∧ Holds d recipientProgramHash p w' := by
  have hkept := h.flush rpc force
  rw [Nanopay.flush] at hkept ⊢
  rcases flushFn_of_readable rpc h.readable h.fits force with
    heq | ⟨tx, np, htx, hnp, ⟨-, heq⟩ | ⟨e, he, heq⟩⟩
  · exact ⟨w, heq, h⟩
  · rw [heq] at hkept
    exact ⟨_, heq, hkept⟩
  · obtain ⟨r, hr⟩ := hsend tx htx
    rw [hr] at he
    cases he

end Holds

/-- What was flushed of the id `id`. -/
def flushedUnder (w : World) (id : UInt64) : Int :=
  if w.id = some id then w.prevFlushAmount.toInt else 0

/-- The answers during a claim: the node is at most one block past the height at
which the transaction was created, the transaction verifies, the balance and what
was flushed of the id cover the amount, and what is kept can be sent. -/
structure ClaimAnswers (d : Deps) (rpc : Rpc) (w : World) (tx : Transaction) (height : UInt32) :
    Prop where
  height : ∃ claimHeight, rpc.getHeight = .ok claimHeight ∧
    claimHeight.toNat ≤ height.toNat + 1 ∧ d.verify tx claimHeight = .ok true
  balance : ∀ np ∈ d.nanoPay tx,
    ∃ balance, rpc.getBalance (d.codeHashToAddress np.sender) = .ok balance ∧
      FitsI64 (balance.toInt + flushedUnder w np.id) ∧
      np.amount.toInt ≤ balance.toInt + flushedUnder w np.id
  send : ∀ tx ∈ w.tx, ∃ r, rpc.sendRawTransaction tx = .ok r

instance decidableExistsOk {ε α : Type} : (x : Except ε α) → Decidable (∃ a, x = .ok a)
  | .ok a => isTrue ⟨a, rfl⟩
  | .error _ => isFalse fun ⟨_, hx⟩ => nomatch hx

instance decidableExistsOkAnd {ε α : Type} (P : α → Prop) [DecidablePred P] :
    (x : Except ε α) → Decidable (∃ a, x = .ok a ∧ P a)
  | .ok a => decidable_of_iff (P a) ⟨fun h => ⟨a, rfl, h⟩, fun ⟨_, hx, h⟩ => Except.ok.inj hx ▸ h⟩
  | .error _ => isFalse fun ⟨_, hx, _⟩ => nomatch hx

instance (d : Deps) (rpc : Rpc) (w : World) (tx : Transaction) (height : UInt32) :
    Decidable (ClaimAnswers d rpc w tx height) :=
  decidable_of_iff (_ ∧ _ ∧ _)
    ⟨fun ⟨height, balance, send⟩ => ⟨height, balance, send⟩, fun h => ⟨h.height, h.balance, h.send⟩⟩

theorem take_uint160 (hash : Vector UInt8 uint160Size) : hash.toList.take uint160Size = hash.toList :=
  List.take_of_length_le (Nat.le_of_eq Vector.length_toList)

theorem uint160FromBytes_toList {ε σ : Type} (hash : Vector UInt8 uint160Size) :
    (uint160FromBytes hash.toList : Exec ε σ Bytes) = pure hash.toList := by
  have hlen : uint160Size ≤ hash.toList.length := Nat.le_of_eq Vector.length_toList.symm
  rw [uint160FromBytes_ok hlen, take_uint160]

theorem readClaim_eq (hcarries : Carries d programHash recipientProgramHash q tx height np)
    (hrecipient : w.recipientProgramHash = recipientProgramHash.toList) {claimHeight : UInt32}
    (hheight : rpc.getHeight = .ok claimHeight) (hverify : d.verify tx claimHeight = .ok true) :
    readClaim d rpc tx w =
      (.ok (claimHeight, np, d.codeHashToAddress programHash.toList), w) := by
  obtain ⟨unsignedTx, payload, hunsigned, hpayload, htype, hdecode⟩ :=
    nanoPay_eq_some hcarries.message
  rw [readClaim, hheight, ofExcept_ok, pure_bind, hunsigned, unwrap_some, pure_bind, hpayload,
    unwrap_some, pure_bind, if_pos htype, hdecode, unwrap_some, pure_bind, hcarries.recipient,
    uint160FromBytes_toList, pure_bind, get_bind_apply, if_neg (by simp [hrecipient]), hverify,
    ofExcept_ok, pure_bind, if_neg (by simp), hcarries.sender, uint160FromBytes_toList, pure_bind]
  rfl

/-- The claimer has entered the id of the position `q`, of which `sent` was flushed
before. -/
structure Entered (recipientProgramHash : Vector UInt8 uint160Size) (q : Position) (sent : Int)
    (w : World) : Prop where
  recipient : w.recipientProgramHash = recipientProgramHash.toList
  opened : w.closed = false
  base : w.prevClaimedAmount.toInt = q.base
  flushed : w.prevFlushAmount.toInt = sent
  small : 0 ≤ sent ∧ sent ≤ q.amount

/-- Giving up the id of `p` for a new one. -/
theorem leaveId_of_holds (h : Holds d recipientProgramHash p w) (hdue : p.due < 2 ^ 63)
    (hbase : q.base = p.due)
    (hsend : ∀ tx, w.tx = some tx → ∃ r, rpc.sendRawTransaction tx = .ok r) :
    ∃ w', leaveId d rpc w = (.ok (), w') ∧ Entered recipientProgramHash q 0 w' := by
  obtain ⟨w₁, hflush, h₁⟩ := h.flush_ok hsend false
  have hsum : w₁.prevClaimedAmount.toInt + w₁.amount.toInt = p.due := by
    rw [h₁.base, h₁.amount, Position.due]
    push_cast
    rfl
  have hfits : FitsI64 (w₁.prevClaimedAmount.toInt + w₁.amount.toInt) := by
    unfold FitsI64
    omega
  refine ⟨w₁.switched, ?_, ?_⟩
  · rw [leaveId, bind_ok hflush, modify_bind_apply, get_bind_apply, addI64, arith_of_fits hfits,
      pure_bind]
    rfl
  · refine ⟨h₁.recipient, h₁.opened, ?_, rfl, Int.le_refl _, Int.natCast_nonneg _⟩
    show (w₁.prevClaimedAmount + w₁.amount).toInt = q.base
    rw [Int64.toInt_add_of_fits hfits, hsum, hbase]

theorem enterId_of_holds (h : Holds d recipientProgramHash p w) (hpays : Pays delta p q)
    (hdelta : 0 < delta) (hdue : q.due < 2 ^ 63) (hid : np.id = q.id)
    (hamount : np.amount.toInt = q.amount)
    (hsend : ∀ tx, w.tx = some tx → ∃ r, rpc.sendRawTransaction tx = .ok r) :
    ∃ w', enterId d rpc np w = (.ok (), w') ∧
      Entered recipientProgramHash q (flushedUnder w np.id) w' := by
  have hdue' := hpays.due
  have hflushed := h.flushed
  rw [enterId, get_bind_apply]
  rcases h.id with hknown | ⟨hnone, hzero⟩
  · by_cases hsame : p.id = np.id
    · -- The payer still pays under the id that the claimer knows.
      cases hpays with
      | newId hnew hbase hpaid => exact absurd (hid.symm.trans hsame.symm) hnew
      | sameId _ hbase hpaid =>
          have hmore : ¬ np.amount ≤ w.amount := by
            rw [Int64.le_iff_toInt_le, hamount, h.amount]
            omega
          refine ⟨w, by simp only [hknown, if_pos hsame, if_neg hmore]; rfl, h.recipient, h.opened,
            ?_, ?_, ?_⟩
          · rw [h.base, hbase]
          · rw [flushedUnder, if_pos (by rw [hknown, hsame])]
          · rw [flushedUnder, if_pos (by rw [hknown, hsame])]
            omega
    · cases hpays with
      | sameId hold hbase hpaid => exact absurd (hold.symm.trans hid.symm) hsame
      | newId _ hbase hpaid =>
          obtain ⟨w', hleave, hentered⟩ := leaveId_of_holds h (by omega) hbase hsend
          refine ⟨w', by simp only [hknown, if_neg hsame]; exact hleave, ?_⟩
          rw [flushedUnder, if_neg (by rw [hknown]; simpa using hsame)]
          exact hentered
  · -- Nothing was claimed before, so the base of every id is zero.
    have hbase : q.base = 0 ∧ p.base = 0 ∧ p.amount = 0 := by
      rw [Position.due] at hzero
      cases hpays with
      | sameId _ hbase _ => omega
      | newId _ hbase _ =>
          rw [Position.due] at hbase
          omega
    refine ⟨w, by simp only [hnone]; rfl, h.recipient, h.opened, ?_, ?_, ?_⟩
    · rw [h.base, hbase.1, hbase.2.1]
    · rw [flushedUnder, if_neg (by simp [hnone])]
      omega
    · rw [flushedUnder, if_neg (by simp [hnone])]
      omega

/-- The margin of the payer is larger than that of the claimer by more than the block
that may lie between them. -/
theorem checkFunds_of_entered {balance : Int64} {sent : Int} {claimHeight : UInt32}
    (hcarries : Carries d programHash recipientProgramHash q tx height np)
    (hentered : Entered recipientProgramHash q sent w)
    (hheight : claimHeight.toNat ≤ height.toNat + 1)
    (hbalance : rpc.getBalance (d.codeHashToAddress programHash.toList) = .ok balance)
    (hfits : FitsI64 (balance.toInt + sent))
    (hcovers : np.amount.toInt ≤ balance.toInt + sent) :
    checkFunds d rpc claimHeight np (d.codeHashToAddress programHash.toList) w = (.ok (), w) := by
  have htxn := hcarries.txnExpiration
  have hnano := hcarries.nanoPayExpiration
  have hlt := np.txnExpiration.toNat_lt
  have hsender : senderExpirationDelta.toNat = 5 := rfl
  have hreceiver : receiverExpirationDelta.toNat = 3 := rfl
  have hdeadline : claimHeight.toNat + receiverExpirationDelta.toNat < 2 ^ 32 := by omega
  rw [← hentered.flushed] at hfits hcovers
  have hfunds : ¬ balance + w.prevFlushAmount < np.amount := by
    rw [Int64.lt_iff_toInt_lt, Int64.toInt_add_of_fits hfits]
    omega
  have hsum : (claimHeight + receiverExpirationDelta).toNat =
      claimHeight.toNat + receiverExpirationDelta.toNat := UInt32.toNat_add_of_lt hdeadline
  have hlive : ¬ np.txnExpiration ≤ claimHeight + receiverExpirationDelta := by
    rw [UInt32.le_iff_toNat_le, hsum]
    omega
  have hlive' : ¬ np.nanoPayExpiration ≤ claimHeight + receiverExpirationDelta := by
    rw [UInt32.le_iff_toNat_le, hsum]
    omega
  rw [checkFunds, hbalance, ofExcept_ok, pure_bind, get_bind_apply, addI64, arith_of_fits hfits,
    pure_bind, if_neg hfunds, addU32, arith_of_fits hdeadline, pure_bind, if_neg hlive,
    if_neg hlive']
  rfl

/-- The claim of the next transaction gives what was paid in all. -/
theorem claim_next (h : Holds d recipientProgramHash p w) (hpays : Pays delta p q)
    (hdelta : 0 < delta) (hdue : q.due < 2 ^ 63)
    (hcarries : Carries d programHash recipientProgramHash q tx height np)
    (hrpc : ClaimAnswers d rpc w tx height) :
    ∃ v w', claim d rpc tx w = (.ok v, w') ∧ v.toInt = q.due ∧
      Holds d recipientProgramHash q w' := by
  obtain ⟨claimHeight, hheight, hle, hverify⟩ := hrpc.height
  obtain ⟨balance, hbalance, hfits, hcovers⟩ := hrpc.balance np hcarries.message
  rw [hcarries.sender] at hbalance
  obtain ⟨w₁, henter, hentered⟩ := enterId_of_holds h hpays hdelta hdue hcarries.id
    hcarries.amount hrpc.send
  have hfunds := checkFunds_of_entered hcarries hentered hle hbalance hfits hcovers
  have hsum : w₁.prevClaimedAmount.toInt + np.amount.toInt = q.due := by
    rw [hentered.base, hcarries.amount, Position.due]
    push_cast
    rfl
  have hsumFits : FitsI64 (w₁.prevClaimedAmount.toInt + np.amount.toInt) := by
    unfold FitsI64
    omega
  refine ⟨w₁.prevClaimedAmount + np.amount, w₁.committed np tx, ?_, ?_, ?_⟩
  · have hcommit : commit np tx w₁ = (.ok (), w₁.committed np tx) := rfl
    have hamount : Nanopay.amount d (w₁.committed np tx) =
        (.ok (w₁.prevClaimedAmount + np.amount), w₁.committed np tx) := by
      rw [Nanopay.amount, get_bind_apply, addI64]
      exact congrFun (arith_of_fits hsumFits _) _
    rw [claim, bind_ok (readClaim_eq hcarries h.recipient hheight hverify)]
    dsimp only
    rw [get_bind_apply, if_neg (by simp [h.opened]), bind_ok henter, bind_ok hfunds,
      bind_ok hcommit, hamount]
  · rw [Int64.toInt_add_of_fits hsumFits, hsum]
  · refine ⟨hentered.recipient, hentered.opened, Or.inl ?_, hcarries.amount, hentered.base, ?_, ?_⟩
    · show some np.id = some q.id
      rw [hcarries.id]
    · show 0 ≤ w₁.prevFlushAmount.toInt ∧ w₁.prevFlushAmount.toInt ≤ q.amount
      rw [hentered.flushed]
      exact hentered.small
    · intro tx' htx'
      cases htx'
      exact ⟨np, hcarries.message, rfl⟩

end Claim

/-! ## The payer -/

/-- The payer stands at the position `p`. -/
structure Stands (programHash recipientProgramHash : Vector UInt8 uint160Size) (p : Position)
    (s : NanoPay) : Prop where
  programHash : s.programHash = programHash
  recipientProgramHash : s.recipientProgramHash = recipientProgramHash
  id : s.id = p.id
  amount : s.amount.toNat = p.amount
  expiration : s.expiration.toNat + s.duration.toNat < 2 ^ 32

section Pay

variable {d : Deps} {programHash recipientProgramHash : Vector UInt8 uint160Size} {p : Position}
variable {s : NanoPay} {height : UInt32} {id delta : UInt64}

/-- The expiration of a payment is at least five blocks away. -/
theorem renewed_expiration (hlimit : height.toNat + senderExpirationDelta.toNat < 2 ^ 32) :
    height.toNat + senderExpirationDelta.toNat ≤ (s.renewed height id).expiration.toNat := by
  have hsum : (height + senderExpirationDelta).toNat =
      height.toNat + senderExpirationDelta.toNat := UInt32.toNat_add_of_lt hlimit
  by_cases hdraws : s.Draws height
  · rw [renewed_of_draws hdraws]
    exact Nat.le_of_eq hsum.symm
  · rw [renewed_of_not_draws hdraws, ← hsum]
    exact UInt32.le_iff_toNat_le.mp (UInt32.not_lt.mp fun h => hdraws (Or.inr h))

/-- Where the payer stands after it has drawn a new id, if it needs one. -/
theorem Stands.renewed (h : Stands programHash recipientProgramHash p s)
    (hnew : id ≠ s.id) (hdue : p.due + delta.toNat < 2 ^ 63)
    (hlimit : height.toNat + senderExpirationDelta.toNat + s.duration.toNat < 2 ^ 32) :
    (s.renewed height id).Fits height delta ∧ ∃ q, Pays delta.toNat p q ∧
      Stands programHash recipientProgramHash q ((s.renewed height id).paid delta) := by
  have hlimit' : height.toNat + senderExpirationDelta.toNat < 2 ^ 32 := by omega
  have hsum : (height + senderExpirationDelta).toNat =
      height.toNat + senderExpirationDelta.toNat := UInt32.toNat_add_of_lt hlimit'
  have hamount := h.amount
  rw [Position.due] at hdue
  by_cases hdraws : s.Draws height
  · rw [renewed_of_draws hdraws]
    refine ⟨⟨hlimit', ?_, ?_⟩, ⟨id, p.due, delta.toNat⟩, Pays.newId ?_ rfl rfl, h.programHash,
      h.recipientProgramHash, rfl, ?_, ?_⟩
    · show (0 : UInt64).toNat + delta.toNat < 2 ^ 64
      rw [UInt64.toNat_zero]
      omega
    · show (height + senderExpirationDelta).toNat + s.duration.toNat < 2 ^ 32
      omega
    · rw [← h.id]
      exact hnew
    · show (0 + delta).toNat = delta.toNat
      rw [UInt64.zero_add]
    · show (height + senderExpirationDelta).toNat + s.duration.toNat < 2 ^ 32
      omega
  · rw [renewed_of_not_draws hdraws]
    refine ⟨⟨hlimit', by omega, h.expiration⟩, ⟨p.id, p.base, p.amount + delta.toNat⟩,
      Pays.sameId rfl rfl rfl, h.programHash, h.recipientProgramHash, h.id, ?_, h.expiration⟩
    show (s.amount + delta).toNat = p.amount + delta.toNat
    rw [UInt64.toNat_add, hamount, Nat.mod_eq_of_lt (by omega)]

/-- The transaction of a payer carries its position. -/
theorem Stands.carries (h : Stands programHash recipientProgramHash p s)
    (hdecode : ∀ np : Pb.NanoPay, d.decodeNanoPay np.encode = some np) (hdue : p.due < 2 ^ 63)
    (hexpiration : height.toNat + senderExpirationDelta.toNat ≤ s.expiration.toNat)
    (attrs : Bytes) (fee : UInt64) :
    Carries d programHash recipientProgramHash p (s.transaction attrs fee) height s.message := by
  have hamount := h.amount
  rw [Position.due] at hdue
  refine ⟨hdecode s.message, ?_, ?_, h.id, ?_, hexpiration, ?_⟩
  · rw [← h.programHash]
    rfl
  · rw [← h.recipientProgramHash]
    rfl
  · show s.amount.toBitVec.toInt = p.amount
    have hnat : s.amount.toBitVec.toNat = p.amount := hamount
    rw [BitVec.toInt_eq_toNat_of_lt (by omega), hnat]
  · show s.expiration.toNat ≤ (s.expiration + s.duration).toNat
    rw [UInt32.toNat_add_of_lt h.expiration]
    exact Nat.le_add_right _ _

end Pay

/-! ## The deal -/

def total (deltas : List UInt64) : Nat := (deltas.map UInt64.toNat).sum

/-- A payer, a claimer, and what is on its way between them. -/
structure Deal where
  payer : NanoPay
  claimer : World
  /-- The transactions that are not claimed yet, with the height at their creation. -/
  pending : List (Transaction × UInt32)
  /-- The deltas of all payments. -/
  deltas : List UInt64
  /-- What the claims have returned. -/
  returned : List (Outcome String Int64)

inductive DealEvent where
  | increase (height : UInt32) (id : UInt64) (attrs : Bytes) (delta fee : UInt64)
  /-- The next transaction is claimed. -/
  | claim (rpc : Rpc)
  | flush (rpc : Rpc) (force : Bool)

namespace Deal

def new (programHash recipientProgramHash : Vector UInt8 uint160Size) (fee : Int64)
    (duration : UInt32) (id : UInt64) (minFlushAmount : Int64) (now : Nat) : Deal where
  payer := NanoPay.new programHash recipientProgramHash fee duration id
  claimer := World.new recipientProgramHash.toList minFlushAmount now
  pending := []
  deltas := []
  returned := []

/-- One event.  A payment that does not return has no successor. -/
def step (d : Deps) (m : Deal) : DealEvent → Option Deal
  | .increase height id attrs delta fee =>
      match increaseAmount d.overflow (.ok height) id attrs delta fee m.payer with
      | (.ok tx, payer) =>
          some { m with
            payer, pending := m.pending ++ [(tx, height)], deltas := m.deltas ++ [delta] }
      | _ => none
  | .claim rpc =>
      match m.pending with
      | [] => some m
      | (tx, _) :: pending =>
          let r := Nanopay.claim d rpc tx m.claimer
          some { m with claimer := r.2, pending, returned := m.returned ++ [r.1] }
  | .flush rpc force => some { m with claimer := (Nanopay.flush d rpc force m.claimer).2 }

/-- A payment of something, at which nothing overflows and which draws an id other
than the one before; a claim at which the node answers. -/
def Allowed (d : Deps) (m : Deal) : DealEvent → Prop
  | .increase height id _ delta _ =>
      0 < delta.toNat ∧ id ≠ m.payer.id ∧ total m.deltas + delta.toNat < 2 ^ 63 ∧
        height.toNat + senderExpirationDelta.toNat + m.payer.duration.toNat < 2 ^ 32
  | .claim rpc => ∀ x ∈ m.pending.head?, ClaimAnswers d rpc m.claimer x.1 x.2
  | .flush _ _ => True

/-! ## Runs -/

/-- The transactions `pending` and their deltas lead from the position `p` to the
position `r`. -/
inductive Route (d : Deps) (programHash recipientProgramHash : Vector UInt8 uint160Size) :
    Position → List (Transaction × UInt32) → List UInt64 → Position → Prop where
  | nil (p : Position) : Route d programHash recipientProgramHash p [] [] p
  | cons {p q r : Position} {tx : Transaction} {height : UInt32} {np : Pb.NanoPay} {delta : UInt64}
      {pending : List (Transaction × UInt32)} {deltas : List UInt64}
      (hpays : Pays delta.toNat p q) (hdelta : 0 < delta.toNat)
      (hcarries : Carries d programHash recipientProgramHash q tx height np)
      (hroute : Route d programHash recipientProgramHash q pending deltas r) :
      Route d programHash recipientProgramHash p ((tx, height) :: pending) (delta :: deltas) r

section Runs

variable {d : Deps} {programHash recipientProgramHash : Vector UInt8 uint160Size}
variable {p q r : Position} {pending : List (Transaction × UInt32)} {deltas : List UInt64}

theorem total_append (xs ys : List UInt64) : total (xs ++ ys) = total xs + total ys := by
  simp [total]

theorem total_cons (x : UInt64) (xs : List UInt64) : total (x :: xs) = x.toNat + total xs := by
  simp [total]

namespace Route

/-- One more payment at the end. -/
theorem snoc {tx : Transaction} {height : UInt32} {np : Pb.NanoPay} {delta : UInt64}
    (h : Route d programHash recipientProgramHash p pending deltas r)
    (hpays : Pays delta.toNat r q) (hdelta : 0 < delta.toNat)
    (hcarries : Carries d programHash recipientProgramHash q tx height np) :
    Route d programHash recipientProgramHash p (pending ++ [(tx, height)]) (deltas ++ [delta]) q := by
  induction h with
  | nil p => exact cons hpays hdelta hcarries (nil q)
  | cons hpays' hdelta' hcarries' hroute ih => exact cons hpays' hdelta' hcarries' (ih hpays)

theorem due (h : Route d programHash recipientProgramHash p pending deltas r) :
    r.due = p.due + total deltas := by
  induction h with
  | nil p => rfl
  | cons hpays hdelta hcarries hroute ih =>
      rw [ih, hpays.due, total_cons, Nat.add_assoc]

end Route

/-- The claimer has been given the payments of the deltas `given`, and those of the
deltas `waiting` lead from its position `p` to the position `r` of the payer. -/
structure OnTrack (d : Deps) (programHash recipientProgramHash : Vector UInt8 uint160Size)
    (given waiting : List UInt64) (p r : Position) (m : Deal) : Prop where
  deltas : m.deltas = given ++ waiting
  count : m.returned.length = given.length
  due : p.due = total given
  route : Route d programHash recipientProgramHash p m.pending waiting r
  claimer : Holds d recipientProgramHash p m.claimer
  payer : Stands programHash recipientProgramHash r m.payer
  bound : total m.deltas < 2 ^ 63
  returned : ∀ k o, m.returned[k]? = some o →
    ∃ v : Int64, o = .ok v ∧ v.toInt = total (m.deltas.take (k + 1))

section Steps

variable {m : Deal} {given waiting : List UInt64}

theorem OnTrack.length_le (h : OnTrack d programHash recipientProgramHash given waiting p r m) :
    m.returned.length ≤ m.deltas.length := by
  rw [h.count, h.deltas, List.length_append]
  exact Nat.le_add_right _ _

theorem step_increase (hdecode : ∀ np : Pb.NanoPay, d.decodeNanoPay np.encode = some np)
    (h : OnTrack d programHash recipientProgramHash given waiting p r m) {height : UInt32}
    {id delta fee : UInt64} {attrs : Bytes}
    (hallowed : Allowed d m (.increase height id attrs delta fee)) :
    ∃ m' q, m.step d (.increase height id attrs delta fee) = some m' ∧
      OnTrack d programHash recipientProgramHash given (waiting ++ [delta]) p q m' := by
  obtain ⟨hdelta, hnew, hbound, hlimit⟩ := hallowed
  have hdue : r.due = total m.deltas := by
    rw [h.route.due, h.due, h.deltas, total_append]
  have hsum : r.due + delta.toNat < 2 ^ 63 := by
    rw [hdue]
    exact hbound
  obtain ⟨hfits, q, hpays, hstands⟩ := h.payer.renewed hnew hsum hlimit
  have hcarries := hstands.carries (d := d) hdecode (by rw [hpays.due]; exact hsum)
    (renewed_expiration hfits.limit) attrs fee
  refine ⟨_, q, by rw [step, increaseAmount_eq hfits], ?_⟩
  refine ⟨?_, h.count, h.due, h.route.snoc hpays hdelta hcarries, h.claimer, hstands, ?_, ?_⟩
  · show m.deltas ++ [delta] = given ++ (waiting ++ [delta])
    rw [h.deltas, List.append_assoc]
  · show total (m.deltas ++ [delta]) < 2 ^ 63
    rw [total_append, total_cons]
    exact hbound
  · intro k o ho
    have hk : k < m.returned.length := (List.getElem?_eq_some_iff.mp ho).1
    have hle := h.length_le
    obtain ⟨v, hv, hsum⟩ := h.returned k o ho
    refine ⟨v, hv, ?_⟩
    show v.toInt = total ((m.deltas ++ [delta]).take (k + 1))
    rw [List.take_append_of_le_length (by omega)]
    exact hsum

theorem step_claim (h : OnTrack d programHash recipientProgramHash given waiting p r m) {rpc : Rpc}
    (hallowed : Allowed d m (.claim rpc)) :
    ∃ m' given' waiting' q, m.step d (.claim rpc) = some m' ∧
      OnTrack d programHash recipientProgramHash given' waiting' q r m' := by
  obtain ⟨payer, claimer, pending, deltas, returned⟩ := m
  obtain ⟨hdeltas, hcount, hdue, hroute, hclaimer, hpayer, hbound, hreturned⟩ := h
  dsimp only at hdeltas hcount hdue hroute hclaimer hpayer hbound hreturned
  cases hroute with
  | nil p => exact ⟨_, given, [], p, rfl, hdeltas, hcount, hdue, .nil p, hclaimer, hpayer, hbound,
      hreturned⟩
  | @cons p q r tx height np delta pending waiting hpays hdelta hcarries hroute =>
      have hgiven : total (given ++ [delta]) = q.due := by
        rw [hpays.due, hdue, total_append, total_cons]
        rfl
      have hq : q.due ≤ total deltas := by
        rw [hdeltas, ← List.singleton_append, ← List.append_assoc, total_append, hgiven]
        exact Nat.le_add_right _ _
      obtain ⟨v, w, hclaim, hv, hholds⟩ := claim_next hclaimer hpays hdelta (by omega) hcarries
        (hallowed (tx, height) rfl)
      refine ⟨_, given ++ [delta], waiting, q, rfl, ?_, ?_, hgiven.symm, hroute, ?_, hpayer, hbound,
        ?_⟩
      · rw [hdeltas]
        simp
      · simp [hcount]
      · rw [hclaim]
        exact hholds
      · intro k o ho
        rw [hclaim] at ho
        by_cases hk : k < returned.length
        · rw [List.getElem?_append_left hk] at ho
          exact hreturned k o ho
        · have hlast : k = returned.length := by
            have hlt : k < returned.length + 1 := by
              simpa using (List.getElem?_eq_some_iff.mp ho).1
            omega
          subst hlast
          rw [List.getElem?_concat_length] at ho
          cases ho
          refine ⟨v, rfl, ?_⟩
          have htake : deltas.take (returned.length + 1) = given ++ [delta] := by
            rw [hdeltas, hcount, ← List.singleton_append, ← List.append_assoc]
            exact List.take_left' (by simp)
          rw [htake, hgiven, hv]

theorem step_flush (h : OnTrack d programHash recipientProgramHash given waiting p r m) (rpc : Rpc)
    (force : Bool) : ∃ m', m.step d (.flush rpc force) = some m' ∧
      OnTrack d programHash recipientProgramHash given waiting p r m' :=
  ⟨_, rfl, h.deltas, h.count, h.due, h.route, h.claimer.flush rpc force, h.payer, h.bound,
    h.returned⟩

end Steps

theorem onTrack_new (fee : Int64) {duration : UInt32} (id : UInt64) (minFlushAmount : Int64)
    (now : Nat) :
    OnTrack d programHash recipientProgramHash [] [] ⟨id, 0, 0⟩ ⟨id, 0, 0⟩
      (new programHash recipientProgramHash fee duration id minFlushAmount now) where
  deltas := rfl
  count := rfl
  due := rfl
  route := .nil _
  claimer := ⟨rfl, rfl, Or.inr ⟨rfl, rfl⟩, rfl, rfl, ⟨Int.le_refl _, Int.le_refl _⟩,
    fun tx htx => by cases htx⟩
  payer := by
    refine ⟨rfl, rfl, rfl, rfl, ?_⟩
    show (0 : UInt32).toNat + duration.toNat < 2 ^ 32
    have hlt := duration.toNat_lt
    rw [UInt32.toNat_zero]
    omega
  bound := by
    show total [] < 2 ^ 63
    decide
  returned k o ho := by cases ho

end Runs

/-- Every claim returns, and the value of the `k`-th is the sum of the first `k`
deltas. -/
theorem claims_agree (d : Deps) (hdecode : ∀ np : Pb.NanoPay, d.decodeNanoPay np.encode = some np)
    (programHash recipientProgramHash : Vector UInt8 uint160Size) (fee : Int64) (duration : UInt32)
    (id : UInt64) (minFlushAmount : Int64) (now : Nat) (events : List DealEvent)
    (hallowed : Run.Meets (step d) (Allowed d)
      (new programHash recipientProgramHash fee duration id minFlushAmount now) events) :
    ∃ m, Run.runFrom (step d)
        (new programHash recipientProgramHash fee duration id minFlushAmount now) events = some m ∧
      ∀ k o, m.returned[k]? = some o →
        ∃ v : Int64, o = .ok v ∧ v.toInt = total (m.deltas.take (k + 1)) := by
  obtain ⟨m, hrun, given, waiting, p, r, htrack⟩ := Run.total_of_meets
    (I := fun m => ∃ given waiting p r,
      OnTrack d programHash recipientProgramHash given waiting p r m)
    (by
      rintro m e ⟨given, waiting, p, r, h⟩ hallowed
      cases e with
      | increase height id attrs delta fee =>
          obtain ⟨m', q, hs, h'⟩ := step_increase hdecode h hallowed
          exact ⟨m', hs, given, _, p, q, h'⟩
      | claim rpc =>
          obtain ⟨m', given', waiting', q, hs, h'⟩ := step_claim h hallowed
          exact ⟨m', hs, given', waiting', q, r, h'⟩
      | flush rpc force =>
          obtain ⟨m', hs, h'⟩ := step_flush h rpc force
          exact ⟨m', hs, given, waiting, p, r, h'⟩)
    ⟨[], [], _, _, onTrack_new fee id minFlushAmount now⟩ hallowed
  exact ⟨m, hrun, htrack.returned⟩

/-! ## A payer whose id expires -/

def sampleDeal : Deal :=
  new (Vector.replicate _ 7) (Vector.replicate _ 9) 1 20 1 5 0

def sampleDealDeps : Deps := { sampleDeps with decodeNanoPay := Pb.NanoPay.decode }

/-- Three payments, the last of them twenty blocks after the others. -/
def sampleEvents : List DealEvent :=
  [.increase 10 2 [] 10 0, .increase 10 3 [] 5 0, .claim sampleRpc, .flush sampleRpc true,
    .claim sampleRpc, .increase 30 4 [] 7 0, .claim { sampleRpc with getHeight := .ok 31 }]

instance (d : Deps) (m : Deal) : (e : DealEvent) → Decidable (Allowed d m e)
  | .increase .. => inferInstanceAs (Decidable (_ ∧ _))
  | .claim _ => inferInstanceAs (Decidable (∀ _ ∈ _, _))
  | .flush .. => isTrue trivial

theorem sample_claims_agree :
    ∃ m, Run.runFrom (step sampleDealDeps) sampleDeal sampleEvents = some m ∧
      ∀ k o, m.returned[k]? = some o →
        ∃ v : Int64, o = .ok v ∧ v.toInt = total (m.deltas.take (k + 1)) :=
  claims_agree sampleDealDeps Pb.NanoPay.decode_encode (Vector.replicate _ 7) (Vector.replicate _ 9) 1
    20 1 5 0 sampleEvents (by decide +kernel)

example : (Run.runFrom (step sampleDealDeps) sampleDeal sampleEvents).map (·.returned) =
    some [.ok 10, .ok 15, .ok 22] := by decide +kernel

end Deal

end NknSdk.Nanopay
