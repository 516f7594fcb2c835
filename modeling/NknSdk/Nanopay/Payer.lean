import NknSdk.Nanopay.Claimer

/-!
# The payer

`NanoPay` of `src/nanopay.rs`.  Every payment is a transaction of the sum of all
deltas since the current id was drawn.  A new id is drawn, and the sum starts
over, when the transaction would expire too soon.

The height that the node answers, the id and the attributes that are drawn are
arguments.
-/

namespace NknSdk.Nanopay

open Exec

def senderExpirationDelta : UInt32 := 5

/-- `nanopay::NanoPay`, without the node and the address its owner gave it.  Of the
wallet only the program hash of the account is used. -/
structure NanoPay where
  programHash : Vector UInt8 uint160Size
  recipientProgramHash : Vector UInt8 uint160Size
  fee : Int64
  duration : UInt32
  id : UInt64
  amount : UInt64
  expiration : UInt32

/-- `NanoPay::new`, which draws a first id. -/
def NanoPay.new (programHash recipientProgramHash : Vector UInt8 uint160Size) (fee : Int64)
    (duration : UInt32) (id : UInt64) : NanoPay where
  programHash
  recipientProgramHash
  fee
  duration
  id
  amount := 0
  expiration := 0

/-- The test for a new id. -/
def needsId (o : Overflow) (height : UInt32) : Exec String NanoPay Bool := do
  let s ← get
  if s.expiration = 0 then
    return true
  else
    let limit ← addU32 o height senderExpirationDelta
    return decide (s.expiration < limit)

/-- Start over with the id `id`. -/
def drawId (o : Overflow) (height : UInt32) (id : UInt64) : Exec String NanoPay Unit := do
  let expiration ← addU32 o height senderExpirationDelta
  modify fun s => { s with expiration }
  modify fun s => { s with id }
  modify fun s => { s with amount := 0 }

/-- `NanoPay::increase_amount`. -/
def increaseAmount (o : Overflow) (getHeight : Except String UInt32) (id : UInt64) (attrs : Bytes)
    (delta fee : UInt64) : Exec String NanoPay Transaction := do
  let height ← ofExcept getHeight
  let renew ← needsId o height
  when renew (drawId o height id)
  let s ← get
  let amount ← addU64 o s.amount delta
  modify fun s => { s with amount }
  let nanoPayExpiration ← addU32 o s.expiration s.duration
  let tx := Transaction.newNanopay s.programHash.toList s.recipientProgramHash.toList s.id
    amount.toInt64 s.expiration nanoPayExpiration attrs
  let newFee := if fee = 0 then s.fee.toUInt64 else fee
  let unsignedTx ← unwrap tx.pbTx.unsignedTx
  return { tx with
    pbTx := { tx.pbTx with unsignedTx := some { unsignedTx with fee := newFee.toInt64 } } }

/-! ## What a payment does -/

namespace NanoPay

/-- After a new id was drawn, if one was needed. -/
def renewed (s : NanoPay) (height : UInt32) (id : UInt64) : NanoPay :=
  if s.expiration = 0 ∨ s.expiration < height + senderExpirationDelta then
    { s with expiration := height + senderExpirationDelta, id, amount := 0 }
  else s

/-- A new id is drawn. -/
def Draws (s : NanoPay) (height : UInt32) : Prop :=
  s.expiration = 0 ∨ s.expiration < height + senderExpirationDelta

instance (s : NanoPay) (height : UInt32) : Decidable (s.Draws height) :=
  inferInstanceAs (Decidable (_ ∨ _))

/-- After `delta` more was paid. -/
def paid (s : NanoPay) (delta : UInt64) : NanoPay := { s with amount := s.amount + delta }

/-- The message of the last payment. -/
def message (s : NanoPay) : Pb.NanoPay :=
  newNanopay s.programHash.toList s.recipientProgramHash.toList s.id s.amount.toInt64 s.expiration
    (s.expiration + s.duration)

/-- The transaction of the last payment. -/
def transaction (s : NanoPay) (attrs : Bytes) (fee : UInt64) : Transaction :=
  { pbTx := newMsgTx (packPayload .nanoPayType s.message.encode) 0
      (if fee = 0 then s.fee.toUInt64 else fee).toInt64 attrs }

/-- No sum and no expiration of a payment at `height` overflows. -/
structure Fits (s : NanoPay) (height : UInt32) (delta : UInt64) : Prop where
  limit : height.toNat + senderExpirationDelta.toNat < 2 ^ 32
  amount : s.amount.toNat + delta.toNat < 2 ^ 64
  expiration : s.expiration.toNat + s.duration.toNat < 2 ^ 32

end NanoPay

variable {o : Overflow} {s : NanoPay} {height : UInt32}

theorem renewed_of_draws (h : s.Draws height) (id : UInt64) :
    s.renewed height id =
      { s with expiration := height + senderExpirationDelta, id, amount := 0 } := if_pos h

theorem renewed_of_not_draws (h : ¬ s.Draws height) (id : UInt64) : s.renewed height id = s :=
  if_neg h

theorem needsId_eq (hlimit : height.toNat + senderExpirationDelta.toNat < 2 ^ 32) :
    needsId o height s = (.ok (decide (s.Draws height)), s) := by
  rw [needsId, get_bind_apply]
  by_cases hzero : s.expiration = 0
  · simp [hzero, NanoPay.Draws]
  · rw [if_neg hzero, addU32, arith_of_fits hlimit, pure_bind]
    simp [hzero, NanoPay.Draws]

theorem drawId_eq (hlimit : height.toNat + senderExpirationDelta.toNat < 2 ^ 32) (id : UInt64) :
    drawId o height id s = (.ok (), { s with
      expiration := height + senderExpirationDelta, id, amount := 0 }) := by
  rw [drawId, addU32, arith_of_fits hlimit, pure_bind]
  rfl

theorem renew_eq (hlimit : height.toNat + senderExpirationDelta.toNat < 2 ^ 32) (id : UInt64) :
    (needsId o height >>= fun renew => when renew (drawId o height id)) s =
      (.ok (), s.renewed height id) := by
  rw [bind_ok (needsId_eq hlimit)]
  by_cases hdraws : s.Draws height
  · rw [renewed_of_draws hdraws, when_pos (decide_eq_true hdraws), drawId_eq hlimit]
  · rw [renewed_of_not_draws hdraws, when_neg (by simpa using hdraws)]
    rfl

/-- A payment without overflow goes through. -/
theorem increaseAmount_eq {id : UInt64} {delta : UInt64}
    (hfits : (s.renewed height id).Fits height delta) (attrs : Bytes) (fee : UInt64) :
    increaseAmount o (.ok height) id attrs delta fee s =
      (.ok (((s.renewed height id).paid delta).transaction attrs fee),
        (s.renewed height id).paid delta) := by
  have hrenew := renew_eq (o := o) (s := s) hfits.limit id
  rw [bind_ok (needsId_eq hfits.limit)] at hrenew
  rw [increaseAmount, ofExcept_ok, pure_bind, bind_ok (needsId_eq hfits.limit), bind_ok hrenew,
    get_bind_apply, addU64, arith_of_fits hfits.amount, pure_bind, modify_bind_apply, addU32,
    arith_of_fits hfits.expiration, pure_bind]
  rfl

/-! ## What a payment that returns has done -/

section Returned

variable {s' : NanoPay} {id delta fee : UInt64} {attrs : Bytes}

theorem needsId_ok {renew : Bool} (h : needsId o height s = (.ok renew, s')) :
    s' = s ∧ (renew = true ↔ s.Draws height) := by
  rw [needsId, get_bind_apply] at h
  split at h
  next hzero =>
    cases h
    exact ⟨rfl, by simp [hzero, NanoPay.Draws]⟩
  next hzero =>
    obtain ⟨-, h₁⟩ := arith_bind_eq h (by simp)
    cases h₁
    exact ⟨rfl, by simp [hzero, NanoPay.Draws]⟩

theorem drawId_ok (h : drawId o height id s = (.ok (), s')) :
    s' = { s with expiration := height + senderExpirationDelta, id, amount := 0 } := by
  obtain ⟨-, h₁⟩ := arith_bind_eq h (by simp)
  cases h₁
  rfl

/-- Once the height is known, a payment returns or panics. -/
theorem increaseAmount_ne_err {e : String} :
    increaseAmount o (.ok height) id attrs delta fee s ≠ (.err e, s') := by
  intro h
  rw [increaseAmount, ofExcept_ok, pure_bind] at h
  rcases bind_eq_err h with ⟨renew, s₁, -, h₁⟩ | hneeds
  · rcases bind_eq_err h₁ with ⟨u, s₂, -, h₂⟩ | hdraw
    · rw [get_bind_apply] at h₂
      obtain ⟨-, h₃⟩ := arith_bind_eq h₂ (by simp)
      rw [modify_bind_apply] at h₃
      obtain ⟨-, h₄⟩ := arith_bind_eq h₃ (by simp)
      cases h₄
    · by_cases hr : renew = true
      · rw [when_pos hr] at hdraw
        obtain ⟨-, h₂⟩ := arith_bind_eq hdraw (by simp)
        cases h₂
      · rw [when_neg hr] at hdraw
        cases hdraw
  · rw [needsId, get_bind_apply] at hneeds
    split at hneeds
    next => cases hneeds
    next =>
      obtain ⟨-, h₁⟩ := arith_bind_eq hneeds (by simp)
      cases h₁

/-- A payment that returns has the state and the transaction of its sums, wrapped or not. -/
theorem increaseAmount_ok {tx : Transaction}
    (h : increaseAmount o (.ok height) id attrs delta fee s = (.ok tx, s')) :
    s' = (s.renewed height id).paid delta ∧ tx = s'.transaction attrs fee := by
  rw [increaseAmount, ofExcept_ok, pure_bind] at h
  obtain ⟨renew, s₁, hneeds, h₁⟩ := bind_eq_ok h
  obtain ⟨rfl, hrenew⟩ := needsId_ok hneeds
  obtain ⟨u, s₂, hdraw, h₂⟩ := bind_eq_ok h₁
  have hrenewed : s₂ = s₁.renewed height id := by
    by_cases hr : renew = true
    · rw [when_pos hr] at hdraw
      rw [renewed_of_draws (hrenew.mp hr)]
      exact drawId_ok hdraw
    · rw [when_neg hr] at hdraw
      rw [renewed_of_not_draws fun h => hr (hrenew.mpr h)]
      cases hdraw
      rfl
  subst hrenewed
  rw [get_bind_apply] at h₂
  obtain ⟨-, h₃⟩ := arith_bind_eq h₂ (by simp)
  rw [modify_bind_apply] at h₃
  obtain ⟨-, h₄⟩ := arith_bind_eq h₃ (by simp)
  cases h₄
  exact ⟨rfl, rfl⟩

end Returned

end NknSdk.Nanopay
