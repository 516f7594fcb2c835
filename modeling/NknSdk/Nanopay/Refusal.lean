import NknSdk.Nanopay.History

/-!
# Refused claims

A claim is checked in two parts.  Between them the claimer gives up its id if the
claim is for another one: it flushes, and then forgets the id and starts its amounts
over.  A claim that is refused by the second part has done this already, and nothing
takes it back.

So a refused claim changes nothing, the effects of its flush apart, exactly if it does
not make the claimer give up an id or its second part accepts it
(`refusal_keeps_iff`).
-/

namespace NknSdk.Nanopay

open Exec

/-! ## What a refused claim leaves -/

/-- The fields that a refused claim may not change. -/
structure Unchanged (s s' : World) : Prop where
  id : s'.id = s.id
  amount : s'.amount = s.amount
  prevClaimedAmount : s'.prevClaimedAmount = s.prevClaimedAmount
  prevFlushAmount : s'.prevFlushAmount = s.prevFlushAmount
  expiration : s'.expiration = s.expiration
  tx : s'.tx = s.tx

/-- The claimer has another id than the claim. -/
def OtherId (d : Deps) (tx : Transaction) (s : World) : Prop :=
  ∃ np ∈ d.nanoPay tx, ∃ i ∈ s.id, i ≠ np.id

/-- If the claim is refused, the claimer is as before, or as after the flush in the
claim. -/
def RefusalKeeps (d : Deps) (rpc : Rpc) (tx : Transaction) (s : World) : Prop :=
  ∀ e s', claim d rpc tx s = (.err e, s') →
    ∃ s₁, (s₁ = s ∨ OtherId d tx s ∧ flush d rpc false s = (.ok (), s₁)) ∧ Unchanged s₁ s'

/-! ## When the second part refuses -/

/-- The claim passes the checks before the current id is looked at. -/
structure Readable (d : Deps) (rpc : Rpc) (tx : Transaction) (s : World) (height : UInt32)
    (np : Pb.NanoPay) : Prop where
  answered : rpc.getHeight = .ok height
  message : d.nanoPay tx = some np
  recipient : uint160Size ≤ np.recipient.length ∧
    np.recipient.take uint160Size = s.recipientProgramHash
  verified : d.verify tx height = .ok true
  sender : uint160Size ≤ np.sender.length

/-- The address that pays. -/
def senderAddress (d : Deps) (np : Pb.NanoPay) : String :=
  d.codeHashToAddress (np.sender.take uint160Size)

/-- The claim makes the claimer give up its id. -/
structure GivesUpId (d : Deps) (rpc : Rpc) (tx : Transaction) (s : World) (height : UInt32)
    (np : Pb.NanoPay) : Prop where
  readable : Readable d rpc tx s height np
  opened : s.closed = false
  other : ∃ i ∈ s.id, i ≠ np.id
  flushes : (flush d rpc false s).1 = .ok ()
  fits : FitsI64 (s.prevClaimedAmount.toInt + s.amount.toInt) ∨ d.overflow = .wrapping

/-- The claim has expired, or is about to. -/
def Expired (d : Deps) (height : UInt32) (np : Pb.NanoPay) : Prop :=
  (height.toNat + receiverExpirationDelta.toNat < 2 ^ 32 ∨ d.overflow = .wrapping) ∧
    (np.txnExpiration ≤ height + receiverExpirationDelta ∨
      np.nanoPayExpiration ≤ height + receiverExpirationDelta)

/-- The node reports no balance, or one that does not cover the amount, or the claim
has expired. -/
def Uncovered (d : Deps) (rpc : Rpc) (height : UInt32) (np : Pb.NanoPay) : Prop :=
  (∃ e, rpc.getBalance (senderAddress d np) = .error e) ∨
    ∃ balance, rpc.getBalance (senderAddress d np) = .ok balance ∧
      (balance < np.amount ∨ Expired d height np)

/-- A claim that makes the claimer give up its id is covered. -/
def Settles (d : Deps) (rpc : Rpc) (tx : Transaction) (s : World) : Prop :=
  ∀ height np, GivesUpId d rpc tx s height np → ¬ Uncovered d rpc height np

/-! ## The two parts of a claim -/

section Parts

variable {d : Deps} {rpc : Rpc} {tx : Transaction} {s s' : World} {height : UInt32}
variable {np : Pb.NanoPay} {e : String}

theorem Readable.readClaim (h : Readable d rpc tx s height np) :
    readClaim d rpc tx s = (.ok (height, np, senderAddress d np), s) := by
  obtain ⟨unsignedTx, hunsigned, hmessage⟩ := Option.bind_eq_some_iff.mp h.message
  obtain ⟨payload, hpayload, hmessage⟩ := Option.bind_eq_some_iff.mp hmessage
  split at hmessage
  next htype =>
    rw [Nanopay.readClaim, h.answered, ofExcept_ok, pure_bind, hunsigned, unwrap_some, pure_bind,
      hpayload, unwrap_some, pure_bind, if_pos htype, hmessage, unwrap_some, pure_bind,
      uint160FromBytes_ok h.recipient.1, pure_bind, get_bind_apply,
      if_neg (not_not.mpr h.recipient.2), h.verified, ofExcept_ok, pure_bind, if_neg (by simp),
      uint160FromBytes_ok h.sender, pure_bind]
    rfl
  next => cases hmessage

theorem readable_of_readClaim {address : String}
    (h : readClaim d rpc tx s = (.ok (height, np, address), s')) :
    Readable d rpc tx s height np ∧ address = senderAddress d np := by
  have hmessage := readClaim_ok h
  unfold readClaim at h
  rcases ofExcept_bind_eq h with ⟨_, -, hno, -⟩ | ⟨height', hheight, h₁⟩
  · cases hno
  · obtain ⟨u, -, h₂⟩ := unwrap_bind_eq h₁ (by simp)
    obtain ⟨p, -, h₃⟩ := unwrap_bind_eq h₂ (by simp)
    split at h₃
    next =>
      obtain ⟨np', -, h₄⟩ := unwrap_bind_eq h₃ (by simp)
      obtain ⟨hrecipientLen, h₅⟩ := uint160FromBytes_bind_ok h₄ (by simp)
      rw [get_bind_apply] at h₅
      split at h₅
      next => cases h₅
      next hrecipient =>
        rcases ofExcept_bind_eq h₅ with ⟨_, -, hno, -⟩ | ⟨verified, hverified, h₆⟩
        · cases hno
        · split at h₆
          next => cases h₆
          next hverify =>
            obtain ⟨hsenderLen, h₇⟩ := uint160FromBytes_bind_ok h₆ (by simp)
            cases h₇
            have hverified' : d.verify tx height = .ok true := by
              rw [hverified]
              simpa using hverify
            exact ⟨⟨hheight, hmessage, ⟨hrecipientLen, not_not.mp hrecipient⟩, hverified',
              hsenderLen⟩, rfl⟩
    next => cases h₃

theorem checkFunds_err {address : String} (h : checkFunds d rpc height np address s = (.err e, s'))
    (hflush : s.prevFlushAmount = 0) :
    (∃ e, rpc.getBalance address = .error e) ∨
      ∃ balance, rpc.getBalance address = .ok balance ∧
        (balance < np.amount ∨ Expired d height np) := by
  unfold checkFunds at h
  rcases ofExcept_bind_eq h with ⟨e', he', -, -⟩ | ⟨balance, hbalance, h₁⟩
  · exact Or.inl ⟨e', he'⟩
  · refine Or.inr ⟨balance, hbalance, ?_⟩
    rw [get_bind_apply, hflush] at h₁
    obtain ⟨-, h₂⟩ := arith_bind_eq h₁ (by simp)
    rw [Int64.add_zero] at h₂
    split at h₂
    next hlow => exact Or.inl hlow
    next =>
      obtain ⟨hfits, h₃⟩ := arith_bind_eq h₂ (by simp)
      refine Or.inr ⟨hfits, ?_⟩
      split at h₃
      next htxn => exact Or.inl htxn
      next =>
        split at h₃
        next hnano => exact Or.inr hnano
        next => cases h₃

/-- Where nothing was flushed, what is not covered is refused. -/
theorem checkFunds_of_uncovered (h : Uncovered d rpc height np) (hflush : s.prevFlushAmount = 0) :
    ∃ e, checkFunds d rpc height np (senderAddress d np) s = (.err e, s) := by
  rcases h with ⟨e, he⟩ | ⟨balance, hbalance, hcase⟩
  · exact ⟨e, by rw [checkFunds, he, ofExcept_error, throw_bind, throw_apply]⟩
  · have hsum : FitsI64 (balance.toInt + (0 : Int64).toInt) := by
      have hlt := balance.toInt_lt
      have hle := balance.le_toInt
      rw [Int64.toInt_zero, Int.add_zero]
      unfold FitsI64
      omega
    rw [checkFunds, hbalance, ofExcept_ok, pure_bind, get_bind_apply, hflush, addI64,
      arith_of_fits hsum, pure_bind, Int64.add_zero]
    by_cases hlow : balance < np.amount
    · exact ⟨_, by rw [if_pos hlow, throw_apply]⟩
    · obtain ⟨hfits, hexpired⟩ := hcase.resolve_left hlow
      rw [if_neg hlow, addU32, arith_of_wrapping hfits, pure_bind]
      by_cases htxn : np.txnExpiration ≤ height + receiverExpirationDelta
      · exact ⟨_, by rw [if_pos htxn, throw_apply]⟩
      · exact ⟨_, by rw [if_neg htxn, if_pos (hexpired.resolve_left htxn), throw_apply]⟩

/-- The flush inside a claim leaves the id and the amounts that are folded. -/
theorem flush_ok_fields {s₁ : World} (h : flush d rpc false s = (.ok (), s₁)) :
    s₁.id = s.id ∧ s₁.amount = s.amount ∧ s₁.prevClaimedAmount = s.prevClaimedAmount := by
  rcases flushFn_cases h (by simp) with ⟨rfl, -⟩ | ⟨-, tx, np, -, -, rfl⟩
  · exact ⟨rfl, rfl, rfl⟩
  · exact ⟨rfl, rfl, rfl⟩

/-- A claim that makes the claimer give up its id comes to the second part with the
id forgotten. -/
theorem GivesUpId.enterId (h : GivesUpId d rpc tx s height np) :
    ∃ s₁, flush d rpc false s = (.ok (), s₁) ∧ enterId d rpc np s = (.ok (), s₁.switched) := by
  obtain ⟨i, hid, hother⟩ := h.other
  rcases hflush : flush d rpc false s with ⟨o, s₁⟩
  have ho : o = .ok () := by
    have hflushes := h.flushes
    rw [hflush] at hflushes
    exact hflushes
  subst ho
  obtain ⟨-, hamount, hclaimed⟩ := flush_ok_fields hflush
  have hfits : FitsI64 (s₁.prevClaimedAmount.toInt + s₁.amount.toInt) ∨
      d.overflow = .wrapping := by
    rw [hamount, hclaimed]
    exact h.fits
  refine ⟨s₁, rfl, ?_⟩
  rw [Nanopay.enterId, get_bind_apply, hid]
  dsimp only
  rw [if_neg hother, leaveId, bind_ok hflush, modify_bind_apply, get_bind_apply, addI64,
    arith_of_wrapping hfits, pure_bind]
  rfl

theorem leaveId_fits (h : leaveId d rpc s = (.ok (), s')) :
    FitsI64 (s.prevClaimedAmount.toInt + s.amount.toInt) ∨ d.overflow = .wrapping := by
  obtain ⟨_, s₁, hflush, h₁⟩ := bind_eq_ok h
  obtain ⟨-, hamount, hclaimed⟩ := flush_ok_fields hflush
  rw [modify_bind_apply, get_bind_apply] at h₁
  obtain ⟨hfits, -⟩ := arith_bind_eq h₁ (by simp)
  dsimp only at hfits
  rwa [hamount, hclaimed] at hfits

/-- A claim that comes to its second part is for the current id or the first one, or
makes the claimer give up its id. -/
theorem enterId_cases (h : enterId d rpc np s = (.ok (), s')) :
    s' = s ∨ ∃ i ∈ s.id, i ≠ np.id ∧ (flush d rpc false s).1 = .ok () ∧
      (FitsI64 (s.prevClaimedAmount.toInt + s.amount.toInt) ∨ d.overflow = .wrapping) ∧
        s'.prevFlushAmount = 0 := by
  rcases enterId_ok h with ⟨-, hs⟩ | ⟨-, -, hs⟩ | ⟨i, s₁, hid, hother, hflush, hs⟩
  · exact Or.inl hs
  · exact Or.inl hs
  · refine Or.inr ⟨i, hid, hother, by rw [hflush], ?_, by rw [hs]; rfl⟩
    rw [enterId, get_bind_apply, hid] at h
    dsimp only at h
    rw [if_neg hother] at h
    exact leaveId_fits h

/-- A refused claim changes nothing, or it made the claimer give up its id and was not
covered. -/
theorem claim_err_cases (h : claim d rpc tx s = (.err e, s')) :
    s' = s ∨ ∃ height np, GivesUpId d rpc tx s height np ∧ Uncovered d rpc height np := by
  unfold claim at h
  rcases bind_eq_err h with ⟨⟨height, np, address⟩, s₁, hread, h₁⟩ | hread
  · have hs₁ : s₁ = s := by
      rw [← readClaim_state d rpc tx s, hread]
    subst hs₁
    obtain ⟨hreadable, rfl⟩ := readable_of_readClaim hread
    simp only [get_bind_apply] at h₁
    split at h₁
    next =>
      cases h₁
      exact Or.inl rfl
    next hopen =>
      rcases bind_eq_err h₁ with ⟨_, s₂, henter, h₂⟩ | henter
      · have hfunds : checkFunds d rpc height np (senderAddress d np) s₂ = (.err e, s') := by
          rcases bind_eq_err h₂ with ⟨_, s₃, -, h₃⟩ | hfunds
          · rcases bind_eq_err h₃ with ⟨_, s₄, -, h₄⟩ | hcommit
            · exact absurd rfl ((amount_eq h₄).2 e)
            · cases hcommit
          · exact hfunds
        have hs' : s' = s₂ := by
          rw [← checkFunds_state d rpc height np (senderAddress d np) s₂, hfunds]
        rcases enterId_cases henter with hs₂ | ⟨i, hid, hother, hflushes, hfits, hzero⟩
        · exact Or.inl (hs'.trans hs₂)
        · exact Or.inr ⟨height, np,
            ⟨hreadable, by simpa using hopen, ⟨i, hid, hother⟩, hflushes, hfits⟩,
            checkFunds_err hfunds hzero⟩
      · exact Or.inl (enterId_err henter)
  · left
    rw [← readClaim_state d rpc tx s, hread]

/-- Which claims change nothing when they are refused. -/
theorem refusalKeeps_iff : RefusalKeeps d rpc tx s ↔ Settles d rpc tx s := by
  constructor
  · intro hkeeps height np hgives huncovered
    obtain ⟨s₁, hflush, henter⟩ := hgives.enterId
    have hzero : s₁.switched.prevFlushAmount = 0 := rfl
    obtain ⟨e, hfunds⟩ := checkFunds_of_uncovered huncovered hzero
    have hclaim : claim d rpc tx s = (.err e, s₁.switched) := by
      rw [claim, bind_ok hgives.readable.readClaim]
      dsimp only
      rw [get_bind_apply, if_neg (by simp [hgives.opened]), bind_ok henter, bind_err hfunds]
    obtain ⟨s₂, hs₂, hunchanged⟩ := hkeeps e _ hclaim
    obtain ⟨i, hid, -⟩ := hgives.other
    have hid₂ : s₂.id = s.id := by
      rcases hs₂ with rfl | ⟨-, hflush₂⟩
      · rfl
      · exact (flush_ok_fields hflush₂).1
    have hnone : none = s₂.id := hunchanged.id
    rw [hid₂, hid] at hnone
    cases hnone
  · intro hsettles e s' hclaim
    rcases claim_err_cases hclaim with rfl | ⟨height, np, hgives, huncovered⟩
    · exact ⟨s', Or.inl rfl, ⟨rfl, rfl, rfl, rfl, rfl, rfl⟩⟩
    · exact absurd huncovered (hsettles height np hgives)

end Parts

/-! ## Runs -/

/-- A claim that is refused in this state changes nothing. -/
def Call.RefusalKeeps (d : Deps) (h : History) : Call → Prop
  | .claim rpc tx => Nanopay.RefusalKeeps d rpc tx h.world
  | .flush _ _ => True

def Call.Settles (d : Deps) (h : History) : Call → Prop
  | .claim rpc tx => Nanopay.Settles d rpc tx h.world
  | .flush _ _ => True

/-- In a run from a fresh claimer, no refused claim changes anything exactly if every
claim that makes the claimer give up its id is covered. -/
theorem refusals_keep_iff (d : Deps) (recipientProgramHash : Bytes) (minFlushAmount : Int64)
    (now : Nat) (calls : List Call) :
    Run.Meets (History.step d) (Call.RefusalKeeps d)
        (History.new recipientProgramHash minFlushAmount now) calls ↔
      Run.Meets (History.step d) (Call.Settles d)
        (History.new recipientProgramHash minFlushAmount now) calls := by
  refine Run.meets_iff (I := fun _ => True) ?_ (fun _ _ _ _ _ _ => trivial) trivial calls
  intro h call _
  cases call with
  | claim rpc tx => exact refusalKeeps_iff
  | flush rpc force => exact Iff.rfl

/-- A claim for a second id that its balance does not cover. -/
def uncoveredClaim : List Call :=
  [.claim sampleRpc (sampleTx 1 10), .claim { sampleRpc with getBalance := fun _ => .ok 0 } (sampleTx 2 5)]

/-- The refused claim made the claimer forget its id and fold its amount. -/
theorem uncovered_claim_changes :
    ¬ Run.Meets (History.step sampleDeps) (Call.RefusalKeeps sampleDeps)
      (History.new (List.replicate 20 9) 100 0) uncoveredClaim := by
  rintro ⟨-, hrest⟩
  obtain ⟨hsecond, -⟩ := hrest _ rfl
  obtain ⟨s₁, hs₁, hunchanged⟩ := hsecond _ _ rfl
  have hid : none = s₁.id := hunchanged.id
  have hid₁ : s₁.id = some 1 := by
    rcases hs₁ with rfl | ⟨-, hflush⟩
    · rfl
    · exact (flush_ok_fields hflush).1
  rw [hid₁] at hid
  cases hid

end NknSdk.Nanopay
