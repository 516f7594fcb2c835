import NknSdk.Lib.Machine
import NknSdk.Tx.Transaction

/-!
# The nanopay claimer

`NanoPayClaimer` of `src/nanopay.rs`.  A payer sends transactions of a growing
cumulative amount under one nanopay id, and the claimer keeps the last one.  A
flush hands the kept transaction to the network.  When the payer moves to a new
id the claimer folds the old amount into `prevClaimedAmount` and starts over.

`World` is a claimer together with the transactions the network has taken from
it.  The code outside the crate is in `Deps`: the decoder of a nanopay message,
the verification of a transaction, which the crate leaves open, and the address
of a program hash.  `Rpc` is what the remote node and the clock answer during
one call.

`claim` is cut at the points where the source reads or writes shared fields:
`readClaim` before any of them, `enterId` for the block on the current id,
`checkFunds` for the balance and the two expirations, and `commit`.  The lemmas
at the end say what a call can do to the claimer (`flushFn_cases`, `enterId_ok`,
`claim_ok`, `claim_err`).
-/

namespace NknSdk.Nanopay

open Exec

/-! ## The claimer and its surroundings -/

/-- `nanopay::NanoPayClaimer`, without the address its owner gave it. -/
structure NanoPayClaimer where
  recipientProgramHash : Bytes
  id : Option UInt64
  minFlushAmount : Int64
  amount : Int64
  closed : Bool
  expiration : UInt32
  lastClaimTime : Nat
  prevClaimedAmount : Int64
  prevFlushAmount : Int64
  tx : Option Transaction
deriving DecidableEq, Repr

/-- A claimer and the transactions sent with success, oldest first. -/
structure World extends NanoPayClaimer where
  sent : List Transaction
deriving DecidableEq, Repr

/-- The code outside the crate and the build. -/
structure Deps where
  overflow : Overflow
  /-- `NanoPay::decode`. -/
  decodeNanoPay : Bytes → Option Pb.NanoPay
  /-- `Transaction::verify`. -/
  verify : Transaction → UInt32 → Except String Bool
  /-- `crypto::code_hash_to_address`. -/
  codeHashToAddress : Bytes → String

/-- The answers of the node, and the time, during one call. -/
structure Rpc where
  /-- `rpc::get_height`. -/
  getHeight : Except String UInt32
  /-- `rpc::get_balance`. -/
  getBalance : String → Except String Int64
  /-- `rpc::send_raw_transaction`. -/
  sendRawTransaction : Transaction → Except String String
  now : Nat

def receiverExpirationDelta : UInt32 := 3

def uint160Size : Nat := 20

/-- `NanoPayClaimer::new`, before its background task has run. -/
def World.new (recipientProgramHash : Bytes) (minFlushAmount : Int64) (now : Nat) : World where
  recipientProgramHash
  id := none
  minFlushAmount
  amount := 0
  closed := false
  expiration := 0
  lastClaimTime := now
  prevClaimedAmount := 0
  prevFlushAmount := 0
  tx := none
  sent := []

/-- `utils::uint160_from_bytes`.  The slice panics on fewer bytes. -/
def uint160FromBytes {ε σ : Type} (bytes : Bytes) : Exec ε σ Bytes := do
  require (uint160Size ≤ bytes.length)
  return bytes.take uint160Size

theorem uint160FromBytes_ok {ε σ : Type} {bytes : Bytes} (h : uint160Size ≤ bytes.length) :
    (uint160FromBytes bytes : Exec ε σ Bytes) = pure (bytes.take uint160Size) := by
  rw [uint160FromBytes, require_pos h, pure_bind]

theorem uint160FromBytes_bind_ok {ε σ α : Type} {bytes : Bytes} {f : Bytes → Exec ε σ α}
    {s s' : σ} {o : Outcome ε α} (h : (uint160FromBytes bytes >>= f) s = (o, s'))
    (ho : o ≠ .panic) :
    uint160Size ≤ bytes.length ∧ f (bytes.take uint160Size) s = (o, s') := by
  by_cases hlen : uint160Size ≤ bytes.length
  · rw [uint160FromBytes_ok hlen, pure_bind] at h
    exact ⟨hlen, h⟩
  · rw [uint160FromBytes, require_neg hlen, panic_bind, panic_bind] at h
    cases h
    exact absurd rfl ho

/-- `NanoPayClaimer::amount`. -/
def amount (d : Deps) : Exec String World Int64 := do
  let s ← get
  addI64 d.overflow s.prevClaimedAmount s.amount

/-! ## Flushing -/

/-- The test that ends a flush early.  A forced flush skips it. -/
def belowThreshold (d : Deps) (force : Bool) : Exec String World Bool := do
  if force then
    return false
  else
    let s ← get
    let unflushed ← subI64 d.overflow s.amount s.prevFlushAmount
    return decide (unflushed < s.minFlushAmount)

/-- The message of the kept transaction.  It is decoded before its type is looked at. -/
def readStored (d : Deps) : Exec String World Pb.NanoPay := do
  let s ← get
  let tx ← unwrap s.tx
  let unsignedTx ← unwrap tx.pbTx.unsignedTx
  let payload ← unwrap unsignedTx.payload
  let np ← unwrap (d.decodeNanoPay (unpackPayload payload))
  if Pb.PayloadType.fromI32 payload.type = some .nanoPayType then
    return np
  else
    throw "not a NanoPay payload"

/-- Send a copy of the kept transaction. -/
def sendStored (rpc : Rpc) : Exec String World Unit := do
  let s ← get
  let tx ← unwrap s.tx
  let _ ← ofExcept (rpc.sendRawTransaction tx)
  modify fun s => { s with sent := s.sent ++ [tx] }

/-- `NanoPayClaimer::flush_fn`. -/
def flushFn (d : Deps) (rpc : Rpc) (force : Bool) : Exec String World Unit := do
  let below ← belowThreshold d force
  if below then
    return ()
  else
    let s ← get
    if s.tx = none then
      return ()
    else
      let np ← readStored d
      sendStored rpc
      modify fun s => { s with tx := none }
      modify fun s => { s with expiration := 0 }
      modify fun s => { s with lastClaimTime := rpc.now }
      modify fun s => { s with prevFlushAmount := np.amount }

/-- `NanoPayClaimer::flush`. -/
def flush (d : Deps) (rpc : Rpc) (force : Bool) : Exec String World Unit := flushFn d rpc force

/-! ## Claiming -/

/-- The part of `claim` before any changing field is read: the height, the
message, its recipient, and the address that pays. -/
def readClaim (d : Deps) (rpc : Rpc) (tx : Transaction) :
    Exec String World (UInt32 × Pb.NanoPay × String) := do
  let height ← ofExcept rpc.getHeight
  let unsignedTx ← unwrap tx.pbTx.unsignedTx
  let payload ← unwrap unsignedTx.payload
  if Pb.PayloadType.fromI32 payload.type = some .nanoPayType then
    let np ← unwrap (d.decodeNanoPay payload.data)
    let recipient ← uint160FromBytes np.recipient
    let s ← get
    if recipient ≠ s.recipientProgramHash then
      throw "wrong recipient"
    else
      let verified ← ofExcept (d.verify tx height)
      if verified = false then
        throw "incorrect transaction"
      else
        let sender ← uint160FromBytes np.sender
        return (height, np, d.codeHashToAddress sender)
  else
    throw "not a NanoPay payload"

/-- The branch of `claim` for a new id: flush the old one and start over. -/
def leaveId (d : Deps) (rpc : Rpc) : Exec String World Unit := do
  flush d rpc false
  modify fun s => { s with id := none }
  let s ← get
  let prevClaimedAmount ← addI64 d.overflow s.prevClaimedAmount s.amount
  modify fun s => { s with prevClaimedAmount }
  modify fun s => { s with prevFlushAmount := 0 }
  modify fun s => { s with amount := 0 }

/-- The block of `claim` on the current id. -/
def enterId (d : Deps) (rpc : Rpc) (np : Pb.NanoPay) : Exec String World Unit := do
  let s ← get
  match s.id with
  | none => return ()
  | some id =>
      if id = np.id then
        if np.amount ≤ s.amount then
          throw "invalid amount"
        else
          return ()
      else
        leaveId d rpc

/-- The balance and expiration checks of `claim`. -/
def checkFunds (d : Deps) (rpc : Rpc) (height : UInt32) (np : Pb.NanoPay)
    (senderAddress : String) : Exec String World Unit := do
  let senderBalance ← ofExcept (rpc.getBalance senderAddress)
  let s ← get
  let funds ← addI64 d.overflow senderBalance s.prevFlushAmount
  if funds < np.amount then
    throw "insufficient balance"
  else
    let deadline ← addU32 d.overflow height receiverExpirationDelta
    if np.txnExpiration ≤ deadline then
      throw "expired nanopay transaction"
    else if np.nanoPayExpiration ≤ deadline then
      throw "expired nanopay"
    else
      return ()

/-- The writes of `claim`. -/
def commit (np : Pb.NanoPay) (tx : Transaction) : Exec String World Unit := do
  modify fun s => { s with id := some np.id }
  modify fun s => { s with tx := some tx }
  modify fun s => { s with expiration := np.txnExpiration }
  modify fun s => { s with amount := np.amount }

/-- `NanoPayClaimer::claim`. -/
def claim (d : Deps) (rpc : Rpc) (tx : Transaction) : Exec String World Int64 := do
  let (height, np, senderAddress) ← readClaim d rpc tx
  let s ← get
  if s.closed then
    throw "nanopay closed"
  else
    enterId d rpc np
    checkFunds d rpc height np senderAddress
    commit np tx
    amount d

/-! ## What a call can do -/

/-- The nanopay message of a transaction, if it has one. -/
def Deps.nanoPay (d : Deps) (tx : Transaction) : Option Pb.NanoPay :=
  tx.pbTx.unsignedTx.bind fun unsignedTx =>
    unsignedTx.payload.bind fun payload =>
      if Pb.PayloadType.fromI32 payload.type = some .nanoPayType then
        d.decodeNanoPay payload.data
      else none

namespace World

/-- After a flush that sent `tx`. -/
def flushed (s : World) (tx : Transaction) (np : Pb.NanoPay) (now : Nat) : World :=
  { s with
    tx := none, expiration := 0, lastClaimTime := now, prevFlushAmount := np.amount
    sent := s.sent ++ [tx] }

/-- After the current id was given up. -/
def switched (s : World) : World :=
  { s with
    id := none, prevClaimedAmount := s.prevClaimedAmount + s.amount
    prevFlushAmount := 0, amount := 0 }

/-- After `tx` was accepted. -/
def committed (s : World) (np : Pb.NanoPay) (tx : Transaction) : World :=
  { s with
    id := some np.id, tx := some tx, expiration := np.txnExpiration, amount := np.amount }

end World

section Specs

variable {d : Deps} {rpc : Rpc} {s s' : World}

/-- Reading the kept transaction changes nothing, and what it reads is the
message of that transaction. -/
theorem readStored_eq {o : Outcome String Pb.NanoPay} (h : readStored d s = (o, s'))
    (ho : o ≠ .panic) :
    s' = s ∧ ∀ np, o = .ok np → ∃ tx, s.tx = some tx ∧ d.nanoPay tx = some np := by
  unfold readStored at h
  rw [get_bind_apply] at h
  obtain ⟨tx, htx, h₁⟩ := unwrap_bind_eq h ho
  obtain ⟨u, hu, h₂⟩ := unwrap_bind_eq h₁ ho
  obtain ⟨p, hp, h₃⟩ := unwrap_bind_eq h₂ ho
  obtain ⟨np, hnp, h₄⟩ := unwrap_bind_eq h₃ ho
  split at h₄
  next htype =>
    cases h₄
    refine ⟨rfl, fun np' hnp' => ⟨tx, htx, ?_⟩⟩
    cases hnp'
    rw [Deps.nanoPay, hu, Option.bind_some, hp, Option.bind_some, if_pos htype]
    exact hnp
  next =>
    cases h₄
    exact ⟨rfl, fun _ h => by cases h⟩

/-- Sending the kept transaction changes the claimer only by recording it. -/
theorem sendStored_eq {o : Outcome String Unit} (h : sendStored rpc s = (o, s'))
    (ho : o ≠ .panic) :
    (s' = s ∧ o ≠ .ok ()) ∨
      (o = .ok () ∧ ∃ tx, s.tx = some tx ∧ s' = { s with sent := s.sent ++ [tx] }) := by
  unfold sendStored at h
  rw [get_bind_apply] at h
  obtain ⟨tx, htx, h₁⟩ := unwrap_bind_eq h ho
  rcases ofExcept_bind_eq h₁ with ⟨e, -, rfl, rfl⟩ | ⟨r, -, h₂⟩
  · exact Or.inl ⟨rfl, by simp⟩
  · cases h₂
    exact Or.inr ⟨rfl, tx, htx, rfl⟩

/-- The threshold test reads the two amounts. -/
theorem belowThreshold_eq {force : Bool} {o : Outcome String Bool}
    (h : belowThreshold d force s = (o, s')) (ho : o ≠ .panic) :
    s' = s ∧ ∃ below, o = .ok below ∧
      (below = true → s.amount - s.prevFlushAmount < s.minFlushAmount) := by
  unfold belowThreshold at h
  split at h
  next =>
    cases h
    exact ⟨rfl, false, rfl, by simp⟩
  next =>
    rw [get_bind_apply] at h
    obtain ⟨-, h₁⟩ := arith_bind_eq h ho
    cases h₁
    exact ⟨rfl, _, rfl, of_decide_eq_true⟩

/-- A flush does nothing, or it sends the kept transaction and forgets it.  It
returns without doing anything only where nothing is kept or where the amount
since the last flush is below the threshold. -/
theorem flushFn_cases {force : Bool} {o : Outcome String Unit}
    (h : flushFn d rpc force s = (o, s')) (ho : o ≠ .panic) :
    (s' = s ∧ (o = .ok () → s.tx = none ∨ s.amount - s.prevFlushAmount < s.minFlushAmount)) ∨
      (o = .ok () ∧ ∃ tx np, s.tx = some tx ∧ d.nanoPay tx = some np ∧
        s' = s.flushed tx np rpc.now) := by
  unfold flushFn at h
  rcases bind_eq h with ⟨below, s₁, hb, h₁⟩ | ⟨o', hb, hfail, -, hpanic⟩
  · obtain ⟨rfl, b, hbelow, hthreshold⟩ := belowThreshold_eq hb (by simp)
    cases hbelow
    split at h₁
    next hbelow => cases h₁; exact Or.inl ⟨rfl, fun _ => Or.inr (hthreshold hbelow)⟩
    next =>
      rw [get_bind_apply] at h₁
      split at h₁
      next hnone => cases h₁; exact Or.inl ⟨rfl, fun _ => Or.inl hnone⟩
      next =>
        rcases bind_eq h₁ with ⟨np, s₂, hread, h₂⟩ | ⟨o', hread, hfail, -, hpanic⟩
        · obtain ⟨rfl, hnp⟩ := readStored_eq hread (by simp)
          obtain ⟨tx, htx, hnp⟩ := hnp np rfl
          rcases bind_eq h₂ with ⟨u, s₃, hsend, h₃⟩ | ⟨o', hsend, hfail, hfail', hpanic⟩
          · rcases sendStored_eq hsend (by simp) with ⟨-, hne⟩ | ⟨-, tx', htx', rfl⟩
            · exact absurd rfl hne
            · cases htx.symm.trans htx'
              cases h₃
              exact Or.inr ⟨rfl, tx, np, htx, hnp, rfl⟩
          · rcases sendStored_eq hsend (hpanic ho) with ⟨rfl, -⟩ | ⟨hok, -⟩
            · exact Or.inl ⟨rfl, fun hok => absurd hok (hfail ())⟩
            · exact absurd hok (hfail' ())
        · obtain ⟨rfl, -⟩ := readStored_eq hread (hpanic ho)
          exact Or.inl ⟨rfl, fun hok => absurd hok (hfail ())⟩
  · obtain ⟨rfl, -⟩ := belowThreshold_eq hb (hpanic ho)
    exact Or.inl ⟨rfl, fun hok => absurd hok (hfail ())⟩

/-- Giving up the current id flushes it and then starts over. -/
theorem leaveId_ok (h : leaveId d rpc s = (.ok (), s')) :
    ∃ s₁, flush d rpc false s = (.ok (), s₁) ∧ s' = s₁.switched := by
  obtain ⟨u, s₁, hflush, h₁⟩ := bind_eq_ok h
  rw [modify_bind_apply, get_bind_apply] at h₁
  obtain ⟨-, h₂⟩ := arith_bind_eq h₁ (by simp)
  cases h₂
  exact ⟨s₁, hflush, rfl⟩

/-- An error while the current id is given up is the flush's, and changes nothing. -/
theorem leaveId_err {e : String} (h : leaveId d rpc s = (.err e, s')) : s' = s := by
  rcases bind_eq_err h with ⟨u, s₁, -, h₁⟩ | hflush
  · rw [modify_bind_apply, get_bind_apply] at h₁
    obtain ⟨-, h₂⟩ := arith_bind_eq h₁ (by simp)
    cases h₂
  · rcases flushFn_cases hflush (by simp) with ⟨hs, -⟩ | ⟨hok, -⟩
    · exact hs
    · cases hok

/-- Entering an id succeeds in three ways: there is no current id, it is the
current id at a larger amount, or the current id is given up after a flush. -/
theorem enterId_ok {np : Pb.NanoPay} (h : enterId d rpc np s = (.ok (), s')) :
    (s.id = none ∧ s' = s) ∨
      (s.id = some np.id ∧ s.amount < np.amount ∧ s' = s) ∨
      ∃ i s₁, s.id = some i ∧ i ≠ np.id ∧ flush d rpc false s = (.ok (), s₁) ∧
        s' = s₁.switched := by
  unfold enterId at h
  rw [get_bind_apply] at h
  cases hid : s.id with
  | none =>
      simp only [hid] at h
      cases h
      exact Or.inl ⟨rfl, rfl⟩
  | some i =>
      simp only [hid] at h
      split at h
      next hi =>
        split at h
        next => cases h
        next hlt =>
          cases h
          exact Or.inr (Or.inl ⟨by rw [hi], Int64.not_le.mp hlt, rfl⟩)
      next hi =>
        obtain ⟨s₁, hflush, hs⟩ := leaveId_ok h
        exact Or.inr (Or.inr ⟨i, s₁, rfl, hi, hflush, hs⟩)

/-- Entering an id that is refused changes nothing. -/
theorem enterId_err {np : Pb.NanoPay} {e : String} (h : enterId d rpc np s = (.err e, s')) :
    s' = s := by
  unfold enterId at h
  rw [get_bind_apply] at h
  cases hid : s.id with
  | none =>
      simp only [hid] at h
      cases h
  | some i =>
      simp only [hid] at h
      split at h
      next =>
        split at h
        next => cases h; rfl
        next => cases h
      next => exact leaveId_err h

/-- The checks on the payer read the claimer and do not change it. -/
theorem checkFunds_state (d : Deps) (rpc : Rpc) (height : UInt32) (np : Pb.NanoPay)
    (address : String) (s : World) : (checkFunds d rpc height np address s).2 = s := by
  refine (?_ : Keeps (· = s) (checkFunds d rpc height np address)) s rfl
  refine keeps_bind (keeps_ofExcept _) fun balance => ?_
  refine keeps_bind keeps_get fun s => ?_
  refine keeps_bind (keeps_arith _ _ _) fun funds => ?_
  refine keeps_ite (keeps_throw _) ?_
  refine keeps_bind (keeps_arith _ _ _) fun deadline => ?_
  exact keeps_ite (keeps_throw _) (keeps_ite (keeps_throw _) (keeps_pure _))

theorem keeps_uint160FromBytes {I : World → Prop} (bytes : Bytes) :
    Keeps I (uint160FromBytes bytes : Exec String World Bytes) :=
  keeps_bind (keeps_require _) fun _ => keeps_pure _

/-- Reading a claim does not change the claimer. -/
theorem readClaim_state (d : Deps) (rpc : Rpc) (tx : Transaction) (s : World) :
    (readClaim d rpc tx s).2 = s := by
  refine (?_ : Keeps (· = s) (readClaim d rpc tx)) s rfl
  refine keeps_bind (keeps_ofExcept _) fun height => ?_
  refine keeps_bind (keeps_unwrap _) fun u => ?_
  refine keeps_bind (keeps_unwrap _) fun p => ?_
  refine keeps_ite ?_ (keeps_throw _)
  refine keeps_bind (keeps_unwrap _) fun np => ?_
  refine keeps_bind (keeps_uint160FromBytes _) fun recipient => ?_
  refine keeps_bind keeps_get fun s => ?_
  refine keeps_ite (keeps_throw _) ?_
  refine keeps_bind (keeps_ofExcept _) fun verified => ?_
  refine keeps_ite (keeps_throw _) ?_
  exact keeps_bind (keeps_uint160FromBytes _) fun sender => keeps_pure _

/-- What is read from a claim is the message of its transaction. -/
theorem readClaim_ok {tx : Transaction} {height : UInt32} {np : Pb.NanoPay} {address : String}
    (h : readClaim d rpc tx s = (.ok (height, np, address), s')) : d.nanoPay tx = some np := by
  unfold readClaim at h
  obtain ⟨_, s₁, -, h₁⟩ := bind_eq_ok h
  obtain ⟨u, hu, h₂⟩ := unwrap_bind_eq h₁ (by simp)
  obtain ⟨p, hp, h₃⟩ := unwrap_bind_eq h₂ (by simp)
  split at h₃
  next htype =>
    obtain ⟨np', hnp, h₄⟩ := unwrap_bind_eq h₃ (by simp)
    obtain ⟨_, s₂, -, h₅⟩ := bind_eq_ok h₄
    rw [get_bind_apply] at h₅
    split at h₅
    next => cases h₅
    next =>
      obtain ⟨_, s₃, -, h₆⟩ := bind_eq_ok h₅
      split at h₆
      next => cases h₆
      next =>
        obtain ⟨_, s₄, -, h₇⟩ := bind_eq_ok h₆
        cases h₇
        rw [Deps.nanoPay, hu, Option.bind_some, hp, Option.bind_some, if_pos htype]
        exact hnp
  next => cases h₃

/-- Reading the claimed amount changes nothing and gives no error. -/
theorem amount_eq {o : Outcome String Int64} (h : amount d s = (o, s')) :
    s' = s ∧ ∀ e, o ≠ .err e := by
  rw [amount, get_bind_apply, addI64, arith] at h
  split at h
  · cases h; exact ⟨rfl, by simp⟩
  · cases h; exact ⟨rfl, by simp⟩

/-- An accepted claim enters the id of its message and keeps its transaction. -/
theorem claim_ok {tx : Transaction} {v : Int64} (h : claim d rpc tx s = (.ok v, s')) :
    ∃ np s₁, d.nanoPay tx = some np ∧ enterId d rpc np s = (.ok (), s₁) ∧
      s' = s₁.committed np tx := by
  unfold claim at h
  obtain ⟨⟨height, np, address⟩, s₁, hread, h₁⟩ := bind_eq_ok h
  have hs₁ : s₁ = s := by
    rw [← readClaim_state d rpc tx s, hread]
  subst hs₁
  simp only [get_bind_apply] at h₁
  split at h₁
  next => cases h₁
  next =>
    obtain ⟨_, s₂, henter, h₂⟩ := bind_eq_ok h₁
    obtain ⟨_, s₃, hfunds, h₃⟩ := bind_eq_ok h₂
    have hs₃ : s₃ = s₂ := by
      rw [← checkFunds_state d rpc height np address s₂, hfunds]
    subst hs₃
    obtain ⟨_, s₄, hcommit, h₄⟩ := bind_eq_ok h₃
    cases hcommit
    exact ⟨np, s₃, readClaim_ok hread, henter, (amount_eq h₄).1⟩

/-- A refused claim changes nothing, or it was refused after it entered its id. -/
theorem claim_err {tx : Transaction} {e : String} (h : claim d rpc tx s = (.err e, s')) :
    s' = s ∨ ∃ np, d.nanoPay tx = some np ∧ enterId d rpc np s = (.ok (), s') := by
  unfold claim at h
  rcases bind_eq_err h with ⟨⟨height, np, address⟩, s₁, hread, h₁⟩ | hread
  · have hs₁ : s₁ = s := by
      rw [← readClaim_state d rpc tx s, hread]
    subst hs₁
    simp only [get_bind_apply] at h₁
    split at h₁
    next => cases h₁; exact Or.inl rfl
    next =>
      rcases bind_eq_err h₁ with ⟨_, s₂, henter, h₂⟩ | henter
      · refine Or.inr ⟨np, readClaim_ok hread, ?_⟩
        rcases bind_eq_err h₂ with ⟨_, s₃, -, h₃⟩ | hfunds
        · rcases bind_eq_err h₃ with ⟨_, s₄, -, h₄⟩ | hcommit
          · exact absurd rfl ((amount_eq h₄).2 e)
          · cases hcommit
        · have hs' : s' = s₂ := by
            rw [← checkFunds_state d rpc height np address s₂, hfunds]
          rw [hs']
          exact henter
      · exact Or.inl (enterId_err henter)
  · left
    rw [← readClaim_state d rpc tx s, hread]

end Specs

/-! ## A payer, its node and its transactions

Concrete surroundings for the runs on fixed inputs below.  The decoder is the
real one at the messages of the sample transactions, and every byte of these
transactions is ASCII, so that they can be sent as text. -/

def samplePay (id : UInt64) (amount : Int64) : Pb.NanoPay :=
  newNanopay (List.replicate 20 7) (List.replicate 20 9) id amount 100 120

def sampleTx (id : UInt64) (amount : Int64) : Transaction :=
  Transaction.newNanopay (List.replicate 20 7) (List.replicate 20 9) id amount 100 120
    (List.replicate 32 0)

def sampleDeps : Deps where
  overflow := .checked
  decodeNanoPay := fun bytes =>
    [samplePay 1 10, samplePay 1 20, samplePay 2 5].find? fun np => np.encode = bytes
  verify := fun _ _ => .ok true
  codeHashToAddress := fun _ => "NKNC8GAJxzr1nmVgdB7zFMaGMDtxksPPSjia"

def sampleRpc : Rpc where
  getHeight := .ok 10
  getBalance := fun _ => .ok 1000000000
  sendRawTransaction := fun _ => .ok "f00d"
  now := 0

end NknSdk.Nanopay
