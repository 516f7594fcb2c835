import NknSdk.Client.Client
import NknSdk.Lib.Machine

/-!
# Connecting

The loop of `connect` in `src/client.rs`.  It asks for the address of a node, and where
it gets one it opens a websocket.  Without an address it waits and asks again.  A
websocket that is refused does not count as a failed attempt: `connect_to_node` panics
there, as it does where the address of the node is no part of a URL, and it returns
nothing but `Ok`.

The waits are the state of the calls here.  The first is the minimum interval, and from
then on they double up to the maximum interval (`connect_eq`).  Every call of the client
asks for no limit of the number of attempts.
-/

namespace NknSdk

open Exec

/-- The entries of `ClientConfig` that `connect` reads, in milliseconds. -/
structure ConnectConfig where
  minReconnectInterval : UInt64 := 1000
  maxReconnectInterval : UInt64 := 64000

/-- What an attempt comes to. -/
inductive Attempt where
  /-- `get_ws_address` returns an error. -/
  | noAddress
  /-- There is a node, but no websocket. -/
  | refused
  | connected (node : Node)
deriving DecidableEq

/-- The variables of the loop. -/
structure Connecting where
  retry : UInt32
  retryInterval : UInt64
deriving DecidableEq

def Connecting.start (config : ConnectConfig) : Connecting where
  retry := 0
  retryInterval := config.minReconnectInterval

/-- A call that keeps the waits. -/
abbrev ConnectCall (α : Type) : Type := Exec String (List UInt64) α

/-- The wait before an attempt, and the next interval. -/
def waitRetry (o : Overflow) (config : ConnectConfig) (c : Connecting) : ConnectCall UInt64 :=
  if c.retry = 0 then pure c.retryInterval
  else do
    modify fun waits => waits ++ [c.retryInterval]
    let doubled ← mulU64 o c.retryInterval 2
    return if config.maxReconnectInterval < doubled then config.maxReconnectInterval else doubled

/-- A round of the loop: the node, or the variables of the next round. -/
def connectRound (o : Overflow) (config : ConnectConfig) (c : Connecting) (attempt : Attempt) :
    ConnectCall (Node ⊕ Connecting) := do
  let retryInterval ← waitRetry o config c
  match attempt with
  | .connected node => return .inl node
  | .refused => panic
  | .noAddress =>
      let retry ← addU32 o c.retry 1
      return .inr { retry, retryInterval }

/-- There is another attempt. -/
def Connecting.goesOn (maxRetries : UInt32) (c : Connecting) : Prop :=
  maxRetries = 0 ∨ c.retry < maxRetries

instance (maxRetries : UInt32) (c : Connecting) : Decidable (c.goesOn maxRetries) :=
  inferInstanceAs (Decidable (_ ∨ _))

/-- `client::connect`, from the round with the variables `c` on.  After the last of the
attempts it waits for another one. -/
def connect (o : Overflow) (config : ConnectConfig) (maxRetries : UInt32) (c : Connecting)
    (attempts : List Attempt) : ConnectCall Node :=
  if c.goesOn maxRetries then
    match attempts with
    | [] => do
        let _ ← waitRetry o config c
        block
    | attempt :: attempts => do
        match ← connectRound o config c attempt with
        | .inl node => return node
        | .inr c => connect o config maxRetries c attempts
  else throw "connect failed"

/-! ## The waits -/

/-- The wait after `k` others. -/
def backoff (config : ConnectConfig) (k : Nat) : Nat :=
  if k = 0 then config.minReconnectInterval.toNat
  else min config.maxReconnectInterval.toNat (config.minReconnectInterval.toNat * 2 ^ k)

def waits (config : ConnectConfig) (n : Nat) : List UInt64 :=
  (List.range n).map fun k => UInt64.ofNat (backoff config k)

/-- The intervals are not so long that doubling one overflows. -/
structure ConnectConfig.Sane (config : ConnectConfig) : Prop where
  minReconnectInterval : config.minReconnectInterval.toNat < 2 ^ 63
  maxReconnectInterval : config.maxReconnectInterval.toNat < 2 ^ 63

/-- The variables after `n` failed attempts. -/
def Connecting.after (config : ConnectConfig) (n : Nat) : Connecting where
  retry := UInt32.ofNat n
  retryInterval := UInt64.ofNat (backoff config (n - 1))

section Backoff

variable {o : Overflow} {config : ConnectConfig} {maxRetries : UInt32}

theorem waits_succ (n : Nat) :
    waits config (n + 1) = waits config n ++ [UInt64.ofNat (backoff config n)] := by
  rw [waits, List.range_succ, List.map_append]
  rfl

theorem after_zero : Connecting.after config 0 = Connecting.start config := by
  rw [Connecting.after, backoff, if_pos rfl, UInt64.ofNat_toNat]
  rfl

theorem ConnectConfig.Sane.backoff_lt (h : config.Sane) (k : Nat) : backoff config k < 2 ^ 63 := by
  unfold backoff
  split
  next => exact h.minReconnectInterval
  next => exact Nat.lt_of_le_of_lt (Nat.min_le_left _ _) h.maxReconnectInterval

/-- Doubling under the maximum gives the next wait. -/
theorem backoff_succ (k : Nat) :
    backoff config (k + 1) = min config.maxReconnectInterval.toNat (2 * backoff config k) := by
  rw [backoff, if_neg (Nat.succ_ne_zero k), Nat.pow_succ]
  unfold backoff
  split
  next hk =>
    subst hk
    rw [Nat.pow_zero, Nat.one_mul, Nat.mul_comm]
  next =>
    have hdouble : config.minReconnectInterval.toNat * (2 ^ k * 2) =
        2 * (config.minReconnectInterval.toNat * 2 ^ k) := by ring
    rw [hdouble]
    omega

/-- The wait before another attempt, after `n` failed ones. -/
theorem waitRetry_after (h : config.Sane) {n : Nat} (hn : n < 2 ^ 32) :
    waitRetry o config (Connecting.after config n) (waits config (n - 1)) =
      (.ok (UInt64.ofNat (backoff config n)), waits config n) := by
  have hretry : (UInt32.ofNat n = 0) = (n = 0) := by
    rw [← UInt32.toNat_inj, UInt32.toNat_ofNat', Nat.mod_eq_of_lt hn, UInt32.toNat_zero]
  unfold waitRetry Connecting.after
  simp only [hretry]
  cases n with
  | zero => rfl
  | succ n =>
      have hinterval : (UInt64.ofNat (backoff config n)).toNat = backoff config n := by
        rw [UInt64.toNat_ofNat', Nat.mod_eq_of_lt]
        exact Nat.lt_trans (h.backoff_lt n) (by decide)
      have hfits : (UInt64.ofNat (backoff config n)).toNat * (2 : UInt64).toNat < 2 ^ 64 := by
        have hlt := h.backoff_lt n
        rw [hinterval, show (2 : UInt64).toNat = 2 from rfl]
        omega
      have hdoubled : (UInt64.ofNat (backoff config n) * 2).toNat = 2 * backoff config n := by
        rw [UInt64.toNat_mul, Nat.mod_eq_of_lt hfits, hinterval, Nat.mul_comm]
        rfl
      rw [if_neg (Nat.succ_ne_zero n), Nat.add_sub_cancel, modify_bind_apply, mulU64,
        arith_of_fits hfits, Exec.pure_bind, ← waits_succ, pure_apply]
      congr 2
      have hmin : min config.maxReconnectInterval.toNat (2 * backoff config n) < 2 ^ 64 := by
        have hlt := h.maxReconnectInterval
        omega
      rw [← UInt64.toNat_inj, backoff_succ, UInt64.toNat_ofNat', Nat.mod_eq_of_lt hmin]
      split
      next hless =>
        rw [UInt64.lt_iff_toNat_lt, hdoubled] at hless
        omega
      next hless =>
        rw [UInt64.lt_iff_toNat_lt, hdoubled] at hless
        omega

theorem goesOn_after {n : Nat} (hn : n < 2 ^ 32) :
    (Connecting.after config n).goesOn maxRetries ↔ maxRetries = 0 ∨ n < maxRetries.toNat := by
  unfold Connecting.goesOn Connecting.after
  rw [UInt32.lt_iff_toNat_lt, UInt32.toNat_ofNat', Nat.mod_eq_of_lt hn]

/-- A failed attempt. -/
theorem connect_noAddress (h : config.Sane) {n : Nat} (hn : n + 1 < 2 ^ 32)
    (hgoesOn : maxRetries = 0 ∨ n < maxRetries.toNat) (attempts : List Attempt) :
    connect o config maxRetries (Connecting.after config n) (.noAddress :: attempts)
        (waits config (n - 1)) =
      connect o config maxRetries (Connecting.after config (n + 1)) attempts (waits config n) := by
  have hlt : n < 2 ^ 32 := by omega
  have hretry : (Connecting.after config n).retry.toNat = n := by
    rw [Connecting.after, UInt32.toNat_ofNat', Nat.mod_eq_of_lt hlt]
  have hfits : (Connecting.after config n).retry.toNat + (1 : UInt32).toNat < 2 ^ 32 := by
    rw [hretry]
    exact hn
  have hnext : (Connecting.after config n).retry + 1 = UInt32.ofNat (n + 1) := by
    rw [← UInt32.toNat_inj, UInt32.toNat_add_of_lt hfits, hretry, UInt32.toNat_ofNat',
      Nat.mod_eq_of_lt hn]
    rfl
  rw [connect, if_pos ((goesOn_after hlt).mpr hgoesOn), connectRound, Exec.bind_assoc,
    bind_ok (waitRetry_after h hlt)]
  dsimp only
  rw [Exec.bind_assoc, addU32, arith_of_fits hfits, Exec.pure_bind, Exec.pure_bind, hnext]
  rfl

/-- Failed attempts, as long as there is another one. -/
theorem connect_replicate (h : config.Sane) {n : Nat} (hn : n < 2 ^ 32)
    (hgoesOn : maxRetries = 0 ∨ n ≤ maxRetries.toNat) (attempts : List Attempt) :
    connect o config maxRetries (Connecting.start config)
        (List.replicate n .noAddress ++ attempts) [] =
      connect o config maxRetries (Connecting.after config n) attempts (waits config (n - 1)) := by
  induction n generalizing attempts with
  | zero =>
      rw [after_zero]
      rfl
  | succ n ih =>
      rw [List.replicate_succ', List.append_assoc, ih (by omega) (hgoesOn.imp id (by omega)),
        List.singleton_append, connect_noAddress h hn (hgoesOn.imp id (by omega)),
        Nat.add_sub_cancel]

/-- What becomes of `connect` once `get_ws_address` no longer returns an error. -/
def Attempt.outcome : Option Attempt → Outcome String Node
  | some (.connected node) => .ok node
  | some .refused => .panic
  | _ => .block

/-- Where `get_ws_address` returns `n` errors before anything else, `connect` gives up if
that is the limit of its attempts.  Otherwise it has waited `n` times, each time twice as
long up to the maximum, and the next answer settles it. -/
theorem connect_eq (h : config.Sane) {n : Nat} (hn : n < 2 ^ 32) (attempts : List Attempt)
    (hnext : attempts.head? ≠ some .noAddress) :
    connect o config maxRetries (Connecting.start config)
        (List.replicate n .noAddress ++ attempts) [] =
      if maxRetries ≠ 0 ∧ maxRetries.toNat ≤ n then
        (.err "connect failed", waits config (maxRetries.toNat - 1))
      else (Attempt.outcome attempts.head?, waits config n) := by
  split
  next hend =>
    obtain ⟨k, rfl⟩ := Nat.exists_eq_add_of_le hend.2
    have hstop : ¬ (Connecting.after config maxRetries.toNat).goesOn maxRetries := by
      rw [goesOn_after maxRetries.toNat_lt]
      exact fun hgoesOn => hgoesOn.elim hend.1 (Nat.lt_irrefl _)
    rw [← List.replicate_append_replicate, List.append_assoc,
      connect_replicate h maxRetries.toNat_lt (Or.inr (Nat.le_refl _)), connect.eq_def, if_neg hstop]
    rfl
  next hgoesOn =>
    have hleft : maxRetries = 0 ∨ n < maxRetries.toNat := by
      by_contra hno
      exact hgoesOn ⟨fun h => hno (Or.inl h), by omega⟩
    rw [connect_replicate h hn (hleft.imp id Nat.le_of_lt), connect.eq_def,
      if_pos ((goesOn_after hn).mpr hleft)]
    cases attempts with
    | nil => exact bind_ok (waitRetry_after h hn)
    | cons attempt attempts =>
        dsimp only
        rw [connectRound, Exec.bind_assoc, bind_ok (waitRetry_after h hn)]
        cases attempt with
        | noAddress => exact absurd rfl hnext
        | refused => rfl
        | connected node => rfl

end Backoff

/-- A minimum above the maximum is waited once. -/
theorem sample_connect_eq : connect .checked { maxReconnectInterval := 500 } 3
    (Connecting.start { maxReconnectInterval := 500 }) (List.replicate 2 .noAddress ++ [.refused])
      [] = (.panic, [1000, 500]) := by
  have hsane : ConnectConfig.Sane { maxReconnectInterval := 500 } := ⟨by decide, by decide⟩
  exact connect_eq hsane (by decide) [.refused] (by decide)

end NknSdk
