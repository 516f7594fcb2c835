import NknSdk.Nanopay.History

/-!
# The background task of a claimer

`NanoPayClaimer::new` starts a task that flushes what the claims have left.  Once
a minute it looks at the claimer, and where the next claim is not due yet it asks
the node for its height and sleeps until then, or until the kept transaction is
about to expire, whichever is sooner.  The owner goes on claiming meanwhile.

Times and durations are in nanoseconds, times since the epoch.

The blocks that are left are counted with the wrong sign, so that the second
bound of the sleep comes four blocks after the one that is meant, and after the
transaction has expired.  `flush_in_time_iff` says when this does no harm.
-/

namespace NknSdk.Nanopay

open Exec

def forceFlushDelta : UInt32 := 2

/-- The seconds between two blocks. -/
def consensusDuration : UInt32 := 20

/-! ## Durations -/

/-- The nanoseconds of a second. -/
def second : Nat := 1000000000

/-- `Duration::from_millis`. -/
def fromMillis (millis : UInt64) : Nat := millis.toNat * 1000000

/-- `Duration::from_secs`. -/
def fromSecs (secs : UInt64) : Nat := secs.toNat * second

/-- The sum of two durations, whose seconds are a `u64`. -/
def addDurations {ε σ : Type} (a b : Nat) : Exec ε σ Nat := do
  require (a + b < 2 ^ 64 * second)
  return a + b

/-- The difference of two durations. -/
def subDurations {ε σ : Type} (a b : Nat) : Exec ε σ Nat := do
  require (b ≤ a)
  return a - b

/-! ## The loop -/

/-- Where the task stands, named by what it waits for. -/
inductive LoopPc where
  /-- The minute between two passes. -/
  | resting
  /-- The height, with the times that were read before. -/
  | asking (lastClaim now : Nat)
  | sleeping (duration : Nat)
  /-- The next step is `flush_fn`. -/
  | flushing
  | stopped
deriving DecidableEq

/-- A pass from the end of its minute to the next wait. -/
def wake (d : Deps) (claimIntervalMs : UInt64) (now : Nat) : Exec String World LoopPc := do
  let s ← get
  if s.closed then
    return .stopped
  else if s.tx = none then
    return .resting
  else
    let unflushed ← subI64 d.overflow s.amount s.prevFlushAmount
    if unflushed < s.minFlushAmount then
      return .resting
    else
      let due ← addDurations s.lastClaimTime (fromMillis claimIntervalMs)
      return if now < due then .asking s.lastClaimTime now else .flushing

/-- A pass from the answer of the node to the next wait. -/
def answered (d : Deps) (claimIntervalMs : UInt64) (lastClaim now : Nat) :
    Except String UInt32 → Exec String World LoopPc
  | .error _ => return .resting
  | .ok height => do
      let s ← get
      let limit ← addU32 d.overflow height forceFlushDelta
      if limit < s.expiration then
        let due ← addDurations lastClaim (fromMillis claimIntervalMs)
        let duration1 ← subDurations due now
        let left ← subU32 d.overflow s.expiration height
        -- The source adds here what it has to take away.
        let blocks ← addU32 d.overflow left forceFlushDelta
        let secs ← mulU32 d.overflow blocks consensusDuration
        let duration2 := fromSecs secs.toUInt64
        return .sleeping (if duration2 < duration1 then duration2 else duration1)
      else
        return .flushing

/-- A claimer and its background task. -/
structure Background where
  world : World
  pc : LoopPc
deriving DecidableEq

inductive LoopEvent where
  /-- The owner calls `claim` or `flush`. -/
  | owner (call : Call)
  /-- The owner calls `close`. -/
  | close
  /-- The minute is over. -/
  | wake (now : Nat)
  | answer (getHeight : Except String UInt32)
  /-- The sleep is over. -/
  | slept
  | flush (rpc : Rpc)

namespace Background

/-- A fresh claimer, whose task has just been started. -/
def new (recipientProgramHash : Bytes) (minFlushAmount : Int64) (now : Nat) : Background :=
  { world := World.new recipientProgramHash minFlushAmount now, pc := .resting }

/-- Go on with what the pass came to.  A panic has no successor. -/
def goOn (b : Background) (pass : Exec String World LoopPc) : Option Background :=
  match pass b.world with
  | (.ok pc, world) => some { world, pc }
  | _ => none

/-- One step of the task, or a call of the owner in between. -/
def step (d : Deps) (claimIntervalMs : UInt64) (b : Background) : LoopEvent → Option Background
  | .owner (.claim rpc tx) =>
      match claim d rpc tx b.world with
      | (.ok _, world) => some { b with world }
      | (.err _, world) => some { b with world }
      | _ => none
  | .owner (.flush rpc force) =>
      match flush d rpc force b.world with
      | (.ok _, world) => some { b with world }
      | (.err _, world) => some { b with world }
      | _ => none
  | .close => some { b with world := { b.world with closed := true } }
  | .wake now =>
      match b.pc with
      | .resting => b.goOn (Nanopay.wake d claimIntervalMs now)
      | _ => none
  | .answer getHeight =>
      match b.pc with
      | .asking lastClaim now => b.goOn (answered d claimIntervalMs lastClaim now getHeight)
      | _ => none
  | .slept =>
      match b.pc with
      | .sleeping _ => some { b with pc := if b.world.closed then .stopped else .flushing }
      | _ => none
  | .flush rpc =>
      match b.pc with
      | .flushing =>
          match flushFn d rpc false b.world with
          | (.ok _, world) => some { world, pc := .resting }
          | (.err _, world) => some { world, pc := .stopped }
          | _ => none
      | _ => none

end Background

/-! ## When the task asks for the height -/

/-- The next claim is not due yet, and the time when it is can be written down. -/
def Early (claimIntervalMs : UInt64) (lastClaim now : Nat) : Prop :=
  now < lastClaim + fromMillis claimIntervalMs ∧
    lastClaim + fromMillis claimIntervalMs < 2 ^ 64 * second

/-- Where the task asks for the height, the next claim is not due yet. -/
def Background.AsksEarly (claimIntervalMs : UInt64) (b : Background) : Prop :=
  ∀ lastClaim now, b.pc = .asking lastClaim now → Early claimIntervalMs lastClaim now

theorem addDurations_of_lt {ε σ : Type} {a b : Nat} (h : a + b < 2 ^ 64 * second) :
    (addDurations a b : Exec ε σ Nat) = pure (a + b) := by
  rw [addDurations, require_pos h, Exec.pure_bind]

theorem addDurations_ok {ε σ : Type} {a b c : Nat} {s s' : σ}
    (h : (addDurations a b : Exec ε σ Nat) s = (.ok c, s')) :
    c = a + b ∧ a + b < 2 ^ 64 * second := by
  by_cases hfits : a + b < 2 ^ 64 * second
  · rw [addDurations_of_lt hfits] at h
    cases h
    exact ⟨rfl, hfits⟩
  · rw [addDurations, require_neg hfits, panic_bind] at h
    cases h

theorem subDurations_of_le {ε σ : Type} {a b : Nat} (h : b ≤ a) :
    (subDurations a b : Exec ε σ Nat) = pure (a - b) := by
  rw [subDurations, require_pos h, Exec.pure_bind]

section Asking

variable {d : Deps} {claimIntervalMs : UInt64}

theorem wake_early {lastClaim now now' : Nat} {w w' : World}
    (h : wake d claimIntervalMs now w = (.ok (.asking lastClaim now'), w')) :
    Early claimIntervalMs lastClaim now' := by
  unfold wake at h
  rw [get_bind_apply] at h
  split at h
  next => cases h
  next =>
    split at h
    next => cases h
    next =>
      obtain ⟨-, h₁⟩ := arith_bind_eq h (by simp)
      split at h₁
      next => cases h₁
      next =>
        obtain ⟨due, w₁, hadd, h₂⟩ := bind_eq_ok h₁
        obtain ⟨rfl, hfits⟩ := addDurations_ok hadd
        split at h₂
        next hearly =>
          cases h₂
          exact ⟨hearly, hfits⟩
        next => cases h₂

/-- After the height is known, the task does not ask for it again. -/
theorem answered_ne_asking {lastClaim now lastClaim' now' : Nat} {getHeight : Except String UInt32}
    {w w' : World} :
    answered d claimIntervalMs lastClaim now getHeight w ≠ (.ok (.asking lastClaim' now'), w') := by
  intro h
  cases getHeight with
  | error e => cases h
  | ok height =>
      rw [answered, get_bind_apply] at h
      obtain ⟨-, h₁⟩ := arith_bind_eq h (by simp)
      split at h₁
      next =>
        obtain ⟨due, w₁, -, h₂⟩ := bind_eq_ok h₁
        obtain ⟨duration1, w₂, -, h₃⟩ := bind_eq_ok h₂
        obtain ⟨-, h₄⟩ := arith_bind_eq h₃ (by simp)
        obtain ⟨-, h₅⟩ := arith_bind_eq h₄ (by simp)
        obtain ⟨-, h₆⟩ := arith_bind_eq h₅ (by simp)
        cases h₆
      next => cases h₁

/-- The task waits for the height since the last step, or because it has just woken. -/
theorem Background.asking_of_step {b b' : Background} {event : LoopEvent} {lastClaim now : Nat}
    (h : b.step d claimIntervalMs event = some b') (hpc : b'.pc = .asking lastClaim now) :
    b.pc = .asking lastClaim now ∨
      ∃ woken, Nanopay.wake d claimIntervalMs woken b.world =
        (.ok (.asking lastClaim now), b'.world) := by
  cases event with
  | owner call =>
      left
      cases call with
      | claim rpc tx =>
          simp only [step] at h
          split at h
          · cases h; exact hpc
          · cases h; exact hpc
          · cases h
      | flush rpc force =>
          simp only [step] at h
          split at h
          · cases h; exact hpc
          · cases h; exact hpc
          · cases h
  | close =>
      cases h
      exact Or.inl hpc
  | wake woken =>
      simp only [step] at h
      split at h
      next =>
        rw [goOn] at h
        split at h
        next pc world hwake =>
          cases h
          cases hpc
          exact Or.inr ⟨woken, hwake⟩
        next => cases h
      next => cases h
  | answer getHeight =>
      simp only [step] at h
      split at h
      next =>
        rw [goOn] at h
        split at h
        next pc world hanswer =>
          cases h
          cases hpc
          exact absurd hanswer answered_ne_asking
        next => cases h
      next => cases h
  | slept =>
      simp only [step] at h
      split at h
      next =>
        cases h
        dsimp only at hpc
        split at hpc <;> cases hpc
      next => cases h
  | flush rpc =>
      simp only [step] at h
      split at h
      next =>
        split at h
        · cases h; cases hpc
        · cases h; cases hpc
        · cases h
      next => cases h

theorem Background.asksEarly_step {b b' : Background} {event : LoopEvent}
    (hb : b.AsksEarly claimIntervalMs) (h : b.step d claimIntervalMs event = some b') :
    b'.AsksEarly claimIntervalMs := by
  intro lastClaim now hpc
  rcases asking_of_step h hpc with hbefore | ⟨woken, hwake⟩
  · exact hb lastClaim now hbefore
  · exact wake_early hwake

/-- In every run the task asks for the height early. -/
theorem Background.asksEarly_of_run {recipientProgramHash : Bytes} {minFlushAmount : Int64}
    {now : Nat} {events : List LoopEvent} {b : Background}
    (hrun : Run.runFrom (step d claimIntervalMs) (new recipientProgramHash minFlushAmount now)
      events = some b) : b.AsksEarly claimIntervalMs :=
  Run.invariant_of_step (fun _ _ _ => asksEarly_step) (fun _ _ h => by cases h) hrun

end Asking

/-! ## The sleep -/

/-- The seconds, as exact numbers, that bound the sleep. -/
def boundSecs (height expiration : UInt32) : Nat :=
  (expiration.toNat - height.toNat + forceFlushDelta.toNat) * consensusDuration.toNat

/-- The seconds until `forceFlushDelta` blocks are left. -/
def safeSecs (height expiration : UInt32) : Nat :=
  (expiration.toNat - height.toNat - forceFlushDelta.toNat) * consensusDuration.toNat

/-- The time until the next claim is due. -/
def untilDue (claimIntervalMs : UInt64) (lastClaim now : Nat) : Nat :=
  lastClaim + fromMillis claimIntervalMs - now

section Sleep

variable {d : Deps} {claimIntervalMs : UInt64} {lastClaim now : Nat} {height expiration : UInt32}
  {w : World}

theorem safeSecs_lt_boundSecs (height expiration : UInt32) :
    safeSecs height expiration < boundSecs height expiration := by
  have hdelta : forceFlushDelta.toNat = 2 := rfl
  have hduration : consensusDuration.toNat = 20 := rfl
  rw [safeSecs, boundSecs, hdelta, hduration]
  omega

/-- What the task does with a height that leaves more than `forceFlushDelta` blocks. -/
theorem answered_eq (hearly : Early claimIntervalMs lastClaim now)
    (hexpiration : height.toNat + forceFlushDelta.toNat < w.expiration.toNat) :
    answered d claimIntervalMs lastClaim now (.ok height) w =
      (subU32 d.overflow w.expiration height >>= fun left =>
        addU32 d.overflow left forceFlushDelta >>= fun blocks =>
        mulU32 d.overflow blocks consensusDuration >>= fun secs =>
        pure (.sleeping
          (min (secs.toNat * second) (untilDue claimIntervalMs lastClaim now)))) w := by
  have hlimit : height.toNat + forceFlushDelta.toNat < 2 ^ 32 :=
    Nat.lt_trans hexpiration w.expiration.toNat_lt
  have hlater : height + forceFlushDelta < w.expiration := by
    rwa [UInt32.lt_iff_toNat_lt, UInt32.toNat_add_of_lt hlimit]
  rw [answered, get_bind_apply, addU32, arith_of_fits hlimit, Exec.pure_bind, if_pos hlater,
    addDurations_of_lt hearly.2, Exec.pure_bind, subDurations_of_le (Nat.le_of_lt hearly.1),
    Exec.pure_bind]
  simp only [min_def_lt]
  rfl

/-- Where the seconds of the bound are a `u32`, the task sleeps, at every build. -/
theorem answered_sleeps (hearly : Early claimIntervalMs lastClaim now)
    (hexpiration : height.toNat + forceFlushDelta.toNat < w.expiration.toNat)
    (hfits : boundSecs height w.expiration < 2 ^ 32) :
    answered d claimIntervalMs lastClaim now (.ok height) w =
      (.ok (.sleeping (min (boundSecs height w.expiration * second)
        (untilDue claimIntervalMs lastClaim now))), w) := by
  have hle : height.toNat ≤ w.expiration.toNat := by omega
  have hleft : (w.expiration - height).toNat = w.expiration.toNat - height.toNat :=
    UInt32.toNat_sub_of_le _ _ (UInt32.le_iff_toNat_le.mpr hle)
  have hduration : consensusDuration.toNat = 20 := rfl
  have hadd : (w.expiration - height).toNat + forceFlushDelta.toNat < 2 ^ 32 := by
    rw [hleft]
    rw [boundSecs, hduration] at hfits
    omega
  have hblocks : (w.expiration - height + forceFlushDelta).toNat =
      w.expiration.toNat - height.toNat + forceFlushDelta.toNat := by
    rw [UInt32.toNat_add_of_lt hadd, hleft]
  have hmul : (w.expiration - height + forceFlushDelta).toNat * consensusDuration.toNat <
      2 ^ 32 := by
    rwa [hblocks]
  have hsecs : ((w.expiration - height + forceFlushDelta) * consensusDuration).toNat =
      boundSecs height w.expiration := by
    rw [UInt32.toNat_mul, Nat.mod_eq_of_lt hmul, hblocks, boundSecs]
  rw [answered_eq hearly hexpiration, subU32, arith_of_fits hle, Exec.pure_bind, addU32,
    arith_of_fits hadd, Exec.pure_bind, mulU32, arith_of_fits hmul, Exec.pure_bind, hsecs]
  rfl

/-- Where they are not, a build with overflow checks panics. -/
theorem answered_panics (hearly : Early claimIntervalMs lastClaim now)
    (hexpiration : height.toNat + forceFlushDelta.toNat < w.expiration.toNat)
    (hover : ¬ boundSecs height w.expiration < 2 ^ 32) :
    answered { d with overflow := .checked } claimIntervalMs lastClaim now (.ok height) w =
      (.panic, w) := by
  have hle : height.toNat ≤ w.expiration.toNat := by omega
  have hleft : (w.expiration - height).toNat = w.expiration.toNat - height.toNat :=
    UInt32.toNat_sub_of_le _ _ (UInt32.le_iff_toNat_le.mpr hle)
  rw [answered_eq hearly hexpiration, subU32, arith_of_fits hle, Exec.pure_bind, addU32]
  by_cases hadd : (w.expiration - height).toNat + forceFlushDelta.toNat < 2 ^ 32
  · have hmul : ¬ (w.expiration - height + forceFlushDelta).toNat * consensusDuration.toNat <
        2 ^ 32 := by
      rwa [UInt32.toNat_add_of_lt hadd, hleft]
    rw [arith_of_fits hadd, Exec.pure_bind, mulU32, arith_checked hmul]
    rfl
  · rw [arith_checked hadd]
    rfl

end Sleep

/-- With the height, the task goes to sleep in both builds alike, without a panic and
without a wrap, and wakes while `forceFlushDelta` blocks are left. -/
def Background.SleepsInTime (d : Deps) (claimIntervalMs : UInt64) (height : UInt32)
    (b : Background) : Prop :=
  ∃ duration,
    (∀ overflow, b.step { d with overflow } claimIntervalMs (.answer (.ok height)) =
      some { b with pc := .sleeping duration }) ∧
    duration ≤ safeSecs height b.world.expiration * second ∧
    height.toNat + duration / (consensusDuration.toNat * second) + forceFlushDelta.toNat ≤
      b.world.expiration.toNat

/-- The blocks that come during a sleep that is short enough. -/
theorem blocks_le {height expiration : UInt32} {duration : Nat}
    (hexpiration : height.toNat + forceFlushDelta.toNat < expiration.toNat)
    (h : duration ≤ safeSecs height expiration * second) :
    height.toNat + duration / (consensusDuration.toNat * second) + forceFlushDelta.toNat ≤
      expiration.toNat := by
  have hpos : 0 < consensusDuration.toNat * second := by decide
  have hblocks : duration / (consensusDuration.toNat * second) ≤
      expiration.toNat - height.toNat - forceFlushDelta.toNat := by
    refine Nat.div_le_of_le_mul ?_
    rw [safeSecs, Nat.mul_assoc, Nat.mul_comm] at h
    exact h
  omega

/-- The sleep ends in time exactly where its bound does not overflow and the next
claim is due before `forceFlushDelta` blocks are left. -/
theorem flush_in_time_iff (d : Deps) (claimIntervalMs : UInt64) (b : Background)
    (lastClaim now : Nat) (height : UInt32) (hasks : b.pc = .asking lastClaim now)
    (hearly : Early claimIntervalMs lastClaim now)
    (hexpiration : height.toNat + forceFlushDelta.toNat < b.world.expiration.toNat) :
    b.SleepsInTime d claimIntervalMs height ↔
      boundSecs height b.world.expiration < 2 ^ 32 ∧
        untilDue claimIntervalMs lastClaim now ≤
          safeSecs height b.world.expiration * second := by
  constructor
  · rintro ⟨duration, hstep, hsafe, -⟩
    have hchecked := hstep .checked
    simp only [Background.step, hasks, Background.goOn] at hchecked
    by_cases hfits : boundSecs height b.world.expiration < 2 ^ 32
    · rw [answered_sleeps hearly hexpiration hfits] at hchecked
      cases hchecked
      have hbound := safeSecs_lt_boundSecs height b.world.expiration
      have hlonger : safeSecs height b.world.expiration * second <
          boundSecs height b.world.expiration * second :=
        Nat.mul_lt_mul_of_pos_right hbound (by decide)
      exact ⟨hfits, (min_le_iff.mp hsafe).resolve_left (Nat.not_le.mpr hlonger)⟩
    · rw [answered_panics hearly hexpiration hfits] at hchecked
      cases hchecked
  · rintro ⟨hfits, hdue⟩
    have hsafe := (min_le_right (boundSecs height b.world.expiration * second)
      (untilDue claimIntervalMs lastClaim now)).trans hdue
    refine ⟨_, fun overflow => ?_, hsafe, blocks_le hexpiration hsafe⟩
    simp only [Background.step, hasks, Background.goOn]
    rw [answered_sleeps hearly hexpiration hfits]

/-! ## Samples -/

/-- A claimer that has taken one transaction, which expires at block 100, after the
first minute of its task. -/
def sampleBackground : Background where
  world := (World.new (List.replicate 20 9) 0 0).committed (samplePay 1 10) (sampleTx 1 10)
  pc := .asking 0 (60 * second)

/-- At a claim interval of ninety seconds the task wakes after thirty. -/
theorem sample_flush_in_time : sampleBackground.SleepsInTime sampleDeps 90000 13 :=
  (flush_in_time_iff sampleDeps 90000 sampleBackground 0 (60 * second) 13 rfl
    ⟨by decide, by decide⟩ (by decide)).mpr ⟨by decide, by decide⟩

/-- At a claim interval of one hour the transaction is sent two blocks after it has expired. -/
theorem flush_after_expiration :
    (∃ events, Run.runFrom (Background.step sampleDeps 3600000)
        (Background.new (List.replicate 20 9) 0 0) events = some sampleBackground) ∧
      sampleBackground.step sampleDeps 3600000 (.answer (.ok 13)) =
        some { sampleBackground with pc := .sleeping (89 * 20 * second) } ∧
      sampleBackground.world.expiration = 100 ∧
      ¬ sampleBackground.SleepsInTime sampleDeps 3600000 13 := by
  refine ⟨⟨[.owner (.claim sampleRpc (sampleTx 1 10)), .wake (60 * second)], ?_⟩, ?_, rfl, ?_⟩
  · decide +kernel
  · decide +kernel
  · rintro ⟨duration, hstep, hsafe, -⟩
    have hsleeps : sampleBackground.step { sampleDeps with overflow := .checked } 3600000
        (.answer (.ok 13)) = some { sampleBackground with pc := .sleeping (89 * 20 * second) } := by
      decide +kernel
    cases hsleeps.symm.trans (hstep .checked)
    exact absurd hsafe (by decide +kernel)

end NknSdk.Nanopay
