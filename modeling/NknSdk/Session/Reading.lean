import NknSdk.Session.Runs

/-!
# What a read returns

A read should hand over the data at the start of the receive window, wait where
there is none, and refuse a buffer that is too small for a packet.  The test of its
loop is the wrong way round: with data there it leaves the loop at once with nothing
read (`read_of_held`), and without it waits for a second and takes what is not there
(`read_of_missing`).  What remains of the contract is the refusal
(`reads_next_iff`).
-/

namespace NknSdk.Ncp

open Exec

/-! ## The contract -/

/-- The data at the start of the receive window. -/
def Session.nextData (s : Session) : Option Bytes := s.recvWindowData.lookup s.recvWindowStartSeq

/-- The session `s'` is `s` after the packet with `data` was taken out. -/
structure Session.Taken (s : Session) (data : Bytes) (s' : Session) : Prop where
  recvWindowData : s'.recvWindowData = s.recvWindowData.erase s.recvWindowStartSeq
  recvWindowStartSeq : s'.recvWindowStartSeq = nextSeq s.recvWindowStartSeq 1
  recvWindowUsed : s'.recvWindowUsed.toNat = s.recvWindowUsed.toNat - data.length
  bytesRead : s'.bytesRead.toNat = s.bytesRead.toNat + data.length

/-- A read into a buffer of `len` bytes returns the next packet or refuses the buffer,
and it comes back where there is no packet, or keeps waiting. -/
structure ReadsNext (o : Overflow) (len : Nat) (s : Session) : Prop where
  next : ∀ data ∈ s.nextData, data ≠ [] → data.length ≤ s.recvWindowUsed.toNat →
    s.isStream = false →
      if len < data.length then read o len s = (.ok [], s)
      else ∃ s', read o len s = (.ok data, s') ∧ s.Taken data s'
  missing : (∀ data ∈ s.nextData, data = []) → (read o len s).1 ≠ .panic

/-! ## What a read does -/

section Read

variable {o : Overflow} {len : Nat} {s : Session}

theorem read_eq_readLoop (hlen : len ≠ 0) (hest : s.isEstablished = true)
    (hopen : s.isClosed = false) : read o len s = readLoop o len loopFuel [] s := by
  rw [read, get_bind_apply, if_neg (by simp [hopen]), if_neg (by simp [hest]), if_neg hlen]

/-- With data at the start of the window nothing is read. -/
theorem read_of_held (hlen : len ≠ 0) (hest : s.isEstablished = true) (hopen : s.isClosed = false)
    {data : Bytes} (hdata : s.nextData = some data) : read o len s = (.ok [], s) := by
  have hheld : (s.recvWindowData.lookup s.recvWindowStartSeq).isSome = true := by
    rw [← Session.nextData, hdata]
    rfl
  have hround : readRound o len s = (.ok .leave, s) := by
    rw [readRound, get_bind_apply, if_pos hheld]
    rfl
  rw [read_eq_readLoop hlen hest hopen]
  show readLoop o len (4294967295 + 1) [] s = (.ok [], s)
  rw [readLoop, bind_ok hround]
  rfl

/-- Without data the read panics after its wait. -/
theorem read_of_missing (hlen : len ≠ 0) (hest : s.isEstablished = true)
    (hopen : s.isClosed = false) (hdata : s.nextData = none) : (read o len s).1 = .panic := by
  have hmiss : s.recvWindowData.lookup s.recvWindowStartSeq = none := hdata
  have hround : readRound o len s = (.panic, { s with recvDataUpdate := false }) := by
    rw [readRound, get_bind_apply, if_neg (by simp [hmiss]), modify_bind_apply, hmiss, unwrap_none,
      panic_bind]
    rfl
  rw [read_eq_readLoop hlen hest hopen]
  show (readLoop o len (4294967295 + 1) [] s).1 = .panic
  rw [readLoop, bind_apply, hround]

end Read

/-- A read meets its contract exactly if a packet is buffered and there is nothing to
hand over: its data is empty or not accounted for, the session is a stream, or the
buffer is too small. -/
theorem reads_next_iff (o : Overflow) (len : Nat) (s : Session) (hlen : len ≠ 0)
    (hest : s.isEstablished = true) (hopen : s.isClosed = false) :
    ReadsNext o len s ↔ ∃ data, s.nextData = some data ∧
      (data = [] ∨ s.recvWindowUsed.toNat < data.length ∨ s.isStream = true ∨
        len < data.length) := by
  constructor
  · intro h
    cases hdata : s.nextData with
    | none =>
        have hpanic := read_of_missing (o := o) hlen hest hopen hdata
        exact absurd hpanic (h.missing fun data hmem => by rw [hdata] at hmem; cases hmem)
    | some data =>
        refine ⟨data, rfl, ?_⟩
        by_contra hnone
        simp only [not_or, Nat.not_lt, Bool.not_eq_true] at hnone
        obtain ⟨hne, hused, hstream, hsmall⟩ := hnone
        have hnext := h.next data hdata hne hused hstream
        rw [if_neg (Nat.not_lt.mpr hsmall), read_of_held hlen hest hopen hdata] at hnext
        obtain ⟨s', heq, -⟩ := hnext
        cases heq
        exact hne rfl
  · rintro ⟨data, hdata, hcase⟩
    have hread := read_of_held (o := o) hlen hest hopen hdata
    refine ⟨?_, ?_⟩
    · intro data' hmem hne hused hstream
      rw [hdata] at hmem
      cases hmem
      rcases hcase with hempty | hfew | hisStream | hsmall
      · exact absurd hempty hne
      · exact absurd hused (Nat.not_le.mpr hfew)
      · rw [hstream] at hisStream
        cases hisStream
      · rw [if_pos hsmall]
        exact hread
    · intro _
      rw [hread]
      simp

/-! ## A session that reads -/

/-- A packet of three bytes does not fit a buffer of two. -/
theorem small_buffer_refused :
    ReadsNext .checked 2
      { sampleEstablished with
        recvWindowData := (∅ : AList fun _ : UInt32 => Bytes).insert 1 [1, 2, 3]
        recvWindowUsed := 3 } :=
  (reads_next_iff .checked 2 _ (by decide) (by decide) (by decide)).mpr
    ⟨[1, 2, 3], by decide, Or.inr (Or.inr (Or.inr (by decide)))⟩

/-- The first read of an established session panics. -/
theorem first_read_panics :
    sampleEstablished.isEstablished = true ∧ sampleEstablished.isClosed = false ∧
      ¬ ReadsNext .checked 8 sampleEstablished := by
  refine ⟨by decide, by decide, fun h => h.missing ?_ ?_⟩
  · intro data hdata
    cases hdata
  · exact read_of_missing (by decide) (by decide) (by decide) rfl

end NknSdk.Ncp
