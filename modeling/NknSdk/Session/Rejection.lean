import NknSdk.Session.Handshake

/-!
# Rejected handshakes

`handle_handshake_packet` checks a packet in three places and takes over a field
after each of the first two.  A packet that fails a later check has then lowered the
send window, or that and the MTU, of a session that it did not establish.

Such a packet leaves no trace exactly if what it offers before the failing check is
no less than what the session has (`rejected_traceless_iff`).  The values only ever
shrink, so a packet that is accepted later gives what it would have given alone
exactly if none of the rejected ones offered less than that.
-/

namespace NknSdk.Ncp

open Exec

/-! ## Rejection -/

/-- The packet fails one of the checks. -/
def Rejected (packet : Pb.Packet) : Prop :=
  packet.windowSize = 0 ∨ packet.mtu = 0 ∨ packet.clientIds = []

/-- What a rejected packet may not change. -/
structure Traceless (s s' : Session) : Prop where
  sendWindowSize : s'.sendWindowSize = s.sendWindowSize
  sendMtu : s'.sendMtu = s.sendMtu
  sendWindowPacketCount : s'.sendWindowPacketCount = s.sendWindowPacketCount
  connections : s'.connections = s.connections
  remoteClientIds : s'.remoteClientIds = s.remoteClientIds

/-- The session after one handshake packet. -/
def Session.shaken (s : Session) (packet : Pb.Packet) : Session :=
  (handleHandshakePacket packet s).2

/-- The send window after the check of the window size. -/
def Session.offeredWindow (s : Session) (packet : Pb.Packet) : UInt32 :=
  if packet.windowSize < s.sendWindowSize then packet.windowSize else s.sendWindowSize

/-- The MTU after the check of the MTU. -/
def Session.offeredMtu (s : Session) (packet : Pb.Packet) : UInt32 :=
  if packet.mtu < s.sendMtu then packet.mtu else s.sendMtu

/-- The packet offers no less than the session has, as far as it is read: a window of
zero ends the call at once, and an MTU of zero before the MTU is taken over. -/
def OffersEnough (s : Session) (packet : Pb.Packet) : Prop :=
  packet.windowSize = 0 ∨ s.sendWindowSize ≤ packet.windowSize ∧
    (packet.mtu = 0 ∨ s.sendMtu ≤ packet.mtu ∧
      s.sendWindowPacketCount = (s.sendWindowSize.toNat : ℚ) / s.sendMtu.toNat)

/-! ## What a packet does -/

section Packet

variable {s : Session} {packet : Pb.Packet}

theorem shaken_of_window_zero (hfresh : s.isEstablished = false) (hwindow : packet.windowSize = 0) :
    s.shaken packet = s := by
  rw [Session.shaken, handleHandshakePacket, get_bind_apply, if_neg (by simp [hfresh]),
    if_pos hwindow]
  rfl

theorem shaken_of_mtu_zero (hfresh : s.isEstablished = false) (hwindow : packet.windowSize ≠ 0)
    (hmtu : packet.mtu = 0) :
    s.shaken packet = { s with sendWindowSize := s.offeredWindow packet } := by
  rw [Session.shaken, handleHandshakePacket, get_bind_apply, if_neg (by simp [hfresh]),
    if_neg hwindow, bind_ok (when_modify_apply _ _ _), if_pos hmtu, Session.offeredWindow]
  split <;> rfl

theorem shaken_of_no_ids (hfresh : s.isEstablished = false) (hwindow : packet.windowSize ≠ 0)
    (hmtu : packet.mtu ≠ 0) (hids : packet.clientIds = []) :
    s.shaken packet =
      { s with
        sendWindowSize := s.offeredWindow packet
        sendMtu := s.offeredMtu packet
        sendWindowPacketCount :=
          ((s.offeredWindow packet).toNat : ℚ) / (s.offeredMtu packet).toNat } := by
  rw [Session.shaken, handleHandshakePacket, get_bind_apply, if_neg (by simp [hfresh]),
    if_neg hwindow, bind_ok (when_modify_apply _ _ _), if_neg hmtu,
    bind_ok (when_modify_apply _ _ _), modify_bind_apply, if_pos hids, Session.offeredWindow,
    Session.offeredMtu]
  by_cases hw : packet.windowSize < s.sendWindowSize
  · by_cases hm : packet.mtu < s.sendMtu
    · simp [hw, hm]
    · simp [hw, hm]
  · by_cases hm : packet.mtu < s.sendMtu
    · simp [hw, hm]
    · simp [hw, hm]

/-- An accepted packet gives the smaller of the two windows and of the two MTUs. -/
theorem shaken_of_accepted (hfresh : s.isEstablished = false) (haccepted : ¬ Rejected packet) :
    (s.shaken packet).sendWindowSize = s.offeredWindow packet ∧
      (s.shaken packet).sendMtu = s.offeredMtu packet := by
  simp only [Rejected, not_or] at haccepted
  obtain ⟨hwindow, hmtu, hids⟩ := haccepted
  rw [Session.shaken, handleHandshakePacket, get_bind_apply, if_neg (by simp [hfresh]),
    if_neg hwindow, bind_ok (when_modify_apply _ _ _), if_neg hmtu,
    bind_ok (when_modify_apply _ _ _), modify_bind_apply, if_neg hids, modify_bind_apply,
    get_bind_apply, Session.offeredWindow, Session.offeredMtu]
  by_cases hw : packet.windowSize < s.sendWindowSize
  · by_cases hm : packet.mtu < s.sendMtu
    · simp only [hw, hm, if_true]
      split <;> exact ⟨rfl, rfl⟩
    · simp only [hw, hm, if_true, if_false]
      split <;> exact ⟨rfl, rfl⟩
  · by_cases hm : packet.mtu < s.sendMtu
    · simp only [hw, hm, if_true, if_false]
      split <;> exact ⟨rfl, rfl⟩
    · simp only [hw, hm, if_false]
      split <;> exact ⟨rfl, rfl⟩

theorem toNat_offeredWindow (s : Session) (packet : Pb.Packet) :
    (s.offeredWindow packet).toNat = min s.sendWindowSize.toNat packet.windowSize.toNat := by
  unfold Session.offeredWindow
  rw [apply_ite UInt32.toNat]
  simp only [UInt32.lt_iff_toNat_lt]
  split <;> omega

theorem toNat_offeredMtu (s : Session) (packet : Pb.Packet) :
    (s.offeredMtu packet).toNat = min s.sendMtu.toNat packet.mtu.toNat := by
  unfold Session.offeredMtu
  rw [apply_ite UInt32.toNat]
  simp only [UInt32.lt_iff_toNat_lt]
  split <;> omega

theorem offeredWindow_eq_iff :
    s.offeredWindow packet = s.sendWindowSize ↔ s.sendWindowSize ≤ packet.windowSize := by
  rw [← UInt32.toNat_inj, toNat_offeredWindow, UInt32.le_iff_toNat_le]
  omega

theorem offeredMtu_eq_iff : s.offeredMtu packet = s.sendMtu ↔ s.sendMtu ≤ packet.mtu := by
  rw [← UInt32.toNat_inj, toNat_offeredMtu, UInt32.le_iff_toNat_le]
  omega

/-- The window and the MTU that a rejected packet leaves, and no session. -/
theorem shaken_of_rejected (hfresh : s.isEstablished = false) (hrejected : Rejected packet) :
    (s.shaken packet).isEstablished = false ∧
      (s.shaken packet).sendWindowSize =
        (if packet.windowSize = 0 then s.sendWindowSize else s.offeredWindow packet) ∧
      (s.shaken packet).sendMtu =
        if packet.windowSize = 0 ∨ packet.mtu = 0 then s.sendMtu else s.offeredMtu packet := by
  by_cases hwindow : packet.windowSize = 0
  · rw [shaken_of_window_zero hfresh hwindow, if_pos hwindow, if_pos (Or.inl hwindow)]
    exact ⟨hfresh, rfl, rfl⟩
  · rw [if_neg hwindow]
    by_cases hmtu : packet.mtu = 0
    · rw [shaken_of_mtu_zero hfresh hwindow hmtu, if_pos (Or.inr hmtu)]
      exact ⟨hfresh, rfl, rfl⟩
    · have hids : packet.clientIds = [] := by
        rcases hrejected with h | h | h
        · exact absurd h hwindow
        · exact absurd h hmtu
        · exact h
      rw [shaken_of_no_ids hfresh hwindow hmtu hids, if_neg (not_or.mpr ⟨hwindow, hmtu⟩)]
      exact ⟨hfresh, rfl, rfl⟩

/-- Which rejected packets leave no trace. -/
theorem rejected_traceless_iff (hfresh : s.isEstablished = false) (hrejected : Rejected packet) :
    Traceless s (s.shaken packet) ↔ OffersEnough s packet := by
  by_cases hwindow : packet.windowSize = 0
  · rw [shaken_of_window_zero hfresh hwindow]
    exact ⟨fun _ => Or.inl hwindow, fun _ => ⟨rfl, rfl, rfl, rfl, rfl⟩⟩
  · by_cases hmtu : packet.mtu = 0
    · rw [shaken_of_mtu_zero hfresh hwindow hmtu]
      constructor
      · intro h
        exact Or.inr ⟨offeredWindow_eq_iff.mp h.sendWindowSize, Or.inl hmtu⟩
      · rintro (hzero | ⟨hle, -⟩)
        · exact absurd hzero hwindow
        · exact ⟨offeredWindow_eq_iff.mpr hle, rfl, rfl, rfl, rfl⟩
    · have hids : packet.clientIds = [] := by
        rcases hrejected with h | h | h
        · exact absurd h hwindow
        · exact absurd h hmtu
        · exact h
      rw [shaken_of_no_ids hfresh hwindow hmtu hids]
      constructor
      · rintro ⟨hw, hm, hcount, -, -⟩
        dsimp only at hw hm hcount
        rw [hw, hm] at hcount
        exact Or.inr ⟨offeredWindow_eq_iff.mp hw, Or.inr ⟨offeredMtu_eq_iff.mp hm, hcount.symm⟩⟩
      · rintro (hzero | ⟨hw, hzero | ⟨hm, hcount⟩⟩)
        · exact absurd hzero hwindow
        · exact absurd hzero hmtu
        · have hw' := offeredWindow_eq_iff.mpr hw
          have hm' := offeredMtu_eq_iff.mpr hm
          exact ⟨hw', hm', by rw [hw', hm', hcount], rfl, rfl⟩

end Packet

/-! ## What several packets do -/

/-- The session after some handshake packets. -/
def Session.shakenBy (s : Session) (packets : List Pb.Packet) : Session :=
  packets.foldl Session.shaken s

/-- The rejected packet `q` offers no less than the session gets from `packet`. -/
def OffersNoLess (s : Session) (packet q : Pb.Packet) : Prop :=
  q.windowSize ≠ 0 → s.offeredWindow packet ≤ q.windowSize ∧
    (q.mtu ≠ 0 → s.offeredMtu packet ≤ q.mtu)

section Packets

variable {packets : List Pb.Packet} {packet : Pb.Packet}

theorem shakenBy_isEstablished {s : Session} (hfresh : s.isEstablished = false)
    (hrejected : ∀ q ∈ packets, Rejected q) : (s.shakenBy packets).isEstablished = false := by
  induction packets generalizing s with
  | nil => exact hfresh
  | cons q packets ih =>
      exact ih (shaken_of_rejected hfresh (hrejected q (List.mem_cons_self ..))).1
        fun q' hq' => hrejected q' (List.mem_cons_of_mem _ hq')

/-- The window is the smallest that was offered. -/
theorem le_shakenBy_sendWindowSize (n : Nat) {s : Session} (hfresh : s.isEstablished = false)
    (hrejected : ∀ q ∈ packets, Rejected q) :
    n ≤ (s.shakenBy packets).sendWindowSize.toNat ↔
      n ≤ s.sendWindowSize.toNat ∧ ∀ q ∈ packets, q.windowSize ≠ 0 → n ≤ q.windowSize.toNat := by
  induction packets generalizing s with
  | nil => simp [Session.shakenBy]
  | cons q packets ih =>
      obtain ⟨hfresh', hwindow, -⟩ := shaken_of_rejected hfresh (hrejected q (List.mem_cons_self ..))
      have htail := ih hfresh' fun q' hq' => hrejected q' (List.mem_cons_of_mem _ hq')
      rw [Session.shakenBy, List.foldl_cons, ← Session.shakenBy, htail, hwindow,
        List.forall_mem_cons, apply_ite UInt32.toNat, toNat_offeredWindow]
      by_cases hzero : q.windowSize = 0
      · simp [hzero]
      · simp only [hzero, if_false, ne_eq, not_false_eq_true, true_implies, Nat.le_min, and_assoc]

/-- The MTU is the smallest that was offered with a window. -/
theorem le_shakenBy_sendMtu (n : Nat) {s : Session} (hfresh : s.isEstablished = false)
    (hrejected : ∀ q ∈ packets, Rejected q) :
    n ≤ (s.shakenBy packets).sendMtu.toNat ↔
      n ≤ s.sendMtu.toNat ∧
        ∀ q ∈ packets, q.windowSize ≠ 0 → q.mtu ≠ 0 → n ≤ q.mtu.toNat := by
  induction packets generalizing s with
  | nil => simp [Session.shakenBy]
  | cons q packets ih =>
      obtain ⟨hfresh', -, hmtu⟩ := shaken_of_rejected hfresh (hrejected q (List.mem_cons_self ..))
      have htail := ih hfresh' fun q' hq' => hrejected q' (List.mem_cons_of_mem _ hq')
      rw [Session.shakenBy, List.foldl_cons, ← Session.shakenBy, htail, hmtu,
        List.forall_mem_cons, apply_ite UInt32.toNat, toNat_offeredMtu]
      by_cases hzero : q.windowSize = 0
      · simp [hzero]
      · by_cases hzero' : q.mtu = 0
        · simp [hzero']
        · simp only [hzero, hzero', or_self, if_false, ne_eq, not_false_eq_true, true_implies,
            Nat.le_min, and_assoc]

/-- After rejected packets an accepted one gives what it gives alone exactly if none of
them offered less. -/
theorem accepted_alone_iff {s : Session} (hfresh : s.isEstablished = false)
    (hrejected : ∀ q ∈ packets, Rejected q) (haccepted : ¬ Rejected packet) :
    (((s.shakenBy packets).shaken packet).sendWindowSize = (s.shaken packet).sendWindowSize ∧
        ((s.shakenBy packets).shaken packet).sendMtu = (s.shaken packet).sendMtu) ↔
      ∀ q ∈ packets, OffersNoLess s packet q := by
  obtain ⟨hw, hm⟩ := shaken_of_accepted hfresh haccepted
  obtain ⟨hw', hm'⟩ :=
    shaken_of_accepted (shakenBy_isEstablished hfresh hrejected) haccepted
  have hwindow := fun n => le_shakenBy_sendWindowSize n hfresh hrejected
  have hmtu := fun n => le_shakenBy_sendMtu n hfresh hrejected
  rw [hw, hm, hw', hm', ← UInt32.toNat_inj, ← UInt32.toNat_inj]
  have hwleft := ((hwindow _).mp (Nat.le_refl _)).1
  have hmleft := ((hmtu _).mp (Nat.le_refl _)).1
  have hwiff : ((s.shakenBy packets).offeredWindow packet).toNat = (s.offeredWindow packet).toNat ↔
      (s.offeredWindow packet).toNat ≤ (s.shakenBy packets).sendWindowSize.toNat := by
    rw [toNat_offeredWindow, toNat_offeredWindow]
    omega
  have hmiff : ((s.shakenBy packets).offeredMtu packet).toNat = (s.offeredMtu packet).toNat ↔
      (s.offeredMtu packet).toNat ≤ (s.shakenBy packets).sendMtu.toNat := by
    rw [toNat_offeredMtu, toNat_offeredMtu]
    omega
  have hwself : (s.offeredWindow packet).toNat ≤ s.sendWindowSize.toNat := by
    rw [toNat_offeredWindow]
    exact Nat.min_le_left _ _
  have hmself : (s.offeredMtu packet).toNat ≤ s.sendMtu.toNat := by
    rw [toNat_offeredMtu]
    exact Nat.min_le_left _ _
  rw [hwiff, hmiff, hwindow, hmtu]
  simp only [hwself, hmself, true_and, OffersNoLess, UInt32.le_iff_toNat_le]
  constructor
  · rintro ⟨hws, hms⟩ q hq hne
    exact ⟨hws q hq hne, hms q hq hne⟩
  · intro h
    exact ⟨fun q hq hne => (h q hq hne).1, fun q hq hne => (h q hq hne).2⟩

end Packets

/-- A rejected packet leaves no trace exactly if it offers enough as far as it is read,
and an accepted packet gives what it gives alone exactly if no packet before it offered
less. -/
theorem rejected_handshakes_iff (s : Session) (hfresh : s.isEstablished = false) :
    (∀ packet, Rejected packet → (Traceless s (s.shaken packet) ↔ OffersEnough s packet)) ∧
      ∀ packets packet, (∀ q ∈ packets, Rejected q) → ¬ Rejected packet →
        (((s.shakenBy packets).shaken packet).sendWindowSize = (s.shaken packet).sendWindowSize ∧
            ((s.shakenBy packets).shaken packet).sendMtu = (s.shaken packet).sendMtu ↔
          ∀ q ∈ packets, OffersNoLess s packet q) :=
  ⟨fun _ hrejected => rejected_traceless_iff hfresh hrejected,
    fun _ _ hrejected haccepted => accepted_alone_iff hfresh hrejected haccepted⟩

/-! ## A session that is degraded -/

/-- A packet that offers a window of one byte and no MTU. -/
def degradingPacket : Pb.Packet := { clientIds := ["b"], windowSize := 1, handshake := true }

/-- A packet without a window leaves no trace. -/
theorem windowless_packet_traceless :
    Traceless (Session.new {} ["a"] []) ((Session.new {} ["a"] []).shaken { mtu := 5 }) :=
  ((rejected_handshakes_iff (Session.new {} ["a"] []) rfl).1 { mtu := 5 } (Or.inl rfl)).mpr
    (Or.inl rfl)

/-- The window that a rejected packet offered stays. -/
theorem rejected_packet_shrinks_window :
    ¬ ∀ (s : Session) (packet : Pb.Packet), s.isEstablished = false → Rejected packet →
      Traceless s (s.shaken packet) := by
  intro h
  have htraceless := h (Session.new {} ["a"] []) degradingPacket rfl (Or.inr (Or.inl rfl))
  exact absurd htraceless.sendWindowSize (by decide +kernel)

end NknSdk.Ncp
