import NknSdk.Lib.Run
import NknSdk.Session.Session

/-!
# The handshake between two sessions

Two sessions send each other the packet of `send_handshake_packet`, as often as
they like.  What was sent may come in late, in another order and more than once.
A session that has handled one of these packets is established, and the ones after
it change nothing (`handleHandshakePacket_established`).

The packet of a session has the same content at any time (`handshakePacket_agreed`),
so `handshake_agrees` need not ask when it was built: where both sides have handled
a packet, they have agreed.
-/

namespace NknSdk.Ncp

open Exec

/-! ## One side -/

/-- The packet that `Session::send_handshake_packet` builds. -/
def handshakePacket (s : Session) : Pb.Packet :=
  { clientIds := s.localClientIds
    windowSize := s.recvWindowSize
    mtu := s.recvMtu
    handshake := true }

/-- A session that can be established, and whose packet can establish the other
side. -/
structure Session.Fresh (s : Session) : Prop where
  isEstablished : s.isEstablished = false
  onAccept : s.onAccept = false
  recvWindowSize : s.recvWindowSize ≠ 0
  recvMtu : s.recvMtu ≠ 0
  localClientIds : s.localClientIds ≠ []

/-- The session after it has accepted `packet`. -/
def Session.agreed (s : Session) (packet : Pb.Packet) : Session :=
  let sendWindowSize :=
    if packet.windowSize < s.sendWindowSize then packet.windowSize else s.sendWindowSize
  let sendMtu := if packet.mtu < s.sendMtu then packet.mtu else s.sendMtu
  let sendWindowPacketCount : ℚ := (sendWindowSize.toNat : ℚ) / sendMtu.toNat
  { s with
    sendWindowSize
    sendMtu
    sendWindowPacketCount
    connections := handshakeConnections s.localClientIds packet.clientIds
      (sendWindowPacketCount / (min s.localClientIds.length packet.clientIds.length : Nat))
    remoteClientIds := packet.clientIds
    isEstablished := true
    onAccept := true }

theorem handleHandshakePacket_established {s : Session} (h : s.isEstablished = true)
    (packet : Pb.Packet) : handleHandshakePacket packet s = (.ok (), s) := by
  rw [handleHandshakePacket, get_bind_apply, if_pos h]
  rfl

theorem handleHandshakePacket_eq {s : Session} {packet : Pb.Packet} (hfresh : s.isEstablished = false)
    (haccept : s.onAccept = false) (hwindow : packet.windowSize ≠ 0) (hmtu : packet.mtu ≠ 0)
    (hids : packet.clientIds ≠ []) :
    handleHandshakePacket packet s = (.ok (), s.agreed packet) := by
  rw [handleHandshakePacket, get_bind_apply, if_neg (by simp [hfresh]), if_neg hwindow,
    bind_ok (when_modify_apply _ _ _), if_neg hmtu, bind_ok (when_modify_apply _ _ _),
    modify_bind_apply, if_neg hids, modify_bind_apply, get_bind_apply]
  by_cases hw : packet.windowSize < s.sendWindowSize
  · by_cases hm : packet.mtu < s.sendMtu
    · simp [Session.agreed, hw, hm, haccept]
    · simp [Session.agreed, hw, hm, haccept]
  · by_cases hm : packet.mtu < s.sendMtu
    · simp [Session.agreed, hw, hm, haccept]
    · simp [Session.agreed, hw, hm, haccept]

/-- A packet is the same whether it is built before or after. -/
theorem handshakePacket_agreed (s : Session) (packet : Pb.Packet) :
    handshakePacket (s.agreed packet) = handshakePacket s := rfl

/-! ## Connections -/

/-- A connection of the session between the client `localClientId` and the client
`remoteClientId` of the other side. -/
def Session.Connects (s : Session) (localClientId remoteClientId : String) : Prop :=
  ∃ key conn, s.connections.lookup key = some conn ∧
    conn.localClientId = localClientId ∧ conn.remoteClientId = remoteClientId

/-- A space can only come from the separator, or from the second id. -/
theorem connKey_inj {l l' r r' : String} (hl : ' ' ∉ l.toList) (hl' : ' ' ∉ l'.toList)
    (h : connKey l r = connKey l' r') : l = l' ∧ r = r' := by
  have hchars : l.toList ++ ' ' :: '-' :: ' ' :: r.toList =
      l'.toList ++ ' ' :: '-' :: ' ' :: r'.toList := by
    have := congrArg String.toList h
    simpa [connKey] using this
  have htake : ∀ {cs : List Char} (rest : List Char), ' ' ∉ cs →
      (cs ++ ' ' :: rest).takeWhile (· ≠ ' ') = cs := by
    intro cs rest hcs
    rw [List.takeWhile_append_of_pos]
    · simp
    · intro c hc
      simpa using fun heq : c = ' ' => hcs (heq ▸ hc)
  have hlocal : l.toList = l'.toList := by
    rw [← htake ('-' :: ' ' :: r.toList) hl, hchars, htake _ hl']
  rw [hlocal] at hchars
  have hremote := List.append_cancel_left hchars
  simp only [List.cons.injEq, true_and] at hremote
  exact ⟨String.toList_inj.mp hlocal, String.toList_inj.mp hremote⟩

theorem lookup_handshakeConnections {localClientIds clientIds : List String}
    (hspace : ∀ id ∈ localClientIds, ' ' ∉ id.toList) (initialWindowSize : ℚ) (key : String)
    (conn : Connection) :
    (handshakeConnections localClientIds clientIds initialWindowSize).lookup key = some conn ↔
      ∃ ids ∈ localClientIds.zip clientIds,
        connKey ids.1 ids.2 = key ∧ Connection.new ids.1 ids.2 initialWindowSize = conn := by
  rw [handshakeConnections, AList.lookup_foldl_insert]
  · simp
  · intro x hx y hy hkey
    obtain ⟨hlocal, hremote⟩ := connKey_inj (hspace _ (List.of_mem_zip hx).1)
      (hspace _ (List.of_mem_zip hy).1) hkey
    rw [hlocal, hremote]

section Agreed

variable {s : Session} {packet : Pb.Packet}

theorem lookup_agreed (hspace : ∀ id ∈ s.localClientIds, ' ' ∉ id.toList) {key : String}
    {conn : Connection} (h : (s.agreed packet).connections.lookup key = some conn) :
    key = connKey conn.localClientId conn.remoteClientId := by
  obtain ⟨ids, -, rfl, rfl⟩ := (lookup_handshakeConnections hspace _ _ _).mp h
  rfl

/-- The clients are connected position by position. -/
theorem connects_agreed (hspace : ∀ id ∈ s.localClientIds, ' ' ∉ id.toList) (l r : String) :
    (s.agreed packet).Connects l r ↔ (l, r) ∈ s.localClientIds.zip packet.clientIds := by
  constructor
  · rintro ⟨key, conn, hlookup, rfl, rfl⟩
    obtain ⟨ids, hids, -, rfl⟩ := (lookup_handshakeConnections hspace _ _ _).mp hlookup
    exact hids
  · intro hids
    exact ⟨_, _, (lookup_handshakeConnections hspace _ _ _).mpr ⟨(l, r), hids, rfl, rfl⟩, rfl, rfl⟩

end Agreed

/-- Pairing up two lists from the other side gives the swapped pairs. -/
theorem mem_zip_swap {α β : Type} (xs : List α) (ys : List β) (x : α) (y : β) :
    (x, y) ∈ xs.zip ys ↔ (y, x) ∈ ys.zip xs := by
  rw [← List.zip_swap xs ys, List.mem_map]
  constructor
  · intro h
    exact ⟨(x, y), h, rfl⟩
  · rintro ⟨⟨x', y'⟩, h, hswap⟩
    cases hswap
    exact h

/-! ## Two sides -/

inductive Side where
  | a
  | b
deriving DecidableEq, Repr

def Side.other : Side → Side
  | .a => .b
  | .b => .a

theorem Side.other_other (x : Side) : x.other.other = x := by cases x <;> rfl

/-- Two sessions, and what was sent to each of them so far. -/
structure Parties where
  session : Side → Session
  sent : Side → List Pb.Packet
  /-- The number of packets that the side has handled. -/
  handled : Side → Nat

inductive HandshakeEvent where
  | send (x : Side)
  /-- The `i`-th packet that was sent to `x` comes in, for the first time or again. -/
  | deliver (x : Side) (i : Nat)

namespace Parties

def new (config : Side → NcpConfig) (localClientIds remoteClientIds : Side → List String) :
    Parties where
  session x := Session.new (config x) (localClientIds x) (remoteClientIds x)
  sent _ := []
  handled _ := 0

/-- `packet` is on its way to `x`. -/
def put (m : Parties) (x : Side) (packet : Pb.Packet) : Parties :=
  { m with sent := Function.update m.sent x (m.sent x ++ [packet]) }

/-- `x` has handled a packet and is now `s`. -/
def settle (m : Parties) (x : Side) (s : Session) : Parties :=
  { m with
    session := Function.update m.session x s
    handled := Function.update m.handled x (m.handled x + 1) }

/-- One event.  A delivery whose handling does not return has no successor. -/
def step (m : Parties) : HandshakeEvent → Option Parties
  | .send x => some (m.put x.other (handshakePacket (m.session x)))
  | .deliver x i =>
      match (m.sent x)[i]? with
      | none => some m
      | some packet =>
          match handleHandshakePacket packet (m.session x) with
          | (.ok _, s) => some (m.settle x s)
          | _ => none

/-- The two sides have agreed. -/
structure Agreed (config : Side → NcpConfig) (m : Parties) : Prop where
  established : ∀ x, (m.session x).isEstablished = true
  sendMtu : ∀ x, ((m.session x).sendMtu.toNat : Int) =
    min (config .a).mtu.toInt (config .b).mtu.toInt
  sendWindowSize : ∀ x, (m.session x).sendWindowSize ≤ (m.session x.other).recvWindowSize
  mirrored : ∀ l r, (m.session .a).Connects l r ↔ (m.session .b).Connects r l
  connected : ∃ l r, (m.session .a).Connects l r
  keyed : ∀ x key conn, (m.session x).connections.lookup key = some conn →
    key = connKey conn.localClientId conn.remoteClientId

/-! ## Runs -/

/-- Only packets of the other side have been sent to `x`, and `x` is as it was, or
as the first of them has made it. -/
structure OnTrack (fresh : Side → Session) (m : Parties) (x : Side) : Prop where
  sent : ∀ packet ∈ m.sent x, packet = handshakePacket (fresh x.other)
  session : m.handled x = 0 ∧ m.session x = fresh x ∨
    0 < m.handled x ∧ m.session x = (fresh x).agreed (handshakePacket (fresh x.other))

section Runs

variable {fresh : Side → Session} {m m' : Parties}

theorem OnTrack.handshakePacket_eq {x : Side} (h : OnTrack fresh m x) :
    handshakePacket (m.session x) = handshakePacket (fresh x) := by
  rcases h.session with ⟨-, hsession⟩ | ⟨-, hsession⟩
  · rw [hsession]
  · rw [hsession, handshakePacket_agreed]

/-- Handling a packet brings the side to the state that the first one brings it to. -/
theorem OnTrack.handle {x : Side} (hfresh : ∀ x, (fresh x).Fresh) (h : OnTrack fresh m x)
    {packet : Pb.Packet} (hpacket : packet ∈ m.sent x) :
    handleHandshakePacket packet (m.session x) =
      (.ok (), (fresh x).agreed (handshakePacket (fresh x.other))) := by
  obtain rfl := h.sent packet hpacket
  rcases h.session with ⟨-, hsession⟩ | ⟨-, hsession⟩
  · rw [hsession]
    exact handleHandshakePacket_eq (hfresh x).isEstablished (hfresh x).onAccept
      (hfresh x.other).recvWindowSize (hfresh x.other).recvMtu (hfresh x.other).localClientIds
  · rw [hsession]
    exact handleHandshakePacket_established rfl _

theorem onTrack_put (h : ∀ x, OnTrack fresh m x) (x y : Side) :
    OnTrack fresh (m.put x.other (handshakePacket (m.session x))) y := by
  refine ⟨?_, (h y).session⟩
  intro packet hpacket
  by_cases hy : y = x.other
  · subst hy
    simp only [put, Function.update_self, List.mem_append, List.mem_singleton] at hpacket
    rcases hpacket with hold | hnew
    · exact (h x.other).sent packet hold
    · rw [hnew, (h x).handshakePacket_eq, Side.other_other]
  · simp only [put, Function.update_of_ne hy] at hpacket
    exact (h y).sent packet hpacket

theorem onTrack_settle (h : ∀ x, OnTrack fresh m x) (x y : Side) :
    OnTrack fresh
      (m.settle x ((fresh x).agreed (handshakePacket (fresh x.other)))) y := by
  refine ⟨(h y).sent, ?_⟩
  by_cases hy : y = x
  · subst hy
    simp [settle]
  · simp only [settle, Function.update_of_ne hy]
    exact (h y).session

theorem handled_le_settle (x y : Side) (s : Session) : m.handled y ≤ (m.settle x s).handled y := by
  by_cases hy : y = x
  · subst hy
    simp [settle]
  · simp [settle, Function.update_of_ne hy]

/-- Every event is possible and leaves both sides on track. -/
theorem onTrack_step (hfresh : ∀ x, (fresh x).Fresh) (h : ∀ x, OnTrack fresh m x)
    (e : HandshakeEvent) :
    ∃ m', m.step e = some m' ∧ (∀ x, OnTrack fresh m' x) ∧ ∀ x, m.handled x ≤ m'.handled x := by
  cases e with
  | send x => exact ⟨_, rfl, onTrack_put h x, fun y => Nat.le_refl _⟩
  | deliver x i =>
      cases hpacket : (m.sent x)[i]? with
      | none => exact ⟨m, by simp [step, hpacket], h, fun y => Nat.le_refl _⟩
      | some packet =>
          have hhandle := (h x).handle hfresh (List.mem_of_getElem? hpacket)
          exact ⟨m.settle x _, by simp only [step, hpacket, hhandle], onTrack_settle h x,
            fun y => handled_le_settle x y _⟩

/-- A side that has handled a packet does not change any more. -/
theorem session_stays (hfresh : ∀ x, (fresh x).Fresh) (h : ∀ x, OnTrack fresh m x) {x : Side}
    (hhandled : 0 < m.handled x) {events : List HandshakeEvent}
    (hrun : Run.runFrom step m events = some m') : m'.session x = m.session x := by
  have hend : (∀ x, OnTrack fresh m' x) ∧ 0 < m'.handled x := by
    refine Run.invariant_of_step (I := fun m => (∀ x, OnTrack fresh m x) ∧ 0 < m.handled x) ?_
      ⟨h, hhandled⟩ hrun
    rintro m₁ e m₂ ⟨h₁, hpos⟩ hs
    obtain ⟨m₂', hs', h₂, hle⟩ := onTrack_step hfresh h₁ e
    rw [hs] at hs'
    cases hs'
    exact ⟨h₂, Nat.lt_of_lt_of_le hpos (hle x)⟩
  have hagreed : ∀ {m : Parties}, OnTrack fresh m x → 0 < m.handled x →
      m.session x = (fresh x).agreed (handshakePacket (fresh x.other)) := by
    intro m h hpos
    rcases h.session with ⟨hzero, -⟩ | ⟨-, hsession⟩
    · omega
    · exact hsession
  rw [hagreed (hend.1 x) hend.2, hagreed (h x) hhandled]

end Runs

/-! ## Agreement -/

section Agreement

variable {config : Side → NcpConfig} {localClientIds remoteClientIds : Side → List String}

theorem toNat_toUInt32 {mtu : Int32} (h : 0 < mtu) : (mtu.toUInt32.toNat : Int) = mtu.toInt := by
  have hpos : 0 < mtu.toInt := Int32.lt_iff_toInt_lt.mp h
  rw [Int32.toNat_toUInt32_of_le (Int32.le_of_lt h)]
  exact Int.toNat_of_nonneg (Int.le_of_lt hpos)

theorem toNat_ite_lt (x y : UInt32) :
    ((if x < y then x else y).toNat : Int) = min (x.toNat : Int) y.toNat := by
  by_cases hlt : x < y
  · have hle : (x.toNat : Int) ≤ y.toNat := by exact_mod_cast Nat.le_of_lt (UInt32.lt_iff_toNat_lt.mp hlt)
    rw [if_pos hlt, min_eq_left hle]
  · have hle : (y.toNat : Int) ≤ x.toNat := by
      exact_mod_cast UInt32.le_iff_toNat_le.mp (UInt32.not_lt.mp hlt)
    rw [if_neg hlt, min_eq_right hle]

theorem fresh_new (hmtu : ∀ x, 0 < (config x).mtu) (hids : ∀ x, localClientIds x ≠ []) (x : Side) :
    (Session.new (config x) (localClientIds x) (remoteClientIds x)).Fresh where
  isEstablished := rfl
  onAccept := rfl
  recvWindowSize := by
    show (4 : UInt32) <<< (20 : UInt32) ≠ 0
    decide
  recvMtu := by
    show (config x).mtu.toUInt32 ≠ 0
    intro hzero
    have hpos : 0 < (config x).mtu.toInt := Int32.lt_iff_toInt_lt.mp (hmtu x)
    rw [← toNat_toUInt32 (hmtu x), hzero] at hpos
    exact absurd hpos (by decide)
  localClientIds := hids x

/-- Two sides that have each handled a packet of the other have agreed. -/
theorem agreed_of_session {m : Parties} (hmtu : ∀ x, 0 < (config x).mtu)
    (hids : ∀ x, localClientIds x ≠ []) (hspace : ∀ x, ∀ id ∈ localClientIds x, ' ' ∉ id.toList)
    (hsession : ∀ x, m.session x =
      (Session.new (config x) (localClientIds x) (remoteClientIds x)).agreed
        (handshakePacket (Session.new (config x.other) (localClientIds x.other)
          (remoteClientIds x.other)))) :
    Agreed config m := by
  have hconnects : ∀ x l r, (m.session x).Connects l r ↔
      (l, r) ∈ (localClientIds x).zip (localClientIds x.other) := by
    intro x l r
    rw [hsession x]
    exact connects_agreed (hspace x) l r
  refine ⟨?_, ?_, ?_, ?_, ?_, ?_⟩
  · intro x
    rw [hsession x]
    rfl
  · intro x
    rw [hsession x]
    show ((if (config x.other).mtu.toUInt32 < (config x).mtu.toUInt32 then
      (config x.other).mtu.toUInt32 else (config x).mtu.toUInt32).toNat : Int) = _
    rw [toNat_ite_lt, toNat_toUInt32 (hmtu x), toNat_toUInt32 (hmtu x.other)]
    cases x with
    | a => exact min_comm _ _
    | b => rfl
  · intro x
    rw [hsession x, hsession x.other]
    exact UInt32.le_refl _
  · intro l r
    rw [hconnects .a l r, hconnects .b r l]
    exact mem_zip_swap _ _ _ _
  · obtain ⟨l, ls, hl⟩ := List.exists_cons_of_ne_nil (hids .a)
    obtain ⟨r, rs, hr⟩ := List.exists_cons_of_ne_nil (hids .b)
    refine ⟨l, r, (hconnects .a l r).mpr ?_⟩
    rw [hl]
    show (l, r) ∈ (l :: ls).zip (localClientIds .b)
    rw [hr]
    exact List.mem_cons_self
  · intro x key conn hlookup
    rw [hsession x] at hlookup
    exact lookup_agreed (hspace x) hlookup

end Agreement

/-- Whatever two new sessions send each other in the handshake, and in whatever
order, as often as it comes in: what a side has agreed to once does not change,
and when both have handled a packet they have agreed on the same. -/
theorem handshake_agrees (config : Side → NcpConfig)
    (localClientIds remoteClientIds : Side → List String) (hmtu : ∀ x, 0 < (config x).mtu)
    (hids : ∀ x, localClientIds x ≠ []) (hspace : ∀ x, ∀ id ∈ localClientIds x, ' ' ∉ id.toList)
    (events : List HandshakeEvent) :
    ∃ m, Run.runFrom step (new config localClientIds remoteClientIds) events = some m ∧
      (∀ x, 0 < m.handled x → ∀ more m', Run.runFrom step m more = some m' →
        m'.session x = m.session x) ∧
      ((∀ x, 0 < m.handled x) → Agreed config m) := by
  let fresh (x : Side) : Session :=
    Session.new (config x) (localClientIds x) (remoteClientIds x)
  have hfresh : ∀ x, (fresh x).Fresh := fresh_new hmtu hids
  have hnew : ∀ x, OnTrack fresh (new config localClientIds remoteClientIds) x := by
    intro x
    refine ⟨?_, Or.inl ⟨rfl, rfl⟩⟩
    intro packet hpacket
    cases hpacket
  obtain ⟨m, hrun, htrack⟩ := Run.total_of_step (I := fun m => ∀ x, OnTrack fresh m x)
    (fun m e h => (onTrack_step hfresh h e).imp fun m' h' => ⟨h'.1, h'.2.1⟩) hnew events
  refine ⟨m, hrun, ?_, ?_⟩
  · intro x hhandled more m' hmore
    exact session_stays hfresh htrack hhandled hmore
  · intro hhandled
    have hsession : ∀ x, m.session x = (fresh x).agreed (handshakePacket (fresh x.other)) := by
      intro x
      rcases (htrack x).session with ⟨hzero, -⟩ | ⟨-, hsession⟩
      · exact absurd hzero (Nat.ne_of_gt (hhandled x))
      · exact hsession
    exact agreed_of_session hmtu hids hspace hsession

/-- Two clients of one side and three of the other. -/
def sampleIds : Side → List String
  | .a => ["x", "y"]
  | .b => ["u", "v", "u"]

def sampleConfig : Side → NcpConfig
  | .a => {}
  | .b => { mtu := 512 }

/-- The side `b` answers a packet that comes in twice. -/
theorem sample_handshake_agrees :
    ∃ m, Run.runFrom step (new sampleConfig sampleIds fun _ => [])
        [.send .a, .deliver .b 0, .send .b, .deliver .b 0, .deliver .a 0] = some m ∧
      Agreed sampleConfig m := by
  obtain ⟨m, hrun, -, hagreed⟩ := handshake_agrees sampleConfig sampleIds (fun _ => [])
    (fun x => by cases x <;> decide) (fun x => by cases x <;> decide)
    (fun x => by cases x <;> decide)
    [.send .a, .deliver .b 0, .send .b, .deliver .b 0, .deliver .a 0]
  have hhandled : (Run.runFrom step (new sampleConfig sampleIds fun _ => [])
      [.send .a, .deliver .b 0, .send .b, .deliver .b 0, .deliver .a 0]).map
        (fun m => (m.handled .a, m.handled .b)) = some (1, 2) := by
    decide +kernel
  rw [hrun] at hhandled
  refine ⟨m, hrun, hagreed fun x => ?_⟩
  obtain ⟨ha, hb⟩ := Prod.mk.inj (Option.some.inj hhandled)
  cases x with
  | a => rw [ha]; decide
  | b => rw [hb]; decide

end Parties

end NknSdk.Ncp
