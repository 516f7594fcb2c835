import NknSdk.Client.Outbound
import NknSdk.Lib.Packing

/-!
# Batching

What `send_messages` writes for a list of resolved destinations.  The payloads are
packed greedily into outbound messages (`Packing`), and nothing is written before
all of them are made.

`SendsBatched` says that a call with an oversize payload or a destination that
cannot be parsed is refused without a trace, and that any other call writes messages
which together are for the destinations and carry the payloads, in their order.
`create_outbound_message` panics where the node's public key or the block hash that
the node announced is not hexadecimal.  So this is what happens exactly where they
are, or where the refusal comes before the first outbound message
(`sends_batched_iff`).
-/

namespace NknSdk

open Exec

variable {d : ClientDeps} {c : Client} {rng : Draws}

/-! ## Packing -/

/-- The size that `send_messages` counts for a payload and its destination. -/
def entrySize (entry : Bytes × String) : Nat :=
  entry.1.length + entry.2.utf8ByteSize + signatureLen

/-- The size that `send_messages` counts for an outbound message. -/
def messageSize (dests : List String) (payloads : List Bytes) : Nat :=
  (payloads.map List.length).sum + (dests.map fun dest => dest.utf8ByteSize + signatureLen).sum

/-- A group of entries is a message's worth of destinations and payloads. -/
theorem matches_group (group : List (Bytes × String)) :
    Matches (group.map Prod.snd) (group.map Prod.fst) := Or.inr (by simp)

theorem deliveries_group (group : List (Bytes × String)) :
    deliveries (group.map Prod.snd) (group.map Prod.fst) = group.map Prod.swap := by
  by_cases hone : group.length = 1
  · obtain ⟨entry, rfl⟩ := List.length_eq_one_iff.mp hone
    rfl
  · rw [deliveries, payloadsFor_of_ne_one (by simpa using hone), List.zip_map']
    rfl

theorem total_nil_le :
    Packing.total entrySize ([] : List (Bytes × String)) ≤ maxClientMessageSize := Nat.zero_le _

theorem messageSize_group (group : List (Bytes × String)) :
    messageSize (group.map Prod.snd) (group.map Prod.fst) = Packing.total entrySize group := by
  induction group with
  | nil => rfl
  | cons entry group ih =>
      rw [Packing.total_cons, ← ih]
      simp only [messageSize, entrySize, List.map_cons, List.sum_cons]
      omega

/-- A payload is too large for a message, or the only one is for all destinations. -/
def Oversize (dests : List String) (payloads : List Bytes) : Prop :=
  if 1 < payloads.length then
    ∃ entry ∈ payloads.zip dests, maxClientMessageSize < entrySize entry
  else maxClientMessageSize < messageSize dests payloads

/-- An oversize payload comes up before the first message is full. -/
def OversizeFirst (dests : List String) (payloads : List Bytes) : Prop :=
  if 1 < payloads.length then
    Packing.BlockedFirst entrySize maxClientMessageSize [] (payloads.zip dests)
  else maxClientMessageSize < messageSize dests payloads

theorem OversizeFirst.oversize {dests : List String} {payloads : List Bytes}
    (h : OversizeFirst dests payloads) : Oversize dests payloads := by
  unfold OversizeFirst at h
  unfold Oversize
  split
  next hseveral =>
    rw [if_pos hseveral] at h
    exact h.exists_mem
  next hone =>
    rw [if_neg hone] at h
    exact h

/-- The message is for this group of entries. -/
structure MadeFor (d : ClientDeps) (c : Client) (group : List (Bytes × String))
    (m : Pb.OutboundMessage) : Prop where
  dests : m.dests = group.map Prod.snd
  payloads : m.payloads = group.map Prod.fst
  signed : Signed d c m

theorem MadeFor.matches {group : List (Bytes × String)} {m : Pb.OutboundMessage}
    (h : MadeFor d c group m) : Matches m.dests m.payloads := by
  rw [h.dests, h.payloads]
  exact matches_group group

theorem length_lt_of_messageSize_le {dests : List String} {payloads : List Bytes}
    (h : messageSize dests payloads ≤ maxClientMessageSize) :
    ∀ payload ∈ payloads, payload.length < UInt32.size := by
  intro payload hpayload
  have hsum : payload.length ≤ Packing.total List.length payloads :=
    Packing.size_le_total hpayload
  have hbound : maxClientMessageSize < UInt32.size := by decide
  rw [messageSize] at h
  rw [Packing.total] at hsum
  omega

/-- A group that fits is made into a message unless a destination cannot be parsed. -/
theorem createOutboundMessage_group (hnode : c.node.isSome) (hread : NodeReadable c)
    (nonce maxHoldingSeconds : UInt32) {group : List (Bytes × String)}
    (hsize : Packing.total entrySize group ≤ maxClientMessageSize) :
    (∃ e, createOutboundMessage d nonce (group.map Prod.snd) (group.map Prod.fst)
        maxHoldingSeconds c = (.err e, c) ∧ ∃ entry ∈ group, ¬ Parses d entry.2) ∨
    ∃ m, createOutboundMessage d nonce (group.map Prod.snd) (group.map Prod.fst)
        maxHoldingSeconds c = (.ok m, c) ∧ MadeFor d c group m := by
  rw [← messageSize_group] at hsize
  rcases createOutboundMessage_readable hnode hread (matches_group group)
    (length_lt_of_messageSize_le hsize) with
    ⟨e, herr, dest, hdest, hbad⟩ | ⟨m, hok, hdests, hpayloads, hsigned⟩
  · obtain ⟨entry, hentry, rfl⟩ := List.mem_map.mp hdest
    exact Or.inl ⟨e, herr, entry, hentry, hbad⟩
  · exact Or.inr ⟨m, hok, hdests, hpayloads, hsigned⟩

/-- The loop of `send_messages`, with the entries of `current` in its lists. -/
def batchFrom (d : ClientDeps) (rng : Draws) (maxHoldingSeconds : UInt32)
    (current rest : List (Bytes × String)) (outboundMsgs : List Pb.OutboundMessage) :
    ClientCall (List Pb.OutboundMessage × List String × List Bytes) :=
  batch d rng maxHoldingSeconds rest (Packing.total entrySize current) (current.map Prod.snd)
    (current.map Prod.fst) outboundMsgs

section Loop

variable {maxHoldingSeconds : UInt32} {current rest : List (Bytes × String)}
  {outboundMsgs : List Pb.OutboundMessage} {entry : Bytes × String}

theorem batchFrom_oversize (hover : maxClientMessageSize < entrySize entry) :
    batchFrom d rng maxHoldingSeconds current (entry :: rest) outboundMsgs =
      throw "message oversize" := if_pos hover

theorem batchFrom_full (hitem : ¬ maxClientMessageSize < entrySize entry)
    (hfull : maxClientMessageSize < Packing.total entrySize current + entrySize entry) :
    batchFrom d rng maxHoldingSeconds current (entry :: rest) outboundMsgs =
      createOutboundMessage d (rng.nonce outboundMsgs.length) (current.map Prod.snd)
        (current.map Prod.fst) maxHoldingSeconds >>= fun outboundMsg =>
      batchFrom d rng maxHoldingSeconds [entry] rest (outboundMsgs ++ [outboundMsg]) := by
  have hstep : batchFrom d rng maxHoldingSeconds current (entry :: rest) outboundMsgs =
      createOutboundMessage d (rng.nonce outboundMsgs.length) (current.map Prod.snd)
        (current.map Prod.fst) maxHoldingSeconds >>= fun outboundMsg =>
      batch d rng maxHoldingSeconds rest (entrySize entry) [entry.2] [entry.1]
        (outboundMsgs ++ [outboundMsg]) := (if_neg hitem).trans (if_pos hfull)
  rw [hstep]
  simp only [batchFrom, Packing.total_singleton, List.map_singleton]

theorem batchFrom_fits (hitem : ¬ maxClientMessageSize < entrySize entry)
    (hfits : ¬ maxClientMessageSize < Packing.total entrySize current + entrySize entry) :
    batchFrom d rng maxHoldingSeconds current (entry :: rest) outboundMsgs =
      batchFrom d rng maxHoldingSeconds (current ++ [entry]) rest outboundMsgs := by
  have hstep : batchFrom d rng maxHoldingSeconds current (entry :: rest) outboundMsgs =
      batch d rng maxHoldingSeconds rest (Packing.total entrySize current + entrySize entry)
        (current.map Prod.snd ++ [entry.2]) (current.map Prod.fst ++ [entry.1]) outboundMsgs :=
    (if_neg hitem).trans (if_neg hfits)
  rw [hstep, batchFrom, Packing.total_append, Packing.total_singleton, List.map_append,
    List.map_append]
  rfl

/-- The loop makes the groups of the packing into messages, all but the last one.
The induction is on the entries that are left. -/
theorem batchFrom_readable (hnode : c.node.isSome) (hread : NodeReadable c)
    (hcurrent : Packing.total entrySize current ≤ maxClientMessageSize) :
    (∃ e, batchFrom d rng maxHoldingSeconds current rest outboundMsgs c = (.err e, c) ∧
      ((∃ entry ∈ rest, maxClientMessageSize < entrySize entry) ∨
        ∃ entry ∈ current ++ rest, ¬ Parses d entry.2)) ∨
    ∃ full groups last, batchFrom d rng maxHoldingSeconds current rest outboundMsgs c =
        (.ok (outboundMsgs ++ full, last.map Prod.snd, last.map Prod.fst), c) ∧
      Packing.groups entrySize maxClientMessageSize current rest = groups ++ [last] ∧
      List.Forall₂ (MadeFor d c) groups full ∧
      ∀ entry ∈ rest, entrySize entry ≤ maxClientMessageSize := by
  induction rest generalizing current outboundMsgs with
  | nil =>
      refine Or.inr ⟨[], [], current, ?_, rfl, .nil, by simp⟩
      rw [List.append_nil]
      rfl
  | cons entry rest ih =>
      by_cases hover : maxClientMessageSize < entrySize entry
      · exact Or.inl ⟨_, by rw [batchFrom_oversize hover]; rfl,
          Or.inl ⟨entry, List.mem_cons_self, hover⟩⟩
      by_cases hfull : maxClientMessageSize < Packing.total entrySize current + entrySize entry
      · rw [batchFrom_full hover hfull, Packing.groups, if_pos hfull]
        rcases createOutboundMessage_group (d := d) hnode hread (rng.nonce outboundMsgs.length)
          maxHoldingSeconds hcurrent with ⟨e, herr, bad, hbad, hparse⟩ | ⟨m, hok, hmade⟩
        · exact Or.inl ⟨e, bind_err herr, Or.inr ⟨bad, List.mem_append_left _ hbad, hparse⟩⟩
        · rw [bind_ok hok]
          have hentry : Packing.total entrySize [entry] ≤ maxClientMessageSize := by
            rw [Packing.total_singleton]
            omega
          rcases @ih [entry] (outboundMsgs ++ [m]) hentry with
            ⟨e, herr, hrest⟩ | ⟨full, groups, last, hrest, hgroups, hmades, hsizes⟩
          · refine Or.inl ⟨e, herr, hrest.imp ?_ ?_⟩
            · rintro ⟨bad, hbad, hsize⟩
              exact ⟨bad, List.mem_cons_of_mem _ hbad, hsize⟩
            · rintro ⟨bad, hbad, hparse⟩
              exact ⟨bad, List.mem_append_right _ hbad, hparse⟩
          · refine Or.inr ⟨m :: full, current :: groups, last, ?_, ?_, .cons hmade hmades, ?_⟩
            · rw [hrest, List.append_assoc]
              rfl
            · rw [hgroups]
              rfl
            · exact List.forall_mem_cons.mpr ⟨Nat.le_of_not_lt hover, hsizes⟩
      · rw [batchFrom_fits hover hfull, Packing.groups, if_neg hfull]
        have hnext : Packing.total entrySize (current ++ [entry]) ≤ maxClientMessageSize := by
          rw [Packing.total_append, Packing.total_singleton]
          omega
        rcases @ih (current ++ [entry]) outboundMsgs hnext with
          ⟨e, herr, hrest⟩ | ⟨full, groups, last, hrest, hgroups, hmades, hsizes⟩
        · refine Or.inl ⟨e, herr, hrest.imp ?_ ?_⟩
          · rintro ⟨bad, hbad, hsize⟩
            exact ⟨bad, List.mem_cons_of_mem _ hbad, hsize⟩
          · rintro ⟨bad, hbad, hparse⟩
            rw [List.append_assoc] at hbad
            exact ⟨bad, hbad, hparse⟩
        · exact Or.inr ⟨full, groups, last, hrest, hgroups, hmades,
            List.forall_mem_cons.mpr ⟨Nat.le_of_not_lt hover, hsizes⟩⟩

/-- Where no message can be made, the loop ends with an error exactly where an
oversize entry comes up before the first message is full. -/
theorem batchFrom_unreadable (hread : ¬ NodeReady c)
    (hcurrent : Packing.total entrySize current ≤ maxClientMessageSize) :
    (Packing.BlockedFirst entrySize maxClientMessageSize current rest ∧
      ∃ e, batchFrom d rng maxHoldingSeconds current rest outboundMsgs c = (.err e, c)) ∨
    (¬ Packing.BlockedFirst entrySize maxClientMessageSize current rest ∧
      (batchFrom d rng maxHoldingSeconds current rest outboundMsgs c = (.panic, c) ∨
        ∃ packed, batchFrom d rng maxHoldingSeconds current rest outboundMsgs c =
          (.ok packed, c))) := by
  induction rest generalizing current with
  | nil => exact Or.inr ⟨Packing.not_blockedFirst_nil, Or.inr ⟨_, rfl⟩⟩
  | cons entry rest ih =>
      rw [Packing.blockedFirst_cons]
      by_cases hover : maxClientMessageSize < entrySize entry
      · exact Or.inl ⟨Or.inl ⟨hover, hcurrent⟩, _, by rw [batchFrom_oversize hover]; rfl⟩
      by_cases hfull : maxClientMessageSize < Packing.total entrySize current + entrySize entry
      · rw [batchFrom_full hover hfull]
        refine Or.inr ⟨?_, Or.inl (bind_panic (createOutboundMessage_unreadable hread _ _ _ _))⟩
        rintro (⟨h, -⟩ | ⟨h, -⟩)
        · exact hover h
        · omega
      · rw [batchFrom_fits hover hfull]
        have hnext : Packing.total entrySize (current ++ [entry]) ≤ maxClientMessageSize := by
          rw [Packing.total_append, Packing.total_singleton]
          omega
        rcases @ih (current ++ [entry]) hnext with ⟨hblocked, herr⟩ | ⟨hfree, hrest⟩
        · exact Or.inl ⟨Or.inr ⟨by omega, hblocked⟩, herr⟩
        · refine Or.inr ⟨?_, hrest⟩
          rintro (⟨h, -⟩ | ⟨-, h⟩)
          · exact hover h
          · exact hfree h

end Loop

/-! ## The messages of a call -/

/-- The messages are for the destinations and carry the payloads, in their order,
and every one is of bounded size and signed for each of its destinations. -/
structure Batched (d : ClientDeps) (c : Client) (dests : List String) (payloads : List Bytes)
    (msgs : List Pb.OutboundMessage) : Prop where
  concat_dests : msgs.flatMap (fun m => m.dests) = dests
  concat_payloads : msgs.flatMap (fun m => m.payloads) = payloads
  concat_deliveries : msgs.flatMap (fun m => deliveries m.dests m.payloads) =
    deliveries dests payloads
  dests_ne_nil : ∀ m ∈ msgs, m.dests ≠ []
  size_le : ∀ m ∈ msgs, messageSize m.dests m.payloads ≤ maxClientMessageSize
  length_signatures : ∀ m ∈ msgs, m.signatures.length = m.dests.length
  signed : ∀ m ∈ msgs, Signed d c m

/-- Signing does not read the shared keys. -/
theorem Batched.of_sharedKeys {dests : List String} {payloads : List Bytes}
    {msgs : List Pb.OutboundMessage} {sharedKeys : Utils.SharedKeys}
    (h : Batched d { c with sharedKeys } dests payloads msgs) : Batched d c dests payloads msgs :=
  ⟨h.concat_dests, h.concat_payloads, h.concat_deliveries, h.dests_ne_nil, h.size_le,
    h.length_signatures, h.signed⟩

theorem Signed.length_signatures {m : Pb.OutboundMessage} (h : Signed d c m)
    (hmatch : Matches m.dests m.payloads) : m.signatures.length = m.dests.length := by
  obtain ⟨node, nodePublicKey, -, -, hsigns⟩ := h
  rw [← hsigns.length_eq, hmatch.length_deliveries]

theorem concat_of_madeFor {groups : List (List (Bytes × String))} {msgs : List Pb.OutboundMessage}
    (h : List.Forall₂ (MadeFor d c) groups msgs) :
    msgs.flatMap (fun m => m.dests) = groups.flatten.map Prod.snd ∧
      msgs.flatMap (fun m => m.payloads) = groups.flatten.map Prod.fst ∧
      msgs.flatMap (fun m => deliveries m.dests m.payloads) = groups.flatten.map Prod.swap := by
  induction h with
  | nil => exact ⟨rfl, rfl, rfl⟩
  | cons hmade _ ih =>
      obtain ⟨hdests, hpayloads, hdeliveries⟩ := ih
      simp only [List.flatMap_cons, List.flatten_cons, List.map_append, hdests, hpayloads,
        hdeliveries, hmade.dests, hmade.payloads, deliveries_group, and_self]

theorem exists_group {groups : List (List (Bytes × String))} {msgs : List Pb.OutboundMessage}
    (h : List.Forall₂ (MadeFor d c) groups msgs) :
    ∀ m ∈ msgs, ∃ group ∈ groups, MadeFor d c group m := by
  induction h with
  | nil => simp
  | cons hmade _ ih =>
      intro m hm
      rcases List.mem_cons.mp hm with rfl | hm
      · exact ⟨_, List.mem_cons_self, hmade⟩
      · obtain ⟨group, hgroup, hmade⟩ := ih m hm
        exact ⟨group, List.mem_cons_of_mem _ hgroup, hmade⟩

/-- The messages for the groups of the packing are what the call has to write. -/
theorem Batched.of_groups {dests : List String} {payloads : List Bytes}
    {msgs : List Pb.OutboundMessage} (hseveral : 1 < payloads.length)
    (hlen : payloads.length = dests.length)
    (hsize : ∀ entry ∈ payloads.zip dests, entrySize entry ≤ maxClientMessageSize)
    (hmades : List.Forall₂ (MadeFor d c)
      (Packing.groups entrySize maxClientMessageSize [] (payloads.zip dests)) msgs) :
    Batched d c dests payloads msgs := by
  obtain ⟨hdests, hpayloads, hdeliveries⟩ := concat_of_madeFor hmades
  rw [Packing.flatten_groups, List.nil_append] at hdests hpayloads hdeliveries
  have hzip : payloads.zip dests ≠ [] := by
    rw [← List.length_pos_iff, List.length_zip]
    omega
  have hgroup := exists_group hmades
  refine ⟨?_, ?_, ?_, ?_, ?_, ?_, ?_⟩
  · rw [hdests, List.map_snd_zip hlen.ge]
  · rw [hpayloads, List.map_fst_zip hlen.le]
  · rw [hdeliveries, deliveries, payloadsFor_of_ne_one (by omega), List.zip_swap]
  · intro m hm
    obtain ⟨group, hmem, hmade⟩ := hgroup m hm
    rw [hmade.dests]
    exact mt List.map_eq_nil_iff.mp
      (Packing.ne_nil_of_mem_groups hsize (by simpa using hzip) group hmem)
  · intro m hm
    obtain ⟨group, hmem, hmade⟩ := hgroup m hm
    rw [hmade.dests, hmade.payloads, messageSize_group]
    exact Packing.total_le_of_mem_groups hsize total_nil_le group hmem
  · intro m hm
    obtain ⟨group, -, hmade⟩ := hgroup m hm
    exact hmade.signed.length_signatures hmade.matches
  · intro m hm
    obtain ⟨group, -, hmade⟩ := hgroup m hm
    exact hmade.signed

theorem Batched.single {dests : List String} {payloads : List Bytes} {m : Pb.OutboundMessage}
    (hne : dests ≠ []) (hmatch : Matches dests payloads)
    (hsize : messageSize dests payloads ≤ maxClientMessageSize) (hdests : m.dests = dests)
    (hpayloads : m.payloads = payloads) (hsigned : Signed d c m) :
    Batched d c dests payloads [m] := by
  subst hdests hpayloads
  refine ⟨?_, ?_, ?_, ?_, ?_, ?_, ?_⟩
  · exact List.flatMap_singleton _ _
  · exact List.flatMap_singleton _ _
  · exact List.flatMap_singleton _ _
  · exact List.forall_mem_singleton.mpr hne
  · exact List.forall_mem_singleton.mpr hsize
  · exact List.forall_mem_singleton.mpr (hsigned.length_signatures hmatch)
  · exact List.forall_mem_singleton.mpr hsigned

/-- `send_messages` up to the messages that it writes. -/
def outboundMessages (d : ClientDeps) (rng : Draws) (maxHoldingSeconds : UInt32)
    (dests : List String) (payloads : List Bytes) : ClientCall (List Pb.OutboundMessage) := do
  let (outboundMsgs, destList, payloadList) ← pack d rng maxHoldingSeconds dests payloads
  let last ← createOutboundMessage d (rng.nonce outboundMsgs.length) destList payloadList
    maxHoldingSeconds
  return outboundMsgs ++ [last]

theorem Batched.parses {dests : List String} {payloads : List Bytes}
    {msgs : List Pb.OutboundMessage} (h : Batched d c dests payloads msgs)
    (hmatch : Matches dests payloads) : ∀ dest ∈ dests, Parses d dest := by
  intro dest hdest
  rw [← hmatch.map_fst_deliveries, ← h.concat_deliveries] at hdest
  obtain ⟨delivery, hdelivery, rfl⟩ := List.mem_map.mp hdest
  obtain ⟨m, hm, hdelivery⟩ := List.mem_flatMap.mp hdelivery
  exact (h.signed m hm).parses delivery hdelivery

theorem pack_several {maxHoldingSeconds : UInt32} {dests : List String} {payloads : List Bytes}
    (hseveral : 1 < payloads.length) : pack d rng maxHoldingSeconds dests payloads =
      batchFrom d rng maxHoldingSeconds [] (payloads.zip dests) [] := if_pos hseveral

theorem pack_single {maxHoldingSeconds : UInt32} {dests : List String} {payloads : List Bytes}
    (hone : payloads.length = 1) : pack d rng maxHoldingSeconds dests payloads =
      if maxClientMessageSize < messageSize dests payloads then throw "message oversize"
      else pure ([], dests, payloads) := by
  obtain ⟨payload, rfl⟩ := List.length_eq_one_iff.mp hone
  rw [pack, if_neg (by simp), List.head?_cons, unwrap_some, pure_bind]
  rfl

/-- The number of messages of a call that is not refused. -/
def batchCount (dests : List String) (payloads : List Bytes) : Nat :=
  if 1 < payloads.length then
    (Packing.groups entrySize maxClientMessageSize [] (payloads.zip dests)).length
  else 1

/-- Where the node is readable, the messages are made unless there is a reason to
refuse the call. -/
theorem outboundMessages_readable (hnode : c.node.isSome) (hread : NodeReadable c) (rng : Draws)
    (maxHoldingSeconds : UInt32) {dests : List String} {payloads : List Bytes} (hne : dests ≠ [])
    (hmatch : Matches dests payloads) :
    (∃ e, outboundMessages d rng maxHoldingSeconds dests payloads c = (.err e, c) ∧
      (Oversize dests payloads ∨ ∃ dest ∈ dests, ¬ Parses d dest)) ∨
    ∃ msgs, outboundMessages d rng maxHoldingSeconds dests payloads c = (.ok msgs, c) ∧
      ¬ Oversize dests payloads ∧ msgs.length = batchCount dests payloads ∧
      Batched d c dests payloads msgs := by
  have hpos := List.length_pos_iff.mpr hne
  unfold outboundMessages
  by_cases hseveral : 1 < payloads.length
  · have hlen := hmatch.resolve_left (by omega)
    rw [pack_several hseveral, Oversize, batchCount, if_pos hseveral, if_pos hseveral]
    rcases batchFrom_readable (d := d) (c := c) hnode hread total_nil_le with
      ⟨e, herr, hreason⟩ | ⟨full, groups, last, hok, hgroups, hmades, hsizes⟩
    · refine Or.inl ⟨e, bind_err herr, hreason.imp id ?_⟩
      rintro ⟨⟨payload, dest⟩, hentry, hparse⟩
      exact ⟨dest, (List.of_mem_zip hentry).2, hparse⟩
    · rw [bind_ok hok]
      dsimp only
      have hlast : Packing.total entrySize last ≤ maxClientMessageSize :=
        Packing.total_le_of_mem_groups hsizes total_nil_le last (by simp [hgroups])
      have hflat : (Packing.groups entrySize maxClientMessageSize []
          (payloads.zip dests)).flatten = [] ++ payloads.zip dests := Packing.flatten_groups
      rw [hgroups, List.flatten_append, List.flatten_singleton, List.nil_append] at hflat
      rcases createOutboundMessage_group (d := d) hnode hread _ maxHoldingSeconds hlast with
        ⟨e, herr, ⟨payload, dest⟩, hentry, hparse⟩ | ⟨m, hmsg, hmade⟩
      · have hzip : (payload, dest) ∈ payloads.zip dests := by
          rw [← hflat]
          exact List.mem_append_right _ hentry
        exact Or.inl ⟨e, bind_err herr, Or.inr ⟨dest, (List.of_mem_zip hzip).2, hparse⟩⟩
      · have hall : List.Forall₂ (MadeFor d c)
            (Packing.groups entrySize maxClientMessageSize [] (payloads.zip dests)) (full ++ [m]) := by
          rw [hgroups]
          exact List.rel_append hmades (.cons hmade .nil)
        refine Or.inr ⟨_, bind_ok hmsg, ?_, hall.length_eq.symm, .of_groups hseveral hlen hsizes hall⟩
        rintro ⟨entry, hentry, hover⟩
        exact Nat.not_le_of_lt hover (hsizes entry hentry)
  · have hone : payloads.length = 1 := hmatch.elim id fun h => by omega
    rw [pack_single hone, Oversize, batchCount, if_neg hseveral, if_neg hseveral]
    by_cases hover : maxClientMessageSize < messageSize dests payloads
    · rw [if_pos hover]
      exact Or.inl ⟨_, rfl, Or.inl hover⟩
    · rw [if_neg hover, Exec.pure_bind]
      dsimp only
      have hsize := length_lt_of_messageSize_le (Nat.le_of_not_lt hover)
      rcases createOutboundMessage_readable (d := d) hnode hread hmatch hsize with
        ⟨e, herr, hparse⟩ | ⟨m, hmsg, hdests, hpayloads, hsigned⟩
      · exact Or.inl ⟨e, bind_err herr, Or.inr hparse⟩
      · exact Or.inr ⟨_, bind_ok hmsg, hover, rfl,
          .single hne hmatch (Nat.le_of_not_lt hover) hdests hpayloads hsigned⟩

/-- Where the node is not readable, there are no messages, and an error only if an
oversize payload comes up before the first message is full. -/
theorem outboundMessages_unreadable (hread : ¬ NodeReady c) (rng : Draws)
    (maxHoldingSeconds : UInt32) (dests : List String) {payloads : List Bytes}
    (hne : payloads ≠ []) :
    (OversizeFirst dests payloads ∧
      ∃ e, outboundMessages d rng maxHoldingSeconds dests payloads c = (.err e, c)) ∨
    (¬ OversizeFirst dests payloads ∧
      outboundMessages d rng maxHoldingSeconds dests payloads c = (.panic, c)) := by
  have hpos := List.length_pos_iff.mpr hne
  have hlast : ∀ nonce destList payloadList,
      createOutboundMessage d nonce destList payloadList maxHoldingSeconds c = (.panic, c) :=
    fun _ _ _ => createOutboundMessage_unreadable hread _ _ _ _
  unfold outboundMessages
  by_cases hseveral : 1 < payloads.length
  · rw [pack_several hseveral, OversizeFirst, if_pos hseveral]
    rcases batchFrom_unreadable (d := d) hread total_nil_le with
      ⟨hblocked, e, herr⟩ | ⟨hfree, hpanic | ⟨packed, hok⟩⟩
    · exact Or.inl ⟨hblocked, e, bind_err herr⟩
    · exact Or.inr ⟨hfree, bind_panic hpanic⟩
    · exact Or.inr ⟨hfree, by rw [bind_ok hok]; exact bind_panic (hlast _ _ _)⟩
  · have hone : payloads.length = 1 := by omega
    rw [pack_single hone, OversizeFirst, if_neg hseveral]
    by_cases hover : maxClientMessageSize < messageSize dests payloads
    · rw [if_pos hover]
      exact Or.inl ⟨hover, _, rfl⟩
    · rw [if_neg hover, Exec.pure_bind]
      exact Or.inr ⟨hover, bind_panic (hlast _ _ _)⟩

/-! ## Payloads -/

/-- The keys of the destinations can be converted to the curve. -/
def Converts (d : ClientDeps) (dests : List String) : Prop :=
  ∀ dest ∈ dests, ∀ publicKey, ParsesTo d dest publicKey → (d.toCurve25519Pk publicKey).isSome

/-- The texts of the keys in the cache. -/
def Known (c : Client) (text : String) : Prop := (c.sharedKeys.lookup text).isSome

/-- The key of each destination in turn is in the cache by then or can be converted to the
curve, up to the first destination that cannot be parsed. -/
def KeysFound (d : ClientDeps) : (String → Prop) → List String → Prop
  | _, [] => True
  | known, dest :: dests => ∀ publicKey, ParsesTo d dest publicKey →
      (known (Utils.keyText publicKey) ∨ (d.toCurve25519Pk publicKey).isSome) ∧
        KeysFound d (fun text => text = Utils.keyText publicKey ∨ known text) dests

theorem Converts.keysFound {dests : List String} (h : Converts d dests) (known : String → Prop) :
    KeysFound d known dests := by
  induction dests generalizing known with
  | nil => trivial
  | cons dest dests ih =>
      rw [Converts, List.forall_mem_cons] at h
      exact fun publicKey hparse => ⟨Or.inr (h.1 publicKey hparse), ih h.2 _⟩

theorem sharedKeyWith_ok {publicKey : PublicKey}
    (h : Known c (Utils.keyText publicKey) ∨ (d.toCurve25519Pk publicKey).isSome) :
    ∃ key sharedKeys, sharedKeyWith d publicKey c = (.ok key, { c with sharedKeys }) ∧
      ∀ text, Known { c with sharedKeys } text ↔ text = Utils.keyText publicKey ∨ Known c text := by
  rw [sharedKeyWith_eq, Utils.getOrComputeSharedKey, get_bind_apply]
  cases hlookup : c.sharedKeys.lookup (Utils.keyText publicKey) with
  | some key =>
      refine ⟨key, c.sharedKeys, rfl, fun text => ⟨Or.inr, ?_⟩⟩
      rintro (rfl | hknown)
      · exact Option.isSome_iff_exists.mpr ⟨key, hlookup⟩
      · exact hknown
  | none =>
      have hcurve : (d.toCurve25519Pk publicKey).isSome := by
        refine h.resolve_left fun hknown => ?_
        rw [Known, hlookup] at hknown
        cases hknown
      obtain ⟨curvePublicKey, hcurve⟩ := Option.isSome_iff_exists.mp hcurve
      dsimp only
      rw [if_neg (by simp [publicKeyLen]), Utils.ed25519PublicKeyToCurve25519PublicKey, hcurve]
      let key := d.precompute curvePublicKey c.curveSecretKey
      refine ⟨key, c.sharedKeys.insert (Utils.keyText publicKey) key, rfl, fun text => ?_⟩
      show ((c.sharedKeys.insert (Utils.keyText publicKey) key).lookup text).isSome ↔ _
      by_cases htext : text = Utils.keyText publicKey
      · subst htext
        rw [AList.lookup_insert]
        exact iff_of_true rfl (Or.inl rfl)
      · rw [AList.lookup_insert_ne htext, or_iff_right htext]
        exact Iff.rfl

/-- A key that is neither in the cache nor convertible panics. -/
theorem sharedKeyWith_panic {publicKey : PublicKey}
    (h : ¬ (Known c (Utils.keyText publicKey) ∨ (d.toCurve25519Pk publicKey).isSome)) :
    sharedKeyWith d publicKey c = (.panic, c) := by
  rw [sharedKeyWith_eq, Utils.getOrComputeSharedKey, get_bind_apply]
  cases hlookup : c.sharedKeys.lookup (Utils.keyText publicKey) with
  | some key => exact absurd (Or.inl (by rw [Known, hlookup]; rfl)) h
  | none =>
      have hcurve : d.toCurve25519Pk publicKey = none :=
        Option.not_isSome_iff_eq_none.mp fun hsome => h (Or.inr hsome)
      dsimp only
      rw [if_neg (by simp [publicKeyLen]), Utils.ed25519PublicKeyToCurve25519PublicKey, hcurve]
      rfl

theorem encryptFor_cases (rng : Draws) (encryptedPayload : Bytes) {dests : List (String × Nat)}
    {known : String → Prop} (hknown : ∀ text, Known c text ↔ known text)
    (hkeys : KeysFound d known (dests.map Prod.fst)) :
    (∃ e sharedKeys, encryptFor d rng encryptedPayload dests c = (.err e, { c with sharedKeys }) ∧
      ∃ dest ∈ dests.map Prod.fst, ¬ Parses d dest) ∨
    ∃ msgs sharedKeys,
      encryptFor d rng encryptedPayload dests c = (.ok msgs, { c with sharedKeys }) ∧
      msgs.length = dests.length ∧ ∀ dest ∈ dests.map Prod.fst, Parses d dest := by
  induction dests generalizing c known with
  | nil => exact Or.inr ⟨[], c.sharedKeys, rfl, rfl, by simp⟩
  | cons dest dests ih =>
      obtain ⟨dest, i⟩ := dest
      rw [List.map_cons] at hkeys
      rw [encryptFor]
      rcases parseClientAddress_cases (d := d) dest with
        ⟨e, hparse, hbad⟩ | ⟨destId, publicKey, identifier, hparse, hparses⟩
      · rw [hparse]
        exact Or.inl ⟨e, c.sharedKeys, rfl, dest, List.mem_cons_self, hbad⟩
      · obtain ⟨hfound, hrest⟩ := hkeys publicKey hparses
        rw [← hknown] at hfound
        obtain ⟨key, sharedKeys, hkey, hknown'⟩ := sharedKeyWith_ok hfound
        rw [hparse, ofExcept_ok, pure_bind]
        dsimp only
        rw [bind_ok hkey, bind_ok (encrypt_eq _ _ _ _)]
        rcases ih (c := { c with sharedKeys })
          (fun text => (hknown' text).trans (or_congr_right (hknown text))) hrest with
          ⟨e, _, herr, other, hother, hbad⟩ | ⟨msgs, _, hok, hlen, hall⟩
        · exact Or.inl ⟨e, _, bind_err herr, other, List.mem_cons_of_mem _ hother, hbad⟩
        · refine Or.inr ⟨_, _, bind_ok hok, ?_, ?_⟩
          · rw [List.length_cons, List.length_cons, hlen]
          · exact List.forall_mem_cons.mpr ⟨⟨publicKey, hparses⟩, hall⟩

/-- The payloads are made unless a destination that one is encrypted for cannot be
parsed. -/
theorem createPayloads_cases (rng : Draws) (payload : Pb.Payloads.Payload) (encrypted : Bool)
    {dests : List String} (hne : dests ≠ [])
    (hkeys : encrypted = true → KeysFound d (Known c) dests) :
    (∃ e sharedKeys,
      createPayloads d rng dests payload encrypted c = (.err e, { c with sharedKeys }) ∧
      encrypted = true ∧ ∃ dest ∈ dests, ¬ Parses d dest) ∨
    ∃ payloads sharedKeys,
      createPayloads d rng dests payload encrypted c = (.ok payloads, { c with sharedKeys }) ∧
      Matches dests payloads ∧ (encrypted = true → ∀ dest ∈ dests, Parses d dest) := by
  rw [createPayloads]
  cases encrypted with
  | false => exact Or.inr ⟨_, c.sharedKeys, rfl, Or.inl rfl, by simp⟩
  | true =>
      rw [if_pos rfl, encryptPayload]
      dsimp only
      by_cases hseveral : 1 < dests.length
      · rw [if_pos hseveral, bind_ok (encrypt_eq _ _ _ _)]
        have hzip := List.zipIdx_map_fst 0 dests
        rcases encryptFor_cases (d := d) (c := c) rng _ (fun _ => Iff.rfl)
          (hzip.symm ▸ hkeys rfl) with ⟨e, sharedKeys, herr, hbad⟩ | ⟨msgs, sharedKeys, hok, hlen, hall⟩
        · rw [hzip] at hbad
          exact Or.inl ⟨e, sharedKeys, herr, rfl, hbad⟩
        · rw [hzip] at hall
          rw [List.length_zipIdx] at hlen
          exact Or.inr ⟨msgs, sharedKeys, hok, Or.inr hlen, fun _ => hall⟩
      · obtain ⟨dest, rfl⟩ : ∃ dest, dests = [dest] := by
          have hpos := List.length_pos_iff.mpr hne
          exact List.length_eq_one_iff.mp (by omega)
        rw [if_neg hseveral, List.head?_cons, unwrap_some, pure_bind]
        rcases parseClientAddress_cases (d := d) dest with
          ⟨e, hparse, hbad⟩ | ⟨destId, publicKey, identifier, hparse, hparses⟩
        · rw [hparse]
          exact Or.inl ⟨e, c.sharedKeys, rfl, rfl, dest, List.mem_cons_self, hbad⟩
        · obtain ⟨key, sharedKeys, hkey, -⟩ :=
            sharedKeyWith_ok (c := c) (hkeys rfl publicKey hparses).1
          rw [hparse, ofExcept_ok, pure_bind]
          dsimp only
          rw [bind_ok hkey, bind_ok (encrypt_eq _ _ _ _)]
          exact Or.inr ⟨_, sharedKeys, rfl, Or.inl rfl,
            fun _ => List.forall_mem_singleton.mpr ⟨publicKey, hparses⟩⟩

/-! ## The call -/

theorem sendMessages_eq {dests resolved : List String}
    (hdests : processDests d dests = .ok resolved) (hne : resolved ≠ []) (rng : Draws) (payload : Pb.Payloads.Payload) (encrypted : Bool)
    (maxHoldingSeconds : UInt32) :
    sendMessages d rng dests payload encrypted maxHoldingSeconds =
      createPayloads d rng resolved payload encrypted >>= fun payloads =>
      outboundMessages d rng maxHoldingSeconds resolved payloads >>= fun msgs =>
      msgs.forM fun m => logged (writeMessage (createClientMessage d m).encode) := by
  rw [sendMessages, hdests, ofExcept_ok, Exec.pure_bind, if_neg hne]
  refine congrArg (createPayloads d rng resolved payload encrypted >>= ·)
    (funext fun payloads => ?_)
  rw [outboundMessages, Exec.bind_assoc]
  refine congrArg (pack d rng maxHoldingSeconds resolved payloads >>= ·) (funext fun packed => ?_)
  obtain ⟨outboundMsgs, destList, payloadList⟩ := packed
  dsimp only
  rw [Exec.bind_assoc]
  rfl

/-- The frames of the messages. -/
def frames (d : ClientDeps) (msgs : List Pb.OutboundMessage) : List WsMessage :=
  msgs.map fun m => .binary (createClientMessage d m).encode

/-- Writing puts the messages on an open queue, in their order. -/
theorem forM_writeMessage {stdin : Stdin} (hopen : stdin.isOpen = true)
    (hstdin : c.stdin = some stdin) (msgs : List Pb.OutboundMessage) :
    (msgs.forM fun m => logged (writeMessage (createClientMessage d m).encode) :
        ClientCall Unit) c =
      (.ok (), { c with
        stdin := some { stdin with queue := stdin.queue ++ frames d msgs } }) := by
  induction msgs generalizing c stdin with
  | nil =>
      rw [frames, List.map_nil, List.append_nil, ← hstdin]
      rfl
  | cons m msgs ih =>
      have hwrite : (logged (writeMessage (createClientMessage d m).encode) : ClientCall Unit) c =
          (.ok (), { c with
            stdin := some { stdin with
              queue := stdin.queue ++ [.binary (createClientMessage d m).encode] } }) := by
        rw [logged, writeMessage, get_bind_apply, hstdin, unwrap_some, Exec.pure_bind, if_pos hopen]
        rfl
      have hrest := @ih { c with
        stdin := some { stdin with
          queue := stdin.queue ++ [.binary (createClientMessage d m).encode] } }
        { stdin with queue := stdin.queue ++ [.binary (createClientMessage d m).encode] } hopen rfl
      have happend : stdin.queue ++ [.binary (createClientMessage d m).encode] ++ frames d msgs =
          stdin.queue ++ frames d (m :: msgs) := List.append_assoc _ _ _
      rw [happend] at hrest
      exact (bind_ok hwrite).trans hrest

/-- The client has a node and an open websocket. -/
structure Connected (c : Client) (stdin : Stdin) : Prop where
  node : c.node.isSome
  stdin_eq : c.stdin = some stdin
  isOpen : stdin.isOpen = true

/-- There is a reason to refuse the call: a destination that cannot be parsed, or an
oversize payload. -/
def Refused (d : ClientDeps) (rng : Draws) (dests : List String) (payload : Pb.Payloads.Payload)
    (encrypted : Bool) (c : Client) : Prop :=
  (∃ dest ∈ dests, ¬ Parses d dest) ∨
    ∃ payloads, (createPayloads d rng dests payload encrypted c).1 = .ok payloads ∧
      Oversize dests payloads

/-- The reason comes up before the first outbound message is made. -/
def RefusedFirst (d : ClientDeps) (rng : Draws) (dests : List String)
    (payload : Pb.Payloads.Payload) (encrypted : Bool) (c : Client) : Prop :=
  (encrypted = true ∧ ∃ dest ∈ dests, ¬ Parses d dest) ∨
    ∃ payloads, (createPayloads d rng dests payload encrypted c).1 = .ok payloads ∧
      OversizeFirst dests payloads

/-- A refused call returns an error and writes nothing.  Any other call returns and
writes the messages for `resolved`. -/
structure SendsBatched (d : ClientDeps) (rng : Draws) (dests resolved : List String)
    (payload : Pb.Payloads.Payload) (encrypted : Bool) (maxHoldingSeconds : UInt32) (c : Client)
    (stdin : Stdin) : Prop where
  refused : Refused d rng resolved payload encrypted c →
    ∃ e c', sendMessages d rng dests payload encrypted maxHoldingSeconds c = (.err e, c') ∧
      c'.stdin = some stdin
  sent : ¬ Refused d rng resolved payload encrypted c →
    ∃ payloads msgs c', (createPayloads d rng resolved payload encrypted c).1 = .ok payloads ∧
      Batched d c resolved payloads msgs ∧
      sendMessages d rng dests payload encrypted maxHoldingSeconds c = (.ok (), c') ∧
      c'.stdin = some { stdin with queue := stdin.queue ++ frames d msgs }

theorem not_sendsBatched_of_panic {dests resolved : List String} {payload : Pb.Payloads.Payload}
    {encrypted : Bool} {maxHoldingSeconds : UInt32} {stdin : Stdin}
    (hpanic : (sendMessages d rng dests payload encrypted maxHoldingSeconds c).1 = .panic) :
    ¬ SendsBatched d rng dests resolved payload encrypted maxHoldingSeconds c stdin := by
  intro h
  by_cases hrefused : Refused d rng resolved payload encrypted c
  · obtain ⟨e, c', herr, -⟩ := h.refused hrefused
    rw [herr] at hpanic
    cases hpanic
  · obtain ⟨_, _, c', -, -, hok, -⟩ := h.sent hrefused
    rw [hok] at hpanic
    cases hpanic

/-- A connected client sends in batches and all or nothing exactly where its node's
public key and block hash are hexadecimal, or the call is refused before the first
outbound message is made. -/
theorem sends_batched_iff (d : ClientDeps) (rng : Draws) (dests resolved : List String)
    (payload : Pb.Payloads.Payload) (encrypted : Bool) (maxHoldingSeconds : UInt32) (c : Client)
    (stdin : Stdin) (hconnected : Connected c stdin)
    (hdests : processDests d dests = .ok resolved) (hne : resolved ≠ [])
    (hcurve : Converts d resolved) :
    SendsBatched d rng dests resolved payload encrypted maxHoldingSeconds c stdin ↔
      NodeReadable c ∨ RefusedFirst d rng resolved payload encrypted c := by
  have hsend := sendMessages_eq hdests hne rng payload encrypted maxHoldingSeconds
  rcases createPayloads_cases (c := c) rng payload encrypted hne fun _ => hcurve.keysFound _ with
    ⟨e, sharedKeys, herr, hencrypted, hbad⟩ | ⟨payloads, sharedKeys, hok, hmatch, hparses⟩
  · refine iff_of_true ⟨fun _ => ?_, fun h => absurd (Or.inl hbad) h⟩
      (Or.inr (Or.inl ⟨hencrypted, hbad⟩))
    refine ⟨e, { c with sharedKeys }, ?_, hconnected.stdin_eq⟩
    rw [hsend, bind_err herr]
  have hfst : (createPayloads d rng resolved payload encrypted c).1 = .ok payloads := by rw [hok]
  have hcall : sendMessages d rng dests payload encrypted maxHoldingSeconds c =
      (outboundMessages d rng maxHoldingSeconds resolved payloads >>= fun msgs =>
        msgs.forM fun m => logged (writeMessage (createClientMessage d m).encode))
        { c with sharedKeys } := by
    rw [hsend, bind_ok hok]
  by_cases hread : NodeReadable c
  · refine iff_of_true ?_ (Or.inl hread)
    have hnode : ({ c with sharedKeys } : Client).node.isSome := hconnected.node
    have hread' : NodeReadable { c with sharedKeys } := ⟨hread.pubkey, hread.blockHash⟩
    rcases outboundMessages_readable (d := d) hnode hread' rng maxHoldingSeconds hne hmatch
      with ⟨e, herr, hreason⟩ | ⟨msgs, hmsgs, hsize, -, hbatched⟩
    · refine ⟨fun _ => ⟨e, _, hcall.trans (bind_err herr), hconnected.stdin_eq⟩, fun h => ?_⟩
      exact absurd (hreason.elim (fun hover => Or.inr ⟨payloads, hfst, hover⟩) Or.inl) h
    · refine ⟨fun h => ?_, fun _ => ?_⟩
      · rcases h with ⟨dest, hdest, hbad⟩ | ⟨payloads', hpayloads', hover⟩
        · exact absurd (hbatched.parses hmatch dest hdest) hbad
        · cases hfst.symm.trans hpayloads'
          exact absurd hover hsize
      · have hwrite := forM_writeMessage (d := d) (c := { c with sharedKeys }) hconnected.isOpen
          hconnected.stdin_eq msgs
        exact ⟨payloads, msgs, _, hfst, hbatched.of_sharedKeys,
          hcall.trans ((bind_ok hmsgs).trans hwrite), rfl⟩
  · have hread' : ¬ NodeReady { c with sharedKeys } :=
      fun h => hread ⟨h.readable.pubkey, h.readable.blockHash⟩
    have hpayloads : payloads ≠ [] := by
      rw [← List.length_pos_iff]
      have hpos := List.length_pos_iff.mpr hne
      rcases hmatch with hone | hlen
      · omega
      · omega
    rcases outboundMessages_unreadable (d := d) hread' rng maxHoldingSeconds resolved hpayloads
      with ⟨hfirst, e, herr⟩ | ⟨hfree, hpanic⟩
    · refine iff_of_true ⟨fun _ => ⟨e, _, hcall.trans (bind_err herr), hconnected.stdin_eq⟩,
        fun h => ?_⟩ (Or.inr (Or.inr ⟨payloads, hfst, hfirst⟩))
      exact absurd (Or.inr ⟨payloads, hfst, hfirst.oversize⟩) h
    · refine iff_of_false (not_sendsBatched_of_panic ?_) ?_
      · rw [hcall, bind_panic hpanic]
      · rintro (h | ⟨hencrypted, dest, hdest, hbad⟩ | ⟨payloads', hpayloads', hfirst⟩)
        · exact hread h
        · exact hbad (hparses hencrypted dest hdest)
        · cases hfst.symm.trans hpayloads'
          exact hfree hfirst

/-! ## Two connected clients -/

namespace Exchange

def sampleStdin : Stdin := { isOpen := true, queue := [] }

theorem sample_connected : Connected sampleClient sampleStdin := ⟨rfl, rfl, rfl⟩

theorem sample_processDests :
    processDests sampleBoxDeps [sampleAddress] = .ok [sampleAddress] := by
  decide +kernel

theorem sample_converts : Converts sampleBoxDeps [sampleAddress] := by
  intro dest hdest publicKey hparse
  rw [List.mem_singleton.mp hdest] at hparse
  rw [hparse.unique sample_parsesTo]
  rfl

theorem sample_nodeReadable : NodeReadable sampleClient where
  pubkey := by
    rintro _ ⟨⟩
    exact ⟨_, Hex.decode_encode _⟩
  blockHash := by
    rintro _ ⟨⟩

/-- A message of the sample client to itself, not encrypted. -/
theorem sample_sends_batched :
    SendsBatched sampleBoxDeps sampleDraws [sampleAddress] [sampleAddress] samplePayload false 0
      sampleClient sampleStdin :=
  (sends_batched_iff sampleBoxDeps sampleDraws [sampleAddress] [sampleAddress] samplePayload false 0
    sampleClient sampleStdin sample_connected sample_processDests (List.cons_ne_nil _ _)
    sample_converts).mpr (Or.inl sample_nodeReadable)

/-- The sample client, after its node has announced a block hash that is not
hexadecimal. -/
def announcedClient : Client := { sampleClient with sigChainBlockHash := some "zz" }

/-- The client whose node announced such a hash panics when it sends. -/
theorem announced_client_panics :
    Connected announcedClient sampleStdin ∧
      processDests sampleBoxDeps [sampleAddress] = .ok [sampleAddress] ∧
      Converts sampleBoxDeps [sampleAddress] ∧
      (sendMessages sampleBoxDeps sampleDraws [sampleAddress] samplePayload false 0
        announcedClient).1 = .panic ∧
      ¬ SendsBatched sampleBoxDeps sampleDraws [sampleAddress] [sampleAddress] samplePayload false 0
        announcedClient sampleStdin := by
  have hpanic : (sendMessages sampleBoxDeps sampleDraws [sampleAddress] samplePayload false 0
      announcedClient).1 = .panic := by
    decide +kernel
  exact ⟨⟨rfl, rfl, rfl⟩, sample_processDests, sample_converts, hpanic,
    not_sendsBatched_of_panic hpanic⟩

end Exchange

end NknSdk
