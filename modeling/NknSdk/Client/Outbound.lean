import NknSdk.Client.Encryption

/-!
# Outbound messages

What `create_outbound_message` makes of a list of destinations and their payloads.
A single payload is for all destinations, and of several each is for its own.

Where the node's public key and the block hash that it announced are hexadecimal
(`NodeReadable`), the message is made and signed for every destination, or a
destination cannot be parsed and the call returns an error.  Where they are not, it
panics.
-/

namespace NknSdk

open Exec

variable {d : ClientDeps} {c : Client}

/-! ## Deliveries -/

/-- The address can be parsed. -/
def Parses (d : ClientDeps) (address : String) : Prop := ∃ publicKey, ParsesTo d address publicKey

/-- The payload of each destination: the only one there is, or its own. -/
def payloadsFor (dests : List String) : List Bytes → List Bytes
  | [payload] => dests.map fun _ => payload
  | payloads => payloads

/-- The destinations, each with its payload. -/
def deliveries (dests : List String) (payloads : List Bytes) : List (String × Bytes) :=
  dests.zip (payloadsFor dests payloads)

/-- Each of several payloads has a destination, and a single one is for all. -/
def Matches (dests : List String) (payloads : List Bytes) : Prop :=
  payloads.length = 1 ∨ payloads.length = dests.length

theorem payloadsFor_of_ne_one {dests : List String} {payloads : List Bytes}
    (h : payloads.length ≠ 1) : payloadsFor dests payloads = payloads := by
  cases payloads with
  | nil => rfl
  | cons payload payloads =>
      cases payloads with
      | nil => exact absurd rfl h
      | cons => rfl

theorem Matches.length_payloadsFor {dests : List String} {payloads : List Bytes}
    (h : Matches dests payloads) : (payloadsFor dests payloads).length = dests.length := by
  by_cases hone : payloads.length = 1
  · obtain ⟨payload, rfl⟩ := List.length_eq_one_iff.mp hone
    exact List.length_map _
  · rw [payloadsFor_of_ne_one hone]
    exact h.resolve_left hone

theorem Matches.map_fst_deliveries {dests : List String} {payloads : List Bytes}
    (h : Matches dests payloads) : (deliveries dests payloads).map Prod.fst = dests :=
  List.map_fst_zip h.length_payloadsFor.ge

theorem Matches.length_deliveries {dests : List String} {payloads : List Bytes}
    (h : Matches dests payloads) : (deliveries dests payloads).length = dests.length := by
  rw [deliveries, List.length_zip, h.length_payloadsFor, Nat.min_self]

/-- A payload that is delivered is one of the payloads. -/
theorem mem_of_mem_payloadsFor {dests : List String} {payloads : List Bytes} {payload : Bytes}
    (h : payload ∈ payloadsFor dests payloads) : payload ∈ payloads := by
  by_cases hone : payloads.length = 1
  · obtain ⟨only, rfl⟩ := List.length_eq_one_iff.mp hone
    obtain ⟨dest, -, rfl⟩ := List.mem_map.mp h
    exact List.mem_singleton_self _
  · rwa [payloadsFor_of_ne_one hone] at h

/-- What `create_outbound_message` finds at the index of a destination. -/
theorem Matches.getElem?_eq {dests : List String} {payloads : List Bytes}
    (h : Matches dests payloads) :
    List.Forall₂ (fun dest payload =>
      payloads[if 1 < payloads.length then dest.2 else 0]? = some payload)
      dests.zipIdx (payloadsFor dests payloads) := by
  rw [List.forall₂_iff_get]
  refine ⟨by rw [List.length_zipIdx, h.length_payloadsFor], ?_⟩
  intro i hi hi'
  rw [List.length_zipIdx] at hi
  by_cases hone : payloads.length = 1
  · obtain ⟨payload, rfl⟩ := List.length_eq_one_iff.mp hone
    simp [payloadsFor]
  · have hlen := h.resolve_left hone
    simp only [payloadsFor_of_ne_one hone, List.get_eq_getElem, List.getElem_zipIdx, Nat.zero_add]
    rw [if_pos (by omega), List.getElem?_eq_getElem]

/-! ## Signatures -/

/-- The signature of a sigchain with one element. -/
def sigChainSignature (d : ClientDeps) (c : Client) (sigChain : Pb.SigChain) (elem : Bytes) :
    Bytes :=
  let digest := d.primitives.sha256Hash
    (d.primitives.sha256Hash sigChain.serializeMetadata ++ elem)
  (d.primitives.ed25519Sign digest
    (c.account.privateKey.toList ++ c.account.publicKey.toList)).toList

/-- `signature` is the one for `delivery`: of the sigchain to this destination, whose
data size is the length of the payload. -/
def SignsDelivery (d : ClientDeps) (c : Client) (sigChain : Pb.SigChain) (elem : Bytes)
    (delivery : String × Bytes) (signature : Bytes) : Prop :=
  ∃ destId destPublicKey identifier dataSize,
    Utils.parseClientAddress d.primitives delivery.1 = .ok (destId, destPublicKey, identifier) ∧
    dataSize.toNat = delivery.2.length ∧
    signature = sigChainSignature d c
      { sigChain with destId, destPubkey := destPublicKey.toList, dataSize } elem

theorem parseClientAddress_cases (dest : String) :
    (∃ e, Utils.parseClientAddress d.primitives dest = .error e ∧ ¬ Parses d dest) ∨
      ∃ clientId publicKey identifier,
        Utils.parseClientAddress d.primitives dest = .ok (clientId, publicKey, identifier) ∧
        ParsesTo d dest publicKey := by
  cases hparse : Utils.parseClientAddress d.primitives dest with
  | error e =>
      refine Or.inl ⟨e, rfl, ?_⟩
      rintro ⟨publicKey, clientId, identifier, hok⟩
      rw [hparse] at hok
      cases hok
  | ok parsed => exact Or.inr ⟨_, _, _, rfl, _, _, hparse⟩

theorem signFor_cases (sigChain : Pb.SigChain) (elem : Bytes) {payloads : List Bytes}
    {dests : List (String × Nat)} {given : List Bytes}
    (hgiven : List.Forall₂ (fun dest payload =>
      payloads[if 1 < payloads.length then dest.2 else 0]? = some payload) dests given)
    (hsize : ∀ payload ∈ given, payload.length < UInt32.size) :
    (∃ e, signFor d sigChain elem payloads dests c = (.err e, c) ∧
      ∃ dest ∈ dests.map Prod.fst, ¬ Parses d dest) ∨
    ∃ signatures, signFor d sigChain elem payloads dests c = (.ok signatures, c) ∧
      List.Forall₂ (SignsDelivery d c sigChain elem) ((dests.map Prod.fst).zip given)
        signatures := by
  induction hgiven generalizing sigChain with
  | nil => exact Or.inr ⟨[], rfl, .nil⟩
  | @cons dest payload dests given hpayload _ ih =>
      rw [List.forall_mem_cons] at hsize
      obtain ⟨dest, i⟩ := dest
      simp only [signFor]
      rcases parseClientAddress_cases (d := d) dest with
        ⟨e, hparse, hbad⟩ | ⟨destId, destPublicKey, identifier, hparse, -⟩
      · rw [hparse]
        exact Or.inl ⟨e, rfl, dest, List.mem_cons_self, hbad⟩
      · rw [hparse, ofExcept_ok, pure_bind]
        dsimp only at hpayload ⊢
        rw [hpayload, unwrap_some, pure_bind, get_bind_apply]
        rcases ih { sigChain with
          destId
          destPubkey := destPublicKey.toList
          dataSize := UInt32.ofNat payload.length } hsize.2 with
          ⟨e, herr, other, hother, hbad⟩ | ⟨signatures, hok, hsigns⟩
        · exact Or.inl ⟨e, bind_err herr, other, List.mem_cons_of_mem _ hother, hbad⟩
        · refine Or.inr ⟨_, by rw [bind_ok hok]; rfl, .cons ?_ hsigns⟩
          exact ⟨destId, destPublicKey, identifier, UInt32.ofNat payload.length, hparse,
            by rw [UInt32.toNat_ofNat_of_lt' hsize.1], rfl⟩

/-! ## Outbound messages -/

/-- The node's public key and the block hash that it announced are hexadecimal. -/
structure NodeReadable (c : Client) : Prop where
  pubkey : ∀ node ∈ c.node, ∃ nodePublicKey, Hex.decode node.pubkey = some nodePublicKey
  blockHash : ∀ hash ∈ c.sigChainBlockHash, ∃ bytes, Hex.decode hash = some bytes

/-- The first element of the sigchains of `c`. -/
def sigChainElement (nodePublicKey : Bytes) : Pb.SigChainElem :=
  { nextPubkey := nodePublicKey, sigAlgo := Pb.SigAlgo.signature.toI32 }

/-- The sigchain of an outbound message, before it has a destination. -/
def sigChainOf (c : Client) (nonce : UInt32) (blockHash nodePublicKey : Bytes) : Pb.SigChain where
  nonce
  dataSize := 0
  blockHash
  srcId := c.addressId
  srcPubkey := c.account.publicKey.toList
  destId := []
  destPubkey := []
  elems := [sigChainElement nodePublicKey]

/-- Each destination of the message has its signature. -/
def Signed (d : ClientDeps) (c : Client) (m : Pb.OutboundMessage) : Prop :=
  ∃ node nodePublicKey, c.node = some node ∧ Hex.decode node.pubkey = some nodePublicKey ∧
    List.Forall₂
      (SignsDelivery d c (sigChainOf c m.nonce m.blockHash nodePublicKey)
        (sigChainElement nodePublicKey).serializeUnsigned)
      (deliveries m.dests m.payloads) m.signatures

theorem Signed.parses {m : Pb.OutboundMessage} (h : Signed d c m) :
    ∀ delivery ∈ deliveries m.dests m.payloads, Parses d delivery.1 := by
  obtain ⟨node, nodePublicKey, -, -, hsigns⟩ := h
  refine ((List.forall₂_and_left _ _).mp (hsigns.imp fun delivery signature h => ⟨?_, h⟩)).1
  obtain ⟨clientId, publicKey, identifier, _, hparse, -⟩ := h
  exact ⟨publicKey, clientId, identifier, hparse⟩

theorem decodeBlockHash_cases (hash : Option String) :
    (∃ bytes, (decodeBlockHash hash : ClientCall Bytes) = pure bytes) ∨
      (decodeBlockHash hash = panic ∧ ∃ text ∈ hash, Hex.decode text = none) := by
  cases hash with
  | none => exact Or.inl ⟨[], rfl⟩
  | some text =>
      cases hdecode : Hex.decode text with
      | none => exact Or.inr ⟨by rw [decodeBlockHash, hdecode, unwrap_none], text, rfl, hdecode⟩
      | some bytes => exact Or.inl ⟨bytes, by rw [decodeBlockHash, hdecode, unwrap_some]⟩

/-- Where the node is readable, a message is made and signed unless a destination
cannot be parsed. -/
theorem createOutboundMessage_readable (hnode : c.node.isSome) (hread : NodeReadable c)
    {nonce : UInt32} {dests : List String} {payloads : List Bytes} {maxHoldingSeconds : UInt32}
    (hmatch : Matches dests payloads) (hsize : ∀ payload ∈ payloads, payload.length < UInt32.size) :
    (∃ e, createOutboundMessage d nonce dests payloads maxHoldingSeconds c = (.err e, c) ∧
      ∃ dest ∈ dests, ¬ Parses d dest) ∨
    ∃ m, createOutboundMessage d nonce dests payloads maxHoldingSeconds c = (.ok m, c) ∧
      m.dests = dests ∧ m.payloads = payloads ∧ Signed d c m := by
  obtain ⟨node, hnode⟩ := Option.isSome_iff_exists.mp hnode
  obtain ⟨nodePublicKey, hpubkey⟩ := hread.pubkey node hnode
  rcases decodeBlockHash_cases c.sigChainBlockHash with ⟨blockHash, hhash⟩ | ⟨-, hash, hsome, hbad⟩
  · rw [createOutboundMessage, get_bind_apply, hnode, unwrap_some, pure_bind, hpubkey, unwrap_some,
      pure_bind, hhash, pure_bind]
    rcases signFor_cases (d := d) (c := c) (sigChainOf c nonce blockHash nodePublicKey)
      (sigChainElement nodePublicKey).serializeUnsigned hmatch.getElem?_eq
      fun payload hpayload => hsize payload (mem_of_mem_payloadsFor hpayload) with
      ⟨e, herr, dest, hdest, hbad⟩ | ⟨signatures, hok, hsigns⟩
    · rw [List.zipIdx_map_fst] at hdest
      exact Or.inl ⟨e, bind_err herr, dest, hdest, hbad⟩
    · rw [List.zipIdx_map_fst] at hsigns
      exact Or.inr ⟨_, bind_ok hok, rfl, rfl, node, nodePublicKey, hnode, hpubkey, hsigns⟩
  · obtain ⟨bytes, hdecode⟩ := hread.blockHash hash hsome
    rw [hdecode] at hbad
    cases hbad

/-- The client has a node, which is readable. -/
structure NodeReady (c : Client) : Prop where
  node : c.node.isSome
  readable : NodeReadable c

/-- Where the node is not there or not readable, no message is made. -/
theorem createOutboundMessage_unreadable (hread : ¬ NodeReady c) (nonce : UInt32)
    (dests : List String) (payloads : List Bytes) (maxHoldingSeconds : UInt32) :
    createOutboundMessage d nonce dests payloads maxHoldingSeconds c = (.panic, c) := by
  rw [createOutboundMessage, get_bind_apply]
  cases hnode : c.node with
  | none => rfl
  | some node =>
      rw [unwrap_some, pure_bind]
      cases hpubkey : Hex.decode node.pubkey with
      | none => rfl
      | some nodePublicKey =>
          rw [unwrap_some, pure_bind]
          rcases decodeBlockHash_cases c.sigChainBlockHash with ⟨blockHash, hhash⟩ | ⟨hpanic, -⟩
          · refine absurd ⟨by rw [hnode]; rfl, ?_, ?_⟩ hread
            · rw [hnode]
              rintro _ ⟨⟩
              exact ⟨nodePublicKey, hpubkey⟩
            · intro hash hsome
              cases hdecode : Hex.decode hash with
              | some bytes => exact ⟨bytes, rfl⟩
              | none =>
                  rw [Option.mem_def.mp hsome, decodeBlockHash, hdecode] at hhash
                  cases congrFun hhash c
          · rw [hpanic]
            rfl

end NknSdk
