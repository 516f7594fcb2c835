import NknSdk.Pb.SigChain
import NknSdk.Serialization.PrefixFree

/-!
# What a sigchain signature commits to

`create_outbound_message` signs the hash of two parts: the hash of the metadata of
the sigchain and its unsigned element.  The first has the width of a hash, so the
two cannot be mixed up, and each part determines its fields because the format is
prefix-free.  The `vrf` of the element has no length of its own and stands last.
-/

namespace NknSdk.Pb

/-- What the fields of a sigchain can hold: a `Vec` has at most `isize::MAX` bytes. -/
structure SigChain.InMemory (c : SigChain) : Prop where
  blockHash : c.blockHash.length ≤ isizeMax
  srcId : c.srcId.length ≤ isizeMax
  srcPubkey : c.srcPubkey.length ≤ isizeMax
  destId : c.destId.length ≤ isizeMax
  destPubkey : c.destPubkey.length ≤ isizeMax

structure SigChainElem.InMemory (e : SigChainElem) : Prop where
  id : e.id.length ≤ isizeMax
  nextPubkey : e.nextPubkey.length ≤ isizeMax

/-- The metadata determines the fields that it is made of. -/
theorem SigChain.serializeMetadata_inj {c c' : SigChain} (hc : c.InMemory) (hc' : c'.InMemory)
    (h : c.serializeMetadata = c'.serializeMetadata) :
    c.nonce = c'.nonce ∧ c.dataSize = c'.dataSize ∧ c.blockHash = c'.blockHash ∧
      c.srcId = c'.srcId ∧ c.srcPubkey = c'.srcPubkey ∧ c.destId = c'.destId ∧
      c.destPubkey = c'.destPubkey := by
  simp only [SigChain.serializeMetadata, List.append_assoc] at h
  obtain ⟨hnonce, h⟩ := writeU32_selfDelimiting _ _ _ _ h
  obtain ⟨hdataSize, h⟩ := writeU32_selfDelimiting _ _ _ _ h
  obtain ⟨hblockHash, h⟩ := writeVarBytes_inj hc.blockHash hc'.blockHash h
  obtain ⟨hsrcId, h⟩ := writeVarBytes_inj hc.srcId hc'.srcId h
  obtain ⟨hsrcPubkey, h⟩ := writeVarBytes_inj hc.srcPubkey hc'.srcPubkey h
  obtain ⟨hdestId, h⟩ := writeVarBytes_inj hc.destId hc'.destId h
  have hdestPubkey : c.destPubkey = c'.destPubkey :=
    (writeVarBytes_inj (r := []) (s := []) hc.destPubkey hc'.destPubkey (by rw [h])).1
  exact ⟨hnonce, hdataSize, hblockHash, hsrcId, hsrcPubkey, hdestId, hdestPubkey⟩

/-- The unsigned element determines the fields that it is made of. -/
theorem SigChainElem.serializeUnsigned_inj {e e' : SigChainElem} (he : e.InMemory)
    (he' : e'.InMemory) (h : e.serializeUnsigned = e'.serializeUnsigned) :
    e.id = e'.id ∧ e.nextPubkey = e'.nextPubkey ∧ e.mining = e'.mining ∧ e.vrf = e'.vrf := by
  simp only [SigChainElem.serializeUnsigned, List.append_assoc] at h
  obtain ⟨hid, h⟩ := writeVarBytes_inj he.id he'.id h
  obtain ⟨hnextPubkey, h⟩ := writeVarBytes_inj he.nextPubkey he'.nextPubkey h
  obtain ⟨hmining, hvrf⟩ := writeBool_selfDelimiting _ _ _ _ h
  exact ⟨hid, hnextPubkey, hmining, hvrf⟩

/-- The bytes that are hashed for one signature. -/
def digested (sha256Hash : Bytes → Bytes) (sigChain : SigChain) (sigChainElement : SigChainElem) :
    Bytes :=
  sha256Hash sigChain.serializeMetadata ++ sigChainElement.serializeUnsigned

/-- The messages that are hashed for one signature. -/
def hashedFor (sha256Hash : Bytes → Bytes) (sigChain : SigChain)
    (sigChainElement : SigChainElem) : Set Bytes :=
  {sigChain.serializeMetadata, digested sha256Hash sigChain sigChainElement}

/-- Two digests agree only if every field that was written does, as long as the
hash has no collision among the messages that were hashed. -/
theorem digest_commits {sha256Hash : Bytes → Bytes} (hlen : ∀ data, (sha256Hash data).length = 32)
    (c c' : SigChain) (e e' : SigChainElem)
    (hinj : Set.InjOn sha256Hash (hashedFor sha256Hash c e ∪ hashedFor sha256Hash c' e'))
    (hc : c.InMemory) (hc' : c'.InMemory) (he : e.InMemory) (he' : e'.InMemory)
    (h : sha256Hash (sha256Hash c.serializeMetadata ++ e.serializeUnsigned) =
      sha256Hash (sha256Hash c'.serializeMetadata ++ e'.serializeUnsigned)) :
    (c.nonce = c'.nonce ∧ c.dataSize = c'.dataSize ∧ c.blockHash = c'.blockHash ∧
      c.srcId = c'.srcId ∧ c.srcPubkey = c'.srcPubkey ∧ c.destId = c'.destId ∧
      c.destPubkey = c'.destPubkey) ∧
    e.id = e'.id ∧ e.nextPubkey = e'.nextPubkey ∧ e.mining = e'.mining ∧ e.vrf = e'.vrf := by
  have hparts : sha256Hash c.serializeMetadata ++ e.serializeUnsigned =
      sha256Hash c'.serializeMetadata ++ e'.serializeUnsigned :=
    hinj (Or.inl (Or.inr rfl)) (Or.inr (Or.inr rfl)) h
  obtain ⟨hhash, helem⟩ := List.append_inj hparts (by rw [hlen, hlen])
  have hmetadata : c.serializeMetadata = c'.serializeMetadata :=
    hinj (Or.inl (Or.inl rfl)) (Or.inr (Or.inl rfl)) hhash
  exact ⟨SigChain.serializeMetadata_inj hc hc' hmetadata,
    SigChainElem.serializeUnsigned_inj he he' helem⟩

/-! ## A sample -/

def sampleSigChain : SigChain where
  nonce := 7
  dataSize := 2
  blockHash := [9]
  srcId := []
  srcPubkey := [5]
  destId := []
  destPubkey := []
  elems := []

def sampleSigChainElem : SigChainElem := { nextPubkey := [3] }

/-- The hash of the metadata of the sample. -/
def sampleMetadataHash : Bytes :=
  [0x2F, 0xE3, 0xD1, 0x7B, 0x09, 0xFF, 0x16, 0x84, 0x66, 0xBD, 0x5A, 0x7D, 0x90, 0xC5, 0xCD, 0xD7,
    0x8E, 0xAE, 0x75, 0x1F, 0x56, 0x77, 0x0F, 0x36, 0x8F, 0x53, 0x27, 0x1D, 0xF9, 0xFA, 0xCC, 0x64]

/-- The hash that is signed for the sample. -/
def sampleDigest : Bytes :=
  [0xC1, 0xE5, 0x81, 0x3D, 0xB9, 0x10, 0xCF, 0x40, 0x45, 0x7C, 0x28, 0x9C, 0xEE, 0x38, 0xC4, 0x01,
    0x18, 0x40, 0x61, 0x9B, 0xCC, 0x1B, 0xFF, 0x87, 0x81, 0x5E, 0x0A, 0xC9, 0x9D, 0x63, 0x4D, 0x44]

/-- The hash on the two messages of the sample. -/
def sampleSha256 (data : Bytes) : Bytes :=
  if data = sampleSigChain.serializeMetadata then sampleMetadataHash
  else if data = sampleMetadataHash ++ sampleSigChainElem.serializeUnsigned then sampleDigest
  else List.replicate 32 0

theorem length_sampleSha256 (data : Bytes) : (sampleSha256 data).length = 32 := by
  unfold sampleSha256
  split
  · rfl
  · split
    · rfl
    · rfl

/-- What is hashed for the sample. -/
def sampleHashed : Bool → Bytes
  | true => sampleSigChain.serializeMetadata
  | false => sampleMetadataHash ++ sampleSigChainElem.serializeUnsigned

theorem sampleSha256_injective :
    ∀ k l, sampleSha256 (sampleHashed k) = sampleSha256 (sampleHashed l) → k = l := by
  decide

theorem sampleSha256_injOn : Set.InjOn sampleSha256 (Set.range sampleHashed) := by
  rintro - ⟨k, rfl⟩ - ⟨l, rfl⟩ h
  rw [sampleSha256_injective k l h]

/-- The elements of a sigchain and the signature of an element are not committed to. -/
theorem digest_commits_sample :
    (sampleSigChain.nonce = 7 ∧ sampleSigChain.dataSize = 2 ∧ sampleSigChain.blockHash = [9] ∧
      sampleSigChain.srcId = [] ∧ sampleSigChain.srcPubkey = [5] ∧ sampleSigChain.destId = [] ∧
      sampleSigChain.destPubkey = []) ∧
    sampleSigChainElem.id = [] ∧ sampleSigChainElem.nextPubkey = [3] ∧
      sampleSigChainElem.mining = false ∧ sampleSigChainElem.vrf = [] := by
  refine digest_commits length_sampleSha256 sampleSigChain
    { sampleSigChain with elems := [sampleSigChainElem] } sampleSigChainElem
    { sampleSigChainElem with signature := [1], sigAlgo := 1 }
    (sampleSha256_injOn.mono ?_) ?_ ?_ ?_ ?_ rfl
  · rintro data ((rfl | rfl) | (rfl | rfl))
    · exact ⟨true, rfl⟩
    · exact ⟨false, by decide⟩
    · exact ⟨true, rfl⟩
    · exact ⟨false, by decide⟩
  · constructor <;> decide
  · constructor <;> decide
  · constructor <;> decide
  · constructor <;> decide

end NknSdk.Pb
