import NknSdk.Client.Replies
import NknSdk.Pb.Decode

/-!
# Encryption between two clients

`encrypt_payload` has two formats.  For one destination the payload is sealed with
the key that the two clients share.  For several it is sealed once with a fresh key,
and for each destination this key is sealed with the shared one; the two nonces
stand one after the other.  `decrypt_payload` tells them apart by whether there is a
sealed key.

Every recipient gets the payload back (`decrypt_encrypt`), if opening undoes sealing
and decoding undoes encoding, the two sides compute one shared key and their caches
return it.
-/

namespace NknSdk

open Exec

/-! ## Addresses and shared keys -/

/-- The address can be parsed, and `publicKey` is its key. -/
def ParsesTo (d : ClientDeps) (address : String) (publicKey : PublicKey) : Prop :=
  ∃ clientId identifier,
    Utils.parseClientAddress d.primitives address = .ok (clientId, publicKey, identifier)

/-- The key that the client shares with the owner of a public key, without a cache. -/
def Client.sharedKey (d : ClientDeps) (c : Client) (publicKey : PublicKey) : Option SharedKey :=
  Utils.uncached d.toCurve25519Pk d.precompute c.curveSecretKey publicKey

/-- Asked for the public keys one after the other, the client's cache returns the
key of the requested one each time. -/
def Client.CacheAnswers (d : ClientDeps) (c : Client) (publicKeys : List PublicKey) : Prop :=
  outcomes (publicKeys.map (sharedKeyWith d)) c =
    publicKeys.map fun publicKey => Utils.outcomeOf (c.sharedKey d publicKey)

/-- Asking changes the cache at most. -/
theorem sharedKeyWith_eq (d : ClientDeps) (publicKey : PublicKey) (c : Client) :
    sharedKeyWith d publicKey c =
      ((Utils.getOrComputeSharedKey d.toCurve25519Pk d.precompute publicKey c.curveSecretKey
        c.sharedKeys).1, { c with
          sharedKeys := (Utils.getOrComputeSharedKey d.toCurve25519Pk d.precompute publicKey
            c.curveSecretKey c.sharedKeys).2 }) := rfl

/-- A client asks its cache, and nothing else changes what it answers. -/
theorem outcomes_sharedKeyWith (d : ClientDeps) (publicKeys : List PublicKey) (c : Client) :
    outcomes (publicKeys.map (sharedKeyWith d)) c =
      outcomes (publicKeys.map fun publicKey => Utils.getOrComputeSharedKey d.toCurve25519Pk
        d.precompute publicKey c.curveSecretKey) c.sharedKeys := by
  induction publicKeys generalizing c with
  | nil => rfl
  | cons publicKey publicKeys ih =>
      rw [List.map_cons, List.map_cons, outcomes, outcomes, ih]
      rfl

/-- An empty cache answers as long as no two of the keys read the same. -/
theorem Client.cacheAnswers_of_empty {d : ClientDeps} {c : Client} {publicKeys : List PublicKey}
    (hempty : c.sharedKeys = ∅) (hinj : ∀ a ∈ publicKeys, ∀ b ∈ publicKeys,
      Utils.keyText a = Utils.keyText b → a = b) : c.CacheAnswers d publicKeys := by
  rw [Client.CacheAnswers, outcomes_sharedKeyWith, hempty]
  exact (Utils.cache_transparent_iff c.curveSecretKey publicKeys).mpr hinj d.toCurve25519Pk
    d.precompute

/-- `crypto_box_MACBYTES`. -/
def macBytes : Nat := 16

variable {d : ClientDeps}

theorem ParsesTo.unique {src : String} {pk pk' : PublicKey} (h : ParsesTo d src pk)
    (h' : ParsesTo d src pk') : pk = pk' := by
  obtain ⟨_, _, h⟩ := h
  obtain ⟨_, _, h'⟩ := h'
  rw [h] at h'
  cases h'
  rfl

theorem encrypt_eq {σ : Type} (message : Bytes) (nonce : Nonce) (sharedKey : SharedKey) (s : σ) :
    (encrypt d message nonce.toList sharedKey.toList : Exec String σ Bytes) s =
      (.ok (d.sealPrecomputed message nonce.toList sharedKey.toList), s) := by
  have hnonce : nonce.toList.length = nonceSize := by simp [nonceSize]
  have hkey : sharedKey.toList.length = sharedKeyLen := by simp [sharedKeyLen]
  rw [encrypt, require_pos hnonce, pure_bind, require_pos hkey, pure_bind, pure_apply]

theorem decrypt_eq {σ : Type} {nonce key : Bytes} (hnonce : nonce.length = nonceSize)
    (hkey : key.length = sharedKeyLen) (encrypted : Bytes) (s : σ) :
    (decrypt d encrypted nonce key : Exec String σ (Option Bytes)) s =
      (.ok (d.openPrecomputed encrypted nonce key), s) := by
  rw [decrypt, require_pos hnonce, pure_bind, require_pos hkey, pure_bind, pure_apply]

/-! ## The two formats -/

/-- The message for one destination. -/
def directMessage (d : ClientDeps) (rng : Draws) (payload : Pb.Payloads.Payload)
    (sharedKey : SharedKey) : Pb.Payloads.Message where
  payload := d.sealPrecomputed payload.encode rng.msgNonce.toList sharedKey.toList
  encrypted := true
  nonce := rng.msgNonce.toList
  encryptedKey := []

/-- The message for the `i`-th of several destinations. -/
def wrappedMessage (d : ClientDeps) (rng : Draws) (payload : Pb.Payloads.Payload) (i : Nat)
    (sharedKey : SharedKey) : Pb.Payloads.Message where
  payload := d.sealPrecomputed payload.encode rng.msgNonce.toList rng.key.toList
  encrypted := true
  nonce := (rng.keyNonce i).toList ++ rng.msgNonce.toList
  encryptedKey :=
    d.sealPrecomputed rng.key.toList (rng.keyNonce i).toList sharedKey.toList

/-- The loop over several destinations. -/
theorem encryptFor_eq (rng : Draws) (payload : Pb.Payloads.Payload) :
    ∀ (dests : List (String × Nat)) (publicKeys : List PublicKey) (keys : List SharedKey)
      (c : Client), List.Forall₂ (fun dest publicKey => ParsesTo d dest.1 publicKey) dests publicKeys →
      outcomes (publicKeys.map (sharedKeyWith d)) c = keys.map .ok →
      ∃ c', encryptFor d rng
          (d.sealPrecomputed payload.encode rng.msgNonce.toList rng.key.toList) dests c =
        (.ok (List.zipWith (fun dest key => (wrappedMessage d rng payload dest.2 key).encode)
          dests keys), c') := by
  intro dests
  induction dests with
  | nil =>
      intro publicKeys keys c _ _
      exact ⟨c, rfl⟩
  | cons dest dests ih =>
      intro publicKeys keys c hparses hkeys
      cases hparses with
      | @cons _ publicKey _ publicKeys hparse hparses =>
          cases keys with
          | nil => cases hkeys
          | cons key keys =>
              obtain ⟨clientId, identifier, hparse⟩ := hparse
              simp only [List.map_cons, outcomes, List.cons.injEq] at hkeys
              obtain ⟨hkey, hkeys⟩ := hkeys
              obtain ⟨c', hrest⟩ := ih publicKeys keys _ hparses hkeys
              refine ⟨c', ?_⟩
              have hshared : sharedKeyWith d publicKey c =
                  (.ok key, (sharedKeyWith d publicKey c).2) := Prod.ext hkey rfl
              rw [encryptFor, hparse, ofExcept_ok, pure_bind]
              dsimp only
              rw [bind_ok hshared, bind_ok (encrypt_eq _ _ _ _), bind_ok hrest]
              rfl

theorem encryptPayload_several (rng : Draws) (payload : Pb.Payloads.Payload) {dests : List String}
    {publicKeys : List PublicKey} {keys : List SharedKey} {c : Client} (hlen : 1 < dests.length)
    (hparses : List.Forall₂ (ParsesTo d) dests publicKeys)
    (hkeys : outcomes (publicKeys.map (sharedKeyWith d)) c = keys.map .ok) :
    ∃ c', encryptPayload d rng payload dests c =
      (.ok (List.zipWith (fun dest key => (wrappedMessage d rng payload dest.2 key).encode)
        dests.zipIdx keys), c') := by
  have hindexed : List.Forall₂ (fun dest publicKey => ParsesTo d dest.1 publicKey) dests.zipIdx
      publicKeys := by
    rw [← List.forall₂_map_left_iff, List.zipIdx_map_fst]
    exact hparses
  obtain ⟨c', hfor⟩ := encryptFor_eq rng payload dests.zipIdx publicKeys keys c hindexed hkeys
  refine ⟨c', ?_⟩
  rw [encryptPayload]
  dsimp only
  rw [if_pos hlen, bind_ok (encrypt_eq _ _ _ _), hfor]

theorem encryptPayload_single (rng : Draws) (payload : Pb.Payloads.Payload) {dest : String}
    {publicKey : PublicKey} {key : SharedKey} {c : Client} (hparse : ParsesTo d dest publicKey)
    (hkey : (sharedKeyWith d publicKey c).1 = .ok key) :
    ∃ c', encryptPayload d rng payload [dest] c =
      (.ok [(directMessage d rng payload key).encode], c') := by
  obtain ⟨clientId, identifier, hparse⟩ := hparse
  refine ⟨(sharedKeyWith d publicKey c).2, ?_⟩
  have hshared : sharedKeyWith d publicKey c = (.ok key, (sharedKeyWith d publicKey c).2) :=
    Prod.ext hkey rfl
  rw [encryptPayload]
  dsimp only
  rw [if_neg (by simp), List.head?_cons, unwrap_some, pure_bind, hparse, ofExcept_ok, pure_bind]
  dsimp only
  rw [bind_ok hshared, bind_ok (encrypt_eq _ _ _ _)]
  rfl

/-! ## Opening -/

/-- Opening undoes sealing. -/
def OpensSealed (d : ClientDeps) : Prop :=
  ∀ message nonce key, d.openPrecomputed (d.sealPrecomputed message nonce key) nonce key =
    some message

/-- A sealed message is longer by the authentication code. -/
def SealsWithCode (d : ClientDeps) : Prop :=
  ∀ message nonce key, (d.sealPrecomputed message nonce key).length = macBytes + message.length

variable {src : String} {srcPubkey : PublicKey} {key : SharedKey} {owner : Client}

/-- What is inside a message for a client with the shared key `sharedKey`, if the
nonces and the key have their lengths and everything can be opened. -/
def contents (d : ClientDeps) (msg : Pb.Payloads.Message) (sharedKey : Bytes) : Option Bytes :=
  if msg.encryptedKey ≠ [] then
    if msg.nonce.length = nonceSize + nonceSize then
      match d.openPrecomputed msg.encryptedKey (msg.nonce.take nonceSize) sharedKey with
      | some key =>
          if key.length = sharedKeyLen then
            d.openPrecomputed msg.payload (msg.nonce.drop nonceSize) key
          else none
      | none => none
    else none
  else if msg.nonce.length = nonceSize then d.openPrecomputed msg.payload msg.nonce sharedKey
  else none

/-- Decrypting with the shared key in hand: the contents, or a panic. -/
theorem decryptPayload_eq (msg : Pb.Payloads.Message) (hsrc : ParsesTo d src srcPubkey)
    {owner' : Client} (hkey : sharedKeyWith d srcPubkey owner = (.ok key, owner')) :
    decryptPayload d msg src owner =
      ((unwrap (contents d msg key.toList) : ClientCall Bytes) owner') := by
  obtain ⟨clientId, identifier, hparse⟩ := hsrc
  have hkeylen : key.toList.length = sharedKeyLen := by simp [sharedKeyLen]
  rw [decryptPayload, hparse, ofExcept_ok, pure_bind]
  dsimp only
  rw [bind_ok hkey, contents]
  split
  next =>
    by_cases hsize : nonceSize ≤ msg.nonce.length
    · have htake : (msg.nonce.take nonceSize).length = nonceSize := List.length_take_of_le hsize
      rw [require_pos hsize, pure_bind, bind_ok (decrypt_eq htake hkeylen _ _)]
      by_cases hnonce : msg.nonce.length = nonceSize + nonceSize
      · have hdrop : (msg.nonce.drop nonceSize).length = nonceSize := by
          rw [List.length_drop, hnonce, Nat.add_sub_cancel]
        rw [if_pos hnonce]
        cases hopened : d.openPrecomputed msg.encryptedKey (msg.nonce.take nonceSize) key.toList with
        | none => rfl
        | some wrapped =>
            dsimp only
            rw [unwrap_some, pure_bind]
            by_cases hwrapped : wrapped.length = sharedKeyLen
            · rw [bind_ok (decrypt_eq hdrop hwrapped _ _), if_pos hwrapped]
            · rw [decrypt, require_pos hdrop, pure_bind, require_neg hwrapped, if_neg hwrapped]
              rfl
      · have hdrop : ¬ (msg.nonce.drop nonceSize).length = nonceSize := by
          rw [List.length_drop]
          omega
        rw [if_neg hnonce]
        cases hopened : d.openPrecomputed msg.encryptedKey (msg.nonce.take nonceSize) key.toList with
        | none => rfl
        | some wrapped =>
            rw [unwrap_some, pure_bind, decrypt, require_neg hdrop]
            rfl
    · rw [require_neg hsize, if_neg (by omega)]
      rfl
  next =>
    by_cases hnonce : msg.nonce.length = nonceSize
    · rw [bind_ok (decrypt_eq hnonce hkeylen _ _), if_pos hnonce]
    · rw [decrypt, require_neg hnonce, if_neg hnonce]
      rfl

theorem contents_directMessage (hopen : OpensSealed d) (rng : Draws)
    (payload : Pb.Payloads.Payload) :
    contents d (directMessage d rng payload key) key.toList = some payload.encode := by
  simp [contents, directMessage, nonceSize, hopen _ _ _]

theorem contents_wrappedMessage (hopen : OpensSealed d) (hseal : SealsWithCode d) (rng : Draws)
    (payload : Pb.Payloads.Payload) (i : Nat) :
    contents d (wrappedMessage d rng payload i key) key.toList = some payload.encode := by
  have hne : (wrappedMessage d rng payload i key).encryptedKey ≠ [] := by
    rw [← List.length_pos_iff, wrappedMessage, hseal, macBytes]
    omega
  have hlen : (rng.keyNonce i).toList.length = nonceSize := by simp [nonceSize]
  have hboth : (wrappedMessage d rng payload i key).nonce.length = nonceSize + nonceSize := by
    simp [wrappedMessage, nonceSize]
  rw [contents, if_pos hne, if_pos hboth]
  dsimp only [wrappedMessage]
  rw [List.take_left' hlen, List.drop_left' hlen, hopen _ _ _]
  dsimp only
  rw [if_pos (by simp [sharedKeyLen]), hopen _ _ _]

/-- The owner of the shared key decrypts what it opens. -/
theorem decryptPayload_of_contents {msg : Pb.Payloads.Message} {bytes : Bytes}
    (hcontents : contents d msg key.toList = some bytes) (hsrc : ParsesTo d src srcPubkey)
    (hkey : (sharedKeyWith d srcPubkey owner).1 = .ok key) :
    (decryptPayload d msg src owner).1 = .ok bytes := by
  rw [decryptPayload_eq msg hsrc (Prod.ext hkey rfl), hcontents]
  rfl

/-! ## The round trip -/

theorem forall₂_zipWith {α β γ δ : Type} {R : β → γ → Prop} {S : δ → γ → Prop} {f : α → β → δ}
    (h : ∀ a b c, R b c → S (f a b) c) :
    ∀ {as : List α} {bs : List β} {cs : List γ}, as.length = bs.length → List.Forall₂ R bs cs →
      List.Forall₂ S (List.zipWith f as bs) cs := by
  intro as
  induction as with
  | nil =>
      intro bs cs hlen hR
      cases hR with
      | nil => exact .nil
      | cons => cases hlen
  | cons a as ih =>
      intro bs cs hlen hR
      cases hR with
      | nil => cases hlen
      | cons hbc hR => exact .cons (h a _ _ hbc) (ih (by simpa using hlen) hR)

/-- The sender and the owner of `publicKey` compute the same key, and the owner's
cache returns it for the sender's public key. -/
structure Shares (d : ClientDeps) (sender : Client) (srcPubkey : PublicKey) (publicKey : PublicKey)
    (owner : Client) : Prop where
  same : owner.sharedKey d srcPubkey = sender.sharedKey d publicKey
  exists_key : (sender.sharedKey d publicKey).isSome
  cache : owner.CacheAnswers d [srcPubkey]

/-- The keys that the sender shares with the owners, as their caches return them. -/
theorem exists_keys {sender : Client} {publicKeys : List PublicKey} {owners : List Client}
    (howners : List.Forall₂ (Shares d sender srcPubkey) publicKeys owners) :
    ∃ keys : List SharedKey,
      (publicKeys.map fun publicKey => Utils.outcomeOf (sender.sharedKey d publicKey)) =
        keys.map .ok ∧
      List.Forall₂ (fun key owner => (sharedKeyWith d srcPubkey owner).1 = .ok key) keys owners := by
  induction howners with
  | nil => exact ⟨[], rfl, .nil⟩
  | @cons publicKey owner publicKeys owners hshares _ ih =>
      obtain ⟨keys, hkeys, hcalls⟩ := ih
      obtain ⟨key, hkey⟩ := Option.isSome_iff_exists.mp hshares.exists_key
      have hcall : (sharedKeyWith d srcPubkey owner).1 = .ok key := by
        have hcache := hshares.cache
        rw [Client.CacheAnswers, List.map_singleton, List.map_singleton, hshares.same, hkey]
          at hcache
        exact (List.cons.inj hcache).1
      refine ⟨key :: keys, ?_, .cons hcall hcalls⟩
      rw [List.map_cons, List.map_cons, hkeys, hkey]
      rfl

/-- Every recipient opens its message and finds the payload. -/
theorem decrypt_encrypt (hdecode : ∀ m, d.decodeMessage m.encode = some m) (hopen : OpensSealed d)
    (hseal : SealsWithCode d) (rng : Draws) (payload : Pb.Payloads.Payload) {dests : List String}
    {publicKeys : List PublicKey} {owners : List Client} {sender : Client} (hne : dests ≠ [])
    (hdests : List.Forall₂ (ParsesTo d) dests publicKeys)
    (hsender : sender.CacheAnswers d publicKeys) (hsrc : ParsesTo d src srcPubkey)
    (howners : List.Forall₂ (Shares d sender srcPubkey) publicKeys owners) :
    ∃ msgs sender', encryptPayload d rng payload dests sender = (.ok msgs, sender') ∧
      msgs.length = dests.length ∧
      List.Forall₂ (fun msg owner => ∃ pbMessage, d.decodeMessage msg = some pbMessage ∧
        (decryptPayload d pbMessage src owner).1 = .ok payload.encode) msgs owners := by
  obtain ⟨keys, hkeys, hcalls⟩ := exists_keys howners
  rw [Client.CacheAnswers, hkeys] at hsender
  have hlen : dests.length = keys.length := by
    have hlen := congrArg List.length hkeys
    simp only [List.length_map] at hlen
    rw [hdests.length_eq, hlen]
  by_cases hseveral : 1 < dests.length
  · obtain ⟨sender', hencrypt⟩ := encryptPayload_several rng payload hseveral hdests hsender
    refine ⟨_, sender', hencrypt, by simp [hlen], ?_⟩
    refine forall₂_zipWith (fun dest key owner hkey => ?_) (by simpa using hlen) hcalls
    exact ⟨_, hdecode _, decryptPayload_of_contents
      (contents_wrappedMessage hopen hseal rng payload dest.2) hsrc hkey⟩
  · obtain ⟨dest, rfl⟩ : ∃ dest, dests = [dest] := by
      have hpos := List.length_pos_iff.mpr hne
      exact List.length_eq_one_iff.mp (by omega)
    obtain ⟨key, rfl⟩ := List.length_eq_one_iff.mp hlen.symm
    cases hdests with
    | cons hparse hrest =>
        cases hrest
        obtain ⟨sender', hencrypt⟩ := encryptPayload_single rng payload hparse
          (List.cons.inj hsender).1
        cases hcalls with
        | cons hkey hcalls =>
            cases hcalls
            exact ⟨_, sender', hencrypt, rfl, .cons ⟨_, hdecode _, decryptPayload_of_contents
              (contents_directMessage hopen rng payload) hsrc hkey⟩ .nil⟩

/-! ## A message to oneself, twice -/

namespace Exchange

/-- The key that the sample client shares with itself. -/
def sampleSharedKey : SharedKey :=
  ⟨#[
    120, 76, 71, 67, 202, 77, 21, 117, 69, 76, 231, 73, 116, 178, 70, 106,
    152, 144, 164, 108, 225, 212, 178, 117, 74, 144, 229, 47, 169, 157, 13, 116], rfl⟩

def sampleCurveKey : PublicKey :=
  ⟨#[
    27, 27, 88, 221, 80, 234, 20, 182, 13, 161, 123, 121, 12, 208, 39, 84,
    217, 112, 201, 186, 184, 100, 235, 179, 192, 243, 1, 111, 229, 29, 63, 87], rfl⟩

def samplePayload : Pb.Payloads.Payload := { messageId := [0x61], data := [0x68, 0x69] }

/-- The sample key, sealed with the shared one. -/
def sampleSealedKey : Bytes :=
  [44, 13, 174, 90, 144, 233, 217, 49, 21, 28, 74, 81, 82, 159, 27, 242,
   102, 17, 149, 69, 76, 126, 98, 18, 145, 101, 121, 94, 43, 64, 62, 81,
   208, 156, 5, 145, 254, 86, 77, 40, 108, 31, 145, 243, 32, 131, 242, 65]

/-- The sample payload, sealed with the sample key. -/
def sampleSealedPayload : Bytes :=
  [189, 126, 224, 205, 120, 212, 108, 123, 14, 230, 180, 179, 136, 58, 4, 168,
   212, 63, 218, 229, 252, 237, 167]

/-- Sealing as it is on the two messages of the sample. -/
def sampleSeal (message nonce key : Bytes) : Bytes :=
  if message = sampleDraws.key.toList ∧ nonce = (sampleDraws.keyNonce 0).toList ∧
      key = sampleSharedKey.toList then sampleSealedKey
  else if message = samplePayload.encode ∧ nonce = sampleDraws.msgNonce.toList ∧
      key = sampleDraws.key.toList then sampleSealedPayload
  else List.replicate macBytes 0 ++ message

def sampleOpen (encrypted nonce key : Bytes) : Option Bytes :=
  if encrypted = sampleSealedKey ∧ nonce = (sampleDraws.keyNonce 0).toList ∧
      key = sampleSharedKey.toList then some sampleDraws.key.toList
  else if encrypted = sampleSealedPayload ∧ nonce = sampleDraws.msgNonce.toList ∧
      key = sampleDraws.key.toList then some samplePayload.encode
  else some (encrypted.drop macBytes)

def sampleBoxDeps : ClientDeps :=
  { sampleClientDeps with
    toCurve25519Pk := fun publicKey =>
      if publicKey = sampleWallet.publicKey then some sampleCurveKey else none
    precompute := fun _ _ => sampleSharedKey
    sealPrecomputed := sampleSeal
    openPrecomputed := sampleOpen
    decodeMessage := Pb.Payloads.Message.decode }

theorem sample_opensSealed : OpensSealed sampleBoxDeps := by
  intro message nonce key
  show sampleOpen (sampleSeal message nonce key) nonce key = some message
  unfold sampleSeal
  split
  next h => rw [sampleOpen, if_pos ⟨rfl, h.2⟩, h.1]
  next =>
    split
    next h =>
      have hne : ¬ sampleSealedPayload = sampleSealedKey := by decide
      rw [sampleOpen, if_neg (fun hc => hne hc.1), if_pos ⟨rfl, h.2⟩, h.1]
    next =>
      have hkey : ¬ List.replicate macBytes 0 ++ message = sampleSealedKey := by
        intro h
        cases h
      have hpayload : ¬ List.replicate macBytes 0 ++ message = sampleSealedPayload := by
        intro h
        cases h
      rw [sampleOpen, if_neg (fun hc => hkey hc.1), if_neg (fun hc => hpayload hc.1)]
      rfl

theorem sample_sealsWithCode : SealsWithCode sampleBoxDeps := by
  intro message nonce key
  show (sampleSeal message nonce key).length = macBytes + message.length
  unfold sampleSeal
  split
  next h => rw [h.1]; rfl
  next =>
    split
    next h => rw [h.1]; decide
    next => simp

theorem sample_parsesTo : ParsesTo sampleBoxDeps sampleAddress sampleWallet.publicKey :=
  ⟨_, _, Utils.parseClientAddress_makeAddressString _ sampleWallet.publicKey ""⟩

theorem sample_shares : Shares sampleBoxDeps sampleClient sampleWallet.publicKey
    sampleWallet.publicKey sampleClient where
  same := rfl
  exists_key := rfl
  cache := Client.cacheAnswers_of_empty rfl (by simp)

theorem decrypt_encrypt_sample :
    ∃ msgs sender', encryptPayload sampleBoxDeps sampleDraws samplePayload
        [sampleAddress, sampleAddress] sampleClient = (.ok msgs, sender') ∧
      msgs.length = 2 ∧
      List.Forall₂ (fun msg owner => ∃ pbMessage, sampleBoxDeps.decodeMessage msg = some pbMessage ∧
        (decryptPayload sampleBoxDeps pbMessage sampleAddress owner).1 = .ok samplePayload.encode)
        msgs [sampleClient, sampleClient] :=
  decrypt_encrypt Pb.Payloads.Message.decode_encode sample_opensSealed sample_sealsWithCode
    sampleDraws samplePayload (by simp)
    (.cons sample_parsesTo (.cons sample_parsesTo .nil)) (Client.cacheAnswers_of_empty rfl (by simp))
    sample_parsesTo (.cons sample_shares (.cons sample_shares .nil))

end Exchange

end NknSdk
