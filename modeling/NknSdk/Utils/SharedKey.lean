import NknSdk.Lib.Exec
import NknSdk.Lib.Memo
import NknSdk.Lib.Utf8
import NknSdk.Crypto

/-!
# The shared-key cache

`get_or_compute_shared_key` of `src/utils.rs`.  A client keeps the keys it shares
with its peers in a map.  The map is indexed by the peer's public key read as
text, where whatever is not UTF-8 reads as U+FFFD.

The conversion of a public key to the curve and `precompute` are parameters.  The
conversion is partial, and the code panics on a key that has none.  `uncached` is
what a call would do without the map.  The map is a memo table whose tag is the
text of the key (`getOrComputeSharedKey_eq`), so a sequence of calls is answered
as without the map, whatever the two functions are, exactly when no two of its
keys read the same (`cache_transparent_iff`).
-/

namespace NknSdk.Utils

open Exec

/-- The map from texts to keys. -/
abbrev SharedKeys : Type := Memo.Table String SharedKey

/-- `String::from_utf8_lossy` of a key. -/
def keyText (publicKey : PublicKey) : String := Utf8.lossy publicKey.toList

section SharedKey

variable (toCurve25519Pk : PublicKey → Option PublicKey)
  (precompute : PublicKey → PrivateKey → SharedKey)

/-- `crypto::ed25519_public_key_to_curve25519_public_key`. -/
def ed25519PublicKeyToCurve25519PublicKey {ε σ : Type} (publicKey : PublicKey) :
    Exec ε σ PublicKey :=
  unwrap (toCurve25519Pk publicKey)

/-- `utils::get_or_compute_shared_key`. -/
def getOrComputeSharedKey (remotePublicKey : PublicKey) (curveSecretKey : PrivateKey) :
    Exec String SharedKeys SharedKey := do
  let sharedKeys ← get
  match sharedKeys.lookup (keyText remotePublicKey) with
  | some sharedKey => return sharedKey
  | none =>
      if remotePublicKey.size ≠ publicKeyLen then
        throw "invalid public key size"
      else
        let curvePublicKey ← ed25519PublicKeyToCurve25519PublicKey toCurve25519Pk remotePublicKey
        let sharedKey := precompute curvePublicKey curveSecretKey
        modify fun sharedKeys => sharedKeys.insert (keyText remotePublicKey) sharedKey
        return sharedKey

/-- The key that is shared with a peer, computed afresh. -/
def uncached (curveSecretKey : PrivateKey) (remotePublicKey : PublicKey) : Option SharedKey :=
  (toCurve25519Pk remotePublicKey).map fun curvePublicKey =>
    precompute curvePublicKey curveSecretKey

/-- The outcome of a computation that panics where it has no value. -/
def outcomeOf : Option SharedKey → Outcome String SharedKey
  | some sharedKey => .ok sharedKey
  | none => .panic

/-- Calls for a sequence of peers, on an empty map. -/
def sharedKeysFor (curveSecretKey : PrivateKey) (remotePublicKeys : List PublicKey) :
    List (Outcome String SharedKey) :=
  outcomes (remotePublicKeys.map fun remotePublicKey =>
    getOrComputeSharedKey toCurve25519Pk precompute remotePublicKey curveSecretKey) ∅

variable {toCurve25519Pk precompute}

/-- A call is a call of the memo table. -/
theorem getOrComputeSharedKey_eq (pk : PublicKey) (sk : PrivateKey) (t : SharedKeys) :
    getOrComputeSharedKey toCurve25519Pk precompute pk sk t =
      (outcomeOf (Memo.call keyText (uncached toCurve25519Pk precompute sk) pk t).1,
        (Memo.call keyText (uncached toCurve25519Pk precompute sk) pk t).2) := by
  rw [getOrComputeSharedKey, get_bind_apply]
  cases hhit : t.lookup (keyText pk) with
  | some sharedKey =>
      rw [Memo.call_of_hit hhit]
      rfl
  | none =>
      cases hcurve : toCurve25519Pk pk with
      | some curve =>
          simp [Memo.call, hhit, uncached, hcurve, outcomeOf, publicKeyLen,
            ed25519PublicKeyToCurve25519PublicKey]
      | none =>
          simp [Memo.call, hhit, uncached, hcurve, outcomeOf, publicKeyLen,
            ed25519PublicKeyToCurve25519PublicKey]

/-- A sequence of calls is a sequence of calls of the memo table. -/
theorem outcomes_eq_results (sk : PrivateKey) (pks : List PublicKey) (t : SharedKeys) :
    outcomes (pks.map fun pk => getOrComputeSharedKey toCurve25519Pk precompute pk sk) t =
      (Memo.results keyText (uncached toCurve25519Pk precompute sk) t pks).map outcomeOf := by
  induction pks generalizing t with
  | nil => rfl
  | cons pk pks ih =>
      rw [List.map_cons, outcomes, getOrComputeSharedKey_eq, ih]
      rfl

theorem outcomeOf_injective : Function.Injective outcomeOf := by
  intro a b h
  cases a with
  | none =>
      cases b with
      | none => rfl
      | some y => cases h
  | some x =>
      cases b with
      | none => cases h
      | some y => cases h; rfl

end SharedKey

/-- Whatever the two functions are, every call of the sequence is answered as
without the map. -/
def CacheTransparent (curveSecretKey : PrivateKey) (remotePublicKeys : List PublicKey) : Prop :=
  ∀ (toCurve25519Pk : PublicKey → Option PublicKey)
    (precompute : PublicKey → PrivateKey → SharedKey),
    sharedKeysFor toCurve25519Pk precompute curveSecretKey remotePublicKeys =
      remotePublicKeys.map fun pk =>
        outcomeOf (uncached toCurve25519Pk precompute curveSecretKey pk)

/-- If a sequence of calls is answered as without the map, keys with the same text
are the same. -/
theorem CacheTransparent.eq_of_keyText_eq {sk : PrivateKey} {pks : List PublicKey}
    (h : CacheTransparent sk pks) {a b : PublicKey} (ha : a ∈ pks) (hb : b ∈ pks)
    (htext : keyText a = keyText b) : a = b := by
  -- The functions that tell all keys apart are the ones that decide.
  have hall : (Memo.results keyText (uncached some (fun pk _ => pk) sk) ∅ pks).map outcomeOf =
      (pks.map (uncached some (fun pk _ => pk) sk)).map outcomeOf := by
    rw [← outcomes_eq_results, List.map_map]
    exact h some fun pk _ => pk
  have hresults := outcomeOf_injective.list_map hall
  exact Option.some.inj (Memo.eq_of_tag_eq (fun k => ⟨k, rfl⟩) hresults ha hb htext)

/-- A sequence of calls is answered as without the map exactly when no two of its
keys have the same text. -/
theorem cache_transparent_iff (curveSecretKey : PrivateKey) (remotePublicKeys : List PublicKey) :
    CacheTransparent curveSecretKey remotePublicKeys ↔
      ∀ a ∈ remotePublicKeys, ∀ b ∈ remotePublicKeys, keyText a = keyText b → a = b := by
  constructor
  · intro h a ha b hb htext
    exact h.eq_of_keyText_eq ha hb htext
  · intro hinj toCurve25519Pk precompute
    rw [sharedKeysFor, outcomes_eq_results, Memo.results_eq_map hinj, List.map_map]
    rfl

/-- A public key of the curve, `first` and 31 more bytes that are ASCII. -/
def sampleKey (first : UInt8) : PublicKey :=
  ⟨⟨first :: (List.replicate 30 75 ++ [0])⟩, rfl⟩

/-- The second of two peers whose keys read the same is given the key of the first. -/
theorem colliding_keys_share :
    ¬ CacheTransparent (Vector.replicate 32 1) [sampleKey 145, sampleKey 150] := by
  intro h
  have htext : keyText (sampleKey 145) = keyText (sampleKey 150) :=
    congrArg String.ofList (by decide +kernel)
  have heq := h.eq_of_keyText_eq (by simp) (by simp) htext
  exact absurd (congrArg Vector.toList heq) (by decide +kernel)

end NknSdk.Utils
