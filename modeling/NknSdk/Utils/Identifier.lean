import NknSdk.Utils.Address
import Mathlib.Computability.RegularExpressions

/-!
# Identifiers of sub-clients

A multi-client numbers its sub-clients and writes the number in front of their
identifiers, as `__i__` and a dot.  A message is sent to a sub-client by writing the
same in front of the whole address, which comes to the same
(`add_identifier_make_address`).

`removeIdentifier` is meant to undo this.  Its pattern is written in a raw string
with two backslashes, so it looks for a backslash and letters `d` instead of digits:
it recognises no number (`not_isMatch_identifierOf`).  What it does recognise it
takes apart into the first two components.
-/

namespace NknSdk.Utils

open RegularExpression

/-! ## Adding -/

/-- `utils::add_identifier_prefix`. -/
def addIdentifierPrefix (base pre : String) : String :=
  if pre = "" then base else if base = "" then pre else pre ++ "." ++ base

/-- What stands for the sub-client `id`. -/
def identifierOf (id : Int32) : String := "__" ++ toString id.toInt ++ "__"

/-- `utils::add_identifier`. -/
def addIdentifier (addr : String) (id : Int32) : String :=
  if id < 0 then addr else addIdentifierPrefix addr (identifierOf id)

/-- `utils::add_multiclient_prefix`. -/
def addMulticlientPrefix (dest : List String) (clientId : Int32) : List String :=
  dest.map fun addr => addIdentifier addr clientId

theorem identifierOf_ne (id : Int32) : identifierOf id ≠ "" := by
  intro h
  have := congrArg String.toList h
  simp [identifierOf] at this

theorem addIdentifier_of_neg {id : Int32} (h : id < 0) (addr : String) :
    addIdentifier addr id = addr := if_pos h

theorem addIdentifier_empty {id : Int32} (h : ¬ id < 0) :
    addIdentifier "" id = identifierOf id := by
  rw [addIdentifier, if_neg h, addIdentifierPrefix, if_neg (identifierOf_ne id), if_pos rfl]

theorem addIdentifier_of_ne {id : Int32} (h : ¬ id < 0) {addr : String} (haddr : addr ≠ "") :
    addIdentifier addr id = identifierOf id ++ "." ++ addr := by
  rw [addIdentifier, if_neg h, addIdentifierPrefix, if_neg (identifierOf_ne id), if_neg haddr]

/-! ## Adding and making an address -/

theorem append_ne {a b : String} (h : b ≠ "") : a ++ b ≠ "" := by
  intro hab
  have hlist := congrArg String.toList hab
  simp only [String.toList_append, String.toList_empty, List.append_eq_nil_iff] at hlist
  exact h (String.toList_inj.mp hlist.2)

theorem encode_ne (publicKey : PublicKey) : Hex.encode publicKey.toList ≠ "" := by
  intro h
  have hlen := Hex.length_encode publicKey.toList
  rw [h] at hlen
  simp [publicKeyLen] at hlen

theorem makeAddressString_ne (publicKey : PublicKey) (identifier : String) :
    makeAddressString publicKey.toList identifier ≠ "" := by
  unfold makeAddressString
  split
  · exact encode_ne publicKey
  · exact append_ne (encode_ne publicKey)

/-- Numbering the identifier and numbering the address give one address. -/
theorem addIdentifier_makeAddressString (publicKey : PublicKey) (identifier : String)
    (id : Int32) :
    addIdentifier (makeAddressString publicKey.toList identifier) id =
      makeAddressString publicKey.toList (addIdentifier identifier id) := by
  by_cases hid : id < 0
  · rw [addIdentifier_of_neg hid, addIdentifier_of_neg hid]
  · rw [addIdentifier_of_ne hid (makeAddressString_ne publicKey identifier)]
    by_cases hidentifier : identifier = ""
    · subst hidentifier
      rw [addIdentifier_empty hid, makeAddressString, makeAddressString, if_pos rfl,
        if_neg (identifierOf_ne id)]
    · rw [addIdentifier_of_ne hid hidentifier, makeAddressString, makeAddressString,
        if_neg hidentifier, if_neg (append_ne hidentifier)]
      simp only [String.append_assoc]

/-- The address that a sender targets is the one that the sub-client registered. -/
theorem addMulticlientPrefix_makeAddressString (dests : List (PublicKey × String))
    (clientId : Int32) :
    addMulticlientPrefix (dests.map fun dest => makeAddressString dest.1.toList dest.2) clientId =
      dests.map fun dest =>
        makeAddressString dest.1.toList (addIdentifier dest.2 clientId) := by
  rw [addMulticlientPrefix, List.map_map]
  exact List.map_congr_left fun dest _ =>
    addIdentifier_makeAddressString dest.1 dest.2 clientId

/-- The numbered address is the address of the numbered identifier, and every
address is read as what it was made of. -/
theorem add_identifier_make_address (c : Primitives) (publicKey : PublicKey)
    (identifier : String) (id : Int32) :
    addIdentifier (makeAddressString publicKey.toList identifier) id =
        makeAddressString publicKey.toList (addIdentifier identifier id) ∧
      parseClientAddress c (makeAddressString publicKey.toList identifier) =
        .ok (c.sha256Hash (makeAddressString publicKey.toList identifier).toUTF8.toList, publicKey,
          identifier) ∧
      parseClientAddress c (addIdentifier (makeAddressString publicKey.toList identifier) id) =
        .ok (c.sha256Hash
          (addIdentifier (makeAddressString publicKey.toList identifier) id).toUTF8.toList,
          publicKey, addIdentifier identifier id) := by
  refine ⟨addIdentifier_makeAddressString publicKey identifier id,
    parseClientAddress_makeAddressString c publicKey identifier, ?_⟩
  rw [addIdentifier_makeAddressString]
  exact parseClientAddress_makeAddressString c publicKey (addIdentifier identifier id)

/-! ## Removing -/

/-- The pattern of `remove_identifier`, the raw string `^__\\d+__$`: two underscores,
a backslash, letters `d` and two underscores. -/
def removePattern : RegularExpression Char :=
  char '_' * (char '_' * (char '\\' * (char 'd' * (star (char 'd') * (char '_' * char '_')))))

/-- `Regex::is_match`. -/
def isMatch (component : String) : Bool := removePattern.rmatch component.toList

/-- `utils::remove_identifier`. -/
def removeIdentifier (src : String) : String × String :=
  match splitDots src with
  | s₀ :: s₁ :: _ => if isMatch s₀ then (s₀, s₁) else (src, "")
  | _ => (src, "")

/-- Two underscores, digits and two underscores. -/
def IsNumbered (component : String) : Prop :=
  ∃ digits : List Char, digits ≠ [] ∧ (∀ c ∈ digits, c.isDigit) ∧
    component.toList = '_' :: '_' :: (digits ++ ['_', '_'])

/-- The first component of an address. -/
def firstComponent (addr : String) : String := (splitDots addr).headD ""

/-- An address of several components, the first of which matches the pattern. -/
def Recognised (addr : String) : Prop :=
  1 < (splitDots addr).length ∧ isMatch (firstComponent addr) = true

theorem isNumbered_identifierOf {id : Int32} (h : ¬ id < 0) : IsNumbered (identifierOf id) := by
  have hnonneg : 0 ≤ id.toInt := by
    simpa [Int32.lt_iff_toInt_lt] using h
  obtain ⟨n, hn⟩ := Int.eq_ofNat_of_zero_le hnonneg
  refine ⟨Nat.toDigits 10 n, Nat.toDigits_ne_nil, ?_, ?_⟩
  · intro c hc
    exact Nat.isDigit_of_mem_toDigits (by decide) (by decide) hc
  · have htext : toString id.toInt = n.repr := by
      rw [hn]
      rfl
    simp only [identifierOf, htext, String.toList_append, Nat.toList_repr]
    rfl

/-- What matches has a backslash where a number has a digit. -/
theorem toList_of_isMatch {component : String} (h : isMatch component) :
    ∃ rest, component.toList = '_' :: '_' :: '\\' :: rest := by
  obtain ⟨a, rest₁, hsplit₁, ha, h₁⟩ := (mul_rmatch_iff _ _ _).mp h
  obtain ⟨b, rest₂, rfl, hb, h₂⟩ := (mul_rmatch_iff _ _ _).mp h₁
  obtain ⟨c, rest₃, rfl, hc, -⟩ := (mul_rmatch_iff _ _ _).mp h₂
  rw [char_rmatch_iff] at ha hb hc
  exact ⟨rest₃, by rw [hsplit₁, ha, hb, hc]; rfl⟩

theorem not_isMatch_of_isNumbered {component : String} (h : IsNumbered component) :
    ¬ isMatch component := by
  intro hmatch
  obtain ⟨digits, hne, hdigits, hlist⟩ := h
  obtain ⟨rest, hrest⟩ := toList_of_isMatch hmatch
  rw [hrest] at hlist
  cases digits with
  | nil => exact hne rfl
  | cons c digits =>
      simp only [List.cons_append, List.cons.injEq, true_and] at hlist
      have hdigit := hdigits c (List.mem_cons_self ..)
      rw [← hlist.1] at hdigit
      exact absurd hdigit (by decide)

theorem notMem_of_isNumbered {component : String} (h : IsNumbered component) :
    '.' ∉ component.toList := by
  obtain ⟨digits, -, hdigits, hlist⟩ := h
  intro hdot
  rw [hlist] at hdot
  simp only [List.mem_cons, List.mem_append, Char.reduceEq, List.not_mem_nil, or_false,
    false_or] at hdot
  exact absurd (hdigits _ hdot) (by decide)

theorem removeIdentifier_of_not_recognised {addr : String} (h : ¬ Recognised addr) :
    removeIdentifier addr = (addr, "") := by
  unfold removeIdentifier
  unfold Recognised firstComponent at h
  split
  next s₀ s₁ rest hsplit =>
    rw [hsplit] at h
    have hmatch : ¬ isMatch s₀ := by simpa using h
    rw [if_neg hmatch]
  next => rfl

/-- What is recognised is taken apart, so that nothing is left of the address. -/
theorem removeIdentifier_ne_of_recognised {addr : String} (h : Recognised addr) :
    removeIdentifier addr ≠ (addr, "") := by
  intro hkept
  unfold Recognised firstComponent at h
  unfold removeIdentifier at hkept
  split at hkept
  next s₀ s₁ rest hsplit =>
    rw [hsplit] at h
    have hmatch : isMatch s₀ = true := h.2
    rw [if_pos hmatch] at hkept
    have hfirst : s₀ = addr := congrArg Prod.fst hkept
    have hjoined := intercalate_splitDots addr
    rw [hsplit, String.intercalate_cons_cons, ← hfirst] at hjoined
    have hlen := congrArg String.length hjoined
    simp only [String.length_append] at hlen
    have hdot : ".".length = 1 := rfl
    omega
  next hsplit =>
    rcases hparts : splitDots addr with _ | ⟨s₀, _ | ⟨s₁, rest⟩⟩
    · exact absurd hparts (splitDots_ne_nil addr)
    · rw [hparts] at h
      exact absurd h.1 (by simp)
    · exact hsplit s₀ s₁ rest hparts

/-- The pattern recognises no number. -/
theorem not_recognised_addIdentifier {addr : String} {id : Int32} (haddr : addr ≠ "")
    (hid : 0 ≤ id) : ¬ Recognised (addIdentifier addr id) := by
  have hid : ¬ id < 0 := Int32.not_lt.mpr hid
  have hnumbered := isNumbered_identifierOf hid
  rw [addIdentifier_of_ne hid haddr]
  rintro ⟨-, hmatch⟩
  rw [firstComponent, splitDots_append, splitDots_of_notMem (notMem_of_isNumbered hnumbered)]
    at hmatch
  exact not_isMatch_of_isNumbered hnumbered hmatch

/-- A numbered address is never stripped, and an address without a number is left
alone exactly if the pattern does not recognise it. -/
theorem remove_identifier_iff (addr : String) (id : Int32) :
    (addr ≠ "" → 0 ≤ id → removeIdentifier (addIdentifier addr id) ≠ (addr, identifierOf id)) ∧
      ((¬ IsNumbered (firstComponent addr) ∨ (splitDots addr).length = 1 →
        removeIdentifier addr = (addr, "")) ↔ ¬ Recognised addr) := by
  refine ⟨?_, ?_, ?_⟩
  · intro haddr hid hstripped
    rw [removeIdentifier_of_not_recognised (not_recognised_addIdentifier haddr hid)] at hstripped
    exact identifierOf_ne id (congrArg Prod.snd hstripped).symm
  · intro hkept hrecognised
    have hnumbered : ¬ IsNumbered (firstComponent addr) := fun hnumbered =>
      not_isMatch_of_isNumbered hnumbered hrecognised.2
    exact removeIdentifier_ne_of_recognised hrecognised (hkept (Or.inl hnumbered))
  · intro hnot _
    exact removeIdentifier_of_not_recognised hnot

/-- The address `a` of the sub-client 0 is left as it is. -/
theorem numbered_address_not_stripped :
    ¬ ((∀ (addr : String) (id : Int32), addr ≠ "" → 0 ≤ id →
        removeIdentifier (addIdentifier addr id) = (addr, identifierOf id)) ∧
      ∀ addr : String, ¬ IsNumbered (firstComponent addr) ∨ (splitDots addr).length = 1 →
        removeIdentifier addr = (addr, "")) := by
  rintro ⟨h, -⟩
  have hstripped : removeIdentifier (addIdentifier "a" 0) = ("a", "__0__") :=
    h "a" 0 (by decide) (by decide)
  have hkept : removeIdentifier (addIdentifier "a" 0) = ("__0__.a", "") := by decide +kernel
  rw [hkept] at hstripped
  exact absurd hstripped (by decide +kernel)

end NknSdk.Utils
