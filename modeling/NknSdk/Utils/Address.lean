import NknSdk.Lib.Hex
import NknSdk.Crypto

/-!
# Client addresses

An address is an identifier and a public key in hexadecimal, with a dot between
them, or the public key alone (`src/utils.rs`).  The identifier may have dots of
its own.
-/

namespace NknSdk.Utils

/-- `utils::make_address_string`. -/
def makeAddressString (publicKey : Bytes) (identifier : String) : String :=
  let pubkeyStr := Hex.encode publicKey
  if identifier = "" then pubkeyStr else identifier ++ "." ++ pubkeyStr

/-- The parts of an address between its dots. -/
def splitDots (address : String) : List String := (address.toList.splitOn '.').map String.ofList

/-- `utils::parse_client_address`. -/
def parseClientAddress (c : Primitives) (addressStr : String) :
    Except String (Bytes × PublicKey × String) :=
  let clientId := c.sha256Hash addressStr.toUTF8.toList
  let substrings := splitDots addressStr
  match Hex.decode (substrings.getLastD "") with
  | none => .error "Invalid public key string converting to hex"
  | some publicKey =>
      let identifier := ".".intercalate substrings.dropLast
      if h : publicKey.length = publicKeyLen then
        .ok (clientId, ⟨publicKey.toArray, by simpa using h⟩, identifier)
      else .error "Invalid public key string"

/-! ## Splitting at dots -/

theorem splitDots_append (a b : String) : splitDots (a ++ "." ++ b) = splitDots a ++ splitDots b := by
  have htext : (a ++ "." ++ b).toList = a.toList ++ '.' :: b.toList := by simp
  rw [splitDots, htext, List.splitOn_append_cons_self, List.map_append]
  rfl

theorem splitDots_of_notMem {a : String} (h : '.' ∉ a.toList) : splitDots a = [a] := by
  rw [splitDots, List.splitOn_eq_singleton h]
  simp

theorem splitDots_ne_nil (a : String) : splitDots a ≠ [] := by
  simp [splitDots]

/-- Putting the dots back. -/
theorem intercalate_splitDots (a : String) : ".".intercalate (splitDots a) = a := by
  rw [← String.toList_inj, String.toList_intercalate, splitDots, List.map_map]
  have hparts : (String.toList ∘ String.ofList) = id := funext fun _ => String.toList_ofList
  rw [hparts, List.map_id]
  exact List.intercalate_splitOn '.'

/-! ## What an address is read as -/

theorem notMem_encode (bytes : Bytes) : '.' ∉ (Hex.encode bytes).toList :=
  Hex.notMem_encode (by decide) bytes

/-- The parts of an address. -/
theorem splitDots_makeAddressString (publicKey : Bytes) (identifier : String) :
    splitDots (makeAddressString publicKey identifier) =
      (if identifier = "" then [] else splitDots identifier) ++ [Hex.encode publicKey] := by
  unfold makeAddressString
  split
  · exact splitDots_of_notMem (notMem_encode publicKey)
  · rw [splitDots_append, splitDots_of_notMem (notMem_encode publicKey)]

/-- The identifier of an address is what stands before its last dot. -/
theorem intercalate_dropLast (publicKey : Bytes) (identifier : String) :
    ".".intercalate (splitDots (makeAddressString publicKey identifier)).dropLast = identifier := by
  rw [splitDots_makeAddressString, List.dropLast_concat]
  split
  next h => rw [h]; rfl
  next => exact intercalate_splitDots identifier

/-- An address is read as the key and the identifier that it was made of. -/
theorem parseClientAddress_makeAddressString (c : Primitives) (publicKey : PublicKey)
    (identifier : String) :
    parseClientAddress c (makeAddressString publicKey.toList identifier) =
      .ok (c.sha256Hash (makeAddressString publicKey.toList identifier).toUTF8.toList, publicKey,
        identifier) := by
  have hlast : (splitDots (makeAddressString publicKey.toList identifier)).getLastD "" =
      Hex.encode publicKey.toList := by
    rw [splitDots_makeAddressString]
    simp
  have hlen : publicKey.toList.length = publicKeyLen := by simp
  simp only [parseClientAddress]
  rw [hlast, Hex.decode_encode]
  dsimp only
  rw [dif_pos hlen, intercalate_dropLast]
  rfl

end NknSdk.Utils
