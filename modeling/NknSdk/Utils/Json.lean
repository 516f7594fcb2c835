import NknSdk.Lib.Machine

/-!
# JSON values

A parsed `serde_json::Value`, and how the code reads it: by the index operator, which
takes what is missing for `null`, or by a derived `Deserialize`, which refuses it.
-/

namespace NknSdk

/-- A parsed `serde_json::Value`. -/
inductive Json where
  | null
  | bool (b : Bool)
  | int (n : Int)
  /-- A number that is not an integer. -/
  | real
  | str (s : String)
  | arr (elems : List Json)
  | obj (entries : List (String × Json))

namespace Json

/-- `Value::index` with a text: `Null` where there is no such entry. -/
def get (key : String) : Json → Json
  | .obj entries => (entries.lookup key).getD .null
  | _ => .null

def asStr : Json → Option String
  | .str s => some s
  | _ => none

def asI64 : Json → Option Int
  | .int n => if FitsI64 n then some n else none
  | _ => none

/-- `u32::deserialize`. -/
def asU32 : Json → Option UInt32
  | .int n => if 0 ≤ n ∧ n < 2 ^ 32 then some (UInt32.ofNat n.toNat) else none
  | _ => none

/-- `i32::deserialize`. -/
def asI32 : Json → Option Int32
  | .int n => if -2 ^ 31 ≤ n ∧ n < 2 ^ 31 then some (Int32.ofInt n) else none
  | _ => none

/-- `Option::deserialize` over the type that `deserialize` reads. -/
def asOption {α : Type} (deserialize : Json → Option α) : Json → Option (Option α)
  | .null => some none
  | j => (deserialize j).map some

/-- The entry of a key that stands there once. -/
def entry (entries : List (String × Json)) (key : String) : Option Json :=
  match entries.filter fun e => e.1 = key with
  | [e] => some e.2
  | _ => none

/-- The entry of an optional key, which is `null` where it is missing. -/
def optionalEntry (entries : List (String × Json)) (key : String) : Option Json :=
  match entries.filter fun e => e.1 = key with
  | [] => some .null
  | [e] => some e.2
  | _ => none

/-- The fields that a derived `Deserialize` finds: those of an object by their keys,
or the elements of an array. -/
def fields (keys : List String) : Json → Option (List Json)
  | .obj entries => keys.mapM (entry entries)
  | .arr elems => if elems.length = keys.length then some elems else none
  | _ => none

theorem asU32_toNat (n : UInt32) : asU32 (.int n.toNat) = some n := by
  have hn := n.toNat_lt
  rw [asU32, if_pos (by omega), Int.toNat_natCast, UInt32.ofNat_toNat]

end Json

end NknSdk
