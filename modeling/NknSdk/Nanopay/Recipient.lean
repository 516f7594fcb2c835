import NknSdk.Nanopay.Payer
import NknSdk.Wallet.Account

/-!
# Nanopays made out to an address

`NanoPay::new` and `NanoPayClaimer::new` get the address of the recipient and need
the hash of its program.  They do not decode the address: they take its text for a
public key and hash the program of that key.  The text has to have the 32 bytes of a
key, and the address of an account never has (`recipientHash_address`).
-/

namespace NknSdk.Nanopay

open Keystore (Hashes)

/-- `as_bytes().try_into()` to a public key. -/
def addressKey (recipientAddress : String) : Option PublicKey :=
  let bytes := recipientAddress.toUTF8.toList
  if h : bytes.length = publicKeyLen then some ⟨bytes.toArray, h⟩ else none

/-- The program hash that both constructors take from the address.  They panic where
there is none. -/
def recipientHash (h : Hashes) (recipientAddress : String) : Option Keystore.ProgramHash :=
  (addressKey recipientAddress).map (Keystore.createProgramHash h)

/-- `NanoPay::new` with the wallet of the sender and the address of the recipient. -/
def NanoPay.newTo (h : Hashes) (sender : Keystore.Account) (recipientAddress : String)
    (fee : Int64) (duration : UInt32) (id : UInt64) : Option NanoPay :=
  (recipientHash h recipientAddress).map fun programHash =>
    NanoPay.new sender.programHash programHash fee duration id

/-- `NanoPayClaimer::new` with the address of the recipient. -/
def NanoPayClaimer.new (h : Hashes) (recipientAddress : String) (minFlushAmount : Int64)
    (now : Nat) : Option World :=
  (recipientHash h recipientAddress).map fun programHash =>
    World.new programHash.toList minFlushAmount now

/-! ## The contract -/

section Contract

variable (h : Hashes) (account : Keystore.Account)

/-- A nanopay to the address of the account is for its program. -/
def PaysAccount (sender : Keystore.Account) (fee : Int64) (duration : UInt32) (id : UInt64) :
    Prop :=
  ∃ nanoPay, NanoPay.newTo h sender (account.address h) fee duration id = some nanoPay ∧
    nanoPay.recipientProgramHash = account.programHash

/-- A claimer with the address of the account claims for its program. -/
def ClaimsForAccount (minFlushAmount : Int64) (now : Nat) : Prop :=
  ∃ claimer, NanoPayClaimer.new h (account.address h) minFlushAmount now = some claimer ∧
    claimer.recipientProgramHash = account.programHash.toList

end Contract

/-! ## What the constructors do -/

/-- The address of an account is no public key. -/
theorem recipientHash_address (h : Hashes) (account : Keystore.Account) :
    recipientHash h (account.address h) = none := by
  have hchars := Keystore.length_codeHashToAddress h account.programHash
  have hbytes : 36 ≤ (account.address h).toUTF8.toList.length :=
    hchars.symm.le.trans (Utf8.length_le_of_strict (Utf8.strict_toUTF8 _))
  have hlen : ¬ (account.address h).toUTF8.toList.length = publicKeyLen := by
    intro heq
    rw [heq] at hbytes
    exact absurd hbytes (by decide)
  rw [recipientHash, addressKey, dif_neg hlen]
  rfl

theorem not_paysAccount (h : Hashes) (account sender : Keystore.Account) (fee : Int64)
    (duration : UInt32) (id : UInt64) : ¬ PaysAccount h account sender fee duration id := by
  rintro ⟨nanoPay, hnew, -⟩
  rw [NanoPay.newTo, recipientHash_address] at hnew
  cases hnew

theorem not_claimsForAccount (h : Hashes) (account : Keystore.Account) (minFlushAmount : Int64)
    (now : Nat) : ¬ ClaimsForAccount h account minFlushAmount now := by
  rintro ⟨claimer, hnew, -⟩
  rw [NanoPayClaimer.new, recipientHash_address] at hnew
  cases hnew

/-- No nanopay and no claimer can be made out to the address of an account. -/
theorem address_not_payable (h : Hashes) (account sender : Keystore.Account) (fee : Int64)
    (duration : UInt32) (id : UInt64) (minFlushAmount : Int64) (now : Nat) :
    ¬ PaysAccount h account sender fee duration id ∧
      ¬ ClaimsForAccount h account minFlushAmount now :=
  ⟨not_paysAccount h account sender fee duration id,
    not_claimsForAccount h account minFlushAmount now⟩

/-- The account cannot pay itself. -/
theorem own_address_not_payable :
    ¬ (PaysAccount Keystore.sampleHashes Keystore.sampleAccount Keystore.sampleAccount 0 10 1 ∧
        ClaimsForAccount Keystore.sampleHashes Keystore.sampleAccount 1 0) :=
  fun hboth => not_paysAccount _ _ _ 0 10 1 hboth.1

end NknSdk.Nanopay
