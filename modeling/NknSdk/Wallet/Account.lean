import NknSdk.Lib.Base58
import NknSdk.Lib.Utf8
import NknSdk.Tx.Signing

/-!
# Accounts and their addresses

`src/account.rs` and the hashes of `src/crypto.rs`.  The program of an account is
the code that checks a signature with its public key.  Its address is the hash of
the program in base 58, between a prefix and a checksum.

The text of an address has 36 characters whatever the hash is
(`length_codeHashToAddress`): the prefix is the first three of its 27 bytes.
-/

namespace NknSdk.Keystore

abbrev uint160Size : Nat := 20

abbrev sha256Len : Nat := 32

abbrev seedLen : Nat := 32

abbrev ProgramHash : Type := Vector UInt8 uint160Size

/-- The hashes. -/
structure Hashes where
  /-- `crypto::sha256_hash`. -/
  sha256Hash : Bytes → Vector UInt8 sha256Len
  /-- `crypto::ripemd160_hash`. -/
  ripemd160Hash : Bytes → Vector UInt8 uint160Size

/-- `crypto::to_code_hash`. -/
def toCodeHash (h : Hashes) (code : Bytes) : ProgramHash :=
  h.ripemd160Hash (h.sha256Hash code).toList

/-- `crypto::create_program_hash`. -/
def createProgramHash (h : Hashes) (publicKey : PublicKey) : ProgramHash :=
  toCodeHash h (createSignatureProgramCode publicKey)

def addressGenPrefix : Bytes := [0x02, 0xb8, 0x25]

def checksumLen : Nat := 4

/-- `crypto::code_hash_to_address`. -/
def codeHashToAddress (h : Hashes) (hash : ProgramHash) : String :=
  let data := addressGenPrefix ++ hash.toList
  let temp := h.sha256Hash data
  let temp2 := h.sha256Hash temp.toList
  Base58.encode (data ++ temp2.toList.take checksumLen)

/-- `account::Account`. -/
structure Account extends NknSdk.Account where
  programHash : ProgramHash

namespace Account

/-- `Account::from_seed`, with the public key that goes with a secret key.  A seed
has the right length by its type. -/
def fromSeed (h : Hashes) (publicKeyOf : PrivateKey → PublicKey) (seed : Vector UInt8 seedLen) :
    Account where
  privateKey := seed
  publicKey := publicKeyOf seed
  programHash := createProgramHash h (publicKeyOf seed)

/-- `Account::address`. -/
def address (h : Hashes) (account : Account) : String := codeHashToAddress h account.programHash

end Account

theorem length_codeHashToAddress (h : Hashes) (hash : ProgramHash) :
    (codeHashToAddress h hash).length = 36 := by
  have htail (checksum : Vector UInt8 sha256Len) :
      (0xb8 :: 0x25 :: (hash.toList ++ checksum.toList.take checksumLen)).length = 26 := by
    simp [checksumLen, uint160Size, sha256Len]
  show (Base58.encode (2 :: 0xb8 :: 0x25 :: (hash.toList ++
    (h.sha256Hash (h.sha256Hash (addressGenPrefix ++ hash.toList)).toList).toList.take
      checksumLen))).length = 36
  refine Base58.length_encode_cons (by decide) ?_ ?_
  · rw [htail]
    decide
  · rw [htail]
    decide

/-! ## The account of a seed

The seed is 32 bytes of `1`.  The hashes are the real ones on what its address is
made of. -/

def sampleProgramHash : ProgramHash :=
  ⟨#[233, 134, 44, 208, 64, 167, 55, 218, 224, 12, 93, 246, 94, 176, 230, 213, 120, 45, 43, 31],
    rfl⟩

/-- The hash of the program. -/
def sampleCodeHash : Vector UInt8 sha256Len :=
  ⟨#[
    223, 125, 230, 163, 143, 16, 77, 8, 252, 168, 112, 225, 70, 120, 230, 137,
    15, 173, 34, 36, 62, 210, 211, 28, 34, 235, 32, 162, 44, 220, 121, 69], rfl⟩

/-- The hash of the program hash with its prefix. -/
def sampleDataHash : Vector UInt8 sha256Len :=
  ⟨#[
    178, 209, 42, 137, 75, 51, 155, 160, 126, 160, 44, 207, 184, 239, 250, 93,
    148, 124, 23, 58, 31, 147, 129, 27, 159, 233, 216, 36, 4, 4, 37, 2], rfl⟩

/-- The hash of that hash. -/
def sampleChecksum : Vector UInt8 sha256Len :=
  ⟨#[
    37, 88, 137, 98, 46, 25, 28, 228, 117, 9, 83, 128, 166, 206, 196, 249,
    214, 224, 171, 243, 208, 108, 116, 17, 162, 161, 250, 195, 121, 137, 122, 107], rfl⟩

def sampleHashes : Hashes where
  sha256Hash := fun data =>
    if data = createSignatureProgramCode sampleWallet.publicKey then sampleCodeHash
    else if data = sampleDataHash.toList then sampleChecksum
    else sampleDataHash
  ripemd160Hash := fun _ => sampleProgramHash

def sampleAccount : Account :=
  Account.fromSeed sampleHashes (fun _ => sampleWallet.publicKey) (Vector.replicate 32 1)

example : sampleAccount.address sampleHashes = "NKNYmsC2xFvjvdxBqgvgRqx88C3vhtecfqah" := by
  decide +kernel

end NknSdk.Keystore
