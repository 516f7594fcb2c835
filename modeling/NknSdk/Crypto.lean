import NknSdk.Pb.Transaction

/-!
# Keys, hashes and programs

The key types of the crate, the primitives it takes from other crates, and the
programs that carry a signature (`src/constants.rs`, `src/crypto.rs`,
`src/program.rs`).
-/

namespace NknSdk

abbrev publicKeyLen : Nat := 32

abbrev privateKeyLen : Nat := 32

abbrev sharedKeyLen : Nat := 32

abbrev signatureLen : Nat := 64

abbrev PublicKey : Type := Vector UInt8 publicKeyLen

abbrev PrivateKey : Type := Vector UInt8 privateKeyLen

abbrev SharedKey : Type := Vector UInt8 sharedKeyLen

abbrev Signature : Type := Vector UInt8 signatureLen

/-- The hashes and the signature scheme. -/
structure Primitives where
  /-- `crypto::sha256_hash`. -/
  sha256Hash : Bytes → Bytes
  /-- `crypto::ed25519_sign`, of a message under the bytes of a key pair. -/
  ed25519Sign : Bytes → Bytes → Signature
  /-- `crypto::ed25519_verify`. -/
  ed25519Verify : Bytes → PublicKey → Signature → Bool

def checkSig : UInt8 := 0xAC

/-- `crypto::create_signature_program_code`. -/
def createSignatureProgramCode (publicKey : PublicKey) : Bytes :=
  UInt8.ofNat publicKeyLen :: (publicKey.toList ++ [checkSig])

/-- `program::ProgramContext`, without its hashes and parameter types, which
nothing here reads. -/
structure ProgramContext where
  code : Bytes

/-- `crypto::create_signature_program_context`. -/
def createSignatureProgramContext (ownerPubkey : PublicKey) : ProgramContext :=
  { code := createSignatureProgramCode ownerPubkey }

/-- `ProgramContext::new_program`. -/
def ProgramContext.newProgram (ct : ProgramContext) (signature : Signature) : Pb.Program :=
  { code := ct.code, parameter := UInt8.ofNat signature.size :: signature.toList }

end NknSdk
