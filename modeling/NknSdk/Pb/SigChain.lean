import NknSdk.Serialization

/-!
# Signature chains

The messages of `protos/sigchain.proto` and what is signed of them
(`src/sigchain.rs`).
-/

namespace NknSdk.Pb

/-- `SigAlgo`. -/
inductive SigAlgo where
  | signature
  | hash
deriving DecidableEq, Repr

def SigAlgo.toI32 : SigAlgo → Int32
  | .signature => 0
  | .hash => 1

structure SigChainElem where
  id : Bytes := []
  nextPubkey : Bytes := []
  mining : Bool := false
  signature : Bytes := []
  sigAlgo : Int32 := 0
  vrf : Bytes := []
  proof : Bytes := []
deriving DecidableEq, Repr

structure SigChain where
  nonce : UInt32
  dataSize : UInt32
  blockHash : Bytes
  srcId : Bytes
  srcPubkey : Bytes
  destId : Bytes
  destPubkey : Bytes
  elems : List SigChainElem
deriving DecidableEq, Repr

/-- `SigChainElem::serialize_unsigned`. -/
def SigChainElem.serializeUnsigned (e : SigChainElem) : Bytes :=
  writeVarBytes e.id ++ writeVarBytes e.nextPubkey ++ writeBool e.mining ++ e.vrf

/-- `SigChain::serialize_metadata`. -/
def SigChain.serializeMetadata (c : SigChain) : Bytes :=
  writeU32 c.nonce ++
    writeU32 c.dataSize ++
    writeVarBytes c.blockHash ++
    writeVarBytes c.srcId ++
    writeVarBytes c.srcPubkey ++
    writeVarBytes c.destId ++
    writeVarBytes c.destPubkey

end NknSdk.Pb
