import NknSdk.Pb.Decode
import NknSdk.Tx.Signing

/-!
# What signed data says

The bytes that are hashed for a signature are the encoded transaction, then nonce,
fee, a length of one byte and the attributes once more.  Only the encoded
transaction marks where it ends, and only in part: its programs run up to the
nonce.  But its first field is the unsigned part with its own length in front, so
that part can be read off whatever follows.
-/

namespace NknSdk

/-- Signed data starts with the unsigned part as a field of its own. -/
theorem serializeUnsigned_eq {tx : Transaction} {u : Pb.UnsignedTx} {data : Bytes}
    (hu : tx.pbTx.unsignedTx = some u) (hdata : tx.serializeUnsigned = some data) :
    ∃ rest, data = Wire.delimited 1 u.encode ++ rest := by
  rw [Transaction.serializeUnsigned, hu, Option.map_some, Option.some.injEq] at hdata
  rw [← hdata, Transaction.encode, Pb.Transaction.encode, hu, Option.elim_some]
  simp only [List.append_assoc]
  exact ⟨_, rfl⟩

/-- Two transactions with the same signed data have the same unsigned part. -/
theorem unsignedTx_eq_of_serializeUnsigned_eq (tx tx' : Transaction)
    (h : tx.pbTx.unsignedTx ≠ none) (h' : tx'.pbTx.unsignedTx ≠ none)
    (heq : tx.serializeUnsigned = tx'.serializeUnsigned) :
    tx.pbTx.unsignedTx = tx'.pbTx.unsignedTx := by
  obtain ⟨u, hu⟩ := Option.ne_none_iff_exists'.mp h
  obtain ⟨u', hu'⟩ := Option.ne_none_iff_exists'.mp h'
  obtain ⟨data, hdata⟩ := exists_getHashData h
  obtain ⟨rest, hrest⟩ := serializeUnsigned_eq hu hdata
  obtain ⟨rest', hrest'⟩ := serializeUnsigned_eq hu' (heq.symm.trans hdata)
  obtain ⟨hencode, -⟩ := Wire.delimited_selfDelimiting 1 _ _ _ _ (hrest.symm.trans hrest')
  rw [hu, hu', Pb.UnsignedTx.encode_injective hencode]

/-- A transaction without programs, and the same with the empty list put in. -/
theorem sample_unsignedTx_eq :
    sampleUnsigned.serializeUnsigned = (sampleUnsigned.setPrograms []).serializeUnsigned ∧
      sampleUnsigned.pbTx.unsignedTx = (sampleUnsigned.setPrograms []).pbTx.unsignedTx :=
  ⟨rfl, unsignedTx_eq_of_serializeUnsigned_eq sampleUnsigned (sampleUnsigned.setPrograms [])
    (by decide) (by decide) rfl⟩

end NknSdk
