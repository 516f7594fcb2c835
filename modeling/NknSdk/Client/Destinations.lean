import NknSdk.Utils.Identifier
import NknSdk.Client.Batching

/-!
# Where a message goes

A destination is a name or an address, with the parts of an identifier in front
of it.  `process_dests` looks at what stands behind the last dot: it keeps an
address, and writes the registrant in the place of a name.  What stands before
plays no part (`resolvesTo_iff`).

A multi-client resolves the destinations, and every sub-client, which has its
number written in front of them, resolves them again.  By then they are all
addresses (`Addressed`), so that the second pass changes nothing.
-/

namespace NknSdk

open Exec Utils

/-! ## What a destination stands for -/

/-- Nothing, or a text with a dot at its end. -/
def EndsAtDot (pre : String) : Prop := pre = "" ∨ ∃ front, pre = front ++ "."

/-- The destination is an address or a registered name, behind a prefix that is kept. -/
inductive ResolvesTo (d : ClientDeps) : String → String → Prop
  | address {pre last : String} : EndsAtDot pre → '.' ∉ last.toList →
      2 * publicKeyLen ≤ last.utf8ByteSize → ResolvesTo d (pre ++ last) (pre ++ last)
  | name {pre last registrant : String} : EndsAtDot pre → '.' ∉ last.toList →
      last.utf8ByteSize < 2 * publicKeyLen → d.getRegistrant last = .ok registrant →
      registrant ≠ "" → ResolvesTo d (pre ++ last) (pre ++ registrant)

/-- The destinations that resolve, in their order. -/
inductive ResolvedIn (d : ClientDeps) : List String → List String → Prop
  | nil : ResolvedIn d [] []
  | resolved {dest out : String} {dests outs : List String} : ResolvesTo d dest out →
      ResolvedIn d dests outs → ResolvedIn d (dest :: dests) (out :: outs)
  | skipped {dest : String} {dests outs : List String} : (∀ out, ¬ ResolvesTo d dest out) →
      ResolvedIn d dests outs → ResolvedIn d (dest :: dests) outs

/-- The last component is as long as a public key. -/
inductive Addressed : String → Prop
  | mk {pre last : String} : EndsAtDot pre → '.' ∉ last.toList →
      2 * publicKeyLen ≤ last.utf8ByteSize → Addressed (pre ++ last)

/-! ## Splitting at the last dot -/

theorem EndsAtDot.append_dot (front : String) : EndsAtDot (front ++ ".") := Or.inr ⟨front, rfl⟩

theorem EndsAtDot.append {pre : String} (h : EndsAtDot pre) (front : String) :
    EndsAtDot (front ++ "." ++ pre) := by
  rcases h with rfl | ⟨front', rfl⟩
  · rw [String.append_empty]
    exact EndsAtDot.append_dot front
  · rw [← String.append_assoc]
    exact EndsAtDot.append_dot (front ++ "." ++ front')

/-- Every destination has a last component. -/
theorem exists_last (dest : String) :
    ∃ pre last : String, EndsAtDot pre ∧ '.' ∉ last.toList ∧ dest = pre ++ last := by
  obtain ⟨chars, rfl⟩ : ∃ chars, dest = String.ofList chars := ⟨dest.toList, by simp⟩
  induction chars using List.reverseRecOn with
  | nil => exact ⟨"", "", Or.inl rfl, by simp, by simp⟩
  | append_singleton chars c ih =>
      rw [String.ofList_append]
      by_cases hc : c = '.'
      · subst hc
        exact ⟨String.ofList chars ++ ".", "", EndsAtDot.append_dot _, by simp, by simp⟩
      · obtain ⟨pre, last, hpre, hlast, heq⟩ := ih
        refine ⟨pre, last ++ String.ofList [c], hpre, ?_, by rw [heq, String.append_assoc]⟩
        simpa [hlast] using Ne.symm hc

/-- The parts of a destination, and what replacing the last of them comes to. -/
theorem splitDots_last {pre : String} (hpre : EndsAtDot pre) :
    ∃ front : List String,
      (∀ last, '.' ∉ last.toList → splitDots (pre ++ last) = front ++ [last]) ∧
      ∀ last, ".".intercalate (front ++ [last]) = pre ++ last := by
  rcases hpre with rfl | ⟨front, rfl⟩
  · refine ⟨[], fun last hlast => ?_, fun last => ?_⟩
    · rw [String.empty_append, splitDots_of_notMem hlast, List.nil_append]
    · rw [List.nil_append, String.intercalate_singleton, String.empty_append]
  · refine ⟨splitDots front, fun last hlast => ?_, fun last => ?_⟩
    · rw [splitDots_append, splitDots_of_notMem hlast]
    · rw [String.intercalate_append_of_ne_nil (splitDots_ne_nil front) (List.cons_ne_nil _ _),
        intercalate_splitDots, String.intercalate_singleton]

/-! ## Resolving one destination -/

section Resolving

variable {d : ClientDeps} {pre last : String}

theorem resolveDest_address (hpre : EndsAtDot pre) (hlast : '.' ∉ last.toList)
    (hlen : 2 * publicKeyLen ≤ last.utf8ByteSize) :
    resolveDest d (pre ++ last) = some (pre ++ last) := by
  obtain ⟨front, hsplit, hjoin⟩ := splitDots_last hpre
  simp only [resolveDest, hsplit last hlast, List.getLastD_concat]
  rw [if_neg (Nat.not_lt.mpr hlen), hjoin]

theorem resolveDest_name (hpre : EndsAtDot pre) (hlast : '.' ∉ last.toList)
    (hlen : last.utf8ByteSize < 2 * publicKeyLen) {registrant : String}
    (hregistrant : d.getRegistrant last = .ok registrant) (hne : registrant ≠ "") :
    resolveDest d (pre ++ last) = some (pre ++ registrant) := by
  obtain ⟨front, hsplit, hjoin⟩ := splitDots_last hpre
  simp only [resolveDest, hsplit last hlast, List.getLastD_concat, List.dropLast_concat]
  rw [if_pos hlen, hregistrant]
  dsimp only
  rw [if_neg hne, hjoin]

theorem resolveDest_unknown (hpre : EndsAtDot pre) (hlast : '.' ∉ last.toList)
    (hlen : last.utf8ByteSize < 2 * publicKeyLen)
    (hunknown : ∀ registrant, d.getRegistrant last = .ok registrant → registrant = "") :
    resolveDest d (pre ++ last) = none := by
  obtain ⟨front, hsplit, hjoin⟩ := splitDots_last hpre
  simp only [resolveDest, hsplit last hlast, List.getLastD_concat]
  rw [if_pos hlen]
  cases hanswer : d.getRegistrant last with
  | error e => rfl
  | ok registrant => exact if_pos (hunknown registrant hanswer)

/-- `process_dests` finds what the destination stands for. -/
theorem resolvesTo_iff {dest out : String} :
    ResolvesTo d dest out ↔ resolveDest d dest = some out := by
  constructor
  · intro h
    cases h with
    | address hpre hlast hlen => exact resolveDest_address hpre hlast hlen
    | name hpre hlast hlen hregistrant hne =>
        exact resolveDest_name hpre hlast hlen hregistrant hne
  · intro h
    obtain ⟨pre, last, hpre, hlast, rfl⟩ := exists_last dest
    rcases Nat.lt_or_ge last.utf8ByteSize (2 * publicKeyLen) with hlen | hlen
    · by_cases hknown : ∃ registrant, d.getRegistrant last = .ok registrant ∧ registrant ≠ ""
      · obtain ⟨registrant, hregistrant, hne⟩ := hknown
        rw [resolveDest_name hpre hlast hlen hregistrant hne] at h
        cases h
        exact .name hpre hlast hlen hregistrant hne
      · push Not at hknown
        rw [resolveDest_unknown hpre hlast hlen hknown] at h
        cases h
    · rw [resolveDest_address hpre hlast hlen] at h
      cases h
      exact .address hpre hlast hlen

theorem forall_not_resolvesTo {dest : String} :
    (∀ out, ¬ ResolvesTo d dest out) ↔ resolveDest d dest = none := by
  simp only [resolvesTo_iff, Option.eq_none_iff_forall_ne_some, ne_eq]

/-- An address stands for itself and for nothing else. -/
theorem Addressed.resolvesTo_iff {dest out : String} (h : Addressed dest) :
    ResolvesTo d dest out ↔ out = dest := by
  obtain ⟨hpre, hlast, hlen⟩ := h
  rw [NknSdk.resolvesTo_iff, resolveDest_address hpre hlast hlen, Option.some_inj, eq_comm]

end Resolving

/-! ## Resolving all of them -/

section Passes

variable {d : ClientDeps} {dests outs : List String}

theorem resolvedIn_filterMap (d : ClientDeps) (dests : List String) :
    ResolvedIn d dests (dests.filterMap (resolveDest d)) := by
  induction dests with
  | nil => exact .nil
  | cons dest dests ih =>
      cases hdest : resolveDest d dest with
      | none =>
          rw [List.filterMap_cons_none hdest]
          exact .skipped (forall_not_resolvesTo.mpr hdest) ih
      | some out =>
          rw [List.filterMap_cons_some hdest]
          exact .resolved (resolvesTo_iff.mpr hdest) ih

theorem processDests_error_iff (hne : dests ≠ []) :
    (∃ e, processDests d dests = .error e) ↔ ∀ dest ∈ dests, ∀ out, ¬ ResolvesTo d dest out := by
  simp only [forall_not_resolvesTo]
  rw [← List.filterMap_eq_nil_iff, processDests, if_neg hne]
  dsimp only
  constructor
  · rintro ⟨e, h⟩
    by_contra hsome
    rw [if_neg hsome] at h
    cases h
  · intro h
    exact ⟨_, if_pos h⟩

theorem resolvedIn_of_processDests (hne : dests ≠ []) (h : processDests d dests = .ok outs) :
    ResolvedIn d dests outs ∧ outs ≠ [] := by
  rw [processDests, if_neg hne] at h
  dsimp only at h
  by_cases hnone : dests.filterMap (resolveDest d) = []
  · rw [if_pos hnone] at h
    cases h
  · rw [if_neg hnone] at h
    cases h
    exact ⟨resolvedIn_filterMap d dests, hnone⟩

/-- Destinations that are addresses come through unchanged. -/
theorem processDests_of_addressed (hne : dests ≠ []) (h : ∀ dest ∈ dests, Addressed dest) :
    processDests d dests = .ok dests := by
  have hkept : dests.filterMap (resolveDest d) = dests := by
    rw [List.filterMap_congr (g := some) fun dest hdest =>
      NknSdk.resolvesTo_iff.mp ((h dest hdest).resolvesTo_iff.mpr rfl), List.filterMap_some]
  rw [processDests, if_neg hne]
  simp only [hkept]
  exact if_neg hne

/-! ## The second pass -/

/-- A registrant is empty, or as long as a public key and without dots. -/
def RegistersAddresses (d : ClientDeps) : Prop :=
  ∀ name registrant, d.getRegistrant name = .ok registrant →
    registrant = "" ∨ '.' ∉ registrant.toList ∧ 2 * publicKeyLen ≤ registrant.utf8ByteSize

theorem ResolvesTo.addressed (hregisters : RegistersAddresses d) {dest out : String}
    (h : ResolvesTo d dest out) : Addressed out := by
  cases h with
  | address hpre hlast hlen => exact .mk hpre hlast hlen
  | name hpre hlast hlen hregistrant hne =>
      obtain ⟨hdots, hlong⟩ := (hregisters _ _ hregistrant).resolve_left hne
      exact .mk hpre hdots hlong

theorem ResolvedIn.addressed (hregisters : RegistersAddresses d) (h : ResolvedIn d dests outs) :
    ∀ out ∈ outs, Addressed out := by
  induction h with
  | nil => exact nofun
  | resolved hout _ ih => exact List.forall_mem_cons.mpr ⟨hout.addressed hregisters, ih⟩
  | skipped _ _ ih => exact ih

theorem Addressed.ne_empty {dest : String} (h : Addressed dest) : dest ≠ "" := by
  obtain ⟨-, -, hlen⟩ := h
  refine append_ne ?_
  rintro rfl
  exact absurd hlen (by decide)

/-- Numbering a destination leaves its last component alone. -/
theorem Addressed.addIdentifier {dest : String} (h : Addressed dest) (id : Int32) :
    Addressed (addIdentifier dest id) := by
  by_cases hid : id < 0
  · rwa [addIdentifier_of_neg hid]
  · rw [addIdentifier_of_ne hid h.ne_empty]
    obtain ⟨hpre, hlast, hlen⟩ := h
    rw [← String.append_assoc]
    exact .mk (hpre.append (identifierOf id)) hlast hlen

theorem processDests_addMulticlientPrefix (hne : dests ≠ [])
    (h : ∀ dest ∈ dests, Addressed dest) (clientId : Int32) :
    processDests d (addMulticlientPrefix dests clientId) =
      .ok (addMulticlientPrefix dests clientId) := by
  refine processDests_of_addressed (by simpa [addMulticlientPrefix] using hne) ?_
  simpa [addMulticlientPrefix] using fun dest hdest => (h dest hdest).addIdentifier clientId

end Passes

/-- `multiclient::send_with_client`. -/
def sendWithClient (d : ClientDeps) (rng : Draws) (clientId : Int32) (dests : List String)
    (payload : Pb.Payloads.Payload) (encrypted : Bool) (maxHoldingSecs : UInt32) :
    ClientCall Unit :=
  sendMessages d rng (addMulticlientPrefix dests clientId) payload encrypted maxHoldingSecs

/-- Resolving fails exactly where nothing resolves, keeps the order and every
address, and is done once and for all: the sub-clients send to just what the
multi-client found, with their numbers in front. -/
theorem process_dests_stable (d : ClientDeps) (hregisters : RegistersAddresses d)
    (dests : List String) (hne : dests ≠ []) :
    ((∃ e, processDests d dests = .error e) ↔
        ∀ dest ∈ dests, ∀ out, ¬ ResolvesTo d dest out) ∧
      (∀ dest out, Addressed dest → (ResolvesTo d dest out ↔ out = dest)) ∧
      ∀ ds, processDests d dests = .ok ds → ResolvedIn d dests ds ∧
        ∀ clientId : Int32,
          processDests d (addMulticlientPrefix ds clientId) =
            .ok (addMulticlientPrefix ds clientId) ∧
          ∀ rng payload encrypted maxHoldingSecs,
            sendWithClient d rng clientId ds payload encrypted maxHoldingSecs =
              createPayloads d rng (addMulticlientPrefix ds clientId) payload encrypted >>=
                fun payloads =>
              outboundMessages d rng maxHoldingSecs (addMulticlientPrefix ds clientId) payloads >>=
                fun msgs =>
              msgs.forM fun m => logged (writeMessage (createClientMessage d m).encode) := by
  refine ⟨processDests_error_iff hne, fun dest out h => h.resolvesTo_iff, ?_⟩
  intro ds hds
  obtain ⟨hresolved, hsome⟩ := resolvedIn_of_processDests hne hds
  refine ⟨hresolved, fun clientId => ?_⟩
  have hsecond := processDests_addMulticlientPrefix (d := d) hsome
    (hresolved.addressed hregisters) clientId
  refine ⟨hsecond, fun rng payload encrypted maxHoldingSecs => ?_⟩
  exact sendMessages_eq hsecond (by simpa [addMulticlientPrefix] using hsome) rng payload encrypted
    maxHoldingSecs

namespace Exchange

/-- One name is registered. -/
def sampleNameDeps : ClientDeps :=
  { sampleBoxDeps with
    getRegistrant := fun name => if name = "alice" then .ok sampleAddress else .error "no name" }

theorem sample_registersAddresses : RegistersAddresses sampleNameDeps := by
  intro name registrant h
  have hregistrant : registrant = sampleAddress := by
    simp only [sampleNameDeps] at h
    split at h
    · exact (Except.ok.inj h).symm
    · cases h
  rw [hregistrant]
  exact Or.inr (by decide +kernel)

/-- A name behind an identifier with a dot, one that is not registered, and an empty one. -/
theorem sample_process_dests_stable :
    ResolvedIn sampleNameDeps ["a.b.alice", "bob", ""] ["a.b." ++ sampleAddress] :=
  ((process_dests_stable sampleNameDeps sample_registersAddresses ["a.b.alice", "bob", ""]
    (List.cons_ne_nil _ _)).2.2 ["a.b." ++ sampleAddress] (by decide +kernel)).1

end Exchange

end NknSdk
