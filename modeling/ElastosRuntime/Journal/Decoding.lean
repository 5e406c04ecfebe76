/-
# The codec of the release journal is canonical

`Entry` shows that what is written is read back.  Here is the converse, at each of the three levels
of a file (`encodeEntry_of_decode`, `encode_of_decode`, `toEntry_of_intoPersisted`): what is
accepted is what is written for it.

The readers of `Entry` check every length where they use it.  The source checks some of them ahead
and then indexes; the readers of section 3 do as the source does and are shown to agree.
-/
import ElastosRuntime.Journal.Entry
import ElastosRuntime.Lib.Indexed

namespace ElastosRuntime.ReleaseJournal

open Codec Contracts

/-! ## 1. Blobs and terminal results -/

theorem accepts_blob : Accepts takeBlob pushBlob := by
  intro s bytes rest h
  obtain ⟨len, t, hlen, h⟩ := run_bind_eq_ok.mp h
  obtain ⟨⟨⟩, hpos, hbytes⟩ := run_test_eq_ok.mp h
  obtain ⟨rfl, hfits⟩ := takeNat_eq_ok hlen
  obtain ⟨rfl, rfl⟩ := take_eq_ok hbytes
  have hne : bytes ≠ [] := fun hnil => failIf_eq_ok.mp hpos (congrArg List.length hnil)
  refine ⟨beBytes 4 bytes.length ++ bytes, (List.append_assoc ..).symm, fun out => ?_⟩
  rw [pushBlob, ← List.append_assoc]
  exact run_test_eq_ok.mpr ⟨(), failIf_eq_ok.mpr (not_or.mpr ⟨hne, by omega⟩), rfl⟩

theorem accepts_document {α : Type} [CanonicalBody α] :
    Accepts (takeDocument : Reader α) pushDocument := by
  intro s value rest h
  obtain ⟨bytes, t, hbytes, h⟩ := run_bind_eq_ok.mp h
  obtain ⟨hvalue, rfl⟩ := run_lift_eq_ok.mp h
  obtain ⟨bs, rfl, hblob⟩ := accepts_blob s bytes t hbytes
  have hencodes := canonicalBytes_of_fromCanonicalBytes (orCorrupt_eq_ok.mp hvalue)
  exact ⟨bs, rfl, fun out =>
    run_test_eq_ok.mpr ⟨bytes, orCorrupt_eq_ok.mpr hencodes, hblob out⟩⟩

variable [Curves]

namespace RuntimeReleaseTerminalResult

theorem accepts : Accepts read write := by
  intro s v rest h
  obtain ⟨tag, t, htag, hbody⟩ := run_bind_eq_ok.mp h
  obtain ⟨rfl, -⟩ := takeNat_eq_ok htag
  split at hbody
  · obtain ⟨decision, u, hdecision, hbody⟩ := run_bind_eq_ok.mp hbody
    cases hbody
    obtain ⟨bs, rfl, hw⟩ := accepts_document _ _ _ hdecision
    refine ⟨beBytes 1 1 ++ bs, (List.append_assoc ..).symm, fun out => ?_⟩
    rw [← List.append_assoc]
    exact hw _
  · obtain ⟨count, u, hcount, hbody⟩ := run_bind_eq_ok.mp hbody
    obtain ⟨⟨⟩, hpos, hbody⟩ := run_test_eq_ok.mp hbody
    obtain ⟨contributions, u', hmany, hbody⟩ := run_bind_eq_ok.mp hbody
    cases hbody
    obtain ⟨rfl, hfits⟩ := takeNat_eq_ok hcount
    obtain ⟨rfl, bs, rfl, hw⟩ := accepts_document.many _ _ _ _ hmany
    have hne : contributions ≠ [] := fun hnil =>
      failIf_eq_ok.mp hpos (congrArg List.length hnil)
    refine ⟨beBytes 1 2 ++ (beBytes 2 contributions.length ++ bs), ?_, fun out => ?_⟩
    · rw [List.append_assoc, List.append_assoc]
    · rw [← List.append_assoc, ← List.append_assoc]
      refine run_test_eq_ok.mpr ⟨(), failIf_eq_ok.mpr hne, ?_⟩
      exact run_bind_eq_ok.mpr ⟨(), _, rfl,
        run_test_eq_ok.mpr ⟨(), failIf_eq_ok.mpr (by omega), hw _⟩⟩
  · cases hbody

/-- **A terminal result is what is written for it.** -/
theorem encode_of_decode {v : RuntimeReleaseTerminalResult} {bytes : List UInt8}
    (h : decode bytes = .ok v) : v.encode = .ok bytes := by
  obtain ⟨⟨⟩, hlen, h⟩ := bind_eq_ok.mp h
  obtain ⟨⟨v', rest⟩, hread, h⟩ := bind_eq_ok.mp h
  obtain ⟨⟨⟩, hrest, h⟩ := bind_eq_ok.mp h
  cases h
  rw [failIf_eq_ok, not_or, Nat.not_lt] at hlen
  obtain rfl := not_not.mp (failIf_eq_ok.mp hrest)
  obtain ⟨bs, rfl, hw⟩ := accepts _ _ _ hread
  rw [List.append_nil] at hlen ⊢
  exact encode_eq_ok.mpr ⟨hw [], hlen.2⟩

end RuntimeReleaseTerminalResult

/-- **So are the decisions.** -/
theorem encode_of_decodeReplayableRightsDecisions {bytes : List UInt8}
    {decisions : List SignedNodeRightsDecisionV1}
    (h : decodeReplayableRightsDecisions bytes = .ok decisions) :
    encodeReplayableRightsDecisions decisions = .ok bytes := by
  unfold decodeReplayableRightsDecisions at h
  split at h
  · next hnil =>
    cases h
    rw [hnil]
    rfl
  · obtain ⟨⟨⟩, hlen, h⟩ := bind_eq_ok.mp h
    obtain ⟨⟨count, t⟩, hcount, h⟩ := bind_eq_ok.mp h
    obtain ⟨⟨⟩, hpos, h⟩ := bind_eq_ok.mp h
    obtain ⟨⟨decisions', rest⟩, hmany, h⟩ := bind_eq_ok.mp h
    obtain ⟨⟨⟩, hrest, h⟩ := bind_eq_ok.mp h
    cases h
    obtain rfl := not_not.mp (failIf_eq_ok.mp hrest)
    obtain ⟨rfl, hfits⟩ := takeNat_eq_ok hcount
    obtain ⟨rfl, bs, rfl, hw⟩ := accepts_document.many _ _ _ _ hmany
    rw [List.append_nil] at hlen ⊢
    rw [failIf_eq_ok, not_or, Nat.not_lt, Nat.not_lt] at hlen
    have hne : decisions ≠ [] := fun hnil => failIf_eq_ok.mp hpos (congrArg List.length hnil)
    rw [encodeReplayableRightsDecisions, if_neg hne]
    exact bind_eq_ok.mpr ⟨(), failIf_eq_ok.mpr (by omega), bind_eq_ok.mpr ⟨_, hw _,
      bind_eq_ok.mpr ⟨(), failIf_eq_ok.mpr (Nat.not_lt.mpr hlen.2), rfl⟩⟩⟩

/-! ## 2. Files and records -/

variable [Crypto]

/-- What a decoded entry has passed besides its lengths. -/
structure StoreEntry.Placed (entry : StoreEntry) (slot : Digest32) : Prop where
  slotHash : entry.slotHash = slot
  operationHash : slotHashFor entry.operationHash = slot
  terminalBytes : entry.terminalBytes ≠ some []

omit [Curves] [Crypto] in
theorem startedOfByte_eq_ok {n : Nat} {started : Bool}
    (h : StoreEntry.startedOfByte n = .ok started) : n = started.toNat := by
  unfold StoreEntry.startedOfByte at h
  split at h <;> cases h <;> rfl

theorem StoreEntry.write_of_read {slot : Digest32} {payload rest : List UInt8} {entry : StoreEntry}
    (h : (read slot).run payload = .ok (entry, rest)) : entry.Bounded ∧ entry.Placed slot ∧
      ∃ bs, payload = bs ++ rest ∧ entry.write.run [] = .ok ((), bs) := by
  obtain ⟨magic, s₁, hmagic, h⟩ := run_bind_eq_ok.mp h
  obtain ⟨⟨⟩, hisMagic, h⟩ := run_test_eq_ok.mp h
  obtain ⟨slotHash, s₂, hslot, h⟩ := run_bind_eq_ok.mp h
  obtain ⟨⟨⟩, hisSlot, h⟩ := run_test_eq_ok.mp h
  obtain ⟨audit, s₃, haudit, h⟩ := run_bind_eq_ok.mp h
  obtain ⟨auditRequestId, hauditId, h⟩ := run_test_eq_ok.mp h
  obtain ⟨issuer, s₄, hissuer, h⟩ := run_bind_eq_ok.mp h
  obtain ⟨runtimeOperationIssuer, hissuerKey, h⟩ := run_test_eq_ok.mp h
  obtain ⟨operationHash, s₅, hoperation, h⟩ := run_bind_eq_ok.mp h
  obtain ⟨⟨⟩, hisOperation, h⟩ := run_test_eq_ok.mp h
  obtain ⟨flag, s₆, hflag, h⟩ := run_bind_eq_ok.mp h
  obtain ⟨effectStarted, hstarted, h⟩ := run_test_eq_ok.mp h
  obtain ⟨wallet, s₇, hwallet, h⟩ := run_bind_eq_ok.mp h
  obtain ⟨walletResponse, s₈, hresponse, h⟩ := run_bind_eq_ok.mp h
  obtain ⟨operation, s₉, hoperationLen, h⟩ := run_bind_eq_ok.mp h
  obtain ⟨terminalLen, s₁₀, hterminalLen, h⟩ := run_bind_eq_ok.mp h
  obtain ⟨rights, s₁₁, hrights, h⟩ := run_bind_eq_ok.mp h
  obtain ⟨⟨⟩, hbounds, h⟩ := run_test_eq_ok.mp h
  obtain ⟨walletBytes, s₁₂, hwalletBytes, h⟩ := run_bind_eq_ok.mp h
  obtain ⟨responseBytes, s₁₃, hresponseBytes, h⟩ := run_bind_eq_ok.mp h
  obtain ⟨operationBytes, s₁₄, hoperationBytes, h⟩ := run_bind_eq_ok.mp h
  obtain ⟨terminal, s₁₅, hterminal, h⟩ := run_bind_eq_ok.mp h
  obtain ⟨rightsBytes, s₁₆, hrightsBytes, h⟩ := run_bind_eq_ok.mp h
  cases h
  obtain rfl := not_not.mp (failIf_eq_ok.mp hisSlot)
  have hoperationSlot := not_not.mp (failIf_eq_ok.mp hisOperation)
  have hbounded := not_not.mp (failIf_eq_ok.mp hbounds)
  obtain ⟨rfl, rfl⟩ := take_eq_ok hwalletBytes
  obtain ⟨rfl, rfl⟩ := take_eq_ok hresponseBytes
  obtain ⟨rfl, rfl⟩ := take_eq_ok hoperationBytes
  obtain ⟨rfl, rfl⟩ := take_eq_ok hterminal
  obtain ⟨rfl, rfl⟩ := take_eq_ok hrightsBytes
  -- no terminal bytes are written as none
  have hsome : (if 0 < terminal.length then some terminal else none).getD [] = terminal := by
    split
    · rfl
    · next hzero => exact (List.eq_nil_of_length_eq_zero (Nat.eq_zero_of_not_pos hzero)).symm
  refine ⟨?_, ⟨rfl, hoperationSlot, ?_⟩, ?_⟩
  · rw [Bounded, hsome]
    exact hbounded
  · dsimp only
    split
    · rintro ⟨⟩
      contradiction
    · exact nofun
  · have hvalues := takeBytes_eq_ok hmagic
    rw [not_not.mp (failIf_eq_ok.mp hisMagic), takeBytes_eq_ok hslot, takeBytes_eq_ok haudit,
      takeBytes_eq_ok hissuer, takeBytes_eq_ok hoperation, (takeNat_eq_ok hflag).1,
      (takeNat_eq_ok hwallet).1, (takeNat_eq_ok hresponse).1, (takeNat_eq_ok hoperationLen).1,
      (takeNat_eq_ok hterminalLen).1, (takeNat_eq_ok hrights).1, startedOfByte_eq_ok hstarted,
      ← Checked.value_of_new (orCorrupt_eq_ok.mp hauditId),
      ← Checked.value_of_new (orCorrupt_eq_ok.mp hissuerKey)] at hvalues
    refine ⟨_, ?_, rfl⟩
    rw [hvalues]
    simp only [hsome, List.nil_append, List.append_assoc]

/-- **A file is what is written for its entry.** -/
theorem encodeEntry_of_decode {slot : Digest32} {bytes : List UInt8} {entry : StoreEntry}
    (h : decodeEntryForSlot bytes slot = .ok entry) :
    entry.Placed slot ∧ encodeEntry entry = .ok bytes := by
  obtain ⟨⟨⟩, hlen, h⟩ := bind_eq_ok.mp h
  obtain ⟨⟨⟩, hdigest, h⟩ := bind_eq_ok.mp h
  obtain ⟨⟨entry', rest⟩, hread, h⟩ := bind_eq_ok.mp h
  obtain ⟨⟨⟩, hrest, h⟩ := bind_eq_ok.mp h
  cases h
  rw [failIf_eq_ok, not_or, Nat.not_lt, Nat.not_lt] at hlen
  obtain rfl := not_not.mp (failIf_eq_ok.mp hrest)
  obtain ⟨hbounded, hplaced, bs, hpayload, hwrite⟩ := StoreEntry.write_of_read hread
  rw [List.append_nil] at hpayload
  subst hpayload
  refine ⟨hplaced, bind_eq_ok.mpr ⟨(), failIf_eq_ok.mpr (not_not.mpr hbounded), bind_eq_ok.mpr
    ⟨_, hwrite, bind_eq_ok.mpr ⟨(), failIf_eq_ok.mpr ?_, ?_⟩⟩⟩⟩
  · rw [List.length_take]
    omega
  · rw [not_not.mp (failIf_eq_ok.mp hdigest), List.take_append_drop]
    rfl

namespace PersistedRuntimeReleaseOperation

/-- **A record spells the entry it was read from.** -/
theorem toEntry_of_intoPersisted {v : PersistedRuntimeReleaseOperation} {entry : StoreEntry}
    {slot : Digest32} (hplaced : entry.Placed slot) (h : entry.intoPersisted = .ok v) :
    v.toEntry = .ok entry := by
  obtain ⟨operation, hoperation, h⟩ := bind_eq_ok.mp h
  obtain ⟨hash, hhash, h⟩ := bind_eq_ok.mp h
  obtain ⟨⟨⟩, hsame, h⟩ := bind_eq_ok.mp h
  obtain ⟨⟨⟩, hids, h⟩ := bind_eq_ok.mp h
  obtain ⟨draft, hdraft, h⟩ := bind_eq_ok.mp h
  obtain ⟨terminal, hterminal, h⟩ := bind_eq_ok.mp h
  obtain ⟨decisions, hdecisions, h⟩ := bind_eq_ok.mp h
  cases h
  have hbytes := canonicalBytes_of_fromCanonicalBytes (orCorrupt_eq_ok.mp hoperation)
  obtain ⟨bytes, hbytes', hhash⟩ := bind_eq_ok.mp (orCorrupt_eq_ok.mp hhash)
  obtain rfl := Except.ok.inj (hbytes.symm.trans hbytes')
  cases hhash
  have hsame := not_not.mp (failIf_eq_ok.mp hsame)
  rw [failIf_eq_ok, not_or, not_not, not_not] at hids
  unfold RuntimeReleaseOperationDraft.new at hdraft
  split at hdraft
  · cases hdraft
  cases hdraft
  have hencoded : terminal.mapM RuntimeReleaseTerminalResult.encode = .ok entry.terminalBytes := by
    cases hbytes : entry.terminalBytes with
    | none =>
      rw [hbytes] at hterminal
      cases hterminal
      rfl
    | some bytes =>
      rw [hbytes] at hterminal
      obtain ⟨result, hresult, hterminal⟩ := bind_eq_ok.mp hterminal
      cases hterminal
      exact bind_eq_ok.mpr ⟨_, RuntimeReleaseTerminalResult.encode_of_decode hresult, rfl⟩
  refine bind_eq_ok.mpr ⟨_, hencoded, bind_eq_ok.mpr
    ⟨_, encode_of_decodeReplayableRightsDecisions hdecisions, StoreEntry.fromDraft_eq_ok.mpr
      ⟨_, hbytes, ?_⟩⟩⟩
  have hslot : slotHashFor (Crypto.sha256 entry.signedOperationBytes) = entry.slotHash := by
    rw [hsame, hplaced.operationHash, hplaced.slotHash]
  rw [hslot]
  obtain ⟨slotHash, _, _, operationHash⟩ := entry
  simp only [RuntimeReleaseOperationDraft.auditRequestId, hids,
    RuntimeReleaseOperationDraft.runtimeOperationIssuer, hsame]

end PersistedRuntimeReleaseOperation

/-! ## 3. The readers of the source -/

/-- Reads by position, after its own tests. -/
abbrev Indexer := ByteReader (Halt RuntimeReleaseJournalError)

/-- `return Err(RuntimeReleaseJournalError::Corrupt)` under a condition. -/
def corruptIf (bad : Prop) [Decidable bad] : Except (Halt RuntimeReleaseJournalError) Unit :=
  refusing (failIf bad .corrupt)

def takeBlobIndexed : Indexer (List UInt8) := do
  let left ← get
  corruptIf (left.length < 4)
  let len ← takeNat .outOfBounds 4
  let left ← get
  corruptIf (len = 0 ∨ left.length < len)
  take .outOfBounds len

def takeDocumentIndexed {α : Type} [CanonicalBody α] : Indexer α := do
  let bytes ← takeBlobIndexed
  refusing (orCorrupt (fromCanonicalBytes bytes))

section

omit [Curves] [Crypto]

/-- A test that the source makes ahead. -/
theorem agrees_corruptIf {α : Type} {bad : Prop} [Decidable bad]
    {x : Except (Halt RuntimeReleaseJournalError) α} {y : Except RuntimeReleaseJournalError α}
    (hbad : bad → ∀ a, y ≠ .ok a) (h : ¬bad → Agrees x y) :
    Agrees (corruptIf bad >>= fun _ => x) y := by
  by_cases htest : bad
  · refine .of_refused (e := .refused .corrupt) ?_ nofun (hbad htest)
    rw [corruptIf, failIf, if_pos htest]
    rfl
  · rw [corruptIf, failIf, if_neg htest]
    exact h htest

theorem agrees_takeBlob (s : List UInt8) : Agrees (takeBlobIndexed.run s) (takeBlob.run s) := by
  rw [takeBlobIndexed, takeBlob, StateT.run_bind, StateT.run_get, pure_bind, run_test,
    StateT.run_bind, StateT.run_bind]
  dsimp only
  refine agrees_corruptIf (fun hshort a h => ?_) fun hlong => ?_
  · obtain ⟨⟨len, t⟩, hlen, -⟩ := Codec.bind_eq_ok.mp h
    have := length_of_takeNat hlen
    omega
  · refine (Agrees.takeNat _ (Nat.le_of_not_lt hlong)).bind fun ⟨len, t⟩ _ => ?_
    rw [StateT.run_bind, StateT.run_get, pure_bind, run_test, run_test]
    dsimp only
    refine agrees_corruptIf (fun hbad a h => ?_) fun hfits => ?_
    · obtain ⟨⟨⟩, hpos, h⟩ := Codec.bind_eq_ok.mp h
      obtain ⟨rfl, rfl⟩ := take_eq_ok h
      have := failIf_eq_ok.mp hpos
      rw [List.length_append] at hbad
      omega
    · rw [not_or, Nat.not_lt] at hfits
      rw [failIf, if_neg hfits.1]
      exact .take _ hfits.2

theorem agrees_takeDocument {α : Type} [CanonicalBody α] (s : List UInt8) :
    Agrees ((takeDocumentIndexed : Indexer α).run s) ((takeDocument : Reader α).run s) :=
  (agrees_takeBlob s).run_bind fun bytes t _ => by
    cases (orCorrupt (fromCanonicalBytes bytes) : Except RuntimeReleaseJournalError α) with
    | error e => exact .of_refused rfl nofun nofun
    | ok value => exact .refl_refusing (.ok _)

end

namespace RuntimeReleaseTerminalResult

def decodeIndexed (bytes : List UInt8) :
    Except (Halt RuntimeReleaseJournalError) RuntimeReleaseTerminalResult := do
  corruptIf (bytes = [] ∨ MAX_TERMINAL_BYTES < bytes.length)
  let (tag, rest) ← (takeNat .outOfBounds 1 : Indexer Nat).run bytes
  match tag with
  | 1 => do
    let (decision, rest) ← takeBlobIndexed.run rest
    corruptIf (rest ≠ [])
    let decision ← refusing (orCorrupt (fromCanonicalBytes decision))
    pure (rightsDenied decision)
  | 2 => do
    corruptIf (bytes.length < 3)
    let (count, rest) ← (takeNat .outOfBounds 2 : Indexer Nat).run rest
    corruptIf (count = 0)
    let (contributions, rest) ← (many takeDocumentIndexed count : Indexer _).run rest
    corruptIf (rest ≠ [])
    pure (contributionsReady contributions)
  | _ => .error (.refused .corrupt)

omit [Crypto]

theorem agrees_decode (bytes : List UInt8) : Agrees (decodeIndexed bytes) (decode bytes) := by
  refine (Agrees.refl_refusing _).bind fun ⟨⟩ hlen => ?_
  rw [failIf_eq_ok, not_or] at hlen
  rw [read, StateT.run_bind, bind_assoc]
  refine (Agrees.takeNat _ (List.length_pos_of_ne_nil hlen.1)).bind fun ⟨tag, t⟩ htag => ?_
  have hsize := length_of_takeNat htag
  match tag with
  | 0 | _ + 3 => exact .of_refused rfl nofun nofun
  | 1 =>
    change Agrees (takeBlobIndexed.run t >>= _) ((takeDocument >>= _).run t >>= _)
    rw [takeDocument, bind_assoc, StateT.run_bind, bind_assoc]
    refine (agrees_takeBlob t).bind fun ⟨decision, rest⟩ _ => ?_
    dsimp only
    rw [run_test, bind_assoc]
    -- the source looks at what is left before it parses
    refine agrees_corruptIf (fun hrest a h => ?_) fun hrest => ?_
    · obtain ⟨_, _, h⟩ := Codec.bind_eq_ok.mp h
      obtain ⟨_, ⟨⟩, h⟩ := Codec.bind_eq_ok.mp h
      obtain ⟨⟨⟩, hnone, -⟩ := Codec.bind_eq_ok.mp h
      exact failIf_eq_ok.mp hnone hrest
    · refine (Agrees.refl_refusing _).bind fun decision _ => ?_
      change Agrees _ (failIf (rest ≠ []) _ >>= fun _ => _)
      rw [failIf, if_neg hrest]
      exact .refl_refusing (.ok _)
  | 2 =>
    change Agrees (corruptIf _ >>= _) ((takeNat _ 2 >>= _).run t >>= _)
    rw [StateT.run_bind, bind_assoc]
    refine agrees_corruptIf (fun hshort a h => ?_) fun hlong => ?_
    · obtain ⟨⟨count, u⟩, hcount, -⟩ := Codec.bind_eq_ok.mp h
      have := length_of_takeNat hcount
      omega
    · refine (Agrees.takeNat _ (by omega)).bind fun ⟨count, u⟩ _ => ?_
      dsimp only
      rw [run_test, bind_assoc]
      refine (Agrees.refl_refusing _).bind fun ⟨⟩ _ => ?_
      rw [StateT.run_bind, bind_assoc]
      refine (Agrees.many agrees_takeDocument count u).bind fun ⟨contributions, rest⟩ _ => ?_
      exact (Agrees.refl_refusing _).bind fun ⟨⟩ _ => .refl_refusing (.ok _)

end RuntimeReleaseTerminalResult

def decodeReplayableRightsDecisionsIndexed (bytes : List UInt8) :
    Except (Halt RuntimeReleaseJournalError) (List SignedNodeRightsDecisionV1) :=
  if bytes = [] then
    pure []
  else do
    corruptIf (bytes.length < 2 ∨ MAX_REPLAYABLE_RIGHTS_BYTES < bytes.length)
    let (count, bytes) ← (takeNat .outOfBounds 2 : Indexer Nat).run bytes
    corruptIf (count = 0)
    let (decisions, rest) ← (many takeDocumentIndexed count : Indexer _).run bytes
    corruptIf (rest ≠ [])
    pure decisions

omit [Crypto] in
theorem agrees_decodeReplayableRightsDecisions (bytes : List UInt8) :
    Agrees (decodeReplayableRightsDecisionsIndexed bytes)
      (decodeReplayableRightsDecisions bytes) := by
  unfold decodeReplayableRightsDecisionsIndexed decodeReplayableRightsDecisions
  split
  · exact .refl_refusing (.ok _)
  · refine (Agrees.refl_refusing _).bind fun ⟨⟩ hlen => ?_
    have hlen := failIf_eq_ok.mp hlen
    refine (Agrees.takeNat _ (by omega)).bind fun ⟨count, t⟩ _ => ?_
    refine (Agrees.refl_refusing _).bind fun ⟨⟩ _ => ?_
    refine (Agrees.many agrees_takeDocument count t).bind fun ⟨decisions, rest⟩ _ => ?_
    exact (Agrees.refl_refusing _).bind fun ⟨⟩ _ => .refl_refusing (.ok _)

namespace StoreEntry

/-- What is read behind the magic bytes of a payload of that length. -/
def readIndexed (payloadLen : Nat) (expectedSlotHash : Digest32) : Indexer StoreEntry := do
  let slotHash ← takeBytes .outOfBounds 32
  corruptIf (slotHash ≠ expectedSlotHash)
  let auditRequestId ←
    refusing (orCorrupt (RuntimeReleaseAuditIdV1.new (← takeBytes .outOfBounds 32)))
  let runtimeOperationIssuer ←
    refusing (orCorrupt (RuntimeOperationIssuerKeyV1.new (← takeBytes .outOfBounds 32)))
  let operationHash ← takeBytes .outOfBounds 32
  corruptIf (slotHashFor operationHash ≠ expectedSlotHash)
  let effectStarted ← refusing (startedOfByte (← takeNat .outOfBounds 1))
  let walletLen ← takeNat .outOfBounds 4
  let walletResponseLen ← takeNat .outOfBounds 4
  let operationLen ← takeNat .outOfBounds 4
  let terminalLen ← takeNat .outOfBounds 4
  let replayableRightsLen ← takeNat .outOfBounds 4
  corruptIf (¬Bounds walletLen walletResponseLen operationLen terminalLen replayableRightsLen)
  corruptIf (payloadLen ≠ STORE_HEADER_BYTES + walletLen + walletResponseLen + operationLen +
    terminalLen + replayableRightsLen)
  let walletRequestBytes ← take .outOfBounds walletLen
  let walletResponseBytes ← take .outOfBounds walletResponseLen
  let signedOperationBytes ← take .outOfBounds operationLen
  let terminal ← take .outOfBounds terminalLen
  let replayableRightsBytes ← take .outOfBounds replayableRightsLen
  pure
    { slotHash, auditRequestId, runtimeOperationIssuer, operationHash, walletRequestBytes,
      walletResponseBytes, signedOperationBytes,
      terminalBytes := if 0 < terminalLen then some terminal else none, replayableRightsBytes,
      effectStarted }

end StoreEntry

def decodeEntryIndexed (bytes : List UInt8) (expectedSlotHash : Digest32) :
    Except (Halt RuntimeReleaseJournalError) StoreEntry := do
  corruptIf (bytes.length < STORE_HEADER_BYTES + STORE_DIGEST_BYTES ∨
    MAX_STORE_FILE_BYTES < bytes.length)
  let payload := bytes.take (bytes.length - STORE_DIGEST_BYTES)
  let digest := bytes.drop (bytes.length - STORE_DIGEST_BYTES)
  let (magic, rest) ← (takeBytes .outOfBounds 8 : Indexer _).run payload
  corruptIf (magic.toList ≠ STORE_MAGIC)
  corruptIf ((storeIntegrityDigest payload).toList ≠ digest)
  let (entry, _) ← (StoreEntry.readIndexed payload.length expectedSlotHash).run rest
  pure entry

theorem agrees_decodeEntry (bytes : List UInt8) (slot : Digest32) :
    Agrees (decodeEntryIndexed bytes slot) (decodeEntryForSlot bytes slot) := by
  refine (Agrees.refl_refusing _).bind fun ⟨⟩ hlen => ?_
  rw [failIf_eq_ok, not_or, Nat.not_lt] at hlen
  generalize hpayload : bytes.take (bytes.length - STORE_DIGEST_BYTES) = payload
  generalize bytes.drop (bytes.length - STORE_DIGEST_BYTES) = digest
  have hsize : 157 ≤ payload.length := by
    have := hlen.1
    rw [STORE_HEADER_BYTES] at this
    rw [← hpayload, List.length_take]
    omega
  obtain ⟨⟨magic, s₁⟩, hmagic, hmagic'⟩ := Agrees.exists_takeBytes (n := 8) (s := payload)
    RuntimeReleaseJournalError.corrupt (by omega)
  have h₁ := length_of_takeBytes hmagic
  dsimp only
  rw [hmagic]
  change Agrees (corruptIf _ >>= _) _
  dsimp only
  refine agrees_corruptIf (fun hbad a h => ?_) fun hisMagic => ?_
  · obtain ⟨⟨⟩, _, h⟩ := Codec.bind_eq_ok.mp h
    obtain ⟨_, h, -⟩ := Codec.bind_eq_ok.mp h
    obtain ⟨_, _, h, hrest⟩ := run_bind_eq_ok.mp h
    cases hmagic'.symm.trans h
    exact failIf_eq_ok.mp (run_test_eq_ok.mp hrest).choose_spec.1 hbad
  refine agrees_corruptIf (fun hbad a h => ?_) fun hdigest => ?_
  · exact failIf_eq_ok.mp (Codec.bind_eq_ok.mp h).choose_spec.1 hbad
  rw [failIf, if_neg hdigest]
  change Agrees _ ((StoreEntry.read slot).run payload >>= _)
  rw [StoreEntry.read, run_bind_of_ok hmagic', failIf, if_neg hisMagic, run_test_ok,
    StoreEntry.readIndexed]
  refine .run_bind_then (.takeBytes _ (by omega)) fun slotHash s₂ h₂ => .test_then fun _ _ => ?_
  have h₂ := length_of_takeBytes h₂
  refine .run_bind_then (.takeBytes _ (by omega)) fun audit s₃ h₃ => .test_then fun _ _ => ?_
  have h₃ := length_of_takeBytes h₃
  refine .run_bind_then (.takeBytes _ (by omega)) fun issuer s₄ h₄ => .test_then fun _ _ => ?_
  have h₄ := length_of_takeBytes h₄
  refine .run_bind_then (.takeBytes _ (by omega)) fun hash s₅ h₅ => .test_then fun _ _ => ?_
  have h₅ := length_of_takeBytes h₅
  refine .run_bind_then (.takeNat _ (by omega)) fun flag s₆ h₆ => .test_then fun _ _ => ?_
  have h₆ := length_of_takeNat h₆
  refine .run_bind_then (.takeNat _ (by omega)) fun wallet s₇ h₇ => ?_
  have h₇ := length_of_takeNat h₇
  refine .run_bind_then (.takeNat _ (by omega)) fun response s₈ h₈ => ?_
  have h₈ := length_of_takeNat h₈
  refine .run_bind_then (.takeNat _ (by omega)) fun operation s₉ h₉ => ?_
  have h₉ := length_of_takeNat h₉
  refine .run_bind_then (.takeNat _ (by omega)) fun terminal s₁₀ h₁₀ => ?_
  have h₁₀ := length_of_takeNat h₁₀
  refine .run_bind_then (.takeNat _ (by omega)) fun rights s₁₁ h₁₁ => .test_then fun _ _ => ?_
  have h₁₁ := length_of_takeNat h₁₁
  rw [run_test, bind_assoc]
  refine agrees_corruptIf (fun hlength a h => hlength ?_) fun hlength => ?_
  · obtain ⟨⟨entry, rest⟩, h, hrest⟩ := Codec.bind_eq_ok.mp h
    obtain ⟨⟨⟩, hrest, -⟩ := Codec.bind_eq_ok.mp hrest
    obtain rfl := not_not.mp (failIf_eq_ok.mp hrest)
    obtain ⟨_, _, h₁₂, h⟩ := run_bind_eq_ok.mp h
    obtain ⟨_, _, h₁₃, h⟩ := run_bind_eq_ok.mp h
    obtain ⟨_, _, h₁₄, h⟩ := run_bind_eq_ok.mp h
    obtain ⟨_, _, h₁₅, h⟩ := run_bind_eq_ok.mp h
    obtain ⟨_, _, h₁₆, ⟨⟩⟩ := run_bind_eq_ok.mp h
    have := length_of_take h₁₂
    have := length_of_take h₁₃
    have := length_of_take h₁₄
    have := length_of_take h₁₅
    have hlast := length_of_take h₁₆
    rw [List.length_nil] at hlast
    rw [STORE_HEADER_BYTES]
    omega
  have hlength : s₁₁.length = wallet + response + operation + terminal + rights := by
    rw [not_not, STORE_HEADER_BYTES] at hlength
    omega
  refine .run_bind_then (.take _ (by omega)) fun _ s₁₂ h₁₂ => ?_
  have h₁₂ := length_of_take h₁₂
  refine .run_bind_then (.take _ (by omega)) fun _ s₁₃ h₁₃ => ?_
  have h₁₃ := length_of_take h₁₃
  refine .run_bind_then (.take _ (by omega)) fun _ s₁₄ h₁₄ => ?_
  have h₁₄ := length_of_take h₁₄
  refine .run_bind_then (.take _ (by omega)) fun _ s₁₅ h₁₅ => ?_
  have h₁₅ := length_of_take h₁₅
  refine .run_bind_then (.take _ (by omega)) fun _ s₁₆ h₁₆ => ?_
  have h₁₆ := length_of_take h₁₆
  obtain rfl : s₁₆ = [] := List.eq_nil_of_length_eq_zero (by omega)
  exact .refl_refusing (.ok _)

/-- **The codec of the journal**, level by level: the entry of a record can be written and both are
read back; a file is accepted exactly for the entry it was written for; a record read from a file
spells its entry; terminal results and decisions decode exactly from what they encode to; and the
readers of the source index within their input and return the same. -/
theorem journal_codec :
    (∀ (v : PersistedRuntimeReleaseOperation) (entry : StoreEntry), v.toEntry = .ok entry →
      entry.Placed entry.slotHash ∧ (∃ bytes, encodeEntry entry = .ok bytes) ∧
        entry.intoPersisted = .ok v) ∧
    (∀ bytes slot entry, decodeEntryForSlot bytes slot = .ok entry ↔
      entry.Placed slot ∧ encodeEntry entry = .ok bytes) ∧
    (∀ bytes slot entry v, decodeEntryForSlot bytes slot = .ok entry → entry.intoPersisted = .ok v →
      v.toEntry = .ok entry) ∧
    (∀ bytes v, RuntimeReleaseTerminalResult.decode bytes = .ok v ↔ v.encode = .ok bytes) ∧
    (∀ bytes decisions, decodeReplayableRightsDecisions bytes = .ok decisions ↔
      encodeReplayableRightsDecisions decisions = .ok bytes) ∧
    (∀ bytes slot, Agrees (decodeEntryIndexed bytes slot) (decodeEntryForSlot bytes slot)) ∧
    (∀ bytes, Agrees (RuntimeReleaseTerminalResult.decodeIndexed bytes)
      (RuntimeReleaseTerminalResult.decode bytes)) ∧
    ∀ bytes, Agrees (decodeReplayableRightsDecisionsIndexed bytes)
      (decodeReplayableRightsDecisions bytes) := by
  refine ⟨fun v entry h => ⟨⟨rfl, v.toEntry_slotHash h, v.toEntry_terminalBytes h⟩,
      encodeEntry_isOk (v.toEntry_bounded h), v.intoPersisted_toEntry h⟩,
    fun bytes slot entry => ⟨encodeEntry_of_decode, fun ⟨hplaced, h⟩ => ?_⟩,
    fun bytes slot entry v h hv => v.toEntry_of_intoPersisted (encodeEntry_of_decode h).1 hv,
    fun bytes v => ⟨v.encode_of_decode, v.decode_encode⟩,
    fun bytes decisions => ⟨encode_of_decodeReplayableRightsDecisions,
      decode_encodeReplayableRightsDecisions⟩,
    agrees_decodeEntry, RuntimeReleaseTerminalResult.agrees_decode,
    agrees_decodeReplayableRightsDecisions⟩
  obtain rfl := hplaced.slotHash
  exact decodeEntryForSlot_encodeEntry h hplaced.operationHash hplaced.terminalBytes

end ElastosRuntime.ReleaseJournal
