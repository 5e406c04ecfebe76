/-
# The records of the release journal

The Runtime keeps one file per release operation (`journal.rs`): the operation as it was drafted,
whether a provider has been called for it, the rights decisions that can be replayed, and how it
ended.  A file is a header of fixed length, five byte strings whose lengths the header holds, and a
digest of everything before it.

`StoreEntry` is what a file spells and `PersistedRuntimeReleaseOperation` what its byte strings
spell in turn.  Both levels survive being written and read back (`decodeEntryForSlot_encodeEntry`,
`intoPersisted_toEntry`), which lets the operations of the journal be stated about records instead
of bytes.
-/
import ElastosRuntime.Contracts.Verification

namespace ElastosRuntime.ReleaseJournal

open Codec Contracts

inductive RuntimeReleaseJournalError where
  | unavailable
  | corrupt
  | conflict
  | capacityExceeded
  | invalidTerminal
  | notTerminal
  | notFound
deriving DecidableEq, Repr

def STORE_MAGIC : List UInt8 := utf8Bytes "epc-ro02"
def STORE_DIGEST_DOMAIN : List UInt8 :=
  utf8Bytes "elastos/protected-content/runtime-release-journal/v2"
def SLOT_DIGEST_DOMAIN : List UInt8 :=
  utf8Bytes "elastos/protected-content/runtime-release-journal/slot/v1"
def STORE_DIGEST_BYTES : Nat := 32
def STORE_HEADER_BYTES : Nat := 8 + 32 + 32 + 32 + 32 + 1 + 4 + 4 + 4 + 4 + 4
def MAX_WALLET_REQUEST_BYTES : Nat := 64 * 1024
def MAX_WALLET_RESPONSE_BYTES : Nat := 64 * 1024
def MAX_SIGNED_OPERATION_BYTES : Nat := 256 * 1024
def MAX_TERMINAL_BYTES : Nat := 256 * 1024
def MAX_REPLAYABLE_RIGHTS_BYTES : Nat := 256 * 1024
def MAX_STORE_FILE_BYTES : Nat :=
  STORE_HEADER_BYTES + MAX_WALLET_REQUEST_BYTES + MAX_WALLET_RESPONSE_BYTES +
    MAX_SIGNED_OPERATION_BYTES + MAX_TERMINAL_BYTES + MAX_REPLAYABLE_RIGHTS_BYTES +
      STORE_DIGEST_BYTES
def MAX_RUNTIME_RELEASE_RECORDS : Nat := 4096

/-! ## 1. Blobs -/

/-- `From<ContractError>`: whatever the contract reports, the record is corrupt. -/
def orCorrupt {α : Type} (x : Except ContractError α) : Except RuntimeReleaseJournalError α :=
  x.mapError fun _ => .corrupt

@[simp] theorem orCorrupt_eq_ok {α : Type} {x : Except ContractError α} {a : α} :
    orCorrupt x = .ok a ↔ x = .ok a := mapError_eq_ok

abbrev Writer := ByteWriter RuntimeReleaseJournalError

abbrev Reader := ByteReader RuntimeReleaseJournalError

def pushBlob (bytes : List UInt8) : Writer Unit := do
  failIf (bytes = [] ∨ 4294967295 < bytes.length) RuntimeReleaseJournalError.invalidTerminal
  put (beBytes 4 bytes.length)
  put bytes

def takeBlob : Reader (List UInt8) := do
  let len ← takeNat .corrupt 4
  failIf (len = 0) RuntimeReleaseJournalError.corrupt
  take .corrupt len

theorem mirrors_blob (bytes : List UInt8) : Mirrors (pushBlob bytes) takeBlob bytes := by
  refine .given fun _ hfit => ?_
  obtain ⟨hne, hlen⟩ := not_or.mp (failIf_eq_ok.mp hfit)
  have hpos : ¬bytes.length = 0 := fun h => hne (List.eq_nil_of_length_eq_zero h)
  exact (Mirrors.takeNat _ (by omega)).bind (.skip (b := ()) (failIf_eq_ok.mpr hpos) (.take _ bytes))

section

variable {α : Type} [CanonicalBody α]

/-- A document as a blob that holds its canonical form. -/
def pushDocument (value : α) : Writer Unit := do
  let bytes ← orCorrupt (canonicalBytes value)
  pushBlob bytes

def takeDocument : Reader α := do
  let bytes ← takeBlob
  orCorrupt (fromCanonicalBytes bytes)

theorem mirrors_document [LawfulBody α] (value : α) :
    Mirrors (pushDocument value) takeDocument value := by
  refine .given fun bytes hbytes => (mirrors_blob bytes).last ?_
  exact orCorrupt_eq_ok.mpr (fromCanonicalBytes_of_canonicalBytes (orCorrupt_eq_ok.mp hbytes))

/-- A document of moderate length can be written ... -/
theorem run_pushDocument [LawfulBody α] {value : α} {n : Nat} (h : EncodesWithin value n)
    (hn : n ≤ 65535) (out : List UInt8) :
    ∃ bytes, (pushDocument value).run out = .ok ((), out ++ bytes) ∧ bytes.length ≤ n + 4 := by
  obtain ⟨_, hle, bytes, hbytes, rfl⟩ := h
  have hfit : failIf (bytes = [] ∨ 4294967295 < bytes.length)
      RuntimeReleaseJournalError.invalidTerminal = .ok () :=
    failIf_eq_ok.mpr (not_or.mpr ⟨ne_nil_of_canonicalBytes hbytes, by omega⟩)
  refine ⟨beBytes 4 bytes.length ++ bytes, ?_, ?_⟩
  · rw [pushDocument, hbytes, ← List.append_assoc]
    change (pushBlob bytes : Writer Unit).run out = _
    rw [pushBlob, hfit]
    rfl
  · rw [List.length_append, beBytes_length]
    omega

/-- ... and so can a list of them. -/
theorem run_pushDocuments [LawfulBody α] {n : Nat} (hn : n ≤ 65535) : ∀ {values : List α},
    (∀ value ∈ values, EncodesWithin value n) → ∀ out : List UInt8, ∃ bytes,
      (values.forM pushDocument).run out = .ok ((), out ++ bytes) ∧
        bytes.length ≤ values.length * (n + 4) := by
  intro values
  induction values with
  | nil => exact fun _ out => ⟨[], by rw [List.append_nil]; rfl, Nat.zero_le _⟩
  | cons value values ih =>
    intro h out
    obtain ⟨first, hfirst, hlen⟩ := run_pushDocument (h value List.mem_cons_self) hn out
    obtain ⟨rest, hrest, hlen'⟩ :=
      ih (fun v hv => h v (List.mem_cons_of_mem _ hv)) (out ++ first)
    refine ⟨first ++ rest, ?_, ?_⟩
    · rw [← List.append_assoc]
      exact run_bind_eq_ok.mpr ⟨(), _, hfirst, hrest⟩
    · rw [List.length_append, List.length_cons, Nat.succ_mul]
      omega

end

variable [Curves]

/-! ## 2. How an operation ended -/

inductive RuntimeReleaseTerminalResult where
  | rightsDenied (signedNodeRightsDecision : SignedNodeRightsDecisionV1)
  | contributionsReady (signedNodeContributions : List SignedNodeContributionV1)
deriving DecidableEq

namespace RuntimeReleaseTerminalResult

def write : RuntimeReleaseTerminalResult → Writer Unit
  | rightsDenied signedNodeRightsDecision => do
    put (beBytes 1 1)
    pushDocument signedNodeRightsDecision
  | contributionsReady signedNodeContributions => do
    failIf (signedNodeContributions = []) RuntimeReleaseJournalError.invalidTerminal
    put (beBytes 1 2)
    failIf (65535 < signedNodeContributions.length) RuntimeReleaseJournalError.invalidTerminal
    put (beBytes 2 signedNodeContributions.length)
    signedNodeContributions.forM pushDocument

def read : Reader RuntimeReleaseTerminalResult := do
  let tag ← takeNat .corrupt 1
  match tag with
  | 1 => do
    let signedNodeRightsDecision ← takeDocument
    pure (rightsDenied signedNodeRightsDecision)
  | 2 => do
    let count ← takeNat .corrupt 2
    failIf (count = 0) RuntimeReleaseJournalError.corrupt
    let signedNodeContributions ← many takeDocument count
    pure (contributionsReady signedNodeContributions)
  | _ => liftM (Except.error .corrupt : Except RuntimeReleaseJournalError _)

def encode (v : RuntimeReleaseTerminalResult) :
    Except RuntimeReleaseJournalError (List UInt8) := do
  let ((), bytes) ← v.write.run []
  failIf (MAX_TERMINAL_BYTES < bytes.length) RuntimeReleaseJournalError.invalidTerminal
  pure bytes

def decode (bytes : List UInt8) :
    Except RuntimeReleaseJournalError RuntimeReleaseTerminalResult := do
  failIf (bytes = [] ∨ MAX_TERMINAL_BYTES < bytes.length) RuntimeReleaseJournalError.corrupt
  let (value, rest) ← read.run bytes
  failIf (rest ≠ []) RuntimeReleaseJournalError.corrupt
  pure value

theorem mirrors (v : RuntimeReleaseTerminalResult) : Mirrors v.write read v := by
  cases v with
  | rightsDenied decision =>
    exact (Mirrors.takeNat _ (by decide)).bind ((mirrors_document decision).map rightsDenied)
  | contributionsReady contributions =>
    refine .given fun _ hne => (Mirrors.takeNat _ (by decide)).bind (.given fun _ hlen => ?_)
    have hpos : ¬contributions.length = 0 := fun h =>
      failIf_eq_ok.mp hne (List.eq_nil_of_length_eq_zero h)
    have hfit : contributions.length < 256 ^ 2 :=
      Nat.lt_succ_of_le (Nat.le_of_not_lt (failIf_eq_ok.mp hlen))
    exact (Mirrors.takeNat _ hfit).bind <| .skip (b := ()) (failIf_eq_ok.mpr hpos) <|
      (Mirrors.forM fun c _ => mirrors_document c).map contributionsReady

variable {v : RuntimeReleaseTerminalResult} {bytes : List UInt8}

theorem encode_eq_ok :
    v.encode = .ok bytes ↔ v.write.run [] = .ok ((), bytes) ∧ bytes.length ≤ MAX_TERMINAL_BYTES := by
  simp only [encode, bind_eq_ok, failIf_eq_ok, exists_unit, pure_eq_ok, Prod.exists, Nat.not_lt]
  constructor
  · rintro ⟨_, h, hlen, rfl⟩
    exact ⟨h, hlen⟩
  · rintro ⟨h, hlen⟩
    exact ⟨_, h, hlen, rfl⟩

/-- Contributions of reasonable size encode. -/
theorem encode_contributions {contributions : List SignedNodeContributionV1} {n : Nat}
    (hne : contributions ≠ []) (h : ∀ c ∈ contributions, EncodesWithin c n) (hn : n ≤ 65535)
    (hlen : contributions.length * (n + 4) + 3 ≤ MAX_TERMINAL_BYTES) :
    ∃ bytes, (contributionsReady contributions).encode = .ok bytes := by
  obtain ⟨bytes, hwrite, hbytes⟩ :=
    run_pushDocuments hn h (beBytes 1 2 ++ beBytes 2 contributions.length)
  have hfew : ¬65535 < contributions.length := by
    have hle : contributions.length * 4 ≤ contributions.length * (n + 4) :=
      Nat.mul_le_mul_left _ (by omega)
    rw [MAX_TERMINAL_BYTES] at hlen
    omega
  refine ⟨beBytes 1 2 ++ beBytes 2 contributions.length ++ bytes, encode_eq_ok.mpr ⟨?_, ?_⟩⟩
  · refine run_bind_eq_ok.mpr ⟨(), [], ?_, ?_⟩
    · rw [failIf_eq_ok.mpr hne]
      rfl
    refine run_bind_eq_ok.mpr ⟨(), beBytes 1 2, rfl, run_bind_eq_ok.mpr ⟨(), beBytes 1 2, ?_, ?_⟩⟩
    · rw [failIf_eq_ok.mpr hfew]
      rfl
    exact run_bind_eq_ok.mpr ⟨(), _, rfl, hwrite⟩
  · rw [List.length_append, List.length_append, beBytes_length, beBytes_length]
    omega

/-- The first byte of an encoding is its tag. -/
theorem encode_ne_nil (h : v.encode = .ok bytes) : bytes ≠ [] := by
  rintro rfl
  obtain ⟨bs, hbs, hread⟩ := v.mirrors _ _ (encode_eq_ok.mp h).1
  obtain rfl : bs = [] := hbs.symm
  exact nomatch hread []

/-- **A terminal result survives.** -/
theorem decode_encode (h : v.encode = .ok bytes) : decode bytes = .ok v := by
  obtain ⟨hwrite, hlen⟩ := encode_eq_ok.mp h
  obtain ⟨bs, hbs, hread⟩ := v.mirrors _ _ hwrite
  obtain rfl : bytes = bs := hbs
  have hread := hread []
  rw [List.append_nil] at hread
  refine bind_eq_ok.mpr ⟨(), failIf_eq_ok.mpr ?_, bind_eq_ok.mpr ⟨_, hread, ?_⟩⟩
  · exact not_or.mpr ⟨encode_ne_nil h, Nat.not_lt.mpr hlen⟩
  · exact bind_eq_ok.mpr ⟨(), failIf_eq_ok.mpr (not_not.mpr rfl), rfl⟩

end RuntimeReleaseTerminalResult

/-! ## 3. The rights decisions that can be replayed -/

def encodeReplayableRightsDecisions (decisions : List SignedNodeRightsDecisionV1) :
    Except RuntimeReleaseJournalError (List UInt8) :=
  if decisions = [] then
    pure []
  else do
    failIf (65535 < decisions.length) RuntimeReleaseJournalError.unavailable
    let ((), bytes) ← (decisions.forM pushDocument : Writer Unit).run (beBytes 2 decisions.length)
    failIf (MAX_REPLAYABLE_RIGHTS_BYTES < bytes.length) RuntimeReleaseJournalError.unavailable
    pure bytes

def decodeReplayableRightsDecisions (bytes : List UInt8) :
    Except RuntimeReleaseJournalError (List SignedNodeRightsDecisionV1) :=
  if bytes = [] then
    pure []
  else do
    failIf (bytes.length < 2 ∨ MAX_REPLAYABLE_RIGHTS_BYTES < bytes.length)
      RuntimeReleaseJournalError.corrupt
    let (count, bytes) ← (takeNat .corrupt 2 : Reader Nat).run bytes
    failIf (count = 0) RuntimeReleaseJournalError.corrupt
    let (decisions, rest) ← (many takeDocument count : Reader _).run bytes
    failIf (rest ≠ []) RuntimeReleaseJournalError.corrupt
    pure decisions

variable {decisions : List SignedNodeRightsDecisionV1} {bytes : List UInt8}

/-- **The decisions survive.** -/
theorem decode_encodeReplayableRightsDecisions
    (h : encodeReplayableRightsDecisions decisions = .ok bytes) :
    decodeReplayableRightsDecisions bytes = .ok decisions := by
  unfold encodeReplayableRightsDecisions at h
  split at h
  · next hnil =>
    cases h
    rw [hnil]
    rfl
  · next hne =>
    obtain ⟨⟨⟩, hcount, h⟩ := bind_eq_ok.mp h
    obtain ⟨⟨⟨⟩, out⟩, hwrite, h⟩ := bind_eq_ok.mp h
    obtain ⟨⟨⟩, hmax, h⟩ := bind_eq_ok.mp h
    cases h
    rw [failIf_eq_ok, Nat.not_lt] at hcount hmax
    have hloop : Mirrors (decisions.forM pushDocument) (many takeDocument decisions.length)
        decisions := .forM fun d _ => mirrors_document d
    obtain ⟨bs, rfl, hread⟩ := hloop _ _ hwrite
    have hread := hread []
    rw [List.append_nil] at hread
    have hnat : (takeNat .corrupt 2 : Reader Nat).run (beBytes 2 decisions.length ++ bs) =
        .ok (decisions.length, bs) := by
      obtain ⟨_, hput, hrun⟩ := Mirrors.takeNat RuntimeReleaseJournalError.corrupt
        (show decisions.length < 256 ^ 2 by omega) [] _ rfl
      cases hput
      exact hrun bs
    rw [List.length_append, beBytes_length] at hmax
    have hlen : (beBytes 2 decisions.length ++ bs).length = 2 + bs.length := by
      rw [List.length_append, beBytes_length]
    have hpos : ¬decisions.length = 0 := fun h0 => hne (List.eq_nil_of_length_eq_zero h0)
    have hbytes : beBytes 2 decisions.length ++ bs ≠ [] := by
      intro h0
      rw [h0, List.length_nil] at hlen
      omega
    rw [decodeReplayableRightsDecisions, if_neg hbytes]
    refine bind_eq_ok.mpr ⟨(), failIf_eq_ok.mpr (by omega), bind_eq_ok.mpr ⟨_, hnat, ?_⟩⟩
    refine bind_eq_ok.mpr ⟨(), failIf_eq_ok.mpr hpos, bind_eq_ok.mpr ⟨_, hread, ?_⟩⟩
    exact bind_eq_ok.mpr ⟨(), failIf_eq_ok.mpr (not_not.mpr rfl), rfl⟩

theorem encodeReplayableRightsDecisions_length
    (h : encodeReplayableRightsDecisions decisions = .ok bytes) :
    bytes.length ≤ MAX_REPLAYABLE_RIGHTS_BYTES := by
  unfold encodeReplayableRightsDecisions at h
  split at h
  · cases h
    exact Nat.zero_le _
  · obtain ⟨_, _, h⟩ := bind_eq_ok.mp h
    obtain ⟨⟨⟨⟩, out⟩, _, h⟩ := bind_eq_ok.mp h
    obtain ⟨⟨⟩, hmax, h⟩ := bind_eq_ok.mp h
    cases h
    exact Nat.le_of_not_lt (failIf_eq_ok.mp hmax)

/-- One decision of reasonable size encodes. -/
theorem encodeReplayableRightsDecisions_single {decision : SignedNodeRightsDecisionV1} {n : Nat}
    (h : EncodesWithin decision n) (hn : n ≤ 65535) :
    ∃ bytes, encodeReplayableRightsDecisions [decision] = .ok bytes := by
  obtain ⟨bytes, hwrite, hlen⟩ := run_pushDocuments hn
    (fun d hd => List.mem_singleton.mp hd ▸ h : ∀ d ∈ [decision], EncodesWithin d n) (beBytes 2 1)
  rw [encodeReplayableRightsDecisions, if_neg (List.cons_ne_nil _ _)]
  refine ⟨_, bind_eq_ok.mpr ⟨(), failIf_eq_ok.mpr (show ¬65535 < 1 by decide), bind_eq_ok.mpr
    ⟨_, hwrite, bind_eq_ok.mpr ⟨(), failIf_eq_ok.mpr ?_, rfl⟩⟩⟩⟩
  rw [List.length_singleton] at hlen
  rw [List.length_append, beBytes_length, MAX_REPLAYABLE_RIGHTS_BYTES]
  omega

/-- No bytes are no decisions, and the other way round. -/
theorem encodeReplayableRightsDecisions_nil_iff
    (h : encodeReplayableRightsDecisions decisions = .ok bytes) : bytes = [] ↔ decisions = [] := by
  constructor
  · rintro rfl
    have hnil := decode_encodeReplayableRightsDecisions h
    exact (Except.ok.inj hnil).symm
  · rintro rfl
    exact (Except.ok.inj h).symm

/-- `merge_replayable_rights_decisions`, before it sorts: a decision of a node already there must
be the one there. -/
def mergeInto (merged : List SignedNodeRightsDecisionV1) :
    List SignedNodeRightsDecisionV1 →
      Except RuntimeReleaseJournalError (List SignedNodeRightsDecisionV1)
  | [] => pure merged
  | decision :: additional =>
    match merged.find? fun d => d.statement.nodePublicKey = decision.statement.nodePublicKey with
    | some existing =>
      if existing ≠ decision then
        .error .conflict
      else
        mergeInto merged additional
    | none => mergeInto (merged ++ [decision]) additional

def mergeReplayableRightsDecisions (existing additional : List SignedNodeRightsDecisionV1) :
    Except RuntimeReleaseJournalError (List SignedNodeRightsDecisionV1) := do
  let merged ← mergeInto existing additional
  pure (sortByKey (·.statement.nodePublicKey.order) merged)

/-! ## 4. The operation as it was drafted -/

/-- A signed operation and the wallet exchange it rests on.  The audit id and the issuer are the
ones of its statement. -/
structure RuntimeReleaseOperationDraft where
  signedRuntimeReleaseOperation : SignedRuntimeReleaseOperationV1
  walletRequestBytes : List UInt8
  walletResponseBytes : List UInt8
  walletBounds : ¬(walletRequestBytes = [] ∨ MAX_WALLET_REQUEST_BYTES < walletRequestBytes.length ∨
    walletResponseBytes = [] ∨ MAX_WALLET_RESPONSE_BYTES < walletResponseBytes.length)

namespace RuntimeReleaseOperationDraft

def new (walletRequestBytes walletResponseBytes : List UInt8)
    (signedRuntimeReleaseOperation : SignedRuntimeReleaseOperationV1) :
    Except RuntimeReleaseJournalError RuntimeReleaseOperationDraft :=
  if h : walletRequestBytes = [] ∨ MAX_WALLET_REQUEST_BYTES < walletRequestBytes.length ∨
      walletResponseBytes = [] ∨ MAX_WALLET_RESPONSE_BYTES < walletResponseBytes.length then
    .error .corrupt
  else
    .ok ⟨signedRuntimeReleaseOperation, walletRequestBytes, walletResponseBytes, h⟩

theorem new_self (v : RuntimeReleaseOperationDraft) :
    new v.walletRequestBytes v.walletResponseBytes v.signedRuntimeReleaseOperation = .ok v :=
  dif_neg v.walletBounds

def auditRequestId (v : RuntimeReleaseOperationDraft) : RuntimeReleaseAuditIdV1 :=
  v.signedRuntimeReleaseOperation.statement.auditRequestId

def runtimeOperationIssuer (v : RuntimeReleaseOperationDraft) : RuntimeOperationIssuerKeyV1 :=
  v.signedRuntimeReleaseOperation.statement.runtimeOperationIssuer

variable [Crypto]

def operationHash (v : RuntimeReleaseOperationDraft) :
    Except RuntimeReleaseJournalError Digest32 :=
  orCorrupt (canonicalHash v.signedRuntimeReleaseOperation)

def signedOperationBytes (v : RuntimeReleaseOperationDraft) :
    Except RuntimeReleaseJournalError (List UInt8) := do
  let bytes ← orCorrupt (canonicalBytes v.signedRuntimeReleaseOperation)
  failIf (bytes = [] ∨ MAX_SIGNED_OPERATION_BYTES < bytes.length)
    RuntimeReleaseJournalError.corrupt
  pure bytes

/-- An operation that encodes at all is within the limit of the journal. -/
theorem signedOperationBytes_eq_ok {v : RuntimeReleaseOperationDraft} {bytes : List UInt8} :
    v.signedOperationBytes = .ok bytes ↔
      canonicalBytes v.signedRuntimeReleaseOperation = .ok bytes := by
  simp only [signedOperationBytes, bind_eq_ok, orCorrupt_eq_ok, failIf_eq_ok, exists_unit,
    pure_eq_ok]
  constructor
  · rintro ⟨_, h, _, rfl⟩
    exact h
  · intro h
    obtain ⟨n, hn, bytes', hbytes, rfl⟩ :=
      SignedRuntimeReleaseOperationV1.encodes (canonicalBytes_eq_ok.mp h).1
    obtain rfl : bytes = bytes' := Except.ok.inj (h.symm.trans hbytes)
    refine ⟨bytes, h, not_or.mpr ⟨ne_nil_of_canonicalBytes h, ?_⟩, rfl⟩
    rw [MAX_SIGNED_OPERATION_BYTES]
    omega

end RuntimeReleaseOperationDraft

/-! ## 5. A file of the journal -/

structure StoreEntry where
  slotHash : Digest32
  auditRequestId : RuntimeReleaseAuditIdV1
  runtimeOperationIssuer : RuntimeOperationIssuerKeyV1
  operationHash : Digest32
  walletRequestBytes : List UInt8
  walletResponseBytes : List UInt8
  signedOperationBytes : List UInt8
  terminalBytes : Option (List UInt8)
  replayableRightsBytes : List UInt8
  effectStarted : Bool
deriving DecidableEq

namespace StoreEntry

/-- The limits on the five lengths. -/
structure Bounds (wallet walletResponse operation terminal replayableRights : Nat) : Prop where
  wallet : wallet ≠ 0 ∧ wallet ≤ MAX_WALLET_REQUEST_BYTES
  walletResponse : walletResponse ≠ 0 ∧ walletResponse ≤ MAX_WALLET_RESPONSE_BYTES
  operation : operation ≠ 0 ∧ operation ≤ MAX_SIGNED_OPERATION_BYTES
  terminal : terminal ≤ MAX_TERMINAL_BYTES
  replayableRights : replayableRights ≤ MAX_REPLAYABLE_RIGHTS_BYTES

instance (w r o t p : Nat) : Decidable (Bounds w r o t p) :=
  decidable_of_iff
    ((w ≠ 0 ∧ w ≤ MAX_WALLET_REQUEST_BYTES) ∧ (r ≠ 0 ∧ r ≤ MAX_WALLET_RESPONSE_BYTES) ∧
      (o ≠ 0 ∧ o ≤ MAX_SIGNED_OPERATION_BYTES) ∧ t ≤ MAX_TERMINAL_BYTES ∧
        p ≤ MAX_REPLAYABLE_RIGHTS_BYTES)
    ⟨fun h => ⟨h.1, h.2.1, h.2.2.1, h.2.2.2.1, h.2.2.2.2⟩, fun h => ⟨h.1, h.2, h.3, h.4, h.5⟩⟩

/-- The lengths of an entry's five byte strings are within the limits. -/
def Bounded (entry : StoreEntry) : Prop :=
  Bounds entry.walletRequestBytes.length entry.walletResponseBytes.length
    entry.signedOperationBytes.length (entry.terminalBytes.getD []).length
    entry.replayableRightsBytes.length

instance (entry : StoreEntry) : Decidable entry.Bounded :=
  inferInstanceAs (Decidable (Bounds _ _ _ _ _))

/-- What a file holds before its digest. -/
def write (entry : StoreEntry) : Writer Unit := do
  put STORE_MAGIC
  put entry.slotHash.toList
  put entry.auditRequestId.value.toList
  put entry.runtimeOperationIssuer.value.toList
  put entry.operationHash.toList
  put (beBytes 1 entry.effectStarted.toNat)
  put (beBytes 4 entry.walletRequestBytes.length)
  put (beBytes 4 entry.walletResponseBytes.length)
  put (beBytes 4 entry.signedOperationBytes.length)
  put (beBytes 4 (entry.terminalBytes.getD []).length)
  put (beBytes 4 entry.replayableRightsBytes.length)
  put entry.walletRequestBytes
  put entry.walletResponseBytes
  put entry.signedOperationBytes
  put (entry.terminalBytes.getD [])
  put entry.replayableRightsBytes

def startedOfByte : Nat → Except RuntimeReleaseJournalError Bool
  | 0 => .ok false
  | 1 => .ok true
  | _ => .error .corrupt

end StoreEntry

variable [Crypto]

def slotHashFor (operationHash : Digest32) : Digest32 :=
  Crypto.sha256 (SLOT_DIGEST_DOMAIN ++ operationHash.toList)

def storeIntegrityDigest (payload : List UInt8) : Digest32 :=
  Crypto.sha256 (STORE_DIGEST_DOMAIN ++ payload)

/-- The bounds are checked before the lengths are narrowed to four bytes, so narrowing cannot
fail. -/
def encodeEntry (entry : StoreEntry) : Except RuntimeReleaseJournalError (List UInt8) := do
  failIf (¬entry.Bounded) RuntimeReleaseJournalError.unavailable
  let ((), payload) ← entry.write.run []
  failIf (MAX_STORE_FILE_BYTES < payload.length + STORE_DIGEST_BYTES)
    RuntimeReleaseJournalError.unavailable
  pure (payload ++ (storeIntegrityDigest payload).toList)

namespace StoreEntry

def read (expectedSlotHash : Digest32) : Reader StoreEntry := do
  let magic ← takeBytes .corrupt 8
  failIf (magic.toList ≠ STORE_MAGIC) RuntimeReleaseJournalError.corrupt
  let slotHash ← takeBytes .corrupt 32
  failIf (slotHash ≠ expectedSlotHash) RuntimeReleaseJournalError.corrupt
  let auditRequestId ← orCorrupt (RuntimeReleaseAuditIdV1.new (← takeBytes .corrupt 32))
  let runtimeOperationIssuer ←
    orCorrupt (RuntimeOperationIssuerKeyV1.new (← takeBytes .corrupt 32))
  let operationHash ← takeBytes .corrupt 32
  failIf (slotHashFor operationHash ≠ expectedSlotHash) RuntimeReleaseJournalError.corrupt
  let effectStarted ← startedOfByte (← takeNat .corrupt 1)
  let walletLen ← takeNat .corrupt 4
  let walletResponseLen ← takeNat .corrupt 4
  let operationLen ← takeNat .corrupt 4
  let terminalLen ← takeNat .corrupt 4
  let replayableRightsLen ← takeNat .corrupt 4
  failIf (¬Bounds walletLen walletResponseLen operationLen terminalLen replayableRightsLen)
    RuntimeReleaseJournalError.corrupt
  let walletRequestBytes ← take .corrupt walletLen
  let walletResponseBytes ← take .corrupt walletResponseLen
  let signedOperationBytes ← take .corrupt operationLen
  let terminal ← take .corrupt terminalLen
  let replayableRightsBytes ← take .corrupt replayableRightsLen
  pure
    { slotHash, auditRequestId, runtimeOperationIssuer, operationHash, walletRequestBytes,
      walletResponseBytes, signedOperationBytes,
      terminalBytes := if 0 < terminalLen then some terminal else none, replayableRightsBytes,
      effectStarted }

theorem mirrors {entry : StoreEntry} (hb : entry.Bounded)
    (hslot : slotHashFor entry.operationHash = entry.slotHash)
    (hterminal : entry.terminalBytes ≠ some []) :
    Mirrors entry.write (read entry.slotHash) entry := by
  obtain ⟨⟨_, hwallet⟩, ⟨_, hresponse⟩, ⟨_, hoperation⟩, hterm, hrights⟩ := id hb
  simp only [MAX_WALLET_REQUEST_BYTES, MAX_WALLET_RESPONSE_BYTES, MAX_SIGNED_OPERATION_BYTES,
    MAX_TERMINAL_BYTES, MAX_REPLAYABLE_RIGHTS_BYTES] at hwallet hresponse hoperation hterm hrights
  have hmagic : Mirrors (put STORE_MAGIC) (takeBytes RuntimeReleaseJournalError.corrupt 8)
      (⟨STORE_MAGIC, by decide⟩ : Bytes 8) := .takeBytes _ ⟨STORE_MAGIC, _⟩
  have hflag : startedOfByte entry.effectStarted.toNat = .ok entry.effectStarted := by
    cases entry.effectStarted <;> rfl
  have hflagByte : entry.effectStarted.toNat < 256 ^ 1 := by
    cases entry.effectStarted <;> decide
  have hsome : (if 0 < (entry.terminalBytes.getD []).length then some (entry.terminalBytes.getD [])
      else none) = entry.terminalBytes := by
    cases h : entry.terminalBytes with
    | none => rfl
    | some bytes =>
      have hpos : 0 < bytes.length := List.length_pos_iff.mpr fun h0 => hterminal (h0 ▸ h)
      exact if_pos hpos
  have hlast := (Mirrors.take RuntimeReleaseJournalError.corrupt entry.replayableRightsBytes).map
    fun rights => { entry with
      terminalBytes := if 0 < (entry.terminalBytes.getD []).length then
        some (entry.terminalBytes.getD []) else none
      replayableRightsBytes := rights }
  rw [hsome] at hlast
  unfold read
  refine hmagic.bind <| .skip (b := ()) (failIf_eq_ok.mpr (not_not.mpr rfl)) <|
    (Mirrors.takeBytes _ _).bind <| .skip (b := ()) (failIf_eq_ok.mpr (not_not.mpr rfl)) <|
    (Mirrors.takeBytes _ _).check (orCorrupt_eq_ok.mpr entry.auditRequestId.new_value) <|
    (Mirrors.takeBytes _ _).check (orCorrupt_eq_ok.mpr entry.runtimeOperationIssuer.new_value) <|
    (Mirrors.takeBytes _ _).bind <| .skip (b := ()) (failIf_eq_ok.mpr (not_not.mpr hslot)) <|
    (Mirrors.takeNat _ hflagByte).check hflag <| (Mirrors.takeNat _ (by omega)).bind <|
    (Mirrors.takeNat _ (by omega)).bind <| (Mirrors.takeNat _ (by omega)).bind <|
    (Mirrors.takeNat _ (by omega)).bind <| (Mirrors.takeNat _ (by omega)).bind <|
    .skip (b := ()) (failIf_eq_ok.mpr (not_not.mpr hb)) <| (Mirrors.take _ _).bind <|
    (Mirrors.take _ _).bind <| (Mirrors.take _ _).bind <| (Mirrors.take _ _).bind ?_
  rw [hsome]
  exact hlast

omit [Crypto] in
/-- The fields of an entry are as long as its header says. -/
theorem run_write (entry : StoreEntry) :
    ∃ payload, entry.write.run [] = .ok ((), payload) ∧
      payload.length = STORE_HEADER_BYTES + entry.walletRequestBytes.length +
        entry.walletResponseBytes.length + entry.signedOperationBytes.length +
          (entry.terminalBytes.getD []).length + entry.replayableRightsBytes.length := by
  have hwrite : Emits entry.write _ :=
    (Emits.put STORE_MAGIC).bind <| (Emits.put _).bind <| (Emits.put _).bind <|
    (Emits.put _).bind <| (Emits.put _).bind <| (Emits.put _).bind <| (Emits.put _).bind <|
    (Emits.put _).bind <| (Emits.put _).bind <| (Emits.put _).bind <| (Emits.put _).bind <|
    (Emits.put _).bind <| (Emits.put _).bind <| (Emits.put _).bind <| (Emits.put _).bind
      (Emits.put _)
  obtain ⟨payload, hrun, hlen⟩ := hwrite []
  refine ⟨payload, hrun, ?_⟩
  have hmagic : STORE_MAGIC.length = 8 := by decide
  simp only [Bytes.length_toList, beBytes_length, hmagic] at hlen
  rw [hlen, STORE_HEADER_BYTES]
  omega

end StoreEntry

def decodeEntryForSlot (bytes : List UInt8) (expectedSlotHash : Digest32) :
    Except RuntimeReleaseJournalError StoreEntry := do
  failIf (bytes.length < STORE_HEADER_BYTES + STORE_DIGEST_BYTES ∨
    MAX_STORE_FILE_BYTES < bytes.length) RuntimeReleaseJournalError.corrupt
  let payload := bytes.take (bytes.length - STORE_DIGEST_BYTES)
  let digest := bytes.drop (bytes.length - STORE_DIGEST_BYTES)
  failIf ((storeIntegrityDigest payload).toList ≠ digest) RuntimeReleaseJournalError.corrupt
  let (entry, rest) ← (StoreEntry.read expectedSlotHash).run payload
  failIf (rest ≠ []) RuntimeReleaseJournalError.corrupt
  pure entry

variable {entry : StoreEntry}

/-- An entry within the limits encodes. -/
theorem encodeEntry_isOk (h : entry.Bounded) : ∃ bytes, encodeEntry entry = .ok bytes := by
  obtain ⟨payload, hrun, hlen⟩ := entry.run_write
  obtain ⟨⟨_, hwallet⟩, ⟨_, hresponse⟩, ⟨_, hoperation⟩, hterminal, hrights⟩ := id h
  refine ⟨payload ++ (storeIntegrityDigest payload).toList, bind_eq_ok.mpr
    ⟨(), failIf_eq_ok.mpr (not_not.mpr h), bind_eq_ok.mpr ⟨_, hrun, ?_⟩⟩⟩
  refine bind_eq_ok.mpr ⟨(), failIf_eq_ok.mpr ?_, rfl⟩
  rw [Nat.not_lt, MAX_STORE_FILE_BYTES]
  omega

theorem encodeEntry_eq_ok (h : encodeEntry entry = .ok bytes) : entry.Bounded ∧
      ∃ payload, entry.write.run [] = .ok ((), payload) ∧
        payload.length + STORE_DIGEST_BYTES ≤ MAX_STORE_FILE_BYTES ∧
          bytes = payload ++ (storeIntegrityDigest payload).toList := by
  obtain ⟨⟨⟩, hb, h⟩ := bind_eq_ok.mp h
  obtain ⟨⟨⟨⟩, payload⟩, hrun, h⟩ := bind_eq_ok.mp h
  obtain ⟨⟨⟩, hmax, h⟩ := bind_eq_ok.mp h
  rw [failIf_eq_ok, not_not] at hb
  exact ⟨hb, payload, hrun, Nat.le_of_not_lt (failIf_eq_ok.mp hmax), (Except.ok.inj h).symm⟩

/-- **A file survives**: what is written for an entry decodes to it, in its own slot. -/
theorem decodeEntryForSlot_encodeEntry (h : encodeEntry entry = .ok bytes)
    (hslot : slotHashFor entry.operationHash = entry.slotHash)
    (hterminal : entry.terminalBytes ≠ some []) :
    decodeEntryForSlot bytes entry.slotHash = .ok entry := by
  obtain ⟨hb, payload, hrun, hmax, rfl⟩ := encodeEntry_eq_ok h
  obtain ⟨payload', hrun', hlen⟩ := entry.run_write
  obtain rfl : payload = payload' := by
    have := hrun.symm.trans hrun'
    cases this
    rfl
  obtain ⟨bs, hbs, hread⟩ := StoreEntry.mirrors hb hslot hterminal _ _ hrun
  obtain rfl : payload = bs := hbs
  have hread := hread []
  rw [List.append_nil] at hread
  have hsize : (payload ++ (storeIntegrityDigest payload).toList).length =
      payload.length + STORE_DIGEST_BYTES := by
    rw [List.length_append, Bytes.length_toList, STORE_DIGEST_BYTES]
  rw [decodeEntryForSlot, hsize, Nat.add_sub_cancel, List.take_left, List.drop_left]
  refine bind_eq_ok.mpr ⟨(), failIf_eq_ok.mpr ?_, bind_eq_ok.mpr
    ⟨(), failIf_eq_ok.mpr (not_not.mpr rfl), bind_eq_ok.mpr ⟨_, hread, bind_eq_ok.mpr
      ⟨(), failIf_eq_ok.mpr (not_not.mpr rfl), rfl⟩⟩⟩⟩
  rw [STORE_DIGEST_BYTES] at *
  omega

/-! ## 6. What a file stands for -/

omit [Crypto] in
/-- A record of the journal: its draft and what became of it. -/
structure PersistedRuntimeReleaseOperation where
  draft : RuntimeReleaseOperationDraft
  terminalResult : Option RuntimeReleaseTerminalResult
  replayableRightsDecisions : List SignedNodeRightsDecisionV1
  providerEffectStarted : Bool

namespace StoreEntry

def fromDraft (draft : RuntimeReleaseOperationDraft) (terminalBytes : Option (List UInt8))
    (effectStarted : Bool) (replayableRightsBytes : List UInt8) :
    Except RuntimeReleaseJournalError StoreEntry := do
  let operationHash ← draft.operationHash
  let signedOperationBytes ← draft.signedOperationBytes
  pure
    { slotHash := slotHashFor operationHash, auditRequestId := draft.auditRequestId,
      runtimeOperationIssuer := draft.runtimeOperationIssuer, operationHash,
      walletRequestBytes := draft.walletRequestBytes,
      walletResponseBytes := draft.walletResponseBytes, signedOperationBytes, terminalBytes,
      replayableRightsBytes, effectStarted }

def intoPersisted (entry : StoreEntry) :
    Except RuntimeReleaseJournalError PersistedRuntimeReleaseOperation := do
  let signedRuntimeReleaseOperation : SignedRuntimeReleaseOperationV1 ←
    orCorrupt (fromCanonicalBytes entry.signedOperationBytes)
  let operationHash ← orCorrupt (canonicalHash signedRuntimeReleaseOperation)
  failIf (operationHash ≠ entry.operationHash) RuntimeReleaseJournalError.corrupt
  failIf (signedRuntimeReleaseOperation.statement.auditRequestId ≠ entry.auditRequestId ∨
    signedRuntimeReleaseOperation.statement.runtimeOperationIssuer ≠ entry.runtimeOperationIssuer)
    RuntimeReleaseJournalError.corrupt
  let draft ← RuntimeReleaseOperationDraft.new entry.walletRequestBytes entry.walletResponseBytes
    signedRuntimeReleaseOperation
  let terminalResult ← entry.terminalBytes.mapM RuntimeReleaseTerminalResult.decode
  let replayableRightsDecisions ← decodeReplayableRightsDecisions entry.replayableRightsBytes
  pure ⟨draft, terminalResult, replayableRightsDecisions, entry.effectStarted⟩

theorem fromDraft_eq_ok {draft : RuntimeReleaseOperationDraft} {terminal : Option (List UInt8)}
    {started : Bool} {rights : List UInt8} {entry : StoreEntry} :
    fromDraft draft terminal started rights = .ok entry ↔
      ∃ bytes, canonicalBytes draft.signedRuntimeReleaseOperation = .ok bytes ∧
        { slotHash := slotHashFor (Crypto.sha256 bytes), auditRequestId := draft.auditRequestId,
          runtimeOperationIssuer := draft.runtimeOperationIssuer,
          operationHash := Crypto.sha256 bytes, walletRequestBytes := draft.walletRequestBytes,
          walletResponseBytes := draft.walletResponseBytes, signedOperationBytes := bytes,
          terminalBytes := terminal, replayableRightsBytes := rights,
          effectStarted := started : StoreEntry } = entry := by
  simp only [fromDraft, RuntimeReleaseOperationDraft.operationHash, canonicalHash, bind_eq_ok,
    orCorrupt_eq_ok, RuntimeReleaseOperationDraft.signedOperationBytes_eq_ok, pure_eq_ok]
  constructor
  · rintro ⟨_, ⟨bytes, hbytes, rfl⟩, bytes', hbytes', rfl⟩
    obtain rfl : bytes = bytes' := Except.ok.inj (hbytes.symm.trans hbytes')
    exact ⟨bytes, hbytes, rfl⟩
  · rintro ⟨bytes, hbytes, rfl⟩
    exact ⟨_, ⟨bytes, hbytes, rfl⟩, bytes, hbytes, rfl⟩

end StoreEntry

namespace PersistedRuntimeReleaseOperation

/-- The entry that stands for a record. -/
def toEntry (v : PersistedRuntimeReleaseOperation) :
    Except RuntimeReleaseJournalError StoreEntry := do
  let terminalBytes ← v.terminalResult.mapM RuntimeReleaseTerminalResult.encode
  let replayableRightsBytes ← encodeReplayableRightsDecisions v.replayableRightsDecisions
  StoreEntry.fromDraft v.draft terminalBytes v.providerEffectStarted replayableRightsBytes

variable {v : PersistedRuntimeReleaseOperation} {entry : StoreEntry}

/-- **A record survives**: what its entry holds reads back as the record. -/
theorem intoPersisted_toEntry (h : v.toEntry = .ok entry) : entry.intoPersisted = .ok v := by
  obtain ⟨terminalBytes, hterminal, h⟩ := bind_eq_ok.mp h
  obtain ⟨rightsBytes, hrights, h⟩ := bind_eq_ok.mp h
  obtain ⟨bytes, hbytes, rfl⟩ := StoreEntry.fromDraft_eq_ok.mp h
  have hresult : terminalBytes.mapM RuntimeReleaseTerminalResult.decode = .ok v.terminalResult := by
    cases hr : v.terminalResult with
    | none =>
      rw [hr] at hterminal
      cases hterminal
      rfl
    | some result =>
      rw [hr] at hterminal
      obtain ⟨encoded, hencoded, hterminal⟩ := bind_eq_ok.mp hterminal
      cases hterminal
      exact bind_eq_ok.mpr ⟨_, RuntimeReleaseTerminalResult.decode_encode hencoded, rfl⟩
  refine bind_eq_ok.mpr ⟨v.draft.signedRuntimeReleaseOperation,
    orCorrupt_eq_ok.mpr (fromCanonicalBytes_of_canonicalBytes hbytes), bind_eq_ok.mpr
      ⟨Crypto.sha256 bytes, orCorrupt_eq_ok.mpr (bind_eq_ok.mpr ⟨bytes, hbytes, rfl⟩), ?_⟩⟩
  refine bind_eq_ok.mpr ⟨(), failIf_eq_ok.mpr (not_not.mpr rfl), bind_eq_ok.mpr
    ⟨(), failIf_eq_ok.mpr (not_or.mpr ⟨not_not.mpr rfl, not_not.mpr rfl⟩), bind_eq_ok.mpr
      ⟨v.draft, v.draft.new_self, bind_eq_ok.mpr ⟨_, hresult, bind_eq_ok.mpr
        ⟨_, decode_encodeReplayableRightsDecisions hrights, rfl⟩⟩⟩⟩⟩

/-- The slot of an entry is the one of its operation. -/
theorem toEntry_slotHash (h : v.toEntry = .ok entry) :
    slotHashFor entry.operationHash = entry.slotHash := by
  obtain ⟨_, _, h⟩ := bind_eq_ok.mp h
  obtain ⟨_, _, h⟩ := bind_eq_ok.mp h
  obtain ⟨_, _, rfl⟩ := StoreEntry.fromDraft_eq_ok.mp h
  rfl

/-- A stored terminal result is not empty. -/
theorem toEntry_terminalBytes (h : v.toEntry = .ok entry) : entry.terminalBytes ≠ some [] := by
  obtain ⟨terminalBytes, hterminal, h⟩ := bind_eq_ok.mp h
  obtain ⟨_, _, h⟩ := bind_eq_ok.mp h
  obtain ⟨_, _, rfl⟩ := StoreEntry.fromDraft_eq_ok.mp h
  change terminalBytes ≠ some []
  rintro rfl
  cases hr : v.terminalResult with
  | none =>
    rw [hr] at hterminal
    exact nomatch hterminal
  | some result =>
    rw [hr] at hterminal
    obtain ⟨encoded, hencoded, hterminal⟩ := bind_eq_ok.mp hterminal
    cases hterminal
    exact RuntimeReleaseTerminalResult.encode_ne_nil hencoded rfl

/-- The entry of a record is within the limits of a file. -/
theorem toEntry_bounded (h : v.toEntry = .ok entry) : entry.Bounded := by
  obtain ⟨terminalBytes, hterminal, h⟩ := bind_eq_ok.mp h
  obtain ⟨rightsBytes, hrights, h⟩ := bind_eq_ok.mp h
  obtain ⟨bytes, hbytes, rfl⟩ := StoreEntry.fromDraft_eq_ok.mp h
  have hwallet := v.draft.walletBounds
  simp only [not_or, Nat.not_lt] at hwallet
  obtain ⟨hreq, hreqMax, hresp, hrespMax⟩ := hwallet
  have hop := RuntimeReleaseOperationDraft.signedOperationBytes_eq_ok.mpr hbytes
  obtain ⟨_, _, hop⟩ := bind_eq_ok.mp hop
  obtain ⟨⟨⟩, hop, ⟨⟩⟩ := bind_eq_ok.mp hop
  rw [failIf_eq_ok, not_or, Nat.not_lt] at hop
  have hsize : (terminalBytes.getD []).length ≤ MAX_TERMINAL_BYTES := by
    cases hr : v.terminalResult with
    | none =>
      rw [hr] at hterminal
      cases hterminal
      exact Nat.zero_le _
    | some result =>
      rw [hr] at hterminal
      obtain ⟨encoded, hencoded, hterminal⟩ := bind_eq_ok.mp hterminal
      cases hterminal
      exact (RuntimeReleaseTerminalResult.encode_eq_ok.mp hencoded).2
  exact
    { wallet := ⟨mt List.eq_nil_of_length_eq_zero hreq, hreqMax⟩
      walletResponse := ⟨mt List.eq_nil_of_length_eq_zero hresp, hrespMax⟩
      operation := ⟨mt List.eq_nil_of_length_eq_zero hop.1, hop.2⟩
      terminal := hsize
      replayableRights := encodeReplayableRightsDecisions_length hrights }

end PersistedRuntimeReleaseOperation

end ElastosRuntime.ReleaseJournal
