/-
# The states of an approval

An approval is asked for pending.  From there it is approved and completed, or rejected, or its time
runs out.  What was asked for never changes, and a settled approval only has the outcome of its
transaction attached (`approval_state_machine`).

A receipt or a result stands only in a completed approval, and for it there is `Evidence` in what
was carried out: by whom it was approved and completed, when, and what was verified.  A transaction
that an external wallet has sent is completed with the hash that its connector reports; no signature
comes with it.
-/
import ElastosRuntime.Wallet.SignedChain

namespace ElastosRuntime.Wallet

open Contracts Text WalletCurve WalletSigner Records Streams Streams.Effect Relation

/-! ## 1. Evidence -/

section

variable [Curves] [Crypto] [WalletSigner] [BitcoinCrate] [SerdeJson]

/-- What an external wallet signs for an approval, as a digest: of its payload, or of a text that
quotes the payload's hash. -/
def externalDigest (a : WalletApprovalRequest) : Except String (Bytes 32) := do
  if a.intent = PROTECTED_CONTENT_RIGHTS_SIGNATURE_INTENT then
    let (_, canonicalBytes) ← protectedContentRightsRequestFromPayload a.payload
    pure (ethereumSignedMessageHash canonicalBytes)
  else if a.intent = "browser_typed_data_sign" then eip712PayloadHash a.payload
  else
    let message ← externalSignatureMessage a
    if a.intent = "browser_personal_sign" then
      let bytes ← browserPersonalSignMessageBytes message
      pure (ethereumSignedMessageHash bytes)
    else pure (ethereumSignedMessageHash (utf8Bytes message))

/-- The signature of an external wallet is the account's, over the payload. -/
inductive Verified (a : WalletApprovalRequest) (v : ConnectorHandoffCompletion) : Prop
  | recovers {signature recovered : String} {digest : Bytes 32}
      (hsignature : v.signature = some signature) (hdigest : externalDigest a = .ok digest)
      (hrecovers : recoverEvmAddressFromHash digest signature = .ok recovered)
      (haddress : normalizeEvmAddress recovered = normalizeEvmAddress a.address) : Verified a v
  | bitcoin {signature signatureType message : String} {proof : BitcoinProofResult}
      (hintent : a.intent = "bitcoin_bip322_proof") (hsignature : v.signature = some signature)
      (hmessage : a.payload.getStr "message" = some message)
      (hverifies : verifyBitcoinProofForType a.proofType signatureType "bitcoin" a.address message
        signature v.publicKey = .ok proof) : Verified a v

/-- An external wallet was handed the approval, in its own session and by its own connector. -/
structure HandedOff (e : Event) (a : WalletApprovalRequest) : Prop where
  operation : ∃ requestId reason, e.request.operation = .approveConnectorHandoff requestId reason ∧
    e.Settles requestId a
  connector : a.connectorId = some e.request.authority.actor
  unexpired : e.circumstances.clock 0 < a.expiresAt

/-- The completion of an approval by its connector. -/
structure CompletedBy (e : Event) (v : ConnectorHandoffCompletion) (a : WalletApprovalRequest) :
    Prop where
  operation : ∃ requestId payloadHash signature signatureType publicKey signer transactionHash,
    e.request.operation = .completeConnectorHandoff requestId payloadHash signature signatureType
      publicKey signer transactionHash ∧
    v = completionOf e.request.authority requestId payloadHash signature signatureType publicKey
      signer transactionHash ∧ e.Settles requestId a
  connector : a.connectorId = some e.request.authority.actor
  unexpired : e.circumstances.clock 0 < a.expiresAt
  completedAt : a.completedAt = some (e.circumstances.clock 0)
  payloadHash : v.payloadHash = a.payloadHash
  verified : a.intent ≠ "transaction_intent" → Verified a v
  /-- The one completion without a signature. -/
  transaction : a.intent = "transaction_intent" → v.signature = none ∧
    ∃ hash, v.transactionHash = some hash ∧
      a.signedResult = some (externalTransactionResult a hash)

/-- The managed path has approved, signed and completed the approval. -/
structure SignedByManaged (e : Event) (a : WalletApprovalRequest) : Prop where
  operation : ∃ requestId reason, e.request.operation = .approveAndSignManaged requestId reason ∧
    e.Settles requestId a
  managed : isManagedProofType a.proofType = true ∧ a.connectorId = none
  approvedAt : a.approvedAt = some (e.circumstances.clock 0) ∧
    e.circumstances.clock 0 < a.expiresAt
  completedAt : a.completedAt = some (e.circumstances.clock 1) ∧
    e.circumstances.clock 1 < a.expiresAt
  signs : ∃ signingKey signed request, Derives signingKey a.chainNamespace a.address ∧
    request.asked = a.asked ∧ signManagedApproval signingKey request = .ok signed ∧
    a.signedResult = managedSignedResult request signed

/-- By whom and how an approval was completed. -/
inductive Evidence (history : List Event) (a : WalletApprovalRequest) : Prop
  | managed {e : Event} (he : e ∈ history) (hsigned : SignedByManaged e a) : Evidence history a
  | external {e₁ e₂ : Event} {v : ConnectorHandoffCompletion} (he₁ : e₁ ∈ history)
      (hhanded : HandedOff e₁ a) (he₂ : e₂ ∈ history) (hcompleted : CompletedBy e₂ v a) :
      Evidence history a

/-- What is known of an approval that is stored. -/
structure Justified (history : List Event) (a : WalletApprovalRequest) : Prop where
  approved : a.status = .approved → ∃ e ∈ history, HandedOff e a
  completed : a.status = .completed → Evidence history a
  evidence : a.signatureReceipt.isSome = true ∨ a.signedResult.isSome = true →
    a.status = .completed
  payloadHash : a.payloadHash = valueHash a.payload

variable {history later : List Event} {a b : WalletApprovalRequest} {e : Event}

/-! ### The outcome of a transaction is no part of the evidence -/

theorem Verified.attach {v : ConnectorHandoffCompletion} (h : Verified a v)
    (outcome : ValidatedChainOutcomeV1) : Verified (a.attach outcome) v := by
  cases h with
  | recovers hsignature hdigest hrecovers haddress =>
    exact Verified.recovers hsignature hdigest hrecovers haddress
  | bitcoin hintent hsignature hmessage hverifies =>
    exact Verified.bitcoin hintent hsignature hmessage hverifies

omit [Curves] [Crypto] [BitcoinCrate] [SerdeJson] in
theorem HandedOff.attach (h : HandedOff e a) (outcome : ValidatedChainOutcomeV1) :
    HandedOff e (a.attach outcome) := by
  obtain ⟨requestId, reason, hop, hsettles⟩ := h.operation
  exact ⟨⟨requestId, reason, hop, hsettles.named, hsettles.session⟩, h.connector, h.unexpired⟩

theorem CompletedBy.attach {v : ConnectorHandoffCompletion} (h : CompletedBy e v a)
    (outcome : ValidatedChainOutcomeV1) : CompletedBy e v (a.attach outcome) := by
  obtain ⟨requestId, payloadHash, signature, signatureType, publicKey, signer, transactionHash,
    hop, hv, hsettles⟩ := h.operation
  exact ⟨⟨requestId, payloadHash, signature, signatureType, publicKey, signer, transactionHash,
    hop, hv, hsettles.named, hsettles.session⟩, h.connector, h.unexpired, h.completedAt,
    h.payloadHash, fun hintent => (h.verified hintent).attach outcome, h.transaction⟩

theorem SignedByManaged.attach (h : SignedByManaged e a) (outcome : ValidatedChainOutcomeV1) :
    SignedByManaged e (a.attach outcome) := by
  obtain ⟨requestId, reason, hop, hsettles⟩ := h.operation
  exact ⟨⟨requestId, reason, hop, hsettles.named, hsettles.session⟩, h.managed, h.approvedAt,
    h.completedAt, h.signs⟩

theorem Evidence.attach (h : Evidence history a) (outcome : ValidatedChainOutcomeV1) :
    Evidence history (a.attach outcome) := by
  cases h with
  | managed he hsigned => exact Evidence.managed he (hsigned.attach outcome)
  | external he₁ hhanded he₂ hcompleted =>
    exact Evidence.external he₁ (hhanded.attach outcome) he₂ (hcompleted.attach outcome)

end

/-! ## 2. What is verified when a handoff is completed -/

section

variable [Curves] [Crypto] [WalletSigner] [BitcoinCrate] [SerdeJson]

variable {a : WalletApprovalRequest} {v : ConnectorHandoffCompletion} {s : WalletStore} {now : Nat}
  {signatureHash : String} {signedResult : Option Json}

theorem verified_of_completeBitcoinProof (hintent : a.intent = "bitcoin_bip322_proof")
    (h : completeBitcoinProof s a v now = .ok (signatureHash, signedResult)) : Verified a v := by
  simp only [completeBitcoinProof, requireSignature, Codec.bind_eq_ok, refuse_eq_ok, okOr_eq_ok,
    pure_eq_ok, exists_unit] at h
  obtain ⟨_, ⟨signature, hsignature, -, rfl⟩, -, message, hmessage, proof, hproof, -⟩ := h
  rw [externalSignatureMessage, hintent, if_neg (by decide), if_neg (by decide), if_pos rfl,
    okOr_eq_ok] at hmessage
  exact Verified.bitcoin hintent hsignature hmessage hproof

theorem verified_of_completeProtectedContentRights
    (hintent : a.intent = PROTECTED_CONTENT_RIGHTS_SIGNATURE_INTENT)
    (h : completeProtectedContentRights s a v now = .ok (signatureHash, signedResult)) :
    Verified a v := by
  simp only [completeProtectedContentRights, requireSignature, Codec.bind_eq_ok, refuse_eq_ok,
    okOr_eq_ok, denyIf_eq_ok, pure_eq_ok, exists_unit, not_not] at h
  obtain ⟨_, ⟨signature, hsignature, -, rfl⟩, -, account, -, ⟨rightsRequest, canonicalBytes⟩,
    hrights, -, recovered, hrecovers, haddress, -⟩ := h
  have hdigest : externalDigest a = .ok (ethereumSignedMessageHash canonicalBytes) := by
    rw [externalDigest, if_pos hintent, hrights]
    rfl
  exact Verified.recovers hsignature hdigest hrecovers haddress

theorem verified_of_completeMessage (hintent : a.intent ≠ PROTECTED_CONTENT_RIGHTS_SIGNATURE_INTENT)
    (h : completeMessage a v = .ok (signatureHash, signedResult)) : Verified a v := by
  simp only [completeMessage, requireSignature, Codec.bind_eq_ok, refuse_eq_ok, okOr_eq_ok,
    denyIf_eq_ok, pure_eq_ok, exists_unit, not_not] at h
  obtain ⟨_, ⟨signature, hsignature, -, rfl⟩, recovered, hrecovers, haddress, -⟩ := h
  have hdigest : ∃ digest, externalDigest a = .ok digest ∧
      recoverEvmAddressFromHash digest signature = .ok recovered := by
    rw [recoverSigner] at hrecovers
    rw [externalDigest, if_neg hintent]
    split at hrecovers
    · next htyped =>
      rw [refuse_eq_ok, Codec.bind_eq_ok] at hrecovers
      rw [if_pos htyped]
      exact hrecovers
    · next htyped =>
      rw [if_neg htyped]
      simp only [Codec.bind_eq_ok, refuse_eq_ok] at hrecovers
      obtain ⟨message, hmessage, hrecovers⟩ := hrecovers
      rw [hmessage]
      split at hrecovers
      · next hpersonal =>
        simp only [Codec.bind_eq_ok, refuse_eq_ok] at hrecovers
        obtain ⟨bytes, hbytes, hrecovers⟩ := hrecovers
        refine ⟨_, Codec.bind_eq_ok.mpr ⟨message, rfl, ?_⟩, hrecovers⟩
        rw [if_pos hpersonal, hbytes]
        rfl
      · next hpersonal =>
        simp only [recoverEvmAddress, Codec.bind_eq_ok, refuse_eq_ok, pure_eq_ok] at hrecovers
        obtain ⟨⟨_, _⟩, ⟨address, hrecovers, heq⟩, rfl⟩ := hrecovers
        obtain ⟨rfl, -⟩ := Prod.mk.inj heq
        exact ⟨_, Codec.bind_eq_ok.mpr ⟨message, rfl, if_neg hpersonal⟩, hrecovers⟩
  obtain ⟨digest, hdigest, hrecovers⟩ := hdigest
  exact Verified.recovers hsignature hdigest hrecovers haddress

/-- **What a completion other than of a transaction rests on.** -/
theorem verified_of_completionEvidence (hintent : a.intent ≠ "transaction_intent")
    (h : completionEvidence s a v now = .ok (signatureHash, signedResult)) : Verified a v := by
  rw [completionEvidence, if_neg hintent] at h
  split at h
  · next hbitcoin => exact verified_of_completeBitcoinProof hbitcoin h
  · split at h
    · next hrights => exact verified_of_completeProtectedContentRights hrights h
    · next hrights => exact verified_of_completeMessage hrights h

/-- A transaction is completed with no signature. -/
theorem transaction_of_completionEvidence (hintent : a.intent = "transaction_intent")
    (h : completionEvidence s a v now = .ok (signatureHash, signedResult)) :
    v.signature = none ∧ ∃ hash, v.transactionHash = some hash ∧
      signedResult = some (externalTransactionResult a hash) := by
  rw [completionEvidence, if_pos hintent] at h
  simp only [completeTransaction, Codec.bind_eq_ok, refuse_eq_ok, okOr_eq_ok, denyIf_eq_ok,
    pure_eq_ok, exists_unit, Bool.not_eq_true, Option.isSome_eq_false_iff, Option.isNone_iff_eq_none]
    at h
  obtain ⟨hsignature, hash, hhash, -, heq⟩ := h
  exact ⟨hsignature, hash, hhash, (Prod.mk.inj heq).2.symm⟩

end

/-! ## 3. Every stored approval is justified -/

section

variable [Curves] [Crypto] [WalletSigner] [BitcoinCrate] [SerdeJson]

variable {history : List Event} {a b : WalletApprovalRequest} {e : Event}

theorem Accepts.justified [Custody.Aes256Gcm] (h : Accepts e a) : Justified history a := by
  have hnew : ∀ (input : SignatureRequestInput) (account : LinkedAccount) (now : Nat),
      Justified history (newApprovalRequest input account now) := by
    intro input account now
    refine ⟨?_, ?_, ?_, rfl⟩
    · intro happroved
      cases happroved
    · intro hcompleted
      cases hcompleted
    · intro hevidence
      rcases hevidence with hreceipt | hresult
      · cases hreceipt
      · cases hresult
  cases h with
  | approval => exact hnew _ _ _
  | rights => exact hnew _ _ _

/-- Nothing is stored in an approval that is open. -/
theorem Justified.no_evidence (h : Justified history a) (hopen : a.status.isOpen = true) :
    ¬(a.signatureReceipt.isSome = true ∨ a.signedResult.isSome = true) := by
  intro hevidence
  rw [h.evidence hevidence] at hopen
  cases hopen

theorem Justified.ages (h : Justified history a) (hages : Ages a b) : Justified history b := by
  cases hages with
  | same => exact h
  | expired hopen _ =>
    refine ⟨?_, ?_, fun hevidence => absurd hevidence (h.no_evidence hopen), h.payloadHash⟩
    · intro happroved
      cases happroved
    · intro hcompleted
      cases hcompleted

theorem signedByManaged_of_changes [Custody.Aes256Gcm] {requestId reason : String} {s : WalletStore}
    {signingKey : SigningKey} {signed : ManagedSignatureOutput}
    (hoperation : e.request.operation = .approveAndSignManaged requestId reason)
    (hsettles : e.Settles requestId a) (hmanaged : isManagedProofType a.proofType = true)
    (hconnector : a.connectorId = none)
    (hunexpired : e.circumstances.clock 0 < a.expiresAt ∧ e.circumstances.clock 1 < a.expiresAt)
    (hsigning : ManagedSigning e.storageKey s (e.circumstances.clock 1)
      (a.approve (e.circumstances.clock 0) reason) signingKey signed) :
    SignedByManaged e (signedBy (a.approve (e.circumstances.clock 0) reason)
      (e.circumstances.clock 1) signed) := by
  refine ⟨⟨requestId, reason, hoperation, hsettles.named, hsettles.session⟩,
    ⟨hmanaged, hconnector⟩, ⟨rfl, hunexpired.1⟩, ⟨rfl, hunexpired.2⟩, signingKey, signed,
    a.approve (e.circumstances.clock 0) reason, ?_, rfl, hsigning.signs, rfl⟩
  -- the key is the account's, and the account is the one that the approval was asked for
  obtain ⟨account, hchecked, hkey⟩ := hsigning.checked
  have hderives := derives_of_managedSigningKey hkey
  simp only [validateManagedSigning, Codec.bind_eq_ok, denyIf_eq_ok, okOr_eq_ok, exists_unit,
    not_or, not_not] at hchecked
  obtain ⟨-, -, found, -, -, ⟨-, hnamespace, haddress, -, -⟩, hfound⟩ := hchecked
  have hsame : found = account := by
    repeat' split at hfound
    all_goals simp only [Codec.bind_eq_ok, pure_eq_ok, exists_unit] at hfound
    all_goals first | exact hfound.2 | exact hfound
  rw [← hsame, ← hnamespace, ← haddress] at hderives
  exact hderives

theorem Justified.changes [Custody.Aes256Gcm] (h : Justified history a) (he : e ∈ history)
    (hchanges : Changes e a b) : Justified history b := by
  cases hchanges with
  | rejected _ _ hpending =>
    have hopen : a.status.isOpen = true := by rw [hpending]; rfl
    refine ⟨?_, ?_, fun hevidence => absurd hevidence (h.no_evidence hopen), h.payloadHash⟩
    · intro happroved
      cases happroved
    · intro hcompleted
      cases hcompleted
  | @handedOff requestId reason handoff hoperation hsettles hconnector hpending hunexpired =>
    have hopen : a.status.isOpen = true := by rw [hpending]; rfl
    refine ⟨fun _ => ⟨e, he, ?_⟩, ?_, fun hevidence => absurd hevidence (h.no_evidence hopen),
      h.payloadHash⟩
    · exact ⟨⟨requestId, reason, hoperation, hsettles.named, hsettles.session⟩, hconnector,
        hunexpired⟩
    · intro hcompleted
      cases hcompleted
  | signed hoperation hsettles hmanaged hconnector _ hunexpired _ hsigning =>
    refine ⟨?_, fun _ => ?_, fun _ => rfl, h.payloadHash⟩
    · intro happroved
      cases happroved
    · exact Evidence.managed he <| signedByManaged_of_changes hoperation hsettles hmanaged
        hconnector hunexpired hsigning
  | @completed requestId payloadHash signer signature signatureType publicKey transactionHash v
      signatureHash signedResult hoperation hcompletion hsettles hconnector hpayload happroved
      hunexpired hevidence =>
    obtain ⟨e₁, he₁, hhanded⟩ := h.approved happroved
    refine ⟨?_, fun _ => ?_, fun _ => rfl, h.payloadHash⟩
    · intro happroved'
      cases happroved'
    · have hhanded' : HandedOff e₁ (a.complete (e.circumstances.clock 0) (receiptOf a signer
          payloadHash signatureHash (e.circumstances.clock 0)) signedResult) := by
        obtain ⟨requestId₁, reason₁, hop₁, hsettles₁⟩ := hhanded.operation
        exact ⟨⟨requestId₁, reason₁, hop₁, hsettles₁.named, hsettles₁.session⟩,
          hhanded.connector, hhanded.unexpired⟩
      refine Evidence.external he₁ hhanded' he ⟨⟨requestId, payloadHash, signature, signatureType,
        publicKey, signer, transactionHash, hoperation, hcompletion, hsettles.named,
        hsettles.session⟩, hconnector, hunexpired, rfl, ?_, fun hintent => ?_, fun hintent => ?_⟩
      · rw [hcompletion]
        exact hpayload.symm
      · cases verified_of_completionEvidence hintent hevidence with
        | recovers hsignature hdigest hrecovers haddress =>
          exact Verified.recovers hsignature hdigest hrecovers haddress
        | bitcoin hintent' hsignature hmessage hverifies =>
          exact Verified.bitcoin hintent' hsignature hmessage hverifies
      · exact transaction_of_completionEvidence hintent hevidence
  | @attached outcome _ htarget _ =>
    simp only [validateChainOutcomeTarget, Codec.bind_eq_ok, failIf_eq_ok, exists_unit, not_or,
      not_not] at htarget
    have hcompleted := htarget.2.2.1.1
    refine ⟨?_, fun _ => (h.completed hcompleted).attach outcome, fun _ => hcompleted,
      h.payloadHash⟩
    intro happroved
    have hsame : a.status = .approved := happroved
    rw [hcompleted] at hsame
    cases hsame

theorem Lived.justified [Custody.Aes256Gcm] (h : Lived history a) : Justified history a := by
  induction h with
  | accepted _ haccepts => exact haccepts.justified
  | aged _ hages ih => exact ih.ages hages
  | changed _ he hchanges ih => exact ih.changes he hchanges

end

/-! ## 4. Moves over a run -/

theorem requestId_of_moves {a b : WalletApprovalRequest} (h : ReflTransGen Moves a b) :
    a.requestId = b.requestId := (congrArg (·.requestId) (asked_eq_of_moves h)).symm

theorem disk_init_none (storageKey : Option (Bytes 32)) (fate : Fate) (now : Nat) :
    (init none storageKey fate now).disk = none := by
  have hnone : rejectPreV2PendingApprovals (pruneStore WalletStore.empty now) now =
      (pruneStore WalletStore.empty now, false) := rfl
  rcases fate with ⟨save, readable⟩
  cases storageKey with
  | none => rfl
  | some key =>
    cases readable with
    | false => rfl
    | true => simp only [init, Option.getD_none, hnone, Bool.false_eq_true, if_false]

/-- Every approval of the one list that is also in the other has moved from there. -/
def Follows (before after : List WalletApprovalRequest) : Prop :=
  ∀ b ∈ after, ∀ a ∈ before, a.requestId = b.requestId → ReflTransGen Moves a b

theorem Follows.refl {l : List WalletApprovalRequest}
    (hunique : Unique WalletApprovalRequest.requestId l) : Follows l l := by
  intro b hb a ha hid
  rw [hunique.eq ha hb hid]

section

variable [Curves] [Crypto] [WalletSigner] [BitcoinCrate] [Custody.Aes256Gcm] [SerdeJson]

theorem Accepts.asks {e : Event} {b : WalletApprovalRequest} (h : Accepts e b) :
    asksForApproval e.request.operation = true := by
  cases h with
  | approval hoperation => rw [hoperation]; rfl
  | rights hoperation => rw [hoperation]; rfl

/-- What was asked for is pending, and the rest are moves. -/
theorem Lived.moves {history : List Event} {a : WalletApprovalRequest} (h : Lived history a) :
    ReflTransGen Moves a.asked a := by
  induction h with
  | accepted _ haccepts => rw [haccepts.asked_eq]
  | aged _ hages ih =>
    rw [asked_eq_of_moves hages.moves]
    exact ih.trans hages.moves
  | changed _ _ hchanges ih =>
    rw [asked_eq_of_moves hchanges.moves]
    exact ih.trans hchanges.moves

variable {before after : List WalletApprovalRequest}

/-- Where an approval behind an operation comes from. -/
theorem Advances.exists_moves {e : Event} {changed : List WalletApprovalRequest}
    (h : Advances e before changed) (hkept : Kept changed after none) :
    ∀ b ∈ after, (∃ a ∈ before, ReflTransGen Moves a b) ∨ Accepts e b.asked := by
  intro c hc
  rcases hkept.members c hc with ⟨b, hb, hbc⟩ | hnone
  · rcases h.members b hb with ⟨a, ha, hab⟩ | ⟨a, ha, hab⟩ | haccepts
    · exact Or.inl ⟨a, ha, hab.moves.trans hbc.moves⟩
    · exact Or.inl ⟨a, ha, hab.moves.trans hbc.moves⟩
    · refine Or.inr ?_
      rw [asked_eq_of_moves hbc.moves, haccepts.asked_eq]
      exact haccepts
  · cases hnone

variable [DerivedSerialize] [ElastosAuth]

variable {history later : List Event} {p p' start : WalletProvider} {begun time time' : Nat}
  {s changed : WalletStore} {e : Event}

/-- What a saved operation leaves follows what it found. -/
theorem Event.Leaves.follows (h : e.Leaves changed)
    (hunique : Unique WalletApprovalRequest.requestId e.store.approvalRequests)
    (hreplay : idempotentTransactionEffectReplay e.store e.request = none)
    (hkept : Kept changed.approvalRequests after none) :
    Follows e.store.approvalRequests after := by
  intro b hb a ha hid
  rcases (h.advances hunique hreplay).exists_moves hkept b hb with ⟨c, hc, hmoves⟩ | haccepts
  · rw [hunique.eq ha hc (hid.trans (requestId_of_moves hmoves).symm)]
    exact hmoves
  · refine absurd ?_ (requestId_ne_of_replay_eq_none hreplay haccepts.asks a ha)
    exact hid.trans haccepts.requestId_eq

/-- What stands in the file follows what stands in memory. -/
def FileFollows (p : WalletProvider) : Prop :=
  ∀ store, p.disk = some store → Follows p.store.approvalRequests store.approvalRequests

theorem FileFollows.handle (h : FileFollows p) (hsound : SoundProvider history p)
    (occasion : Occasion) (request : WalletProviderRequestV2) :
    FileFollows (handleWalletContract p occasion request).2 := by
  rcases handleWalletContract_cases p occasion request with
    ⟨-, hsame | hpruned⟩ | ⟨reply, changed, hattempted, -, hleaves, hsaved⟩
  · rw [hsame]
    exact h
  · rw [hpruned]
    exact h
  · have hrecorded : Follows p.store.approvalRequests
        (recordLifecycle request occasion.now changed).approvalRequests :=
      hleaves.follows hsound.store.unique
        (replay_eq_none_of_answerWithoutEffect hattempted.unanswered) (Kept.pruned _ occasion.now)
    have hnext := (hsound.handle occasion request).store.unique
    rw [hsaved] at hnext ⊢
    intro store hstore
    rcases occasion with ⟨now, circumstances, save, readable⟩
    cases save with
    | saved =>
      cases hstore
      exact Follows.refl hnext
    | failedBefore message =>
      cases readable with
      | false => exact h store hstore
      | true =>
        have hdisk : p.disk = some store := hstore
        have hread : (saved p ⟨now, circumstances, .failedBefore message, true⟩ request
            changed).store = store := by
          rw [saved]
          dsimp only
          rw [hdisk]
          rfl
        rw [hread] at hnext ⊢
        exact Follows.refl hnext
    | failedBehind message =>
      cases hstore
      cases readable with
      | false => exact hrecorded
      | true => exact Follows.refl hnext

/-- Approvals that were accepted meanwhile, or have moved from where they stood. -/
def Traced (later : List Event) (before after : List WalletApprovalRequest) : Prop :=
  ∀ b ∈ after, (∃ e ∈ later, Accepts e b.asked) ∨
    ∀ a ∈ before, a.requestId = b.requestId → ReflTransGen Moves a b

/-- What an operation leaves of traced approvals is traced. -/
theorem Traced.leaves (h : Traced later before e.store.approvalRequests)
    (hleaves : e.Leaves changed)
    (hunique : Unique WalletApprovalRequest.requestId e.store.approvalRequests)
    (hreplay : idempotentTransactionEffectReplay e.store e.request = none)
    (hkept : Kept changed.approvalRequests after none) : Traced (later ++ [e]) before after := by
  intro b hb
  rcases (hleaves.advances hunique hreplay).exists_moves hkept b hb with ⟨c, hc, hmoves⟩ | haccepts
  · rcases h c hc with ⟨e', he', haccepts⟩ | hfrom
    · refine Or.inl ⟨e', List.mem_append_left _ he', ?_⟩
      rw [asked_eq_of_moves hmoves]
      exact haccepts
    · refine Or.inr fun a ha hid => (hfrom a ha ?_).trans hmoves
      exact hid.trans (requestId_of_moves hmoves).symm
  · exact Or.inl ⟨e, List.mem_append_right _ (List.mem_singleton.mpr rfl), haccepts⟩

omit [DerivedSerialize] [ElastosAuth] in
theorem Traced.mono {later' : List Event} (h : Traced later before after) (hsub : later ⊆ later') :
    Traced later' before after := by
  intro b hb
  rcases h b hb with ⟨e, he, haccepts⟩ | hfrom
  · exact Or.inl ⟨e, hsub he, haccepts⟩
  · exact Or.inr hfrom

/-- Approvals in memory and in the file are traced to where they stood. -/
structure TracedProvider (later : List Event) (before : List WalletApprovalRequest)
    (p : WalletProvider) : Prop where
  store : Traced later before p.store.approvalRequests
  disk : ∀ store, p.disk = some store → Traced later before store.approvalRequests

theorem TracedProvider.handle (h : TracedProvider later before p) (hsound : SoundProvider history p)
    (occasion : Occasion) (request : WalletProviderRequestV2) :
    TracedProvider (later ++ carriedOut p occasion request) before
      (handleWalletContract p occasion request).2 := by
  have hkeeps := handle_keeps occasion request
    (P := fun s => Traced later before s.approvalRequests) h.store h.disk h.store
    (fun _ hs => hs.mono (List.subset_append_left _ (carriedOut p occasion request)))
    fun reply changed hattempted hdone hleaves => by
      have hbefore : Traced later before (eventOf p occasion request reply).store.approvalRequests :=
        h.store
      exact hdone ▸ hbefore.leaves hleaves hsound.store.unique
        (replay_eq_none_of_answerWithoutEffect hattempted.unanswered) (Kept.pruned _ occasion.now)
  exact ⟨hkeeps.1, hkeeps.2⟩

/-- A run without restarts keeps the file behind no approval in memory. -/
theorem Run.fileFollows (hrun : Run false start begun history time p)
    (hsound : SoundProvider [] start) (hstart : FileFollows start) : FileFollows p := by
  induction hrun with
  | start => exact hstart
  | request hrun occasion request _ _ _ _ ih => exact ih.handle (hrun.sound hsound) occasion request
  | restart _ hrestarts => cases hrestarts

theorem Run.traced (hrun : Run false p time later time' p') (hsound : SoundProvider history p)
    (hfile : FileFollows p) : TracedProvider later p.store.approvalRequests p' ∧
      SoundProvider (history ++ later) p' := by
  induction hrun with
  | start =>
    refine ⟨⟨fun b hb => Or.inr ?_, fun store hstore b hb => Or.inr ?_⟩, ?_⟩
    · exact Follows.refl hsound.store.unique b hb
    · exact hfile store hstore b hb
    · rw [List.append_nil]
      exact hsound
  | request _ occasion request _ _ _ _ ih =>
    refine ⟨ih.1.handle ih.2 occasion request, ?_⟩
    rw [← List.append_assoc]
    exact ih.2.handle occasion request
  | restart _ hrestarts => cases hrestarts

/-- The managed path replies with a signature only of an approval that it has completed. -/
theorem Occurred.signedByManaged {requestId reason : String} (h : Occurred history e)
    (hoperation : e.request.operation = .approveAndSignManaged requestId reason) :
    ∃ b receipt signed, e.reply = .signed b receipt signed ∧ b.status = .completed ∧
      SignedByManaged e b := by
  obtain ⟨after, hleaves⟩ := h.leaves
  rw [Event.Leaves, dispatchWalletOperation, hoperation] at hleaves
  simp only [does_bind, does_pure] at hleaves
  obtain ⟨⟨b, receipt, signed⟩, _, hdoes, hreply, -⟩ := hleaves
  obtain ⟨a, -, hrequest, hsession, hmanaged, hconnector, -, hlt, hlt', ⟨signingKey, s, -, hsigning⟩,
    rfl, -⟩ := approveAndSignManaged_effect h.sound.unique hdoes
  exact ⟨_, receipt, signed, hreply.symm, rfl, signedByManaged_of_changes hoperation
    ⟨hrequest, hsession⟩ hmanaged hconnector ⟨hlt, hlt'⟩ hsigning⟩

/-- **The life of an approval.**  It came about by an accepted request, made only moves, and holds
evidence only when completed, with what was carried out to show for it; and over any part of a run
it moves from where it stood, or stays if it was settled. -/
theorem approval_state_machine :
    (∀ begun history time p, Run true (.stopped none) begun history time p →
      (∀ b ∈ p.store.approvalRequests, (∃ e ∈ history, Accepts e b.asked) ∧
        ReflTransGen Moves b.asked b ∧ Justified history b) ∧
      ∀ e ∈ history, ∀ requestId reason,
        e.request.operation = .approveAndSignManaged requestId reason →
        ∃ b receipt signed, e.reply = .signed b receipt signed ∧ b.status = .completed ∧
          SignedByManaged e b) ∧
    ∀ storageKey fate begun history time p later time' p',
      Run false (init none storageKey fate begun) begun history time p →
      Run false p time later time' p' →
      ∀ b ∈ p'.store.approvalRequests, (∃ e ∈ later, Accepts e b.asked) ∨
        ∀ a ∈ p.store.approvalRequests, a.requestId = b.requestId →
          ReflTransGen Moves a b ∧ b.asked = a.asked ∧
          (a.status.isTerminal = true → b = a ∨ (a.status = .completed ∧
            a.intent = "transaction_intent" ∧ a.validatedChainOutcome = none ∧
            ∃ outcome, b = a.attach outcome)) := by
  constructor
  · intro begun history time p hrun
    have hstopped : SoundProvider [] (.stopped none) := SoundProvider.stopped fun _ h => by cases h
    constructor
    · intro b hb
      have hlived := (hrun.sound hstopped).store.lived b hb
      exact ⟨hlived.exists_accepts, hlived.moves, hlived.justified⟩
    · intro e he requestId reason hoperation
      exact (hrun.occurred hstopped e he).signedByManaged hoperation
  · intro storageKey fate begun history time p later time' p' hrun hlater b hb
    have hsound : SoundProvider [] (init none storageKey fate begun) :=
      SoundProvider.init (p := .stopped none) (fun _ h => by cases h) storageKey fate begun
    have hfile : FileFollows (init none storageKey fate begun) := by
      intro store hstore
      rw [disk_init_none] at hstore
      cases hstore
    obtain ⟨htraced, -⟩ := hlater.traced (hrun.sound hsound) (hrun.fileFollows hsound hfile)
    rcases htraced.store b hb with haccepted | hfrom
    · exact Or.inl haccepted
    · refine Or.inr fun a ha hid => ?_
      have hmoves := hfrom a ha hid
      exact ⟨hmoves, asked_eq_of_moves hmoves, eq_of_moves_of_isTerminal hmoves⟩

end

/-! ## 5. A transaction that an external wallet has sent -/

namespace Sample

attribute [local instance] acceptingCurves keyEchoCrypto plainSigner plainBitcoin plainAes plainJson
  plainSerialize plainAuth

def transactionHash : String :=
  "0x2222222222222222222222222222222222222222222222222222222222222222"

def completeRequest : WalletProviderRequestV2 :=
  request (.completeConnectorHandoff approvalRequestId asked.payloadHash none none none address
    (some transactionHash)) "wallet-request:00000000000000000000000000000004" 400 430

def receipt : WalletSignatureReceipt :=
  receiptOf approved address asked.payloadHash (bytesHash (utf8Bytes transactionHash)) 400

def completed : WalletApprovalRequest :=
  approved.complete 400 receipt (some (externalTransactionResult approved transactionHash))

theorem handedOff_stored : handedOff.store.approvalRequests = [approved] := by
  have hbefore : (pruneStore (pruneExpiredLifecycles awaiting.store 300) 300).approvalRequests =
      [asked] := awaiting_approvals (by decide)
  have hset : handedOffStore.approvalRequests = [approved] := by
    rw [handedOffStore, setApproval]
    dsimp only
    rw [hbefore]
    rfl
  exact (congrArg (pruneApprovals · 300) hset).trans (pruneApprovals_singleton rfl (by decide))

theorem handedOff_approvals {now : Nat} (hunexpired : now < 1000) :
    (pruneStore (pruneExpiredLifecycles handedOff.store now) now).approvalRequests = [approved] :=
  (congrArg (pruneApprovals · now) handedOff_stored).trans (pruneApprovals_singleton rfl hunexpired)

theorem completeRequest_attempted : Attempted handedOff (occasion 400) completeRequest where
  valid := request_valid (by decide) (by decide) (by decide) (by decide) (by decide)
    ⟨none, rfl⟩ ⟨_, rfl⟩
  effectful := rfl
  unanswered := rfl

def completedStore : WalletStore :=
  setApproval completed <|
    setApproval approved (pruneStore (pruneExpiredLifecycles handedOff.store 400) 400)

def completeEvent : Event :=
  eventOf handedOff (occasion 400) completeRequest (.completed completed receipt)

def completion : ConnectorHandoffCompletion :=
  completionOf completeRequest.authority approvalRequestId asked.payloadHash none none none address
    (some transactionHash)

theorem completion_evidence (s : WalletStore) : completionEvidence s approved completion 400 =
    .ok (bytesHash (utf8Bytes transactionHash),
      some (externalTransactionResult approved transactionHash)) := by
  have hhash : validateHash transactionHash "transaction_hash" = .ok () := by decide
  have hintent : approved.intent = "transaction_intent" := rfl
  rw [completionEvidence, if_pos hintent, completeTransaction]
  simp only [Codec.bind_eq_ok, denyIf_eq_ok, okOr_eq_ok, refuse_eq_ok, pure_eq_ok, exists_unit]
  exact ⟨Bool.false_ne_true, transactionHash, rfl, hhash, rfl⟩

theorem complete_does {s : WalletStore} (h : (pruneStore s 400).approvalRequests = [approved]) :
    Does (completeConnectorHandoff storageKey 400 completion) s (completed, receipt)
      (setApproval completed (setApproval approved (pruneStore s 400))) := by
  have hfound : (pruneStore s 400).approvalRequests.find? (isRequest "owner" approvalRequestId) =
      some approved := by
    rw [h]
    decide
  refine Does.check (a := ()) rfl (Does.check (a := ()) ?_ ?_)
  · rw [refuse_eq_ok]
    decide
  · refine does_updates.mpr (does_reads.mpr ?_)
    refine Does.check (a := approved) (congrArg (okOr · _) hfound) (does_updates.mpr ?_)
    refine Does.check (a := ()) (by decide) ?_
    refine Does.check (a := (bytesHash (utf8Bytes transactionHash),
      some (externalTransactionResult approved transactionHash))) ?_ (does_updates.mpr rfl)
    exact completion_evidence _

theorem complete_leaves : completeEvent.Leaves completedStore :=
  does_bind.mpr ⟨(completed, receipt), completedStore,
    complete_does (handedOff_approvals (by decide)), rfl⟩

def completedProvider : WalletProvider :=
  let store := recordLifecycle completeRequest 400 completedStore
  ⟨storageKey, store, some store⟩

theorem complete_run (hstart : Run restarts start 0 [] 0 started) : Run restarts start 0
    [eventOf started (occasion 100) linkRequest (.account account),
      eventOf linked (occasion 200) askRequest (.requested asked true), handoffEvent,
      completeEvent] 400 completedProvider :=
  run_step (handoff_run hstart) (by decide) completeRequest_attempted complete_leaves

theorem completed_stored : completedStore.approvalRequests = [completed] := by
  have hbefore : (pruneStore (pruneExpiredLifecycles handedOff.store 400) 400).approvalRequests =
      [approved] := handedOff_approvals (by decide)
  rw [completedStore, setApproval, setApproval]
  dsimp only
  rw [hbefore]
  rfl

theorem completed_mem : completed ∈ completedProvider.store.approvalRequests := by
  have hpruned : pruneApprovals completedStore.approvalRequests 400 = [completed] := by
    rw [completed_stored]
    rfl
  have hstored : completedProvider.store.approvalRequests = [completed] := hpruned
  rw [hstored]
  exact List.mem_singleton.mpr rfl

/-- A signature is handed in, or made. -/
def bringsSignature : WalletProviderOperationV2 → Bool
  | .completeConnectorHandoff _ _ signature _ _ _ _ => signature.isSome
  | .approveAndSignManaged .. => true
  | _ => false

/-- In a run without any signature an approval comes to hold a receipt and a result. -/
theorem receipt_without_signature :
    ∃ history time p, Run true (.stopped none) 0 history time p ∧
      (∀ e ∈ history, bringsSignature e.request.operation = false) ∧
      ∃ a ∈ p.store.approvalRequests, a.status = .completed ∧ a.signatureReceipt.isSome = true ∧
        a.signedResult.isSome = true := by
  refine ⟨_, _, _, complete_run started_run, ?_, completed, completed_mem, rfl, rfl, rfl⟩
  intro e he
  simp only [List.mem_cons, List.not_mem_nil, or_false] at he
  rcases he with rfl | rfl | rfl | rfl <;> rfl

/-- The approval of the run has moved to where it stands, from what was asked for, and from where it
stood before it was handed off. -/
theorem approval_state_machine_completed :
    ReflTransGen Moves completed.asked completed ∧
      ((∃ e ∈ [handoffEvent, completeEvent], Accepts e completed.asked) ∨
        ∀ a ∈ awaiting.store.approvalRequests, a.requestId = completed.requestId →
          ReflTransGen Moves a completed) := by
  obtain ⟨hstored, htraced⟩ := approval_state_machine
  have hlived := (hstored 0 _ _ _ (complete_run started_run)).1 completed completed_mem
  have hfresh : Run false (init none storageKey ⟨.saved, true⟩ 0) 0 [] 0 started := Run.start
  have hlater : Run false awaiting 200 [handoffEvent, completeEvent] 400 completedProvider :=
    run_step (run_step Run.start (by decide) handoffRequest_attempted handoff_leaves) (by decide)
      completeRequest_attempted complete_leaves
  refine ⟨hlived.2.1, ?_⟩
  rcases htraced storageKey ⟨.saved, true⟩ 0 _ _ _ _ _ _ (awaiting_run hfresh) hlater completed
    completed_mem with haccepted | hfrom
  · exact Or.inl haccepted
  · exact Or.inr fun a ha hid => (hfrom a ha hid).1

end Sample

end ElastosRuntime.Wallet
