/-
# The chain that a transaction is signed for

A transaction intent names a chain twice: the request for the approval in its chain namespace, and
the opaque payload in its member `chain_id`.  What is signed, or handed to an external wallet, is
made from the payload alone, and nothing compares the two: `signed_chain_iff` says that they agree
exactly if the payload that was asked for agrees with its request.
-/
import ElastosRuntime.Lib.JsonCode
import ElastosRuntime.Wallet.Runs

namespace ElastosRuntime.Wallet

open Contracts Text WalletCurve WalletSigner Records Streams Streams.Effect Relation

/-! ## 1. A transaction fits in its payload -/

theorem length_hexPrefixedBytes {value field : String} {expected : Option Nat}
    {bytes : List UInt8} (h : hexPrefixedBytes value expected field = .ok bytes) :
    bytes.length ≤ value.toList.length := by
  simp only [hexPrefixedBytes, Codec.bind_eq_ok, okOr_eq_ok] at h
  obtain ⟨raw, hraw, -, -, -, -, hdecode⟩ := h
  exact (length_of_hexPairs hdecode).trans (length_of_stripPrefix hraw)

theorem length_hexQuantityBytes {value field : String} {bytes : List UInt8}
    (h : hexQuantityBytes value field = .ok bytes) : bytes.length ≤ value.toList.length + 1 := by
  simp only [hexQuantityBytes, Codec.bind_eq_ok, okOr_eq_ok] at h
  obtain ⟨raw, hraw, -, -, h⟩ := h
  have hlen := length_of_stripPrefix hraw
  split at h
  · rw [pure_eq_ok] at h
    rw [← h]
    exact Nat.zero_le _
  · simp only [Codec.bind_eq_ok, okOr_eq_ok, pure_eq_ok] at h
    obtain ⟨-, -, decoded, hdecode, rfl⟩ := h
    have hpadded : (if byteLength raw % 2 = 0 then raw else "0" ++ raw).toList.length ≤
        raw.toList.length + 1 := by
      split
      · exact Nat.le_succ _
      · rw [String.toList_append, List.length_append]
        exact Nat.le_of_eq (Nat.add_comm _ _)
    have htrim := Rlp.length_trimmed_le decoded
    have hpairs := length_of_hexPairs hdecode
    omega

section

variable [SerdeJson] [LawfulSerdeJson] {payload : Json} {tx : LegacyTransaction}

variable {field : String}

theorem length_payloadStr {text : String} (h : payloadStr payload field = .ok text) :
    text.toList.length ≤ (SerdeJson.toVec payload).length := by
  rw [payloadStr, okOr_eq_ok] at h
  exact (length_toList_le text).trans (LawfulSerdeJson.length_le_toVec h)

variable {bytes : List UInt8}

theorem length_payloadQuantityBytes (h : payloadQuantityBytes payload field = .ok bytes) :
    bytes.length ≤ (SerdeJson.toVec payload).length + 1 := by
  simp only [payloadQuantityBytes, Codec.bind_eq_ok] at h
  obtain ⟨text, htext, hbytes⟩ := h
  exact (length_hexQuantityBytes hbytes).trans (Nat.succ_le_succ (length_payloadStr htext))

theorem length_payloadHexBytes (h : payloadHexBytes payload field = .ok bytes) :
    bytes.length ≤ (SerdeJson.toVec payload).length := by
  simp only [payloadHexBytes, Codec.bind_eq_ok] at h
  obtain ⟨text, htext, hbytes⟩ := h
  exact (length_hexPrefixedBytes hbytes).trans (length_payloadStr htext)

theorem length_payloadEvmAddressBytes (h : payloadEvmAddressBytes payload field = .ok bytes) :
    bytes.length ≤ (SerdeJson.toVec payload).length := by
  simp only [payloadEvmAddressBytes, Codec.bind_eq_ok] at h
  obtain ⟨text, htext, -, -, hbytes⟩ := h
  exact (length_hexPrefixedBytes hbytes).trans (length_payloadStr htext)

/-- The fields of a payload of an approval are no longer than the payload. -/
theorem fits_of_ofPayload (h : LegacyTransaction.ofPayload payload = .ok tx)
    (hsize : (SerdeJson.toVec payload).length ≤ MAX_APPROVAL_PAYLOAD_BYTES) : tx.Fits := by
  have hmax : MAX_APPROVAL_PAYLOAD_BYTES + 1 < 2 ^ 32 := by decide
  simp only [LegacyTransaction.ofPayload, Codec.bind_eq_ok, pure_eq_ok] at h
  obtain ⟨-, -, nonce, hnonce, gasPrice, hgasPrice, gasLimit, hgasLimit, toAddress, htoAddress,
    value, hvalue, data, hdata, rfl⟩ := h
  have hnonce := length_payloadQuantityBytes hnonce
  have hgasPrice := length_payloadQuantityBytes hgasPrice
  have hgasLimit := length_payloadQuantityBytes hgasLimit
  have htoAddress := length_payloadEvmAddressBytes htoAddress
  have hvalue := length_payloadQuantityBytes hvalue
  have hdata := length_payloadHexBytes hdata
  simp only [LegacyTransaction.Fits, List.forall_mem_cons]
  exact ⟨by omega, by omega, by omega, by omega, by omega, by omega, fun _ h => by cases h⟩

end

/-! ## 2. What is signed -/

/-- The chain that a chain namespace names. -/
def NamesChain (chainNamespace : String) (chainId : Nat) : Prop :=
  ∃ named, eip155ChainId chainNamespace = .ok named ∧ named.toNat = chainId

/-- The payload names the chain that the request for the approval names. -/
def PayloadNamesChain (request : WalletApprovalRequest) : Prop :=
  ∃ chainId, payloadU64 request.payload "chain_id" = .ok chainId ∧
    NamesChain request.chainNamespace chainId.toNat

/-- An id that comes out of the payload is the named one exactly if the payload names it. -/
theorem namesChain_iff {request : WalletApprovalRequest} {chainId? : Option Nat}
    (h : ∃ chainId, payloadU64 request.payload "chain_id" = .ok chainId ∧
      chainId? = some chainId.toNat) :
    (∃ chainId, chainId? = some chainId ∧ NamesChain request.chainNamespace chainId) ↔
      PayloadNamesChain request := by
  obtain ⟨chainId, hpayload, rfl⟩ := h
  constructor
  · rintro ⟨found, hfound, hnames⟩
    exact ⟨chainId, hpayload, (Option.some.inj hfound) ▸ hnames⟩
  · rintro ⟨other, hother, hnames⟩
    have hsame : other = chainId := Except.ok.inj (hother.symm.trans hpayload)
    exact ⟨chainId.toNat, rfl, hsame ▸ hnames⟩

section

variable [WalletSigner]

/-- These are the bytes that the key has signed: the output is the transaction with that
signature. -/
def SignsBytes (signingKey : SigningKey) (request : WalletApprovalRequest)
    (signed : ManagedSignatureOutput) (signingPayload : List UInt8) : Prop :=
  ∃ tx signature recoveryId v, LegacyTransaction.ofPayload request.payload = .ok tx ∧
    signingPayload = tx.signingPayload ∧
    signPrehashRecoverable signingKey (keccak256 signingPayload) = some (signature, recoveryId) ∧
    tx.recoveryValue recoveryId = some v ∧
    signed.authority = "0x" ++ hexEncode (tx.signedTransaction v
      ((signatureToBytes signature).toList.take 32) ((signatureToBytes signature).toList.drop 32))

variable {signingKey : SigningKey} {request : WalletApprovalRequest}
  {signed : ManagedSignatureOutput}

theorem signedChainId_of_signsBytes [SerdeJson] [LawfulSerdeJson] {signingPayload : List UInt8}
    (hsize : (SerdeJson.toVec request.payload).length ≤ MAX_APPROVAL_PAYLOAD_BYTES)
    (h : SignsBytes signingKey request signed signingPayload) :
    ∃ chainId, payloadU64 request.payload "chain_id" = .ok chainId ∧
      signedChainId signingPayload = some chainId.toNat := by
  obtain ⟨tx, -, -, -, htx, rfl, -⟩ := h
  have hfits := fits_of_ofPayload htx hsize
  simp only [LegacyTransaction.ofPayload, Codec.bind_eq_ok, pure_eq_ok] at htx
  obtain ⟨chainId, hchainId, _, _, _, _, _, _, _, _, _, _, _, _, rfl⟩ := htx
  exact ⟨chainId, hchainId, signedChainId_signingPayload hfits⟩

variable [Curves] [Crypto] [SerdeJson] [BitcoinCrate]

theorem signsBytes_of_signManagedApproval (hintent : request.intent = "transaction_intent")
    (h : signManagedApproval signingKey request = .ok signed) :
    ∃ signingPayload, SignsBytes signingKey request signed signingPayload := by
  rw [signManagedApproval, hintent, if_neg (by decide), if_neg (by decide)] at h
  split at h
  · cases h
  · rw [if_neg (by decide), if_neg (by decide), if_neg (by decide), if_pos rfl] at h
    simp only [signEip155LegacyTransaction, Codec.bind_eq_ok, okOr_eq_ok, pure_eq_ok] at h
    obtain ⟨⟨authority, payload⟩, ⟨-, -, tx, htx, ⟨signature, recoveryId⟩, hsign, v, hv, heq⟩,
      rfl⟩ := h
    obtain ⟨rfl, -⟩ := Prod.mk.inj heq
    exact ⟨tx.signingPayload, tx, signature, recoveryId, v, htx, rfl, hsign, hv, rfl⟩

end

/-! ## 3. Runs -/

section

variable [Curves] [Crypto] [WalletSigner] [BitcoinCrate] [Custody.Aes256Gcm] [SerdeJson]

/-- The payload of an approval is as long as it may be. -/
theorem Accepts.length_payload_le {e : Event} {b : WalletApprovalRequest} (h : Accepts e b) :
    (SerdeJson.toVec b.payload).length ≤ MAX_APPROVAL_PAYLOAD_BYTES := by
  have hvalid : ∀ {input : SignatureRequestInput} {now : Nat}, input.validate now = .ok () →
      (SerdeJson.toVec input.payload).length ≤ MAX_APPROVAL_PAYLOAD_BYTES := by
    intro input now hinput
    simp only [SignatureRequestInput.validate, Codec.bind_eq_ok, failIf_eq_ok, exists_unit, not_or]
      at hinput
    obtain ⟨-, -, -, -, -, -, -, -, -, -, -, -, -, ⟨-, hsize⟩, -⟩ := hinput
    exact Nat.le_of_not_lt hsize
  cases h with
  | approval _ haccepted => exact hvalid haccepted.valid
  | rights _ haccepted => exact hvalid haccepted.valid

variable [DerivedSerialize] [ElastosAuth]

variable {history : List Event} {e : Event} {requestId reason : String} {time begun : Nat}
  {p : WalletProvider}

/-- What an external wallet was handed, and of which approval. -/
theorem Occurred.handedOff (h : Occurred history e)
    (hoperation : e.request.operation = .approveConnectorHandoff requestId reason) :
    ∃ b handoff, e.reply = .handoff b handoff ∧ externalWalletHandoff b = .ok handoff ∧
      ∃ e₀ ∈ history, Accepts e₀ b.asked := by
  obtain ⟨after, hleaves⟩ := h.leaves
  rw [Event.Leaves, dispatchWalletOperation, hoperation] at hleaves
  simp only [does_bind, does_pure] at hleaves
  obtain ⟨⟨b, handoff⟩, _, hdoes, hreply, -⟩ := hleaves
  obtain ⟨a, ha, -, -, -, -, -, rfl, hhandoff, -⟩ := approveConnectorHandoff_effect hdoes
  exact ⟨_, handoff, hreply.symm, hhandoff, (h.sound.lived a ha).exists_accepts⟩

/-- What a managed key has signed, and of which approval. -/
theorem Occurred.signed (h : Occurred history e)
    (hoperation : e.request.operation = .approveAndSignManaged requestId reason) :
    ∃ a b receipt signed signingKey, e.reply = .signed b receipt signed ∧ a.asked = b.asked ∧
      signManagedApproval signingKey a = .ok signed ∧ ∃ e₀ ∈ history, Accepts e₀ b.asked := by
  obtain ⟨after, hleaves⟩ := h.leaves
  rw [Event.Leaves, dispatchWalletOperation, hoperation] at hleaves
  simp only [does_bind, does_pure] at hleaves
  obtain ⟨⟨b, receipt, signed⟩, _, hdoes, hreply, -⟩ := hleaves
  obtain ⟨a, ha, -, -, -, -, -, -, -, ⟨signingKey, _, -, hsigning⟩, rfl, -⟩ :=
    approveAndSignManaged_effect h.sound.unique hdoes
  exact ⟨_, _, receipt, signed, signingKey, hreply.symm, rfl, hsigning.signs,
    (h.sound.lived a ha).exists_accepts⟩

/-- **The chain that is signed for**, and the chain that is handed off, is the one the approval was
asked for exactly if its payload was for that chain. -/
theorem signed_chain_iff [LawfulSerdeJson] (hrun : Run true (.stopped none) begun history time p) :
    (∀ e ∈ history, ∀ requestId reason,
      e.request.operation = .approveConnectorHandoff requestId reason →
      ∃ b handoff, e.reply = .handoff b handoff ∧ (∃ e₀ ∈ history, Accepts e₀ b.asked) ∧
        (b.intent = "transaction_intent" →
          ((∃ chainId, handoffChainId handoff = some chainId ∧
            NamesChain b.chainNamespace chainId) ↔ PayloadNamesChain b))) ∧
    ∀ e ∈ history, ∀ requestId reason,
      e.request.operation = .approveAndSignManaged requestId reason →
      ∃ b receipt signed, e.reply = .signed b receipt signed ∧
        (∃ e₀ ∈ history, Accepts e₀ b.asked) ∧
        (b.intent = "transaction_intent" →
          ∃ signingKey signingPayload, SignsBytes signingKey b signed signingPayload ∧
            ((∃ chainId, signedChainId signingPayload = some chainId ∧
              NamesChain b.chainNamespace chainId) ↔ PayloadNamesChain b)) := by
  have hoccurred := hrun.occurred (SoundProvider.stopped fun _ h => by cases h)
  constructor
  · intro e he requestId reason hoperation
    obtain ⟨b, handoff, hreply, hhandoff, haccepted⟩ := (hoccurred e he).handedOff hoperation
    refine ⟨b, handoff, hreply, haccepted, fun hintent => ?_⟩
    exact namesChain_iff (handoffChainId_of_externalWalletHandoff hintent hhandoff)
  · intro e he requestId reason hoperation
    obtain ⟨a, b, receipt, signed, signingKey, hreply, hasked, hsigned, haccepted⟩ :=
      (hoccurred e he).signed hoperation
    refine ⟨b, receipt, signed, hreply, haccepted, fun hintent => ?_⟩
    -- the approval that was signed is the completed one but for what completing it has added
    have hpayload : a.payload = b.payload := congrArg (·.payload) hasked
    have hintent' : a.intent = b.intent := congrArg (·.intent) hasked
    obtain ⟨signingPayload, hbytes⟩ :=
      signsBytes_of_signManagedApproval (hintent'.trans hintent) hsigned
    rw [SignsBytes, hpayload] at hbytes
    obtain ⟨e₀, -, haccepts⟩ := haccepted
    exact ⟨signingKey, signingPayload, hbytes,
      namesChain_iff (signedChainId_of_signsBytes haccepts.length_payload_le hbytes)⟩

end

/-! ## 4. A transaction asked for on one chain and handed off for another -/

/-- Libraries to evaluate the model with: a signature says nothing and everything verifies. -/
@[reducible] def plainSigner : WalletSigner where
  toWalletCurve := constantWallet
  SigningKey := Unit
  signingKeyFromSlice := fun _ => some ()
  signingKeyToBytes := fun _ => List.replicate 32 1
  encodedPoint := fun _ => 4 :: List.replicate 64 0
  compressedPoint := fun _ => 2 :: List.replicate 32 0
  signPrehashRecoverable := fun _ _ => some ((), 0)
  signatureToBytes := fun _ => Bytes.zero 64
  signatureToDer := fun _ => []
  signatureFromDer := fun _ => some ()
  verifyPrehash := fun _ _ _ => some true

@[reducible] def plainBitcoin : BitcoinCrate where
  Address := Unit
  addressFromStr := fun _ => none
  addressToString := fun _ => ""
  scriptPubkey := fun _ => []
  isP2pkh := fun _ => false
  isP2sh := fun _ => false
  p2pkh := fun _ => none
  p2shwpkh := fun _ => none
  p2wpkh := fun _ => none
  hash160 := fun _ => Bytes.zero 20
  sha256d := fun _ => Bytes.zero 32
  computeTxid := fun _ => Bytes.zero 32
  p2wpkhSignatureHash := fun _ _ => none
  taprootSignatureHash := fun _ _ _ => none
  taprootSignatureFromSlice := fun _ => none
  verifySchnorr := fun _ _ _ => none
  deserializeWitness := fun _ => none
  serializeWitness := fun _ => []
  base64Decode := fun _ => none
  base64Encode := fun _ => ""

@[reducible] def plainAes : Custody.Aes256Gcm where
  encrypt := fun _ _ msg _ => some msg
  decrypt := fun _ _ msg _ => some msg

@[reducible] def plainJson : SerdeJson where
  toVec := Json.encode
  fromStr := fun _ => .error "no text"

@[reducible] def plainSerialize : DerivedSerialize where
  operationValue := fun _ => .null
  recoverySetValue := fun _ => .null

@[reducible] def plainAuth : ElastosAuth where
  validateSiweOriginBinding := fun _ _ => .ok ()
  checksumEvmAddress := id
  rfc3339 := fun _ => ""
  parseSiweMessage := fun _ => .error "no message"

theorem plainJson_lawful : @LawfulSerdeJson plainJson :=
  @LawfulSerdeJson.mk plainJson Json.encode_injective Json.length_le_encode

namespace Sample

attribute [local instance] acceptingCurves keyEchoCrypto plainSigner plainBitcoin plainAes plainJson
  plainSerialize plainAuth

def request (operation : WalletProviderOperationV2) (requestId : String)
    (issuedAt expiresAt : UInt64) : WalletProviderRequestV2 :=
  let authority : WalletAuthorityV2 :=
    ⟨"owner", "session", none, "grant", "wallet-link", "launch", operation.capability,
      operation.authorityIntent⟩
  let bound : WalletProviderRequestV2 :=
    { schema := WALLET_REQUEST_SCHEMA
      protocolVersion := WALLET_PROTOCOL_VERSION
      requestId := requestId
      issuedAt := issuedAt
      expiresAt := expiresAt
      authority := authority
      operation := operation
      requestSha256 := requestHash operation
      sessionBinding := deriveSessionBinding authority
      accountBinding := okValue none (operation.accountId.mapM (deriveAccountBinding "owner"))
      approvalBinding :=
        okValue none (operation.approvalRequestId.mapM (deriveApprovalBinding "owner"))
      lifecycleId := ""
      auditId := "" }
  { bound with
    lifecycleId := bound.deriveLifecycleId
    auditId := WalletProviderRequestV2.deriveAuditId bound.deriveLifecycleId bound.requestSha256 }

theorem request_valid {operation : WalletProviderOperationV2} {requestId : String}
    {issuedAt expiresAt : UInt64} {now : Nat} (hid : validateRequestId requestId = .ok ())
    (hlifetime : validateLifetime issuedAt expiresAt now = .ok ())
    (hcapability : validateToken "capability" operation.capability 128 = .ok ())
    (hintent : validateToken "intent" operation.authorityIntent 128 = .ok ())
    (hoperation : operation.validate = .ok ())
    (haccount : ∃ b, operation.accountId.mapM (deriveAccountBinding "owner") = .ok b)
    (happroval : ∃ b, operation.approvalRequestId.mapM (deriveApprovalBinding "owner") = .ok b) :
    (request operation requestId issuedAt expiresAt).validateAt now = .ok () := by
  have hversion : requireExactVersion WALLET_REQUEST_SCHEMA WALLET_PROTOCOL_VERSION
    WALLET_REQUEST_SCHEMA = .ok () := by decide
  have hauthority : (request operation requestId issuedAt expiresAt).authority.validate =
      .ok () := by
    simp only [request, WalletAuthorityV2.validate, hcapability, hintent]
    decide
  simp only [WalletProviderRequestV2.validateAt, Codec.bind_eq_ok, failIf_eq_ok, exists_unit]
  refine ⟨hversion, hid, hlifetime, hauthority, hoperation, ?_, ?_, ?_, _, eq_okValue none haccount,
    ?_, _, eq_okValue none happroval, ?_, ?_, ?_⟩
  · exact fun h => h.elim (fun h => h rfl) fun h => h rfl
  all_goals exact fun h => h rfl

/-- A clock that stands still for a request, and a file that can be written and read. -/
def occasion (now : Nat) : Occasion where
  now := now
  circumstances := ⟨fun _ => now, fun _ => Bytes.zero 12, [], Bytes.zero 16, Bytes.zero 12⟩
  fate := ⟨.saved, true⟩

variable {restarts : Bool} {start : WalletProvider} {history : List Event}
  {begun time now : Nat} {p : WalletProvider} {r : WalletProviderRequestV2} {reply : Reply} {changed : WalletStore}

theorem run_step (hrun : Run restarts start begun history time p) (hlater : time ≤ now)
    (h : Attempted p (occasion now) r) (hleaves : (eventOf p (occasion now) r reply).Leaves changed) :
    Run restarts start begun (history ++ [eventOf p (occasion now) r reply]) now
      { p with
        store := recordLifecycle r now changed
        disk := some (recordLifecycle r now changed) } :=
  hrun.saved_step hlater (fun _ => rfl) rfl h hleaves

def storageKey : Option (Bytes 32) := some (Bytes.zero 32)

/-! ### The account is linked -/

def address : String := "0x1111111111111111111111111111111111111111"

def linkRequest : WalletProviderRequestV2 :=
  request (.linkVerifiedAccount "proof" "eip155:1" address "siwe" none)
    "wallet-request:00000000000000000000000000000001" 100 130

def account : LinkedAccount where
  accountId := accountId "eip155:1" address
  principalId := "owner"
  proofBindingId := "proof"
  chainNamespace := "eip155:1"
  address := address
  proofType := "siwe"
  connectorId := some "wallet-link"
  label := none
  linkedAt := 100
  revokedAt := none

def started : WalletProvider := ⟨storageKey, WalletStore.empty, none⟩

theorem started_run : Run true (.stopped none) 0 [] 0 started :=
  Run.restart Run.start rfl storageKey ⟨.saved, true⟩ 0 (Nat.le_refl 0)

theorem linkRequest_attempted : Attempted started (occasion 100) linkRequest where
  valid := request_valid (by decide) (by decide) (by decide) (by decide) (by decide)
    ⟨none, rfl⟩ ⟨none, rfl⟩
  effectful := rfl
  unanswered := rfl

theorem link_leaves :
    (eventOf started (occasion 100) linkRequest (.account account)).Leaves
      { WalletStore.empty with accounts := [account] } := by
  refine does_bind.mpr ⟨account, _, ?_, rfl⟩
  refine Does.check (a := ()) rfl (Does.check (a := ()) ?_ rfl)
  rw [refuse_eq_ok]
  decide

def linked : WalletProvider :=
  let store := recordLifecycle linkRequest 100 { WalletStore.empty with accounts := [account] }
  ⟨storageKey, store, some store⟩

theorem linked_run (hstart : Run restarts start 0 [] 0 started) : Run restarts start 0
    [eventOf started (occasion 100) linkRequest (.account account)] 100 linked :=
  run_step hstart (Nat.zero_le 100) linkRequest_attempted link_leaves

/-! ### A transaction is asked for on the first chain, with a payload for the fifth -/

def approvalRequestId : String := "wallet-request:00000000000000000000000000000002"

def payload : Json :=
  .object
    [("chain_id", .number (.posInt 5)),
      ("data", .string "0x"),
      ("from", .string address),
      ("gas_limit", .string "0x5208"),
      ("gas_price", .string "0x1"),
      ("network", .object [("id", .string "goerli")]),
      ("nonce", .string "0x0"),
      ("requires_wallet_approval", .bool true),
      ("schema", .string "elastos.chain.unsigned_transaction_intent/v1"),
      ("to", .string address),
      ("transaction_type", .string "eip155_legacy"),
      ("value", .string "0x1"),
      ("wallet_intent", .string "transaction_intent")]

def askRequest : WalletProviderRequestV2 :=
  request (.requestApproval (accountId "eip155:1" address) "eip155:1" "transaction_intent"
    "elastos://wallet" "pay" payload 1000) approvalRequestId 200 230

def input : SignatureRequestInput :=
  approvalInput askRequest (accountId "eip155:1" address) "eip155:1" "transaction_intent"
    "elastos://wallet" "pay" payload 1000

def asked : WalletApprovalRequest := newApprovalRequest input account 200

theorem payload_size : ¬MAX_APPROVAL_PAYLOAD_BYTES < (SerdeJson.toVec payload).length := by
  decide +kernel

theorem askRequest_attempted : Attempted linked (occasion 200) askRequest where
  valid := by
    refine request_valid (by decide) (by decide) (by decide) (by decide) ?_ ⟨_, rfl⟩ ⟨none, rfl⟩
    simp only [WalletProviderOperationV2.validate, Codec.bind_eq_ok, exists_unit, validateJsonSize,
      failIf_eq_ok]
    exact ⟨by decide, by decide, by decide, by decide, by decide, by decide, by decide,
      payload_size, by decide⟩
  effectful := rfl
  unanswered := by decide

theorem input_valid : input.validate 200 = .ok () := by
  simp only [SignatureRequestInput.validate, Codec.bind_eq_ok, exists_unit, failIf_eq_ok, not_or]
  refine ⟨by decide, by decide, by decide, by decide, by decide, by decide, by decide, by decide,
    by decide, by decide, by decide, by decide, by decide, ⟨?_, payload_size⟩, by decide, by decide⟩
  intro hnil
  cases hnil

def askedStore : WalletStore :=
  { pruneStore (pruneExpiredLifecycles linked.store 200) 200 with approvalRequests := [asked] }

theorem payload_accepted : validateEip155TransactionIntentPayload payload account = .ok () := by
  decide

theorem ask_leaves :
    (eventOf linked (occasion 200) askRequest (.requested asked true)).Leaves askedStore := by
  refine does_bind.mpr ⟨asked, askedStore, ?_, rfl⟩
  refine Does.check (a := ()) rfl (Does.check (a := ()) ?_ ?_)
  · rw [refuse_eq_ok]
    exact input_valid
  · refine does_updates.mpr (does_reads.mpr ?_)
    refine Does.check (a := account) (by decide) (Does.check (a := ()) rfl ?_)
    refine Does.check (a := ()) (by decide) (Does.check (a := ()) (by decide) ?_)
    refine Does.check (a := ()) ?_ (Does.check (a := ()) (by decide) rfl)
    have hintent : input.intent = "transaction_intent" := rfl
    exact (if_pos hintent).trans (congrArg _ payload_accepted)

def awaiting : WalletProvider :=
  let store := recordLifecycle askRequest 200 askedStore
  ⟨storageKey, store, some store⟩

theorem awaiting_run (hstart : Run restarts start 0 [] 0 started) : Run restarts start 0
    [eventOf started (occasion 100) linkRequest (.account account),
      eventOf linked (occasion 200) askRequest (.requested asked true)] 200 awaiting :=
  run_step (linked_run hstart) (by decide) askRequest_attempted ask_leaves

/-! ### It is handed to an external wallet -/

def handoffRequest : WalletProviderRequestV2 :=
  request (.approveConnectorHandoff approvalRequestId "yes")
    "wallet-request:00000000000000000000000000000003" 300 330

def approved : WalletApprovalRequest := asked.approve 300 "yes"

def handoff : Json :=
  .object
    [("intent", .string "transaction_intent"),
      ("payload_hash", .string asked.payloadHash),
      ("request_id", .string approvalRequestId),
      ("schema", .string "elastos.wallet.webconnect_handoff/v1"),
      ("signer", .string address),
      ("status", .string "awaiting_wallet_transaction"),
      ("transaction", .object
        [("chainId", .string ("0x" ++ hexNumber 5)),
          ("data", .string "0x"),
          ("from", .string address),
          ("gas", .string "0x5208"),
          ("gasPrice", .string "0x1"),
          ("nonce", .string "0x0"),
          ("to", .string address),
          ("value", .string "0x1")])]

theorem awaiting_approvals {now : Nat} (hunexpired : now < 1000) :
    (pruneStore (pruneExpiredLifecycles awaiting.store now) now).approvalRequests = [asked] := by
  have hrecorded : awaiting.store.approvalRequests = [asked] :=
    pruneApprovals_singleton rfl (by decide)
  have hpruned : pruneApprovals [asked] now = [asked] := pruneApprovals_singleton rfl hunexpired
  rw [pruneStore_approvalRequests]
  exact (congrArg (pruneApprovals · now) hrecorded).trans hpruned

theorem handoffRequest_attempted : Attempted awaiting (occasion 300) handoffRequest where
  valid := request_valid (by decide) (by decide) (by decide) (by decide) (by decide)
    ⟨none, rfl⟩ ⟨_, rfl⟩
  effectful := rfl
  unanswered := rfl

def handedOffStore : WalletStore :=
  setApproval approved (pruneStore (pruneExpiredLifecycles awaiting.store 300) 300)

theorem handoff_leaves :
    (eventOf awaiting (occasion 300) handoffRequest (.handoff approved handoff)).Leaves
      handedOffStore := by
  have hfound : (pruneStore (pruneExpiredLifecycles awaiting.store 300) 300).approvalRequests.find?
      (isRequest "owner" approvalRequestId) = some asked := by
    rw [awaiting_approvals (by decide)]
    decide
  refine does_bind.mpr ⟨(approved, handoff), handedOffStore, ?_, rfl⟩
  refine Does.check (a := ()) rfl (Does.check (a := ()) ?_ ?_)
  · rw [refuse_eq_ok]
    decide
  · refine does_updates.mpr (does_reads.mpr ?_)
    refine Does.check (a := asked) (congrArg (okOr · _) hfound) (Does.check (a := ()) (by decide) ?_)
    refine Does.check (a := ()) (by decide) (Does.check (a := ()) (by decide) ?_)
    exact does_updates.mpr (Does.check (a := handoff) rfl rfl)

def handoffEvent : Event :=
  eventOf awaiting (occasion 300) handoffRequest (.handoff approved handoff)

def handedOff : WalletProvider :=
  let store := recordLifecycle handoffRequest 300 handedOffStore
  ⟨storageKey, store, some store⟩

theorem handoff_run (hstart : Run restarts start 0 [] 0 started) : Run restarts start 0
    [eventOf started (occasion 100) linkRequest (.account account),
      eventOf linked (occasion 200) askRequest (.requested asked true), handoffEvent] 300
    handedOff :=
  run_step (awaiting_run hstart) (by decide) handoffRequest_attempted handoff_leaves

theorem namesChain_approved {chainId : Nat} : NamesChain approved.chainNamespace chainId ↔
    chainId = 1 := by
  have hnamed : eip155ChainId approved.chainNamespace = .ok 1 := by decide
  constructor
  · rintro ⟨named, hnamed', rfl⟩
    rw [← Except.ok.inj (hnamed.symm.trans hnamed')]
    rfl
  · rintro rfl
    exact ⟨1, hnamed, rfl⟩

/-- A transaction that was asked for on the first chain is handed off for the fifth. -/
theorem handed_off_for_another_chain :
    ∃ history time p, Run true (.stopped none) 0 history time p ∧ handoffEvent ∈ history ∧
      handoffEvent.reply = .handoff approved handoff ∧ approved.intent = "transaction_intent" ∧
      (∃ e₀ ∈ history, Accepts e₀ approved.asked) ∧ handoffChainId handoff = some 5 ∧
      NamesChain approved.chainNamespace 1 ∧ ¬NamesChain approved.chainNamespace 5 := by
  have hmem : handoffEvent ∈ [eventOf started (occasion 100) linkRequest (.account account),
      eventOf linked (occasion 200) askRequest (.requested asked true), handoffEvent] :=
    List.mem_cons_of_mem _ (List.mem_cons_of_mem _ List.mem_cons_self)
  have hoccurred := (handoff_run started_run).occurred (SoundProvider.stopped fun _ h => by cases h) _ hmem
  obtain ⟨b, h, hreply, -, haccepted⟩ := hoccurred.handedOff
    (show handoffRequest.operation = .approveConnectorHandoff approvalRequestId "yes" from rfl)
  cases hreply
  refine ⟨_, _, _, handoff_run started_run, hmem, rfl, rfl, haccepted, ?_, namesChain_approved.mpr rfl,
    fun hnames => absurd (namesChain_approved.mp hnames) (by decide)⟩
  have hread : parseHexNumber ("0x" ++ hexNumber 5) = some 5 := parseHexNumber_hexNumber 5
  exact hread

/-- The handed-off chain is the one asked for exactly if the payload's is, which it is not. -/
theorem signed_chain_iff_handoff :
    ((∃ chainId, handoffChainId handoff = some chainId ∧
      NamesChain approved.chainNamespace chainId) ↔ PayloadNamesChain approved) := by
  have hlawful := plainJson_lawful
  obtain ⟨b, h, hreply, -, hiff⟩ := (signed_chain_iff (handoff_run started_run)).1 handoffEvent
    (List.mem_cons_of_mem _ (List.mem_cons_of_mem _ List.mem_cons_self)) approvalRequestId "yes" rfl
  cases hreply
  exact hiff rfl

end Sample

end ElastosRuntime.Wallet
