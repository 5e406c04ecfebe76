/-
# The creator state as JSON

The one part of a mint record that is not written field by field: `serde_json::to_vec` of the
creator state.  The writer is spelled out here, since a record must fit in its file and most of
what varies in one is this text; the reader, `serde_json::from_slice`, is a parameter that undoes
it (`CreatorJson`).

Where the state passes its check the text has at most 15900 bytes (`length_toVec`): every text is
printable, so an escape takes two bytes at most, and a quantity has at most 32 significant bytes.

That there is such a reader is shown by one (`canonicalCreatorJson`), which reads objects whose
members stand in the order in which they are written.
-/
import Mathlib.Data.Nat.Digits.Lemmas
import ElastosRuntime.Mint.Records

namespace ElastosRuntime.MintJournal

open Codec Contracts

/-! ## 1. The writer -/

/-- How a byte of a string is written: control characters, quotes and backslashes are escaped. -/
def jsonEscape (byte : UInt8) : List UInt8 :=
  if byte = 0x22 then [0x5c, 0x22]
  else if byte = 0x5c then [0x5c, 0x5c]
  else if byte = 0x08 then [0x5c, 0x62]
  else if byte = 0x09 then [0x5c, 0x74]
  else if byte = 0x0a then [0x5c, 0x6e]
  else if byte = 0x0c then [0x5c, 0x66]
  else if byte = 0x0d then [0x5c, 0x72]
  else if byte < 0x20 then
    [0x5c, 0x75, 0x30, 0x30, hexDigit (byte >>> 4), hexDigit (byte &&& 0x0f)]
  else [byte]

def jsonString (value : String) : List UInt8 :=
  0x22 :: ((utf8Bytes value).flatMap jsonEscape ++ [0x22])

def jsonNumber (value : Nat) : List UInt8 :=
  if value = 0 then [0x30]
  else (Nat.digits 10 value).reverse.map fun digit => 0x30 + UInt8.ofNat digit

def jsonNull : List UInt8 := utf8Bytes "null"

/-- A member of an object, behind the brace that opens it or the comma before it. -/
def jsonMember (opening : UInt8) (name : String) (value : List UInt8) : List UInt8 :=
  opening :: (jsonString name ++ 0x3a :: value)

/-- `{`, `,` and `}` -/
def BRACE : UInt8 := 0x7b
def COMMA : UInt8 := 0x2c
def CLOSE : List UInt8 := [0x7d]

def RuntimeMintCreatorDesiredTerms.toVec (v : RuntimeMintCreatorDesiredTerms) : List UInt8 :=
  jsonMember BRACE "wallet_account_id" (jsonString v.walletAccountId) ++
    jsonMember COMMA "copies" (jsonString v.copies) ++
    jsonMember COMMA "price" (jsonString v.price) ++ CLOSE

def RuntimeMintCreatorEffectBinding.toVec (v : RuntimeMintCreatorEffectBinding) : List UInt8 :=
  jsonMember BRACE "effect_id" (jsonString v.effectId) ++
    jsonMember COMMA "approval_request_id" (jsonString v.approvalRequestId) ++
    jsonMember COMMA "request_sha256" (jsonString v.requestSha256) ++
    jsonMember COMMA "account_id" (jsonString v.accountId) ++
    jsonMember COMMA "address" (jsonString v.address) ++
    jsonMember COMMA "chain_namespace" (jsonString v.chainNamespace) ++
    jsonMember COMMA "network" (jsonString v.network) ++ CLOSE

def RuntimeMintCreatorTerminalEvidence.toVec (v : RuntimeMintCreatorTerminalEvidence) :
    List UInt8 :=
  jsonMember BRACE "metadata_cid" (jsonString v.metadataCid) ++
    jsonMember COMMA "token_uri" (jsonString v.tokenUri) ++
    jsonMember COMMA "seller" (jsonString v.seller) ++
    jsonMember COMMA "chain_namespace" (jsonString v.chainNamespace) ++
    jsonMember COMMA "network" (jsonString v.network) ++
    jsonMember COMMA "ledger" (jsonString v.ledger) ++
    jsonMember COMMA "token_id" (jsonString v.tokenId) ++
    jsonMember COMMA "operative" (jsonString v.operative) ++
    jsonMember COMMA "quantity" (jsonString v.quantity) ++
    jsonMember COMMA "price" (jsonString v.price) ++
    jsonMember COMMA "pay_token" (jsonString v.payToken) ++
    jsonMember COMMA "payment_processor" (v.paymentProcessor.elim jsonNull jsonString) ++
    jsonMember COMMA "transaction_hash" (jsonString v.transactionHash) ++
    jsonMember COMMA "published_at" (jsonNumber v.publishedAt.toNat) ++ CLOSE

/-- `serde_json::to_vec`: the last three members are left out while there is nothing in them. -/
def RuntimeMintCreatorState.toVec (v : RuntimeMintCreatorState) : List UInt8 :=
  jsonMember BRACE "desired_terms" v.desiredTerms.toVec ++
    jsonMember COMMA "metadata_cid" (jsonString v.metadataCid) ++
    jsonMember COMMA "token_uri" (jsonString v.tokenUri) ++
    v.effect.elim [] (fun effect => jsonMember COMMA "effect" effect.toVec) ++
    v.operatorApproval.elim [] (fun effect =>
      jsonMember COMMA "operator_approval" effect.toVec) ++
    v.terminal.elim [] (fun terminal => jsonMember COMMA "terminal" terminal.toVec) ++ CLOSE

/-- `serde_json::from_slice`, which reads what `serde_json::to_vec` wrote. -/
class CreatorJson where
  fromSlice : List UInt8 → Option RuntimeMintCreatorState
  fromSlice_toVec : ∀ v : RuntimeMintCreatorState, fromSlice v.toVec = some v

/-! ## 2. How long it gets -/

variable {value : String}

theorem text_of_validate (h : validateIntentText value = .ok ()) :
    (utf8Bytes value).length ≤ 256 ∧
      (utf8Bytes value).all (fun byte => 0x21 ≤ byte && byte ≤ 0x7e) = true := by
  rw [validateIntentText, validateAvailabilityText, failIf_eq_ok, not_or, not_or, not_not] at h
  exact ⟨Nat.le_of_not_lt h.2.1, h.2.2⟩

theorem length_jsonEscape {byte : UInt8} (h : 0x20 ≤ byte) : (jsonEscape byte).length ≤ 2 := by
  have hlow : ¬byte < 0x20 := UInt8.not_lt.mpr h
  unfold jsonEscape
  rw [if_neg hlow]
  repeat' split
  all_goals exact Nat.le_of_ble_eq_true rfl

theorem length_jsonString {n : Nat} (hlen : (utf8Bytes value).length ≤ n)
    (h : (utf8Bytes value).all (fun byte => 0x21 ≤ byte && byte ≤ 0x7e) = true) :
    (jsonString value).length ≤ 2 * n + 2 := by
  have hescaped : ∀ bytes : List UInt8, (∀ byte ∈ bytes, (jsonEscape byte).length ≤ 2) →
      (bytes.flatMap jsonEscape).length ≤ 2 * bytes.length := by
    intro bytes
    induction bytes with
    | nil => exact fun _ => Nat.le_refl 0
    | cons byte bytes ih =>
      intro hbytes
      rw [List.flatMap_cons, List.length_append, List.length_cons]
      have hfirst := hbytes byte List.mem_cons_self
      have hrest := ih fun b hb => hbytes b (List.mem_cons_of_mem _ hb)
      omega
  have hall := hescaped (utf8Bytes value) fun byte hbyte => by
    have hprint := List.all_eq_true.mp h byte hbyte
    rw [Bool.and_eq_true, decide_eq_true_eq, decide_eq_true_eq] at hprint
    exact length_jsonEscape (UInt8.le_trans (by decide) hprint.1)
  rw [jsonString, List.length_cons, List.length_append, List.length_singleton]
  omega

theorem length_jsonText (h : validateIntentText value = .ok ()) :
    (jsonString value).length ≤ 514 := by
  obtain ⟨hlen, hprint⟩ := text_of_validate h
  exact length_jsonString hlen hprint

theorem length_decodeIntentHex : ∀ {raw decoded : List UInt8},
    decodeIntentHex raw = some decoded → decoded.length = raw.length / 2
  | [], _, h => by cases h; rfl
  | [_], _, h => by cases h; simp
  | high :: low :: rest, decoded, h => by
    rw [decodeIntentHex] at h
    obtain ⟨_, _, h⟩ := Option.bind_eq_some_iff.mp h
    obtain ⟨_, _, h⟩ := Option.bind_eq_some_iff.mp h
    obtain ⟨tail, htail, h⟩ := Option.bind_eq_some_iff.mp h
    cases h
    rw [List.length_cons, List.length_cons, List.length_cons, length_decodeIntentHex htail]
    omega

/-- A quantity has at most 32 significant bytes. -/
theorem length_jsonQuantity (h : validateCanonicalIntentHexQuantity value = .ok ()) :
    (jsonString value).length ≤ 134 := by
  obtain ⟨_, h, _⟩ := bind_eq_ok.mp h
  obtain ⟨⟨⟩, htext, h⟩ := bind_eq_ok.mp h
  obtain ⟨raw, hraw, h⟩ := bind_eq_ok.mp h
  obtain ⟨⟨⟩, _, h⟩ := bind_eq_ok.mp h
  obtain ⟨decoded, hdecoded, h⟩ := bind_eq_ok.mp h
  obtain ⟨⟨⟩, hshort, _⟩ := bind_eq_ok.mp h
  rw [okOr_eq_ok] at hraw hdecoded
  rw [failIf_eq_ok] at hshort
  have hvalue : (utf8Bytes value).length = raw.length + 2 := by
    unfold stripHexPrefix at hraw
    split at hraw
    · next hbytes =>
      cases hraw
      rw [hbytes, List.length_cons, List.length_cons]
    · cases hraw
  have hpadded := length_decodeIntentHex hdecoded
  have hle : (utf8Bytes value).length ≤ 66 := by
    split at hpadded
    · omega
    · rw [List.length_cons] at hpadded
      omega
  exact length_jsonString hle (text_of_validate htext).2

theorem length_jsonNumber (value : UInt64) : (jsonNumber value.toNat).length ≤ 20 := by
  unfold jsonNumber
  split
  · decide
  · rw [List.length_map, List.length_reverse, Nat.digits_length_le_iff (by decide)]
    exact value.toNat_lt.trans (by decide)

theorem length_jsonMember (opening : UInt8) (name : String) (value : List UInt8) :
    (jsonMember opening name value).length = (jsonString name).length + value.length + 2 := by
  rw [jsonMember, List.length_cons, List.length_append, List.length_cons]
  omega

theorem RuntimeMintCreatorDesiredTerms.length_toVec {v : RuntimeMintCreatorDesiredTerms}
    (h : v.validate = .ok ()) : v.toVec.length ≤ 824 := by
  obtain ⟨⟨⟩, haccount, h⟩ := bind_eq_ok.mp h
  obtain ⟨⟨⟩, hcopies, hprice⟩ := bind_eq_ok.mp h
  have haccount := length_jsonText haccount
  have hcopies := length_jsonQuantity hcopies
  have hprice := length_jsonQuantity hprice
  have hnames : (jsonString "wallet_account_id").length = 19 ∧ (jsonString "copies").length = 8 ∧
      (jsonString "price").length = 7 := by decide
  simp only [toVec, CLOSE, List.length_append, length_jsonMember, List.length_singleton, hnames]
  omega

theorem RuntimeMintCreatorEffectBinding.length_toVec {v : RuntimeMintCreatorEffectBinding}
    (h : v.validate = .ok ()) : v.toVec.length ≤ 3708 := by
  obtain ⟨⟨⟩, h₁, h⟩ := bind_eq_ok.mp h
  obtain ⟨⟨⟩, h₂, h⟩ := bind_eq_ok.mp h
  obtain ⟨⟨⟩, h₃, h⟩ := bind_eq_ok.mp h
  obtain ⟨⟨⟩, h₄, h⟩ := bind_eq_ok.mp h
  obtain ⟨⟨⟩, h₅, h⟩ := bind_eq_ok.mp h
  obtain ⟨⟨⟩, h₆, h₇⟩ := bind_eq_ok.mp h
  have h₁ := length_jsonText h₁
  have h₂ := length_jsonText h₂
  have h₃ := length_jsonText h₃
  have h₄ := length_jsonText h₄
  have h₅ := length_jsonText h₅
  have h₆ := length_jsonText h₆
  have h₇ := length_jsonText h₇
  have hnames : (jsonString "effect_id").length = 11 ∧
      (jsonString "approval_request_id").length = 21 ∧
      (jsonString "request_sha256").length = 16 ∧ (jsonString "account_id").length = 12 ∧
      (jsonString "address").length = 9 ∧ (jsonString "chain_namespace").length = 17 ∧
      (jsonString "network").length = 9 := by decide
  simp only [toVec, CLOSE, List.length_append, length_jsonMember, List.length_singleton, hnames]
  omega

theorem RuntimeMintCreatorTerminalEvidence.length_toVec
    {v : RuntimeMintCreatorTerminalEvidence} (h : v.validate = .ok ()) :
    v.toVec.length ≤ 6520 := by
  obtain ⟨⟨⟩, h₁, h⟩ := bind_eq_ok.mp h
  obtain ⟨⟨⟩, h₂, h⟩ := bind_eq_ok.mp h
  obtain ⟨⟨⟩, h₃, h⟩ := bind_eq_ok.mp h
  obtain ⟨⟨⟩, h₄, h⟩ := bind_eq_ok.mp h
  obtain ⟨⟨⟩, h₅, h⟩ := bind_eq_ok.mp h
  obtain ⟨⟨⟩, h₆, h⟩ := bind_eq_ok.mp h
  obtain ⟨⟨⟩, h₇, h⟩ := bind_eq_ok.mp h
  obtain ⟨⟨⟩, h₈, h⟩ := bind_eq_ok.mp h
  obtain ⟨⟨⟩, h₉, h⟩ := bind_eq_ok.mp h
  obtain ⟨⟨⟩, h₁₀, h⟩ := bind_eq_ok.mp h
  obtain ⟨⟨⟩, h₁₁, h⟩ := bind_eq_ok.mp h
  obtain ⟨⟨⟩, h₁₂, h⟩ := bind_eq_ok.mp h
  obtain ⟨⟨⟩, hprocessor, _⟩ := bind_eq_ok.mp h
  have h₁ := length_jsonText h₁
  have h₂ := length_jsonText h₂
  have h₃ := length_jsonText h₃
  have h₄ := length_jsonText h₄
  have h₅ := length_jsonText h₅
  have h₆ := length_jsonText h₆
  have h₇ := length_jsonText h₇
  have h₈ := length_jsonText h₈
  have h₉ := length_jsonQuantity h₉
  have h₁₀ := length_jsonText h₁₀
  have h₁₁ := length_jsonText h₁₁
  have h₁₂ := length_jsonText h₁₂
  have h₁₃ : (v.paymentProcessor.elim jsonNull jsonString).length ≤ 514 := by
    cases hp : v.paymentProcessor with
    | none => decide
    | some processor =>
      rw [hp] at hprocessor
      exact length_jsonText hprocessor
  have h₁₄ := length_jsonNumber v.publishedAt
  have hnames : (jsonString "metadata_cid").length = 14 ∧ (jsonString "token_uri").length = 11 ∧
      (jsonString "seller").length = 8 ∧ (jsonString "chain_namespace").length = 17 ∧
      (jsonString "network").length = 9 ∧ (jsonString "ledger").length = 8 ∧
      (jsonString "token_id").length = 10 ∧ (jsonString "operative").length = 11 ∧
      (jsonString "quantity").length = 10 ∧ (jsonString "price").length = 7 ∧
      (jsonString "pay_token").length = 11 ∧ (jsonString "payment_processor").length = 19 ∧
      (jsonString "transaction_hash").length = 18 ∧
      (jsonString "published_at").length = 14 := by decide
  simp only [toVec, CLOSE, List.length_append, length_jsonMember, List.length_singleton, hnames]
  omega

/-- An optional member, when what it holds is bounded. -/
theorem length_optional {α : Type} {validate : α → Except RuntimeMintJournalError Unit}
    {toVec : α → List UInt8} {n k : Nat} {v : Option α} (name : String)
    (hlen : ∀ a, validate a = .ok () → (toVec a).length ≤ n)
    (hname : (jsonString name).length = k) (h : v.forM validate = .ok ()) :
    (v.elim [] fun a => jsonMember COMMA name (toVec a)).length ≤ k + n + 2 := by
  cases v with
  | none => exact Nat.zero_le _
  | some a =>
    have ha := hlen a h
    have hmember := length_jsonMember COMMA name (toVec a)
    change (jsonMember COMMA name (toVec a)).length ≤ _
    omega

/-- **A state that passes its check has a bounded text.** -/
theorem RuntimeMintCreatorState.length_toVec {v : RuntimeMintCreatorState}
    (h : v.validate = .ok ()) : v.toVec.length ≤ 15900 := by
  obtain ⟨⟨⟩, hterms, h⟩ := bind_eq_ok.mp h
  obtain ⟨⟨⟩, hcid, h⟩ := bind_eq_ok.mp h
  obtain ⟨⟨⟩, huri, h⟩ := bind_eq_ok.mp h
  obtain ⟨⟨⟩, heffect, h⟩ := bind_eq_ok.mp h
  obtain ⟨⟨⟩, happroval, hterminal⟩ := bind_eq_ok.mp h
  have hterms := RuntimeMintCreatorDesiredTerms.length_toVec hterms
  have hcid := length_jsonText hcid
  have huri := length_jsonText huri
  have heffect := length_optional "effect" (k := 8)
    (fun _ => RuntimeMintCreatorEffectBinding.length_toVec) (by decide) heffect
  have happroval := length_optional "operator_approval" (k := 19)
    (fun _ => RuntimeMintCreatorEffectBinding.length_toVec) (by decide) happroval
  have hterminal := length_optional "terminal" (k := 10)
    (fun _ ht => RuntimeMintCreatorTerminalEvidence.length_toVec
      (bind_eq_ok.mp ht).choose_spec.1) (by decide) hterminal
  have hnames : (jsonString "desired_terms").length = 15 ∧
      (jsonString "metadata_cid").length = 14 ∧ (jsonString "token_uri").length = 11 := by decide
  simp only [toVec, CLOSE, List.length_append, length_jsonMember, List.length_singleton, hnames]
  omega

/-! ## 3. A reader -/

/-- What the letter behind a backslash stands for. -/
def unescapeCode (code : UInt8) : UInt8 :=
  if code = 0x62 then 0x08
  else if code = 0x74 then 0x09
  else if code = 0x6e then 0x0a
  else if code = 0x66 then 0x0c
  else if code = 0x72 then 0x0d
  else code

/-- One character of a string, and what is left. -/
def unescape : List UInt8 → Option (UInt8 × List UInt8)
  | [] => none
  | byte :: rest =>
    if byte = 0x5c then
      match rest with
      | [] => none
      | code :: rest =>
        if code = 0x75 then
          match rest with
          | _ :: _ :: high :: low :: rest => do
            let high ← intentHexValue high
            let low ← intentHexValue low
            some (high <<< 4 ||| low, rest)
          | _ => none
        else
          some (unescapeCode code, rest)
    else
      some (byte, rest)

theorem intentHexValue_hexDigit {byte : UInt8} (h : byte < 0x20) :
    intentHexValue (hexDigit (byte >>> 4)) = some (byte >>> 4) ∧
      intentHexValue (hexDigit (byte &&& 0x0f)) = some (byte &&& 0x0f) ∧
        (byte >>> 4) <<< 4 ||| (byte &&& 0x0f) = byte := by
  have hall : ∀ n : Fin 32, let byte := UInt8.ofNat n.val
      intentHexValue (hexDigit (byte >>> 4)) = some (byte >>> 4) ∧
        intentHexValue (hexDigit (byte &&& 0x0f)) = some (byte &&& 0x0f) ∧
          (byte >>> 4) <<< 4 ||| (byte &&& 0x0f) = byte := by decide
  have hbyte := hall ⟨byte.toNat, UInt8.lt_iff_toNat_lt.mp h⟩
  rwa [UInt8.ofNat_toNat] at hbyte

theorem unescape_jsonEscape (byte : UInt8) (rest : List UInt8) :
    unescape (jsonEscape byte ++ rest) = some (byte, rest) := by
  unfold jsonEscape
  split_ifs with h₁ h₂ h₃ h₄ h₅ h₆ h₇ hlow
  · subst h₁; rfl
  · subst h₂; rfl
  · subst h₃; rfl
  · subst h₄; rfl
  · subst h₅; rfl
  · subst h₆; rfl
  · subst h₇; rfl
  · obtain ⟨hhigh, hdigit, hboth⟩ := intentHexValue_hexDigit hlow
    simp [unescape, hhigh, hdigit, hboth]
  · simp [unescape, h₂]

/-- The characters up to the quote that ends the string. -/
def readCharacters : Nat → List UInt8 → Option (List UInt8 × List UInt8)
  | 0, _ => none
  | fuel + 1, s =>
    if s.head? = some 0x22 then some ([], s.tail)
    else do
      let (byte, s) ← unescape s
      let (text, s) ← readCharacters fuel s
      some (byte :: text, s)

theorem jsonEscape_head (byte : UInt8) (rest : List UInt8) :
    (jsonEscape byte ++ rest).head? ≠ some 0x22 := by
  unfold jsonEscape
  split_ifs with h₁ <;> simp
  exact h₁

theorem readCharacters_flatMap (rest : List UInt8) : ∀ (text : List UInt8) {fuel : Nat},
    text.length < fuel →
      readCharacters fuel (text.flatMap jsonEscape ++ 0x22 :: rest) = some (text, rest)
  | [], fuel + 1, _ => by simp [readCharacters]
  | byte :: text, fuel + 1, h => by
    have ih := readCharacters_flatMap rest text (Nat.lt_of_succ_lt_succ h)
    rw [List.flatMap_cons, List.append_assoc, readCharacters, if_neg (jsonEscape_head _ _),
      unescape_jsonEscape]
    simp [ih]

abbrev JsonReader := StateT (List UInt8) Option

/-- The reader takes the bytes `bs` for `a`, whatever follows them. -/
def Reads {α : Type} (r : JsonReader α) (bs : List UInt8) (a : α) : Prop :=
  ∀ rest, r.run (bs ++ rest) = some (a, rest)

namespace Reads

variable {α β : Type} {r : JsonReader α} {bs bs' : List UInt8} {a : α} {b : β}

theorem pure (a : α) : Reads (Pure.pure a) [] a := fun _ => rfl

theorem bind {k : α → JsonReader β} (h : Reads r bs a) (h' : Reads (k a) bs' b) :
    Reads (r >>= k) (bs ++ bs') b := by
  intro rest
  rw [List.append_assoc, StateT.run_bind, h]
  exact h' rest

theorem map (f : α → β) (h : Reads r bs a) : Reads (r >>= fun a => Pure.pure (f a)) bs (f a) := by
  have hb := h.bind (k := fun a => Pure.pure (f a)) (Reads.pure (f a))
  rwa [List.append_nil] at hb

end Reads

/-- Exactly these bytes. -/
def expect (bs : List UInt8) : JsonReader Unit := fun s =>
  if bs.isPrefixOf s then some ((), s.drop bs.length) else none

theorem reads_expect (bs : List UInt8) : Reads (expect bs) bs () := by
  intro rest
  have hprefix : bs.isPrefixOf (bs ++ rest) = true :=
    List.isPrefixOf_iff_prefix.mpr (List.prefix_append bs rest)
  change (if bs.isPrefixOf (bs ++ rest) then some ((), (bs ++ rest).drop bs.length) else none) = _
  rw [if_pos hprefix, List.drop_left]

def readText : JsonReader String := do
  expect [0x22]
  let text ← fun s => readCharacters (s.length + 1) s
  let text ← (ofUtf8Bytes? text : Option String)
  pure text

theorem reads_text (value : String) : Reads readText (jsonString value) value := by
  refine (reads_expect [0x22]).bind fun rest => ?_
  have hfuel : (utf8Bytes value).length <
      ((utf8Bytes value).flatMap jsonEscape ++ [0x22] ++ rest).length + 1 := by
    have hlen : ∀ text : List UInt8, text.length ≤ (text.flatMap jsonEscape).length := by
      intro text
      induction text with
      | nil => exact Nat.le_refl 0
      | cons byte text ih =>
        have hone : 1 ≤ (jsonEscape byte).length := by
          unfold jsonEscape
          split_ifs <;> simp
        rw [List.flatMap_cons, List.length_append, List.length_cons]
        omega
    have := hlen (utf8Bytes value)
    simp only [List.length_append]
    omega
  have htext := readCharacters_flatMap rest (utf8Bytes value) hfuel
  rw [List.append_eq, StateT.run_bind]
  have hrun : StateT.run (fun s => readCharacters (s.length + 1) s : JsonReader (List UInt8))
      ((utf8Bytes value).flatMap jsonEscape ++ [0x22] ++ rest) = some (utf8Bytes value, rest) := by
    rw [← htext, List.append_assoc]
    rfl
  rw [hrun]
  simp [ofUtf8Bytes?_utf8Bytes]

/-- A member of an object. -/
def readMember {α : Type} (opening : UInt8) (name : String) (r : JsonReader α) : JsonReader α := do
  expect (opening :: (jsonString name ++ [0x3a]))
  r

theorem Reads.member {α : Type} {r : JsonReader α} {bs : List UInt8} {a : α} (opening : UInt8)
    (name : String) (h : Reads r bs a) :
    Reads (readMember opening name r) (jsonMember opening name bs) a := by
  have hmember := (reads_expect (opening :: (jsonString name ++ [0x3a]))).bind (k := fun _ => r) h
  have hbytes : jsonMember opening name bs = (opening :: (jsonString name ++ [0x3a])) ++ bs := by
    simp only [jsonMember, List.cons_append, List.append_assoc, List.nil_append]
  rw [hbytes]
  exact hmember

def RuntimeMintCreatorDesiredTerms.read : JsonReader RuntimeMintCreatorDesiredTerms := do
  let walletAccountId ← readMember BRACE "wallet_account_id" readText
  let copies ← readMember COMMA "copies" readText
  let price ← readMember COMMA "price" readText
  expect CLOSE
  pure ⟨walletAccountId, copies, price⟩

theorem RuntimeMintCreatorDesiredTerms.reads (v : RuntimeMintCreatorDesiredTerms) :
    Reads read v.toVec v := by
  simp only [toVec, List.append_assoc]
  exact ((reads_text _).member _ _).bind <| ((reads_text _).member _ _).bind <|
    ((reads_text _).member _ _).bind ((reads_expect CLOSE).map fun _ => v)

def RuntimeMintCreatorEffectBinding.read : JsonReader RuntimeMintCreatorEffectBinding := do
  let effectId ← readMember BRACE "effect_id" readText
  let approvalRequestId ← readMember COMMA "approval_request_id" readText
  let requestSha256 ← readMember COMMA "request_sha256" readText
  let accountId ← readMember COMMA "account_id" readText
  let address ← readMember COMMA "address" readText
  let chainNamespace ← readMember COMMA "chain_namespace" readText
  let network ← readMember COMMA "network" readText
  expect CLOSE
  pure ⟨effectId, approvalRequestId, requestSha256, accountId, address, chainNamespace, network⟩

theorem RuntimeMintCreatorEffectBinding.reads (v : RuntimeMintCreatorEffectBinding) :
    Reads read v.toVec v := by
  simp only [toVec, List.append_assoc]
  exact ((reads_text _).member _ _).bind <| ((reads_text _).member _ _).bind <|
    ((reads_text _).member _ _).bind <| ((reads_text _).member _ _).bind <|
    ((reads_text _).member _ _).bind <| ((reads_text _).member _ _).bind <|
    ((reads_text _).member _ _).bind ((reads_expect CLOSE).map fun _ => v)

/-- A string, or `null`. -/
def readText? : JsonReader (Option String) := fun s =>
  if jsonNull.isPrefixOf s then some (none, s.drop jsonNull.length)
  else (readText s).map fun (value, s) => (some value, s)

theorem reads_text? (v : Option String) : Reads readText? (v.elim jsonNull jsonString) v := by
  intro rest
  cases v with
  | none =>
    have hprefix : jsonNull.isPrefixOf (jsonNull ++ rest) = true :=
      List.isPrefixOf_iff_prefix.mpr (List.prefix_append _ _)
    change readText? (jsonNull ++ rest) = _
    rw [readText?, hprefix, if_pos rfl, List.drop_left]
  | some value =>
    have hprefix : jsonNull.isPrefixOf (jsonString value ++ rest) = false := rfl
    have htext : readText (jsonString value ++ rest) = some (value, rest) := reads_text value rest
    change readText? (jsonString value ++ rest) = _
    rw [readText?, hprefix, if_neg Bool.false_ne_true, htext]
    rfl

/-- A number, up to the brace that ends its object. -/
def readNumber : JsonReader UInt64 := do
  let digits ← fun s => some (s.takeWhile (· ≠ 0x7d), s.dropWhile (· ≠ 0x7d))
  expect CLOSE
  pure (UInt64.ofNat (Nat.ofDigits 10 (digits.reverse.map fun digit => (digit - 0x30).toNat)))

/-- Digits that spell the number, most significant first. -/
theorem exists_jsonNumber (n : Nat) : ∃ digits : List Nat, (∀ digit ∈ digits, digit < 10) ∧
    Nat.ofDigits 10 digits = n ∧
      jsonNumber n = digits.reverse.map fun digit => 0x30 + UInt8.ofNat digit := by
  by_cases hn : n = 0
  · subst hn
    exact ⟨[0], by decide, rfl, rfl⟩
  · exact ⟨Nat.digits 10 n, fun _ => Nat.digits_lt_base (by decide), Nat.ofDigits_digits 10 n,
      if_neg hn⟩

theorem reads_number (value : UInt64) :
    Reads readNumber (jsonNumber value.toNat ++ CLOSE) value := by
  obtain ⟨digits, hsmall, hvalue, hnumber⟩ := exists_jsonNumber value.toNat
  have hback : ∀ digit < 10, 0x30 + UInt8.ofNat digit ≠ 0x7d ∧
      (0x30 + UInt8.ofNat digit - 0x30).toNat = digit := by decide
  have hdigits : ∀ byte ∈ jsonNumber value.toNat, decide (byte ≠ 0x7d) = true := by
    intro byte hbyte
    rw [hnumber, List.mem_map] at hbyte
    obtain ⟨digit, hdigit, rfl⟩ := hbyte
    exact decide_eq_true (hback digit (hsmall digit (List.mem_reverse.mp hdigit))).1
  have hvalues : ((jsonNumber value.toNat).reverse.map fun digit => (digit - 0x30).toNat) =
      digits := by
    rw [hnumber, ← List.map_reverse, List.reverse_reverse, List.map_map]
    exact (List.map_congr_left fun digit hdigit => (hback digit (hsmall digit hdigit)).2).trans
      (List.map_id digits)
  intro rest
  have hrun : (readNumber.run (jsonNumber value.toNat ++ CLOSE ++ rest)) =
      (do
        let closed ← expect CLOSE (CLOSE ++ rest)
        some (UInt64.ofNat (Nat.ofDigits 10
          ((jsonNumber value.toNat).reverse.map fun digit => (digit - 0x30).toNat)),
            closed.2)) := by
    rw [List.append_assoc]
    have htake : (jsonNumber value.toNat ++ (CLOSE ++ rest)).takeWhile (· ≠ 0x7d) =
        jsonNumber value.toNat := by
      rw [List.takeWhile_append_of_pos hdigits]
      exact List.append_nil _
    have hdrop : (jsonNumber value.toNat ++ (CLOSE ++ rest)).dropWhile (· ≠ 0x7d) =
        CLOSE ++ rest := by
      rw [List.dropWhile_append_of_pos hdigits]
      rfl
    rw [readNumber, StateT.run_bind]
    change (do
      let p ← some ((jsonNumber value.toNat ++ (CLOSE ++ rest)).takeWhile (· ≠ 0x7d),
        (jsonNumber value.toNat ++ (CLOSE ++ rest)).dropWhile (· ≠ 0x7d))
      _) = _
    rw [htake, hdrop]
    rfl
  have hclose : expect CLOSE (CLOSE ++ rest) = some ((), rest) := reads_expect CLOSE rest
  rw [hrun, hclose, hvalues, hvalue]
  simp

def RuntimeMintCreatorTerminalEvidence.read : JsonReader RuntimeMintCreatorTerminalEvidence := do
  let metadataCid ← readMember BRACE "metadata_cid" readText
  let tokenUri ← readMember COMMA "token_uri" readText
  let seller ← readMember COMMA "seller" readText
  let chainNamespace ← readMember COMMA "chain_namespace" readText
  let network ← readMember COMMA "network" readText
  let ledger ← readMember COMMA "ledger" readText
  let tokenId ← readMember COMMA "token_id" readText
  let operative ← readMember COMMA "operative" readText
  let quantity ← readMember COMMA "quantity" readText
  let price ← readMember COMMA "price" readText
  let payToken ← readMember COMMA "pay_token" readText
  let paymentProcessor ← readMember COMMA "payment_processor" readText?
  let transactionHash ← readMember COMMA "transaction_hash" readText
  let publishedAt ← readMember COMMA "published_at" readNumber
  pure {
    metadataCid, tokenUri, seller, chainNamespace, network, ledger, tokenId, operative, quantity,
    price, payToken, paymentProcessor, transactionHash, publishedAt }

theorem RuntimeMintCreatorTerminalEvidence.reads (v : RuntimeMintCreatorTerminalEvidence) :
    Reads read v.toVec v := by
  have hlast : jsonMember COMMA "published_at" (jsonNumber v.publishedAt.toNat) ++ CLOSE =
      jsonMember COMMA "published_at" (jsonNumber v.publishedAt.toNat ++ CLOSE) := by
    simp only [jsonMember, List.cons_append, List.append_assoc]
  simp only [toVec, List.append_assoc]
  rw [hlast]
  exact ((reads_text _).member _ _).bind <| ((reads_text _).member _ _).bind <|
    ((reads_text _).member _ _).bind <| ((reads_text _).member _ _).bind <|
    ((reads_text _).member _ _).bind <| ((reads_text _).member _ _).bind <|
    ((reads_text _).member _ _).bind <| ((reads_text _).member _ _).bind <|
    ((reads_text _).member _ _).bind <| ((reads_text _).member _ _).bind <|
    ((reads_text _).member _ _).bind <| ((reads_text? _).member _ _).bind <|
    ((reads_text _).member _ _).bind <| ((reads_number _).member _ _).map fun publishedAt =>
      { v with publishedAt }

/-- A member that may be left out. -/
def readOptionalMember {α : Type} (name : String) (r : JsonReader α) : JsonReader (Option α) :=
  fun s =>
    if (COMMA :: jsonString name).isPrefixOf s then
      (readMember COMMA name r s).map fun (value, s) => (some value, s)
    else
      some (none, s)

theorem reads_optionalMember {α : Type} {toVec : α → List UInt8} {r : JsonReader α} (name : String)
    (v : Option α) (rest : List UInt8) (h : ∀ a, Reads r (toVec a) a)
    (hother : (COMMA :: jsonString name).isPrefixOf rest = false) :
    (readOptionalMember name r).run
      ((v.elim [] fun a => jsonMember COMMA name (toVec a)) ++ rest) = some (v, rest) := by
  cases v with
  | none =>
    change readOptionalMember name r rest = _
    rw [readOptionalMember, hother, if_neg Bool.false_ne_true]
  | some a =>
    have hprefix : (COMMA :: jsonString name).isPrefixOf
        (jsonMember COMMA name (toVec a) ++ rest) = true := by
      have hbytes : jsonMember COMMA name (toVec a) ++ rest =
          (COMMA :: jsonString name) ++ (0x3a :: toVec a ++ rest) := by
        simp only [jsonMember, List.cons_append, List.append_assoc]
      rw [hbytes]
      exact List.isPrefixOf_iff_prefix.mpr (List.prefix_append _ _)
    change readOptionalMember name r (jsonMember COMMA name (toVec a) ++ rest) = _
    have hmember : readMember COMMA name r (jsonMember COMMA name (toVec a) ++ rest) =
        some (a, rest) := (h a).member COMMA name rest
    rw [readOptionalMember, hprefix, if_pos rfl, hmember]
    rfl

def RuntimeMintCreatorState.read : JsonReader RuntimeMintCreatorState := do
  let desiredTerms ← readMember BRACE "desired_terms" RuntimeMintCreatorDesiredTerms.read
  let metadataCid ← readMember COMMA "metadata_cid" readText
  let tokenUri ← readMember COMMA "token_uri" readText
  let effect ← readOptionalMember "effect" RuntimeMintCreatorEffectBinding.read
  let operatorApproval ← readOptionalMember "operator_approval"
    RuntimeMintCreatorEffectBinding.read
  let terminal ← readOptionalMember "terminal" RuntimeMintCreatorTerminalEvidence.read
  expect CLOSE
  pure ⟨desiredTerms, metadataCid, tokenUri, effect, operatorApproval, terminal⟩

theorem RuntimeMintCreatorState.reads (v : RuntimeMintCreatorState) : Reads read v.toVec v := by
  simp only [toVec, List.append_assoc]
  refine (v.desiredTerms.reads.member _ _).bind <| ((reads_text _).member _ _).bind <|
    ((reads_text _).member _ _).bind fun rest => ?_
  have hterminal := reads_optionalMember "terminal" v.terminal (CLOSE ++ rest)
    RuntimeMintCreatorTerminalEvidence.reads rfl
  have hclose : (expect CLOSE).run (CLOSE ++ rest) = some ((), rest) := reads_expect CLOSE rest
  have happroval := reads_optionalMember "operator_approval" v.operatorApproval
    ((v.terminal.elim [] fun terminal => jsonMember COMMA "terminal" terminal.toVec) ++
      (CLOSE ++ rest)) RuntimeMintCreatorEffectBinding.reads (by
        cases v.terminal <;> rfl)
  have heffect := reads_optionalMember "effect" v.effect
    ((v.operatorApproval.elim [] fun effect => jsonMember COMMA "operator_approval" effect.toVec) ++
      ((v.terminal.elim [] fun terminal => jsonMember COMMA "terminal" terminal.toVec) ++
      (CLOSE ++ rest))) RuntimeMintCreatorEffectBinding.reads (by
        cases v.operatorApproval <;> cases v.terminal <;> rfl)
  simp only [List.append_assoc]
  rw [StateT.run_bind, heffect, Option.bind_eq_bind, Option.bind_some, StateT.run_bind, happroval,
    Option.bind_eq_bind, Option.bind_some, StateT.run_bind, hterminal, Option.bind_eq_bind,
    Option.bind_some, StateT.run_bind, hclose]
  rfl

/-- A reader of what the writer writes. -/
@[reducible] def canonicalCreatorJson : CreatorJson where
  fromSlice bytes := (RuntimeMintCreatorState.read.run bytes).map Prod.fst
  fromSlice_toVec v := by
    have hreads := v.reads []
    rw [List.append_nil] at hreads
    rw [hreads]
    rfl

end ElastosRuntime.MintJournal
