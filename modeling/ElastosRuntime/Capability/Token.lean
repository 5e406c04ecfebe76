/-
# Capability tokens

The signed token of `token.rs` with its identifier, resource pattern, action and constraints,
and the two functions the rest of the capability system rests on: which requested resources a
token's resource covers (`ResourceId.matchesPattern`) and which bytes its signature covers
(`CapabilityToken.signableBytes`).

Text is compared as lists of characters.  UTF-8 encodes a character the same way wherever it
stands, so splitting, prefixes and equality of character lists are those of the byte strings.
-/
import ElastosRuntime.Primitives

namespace ElastosRuntime

/-! ## 1. Resources and patterns -/

/-- A token's identifier: the 16 bytes of a random UUID. -/
abbrev TokenId := Bytes 16

/-- A resource, or a pattern for resources when it ends in a wildcard segment. -/
structure ResourceId where
  str : String
deriving DecidableEq, Repr

namespace ResourceId

/-- The text up to and including the first `://`, and the text after it. -/
def splitScheme : List Char → Option (List Char × List Char)
  | [] => none
  | c :: cs =>
    if ['/', '/'].isPrefixOf cs && c = ':' then
      some ([':', '/', '/'], cs.drop 2)
    else
      (splitScheme cs).map fun (scheme, rest) => (c :: scheme, rest)

/-- The path after the scheme without its empty and `.` segments; text without a scheme is
left alone. -/
def normalize (s : List Char) : List Char :=
  match splitScheme s with
  | some (scheme, rest) =>
    let normalized := (rest.splitOn '/').filter fun seg => !seg.isEmpty && seg != ['.']
    scheme ++ List.intercalate ['/'] normalized
  | none => s

/-- Whether the text has no `..` segment. -/
def noTraversal (suffix : List Char) : Bool :=
  !(suffix.splitOn '/').any fun seg => seg == ['.', '.']

/-- Whether a normalised resource is covered by a normalised pattern. -/
def normMatches (resourceNorm patternNorm : List Char) : Bool :=
  if ['/', '*'].isSuffixOf patternNorm then
    let stem := patternNorm.dropLast
    stem.isPrefixOf resourceNorm && noTraversal (resourceNorm.drop stem.length)
  else
    resourceNorm == patternNorm

/-- Whether this resource matches a pattern. -/
def matchesPattern (resource pattern : ResourceId) : Bool :=
  normMatches (normalize resource.str.toList) (normalize pattern.str.toList)

/-! ## 2. Matching is a preorder -/

variable {pattern resource : List Char}

/-- A wildcard pattern is a stem, a separator and the wildcard. -/
theorem wildcard_eq (h : ['/', '*'].isSuffixOf pattern = true) :
    ∃ stem, pattern = stem ++ ['/', '*'] := by
  obtain ⟨stem, rfl⟩ := List.isSuffixOf_iff_suffix.mp h
  exact ⟨stem, rfl⟩

/-- What a wildcard pattern covers: the texts that extend its prefix without climbing. -/
theorem normMatches_wildcard {stem : List Char} :
    normMatches resource (stem ++ ['/', '*']) = true ↔
      ∃ suffix, resource = stem ++ ['/'] ++ suffix ∧ noTraversal suffix = true := by
  have hsuf : ['/', '*'].isSuffixOf (stem ++ ['/', '*']) = true :=
    List.isSuffixOf_iff_suffix.mpr ⟨stem, rfl⟩
  have hdrop : (stem ++ ['/', '*']).dropLast = stem ++ ['/'] := by simp
  unfold normMatches
  rw [if_pos hsuf]
  simp only [hdrop, Bool.and_eq_true, List.isPrefixOf_iff_prefix]
  constructor
  · rintro ⟨⟨suffix, rfl⟩, hno⟩
    exact ⟨suffix, rfl, by rwa [List.drop_left] at hno⟩
  · rintro ⟨suffix, rfl, hno⟩
    exact ⟨List.prefix_append _ _, by rwa [List.drop_left]⟩

/-- A text without a wildcard segment covers itself only. -/
theorem normMatches_literal (h : ['/', '*'].isSuffixOf pattern = false) :
    normMatches resource pattern = true ↔ resource = pattern := by
  unfold normMatches
  rw [if_neg (by rw [h]; exact Bool.false_ne_true), beq_iff_eq]

/-- Climbing is decided segment by segment. -/
theorem noTraversal_append_sep (s t : List Char) :
    noTraversal (s ++ '/' :: t) = (noTraversal s && noTraversal t) := by
  simp only [noTraversal, List.splitOn_append_cons_self, List.any_append, Bool.not_or]

theorem normMatches_refl (pattern : List Char) : normMatches pattern pattern = true := by
  cases hw : ['/', '*'].isSuffixOf pattern with
  | false => exact (normMatches_literal hw).mpr rfl
  | true =>
    obtain ⟨stem, rfl⟩ := wildcard_eq hw
    exact normMatches_wildcard.mpr ⟨['*'], by simp, rfl⟩

/-- **Matching composes**: what a sub-scope covers, the scope covers.  The interesting case is
a wildcard under a wildcard.  The inner pattern is the outer prefix followed by some text `t`
and the wildcard, where `t` is empty or ends in a separator, so a `..` segment of what the
outer prefix leaves over lies either in `t` or in what the inner prefix leaves over. -/
theorem normMatches_trans {outer inner : List Char} (hio : normMatches inner outer = true)
    (hri : normMatches resource inner = true) : normMatches resource outer = true := by
  cases hwo : ['/', '*'].isSuffixOf outer with
  | false =>
    rw [normMatches_literal hwo] at hio
    exact hio ▸ hri
  | true =>
    cases hwi : ['/', '*'].isSuffixOf inner with
    | false =>
      rw [normMatches_literal hwi] at hri
      exact hri ▸ hio
    | true =>
      obtain ⟨outerStem, rfl⟩ := wildcard_eq hwo
      obtain ⟨innerStem, rfl⟩ := wildcard_eq hwi
      obtain ⟨t, ht, hnoT⟩ := normMatches_wildcard.mp hio
      obtain ⟨u, rfl, hnoU⟩ := normMatches_wildcard.mp hri
      rw [normMatches_wildcard]
      -- `innerStem ++ "/*" = outerStem ++ "/" ++ t`: either the stems agree, or `t` holds the rest.
      have hcut : innerStem ++ ['/'] = outerStem ++ ['/'] ++ t.dropLast := by
        have h1 := congrArg List.dropLast ht
        have htne : t ≠ [] := by
          rintro rfl
          have h2 := congrArg List.getLast? ht
          simp at h2
        rw [List.dropLast_append_of_ne_nil htne] at h1
        simpa [List.dropLast_append] using h1
      have hlast : t = t.dropLast ++ ['*'] := by
        have h1 : outerStem ++ ['/'] ++ t = outerStem ++ ['/'] ++ (t.dropLast ++ ['*']) := by
          rw [← ht, ← List.append_assoc, ← hcut]
          simp
        exact List.append_cancel_left h1
      refine ⟨t.dropLast ++ u, by rw [hcut, List.append_assoc], ?_⟩
      rcases List.eq_nil_or_concat t.dropLast with hnil | ⟨v, c, hv⟩
      · rw [hnil]
        exact hnoU
      · have hc : c = '/' := by
          have h2 := congrArg List.getLast? hcut
          rw [hv, List.concat_eq_append, ← List.append_assoc, List.getLast?_concat,
            List.getLast?_concat, Option.some.injEq] at h2
          exact h2.symm
        rw [hv, hc, List.concat_eq_append] at hlast ⊢
        rw [hlast, List.append_assoc, List.singleton_append, noTraversal_append_sep,
          Bool.and_eq_true] at hnoT
        rw [List.append_assoc, List.singleton_append, noTraversal_append_sep, hnoT.1, hnoU]
        rfl

theorem matchesPattern_refl (resource : ResourceId) : resource.matchesPattern resource = true :=
  normMatches_refl _

theorem matchesPattern_trans {outer inner resource : ResourceId}
    (hio : inner.matchesPattern outer = true) (hri : resource.matchesPattern inner = true) :
    resource.matchesPattern outer = true :=
  normMatches_trans hio hri

end ResourceId

/-! ## 3. Tokens -/

/-- What a token allows its holder to do. -/
inductive Action where
  | read | write | execute | message | delete | admin
deriving DecidableEq, Repr

/-- The discriminant the signature covers. -/
def Action.toU8 : Action → UInt8
  | .read => 0
  | .write => 1
  | .execute => 2
  | .message => 3
  | .delete => 4
  | .admin => 5

/-- The constraints a token carries. -/
structure TokenConstraints where
  epoch : Nat
  delegatable : Bool
  maxClassification : Option UInt8
  maxUses : Option Nat
deriving DecidableEq, Repr

/-- A capability token: a signed proof of permission. -/
structure CapabilityToken where
  version : UInt8
  id : TokenId
  capsule : String
  issuer : Bytes 32
  resource : ResourceId
  action : Action
  constraints : TokenConstraints
  issuedAt : SecureTimestamp
  expiry : Option SecureTimestamp
  signature : Bytes 64
deriving DecidableEq

namespace CapabilityToken

def CURRENT_VERSION : UInt8 := 1

/-- An unsigned token of the current version, with the identifier the generator drew. -/
def new (id : TokenId) (capsule : String) (issuer : Bytes 32) (resource : ResourceId)
    (action : Action) (constraints : TokenConstraints) (issuedAt : SecureTimestamp)
    (expiry : Option SecureTimestamp) : CapabilityToken :=
  { version := CURRENT_VERSION, id, capsule, issuer, resource, action, constraints, issuedAt,
    expiry, signature := Bytes.zero 64 }

/-- A length-prefixed text. -/
def prefixedText (s : String) : List UInt8 := leBytes 8 (utf8Bytes s).length ++ utf8Bytes s

/-- An optional field behind an explicit discriminant. -/
def optionField {α : Type} (encode : α → List UInt8) : Option α → List UInt8
  | none => [0]
  | some a => 1 :: encode a

/-- The two words of a timestamp. -/
def timestampBytes (t : SecureTimestamp) : List UInt8 :=
  leBytes 8 t.unixSecs ++ leBytes 8 t.monotonicSeq

/-- The digest the signature covers: every field except the signature. -/
def signableBytes [Crypto] (token : CapabilityToken) : List UInt8 :=
  (Crypto.sha256 <|
    [token.version] ++ token.id.toList ++ prefixedText token.capsule ++ token.issuer.toList ++
    prefixedText token.resource.str ++ [token.action.toU8] ++
    leBytes 8 token.constraints.epoch ++ [if token.constraints.delegatable then 1 else 0] ++
    optionField (fun c => [c]) token.constraints.maxClassification ++
    optionField (leBytes 4) token.constraints.maxUses ++
    timestampBytes token.issuedAt ++ optionField timestampBytes token.expiry).toList

/-- The token with its signature under a signing key. -/
def sign [Crypto] (token : CapabilityToken) (signingKey : Bytes 32) : CapabilityToken :=
  { token with signature := Crypto.sign signingKey token.signableBytes }

/-- Whether the token's signature verifies under a public key. -/
def verifySignature [Crypto] (token : CapabilityToken) (publicKey : Bytes 32) : Bool :=
  Crypto.verify publicKey token.signableBytes token.signature

/-- A token signed with a key verifies under the key's public half. -/
theorem verifySignature_sign [Crypto] [LawfulCrypto] (token : CapabilityToken)
    (signingKey : Bytes 32) :
    (token.sign signingKey).verifySignature (Crypto.verifyingKey signingKey) = true :=
  LawfulCrypto.verify_sign signingKey token.signableBytes

end CapabilityToken

end ElastosRuntime
