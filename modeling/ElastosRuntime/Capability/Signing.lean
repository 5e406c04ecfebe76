/-
# What a token's signature covers

`signablePreimage` is the byte string that is hashed and signed.  Its fields stand one behind the
other, the texts behind their lengths and the options behind a discriminant, so it determines every
signed field (`signablePreimage_inj`), and a signature that was made for one token is good for
another only if the two say the same.

The numbers of a token are machine words in the source; `InRange` says that they are, which is what
their types promise.
-/
import ElastosRuntime.Capability.Token
import ElastosRuntime.Lib.Framing

namespace ElastosRuntime

namespace CapabilityToken

/-- The byte string that `signable_bytes` hashes. -/
def signablePreimage (token : CapabilityToken) : List UInt8 :=
  [token.version] ++ token.id.toList ++ prefixedText token.capsule ++ token.issuer.toList ++
    prefixedText token.resource.str ++ [token.action.toU8] ++
    leBytes 8 token.constraints.epoch ++ [if token.constraints.delegatable then 1 else 0] ++
    optionField (fun c => [c]) token.constraints.maxClassification ++
    optionField (leBytes 4) token.constraints.maxUses ++
    timestampBytes token.issuedAt ++ optionField timestampBytes token.expiry

theorem signableBytes_eq [Crypto] (token : CapabilityToken) :
    token.signableBytes = (Crypto.sha256 token.signablePreimage).toList := rfl

/-! ## 1. Words -/

/-- A timestamp of two 64-bit words. -/
def TimestampInRange (t : SecureTimestamp) : Prop :=
  t.unixSecs < 256 ^ 8 ∧ t.monotonicSeq < 256 ^ 8

/-- A text that a machine can hold. -/
def TextInRange (s : String) : Prop := (utf8Bytes s).length < 256 ^ 8

instance (s : String) : Decidable (TextInRange s) := inferInstanceAs (Decidable (_ < _))

/-- The fields are of their types' widths. -/
structure InRange (token : CapabilityToken) : Prop where
  capsule : TextInRange token.capsule
  resource : TextInRange token.resource.str
  epoch : token.constraints.epoch < 256 ^ 8
  maxUses : ∀ n ∈ token.constraints.maxUses, n < 256 ^ 4
  issuedAt : TimestampInRange token.issuedAt
  expiry : ∀ t ∈ token.expiry, TimestampInRange t

/-- Two tokens that say the same: every signed field is equal. -/
structure SameFields (t₁ t₂ : CapabilityToken) : Prop where
  version : t₁.version = t₂.version
  id : t₁.id = t₂.id
  capsule : t₁.capsule = t₂.capsule
  issuer : t₁.issuer = t₂.issuer
  resource : t₁.resource = t₂.resource
  action : t₁.action = t₂.action
  epoch : t₁.constraints.epoch = t₂.constraints.epoch
  delegatable : t₁.constraints.delegatable = t₂.constraints.delegatable
  maxClassification : t₁.constraints.maxClassification = t₂.constraints.maxClassification
  maxUses : t₁.constraints.maxUses = t₂.constraints.maxUses
  issuedAt : t₁.issuedAt = t₂.issuedAt
  expiry : t₁.expiry = t₂.expiry

/-! ## 2. The fields, each by itself -/

theorem selfDelimiting_prefixedText : SelfDelimiting TextInRange prefixedText :=
  (SelfDelimiting.prefixed 8).comap (f := utf8Bytes) utf8Bytes_injective

theorem selfDelimiting_timestampBytes : SelfDelimiting TimestampInRange timestampBytes :=
  ((SelfDelimiting.le 8).append (SelfDelimiting.le 8)).comap
    (f := fun t : SecureTimestamp => (t.unixSecs, t.monotonicSeq))
    fun s t h => by
      cases s
      cases t
      simpa using h

theorem Action.toU8_injective : Function.Injective Action.toU8 := by
  intro a b h
  cases a <;> cases b <;> first | rfl | exact absurd h (by decide)

theorem selfDelimiting_action : SelfDelimiting (fun _ => True) fun a : Action => [a.toU8] :=
  SelfDelimiting.byte.comap Action.toU8_injective

theorem selfDelimiting_flag :
    SelfDelimiting (fun _ => True) fun b : Bool => [if b then (1 : UInt8) else 0] :=
  SelfDelimiting.byte.comap (f := fun b : Bool => if b then (1 : UInt8) else 0) fun a b h => by
    cases a <;> cases b <;> first | rfl | exact absurd h (by decide)

theorem optionField_eq {α : Type} (encode : α → List UInt8) :
    optionField encode = fun o : Option α => o.elim [0] fun a => 1 :: encode a := by
  funext o
  cases o <;> rfl

theorem selfDelimiting_optionField {α : Type} {P : α → Prop} {encode : α → List UInt8}
    (h : SelfDelimiting P encode) : SelfDelimiting (fun o => ∀ a ∈ o, P a) (optionField encode) :=
  optionField_eq encode ▸ h.option

/-! ## 3. The whole -/

/-- **The preimage determines every signed field**, field by field from the front. -/
theorem signablePreimage_inj {t₁ t₂ : CapabilityToken} (h₁ : t₁.InRange) (h₂ : t₂.InRange)
    (h : t₁.signablePreimage = t₂.signablePreimage) : SameFields t₁ t₂ := by
  unfold signablePreimage at h
  simp only [List.append_assoc] at h
  obtain ⟨hversion, h⟩ := SelfDelimiting.byte trivial trivial h
  obtain ⟨hid, h⟩ := SelfDelimiting.bytes 16 trivial trivial h
  obtain ⟨hcapsule, h⟩ := selfDelimiting_prefixedText h₁.capsule h₂.capsule h
  obtain ⟨hissuer, h⟩ := SelfDelimiting.bytes 32 trivial trivial h
  obtain ⟨hresource, h⟩ := selfDelimiting_prefixedText h₁.resource h₂.resource h
  obtain ⟨haction, h⟩ := selfDelimiting_action trivial trivial h
  obtain ⟨hepoch, h⟩ := SelfDelimiting.le 8 h₁.epoch h₂.epoch h
  obtain ⟨hdelegatable, h⟩ := selfDelimiting_flag trivial trivial h
  obtain ⟨hclass, h⟩ := selfDelimiting_optionField SelfDelimiting.byte (fun _ _ => trivial)
    (fun _ _ => trivial) h
  obtain ⟨huses, h⟩ := selfDelimiting_optionField (SelfDelimiting.le 4) h₁.maxUses h₂.maxUses h
  obtain ⟨hissued, h⟩ := selfDelimiting_timestampBytes h₁.issuedAt h₂.issuedAt h
  have hexpiry := selfDelimiting_optionField selfDelimiting_timestampBytes h₁.expiry h₂.expiry
    (s := []) (t := []) (by rw [List.append_nil, List.append_nil, h])
  exact
    { version := hversion
      id := hid
      capsule := hcapsule
      issuer := hissuer
      resource := congrArg ResourceId.mk hresource
      action := haction
      epoch := hepoch
      delegatable := hdelegatable
      maxClassification := hclass
      maxUses := huses
      issuedAt := hissued
      expiry := hexpiry.1 }

/-- **A signature is a signature of these fields only**: equal preimages have equal fields; if the
two preimages do not collide, so have equal digests; and a signature made over one token, which
verifies for no digest but that token's, verifies for another token only if the fields are equal. -/
theorem signature_binds_fields [Crypto] {t₁ t₂ : CapabilityToken} (h₁ : t₁.InRange)
    (h₂ : t₂.InRange) :
    (t₁.signablePreimage = t₂.signablePreimage → SameFields t₁ t₂) ∧
    ((Crypto.sha256 t₁.signablePreimage = Crypto.sha256 t₂.signablePreimage →
        t₁.signablePreimage = t₂.signablePreimage) →
      (t₁.signableBytes = t₂.signableBytes → SameFields t₁ t₂) ∧
      ∀ signingKey : Bytes 32,
        (∀ message, Crypto.verify (Crypto.verifyingKey signingKey) message
            (t₁.sign signingKey).signature = true → message = t₁.signableBytes) →
        ({ t₂ with signature := (t₁.sign signingKey).signature } : CapabilityToken).verifySignature
            (Crypto.verifyingKey signingKey) = true → SameFields t₁ t₂) := by
  refine ⟨signablePreimage_inj h₁ h₂, fun hcollision => ?_⟩
  have hdigest : t₁.signableBytes = t₂.signableBytes → SameFields t₁ t₂ := by
    intro h
    rw [signableBytes_eq, signableBytes_eq] at h
    exact signablePreimage_inj h₁ h₂ (hcollision (List.Vector.eq _ _ h))
  refine ⟨hdigest, fun signingKey hscheme hverify => hdigest ?_⟩
  exact (hscheme _ hverify).symm

/-- A token of a capsule for a resource, all else alike. -/
def tokenFor (capsule resource : String) : CapabilityToken :=
  CapabilityToken.new (Bytes.zero 16) capsule (Bytes.zero 32) ⟨resource⟩ .read
    ⟨0, false, none, none⟩ ⟨1000, 1⟩ none

theorem tokenFor_inRange (capsule resource : String) (hcapsule : TextInRange capsule)
    (hresource : TextInRange resource) : (tokenFor capsule resource).InRange where
  capsule := hcapsule
  resource := hresource
  epoch := show 0 < 256 ^ 8 by decide
  maxUses := fun n hn => by cases hn
  issuedAt := ⟨show 1000 < 256 ^ 8 by decide, show 1 < 256 ^ 8 by decide⟩
  expiry := fun t ht => by cases ht

theorem moved_character_changes_preimage :
    (tokenFor "abc" "def").signablePreimage ≠ (tokenFor "ab" "cdef").signablePreimage := by
  let _ := tailEchoCrypto
  intro h
  have hsame := (signature_binds_fields (tokenFor_inRange "abc" "def" (by decide) (by decide))
    (tokenFor_inRange "ab" "cdef" (by decide) (by decide))).1 h
  exact absurd hsame.capsule (by decide)

end CapabilityToken

end ElastosRuntime
