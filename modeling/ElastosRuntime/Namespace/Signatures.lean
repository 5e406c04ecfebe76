/-
# What the signature of a namespace covers

A signature is over the text of the whole namespace but the signature itself, the times of every
directory included.  An edit that succeeds takes the signature away.  One that fails leaves it, and
leaves the text as it was unless a directory has been stamped on the way: `put` stamps every
directory it walks through before it meets the file that it cannot walk into, and `remove` stamps
the parent before it looks for the name.

`failed_edit_iff` says when a failed edit changes nothing, and that over any run of edits for which
that holds no signature outlives the content it covers.
-/
import ElastosRuntime.Contracts.Verification
import ElastosRuntime.Lib.JsonText
import ElastosRuntime.Namespace.Laws

namespace ElastosRuntime.StampedNamespace

open NamespaceStore (ContentId NamespaceError)
open NamespaceStore.Namespace (pathComponents parentPath removed)
open OrderedMap (get?)
open Contracts (okOr okOr_eq_ok pure_eq_ok)
open Text

/-! ## 1. The text of a namespace -/

def timestampJson (t : SecureTimestamp) : Json :=
  .object [("unix_secs", .number (.posInt (UInt64.ofNat t.unixSecs))),
    ("monotonic_seq", .number (.posInt (UInt64.ofNat t.monotonicSeq)))]

/-- A member that is left out where there is nothing to write. -/
def optionalMember (name : String) (text : Option String) : List (String × Json) :=
  (text.map fun text => (name, Json.string text)).toList

mutual

def NamespaceEntry.json : NamespaceEntry → Json
  | .file cid size contentType modifiedAt =>
    .object ([("type", .string "file"), ("cid", .string cid.uri),
      ("size", .number (.posInt size))] ++
      optionalMember "content_type" contentType ++ [("modified_at", timestampJson modifiedAt)])
  | .directory children modifiedAt =>
    .object [("type", .string "directory"), ("children", .object (childrenJson children)),
      ("modified_at", timestampJson modifiedAt)]

def NamespaceEntry.childrenJson : List (String × NamespaceEntry) → List (String × Json)
  | [] => []
  | (name, child) :: rest => (name, child.json) :: childrenJson rest

end

/-- What signing and verifying call in other libraries. -/
class NamespaceCrates where
  base64Encode : List UInt8 → String
  base64Decode : String → Option (List UInt8)
  /-- `VerifyingKey::from_bytes`, whether it accepts. -/
  isVerifyingKey : Bytes 32 → Bool

/-- What is encoded is decoded, and the key of a signing key is one. -/
class LawfulNamespaceCrates [Crypto] [NamespaceCrates] : Prop where
  base64_round_trip : ∀ bytes : List UInt8,
    NamespaceCrates.base64Decode (NamespaceCrates.base64Encode bytes) = some bytes
  verifyingKey_accepted : ∀ sk : Bytes 32,
    NamespaceCrates.isVerifyingKey (Crypto.verifyingKey sk) = true

inductive SignatureError where
  | notSigned
  | invalidOwner
  | invalidSignature
  | signingKeyMismatch
deriving DecidableEq

namespace Namespace

open NamespaceEntry NamespaceCrates

def json (ns : Namespace) : Json :=
  .object ([("version", .number (.posInt ns.version.toUInt64)), ("owner", .string ns.owner),
    ("root", ns.root.1.json), ("created_at", timestampJson ns.createdAt),
    ("modified_at", timestampJson ns.modifiedAt)] ++ optionalMember "signature" ns.signature)

section

variable [FloatText] [Crypto]

def toCid (ns : Namespace) : ContentId := ContentId.fromContent (Json.compact ns.json)

/-- The hash of the text. -/
def signingMessage (ns : Namespace) : List UInt8 := (Crypto.sha256 (Json.compact ns.json)).toList

variable [NamespaceCrates]

def sign (ns : Namespace) (signingKey : Bytes 32) : Namespace × Except SignatureError Unit :=
  let expectedOwner := hexEncode (Crypto.verifyingKey signingKey).toList
  if ns.owner ≠ expectedOwner then (ns, .error .signingKeyMismatch)
  else
    let unsigned := { ns with signature := none }
    let signature := Crypto.sign signingKey unsigned.signingMessage
    ({ unsigned with signature := some (base64Encode signature.toList) }, .ok ())

/-- Bytes of a fixed number. -/
def ofLength (n : Nat) (bytes : List UInt8) : Option (Bytes n) :=
  if h : bytes.length = n then some ⟨bytes, h⟩ else none

def verify (ns : Namespace) : Except SignatureError Bool := do
  let signatureB64 ← okOr ns.signature .notSigned
  let ownerBytes ← okOr (hexDecode ns.owner) .invalidOwner
  let ownerBytes ← okOr (ofLength 32 ownerBytes) .invalidOwner
  let verifyingKey ← okOr ((some ownerBytes).filter isVerifyingKey) .invalidOwner
  let sigBytes ← okOr (base64Decode signatureB64) .invalidSignature
  let signature ← okOr (ofLength 64 sigBytes) .invalidSignature
  let nsForVerify := { ns with signature := none }
  pure (Crypto.verify verifyingKey nsForVerify.signingMessage signature)

end

/-- A signature that is there verifies. -/
def Covered [FloatText] [Crypto] [NamespaceCrates] (ns : Namespace) : Prop :=
  ns.signature = none ∨ ns.verify = .ok true

theorem ofLength_toList {n : Nat} (bytes : Bytes n) : ofLength n bytes.toList = some bytes := by
  rw [ofLength, dif_pos bytes.length_toList]
  rfl

section

variable [FloatText] [Crypto] [NamespaceCrates] [LawfulCrypto] [LawfulNamespaceCrates]

/-- **What is signed verifies.** -/
theorem covered_sign {ns : Namespace} (h : ns.Covered) (signingKey : Bytes 32) :
    (ns.sign signingKey).1.Covered := by
  unfold sign
  dsimp only
  split
  · exact h
  · next howner =>
    right
    simp only [verify, Codec.bind_eq_ok, okOr_eq_ok, pure_eq_ok]
    exact ⟨_, rfl, _, (congrArg hexDecode (not_not.mp howner)).trans (hexDecode_hexEncode _), _,
      ofLength_toList _, _, Option.filter_some_pos (LawfulNamespaceCrates.verifyingKey_accepted _),
      _, LawfulNamespaceCrates.base64_round_trip _, _, ofLength_toList _,
      LawfulCrypto.verify_sign _ _⟩

end

end Namespace

/-! ## 2. What a failed edit leaves -/

namespace NamespaceEntry

/-- A file stands on the way. -/
def Blocked (current : NamespaceEntry) (parent : List String) : Prop :=
  ∃ above, above <+: parent ∧ ∃ entry, current.resolveFrom above = some entry ∧
    entry.isDirectory = false

/-- The directories on the way bear the times they would be stamped with. -/
def Stamped (entered : Nat → SecureTimestamp) (current : NamespaceEntry) (parent : List String) :
    Prop :=
  ∀ above, above <+: parent → ∀ children modifiedAt,
    current.resolveFrom above = some (directory children modifiedAt) →
      modifiedAt = entered above.length

section

variable {clock : Readings} {stamp : SecureTimestamp}
  {name component last given parentPath : String}
  {entry current child : NamespaceEntry} {depth : Nat} {parent rest : List String}
  {children : List (String × NamespaceEntry)} {modifiedAt : SecureTimestamp}
  {entered : Nat → SecureTimestamp}

theorem blocked_file (cid : ContentId) (size : UInt64) (contentType : Option String)
    (modifiedAt : SecureTimestamp) (parent : List String) :
    Blocked (file cid size contentType modifiedAt) parent :=
  ⟨[], List.nil_prefix, _, resolveFrom_nil _, rfl⟩

theorem not_blocked_nil : ¬Blocked (directory children modifiedAt) [] := by
  rintro ⟨above, habove, entry, hentry, hfile⟩
  rw [List.prefix_nil.mp habove, resolveFrom_nil, Option.some.injEq] at hentry
  rw [← hentry] at hfile
  cases hfile

theorem blocked_cons : Blocked (directory children modifiedAt) (component :: rest) ↔
    ∃ child, get? children component = some child ∧ Blocked child rest := by
  constructor
  · rintro ⟨above, habove, entry, hentry, hfile⟩
    cases above with
    | nil =>
      rw [resolveFrom_nil, Option.some.injEq] at hentry
      rw [← hentry] at hfile
      cases hfile
    | cons first above =>
      obtain ⟨rfl, hrest⟩ := List.cons_prefix_cons.mp habove
      obtain ⟨child, hchild, hentry⟩ := Option.bind_eq_some_iff.mp hentry
      exact ⟨child, hchild, above, hrest, entry, hentry, hfile⟩
  · rintro ⟨child, hchild, above, hrest, entry, hentry, hfile⟩
    exact ⟨component :: above, List.cons_prefix_cons.mpr ⟨rfl, hrest⟩, entry,
      Option.bind_eq_some_iff.mpr ⟨child, hchild, hentry⟩, hfile⟩

theorem not_blocked_empty : ¬Blocked (directory [] modifiedAt) parent := by
  cases parent with
  | nil => exact not_blocked_nil
  | cons component rest =>
    rw [blocked_cons]
    rintro ⟨child, hchild, -⟩
    cases hchild

theorem stamped_cons (hchild : get? children component = some child) :
    Stamped entered (directory children modifiedAt) (component :: rest) ↔
      modifiedAt = entered 0 ∧ Stamped (fun n => entered (n + 1)) child rest := by
  constructor
  · intro h
    refine ⟨h [] List.nil_prefix _ _ (resolveFrom_nil _), fun above habove inner time hinner => ?_⟩
    exact h (component :: above) (List.cons_prefix_cons.mpr ⟨rfl, habove⟩) inner time
      (Option.bind_eq_some_iff.mpr ⟨child, hchild, hinner⟩)
  · rintro ⟨hfirst, hrest⟩ above habove inner time hinner
    cases above with
    | nil =>
      rw [resolveFrom_nil, Option.some.injEq, directory.injEq] at hinner
      rw [← hinner.2]
      exact hfirst
    | cons first above =>
      obtain ⟨rfl, hbehind⟩ := List.cons_prefix_cons.mp habove
      rw [resolveFrom_directory_cons, hchild, Option.bind_some] at hinner
      exact hrest above hbehind inner time hinner

/-- **`put` fails where a file stands on the way.** -/
theorem putAt_eq_ok_iff : (putAt clock name entry depth parent last current).2 = .ok () ↔
    ¬Blocked current parent := by
  induction parent generalizing depth last current with
  | nil =>
    cases current with
    | file => exact ⟨fun h => (by cases h), fun h => absurd (blocked_file _ _ _ _ _) h⟩
    | directory children modifiedAt => exact ⟨fun _ => not_blocked_nil, fun _ => rfl⟩
  | cons component rest ih =>
    cases current with
    | file => exact ⟨fun h => (by cases h), fun h => absurd (blocked_file _ _ _ _ _) h⟩
    | directory children modifiedAt =>
      rw [putAt, blocked_cons]
      cases hchild : get? children component with
      | some child =>
        refine ih.trans (not_congr ⟨fun h => ⟨child, rfl, h⟩, ?_⟩)
        rintro ⟨child', hsame, hblocked⟩
        exact (Option.some.inj hsame) ▸ hblocked
      | none =>
        refine ih.trans (iff_of_true not_blocked_empty ?_)
        rintro ⟨child, hnone, -⟩
        cases hnone

/-- An entry is put back as it was exactly if it is as it was. -/
theorem insert_eq_self_iff (hordered : (directory children modifiedAt).Ordered)
    (hchild : get? children component = some child) (changed : NamespaceEntry) :
    OrderedMap.insert children component changed = children ↔ changed = child := by
  constructor
  · intro h
    have hfound := OrderedMap.get?_insert children component component changed
    rw [h, if_pos rfl, hchild, Option.some.injEq] at hfound
    exact hfound.symm
  · rintro rfl
    exact OrderedMap.insert_eq_self hordered.ascending hchild

/-- **A `put` that fails changes nothing but times.** -/
theorem putAt_eq_self_iff (hordered : current.Ordered) (hblocked : Blocked current parent) :
    (putAt clock name entry depth parent last current).1 = current ↔
      Stamped (fun n => clock.entered (depth + n)) current parent := by
  induction parent generalizing depth last current with
  | nil =>
    cases current with
    | file =>
      refine iff_of_true rfl fun above habove children modifiedAt h => ?_
      rw [List.prefix_nil.mp habove, resolveFrom_nil] at h
      cases h
    | directory => exact absurd hblocked not_blocked_nil
  | cons component rest ih =>
    cases current with
    | file =>
      refine iff_of_true rfl fun above habove children modifiedAt h => ?_
      cases above with
      | nil =>
        rw [resolveFrom_nil] at h
        cases h
      | cons _ _ => cases h
    | directory children modifiedAt =>
      obtain ⟨child, hchild, hblocked⟩ := blocked_cons.mp hblocked
      have hdepth : (fun n => clock.entered (depth + (n + 1))) =
          fun n => clock.entered (depth + 1 + n) := by
        funext n
        rw [Nat.add_comm n 1, Nat.add_assoc]
      rw [putAt, stamped_cons hchild, hdepth, ← ih (hordered.get? hchild) hblocked, hchild,
        Option.getD_some, directory.injEq, insert_eq_self_iff hordered hchild, and_comm]
      exact and_congr_left fun _ => eq_comm

/-- **A `remove` that fails changes nothing but the time of the parent.** -/
theorem removeAt_eq_self_iff (hordered : current.Ordered)
    (hnone : current.resolveFrom (parent ++ [name]) = none) :
    (removeAt stamp name given parentPath parent current).1 = current ↔
      ∀ children modifiedAt, current.resolveFrom parent = some (directory children modifiedAt) →
        modifiedAt = stamp := by
  induction parent generalizing current with
  | nil =>
    rw [resolveFrom_nil]
    cases current with
    | file => exact iff_of_true rfl fun children modifiedAt h => (by cases h)
    | directory children modifiedAt =>
      have hname : get? children name = none := by
        rw [List.nil_append, resolveFrom_directory_cons] at hnone
        cases hfound : get? children name with
        | none => rfl
        | some child =>
          rw [hfound, Option.bind_some, resolveFrom_nil] at hnone
          cases hnone
      rw [removeAt, hname]
      constructor
      · intro h children' modifiedAt' hsame
        rw [Option.some.injEq, directory.injEq] at hsame
        exact hsame.2 ▸ (directory.inj h).2.symm
      · intro h
        rw [h children modifiedAt rfl]
  | cons component rest ih =>
    cases current with
    | file => exact iff_of_true rfl fun children modifiedAt h => (by cases h)
    | directory children modifiedAt =>
      rw [List.cons_append, resolveFrom_directory_cons] at hnone
      rw [removeAt, resolveFrom_directory_cons]
      cases hchild : get? children component with
      | none => exact iff_of_true rfl fun children modifiedAt h => (by cases h)
      | some child =>
        rw [hchild, Option.bind_some] at hnone
        rw [Option.bind_some, ← ih (hordered.get? hchild) hnone, directory.injEq,
          insert_eq_self_iff hordered hchild]
        exact and_iff_left rfl

end

end NamespaceEntry

/-! ## 3. Edits of a signed namespace -/

namespace Namespace

open NamespaceEntry

/-- When a `put` changes nothing by failing: the path is the root's, or no file stands on the way,
so that it does not fail, or the directories on the way bear the times they are stamped with. -/
def PutKeeps (ns : Namespace) (clock : Readings) (path : String) : Prop :=
  pathComponents path = [] ∨ ¬Blocked ns.root.1 (pathComponents path).dropLast ∨
    Stamped clock.entered ns.root.1 (pathComponents path).dropLast

/-- When a `remove` changes nothing by failing: the path is the root's, or what it takes out is
there, so that it does not fail, or it finds no directory, or one that bears the time that it is
stamped with. -/
def RemoveKeeps (ns : Namespace) (clock : Readings) (path : String) : Prop :=
  pathComponents path = [] ∨ (ns.root.1.resolveFrom (removed path)).isSome ∨
    ∀ children modifiedAt,
      ns.resolve (parentPath (pathComponents path)) = some (directory children modifiedAt) →
        modifiedAt = clock.entered 0

/-- An edit changes nothing by failing, and takes the signature away by succeeding. -/
def Harmless {ε α : Type} (ns : Namespace) (outcome : Namespace × Except ε α) : Prop :=
  (∀ e, outcome.2 = .error e → outcome.1 = ns) ∧ ∀ a, outcome.2 = .ok a → outcome.1.signature = none

section

variable {ε α : Type} {ns : Namespace} {root : OrderedEntry} {modified : SecureTimestamp}
  {result : Except ε α}

theorem edited_eq_self_iff (modified : SecureTimestamp) :
    ns.edited root modified false = ns ↔ root.1 = ns.root.1 := by
  constructor
  · intro h
    rw [← h]
    rfl
  · intro h
    rw [edited, if_neg Bool.false_ne_true, Subtype.ext h]

/-- **Only a failed edit can do harm**, and does so by changing the tree. -/
theorem harmless_edited_iff :
    Harmless ns (ns.edited root modified result.toBool, result) ↔
      ((∃ a, result = .ok a) ∨ root.1 = ns.root.1) := by
  cases result with
  | ok a =>
    refine iff_of_true ⟨fun e h => (by cases h), fun _ _ => rfl⟩ (.inl ⟨a, rfl⟩)
  | error e =>
    constructor
    · intro h
      exact .inr ((edited_eq_self_iff modified).mp (h.1 e rfl))
    · rintro (⟨a, h⟩ | h)
      · cases h
      · exact ⟨fun _ _ => (edited_eq_self_iff modified).mpr h, fun _ h => (by cases h)⟩

theorem harmless_refused {e : ε} : Harmless ns (ns, (.error e : Except ε α)) :=
  ⟨fun _ _ => rfl, fun _ h => (by cases h)⟩

end

theorem harmless_put_iff (ns : Namespace) (clock : Readings) (path : String)
    (entry : OrderedEntry) : Harmless ns (ns.put clock path entry) ↔ ns.PutKeeps clock path := by
  obtain ⟨hpath, hput⟩ | ⟨parent, name, root, hpath, hroot, hput⟩ := put_cases ns clock path entry
  · rw [hput]
    exact iff_of_true harmless_refused (.inl hpath)
  · have hne : pathComponents path ≠ [] := by
      rw [hpath]
      exact List.append_ne_nil_of_right_ne_nil _ (List.cons_ne_nil _ _)
    have hok : (∃ a, (putAt clock name entry.1 0 parent "" ns.root.1).2 = .ok a) ↔
        ¬Blocked ns.root.1 parent := by
      rw [← putAt_eq_ok_iff]
      exact ⟨fun h => h.elim fun _ h => h, fun h => ⟨(), h⟩⟩
    rw [hput, harmless_edited_iff, hok, hroot, PutKeeps, or_iff_right hne, hpath,
      List.dropLast_concat]
    by_cases hblocked : Blocked ns.root.1 parent
    · rw [or_iff_right (not_not.mpr hblocked), or_iff_right (not_not.mpr hblocked),
        putAt_eq_self_iff ns.root.2 hblocked]
      simp only [Nat.zero_add]
    · exact iff_of_true (.inl hblocked) (.inl hblocked)

theorem harmless_remove_iff (ns : Namespace) (clock : Readings) (path : String) :
    Harmless ns (ns.remove clock path) ↔ ns.RemoveKeeps clock path := by
  obtain ⟨hpath, hremove⟩ | ⟨name, root, hpath, hroot, hremove⟩ := remove_cases ns clock path
  · rw [hremove]
    exact iff_of_true harmless_refused (.inl hpath)
  · have hne : pathComponents path ≠ [] := by
      rw [hpath]
      exact List.append_ne_nil_of_right_ne_nil _ (List.cons_ne_nil _ _)
    have hlast : (pathComponents path).getLast? = some name := by
      rw [hpath, List.getLast?_concat]
    rw [hremove, harmless_edited_iff, hroot, RemoveKeeps, or_iff_right hne, resolve, removed,
      hlast, Option.toList_some]
    generalize pathComponents (parentPath (pathComponents path)) = parent
    cases hfound : ns.root.1.resolveFrom (parent ++ [name]) with
    | some found => exact iff_of_true (.inl ⟨found, removeAt_eq_ok.mpr hfound⟩) (.inl rfl)
    | none =>
      rw [removeAt_eq_self_iff ns.root.2 hfound, or_iff_right, or_iff_right]
      · exact Bool.false_ne_true
      · rintro ⟨found, hok⟩
        rw [removeAt_eq_ok.mp hok] at hfound
        cases hfound

/-! ## 4. Runs -/

inductive Edit where
  | put (clock : Readings) (path : String) (entry : OrderedEntry)
  | remove (clock : Readings) (path : String)
  | sign (signingKey : Bytes 32)

/-- The edit changes nothing by failing. -/
def Keeps (ns : Namespace) : Edit → Prop
  | .put clock path _ => ns.PutKeeps clock path
  | .remove clock path => ns.RemoveKeeps clock path
  | .sign _ => True

section

variable [FloatText] [Crypto] [NamespaceCrates]

def apply (ns : Namespace) : Edit → Namespace
  | .put clock path entry => (ns.put clock path entry).1
  | .remove clock path => (ns.remove clock path).1
  | .sign signingKey => (ns.sign signingKey).1

/-- The namespace after a run of edits. -/
def run (ns : Namespace) (edits : List Edit) : Namespace := edits.foldl apply ns

/-- Every edit of a run changes nothing by failing. -/
def KeepsAlong : Namespace → List Edit → Prop
  | _, [] => True
  | ns, edit :: rest => ns.Keeps edit ∧ KeepsAlong (ns.apply edit) rest

theorem covered_of_harmless {ε α : Type} {ns : Namespace} {outcome : Namespace × Except ε α}
    (hcovered : ns.Covered) (h : Harmless ns outcome) : outcome.1.Covered := by
  cases hresult : outcome.2 with
  | ok a => exact .inl (h.2 a hresult)
  | error e =>
    rw [h.1 e hresult]
    exact hcovered

variable [LawfulCrypto] [LawfulNamespaceCrates]

theorem covered_apply {ns : Namespace} {edit : Edit} (hcovered : ns.Covered)
    (hkeeps : ns.Keeps edit) : (ns.apply edit).Covered := by
  cases edit with
  | put clock path entry =>
    exact covered_of_harmless hcovered ((harmless_put_iff ns clock path entry).mpr hkeeps)
  | remove clock path =>
    exact covered_of_harmless hcovered ((harmless_remove_iff ns clock path).mpr hkeeps)
  | sign signingKey => exact covered_sign hcovered signingKey

/-- By induction on the run, from the namespace it starts with. -/
theorem covered_run {edits : List Edit} {ns : Namespace} (hcovered : ns.Covered)
    (hkeeps : ns.KeepsAlong edits) : (ns.run edits).Covered := by
  induction edits generalizing ns with
  | nil => exact hcovered
  | cons edit rest ih => exact ih (covered_apply hcovered hkeeps.1) hkeeps.2

/-- **When a failed edit changes nothing.**  Of a namespace that verifies an edit that fails leaves
everything as it was, and one that succeeds takes the signature away, exactly under these
conditions; and along a run that meets them whatever signature is there verifies. -/
theorem failed_edit_iff {ns : Namespace} (hverified : ns.verify = .ok true) :
    (∀ clock path entry,
      ((∀ e, (ns.put clock path entry).2 = .error e →
          (ns.put clock path entry).1 = ns ∧ (ns.put clock path entry).1.verify = .ok true ∧
            (ns.put clock path entry).1.toCid = ns.toCid) ∧
        ((ns.put clock path entry).2 = .ok () → (ns.put clock path entry).1.signature = none)) ↔
      ns.PutKeeps clock path) ∧
    (∀ clock path,
      ((∀ e, (ns.remove clock path).2 = .error e →
          (ns.remove clock path).1 = ns ∧ (ns.remove clock path).1.verify = .ok true ∧
            (ns.remove clock path).1.toCid = ns.toCid) ∧
        (∀ removed, (ns.remove clock path).2 = .ok removed →
          (ns.remove clock path).1.signature = none)) ↔
      ns.RemoveKeeps clock path) ∧
    ∀ edits, ns.KeepsAlong edits → (ns.run edits).Covered := by
  have hsame : ∀ {ε α : Type} {outcome : Namespace × Except ε α},
      ((∀ e, outcome.2 = .error e → outcome.1 = ns ∧ outcome.1.verify = .ok true ∧
        outcome.1.toCid = ns.toCid) ∧ ∀ a, outcome.2 = .ok a → outcome.1.signature = none) ↔
      Harmless ns outcome := by
    intro ε α outcome
    refine and_congr_left fun _ => forall₂_congr fun e _ => ⟨fun h => h.1, fun h => ?_⟩
    rw [h]
    exact ⟨rfl, hverified, rfl⟩
  refine ⟨fun clock path entry => ?_, fun clock path => ?_, fun edits h =>
    covered_run (.inr hverified) h⟩
  · rw [← harmless_put_iff ns clock path entry, ← hsame]
    exact and_congr_right fun _ => ⟨fun h _ => h, fun h => h ()⟩
  · rw [← harmless_remove_iff, ← hsame]

end

/-! ## 5. A signature left behind -/

/-- The first 32 bytes. -/
def padded (bytes : List UInt8) : List UInt8 := (bytes ++ List.replicate 32 0).take 32

/-- A scheme to evaluate the model with: a message is hashed to the sum of its bytes, and a
signature is the key and the message. -/
@[reducible] def sumEchoCrypto : Crypto where
  sha256 := fun bytes => ⟨bytes.sum :: List.replicate 31 0, rfl⟩
  verifyingKey := id
  sign := fun sk message => ⟨sk.toList ++ padded message, by simp [padded]⟩
  verify := fun vk message signature => signature.toList == vk.toList ++ padded message

theorem sumEchoCrypto_lawful : @LawfulCrypto sumEchoCrypto :=
  @LawfulCrypto.mk sumEchoCrypto fun sk message => beq_self_eq_true (sk.toList ++ padded message)

/-- Libraries to evaluate the model with: bytes are written in hexadecimal. -/
@[reducible] def hexCrates : NamespaceCrates where
  base64Encode := hexEncode
  base64Decode := hexDecode
  isVerifyingKey := fun _ => true

theorem hexCrates_lawful : @LawfulNamespaceCrates sumEchoCrypto hexCrates :=
  @LawfulNamespaceCrates.mk sumEchoCrypto hexCrates hexDecode_hexEncode fun _ => rfl

@[reducible] def noFloats : FloatText where
  floatText := fun _ => []

attribute [local instance] sumEchoCrypto hexCrates noFloats

/-- A signed namespace with one file. -/
def signedSample : Namespace :=
  ({ withFile "a" with owner := hexEncode (Bytes.zero 32).toList }.sign (Bytes.zero 32)).1

theorem signedSample_verified : signedSample.verify = .ok true := by
  decide +kernel

theorem failed_edit_iff_sample :
    (signedSample.run [.put (stillClock ⟨1, 1⟩) "/" (sampleFile ⟨1, 1⟩),
      .sign (Bytes.zero 32)]).Covered := by
  have hroot : pathComponents "/" = [] := by decide +kernel
  exact (@failed_edit_iff _ _ _ sumEchoCrypto_lawful hexCrates_lawful _
    signedSample_verified).2.2 _ ⟨.inl hroot, trivial, trivial⟩

/-- A file cannot be walked into, but the root has been stamped by then: the namespace keeps a
signature that is not over it. -/
theorem failed_put_leaves_signature :
    signedSample.verify = .ok true ∧
      (signedSample.put (stillClock ⟨1, 1⟩) "a/f" (sampleFile ⟨1, 1⟩)).2 =
        .error (.notADirectory "a") ∧
      (signedSample.put (stillClock ⟨1, 1⟩) "a/f" (sampleFile ⟨1, 1⟩)).1 ≠ signedSample ∧
      (signedSample.put (stillClock ⟨1, 1⟩) "a/f" (sampleFile ⟨1, 1⟩)).1.verify = .ok false ∧
      (signedSample.put (stillClock ⟨1, 1⟩) "a/f" (sampleFile ⟨1, 1⟩)).1.toCid ≠
        signedSample.toCid := by
  have hverify : (signedSample.put (stillClock ⟨1, 1⟩) "a/f" (sampleFile ⟨1, 1⟩)).1.verify =
      .ok false := by decide +kernel
  refine ⟨signedSample_verified, by decide +kernel, fun hsame => ?_, hverify, by decide +kernel⟩
  rw [hsame, signedSample_verified] at hverify
  cases hverify

end Namespace

end ElastosRuntime.StampedNamespace
