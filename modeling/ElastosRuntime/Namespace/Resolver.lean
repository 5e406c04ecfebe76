/-
# Resolving content by its identifier

`resolver.rs`: `elastos://` URIs, the verification of what a gateway answers, and the cache of
earlier answers, in memory and in files.  Gateways answer as they like; files may be unreadable, and
writing one may fail.

What the cache holds is filed under the identifier alone and served as verified.
`fetch_correct_iff` says when that is right, and `trusted_after` for which fetches it stays so.
-/
import ElastosRuntime.Primitives
import ElastosRuntime.Lib.Segments
import Mathlib.Logic.Function.Basic

namespace ElastosRuntime.Namespace

open Text

/-! ## 1. URIs -/

inductive IdentifierType where
  | ipfsCid
  | sha256
  | unknown
deriving DecidableEq

structure ContentUri where
  identifier : String
  idType : IdentifierType
  path : Option String
deriving DecidableEq

inductive ParseError where
  | invalidScheme
  | emptyIdentifier
  | invalidIdentifier (id : String)
deriving DecidableEq

namespace ContentUri

def detectType (id : String) : IdentifierType :=
  if (match stripPrefix id "sha256:" with
      | some hash => byteLength hash == 64 && all hash isAsciiHexdigit
      | none => false) then .sha256
  else if startsWith id "Qm" && byteLength id == 46 then .ipfsCid
  else if startsWith id "baf" && 50 ≤ byteLength id then .ipfsCid
  else .unknown

def parse (uri : String) : Except ParseError ContentUri :=
  match stripPrefix uri "elastos://" with
  | none => .error .invalidScheme
  | some rest =>
    if rest = "" then .error .emptyIdentifier
    else
      let (identifier, path) :=
        match splitOnce rest '/' with
        | some (id, path) => (id, if path = "" then none else some path)
        | none => (rest, none)
      let idType := detectType identifier
      if idType = .unknown then .error (.invalidIdentifier identifier)
      else .ok ⟨identifier, idType, path⟩

end ContentUri

/-! ## 2. Verification -/

/-- A CID as the `cid` crate parses it. -/
structure Cid where
  version : Nat
  codec : Nat
  hashCode : Nat
  digest : List UInt8

/-- The parser of the `cid` crate, and the hash functions of multihash other than SHA2-256. -/
class CidCrate where
  parse : String → Option Cid
  otherHash : Nat → List UInt8 → List UInt8

inductive CidVerification where
  | verified
  | unverifiable (reason : String)
  | invalidCid
  | mismatch
deriving DecidableEq

section

variable [Crypto] [CidCrate]

def verifyCidContent (cidStr : String) (content : List UInt8) : CidVerification :=
  match CidCrate.parse cidStr with
  | none => .invalidCid
  | some parsed =>
    if parsed.version ≠ 1 ∨ parsed.codec ≠ 0x55 then .unverifiable "non-raw codec"
    else if parsed.hashCode ≠ 0x12 then .unverifiable "unsupported hash function"
    else if (Crypto.sha256 content).toList = parsed.digest then .verified
    else .mismatch

def hashContent (content : List UInt8) : String :=
  "sha256:" ++ hexEncode (Crypto.sha256 content).toList

def verifyHash (content : List UInt8) (expected : String) : Bool := hashContent content == expected

/-! ## 3. The resolver -/

structure ResolverConfig where
  cacheDir : Option String
  ipfsGateways : List String
  maxContentSize : Nat
  enableCache : Bool

inductive FetchSource where
  | localCache
  | ipfsGateway (gateway : String)
deriving DecidableEq

structure FetchResult where
  content : List UInt8
  source : FetchSource
  verified : Bool
deriving DecidableEq

inductive FetchError where
  | parse (err : ParseError)
  | notFound
  | hashMismatch (expected actual : String)
  | tooLarge (size max : Nat)
  | network (message : String)
  | io (message : String)
deriving DecidableEq

/-- What writing a cache file comes to: a failed write may have left the beginning of it. -/
inductive WriteFate where
  | written
  | noDirectory
  | failed (left : Option Nat)
deriving DecidableEq

/-- What one fetch finds: the answer of each gateway to a URL, whether the cache file can be read
the first and the second time, and what writing it comes to. -/
structure Circumstances where
  answers : Nat → String → Except FetchError (List UInt8)
  readable : Nat → Bool
  write : WriteFate

/-- The cache in memory, and the files of the cache directory. -/
structure ContentResolver where
  cache : String → Option (List UInt8)
  files : String → Option (List UInt8)

def ContentResolver.empty : ContentResolver := ⟨fun _ => none, fun _ => none⟩

def cacheFilename (identifier : String) : String :=
  hexEncode ((Crypto.sha256 (utf8Bytes identifier)).toList.take 16) ++ ".cache"

/-- The cache file of an identifier, where there is a directory and it can be read. -/
def readCacheFile (config : ResolverConfig) (s : ContentResolver) (readable : Bool)
    (identifier : String) : Option (List UInt8) :=
  if config.cacheDir.isSome && readable then s.files (cacheFilename identifier) else none

def checkCache (config : ResolverConfig) (s : ContentResolver) (at_ : Circumstances)
    (identifier : String) : Option (List UInt8) × ContentResolver :=
  match s.cache identifier with
  | some content => (some content, s)
  | none =>
    match readCacheFile config s (at_.readable 0) identifier with
    | some content =>
      (some content, { s with cache := Function.update s.cache identifier (some content) })
    | none => (none, s)

/-- What a cache file holds after it was written. -/
def WriteFate.leaves (fate : WriteFate) (content : List UInt8) (before : Option (List UInt8)) :
    Option (List UInt8) :=
  match fate with
  | .written => some content
  | .noDirectory | .failed none => before
  | .failed (some n) => some (content.take n)

def storeCache (config : ResolverConfig) (s : ContentResolver) (at_ : Circumstances)
    (identifier : String) (content : List UInt8) : ContentResolver where
  cache := Function.update s.cache identifier (some content)
  files :=
    if config.cacheDir.isSome then
      Function.update s.files (cacheFilename identifier)
        (at_.write.leaves content (s.files (cacheFilename identifier)))
    else s.files

def fetchUrl (config : ResolverConfig) (answer : Except FetchError (List UInt8)) :
    Except FetchError (List UInt8) := do
  let bytes ← answer
  if config.maxContentSize < bytes.length then
    .error (.tooLarge bytes.length config.maxContentSize)
  else .ok bytes

def pathSuffix (uri : ContentUri) : String :=
  match uri.path with
  | some path => "/" ++ path
  | none => ""

def gatewayUrl (gateway : String) (uri : ContentUri) : String :=
  trimEndMatches gateway '/' ++ "/ipfs/" ++ uri.identifier ++ pathSuffix uri

/-- Whether what a gateway has returned counts as verified; `none` when it is rejected. -/
def verdict (uri : ContentUri) (content : List UInt8) : Option Bool :=
  if pathSuffix uri = "" then
    match verifyCidContent uri.identifier content with
    | .verified => some true
    | .unverifiable _ | .invalidCid => some false
    | .mismatch => none
  else some false

/-- The loop of `fetch_from_ipfs` over the gateways from the `i`-th on. -/
def tryGateways (config : ResolverConfig) (s : ContentResolver) (at_ : Circumstances)
    (uri : ContentUri) : Nat → List String → Except FetchError FetchResult × ContentResolver
  | _, [] => (.error .notFound, s)
  | i, gateway :: rest =>
    match fetchUrl config (at_.answers i (gatewayUrl gateway uri)) with
    | .error _ => tryGateways config s at_ uri (i + 1) rest
    | .ok content =>
      match verdict uri content with
      | none => tryGateways config s at_ uri (i + 1) rest
      | some verified =>
        (.ok ⟨content, .ipfsGateway gateway, verified⟩,
          if config.enableCache then storeCache config s at_ uri.identifier content else s)

def fetchFromIpfs (config : ResolverConfig) (s : ContentResolver) (at_ : Circumstances)
    (uri : ContentUri) : Except FetchError FetchResult × ContentResolver :=
  tryGateways config s at_ uri 0 config.ipfsGateways

def fetchBySha256 (config : ResolverConfig) (s : ContentResolver) (at_ : Circumstances)
    (uri : ContentUri) : Except FetchError FetchResult :=
  match readCacheFile config s (at_.readable 1) uri.identifier with
  | some content =>
    if verifyHash content uri.identifier then .ok ⟨content, .localCache, true⟩
    else .error .notFound
  | none => .error .notFound

def fetchUri (config : ResolverConfig) (s : ContentResolver) (at_ : Circumstances)
    (uri : ContentUri) : Except FetchError FetchResult × ContentResolver :=
  let (cached, s) := if config.enableCache then checkCache config s at_ uri.identifier else (none, s)
  match cached with
  -- whatever is in the cache counts as verified
  | some content => (.ok ⟨content, .localCache, true⟩, s)
  | none =>
    match uri.idType with
    | .ipfsCid => fetchFromIpfs config s at_ uri
    | .sha256 => (fetchBySha256 config s at_ uri, s)
    | .unknown => (.error .notFound, s)

/-- A fetch: of which URI, and what it finds. -/
structure Request where
  uri : String
  at_ : Circumstances

def fetch (config : ResolverConfig) (s : ContentResolver) (request : Request) :
    Except FetchError FetchResult × ContentResolver :=
  match ContentUri.parse request.uri with
  | .error err => (.error (.parse err), s)
  | .ok uri => fetchUri config s request.at_ uri

/-- The resolver after some fetches. -/
def after (config : ResolverConfig) (s : ContentResolver) (requests : List Request) :
    ContentResolver :=
  requests.foldl (fun s request => (fetch config s request).2) s

/-! ## 4. What a fetch may return -/

/-- The hash function of a multihash code. -/
def multihash (code : Nat) (content : List UInt8) : List UInt8 :=
  if code = 0x12 then (Crypto.sha256 content).toList else CidCrate.otherHash code content

/-- The content hashes to the digest in the identifier. -/
def HashesTo (identifier : String) (content : List UInt8) : Prop :=
  (∃ hash, stripPrefix identifier "sha256:" = some hash ∧
    hexDecode hash = some (Crypto.sha256 content).toList) ∨
  ∃ cid, CidCrate.parse identifier = some cid ∧ multihash cid.hashCode content = cid.digest

/-- A gateway has returned the content for the identifier and the path. -/
def Returned (config : ResolverConfig) (request : Request) (identifier : String)
    (path : Option String) (content : List UInt8) : Prop :=
  ∃ uri i gateway, ContentUri.parse request.uri = .ok uri ∧ uri.identifier = identifier ∧
    uri.path = path ∧ config.ipfsGateways[i]? = some gateway ∧
      request.at_.answers i (gatewayUrl gateway uri) = .ok content

/-- What a fetch returns is what its URI names, given the fetches so far. -/
def Correct (config : ResolverConfig) (sofar : List Request) (request : Request)
    (result : Except FetchError FetchResult) : Prop :=
  ∀ uri r, ContentUri.parse request.uri = .ok uri → result = .ok r →
    ((∃ earlier ∈ sofar, Returned config earlier uri.identifier uri.path r.content) ∨
      HashesTo uri.identifier r.content) ∧
    (r.verified = true → HashesTo uri.identifier r.content)

/-- What the cache holds for the URI of the fetch, if it is asked, hashes to the identifier. -/
def Trusted (config : ResolverConfig) (s : ContentResolver) (request : Request) : Prop :=
  config.enableCache = true → ∀ uri content, ContentUri.parse request.uri = .ok uri →
    (checkCache config s request.at_ uri.identifier).1 = some content →
      HashesTo uri.identifier content

section

variable {config : ResolverConfig} {s : ContentResolver} {at_ : Circumstances} {uri : ContentUri}
  {content : List UInt8} {request : Request} {r : FetchResult}

theorem hashesTo_of_verified (h : verifyCidContent uri.identifier content = .verified) :
    HashesTo uri.identifier content := by
  rw [verifyCidContent] at h
  split at h
  · cases h
  · rename_i cid hparse
    split at h
    · cases h
    split at h
    · cases h
    rename_i hcode
    split at h
    · rename_i hdigest
      refine Or.inr ⟨cid, hparse, ?_⟩
      rw [multihash, if_pos (not_not.mp hcode)]
      exact hdigest
    · cases h

theorem hashesTo_of_verifyHash (h : verifyHash content uri.identifier = true) :
    HashesTo uri.identifier content := by
  refine Or.inl ⟨hexEncode (Crypto.sha256 content).toList, ?_, hexDecode_hexEncode _⟩
  rw [← beq_iff_eq.mp h, hashContent]
  exact stripPrefix_eq_some_iff.mpr rfl

theorem hashesTo_of_verdict (h : verdict uri content = some true) :
    HashesTo uri.identifier content := by
  rw [verdict] at h
  split at h
  · split at h
    · rename_i hverified
      exact hashesTo_of_verified hverified
    · cases h
    · cases h
    · cases h
  · cases h

/-- What a gateway's answer leads to, wherever in the list the gateway stands. -/
theorem tryGateways_eq_ok {gateways : List String} {i : Nat}
    (h : (tryGateways config s at_ uri i gateways).1 = .ok r) :
    ∃ k gateway, gateways[k]? = some gateway ∧
      at_.answers (i + k) (gatewayUrl gateway uri) = .ok r.content ∧
        verdict uri r.content = some r.verified := by
  induction gateways generalizing i with
  | nil => cases h
  | cons gateway rest ih =>
    have hlater : (tryGateways config s at_ uri (i + 1) rest).1 = .ok r →
        ∃ k other, (gateway :: rest)[k]? = some other ∧
          at_.answers (i + k) (gatewayUrl other uri) = .ok r.content ∧
            verdict uri r.content = some r.verified := by
      intro hrest
      obtain ⟨k, other, hother, hanswer, hverdict⟩ := ih hrest
      exact ⟨k + 1, other, hother, by rw [← hanswer, Nat.add_right_comm, Nat.add_assoc], hverdict⟩
    rw [tryGateways] at h
    split at h
    · exact hlater h
    · rename_i bytes hbytes
      split at h
      · exact hlater h
      · rename_i verified hverdict
        simp only [Except.ok.injEq] at h
        subst h
        refine ⟨0, gateway, rfl, ?_, hverdict⟩
        rw [fetchUrl] at hbytes
        cases hanswer : at_.answers i (gatewayUrl gateway uri) with
        | error err =>
          rw [hanswer] at hbytes
          cases hbytes
        | ok answer =>
          simp only [hanswer, bind, Except.bind] at hbytes
          split at hbytes
          · cases hbytes
          · exact hbytes

/-- **Where what a fetch returns comes from.** -/
theorem fetchUri_eq_ok (h : (fetchUri config s at_ uri).1 = .ok r) :
    (config.enableCache = true ∧ (checkCache config s at_ uri.identifier).1 = some r.content ∧
      r.verified = true) ∨
    ((config.enableCache = true → (checkCache config s at_ uri.identifier).1 = none) ∧
      ((∃ i gateway, config.ipfsGateways[i]? = some gateway ∧
          at_.answers i (gatewayUrl gateway uri) = .ok r.content ∧
            verdict uri r.content = some r.verified) ∨
        HashesTo uri.identifier r.content)) := by
  have hmiss : ∀ s', (match uri.idType with
      | .ipfsCid => fetchFromIpfs config s' at_ uri
      | .sha256 => (fetchBySha256 config s' at_ uri, s')
      | .unknown => (.error .notFound, s')).1 = .ok r →
      (∃ i gateway, config.ipfsGateways[i]? = some gateway ∧
          at_.answers i (gatewayUrl gateway uri) = .ok r.content ∧
            verdict uri r.content = some r.verified) ∨
        HashesTo uri.identifier r.content := by
    intro s' hrest
    split at hrest
    · obtain ⟨k, gateway, hgateway, hanswer, hverdict⟩ := tryGateways_eq_ok hrest
      rw [Nat.zero_add] at hanswer
      exact Or.inl ⟨k, gateway, hgateway, hanswer, hverdict⟩
    · dsimp only at hrest
      rw [fetchBySha256] at hrest
      split at hrest
      · split at hrest
        · rename_i hhash
          cases hrest
          exact Or.inr (hashesTo_of_verifyHash hhash)
        · cases hrest
      · cases hrest
    · cases hrest
  rw [fetchUri] at h
  by_cases hcache : config.enableCache = true
  · rw [if_pos hcache] at h
    rcases hfound : checkCache config s at_ uri.identifier with ⟨_ | content, s'⟩
    · rw [hfound] at h
      exact Or.inr ⟨fun _ => rfl, hmiss s' h⟩
    · rw [hfound] at h
      cases h
      exact Or.inl ⟨hcache, rfl, rfl⟩
  · rw [if_neg hcache] at h
    exact Or.inr ⟨fun hon => absurd hon hcache, hmiss s h⟩

theorem fetchUri_of_cached (hcache : config.enableCache = true)
    (hfound : (checkCache config s at_ uri.identifier).1 = some content) :
    (fetchUri config s at_ uri).1 = .ok ⟨content, .localCache, true⟩ := by
  rw [fetchUri, if_pos hcache]
  rcases hcheck : checkCache config s at_ uri.identifier with ⟨found, s'⟩
  rw [hcheck] at hfound
  obtain rfl : found = some content := hfound
  rfl

/-- **A fetch returns what its URI names just when it can trust the cache.** -/
theorem fetch_correct_iff (config : ResolverConfig) (s : ContentResolver) (earlier : List Request)
    (request : Request) :
    Correct config (earlier ++ [request]) request (fetch config s request).1 ↔
      Trusted config s request := by
  constructor
  · intro hcorrect hcache uri content huri hfound
    refine (hcorrect uri ⟨content, .localCache, true⟩ huri ?_).2 rfl
    rw [fetch, huri]
    exact fetchUri_of_cached hcache hfound
  · intro htrusted uri r huri hresult
    have hnow : request ∈ earlier ++ [request] :=
      List.mem_append_right earlier (List.mem_singleton.mpr rfl)
    rw [fetch, huri] at hresult
    rcases fetchUri_eq_ok hresult with ⟨hcache, hfound, -⟩ | ⟨-, hgateway | hhashes⟩
    · have hhashes := htrusted hcache uri r.content huri hfound
      exact ⟨Or.inr hhashes, fun _ => hhashes⟩
    · obtain ⟨i, gateway, hat, hanswer, hverdict⟩ := hgateway
      refine ⟨Or.inl ⟨request, hnow, uri, i, gateway, huri, rfl, rfl, hat, hanswer⟩, ?_⟩
      intro hverified
      rw [hverified] at hverdict
      exact hashesTo_of_verdict hverdict
    · exact ⟨Or.inr hhashes, fun _ => hhashes⟩

end

/-! ## 5. When the cache can be trusted -/

/-- A CID that a gateway's answer can be verified against. -/
def Verifiable (identifier : String) : Prop :=
  ∃ cid, CidCrate.parse identifier = some cid ∧ cid.version = 1 ∧ cid.codec = 0x55 ∧
    cid.hashCode = 0x12

/-- A fetch that puts nothing into the cache that was not verified: of a hash, or of a bare CID that
answers are verified against, with a cache file that is written as a whole or not at all. -/
def Careful (request : Request) : Prop :=
  ∀ uri, ContentUri.parse request.uri = .ok uri →
    (uri.idType = .sha256 ∨ uri.path = none ∧ Verifiable uri.identifier) ∧
      ∀ n, request.at_.write ≠ .failed (some n)

/-- What is in the cache for one of the identifiers hashes to it. -/
structure Sound (identifiers : List String) (s : ContentResolver) : Prop where
  cache : ∀ identifier content, s.cache identifier = some content → HashesTo identifier content
  files : ∀ identifier ∈ identifiers, ∀ content,
    s.files (cacheFilename identifier) = some content → HashesTo identifier content

section

variable {config : ResolverConfig} {s : ContentResolver} {at_ : Circumstances} {uri : ContentUri}
  {content : List UInt8} {request : Request} {identifiers : List String}

theorem Sound.empty (identifiers : List String) : Sound identifiers ContentResolver.empty :=
  ⟨fun _ _ h => (by cases h), fun _ _ _ h => (by cases h)⟩

theorem Sound.insert (h : Sound identifiers s) (hcontent : HashesTo uri.identifier content) :
    Sound identifiers
      { s with cache := Function.update s.cache uri.identifier (some content) } := by
  refine ⟨fun identifier found hfound => ?_, h.files⟩
  dsimp only at hfound
  by_cases hsame : identifier = uri.identifier
  · rw [hsame, Function.update_self, Option.some.injEq] at hfound
    rw [hsame, ← hfound]
    exact hcontent
  · rw [Function.update_of_ne hsame] at hfound
    exact h.cache identifier found hfound

/-- What a careful fetch asks the cache for is found or not, and the cache stays sound. -/
theorem Sound.checkCache (h : Sound identifiers s) (hmem : uri.identifier ∈ identifiers) :
    Sound identifiers (Namespace.checkCache config s at_ uri.identifier).2 ∧
      ∀ found, (Namespace.checkCache config s at_ uri.identifier).1 = some found →
        HashesTo uri.identifier found := by
  rw [Namespace.checkCache]
  split
  · rename_i found hfound
    refine ⟨h, fun other hother => ?_⟩
    obtain rfl : found = other := Option.some.inj hother
    exact h.cache _ _ hfound
  · split
    · rename_i found hfound
      rw [readCacheFile] at hfound
      split at hfound
      · have hhashes := h.files _ hmem _ hfound
        refine ⟨h.insert hhashes, fun other hother => ?_⟩
        obtain rfl : found = other := Option.some.inj hother
        exact hhashes
      · cases hfound
    · exact ⟨h, fun found hfound => by cases hfound⟩

theorem Sound.storeCache (h : Sound identifiers s) (hmem : uri.identifier ∈ identifiers)
    (hnames : ∀ a ∈ identifiers, ∀ b ∈ identifiers, cacheFilename a = cacheFilename b → a = b)
    (hwhole : ∀ n, at_.write ≠ .failed (some n)) (hcontent : HashesTo uri.identifier content) :
    Sound identifiers (Namespace.storeCache config s at_ uri.identifier content) := by
  have hinsert := h.insert hcontent
  refine ⟨hinsert.cache, fun identifier hidentifier found hfound => ?_⟩
  rw [Namespace.storeCache] at hfound
  dsimp only at hfound
  split at hfound
  · by_cases hsame : identifier = uri.identifier
    · rw [hsame, Function.update_self] at hfound
      rw [hsame]
      cases hwrite : at_.write with
      | written =>
        rw [hwrite, WriteFate.leaves, Option.some.injEq] at hfound
        exact hfound ▸ hcontent
      | noDirectory =>
        rw [hwrite, WriteFate.leaves] at hfound
        exact h.files _ hmem _ hfound
      | failed left =>
        cases left with
        | none =>
          rw [hwrite, WriteFate.leaves] at hfound
          exact h.files _ hmem _ hfound
        | some n => exact absurd hwrite (hwhole n)
    · have hother : cacheFilename identifier ≠ cacheFilename uri.identifier :=
        fun hname => hsame (hnames _ hidentifier _ hmem hname)
      rw [Function.update_of_ne hother] at hfound
      exact h.files _ hidentifier _ hfound
  · exact h.files _ hidentifier _ hfound

/-- What a gateway returns for a verifiable bare CID is rejected or hashes to it. -/
theorem hashesTo_of_verdict_of_verifiable {verified : Bool} (hpath : uri.path = none)
    (hverifiable : Verifiable uri.identifier) (h : verdict uri content = some verified) :
    HashesTo uri.identifier content := by
  obtain ⟨cid, hparse, hversion, hcodec, hcode⟩ := hverifiable
  have hsuffix : pathSuffix uri = "" := by rw [pathSuffix, hpath]
  refine hashesTo_of_verified ?_
  have hplain : verifyCidContent uri.identifier content =
      if (Crypto.sha256 content).toList = cid.digest then .verified else .mismatch := by
    rw [verifyCidContent, hparse]
    dsimp only
    rw [if_neg (by simp [hversion, hcodec]), if_neg (by simp [hcode])]
  rw [verdict, if_pos hsuffix, hplain] at h
  rw [hplain]
  split at h
  · rename_i hsame
    exact hsame
  · rename_i hsame
    split at hsame <;> cases hsame
  · rename_i hsame
    split at hsame <;> cases hsame
  · cases h

theorem Sound.tryGateways (h : Sound identifiers s) (hmem : uri.identifier ∈ identifiers)
    (hnames : ∀ a ∈ identifiers, ∀ b ∈ identifiers, cacheFilename a = cacheFilename b → a = b)
    (hwhole : ∀ n, at_.write ≠ .failed (some n)) (hpath : uri.path = none)
    (hverifiable : Verifiable uri.identifier) (gateways : List String) : ∀ i,
    Sound identifiers (Namespace.tryGateways config s at_ uri i gateways).2 := by
  induction gateways with
  | nil => exact fun _ => h
  | cons gateway rest ih =>
    intro i
    rw [Namespace.tryGateways]
    split
    · exact ih (i + 1)
    · split
      · exact ih (i + 1)
      · rename_i verified hverdict
        dsimp only
        split
        · exact h.storeCache hmem hnames hwhole
            (hashesTo_of_verdict_of_verifiable hpath hverifiable hverdict)
        · exact h

theorem Sound.fetch (h : Sound identifiers s)
    (hmem : ∀ uri, ContentUri.parse request.uri = .ok uri → uri.identifier ∈ identifiers)
    (hnames : ∀ a ∈ identifiers, ∀ b ∈ identifiers, cacheFilename a = cacheFilename b → a = b)
    (hcareful : Careful request) : Sound identifiers (Namespace.fetch config s request).2 := by
  rw [Namespace.fetch]
  split
  · exact h
  · rename_i uri huri
    obtain ⟨hkind, hwhole⟩ := hcareful uri huri
    have hchecked : Sound identifiers (if config.enableCache then
        Namespace.checkCache config s request.at_ uri.identifier else (none, s)).2 := by
      split
      · exact (h.checkCache (hmem uri huri)).1
      · exact h
    rw [fetchUri]
    generalize (if config.enableCache then
      Namespace.checkCache config s request.at_ uri.identifier else (none, s)) = found at hchecked
    obtain ⟨found, s'⟩ := found
    cases found with
    | some content => exact hchecked
    | none =>
      dsimp only
      split
      · rename_i htype
        rcases hkind with hhash | ⟨hpath, hverifiable⟩
        · rw [htype] at hhash
          cases hhash
        · exact hchecked.tryGateways (hmem uri huri) hnames hwhole hpath hverifiable _ 0
      · exact hchecked
      · exact hchecked

/-- The identifiers of some fetches. -/
def identifiersOf (requests : List Request) : List String :=
  requests.filterMap fun request => (ContentUri.parse request.uri).toOption.map (·.identifier)

omit [Crypto] [CidCrate] in
theorem mem_identifiersOf {requests : List Request} (hmem : request ∈ requests)
    (huri : ContentUri.parse request.uri = .ok uri) :
    uri.identifier ∈ identifiersOf requests :=
  List.mem_filterMap.mpr ⟨request, hmem, by rw [huri]; rfl⟩

theorem Sound.after (config : ResolverConfig) {requests : List Request}
    (h : Sound identifiers s)
    (hmem : ∀ request ∈ requests, ∀ uri, ContentUri.parse request.uri = .ok uri →
      uri.identifier ∈ identifiers)
    (hnames : ∀ a ∈ identifiers, ∀ b ∈ identifiers, cacheFilename a = cacheFilename b → a = b)
    (hcareful : ∀ request ∈ requests, Careful request) :
    Sound identifiers (Namespace.after config s requests) := by
  induction requests generalizing s with
  | nil => exact h
  | cons request rest ih =>
    have hfirst : Sound identifiers (Namespace.fetch config s request).2 :=
      h.fetch (hmem request List.mem_cons_self) hnames (hcareful request List.mem_cons_self)
    exact ih hfirst (fun other hother => hmem other (List.mem_cons_of_mem _ hother))
      fun other hother => hcareful other (List.mem_cons_of_mem _ hother)

/-- **The law of the resolver.**  Every fetch of every sequence returns what its URI names just when
what the cache holds for it can be trusted; from an empty cache it always can, if all fetches are
careful and no two of their identifiers share a cache file. -/
theorem content_is_what_its_uri_names_iff (config : ResolverConfig) (earlier : List Request)
    (request : Request) :
    (∀ start, Correct config (earlier ++ [request]) request
        (fetch config (after config start earlier) request).1 ↔
      Trusted config (after config start earlier) request) ∧
    ((∀ other ∈ earlier ++ [request], Careful other) →
      (∀ a ∈ identifiersOf (earlier ++ [request]), ∀ b ∈ identifiersOf (earlier ++ [request]),
        cacheFilename a = cacheFilename b → a = b) →
      Trusted config (after config ContentResolver.empty earlier) request) := by
  refine ⟨fun start => fetch_correct_iff config _ earlier request, fun hcareful hnames => ?_⟩
  have hall : ∀ other ∈ earlier ++ [request], ∀ uri, ContentUri.parse other.uri = .ok uri →
      uri.identifier ∈ identifiersOf (earlier ++ [request]) :=
    fun other hother uri huri => mem_identifiersOf hother huri
  have hearlier : ∀ other ∈ earlier, other ∈ earlier ++ [request] :=
    fun other hother => List.mem_append_left _ hother
  have hsound := (Sound.empty (identifiersOf (earlier ++ [request]))).after config
    (fun other hother => hall other (hearlier other hother)) hnames
    fun other hother => hcareful other (hearlier other hother)
  intro _ uri content huri hfound
  exact (hsound.checkCache (hall request (by simp) uri huri)).2 content hfound

end

end

/-! ## 6. Two paths of one identifier -/

/-- A `cid` crate that parses nothing. -/
@[reducible] def noCid : CidCrate where
  parse := fun _ => none
  otherHash := fun _ _ => []

/-- A resolver with one gateway, and the cache in memory. -/
def sampleConfig : ResolverConfig where
  cacheDir := none
  ipfsGateways := ["https://gateway"]
  maxContentSize := 1024
  enableCache := true

def sampleCircumstances : Circumstances where
  answers := fun _ _ => .ok [7]
  readable := fun _ => true
  write := .written

def sampleIdentifier : String := "QmYwAPJzv5CZsnA625s3Xf2nemtYgPpHdWEz79ojWnPbdG"

def sampleRequest (path : String) : Request :=
  ⟨"elastos://" ++ sampleIdentifier ++ path, sampleCircumstances⟩

/-- What was fetched for one path is served, as verified, for another. -/
theorem cached_for_another_path :
    letI := keyEchoCrypto
    letI := noCid
    ¬∀ earlier request, Correct sampleConfig (earlier ++ [request]) request
      (fetch sampleConfig (after sampleConfig ContentResolver.empty earlier) request).1 := by
  let _ := keyEchoCrypto
  let _ := noCid
  intro h
  have hfirst : ContentUri.parse (sampleRequest "/a").uri =
      .ok ⟨sampleIdentifier, .ipfsCid, some "a"⟩ := by decide
  have hsecond : ContentUri.parse (sampleRequest "/b").uri =
      .ok ⟨sampleIdentifier, .ipfsCid, some "b"⟩ := by decide
  have hstored : (after sampleConfig ContentResolver.empty [sampleRequest "/a"]).cache
      sampleIdentifier = some [7] := by
    have hverdict : verdict ⟨sampleIdentifier, .ipfsCid, some "a"⟩ [7] = some false := by
      rw [verdict, if_neg (by decide)]
    have hanswer : fetchUrl sampleConfig (.ok [7]) = .ok [7] := by decide
    rw [after, List.foldl_cons, List.foldl_nil, fetch, hfirst]
    simp only [fetchUri, sampleConfig, if_true, checkCache, ContentResolver.empty, readCacheFile,
      Option.isSome_none, Bool.false_and, Bool.false_eq_true, if_false, fetchFromIpfs, tryGateways,
      sampleRequest, sampleCircumstances, storeCache]
    rw [← sampleConfig, hanswer]
    simp only [hverdict, Function.update_self]
  have hfound : (checkCache sampleConfig
      (after sampleConfig ContentResolver.empty [sampleRequest "/a"]) sampleCircumstances
        sampleIdentifier).1 = some [7] := by
    rw [checkCache, hstored]
  rcases (h [sampleRequest "/a"] (sampleRequest "/b") _ ⟨[7], .localCache, true⟩ hsecond
    (by rw [fetch, hsecond]; exact fetchUri_of_cached rfl hfound)).2 rfl with
    ⟨hash, hprefix, -⟩ | ⟨cid, hcid, -⟩
  · have hnone : stripPrefix sampleIdentifier "sha256:" = none := by decide
    rw [hnone] at hprefix
    cases hprefix
  · cases hcid

end ElastosRuntime.Namespace
