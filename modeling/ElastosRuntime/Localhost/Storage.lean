/-
# The generic storage route

`storage.rs`, up to the call of the provider registry: what is made of the path of a request, what it
is refused for, what a capability is checked for, and which URI is routed.  What is done with the
registry's answer is left out.

A principal's root is refused by a comparison with the path as `normalize_path` leaves it, but the
URI is made by a second reading of that path, which takes off blanks, slashes and a scheme once more.
`storage_route_iff` says exactly which paths get past the comparison that way.
-/
import ElastosRuntime.Localhost.SystemServices

namespace ElastosRuntime.Localhost

open Text

/-! ## 1. The handlers -/

inductive Action where
  | read
  | write
  | delete

inductive ResourceAction where
  | read
  | write
  | delete
  | list
  | stat
  | mkdir
deriving DecidableEq

inductive StorageApiError where
  | permissionDenied (message : String)
  | invalidPath (message : String)
  | quotaExceeded (message : String)
deriving DecidableEq

/-- What a handler finds: whether the session is a shell's, the check of the capability manager if
there is one, the token of the header as far as there is one and it can be read, the storage quota
and how much of it is used. -/
structure StorageState (Token : Type) where
  isShell : Bool
  capabilityManager : Option (Token → Action → String → Except String Unit)
  token : Option (Except String Token)
  storageQuotaMb : Nat
  storageUsage : Nat

/-- What is handed to the registry. -/
structure Routed where
  uri : String
  action : ResourceAction
  recursive : Bool
deriving DecidableEq

def normalizePath (path : String) : String :=
  let path := trim path
  let path := (stripPrefix path "localhost://").getD path
  trimMatches path '/'

def canonicalLocalUri (path : String) : Except StorageApiError String :=
  if path = "" then .ok "localhost://"
  else
    match rootedLocalhostUri path with
    | some uri => .ok uri
    | none => .error (.invalidPath "path must be rooted under localhost://<root>/...")

def rejectPrincipalRootStoragePath (path : String) : Except StorageApiError Unit :=
  if path = "Users" ∨ startsWith path "Users/" then
    .error (.permissionDenied
      "principal-root storage requires a runtime principal-scoped provider route")
  else .ok ()

section

variable {Token : Type}

def enforceCapability (state : StorageState Token) (path : String) (action : Action) :
    Except StorageApiError Unit := do
  if state.isShell then .ok ()
  else
    match state.capabilityManager, state.token with
    | none, _ =>
      .error (.permissionDenied <| "capability manager not configured — storage access denied " ++
        "(no ambient authority)")
    | some _, none => .error (.permissionDenied "missing X-Capability-Token header")
    | some _, some (.error err) => .error (.permissionDenied ("invalid token: " ++ err))
    | some validate, some (.ok token) => do
      let resource ← canonicalLocalUri path
      match validate token action resource with
      | .ok () => .ok ()
      | .error err => .error (.permissionDenied err)

/-- What all handlers have in common, with what is checked between the capability and the URI. -/
def routed (state : StorageState Token) (path : String) (action : Action)
    (check : Except StorageApiError Unit) (resourceAction : ResourceAction) (recursive : Bool) :
    Except StorageApiError Routed := do
  let path := normalizePath path
  rejectPrincipalRootStoragePath path
  enforceCapability state path action
  check
  let uri ← canonicalLocalUri path
  .ok ⟨uri, resourceAction, recursive⟩

def readFile (state : StorageState Token) (path : String) : Except StorageApiError Routed :=
  routed state path .read (.ok ()) .read false

/-- The quota of a write; none is zero. -/
def checkQuota (state : StorageState Token) (length : Nat) : Except StorageApiError Unit :=
  if 0 < state.storageQuotaMb ∧ state.storageQuotaMb * 1024 * 1024 < state.storageUsage + length then
    .error (.quotaExceeded <| "write of " ++ toString length ++ " bytes would exceed " ++
      toString state.storageQuotaMb ++ "MB quota (current usage: " ++
      toString state.storageUsage ++ " bytes)")
  else .ok ()

def writeFile (state : StorageState Token) (path : String) (body : List UInt8) :
    Except StorageApiError Routed :=
  routed state path .write (checkQuota state body.length) .write false

def deletePath (state : StorageState Token) (path : String) (recursive : Option Bool) :
    Except StorageApiError Routed :=
  routed state path .delete (.ok ()) .delete (recursive.getD false)

def listDir (state : StorageState Token) (path : String) : Except StorageApiError Routed :=
  routed state path .read (.ok ()) .list false

def statPath (state : StorageState Token) (path : String) : Except StorageApiError Routed :=
  routed state path .read (.ok ()) .stat false

def mkdir (state : StorageState Token) (path : String) : Except StorageApiError Routed :=
  routed state path .write (.ok ()) .mkdir false

/-- A request of the route. -/
inductive StorageRequest where
  | readFile (path : String)
  | writeFile (path : String) (body : List UInt8)
  | deletePath (path : String) (recursive : Option Bool)
  | listDir (path : String)
  | statPath (path : String)
  | mkdir (path : String)

namespace StorageRequest

def path : StorageRequest → String
  | readFile path | writeFile path _ | deletePath path _ | listDir path | statPath path
  | mkdir path => path

/-- What a capability has to allow for it. -/
def action : StorageRequest → Action
  | readFile _ | listDir _ | statPath _ => .read
  | writeFile .. | mkdir _ => .write
  | deletePath .. => .delete

def handle (state : StorageState Token) : StorageRequest → Except StorageApiError Routed
  | readFile path => Localhost.readFile state path
  | writeFile path body => Localhost.writeFile state path body
  | deletePath path recursive => Localhost.deletePath state path recursive
  | listDir path => Localhost.listDir state path
  | statPath path => Localhost.statPath state path
  | mkdir path => Localhost.mkdir state path

end StorageRequest

/-! ## 2. What a handler has checked -/

variable {state : StorageState Token}

theorem routed_eq_ok {path : String} {action : Action} {check : Except StorageApiError Unit}
    {resourceAction : ResourceAction} {recursive : Bool} {r : Routed}
    (h : routed state path action check resourceAction recursive = .ok r) :
    rejectPrincipalRootStoragePath (normalizePath path) = .ok () ∧
      enforceCapability state (normalizePath path) action = .ok () ∧
        canonicalLocalUri (normalizePath path) = .ok r.uri := by
  rw [routed] at h
  cases hreject : rejectPrincipalRootStoragePath (normalizePath path) with
  | error err =>
    simp only [hreject] at h
    cases h
  | ok _ =>
    cases henforce : enforceCapability state (normalizePath path) action with
    | error err =>
      simp only [hreject, henforce] at h
      cases h
    | ok _ =>
      cases huri : canonicalLocalUri (normalizePath path) with
      | error err =>
        simp only [hreject, henforce, huri] at h
        cases check <;> cases h
      | ok uri =>
        simp only [hreject, henforce, huri] at h
        cases check with
        | error err => cases h
        | ok _ =>
          cases h
          exact ⟨rfl, rfl, rfl⟩

/-- Every handler makes the same checks. -/
theorem handle_eq_ok {request : StorageRequest} {r : Routed} (h : request.handle state = .ok r) :
    rejectPrincipalRootStoragePath (normalizePath request.path) = .ok () ∧
      enforceCapability state (normalizePath request.path) request.action = .ok () ∧
        canonicalLocalUri (normalizePath request.path) = .ok r.uri := by
  cases request <;> exact routed_eq_ok h

/-- The check of a capability is for the URI that is then routed. -/
theorem checked_of_enforceCapability {path uri : String} {action : Action}
    (h : enforceCapability state path action = .ok ()) (huri : canonicalLocalUri path = .ok uri)
    (hshell : state.isShell = false) :
    ∃ validate token, state.capabilityManager = some validate ∧ state.token = some (.ok token) ∧
      validate token action uri = .ok () := by
  rw [enforceCapability, hshell, if_neg Bool.false_ne_true] at h
  split at h
  · cases h
  · cases h
  · cases h
  · rename_i validate token hmanager htoken
    rw [huri] at h
    dsimp only [Bind.bind, Except.bind] at h
    split at h
    · rename_i hok
      exact ⟨validate, token, hmanager, htoken, hok⟩
    · cases h

end

/-! ## 3. The URI that is routed -/

section

variable {path uri root rest : String}

theorem toList_localhostUri (root rest : String) :
    ∃ tail, (localhostUri root rest).toList = "localhost://".toList ++ (root.toList ++ tail) ∧
      Behind '/' tail ∧ trimEnd '/' tail = trimEnd '/' ('/' :: rest.toList) := by
  rw [localhostUri]
  split
  · rename_i hempty
    exact ⟨[], by simp, Or.inr (by simp), by rw [hempty]; decide⟩
  · exact ⟨'/' :: rest.toList, by simp, Or.inl ⟨_, rfl⟩, rfl⟩

/-- A URI that was made of a root is read as that root. -/
theorem readPath_localhostUri (hroot : root ∈ ALL_ROOTS) (rest : String) :
    readPath (localhostUri root rest) =
      some (root, String.ofList ((trimEnd '/' ('/' :: rest.toList)).drop 1)) := by
  obtain ⟨tail, huri, hbehind, htrim⟩ := toList_localhostUri root rest
  rw [readPath_uri huri, parseLocalhostPath_eq_some, String.toList_ofList]
  exact ⟨hroot, tail, ⟨[], ⟨[], [], rfl, by simp, by simp⟩, by simp, hbehind⟩, by rw [htrim]⟩

/-- How a path, or a path behind a scheme, is read as a root. -/
structure Spells (path root : String) (scheme after : List Char) : Prop where
  known : scheme = [] ∨ scheme = "localhost://".toList
  reads : ∃ rest, path.toList = scheme ++ rest ∧ Reads '/' rest root.toList after

/-- What begins with a scheme is no root. -/
theorem not_reads_scheme {rest after : List Char} (hroot : root ∈ ALL_ROOTS) :
    ¬Reads '/' ("localhost://".toList ++ rest) root.toList after := by
  rintro ⟨before, hbefore, hsplit, -⟩
  cases before with
  | nil =>
    have hheads : ∀ root ∈ ALL_ROOTS, root.toList.head? ≠ some 'l' ∧ root.toList ≠ [] := by decide
    obtain ⟨hhead, hne⟩ := hheads root hroot
    cases hletters : root.toList with
    | nil => exact hne hletters
    | cons x letters =>
      rw [hletters] at hsplit hhead
      exact hhead (congrArg some (List.cons.inj hsplit).1.symm)
  | cons x before =>
    have hx : 'l' = x := (List.cons.inj hsplit).1
    rcases leadIn_head hbefore with hblank | hslash
    · rw [← hx] at hblank
      exact absurd hblank (by decide)
    · rw [← hx] at hslash
      exact absurd hslash (by decide)

theorem parseLocalhostPath_scheme {letters : List Char}
    (hpath : path.toList = "localhost://".toList ++ letters) : parseLocalhostPath path = none := by
  refine Option.eq_none_iff_forall_ne_some.mpr fun ⟨root, rest⟩ hparse => ?_
  obtain ⟨hroot, after, hreads, -⟩ := parseLocalhostPath_eq_some.mp hparse
  exact not_reads_scheme hroot (hpath ▸ hreads)

/-- The second reading of a path that has no scheme finds nothing else. -/
theorem rootedLocalhostUri_eq (path : String) :
    rootedLocalhostUri path = (readPath path).map fun found => localhostUri found.1 found.2 := by
  rw [rootedLocalhostUri, readPath]
  by_cases hstart : startsWith path "localhost://" = true
  · obtain ⟨letters, hpath⟩ := startsWith_iff.mp hstart
    rw [if_pos hstart, parseLocalhostPath_scheme hpath]
    cases parseLocalhostUri path <;> rfl
  · have hnone : parseLocalhostUri path = none := by
      rw [parseLocalhostUri, stripPrefix, if_neg hstart]
      rfl
    rw [if_neg hstart, hnone]
    cases parseLocalhostPath path <;> rfl

/-- **How a path is read.** -/
theorem readPath_eq_some : readPath path = some (root, rest) ↔ root ∈ ALL_ROOTS ∧
    ∃ scheme after, Spells path root scheme after ∧
      rest = String.ofList ((trimEnd '/' after).drop 1) := by
  by_cases hstart : startsWith path "localhost://" = true
  · obtain ⟨letters, hpath⟩ := startsWith_iff.mp hstart
    rw [readPath_uri hpath, parseLocalhostPath_eq_some, String.toList_ofList]
    refine and_congr_right fun hroot => ⟨?_, ?_⟩
    · rintro ⟨after, hreads, rfl⟩
      exact ⟨_, after, ⟨Or.inr rfl, letters, hpath, hreads⟩, rfl⟩
    · rintro ⟨scheme, after, ⟨hknown, letters', hletters', hreads⟩, rfl⟩
      rcases hknown with rfl | rfl
      · rw [List.nil_append] at hletters'
        rw [← hletters', hpath] at hreads
        exact absurd hreads (not_reads_scheme hroot)
      · rw [hpath] at hletters'
        rw [← List.append_cancel_left hletters'] at hreads
        exact ⟨after, hreads, rfl⟩
  · rw [readPath, if_neg hstart, parseLocalhostPath_eq_some]
    refine and_congr_right fun hroot => ⟨?_, ?_⟩
    · rintro ⟨after, hreads, rfl⟩
      exact ⟨[], after, ⟨Or.inl rfl, _, rfl, hreads⟩, rfl⟩
    · rintro ⟨scheme, after, ⟨hknown, letters', hletters', hreads⟩, rfl⟩
      rcases hknown with rfl | rfl
      · rw [List.nil_append] at hletters'
        exact ⟨after, hletters' ▸ hreads, rfl⟩
      · exact absurd (startsWith_iff.mpr ⟨letters', hletters'⟩) hstart

end

/-! ## 4. Principal roots -/

/-- The path gets past the comparison with `Users` and is still read as that root: behind a scheme
that was not yet taken off, behind blanks or slashes, or with blanks behind its name. -/
def ReachesUsers (path : String) : Prop :=
  rejectPrincipalRootStoragePath path = .ok () ∧ ∃ scheme after, Spells path "Users" scheme after ∧
    ∀ piece ∈ segments '/' (trimEnd '/' (trimEnd '/' after)), Normal (String.ofList piece)

section

variable {path uri : String} {base file : List String}

theorem canonicalLocalUri_eq_ok : canonicalLocalUri path = .ok uri ↔
    (path = "" ∧ uri = "localhost://") ∨
      path ≠ "" ∧ ∃ root rest, readPath path = some (root, rest) ∧ uri = localhostUri root rest := by
  rw [canonicalLocalUri]
  split
  · rename_i hempty
    simp [hempty, eq_comm]
  · rename_i hne
    rw [rootedLocalhostUri_eq]
    cases readPath path with
    | none => simp [hne]
    | some found => simp [hne, Prod.ext_iff, eq_comm]

/-- What is left of the rest of a path when it is read once more. -/
theorem pieces_trimEnd {after : List Char} (hbehind : Behind '/' after) :
    pieces (String.ofList ((trimEnd '/' ('/' ::
      (String.ofList ((trimEnd '/' after).drop 1)).toList)).drop 1)) =
        (segments '/' (trimEnd '/' (trimEnd '/' after))).map String.ofList := by
  rw [pieces, String.toList_ofList, String.toList_ofList]
  have hdrop : ∀ letters : List Char, Behind '/' letters →
      segments '/' ((trimEnd '/' letters).drop 1) = segments '/' (trimEnd '/' letters) := by
    intro letters hletters
    rcases behind_iff.mp hletters with hnil | ⟨tail, htail⟩
    · rw [hnil, List.drop_nil]
    · rw [htail, segments_cons_self]
      rfl
  rcases behind_iff.mp hbehind with hnil | ⟨tail, htail⟩
  · rw [hnil]
    decide
  · rw [htail, hdrop _ (Or.inl ⟨_, rfl⟩)]
    rfl

/-- **Which routed URIs name a file of a principal's root.** -/
theorem reaches_users_iff (base : List String)
    (hguard : rejectPrincipalRootStoragePath path = .ok ()) :
    (∃ uri file, canonicalLocalUri path = .ok uri ∧ rootedLocalhostFsPath base uri = some file ∧
      base ++ ["Users"] <+: file) ↔ ReachesUsers path := by
  constructor
  · rintro ⟨uri, file, huri, hfile, hbeneath⟩
    rcases canonicalLocalUri_eq_ok.mp huri with ⟨-, rfl⟩ | ⟨hne, root, rest, hread, rfl⟩
    · have hnone : rootedLocalhostFsPath base "localhost://" = none := by
        have hread : readPath "localhost://" = none := by decide
        rw [rootedLocalhostFsPath, hread]
        rfl
      rw [hnone] at hfile
      cases hfile
    · obtain ⟨hroot, scheme, after, hspells, rfl⟩ := readPath_eq_some.mp hread
      obtain ⟨root', rest', hread', -, hnormal, rfl⟩ := rootedLocalhostFsPath_eq_some.mp hfile
      rw [readPath_localhostUri hroot, Option.some.injEq, Prod.mk.injEq] at hread'
      obtain ⟨rfl, rfl⟩ := hread'
      rw [List.prefix_append_right_inj, List.cons_prefix_cons] at hbeneath
      obtain ⟨rfl, -⟩ := hbeneath
      obtain ⟨letters, hletters, hreads⟩ := hspells.reads
      obtain ⟨-, -, -, hbehind⟩ := hreads
      rw [pieces_trimEnd hbehind] at hnormal
      exact ⟨hguard, scheme, after, hspells, fun piece hpiece =>
        hnormal _ (List.mem_map_of_mem hpiece)⟩
  · rintro ⟨-, scheme, after, hspells, hnormal⟩
    have hroot : "Users" ∈ ALL_ROOTS := by decide
    have hread := readPath_eq_some.mpr ⟨hroot, scheme, after, hspells, rfl⟩
    have hne : path ≠ "" := by
      rintro rfl
      have hnone : readPath "" = none := by decide
      rw [hnone] at hread
      cases hread
    obtain ⟨letters, -, -, -, -, hbehind⟩ := hspells.reads
    refine ⟨_, _, canonicalLocalUri_eq_ok.mpr (Or.inr ⟨hne, _, _, hread, rfl⟩),
      rootedLocalhostFsPath_eq_some.mpr ⟨_, _, readPath_localhostUri hroot _, by decide, ?_, rfl⟩,
      ?_⟩
    · rw [pieces_trimEnd hbehind]
      intro component hcomponent
      obtain ⟨piece, hpiece, rfl⟩ := List.mem_map.mp hcomponent
      exact hnormal piece hpiece
    · rw [List.prefix_append_right_inj]
      exact ⟨_, rfl⟩

end

/-- A session of a shell, which needs no capability. -/
def shellState : StorageState Unit where
  isShell := true
  capabilityManager := none
  token := none
  storageQuotaMb := 0
  storageUsage := 0

/-- **What the route reaches and what it checks.**  No file of a principal's root is reached just
when the path is not one of those; and what is checked is always what is routed. -/
theorem storage_route_iff (path : String) :
    ((∀ (Token : Type) (state : StorageState Token) (request : StorageRequest) (r : Routed),
      request.path = path → request.handle state = .ok r → ∀ base file,
        rootedLocalhostFsPath base r.uri = some file → ¬base ++ ["Users"] <+: file) ↔
      ¬ReachesUsers (normalizePath path)) ∧
    ∀ (Token : Type) (state : StorageState Token) (request : StorageRequest) (r : Routed),
      request.path = path → request.handle state = .ok r → state.isShell = false →
        ∃ validate token, state.capabilityManager = some validate ∧
          state.token = some (.ok token) ∧ validate token request.action r.uri = .ok () := by
  refine ⟨⟨?_, ?_⟩, ?_⟩
  · intro hsafe hreaches
    obtain ⟨uri, file, huri, hfile, hbeneath⟩ :=
      (reaches_users_iff ["srv"] hreaches.1).mpr hreaches
    have hread : (StorageRequest.readFile path).handle shellState = .ok ⟨uri, .read, false⟩ := by
      rw [StorageRequest.handle, readFile, routed]
      simp only [hreaches.1, huri]
      rfl
    exact hsafe Unit shellState _ _ rfl hread _ _ hfile hbeneath
  · rintro hnot Token state request r rfl hhandle base file hfile hbeneath
    obtain ⟨hguard, -, huri⟩ := handle_eq_ok hhandle
    exact hnot ((reaches_users_iff base hguard).mp ⟨r.uri, file, huri, hfile, hbeneath⟩)
  · rintro Token state request r rfl hhandle hshell
    obtain ⟨-, henforce, huri⟩ := handle_eq_ok hhandle
    exact checked_of_enforceCapability henforce huri hshell

/-- A scheme written twice is enough. -/
theorem principal_root_reached :
    ¬∀ (state : StorageState Unit) (request : StorageRequest) (r : Routed),
      request.handle state = .ok r → ∀ base file,
        rootedLocalhostFsPath base r.uri = some file → ¬base ++ ["Users"] <+: file := by
  intro h
  have hread : (StorageRequest.readFile "localhost://localhost://Users/alice/note").handle
      shellState = .ok ⟨"localhost://Users/alice/note", .read, false⟩ := by decide
  have hfile : rootedLocalhostFsPath ["srv"] "localhost://Users/alice/note" =
      some ["srv", "Users", "alice", "note"] := by decide
  exact h _ _ _ hread _ _ hfile ⟨["alice", "note"], rfl⟩

end ElastosRuntime.Localhost
