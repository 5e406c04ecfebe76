/-
# Changes to a stored namespace

`store.rs`: `write_path` and `delete_path` load a copy of an owner's namespace, change it, write the
file and replace the cached copy.  A call is a program over these three steps; a `Pool` lets the
calls take them in any order.  The caching of contents and the hash of the changed namespace are
left out.

Nothing keeps two calls apart, so one of them can write over what the other has changed, and
`remove` can take out another path than the one it is given.  `changes_are_kept` says when neither
happens: `Careful` is the condition on a step.
-/
import ElastosRuntime.Lib.Program
import ElastosRuntime.Namespace.Tree
import Mathlib.Logic.Function.Basic

namespace ElastosRuntime.NamespaceStore

open NamespaceStore.Namespace

/-! ## 1. The steps of a call -/

/-- A file of the storage directory. -/
inductive Saved where
  | readable (ns : Namespace)
  | broken

/-- The namespaces in memory and the files, by owner. -/
structure Shared where
  namespaces : String → Option Namespace
  files : String → Option Saved

inductive StoreOp where
  | load (owner : String)
  | writeFile (ns : Namespace)
  | replaceCached (ns : Namespace)

abbrev StoreOp.Reply : StoreOp → Type
  | load _ => Except NamespaceError Namespace
  | writeFile _ => Except NamespaceError Unit
  | replaceCached _ => Unit

/-- What an access to a file comes to: `torn` leaves a part of what was to be written. -/
inductive Fate where
  | done
  | failed
  | torn
deriving DecidableEq

def handle : (op : StoreOp) → Fate → Shared → op.Reply × Shared
  | .load owner, fate, s =>
    match s.namespaces owner with
    | some ns => (.ok ns, s)
    | none =>
      match s.files owner with
      | none => (.error (.notFound ("namespace for " ++ owner)), s)
      | some saved =>
        if fate ≠ .done then (.error .ioError, s)
        else
          match saved with
          | .broken => (.error .serializationError, s)
          | .readable ns =>
            (.ok ns, { s with namespaces := Function.update s.namespaces owner (some ns) })
  | .writeFile ns, .done, s =>
    (.ok (), { s with files := Function.update s.files ns.owner (some (.readable ns)) })
  | .writeFile _, .failed, s => (.error .ioError, s)
  | .writeFile ns, .torn, s =>
    (.error .ioError, { s with files := Function.update s.files ns.owner (some .broken) })
  | .replaceCached ns, _, s =>
    ((), { s with namespaces := Function.update s.namespaces ns.owner (some ns) })

/-! ## 2. The calls -/

abbrev StoreProgram := Program StoreOp StoreOp.Reply NamespaceError

def load (owner : String) : StoreProgram Namespace := do
  let loaded : Except NamespaceError Namespace ← Program.ask (StoreOp.load owner)
  Program.lift loaded

def save (ns : Namespace) : StoreProgram Unit := do
  let written : Except NamespaceError Unit ← Program.ask (StoreOp.writeFile ns)
  Program.lift written
  Program.ask (StoreOp.replaceCached ns)

def loadOrCreate (owner : String) : StoreProgram Namespace := do
  let loaded : Except NamespaceError Namespace ← Program.ask (StoreOp.load owner)
  match loaded with
  | .ok ns => pure ns
  | .error (.notFound _) => do
    let ns ← Program.lift (withOwnerHex owner)
    save ns
    pure ns
  | .error e => Program.lift (.error e)

inductive Outcome where
  | written (path : String) (cid : ContentId) (size : Nat)
  | deleted (path : String)
deriving DecidableEq

def writePath [Crypto] (owner path : String) (content : List UInt8) (contentType : Option String) :
    StoreProgram Outcome := do
  let cid := ContentId.fromContent content
  let size := content.length
  let ns ← loadOrCreate owner
  let ns ← Program.lift (ns.put path (.file cid size contentType))
  save ns
  pure (.written path cid size)

def deletePath (owner path : String) : StoreProgram Outcome := do
  let ns ← load owner
  let ns ← Program.lift (ns.remove path)
  save ns
  pure (.deleted path)

inductive Request where
  | write (path : String) (content : List UInt8) (contentType : Option String)
  | delete (path : String)

section

variable [Crypto]

def body (owner : String) : Request → StoreProgram Outcome
  | .write path content contentType => writePath owner path content contentType
  | .delete path => deletePath owner path

/-! ## 3. What the calls should come to -/

namespace Request

/-- The path that a call is about. -/
def target : Request → List String
  | write path _ _ => pathComponents path
  | delete path => pathComponents path

/-- Whether what is found at a path is this call's doing, once it has succeeded: at its own path and
beneath it, and at the directories above a file. -/
def touches (request : Request) (path : List String) : Bool :=
  request.target.isPrefixOf path ||
    match request with
    | write _ _ _ => path.isPrefixOf request.target
    | delete _ => false

/-- What is found there then. -/
def leaves (request : Request) (path : List String) : Option (Option ContentId) :=
  match request with
  | write _ content _ =>
    if path = request.target then some (some (ContentId.fromContent content))
    else if request.target.isPrefixOf path then none
    else some none
  | delete _ => none

end Request

/-- What should be found at a path after some calls have succeeded: what the last one of them that
touches it leaves there, and else what was found before. -/
def expected (before : List String → Option (Option ContentId)) (succeeded : List Request)
    (path : List String) : Option (Option ContentId) :=
  match succeeded.reverse.find? (·.touches path) with
  | some request => request.leaves path
  | none => before path

/-- What is found in a file; without one, what is found in an empty namespace. -/
def Saved.found : Option Saved → List String → Option (Option ContentId)
  | some (.readable ns) => ns.found
  | _ => (NamespaceEntry.directory []).found

abbrev StorePool := Pool StoreOp StoreOp.Reply NamespaceError Outcome Request Shared

abbrev step (owner : String) : StorePool → PoolLabel Request Fate → Option StorePool :=
  Pool.step (body owner) handle

/-- A call that has succeeded. -/
def gained (request : Request) : StoreProgram Outcome → List Request
  | .done (.ok _) => [request]
  | _ => []

/-- The call that succeeds by a step. -/
def succeeds (owner : String) (pool : StorePool) : PoolLabel Request Fate → List Request
  | .start _ => []
  | .proceed caller fate =>
    match (step owner pool (.proceed caller fate)).bind (·.calls[caller]?) with
    | some call => gained call.request call.rest
    | none => []

/-- A call between its two writes: its change is in the file and not yet in memory. -/
def Saving (rest : StoreProgram Outcome) : Prop := ∃ ns next, rest = .perform (.replaceCached ns) next

/-- The cached copy, as a call has last seen it. -/
def seen (history : Program.History StoreOp.Reply) : Option Namespace :=
  match history.getLast? with
  | some ⟨.load _, .ok ns⟩ => some ns
  | some ⟨.replaceCached ns, _⟩ => some ns
  | _ => none

/-- A path that `remove` takes out, and not another one. -/
def Steady : Request → Prop
  | .write _ _ _ => True
  | .delete path => removed path = pathComponents path

/-- What keeps the calls from undoing each other.  A call writes the file, as a whole, only while
the cached copy is the one it has seen and no call is between its two writes, and only paths that
`remove` reads as they are are deleted. -/
def Careful (owner : String) (pool : StorePool) : PoolLabel Request Fate → Prop
  | .start request => Steady request
  | .proceed caller fate => ∀ request ns next history,
      pool.calls[caller]? = some ⟨request, .perform (.writeFile ns) next, history⟩ →
        fate ≠ .torn ∧ pool.shared.namespaces owner = seen history ∧
          ∀ call ∈ pool.calls, ¬Saving call.rest

/-! ## 4. Where a call stands -/

def Request.applied (request : Request) (ns : Namespace) : Except NamespaceError Namespace :=
  match request with
  | .write path content contentType =>
    ns.put path (.file (ContentId.fromContent content) content.length contentType)
  | .delete path => ns.remove path

def Request.outcome : Request → Outcome
  | .write path content _ => .written path (ContentId.fromContent content) content.length
  | .delete path => .deleted path

/-- What is left of `save`, and what follows it. -/
def written (ns : Namespace) (rest : StoreProgram Outcome) :
    Except NamespaceError Unit → StoreProgram Outcome
  | .ok () => .perform (.replaceCached ns) fun _ => rest
  | .error e => .done (.error e)

/-- What is left of a call that has its copy. -/
def finish (request : Request) (ns : Namespace) : StoreProgram Outcome :=
  match request.applied ns with
  | .ok changed => .perform (.writeFile changed) (written changed (.done (.ok request.outcome)))
  | .error e => .done (.error e)

/-- What is left of a call after its first step. -/
def afterLoad (owner : String) (request : Request) :
    Except NamespaceError Namespace → StoreProgram Outcome
  | .ok ns => finish request ns
  | .error e =>
    match request, e with
    | .write _ _ _, .notFound _ =>
      match withOwnerHex owner with
      | .ok fresh => .perform (.writeFile fresh) (written fresh (finish request fresh))
      | .error e => .done (.error e)
    | _, e => .done (.error e)

omit [Crypto] in
theorem create_bind (fresh : Namespace) (f : Namespace → StoreProgram Outcome) :
    ((save fresh >>= fun _ => (pure fresh : StoreProgram Namespace)) >>= f) =
      .perform (.writeFile fresh) (written fresh (f fresh)) := by
  refine congrArg (Program.perform (StoreOp.writeFile fresh)) (funext fun reply => ?_)
  cases reply with
  | ok done => rfl
  | error e => rfl

omit [Crypto] in
theorem save_bind (ns : Namespace) (f : Unit → StoreProgram Outcome) :
    save ns >>= f = .perform (.writeFile ns) (written ns (f ())) := by
  refine congrArg (Program.perform (StoreOp.writeFile ns)) (funext fun reply => ?_)
  cases reply with
  | ok done => rfl
  | error e => rfl

theorem finish_eq (request : Request) (ns : Namespace) :
    (Program.lift (request.applied ns) >>= fun changed => save changed >>= fun _ =>
      (pure request.outcome : StoreProgram Outcome)) = finish request ns := by
  rw [finish]
  cases request.applied ns with
  | ok changed => exact save_bind changed _
  | error e => rfl

theorem body_eq (owner : String) (request : Request) :
    body owner request = .perform (.load owner) (afterLoad owner request) := by
  cases request with
  | write path content contentType =>
    refine congrArg (Program.perform (StoreOp.load owner)) (funext fun reply => ?_)
    cases reply with
    | ok ns => exact finish_eq (.write path content contentType) ns
    | error e =>
      cases e with
      | notFound missing =>
        change ((Program.lift (withOwnerHex owner) >>= fun ns => save ns >>= fun _ => pure ns) >>=
          fun ns => _) = _
        rw [afterLoad]
        cases hfresh : withOwnerHex owner with
        | ok fresh =>
          dsimp only
          rw [← finish_eq]
          exact create_bind fresh _
        | error e => rfl
      | _ => rfl
  | delete path =>
    refine congrArg (Program.perform (StoreOp.load owner)) (funext fun reply => ?_)
    cases reply with
    | ok ns => exact finish_eq (.delete path) ns
    | error e => cases e <;> rfl

/-- Where a call stands, by what is left of it and what it has performed. -/
inductive Stage (owner : String) (start : Shared) (request : Request) :
    StoreProgram Outcome → Program.History StoreOp.Reply → Prop
  | called : Stage owner start request (.perform (.load owner) (afterLoad owner request)) []
  | creating {fresh : Namespace} {e : NamespaceError} (hfresh : withOwnerHex owner = .ok fresh)
      (habsent : start.files owner = none) : Stage owner start request
        (.perform (.writeFile fresh) (written fresh (finish request fresh)))
          [⟨.load owner, .error e⟩]
  | created {fresh : Namespace} {history : Program.History StoreOp.Reply}
      (howner : fresh.owner = owner) : Stage owner start request
        (.perform (.replaceCached fresh) fun _ => finish request fresh) history
  | changing {copy changed : Namespace} {history : Program.History StoreOp.Reply}
      (hseen : seen history = some copy) (hchanged : request.applied copy = .ok changed)
      (howner : copy.owner = owner) : Stage owner start request
        (.perform (.writeFile changed) (written changed (.done (.ok request.outcome)))) history
  | changed {ns : Namespace} {history : Program.History StoreOp.Reply}
      (howner : ns.owner = owner) : Stage owner start request
        (.perform (.replaceCached ns) fun _ => .done (.ok request.outcome)) history
  | ended (result : Except NamespaceError Outcome) (history : Program.History StoreOp.Reply) :
      Stage owner start request (.done result) history

section

variable {owner : String} {start : Shared} {request : Request} {copy ns : Namespace}
  {history : Program.History StoreOp.Reply} {succeeded : List Request}

theorem Stage.finish (hseen : seen history = some copy) (howner : copy.owner = owner) :
    Stage owner start request (NamespaceStore.finish request copy) history := by
  rw [NamespaceStore.finish]
  cases hchanged : request.applied copy with
  | ok changed => exact .changing hseen hchanged howner
  | error e => exact .ended _ _

theorem not_saving_finish : ¬Saving (NamespaceStore.finish request copy) := by
  rintro ⟨ns, next, h⟩
  rw [NamespaceStore.finish] at h
  split at h <;> cases h

variable {loaded : Except NamespaceError Namespace}

theorem not_saving_afterLoad : ¬Saving (afterLoad owner request loaded) := by
  cases loaded with
  | ok ns => exact not_saving_finish
  | error e =>
    rintro ⟨ns, next, h⟩
    unfold afterLoad at h
    dsimp only at h
    split at h
    · split at h <;> cases h
    · cases h

/-- A call that has tried to load a namespace. -/
theorem Stage.afterLoad (hok : ∀ ns, loaded = .ok ns → ns.owner = owner)
    (habsent : ∀ path, loaded = .error (.notFound path) → start.files owner = none) :
    Stage owner start request (NamespaceStore.afterLoad owner request loaded)
      [⟨.load owner, loaded⟩] := by
  cases loaded with
  | ok ns => exact .finish rfl (hok ns rfl)
  | error e =>
    unfold NamespaceStore.afterLoad
    dsimp only
    split
    · rename_i path
      cases hfresh : withOwnerHex owner with
      | ok fresh => exact .creating hfresh (habsent path rfl)
      | error e => exact .ended _ _
    · exact .ended _ _

/-! ## 5. What a call changes -/

theorem expected_append (before : List String → Option (Option ContentId)) (path : List String) :
    expected before (succeeded ++ [request]) path =
      if request.touches path then request.leaves path else expected before succeeded path := by
  rw [expected, List.reverse_append, List.reverse_singleton, List.singleton_append,
    List.find?_cons, expected]
  cases request.touches path <;> rfl

/-- **What a successful call changes** in the copy it has. -/
theorem found_applied {changed : Namespace} (hsteady : Steady request)
    (h : request.applied copy = .ok changed) : changed.owner = copy.owner ∧ ∀ path,
      changed.found path =
        if request.touches path then request.leaves path else copy.found path := by
  cases request with
  | write p content contentType =>
    obtain ⟨-, howner, hfound⟩ := found_put h
    refine ⟨howner, fun path => (hfound path).trans ?_⟩
    rw [NamespaceEntry.afterPut, Request.touches, Request.leaves, Request.target]
    by_cases hbeneath : pathComponents p <+: path
    · simp [hbeneath]
    · by_cases habove : path <+: pathComponents p
      · have hne : path ≠ pathComponents p := fun heq => hbeneath (heq ▸ List.prefix_rfl)
        simp [hbeneath, habove, hne]
      · simp [hbeneath, habove]
  | delete p =>
    obtain ⟨-, howner, hfound⟩ := found_remove h
    refine ⟨howner, fun path => (hfound path).trans ?_⟩
    rw [hsteady, NamespaceEntry.afterRemove, Request.touches, Request.leaves, Request.target]
    by_cases hbeneath : pathComponents p <+: path
    · simp [hbeneath]
    · simp [hbeneath]

theorem finish_ne_ok {outcome : Outcome} :
    NamespaceStore.finish request copy ≠ .done (.ok outcome) := by
  rw [NamespaceStore.finish]
  split <;> exact fun h => (by cases h)

theorem afterLoad_ne_ok {outcome : Outcome} :
    NamespaceStore.afterLoad owner request loaded ≠ .done (.ok outcome) := by
  cases loaded with
  | ok ns => exact finish_ne_ok
  | error e =>
    unfold NamespaceStore.afterLoad
    dsimp only
    split
    · split <;> exact fun h => (by cases h)
    · exact fun h => (by cases h)

/-! ## 6. What holds along a careful run -/

/-- A copy of the owner's namespace that is as it should be after some calls have succeeded. -/
structure Holds (owner : String) (start : Shared) (succeeded : List Request) (ns : Namespace) :
    Prop where
  named : ns.owner = owner
  found : ∀ path, ns.found path = expected (Saved.found (start.files owner)) succeeded path

/-- No call but one perhaps is between its two writes. -/
def Others (saver : Option Nat)
    (calls : List (Call StoreOp StoreOp.Reply NamespaceError Outcome Request)) : Prop :=
  ∀ i call, calls[i]? = some call → some i ≠ saver → ¬Saving call.rest

/-- What is in memory and in the file, by who is between its two writes. -/
inductive Mode (owner : String) (start : Shared) (succeeded : List Request) (pool : StorePool) :
    Option Nat → Prop
  | untouched (hnone : succeeded = []) (hcached : pool.shared.namespaces owner = none)
      (hfile : pool.shared.files owner = start.files owner) : Mode owner start succeeded pool none
  | idle {ns kept : Namespace} (hcached : pool.shared.namespaces owner = some ns)
      (hns : Holds owner start succeeded ns) (hfile : pool.shared.files owner = some (.readable kept))
      (hkept : Holds owner start succeeded kept) : Mode owner start succeeded pool none
  | creating {i : Nat} {request : Request} {fresh : Namespace}
      {history : Program.History StoreOp.Reply}
      (hcall : pool.calls[i]? = some
        ⟨request, .perform (.replaceCached fresh) fun _ => finish request fresh, history⟩)
      (hfile : pool.shared.files owner = some (.readable fresh))
      (hfresh : Holds owner start succeeded fresh)
      (hcached : ∀ ns, pool.shared.namespaces owner = some ns → Holds owner start succeeded ns) :
      Mode owner start succeeded pool (some i)
  | changing {i : Nat} {request : Request} {ns copy : Namespace}
      {history : Program.History StoreOp.Reply}
      (hcall : pool.calls[i]? = some
        ⟨request, .perform (.replaceCached ns) fun _ => .done (.ok request.outcome), history⟩)
      (hcached : pool.shared.namespaces owner = some copy)
      (hcopy : Holds owner start succeeded copy)
      (hfile : pool.shared.files owner = some (.readable ns))
      (hns : Holds owner start (succeeded ++ [request]) ns) :
      Mode owner start succeeded pool (some i)

/-- The invariant of a careful run. -/
structure Sound (owner : String) (start : Shared) (succeeded : List Request) (saver : Option Nat)
    (pool : StorePool) : Prop where
  stages : ∀ call ∈ pool.calls, Stage owner start call.request call.rest call.history
  steady : ∀ call ∈ pool.calls, Steady call.request
  others : Others saver pool.calls
  mode : Mode owner start succeeded pool saver

variable {pool pool' : StorePool} {saver : Option Nat}

/-- Who is between its two writes stays there while others move. -/
theorem Mode.transfer (h : Mode owner start succeeded pool saver)
    (hshared : pool'.shared = pool.shared)
    (hcalls : ∀ i, saver = some i → pool'.calls[i]? = pool.calls[i]?) :
    Mode owner start succeeded pool' saver := by
  cases h with
  | untouched hnone hcached hfile =>
    rw [← hshared] at hcached hfile
    exact .untouched hnone hcached hfile
  | idle hcached hns hfile hkept =>
    rw [← hshared] at hcached hfile
    exact .idle hcached hns hfile hkept
  | creating hcall hfile hfresh hcached =>
    rw [← hshared] at hcached hfile
    rw [← hcalls _ rfl] at hcall
    exact .creating hcall hfile hfresh hcached
  | changing hcall hcached hcopy hfile hns =>
    rw [← hshared] at hcached hfile
    rw [← hcalls _ rfl] at hcall
    exact .changing hcall hcached hcopy hfile hns

/-- Who the invariant says is between its two writes is there. -/
theorem Mode.saver_eq_none (h : Mode owner start succeeded pool saver)
    (hquiet : ∀ call ∈ pool.calls, ¬Saving call.rest) : saver = none := by
  cases h with
  | untouched => rfl
  | idle => rfl
  | creating hcall => exact absurd ⟨_, _, rfl⟩ (hquiet _ (List.mem_of_getElem? hcall))
  | changing hcall => exact absurd ⟨_, _, rfl⟩ (hquiet _ (List.mem_of_getElem? hcall))

section

variable {s : Shared} {fate : Fate}

omit [Crypto] in
theorem handle_load_of_cached (hcached : s.namespaces owner = some ns) :
    handle (.load owner) fate s = (.ok ns, s) := by
  rw [handle, hcached]

omit [Crypto] in
/-- Loading what is not in memory: there is no file, or reading it fails, or it is read and kept. -/
theorem handle_load_of_not_cached (fate : Fate) (hcached : s.namespaces owner = none) :
    (s.files owner = none ∧ ∃ path, handle (.load owner) fate s = (.error (.notFound path), s)) ∨
      (∃ e, (∀ path, e ≠ .notFound path) ∧ handle (.load owner) fate s = (.error e, s)) ∨
        ∃ ns, s.files owner = some (.readable ns) ∧ handle (.load owner) fate s =
          (.ok ns, { s with namespaces := Function.update s.namespaces owner (some ns) }) := by
  rw [handle, hcached]
  cases hfile : s.files owner with
  | none => exact .inl ⟨rfl, _, rfl⟩
  | some saved =>
    right
    dsimp only
    split
    · exact .inl ⟨_, fun path h => (by cases h), rfl⟩
    · cases saved with
      | broken => exact .inl ⟨_, fun path h => (by cases h), rfl⟩
      | readable ns => exact .inr ⟨ns, rfl, rfl⟩

end

/-- What is found in a file that no call has touched. -/
theorem Holds.of_start (hstart : ∀ ns, start.files owner = some (.readable ns) → ns.owner = owner)
    (hfile : start.files owner = some (.readable ns)) : Holds owner start [] ns := by
  refine ⟨hstart ns hfile, fun path => ?_⟩
  rw [hfile]
  rfl

variable {fate : Fate} {shared : Shared}

/-- **Loading** a namespace: the copy is the owner's, and if there is none there was none. -/
theorem Mode.load (h : Mode owner start succeeded pool saver)
    (hstart : ∀ ns, start.files owner = some (.readable ns) → ns.owner = owner)
    (hload : handle (.load owner) fate pool.shared = (loaded, shared)) :
    Mode owner start succeeded ⟨shared, pool.calls⟩ saver ∧
      (∀ ns, loaded = .ok ns → ns.owner = owner) ∧
        ∀ path, loaded = .error (.notFound path) → start.files owner = none := by
  cases hcached : pool.shared.namespaces owner with
  | some ns =>
    have hns : ns.owner = owner := by
      cases h with
      | untouched _ hnone => rw [hcached] at hnone; cases hnone
      | idle hsome hns => rw [hcached] at hsome; cases hsome; exact hns.named
      | creating _ _ _ hall => exact (hall ns hcached).named
      | changing _ hsome hcopy => rw [hcached] at hsome; cases hsome; exact hcopy.named
    cases (handle_load_of_cached hcached).symm.trans hload
    refine ⟨h, fun ns' hns' => ?_, fun path hpath => (by cases hpath)⟩
    cases hns'
    exact hns
  | none =>
    rcases handle_load_of_not_cached fate hcached with ⟨hfile, path, hnone⟩ |
      ⟨e, hother, herror⟩ | ⟨ns, hfile, hread⟩
    · cases hnone.symm.trans hload
      refine ⟨h, fun ns hns => (by cases hns), fun path hpath => ?_⟩
      cases h with
      | untouched _ _ hsame => rw [← hsame, hfile]
      | idle _ _ hkept => rw [hfile] at hkept; cases hkept
      | creating _ hkept => rw [hfile] at hkept; cases hkept
      | changing _ _ _ hkept => rw [hfile] at hkept; cases hkept
    · cases herror.symm.trans hload
      refine ⟨h, fun ns hns => (by cases hns), fun path hpath => ?_⟩
      cases hpath
      exact absurd rfl (hother path)
    · cases hread.symm.trans hload
      have hupdate : Function.update pool.shared.namespaces owner (some ns) owner = some ns :=
        Function.update_self _ _ _
      have hns : Holds owner start succeeded ns ∧ Mode owner start succeeded
          ⟨⟨Function.update pool.shared.namespaces owner (some ns), pool.shared.files⟩, pool.calls⟩
            saver := by
        cases h with
        | untouched hnone _ hsame =>
          subst hnone
          have hns := Holds.of_start hstart (hsame.symm.trans hfile)
          exact ⟨hns, .idle hupdate hns hfile hns⟩
        | idle hsome => rw [hcached] at hsome; cases hsome
        | creating hcall hkept hfresh hall =>
          cases hkept.symm.trans hfile
          refine ⟨hfresh, .creating hcall hfile hfresh fun other hother => ?_⟩
          cases hupdate.symm.trans hother
          exact hfresh
        | changing _ hsome => rw [hcached] at hsome; cases hsome
      refine ⟨hns.2, fun ns' hns' => ?_, fun path hpath => (by cases hpath)⟩
      cases hns'
      exact hns.1.named

variable {i : Nat}

omit [Crypto] in
/-- One call has moved: it may be between its writes if it is the one that may, and whoever else may
now might before. -/
theorem Others.set {saver' : Option Nat}
    {calls : List (Call StoreOp StoreOp.Reply NamespaceError Outcome Request)}
    {moved : Call StoreOp StoreOp.Reply NamespaceError Outcome Request} (h : Others saver calls)
    (hmoved : some i ≠ saver' → ¬Saving moved.rest)
    (hsaver : ∀ j, j ≠ i → some j ≠ saver' → some j ≠ saver) :
    Others saver' (calls.set i moved) := by
  intro j call hcall hj
  by_cases hji : i = j
  · subst hji
    have hlength : i < calls.length := by
      have := (List.getElem?_eq_some_iff.mp hcall).1
      rwa [List.length_set] at this
    rw [List.getElem?_set_self hlength] at hcall
    cases hcall
    exact hmoved hj
  · rw [List.getElem?_set_ne hji] at hcall
    exact h j call hcall (hsaver j (Ne.symm hji) hj)

variable {rest : StoreProgram Outcome} {history' : Program.History StoreOp.Reply}

variable {succeeded' : List Request} {rest' : StoreProgram Outcome}

/-- A call has moved, and the rest is as it should be. -/
theorem Sound.moved {saver' : Option Nat} (h : Sound owner start succeeded saver pool)
    (hat : pool.calls[i]? = some ⟨request, rest, history⟩)
    (hstage : Stage owner start request rest' history')
    (hothers : Others saver' (pool.calls.set i ⟨request, rest', history'⟩))
    (hmode : Mode owner start succeeded' ⟨shared, pool.calls.set i ⟨request, rest', history'⟩⟩
      saver') :
    Sound owner start succeeded' saver' ⟨shared, pool.calls.set i ⟨request, rest', history'⟩⟩ := by
  refine ⟨fun call hcall => ?_, fun call hcall => ?_, hothers, hmode⟩
  · rcases List.mem_or_eq_of_mem_set hcall with hcall | rfl
    · exact h.stages call hcall
    · exact hstage
  · rcases List.mem_or_eq_of_mem_set hcall with hcall | rfl
    · exact h.steady call hcall
    · exact h.steady ⟨request, rest, history⟩ (List.mem_of_getElem? hat)

/-- Who is between its two writes is who the invariant says. -/
theorem Sound.saver_eq {call : Call StoreOp StoreOp.Reply NamespaceError Outcome Request}
    (h : Sound owner start succeeded saver pool) (hat : pool.calls[i]? = some call)
    (hsaving : Saving call.rest) : saver = some i := by
  by_contra hne
  exact h.others i call hat (fun heq => hne heq.symm) hsaving

/-- A call begins. -/
theorem Sound.started (h : Sound owner start succeeded saver pool) (hsteady : Steady request) :
    Sound owner start succeeded saver
      ⟨pool.shared, pool.calls ++ [⟨request, body owner request, []⟩]⟩ := by
  have hlast : ∀ call ∈ pool.calls ++ [⟨request, body owner request, []⟩],
      call ∈ pool.calls ∨ call = ⟨request, body owner request, []⟩ := fun call hcall => by
    simpa using hcall
  refine ⟨fun call hcall => ?_, fun call hcall => ?_, fun i call hcall hi => ?_,
    h.mode.transfer rfl fun i hi => ?_⟩
  · rcases hlast call hcall with hcall | rfl
    · exact h.stages call hcall
    · rw [body_eq]
      exact .called
  · rcases hlast call hcall with hcall | rfl
    · exact h.steady call hcall
    · exact hsteady
  · rw [List.getElem?_append] at hcall
    split at hcall
    · exact h.others i call hcall hi
    · have hnew := List.mem_singleton.mp (List.mem_of_getElem? hcall)
      rw [hnew, body_eq]
      rintro ⟨ns, next, hrest⟩
      cases hrest
  · have hinside : i < pool.calls.length := by
      have hmode := h.mode
      rw [hi] at hmode
      cases hmode with
      | creating hcall => exact (List.getElem?_eq_some_iff.mp hcall).1
      | changing hcall => exact (List.getElem?_eq_some_iff.mp hcall).1
    exact List.getElem?_append_left hinside

/-- A call loads its copy. -/
theorem Sound.load (h : Sound owner start succeeded saver pool)
    (hstart : ∀ ns, start.files owner = some (.readable ns) → ns.owner = owner)
    (hat : pool.calls[i]? = some ⟨request, .perform (.load owner) (afterLoad owner request), []⟩)
    (hload : handle (.load owner) fate pool.shared = (loaded, shared)) :
    Sound owner start succeeded saver ⟨shared, pool.calls.set i
      ⟨request, afterLoad owner request loaded, [⟨.load owner, loaded⟩]⟩⟩ := by
  obtain ⟨hmode, hok, hnone⟩ := h.mode.load hstart hload
  have hi : some i ≠ saver := by
    rintro rfl
    have hmode := h.mode
    cases hmode with
    | creating hcall => cases hat.symm.trans hcall
    | changing hcall => cases hat.symm.trans hcall
  refine h.moved hat (.afterLoad hok hnone) (h.others.set (fun _ => not_saving_afterLoad)
    fun _ _ hj => hj) (hmode.transfer rfl fun j hj => ?_)
  exact List.getElem?_set_ne (by rintro rfl; exact hi hj.symm)

omit [Crypto] in
theorem saving_replaceCached {next : Unit → StoreProgram Outcome} :
    Saving (.perform (.replaceCached ns) next) := ⟨ns, next, rfl⟩

omit [Crypto] in
theorem not_saving_done {result : Except NamespaceError Outcome} : ¬Saving (.done result) := by
  rintro ⟨ns, next, h⟩
  cases h

/-- A call gives up without having changed anything. -/
theorem Sound.gaveUp {e : NamespaceError} (h : Sound owner start succeeded none pool)
    (hat : pool.calls[i]? = some ⟨request, rest, history⟩) :
    Sound owner start succeeded none
      ⟨pool.shared, pool.calls.set i ⟨request, .done (.error e), history'⟩⟩ :=
  h.moved hat (.ended _ _) (h.others.set (fun _ => not_saving_done) fun _ _ hj => hj)
    (h.mode.transfer rfl fun _ hj => (by cases hj))

/-- A call writes the file of a namespace that is new. -/
theorem Sound.wroteFresh {fresh : Namespace} (h : Sound owner start succeeded none pool)
    (hat : pool.calls[i]? = some ⟨request, rest, history⟩) (hfresh : withOwnerHex owner = .ok fresh)
    (habsent : start.files owner = none) (hcached : pool.shared.namespaces owner = none) :
    Sound owner start succeeded (some i)
      ⟨{ pool.shared with
          files := Function.update pool.shared.files fresh.owner (some (.readable fresh)) },
        pool.calls.set i ⟨request, written fresh (finish request fresh) (.ok ()), history'⟩⟩ := by
  obtain ⟨hnamed, hroot⟩ := withOwnerHex_eq_ok hfresh
  have hsucceeded : succeeded = [] := by
    have hmode := h.mode
    cases hmode with
    | untouched hnone => exact hnone
    | idle hsome => rw [hcached] at hsome; cases hsome
  have hholds : Holds owner start succeeded fresh := by
    refine ⟨hnamed, fun path => ?_⟩
    rw [hsucceeded, habsent, Namespace.found, hroot]
    rfl
  refine h.moved hat (.created hnamed) (h.others.set (fun hi => absurd rfl hi) fun _ _ hj => ?_)
    (.creating (List.getElem?_set_self (List.getElem?_eq_some_iff.mp hat).1) ?_ hholds ?_)
  · exact fun hnone => (by cases hnone)
  · rw [hnamed]
    exact Function.update_self _ _ _
  · intro ns hns
    rw [hcached] at hns
    cases hns

/-- A call writes the file of the namespace that it has changed. -/
theorem Sound.wroteChanged {changed : Namespace} (h : Sound owner start succeeded none pool)
    (hat : pool.calls[i]? = some ⟨request, rest, history⟩)
    (hchanged : request.applied copy = .ok changed)
    (hcached : pool.shared.namespaces owner = some copy) :
    Sound owner start succeeded (some i)
      ⟨{ pool.shared with
          files := Function.update pool.shared.files changed.owner (some (.readable changed)) },
        pool.calls.set i
          ⟨request, written changed (.done (.ok request.outcome)) (.ok ()), history'⟩⟩ := by
  have hcopy : Holds owner start succeeded copy := by
    have hmode := h.mode
    cases hmode with
    | untouched _ hnone => rw [hcached] at hnone; cases hnone
    | idle hsome hns => rw [hcached] at hsome; cases hsome; exact hns
  have hsteady : Steady request := h.steady ⟨request, rest, history⟩ (List.mem_of_getElem? hat)
  obtain ⟨hnamed, hfound⟩ := found_applied hsteady hchanged
  have howner : changed.owner = owner := hnamed.trans hcopy.named
  have hholds : Holds owner start (succeeded ++ [request]) changed := by
    refine ⟨howner, fun path => ?_⟩
    rw [hfound, expected_append, hcopy.found]
  refine h.moved hat (.changed howner) (h.others.set (fun hi => absurd rfl hi) fun _ _ hj => ?_)
    (.changing (List.getElem?_set_self (List.getElem?_eq_some_iff.mp hat).1) hcached hcopy ?_
      hholds)
  · exact fun hnone => (by cases hnone)
  · rw [howner]
    exact Function.update_self _ _ _

/-- A call replaces the cached copy: nobody is between two writes any more. -/
theorem Sound.replaced (h : Sound owner start succeeded (some i) pool)
    (hat : pool.calls[i]? = some ⟨request, rest, history⟩)
    (hstage : Stage owner start request rest' history') (hrest : ¬Saving rest')
    (hns : Holds owner start succeeded' ns)
    (hfile : pool.shared.files owner = some (.readable ns)) :
    Sound owner start succeeded' none
      ⟨{ pool.shared with
          namespaces := Function.update pool.shared.namespaces ns.owner (some ns) },
        pool.calls.set i ⟨request, rest', history'⟩⟩ := by
  refine h.moved hat hstage (h.others.set (fun _ => hrest) fun j hj _ => ?_)
    (.idle ?_ hns hfile hns)
  · exact fun heq => hj (Option.some.inj heq)
  · rw [hns.named]
    exact Function.update_self _ _ _

/-- What is left of a call once it has replaced the cached copy. -/
def afterReplacing (call : Option (Call StoreOp StoreOp.Reply NamespaceError Outcome Request)) :
    Option (StoreProgram Outcome) :=
  call.bind fun call =>
    match call.rest with
    | .perform (.replaceCached _) next => some (next ())
    | _ => none

/-- What a step leaves of the call that takes it says whether a call succeeds by it. -/
theorem succeeds_eq (hstep : step owner pool (.proceed i fate) = some pool')
    (hat : pool'.calls[i]? = some ⟨request, rest, history⟩) :
    succeeds owner pool (.proceed i fate) = gained request rest := by
  rw [succeeds, hstep, Option.bind_some, hat]

omit [Crypto] in
theorem gained_eq_nil (hne : ∀ outcome, rest ≠ .done (.ok outcome)) : gained request rest = [] := by
  cases rest with
  | perform op next => rfl
  | done result =>
    cases result with
    | ok outcome => exact absurd rfl (hne outcome)
    | error e => rfl

/-- **One step** of a careful run. -/
theorem Sound.step {label : PoolLabel Request Fate} (h : Sound owner start succeeded saver pool)
    (hstart : ∀ ns, start.files owner = some (.readable ns) → ns.owner = owner)
    (hcareful : Careful owner pool label)
    (hstep : NamespaceStore.step owner pool label = some pool') :
    ∃ saver', Sound owner start (succeeded ++ succeeds owner pool label) saver' pool' := by
  rcases Pool.step_cases hstep with ⟨request, rfl, rfl⟩ |
    ⟨i, fate, request, op, next, history, rfl, hat, rfl⟩
  · rw [succeeds, List.append_nil]
    exact ⟨saver, h.started hcareful⟩
  · have hself : ∀ call, (pool.calls.set i call)[i]? = some call := fun call =>
      List.getElem?_set_self (List.getElem?_eq_some_iff.mp hat).1
    have hquiet : ∀ ns, op = .writeFile ns → fate ≠ .torn ∧
        pool.shared.namespaces owner = seen history ∧ saver = none := by
      rintro ns rfl
      obtain ⟨hwhole, hseen, hcalls⟩ := hcareful request ns next history hat
      exact ⟨hwhole, hseen, h.mode.saver_eq_none hcalls⟩
    have hstage : Stage owner start request (.perform op next) history :=
      h.stages _ (List.mem_of_getElem? hat)
    generalize hrest : Program.perform op next = rest at hstage
    cases hstage with
    | ended => cases hrest
    | called =>
      cases hrest
      refine ⟨saver, ?_⟩
      rw [succeeds_eq hstep (hself _), gained_eq_nil fun outcome => afterLoad_ne_ok,
        List.append_nil]
      exact h.load hstart hat rfl
    | creating hfresh habsent =>
      cases hrest
      obtain ⟨hwhole, hseen, rfl⟩ := hquiet _ rfl
      cases fate with
      | torn => exact absurd rfl hwhole
      | failed =>
        refine ⟨none, ?_⟩
        rw [succeeds_eq hstep (hself _), gained_eq_nil fun outcome heq => (by cases heq),
          List.append_nil]
        exact h.gaveUp hat
      | done =>
        refine ⟨some i, ?_⟩
        rw [succeeds_eq hstep (hself _), gained_eq_nil fun outcome heq => (by cases heq),
          List.append_nil]
        exact h.wroteFresh hat hfresh habsent hseen
    | changing hcopy hchanged =>
      cases hrest
      obtain ⟨hwhole, hseen, rfl⟩ := hquiet _ rfl
      cases fate with
      | torn => exact absurd rfl hwhole
      | failed =>
        refine ⟨none, ?_⟩
        rw [succeeds_eq hstep (hself _), gained_eq_nil fun outcome heq => (by cases heq),
          List.append_nil]
        exact h.gaveUp hat
      | done =>
        refine ⟨some i, ?_⟩
        rw [succeeds_eq hstep (hself _), gained_eq_nil fun outcome heq => (by cases heq),
          List.append_nil]
        exact h.wroteChanged hat hchanged (hseen.trans hcopy)
    | created howner =>
      cases hrest
      obtain rfl := h.saver_eq hat saving_replaceCached
      refine ⟨none, ?_⟩
      rw [succeeds_eq hstep (hself _), gained_eq_nil fun outcome => finish_ne_ok, List.append_nil]
      have hmode := h.mode
      cases hmode with
      | creating hcall hfile hfresh =>
        cases hat.symm.trans hcall
        exact h.replaced hat (.finish (by simp [seen]) howner) not_saving_finish hfresh hfile
      | changing hcall =>
        have hsame := congrArg afterReplacing (hat.symm.trans hcall)
        exact absurd (Option.some.inj hsame) finish_ne_ok
    | changed howner =>
      cases hrest
      obtain rfl := h.saver_eq hat saving_replaceCached
      refine ⟨none, ?_⟩
      have hmode := h.mode
      cases hmode with
      | creating hcall =>
        have hsame := congrArg afterReplacing (hcall.symm.trans hat)
        exact absurd (Option.some.inj hsame) finish_ne_ok
      | changing hcall hcached hcopy hfile hns =>
        cases hat.symm.trans hcall
        rw [succeeds_eq hstep (hself _)]
        exact h.replaced hat (.ended _ _) not_saving_done hns hfile

/-- **A careful run.** -/
theorem Sound.run {labels : List (PoolLabel Request Fate)} (hnew : start.namespaces owner = none)
    (hstart : ∀ ns, start.files owner = some (.readable ns) → ns.owner = owner)
    (hcareful : Transition.Guarded (NamespaceStore.step owner) (Careful owner) ⟨start, []⟩ labels)
    (hrun : Transition.run (NamespaceStore.step owner) ⟨start, []⟩ labels = some pool) :
    ∃ saver, Sound owner start
      (Transition.trace (NamespaceStore.step owner) (succeeds owner) ⟨start, []⟩ labels) saver
        pool := by
  induction labels using List.reverseRecOn generalizing pool with
  | nil =>
    cases hrun
    exact ⟨none, fun call hcall => (by cases hcall), fun call hcall => (by cases hcall),
      fun i call hcall => (by cases hcall), .untouched rfl hnew rfl⟩
  | append_singleton labels label ih =>
    obtain ⟨middle, hmiddle, hstep⟩ := Transition.run_snoc_eq_some.mp hrun
    obtain ⟨hearlier, hlast⟩ := hcareful.of_append hmiddle
    obtain ⟨saver, hsound⟩ := ih hearlier hmiddle
    obtain ⟨saver', hsound'⟩ := hsound.step hstart hlast.1 hstep
    refine ⟨saver', ?_⟩
    rw [Transition.trace_append hmiddle, Transition.trace_cons hstep, Transition.trace_nil,
      List.append_nil]
    exact hsound'

/-- Every call has returned. -/
def Returned (pool : StorePool) : Prop := ∀ call ∈ pool.calls, ∃ result, call.rest = .done result

/-- A namespace in which each path resolves to what it should after some calls have succeeded. -/
def Resolves (owner : String) (start : Shared) (succeeded : List Request) (ns : Namespace) : Prop :=
  ∀ path, (ns.resolve path).map NamespaceEntry.cid =
    expected (Saved.found (start.files owner)) succeeded (pathComponents path)

/-- Nothing is lost, in memory or in the file: either nothing has been done, or each path resolves
to what it should. -/
structure Kept (owner : String) (start : Shared) (succeeded : List Request) (shared : Shared) :
    Prop where
  memory : succeeded = [] ∧ shared.namespaces owner = none ∨
    ∃ ns, shared.namespaces owner = some ns ∧ Resolves owner start succeeded ns
  file : succeeded = [] ∧ shared.files owner = start.files owner ∨
    ∃ ns, shared.files owner = some (.readable ns) ∧ Resolves owner start succeeded ns

/-- **Nothing is lost in a careful run**: once all calls have returned, every path is as the last
successful one of them that touches it has left it. -/
theorem changes_are_kept {labels : List (PoolLabel Request Fate)}
    (hnew : start.namespaces owner = none)
    (hstart : ∀ ns, start.files owner = some (.readable ns) → ns.owner = owner)
    (hcareful : Transition.Guarded (step owner) (Careful owner) ⟨start, []⟩ labels)
    (hrun : Transition.run (step owner) ⟨start, []⟩ labels = some pool) (hreturned : Returned pool) :
    Kept owner start (Transition.trace (step owner) (succeeds owner) ⟨start, []⟩ labels)
      pool.shared := by
  obtain ⟨saver, hsound⟩ := Sound.run hnew hstart hcareful hrun
  have hquiet : ∀ call ∈ pool.calls, ¬Saving call.rest := by
    intro call hcall
    obtain ⟨result, hresult⟩ := hreturned call hcall
    rw [hresult]
    exact not_saving_done
  obtain rfl := hsound.mode.saver_eq_none hquiet
  have hmode := hsound.mode
  cases hmode with
  | untouched hnone hcached hfile => exact ⟨.inl ⟨hnone, hcached⟩, .inl ⟨hnone, hfile⟩⟩
  | idle hcached hns hfile hkept =>
    exact ⟨.inr ⟨_, hcached, fun path => hns.found _⟩, .inr ⟨_, hfile, fun path => hkept.found _⟩⟩

end

end

/-! ## 7. Two calls at once -/

section

variable [Crypto] {owner : String} {pool : StorePool} {i : Nat} {request : Request}
  {ns changed : Namespace} {history : Program.History StoreOp.Reply} {shared : Shared}

/-- A call in progress as it stands after its first step, if its change can be made. -/
def loadedCall (owner : String) (request : Request) (ns changed : Namespace) :
    Call StoreOp StoreOp.Reply NamespaceError Outcome Request :=
  ⟨request, .perform (.writeFile changed) (written changed (.done (.ok request.outcome))),
    [⟨.load owner, .ok ns⟩]⟩

/-- A call that has written the file. -/
def savingCall (owner : String) (request : Request) (ns changed : Namespace) :
    Call StoreOp StoreOp.Reply NamespaceError Outcome Request :=
  ⟨request, .perform (.replaceCached changed) fun _ => .done (.ok request.outcome),
    [⟨.load owner, .ok ns⟩, ⟨.writeFile changed, .ok ()⟩]⟩

/-- A call that has succeeded. -/
def succeededCall (owner : String) (request : Request) (ns changed : Namespace) :
    Call StoreOp StoreOp.Reply NamespaceError Outcome Request :=
  ⟨request, .done (.ok request.outcome),
    [⟨.load owner, .ok ns⟩, ⟨.writeFile changed, .ok ()⟩, ⟨.replaceCached changed, ()⟩]⟩

theorem step_load (hat : pool.calls[i]? = some ⟨request, body owner request, []⟩)
    (hload : handle (.load owner) .done pool.shared = (.ok ns, shared))
    (happlied : request.applied ns = .ok changed) :
    step owner pool (.proceed i .done) =
      some ⟨shared, pool.calls.set i (loadedCall owner request ns changed)⟩ := by
  rw [body_eq] at hat
  have hfinish : afterLoad owner request (.ok ns) =
      .perform (.writeFile changed) (written changed (.done (.ok request.outcome))) := by
    rw [afterLoad, finish, happlied]
  rw [loadedCall, ← hfinish]
  exact (Pool.Moves.perform hload).step hat

theorem step_writeFile (changed : Namespace)
    (hat : pool.calls[i]? = some (loadedCall owner request ns changed)) :
    step owner pool (.proceed i .done) = some ⟨{ pool.shared with
        files := Function.update pool.shared.files changed.owner (some (.readable changed)) },
      pool.calls.set i (savingCall owner request ns changed)⟩ := by
  have hmoves : Pool.Moves handle .done pool.shared
      (.perform (.writeFile changed) (written changed (.done (.ok request.outcome))))
      ⟨.writeFile changed, .ok ()⟩ { pool.shared with
        files := Function.update pool.shared.files changed.owner (some (.readable changed)) }
      (.perform (.replaceCached changed) fun _ => .done (.ok request.outcome)) := .perform rfl
  exact hmoves.step hat

theorem step_replaceCached (changed : Namespace)
    (hat : pool.calls[i]? = some (savingCall owner request ns changed)) :
    step owner pool (.proceed i .done) = some ⟨{ pool.shared with
        namespaces := Function.update pool.shared.namespaces changed.owner (some changed) },
      pool.calls.set i (succeededCall owner request ns changed)⟩ := by
  have hmoves : Pool.Moves handle .done pool.shared
      (.perform (.replaceCached changed) fun _ => .done (.ok request.outcome))
      ⟨.replaceCached changed, ()⟩ { pool.shared with
        namespaces := Function.update pool.shared.namespaces changed.owner (some changed) }
      (.done (.ok request.outcome) : StoreProgram Outcome) := .perform rfl
  exact hmoves.step hat

end

def sampleNamespace (children : List (String × NamespaceEntry)) : Namespace :=
  ⟨NAMESPACE_VERSION, "owner", .directory children, none⟩

def sampleStart : Shared where
  namespaces := fun _ => none
  files := fun _ => some (.readable (sampleNamespace []))

def sampleLoaded : Shared :=
  ⟨Function.update sampleStart.namespaces "owner" (some (sampleNamespace [])), sampleStart.files⟩

def sampleWrite (name : String) : Request := .write name [1] none

section

variable [Crypto]

def sampleChanged (name : String) : Namespace :=
  sampleNamespace [(name, .file (ContentId.fromContent [1]) 1 none)]

def sampleSaved (shared : Shared) (name : String) : Shared :=
  ⟨Function.update shared.namespaces "owner" (some (sampleChanged name)),
    Function.update shared.files "owner" (some (.readable (sampleChanged name)))⟩

theorem sampleSaved_namespaces (shared : Shared) (name : String) :
    (sampleSaved shared name).namespaces "owner" = some (sampleChanged name) := by
  simp [sampleSaved]

theorem applied_sampleWrite {name : String} (hname : pathComponents name = [name]) :
    (sampleWrite name).applied (sampleNamespace []) = .ok (sampleChanged name) := by
  unfold sampleWrite Request.applied Namespace.put
  dsimp only
  rw [hname]
  rfl

omit [Crypto] in
theorem pathComponents_a : pathComponents "a" = ["a"] := by decide +kernel

omit [Crypto] in
theorem pathComponents_b : pathComponents "b" = ["b"] := by decide +kernel

/-- Two calls load the same copy, and then each writes its own change. -/
def overlapping (a b : Request) : List (PoolLabel Request Fate) :=
  [.start a, .start b, .proceed 0 .done, .proceed 1 .done, .proceed 0 .done, .proceed 0 .done,
    .proceed 1 .done, .proceed 1 .done]

/-- What the second one leaves. -/
theorem run_overlapping : ∃ pool,
    Transition.run (step "owner") ⟨sampleStart, []⟩ (overlapping (sampleWrite "a") (sampleWrite "b"))
        = some pool ∧
      Transition.trace (step "owner") (succeeds "owner") ⟨sampleStart, []⟩
        (overlapping (sampleWrite "a") (sampleWrite "b")) = [sampleWrite "a", sampleWrite "b"] ∧
      Returned pool ∧ pool.shared = sampleSaved (sampleSaved sampleLoaded "a") "b" := by
  have ha := applied_sampleWrite pathComponents_a
  have hb := applied_sampleWrite pathComponents_b
  let called (name : String) : Call StoreOp StoreOp.Reply NamespaceError Outcome Request :=
    ⟨sampleWrite name, body "owner" (sampleWrite name), []⟩
  let loaded (name : String) := loadedCall "owner" (sampleWrite name) (sampleNamespace [])
    (sampleChanged name)
  let saving (name : String) := savingCall "owner" (sampleWrite name) (sampleNamespace [])
    (sampleChanged name)
  let ended (name : String) := succeededCall "owner" (sampleWrite name) (sampleNamespace [])
    (sampleChanged name)
  have h₁ : step "owner" ⟨sampleStart, []⟩ (.start (sampleWrite "a")) =
      some ⟨sampleStart, [called "a"]⟩ := rfl
  have h₂ : step "owner" ⟨sampleStart, [called "a"]⟩ (.start (sampleWrite "b")) =
      some ⟨sampleStart, [called "a", called "b"]⟩ := rfl
  have h₃ : step "owner" ⟨sampleStart, [called "a", called "b"]⟩ (.proceed 0 .done) =
      some ⟨sampleLoaded, [loaded "a", called "b"]⟩ := step_load rfl rfl ha
  have h₄ : step "owner" ⟨sampleLoaded, [loaded "a", called "b"]⟩ (.proceed 1 .done) =
      some ⟨sampleLoaded, [loaded "a", loaded "b"]⟩ :=
    step_load rfl (handle_load_of_cached rfl) hb
  have h₅ : step "owner" ⟨sampleLoaded, [loaded "a", loaded "b"]⟩ (.proceed 0 .done) =
      some ⟨⟨sampleLoaded.namespaces, (sampleSaved sampleLoaded "a").files⟩,
        [saving "a", loaded "b"]⟩ := step_writeFile (sampleChanged "a") rfl
  have h₆ : step "owner" ⟨⟨sampleLoaded.namespaces, (sampleSaved sampleLoaded "a").files⟩,
      [saving "a", loaded "b"]⟩ (.proceed 0 .done) =
        some ⟨sampleSaved sampleLoaded "a", [ended "a", loaded "b"]⟩ :=
    step_replaceCached (sampleChanged "a") rfl
  have h₇ : step "owner" ⟨sampleSaved sampleLoaded "a", [ended "a", loaded "b"]⟩ (.proceed 1 .done) =
      some ⟨⟨(sampleSaved sampleLoaded "a").namespaces,
        (sampleSaved (sampleSaved sampleLoaded "a") "b").files⟩, [ended "a", saving "b"]⟩ :=
    step_writeFile (sampleChanged "b") rfl
  have h₈ : step "owner" ⟨⟨(sampleSaved sampleLoaded "a").namespaces,
      (sampleSaved (sampleSaved sampleLoaded "a") "b").files⟩, [ended "a", saving "b"]⟩
        (.proceed 1 .done) =
      some ⟨sampleSaved (sampleSaved sampleLoaded "a") "b", [ended "a", ended "b"]⟩ :=
    step_replaceCached (sampleChanged "b") rfl
  refine ⟨⟨sampleSaved (sampleSaved sampleLoaded "a") "b", [ended "a", ended "b"]⟩, ?_, ?_, ?_, rfl⟩
  · simp only [overlapping, Transition.run_cons_eq_some, Transition.run_nil]
    exact ⟨_, h₁, _, h₂, _, h₃, _, h₄, _, h₅, _, h₆, _, h₇, _, h₈, rfl⟩
  · rw [overlapping, Transition.trace_cons h₁, Transition.trace_cons h₂, Transition.trace_cons h₃,
      Transition.trace_cons h₄, Transition.trace_cons h₅, Transition.trace_cons h₆,
      Transition.trace_cons h₇, Transition.trace_cons h₈, succeeds_eq h₃ rfl, succeeds_eq h₄ rfl,
      succeeds_eq h₅ rfl, succeeds_eq h₆ rfl, succeeds_eq h₇ rfl, succeeds_eq h₈ rfl]
    rfl
  · intro call hcall
    rcases List.mem_pair.mp hcall with rfl | rfl <;> exact ⟨_, rfl⟩

end

theorem changes_are_kept_alone :
    letI := keyEchoCrypto
    ∃ pool, Transition.run (step "owner") ⟨sampleStart, []⟩
        [.start (sampleWrite "a"), .proceed 0 .done, .proceed 0 .done, .proceed 0 .done] = some pool ∧
      Kept "owner" sampleStart (Transition.trace (step "owner") (succeeds "owner") ⟨sampleStart, []⟩
        [.start (sampleWrite "a"), .proceed 0 .done, .proceed 0 .done, .proceed 0 .done])
          pool.shared := by
  let _ := keyEchoCrypto
  let loaded := loadedCall "owner" (sampleWrite "a") (sampleNamespace []) (sampleChanged "a")
  let saving := savingCall "owner" (sampleWrite "a") (sampleNamespace []) (sampleChanged "a")
  let ended := succeededCall "owner" (sampleWrite "a") (sampleNamespace []) (sampleChanged "a")
  have h₁ : step "owner" ⟨sampleStart, []⟩ (.start (sampleWrite "a")) =
      some ⟨sampleStart, [⟨sampleWrite "a", body "owner" (sampleWrite "a"), []⟩]⟩ := rfl
  have h₂ : step "owner"
      ⟨sampleStart, [⟨sampleWrite "a", body "owner" (sampleWrite "a"), []⟩]⟩ (.proceed 0 .done) =
        some ⟨sampleLoaded, [loaded]⟩ := step_load rfl rfl (applied_sampleWrite pathComponents_a)
  have h₃ : step "owner" ⟨sampleLoaded, [loaded]⟩ (.proceed 0 .done) =
      some ⟨⟨sampleLoaded.namespaces, (sampleSaved sampleLoaded "a").files⟩, [saving]⟩ :=
    step_writeFile (sampleChanged "a") rfl
  have h₄ : step "owner" ⟨⟨sampleLoaded.namespaces, (sampleSaved sampleLoaded "a").files⟩, [saving]⟩
      (.proceed 0 .done) = some ⟨sampleSaved sampleLoaded "a", [ended]⟩ :=
    step_replaceCached (sampleChanged "a") rfl
  have hrun : Transition.run (step "owner") ⟨sampleStart, []⟩
      [.start (sampleWrite "a"), .proceed 0 .done, .proceed 0 .done, .proceed 0 .done] =
        some ⟨sampleSaved sampleLoaded "a", [ended]⟩ := by
    simp only [Transition.run_cons_eq_some, Transition.run_nil]
    exact ⟨_, h₁, _, h₂, _, h₃, _, h₄, rfl⟩
  have hcareful : Transition.Guarded (step "owner") (Careful "owner") ⟨sampleStart, []⟩
      [.start (sampleWrite "a"), .proceed 0 .done, .proceed 0 .done, .proceed 0 .done] := by
    refine .cons h₁ trivial (.cons h₂ ?_ (.cons h₃ ?_ (.cons h₄ ?_ Transition.guarded_nil)))
    · intro request ns next history hat
      rw [body_eq] at hat
      cases hat
    · intro request ns next history hat
      have hcall : loadedCall "owner" (sampleWrite "a") (sampleNamespace []) (sampleChanged "a") =
          ⟨request, .perform (.writeFile ns) next, history⟩ := Option.some.inj hat
      rw [loadedCall] at hcall
      cases hcall
      refine ⟨(by decide), by simp [sampleLoaded, seen], fun call hcall => ?_⟩
      rw [List.mem_singleton.mp hcall]
      rintro ⟨ns, next, hrest⟩
      cases hrest
    · intro request ns next history hat
      have hcall : savingCall "owner" (sampleWrite "a") (sampleNamespace []) (sampleChanged "a") =
          ⟨request, .perform (.writeFile ns) next, history⟩ := Option.some.inj hat
      rw [savingCall] at hcall
      cases hcall
  refine ⟨_, hrun, changes_are_kept rfl (by rintro ns ⟨⟩; rfl) hcareful hrun fun call hcall => ?_⟩
  rw [List.mem_singleton.mp hcall]
  exact ⟨_, rfl⟩

/-- The first call's file is gone, from memory and from the file. -/
theorem overlapping_change_lost :
    letI := keyEchoCrypto
    ¬∀ owner start labels pool, start.namespaces owner = none →
      (∀ ns, start.files owner = some (.readable ns) → ns.owner = owner) →
        Transition.run (step owner) ⟨start, []⟩ labels = some pool → Returned pool →
          Kept owner start (Transition.trace (step owner) (succeeds owner) ⟨start, []⟩ labels)
            pool.shared := by
  let _ := keyEchoCrypto
  intro h
  obtain ⟨pool, hrun, htrace, hreturned, hshared⟩ := run_overlapping
  have hkept := h "owner" sampleStart _ pool rfl (by rintro ns ⟨⟩; rfl) hrun hreturned
  rw [htrace, hshared] at hkept
  rcases hkept.memory with ⟨hnone, -⟩ | ⟨ns, hns, hresolves⟩
  · cases hnone
  · cases (sampleSaved_namespaces _ "b").symm.trans hns
    have hlost := hresolves "a"
    rw [map_cid_resolve, pathComponents_a] at hlost
    have hexpected : expected (Saved.found (sampleStart.files "owner"))
        [sampleWrite "a", sampleWrite "b"] ["a"] = some (some (ContentId.fromContent [1])) := by
      simp [expected, Request.touches, Request.target, Request.leaves, sampleWrite,
        pathComponents_a, pathComponents_b]
    rw [hexpected] at hlost
    cases hlost

end ElastosRuntime.NamespaceStore
