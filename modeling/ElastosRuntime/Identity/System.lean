/-
# Managers over one data directory

Any number of managers work on the files of one directory, in any order; each call is a step.  A
crash during a call leaves the directory as the call leaves it and takes the manager with it.

`log` and `written` are for the statements only: what has been begun, redeemed and enrolled, newest
first, and every content the file of credentials has had.
-/
import ElastosRuntime.Identity.Calls
import ElastosRuntime.Lib.Transition

namespace ElastosRuntime.Identity

open IdentityStore

/-! ## 1. Steps -/

inductive Event where
  | began (handle : Nat) (token rpId : String) (pending : PendingChallenge)
  | registered (handle : Nat) (token rpId rpOrigin : String) (time : Nat)
  | authenticated (handle : Nat) (token rpId credentialId : String) (signCount : Nat)
      (hash : List UInt8) (time : Nat)
  | enrolled (credentialId rpId : String)

/-- The RP id an event is about. -/
def Event.party : Event → String
  | .began _ _ rpId _ => rpId
  | .registered _ _ rpId _ _ => rpId
  | .authenticated _ _ rpId _ _ _ _ => rpId
  | .enrolled _ rpId => rpId

structure World where
  disk : Disk
  handles : Nat → Option IdentityManager
  time : Nat
  log : List Event
  written : List (List UInt8)

/-- A new data directory. -/
def World.empty : World := ⟨⟨none, none⟩, fun _ => none, 0, [], []⟩

inductive Label where
  | start (handle : Nat) (creating loading : Access) (drawn : Bytes 32)
  | call (handle : Nat) (call : Call) (env : Environment)
  | crash (handle : Nat) (call : Call) (env : Environment)
  | setAllowClone (handle : Nat) (allowClone : Bool)

def credentialIds (data : Option IdentityData) : List String :=
  match data with
  | none => []
  | some data => data.credentials.map StoredCredential.credentialId

/-- The credentials that are in a store and were not, as enrolled under an RP id. -/
def enrolledBetween (before after : Option IdentityData) (rpId : String) : List Event :=
  ((credentialIds after).filter fun id => id ∉ credentialIds before).map fun id => .enrolled id rpId

section

theorem ok_of_toOption {ε α : Type} {result : Except ε α} {a : α}
    (h : result.toOption = some a) : result = .ok a := by
  cases result with
  | error e => cases h
  | ok b => exact congrArg Except.ok (Option.some.inj h)

/-- Whose entry it is after one was replaced. -/
theorem update_eq_some {α : Type} {f : Nat → Option α} {handle other : Nat} {x : Option α} {a : α}
    (h : Function.update f handle x other = some a) :
    other = handle ∧ x = some a ∨ other ≠ handle ∧ f other = some a := by
  by_cases hother : other = handle
  · subst hother
    exact .inl ⟨rfl, by rwa [Function.update_self] at h⟩
  · exact .inr ⟨hother, by rwa [Function.update_of_ne hother] at h⟩

variable [WebAuthnCrates]

/-- What a call reports by succeeding. -/
def returned (handle : Nat) (call : Call) (env : Environment) (answer : Answer Reply) :
    List Event :=
  match answer.result with
  | .error _ => []
  | .ok reply =>
    match call, reply with
    | .completeRegistration token _ rpId origin, _ =>
      [.registered handle token rpId origin env.now]
    | .completeAuthentication token response rpId _, .authenticated outcome =>
      [.authenticated handle token rpId outcome.credential.credentialId
        outcome.credential.signCount (assertedHash response) env.now]
    | call, _ =>
      match call.begun with
      | some (token, rpId) =>
        (answer.manager.challenges.lookup token).toList.map (.began handle token rpId)
      | none => []

variable [Crypto] [IdentityCrates]

/-- What a call changes besides its manager: the directory, the clock and the record. -/
def World.after (w : World) (handle : Nat) (manager : Option IdentityManager) (call : Call)
    (env : Environment) (disk : Disk) (reported : List Event) : World where
  disk := disk
  handles := Function.update w.handles handle manager
  time := env.created
  log := reported ++ enrolledBetween w.disk.saved disk.saved call.party ++ w.log
  written := disk.credentials.toList ++ w.written

def step (w : World) : Label → Option World
  | .start handle creating loading drawn =>
    if (w.handles handle).isSome then none
    else
      let opened := IdentityManager.new w.disk creating loading drawn
      some { w with
        disk := opened.2
        handles := Function.update w.handles handle opened.1.toOption }
  | .call handle call env =>
    match w.handles handle with
    | none => none
    | some manager =>
      if w.time ≤ env.now ∧ env.now ≤ env.created then
        let answer := manager.call w.disk env call
        some (w.after handle (some answer.manager) call env answer.disk
          (returned handle call env answer))
      else none
  | .crash handle call env =>
    match w.handles handle with
    | none => none
    | some manager =>
      if w.time ≤ env.now ∧ env.now ≤ env.created then
        some (w.after handle none call env (manager.call w.disk env call).disk [])
      else none
  | .setAllowClone handle allowClone =>
    match w.handles handle with
    | none => none
    | some manager =>
      some { w with
        handles := Function.update w.handles handle (some { manager with allowClone }) }

/-! ## 2. Copies and files -/

/-- Every file can be read, and every copy is of a file that has been written. -/
structure Consistent (w : World) : Prop where
  files : ∀ raw, w.disk.credentials = some raw → raw ∈ w.written ∧
    ∃ key data, w.disk.deviceKey = some key ∧ readCredentials key raw = .ok data
  handles : ∀ handle manager, w.handles handle = some manager →
    ∃ key raw, w.disk.deviceKey = some key ∧ Copies key raw manager.store ∧
      ∀ file, raw = some file → file ∈ w.written

/-- No two different contents of the file have one digest. -/
def NoCollisions (w : World) : Prop := Set.InjOn Crypto.sha256 {raw | raw ∈ w.written}

section

variable {w w' : World} {key : Bytes 32} {raw : Option (List UInt8)} {manager : IdentityManager}

omit [WebAuthnCrates] [IdentityCrates] in
/-- The digest tells the files apart. -/
theorem NoCollisions.eq (h : NoCollisions w) {raw raw' : Option (List UInt8)}
    (hraw : ∀ file, raw = some file → file ∈ w.written)
    (hraw' : ∀ file, raw' = some file → file ∈ w.written)
    (hdigest : raw.map Crypto.sha256 = raw'.map Crypto.sha256) : raw = raw' := by
  cases raw with
  | none =>
    cases raw' with
    | none => rfl
    | some file' => simp at hdigest
  | some file =>
    cases raw' with
    | none => simp at hdigest
    | some file' =>
      simp only [Option.map_some, Option.some.injEq] at hdigest
      rw [h (hraw file rfl) (hraw' file' rfl) hdigest]

omit [WebAuthnCrates] in
theorem Consistent.written (h : Consistent w) (file : List UInt8)
    (hfile : w.disk.credentials = some file) : file ∈ w.written := (h.files file hfile).1

omit [WebAuthnCrates] in
/-- The data that is saved has distinct credential ids. -/
theorem Consistent.distinctIds (h : Consistent w) {data : IdentityData}
    (hsaved : w.disk.saved = some data) : data.DistinctIds := by
  cases hfile : w.disk.credentials with
  | none => simp [Disk.saved, hfile] at hsaved
  | some file =>
    obtain ⟨-, key, read, hdevice, hread⟩ := h.files file hfile
    rw [Disk.saved_of_file hdevice hfile hread, Option.some.injEq] at hsaved
    exact hsaved ▸ distinctIds_of_readCredentials hread

variable {handle : Nat}

/-- A call on a manager of a consistent world, with what its inversion needs. -/
theorem Consistent.call_spec [LawfulIdentityCrates] (h : Consistent w) (hcollide : NoCollisions w)
    (hmanager : w.handles handle = some manager) (env : Environment) (call : Call) :
    ∃ key, w.disk.deviceKey = some key ∧
      CallSpec key manager w.disk env call (manager.call w.disk env call) := by
  obtain ⟨key, raw, hdevice, hcopies, hraw⟩ := h.handles handle manager hmanager
  exact ⟨key, hdevice, manager.call_spec hcopies hdevice
    (hcollide.eq h.written hraw) env call⟩

variable [LawfulIdentityCrates]

theorem Consistent.after (h : Consistent w) (hcollide : NoCollisions w)
    (hmanager : w.handles handle = some manager) {call : Call} {env : Environment}
    {kept : Option IdentityManager} {reported : List Event}
    (hkept : ∀ m, kept = some m → m = (manager.call w.disk env call).manager) :
    Consistent (w.after handle kept call env (manager.call w.disk env call).disk reported) := by
  obtain ⟨key, raw, hdevice, hcopies, hraw⟩ := h.handles handle manager hmanager
  have hspec := manager.call_spec hcopies hdevice (hcollide.eq h.written hraw) env call
  have hdevice' : (manager.call w.disk env call).disk.deviceKey = some key := by
    obtain hdisk | ⟨after, -, -, hdisk, -⟩ := hspec.files <;> rw [hdisk] <;> exact hdevice
  have hmem : ∀ file, (manager.call w.disk env call).disk.credentials = some file →
      file ∈ (w.after handle kept call env (manager.call w.disk env call).disk reported).written :=
    fun file hfile => List.mem_append_left _ (by simp [hfile])
  constructor
  · intro file hfile
    refine ⟨hmem file hfile, key, ?_⟩
    obtain hdisk | ⟨after, -, hdistinct, hdisk, -⟩ := hspec.files
    · obtain ⟨-, key', data, hdevice'', hread⟩ := h.files file (hdisk ▸ hfile)
      rw [hdevice, Option.some.injEq] at hdevice''
      exact ⟨data, hdevice', hdevice'' ▸ hread⟩
    · have hwritten : file = writeCredentials key env.access.nonce after := by
        have : (manager.call w.disk env call).disk.credentials = some file := hfile
        rw [hdisk, Disk.withCredentials, Option.some.injEq] at this
        exact this.symm
      exact ⟨after, hdevice', hwritten ▸ readCredentials_writeCredentials hdistinct _⟩
  · intro other m hm
    obtain ⟨-, hm⟩ | ⟨-, hm⟩ := update_eq_some hm
    · obtain rfl := hkept m hm
      obtain hstore | hnone | hcopy := hspec.copy
      · exact ⟨key, raw, hdevice', hstore ▸ hcopies, fun file hfile =>
          List.mem_append_right _ (hraw file hfile)⟩
      · exact ⟨key, none, hdevice', hnone, fun file hfile => by cases hfile⟩
      · exact ⟨key, _, hdevice', hcopy, hmem⟩
    · obtain ⟨key', raw', hdevice'', hcopies', hraw'⟩ := h.handles other m hm
      rw [hdevice, Option.some.injEq] at hdevice''
      subst hdevice''
      exact ⟨key, raw', hdevice', hcopies', fun file hfile =>
        List.mem_append_right _ (hraw' file hfile)⟩

omit [WebAuthnCrates] [LawfulIdentityCrates] [Crypto] in
theorem storeNew_cases (disk : Disk) (access : Access) (drawn : Bytes 32) :
    ((IdentityStore.new disk access drawn).2 = disk ∨ disk.deviceKey = none ∧
      disk.credentials = none ∧ (IdentityStore.new disk access drawn).2 =
        { disk with deviceKey := some drawn }) ∧
    ∀ store, (IdentityStore.new disk access drawn).1 = .ok store →
      (IdentityStore.new disk access drawn).2.deviceKey = some store.deviceKey := by
  unfold IdentityStore.new
  split
  · exact ⟨.inl rfl, fun store h => by cases h⟩
  · split
    · rename_i key hkey _
      refine ⟨.inl rfl, fun store h => ?_⟩
      dsimp only at h ⊢
      split at h
      · cases h
        exact hkey
      · cases h
    · rename_i key raw hkey _
      split
      · exact ⟨.inl rfl, fun store h => by cases h⟩
      · split
        · exact ⟨.inl rfl, fun store h => by cases h⟩
        · refine ⟨.inl rfl, fun store h => ?_⟩
          dsimp only at h ⊢
          split at h
          · cases h
            exact hkey
          · cases h
    · exact ⟨.inl rfl, fun store h => by cases h⟩
    · rename_i hkey hcredentials
      cases access.replacement with
      | done =>
        refine ⟨.inr ⟨hkey, hcredentials, rfl⟩, fun store h => ?_⟩
        cases h
        rfl
      | failedBefore =>
        refine ⟨.inl ?_, fun store h => by cases h⟩
        cases disk
        rfl
      | failedAfter => exact ⟨.inr ⟨hkey, hcredentials, rfl⟩, fun store h => by cases h⟩

omit [WebAuthnCrates] [LawfulIdentityCrates] in
theorem load_refreshed {store : IdentityStore} {disk : Disk} {access : Access}
    (h : store.deviceKey = key) :
    (store.load disk access).disk = disk ∧ Refreshed key disk (store.load disk access).store := by
  unfold load
  split
  · exact ⟨rfl, refreshed_cleared h⟩
  · exact ⟨rfl, refreshed_reloadLocked h _⟩

omit [WebAuthnCrates] [LawfulIdentityCrates] in
/-- What opening a manager can do. -/
theorem IdentityManager.new_cases (disk : Disk) (creating loading : Access) (drawn : Bytes 32) :
    ((IdentityManager.new disk creating loading drawn).2 = disk ∨ disk.deviceKey = none ∧
      disk.credentials = none ∧ (IdentityManager.new disk creating loading drawn).2 =
        { disk with deviceKey := some drawn }) ∧
    ∀ manager, (IdentityManager.new disk creating loading drawn).1 = .ok manager →
      manager.challenges = ∅ ∧ manager.allowClone = false ∧
        ∃ key, (IdentityManager.new disk creating loading drawn).2.deviceKey = some key ∧
          Refreshed key (IdentityManager.new disk creating loading drawn).2 manager.store := by
  have hstore := storeNew_cases disk creating drawn
  unfold IdentityManager.new
  cases hnew : IdentityStore.new disk creating drawn with
  | mk result left =>
    rw [hnew] at hstore
    cases result with
    | error e => exact ⟨hstore.1, fun manager h => by cases h⟩
    | ok store =>
      dsimp only
      have hloaded : (store.load left loading).disk = left ∧
          Refreshed store.deviceKey left (store.load left loading).store := load_refreshed rfl
      rw [hloaded.1]
      refine ⟨hstore.1, fun manager h => ?_⟩
      cases hresult : (store.load left loading).result with
      | error e =>
        rw [hresult] at h
        cases h
      | ok u =>
        rw [hresult] at h
        cases h
        exact ⟨rfl, rfl, store.deviceKey, hstore.2 store rfl, hloaded.2⟩

/-- The steps there are. -/
inductive StepCase (w : World) : Label → World → Prop
  | started {handle : Nat} {creating loading : Access} {drawn : Bytes 32}
      (hfree : w.handles handle = none) : StepCase w (.start handle creating loading drawn)
        { w with
          disk := (IdentityManager.new w.disk creating loading drawn).2
          handles := Function.update w.handles handle
            (IdentityManager.new w.disk creating loading drawn).1.toOption }
  | called {handle : Nat} {call : Call} {env : Environment} {manager : IdentityManager}
      (hmanager : w.handles handle = some manager) (hnow : w.time ≤ env.now)
      (hcreated : env.now ≤ env.created) : StepCase w (.call handle call env)
        (w.after handle (some (manager.call w.disk env call).manager) call env
          (manager.call w.disk env call).disk
          (returned handle call env (manager.call w.disk env call)))
  | crashed {handle : Nat} {call : Call} {env : Environment} {manager : IdentityManager}
      (hmanager : w.handles handle = some manager) (hnow : w.time ≤ env.now)
      (hcreated : env.now ≤ env.created) : StepCase w (.crash handle call env)
        (w.after handle none call env (manager.call w.disk env call).disk [])
  | allowed {handle : Nat} {allowClone : Bool} {manager : IdentityManager}
      (hmanager : w.handles handle = some manager) : StepCase w (.setAllowClone handle allowClone)
        { w with
          handles := Function.update w.handles handle (some { manager with allowClone }) }

variable {l : Label}

omit [LawfulIdentityCrates] in
theorem step_cases (h : step w l = some w') : StepCase w l w' := by
  cases l with
  | start handle creating loading drawn =>
    simp only [step] at h
    split at h
    · cases h
    · rename_i hfree
      cases h
      exact .started (by simpa using hfree)
  | call handle call env =>
    simp only [step] at h
    split at h
    · cases h
    · rename_i manager hmanager
      split at h
      · rename_i htime
        cases h
        exact .called hmanager htime.1 htime.2
      · cases h
  | crash handle call env =>
    simp only [step] at h
    split at h
    · cases h
    · rename_i manager hmanager
      split at h
      · rename_i htime
        cases h
        exact .crashed hmanager htime.1 htime.2
      · cases h
  | setAllowClone handle allowClone =>
    simp only [step] at h
    split at h
    · cases h
    · rename_i manager hmanager
      cases h
      exact .allowed hmanager

omit [WebAuthnCrates] [LawfulIdentityCrates] in
theorem Consistent.started (h : Consistent w) {creating loading : Access} {drawn : Bytes 32} :
    Consistent { w with
      disk := (IdentityManager.new w.disk creating loading drawn).2
      handles := Function.update w.handles handle
        (IdentityManager.new w.disk creating loading drawn).1.toOption } := by
  obtain ⟨hdisk, hopened⟩ := IdentityManager.new_cases w.disk creating loading drawn
  have hcredentials : (IdentityManager.new w.disk creating loading drawn).2.credentials =
      w.disk.credentials := by
    obtain hsame | ⟨-, -, hsame⟩ := hdisk <;> rw [hsame]
  have hkeys : ∀ key, w.disk.deviceKey = some key →
      (IdentityManager.new w.disk creating loading drawn).2.deviceKey = some key := by
    intro key hkey
    obtain hsame | ⟨hnone, -, -⟩ := hdisk
    · rw [hsame, hkey]
    · rw [hnone] at hkey
      cases hkey
  constructor
  · intro file hfile
    obtain ⟨hmem, key, data, hkey, hread⟩ := h.files file (hcredentials ▸ hfile)
    exact ⟨hmem, key, data, hkeys key hkey, hread⟩
  · intro other m hm
    obtain ⟨-, hm⟩ | ⟨-, hm⟩ := update_eq_some hm
    · obtain ⟨-, -, key, hkey, hnone | hcopy⟩ := hopened m (ok_of_toOption hm)
      · exact ⟨key, none, hkey, hnone, fun file hfile => by cases hfile⟩
      · exact ⟨key, _, hkey, hcopy, fun file hfile => h.written file (hcredentials ▸ hfile)⟩
    · obtain ⟨key, raw, hkey, hcopies, hraw⟩ := h.handles other m hm
      exact ⟨key, raw, hkeys key hkey, hcopies, hraw⟩

omit [WebAuthnCrates] [LawfulIdentityCrates] in
theorem Consistent.allowed (h : Consistent w) (allowClone : Bool)
    (hmanager : w.handles handle = some manager) : Consistent { w with
      handles := Function.update w.handles handle (some { manager with allowClone }) } := by
  refine ⟨h.files, fun other m hm => ?_⟩
  obtain ⟨-, ⟨⟩⟩ | ⟨-, hm⟩ := update_eq_some hm
  · exact h.handles handle manager hmanager
  · exact h.handles other m hm

theorem Consistent.step (h : Consistent w) (hcollide : NoCollisions w)
    (hstep : Identity.step w l = some w') : Consistent w' := by
  cases step_cases hstep with
  | started hfree => exact h.started
  | called hmanager hnow hcreated =>
    exact h.after hcollide hmanager fun m hm => (Option.some.inj hm).symm
  | crashed hmanager hnow hcreated =>
    exact h.after hcollide hmanager fun m hm => by cases hm
  | allowed hmanager => exact h.allowed _ hmanager

/-- **The saved data after a call.** -/
theorem Consistent.saved_call (h : Consistent w) (hcollide : NoCollisions w)
    (hmanager : w.handles handle = some manager) (env : Environment) (call : Call) :
    (manager.call w.disk env call).disk.saved = w.disk.saved ∨
      ∃ after, Change manager.allowClone w.disk.saved call after ∧ after.DistinctIds ∧
        (manager.call w.disk env call).disk.saved = some after := by
  obtain ⟨key, hdevice, hspec⟩ := h.call_spec hcollide hmanager env call
  obtain hdisk | ⟨after, hchange, hdistinct, hdisk, -⟩ := hspec.files
  · exact .inl (by rw [hdisk])
  · refine .inr ⟨after, hchange, hdistinct, ?_⟩
    rw [hdisk]
    have hdevice' : (w.disk.withCredentials
        (writeCredentials key env.access.nonce after)).deviceKey = some key := hdevice
    exact Disk.saved_of_file hdevice' rfl (readCredentials_writeCredentials hdistinct _)

omit [WebAuthnCrates] [LawfulIdentityCrates] in
/-- Opening a manager leaves the saved data alone. -/
theorem saved_new (disk : Disk) (creating loading : Access) (drawn : Bytes 32) :
    (IdentityManager.new disk creating loading drawn).2.saved = disk.saved := by
  obtain ⟨hsame | ⟨hkey, hcredentials, hsame⟩, -⟩ :=
    IdentityManager.new_cases disk creating loading drawn
  · exact congrArg Disk.saved hsame
  · refine (congrArg Disk.saved hsame).trans ?_
    simp [Disk.saved, hcredentials]

/-- **The saved data after a step.** -/
theorem saved_step (h : Consistent w) (hcollide : NoCollisions w)
    (hstep : Identity.step w l = some w') : w'.disk.saved = w.disk.saved ∨
      ∃ handle manager call after, w.handles handle = some manager ∧
        Change manager.allowClone w.disk.saved call after ∧ w'.disk.saved = some after := by
  cases step_cases hstep with
  | started hfree => exact .inl (saved_new _ _ _ _)
  | called hmanager hnow hcreated =>
    rename_i called call env manager
    obtain hsame | ⟨after, hchange, -, hsaved⟩ := h.saved_call hcollide hmanager env call
    · exact .inl hsame
    · exact .inr ⟨called, manager, call, after, hmanager, hchange, hsaved⟩
  | crashed hmanager hnow hcreated =>
    rename_i crashed call env manager
    obtain hsame | ⟨after, hchange, -, hsaved⟩ := h.saved_call hcollide hmanager env call
    · exact .inl hsame
    · exact .inr ⟨crashed, manager, call, after, hmanager, hchange, hsaved⟩
  | allowed hmanager => exact .inl rfl

omit [LawfulIdentityCrates] in
theorem written_subset (hstep : Identity.step w l = some w') :
    ∀ file ∈ w.written, file ∈ w'.written := by
  cases step_cases hstep with
  | started hfree => exact fun file hfile => hfile
  | called hmanager hnow hcreated => exact fun file hfile => List.mem_append_right _ hfile
  | crashed hmanager hnow hcreated => exact fun file hfile => List.mem_append_right _ hfile
  | allowed hmanager => exact fun file hfile => hfile

omit [LawfulIdentityCrates] in
theorem NoCollisions.of_step (h : NoCollisions w') (hstep : Identity.step w l = some w') :
    NoCollisions w :=
  h.mono fun file hfile => written_subset hstep file hfile

omit [LawfulIdentityCrates] in
theorem NoCollisions.of_run : ∀ {ls : List Label} {u : World}, NoCollisions w →
    Transition.run Identity.step u ls = some w → NoCollisions u
  | [], u, h, hrun => by
    rw [Transition.run_nil, Option.some.injEq] at hrun
    exact hrun ▸ h
  | l :: ls, u, h, hrun => by
    obtain ⟨v, hstep, hrest⟩ := Transition.run_cons_eq_some.mp hrun
    exact (h.of_run hrest).of_step hstep

omit [WebAuthnCrates] [LawfulIdentityCrates] in
theorem consistent_empty : Consistent World.empty := by
  constructor
  · rintro raw ⟨⟩
  · rintro handle manager ⟨⟩

/-- **The invariant rule of runs without collisions**: what holds of a new directory and is kept by
every step of a consistent world holds at the end. -/
theorem run_invariant (Inv : World → Prop) {ls : List Label} {guard : World → Label → Prop}
    (hempty : Inv World.empty)
    (hstep : ∀ s l t, Consistent s → NoCollisions s → Inv s → guard s l →
      Identity.step s l = some t → Inv t)
    (hguarded : Transition.Guarded Identity.step guard World.empty ls)
    (hrun : Transition.run Identity.step World.empty ls = some w) (hcollide : NoCollisions w) :
    Consistent w ∧ Inv w := by
  have hkept : ∀ s l t, (NoCollisions s → Consistent s ∧ Inv s) → guard s l →
      Identity.step s l = some t → NoCollisions t → Consistent t ∧ Inv t := by
    intro s l t hs hg hst ht
    have hcollide := ht.of_step hst
    obtain ⟨hconsistent, hinv⟩ := hs hcollide
    exact ⟨hconsistent.step hcollide hst, hstep s l t hconsistent hcollide hinv hg hst⟩
  exact Transition.run_invariant hkept (fun _ => ⟨consistent_empty, hempty⟩) hguarded hrun hcollide

end

end

/-! ## 3. Sections in which nothing fails -/

def smoothAccess (nonce : UInt8) : Access :=
  ⟨true, true, true, .done, true, true, ⟨List.replicate 12 nonce, rfl⟩⟩

/-- A call at a time, with its access; what it draws is always the same. -/
def callAt (now : Nat) (access : Access) : Environment :=
  ⟨now, now, ⟨List.replicate 32 7, rfl⟩, Bytes.zero 16, access⟩

def startLabel (handle : Nat) : Label :=
  .start handle (smoothAccess 0) (smoothAccess 0) (Bytes.zero 32)

def ownerCandidate : RegistrationCandidate := ⟨⟨"a1", "b1", 1, "home"⟩, "origin", true⟩

end ElastosRuntime.Identity
