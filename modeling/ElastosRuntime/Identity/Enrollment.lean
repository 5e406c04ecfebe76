/-
# Guest enrollment and its history

A history is the generation of removals and the keys a copy had.  The generation only goes up, and
between two saves of one generation nothing has been removed (`Precedes`); so a guest candidate is
saved, or found saved, only when no step since its history was taken has removed a credential, and
all of the history is still there.
-/
import ElastosRuntime.Identity.Counters

namespace ElastosRuntime.Identity

open IdentityStore

/-! ## 1. What has been saved before what -/

/-- What a credential is, whatever its counter. -/
def StoredCredential.key (credential : StoredCredential) : String × String × String :=
  (credential.credentialId, credential.rpId, credential.publicKey)

def IdentityData.keys (data : IdentityData) : List (String × String × String) :=
  data.credentials.map StoredCredential.key

def savedKeys : Option IdentityData → List (String × String × String)
  | none => []
  | some data => data.keys

/-- One content may have come before another: nothing is removed within one generation, up to the
last one. -/
structure IdentityData.Precedes (data later : IdentityData) : Prop where
  generation : data.removalGeneration ≤ later.removalGeneration
  keys : data.removalGeneration = later.removalGeneration → later.removalGeneration < U64_MAX →
    data.keys ⊆ later.keys

/-- A copy, or no copy, of something that may have come before what is saved. -/
def Precedes (copy saved : Option IdentityData) : Prop :=
  ∀ data, copy = some data → ∃ later, saved = some later ∧ data.Precedes later

theorem IdentityData.Precedes.refl (data : IdentityData) : data.Precedes data :=
  ⟨Nat.le_refl _, fun _ _ => List.Subset.refl _⟩

theorem IdentityData.Precedes.trans {a b c : IdentityData} (h : a.Precedes b) (h' : b.Precedes c) :
    a.Precedes c := by
  refine ⟨h.generation.trans h'.generation, fun heq hlt => ?_⟩
  have hb := h.generation
  have hb' := h'.generation
  exact List.Subset.trans (h.keys (by omega) (by omega)) (h'.keys (by omega) hlt)

theorem Precedes.refl (saved : Option IdentityData) : Precedes saved saved :=
  fun data hdata => ⟨data, hdata, .refl data⟩

theorem precedes_none (saved : Option IdentityData) : Precedes none saved := by
  rintro data ⟨⟩

theorem Precedes.trans {a b c : Option IdentityData} (h : Precedes a b) (h' : Precedes b c) :
    Precedes a c := by
  intro data hdata
  obtain ⟨later, hlater, hprecedes⟩ := h data hdata
  obtain ⟨last, hlast, hprecedes'⟩ := h' later hlater
  exact ⟨last, hlast, hprecedes.trans hprecedes'⟩

/-! ## 2. Changes -/

theorem keys_updateSignCount (data : IdentityData) (credentialId : String) (n : Nat) :
    (data.updateSignCount credentialId n).keys = data.keys := by
  rw [IdentityData.keys, IdentityData.updateSignCount, List.map_map, IdentityData.keys]
  refine List.map_congr_left fun credential _ => ?_
  dsimp only [Function.comp_apply]
  split <;> rfl

theorem generation_removeCredential {data : IdentityData} {stored : StoredCredential}
    (hmem : stored ∈ data.credentials) :
    (data.removeCredential stored.credentialId).removalGeneration =
      min (data.removalGeneration + 1) U64_MAX := by
  have hlt := length_removeCredential_lt hmem rfl
  exact if_pos (Nat.ne_of_lt hlt)

/-- What is removed is not there afterwards. -/
theorem key_notMem_removeCredential (data : IdentityData) (stored : StoredCredential) :
    stored.key ∉ (data.removeCredential stored.credentialId).keys := by
  intro hmem
  obtain ⟨kept, hkept, hkey⟩ := List.mem_map.mp hmem
  have hne := (List.mem_filter.mp hkept).2
  rw [StoredCredential.key, StoredCredential.key, Prod.mk.injEq] at hkey
  exact absurd hkey.1 (by simpa using hne)

/-- The generation is within the range of its counter. -/
def Bounded (saved : Option IdentityData) : Prop :=
  ∀ data, saved = some data → data.removalGeneration ≤ U64_MAX

section

variable [Crypto] {allowClone : Bool} {before : Option IdentityData} {call : Call}
  {after : IdentityData}

theorem bounded_of_change (h : Bounded before) (hchange : Change allowClone before call after) :
    Bounded (some after) := by
  rintro data hdata
  obtain rfl := Option.some.inj hdata
  cases hchange with
  | enrolled hparty hafter =>
    subst hafter
    cases before with
    | none => exact Nat.zero_le _
    | some data => exact h data rfl
  | counted hbefore hmem hcount hafter =>
    rename_i data stored signCount
    subst hafter
    exact h data hbefore
  | removed hbefore hmem hafter =>
    subst hafter
    rw [generation_removeCredential hmem]
    exact Nat.min_le_right _ _

/-- **What is saved precedes what a change saves.** -/
theorem precedes_of_change (h : Bounded before) (hchange : Change allowClone before call after) :
    Precedes before (some after) := by
  intro data hdata
  refine ⟨after, rfl, ?_⟩
  cases hchange with
  | enrolled hparty hafter =>
    subst hdata
    subst hafter
    refine ⟨Nat.le_refl _, fun _ _ => ?_⟩
    rw [IdentityData.keys, IdentityData.keys, enroll, List.map_append]
    exact List.subset_append_left _ _
  | counted hbefore hmem hcount hafter =>
    obtain rfl := Option.some.inj (hdata.symm.trans hbefore)
    subst hafter
    refine ⟨Nat.le_refl _, fun _ _ => ?_⟩
    rw [keys_updateSignCount]
    exact List.Subset.refl _
  | removed hbefore hmem hafter =>
    obtain rfl := Option.some.inj (hdata.symm.trans hbefore)
    subst hafter
    have hbound := h data hdata
    have hgeneration := generation_removeCredential hmem
    refine ⟨?_, fun hsame hlimit => ?_⟩
    · omega
    · omega

/-- A change that removes no credential stays in the generation. -/
theorem generation_of_change (hchange : Change allowClone before call after)
    (hkeeps : savedKeys before ⊆ after.keys) {data : IdentityData} (hdata : before = some data) :
    after.removalGeneration = data.removalGeneration := by
  subst hdata
  cases hchange with
  | enrolled hparty hafter => rw [hafter, enroll]
  | counted hbefore hmem hcount hafter =>
    obtain rfl := Option.some.inj hbefore
    rw [hafter, IdentityData.updateSignCount]
  | removed hbefore hmem hafter =>
    obtain rfl := Option.some.inj hbefore
    subst hafter
    exact absurd (hkeeps (List.mem_map_of_mem hmem)) (key_notMem_removeCredential _ _)

end

/-! ## 3. Steps -/

section

variable [WebAuthnCrates] [Crypto] [IdentityCrates]

/-- The step removes no credential that is saved. -/
def KeepsCredentials (w : World) (l : Label) : Prop :=
  ∀ w', step w l = some w' → savedKeys w.disk.saved ⊆ savedKeys w'.disk.saved

variable [LawfulIdentityCrates] {u w w' : World} {l : Label}

omit [WebAuthnCrates] [LawfulIdentityCrates] [Crypto] in
/-- Every copy is of something that came before what is saved. -/
structure Ordered (w : World) : Prop where
  bounded : Bounded w.disk.saved
  copies : ∀ handle manager, w.handles handle = some manager →
    Precedes manager.store.data w.disk.saved

theorem precedes_step (hconsistent : Consistent w) (hcollide : NoCollisions w)
    (h : Bounded w.disk.saved) (hstep : step w l = some w') :
    Precedes w.disk.saved w'.disk.saved ∧ Bounded w'.disk.saved := by
  obtain hsame | ⟨handle, manager, call, after, -, hchange, hsaved⟩ :=
    saved_step hconsistent hcollide hstep
  · rw [hsame]
    exact ⟨.refl _, h⟩
  · rw [hsaved]
    exact ⟨precedes_of_change h hchange, bounded_of_change h hchange⟩

omit [WebAuthnCrates] [LawfulIdentityCrates] in
theorem precedes_of_refreshed {key : Bytes 32} {disk : Disk} {store : IdentityStore}
    (hdevice : disk.deviceKey = some key) (h : Refreshed key disk store) :
    Precedes store.data disk.saved := by
  obtain hnone | hsame := data_of_refreshed hdevice h
  · rw [hnone]
    exact precedes_none _
  · rw [hsame]
    exact .refl _

theorem ordered_step (hconsistent : Consistent w) (hcollide : NoCollisions w) (h : Ordered w)
    (hstep : step w l = some w') : Ordered w' := by
  obtain ⟨hprecedes, hbounded⟩ := precedes_step hconsistent hcollide h.bounded hstep
  refine ⟨hbounded, ?_⟩
  have hothers : ∀ other m, w.handles other = some m → Precedes m.store.data w'.disk.saved :=
    fun other m hm => (h.copies other m hm).trans hprecedes
  intro other m hm
  cases step_cases hstep with
  | started hfree =>
    obtain ⟨-, hm⟩ | ⟨-, hm⟩ := update_eq_some hm
    · obtain ⟨-, hopened⟩ := IdentityManager.new_cases ..
      obtain ⟨-, -, key, hdevice, hrefreshed⟩ := hopened m (ok_of_toOption hm)
      exact precedes_of_refreshed hdevice hrefreshed
    · exact hothers other m hm
  | called hmanager hnow hcreated =>
    rename_i called call env manager
    obtain ⟨key, hdevice, hspec⟩ := hconsistent.call_spec hcollide hmanager env call
    have hdevice' : (manager.call w.disk env call).disk.deviceKey = some key := by
      obtain hdisk | ⟨after, -, -, hdisk, -⟩ := hspec.files <;> rw [hdisk] <;> exact hdevice
    obtain ⟨-, ⟨⟩⟩ | ⟨-, hm⟩ := update_eq_some hm
    · obtain hstore | hrefreshed := hspec.copy
      · rw [hstore]
        exact hothers called manager hmanager
      · exact precedes_of_refreshed hdevice' hrefreshed
    · exact hothers other m hm
  | crashed hmanager hnow hcreated =>
    obtain ⟨-, ⟨⟩⟩ | ⟨-, hm⟩ := update_eq_some hm
    exact hothers other m hm
  | allowed hmanager =>
    obtain ⟨-, ⟨⟩⟩ | ⟨-, hm⟩ := update_eq_some hm
    · exact (h.copies _ _ hmanager).trans hprecedes
    · exact hothers other m hm

omit [WebAuthnCrates] [LawfulIdentityCrates] [Crypto] in
theorem ordered_empty : Ordered World.empty := by
  constructor
  · rintro data ⟨⟩
  · rintro handle manager ⟨⟩

/-! ## 4. Runs -/

theorem precedes_run : ∀ {ls : List Label} {u w : World}, Consistent u → Bounded u.disk.saved →
    NoCollisions w → Transition.run step u ls = some w → Precedes u.disk.saved w.disk.saved
  | [], u, w, _, _, _, hrun => by
    rw [Transition.run_nil, Option.some.injEq] at hrun
    subst hrun
    exact .refl _
  | l :: ls, u, w, hconsistent, hbounded, hcollide, hrun => by
    obtain ⟨v, hstep, hrest⟩ := Transition.run_cons_eq_some.mp hrun
    have hcollide' := (hcollide.of_run hrest).of_step hstep
    obtain ⟨hprecedes, hbounded'⟩ := precedes_step hconsistent hcollide' hbounded hstep
    exact hprecedes.trans
      (precedes_run (hconsistent.step hcollide' hstep) hbounded' hcollide hrest)

/-- **In a run that ends in the generation it began in, no step removes a credential.** -/
theorem keeps_of_generation : ∀ {ls : List Label} {u w : World} {data later : IdentityData},
    Consistent u → Bounded u.disk.saved → NoCollisions w →
      Transition.run step u ls = some w → u.disk.saved = some data → w.disk.saved = some later →
      data.removalGeneration = later.removalGeneration → later.removalGeneration < U64_MAX →
      Transition.Guarded step KeepsCredentials u ls
  | [], u, w, data, later, _, _, _, _, _, _, _, _ => trivial
  | l :: ls, u, w, data, later, hconsistent, hbounded, hcollide, hrun, hdata, hlater, hsame,
      hlimit => by
    obtain ⟨v, hstep, hrest⟩ := Transition.run_cons_eq_some.mp hrun
    have hcollide' := (hcollide.of_run hrest).of_step hstep
    have hconsistent' := hconsistent.step hcollide' hstep
    obtain ⟨hprecedes, hbounded'⟩ := precedes_step hconsistent hcollide' hbounded hstep
    obtain ⟨between, hbetween, hfirst⟩ := hprecedes data hdata
    obtain ⟨last, hlast, hsecond⟩ :=
      precedes_run hconsistent' hbounded' hcollide hrest between hbetween
    obtain rfl := Option.some.inj (hlast.symm.trans hlater)
    have hle := hfirst.generation
    have hle' := hsecond.generation
    refine .cons hstep (fun t ht => ?_)
      (keeps_of_generation hconsistent' hbounded' hcollide hrest hbetween hlater (by omega) hlimit)
    obtain rfl := Option.some.inj (hstep.symm.trans ht)
    rw [hdata, hbetween]
    exact hfirst.keys (by omega) (by omega)

/-- **A run whose steps remove no credential stays in the generation it began in.** -/
theorem generation_of_keeps : ∀ {ls : List Label} {u w : World} {data : IdentityData},
    Consistent u → NoCollisions w → Transition.run step u ls = some w →
      Transition.Guarded step KeepsCredentials u ls → u.disk.saved = some data →
      ∃ later, w.disk.saved = some later ∧ later.removalGeneration = data.removalGeneration ∧
        data.keys ⊆ later.keys
  | [], u, w, data, _, _, hrun, _, hdata => by
    rw [Transition.run_nil, Option.some.injEq] at hrun
    subst hrun
    exact ⟨data, hdata, rfl, List.Subset.refl _⟩
  | l :: ls, u, w, data, hconsistent, hcollide, hrun, hguarded, hdata => by
    obtain ⟨v, hstep, hrest⟩ := Transition.run_cons_eq_some.mp hrun
    have hcollide' := (hcollide.of_run hrest).of_step hstep
    obtain ⟨hkeeps, hguarded'⟩ := hguarded.tail hstep
    have hkept := hkeeps v hstep
    rw [hdata] at hkept
    obtain ⟨between, hbetween, hgeneration⟩ : ∃ between, v.disk.saved = some between ∧
        between.removalGeneration = data.removalGeneration := by
      obtain hsame | ⟨handle, manager, call, after, -, hchange, hsaved⟩ :=
        saved_step hconsistent hcollide' hstep
      · exact ⟨data, hsame.trans hdata, rfl⟩
      · rw [hsaved] at hkept
        exact ⟨after, hsaved, generation_of_change (hdata ▸ hchange) hkept rfl⟩
    obtain ⟨later, hlater, hgeneration', hsubset⟩ := generation_of_keeps
      (hconsistent.step hcollide' hstep) hcollide hrest hguarded' hbetween
    rw [hbetween] at hkept
    exact ⟨later, hlater, hgeneration'.trans hgeneration, List.Subset.trans hkept hsubset⟩

end

/-! ## 5. Candidates -/

/-- Nothing that enrolling a saved credential again needs fails. -/
def Access.Unhindered (access : Access) : Prop :=
  access.opens = true ∧ access.readsKey = true ∧ access.reads = true ∧ access.syncs = true

section

variable [Crypto] [IdentityCrates] {key : Bytes 32} {disk : Disk} {access : Access}
  {store : IdentityStore} {data : IdentityData} {candidate existing : StoredCredential}
  {history : GuestCredentialHistory}

/-- The digests of a history are those of keys. -/
theorem digests_subset {later : IdentityData} (h : data.keys ⊆ later.keys) :
    data.credentials.map credentialKeyDigest ⊆ later.credentials.map credentialKeyDigest := by
  have hdigest : ∀ d : IdentityData, d.credentials.map credentialKeyDigest =
      d.keys.map fun key => Crypto.sha256 (IdentityCrates.keyToVec key) := by
    intro d
    rw [IdentityData.keys, List.map_map]
    rfl
  rw [hdigest, hdigest]
  exact List.map_subset _ h

/-- **A candidate that is saved is found saved.** -/
theorem persistGuestCandidate_present {file : List UInt8} (hkey : store.deviceKey = key)
    (hdevice : disk.deviceKey = some key) (hfile : disk.credentials = some file)
    (hread : readCredentials key file = .ok data) (haccess : access.Unhindered)
    (hextends : Extends data history) (hmem : existing ∈ data.credentials)
    (hsame : existing.Reconciles candidate) :
    (store.persistGuestCandidate disk access candidate history).result = .ok existing ∧
      (store.persistGuestCandidate disk access candidate history).disk = disk := by
  obtain ⟨hopens, hreadsKey, hreads, hsyncs⟩ := haccess
  obtain ⟨hlength, hlimit, hgeneration, hkeys⟩ := hextends
  obtain ⟨hid, hpublicKey, hrpId, hcount⟩ := hsame
  have hfiles : store.files disk access = .ok () := by
    simp [files, hopens, hreadsKey, hdevice, hkey]
  have hloaded : store.reloadLocked disk access.reads =
      (.ok (), ⟨store.deviceKey, some data, some (Crypto.sha256 file)⟩) := by
    simp [reloadLocked, hreads, hfile, hkey, hread]
  have hhistory : guestCredentialHistory ⟨store.deviceKey, some data, some (Crypto.sha256 file)⟩ =
      .ok ⟨data.removalGeneration, data.credentials.map credentialKeyDigest⟩ :=
    (guestCredentialHistory_eq_ok rfl).mpr ⟨hlength, hlimit, rfl⟩
  have hfind : (getCredentials ⟨store.deviceKey, some data, some (Crypto.sha256 file)⟩).find?
      (fun item => item.credentialId = candidate.credentialId) = some existing := by
    rw [← hid]
    exact find?_stored (distinctIds_of_readCredentials hread) hmem
  have hkept : ¬(data.removalGeneration ≠ history.removalGeneration ∨
      ¬history.keys ⊆ data.credentials.map credentialKeyDigest) := by
    rintro (hne | hnot)
    · exact hne hgeneration
    · exact hnot hkeys
  have hagrees : ¬(existing.publicKey ≠ candidate.publicKey ∨ existing.rpId ≠ candidate.rpId ∨
      existing.signCount < candidate.signCount) := by
    rintro (hne | hne | hlt)
    · exact hne hpublicKey
    · exact hne hrpId
    · exact absurd hlt (Nat.not_lt.mpr hcount)
  unfold persistGuestCandidate
  rw [hfiles]
  dsimp only
  rw [hloaded]
  dsimp only
  rw [hhistory]
  dsimp only
  rw [if_neg hkept, hfind]
  dsimp only
  rw [if_neg hagrees, hsyncs]
  exact ⟨rfl, rfl⟩

end

section

variable [WebAuthnCrates] [Crypto] [IdentityCrates] [LawfulIdentityCrates] {w : World}
  {handle : Nat} {manager : IdentityManager} {env : Environment}
  {candidate : RegistrationCandidate} {history : GuestCredentialHistory}

omit [WebAuthnCrates] in
/-- **What a guest candidate that is saved, or found saved, says of the saved data.** -/
theorem guest_extends (hconsistent : Consistent w) (hmanager : w.handles handle = some manager)
    (h : (∃ stored, (manager.persistGuestCandidate w.disk env candidate history).result =
        .ok stored) ∨
      (manager.persistGuestCandidate w.disk env candidate history).disk.saved ≠ w.disk.saved) :
    ∃ data, w.disk.saved = some data ∧ Extends data history ∧ ∀ stored,
      (manager.persistGuestCandidate w.disk env candidate history).result = .ok stored →
        ∃ after, (manager.persistGuestCandidate w.disk env candidate history).disk.saved =
            some after ∧ after.removalGeneration = data.removalGeneration ∧
          data.keys ⊆ after.keys ∧ stored ∈ after.credentials ∧
            stored.Reconciles candidate.credential := by
  obtain ⟨key, raw, hdevice, hcopies, -⟩ := hconsistent.handles handle manager hmanager
  have hcases : GuestCandidate key env.access w.disk manager.store candidate.credential history
    (manager.store.persistGuestCandidate w.disk env.access candidate.credential history) :=
      persistGuestCandidate_cases hcopies.1
  have herror : ∀ e, (manager.store.persistGuestCandidate w.disk env.access candidate.credential
      history).result = .error e → (manager.store.persistGuestCandidate w.disk env.access
        candidate.credential history).disk = w.disk → False := by
    intro e he hdisk
    obtain ⟨stored, hstored⟩ | hchanged := h
    · have hstored' : (manager.store.persistGuestCandidate w.disk env.access candidate.credential
        history).result = .ok stored := hstored
      rw [he] at hstored'
      cases hstored'
    · exact hchanged (congrArg Disk.saved hdisk)
  cases hcases with
  | closed hclosed => exact (herror _ (congrArg Outcome.result hclosed)
      (congrArg Outcome.disk hclosed)).elim
  | refused hrefused =>
    obtain ⟨⟨e, he⟩, hdisk, -⟩ := hrefused
    exact (herror e he hdisk).elim
  | present hfile hread hextends hmem hsame hresult hdisk hstore =>
    rename_i file data existing
    have hsaved := Disk.saved_of_file hdevice hfile hread
    refine ⟨data, hsaved, hextends, fun stored hstored => ?_⟩
    obtain rfl : existing = stored := Except.ok.inj (hresult.symm.trans hstored)
    exact ⟨data, (congrArg Disk.saved hdisk).trans hsaved, rfl, List.Subset.refl _, hmem, hsame⟩
  | added hfile hread hextends hattempt =>
    rename_i file data
    refine ⟨data, Disk.saved_of_file hdevice hfile hread, hextends, fun stored hstored => ?_⟩
    cases hattempt with
    | refused hrefused =>
      obtain ⟨⟨e, he⟩, hdisk, -⟩ := hrefused
      exact (herror e he hdisk).elim
    | done hdistinct hresult hdisk hstore =>
      obtain rfl : candidate.credential = stored := Except.ok.inj (hresult.symm.trans hstored)
      have hdevice' : (w.disk.withCredentials (writeCredentials key env.access.nonce
          { data with credentials := data.credentials ++ [candidate.credential] })).deviceKey =
            some key := hdevice
      refine ⟨_, (congrArg Disk.saved hdisk).trans (Disk.saved_of_file hdevice' rfl
        (readCredentials_writeCredentials hdistinct _)), rfl, ?_, by simp, rfl, rfl, rfl,
          Nat.le_refl _⟩
      rw [IdentityData.keys, IdentityData.keys, List.map_append]
      exact List.subset_append_left _ _
    | indeterminate hdistinct hafter hresult hdisk hstore =>
      have hresult' : _ = Except.ok stored := hresult.symm.trans hstored
      cases hresult'

theorem ordered_run {ls : List Label} (hrun : Transition.run step World.empty ls = some w)
    (hcollide : NoCollisions w) : Consistent w ∧ Ordered w :=
  run_invariant Ordered ordered_empty (fun _ _ _ hs hc ho _ hst => ordered_step hs hc ho hst)
    (Transition.guarded_true ls World.empty) hrun hcollide

/-- **A guest candidate is saved only after all of its history**: since the history was taken no
step has removed a credential, whatever became of the call; and when it succeeds the candidate is
saved, with no lower a counter, and with it all that was saved, or in the copy, back then. -/
theorem guest_follows_history {past rest : List Label} {u : World} {taker : Nat}
    {taken : IdentityManager} (hrun : Transition.run step World.empty (past ++ rest) = some w)
    (hcollide : NoCollisions w) (hpast : Transition.run step World.empty past = some u)
    (htaker : u.handles taker = some taken) (hhistory : taken.guestCredentialHistory = .ok history)
    (hmanager : w.handles handle = some manager)
    (h : (∃ stored, (manager.persistGuestCandidate w.disk env candidate history).result =
        .ok stored) ∨
      (manager.persistGuestCandidate w.disk env candidate history).disk.saved ≠ w.disk.saved) :
    Transition.Guarded step KeepsCredentials u rest ∧ ∀ stored,
      (manager.persistGuestCandidate w.disk env candidate history).result = .ok stored →
        ∃ after, (manager.persistGuestCandidate w.disk env candidate history).disk.saved =
            some after ∧ stored ∈ after.credentials ∧ stored.Reconciles candidate.credential ∧
          savedKeys taken.store.data ⊆ after.keys ∧ savedKeys u.disk.saved ⊆ after.keys := by
  obtain ⟨u', hu', hrest⟩ := Transition.run_append_eq_some.mp hrun
  obtain rfl := Option.some.inj (hpast.symm.trans hu')
  obtain ⟨hconsistent, hordered⟩ := ordered_run hpast (hcollide.of_run hrest)
  obtain ⟨data, hdata⟩ : ∃ data, taken.store.data = some data := by
    cases hdata : taken.store.data with
    | none => simp [IdentityManager.guestCredentialHistory, guestCredentialHistory, hdata] at hhistory
    | some data => exact ⟨data, rfl⟩
  obtain ⟨-, hlimit, rfl⟩ := (guestCredentialHistory_eq_ok hdata).mp hhistory
  obtain ⟨later, hlater, ⟨-, -, hsame, -⟩, hdone⟩ :=
    guest_extends (ordered_run hrun hcollide).1 hmanager h
  dsimp only at hsame
  -- the copy, what was saved then and what is saved now are of one generation
  obtain ⟨between, hbetween, hfirst⟩ := hordered.copies taker taken htaker data hdata
  obtain ⟨last, hlast, hsecond⟩ :=
    precedes_run hconsistent hordered.bounded hcollide hrest between hbetween
  obtain rfl := Option.some.inj (hlast.symm.trans hlater)
  have hle := hfirst.generation
  have hle' := hsecond.generation
  have hbounded := hordered.bounded between hbetween
  have hbelow : last.removalGeneration < U64_MAX := by omega
  refine ⟨keeps_of_generation hconsistent hordered.bounded hcollide hrest hbetween hlast (by omega)
    hbelow, fun stored hstored => ?_⟩
  obtain ⟨after, hafter, -, hsubset, hmem, hreconciles⟩ := hdone stored hstored
  have hkeys : between.keys ⊆ after.keys :=
    List.Subset.trans (hsecond.keys (by omega) hbelow) hsubset
  refine ⟨after, hafter, hmem, hreconciles, ?_, ?_⟩
  · rw [hdata]
    exact List.Subset.trans (hfirst.keys (by omega) (by omega)) hkeys
  · rw [hbetween]
    exact hkeys

/-- **A guest candidate that has been saved is found saved**, as long as no step removes a
credential, the store is within its limit, its counter has not been lowered and no file access
fails. -/
theorem guest_found_again {past rest : List Label} {u v : World} {first : Nat}
    {enrolling : IdentityManager} {firstEnv : Environment} {stored : StoredCredential}
    (hrun : Transition.run step World.empty
      (past ++ .call first (.persistGuestCandidate candidate history) firstEnv :: rest) = some w)
    (hcollide : NoCollisions w) (hpast : Transition.run step World.empty past = some u)
    (hfirst : u.handles first = some enrolling)
    (hstored : (enrolling.persistGuestCandidate u.disk firstEnv candidate history).result =
      .ok stored)
    (hstep : step u (.call first (.persistGuestCandidate candidate history) firstEnv) = some v)
    (hkeeps : Transition.Guarded step KeepsCredentials v rest)
    (hwithin : ∀ data, w.disk.saved = some data → data.credentials.length ≤ 1024 ∧
      ∀ existing ∈ data.credentials, existing.key = stored.key →
        candidate.credential.signCount ≤ existing.signCount)
    (hmanager : w.handles handle = some manager) (haccess : env.access.Unhindered) :
    ∃ again, (manager.persistGuestCandidate w.disk env candidate history).result = .ok again ∧
      again.key = stored.key ∧
        (manager.persistGuestCandidate w.disk env candidate history).disk = w.disk := by
  obtain ⟨u', hu', hcalled⟩ := Transition.run_append_eq_some.mp hrun
  obtain rfl := Option.some.inj (hpast.symm.trans hu')
  obtain ⟨v', hv', hrest⟩ := Transition.run_cons_eq_some.mp hcalled
  obtain rfl := Option.some.inj (hstep.symm.trans hv')
  have hcollide' := hcollide.of_run hrest
  have hconsistent := (ordered_run hpast (hcollide'.of_step hstep)).1
  obtain ⟨data, hdata, ⟨-, hlimit, hgeneration, hdigests⟩, hdone⟩ :=
    guest_extends hconsistent hfirst (.inl ⟨stored, hstored⟩)
  obtain ⟨after, hafter, hgeneration', hkeys, hmem, hreconciles⟩ := hdone stored hstored
  have hv : v.disk.saved = some after := by
    cases step_cases hstep with
    | called hcaller hnow hcreated =>
      obtain rfl := Option.some.inj (hfirst.symm.trans hcaller)
      exact hafter
  obtain ⟨later, hlater, hgeneration'', hkeys'⟩ :=
    generation_of_keeps (hconsistent.step (hcollide'.of_step hstep) hstep) hcollide hrest hkeeps hv
  obtain ⟨hlength, hcount⟩ := hwithin later hlater
  obtain ⟨existing, hexisting, hkey⟩ := List.mem_map.mp (hkeys' (List.mem_map_of_mem hmem))
  obtain ⟨hid, hpublicKey, hrpId, -⟩ := hreconciles
  have hsame := hkey
  simp only [StoredCredential.key, Prod.mk.injEq] at hsame
  have hextends : Extends later history := by
    refine ⟨hlength, ?_, ?_, fun digest hdigest => ?_⟩
    · rwa [hgeneration'', hgeneration']
    · rw [hgeneration'', hgeneration', hgeneration]
    · exact digests_subset (List.Subset.trans hkeys hkeys') (hdigests digest hdigest)
  have hconsistent' := (ordered_run hrun hcollide).1
  obtain ⟨deviceKey, raw, hdevice, hcopies, -⟩ := hconsistent'.handles handle manager hmanager
  obtain ⟨file, hfile⟩ : ∃ file, w.disk.credentials = some file := by
    cases hfile : w.disk.credentials with
    | none => simp [Disk.saved, hfile] at hlater
    | some file => exact ⟨file, rfl⟩
  obtain ⟨-, key', data', hdevice', hread⟩ := hconsistent'.files file hfile
  obtain rfl := Option.some.inj (hdevice.symm.trans hdevice')
  obtain rfl := Option.some.inj
    ((Disk.saved_of_file hdevice hfile hread).symm.trans hlater)
  obtain ⟨hresult, hdisk⟩ := persistGuestCandidate_present hcopies.1 hdevice hfile hread haccess
    hextends hexisting ⟨hsame.1.trans hid, hsame.2.2.trans hpublicKey, hsame.2.1.trans hrpId,
      hcount existing hexisting hkey⟩
  exact ⟨existing, hresult, hkey, hdisk⟩

omit [WebAuthnCrates] in
/-- **A first owner is saved over nothing, or found saved alone.** -/
theorem first_owner_alone {userId : String} (hconsistent : Consistent w)
    (hmanager : w.handles handle = some manager)
    (h : (manager.persistEnrollmentCandidate w.disk env candidate).result = .ok userId) :
    w.disk.credentials = none ∨ ∃ data existing, w.disk.saved = some data ∧
      data.credentials = [existing] ∧ existing.Reconciles candidate.credential := by
  obtain ⟨key, raw, hdevice, hcopies, -⟩ := hconsistent.handles handle manager hmanager
  have hcases : FirstOwner key env.access w.disk manager.store candidate.credential
    (manager.store.persistFirstOwner w.disk env.access candidate.credential) :=
      persistFirstOwner_cases hcopies.1
  have h' : (manager.store.persistFirstOwner w.disk env.access candidate.credential).result =
    .ok userId := h
  cases hcases with
  | closed hclosed =>
    rw [hclosed] at h'
    cases h'
  | refused hrefused =>
    obtain ⟨⟨e, he⟩, -, -⟩ := hrefused
    rw [he] at h'
    cases h'
  | present hfile hread hone hsame hresult hdisk hstore =>
    exact .inr ⟨_, _, Disk.saved_of_file hdevice hfile hread, hone, hsame⟩
  | added hempty hattempt => exact .inl hempty

/-- **Enrollment keeps its history**: of every run, whatever manager is asked next. -/
theorem enrollment_keeps_history {ls : List Label}
    (hrun : Transition.run step World.empty ls = some w) (hcollide : NoCollisions w)
    (hmanager : w.handles handle = some manager) (env : Environment)
    (candidate : RegistrationCandidate) (history : GuestCredentialHistory) :
    (∀ past rest u taker taken, ls = past ++ rest → Transition.run step World.empty past = some u →
      u.handles taker = some taken → taken.guestCredentialHistory = .ok history →
      ((∃ stored, (manager.persistGuestCandidate w.disk env candidate history).result =
          .ok stored) ∨
        (manager.persistGuestCandidate w.disk env candidate history).disk.saved ≠ w.disk.saved) →
      Transition.Guarded step KeepsCredentials u rest ∧ ∀ stored,
        (manager.persistGuestCandidate w.disk env candidate history).result = .ok stored →
          ∃ after, (manager.persistGuestCandidate w.disk env candidate history).disk.saved =
              some after ∧ stored ∈ after.credentials ∧ stored.Reconciles candidate.credential ∧
            savedKeys taken.store.data ⊆ after.keys ∧ savedKeys u.disk.saved ⊆ after.keys) ∧
    (∀ past rest u v first enrolling firstEnv stored,
      ls = past ++ .call first (.persistGuestCandidate candidate history) firstEnv :: rest →
      Transition.run step World.empty past = some u → u.handles first = some enrolling →
      (enrolling.persistGuestCandidate u.disk firstEnv candidate history).result = .ok stored →
      step u (.call first (.persistGuestCandidate candidate history) firstEnv) = some v →
      Transition.Guarded step KeepsCredentials v rest →
      (∀ data, w.disk.saved = some data → data.credentials.length ≤ 1024 ∧
        ∀ existing ∈ data.credentials, existing.key = stored.key →
          candidate.credential.signCount ≤ existing.signCount) → env.access.Unhindered →
      ∃ again, (manager.persistGuestCandidate w.disk env candidate history).result = .ok again ∧
        again.key = stored.key ∧
          (manager.persistGuestCandidate w.disk env candidate history).disk = w.disk) ∧
    ∀ userId, (manager.persistEnrollmentCandidate w.disk env candidate).result = .ok userId →
      w.disk.credentials = none ∨ ∃ data existing, w.disk.saved = some data ∧
        data.credentials = [existing] ∧ existing.Reconciles candidate.credential := by
  refine ⟨?_, ?_, ?_⟩
  · rintro past rest u taker taken rfl hpast htaker hhistory h
    exact guest_follows_history hrun hcollide hpast htaker hhistory hmanager h
  · rintro past rest u v first enrolling firstEnv stored rfl hpast hfirst hstored hstep hkeeps
      hwithin haccess
    exact guest_found_again hrun hcollide hpast hfirst hstored hstep hkeeps hwithin hmanager haccess
  · intro userId h
    exact first_owner_alone (ordered_run hrun hcollide).1 hmanager h

end

/-! ## 6. Runs on fixed inputs -/

section

attribute [local instance] headEchoCrypto plainIdentityCrates plainIdentityCrates_lawful
  plainWebAuthnCrates

def guestCandidate (credentialId : String) : RegistrationCandidate :=
  ⟨⟨credentialId, "k", 1, "home"⟩, "origin", true⟩

/-- The history of a store with nothing but its owner. -/
def ownerHistory : GuestCredentialHistory := ⟨0, [credentialKeyDigest ownerCandidate.credential]⟩

/-- An owner and two guests are enrolled, and the second is revoked. -/
def guestLabels : List Label :=
  [startLabel 0,
    .call 0 (.persistEnrollmentCandidate ownerCandidate) (callAt 1 (smoothAccess 1)),
    .call 0 (.persistGuestCandidate (guestCandidate "b1") ownerHistory)
      (callAt 2 (smoothAccess 2)),
    .call 0 (.persistGuestCandidate (guestCandidate "c1") ownerHistory)
      (callAt 3 (smoothAccess 3)),
    .call 0 (.revokeCredential "c1") (callAt 4 (smoothAccess 4))]

/-- Where a run ends. -/
def worldOf (ls : List Label) : World := (Transition.run step World.empty ls).getD World.empty

theorem run_worldOf {ls : List Label} (h : (Transition.run step World.empty ls).isSome = true) :
    Transition.run step World.empty ls = some (worldOf ls) := by
  obtain ⟨w, hw⟩ := Option.isSome_iff_exists.mp h
  rw [worldOf, hw, Option.getD_some]

theorem step_worldOf {ls : List Label} {l : Label}
    (h : (Transition.run step World.empty (ls ++ [l])).isSome = true) :
    step (worldOf ls) l = some (worldOf (ls ++ [l])) := by
  obtain ⟨u, hu, hl⟩ := Transition.run_snoc_eq_some.mp (run_worldOf h)
  rwa [worldOf, hu, Option.getD_some]

attribute [irreducible] worldOf

/-- What is read off the run: it goes on to its end and tells its files apart; the first guest is
enrolled, and stays; enrolling it again succeeds at first, and not after the revocation. -/
theorem guests_read :
    ((Transition.run step World.empty (guestLabels.take 2)).isSome = true ∧
      (Transition.run step World.empty (guestLabels.take 2 ++ [.call 0
        (.persistGuestCandidate (guestCandidate "b1") ownerHistory)
          (callAt 2 (smoothAccess 2))])).isSome = true ∧
      (Transition.run step World.empty (guestLabels.take 3 ++ [.call 0
        (.persistGuestCandidate (guestCandidate "c1") ownerHistory)
          (callAt 3 (smoothAccess 3))])).isSome = true ∧
      (Transition.run step World.empty (guestLabels.take 4 ++ [.call 0 (.revokeCredential "c1")
        (callAt 4 (smoothAccess 4))])).isSome = true) ∧
    (∀ a ∈ (worldOf guestLabels).written, ∀ b ∈ (worldOf guestLabels).written,
      Crypto.sha256 a = Crypto.sha256 b → a = b) ∧
    ((worldOf (guestLabels.take 2)).handles 0).map (fun manager =>
      (manager.persistGuestCandidate (worldOf (guestLabels.take 2)).disk
        (callAt 2 (smoothAccess 2)) (guestCandidate "b1") ownerHistory).result.toOption) =
          some (some (guestCandidate "b1").credential) ∧
    (worldOf (guestLabels.take 3)).disk.saved.map (fun data =>
      decide (data.credentials.length ≤ 1024 ∧ ∀ existing ∈ data.credentials,
        existing.key = (guestCandidate "b1").credential.key →
          (guestCandidate "b1").credential.signCount ≤ existing.signCount)) = some true ∧
    ((worldOf (guestLabels.take 3)).handles 0).isSome = true ∧
    ((guestCandidate "b1").credential.key ∈
        savedKeys (worldOf (guestLabels.take 3)).disk.saved ∧
      (guestCandidate "b1").credential.key ∈
        savedKeys (worldOf (guestLabels.take 4)).disk.saved ∧
      (guestCandidate "b1").credential.key ∈ savedKeys (worldOf guestLabels).disk.saved) ∧
    ((worldOf guestLabels).handles 0).map (fun manager =>
      (manager.persistGuestCandidate (worldOf guestLabels).disk (callAt 5 (smoothAccess 5))
        (guestCandidate "b1") ownerHistory).result.isOk) = some false := by
  decide +kernel

theorem enrollment_keeps_history_guest : ∃ manager stored,
    (worldOf (guestLabels.take 3)).handles 0 = some manager ∧
      (manager.persistGuestCandidate (worldOf (guestLabels.take 3)).disk
        (callAt 3 (smoothAccess 3)) (guestCandidate "b1") ownerHistory).result = .ok stored ∧
      stored.key = ("b1", "home", "k") := by
  obtain ⟨⟨hpast, hfirst, hsecond, hlast⟩, hcollide, hstored, hwithin, hmanager, -, -⟩ :=
    guests_read
  have hrun := run_worldOf hfirst
  have hlater : Transition.run step (worldOf (guestLabels.take 3)) (guestLabels.drop 3) =
      some (worldOf guestLabels) := Transition.run_cons_eq_some.mpr
    ⟨_, step_worldOf hsecond, Transition.run_cons_eq_some.mpr ⟨_, step_worldOf hlast, rfl⟩⟩
  have hcollide' : NoCollisions (worldOf guestLabels) := fun a ha b hb => hcollide a ha b hb
  obtain ⟨manager, hmanager⟩ := Option.isSome_iff_exists.mp hmanager
  obtain ⟨enrolling, henrolling, hstored⟩ := Option.map_eq_some_iff.mp hstored
  obtain ⟨-, hfound, -⟩ := enrollment_keeps_history hrun (hcollide'.of_run hlater) hmanager
    (callAt 3 (smoothAccess 3)) (guestCandidate "b1") ownerHistory
  obtain ⟨again, hagain, hkey, -⟩ := hfound (guestLabels.take 2) [] _ _ 0 enrolling
    (callAt 2 (smoothAccess 2)) (guestCandidate "b1").credential rfl (run_worldOf hpast) henrolling
    (ok_of_toOption hstored) (step_worldOf hfirst) trivial (fun data hdata => by
      have hdata' : (worldOf (guestLabels.take 3)).disk.saved = some data := hdata
      rw [hdata', Option.map_some, Option.some.injEq, decide_eq_true_eq] at hwithin
      exact hwithin) ⟨rfl, rfl, rfl, rfl⟩
  exact ⟨manager, again, hmanager, hagain, hkey⟩

/-- A guest stays enrolled, and enrolling it again is refused because another guest has been
removed. -/
theorem guest_refused_again : ∃ past rest u v w candidate history env env' first again stored e,
    Transition.run step World.empty past = some u ∧ u.handles 0 = some first ∧
      (first.persistGuestCandidate u.disk env candidate history).result = .ok stored ∧
      step u (.call 0 (.persistGuestCandidate candidate history) env) = some v ∧
      Transition.run step v rest = some w ∧ NoCollisions w ∧
      Transition.Always step (fun x => stored.key ∈ savedKeys x.disk.saved) v rest ∧
      w.handles 0 = some again ∧ env'.access.Unhindered ∧
        (again.persistGuestCandidate w.disk env' candidate history).result = .error e := by
  obtain ⟨⟨hpast, hfirst, hsecond, hlast⟩, hcollide, hstored, -, -, hstays, hrefused⟩ := guests_read
  obtain ⟨first, henrolling, hstored⟩ := Option.map_eq_some_iff.mp hstored
  obtain ⟨again, hagain, hrefused⟩ := Option.map_eq_some_iff.mp hrefused
  obtain ⟨e, he⟩ := exists_error_of_isOk hrefused
  have hadded := step_worldOf hsecond
  have hrevoked := step_worldOf hlast
  refine ⟨guestLabels.take 2, guestLabels.drop 3, _, _, worldOf guestLabels, guestCandidate "b1",
    ownerHistory, callAt 2 (smoothAccess 2), callAt 5 (smoothAccess 5), first, again, _, e,
    run_worldOf hpast, henrolling, ok_of_toOption hstored, step_worldOf hfirst, ?_,
    fun a ha b hb => hcollide a ha b hb, ?_, hagain, ⟨rfl, rfl, rfl, rfl⟩, he⟩
  · exact Transition.run_cons_eq_some.mpr ⟨_, hadded, Transition.run_cons_eq_some.mpr
      ⟨_, hrevoked, rfl⟩⟩
  · refine ⟨hstays.1, fun t ht => ?_⟩
    obtain rfl := Option.some.inj (hadded.symm.trans ht)
    refine ⟨hstays.2.1, fun t ht => ?_⟩
    obtain rfl := Option.some.inj (hrevoked.symm.trans ht)
    exact hstays.2.2

end

end ElastosRuntime.Identity
