/-
# Counters over whole runs

While a credential stays in the store its saved counter does not go down, and once it is not zero
every further authentication presents a larger one, through whichever manager
(`counter_of_stays`).  `ceremonies_hold` puts this together with what holds of the challenges.
-/
import ElastosRuntime.Identity.Ceremonies

namespace ElastosRuntime.Identity

open IdentityStore History

/-! ## 1. The counter of a credential -/

def IdentityData.count (data : IdentityData) (credentialId : String) : Option Nat :=
  (data.credentials.find? fun c => c.credentialId = credentialId).map StoredCredential.signCount

section

variable {data after : IdentityData} {stored : StoredCredential} {id : String} {n k : Nat}

theorem find?_updateSignCount : (data.updateSignCount stored.credentialId k).credentials.find?
      (fun c => c.credentialId = id) =
    (data.credentials.find? fun c => c.credentialId = id).map fun c =>
      if c.credentialId = stored.credentialId then { c with signCount := k } else c := by
  rw [IdentityData.updateSignCount, List.find?_map]
  congr 2
  funext c
  simp only [Function.comp_apply]
  split <;> rfl

/-- The counter that is updated is the one of the stored credential. -/
theorem find?_stored (hdistinct : data.DistinctIds) (hmem : stored ∈ data.credentials) :
    data.credentials.find? (fun c => c.credentialId = stored.credentialId) = some stored := by
  cases hfind : data.credentials.find? fun c => c.credentialId = stored.credentialId with
  | none => exact absurd (List.find?_eq_none.mp hfind stored hmem) (by simp)
  | some c =>
    have hid := List.find?_some hfind
    simp only [decide_eq_true_eq] at hid
    rw [List.inj_on_of_nodup_map hdistinct (List.mem_of_find?_eq_some hfind) hmem hid]

variable [Crypto]

/-- **A saved change does not lower the counter of a credential that stays.** -/
theorem count_of_change {call : Call} {before : Option IdentityData}
    (h : Change false before call after) (hbefore : before = some data)
    (hdistinct : data.DistinctIds) (hstays : id ∈ credentialIds (some after))
    (hcount : data.count id = some n) : ∃ m, after.count id = some m ∧ n ≤ m := by
  subst hbefore
  unfold IdentityData.count at hcount
  cases hfind : data.credentials.find? fun c => c.credentialId = id with
  | none => simp [hfind] at hcount
  | some c =>
    simp only [hfind, Option.map_some, Option.some.injEq] at hcount
    have hid := List.find?_some hfind
    simp only [decide_eq_true_eq] at hid
    cases h with
    | enrolled hparty hafter =>
      subst hafter
      refine ⟨n, ?_, Nat.le_refl n⟩
      simp [IdentityData.count, enroll, List.find?_append, hfind, hcount]
    | counted hsame hmem hcloned hafter =>
      cases hsame
      subst hafter
      rename_i stored k
      rw [IdentityData.count, find?_updateSignCount, hfind]
      by_cases hstored : c.credentialId = stored.credentialId
      · have hc : c = stored := List.inj_on_of_nodup_map hdistinct
          (List.mem_of_find?_eq_some hfind) hmem hstored
        subst hc
        refine ⟨k, by simp, ?_⟩
        rcases Nat.eq_zero_or_pos c.signCount with hzero | hpos
        · omega
        · have := hcloned rfl hpos
          omega
      · exact ⟨n, by simp [hstored, hcount], Nat.le_refl n⟩
    | removed hsame hmem hafter =>
      cases hsame
      subst hafter
      rename_i stored
      refine ⟨n, ?_, Nat.le_refl n⟩
      have hother : id ≠ stored.credentialId := by
        rintro rfl
        obtain ⟨a, hmem, ha⟩ := List.mem_map.mp hstays
        simp [IdentityData.removeCredential, ha] at hmem
      have hkept : (data.removeCredential stored.credentialId).credentials.find?
          (fun c => c.credentialId = id) = data.credentials.find? fun c => c.credentialId = id := by
        rw [IdentityData.removeCredential, List.find?_filter]
        congr 1
        funext a
        by_cases ha : a.credentialId = id
        · simp [ha, hother]
        · simp [ha]
      rw [IdentityData.count, hkept, hfind]
      exact congrArg some hcount

end

/-! ## 2. One step -/

section

variable [WebAuthnCrates] [Crypto] [IdentityCrates] {w w' : World} {l : Label}

def savedCount (w : World) (credentialId : String) : Option Nat :=
  w.disk.saved.bind fun data => data.count credentialId

/-- No manager takes a counter that does not increase. -/
def Strict (w : World) : Prop :=
  ∀ handle manager, w.handles handle = some manager → manager.allowClone = false

/-- A label that does not ask a manager to take one. -/
def Label.KeepsStrict : Label → Prop
  | .setAllowClone _ allowClone => allowClone = false
  | _ => True

variable [LawfulIdentityCrates]

theorem strict_step (hconsistent : Consistent w) (hcollide : NoCollisions w) (h : Strict w)
    (hkeeps : l.KeepsStrict) (hstep : step w l = some w') : Strict w' := by
  intro other m hm
  cases step_cases hstep with
  | started hfree =>
    obtain ⟨-, hm⟩ | ⟨-, hm⟩ := update_eq_some hm
    · exact ((IdentityManager.new_cases ..).2 m (ok_of_toOption hm)).2.1
    · exact h other m hm
  | called hmanager hnow hcreated =>
    obtain ⟨-, ⟨⟩⟩ | ⟨-, hm⟩ := update_eq_some hm
    · obtain ⟨key, -, hspec⟩ := hconsistent.call_spec hcollide hmanager _ _
      rw [hspec.allowClone]
      exact h _ _ hmanager
    · exact h other m hm
  | crashed hmanager hnow hcreated =>
    obtain ⟨-, ⟨⟩⟩ | ⟨-, hm⟩ := update_eq_some hm
    exact h other m hm
  | allowed hmanager =>
    obtain ⟨-, ⟨⟩⟩ | ⟨-, hm⟩ := update_eq_some hm
    · exact hkeeps
    · exact h other m hm

variable {id token rpId : String} {n handle : Nat}

/-- **A step does not lower the counter of a credential that stays.** -/
theorem count_step (hconsistent : Consistent w) (hcollide : NoCollisions w) (h : Strict w)
    (hstep : step w l = some w') (hstays : id ∈ credentialIds w'.disk.saved)
    (hcount : savedCount w id = some n) : ∃ m, savedCount w' id = some m ∧ n ≤ m := by
  obtain hsame | ⟨handle, manager, call, after, hmanager, hchange, hsaved⟩ :=
    saved_step hconsistent hcollide hstep
  · exact ⟨n, by rw [savedCount, hsame]; exact hcount, Nat.le_refl n⟩
  · obtain ⟨data, hdata, hcount⟩ := Option.bind_eq_some_iff.mp hcount
    rw [h handle manager hmanager] at hchange
    obtain ⟨m, hm, hle⟩ := count_of_change hchange hdata (hconsistent.distinctIds hdata)
      (hsaved ▸ hstays) hcount
    exact ⟨m, by rw [savedCount, hsaved]; exact hm, hle⟩

variable {manager : IdentityManager}

/-- **An authentication that succeeds** names a saved credential, presents a larger counter than a
saved one that is not zero, and saves it. -/
theorem authentication_saved {env : Environment} (hconsistent : Consistent w)
    (hcollide : NoCollisions w) (hmanager : w.handles handle = some manager) {origin : String}
    {response : AuthenticationResponse} {outcome : AuthenticationOutcome}
    (hok : (manager.completeAuthentication w.disk env token response rpId origin).result = .ok
      outcome) :
    ∃ data stored, w.disk.saved = some data ∧ stored ∈ data.credentials ∧
      outcome.credential = { stored with signCount := outcome.credential.signCount } ∧
      (manager.allowClone = false → 0 < stored.signCount →
        stored.signCount < outcome.credential.signCount) ∧
      (manager.completeAuthentication w.disk env token response rpId origin).disk.saved =
        some (data.updateSignCount stored.credentialId outcome.credential.signCount) ∧
      assertedHash response = rpIdHash rpId := by
  obtain ⟨key, raw, hdevice, hcopies, hraw⟩ := hconsistent.handles handle manager hmanager
  obtain ⟨pending, stored, signCount, where', -, hredeem, houtcome, hdisk, hresult⟩ :=
    completeAuthentication_ok hok
  obtain ⟨-, -, hmem, -, hhash, hclone⟩ := redeemAuthentication_ok hredeem
  obtain ⟨data, hdata, hmem⟩ := mem_getCredentials hmem
  have hedited : manager.store.updateSignCount stored.credentialId signCount =
      { manager.store with data := some (data.updateSignCount stored.credentialId signCount) } := by
    rw [IdentityStore.updateSignCount, show manager.store.data = some data from hdata]
    rfl
  obtain hrefused | ⟨hsaved, hattempt⟩ : Refused key w.disk
      ((manager.store.updateSignCount stored.credentialId signCount).save w.disk env.access) ∨ _ :=
    save_edited hcopies hdevice (hcollide.eq hconsistent.written hraw) hedited
  · obtain ⟨e, he⟩ := hrefused.1
    exact absurd (he.symm.trans hresult) (by simp)
  · have hcount : outcome.credential.signCount = signCount := by rw [houtcome]
    refine ⟨data, stored, hsaved.trans hdata, hmem, by rw [houtcome], hcount ▸ hclone, ?_, hhash⟩
    rw [hdisk, hcount]
    cases hattempt with
    | refused hrefused =>
      obtain ⟨e, he⟩ := hrefused.1
      exact absurd (he.symm.trans hresult) (by simp)
    | done hdistinct hok' hwritten hstore =>
      rw [hwritten]
      have hdevice' : (w.disk.withCredentials (writeCredentials key env.access.nonce
          (data.updateSignCount stored.credentialId signCount))).deviceKey = some key := hdevice
      exact Disk.saved_of_file hdevice' rfl (readCredentials_writeCredentials hdistinct _)
    | indeterminate hdistinct hafter herror hwritten hstore =>
      exact absurd (herror.symm.trans hresult) (by simp)

omit [LawfulIdentityCrates] in
/-- What a step adds to the record, and where an authentication in it comes from. -/
theorem log_step (hstep : step w l = some w') : ∃ newer, w'.log = newer ++ w.log ∧
    ∀ handle token rpId id k hash time, .authenticated handle token rpId id k hash time ∈ newer →
      ∃ manager env response origin outcome, w.handles handle = some manager ∧
        (manager.completeAuthentication w.disk env token response rpId origin).result =
          .ok outcome ∧ outcome.credential.credentialId = id ∧ outcome.credential.signCount = k ∧
        assertedHash response = hash ∧
        w'.disk = (manager.completeAuthentication w.disk env token response rpId origin).disk := by
  have hnone : ∀ before after party handle token rpId id k hash time,
      Event.authenticated handle token rpId id k hash time ∉ enrolledBetween before after party := by
    intro before after party handle token rpId id k hash time hmem
    obtain ⟨_, -, heq⟩ := List.mem_map.mp hmem
    cases heq
  cases step_cases hstep with
  | started hfree => exact ⟨[], rfl, fun _ _ _ _ _ _ _ hmem => by cases hmem⟩
  | called hmanager hnow hcreated =>
    rename_i called call env manager
    refine ⟨_, rfl, fun handle token rpId id k hash time hmem => ?_⟩
    rcases List.mem_append.mp hmem with hin | hin
    · have hreported := reported_returned called call env (manager.call w.disk env call)
      generalize returned called call env (manager.call w.disk env call) = reported
        at hreported hin
      cases hreported with
      | nothing => cases hin
      | registered hcall hok => cases List.mem_singleton.mp hin
      | authenticated hcall hok =>
        subst hcall
        cases List.mem_singleton.mp hin
        obtain ⟨outcome, hresult, houtcome⟩ := exists_of_map_eq_ok hok
        cases houtcome
        exact ⟨manager, env, _, _, _, hmanager, hresult, rfl, rfl, rfl, rfl⟩
      | began hbegun hlookup hok => cases List.mem_singleton.mp hin
    · exact absurd hin (hnone _ _ _ _ _ _ _ _ _ _)
  | crashed hmanager hnow hcreated =>
    refine ⟨_, rfl, fun handle token rpId id k hash time hmem => ?_⟩
    exact absurd hmem (hnone _ _ _ _ _ _ _ _ _ _)
  | allowed hmanager => exact ⟨[], rfl, fun _ _ _ _ _ _ _ hmem => by cases hmem⟩

/-- **An authentication in one step presents more than what was saved, and saves it.** -/
theorem authenticated_step (hconsistent : Consistent w) (hcollide : NoCollisions w) (h : Strict w)
    (hstep : step w l = some w') {newer : List Event} (hnewer : w'.log = newer ++ w.log) {k : Nat}
    {hash : List UInt8} {time : Nat}
    (hmem : .authenticated handle token rpId id k hash time ∈ newer)
    (hcount : savedCount w id = some n) : 0 < n → n < k := by
  obtain ⟨newer', hlog, hauthenticated⟩ := log_step hstep
  obtain rfl : newer = newer' := List.append_cancel_right (hnewer.symm.trans hlog)
  obtain ⟨manager, env, response, origin, outcome, hmanager, hok, hid, hk, -, -⟩ :=
    hauthenticated handle token rpId id k hash time hmem
  obtain ⟨data, stored, hsaved, hstored, houtcome, hless, -, -⟩ :=
    authentication_saved hconsistent hcollide hmanager hok
  have hstoredId : stored.credentialId = id := by rw [← hid, houtcome]
  have hn : stored.signCount = n := by
    rw [savedCount, hsaved, Option.bind_some, IdentityData.count, ← hstoredId,
      find?_stored (hconsistent.distinctIds hsaved) hstored] at hcount
    simpa using hcount
  rw [← hn, ← hk]
  exact hless (h handle manager hmanager)

/-! ## 3. Runs -/

/-- **While a credential stays, its counter does not go down, and what is presented for it is
larger than what was saved.** -/
theorem counter_of_stays : ∀ {ls : List Label} {u w : World} {n : Nat},
    Consistent u → Strict u → (∀ l ∈ ls, l.KeepsStrict) → NoCollisions w →
      Transition.run step u ls = some w →
      Transition.Always step (fun v => id ∈ credentialIds v.disk.saved) u ls →
      savedCount u id = some n → (∃ m, savedCount w id = some m ∧ n ≤ m) ∧
        ∃ newer, w.log = newer ++ u.log ∧ ∀ handle token rpId k hash time,
          .authenticated handle token rpId id k hash time ∈ newer → 0 < n → n < k
  | [], u, w, n, _, _, _, _, hrun, _, hcount => by
    rw [Transition.run_nil, Option.some.injEq] at hrun
    subst hrun
    exact ⟨⟨n, hcount, Nat.le_refl n⟩, [], rfl, fun _ _ _ _ _ _ hmem => by cases hmem⟩
  | l :: ls, u, w, n, hconsistent, hstrict, hkeeps, hcollide, hrun, halways, hcount => by
    obtain ⟨v, hstep, hrest⟩ := Transition.run_cons_eq_some.mp hrun
    have hcollide' : NoCollisions v := hcollide.of_run hrest
    have hcollide'' := hcollide'.of_step hstep
    have halways' := halways.2 v hstep
    have hstays : id ∈ credentialIds v.disk.saved := by
      cases ls with
      | nil => exact halways'
      | cons _ _ => exact halways'.1
    obtain ⟨k, hk, hle⟩ := count_step hconsistent hcollide'' hstrict hstep hstays hcount
    obtain ⟨⟨m, hm, hle'⟩, newer, hlog, hpresented⟩ := counter_of_stays
      (hconsistent.step hcollide'' hstep)
      (strict_step hconsistent hcollide'' hstrict (hkeeps l List.mem_cons_self) hstep)
      (fun l' hl' => hkeeps l' (List.mem_cons_of_mem l hl')) hcollide hrest halways' hk
    obtain ⟨first, hfirst, -⟩ := log_step hstep
    refine ⟨⟨m, hm, hle.trans hle'⟩, newer ++ first, by rw [hlog, hfirst, List.append_assoc], ?_⟩
    intro handle token rpId presented hash time hmem hpos
    rcases List.mem_append.mp hmem with hlater | hnow
    · have := hpresented handle token rpId presented hash time hlater (hpos.trans_le hle)
      omega
    · exact authenticated_step hconsistent hcollide'' hstrict hstep hfirst hnow hcount hpos

omit [WebAuthnCrates] [LawfulIdentityCrates] in
/-- A refreshed copy is empty or what is saved. -/
theorem data_of_refreshed {key : Bytes 32} {disk : Disk} {store : IdentityStore}
    (hdevice : disk.deviceKey = some key) (h : Refreshed key disk store) :
    store.data = none ∨ store.data = disk.saved := by
  obtain hnone | hcopy := h
  · exact .inl hnone.2.1
  · refine .inr ?_
    rw [Disk.saved_eq hdevice]
    cases hfile : disk.credentials with
    | none =>
      rw [hfile] at hcopy
      exact hcopy.2.1
    | some file =>
      rw [hfile] at hcopy
      obtain ⟨-, data, hread, hdata, -⟩ := hcopy
      rw [hdata, Option.bind_some, hread]
      rfl

/-- What a call that fails leaves saved, and in the copy. -/
theorem error_keeps (hconsistent : Consistent w) (hcollide : NoCollisions w) {env : Environment}
    {call : Call} {e : IdentityError} (hmanager : w.handles handle = some manager)
    (herror : (manager.call w.disk env call).result = .error e) :
    ((manager.call w.disk env call).disk.saved = w.disk.saved ∨
      env.access.replacement = .failedAfter) ∧
    ((manager.call w.disk env call).manager.store = manager.store ∨
      (manager.call w.disk env call).manager.store.data = none ∨
      (manager.call w.disk env call).manager.store.data =
        (manager.call w.disk env call).disk.saved) := by
  obtain ⟨key, hdevice, hspec⟩ := hconsistent.call_spec hcollide hmanager env call
  have hdevice' : (manager.call w.disk env call).disk.deviceKey = some key := by
    obtain hdisk | ⟨after, -, -, hdisk, -⟩ := hspec.files <;> rw [hdisk] <;> exact hdevice
  refine ⟨?_, hspec.copy.imp_right (data_of_refreshed hdevice')⟩
  obtain hdisk | ⟨after, -, -, -, ⟨reply, hok⟩ | hafter⟩ := hspec.files
  · exact .inl (by rw [hdisk])
  · exact absurd (hok.symm.trans herror) (by simp)
  · exact .inr hafter

omit [WebAuthnCrates] [Crypto] [IdentityCrates] [LawfulIdentityCrates] in
theorem strict_empty : Strict World.empty := by
  rintro handle manager ⟨⟩

/-- **Ceremonies.**  In every run in which no manager is told to take a counter that does not
increase: a success redeems the challenge last begun under its token, in time and of its kind, and
no challenge is redeemed twice; no class of challenges is over its limit; the saved ids are
distinct; counters of credentials that stay do not go down; and a call that fails changes what is
saved only when the new file was already in place, and leaves its copy as it was, empty, or equal to
what is saved. -/
theorem ceremonies_hold {ls : List Label} (hrun : Transition.run step World.empty ls = some w)
    (hkeeps : ∀ l ∈ ls, l.KeepsStrict) (hcollide : NoCollisions w) :
    Justified Redeems w.log ∧ AtMostOnce w.log ∧
    (∀ handle manager kind, w.handles handle = some manager →
      manager.pendingCount kind ≤ kind.capacity) ∧
    (∀ data, w.disk.saved = some data → data.DistinctIds) ∧
    (∀ past rest u id n, ls = past ++ rest → Transition.run step World.empty past = some u →
      Transition.Always step (fun v => id ∈ credentialIds v.disk.saved) u rest →
      savedCount u id = some n → (∃ m, savedCount w id = some m ∧ n ≤ m) ∧
        ∃ newer, w.log = newer ++ u.log ∧ ∀ handle token rpId k hash time,
          .authenticated handle token rpId id k hash time ∈ newer → 0 < n → n < k) ∧
    ∀ handle manager env call e, w.handles handle = some manager →
      (manager.call w.disk env call).result = .error e →
      ((manager.call w.disk env call).disk.saved = w.disk.saved ∨
        env.access.replacement = .failedAfter) ∧
      ((manager.call w.disk env call).manager.store = manager.store ∨
        (manager.call w.disk env call).manager.store.data = none ∨
        (manager.call w.disk env call).manager.store.data =
          (manager.call w.disk env call).disk.saved) := by
  have hceremonies : ∀ {ks : List Label} {v : World}, NoCollisions v →
      Transition.run step World.empty ks = some v → (∀ l ∈ ks, l.KeepsStrict) →
        Consistent v ∧ Ceremonies v ∧ Strict v := by
    intro ks v hv hrun' hkeeps'
    have hguarded : Transition.Guarded step (fun _ l => l.KeepsStrict) World.empty ks :=
      Transition.Guarded.of_forall_mem fun l hl _ => hkeeps' l hl
    refine run_invariant (fun v => Ceremonies v ∧ Strict v) ?_ ?_ hguarded hrun' hv
    · exact ⟨ceremonies_empty, strict_empty⟩
    · intro s l t hs hc hinv hg hst
      exact ⟨ceremonies_step hinv.1 hst, strict_step hs hc hinv.2 hg hst⟩
  obtain ⟨hconsistent, hinv, -⟩ := hceremonies hcollide hrun hkeeps
  refine ⟨hinv.log, atMostOnce_of_redeems hinv.log, hinv.capacity,
    fun data hsaved => hconsistent.distinctIds hsaved, ?_, fun handle manager env call e hm he =>
      error_keeps hconsistent hcollide hm he⟩
  rintro past rest u id n rfl hpast halways hcount
  obtain ⟨u', hu', hrest⟩ := Transition.run_append_eq_some.mp hrun
  rw [hpast, Option.some.injEq] at hu'
  subst hu'
  obtain ⟨hu, -, hstrict⟩ := hceremonies (hcollide.of_run hrest) hpast fun l hl =>
    hkeeps l (List.mem_append_left _ hl)
  exact counter_of_stays hu hstrict (fun l hl => hkeeps l (List.mem_append_right _ hl)) hcollide
    hrest halways hcount

end

/-! ## 4. Runs on fixed inputs -/

section

attribute [local instance] headEchoCrypto plainIdentityCrates plainIdentityCrates_lawful
  plainWebAuthnCrates

/-- A response made for a relying party, to the challenge that is always drawn. -/
def signedResponse (rpId : String) (signCount : UInt8) : AuthenticationResponse :=
  ⟨"a1", textOfBytes (Json.encodeRow
      [utf8Bytes "webauthn.get", List.replicate 32 7, utf8Bytes "origin"]),
    textOfBytes (rpIdHash rpId ++ [5, 0, 0, 0, signCount]), ""⟩

/-- An owner is enrolled, asks for a challenge and redeems it. -/
def signInLabels (begunRpId : String) : List Label :=
  [startLabel 0,
    .call 0 (.persistEnrollmentCandidate ownerCandidate) (callAt 1 (smoothAccess 1)),
    .call 0 (.beginAuthentication "t" begunRpId) (callAt 2 (smoothAccess 2)),
    .call 0 (.completeAuthentication "t" (signedResponse "home" 2) "home" "origin")
      (callAt 3 (smoothAccess 3))]

theorem signIn_runs : (Transition.run step World.empty (signInLabels "home")).isSome = true := by
  decide +kernel

def signedIn : World := (Transition.run step World.empty (signInLabels "home")).get signIn_runs

theorem signedIn_run :
    Transition.run step World.empty (signInLabels "home") = some signedIn := by
  rw [signedIn, Option.some_get]

attribute [irreducible] signedIn

/-- What is read off the run: it tells its files apart, and its RP ids, and the sign-in succeeds. -/
theorem signedIn_read :
    (∀ a ∈ signedIn.written, ∀ b ∈ signedIn.written,
      Crypto.sha256 a = Crypto.sha256 b → a = b) ∧
    (∀ a ∈ signedIn.log.map Event.party, ∀ b ∈ signedIn.log.map Event.party,
      rpIdHash a = rpIdHash b → a = b) ∧
    signedIn.log.head?.map Event.succeeds = some true ∧ signedIn.log.length = 3 := by
  decide +kernel

theorem ceremonies_hold_signedIn : signedIn.log.length = 3 ∧ Justified Redeems signedIn.log ∧
    AtMostOnce signedIn.log := by
  have hkeeps : ∀ l ∈ signInLabels "home", l.KeepsStrict := by
    simp only [signInLabels, List.forall_mem_cons]
    exact ⟨trivial, trivial, trivial, trivial, List.forall_mem_nil _⟩
  obtain ⟨hcollide, -, -, hlength⟩ := signedIn_read
  obtain ⟨hredeems, honce, -⟩ :=
    ceremonies_hold signedIn_run hkeeps fun a ha b hb => hcollide a ha b hb
  exact ⟨hlength, hredeems, honce⟩

/-- Two managers are opened, and then an owner is enrolled through the first. -/
def ownedLabels : List Label :=
  [startLabel 0, startLabel 1,
    .call 0 (.persistEnrollmentCandidate ownerCandidate) (callAt 1 (smoothAccess 1))]

theorem owned_runs : (Transition.run step World.empty ownedLabels).isSome = true := by
  decide +kernel

def owned : World := (Transition.run step World.empty ownedLabels).get owned_runs

theorem owned_run : Transition.run step World.empty ownedLabels = some owned := by
  rw [owned, Option.some_get]

/-- The file is in place, and then the directory cannot be synced. -/
def unsyncedAccess : Access := { smoothAccess 2 with replacement := .failedAfter }

theorem exists_error_of_isOk {ε α : Type} {result : Except ε α} (h : result.isOk = false) :
    ∃ e, result = .error e := by
  cases result with
  | error e => exact ⟨e, rfl⟩
  | ok a => cases h

/-- A call fails, and what is saved is not what was saved; another call fails on a manager whose
copy is not what is saved. -/
theorem failed_call_changes_saved : ∃ ls w, Transition.run step World.empty ls = some w ∧
    (∀ l ∈ ls, l.KeepsStrict) ∧ NoCollisions w ∧
    (∃ handle manager env call e, w.handles handle = some manager ∧
      (manager.call w.disk env call).result = .error e ∧
        (manager.call w.disk env call).disk.saved ≠ w.disk.saved) ∧
    ∃ handle manager env call e, w.handles handle = some manager ∧
      (manager.call w.disk env call).result = .error e ∧
        (manager.call w.disk env call).manager.store.data ≠
          (manager.call w.disk env call).disk.saved := by
  have hcollide : ∀ a ∈ owned.written, ∀ b ∈ owned.written,
      Crypto.sha256 a = Crypto.sha256 b → a = b := by decide +kernel
  have hkeeps : ∀ l ∈ ownedLabels, l.KeepsStrict := by
    simp only [ownedLabels, List.forall_mem_cons]
    exact ⟨trivial, trivial, trivial, List.forall_mem_nil _⟩
  obtain ⟨first, hfirst⟩ : ∃ manager, owned.handles 0 = some manager :=
    Option.isSome_iff_exists.mp (by decide +kernel)
  obtain ⟨second, hsecond⟩ : ∃ manager, owned.handles 1 = some manager :=
    Option.isSome_iff_exists.mp (by decide +kernel)
  have howned : credentialIds owned.disk.saved = ["a1"] := by decide +kernel
  refine ⟨ownedLabels, owned, owned_run, hkeeps, fun a ha b hb => hcollide a ha b hb, ?_, ?_⟩
  · have hrevoked : (owned.handles 0).map (fun manager =>
        let answer := manager.call owned.disk (callAt 2 unsyncedAccess) (.revokeCredential "a1")
        (answer.result.isOk, credentialIds answer.disk.saved)) = some (false, []) := by
      decide +kernel
    rw [hfirst, Option.map_some, Option.some.injEq, Prod.mk.injEq] at hrevoked
    obtain ⟨e, he⟩ := exists_error_of_isOk hrevoked.1
    refine ⟨0, first, _, _, e, hfirst, he, fun hsame => ?_⟩
    rw [hsame, howned] at hrevoked
    cases hrevoked.2
  · have hstale : (owned.handles 1).map (fun manager =>
        let answer := manager.call owned.disk (callAt 2 (smoothAccess 2))
          (.completeAuthentication "t" (signedResponse "home" 2) "home" "origin")
        (answer.result.isOk, credentialIds answer.manager.store.data,
          credentialIds answer.disk.saved)) = some (false, [], ["a1"]) := by
      decide +kernel
    rw [hsecond, Option.map_some, Option.some.injEq, Prod.mk.injEq, Prod.mk.injEq] at hstale
    obtain ⟨e, he⟩ := exists_error_of_isOk hstale.1
    refine ⟨1, second, _, _, e, hsecond, he, fun hsame => ?_⟩
    rw [hsame, hstale.2.2] at hstale
    cases hstale.2.1

end

end ElastosRuntime.Identity
