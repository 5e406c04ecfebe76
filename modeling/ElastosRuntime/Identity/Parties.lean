/-
# Ceremonies and relying parties

A registration is completed only for the relying party it was begun for.  An authentication is
compared with what the authenticator signed and with nothing else: it is bound to the relying party
it was begun for, and to the one its credential was enrolled under, exactly when the response was
made for both (`party_bound_iff`).
-/
import ElastosRuntime.Identity.Counters

namespace ElastosRuntime.Identity

open IdentityStore History

/-! ## 1. What binds a success to a relying party -/

/-- A success is for the RP id its challenge was begun for: a registration for the origin too, an
authentication for the RP id its credential was enrolled under too. -/
def BoundToParty (e : Event) (older : List Event) : Prop :=
  match e with
  | .registered handle token rpId origin _ =>
    ∃ pending, lastOf handle token older = some (.began handle token rpId pending) ∧
      pending.challengeType = .registration rpId origin
  | .authenticated handle token rpId credentialId _ _ _ =>
    (∃ pending, lastOf handle token older = some (.began handle token rpId pending)) ∧
      enrolledUnder credentialId older = some rpId
  | _ => True

section

variable [Crypto]

/-- The response to a challenge was made for the RP id the challenge was begun for, and for the one
the credential it names was enrolled under. -/
def MadeForParty (e : Event) (older : List Event) : Prop :=
  match e with
  | .authenticated handle token _ credentialId _ hash _ =>
    (∀ rpId pending, lastOf handle token older = some (.began handle token rpId pending) →
      hash = rpIdHash rpId) ∧
    ∀ rpId, enrolledUnder credentialId older = some rpId → hash = rpIdHash rpId
  | _ => True

/-- An authentication names an enrolled credential, and its response is made for the RP id it is
completed for. -/
def MadeForCompletion (e : Event) (older : List Event) : Prop :=
  match e with
  | .authenticated _ _ rpId credentialId _ hash _ =>
    hash = rpIdHash rpId ∧ ∃ enrolledRpId, enrolledUnder credentialId older = some enrolledRpId
  | _ => True

end

/-! ## 2. The RP id a saved credential was enrolled under -/

variable {credentialId party : String} {older log : List Event}

theorem enrolledUnder_append {newer : List Event} :
    enrolledUnder credentialId (newer ++ older) =
      (enrolledUnder credentialId newer).or (enrolledUnder credentialId older) :=
  List.findSome?_append

theorem mem_of_enrolledUnder {rpId : String} (h : enrolledUnder credentialId log = some rpId) :
    .enrolled credentialId rpId ∈ log := by
  obtain ⟨e, he, heq⟩ := List.exists_of_findSome?_eq_some h
  cases e with
  | enrolled id party =>
    simp only [Option.ite_none_right_eq_some, Option.some.injEq] at heq
    obtain ⟨rfl, rfl⟩ := heq
    exact he
  | began => cases heq
  | registered => cases heq
  | authenticated => cases heq

theorem enrolledUnder_append_of_neg {newer : List Event}
    (h : ∀ rpId, .enrolled credentialId rpId ∉ newer) :
    enrolledUnder credentialId (newer ++ older) = enrolledUnder credentialId older := by
  cases hfound : enrolledUnder credentialId newer with
  | none => rw [enrolledUnder_append, hfound, Option.none_or]
  | some rpId => exact absurd (mem_of_enrolledUnder hfound) (h rpId)

variable {before after : Option IdentityData}

theorem mem_enrolledBetween {rpId : String}
    (h : .enrolled credentialId rpId ∈ enrolledBetween before after party) :
    credentialId ∈ credentialIds after ∧ credentialId ∉ credentialIds before ∧ rpId = party := by
  obtain ⟨id, hmem, heq⟩ := List.mem_map.mp h
  obtain ⟨rfl, rfl⟩ := Event.enrolled.inj heq
  rw [List.mem_filter, decide_eq_true_eq] at hmem
  exact ⟨hmem.1, hmem.2, rfl⟩

/-- A credential that is saved already is not enrolled again. -/
theorem enrolledUnder_enrolledBetween_of_mem (h : credentialId ∈ credentialIds before) :
    enrolledUnder credentialId (enrolledBetween before after party ++ log) =
      enrolledUnder credentialId log :=
  enrolledUnder_append_of_neg fun _ hmem => (mem_enrolledBetween hmem).2.1 h

theorem enrolledUnder_enrolledBetween_of_new (hafter : credentialId ∈ credentialIds after)
    (hbefore : credentialId ∉ credentialIds before) :
    enrolledUnder credentialId (enrolledBetween before after party ++ log) = some party := by
  have hmem : .enrolled credentialId party ∈ enrolledBetween before after party :=
    List.mem_map.mpr ⟨credentialId, List.mem_filter.mpr ⟨hafter, decide_eq_true hbefore⟩, rfl⟩
  cases hfound : enrolledUnder credentialId (enrolledBetween before after party) with
  | none =>
    have := List.findSome?_eq_none_iff.mp hfound _ hmem
    simp at this
  | some rpId =>
    rw [enrolledUnder_append, hfound, Option.some_or,
      (mem_enrolledBetween (mem_of_enrolledUnder hfound)).2.2]

/-- Every saved credential carries the RP id it was enrolled under. -/
def EnrolledUnder (saved : Option IdentityData) (log : List Event) : Prop :=
  ∀ data, saved = some data → ∀ c ∈ data.credentials,
    enrolledUnder c.credentialId log = some c.rpId

theorem mem_credentialIds {data : IdentityData} {c : StoredCredential}
    (h : c ∈ data.credentials) : c.credentialId ∈ credentialIds (some data) :=
  List.mem_map.mpr ⟨c, h, rfl⟩

section

variable [Crypto] {allowClone : Bool} {before : Option IdentityData} {call : Call}
  {after : IdentityData} {log : List Event}

/-- **A change keeps every credential under the RP id it was enrolled under.** -/
theorem enrolledUnder_of_change (h : EnrolledUnder before log)
    (hchange : Change allowClone before call after) (hdistinct : after.DistinctIds) :
    EnrolledUnder (some after) (enrolledBetween before (some after) call.party ++ log) := by
  have hkept : ∀ data, before = some data → ∀ c ∈ data.credentials,
      enrolledUnder c.credentialId (enrolledBetween before (some after) call.party ++ log) =
        some c.rpId := by
    intro data hdata c hc
    rw [enrolledUnder_enrolledBetween_of_mem (hdata ▸ mem_credentialIds hc)]
    exact h data hdata c hc
  intro data hdata c hc
  obtain rfl := Option.some.inj hdata
  cases hchange with
  | enrolled hparty hafter =>
    rename_i credential
    have hnew : credential.credentialId ∉ credentialIds before →
        enrolledUnder credential.credentialId
          (enrolledBetween before (some after) call.party ++ log) = some credential.rpId := by
      intro habsent
      rw [enrolledUnder_enrolledBetween_of_new ?_ habsent, hparty]
      subst hafter
      cases before <;> simp [enroll, credentialIds]
    cases before with
    | none =>
      subst hafter
      obtain rfl := List.mem_singleton.mp hc
      exact hnew (by simp [credentialIds])
    | some data =>
      have hcredentials : after.credentials = data.credentials ++ [credential] := by
        rw [hafter, enroll]
      rw [hcredentials] at hc
      rcases List.mem_append.mp hc with hold | hlast
      · exact hkept data rfl c hold
      · obtain rfl := List.mem_singleton.mp hlast
        refine hnew fun hmem => ?_
        rw [IdentityData.DistinctIds, hcredentials, List.map_append, List.nodup_append] at hdistinct
        exact hdistinct.2.2 _ hmem _ (by simp) rfl
  | counted hbefore hmem hcount hafter =>
    rename_i data stored signCount
    subst hafter
    obtain ⟨c', hc', rfl⟩ := List.mem_map.mp hc
    have hsame := hkept data hbefore c' hc'
    split
    · exact hsame
    · exact hsame
  | removed hbefore hmem hafter =>
    rename_i data stored
    subst hafter
    exact hkept data hbefore c (List.mem_of_mem_filter hc)

end

/-! ## 3. Steps -/

section

variable [WebAuthnCrates] [Crypto] [IdentityCrates] [LawfulIdentityCrates] {w w' : World}
  {handle : Nat} {manager : IdentityManager} {call : Call} {env : Environment}

/-- Saved credentials carry the RP id they were enrolled under, and every response was made for the
RP id of its completion. -/
structure Parties (w : World) : Prop where
  saved : EnrolledUnder w.disk.saved w.log
  log : Justified MadeForCompletion w.log

omit [IdentityCrates] [LawfulIdentityCrates] [WebAuthnCrates] [Crypto] in
/-- Nothing is enrolled where the same data stays saved. -/
theorem enrolledBetween_self (saved : Option IdentityData) (party : String) :
    enrolledBetween saved saved party = [] := by
  rw [enrolledBetween, List.map_eq_nil_iff, List.filter_eq_nil_iff]
  simp

omit [IdentityCrates] [LawfulIdentityCrates] [Crypto] in
theorem enrolledUnder_reported {answer : Answer Reply} {reported log : List Event}
    (h : Reported handle call env answer reported) (credentialId : String) :
    enrolledUnder credentialId (reported ++ log) = enrolledUnder credentialId log := by
  refine enrolledUnder_append_of_neg fun rpId hmem => ?_
  obtain ⟨token, hceremony⟩ := ceremony_of_reported h hmem
  cases hceremony

/-- The saved data and what has been enrolled, after a call. -/
theorem enrolledUnder_after (hconsistent : Consistent w) (hcollide : NoCollisions w)
    (h : EnrolledUnder w.disk.saved w.log) (hmanager : w.handles handle = some manager)
    (env : Environment) (call : Call) :
    EnrolledUnder (manager.call w.disk env call).disk.saved (enrolledBetween w.disk.saved
      (manager.call w.disk env call).disk.saved call.party ++ w.log) := by
  obtain hsame | ⟨after, hchange, hdistinct, hsaved⟩ :=
    hconsistent.saved_call hcollide hmanager env call
  · rw [hsame, enrolledBetween_self, List.nil_append]
    exact h
  · rw [hsaved]
    exact enrolledUnder_of_change h hchange hdistinct

theorem parties_after (hconsistent : Consistent w) (hcollide : NoCollisions w) (h : Parties w)
    (hmanager : w.handles handle = some manager) {kept : Option IdentityManager}
    {reported : List Event}
    (hreported : Reported handle call env (manager.call w.disk env call) reported ∨
      reported = []) :
    Parties (w.after handle kept call env (manager.call w.disk env call).disk reported) := by
  have hsaved := enrolledUnder_after hconsistent hcollide h.saved hmanager env call
  have hjustified : Justified MadeForCompletion (enrolledBetween w.disk.saved
      (manager.call w.disk env call).disk.saved call.party ++ w.log) :=
    justified_enrolledBetween (fun _ _ _ => trivial) h.log
  have hlog : (w.after handle kept call env (manager.call w.disk env call).disk reported).log =
      reported ++ (enrolledBetween w.disk.saved (manager.call w.disk env call).disk.saved
        call.party ++ w.log) := List.append_assoc _ _ _
  obtain hreported | rfl := hreported
  · constructor
    · intro data hdata c hc
      rw [hlog, enrolledUnder_reported hreported]
      exact hsaved data hdata c hc
    · rw [hlog]
      cases hreported with
      | nothing => exact hjustified
      | registered hcall hok => exact ⟨trivial, hjustified⟩
      | began hbegun hlookup hok => exact ⟨trivial, hjustified⟩
      | authenticated hcall hok =>
        rename_i answered
        subst hcall
        obtain ⟨outcome, hresult, houtcome⟩ := exists_of_map_eq_ok hok
        cases houtcome
        obtain ⟨data, stored, hdata, hstored, hcredential, -, -, hhash⟩ :=
          authentication_saved hconsistent hcollide hmanager hresult
        have hid : answered.credential.credentialId = stored.credentialId := by rw [hcredential]
        have hmem : stored.credentialId ∈ credentialIds w.disk.saved :=
          hdata ▸ mem_credentialIds hstored
        refine ⟨⟨hhash, stored.rpId, ?_⟩, hjustified⟩
        rw [hid]
        exact (enrolledUnder_enrolledBetween_of_mem hmem).trans (h.saved data hdata stored hstored)
  · exact ⟨fun data hdata c hc => hlog ▸ hsaved data hdata c hc, hlog ▸ hjustified⟩

theorem parties_step (hconsistent : Consistent w) (hcollide : NoCollisions w) (h : Parties w)
    {l : Label} (hstep : step w l = some w') : Parties w' := by
  cases step_cases hstep with
  | started hfree =>
    refine ⟨fun data hdata => ?_, h.log⟩
    rw [saved_new] at hdata
    exact h.saved data hdata
  | called hmanager hnow hcreated =>
    exact parties_after hconsistent hcollide h hmanager (.inl (reported_returned ..))
  | crashed hmanager hnow hcreated => exact parties_after hconsistent hcollide h hmanager (.inr rfl)
  | allowed hmanager => exact ⟨h.saved, h.log⟩

omit [WebAuthnCrates] [LawfulIdentityCrates] in
theorem parties_empty : Parties World.empty := by
  constructor
  · rintro data ⟨⟩
  · exact trivial

/-! ## 4. Runs -/

/-- **When a success is bound to its relying party.**  In every run, if no two RP ids in it have one
digest: a registration always is, and an authentication is if and only if its response was made for
the RP id of its beginning and for the one its credential was enrolled under. -/
theorem party_bound_iff {ls : List Label} (hrun : Transition.run step World.empty ls = some w)
    (hcollide : NoCollisions w) (hdigests : Set.InjOn rpIdHash {rpId | rpId ∈ w.log.map Event.party})
    {newer older : List Event} {e : Event} (hlog : w.log = newer ++ e :: older) :
    BoundToParty e older ↔ MadeForParty e older := by
  obtain ⟨-, hceremonies, hparties⟩ := run_invariant (fun v => Ceremonies v ∧ Parties v)
    ⟨ceremonies_empty, parties_empty⟩
    (fun s l t hs hc hinv _ hst => ⟨ceremonies_step hinv.1 hst, parties_step hs hc hinv.2 hst⟩)
    (Transition.guarded_true ls World.empty) hrun hcollide
  have hredeems := hceremonies.log.entry hlog
  have hmade := hparties.log.entry hlog
  -- digests tell apart what this entry and those before it are about
  have heq : ∀ f ∈ older, rpIdHash e.party = rpIdHash f.party → e.party = f.party := by
    intro f hf hhash
    refine hdigests (List.mem_map_of_mem ?_) (List.mem_map_of_mem ?_) hhash
    · rw [hlog]
      simp
    · rw [hlog]
      simp [hf]
  cases e with
  | began => exact Iff.rfl
  | enrolled => exact Iff.rfl
  | registered handle token rpId origin time =>
    obtain ⟨pending, hlast, -, htype, -⟩ := hredeems
    exact iff_of_true ⟨pending, hlast, htype⟩ trivial
  | authenticated handle token rpId credentialId signCount hash time =>
    obtain ⟨begunRpId, pending, hlast, -⟩ := hredeems
    obtain ⟨hhash, enrolledRpId, henrolled⟩ := hmade
    constructor
    · rintro ⟨⟨pending', hlast'⟩, henrolled'⟩
      constructor
      · intro other otherPending hother
        rw [hlast', Option.some.injEq] at hother
        cases hother
        exact hhash
      · intro other hother
        rw [henrolled', Option.some.injEq] at hother
        exact hother ▸ hhash
    · rintro ⟨hbegun, hcredential⟩
      have hfirst : rpId = begunRpId :=
        heq _ (List.mem_of_find?_eq_some hlast) (hhash.symm.trans (hbegun begunRpId pending hlast))
      have hsecond : rpId = enrolledRpId := heq _ (mem_of_enrolledUnder henrolled)
        (hhash.symm.trans (hcredential enrolledRpId henrolled))
      exact ⟨⟨pending, hfirst ▸ hlast⟩, hsecond ▸ henrolled⟩

end

/-! ## 5. Runs on fixed inputs -/

/-- A success that is bound to its relying party is for the RP id of its beginning. -/
theorem party_of_boundToParty {e : Event} {handle : Nat} {token : String}
    (hsucceeds : e.succeeds = true) (hceremony : e.ceremony = some (handle, token))
    (h : BoundToParty e older) :
    (lastOf handle token older).map Event.party = some e.party := by
  cases e with
  | began => cases hsucceeds
  | enrolled => cases hsucceeds
  | registered handle token rpId origin time =>
    cases hceremony
    obtain ⟨pending, hlast, -⟩ := h
    rw [hlast]
    rfl
  | authenticated handle token rpId credentialId signCount hash time =>
    cases hceremony
    obtain ⟨⟨pending, hlast⟩, -⟩ := h
    rw [hlast]
    rfl

section

attribute [local instance] headEchoCrypto plainIdentityCrates plainIdentityCrates_lawful
  plainWebAuthnCrates

theorem party_bound_iff_signedIn : ∃ e older, signedIn.log = e :: older ∧ e.succeeds = true ∧
    (BoundToParty e older ↔ MadeForParty e older) := by
  obtain ⟨hcollide, hdigests, hsucceeds, -⟩ := signedIn_read
  obtain ⟨e, hhead, hsucceeds⟩ := Option.map_eq_some_iff.mp hsucceeds
  obtain ⟨older, hlog⟩ := List.head?_eq_some_iff.mp hhead
  exact ⟨e, older, hlog, hsucceeds, party_bound_iff signedIn_run
    (fun a ha b hb => hcollide a ha b hb) (fun a ha b hb => hdigests a ha b hb)
    (hlog.trans (List.nil_append _).symm)⟩

theorem diverted_runs :
    (Transition.run step World.empty (signInLabels "elsewhere")).isSome = true := by
  decide +kernel

def diverted : World :=
  (Transition.run step World.empty (signInLabels "elsewhere")).get diverted_runs

theorem diverted_run :
    Transition.run step World.empty (signInLabels "elsewhere") = some diverted := by
  rw [diverted, Option.some_get]

attribute [irreducible] diverted

/-- What is read off the run: it tells its files apart, and its RP ids, and the last call redeems
for `home` the challenge that was begun for `elsewhere`. -/
theorem diverted_read :
    (∀ a ∈ diverted.written, ∀ b ∈ diverted.written,
      Crypto.sha256 a = Crypto.sha256 b → a = b) ∧
    (∀ a ∈ diverted.log.map Event.party, ∀ b ∈ diverted.log.map Event.party,
      rpIdHash a = rpIdHash b → a = b) ∧
    diverted.log.head?.map (fun e =>
      (e.succeeds, e.ceremony, e.party, (lastOf 0 "t" diverted.log.tail).map Event.party)) =
        some (true, some (0, "t"), "home", some "elsewhere") := by
  decide +kernel

/-- A challenge begun for one RP id is redeemed for another, under which the credential was
enrolled and the response was made. -/
theorem diverted_unbound : ∃ ls w newer e older, Transition.run step World.empty ls = some w ∧
    NoCollisions w ∧ Set.InjOn rpIdHash {rpId | rpId ∈ w.log.map Event.party} ∧
      w.log = newer ++ e :: older ∧ e.succeeds = true ∧ ¬BoundToParty e older := by
  obtain ⟨hcollide, hdigests, hfacts⟩ := diverted_read
  obtain ⟨e, hhead, hfacts⟩ := Option.map_eq_some_iff.mp hfacts
  obtain ⟨older, hlog⟩ := List.head?_eq_some_iff.mp hhead
  simp only [Prod.mk.injEq, hlog, List.tail_cons] at hfacts
  obtain ⟨hsucceeds, hceremony, hparty, hlast⟩ := hfacts
  refine ⟨_, diverted, [], e, older, diverted_run, fun a ha b hb => hcollide a ha b hb,
    fun a ha b hb => hdigests a ha b hb, hlog, hsucceeds, fun hbound => ?_⟩
  have := party_of_boundToParty hsucceeds hceremony hbound
  rw [hlast, hparty] at this
  exact absurd this (by decide)

end

end ElastosRuntime.Identity
