/-
# Ceremonies over whole runs

What every step keeps of the record: a success redeems the challenge begun last under its token, in
time and for its kind, and so no challenge is redeemed twice.
-/
import ElastosRuntime.Identity.System
import ElastosRuntime.Lib.History

namespace ElastosRuntime.Identity

open IdentityStore History

/-! ## 1. Reading the record -/

/-- The manager and the token of an event of a ceremony. -/
def Event.ceremony : Event → Option (Nat × String)
  | .began handle token _ _ => some (handle, token)
  | .registered handle token _ _ _ => some (handle, token)
  | .authenticated handle token _ _ _ _ _ => some (handle, token)
  | .enrolled _ _ => none

def Event.concerns (handle : Nat) (token : String) (e : Event) : Bool :=
  e.ceremony = some (handle, token)

def Event.succeeds : Event → Bool
  | .registered .. => true
  | .authenticated .. => true
  | _ => false

/-- The newest event of a ceremony. -/
def lastOf (handle : Nat) (token : String) (log : List Event) : Option Event :=
  log.find? (·.concerns handle token)

/-- The RP id a credential was last enrolled under. -/
def enrolledUnder (credentialId : String) (log : List Event) : Option String :=
  log.findSome? fun e =>
    match e with
    | .enrolled id rpId => if id = credentialId then some rpId else none
    | _ => none

/-- A success redeems the challenge begun last under its token, of its kind and in time. -/
def Redeems (e : Event) (older : List Event) : Prop :=
  match e with
  | .registered handle token rpId origin time =>
    ∃ pending, lastOf handle token older = some (.began handle token rpId pending) ∧
      pending.kind = .unguided ∧ pending.challengeType = .registration rpId origin ∧
        pending.created ≤ time ∧ time ≤ pending.created + CHALLENGE_EXPIRY
  | .authenticated handle token _ _ _ _ time =>
    ∃ rpId pending, lastOf handle token older = some (.began handle token rpId pending) ∧
      pending.kind = .authentication ∧
        pending.created ≤ time ∧ time ≤ pending.created + CHALLENGE_EXPIRY
  | _ => True

/-- The beginning of the ceremony of an event, with all that came before it. -/
def beginning (e : Event) (older : List Event) : List Event :=
  since (fun other => decide (other.ceremony = e.ceremony)) older

/-- No two successes redeem one challenge. -/
def AtMostOnce (log : List Event) : Prop :=
  ∀ n₁ e₁ o₁ n₂ e₂ o₂, log = n₁ ++ e₁ :: o₁ → log = n₂ ++ e₂ :: o₂ → e₁.succeeds = true →
    e₂.succeeds = true → beginning e₁ o₁ = beginning e₂ o₂ → o₁ = o₂

/-- A success that redeems a challenge has its beginning at that challenge. -/
theorem beginning_of_redeems {e : Event} {older : List Event} (hsucceeds : e.succeeds = true)
    (h : Redeems e older) : ∃ handle token rpId pending before,
      e.ceremony = some (handle, token) ∧
        beginning e older = .began handle token rpId pending :: before := by
  have hfound : ∀ handle token rpId pending, e.ceremony = some (handle, token) →
      lastOf handle token older = some (.began handle token rpId pending) →
        ∃ before, beginning e older = .began handle token rpId pending :: before := by
    intro handle token rpId pending hceremony hlast
    obtain ⟨-, newer, before, rfl, hnewer⟩ := List.find?_eq_some_iff_append.mp hlast
    refine ⟨before, ?_⟩
    rw [beginning, since_append_of_neg, since_cons_of_pos]
    · rw [hceremony]
      exact decide_eq_true rfl
    · intro other hother
      simpa [hceremony, Event.concerns] using hnewer other hother
  cases e with
  | registered handle token rpId origin time =>
    obtain ⟨pending, hlast, -⟩ := h
    obtain ⟨before, hbefore⟩ := hfound handle token rpId pending rfl hlast
    exact ⟨handle, token, rpId, pending, before, rfl, hbefore⟩
  | authenticated handle token _ _ _ _ time =>
    obtain ⟨rpId, pending, hlast, -⟩ := h
    obtain ⟨before, hbefore⟩ := hfound handle token rpId pending rfl hlast
    exact ⟨handle, token, rpId, pending, before, rfl, hbefore⟩
  | began => cases hsucceeds
  | enrolled => cases hsucceeds

/-- **In a record whose successes redeem, no challenge is redeemed twice.** -/
theorem atMostOnce_of_redeems {log : List Event} (h : Justified Redeems log) : AtMostOnce log := by
  intro n₁ e₁ o₁ n₂ e₂ o₂ h₁ h₂ hs₁ hs₂ hbegin
  obtain ⟨handle₁, token₁, rpId₁, pending₁, before₁, hc₁, hb₁⟩ :=
    beginning_of_redeems hs₁ (h.entry h₁)
  obtain ⟨handle₂, token₂, rpId₂, pending₂, before₂, hc₂, hb₂⟩ :=
    beginning_of_redeems hs₂ (h.entry h₂)
  have hsame : e₂.ceremony = e₁.ceremony := by
    rw [hb₁, hb₂] at hbegin
    simp only [List.cons.injEq, Event.began.injEq] at hbegin
    rw [hc₁, hc₂, hbegin.1.1, hbegin.1.2.1]
  refine eq_of_since_eq (q := fun other => decide (other.ceremony = e₁.ceremony)) h₁ h₂ ?_ ?_ ?_
  · simp
  · simp [hsame]
  · simpa only [beginning, hsame] using hbegin

/-! ## 2. What a call adds to the record -/

section

variable [WebAuthnCrates] {w : World} {handle : Nat} {manager : IdentityManager} {call : Call}
  {env : Environment}

/-- What a call reports by succeeding. -/
inductive Reported (handle : Nat) (call : Call) (env : Environment) (answer : Answer Reply) :
    List Event → Prop
  | nothing (hnone : ∀ token rpId reply, call.begun = some (token, rpId) →
      answer.result = .ok reply → answer.manager.challenges.lookup token = none) :
      Reported handle call env answer []
  | registered {token rpId origin : String} {response : RegistrationResponse} {reply : Reply}
      (hcall : call = .completeRegistration token response rpId origin)
      (hok : answer.result = .ok reply) :
      Reported handle call env answer [.registered handle token rpId origin env.now]
  | authenticated {token rpId origin : String} {response : AuthenticationResponse}
      {outcome : AuthenticationOutcome}
      (hcall : call = .completeAuthentication token response rpId origin)
      (hok : answer.result = .ok (.authenticated outcome)) :
      Reported handle call env answer [.authenticated handle token rpId
        outcome.credential.credentialId outcome.credential.signCount (assertedHash response)
          env.now]
  | began {token rpId : String} {pending : PendingChallenge}
      (hbegun : call.begun = some (token, rpId))
      (hlookup : answer.manager.challenges.lookup token = some pending) {reply : Reply}
      (hok : answer.result = .ok reply) :
      Reported handle call env answer [.began handle token rpId pending]

theorem reported_returned (handle : Nat) (call : Call) (env : Environment)
    (answer : Answer Reply) : Reported handle call env answer (returned handle call env answer) := by
  have hbegin : ∀ reply token rpId, answer.result = .ok reply → call.begun = some (token, rpId) →
      Reported handle call env answer
        ((answer.manager.challenges.lookup token).toList.map (.began handle token rpId)) := by
    intro reply token rpId hok hbegun
    cases hlookup : answer.manager.challenges.lookup token with
    | none =>
      refine .nothing fun token' rpId' reply' hbegun' _ => ?_
      rw [hbegun, Option.some.injEq, Prod.mk.injEq] at hbegun'
      exact hbegun'.1 ▸ hlookup
    | some pending => exact .began hbegun hlookup hok
  unfold returned
  cases hresult : answer.result with
  | error e =>
    refine .nothing fun token rpId reply _ hok => ?_
    rw [hresult] at hok
    cases hok
  | ok reply =>
    dsimp only
    split
    · exact .registered rfl hresult
    · exact .authenticated rfl hresult
    · split
      · rename_i token rpId hbegun
        exact hbegin reply token rpId hresult hbegun
      · rename_i hnone
        exact .nothing fun token rpId reply hbegun _ => by rw [hnone] at hbegun; cases hbegun

variable {reported log : List Event}

/-- A report is about a ceremony of its manager. -/
theorem ceremony_of_reported {answer : Answer Reply} {e : Event}
    (h : Reported handle call env answer reported)
    (he : e ∈ reported) : ∃ token, e.ceremony = some (handle, token) := by
  cases h with
  | nothing => cases he
  | registered hcall hok => exact ⟨_, by rw [List.mem_singleton.mp he, Event.ceremony]⟩
  | authenticated hcall hok => exact ⟨_, by rw [List.mem_singleton.mp he, Event.ceremony]⟩
  | began hbegun hlookup hok => exact ⟨_, by rw [List.mem_singleton.mp he, Event.ceremony]⟩

omit [WebAuthnCrates] in
theorem justified_enrolledBetween {P : Event → List Event → Prop}
    (hP : ∀ id rpId older, P (.enrolled id rpId) older) {before after : Option IdentityData}
    {rpId : String} (h : Justified P log) :
    Justified P (enrolledBetween before after rpId ++ log) := by
  refine justified_append.mpr ⟨fun newer e older he => ?_, h⟩
  have hmem : e ∈ enrolledBetween before after rpId := by rw [he]; simp
  obtain ⟨id, -, rfl⟩ := List.mem_map.mp hmem
  exact hP id rpId _

omit [WebAuthnCrates] in
theorem lastOf_enrolledBetween (handle : Nat) (token : String)
    (before after : Option IdentityData) (rpId : String) (log : List Event) :
    lastOf handle token (enrolledBetween before after rpId ++ log) = lastOf handle token log := by
  rw [lastOf, List.find?_append, List.find?_eq_none.mpr, Option.none_or, lastOf]
  intro e he
  obtain ⟨id, -, rfl⟩ := List.mem_map.mp he
  simp [Event.concerns, Event.ceremony]

/-! ## 3. Pending challenges and the record -/

/-- A challenge is the one last begun under its token. -/
def LastBegun (handle : Nat) (token : String) (pending : PendingChallenge) (time : Nat)
    (log : List Event) : Prop :=
  pending.created ≤ time ∧
    ∃ rpId, lastOf handle token log = some (.began handle token rpId pending) ∧
      ∀ savedRpId savedOrigin, pending.challengeType = .registration savedRpId savedOrigin →
        savedRpId = rpId

/-- A pending challenge is the one last begun under its token, no class of challenges is over its
limit, and every success redeems. -/
structure Ceremonies (w : World) : Prop where
  pending : ∀ handle manager token pending, w.handles handle = some manager →
    manager.challenges.lookup token = some pending → LastBegun handle token pending w.time w.log
  capacity : ∀ handle manager kind, w.handles handle = some manager →
    manager.pendingCount kind ≤ kind.capacity
  log : Justified Redeems w.log

variable [Crypto] [IdentityCrates]

omit [WebAuthnCrates] [Crypto] [IdentityCrates] in
/-- A call that succeeds with an answer of another kind. -/
theorem exists_of_map_eq_ok {α β : Type} {f : α → β} {answer : Answer α} {b : β}
    (h : (answer.map f).result = .ok b) : ∃ a, answer.result = .ok a ∧ f a = b := by
  cases hresult : answer.result with
  | error e =>
    simp only [Answer.map, hresult] at h
    cases h
  | ok a =>
    simp only [Answer.map, hresult] at h
    cases h
    exact ⟨a, rfl, rfl⟩

/-- What is pending after a call is what is last begun in the record after it. -/
theorem reported_pending (h : Ceremonies w) (hmanager : w.handles handle = some manager)
    (hcreated : w.time ≤ env.created)
    (hlog : ∀ handle token, lastOf handle token log = lastOf handle token w.log)
    (hreported : Reported handle call env (manager.call w.disk env call) reported) {token : String}
    {pending : PendingChallenge}
    (hpending : (manager.call w.disk env call).manager.challenges.lookup token = some pending) :
    LastBegun handle token pending env.created (reported ++ log) := by
  -- what was pending before stays the last begun unless the report is about its token
  have hkept : manager.challenges.lookup token = some pending →
      (∀ e ∈ reported, e.ceremony ≠ some (handle, token)) →
        LastBegun handle token pending env.created (reported ++ log) := by
    intro hbefore hother
    obtain ⟨htime, rpId, hlast, hparty⟩ := h.pending handle manager token pending hmanager hbefore
    refine ⟨htime.trans hcreated, rpId, ?_, hparty⟩
    rw [lastOf, List.find?_append, List.find?_eq_none.mpr, Option.none_or]
    · exact (hlog handle token).trans hlast
    · intro e he
      simp [Event.concerns, hother e he]
  cases manager.call_challenges env call with
  | shrinks hshrinks hnone =>
    refine hkept (hshrinks.1 token pending hpending) fun e he => ?_
    cases hreported with
    | nothing => cases he
    | registered hcall hok =>
      subst hcall
      obtain ⟨outcome, hresult, -⟩ := exists_of_map_eq_ok hok
      rw [List.mem_singleton.mp he, Event.ceremony, ne_eq, Option.some.injEq, Prod.mk.injEq]
      rintro ⟨-, rfl⟩
      exact absurd (hpending.symm.trans (completeRegistration_ok hresult).2) (by simp)
    | authenticated hcall hok =>
      subst hcall
      rw [List.mem_singleton.mp he, Event.ceremony, ne_eq, Option.some.injEq, Prod.mk.injEq]
      rintro ⟨-, rfl⟩
      exact absurd (hpending.symm.trans (completeAuthentication_erased ..)) (by simp)
    | began hbegun hlookup hok =>
      obtain hnone | ⟨error, herror⟩ := hnone
      · exact absurd (hbegun.symm.trans hnone) (by simp)
      · exact absurd (hok.symm.trans herror) (by simp)
  | begun hshrinks hroom habsent hinsert hbegun hok hcreated' hparty =>
    rename_i table begunToken rpId begunPending
    have hinserted : (manager.call w.disk env call).manager.challenges.lookup begunToken =
        some begunPending := by rw [hinsert, AList.lookup_insert]
    obtain ⟨reply, hok⟩ := hok
    cases hreported with
    | nothing hnone =>
      exact absurd (hinserted.symm.trans (hnone begunToken rpId reply hbegun hok)) (by simp)
    | registered hcall hok' =>
      subst hcall
      cases hbegun
    | authenticated hcall hok' =>
      subst hcall
      cases hbegun
    | began hbegun' hlookup hok' =>
      rw [hbegun, Option.some.injEq, Prod.mk.injEq] at hbegun'
      obtain ⟨rfl, rfl⟩ := hbegun'
      rw [hinserted, Option.some.injEq] at hlookup
      subst hlookup
      by_cases htoken : token = begunToken
      · subst htoken
        rw [hinserted, Option.some.injEq] at hpending
        subst hpending
        refine ⟨Nat.le_of_eq hcreated', rpId, ?_, hparty⟩
        simp [lastOf, Event.concerns, Event.ceremony]
      · refine hkept (hshrinks.1 token pending ?_) fun e he => ?_
        · rw [hinsert, AList.lookup_insert_ne htoken] at hpending
          exact hpending
        · rw [List.mem_singleton.mp he, Event.ceremony, ne_eq, Option.some.injEq, Prod.mk.injEq]
          rintro ⟨-, rfl⟩
          exact htoken rfl

/-- What a call reports redeems. -/
theorem reported_redeems (h : Ceremonies w) (hmanager : w.handles handle = some manager)
    (hnow : w.time ≤ env.now)
    (hlog : ∀ handle token, lastOf handle token log = lastOf handle token w.log)
    (hreported : Reported handle call env (manager.call w.disk env call) reported)
    (hjustified : Justified Redeems log) : Justified Redeems (reported ++ log) := by
  cases hreported with
  | nothing => exact hjustified
  | registered hcall hok =>
    subst hcall
    obtain ⟨outcome, hresult, -⟩ := exists_of_map_eq_ok hok
    obtain ⟨⟨pending, hlookup, hkind, htype, hfresh⟩, -⟩ := completeRegistration_ok hresult
    obtain ⟨hcreated, begunRpId, hlast, hparty⟩ :=
      h.pending handle manager _ pending hmanager hlookup
    rw [PendingChallenge.elapsed, Nat.sub_le_iff_le_add'] at hfresh
    refine ⟨⟨pending, ?_, hkind, htype, hcreated.trans hnow, hfresh⟩, hjustified⟩
    rw [hparty _ _ htype]
    exact (hlog _ _).trans hlast
  | authenticated hcall hok =>
    subst hcall
    obtain ⟨outcome, hresult, -⟩ := exists_of_map_eq_ok hok
    obtain ⟨pending, stored, signCount, where', hlookup, hredeem, -⟩ :=
      completeAuthentication_ok hresult
    obtain ⟨htype, hfresh, -⟩ := redeemAuthentication_ok hredeem
    obtain ⟨hcreated, begunRpId, hlast, -⟩ :=
      h.pending handle manager _ pending hmanager hlookup
    rw [PendingChallenge.elapsed, Nat.sub_le_iff_le_add'] at hfresh
    refine ⟨⟨begunRpId, pending, (hlog _ _).trans hlast, ?_, hcreated.trans hnow, hfresh⟩,
      hjustified⟩
    simp [PendingChallenge.kind, htype]
  | began hbegun hlookup hok => exact ⟨trivial, hjustified⟩

/-- A call keeps every class of challenges within its limit. -/
theorem call_capacity (h : Ceremonies w) (hmanager : w.handles handle = some manager)
    (kind : CeremonyKind) :
    (manager.call w.disk env call).manager.pendingCount kind ≤ kind.capacity := by
  have hbefore := h.capacity handle manager kind hmanager
  cases manager.call_challenges env call with
  | shrinks hshrinks hnone => exact (hshrinks.2 _).trans hbefore
  | begun hshrinks hroom habsent hinsert hbegun hok hcreated hparty =>
    rename_i table token rpId pending
    have hle : table.countVals (fun other => decide (other.kind = kind)) ≤ kind.capacity :=
      (hshrinks.2 _).trans hbefore
    rw [IdentityManager.pendingCount, hinsert, Table.countVals_insert_new pending _ habsent]
    by_cases hkind : pending.kind = kind
    · subst hkind
      rw [if_pos (decide_eq_true rfl)]
      exact hroom
    · rw [if_neg (by rw [decide_eq_true_eq]; exact hkind), Nat.add_zero]
      exact hle

theorem ceremonies_after (h : Ceremonies w) (hmanager : w.handles handle = some manager)
    (hnow : w.time ≤ env.now) (hcreated : env.now ≤ env.created) {kept : Option IdentityManager}
    (hkept : ∀ m, kept = some m → m = (manager.call w.disk env call).manager) {disk : Disk}
    (hreported : Reported handle call env (manager.call w.disk env call) reported ∨ kept = none ∧
      reported = []) : Ceremonies (w.after handle kept call env disk reported) := by
  have hlast : ∀ handle token, lastOf handle token
      (enrolledBetween w.disk.saved disk.saved call.party ++ w.log) = lastOf handle token w.log :=
    fun handle token => lastOf_enrolledBetween handle token _ _ _ _
  have hjustified : Justified Redeems
      (enrolledBetween w.disk.saved disk.saved call.party ++ w.log) :=
    justified_enrolledBetween (fun _ _ _ => trivial) h.log
  have hlog : (w.after handle kept call env disk reported).log =
      reported ++ (enrolledBetween w.disk.saved disk.saved call.party ++ w.log) :=
    List.append_assoc _ _ _
  constructor
  · intro other m token pending hm hpending
    rw [hlog]
    obtain ⟨rfl, hnew⟩ | ⟨hother, hm⟩ := update_eq_some hm
    · obtain hreported | ⟨rfl, -⟩ := hreported
      · obtain rfl := hkept m hnew
        exact reported_pending h hmanager (hnow.trans hcreated) hlast hreported hpending
      · cases hnew
    · obtain ⟨htime, rpId, hfound, hparty⟩ := h.pending other m token pending hm hpending
      refine ⟨htime.trans (hnow.trans hcreated), rpId, ?_, hparty⟩
      rw [lastOf, List.find?_append, List.find?_eq_none.mpr, Option.none_or]
      · exact (hlast other token).trans hfound
      · intro e he
        obtain hreported | ⟨-, rfl⟩ := hreported
        · obtain ⟨token', hceremony⟩ := ceremony_of_reported hreported he
          simp [Event.concerns, hceremony, Ne.symm hother]
        · cases he
  · intro other m kind hm
    obtain ⟨rfl, hnew⟩ | ⟨-, hm⟩ := update_eq_some hm
    · obtain rfl := hkept m hnew
      exact call_capacity h hmanager kind
    · exact h.capacity other m kind hm
  · rw [hlog]
    obtain hreported | ⟨-, rfl⟩ := hreported
    · exact reported_redeems h hmanager hnow hlast hreported hjustified
    · exact hjustified

theorem ceremonies_step {w' : World} {l : Label} (h : Ceremonies w)
    (hstep : step w l = some w') : Ceremonies w' := by
  cases step_cases hstep with
  | started hfree =>
    rename_i started creating loading drawn
    obtain ⟨-, hopened⟩ := IdentityManager.new_cases w.disk creating loading drawn
    have hmanager : ∀ other m, Function.update w.handles started
        (IdentityManager.new w.disk creating loading drawn).1.toOption other = some m →
          m.challenges = ∅ ∨ w.handles other = some m := by
      intro other m hm
      obtain ⟨-, hm⟩ | ⟨-, hm⟩ := update_eq_some hm
      · exact .inl (hopened m (ok_of_toOption hm)).1
      · exact .inr hm
    constructor
    · intro other m token pending hm hpending
      obtain hempty | hm := hmanager other m hm
      · rw [hempty] at hpending
        simp at hpending
      · exact h.pending other m token pending hm hpending
    · intro other m kind hm
      obtain hempty | hm := hmanager other m hm
      · rw [IdentityManager.pendingCount, hempty]
        exact Nat.zero_le _
      · exact h.capacity other m kind hm
    · exact h.log
  | called hmanager hnow hcreated =>
    exact ceremonies_after h hmanager hnow hcreated (fun m hm => (Option.some.inj hm).symm)
      (.inl (reported_returned ..))
  | crashed hmanager hnow hcreated =>
    exact ceremonies_after h hmanager hnow hcreated (fun m hm => by cases hm) (.inr ⟨rfl, rfl⟩)
  | allowed hmanager =>
    rename_i allowedHandle allowClone manager
    have hsame : ∀ other m, Function.update w.handles allowedHandle
        (some { manager with allowClone }) other = some m →
          ∃ m', w.handles other = some m' ∧ m.challenges = m'.challenges := by
      intro other m hm
      obtain ⟨rfl, hnew⟩ | ⟨-, hm⟩ := update_eq_some hm
      · exact ⟨manager, hmanager, by rw [← Option.some.inj hnew]⟩
      · exact ⟨m, hm, rfl⟩
    constructor
    · intro other m token pending hm hpending
      obtain ⟨m', hm', hchallenges⟩ := hsame other m hm
      exact h.pending other m' token pending hm' (hchallenges ▸ hpending)
    · intro other m kind hm
      obtain ⟨m', hm', hchallenges⟩ := hsame other m hm
      rw [IdentityManager.pendingCount, hchallenges]
      exact h.capacity other m' kind hm'
    · exact h.log

omit [WebAuthnCrates] [Crypto] [IdentityCrates] in
theorem ceremonies_empty : Ceremonies World.empty := by
  constructor
  · rintro handle manager token pending ⟨⟩
  · rintro handle manager kind ⟨⟩
  · exact trivial

end

end ElastosRuntime.Identity
