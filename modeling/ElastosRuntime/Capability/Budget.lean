/-
# Use budgets over whole runs

One process at a time owns a data directory, and a run is any sequence of manager operations
and process restarts.  What a use-limited token is worth over such a run is settled here.

* Without a restart the counter is a budget: every accepted use of a token takes one unit of
  `remaining`, nothing gives one back, and so a token with limit `n` is accepted at most `n`
  times (`countP_spends_le`).
* A restart reloads the epoch, the revocation list and the signing key, but not the use counts,
  so it refills the budget of every token that has been used.  `withinBudget_of_restartsUnused`
  has the exact condition on the restarts.
* A delegated token has an identifier and therefore a counter of its own.  Delegating spends one
  use of the parent and creates up to `n` new ones (`family_uses_le`).
-/
import ElastosRuntime.Capability.Manager
import ElastosRuntime.Lib.Transition
import Mathlib.Algebra.Order.BigOperators.Group.List

namespace ElastosRuntime.Budget

open Transition

/-! ## 1. Processes over a data directory -/

variable [Crypto]

/-- A running process and the directory it was started over. -/
structure Runtime where
  manager : CapabilityManager
  dataDir : DataDir

/-- Start a process: the store loads the persisted state and the manager loads the key. -/
def boot (dir : DataDir) (io : CapabilityManager.KeyIo)
    (epochReadOk revokedReadOk : Bool) : Runtime :=
  let store := CapabilityStore.withPersistence dir epochReadOk revokedReadOk
  let (manager, dataDir) := CapabilityManager.loadOrGenerate dir io store
  ⟨manager, dataDir⟩

/-- The operations of a run, each with what it reads from the clock, the file system and the
random generator. -/
inductive Op where
  | validate (clock : ValidationClock) (token : CapabilityToken) (request : AccessRequest)
  | delegate (clock : ValidationClock) (fresh : Issuance) (parent : CapabilityToken)
      (callerCapsuleId toCapsule : String) (resource : ResourceId)
      (expiry : Option SecureTimestamp)
  | revoke (id : TokenId) (ioOk : Bool)
  | revokeAll (write : DataDir.WriteOutcome) (renameOk : Bool)
  | restart (io : CapabilityManager.KeyIo) (epochReadOk revokedReadOk : Bool)

/-- What an operation leaves. -/
def perform (s : Runtime) : Op → Runtime
  | .validate clock token request =>
    { s with manager := (s.manager.validate clock token request).2 }
  | .delegate clock fresh parent caller toCapsule resource expiry =>
    { s with manager := (s.manager.delegate clock s.manager.epochReads fresh parent caller
        toCapsule resource expiry).2 }
  | .revoke id ioOk =>
    let (manager, dataDir) := s.manager.revoke s.dataDir id ioOk
    ⟨manager, dataDir⟩
  | .revokeAll write renameOk =>
    let (_, manager, dataDir) := s.manager.revokeAll s.dataDir write renameOk
    ⟨manager, dataDir⟩
  | .restart io epochReadOk revokedReadOk => boot s.dataDir io epochReadOk revokedReadOk

/-- Every operation can be called in every state. -/
def step (s : Runtime) (op : Op) : Option Runtime := some (perform s op)

/-- An accepted use of a token. -/
inductive Use where
  | validated (token : CapabilityToken)
  | delegated (parent child : CapabilityToken)

/-- The accepted use of an operation, if it is one. -/
def uses (s : Runtime) : Op → List Use
  | .validate clock token request =>
    match (s.manager.validate clock token request).1 with
    | .ok () => [.validated token]
    | .error _ => []
  | .delegate clock fresh parent caller toCapsule resource expiry =>
    match (s.manager.delegate clock s.manager.epochReads fresh parent caller toCapsule resource
        expiry).1 with
    | .ok child => [.delegated parent child]
    | .error _ => []
  | _ => []

/-- Whether an accepted use is a use of `token`. -/
def spends (token : CapabilityToken) : Use → Bool
  | .validated t => decide (t = token)
  | .delegated parent _ => decide (parent = token)

/-! ## 2. What one operation costs -/

/-- The uses a token with limit `n` has left. -/
def remaining (n : Nat) (id : TokenId) (s : Runtime) : Nat := n - s.manager.store.getUseCount id

variable {token parent child : CapabilityToken}

/-- **An accepted validation takes one use**, and no validation gives one back. -/
theorem validate_remaining {m m' : CapabilityManager} {clock : ValidationClock}
    {t : CapabilityToken} {request : AccessRequest} {result : Except ValidationError Unit} {n : Nat}
    (hn : token.constraints.maxUses = some n) (h : m.validate clock t request = (result, m')) :
    (if result = .ok () ∧ t = token then 1 else 0) + (n - m'.store.getUseCount token.id) ≤
      n - m.store.getUseCount token.id := by
  rcases CapabilityManager.validate_cases h with ⟨rfl, hfree⟩ | ⟨k, hk, rfl, hok⟩
  · have hno : ¬ (result = .ok () ∧ t = token) := by
      rintro ⟨hres, rfl⟩
      rw [hfree hres] at hn
      cases hn
    rw [if_neg hno]
    omega
  · have hcount := CapabilityStore.tryUseToken_getUseCount m.store t.id token.id k
    dsimp only
    rw [hcount]
    by_cases hspend : result = .ok () ∧ t = token
    · obtain ⟨hres, rfl⟩ := hspend
      have hkn : k = n := Option.some.inj (hk.symm.trans hn)
      subst hkn
      have hlt := hok.mp hres
      rw [if_pos ⟨hres, rfl⟩, if_pos ⟨rfl, hlt⟩]
      omega
    · rw [if_neg hspend]
      omega

/-- A restart is harmless to a token while it is unused. -/
def restartsUnused (token : CapabilityToken) (s : Runtime) : Op → Prop
  | .restart _ _ _ => s.manager.store.getUseCount token.id = 0
  | _ => True

/-- **The step lemma**: every operation pays for the uses of `token` it accepts out of what the
token has left. -/
theorem spends_step {n : Nat} (hn : token.constraints.maxUses = some n) (s : Runtime) (op : Op)
    (t : Runtime) (hg : restartsUnused token s op) (hst : step s op = some t) :
    (uses s op).countP (spends token) + remaining n token.id t ≤ remaining n token.id s := by
  obtain rfl : perform s op = t := Option.some.inj hst
  cases op with
  | validate clock tok request =>
    rcases hv : s.manager.validate clock tok request with ⟨result, m'⟩
    have hpay := validate_remaining hn hv
    simp only [perform, uses, remaining, hv]
    rcases result with e | u
    · rw [if_neg (fun h => nomatch h.1)] at hpay
      simpa using hpay
    · by_cases heq : tok = token
      · rw [if_pos ⟨rfl, heq⟩] at hpay
        simpa [spends, heq] using hpay
      · rw [if_neg (fun h => heq h.2)] at hpay
        simpa [spends, heq] using hpay
  | delegate clock fresh parent caller toCapsule resource expiry =>
    rcases hv : s.manager.validate clock parent (CapabilityManager.parentRequest parent caller)
      with ⟨result, m'⟩
    have hpay := validate_remaining hn hv
    have hm := CapabilityManager.delegate_manager s.manager clock s.manager.epochReads fresh parent
      caller toCapsule resource expiry
    rw [hv] at hm
    rcases hd : s.manager.delegate clock s.manager.epochReads fresh parent caller toCapsule
      resource expiry with ⟨issued, md⟩
    rw [hd] at hm
    dsimp only at hm
    subst hm
    simp only [perform, uses, remaining, hd]
    rcases issued with e | child
    · have hle : n - md.store.getUseCount token.id ≤ n - s.manager.store.getUseCount token.id :=
        Nat.le_trans (Nat.le_add_left _ _) hpay
      simpa using hle
    · have hres := (CapabilityManager.delegate_ok hd).1
      rw [hv] at hres
      cases hres
      by_cases heq : parent = token
      · rw [if_pos ⟨rfl, heq⟩] at hpay
        simpa [spends, heq] using hpay
      · rw [if_neg (fun h => heq h.2)] at hpay
        simpa [spends, heq] using hpay
  | revoke id ioOk => exact Nat.le_of_eq (Nat.zero_add _)
  | revokeAll write renameOk =>
    have hsame : (perform s (.revokeAll write renameOk)).manager.store.getUseCount token.id =
        s.manager.store.getUseCount token.id :=
      CapabilityStore.advanceEpoch_getUseCount s.manager.store s.dataDir write renameOk token.id
    simp only [uses, remaining, hsame, List.countP_nil, Nat.zero_add, Nat.le_refl]
  | restart io epochReadOk revokedReadOk =>
    have hzero : s.manager.store.getUseCount token.id = 0 := hg
    simp only [uses, remaining, hzero, List.countP_nil, Nat.zero_add, Nat.sub_zero]
    exact Nat.sub_le n _

variable {s : Runtime}

/-- The uses a run accepts are bounded by what the token has left at its start. -/
theorem countP_spends_le {n : Nat} (hn : token.constraints.maxUses = some n) {ops : List Op}
    (hg : Guarded step (restartsUnused token) s ops) :
    (trace step uses s ops).countP (spends token) ≤ remaining n token.id s :=
  trace_countP_le (fun s op t _ hop hst => ⟨trivial, spends_step hn s op t hop hst⟩) trivial hg

/-! ## 3. The budget of one token -/

/-- The run accepts a use-limited token at most as often as its limit says. -/
def WithinBudget (token : CapabilityToken) (s : Runtime) (ops : List Op) : Prop :=
  ∀ n, token.constraints.maxUses = some n → (trace step uses s ops).countP (spends token) ≤ n

/-- **A token stays within its budget over every run whose restarts find it unused.** -/
theorem withinBudget_of_restartsUnused (token : CapabilityToken) (s : Runtime)
    (ops : List Op) (hg : Guarded step (restartsUnused token) s ops) :
    WithinBudget token s ops := by
  intro n hn
  have hspent := countP_spends_le hn hg
  exact Nat.le_trans hspent (Nat.sub_le n _)

section Examples

def healthyIo : CapabilityManager.KeyIo := ⟨true, true, true, List.Vector.replicate 32 7⟩

def firstBoot : Runtime := boot DataDir.empty healthyIo true true

def noon : ValidationClock := ⟨⟨1000, 5⟩, ⟨1000, 6⟩⟩

def tokenId (b : UInt8) : TokenId := List.Vector.replicate 16 b

/-- A delegatable token for one document with the given limit, as `grant` issues it. -/
def limitedToken (maxUses : Nat) : CapabilityToken :=
  firstBoot.manager.grant firstBoot.manager.epochReads ⟨tokenId 1, ⟨1000, 1⟩⟩ "reader"
    ⟨"localhost://docs/a"⟩ .read ⟨0, true, none, some maxUses⟩ none

def readDocument (capsule : String) : AccessRequest :=
  ⟨capsule, .read, ⟨"localhost://docs/a"⟩, none⟩

omit [Crypto] in
/-- A token valid for one use is accepted again after a restart over the same directory. -/
theorem limitedToken_outlives_budget :
    letI := keyEchoCrypto
    ¬ WithinBudget (limitedToken 1) firstBoot
      [.validate noon (limitedToken 1) (readDocument "reader"), .restart healthyIo true true,
        .validate noon (limitedToken 1) (readDocument "reader")] := by
  intro h
  exact absurd (h 1 rfl) (by decide)

omit [Crypto] in
theorem limitedToken_restart_first :
    letI := keyEchoCrypto
    WithinBudget (limitedToken 1) firstBoot
      [.restart healthyIo true true, .validate noon (limitedToken 1) (readDocument "reader"),
        .validate noon (limitedToken 1) (readDocument "reader")] :=
  letI := keyEchoCrypto
  withinBudget_of_restartsUnused (limitedToken 1) firstBoot _
    (Guarded.cons rfl rfl (Guarded.cons rfl trivial (Guarded.cons rfl trivial trivial)))

end Examples

/-! ## 4. The budget of a token and its delegates -/

/-- The tokens a run delegates from `parent`. -/
def delegates (parent : CapabilityToken) (tr : List Use) : List CapabilityToken :=
  tr.filterMap fun
    | .delegated p child => if p = parent then some child else none
    | .validated _ => none

/-- Whether an accepted use is a validation of `token`. -/
def validates (token : CapabilityToken) : Use → Bool
  | .validated t => decide (t = token)
  | .delegated _ _ => false

/-- The accepted validations of a token and of everything delegated from it. -/
def familyValidations (parent : CapabilityToken) (tr : List Use) : Nat :=
  tr.countP fun u => (parent :: delegates parent tr).any fun t => validates t u

omit [Crypto] in
/-- Every accepted use of a token is a validation of it or a delegation from it. -/
theorem countP_spends_eq (token : CapabilityToken) (tr : List Use) :
    tr.countP (spends token) = tr.countP (validates token) + (delegates token tr).length := by
  induction tr with
  | nil => rfl
  | cons u tr ih =>
    unfold delegates at ih ⊢
    rw [List.countP_cons, List.countP_cons, List.filterMap_cons, ih]
    cases u with
    | validated t =>
      by_cases heq : t = token
      · simp [spends, validates, heq]
        omega
      · simp [spends, validates, heq]
    | delegated p child =>
      by_cases heq : p = token
      · simp [spends, validates, heq]
        omega
      · simp [spends, validates, heq]

/-- **A delegated token copies its parent's limit.** -/
theorem delegated_maxUses {op : Op} (h : Use.delegated parent child ∈ uses s op) :
    child.constraints.maxUses = parent.constraints.maxUses := by
  cases op with
  | delegate clock fresh p caller toCapsule resource expiry =>
    rcases hd : s.manager.delegate clock s.manager.epochReads fresh p caller toCapsule resource
      expiry with ⟨issued, md⟩
    simp only [uses, hd] at h
    rcases issued with e | c
    · simp at h
    · simp only [List.mem_singleton, Use.delegated.injEq] at h
      obtain ⟨rfl, rfl⟩ := h
      obtain ⟨-, -, -, hchild⟩ := CapabilityManager.delegate_ok hd
      rw [hchild]
      simp only [CapabilityManager.delegatedToken, CapabilityManager.grant, CapabilityToken.sign,
        CapabilityToken.new]
      split <;> rfl
  | validate clock tok request =>
    simp only [uses] at h
    split at h <;> simp at h
  | revoke id ioOk => simp [uses] at h
  | revokeAll write renameOk => simp [uses] at h
  | restart io epochReadOk revokedReadOk => simp [uses] at h

/-- The limit of every token a run delegates from `parent`. -/
theorem mem_delegates_maxUses {ops : List Op}
    (h : child ∈ delegates parent (trace step uses s ops)) :
    child.constraints.maxUses = parent.constraints.maxUses := by
  have hall : ∀ u ∈ trace step uses s ops, ∀ p c, u = Use.delegated p c →
      c.constraints.maxUses = p.constraints.maxUses :=
    forall_mem_trace (fun s op u hu p c hpc => delegated_maxUses (hpc ▸ hu)) ops s
  unfold delegates at h
  obtain ⟨u, hu, hchild⟩ := List.mem_filterMap.mp h
  cases u with
  | validated t => cases hchild
  | delegated p c =>
    dsimp only at hchild
    split at hchild
    · next heq =>
      cases hchild
      rw [hall _ hu p _ rfl, heq]
    · cases hchild

/-- An operation of the process that is running. -/
def isCall : Op → Prop
  | .restart _ _ _ => False
  | _ => True

theorem restartsUnused_of_isCall (s : Runtime) (op : Op) (h : isCall op) :
    restartsUnused token s op := by
  cases op with
  | restart io epochReadOk revokedReadOk => exact h.elim
  | validate clock tok request => trivial
  | delegate clock fresh parent caller toCapsule resource expiry => trivial
  | revoke id ioOk => trivial
  | revokeAll write renameOk => trivial

/-- **What a use-limited token and its delegates are worth together.**  In a run without a
restart that delegates `k` times from a token with limit `n`, the token itself is validated at
most `n - k` times and each delegate at most `n` times, so together they are validated at most
`(n - k) + k * n` times. -/
theorem family_uses_le (parent : CapabilityToken) (n : Nat) (s : Runtime)
    (ops : List Op) (hn : parent.constraints.maxUses = some n) (hcalls : ∀ op ∈ ops, isCall op) :
    let tr := trace step uses s ops
    let k := (delegates parent tr).length
    tr.countP (validates parent) + k ≤ n ∧
      (∀ child ∈ delegates parent tr, tr.countP (validates child) ≤ n) ∧
      familyValidations parent tr ≤ (n - k) + k * n := by
  intro tr k
  have hguard : ∀ token, Guarded step (restartsUnused token) s ops := fun token =>
    Guarded.of_forall_mem fun op hop s => restartsUnused_of_isCall s op (hcalls op hop)
  have hspent : ∀ token, token.constraints.maxUses = some n → tr.countP (spends token) ≤ n :=
    fun token ht => Nat.le_trans (countP_spends_le ht (hguard token)) (Nat.sub_le n _)
  have hparent : tr.countP (validates parent) + k ≤ n := by
    rw [← countP_spends_eq]
    exact hspent parent hn
  have hchild : ∀ child ∈ delegates parent tr, tr.countP (validates child) ≤ n := by
    intro child hmem
    have hle := hspent child ((mem_delegates_maxUses hmem).trans hn)
    rw [countP_spends_eq] at hle
    omega
  refine ⟨hparent, hchild, ?_⟩
  have hsum : ((delegates parent tr).map fun t => tr.countP (validates t)).sum ≤ k * n := by
    have hbound := List.sum_le_card_nsmul ((delegates parent tr).map fun t =>
      tr.countP (validates t)) n (by simpa using hchild)
    simpa using hbound
  have hany := countP_any_le validates tr (parent :: delegates parent tr)
  rw [List.map_cons, List.sum_cons] at hany
  unfold familyValidations
  omega

section Examples

def delegateToken : CapabilityToken :=
  firstBoot.manager.delegatedToken firstBoot.manager.epochReads ⟨tokenId 2, ⟨1000, 2⟩⟩
    (limitedToken 2) "viewer" ⟨"localhost://docs/a"⟩ none

def delegateAndUse : List Op :=
  [.delegate noon ⟨tokenId 2, ⟨1000, 2⟩⟩ (limitedToken 2) "reader" "viewer"
      ⟨"localhost://docs/a"⟩ none,
    .validate noon (limitedToken 2) (readDocument "reader"),
    .validate noon delegateToken (readDocument "viewer"),
    .validate noon delegateToken (readDocument "viewer")]

omit [Crypto] in
/-- A token with two uses and its delegate are validated three times together. -/
theorem family_exceeds_limit :
    letI := keyEchoCrypto
    (limitedToken 2).constraints.maxUses = some 2 ∧ (∀ op ∈ delegateAndUse, isCall op) ∧
      ¬ familyValidations (limitedToken 2) (trace step uses firstBoot delegateAndUse) ≤ 2 := by
  let _ := keyEchoCrypto
  refine ⟨rfl, ?_, by decide⟩
  simp [delegateAndUse, isCall]

omit [Crypto] in
theorem family_uses_le_two :
    letI := keyEchoCrypto
    familyValidations (limitedToken 2) (trace step uses firstBoot delegateAndUse) ≤
      (2 - (delegates (limitedToken 2) (trace step uses firstBoot delegateAndUse)).length) +
        (delegates (limitedToken 2) (trace step uses firstBoot delegateAndUse)).length * 2 :=
  letI := keyEchoCrypto
  (family_uses_le (limitedToken 2) 2 firstBoot delegateAndUse rfl
    (by simp [delegateAndUse, isCall])).2.2

end Examples

end ElastosRuntime.Budget
