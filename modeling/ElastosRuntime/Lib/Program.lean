/-
# Programs that call, and pools of them

A `Program` does nothing but perform operations, look at the replies, and end with a result or an
error.  What an operation does is left to a handler, which sees a state that all programs share and
a choice of the environment.

* `Obeys` is the program logic: a program performs an operation only when a condition on what it has
  performed before holds, and it ends only with a result that satisfies another.  There is one rule
  for each way a program is built.
* `Yields` is the runs of a program by itself: the operations with their replies, and the result.
* A `Pool` holds the calls in progress, each with what it has performed so far, and one step of it is
  one operation of one of them.  `Pool.Keeps.run` is the rule for pools: what each program obeys by
  itself holds in every interleaving, and an invariant of the shared state that the performed
  operations keep is an invariant of the pool.  `Pool.performed` and `Pool.caused` tell where a
  reply in a call's history and a fact about the shared state come from, and `Pool.once` is when an
  event of a kind happens once.
-/
import ElastosRuntime.Lib.Transition
import Mathlib.Data.List.Induction

/-- A program over the operations `Op`. -/
inductive Program (Op : Type) (Reply : Op → Type) (ε α : Type) where
  | done (result : Except ε α)
  | perform (op : Op) (next : Reply op → Program Op Reply ε α)

namespace Program

variable {Op : Type} {Reply : Op → Type} {ε α β : Type}

/-! ## 1. Building programs -/

protected def bind : Program Op Reply ε α → (α → Program Op Reply ε β) → Program Op Reply ε β
  | done (.ok a), f => f a
  | done (.error e), _ => done (.error e)
  | perform op next, f => perform op fun reply => (next reply).bind f

instance : Monad (Program Op Reply ε) where
  pure a := done (.ok a)
  bind := Program.bind

/-- A computation that performs nothing. -/
def lift (x : Except ε α) : Program Op Reply ε α := done x

/-- One operation. -/
def ask (op : Op) : Program Op Reply ε (Reply op) := perform op fun reply => done (.ok reply)

@[simp] theorem lift_ok_bind (a : α) (f : α → Program Op Reply ε β) :
    lift (.ok a) >>= f = f a := rfl

@[simp] theorem pure_ok_bind (a : α) (f : α → Program Op Reply ε β) :
    (pure a : Program Op Reply ε α) >>= f = f a := rfl

/-- Computations in sequence are one computation. -/
theorem lift_bind_lift (x : Except ε α) (f : α → Except ε β) :
    (lift x >>= fun a => lift (f a) : Program Op Reply ε β) = lift (x >>= f) := by
  cases x <;> rfl

/-! ## 2. What a program obeys -/

/-- What a program has performed, in order. -/
abbrev History (Reply : Op → Type) := List (Σ op, Reply op)

variable (Valid : ∀ op, Reply op → Prop) (Pre : History Reply → Op → Prop)

/-- **The program logic.**  As long as the replies are valid, every operation is performed after a
history that permits it, and the result is one that `Post` permits. -/
def Obeys (Post : History Reply → Except ε α → Prop) :
    History Reply → Program Op Reply ε α → Prop
  | h, done result => Post h result
  | h, perform op next => Pre h op ∧ ∀ reply, Valid op reply →
      Obeys Post (h ++ [⟨op, reply⟩]) (next reply)

variable {Valid Pre} {Post : History Reply → Except ε α → Prop}
  {Post' : History Reply → Except ε β → Prop}

variable {p : Program Op Reply ε α}

theorem Obeys.mono {Post₂ : History Reply → Except ε α → Prop}
    (hpost : ∀ h result, Post h result → Post₂ h result) :
    ∀ {h : History Reply}, Obeys Valid Pre Post h p → Obeys Valid Pre Post₂ h p := by
  induction p with
  | done result => exact fun hp => hpost _ result hp
  | perform op next ih => exact fun hp => ⟨hp.1, fun reply hvalid => ih reply (hp.2 reply hvalid)⟩

variable {f : α → Program Op Reply ε β}

/-- Sequencing. -/
theorem Obeys.bind :
    ∀ {h : History Reply}, Obeys Valid Pre (fun h result =>
      match result with
      | .ok a => Obeys Valid Pre Post' h (f a)
      | .error e => Post' h (.error e)) h p → Obeys Valid Pre Post' h (p >>= f) := by
  induction p with
  | done result =>
    intro h hp
    cases result with
    | ok a => exact hp
    | error e => exact hp
  | perform op next ih =>
    intro h hp
    exact ⟨hp.1, fun reply hvalid => ih reply (hp.2 reply hvalid)⟩

variable {h : History Reply}

/-- Sequencing, when the first part has been specified. -/
theorem Obeys.andThen (hp : Obeys Valid Pre Post h p)
    (hok : ∀ h' a, Post h' (.ok a) → Obeys Valid Pre Post' h' (f a))
    (herror : ∀ h' e, Post h' (.error e) → Post' h' (.error e)) :
    Obeys Valid Pre Post' h (p >>= f) := by
  refine .bind (hp.mono fun h' result hpost => ?_)
  cases result with
  | ok a => exact hok h' a hpost
  | error e => exact herror h' e hpost

/-- A computation that performs nothing has two outcomes. -/
theorem Obeys.lift {x : Except ε α} (hok : ∀ a, x = .ok a → Obeys Valid Pre Post' h (f a))
    (herror : ∀ e, x = .error e → Post' h (.error e)) : Obeys Valid Pre Post' h (lift x >>= f) := by
  cases x with
  | ok a => exact hok a rfl
  | error e => exact herror e rfl

/-- What has been performed is never undone. -/
theorem Obeys.extends : ∀ {h : History Reply},
    Obeys Valid Pre Post h p →
      Obeys Valid Pre (fun h' result => h <+: h' ∧ Post h' result) h p := by
  induction p with
  | done result => exact fun hp => ⟨List.prefix_rfl, hp⟩
  | perform op next ih =>
    intro h hp
    refine ⟨hp.1, fun reply hvalid => (ih reply (hp.2 reply hvalid)).mono ?_⟩
    exact fun h' result hpost => ⟨(List.prefix_append _ _).trans hpost.1, hpost.2⟩

/-- After a history that permits everything from then on, there is nothing left to show. -/
theorem Obeys.of_forall : ∀ {h : History Reply},
    (∀ h', h <+: h' → (∀ op, Pre h' op) ∧ ∀ result, Post h' result) →
      Obeys Valid Pre Post h p := by
  induction p with
  | done result => exact fun hall => (hall _ List.prefix_rfl).2 result
  | perform op next ih =>
    intro h hall
    exact ⟨(hall h List.prefix_rfl).1 op, fun reply _ => ih reply fun h' hext =>
      hall h' ((List.prefix_append _ _).trans hext)⟩

/-- What is known of the value when a program ends well; how else it ends is left open. -/
def Ensures (P : α → Prop) : History Reply → Except ε α → Prop :=
  fun _ result => ∀ a, result = .ok a → P a

theorem Obeys.returns {P : α → Prop} {a : α} (ha : P a) :
    Obeys Valid Pre (Ensures P) h (pure a : Program Op Reply ε α) := by
  rintro _ ⟨⟩
  exact ha

/-- Sequencing: the second part starts from what the first ensures, later. -/
theorem Obeys.thenEnsures {P : α → Prop} {Q : β → Prop} (hp : Obeys Valid Pre (Ensures P) h p)
    (hnext : ∀ h' a, h <+: h' → P a → Obeys Valid Pre (Ensures Q) h' (f a)) :
    Obeys Valid Pre (Ensures Q) h (p >>= f) :=
  hp.extends.andThen (fun h' a hpost => hnext h' a hpost.1 (hpost.2 a rfl)) fun _ _ _ => nofun

theorem Obeys.liftEnsures {Q : β → Prop} {x : Except ε α}
    (hok : ∀ a, x = .ok a → Obeys Valid Pre (Ensures Q) h (f a)) :
    Obeys Valid Pre (Ensures Q) h (Program.lift x >>= f) :=
  .lift hok fun _ _ => nofun

theorem Obeys.fails {Q : α → Prop} {e : ε} :
    Obeys Valid Pre (Ensures Q) h (Program.lift (.error e) : Program Op Reply ε α) := nofun

/-- Every operation of a history was permitted when it was performed. -/
def Followed (Pre : History Reply → Op → Prop) (h : History Reply) : Prop :=
  ∀ before event after, h = before ++ event :: after → Pre before event.1

theorem Followed.nil : Followed Pre [] := fun before event after h => by
  cases before <;> exact nomatch h

theorem Followed.snoc {op : Op} {reply : Reply op} (hf : Followed Pre h) (hpre : Pre h op) :
    Followed Pre (h ++ [⟨op, reply⟩]) := by
  intro before event after heq
  rcases List.eq_nil_or_concat after with rfl | ⟨after, last, rfl⟩
  · obtain ⟨rfl, hlast⟩ := List.append_inj' heq rfl
    cases hlast
    exact hpre
  · rw [List.concat_eq_append, ← List.cons_append, ← List.append_assoc] at heq
    obtain ⟨rfl, -⟩ := List.append_inj' heq rfl
    exact hf before event after rfl

/-! ## 3. Runs of one program -/

/-- The program performs just these operations, gets these replies, and ends so. -/
inductive Yields : Program Op Reply ε α → History Reply → Except ε α → Prop
  | done (result : Except ε α) : Yields (.done result) [] result
  | perform {op : Op} {next : Reply op → Program Op Reply ε α} {reply : Reply op}
      {h : History Reply} {result : Except ε α} (hnext : Yields (next reply) h result) :
      Yields (.perform op next) (⟨op, reply⟩ :: h) result

section

variable {h : History Reply} {a : α} {result : Except ε β}

/-- How a run ends well that starts with a computation. -/
theorem yields_lift_bind {x : Except ε α} {f : α → Program Op Reply ε β} {b : β} :
    Yields (lift x >>= f) h (.ok b) ↔ ∃ a, x = .ok a ∧ Yields (f a) h (.ok b) := by
  cases x with
  | ok a => exact ⟨fun hy => ⟨a, rfl, hy⟩, fun ⟨_, hx, hy⟩ => Except.ok.inj hx ▸ hy⟩
  | error e =>
    constructor
    · intro hy
      cases hy
    · exact fun ⟨_, hx, _⟩ => nomatch hx

theorem yields_lift {x : Except ε β} : Yields (lift x : Program Op Reply ε β) h result ↔
    h = [] ∧ x = result := by
  constructor
  · intro hy
    cases hy
    exact ⟨rfl, rfl⟩
  · rintro ⟨rfl, rfl⟩
    exact .done _

end

end Program

/-! ## 4. Pools -/

variable {Op : Type} {Reply : Op → Type} {ε α ρ σ C : Type}

/-- A call in progress: what was asked for, what is left to do, and what has been performed. -/
structure Call (Op : Type) (Reply : Op → Type) (ε α ρ : Type) where
  request : ρ
  rest : Program Op Reply ε α
  history : Program.History Reply

/-- The calls of a system and the state they share. -/
structure Pool (Op : Type) (Reply : Op → Type) (ε α ρ σ : Type) where
  shared : σ
  calls : List (Call Op Reply ε α ρ)

/-- A call starts, or performs its next operation. -/
inductive PoolLabel (ρ C : Type) where
  | start (request : ρ)
  | proceed (caller : Nat) (choice : C)

namespace Pool

variable (body : ρ → Program Op Reply ε α) (handle : (op : Op) → C → σ → Reply op × σ)

def step (pool : Pool Op Reply ε α ρ σ) : PoolLabel ρ C → Option (Pool Op Reply ε α ρ σ)
  | .start request => some { pool with calls := pool.calls ++ [⟨request, body request, []⟩] }
  | .proceed caller choice =>
    match pool.calls[caller]? with
    | some ⟨request, .perform op next, history⟩ =>
      let (reply, shared) := handle op choice pool.shared
      some ⟨shared, pool.calls.set caller ⟨request, next reply, history ++ [⟨op, reply⟩]⟩⟩
    | _ => none

variable {body handle} {pool pool' : Pool Op Reply ε α ρ σ}

variable {label : PoolLabel ρ C}

/-- **All a step can do.** -/
theorem step_cases (h : step body handle pool label = some pool') :
    (∃ request, label = .start request ∧
        pool' = { pool with calls := pool.calls ++ [⟨request, body request, []⟩] }) ∨
      ∃ caller choice request op next history, label = .proceed caller choice ∧
        pool.calls[caller]? = some ⟨request, .perform op next, history⟩ ∧
          pool' = ⟨(handle op choice pool.shared).2, pool.calls.set caller
            ⟨request, next (handle op choice pool.shared).1,
              history ++ [⟨op, (handle op choice pool.shared).1⟩]⟩⟩ := by
  cases label with
  | start request => exact .inl ⟨request, rfl, (Option.some.inj h).symm⟩
  | proceed caller choice =>
    rw [step] at h
    split at h
    · next request op next history hcall =>
      exact .inr ⟨caller, choice, request, op, next, history, rfl, hcall,
        (Option.some.inj h).symm⟩
    · exact nomatch h

/-- A program performs one operation on a state. -/
inductive Moves (handle : (op : Op) → C → σ → Reply op × σ) (choice : C) :
    σ → Program Op Reply ε α → (Σ op, Reply op) → σ → Program Op Reply ε α → Prop
  | perform {op : Op} {next : Reply op → Program Op Reply ε α} {reply : Reply op} {s t : σ}
      (hreply : handle op choice s = (reply, t)) :
      Moves handle choice s (.perform op next) ⟨op, reply⟩ t (next reply)

/-- A call that can move can proceed. -/
theorem Moves.step {caller : Nat} {choice : C} {request : ρ} {rest rest' : Program Op Reply ε α}
    {history : Program.History Reply} {event : Σ op, Reply op} {shared : σ}
    (h : Moves handle choice pool.shared rest event shared rest')
    (hcall : pool.calls[caller]? = some ⟨request, rest, history⟩) :
    Pool.step body handle pool (.proceed caller choice) =
      some ⟨shared, pool.calls.set caller ⟨request, rest', history ++ [event]⟩⟩ := by
  cases h with
  | perform hreply =>
    rw [Pool.step, hcall]
    simp only [hreply]

variable {Valid : ∀ op, Reply op → Prop} {Pre : ρ → Program.History Reply → Op → Prop}
  {Post : ρ → Program.History Reply → Except ε α → Prop} {Inv : σ → Prop}

/-- The invariant of the shared state holds, and every call has followed its conditions up to where
it stands and obeys them from there. -/
structure Keeps (Valid : ∀ op, Reply op → Prop) (Pre : ρ → Program.History Reply → Op → Prop)
    (Post : ρ → Program.History Reply → Except ε α → Prop) (Inv : σ → Prop)
    (pool : Pool Op Reply ε α ρ σ) : Prop where
  shared : Inv pool.shared
  followed : ∀ call ∈ pool.calls, Program.Followed (Pre call.request) call.history
  calls : ∀ call ∈ pool.calls,
    Program.Obeys Valid (Pre call.request) (Post call.request) call.history call.rest

/-- **The rule for pools**: if every program obeys its conditions, and every operation performed in
accordance with them gets a valid reply and keeps the invariant, then both are so in every
interleaving. -/
theorem Keeps.step
    (hbody : ∀ request, Program.Obeys Valid (Pre request) (Post request) [] (body request))
    (hhandle : ∀ request history op choice s, Inv s → Pre request history op → Valid op (handle op
      choice s).1 ∧ Inv (handle op choice s).2) (hpool : Keeps Valid Pre Post Inv pool)
    (hstep : step body handle pool label = some pool') : Keeps Valid Pre Post Inv pool' := by
  rcases step_cases hstep with ⟨request, -, rfl⟩ |
    ⟨caller, choice, request, op, next, history, -, hcall, rfl⟩
  · refine ⟨hpool.shared, fun call hcall => ?_, fun call hcall => ?_⟩
    · rcases List.mem_append.mp hcall with hcall | hcall
      · exact hpool.followed call hcall
      · rw [List.mem_singleton.mp hcall]
        exact .nil
    · rcases List.mem_append.mp hcall with hcall | hcall
      · exact hpool.calls call hcall
      · rw [List.mem_singleton.mp hcall]
        exact hbody request
  · have hmem := List.mem_of_getElem? hcall
    have hobeys := hpool.calls _ hmem
    obtain ⟨hvalid, hshared⟩ := hhandle request history op choice _ hpool.shared hobeys.1
    refine ⟨hshared, fun call hmem' => ?_, fun call hmem' => ?_⟩
    · rcases List.mem_or_eq_of_mem_set hmem' with hmem' | rfl
      · exact hpool.followed call hmem'
      · exact (hpool.followed _ hmem).snoc hobeys.1
    · rcases List.mem_or_eq_of_mem_set hmem' with hmem' | rfl
      · exact hpool.calls call hmem'
      · exact hobeys.2 _ hvalid

variable {labels : List (PoolLabel ρ C)}

theorem Keeps.run
    (hbody : ∀ request, Program.Obeys Valid (Pre request) (Post request) [] (body request))
    (hhandle : ∀ request history op choice s, Inv s → Pre request history op → Valid op (handle op
      choice s).1 ∧ Inv (handle op choice s).2) (hpool : Keeps Valid Pre Post Inv pool)
    (hrun : Transition.run (Pool.step body handle) pool labels = some pool') :
    Keeps Valid Pre Post Inv pool' :=
  Transition.run_invariant (fun _ _ _ hs (_ : True) hstep => hs.step hbody hhandle hstep) hpool
    (Transition.guarded_true _ _) hrun

/-- An invariant of the shared state that every operation keeps, whoever performs it. -/
theorem shared_invariant (hinv : ∀ op choice s, Inv s → Inv (handle op choice s).2)
    (hinit : Inv pool.shared) (hrun : Transition.run (step body handle) pool labels = some pool') :
    Inv pool'.shared := by
  have hstep : ∀ (s : Pool Op Reply ε α ρ σ) (label : PoolLabel ρ C) t, Inv s.shared → True →
      step body handle s label = some t → Inv t.shared := by
    intro s label t hs _ hstep
    rcases step_cases hstep with ⟨_, _, rfl⟩ | ⟨_, choice, _, op, _, _, _, _, rfl⟩
    · exact hs
    · exact hinv op choice _ hs
  exact Transition.run_invariant hstep hinit (Transition.guarded_true _ _) hrun

/-- A call stays where it is, and its history grows. -/
theorem step_getElem (h : step body handle pool label = some pool') {i : Nat}
    {call : Call Op Reply ε α ρ} (hcall : pool.calls[i]? = some call) :
    ∃ call', pool'.calls[i]? = some call' ∧ call'.request = call.request ∧
      call.history <+: call'.history := by
  rcases step_cases h with ⟨_, _, rfl⟩ | ⟨caller, choice, request, op, next, history, _, hat, rfl⟩
  · refine ⟨call, ?_, rfl, List.prefix_rfl⟩
    rw [List.getElem?_append_left (List.getElem?_eq_some_iff.mp hcall).1]
    exact hcall
  · by_cases hi : caller = i
    · subst hi
      obtain rfl := Option.some.inj (hat.symm.trans hcall)
      exact ⟨_, List.getElem?_set_self (List.getElem?_eq_some_iff.mp hcall).1, rfl,
        List.prefix_append _ _⟩
    · exact ⟨call, by rw [List.getElem?_set_ne hi, hcall], rfl, List.prefix_rfl⟩

theorem run_getElem : ∀ {pool : Pool Op Reply ε α ρ σ},
    Transition.run (step body handle) pool labels = some pool' →
      ∀ {i : Nat} {call : Call Op Reply ε α ρ}, pool.calls[i]? = some call →
        ∃ call', pool'.calls[i]? = some call' ∧ call'.request = call.request ∧
          call.history <+: call'.history := by
  induction labels with
  | nil =>
    intro pool hrun i call hcall
    obtain rfl := Option.some.inj hrun
    exact ⟨call, hcall, rfl, List.prefix_rfl⟩
  | cons label labels ih =>
    intro pool hrun i call hcall
    obtain ⟨middle, hstep, hrun⟩ := Transition.run_cons_eq_some.mp hrun
    obtain ⟨call₁, hcall₁, hrequest₁, hext₁⟩ := step_getElem hstep hcall
    obtain ⟨call₂, hcall₂, hrequest₂, hext₂⟩ := ih hrun hcall₁
    exact ⟨call₂, hcall₂, hrequest₂.trans hrequest₁, hext₁.trans hext₂⟩

/-- **What a fact about the shared state comes from**: an operation in the history of a call. -/
theorem caused {fact : σ → Prop} {cause : (Σ op, Reply op) → Prop}
    (hinv : ∀ op choice s, Inv s → Inv (handle op choice s).2)
    (hcause : ∀ op choice s, Inv s → fact (handle op choice s).2 → fact s ∨ cause ⟨op, (handle op
      choice s).1⟩) (hinit : Inv pool.shared) (hnot : ¬fact pool.shared)
    (hrun : Transition.run (step body handle) pool labels = some pool')
    (hfact : fact pool'.shared) : ∃ call ∈ pool'.calls, ∃ event ∈ call.history, cause event := by
  induction labels using List.reverseRecOn generalizing pool' with
  | nil =>
    obtain rfl := Option.some.inj hrun
    exact absurd hfact hnot
  | append_singleton labels label ih =>
    obtain ⟨middle, hmiddle, hstep⟩ := Transition.run_snoc_eq_some.mp hrun
    have hearlier : fact middle.shared →
        ∃ call ∈ pool'.calls, ∃ event ∈ call.history, cause event := by
      intro hmid
      obtain ⟨call, hcall, event, hevent, hcauses⟩ := ih hmiddle hmid
      obtain ⟨i, hi⟩ := List.mem_iff_getElem?.mp hcall
      obtain ⟨call', hcall', _, hext⟩ := step_getElem hstep hi
      exact ⟨call', List.mem_of_getElem? hcall', event, hext.subset hevent, hcauses⟩
    rcases step_cases hstep with ⟨_, _, rfl⟩ |
      ⟨caller, choice, request, op, next, history, _, hat, rfl⟩
    · exact hearlier hfact
    · rcases hcause op choice _ (shared_invariant hinv hinit hmiddle) hfact with hmid | hcauses
      · exact hearlier hmid
      · have hself := List.getElem?_set_self (a := (⟨request, next (handle op choice middle.shared).1,
          history ++ [⟨op, (handle op choice middle.shared).1⟩]⟩ : Call Op Reply ε α ρ))
          (List.getElem?_eq_some_iff.mp hat).1
        exact ⟨_, List.mem_of_getElem? hself, _,
          List.mem_append_right _ (List.mem_singleton.mpr rfl), hcauses⟩

/-- Events of a kind have happened in one call at most, and have left their mark. -/
structure Once (kind : (Σ op, Reply op) → Prop) (mark : σ → Prop) (pool : Pool Op Reply ε α ρ σ) :
    Prop where
  marked : ∀ call ∈ pool.calls, ∀ event ∈ call.history, kind event → mark pool.shared
  once : ∀ (i j : Nat) (call call' : Call Op Reply ε α ρ), pool.calls[i]? = some call →
    pool.calls[j]? = some call' → (∃ event ∈ call.history, kind event) →
      (∃ event ∈ call'.history, kind event) → i = j

/-- **When an event happens once**: it leaves a mark that stays, and does not happen where the mark
is. -/
theorem Once.step {kind : (Σ op, Reply op) → Prop} {mark : σ → Prop}
    (hmark : ∀ op choice s, Inv s → kind ⟨op, (handle op choice s).1⟩ → mark (handle op choice s).2)
    (hstays : ∀ op choice s, Inv s → mark s → mark (handle op choice s).2)
    (hshared : Inv pool.shared) (h : Once kind mark pool)
    (hfresh : ∀ caller choice request op next history, label = .proceed caller choice →
      pool.calls[caller]? = some ⟨request, .perform op next, history⟩ → kind ⟨op, (handle op
      choice pool.shared).1⟩ → ¬mark pool.shared)
    (hstep : Pool.step body handle pool label = some pool') :
    Once kind mark pool' := by
  rcases step_cases hstep with ⟨request, _, rfl⟩ |
    ⟨caller, choice, request, op, next, history, hlabel, hat, rfl⟩
  · -- the new call has no history
    have hold : ∀ (i : Nat) (call : Call Op Reply ε α ρ),
        (pool.calls ++ [⟨request, body request, []⟩])[i]? = some call →
          (∃ event ∈ call.history, kind event) → pool.calls[i]? = some call := by
      rintro i call hcall ⟨event, hevent, _⟩
      rw [List.getElem?_append] at hcall
      split at hcall
      · exact hcall
      · have hmem := List.mem_of_getElem? hcall
        rw [List.mem_singleton.mp hmem] at hevent
        exact absurd hevent List.not_mem_nil
    refine ⟨fun call hcall event hevent hkind => ?_, fun i j call call' hi hj hk hk' => ?_⟩
    · obtain ⟨i, hi⟩ := List.mem_iff_getElem?.mp hcall
      exact h.marked call (List.mem_of_getElem? (hold i call hi ⟨event, hevent, hkind⟩)) event
        hevent hkind
    · exact h.once i j call call' (hold i call hi hk) (hold j call' hj hk') hk hk'
  · have hinside := (List.getElem?_eq_some_iff.mp hat).1
    -- a call's events after the step are its events before it, and the new one
    have hsplit : ∀ (i : Nat) (call : Call Op Reply ε α ρ), (pool.calls.set caller
        ⟨request, next (handle op choice pool.shared).1,
          history ++ [⟨op, (handle op choice pool.shared).1⟩]⟩)[i]? = some call →
        (∃ event ∈ call.history, kind event) →
          (i = caller ∧ kind ⟨op, (handle op choice pool.shared).1⟩) ∨
            ∃ call₀, pool.calls[i]? = some call₀ ∧ ∃ event ∈ call₀.history, kind event := by
      rintro i call hcall ⟨event, hevent, hkind⟩
      by_cases hi : caller = i
      · subst hi
        rw [List.getElem?_set_self hinside] at hcall
        obtain rfl := Option.some.inj hcall
        rcases List.mem_append.mp hevent with hevent | hevent
        · exact .inr ⟨_, hat, event, hevent, hkind⟩
        · rw [List.mem_singleton.mp hevent] at hkind
          exact .inl ⟨rfl, hkind⟩
      · rw [List.getElem?_set_ne hi] at hcall
        exact .inr ⟨call, hcall, event, hevent, hkind⟩
    have hnone : kind ⟨op, (handle op choice pool.shared).1⟩ → ∀ (i : Nat)
        (call : Call Op Reply ε α ρ), pool.calls[i]? = some call →
          ¬∃ event ∈ call.history, kind event := by
      rintro hkind i call hcall ⟨event, hevent, hkind'⟩
      exact hfresh caller choice request op next history hlabel hat hkind
        (h.marked call (List.mem_of_getElem? hcall) event hevent hkind')
    refine ⟨fun call hcall event hevent hkind => ?_, fun i j call call' hi hj hk hk' => ?_⟩
    · obtain ⟨i, hi⟩ := List.mem_iff_getElem?.mp hcall
      rcases hsplit i call hi ⟨event, hevent, hkind⟩ with ⟨_, hnew⟩ | ⟨call₀, h₀, event₀, he, hk⟩
      · exact hmark op choice _ hshared hnew
      · exact hstays op choice _ hshared (h.marked call₀ (List.mem_of_getElem? h₀) event₀ he hk)
    · rcases hsplit i call hi hk with ⟨rfl, hnew⟩ | ⟨call₀, h₀, hk₀⟩
      · rcases hsplit j call' hj hk' with ⟨rfl, _⟩ | ⟨call₁, h₁, hk₁⟩
        · rfl
        · exact absurd hk₁ (hnone hnew j call₁ h₁)
      · rcases hsplit j call' hj hk' with ⟨rfl, hnew⟩ | ⟨call₁, h₁, hk₁⟩
        · exact absurd hk₀ (hnone hnew i call₀ h₀)
        · exact h.once i j call₀ call₁ h₀ h₁ hk₀ hk₁

/-- **What a call has performed was performed in the run**: by a step from a state that the
operation got its reply from. -/
theorem performed : ∀ {pool : Pool Op Reply ε α ρ σ},
    pool.calls = [] → Transition.run (step body handle) pool labels = some pool' →
      ∀ call ∈ pool'.calls, ∀ event ∈ call.history, ∃ before label after s t choice,
        labels = before ++ label :: after ∧
          Transition.run (step body handle) pool before = some s ∧
            step body handle s label = some t ∧
              handle event.1 choice s.shared = (event.2, t.shared) := by
  induction labels using List.reverseRecOn generalizing pool' with
  | nil =>
    intro pool hempty hrun call hcall
    obtain rfl := Option.some.inj hrun
    rw [hempty] at hcall
    exact nomatch hcall
  | append_singleton labels label ih =>
    intro pool hempty hrun call hcall event hevent
    obtain ⟨middle, hmiddle, hstep⟩ := Transition.run_snoc_eq_some.mp hrun
    have hearlier : ∀ call ∈ middle.calls, ∀ event ∈ call.history, ∃ before label' after s t choice,
        labels ++ [label] = before ++ label' :: after ∧
          Transition.run (step body handle) pool before = some s ∧
            step body handle s label' = some t ∧
              handle event.1 choice s.shared = (event.2, t.shared) := by
      intro call hcall event hevent
      obtain ⟨before, label', after, s, t, choice, rfl, hrun, hstep', hreply⟩ :=
        ih hempty hmiddle call hcall event hevent
      exact ⟨before, label', after ++ [label], s, t, choice, List.append_assoc _ _ _, hrun, hstep',
        hreply⟩
    rcases step_cases hstep with ⟨request, -, rfl⟩ |
      ⟨caller, choice, request, op, next, history, -, hcaller, rfl⟩
    · rcases List.mem_append.mp hcall with hcall | hcall
      · exact hearlier call hcall event hevent
      · rw [List.mem_singleton.mp hcall] at hevent
        exact nomatch hevent
    · rcases List.mem_or_eq_of_mem_set hcall with hcall | rfl
      · exact hearlier call hcall event hevent
      · rcases List.mem_append.mp hevent with hevent | hevent
        · exact hearlier _ (List.mem_of_getElem? hcaller) event hevent
        · rw [List.mem_singleton.mp hevent]
          exact ⟨labels, label, [], middle, _, choice, rfl, hmiddle, hstep, rfl⟩

end Pool
