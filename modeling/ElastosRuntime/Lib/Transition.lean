/-
# Runs of a labelled transition function

Every concurrent or long-lived component below is a partial function
`step : σ → ℓ → Option σ`: the label says which operation takes its next atomic step and
supplies what the environment chooses (clock readings, fresh identifiers, whether a write
reaches the disk), and `none` says that the label is not enabled in the state.  This file has
what those components share and names none of them.

* `run` is the run along a list of labels, and `Guarded` says that every step of it meets a
  condition on the label and on the state before the step.
* `run_invariant` and `run_relation` are the two induction rules: what one step preserves, a
  whole run preserves.
* `trace` collects what the steps of a run emit, and `trace_countP_le` bounds how often an event
  of a kind is emitted by a potential that every such event pays for.
-/
import Mathlib.Algebra.Order.Ring.Nat
import Mathlib.Data.List.Basic

namespace Transition

variable {σ ℓ ε : Type} (step : σ → ℓ → Option σ)

/-! ## 1. Runs -/

/-- The state after the labels of the list, in order; `none` once a label is not enabled. -/
def run : σ → List ℓ → Option σ
  | s, [] => some s
  | s, l :: ls => (step s l).bind fun t => run t ls

@[simp] theorem run_nil (s : σ) : run step s [] = some s := rfl

variable {step}

variable {s u t : σ} {l : ℓ} {ls ks : List ℓ}

/-- A nonempty run is a first step and a run from where it leads. -/
theorem run_cons_eq_some :
    run step s (l :: ls) = some u ↔ ∃ t, step s l = some t ∧ run step t ls = some u := by
  simp [run, Option.bind_eq_some_iff]

/-- Runs compose. -/
theorem run_append_eq_some : ∀ {s : σ},
    run step s (ls ++ ks) = some u ↔ ∃ t, run step s ls = some t ∧ run step t ks = some u := by
  induction ls with
  | nil => intro s; simp
  | cons l ls ih =>
    intro s
    simp only [List.cons_append, run_cons_eq_some, ih]
    constructor
    · rintro ⟨t, hst, v, hv, hu⟩
      exact ⟨v, ⟨t, hst, hv⟩, hu⟩
    · rintro ⟨v, ⟨t, hst, hv⟩, hu⟩
      exact ⟨t, hst, v, hv, hu⟩

/-- One more step at the end of a run. -/
theorem run_snoc_eq_some :
    run step s (ls ++ [l]) = some u ↔ ∃ t, run step s ls = some t ∧ step t l = some u := by
  rw [run_append_eq_some]
  simp [run_cons_eq_some]

variable (step)

/-- A state some run from an initial state ends in. -/
def Reachable (init : σ → Prop) (s : σ) : Prop := ∃ s₀ ls, init s₀ ∧ run step s₀ ls = some s

/-! ## 2. Guarded runs -/

/-- Every step the run takes meets `guard`, read at the state before the step. -/
def Guarded (guard : σ → ℓ → Prop) : σ → List ℓ → Prop
  | _, [] => True
  | s, l :: ls => guard s l ∧ ∀ t, step s l = some t → Guarded guard t ls

variable {step}

variable {guard : σ → ℓ → Prop}

@[simp] theorem guarded_nil : Guarded step guard s [] :=
  trivial

/-- An enabled step that meets the guard extends a guarded run. -/
theorem Guarded.cons (hst : step s l = some t) (hg : guard s l) (h : Guarded step guard t ls) :
    Guarded step guard s (l :: ls) := by
  refine ⟨hg, fun u hu => ?_⟩
  rw [hst, Option.some.injEq] at hu
  exact hu ▸ h

/-- A guarded run's first step meets the guard, and the rest of the run is guarded. -/
theorem Guarded.tail (h : Guarded step guard s (l :: ls)) (hst : step s l = some t) :
    guard s l ∧ Guarded step guard t ls := ⟨h.1, h.2 t hst⟩

/-- A guarded run splits into two guarded runs. -/
theorem Guarded.of_append : ∀ {ls : List ℓ} {s t : σ},
    Guarded step guard s (ls ++ ks) → run step s ls = some t →
      Guarded step guard s ls ∧ Guarded step guard t ks
  | [], s, t, h, hr => by
    rw [run_nil, Option.some.injEq] at hr
    subst hr
    exact ⟨trivial, h⟩
  | l :: ls, s, t, h, hr => by
    obtain ⟨u, hsu, hut⟩ := run_cons_eq_some.mp hr
    have hrest := Guarded.of_append (h.2 u hsu) hut
    refine ⟨⟨h.1, fun v hv => ?_⟩, hrest.2⟩
    rw [hsu, Option.some.injEq] at hv
    exact hv ▸ hrest.1

/-- A guard that follows from another one and a condition every label of the run meets. -/
theorem Guarded.mono_mem {guard' : σ → ℓ → Prop} {P : ℓ → Prop}
    (himp : ∀ s l, guard s l → P l → guard' s l) :
    ∀ {ls : List ℓ} {s : σ}, Guarded step guard s ls → (∀ l ∈ ls, P l) →
      Guarded step guard' s ls
  | [], _, _, _ => trivial
  | l :: _, s, h, hall => ⟨himp s l h.1 (hall l List.mem_cons_self), fun t hst =>
      Guarded.mono_mem himp (h.2 t hst) fun k hk => hall k (List.mem_cons_of_mem l hk)⟩

/-- A condition on the labels alone guards a run when every label meets it. -/
theorem Guarded.of_forall_mem :
    ∀ {ls : List ℓ} {s : σ}, (∀ l ∈ ls, ∀ s, guard s l) → Guarded step guard s ls
  | [], _, _ => trivial
  | l :: _, s, h => ⟨h l List.mem_cons_self s, fun _ _ =>
      Guarded.of_forall_mem fun k hk => h k (List.mem_cons_of_mem l hk)⟩

/-- The guard that asks nothing. -/
theorem guarded_true : ∀ (ls : List ℓ) (s : σ), Guarded step (fun _ _ => True) s ls
  | [], _ => trivial
  | _ :: ls, _ => ⟨trivial, fun t _ => guarded_true ls t⟩

/-! ## 3. What a step preserves, a run preserves -/

variable {Inv : σ → Prop}

/-- **The invariant rule.** -/
theorem run_invariant (hstep : ∀ s l t, Inv s → guard s l → step s l = some t → Inv t) :
    ∀ {ls : List ℓ} {s t : σ}, Inv s → Guarded step guard s ls → run step s ls = some t → Inv t
  | [], s, t, hs, _, hr => by
    rw [run_nil, Option.some.injEq] at hr
    exact hr ▸ hs
  | l :: ls, s, t, hs, hg, hr => by
    obtain ⟨u, hsu, hut⟩ := run_cons_eq_some.mp hr
    exact run_invariant hstep (hstep s l u hs hg.1 hsu) (hg.2 u hsu) hut

/-- An invariant that implies a second guard turns runs guarded by the first into runs guarded
by the second. -/
theorem Guarded.of_invariant {guard' : σ → ℓ → Prop} :
    ∀ {ls : List ℓ} {s : σ}, Guarded step guard s ls →
      (∀ s l t, Inv s → guard s l → step s l = some t → Inv t) →
      (∀ s l, Inv s → guard s l → guard' s l) → Inv s → Guarded step guard' s ls
  | [], _, _, _, _, _ => trivial
  | l :: _, s, hg, hstep, himp, hs => ⟨himp s l hs hg.1, fun t hst =>
      Guarded.of_invariant (hg.2 t hst) hstep himp (hstep s l t hs hg.1 hst)⟩

/-- **The relation rule**: a relation that is reflexive and transitive on the states of an
invariant, and that every step of a guarded run respects, relates the two ends of the run. -/
theorem run_relation {R : σ → σ → Prop} (hrefl : ∀ s, Inv s → R s s)
    (htrans : ∀ s t u, Inv s → R s t → R t u → R s u)
    (hstep : ∀ s l t, Inv s → guard s l → step s l = some t → Inv t ∧ R s t) :
    ∀ {ls : List ℓ} {s t : σ},
      Inv s → Guarded step guard s ls → run step s ls = some t → Inv t ∧ R s t
  | [], s, t, hs, _, hr => by
    rw [run_nil, Option.some.injEq] at hr
    subst hr
    exact ⟨hs, hrefl s hs⟩
  | l :: ls, s, t, hs, hg, hr => by
    obtain ⟨u, hsu, hut⟩ := run_cons_eq_some.mp hr
    obtain ⟨hu, hRu⟩ := hstep s l u hs hg.1 hsu
    obtain ⟨ht, hRt⟩ := run_relation hrefl htrans hstep hu (hg.2 u hsu) hut
    exact ⟨ht, htrans s u t hs hRu hRt⟩

variable (step) in
/-- Every state the run passes through, its first and its last included, satisfies `P`. -/
def Always (P : σ → Prop) : σ → List ℓ → Prop
  | s, [] => P s
  | s, l :: ls => P s ∧ ∀ t, step s l = some t → Always P t ls

/-- What holds of the first state and is kept by every step holds all along. -/
theorem always_of_invariant (hstep : ∀ s l t, Inv s → step s l = some t → Inv t) :
    ∀ {ls : List ℓ} {s : σ}, Inv s → Always step Inv s ls
  | [], _, hs => hs
  | _ :: _, s, hs => ⟨hs, fun t hst => always_of_invariant hstep (hstep s _ t hs hst)⟩

/-- **When a guard is exact**: if a step from an invariant state keeps the invariant exactly when
it meets the guard, the runs all of whose states satisfy the invariant are the guarded ones. -/
theorem always_iff_guarded (hstep : ∀ s l t, Inv s → step s l = some t → (Inv t ↔ guard s l)) :
    ∀ {ls : List ℓ} {s t : σ}, Inv s → run step s ls = some t →
      (Always step Inv s ls ↔ Guarded step guard s ls)
  | [], _, _, hs, _ => ⟨fun _ => trivial, fun _ => hs⟩
  | l :: ls, s, t, hs, hr => by
    obtain ⟨u, hsu, hut⟩ := run_cons_eq_some.mp hr
    constructor
    · intro h
      have hfirst : Always step Inv u ls := h.2 u hsu
      have hu : Inv u := by
        cases ls with
        | nil => exact hfirst
        | cons _ _ => exact hfirst.1
      exact Guarded.cons hsu ((hstep s l u hs hsu).mp hu)
        ((always_iff_guarded hstep hu hut).mp hfirst)
    · intro h
      have hu := (hstep s l u hs hsu).mpr h.1
      refine ⟨hs, fun v hv => ?_⟩
      rw [hsu, Option.some.injEq] at hv
      exact hv ▸ (always_iff_guarded hstep hu hut).mpr (h.2 u hsu)

/-- An invariant of every step holds in every reachable state. -/
theorem Reachable.invariant {init : σ → Prop} (hinit : ∀ s, init s → Inv s)
    (hstep : ∀ s l t, Inv s → step s l = some t → Inv t) {s : σ} (h : Reachable step init s) :
    Inv s := by
  obtain ⟨s₀, ls, h₀, hr⟩ := h
  exact run_invariant (fun s l t hs _ => hstep s l t hs) (hinit s₀ h₀) (guarded_true ls s₀) hr

/-- A run extends what is reachable. -/
theorem Reachable.run {init : σ → Prop} (h : Reachable step init s)
    (hr : Transition.run step s ls = some t) : Reachable step init t := by
  obtain ⟨s₀, ks, h₀, hk⟩ := h
  exact ⟨s₀, ks ++ ls, h₀, run_append_eq_some.mpr ⟨s, hk, hr⟩⟩

/-! ## 4. What the steps of a run emit -/

variable (step) in
/-- Everything the enabled steps of the run emit, in order. -/
def trace (emit : σ → ℓ → List ε) : σ → List ℓ → List ε
  | _, [] => []
  | s, l :: ls =>
    match step s l with
    | some t => emit s l ++ trace emit t ls
    | none => []

@[simp] theorem trace_nil (emit : σ → ℓ → List ε) (s : σ) : trace step emit s [] = [] := rfl

variable {emit : σ → ℓ → List ε}

theorem trace_cons (hst : step s l = some t) :
    trace step emit s (l :: ls) = emit s l ++ trace step emit t ls := by
  simp [trace, hst]

/-- The trace of a composed run is the composition of the traces. -/
theorem trace_append : ∀ {ls : List ℓ} {s t : σ},
    run step s ls = some t →
      trace step emit s (ls ++ ks) = trace step emit s ls ++ trace step emit t ks
  | [], s, t, hr => by
    rw [run_nil, Option.some.injEq] at hr
    subst hr
    rfl
  | l :: ls, s, t, hr => by
    obtain ⟨u, hsu, hut⟩ := run_cons_eq_some.mp hr
    rw [List.cons_append, trace_cons hsu, trace_cons hsu, trace_append hut, List.append_assoc]

/-- What every emitted event satisfies, every event of a trace satisfies. -/
theorem forall_mem_trace {P : ε → Prop} (hstep : ∀ s l, ∀ e ∈ emit s l, P e) :
    ∀ (ls : List ℓ) (s : σ), ∀ e ∈ trace step emit s ls, P e
  | [], _, _, he => absurd he List.not_mem_nil
  | l :: ls, s, e, he => by
    cases hst : step s l with
    | none => simp [trace, hst] at he
    | some t =>
      rw [trace_cons hst, List.mem_append] at he
      rcases he with he | he
      · exact hstep s l e he
      · exact forall_mem_trace hstep ls t e he

/-- **The trace rule**: a relation between a state, what is emitted from it on and a later state,
that composes along runs and that every step of a guarded run respects, holds of whole runs. -/
theorem run_trace {R : σ → List ε → σ → Prop} (hnil : ∀ s, R s [] s)
    (happend : ∀ s es t fs u, R s es t → R t fs u → R s (es ++ fs) u)
    (hstep : ∀ s l t, guard s l → step s l = some t → R s (emit s l) t) :
    ∀ {ls : List ℓ} {s t : σ}, Guarded step guard s ls → run step s ls = some t →
      R s (trace step emit s ls) t
  | [], s, t, _, hr => by
    rw [run_nil, Option.some.injEq] at hr
    exact hr ▸ hnil s
  | l :: ls, s, t, hg, hr => by
    obtain ⟨u, hsu, hut⟩ := run_cons_eq_some.mp hr
    rw [trace_cons hsu]
    exact happend s _ u _ t (hstep s l u hg.1 hsu) (run_trace hnil happend hstep (hg.2 u hsu) hut)

/-- **The potential rule**: if every step of a guarded run pays for the `p`-events it emits out
of a potential, the run emits no more of them than the potential it starts with. -/
theorem trace_countP_le {p : ε → Bool} {potential : σ → Nat}
    (hstep : ∀ s l t, Inv s → guard s l → step s l = some t → Inv t ∧ (emit s l).countP p +
      potential t ≤ potential s) :
    ∀ {ls : List ℓ} {s : σ}, Inv s → Guarded step guard s ls →
      (trace step emit s ls).countP p ≤ potential s
  | [], s, _, _ => Nat.zero_le _
  | l :: ls, s, hs, hg => by
    cases hst : step s l with
    | none => simp [trace, hst]
    | some t =>
      obtain ⟨ht, hhead⟩ := hstep s l t hs hg.1 hst
      have htail := trace_countP_le hstep ht (hg.2 t hst)
      rw [trace_cons hst, List.countP_append]
      omega

/-- The events that one of several conditions holds of are at most the sum of the events each
holds of. -/
theorem countP_any_le {ι : Type} (p : ι → ε → Bool) (tr : List ε) : ∀ is : List ι,
    tr.countP (fun e => is.any fun i => p i e) ≤ (is.map fun i => tr.countP (p i)).sum
  | [] => by simp
  | i :: is => by
    have hor : tr.countP (fun e => (i :: is).any fun i => p i e) ≤
        tr.countP (p i) + tr.countP (fun e => is.any fun i => p i e) := by
      induction tr with
      | nil => simp
      | cons e tr ih =>
        simp only [List.countP_cons, List.any_cons] at ih ⊢
        cases p i e <;> cases is.any (fun i => p i e) <;> simp <;> omega
    have htail := countP_any_le p tr is
    rw [List.map_cons, List.sum_cons]
    omega

end Transition
