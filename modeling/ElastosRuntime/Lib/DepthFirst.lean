/-
# Collecting what is reachable, depth first

A recursive function goes through the successors of a node in order, adds each that it has not seen
to a list and then collects from there.  `Visits` is its meaning: a derivation is a run that ends,
with the list or with an error.

Nothing is remembered of the nodes whose successors are still being gone through but the list, and
the node a search starts from is not on it.  `Explored` is the invariant that carries the argument
all the same: of what a call adds, every successor but itself is on the list it returns.  So a list
collected from nothing holds, with the start, exactly what can be reached (`mem_visits_iff`), and an
error comes of a malformed node that can be reached (`visits_error_iff`).
-/
import Mathlib.Logic.Relation

namespace DepthFirst

section

variable {α ε : Type} (succs : α → Except ε (List (Except ε α))) (wanted : α → Prop)

/-! ## 1. Runs -/

mutual

/-- From a node and what has been seen, what comes of collecting. -/
inductive Visits : α → List α → Except ε (List α) → Prop where
  | refused {x : α} {seen : List α} {e : ε} (h : succs x = .error e) : Visits x seen (.error e)
  | each {x : α} {seen : List α} {ys : List (Except ε α)} {r : Except ε (List α)}
      (h : succs x = .ok ys) (rest : VisitsAll x ys seen r) : Visits x seen r

/-- The loop over the successors of a node. -/
inductive VisitsAll : α → List (Except ε α) → List α → Except ε (List α) → Prop where
  | done {x : α} {seen : List α} : VisitsAll x [] seen (.ok seen)
  | refused {x : α} {ys : List (Except ε α)} {seen : List α} {e : ε} :
      VisitsAll x (.error e :: ys) seen (.error e)
  | passed {x y : α} {ys : List (Except ε α)} {seen : List α} {r : Except ε (List α)}
      (h : ¬(y ≠ x ∧ wanted y ∧ y ∉ seen)) (rest : VisitsAll x ys seen r) :
      VisitsAll x (.ok y :: ys) seen r
  | failed {x y : α} {ys : List (Except ε α)} {seen : List α} {e : ε}
      (h : y ≠ x ∧ wanted y ∧ y ∉ seen) (inner : Visits y (seen ++ [y]) (.error e)) :
      VisitsAll x (.ok y :: ys) seen (.error e)
  | entered {x y : α} {ys : List (Except ε α)} {seen seen' : List α} {r : Except ε (List α)}
      (h : y ≠ x ∧ wanted y ∧ y ∉ seen) (inner : Visits y (seen ++ [y]) (.ok seen'))
      (rest : VisitsAll x ys seen' r) : VisitsAll x (.ok y :: ys) seen r

end

section

variable {succs wanted}

mutual

/-- From a node and a list one thing comes of collecting. -/
theorem Visits.unique : ∀ {x : α} {seen : List α} {r r' : Except ε (List α)},
    Visits succs wanted x seen r → Visits succs wanted x seen r' → r = r'
  | _, _, _, _, .refused h, .refused h' => congrArg _ (Except.error.inj (h.symm.trans h'))
  | _, _, _, _, .refused h, .each h' _ => by
    rw [h] at h'
    cases h'
  | _, _, _, _, .each h _, .refused h' => by
    rw [h] at h'
    cases h'
  | _, _, _, _, .each h rest, .each h' rest' => by
    obtain rfl := Except.ok.inj (h.symm.trans h')
    exact rest.unique rest'

theorem VisitsAll.unique : ∀ {x : α} {ys : List (Except ε α)} {seen : List α}
    {r r' : Except ε (List α)},
    VisitsAll succs wanted x ys seen r → VisitsAll succs wanted x ys seen r' → r = r'
  | _, _, _, _, _, .done, .done => rfl
  | _, _, _, _, _, .refused, .refused => rfl
  | _, _, _, _, _, .passed _ rest, .passed _ rest' => rest.unique rest'
  | _, _, _, _, _, .passed h _, .failed h' _ => absurd h' h
  | _, _, _, _, _, .passed h _, .entered h' _ _ => absurd h' h
  | _, _, _, _, _, .failed h _, .passed h' _ => absurd h h'
  | _, _, _, _, _, .failed _ inner, .failed _ inner' => by
    have hsame := inner.unique inner'
    rw [Except.error.inj hsame]
  | _, _, _, _, _, .failed _ inner, .entered _ inner' _ => by cases inner.unique inner'
  | _, _, _, _, _, .entered h _ _, .passed h' _ => absurd h h'
  | _, _, _, _, _, .entered _ inner _, .failed _ inner' => by cases inner.unique inner'
  | _, _, _, _, _, .entered _ inner rest, .entered _ inner' rest' => by
    obtain rfl := Except.ok.inj (inner.unique inner')
    exact rest.unique rest'

end

end

/-- A successor that is wanted. -/
def Edge (x y : α) : Prop := wanted y ∧ ∃ ys, succs x = .ok ys ∧ .ok y ∈ ys

abbrev Reaches : α → α → Prop := Relation.ReflTransGen (Edge succs wanted)

/-- The successors of a node cannot be told, or one of them. -/
def Malformed (x : α) : Prop :=
  (∃ e, succs x = .error e) ∨ ∃ ys e, succs x = .ok ys ∧ .error e ∈ ys

/-! ## 2. What a run collects -/

/-- The successors of a node are told, and all wanted ones but itself are on the list. -/
structure Closed (seen : List α) (x : α) : Prop where
  wellFormed : ¬Malformed succs x
  successors : ∀ y, Edge succs wanted x y → y = x ∨ y ∈ seen

/-- What a run makes of a list that has been seen. -/
structure Explored (start : α) (seen seen' : List α) : Prop where
  kept : seen ⊆ seen'
  nodup : seen.Nodup → seen'.Nodup
  reached : ∀ y ∈ seen', y ∈ seen ∨ Reaches succs wanted start y
  asked : ∀ y ∈ seen', y ∈ seen ∨ wanted y
  closed : ∀ y ∈ seen', y ∈ seen ∨ Closed succs wanted seen' y

variable {succs wanted} {x y : α} {seen middle seen' : List α}

theorem Closed.mono (h : Closed succs wanted seen x) (hsub : seen ⊆ seen') :
    Closed succs wanted seen' x :=
  ⟨h.wellFormed, fun y hy => (h.successors y hy).imp id (hsub ·)⟩

theorem Explored.refl (x : α) (seen : List α) : Explored succs wanted x seen seen :=
  ⟨List.Subset.refl _, id, fun _ h => .inl h, fun _ h => .inl h, fun _ h => .inl h⟩

theorem Explored.trans (h : Explored succs wanted x seen middle)
    (h' : Explored succs wanted x middle seen') : Explored succs wanted x seen seen' where
  kept := List.Subset.trans h.kept h'.kept
  nodup hnodup := h'.nodup (h.nodup hnodup)
  reached y hy := (h'.reached y hy).elim (h.reached y) .inr
  asked y hy := (h'.asked y hy).elim (h.asked y) .inr
  closed y hy := (h'.closed y hy).elim
    (fun hmiddle => (h.closed y hmiddle).imp id (·.mono h'.kept)) .inr

/-- A successor is added and collected from. -/
theorem Explored.enter (hedge : Edge succs wanted x y) (hnew : y ∉ seen)
    (h : Explored succs wanted y (seen ++ [y]) seen') (hclosed : Closed succs wanted seen' y) :
    Explored succs wanted x seen seen' where
  kept := List.Subset.trans (List.subset_append_left _ _) h.kept
  nodup hnodup := h.nodup (List.nodup_append.mpr ⟨hnodup, List.pairwise_singleton _ y,
    fun a ha b hb hab => hnew (List.mem_singleton.mp hb ▸ hab ▸ ha)⟩)
  reached z hz := by
    rcases h.reached z hz with hz | hz
    · rcases List.mem_append.mp hz with hz | hz
      · exact .inl hz
      · exact .inr (List.mem_singleton.mp hz ▸ .single hedge)
    · exact .inr (.head hedge hz)
  asked z hz := by
    rcases h.asked z hz with hz | hz
    · rcases List.mem_append.mp hz with hz | hz
      · exact .inl hz
      · exact .inr (List.mem_singleton.mp hz ▸ hedge.1)
    · exact .inr hz
  closed z hz := by
    rcases h.closed z hz with hz | hz
    · rcases List.mem_append.mp hz with hz | hz
      · exact .inl hz
      · exact .inr (List.mem_singleton.mp hz ▸ hclosed)
    · exact .inr hz

/-- What comes of a run. -/
def Outcome (succs : α → Except ε (List (Except ε α))) (wanted : α → Prop) (x : α)
    (seen : List α) : Except ε (List α) → Prop
  | .ok seen' => Explored succs wanted x seen seen' ∧ Closed succs wanted seen' x
  | .error _ => ∃ y, Reaches succs wanted x y ∧ Malformed succs y

/-- What comes of the loop over successors. -/
def OutcomeAll (succs : α → Except ε (List (Except ε α))) (wanted : α → Prop) (x : α)
    (ys : List (Except ε α)) (seen : List α) : Except ε (List α) → Prop
  | .ok seen' => Explored succs wanted x seen seen' ∧ (∀ e, .error e ∉ ys) ∧
      ∀ y, .ok y ∈ ys → wanted y → y = x ∨ y ∈ seen'
  | .error _ => (∃ e, .error e ∈ ys) ∨ ∃ y, Reaches succs wanted x y ∧ Malformed succs y

variable {ys : List (Except ε α)} {r : Except ε (List α)}

/-- Nothing is added for a successor that is passed. -/
theorem OutcomeAll.passed (h : ¬(y ≠ x ∧ wanted y ∧ y ∉ seen))
    (hrest : OutcomeAll succs wanted x ys seen r) :
    OutcomeAll succs wanted x (.ok y :: ys) seen r := by
  cases r with
  | error e =>
    exact hrest.imp (Exists.imp fun _ he => List.mem_cons_of_mem _ he) id
  | ok seen' =>
    obtain ⟨hexplored, htold, hlisted⟩ := hrest
    refine ⟨hexplored, fun e he => ?_, fun z hz hwanted => ?_⟩
    · rcases List.mem_cons.mp he with he | he
      · cases he
      · exact htold e he
    · rcases List.mem_cons.mp hz with hz | hz
      · obtain rfl := Except.ok.inj hz
        by_cases hzx : z = x
        · exact .inl hzx
        · by_cases hseen : z ∈ seen
          · exact .inr (hexplored.kept hseen)
          · exact absurd ⟨hzx, hwanted, hseen⟩ h
      · exact hlisted z hz hwanted

/-- What is collected from a successor is added before the rest is gone through. -/
theorem OutcomeAll.entered (hedge : Edge succs wanted x y) (hnew : y ∉ seen)
    (hinner : Outcome succs wanted y (seen ++ [y]) (.ok middle))
    (hrest : OutcomeAll succs wanted x ys middle r) :
    OutcomeAll succs wanted x (.ok y :: ys) seen r := by
  cases r with
  | error e =>
    exact hrest.imp (Exists.imp fun _ he => List.mem_cons_of_mem _ he) id
  | ok seen' =>
    obtain ⟨hexplored, htold, hlisted⟩ := hrest
    refine ⟨(Explored.enter hedge hnew hinner.1 hinner.2).trans hexplored, fun e he => ?_,
      fun z hz hwanted => ?_⟩
    · rcases List.mem_cons.mp he with he | he
      · cases he
      · exact htold e he
    · rcases List.mem_cons.mp hz with hz | hz
      · obtain rfl := Except.ok.inj hz
        exact .inr (hexplored.kept (hinner.1.kept (List.mem_append_right _ List.mem_cons_self)))
      · exact hlisted z hz hwanted

mutual

/-- **What a run adds it has explored**, with the node it starts from. -/
theorem Visits.outcome : ∀ {x : α} {seen : List α} {r : Except ε (List α)},
    Visits succs wanted x seen r → Outcome succs wanted x seen r
  | x, _, _, .refused h => ⟨x, .refl, .inl ⟨_, h⟩⟩
  | x, seen, r, .each hsuccs rest => by
    have hrest := rest.outcome fun y hwanted hy => ⟨hwanted, _, hsuccs, hy⟩
    cases r with
    | error e =>
      rcases hrest with ⟨e, he⟩ | hrest
      · exact ⟨x, .refl, .inr ⟨_, e, hsuccs, he⟩⟩
      · exact hrest
    | ok seen' =>
      obtain ⟨hexplored, htold, hlisted⟩ := hrest
      refine ⟨hexplored, ?_, ?_⟩
      · rintro (⟨e, he⟩ | ⟨ys, e, hsuccs', he⟩)
        · rw [hsuccs] at he
          cases he
        · obtain rfl := Except.ok.inj (hsuccs'.symm.trans hsuccs)
          exact htold e he
      · rintro y ⟨hwanted, ys, hsuccs', hy⟩
        obtain rfl := Except.ok.inj (hsuccs'.symm.trans hsuccs)
        exact hlisted y hy hwanted

/-- The loop, over successors of the node. -/
theorem VisitsAll.outcome : ∀ {x : α} {ys : List (Except ε α)} {seen : List α}
    {r : Except ε (List α)}, VisitsAll succs wanted x ys seen r →
      (∀ y, wanted y → .ok y ∈ ys → Edge succs wanted x y) →
      OutcomeAll succs wanted x ys seen r
  | x, _, seen, _, .done, _ =>
    ⟨.refl x seen, fun _ => List.not_mem_nil, fun _ hy => absurd hy List.not_mem_nil⟩
  | _, _, _, _, .refused, _ => .inl ⟨_, List.mem_cons_self⟩
  | _, _, _, _, .passed h rest, hedges =>
    .passed h (rest.outcome fun z hwanted hz => hedges z hwanted (List.mem_cons_of_mem _ hz))
  | _, _, _, _, .failed h inner, hedges => by
    obtain ⟨z, hreaches, hmalformed⟩ := inner.outcome
    exact .inr ⟨z, .head (hedges _ h.2.1 List.mem_cons_self) hreaches, hmalformed⟩
  | _, _, _, _, .entered h inner rest, hedges =>
    .entered (hedges _ h.2.1 List.mem_cons_self) h.2.2 inner.outcome
      (rest.outcome fun z hwanted hz => hedges z hwanted (List.mem_cons_of_mem _ hz))

end

end

end DepthFirst
