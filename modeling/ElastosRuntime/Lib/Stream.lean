/-
# Byte streams that answer in pieces

A program that copies bytes sees a reader that hands over as few bytes as it likes, may fail at
any call, and can be sent back to a position, and a writer that takes everything or runs out of
room.  `Source` and `Sink` are the two, with the environment's choices as part of the reader:
`answers` says how each of its calls is met.

`Does x s a s'` says that a program that may fail and keeps its state when it does ends with the
value `a` in the state `s'`.  The two loops every such program has are `readExact`, which insists
on a number of bytes, and `drain`, which reads until nothing is left; their rules say what they
return whatever the pieces were.
-/
import Mathlib.Data.List.Basic

namespace Streams

variable {σ ε α β : Type}

/-! ## 1. Programs that keep their state when they fail -/

abbrev Effect (σ ε α : Type) := ExceptT ε (StateM σ) α

namespace Effect

/-- The result of a program and the state it leaves. -/
def outcome (x : Effect σ ε α) (s : σ) : Except ε α × σ := x.run.run s

/-- A program from what it does. -/
def of (f : σ → Except ε α × σ) : Effect σ ε α := ExceptT.mk f

@[simp] theorem outcome_of (f : σ → Except ε α × σ) (s : σ) : (of f).outcome s = f s := rfl

/-- The program ends with a value. -/
def Does (x : Effect σ ε α) (s : σ) (a : α) (s' : σ) : Prop := x.outcome s = (.ok a, s')

theorem outcome_bind (x : Effect σ ε α) (f : α → Effect σ ε β) (s : σ) :
    (x >>= f).outcome s = match x.outcome s with
      | (.ok a, s') => (f a).outcome s'
      | (.error e, s') => (.error e, s') := by
  have h : (x >>= f).outcome s = ExceptT.bindCont f (x.outcome s).1 (x.outcome s).2 := rfl
  rw [h]
  rcases x.outcome s with ⟨_ | a, s'⟩ <;> rfl

theorem outcome_pure (a : α) (s : σ) : (pure a : Effect σ ε α).outcome s = (.ok a, s) := rfl

/-- Something that cannot touch the state. -/
theorem outcome_lift (x : Except ε α) (s : σ) : (liftM x : Effect σ ε α).outcome s = (x, s) := rfl

variable {a : α} {s s' : σ}

theorem does_pure {b : α} : Does (pure a : Effect σ ε α) s b s' ↔ a = b ∧ s = s' := by
  rw [Does, outcome_pure, Prod.mk.injEq, Except.ok.injEq]

variable {x : Except ε α}

theorem does_lift : Does (liftM x : Effect σ ε α) s a s' ↔ x = .ok a ∧ s = s' := by
  rw [Does, outcome_lift, Prod.mk.injEq]

variable {f : α → Effect σ ε β} {b : β}

theorem does_bind {x : Effect σ ε α} {s'' : σ} :
    Does (x >>= f) s b s'' ↔ ∃ a s', Does x s a s' ∧ Does (f a) s' b s'' := by
  rw [Does, outcome_bind]
  constructor
  · intro h
    rcases hx : x.outcome s with ⟨_ | a, s'⟩
    · rw [hx] at h
      cases h
    · rw [hx] at h
      exact ⟨a, s', hx, h⟩
  · rintro ⟨a, s', hx, hf⟩
    rw [Does] at hx
    rw [hx]
    exact hf

theorem Does.bind {x : Effect σ ε α} {s'' : σ} (hx : Does x s a s') (hf : Does (f a) s' b s'') :
    Does (x >>= f) s b s'' :=
  does_bind.mpr ⟨a, s', hx, hf⟩

theorem does_check : Does (liftM x >>= f) s b s' ↔ ∃ a, x = .ok a ∧ Does (f a) s b s' := by
  rw [does_bind]
  constructor
  · rintro ⟨a, _, hlift, hf⟩
    obtain ⟨hx, rfl⟩ := does_lift.mp hlift
    exact ⟨a, hx, hf⟩
  · rintro ⟨a, hx, hf⟩
    exact ⟨a, s, does_lift.mpr ⟨hx, rfl⟩, hf⟩

/-- A test that succeeds is passed. -/
theorem Does.check (hx : x = .ok a) (hf : Does (f a) s b s') : Does (liftM x >>= f) s b s' :=
  does_check.mpr ⟨a, hx, hf⟩

/-! ### Access to the state -/

def reads (f : σ → α) : Effect σ ε α := of fun s => (.ok (f s), s)

def updates (f : σ → σ) : Effect σ ε Unit := of fun s => (.ok (), f s)

theorem does_reads {f : σ → α} {g : α → Effect σ ε β} :
    Does (reads f >>= g) s b s' ↔ Does (g (f s)) s b s' := by
  rw [Does, outcome_bind]
  rfl

theorem does_updates {f : σ → σ} {g : Unit → Effect σ ε β} :
    Does (updates f >>= g) s b s' ↔ Does (g ()) (f s) b s' := by
  rw [Does, outcome_bind]
  rfl

/-! ### Programs on a part of the state -/

variable {τ : Type}

/-- A program that sees a part of the state, run on the whole. -/
def zoom (get : σ → τ) (set : σ → τ → σ) (f : τ → Except ε α × τ) : Effect σ ε α :=
  of fun s => ((f (get s)).1, set s (f (get s)).2)

theorem does_zoom {get : σ → τ} {set : σ → τ → σ} {f : τ → Except ε α × τ} :
    Does (zoom get set f) s a s' ↔ ∃ t, f (get s) = (.ok a, t) ∧ s' = set s t := by
  rw [Does, zoom, outcome_of, Prod.mk.injEq]
  constructor
  · rintro ⟨hresult, rfl⟩
    exact ⟨_, Prod.ext hresult rfl, rfl⟩
  · rintro ⟨t, hf, rfl⟩
    rw [hf]
    exact ⟨rfl, rfl⟩

/-! ### Loops over a range of indices -/

theorem forM_range_succ (body : Nat → Effect σ ε Unit) (n : Nat) :
    (List.range (n + 1)).forM body =
      ((List.range n).forM body >>= fun _ => body n >>= fun _ => pure ()) := by
  rw [List.range_succ]
  exact List.forM_append

variable {body : Nat → Effect σ ε Unit}

variable {I : Nat → σ → Prop}

/-- **A loop that keeps an invariant round by round** runs to its end, by induction on the number of
rounds. -/
theorem exists_forM_range {n : Nat}
    (hbody : ∀ i < n, ∀ s, I i s → ∃ s', Does (body i) s () s' ∧ I (i + 1) s') (hs : I 0 s) :
    ∃ s', Does ((List.range n).forM body) s () s' ∧ I n s' := by
  induction n with
  | zero => exact ⟨s, rfl, hs⟩
  | succ n ih =>
    obtain ⟨s₁, hfirst, hI⟩ := ih fun i hi => hbody i (by omega)
    obtain ⟨s₂, hlast, hI'⟩ := hbody n (Nat.lt_succ_self n) s₁ hI
    refine ⟨s₂, ?_, hI'⟩
    rw [forM_range_succ]
    exact hfirst.bind (hlast.bind rfl)

/-- What every round that succeeds keeps, a loop that succeeds keeps. -/
theorem of_forM_range {n : Nat}
    (hbody : ∀ i < n, ∀ s s', I i s → Does (body i) s () s' → I (i + 1) s') (hs : I 0 s)
    (h : Does ((List.range n).forM body) s () s') : I n s' := by
  induction n generalizing s' with
  | zero =>
    obtain ⟨-, rfl⟩ := does_pure.mp h
    exact hs
  | succ n ih =>
    rw [forM_range_succ] at h
    obtain ⟨⟨⟩, s₁, hfirst, h⟩ := does_bind.mp h
    obtain ⟨⟨⟩, s₂, hlast, h⟩ := does_bind.mp h
    obtain ⟨-, rfl⟩ := does_pure.mp h
    exact hbody n (Nat.lt_succ_self n) s₁ s₂ (ih (fun i hi => hbody i (by omega)) hfirst) hlast

/-! ### What a program can only add to

`Extends R x`: whatever becomes of the program, the state it leaves is `R`-related to the one it
found. -/

def Extends (R : σ → σ → Prop) (x : Effect σ ε α) : Prop := ∀ s, R s (x.outcome s).2

variable {R : σ → σ → Prop}

theorem Extends.bind {x : Effect σ ε α} (htrans : ∀ {s t u}, R s t → R t u → R s u)
    (hx : Extends R x) (hf : ∀ a, Extends R (f a)) : Extends R (x >>= f) := by
  intro s
  have hs := hx s
  rw [outcome_bind]
  cases houtcome : x.outcome s with
  | mk result s' =>
    rw [houtcome] at hs
    cases result with
    | error e => exact hs
    | ok a => exact htrans hs (hf a s')

theorem Extends.lift (hrefl : ∀ s, R s s) (x : Except ε α) :
    Extends R (liftM x : Effect σ ε α) := hrefl

end Effect

/-! ## 2. Readers -/

/-- How one call of `read` is met: with at least one and at most so many bytes more, or not. -/
inductive Answer where
  | more (atMost : Nat)
  | fails

/-- A reader: its contents, where it stands, and how its calls are met. -/
structure Source where
  contents : List UInt8
  position : Nat
  answers : Nat → Answer
  calls : Nat

namespace Source

variable (s : Source)

/-- What is left to read. -/
def rest : List UInt8 := s.contents.drop s.position

/-- No call fails. -/
def Unfailing : Prop := ∀ call, s.answers call ≠ .fails

/-- The same reader, somewhere else, some calls later. -/
def At (position : Nat) (s' : Source) : Prop :=
  s'.contents = s.contents ∧ s'.answers = s.answers ∧ s'.position = position

/-- One call of `read` with a buffer of a length. -/
def read (length : Nat) : Except Unit (List UInt8) × Source :=
  match s.answers s.calls with
  | .fails => (.error (), { s with calls := s.calls + 1 })
  | .more atMost =>
    let bytes := s.rest.take (min length (atMost + 1))
    (.ok bytes, { s with position := s.position + bytes.length, calls := s.calls + 1 })

/-- `seek(SeekFrom::Start(position))` -/
def seek (position : Nat) : Except Unit Unit × Source :=
  match s.answers s.calls with
  | .fails => (.error (), { s with calls := s.calls + 1 })
  | .more _ => (.ok (), { s with position, calls := s.calls + 1 })

variable {s}

variable {s' : Source} {position length : Nat}

theorem At.unfailing (h : s.At position s') (hs : s.Unfailing) :
    s'.Unfailing := fun call => h.2.1 ▸ hs call

theorem At.rest (h : s.At position s') :
    s'.rest = s.contents.drop position := by rw [Source.rest, h.1, h.2.2]

theorem At.trans {s'' : Source} {p q : Nat} (h : s.At p s') (h' : s'.At q s'') : s.At q s'' :=
  ⟨h'.1.trans h.1, h'.2.1.trans h.2.1, h'.2.2⟩

theorem seek_eq_ok (h : s.seek position = (.ok (), s')) : s.At position s' := by
  unfold seek at h
  split at h <;> cases h
  exact ⟨rfl, rfl, rfl⟩

theorem exists_seek (hs : s.Unfailing) (position : Nat) :
    ∃ s', s.seek position = (.ok (), s') ∧ s.At position s' := by
  unfold seek
  split
  · next h => exact absurd h (hs _)
  · exact ⟨_, rfl, rfl, rfl, rfl⟩

variable {bytes : List UInt8}

/-- What a call returns is what comes next, and it moves behind it. -/
theorem read_eq_ok (h : s.read length = (.ok bytes, s')) :
    bytes <+: s.rest ∧ bytes.length ≤ length ∧ (0 < length → s.rest ≠ [] → bytes ≠ []) ∧
      s.At (s.position + bytes.length) s' := by
  unfold read at h
  split at h
  · cases h
  · next atMost _ =>
    cases h
    refine ⟨List.take_prefix _ _, ?_, fun hpos hrest hnil => ?_, rfl, rfl, rfl⟩
    · rw [List.length_take]
      omega
    · rw [List.take_eq_nil_iff] at hnil
      rcases hnil with hzero | hnil
      · omega
      · exact hrest hnil

theorem read_isOk (hs : s.Unfailing) (length : Nat) :
    ∃ bytes s', s.read length = (.ok bytes, s') := by
  unfold read
  split
  · next h => exact absurd h (hs _)
  · exact ⟨_, _, rfl⟩

theorem rest_of_read (h : s.read length = (.ok bytes, s')) : s.rest = bytes ++ s'.rest := by
  obtain ⟨⟨tail, htail⟩, -, -, hat⟩ := read_eq_ok h
  rw [hat.rest, ← List.drop_drop, ← Source.rest, ← htail, List.drop_left]

/-- At the end there is nothing. -/
theorem read_end (hs : s.Unfailing) (hend : s.rest = []) (length : Nat) :
    ∃ s', s.read length = (.ok [], s') := by
  obtain ⟨bytes, s', h⟩ := read_isOk hs length
  have hnil := (read_eq_ok h).1
  rw [hend, List.prefix_nil] at hnil
  exact ⟨s', hnil ▸ h⟩

/-! ### Reading a number of bytes -/

/-- `read_exact`: reads on for what is missing until nothing is. -/
def readExact (ended failed : ε) : Nat → Source → Except ε (List UInt8) × Source
  | 0, s => (.ok [], s)
  | missing + 1, s =>
    match s.read (missing + 1) with
    | (.error (), s') => (.error failed, s')
    | (.ok [], s') => (.error ended, s')
    | (.ok (byte :: bytes), s') =>
      match readExact ended failed (missing - bytes.length) s' with
      | (.error e, s'') => (.error e, s'')
      | (.ok more, s'') => (.ok (byte :: bytes ++ more), s'')
termination_by missing => missing

variable {ended failed : ε}

/-- What `readExact` returns is what comes next, however it came. -/
theorem readExact_eq_ok {need : Nat} (h : readExact ended failed need s = (.ok bytes, s')) :
    bytes = s.rest.take need ∧ bytes.length = need ∧ s.At (s.position + need) s' := by
  fun_induction readExact ended failed need s generalizing bytes s' with
  | case1 s =>
    cases h
    exact ⟨rfl, rfl, rfl, rfl, rfl⟩
  | case2 | case3 | case4 => cases h
  | case5 missing s byte piece s₁ hread more s₂ hmore ih =>
    cases h
    obtain ⟨-, hlen, -, hat⟩ := read_eq_ok hread
    obtain ⟨rfl, hlength, hat'⟩ := ih hmore
    have hposition : s₁.position + (missing - piece.length) = s.position + (missing + 1) := by
      rw [hat.2.2, List.length_cons]
      rw [List.length_cons] at hlen
      omega
    rw [rest_of_read hread]
    refine ⟨?_, ?_, hat.trans (hposition ▸ hat')⟩
    · rw [List.take_append, List.take_of_length_le hlen, List.length_cons, Nat.succ_sub_succ]
    · rw [List.length_append, hlength, List.length_cons]
      rw [List.length_cons] at hlen
      omega

/-- A reader that does not fail and has enough left delivers. -/
theorem exists_readExact {need : Nat} (hs : s.Unfailing) (hneed : need ≤ s.rest.length) :
    ∃ s', readExact ended failed need s = (.ok (s.rest.take need), s') ∧
      s.At (s.position + need) s' := by
  suffices h : ∃ bytes s', readExact ended failed need s = (.ok bytes, s') by
    obtain ⟨bytes, s', h⟩ := h
    obtain ⟨rfl, -, hat⟩ := readExact_eq_ok h
    exact ⟨s', h, hat⟩
  fun_induction readExact ended failed need s with
  | case1 => exact ⟨_, _, rfl⟩
  | case2 missing s s' hread =>
    obtain ⟨_, _, hok⟩ := read_isOk hs (missing + 1)
    cases hok.symm.trans hread
  | case3 missing s s' hread =>
    refine absurd rfl ((read_eq_ok hread).2.2.1 (Nat.succ_pos _) fun hrest => ?_)
    rw [hrest, List.length_nil] at hneed
    omega
  | case4 missing s byte piece s₁ hread e s₂ hmore ih =>
    obtain ⟨-, -, -, hat⟩ := read_eq_ok hread
    rw [rest_of_read hread, List.length_append, List.length_cons] at hneed
    obtain ⟨_, _, hok⟩ := ih (hat.unfailing hs) (by omega)
    cases hok.symm.trans hmore
  | case5 => exact ⟨_, _, rfl⟩

/-! ### Reading to the end -/

theorem rest_lt_of_read {byte : UInt8} (h : s.read length = (.ok (byte :: bytes), s')) :
    s'.rest.length < s.rest.length := by
  rw [rest_of_read h, List.length_append, List.length_cons]
  omega

/-- Reads pieces of at most `buffer` bytes until there are none, and folds `step` over them. -/
def drain (failed : ε) (buffer : Nat) (step : β → List UInt8 → Except ε β) (b : β) (s : Source) :
    Except ε β × Source :=
  match h : s.read buffer with
  | (.error (), s') => (.error failed, s')
  | (.ok [], s') => (.ok b, s')
  | (.ok (byte :: bytes), s') =>
    have := rest_lt_of_read h
    match step b (byte :: bytes) with
    | .error e => (.error e, s')
    | .ok b' => drain failed buffer step b' s'
termination_by s.rest.length

variable {buffer : Nat} {step : β → List UInt8 → Except ε β} {b b' : β}

/-- The pieces `drain` saw make up what was left. -/
theorem drain_eq_ok (hbuffer : 0 < buffer) (h : drain failed buffer step b s = (.ok b', s')) :
    (∃ pieces : List (List UInt8), pieces.flatten = s.rest ∧
      (∀ piece ∈ pieces, piece.length ≤ buffer) ∧ pieces.foldlM step b = .ok b') ∧
        ∃ position, s.At position s' := by
  fun_induction drain failed buffer step b s with
  | case1 | case3 => cases h
  | case2 b s s₁ hread =>
    cases h
    obtain ⟨-, -, hsome, hat⟩ := read_eq_ok hread
    have hrest : s.rest = [] := not_not.mp fun hrest => hsome hbuffer hrest rfl
    exact ⟨⟨[], hrest.symm, fun _ h => absurd h List.not_mem_nil, rfl⟩, _, hat⟩
  | case4 b s byte bytes s₁ hread _ b₁ hstep ih =>
    obtain ⟨⟨pieces, hpieces, hsmall, hfold⟩, position, hat'⟩ := ih h
    obtain ⟨-, hlen, -, hat⟩ := read_eq_ok hread
    refine ⟨⟨(byte :: bytes) :: pieces, ?_, ?_, ?_⟩, position, hat.trans hat'⟩
    · rw [List.flatten_cons, hpieces, rest_of_read hread]
    · exact List.forall_mem_cons.mpr ⟨hlen, hsmall⟩
    · rw [List.foldlM_cons, hstep]
      exact hfold

/-- A reader that does not fail is read to its end, when no pieces stop the fold. -/
theorem exists_drain (hs : s.Unfailing)
    (hstep : ∀ pieces : List (List UInt8), pieces.flatten = s.rest →
      ∃ b', pieces.foldlM step b = .ok b') :
    ∃ b' s', drain failed buffer step b s = (.ok b', s') := by
  fun_induction drain failed buffer step b s with
  | case1 b s s₁ hread =>
    obtain ⟨_, _, hok⟩ := read_isOk hs buffer
    cases hok.symm.trans hread
  | case2 b s s₁ hread => exact ⟨_, _, rfl⟩
  | case3 b s byte bytes s₁ hread _ e hfail =>
    obtain ⟨_, hfold⟩ := hstep [byte :: bytes, s₁.rest]
      (by rw [rest_of_read hread, List.flatten_cons, List.flatten_singleton])
    rw [List.foldlM_cons, hfail] at hfold
    cases hfold
  | case4 b s byte bytes s₁ hread _ b₁ hsome ih =>
    refine ih ((read_eq_ok hread).2.2.2.unfailing hs) fun pieces hpieces => ?_
    obtain ⟨b', hfold⟩ := hstep ((byte :: bytes) :: pieces)
      (by rw [List.flatten_cons, hpieces, rest_of_read hread])
    rw [List.foldlM_cons, hsome] at hfold
    exact ⟨b', hfold⟩

end Source

/-! ## 3. Writers -/

/-- A writer: what it was given, and how much more it takes if that is limited. -/
structure Sink where
  written : List UInt8
  room : Option Nat

/-- `write_all`: everything, or what there is room for and a failure. -/
def Sink.writeAll (s : Sink) (bytes : List UInt8) : Except Unit Unit × Sink :=
  match s.room with
  | none => (.ok (), { s with written := s.written ++ bytes })
  | some room =>
    if bytes.length ≤ room then
      (.ok (), ⟨s.written ++ bytes, some (room - bytes.length)⟩)
    else (.error (), ⟨s.written ++ bytes.take room, some 0⟩)

theorem Sink.written_of_writeAll {s : Sink} {bytes : List UInt8}
    (h : (s.writeAll bytes).1 = .ok ()) : (s.writeAll bytes).2.written = s.written ++ bytes := by
  unfold Sink.writeAll at h ⊢
  split at h
  · rfl
  · split at h
    · next hfits => rw [if_pos hfits]
    · cases h

/-! ## 4. Lists cut in pieces of one size -/

/-- The piece at an index. -/
def chunk {α : Type} (size : Nat) (l : List α) (i : Nat) : List α := (l.drop (i * size)).take size

theorem flatMap_chunk {α : Type} (size : Nat) (l : List α) (n : Nat) :
    (List.range n).flatMap (chunk size l) = l.take (n * size) := by
  induction n with
  | zero => rw [List.range_zero, List.flatMap_nil, Nat.zero_mul, List.take_zero]
  | succ n ih =>
    rw [List.range_succ, List.flatMap_append, ih, List.flatMap_singleton, chunk, Nat.succ_mul,
      List.take_add]

theorem length_chunk {α : Type} (size : Nat) (l : List α) (i : Nat) :
    (chunk size l i).length = min size (l.length - i * size) := by
  rw [chunk, List.length_take, List.length_drop]

end Streams
