/-
# Readers that index, and what a reader accepts

`Accepts r w` is the converse of `Mirrors`: what `r` takes off the front is what `w` appends for
the value it returns.  A format whose writer and reader do both is canonical.

Code that reads a byte string by position checks a length once and then indexes, and indexing past
the end is a crash, not an error.  Such a program is a reader here that fails with `outOfBounds`
where it indexes, and with `refused` where it tests.  `Agrees x y` says that it never crashes, and
that it returns what a reader that checks every step returns.
-/
import ElastosRuntime.Lib.Codec

namespace Codec

variable {ε α β γ : Type}

/-! ## 1. What a reader accepts -/

/-- **What the reader takes is what the writer appends** for what it returns. -/
def Accepts (r : ByteReader ε α) (w : α → ByteWriter ε Unit) : Prop :=
  ∀ s a rest, r.run s = .ok (a, rest) →
    ∃ bs, s = bs ++ rest ∧ ∀ out, (w a).run out = .ok ((), out ++ bs)

variable {s s' t : List UInt8}

/-- A test consumes nothing. -/
theorem run_test {x : Except ε α} {k : α → ByteReader ε β} {s : List UInt8} :
    (liftM x >>= k).run s = x >>= fun a => (k a).run s := by
  cases x <;> rfl

theorem run_test_ok {a : α} {k : α → ByteReader ε β} {s : List UInt8} :
    (liftM (.ok a : Except ε α) >>= k).run s = (k a).run s := rfl

theorem run_test_eq_ok {x : Except ε α} {k : α → ByteReader ε β} {s s' : List UInt8} {b : β} :
    (liftM x >>= k).run s = .ok (b, s') ↔ ∃ a, x = .ok a ∧ (k a).run s = .ok (b, s') := by
  rw [run_test, bind_eq_ok]

theorem run_bind_of_ok {x : ByteReader ε α} {k : α → ByteReader ε β} {a : α}
    (h : x.run s = .ok (a, t)) : (x >>= k).run s = (k a).run t := by
  rw [StateT.run_bind, h]
  rfl

theorem run_lift_eq_ok {x : Except ε α} {a : α} :
    (liftM x : ByteReader ε α).run s = .ok (a, s') ↔ x = .ok a ∧ s = s' := by
  cases x with
  | error e => exact ⟨nofun, fun h => nomatch h.1⟩
  | ok b =>
    refine ⟨fun h => ?_, fun ⟨ha, hs⟩ => Except.ok.inj ha ▸ hs ▸ rfl⟩
    cases h
    exact ⟨rfl, rfl⟩

/-- **The rule for loops.** -/
theorem Accepts.many {r : ByteReader ε α} {w : α → ByteWriter ε Unit} (h : Accepts r w) (n : Nat) :
    ∀ s as rest, (many r n).run s = .ok (as, rest) → as.length = n ∧
      ∃ bs, s = bs ++ rest ∧ ∀ out, (as.forM w).run out = .ok ((), out ++ bs) := by
  induction n with
  | zero =>
    intro s as rest hrun
    cases hrun
    exact ⟨rfl, [], rfl, fun out => by rw [List.append_nil]; rfl⟩
  | succ n ih =>
    intro s as rest hrun
    obtain ⟨a, t, ha, hrun⟩ := run_bind_eq_ok.mp hrun
    obtain ⟨tail, u, htail, hrun⟩ := run_bind_eq_ok.mp hrun
    cases hrun
    obtain ⟨bs, rfl, hw⟩ := h s a t ha
    obtain ⟨rfl, cs, rfl, hws⟩ := ih t tail rest htail
    refine ⟨rfl, bs ++ cs, (List.append_assoc ..).symm, fun out => ?_⟩
    rw [← List.append_assoc]
    exact run_bind_eq_ok.mpr ⟨(), _, hw out, hws _⟩

/-! ## 2. Reading by position -/

/-- How a program that indexes ends when it does not return. -/
inductive Halt (ε : Type) where
  | refused (e : ε)
  | outOfBounds

/-- A test of such a program. -/
def refusing (x : Except ε α) : Except (Halt ε) α := x.mapError .refused

/-- **The program that indexes stays in bounds and returns what the other returns.** -/
def Agrees (x : Except (Halt ε) α) (y : Except ε α) : Prop :=
  x ≠ .error .outOfBounds ∧ ∀ a, x = .ok a ↔ y = .ok a

namespace Agrees

theorem refl_refusing (x : Except ε α) : Agrees (refusing x) x := by
  cases x with
  | error e => exact ⟨nofun, fun a => ⟨nofun, nofun⟩⟩
  | ok b => exact ⟨nofun, fun a => ⟨fun h => by cases h; rfl, fun h => by cases h; rfl⟩⟩

variable {x : Except (Halt ε) α}

/-- Neither returns. -/
theorem of_refused {y : Except ε α} {e : Halt ε} (hx : x = .error e) (he : e ≠ .outOfBounds)
    (hy : ∀ a, y ≠ .ok a) : Agrees x y := by
  subst hx
  exact ⟨fun h => he (Except.error.inj h), fun a => ⟨nofun, fun h => absurd h (hy a)⟩⟩

theorem bind {y : Except ε α} {f : α → Except (Halt ε) β} {g : α → Except ε β} (h : Agrees x y)
    (hf : ∀ a, y = .ok a → Agrees (f a) (g a)) : Agrees (x >>= f) (y >>= g) := by
  cases hx : x with
  | error e =>
    refine of_refused rfl (fun he => h.1 (he ▸ hx)) fun b hb => ?_
    obtain ⟨a, hy, -⟩ := bind_eq_ok.mp hb
    cases hx.symm.trans ((h.2 a).mpr hy)
  | ok a =>
    have hy := (h.2 a).mp hx
    rw [hy]
    exact hf a hy

variable {p : ByteReader (Halt ε) α} {k : α → ByteReader (Halt ε) β} {k' : α → ByteReader ε β} {s
  : List UInt8}

/-- **The rule for sequences.** -/
theorem run_bind {r : ByteReader ε α} (h : Agrees (p.run s) (r.run s))
    (hk : ∀ a t, r.run s = .ok (a, t) → Agrees ((k a).run t) ((k' a).run t)) :
    Agrees ((p >>= k).run s) ((r >>= k').run s) := by
  rw [StateT.run_bind, StateT.run_bind]
  exact h.bind fun ⟨a, t⟩ hrun => hk a t hrun

/-- The same where more is done with the result. -/
theorem run_bind_then {p : ByteReader (Halt ε) α} {r : ByteReader ε α}
    {k : α → ByteReader (Halt ε) β} {k' : α → ByteReader ε β} {s : List UInt8}
    {g : β × List UInt8 → Except (Halt ε) γ} {g' : β × List UInt8 → Except ε γ}
    (h : Agrees (p.run s) (r.run s))
    (hk : ∀ a t, r.run s = .ok (a, t) → Agrees ((k a).run t >>= g) ((k' a).run t >>= g')) :
    Agrees ((p >>= k).run s >>= g) ((r >>= k').run s >>= g') := by
  rw [StateT.run_bind, StateT.run_bind, bind_assoc, bind_assoc]
  exact h.bind fun ⟨a, t⟩ hrun => hk a t hrun

/-- A test both make. -/
theorem test_then {x : Except ε α} {k : α → ByteReader (Halt ε) β} {k' : α → ByteReader ε β}
    {g : β × List UInt8 → Except (Halt ε) γ} {g' : β × List UInt8 → Except ε γ}
    (hk : ∀ a, x = .ok a → Agrees ((k a).run s >>= g) ((k' a).run s >>= g')) :
    Agrees ((liftM (refusing x) >>= k).run s >>= g) ((liftM x >>= k').run s >>= g') := by
  rw [run_test, run_test, bind_assoc, bind_assoc]
  exact (refl_refusing x).bind hk

/-- Indexing within what is left. -/
theorem take (e : ε) {n : Nat} (h : n ≤ s.length) :
    Agrees ((Codec.take .outOfBounds n).run s) ((Codec.take e n).run s) := by
  have hrun : ∀ {ε : Type} (e : ε), (Codec.take e n).run s = .ok (s.take n, s.drop n) :=
    fun e => if_pos h
  rw [hrun, hrun]
  exact refl_refusing (.ok _)

theorem takeBytes (e : ε) {n : Nat} (h : n ≤ s.length) :
    Agrees ((Codec.takeBytes .outOfBounds n).run s) ((Codec.takeBytes e n).run s) := by
  refine (Agrees.take e h).run_bind fun bs t hrun => ?_
  rw [dif_pos (take_eq_ok hrun).2, dif_pos (take_eq_ok hrun).2]
  exact refl_refusing (.ok _)

theorem exists_takeBytes (e : ε) {n : Nat} (h : n ≤ s.length) :
    ∃ p, (Codec.takeBytes (.outOfBounds : Halt ε) n).run s = .ok p ∧
      (Codec.takeBytes e n).run s = .ok p := by
  obtain ⟨_, rfl, hrun⟩ :=
    Mirrors.takeBytes (.outOfBounds : Halt ε) ⟨s.take n, List.length_take_of_le h⟩ [] _ rfl
  have hrun := hrun (s.drop n)
  change (Codec.takeBytes _ n).run (s.take n ++ s.drop n) = _ at hrun
  rw [List.take_append_drop] at hrun
  exact ⟨_, hrun, ((Agrees.takeBytes e h).2 _).mp hrun⟩

theorem takeNat (e : ε) {n : Nat} (h : n ≤ s.length) :
    Agrees ((Codec.takeNat .outOfBounds n).run s) ((Codec.takeNat e n).run s) :=
  (Agrees.takeBytes e h).run_bind fun _ _ _ => refl_refusing (.ok _)

/-- **The rule for loops.** -/
theorem many {r : ByteReader ε α} (h : ∀ s, Agrees (p.run s) (r.run s)) (n : Nat) :
    ∀ s, Agrees ((Codec.many p n).run s) ((Codec.many r n).run s) := by
  induction n with
  | zero => exact fun s => refl_refusing (.ok _)
  | succ n ih =>
    exact fun s => (h s).run_bind fun _ t _ => (ih t).run_bind fun _ _ _ => refl_refusing (.ok _)

end Agrees

theorem length_of_take {e : ε} {n : Nat} {bs : List UInt8}
    (h : (take e n).run s = .ok (bs, t)) : s.length = n + t.length := by
  obtain ⟨rfl, rfl⟩ := take_eq_ok h
  exact List.length_append

/-- A fixed number of bytes shortens what is left by as much. -/
theorem length_of_takeBytes {e : ε} {n : Nat} {b : Bytes n}
    (h : (takeBytes e n).run s = .ok (b, t)) : s.length = n + t.length := by
  rw [takeBytes_eq_ok h, List.length_append, Bytes.length_toList]

theorem length_of_takeNat {e : ε} {n m : Nat} (h : (takeNat e n).run s = .ok (m, t)) :
    s.length = n + t.length := by
  rw [(takeNat_eq_ok h).1, List.length_append, beBytes_length]

end Codec
