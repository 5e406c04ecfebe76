/-
# Writers and readers that mirror each other

A binary format is usually two hand-written programs: a writer that appends bytes to a buffer
and a reader that consumes them from the front, either of which can fail.  `Mirrors w r a` says
that the pair agrees on one value: whatever `w` appended, `r` reads `a` back from exactly those
bytes, and leaves everything behind them unread.  The last clause is what makes the notion
compose: a record's writer and reader mirror each other as soon as its fields' do.

The rules below follow the shape of such programs.  `bind` and `last` walk down two sequences in
step, `check` and `skip` pass a test the reader makes between two fields, `take` is the base
case, and `forM` is a loop against a counted loop.

`Emits w n` is about the writer alone: it cannot fail and appends `n` bytes.  It has the same
rules, and is how a format with limits on lengths is compared with the values that reach it.
`AtMost w n` says less: what it appends, should it succeed, is no longer than `n` bytes.
-/
import ElastosRuntime.Lib.Bytes

namespace Codec

variable {ε α β γ δ : Type}

/-- Appends bytes to the ones written so far. -/
abbrev ByteWriter (ε α : Type) := StateT (List UInt8) (Except ε) α

/-- Consumes bytes from the front of the ones left. -/
abbrev ByteReader (ε α : Type) := StateT (List UInt8) (Except ε) α

/-- Append the bytes `bs`. -/
def put (bs : List UInt8) : ByteWriter ε Unit := modify (· ++ bs)

/-- Consume `n` bytes, failing with `e` when fewer are left. -/
def take (e : ε) (n : Nat) : ByteReader ε (List UInt8) := fun s =>
  if n ≤ s.length then .ok (s.take n, s.drop n) else .error e

/-- Consume a string of `n` bytes. -/
def takeBytes (e : ε) (n : Nat) : ByteReader ε (Bytes n) := do
  let bs ← take e n
  liftM (if h : bs.length = n then .ok ⟨bs, h⟩ else .error e : Except ε (Bytes n))

/-- Consume a number of `n` bytes, most significant first. -/
def takeNat (e : ε) (n : Nat) : ByteReader ε Nat := do
  let bs ← takeBytes e n
  pure (ofBeBytes bs.toList)

/-- The results of `n` runs of a reader, in order. -/
def many (r : ByteReader ε α) : Nat → ByteReader ε (List α)
  | 0 => pure []
  | n + 1 => do
    let a ← r
    let as ← many r n
    pure (a :: as)

/-! ## 1. Running a program -/

variable {f : α → Except ε β}

theorem bind_eq_ok {x : Except ε α} {b : β} : (x >>= f) = .ok b ↔ ∃ a, x = .ok a ∧ f a = .ok b := by
  cases x with
  | error e =>
    constructor
    · rintro ⟨⟩
    · rintro ⟨a, ⟨⟩, _⟩
  | ok a =>
    constructor
    · exact fun h => ⟨a, rfl, h⟩
    · rintro ⟨_, ⟨⟩, h⟩
      exact h

variable {l : List α} {bs : List β}

theorem mapM_eq_ok : l.mapM f = .ok bs ↔ List.Forall₂ (fun a b => f a = .ok b) l bs := by
  induction l generalizing bs with
  | nil =>
    rw [List.mapM_nil, List.forall₂_nil_left_iff]
    exact ⟨fun h => (Except.ok.inj h).symm, fun h => congrArg Except.ok h.symm⟩
  | cons a l ih =>
    rw [List.mapM_cons, bind_eq_ok, List.forall₂_cons_left_iff]
    constructor
    · rintro ⟨b, hb, h⟩
      obtain ⟨bs', hbs, h⟩ := bind_eq_ok.mp h
      cases h
      exact ⟨b, bs', hb, ih.mp hbs, rfl⟩
    · rintro ⟨b, bs', hb, hbs, rfl⟩
      exact ⟨b, hb, bind_eq_ok.mpr ⟨bs', ih.mpr hbs, rfl⟩⟩

/-- A loop over a list succeeds when every round does. -/
theorem exists_mapM (h : ∀ a ∈ l, ∃ b, f a = .ok b) : ∃ bs, l.mapM f = .ok bs := by
  induction l with
  | nil => exact ⟨[], rfl⟩
  | cons a l ih =>
    obtain ⟨b, hb⟩ := h a List.mem_cons_self
    obtain ⟨bs, hbs⟩ := ih fun a ha => h a (List.mem_cons_of_mem _ ha)
    exact ⟨b :: bs, mapM_eq_ok.mpr (.cons hb (mapM_eq_ok.mp hbs))⟩

theorem exists_mapM_iff : (∃ bs, l.mapM f = .ok bs) ↔ ∀ a ∈ l, ∃ b, f a = .ok b := by
  refine ⟨?_, exists_mapM⟩
  rintro ⟨bs, h⟩ a ha
  obtain ⟨i, hi, rfl⟩ := List.mem_iff_getElem.mp ha
  exact ⟨_, (mapM_eq_ok.mp h).get hi ((mapM_eq_ok.mp h).length_eq ▸ hi)⟩

theorem mem_of_mapM (h : l.mapM f = .ok bs) {b : β} : b ∈ bs ↔ ∃ a ∈ l, f a = .ok b := by
  induction l generalizing bs with
  | nil =>
    cases h
    exact ⟨fun hb => absurd hb List.not_mem_nil, fun ⟨_, ha, _⟩ => absurd ha List.not_mem_nil⟩
  | cons a l ih =>
    obtain ⟨b', bs, hab, hbs, rfl⟩ := List.forall₂_cons_left_iff.mp (mapM_eq_ok.mp h)
    have ih : b ∈ bs ↔ ∃ a ∈ l, f a = .ok b := ih (mapM_eq_ok.mpr hbs)
    constructor
    · intro hb
      rcases List.mem_cons.mp hb with rfl | hb
      · exact ⟨a, List.mem_cons_self, hab⟩
      · obtain ⟨c, hc, hcb⟩ := ih.mp hb
        exact ⟨c, List.mem_cons_of_mem _ hc, hcb⟩
    · rintro ⟨c, hc, hcb⟩
      rcases List.mem_cons.mp hc with rfl | hc
      · rw [Except.ok.inj (hcb.symm.trans hab)]
        exact List.mem_cons_self
      · exact List.mem_cons_of_mem _ (ih.mpr ⟨c, hc, hcb⟩)

/-- Its results are distinct when no two elements have the same one. -/
theorem nodup_of_mapM (h : l.mapM f = .ok bs) (hl : l.Nodup)
    (hf : ∀ a ∈ l, ∀ a' ∈ l, ∀ b, f a = .ok b → f a' = .ok b → a = a') : bs.Nodup := by
  induction l generalizing bs with
  | nil =>
    cases h
    exact List.nodup_nil
  | cons a l ih =>
    obtain ⟨b, bs, hab, hbs, rfl⟩ := List.forall₂_cons_left_iff.mp (mapM_eq_ok.mp h)
    have hrest : l.mapM f = .ok bs := mapM_eq_ok.mpr hbs
    obtain ⟨ha, hl⟩ := List.nodup_cons.mp hl
    refine List.nodup_cons.mpr ⟨fun hb => ?_, ih hrest hl fun c hc c' hc' =>
      hf c (List.mem_cons_of_mem _ hc) c' (List.mem_cons_of_mem _ hc')⟩
    obtain ⟨c, hc, hcb⟩ := (mem_of_mapM hrest).mp hb
    exact ha (hf a List.mem_cons_self c (List.mem_cons_of_mem _ hc) b hab hcb ▸ hc)

variable {s s' : List UInt8}

theorem run_bind_eq_ok {x : ByteWriter ε α} {f : α → ByteWriter ε β} {b : β} :
    (x >>= f).run s = .ok (b, s') ↔
      ∃ a t, x.run s = .ok (a, t) ∧ (f a).run t = .ok (b, s') := by
  rw [StateT.run_bind, bind_eq_ok, Prod.exists]

theorem run_put (bs out : List UInt8) :
    (put bs : ByteWriter ε Unit).run out = .ok ((), out ++ bs) := rfl

variable {e : ε}

theorem run_take {n : Nat} {bs rest : List UInt8} (h : bs.length = n) :
    (take e n).run (bs ++ rest) = .ok (bs, rest) := by
  subst h
  simp only [take, StateT.run, List.length_append, Nat.le_add_right, if_true, List.take_left,
    List.drop_left]

theorem take_eq_ok {n : Nat} {bs : List UInt8} (h : (take e n).run s = .ok (bs, s')) :
    s = bs ++ s' ∧ bs.length = n := by
  change (if n ≤ s.length then Except.ok (s.take n, s.drop n) else .error e) = _ at h
  split at h
  · next hn =>
    cases h
    exact ⟨(List.take_append_drop n s).symm, List.length_take_of_le hn⟩
  · cases h

theorem takeBytes_eq_ok {n : Nat} {b : Bytes n} (h : (takeBytes e n).run s = .ok (b, s')) :
    s = b.toList ++ s' := by
  obtain ⟨bs, t, hbs, hbuilt⟩ := run_bind_eq_ok.mp h
  obtain ⟨hs, hlen⟩ := take_eq_ok hbs
  rw [dif_pos hlen] at hbuilt
  cases hbuilt
  exact hs

theorem takeNat_eq_ok {n m : Nat} (h : (takeNat e n).run s = .ok (m, s')) :
    s = beBytes n m ++ s' ∧ m < 256 ^ n := by
  obtain ⟨b, t, hb, hread⟩ := run_bind_eq_ok.mp h
  cases hread
  refine ⟨?_, ofBeBytes_lt b.length_toList⟩
  rw [beBytes_ofBeBytes b.length_toList]
  exact takeBytes_eq_ok hb

/-! ## 2. Mirroring -/

/-- **The reader recovers `a` from what the writer appended**, whatever was there before and
whatever follows. -/
def Mirrors (w : ByteWriter ε Unit) (r : ByteReader ε α) (a : α) : Prop :=
  ∀ out out', w.run out = .ok ((), out') →
    ∃ bs, out' = out ++ bs ∧ ∀ rest, r.run (bs ++ rest) = .ok (a, rest)

namespace Mirrors

variable {w w₁ w₂ : ByteWriter ε Unit} {r : ByteReader ε α} {a : α}

/-- Writing nothing mirrors reading nothing. -/
theorem nothing (a : α) : Mirrors (pure ()) (pure a : ByteReader ε α) a := by
  intro out out' h
  cases h
  exact ⟨[], (List.append_nil out).symm, fun _ => rfl⟩

/-- A block of bytes of known length. -/
theorem take (e : ε) (bs : List UInt8) : Mirrors (put bs) (Codec.take e bs.length) bs := by
  intro out out' h
  cases h
  exact ⟨bs, rfl, fun _ => run_take rfl⟩

variable {b : β}

/-- **The rule for sequences.**  The second reader may depend on what the first one read. -/
theorem bind {k : α → ByteReader ε β} (h₁ : Mirrors w₁ r a) (h₂ : Mirrors w₂ (k a) b) :
    Mirrors (w₁ >>= fun _ => w₂) (r >>= k) b := by
  intro out out'' h
  obtain ⟨⟨⟩, out', hw₁, hw₂⟩ := run_bind_eq_ok.mp h
  obtain ⟨bs₁, rfl, hr₁⟩ := h₁ _ _ hw₁
  obtain ⟨bs₂, rfl, hr₂⟩ := h₂ _ _ hw₂
  refine ⟨bs₁ ++ bs₂, List.append_assoc .., fun rest => ?_⟩
  rw [List.append_assoc]
  exact run_bind_eq_ok.mpr ⟨a, bs₂ ++ rest, hr₁ _, hr₂ rest⟩

variable {x : α → Except ε β}

/-- The reader tests what it just read, by a computation that consumes nothing, and goes on with
the outcome. -/
theorem check {k : β → ByteReader ε γ} {c : γ} (h₁ : Mirrors w₁ r a) (hx : x a = .ok b)
    (h₂ : Mirrors w₂ (k b) c) :
    Mirrors (w₁ >>= fun _ => w₂) (r >>= fun a => liftM (x a) >>= k) c := by
  refine h₁.bind fun out out' hw => ?_
  obtain ⟨bs, rfl, hr⟩ := h₂ _ _ hw
  refine ⟨bs, rfl, fun rest => ?_⟩
  rw [hx]
  exact hr rest

/-- The reader makes a test of its own before the next field. -/
theorem skip {x : Except ε β} {k : β → ByteReader ε γ} {c : γ} (hx : x = .ok b)
    (h : Mirrors w (k b) c) : Mirrors w (liftM x >>= k) c := by
  intro out out' hw
  obtain ⟨bs, rfl, hr⟩ := h _ _ hw
  refine ⟨bs, rfl, fun rest => ?_⟩
  rw [hx]
  exact hr rest

/-- The writer starts with a computation that writes nothing and may fail. -/
theorem given {x : Except ε β} {k : β → ByteWriter ε Unit}
    (h : ∀ b, x = .ok b → Mirrors (k b) r a) : Mirrors (liftM x >>= k) r a := by
  intro out out' hw
  cases hx : x with
  | error e =>
    rw [hx] at hw
    exact nomatch hw
  | ok b =>
    rw [hx] at hw
    exact h b hx _ _ hw

/-- The reader ends by building its result from the last field. -/
theorem last (h : Mirrors w r a) (hx : x a = .ok b) : Mirrors w (r >>= fun a => liftM (x a)) b := by
  intro out out' hw
  obtain ⟨bs, rfl, hr⟩ := h _ _ hw
  refine ⟨bs, rfl, fun rest => run_bind_eq_ok.mpr ⟨a, rest, hr rest, ?_⟩⟩
  rw [hx]
  rfl

/-- ... and tests the last field first. -/
theorem checkLast {y : β → Except ε γ} {c : γ} (h : Mirrors w r a) (hx : x a = .ok b)
    (hy : y b = .ok c) : Mirrors w (r >>= fun a => liftM (x a) >>= fun b => liftM (y b)) c := by
  intro out out' hw
  obtain ⟨bs, rfl, hr⟩ := h _ _ hw
  refine ⟨bs, rfl, fun rest => run_bind_eq_ok.mpr ⟨a, rest, hr rest, ?_⟩⟩
  rw [hx]
  exact run_bind_eq_ok.mpr ⟨b, rest, rfl, by rw [hy]; rfl⟩

/-- Reading through a function. -/
theorem map (f : α → β) (h : Mirrors w r a) : Mirrors w (r >>= fun a => pure (f a)) (f a) :=
  h.last (x := fun a => .ok (f a)) rfl

theorem takeBytes {n : Nat} (e : ε) (b : Bytes n) :
    Mirrors (put b.toList) (Codec.takeBytes e n) b := by
  have h : Mirrors (put b.toList) (Codec.take e n) b.toList := by
    simpa using Mirrors.take e b.toList
  exact h.last (dif_pos b.length_toList)

/-- A number that fits in its bytes. -/
theorem takeNat {n m : Nat} (e : ε) (h : m < 256 ^ n) :
    Mirrors (put (beBytes n m)) (Codec.takeNat e n) m := by
  have hm : Mirrors (put (beBytes n m)) (Codec.takeNat e n) (ofBeBytes (beBytes n m)) :=
    (takeBytes e ⟨beBytes n m, beBytes_length n m⟩).map fun b : Bytes n => ofBeBytes b.toList
  rwa [ofBeBytes_beBytes h] at hm

/-- **The rule for loops**: one writer per element against as many runs of one reader. -/
theorem forM {f : α → ByteWriter ε Unit} {r : ByteReader ε α} {l : List α}
    (h : ∀ a ∈ l, Mirrors (f a) r a) : Mirrors (l.forM f) (many r l.length) l := by
  induction l with
  | nil => exact nothing []
  | cons a l ih =>
    have hl : Mirrors (l.forM f) (many r l.length) l := ih fun b hb => h b (.tail _ hb)
    exact (h a (.head _)).bind (hl.map (a :: ·))

end Mirrors

/-! ## 3. How much a writer writes -/

/-- **The writer appends `n` bytes and cannot fail**, whatever was there before. -/
def Emits (w : ByteWriter ε Unit) (n : Nat) : Prop :=
  ∀ out, ∃ bs, w.run out = .ok ((), out ++ bs) ∧ bs.length = n

namespace Emits

variable {w w₁ w₂ : ByteWriter ε Unit} {n m : Nat}

theorem nothing : Emits (pure () : ByteWriter ε Unit) 0 := fun out =>
  ⟨[], by rw [List.append_nil]; rfl, rfl⟩

theorem put (bs : List UInt8) : Emits (Codec.put bs : ByteWriter ε Unit) bs.length := fun out =>
  ⟨bs, run_put bs out, rfl⟩

/-- **The rule for sequences.** -/
theorem bind (h₁ : Emits w₁ n) (h₂ : Emits w₂ m) : Emits (w₁ >>= fun _ => w₂) (n + m) := by
  intro out
  obtain ⟨bs₁, hw₁, rfl⟩ := h₁ out
  obtain ⟨bs₂, hw₂, rfl⟩ := h₂ (out ++ bs₁)
  refine ⟨bs₁ ++ bs₂, ?_, List.length_append⟩
  rw [← List.append_assoc]
  exact run_bind_eq_ok.mpr ⟨(), _, hw₁, hw₂⟩

/-- The writer starts with a computation that writes nothing and succeeds. -/
theorem given {x : Except ε β} {b : β} {k : β → ByteWriter ε Unit} (hx : x = .ok b)
    (h : Emits (k b) n) : Emits (liftM x >>= k) n := by
  subst hx
  exact h

/-- **The rule for loops** whose rounds all write equally much. -/
theorem forM {f : α → ByteWriter ε Unit} {l : List α} (h : ∀ a ∈ l, Emits (f a) n) :
    Emits (l.forM f) (l.length * n) := by
  induction l with
  | nil =>
    rw [List.length_nil, Nat.zero_mul]
    exact nothing
  | cons a l ih =>
    have hl : Emits (l.forM f) (l.length * n) := ih fun b hb => h b (.tail _ hb)
    rw [List.length_cons, Nat.succ_mul, Nat.add_comm]
    exact (h a (.head _)).bind hl

end Emits

/-- **If the writer succeeds, it has appended at most `n` bytes.** -/
def AtMost (w : ByteWriter ε Unit) (n : Nat) : Prop :=
  ∀ out out', w.run out = .ok ((), out') → ∃ bs, out' = out ++ bs ∧ bs.length ≤ n

namespace AtMost

variable {w w₁ w₂ : ByteWriter ε Unit} {n m : Nat}

theorem nothing : AtMost (pure () : ByteWriter ε Unit) 0 := by
  intro out out' hw
  cases hw
  exact ⟨[], (List.append_nil out).symm, Nat.le_refl 0⟩

theorem put {bs : List UInt8} (h : bs.length ≤ n) :
    AtMost (Codec.put bs : ByteWriter ε Unit) n := by
  intro out out' hw
  cases hw
  exact ⟨bs, rfl, h⟩

theorem mono (h : AtMost w n) (hn : n ≤ m) : AtMost w m := fun out out' hw =>
  let ⟨bs, hbs, hlen⟩ := h out out' hw
  ⟨bs, hbs, hlen.trans hn⟩

/-- **The rule for sequences.** -/
theorem bind (h₁ : AtMost w₁ n) (h₂ : AtMost w₂ m) : AtMost (w₁ >>= fun _ => w₂) (n + m) := by
  intro out out'' h
  obtain ⟨⟨⟩, out', hw₁, hw₂⟩ := run_bind_eq_ok.mp h
  obtain ⟨bs₁, rfl, hlen₁⟩ := h₁ _ _ hw₁
  obtain ⟨bs₂, rfl, hlen₂⟩ := h₂ _ _ hw₂
  exact ⟨bs₁ ++ bs₂, List.append_assoc .., List.length_append ▸ Nat.add_le_add hlen₁ hlen₂⟩

/-- The writer starts with a computation that writes nothing and may fail. -/
theorem given {x : Except ε β} {k : β → ByteWriter ε Unit}
    (h : ∀ b, x = .ok b → AtMost (k b) n) : AtMost (liftM x >>= k) n := by
  intro out out' hw
  cases hx : x with
  | error e =>
    rw [hx] at hw
    cases hw
  | ok b =>
    rw [hx] at hw
    exact h b hx _ _ hw

/-- **The rule for loops.** -/
theorem forM {f : α → ByteWriter ε Unit} {l : List α} (h : ∀ a ∈ l, AtMost (f a) n) :
    AtMost (l.forM f) (l.length * n) := by
  induction l with
  | nil => exact nothing.mono (Nat.zero_le _)
  | cons a l ih =>
    have hl : AtMost (l.forM f) (l.length * n) := ih fun b hb => h b (.tail _ hb)
    rw [List.length_cons, Nat.succ_mul, Nat.add_comm]
    exact (h a (.head _)).bind hl

end AtMost

/-- **The writer cannot fail.** -/
def Writes (w : ByteWriter ε Unit) : Prop := ∀ out, ∃ out', w.run out = .ok ((), out')

namespace Writes

variable {w w₁ w₂ : ByteWriter ε Unit}

theorem nothing : Writes (pure () : ByteWriter ε Unit) := fun out => ⟨out, rfl⟩

theorem put (bs : List UInt8) : Writes (Codec.put bs : ByteWriter ε Unit) := fun out =>
  ⟨out ++ bs, rfl⟩

/-- **The rule for sequences.** -/
theorem bind (h₁ : Writes w₁) (h₂ : Writes w₂) : Writes (w₁ >>= fun _ => w₂) := by
  intro out
  obtain ⟨out', hw₁⟩ := h₁ out
  obtain ⟨out'', hw₂⟩ := h₂ out'
  exact ⟨out'', run_bind_eq_ok.mpr ⟨(), out', hw₁, hw₂⟩⟩

/-- The writer starts with a computation that writes nothing and succeeds. -/
theorem given {x : Except ε β} {b : β} {k : β → ByteWriter ε Unit} (hx : x = .ok b)
    (h : Writes (k b)) : Writes (liftM x >>= k) := by
  subst hx
  exact h

/-- **The rule for loops.** -/
theorem forM {f : α → ByteWriter ε Unit} {l : List α} (h : ∀ a ∈ l, Writes (f a)) :
    Writes (l.forM f) := by
  induction l with
  | nil => exact nothing
  | cons a l ih => exact (h a (.head _)).bind (ih fun b hb => h b (.tail _ hb))

end Writes

end Codec
