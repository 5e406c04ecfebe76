/-
# Records kept one to a file

A store that keeps every record in a file of its own, under a name the record determines, and
replaces files as a whole.  A call either writes a record that is not there yet, and otherwise
compares it with the one that is, or reads a record and decides what to put in its place
(`Access`).

What holds of such a store is mostly a matter of its format.  `Harmless` says that what a call
writes is read back as it was written; where all calls are, every file stays readable (`Sound`)
and what a call returns is what the next reader finds.  `Evolves` says how the record of a name may
change while its file is replaced again and again; it composes, so a relation that each change
respects holds between any two readings of a run.  A file that cannot be read is never touched
again, which is why this needs no assumption that files are readable.
-/
import ElastosRuntime.Lib.Codec
import ElastosRuntime.Lib.Table
import ElastosRuntime.Lib.Transition

namespace RecordFiles

variable {ε K V : Type} [DecidableEq K]

/-! ## 1. Formats and calls -/

/-- How the records of one kind are spelled and named, and what a call reports: that there is no
record of that name, that there is one of another name in its file, that the file system failed. -/
structure Format (ε K V : Type) where
  encode : V → Except ε (List UInt8)
  decode : List UInt8 → Except ε V
  key : V → K
  missing : ε
  misplaced : ε
  unavailable : ε

/-- The files of a store that nobody is writing to. -/
abbrev Files (K : Type) := Table K (List UInt8)

/-- What a call wants: a record to be there, or the record of a name changed. -/
inductive Access (ε K V : Type) where
  | persist (value : V) (replays : V → Bool) (conflict : ε)
  | revise (key : K) (change : V → Except ε (Option V))

/-- The bytes a call writes, if any, and the record it then returns. -/
structure Plan (V : Type) where
  write : Option (List UInt8)
  value : V

/-- What becomes of a call: the file system refuses it, it goes through, the file it writes is
lost, or the file is in place but the call reports that it is not. -/
inductive Fate where
  | refused
  | completed
  | lost
  | unconfirmed
deriving DecidableEq

/-- The call puts the file it writes in place. -/
def Fate.Writes (fate : Fate) : Prop := fate = .completed ∨ fate = .unconfirmed

namespace Format

variable (F : Format ε K V)

def read (t : Files K) (k : K) : Except ε V :=
  match t.lookup k with
  | none => .error F.missing
  | some bytes => do
    let value ← F.decode bytes
    if F.key value = k then .ok value else .error F.misplaced

def write (value : V) : Except ε (Plan V) := do
  let bytes ← F.encode value
  .ok ⟨some bytes, value⟩

def plan (t : Files K) : Access ε K V → Except ε (Plan V)
  | .persist value replays conflict =>
    match t.lookup (F.key value) with
    | none => F.write value
    | some _ => do
      let existing ← F.read t (F.key value)
      if replays existing then .ok ⟨none, existing⟩ else .error conflict
  | .revise key change => do
    let existing ← F.read t key
    match ← change existing with
    | some value => F.write value
    | none => .ok ⟨none, existing⟩

def call (t : Files K) (access : Access ε K V) (fate : Fate) : Except ε V × Files K :=
  match fate, F.plan t access with
  | .refused, _ => (.error F.unavailable, t)
  | _, .error e => (.error e, t)
  | _, .ok ⟨none, value⟩ => (.ok value, t)
  | .completed, .ok ⟨some bytes, value⟩ => (.ok value, t.insert (F.key value) bytes)
  | .lost, .ok ⟨some _, _⟩ => (.error F.unavailable, t)
  | .unconfirmed, .ok ⟨some bytes, value⟩ =>
    (.error F.unavailable, t.insert (F.key value) bytes)

/-- A call that only reads. -/
def reading (key : K) : Access ε K V := .revise key fun _ => .ok none

/-! ## 2. What a call does -/

variable {F : Format ε K V} {t : Files K} {k : K} {v w : V} {bytes : List UInt8}
  {access : Access ε K V} {fate : Fate}

theorem read_eq_ok : F.read t k = .ok v ↔
    ∃ bytes, t.lookup k = some bytes ∧ F.decode bytes = .ok v ∧ F.key v = k := by
  unfold read
  cases t.lookup k with
  | none =>
    constructor
    · rintro ⟨⟩
    · rintro ⟨_, ⟨⟩, _⟩
  | some bytes =>
    rw [Codec.bind_eq_ok]
    constructor
    · rintro ⟨value, hvalue, h⟩
      split at h
      · next hkey =>
        cases h
        exact ⟨bytes, rfl, hvalue, hkey⟩
      · cases h
    · rintro ⟨_, hbytes, hvalue, hkey⟩
      cases hbytes
      exact ⟨v, hvalue, if_pos hkey⟩

theorem key_of_read (h : F.read t k = .ok v) : F.key v = k := by
  obtain ⟨_, _, _, hkey⟩ := read_eq_ok.mp h
  exact hkey

omit [DecidableEq K] in
theorem write_eq_ok {plan : Plan V} : F.write v = .ok plan ↔
    ∃ bytes, F.encode v = .ok bytes ∧ plan = ⟨some bytes, v⟩ := by
  rw [write, Codec.bind_eq_ok]
  exact exists_congr fun bytes => and_congr_right fun _ => ⟨fun h => by cases h; rfl,
    fun h => by rw [h]⟩

/-- A call that writes nothing returns the record that is there. -/
theorem read_of_plan (h : F.plan t access = .ok ⟨none, v⟩) : F.read t (F.key v) = .ok v := by
  cases access with
  | persist value replays conflict =>
    simp only [plan] at h
    split at h
    · obtain ⟨_, _, hplan⟩ := write_eq_ok.mp h
      cases hplan
    · obtain ⟨existing, hread, h⟩ := Codec.bind_eq_ok.mp h
      split at h
      · cases h
        rwa [key_of_read hread]
      · cases h
  | revise key change =>
    obtain ⟨existing, hread, h⟩ := Codec.bind_eq_ok.mp h
    obtain ⟨changed, _, h⟩ := Codec.bind_eq_ok.mp h
    cases changed with
    | none =>
      cases h
      rwa [key_of_read hread]
    | some value =>
      obtain ⟨_, _, hplan⟩ := write_eq_ok.mp h
      cases hplan

/-- **What a call writes** is a record that was not there, or the change of one that was. -/
theorem writes_of_plan (h : F.plan t access = .ok ⟨some bytes, v⟩) : F.encode v = .ok bytes ∧
    ((∃ replays conflict, access = .persist v replays conflict ∧ t.lookup (F.key v) = none) ∨
      ∃ key change old, access = .revise key change ∧ F.read t key = .ok old ∧
        change old = .ok (some v)) := by
  cases access with
  | persist value replays conflict =>
    simp only [plan] at h
    split at h
    · next hfree =>
      obtain ⟨_, hencode, hplan⟩ := write_eq_ok.mp h
      cases hplan
      exact ⟨hencode, .inl ⟨replays, conflict, rfl, hfree⟩⟩
    · obtain ⟨existing, _, h⟩ := Codec.bind_eq_ok.mp h
      split at h
      · cases h
      · cases h
  | revise key change =>
    obtain ⟨existing, hread, h⟩ := Codec.bind_eq_ok.mp h
    obtain ⟨changed, hchange, h⟩ := Codec.bind_eq_ok.mp h
    cases changed with
    | none => cases h
    | some value =>
      obtain ⟨_, hencode, hplan⟩ := write_eq_ok.mp h
      cases hplan
      exact ⟨hencode, .inr ⟨key, change, existing, rfl, hread, hchange⟩⟩

variable (F t access fate) in
/-- A call leaves the files alone, or puts one in place. -/
theorem call_files : (F.call t access fate).2 = t ∨
    ∃ bytes v, F.plan t access = .ok ⟨some bytes, v⟩ ∧
      (F.call t access fate).2 = t.insert (F.key v) bytes := by
  unfold call
  split
  · exact .inl rfl
  · exact .inl rfl
  · exact .inl rfl
  · next hplan => exact .inr ⟨_, _, hplan, rfl⟩
  · exact .inl rfl
  · next hplan => exact .inr ⟨_, _, hplan, rfl⟩

theorem call_eq_ok (h : (F.call t access fate).1 = .ok v) :
    F.plan t access = .ok ⟨none, v⟩ ∧ (F.call t access fate).2 = t ∨
      ∃ bytes, F.plan t access = .ok ⟨some bytes, v⟩ ∧
        (F.call t access fate).2 = t.insert (F.key v) bytes := by
  unfold call at h ⊢
  split at h
  · cases h
  · cases h
  · next hplan =>
    cases h
    exact .inl ⟨hplan, rfl⟩
  · next hplan =>
    cases h
    exact .inr ⟨_, hplan, rfl⟩
  · cases h
  · cases h

variable {e conflict : ε}

/-- A failed call leaves every file as it was, unless all that failed was to confirm it. -/
theorem files_of_error (h : (F.call t access fate).1 = .error e) (hfate : fate ≠ .unconfirmed) :
    (F.call t access fate).2 = t := by
  unfold call at h ⊢
  split at h
  · rfl
  · rfl
  · cases h
  · cases h
  · rfl
  · exact absurd rfl hfate

/-- Where a call has nothing to write, it returns the record and leaves the files alone. -/
theorem call_of_plan (h : F.plan t access = .ok ⟨none, v⟩) :
    F.call t access .completed = (.ok v, t) := by
  simp only [call, h]

theorem call_of_error (h : F.plan t access = .error e) :
    F.call t access .completed = (.error e, t) := by
  simp only [call, h]

variable {replays : V → Bool}

/-- A record that is there and is not a replay is not persisted. -/
theorem plan_persist_of_read (hread : F.read t (F.key v) = .ok w) (h : replays w = false) :
    F.plan t (.persist v replays conflict) = .error conflict := by
  obtain ⟨bytes, hbytes, _, _⟩ := read_eq_ok.mp hread
  simp only [plan, hbytes, hread, h, bind, Except.bind, Bool.false_eq_true, if_false]

variable {change : V → Except ε (Option V)}

/-- The error of a revision. -/
theorem plan_revise_of_error (hread : F.read t k = .ok v) (h : change v = .error e) :
    F.plan t (.revise k change) = .error e := by
  simp only [plan, hread, h, bind, Except.bind]

/-- A record that is not there yet is written. -/
theorem call_persist (hfree : t.lookup (F.key v) = none) (hencode : F.encode v = .ok bytes) :
    F.call t (.persist v replays conflict) .completed = (.ok v, t.insert (F.key v) bytes) := by
  simp only [call, plan, hfree, write, hencode, bind, Except.bind]

/-- A revision that has something to write. -/
theorem call_revise (hread : F.read t k = .ok v) (hchange : change v = .ok (some w))
    (hencode : F.encode w = .ok bytes) :
    F.call t (.revise k change) .completed = (.ok w, t.insert (F.key w) bytes) := by
  simp only [call, plan, hread, hchange, write, hencode, bind, Except.bind]

/-! ## 3. Reading back -/

/-- What the call writes is read back as it was written. -/
def Harmless (F : Format ε K V) (t : Files K) (access : Access ε K V) : Prop :=
  ∀ bytes v, F.plan t access = .ok ⟨some bytes, v⟩ → F.decode bytes = .ok v

/-- Every file holds a record of its name. -/
def Sound (F : Format ε K V) (t : Files K) : Prop :=
  ∀ k bytes, t.lookup k = some bytes → ∃ v, F.read t k = .ok v

theorem sound_empty : F.Sound ∅ := fun k bytes h => by
  rw [AList.lookup_empty] at h
  cases h

theorem read_insert_self (h : F.decode bytes = .ok v) :
    F.read (t.insert (F.key v) bytes) (F.key v) = .ok v :=
  read_eq_ok.mpr ⟨bytes, AList.lookup_insert _, h, rfl⟩

theorem read_insert_ne {k' : K} (h : k' ≠ k) : F.read (t.insert k bytes) k' = F.read t k' := by
  unfold read
  rw [AList.lookup_insert_ne h]

/-- **What a harmless call returns is what the next reader finds.** -/
theorem read_of_call (hsafe : F.Harmless t access) (h : (F.call t access fate).1 = .ok v) :
    F.read (F.call t access fate).2 (F.key v) = .ok v := by
  obtain ⟨hplan, hfiles⟩ | ⟨bytes, hplan, hfiles⟩ := call_eq_ok h
  · rw [hfiles]
    exact read_of_plan hplan
  · rw [hfiles]
    exact read_insert_self (hsafe bytes v hplan)

/-- **Harmless calls keep every file readable.** -/
theorem Sound.call (hsound : F.Sound t) (hsafe : F.Harmless t access) :
    F.Sound (F.call t access fate).2 := by
  obtain hfiles | ⟨bytes, v, hplan, hfiles⟩ := F.call_files t access fate
  · rwa [hfiles]
  · rw [hfiles]
    intro k found hfound
    by_cases hk : k = F.key v
    · subst hk
      exact ⟨v, read_insert_self (hsafe bytes v hplan)⟩
    · rw [AList.lookup_insert_ne hk] at hfound
      obtain ⟨w, hw⟩ := hsound k found hfound
      exact ⟨w, (read_insert_ne hk).trans hw⟩

/-! ## 4. How a record changes -/

/-- What the call writes is not read back as anything else. -/
def Faithful (F : Format ε K V) (t : Files K) (access : Access ε K V) : Prop :=
  ∀ bytes v w, F.plan t access = .ok ⟨some bytes, v⟩ → F.decode bytes = .ok w → w = v

/-- **No file is removed, and a file that is replaced held a record that `R` leads away from.** -/
def Evolves (F : Format ε K V) (R : V → V → Prop) (t t' : Files K) : Prop :=
  ∀ k bytes, t.lookup k = some bytes → ∃ bytes', t'.lookup k = some bytes' ∧
    (bytes' = bytes ∨ ∃ v, F.read t k = .ok v ∧ ∀ w, F.read t' k = .ok w → R v w)

variable {R : V → V → Prop} {t' t'' : Files K}

theorem Evolves.refl (t : Files K) : F.Evolves R t t :=
  fun _ bytes h => ⟨bytes, h, .inl rfl⟩

theorem read_congr (h : t.lookup k = t'.lookup k) : F.read t k = F.read t' k := by
  unfold read
  rw [h]

theorem Evolves.trans (htrans : ∀ u v w, R u v → R v w → R u w) (h : F.Evolves R t t')
    (h' : F.Evolves R t' t'') : F.Evolves R t t'' := by
  intro k bytes hbytes
  obtain ⟨bytes', hbytes', hchange⟩ := h k bytes hbytes
  obtain ⟨bytes'', hbytes'', hchange'⟩ := h' k bytes' hbytes'
  refine ⟨bytes'', hbytes'', ?_⟩
  obtain rfl | ⟨v, hv, hnext⟩ := hchange
  · obtain rfl | ⟨v, hv, hnext⟩ := hchange'
    · exact .inl rfl
    · exact .inr ⟨v, (read_congr (hbytes.trans hbytes'.symm)).trans hv, hnext⟩
  · obtain rfl | ⟨v', hv', hnext'⟩ := hchange'
    · exact .inr ⟨v, hv, fun w hw =>
        hnext w ((read_congr (hbytes'.trans hbytes''.symm)).trans hw)⟩
    · exact .inr ⟨v, hv, fun w hw => htrans v v' w (hnext v' hv') (hnext' w hw)⟩

/-- Two readings of one name are related, when nothing is related to no record. -/
theorem Evolves.related (hrefl : ∀ v, F.read t k = .ok v → R v v) (h : F.Evolves R t t')
    (hv : F.read t k = .ok v) (hw : F.read t' k = .ok w) : R v w := by
  obtain ⟨bytes, hbytes, _, _⟩ := read_eq_ok.mp hv
  obtain ⟨bytes', hbytes', rfl | ⟨v', hv', hnext⟩⟩ := h k bytes hbytes
  · have hsame := (read_congr (hbytes.trans hbytes'.symm)).symm.trans hv
    obtain rfl : w = v := Except.ok.inj (hw.symm.trans hsame)
    exact hrefl w hv
  · obtain rfl : v' = v := Except.ok.inj (hv'.symm.trans hv)
    exact hnext w hw

/-- **One call respects a relation** when what it makes of a record does. -/
theorem evolves_call (hfaith : F.Faithful t access)
    (hchange : ∀ key change old v bytes, access = .revise key change → F.read t key = .ok old →
      change old = .ok (some v) → F.encode v = .ok bytes → F.key v = key ∧ R old v) :
    F.Evolves R t (F.call t access fate).2 := by
  obtain hfiles | ⟨bytes, v, hplan, hfiles⟩ := F.call_files t access fate
  · rw [hfiles]
    exact .refl t
  · rw [hfiles]
    intro k found hfound
    by_cases hk : k = F.key v
    · subst hk
      obtain ⟨hencode, ⟨_, _, _, hfree⟩ | ⟨key, change, old, haccess, hold, hv⟩⟩ :=
        writes_of_plan hplan
      · rw [hfree] at hfound
        cases hfound
      · obtain ⟨hkey, hR⟩ := hchange key change old v bytes haccess hold hv hencode
        refine ⟨bytes, AList.lookup_insert _, .inr ⟨old, hkey ▸ hold, fun w hw => ?_⟩⟩
        obtain ⟨_, hin, hdecode, _⟩ := read_eq_ok.mp hw
        rw [AList.lookup_insert, Option.some.injEq] at hin
        subst hin
        exact hfaith _ v w hplan hdecode ▸ hR
    · exact ⟨found, (AList.lookup_insert_ne hk).trans hfound, .inl rfl⟩

/-- Every record that can be read satisfies `P`. -/
def Keeps (F : Format ε K V) (P : V → Prop) (t : Files K) : Prop :=
  ∀ k v, F.read t k = .ok v → P v

variable {P : V → Prop}

theorem keeps_empty : F.Keeps P ∅ := fun k v h => by
  obtain ⟨_, hnone, _, _⟩ := read_eq_ok.mp h
  rw [AList.lookup_empty] at hnone
  cases hnone

theorem Keeps.call (hkeeps : F.Keeps P t) (hfaith : F.Faithful t access)
    (hwrites : ∀ bytes v, F.plan t access = .ok ⟨some bytes, v⟩ → P v) :
    F.Keeps P (F.call t access fate).2 := by
  obtain hfiles | ⟨bytes, v, hplan, hfiles⟩ := F.call_files t access fate
  · rwa [hfiles]
  · rw [hfiles]
    intro k w hw
    by_cases hk : k = F.key v
    · obtain ⟨_, hin, hdecode, _⟩ := read_eq_ok.mp hw
      rw [hk, AList.lookup_insert, Option.some.injEq] at hin
      subst hin
      exact hfaith _ v w hplan hdecode ▸ hwrites _ v hplan
    · exact hkeeps k w ((read_insert_ne hk).symm.trans hw)

/-! ## 5. Calls that respect a relation -/

/-- The file of a record that satisfies `P` is not read as any other. -/
def Unambiguous (F : Format ε K V) (P : V → Prop) : Prop :=
  ∀ bytes v w, P v → F.encode v = .ok bytes → F.decode bytes = .ok w → w = v

/-- What the call can write satisfies `P`, and comes from what was there by `R`. -/
def Respects (F : Format ε K V) (P : V → Prop) (R : V → V → Prop) : Access ε K V → Prop
  | .persist value _ _ => ∀ bytes, F.encode value = .ok bytes → P value
  | .revise key change => ∀ old v bytes, P old → F.key old = key → change old = .ok (some v) →
    F.encode v = .ok bytes → F.key v = key ∧ P v ∧ R old v

omit [DecidableEq K] in
theorem respects_reading (key : K) : F.Respects P R (reading key) := fun _ _ _ _ _ h _ => by
  cases h

theorem Respects.writes (h : F.Respects P R access) (hkeeps : F.Keeps P t)
    (hplan : F.plan t access = .ok ⟨some bytes, v⟩) : P v := by
  obtain ⟨hencode, ⟨_, _, rfl, _⟩ | ⟨key, change, old, rfl, hold, hv⟩⟩ := writes_of_plan hplan
  · exact h bytes hencode
  · exact (h old v bytes (hkeeps key old hold) (key_of_read hold) hv hencode).2.1

/-- What the call returns satisfies `P`. -/
theorem Respects.result (h : F.Respects P R access) (hkeeps : F.Keeps P t)
    (hv : (F.call t access fate).1 = .ok v) : P v := by
  obtain ⟨hplan, _⟩ | ⟨bytes, hplan, _⟩ := call_eq_ok hv
  · exact hkeeps _ v (read_of_plan hplan)
  · exact h.writes hkeeps hplan

/-- **The step rule**: one call that respects `P` and `R`. -/
theorem Respects.call (h : F.Respects P R access) (hun : F.Unambiguous P)
    (hkeeps : F.Keeps P t) :
    F.Keeps P (F.call t access fate).2 ∧ F.Evolves R t (F.call t access fate).2 := by
  have hfaith : F.Faithful t access := fun bytes v w hplan =>
    hun bytes v w (h.writes hkeeps hplan) (writes_of_plan hplan).1
  refine ⟨hkeeps.call hfaith fun bytes v => h.writes hkeeps, evolves_call hfaith ?_⟩
  rintro key change old v bytes rfl hold hv hencode
  obtain ⟨hkey, _, hR⟩ := h old v bytes (hkeeps key old hold) (key_of_read hold) hv hencode
  exact ⟨hkey, hR⟩

/-- **Two results for one name**, the second at any later time, are related. -/
theorem Respects.results {access' : Access ε K V} {fate' : Fate} (h : F.Respects P R access)
    (h' : F.Respects P R access') (hun : F.Unambiguous P) (hrefl : ∀ v, P v → R v v)
    (htrans : ∀ u v w, R u v → R v w → R u w) (hkeeps : F.Keeps P t) (hkeeps' : F.Keeps P t')
    (hevolves : F.Evolves R (F.call t access fate).2 t')
    (hv : (F.call t access fate).1 = .ok v) (hw : (F.call t' access' fate').1 = .ok w)
    (hkey : F.key w = F.key v) : R v w := by
  have hPv := h.result hkeeps hv
  -- whatever is read of the name later comes from the first result
  have hfirst : (∃ bytes, t'.lookup (F.key v) = some bytes) ∧
      ∀ u, F.read t' (F.key v) = .ok u → R v u := by
    obtain ⟨hplan, hfiles⟩ | ⟨bytes, hplan, hfiles⟩ := call_eq_ok hv
    · rw [hfiles] at hevolves
      have hread := read_of_plan hplan
      obtain ⟨bytes, hbytes, _, _⟩ := read_eq_ok.mp hread
      obtain ⟨bytes', hbytes', _⟩ := hevolves _ bytes hbytes
      exact ⟨⟨bytes', hbytes'⟩, fun u =>
        hevolves.related (fun x hx => hrefl x (hkeeps _ x hx)) hread⟩
    · have hbytes : (F.call t access fate).2.lookup (F.key v) = some bytes := by
        rw [hfiles]
        exact AList.lookup_insert _
      have hback : ∀ u, F.read (F.call t access fate).2 (F.key v) = .ok u → u = v := by
        intro u hu
        obtain ⟨_, hin, hdecode, _⟩ := read_eq_ok.mp hu
        rw [hbytes, Option.some.injEq] at hin
        subst hin
        exact hun _ v u hPv (writes_of_plan hplan).1 hdecode
      obtain ⟨bytes', hbytes', _⟩ := hevolves _ bytes hbytes
      refine ⟨⟨bytes', hbytes'⟩, fun u hu => ?_⟩
      obtain ⟨bytes', hbytes', rfl | ⟨v', hv', hnext⟩⟩ := hevolves _ bytes hbytes
      · have hsame := (read_congr (hbytes.trans hbytes'.symm)).trans hu
        exact hback u hsame ▸ hrefl v hPv
      · exact hback v' hv' ▸ hnext u hu
  obtain ⟨⟨found, hfound⟩, hlater⟩ := hfirst
  obtain ⟨hplan', _⟩ | ⟨bytes', hplan', _⟩ := call_eq_ok hw
  · exact hlater w (hkey ▸ read_of_plan hplan')
  · obtain ⟨hencode, ⟨_, _, rfl, hfree⟩ | ⟨key, change, old, rfl, hold, hchange⟩⟩ :=
      writes_of_plan hplan'
    · rw [hkey, hfound] at hfree
      cases hfree
    · obtain ⟨hkeep, _, hR⟩ :=
        h' old w bytes' (hkeeps' key old hold) (key_of_read hold) hchange hencode
      have hname : key = F.key v := hkeep.symm.trans hkey
      exact htrans v old w (hlater old (hname ▸ hold)) hR

/-- Made again, the call finds nothing left to do. -/
def Repeatable (F : Format ε K V) : Access ε K V → Prop
  | .persist value replays _ => replays value = true
  | .revise key change => ∀ old v, F.key old = key → change old = .ok (some v) →
    F.key v = key ∧ change v = .ok none

/-- **A call made again**, while the record is what the first one returned. -/
theorem Repeatable.call_again (h : F.Repeatable access) (hv : (F.call t access fate).1 = .ok v)
    (hread : F.read t' (F.key v) = .ok v) : F.call t' access .completed = (.ok v, t') := by
  refine call_of_plan ?_
  have hplan : ∃ write, F.plan t access = .ok ⟨write, v⟩ := by
    obtain ⟨hplan, _⟩ | ⟨bytes, hplan, _⟩ := call_eq_ok hv
    · exact ⟨none, hplan⟩
    · exact ⟨some bytes, hplan⟩
  obtain ⟨write, hplan⟩ := hplan
  cases access with
  | persist value replays conflict =>
    have hsame : F.key v = F.key value ∧ replays v = true := by
      simp only [plan] at hplan
      split at hplan
      · obtain ⟨_, _, hwrite⟩ := write_eq_ok.mp hplan
        cases hwrite
        exact ⟨rfl, h⟩
      · obtain ⟨existing, hexisting, hplan⟩ := Codec.bind_eq_ok.mp hplan
        split at hplan
        · next hreplays =>
          cases hplan
          exact ⟨key_of_read hexisting, hreplays⟩
        · cases hplan
    obtain ⟨hkey, hreplays⟩ := hsame
    rw [hkey] at hread
    obtain ⟨bytes, hbytes, _, _⟩ := read_eq_ok.mp hread
    simp only [plan, hbytes, hread, Codec.bind_eq_ok, Except.ok.injEq, exists_eq_left', hreplays,
      if_true]
  | revise key change =>
    have hdone : F.key v = key ∧ change v = .ok none := by
      obtain ⟨old, hold, hplan⟩ := Codec.bind_eq_ok.mp hplan
      obtain ⟨changed, hchange, hplan⟩ := Codec.bind_eq_ok.mp hplan
      cases changed with
      | none =>
        cases hplan
        exact ⟨key_of_read hold, hchange⟩
      | some value =>
        obtain ⟨_, _, hwrite⟩ := write_eq_ok.mp hplan
        cases hwrite
        exact h old v (key_of_read hold) hchange
    obtain ⟨hkey, hchange⟩ := hdone
    rw [hkey] at hread
    exact Codec.bind_eq_ok.mpr ⟨v, hread, Codec.bind_eq_ok.mpr ⟨none, hchange, rfl⟩⟩

/-- A call that only reads. -/
theorem call_reading : F.call t (reading k) .completed = (F.read t k, t) := by
  cases hread : F.read t k with
  | error e => simp only [call, plan, reading, hread, bind, Except.bind]
  | ok v => exact call_of_plan (Codec.bind_eq_ok.mpr ⟨v, hread, rfl⟩)

/-! ## 6. When a call reads back -/

/-- Every file was written for a record of its name that satisfies `P`. -/
def Written (F : Format ε K V) (P : V → Prop) (t : Files K) : Prop :=
  ∀ k bytes, t.lookup k = some bytes → ∃ v, P v ∧ F.encode v = .ok bytes ∧ F.key v = k

theorem written_empty : F.Written P ∅ := by
  intro k bytes h
  rw [AList.lookup_empty] at h
  cases h

/-- What is read is what was written. -/
theorem Written.of_read (hwritten : F.Written P t) (hun : F.Unambiguous P)
    (h : F.read t k = .ok v) :
    P v ∧ ∃ bytes, F.encode v = .ok bytes ∧ F.decode bytes = .ok v := by
  obtain ⟨bytes, hbytes, hdecode, _⟩ := read_eq_ok.mp h
  obtain ⟨w, hw, hencode, _⟩ := hwritten k bytes hbytes
  obtain rfl := hun bytes w v hw hencode hdecode
  exact ⟨hw, bytes, hencode, hdecode⟩

theorem Written.keeps (hwritten : F.Written P t) (hun : F.Unambiguous P) : F.Keeps P t :=
  fun _ _ h => (hwritten.of_read hun h).1

theorem Written.call (hwritten : F.Written P t) (hun : F.Unambiguous P)
    (h : F.Respects P R access) : F.Written P (F.call t access fate).2 := by
  rcases F.call_files t access fate with hfiles | ⟨bytes, v, hplan, hfiles⟩
  · rwa [hfiles]
  · rw [hfiles]
    intro k found hfound
    by_cases hk : k = F.key v
    · subst hk
      rw [AList.lookup_insert, Option.some.injEq] at hfound
      subst hfound
      exact ⟨v, h.writes (hwritten.keeps hun) hplan, (writes_of_plan hplan).1, rfl⟩
    · rw [AList.lookup_insert_ne hk] at hfound
      exact hwritten k found hfound

/-- What a call returns is read back, an error has changed nothing, and all files are readable. -/
structure ReadsBack (F : Format ε K V) (t : Files K) (access : Access ε K V) (fate : Fate) :
    Prop where
  result : ∀ v, (F.call t access fate).1 = .ok v →
    F.read (F.call t access fate).2 (F.key v) = .ok v
  unchanged : ∀ e, (F.call t access fate).1 = .error e → fate ≠ .unconfirmed →
    (F.call t access fate).2 = t
  readable : F.Sound (F.call t access fate).2

/-- **A call reads back exactly if what it writes is harmless.** -/
theorem readsBack_iff (hsound : F.Sound t) (hkeeps : F.Keeps P t) (hun : F.Unambiguous P)
    (h : F.Respects P R access) :
    F.ReadsBack t access fate ↔ (fate.Writes → F.Harmless t access) := by
  constructor
  · intro hback hwrites bytes v hplan
    have hfiles : (F.call t access fate).2 = t.insert (F.key v) bytes := by
      rcases hwrites with rfl | rfl <;> simp only [call, hplan]
    have hreadable := hback.readable
    rw [hfiles] at hreadable
    obtain ⟨w, hw⟩ := hreadable (F.key v) bytes (AList.lookup_insert _)
    obtain ⟨found, hfound, hdecode, _⟩ := read_eq_ok.mp hw
    rw [AList.lookup_insert, Option.some.injEq] at hfound
    subst hfound
    obtain rfl := hun bytes v w (h.writes hkeeps hplan) (writes_of_plan hplan).1 hdecode
    exact hdecode
  · intro hsafe
    by_cases hwrites : fate.Writes
    · exact ⟨fun v => read_of_call (hsafe hwrites), fun e => files_of_error,
        hsound.call (hsafe hwrites)⟩
    · -- nothing reaches the directory
      have hsame : (F.call t access fate).2 = t ∧ ∀ v, (F.call t access fate).1 = .ok v →
          F.plan t access = .ok ⟨none, v⟩ := by
        unfold call
        split
        · exact ⟨rfl, fun v h => by cases h⟩
        · exact ⟨rfl, fun v h => by cases h⟩
        · next hplan => exact ⟨rfl, fun v h => by cases h; exact hplan⟩
        · exact absurd (.inl rfl) hwrites
        · exact ⟨rfl, fun v h => by cases h⟩
        · exact absurd (.inr rfl) hwrites
      obtain ⟨hfiles, hresult⟩ := hsame
      refine ⟨fun v hv => ?_, fun _ _ _ => hfiles, ?_⟩
      · rw [hfiles]
        exact read_of_plan (hresult v hv)
      · rwa [hfiles]

/-- When a revision is harmless. -/
theorem harmless_revise_iff :
    F.Harmless t (.revise k change) ↔ ∀ old v bytes, F.read t k = .ok old →
      change old = .ok (some v) → F.encode v = .ok bytes → F.decode bytes = .ok v := by
  constructor
  · intro h old v bytes hread hchange hencode
    refine h bytes v ?_
    simp only [plan, hread, hchange, write, hencode, bind, Except.bind]
  · intro h bytes v hplan
    obtain ⟨hencode, ⟨_, _, haccess, _⟩ | ⟨key, change', old, haccess, hold, hv⟩⟩ :=
      writes_of_plan hplan
    · cases haccess
    · cases haccess
      exact h old v bytes hold hv hencode

/-- When a record can be persisted without harm. -/
theorem harmless_persist_iff :
    F.Harmless t (.persist v replays conflict) ↔
      ∀ bytes, t.lookup (F.key v) = none → F.encode v = .ok bytes → F.decode bytes = .ok v := by
  constructor
  · intro h bytes hfree hencode
    refine h bytes v ?_
    simp only [plan, hfree, write, hencode, bind, Except.bind]
  · intro h bytes w hplan
    obtain ⟨hencode, ⟨_, _, haccess, hfree⟩ | ⟨_, _, _, haccess, _⟩⟩ := writes_of_plan hplan
    · cases haccess
      exact h bytes hfree hencode
    · cases haccess

theorem harmless_reading (key : K) : F.Harmless t (reading key) :=
  harmless_revise_iff.mpr fun _ _ _ _ h => by cases h

/-! ## 7. Runs -/

/-- **The run rule**, for a system that has such a store among its parts and whose steps respect
`P` and `R` there. -/
theorem run_evolves {σ ℓ : Type} {step : σ → ℓ → Option σ} {files : σ → Files K} {s s' : σ}
    {labels : List ℓ} (htrans : ∀ u v w, R u v → R v w → R u w)
    (hstep : ∀ s label s', F.Keeps P (files s) → step s label = some s' →
      F.Keeps P (files s') ∧ F.Evolves R (files s) (files s'))
    (hkeeps : F.Keeps P (files s)) (h : Transition.run step s labels = some s') :
    F.Keeps P (files s') ∧ F.Evolves R (files s) (files s') := by
  have hrule := @Transition.run_relation σ ℓ step (fun _ _ => True)
    (fun s => F.Keeps P (files s)) (fun s s' => F.Evolves R (files s) (files s'))
  exact hrule (fun s _ => .refl (files s)) (fun _ _ _ _ h h' => h.trans htrans h')
    (fun s label s' hkeeps _ => hstep s label s' hkeeps) hkeeps (Transition.guarded_true labels s) h

end Format

end RecordFiles
