/-
# Self-delimiting encodings

A byte string that is made of fields one behind the other tells its fields apart when each field is
written so that no other value's writing continues it.  `SelfDelimiting` says so of one field: what
stands behind it does not matter to what it is read as.  Fields of a fixed width are
self-delimiting, and so are texts behind their length and options behind a discriminant; what is
self-delimiting field by field is so as a whole (`SelfDelimiting.append`).
-/
import ElastosRuntime.Lib.Bytes

variable {α β : Type}

/-- Two values of the domain whose writings start two equal byte strings are the same, and so are
the rests. -/
def SelfDelimiting (P : α → Prop) (encode : α → List UInt8) : Prop :=
  ∀ ⦃a b : α⦄, P a → P b → ∀ ⦃s t : List UInt8⦄, encode a ++ s = encode b ++ t → a = b ∧ s = t

/-- The value `a` is told from the values of the domain by its writing, whatever stands behind. -/
def DelimitedAmong (P : α → Prop) (encode : α → List UInt8) (a : α) : Prop :=
  ∀ ⦃b : α⦄, P b → ∀ ⦃s t : List UInt8⦄, encode a ++ s = encode b ++ t → a = b ∧ s = t

namespace SelfDelimiting

variable {P : α → Prop} {Q : β → Prop} {encode : α → List UInt8} {encode' : β → List UInt8}

/-- Fields of one width. -/
theorem of_length (n : Nat) (hlength : ∀ a, P a → (encode a).length = n)
    (hinj : ∀ a b, P a → P b → encode a = encode b → a = b) : SelfDelimiting P encode := by
  intro a b ha hb s t h
  obtain ⟨hab, hst⟩ := List.append_inj h (by rw [hlength a ha, hlength b hb])
  exact ⟨hinj a b ha hb hab, hst⟩

theorem byte : SelfDelimiting (fun _ => True) fun b : UInt8 => [b] :=
  of_length 1 (fun _ _ => rfl) fun _ _ _ _ h => List.cons.inj h |>.1

theorem bytes (n : Nat) : SelfDelimiting (fun _ => True) fun b : Bytes n => b.toList :=
  of_length n (fun b _ => b.length_toList) fun a b _ _ h => List.Vector.eq a b h

theorem le (k : Nat) : SelfDelimiting (fun n => n < 256 ^ k) (leBytes k) := by
  refine of_length k (fun n _ => leBytes_length k n) fun a b ha hb h => ?_
  have hread := congrArg ofLeBytes h
  rwa [ofLeBytes_leBytes, ofLeBytes_leBytes, Nat.mod_eq_of_lt ha, Nat.mod_eq_of_lt hb] at hread

/-- A field that determines another is as good. -/
theorem comap {f : β → α} (hf : Function.Injective f) (h : SelfDelimiting P encode) :
    SelfDelimiting (fun b => P (f b)) fun b => encode (f b) := by
  intro a b ha hb s t heq
  obtain ⟨hab, hst⟩ := h ha hb heq
  exact ⟨hf hab, hst⟩

/-- One field behind another. -/
theorem append (h : SelfDelimiting P encode) (h' : SelfDelimiting Q encode') :
    SelfDelimiting (fun p : α × β => P p.1 ∧ Q p.2) fun p => encode p.1 ++ encode' p.2 := by
  rintro ⟨a, b⟩ ⟨c, d⟩ ⟨ha, hb⟩ ⟨hc, hd⟩ s t heq
  simp only [List.append_assoc] at heq
  obtain ⟨rfl, hrest⟩ := h ha hc heq
  obtain ⟨rfl, hst⟩ := h' hb hd hrest
  exact ⟨rfl, hst⟩

/-- A text behind its length. -/
theorem prefixed (k : Nat) :
    SelfDelimiting (fun bs : List UInt8 => bs.length < 256 ^ k)
      fun bs => leBytes k bs.length ++ bs := by
  intro a b ha hb s t h
  simp only [List.append_assoc] at h
  obtain ⟨hlength, hrest⟩ := le k ha hb h
  exact List.append_inj hrest hlength

/-- An option behind its discriminant. -/
theorem option (h : SelfDelimiting P encode) :
    SelfDelimiting (fun o : Option α => ∀ a ∈ o, P a)
      fun o => o.elim [0] fun a => 1 :: encode a := by
  intro o o' ho ho' s t heq
  cases o with
  | none =>
    cases o' with
    | none => exact ⟨rfl, List.append_cancel_left heq⟩
    | some b => exact absurd (List.cons.inj heq).1 (by decide)
  | some a =>
    cases o' with
    | none => exact absurd (List.cons.inj heq).1 (by decide)
    | some b =>
      obtain ⟨rfl, hst⟩ := h (ho a rfl) (ho' b rfl) (List.cons.inj heq).2
      exact ⟨rfl, hst⟩

/-! Several values one behind the other, the number of them being known: each of the first ones is
told from the values of the domain (`DelimitedAmong`), and that is enough. -/

theorem among (h : SelfDelimiting P encode) {a : α} (ha : P a) : DelimitedAmong P encode a :=
  fun _ hb _ _ heq => h ha hb heq

end SelfDelimiting

namespace DelimitedAmong

variable {P : α → Prop} {Q : β → Prop} {encode : α → List UInt8} {encode' : β → List UInt8}

/-- One field behind another. -/
theorem append {a : α} {b : β} (h : DelimitedAmong P encode a) (h' : DelimitedAmong Q encode' b) :
    DelimitedAmong (fun p : α × β => P p.1 ∧ Q p.2) (fun p => encode p.1 ++ encode' p.2) (a, b) := by
  rintro ⟨c, d⟩ ⟨hc, hd⟩ s t heq
  simp only [List.append_assoc] at heq
  obtain ⟨rfl, hrest⟩ := h hc heq
  obtain ⟨rfl, hst⟩ := h' hd hrest
  exact ⟨rfl, hst⟩

/-- As many values of the domain behind one another. -/
theorem flatMap {l m : List α} (hl : ∀ a ∈ l, DelimitedAmong P encode a) (hm : ∀ b ∈ m, P b)
    (hlength : l.length = m.length) {s t : List UInt8}
    (h : l.flatMap encode ++ s = m.flatMap encode ++ t) : l = m ∧ s = t := by
  induction l generalizing m with
  | nil =>
    obtain rfl := List.length_eq_zero_iff.mp hlength.symm
    exact ⟨rfl, h⟩
  | cons a l ih =>
    cases m with
    | nil => cases hlength
    | cons b m =>
      simp only [List.flatMap_cons, List.append_assoc] at h
      obtain ⟨rfl, hrest⟩ := hl a List.mem_cons_self (hm b List.mem_cons_self) h
      obtain ⟨rfl, hst⟩ := ih (fun a ha => hl a (List.mem_cons_of_mem _ ha))
        (fun b hb => hm b (List.mem_cons_of_mem _ hb)) (Nat.succ.inj hlength) hrest
      exact ⟨rfl, hst⟩

end DelimitedAmong
