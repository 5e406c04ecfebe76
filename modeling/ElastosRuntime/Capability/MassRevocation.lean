/-
# What a reported mass revocation guarantees

The revoke-all handler answers `success: true` whatever `advance_epoch` did.  When the epoch
cannot be persisted the counter stays where it was, `revoke_all_granted` runs all the same and
the answer is the same success, while every token is as valid as before
(`failed_write_reports_success`).

`completes` is the condition under which the answer is true: the reporting call's own write and
rename went through.  What it then carries to its report is `Reporting`, and
`reported_revocation_holds` says that from the report on, over every interleaving, crash and
restart, no token of the epoch at the time of the call is accepted.
-/
import ElastosRuntime.Capability.Epoch

namespace ElastosRuntime.EpochSystem

open Transition

variable [Crypto]

/-! ## 1. The steps of one call -/

/-- The write and the rename of the call go through, in a run whose revocations are in order. -/
def completes (c : CallId) (w : World) (l : Label) : Prop :=
  orderly w l ∧
    match l with
    | .write c' outcome => c' = c → outcome = .done
    | .rename c' ok => c' = c → ok = true ∧ w.dir.epochTmp.isSome = true
    | _ => True

/-- Whether `advance_epoch` has returned to the handler. -/
def AdvanceCall.answered (call : AdvanceCall) : Bool :=
  match call.phase with
  | .returned _ => true
  | .marked _ => true
  | _ => false

variable {w w' : World} {c : CallId}

/-- A step of one call leaves the others alone. -/
theorem advance_lookup_ne {p : Process} {c' : CallId} {call : AdvanceCall} {l : Label}
    (h : advance w p c call l = some w')
    (hne : c' ≠ c) : w'.calls.lookup c' = w.calls.lookup c' := by
  have hinsert : ∀ call', (w.calls.insert c call').lookup c' = w.calls.lookup c' :=
    fun call' => by rw [Table.lookup_insert_eq, if_neg hne]
  have herase : (w.calls.erase c).lookup c' = w.calls.lookup c' := by
    rw [Table.lookup_erase_eq, if_neg hne]
  cases l with
  | write c'' outcome =>
    simp only [advance] at h
    split at h
    · cases h
      exact hinsert _
    · cases h
  | rename c'' ok =>
    simp only [advance] at h
    split at h
    · split at h
      · cases h
        exact hinsert _
      · cases h
        exact hinsert _
    · cases h
  | store c'' =>
    simp only [advance] at h
    split at h
    · cases h
      exact hinsert _
    · split at h
      · cases h
        exact hinsert _
      · cases h
  | markRevoked c'' =>
    simp only [advance] at h
    split at h
    · cases h
      exact hinsert _
    · cases h
  | report c'' =>
    simp only [advance] at h
    split at h
    · cases h
      exact herase
    · cases h
  | _ => cases h

/-- Where a call stands after a step: where it stood, at its start, or one step of its own
further. -/
theorem step_lookup {l : Label} {call' : AdvanceCall} (h : step w l = some w')
    (hc : w'.calls.lookup c = some call') :
    w.calls.lookup c = some call' ∨ ∃ p, w.process = some p ∧
      (call' = ⟨p.epoch, .loaded⟩ ∨ ∃ call, l.call? = some c ∧ w.calls.lookup c = some call ∧
        advance w p c call l = some w') := by
  cases hp : w.process with
  | none =>
    cases l with
    | start =>
      simp only [step, hp, Option.some.injEq] at h
      subst h
      exact Or.inl hc
    | _ => simp [step, hp] at h
  | some p =>
    cases hl : l.call? with
    | some c' =>
      rw [step_call hp hl] at h
      obtain ⟨call, hcall, hadvance⟩ := Option.bind_eq_some_iff.mp h
      by_cases heq : c = c'
      · subst heq
        exact Or.inr ⟨p, rfl, Or.inr ⟨call, rfl, hcall, hadvance⟩⟩
      · rw [advance_lookup_ne hadvance heq] at hc
        exact Or.inl hc
    | none =>
      cases l with
      | load c' =>
        simp only [step, hp] at h
        split at h
        · cases h
        · cases h
          simp only [World.setPhase, Table.lookup_insert_eq] at hc
          split at hc
          · cases hc
            exact Or.inr ⟨p, rfl, Or.inl rfl⟩
          · exact Or.inl hc
      | crash =>
        simp only [step, hp, Option.some.injEq] at h
        subst h
        rw [AList.lookup_empty] at hc
        cases hc
      | start => simp [step, hp] at h
      | persistLoad =>
        simp only [step, hp, Option.some.injEq] at h
        subst h
        exact Or.inl hc
      | persistWrite outcome revokedOk =>
        simp only [step, hp, Option.map_eq_some_iff] at h
        obtain ⟨loaded, -, rfl⟩ := h
        exact Or.inl hc
      | operate op =>
        simp only [step, hp, Option.some.injEq] at h
        subst h
        exact Or.inl hc
      | pending l =>
        simp only [step, hp, Option.map_eq_some_iff] at h
        obtain ⟨pending, -, rfl⟩ := h
        exact Or.inl hc
      | _ => cases hl

/-! ## 2. A call on its way to the report -/

/-- The call, made at `epoch` or later, has not failed, and once `advance_epoch` has returned to
it the counter is past what it loaded. -/
structure Reporting (epoch : Nat) (c : CallId) (w : World) : Prop where
  inv : EpochInv w
  risen : epoch ≤ level w
  call : ∀ call, w.calls.lookup c = some call → epoch ≤ call.base ∧ call.phase ≠ .failed ∧
    (call.answered = true → call.base + 1 ≤ level w)

/-- **A completing step** keeps the call on its way. -/
theorem Reporting.step {epoch : Nat} {l : Label} (hw : Reporting epoch c w) (hg : completes c w l)
    (h : step w l = some w') : Reporting epoch c w' := by
  obtain ⟨hinv, hrise⟩ := hw.inv.step hg.1 h
  refine ⟨hinv, Nat.le_trans hw.risen hrise.1, fun call' hc => ?_⟩
  rcases step_lookup h hc with hsame | ⟨p, hp, rfl | ⟨call, hl, hcall, hadvance⟩⟩
  · obtain ⟨hbase, hfailed, hanswered⟩ := hw.call call' hsame
    exact ⟨hbase, hfailed, fun ha => Nat.le_trans (hanswered ha) hrise.1⟩
  · have hrisen := hw.risen
    simp only [level, hp] at hrisen
    exact ⟨hrisen, by simp, by simp [AdvanceCall.answered]⟩
  · obtain ⟨hbase, hfailed, hanswered⟩ := hw.call call hcall
    have hrunning := hw.inv
    simp only [EpochInv, hp] at hrunning
    obtain ⟨hpersistent, hrunning⟩ := hrunning
    cases l with
    | write c' outcome =>
      cases hl
      cases hg.2 rfl
      simp only [advance] at hadvance
      split at hadvance
      · cases hadvance
        simp only [World.setPhase, Table.lookup_insert_eq, if_true] at hc
        cases hc
        exact ⟨hbase, by simp, by simp [AdvanceCall.answered]⟩
      · cases hadvance
    | rename c' ok =>
      cases hl
      obtain ⟨rfl, htmp⟩ := hg.2 rfl
      obtain ⟨text, htext⟩ := Option.isSome_iff_exists.mp htmp
      simp only [advance, DataDir.renameEpoch, htext, Option.map_some] at hadvance
      split at hadvance
      · cases hadvance
        simp only [World.setPhase, Table.lookup_insert_eq, if_true] at hc
        cases hc
        exact ⟨hbase, by simp, by simp [AdvanceCall.answered]⟩
      · cases hadvance
    | store c' =>
      cases hl
      simp only [advance] at hadvance
      split at hadvance
      · next hphase =>
        have hrenamed : call.phase = .renamed := by
          rcases hphase with hphase | ⟨-, hnot⟩
          · exact hphase
          · rw [hpersistent] at hnot
            cases hnot
        have hown := hrunning.flight c call hcall (inFlight_of_renamed hrenamed)
        rw [newEpoch_eq hown.2.2.2] at hadvance
        cases hadvance
        simp only [World.setPhase, Table.lookup_insert_eq, if_true] at hc
        cases hc
        exact ⟨hbase, by simp, fun _ => Nat.le_refl _⟩
      · -- The other way to store is after a failure.
        cases hadvance
    | markRevoked c' =>
      cases hl
      simp only [advance] at hadvance
      split at hadvance
      · next newEpoch hphase =>
        cases hadvance
        simp only [World.setPhase, Table.lookup_insert_eq, if_true] at hc
        cases hc
        refine ⟨hbase, by simp, fun _ => ?_⟩
        exact Nat.le_trans (hanswered (by simp [AdvanceCall.answered, hphase])) hrise.1
      · cases hadvance
    | report c' =>
      cases hl
      simp only [advance] at hadvance
      split at hadvance
      · cases hadvance
        rw [Table.lookup_erase_eq, if_pos rfl] at hc
        cases hc
      · cases hadvance
    | _ => cases hl

/-- Before the call is made. -/
theorem Reporting.of_idle {p : Process} (hw : EpochInv w) (hp : w.process = some p)
    (hc : w.calls.lookup c = none) : Reporting p.epoch c w where
  inv := hw
  risen := by simp only [level, hp]; exact Nat.le_refl _
  call := fun call hcall => by rw [hc] at hcall; cases hcall

/-! ## 3. From the report on -/

/-- **A reported revocation holds.**  A call is made in `s` and reported in `u`, with success as
always.  If its write and rename went through, no token of the epoch at the time of the call or
of an earlier one is accepted in any state after the report. -/
theorem reported_revocation_holds (w₀ s u v : World) (ls ms ks : List Label) (c : CallId)
    (p q : Process) (newEpoch : Nat) (h₀ : Initial w₀)
    (hgs : Guarded step orderly w₀ ls) (hs : run step w₀ ls = some s) (hp : s.process = some p)
    (hgu : Guarded step (completes c) s (.load c :: ms))
    (hu : run step s (.load c :: ms) = some u)
    (hreport : output u (.report c) = some ⟨true, newEpoch⟩)
    (hgv : Guarded step orderly u (.report c :: ks))
    (hv : run step u (.report c :: ks) = some v) (hq : v.process = some q)
    (token : CapabilityToken) (htoken : token.constraints.epoch ≤ p.epoch)
    (clock : ValidationClock) (request : AccessRequest) :
    (q.manager.validate clock token request).1 ≠ .ok () := by
  have hsinv : EpochInv s := run_invariant (fun s l t hs hgl hst => (hs.step hgl hst).1)
    h₀.epochInv hgs hs
  have hidle : s.calls.lookup c = none := by
    obtain ⟨t, ht, -⟩ := run_cons_eq_some.mp hu
    simp only [step, hp] at ht
    split at ht
    · cases ht
    · next hnone => simpa using hnone
  have hureporting : Reporting p.epoch c u := run_invariant
    (fun s l t hs hgl hst => hs.step hgl hst) (Reporting.of_idle hsinv hp hidle) hgu hu
  obtain ⟨call, hcall, hphase⟩ := Option.bind_eq_some_iff.mp hreport
  obtain ⟨hbase, -, hanswered⟩ := hureporting.call call hcall
  have hpast : p.epoch + 1 ≤ level u := by
    refine Nat.le_trans (Nat.succ_le_succ hbase) (hanswered ?_)
    split at hphase
    · next hmarked => rw [AdvanceCall.answered, hmarked]
    · cases hphase
  obtain ⟨-, hlevel, -⟩ := run_relation
    (fun s _ => (⟨Nat.le_refl _, Nat.le_refl _⟩ : Rises s s))
    (fun s t u _ hst htu => ⟨Nat.le_trans hst.1 htu.1, Nat.le_trans hst.2 htu.2⟩)
    (fun s l t hs hgl hst => hs.step hgl hst) hureporting.inv hgv hv
  have hcounter : p.epoch + 1 ≤ q.epoch := by
    simp only [level, hq] at hlevel
    exact Nat.le_trans hpast hlevel
  exact CapabilityManager.validate_ne_ok_of_epoch_lt (Nat.lt_of_le_of_lt htoken hcounter) clock
    request

section Examples

/-- A call of the handler whose write ends so, up to its report. -/
def unreported (c : CallId) : DataDir.WriteOutcome → List Label
  | .done => [.load c, .write c .done, .rename c true, .store c, .markRevoked c]
  | .failed left => [.load c, .write c (.failed left), .store c, .markRevoked c]

/-- What the handler reports after a run. -/
def reported (c : CallId) (ls : List Label) : Option RevokeAllOutput :=
  (run step nothing ls).bind fun w => output w (.report c)

omit [Crypto] in
/-- The disk is full: the handler reports success, and the token of the epoch it claims to have
revoked is accepted. -/
theorem failed_write_reports_success :
    letI := keyEchoCrypto
    let ls := firstStart :: unreported 1 (.failed none)
    observe (tokenOfEpoch 0) [firstStart] = some (some (0, true), 0) ∧
      reported 1 ls = some ⟨true, 0⟩ ∧
      observe (tokenOfEpoch 0) (ls ++ [.report 1]) = some (some (0, true), 0) := by
  decide

omit [Crypto] in
/-- When the write goes through, the token is refused after the report and a restart. -/
theorem revoked_after_report :
    letI := keyEchoCrypto
    ∃ v, run step nothing ((firstStart :: unreported 1 .done) ++ [.report 1, .crash, firstStart]) =
        some v ∧
      ∃ q, v.process = some q ∧ (q.manager.validate ⟨⟨1000, 2⟩, ⟨1000, 3⟩⟩ (tokenOfEpoch 0)
        ⟨"reader", .read, ⟨"localhost://docs/a"⟩, none⟩).1 ≠ .ok () := by
  let _ := keyEchoCrypto
  refine ⟨_, rfl, _, rfl, ?_⟩
  refine reported_revocation_holds nothing _ _ _ [firstStart] _ [.crash, firstStart] 1 _ _ 1
    ⟨rfl, rfl, rfl⟩ (Guarded.cons rfl rfl trivial) rfl rfl ?_
    (rfl : run step _ (unreported 1 .done) = some _) rfl ?_ rfl rfl _ (Nat.le_refl _) _ _
  · exact Guarded.cons rfl ⟨⟨by decide, fun _ _ h => nomatch h⟩, trivial⟩ <|
      Guarded.cons rfl ⟨trivial, fun _ => rfl⟩ <|
      Guarded.cons rfl ⟨trivial, fun _ => ⟨rfl, rfl⟩⟩ <|
      Guarded.cons rfl ⟨trivial, trivial⟩ <| Guarded.cons rfl ⟨trivial, trivial⟩ trivial
  · exact Guarded.cons rfl trivial <| Guarded.cons rfl trivial <| Guarded.cons rfl rfl trivial

end Examples

end ElastosRuntime.EpochSystem
