/-
# The stages of a mint record

A mint record is filled in from the bottom up: the effects of its nodes and their receipts, then
the end of custody, then the content's availability, then what the creator wants and what has
become of it.  `Staged` says that nothing stands on a stage that is missing; `Advances` says how a
record may differ from an earlier one, which is that stages have been added and none has changed.

Each operation reads the whole record and writes the whole record, with guards of its own, so both
are shown of each (`Stages`).  They then hold between any two results a journal gives for one mint,
whatever calls and losses of files lie in between (`record_staging`).
-/
import ElastosRuntime.Contracts.ReleaseChain
import ElastosRuntime.Mint.Operations

namespace ElastosRuntime.MintJournal

open Codec Contracts RecordFiles

/-! ## 1. Later versions -/

/-- What has been bound stays bound. -/
def Kept {α : Type} (v w : Option α) : Prop := ∀ a ∈ v, w = some a

variable {α : Type}

theorem Kept.refl (v : Option α) : Kept v v := fun _ h => h

theorem Kept.trans {u v w : Option α} (h : Kept u v) (h' : Kept v w) : Kept u w := by
  intro a ha
  exact h' a (h a ha)

theorem Kept.of_none {v w : Option α} (h : v = none) : Kept v w := by
  intro a ha
  rw [h] at ha
  cases ha

/-- A later version of a creator state. -/
structure RuntimeMintCreatorState.Advances (v w : RuntimeMintCreatorState) : Prop where
  desiredTerms : w.desiredTerms = v.desiredTerms
  metadataCid : w.metadataCid = v.metadataCid
  tokenUri : w.tokenUri = v.tokenUri
  effect : Kept v.effect w.effect
  operatorApproval : Kept v.operatorApproval w.operatorApproval
  terminal : Kept v.terminal w.terminal

namespace RuntimeMintCreatorState.Advances

variable {u v w : RuntimeMintCreatorState}

theorem refl (v : RuntimeMintCreatorState) : v.Advances v :=
  ⟨rfl, rfl, rfl, .refl _, .refl _, .refl _⟩

theorem trans (h : u.Advances v) (h' : v.Advances w) : u.Advances w where
  desiredTerms := h'.desiredTerms.trans h.desiredTerms
  metadataCid := h'.metadataCid.trans h.metadataCid
  tokenUri := h'.tokenUri.trans h.tokenUri
  effect := h.effect.trans h'.effect
  operatorApproval := h.operatorApproval.trans h'.operatorApproval
  terminal := h.terminal.trans h'.terminal

end RuntimeMintCreatorState.Advances

variable {v w : RuntimeMintCreatorState}

/-- What is bound once, is either there already or was not there before. -/
theorem RuntimeMintCreatorState.bindOnce_eq_ok [DecidableEq α] {bound : RuntimeMintCreatorState}
    {existing : Option α} {value : α} (h : v.bindOnce existing value bound = .ok w) :
    w = v ∨ existing = none ∧ w = bound := by
  unfold bindOnce at h
  split at h
  · obtain ⟨_, _, h⟩ := bind_eq_ok.mp h
    cases h
    exact .inl rfl
  · obtain ⟨_, _, h⟩ := bind_eq_ok.mp h
    cases h
    exact .inr ⟨rfl, rfl⟩

variable {effect : RuntimeMintCreatorEffectBinding}

theorem RuntimeMintCreatorState.advances_withEffect (h : v.withEffect effect = .ok w) :
    v.Advances w := by
  rcases RuntimeMintCreatorState.bindOnce_eq_ok h with rfl | ⟨hnone, rfl⟩
  · exact .refl w
  · exact ⟨rfl, rfl, rfl, .of_none hnone, .refl _, .refl _⟩

theorem RuntimeMintCreatorState.advances_withOperatorApproval
    (h : v.withOperatorApproval effect = .ok w) : v.Advances w := by
  rcases RuntimeMintCreatorState.bindOnce_eq_ok h with rfl | ⟨hnone, rfl⟩
  · exact .refl w
  · exact ⟨rfl, rfl, rfl, .refl _, .of_none hnone, .refl _⟩

theorem RuntimeMintCreatorState.advances_withTerminal
    {terminal : RuntimeMintCreatorTerminalEvidence}
    (h : v.withTerminal terminal = .ok w) : v.Advances w := by
  rcases RuntimeMintCreatorState.bindOnce_eq_ok h with rfl | ⟨hnone, rfl⟩
  · exact .refl w
  · exact ⟨rfl, rfl, rfl, .refl _, .refl _, .of_none hnone⟩

theorem forall₂_trans {R : α → α → Prop} (htrans : ∀ a b c, R a b → R b c → R a c) :
    ∀ {as bs cs : List α}, List.Forall₂ R as bs → List.Forall₂ R bs cs → List.Forall₂ R as cs
  | [], [], [], .nil, .nil => .nil
  | _ :: _, _ :: _, _ :: _, .cons h hs, .cons h' hs' =>
    .cons (htrans _ _ _ h h') (forall₂_trans htrans hs hs')

section

variable [Curves]

/-- A later version of a node's state. -/
structure MintNodeState.Advances (v w : MintNodeState) : Prop where
  binding : w.binding = v.binding
  effectStarted : v.effectStarted = true → w.effectStarted = true
  receipt : Kept v.receipt w.receipt

theorem MintNodeState.Advances.refl (v : MintNodeState) : v.Advances v := ⟨rfl, id, .refl _⟩

theorem MintNodeState.Advances.trans {u v w : MintNodeState} (h : u.Advances v)
    (h' : v.Advances w) : u.Advances w where
  binding := h'.binding.trans h.binding
  effectStarted := h'.effectStarted ∘ h.effectStarted
  receipt := h.receipt.trans h'.receipt

variable [Crypto]

namespace PersistedRuntimeMint

/-- **A later version of a mint record.** -/
structure Advances (v w : PersistedRuntimeMint) : Prop where
  draft : w.draft = v.draft
  nodeStates : List.Forall₂ MintNodeState.Advances v.nodeStates w.nodeStates
  custodyTerminal : Kept v.custodyTerminal w.custodyTerminal
  frozen : v.custodyTerminal.isSome → w.nodeStates = v.nodeStates
  contentAvailability : Kept v.contentAvailability w.contentAvailability
  creatorState : ∀ state ∈ v.creatorState, ∃ state' ∈ w.creatorState, state.Advances state'

/-- **No stage without the one below it.** -/
structure Staged (v : PersistedRuntimeMint) : Prop where
  wellFormed : v.WellFormed
  nodes : v.nodeStates.length = REQUIRED_NODES
  receipts : ∀ state ∈ v.nodeStates, ∀ receipt ∈ state.receipt, state.effectStarted = true ∧
    receipt.nodePublicKey = state.binding.nodePublicKey ∧
    receipt.ownerStateRoot = state.binding.ownerStateRoot
  custodyProvisioned : v.custodyTerminal = some .custodyProvisioned →
    ∀ state ∈ v.nodeStates, state.receipt.isSome
  contentAvailability : v.contentAvailability.isSome →
    v.custodyTerminal = some .custodyProvisioned
  creatorState : v.creatorState.isSome → v.contentAvailability.isSome

variable {u v w : PersistedRuntimeMint}

theorem Advances.refl (v : PersistedRuntimeMint) : v.Advances v where
  draft := rfl
  nodeStates := List.forall₂_same.mpr fun state _ => .refl state
  custodyTerminal := .refl _
  frozen := fun _ => rfl
  contentAvailability := .refl _
  creatorState := fun state hstate => ⟨state, hstate, .refl state⟩

theorem Advances.trans (h : u.Advances v) (h' : v.Advances w) : u.Advances w where
  draft := h'.draft.trans h.draft
  nodeStates := forall₂_trans (fun _ _ _ => .trans) h.nodeStates h'.nodeStates
  custodyTerminal := h.custodyTerminal.trans h'.custodyTerminal
  frozen := by
    intro hsome
    obtain ⟨kind, hkind⟩ := Option.isSome_iff_exists.mp hsome
    have hlater : v.custodyTerminal.isSome := by
      rw [h.custodyTerminal kind hkind]
      rfl
    exact (h'.frozen hlater).trans (h.frozen hsome)
  contentAvailability := h.contentAvailability.trans h'.contentAvailability
  creatorState := by
    intro state hstate
    obtain ⟨state', hstate', hadvances⟩ := h.creatorState state hstate
    obtain ⟨state'', hstate'', hadvances'⟩ := h'.creatorState state' hstate'
    exact ⟨state'', hstate'', hadvances.trans hadvances'⟩

/-- The record of a draft that has just been bound is at its first stage. -/
theorem staged_bound (draft : RuntimeMintDraft) : (bound draft).Staged where
  wellFormed := {
    bindings := by
      rw [bound, List.map_map]
      exact List.map_id draft.nodes
    nodeStates := by
      intro state hstate
      obtain ⟨binding, _, rfl⟩ := List.mem_map.mp hstate
      intro receipt hreceipt
      cases hreceipt
    contentAvailability := by
      intro evidence hevidence
      cases hevidence }
  nodes := by
    rw [bound, List.length_map]
    exact draft.parts_recorded.nodes
  receipts := by
    intro state hstate receipt hreceipt
    obtain ⟨binding, _, rfl⟩ := List.mem_map.mp hstate
    cases hreceipt
  custodyProvisioned := by
    intro h
    cases h
  contentAvailability := by
    intro h
    cases h
  creatorState := by
    intro h
    cases h

/-! ## 2. What each operation does to a record -/

/-- What the operation writes is at a stage again, and a later version of what was there. -/
def Stages (change : PersistedRuntimeMint →
    Except RuntimeMintJournalError (Option PersistedRuntimeMint)) : Prop :=
  ∀ old v, old.Staged → change old = .ok (some v) → v.Staged ∧ old.Advances v

/-- A node state is put in the place of an earlier one. -/
theorem stages_node (h : v.Staged) (hopen : v.custodyTerminal = none)
    {before after : List MintNodeState} {node node' : MintNodeState}
    (hnodes : v.nodeStates = before ++ node :: after) (hnode : node.Advances node')
    (hreceipt : ∀ receipt ∈ node'.receipt, node'.effectStarted = true ∧
      receipt.Of node'.binding) :
    ({ v with nodeStates := before ++ node' :: after } : PersistedRuntimeMint).Staged ∧
      v.Advances { v with nodeStates := before ++ node' :: after } := by
  have hmem : ∀ state ∈ before ++ node' :: after, state = node' ∨ state ∈ v.nodeStates := by
    intro state hstate
    rw [hnodes]
    simp only [List.mem_append, List.mem_cons] at hstate ⊢
    rcases hstate with hstate | hstate | hstate
    · exact .inr (.inl hstate)
    · exact .inl hstate
    · exact .inr (.inr (.inr hstate))
  have hstaged : ({ v with nodeStates := before ++ node' :: after } :
      PersistedRuntimeMint).Staged := {
    wellFormed := {
      bindings := by
        have hbindings := h.wellFormed.bindings
        rw [hnodes] at hbindings
        simp only [List.map_append, List.map_cons] at hbindings ⊢
        rw [hnode.binding]
        exact hbindings
      nodeStates := by
        intro state hstate
        rcases hmem state hstate with rfl | hold
        · exact fun receipt hsome => (hreceipt receipt hsome).2
        · exact h.wellFormed.nodeStates state hold
      contentAvailability := h.wellFormed.contentAvailability }
    nodes := by
      have hlen := h.nodes
      rw [hnodes] at hlen
      simp only [List.length_append, List.length_cons] at hlen ⊢
      exact hlen
    receipts := by
      intro state hstate
      rcases hmem state hstate with rfl | hold
      · intro receipt hsome
        obtain ⟨hstarted, hof⟩ := hreceipt receipt hsome
        exact ⟨hstarted, hof.nodePublicKey, hof.ownerStateRoot⟩
      · exact h.receipts state hold
    custodyProvisioned := by
      intro hterminal
      rw [hopen] at hterminal
      cases hterminal
    contentAvailability := h.contentAvailability
    creatorState := h.creatorState }
  refine ⟨hstaged, rfl, ?_, .refl _, ?_, .refl _, (Advances.refl v).creatorState⟩
  · rw [hnodes]
    exact List.rel_append (List.forall₂_same.mpr fun state _ => .refl state)
      (.cons hnode (List.forall₂_same.mpr fun state _ => .refl state))
  · intro hsome
    rw [hopen] at hsome
    cases hsome

theorem stages_nodeEffectStarted (nodePublicKey : NodePublicKey) :
    Stages (markNodeEffectStarted nodePublicKey) := by
  intro old v hold h
  obtain ⟨_, hopen, h⟩ := bind_eq_ok.mp h
  rw [failIf_eq_ok, Option.not_isSome_iff_eq_none] at hopen
  obtain ⟨updated, hupdate, h⟩ := bind_eq_ok.mp h
  rw [pure_eq_ok, Option.map_eq_some_iff] at h
  obtain ⟨nodeStates, rfl, rfl⟩ := h
  obtain ⟨before, node, after, node', hnodes, rfl, _, hnode⟩ := updateNode_eq_some hupdate
  cases hnode
  have hmem : node ∈ old.nodeStates := by
    rw [hnodes]
    exact List.mem_append_right _ List.mem_cons_self
  exact stages_node hold hopen hnodes ⟨rfl, fun _ => rfl, .refl _⟩ fun receipt hreceipt =>
    ⟨rfl, hold.wellFormed.nodeStates node hmem receipt hreceipt⟩

theorem stages_nodeReceipt {receipt : RuntimeMintNodeReceipt}
    (hvalid : receipt.recordIdentity.validate = .ok ()) : Stages (markNodeReceipt receipt) := by
  intro old v hold h
  obtain ⟨_, hopen, h⟩ := bind_eq_ok.mp h
  rw [failIf_eq_ok, Option.not_isSome_iff_eq_none] at hopen
  obtain ⟨updated, hupdate, h⟩ := bind_eq_ok.mp h
  rw [pure_eq_ok, Option.map_eq_some_iff] at h
  obtain ⟨nodeStates, rfl, rfl⟩ := h
  obtain ⟨before, node, after, node', hnodes, rfl, hkey, hnode⟩ := updateNode_eq_some hupdate
  obtain ⟨_, hstarted, hnode⟩ := bind_eq_ok.mp hnode
  rw [failIf_eq_ok, not_not] at hstarted
  obtain ⟨_, hroot, hnode⟩ := bind_eq_ok.mp hnode
  rw [failIf_eq_ok, not_not] at hroot
  split at hnode
  · obtain ⟨_, _, hnode⟩ := bind_eq_ok.mp hnode
    cases hnode
  · next hnone =>
    cases hnode
    refine stages_node hold hopen hnodes ⟨rfl, id, .of_none hnone⟩ ?_
    intro accepted haccepted
    cases haccepted
    exact ⟨hstarted, hkey.symm, hroot.symm, hvalid⟩

/-- Custody ends while it is still going on. -/
theorem stages_endCustody {kind : RuntimeCustodyTerminalKind} (h : v.Staged)
    (hreceipts : kind = .custodyProvisioned → ∀ state ∈ v.nodeStates, state.receipt.isSome)
    (hend : v.endCustody kind = .ok (some w)) : w.Staged ∧ v.Advances w := by
  unfold endCustody at hend
  split at hend
  · obtain ⟨_, _, hend⟩ := bind_eq_ok.mp hend
    cases hend
  · next hnone =>
    cases hend
    have hempty : ¬v.contentAvailability.isSome := by
      intro hsome
      have hterminal := h.contentAvailability hsome
      rw [hnone] at hterminal
      cases hterminal
    refine ⟨{
      wellFormed := ⟨h.wellFormed.bindings, h.wellFormed.nodeStates,
        h.wellFormed.contentAvailability⟩
      nodes := h.nodes
      receipts := h.receipts
      custodyProvisioned := fun hterminal => hreceipts (Option.some.inj hterminal)
      contentAvailability := fun hsome => absurd hsome hempty
      creatorState := h.creatorState }, rfl, (Advances.refl v).nodeStates, .of_none hnone,
      fun _ => rfl, .refl _, (Advances.refl v).creatorState⟩

theorem stages_custodyProvisioned : Stages markCustodyProvisioned := by
  intro old v hold h
  obtain ⟨_, hall, h⟩ := bind_eq_ok.mp h
  rw [failIf_eq_ok, not_not] at hall
  exact stages_endCustody hold (fun _ => List.all_eq_true.mp hall) h

theorem stages_abortedPartialProvision : Stages markAbortedPartialProvision := by
  intro old v hold h
  refine stages_endCustody hold ?_ h
  intro hkind
  cases hkind

theorem stages_contentAvailable (requirement : RuntimeContentAvailabilityRequirement)
    {evidence : RuntimeVerifiedContentAvailability} (hvalid : evidence.validate = .ok ()) :
    Stages (markContentAvailable requirement evidence) := by
  intro old v hold h
  obtain ⟨_, hguard, h⟩ := bind_eq_ok.mp h
  rw [failIf_eq_ok, not_or, not_not] at hguard
  split at h
  · obtain ⟨_, _, h⟩ := bind_eq_ok.mp h
    cases h
  · next hnone =>
    cases h
    refine ⟨{
      wellFormed := {
        bindings := hold.wellFormed.bindings
        nodeStates := hold.wellFormed.nodeStates
        contentAvailability := by
          intro found hfound
          cases hfound
          exact hvalid }
      nodes := hold.nodes
      receipts := hold.receipts
      custodyProvisioned := hold.custodyProvisioned
      contentAvailability := fun _ => hguard.1
      creatorState := fun _ => rfl }, rfl, (Advances.refl old).nodeStates, .refl _, fun _ => rfl,
      .of_none hnone, (Advances.refl old).creatorState⟩

/-- A creator state is put on the stage of the content's availability. -/
theorem stages_creatorState (h : v.Staged) (havailable : v.contentAvailability.isSome)
    {state : RuntimeMintCreatorState}
    (hadvances : ∀ old ∈ v.creatorState, old.Advances state) :
    ({ v with creatorState := some state } : PersistedRuntimeMint).Staged ∧
      v.Advances { v with creatorState := some state } := by
  refine ⟨{
    wellFormed := ⟨h.wellFormed.bindings, h.wellFormed.nodeStates,
      h.wellFormed.contentAvailability⟩
    nodes := h.nodes
    receipts := h.receipts
    custodyProvisioned := h.custodyProvisioned
    contentAvailability := h.contentAvailability
    creatorState := fun _ => havailable }, rfl, (Advances.refl v).nodeStates, .refl _, fun _ => rfl,
    .refl _, fun old hold => ⟨state, rfl, hadvances old hold⟩⟩

theorem stages_bindCreatorState (creatorState : RuntimeMintCreatorState) :
    Stages (bindCreatorState creatorState) := by
  intro old v hold h
  obtain ⟨_, hguard, h⟩ := bind_eq_ok.mp h
  rw [failIf_eq_ok, not_or, Bool.not_eq_true, Option.isNone_eq_false_iff] at hguard
  split at h
  · obtain ⟨_, _, h⟩ := bind_eq_ok.mp h
    cases h
  · next hnone =>
    cases h
    refine stages_creatorState hold hguard.1 ?_
    intro found hfound
    rw [hnone] at hfound
    cases hfound

/-- What is recorded of a creator state advances it. -/
theorem stages_updateCreatorState
    {update : RuntimeMintCreatorState → Except RuntimeMintJournalError RuntimeMintCreatorState}
    (hupdate : ∀ state state', update state = .ok state' → state.Advances state') :
    Stages (updateCreatorState update) := by
  intro old v hold h
  obtain ⟨state, hstate, h⟩ := bind_eq_ok.mp h
  rw [okOr_eq_ok] at hstate
  obtain ⟨state', hstate', h⟩ := bind_eq_ok.mp h
  cases h
  refine stages_creatorState hold (hold.creatorState (by rw [hstate]; rfl)) ?_
  intro found hfound
  rw [hstate] at hfound
  cases hfound
  exact hupdate state state' hstate'

end PersistedRuntimeMint

/-! ## 3. Runs -/

namespace RecordCall

open PersistedRuntimeMint

/-- Every operation on a mint record binds a draft, reads one, or stages one. -/
theorem access_cases (call : RecordCall) :
    (∃ draft, call = persistBound draft) ∨ (∃ mintId, call.access = Format.reading mintId) ∨
      ∃ mintId change, Stages change ∧ call.access = .revise mintId change := by
  cases call with
  | persistBound draft => exact .inl ⟨draft, rfl⟩
  | load mintId => exact .inr (.inl ⟨mintId, rfl⟩)
  | markNodeEffectStarted mintId nodePublicKey =>
    exact .inr (.inr ⟨mintId, _, stages_nodeEffectStarted nodePublicKey, rfl⟩)
  | markNodeReceipt mintId receipt valid =>
    exact .inr (.inr ⟨mintId, _, stages_nodeReceipt valid, rfl⟩)
  | markCustodyProvisioned mintId =>
    exact .inr (.inr ⟨mintId, _, stages_custodyProvisioned, rfl⟩)
  | markAbortedPartialProvision mintId =>
    exact .inr (.inr ⟨mintId, _, stages_abortedPartialProvision, rfl⟩)
  | markContentAvailable mintId requirement evidence valid =>
    exact .inr (.inr ⟨mintId, _, stages_contentAvailable requirement valid, rfl⟩)
  | bindCreatorState mintId creatorState =>
    exact .inr (.inr ⟨mintId, _, stages_bindCreatorState creatorState, rfl⟩)
  | bindCreatorEffect mintId effect =>
    exact .inr (.inr ⟨mintId, _, stages_updateCreatorState
      fun _ _ => RuntimeMintCreatorState.advances_withEffect, rfl⟩)
  | bindCreatorOperatorApproval mintId effect =>
    exact .inr (.inr ⟨mintId, _, stages_updateCreatorState
      fun _ _ => RuntimeMintCreatorState.advances_withOperatorApproval, rfl⟩)
  | markCreatorCompleted mintId terminal =>
    exact .inr (.inr ⟨mintId, _, stages_updateCreatorState
      fun _ _ => RuntimeMintCreatorState.advances_withTerminal, rfl⟩)

variable [CreatorJson]

theorem respects (call : RecordCall) : recordFormat.Respects Staged Advances call.access := by
  rcases call.access_cases with ⟨draft, rfl⟩ | ⟨mintId, haccess⟩ |
    ⟨mintId, change, hstages, haccess⟩
  · exact fun _ _ => staged_bound draft
  · rw [haccess]
    exact Format.respects_reading mintId
  · rw [haccess]
    intro old v bytes hold hkey hchange _
    obtain ⟨hstaged, hadvances⟩ := hstages old v hold hchange
    refine ⟨?_, hstaged, hadvances⟩
    change v.draft.mintId = mintId
    rw [hadvances.draft]
    exact hkey

theorem unambiguous : recordFormat.Unambiguous Staged := fun _ _ _ hstaged hencode hdecode =>
  eq_of_decodeRecord hstaged.wellFormed hencode (readFile_eq_ok.mp hdecode).2

end RecordCall

namespace RuntimeMintJournal

open PersistedRuntimeMint

variable [CreatorJson] {J J' : RuntimeMintJournal} {labels : List JournalLabel}

/-- What one call does to the mint records. -/
theorem records_step {label : JournalLabel} (hkeeps : recordFormat.Keeps Staged J.records)
    (h : step J label = some J') :
    recordFormat.Keeps Staged J'.records ∧ recordFormat.Evolves Advances J.records J'.records := by
  cases label with
  | record call fate =>
    cases h
    exact call.respects.call RecordCall.unambiguous hkeeps
  | intent call fate =>
    cases h
    exact ⟨hkeeps, .refl _⟩
  | mediaPreparation call fate =>
    cases h
    unfold callMediaPreparation
    split <;> exact ⟨hkeeps, .refl _⟩

theorem records_run (hkeeps : recordFormat.Keeps Staged J.records)
    (h : Transition.run step J labels = some J') :
    recordFormat.Keeps Staged J'.records ∧ recordFormat.Evolves Advances J.records J'.records :=
  Format.run_evolves (fun _ _ _ => .trans) (fun _ _ _ => records_step) hkeeps h

theorem Reachable.records (hJ : J.Reachable) : recordFormat.Keeps Staged J.records := by
  obtain ⟨_, labels, rfl, hrun⟩ := hJ
  exact (records_run Format.keeps_empty hrun).1

/-- **The stages of a mint record.**  What a call returns is staged, and any result for that mint
in any later journal is staged too and a later version of it. -/
theorem record_staging (hJ : J.Reachable) {call : RecordCall} {fate : Fate}
    {v : PersistedRuntimeMint} (hv : (J.callRecord call fate).1 = .ok v)
    (hrun : Transition.run step (J.callRecord call fate).2 labels = some J') :
    v.Staged ∧ ∀ call' fate' w, (J'.callRecord call' fate').1 = .ok w →
      w.draft.mintId = v.draft.mintId → w.Staged ∧ v.Advances w := by
  have hkeeps := hJ.records
  have hafter : recordFormat.Keeps Staged (J.callRecord call fate).2.records :=
    (call.respects.call RecordCall.unambiguous hkeeps).1
  obtain ⟨hkeeps', hevolves⟩ := records_run hafter hrun
  refine ⟨call.respects.result hkeeps hv, fun call' fate' w hw hkey => ?_⟩
  exact ⟨call'.respects.result hkeeps' hw, call.respects.results call'.respects
    RecordCall.unambiguous (fun v _ => .refl v) (fun _ _ _ => .trans) hkeeps hkeeps' hevolves hv hw
    hkey⟩

end RuntimeMintJournal

end

/-! ## 4. A draft to evaluate the model with -/

section

open ReleaseSample (content threshold nodeSet nodeSetId rightsPolicy epochIdentity)

attribute [local instance] acceptingCurves tailEchoCrypto canonicalCreatorJson

def sampleBinding (seed : UInt8) (h : (seedKey "" seed).value ≠ Bytes.zero 32) :
    RuntimeMintNodeBinding where
  nodePublicKey := seedKey _ seed
  operatorId := ⟨(seedKey "" seed).value⟩
  failureDomainId := ⟨(seedKey "" seed).value⟩
  ownerStateRoot := (seedKey "" seed).value
  root_ne := h

def sampleBindings : List RuntimeMintNodeBinding :=
  [sampleBinding 1 (by decide), sampleBinding 2 (by decide), sampleBinding 3 (by decide)]

def sampleMediaFor (root : Digest32) : CencFmp4MediaIdentityV1 where
  encryptedContent := content
  mediaManifestRoot := root
  initSegmentSha256 := Bytes.zero 32
  initSegmentBytes := 1
  mimeType := "video/mp4"
  codecs := "avc1"
  encryptedSegments := [⟨Bytes.zero 32, 1⟩]

@[irreducible] def sampleMediaRoot : Digest32 :=
  okValue (Bytes.zero 32) (sampleMediaFor (Bytes.zero 32)).computeMediaManifestRoot

def sampleMedia : CencFmp4MediaIdentityV1 := sampleMediaFor sampleMediaRoot

theorem exists_sampleMediaRoot : ∃ root,
    (sampleMediaFor (Bytes.zero 32)).computeMediaManifestRoot = .ok root := by
  obtain ⟨_, _, bytes, hcontent, _⟩ := EncryptedContentIdentityV1.encodes
    (v := (sampleMediaFor (Bytes.zero 32)).encryptedContent) (by decide)
  obtain ⟨segments, hsegments⟩ : ∃ segments, (sampleMediaFor (Bytes.zero 32)).encryptedSegments.mapM
      (fun segment => (canonicalBytes segment).mapError fun _ =>
        ContractError.invalidField "encrypted_segments") = .ok segments := by
    refine exists_mapM fun segment hsegment => ?_
    rw [sampleMediaFor, List.mem_singleton] at hsegment
    subst hsegment
    obtain ⟨bytes, hbytes, _⟩ := CencFmp4SegmentIdentityV1.encodes (v := ⟨Bytes.zero 32, 1⟩)
      (by decide)
    exact ⟨bytes, mapError_eq_ok.mpr hbytes⟩
  exact ⟨_, bind_eq_ok.mpr ⟨bytes, mapError_eq_ok.mpr hcontent, bind_eq_ok.mpr
    ⟨segments, hsegments, rfl⟩⟩⟩

theorem sampleMediaRoot_eq : sampleMedia.computeMediaManifestRoot = .ok sampleMediaRoot := by
  have h := eq_okValue (Bytes.zero 32) exists_sampleMediaRoot
  unfold sampleMediaRoot
  exact h

theorem sampleMedia_valid : sampleMedia.validate = .ok () := by
  obtain ⟨_, _, bytes, hcontent, _⟩ := EncryptedContentIdentityV1.encodes
    (v := sampleMedia.encryptedContent) (by decide)
  exact bind_eq_ok.mpr ⟨bytes, mapError_eq_ok.mpr hcontent, bind_eq_ok.mpr ⟨(), by decide,
    bind_eq_ok.mpr ⟨(), by decide, bind_eq_ok.mpr ⟨(), by decide, bind_eq_ok.mpr ⟨(), by decide,
    bind_eq_ok.mpr ⟨1, by decide, bind_eq_ok.mpr ⟨(), by decide, bind_eq_ok.mpr
      ⟨sampleMediaRoot, sampleMediaRoot_eq, rejectIf_eq_ok.mpr (not_not.mpr rfl)⟩⟩⟩⟩⟩⟩⟩⟩

def sampleParts : RuntimeMintDraftParts where
  mediaIdentity := sampleMedia
  contentAccessId := ReleaseSample.policyBody.contentAccessId
  keyEnvelope := ReleaseSample.sample.keyEnvelope
  policy := rightsPolicy
  contentKeyCommitment := (seedKey "" 1).value
  threshold := threshold
  nodes := sampleBindings

theorem exists_sampleMintId : ∃ mintId, sampleParts.record = .ok mintId := by
  obtain ⟨_, _, hmedia⟩ := CencFmp4MediaIdentityV1.encodes sampleMedia_valid
  obtain ⟨media, hmedia, _⟩ := hmedia
  obtain ⟨_, _, envelope, henvelope, _⟩ := KeyEnvelopeIdentityV1.encodes
    (ReleaseSample.keyEnvelope_valid ReleaseSample.sample_ok)
  obtain ⟨_, _, policy, hpolicy, _⟩ := RightsPolicyIdentityV1.encodes
    ReleaseSample.rightsPolicy_valid
  have hset : NodeSetV1.new threshold (sampleBindings.map (·.nodePublicKey)) = .ok nodeSet :=
    build_eq ReleaseSample.nodeSet_valid
  have hid : sampleParts.computeMintId = .ok _ := bind_eq_ok.mpr
    ⟨media, orCorrupt_eq_ok.mpr hmedia, bind_eq_ok.mpr ⟨envelope, orCorrupt_eq_ok.mpr henvelope,
      bind_eq_ok.mpr ⟨policy, orCorrupt_eq_ok.mpr hpolicy, rfl⟩⟩⟩
  exact ⟨_, bind_eq_ok.mpr ⟨(), by decide, bind_eq_ok.mpr ⟨(), by decide, bind_eq_ok.mpr
    ⟨(), by decide, bind_eq_ok.mpr ⟨(), failIf_eq_ok.mpr (not_not.mpr rfl), bind_eq_ok.mpr
    ⟨(), failIf_eq_ok.mpr (not_not.mpr rfl), bind_eq_ok.mpr
    ⟨nodeSet, orInvalidSelection_eq_ok.mpr hset, bind_eq_ok.mpr
    ⟨nodeSetId, orCorrupt_eq_ok.mpr ReleaseSample.nodeSetId_eq, bind_eq_ok.mpr
    ⟨(), failIf_eq_ok.mpr (not_not.mpr rfl), bind_eq_ok.mpr ⟨(), by decide, hid⟩⟩⟩⟩⟩⟩⟩⟩⟩⟩

@[irreducible] def sampleMintId : Digest32 := okValue (Bytes.zero 32) sampleParts.record

theorem sampleMintId_eq : sampleParts.record = .ok sampleMintId := by
  unfold sampleMintId
  exact eq_okValue (Bytes.zero 32) exists_sampleMintId

def sampleMintDraft : RuntimeMintDraft := ⟨sampleParts, sampleMintId, sampleMintId_eq⟩

def sampleStartedMint : PersistedRuntimeMint :=
  { PersistedRuntimeMint.bound sampleMintDraft with
    nodeStates := [⟨sampleBinding 1 (by decide), true, none⟩, ⟨sampleBinding 2 (by decide), false,
      none⟩, ⟨sampleBinding 3 (by decide), false, none⟩] }

theorem sampleMint_run : ∃ J : RuntimeMintJournal,
    RuntimeMintJournal.empty.callRecord (.persistBound sampleMintDraft) .completed =
        (.ok (.bound sampleMintDraft), J) ∧
      (J.callRecord (.markNodeEffectStarted sampleMintId (seedKey _ 1)) .completed).1 =
        .ok sampleStartedMint := by
  have hbound := PersistedRuntimeMint.staged_bound sampleMintDraft
  have hchange : (PersistedRuntimeMint.bound sampleMintDraft).markNodeEffectStarted
      (seedKey _ 1) = .ok (some sampleStartedMint) := rfl
  have hstarted := (PersistedRuntimeMint.stages_nodeEffectStarted _ _ _ hbound hchange).1
  obtain ⟨bytes, hbytes⟩ := PersistedRuntimeMint.exists_encodeRecord hbound.wellFormed
    fun _ h => by cases h
  obtain ⟨bytes', hbytes'⟩ := PersistedRuntimeMint.exists_encodeRecord hstarted.wellFormed
    fun _ h => by cases h
  have hvalid : (PersistedRuntimeMint.bound sampleMintDraft).CreatorValid := fun _ h => by cases h
  have hdecode : recordFormat.decode bytes = .ok (.bound sampleMintDraft) :=
    readFile_eq_ok.mpr ⟨PersistedRuntimeMint.fits_encodeRecord hbound.wellFormed hvalid hbytes,
      PersistedRuntimeMint.decodeRecord_encodeRecord hbound.wellFormed hvalid hbytes⟩
  have hread : recordFormat.read (AList.insert sampleMintId bytes ∅) sampleMintId =
      .ok (.bound sampleMintDraft) :=
    Format.read_insert_self (v := PersistedRuntimeMint.bound sampleMintDraft) hdecode
  have hpersist : recordFormat.call ∅ (RecordCall.persistBound sampleMintDraft).access .completed =
      (.ok (.bound sampleMintDraft), AList.insert sampleMintId bytes ∅) :=
    Format.call_persist (AList.lookup_empty _) hbytes
  refine ⟨⟨AList.insert sampleMintId bytes ∅, ∅, ∅⟩, ?_, ?_⟩
  · exact RuntimeMintJournal.callRecord_eq hpersist
  · have hmark : recordFormat.call (AList.insert sampleMintId bytes ∅)
        (.revise sampleMintId (·.markNodeEffectStarted (seedKey _ 1))) .completed = _ :=
      Format.call_revise hread hchange hbytes'
    exact congrArg Prod.fst (RuntimeMintJournal.callRecord_eq hmark)

theorem record_staging_sample : (PersistedRuntimeMint.bound sampleMintDraft).Staged ∧
    sampleStartedMint.Staged ∧
      (PersistedRuntimeMint.bound sampleMintDraft).Advances sampleStartedMint := by
  obtain ⟨J, hpersist, hmark⟩ := sampleMint_run
  have hreachable : RuntimeMintJournal.empty.Reachable := ⟨_, [], rfl, rfl⟩
  have hresult : (RuntimeMintJournal.empty.callRecord (.persistBound sampleMintDraft)
      .completed).1 = .ok (.bound sampleMintDraft) := by rw [hpersist]
  have hrun : Transition.run RuntimeMintJournal.step (RuntimeMintJournal.empty.callRecord
      (.persistBound sampleMintDraft) .completed).2 [] = some J := by rw [hpersist]; rfl
  obtain ⟨hstaged, hlater⟩ := RuntimeMintJournal.record_staging hreachable hresult hrun
  exact ⟨hstaged, hlater _ _ _ hmark rfl⟩

end

end ElastosRuntime.MintJournal
