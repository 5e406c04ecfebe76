/-
# Reading the events of a run page by page

`page_run_events` gives a page of the events behind a cursor, bounded in number and in bytes, and the
cursor to go on from.  The events of a record that is stored have ascending sequence numbers, the
last of them one below `next_sequence`, and none is too long for a page; appending an event and
projecting a recovered run keep that (`Paged`).

* A page is the events between two cursors, and it is the last one exactly if its cursor is that of
  the last stored event (`PageOf`).
* A reader who goes on from cursor to cursor, whatever is appended in between, has read exactly the
  events up to its cursor (`ReadsOnce`), and gets to the end in finitely many pages (`event_pages`).
-/
import Mathlib.Data.Nat.Digits.Defs
import ElastosRuntime.Lib.Transition
import ElastosRuntime.ModelProvider.Record
import ElastosRuntime.ModelProvider.RunIdentity

namespace ElastosRuntime.ModelProvider

open Contracts Text

/-! ## 1. Appending, projecting and paging -/

def MAX_RUN_EVENTS_PAGE_COUNT_LIMIT : Nat := 64
def MAX_RUN_EVENTS_PAGE_BYTES_LIMIT : Nat := 224 * 1024
def RUN_EVENTS_SCHEMA : String := "elastos.model.run-events/v1"

/-- The limits that an event is appended under (`OfferLimitsView`). -/
abbrev OfferLimitsView := OfferPolicySummary

structure RunEventsPage where
  schema : String
  runId : String
  nextCursor : UInt64
  hasMore : Bool
  events : List RunEvent

section

variable [FloatText]

def appendEventWithBackendReport (offer : OfferLimitsView) (run : StoredRun) (kind : String)
    (data : Json) (terminal : Bool) (backendReport : Option BackendReport) (now : UInt64) :
    Except ProviderFault StoredRun := do
  require (run.nextSequence ≤ MAX_EVENT_SEQUENCE) .internal
  let event : RunEvent :=
    { schema := RUN_EVENT_SCHEMA
      sequence := run.nextSequence
      kind := kind
      data := data
      backendReport := backendReport
      terminal := terminal }
  require (event.encodedLength ≤ offer.eventBytesLimit.toNat)
    (.policyLimit "model event exceeds configured limits")
  let countLimit := if terminal then MAX_RUN_EVENT_COUNT_LIMIT else MAX_RUN_EVENT_COUNT_LIMIT - 1
  require (run.events.length < countLimit)
    (.policyLimit "model run event retention exceeds provider limits")
  let aggregateLimit :=
    if terminal then MAX_RUN_EVENT_AGGREGATE_BYTES_LIMIT
    else MAX_RUN_EVENT_AGGREGATE_BYTES_LIMIT - MAX_EVENT_BYTES_LIMIT.toNat
  require (runEventBytesTotal run.events + event.encodedLength ≤ aggregateLimit)
    (.policyLimit "model run event retention exceeds provider limits")
  pure
    { run with
      events := run.events ++ [event]
      nextSequence := saturatingAdd run.nextSequence 1
      updatedAtMs := now }

omit [FloatText] in
/-- `project_archived_run`, of a run of which the journal says whether it is archived. -/
def projectArchivedRun (archived : Bool) (run : StoredRun) : StoredRun :=
  if !archived || run.status.isTerminal then run
  else
    let sequence := min run.nextSequence MAX_EVENT_SEQUENCE
    { run with
      status := .settlementUnknown
      output := none
      backendState := none
      error := some
        ⟨.settlementUnknown, "settlement_unknown",
          "Model history was recovered. The previous outcome is unknown."⟩
      events :=
        [{ schema := RUN_EVENT_SCHEMA
           sequence := sequence
           kind := "settlement_unknown"
           data := .object [("class", textJson "settlement_unknown"),
            ("code", textJson "settlement_unknown")]
           backendReport := run.offer.hosted.map fun _ => .unknown
           terminal := true }]
      nextSequence := sequence + 1 }

/-- The loop of `page_run_events`, over the events behind the cursor. -/
def fillPage (events : List RunEvent) (totalBytes : Nat) (nextCursor : UInt64) :
    List RunEvent → Except ProviderFault (List RunEvent × UInt64 × Bool)
  | [] => pure (events, nextCursor, false)
  | event :: rest => do
    if events ≠ [] ∧ (MAX_RUN_EVENTS_PAGE_COUNT_LIMIT ≤ events.length ∨
        MAX_RUN_EVENTS_PAGE_BYTES_LIMIT < totalBytes + event.encodedLength) then
      pure (events, nextCursor, true)
    else
      require (event.encodedLength ≤ MAX_RUN_EVENTS_PAGE_BYTES_LIMIT) .internal
      fillPage (events ++ [event]) (totalBytes + event.encodedLength) event.sequence rest

omit [FloatText] in
/-- The cursor behind the last event. -/
def currentCursor (run : StoredRun) : UInt64 :=
  if run.nextSequence = 0 then 0 else run.nextSequence - 1

def pageRunEvents (run : StoredRun) (afterSequence : UInt64) :
    Except ProviderFault RunEventsPage :=
  if currentCursor run ≤ afterSequence then
    pure
      { schema := RUN_EVENTS_SCHEMA
        runId := run.runId
        nextCursor := currentCursor run
        hasMore := false
        events := [] }
  else do
    let (events, nextCursor, hasMore) ← fillPage [] 0 afterSequence
      (run.events.filter fun event => afterSequence < event.sequence)
    pure { schema := RUN_EVENTS_SCHEMA, runId := run.runId, nextCursor, hasMore, events }

end

/-! ## 2. Events in order -/

/-- The sequence number of the last event. -/
def lastSequence (events : List RunEvent) : Nat := events.getLast?.elim 0 fun e => e.sequence.toNat

/-- The events behind one cursor, up to another. -/
def eventsBetween (events : List RunEvent) (after upTo : Nat) : List RunEvent :=
  events.filter fun event => after < event.sequence.toNat ∧ event.sequence.toNat ≤ upTo

section

variable {events taken left : List RunEvent}

theorem lastSequence_append (events : List RunEvent) (event : RunEvent) :
    lastSequence (events ++ [event]) = event.sequence.toNat := by
  rw [lastSequence, List.getLast?_concat, Option.elim_some]

theorem sequence_le_last (h : events.Pairwise fun a b => a.sequence.toNat < b.sequence.toNat)
    {event : RunEvent} (hmem : event ∈ events) : event.sequence.toNat ≤ lastSequence events := by
  rcases List.eq_nil_or_concat events with rfl | ⟨front, last, rfl⟩
  · cases hmem
  · rw [List.concat_eq_append] at h hmem ⊢
    rw [lastSequence_append]
    rcases List.mem_append.mp hmem with hfront | hlast
    · exact Nat.le_of_lt ((List.pairwise_append.mp h).2.2 event hfront last List.mem_cons_self)
    · rw [List.mem_singleton.mp hlast]

/-- Events in order are those up to a cursor and those behind it. -/
theorem split_at (h : events.Pairwise fun a b => a.sequence.toNat < b.sequence.toNat) (cursor : Nat) :
    events.filter (fun e => e.sequence.toNat ≤ cursor) ++
      events.filter (fun e => cursor < e.sequence.toNat) = events := by
  induction events with
  | nil => rfl
  | cons event events ih =>
    obtain ⟨hfirst, hrest⟩ := List.pairwise_cons.mp h
    by_cases hle : event.sequence.toNat ≤ cursor
    · rw [List.filter_cons_of_pos (by simpa using hle),
        List.filter_cons_of_neg (by simpa using hle), List.cons_append, ih hrest]
    · have hnone : events.filter (fun e => e.sequence.toNat ≤ cursor) = [] := by
        refine List.filter_eq_nil_iff.mpr fun later hlater => ?_
        have := hfirst later hlater
        simp only [decide_eq_true_eq]
        omega
      have hall : events.filter (fun e => cursor < e.sequence.toNat) = events := by
        refine List.filter_eq_self.mpr fun later hlater => ?_
        have := hfirst later hlater
        simp only [decide_eq_true_eq]
        omega
      rw [List.filter_cons_of_neg (by simpa using hle), hnone,
        List.filter_cons_of_pos (by simpa using hle), hall, List.nil_append]

/-- Reading on from a cursor. -/
theorem eventsBetween_append
    (h : events.Pairwise fun a b => a.sequence.toNat < b.sequence.toNat) {first second third : Nat}
    (hfirst : first ≤ second) (hsecond : second ≤ third) :
    eventsBetween events first second ++ eventsBetween events second third =
      eventsBetween events first third := by
  conv_rhs => rw [eventsBetween, ← split_at h second, List.filter_append, List.filter_filter,
    List.filter_filter]
  congr 1 <;> refine List.filter_congr fun event _ => ?_
  · simp only [← Bool.decide_and, decide_eq_decide]
    omega
  · simp only [← Bool.decide_and, decide_eq_decide]
    omega

/-- The first events behind a cursor are those up to the last of them. -/
theorem eventsBetween_of_filter
    (h : events.Pairwise fun a b => a.sequence.toNat < b.sequence.toNat) {after : Nat}
    (hsplit : events.filter (fun e => after < e.sequence.toNat) = taken ++ left)
    (hne : taken ≠ []) : eventsBetween events after (lastSequence taken) = taken := by
  have hsorted : (taken ++ left).Pairwise fun a b => a.sequence.toNat < b.sequence.toNat :=
    hsplit ▸ h.sublist List.filter_sublist
  obtain ⟨htaken, -, hcross⟩ := List.pairwise_append.mp hsorted
  have hkept : taken.filter (fun e => e.sequence.toNat ≤ lastSequence taken) = taken :=
    List.filter_eq_self.mpr fun event hevent => decide_eq_true (sequence_le_last htaken hevent)
  have hdropped : left.filter (fun e => e.sequence.toNat ≤ lastSequence taken) = [] := by
    refine List.filter_eq_nil_iff.mpr fun event hevent => ?_
    obtain ⟨front, last, rfl⟩ := (List.eq_nil_or_concat taken).resolve_left hne
    rw [List.concat_eq_append] at hcross ⊢
    have := hcross last (by simp) event hevent
    rw [lastSequence_append, decide_eq_true_eq]
    omega
  have hfilter := congrArg (List.filter fun e => e.sequence.toNat ≤ lastSequence taken) hsplit
  rw [List.filter_append, hkept, hdropped, List.append_nil, List.filter_filter] at hfilter
  rw [eventsBetween]
  refine (List.filter_congr fun event _ => ?_).trans hfilter
  simp only [← Bool.decide_and, decide_eq_decide]
  omega

end

/-! ## 3. Records that can be read page by page -/

section

variable [FloatText] {run : StoredRun}

/-- **A record that can be read page by page.** -/
structure Paged (run : StoredRun) : Prop where
  ascending : run.events.Pairwise fun a b => a.sequence.toNat < b.sequence.toNat
  next : run.nextSequence.toNat = lastSequence run.events + 1
  fits : ∀ event ∈ run.events, event.encodedLength ≤ MAX_RUN_EVENTS_PAGE_BYTES_LIMIT

theorem Paged.currentCursor (h : Paged run) :
    (currentCursor run).toNat = lastSequence run.events := by
  have hnext := h.next
  have hpositive : run.nextSequence ≠ 0 := by
    rintro hzero
    rw [hzero] at hnext
    cases hnext
  have hone : (1 : UInt64) ≤ run.nextSequence := by
    rw [UInt64.le_iff_toNat_le, hnext]
    exact Nat.le_add_left 1 _
  rw [ModelProvider.currentCursor, if_neg hpositive, UInt64.toNat_sub_of_le _ _ hone, hnext]
  rfl

/-- **A record that passes its check** can be read page by page. -/
theorem Paged.of_validated [OutputText] (h : validateStoredRun run = true) : Paged run := by
  simp only [validateStoredRun, validateStoredEvents, Bool.and_eq_true, beq_iff_eq] at h
  obtain ⟨⟨-, ⟨⟨⟨-, hevents⟩, -⟩, hnext⟩, -⟩, -⟩ := h
  have hevent (index : Nat) (hindex : index < run.events.length) :
      run.events[index].sequence.toNat = index + 1 ∧
        run.events[index].encodedLength ≤ MAX_EVENT_BYTES_LIMIT.toNat := by
    have hmem : (run.events[index], index) ∈ run.events.zipIdx :=
      List.mem_zipIdx_iff_getElem?.mpr (List.getElem?_eq_getElem hindex)
    have hvalid := List.all_eq_true.mp hevents _ hmem
    simp only [validateStoredEvent, Bool.and_eq_true, beq_iff_eq, decide_eq_true_eq] at hvalid
    exact ⟨hvalid.1.1.1.1.1.2, hvalid.1.1.2⟩
  constructor
  · refine List.pairwise_iff_getElem.mpr fun i j hi hj hij => ?_
    rw [(hevent i hi).1, (hevent j hj).1]
    omega
  · rw [hnext]
    congr 1
    rcases List.eq_nil_or_concat run.events with hnil | ⟨front, last, hlast⟩
    · rw [hnil]
      rfl
    · rw [List.concat_eq_append] at hlast
      have hindex : front.length < run.events.length := by
        rw [hlast, List.length_append]
        exact Nat.lt_succ_self _
      have hsequence := (hevent front.length hindex).1
      rw [hlast, lastSequence_append, List.length_append]
      simp only [hlast, List.getElem_concat_length] at hsequence
      exact hsequence.symm
  · intro event hmem
    obtain ⟨index, hindex, rfl⟩ := List.mem_iff_getElem.mp hmem
    exact (hevent index hindex).2.trans (by decide)

/-- **Appending an event** keeps a record that can be read page by page. -/
theorem Paged.append {offer : OfferLimitsView} {kind : String} {data : Json} {terminal : Bool}
    {backendReport : Option BackendReport} {now : UInt64} {run' : StoredRun} (h : Paged run)
    (hoffer : withinLimit offer.eventBytesLimit MAX_EVENT_BYTES_LIMIT = true)
    (hrun : appendEventWithBackendReport offer run kind data terminal backendReport now =
      .ok run') :
    Paged run' ∧ ∃ event, run'.events = run.events ++ [event] ∧
      event.sequence.toNat = lastSequence run.events + 1 := by
  simp only [appendEventWithBackendReport, Codec.bind_eq_ok, require_eq_ok, decide_eq_true_eq] at hrun
  obtain ⟨-, hsequence, -, hlength, -, -, -, -, hrun⟩ := hrun
  obtain rfl := Except.ok.inj hrun
  rw [UInt64.le_iff_toNat_le] at hsequence
  have hlimit : offer.eventBytesLimit ≤ MAX_EVENT_BYTES_LIMIT := by
    simp only [withinLimit, Bool.and_eq_true, decide_eq_true_eq] at hoffer
    exact hoffer.2
  refine ⟨⟨?_, ?_, ?_⟩, _, rfl, h.next⟩
  · refine List.pairwise_append.mpr ⟨h.ascending, List.pairwise_singleton _ _, ?_⟩
    rintro event hevent _ (_ | ⟨_, ⟨⟩⟩)
    have := sequence_le_last h.ascending hevent
    have := h.next
    change event.sequence.toNat < run.nextSequence.toNat
    omega
  · have hmax : MAX_EVENT_SEQUENCE.toNat + 1 ≤ 2 ^ 64 - 1 := by decide
    have hone : (1 : UInt64).toNat = 1 := rfl
    rw [lastSequence_append, toNat_saturatingAdd, hone]
    change min (run.nextSequence.toNat + 1) (2 ^ 64 - 1) = run.nextSequence.toNat + 1
    omega
  · intro event hevent
    rcases List.mem_append.mp hevent with hevent | hevent
    · exact h.fits event hevent
    · rw [List.mem_singleton.mp hevent]
      exact (hlength.trans (UInt64.le_iff_toNat_le.mp hlimit)).trans (by decide)

omit [FloatText] in
/-- The digits of a sequence number are few. -/
theorem length_decimal_le (value : UInt64) : (Json.decimal value.toNat).length ≤ 20 := by
  rw [Json.decimal, Json.asciiBytes, List.length_map]
  exact Nat.toDigits_length 10 _ 20 (by decide) (value.toNat_lt.trans (by decide))

/-- Only its digits make the length of an event depend on its sequence number. -/
theorem encodedLength_sequence (event : RunEvent) (sequence : UInt64) :
    { event with sequence }.encodedLength + (Json.decimal event.sequence.toNat).length =
      event.encodedLength + (Json.decimal sequence.toNat).length := by
  simp only [RunEvent.encodedLength, RunEvent.toJson, numberJson, List.cons_append, Json.compact,
    Json.membersText, Json.numberText, List.length_append]
  omega

/-- The event that stands for the events of a recovered run. -/
def recoveredEvent (hosted : Bool) : RunEvent where
  schema := RUN_EVENT_SCHEMA
  sequence := 0
  kind := "settlement_unknown"
  data := .object [("class", textJson "settlement_unknown"),
    ("code", textJson "settlement_unknown")]
  backendReport := if hosted then some .unknown else none
  terminal := true

theorem encodedLength_recoveredEvent (hosted : Bool) :
    (recoveredEvent hosted).encodedLength ≤ 1000 := by
  cases hosted
  · exact Nat.le_of_ble_eq_true rfl
  · exact Nat.le_of_ble_eq_true rfl

/-- **Projecting a recovered run** keeps a record that can be read page by page. -/
theorem Paged.project (h : Paged run) (archived : Bool) : Paged (projectArchivedRun archived run) := by
  unfold projectArchivedRun
  split
  · exact h
  · have hmin : (min run.nextSequence MAX_EVENT_SEQUENCE).toNat ≤ MAX_EVENT_SEQUENCE.toNat := by
      change (if run.nextSequence ≤ MAX_EVENT_SEQUENCE then run.nextSequence
        else MAX_EVENT_SEQUENCE).toNat ≤ MAX_EVENT_SEQUENCE.toNat
      split
      · next hle => exact UInt64.le_iff_toNat_le.mp hle
      · exact Nat.le_refl _
    generalize min run.nextSequence MAX_EVENT_SEQUENCE = sequence at hmin
    have hmax : MAX_EVENT_SEQUENCE.toNat + 1 < 2 ^ 64 := by decide
    have hone : (1 : UInt64).toNat = 1 := rfl
    refine ⟨List.pairwise_singleton _ _, ?_, fun event hevent => ?_⟩
    · change (sequence + 1).toNat = sequence.toNat + 1
      rw [UInt64.toNat_add, hone, Nat.mod_eq_of_lt (by omega)]
    · have hevent : event = { recoveredEvent run.offer.hosted.isSome with sequence } := by
        rw [List.mem_singleton.mp hevent]
        cases run.offer.hosted <;> rfl
      have hbound := encodedLength_recoveredEvent run.offer.hosted.isSome
      have hdigits := length_decimal_le sequence
      rw [hevent]
      calc _ ≤ (recoveredEvent run.offer.hosted.isSome).encodedLength +
            (Json.decimal sequence.toNat).length := by
              rw [← encodedLength_sequence]
              exact Nat.le_add_right _ _
        _ ≤ 1020 := by omega
        _ ≤ MAX_RUN_EVENTS_PAGE_BYTES_LIMIT := by decide

/-! ## 4. One page -/

/-- **A page**: the events between two cursors, within the limits, and the last page exactly if there
are none behind it. -/
structure PageOf (run : StoredRun) (afterSequence : UInt64) (page : RunEventsPage) : Prop where
  count : page.events.length ≤ MAX_RUN_EVENTS_PAGE_COUNT_LIMIT
  bytes : runEventBytesTotal page.events ≤ MAX_RUN_EVENTS_PAGE_BYTES_LIMIT
  between : page.events = eventsBetween run.events afterSequence.toNat page.nextCursor.toNat
  hasMore : page.hasMore = false ↔ page.nextCursor.toNat = lastSequence run.events
  nextCursor : page.nextCursor.toNat =
    if page.events = [] then lastSequence run.events else lastSequence page.events
  ahead : afterSequence.toNat < lastSequence run.events → page.events ≠ []

theorem runEventBytesTotal_append (events : List RunEvent) (event : RunEvent) :
    runEventBytesTotal (events ++ [event]) = runEventBytesTotal events + event.encodedLength := by
  rw [runEventBytesTotal, List.map_append, List.sum_append]
  exact congrArg (runEventBytesTotal events + ·) (Nat.add_zero _)

/-- What the loop takes from the events behind the cursor: at least one, and no more than a page
holds. -/
theorem fillPage_spec {rest : List RunEvent}
    (hfits : ∀ event ∈ rest, event.encodedLength ≤ MAX_RUN_EVENTS_PAGE_BYTES_LIMIT) :
    ∀ (events : List RunEvent) (cursor : UInt64),
      events.length ≤ MAX_RUN_EVENTS_PAGE_COUNT_LIMIT →
      runEventBytesTotal events ≤ MAX_RUN_EVENTS_PAGE_BYTES_LIMIT →
      ∃ taken left, rest = taken ++ left ∧ (events = [] → rest ≠ [] → taken ≠ []) ∧
        fillPage events (runEventBytesTotal events) cursor rest = .ok (events ++ taken,
          taken.getLast?.elim cursor RunEvent.sequence, !left.isEmpty) ∧
        (events ++ taken).length ≤ MAX_RUN_EVENTS_PAGE_COUNT_LIMIT ∧
        runEventBytesTotal (events ++ taken) ≤ MAX_RUN_EVENTS_PAGE_BYTES_LIMIT := by
  induction rest with
  | nil =>
    intro events cursor hcount hbytes
    refine ⟨[], [], rfl, fun _ h => absurd rfl h, ?_, ?_, ?_⟩
    · rw [fillPage, List.append_nil]
      rfl
    · rwa [List.append_nil]
    · rwa [List.append_nil]
  | cons event rest ih =>
    intro events cursor hcount hbytes
    have hevent := hfits event List.mem_cons_self
    rw [fillPage]
    split_ifs with hfull
    · refine ⟨[], event :: rest, rfl, fun h => absurd h hfull.1, ?_, ?_, ?_⟩
      · rw [List.append_nil]
        rfl
      · rwa [List.append_nil]
      · rwa [List.append_nil]
    · have hroom : (events ++ [event]).length ≤ MAX_RUN_EVENTS_PAGE_COUNT_LIMIT ∧
          runEventBytesTotal (events ++ [event]) ≤ MAX_RUN_EVENTS_PAGE_BYTES_LIMIT := by
        rw [List.length_append, List.length_singleton, runEventBytesTotal_append]
        by_cases hempty : events = []
        · have hnone : runEventBytesTotal events = 0 := by rw [hempty]; rfl
          have hzero : events.length = 0 := by rw [hempty]; rfl
          have hone : 1 ≤ MAX_RUN_EVENTS_PAGE_COUNT_LIMIT := by decide
          omega
        · have hnot := not_or.mp (fun h => hfull ⟨hempty, h⟩)
          omega
      obtain ⟨taken, left, rfl, -, hfill, hlength, htotal⟩ := ih
        (fun event hevent => hfits event (List.mem_cons_of_mem _ hevent)) _ event.sequence
        hroom.1 hroom.2
      have hreq : require (decide (event.encodedLength ≤ MAX_RUN_EVENTS_PAGE_BYTES_LIMIT))
          ProviderFault.internal = .ok () := require_eq_ok.mpr (decide_eq_true hevent)
      rw [List.append_assoc, List.singleton_append] at hlength htotal
      refine ⟨event :: taken, left, rfl, fun _ _ => List.cons_ne_nil _ _, ?_, hlength, htotal⟩
      rw [hreq, ← runEventBytesTotal_append]
      refine hfill.trans ?_
      rw [List.append_assoc, List.singleton_append]
      cases hlast : taken.getLast? with
      | none => rw [List.getLast?_eq_none_iff.mp hlast]; rfl
      | some last => rw [List.getLast?_cons, hlast]; rfl

/-- **Every page can be given**, whatever the cursor. -/
theorem Paged.exists_page (h : Paged run) (afterSequence : UInt64) :
    ∃ page, pageRunEvents run afterSequence = .ok page ∧ PageOf run afterSequence page := by
  have hcurrent := h.currentCursor
  unfold pageRunEvents
  split_ifs with hend
  · rw [UInt64.le_iff_toNat_le, hcurrent] at hend
    refine ⟨_, rfl, ⟨Nat.zero_le _, Nat.zero_le _, ?_, iff_of_true rfl hcurrent,
      hcurrent.trans (if_pos rfl).symm, fun hbefore => absurd hend (Nat.not_le_of_lt hbefore)⟩⟩
    refine (List.filter_eq_nil_iff.mpr fun event hevent => ?_).symm
    have := sequence_le_last h.ascending hevent
    rw [decide_eq_true_eq]
    omega
  · rw [UInt64.le_iff_toNat_le, hcurrent, Nat.not_le] at hend
    have hbehind : (run.events.filter fun e => afterSequence < e.sequence) =
        run.events.filter fun e => afterSequence.toNat < e.sequence.toNat :=
      List.filter_congr fun event _ => decide_eq_decide.mpr UInt64.lt_iff_toNat_lt
    -- the last event is behind the cursor, and the last one there
    obtain ⟨front, last, hevents⟩ : ∃ front last, run.events = front ++ [last] := by
      rcases List.eq_nil_or_concat run.events with hnil | ⟨front, last, hlast⟩
      · rw [hnil] at hend
        cases hend
      · exact ⟨front, last, by rw [hlast, List.concat_eq_append]⟩
    have hlast : lastSequence run.events = last.sequence.toNat := by
      rw [hevents, lastSequence_append]
    have hkept : (run.events.filter fun e => afterSequence.toNat < e.sequence.toNat) =
        (front.filter fun e => afterSequence.toNat < e.sequence.toNat) ++ [last] := by
      have hbehind_last : decide (afterSequence.toNat < last.sequence.toNat) = true :=
        decide_eq_true (hlast ▸ hend)
      rw [hevents, List.filter_append]
      exact congrArg _ (List.filter_cons_of_pos hbehind_last)
    have hfits : ∀ event ∈ run.events.filter (fun e => afterSequence < e.sequence),
        event.encodedLength ≤ MAX_RUN_EVENTS_PAGE_BYTES_LIMIT :=
      fun event hevent => h.fits event (List.mem_filter.mp hevent).1
    obtain ⟨taken, left, hsplit, hsome, hfill, hcount, hbytes⟩ := fillPage_spec hfits
      [] afterSequence (Nat.zero_le _) (Nat.zero_le _)
    rw [hbehind] at hsplit hsome
    have hne : taken ≠ [] := hsome rfl (hkept ▸ List.append_ne_nil_of_right_ne_nil _
      (List.cons_ne_nil _ _))
    have hcursor : (taken.getLast?.elim afterSequence RunEvent.sequence).toNat =
        lastSequence taken := by
      obtain ⟨before, event, rfl⟩ := (List.eq_nil_or_concat taken).resolve_left hne
      rw [List.concat_eq_append, lastSequence_append, List.getLast?_concat, Option.elim_some]
    refine ⟨_, Codec.bind_eq_ok.mpr ⟨_, hfill, rfl⟩, hcount, hbytes, ?_, ?_, ?_, fun _ => hne⟩
    · change taken = _
      rw [hcursor]
      exact (eventsBetween_of_filter h.ascending hsplit hne).symm
    · change (!left.isEmpty) = false ↔ _
      rw [hcursor, hlast, Bool.not_eq_false', List.isEmpty_iff]
      have hsorted : (taken ++ left).Pairwise fun a b => a.sequence.toNat < b.sequence.toNat :=
        hsplit ▸ h.ascending.sublist List.filter_sublist
      rw [hkept] at hsplit
      constructor
      · rintro rfl
        rw [List.append_nil] at hsplit
        rw [← hsplit, lastSequence_append]
      · intro hsame
        by_contra hleft
        have hmem : last ∈ left := by
          refine List.mem_of_getLast? ?_
          rw [← List.getLast?_append_of_ne_nil taken hleft, ← hsplit, List.getLast?_concat]
        obtain ⟨before, event, rfl⟩ := (List.eq_nil_or_concat taken).resolve_left hne
        rw [List.concat_eq_append] at hsorted hsame
        have hless := (List.pairwise_append.mp hsorted).2.2 event (by simp) last hmem
        rw [lastSequence_append] at hsame
        omega
    · exact hcursor.trans (if_neg hne).symm

/-! ## 5. A reader -/

omit [FloatText] in
/-- A run, the cursor of one who reads its events, and what has been read. -/
structure Reader where
  run : StoredRun
  cursor : UInt64
  collected : List RunEvent

/-- What happens to the run between two pages, and the next page. -/
inductive ReaderLabel where
  | append (offer : OfferLimitsView) (kind : String) (data : Json) (terminal : Bool)
      (backendReport : Option BackendReport) (now : UInt64)
  /-- Something else about the run changes. -/
  | update (run : StoredRun)
  | page

namespace Reader

variable {reader next : Reader} {origin : Nat}

def page (reader : Reader) : Except ProviderFault (RunEventsPage × Reader) := do
  let page ← pageRunEvents reader.run reader.cursor
  pure (page,
    { reader with cursor := page.nextCursor, collected := reader.collected ++ page.events })

def step (reader : Reader) : ReaderLabel → Option Reader
  | .append offer kind data terminal backendReport now =>
    -- an offer in use has been checked
    if withinLimit offer.eventBytesLimit MAX_EVENT_BYTES_LIMIT then
      (appendEventWithBackendReport offer reader.run kind data terminal backendReport now).toOption.map
        fun run => { reader with run }
    else none
  | .update run =>
    if run.events = reader.run.events ∧ run.nextSequence = reader.run.nextSequence then
      some { reader with run }
    else none
  | .page => reader.page.toOption.map Prod.snd

/-- Going on as long as there is more, for so many pages at most. -/
def follow : Nat → Reader → Option Reader
  | 0, _ => none
  | n + 1, reader =>
    match reader.page with
    | .ok (page, next) => if page.hasMore then follow n next else some next
    | .error _ => none

/-- **What a reader has read is exactly what stands up to its cursor.** -/
structure ReadsOnce (origin : Nat) (reader : Reader) : Prop where
  paged : Paged reader.run
  reached : reader.cursor.toNat ≤ lastSequence reader.run.events
  started : origin ≤ reader.cursor.toNat
  collected : reader.collected = eventsBetween reader.run.events origin reader.cursor.toNat

/-- Where a page leads. -/
theorem exists_page (hreader : ReadsOnce origin reader) :
    ∃ page next, reader.page = .ok (page, next) ∧ PageOf reader.run reader.cursor page ∧
      next.run = reader.run ∧ next.cursor = page.nextCursor ∧
      reader.cursor.toNat ≤ page.nextCursor.toNat ∧ ReadsOnce origin next := by
  obtain ⟨page, hpage, hof⟩ := hreader.paged.exists_page reader.cursor
  have hup : reader.cursor.toNat ≤ page.nextCursor.toNat ∧
      page.nextCursor.toNat ≤ lastSequence reader.run.events := by
    rw [hof.nextCursor]
    split_ifs with hempty
    · exact ⟨hreader.reached, Nat.le_refl _⟩
    · obtain ⟨before, last, hlast⟩ := (List.eq_nil_or_concat page.events).resolve_left hempty
      rw [List.concat_eq_append] at hlast
      have hmem : last ∈ eventsBetween reader.run.events reader.cursor.toNat
          page.nextCursor.toNat := by
        rw [← hof.between, hlast]
        simp
      obtain ⟨hstored, hbetween⟩ := List.mem_filter.mp hmem
      rw [hlast, lastSequence_append]
      exact ⟨Nat.le_of_lt (of_decide_eq_true hbetween).1,
        sequence_le_last hreader.paged.ascending hstored⟩
  refine ⟨page, _, Codec.bind_eq_ok.mpr ⟨page, hpage, rfl⟩, hof, rfl, rfl, hup.1,
    hreader.paged, hup.2, hreader.started.trans hup.1, ?_⟩
  change reader.collected ++ page.events = _
  rw [hreader.collected, hof.between]
  exact eventsBetween_append hreader.paged.ascending hreader.started hup.1

/-- One step keeps what has been read. -/
theorem readsOnce_step {label : ReaderLabel} (hreader : ReadsOnce origin reader)
    (hstep : reader.step label = some next) : ReadsOnce origin next := by
  cases label with
  | append offer kind data terminal backendReport now =>
    obtain ⟨hoffer, hstep⟩ := Option.ite_none_right_eq_some.mp hstep
    obtain ⟨run, hrun, rfl⟩ := Option.map_eq_some_iff.mp hstep
    have hrun : appendEventWithBackendReport offer reader.run kind data terminal backendReport now =
        .ok run := by
      cases happend : appendEventWithBackendReport offer reader.run kind data terminal backendReport
          now with
      | error => rw [happend] at hrun; cases hrun
      | ok other => rw [happend] at hrun; exact congrArg _ (Option.some.inj hrun)
    obtain ⟨hpaged, event, hevents, hsequence⟩ := hreader.paged.append hoffer hrun
    have hreached := hreader.reached
    refine ⟨hpaged, ?_, hreader.started, ?_⟩
    · change reader.cursor.toNat ≤ lastSequence run.events
      rw [hevents, lastSequence_append]
      omega
    · -- the new event is behind the cursor
      have hnew : ¬(origin < event.sequence.toNat ∧
          event.sequence.toNat ≤ reader.cursor.toNat) := by omega
      change reader.collected = eventsBetween run.events origin reader.cursor.toNat
      rw [hreader.collected, hevents, eventsBetween, eventsBetween, List.filter_append,
        List.filter_cons_of_neg (by simpa using hnew), List.filter_nil, List.append_nil]
  | update run =>
    obtain ⟨⟨hevents, hnext⟩, hstep⟩ := Option.ite_none_right_eq_some.mp hstep
    obtain rfl := Option.some.inj hstep
    obtain ⟨⟨hascending, hlast, hfits⟩, hreached, hstarted, hcollected⟩ := hreader
    rw [← hevents] at hascending hlast hfits hreached hcollected
    exact ⟨⟨hascending, hnext ▸ hlast, hfits⟩, hreached, hstarted, hcollected⟩
  | page =>
    obtain ⟨page, after, hpage, -, -, -, -, hafter⟩ := exists_page hreader
    rw [step, hpage] at hstep
    obtain rfl := Option.some.inj hstep
    exact hafter

/-- **Following the cursor gets to the end**: with each page that is not the last, fewer events are
left. -/
theorem follow_ends {n : Nat} (hreader : ReadsOnce origin reader)
    (hn : (eventsBetween reader.run.events reader.cursor.toNat
      (lastSequence reader.run.events)).length < n) :
    ∃ last, follow n reader = some last ∧ last.run = reader.run ∧
      last.collected = eventsBetween reader.run.events origin (lastSequence reader.run.events) := by
  induction n generalizing reader with
  | zero => exact absurd hn (Nat.not_lt_zero _)
  | succ n ih =>
    obtain ⟨page, next, hpage, hof, hrun, hcursor, hforward, hnext⟩ := exists_page hreader
    have hfollow : follow (n + 1) reader = if page.hasMore then follow n next else some next := by
      rw [follow, hpage]
    rw [hfollow]
    cases hmore : page.hasMore with
    | false =>
      refine ⟨next, rfl, hrun, ?_⟩
      rw [hnext.collected, hcursor, hof.hasMore.mp hmore, hrun]
    | true =>
      have hnot : page.nextCursor.toNat ≠ lastSequence reader.run.events := fun h => by
        rw [hof.hasMore.mpr h] at hmore
        cases hmore
      have hreached := hnext.reached
      rw [hcursor, hrun] at hreached
      have hsome := hof.ahead (by omega)
      have hparts := congrArg List.length (eventsBetween_append hreader.paged.ascending
        hforward hreached)
      rw [List.length_append, ← hof.between] at hparts
      have hpositive := List.length_pos_iff.mpr hsome
      obtain ⟨last, hlast, hsame, hcollected⟩ := ih hnext (by
        rw [hrun, hcursor]
        omega)
      exact ⟨last, hlast, hsame.trans hrun, hrun ▸ hcollected⟩

omit [FloatText] in
/-- What stands behind a cursor, when there may be nothing. -/
theorem eventsBetween_last {events : List RunEvent}
    (h : events.Pairwise fun a b => a.sequence.toNat < b.sequence.toNat) (cursor : UInt64) :
    eventsBetween events (min cursor.toNat (lastSequence events)) (lastSequence events) =
      events.filter fun event => cursor < event.sequence := by
  refine List.filter_congr fun event hevent => decide_eq_decide.mpr ?_
  have := sequence_le_last h hevent
  rw [UInt64.lt_iff_toNat_lt]
  omega

/-- The first page, from any cursor. -/
theorem first_page (h : Paged run) (cursor : UInt64) :
    ∃ page next, Reader.page ⟨run, cursor, []⟩ = .ok (page, next) ∧ PageOf run cursor page ∧
      next.run = run ∧ next.cursor = page.nextCursor ∧
      ReadsOnce (min cursor.toNat (lastSequence run.events)) next := by
  by_cases hle : cursor.toNat ≤ lastSequence run.events
  · have hstart : ReadsOnce cursor.toNat ⟨run, cursor, []⟩ := by
      refine ⟨h, hle, Nat.le_refl _, (List.filter_eq_nil_iff.mpr fun event _ => ?_).symm⟩
      rw [decide_eq_true_eq]
      exact fun hbetween => absurd hbetween.1 (Nat.not_lt_of_le hbetween.2)
    obtain ⟨page, next, hpage, hof, hrun, hcursor, -, hnext⟩ := exists_page hstart
    exact ⟨page, next, hpage, hof, hrun, hcursor, (Nat.min_eq_left hle).symm ▸ hnext⟩
  · obtain ⟨page, hpage, hof⟩ := h.exists_page cursor
    have hnone : page.events = [] := by
      rw [hof.between]
      refine List.filter_eq_nil_iff.mpr fun event hevent => ?_
      have := sequence_le_last h.ascending hevent
      rw [decide_eq_true_eq]
      omega
    have hcursor : page.nextCursor.toNat = lastSequence run.events :=
      hof.nextCursor.trans (if_pos hnone)
    refine ⟨page, _, Codec.bind_eq_ok.mpr ⟨page, hpage, rfl⟩, hof, rfl, rfl, h,
      Nat.le_of_eq hcursor, (Nat.min_le_right _ _).trans (Nat.le_of_eq hcursor.symm), ?_⟩
    change [] ++ page.events = eventsBetween run.events _ page.nextCursor.toNat
    rw [hnone, hcursor, Nat.min_eq_right (by omega)]
    refine (List.filter_eq_nil_iff.mpr fun event _ => ?_).symm
    rw [decide_eq_true_eq]
    omega

end Reader

/-- **Event paging is complete.**  Of a record that is stored, projected or not, a reader who follows
the cursor from any cursor gets each event behind it once and in order, in finitely many pages.  And
when events are appended in between, or anything else about the run changes, what has been read after
the first page is what stands up to the cursor, each page is one, and following the cursor gets to
the end. -/
theorem event_pages [OutputText] (hrun : validateStoredRun run = true) (archived : Bool)
    (cursor : UInt64) :
    let stored := projectArchivedRun archived run
    let origin := min cursor.toNat (lastSequence stored.events)
    (∃ last, Reader.follow (stored.events.length + 2) ⟨stored, cursor, []⟩ = some last ∧
      last.collected = stored.events.filter fun event => cursor < event.sequence) ∧
    ∃ page reader, Reader.page ⟨stored, cursor, []⟩ = .ok (page, reader) ∧
      PageOf stored cursor page ∧
      ∀ labels next, Transition.run Reader.step reader labels = some next →
        (next.run.events.Pairwise fun a b => a.sequence.toNat < b.sequence.toNat) ∧
        next.collected = eventsBetween next.run.events origin next.cursor.toNat ∧
        (∃ page, pageRunEvents next.run next.cursor = .ok page ∧
          PageOf next.run next.cursor page) ∧
        ∃ last, Reader.follow (next.run.events.length + 1) next = some last ∧
          last.run = next.run ∧ last.collected =
            eventsBetween next.run.events origin (lastSequence next.run.events) := by
  intro stored origin
  have hpaged : Paged stored := (Paged.of_validated hrun).project archived
  obtain ⟨page, reader, hpage, hof, hsame, hcursor, hreader⟩ := Reader.first_page hpaged cursor
  have hends {reader : Reader} (hreader : Reader.ReadsOnce origin reader) :
      ∃ last, Reader.follow (reader.run.events.length + 1) reader = some last ∧
        last.run = reader.run ∧ last.collected =
          eventsBetween reader.run.events origin (lastSequence reader.run.events) :=
    Reader.follow_ends hreader (Nat.lt_succ_of_le (List.length_filter_le _ _))
  constructor
  · have hfollow : Reader.follow (stored.events.length + 2) ⟨stored, cursor, []⟩ =
        if page.hasMore then Reader.follow (stored.events.length + 1) reader else some reader := by
      rw [Reader.follow, hpage]
    rw [hfollow, ← Reader.eventsBetween_last hpaged.ascending]
    cases hmore : page.hasMore with
    | true =>
      obtain ⟨last, hlast, -, hcollected⟩ := hends hreader
      rw [hsame] at hlast hcollected
      exact ⟨last, hlast, hcollected⟩
    | false =>
      refine ⟨reader, rfl, ?_⟩
      rw [hreader.collected, hsame, hcursor, hof.hasMore.mp hmore]
  · refine ⟨page, reader, hpage, hof, fun labels next hnext => ?_⟩
    have hread : Reader.ReadsOnce origin next :=
      Transition.run_invariant (fun _ _ _ hreads _ hstep => Reader.readsOnce_step hreads hstep)
        hreader (Transition.guarded_true labels reader) hnext
    exact ⟨hread.paged.ascending, hread.collected, hread.paged.exists_page next.cursor,
      hends hread⟩

end

namespace Sample

/-- No decision is read. -/
@[reducible] def noDecisions : OutputText := ⟨fun _ => false, fun _ => none⟩

attribute [local instance] noFractions noDecisions

def digest : String := "sha256:0000000000000000000000000000000000000000000000000000000000000000"

def offer : OfferSummary where
  inputSchemas := []
  id := "offer"
  title := "Offer"
  operation := "text"
  inputModalities := ["text"]
  outputModalities := ["text"]
  streamOutput := false
  policy := ⟨MODEL_POLICY_SCHEMA, 1, 1, 1, 1024, 1, 1, 1⟩
  context := none
  hosted := none

def started : RunEvent := ⟨RUN_EVENT_SCHEMA, 1, "started", .object [], none, false⟩

/-- A run of which one event is stored. -/
def startedRun : StoredRun :=
  { StoredRun.newPrepared ("run:" ++ digest)
      ⟨RUNTIME_CREATE_BINDING_SCHEMA, "ann", "session", "notes", "grant", "request", "offer", "text",
        digest⟩ offer digest 1 with
    nextSequence := 2
    events := [started] }

theorem started_read : validateStoredRun startedRun = true ∧
    ∃ last, Reader.follow 3 ⟨startedRun, 0, []⟩ = some last ∧ last.collected = [started] := by
  have hvalid : validateStoredRun startedRun = true := by decide +kernel
  exact ⟨hvalid, (event_pages hvalid false 0).1⟩

end Sample

end ElastosRuntime.ModelProvider
