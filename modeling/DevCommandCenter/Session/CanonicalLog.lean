import DevCommandCenter.Library.Call
import DevCommandCenter.Library.Transition
import DevCommandCenter.Session.EventStore

/-! `append_event` as the transaction it is, and the log that any order of such transactions leaves. -/

namespace DevCommandCenter

def insideTurn : SessionEventKind → Bool
  | .turnDelta .. | .turnAssistantMessageStarted .. | .turnAssistantMessageDelta ..
  | .turnAssistantMessageCompleted .. | .turnReasoningStarted .. | .turnReasoningDelta ..
  | .turnReasoningCompleted .. | .turnToolCallStarted .. | .turnToolCallDelta ..
  | .turnToolCallUpdated .. | .turnToolCallCompleted .. | .turnToolCallFailed ..
  | .turnNativeSubagentActivity .. | .turnModelEffective .. | .delegationDelta .. => true
  | _ => false

structure DatabaseReplies where
  begins : Except CoreError Unit
  inserts : Except CoreError Unit
  reindexes : Except CoreError Unit
  commits : Except CoreError Unit

def DatabaseReplies.ok : DatabaseReplies where
  begins := .ok ()
  inserts := .ok ()
  reindexes := .ok ()
  commits := .ok ()

def appendEventTransaction (replies : DatabaseReplies) (event : SessionEventRecord) :
    Library.Call EventStore CoreError AppendEventOutcome := do
  .liftExcept replies.begins
  .atomically do
    let store ← .read
    match store.appendEvent event with
    | (.error error, _) => .fail error
    | (.ok (.existing existing), _) => do
        .liftExcept replies.commits
        return .existing existing
    | (.ok (.inserted canonical), after) => do
        .liftExcept replies.inserts
        .update fun _ => after
        if !insideTurn event.kind then
          .liftExcept replies.reindexes
        .liftExcept replies.commits
        return .inserted canonical

def findTerminalRows (store : EventStore) (sessionId : SessionId) (turnId : TurnId) :
    List EventRow :=
  ((sessionRows store.rows sessionId).filter fun row => row.terminalTurnId = some turnId).take 2

def canonicalTerminal (sessionId : SessionId) :
    Option SessionEventRecord → List EventRow → Except CoreError (Option SessionEventRecord)
  | canonical, [] => .ok canonical
  | canonical, row :: rows => do
      validateEventMetadata row
      if row.sessionId ≠ sessionId then
        throw (.repository "terminal event session attribution is inconsistent")
      if canonical.isSome then
        throw (.repository "multiple terminal events exist for one turn")
      canonicalTerminal sessionId (some row.record) rows

def findTerminalEvent (store : EventStore) (sessionId : SessionId) (turnId : TurnId) :
    Except CoreError (Option SessionEventRecord) :=
  canonicalTerminal sessionId none (findTerminalRows store sessionId turnId)

def appendCalls (initial : EventStore) : Library.System EventStore
    (DatabaseReplies × SessionEventRecord) (Except CoreError AppendEventOutcome) where
  start := initial
  step store call := some (appendEventTransaction call.1 call.2 store)

def SameIdentity (row : EventRow) (event : SessionEventRecord) : Prop :=
  row.eventId = event.eventId ∧ row.sessionId = event.sessionId ∧
    row.occurredAt = event.occurredAt ∧ row.kind = event.kind

def ClosesTurn (kind : SessionEventKind) (turnId : TurnId) : Prop :=
  (terminal kind).map Prod.fst = some turnId

def AppendEventOutcome.event : AppendEventOutcome → SessionEventRecord
  | inserted event => event
  | existing event => event

section Rows

variable {rows : List EventRow} {row row' : EventRow}

lemma WellFormed.validate (h : WellFormed rows) (hrow : row ∈ rows) :
    validateEventMetadata row = .ok () := by
  obtain ⟨hturn, hkind⟩ := h.terminals row hrow
  unfold validateEventMetadata
  cases hterminal : terminal row.kind with
  | none => simp_all
  | some pair => simp_all

lemma WellFormed.closesTurn (h : WellFormed rows) (hrow : row ∈ rows) {turnId : TurnId} :
    ClosesTurn row.kind turnId ↔ row.terminalTurnId = some turnId := by
  rw [ClosesTurn, (h.terminals row hrow).1]

lemma WellFormed.eq_of_terminalTurnId (h : WellFormed rows) (hrow : row ∈ rows)
    (hrow' : row' ∈ rows) (hsession : row.sessionId = row'.sessionId) {turnId : TurnId}
    (hturn : row.terminalTurnId = some turnId) (hturn' : row'.terminalTurnId = some turnId) :
    row = row' := by
  by_contra hne
  have hpairwise : rows.Pairwise fun a b => a.sessionId = b.sessionId → a.terminalTurnId = some turnId →
      b.terminalTurnId ≠ some turnId := by
    refine h.terminalTurns.imp fun {a b} hab hsession ha hb => ?_
    exact hab hsession (by simp [ha]) (ha.trans hb.symm)
  have : Std.Symm fun a b : EventRow => a.sessionId = b.sessionId →
      a.terminalTurnId = some turnId → b.terminalTurnId ≠ some turnId :=
    ⟨fun _ _ h hs ha hb => h hs.symm hb ha⟩
  exact hpairwise.forall hrow hrow' hne hsession hturn hturn'

end Rows

section Append

variable {store : EventStore} {event : SessionEventRecord} {row : EventRow}

lemma find?_eventId (hrow : row ∈ store.rows) (hid : row.eventId = event.eventId) :
    store.rows.find? (fun row => row.eventId = event.eventId) = some row := by
  cases hfind : store.rows.find? fun row => row.eventId = event.eventId with
  | none => simpa [hid] using List.find?_eq_none.mp hfind row hrow
  | some found =>
      have hfound : found.eventId = event.eventId := by simpa using List.find?_some hfind
      rw [store.wellFormed.eq_of_eventId (List.mem_of_find?_eq_some hfind) hrow
        (hfound.trans hid.symm)]

lemma appendEvent_sameIdentity (hrow : row ∈ store.rows) (hsame : SameIdentity row event) :
    (store.appendEvent event).1 = .ok (.existing row.record) := by
  obtain ⟨hid, hsession, htime, hkind⟩ := hsame
  simp [EventStore.appendEvent, appendEventRows, find?_eventId hrow hid,
    store.wellFormed.validate hrow, hsession, htime, hkind]

lemma appendEvent_conflict (hrow : row ∈ store.rows) (hid : row.eventId = event.eventId)
    (hother : ¬SameIdentity row event) :
    (store.appendEvent event).1 =
      .error (.repository "event identity conflicts with existing event") := by
  have hdiffers : row.sessionId ≠ event.sessionId ∨ row.occurredAt ≠ event.occurredAt ∨
      row.kind ≠ event.kind := by
    by_contra hall
    simp only [not_or, not_not] at hall
    exact hother ⟨hid, hall.1, hall.2.1, hall.2.2⟩
  simp only [EventStore.appendEvent, appendEventRows, find?_eventId hrow hid,
    store.wellFormed.validate hrow, if_pos hdiffers]

lemma appendEvent_closed {turnId : TurnId} (hfresh : ∀ row ∈ store.rows, row.eventId ≠ event.eventId)
    (hcloses : ClosesTurn event.kind turnId) (hrow : row ∈ store.rows)
    (hsession : row.sessionId = event.sessionId) (hturn : row.terminalTurnId = some turnId) :
    (store.appendEvent event).1 = .ok (.existing row.record) := by
  have hfind : store.rows.find? (fun row => row.eventId = event.eventId) = none := by
    simpa using hfresh
  obtain ⟨⟨turnId', kind⟩, hterminal, rfl⟩ := Option.map_eq_some_iff.mp hcloses
  have hclosed : (sessionRows store.rows event.sessionId).find?
      (fun row => row.terminalTurnId = some turnId') = some row := by
    cases hfound : (sessionRows store.rows event.sessionId).find?
        fun row => row.terminalTurnId = some turnId' with
    | none =>
        have hnone := List.find?_eq_none.mp hfound row (mem_sessionRows.mpr ⟨hrow, hsession⟩)
        simp [hturn] at hnone
    | some found =>
        obtain ⟨hmem, hsession'⟩ := mem_sessionRows.mp (List.mem_of_find?_eq_some hfound)
        have hturn' : found.terminalTurnId = some turnId' := by simpa using List.find?_some hfound
        rw [store.wellFormed.eq_of_terminalTurnId hmem hrow (hsession'.trans hsession.symm) hturn' hturn]
  simp only [EventStore.appendEvent, appendEventRows, hfind, hterminal, Option.bind_some, hclosed,
    store.wellFormed.validate hrow]

lemma appendEvent_cases (store : EventStore) (event : SessionEventRecord) :
    (∃ error, store.appendEvent event = (.error error, store)) ∨
    (∃ row ∈ store.rows, store.appendEvent event = (.ok (.existing row.record), store) ∧
      (SameIdentity row event ∨ ∃ turnId, ClosesTurn event.kind turnId ∧
        row.sessionId = event.sessionId ∧ row.terminalTurnId = some turnId)) ∨
    ((store.appendEvent event).1 =
        .ok (.inserted { event with sequence := store.lastEventSequence event.sessionId + 1 }) ∧
      (store.appendEvent event).2.rows =
        store.rows ++ [newEventRow event (store.lastEventSequence event.sessionId + 1)]) := by
  obtain ⟨error, hr⟩ | ⟨row, hrow, hmatch, hr⟩ | ⟨-, -, -, hr⟩ := appendEventRows_cases store.rows event
  · exact .inl ⟨error, by simp only [EventStore.appendEvent, hr]⟩
  · have hexisting : store.appendEvent event = (.ok (.existing row.record), store) := by
      simp only [EventStore.appendEvent, hr]
    refine .inr (.inl ⟨row, hrow, hexisting, ?_⟩)
    rcases hmatch with hid | ⟨turnId, kind, hterminal, hturn, hsession⟩
    · by_cases hsame : SameIdentity row event
      · exact .inl hsame
      · have hconflict := appendEvent_conflict hrow hid hsame
        rw [hexisting] at hconflict
        cases hconflict
    · exact .inr ⟨turnId, by rw [ClosesTurn, hterminal]; rfl, hsession, hturn⟩
  · exact .inr (.inr ⟨congrArg Prod.fst hr, congrArg Prod.snd hr⟩)

lemma appendEvent_told {outcome : AppendEventOutcome}
    (h : (store.appendEvent event).1 = .ok outcome) :
    ∃ row ∈ (store.appendEvent event).2.rows, row.record = outcome.event ∧
      ∀ turnId, ClosesTurn event.kind turnId →
        row.sessionId = event.sessionId ∧ row.terminalTurnId = some turnId := by
  obtain ⟨error, hr⟩ | ⟨row, hrow, hr, hmatch⟩ | ⟨hinserted, hrows⟩ := appendEvent_cases store event
  · rw [hr] at h
    cases h
  · rw [hr] at h ⊢
    cases h
    refine ⟨row, hrow, rfl, fun turnId hcloses => ?_⟩
    rcases hmatch with hsame | ⟨turnId', hcloses', hsession, hturn⟩
    · rw [← hsame.2.2.2] at hcloses
      exact ⟨hsame.2.1, (store.wellFormed.closesTurn hrow).mp hcloses⟩
    · refine ⟨hsession, ?_⟩
      rw [hturn, ← hcloses', ← hcloses]
  · rw [hinserted] at h
    cases h
    rw [hrows]
    exact ⟨_, List.mem_append_right _ (List.mem_singleton_self _), rfl, fun turnId hcloses =>
      ⟨rfl, hcloses⟩⟩

end Append

section Transaction

variable {replies : DatabaseReplies} {event : SessionEventRecord} {store store' : EventStore}
  {answer : Except CoreError AppendEventOutcome}

lemma appendEventTransaction_error {error : CoreError}
    (h : appendEventTransaction replies event store = (.error error, store')) : store' = store := by
  have hkeeps : (appendEventTransaction replies event).ErrorKeeps :=
    (Library.Call.readOnly_liftExcept _).bind_errorKeeps fun _ =>
      Library.Call.errorKeeps_atomically _
  exact hkeeps _ _ _ h

lemma appendEventTransaction_ok {outcome : AppendEventOutcome}
    (h : appendEventTransaction replies event store = (.ok outcome, store')) :
    store.appendEvent event = (.ok outcome, store') := by
  obtain ⟨_, -, h⟩ := Library.Call.liftExcept_bind_ok_iff.mp h
  have hbody := Library.Call.read_bind_ok_iff.mp (Library.Call.atomically_ok_iff.mp h)
  obtain ⟨error, hr⟩ | ⟨row, -, hr, -⟩ | ⟨hinserted, -⟩ := appendEvent_cases store event
  · rw [hr] at hbody
    cases hbody
  · rw [hr] at hbody
    obtain ⟨_, -, hbody⟩ := Library.Call.liftExcept_bind_ok_iff.mp hbody
    cases hbody
    exact hr
  · have hr : store.appendEvent event = (_, (store.appendEvent event).2) := Prod.ext hinserted rfl
    rw [hr] at hbody
    obtain ⟨_, -, hbody⟩ := Library.Call.liftExcept_bind_ok_iff.mp hbody
    have hbody := Library.Call.update_bind_ok_iff.mp hbody
    split at hbody
    · obtain ⟨_, -, hbody⟩ := Library.Call.liftExcept_bind_ok_iff.mp hbody
      obtain ⟨_, -, hbody⟩ := Library.Call.liftExcept_bind_ok_iff.mp hbody
      cases hbody
      exact hr
    · obtain ⟨_, -, hbody⟩ := Library.Call.liftExcept_bind_ok_iff.mp hbody
      cases hbody
      exact hr

lemma appendEventTransaction_existing {existing : SessionEventRecord}
    (hbegins : replies.begins = .ok ()) (hcommits : replies.commits = .ok ())
    (h : store.appendEvent event = (.ok (.existing existing), store)) :
    appendEventTransaction replies event store = (.ok (.existing existing), store) := by
  have hbody : appendEventTransaction replies event store =
      (.ok (.existing existing), store) ↔ _ := Library.Call.liftExcept_bind_ok_iff
  refine hbody.mpr ⟨(), hbegins, Library.Call.atomically_ok_iff.mpr ?_⟩
  apply Library.Call.read_bind_ok_iff.mpr
  rw [h]
  exact Library.Call.liftExcept_bind_ok_iff.mpr ⟨(), hcommits, rfl⟩

end Transaction

structure AppendsCanonically (replies : DatabaseReplies) (event : SessionEventRecord)
    (before : EventStore) (answer : Except CoreError AppendEventOutcome) (after : EventStore) :
    Prop where
  failed : ∀ error, answer = .error error → after = before
  inserted : ∀ canonical, answer = .ok (.inserted canonical) →
    canonical = { event with sequence := before.lastEventSequence event.sessionId + 1 } ∧
      after.rows = before.rows ++
        [newEventRow event (before.lastEventSequence event.sessionId + 1)]
  existing : ∀ stored, answer = .ok (.existing stored) → after = before
  retried : ∀ row ∈ before.rows, SameIdentity row event → ∀ outcome, answer = .ok outcome →
    outcome = .existing row.record
  closed : ∀ turnId, ClosesTurn event.kind turnId → ∀ row ∈ before.rows,
    row.sessionId = event.sessionId → row.terminalTurnId = some turnId →
      ∀ outcome, answer = .ok outcome → outcome = .existing row.record
  retried_told : replies.begins = .ok () → replies.commits = .ok () →
    ∀ row ∈ before.rows, SameIdentity row event → answer = .ok (.existing row.record)
  closed_told : replies.begins = .ok () → replies.commits = .ok () →
    (∀ row ∈ before.rows, row.eventId = event.eventId → SameIdentity row event) →
      ∀ turnId, ClosesTurn event.kind turnId → ∀ row ∈ before.rows,
        row.sessionId = event.sessionId → row.terminalTurnId = some turnId →
          answer = .ok (.existing row.record)

section Runs

variable {replies : DatabaseReplies} {event : SessionEventRecord} {before after : EventStore}
  {answer : Except CoreError AppendEventOutcome}

lemma appendEvent_closing {turnId : TurnId} {row : EventRow}
    (hids : ∀ row ∈ before.rows, row.eventId = event.eventId → SameIdentity row event)
    (hcloses : ClosesTurn event.kind turnId) (hrow : row ∈ before.rows)
    (hsession : row.sessionId = event.sessionId) (hturn : row.terminalTurnId = some turnId) :
    (before.appendEvent event).1 = .ok (.existing row.record) := by
  by_cases hstored : ∃ own ∈ before.rows, own.eventId = event.eventId
  · obtain ⟨own, hown, hid⟩ := hstored
    have hsame := hids own hown hid
    have hturn' : own.terminalTurnId = some turnId := by
      rw [← hsame.2.2.2] at hcloses
      exact (before.wellFormed.closesTurn hown).mp hcloses
    have heq := before.wellFormed.eq_of_terminalTurnId hown hrow
      (hsame.2.1.trans hsession.symm) hturn' hturn
    rw [← heq]
    exact appendEvent_sameIdentity hown hsame
  · refine appendEvent_closed (fun own hown hid => ?_) hcloses hrow hsession hturn
    exact hstored ⟨own, hown, hid⟩

lemma appendEvent_existing {existing : SessionEventRecord}
    (h : (before.appendEvent event).1 = .ok (.existing existing)) :
    before.appendEvent event = (.ok (.existing existing), before) := by
  obtain ⟨error, hr⟩ | ⟨row, -, hr, -⟩ | ⟨hinserted, -⟩ := appendEvent_cases before event
  · rw [hr] at h
    cases h
  · rw [hr] at h
    cases h
    exact hr
  · rw [hinserted] at h
    cases h

theorem appendEventTransaction_canonical
    (h : appendEventTransaction replies event before = (answer, after)) :
    AppendsCanonically replies event before answer after where
  failed error herror := by
    subst herror
    exact appendEventTransaction_error h
  inserted canonical hanswer := by
    subst hanswer
    have happend := appendEventTransaction_ok h
    obtain ⟨error, hr⟩ | ⟨row, -, hr, -⟩ | ⟨hinserted, hrows⟩ := appendEvent_cases before event
    · rw [happend] at hr
      cases hr
    · rw [happend] at hr
      cases hr
    · rw [happend] at hinserted hrows
      cases hinserted
      exact ⟨rfl, hrows⟩
  existing stored hanswer := by
    subst hanswer
    have happend := appendEventTransaction_ok h
    have hexisting := appendEvent_existing (congrArg Prod.fst happend)
    rw [happend] at hexisting
    exact congrArg Prod.snd hexisting
  retried row hrow hsame outcome hanswer := by
    subst hanswer
    have hexisting := appendEvent_sameIdentity hrow hsame
    rw [appendEventTransaction_ok h] at hexisting
    cases hexisting
    rfl
  closed turnId hcloses row hrow hsession hturn outcome hanswer := by
    subst hanswer
    have happend := appendEventTransaction_ok h
    have hids : ∀ own ∈ before.rows, own.eventId = event.eventId → SameIdentity own event := by
      intro own hown hid
      by_contra hother
      have hconflict := appendEvent_conflict hown hid hother
      rw [happend] at hconflict
      cases hconflict
    have hexisting := appendEvent_closing hids hcloses hrow hsession hturn
    rw [happend] at hexisting
    cases hexisting
    rfl
  retried_told hbegins hcommits row hrow hsame := by
    have hexisting := appendEvent_existing (appendEvent_sameIdentity hrow hsame)
    rw [appendEventTransaction_existing hbegins hcommits hexisting] at h
    cases h
    rfl
  closed_told hbegins hcommits hids turnId hcloses row hrow hsession hturn := by
    have hexisting := appendEvent_existing (appendEvent_closing hids hcloses hrow hsession hturn)
    rw [appendEventTransaction_existing hbegins hcommits hexisting] at h
    cases h
    rfl

variable {initial store : EventStore}
  {l : List ((DatabaseReplies × SessionEventRecord) × Except CoreError AppendEventOutcome)}

lemma appendEventTransaction_rows {row : EventRow}
    (h : appendEventTransaction replies event before = (answer, after)) (hrow : row ∈ before.rows) :
    row ∈ after.rows := by
  have hcanonical := appendEventTransaction_canonical h
  cases answer with
  | error error => exact hcanonical.failed error rfl ▸ hrow
  | ok outcome =>
      cases outcome with
      | existing stored => exact hcanonical.existing stored rfl ▸ hrow
      | inserted canonical =>
          rw [(hcanonical.inserted canonical rfl).2]
          exact List.mem_append_left _ hrow

lemma appendCalls_step {call : DatabaseReplies × SessionEventRecord} :
    (appendCalls initial).step before call = some (answer, after) ↔
      appendEventTransaction call.1 call.2 before = (answer, after) := by
  simp [appendCalls]

lemma appendCalls_rows {row : EventRow} (hrun : (appendCalls initial).Run before l store)
    (hrow : row ∈ before.rows) : row ∈ store.rows := by
  have hkept := hrun.induct (I := fun s => row ∈ s.rows) (Q := fun _ _ => True)
    (fun s call answer t hs _ _ hstep =>
      ⟨appendEventTransaction_rows (appendCalls_step.mp hstep) hs, trivial⟩) hrow
  exact hkept.1

lemma appendCalls_told {call : DatabaseReplies × SessionEventRecord} {outcome : AppendEventOutcome}
    {turnId : TurnId} (hrun : (appendCalls initial).Run initial l store)
    (hcall : (call, .ok outcome) ∈ l) (hcloses : ClosesTurn call.2.kind turnId) :
    ∃ row ∈ store.rows, row.record = outcome.event ∧ row.sessionId = call.2.sessionId ∧
      row.terminalTurnId = some turnId := by
  obtain ⟨before, after, _, _, -, hstep, hafter⟩ := hrun.exists_of_mem hcall
  have happend := appendEventTransaction_ok (appendCalls_step.mp hstep)
  obtain ⟨row, hrow, hrecord, htold⟩ := appendEvent_told (congrArg Prod.fst happend)
  rw [happend] at hrow
  obtain ⟨hsession, hturn⟩ := htold turnId hcloses
  exact ⟨row, appendCalls_rows hafter hrow, hrecord, hsession, hturn⟩

lemma findTerminalRows_eq {row : EventRow} {turnId : TurnId} (hrow : row ∈ store.rows)
    (hturn : row.terminalTurnId = some turnId) :
    findTerminalRows store row.sessionId turnId = [row] := by
  have hnodup := store.wellFormed.nodup
  have hfilter : (sessionRows store.rows row.sessionId).filter
      (fun row => row.terminalTurnId = some turnId) = [row] := by
    apply List.perm_singleton.mp
    apply (List.perm_ext_iff_of_nodup ((hnodup.filter _).filter _) (List.nodup_singleton row)).mpr
    intro row'
    rw [List.mem_filter, List.mem_singleton]
    constructor
    · rintro ⟨hmem, hturn'⟩
      obtain ⟨hrow', hsession⟩ := mem_sessionRows.mp hmem
      exact store.wellFormed.eq_of_terminalTurnId hrow' hrow hsession (by simpa using hturn') hturn
    · rintro rfl
      exact ⟨mem_sessionRows.mpr ⟨hrow, rfl⟩, by simpa using hturn⟩
  rw [findTerminalRows, hfilter]
  rfl

lemma findTerminalEvent_eq {row : EventRow} {turnId : TurnId} (hrow : row ∈ store.rows)
    (hturn : row.terminalTurnId = some turnId) :
    findTerminalEvent store row.sessionId turnId = .ok (some row.record) := by
  rw [findTerminalEvent, findTerminalRows_eq hrow hturn]
  simp only [canonicalTerminal, store.wellFormed.validate hrow, ne_eq, not_true_eq_false, if_false,
    Option.isSome_none, Bool.false_eq_true]
  rfl

end Runs

section OneTurn

def demoTurnEvent (eventId : String) (kind : SessionEventKind) :
    DatabaseReplies × SessionEventRecord :=
  (.ok, {
    eventId := eventId
    sessionId := ⟨"session-1"⟩
    sequence := 0
    occurredAt := "2026-08-02T10:00:00Z"
    kind := kind })

def demoTurnCalls : List (DatabaseReplies × SessionEventRecord) :=
  [demoTurnEvent "event-1" (.sessionStarted ⟨"workspace-1"⟩ ⟨"project-1"⟩ "codex" none none),
    demoTurnEvent "event-2" (.turnCompleted ⟨"turn-1"⟩)]

def demoTurnStore : EventStore :=
  (appendCalls .empty).exec .empty demoTurnCalls

def demoClosed : SessionEventRecord where
  eventId := "event-2"
  sessionId := ⟨"session-1"⟩
  sequence := 2
  occurredAt := "2026-08-02T10:00:00Z"
  kind := .turnCompleted ⟨"turn-1"⟩

end OneTurn

end DevCommandCenter
