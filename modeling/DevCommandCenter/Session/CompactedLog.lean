import DevCommandCenter.Library.Transition
import DevCommandCenter.Session.DeltaRuns

/-! The event store under appends and compaction steps, beside the log that is never compacted. -/

namespace DevCommandCenter

open Library

structure CompactedLog where
  store : EventStore
  original : EventStore

inductive LogAction
  | append (event : SessionEventRecord)
  | compact (sessionId : SessionId) (now : ℤ) (maxDeleted : ℕ)
      (afterRows afterTerminals : List SessionEventRecord)
  deriving DecidableEq, Repr

inductive LogAnswer
  | appended (outcome : Except CoreError AppendEventOutcome)
  | compacted (step : DeltaCompactionStep)

namespace CompactedLog

def append (log : CompactedLog) (event : SessionEventRecord) : CompactedLog where
  store := (log.store.appendEvent event).2
  original := (log.original.appendEvent event).2

def appendAll (log : CompactedLog) (events : List SessionEventRecord) : CompactedLog :=
  events.foldl append log

def step (parseFromRfc3339 : String → Option ℤ) (log : CompactedLog) :
    LogAction → Option (LogAnswer × CompactedLog)
  | .append event => some (.appended (log.store.appendEvent event).1, log.append event)
  | .compact sessionId now maxDeleted afterRows afterTerminals =>
      let atTerminals := log.appendAll afterRows
      let atWrite := atTerminals.appendAll afterTerminals
      let result := compactSessionDeltasStep parseFromRfc3339 log.store atTerminals.store atWrite.store
        sessionId now maxDeleted
      some (.compacted result.1, ⟨result.2, atWrite.original⟩)

def unabsorbed (log : CompactedLog) (event : SessionEventRecord) : Bool :=
  log.original.rows.all fun row => decide (row.eventId ≠ event.eventId) ||
    log.store.rows.any fun stored => decide (stored.eventId = event.eventId)

def unabsorbedAll (log : CompactedLog) : List SessionEventRecord → Bool
  | [] => true
  | event :: events => log.unabsorbed event && (log.append event).unabsorbedAll events

def drawsNewIds (log : CompactedLog) : LogAction → Bool
  | .append event => log.unabsorbed event
  | .compact _ _ _ afterRows afterTerminals => log.unabsorbedAll (afterRows ++ afterTerminals)

end CompactedLog

def EventStore.Uncompacted (store : EventStore) : Prop :=
  (∀ row ∈ store.rows, row.compactedThrough = none) ∧ ∀ sessionId, store.scannedThrough sessionId = none

def compactedLogging (parseFromRfc3339 : String → Option ℤ) (initial : EventStore) :
    System CompactedLog LogAction LogAnswer :=
  System.restrict
    { start := ⟨initial, initial⟩
      step := CompactedLog.step parseFromRfc3339 }
    CompactedLog.drawsNewIds

section Appending

variable {rows : List EventRow} {event : SessionEventRecord}

def Inserts (rows : List EventRow) (event : SessionEventRecord) : Prop :=
  (∀ row ∈ rows, row.eventId ≠ event.eventId) ∧
  (∀ turnId kind, terminal event.kind = some (turnId, kind) →
    ∀ row ∈ sessionRows rows event.sessionId, row.terminalTurnId ≠ some turnId) ∧
  maxSequence rows event.sessionId + 1 ≤ i64Max

lemma appendEventRows_rows (rows : List EventRow) (event : SessionEventRecord) :
    (Inserts rows event → (appendEventRows rows event).2 =
      rows ++ [newEventRow event (maxSequence rows event.sessionId + 1)]) ∧
    (¬Inserts rows event → (appendEventRows rows event).2 = rows) := by
  constructor
  · rintro ⟨hid, hterminal, hmax⟩
    have hnone : rows.find? (fun row => row.eventId = event.eventId) = none := by simpa using hid
    rw [appendEventRows, hnone]
    dsimp only
    rw [Option.bind_eq_none_iff.mpr]
    · dsimp only
      rw [if_neg (by omega)]
    · rintro ⟨turnId, kind⟩ hkind
      simpa using hterminal turnId kind hkind
  · intro hnot
    obtain ⟨_, hr⟩ | ⟨_, _, _, hr⟩ | ⟨hid, hterminal, hmax, hr⟩ := appendEventRows_cases rows event
    · rw [hr]
    · rw [hr]
    · refine absurd ⟨hid, fun turnId kind hkind row hrow => ?_, hmax⟩ hnot
      exact hterminal turnId kind hkind row (mem_sessionRows.mp hrow).1 (mem_sessionRows.mp hrow).2

lemma foldr_max_append (l l' : List ℕ) : (l ++ l').foldr max 0 = max (l.foldr max 0) (l'.foldr max 0) := by
  induction l with
  | nil => simp
  | cons n l ih => simp only [List.cons_append, List.foldr_cons, ih, max_assoc]

lemma maxSequence_append (rows rows' : List EventRow) (sessionId : SessionId) :
    maxSequence (rows ++ rows') sessionId =
      max (maxSequence rows sessionId) (maxSequence rows' sessionId) := by
  rw [maxSequence, sessionRows_append, List.map_append, foldr_max_append]
  rfl

end Appending

structure Compacts (store original : EventStore) : Prop where
  unmerged : ∀ row ∈ original.rows, row.compactedThrough = none
  represents : ∀ sessionId,
    Represents (sessionRows store.rows sessionId) (sessionRows original.rows sessionId)
  crowded : ∀ sessionId, ((sessionRows store.rows sessionId).filter fun row =>
    (store.scannedThrough sessionId).getD 0 < row.sequence).IsChain Crowded
  highest : ∀ sessionId, maxSequence store.rows sessionId = maxSequence original.rows sessionId

lemma crowded_of_unmerged {rows : List EventRow} (h : ∀ row ∈ rows, row.compactedThrough = none) :
    rows.IsChain Crowded := by
  refine List.Pairwise.isChain (List.pairwise_of_forall_mem_list fun a _ b hb _ hmerged => ?_)
  rw [h b hb] at hmerged
  cases hmerged

lemma EventStore.Uncompacted.compacts {store : EventStore} (h : store.Uncompacted) :
    Compacts store store where
  unmerged := h.1
  represents _ := represents_refl _
  crowded _ := crowded_of_unmerged fun row hrow =>
    h.1 row (mem_sessionRows.mp (List.mem_of_mem_filter hrow)).1
  highest _ := rfl

namespace Compacts

variable {store original : EventStore} {event : SessionEventRecord}

lemma exists_original (h : Compacts store original) {row : EventRow} (hrow : row ∈ store.rows) :
    ∃ run : DeltaRun, run.row = row ∧
      ∀ e ∈ run.events, e ∈ sessionRows original.rows row.sessionId := by
  obtain ⟨runs, hrows, horiginal⟩ := h.represents row.sessionId
  have hmem : row ∈ runs.map DeltaRun.row := hrows ▸ mem_sessionRows.mpr ⟨hrow, rfl⟩
  obtain ⟨run, hrun, rfl⟩ := List.mem_map.mp hmem
  refine ⟨run, rfl, fun e he => ?_⟩
  rw [horiginal]
  exact List.mem_flatMap.mpr ⟨run, hrun, he⟩

lemma delta_terminalTurnId {rows : List EventRow} (h : WellFormed rows) {row : EventRow}
    (hrow : row ∈ rows) (hdelta : row.target.isSome) : row.terminalTurnId = none := by
  rw [← (h.terminals row hrow).1]
  have hkind : terminal row.kind = none := by
    rw [target_isSome] at hdelta
    cases hkind : row.kind <;> rw [hkind] at hdelta <;> first | rfl | cases hdelta
  rw [hkind]
  rfl

lemma terminal_iff (h : Compacts store original) (sessionId : SessionId) (turnId : TurnId) :
    (∃ row ∈ sessionRows store.rows sessionId, row.terminalTurnId = some turnId) ↔
      ∃ row ∈ sessionRows original.rows sessionId, row.terminalTurnId = some turnId := by
  obtain ⟨runs, hrows, horiginal⟩ := h.represents sessionId
  constructor
  · rintro ⟨row, hrow, hturn⟩
    rw [hrows] at hrow
    obtain ⟨run, hrun, rfl⟩ := List.mem_map.mp hrow
    refine ⟨run.first, ?_, ?_⟩
    · rw [horiginal]
      exact List.mem_flatMap.mpr ⟨run, hrun, List.mem_cons_self⟩
    · rw [← hturn, DeltaRun.row]
      split <;> rfl
  · rintro ⟨event, hevent, hturn⟩
    have horig := (mem_sessionRows.mp hevent).1
    rw [horiginal] at hevent
    obtain ⟨run, hrun, hmem⟩ := List.mem_flatMap.mp hevent
    have hrest : run.rest = [] := by
      by_contra hrest
      have hdelta := DeltaRun.first_isSome hrest
      rw [← DeltaRun.target_of_mem hmem] at hdelta
      rw [delta_terminalTurnId original.wellFormed horig hdelta] at hturn
      cases hturn
    rw [DeltaRun.events, hrest, List.mem_singleton] at hmem
    refine ⟨run.row, ?_, ?_⟩
    · rw [hrows]
      exact List.mem_map_of_mem hrun
    · rw [DeltaRun.row_of_rest_nil hrest, ← hmem, hturn]

lemma inserts_iff (h : Compacts store original)
    (hid : CompactedLog.unabsorbed ⟨store, original⟩ event = true) :
    Inserts store.rows event ↔ Inserts original.rows event := by
  have hids : (∀ row ∈ store.rows, row.eventId ≠ event.eventId) ↔
      ∀ row ∈ original.rows, row.eventId ≠ event.eventId := by
    constructor
    · intro hstore row hrow heq
      have hkept := List.all_eq_true.mp hid row hrow
      simp only [heq, ne_eq, not_true_eq_false, decide_false, Bool.false_or, List.any_eq_true,
        decide_eq_true_eq] at hkept
      obtain ⟨stored, hstored, hsame⟩ := hkept
      exact hstore stored hstored hsame
    · intro horiginal row hrow heq
      obtain ⟨run, rfl, hevents⟩ := h.exists_original hrow
      have hfirst := (mem_sessionRows.mp (hevents run.first List.mem_cons_self)).1
      exact horiginal run.first hfirst (run.row_eventId ▸ heq)
  have hterminals : ∀ turnId, (∀ row ∈ sessionRows store.rows event.sessionId,
      row.terminalTurnId ≠ some turnId) ↔
      ∀ row ∈ sessionRows original.rows event.sessionId, row.terminalTurnId ≠ some turnId := by
    intro turnId
    have hiff := (h.terminal_iff event.sessionId turnId).not
    push Not at hiff
    exact hiff
  rw [Inserts, Inserts, hids, h.highest]
  simp only [hterminals]

lemma append (h : Compacts store original)
    (hid : CompactedLog.unabsorbed ⟨store, original⟩ event = true) :
    Compacts (store.appendEvent event).2 (original.appendEvent event).2 := by
  have hiff := h.inserts_iff hid
  by_cases hinserts : Inserts store.rows event
  · have hstore : (store.appendEvent event).2.rows = _ := (appendEventRows_rows _ _).1 hinserts
    have horiginal : (original.appendEvent event).2.rows = _ :=
      (appendEventRows_rows _ _).1 (hiff.mp hinserts)
    rw [← h.highest] at horiginal
    have hscanned : (store.appendEvent event).2.scannedThrough = store.scannedThrough := rfl
    refine ⟨?_, fun sessionId => ?_, fun sessionId => ?_, fun sessionId => ?_⟩
    · rw [horiginal]
      exact List.forall_mem_append.mpr ⟨h.unmerged, by simp [newEventRow]⟩
    · rw [hstore, horiginal, sessionRows_append, sessionRows_append]
      exact (h.represents sessionId).append (represents_refl _)
    · rw [hstore, hscanned, sessionRows_append, List.filter_append]
      have hnew : ∀ row ∈ sessionRows [newEventRow event (maxSequence store.rows event.sessionId + 1)]
          sessionId, row.compactedThrough = none := by
        intro row hrow
        rw [List.mem_singleton.mp (mem_sessionRows.mp hrow).1]
        rfl
      refine List.isChain_append.mpr ⟨h.crowded sessionId,
        crowded_of_unmerged fun row hrow => hnew row (List.mem_of_mem_filter hrow), ?_⟩
      intro row _ next hnext _ hmerged
      rw [hnew next (List.mem_of_mem_filter (List.mem_of_mem_head? hnext))] at hmerged
      cases hmerged
    · rw [hstore, horiginal, maxSequence_append, maxSequence_append, h.highest]
  · have hstore : (store.appendEvent event).2.rows = store.rows :=
      (appendEventRows_rows _ _).2 hinserts
    have horiginal : (original.appendEvent event).2.rows = original.rows :=
      (appendEventRows_rows _ _).2 (hiff.not.mp hinserts)
    have hscanned : (store.appendEvent event).2.scannedThrough = store.scannedThrough := rfl
    refine ⟨?_, fun sessionId => ?_, fun sessionId => ?_, fun sessionId => ?_⟩
    · rw [horiginal]
      exact h.unmerged
    · rw [hstore, horiginal]
      exact h.represents sessionId
    · rw [hstore, hscanned]
      exact h.crowded sessionId
    · rw [hstore, horiginal]
      exact h.highest sessionId

end Compacts

section TwoDeltas

def demoLogSession : SessionId :=
  ⟨"session-1"⟩

def demoLogEvent (eventId : String) (kind : SessionEventKind) : SessionEventRecord where
  eventId := eventId
  sessionId := demoLogSession
  sequence := 0
  occurredAt := "2026-01-01T00:00:00Z"
  kind := kind

def demoParse (_ : String) : Option ℤ :=
  some 0

def demoLog : CompactedLog :=
  (compactedLogging demoParse .empty).exec ⟨.empty, .empty⟩
    [.append (demoLogEvent "e1" (.turnDelta ⟨"turn-1"⟩ "Hel")),
      .append (demoLogEvent "e2" (.turnDelta ⟨"turn-1"⟩ "lo")),
      .append (demoLogEvent "e3" (.turnCompleted ⟨"turn-1"⟩)),
      .compact demoLogSession 600000000000 100 [demoLogEvent "e4" .sessionCompleted] []]

end TwoDeltas

end DevCommandCenter
