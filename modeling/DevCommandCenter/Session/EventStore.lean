import DevCommandCenter.Session.Events
import Mathlib.Algebra.GroupWithZero.Nat
import Mathlib.Data.List.Basic
import Mathlib.Data.List.Nodup
import Mathlib.Data.List.Pairwise
import Mathlib.Order.Lattice
import Mathlib.Order.Nat

/-! The `dcc_session_events` table. Every write is one immediate transaction. -/

namespace DevCommandCenter

inductive TerminalKind
  | completed
  | aborted
  deriving DecidableEq, Repr

structure EventRow where
  eventId : String
  sessionId : SessionId
  sequence : ℕ
  occurredAt : String
  kind : SessionEventKind
  terminalTurnId : Option TurnId
  terminalKind : Option TerminalKind
  compactedThrough : Option ℕ
  deriving DecidableEq, Repr

def EventRow.record (row : EventRow) : SessionEventRecord where
  eventId := row.eventId
  sessionId := row.sessionId
  sequence := row.sequence
  occurredAt := row.occurredAt
  kind := row.kind

def terminal : SessionEventKind → Option (TurnId × TerminalKind)
  | .turnCompleted turnId => some (turnId, .completed)
  | .turnAborted turnId _ => some (turnId, .aborted)
  | _ => none

structure WellFormed (rows : List EventRow) : Prop where
  eventIds : rows.Pairwise fun a b => a.eventId ≠ b.eventId
  sequences : rows.Pairwise fun a b => a.sessionId = b.sessionId → a.sequence < b.sequence
  positive : ∀ row ∈ rows, 0 < row.sequence
  terminals : ∀ row ∈ rows, (terminal row.kind).map Prod.fst = row.terminalTurnId ∧
    (terminal row.kind).map Prod.snd = row.terminalKind
  terminalTurns : rows.Pairwise fun a b => a.sessionId = b.sessionId → a.terminalTurnId.isSome →
    a.terminalTurnId ≠ b.terminalTurnId

lemma WellFormed.eq_of_eventId {rows : List EventRow} (h : WellFormed rows) {row row' : EventRow}
    (hrow : row ∈ rows) (hrow' : row' ∈ rows) (heq : row.eventId = row'.eventId) : row = row' :=
  List.inj_on_of_nodup_map (List.pairwise_map.mpr h.eventIds) hrow hrow' heq

lemma WellFormed.nodup {rows : List EventRow} (h : WellFormed rows) : rows.Nodup :=
  h.eventIds.imp fun hne heq => hne (congrArg EventRow.eventId heq)

structure EventStore where
  rows : List EventRow
  scannedThrough : SessionId → Option ℕ
  wellFormed : WellFormed rows

namespace EventStore

def empty : EventStore where
  rows := []
  scannedThrough := fun _ => none
  wellFormed := ⟨.nil, .nil, by simp, by simp, .nil⟩

end EventStore

def sessionRows (rows : List EventRow) (sessionId : SessionId) : List EventRow :=
  rows.filter fun row => row.sessionId = sessionId

def EventStore.listEventsBySession (store : EventStore) (sessionId : SessionId) :
    List SessionEventRecord :=
  (sessionRows store.rows sessionId).map EventRow.record

def EventStore.listEventsBySessionAfter (store : EventStore) (sessionId : SessionId)
    (after limit : ℕ) : List SessionEventRecord :=
  (((sessionRows store.rows sessionId).filter fun row => after < row.sequence).take limit).map
    EventRow.record

def maxSequence (rows : List EventRow) (sessionId : SessionId) : ℕ :=
  ((sessionRows rows sessionId).map EventRow.sequence).foldr max 0

def EventStore.lastEventSequence (store : EventStore) (sessionId : SessionId) : ℕ :=
  maxSequence store.rows sessionId

inductive AppendEventOutcome
  | inserted (event : SessionEventRecord)
  | existing (event : SessionEventRecord)
  deriving DecidableEq, Repr

def i64Max : ℕ := 2 ^ 63 - 1

def validateEventMetadata (row : EventRow) : Except CoreError Unit :=
  match terminal row.kind with
  | some (turnId, kind) =>
      if row.terminalTurnId = some turnId ∧ row.terminalKind = some kind then .ok ()
      else .error (.repository "durable event terminal metadata is inconsistent")
  | none =>
      if row.terminalTurnId = none ∧ row.terminalKind = none then .ok ()
      else .error (.repository "durable event terminal metadata is inconsistent")

def newEventRow (event : SessionEventRecord) (sequence : ℕ) : EventRow where
  eventId := event.eventId
  sessionId := event.sessionId
  sequence := sequence
  occurredAt := event.occurredAt
  kind := event.kind
  terminalTurnId := (terminal event.kind).map Prod.fst
  terminalKind := (terminal event.kind).map Prod.snd
  compactedThrough := none

def appendEventRows (rows : List EventRow) (event : SessionEventRecord) :
    Except CoreError AppendEventOutcome × List EventRow :=
  match rows.find? (fun row => row.eventId = event.eventId) with
  | some existing =>
      match validateEventMetadata existing with
      | .error error => (.error error, rows)
      | .ok () =>
          if existing.sessionId ≠ event.sessionId ∨ existing.occurredAt ≠ event.occurredAt ∨
              existing.kind ≠ event.kind then
            (.error (.repository "event identity conflicts with existing event"), rows)
          else (.ok (.existing existing.record), rows)
  | none =>
      match (terminal event.kind).bind fun (turnId, _) =>
          (sessionRows rows event.sessionId).find? fun row => row.terminalTurnId = some turnId with
      | some existing =>
          match validateEventMetadata existing with
          | .error error => (.error error, rows)
          | .ok () => (.ok (.existing existing.record), rows)
      | none =>
          let sequence := maxSequence rows event.sessionId + 1
          -- past the largest i64 SQLite answers a REAL, which the i64 column read refuses
          if i64Max < sequence then
            (.error (.repository
              "Invalid column type Real at index: 0, name: COALESCE(MAX(sequence), 0) + 1"), rows)
          else (.ok (.inserted { event with sequence := sequence }), rows ++ [newEventRow event sequence])

lemma mem_sessionRows {rows : List EventRow} {sessionId : SessionId} {row : EventRow} :
    row ∈ sessionRows rows sessionId ↔ row ∈ rows ∧ row.sessionId = sessionId := by
  simp [sessionRows]

lemma le_foldr_max {l : List ℕ} {n : ℕ} (h : n ∈ l) : n ≤ l.foldr max 0 := by
  induction l with
  | nil => cases h
  | cons a l ih =>
      rcases List.mem_cons.mp h with rfl | h
      · exact le_max_left _ _
      · exact (ih h).trans (le_max_right _ _)

lemma sequence_le_maxSequence {rows : List EventRow} {row : EventRow} (h : row ∈ rows) :
    row.sequence ≤ maxSequence rows row.sessionId :=
  le_foldr_max (List.mem_map_of_mem (mem_sessionRows.mpr ⟨h, rfl⟩))

lemma appendEventRows_cases (rows : List EventRow) (event : SessionEventRecord) :
    (∃ error, appendEventRows rows event = (.error error, rows)) ∨
    (∃ row ∈ rows, (row.eventId = event.eventId ∨ ∃ turnId kind,
        terminal event.kind = some (turnId, kind) ∧ row.terminalTurnId = some turnId ∧
          row.sessionId = event.sessionId) ∧
      appendEventRows rows event = (.ok (.existing row.record), rows)) ∨
    ((∀ row ∈ rows, row.eventId ≠ event.eventId) ∧
      (∀ turnId kind, terminal event.kind = some (turnId, kind) →
        ∀ row ∈ rows, row.sessionId = event.sessionId → row.terminalTurnId ≠ some turnId) ∧
      maxSequence rows event.sessionId + 1 ≤ i64Max ∧
      appendEventRows rows event =
        (.ok (.inserted { event with sequence := maxSequence rows event.sessionId + 1 }),
          rows ++ [newEventRow event (maxSequence rows event.sessionId + 1)])) := by
  unfold appendEventRows
  cases hid : rows.find? (fun row => row.eventId = event.eventId) with
  | some existing =>
      have hmem := List.mem_of_find?_eq_some hid
      dsimp only
      cases validateEventMetadata existing with
      | error error => exact .inl ⟨error, rfl⟩
      | ok _ =>
          dsimp only
          split
          · exact .inl ⟨_, rfl⟩
          · have hid' : existing.eventId = event.eventId := by simpa using List.find?_some hid
            exact .inr (.inl ⟨existing, hmem, .inl hid', rfl⟩)
  | none =>
      have hfresh : ∀ row ∈ rows, row.eventId ≠ event.eventId := by simpa using hid
      dsimp only
      cases hterminal : (terminal event.kind).bind fun (turnId, _) =>
          (sessionRows rows event.sessionId).find? fun row => row.terminalTurnId = some turnId with
      | some existing =>
          obtain ⟨⟨turnId, kind⟩, hkind, hfind⟩ := Option.bind_eq_some_iff.mp hterminal
          obtain ⟨hmem, hsession⟩ := mem_sessionRows.mp (List.mem_of_find?_eq_some hfind)
          have hturn : existing.terminalTurnId = some turnId := by simpa using List.find?_some hfind
          dsimp only
          cases validateEventMetadata existing with
          | error error => exact .inl ⟨error, rfl⟩
          | ok _ => exact .inr (.inl ⟨existing, hmem, .inr ⟨turnId, kind, hkind, hturn, hsession⟩, rfl⟩)
      | none =>
          dsimp only
          split
          · exact .inl ⟨_, rfl⟩
          · next hmax =>
              refine .inr (.inr ⟨hfresh, ?_, by omega, rfl⟩)
              intro turnId kind hkind row hrow hsession
              simp only [hkind, Option.bind_some, List.find?_eq_none] at hterminal
              simpa using hterminal row (mem_sessionRows.mpr ⟨hrow, hsession⟩)

lemma WellFormed.insert {rows : List EventRow} (h : WellFormed rows) {event : SessionEventRecord}
    (hid : ∀ row ∈ rows, row.eventId ≠ event.eventId)
    (hterminal : ∀ turnId kind, terminal event.kind = some (turnId, kind) →
      ∀ row ∈ rows, row.sessionId = event.sessionId → row.terminalTurnId ≠ some turnId) :
    WellFormed (rows ++ [newEventRow event (maxSequence rows event.sessionId + 1)]) where
  eventIds := by
    refine List.pairwise_append.mpr ⟨h.eventIds, List.pairwise_singleton _ _, ?_⟩
    intro row hrow row' hrow'
    rw [List.mem_singleton.mp hrow']
    exact hid row hrow
  sequences := by
    refine List.pairwise_append.mpr ⟨h.sequences, List.pairwise_singleton _ _, ?_⟩
    intro row hrow row' hrow' hsession
    rw [List.mem_singleton.mp hrow'] at hsession ⊢
    have hle := sequence_le_maxSequence hrow
    rw [hsession] at hle
    exact Nat.lt_succ_of_le hle
  positive := by
    intro row hrow
    rcases List.mem_append.mp hrow with hrow | hrow
    · exact h.positive row hrow
    · rw [List.mem_singleton.mp hrow]
      exact Nat.succ_pos _
  terminals := by
    intro row hrow
    rcases List.mem_append.mp hrow with hrow | hrow
    · exact h.terminals row hrow
    · rw [List.mem_singleton.mp hrow]
      exact ⟨rfl, rfl⟩
  terminalTurns := by
    refine List.pairwise_append.mpr ⟨h.terminalTurns, List.pairwise_singleton _ _, ?_⟩
    intro row hrow row' hrow' hsession hsome
    rw [List.mem_singleton.mp hrow'] at hsession ⊢
    cases hkind : terminal event.kind with
    | none =>
        intro heq
        rw [heq] at hsome
        simp [newEventRow, hkind] at hsome
    | some pair =>
        obtain ⟨turnId, kind⟩ := pair
        have hne := hterminal turnId kind hkind row hrow hsession
        simpa [newEventRow, hkind] using hne

lemma appendEventRows_wellFormed {rows : List EventRow} (h : WellFormed rows)
    (event : SessionEventRecord) : WellFormed (appendEventRows rows event).2 := by
  obtain ⟨_, hr⟩ | ⟨_, _, _, hr⟩ | ⟨hid, hterminal, _, hr⟩ := appendEventRows_cases rows event
  · rwa [hr]
  · rwa [hr]
  · rw [hr]
    exact h.insert hid hterminal

def EventStore.appendEvent (store : EventStore) (event : SessionEventRecord) :
    Except CoreError AppendEventOutcome × EventStore :=
  ((appendEventRows store.rows event).1,
    { rows := (appendEventRows store.rows event).2
      scannedThrough := store.scannedThrough
      wellFormed := appendEventRows_wellFormed store.wellFormed event })

lemma sessionRows_append (rows rows' : List EventRow) (sessionId : SessionId) :
    sessionRows (rows ++ rows') sessionId = sessionRows rows sessionId ++ sessionRows rows' sessionId :=
  List.filter_append ..

lemma listEventsBySession_appendEvent {store : EventStore} {event canonical : SessionEventRecord}
    (h : (store.appendEvent event).1 = .ok (.inserted canonical)) :
    (store.appendEvent event).2.listEventsBySession event.sessionId =
      store.listEventsBySession event.sessionId ++ [canonical] := by
  obtain ⟨_, hr⟩ | ⟨_, _, _, hr⟩ | ⟨-, -, -, hr⟩ := appendEventRows_cases store.rows event
  · simp [EventStore.appendEvent, hr] at h
  · simp [EventStore.appendEvent, hr] at h
  · simp only [EventStore.appendEvent, hr, Except.ok.injEq, AppendEventOutcome.inserted.injEq] at h
    subst h
    simp [EventStore.appendEvent, EventStore.listEventsBySession, hr, sessionRows,
      newEventRow, EventRow.record]

lemma appendEvent_error {store : EventStore} {event : SessionEventRecord} {error : CoreError}
    (h : (store.appendEvent event).1 = .error error) : (store.appendEvent event).2 = store := by
  obtain ⟨_, hr⟩ | ⟨_, _, _, hr⟩ | ⟨-, -, -, hr⟩ := appendEventRows_cases store.rows event
  · simp only [EventStore.appendEvent, hr]
  · simp [EventStore.appendEvent, hr] at h
  · simp [EventStore.appendEvent, hr] at h

lemma appendEvent_fresh {store : EventStore} {event : SessionEventRecord} {outcome : AppendEventOutcome}
    (hfresh : ∀ row ∈ store.rows, row.eventId ≠ event.eventId) (hkind : terminal event.kind = none)
    (h : (store.appendEvent event).1 = .ok outcome) :
    outcome = .inserted { event with sequence := store.lastEventSequence event.sessionId + 1 } := by
  obtain ⟨_, hr⟩ | ⟨row, hrow, hmatch, _⟩ | ⟨-, -, -, hr⟩ := appendEventRows_cases store.rows event
  · simp [EventStore.appendEvent, hr] at h
  · rcases hmatch with hid | ⟨turnId, kind, hterminal, _⟩
    · exact absurd hid (hfresh row hrow)
    · simp [hkind] at hterminal
  · simp only [EventStore.appendEvent, hr, Except.ok.injEq] at h
    exact h.symm

lemma EventStore.log_sorted (store : EventStore) (sessionId : SessionId) :
    (store.listEventsBySession sessionId).Pairwise fun a b => a.sequence < b.sequence := by
  refine List.pairwise_map.mpr ?_
  have hsession := store.wellFormed.sequences.filter fun row => row.sessionId = sessionId
  refine hsession.imp_of_mem fun {a b} ha hb hlt => hlt ?_
  rw [(mem_sessionRows.mp ha).2, (mem_sessionRows.mp hb).2]

lemma EventStore.log_positive (store : EventStore) (sessionId : SessionId) :
    ∀ event ∈ store.listEventsBySession sessionId, 0 < event.sequence := by
  intro event hevent
  obtain ⟨row, hrow, rfl⟩ := List.mem_map.mp hevent
  exact store.wellFormed.positive row (mem_sessionRows.mp hrow).1

def demoSession : SessionId :=
  ⟨"session-1"⟩

def demoEvent (eventId : String) (kind : SessionEventKind) : SessionEventRecord where
  eventId := eventId
  sessionId := demoSession
  sequence := 0
  occurredAt := "2026-08-02T10:00:00Z"
  kind := kind

end DevCommandCenter
