import DevCommandCenter.Session.CompactionSteps

/-! What a client that asks for the rows after its cursor is sent once the log is compacted. -/

namespace DevCommandCenter

open Library

def deltaText (target : DeltaTarget) (rows : List EventRow) : String :=
  joinedText (rows.filter fun row => row.target = some target)

def otherEvents (rows : List EventRow) : List SessionEventRecord :=
  (rows.filter fun row => row.target = none).map EventRow.record

inductive LogPiece
  | text (target : DeltaTarget) (content : String)
  | event (record : SessionEventRecord)
  deriving DecidableEq, Repr

def EventRow.piece (row : EventRow) : LogPiece :=
  match deltaTarget row.kind with
  | some (target, content) => .text target content
  | none => .event row.record

def addPiece : LogPiece → List LogPiece → List LogPiece
  | .text target content, .text target' content' :: pieces =>
      if target = target' then .text target (content ++ content') :: pieces
      else .text target content :: .text target' content' :: pieces
  | piece, pieces => piece :: pieces

def logPieces (rows : List EventRow) : List LogPiece :=
  rows.foldr (fun row => addPiece row.piece) []

structure Carries (rows original : List EventRow) : Prop where
  deltas : ∀ target, deltaText target rows = deltaText target original
  others : otherEvents rows = otherEvents original
  order : logPieces rows = logPieces original

section Pieces

variable {rows original : List EventRow}

lemma addPiece_text (target : DeltaTarget) (content content' : String) (pieces : List LogPiece) :
    addPiece (.text target content) (addPiece (.text target content') pieces) =
      addPiece (.text target (content ++ content')) pieces := by
  cases pieces with
  | nil => simp [addPiece]
  | cons piece pieces =>
      cases piece with
      | text other text =>
          by_cases h : target = other
          · simp [addPiece, h, String.append_assoc]
          · simp [addPiece, h]
      | event record => simp [addPiece]

lemma piece_of_target {row : EventRow} {target : DeltaTarget} (h : row.target = some target) :
    row.piece = .text target row.text := by
  obtain ⟨⟨_, content⟩, hkind, rfl⟩ := Option.map_eq_some_iff.mp h
  simp [EventRow.piece, EventRow.text, hkind]

lemma foldr_addPiece {target : DeltaTarget} (rows : List EventRow) (pieces : List LogPiece)
    (content : String) (h : ∀ row ∈ rows, row.target = some target) :
    addPiece (.text target content) (rows.foldr (fun row => addPiece row.piece) pieces) =
      addPiece (.text target (content ++ joinedText rows)) pieces := by
  induction rows generalizing content with
  | nil => simp [joinedText]
  | cons row rows ih =>
      obtain ⟨hrow, hrows⟩ := List.forall_mem_cons.mp h
      rw [List.foldr_cons, piece_of_target hrow, addPiece_text, ih _ hrows, joinedText, joinedText,
        List.map_cons, String.join_cons, String.append_assoc]

lemma foldr_addPiece_run (run : DeltaRun) (pieces : List LogPiece) :
    run.events.foldr (fun row => addPiece row.piece) pieces = addPiece run.row.piece pieces := by
  by_cases hrest : run.rest = []
  · rw [DeltaRun.row_of_rest_nil hrest, DeltaRun.events, hrest]
    rfl
  · obtain ⟨target, htarget⟩ := Option.isSome_iff_exists.mp (DeltaRun.first_isSome hrest)
    have hall : ∀ row ∈ run.rest, row.target = some target := fun row hrow =>
      (run.sameTarget row hrow).1.trans htarget
    have hrow := piece_of_target (run.row_target.trans htarget)
    rw [DeltaRun.events, List.foldr_cons, piece_of_target htarget, foldr_addPiece _ _ _ hall, hrow,
      run.row_text]
    simp [DeltaRun.events, joinedText]

lemma Represents.logPieces_eq (h : Represents rows original) : logPieces rows = logPieces original := by
  obtain ⟨runs, rfl, rfl⟩ := h
  rw [logPieces, logPieces]
  induction runs with
  | nil => rfl
  | cons run runs ih =>
      rw [List.map_cons, List.flatMap_cons, List.foldr_cons, List.foldr_append, foldr_addPiece_run, ih]

lemma Represents.carries (h : Represents rows original) : Carries rows original where
  deltas target := (h.filter fun a b hsame _ => by rw [hsame]).joinedText_eq
  others := by
    have hothers : Represents (rows.filter fun row => row.target = none)
        (original.filter fun row => row.target = none) := h.filter fun a b hsame _ => by rw [hsame]
    have hsame := hothers.eq_of_no_target fun row hrow => of_decide_eq_true (List.mem_filter.mp hrow).2
    rw [otherEvents, otherEvents, hsame]
  order := h.logPieces_eq

end Pieces

section Cursor

variable {rows original : List EventRow} {c : ℕ}

lemma filter_after {earlier later : List EventRow} (hearlier : ∀ row ∈ earlier, row.sequence ≤ c)
    (hlater : ∀ row ∈ later, c < row.sequence) :
    (earlier ++ later).filter (fun row => c < row.sequence) = later := by
  have hnone : earlier.filter (fun row => c < row.sequence) = [] := by
    refine List.filter_eq_nil_iff.mpr fun row hrow => ?_
    simpa using hearlier row hrow
  have hall : later.filter (fun row => c < row.sequence) = later := by
    refine List.filter_eq_self.mpr fun row hrow => ?_
    simpa using hlater row hrow
  rw [List.filter_append, hnone, hall, List.nil_append]

lemma exists_event {runs : List DeltaRun} {row : EventRow} (h : row ∈ runs.map DeltaRun.row) :
    ∃ event ∈ runs.flatMap DeltaRun.events, event.sequence = row.sequence := by
  obtain ⟨run, hrun, rfl⟩ := List.mem_map.mp h
  exact ⟨run.first, List.mem_flatMap.mpr ⟨run, hrun, List.mem_cons_self⟩, run.row_sequence.symm⟩

lemma Represents.cursor (h : Represents rows original) (hordered : Ordered original)
    {event : EventRow} (hevent : event ∈ original) (hc : event.sequence = c) :
    (∃ row ∈ rows, row.sequence ≤ c ∧ ∃ through, row.compactedThrough = some through ∧ c < through) ∨
      Represents (rows.filter fun row => c < row.sequence)
        (original.filter fun row => c < row.sequence) := by
  obtain ⟨runs, rfl, rfl⟩ := h
  obtain ⟨run, hrun, hmem⟩ := List.mem_flatMap.mp hevent
  obtain ⟨earlier, later, rfl⟩ := List.append_of_mem hrun
  rw [List.flatMap_append, List.flatMap_cons] at hordered ⊢
  obtain ⟨-, htail, hbefore⟩ := List.pairwise_append.mp hordered
  obtain ⟨hrun_ordered, -, hafter⟩ := List.pairwise_append.mp htail
  have hfirst : run.first.sequence ≤ c := by
    rcases List.mem_cons.mp hmem with rfl | hrest
    · exact hc.le
    · exact ((List.pairwise_cons.mp hrun_ordered).1 event hrest).le.trans hc.le
  by_cases hlast : event = run.events.getLast run.events_ne_nil
  · right
    have hupto : ∀ row ∈ run.events, row.sequence ≤ c := by
      intro row hrow
      rw [← List.dropLast_append_getLast run.events_ne_nil, ← hlast] at hrow hrun_ordered
      rcases List.mem_append.mp hrow with hrow | hrow
      · have hlt := (List.pairwise_append.mp hrun_ordered).2.2 row hrow event
          (List.mem_singleton_self _)
        omega
      · rw [List.mem_singleton.mp hrow]
        exact hc.le
    have hlater : ∀ row ∈ later.flatMap DeltaRun.events, c < row.sequence := fun row hrow =>
      hc ▸ hafter event hmem row hrow
    have hearlier : ∀ row ∈ earlier.flatMap DeltaRun.events, row.sequence ≤ c := by
      intro row hrow
      have hlt := hbefore row hrow event (List.mem_append_left _ hmem)
      omega
    refine ⟨later, ?_, ?_⟩
    · rw [List.map_append, List.map_cons, List.append_cons]
      refine filter_after (fun row hrow => ?_) (fun row hrow => ?_)
      · rcases List.mem_append.mp hrow with hrow | hrow
        · obtain ⟨e, he, hsequence⟩ := exists_event hrow
          exact hsequence ▸ hearlier e he
        · rw [List.mem_singleton.mp hrow, run.row_sequence]
          exact hfirst
      · obtain ⟨e, he, hsequence⟩ := exists_event hrow
        exact hsequence ▸ hlater e he
    · rw [← List.append_assoc]
      exact filter_after (List.forall_mem_append.mpr ⟨hearlier, hupto⟩) hlater
  · left
    have hrest : run.rest ≠ [] := by
      intro hrest
      simp only [DeltaRun.events, hrest, List.mem_singleton, List.getLast_singleton] at hmem hlast
      exact hlast hmem
    refine ⟨run.row, List.mem_map_of_mem hrun, run.row_sequence.le.trans hfirst,
      (run.events.getLast run.events_ne_nil).sequence, ?_, ?_⟩
    · rw [DeltaRun.row_of_rest_ne_nil hrest]
    · rw [← List.dropLast_append_getLast run.events_ne_nil] at hmem hrun_ordered
      rcases List.mem_append.mp hmem with hmem | hmem
      · exact hc ▸ (List.pairwise_append.mp hrun_ordered).2.2 event hmem _ (List.mem_singleton_self _)
      · exact absurd (List.mem_singleton.mp hmem) hlast

end Cursor

namespace CompactedLog

variable {parseFromRfc3339 : String → Option ℤ} {log next : CompactedLog} {action : LogAction}
  {answer : LogAnswer}

lemma step_original_extends (hstep : log.step parseFromRfc3339 action = some (answer, next)) :
    Extends log.original next.original := by
  cases action with
  | append event =>
      cases hstep
      exact extends_appendEvent _ _
  | compact sessionId now maxDeleted afterRows afterTerminals =>
      cases hstep
      exact (appendAll_extends log afterRows).2.trans
        (appendAll_extends (log.appendAll afterRows) afterTerminals).2

lemma lastEventSequence_le (h : Compacts log.store log.original)
    (hnext : Compacts next.store next.original) (hextends : Extends log.original next.original)
    (sessionId : SessionId) :
    log.store.lastEventSequence sessionId ≤ next.store.lastEventSequence sessionId := by
  obtain ⟨⟨added, hrows, -⟩, -⟩ := hextends
  rw [EventStore.lastEventSequence, EventStore.lastEventSequence, h.highest, hnext.highest, hrows,
    maxSequence_append]
  exact le_max_left _ _

end CompactedLog

open CompactedLog in
theorem cursor_never_misses_text (parseFromRfc3339 : String → Option ℤ) {initial : EventStore}
    (hinitial : initial.Uncompacted) {log : CompactedLog}
    (h : (compactedLogging parseFromRfc3339 initial).Reachable log) (sessionId : SessionId) :
    (∀ event ∈ sessionRows log.original.rows sessionId,
      log.store.cursorInsideCompactedRun sessionId event.sequence = true ∨
      Carries
        ((sessionRows log.store.rows sessionId).filter fun row => event.sequence < row.sequence)
        ((sessionRows log.original.rows sessionId).filter fun row => event.sequence < row.sequence)) ∧
    ∀ action answer next,
      (compactedLogging parseFromRfc3339 initial).step log action = some (answer, next) →
      log.store.lastEventSequence sessionId ≤ next.store.lastEventSequence sessionId := by
  have hcompacts := reachable_compacts hinitial h
  refine ⟨fun event hevent => ?_, fun action answer next hstep => ?_⟩
  · obtain ⟨row, hrow, hle, through, hthrough, hlt⟩ | hrepresents :=
      (hcompacts.represents sessionId).cursor
        (ordered_sessionRows log.original.wellFormed sessionId) hevent rfl
    · left
      refine List.any_eq_true.mpr ⟨row, hrow, ?_⟩
      simp [hle, hthrough, hlt]
    · exact .inr hrepresents.carries
  · obtain ⟨hids, hlater⟩ := System.restrict_step.mp hstep
    exact lastEventSequence_le hcompacts (step_compacts hcompacts hids hlater)
      (step_original_extends hlater) sessionId

section TwoDeltas

theorem cursor_never_misses_text_demo :
    demoLog.store.cursorInsideCompactedRun demoLogSession 1 = true ∧
    demoLog.store.cursorInsideCompactedRun demoLogSession 2 = false ∧
    otherEvents ((sessionRows demoLog.store.rows demoLogSession).filter fun row => 2 < row.sequence) =
      otherEvents ((sessionRows demoLog.original.rows demoLogSession).filter fun row => 2 < row.sequence) := by
  refine ⟨by decide, by decide, ?_⟩
  have hcursor := (cursor_never_misses_text demoParse
    (show EventStore.empty.Uncompacted from ⟨by simp [EventStore.empty], fun _ => rfl⟩)
    (show (compactedLogging demoParse .empty).Reachable demoLog from .exec .start _) demoLogSession).1
  obtain hinside | hcarries := hcursor
    ⟨"e2", demoLogSession, 2, "2026-01-01T00:00:00Z", .turnDelta ⟨"turn-1"⟩ "lo", none, none, none⟩
    (by decide)
  · exact absurd hinside (by decide)
  · exact hcarries.others

end TwoDeltas

end DevCommandCenter
