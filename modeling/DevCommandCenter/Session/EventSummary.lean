import DevCommandCenter.Session.CompactedCursor
import DevCommandCenter.Session.Objective
import DevCommandCenter.Session.OpenRequests
import DevCommandCenter.UsageLimit.Domain

/-! What the lists of tasks show of a session, folded from its events. Merging the deltas of settled
turns does not change it. -/

namespace DevCommandCenter.Session

inductive SessionState
  | draft
  | active
  | completed
  | aborted
  deriving DecidableEq

structure SessionProjection where
  sessionId : SessionId
  projectId : ProjectId
  workspaceId : WorkspaceId
  providerId : String
  model : Option String
  state : SessionState
  activeTurnId : Option TurnId
  turnCount : UInt32
  checkpointCount : UInt32
  createdAt : String
  updatedAt : String
  deriving DecidableEq

namespace SessionProjection

def new (sessionId : SessionId) (projectId : ProjectId) (workspaceId : WorkspaceId)
    (providerId : String) (model : Option String) (occurredAt : String) : SessionProjection where
  sessionId := sessionId
  projectId := projectId
  workspaceId := workspaceId
  providerId := providerId
  model := model
  state := .draft
  activeTurnId := none
  turnCount := 0
  checkpointCount := 0
  createdAt := occurredAt
  updatedAt := occurredAt

def touched (projection : SessionProjection) (occurredAt : String) : SessionProjection :=
  { projection with updatedAt := occurredAt }

def endTurn (projection : SessionProjection) (turnId : TurnId) : SessionProjection :=
  if projection.activeTurnId = some turnId then { projection with activeTurnId := none } else projection

def applyEvent (projection : SessionProjection) (event : SessionEventRecord) : SessionProjection :=
  let projection := projection.touched event.occurredAt
  match event.kind with
  | .sessionStarted workspaceId projectId providerId model _ => { projection with
      workspaceId := workspaceId
      projectId := projectId
      providerId := providerId
      model := model
      state := .active }
  | .turnStarted turnId .. => { projection with state := .active, activeTurnId := some turnId }
  | .turnCompleted turnId =>
      { projection with turnCount := saturatingAdd projection.turnCount 1 }.endTurn turnId
  | .turnAborted turnId _ => projection.endTurn turnId
  | .checkpointCreated .. =>
      { projection with checkpointCount := saturatingAdd projection.checkpointCount 1 }
  | .sessionCompleted => { projection with state := .completed, activeTurnId := none }
  | .sessionAborted _ => { projection with state := .aborted, activeTurnId := none }
  | .sessionResumed => { projection with state := .active }
  | .conversationRewound .. => { projection with activeTurnId := none }
  | _ => projection

def ofFirst (first : SessionEventRecord) : SessionProjection :=
  match first.kind with
  | .sessionStarted workspaceId projectId providerId model _ =>
      new first.sessionId projectId workspaceId providerId model first.occurredAt
  | _ => new first.sessionId ⟨""⟩ ⟨""⟩ "" none first.occurredAt

def fold (events : List SessionEventRecord) : Option SessionProjection :=
  events.head?.map fun first => events.foldl applyEvent (ofFirst first)

end SessionProjection

def lastTurnAwaitingUser (events : List SessionEventRecord) : Option String :=
  (openTurnRequests events).bind fun pending =>
    if !pending.permissions.isEmpty then some "permission"
    else if !pending.inputs.isEmpty then some "input"
    else none

structure LastTurn where
  id : Option TurnId
  prompt : Option String
  state : Option String
  startedAt : Option String
  completedAt : Option String
  deriving DecidableEq

namespace LastTurn

def unknown : LastTurn where
  id := none
  prompt := none
  state := none
  startedAt := none
  completedAt := none

def ended (last : LastTurn) (turnId : TurnId) (state occurredAt : String) : LastTurn :=
  if last.id = some turnId then { last with state := some state, completedAt := some occurredAt }
  else last

def next (last : LastTurn) (event : SessionEventRecord) : LastTurn :=
  match event.kind with
  | .turnStarted turnId prompt .. =>
      { id := some turnId
        prompt := some prompt
        state := some "running"
        startedAt := some event.occurredAt
        completedAt := none }
  | .turnCompleted turnId => last.ended turnId "completed" event.occurredAt
  | .turnAborted turnId _ => last.ended turnId "aborted" event.occurredAt
  | .sessionCompleted => { last with state := last.state.or (some "completed") }
  | .sessionAborted _ => { last with state := last.state.or (some "aborted") }
  | _ => last

end LastTurn

def goalRecorded (event : SessionEventRecord) : Option (Option SessionGoal) :=
  match event.kind with
  | .goalUpdated _ goal => some goal
  | _ => none

def latestGoal (events : List SessionEventRecord) : Option (Option SessionGoal) :=
  events.reverse.findSome? goalRecorded

def sessionGoal (events : List SessionEventRecord) : Option SessionGoal :=
  (latestGoal (visibleSessionEvents events)).join

structure EventSummary where
  projection : Option SessionProjection
  lastTurnPrompt : Option String
  lastTurnState : Option String
  lastTurnStartedAt : Option String
  lastTurnCompletedAt : Option String
  lastTurnAwaitingUser : Option String
  lastTurnAwaitingSince : Option String
  usageLimit : Option UsageLimit.SessionUsageLimit
  goal : Option SessionGoal
  deriving DecidableEq

section Times

variable (parseTime : String → Option ℤ)

-- a time that does not parse counts as the last
def timestampMillis (occurredAt : String) : ℤ :=
  ((parseTime occurredAt).map fun time => time / 1000000).getD i64Max

def minByMillis (time other : String) : String :=
  if timestampMillis parseTime time ≤ timestampMillis parseTime other then time else other

def lastTurnAwaitingSince (events : List SessionEventRecord) : Option String :=
  (openTurnRequests events).bind fun pending =>
    match (pending.permissions ++ pending.inputs).map Prod.snd with
    | [] => none
    | time :: times => some (times.foldl (minByMillis parseTime) time)

def EventSummary.fromEvents (events : List SessionEventRecord) : EventSummary :=
  let last := (visibleSessionEvents events).foldl LastTurn.next .unknown
  { projection := SessionProjection.fold events
    lastTurnPrompt := last.prompt
    lastTurnState := last.state
    lastTurnStartedAt := last.startedAt
    lastTurnCompletedAt := last.completedAt
    lastTurnAwaitingUser := Session.lastTurnAwaitingUser events
    lastTurnAwaitingSince := Session.lastTurnAwaitingSince parseTime events
    usageLimit := UsageLimit.sessionUsageLimit parseTime events
    goal := sessionGoal events }

end Times

def isDelta (event : SessionEventRecord) : Bool :=
  (deltaTarget event.kind).isSome

def withoutDeltas (events : List SessionEventRecord) : List SessionEventRecord :=
  events.filter fun event => !isDelta event

section Deltas

variable {event : SessionEventRecord} {events : List SessionEventRecord}

inductive DeltaKind : SessionEventKind → Prop
  | text {turnId content} : DeltaKind (.turnDelta turnId content)
  | message {turnId id content} : DeltaKind (.turnAssistantMessageDelta turnId id content)
  | reasoning {turnId id content} : DeltaKind (.turnReasoningDelta turnId id content)
  | toolCall {turnId id content} : DeltaKind (.turnToolCallDelta turnId id content)

lemma deltaKind_of_isDelta (h : isDelta event = true) : DeltaKind event.kind := by
  rw [isDelta] at h
  generalize event.kind = kind at h
  cases kind <;> first | constructor | cases h

lemma foldl_withoutDeltas {σ : Type} {next : σ → SessionEventRecord → σ}
    (h : ∀ s event, DeltaKind event.kind → next s event = s) (s : σ) :
    (withoutDeltas events).foldl next s = events.foldl next s := by
  induction events generalizing s with
  | nil => rfl
  | cons event events ih =>
      rw [List.foldl_cons, ← ih, withoutDeltas, List.filter_cons]
      cases hdelta : isDelta event
      · rfl
      · rw [h s event (deltaKind_of_isDelta hdelta)]
        rfl

lemma filterMap_withoutDeltas {ν : Type} {f : SessionEventRecord → Option ν}
    (h : ∀ event, DeltaKind event.kind → f event = none) :
    (withoutDeltas events).filterMap f = events.filterMap f := by
  rw [withoutDeltas, List.filterMap_filter]
  refine List.filterMap_congr fun event _ => ?_
  cases hdelta : isDelta event
  · rfl
  · exact (h event (deltaKind_of_isDelta hdelta)).symm

lemma findSome?_withoutDeltas {ν : Type} {f : SessionEventRecord → Option ν}
    (h : ∀ event, DeltaKind event.kind → f event = none) :
    (withoutDeltas events).reverse.findSome? f = events.reverse.findSome? f := by
  rw [← List.head?_filterMap, ← List.head?_filterMap, List.filterMap_reverse, List.filterMap_reverse,
    filterMap_withoutDeltas h]

lemma filter_withoutDeltas (p : SessionEventRecord → Bool) :
    (withoutDeltas events).filter p = withoutDeltas (events.filter p) := by
  rw [withoutDeltas, withoutDeltas, List.filter_filter, List.filter_filter]
  exact List.filter_congr fun event _ => Bool.and_comm _ _

lemma visible_withoutDeltas (events : List SessionEventRecord) :
    visibleSessionEvents (withoutDeltas events) = withoutDeltas (visibleSessionEvents events) := by
  have hrewound : rewoundTurnIds (withoutDeltas events) = rewoundTurnIds events := by
    induction events with
    | nil => rfl
    | cons event events ih =>
        rw [withoutDeltas, List.filter_cons]
        cases hdelta : isDelta event
        · exact congrArg (_ ++ ·) ih
        · refine ih.trans ?_
          cases event
          cases deltaKind_of_isDelta hdelta <;> rfl
  rw [visibleSessionEvents_eq_filter, visibleSessionEvents_eq_filter, hrewound, filter_withoutDeltas]

end Deltas

section Summaries

variable {parseTime : String → Option ℤ} {events events' : List SessionEventRecord}

lemma sessionGoal_withoutDeltas (events : List SessionEventRecord) :
    sessionGoal (withoutDeltas events) = sessionGoal events := by
  rw [sessionGoal, sessionGoal, visible_withoutDeltas, latestGoal, latestGoal, findSome?_withoutDeltas]
  rintro ⟨⟩ ⟨⟩ <;> rfl

lemma openTurnRequests_withoutDeltas (events : List SessionEventRecord) :
    openTurnRequests (withoutDeltas events) = openTurnRequests events := by
  rw [openTurnRequests, openTurnRequests, scanRequests, scanRequests, foldl_withoutDeltas]
  rintro scan ⟨⟩ ⟨⟩ <;> rfl

lemma reverse_takeWhile_sequence (h : events.Pairwise fun a b => a.sequence < b.sequence) (n : ℕ) :
    (events.reverse.takeWhile fun event => n < event.sequence).reverse =
      events.filter fun event => n < event.sequence := by
  induction events using List.reverseRecOn with
  | nil => rfl
  | append_singleton events last ih =>
      obtain ⟨hevents, -, hbefore⟩ := List.pairwise_append.mp h
      rw [List.reverse_append, List.reverse_singleton, List.singleton_append, List.takeWhile_cons,
        List.filter_append]
      by_cases hlast : n < last.sequence
      · simp [hlast, ih hevents]
      · have hnone : (events.filter fun event => n < event.sequence) = [] := by
          refine List.filter_eq_nil_iff.mpr fun event hevent => ?_
          have := hbefore event hevent last (List.mem_singleton_self _)
          simp only [decide_eq_true_eq]
          omega
        simp [hlast, hnone]

lemma sessionAutoResumeChoice_withoutDeltas (events : List SessionEventRecord) :
    UsageLimit.sessionAutoResumeChoice (withoutDeltas events) =
      UsageLimit.sessionAutoResumeChoice events := by
  refine findSome?_withoutDeltas ?_
  rintro ⟨⟩ ⟨⟩ <;> rfl

lemma autoResumeTimes_withoutDeltas (events : List SessionEventRecord) :
    UsageLimit.autoResumeTimes parseTime (withoutDeltas events) =
      UsageLimit.autoResumeTimes parseTime events := by
  rw [UsageLimit.autoResumeTimes, UsageLimit.autoResumeTimes, filter_withoutDeltas, withoutDeltas,
    List.filter_filter]
  refine congrArg (List.filterMap _) (List.filter_congr fun event _ => ?_)
  cases hdelta : isDelta event
  · rfl
  · cases event
    cases deltaKind_of_isDelta hdelta <;> rfl

lemma sessionUsageLimit_withoutDeltas (h : events.Pairwise fun a b => a.sequence < b.sequence) :
    UsageLimit.sessionUsageLimit parseTime (withoutDeltas events) =
      UsageLimit.sessionUsageLimit parseTime events := by
  have hscan : (withoutDeltas (visibleSessionEvents events)).foldl UsageLimit.LimitScan.next .start =
      (visibleSessionEvents events).foldl UsageLimit.LimitScan.next .start := by
    refine foldl_withoutDeltas ?_ _
    rintro scan ⟨⟩ ⟨⟩ <;> rfl
  have hsorted : (visibleSessionEvents events).Pairwise fun a b => a.sequence < b.sequence := by
    rw [visibleSessionEvents_eq_filter]
    exact h.filter _
  have hchoice : ∀ n, UsageLimit.sessionAutoResumeChoice
      ((withoutDeltas (visibleSessionEvents events)).reverse.takeWhile fun event =>
        n < event.sequence).reverse = UsageLimit.sessionAutoResumeChoice
      ((visibleSessionEvents events).reverse.takeWhile fun event => n < event.sequence).reverse := by
    intro n
    have hfewer : (withoutDeltas (visibleSessionEvents events)).Pairwise fun a b =>
        a.sequence < b.sequence := hsorted.filter _
    rw [reverse_takeWhile_sequence hfewer, reverse_takeWhile_sequence hsorted, filter_withoutDeltas,
      sessionAutoResumeChoice_withoutDeltas]
  have hused : ∀ time, UsageLimit.autoResumesBefore parseTime (withoutDeltas events) time =
      UsageLimit.autoResumesBefore parseTime events time := by
    intro time
    rw [UsageLimit.autoResumesBefore, UsageLimit.autoResumesBefore, autoResumeTimes_withoutDeltas]
  simp only [UsageLimit.sessionUsageLimit, visible_withoutDeltas, hscan, hchoice, funext hused]

lemma lastTurn_withoutDeltas (events : List SessionEventRecord) :
    (visibleSessionEvents (withoutDeltas events)).foldl LastTurn.next .unknown =
      (visibleSessionEvents events).foldl LastTurn.next .unknown := by
  rw [visible_withoutDeltas]
  refine foldl_withoutDeltas ?_ _
  rintro last ⟨⟩ ⟨⟩ <;> rfl

lemma endTurn_updatedAt (projection : SessionProjection) (turnId : TurnId) :
    (projection.endTurn turnId).updatedAt = projection.updatedAt := by
  rw [SessionProjection.endTurn]
  split <;> rfl

lemma applyEvent_updatedAt (projection : SessionProjection) (event : SessionEventRecord) :
    (projection.applyEvent event).updatedAt = event.occurredAt := by
  rw [SessionProjection.applyEvent]
  split <;> first | rfl | exact endTurn_updatedAt _ _

lemma applyEvent_touched (projection : SessionProjection) (event : SessionEventRecord) (time : String) :
    (projection.touched time).applyEvent event = projection.applyEvent event := rfl

lemma touched_applyEvent (projection : SessionProjection) (event : SessionEventRecord) :
    (projection.applyEvent event).touched event.occurredAt = projection.applyEvent event := by
  rw [← applyEvent_updatedAt projection event]
  rfl

lemma applyEvent_delta {event : SessionEventRecord} (hdelta : isDelta event = true)
    (projection : SessionProjection) :
    projection.applyEvent event = projection.touched event.occurredAt := by
  cases event
  cases deltaKind_of_isDelta hdelta <;> rfl

lemma foldl_applyEvent (projection : SessionProjection) (events : List SessionEventRecord) :
    events.foldl SessionProjection.applyEvent projection =
      ((withoutDeltas events).foldl SessionProjection.applyEvent projection).touched
        ((events.getLast?.map SessionEventRecord.occurredAt).getD projection.updatedAt) := by
  induction events using List.reverseRecOn with
  | nil => rfl
  | append_singleton events last ih =>
      rw [List.foldl_append, List.foldl_cons, List.foldl_nil, ih, applyEvent_touched, withoutDeltas,
        withoutDeltas, List.filter_append, List.getLast?_append, List.getLast?_singleton,
        Option.some_or, Option.map_some, Option.getD_some, List.filter_cons]
      cases hdelta : isDelta last
      · rw [Bool.not_false, if_pos rfl, List.filter_nil, List.foldl_append, List.foldl_cons,
          List.foldl_nil, touched_applyEvent]
      · rw [Bool.not_true, if_neg Bool.false_ne_true, List.filter_nil, List.append_nil,
          applyEvent_delta hdelta]

lemma fold_eq (events : List SessionEventRecord) :
    SessionProjection.fold events = (events.head?.map SessionProjection.ofFirst).map fun first =>
      ((withoutDeltas events).foldl SessionProjection.applyEvent first).touched
        ((events.getLast?.map SessionEventRecord.occurredAt).getD first.updatedAt) := by
  simp only [← foldl_applyEvent, Option.map_map, Function.comp_def, SessionProjection.fold]

/-- Two logs that differ in nothing but the deltas between their first and their last event. -/
structure SameButDeltas (events events' : List SessionEventRecord) : Prop where
  others : withoutDeltas events = withoutDeltas events'
  first : events.head?.map SessionProjection.ofFirst = events'.head?.map SessionProjection.ofFirst
  last : events.getLast? = events'.getLast?
  sorted : events.Pairwise fun a b => a.sequence < b.sequence
  sorted' : events'.Pairwise fun a b => a.sequence < b.sequence

lemma SameButDeltas.fold (h : SameButDeltas events events') :
    SessionProjection.fold events = SessionProjection.fold events' := by
  rw [fold_eq, fold_eq, h.others, h.first, h.last]

lemma SameButDeltas.summary (h : SameButDeltas events events') :
    EventSummary.fromEvents parseTime events = EventSummary.fromEvents parseTime events' := by
  have hrequests : openTurnRequests events = openTurnRequests events' := by
    rw [← openTurnRequests_withoutDeltas, h.others, openTurnRequests_withoutDeltas]
  have hgoal : sessionGoal events = sessionGoal events' := by
    rw [← sessionGoal_withoutDeltas, h.others, sessionGoal_withoutDeltas]
  have hlimit : UsageLimit.sessionUsageLimit parseTime events =
      UsageLimit.sessionUsageLimit parseTime events' := by
    rw [← sessionUsageLimit_withoutDeltas h.sorted, h.others, sessionUsageLimit_withoutDeltas h.sorted']
  have hturn : (visibleSessionEvents events).foldl LastTurn.next .unknown =
      (visibleSessionEvents events').foldl LastTurn.next .unknown := by
    rw [← lastTurn_withoutDeltas, h.others, lastTurn_withoutDeltas]
  simp only [EventSummary.fromEvents, lastTurnAwaitingUser, lastTurnAwaitingSince, h.fold, hrequests,
    hgoal, hlimit, hturn]

end Summaries

section Compacted

variable {store original : EventStore} {sessionId : SessionId}

lemma withoutDeltas_records (rows : List EventRow) :
    withoutDeltas (rows.map EventRow.record) = otherEvents rows := by
  rw [withoutDeltas, otherEvents, List.filter_map]
  refine congrArg _ (List.filter_congr fun row _ => ?_)
  cases hkind : deltaTarget row.kind <;> simp [isDelta, EventRow.target, EventRow.record, hkind]

lemma ofFirst_row (run : DeltaRun) :
    SessionProjection.ofFirst run.row.record = SessionProjection.ofFirst run.first.record := by
  by_cases hrest : run.rest = []
  · rw [DeltaRun.row_of_rest_nil hrest]
  · have hdelta : isDelta run.first.record = true := target_isSome.symm.trans (DeltaRun.first_isSome hrest)
    rw [DeltaRun.row_of_rest_ne_nil hrest]
    obtain ⟨⟨⟩, rest⟩ := run
    cases deltaKind_of_isDelta hdelta <;> rfl

lemma maxSequence_of_last {table before : List EventRow} {last : EventRow} (h : WellFormed table)
    (hrows : sessionRows table sessionId = before ++ [last]) :
    maxSequence table sessionId = last.sequence := by
  have hordered := ordered_sessionRows h sessionId
  have hlast : last ∈ sessionRows table sessionId := by simp [hrows]
  obtain ⟨top, htop, hmax⟩ := exists_maxSequence (List.ne_nil_of_mem hlast)
  have hle := sequence_le_of_mem hlast
  rw [hrows] at hordered htop
  rcases List.mem_append.mp htop with hbefore | heq
  · have hlt := (List.pairwise_append.mp hordered).2.2 top hbefore last (List.mem_singleton_self _)
    omega
  · rw [← hmax, List.mem_singleton.mp heq]

/-- No row stands behind a run that was merged only in part, since the last event closes its turn. -/
lemma getLast?_of_compacts (h : Compacts store original) (sessionId : SessionId) :
    (sessionRows store.rows sessionId).getLast? = (sessionRows original.rows sessionId).getLast? := by
  obtain ⟨runs, hrows, horiginal⟩ := h.represents sessionId
  rcases List.eq_nil_or_concat runs with rfl | ⟨before, last, rfl⟩
  · rw [hrows, horiginal, List.map_nil, List.flatMap_nil]
  · rw [List.concat_eq_append, List.map_append, List.map_singleton] at hrows
    rw [List.concat_eq_append, List.flatMap_append, List.flatMap_singleton,
      ← List.dropLast_append_getLast last.events_ne_nil, ← List.append_assoc] at horiginal
    have hfirst := maxSequence_of_last store.wellFormed hrows
    have hlast := maxSequence_of_last original.wellFormed horiginal
    have hordered := ordered_sessionRows original.wellFormed sessionId
    rw [h.highest, hlast, DeltaRun.row_sequence] at hfirst
    have hrest : last.rest = [] := by
      by_contra hrest
      have hmem : last.events.getLast last.events_ne_nil ∈ last.rest := by
        simp only [DeltaRun.events, List.getLast_cons hrest, List.getLast_mem]
      rw [horiginal, List.append_assoc, List.dropLast_append_getLast] at hordered
      have hlt := (List.pairwise_cons.mp (List.pairwise_append.mp hordered).2.1).1 _ hmem
      omega
    rw [hrows, horiginal, List.getLast?_concat, List.getLast?_concat, DeltaRun.row_of_rest_nil hrest]
    simp [DeltaRun.events, hrest]

lemma sameButDeltas_of_compacts (h : Compacts store original) (sessionId : SessionId) :
    SameButDeltas (store.listEventsBySession sessionId) (original.listEventsBySession sessionId) where
  others := by
    rw [EventStore.listEventsBySession, EventStore.listEventsBySession, withoutDeltas_records,
      withoutDeltas_records, (h.represents sessionId).carries.others]
  first := by
    obtain ⟨runs, hrows, horiginal⟩ := h.represents sessionId
    rw [EventStore.listEventsBySession, EventStore.listEventsBySession, hrows, horiginal]
    cases runs with
    | nil => rfl
    | cons run runs => exact congrArg some (ofFirst_row run)
  last := by
    rw [EventStore.listEventsBySession, EventStore.listEventsBySession, List.getLast?_map,
      List.getLast?_map, getLast?_of_compacts h]
  sorted := store.log_sorted sessionId
  sorted' := original.log_sorted sessionId

end Compacted

/-- The summary of the log as it is stored is that of the log with nothing merged. -/
theorem summary_of_compacted_log {parseFromRfc3339 : String → Option ℤ} {initial : EventStore}
    {log : CompactedLog} (hinitial : initial.Uncompacted)
    (h : (compactedLogging parseFromRfc3339 initial).Reachable log) (parseTime : String → Option ℤ)
    (sessionId : SessionId) :
    EventSummary.fromEvents parseTime (log.store.listEventsBySession sessionId) =
      EventSummary.fromEvents parseTime (log.original.listEventsBySession sessionId) :=
  (sameButDeltas_of_compacts (CompactedLog.reachable_compacts hinitial h) sessionId).summary

theorem summary_of_demoLog :
    demoLog.store.listEventsBySession demoLogSession ≠ demoLog.original.listEventsBySession demoLogSession ∧
    EventSummary.fromEvents demoParse (demoLog.store.listEventsBySession demoLogSession) =
      EventSummary.fromEvents demoParse (demoLog.original.listEventsBySession demoLogSession) :=
  ⟨by decide, summary_of_compacted_log
    (show EventStore.empty.Uncompacted from ⟨by simp [EventStore.empty], fun _ => rfl⟩)
    (show (compactedLogging demoParse .empty).Reachable demoLog from .exec .start _) demoParse
    demoLogSession⟩

end DevCommandCenter.Session
