import DevCommandCenter.Session.TurnDispatch

/-! What each step of a session's turns does to the log, to the provider transition and to its call. -/

namespace DevCommandCenter

def IsQueued (log : List SessionEventRecord) (queuedTurnId : String) : Prop :=
  ∃ event ∈ log, ∃ turn, event.kind = .turnQueued turn ∧ turn.id = queuedTurnId

section Appends

variable {store : EventStore} {event : SessionEventRecord} {world world' : TurnQueueWorld}
  {bus : CoreEvent → Except CoreError Unit} {eventId occurredAt : String}
  {history : List SessionEventRecord} {sessionId : SessionId}

lemma appendEvent_outcome (store : EventStore) (event : SessionEventRecord) :
    ((∀ canonical, (store.appendEvent event).1 ≠ .ok (.inserted canonical)) ∧
      (store.appendEvent event).2.listEventsBySession event.sessionId =
        store.listEventsBySession event.sessionId) ∨
    ∃ canonical, (store.appendEvent event).1 = .ok (.inserted canonical) ∧
      canonical.kind = event.kind ∧
      (store.appendEvent event).2.listEventsBySession event.sessionId =
        store.listEventsBySession event.sessionId ++ [canonical] := by
  obtain ⟨_, hr⟩ | ⟨_, _, _, hr⟩ | ⟨-, -, -, hr⟩ := appendEventRows_cases store.rows event
  · exact .inl (by simp [EventStore.appendEvent, EventStore.listEventsBySession, hr])
  · exact .inl (by simp [EventStore.appendEvent, EventStore.listEventsBySession, hr])
  · have hinserted := congrArg Prod.fst hr
    refine .inr ⟨_, hinserted, ?_, listEventsBySession_appendEvent hinserted⟩
    rfl

lemma appendEvent_log (store : EventStore) (event : SessionEventRecord) :
    (store.appendEvent event).2.listEventsBySession event.sessionId =
        store.listEventsBySession event.sessionId ∨
      ∃ canonical, canonical.kind = event.kind ∧
        (store.appendEvent event).2.listEventsBySession event.sessionId =
          store.listEventsBySession event.sessionId ++ [canonical] := by
  obtain ⟨-, hsame⟩ | ⟨canonical, -, hkind, hlog⟩ := appendEvent_outcome store event
  · exact .inl hsame
  · exact .inr ⟨canonical, hkind, hlog⟩

lemma appendEvent_log_fresh {outcome : AppendEventOutcome}
    (hfresh : ∀ row ∈ store.rows, row.eventId ≠ event.eventId) (hkind : terminal event.kind = none)
    (h : (store.appendEvent event).1 = .ok outcome) :
    ∃ canonical, canonical.kind = event.kind ∧
      (store.appendEvent event).2.listEventsBySession event.sessionId =
        store.listEventsBySession event.sessionId ++ [canonical] := by
  rw [appendEvent_fresh hfresh hkind h] at h
  obtain ⟨hnot, -⟩ | ⟨canonical, -, hcanonical⟩ := appendEvent_outcome store event
  · exact absurd h (hnot _)
  · exact ⟨canonical, hcanonical⟩

lemma removeQueuedTurnFrom_ok {input : RemoveQueuedTurnInput} {queue : List QueuedTurn}
    (h : removeQueuedTurnFrom bus eventId occurredAt input history world = (.ok queue, world')) :
    (projectTurnQueue history).any (fun turn => turn.id = input.queuedTurnId) = true ∧
      ∃ outcome, (world.store.appendEvent (queueEvent eventId occurredAt input.sessionId history
        (.queuedTurnRemoved input.queuedTurnId))).1 = .ok outcome := by
  unfold removeQueuedTurnFrom at h
  cases hany : (projectTurnQueue history).any fun turn => turn.id = input.queuedTurnId with
  | false =>
      simp only [hany, Bool.not_false, if_true] at h
      cases h
  | true =>
      simp only [hany, Bool.not_true, Bool.false_eq_true, if_false] at h
      obtain ⟨⟨event, inserted⟩, world₁, happend, -⟩ := Library.Call.bind_ok_iff.mp h
      exact ⟨rfl, _, congrArg Prod.fst (append_ok happend)⟩

lemma markQueuedTurnDispatchedFrom_ok {queuedTurnId : String} {turnId : TurnId}
    (h : markQueuedTurnDispatchedFrom bus eventId occurredAt sessionId queuedTurnId turnId history
      world = (.ok (), world')) :
    ∃ outcome, (world.store.appendEvent (queueEvent eventId occurredAt sessionId history
      (.queuedTurnDispatched queuedTurnId turnId))).1 = .ok outcome := by
  obtain ⟨⟨event, inserted⟩, world₁, happend, -⟩ := Library.Call.bind_ok_iff.mp h
  exact ⟨_, congrArg Prod.fst (append_ok happend)⟩

end Appends

inductive CallEffect (log : List SessionEventRecord) (held : Option Transition) :
    TurnCall → TurnAnswer → List SessionEventRecord → Option Transition → TurnCall → Prop
  | reads {c c' : TurnCall} : c.dispatches = false → c'.dispatches = false →
      (∀ id history, c' = .removing id history → history = log) →
      CallEffect log held c .quiet log held c'
  | queues {turn : SendTurnInput} {history : List SessionEventRecord} {event : SessionEventRecord}
      {queued : QueuedTurn} : event.kind = .turnQueued queued → ¬IsQueued log queued.id →
      CallEffect log held (.queueingFrom turn history) .quiet (log ++ [event]) held .returned
  | removes {id : String} {history : List SessionEventRecord} {event : SessionEventRecord}
      {answer : TurnAnswer} : event.kind = .queuedTurnRemoved id →
      id ∈ queuedTurnIdsOf (projectTurnQueue history) → answer = .quiet ∨ answer = .removed id →
      CallEffect log held (.removing id history) answer (log ++ [event]) held .returned
  | reorders {ids : List String} {history : List SessionEventRecord} {event : SessionEventRecord} :
      event.kind = .turnQueueReordered ids →
      CallEffect log held (.reordering ids history) .quiet (log ++ [event]) held .returned
  | completes {turnId : TurnId} {event : SessionEventRecord} : event.kind = .turnCompleted turnId →
      CallEffect log held .completeTurn .quiet (log ++ [event]) held .completed
  | allowed : CallEffect log held .completed .quiet log held .dispatchNextQueuedTurn
  | undispatched {c : TurnCall} : CallEffect log held c .undispatched log held .returned
  | dispatches : held = none →
      CallEffect log held .dispatchNextQueuedTurn .quiet log (some .reading) .returned
  | sends {turn : SendTurnInput} : held = none →
      CallEffect log held (.sendTurn turn) .quiet log (some (.preparing turn none)) .returned

section Calls

variable {sessionId : SessionId} {s t : SessionTurns} {i : ℕ} {draw : TurnDraw} {c : TurnCall}
  {answer : TurnAnswer}

lemma unusedEventId_iff {world : TurnQueueWorld} {id : String} :
    unusedEventId world id = true ↔ ∀ row ∈ world.store.rows, row.eventId ≠ id := by
  simp [unusedEventId]

lemma not_isQueued_of_unused {world : TurnQueueWorld} {id : String}
    (h : unusedQueuedTurnId world id = true) :
    ¬IsQueued (world.store.listEventsBySession sessionId) id := by
  rintro ⟨event, hevent, turn, hkind, hid⟩
  obtain ⟨row, hrow, rfl⟩ := List.mem_map.mp hevent
  exact unusedQueuedTurnId_iff.mp h row (mem_sessionRows.mp hrow).1 turn hkind hid

lemma any_id_iff {queue : List QueuedTurn} {id : String} :
    (queue.any fun turn => turn.id = id) = true ↔ id ∈ queuedTurnIdsOf queue := by
  simp [queuedTurnIdsOf]

lemma queueStep_log {world world' : TurnQueueWorld} {progress progress' : QueueProgress}
    {draw : QueueDraw} (h : queueStep world progress draw = some (world', progress'))
    (hsession : ∀ event, appended progress draw = some event → event.sessionId = sessionId) :
    world'.store.listEventsBySession sessionId = world.store.listEventsBySession sessionId ∨
      ∃ event canonical, appended progress draw = some event ∧
        canonical.kind = event.kind ∧ world'.store.listEventsBySession sessionId =
          world.store.listEventsBySession sessionId ++ [canonical] := by
  have hstore := queueStep_store h
  cases happended : appended progress draw with
  | none =>
      rw [happended] at hstore
      exact .inl (by rw [hstore])
  | some event =>
      rw [happended] at hstore
      rw [hstore, ← hsession event happended]
      rcases appendEvent_log world.store event with hsame | ⟨canonical, hkind, hlog⟩
      · exact .inl hsame
      · exact .inr ⟨event, canonical, rfl, hkind, hlog⟩

lemma callEffect_returns {log : List SessionEventRecord} {held : Option Transition}
    (h : c.dispatches = false) : CallEffect log held c .quiet log held .returned :=
  .reads h rfl nofun

lemma queueingFrom_effect {turn : SendTurnInput} {history : List SessionEventRecord}
    (hunused : unusedQueuedTurnId s.world draw.queuedTurnId = true) :
    CallEffect (s.log sessionId) s.transition (.queueingFrom turn history) .quiet
      ((queueTurnFrom draw.bus draw.queuedTurnId draw.eventId draw.createdAt draw.occurredAt
        { turn with sessionId := sessionId } history s.world).2.store.listEventsBySession sessionId)
      s.transition .returned := by
  have hstep : queueStep s.world (.queueing { turn with sessionId := sessionId } history)
      draw.toQueueDraw = some (_, .returned) := if_pos hunused
  have hsession : ∀ event, appended (.queueing { turn with sessionId := sessionId } history)
      draw.toQueueDraw = some event → event.sessionId = sessionId := by
    intro event happended
    simp only [appended] at happended
    split at happended <;> cases happended
    rfl
  rcases queueStep_log hstep hsession with hsame | ⟨event, canonical, happended, hkind, hlog⟩
  · rw [hsame]
    exact callEffect_returns rfl
  · rw [hlog]
    simp only [appended] at happended
    split at happended <;> cases happended
    exact .queues hkind (not_isQueued_of_unused hunused)

lemma reordering_effect {ids : List String} {history : List SessionEventRecord} :
    CallEffect (s.log sessionId) s.transition (.reordering ids history) .quiet
      ((reorderTurnQueueFrom draw.bus draw.eventId draw.occurredAt ⟨sessionId, ids⟩ history
        s.world).2.store.listEventsBySession sessionId) s.transition .returned := by
  have hstep : queueStep s.world (.reordering ⟨sessionId, ids⟩ history) draw.toQueueDraw =
      some (_, .returned) := rfl
  have hsession : ∀ event, appended (.reordering ⟨sessionId, ids⟩ history) draw.toQueueDraw =
      some event → event.sessionId = sessionId := by
    intro event happended
    simp only [appended] at happended
    split at happended <;> cases happended
    rfl
  rcases queueStep_log hstep hsession with hsame | ⟨event, canonical, happended, hkind, hlog⟩
  · rw [hsame]
    exact callEffect_returns rfl
  · rw [hlog]
    simp only [appended] at happended
    split at happended <;> cases happended
    exact .reorders hkind

lemma removing_ok_effect {id : String} {history : List SessionEventRecord} {queue : List QueuedTurn}
    {world : TurnQueueWorld} (hfresh : ∀ row ∈ s.world.store.rows, row.eventId ≠ draw.eventId)
    (h : removeQueuedTurnFrom draw.bus draw.eventId draw.occurredAt ⟨sessionId, id⟩ history
      s.world = (.ok queue, world)) :
    CallEffect (s.log sessionId) s.transition (.removing id history) (.removed id)
      (world.store.listEventsBySession sessionId) s.transition .returned := by
  obtain ⟨hany, outcome, houtcome⟩ := removeQueuedTurnFrom_ok h
  obtain ⟨canonical, hkind, hlog⟩ := appendEvent_log_fresh hfresh rfl houtcome
  have hstep : queueStep s.world (.removing ⟨sessionId, id⟩ history) draw.toQueueDraw =
      some (world, .returned) := by rw [queueStep, h]
  have hstore := queueStep_store hstep
  simp only [appended, hany, if_true] at hstore
  have hafter : world.store.listEventsBySession sessionId = s.log sessionId ++ [canonical] := by
    rw [hstore]
    exact hlog
  rw [hafter]
  exact .removes hkind (any_id_iff.mp hany) (.inr rfl)

lemma removing_effect {id : String} {history : List SessionEventRecord}
    {result : Except CoreError (List QueuedTurn)} {world : TurnQueueWorld}
    (h : removeQueuedTurnFrom draw.bus draw.eventId draw.occurredAt ⟨sessionId, id⟩ history
      s.world = (result, world)) :
    CallEffect (s.log sessionId) s.transition (.removing id history) .quiet
      (world.store.listEventsBySession sessionId) s.transition .returned := by
  have hstep : queueStep s.world (.removing ⟨sessionId, id⟩ history) draw.toQueueDraw =
      some (world, .returned) := by rw [queueStep, h]
  have hsession : ∀ event, appended (.removing ⟨sessionId, id⟩ history) draw.toQueueDraw =
      some event → event.sessionId = sessionId := by
    intro event happended
    simp only [appended, Option.ite_none_right_eq_some] at happended
    obtain ⟨-, heq⟩ := happended
    cases heq
    rfl
  rcases queueStep_log hstep hsession with hsame | ⟨event, canonical, happended, hkind, hlog⟩
  · rw [hsame]
    exact callEffect_returns rfl
  · rw [hlog]
    simp only [appended, Option.ite_none_right_eq_some] at happended
    obtain ⟨hany, heq⟩ := happended
    cases heq
    exact .removes hkind (any_id_iff.mp hany) (.inl rfl)

section Completions

variable {turnId : TurnId} {outcome : Except CoreError AppendEventOutcome} {world : TurnQueueWorld}

lemma completeTurn_inserted_effect {event : SessionEventRecord}
    (h : appendEventCall (queueEvent draw.eventId draw.occurredAt sessionId (s.log sessionId)
      (.turnCompleted turnId)) s.world = (.ok (.inserted event), world)) :
    CallEffect (s.log sessionId) s.transition .completeTurn .quiet
      (world.store.listEventsBySession sessionId) s.transition .completed := by
  simp only [appendEventCall, Prod.mk.injEq] at h
  obtain ⟨houtcome, rfl⟩ := h
  obtain ⟨hnot, -⟩ | ⟨canonical, -, hkind, hlog⟩ := appendEvent_outcome s.world.store _
  · exact absurd houtcome (hnot _)
  · have hafter := hlog
    rw [show (queueEvent draw.eventId draw.occurredAt sessionId (s.log sessionId)
      (.turnCompleted turnId)).sessionId = sessionId from rfl] at hafter
    rw [hafter]
    exact .completes hkind

lemma completeTurn_effect
    (h : appendEventCall (queueEvent draw.eventId draw.occurredAt sessionId (s.log sessionId)
      (.turnCompleted turnId)) s.world = (outcome, world))
    (hnot : ∀ event, outcome ≠ .ok (.inserted event)) :
    CallEffect (s.log sessionId) s.transition .completeTurn .quiet
      (world.store.listEventsBySession sessionId) s.transition .returned := by
  simp only [appendEventCall, Prod.mk.injEq] at h
  obtain ⟨rfl, rfl⟩ := h
  obtain ⟨-, hsame⟩ | ⟨canonical, hinserted, -⟩ := appendEvent_outcome s.world.store
      (queueEvent draw.eventId draw.occurredAt sessionId (s.log sessionId) (.turnCompleted turnId))
  · have hafter : _ = s.log sessionId := hsame
    exact hafter ▸ callEffect_returns rfl
  · exact absurd hinserted (hnot canonical)

end Completions

theorem callStep_effect (h : callStep sessionId s i draw c = some (answer, t)) :
    ∃ c', t.calls = s.calls.set i c' ∧
      CallEffect (s.log sessionId) s.transition c answer (t.log sessionId) t.transition c' := by
  cases c with
  | queueTurn turn =>
      cases h
      refine ⟨_, rfl, ?_⟩
      split
      · exact callEffect_returns rfl
      · exact .reads rfl rfl nofun
  | queueing turn =>
      cases h
      refine ⟨_, rfl, ?_⟩
      split
      · exact callEffect_returns rfl
      · exact .reads rfl rfl nofun
  | queueingFrom turn history =>
      simp only [callStep, Option.ite_none_right_eq_some] at h
      obtain ⟨hdraws, h⟩ := h
      split at h <;> cases h
      · exact ⟨_, rfl, callEffect_returns rfl⟩
      · exact ⟨_, rfl, queueingFrom_effect ((Bool.and_eq_true _ _).mp hdraws).2⟩
  | removeQueuedTurn id =>
      cases h
      refine ⟨_, rfl, ?_⟩
      split
      · exact callEffect_returns rfl
      · exact .reads rfl rfl fun id' history heq => (TurnCall.removing.inj heq).2.symm
  | removing id history =>
      simp only [callStep, Option.ite_none_right_eq_some] at h
      obtain ⟨hdraws, h⟩ := h
      split at h
      · cases h
        exact ⟨_, rfl, callEffect_returns rfl⟩
      · split at h
        · next hremoved =>
          cases h
          exact ⟨_, rfl, removing_ok_effect (unusedEventId_iff.mp hdraws) hremoved⟩
        · next hremoved =>
          cases h
          exact ⟨_, rfl, removing_effect hremoved⟩
  | reorderTurnQueue ids =>
      cases h
      refine ⟨_, rfl, ?_⟩
      split
      · exact callEffect_returns rfl
      · exact .reads rfl rfl nofun
  | reordering ids history =>
      simp only [callStep, Option.ite_none_right_eq_some] at h
      obtain ⟨hdraws, h⟩ := h
      split at h <;> cases h
      · exact ⟨_, rfl, callEffect_returns rfl⟩
      · exact ⟨_, rfl, reordering_effect⟩
  | completeTurn =>
      simp only [callStep] at h
      split at h
      · split at h
        · next hcall =>
          cases h
          exact ⟨_, rfl, completeTurn_inserted_effect hcall⟩
        · next hcall =>
          cases h
          exact ⟨_, rfl, completeTurn_effect hcall (by simp)⟩
        · next hcall =>
          cases h
          exact ⟨_, rfl, completeTurn_effect hcall (by simp)⟩
      · cases h
        exact ⟨_, rfl, callEffect_returns rfl⟩
  | completed =>
      simp only [callStep] at h
      split at h <;> cases h
      · exact ⟨_, rfl, .undispatched⟩
      · exact ⟨_, rfl, .allowed⟩
  | dispatchNextQueuedTurn =>
      simp only [callStep] at h
      split at h
      · cases h
        exact ⟨_, rfl, .undispatched⟩
      · next hheld =>
        cases h
        exact ⟨_, rfl, .dispatches hheld⟩
      · cases h
  | sendTurn turn =>
      simp only [callStep] at h
      split at h
      · cases h
        exact ⟨_, rfl, callEffect_returns rfl⟩
      · next hheld =>
        cases h
        exact ⟨_, rfl, .sends hheld⟩
      · cases h
  | returned => cases h

end Calls

def Transition.picked : Transition → Option String
  | .preparing _ queuedTurnId | .starting _ queuedTurnId _ | .announcing queuedTurnId _
  | .binding queuedTurnId _ | .bound queuedTurnId _ | .sending queuedTurnId _ => queuedTurnId
  | .marking queuedTurnId .. => queuedTurnId
  | .reading | .aborting .. => none

inductive HolderEffect (log : List SessionEventRecord) :
    Transition → TurnAnswer → List SessionEventRecord → Option Transition → Prop
  | findsNothing : projectTurnQueue log = [] → HolderEffect log .reading .quiet log none
  | picks {queued : QueuedTurn} {turn : SendTurnInput} : queued ∈ projectTurnQueue log →
      HolderEffect log .reading .quiet log (some (.preparing turn queued.id))
  | reads {turn : SendTurnInput} {queuedTurnId : Option String} :
      HolderEffect log (.preparing turn queuedTurnId) .quiet log
        (some (.starting turn queuedTurnId log))
  | starts {turn : SendTurnInput} {queuedTurnId : Option String} {turnId : TurnId}
      {history : List SessionEventRecord} {event : SessionEventRecord} :
      startedTurn event.kind = some turnId →
      HolderEffect log (.starting turn queuedTurnId history) .quiet (log ++ [event])
        (some (.announcing queuedTurnId turnId))
  | proceeds {h h' : Transition} : h.dispatches = false → h'.dispatches = false →
      h'.picked = h.picked ∨ h'.picked = none → (∀ id turnId, h' ≠ .sending (some id) turnId) →
      HolderEffect log h .quiet log (some h')
  | marks {id : String} {turnId : TurnId} {history : List SessionEventRecord}
      {event : SessionEventRecord} {h : Transition} :
      event.kind = .queuedTurnDispatched id turnId →
      h = .sending (some id) turnId ∨ h = .aborting (some id) turnId →
      HolderEffect log (.marking id turnId history) .quiet (log ++ [event]) (some h)
  | hands {id : String} {turnId : TurnId} {h : Option Transition} :
      h = none ∨ h = some (.aborting (some id) turnId) →
      HolderEffect log (.sending (some id) turnId) (.sent id) log h
  | handsDirectly {turnId : TurnId} {h : Option Transition} :
      h = none ∨ h = some (.aborting none turnId) →
      HolderEffect log (.sending none turnId) .quiet log h
  | fails {h : Transition} {answer : TurnAnswer} : answer = .undispatched ∨
      answer = .quiet ∧ h.dispatches = false → HolderEffect log h answer log none
  | aborts {queuedTurnId : Option String} {turnId : TurnId} {event : SessionEventRecord} :
      event.kind = .turnAborted turnId none →
      HolderEffect log (.aborting queuedTurnId turnId) (dispatchFailure queuedTurnId)
        (log ++ [event]) none

section Holder

variable {sessionId : SessionId} {s t : SessionTurns} {draw : TurnDraw} {held : Transition}
  {answer : TurnAnswer} {log : List SessionEventRecord}

lemma holderEffect_fails {queuedTurnId : Option String}
    (h : queuedTurnId = none → held.dispatches = false) :
    HolderEffect log held (dispatchFailure queuedTurnId) log none := by
  cases queuedTurnId with
  | none => exact .fails (.inr ⟨rfl, h rfl⟩)
  | some id => exact .fails (.inl rfl)

lemma starting_effect {turn : SendTurnInput} {queuedTurnId : Option String}
    {history : List SessionEventRecord} {outcome : AppendEventOutcome} {world : TurnQueueWorld}
    (hfresh : ∀ row ∈ s.world.store.rows, row.eventId ≠ draw.eventId)
    (h : appendEventCall (queueEvent draw.eventId draw.occurredAt sessionId history
      (startedKind draw turn queuedTurnId)) s.world = (.ok outcome, world)) :
    HolderEffect (s.log sessionId) (.starting turn queuedTurnId history) .quiet
      (world.store.listEventsBySession sessionId) (some (.announcing queuedTurnId draw.turnId)) := by
  simp only [appendEventCall, Prod.mk.injEq] at h
  obtain ⟨houtcome, rfl⟩ := h
  obtain ⟨canonical, hkind, hlog⟩ := appendEvent_log_fresh hfresh rfl houtcome
  have hafter : _ = s.log sessionId ++ [canonical] := hlog
  have hstarted : startedTurn canonical.kind = some draw.turnId := by rw [hkind]; rfl
  exact hafter ▸ .starts hstarted

lemma starting_fails {turn : SendTurnInput} {queuedTurnId : Option String}
    {history : List SessionEventRecord} :
    HolderEffect log (.starting turn queuedTurnId history) (dispatchFailure queuedTurnId) log none :=
  holderEffect_fails fun hnone => by simp [Transition.dispatches, hnone]

lemma starting_error_effect {turn : SendTurnInput} {queuedTurnId : Option String}
    {history : List SessionEventRecord} {event : SessionEventRecord} {error : CoreError}
    {world : TurnQueueWorld} (h : appendEventCall event s.world = (.error error, world)) :
    HolderEffect (s.log sessionId) (.starting turn queuedTurnId history)
      (dispatchFailure queuedTurnId) (world.store.listEventsBySession sessionId) none := by
  simp only [appendEventCall, Prod.mk.injEq] at h
  obtain ⟨herror, rfl⟩ := h
  rw [appendEvent_error herror]
  exact starting_fails

section Marking

variable {id : String} {turnId : TurnId} {history : List SessionEventRecord}
  {world : TurnQueueWorld}

lemma marking_store {result : Except CoreError Unit}
    (h : markQueuedTurnDispatchedFrom draw.bus draw.eventId draw.occurredAt sessionId id turnId
      history s.world = (result, world)) :
    world.store = (s.world.store.appendEvent (queueEvent draw.eventId draw.occurredAt sessionId
      history (.queuedTurnDispatched id turnId))).2 := by
  have hstep : queueStep s.world (.marking sessionId id history)
      { draw.toQueueDraw with turnId := turnId } = some (world, .returned) := by rw [queueStep, h]
  exact queueStep_store hstep

lemma marking_ok_effect (hfresh : ∀ row ∈ s.world.store.rows, row.eventId ≠ draw.eventId)
    (h : markQueuedTurnDispatchedFrom draw.bus draw.eventId draw.occurredAt sessionId id turnId
      history s.world = (.ok (), world)) :
    HolderEffect (s.log sessionId) (.marking id turnId history) .quiet
      (world.store.listEventsBySession sessionId) (some (.sending id turnId)) := by
  obtain ⟨outcome, houtcome⟩ := markQueuedTurnDispatchedFrom_ok h
  obtain ⟨canonical, hkind, hlog⟩ := appendEvent_log_fresh hfresh rfl houtcome
  rw [← marking_store h] at hlog
  have hafter : _ = s.log sessionId ++ [canonical] := hlog
  exact hafter ▸ .marks hkind (.inl rfl)

lemma marking_error_effect {result : Except CoreError Unit}
    (h : markQueuedTurnDispatchedFrom draw.bus draw.eventId draw.occurredAt sessionId id turnId
      history s.world = (result, world)) :
    HolderEffect (s.log sessionId) (.marking id turnId history) .quiet
      (world.store.listEventsBySession sessionId) (some (.aborting id turnId)) := by
  have hlog := appendEvent_log s.world.store (queueEvent draw.eventId draw.occurredAt sessionId
    history (.queuedTurnDispatched id turnId))
  rw [← marking_store h] at hlog
  rcases hlog with hsame | ⟨canonical, hkind, hlog⟩
  · have hafter : _ = s.log sessionId := hsame
    exact hafter ▸ .proceeds rfl rfl (.inr rfl) nofun
  · have hafter : _ = s.log sessionId ++ [canonical] := hlog
    exact hafter ▸ .marks hkind (.inr rfl)

end Marking

lemma sending_effect {queuedTurnId : Option String} {turnId : TurnId} {h : Option Transition}
    (hnext : h = none ∨ h = some (.aborting queuedTurnId turnId)) :
    HolderEffect log (.sending queuedTurnId turnId)
      ((queuedTurnId.map TurnAnswer.sent).getD .quiet) log h := by
  cases queuedTurnId with
  | none => exact .handsDirectly hnext
  | some id => exact .hands hnext

lemma aborting_effect {queuedTurnId : Option String} {turnId : TurnId} :
    HolderEffect (s.log sessionId) (.aborting queuedTurnId turnId) (dispatchFailure queuedTurnId)
      ((appendEventCall (queueEvent draw.eventId draw.occurredAt sessionId (s.log sessionId)
        (.turnAborted turnId none)) s.world).2.store.listEventsBySession sessionId) none := by
  rcases appendEvent_log s.world.store (queueEvent draw.eventId draw.occurredAt sessionId
    (s.log sessionId) (.turnAborted turnId none)) with hsame | ⟨canonical, hkind, hlog⟩
  · have hafter : _ = s.log sessionId := hsame
    exact hafter ▸ holderEffect_fails fun _ => rfl
  · have hafter : _ = s.log sessionId ++ [canonical] := hlog
    exact hafter ▸ .aborts hkind

theorem holderStep_effect (h : holderStep sessionId s draw held = some (answer, t)) :
    t.calls = s.calls ∧
      HolderEffect (s.log sessionId) held answer (t.log sessionId) t.transition := by
  cases held with
  | reading =>
      simp only [holderStep] at h
      split at h
      · cases h
        exact ⟨rfl, .fails (.inl rfl)⟩
      · split at h
        · next hqueue =>
          cases h
          exact ⟨rfl, .findsNothing hqueue⟩
        · next queued rest hqueue =>
          cases h
          exact ⟨rfl, .picks (by simp [hqueue])⟩
  | preparing turn queuedTurnId =>
      simp only [holderStep] at h
      split at h <;> cases h
      · exact ⟨rfl, holderEffect_fails fun hnone => by simp [Transition.dispatches, hnone]⟩
      · exact ⟨rfl, .reads⟩
  | starting turn queuedTurnId history =>
      simp only [holderStep, Option.ite_none_right_eq_some] at h
      obtain ⟨hdraws, h⟩ := h
      split at h
      · cases h
        exact ⟨rfl, starting_fails⟩
      · split at h
        · next hcall =>
          cases h
          exact ⟨rfl, starting_effect (unusedEventId_iff.mp hdraws) hcall⟩
        · next hcall =>
          cases h
          exact ⟨rfl, starting_error_effect hcall⟩
  | announcing queuedTurnId turnId =>
      simp only [holderStep] at h
      split at h <;> cases h
      · exact ⟨rfl, holderEffect_fails fun _ => rfl⟩
      · exact ⟨rfl, .proceeds rfl rfl (.inl rfl) nofun⟩
  | binding queuedTurnId turnId =>
      simp only [holderStep] at h
      split at h <;> cases h
      · exact ⟨rfl, .proceeds rfl rfl (.inr rfl) nofun⟩
      · exact ⟨rfl, .proceeds rfl rfl (.inl rfl) nofun⟩
  | bound queuedTurnId turnId =>
      cases queuedTurnId with
      | none =>
          cases h
          exact ⟨rfl, .proceeds rfl rfl (.inl rfl) nofun⟩
      | some id =>
          simp only [holderStep] at h
          split at h <;> cases h
          · exact ⟨rfl, .proceeds rfl rfl (.inr rfl) nofun⟩
          · exact ⟨rfl, .proceeds rfl rfl (.inl rfl) nofun⟩
  | marking id turnId history =>
      simp only [holderStep, Option.ite_none_right_eq_some] at h
      obtain ⟨hdraws, h⟩ := h
      split at h
      · cases h
        exact ⟨rfl, .proceeds rfl rfl (.inr rfl) nofun⟩
      · split at h
        · next hcall =>
          cases h
          exact ⟨rfl, marking_ok_effect (unusedEventId_iff.mp hdraws) hcall⟩
        · next hcall =>
          cases h
          exact ⟨rfl, marking_error_effect hcall⟩
  | sending queuedTurnId turnId =>
      cases h
      refine ⟨rfl, sending_effect ?_⟩
      split
      · exact .inr rfl
      · exact .inl rfl
  | aborting queuedTurnId turnId =>
      simp only [holderStep] at h
      split at h <;> cases h
      · exact ⟨rfl, holderEffect_fails fun _ => rfl⟩
      · exact ⟨rfl, aborting_effect⟩

end Holder

inductive TurnStep (sessionId : SessionId) (s : SessionTurns) :
    TurnAction → TurnAnswer → SessionTurns → Prop
  | entered {call : TurnCall} {t : SessionTurns} : call.enters = true →
      t.calls = s.calls ++ [call] → t.log sessionId = s.log sessionId →
      t.transition = s.transition → TurnStep sessionId s (.enter call) .quiet t
  | advanced {i : ℕ} {draw : TurnDraw} {c c' : TurnCall} {answer : TurnAnswer} {t : SessionTurns} :
      s.calls[i]? = some c → t.calls = s.calls.set i c' →
      CallEffect (s.log sessionId) s.transition c answer (t.log sessionId) t.transition c' →
      TurnStep sessionId s (.advance i draw) answer t
  | held {draw : TurnDraw} {h : Transition} {answer : TurnAnswer} {t : SessionTurns} :
      s.transition = some h → t.calls = s.calls →
      HolderEffect (s.log sessionId) h answer (t.log sessionId) t.transition →
      TurnStep sessionId s (.hold draw) answer t
  | appended {event : SessionEventRecord} {t : SessionTurns} : t.calls = s.calls →
      t.transition = s.transition →
      t.log sessionId = s.log sessionId ∨ (∃ canonical, isTurnKind canonical.kind = false ∧
        t.log sessionId = s.log sessionId ++ [canonical]) →
      TurnStep sessionId s (.append event) .quiet t
  | crashed {t : SessionTurns} : t.calls = [] → t.transition = none →
      t.log sessionId = s.log sessionId →
      TurnStep sessionId s .crash (if s.dispatchUnderWay then .undispatched else .quiet) t

theorem sessionTurns_step {sessionId : SessionId} {s t : SessionTurns} {action : TurnAction}
    {answer : TurnAnswer} (h : (sessionTurns sessionId).step s action = some (answer, t)) :
    TurnStep sessionId s action answer t := by
  cases action with
  | enter call =>
      simp only [sessionTurns, Option.ite_none_right_eq_some] at h
      obtain ⟨henters, h⟩ := h
      cases h
      exact .entered henters rfl rfl rfl
  | advance i draw =>
      obtain ⟨c, hc, hstep⟩ := Option.bind_eq_some_iff.mp h
      obtain ⟨c', hcalls, heffect⟩ := callStep_effect hstep
      exact .advanced hc hcalls heffect
  | hold draw =>
      obtain ⟨held, hheld, hstep⟩ := Option.bind_eq_some_iff.mp h
      obtain ⟨hcalls, heffect⟩ := holderStep_effect hstep
      exact .held hheld hcalls heffect
  | append event =>
      simp only [sessionTurns, Option.ite_none_left_eq_some] at h
      obtain ⟨hallowed, h⟩ := h
      cases h
      refine .appended rfl rfl ?_
      by_cases hsession : event.sessionId = sessionId
      · subst hsession
        have hkind : isTurnKind event.kind = false := by simpa using hallowed
        rcases appendEvent_log s.world.store event with hsame | ⟨canonical, hcanonical, hlog⟩
        · exact .inl hsame
        · exact .inr ⟨canonical, by rw [hcanonical, hkind], hlog⟩
      · exact .inl (listEventsBySession_appendEvent_other hsession)
  | crash =>
      cases h
      exact .crashed rfl rfl rfl

end DevCommandCenter
