import DevCommandCenter.Library.Interleaving
import DevCommandCenter.Library.Sequences
import DevCommandCenter.Session.TurnQueue

/-! Calls on the turn queue that race each other. Each reads the log in one step and appends in a
later one, and no lock is held in between. -/

namespace DevCommandCenter

def takesOut (queuedTurnId : String) : SessionEventKind → Bool
  | .queuedTurnRemoved id => queuedTurnId = id
  | .queuedTurnDispatched id _ => queuedTurnId = id
  | _ => false

def NoTurnLost (log : List SessionEventRecord) : Prop :=
  ∀ before event after turn, log = before ++ event :: after → event.kind = .turnQueued turn →
    (∀ later ∈ after, takesOut turn.id later.kind = false) → turn ∈ projectTurnQueue log

def IdsName (log : List SessionEventRecord) : Prop :=
  ∀ event ∈ log, ∀ event' ∈ log, ∀ turn turn', event.kind = .turnQueued turn →
    event'.kind = .turnQueued turn' → turn.id = turn'.id → turn = turn'

def NamesQueue (queuedTurnIds : List String) (log : List SessionEventRecord) : Prop :=
  ∀ turn ∈ projectTurnQueue log, turn.id ∈ queuedTurnIds

instance (queuedTurnIds : List String) (log : List SessionEventRecord) :
    Decidable (NamesQueue queuedTurnIds log) :=
  inferInstanceAs (Decidable (∀ turn ∈ projectTurnQueue log, turn.id ∈ queuedTurnIds))

section Projection

variable {log : List SessionEventRecord} {event : SessionEventRecord} {turn : QueuedTurn}

lemma mem_projectTurnQueue (h : turn ∈ projectTurnQueue log) :
    ∃ before event after, log = before ++ event :: after ∧ event.kind = .turnQueued turn ∧
      ∀ later ∈ after, takesOut turn.id later.kind = false := by
  induction log using List.reverseRecOn with
  | nil => cases h
  | append_singleton log last ih =>
      -- a turn that was there before stays accounted for when `last` does not take it out
      have hearlier (hturn : turn ∈ projectTurnQueue log) (hlast : takesOut turn.id last.kind = false) :
          ∃ before event after, log ++ [last] = before ++ event :: after ∧
            event.kind = .turnQueued turn ∧ ∀ later ∈ after, takesOut turn.id later.kind = false := by
        obtain ⟨before, event, after, hlog, hkind, hafter⟩ := ih hturn
        exact ⟨before, event, after ++ [last], by simp [hlog], hkind,
          Library.forall_mem_append_singleton.mpr ⟨hafter, hlast⟩⟩
      rw [projectTurnQueue_append] at h
      unfold projectQueueEvent at h
      split at h
      · next queued hkind =>
        rcases List.mem_append.mp h with h | h
        · exact hearlier h (by simp [hkind, takesOut])
        · rw [List.mem_singleton.mp h]
          exact ⟨log, last, [], rfl, hkind, by simp⟩
      · next id hkind =>
        obtain ⟨h, hne⟩ := List.mem_filter.mp h
        apply hearlier h
        simpa [hkind, takesOut] using hne
      · next id turnId hkind =>
        obtain ⟨h, hne⟩ := List.mem_filter.mp h
        apply hearlier h
        simpa [hkind, takesOut] using hne
      · next ids hkind => exact hearlier (mem_of_mem_reorderQueue h) (by simp [hkind, takesOut])
      · next hqueued hremoved hdispatched hreordered =>
        apply hearlier h
        cases hkind : last.kind with
        | queuedTurnRemoved id => exact absurd hkind (hremoved id)
        | queuedTurnDispatched id turnId => exact absurd hkind (hdispatched id turnId)
        | _ => rfl

lemma IdsName.eq (h : IdsName log) {turn' : QueuedTurn} (hturn : turn ∈ projectTurnQueue log)
    (hturn' : turn' ∈ projectTurnQueue log) (hid : turn.id = turn'.id) : turn = turn' := by
  obtain ⟨before, event, after, hlog, hkind, -⟩ := mem_projectTurnQueue hturn
  obtain ⟨before', event', after', hlog', hkind', -⟩ := mem_projectTurnQueue hturn'
  have hevent : event ∈ log := by simp [hlog]
  have hevent' : event' ∈ log := by simp [hlog']
  exact h event hevent event' hevent' turn turn' hkind hkind' hid

lemma mem_reorderQueue (h : IdsName log) {ids : List String} (hturn : turn ∈ projectTurnQueue log) :
    turn ∈ reorderQueue ids (projectTurnQueue log) ↔ turn.id ∈ ids := by
  constructor
  · intro hmem
    obtain ⟨id, hid, hfind⟩ := List.mem_filterMap.mp hmem
    rw [(find?_id_eq hfind).2]
    exact hid
  · intro hid
    obtain ⟨found, hfind⟩ := exists_find?_id (List.mem_map_of_mem hturn)
    obtain ⟨hfound, hsame⟩ := find?_id_eq hfind
    have heq := h.eq hfound hturn hsame
    subst heq
    exact List.mem_filterMap.mpr ⟨found.id, hid, hfind⟩

lemma mem_projectQueueEvent (h : IdsName log) (hturn : turn ∈ projectTurnQueue log)
    (hout : takesOut turn.id event.kind = false)
    (hnames : ∀ ids, event.kind = .turnQueueReordered ids → turn.id ∈ ids) :
    turn ∈ projectTurnQueue (log ++ [event]) := by
  rw [projectTurnQueue_append]
  unfold projectQueueEvent
  split
  · exact List.mem_append_left _ hturn
  · next id hkind =>
    apply List.mem_filter.mpr
    simpa [hkind, takesOut, hturn] using hout
  · next id turnId hkind =>
    apply List.mem_filter.mpr
    simpa [hkind, takesOut, hturn] using hout
  · next ids hkind => exact (mem_reorderQueue h hturn).mpr (hnames ids hkind)
  · exact hturn

lemma noTurnLost_nil : NoTurnLost [] := by
  intro before event after turn hlog
  cases before <;> cases hlog

theorem noTurnLost_append (hids : IdsName log) (h : NoTurnLost log) :
    NoTurnLost (log ++ [event]) ↔
      ∀ ids, event.kind = .turnQueueReordered ids → NamesQueue ids log := by
  constructor
  · intro hlost ids hkind turn hturn
    obtain ⟨before, queued, after, hlog, hqueued, hafter⟩ := mem_projectTurnQueue hturn
    have hmem : turn ∈ projectTurnQueue (log ++ [event]) := by
      apply hlost before queued (after ++ [event]) turn (by simp [hlog]) hqueued
      exact Library.forall_mem_append_singleton.mpr ⟨hafter, by rw [hkind]; rfl⟩
    rw [projectTurnQueue_append, projectQueueEvent, hkind] at hmem
    exact (mem_reorderQueue hids hturn).mp hmem
  · intro hnames before queued after turn hlog hqueued hafter
    obtain ⟨rest, rfl, hsplit⟩ | ⟨rfl, rfl, rfl⟩ := Library.split_append.mp hlog
    · obtain ⟨hrest, hout⟩ := Library.forall_mem_append_singleton.mp hafter
      have hturn := h before queued rest turn hsplit hqueued hrest
      exact mem_projectQueueEvent hids hturn hout fun ids hkind => hnames ids hkind turn hturn
    · rw [projectTurnQueue_append, projectQueueEvent, hqueued]
      exact List.mem_append_right _ (List.mem_singleton_self turn)

lemma idsName_nil : IdsName [] := by
  intro event hevent
  cases hevent

lemma IdsName.append (h : IdsName log) (hfresh : ∀ turn, event.kind = .turnQueued turn →
      ∀ event' ∈ log, ∀ turn', event'.kind = .turnQueued turn' → turn'.id ≠ turn.id) :
    IdsName (log ++ [event]) := by
  intro a ha b hb turn turn' hturn hturn' hid
  rcases List.mem_append.mp ha with ha | ha <;> rcases List.mem_append.mp hb with hb | hb
  · exact h a ha b hb turn turn' hturn hturn' hid
  · cases List.mem_singleton.mp hb
    exact absurd hid (hfresh turn' hturn' a ha turn hturn)
  · cases List.mem_singleton.mp ha
    exact absurd hid.symm (hfresh turn hturn b hb turn' hturn')
  · cases List.mem_singleton.mp ha
    cases List.mem_singleton.mp hb
    rw [hturn] at hturn'
    cases hturn'
    rfl

end Projection

section SecondHalves

variable (bus : CoreEvent → Except CoreError Unit)

def queueTurnFrom (queuedTurnId eventId createdAt occurredAt : String) (turn : SendTurnInput)
    (history : List SessionEventRecord) : QueueCall QueuedTurn := do
  if history.isEmpty then
    .fail (.repository "session not found")
  let queuedTurn : QueuedTurn := {
    id := queuedTurnId
    sessionId := turn.sessionId
    prompt := turn.prompt
    toolInstructions := turn.toolInstructions
    planMode := turn.planMode
    effort := turn.effort
    fastMode := turn.fastMode
    approvalPolicy := turn.approvalPolicy
    evidence := turn.evidence
    createdAt := createdAt }
  let (event, inserted) ← append eventId occurredAt turn.sessionId history (.turnQueued queuedTurn)
  if inserted then
    publishDurableSession bus event (.sessionTurnQueued turn.sessionId.value queuedTurn)
  return queuedTurn

def removeQueuedTurnFrom (eventId occurredAt : String) (input : RemoveQueuedTurnInput)
    (history : List SessionEventRecord) : QueueCall (List QueuedTurn) := do
  if !(projectTurnQueue history).any (fun turn => turn.id = input.queuedTurnId) then
    .fail (.invalidInput "queued turn was not found")
  let (event, inserted) ← append eventId occurredAt input.sessionId history
    (.queuedTurnRemoved input.queuedTurnId)
  if inserted then
    publishDurableSession bus event
      (.sessionQueuedTurnRemoved input.sessionId.value input.queuedTurnId)
  return projectTurnQueue (history ++ [event])

def orderIsComplete (input : ReorderTurnQueueInput) (history : List SessionEventRecord) : Bool :=
  Library.sorted (queuedTurnIdsOf (projectTurnQueue history)) =
    Library.sortDedup input.queuedTurnIds

def reorderTurnQueueFrom (eventId occurredAt : String) (input : ReorderTurnQueueInput)
    (history : List SessionEventRecord) : QueueCall (List QueuedTurn) := do
  let currentIds := Library.sorted (queuedTurnIdsOf (projectTurnQueue history))
  let requestedIds := Library.sortDedup input.queuedTurnIds
  if currentIds ≠ requestedIds then
    .fail (.invalidInput "queue order must contain every queued turn exactly once")
  let (event, inserted) ← append eventId occurredAt input.sessionId history
    (.turnQueueReordered input.queuedTurnIds)
  if inserted then
    publishDurableSession bus event
      (.sessionTurnQueueReordered input.sessionId.value input.queuedTurnIds)
  return projectTurnQueue (history ++ [event])

def markQueuedTurnDispatchedFrom (eventId occurredAt : String) (sessionId : SessionId)
    (queuedTurnId : String) (turnId : TurnId) (history : List SessionEventRecord) :
    QueueCall Unit := do
  let (event, inserted) ← append eventId occurredAt sessionId history
    (.queuedTurnDispatched queuedTurnId turnId)
  if inserted then
    publishDurableSession bus event
      (.sessionQueuedTurnDispatched sessionId.value queuedTurnId turnId.value)

variable {bus} {eventId occurredAt : String}

lemma reorderTurnQueue_eq {input : ReorderTurnQueueInput} :
    reorderTurnQueue bus eventId occurredAt input =
      (listEvents input.sessionId >>= reorderTurnQueueFrom bus eventId occurredAt input) := rfl

end SecondHalves

inductive QueueRequest
  | queueTurn (turn : SendTurnInput)
  | removeQueuedTurn (input : RemoveQueuedTurnInput)
  | reorderTurnQueue (input : ReorderTurnQueueInput)
  | dispatchNextQueuedTurn (sessionId : SessionId)
  | appendEvent (event : SessionEventRecord)

inductive QueueProgress
  | called (request : QueueRequest)
  | queueing (turn : SendTurnInput) (history : List SessionEventRecord)
  | removing (input : RemoveQueuedTurnInput) (history : List SessionEventRecord)
  | reordering (input : ReorderTurnQueueInput) (history : List SessionEventRecord)
  | dispatching (sessionId : SessionId) (queued : QueuedTurn)
  | marking (sessionId : SessionId) (queuedTurnId : String) (history : List SessionEventRecord)
  | returned

structure QueueDraw where
  queuedTurnId : String
  eventId : String
  turnId : TurnId
  createdAt : String
  occurredAt : String
  bus : CoreEvent → Except CoreError Unit

def isQueueKind : SessionEventKind → Bool
  | .turnQueued _ | .queuedTurnRemoved _ | .turnQueueReordered _ | .queuedTurnDispatched .. => true
  | _ => false

def unusedQueuedTurnId (world : TurnQueueWorld) (id : String) : Bool :=
  world.store.rows.all fun row =>
    match row.kind with
    | .turnQueued turn => turn.id ≠ id
    | _ => true

def queueStep (world : TurnQueueWorld) (progress : QueueProgress) (draw : QueueDraw) :
    Option (TurnQueueWorld × QueueProgress) :=
  match progress with
  | .called (.queueTurn turn) =>
      if Library.isBlank turn.prompt then some (world, .returned)
      else some (world, .queueing turn (world.store.listEventsBySession turn.sessionId))
  | .called (.removeQueuedTurn input) =>
      some (world, .removing input (world.store.listEventsBySession input.sessionId))
  | .called (.reorderTurnQueue input) =>
      some (world, .reordering input (world.store.listEventsBySession input.sessionId))
  | .called (.dispatchNextQueuedTurn sessionId) =>
      match projectTurnQueue (world.store.listEventsBySession sessionId) with
      | [] => some (world, .returned)
      | queued :: _ => some (world, .dispatching sessionId queued)
  | .called (.appendEvent event) =>
      if isQueueKind event.kind then none
      else some ((appendEventCall event world).2, .returned)
  | .queueing turn history =>
      if unusedQueuedTurnId world draw.queuedTurnId then
        some ((queueTurnFrom draw.bus draw.queuedTurnId draw.eventId draw.createdAt draw.occurredAt
          turn history world).2, .returned)
      else none
  | .removing input history =>
      some ((removeQueuedTurnFrom draw.bus draw.eventId draw.occurredAt input history world).2,
        .returned)
  | .reordering input history =>
      some ((reorderTurnQueueFrom draw.bus draw.eventId draw.occurredAt input history world).2,
        .returned)
  | .dispatching sessionId queued =>
      some (world, .marking sessionId queued.id (world.store.listEventsBySession sessionId))
  | .marking sessionId queuedTurnId history =>
      some ((markQueuedTurnDispatchedFrom draw.bus draw.eventId draw.occurredAt sessionId
        queuedTurnId draw.turnId history world).2, .returned)
  | .returned => none

def isCalled : QueueProgress → Bool
  | .called _ => true
  | _ => false

def turnQueuePool : Library.System (Library.Pool TurnQueueWorld QueueProgress)
    (Library.PoolAction QueueProgress QueueDraw) Unit :=
  Library.pool { store := .empty, published := [] } isCalled queueStep

section Appends

variable {bus : CoreEvent → Except CoreError Unit} {eventId occurredAt : String} {α : Type}

lemma publishDurableSession_keeps (record : SessionEventRecord) (event : CoreEvent)
    (store : EventStore) : (publishDurableSession bus record event).Keeps fun world =>
      world.store = store := by
  intro world hworld
  rw [publishDurableSession_store (Prod.mk.eta (p := publishDurableSession bus record event world)).symm]
  exact hworld

lemma append_bind_store {sessionId : SessionId} {history : List SessionEventRecord}
    {kind : SessionEventKind} {f : SessionEventRecord × Bool → QueueCall α}
    (hf : ∀ result store, (f result).Keeps fun world => world.store = store)
    (world : TurnQueueWorld) :
    ((append eventId occurredAt sessionId history kind >>= f) world).2.store =
      (world.store.appendEvent (queueEvent eventId occurredAt sessionId history kind)).2 := by
  rw [Library.Call.bind_apply]
  have happend : (append eventId occurredAt sessionId history kind world).2.store =
      (world.store.appendEvent (queueEvent eventId occurredAt sessionId history kind)).2 := by
    simp only [append, Library.Call.bind_apply, appendEventCall, queueEvent]
    cases (world.store.appendEvent _).1 with
    | error error => rfl
    | ok outcome => cases outcome <;> rfl
  rcases hresult : append eventId occurredAt sessionId history kind world with ⟨error | result, after⟩
  · rw [hresult] at happend
    exact happend
  · rw [hresult] at happend
    exact hf result _ after happend

lemma publish_return_keeps (inserted : Bool) (record : SessionEventRecord) (event : CoreEvent) (a : α)
    (store : EventStore) : (do
      if inserted then
        publishDurableSession bus record event
      return a : QueueCall α).Keeps fun world => world.store = store := by
  cases inserted with
  | true =>
      apply (publishDurableSession_keeps record event store).bind
      intro _
      exact Library.Call.keeps_pure a
  | false => exact Library.Call.keeps_pure a

end Appends

def appended (progress : QueueProgress) (draw : QueueDraw) : Option SessionEventRecord :=
  match progress with
  | .called (.appendEvent event) => some event
  | .queueing turn history =>
      if history.isEmpty then none
      else some (queueEvent draw.eventId draw.occurredAt turn.sessionId history (.turnQueued {
        id := draw.queuedTurnId
        sessionId := turn.sessionId
        prompt := turn.prompt
        toolInstructions := turn.toolInstructions
        planMode := turn.planMode
        effort := turn.effort
        fastMode := turn.fastMode
        approvalPolicy := turn.approvalPolicy
        evidence := turn.evidence
        createdAt := draw.createdAt }))
  | .removing input history =>
      if (projectTurnQueue history).any fun turn => turn.id = input.queuedTurnId then
        some (queueEvent draw.eventId draw.occurredAt input.sessionId history
          (.queuedTurnRemoved input.queuedTurnId))
      else none
  | .reordering input history =>
      if orderIsComplete input history then
        some (queueEvent draw.eventId draw.occurredAt input.sessionId history
          (.turnQueueReordered input.queuedTurnIds))
      else none
  | .marking sessionId queuedTurnId history =>
      some (queueEvent draw.eventId draw.occurredAt sessionId history
        (.queuedTurnDispatched queuedTurnId draw.turnId))
  | _ => none

section Steps

variable {world world' : TurnQueueWorld} {progress progress' : QueueProgress} {draw : QueueDraw}

lemma queueStep_store (h : queueStep world progress draw = some (world', progress')) :
    world'.store = match appended progress draw with
      | some event => (world.store.appendEvent event).2
      | none => world.store := by
  cases progress with
  | called request =>
      cases request with
      | queueTurn turn =>
          simp only [queueStep] at h
          split at h <;> cases h <;> rfl
      | removeQueuedTurn input =>
          cases h
          rfl
      | reorderTurnQueue input =>
          cases h
          rfl
      | dispatchNextQueuedTurn sessionId =>
          simp only [queueStep] at h
          split at h <;> cases h <;> rfl
      | appendEvent event =>
          simp only [queueStep] at h
          split at h <;> cases h
          rfl
  | queueing turn history =>
      simp only [queueStep, Option.ite_none_right_eq_some, Option.some.injEq, Prod.mk.injEq] at h
      obtain ⟨-, rfl, -⟩ := h
      simp only [appended, queueTurnFrom]
      split
      · rfl
      · exact append_bind_store (fun result => publish_return_keeps result.2 result.1 _ _) world
  | removing input history =>
      cases h
      simp only [appended, removeQueuedTurnFrom]
      cases (projectTurnQueue history).any fun turn => turn.id = input.queuedTurnId with
      | true => exact append_bind_store (fun result => publish_return_keeps result.2 result.1 _ _) world
      | false => rfl
  | reordering input history =>
      cases h
      by_cases hcomplete : Library.sorted (queuedTurnIdsOf (projectTurnQueue history)) =
          Library.sortDedup input.queuedTurnIds
      · simp only [appended, reorderTurnQueueFrom, orderIsComplete, hcomplete, decide_true, if_true,
          ne_eq, not_true_eq_false, if_false]
        exact append_bind_store (fun result => publish_return_keeps result.2 result.1 _ _) world
      · simp only [appended, reorderTurnQueueFrom, orderIsComplete, hcomplete, decide_false,
          Bool.false_eq_true, if_false, ne_eq, not_false_eq_true, if_true]
        rfl
  | dispatching sessionId queued =>
      cases h
      rfl
  | marking sessionId queuedTurnId history =>
      cases h
      apply append_bind_store
      rintro ⟨record, inserted⟩ store
      cases inserted with
      | true => exact publishDurableSession_keeps record _ store
      | false => exact Library.Call.keeps_pure ()
  | returned => cases h

lemma appended_turnQueued {event : SessionEventRecord} {turn : QueuedTurn}
    (h : queueStep world progress draw = some (world', progress'))
    (happended : appended progress draw = some event) (hkind : event.kind = .turnQueued turn) :
    unusedQueuedTurnId world turn.id = true := by
  cases progress with
  | called request =>
      cases request with
      | appendEvent event' =>
          cases happended
          simp [queueStep, hkind, isQueueKind] at h
      | _ => cases happended
  | queueing turn' history =>
      simp only [queueStep, Option.ite_none_right_eq_some] at h
      simp only [appended] at happended
      split at happended
      · cases happended
      · cases happended
        cases hkind
        exact h.1
  | removing input history =>
      simp only [appended, Option.ite_none_right_eq_some] at happended
      obtain ⟨-, heq⟩ := happended
      cases heq
      cases hkind
  | reordering input history =>
      simp only [appended, Option.ite_none_right_eq_some] at happended
      obtain ⟨-, heq⟩ := happended
      cases heq
      cases hkind
  | marking sessionId queuedTurnId history =>
      cases happended
      cases hkind
  | dispatching sessionId queued => cases happended
  | returned => cases happended

lemma appended_reordered {event : SessionEventRecord} {ids : List String}
    (h : queueStep world progress draw = some (world', progress'))
    (happended : appended progress draw = some event) (hkind : event.kind = .turnQueueReordered ids) :
    ∃ input history, progress = .reordering input history ∧ input.queuedTurnIds = ids := by
  cases progress with
  | called request =>
      cases request with
      | appendEvent event' =>
          cases happended
          simp [queueStep, hkind, isQueueKind] at h
      | _ => cases happended
  | queueing turn' history =>
      simp only [appended] at happended
      split at happended
      · cases happended
      · cases happended
        cases hkind
  | removing input history =>
      simp only [appended, Option.ite_none_right_eq_some] at happended
      obtain ⟨-, heq⟩ := happended
      cases heq
      cases hkind
  | reordering input history =>
      simp only [appended, Option.ite_none_right_eq_some] at happended
      obtain ⟨-, heq⟩ := happended
      cases heq
      cases hkind
      exact ⟨input, history, rfl, rfl⟩
  | marking sessionId queuedTurnId history =>
      cases happended
      cases hkind
  | dispatching sessionId queued => cases happended
  | returned => cases happended

end Steps

section Logs

variable {store : EventStore} {event : SessionEventRecord}

lemma listEventsBySession_appendEvent_other {sessionId : SessionId}
    (h : event.sessionId ≠ sessionId) :
    (store.appendEvent event).2.listEventsBySession sessionId =
      store.listEventsBySession sessionId := by
  obtain ⟨_, hr⟩ | ⟨_, _, _, hr⟩ | ⟨-, -, -, hr⟩ := appendEventRows_cases store.rows event
  · simp [EventStore.appendEvent, EventStore.listEventsBySession, hr]
  · simp [EventStore.appendEvent, EventStore.listEventsBySession, hr]
  · simp [EventStore.appendEvent, EventStore.listEventsBySession, hr, sessionRows, newEventRow, h]

lemma appendEvent_logs (store : EventStore) (event : SessionEventRecord) :
    (∀ sessionId, (store.appendEvent event).2.listEventsBySession sessionId =
      store.listEventsBySession sessionId) ∨
    ((∀ row ∈ store.rows, row.eventId ≠ event.eventId) ∧
      store.lastEventSequence event.sessionId < i64Max ∧
      ∃ canonical, canonical.kind = event.kind ∧
        (store.appendEvent event).2.listEventsBySession event.sessionId =
          store.listEventsBySession event.sessionId ++ [canonical]) := by
  obtain ⟨_, hr⟩ | ⟨_, _, _, hr⟩ | ⟨hid, -, hroom, hr⟩ := appendEventRows_cases store.rows event
  · exact .inl fun sessionId => by
      simp [EventStore.appendEvent, EventStore.listEventsBySession, hr]
  · exact .inl fun sessionId => by
      simp [EventStore.appendEvent, EventStore.listEventsBySession, hr]
  · have hinserted := congrArg Prod.fst hr
    exact .inr ⟨hid, hroom, { event with sequence := maxSequence store.rows event.sessionId + 1 },
      rfl, listEventsBySession_appendEvent hinserted⟩

lemma appendEvent_inserted (hfresh : ∀ row ∈ store.rows, row.eventId ≠ event.eventId)
    (hkind : terminal event.kind = none) (hroom : store.lastEventSequence event.sessionId < i64Max) :
    (store.appendEvent event).1 =
      .ok (.inserted { event with sequence := store.lastEventSequence event.sessionId + 1 }) := by
  have hfind : store.rows.find? (fun row => row.eventId = event.eventId) = none := by
    simpa using hfresh
  have hle : ¬i64Max < maxSequence store.rows event.sessionId + 1 := not_lt.mpr hroom
  simp only [EventStore.appendEvent, appendEventRows, hfind, hkind, Option.bind_none, hle, if_false,
    EventStore.lastEventSequence]

end Logs

/-- A reordering that reaches the log, and only that, has to name every turn that is queued by then. -/
def namesWhatItReplays (world : TurnQueueWorld) (progress : QueueProgress) (draw : QueueDraw) :
    Bool :=
  match progress with
  | .reordering input history =>
      decide (orderIsComplete input history → (∀ row ∈ world.store.rows, row.eventId ≠ draw.eventId) →
        world.store.lastEventSequence input.sessionId < i64Max →
          NamesQueue input.queuedTurnIds (world.store.listEventsBySession input.sessionId))
  | _ => true

def reordersWholeQueue (s : Library.Pool TurnQueueWorld QueueProgress) :
    Library.PoolAction QueueProgress QueueDraw → Bool
  | .enter _ => true
  | .advance i draw => (s.calls[i]?).all fun progress => namesWhatItReplays s.shared progress draw

def KeepsQueuedTurns (s : Library.Pool TurnQueueWorld QueueProgress) : Prop :=
  ∀ sessionId, NoTurnLost (s.shared.store.listEventsBySession sessionId)

section Runs

variable {store : EventStore} {event : SessionEventRecord}

lemma noTurnLost_appendEvent
    (hids : ∀ sessionId, IdsName (store.listEventsBySession sessionId))
    (hlost : ∀ sessionId, NoTurnLost (store.listEventsBySession sessionId)) :
    (∀ sessionId, NoTurnLost ((store.appendEvent event).2.listEventsBySession sessionId)) ↔
      ∀ ids, event.kind = .turnQueueReordered ids →
        (∀ row ∈ store.rows, row.eventId ≠ event.eventId) →
        store.lastEventSequence event.sessionId < i64Max →
          NamesQueue ids (store.listEventsBySession event.sessionId) := by
  constructor
  · intro hafter ids hkind hfresh hroom
    have hinserted := appendEvent_inserted hfresh (by rw [hkind]; rfl) hroom
    have hlog := hafter event.sessionId
    rw [listEventsBySession_appendEvent hinserted] at hlog
    exact (noTurnLost_append (hids _) (hlost _)).mp hlog ids hkind
  · intro hnames sessionId
    by_cases hsession : event.sessionId = sessionId
    · subst hsession
      obtain hsame | ⟨hfresh, hroom, canonical, hkind, hlog⟩ := appendEvent_logs store event
      · rw [hsame]
        exact hlost _
      · rw [hlog]
        apply (noTurnLost_append (hids _) (hlost _)).mpr
        intro ids hreordered
        exact hnames ids (hkind ▸ hreordered) hfresh hroom
    · rw [listEventsBySession_appendEvent_other hsession]
      exact hlost sessionId

lemma idsName_appendEvent (hids : ∀ sessionId, IdsName (store.listEventsBySession sessionId))
    (hunused : ∀ turn, event.kind = .turnQueued turn →
      ∀ row ∈ store.rows, ∀ turn', row.kind = .turnQueued turn' → turn'.id ≠ turn.id)
    (sessionId : SessionId) :
    IdsName ((store.appendEvent event).2.listEventsBySession sessionId) := by
  by_cases hsession : event.sessionId = sessionId
  · subst hsession
    obtain hsame | ⟨-, -, canonical, hkind, hlog⟩ := appendEvent_logs store event
    · rw [hsame]
      exact hids _
    · rw [hlog]
      apply (hids _).append
      intro turn hturn stored hstored turn' hturn'
      obtain ⟨row, hrow, rfl⟩ := List.mem_map.mp hstored
      exact hunused turn (hkind ▸ hturn) row (mem_sessionRows.mp hrow).1 turn' hturn'
  · rw [listEventsBySession_appendEvent_other hsession]
    exact hids sessionId

lemma unusedQueuedTurnId_iff {world : TurnQueueWorld} {id : String} :
    unusedQueuedTurnId world id = true ↔
      ∀ row ∈ world.store.rows, ∀ turn, row.kind = .turnQueued turn → turn.id ≠ id := by
  rw [unusedQueuedTurnId, List.all_eq_true]
  apply forall₂_congr
  intro row _
  cases row.kind <;> simp

variable {s t : Library.Pool TurnQueueWorld QueueProgress}
  {action : Library.PoolAction QueueProgress QueueDraw}

lemma turnQueuePool_idsName
    (hids : ∀ sessionId, IdsName (s.shared.store.listEventsBySession sessionId))
    (hstep : turnQueuePool.step s action = some ((), t)) :
    ∀ sessionId, IdsName (t.shared.store.listEventsBySession sessionId) := by
  cases action with
  | enter progress =>
      obtain ⟨-, rfl⟩ := Library.pool_enter.mp hstep
      exact hids
  | advance i draw =>
      obtain ⟨progress, -, shared, progress', hnext, rfl⟩ := Library.pool_advance.mp hstep
      have hstore := queueStep_store hnext
      dsimp only
      rw [hstore]
      cases happended : appended progress draw with
      | none => exact hids
      | some event =>
          apply idsName_appendEvent hids
          intro turn hkind
          exact unusedQueuedTurnId_iff.mp (appended_turnQueued hnext happended hkind)

lemma turnQueuePool_keeps
    (hids : ∀ sessionId, IdsName (s.shared.store.listEventsBySession sessionId))
    (hkeeps : KeepsQueuedTurns s) (hstep : turnQueuePool.step s action = some ((), t)) :
    KeepsQueuedTurns t ↔ reordersWholeQueue s action = true := by
  cases action with
  | enter progress =>
      obtain ⟨-, rfl⟩ := Library.pool_enter.mp hstep
      exact iff_of_true hkeeps rfl
  | advance i draw =>
      obtain ⟨progress, hprogress, shared, progress', hnext, rfl⟩ := Library.pool_advance.mp hstep
      have hstore := queueStep_store hnext
      simp only [KeepsQueuedTurns, reordersWholeQueue, hprogress, Option.all_some, hstore]
      cases happended : appended progress draw with
      | none =>
          refine iff_of_true hkeeps ?_
          cases progress with
          | reordering input history =>
              have hincomplete : orderIsComplete input history = false := by
                simpa [appended] using happended
              simp [namesWhatItReplays, hincomplete]
          | _ => rfl
      | some event =>
          dsimp only
          rw [noTurnLost_appendEvent hids hkeeps]
          constructor
          · intro hnames
            cases progress with
            | reordering input history =>
                simp only [appended, Option.ite_none_right_eq_some] at happended
                obtain ⟨-, heq⟩ := happended
                cases heq
                simp only [namesWhatItReplays, decide_eq_true_eq]
                exact fun _ hfresh hroom => hnames _ rfl hfresh hroom
            | _ => rfl
          · intro hnames ids hkind hfresh hroom
            obtain ⟨input, history, rfl, rfl⟩ := appended_reordered hnext happended hkind
            simp only [appended, Option.ite_none_right_eq_some] at happended
            obtain ⟨hcomplete, heq⟩ := happended
            cases heq
            exact of_decide_eq_true hnames hcomplete hfresh hroom

end Runs

/-- The runs that never lose a queued turn are those in which no reordering is appended that leaves
out a turn queued by then. -/
theorem queued_turns_kept_iff {s : Library.Pool TurnQueueWorld QueueProgress}
    {l : List (Library.PoolAction QueueProgress QueueDraw × Unit)} :
    turnQueuePool.RunIn KeepsQueuedTurns turnQueuePool.start l s ↔
      (turnQueuePool.restrict reordersWholeQueue).Run turnQueuePool.start l s :=
  Library.System.runIn_iff_restrict_of_invariant
    (fun _ _ _ _ hids hstep => turnQueuePool_idsName hids hstep)
    (fun _ _ _ _ hids hkeeps hstep => turnQueuePool_keeps hids hkeeps hstep)
    (fun _ => idsName_nil) (fun _ => noTurnLost_nil)

section LateReordering

def demoPrompt (prompt : String) : SendTurnInput where
  sessionId := demoSession
  prompt := prompt
  toolInstructions := none
  planMode := none
  effort := none
  fastMode := none
  approvalPolicy := none
  evidence := none

def demoDraw (queuedTurnId eventId : String) : QueueDraw where
  queuedTurnId := queuedTurnId
  eventId := eventId
  turnId := ⟨"turn-1"⟩
  createdAt := "2026-08-02T10:00:00Z"
  occurredAt := "2026-08-02T10:00:00Z"
  bus := fun _ => .ok ()

def demoRace : List (Library.PoolAction QueueProgress QueueDraw) :=
  [.enter (.called (.appendEvent (demoEvent "event-1"
      (.sessionStarted ⟨"workspace-1"⟩ ⟨"project-1"⟩ "codex" none none)))),
    .advance 0 (demoDraw "" ""),
    .enter (.called (.queueTurn (demoPrompt "prompt a"))),
    .advance 1 (demoDraw "" ""),
    .advance 1 (demoDraw "a" "event-2"),
    .enter (.called (.reorderTurnQueue ⟨demoSession, ["a"]⟩)),
    .advance 2 (demoDraw "" ""),
    .enter (.called (.queueTurn (demoPrompt "prompt b"))),
    .advance 3 (demoDraw "" ""),
    .advance 3 (demoDraw "b" "event-3"),
    .advance 2 (demoDraw "" "event-4")]

def demoRaceLog : List SessionEventRecord :=
  (turnQueuePool.exec turnQueuePool.start demoRace).shared.store.listEventsBySession demoSession

theorem late_reordering_loses_turn :
    (∃ events, turnQueuePool.Run turnQueuePool.start events
      (turnQueuePool.exec turnQueuePool.start demoRace)) ∧
    demoRaceLog.map SessionEventRecord.kind =
      [.sessionStarted ⟨"workspace-1"⟩ ⟨"project-1"⟩ "codex" none none,
        .turnQueued demoQueuedTurn,
        .turnQueued { demoQueuedTurn with id := "b", prompt := "prompt b" },
        .turnQueueReordered ["a"]] ∧
    projectTurnQueue demoRaceLog = [demoQueuedTurn] ∧
    ¬KeepsQueuedTurns (turnQueuePool.exec turnQueuePool.start demoRace) := by
  have hkinds : demoRaceLog.map SessionEventRecord.kind =
      [.sessionStarted ⟨"workspace-1"⟩ ⟨"project-1"⟩ "codex" none none,
        .turnQueued demoQueuedTurn,
        .turnQueued { demoQueuedTurn with id := "b", prompt := "prompt b" },
        .turnQueueReordered ["a"]] := by decide +kernel
  have hqueue : projectTurnQueue demoRaceLog = [demoQueuedTurn] := by decide +kernel
  refine ⟨Library.System.run_exec _ _, hkinds, hqueue, fun hkeeps => ?_⟩
  obtain ⟨before, rest, hlog, -, hrest⟩ := List.map_eq_append_iff.mp
    (show demoRaceLog.map SessionEventRecord.kind = [_, _] ++ [_, _] from hkinds)
  obtain ⟨event, after, rfl, hevent, hafter⟩ := List.map_eq_cons_iff.mp hrest
  obtain ⟨last, nothing, rfl, hlast, hnothing⟩ := List.map_eq_cons_iff.mp hafter
  cases List.map_eq_nil_iff.mp hnothing
  have hlost := hkeeps demoSession before event [last] _ hlog hevent (by simp [hlast, takesOut])
  rw [show (turnQueuePool.exec turnQueuePool.start demoRace).shared.store.listEventsBySession
    demoSession = demoRaceLog from rfl, hqueue] at hlost
  revert hlost
  decide

end LateReordering

end DevCommandCenter
