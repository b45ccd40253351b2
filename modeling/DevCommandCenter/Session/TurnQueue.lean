import DevCommandCenter.Library.Call
import DevCommandCenter.Library.SortDedup
import DevCommandCenter.Library.Text
import DevCommandCenter.Session.EventStore
import Mathlib.Data.List.Perm.Basic
import Mathlib.Data.String.Basic

/-! The queue of prompts waiting for their turn, projected from the session's events. -/

namespace DevCommandCenter

inductive CoreEvent
  | sessionTurnQueued (sessionId : String) (queuedTurn : QueuedTurn)
  | sessionQueuedTurnRemoved (sessionId : String) (queuedTurnId : String)
  | sessionTurnQueueReordered (sessionId : String) (queuedTurnIds : List String)
  | sessionQueuedTurnDispatched (sessionId : String) (queuedTurnId : String) (turnId : String)
  | sessionConversationRewound (sessionId anchorTurnId : String) (removedTurnIds : List String)
      (providerContext : RewindProviderContext) (restoredTurnIds : List String)
  deriving DecidableEq, Repr

structure SendTurnInput where
  sessionId : SessionId
  prompt : String
  toolInstructions : Option String
  planMode : Option Bool
  effort : Option String
  fastMode : Option Bool
  approvalPolicy : Option ProviderApprovalPolicy
  evidence : Option TurnEvidenceSummary
  deriving DecidableEq, Repr

structure RemoveQueuedTurnInput where
  sessionId : SessionId
  queuedTurnId : String
  deriving DecidableEq, Repr

structure ReorderTurnQueueInput where
  sessionId : SessionId
  queuedTurnIds : List String
  deriving DecidableEq, Repr

def reorderQueue (queuedTurnIds : List String) (queue : List QueuedTurn) : List QueuedTurn :=
  queuedTurnIds.filterMap fun id => queue.find? fun turn => turn.id = id

def projectQueueEvent (queue : List QueuedTurn) (event : SessionEventRecord) : List QueuedTurn :=
  match event.kind with
  | .turnQueued queuedTurn => queue ++ [queuedTurn]
  | .queuedTurnRemoved queuedTurnId => queue.filter fun turn => turn.id ≠ queuedTurnId
  | .queuedTurnDispatched queuedTurnId _ => queue.filter fun turn => turn.id ≠ queuedTurnId
  | .turnQueueReordered queuedTurnIds => reorderQueue queuedTurnIds queue
  | _ => queue

def projectTurnQueue (history : List SessionEventRecord) : List QueuedTurn :=
  history.foldl projectQueueEvent []

def queuedTurnIdsOf (queue : List QueuedTurn) : List String :=
  queue.map QueuedTurn.id

structure TurnQueueWorld where
  store : EventStore
  published : List (SessionEventRecord × CoreEvent)

abbrev QueueCall (α : Type) := Library.Call TurnQueueWorld CoreError α

section Calls

-- `bus` is what the event bus answers to each event it is handed.
variable (bus : CoreEvent → Except CoreError Unit)

def publishDurableSession (record : SessionEventRecord) (event : CoreEvent) : QueueCall Unit := do
  .update fun world => { world with published := world.published ++ [(record, event)] }
  .liftExcept (bus event)

def listEvents (sessionId : SessionId) : QueueCall (List SessionEventRecord) := do
  let world ← .read
  return world.store.listEventsBySession sessionId

def appendEventCall (event : SessionEventRecord) : QueueCall AppendEventOutcome :=
  fun world =>
    ((world.store.appendEvent event).1, { world with store := (world.store.appendEvent event).2 })

def append (eventId occurredAt : String) (sessionId : SessionId) (history : List SessionEventRecord)
    (kind : SessionEventKind) : QueueCall (SessionEventRecord × Bool) := do
  let event : SessionEventRecord := {
    eventId := eventId
    sessionId := sessionId
    sequence := (history.getLast?.map fun event => event.sequence + 1).getD 1
    occurredAt := occurredAt
    kind := kind }
  let outcome ← appendEventCall event
  match outcome with
  | .inserted event => return (event, true)
  | .existing event => return (event, false)

def listTurnQueue (sessionId : SessionId) : QueueCall (List QueuedTurn) := do
  return projectTurnQueue (← listEvents sessionId)

/-- The check compares the sorted current ids with the sorted and deduplicated requested ids, but the
event carries the list as it was requested. -/
def reorderTurnQueue (eventId occurredAt : String) (input : ReorderTurnQueueInput) :
    QueueCall (List QueuedTurn) := do
  let history ← listEvents input.sessionId
  let currentIds := Library.sorted (queuedTurnIdsOf (projectTurnQueue history))
  let requestedIds := Library.sortDedup input.queuedTurnIds
  if currentIds ≠ requestedIds then
    .fail (.invalidInput "queue order must contain every queued turn exactly once")
  let (event, inserted) ← append eventId occurredAt input.sessionId history
    (.turnQueueReordered input.queuedTurnIds)
  if inserted then
    publishDurableSession bus event
      (.sessionTurnQueueReordered input.sessionId.value input.queuedTurnIds)
  return projectTurnQueue (history ++ [event])

end Calls

lemma projectTurnQueue_append (history : List SessionEventRecord) (event : SessionEventRecord) :
    projectTurnQueue (history ++ [event]) = projectQueueEvent (projectTurnQueue history) event := by
  simp [projectTurnQueue]

lemma find?_id_eq {queue : List QueuedTurn} {id : String} {turn : QueuedTurn}
    (h : queue.find? (fun turn => turn.id = id) = some turn) : turn ∈ queue ∧ turn.id = id :=
  ⟨List.mem_of_find?_eq_some h, by simpa using List.find?_some h⟩

lemma exists_find?_id {queue : List QueuedTurn} {id : String} (h : id ∈ queuedTurnIdsOf queue) :
    ∃ turn, queue.find? (fun turn => turn.id = id) = some turn := by
  obtain ⟨turn, hturn, rfl⟩ := List.mem_map.mp h
  cases hfind : queue.find? fun turn' => turn'.id = turn.id with
  | some found => exact ⟨found, rfl⟩
  | none => simpa using List.find?_eq_none.mp hfind turn hturn

lemma queuedTurnIdsOf_reorderQueue {ids : List String} {queue : List QueuedTurn}
    (h : ∀ id ∈ ids, id ∈ queuedTurnIdsOf queue) : queuedTurnIdsOf (reorderQueue ids queue) = ids := by
  induction ids with
  | nil => rfl
  | cons id ids ih =>
      obtain ⟨turn, hfind⟩ := exists_find?_id (h id (List.mem_cons_self ..))
      have htail := ih fun id' hid' => h id' (List.mem_cons_of_mem _ hid')
      simp only [reorderQueue, List.filterMap_cons, hfind, queuedTurnIdsOf, List.map_cons] at htail ⊢
      rw [(find?_id_eq hfind).2, htail]

lemma mem_of_mem_reorderQueue {ids : List String} {queue : List QueuedTurn} {turn : QueuedTurn}
    (h : turn ∈ reorderQueue ids queue) : turn ∈ queue := by
  obtain ⟨id, -, hfind⟩ := List.mem_filterMap.mp h
  exact (find?_id_eq hfind).1

lemma reorderQueue_perm_iff {ids : List String} {queue : List QueuedTurn}
    (hqueue : (queuedTurnIdsOf queue).Nodup) (hmem : ∀ id, id ∈ queuedTurnIdsOf queue ↔ id ∈ ids) :
    (reorderQueue ids queue).Perm queue ↔ ids.Nodup := by
  have hids : queuedTurnIdsOf (reorderQueue ids queue) = ids :=
    queuedTurnIdsOf_reorderQueue fun id hid => (hmem id).mpr hid
  constructor
  · intro hperm
    have hperm_ids : ids.Perm (queuedTurnIdsOf queue) := hids ▸ hperm.map QueuedTurn.id
    exact hperm_ids.nodup_iff.mpr hqueue
  · intro hnodup
    have hreordered : (reorderQueue ids queue).Nodup := (hids.symm ▸ hnodup).of_map
    refine (List.perm_ext_iff_of_nodup hreordered hqueue.of_map).mpr fun turn =>
      ⟨mem_of_mem_reorderQueue, fun hturn => ?_⟩
    have hid : turn.id ∈ queuedTurnIdsOf (reorderQueue ids queue) := by
      rw [hids, ← hmem]
      exact List.mem_map_of_mem hturn
    obtain ⟨turn', hturn', hsame⟩ := List.mem_map.mp hid
    have heq : turn' = turn := List.inj_on_of_nodup_map hqueue (mem_of_mem_reorderQueue hturn') hturn hsame
    exact heq ▸ hturn'

section Reorder

variable {bus : CoreEvent → Except CoreError Unit} {eventId occurredAt : String}

def queueEvent (eventId occurredAt : String) (sessionId : SessionId)
    (history : List SessionEventRecord) (kind : SessionEventKind) : SessionEventRecord where
  eventId := eventId
  sessionId := sessionId
  sequence := (history.getLast?.map fun event => event.sequence + 1).getD 1
  occurredAt := occurredAt
  kind := kind

lemma append_ok {sessionId : SessionId} {history : List SessionEventRecord} {kind : SessionEventKind}
    {world world' : TurnQueueWorld} {event : SessionEventRecord} {inserted : Bool}
    (h : append eventId occurredAt sessionId history kind world = (.ok (event, inserted), world')) :
    world.store.appendEvent (queueEvent eventId occurredAt sessionId history kind) =
      (.ok (if inserted then .inserted event else .existing event), world'.store) := by
  obtain ⟨outcome, world₁, hcall, h⟩ := Library.Call.bind_ok_iff.mp h
  simp only [appendEventCall, Prod.mk.injEq] at hcall
  obtain ⟨houtcome, rfl⟩ := hcall
  cases outcome with
  | inserted event' =>
      cases h
      exact Prod.ext houtcome rfl
  | existing event' =>
      cases h
      exact Prod.ext houtcome rfl

lemma publishDurableSession_store {record : SessionEventRecord} {event : CoreEvent}
    {world world' : TurnQueueWorld} {result : Except CoreError Unit}
    (h : publishDurableSession bus record event world = (result, world')) :
    world'.store = world.store := by
  simp only [publishDurableSession, Library.Call.bind_apply, Library.Call.update_apply] at h
  cases hbus : bus event with
  | ok _ =>
      rw [hbus] at h
      cases h
      rfl
  | error error =>
      rw [hbus] at h
      cases h
      rfl

lemma reorderTurnQueue_ok {input : ReorderTurnQueueInput} {world world' : TurnQueueWorld}
    {queue : List QueuedTurn}
    (h : reorderTurnQueue bus eventId occurredAt input world = (.ok queue, world')) :
    ∃ (event : SessionEventRecord) (inserted : Bool),
      Library.sorted (queuedTurnIdsOf (projectTurnQueue
        (world.store.listEventsBySession input.sessionId))) = Library.sortDedup input.queuedTurnIds ∧
      world.store.appendEvent (queueEvent eventId occurredAt input.sessionId
          (world.store.listEventsBySession input.sessionId)
          (.turnQueueReordered input.queuedTurnIds)) =
        (.ok (if inserted then .inserted event else .existing event), world'.store) ∧
      queue = projectTurnQueue (world.store.listEventsBySession input.sessionId ++ [event]) := by
  obtain ⟨history, world₁, hlist, h⟩ := Library.Call.bind_ok_iff.mp h
  cases hlist
  by_cases hids : Library.sorted (queuedTurnIdsOf (projectTurnQueue
      (world.store.listEventsBySession input.sessionId))) = Library.sortDedup input.queuedTurnIds
  · simp only [hids, ne_eq, not_true_eq_false, if_false] at h
    obtain ⟨⟨event, inserted⟩, world₂, happend, h⟩ := Library.Call.bind_ok_iff.mp h
    refine ⟨event, inserted, hids, ?_⟩
    cases inserted with
    | true =>
        obtain ⟨_, world₃, hpublish, h⟩ := Library.Call.bind_ok_iff.mp h
        cases h
        exact ⟨publishDurableSession_store hpublish ▸ append_ok happend, rfl⟩
    | false =>
        cases h
        exact ⟨append_ok happend, rfl⟩
  · simp only [ne_eq, hids, not_false_eq_true, if_true] at h
    cases h

theorem reorderTurnQueue_permutation_iff {input : ReorderTurnQueueInput}
    {world world' : TurnQueueWorld} {queue : List QueuedTurn}
    (haccept : reorderTurnQueue bus eventId occurredAt input world = (.ok queue, world'))
    (hfresh : ∀ row ∈ world.store.rows, row.eventId ≠ eventId) :
    (∃ event, event.kind = .turnQueueReordered input.queuedTurnIds ∧
      world'.store.listEventsBySession input.sessionId =
        world.store.listEventsBySession input.sessionId ++ [event]) ∧
    ((projectTurnQueue (world'.store.listEventsBySession input.sessionId)).Perm
        (projectTurnQueue (world.store.listEventsBySession input.sessionId)) ↔
      input.queuedTurnIds.Nodup) := by
  obtain ⟨event, inserted, hids, happend, -⟩ := reorderTurnQueue_ok haccept
  have houtcome := congrArg Prod.fst happend
  have hinserted := appendEvent_fresh hfresh rfl houtcome
  have hafter := listEventsBySession_appendEvent (houtcome.trans (congrArg Except.ok hinserted))
  have hstore := congrArg Prod.snd happend
  dsimp only at hstore
  rw [hstore] at hafter
  refine ⟨⟨_, rfl, hafter⟩, ?_⟩
  obtain ⟨hqueue, hmem⟩ := Library.sorted_eq_sortDedup_iff.mp hids
  have hproject := congrArg projectTurnQueue hafter
  rw [projectTurnQueue_append] at hproject
  exact hproject ▸ reorderQueue_perm_iff hqueue hmem

end Reorder

section OneQueuedTurn

def demoQueuedTurn : QueuedTurn where
  id := "a"
  sessionId := demoSession
  prompt := "prompt a"
  toolInstructions := none
  planMode := none
  effort := none
  fastMode := none
  approvalPolicy := none
  evidence := none
  createdAt := "2026-08-02T10:00:00Z"

def demoWorld : TurnQueueWorld where
  store := (((EventStore.empty.appendEvent (demoEvent "event-1"
    (.sessionStarted ⟨"workspace-1"⟩ ⟨"project-1"⟩ "codex" none none))).2).appendEvent
      (demoEvent "event-2" (.turnQueued demoQueuedTurn))).2
  published := []

def demoReordered (queuedTurnIds : List String) :
    Except CoreError (List QueuedTurn) × TurnQueueWorld :=
  reorderTurnQueue (fun _ => .ok ()) "event-3" "2026-08-02T10:01:00Z"
    ⟨demoSession, queuedTurnIds⟩ demoWorld

theorem reorderTurnQueue_permutation_iff_demo :
    (projectTurnQueue ((demoReordered ["a"]).2.store.listEventsBySession demoSession)).Perm
      (projectTurnQueue (demoWorld.store.listEventsBySession demoSession)) :=
  (reorderTurnQueue_permutation_iff
    (show demoReordered ["a"] = (.ok [demoQueuedTurn], (demoReordered ["a"]).2) from rfl)
    (by decide)).2.mpr (by decide)

theorem reorderTurnQueue_duplicates :
    (demoReordered ["a", "a"]).1 = .ok [demoQueuedTurn, demoQueuedTurn] ∧
    projectTurnQueue (demoWorld.store.listEventsBySession demoSession) = [demoQueuedTurn] ∧
    ¬(projectTurnQueue ((demoReordered ["a", "a"]).2.store.listEventsBySession demoSession)).Perm
      (projectTurnQueue (demoWorld.store.listEventsBySession demoSession)) := by
  refine ⟨by decide, by decide, by decide⟩

end OneQueuedTurn

end DevCommandCenter
