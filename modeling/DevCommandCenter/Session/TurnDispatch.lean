import DevCommandCenter.Library.Transition
import DevCommandCenter.Session.QueueRaces

/-! The turns of one session. Whoever starts a turn holds the session's provider transition from before
the turn is chosen until the provider has its input. -/

namespace DevCommandCenter

def activeTurnAfter (activeTurn : Option TurnId) (event : SessionEventRecord) : Option TurnId :=
  match event.kind with
  | .turnStarted turnId .. => some turnId
  | .turnCompleted turnId => if activeTurn = some turnId then none else activeTurn
  | .turnAborted turnId _ => if activeTurn = some turnId then none else activeTurn
  | .sessionCompleted | .sessionAborted _ | .conversationRewound .. => none
  | _ => activeTurn

def activeTurnId (history : List SessionEventRecord) : Option TurnId :=
  history.foldl activeTurnAfter none

/-- What holds the provider transition: a dispatch, whose turn is then a queued one, or a turn that
is sent directly. -/
inductive Transition
  | reading
  | preparing (turn : SendTurnInput) (queuedTurnId : Option String)
  | starting (turn : SendTurnInput) (queuedTurnId : Option String)
      (history : List SessionEventRecord)
  | announcing (queuedTurnId : Option String) (turnId : TurnId)
  | binding (queuedTurnId : Option String) (turnId : TurnId)
  | bound (queuedTurnId : Option String) (turnId : TurnId)
  | marking (queuedTurnId : String) (turnId : TurnId) (history : List SessionEventRecord)
  | sending (queuedTurnId : Option String) (turnId : TurnId)
  | aborting (queuedTurnId : Option String) (turnId : TurnId)
  deriving DecidableEq

inductive TurnCall
  | queueTurn (turn : SendTurnInput)
  | queueing (turn : SendTurnInput)
  | queueingFrom (turn : SendTurnInput) (history : List SessionEventRecord)
  | removeQueuedTurn (queuedTurnId : String)
  | removing (queuedTurnId : String) (history : List SessionEventRecord)
  | reorderTurnQueue (queuedTurnIds : List String)
  | reordering (queuedTurnIds : List String) (history : List SessionEventRecord)
  | completeTurn
  | completed
  | dispatchNextQueuedTurn
  | sendTurn (turn : SendTurnInput)
  | returned
  deriving DecidableEq

structure TurnDraw extends QueueDraw where
  model : Option String
  retryOfTurnId : Option TurnId
  fault : Option CoreError

inductive TurnAction
  | enter (call : TurnCall)
  | advance (i : ℕ) (draw : TurnDraw)
  | hold (draw : TurnDraw)
  | append (event : SessionEventRecord)
  | crash

inductive TurnAnswer
  | quiet
  | removed (queuedTurnId : String)
  | sent (queuedTurnId : String)
  | undispatched
  deriving DecidableEq

structure SessionTurns where
  world : TurnQueueWorld
  currentTurnId : Option TurnId
  transition : Option Transition
  calls : List TurnCall

def queuedTurnInput (queued : QueuedTurn) (sessionId : SessionId) : SendTurnInput where
  sessionId := sessionId
  prompt := queued.prompt
  toolInstructions := queued.toolInstructions
  planMode := queued.planMode
  effort := queued.effort
  fastMode := queued.fastMode
  approvalPolicy := queued.approvalPolicy
  evidence := queued.evidence

def dispatchFailure (queuedTurnId : Option String) : TurnAnswer :=
  if queuedTurnId.isSome then .undispatched else .quiet

def unusedEventId (world : TurnQueueWorld) (id : String) : Bool :=
  world.store.rows.all fun row => row.eventId ≠ id

def isTurnKind : SessionEventKind → Bool
  | .turnStarted .. | .turnCompleted _ => true
  | kind => isQueueKind kind

section Steps

variable (sessionId : SessionId)

def SessionTurns.log (s : SessionTurns) : List SessionEventRecord :=
  s.world.store.listEventsBySession sessionId

def SessionTurns.moves (s : SessionTurns) (i : ℕ) (call : TurnCall) : SessionTurns :=
  { s with calls := s.calls.set i call }

def TurnCall.enters : TurnCall → Bool
  | .queueTurn _ | .removeQueuedTurn _ | .reorderTurnQueue _ | .completeTurn
  | .dispatchNextQueuedTurn | .sendTurn _ => true
  | _ => false

def startedKind (draw : TurnDraw) (turn : SendTurnInput) (queuedTurnId : Option String) :
    SessionEventKind :=
  .turnStarted draw.turnId turn.prompt turn.planMode draw.model turn.evidence
    (if queuedTurnId.isSome then none else draw.retryOfTurnId) turn.approvalPolicy

def holderStep (s : SessionTurns) (draw : TurnDraw) : Transition → Option (TurnAnswer × SessionTurns)
  | .reading =>
      match draw.fault with
      | some _ => some (.undispatched, { s with transition := none })
      | none =>
          match projectTurnQueue (s.log sessionId) with
          | [] => some (.quiet, { s with transition := none })
          | queued :: _ => some (.quiet,
              { s with transition := some (.preparing (queuedTurnInput queued sessionId) queued.id) })
  | .preparing turn queuedTurnId =>
      if draw.fault.isSome || (s.log sessionId).isEmpty || (activeTurnId (s.log sessionId)).isSome then
        some (dispatchFailure queuedTurnId, { s with transition := none })
      else
        some (.quiet, { s with transition := some (.starting turn queuedTurnId (s.log sessionId)) })
  | .starting turn queuedTurnId history =>
      if unusedEventId s.world draw.eventId then
        match draw.fault with
        | some _ => some (dispatchFailure queuedTurnId, { s with transition := none })
        | none =>
            match appendEventCall (queueEvent draw.eventId draw.occurredAt sessionId history
                (startedKind draw turn queuedTurnId)) s.world with
            | (.ok _, world) => some (.quiet,
                { s with world := world, transition := some (.announcing queuedTurnId draw.turnId) })
            | (.error _, world) => some (dispatchFailure queuedTurnId,
                { s with world := world, transition := none })
      else none
  | .announcing queuedTurnId turnId =>
      -- the session is saved and the start published; a failure here aborts no turn
      match draw.fault with
      | some _ => some (dispatchFailure queuedTurnId, { s with transition := none })
      | none => some (.quiet, { s with transition := some (.binding queuedTurnId turnId) })
  | .binding queuedTurnId turnId =>
      match draw.fault with
      | some _ => some (.quiet, { s with transition := some (.aborting queuedTurnId turnId) })
      | none => some (.quiet,
          { s with currentTurnId := turnId, transition := some (.bound queuedTurnId turnId) })
  | .bound none turnId => some (.quiet, { s with transition := some (.sending none turnId) })
  | .bound (some queuedTurnId) turnId =>
      match draw.fault with
      | some _ => some (.quiet, { s with transition := some (.aborting queuedTurnId turnId) })
      | none => some (.quiet,
          { s with transition := some (.marking queuedTurnId turnId (s.log sessionId)) })
  | .marking queuedTurnId turnId history =>
      if unusedEventId s.world draw.eventId then
        match draw.fault with
        | some _ => some (.quiet, { s with transition := some (.aborting queuedTurnId turnId) })
        | none =>
            match markQueuedTurnDispatchedFrom draw.bus draw.eventId draw.occurredAt sessionId
                queuedTurnId turnId history s.world with
            | (.ok _, world) => some (.quiet,
                { s with world := world, transition := some (.sending queuedTurnId turnId) })
            | (.error _, world) => some (.quiet,
                { s with world := world, transition := some (.aborting queuedTurnId turnId) })
      else none
  | .sending queuedTurnId turnId =>
      -- a send that fails may have reached the provider
      some ((queuedTurnId.map TurnAnswer.sent).getD .quiet, { s with
        transition := if draw.fault.isSome then some (.aborting queuedTurnId turnId) else none })
  | .aborting queuedTurnId turnId =>
      match draw.fault with
      | some _ => some (dispatchFailure queuedTurnId, { s with transition := none })
      | none => some (dispatchFailure queuedTurnId, { s with
          world := (appendEventCall (queueEvent draw.eventId draw.occurredAt sessionId
            (s.log sessionId) (.turnAborted turnId none)) s.world).2
          currentTurnId := if s.currentTurnId = some turnId then none else s.currentTurnId
          transition := none })

def callStep (s : SessionTurns) (i : ℕ) (draw : TurnDraw) :
    TurnCall → Option (TurnAnswer × SessionTurns)
  | .queueTurn turn =>
      some (.quiet, s.moves i
        (if draw.fault.isSome || (activeTurnId (s.log sessionId)).isNone then .returned
        else .queueing turn))
  | .queueing turn =>
      some (.quiet, s.moves i
        (if draw.fault.isSome || Library.isBlank turn.prompt then .returned
        else .queueingFrom turn (s.log sessionId)))
  | .queueingFrom turn history =>
      if unusedEventId s.world draw.eventId && unusedQueuedTurnId s.world draw.queuedTurnId then
        match draw.fault with
        | some _ => some (.quiet, s.moves i .returned)
        | none => some (.quiet, { s.moves i .returned with
            world := (queueTurnFrom draw.bus draw.queuedTurnId draw.eventId draw.createdAt
              draw.occurredAt { turn with sessionId := sessionId } history s.world).2 })
      else none
  | .removeQueuedTurn queuedTurnId =>
      some (.quiet, s.moves i
        (if draw.fault.isSome then .returned else .removing queuedTurnId (s.log sessionId)))
  | .removing queuedTurnId history =>
      if unusedEventId s.world draw.eventId then
        match draw.fault with
        | some _ => some (.quiet, s.moves i .returned)
        | none =>
            match removeQueuedTurnFrom draw.bus draw.eventId draw.occurredAt
                ⟨sessionId, queuedTurnId⟩ history s.world with
            | (.ok _, world) =>
                some (.removed queuedTurnId, { s.moves i .returned with world := world })
            | (.error _, world) => some (.quiet, { s.moves i .returned with world := world })
      else none
  | .reorderTurnQueue queuedTurnIds =>
      some (.quiet, s.moves i
        (if draw.fault.isSome then .returned else .reordering queuedTurnIds (s.log sessionId)))
  | .reordering queuedTurnIds history =>
      if unusedEventId s.world draw.eventId then
        match draw.fault with
        | some _ => some (.quiet, s.moves i .returned)
        | none => some (.quiet, { s.moves i .returned with
            world := (reorderTurnQueueFrom draw.bus draw.eventId draw.occurredAt
              ⟨sessionId, queuedTurnIds⟩ history s.world).2 })
      else none
  | .completeTurn =>
      match draw.fault, s.currentTurnId with
      | none, some turnId =>
          match appendEventCall (queueEvent draw.eventId draw.occurredAt sessionId (s.log sessionId)
              (.turnCompleted turnId)) s.world with
          | (.ok (.inserted _), world) =>
              some (.quiet, { s.moves i .completed with world := world, currentTurnId := none })
          | (.ok (.existing _), world) =>
              some (.quiet, { s.moves i .returned with world := world, currentTurnId := none })
          | (.error _, world) => some (.quiet, { s.moves i .returned with world := world })
      | _, _ => some (.quiet, s.moves i .returned)
  | .completed =>
      -- a fault here is also an objective that refuses the dispatch
      match draw.fault with
      | some _ => some (.undispatched, s.moves i .returned)
      | none => some (.quiet, s.moves i .dispatchNextQueuedTurn)
  | .dispatchNextQueuedTurn =>
      match draw.fault, s.transition with
      | some _, _ => some (.undispatched, s.moves i .returned)
      | none, none => some (.quiet, { s.moves i .returned with transition := some .reading })
      | none, some _ => none
  | .sendTurn turn =>
      match draw.fault, s.transition with
      | some _, _ => some (.quiet, s.moves i .returned)
      | none, none =>
          some (.quiet, { s.moves i .returned with transition := some (.preparing turn none) })
      | none, some _ => none
  | .returned => none

def TurnCall.dispatches : TurnCall → Bool
  | .completed | .dispatchNextQueuedTurn => true
  | _ => false

def Transition.dispatches : Transition → Bool
  | .reading => true
  | .preparing _ queuedTurnId | .starting _ queuedTurnId _ => queuedTurnId.isSome
  | _ => false

def SessionTurns.dispatchUnderWay (s : SessionTurns) : Bool :=
  s.calls.any TurnCall.dispatches || s.transition.any Transition.dispatches

def sessionTurns : Library.System SessionTurns TurnAction TurnAnswer where
  start := {
    world := { store := .empty, published := [] }
    currentTurnId := none
    transition := none
    calls := [] }
  step s
    | .enter call =>
        if call.enters then some (.quiet, { s with calls := s.calls ++ [call] }) else none
    | .advance i draw => s.calls[i]?.bind (callStep sessionId s i draw)
    | .hold draw => s.transition.bind (holderStep sessionId s draw)
    | .append event =>
        if event.sessionId = sessionId ∧ isTurnKind event.kind then none
        else some (.quiet, { s with world := (appendEventCall event s.world).2 })
    | .crash => some (if s.dispatchUnderWay then .undispatched else .quiet,
        { s with currentTurnId := none, transition := none, calls := [] })

end Steps

def demoTurnDraw (eventId turnId : String) : TurnDraw where
  queuedTurnId := "a"
  eventId := eventId
  turnId := ⟨turnId⟩
  createdAt := "2026-08-02T10:00:00Z"
  occurredAt := "2026-08-02T10:00:00Z"
  bus := fun _ => .ok ()
  model := none
  retryOfTurnId := none
  fault := none

def demoRunning : List TurnAction :=
  [.append (demoEvent "event-1"
      (.sessionStarted ⟨"workspace-1"⟩ ⟨"project-1"⟩ "codex" none none)),
    .enter (.sendTurn (demoPrompt "prompt")),
    .advance 0 (demoTurnDraw "" ""),
    .hold (demoTurnDraw "" ""),
    .hold (demoTurnDraw "event-2" "turn-1"),
    .hold (demoTurnDraw "" ""),
    .hold (demoTurnDraw "" ""),
    .hold (demoTurnDraw "" ""),
    .hold (demoTurnDraw "" "")]

def demoQueues : List TurnAction :=
  [.enter (.queueTurn (demoPrompt "prompt a")),
    .advance 1 (demoTurnDraw "" ""),
    .advance 1 (demoTurnDraw "" ""),
    .advance 1 (demoTurnDraw "event-3" "")]

def demoCompletes (eventId : String) (i : ℕ) : List TurnAction :=
  [.enter .completeTurn,
    .advance i (demoTurnDraw eventId ""),
    .advance i (demoTurnDraw "" ""),
    .advance i (demoTurnDraw "" ""),
    .hold (demoTurnDraw "" "")]

def demoSends : List TurnAction :=
  [.hold (demoTurnDraw "" ""),
    .hold (demoTurnDraw "event-6" "turn-2"),
    .hold (demoTurnDraw "" ""),
    .hold (demoTurnDraw "" ""),
    .hold (demoTurnDraw "" ""),
    .hold (demoTurnDraw "event-7" ""),
    .hold (demoTurnDraw "" "")]

end DevCommandCenter
