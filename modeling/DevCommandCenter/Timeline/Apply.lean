import DevCommandCenter.Timeline.Project

/-! One event applied to the projection, by the kind of the event. -/

namespace DevCommandCenter.Timeline

open Library

namespace Projector

def applyTurnStarted (projector : Projector) (turn prompt : String) (planMode : Option Bool)
    (model : Option String) (evidence : Option TurnEvidenceSummary) (retryOfTurnId : Option TurnId)
    (occurredAt : String) : Projector :=
  let begun : Projector := { projector with
    latestTurnId := some turn
    turnModel := (projector.turnModel.filter fun (id, _) => id ≠ turn) ++ [(turn, model)]
    turnStartedAt := projector.turnStartedAt.insert turn occurredAt }
  begun.push
    { TimelineMessage.new ("user-" ++ projector.sessionId ++ "-" ++ turn) .user "User" prompt with
      turnId := some turn
      createdAt := some occurredAt
      planMode := planMode == some true
      evidence := evidence
      retryOfTurnId := retryOfTurnId.map TurnId.value }

def applyTurnSteered (projector : Projector) (turn prompt occurredAt : String) : Projector :=
  let count := (projector.steers.lookup turn).getD 0 + 1
  { projector with steers := projector.steers.insert turn count }.push
    { TimelineMessage.new
        ("user-steer-" ++ projector.sessionId ++ "-" ++ turn ++ "-" ++ toString count) .user "User"
        prompt with
      createdAt := some occurredAt }

def applyTurnDelta (projector : Projector) (turn content occurredAt : String) : Projector :=
  let (index, ensured) := projector.ensureAssistant turn (projector.startedAt turn occurredAt)
  let running := ensured.isRunning turn
  let status := (ensured.abortedTurns.lookup turn).map (ensured.incomplete turn)
  let paragraph := !content.isEmpty && decide (turn ∈ ensured.textBreaks)
  -- the break is only taken out by text
  { ensured with
    textBreaks := if content.isEmpty then ensured.textBreaks else ensured.textBreaks.erase turn
    }.modifyMessage index fun message =>
      let separated := if paragraph then startParagraph message.content content else message.content
      { message with
        content := separated ++ content
        streaming := if status.isSome then false else running
        status := status.or message.status }

def applyAssistantMessageStarted (projector : Projector) (turn messageId : String)
    (phase : AssistantMessagePhase) (occurredAt : String) : Projector :=
  if (turn, messageId) ∈ projector.completedAssistantItems then projector
  else
    let (index, ensured) := projector.ensureAssistantItem turn messageId phase true
      (projector.startedAt turn occurredAt)
    ensured.markActive turn index

def applyAssistantMessageDelta (projector : Projector) (turn messageId content occurredAt : String) :
    Projector :=
  if (turn, messageId) ∈ projector.completedAssistantItems then projector
  else
    let (index, ensured) := projector.ensureAssistantItem turn messageId .unknown true
      (projector.startedAt turn occurredAt)
    let running := ensured.isRunning turn
    (ensured.modifyMessage index fun message =>
      { message with
        content := message.content ++ content
        streaming := running }).markActive turn index

def applyAssistantMessageCompleted (projector : Projector) (turn messageId : String)
    (phase : AssistantMessagePhase) (content : Option String) (occurredAt : String) : Projector :=
  let exact := projector.assistantItems.lookup (turn, messageId)
  let sole :=
    match exact, (projector.activeItemsByTurn.lookup turn).getD [] with
    | none, [active] => some active
    | _, _ => none
  let lifecycle := sole.filter fun index =>
    let current := (projector.messages[index]?).bind TimelineMessage.assistantPhase
    current.isNone || current == some .unknown || phase == .unknown || current == some phase
  let (index, ensured) :=
    match exact, lifecycle with
    | some index, _ => (index, projector)
    | none, some index =>
        (index, { projector with
          assistantItems := projector.assistantItems.insert (turn, messageId) index })
    | none, none =>
        projector.ensureAssistantItem turn messageId phase false (projector.startedAt turn occurredAt)
  let finished := ensured.modifyMessage index fun message =>
    { message with
      assistantPhase := some phase
      content := content.getD message.content
      streaming := false }
  let aliases := (finished.assistantItems.entries.filter fun entry => entry.2 = index).map Sigma.fst
  { finished with
    completedAssistantItems := finished.completedAssistantItems ∪ aliases.toFinset
    activeItemsByTurn :=
      match finished.activeItemsByTurn.lookup turn with
      | some active => finished.activeItemsByTurn.insert turn (active.filter fun item => item ≠ index)
      | none => finished.activeItemsByTurn }

def applyReasoningStarted (projector : Projector) (turn reasoningId : String) (label : Option String)
    (occurredAt : String) : Projector :=
  let broken := projector.insertTextBreak turn
  if (turn, reasoningId) ∈ broken.completedReasoningItems then broken
  else
    let (index, ensured) := broken.ensureAssistant turn (broken.startedAt turn occurredAt)
    ensured.getOrAdd index
      (.reasoning reasoningId (some (label.getD "Thinking")) "" true (some occurredAt)) id

def applyReasoningDelta (projector : Projector) (turn reasoningId content occurredAt : String) :
    Projector :=
  if (turn, reasoningId) ∈ projector.completedReasoningItems then projector
  else
    let (index, ensured) := projector.ensureAssistant turn (projector.startedAt turn occurredAt)
    ensured.getOrAdd index (.reasoning reasoningId (some "Thinking") "" true (some occurredAt))
      fun
        | .reasoning id label text _ createdAt =>
            .reasoning id label (text ++ content) true (createdAt.or (some occurredAt))
        | item => item

def applyReasoningCompleted (projector : Projector) (turn reasoningId : String) : Projector :=
  { projector with
    completedReasoningItems := insert (turn, reasoningId) projector.completedReasoningItems
    }.modifyBucketAnnotations turn
      fun
        | .reasoning id label content streaming createdAt =>
            .reasoning id label content (if id = reasoningId then false else streaming) createdAt
        | item => item

def applyToolCallStarted (projector : Projector) (turn toolCallId action : String)
    (command file : Option String) (occurredAt : String) : Projector :=
  let broken := projector.insertTextBreak turn
  if isHiddenToolAction action then broken
  else if (turn, toolCallId) ∈ broken.completedToolCallItems then broken
  else
    let (index, ensured) := broken.ensureAssistant turn (broken.startedAt turn occurredAt)
    ensured.getOrAdd index
      (.toolCall {
        id := toolCallId
        action := action
        command := command
        file := file
        content := ""
        detail := none
        streaming := true
        createdAt := some occurredAt
        failure := none }) id

def applyToolCallDelta (projector : Projector) (turn toolCallId content occurredAt : String) :
    Projector :=
  if (turn, toolCallId) ∈ projector.completedToolCallItems then projector
  else
    (projector.ensureAssistant turn (projector.startedAt turn occurredAt)).2.modifyToolCall turn
      toolCallId fun call =>
        { call with
          content := call.content ++ content
          streaming := true
          createdAt := call.createdAt.or (some occurredAt) }

def applyToolCallCompleted (projector : Projector) (turn toolCallId : String)
    (detail : Option ToolCallDetail) : Projector :=
  { projector with
    completedToolCallItems := insert (turn, toolCallId) projector.completedToolCallItems
    }.modifyToolCall turn toolCallId fun call =>
      mergeToolCallDetail detail { call with streaming := false }

def applyToolCallFailed (projector : Projector) (turn toolCallId : String) (reason : Option String)
    (detail : Option ToolCallDetail) : Projector :=
  { projector with
    completedToolCallItems := insert (turn, toolCallId) projector.completedToolCallItems
    }.modifyToolCall turn toolCallId fun call =>
      mergeToolCallDetail detail
        { call with
          streaming := false
          failure := some (reason.getD "Tool call failed") }

def applyUserInputRequested (projector : Projector) (turn requestId : String)
    (questions : List ProviderUserInputQuestion) (occurredAt : String) : Projector :=
  let (index, ensured) := projector.ensureAssistant turn (projector.startedAt turn occurredAt)
  ensured.getOrAdd index (.userInput requestId questions [] true (some occurredAt)) id

def applyUserInputResolved (projector : Projector) (turn requestId : String)
    (answers : List ProviderUserInputAnswer) (occurredAt : String) : Projector :=
  projector.modifyBucketAnnotations turn
    fun
      | .userInput id questions stored streaming createdAt =>
          if id = requestId then
            .userInput id questions answers false (createdAt.or (some occurredAt))
          else .userInput id questions stored streaming createdAt
      | item => item

def applyPermissionRequested (projector : Projector) (turn requestId toolName : String)
    (title description command file : Option String) (occurredAt : String) : Projector :=
  let (index, ensured) := projector.ensureAssistant turn (projector.startedAt turn occurredAt)
  ensured.getOrAdd index
    (.approval requestId toolName title description command file none true (some occurredAt)) id

def applyPermissionResolved (projector : Projector) (turn requestId behavior occurredAt : String) :
    Projector :=
  projector.modifyBucketAnnotations turn
    fun
      | .approval id toolName title description command file stored streaming createdAt =>
          if id = requestId then
            .approval id toolName title description command file (some behavior) false
              (createdAt.or (some occurredAt))
          else .approval id toolName title description command file stored streaming createdAt
      | item => item

def applyNativeSubagentActivity (projector : Projector) (turn : String) (activity : NativeSubagent)
    (occurredAt : String) : Projector :=
  let (index, ensured) := projector.ensureAssistant turn (projector.startedAt turn occurredAt)
  let correlation := activity.agentThreadId.getD activity.id
  let requested := ensured.requestedSubagentModels.lookup correlation
  let confirmed := ensured.confirmedSubagentModels.lookup correlation
  let same : Annotation → Bool :=
    fun
      | .nativeSubagent agent =>
          agent.id == activity.id ||
            (activity.agentThreadId.isSome && agent.agentThreadId == activity.agentThreadId) ||
            (activity.agentId.isSome && agent.agentId == activity.agentId)
      | _ => false
  let updated : Annotation → Annotation :=
    fun
      | .nativeSubagent agent =>
          .nativeSubagent { agent with
            agentId := activity.agentId.or agent.agentId
            agentThreadId := activity.agentThreadId.or agent.agentThreadId
            path := activity.path.or agent.path
            name := activity.name.or agent.name
            role := activity.role.or agent.role
            model := confirmed.or (activity.model.or agent.model)
            requestedModel := requested.or agent.requestedModel
            status := activity.status
            createdAt := agent.createdAt.or (some occurredAt) }
      | item => item
  let added : Annotation := .nativeSubagent { activity with
    model := confirmed.or activity.model
    requestedModel := requested
    streaming := false
    createdAt := some occurredAt }
  ensured.modifyMessage index fun message =>
    { message with
      annotations :=
        if message.annotations.any same then modifyFirst same updated message.annotations
        else message.annotations ++ [added] }

def applyNativeSubagentModel (projector : Projector) (turn correlationId model : String)
    (confirmed : Bool) : Projector :=
  let known :=
    if confirmed then
      { projector with
        confirmedSubagentModels := projector.confirmedSubagentModels.insert correlationId model }
    else
      { projector with
        requestedSubagentModels := projector.requestedSubagentModels.insert correlationId model }
  match known.assistantBuckets.lookup turn with
  | none => known
  | some index =>
      known.modifyMessage index fun message =>
        { message with
          annotations := modifyFirst
            (fun
              | .nativeSubagent agent =>
                  agent.agentThreadId == some correlationId || agent.id == correlationId
              | _ => false)
            (fun
              | .nativeSubagent agent =>
                  .nativeSubagent
                    (if confirmed then { agent with model := some model }
                    else { agent with requestedModel := some model })
              | item => item)
            message.annotations }

def applyModelEffective (projector : Projector) (turn model : String) : Projector :=
  { projector with
    turnModel := (projector.turnModel.filter fun (id, _) => id ≠ turn) ++ [(turn, some model)] }

def settleRow (message : TimelineMessage) : TimelineMessage :=
  { message with
    streaming := false
    annotations := message.annotations.map ( Annotation.setStreaming false) }

def applyTurnCompleted (projector : Projector) (turn occurredAt : String) : Projector :=
  let ended := { projector with
    completedTurns := insert turn projector.completedTurns
    turnEndedAt := projector.turnEndedAt.insert turn occurredAt }
  ended.modifyMessages (ended.rowsOfTurn turn) settleRow

def applyTurnAborted (projector : Projector) (turn : String) (reason : Option String)
    (occurredAt : String) : Projector :=
  let reason := reason.getD "Turn aborted"
  let ended := { projector with
    abortedTurns := projector.abortedTurns.insert turn reason
    turnEndedAt := projector.turnEndedAt.insert turn occurredAt }
  let (rows, placed) :=
    if (ended.rowsOfTurn turn).isEmpty && decide (turn ∈ ended.turnStartedAt) then
      let (index, ensured) := ended.ensureAssistant turn (ended.startedAt turn occurredAt)
      ([index], ensured)
    else (ended.rowsOfTurn turn, ended)
  let status := placed.incomplete turn reason
  placed.modifyMessages rows fun message => { settleRow message with status := some status }

def applyUsageLimitReached (projector : Projector) (turn : String) : Projector :=
  { projector with
    usageLimitedTurns := insert turn projector.usageLimitedTurns
    lastUsageLimitedTurn := some turn }

def applyUsageLimitResumed (projector : Projector) (accountLabel : Option String) : Projector :=
  match accountLabel, projector.lastUsageLimitedTurn with
  | some account, some turn =>
      { projector with
        messages := projector.messages.map fun message =>
          if message.turnId = some turn then
            { message with
              status := message.status.map fun status =>
                if status.usageLimited then { status with continuedOnAccount := some account }
                else status }
          else message }
  | _, _ => projector

def applySessionStarted (projector : Projector) (forkedFrom : Option ForkOrigin)
    (occurredAt : String) : Projector :=
  match forkedFrom with
  | none => projector
  | some origin =>
      projector.push
        { TimelineMessage.new ("session.started-" ++ toString projector.messages.length) .system
            "session.forked"
            ("Forked from an earlier thread" ++
              (if origin.turnId.isSome then " at one of its turns" else "") ++
              ". A bounded snapshot of that thread up to the fork point follows the first turn here;" ++
              " nothing after it was carried over.") with
          createdAt := some occurredAt
          action := some ⟨origin.sessionId.value, "Open source thread"⟩ }

def delegationRow (delegationId text : String) (latestTurnId : Option String) (occurredAt : String) :
    TimelineMessage :=
  { TimelineMessage.new ("delegation-" ++ delegationId) .system "delegation" text with
    createdAt := some occurredAt
    delegation := some ⟨delegationId, .requested, none, none, none⟩
    delegationTurnId := latestTurnId }

def updateDelegation (kind : SessionEventKind) (text : String) (message : TimelineMessage) :
    TimelineMessage :=
  match message.delegation with
  | none => message
  | some delegation =>
      match kind with
      | .delegationStarted _ childSessionId =>
          let child := (childSessionId.map SessionId.value).or delegation.childSessionId
          { message with
            delegation := some { delegation with phase := .running, childSessionId := child }
            action :=
              (child.map fun child => (⟨child, "Open child session"⟩ : OpenSession)).or message.action
            content := text }
      | .delegationDelta .. => { message with content := text }
      | .delegationCompleted _ summary =>
          { message with
            delegation := some { delegation with phase := .completed, summary := summary }
            content := text }
      | .delegationFailed _ reason =>
          { message with
            delegation := some { delegation with phase := .failed, reason := reason }
            content := text }
      | .delegationCancelled _ reason =>
          { message with
            delegation := some { delegation with phase := .cancelled, reason := reason }
            content := text }
      | _ => message

def applyDelegation (projector : Projector) (delegationId : String) (kind : SessionEventKind)
    (occurredAt : String) : Projector :=
  let text := (delegationText kind).getD ""
  let (index, placed) :=
    match projector.delegationBuckets.lookup delegationId with
    | some index => (index, projector)
    | none =>
        let index := projector.messages.length
        (index, { projector with
          delegationBuckets := projector.delegationBuckets.insert delegationId index }.push
            (delegationRow delegationId text projector.latestTurnId occurredAt))
  placed.modifyMessage index (updateDelegation kind text)

def applyNote (projector : Projector) (kind : SessionEventKind) (occurredAt : String) : Projector :=
  match systemNote kind with
  | none => projector
  | some (label, content) =>
      projector.push
        { TimelineMessage.new (label ++ "-" ++ toString projector.messages.length) .system label
            (withSessionId label content projector.sessionId) with
          createdAt := some occurredAt }

def apply (projector : Projector) (event : TimelineEvent) : Projector :=
  let occurredAt := event.occurredAt
  match event.kind with
  | .turnStarted turnId prompt planMode model evidence retryOfTurnId _ =>
      projector.applyTurnStarted turnId.value prompt planMode model evidence retryOfTurnId occurredAt
  | .turnSteered turnId prompt => projector.applyTurnSteered turnId.value prompt occurredAt
  | .turnDelta turnId content => projector.applyTurnDelta turnId.value content occurredAt
  | .turnAssistantMessageStarted turnId messageId phase =>
      projector.applyAssistantMessageStarted turnId.value messageId phase occurredAt
  | .turnAssistantMessageDelta turnId messageId content =>
      projector.applyAssistantMessageDelta turnId.value messageId content occurredAt
  | .turnAssistantMessageCompleted turnId messageId phase content =>
      projector.applyAssistantMessageCompleted turnId.value messageId phase content occurredAt
  | .turnReasoningStarted turnId reasoningId label =>
      projector.applyReasoningStarted turnId.value reasoningId label occurredAt
  | .turnReasoningDelta turnId reasoningId content =>
      projector.applyReasoningDelta turnId.value reasoningId content occurredAt
  | .turnReasoningCompleted turnId reasoningId =>
      projector.applyReasoningCompleted turnId.value reasoningId
  | .turnToolCallStarted turnId toolCallId action command file =>
      projector.applyToolCallStarted turnId.value toolCallId action command file occurredAt
  | .turnToolCallDelta turnId toolCallId content =>
      projector.applyToolCallDelta turnId.value toolCallId content occurredAt
  | .turnToolCallCompleted turnId toolCallId detail =>
      projector.applyToolCallCompleted turnId.value toolCallId detail
  | .turnToolCallUpdated turnId toolCallId detail =>
      projector.modifyToolCall turnId.value toolCallId (mergeToolCallDetail (some detail))
  | .turnToolCallFailed turnId toolCallId reason detail =>
      projector.applyToolCallFailed turnId.value toolCallId reason detail
  | .turnUserInputRequested turnId requestId questions =>
      projector.applyUserInputRequested turnId.value requestId questions occurredAt
  | .turnUserInputResolved turnId requestId answers =>
      projector.applyUserInputResolved turnId.value requestId answers occurredAt
  | .turnPermissionRequested turnId requestId toolName title description command file =>
      projector.applyPermissionRequested turnId.value requestId toolName title description command file
        occurredAt
  | .turnPermissionResolved turnId requestId behavior =>
      projector.applyPermissionResolved turnId.value requestId behavior occurredAt
  | .turnNativeSubagentActivity turnId id agentId agentThreadId path name role model status =>
      projector.applyNativeSubagentActivity turnId.value
        ⟨id, agentId, agentThreadId, path, name, role, model, none, status, false, none⟩ occurredAt
  | .turnNativeSubagentModelRequested turnId correlationId model =>
      projector.applyNativeSubagentModel turnId.value correlationId model false
  | .turnNativeSubagentModelConfirmed turnId correlationId model =>
      projector.applyNativeSubagentModel turnId.value correlationId model true
  | .turnModelEffective turnId model => projector.applyModelEffective turnId.value model
  | .turnCompleted turnId => projector.applyTurnCompleted turnId.value occurredAt
  | .usageLimitReached turnId _ _ _ => projector.applyUsageLimitReached turnId.value
  | .usageLimitResumed _ _ accountLabel => projector.applyUsageLimitResumed accountLabel
  | .turnAborted turnId reason => projector.applyTurnAborted turnId.value reason occurredAt
  | .sessionStarted _ _ _ _ forkedFrom => projector.applySessionStarted forkedFrom occurredAt
  | .delegationRequested delegationId | .delegationStarted delegationId _
  | .delegationDelta delegationId _ | .delegationCompleted delegationId _
  | .delegationFailed delegationId _ | .delegationCancelled delegationId _ =>
      projector.applyDelegation delegationId.value event.kind occurredAt
  | kind => projector.applyNote kind occurredAt

end Projector

end DevCommandCenter.Timeline
