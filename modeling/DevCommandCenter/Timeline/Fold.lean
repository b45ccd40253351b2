import DevCommandCenter.Timeline.Apply

/-! The end of a projection: one assistant row per turn, delegation cards after their turn. -/

namespace DevCommandCenter.Timeline

open Library

def sameNativeSubagent : Annotation → Annotation → Bool
  | .nativeSubagent left, .nativeSubagent right =>
      left.id == right.id ||
        (right.agentThreadId.isSome && left.agentThreadId == right.agentThreadId) ||
        (right.agentId.isSome && left.agentId == right.agentId)
  | _, _ => false

def sameAnnotation (incoming existing : Annotation) : Bool :=
  existing.kind == incoming.kind &&
    match existing with
    | .nativeSubagent _ => sameNativeSubagent existing incoming
    | _ => existing.id == incoming.id

def replaceAnnotation (incoming existing : Annotation) : Annotation :=
  match existing, incoming with
  | .nativeSubagent existing, .nativeSubagent incoming =>
      .nativeSubagent {
        id := existing.id
        agentId := incoming.agentId.or existing.agentId
        agentThreadId := incoming.agentThreadId.or existing.agentThreadId
        path := incoming.path.or existing.path
        name := incoming.name.or existing.name
        role := incoming.role.or existing.role
        model := incoming.model.or existing.model
        requestedModel := incoming.requestedModel.or existing.requestedModel
        status := incoming.status
        streaming := incoming.streaming
        createdAt := incoming.createdAt.or existing.createdAt }
  | _, incoming => incoming

def mergeAnnotation (annotations : List Annotation) (incoming : Annotation) : List Annotation :=
  if annotations.any ( sameAnnotation incoming) then
    modifyFirst ( sameAnnotation incoming) ( replaceAnnotation incoming) annotations
  else annotations ++ [incoming]

section Fold

variable (messages : List TimelineMessage) (rows : List ℕ) (settled : Bool)

def terminalRow (last : ℕ) : ℕ :=
  let finalAnswer := rows.reverse.find? fun index =>
    ((messages[index]?).bind TimelineMessage.assistantPhase) == some .finalAnswer
  let lastText := rows.reverse.find? fun index =>
    (messages[index]?).any fun message => !isBlank message.content
  if settled then (finalAnswer.or lastText).getD last else finalAnswer.getD last

def foldedAnnotations (terminal : ℕ) : List Annotation :=
  rows.foldl
    (fun folded index =>
      match messages[index]? with
      | none => folded
      | some message =>
          let visibleAnswer := index == terminal && settled
          let commented :=
            if !visibleAnswer && !isBlank message.content then
              mergeAnnotation folded (.commentary ("commentary-" ++ message.id) message.content
                (if !settled && index == terminal then true else message.streaming)
                message.createdAt)
            else folded
          message.annotations.foldl mergeAnnotation commented)
    []

end Fold

def foldTurn (settledTurns : Finset String) (sessionId : String)
    (state : List TimelineMessage × Finset ℕ) (turn : String × List ℕ) :
    List TimelineMessage × Finset ℕ :=
  let (messages, hidden) := state
  let (turnId, rows) := turn
  match rows.getLast? with
  | none => (messages, hidden)
  | some last =>
      let settled := decide (turnId ∈ settledTurns)
      let terminal := terminalRow messages rows settled last
      let folded := foldedAnnotations messages rows settled terminal
      (messages.modify terminal fun message =>
        { message with
          id := "assistant-" ++ sessionId ++ "-" ++ turnId
          turnId := some turnId
          streaming := !settled
          annotations := folded
          content := if settled then message.content else "" },
        hidden ∪ (rows.filter fun index => index ≠ terminal).toFinset)

def foldAssistantTurns (messages : List TimelineMessage) (byTurn : List (String × List ℕ))
    (settledTurns : Finset String) (sessionId : String) : List TimelineMessage :=
  let (folded, hidden) := byTurn.foldl (foldTurn settledTurns sessionId) (messages, ∅)
  (folded.zipIdx.filter fun (_, index) => index ∉ hidden).map Prod.fst

def lastRowOfTurn (messages : List TimelineMessage) (turn : String) : Option ℕ :=
  (messages.zipIdx.reverse.find? fun (message, _) =>
    message.role == .assistant && message.turnId == some turn).map Prod.snd

def delegationAnchor (messages : List TimelineMessage) (message : TimelineMessage) (index : ℕ) :
    Option ℕ :=
  ((message.delegationTurnId.bind (lastRowOfTurn messages)).filter fun anchor =>
    message.delegation.isSome && decide (index < anchor))

def placeDelegationsAfterTheirTurn (messages : List TimelineMessage) : List TimelineMessage :=
  let placed := messages.zipIdx.map fun (message, index) =>
    (message, index, delegationAnchor messages message index)
  (placed.filter fun (_, _, anchor) => anchor.isNone).flatMap fun (message, index, _) =>
    message :: (placed.filter fun (_, _, anchor) => anchor == some index).map Prod.fst

namespace Projector

def setModels (projector : Projector) : Projector :=
  projector.turnModel.foldl
    (fun projector (turn, model) =>
      match model with
      | none => projector
      | some model =>
          projector.modifyMessages (((projector.turnMessages turn).getD []) ++
            (projector.assistantBuckets.lookup turn).toList)
            fun message => { message with model := some model })
    projector

def markPlanMode (isAlphanumeric : Char → Bool) (lastUserPlanMode : Bool) :
    List TimelineMessage → List TimelineMessage
  | [] => []
  | message :: messages =>
      match message.role with
      | .user =>
          { message with handBack := parseDelegationHandBack isAlphanumeric message.content } ::
            markPlanMode isAlphanumeric message.planMode messages
      | .assistant =>
          { message with answersPlanMode := lastUserPlanMode } ::
            markPlanMode isAlphanumeric lastUserPlanMode messages
      | .system => message :: markPlanMode isAlphanumeric lastUserPlanMode messages

def markTurn (projector : Projector) (message : TimelineMessage) : TimelineMessage :=
  match message.role, message.turnId with
  | .assistant, some turn =>
      { message with
        turnSettled := decide (turn ∈ projector.completedTurns) || decide (turn ∈ projector.abortedTurns)
        turnStartedAt := projector.turnStartedAt.lookup turn
        turnEndedAt := projector.turnEndedAt.lookup turn }
  | _, _ => message

def finish (isAlphanumeric : Char → Bool) (projector : Projector) : List TimelineMessage :=
  let modelled := projector.setModels
  let messages := (markPlanMode isAlphanumeric false modelled.messages).map modelled.markTurn
  let settled := modelled.completedTurns ∪ modelled.abortedTurns.keys.toFinset
  placeDelegationsAfterTheirTurn
    (foldAssistantTurns messages modelled.assistantMessagesByTurn settled modelled.sessionId)

end Projector

def project (isAlphanumeric : Char → Bool) (events : List TimelineEvent) (sessionId : String) :
    List TimelineMessage :=
  (events.foldl Projector.apply (Projector.new sessionId)).finish isAlphanumeric

def projectSession (isAlphanumeric : Char → Bool) (records : List SessionEventRecord)
    (sessionId : String) : List TimelineMessage :=
  project isAlphanumeric (timeline records sessionId) sessionId

end DevCommandCenter.Timeline
