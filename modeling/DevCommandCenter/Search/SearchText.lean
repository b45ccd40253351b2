import DevCommandCenter.Library.InsertionMap
import DevCommandCenter.Library.SortDedup
import DevCommandCenter.Library.Text
import DevCommandCenter.Session.Events
import Mathlib.Data.String.Basic

/-! The text under which a session is found by the full-text search. -/

namespace DevCommandCenter.Search

open Library

structure ToolCallBuffer where
  label : String
  content : String
  failureReason : Option String
  deriving DecidableEq

structure AssistantMessageBuffer where
  id : String
  phase : AssistantMessagePhase
  content : String
  deriving DecidableEq

-- the maps of the inner level are ordered: their values are read in the order of the keys
structure SearchBuffers where
  assistantByTurn : InsertionMap String (List AssistantMessageBuffer)
  reasoningByTurn : InsertionMap String (InsertionMap String String)
  toolCallsByTurn : InsertionMap String (InsertionMap String ToolCallBuffer)

def SearchBuffers.empty : SearchBuffers where
  assistantByTurn := .empty
  reasoningByTurn := .empty
  toolCallsByTurn := .empty

def pushFragment (value : String) : List String :=
  let normalized := trim value
  if normalized = "" then [] else [normalized]

def valuesInOrder {α : Type} (m : InsertionMap String α) : List α :=
  (m.entries.insertionSort fun a b => a.1 ≤ b.1).map Prod.snd

def rposition {α : Type} (p : α → Bool) (l : List α) : Option ℕ :=
  (l.reverse.findIdx? p).map fun i => l.length - 1 - i

def terminalIndex (messages : List AssistantMessageBuffer) : Option ℕ :=
  (rposition (fun message => decide (message.phase = .finalAnswer)) messages).or
    (rposition (fun message => !isBlank message.content) messages)

def assistantFragments (messages : List AssistantMessageBuffer) : List String :=
  messages.zipIdx.flatMap fun entry =>
    let label :=
      if terminalIndex messages = some entry.2 then "Assistant" else "Assistant commentary"
    pushFragment (label ++ ": " ++ entry.1.content)

-- `push(' ')` and the trimmed value, unless it is blank
def withValue (text : String) (value : Option String) : String :=
  match value with
  | some value => if isBlank value then text else text ++ " " ++ trim value
  | none => text

def toolCallFragment (toolCall : ToolCallBuffer) : List String :=
  pushFragment
    (withValue (withValue toolCall.label (some toolCall.content)) toolCall.failureReason)

def flushTurn (buffers : SearchBuffers) (turnId : String) : List String × SearchBuffers :=
  let assistant := ((buffers.assistantByTurn.get? turnId).map assistantFragments).getD []
  let reasoning := ((buffers.reasoningByTurn.get? turnId).map fun contents =>
    (valuesInOrder contents).flatMap fun content => pushFragment ("Reasoning: " ++ content)).getD []
  let toolCalls := ((buffers.toolCallsByTurn.get? turnId).map fun calls =>
    (valuesInOrder calls).flatMap toolCallFragment).getD []
  (assistant ++ reasoning ++ toolCalls, {
    assistantByTurn := buffers.assistantByTurn.delete turnId
    reasoningByTurn := buffers.reasoningByTurn.delete turnId
    toolCallsByTurn := buffers.toolCallsByTurn.delete turnId })

def onMessage (messages : List AssistantMessageBuffer) (id : String)
    (fresh : AssistantMessageBuffer)
    (f : AssistantMessageBuffer → AssistantMessageBuffer) : List AssistantMessageBuffer :=
  match messages.findIdx? fun message => decide (message.id = id) with
  | some index => messages.modify index f
  | none => messages ++ [f fresh]

def unknownMessage (id : String) : AssistantMessageBuffer where
  id := id
  phase := .unknown
  content := ""

section Updates

variable (buffers : SearchBuffers) (turnId : TurnId)

def onAssistant (id : String) (fresh : AssistantMessageBuffer)
    (f : AssistantMessageBuffer → AssistantMessageBuffer) : SearchBuffers :=
  let messages := (buffers.assistantByTurn.get? turnId.value).getD []
  { buffers with
    assistantByTurn := buffers.assistantByTurn.set turnId.value (onMessage messages id fresh f) }

def onReasoning (reasoningId content : String) : SearchBuffers :=
  let contents := (buffers.reasoningByTurn.get? turnId.value).getD .empty
  { buffers with
    reasoningByTurn := buffers.reasoningByTurn.set turnId.value
      (contents.set reasoningId ((contents.get? reasoningId).getD "" ++ content)) }

def onToolCall (toolCallId : String) (fresh : Option ToolCallBuffer)
    (f : ToolCallBuffer → ToolCallBuffer) : SearchBuffers :=
  let calls := (buffers.toolCallsByTurn.get? turnId.value).getD .empty
  { buffers with
    toolCallsByTurn := buffers.toolCallsByTurn.set turnId.value
      (match (calls.get? toolCallId).or fresh with
      | some call => calls.set toolCallId (f call)
      | none => calls) }

end Updates

def withOutput (output : Option String) (call : ToolCallBuffer) : ToolCallBuffer :=
  match output with
  | some output => if call.content = "" then { call with content := output } else call
  | none => call

def debugText : NativeSubagentStatus → String
  | .running => "Running"
  | .completed => "Completed"
  | .failed => "Failed"

def searchEvent (buffers : SearchBuffers) : SessionEventKind → List String × SearchBuffers
  | .turnStarted _ prompt .. => (pushFragment ("User: " ++ prompt), buffers)
  | .turnSteered _ prompt => (pushFragment ("User guidance: " ++ prompt), buffers)
  | .turnQueued queuedTurn => (pushFragment ("Queued follow-up: " ++ queuedTurn.prompt), buffers)
  | .turnDelta turnId content =>
      ([], onAssistant buffers turnId "legacy" (unknownMessage "legacy") fun message =>
        { message with content := message.content ++ content })
  | .turnAssistantMessageStarted turnId messageId phase =>
      ([], onAssistant buffers turnId messageId (unknownMessage messageId) fun message =>
        { message with phase := phase })
  | .turnAssistantMessageDelta turnId messageId content =>
      ([], onAssistant buffers turnId messageId (unknownMessage messageId) fun message =>
        { message with content := message.content ++ content })
  | .turnAssistantMessageCompleted turnId messageId phase content =>
      ([], onAssistant buffers turnId messageId (unknownMessage messageId) fun message =>
        { message with phase := phase, content := content.getD message.content })
  | .turnReasoningDelta turnId reasoningId content =>
      ([], onReasoning buffers turnId reasoningId content)
  | .turnToolCallStarted turnId toolCallId action command file =>
      let label := withValue (withValue ("Tool: " ++ action) command) file
      ([], onToolCall buffers turnId toolCallId
        (some { label := label, content := "", failureReason := none }) id)
  | .turnToolCallDelta turnId toolCallId content =>
      ([], onToolCall buffers turnId toolCallId
        (some { label := "Tool: output", content := "", failureReason := none }) fun call =>
          { call with content := call.content ++ content })
  | .turnToolCallCompleted turnId toolCallId (some detail) =>
      ([], onToolCall buffers turnId toolCallId none (withOutput detail.output))
  | .turnToolCallFailed turnId toolCallId reason detail =>
      ([], onToolCall buffers turnId toolCallId none fun call =>
        withOutput (detail.bind ToolCallDetail.output) { call with failureReason := reason })
  | .turnUserInputRequested _ _ questions =>
      (questions.flatMap fun question =>
        pushFragment ("User input requested: " ++ question.question), buffers)
  | .turnUserInputResolved _ _ answers =>
      (answers.flatMap fun answer =>
        pushFragment ("User input: " ++ answer.question ++ " " ++ answer.answer), buffers)
  | .turnPermissionRequested _ _ toolName title description command file =>
      (pushFragment ([title, description, command, file].foldl withValue
        ("Permission request: " ++ toolName)), buffers)
  | .turnPermissionResolved _ _ behavior =>
      (pushFragment ("Permission resolved: " ++ behavior), buffers)
  | .turnNativeSubagentActivity _ _ _ _ _ name role model status =>
      let identity := (name.or role).getD "Native subagent"
      (pushFragment ("Native subagent: " ++ identity ++ " · " ++ model.getD "model not reported" ++
        " · " ++ debugText status), buffers)
  | .turnCompleted turnId | .turnAborted turnId _ => flushTurn buffers turnId.value
  | .sessionAborted (some reason) =>
      (if isBlank reason then [] else pushFragment ("Session aborted: " ++ reason), buffers)
  | .checkpointCreated _ label => (pushFragment ("Checkpoint: " ++ label), buffers)
  | .sessionAborted none | .turnToolCallCompleted _ _ none | .sessionStarted .. | .queuedTurnRemoved _
  | .turnQueueReordered _ | .queuedTurnDispatched .. | .turnReasoningStarted ..
  | .turnReasoningCompleted .. | .turnToolCallUpdated .. | .turnNativeSubagentModelConfirmed ..
  | .turnNativeSubagentModelRequested .. | .turnModelEffective .. | .sessionCompleted
  | .delegationRequested _ | .delegationStarted .. | .delegationDelta .. | .delegationCompleted ..
  | .delegationFailed .. | .delegationCancelled .. | .planApproved .. | .planHandedOff ..
  | .objectivePaused .. | .usageLimitReached .. | .usageLimitResumed ..
  | .usageLimitAutoResumeChanged _ | .goalUpdated .. | .conversationRewound .. | .sessionResumed =>
      ([], buffers)

def pendingTurns (buffers : SearchBuffers) : List String :=
  sortDedup (buffers.assistantByTurn.entries.map Prod.fst ++
    buffers.reasoningByTurn.entries.map Prod.fst ++ buffers.toolCallsByTurn.entries.map Prod.fst)

def flushTurns (buffers : SearchBuffers) : List String → List String
  | [] => []
  | turnId :: rest => (flushTurn buffers turnId).1 ++ flushTurns (flushTurn buffers turnId).2 rest

def searchFragments (buffers : SearchBuffers) : List SessionEventRecord → List String
  | [] => flushTurns buffers (pendingTurns buffers)
  | event :: rest =>
      (searchEvent buffers event.kind).1 ++ searchFragments (searchEvent buffers event.kind).2 rest

def buildSearchText (events : List SessionEventRecord) : String :=
  "\n\n".intercalate (searchFragments .empty (visibleSessionEvents events))

end DevCommandCenter.Search
