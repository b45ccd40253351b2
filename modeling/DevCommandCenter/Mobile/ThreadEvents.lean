import DevCommandCenter.Library.InsertionMap
import DevCommandCenter.Session.Events

/-! The phone's thread: the raw events of a session folded into the messages the chat renders. -/

namespace DevCommandCenter.Mobile

structure Choice where
  id : String
  label : String
  deriving DecidableEq, Repr

structure ToolInput where
  command : Option String
  file : Option String
  deriving DecidableEq, Repr

inductive ToolStatus
  | running
  | completed
  | failed
  deriving DecidableEq, Repr

inductive ChatMessage
  | user (turnId : TurnId) (text : String) (createdAt : String)
      (approvalPolicy : Option ProviderApprovalPolicy)
  | assistant (turnId : TurnId) (text : String) (createdAt : String) (completed aborted : Bool)
  | reasoning (turnId : TurnId) (id label : String) (createdAt : String) (completed : Bool)
  | tool (turnId : TurnId) (toolCallId toolName : String) (input : ToolInput)
      (output error : Option String) (status : ToolStatus) (createdAt : String)
  | permission (turnId : TurnId) (requestId question : String) (choices : List Choice)
      (createdAt : String) (resolved : Bool)
  | system (id text : String) (createdAt : String)
  deriving DecidableEq, Repr

structure TurnRefs where
  user : Option ℕ
  assistant : Option ℕ
  deriving DecidableEq, Repr

structure ThreadState where
  cursor : ℕ
  messages : List ChatMessage
  byTurn : Library.InsertionMap TurnId TurnRefs
  byTool : Library.InsertionMap String ℕ
  byReasoning : Library.InsertionMap String ℕ
  byPermission : Library.InsertionMap String ℕ

def createThreadState : ThreadState where
  cursor := 0
  messages := []
  byTurn := .empty
  byTool := .empty
  byReasoning := .empty
  byPermission := .empty

structure Labels where
  usageLimitTimelineWaiting : String → String
  usageLimitTimelinePaused : String
  usageLimitTimelineResumedAuto : String
  usageLimitTimelineResumedManual : String
  toolCallFailedFallback : String
  clockTime : String → String

def isJsSpace (c : Char) : Bool :=
  let code := c.toNat
  (9 ≤ code ∧ code ≤ 13) ∨ code = 0x20 ∨ code = 0xA0 ∨ code = 0x1680 ∨
    (0x2000 ≤ code ∧ code ≤ 0x200A) ∨ code = 0x2028 ∨ code = 0x2029 ∨ code = 0x202F ∨
    code = 0x205F ∨ code = 0x3000 ∨ code = 0xFEFF

def permissionQuestion (title description command file : Option String) : String :=
  let text := String.intercalate "\n" (([title, description, command, file].filterMap id).filter
    fun value => !value.toList.all isJsSpace)
  if text.isEmpty then "Pedido de permissão" else text

def defaultChoices : List Choice :=
  [⟨"allow", "Permitir"⟩, ⟨"deny", "Negar"⟩]

def withDetailTarget (input : ToolInput) : Option ToolCallDetail → ToolInput
  | none => input
  | some detail =>
      { command := if (detail.command.getD "").isEmpty then input.command else detail.command
        file := if (detail.file.getD "").isEmpty then input.file else detail.file }

namespace ChatMessage


def addText (content : String) : ChatMessage → ChatMessage
  | .assistant turnId text createdAt completed aborted =>
      .assistant turnId (text ++ content) createdAt completed aborted
  | message => message

def setText (content : String) : ChatMessage → ChatMessage
  | .assistant turnId _ createdAt completed aborted =>
      .assistant turnId content createdAt completed aborted
  | message => message

def complete : ChatMessage → ChatMessage
  | .assistant turnId text createdAt _ aborted => .assistant turnId text createdAt true aborted
  | .reasoning turnId id label createdAt _ => .reasoning turnId id label createdAt true
  | message => message

def abort : ChatMessage → ChatMessage
  | .assistant turnId text createdAt _ _ => .assistant turnId text createdAt true true
  | message => message

def updateTool (detail : ToolCallDetail) : ChatMessage → ChatMessage
  | .tool turnId toolCallId toolName input output error status createdAt =>
      .tool turnId toolCallId toolName (withDetailTarget input (some detail)) output error status
        createdAt
  | message => message

def completeTool (detail : Option ToolCallDetail) : ChatMessage → ChatMessage
  | .tool turnId toolCallId toolName input _ error _ createdAt =>
      .tool turnId toolCallId toolName (withDetailTarget input detail)
        (detail.bind ToolCallDetail.output) error .completed createdAt
  | message => message

def failTool (error : String) : ChatMessage → ChatMessage
  | .tool turnId toolCallId toolName input output _ _ createdAt =>
      .tool turnId toolCallId toolName input output (some error) .failed createdAt
  | message => message

def resolve : ChatMessage → ChatMessage
  | .permission turnId requestId question choices createdAt _ =>
      .permission turnId requestId question choices createdAt true
  | message => message

end ChatMessage

namespace ThreadState

def pushMessage (state : ThreadState) (message : ChatMessage) : ThreadState :=
  { state with messages := state.messages ++ [message] }

def pushSystem (state : ThreadState) (id text createdAt : String) : ThreadState :=
  state.pushMessage (.system id text createdAt)

def updateMessage (state : ThreadState) (index : Option ℕ) (f : ChatMessage → ChatMessage) :
    ThreadState :=
  match index with
  | some i => { state with messages := state.messages.modify i f }
  | none => state

def refs (state : ThreadState) (turnId : TurnId) : TurnRefs :=
  (state.byTurn.get? turnId).getD ⟨none, none⟩

end ThreadState

def usageLimitMessageId (turnId : TurnId) : String :=
  "usage-limit:" ++ turnId.value

def isSystemMessage (id : String) : ChatMessage → Bool
  | .system id' _ _ => id' = id
  | _ => false

section Apply

variable (labels : Labels)

def usageLimitText (resetsAt : Option String) : String :=
  match resetsAt with
  | some resetsAt =>
      -- an empty string is falsy
      if resetsAt.isEmpty then labels.usageLimitTimelinePaused
      else labels.usageLimitTimelineWaiting (labels.clockTime resetsAt)
  | none => labels.usageLimitTimelinePaused

def applyUsageLimitReached (state : ThreadState) (turnId : TurnId) (resetsAt : Option String)
    (occurredAt : String) : ThreadState :=
  let id := usageLimitMessageId turnId
  let text := usageLimitText labels resetsAt
  match state.messages.findIdx? (isSystemMessage id) with
  | some existing =>
      if (resetsAt.getD "").isEmpty then state
      else { state with messages := state.messages.set existing (.system id text occurredAt) }
  | none => state.pushSystem id text occurredAt

def applyTurnStarted (state : ThreadState) (turnId : TurnId) (prompt : String)
    (approvalPolicy : Option ProviderApprovalPolicy) (occurredAt : String) : ThreadState :=
  let refs := state.refs turnId
  if refs.user.isSome then state
  else
    { state.pushMessage (.user turnId prompt occurredAt approvalPolicy) with
      byTurn := state.byTurn.set turnId { refs with user := some state.messages.length } }

def applyDelta (state : ThreadState) (turnId : TurnId) (content occurredAt : String) :
    ThreadState :=
  let refs := state.refs turnId
  match refs.assistant with
  | some index => state.updateMessage (some index) (.addText content)
  | none =>
      let state' :=
        { state.pushMessage (.assistant turnId "" occurredAt false false) with
          byTurn := state.byTurn.set turnId { refs with assistant := some state.messages.length } }
      state'.updateMessage (some state.messages.length) (.addText content)

def applyOne (state : ThreadState) (event : SessionEventRecord) : ThreadState :=
  match event.kind with
  | .sessionStarted .. | .sessionResumed =>
      state.pushSystem event.eventId "Sessão iniciada" event.occurredAt
  | .sessionCompleted => state.pushSystem event.eventId "Sessão finalizada" event.occurredAt
  | .sessionAborted _ => state.pushSystem event.eventId "Sessão abortada" event.occurredAt
  | .usageLimitReached turnId resetsAt _ _ =>
      applyUsageLimitReached labels state turnId resetsAt event.occurredAt
  | .usageLimitResumed automatic _ _ =>
      let text :=
        if automatic then labels.usageLimitTimelineResumedAuto
        else labels.usageLimitTimelineResumedManual
      state.pushSystem event.eventId text event.occurredAt
  | .turnStarted turnId prompt _ _ _ _ approvalPolicy =>
      applyTurnStarted state turnId prompt approvalPolicy event.occurredAt
  | .turnDelta turnId content | .turnAssistantMessageDelta turnId _ content =>
      applyDelta state turnId content event.occurredAt
  | .turnAssistantMessageCompleted turnId _ .finalAnswer (some content) =>
      state.updateMessage (state.refs turnId).assistant (.setText content)
  | .turnCompleted turnId => state.updateMessage (state.refs turnId).assistant .complete
  | .turnAborted turnId _ => state.updateMessage (state.refs turnId).assistant .abort
  | .turnReasoningStarted turnId reasoningId label =>
      if state.byReasoning.contains reasoningId then state
      else
        { state.pushMessage (.reasoning turnId reasoningId (label.getD "") event.occurredAt false)
          with byReasoning := state.byReasoning.set reasoningId state.messages.length }
  | .turnReasoningCompleted _ reasoningId =>
      state.updateMessage (state.byReasoning.get? reasoningId) .complete
  | .turnToolCallStarted turnId toolCallId action command file =>
      if state.byTool.contains toolCallId then state
      else
        { state.pushMessage (.tool turnId toolCallId action ⟨command, file⟩ none none .running
            event.occurredAt)
          with byTool := state.byTool.set toolCallId state.messages.length }
  | .turnToolCallUpdated _ toolCallId detail =>
      state.updateMessage (state.byTool.get? toolCallId) (.updateTool detail)
  | .turnToolCallCompleted _ toolCallId detail =>
      state.updateMessage (state.byTool.get? toolCallId) (.completeTool detail)
  | .turnToolCallFailed _ toolCallId reason _ =>
      state.updateMessage (state.byTool.get? toolCallId)
        (.failTool (reason.getD labels.toolCallFailedFallback))
  | .turnPermissionRequested turnId requestId _ title description command file =>
      if state.byPermission.contains requestId then state
      else
        { state.pushMessage (.permission turnId requestId
            (permissionQuestion title description command file) defaultChoices event.occurredAt false)
          with byPermission := state.byPermission.set requestId state.messages.length }
  | .turnPermissionResolved _ requestId _ =>
      state.updateMessage (state.byPermission.get? requestId) .resolve
  | _ => state

def applyEvents (state : ThreadState) (events : List SessionEventRecord) : ThreadState :=
  let ordered := (events.filter fun event => state.cursor < event.sequence).mergeSort
    fun a b => a.sequence ≤ b.sequence
  ordered.foldl (fun next event => { applyOne labels next event with cursor := event.sequence }) state

end Apply

end DevCommandCenter.Mobile
