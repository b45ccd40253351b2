import Mathlib.Data.Nat.Notation

/-! The durable events of a session, as the session repository stores them. -/

namespace DevCommandCenter

structure SessionId where
  value : String
  deriving DecidableEq, Repr

structure TurnId where
  value : String
  deriving DecidableEq, Repr

structure WorkspaceId where
  value : String
  deriving DecidableEq, Repr

structure ProjectId where
  value : String
  deriving DecidableEq, Repr

structure CheckpointId where
  value : String
  deriving DecidableEq, Repr

structure DelegationId where
  value : String
  deriving DecidableEq, Repr

inductive CoreError
  | invalidInput (text : String)
  | repository (text : String)
  | git (text : String)
  | eventBus (text : String)
  | provider (text : String)
  deriving DecidableEq, Repr

inductive AssistantMessagePhase
  | commentary
  | finalAnswer
  | unknown
  deriving DecidableEq, Repr

inductive TurnEvidenceStage
  | observe
  | reproduce
  | investigate
  | fix
  | verify
  deriving DecidableEq, Repr

inductive TurnEvidenceSource
  | browser
  | terminal
  | diff
  deriving DecidableEq, Repr

inductive TurnEvidenceTrust
  | remoteUntrusted
  | localTerminal
  | localWorkspace
  deriving DecidableEq, Repr

structure TurnEvidenceItemSummary where
  source : TurnEvidenceSource
  trust : TurnEvidenceTrust
  chars : ℕ
  truncated : Bool
  deriving DecidableEq, Repr

structure TurnEvidenceSummary where
  stage : TurnEvidenceStage
  items : List TurnEvidenceItemSummary
  deriving DecidableEq, Repr

inductive ProviderApprovalPolicy
  | readOnly
  | ask
  | auto
  | fullAccess
  deriving DecidableEq, Repr

structure QueuedTurn where
  id : String
  sessionId : SessionId
  prompt : String
  toolInstructions : Option String
  planMode : Option Bool
  effort : Option String
  fastMode : Option Bool
  approvalPolicy : Option ProviderApprovalPolicy
  evidence : Option TurnEvidenceSummary
  createdAt : String
  deriving DecidableEq, Repr

structure ForkOrigin where
  sessionId : SessionId
  turnId : Option TurnId
  deriving DecidableEq, Repr

structure ProviderUserInputOption where
  label : String
  description : String
  deriving DecidableEq, Repr

structure ProviderUserInputQuestion where
  id : String
  header : String
  question : String
  options : List ProviderUserInputOption
  deriving DecidableEq, Repr

structure ProviderUserInputAnswer where
  question : String
  answer : String
  deriving DecidableEq, Repr

structure ToolCallDetail where
  command : Option String
  file : Option String
  input : Option String
  output : Option String
  exitCode : Option Int
  diff : Option String
  truncated : Bool
  deriving DecidableEq, Repr

inductive NativeSubagentStatus
  | running
  | completed
  | failed
  deriving DecidableEq, Repr

inductive ObjectivePauseReason
  | manual
  | consecutiveFailures
  | turnBudget
  deriving DecidableEq, Repr

inductive GoalStatus
  | active
  | paused
  | blocked
  | usageLimited
  | budgetLimited
  | complete
  deriving DecidableEq, Repr

structure SessionGoal where
  objective : String
  status : GoalStatus
  checks : ℕ
  lastCheck : Option String
  tokensUsed : Option ℕ
  tokenBudget : Option ℕ
  timeUsedSeconds : Option ℕ
  completesWithTurn : Bool
  updatedAt : String
  deriving DecidableEq, Repr

inductive RewindProviderContext
  | native
  | fresh
  deriving DecidableEq, Repr

inductive SessionEventKind
  | sessionStarted (workspaceId : WorkspaceId) (projectId : ProjectId) (providerId : String)
      (model : Option String) (forkedFrom : Option ForkOrigin)
  | turnStarted (turnId : TurnId) (prompt : String) (planMode : Option Bool) (model : Option String)
      (evidence : Option TurnEvidenceSummary) (retryOfTurnId : Option TurnId)
      (approvalPolicy : Option ProviderApprovalPolicy)
  | turnSteered (turnId : TurnId) (prompt : String)
  | turnQueued (queuedTurn : QueuedTurn)
  | queuedTurnRemoved (queuedTurnId : String)
  | turnQueueReordered (queuedTurnIds : List String)
  | queuedTurnDispatched (queuedTurnId : String) (turnId : TurnId)
  | turnDelta (turnId : TurnId) (content : String)
  | turnAssistantMessageStarted (turnId : TurnId) (messageId : String)
      (phase : AssistantMessagePhase)
  | turnAssistantMessageDelta (turnId : TurnId) (messageId : String) (content : String)
  | turnAssistantMessageCompleted (turnId : TurnId) (messageId : String)
      (phase : AssistantMessagePhase) (content : Option String)
  | turnReasoningStarted (turnId : TurnId) (reasoningId : String) (label : Option String)
  | turnReasoningDelta (turnId : TurnId) (reasoningId : String) (content : String)
  | turnReasoningCompleted (turnId : TurnId) (reasoningId : String)
  | turnToolCallStarted (turnId : TurnId) (toolCallId : String) (action : String)
      (command : Option String) (file : Option String)
  | turnToolCallDelta (turnId : TurnId) (toolCallId : String) (content : String)
  | turnToolCallUpdated (turnId : TurnId) (toolCallId : String) (detail : ToolCallDetail)
  | turnToolCallCompleted (turnId : TurnId) (toolCallId : String) (detail : Option ToolCallDetail)
  | turnToolCallFailed (turnId : TurnId) (toolCallId : String) (reason : Option String)
      (detail : Option ToolCallDetail)
  | turnUserInputRequested (turnId : TurnId) (requestId : String)
      (questions : List ProviderUserInputQuestion)
  | turnUserInputResolved (turnId : TurnId) (requestId : String)
      (answers : List ProviderUserInputAnswer)
  | turnPermissionRequested (turnId : TurnId) (requestId : String) (toolName : String)
      (title : Option String) (description : Option String) (command : Option String)
      (file : Option String)
  | turnPermissionResolved (turnId : TurnId) (requestId : String) (behavior : String)
  | turnNativeSubagentActivity (turnId : TurnId) (id : String) (agentId : Option String)
      (agentThreadId : Option String) (path : Option String) (name : Option String)
      (role : Option String) (model : Option String) (status : NativeSubagentStatus)
  | turnNativeSubagentModelConfirmed (turnId : TurnId) (correlationId : String) (model : String)
  | turnNativeSubagentModelRequested (turnId : TurnId) (correlationId : String) (model : String)
  | turnModelEffective (turnId : TurnId) (model : String)
  | turnCompleted (turnId : TurnId)
  | turnAborted (turnId : TurnId) (reason : Option String)
  | checkpointCreated (checkpointId : CheckpointId) (label : String)
  | planApproved (planMessageId : String) (planVersion : ℕ) (planHash : String)
  | planHandedOff (planMessageId : String) (planVersion : ℕ) (planHash : String) (action : String)
      (targetSessionId : Option SessionId)
  | delegationRequested (delegationId : DelegationId)
  | delegationStarted (delegationId : DelegationId) (childSessionId : Option SessionId)
  | delegationDelta (delegationId : DelegationId) (content : String)
  | delegationCompleted (delegationId : DelegationId) (summary : Option String)
  | delegationFailed (delegationId : DelegationId) (reason : Option String)
  | delegationCancelled (delegationId : DelegationId) (reason : Option String)
  | sessionCompleted
  | sessionAborted (reason : Option String)
  | sessionResumed
  | objectivePaused (reason : ObjectivePauseReason) (consecutiveFailures : ℕ) (turnsUsed : ℕ)
  | usageLimitReached (turnId : TurnId) (resetsAt : Option String) (autoResume : Bool)
      (paused : Bool)
  | usageLimitResumed (automatic : Bool) (turnId : Option TurnId) (accountLabel : Option String)
  | usageLimitAutoResumeChanged (enabled : Bool)
  | goalUpdated (turnId : Option TurnId) (goal : Option SessionGoal)
  | conversationRewound (anchorTurnId : TurnId) (removedTurnIds : List TurnId)
      (providerContext : RewindProviderContext) (restoredTurnIds : List TurnId)
  deriving DecidableEq, Repr

def SessionEventKind.turnId : SessionEventKind → Option TurnId
  | turnStarted turnId .. | turnSteered turnId _ | queuedTurnDispatched _ turnId
  | turnDelta turnId _ | turnAssistantMessageStarted turnId .. | turnAssistantMessageDelta turnId ..
  | turnAssistantMessageCompleted turnId .. | turnReasoningStarted turnId ..
  | turnReasoningDelta turnId .. | turnReasoningCompleted turnId .. | turnToolCallStarted turnId ..
  | turnToolCallDelta turnId .. | turnToolCallUpdated turnId .. | turnToolCallCompleted turnId ..
  | turnToolCallFailed turnId .. | turnUserInputRequested turnId ..
  | turnUserInputResolved turnId .. | turnPermissionRequested turnId ..
  | turnPermissionResolved turnId .. | turnNativeSubagentActivity turnId ..
  | turnNativeSubagentModelConfirmed turnId .. | turnNativeSubagentModelRequested turnId ..
  | turnModelEffective turnId _ | turnCompleted turnId | turnAborted turnId _
  | usageLimitReached turnId .. => some turnId
  | goalUpdated turnId _ => turnId
  | sessionStarted .. | turnQueued _ | queuedTurnRemoved _ | turnQueueReordered _
  | checkpointCreated .. | planApproved .. | planHandedOff .. | delegationRequested _
  | delegationStarted .. | delegationDelta .. | delegationCompleted .. | delegationFailed ..
  | delegationCancelled .. | sessionCompleted | sessionAborted _ | sessionResumed
  | objectivePaused .. | usageLimitResumed .. | usageLimitAutoResumeChanged _
  | conversationRewound .. => none

def startedTurn : SessionEventKind → Option TurnId
  | .turnStarted turnId .. => some turnId
  | _ => none

structure SessionEventRecord where
  eventId : String
  sessionId : SessionId
  sequence : ℕ
  occurredAt : String
  kind : SessionEventKind
  deriving DecidableEq, Repr

def rewoundTurnIds (events : List SessionEventRecord) : List TurnId :=
  events.flatMap fun event =>
    match event.kind with
    | .conversationRewound _ removedTurnIds _ _ => removedTurnIds
    | _ => []

def isVisible (rewound : List TurnId) (kind : SessionEventKind) : Bool :=
  kind.turnId.all (fun turnId => decide (turnId ∉ rewound))

def visibleSessionEvents (events : List SessionEventRecord) : List SessionEventRecord :=
  let rewound := rewoundTurnIds events
  if rewound.isEmpty then events
  else events.filter fun event => isVisible rewound event.kind

lemma visibleSessionEvents_eq_filter (events : List SessionEventRecord) :
    visibleSessionEvents events = events.filter fun event =>
      isVisible (rewoundTurnIds events) event.kind := by
  by_cases h : rewoundTurnIds events = []
  · refine (if_pos (by simp [h])).trans (List.filter_eq_self.mpr fun event _ => ?_).symm
    simp [isVisible, h]
  · exact if_neg (by simpa using h)

end DevCommandCenter
