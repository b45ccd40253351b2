import DevCommandCenter.Session.Events

/-! The rows of a projected conversation. -/

namespace DevCommandCenter.Timeline

inductive Role
  | user
  | assistant
  | system
  deriving DecidableEq, Repr

structure IncompleteStatus where
  reason : Option String
  usageLimited : Bool
  continuedOnAccount : Option String
  deriving DecidableEq, Repr

structure ToolCall where
  id : String
  action : String
  command : Option String
  file : Option String
  content : String
  detail : Option ToolCallDetail
  streaming : Bool
  createdAt : Option String
  failure : Option String
  deriving DecidableEq, Repr

structure NativeSubagent where
  id : String
  agentId : Option String
  agentThreadId : Option String
  path : Option String
  name : Option String
  role : Option String
  model : Option String
  requestedModel : Option String
  status : NativeSubagentStatus
  streaming : Bool
  createdAt : Option String
  deriving DecidableEq, Repr

inductive Annotation
  | commentary (id content : String) (streaming : Bool) (createdAt : Option String)
  | reasoning (id : String) (label : Option String) (content : String) (streaming : Bool)
      (createdAt : Option String)
  | toolCall (call : ToolCall)
  | userInput (id : String) (questions : List ProviderUserInputQuestion)
      (answers : List ProviderUserInputAnswer) (streaming : Bool) (createdAt : Option String)
  | approval (id toolName : String) (title description command file behavior : Option String)
      (streaming : Bool) (createdAt : Option String)
  | nativeSubagent (agent : NativeSubagent)
  deriving DecidableEq, Repr

inductive AnnotationKind
  | commentary
  | reasoning
  | toolCall
  | userInput
  | approval
  | nativeSubagent
  deriving DecidableEq, Repr

namespace Annotation

def id : Annotation → String
  | .commentary id .. | .reasoning id .. | .userInput id .. | .approval id .. => id
  | .toolCall call => call.id
  | .nativeSubagent agent => agent.id

def kind : Annotation → AnnotationKind
  | .commentary .. => .commentary
  | .reasoning .. => .reasoning
  | .toolCall _ => .toolCall
  | .userInput .. => .userInput
  | .approval .. => .approval
  | .nativeSubagent _ => .nativeSubagent

def setStreaming (value : Bool) : Annotation → Annotation
  | .commentary id content _ createdAt => .commentary id content value createdAt
  | .reasoning id label content _ createdAt => .reasoning id label content value createdAt
  | .toolCall call => .toolCall { call with streaming := value }
  | .userInput id questions answers _ createdAt => .userInput id questions answers value createdAt
  | .approval id toolName title description command file behavior _ createdAt =>
      .approval id toolName title description command file behavior value createdAt
  | .nativeSubagent agent => .nativeSubagent { agent with streaming := value }

end Annotation

inductive DelegationPhase
  | requested
  | running
  | completed
  | failed
  | cancelled
  deriving DecidableEq, Repr

structure TimelineDelegation where
  id : String
  phase : DelegationPhase
  childSessionId : Option String
  summary : Option String
  reason : Option String
  deriving DecidableEq, Repr

structure OpenSession where
  sessionId : String
  label : String
  deriving DecidableEq, Repr

inductive HandBackOutcome
  | finished
  | failed
  | applied
  | discarded
  | taskTurn
  deriving DecidableEq, Repr

structure DelegationHandBack where
  delegationId : String
  outcome : HandBackOutcome
  deriving DecidableEq, Repr

structure TimelineMessage where
  id : String
  role : Role
  turnId : Option String
  turnSettled : Bool
  turnStartedAt : Option String
  turnEndedAt : Option String
  assistantPhase : Option AssistantMessagePhase
  content : String
  label : String
  model : Option String
  streaming : Bool
  createdAt : Option String
  status : Option IncompleteStatus
  annotations : List Annotation
  planMode : Bool
  answersPlanMode : Bool
  evidence : Option TurnEvidenceSummary
  retryOfTurnId : Option String
  action : Option OpenSession
  delegation : Option TimelineDelegation
  delegationTurnId : Option String
  handBack : Option DelegationHandBack
  deriving DecidableEq, Repr

def TimelineMessage.new (id : String) (role : Role) (label content : String) : TimelineMessage where
  id := id
  role := role
  turnId := none
  turnSettled := false
  turnStartedAt := none
  turnEndedAt := none
  assistantPhase := none
  content := content
  label := label
  model := none
  streaming := false
  createdAt := none
  status := none
  annotations := []
  planMode := false
  answersPlanMode := false
  evidence := none
  retryOfTurnId := none
  action := none
  delegation := none
  delegationTurnId := none
  handBack := none

end DevCommandCenter.Timeline
