import DevCommandCenter.Library.BoundedMap
import DevCommandCenter.Library.Interleaving
import DevCommandCenter.Session.Events

/-! Answers to a provider's permission requests and questions. Other calls come between the steps of each. -/

namespace DevCommandCenter.ProviderRequests

abbrev RequestKey := SessionId × String

inductive AnsweredProviderRequest
  | permission (behavior : String)
  | userInput (answers : List ProviderUserInputAnswer)
  deriving DecidableEq

structure ProviderPermissionRequest where
  requestId : String
  toolName : String
  title : Option String
  description : Option String
  command : Option String
  file : Option String
  deriving DecidableEq

inductive RespondToProviderRequestError
  | alreadyAnswered (answer : AnsweredProviderRequest)
  | failed (message : String)
  deriving DecidableEq

def answeredProviderRequestsCap : ℕ := 512

/-- The durable events, the claims in memory, and every answer that reached the provider. -/
structure AnswerWorld where
  events : List SessionEventRecord
  claims : Library.BoundedMap RequestKey AnsweredProviderRequest
  forwarded : List (RequestKey × AnsweredProviderRequest)

def AnswerWorld.history (world : AnswerWorld) (sessionId : SessionId) : List SessionEventRecord :=
  world.events.filter fun event => event.sessionId = sessionId

def resolvedAnswer (requestId : String) : SessionEventKind → Option AnsweredProviderRequest
  | .turnPermissionResolved _ resolved behavior =>
      if resolved = requestId then some (.permission behavior) else none
  | .turnUserInputResolved _ resolved answers =>
      if resolved = requestId then some (.userInput answers) else none
  | _ => none

def answeredInHistory (events : List SessionEventRecord) (requestId : String) :
    Option AnsweredProviderRequest :=
  events.reverse.findSome? fun event => resolvedAnswer requestId event.kind

def permissionRequested (requestId : String) :
    SessionEventKind → Option (TurnId × ProviderPermissionRequest)
  | .turnPermissionRequested turnId requested toolName title description command file =>
      if requested = requestId then some (turnId, {
        requestId := requested
        toolName := toolName
        title := title
        description := description
        command := command
        file := file })
      else none
  | _ => none

def startedPrompt (turnId : TurnId) : SessionEventKind → Option String
  | .turnStarted started prompt .. => if started = turnId then some prompt else none
  | _ => none

def pendingToolGuardContext (events : List SessionEventRecord) (requestId : String) :
    Option (String × ProviderPermissionRequest) := do
  let (turnId, request) ←
    events.reverse.findSome? fun event => permissionRequested requestId event.kind
  let prompt ← events.reverse.findSome? fun event => startedPrompt turnId event.kind
  return (prompt, request)

def claimProviderRequest (claims : Library.BoundedMap RequestKey AnsweredProviderRequest)
    (key : RequestKey) (answer : AnsweredProviderRequest) :
    Option AnsweredProviderRequest × Library.BoundedMap RequestKey AnsweredProviderRequest :=
  match claims.get key with
  | some existing => (some existing, claims)
  | none => (none, claims.insert answeredProviderRequestsCap key answer)

inductive RespondCall
  | called (key : RequestKey) (answer : AnsweredProviderRequest)
  | claiming (key : RequestKey) (answer : AnsweredProviderRequest)
      (events : List SessionEventRecord)
  | claimed (key : RequestKey) (answer : AnsweredProviderRequest)
      (events : List SessionEventRecord)
  | settling (key : RequestKey)
  | forwarding (key : RequestKey) (answer : AnsweredProviderRequest)
  | releasing (key : RequestKey) (answer : AnsweredProviderRequest) (message : String)
  | returned (key : RequestKey) (result : Except RespondToProviderRequestError Unit)
  | resolving (key : RequestKey) (answer : AnsweredProviderRequest)
  | appending (event : SessionEventRecord)
  | appended

def respondToUserInput (sessionId : SessionId) (requestId : String)
    (answers : List ProviderUserInputAnswer) : RespondCall :=
  .called (sessionId, requestId) (.userInput answers)

def respondToPermissionRequest (sessionId : SessionId) (requestId behavior : String) :
    RespondCall :=
  .called (sessionId, requestId) (.permission behavior)

/-- `blocks` is the tool guard's verdict, `fault` the error a step ends with, and the rest is what the
provider's own event carries. -/
structure RespondDraw where
  blocks : Bool
  fault : Option String
  turnId : TurnId
  eventId : String
  occurredAt : String

def resolvedKind (draw : RespondDraw) (requestId : String) :
    AnsweredProviderRequest → SessionEventKind
  | .permission behavior => .turnPermissionResolved draw.turnId requestId behavior
  | .userInput answers => .turnUserInputResolved draw.turnId requestId answers

def isResolved : SessionEventKind → Bool
  | .turnPermissionResolved .. | .turnUserInputResolved .. => true
  | _ => false

def denied : AnsweredProviderRequest :=
  .permission "deny"

def isGuarded (key : RequestKey) (answer : AnsweredProviderRequest)
    (events : List SessionEventRecord) : Bool :=
  answer = .permission "allow" && (pendingToolGuardContext events key.2).isSome

def respondStep (world : AnswerWorld) (call : RespondCall) (draw : RespondDraw) :
    Option (AnswerWorld × RespondCall) :=
  match call with
  | .called key answer =>
      match draw.fault with
      | some message => some (world, .returned key (.error (.failed message)))
      | none =>
          match answeredInHistory (world.history key.1) key.2 with
          | some earlier => some (world, .returned key (.error (.alreadyAnswered earlier)))
          | none => some (world, .claiming key answer (world.history key.1))
  | .claiming key answer events =>
      match draw.fault with
      | some message => some (world, .returned key (.error (.failed message)))
      | none =>
          match claimProviderRequest world.claims key answer with
          | (some earlier, _) => some (world, .returned key (.error (.alreadyAnswered earlier)))
          | (none, claims) => some ({ world with claims := claims }, .claimed key answer events)
  | .claimed key answer events =>
      if isGuarded key answer events && draw.blocks then some (world, .settling key)
      else some (world, .forwarding key answer)
  | .settling key =>
      some ({ world with claims := world.claims.replace key denied }, .forwarding key denied)
  | .forwarding key answer =>
      match draw.fault with
      | some message => some (world, .releasing key answer message)
      | none => some ({ world with forwarded := world.forwarded ++ [(key, answer)] },
          .returned key (.ok ()))
  | .releasing key _ message =>
      some ({ world with claims := world.claims.erase key },
        .returned key (.error (.failed message)))
  | .resolving key answer =>
      -- the provider resolves a request once an answer has reached it
      if (key, answer) ∈ world.forwarded then
        some ({ world with events := world.events ++ [{
          eventId := draw.eventId
          sessionId := key.1
          sequence := ((world.history key.1).getLast?.map fun event => event.sequence + 1).getD 1
          occurredAt := draw.occurredAt
          kind := resolvedKind draw key.2 answer }] }, .appended)
      else none
  | .appending event =>
      if isResolved event.kind then none
      else some ({ world with events := world.events ++ [event] }, .appended)
  | .returned .. | .appended => none

def entersRequest : RespondCall → Bool
  | .called .. | .resolving .. | .appending _ => true
  | _ => false

def providerRequests : Library.System (Library.Pool AnswerWorld RespondCall)
    (Library.PoolAction RespondCall RespondDraw) Unit :=
  Library.pool { events := [], claims := .empty, forwarded := [] } entersRequest respondStep

def RespondCall.holds : RespondCall → Option RequestKey
  | .claimed key .. | .settling key | .forwarding key _ | .releasing key .. => some key
  | _ => none

def RespondCall.pending : RespondCall → Option (RequestKey × AnsweredProviderRequest)
  | .claimed key answer _ | .forwarding key answer => some (key, answer)
  | .settling key => some (key, denied)
  | _ => none

def RespondCall.told : RespondCall → Option (RequestKey × AnsweredProviderRequest)
  | .returned key (.error (.alreadyAnswered answer)) => some (key, answer)
  | _ => none

end DevCommandCenter.ProviderRequests
