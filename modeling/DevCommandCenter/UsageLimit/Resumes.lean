import DevCommandCenter.Library.Interleaving
import DevCommandCenter.Session.TurnDispatch
import DevCommandCenter.UsageLimit.Domain

/-! The resumes of one session after its usage limit, the turns that end on that limit, and what the rest
of the app writes meanwhile. -/

namespace DevCommandCenter.UsageLimit

def continuationPrompt : String :=
  "Continue de onde parou."

structure Resume where
  automatic : Bool
  accountLabel : Option String
  deriving DecidableEq

/-- How far a call has come. `attachError` says why the provider could not be started for the turn. -/
inductive LimitStage
  | resuming (resume : Resume)
  | reading (resume : Resume)
  | checking (resume : Resume) (events : List SessionEventRecord) (limit : SessionUsageLimit)
  | checked (resume : Resume) (events : List SessionEventRecord) (limit : SessionUsageLimit)
  | sending (resume : Resume) (planMode : Option Bool)
      (approvalPolicy : Option ProviderApprovalPolicy)
  | starting (resume : Resume) (attachError : Option String) (planMode : Option Bool)
      (approvalPolicy : Option ProviderApprovalPolicy)
  | announcing (resume : Resume) (attachError : Option String) (turnId : TurnId)
  | unbound (resume : Resume) (turnId : TurnId) (reason : String)
  | activating (resume : Resume) (turnId : TurnId)
  | prompting (resume : Resume) (turnId : TurnId)
  | aborting (bound : Bool) (turnId : TurnId) (message : String)
  | recording (resume : Resume) (turnId : TurnId)
  | releasing (result : Except CoreError TurnId)
  | resumed (result : Except CoreError TurnId)
  | limited (turnId : TurnId) (resetsAt : Option String) (reason : String)
  | hitting (turnId : TurnId) (resetsAt : Option String) (reason : String)
  | reaching (turnId : TurnId) (resetsAt : Option String) (reason : String) (autoResume : Bool)
      (paused : Bool)
  | stopping (turnId : TurnId) (reason : String)
  | appending (kind : SessionEventKind)
  | stamping (kind : SessionEventKind)
  | binding (turnId : Option TurnId)
  | ended

structure LimitCall where
  stage : LimitStage
  since : ℤ

def sendUsageLimitContinuation (automatic : Bool) (accountLabel : Option String) : LimitCall where
  stage := .resuming ⟨automatic, accountLabel⟩
  since := 0

def emitTurnUsageLimited (turnId : TurnId) (resetsAt : Option String) (reason : String) :
    LimitCall where
  stage := .limited turnId resetsAt reason
  since := 0

/-- `now` is a reading of the clock and `stamp` its text; `autoResume` is the global choice. -/
structure LimitDraw where
  now : ℤ
  stamp : String
  eventId : String
  turnId : TurnId
  model : Option String
  attachError : Option String
  autoResume : Bool
  fault : Option String

/-- `autoStarts` are the times at which continuation turns were started automatically. -/
structure LimitWorld where
  events : List SessionEventRecord
  inFlight : Bool
  currentTurnId : Option TurnId
  clock : ℤ
  autoStarts : List ℤ

def stoppedSettings (events : List SessionEventRecord) (turnId : TurnId) :
    Option Bool × Option ProviderApprovalPolicy :=
  (events.findSome? fun event =>
    match event.kind with
    | .turnStarted started _ planMode _ _ _ approvalPolicy =>
        if started = turnId then some (planMode, approvalPolicy) else none
    | _ => none).getD (none, none)

section Steps

variable (sessionId : SessionId) (parseTime : String → Option ℤ)

def LimitWorld.append (world : LimitWorld) (draw : LimitDraw) (kind : SessionEventKind) :
    LimitWorld :=
  { world with events := world.events ++ [{
      eventId := draw.eventId
      sessionId := sessionId
      sequence := (world.events.getLast?.map fun event => event.sequence + 1).getD 1
      occurredAt := draw.stamp
      kind := kind }] }

/-- A turn has one terminal event, the first. Only a bound turn is cleared as the current one. -/
def LimitWorld.terminalize (world : LimitWorld) (draw : LimitDraw) (turnId : TurnId)
    (reason : String) (bound : Bool) : LimitWorld :=
  let ended := world.events.any fun event => (terminal event.kind).any fun last => last.1 = turnId
  { (if ended then world else world.append sessionId draw (.turnAborted turnId (some reason))) with
    currentTurnId :=
      if bound && world.currentTurnId = some turnId then none else world.currentTurnId }

def isDue (limit : SessionUsageLimit) (now : ℤ) : Bool :=
  limit.autoResume && ((limit.resetsAt.bind parseTime).any fun reset => reset ≤ now) &&
    (usageLimitPhase parseTime limit now).phase = .waiting

def LimitWorld.start (world : LimitWorld) (draw : LimitDraw) (resume : Resume)
    (planMode : Option Bool) (approvalPolicy : Option ProviderApprovalPolicy) : LimitWorld :=
  { world.append sessionId draw
      (.turnStarted draw.turnId continuationPrompt planMode draw.model none none approvalPolicy) with
    autoStarts := if resume.automatic then world.autoStarts ++ [draw.now] else world.autoStarts }

def stageStep (world : LimitWorld) (draw : LimitDraw) : LimitStage → Option (LimitWorld × LimitStage)
  | .resuming resume =>
      if world.inFlight then
        some (world, .resumed (.error (.invalidInput
          "A retomada desta tarefa já está em andamento.")))
      else some ({ world with inFlight := true }, .reading resume)
  | .reading resume =>
      match draw.fault with
      | some message => some (world, .releasing (.error (.repository message)))
      | none =>
          match sessionUsageLimit parseTime world.events with
          | none => some (world, .releasing (.error (.invalidInput
              "Esta tarefa não está parada por limite de uso.")))
          | some limit => some (world, .checking resume world.events limit)
  | .checking resume events limit =>
      if resume.automatic && !isDue parseTime limit draw.now then
        some (world, .releasing (.error (.invalidInput "automatic resume is not due")))
      else some (world, .checked resume events limit)
  | .checked resume events limit =>
      match draw.fault with
      | some message => some (world, .releasing (.error (.repository message)))
      | none =>
          if world.currentTurnId.isSome then
            some (world, .releasing (.error (.invalidInput
              "A tarefa já tem um turno em andamento.")))
          else
            let settings := stoppedSettings events limit.turnId
            some (world, .sending resume settings.1 settings.2)
  | .sending resume planMode approvalPolicy =>
      match draw.fault with
      | some message => some (world, .releasing (.error (.provider message)))
      | none =>
          if (activeTurnId world.events).isSome then
            some (world, .releasing (.error (.provider
              "invalid input: session already has an active turn")))
          else some (world, .starting resume draw.attachError planMode approvalPolicy)
  | .starting resume attachError planMode approvalPolicy =>
      some (world.start sessionId draw resume planMode approvalPolicy,
        .announcing resume attachError draw.turnId)
  | .announcing resume attachError turnId =>
      match draw.fault, attachError with
      | some message, none => some (world, .releasing (.error (.provider message)))
      | some _, some reason => some (world, .releasing (.error (.provider reason)))
      | none, none => some (world, .activating resume turnId)
      | none, some reason => some (world, .unbound resume turnId reason)
  | .unbound resume turnId reason =>
      match draw.fault with
      | some _ => some (world, .releasing (.error (.provider reason)))
      | none => some (world.terminalize sessionId draw turnId reason false, .recording resume turnId)
  | .activating resume turnId =>
      match draw.fault with
      | some message => some (world, .aborting false turnId message)
      | none => some ({ world with currentTurnId := some turnId }, .prompting resume turnId)
  | .prompting resume turnId =>
      match draw.fault with
      | some message => some (world, .aborting true turnId message)
      | none => some (world, .recording resume turnId)
  | .aborting bound turnId message =>
      if bound && world.currentTurnId.any (fun current => current ≠ turnId) then
        some (world, .releasing (.error (.provider message)))
      else some (world.terminalize sessionId draw turnId message bound,
        .releasing (.error (.provider message)))
  | .recording resume turnId =>
      some (world.append sessionId draw
        (.usageLimitResumed resume.automatic (some turnId) resume.accountLabel), .releasing (.ok turnId))
  | .releasing result => some ({ world with inFlight := false }, .resumed result)
  | .limited turnId resetsAt reason =>
      some (world, if world.currentTurnId.any (fun current => current ≠ turnId) then .ended
        else .hitting turnId resetsAt reason)
  | .hitting turnId resetsAt reason =>
      match draw.fault with
      | some _ => some (world, .ended)
      | none =>
          let autoResume := (sessionAutoResumeChoice world.events).getD draw.autoResume
          let paused := pausedAtHit parseTime world.events resetsAt autoResume draw.now
          some (world, .reaching turnId resetsAt reason autoResume paused)
  | .reaching turnId resetsAt reason autoResume paused =>
      some (world.append sessionId draw (.usageLimitReached turnId resetsAt autoResume paused),
        .stopping turnId reason)
  | .stopping turnId reason => some (world.terminalize sessionId draw turnId reason true, .ended)
  | .appending kind => some (world, .stamping kind)
  | .stamping kind =>
      if isAutoResume kind then none else some (world.append sessionId draw kind, .ended)
  | .binding turnId => some ({ world with currentTurnId := turnId }, .ended)
  | .resumed _ | .ended => none

def limitStep (world : LimitWorld) (call : LimitCall) (draw : LimitDraw) :
    Option (LimitWorld × LimitCall) :=
  if call.since ≤ draw.now ∧ parseTime draw.stamp = some draw.now then
    let clock := max world.clock draw.now
    (stageStep sessionId parseTime { world with clock := clock } draw call.stage).map
      fun next => (next.1, ⟨next.2, clock⟩)
  else none

def entersLimit (call : LimitCall) : Bool :=
  match call.stage with
  | .resuming _ | .limited .. | .appending _ | .binding _ => true
  | _ => false

def limitResumes : Library.System (Library.Pool LimitWorld LimitCall)
    (Library.PoolAction LimitCall LimitDraw) Unit :=
  Library.pool { events := [], inFlight := false, currentTurnId := none, clock := 0, autoStarts := [] }
    entersLimit (limitStep sessionId parseTime)

end Steps

end DevCommandCenter.UsageLimit
