import Mathlib.Algebra.Order.Ring.Int
import DevCommandCenter.Library.SlidingWindow
import DevCommandCenter.Session.Events

/-! What a session's history says of the usage limit that stopped its latest turn. Times are instants
in nanoseconds, and `parseTime` reads one from its RFC 3339 text. -/

namespace DevCommandCenter.UsageLimit

def maxAutoResumes : ℕ := 3

def autoResumeWindowHours : ℤ := 12

def hours (count : ℤ) : ℤ := count * (3600 * 10 ^ 9)

structure SessionUsageLimit where
  turnId : TurnId
  hitAt : String
  resetsAt : Option String
  autoResume : Bool
  autoResumesUsed : ℕ
  deriving DecidableEq

inductive UsageLimitPhase
  | waiting
  | paused
  deriving DecidableEq

inductive UsageLimitPauseReason
  | unknownReset
  | resetPassed
  | attemptsExhausted
  deriving DecidableEq

structure UsageLimitStatus where
  phase : UsageLimitPhase
  pauseReason : Option UsageLimitPauseReason
  deriving DecidableEq

def paused (reason : UsageLimitPauseReason) : UsageLimitStatus where
  phase := .paused
  pauseReason := some reason

structure LimitScan where
  latestTurn : Option TurnId
  endedAt : Option String
  resetsAt : Option String
  autoResumeAtHit : Option Bool
  hitSeq : Option ℕ
  closed : Bool

def LimitScan.start : LimitScan where
  latestTurn := none
  endedAt := none
  resetsAt := none
  autoResumeAtHit := none
  hitSeq := none
  closed := false

def LimitScan.next (scan : LimitScan) (event : SessionEventRecord) : LimitScan :=
  match event.kind with
  | .turnStarted turnId .. => { LimitScan.start with latestTurn := some turnId }
  | .turnAborted turnId _ =>
      if scan.latestTurn = some turnId then { scan with endedAt := some event.occurredAt } else scan
  | .turnCompleted turnId =>
      -- a turn that still completed was not stopped by the limit
      if scan.latestTurn = some turnId then { scan with hitSeq := none, autoResumeAtHit := none }
      else scan
  | .usageLimitReached turnId reported autoResume _ =>
      if scan.latestTurn = some turnId then { scan with
        resetsAt := reported.or scan.resetsAt
        autoResumeAtHit := scan.autoResumeAtHit.or (some autoResume)
        hitSeq := scan.hitSeq.or (some event.sequence) }
      else scan
  | .sessionCompleted | .sessionAborted _ => { scan with closed := true }
  | _ => scan

def autoResumeChoice : SessionEventKind → Option Bool
  | .usageLimitAutoResumeChanged enabled => some enabled
  | _ => none

def sessionAutoResumeChoice (events : List SessionEventRecord) : Option Bool :=
  events.reverse.findSome? fun event => autoResumeChoice event.kind

def isAutoResume : SessionEventKind → Bool
  | .usageLimitResumed automatic _ _ => automatic
  | _ => false

section Times

variable (parseTime : String → Option ℤ)

def usageLimitPhase (limit : SessionUsageLimit) (now : ℤ) : UsageLimitStatus :=
  match limit.resetsAt.bind parseTime with
  | none => paused .unknownReset
  | some resetsAt =>
      if limit.autoResume && maxAutoResumes ≤ limit.autoResumesUsed then paused .attemptsExhausted
      else if now < resetsAt || limit.autoResume then { phase := .waiting, pauseReason := none }
      else paused .resetPassed

def autoResumeTimes (events : List SessionEventRecord) : List ℤ :=
  (events.filter fun event => isAutoResume event.kind).filterMap fun event =>
    parseTime event.occurredAt

def autoResumesBefore (events : List SessionEventRecord) (time : ℤ) : ℕ :=
  (autoResumeTimes parseTime events).countP
    (Library.inWindow (time - hours autoResumeWindowHours) time)

def pausedAtHit (events : List SessionEventRecord) (resetsAt : Option String) (autoResume : Bool)
    (time : ℤ) : Bool :=
  (resetsAt.bind parseTime).isNone ||
    (autoResume && maxAutoResumes ≤ autoResumesBefore parseTime events time)

def sessionUsageLimit (events : List SessionEventRecord) : Option SessionUsageLimit := do
  let visible := visibleSessionEvents events
  let scan := visible.foldl LimitScan.next .start
  let turnId ← scan.latestTurn
  let hitAt ← scan.endedAt
  let hitSeq ← scan.hitSeq
  if scan.closed then none
  else return {
    turnId := turnId
    hitAt := hitAt
    resetsAt := scan.resetsAt
    autoResume := (sessionAutoResumeChoice
      (visible.reverse.takeWhile fun event => hitSeq < event.sequence).reverse).or
        scan.autoResumeAtHit |>.getD false
    autoResumesUsed := ((parseTime hitAt).map (autoResumesBefore parseTime events)).getD 0 }

end Times

end DevCommandCenter.UsageLimit
