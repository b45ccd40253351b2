import DevCommandCenter.Library.Call
import DevCommandCenter.Library.Transition
import Mathlib.Logic.Function.Basic

/-! The ledger of answers to agent requests, whose claims are made, settled and dropped in any order, and
the in-memory queue that answers through it. -/

namespace DevCommandCenter.Requests

open Library

structure AgentRequestApp where
  bundleId : String
  name : String
  deriving DecidableEq

inductive AgentRequestDetail
  | browserOpen (url : String)
  | computerControl (apps : List AgentRequestApp) (blocker : Option String)
  deriving DecidableEq

structure PendingAgentRequest where
  requestId : String
  sessionId : String
  workspaceId : String
  providerId : String
  reason : String
  expiresAtMs : ℕ
  detail : AgentRequestDetail
  deriving DecidableEq

structure AgentRequestAnswer where
  allow : Bool
  allowedBundleIds : List String
  deriving DecidableEq

inductive AnswerOrigin
  | desktop
  | phone
  deriving DecidableEq

inductive AgentRequestDecision
  | allowed
  | denied
  deriving DecidableEq

structure AgentRequestOutcome where
  requestId : String
  decision : AgentRequestDecision
  origin : AnswerOrigin
  answeredAt : String
  deriving DecidableEq

inductive AgentRequestError
  | alreadyAnswered (outcome : AgentRequestOutcome)
  | notFound
  | invalid (message : String)
  | failed (message : String)
  deriving DecidableEq

def ledgerCapacity : ℕ := 256

structure AnswerLedger where
  answers : String → Option AgentRequestOutcome
  order : List String

namespace AnswerLedger

def empty : AnswerLedger where
  answers _ := none
  order := []

-- the oldest entries go, settled or not, while there are more than the capacity
def trim (answers : String → Option AgentRequestOutcome) : List String → AnswerLedger
  | [] => { answers := answers, order := [] }
  | old :: order =>
      if (old :: order).length > ledgerCapacity then
        trim (Function.update answers old none) order
      else { answers := answers, order := old :: order }

def claim (ledger : AnswerLedger) (outcome : AgentRequestOutcome) :
    Except AgentRequestOutcome AnswerLedger :=
  match ledger.answers outcome.requestId with
  | some existing => .error existing
  | none =>
      .ok (trim (Function.update ledger.answers outcome.requestId (some outcome))
        (ledger.order ++ [outcome.requestId]))

def release (ledger : AnswerLedger) (requestId : String) : AnswerLedger where
  answers := Function.update ledger.answers requestId none
  order := ledger.order.filter (· ≠ requestId)

lemma trim_fits {answers : String → Option AgentRequestOutcome} {order : List String}
    (h : order.length ≤ ledgerCapacity) : trim answers order = ⟨answers, order⟩ := by
  cases order with
  | nil => rfl
  | cons old order => rw [trim, if_neg (Nat.not_lt.mpr h)]

lemma trim_full {answers : String → Option AgentRequestOutcome} {old : String} {order : List String}
    (h : order.length = ledgerCapacity) :
    trim answers (old :: order) = ⟨Function.update answers old none, order⟩ := by
  rw [trim, if_pos (by simp [h]), trim_fits (Nat.le_of_eq h)]

end AnswerLedger

inductive ClaimStatus
  | live
  | settled
  | dropped
  deriving DecidableEq

structure AnswerClaim where
  outcome : AgentRequestOutcome
  status : ClaimStatus
  deriving DecidableEq

/-- The ledger and every claim that succeeded so far, in the order in which they did. -/
structure Answering where
  ledger : AnswerLedger
  claims : List AnswerClaim

def Answering.start : Answering where
  ledger := .empty
  claims := []

inductive AnswerAction
  | claim (outcome : AgentRequestOutcome)
  | settle (claim : ℕ)
  | drop (claim : ℕ)

inductive AnswerResult
  | claimed
  | refused (existing : AgentRequestOutcome)
  | settled (outcome : AgentRequestOutcome)
  | dropped
  deriving DecidableEq

-- a claim is consumed by settling it, and dropped once at most
def Answering.step (s : Answering) : AnswerAction → Option (AnswerResult × Answering)
  | .claim outcome =>
      match s.ledger.claim outcome with
      | .error existing => some (.refused existing, s)
      | .ok ledger => some (.claimed, {
          ledger := ledger
          claims := s.claims ++ [{ outcome := outcome, status := .live }] })
  | .settle i =>
      match s.claims[i]? with
      | some ⟨outcome, .live⟩ =>
          some (.settled outcome, { s with claims := s.claims.set i ⟨outcome, .settled⟩ })
      | _ => none
  | .drop i =>
      match s.claims[i]? with
      | some ⟨outcome, .live⟩ => some (.dropped, {
          ledger := s.ledger.release outcome.requestId
          claims := s.claims.set i ⟨outcome, .dropped⟩ })
      | _ => none

def answering : System Answering AnswerAction AnswerResult where
  start := .start
  step := Answering.step

section Queue

/-- The queue with no desktop behind it; `sent` is what the waiting agents received. -/
structure InMemoryAgentRequests where
  pending : String → Option PendingAgentRequest
  answering : Answering
  sent : List AgentRequestOutcome

def validateAllowedApps (apps : List AgentRequestApp) (allowed : List String) :
    Except AgentRequestError Unit :=
  if allowed = [] then
    .error (.invalid "Escolha pelo menos um app que o agente pode controlar.")
  else if allowed.length > 16 ∨ ∃ id ∈ allowed, ∀ app ∈ apps, app.bundleId ≠ id then
    .error (.invalid "Escolha apps da lista de janelas abertas no computador.")
  else .ok ()

abbrev QueueCall : Type → Type :=
  Call InMemoryAgentRequests AgentRequestError

def InMemoryAgentRequests.act (s : InMemoryAgentRequests) (action : AnswerAction) :
    InMemoryAgentRequests :=
  { s with answering := ((s.answering.step action).map Prod.snd).getD s.answering }

def claimAnswer (outcome : AgentRequestOutcome) : QueueCall ℕ := do
  let s ← .read
  match s.answering.step (.claim outcome) with
  | some (.refused existing, _) => .fail (.alreadyAnswered existing)
  | _ => do
      .update (·.act (.claim outcome))
      return s.answering.claims.length

def takePending (requestId : String) : QueueCall (Option PendingAgentRequest) := do
  let s ← .read
  .update fun s => { s with pending := Function.update s.pending requestId none }
  return s.pending requestId

def putBack (request : PendingAgentRequest) (requestId : String) : QueueCall Unit :=
  .update fun s => { s with pending := Function.update s.pending requestId (some request) }

def leaveUnsettled (claim : ℕ) (error : AgentRequestError) : QueueCall AgentRequestOutcome := do
  .update (·.act (.drop claim))
  .fail error

def checkApps (request : PendingAgentRequest) (answer : AgentRequestAnswer) :
    Except AgentRequestError Unit :=
  match request.detail with
  | .computerControl apps _ =>
      if answer.allow = true then validateAllowedApps apps answer.allowedBundleIds else .ok ()
  | .browserOpen _ => .ok ()

def respond (requestId : String) (answer : AgentRequestAnswer) (origin : AnswerOrigin)
    (answeredAt : String) : QueueCall AgentRequestOutcome := do
  let outcome : AgentRequestOutcome := {
    requestId := requestId
    decision := if answer.allow = true then .allowed else .denied
    origin := origin
    answeredAt := answeredAt }
  let claim ← claimAnswer outcome
  match ← takePending requestId with
  | none => leaveUnsettled claim .notFound
  | some request =>
      match checkApps request answer with
      | .error error => do
          putBack request requestId
          leaveUnsettled claim error
      | .ok () => do
          .update (·.act (.settle claim))
          .update fun s => { s with sent := s.sent ++ [outcome] }
          return outcome

def LedgerReachable (s : InMemoryAgentRequests) : Prop :=
  answering.Reachable s.answering

lemma act_reachable (action : AnswerAction) (s : InMemoryAgentRequests) (h : LedgerReachable s) :
    LedgerReachable (s.act action) := by
  unfold LedgerReachable InMemoryAgentRequests.act
  cases hstep : s.answering.step action with
  | none => exact h
  | some next => exact .step h hstep

lemma claimAnswer_reachable (outcome : AgentRequestOutcome) :
    (claimAnswer outcome).Keeps LedgerReachable := by
  unfold claimAnswer
  refine Call.readOnly_read.keeps.bind fun s => ?_
  split
  · exact Call.keeps_fail _
  · refine Call.Keeps.bind (Call.keeps_update ?_) fun _ => Call.keeps_pure _
    exact act_reachable _

lemma takePending_reachable (requestId : String) :
    (takePending requestId).Keeps LedgerReachable := by
  unfold takePending
  refine Call.readOnly_read.keeps.bind fun s => ?_
  refine Call.Keeps.bind (Call.keeps_update ?_) fun _ => Call.keeps_pure _
  exact fun _ h => h

lemma leaveUnsettled_reachable (claim : ℕ) (error : AgentRequestError) :
    (leaveUnsettled claim error).Keeps LedgerReachable := by
  unfold leaveUnsettled
  refine Call.Keeps.bind (Call.keeps_update ?_) fun _ => Call.keeps_fail _
  exact act_reachable _

theorem respond_reachable (requestId : String) (answer : AgentRequestAnswer)
    (origin : AnswerOrigin) (answeredAt : String) :
    (respond requestId answer origin answeredAt).Keeps LedgerReachable := by
  unfold respond
  refine (claimAnswer_reachable _).bind fun claim => ?_
  refine (takePending_reachable requestId).bind fun found => ?_
  cases found with
  | none => exact leaveUnsettled_reachable claim .notFound
  | some request =>
      dsimp only
      split
      · refine Call.Keeps.bind (Call.keeps_update ?_) fun _ => leaveUnsettled_reachable claim _
        exact fun _ h => h
      · refine Call.Keeps.bind (Call.keeps_update (act_reachable _)) fun _ => ?_
        refine Call.Keeps.bind (Call.keeps_update ?_) fun _ => Call.keeps_pure _
        exact fun _ h => h

end Queue

end DevCommandCenter.Requests
