import DevCommandCenter.Library.LastSeen

/-! The objective of a session: its record, and the calls that account turns and retries to it. -/

namespace DevCommandCenter.Session

open Library

inductive ObjectiveStatus
  | active
  | paused
  | done
  deriving DecidableEq

inductive ObjectivePauseReason
  | manual
  | consecutiveFailures
  | turnBudget
  deriving DecidableEq

inductive ObjectiveTransition
  | pause
  | resume
  | complete
  deriving DecidableEq

inductive ObjectiveTurnOutcome
  | completed
  | failed
  deriving DecidableEq

structure ValidatedObjectiveDraft where
  intent : String
  doneWhen : String
  maxConsecutiveFailures : UInt32
  maxTurns : Option UInt32
  deriving DecidableEq

structure SessionObjective where
  sessionId : String
  intent : String
  doneWhen : String
  status : ObjectiveStatus
  pauseReason : Option ObjectivePauseReason
  maxConsecutiveFailures : UInt32
  maxTurns : Option UInt32
  turnsUsed : UInt32
  consecutiveFailures : UInt32
  lastCountedTurnId : Option String
  retries : UInt32
  lastRetryTurnId : Option String
  generation : UInt64
  updatedAt : String
  deriving DecidableEq

def u32Max : ℕ := 2 ^ 32 - 1

def saturatingAdd (a b : UInt32) : UInt32 :=
  .ofNat (min (a.toNat + b.toNat) u32Max)

lemma toNat_saturatingAdd (a b : UInt32) :
    (saturatingAdd a b).toNat = min (a.toNat + b.toNat) u32Max := by
  apply UInt32.toNat_ofNat_of_lt'
  exact Nat.lt_of_le_of_lt (Nat.min_le_right _ _) (by decide)

namespace SessionObjective

def new (sessionId : String) (draft : ValidatedObjectiveDraft) (now : String) :
    SessionObjective where
  sessionId := sessionId
  intent := draft.intent
  doneWhen := draft.doneWhen
  status := .active
  pauseReason := none
  maxConsecutiveFailures := draft.maxConsecutiveFailures
  maxTurns := draft.maxTurns
  turnsUsed := 0
  consecutiveFailures := 0
  lastCountedTurnId := none
  retries := 0
  lastRetryTurnId := none
  generation := 0
  updatedAt := now

def recordRetry (objective : SessionObjective) (retryingTurnId now : String) :
    Bool × SessionObjective :=
  if objective.lastRetryTurnId = some retryingTurnId then (false, objective)
  else (true, { objective with
    lastRetryTurnId := some retryingTurnId
    retries := saturatingAdd objective.retries 1
    updatedAt := now })

def applyDraft (objective : SessionObjective) (draft : ValidatedObjectiveDraft) (now : String) :
    SessionObjective :=
  let rewritten := { objective with
    intent := draft.intent
    doneWhen := draft.doneWhen
    maxConsecutiveFailures := draft.maxConsecutiveFailures
    maxTurns := draft.maxTurns
    updatedAt := now }
  if objective.status = .done ∨ objective.pauseReason = some .turnBudget ∨
      objective.pauseReason = some .consecutiveFailures then
    { rewritten with status := .active, pauseReason := none, consecutiveFailures := 0 }
  else rewritten

def transition (objective : SessionObjective) (move : ObjectiveTransition) (now : String) :
    Bool × SessionObjective :=
  match move with
  | .pause =>
      if objective.status = .active then
        (true, { objective with status := .paused, pauseReason := some .manual, updatedAt := now })
      else (false, objective)
  | .resume =>
      if objective.status = .active then (false, objective)
      else (true, { objective with
        status := .active, pauseReason := none, consecutiveFailures := 0, updatedAt := now })
  | .complete =>
      if objective.status = .done then (false, objective)
      else (true, { objective with status := .done, pauseReason := none, updatedAt := now })

def countCompleted (objective : SessionObjective) : SessionObjective :=
  let used := saturatingAdd objective.turnsUsed 1
  let counted := { objective with turnsUsed := used, consecutiveFailures := 0 }
  if objective.status = .active ∧ ∃ maxTurns ∈ objective.maxTurns, maxTurns ≤ used then
    { counted with status := .paused, pauseReason := some .turnBudget }
  else counted

def countFailed (objective : SessionObjective) : SessionObjective :=
  let failures := saturatingAdd objective.consecutiveFailures 1
  let counted := { objective with consecutiveFailures := failures }
  if objective.status = .active ∧ objective.maxConsecutiveFailures ≤ failures then
    { counted with status := .paused, pauseReason := some .consecutiveFailures }
  else counted

def recordTurnOutcome (objective : SessionObjective) (turnId : String)
    (outcome : ObjectiveTurnOutcome) (now : String) : Bool × SessionObjective :=
  if objective.lastCountedTurnId = some turnId then (false, objective)
  else
    let counted :=
      match outcome with
      | .completed => objective.countCompleted
      | .failed => objective.countFailed
    (true, { counted with lastCountedTurnId := some turnId, updatedAt := now })

end SessionObjective

inductive ObjectiveCall
  | recordTurnOutcome (turnId : String) (outcome : ObjectiveTurnOutcome) (now : String)
  | recordRetry (retryingTurnId now : String)
  | transition (move : ObjectiveTransition) (now : String)
  | applyDraft (draft : ValidatedObjectiveDraft) (now : String)

-- rewriting the draft has no answer
def ObjectiveCall.apply (objective : SessionObjective) :
    ObjectiveCall → Option Bool × SessionObjective
  | .recordTurnOutcome turnId outcome now =>
      let (changed, next) := objective.recordTurnOutcome turnId outcome now
      (some changed, next)
  | .recordRetry retryingTurnId now =>
      let (changed, next) := objective.recordRetry retryingTurnId now
      (some changed, next)
  | .transition move now =>
      let (changed, next) := objective.transition move now
      (some changed, next)
  | .applyDraft draft now => (none, objective.applyDraft draft now)

def SessionObjective.run (objective : SessionObjective) (calls : List ObjectiveCall) :
    SessionObjective :=
  calls.foldl (fun objective call => (call.apply objective).2) objective

lemma SessionObjective.run_concat (objective : SessionObjective) (calls : List ObjectiveCall)
    (call : ObjectiveCall) :
    objective.run (calls ++ [call]) = (call.apply (objective.run calls)).2 := by
  simp [run]

def ObjectiveCall.countedTurn : ObjectiveCall → Option (String × Bool)
  | .recordTurnOutcome turnId outcome _ => some (turnId, decide (outcome = .completed))
  | _ => none

def ObjectiveCall.retriedTurn : ObjectiveCall → Option (String × Bool)
  | .recordRetry retryingTurnId _ => some (retryingTurnId, true)
  | _ => none

namespace SessionObjective

def turnTally (objective : SessionObjective) : Tally String where
  last := objective.lastCountedTurnId
  count := objective.turnsUsed.toNat

def retryTally (objective : SessionObjective) : Tally String where
  last := objective.lastRetryTurnId
  count := objective.retries.toNat

structure Accounts (objective : SessionObjective) (turns retries : Tally String) : Prop where
  lastTurn : objective.lastCountedTurnId = turns.last
  turnsUsed : objective.turnsUsed.toNat = min turns.count u32Max
  lastRetry : objective.lastRetryTurnId = retries.last
  retries : objective.retries.toNat = min retries.count u32Max

variable {objective : SessionObjective} {turns retries : Tally String}

lemma min_counter (a : UInt32) : a.toNat = min a.toNat u32Max := by
  have := a.toNat_lt
  unfold u32Max
  omega

lemma accounts_start (objective : SessionObjective) :
    objective.Accounts objective.turnTally objective.retryTally where
  lastTurn := rfl
  turnsUsed := min_counter _
  lastRetry := rfl
  retries := min_counter _

lemma toNat_saturatingAdd_one {a : UInt32} {count : ℕ} (h : a.toNat = min count u32Max) :
    (saturatingAdd a 1).toNat = min (count + 1) u32Max := by
  rw [toNat_saturatingAdd, h, UInt32.toNat_one]
  omega

lemma Accounts.recordRetry (h : objective.Accounts turns retries) (retryingTurnId now : String) :
    (objective.recordRetry retryingTurnId now).2.Accounts turns
      (retries.record (some (retryingTurnId, true))) := by
  unfold SessionObjective.recordRetry
  by_cases hlast : objective.lastRetryTurnId = some retryingTurnId
  · rw [if_pos hlast, Tally.record_last (h.lastRetry.symm.trans hlast)]
    exact h
  · rw [if_neg hlast, Tally.record_other fun heq => hlast (h.lastRetry.trans heq)]
    exact ⟨h.lastTurn, h.turnsUsed, rfl, toNat_saturatingAdd_one h.retries⟩

lemma Accounts.countCompleted (h : objective.Accounts turns retries) (turnId now : String) :
    Accounts { objective.countCompleted with lastCountedTurnId := some turnId, updatedAt := now }
      { last := some turnId, count := turns.count + 1 } retries := by
  unfold SessionObjective.countCompleted
  dsimp only
  split <;> exact ⟨rfl, toNat_saturatingAdd_one h.turnsUsed, h.lastRetry, h.retries⟩

lemma Accounts.countFailed (h : objective.Accounts turns retries) (turnId now : String) :
    Accounts { objective.countFailed with lastCountedTurnId := some turnId, updatedAt := now }
      { last := some turnId, count := turns.count } retries := by
  unfold SessionObjective.countFailed
  dsimp only
  split <;> exact ⟨rfl, h.turnsUsed, h.lastRetry, h.retries⟩

lemma Accounts.recordTurnOutcome (h : objective.Accounts turns retries) (turnId : String)
    (outcome : ObjectiveTurnOutcome) (now : String) :
    (objective.recordTurnOutcome turnId outcome now).2.Accounts
      (turns.record (some (turnId, decide (outcome = .completed)))) retries := by
  unfold SessionObjective.recordTurnOutcome
  by_cases hlast : objective.lastCountedTurnId = some turnId
  · rw [if_pos hlast, Tally.record_last (h.lastTurn.symm.trans hlast)]
    exact h
  · rw [if_neg hlast, Tally.record_other fun heq => hlast (h.lastTurn.trans heq)]
    cases outcome with
    | completed => exact h.countCompleted turnId now
    | failed => exact h.countFailed turnId now

lemma Accounts.transition (h : objective.Accounts turns retries) (move : ObjectiveTransition)
    (now : String) : (objective.transition move now).2.Accounts turns retries := by
  cases move <;> unfold SessionObjective.transition <;> dsimp only <;> split <;>
    exact ⟨h.lastTurn, h.turnsUsed, h.lastRetry, h.retries⟩

lemma Accounts.applyDraft (h : objective.Accounts turns retries) (draft : ValidatedObjectiveDraft)
    (now : String) : (objective.applyDraft draft now).Accounts turns retries := by
  unfold SessionObjective.applyDraft
  dsimp only
  split <;> exact ⟨h.lastTurn, h.turnsUsed, h.lastRetry, h.retries⟩

theorem Accounts.apply (h : objective.Accounts turns retries) (call : ObjectiveCall) :
    (call.apply objective).2.Accounts (turns.record call.countedTurn)
      (retries.record call.retriedTurn) := by
  cases call with
  | recordTurnOutcome turnId outcome now => exact h.recordTurnOutcome turnId outcome now
  | recordRetry retryingTurnId now => exact h.recordRetry retryingTurnId now
  | transition move now => exact h.transition move now
  | applyDraft draft now => exact h.applyDraft draft now

theorem accounts_run (objective : SessionObjective) (calls : List ObjectiveCall) :
    (objective.run calls).Accounts
      (objective.turnTally.recordAll ObjectiveCall.countedTurn calls)
      (objective.retryTally.recordAll ObjectiveCall.retriedTurn calls) := by
  induction calls using List.reverseRecOn with
  | nil => exact accounts_start objective
  | append_singleton calls call ih =>
      rw [run_concat, Tally.recordAll_concat, Tally.recordAll_concat]
      exact ih.apply call

def Replayed (objective : SessionObjective) (before : List ObjectiveCall) (call : ObjectiveCall) :
    Prop :=
  (∃ e, call.countedTurn = some e ∧ e.1 ∈ objective.turnTally.seen ObjectiveCall.countedTurn before) ∨
    ∃ e, call.retriedTurn = some e ∧
      e.1 ∈ objective.retryTally.seen ObjectiveCall.retriedTurn before

/-- Each turn and each retry is counted once, beside those that the record starts with. -/
structure ExactlyOnce (objective : SessionObjective) (calls : List ObjectiveCall) : Prop where
  turnsUsed : (objective.run calls).turnsUsed.toNat = min (objective.turnsUsed.toNat +
    (Tally.weighed ObjectiveCall.countedTurn calls \
      objective.lastCountedTurnId.toFinset).card) u32Max
  retries : (objective.run calls).retries.toNat = min (objective.retries.toNat +
    (Tally.weighed ObjectiveCall.retriedTurn calls \ objective.lastRetryTurnId.toFinset).card) u32Max
  replayed : ∀ before call after, calls = before ++ call :: after →
    objective.Replayed before call →
      call.apply (objective.run before) = (some false, objective.run before)

/-- What is replayed is the turn, or the retry, that was recorded last. -/
def ReplaysLast (objective : SessionObjective) (calls : List ObjectiveCall) : Prop :=
  objective.turnTally.RepeatsAdjacent ObjectiveCall.countedTurn calls ∧
    objective.retryTally.RepeatsAdjacent ObjectiveCall.retriedTurn calls

lemma apply_countedTurn {call : ObjectiveCall} {e : String × Bool}
    (h : call.countedTurn = some e) :
    call.apply objective = (some false, objective) ↔ objective.lastCountedTurnId = some e.1 := by
  cases call with
  | recordTurnOutcome turnId outcome now =>
      cases h
      unfold ObjectiveCall.apply recordTurnOutcome
      by_cases hlast : objective.lastCountedTurnId = some turnId <;> simp [hlast]
  | recordRetry => cases h
  | transition => cases h
  | applyDraft => cases h

lemma apply_retriedTurn {call : ObjectiveCall} {e : String × Bool}
    (h : call.retriedTurn = some e) :
    call.apply objective = (some false, objective) ↔ objective.lastRetryTurnId = some e.1 := by
  cases call with
  | recordRetry retryingTurnId now =>
      cases h
      unfold ObjectiveCall.apply recordRetry
      by_cases hlast : objective.lastRetryTurnId = some retryingTurnId <;> simp [hlast]
  | recordTurnOutcome => cases h
  | transition => cases h
  | applyDraft => cases h

lemma run_lastCountedTurnId (objective : SessionObjective) (calls : List ObjectiveCall) :
    (objective.run calls).lastCountedTurnId =
      (objective.turnTally.seen ObjectiveCall.countedTurn calls).getLast? :=
  (accounts_run objective calls).lastTurn.trans Tally.recordAll_last

lemma run_lastRetryTurnId (objective : SessionObjective) (calls : List ObjectiveCall) :
    (objective.run calls).lastRetryTurnId =
      (objective.retryTally.seen ObjectiveCall.retriedTurn calls).getLast? :=
  (accounts_run objective calls).lastRetry.trans Tally.recordAll_last

lemma consistent_retriedTurn (calls : List ObjectiveCall) :
    Tally.Consistent ObjectiveCall.retriedTurn calls := by
  apply Tally.consistent_of_weighs
  intro call _ id weighs h
  cases call with
  | recordRetry retryingTurnId now =>
      cases h
      rfl
  | recordTurnOutcome => cases h
  | transition => cases h
  | applyDraft => cases h

/-- Objective accounting is exactly-once if and only if what is replayed was recorded last. -/
theorem exactly_once_iff (objective : SessionObjective) (calls : List ObjectiveCall)
    (hsame : Tally.Consistent ObjectiveCall.countedTurn calls) :
    objective.ExactlyOnce calls ↔ objective.ReplaysLast calls := by
  have haccounts := accounts_run objective calls
  constructor
  · intro h
    constructor
    · intro before call after e hcalls he hseen
      rw [← run_lastCountedTurnId]
      exact (apply_countedTurn he).mp (h.replayed before call after hcalls (.inl ⟨e, he, hseen⟩))
    · intro before call after e hcalls he hseen
      rw [← run_lastRetryTurnId]
      exact (apply_retriedTurn he).mp (h.replayed before call after hcalls (.inr ⟨e, he, hseen⟩))
  · rintro ⟨hturns, hretries⟩
    refine ⟨?_, ?_, ?_⟩
    · rw [haccounts.turnsUsed, Tally.recordAll_count hsame hturns]
      rfl
    · rw [haccounts.retries, Tally.recordAll_count (consistent_retriedTurn calls) hretries]
      rfl
    · rintro before call after hcalls (⟨e, he, hseen⟩ | ⟨e, he, hseen⟩)
      · apply (apply_countedTurn he).mpr
        exact (run_lastCountedTurnId objective before).trans (hturns before call after e hcalls he hseen)
      · apply (apply_retriedTurn he).mpr
        exact (run_lastRetryTurnId objective before).trans (hretries before call after e hcalls he hseen)

def demoObjective : SessionObjective :=
  .new "session"
    { intent := "ship", doneWhen := "", maxConsecutiveFailures := 3, maxTurns := none } "t0"

lemma consistent_of_completed {calls : List ObjectiveCall}
    (h : ∀ call ∈ calls, ∀ e, call.countedTurn = some e → e.2 = true) :
    Tally.Consistent ObjectiveCall.countedTurn calls :=
  Tally.consistent_of_weighs fun call hcall _ _ hcounted => h call hcall _ hcounted

def demoReplay : List ObjectiveCall :=
  [.recordTurnOutcome "a" .completed "t1", .recordTurnOutcome "a" .completed "t2"]

theorem exactly_once_iff_demo : demoObjective.ExactlyOnce demoReplay ↔ demoObjective.ReplaysLast demoReplay :=
  exactly_once_iff demoObjective demoReplay
    (consistent_of_completed (by simp [demoReplay, ObjectiveCall.countedTurn]))

def demoLateReplay : List ObjectiveCall :=
  [.recordTurnOutcome "a" .completed "t1", .recordTurnOutcome "b" .completed "t2",
    .recordTurnOutcome "a" .completed "t3"]

theorem not_exactly_once_demo :
    Tally.Consistent ObjectiveCall.countedTurn demoLateReplay ∧
      ¬demoObjective.ExactlyOnce demoLateReplay := by
  constructor
  · apply consistent_of_completed
    simp [demoLateReplay, ObjectiveCall.countedTurn]
  · intro h
    have hturns := h.turnsUsed
    revert hturns
    decide +kernel

end SessionObjective

end DevCommandCenter.Session
