import DevCommandCenter.Library.Table
import DevCommandCenter.UsageLimit.Domain

/-! The planner of the automatic resumes, and what its calls have said of each session. Times are
instants in nanoseconds. -/

namespace DevCommandCenter.UsageLimit

open Library

def resumeSlackMinSecs : ℤ := 60
def resumeSlackMaxSecs : ℤ := 180
def retryAfterFailureSecs : ℤ := 300
def maxStartFailures : ℕ := 3

def seconds (count : ℤ) : ℤ := count * 10 ^ 9

abbrev Stop : Type :=
  TurnId × Option String

def SessionUsageLimit.stop (limit : SessionUsageLimit) : Stop :=
  (limit.turnId, limit.resetsAt)

inductive ResumeAction
  | none
  | wait (due : ℤ)
  | resume
  deriving DecidableEq

structure Watch where
  key : Stop
  slackSecs : ℤ
  due : Option ℤ
  failures : ℕ
  retryAfter : Option ℤ
  deriving DecidableEq

structure ResumePlanner where
  watches : Table String Watch

namespace ResumePlanner

def default : ResumePlanner where
  watches := ∅

end ResumePlanner

section Planner

variable (parseTime : String → Option ℤ)

def autoResumeDueAt (limit : SessionUsageLimit) (slackSecs now : ℤ) : Option ℤ :=
  if ¬limit.autoResume ∨ (usageLimitPhase parseTime limit now).phase ≠ .waiting then none
  else (limit.resetsAt.bind parseTime).map fun resetsAt =>
    resetsAt + seconds (min (max slackSecs resumeSlackMinSecs) resumeSlackMaxSecs)

namespace ResumePlanner

def watchOf (planner : ResumePlanner) (sessionId : String) (key : Stop) (slack : ℤ) : Watch :=
  match (planner.watches.lookup sessionId).filter (·.key = key) with
  | some watch => watch
  | none => ⟨key, slack, none, 0, none⟩

def update (planner : ResumePlanner) (sessionId : String) (limit : Option SessionUsageLimit)
    (now slack : ℤ) : ResumePlanner × ResumeAction :=
  match limit with
  | none => (⟨planner.watches.erase sessionId⟩, .none)
  | some limit =>
      let watch := planner.watchOf sessionId limit.stop slack
      match autoResumeDueAt parseTime limit watch.slackSecs now with
      | none => (⟨planner.watches.insert sessionId { watch with due := none }⟩, .none)
      | some due =>
          if maxStartFailures ≤ watch.failures then
            (⟨planner.watches.insert sessionId { watch with due := none }⟩, .none)
          else
            let ready := max due (watch.retryAfter.getD due)
            (⟨planner.watches.insert sessionId { watch with due := some due }⟩,
              if ready ≤ now then .resume else .wait ready)

def failed (planner : ResumePlanner) (sessionId : String) (now : ℤ) : ResumePlanner :=
  match planner.watches.lookup sessionId with
  | none => planner
  | some watch =>
      -- a `u32`
      let failures := (watch.failures + 1) % 2 ^ 32
      ⟨planner.watches.insert sessionId { watch with
        failures := failures
        retryAfter := some (now + seconds retryAfterFailureSecs)
        due := if maxStartFailures ≤ failures then none else watch.due }⟩

def waits (planner : ResumePlanner) : List (String × ℤ) :=
  (planner.watches.entries.filterMap fun entry => entry.2.due.map fun due => (entry.1, due)).mergeSort
    fun left right => decide (left.2 < right.2 ∨ left.2 = right.2 ∧ left.1 ≤ right.1)

end ResumePlanner

inductive PlannerCall
  | update (sessionId : String) (limit : Option SessionUsageLimit) (now slack : ℤ)
  | failed (sessionId : String) (now : ℤ)
  deriving DecidableEq

def PlannerCall.now : PlannerCall → ℤ
  | .update _ _ now _ => now
  | .failed _ now => now

structure PlannerRun where
  planner : ResumePlanner
  answers : List (String × ResumeAction)

def PlannerRun.next (run : PlannerRun) : PlannerCall → PlannerRun
  | .update sessionId limit now slack =>
      let (planner, action) := run.planner.update parseTime sessionId limit now slack
      ⟨planner, (sessionId, action) :: run.answers⟩
  | .failed sessionId now => ⟨run.planner.failed sessionId now, run.answers⟩

def plannerRun (calls : List PlannerCall) : PlannerRun :=
  calls.foldl (PlannerRun.next parseTime) ⟨.default, []⟩

end Planner

structure Past where
  stop : Option Stop
  failures : List (Stop × ℤ)
  deriving DecidableEq

def Past.next (sessionId : String) (past : Past) : PlannerCall → Past
  | .update updated limit _ _ =>
      if updated = sessionId then { past with stop := limit.map SessionUsageLimit.stop } else past
  | .failed failing now =>
      if failing = sessionId then
        { past with failures := past.failures ++ (past.stop.map fun stop => (stop, now)).toList }
      else past

def pastOf (sessionId : String) (calls : List PlannerCall) : Past :=
  calls.foldl (Past.next sessionId) ⟨none, []⟩

def Past.failedAt (past : Past) (stop : Stop) : List ℤ :=
  (past.failures.filter (·.1 = stop)).map Prod.snd

end DevCommandCenter.UsageLimit
