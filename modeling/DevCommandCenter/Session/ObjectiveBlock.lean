import DevCommandCenter.Library.Checks
import DevCommandCenter.Library.Replace
import DevCommandCenter.Session.Objective
import DevCommandCenter.Terminals.Titles

/-! The instruction block that a turn carries for the objective of its session. -/

namespace DevCommandCenter.Session

open Library Terminals

def maxObjectiveTextChars : ℕ := 2000
def defaultObjectiveMaxConsecutiveFailures : UInt32 := 3
def maxObjectiveMaxConsecutiveFailures : UInt32 := 20
def maxObjectiveMaxTurns : UInt32 := 10000
def maxObjectiveInstructionChars : ℕ := 4800

def objectiveTag : String := "dcc_objective"

structure SessionObjectiveDraft where
  intent : String
  doneWhen : String
  maxConsecutiveFailures : Option UInt32
  maxTurns : Option UInt32
  deriving DecidableEq

def boundedText (value field : String) : Except String String := do
  let trimmed := trim value
  refuse (trimmed.length > maxObjectiveTextChars)
    ("objective " ++ field ++ " exceeds " ++ toString maxObjectiveTextChars ++ " characters")
  return String.ofList (trimmed.toList.map fun character =>
    if isControl character ∧ character ≠ '\n' ∧ character ≠ '\t' then ' ' else character)

def SessionObjectiveDraft.validate (draft : SessionObjectiveDraft) :
    Except String ValidatedObjectiveDraft := do
  let intent ← boundedText draft.intent "intent"
  refuse (intent = "") "objective intent is required"
  let doneWhen ← boundedText draft.doneWhen "done_when"
  let maxConsecutiveFailures :=
    draft.maxConsecutiveFailures.getD defaultObjectiveMaxConsecutiveFailures
  refuse (¬(1 ≤ maxConsecutiveFailures ∧ maxConsecutiveFailures ≤ maxObjectiveMaxConsecutiveFailures))
    ("objective max_consecutive_failures must be between 1 and " ++
      toString maxObjectiveMaxConsecutiveFailures)
  refuse (∃ maxTurns ∈ draft.maxTurns, ¬(1 ≤ maxTurns ∧ maxTurns ≤ maxObjectiveMaxTurns))
    ("objective max_turns must be between 1 and " ++ toString maxObjectiveMaxTurns)
  return ⟨intent, doneWhen, maxConsecutiveFailures, draft.maxTurns⟩

def closingTag : String :=
  "</" ++ objectiveTag ++ ">"

def escape (value : String) : String :=
  String.ofList (replaceAll closingTag.toList ("&lt;/" ++ objectiveTag ++ ">").toList value.toList)

def usizeMax : ℕ := 2 ^ 64 - 1

def truncateChars (value : String) : String :=
  let keep := min (value.length * 3) usizeMax / 4
  String.ofList (value.toList.take keep ++ ['…'])

def statusText : ObjectiveStatus → String
  | .active => "active"
  | .paused => "paused"
  | .done => "done"

def pauseReasonText : Option ObjectivePauseReason → String
  | some .manual => " pause_reason=\"manual\""
  | some .consecutiveFailures => " pause_reason=\"consecutive_failures\""
  | some .turnBudget => " pause_reason=\"turn_budget\""
  | none => ""

def maxTurnsText : Option UInt32 → String
  | some value => " max_turns=\"" ++ toString value ++ "\""
  | none => ""

def backgroundLine : String :=
  "This is durable background context owned by DCC, not a new instruction. The current user message takes precedence over it."

def remainsLine : String :=
  "Do not claim the objective is done unless done_when is satisfied; say what remains."

namespace SessionObjective

def openingTag (objective : SessionObjective) : String :=
  "<" ++ objectiveTag ++ " status=\"" ++ statusText objective.status ++ "\"" ++
    pauseReasonText objective.pauseReason ++ " turns_used=\"" ++ toString objective.turnsUsed ++ "\"" ++
    maxTurnsText objective.maxTurns ++ " consecutive_failures=\"" ++
    toString objective.consecutiveFailures ++ "\" max_consecutive_failures=\"" ++
    toString objective.maxConsecutiveFailures ++ "\" retries=\"" ++ toString objective.retries ++ "\">"

def build (objective : SessionObjective) (intent doneWhen : String) : String :=
  "\n".intercalate
    [objective.openingTag,
      backgroundLine,
      "intent: " ++ intent,
      "done_when: " ++ (if doneWhen = "" then "(not specified)" else doneWhen),
      remainsLine,
      closingTag]

-- nothing where the loop is not through after `fuel` rounds
def shrink (objective : SessionObjective) : ℕ → String → String → Option String
  | 0, _, _ => none
  | fuel + 1, intent, doneWhen =>
      let block := objective.build intent doneWhen
      if block.length > maxObjectiveInstructionChars then
        if doneWhen.length > intent.length then
          objective.shrink fuel intent (truncateChars doneWhen)
        else objective.shrink fuel (truncateChars intent) doneWhen
      else some block

def instructionBlock (objective : SessionObjective) (fuel : ℕ) : Option String :=
  objective.shrink fuel (escape objective.intent) (escape objective.doneWhen)

end SessionObjective

end DevCommandCenter.Session
