import DevCommandCenter.Library.Table
import DevCommandCenter.Timeline.Events
import DevCommandCenter.Timeline.Summary
import Mathlib.Data.Finset.Basic
import Mathlib.Data.Finset.Image
import Mathlib.Data.List.Defs

/-! The event-by-event fold of a conversation. Rows live in one list and the maps hold positions. -/

namespace DevCommandCenter.Timeline

open Library

def isHiddenToolAction (action : String) : Bool :=
  action == "AskUserQuestion" || action == "ExitPlanMode"

def ToolCallDetail.default : ToolCallDetail where
  command := none
  file := none
  input := none
  output := none
  exitCode := none
  diff := none
  truncated := false

def pick (target value : Option String) : Option String :=
  match value with
  | some text => if text.isEmpty then target else some text
  | none => target

def mergeToolCallDetail (detail : Option ToolCallDetail) (call : ToolCall) : ToolCall :=
  match detail with
  | none => call
  | some detail =>
      let current := call.detail.getD ToolCallDetail.default
      let next : ToolCallDetail := {
        command := pick current.command detail.command
        file := pick current.file detail.file
        input := pick current.input detail.input
        output := pick current.output detail.output
        exitCode := detail.exitCode.or current.exitCode
        diff := pick current.diff detail.diff
        truncated := detail.truncated || current.truncated }
      { call with
        command := call.command.or next.command
        file := call.file.or next.file
        detail := some next }

def startParagraph (existing next : String) : String :=
  if isBlank existing || existing.endsWith "\n\n" || next.startsWith "\n" then existing
  else if existing.endsWith "\n" then existing ++ "\n"
  else existing ++ "\n\n"

structure Projector where
  sessionId : String
  messages : List TimelineMessage
  assistantBuckets : Table String ℕ
  assistantItems : Table (String × String) ℕ
  assistantMessagesByTurn : List (String × List ℕ)
  activeItemsByTurn : Table String (List ℕ)
  completedAssistantItems : Finset (String × String)
  completedReasoningItems : Finset (String × String)
  completedToolCallItems : Finset (String × String)
  delegationBuckets : Table String ℕ
  completedTurns : Finset String
  abortedTurns : Table String String
  usageLimitedTurns : Finset String
  lastUsageLimitedTurn : Option String
  turnStartedAt : Table String String
  turnEndedAt : Table String String
  turnModel : List (String × Option String)
  requestedSubagentModels : Table String String
  confirmedSubagentModels : Table String String
  latestTurnId : Option String
  steers : Table String ℕ
  textBreaks : Finset String

def Projector.new (sessionId : String) : Projector where
  sessionId := sessionId
  messages := []
  assistantBuckets := ∅
  assistantItems := ∅
  assistantMessagesByTurn := []
  activeItemsByTurn := ∅
  completedAssistantItems := ∅
  completedReasoningItems := ∅
  completedToolCallItems := ∅
  delegationBuckets := ∅
  completedTurns := ∅
  abortedTurns := ∅
  usageLimitedTurns := ∅
  lastUsageLimitedTurn := none
  turnStartedAt := ∅
  turnEndedAt := ∅
  turnModel := []
  requestedSubagentModels := ∅
  confirmedSubagentModels := ∅
  latestTurnId := none
  steers := ∅
  textBreaks := ∅

def modifyFirst {α : Type} (p : α → Bool) (f : α → α) : List α → List α
  | [] => []
  | a :: l => if p a then f a :: l else a :: modifyFirst p f l

namespace Projector

variable (projector : Projector)

def startedAt (turnId fallback : String) : String :=
  (projector.turnStartedAt.lookup turnId).getD fallback

def push (message : TimelineMessage) : Projector :=
  { projector with messages := projector.messages ++ [message] }

def modifyMessage (index : ℕ) (f : TimelineMessage → TimelineMessage) : Projector :=
  { projector with messages := projector.messages.modify index f }

def modifyMessages (indices : List ℕ) (f : TimelineMessage → TimelineMessage) : Projector :=
  indices.foldl (fun projector index => projector.modifyMessage index f) projector

def modifyTurnMessages (turnId : String) (f : List ℕ → List ℕ) : Projector :=
  { projector with
    assistantMessagesByTurn :=
      if projector.assistantMessagesByTurn.any fun (turn, _) => turn = turnId then
        modifyFirst (fun (turn, _) => turn = turnId) (fun (turn, rows) => (turn, f rows))
          projector.assistantMessagesByTurn
      else projector.assistantMessagesByTurn ++ [(turnId, f [])] }

def turnMessages (turnId : String) : Option (List ℕ) :=
  (projector.assistantMessagesByTurn.find? fun (turn, _) => turn = turnId).map Prod.snd

def setBucket (turnId : String) (index : ℕ) : Projector :=
  { projector with assistantBuckets := projector.assistantBuckets.insert turnId index }

def assistantRow (id turnId createdAt : String) : TimelineMessage :=
  { TimelineMessage.new id .assistant "Assistant" "" with
    turnId := some turnId
    streaming := true
    createdAt := some createdAt }

def ensureAssistant (turnId createdAt : String) : ℕ × Projector :=
  match projector.assistantBuckets.lookup turnId with
  | some index => (index, projector)
  | none =>
      let index := projector.messages.length
      (index, (projector.push (assistantRow
        ("assistant-" ++ projector.sessionId ++ "-" ++ turnId) turnId createdAt)).setBucket turnId index)

def ensureAssistantItem (turnId messageId : String) (phase : AssistantMessagePhase)
    (makeCurrent : Bool) (createdAt : String) : ℕ × Projector :=
  match projector.assistantItems.lookup (turnId, messageId) with
  | some index =>
      let phased :=
        if phase ≠ .unknown then
          projector.modifyMessage index fun message => { message with assistantPhase := some phase }
        else projector
      (index, if makeCurrent then phased.setBucket turnId index else phased)
  | none =>
      let index := projector.messages.length
      let row := { assistantRow
        ("assistant-" ++ projector.sessionId ++ "-" ++ turnId ++ "-" ++ messageId) turnId createdAt with
          assistantPhase := some phase }
      let previous := projector.assistantBuckets.lookup turnId
      let pushed := projector.push row
      let listed := { pushed with
        assistantItems := pushed.assistantItems.insert (turnId, messageId) index }.modifyTurnMessages
          turnId fun rows =>
            (match previous with
              | some bucket => if bucket ∈ rows then rows else rows ++ [bucket]
              | none => rows) ++ [index]
      (index, if makeCurrent then listed.setBucket turnId index else listed)

def markActive (turnId : String) (index : ℕ) : Projector :=
  let active := (projector.activeItemsByTurn.lookup turnId).getD []
  { projector with
    activeItemsByTurn := projector.activeItemsByTurn.insert turnId
      (if index ∈ active then active else active ++ [index]) }

def isRunning (turnId : String) : Bool :=
  decide (turnId ∉ projector.completedTurns) && decide (turnId ∉ projector.abortedTurns)

def incomplete (turnId reason : String) : IncompleteStatus where
  reason := some reason
  usageLimited := decide (turnId ∈ projector.usageLimitedTurns)
  continuedOnAccount := none

def getOrAdd (index : ℕ) (added : Annotation) (f : Annotation → Annotation) : Projector :=
  projector.modifyMessage index fun message =>
    let same := fun item : Annotation => item.kind == added.kind && item.id == added.id
    { message with
      annotations :=
        if message.annotations.any same then modifyFirst same f message.annotations
        else message.annotations ++ [f added] }

def modifyToolCall (turnId id : String) (f : ToolCall → ToolCall) : Projector :=
  match projector.assistantBuckets.lookup turnId with
  | none => projector
  | some index =>
      projector.modifyMessage index fun message =>
        { message with
          annotations := modifyFirst
            (fun
              | .toolCall call => call.id == id
              | _ => false)
            (fun
              | .toolCall call => .toolCall (f call)
              | item => item)
            message.annotations }

def modifyBucketAnnotations (turnId : String) (f : Annotation → Annotation) : Projector :=
  match projector.assistantBuckets.lookup turnId with
  | none => projector
  | some index =>
      projector.modifyMessage index fun message =>
        { message with annotations := message.annotations.map f }

def rowsOfTurn (turnId : String) : List ℕ :=
  match projector.turnMessages turnId with
  | some rows => rows
  | none => (projector.assistantBuckets.lookup turnId).toList

def insertTextBreak (turnId : String) : Projector :=
  { projector with textBreaks := insert turnId projector.textBreaks }

end Projector

end DevCommandCenter.Timeline
