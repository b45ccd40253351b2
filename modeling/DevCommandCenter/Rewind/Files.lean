import DevCommandCenter.Library.Grouping
import Mathlib.Data.List.Sort

/-! The files that the turns removed by a rewind changed: what of them can be restored, and the restore. -/

namespace DevCommandCenter.Rewind

open Library

structure TurnFileFacts where
  turnId : String
  workspaceId : String
  project : Option String
  snapshotId : Option String
  changedFileCount : Option ℕ
  captureState : Option String
  captureReason : Option String

inductive RewindFilesStage where
  | capture
  | prepare

structure NotRestorable where
  turnId : String
  project : Option String
  stage : RewindFilesStage
  reasonCode : String

inductive TurnFiles where
  | skip
  | restore (snapshotId : String)
  | blocked (plan : NotRestorable)

def TurnFileFacts.blocked (facts : TurnFileFacts) (stage : RewindFilesStage) (reasonCode : String) :
    TurnFiles :=
  .blocked { turnId := facts.turnId, project := facts.project, stage, reasonCode }

def classifyTurnFiles (facts : TurnFileFacts) : TurnFiles :=
  match facts.changedFileCount with
  | some 0 => .skip
  | none => facts.blocked .capture "capture_v2_missing"
  | some _ =>
      match facts.captureState, facts.snapshotId with
      | some "eligible", some snapshotId => .restore snapshotId
      | some "consumed", _ => .skip
      | some state, _ =>
          if state = "ineligible" ∧ facts.captureReason = some "no_target_changes" then .skip
          else facts.blocked .capture (facts.captureReason.getD state)
      | none, _ => facts.blocked .capture "capture_v2_missing"

def pushTurnFiles (snapshots : List (String × String)) (facts : TurnFileFacts) :
    Except NotRestorable (List (String × String)) :=
  match classifyTurnFiles facts with
  | .skip => .ok snapshots
  | .restore snapshotId => .ok (snapshots ++ [(facts.turnId, snapshotId)])
  | .blocked plan => .error plan

def restorableSnapshots (factsOldestFirst : List TurnFileFacts) :
    Except NotRestorable (List (String × String)) :=
  factsOldestFirst.reverse.foldlM pushTurnFiles []

structure ProjectChain where
  project : Option String
  snapshots : List (String × String)

def pushChain (chains : List ProjectChain) (projectFacts : String × List TurnFileFacts) :
    Except NotRestorable (List ProjectChain) :=
  match restorableSnapshots projectFacts.2 with
  | .error plan => .error plan
  | .ok snapshots =>
      if snapshots.isEmpty then .ok chains
      else .ok (chains ++ [{ project := projectFacts.2.head?.bind TurnFileFacts.project, snapshots }])

def restorableChains (factsOldestFirst : List TurnFileFacts) : Except NotRestorable (List ProjectChain) :=
  (buckets TurnFileFacts.workspaceId factsOldestFirst).foldlM pushChain []

inductive GuardedUndoPrepareResult where
  | ready (previewToken : String) (unrelatedPathsAreNotTargets : Bool)
  | blocked (reasonCode : String)
  | unavailable (reasonCode : String)

inductive GuardedUndoExecuteResult where
  | completed
  | blocked (reasonCode : String)
  | rolledBack
  | recoveryRequired (reasonCode : String)
deriving DecidableEq

/-- What Guarded Undo answers may depend on all of the world, and a call may change it. -/
structure RewindFileRestorer (σ : Type) where
  prepare : String → σ → GuardedUndoPrepareResult × σ
  execute : String → σ → GuardedUndoExecuteResult × σ

structure RewindFilesStopped where
  restoredTurnIds : List String
  turnId : String
  project : Option String
  outcome : String
  reasonCode : Option String

structure RestoreStep where
  chainIndex : ℕ
  chain : ProjectChain
  turnId : String
  snapshotId : String

def turnRank (factsOldestFirst : List TurnFileFacts) (turnId : String) : ℕ :=
  (factsOldestFirst.findIdx? fun facts => facts.turnId = turnId).getD 0

def chainSteps (chains : List ProjectChain) : List RestoreStep :=
  chains.zipIdx.flatMap fun (chain, chainIndex) =>
    chain.snapshots.map fun (turnId, snapshotId) => { chainIndex, chain, turnId, snapshotId }

def stepLe (factsOldestFirst : List TurnFileFacts) (left right : RestoreStep) : Bool :=
  ((compare (turnRank factsOldestFirst right.turnId) (turnRank factsOldestFirst left.turnId)).then
    (compare left.chainIndex right.chainIndex)).isLE

def restoreOrder (factsOldestFirst : List TurnFileFacts) (chains : List ProjectChain) :
    List RestoreStep :=
  (chainSteps chains).mergeSort (stepLe factsOldestFirst)

def RestoreStep.stopped (step : RestoreStep) (restored : List String) (outcome : String)
    (reasonCode : Option String) : RewindFilesStopped where
  restoredTurnIds := restored
  turnId := step.turnId
  project := step.chain.project
  outcome := outcome
  reasonCode := reasonCode

/-- `executed` has the snapshots for which `execute` was called, each with what the call came to. -/
structure RestoreRun (σ : Type) where
  executed : List (String × GuardedUndoExecuteResult)
  result : Except RewindFilesStopped (List String)
  world : σ

def RestoreRun.after {σ : Type} (run : RestoreRun σ) (snapshotId : String) : RestoreRun σ :=
  { run with executed := (snapshotId, .completed) :: run.executed }

section Restore

variable {σ : Type} (restorer : RewindFileRestorer σ)

def prepareStep (step : RestoreStep) (world : σ) : Except String String × σ :=
  match restorer.prepare step.snapshotId world with
  | (.ready previewToken true, world) => (.ok previewToken, world)
  | (.ready _ false, world) => (.error "invalid_persisted_record", world)
  | (.blocked reasonCode, world) => (.error reasonCode, world)
  | (.unavailable reasonCode, world) => (.error reasonCode, world)

def closeTurn (restored : List String) (current : Option String) (turnId : String) : List String :=
  if current.any (fun current => current ≠ turnId) then restored ++ current.toList else restored

def restoreSteps : List RestoreStep → List String → Option String → σ → RestoreRun σ
  | [], restored, current, world => ⟨[], .ok (restored ++ current.toList), world⟩
  | step :: steps, restored, current, world =>
      let restored := closeTurn restored current step.turnId
      match prepareStep restorer step world with
      | (.error reasonCode, world) =>
          ⟨[], .error (step.stopped restored "blocked" (some reasonCode)), world⟩
      | (.ok previewToken, world) =>
          match restorer.execute previewToken world with
          | (.completed, world) =>
              (restoreSteps steps restored (some step.turnId) world).after step.snapshotId
          | (.blocked reasonCode, world) =>
              ⟨[(step.snapshotId, .blocked reasonCode)],
                .error (step.stopped restored "blocked" (some reasonCode)), world⟩
          | (.rolledBack, world) =>
              ⟨[(step.snapshotId, .rolledBack)],
                .error (step.stopped restored "rolled_back" none), world⟩
          | (.recoveryRequired reasonCode, world) =>
              ⟨[(step.snapshotId, .recoveryRequired reasonCode)],
                .error (step.stopped restored "recovery_required" (some reasonCode)), world⟩

def restoreFiles (factsOldestFirst : List TurnFileFacts) (world : σ) : RestoreRun σ :=
  match restorableChains factsOldestFirst with
  | .error plan =>
      ⟨[], .error ⟨[], plan.turnId, plan.project, "blocked", some plan.reasonCode⟩, world⟩
  | .ok chains => restoreSteps restorer (restoreOrder factsOldestFirst chains) [] none world

end Restore

end DevCommandCenter.Rewind
