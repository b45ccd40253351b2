import DevCommandCenter.GuardedUndo.CoordinatorExclusion

/-! One capture beside everyone else's calls to the coordinator, one step for each lock it takes. -/

namespace DevCommandCenter

open Library WorkspaceMutationCoordinator

structure CoordinatedRoots where
  root : PhysicalRootId
  gitDir : PhysicalRootId
  commonDir : PhysicalRootId
  deriving DecidableEq, Repr

def CoordinatedRoots.ids (roots : CoordinatedRoots) : List PhysicalRootId :=
  [roots.root, roots.gitDir, roots.commonDir]

structure CaptureHandle where
  roots : CoordinatedRoots
  interval : TurnIntervalGuard
  generation : ℕ
  coordinatedGenerations : List (PhysicalRootId × ℕ)
  deriving DecidableEq, Repr

def coordinatedGenerations (interval : TurnIntervalGuard) :
    List PhysicalRootId → Option (List (PhysicalRootId × ℕ))
  | [] => some []
  | root :: roots => do
      let generation ← interval.generationFor root
      let generations ← coordinatedGenerations interval roots
      return (root, generation) :: generations

inductive FinishPhase
  | inspecting
  | comparingGenerations (todo : List (PhysicalRootId × ℕ))
  | comparingFiles
  | intervalFinished
  | comparingAgain (receiptClean : Bool) (done : List PhysicalRootId)
      (todo : List (PhysicalRootId × ℕ))
  | finalizing (retried : Bool)
  deriving DecidableEq, Repr

inductive CaptureStage
  | idle
  | intervalBegun (roots : CoordinatedRoots) (interval : TurnIntervalGuard)
  | admitted (handle : CaptureHandle)
  | capturingBaseline (handle : CaptureHandle) (edge : ℕ)
  | handedOut (handle : CaptureHandle)
  | finishing (handle : CaptureHandle) (edge : ℕ) (phase : FinishPhase)
  | eligible
  | ended
  deriving DecidableEq, Repr

inductive CaptureAction
  | other (action : CoordinatorAction)
  | begin (roots : CoordinatedRoots) (owner : TurnOwner)
  | acquireEdge (edge : ℕ)
  | proceed
  | finalizeTurnRestoreSet (ok : Bool)
  | fail
  deriving DecidableEq, Repr

inductive CaptureAnswer
  | coordinated (answer : CoordinatorAnswer)
  | proceeded
  | eligible (roots : CoordinatedRoots)
  deriving DecidableEq, Repr

def CoordinatorAnswer.acquiredRoots : CoordinatorAnswer → List PhysicalRootId
  | .mutationAcquired guard => guard.roots
  | _ => []

structure CaptureRace where
  guards : CoordinatedGuards
  stage : CaptureStage
  acquired : List PhysicalRootId

namespace CaptureStage

def receipt : CaptureStage → Option ℕ
  | intervalBegun _ interval => some interval.receipt
  | admitted handle | capturingBaseline handle _ | handedOut handle | finishing handle _ _ =>
      some handle.interval.receipt
  | idle | eligible | ended => none

def edge : CaptureStage → Option ℕ
  | capturingBaseline _ edge | finishing _ edge _ => some edge
  | _ => none

def owns (stage : CaptureStage) : CoordinatorAction → Bool
  | .finishTurn receipt | .dropTurn receipt | .endDroppedTurn receipt =>
      stage.receipt = some receipt
  | .dropCaptureEdges edge => stage.edge = some edge
  | _ => false

def settled : CaptureStage → List PhysicalRootId
  | finishing _ _ (.comparingAgain _ done _) => done
  | finishing handle _ (.finalizing _) => handle.roots.ids
  | _ => []

def root : CaptureStage → Option PhysicalRootId
  | finishing handle _ _ => some handle.roots.root
  | _ => none

end CaptureStage

namespace CaptureRace

def new : CaptureRace where
  guards := .new
  stage := .idle
  acquired := []

def perform (s : CaptureRace) (action : CoordinatorAction)
    (next : CoordinatorAnswer → CaptureStage) : Option (CoordinatorAnswer × CaptureRace) :=
  (s.guards.step action).map fun result =>
    (result.1, {
      guards := result.2
      stage := next result.1
      acquired := s.acquired ++ result.1.acquiredRoots })

def own (s : CaptureRace) (action : CoordinatorAction) (next : CoordinatorAnswer → CaptureStage) :
    Option (CaptureAnswer × CaptureRace) :=
  (s.perform action next).map fun result => (.proceeded, result.2)

def goTo (s : CaptureRace) (stage : CaptureStage) : Option (CaptureAnswer × CaptureRace) :=
  some (.proceeded, { s with stage := stage })

def receiptState (s : CaptureRace) (interval : TurnIntervalGuard) : Option TurnReceiptState :=
  s.guards.coordinator.receipts interval.receipt

-- `is_ok_and(|current| current == baseline)`
def generationIs (s : CaptureRace) (root : PhysicalRootId) (baseline : ℕ) : Bool :=
  root.validate && s.guards.coordinator.generation root == baseline

def finishStep (s : CaptureRace) (handle : CaptureHandle) (edge : ℕ) :
    FinishPhase → Option (CaptureAnswer × CaptureRace)
  | .inspecting =>
      match s.receiptState handle.interval with
      | some (.clean _) =>
          s.goTo (.finishing handle edge (.comparingGenerations handle.coordinatedGenerations))
      | _ => s.goTo .ended
  | .comparingGenerations [] => s.goTo (.finishing handle edge .comparingFiles)
  | .comparingGenerations ((root, baseline) :: todo) =>
      if s.generationIs root baseline then
        s.goTo (.finishing handle edge (.comparingGenerations todo))
      else s.goTo .ended
  | .comparingFiles =>
      s.own (.finishTurn handle.interval.receipt) fun
        | .turnFinished _ _ => .finishing handle edge .intervalFinished
        | _ => .ended
  | .intervalFinished =>
      let receiptClean := s.receiptState handle.interval == some (.clean handle.generation)
      s.goTo (.finishing handle edge
        (.comparingAgain receiptClean [] handle.coordinatedGenerations))
  | .comparingAgain receiptClean done ((root, baseline) :: todo) =>
      if s.generationIs root baseline then
        s.goTo (.finishing handle edge (.comparingAgain receiptClean (done ++ [root]) todo))
      else s.goTo .ended
  | .comparingAgain receiptClean _ [] =>
      if receiptClean then s.goTo (.finishing handle edge (.finalizing false)) else s.goTo .ended
  | .finalizing _ => none

def step (s : CaptureRace) : CaptureAction → Option (CaptureAnswer × CaptureRace)
  | .other action =>
      if s.stage.owns action then none
      else (s.perform action fun _ => s.stage).map fun result => (.coordinated result.1, result.2)
  | .begin roots owner =>
      match s.stage with
      | .idle =>
          { s with acquired := [] }.own (.beginTurnIntervals roots.ids owner) fun
            | .turnBegun interval => .intervalBegun roots interval
            | _ => .ended
      | _ => none
  | .acquireEdge edge =>
      match s.stage with
      | .admitted handle =>
          s.own (.tryAcquireCaptureEdges edge handle.roots.ids) fun
            | .edgesAcquired _ => .capturingBaseline handle edge
            | _ => .ended
      | .handedOut handle =>
          s.own (.tryAcquireCaptureEdges edge [handle.roots.root]) fun
            | .edgesAcquired _ => .finishing handle edge .inspecting
            | _ => .ended
      | _ => none
  | .proceed =>
      match s.stage with
      | .intervalBegun roots interval =>
          match s.receiptState interval, coordinatedGenerations interval roots.ids with
          | some (.clean generation), some generations =>
              s.goTo (.admitted ⟨roots, interval, generation, generations⟩)
          | _, _ => s.goTo .ended
      | .capturingBaseline handle edge => s.own (.dropCaptureEdges edge) fun _ => .handedOut handle
      | .finishing handle edge phase => s.finishStep handle edge phase
      | _ => none
  | .finalizeTurnRestoreSet ok =>
      match s.stage with
      | .finishing handle edge (.finalizing retried) =>
          if ok then some (.eligible handle.roots, { s with stage := .eligible })
          else if retried then s.goTo .ended
          else s.goTo (.finishing handle edge (.finalizing true))
      | _ => none
  | .fail =>
      match s.stage with
      | .eligible | .ended => none
      | _ => s.goTo .ended

/-- No mutation was acquired on the roots since the interval began, and none is held there. -/
def Undisturbed (s : CaptureRace) (roots : List PhysicalRootId) : Prop :=
  ∀ r ∈ roots, r ∉ s.acquired ∧
    ∀ m held, s.guards.mutations.lookup m = some held → r ∉ held.roots

/-- A mutation is acquired on the git directory or the common directory after the capture compared
its generation for the last time. -/
def overtaken (s : CaptureRace) : CaptureAction → Bool
  | .other action =>
      (s.guards.step action).any fun result =>
        result.1.acquiredRoots.any fun r => r ∈ s.stage.settled && s.stage.root != some r
  | _ => false

end CaptureRace

def captureRace : System CaptureRace CaptureAction CaptureAnswer where
  start := .new
  step := CaptureRace.step

abbrev unovertakenCapture : System CaptureRace CaptureAction CaptureAnswer :=
  captureRace.restrict fun s action => !s.overtaken action

end DevCommandCenter
