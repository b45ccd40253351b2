import DevCommandCenter.Library.Call
import DevCommandCenter.Library.SortDedup
import DevCommandCenter.Library.Table
import DevCommandCenter.Library.Transition
import DevCommandCenter.Library.Utf8
import DevCommandCenter.Session.Events
import Mathlib.Data.Fin.Basic
import Mathlib.Data.List.Lex
import Mathlib.Order.Fin.Basic

/-! The workspace mutation coordinator. Every call is one section under the state lock; a receipt is
the number of the allocation that its guard and the roots share. -/

namespace DevCommandCenter

open Library

structure PhysicalRootId where
  bytes : List (Fin 256)
  deriving DecidableEq, Repr

instance : LinearOrder PhysicalRootId :=
  LinearOrder.lift' PhysicalRootId.bytes fun a b h => by
    cases a
    cases b
    exact congrArg PhysicalRootId.mk h

def maxIdentityBytes : ℕ := 1024

def PhysicalRootId.validate (root : PhysicalRootId) : Bool :=
  match root.bytes with
  | platform :: kind :: _ :: _ =>
      decide (root.bytes.length ≤ maxIdentityBytes ∧ platform = 1 ∧ (kind = 1 ∨ kind = 2))
  | _ => false

structure TurnOwner where
  sessionId : SessionId
  turnId : TurnId
  deriving DecidableEq, Repr

inductive TurnReceiptState
  | clean (generation : ℕ)
  | ineligible
  deriving DecidableEq, Repr

inductive CoordinatorError
  | invalidPhysicalRoot
  | receiptIdExhausted
  | generationExhausted
  | rootGenerationCapacityExhausted
  | duplicateOwner
  | mutationInProgress
  | captureEdgeActive
  deriving DecidableEq, Repr

def maxRetainedRootGenerations : ℕ := 4096

def generationMax : ℕ := 2 ^ 64 - 1

def captureEdgeMax : ℕ := 2 ^ 32 - 1

structure RootEntry where
  mutationActive : Bool
  activeCaptureEdges : ℕ
  activeTurns : Table TurnOwner ℕ

def RootEntry.default : RootEntry where
  mutationActive := false
  activeCaptureEdges := 0
  activeTurns := ∅

def RootEntry.idle (entry : RootEntry) : Bool :=
  !entry.mutationActive && entry.activeCaptureEdges == 0 && entry.activeTurns.entries.isEmpty

structure WorkspaceMutationCoordinator where
  roots : PhysicalRootId → Option RootEntry
  generations : Table PhysicalRootId ℕ
  nextReceiptId : ℕ
  receipts : ℕ → Option TurnReceiptState

namespace WorkspaceMutationCoordinator

def new : WorkspaceMutationCoordinator where
  roots := fun _ => none
  generations := ∅
  nextReceiptId := 0
  receipts := fun _ => none

def entry (c : WorkspaceMutationCoordinator) (root : PhysicalRootId) : RootEntry :=
  (c.roots root).getD .default

def generation (c : WorkspaceMutationCoordinator) (root : PhysicalRootId) : ℕ :=
  (c.generations.lookup root).getD 0

-- `roots.entry(root).or_default()` followed by an update of the entry
def updateEntry (f : RootEntry → RootEntry) (c : WorkspaceMutationCoordinator)
    (root : PhysicalRootId) : WorkspaceMutationCoordinator :=
  { c with roots := Function.update c.roots root (some (f (c.entry root))) }

-- `roots.get_mut(root)` followed by an update of the entry
def updateExisting (f : RootEntry → RootEntry) (c : WorkspaceMutationCoordinator)
    (root : PhysicalRootId) : WorkspaceMutationCoordinator :=
  match c.roots root with
  | some entry => { c with roots := Function.update c.roots root (some (f entry)) }
  | none => c

def removeIdleRoot (c : WorkspaceMutationCoordinator) (root : PhysicalRootId) :
    WorkspaceMutationCoordinator :=
  if (c.roots root).any RootEntry.idle then
    { c with roots := Function.update c.roots root none }
  else c

def retainGeneration (c : WorkspaceMutationCoordinator) (root : PhysicalRootId) :
    WorkspaceMutationCoordinator :=
  if root ∈ c.generations then c else { c with generations := c.generations.insert root 0 }

def setGeneration (c : WorkspaceMutationCoordinator) (root : PhysicalRootId) (generation : ℕ) :
    WorkspaceMutationCoordinator :=
  { c with generations := c.generations.insert root generation }

def markDirty (c : WorkspaceMutationCoordinator) (receipt : ℕ) : WorkspaceMutationCoordinator :=
  { c with receipts := Function.update c.receipts receipt (some .ineligible) }

def activeReceiptStates (c : WorkspaceMutationCoordinator) (roots : List PhysicalRootId) : List ℕ :=
  (roots.flatMap fun root => (c.entry root).activeTurns.entries.map Sigma.snd).dedup

end WorkspaceMutationCoordinator

abbrev CoordinatorCall (α : Type) := Call WorkspaceMutationCoordinator CoordinatorError α

open WorkspaceMutationCoordinator

def normalizeRoots (roots : List PhysicalRootId) : Except CoordinatorError (List PhysicalRootId) :=
  if roots.isEmpty || !roots.all PhysicalRootId.validate then .error .invalidPhysicalRoot
  else .ok (sortDedup roots)

def checkEntries (c : WorkspaceMutationCoordinator)
    (check : PhysicalRootId → Option RootEntry → Except CoordinatorError Unit) :
    List PhysicalRootId → Except CoordinatorError Unit
  | [] => .ok ()
  | root :: roots => do
      check root (c.roots root)
      checkEntries c check roots

def ensureGenerationCapacity (c : WorkspaceMutationCoordinator) (roots : List PhysicalRootId) :
    Except CoordinatorError Unit :=
  let newGenerations := (roots.filter fun root => root ∉ c.generations).length
  if maxRetainedRootGenerations < c.generations.size + newGenerations then
    .error .rootGenerationCapacityExhausted
  else .ok ()

def allocateReceiptId : CoordinatorCall ℕ := do
  let c ← .read
  if generationMax < c.nextReceiptId + 1 then .fail .receiptIdExhausted
  else
    .update fun c => { c with nextReceiptId := c.nextReceiptId + 1 }
    return c.nextReceiptId + 1

structure TurnIntervalGuard where
  roots : List (PhysicalRootId × ℕ)
  owner : TurnOwner
  receipt : ℕ
  -- set once `drop` has dirtied the receipt and is about to end the interval
  dropping : Bool
  deriving DecidableEq, Repr

def TurnIntervalGuard.generationFor (guard : TurnIntervalGuard) (root : PhysicalRootId) : Option ℕ :=
  (guard.roots.find? fun entry => entry.1 = root).map Prod.snd

def admitTurn (owner : TurnOwner) (_ : PhysicalRootId) :
    Option RootEntry → Except CoordinatorError Unit
  | none => .ok ()
  | some entry =>
      if entry.activeCaptureEdges ≠ 0 then .error .captureEdgeActive
      else if owner ∈ entry.activeTurns then .error .duplicateOwner
      else .ok ()

def registerTurn (owner : TurnOwner) (receipt : ℕ) (c : WorkspaceMutationCoordinator)
    (root : PhysicalRootId) : WorkspaceMutationCoordinator :=
  (c.retainGeneration root).updateEntry
    (fun entry => { entry with activeTurns := entry.activeTurns.insert owner receipt }) root

def turnConflict (c : WorkspaceMutationCoordinator) (roots : List PhysicalRootId) : Bool :=
  roots.any fun root =>
    (c.roots root).any fun entry => !entry.activeTurns.entries.isEmpty || entry.mutationActive

def beginTurnIntervals (rootIds : List PhysicalRootId) (owner : TurnOwner) :
    CoordinatorCall TurnIntervalGuard := do
  match rootIds.head? with
  | none => .fail .invalidPhysicalRoot
  | some primaryRoot =>
      let roots ← .liftExcept (normalizeRoots rootIds)
      let c ← .read
      .liftExcept (checkEntries c (admitTurn owner) roots)
      .liftExcept (ensureGenerationCapacity c roots)
      let receipt ← allocateReceiptId
      let conflict := turnConflict c roots
      let state : TurnReceiptState :=
        if conflict then .ineligible else .clean (c.generation primaryRoot)
      .update fun c =>
        let dirtied := if conflict then (c.activeReceiptStates roots).foldl markDirty c else c
        let shared := { dirtied with receipts := Function.update dirtied.receipts receipt (some state) }
        roots.foldl (registerTurn owner receipt) shared
      return {
        roots := roots.map fun root => (root, c.generation root)
        owner := owner
        receipt := receipt
        dropping := false }

def beginTurnInterval (root : PhysicalRootId) (owner : TurnOwner) :
    CoordinatorCall TurnIntervalGuard :=
  beginTurnIntervals [root] owner

def admitCaptureEdge (_ : PhysicalRootId) : Option RootEntry → Except CoordinatorError Unit
  | none => .ok ()
  | some entry =>
      if entry.mutationActive then .error .mutationInProgress
      else if captureEdgeMax < entry.activeCaptureEdges + 1 then .error .generationExhausted
      else .ok ()

def addCaptureEdge (c : WorkspaceMutationCoordinator) (root : PhysicalRootId) :
    WorkspaceMutationCoordinator :=
  (c.retainGeneration root).updateEntry
    (fun entry => { entry with activeCaptureEdges := entry.activeCaptureEdges + 1 }) root

def tryAcquireCaptureEdges (rootIds : List PhysicalRootId) :
    CoordinatorCall (List PhysicalRootId) := do
  let roots ← .liftExcept (normalizeRoots rootIds)
  let c ← .read
  .liftExcept (ensureGenerationCapacity c roots)
  .liftExcept (checkEntries c admitCaptureEdge roots)
  .update fun c => roots.foldl addCaptureEdge c
  return roots

def tryAcquireCaptureEdge (root : PhysicalRootId) : CoordinatorCall (List PhysicalRootId) :=
  tryAcquireCaptureEdges [root]

/-- What a mutation acquired: the single root or the roots of one acquisition, with generations. -/
inductive MutationGuard
  | single (root : PhysicalRootId) (generation : ℕ)
  | multi (roots : List (PhysicalRootId × ℕ))
  deriving DecidableEq, Repr

def MutationGuard.roots : MutationGuard → List PhysicalRootId
  | single root _ => [root]
  | multi roots => roots.map Prod.fst

def generationFor (root : PhysicalRootId) : CoordinatorCall ℕ := do
  let c ← .read
  match c.generations.lookup root with
  | some generation => return generation
  | none =>
      if c.generations.size = maxRetainedRootGenerations then .fail .rootGenerationCapacityExhausted
      else
        .update fun c => { c with generations := c.generations.insert root 0 }
        return 0

def tryAcquireMutation (root : PhysicalRootId) : CoordinatorCall MutationGuard := do
  if root.validate then
    let current ← generationFor root
    .update fun c => c.updateEntry id root
    let c ← .read
    if (c.entry root).mutationActive then .fail .mutationInProgress
    else if (c.entry root).activeCaptureEdges ≠ 0 then .fail .captureEdgeActive
    else if generationMax < current + 1 then .fail .generationExhausted
    else
      .update fun c =>
        (((((c.entry root).activeTurns.entries.map Sigma.snd).foldl markDirty c).updateEntry
          (fun entry => { entry with mutationActive := true }) root).setGeneration root (current + 1))
      return .single root (current + 1)
  else .fail .invalidPhysicalRoot

def admitMutation (c : WorkspaceMutationCoordinator) (root : PhysicalRootId)
    (entry : Option RootEntry) : Except CoordinatorError Unit :=
  if generationMax < c.generation root + 1 then .error .generationExhausted
  else if entry.any RootEntry.mutationActive then .error .mutationInProgress
  else if entry.any fun entry => entry.activeCaptureEdges ≠ 0 then .error .captureEdgeActive
  else .ok ()

def activateMutation (c : WorkspaceMutationCoordinator) (plan : PhysicalRootId × ℕ) :
    WorkspaceMutationCoordinator :=
  (c.updateEntry (fun entry => { entry with mutationActive := true }) plan.1).setGeneration
    plan.1 plan.2

def tryAcquireMutations (rootIds : List PhysicalRootId) : CoordinatorCall MutationGuard := do
  let roots ← .liftExcept (normalizeRoots rootIds)
  let c ← .read
  .liftExcept (checkEntries c (admitMutation c) roots)
  .liftExcept (ensureGenerationCapacity c roots)
  let plans := roots.map fun root => (root, c.generation root + 1)
  .update fun c => plans.foldl activateMutation ((c.activeReceiptStates roots).foldl markDirty c)
  return .multi plans

def releaseEntries (f : RootEntry → RootEntry) (roots : List PhysicalRootId)
    (c : WorkspaceMutationCoordinator) : WorkspaceMutationCoordinator :=
  roots.foldl removeIdleRoot (roots.foldl (updateExisting f) c)

def endTurnIntervals (guard : TurnIntervalGuard) :
    WorkspaceMutationCoordinator → WorkspaceMutationCoordinator :=
  releaseEntries (fun entry => { entry with activeTurns := entry.activeTurns.erase guard.owner })
    (guard.roots.map Prod.fst)

def releaseMutations (guard : MutationGuard) :
    WorkspaceMutationCoordinator → WorkspaceMutationCoordinator :=
  releaseEntries (fun entry => { entry with mutationActive := false }) guard.roots

def releaseCaptureEdges (roots : List PhysicalRootId) :
    WorkspaceMutationCoordinator → WorkspaceMutationCoordinator :=
  releaseEntries
    (fun entry => { entry with activeCaptureEdges := entry.activeCaptureEdges - 1 }) roots

end DevCommandCenter
