import DevCommandCenter.GuardedUndo.JournalCalls
import Mathlib.Logic.Function.Basic

/-! What the restore service works on: the journal and, of every path, the target and the exchange
locators. Each call takes one tick, in which it works, fails without effect or stops the process. -/

namespace DevCommandCenter.GuardedUndo

open Library

structure FileEvidence where
  size : ℕ
  sha256 : Sha256Digest
  metadata : RegularFileMetadataV1
  deriving DecidableEq

inductive AuthorityMode
  | shared
  | exclusive
  deriving DecidableEq

structure AuthorityGenerations where
  worktree : ℕ
  gitDir : ℕ
  commonDir : ℕ
  deriving DecidableEq

structure RestoreAuthority where
  mode : AuthorityMode
  rootId : PhysicalRootId
  coordinatorGenerations : AuthorityGenerations
  deriving DecidableEq

inductive ResultBinding
  | turnResult
  | afterCompletedUndo
  deriving DecidableEq

structure ExpectedResult where
  evidence : FileEvidence
  chainedFrom : Option UndoOperationId
  deriving DecidableEq

structure PreparedToken where
  snapshotId : String
  workspaceId : WorkspaceId
  workspaceAbsolute : String
  restoreSetId : RestoreSetId
  rootId : PhysicalRootId
  git : GitIdentityV1
  manifestDigest : Sha256Digest
  coordinatorGenerations : AuthorityGenerations
  expiresAt : ℕ
  binding : ResultBinding
  expected : List ExpectedResult
  deriving DecidableEq

structure InversePreview where
  displayPath : String
  size : ℕ
  binary : Bool
  preview : Option String
  deriving DecidableEq

-- `generations` are those of the coordinator for the roots of the workspace
structure World where
  journal : JournalStore
  targets : OpaqueRepoPath → Option FileEvidence
  siblings : OpaqueRepoPath → ArtifactKey → Option FileEvidence
  exchanges : ℕ
  generations : AuthorityGenerations
  tokens : Sha256Digest → Option PreparedToken
  tick : ℕ

def World.next (w : World) : World :=
  { w with tick := w.tick + 1 }

inductive Verdict
  | works
  | fails (reason : GuardedUndoReasonCode)
  | crashes
  deriving DecidableEq

inductive Stopped
  | crash
  deriving DecidableEq

structure RestoreEnvironment where
  encoding : JournalEncoding
  verdict : ℕ → Verdict
  physicalRoot : ℕ → String → PhysicalRootId
  gitIdentity : ℕ → GitIdentityV1
  stagedMetadata : ℕ → TurnRestoreFile → RegularFileMetadataV1
  previewAgainst : TurnRestoreFile → Sha256Digest → InversePreview
  clock : ℕ → ℕ
  timestamp : ℕ → String
  parseTimestamp : String → Option ℕ
  previewToken : String
  operationId : UndoOperationId
  exchangeKey : ℕ → ArtifactKey

abbrev Service : Type → Type :=
  Call World Stopped

variable (env : RestoreEnvironment)

def attempt {ε α : Type} (failure : GuardedUndoReasonCode → ε) (run : World → Except ε α × World) :
    Service (Except ε α) := fun w =>
  match env.verdict w.tick with
  | .works => (.ok (run w).1, (run w).2.next)
  | .fails reason => (.ok (.error (failure reason)), w.next)
  | .crashes => (.error .crash, w)

abbrev AuthorityCall (α : Type) : Type :=
  Service (Except GuardedUndoReasonCode α)

def authorityCall {α : Type} (run : World → Except GuardedUndoReasonCode α × World) :
    AuthorityCall α :=
  attempt env id run

-- `checked_add(1)` on a `u64`
def nextGeneration (generation : ℕ) : Option ℕ :=
  if generation < generationMax then some (generation + 1) else none

def AuthorityGenerations.next (generations : AuthorityGenerations) :
    Option AuthorityGenerations := do
  let worktree ← nextGeneration generations.worktree
  let gitDir ← nextGeneration generations.gitDir
  let commonDir ← nextGeneration generations.commonDir
  return { worktree := worktree, gitDir := gitDir, commonDir := commonDir }

-- the coordinator counts a mutation as it admits it
def AuthorityGenerations.admitted (generations : AuthorityGenerations) :
    AuthorityMode → Option AuthorityGenerations
  | .shared => some generations
  | .exclusive => generations.next

def acquire (workspaceAbsolute : String) (expectedRoot : PhysicalRootId)
    (mode : AuthorityMode) : AuthorityCall RestoreAuthority :=
  authorityCall env fun w =>
    if env.physicalRoot w.tick workspaceAbsolute ≠ expectedRoot then
      (.error .repositoryIdentityChanged, w)
    else
      match w.generations.admitted mode with
      | none => (.error .concurrentWorkspaceMutation, w)
      | some generations =>
          (.ok { mode := mode, rootId := expectedRoot, coordinatorGenerations := generations },
            { w with generations := generations })

def gitIdentity : AuthorityCall GitIdentityV1 :=
  authorityCall env fun w => (.ok (env.gitIdentity w.tick), w)

def verifyPreimage (_key : ArtifactKey) (_size : ℕ) (_sha256 : Sha256Digest) : AuthorityCall Unit :=
  authorityCall env fun w => (.ok (), w)

-- `inverse_preview` reads the target, `chained_inverse_preview` the preimage of a newer file
def inversePreview (file : TurnRestoreFile) : AuthorityCall InversePreview :=
  authorityCall env fun w =>
    match w.targets file.pathBytes with
    | none => (.error .targetMissing, w)
    | some current =>
        if current.sha256 ≠ file.resultSha256 then (.error .targetResultMismatch, w)
        else (.ok (env.previewAgainst file current.sha256), w)

def chainedInversePreview (file newer : TurnRestoreFile) : AuthorityCall InversePreview :=
  authorityCall env fun w =>
    if newer.pathBytes ≠ file.pathBytes ∨ newer.preSize ≠ file.resultSize ∨
        newer.preSha256 ≠ file.resultSha256 then
      (.error .targetResultMismatch, w)
    else (.ok (env.previewAgainst file newer.preSha256), w)

def inspectTarget (path : OpaqueRepoPath) : AuthorityCall FileEvidence :=
  authorityCall env fun w => (demand (w.targets path) .targetMissing, w)

def inspectExchange (path : OpaqueRepoPath) (key : ArtifactKey) : AuthorityCall FileEvidence :=
  authorityCall env fun w => (demand (w.siblings path key) .displacedFileMissing, w)

def World.setSibling (w : World) (path : OpaqueRepoPath) (key : ArtifactKey)
    (file : Option FileEvidence) : World :=
  { w with siblings := Function.update w.siblings path (Function.update (w.siblings path) key file) }

-- the preimage in a new file at the locator; a name that exists is refused
def stagePreimage (file : TurnRestoreFile) (key : ArtifactKey) : AuthorityCall FileEvidence :=
  authorityCall env fun w =>
    match w.siblings file.pathBytes key with
    | some _ => (.error .ioError, w)
    | none =>
        let staged : FileEvidence := {
          size := file.preSize
          sha256 := file.preSha256
          metadata := env.stagedMetadata w.tick file }
        (.ok staged, w.setSibling file.pathBytes key (some staged))

def World.exchanged (w : World) (path : OpaqueRepoPath) (key : ArtifactKey)
    (target sibling : FileEvidence) : World :=
  { w.setSibling path key (some target) with
    targets := Function.update w.targets path (some sibling)
    exchanges := w.exchanges + 1 }

def exchange (path : OpaqueRepoPath) (key : ArtifactKey)
    (expectedTarget expectedExchange : FileEvidence) : AuthorityCall Unit :=
  authorityCall env fun w =>
    if w.targets path = some expectedTarget ∧ w.siblings path key = some expectedExchange then
      (.ok (), w.exchanged path key expectedTarget expectedExchange)
    else (.error .displacedTargetMismatch, w)

def cleanupExchange (path : OpaqueRepoPath) (key : ArtifactKey) (expectedExchange : FileEvidence) :
    AuthorityCall Unit :=
  authorityCall env fun w =>
    if w.siblings path key = some expectedExchange then (.ok (), w.setSibling path key none)
    else (.error .displacedTargetMismatch, w)

def repositoryCall {α : Type} (call : JournalCall α) : Service (Except String α) :=
  attempt env (fun reason => guardedUndoError reason.asStr) fun w =>
    ((call w.journal).1, { w with journal := (call w.journal).2 })

def repositoryRead {α : Type} (query : JournalStore → Except String α) : Service (Except String α) :=
  attempt env (fun reason => guardedUndoError reason.asStr) fun w => (query w.journal, w)

-- `.ok().flatten()`
def flattened {ε α : Type} : Except ε (Option α) → Option α
  | .ok found => found
  | .error _ => none

def getTurnRestoreSet (id : RestoreSetId) : Service (Option (TurnRestoreSet × List TurnRestoreFile)) :=
  flattened <$> repositoryRead env fun journal => journal.loadTurnRestoreSet env.encoding id

def loadedUndoOperation (id : UndoOperationId) :
    Service (Option (UndoOperation × List UndoOperationFile)) :=
  flattened <$> repositoryRead env fun journal => getUndoOperation env.encoding journal id

def JournalStore.loadAll (encoding : JournalEncoding) (store : JournalStore)
    (rows : List UndoOperationRow) (missing : String) :
    Except String (List (UndoOperation × List UndoOperationFile)) :=
  rows.mapM fun row => do
    let loaded ← store.loadUndoOperation encoding row.operationId
    demand loaded (guardedUndoError missing)

def listActiveUndoOperations (encoding : JournalEncoding) (store : JournalStore) :
    Except String (List (UndoOperation × List UndoOperationFile)) :=
  let active := store.operations.rows.filter fun row => row.active
  store.loadAll encoding (active.insertionSort fun a b =>
    a.createdAt < b.createdAt ∨
      (a.createdAt = b.createdAt ∧ a.operationId.value ≤ b.operationId.value))
    "active undo operation disappeared"

def listUndoOperationsPendingCleanup (encoding : JournalEncoding) (store : JournalStore) :
    Except String (List (UndoOperation × List UndoOperationFile)) :=
  let pending := store.operations.rows.filter fun row => !row.active && row.cleanupPending
  store.loadAll encoding (pending.insertionSort fun a b =>
    a.completedAt.getD "" < b.completedAt.getD "" ∨
      (a.completedAt.getD "" = b.completedAt.getD "" ∧ a.operationId.value ≤ b.operationId.value))
    "cleanup undo operation disappeared"

def finishUndoOperationCleanup (id : UndoOperationId) : JournalCall Bool := do
  let selects := fun row : UndoOperationRow =>
    decide (row.operationId = id) && !row.active && row.cleanupPending
  let store ← .read
  .update fun s => { s with
    operations := s.operations.updateWhere selects
      (fun row => { row with cleanupPending := false }) fun _ => rfl }
  return decide (store.operations.changed selects = 1)

def transitionOperation (id : UndoOperationId) (expected next : UndoOperationState)
    (reason : Option GuardedUndoReasonCode) (details : Option RecoveryDetailsV1) (now : ℕ) :
    Service (Except String Bool) :=
  repositoryCall env
    (transitionUndoOperation env.encoding id expected next reason details (env.timestamp now))

def transitionFile (expected : UndoOperationFileState) (next : UndoOperationFile) :
    Service (Except String Bool) :=
  repositoryCall env (transitionUndoOperationFile env.encoding expected next)

def finishCleanup (id : UndoOperationId) : Service (Except String Bool) :=
  repositoryCall env (finishUndoOperationCleanup id)

end DevCommandCenter.GuardedUndo
