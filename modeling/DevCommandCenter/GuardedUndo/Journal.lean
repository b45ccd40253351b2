import DevCommandCenter.GuardedUndo.Manifest
import DevCommandCenter.Library.Call
import DevCommandCenter.Library.Table
import Mathlib.Data.List.Sort

/-! The undo journal: four tables, and the calls that write them, each in a transaction of its own.
The hash and the lengths of the JSON columns are parameters. -/

namespace DevCommandCenter.GuardedUndo

open Library

structure UndoOperationRow extends UndoOperation where
  cleanupPending : Bool
  deriving DecidableEq

structure JournalStore where
  restoreSets : KeyedRows RestoreSetId TurnRestoreSet TurnRestoreSet.restoreSetId
  restoreFiles : KeyedRows (RestoreSetId × ℕ) TurnRestoreFile fun file =>
    (file.restoreSetId, file.ordinal)
  operations : KeyedRows UndoOperationId UndoOperationRow fun row => row.operationId
  operationFiles : KeyedRows (UndoOperationId × ℕ) UndoOperationFile fun file =>
    (file.operationId, file.ordinal)

structure JournalEncoding where
  sha256 : List Byte → Sha256Digest
  gitIdentityJson : GitIdentityV1 → ℕ
  preparedIdentityJson : PreparedIdentityV1 → ℕ
  metadataJson : RegularFileMetadataV1 → ℕ
  recoveryDetailsJson : RecoveryDetailsV1 → ℕ

def guardedUndoError (text : String) : String :=
  "guarded undo: " ++ text

def schemaChecked {α : Type} (x : Except GuardedUndoSchemaError α) : Except String α :=
  x.mapError fun e => guardedUndoError e.text

abbrev JournalCall : Type → Type :=
  Call JournalStore String

-- `length(column) BETWEEN 1 AND maximum`, or a column that is null
def fitsColumn {α : Type} (length : α → ℕ) (maximum : ℕ) (value : Option α) : Bool :=
  value.all fun a => decide (1 ≤ length a ∧ length a ≤ maximum)

def maxSqliteInteger : ℕ := 2 ^ 63 - 1

def sqliteInteger (field : String) (value : ℕ) : Except String Unit :=
  refuse (value > maxSqliteInteger) (guardedUndoError (field ++ " exceeds SQLite"))

namespace JournalStore

variable (encoding : JournalEncoding) (store : JournalStore)

def restoreFilesOf (restoreSetId : RestoreSetId) : List TurnRestoreFile :=
  (store.restoreFiles.rows.filter fun file => file.restoreSetId = restoreSetId).insertionSort
    fun a b => a.ordinal ≤ b.ordinal

def operationFilesOf (operationId : UndoOperationId) : List UndoOperationFile :=
  (store.operationFiles.rows.filter fun file => file.operationId = operationId).insertionSort
    fun a b => a.ordinal ≤ b.ordinal

def checkRestoreRows (restoreSet : TurnRestoreSet) (files : List TurnRestoreFile) :
    Except String Unit := do
  refuse ((∃ git ∈ restoreSet.gitIdentity, encoding.gitIdentityJson git > 65536) ∨
      (∃ root ∈ restoreSet.rootId, root.bytes.length > 1024) ∨
      files.length > maxRestoreFiles ∨
      (∃ file ∈ files, file.pathBytes.bytes.length > 4096) ∨
      ∃ file ∈ files, encoding.metadataJson file.metadataFingerprint > 4096)
    (guardedUndoError "restoration record exceeds persistence bounds")
  schemaChecked (validateSome validateRoot restoreSet.rootId)
  schemaChecked (validateSome GitIdentityV1.validate restoreSet.gitIdentity)
  schemaChecked restoreSet.validate
  refuse (restoreSet.fileCount > maxRestoreFiles)
    (guardedUndoError "restoration accounting exceeds file limit")
  files.forM fun file => do
    schemaChecked file.metadataFingerprint.validate
    schemaChecked file.validate
  if files = [] then
    refuse (restoreSet.manifestDigest.isSome = true)
      (guardedUndoError "restoration manifest is missing its file rows")
  else schemaChecked (validateRestoreSetManifest encoding.sha256 restoreSet files)

def loadTurnRestoreSet (restoreSetId : RestoreSetId) :
    Except String (Option (TurnRestoreSet × List TurnRestoreFile)) :=
  match store.restoreSets.find? restoreSetId with
  | some restoreSet => do
      checkRestoreRows encoding restoreSet (store.restoreFilesOf restoreSetId)
      return some (restoreSet, store.restoreFilesOf restoreSetId)
  | none => .ok none

def checkOperationRows (operation : UndoOperation) (files : List UndoOperationFile) :
    Except String Unit := do
  refuse (encoding.preparedIdentityJson operation.preparedIdentity > 131072 ∨
      (∃ details ∈ operation.recoveryDetails, encoding.recoveryDetailsJson details > 1024) ∨
      files.length > maxRestoreFiles ∨
      (∃ file ∈ files, file.pathBytes.bytes.length > 4096) ∨
      (∃ file ∈ files, encoding.metadataJson file.expectedMetadata > 4096) ∨
      (∃ file ∈ files, ∃ staged ∈ file.stagedMetadata, encoding.metadataJson staged > 4096) ∨
      (∃ file ∈ files, ∃ displaced ∈ file.displacedMetadata,
        encoding.metadataJson displaced > 4096) ∨
      ∃ file ∈ files, ∃ details ∈ file.recoveryDetails, encoding.recoveryDetailsJson details > 1024)
    (guardedUndoError "undo journal exceeds persistence bounds")
  schemaChecked operation.preparedIdentity.validate
  schemaChecked (validateSome RecoveryDetailsV1.validate operation.recoveryDetails)
  files.forM fun file =>
    if file.state.isKnown = true ∧ file.verificationOutcome.isKnown = true then
      schemaChecked file.validate
    else .ok ()
  if operation.state.isKnown = true then schemaChecked operation.validate else .ok ()

def loadUndoOperation (operationId : UndoOperationId) :
    Except String (Option (UndoOperation × List UndoOperationFile)) :=
  match store.operations.find? operationId with
  | some row => do
      checkOperationRows encoding row.toUndoOperation (store.operationFilesOf operationId)
      return some (row.toUndoOperation, store.operationFilesOf operationId)
  | none => .ok none

def chainRow (workspaceId : WorkspaceId) (rootId : PhysicalRootId) (pathBytes : OpaqueRepoPath)
    (operationId : Option UndoOperationId) (file : UndoOperationFile) :
    Option (UndoOperationFile × UndoOperation) := do
  let row ← store.operations.find? file.operationId
  let restoreSet ← store.restoreSets.find? file.restoreSetId
  if row.restoreSetId = file.restoreSetId ∧ row.state = .completed ∧ row.active = false ∧
      file.state = .verified ∧ file.verificationOutcome = .verified ∧
      file.stagedMetadata.isSome = true ∧ restoreSet.workspaceId = workspaceId ∧
      restoreSet.rootId = some rootId ∧ file.pathBytes = pathBytes ∧
      operationId.all (· = file.operationId) = true then
    some (file, row.toUndoOperation)
  else none

-- most recent first; a null time is the least
def laterCompleted (a b : UndoOperationFile × UndoOperation) : Bool :=
  match a.2.completedAt, b.2.completedAt with
  | some s, some t => decide (t < s ∨ (s = t ∧ a.1.operationId.value ≤ b.1.operationId.value))
  | some _, none => true
  | none, some _ => false
  | none, none => decide (a.1.operationId.value ≤ b.1.operationId.value)

def chainSource (workspaceId : WorkspaceId) (rootId : PhysicalRootId) (pathBytes : OpaqueRepoPath)
    (row : UndoOperationFile × UndoOperation) : Except String (Option UndoChainSource) := do
  schemaChecked row.2.preparedIdentity.validate
  let staged ← demand row.1.stagedMetadata (guardedUndoError "invalid staged metadata schema")
  schemaChecked staged.validate
  if row.2.preparedIdentity.rootId ≠ rootId then return none
  return some {
    operationId := row.1.operationId
    restoreSetId := row.1.restoreSetId
    workspaceId := workspaceId
    rootId := row.2.preparedIdentity.rootId
    git := row.2.preparedIdentity.git
    pathBytes := pathBytes
    preSize := row.1.preSize
    preSha256 := row.1.preSha256
    stagedMetadata := staged }

def chainRows (workspaceId : WorkspaceId) (rootId : PhysicalRootId) (pathBytes : OpaqueRepoPath)
    (operationId : Option UndoOperationId) : List (UndoOperationFile × UndoOperation) :=
  ((store.operationFiles.rows.filterMap
    (store.chainRow workspaceId rootId pathBytes operationId)).insertionSort
      fun a b => laterCompleted a b = true).take 64

def queryUndoChainSources (workspaceId : WorkspaceId) (rootId : PhysicalRootId)
    (pathBytes : OpaqueRepoPath) (operationId : Option UndoOperationId) :
    Except String (List UndoChainSource) := do
  let sources ← (store.chainRows workspaceId rootId pathBytes operationId).mapM
    (chainSource workspaceId rootId pathBytes)
  return sources.reduceOption

def expectedResultIsBound (restoreSet : TurnRestoreSet) (restored : TurnRestoreFile)
    (journal : UndoOperationFile) : Except String Bool :=
  match journal.chainedFromOperationId, restoreSet.rootId with
  | none, _ => .ok (decide (journal.expectedMetadata = restored.metadataFingerprint))
  | some _, none => .ok false
  | some source, some rootId => do
      let sources ← store.queryUndoChainSources restoreSet.workspaceId rootId restored.pathBytes
        (some source)
      return sources.any fun source =>
        chainedResultIsBound restoreSet restored source journal.expectedMetadata

def bindFiles (operation : UndoOperation) (restoreSet : TurnRestoreSet) :
    List ArtifactKey → List (UndoOperationFile × TurnRestoreFile) → Except String Unit
  | _, [] => .ok ()
  | exchangeKeys, (journal, restored) :: rest => do
      let unbound :=
        guardedUndoError "undo journal file is not bound to its opaque restoration record"
      refuse (journal.operationId ≠ operation.operationId ∨
          journal.restoreSetId ≠ restoreSet.restoreSetId ∨ journal.ordinal ≠ restored.ordinal ∨
          journal.pathBytes ≠ restored.pathBytes ∨
          journal.expectedResultSize ≠ restored.resultSize ∨
          journal.expectedResultSha256 ≠ restored.resultSha256)
        unbound
      let bound ← store.expectedResultIsBound restoreSet restored journal
      refuse (bound = false ∨ journal.preSize ≠ restored.preSize ∨
          journal.preSha256 ≠ restored.preSha256 ∨ journal.exchangeArtifactKey ∈ exchangeKeys)
        unbound
      bindFiles operation restoreSet (journal.exchangeArtifactKey :: exchangeKeys) rest

def validateOperationManifestBinding (operation : UndoOperation)
    (operationFiles : List UndoOperationFile) (restoreSet : TurnRestoreSet)
    (restoreFiles : List TurnRestoreFile) : Except String Unit := do
  let unbound := guardedUndoError "undo journal is not bound to an eligible restoration manifest"
  refuse (restoreSet.captureVersion ≠ restoreCaptureVersion ∨
      ¬(restoreSet.state = .eligible ∨
        (restoreSet.state = .consumed ∧ operation.state = .completed)) ∨
      operation.restoreSetId ≠ restoreSet.restoreSetId ∨ operationFiles = [] ∨
      operationFiles.length ≠ restoreFiles.length ∨
      ∃ file ∈ operationFiles, file.state.isKnown = false ∨
        file.verificationOutcome.isKnown = false)
    unbound
  let rootId ← demand restoreSet.rootId (guardedUndoError "eligible set has no physical root")
  refuse (operation.preparedIdentity.rootId ≠ rootId) unbound
  let git ← demand restoreSet.gitIdentity (guardedUndoError "eligible set has no Git identity")
  refuse (operation.preparedIdentity.git ≠ git ∨
      some operation.preparedIdentity.manifestDigest ≠ restoreSet.manifestDigest)
    unbound
  schemaChecked (validateRestoreSetManifest encoding.sha256 restoreSet restoreFiles)
  store.bindFiles operation restoreSet [] (operationFiles.zip restoreFiles)

end JournalStore

end DevCommandCenter.GuardedUndo
