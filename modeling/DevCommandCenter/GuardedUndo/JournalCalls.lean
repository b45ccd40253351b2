import DevCommandCenter.GuardedUndo.Journal
import DevCommandCenter.Library.Transition

/-! The calls on the undo journal, and the journal as a system that takes them in any order. -/

namespace DevCommandCenter.GuardedUndo

open Library

variable (encoding : JournalEncoding)

def checkNewFile (operation : UndoOperation) (file : UndoOperationFile) (ordinal : ℕ) :
    Except String Unit := do
  schemaChecked file.validate
  refuse (file.operationId ≠ operation.operationId ∨ file.ordinal ≠ ordinal)
    (guardedUndoError "operation file ownership or ordinal is invalid")
  refuse (file.state ≠ .planned ∨ file.verificationOutcome ≠ .pending ∨
      file.displacedSize.isSome = true ∨ file.recoveryDetails.isSome = true)
    (guardedUndoError "new undo journal files must be planned and unmodified")

def checkNewOperation (operation : UndoOperation) (files : List UndoOperationFile) :
    Except String Unit := do
  schemaChecked operation.validate
  refuse (operation.state ≠ .preparing)
    (guardedUndoError "new undo journal must begin in preparing")
  refuse (operation.active = false) (guardedUndoError "new undo journal must be active")
  refuse (operation.previewTokenDigest.isNone = true)
    (guardedUndoError "new undo journal requires a persisted preview token digest")
  files.zipIdx.forM fun file => checkNewFile operation file.1 file.2

def checkCreate (store : JournalStore) (operation : UndoOperation)
    (files : List UndoOperationFile) : Except String Unit := do
  let loaded ← store.loadTurnRestoreSet encoding operation.restoreSetId
  let (restoreSet, restoreFiles) ←
    demand loaded (guardedUndoError "restoration set does not exist")
  refuse (restoreSet.state ≠ .eligible)
    (guardedUndoError "only an eligible known restoration set may start an operation")
  refuse (files = [] ∨ files.length ≠ restoreFiles.length)
    (guardedUndoError "journal files do not cover the complete restoration manifest")
  refuse (some operation.preparedIdentity.rootId ≠ restoreSet.rootId ∨
      some operation.preparedIdentity.git ≠ restoreSet.gitIdentity ∨
      some operation.preparedIdentity.manifestDigest ≠ restoreSet.manifestDigest)
    (guardedUndoError "prepared identity is not bound to the restoration manifest")
  store.validateOperationManifestBinding encoding operation files restoreSet restoreFiles

-- the constraints of `dcc_undo_operations` but its primary key
def checkOperationColumns (store : JournalStore) (operation : UndoOperation) :
    Except String Unit := do
  refuse (fitsColumn encoding.preparedIdentityJson 131072 (some operation.preparedIdentity) = false ∨
      fitsColumn encoding.recoveryDetailsJson 1024 operation.recoveryDetails = false)
    "CHECK constraint failed: dcc_undo_operations"
  refuse (∃ row ∈ store.operations.rows,
      row.active = true ∧ row.restoreSetId = operation.restoreSetId)
    "UNIQUE constraint failed: dcc_undo_operations.restore_set_id"
  refuse (store.restoreSets.find? operation.restoreSetId = none) "FOREIGN KEY constraint failed"

def insertUndoOperation (operation : UndoOperation) : JournalCall Unit := do
  let store ← .read
  .liftExcept (checkOperationColumns encoding store operation)
  let operations ← .liftExcept <| demand
    (store.operations.insert { operation with active := true, cleanupPending := true })
    "UNIQUE constraint failed: dcc_undo_operations.operation_id"
  .update fun s => { s with operations := operations }

-- the constraints of `dcc_undo_operation_files` but its primary key
def checkFileColumns (store : JournalStore) (file : UndoOperationFile) : Except String Unit := do
  schemaChecked file.validate
  sqliteInteger "expected_result_size" file.expectedResultSize
  sqliteInteger "pre_size" file.preSize
  file.displacedSize.elim (.ok ()) (sqliteInteger "displaced_size")
  refuse (fitsColumn encoding.metadataJson 4096 (some file.expectedMetadata) = false ∨
      fitsColumn encoding.metadataJson 4096 file.stagedMetadata = false ∨
      fitsColumn encoding.metadataJson 4096 file.displacedMetadata = false ∨
      fitsColumn encoding.recoveryDetailsJson 1024 file.recoveryDetails = false ∨
      fitsColumn (fun id => id.value.length) 256 file.chainedFromOperationId = false)
    "CHECK constraint failed: dcc_undo_operation_files"
  refuse (∃ other ∈ store.operationFiles.rows,
      other.operationId = file.operationId ∧ other.pathBytes = file.pathBytes)
    "UNIQUE constraint failed: dcc_undo_operation_files.path_bytes"
  refuse (¬(∃ row ∈ store.operations.rows,
      row.operationId = file.operationId ∧ row.restoreSetId = file.restoreSetId) ∨
      store.restoreFiles.find? (file.restoreSetId, file.ordinal) = none)
    "FOREIGN KEY constraint failed"

def insertUndoOperationFile (file : UndoOperationFile) : JournalCall Unit := do
  let store ← .read
  .liftExcept (checkFileColumns encoding store file)
  let operationFiles ← .liftExcept <| demand (store.operationFiles.insert file)
    "UNIQUE constraint failed: dcc_undo_operation_files.ordinal"
  .update fun s => { s with operationFiles := operationFiles }

def insertUndoOperationFiles : List UndoOperationFile → JournalCall Unit
  | [] => pure ()
  | file :: rest => do
      insertUndoOperationFile encoding file
      insertUndoOperationFiles rest

def createUndoOperation (operation : UndoOperation) (files : List UndoOperationFile) :
    JournalCall Unit := do
  .liftExcept (checkNewOperation operation files)
  .atomically do
    let store ← .read
    .liftExcept (checkCreate encoding store operation files)
    insertUndoOperation encoding operation
    insertUndoOperationFiles encoding files

def getUndoOperation (store : JournalStore) (operationId : UndoOperationId) :
    Except String (Option (UndoOperation × List UndoOperationFile)) := do
  match ← store.loadUndoOperation encoding operationId with
  | none => return none
  | some (operation, files) => do
      if operation.journalVersion = undoJournalSchemaVersion ∧ operation.state.isKnown = true then do
        let restore ← store.loadTurnRestoreSet encoding operation.restoreSetId
        let (restoreSet, restoreFiles) ←
          demand restore (guardedUndoError "restoration set disappeared")
        store.validateOperationManifestBinding encoding operation files restoreSet restoreFiles
        return some (operation, files)
      else return some (operation, files)

def sameFileIdentity (current next : UndoOperationFile) : Prop :=
  current.operationId = next.operationId ∧ current.restoreSetId = next.restoreSetId ∧
    current.ordinal = next.ordinal ∧ current.pathBytes = next.pathBytes ∧
    current.exchangeArtifactKey = next.exchangeArtifactKey ∧
    current.expectedResultSize = next.expectedResultSize ∧
    current.expectedResultSha256 = next.expectedResultSha256 ∧
    current.expectedMetadata = next.expectedMetadata ∧ current.preSize = next.preSize ∧
    current.preSha256 = next.preSha256 ∧
    current.chainedFromOperationId = next.chainedFromOperationId

instance (current next : UndoOperationFile) : Decidable (sameFileIdentity current next) :=
  inferInstanceAs (Decidable (_ ∧ _))

def stagesFile (current next : UndoOperationFile) : Bool :=
  decide (current.state = .planned ∧ next.state = .staged ∧ current.stagedMetadata = none) &&
    next.stagedMetadata.isSome

def loadBoundOperation (store : JournalStore) (operationId : UndoOperationId)
    (missing : String) : Except String (UndoOperation × List UndoOperationFile) := do
  let loaded ← store.loadUndoOperation encoding operationId
  let (operation, files) ← demand loaded (guardedUndoError missing)
  let restore ← store.loadTurnRestoreSet encoding operation.restoreSetId
  let (restoreSet, restoreFiles) ← demand restore (guardedUndoError "restoration set disappeared")
  store.validateOperationManifestBinding encoding operation files restoreSet restoreFiles
  return (operation, files)

def loadActiveOperation (store : JournalStore) (operationId : UndoOperationId) :
    Except String (List UndoOperationFile) := do
  let loaded ← store.loadUndoOperation encoding operationId
  let (operation, files) ← demand loaded (guardedUndoError "undo operation does not exist")
  refuse (operation.active = false)
    (guardedUndoError "terminal undo operation files are immutable")
  let restore ← store.loadTurnRestoreSet encoding operation.restoreSetId
  let (restoreSet, restoreFiles) ← demand restore (guardedUndoError "restoration set disappeared")
  store.validateOperationManifestBinding encoding operation files restoreSet restoreFiles
  return files

def checkFileTransition (expected : UndoOperationFileState) (current next : UndoOperationFile) :
    Except String Unit := do
  refuse (current.state ≠ expected ∨ current.state.canTransitionTo next.state = false)
    (guardedUndoError "undo file lifecycle compare-and-swap rejected")
  refuse (¬sameFileIdentity current next ∨
      (current.stagedMetadata ≠ next.stagedMetadata ∧ stagesFile current next = false))
    (guardedUndoError "immutable undo file identity changed")
  next.displacedSize.elim (.ok ()) (sqliteInteger "displaced_size")
  refuse (fitsColumn encoding.metadataJson 4096 next.stagedMetadata = false ∨
      fitsColumn encoding.metadataJson 4096 next.displacedMetadata = false ∨
      fitsColumn encoding.recoveryDetailsJson 1024 next.recoveryDetails = false)
    "CHECK constraint failed: dcc_undo_operation_files"

def UndoOperationFile.withTransition (file next : UndoOperationFile) : UndoOperationFile :=
  { file with
    stagedMetadata := next.stagedMetadata
    displacedSize := next.displacedSize
    displacedSha256 := next.displacedSha256
    displacedMetadata := next.displacedMetadata
    state := next.state
    verificationOutcome := next.verificationOutcome
    recoveryDetails := next.recoveryDetails
    updatedAt := next.updatedAt }

def writeFileTransition (expected : UndoOperationFileState) (next : UndoOperationFile) :
    JournalCall Unit := do
  let selects := fun file : UndoOperationFile =>
    decide (file.operationId = next.operationId ∧ file.ordinal = next.ordinal ∧
      file.state = expected)
  let store ← .read
  .update fun s => { s with
    operationFiles := s.operationFiles.updateWhere selects (·.withTransition next) fun _ => rfl }
  .liftExcept <| refuse (store.operationFiles.changed selects ≠ 1)
    (guardedUndoError "undo file compare-and-swap lost")

def transitionUndoOperationFile (expected : UndoOperationFileState) (next : UndoOperationFile) :
    JournalCall Bool := do
  .liftExcept (schemaChecked next.validate)
  .liftExcept <| refuse (expected.isKnown = false ∨ next.state.isKnown = false ∨
      expected.canTransitionTo next.state = false)
    (guardedUndoError "invalid undo file transition")
  .atomically do
    let store ← .read
    let files ← .liftExcept (loadActiveOperation encoding store next.operationId)
    let current ← .liftExcept <| demand (files.find? fun file => file.ordinal = next.ordinal)
      (guardedUndoError "undo operation file does not exist")
    if current.state = next.state then do
      .liftExcept <| refuse (current ≠ next)
        (guardedUndoError "conflicting idempotent undo file transition")
      return false
    else do
      .liftExcept (checkFileTransition encoding expected current next)
      writeFileTransition expected next
      return true

def UndoOperation.withTransition (operation : UndoOperation) (next : UndoOperationState)
    (reason : Option GuardedUndoReasonCode) (details : Option RecoveryDetailsV1)
    (updatedAt : String) : UndoOperation :=
  { operation with
    state := next
    active := !next.inactive
    reasonCode := reason
    recoveryDetails := details
    updatedAt := updatedAt
    completedAt := if next.inactive = true then some updatedAt else none }

-- the update keeps the time of completion of a row that stays active
def UndoOperationRow.withTransition (row : UndoOperationRow) (next : UndoOperationState)
    (reason : Option GuardedUndoReasonCode) (details : Option RecoveryDetailsV1)
    (updatedAt : String) : UndoOperationRow :=
  { row with
    state := next
    active := !next.inactive
    reasonCode := reason
    recoveryDetails := details
    updatedAt := updatedAt
    completedAt := if next.inactive = true then some updatedAt else row.completedAt }

def checkNextFiles (next : UndoOperationState) (files : List UndoOperationFile) :
    Except String Unit := do
  refuse (next = .prepared ∧ ∃ file ∈ files, file.state ≠ .staged)
    (guardedUndoError "prepared journal requires every exchange file staged")
  refuse (next = .completed ∧
      ∃ file ∈ files, file.state ≠ .verified ∨ file.verificationOutcome ≠ .verified)
    (guardedUndoError "completed journal requires every file verified")
  refuse (next = .rolledBack ∧
      ∃ file ∈ files, file.state ≠ .rolledBack ∨ file.verificationOutcome ≠ .verified)
    (guardedUndoError "rolled-back journal requires every file rollback verified")

def writeOperationTransition (operationId : UndoOperationId) (expected next : UndoOperationState)
    (reason : Option GuardedUndoReasonCode) (details : Option RecoveryDetailsV1)
    (updatedAt : String) : JournalCall Unit := do
  let selects := fun row : UndoOperationRow =>
    decide (row.operationId = operationId ∧ row.state = expected)
  .liftExcept <| refuse (fitsColumn encoding.recoveryDetailsJson 1024 details = false)
    "CHECK constraint failed: dcc_undo_operations"
  let store ← .read
  .update fun s => { s with
    operations := s.operations.updateWhere selects
      (·.withTransition next reason details updatedAt) fun _ => rfl }
  .liftExcept <| refuse (store.operations.changed selects ≠ 1)
    (guardedUndoError "undo lifecycle compare-and-swap lost")

def consumeRestoreSet (restoreSetId : RestoreSetId) (updatedAt : String) : JournalCall Unit := do
  let selects := fun restoreSet : TurnRestoreSet =>
    decide (restoreSet.restoreSetId = restoreSetId ∧ restoreSet.state = .eligible)
  let store ← .read
  .update fun s => { s with
    restoreSets := s.restoreSets.updateWhere selects
      (fun restoreSet =>
        { restoreSet with state := .consumed, reasonCode := none, completedAt := some updatedAt })
      fun _ => rfl }
  .liftExcept <| refuse (store.restoreSets.changed selects ≠ 1)
    (guardedUndoError "completed operation could not atomically consume restoration set")

def transitionUndoOperation (operationId : UndoOperationId) (expected next : UndoOperationState)
    (reason : Option GuardedUndoReasonCode) (details : Option RecoveryDetailsV1)
    (updatedAt : String) : JournalCall Bool := do
  .liftExcept <| refuse (expected.isKnown = false ∨ next.isKnown = false ∨
      expected.canTransitionTo next = false)
    (guardedUndoError "invalid undo operation transition")
  .liftExcept <| refuse (∃ r ∈ reason, r.isKnown = false)
    (guardedUndoError "unknown undo reason code")
  .liftExcept (schemaChecked (validateSome RecoveryDetailsV1.validate details))
  .atomically do
    let store ← .read
    let current ← .liftExcept <| demand (store.operations.find? operationId)
      (guardedUndoError "undo operation does not exist")
    .liftExcept <| refuse (current.journalVersion ≠ undoJournalSchemaVersion)
      (guardedUndoError "unknown undo journal version cannot transition")
    let (operation, files) ← .liftExcept <|
      loadBoundOperation encoding store operationId "undo operation disappeared"
    if current.state = next then do
      .liftExcept <| refuse (operation.reasonCode ≠ reason ∨ operation.recoveryDetails ≠ details)
        (guardedUndoError "conflicting idempotent undo transition")
      return false
    else do
      .liftExcept <| refuse (current.state ≠ expected ∨
          current.state.canTransitionTo next = false)
        (guardedUndoError "undo operation lifecycle compare-and-swap rejected")
      .liftExcept <| schemaChecked
        (operation.withTransition next reason details updatedAt).validate
      .liftExcept (checkNextFiles next files)
      writeOperationTransition encoding operationId expected next reason details updatedAt
      if next = .completed then consumeRestoreSet current.restoreSetId updatedAt else pure ()
      return true

inductive JournalAction
  | create (operation : UndoOperation) (files : List UndoOperationFile)
  | transition (operationId : UndoOperationId) (expected next : UndoOperationState)
      (reason : Option GuardedUndoReasonCode) (details : Option RecoveryDetailsV1)
      (updatedAt : String)
  | transitionFile (expected : UndoOperationFileState) (next : UndoOperationFile)

def JournalAction.call : JournalAction → JournalCall Bool
  | .create operation files => do
      createUndoOperation encoding operation files
      return true
  | .transition operationId expected next reason details updatedAt =>
      transitionUndoOperation encoding operationId expected next reason details updatedAt
  | .transitionFile expected next => transitionUndoOperationFile encoding expected next

def undoJournal (initial : JournalStore) : System JournalStore JournalAction (Except String Bool)
    where
  start := initial
  step store action := some (action.call encoding store)

end DevCommandCenter.GuardedUndo
