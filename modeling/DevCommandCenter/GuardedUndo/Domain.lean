import DevCommandCenter.GuardedUndo.States

/-! Restoration sets, undo operations and their files, with the checks that every record passes
before it is written and after it is read. -/

namespace DevCommandCenter.GuardedUndo

open Library

abbrev Byte : Type :=
  Fin 256

structure Sha256Digest where
  bytes : List Byte
  sized : bytes.length = 32
  deriving DecidableEq

structure ArtifactKey where
  bytes : List Byte
  sized : bytes.length = 16
  deriving DecidableEq

structure RestoreSetId where
  value : String
  deriving DecidableEq

structure UndoOperationId where
  value : String
  deriving DecidableEq

structure OpaqueRepoPath where
  bytes : List Byte
  deriving DecidableEq

def restoreCaptureVersion : ℕ := 2
def restoreManifestSchemaVersion : ℕ := 1
def gitIdentitySchemaVersion : ℕ := 2
def fileMetadataSchemaVersion : ℕ := 1
def preparedIdentitySchemaVersion : ℕ := 2
def recoveryDetailsSchemaVersion : ℕ := 1
def undoJournalSchemaVersion : ℕ := 1
def maxRestoreFiles : ℕ := 256
def maxPreimageBytesPerFile : ℕ := 8 * 1024 * 1024
def maxPreimageBytesPerSet : ℕ := 32 * 1024 * 1024
def maxIndexBytes : ℕ := 64 * 1024 * 1024
def maxOpaquePathBytes : ℕ := 4096
def maxMetadataFields : ℕ := 8
def maxMetadataValueBytes : ℕ := 64

inductive GuardedUndoSchemaError
  | unsupportedCaptureVersion (version : ℕ)
  | unsupportedSchemaVersion (kind : String) (actual expected : ℕ)
  | unknownPersistedValue
  | unsupportedPathEncoding
  | invalidField (text : String)
  | accountingLimit (reason : GuardedUndoReasonCode)
  | manifestDigestMismatch
  deriving DecidableEq

def GuardedUndoSchemaError.text : GuardedUndoSchemaError → String
  | .unsupportedCaptureVersion version =>
      "unsupported guarded undo capture version " ++ toString version
  | .unsupportedSchemaVersion kind actual expected =>
      "unsupported " ++ kind ++ " schema " ++ toString actual ++ "; expected " ++ toString expected
  | .unknownPersistedValue => "unknown persisted enum value"
  | .unsupportedPathEncoding => "unsupported opaque repository path encoding"
  | .invalidField text => "invalid guarded undo field: " ++ text
  | .accountingLimit reason => "guarded undo accounting limit: " ++ reason.asStr
  | .manifestDigestMismatch => "manifest digest mismatch"

abbrev Check : Type :=
  Except GuardedUndoSchemaError Unit

def requireSchema (kind : String) (actual expected : ℕ) : Check :=
  refuse (actual ≠ expected) (.unsupportedSchemaVersion kind actual expected)

def requireText (field value : String) : Check :=
  refuse (isBlank value = true) (.invalidField (field ++ " must not be empty"))

def requireBoundedText (field value : String) (maximum : ℕ) : Check := do
  requireText field value
  refuse (value.utf8ByteSize > maximum) (.invalidField (field ++ " is oversized"))

def requireBoundedBytes (field : String) (value : List Byte) (maximum : ℕ) : Check :=
  refuse (value = [] ∨ value.length > maximum) (.invalidField (field ++ " is empty or oversized"))

def requireKnownReason (reason : GuardedUndoReasonCode) : Check :=
  refuse (reason.isKnown = false) .unknownPersistedValue

def requireKnownState (state : RestoreSetState) : Check :=
  refuse (state.isKnown = false) .unknownPersistedValue

def validateSome {α : Type} (check : α → Check) : Option α → Check
  | some a => check a
  | none => .ok ()

def leavesDirectory {α : Type} [DecidableEq α] (dot : α) (component : List α) : Bool :=
  decide (component = [] ∨ component = [dot] ∨ component = [dot, dot])

def validateUnixRelativePath (path : List Byte) : Check := do
  refuse (path = [] ∨ 0 ∈ path ∨ path.head? = some 0x2f) (.invalidField "Unix path is not relative")
  refuse ((path.splitOn 0x2f).any (leavesDirectory 0x2e) = true)
    (.invalidField "unsafe Unix path component")

def wtf16Units : List Byte → List ℕ
  | low :: high :: rest => (low.val + 256 * high.val) :: wtf16Units rest
  | _ => []

def isAsciiAlphabetic (byte : ℕ) : Bool :=
  decide ((0x41 ≤ byte ∧ byte ≤ 0x5a) ∨ (0x61 ≤ byte ∧ byte ≤ 0x7a))

def isWindowsSeparator (unit : ℕ) : Bool :=
  decide (unit = 0x2f ∨ unit = 0x5c)

def hasDrive : List ℕ → Bool
  | drive :: colon :: separator :: _ =>
      isAsciiAlphabetic (drive % 256) && decide (colon = 0x3a) && isWindowsSeparator separator
  | _ => false

def validateWindowsRelativePath (bytes : List Byte) : Check := do
  refuse (bytes = [] ∨ bytes.length % 2 ≠ 0) (.invalidField "invalid WTF-16LE path")
  let units := wtf16Units bytes
  refuse (0 ∈ units ∨ 0x3a ∈ units ∨ (units.head?.any isWindowsSeparator) = true ∨
      hasDrive units = true)
    (.invalidField "Windows path is not relative")
  refuse ((units.splitOnP isWindowsSeparator).any (leavesDirectory 0x2e) = true)
    (.invalidField "unsafe Windows path component")

def OpaqueRepoPath.validate (path : OpaqueRepoPath) : Check :=
  match path.bytes with
  | version :: encoding :: rest =>
      if rest = [] ∨ path.bytes.length > maxOpaquePathBytes ∨ version ≠ 1 then
        .error .unsupportedPathEncoding
      else if encoding = 1 then validateUnixRelativePath rest
      else if encoding = 2 then validateWindowsRelativePath rest
      else .error .unsupportedPathEncoding
  | _ => .error .unsupportedPathEncoding

def validateRoot (root : PhysicalRootId) : Check :=
  refuse (root.validate = false) (.invalidField "unsupported physical root identity")

inductive CheckoutRefV1
  | symbolic (fullName : String)
  | detached
  deriving DecidableEq

structure IndexIdentityV1 where
  sha256 : Sha256Digest
  size : ℕ
  statIdentity : List Byte
  deriving DecidableEq

structure GitIdentityV1 where
  schemaVersion : ℕ
  worktreeIdentity : List Byte
  gitDirIdentity : List Byte
  commonDirIdentity : List Byte
  headOid : List Byte
  checkoutRef : CheckoutRefV1
  index : IndexIdentityV1
  deriving DecidableEq

-- everything but the index's stat identity, which Git renews without a change
def GitIdentityV1.sameRepositoryState (git other : GitIdentityV1) : Bool :=
  decide (git.schemaVersion = other.schemaVersion ∧
    git.worktreeIdentity = other.worktreeIdentity ∧
    git.gitDirIdentity = other.gitDirIdentity ∧
    git.commonDirIdentity = other.commonDirIdentity ∧
    git.headOid = other.headOid ∧
    git.checkoutRef = other.checkoutRef ∧
    git.index.sha256 = other.index.sha256 ∧
    git.index.size = other.index.size)

def CheckoutRefV1.validate : CheckoutRefV1 → Check
  | .symbolic fullName => do
      requireBoundedText "checkout_ref.full_name" fullName 1024
      refuse ('\x00' ∈ fullName.toList) (.invalidField "checkout ref contains NUL")
  | .detached => .ok ()

def GitIdentityV1.validate (git : GitIdentityV1) : Check := do
  requireSchema "git_identity" git.schemaVersion gitIdentitySchemaVersion
  requireBoundedBytes "worktree_identity" git.worktreeIdentity maxIdentityBytes
  requireBoundedBytes "git_dir_identity" git.gitDirIdentity maxIdentityBytes
  requireBoundedBytes "common_dir_identity" git.commonDirIdentity maxIdentityBytes
  refuse (git.headOid.length ≠ 20 ∧ git.headOid.length ≠ 32)
    (.invalidField "head_oid must be a raw SHA-1 or SHA-256 object id")
  requireBoundedBytes "index.stat_identity" git.index.statIdentity maxIdentityBytes
  refuse (git.index.size > maxIndexBytes) (.accountingLimit .indexTooLarge)
  git.checkoutRef.validate

-- a `BTreeMap`
structure MetadataFields where
  entries : List (String × List Byte)
  ordered : (entries.map Prod.fst).Pairwise (· < ·)
  deriving DecidableEq

structure RegularFileMetadataV1 where
  schemaVersion : ℕ
  adapter : String
  fileIdentity : List Byte
  linkCount : ℕ
  fields : MetadataFields
  deriving DecidableEq

def allowedMetadataFields : List String :=
  ["mode", "readonly", "uid", "gid", "volume_serial", "file_id", "attributes"]

def physicalIdentityFields : List String :=
  ["volume_serial", "file_id"]

def RegularFileMetadataV1.validate (metadata : RegularFileMetadataV1) : Check := do
  requireSchema "regular_file_metadata" metadata.schemaVersion fileMetadataSchemaVersion
  refuse (validStableLabel metadata.adapter = false)
    (.invalidField "metadata.adapter must be a bounded stable label")
  requireBoundedBytes "metadata.file_identity" metadata.fileIdentity maxIdentityBytes
  refuse (metadata.linkCount ≠ 1) (.invalidField "metadata.link_count must equal one")
  refuse (metadata.fields.entries.length > maxMetadataFields)
    (.invalidField "too many metadata fields")
  refuse (∃ field ∈ metadata.fields.entries,
      field.1 ∉ allowedMetadataFields ∨ field.2.length > maxMetadataValueBytes)
    (.invalidField "metadata field is unsupported or oversized")

-- which physical file carries the metadata is left out
def RegularFileMetadataV1.sameAttributes (metadata other : RegularFileMetadataV1) : Bool :=
  let attributes := fun file : RegularFileMetadataV1 =>
    file.fields.entries.filter fun field => field.1 ∉ physicalIdentityFields
  decide (metadata.schemaVersion = other.schemaVersion ∧ metadata.adapter = other.adapter ∧
    metadata.linkCount = other.linkCount ∧ attributes metadata = attributes other)

structure PreparedIdentityV1 where
  schemaVersion : ℕ
  rootId : PhysicalRootId
  git : GitIdentityV1
  manifestDigest : Sha256Digest
  coordinatorGeneration : ℕ
  gitDirGeneration : ℕ
  commonDirGeneration : ℕ
  deriving DecidableEq

def PreparedIdentityV1.validate (prepared : PreparedIdentityV1) : Check := do
  requireSchema "prepared_identity" prepared.schemaVersion preparedIdentitySchemaVersion
  validateRoot prepared.rootId
  prepared.git.validate

structure RecoveryDetailsV1 where
  schemaVersion : ℕ
  reasonCode : GuardedUndoReasonCode
  diagnosticLabel : String
  deriving DecidableEq

def RecoveryDetailsV1.validate (details : RecoveryDetailsV1) : Check := do
  requireSchema "recovery_details" details.schemaVersion recoveryDetailsSchemaVersion
  requireKnownReason details.reasonCode
  refuse (validStableLabel details.diagnosticLabel = false)
    (.invalidField "recovery diagnostic label is not content-free")

structure TurnRestoreSet where
  restoreSetId : RestoreSetId
  snapshotId : String
  sessionId : SessionId
  turnId : TurnId
  workspaceId : WorkspaceId
  rootId : Option PhysicalRootId
  captureVersion : ℕ
  state : RestoreSetState
  reasonCode : Option GuardedUndoReasonCode
  gitIdentity : Option GitIdentityV1
  artifactBytes : ℕ
  fileCount : ℕ
  manifestDigest : Option Sha256Digest
  createdAt : String
  completedAt : Option String
  expiresAt : Option String
  deriving DecidableEq

def GitIdentityV1.onBranchOrDetached (git : GitIdentityV1) : Bool :=
  match git.checkoutRef with
  | .symbolic fullName => "refs/heads/".toList.isPrefixOf fullName.toList
  | .detached => true

def TurnRestoreSet.stateConsistent (restoreSet : TurnRestoreSet) : Bool :=
  match restoreSet.state with
  | .collecting => restoreSet.completedAt.isNone && restoreSet.reasonCode.isNone
  | .eligible =>
      restoreSet.reasonCode.isNone && restoreSet.manifestDigest.isSome &&
        restoreSet.completedAt.isSome && restoreSet.expiresAt.isSome &&
        decide (restoreSet.fileCount > 0) && restoreSet.rootId.isSome &&
        restoreSet.gitIdentity.any GitIdentityV1.onBranchOrDetached
  | .ineligible | .failed | .expired => restoreSet.reasonCode.isSome && restoreSet.completedAt.isSome
  | .consumed =>
      restoreSet.reasonCode.isNone && restoreSet.completedAt.isSome &&
        restoreSet.manifestDigest.isSome && decide (restoreSet.fileCount > 0) &&
        restoreSet.rootId.isSome && restoreSet.gitIdentity.isSome
  | .unknown _ => false

def TurnRestoreSet.validate (restoreSet : TurnRestoreSet) : Check := do
  refuse (restoreSet.captureVersion ≠ restoreCaptureVersion)
    (.unsupportedCaptureVersion restoreSet.captureVersion)
  requireText "restore_set_id" restoreSet.restoreSetId.value
  requireText "snapshot_id" restoreSet.snapshotId
  requireText "session_id" restoreSet.sessionId.value
  requireText "turn_id" restoreSet.turnId.value
  requireText "workspace_id" restoreSet.workspaceId.value
  validateSome validateRoot restoreSet.rootId
  validateSome GitIdentityV1.validate restoreSet.gitIdentity
  requireKnownState restoreSet.state
  validateSome requireKnownReason restoreSet.reasonCode
  refuse (restoreSet.fileCount > maxRestoreFiles) (.accountingLimit .tooManyFiles)
  refuse (restoreSet.artifactBytes > maxPreimageBytesPerSet) (.accountingLimit .setTooLarge)
  refuse (restoreSet.stateConsistent = false)
    (.invalidField "restore set state fields are inconsistent")

structure TurnRestoreFile where
  restoreSetId : RestoreSetId
  ordinal : ℕ
  pathBytes : OpaqueRepoPath
  status : RestoreFileStatus
  preSize : ℕ
  preSha256 : Sha256Digest
  preArtifactKey : ArtifactKey
  resultSize : ℕ
  resultSha256 : Sha256Digest
  metadataFingerprint : RegularFileMetadataV1
  deriving DecidableEq

def TurnRestoreFile.validate (file : TurnRestoreFile) : Check := do
  requireText "restore_set_id" file.restoreSetId.value
  file.pathBytes.validate
  refuse (file.status ≠ .modified) (.invalidField "capture v2 only supports status M")
  refuse (file.preSize > maxPreimageBytesPerFile) (.accountingLimit .fileTooLarge)
  refuse (file.resultSize > maxPreimageBytesPerFile) (.accountingLimit .fileTooLarge)
  file.metadataFingerprint.validate

structure UndoOperation where
  operationId : UndoOperationId
  restoreSetId : RestoreSetId
  journalVersion : ℕ
  state : UndoOperationState
  active : Bool
  previewTokenDigest : Option Sha256Digest
  preparedIdentity : PreparedIdentityV1
  reasonCode : Option GuardedUndoReasonCode
  recoveryDetails : Option RecoveryDetailsV1
  createdAt : String
  updatedAt : String
  completedAt : Option String
  deriving DecidableEq

def UndoOperation.stateConsistent (operation : UndoOperation) : Bool :=
  match operation.state with
  | .preparing | .prepared | .applying | .verifying | .rollingBack =>
      operation.active && operation.completedAt.isNone && operation.reasonCode.isNone &&
        operation.recoveryDetails.isNone
  | .completed | .rolledBack =>
      !operation.active && operation.completedAt.isSome && operation.reasonCode.isNone &&
        operation.recoveryDetails.isNone
  | .blocked =>
      !operation.active && operation.completedAt.isSome && operation.reasonCode.isSome &&
        operation.recoveryDetails.isNone
  | .recoveryRequired =>
      operation.active && operation.completedAt.isNone && operation.reasonCode.isSome &&
        operation.recoveryDetails.isSome
  | .unknown _ => false

def UndoOperation.validate (operation : UndoOperation) : Check := do
  requireSchema "undo_journal" operation.journalVersion undoJournalSchemaVersion
  requireText "operation_id" operation.operationId.value
  requireText "restore_set_id" operation.restoreSetId.value
  refuse (operation.state.isKnown = false) .unknownPersistedValue
  validateSome requireKnownReason operation.reasonCode
  operation.preparedIdentity.validate
  validateSome RecoveryDetailsV1.validate operation.recoveryDetails
  refuse (∃ details ∈ operation.recoveryDetails, some details.reasonCode ≠ operation.reasonCode)
    (.invalidField "recovery details reason does not match operation reason")
  refuse (operation.stateConsistent = false)
    (.invalidField "undo operation state fields are inconsistent")

structure UndoOperationFile where
  operationId : UndoOperationId
  restoreSetId : RestoreSetId
  ordinal : ℕ
  pathBytes : OpaqueRepoPath
  exchangeArtifactKey : ArtifactKey
  expectedResultSize : ℕ
  expectedResultSha256 : Sha256Digest
  expectedMetadata : RegularFileMetadataV1
  preSize : ℕ
  preSha256 : Sha256Digest
  stagedMetadata : Option RegularFileMetadataV1
  displacedSize : Option ℕ
  displacedSha256 : Option Sha256Digest
  displacedMetadata : Option RegularFileMetadataV1
  state : UndoOperationFileState
  verificationOutcome : VerificationOutcome
  recoveryDetails : Option RecoveryDetailsV1
  updatedAt : String
  chainedFromOperationId : Option UndoOperationId
  deriving DecidableEq

def UndoOperationFile.stateConsistent (file : UndoOperationFile) : Bool :=
  let displacedPresent := file.displacedSize.isSome
  match file.state with
  | .planned =>
      file.stagedMetadata.isNone && !displacedPresent && file.verificationOutcome == .pending &&
        file.recoveryDetails.isNone
  | .staged =>
      file.stagedMetadata.isSome && !displacedPresent && file.verificationOutcome == .pending &&
        file.recoveryDetails.isNone
  | .applied =>
      file.stagedMetadata.isSome && displacedPresent && file.verificationOutcome == .pending
  | .verified =>
      file.stagedMetadata.isSome && displacedPresent && file.verificationOutcome == .verified &&
        file.recoveryDetails.isNone
  | .rolledBack =>
      file.verificationOutcome == .verified && file.recoveryDetails.isNone &&
        (file.stagedMetadata.isSome || !displacedPresent)
  | .recoveryRequired => file.verificationOutcome == .failed && file.recoveryDetails.isSome
  | .unknown _ => false

def UndoOperationFile.displacedWhole (file : UndoOperationFile) : Bool :=
  (file.displacedSize.isNone && file.displacedSha256.isNone && file.displacedMetadata.isNone) ||
    (file.displacedSize.isSome && file.displacedSha256.isSome && file.displacedMetadata.isSome)

def UndoOperationFile.validateChain (file : UndoOperationFile) : Check :=
  match file.chainedFromOperationId with
  | some source => do
      requireText "chained_from_operation_id" source.value
      refuse (source = file.operationId)
        (.invalidField "an undo operation cannot chain from itself")
  | none => .ok ()

def UndoOperationFile.validate (file : UndoOperationFile) : Check := do
  requireText "operation_id" file.operationId.value
  requireText "restore_set_id" file.restoreSetId.value
  file.validateChain
  file.pathBytes.validate
  refuse (file.preSize > maxPreimageBytesPerFile) (.accountingLimit .fileTooLarge)
  refuse (file.expectedResultSize > maxPreimageBytesPerFile ∨
      ∃ size ∈ file.displacedSize, size > maxPreimageBytesPerFile)
    (.accountingLimit .fileTooLarge)
  refuse (file.state.isKnown = false ∨ file.verificationOutcome.isKnown = false)
    .unknownPersistedValue
  file.expectedMetadata.validate
  validateSome RegularFileMetadataV1.validate file.stagedMetadata
  refuse (file.displacedWhole = false)
    (.invalidField "displaced identity must be entirely absent or present")
  validateSome RegularFileMetadataV1.validate file.displacedMetadata
  validateSome RecoveryDetailsV1.validate file.recoveryDetails
  refuse (file.stateConsistent = false)
    (.invalidField "undo operation file state fields are inconsistent")

structure UndoChainSource where
  operationId : UndoOperationId
  restoreSetId : RestoreSetId
  workspaceId : WorkspaceId
  rootId : PhysicalRootId
  git : GitIdentityV1
  pathBytes : OpaqueRepoPath
  preSize : ℕ
  preSha256 : Sha256Digest
  stagedMetadata : RegularFileMetadataV1
  deriving DecidableEq

def chainedResultIsBound (restoreSet : TurnRestoreSet) (file : TurnRestoreFile)
    (source : UndoChainSource) (expected : RegularFileMetadataV1) : Bool :=
  decide (source.restoreSetId ≠ restoreSet.restoreSetId ∧
    source.workspaceId = restoreSet.workspaceId ∧ restoreSet.rootId = some source.rootId) &&
    restoreSet.gitIdentity.any (·.sameRepositoryState source.git) &&
    decide (source.pathBytes = file.pathBytes ∧ source.preSize = file.resultSize ∧
      source.preSha256 = file.resultSha256 ∧ source.stagedMetadata = expected) &&
    expected.sameAttributes file.metadataFingerprint

end DevCommandCenter.GuardedUndo
