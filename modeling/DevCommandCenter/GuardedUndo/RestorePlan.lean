import DevCommandCenter.GuardedUndo.RestoreService

/-! Preparing one restoration set against the disk, and planning several before any is restored. -/

namespace DevCommandCenter.GuardedUndo

open Library

-- instants are counted in nanoseconds
def tokenLifetime : ℕ := 120 * 10 ^ 9

structure PrepareReady where
  snapshotId : String
  previewToken : String
  expiresAt : String
  fileCount : ℕ
  totalBytes : ℕ
  files : List InversePreview
  unrelatedPathsAreNotTargets : Bool
  deriving DecidableEq

inductive PrepareGuardedUndoResult
  | ready (prepared : PrepareReady)
  | blocked (snapshotId : String) (reason : GuardedUndoReasonCode)
  | unavailable (snapshotId : String) (reason : GuardedUndoReasonCode)
  deriving DecidableEq

structure PlannedRestore where
  snapshotId : String
  fileCount : ℕ
  totalBytes : ℕ
  files : List InversePreview
  deriving DecidableEq

inductive PlanGuardedUndoChainResult
  | ready (planned : List PlannedRestore)
  | blocked (snapshotId : String) (reason : GuardedUndoReasonCode)
  | unavailable (snapshotId : String) (reason : GuardedUndoReasonCode)
  deriving DecidableEq

structure PreparableSet where
  restore : TurnRestoreSet
  files : List TurnRestoreFile
  rootId : PhysicalRootId
  git : GitIdentityV1
  manifestDigest : Sha256Digest
  deriving DecidableEq

inductive SetRefusal
  | blocked (reason : GuardedUndoReasonCode)
  | unavailable (reason : GuardedUndoReasonCode)
  deriving DecidableEq

def SetRefusal.intoPrepare (snapshotId : String) : SetRefusal → PrepareGuardedUndoResult
  | .blocked reason => .blocked snapshotId reason
  | .unavailable reason => .unavailable snapshotId reason

def SetRefusal.intoPlan (snapshotId : String) : SetRefusal → PlanGuardedUndoChainResult
  | .blocked reason => .blocked snapshotId reason
  | .unavailable reason => .unavailable snapshotId reason

def reasonForSet (set : TurnRestoreSet) : GuardedUndoReasonCode :=
  match set.state with
  | .expired => .retentionExpired
  | .consumed => .previewConsumed
  | _ => set.reasonCode.getD .captureV2Missing

section Queries

variable (encoding : JournalEncoding) (store : JournalStore) (snapshotId : String)

def requireSnapshotId : Except String Unit :=
  refuse (isBlank snapshotId = true) (guardedUndoError "snapshot id is empty")

def getTurnRestoreSetBySnapshot :
    Except String (Option (TurnRestoreSet × List TurnRestoreFile)) := do
  requireSnapshotId snapshotId
  match store.restoreSets.rows.find? fun restore => restore.snapshotId = snapshotId with
  | some restore => store.loadTurnRestoreSet encoding restore.restoreSetId
  | none => return none

structure GuardedUndoActiveOperationSummary where
  operationId : UndoOperationId
  state : UndoOperationState
  reasonCode : Option GuardedUndoReasonCode
  updatedAt : String
  deriving DecidableEq

def JournalStore.ofSnapshot (row : UndoOperationRow) : Bool :=
  (store.restoreSets.find? row.restoreSetId).any fun restore => restore.snapshotId = snapshotId

-- `LIMIT 1` of rows in no order
def getActiveGuardedUndoSummary : Except String (Option GuardedUndoActiveOperationSummary) := do
  requireSnapshotId snapshotId
  let active := store.operations.rows.find? fun row => store.ofSnapshot snapshotId row && row.active
  return active.map fun row => {
    operationId := row.operationId
    state := row.state
    reasonCode := row.reasonCode
    updatedAt := row.updatedAt }

def hasGuardedUndoCleanupPending : Except String Bool := do
  requireSnapshotId snapshotId
  return store.operations.rows.any fun row => store.ofSnapshot snapshotId row && row.cleanupPending

end Queries

section Prepare

variable (env : RestoreEnvironment)

def mutationPending (snapshotId : String) : Service Bool := do
  let active ← repositoryRead env fun journal => getActiveGuardedUndoSummary journal snapshotId
  if (flattened active).isSome then return true
  else
    match ← repositoryRead env fun journal => hasGuardedUndoCleanupPending journal snapshotId with
    | .ok pending => return pending
    | .error _ => return true

def preparableSet (restore : TurnRestoreSet) (files : List TurnRestoreFile) (now : ℕ) :
    Except SetRefusal PreparableSet :=
  if restore.state ≠ .eligible then .error (.unavailable (reasonForSet restore))
  else
    match restore.expiresAt.bind env.parseTimestamp with
    | none => .error (.unavailable .invalidPersistedRecord)
    | some expiresAt =>
        if expiresAt ≤ now then .error (.unavailable .retentionExpired)
        else
          match restore.rootId, restore.gitIdentity, restore.manifestDigest with
          | some rootId, some git, some manifestDigest => .ok {
              restore := restore
              files := files
              rootId := rootId
              git := git
              manifestDigest := manifestDigest }
          | _, _, _ => .error (.unavailable .invalidPersistedRecord)

def loadPreparable (snapshotId : String) (now : ℕ) : Service (Except SetRefusal PreparableSet) := do
  let loaded ← repositoryRead env fun journal =>
    getTurnRestoreSetBySnapshot env.encoding journal snapshotId
  match flattened loaded with
  | none => return .error (.unavailable .captureV2Missing)
  | some (restore, files) =>
      if ← mutationPending env snapshotId then return .error (.blocked .mutationInProgress)
      else return preparableSet env restore files now

def prepareFile (binding : ResultBinding) (restore : TurnRestoreSet) (file : TurnRestoreFile) :
    Service (Except GuardedUndoReasonCode (ExpectedResult × InversePreview)) := do
  match ← verifyPreimage env file.preArtifactKey file.preSize file.preSha256 with
  | .error reason => return .error reason
  | .ok () =>
      match ← inspectTarget env file.pathBytes with
      | .error reason => return .error reason
      | .ok current =>
          match ← expectedResult env binding restore file current with
          | .error reason => return .error reason
          | .ok expected =>
              match ← inversePreview env file with
              | .error reason => return .error reason
              | .ok preview => return .ok (expected, preview)

def prepareFiles (binding : ResultBinding) (restore : TurnRestoreSet) :
    List TurnRestoreFile →
      Service (Except GuardedUndoReasonCode (List (ExpectedResult × InversePreview)))
  | [] => pure (.ok [])
  | file :: rest => do
      match ← prepareFile env binding restore file with
      | .error reason => return .error reason
      | .ok first =>
          match ← prepareFiles binding restore rest with
          | .error reason => return .error reason
          | .ok others => return .ok (first :: others)

def preparedToken (snapshotId workspaceAbsolute : String) (set : PreparableSet)
    (authority : RestoreAuthority) (binding : ResultBinding) (now : ℕ)
    (expected : List ExpectedResult) : PreparedToken where
  snapshotId := snapshotId
  workspaceId := set.restore.workspaceId
  workspaceAbsolute := workspaceAbsolute
  restoreSetId := set.restore.restoreSetId
  rootId := set.rootId
  git := set.git
  manifestDigest := set.manifestDigest
  coordinatorGenerations := authority.coordinatorGenerations
  expiresAt := now + tokenLifetime
  binding := binding
  expected := expected

def issueToken (prepared : PreparedToken) : Service Unit :=
  .update fun w => { w with
    tokens := Function.update
      (fun digest => (w.tokens digest).filter fun current =>
        decide (current.workspaceId ≠ prepared.workspaceId))
      (env.encoding.sha256 (textBytes env.previewToken)) (some prepared) }

def prepareSet (snapshotId workspaceAbsolute : String) (binding : ResultBinding) (now : ℕ)
    (set : PreparableSet) (authority : RestoreAuthority) : Service PrepareGuardedUndoResult := do
  if authority.mode ≠ .shared ∨ authority.rootId ≠ set.rootId then
    return .blocked snapshotId .repositoryIdentityChanged
  else if (← sameRepositoryState env set.git) = false then
    return .blocked snapshotId .repositoryIdentityChanged
  else
    match ← prepareFiles env binding set.restore set.files with
    | .error reason => return .blocked snapshotId reason
    | .ok prepared => do
        issueToken env (preparedToken snapshotId workspaceAbsolute set authority binding now
          (prepared.map Prod.fst))
        return .ready {
          snapshotId := snapshotId
          previewToken := env.previewToken
          expiresAt := env.timestamp (now + tokenLifetime)
          fileCount := set.restore.fileCount
          totalBytes := set.restore.artifactBytes
          files := prepared.map Prod.snd
          unrelatedPathsAreNotTargets := true }

def prepareAt (snapshotId workspaceAbsolute : String) (binding : ResultBinding) (now : ℕ) :
    Service PrepareGuardedUndoResult := do
  match ← loadPreparable env snapshotId now with
  | .error refusal => return refusal.intoPrepare snapshotId
  | .ok set =>
      match ← acquire env workspaceAbsolute set.rootId .shared with
      | .error reason => return .blocked snapshotId reason
      | .ok authority => prepareSet env snapshotId workspaceAbsolute binding now set authority

end Prepare

section Plan

variable (env : RestoreEnvironment)

abbrev PendingRestores : Type :=
  OpaqueRepoPath → Option TurnRestoreFile

def PendingRestores.extend (pending : PendingRestores) (files : List TurnRestoreFile) :
    PendingRestores :=
  files.foldl (fun pending file => Function.update pending file.pathBytes (some file)) pending

def leavesResult (newer file : TurnRestoreFile) : Bool :=
  decide (newer.preSize = file.resultSize ∧ newer.preSha256 = file.resultSha256) &&
    newer.metadataFingerprint.sameAttributes file.metadataFingerprint

def planTarget (restore : TurnRestoreSet) (pending : PendingRestores) (file : TurnRestoreFile) :
    Service (Except GuardedUndoReasonCode InversePreview) := do
  match pending file.pathBytes with
  | some newer =>
      if leavesResult newer file = false then return .error .targetResultMismatch
      else chainedInversePreview env file newer
  | none =>
      match ← inspectTarget env file.pathBytes with
      | .error reason => return .error reason
      | .ok current =>
          match ← expectedResult env .afterCompletedUndo restore file current with
          | .error reason => return .error reason
          | .ok _ => inversePreview env file

def planFile (restore : TurnRestoreSet) (pending : PendingRestores) (file : TurnRestoreFile) :
    Service (Except GuardedUndoReasonCode InversePreview) := do
  match ← verifyPreimage env file.preArtifactKey file.preSize file.preSha256 with
  | .error reason => return .error reason
  | .ok () => planTarget env restore pending file

def planFiles (restore : TurnRestoreSet) (pending : PendingRestores) :
    List TurnRestoreFile → Service (Except GuardedUndoReasonCode (List InversePreview))
  | [] => pure (.ok [])
  | file :: rest => do
      match ← planFile env restore pending file with
      | .error reason => return .error reason
      | .ok preview =>
          match ← planFiles restore pending rest with
          | .error reason => return .error reason
          | .ok previews => return .ok (preview :: previews)

def plannedRestore (snapshotId : String) (set : PreparableSet) (files : List InversePreview) :
    PlannedRestore where
  snapshotId := snapshotId
  fileCount := set.restore.fileCount
  totalBytes := set.restore.artifactBytes
  files := files

def planSets (git : GitIdentityV1) (pending : PendingRestores) :
    List (String × PreparableSet) →
      Service (Except PlanGuardedUndoChainResult (List PlannedRestore))
  | [] => pure (.ok [])
  | (snapshotId, set) :: rest => do
      if set.git.sameRepositoryState git = false then
        return .error (.blocked snapshotId .repositoryIdentityChanged)
      else
        match ← planFiles env set.restore pending set.files with
        | .error reason => return .error (.blocked snapshotId reason)
        | .ok previews =>
            match ← planSets git (pending.extend set.files) rest with
            | .error answer => return .error answer
            | .ok planned => return .ok (plannedRestore snapshotId set previews :: planned)

def loadSets (now : ℕ) :
    List String → Service (Except PlanGuardedUndoChainResult (List (String × PreparableSet)))
  | [] => pure (.ok [])
  | snapshotId :: rest => do
      match ← loadPreparable env snapshotId now with
      | .error refusal => return .error (refusal.intoPlan snapshotId)
      | .ok set =>
          match ← loadSets now rest with
          | .error answer => return .error answer
          | .ok sets => return .ok ((snapshotId, set) :: sets)

def planWith (authority : RestoreAuthority) (snapshotId : String) (rootId : PhysicalRootId)
    (sets : List (String × PreparableSet)) : Service PlanGuardedUndoChainResult := do
  if authority.mode ≠ .shared ∨ authority.rootId ≠ rootId then
    return .blocked snapshotId .repositoryIdentityChanged
  else
    match ← gitIdentity env with
    | .error _ => return .blocked snapshotId .repositoryIdentityChanged
    | .ok git =>
        match ← planSets env git (fun _ => none) sets with
        | .error answer => return answer
        | .ok planned => return .ready planned

def planChainAt (snapshotIdsNewestFirst : List String) (workspaceAbsolute : String) (now : ℕ) :
    Service PlanGuardedUndoChainResult := do
  match ← loadSets env now snapshotIdsNewestFirst with
  | .error answer => return answer
  | .ok [] => return .ready []
  | .ok ((snapshotId, first) :: rest) =>
      let stray := ((snapshotId, first) :: rest).find? fun set =>
        decide (set.2.restore.workspaceId ≠ first.restore.workspaceId ∨
          set.2.rootId ≠ first.rootId)
      match stray with
      | some set => return .blocked set.1 .repositoryIdentityChanged
      | none =>
          match ← acquire env workspaceAbsolute first.rootId .shared with
          | .error reason => return .blocked snapshotId reason
          | .ok authority =>
              planWith env authority snapshotId first.rootId ((snapshotId, first) :: rest)

end Plan

end DevCommandCenter.GuardedUndo
