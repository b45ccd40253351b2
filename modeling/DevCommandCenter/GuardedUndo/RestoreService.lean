import DevCommandCenter.GuardedUndo.RestoreWorld

/-! The restore service: executing a prepared undo, and recovering what a stopped process left. -/

namespace DevCommandCenter.GuardedUndo

open Library

inductive ExecuteGuardedUndoResult
  | completed (operationId : UndoOperationId)
  | blocked (reason : GuardedUndoReasonCode)
  | rolledBack (operationId : UndoOperationId)
  | recoveryRequired (operationId : UndoOperationId) (reason : GuardedUndoReasonCode)
  deriving DecidableEq

def resultEvidence (file : UndoOperationFile) : FileEvidence where
  size := file.expectedResultSize
  sha256 := file.expectedResultSha256
  metadata := file.expectedMetadata

def stagedEvidence (file : UndoOperationFile) : Option FileEvidence :=
  file.stagedMetadata.map fun staged =>
    { size := file.preSize, sha256 := file.preSha256, metadata := staged }

def isMissing : Except GuardedUndoReasonCode FileEvidence → Bool
  | .error .displacedFileMissing | .error .targetMissing | .error .artifactMissing => true
  | _ => false

def recoveryDetailsFor (reason : GuardedUndoReasonCode) (label : String) : RecoveryDetailsV1 where
  schemaVersion := recoveryDetailsSchemaVersion
  reasonCode := reason
  diagnosticLabel := label

def matchesResult (evidence : FileEvidence) (file : TurnRestoreFile) : Bool :=
  decide (evidence.size = file.resultSize ∧ evidence.sha256 = file.resultSha256 ∧
    evidence.metadata = file.metadataFingerprint)

def preparedMatchesSet (prepared : PreparedToken) (restore : TurnRestoreSet) : Bool :=
  decide (restore.state = .eligible ∧ restore.snapshotId = prepared.snapshotId ∧
    restore.workspaceId = prepared.workspaceId ∧ restore.restoreSetId = prepared.restoreSetId ∧
    restore.rootId = some prepared.rootId ∧ restore.gitIdentity = some prepared.git ∧
    restore.manifestDigest = some prepared.manifestDigest)

section Pairs

variable (env : RestoreEnvironment)

def observes (observed : Except GuardedUndoReasonCode FileEvidence)
    (expected : Option FileEvidence) : Bool :=
  match observed, expected with
  | .ok seen, some file => decide (seen = file)
  | _, _ => false

def pairIsUnapplied (file : UndoOperationFile) : Service Bool := do
  let target ← inspectTarget env file.pathBytes
  let sibling ← inspectExchange env file.pathBytes file.exchangeArtifactKey
  return observes target (some (resultEvidence file)) && observes sibling (stagedEvidence file)

def pairIsApplied (file : UndoOperationFile) : Service Bool := do
  let target ← inspectTarget env file.pathBytes
  let sibling ← inspectExchange env file.pathBytes file.exchangeArtifactKey
  return observes target (stagedEvidence file) && observes sibling (some (resultEvidence file))

def applyOne (file : UndoOperationFile) : Service (Except GuardedUndoReasonCode Unit) := do
  if (← pairIsUnapplied env file) = false then
    return .error .targetResultMismatch
  else
    match stagedEvidence file with
    | none => return .error .invalidPersistedRecord
    | some staged =>
        match ← exchange env file.pathBytes file.exchangeArtifactKey (resultEvidence file) staged with
        | .error reason => return .error reason
        | .ok () =>
            if ← pairIsApplied env file then return .ok ()
            else return .error .displacedTargetMismatch

def sameRepositoryState (captured : GitIdentityV1) : Service Bool := do
  match ← gitIdentity env with
  | .ok current => return current.sameRepositoryState captured
  | .error _ => return false

def allFiles (check : UndoOperationFile → Service Bool) : List UndoOperationFile → Service Bool
  | [] => pure true
  | file :: rest => do
      if ← check file then allFiles check rest else return false

end Pairs

section Journalling

variable (env : RestoreEnvironment)

def loadedFile (original : UndoOperationFile) : Service (Option UndoOperationFile) := do
  let loaded ← loadedUndoOperation env original.operationId
  return loaded.bind fun found => found.2.find? fun file => file.ordinal = original.ordinal

def withDisplaced (file : UndoOperationFile) : UndoOperationFile :=
  { file with
    displacedSize := some file.expectedResultSize
    displacedSha256 := some file.expectedResultSha256
    displacedMetadata := some file.expectedMetadata }

def recordVerified (current : UndoOperationFile) (now : ℕ) : Service Bool := do
  if current.state = .applied then
    let verified := { current with
      state := .verified, verificationOutcome := .verified, updatedAt := env.timestamp now }
    match ← transitionFile env .applied verified with
    | .ok _ => return true
    | .error _ => return false
  else return decide (current.state = .verified)

def recordAppliedVerified (original : UndoOperationFile) (now : ℕ) : Service Bool := do
  match ← loadedFile env original with
  | none => return false
  | some current =>
      if current.state = .staged then
        let applied := { withDisplaced current with
          state := .applied, updatedAt := env.timestamp now }
        match ← transitionFile env .staged applied with
        | .ok _ => recordVerified env applied now
        | .error _ => return false
      else recordVerified env current now

def rolledBackFile (current : UndoOperationFile) (now : ℕ) : UndoOperationFile :=
  let displaced :=
    if current.state = .applied ∨ current.state = .verified then withDisplaced current else current
  { displaced with
    state := .rolledBack
    verificationOutcome := .verified
    recoveryDetails := none
    updatedAt := env.timestamp now }

def markFileRolledBack (original : UndoOperationFile) (now : ℕ) : Service Bool := do
  match ← loadedFile env original with
  | none => return false
  | some current =>
      if current.state = .rolledBack then return true
      else
        match ← transitionFile env current.state (rolledBackFile env current now) with
        | .ok _ => return true
        | .error _ => return false

def markFileRecovery (original : UndoOperationFile) (now : ℕ) : Service Bool := do
  match ← loadedFile env original with
  | none => return false
  | some current =>
      if current.state = .recoveryRequired then return true
      else
        let next := { current with
          state := .recoveryRequired
          verificationOutcome := .failed
          recoveryDetails := some (recoveryDetailsFor .manualRecoveryRequired "file_pair_diverged")
          updatedAt := env.timestamp now }
        match ← transitionFile env current.state next with
        | .ok _ => return true
        | .error _ => return false

def requireRecovery (operationId : UndoOperationId) (expected : UndoOperationState)
    (reason : GuardedUndoReasonCode) (label : String) (now : ℕ) :
    Service ExecuteGuardedUndoResult := do
  let _ ← transitionOperation env operationId expected .recoveryRequired (some reason)
    (some (recoveryDetailsFor reason label)) now
  return .recoveryRequired operationId reason

def cleanupOne (state : UndoOperationState) (file : UndoOperationFile) : Service Bool := do
  let expected :=
    match state with
    | .completed => some (some (resultEvidence file))
    | .rolledBack | .blocked => some (stagedEvidence file)
    | _ => none
  match expected with
  | none => return false
  | some none =>
      let observed ← inspectExchange env file.pathBytes file.exchangeArtifactKey
      return isMissing observed
  | some (some evidence) =>
      let observed ← inspectExchange env file.pathBytes file.exchangeArtifactKey
      if observes observed (some evidence) then
        match ← cleanupExchange env file.pathBytes file.exchangeArtifactKey evidence with
        | .ok () => return true
        | .error _ => return false
      else return isMissing observed

def cleanupTerminal (files : List UndoOperationFile) (state : UndoOperationState) : Service Bool :=
  allFiles (cleanupOne env state) files

def cleanupAndFinish (operationId : UndoOperationId) (files : List UndoOperationFile)
    (state : UndoOperationState) : Service Unit := do
  if ← cleanupTerminal env files state then
    let _ ← finishCleanup env operationId
    return ()
  else return ()

end Journalling

section Rollback

variable (env : RestoreEnvironment) (operationId : UndoOperationId) (now : ℕ)

-- `false` when a pair found applied could not be exchanged
def exchangeBack (original : UndoOperationFile) : Service Bool := do
  if ← pairIsApplied env original then
    match stagedEvidence original with
    | none => .fail .crash
    | some staged =>
        match ← exchange env original.pathBytes original.exchangeArtifactKey staged
            (resultEvidence original) with
        | .ok () => return true
        | .error _ => return false
  else return true

def rollbackFile (original : UndoOperationFile) : Service (Option ExecuteGuardedUndoResult) := do
  if (← exchangeBack env original) = false then
    some <$> requireRecovery env operationId .rollingBack .exchangeRollbackFailed
      "rollback_exchange_failed" now
  else if (← pairIsUnapplied env original) = false then do
    let _ ← markFileRecovery env original now
    some <$> requireRecovery env operationId .rollingBack .recoveryTargetChanged
      "rollback_pair_diverged" now
  else if (← markFileRolledBack env original now) = false then
    some <$> requireRecovery env operationId .rollingBack .exchangeRollbackFailed
      "rollback_journal_failed" now
  else return none

def rollbackFiles : List UndoOperationFile → Service (Option ExecuteGuardedUndoResult)
  | [] => pure none
  | original :: rest => do
      match ← rollbackFile env operationId now original with
      | some result => return some result
      | none => rollbackFiles rest

def finishRollback (files : List UndoOperationFile) : Service ExecuteGuardedUndoResult := do
  match ← rollbackFiles env operationId now files.reverse with
  | some result => return result
  | none =>
      match ← transitionOperation env operationId .rollingBack .rolledBack none none now with
      | .error _ =>
          requireRecovery env operationId .rollingBack .exchangeRollbackFailed
            "rollback_completion_failed" now
      | .ok _ => do
          cleanupAndFinish env operationId files .rolledBack
          return .rolledBack operationId

def rollbackOperation (operationState : UndoOperationState) (files : List UndoOperationFile) :
    Service ExecuteGuardedUndoResult := do
  if operationState = .rollingBack then finishRollback env operationId now files
  else
    match ← transitionOperation env operationId operationState .rollingBack none none now with
    | .error _ =>
        requireRecovery env operationId operationState .exchangeRollbackFailed
          "rollback_transition_failed" now
    | .ok _ => finishRollback env operationId now files

end Rollback

section Preparing

variable (env : RestoreEnvironment) (operationId : UndoOperationId) (now : ℕ)

def recoverPlanned (file : UndoOperationFile) : Service (Option ExecuteGuardedUndoResult) := do
  let diverged : Service (Option ExecuteGuardedUndoResult) := do
    let _ ← markFileRecovery env file now
    some <$> requireRecovery env operationId .rollingBack .manualRecoveryRequired
      "planned_sibling_diverged" now
  match ← inspectExchange env file.pathBytes file.exchangeArtifactKey with
  | .ok observed =>
      if observed.size = file.preSize ∧ observed.sha256 = file.preSha256 then
        match ← cleanupExchange env file.pathBytes file.exchangeArtifactKey observed with
        | .ok () => return none
        | .error _ =>
            some <$> requireRecovery env operationId .rollingBack .manualRecoveryRequired
              "planned_sibling_cleanup_failed" now
      else diverged
  | .error reason => if isMissing (.error reason) then return none else diverged

def preparingDiverged (file : UndoOperationFile) : Service (Option ExecuteGuardedUndoResult) := do
  let _ ← markFileRecovery env file now
  some <$> requireRecovery env operationId .rollingBack .manualRecoveryRequired
    "preparing_state_diverged" now

def recoverStaged (file : UndoOperationFile) : Service (Option ExecuteGuardedUndoResult) := do
  if ← pairIsUnapplied env file then
    match stagedEvidence file with
    | none => .fail .crash
    | some expected =>
        match ← cleanupExchange env file.pathBytes file.exchangeArtifactKey expected with
        | .ok () => return none
        | .error _ =>
            some <$> requireRecovery env operationId .rollingBack .manualRecoveryRequired
              "staged_sibling_cleanup_failed" now
  else preparingDiverged env operationId now file

def recoverPreparingFile (file : UndoOperationFile) : Service (Option ExecuteGuardedUndoResult) := do
  let cleaned ←
    match file.state with
    | .planned => recoverPlanned env operationId now file
    | .staged => recoverStaged env operationId now file
    | _ => preparingDiverged env operationId now file
  match cleaned with
  | some result => return some result
  | none =>
      if ← markFileRolledBack env file now then return none
      else
        some <$> requireRecovery env operationId .rollingBack .manualRecoveryRequired
          "preparing_file_finalize_failed" now

def recoverPreparingFiles : List UndoOperationFile → Service (Option ExecuteGuardedUndoResult)
  | [] => pure none
  | file :: rest => do
      match ← recoverPreparingFile env operationId now file with
      | some result => return some result
      | none => recoverPreparingFiles rest

def recoverPreparing (files : List UndoOperationFile) : Service ExecuteGuardedUndoResult := do
  match ← transitionOperation env operationId .preparing .rollingBack none none now with
  | .error _ =>
      requireRecovery env operationId .preparing .operationInterrupted
        "preparing_recovery_transition_failed" now
  | .ok _ =>
      match ← recoverPreparingFiles env operationId now files with
      | some result => return result
      | none =>
          match ← transitionOperation env operationId .rollingBack .rolledBack none none now with
          | .error _ =>
              requireRecovery env operationId .rollingBack .operationInterrupted
                "preparing_recovery_finalize_failed" now
          | .ok _ => do
              let _ ← finishCleanup env operationId
              return .rolledBack operationId

def abortFile (file : UndoOperationFile) : Service (Option ExecuteGuardedUndoResult) := do
  match stagedEvidence file with
  | some expected =>
      let _ ← cleanupExchange env file.pathBytes file.exchangeArtifactKey expected
  | none => pure ()
  if ← markFileRolledBack env file now then return none
  else
    some <$> requireRecovery env operationId .rollingBack .manualRecoveryRequired
      "preparing_cleanup_failed" now

def abortFiles : List UndoOperationFile → Service (Option ExecuteGuardedUndoResult)
  | [] => pure none
  | file :: rest => do
      match ← abortFile env operationId now file with
      | some result => return some result
      | none => abortFiles rest

def abortPreparing (files : List UndoOperationFile) : Service ExecuteGuardedUndoResult := do
  match ← transitionOperation env operationId .preparing .rollingBack none none now with
  | .error _ =>
      requireRecovery env operationId .preparing .operationInterrupted "preparing_abort_failed" now
  | .ok _ =>
      match ← abortFiles env operationId now files with
      | some result => return result
      | none =>
          match ← transitionOperation env operationId .rollingBack .rolledBack none none now with
          | .error _ =>
              requireRecovery env operationId .rollingBack .operationInterrupted
                "preparing_rollback_failed" now
          | .ok _ => do
              cleanupAndFinish env operationId files .rolledBack
              return .rolledBack operationId

end Preparing

section Execute

variable (env : RestoreEnvironment)

def expectedResult (binding : ResultBinding) (restore : TurnRestoreSet) (file : TurnRestoreFile)
    (current : FileEvidence) : Service (Except GuardedUndoReasonCode ExpectedResult) := do
  if matchesResult current file then
    return .ok { evidence := current, chainedFrom := none }
  else if binding = .turnResult ∨ current.size ≠ file.resultSize ∨
      current.sha256 ≠ file.resultSha256 then
    return .error .targetResultMismatch
  else
    match restore.rootId with
    | none => return .error .invalidPersistedRecord
    | some rootId =>
        match ← repositoryRead env fun journal =>
            journal.queryUndoChainSources restore.workspaceId rootId file.pathBytes none with
        | .error _ => return .error .invalidPersistedRecord
        | .ok sources =>
            match sources.find? fun source =>
                chainedResultIsBound restore file source current.metadata with
            | some source =>
                return .ok { evidence := current, chainedFrom := some source.operationId }
            | none => return .error .targetResultMismatch

def validateTarget (binding : ResultBinding) (restore : TurnRestoreSet) (file : TurnRestoreFile)
    (preparedExpected : ExpectedResult) : Service (Except GuardedUndoReasonCode Unit) := do
  match ← verifyPreimage env file.preArtifactKey file.preSize file.preSha256 with
  | .error reason => return .error reason
  | .ok () =>
      match ← inspectTarget env file.pathBytes with
      | .error reason => return .error reason
      | .ok current =>
          match ← expectedResult env binding restore file current with
          | .error reason => return .error reason
          | .ok expected =>
              if expected = preparedExpected then return .ok ()
              else return .error .previewContextChanged

def validateTargets (binding : ResultBinding) (restore : TurnRestoreSet) :
    List (TurnRestoreFile × ExpectedResult) → Service (Except GuardedUndoReasonCode Unit)
  | [] => pure (.ok ())
  | (file, expected) :: rest => do
      match ← validateTarget env binding restore file expected with
      | .error reason => return .error reason
      | .ok () => validateTargets binding restore rest

def validateExecuteAuthority (authority : RestoreAuthority) (prepared : PreparedToken)
    (restore : TurnRestoreSet) (files : List TurnRestoreFile) :
    Service (Except GuardedUndoReasonCode Unit) := do
  if authority.mode ≠ .exclusive ∨ authority.rootId ≠ prepared.rootId then
    return .error .repositoryIdentityChanged
  else if prepared.coordinatorGenerations.next ≠ some authority.coordinatorGenerations then
    return .error .previewContextChanged
  else
    match ← gitIdentity env with
    | .error reason => return .error reason
    | .ok git =>
        if git.sameRepositoryState prepared.git = false then
          return .error .repositoryIdentityChanged
        else if files.length ≠ prepared.expected.length then
          return .error .previewContextChanged
        else validateTargets env prepared.binding restore (files.zip prepared.expected)

def newJournalFile (restore : TurnRestoreSet) (now : ℕ) (file : TurnRestoreFile)
    (expected : ExpectedResult) (index : ℕ) : UndoOperationFile where
  operationId := env.operationId
  restoreSetId := restore.restoreSetId
  ordinal := file.ordinal
  pathBytes := file.pathBytes
  exchangeArtifactKey := env.exchangeKey index
  expectedResultSize := expected.evidence.size
  expectedResultSha256 := expected.evidence.sha256
  expectedMetadata := expected.evidence.metadata
  preSize := file.preSize
  preSha256 := file.preSha256
  stagedMetadata := none
  displacedSize := none
  displacedSha256 := none
  displacedMetadata := none
  state := .planned
  verificationOutcome := .pending
  recoveryDetails := none
  updatedAt := env.timestamp now
  chainedFromOperationId := expected.chainedFrom

def newJournalFiles (restore : TurnRestoreSet) (files : List TurnRestoreFile)
    (expected : List ExpectedResult) (now : ℕ) : List UndoOperationFile :=
  (files.zip expected).zipIdx.map fun entry =>
    newJournalFile env restore now entry.1.1 entry.1.2 entry.2

def newOperation (digest : Sha256Digest) (prepared : PreparedToken) (restore : TurnRestoreSet)
    (now : ℕ) : UndoOperation where
  operationId := env.operationId
  restoreSetId := restore.restoreSetId
  journalVersion := undoJournalSchemaVersion
  state := .preparing
  active := true
  previewTokenDigest := some digest
  preparedIdentity := {
    schemaVersion := preparedIdentitySchemaVersion
    rootId := prepared.rootId
    git := prepared.git
    manifestDigest := prepared.manifestDigest
    coordinatorGeneration := prepared.coordinatorGenerations.worktree
    gitDirGeneration := prepared.coordinatorGenerations.gitDir
    commonDirGeneration := prepared.coordinatorGenerations.commonDir }
  reasonCode := none
  recoveryDetails := none
  createdAt := env.timestamp now
  updatedAt := env.timestamp now
  completedAt := none

def stageFile (now : ℕ) (file : TurnRestoreFile) (expected : ExpectedResult)
    (journalFiles : List UndoOperationFile) (journal : UndoOperationFile) :
    Service (Except ExecuteGuardedUndoResult UndoOperationFile) := do
  let key := journal.exchangeArtifactKey
  match ← stagePreimage env file key with
  | .error _ => .error <$> abortPreparing env env.operationId now journalFiles
  | .ok staged =>
      if staged.size ≠ file.preSize ∨ staged.sha256 ≠ file.preSha256 then do
        let _ ← cleanupExchange env file.pathBytes key staged
        .error <$> abortPreparing env env.operationId now journalFiles
      else do
        let current ← inspectTarget env file.pathBytes
        if observes current (some expected.evidence) = false then do
          let _ ← cleanupExchange env file.pathBytes key staged
          .error <$> abortPreparing env env.operationId now journalFiles
        else
          let stagedFile := { journal with stagedMetadata := some staged.metadata, state := .staged }
          match ← transitionFile env .planned stagedFile with
          | .error _ =>
              .error <$> requireRecovery env env.operationId .preparing .operationInterrupted
                "staged_journal_failed" now
          | .ok _ => return .ok stagedFile

-- an index out of bounds stops the thread
def stageFiles (now : ℕ) (expected : List ExpectedResult) :
    List TurnRestoreFile → List UndoOperationFile →
      Service (Except ExecuteGuardedUndoResult (List UndoOperationFile))
  | [], journalFiles => pure (.ok journalFiles)
  | file :: rest, journalFiles =>
      match journalFiles[file.ordinal]?, expected[file.ordinal]? with
      | some journal, some result => do
          match ← stageFile env now file result journalFiles journal with
          | .error answer => return .error answer
          | .ok stagedFile => stageFiles now expected rest (journalFiles.set file.ordinal stagedFile)
      | _, _ => .fail .crash

def applyFiles (now : ℕ) : List UndoOperationFile → Service Bool
  | [] => pure true
  | file :: rest => do
      match ← applyOne env file with
      | .error _ => return false
      | .ok () => if ← recordAppliedVerified env file now then applyFiles now rest else return false

def completeOperation (now : ℕ) (git : GitIdentityV1) (journalFiles : List UndoOperationFile) :
    Service ExecuteGuardedUndoResult := do
  match ← transitionOperation env env.operationId .applying .verifying none none now with
  | .error _ =>
      requireRecovery env env.operationId .applying .operationInterrupted
        "verifying_transition_failed" now
  | .ok _ =>
      let applied ← allFiles (pairIsApplied env) journalFiles
      let verified ← if applied then sameRepositoryState env git else pure false
      if verified = false then
        rollbackOperation env env.operationId now .verifying journalFiles
      else
        match ← transitionOperation env env.operationId .verifying .completed none none now with
        | .error _ =>
            requireRecovery env env.operationId .verifying .operationInterrupted
              "completion_transition_failed" now
        | .ok _ => do
            cleanupAndFinish env env.operationId journalFiles .completed
            return .completed env.operationId

def applyOperation (now : ℕ) (git : GitIdentityV1) (journalFiles : List UndoOperationFile) :
    Service ExecuteGuardedUndoResult := do
  match ← transitionOperation env env.operationId .preparing .prepared none none now with
  | .error _ =>
      requireRecovery env env.operationId .preparing .operationInterrupted
        "prepared_transition_failed" now
  | .ok _ =>
      match ← transitionOperation env env.operationId .prepared .applying none none now with
      | .error _ =>
          requireRecovery env env.operationId .prepared .operationInterrupted
            "applying_transition_failed" now
      | .ok _ =>
          let applied ← applyFiles env now journalFiles
          let unchanged ← if applied then sameRepositoryState env git else pure false
          if unchanged = false then
            rollbackOperation env env.operationId now .applying journalFiles
          else completeOperation env now git journalFiles

def executeJournalled (now : ℕ) (digest : Sha256Digest) (prepared : PreparedToken)
    (restore : TurnRestoreSet) (files : List TurnRestoreFile) :
    Service ExecuteGuardedUndoResult := do
  let journalFiles := newJournalFiles env restore files prepared.expected now
  let operation := newOperation env digest prepared restore now
  match ← repositoryCall env (createUndoOperation env.encoding operation journalFiles) with
  | .error _ => return .blocked .invalidPersistedRecord
  | .ok () =>
      match ← stageFiles env now prepared.expected files journalFiles with
      | .error answer => return answer
      | .ok stagedFiles => applyOperation env now prepared.git stagedFiles

def executePrepared (now : ℕ) (digest : Sha256Digest) (prepared : PreparedToken)
    (restore : TurnRestoreSet) (files : List TurnRestoreFile) :
    Service ExecuteGuardedUndoResult := do
  if preparedMatchesSet prepared restore = false then return .blocked .previewContextChanged
  else if ((restore.expiresAt.bind env.parseTimestamp).all fun expiry => decide (expiry ≤ now)) then
    return .blocked .retentionExpired
  else
    match ← acquire env prepared.workspaceAbsolute prepared.rootId .exclusive with
    | .error reason => return .blocked reason
    | .ok authority =>
        match ← validateExecuteAuthority env authority prepared restore files with
        | .error reason => return .blocked reason
        | .ok () => executeJournalled env now digest prepared restore files

def executeAt (previewToken : String) (confirmed : Bool) (now : ℕ) :
    Service ExecuteGuardedUndoResult := do
  let digest := env.encoding.sha256 (textBytes previewToken)
  let w ← .read
  .update fun w => { w with tokens := Function.update w.tokens digest none }
  match w.tokens digest with
  | none => return .blocked .previewConsumed
  | some prepared =>
      if confirmed = false then return .blocked .previewConsumed
      else if prepared.expiresAt ≤ now then return .blocked .previewExpired
      else
        match ← getTurnRestoreSet env prepared.restoreSetId with
        | none => return .blocked .invalidPersistedRecord
        | some (restore, files) => executePrepared env now digest prepared restore files

end Execute

section Recover

variable (env : RestoreEnvironment)

structure RecoveryReport where
  completed : ℕ
  rolledBack : ℕ
  recoveryRequired : ℕ
  deriving DecidableEq

inductive RecoveryOutcome
  | completed
  | rolledBack
  | recoveryRequired
  deriving DecidableEq

-- `saturating_add` on a `u32`
def countUp (count : ℕ) : ℕ :=
  min (count + 1) (2 ^ 32 - 1)

def RecoveryReport.add (report : RecoveryReport) : RecoveryOutcome → RecoveryReport
  | .completed => { report with completed := countUp report.completed }
  | .rolledBack => { report with rolledBack := countUp report.rolledBack }
  | .recoveryRequired => { report with recoveryRequired := countUp report.recoveryRequired }

def ExecuteGuardedUndoResult.outcome : ExecuteGuardedUndoResult → RecoveryOutcome
  | .rolledBack _ => .rolledBack
  | _ => .recoveryRequired

def clockNow : Service ℕ := do
  let w ← .read
  return env.clock w.tick

def recoveryFailed (operation : UndoOperation) (reason : GuardedUndoReasonCode) (label : String) :
    Service RecoveryOutcome := do
  let now ← clockNow env
  let _ ← requireRecovery env operation.operationId operation.state reason label now
  return .recoveryRequired

def recordAll (now : ℕ) : List UndoOperationFile → Service Bool :=
  allFiles fun file => recordAppliedVerified env file now

def recoverApplied (operation : UndoOperation) (files : List UndoOperationFile) (now : ℕ) :
    Service Bool := do
  let recorded ← recordAll env now files
  let transitioned ←
    if operation.state = .applying then
      transitionOperation env operation.operationId .applying .verifying none none now
    else pure (.ok false)
  match recorded, transitioned with
  | true, .ok _ =>
      match ← transitionOperation env operation.operationId .verifying .completed none none now with
      | .ok _ => return true
      | .error _ => return false
  | _, _ => return false

def recoverPairs (operation : UndoOperation) (files : List UndoOperationFile) :
    Service RecoveryOutcome := do
  let allResult ← allFiles (pairIsUnapplied env) files
  let allPre ← allFiles (pairIsApplied env) files
  let now ← clockNow env
  let completed ←
    if allPre = true ∧ (operation.state = .applying ∨ operation.state = .verifying) then
      recoverApplied env operation files now
    else pure false
  if completed then return .completed
  else if allResult = true ∨ operation.state = .applying ∨ operation.state = .verifying ∨
      operation.state = .rollingBack then
    ExecuteGuardedUndoResult.outcome <$>
      rollbackOperation env operation.operationId now operation.state files
  else do
    let _ ← requireRecovery env operation.operationId operation.state .manualRecoveryRequired
      "recovery_pair_diverged" now
    return .recoveryRequired

variable (resolve : WorkspaceId → Option String)

def recoverOperation (operation : UndoOperation) (files : List UndoOperationFile) :
    Service RecoveryOutcome := do
  if operation.state = .recoveryRequired then return .recoveryRequired
  else
    match ← getTurnRestoreSet env operation.restoreSetId with
    | none => recoveryFailed env operation .invalidPersistedRecord "restore_set_missing"
    | some (restore, _) =>
        match resolve restore.workspaceId with
        | none => recoveryFailed env operation .workspaceMissing "workspace_missing"
        | some workspaceAbsolute =>
            match ← acquire env workspaceAbsolute operation.preparedIdentity.rootId .exclusive with
            | .error reason =>
                recoveryFailed env operation reason "recovery_authority_unavailable"
            | .ok _ =>
                if (← sameRepositoryState env operation.preparedIdentity.git) = false then
                  recoveryFailed env operation .repositoryIdentityChanged "recovery_git_changed"
                else if operation.state = .preparing then do
                  let now ← clockNow env
                  ExecuteGuardedUndoResult.outcome <$>
                    recoverPreparing env operation.operationId now files
                else recoverPairs env operation files

def recoverOperations (report : RecoveryReport) :
    List (UndoOperation × List UndoOperationFile) → Service RecoveryReport
  | [] => pure report
  | (operation, files) :: rest => do
      let outcome ← recoverOperation env resolve operation files
      recoverOperations (report.add outcome) rest

def cleanupOperation (operation : UndoOperation) (files : List UndoOperationFile) :
    Service Unit := do
  match ← getTurnRestoreSet env operation.restoreSetId with
  | none => return ()
  | some (restore, _) =>
      match resolve restore.workspaceId with
      | none => return ()
      | some workspaceAbsolute =>
          match ← acquire env workspaceAbsolute operation.preparedIdentity.rootId .exclusive with
          | .error _ => return ()
          | .ok _ => cleanupAndFinish env operation.operationId files operation.state

def cleanupOperations : List (UndoOperation × List UndoOperationFile) → Service Unit
  | [] => pure ()
  | (operation, files) :: rest => do
      cleanupOperation env resolve operation files
      cleanupOperations rest

def recoverStartup : Service RecoveryReport := do
  let report : RecoveryReport := { completed := 0, rolledBack := 0, recoveryRequired := 0 }
  match ← repositoryRead env (listActiveUndoOperations env.encoding) with
  | .error _ => return report
  | .ok operations =>
      let report ← recoverOperations env resolve report operations
      match ← repositoryRead env (listUndoOperationsPendingCleanup env.encoding) with
      | .error _ => return report
      | .ok cleanups => do
          cleanupOperations env resolve cleanups
          return report

end Recover

end DevCommandCenter.GuardedUndo
