import DevCommandCenter.GuardedUndo.Coordinator
import DevCommandCenter.Library.Checks
import DevCommandCenter.Library.Text
import Mathlib.Data.List.Lex
import Mathlib.Data.List.Sort

/-! The states and reasons of guarded undo. A label that this version does not know is kept as it
is, and every check refuses it. -/

namespace DevCommandCenter.GuardedUndo

open Library

def isStableChar (c : Char) : Bool :=
  ('a' ≤ c && c ≤ 'z') || ('0' ≤ c && c ≤ '9') || c == '_'

def validStableLabel (value : String) : Bool :=
  decide (value ≠ "" ∧ value.utf8ByteSize ≤ 64) && value.toList.all isStableChar

structure StableLabel where
  value : String
  valid : validStableLabel value = true
  deriving DecidableEq

inductive RestoreSetState
  | collecting
  | eligible
  | ineligible
  | failed
  | expired
  | consumed
  | unknown (label : StableLabel)
  deriving DecidableEq

inductive UndoOperationState
  | preparing
  | prepared
  | applying
  | verifying
  | completed
  | rollingBack
  | rolledBack
  | blocked
  | recoveryRequired
  | unknown (label : StableLabel)
  deriving DecidableEq

inductive UndoOperationFileState
  | planned
  | staged
  | applied
  | verified
  | rolledBack
  | recoveryRequired
  | unknown (label : StableLabel)
  deriving DecidableEq

inductive VerificationOutcome
  | pending
  | verified
  | failed
  | unknown (label : StableLabel)
  deriving DecidableEq

inductive RestoreFileStatus
  | modified
  | unknown (label : StableLabel)
  deriving DecidableEq

inductive GuardedUndoReasonCode
  | captureV1EvidenceOnly
  | captureV2Missing
  | captureInterrupted
  | unknownCaptureVersion
  | schemaUnsupported
  | invalidPersistedRecord
  | noTargetChanges
  | retentionExpired
  | multipleRoots
  | detachedHead
  | bareRepository
  | headChanged
  | refChanged
  | indexChanged
  | indexUnreadable
  | repositoryIdentityChanged
  | unsupportedStatus
  | unmergedPath
  | untrackedPath
  | symlinkOrReparsePoint
  | hardlinkUnsupported
  | submodule
  | nonRegularFile
  | metadataChanged
  | gitFilterPresent
  | workingTreeEncodingPresent
  | sparseOrSkipWorktree
  | tooManyBaselineFiles
  | baselineTooLarge
  | tooManyFiles
  | fileTooLarge
  | setTooLarge
  | indexTooLarge
  | captureTimeout
  | captureRace
  | artifactMissing
  | artifactCorrupt
  | permissionDenied
  | ioError
  | workspaceMissing
  | targetMissing
  | targetResultMismatch
  | previewExpired
  | previewConsumed
  | previewContextChanged
  | mutationInProgress
  | adapterUnsupported
  | operationInterrupted
  | concurrentWorkspaceMutation
  | appInstanceConflict
  | artifactStoreUnsafe
  | filesystemUnsupported
  | insufficientDiskSpace
  | pathAliasCollision
  | extendedMetadataUnsupported
  | gitAttributesChanged
  | trackedManifestChanged
  | assumeUnchanged
  | displacedTargetMismatch
  | displacedFileMissing
  | displacedFileCorrupt
  | recoveryTargetChanged
  | exchangeRollbackFailed
  | manualRecoveryRequired
  | unknown (label : StableLabel)
  deriving DecidableEq

def RestoreSetState.isKnown : RestoreSetState → Bool
  | .unknown _ => false
  | _ => true

def UndoOperationState.isKnown : UndoOperationState → Bool
  | .unknown _ => false
  | _ => true

def UndoOperationFileState.isKnown : UndoOperationFileState → Bool
  | .unknown _ => false
  | _ => true

def VerificationOutcome.isKnown : VerificationOutcome → Bool
  | .unknown _ => false
  | _ => true

def RestoreFileStatus.asStr : RestoreFileStatus → String
  | .modified => "M"
  | .unknown label => label.value

def GuardedUndoReasonCode.asStr : GuardedUndoReasonCode → String
  | .captureV1EvidenceOnly => "capture_v1_evidence_only"
  | .captureV2Missing => "capture_v2_missing"
  | .captureInterrupted => "capture_interrupted"
  | .unknownCaptureVersion => "unknown_capture_version"
  | .schemaUnsupported => "schema_unsupported"
  | .invalidPersistedRecord => "invalid_persisted_record"
  | .noTargetChanges => "no_target_changes"
  | .retentionExpired => "retention_expired"
  | .multipleRoots => "multiple_roots"
  | .detachedHead => "detached_head"
  | .bareRepository => "bare_repository"
  | .headChanged => "head_changed"
  | .refChanged => "ref_changed"
  | .indexChanged => "index_changed"
  | .indexUnreadable => "index_unreadable"
  | .repositoryIdentityChanged => "repository_identity_changed"
  | .unsupportedStatus => "unsupported_status"
  | .unmergedPath => "unmerged_path"
  | .untrackedPath => "untracked_path"
  | .symlinkOrReparsePoint => "symlink_or_reparse_point"
  | .hardlinkUnsupported => "hardlink_unsupported"
  | .submodule => "submodule"
  | .nonRegularFile => "non_regular_file"
  | .metadataChanged => "metadata_changed"
  | .gitFilterPresent => "git_filter_present"
  | .workingTreeEncodingPresent => "working_tree_encoding_present"
  | .sparseOrSkipWorktree => "sparse_or_skip_worktree"
  | .tooManyBaselineFiles => "too_many_baseline_files"
  | .baselineTooLarge => "baseline_too_large"
  | .tooManyFiles => "too_many_files"
  | .fileTooLarge => "file_too_large"
  | .setTooLarge => "set_too_large"
  | .indexTooLarge => "index_too_large"
  | .captureTimeout => "capture_timeout"
  | .captureRace => "capture_race"
  | .artifactMissing => "artifact_missing"
  | .artifactCorrupt => "artifact_corrupt"
  | .permissionDenied => "permission_denied"
  | .ioError => "io_error"
  | .workspaceMissing => "workspace_missing"
  | .targetMissing => "target_missing"
  | .targetResultMismatch => "target_result_mismatch"
  | .previewExpired => "preview_expired"
  | .previewConsumed => "preview_consumed"
  | .previewContextChanged => "preview_context_changed"
  | .mutationInProgress => "mutation_in_progress"
  | .adapterUnsupported => "adapter_unsupported"
  | .operationInterrupted => "operation_interrupted"
  | .concurrentWorkspaceMutation => "concurrent_workspace_mutation"
  | .appInstanceConflict => "app_instance_conflict"
  | .artifactStoreUnsafe => "artifact_store_unsafe"
  | .filesystemUnsupported => "filesystem_unsupported"
  | .insufficientDiskSpace => "insufficient_disk_space"
  | .pathAliasCollision => "path_alias_collision"
  | .extendedMetadataUnsupported => "extended_metadata_unsupported"
  | .gitAttributesChanged => "git_attributes_changed"
  | .trackedManifestChanged => "tracked_manifest_changed"
  | .assumeUnchanged => "assume_unchanged"
  | .displacedTargetMismatch => "displaced_target_mismatch"
  | .displacedFileMissing => "displaced_file_missing"
  | .displacedFileCorrupt => "displaced_file_corrupt"
  | .recoveryTargetChanged => "recovery_target_changed"
  | .exchangeRollbackFailed => "exchange_rollback_failed"
  | .manualRecoveryRequired => "manual_recovery_required"
  | .unknown label => label.value

def GuardedUndoReasonCode.isKnown : GuardedUndoReasonCode → Bool
  | .unknown _ => false
  | _ => true

def RestoreSetState.canTransitionTo (state next : RestoreSetState) : Bool :=
  state == next ||
    match state, next with
    | .collecting, .eligible | .collecting, .ineligible | .collecting, .failed => true
    | .eligible, .expired | .eligible, .consumed | .eligible, .failed => true
    | _, _ => false

def UndoOperationState.stepsTo : UndoOperationState → UndoOperationState → Bool
  | .preparing, .prepared | .preparing, .rollingBack | .preparing, .blocked
  | .preparing, .recoveryRequired => true
  | .prepared, .applying | .prepared, .rollingBack | .prepared, .blocked
  | .prepared, .recoveryRequired => true
  | .applying, .verifying | .applying, .rollingBack | .applying, .recoveryRequired => true
  | .verifying, .completed | .verifying, .rollingBack | .verifying, .recoveryRequired => true
  | .rollingBack, .rolledBack | .rollingBack, .recoveryRequired => true
  | _, _ => false

def UndoOperationState.canTransitionTo (state next : UndoOperationState) : Bool :=
  state == next || state.stepsTo next

def UndoOperationFileState.stepsTo : UndoOperationFileState → UndoOperationFileState → Bool
  | .planned, .staged | .planned, .rolledBack | .planned, .recoveryRequired => true
  | .staged, .applied | .staged, .rolledBack | .staged, .recoveryRequired => true
  | .applied, .verified | .applied, .rolledBack | .applied, .recoveryRequired => true
  | .verified, .rolledBack | .verified, .recoveryRequired => true
  | _, _ => false

def UndoOperationFileState.canTransitionTo (state next : UndoOperationFileState) : Bool :=
  state == next || state.stepsTo next

def UndoOperationState.inactive : UndoOperationState → Bool
  | .completed | .rolledBack | .blocked => true
  | _ => false

lemma UndoOperationState.stepsTo_of_canTransitionTo {state next : UndoOperationState}
    (h : state.canTransitionTo next = true) (hne : state ≠ next) : state.stepsTo next = true := by
  rcases Bool.or_eq_true _ _ ▸ h with h | h
  · exact absurd (beq_iff_eq.mp h) hne
  · exact h

lemma UndoOperationFileState.stepsTo_of_canTransitionTo {state next : UndoOperationFileState}
    (h : state.canTransitionTo next = true) (hne : state ≠ next) : state.stepsTo next = true := by
  rcases Bool.or_eq_true _ _ ▸ h with h | h
  · exact absurd (beq_iff_eq.mp h) hne
  · exact h

lemma UndoOperationState.not_inactive_of_stepsTo {state next : UndoOperationState}
    (h : state.stepsTo next = true) : state.inactive = false := by
  cases state <;> simp_all [stepsTo, inactive]

end DevCommandCenter.GuardedUndo
