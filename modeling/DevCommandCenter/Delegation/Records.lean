import DevCommandCenter.GuardedUndo.Coordinator
import DevCommandCenter.Library.Checks
import DevCommandCenter.Library.Text

/-! The journal records of a delegation's worktree and of one attempt to apply it: their states and their
checks. -/

namespace DevCommandCenter.Delegation

open Library

structure DelegationWorktreeOperationId where
  value : String
  deriving DecidableEq, Repr

inductive DelegationWorktreeOperationState
  | preparing
  | prepared
  | bound
  | reviewPending
  | applying
  | applied
  | removing
  | removed
  | cleanupRequired
  deriving DecidableEq, Repr

namespace DelegationWorktreeOperationState

def asStr : DelegationWorktreeOperationState → String
  | preparing => "preparing"
  | prepared => "prepared"
  | bound => "bound"
  | reviewPending => "review_pending"
  | applying => "applying"
  | applied => "applied"
  | removing => "removing"
  | removed => "removed"
  | cleanupRequired => "cleanup_required"

def isTerminal (state : DelegationWorktreeOperationState) : Bool :=
  state = removed

def canTransitionTo (state next : DelegationWorktreeOperationState) : Bool :=
  (match state, next with
    | preparing, prepared
    | prepared, bound
    | prepared, reviewPending
    | prepared, removing
    | bound, reviewPending
    | bound, removing
    | reviewPending, applying
    | reviewPending, removing
    | applying, reviewPending
    | applying, applied
    | applied, removing
    | removing, removed
    | cleanupRequired, removing => true
    | _, _ => false) || (!state.isTerminal && decide (next = cleanupRequired))

end DelegationWorktreeOperationState

structure DelegationWorktreeOperation where
  operationId : DelegationWorktreeOperationId
  delegationKey : Option String
  delegationId : Option DelegationId
  workspaceId : WorkspaceId
  parentSessionId : Option SessionId
  childSessionId : Option SessionId
  sourceRoot : String
  worktreePath : String
  branch : String
  baseCommit : String
  expectedBranchOid : Option String
  sourceRootId : Option PhysicalRootId
  worktreeRootId : Option PhysicalRootId
  commonDirId : Option PhysicalRootId
  state : DelegationWorktreeOperationState
  lastError : Option String
  recoveryOwner : Option String
  recoveryLeaseUntil : Option String
  createdAt : String
  updatedAt : String
  deriving DecidableEq, Repr

def isAsciiHexDigit (c : Char) : Bool :=
  ('0' ≤ c && c ≤ '9') || ('a' ≤ c && c ≤ 'f') || ('A' ≤ c && c ≤ 'F')

def validOid (value : String) : Bool :=
  decide (value.utf8ByteSize = 40 ∨ value.utf8ByteSize = 64) && value.toList.all isAsciiHexDigit

def requireFilled (name field value : String) : Except String Unit :=
  refuse (isBlank value = true) (name ++ " " ++ field ++ " cannot be empty")

def requireFilledSome (name field : String) (value : Option String) : Except String Unit :=
  refuse (value.any isBlank = true) (name ++ " " ++ field ++ " cannot be empty")

variable (toUtcNanos : String → Option String)

def DelegationWorktreeOperation.validate (operation : DelegationWorktreeOperation) :
    Except String Unit := do
  requireFilled "delegation worktree" "operation_id" operation.operationId.value
  requireFilled "delegation worktree" "workspace_id" operation.workspaceId.value
  requireFilled "delegation worktree" "source_root" operation.sourceRoot
  requireFilled "delegation worktree" "worktree_path" operation.worktreePath
  requireFilled "delegation worktree" "branch" operation.branch
  requireFilled "delegation worktree" "base_commit" operation.baseCommit
  requireFilled "delegation worktree" "created_at" operation.createdAt
  requireFilled "delegation worktree" "updated_at" operation.updatedAt
  requireFilledSome "delegation worktree" "delegation_key" operation.delegationKey
  requireFilledSome "delegation worktree" "delegation_id"
    (operation.delegationId.map DelegationId.value)
  requireFilledSome "delegation worktree" "parent_session_id"
    (operation.parentSessionId.map SessionId.value)
  requireFilledSome "delegation worktree" "child_session_id"
    (operation.childSessionId.map SessionId.value)
  refuse (operation.expectedBranchOid.any (fun oid => !validOid (trim oid)) = true)
    "delegation worktree expected_branch_oid is invalid"
  refuse (operation.sourceRootId.any (fun root => !root.validate) = true ∨
      operation.worktreeRootId.any (fun root => !root.validate) = true ∨
      operation.commonDirId.any (fun root => !root.validate) = true)
    "delegation worktree physical identity is invalid"
  refuse (operation.lastError.any isBlank = true) "delegation worktree last_error cannot be empty"
  refuse (operation.state = .cleanupRequired ∧ operation.lastError = none)
    "cleanup-required delegation worktree must retain its last error"
  match operation.recoveryOwner, operation.recoveryLeaseUntil with
  | some owner, some leaseUntil => do
      refuse (isBlank owner = true ∨ owner.utf8ByteSize > 256)
        "delegation worktree recovery owner is invalid"
      refuse (toUtcNanos leaseUntil = none) "delegation worktree recovery lease is not RFC3339"
      refuse (operation.state ≠ .removing)
        "delegation worktree recovery authority requires removing state"
  | none, none =>
      refuse (operation.state = .removing)
        "removing delegation worktree requires recovery authority"
  | _, _ =>
      .error "delegation worktree recovery owner and lease must be stored together"

structure DelegationApplyTransactionId where
  value : String
  deriving DecidableEq, Repr

inductive DelegationApplyTransactionState
  | preparing
  | prepared
  | applying
  | applied
  | rolledBack
  | recoveryRequired
  deriving DecidableEq, Repr

namespace DelegationApplyTransactionState

def canPreApplyTransitionTo : (state next : DelegationApplyTransactionState) → Bool
  | preparing, prepared | preparing, rolledBack | prepared, rolledBack => true
  | _, _ => false

end DelegationApplyTransactionState

structure DelegationApplyTransaction where
  transactionId : DelegationApplyTransactionId
  operationId : DelegationWorktreeOperationId
  delegationId : DelegationId
  workspaceId : WorkspaceId
  sourceHeadOid : Option String
  destinationHeadOid : Option String
  destinationRef : Option String
  destinationIndexTreeOid : Option String
  manifestDigest : Option String
  fileCount : ℕ
  artifactBytes : ℕ
  state : DelegationApplyTransactionState
  recoveryOwner : Option String
  recoveryLeaseUntil : Option String
  lastError : Option String
  createdAt : String
  updatedAt : String
  deriving DecidableEq, Repr

namespace DelegationApplyTransaction

def lacksManifest (apply : DelegationApplyTransaction) : Prop :=
  apply.sourceHeadOid = none ∨ apply.destinationHeadOid = none ∨
    apply.destinationIndexTreeOid = none ∨ apply.manifestDigest = none ∨ apply.fileCount = 0

instance (apply : DelegationApplyTransaction) : Decidable apply.lacksManifest :=
  inferInstanceAs (Decidable (_ ∨ _))

def validateState (apply : DelegationApplyTransaction) : Except String Unit :=
  match apply.state with
  | .preparing =>
      refuse (apply.sourceHeadOid ≠ none ∨ apply.destinationHeadOid ≠ none ∨
          apply.destinationRef ≠ none ∨ apply.destinationIndexTreeOid ≠ none ∨
          apply.manifestDigest ≠ none ∨ apply.fileCount ≠ 0 ∨ apply.artifactBytes ≠ 0)
        "preparing delegation apply cannot publish manifest accounting"
  | .prepared | .applying | .applied => do
      refuse apply.lacksManifest "prepared delegation apply requires a non-empty manifest"
      refuse (apply.lastError ≠ none)
        "active/successful delegation apply cannot retain an error"
  | .recoveryRequired =>
      refuse (apply.lacksManifest ∨ apply.lastError = none)
        "recovery-required delegation apply needs manifest and error"
  | .rolledBack => .ok ()

def validate (apply : DelegationApplyTransaction) : Except String Unit := do
  requireFilled "delegation apply" "transaction_id" apply.transactionId.value
  requireFilled "delegation apply" "operation_id" apply.operationId.value
  requireFilled "delegation apply" "delegation_id" apply.delegationId.value
  requireFilled "delegation apply" "workspace_id" apply.workspaceId.value
  requireFilled "delegation apply" "created_at" apply.createdAt
  requireFilled "delegation apply" "updated_at" apply.updatedAt
  refuse (apply.sourceHeadOid.any (fun oid => !validOid oid) = true)
    "delegation apply source_head_oid is invalid"
  refuse (apply.destinationHeadOid.any (fun oid => !validOid oid) = true)
    "delegation apply destination_head_oid is invalid"
  refuse (apply.destinationIndexTreeOid.any (fun oid => !validOid oid) = true)
    "delegation apply destination_index_tree_oid is invalid"
  refuse (apply.destinationRef.any (fun value =>
      isBlank value || decide (value.utf8ByteSize > 1024) || value.toList.contains '\x00') = true)
    "delegation apply destination_ref is invalid"
  refuse (apply.manifestDigest.any (fun digest =>
      decide (digest.utf8ByteSize ≠ 64) || !digest.toList.all isAsciiHexDigit) = true)
    "delegation apply manifest_digest is invalid"
  refuse (toUtcNanos apply.createdAt = none) "delegation apply created_at is not RFC3339"
  refuse (toUtcNanos apply.updatedAt = none) "delegation apply updated_at is not RFC3339"
  refuse (apply.lastError.any isBlank = true) "delegation apply last_error cannot be empty"
  match apply.recoveryOwner, apply.recoveryLeaseUntil with
  | some owner, some lease => do
      refuse (isBlank owner = true ∨ owner.utf8ByteSize > 256)
        "delegation apply recovery owner is invalid"
      refuse (toUtcNanos lease = none) "delegation apply recovery lease is not RFC3339"
      refuse (apply.state ≠ .applying)
        "delegation apply recovery authority requires applying state"
  | none, none =>
      refuse (apply.state = .applying)
        "applying delegation transaction requires recovery authority"
  | _, _ => .error "delegation apply recovery owner and lease must be stored together"
  apply.validateState

end DelegationApplyTransaction

end DevCommandCenter.Delegation
