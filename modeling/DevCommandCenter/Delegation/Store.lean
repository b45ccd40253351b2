import DevCommandCenter.Delegation.Records
import DevCommandCenter.Library.Table

/-! The two tables behind a delegation, one of worktrees and one of attempts to apply them, and the calls
on them, each one transaction. -/

namespace DevCommandCenter.Delegation

open Library

structure Distinct (a b : DelegationWorktreeOperation) : Prop where
  live : a.state ≠ .removed → b.state ≠ .removed →
    a.worktreePath ≠ b.worktreePath ∧ (a.sourceRoot, a.branch) ≠ (b.sourceRoot, b.branch) ∧
      (a.worktreeRootId = none ∨ a.worktreeRootId ≠ b.worktreeRootId) ∧
      (a.commonDirId = none ∨ (a.commonDirId, a.branch) ≠ (b.commonDirId, b.branch))
  delegations : a.delegationId = none ∨ a.delegationId ≠ b.delegationId

instance (a b : DelegationWorktreeOperation) : Decidable (Distinct a b) :=
  decidable_of_iff (_ ∧ _) ⟨fun h => ⟨h.1, h.2⟩, fun h => ⟨h.live, h.delegations⟩⟩

def DelegationApplyTransactionState.isActive : DelegationApplyTransactionState → Bool
  | .preparing | .prepared | .applying | .recoveryRequired => true
  | .applied | .rolledBack => false

def OneActive (a b : DelegationApplyTransaction) : Prop :=
  a.state.isActive = true → b.state.isActive = true → a.operationId ≠ b.operationId

instance (a b : DelegationApplyTransaction) : Decidable (OneActive a b) :=
  inferInstanceAs (Decidable (_ → _ → _))

structure DelegationStore where
  operations : KeyedRows DelegationWorktreeOperationId DelegationWorktreeOperation
    DelegationWorktreeOperation.operationId
  applies : KeyedRows DelegationApplyTransactionId DelegationApplyTransaction
    DelegationApplyTransaction.transactionId
  distinct : operations.rows.Pairwise Distinct
  oneActive : applies.rows.Pairwise OneActive

-- `length(trim(text)) = 0`
def isSqlBlank (text : String) : Bool :=
  text.toList.all fun c => c = ' '

def rootIdFits (root : Option PhysicalRootId) : Bool :=
  root.all fun root => decide (3 ≤ root.bytes.length ∧ root.bytes.length ≤ 1024)

def textFits (minimum maximum : ℕ) (text : Option String) : Bool :=
  text.all fun text => decide (minimum ≤ text.length ∧ text.length ≤ maximum)

def oidFits (oid : Option String) : Bool :=
  oid.all fun oid => decide (oid.length = 40 ∨ oid.length = 64)

def DelegationWorktreeOperation.columnsFit (row : DelegationWorktreeOperation) : Bool :=
  rootIdFits row.sourceRootId && rootIdFits row.worktreeRootId && rootIdFits row.commonDirId &&
    row.lastError.all (fun error => !isSqlBlank error) &&
    decide (row.state ≠ .cleanupRequired ∨ row.lastError ≠ none) &&
    decide (row.recoveryOwner = none ∧ row.recoveryLeaseUntil = none ∨
      row.state = .removing ∧ row.recoveryOwner ≠ none ∧ row.recoveryLeaseUntil ≠ none)

def DelegationApplyTransaction.columnsFit (row : DelegationApplyTransaction) : Bool :=
  oidFits row.sourceHeadOid && oidFits row.destinationHeadOid &&
    oidFits row.destinationIndexTreeOid && textFits 64 64 row.manifestDigest &&
    textFits 1 1024 row.destinationRef && row.lastError.all (fun error => !isSqlBlank error) &&
    decide (row.recoveryOwner = none ∧ row.recoveryLeaseUntil = none ∨
      row.state = .applying ∧ row.recoveryOwner ≠ none ∧ row.recoveryLeaseUntil ≠ none)

def invalidInput (check : Except String Unit) : Except CoreError Unit :=
  check.mapError .invalidInput

namespace DelegationStore

def empty : DelegationStore where
  operations := .empty
  applies := .empty
  distinct := .nil
  oneActive := .nil

variable (store : DelegationStore)

def withOperations (operations : KeyedRows DelegationWorktreeOperationId DelegationWorktreeOperation
      DelegationWorktreeOperation.operationId) : Except CoreError DelegationStore :=
  if h : operations.rows.Pairwise Distinct then
    .ok { store with operations := operations, distinct := h }
  else .error (.repository "UNIQUE constraint failed: dcc_delegation_worktree_operations")

def withApplies (applies : KeyedRows DelegationApplyTransactionId DelegationApplyTransaction
      DelegationApplyTransaction.transactionId) : Except CoreError DelegationStore :=
  if h : applies.rows.Pairwise OneActive then
    .ok { store with applies := applies, oneActive := h }
  else .error (.repository
    "UNIQUE constraint failed: dcc_delegation_apply_transactions.operation_id")

def insertOperation (row : DelegationWorktreeOperation) : Except CoreError DelegationStore := do
  refuse (row.columnsFit = false)
    (.repository "CHECK constraint failed: dcc_delegation_worktree_operations")
  let operations ← demand (store.operations.insert row)
    (.repository "UNIQUE constraint failed: dcc_delegation_worktree_operations.operation_id")
  store.withOperations operations

def insertApply (row : DelegationApplyTransaction) : Except CoreError DelegationStore := do
  refuse (row.columnsFit = false)
    (.repository "CHECK constraint failed: dcc_delegation_apply_transactions")
  let applies ← demand (store.applies.insert row)
    (.repository "UNIQUE constraint failed: dcc_delegation_apply_transactions.transaction_id")
  store.withApplies applies

def updateOperations (p : DelegationWorktreeOperation → Bool)
    (f : DelegationWorktreeOperation → DelegationWorktreeOperation)
    (hf : ∀ row, (f row).operationId = row.operationId) : Except CoreError (ℕ × DelegationStore) := do
  refuse (∃ row ∈ store.operations.rows, p row = true ∧ (f row).columnsFit = false)
    (.repository "CHECK constraint failed: dcc_delegation_worktree_operations")
  let next ← store.withOperations (store.operations.updateWhere p f hf)
  return (store.operations.changed p, next)

def updateApplies (p : DelegationApplyTransaction → Bool)
    (f : DelegationApplyTransaction → DelegationApplyTransaction)
    (hf : ∀ row, (f row).transactionId = row.transactionId) :
    Except CoreError (ℕ × DelegationStore) := do
  refuse (∃ row ∈ store.applies.rows, p row = true ∧ (f row).columnsFit = false)
    (.repository "CHECK constraint failed: dcc_delegation_apply_transactions")
  let next ← store.withApplies (store.applies.updateWhere p f hf)
  return (store.applies.changed p, next)

section Writes

variable {store next : DelegationStore} {n : ℕ} {operation : DelegationWorktreeOperation}
  {apply : DelegationApplyTransaction}

lemma withOperations_ok {operations : KeyedRows DelegationWorktreeOperationId
      DelegationWorktreeOperation DelegationWorktreeOperation.operationId}
    (h : store.withOperations operations = .ok next) :
    next.operations = operations ∧ next.applies = store.applies := by
  unfold withOperations at h
  split at h
  · cases h
    exact ⟨rfl, rfl⟩
  · cases h

lemma withApplies_ok {applies : KeyedRows DelegationApplyTransactionId DelegationApplyTransaction
      DelegationApplyTransaction.transactionId}
    (h : store.withApplies applies = .ok next) :
    next.operations = store.operations ∧ next.applies = applies := by
  unfold withApplies at h
  split at h
  · cases h
    exact ⟨rfl, rfl⟩
  · cases h

lemma insertOperation_ok (h : store.insertOperation operation = .ok next) :
    next.operations.rows = store.operations.rows ++ [operation] ∧ next.applies = store.applies := by
  obtain ⟨-, -, h⟩ := except_bind_eq_ok.mp h
  obtain ⟨operations, hinsert, h⟩ := except_bind_eq_ok.mp h
  obtain ⟨hoperations, happlies⟩ := withOperations_ok h
  refine ⟨?_, happlies⟩
  rw [hoperations]
  exact (KeyedRows.insert_eq_some.mp (demand_eq_ok.mp hinsert)).2

lemma insertApply_ok (h : store.insertApply apply = .ok next) :
    next.operations = store.operations ∧ next.applies.rows = store.applies.rows ++ [apply] := by
  obtain ⟨-, -, h⟩ := except_bind_eq_ok.mp h
  obtain ⟨applies, hinsert, h⟩ := except_bind_eq_ok.mp h
  obtain ⟨hoperations, happlies⟩ := withApplies_ok h
  refine ⟨hoperations, ?_⟩
  rw [happlies]
  exact (KeyedRows.insert_eq_some.mp (demand_eq_ok.mp hinsert)).2

lemma updateOperations_ok {p : DelegationWorktreeOperation → Bool}
    {f : DelegationWorktreeOperation → DelegationWorktreeOperation}
    {hf : ∀ row, (f row).operationId = row.operationId}
    (h : store.updateOperations p f hf = .ok (n, next)) :
    n = store.operations.changed p ∧ next.operations = store.operations.updateWhere p f hf ∧
      next.applies = store.applies := by
  obtain ⟨-, -, h⟩ := except_bind_eq_ok.mp h
  obtain ⟨next', hwith, h⟩ := except_bind_eq_ok.mp h
  cases h
  exact ⟨rfl, withOperations_ok hwith⟩

lemma updateApplies_ok {p : DelegationApplyTransaction → Bool}
    {f : DelegationApplyTransaction → DelegationApplyTransaction}
    {hf : ∀ row, (f row).transactionId = row.transactionId}
    (h : store.updateApplies p f hf = .ok (n, next)) :
    n = store.applies.changed p ∧ next.operations = store.operations ∧
      next.applies = store.applies.updateWhere p f hf := by
  obtain ⟨-, -, h⟩ := except_bind_eq_ok.mp h
  obtain ⟨next', hwith, h⟩ := except_bind_eq_ok.mp h
  cases h
  exact ⟨rfl, withApplies_ok hwith⟩

end Writes

end DelegationStore

section Calls

variable (toUtcNanos : String → Option String) (store : DelegationStore)

def normalizeDelegationRecoveryTimestamp (value field : String) : Except CoreError String :=
  demand (toUtcNanos value) (.invalidInput ("delegation worktree " ++ field ++ " must be RFC3339"))

def readBack (check : Except String Unit) : Except CoreError Unit :=
  check.mapError fun error =>
    .repository ("Conversion error from type Text at index: 0, " ++ error)

def delegationWorktreeOperationFromRow (row : DelegationWorktreeOperation) :
    Except CoreError DelegationWorktreeOperation := do
  refuse (row.sourceRootId.any (fun root => !root.validate) = true ∨
      row.worktreeRootId.any (fun root => !root.validate) = true ∨
      row.commonDirId.any (fun root => !root.validate) = true)
    (.repository ("Conversion error from type Blob at index: 11, " ++
      "invalid guarded undo field: unsupported physical root identity"))
  readBack (row.validate toUtcNanos)
  return row

def queryOperation (id : DelegationWorktreeOperationId) :
    Except CoreError DelegationWorktreeOperation := do
  let row ← demand (store.operations.find? id) (.repository "Query returned no rows")
  delegationWorktreeOperationFromRow toUtcNanos row

def queryApply (id : DelegationApplyTransactionId) :
    Except CoreError (Option DelegationApplyTransaction) :=
  match store.applies.find? id with
  | none => return none
  | some row => do
      readBack (row.validate toUtcNanos)
      return some row

def checkOwner (owner name : String) : Except CoreError Unit :=
  refuse (owner = "" ∨ owner.utf8ByteSize > 256) (.invalidInput (name ++ " recovery owner is invalid"))

def createDelegationWorktreeOperation (operation : DelegationWorktreeOperation) :
    Except CoreError DelegationStore := do
  invalidInput (operation.validate toUtcNanos)
  refuse (operation.state ≠ .preparing)
    (.invalidInput "delegation worktree journal must be created in preparing state")
  store.insertOperation operation

def checkOperationSwap (expected next : DelegationWorktreeOperationState) : Except CoreError Unit := do
  refuse (expected = .removing ∨ next = .removing)
    (.invalidInput "removing transitions require the recovery claim API")
  refuse (next = .applying ∨ expected = .applying ∧ next ≠ .cleanupRequired)
    (.invalidInput "applying transitions require the delegation apply transaction API")
  refuse (expected.canTransitionTo next = false)
    (.invalidInput ("invalid delegation worktree transition from " ++ expected.asStr ++ " to " ++
      next.asStr))

def compareAndSwapDelegationWorktreeOperation (expectedState : DelegationWorktreeOperationState)
    (operation : DelegationWorktreeOperation) : Except CoreError (Bool × DelegationStore) := do
  invalidInput (operation.validate toUtcNanos)
  checkOperationSwap expectedState operation.state
  let (changed, next) ← store.updateOperations
    (fun row => decide (row.operationId = operation.operationId ∧ row.state = expectedState ∧
      row.workspaceId = operation.workspaceId ∧ row.sourceRoot = operation.sourceRoot ∧
      row.worktreePath = operation.worktreePath ∧ row.branch = operation.branch ∧
      row.baseCommit = operation.baseCommit ∧ row.createdAt = operation.createdAt))
    (fun row => { row with
      delegationKey := operation.delegationKey
      delegationId := operation.delegationId
      parentSessionId := operation.parentSessionId
      childSessionId := operation.childSessionId
      expectedBranchOid := operation.expectedBranchOid
      sourceRootId := operation.sourceRootId
      worktreeRootId := operation.worktreeRootId
      commonDirId := operation.commonDirId
      state := operation.state
      lastError := operation.lastError
      updatedAt := operation.updatedAt })
    (fun _ => rfl)
  return (decide (changed = 1), next)

def removable (now : String) (row : DelegationWorktreeOperation) : Bool :=
  match row.state with
  | .prepared | .bound | .reviewPending | .applied | .cleanupRequired => true
  | .removing => row.recoveryLeaseUntil.any fun leaseUntil => decide (leaseUntil ≤ now)
  | _ => false

def claimDelegationWorktreeRemoval (id : DelegationWorktreeOperationId)
    (recoveryOwner now leaseUntil : String) :
    Except CoreError (Option DelegationWorktreeOperation × DelegationStore) := do
  let recoveryOwner := trim recoveryOwner
  checkOwner recoveryOwner "delegation worktree"
  let now ← normalizeDelegationRecoveryTimestamp toUtcNanos now "recovery claim time"
  let leaseUntil ← normalizeDelegationRecoveryTimestamp toUtcNanos leaseUntil "recovery lease"
  refuse (leaseUntil ≤ now)
    (.invalidInput "delegation worktree recovery lease must end after claim time")
  let (changed, next) ← store.updateOperations
    (fun row => decide (row.operationId = id) && removable now row)
    (fun row => { row with
      state := .removing
      recoveryOwner := some recoveryOwner
      recoveryLeaseUntil := some leaseUntil
      updatedAt := now })
    (fun _ => rfl)
  if changed = 1 then do
    let operation ← queryOperation toUtcNanos next id
    return (some operation, next)
  else return (none, next)

def checkRemovalEnd (finalState : DelegationWorktreeOperationState) (lastError : Option String) :
    Except CoreError Unit :=
  match finalState, lastError with
  | .removed, none => .ok ()
  | .removed, some _ =>
      .error (.invalidInput "removed delegation worktree cannot retain a recovery error")
  | .cleanupRequired, lastError =>
      refuse (lastError.all isBlank = true) (.invalidInput
        "cleanup-required delegation worktree must retain its recovery error")
  | _, _ =>
      .error (.invalidInput "removal finalization must select removed or cleanup_required")

def finalizeDelegationWorktreeRemoval (id : DelegationWorktreeOperationId) (recoveryOwner : String)
    (finalState : DelegationWorktreeOperationState) (lastError : Option String) (updatedAt : String) :
    Except CoreError (Option DelegationWorktreeOperation × DelegationStore) := do
  let recoveryOwner := trim recoveryOwner
  checkOwner recoveryOwner "delegation worktree"
  checkRemovalEnd finalState lastError
  let updatedAt ← normalizeDelegationRecoveryTimestamp toUtcNanos updatedAt "recovery update time"
  let (changed, next) ← store.updateOperations
    (fun row => decide (row.operationId = id ∧ row.state = .removing ∧
      row.recoveryOwner = some recoveryOwner))
    (fun row => { row with
      state := finalState
      lastError := lastError
      recoveryOwner := none
      recoveryLeaseUntil := none
      updatedAt := updatedAt })
    (fun _ => rfl)
  if changed = 1 then do
    let operation ← queryOperation toUtcNanos next id
    return (some operation, next)
  else return (none, next)

def deleteRemovedDelegationWorktreeOperation (id : DelegationWorktreeOperationId) :
    Bool × DelegationStore :=
  let p := fun row : DelegationWorktreeOperation =>
    decide (row.operationId = id ∧ row.state = .removed)
  (decide (store.operations.changed p = 1),
    { store with
      operations := store.operations.deleteWhere p
      distinct := store.distinct.filter _ })

def createDelegationApplyTransaction (apply : DelegationApplyTransaction) :
    Except CoreError DelegationStore := do
  invalidInput (apply.validate toUtcNanos)
  refuse (apply.state ≠ .preparing)
    (.invalidInput "delegation apply transaction must be created in preparing state")
  refuse (store.operations.changed (fun row => decide (row.operationId = apply.operationId ∧
      row.delegationId = some apply.delegationId ∧ row.workspaceId = apply.workspaceId ∧
      row.state = .reviewPending)) ≠ 1)
    (.invalidInput "delegation apply transaction scope is not review-pending")
  store.insertApply { apply with
    sourceHeadOid := none
    destinationHeadOid := none
    destinationRef := none
    destinationIndexTreeOid := none
    manifestDigest := none
    fileCount := 0
    artifactBytes := 0
    state := .preparing
    recoveryOwner := none
    recoveryLeaseUntil := none
    lastError := none }

def compareAndSwapDelegationApplyTransaction (expectedState : DelegationApplyTransactionState)
    (apply : DelegationApplyTransaction) : Except CoreError (Bool × DelegationStore) := do
  invalidInput (apply.validate toUtcNanos)
  refuse (expectedState.canPreApplyTransitionTo apply.state = false)
    (.invalidInput "invalid pre-apply transaction transition")
  refuse (apply.artifactBytes > 2 ^ 63 - 1)
    (.invalidInput "delegation apply artifact_bytes exceeds SQLite")
  let (changed, next) ← store.updateApplies
    (fun row => decide (row.transactionId = apply.transactionId ∧ row.state = expectedState ∧
      row.operationId = apply.operationId ∧ row.delegationId = apply.delegationId ∧
      row.workspaceId = apply.workspaceId ∧ row.createdAt = apply.createdAt ∧
      row.recoveryOwner = none ∧ row.recoveryLeaseUntil = none))
    (fun row => { row with
      sourceHeadOid := apply.sourceHeadOid
      destinationHeadOid := apply.destinationHeadOid
      destinationRef := apply.destinationRef
      destinationIndexTreeOid := apply.destinationIndexTreeOid
      manifestDigest := apply.manifestDigest
      fileCount := apply.fileCount
      artifactBytes := apply.artifactBytes
      state := apply.state
      lastError := apply.lastError
      updatedAt := apply.updatedAt })
    (fun _ => rfl)
  return (decide (changed = 1), next)

def claimPrepared (current : DelegationApplyTransaction) (recoveryOwner now leaseUntil : String) :
    Except CoreError (Option DelegationStore) := do
  let (operationChanged, next) ← store.updateOperations
    (fun row => decide (row.operationId = current.operationId ∧
      row.delegationId = some current.delegationId ∧ row.workspaceId = current.workspaceId ∧
      row.state = .reviewPending))
    (fun row => { row with state := .applying, lastError := none, updatedAt := now })
    (fun _ => rfl)
  if operationChanged ≠ 1 then return none
  else do
    let (changed, next) ← next.updateApplies
      (fun row => decide (row.transactionId = current.transactionId ∧ row.state = .prepared))
      (fun row => { row with
        state := .applying
        recoveryOwner := some recoveryOwner
        recoveryLeaseUntil := some leaseUntil
        updatedAt := now })
      (fun _ => rfl)
    return if changed = 1 then some next else none

def leaseEnded (now : String) (operationLockHeld : Bool) (row : DelegationApplyTransaction) : Bool :=
  row.recoveryLeaseUntil.any fun leaseUntil => operationLockHeld || decide (leaseUntil ≤ now)

def takeOver (current : DelegationApplyTransaction) (recoveryOwner now leaseUntil : String)
    (operationLockHeld : Bool) : Except CoreError (Option DelegationStore) := do
  let (changed, next) ← store.updateApplies
    (fun row => decide (row.transactionId = current.transactionId ∧ row.state = .applying) &&
      leaseEnded now operationLockHeld row &&
      store.operations.rows.any fun operation =>
        decide (operation.operationId = row.operationId ∧ operation.state = .applying))
    (fun row => { row with
      recoveryOwner := some recoveryOwner
      recoveryLeaseUntil := some leaseUntil
      updatedAt := now })
    (fun _ => rfl)
  return if changed = 1 then some next else none

def claimCurrent (current : DelegationApplyTransaction) (recoveryOwner now leaseUntil : String)
    (operationLockHeld : Bool) : Except CoreError (Option DelegationStore) :=
  match current.state with
  | .prepared => claimPrepared store current recoveryOwner now leaseUntil
  | .applying =>
      if operationLockHeld = true ∨
          current.recoveryLeaseUntil.any (fun lease => decide (lease ≤ now)) = true then
        takeOver store current recoveryOwner now leaseUntil operationLockHeld
      else return none
  | _ => return none

def claimDelegationApplyTransaction (id : DelegationApplyTransactionId)
    (recoveryOwner now leaseUntil : String) (operationLockHeld : Bool) :
    Except CoreError (Option DelegationApplyTransaction × DelegationStore) := do
  let recoveryOwner := trim recoveryOwner
  checkOwner recoveryOwner "delegation apply"
  let now ← normalizeDelegationRecoveryTimestamp toUtcNanos now "apply claim time"
  let leaseUntil ← normalizeDelegationRecoveryTimestamp toUtcNanos leaseUntil "apply lease"
  refuse (leaseUntil ≤ now)
    (.invalidInput "delegation apply recovery lease must end after claim time")
  match ← queryApply toUtcNanos store id with
  | none => return (none, store)
  | some current => do
      match ← claimCurrent store current recoveryOwner now leaseUntil operationLockHeld with
      -- not committed, so that an update of the operation is taken back
      | none => return (none, store)
      | some next => do
          let row ← queryApply toUtcNanos next id
          let row ← demand row (.repository "Query returned no rows")
          return (some row, next)

def checkApplyEnd (finalState : DelegationApplyTransactionState) (lastError : Option String) :
    Except CoreError DelegationWorktreeOperationState :=
  match finalState, lastError with
  | .applied, none => .ok .applied
  | .rolledBack, _ => .ok .reviewPending
  | .recoveryRequired, some error =>
      if isBlank error then
        .error (.invalidInput "invalid delegation apply finalization state or error")
      else .ok .cleanupRequired
  | _, _ => .error (.invalidInput "invalid delegation apply finalization state or error")

def finalizeDelegationApplyTransaction (id : DelegationApplyTransactionId) (recoveryOwner : String)
    (finalState : DelegationApplyTransactionState) (lastError : Option String) (updatedAt : String) :
    Except CoreError (Option DelegationApplyTransaction × DelegationStore) := do
  let recoveryOwner := trim recoveryOwner
  checkOwner recoveryOwner "delegation apply"
  let operationState ← checkApplyEnd finalState lastError
  let updatedAt ← normalizeDelegationRecoveryTimestamp toUtcNanos updatedAt "apply update time"
  match ← queryApply toUtcNanos store id with
  | none => return (none, store)
  | some current =>
      if current.state ≠ .applying ∨ current.recoveryOwner ≠ some recoveryOwner then
        return (none, store)
      else do
        let (operationChanged, next) ← store.updateOperations
          (fun row => decide (row.operationId = current.operationId ∧ row.state = .applying))
          (fun row => { row with
            state := operationState
            lastError := if finalState = .recoveryRequired then lastError else none
            updatedAt := updatedAt })
          (fun _ => rfl)
        if operationChanged ≠ 1 then return (none, store)
        else do
          let (changed, next) ← next.updateApplies
            (fun row => decide (row.transactionId = id ∧ row.state = .applying ∧
              row.recoveryOwner = some recoveryOwner))
            (fun row => { row with
              state := finalState
              recoveryOwner := none
              recoveryLeaseUntil := none
              lastError := lastError
              updatedAt := updatedAt })
            (fun _ => rfl)
          if changed ≠ 1 then return (none, store)
          else do
            let current := { current with
              state := finalState
              recoveryOwner := none
              recoveryLeaseUntil := none
              lastError := lastError
              updatedAt := updatedAt }
            invalidInput (current.validate toUtcNanos)
            return (some current, next)

def deleteTerminalDelegationApplyTransaction (id : DelegationApplyTransactionId) :
    Bool × DelegationStore :=
  let p := fun row : DelegationApplyTransaction =>
    decide (row.transactionId = id ∧ (row.state = .applied ∨ row.state = .rolledBack))
  (decide (store.applies.changed p = 1),
    { store with
      applies := store.applies.deleteWhere p
      oneActive := store.oneActive.filter _ })

end Calls

end DevCommandCenter.Delegation
