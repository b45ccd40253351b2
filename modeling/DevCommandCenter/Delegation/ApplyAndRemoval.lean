import DevCommandCenter.Delegation.Store
import DevCommandCenter.Library.Transition

/-! The two tables of a delegation under any order of calls, and why an attempt to apply a worktree
and a removal of it stay apart. -/

namespace DevCommandCenter.Delegation

open Library

inductive DelegationCall
  | createOperation (operation : DelegationWorktreeOperation)
  | swapOperation (expectedState : DelegationWorktreeOperationState)
      (operation : DelegationWorktreeOperation)
  | claimRemoval (id : DelegationWorktreeOperationId) (recoveryOwner now leaseUntil : String)
  | finalizeRemoval (id : DelegationWorktreeOperationId) (recoveryOwner : String)
      (finalState : DelegationWorktreeOperationState) (lastError : Option String)
      (updatedAt : String)
  | deleteRemoved (id : DelegationWorktreeOperationId)
  | createApply (apply : DelegationApplyTransaction)
  | swapApply (expectedState : DelegationApplyTransactionState) (apply : DelegationApplyTransaction)
  | claimApply (id : DelegationApplyTransactionId) (recoveryOwner now leaseUntil : String)
      (operationLockHeld : Bool)
  | finalizeApply (id : DelegationApplyTransactionId) (recoveryOwner : String)
      (finalState : DelegationApplyTransactionState) (lastError : Option String)
      (updatedAt : String)
  | deleteTerminalApply (id : DelegationApplyTransactionId)
  deriving DecidableEq, Repr

inductive DelegationAnswer
  | done
  | changed (changed : Bool)
  | operation (operation : Option DelegationWorktreeOperation)
  | apply (apply : Option DelegationApplyTransaction)
  | failed (error : CoreError)
  deriving DecidableEq, Repr

def DelegationStore.commit {β : Type} (store : DelegationStore) (answer : β → DelegationAnswer)
    (result : Except CoreError (β × DelegationStore)) : DelegationAnswer × DelegationStore :=
  match result with
  | .ok (b, next) => (answer b, next)
  | .error error => (.failed error, store)

def DelegationStore.call (toUtcNanos : String → Option String) (store : DelegationStore) :
    DelegationCall → DelegationAnswer × DelegationStore
  | .createOperation operation => store.commit (fun _ => .done)
      ((createDelegationWorktreeOperation toUtcNanos store operation).map fun next => ((), next))
  | .swapOperation expectedState operation => store.commit .changed
      (compareAndSwapDelegationWorktreeOperation toUtcNanos store expectedState operation)
  | .claimRemoval id recoveryOwner now leaseUntil => store.commit .operation
      (claimDelegationWorktreeRemoval toUtcNanos store id recoveryOwner now leaseUntil)
  | .finalizeRemoval id recoveryOwner finalState lastError updatedAt => store.commit .operation
      (finalizeDelegationWorktreeRemoval toUtcNanos store id recoveryOwner finalState lastError
        updatedAt)
  | .deleteRemoved id => store.commit .changed
      (.ok (deleteRemovedDelegationWorktreeOperation store id))
  | .createApply apply => store.commit (fun _ => .done)
      ((createDelegationApplyTransaction toUtcNanos store apply).map fun next => ((), next))
  | .swapApply expectedState apply => store.commit .changed
      (compareAndSwapDelegationApplyTransaction toUtcNanos store expectedState apply)
  | .claimApply id recoveryOwner now leaseUntil operationLockHeld => store.commit .apply
      (claimDelegationApplyTransaction toUtcNanos store id recoveryOwner now leaseUntil
        operationLockHeld)
  | .finalizeApply id recoveryOwner finalState lastError updatedAt => store.commit .apply
      (finalizeDelegationApplyTransaction toUtcNanos store id recoveryOwner finalState lastError
        updatedAt)
  | .deleteTerminalApply id => store.commit .changed
      (.ok (deleteTerminalDelegationApplyTransaction store id))

def delegationJournal (toUtcNanos : String → Option String) :
    System DelegationStore DelegationCall DelegationAnswer where
  start := .empty
  step store call := some (store.call toUtcNanos call)

def GaveUp (l : List (DelegationCall × DelegationAnswer)) (id : DelegationWorktreeOperationId) :
    Prop :=
  ∃ operation, operation.operationId = id ∧
    (.swapOperation .applying operation, .changed true) ∈ l

def IsApplying (store : DelegationStore) (id : DelegationWorktreeOperationId)
    (apply : DelegationApplyTransaction) : Prop :=
  apply ∈ store.applies.rows ∧ apply.operationId = id ∧ apply.state = .applying

structure NeverFight (toUtcNanos : String → Option String)
    (l : List (DelegationCall × DelegationAnswer)) (store : DelegationStore) : Prop where
  applying : ∀ operation ∈ store.operations.rows, operation.state = .applying →
    ∃! apply, IsApplying store operation.operationId apply
  held : ∀ id apply, IsApplying store id apply → ¬GaveUp l id →
    ∃ operation ∈ store.operations.rows, operation.operationId = id ∧ operation.state = .applying
  notRemoved : ∀ id apply, IsApplying store id apply → ¬GaveUp l id →
    ∀ operation ∈ store.operations.rows, operation.operationId = id →
      operation.state ≠ .removing ∧ operation.state ≠ .removed
  owned : ∀ id recoveryOwner finalState lastError updatedAt,
    (∀ apply ∈ store.applies.rows, apply.transactionId = id →
      apply.recoveryOwner ≠ some (trim recoveryOwner)) →
    ((store.call toUtcNanos
        (.finalizeApply id recoveryOwner finalState lastError updatedAt)).1 = .apply none ∨
      ∃ error, (store.call toUtcNanos
        (.finalizeApply id recoveryOwner finalState lastError updatedAt)).1 = .failed error) ∧
    (store.call toUtcNanos
      (.finalizeApply id recoveryOwner finalState lastError updatedAt)).2 = store

section View

def DelegationStore.OperationApplying (store : DelegationStore) (id : DelegationWorktreeOperationId) :
    Prop :=
  ∃ operation ∈ store.operations.rows, operation.operationId = id ∧ operation.state = .applying

def DelegationStore.ApplyApplying (store : DelegationStore)
    (transactionId : DelegationApplyTransactionId) (id : DelegationWorktreeOperationId) : Prop :=
  ∃ apply, apply.transactionId = transactionId ∧ IsApplying store id apply

variable {store next : DelegationStore}

lemma IsApplying.eq {id : DelegationWorktreeOperationId} {apply apply' : DelegationApplyTransaction}
    (h : IsApplying store id apply) (h' : IsApplying store id apply') : apply = apply' := by
  obtain ⟨hmem, hid, hstate⟩ := h
  obtain ⟨hmem', hid', hstate'⟩ := h'
  by_contra hne
  have hsymm : Std.Symm OneActive := ⟨fun a b hab ha hb => (hab hb ha).symm⟩
  have hone := store.oneActive.forall hmem hmem' hne
  refine hone ?_ ?_ (hid.trans hid'.symm)
  · rw [hstate]
    rfl
  · rw [hstate']
    rfl

lemma ApplyApplying.eq {transactionId transactionId' : DelegationApplyTransactionId}
    {id : DelegationWorktreeOperationId} (h : store.ApplyApplying transactionId id)
    (h' : store.ApplyApplying transactionId' id) : transactionId = transactionId' := by
  obtain ⟨apply, rfl, hap⟩ := h
  obtain ⟨apply', rfl, hap'⟩ := h'
  rw [hap.eq hap']

lemma ApplyApplying.operation_eq {transactionId : DelegationApplyTransactionId}
    {id id' : DelegationWorktreeOperationId} (h : store.ApplyApplying transactionId id)
    (h' : store.ApplyApplying transactionId id') : id = id' := by
  obtain ⟨apply, hid, hmem, hop, -⟩ := h
  obtain ⟨apply', hid', hmem', hop', -⟩ := h'
  rw [← hop, ← hop', store.applies.eq_of_key hmem hmem' (hid.trans hid'.symm)]

structure Quiet (store next : DelegationStore) : Prop where
  operations : ∀ id, next.OperationApplying id ↔ store.OperationApplying id
  applies : ∀ transactionId id,
    next.ApplyApplying transactionId id ↔ store.ApplyApplying transactionId id

structure Claims (store next : DelegationStore) (transactionId : DelegationApplyTransactionId)
    (id : DelegationWorktreeOperationId) : Prop where
  operations : ∀ id', next.OperationApplying id' ↔ store.OperationApplying id' ∨ id' = id
  applies : ∀ transactionId' id', next.ApplyApplying transactionId' id' ↔
    store.ApplyApplying transactionId' id' ∨ transactionId' = transactionId ∧ id' = id

structure Ends (store next : DelegationStore) (transactionId : DelegationApplyTransactionId)
    (id : DelegationWorktreeOperationId) : Prop where
  was : store.ApplyApplying transactionId id
  operations : ∀ id', next.OperationApplying id' ↔ store.OperationApplying id' ∧ id' ≠ id
  applies : ∀ transactionId' id', next.ApplyApplying transactionId' id' ↔
    store.ApplyApplying transactionId' id' ∧ transactionId' ≠ transactionId

structure GivesUp (store next : DelegationStore) (id : DelegationWorktreeOperationId) : Prop where
  operations : ∀ id', next.OperationApplying id' ↔ store.OperationApplying id' ∧ id' ≠ id
  applies : ∀ transactionId id',
    next.ApplyApplying transactionId id' ↔ store.ApplyApplying transactionId id'

lemma Quiet.refl (store : DelegationStore) : Quiet store store :=
  ⟨fun _ => .rfl, fun _ _ => .rfl⟩

lemma operationApplying_update {p : DelegationWorktreeOperation → Bool}
    {f : DelegationWorktreeOperation → DelegationWorktreeOperation}
    {hf : ∀ row, (f row).operationId = row.operationId}
    (h : next.operations = store.operations.updateWhere p f hf) {id : DelegationWorktreeOperationId} :
    next.OperationApplying id ↔ ∃ row ∈ store.operations.rows, row.operationId = id ∧
      (if p row then (f row).state = .applying else row.state = .applying) := by
  unfold DelegationStore.OperationApplying
  rw [h]
  simp only [KeyedRows.mem_updateWhere]
  constructor
  · rintro ⟨_, ⟨row, hrow, rfl⟩, hid, hstate⟩
    refine ⟨row, hrow, ?_, ?_⟩
    · split at hid
      · rw [← hid, hf]
      · exact hid
    · split at hstate <;> simp_all
  · rintro ⟨row, hrow, hid, hstate⟩
    refine ⟨_, ⟨row, hrow, rfl⟩, ?_, ?_⟩
    · split
      · rw [hf, hid]
      · exact hid
    · split at hstate <;> simp_all

lemma applyApplying_update {p : DelegationApplyTransaction → Bool}
    {f : DelegationApplyTransaction → DelegationApplyTransaction}
    {hf : ∀ row, (f row).transactionId = row.transactionId}
    (h : next.applies = store.applies.updateWhere p f hf)
    (hop : ∀ row, (f row).operationId = row.operationId)
    {transactionId : DelegationApplyTransactionId} {id : DelegationWorktreeOperationId} :
    next.ApplyApplying transactionId id ↔ ∃ row ∈ store.applies.rows,
      row.transactionId = transactionId ∧ row.operationId = id ∧
      (if p row then (f row).state = .applying else row.state = .applying) := by
  unfold DelegationStore.ApplyApplying IsApplying
  rw [h]
  simp only [KeyedRows.mem_updateWhere]
  constructor
  · rintro ⟨_, htransaction, ⟨row, hrow, rfl⟩, hid, hstate⟩
    refine ⟨row, hrow, ?_, ?_, ?_⟩ <;> split at hstate <;> simp_all
  · rintro ⟨row, hrow, htransaction, hid, hstate⟩
    refine ⟨_, ?_, ⟨row, hrow, rfl⟩, ?_, ?_⟩ <;> split at hstate <;> simp_all

lemma quiet_of_rows (hoperations : ∀ operation, operation.state = .applying →
      (operation ∈ next.operations.rows ↔ operation ∈ store.operations.rows))
    (happlies : ∀ apply, apply.state = .applying →
      (apply ∈ next.applies.rows ↔ apply ∈ store.applies.rows)) : Quiet store next where
  operations id := by
    refine exists_congr fun operation => ?_
    constructor
    · rintro ⟨hmem, hid, hstate⟩
      exact ⟨(hoperations operation hstate).mp hmem, hid, hstate⟩
    · rintro ⟨hmem, hid, hstate⟩
      exact ⟨(hoperations operation hstate).mpr hmem, hid, hstate⟩
  applies transactionId id := by
    refine exists_congr fun apply => and_congr_right fun _ => ?_
    constructor
    · rintro ⟨hmem, hid, hstate⟩
      exact ⟨(happlies apply hstate).mp hmem, hid, hstate⟩
    · rintro ⟨hmem, hid, hstate⟩
      exact ⟨(happlies apply hstate).mpr hmem, hid, hstate⟩

lemma quiet_of_updateOperations {n : ℕ} {p : DelegationWorktreeOperation → Bool}
    {f : DelegationWorktreeOperation → DelegationWorktreeOperation}
    {hf : ∀ row, (f row).operationId = row.operationId}
    (h : store.updateOperations p f hf = .ok (n, next))
    (hstate : ∀ row ∈ store.operations.rows, p row = true →
      row.state ≠ .applying ∧ (f row).state ≠ .applying) : Quiet store next := by
  obtain ⟨-, hoperations, happlies⟩ := DelegationStore.updateOperations_ok h
  refine ⟨fun id => ?_, fun transactionId id => by
    simp only [DelegationStore.ApplyApplying, IsApplying, happlies]⟩
  rw [operationApplying_update hoperations]
  refine exists_congr fun row => and_congr_right fun hrow => and_congr_right fun _ => ?_
  cases hp : p row with
  | false => simp
  | true =>
      obtain ⟨hold, hnew⟩ := hstate row hrow hp
      simp [hold, hnew]

lemma quiet_of_updateApplies {n : ℕ} {p : DelegationApplyTransaction → Bool}
    {f : DelegationApplyTransaction → DelegationApplyTransaction}
    {hf : ∀ row, (f row).transactionId = row.transactionId}
    (h : store.updateApplies p f hf = .ok (n, next))
    (hop : ∀ row, (f row).operationId = row.operationId)
    (hstate : ∀ row ∈ store.applies.rows, p row = true →
      ((f row).state = .applying ↔ row.state = .applying)) : Quiet store next := by
  obtain ⟨-, hoperations, happlies⟩ := DelegationStore.updateApplies_ok h
  refine ⟨fun id => by simp only [DelegationStore.OperationApplying, hoperations],
    fun transactionId id => ?_⟩
  rw [applyApplying_update happlies hop]
  have hswap (row : DelegationApplyTransaction) : (row.transactionId = transactionId ∧
      IsApplying store id row) ↔ row ∈ store.applies.rows ∧ row.transactionId = transactionId ∧
        row.operationId = id ∧ row.state = .applying := by
    unfold IsApplying
    tauto
  unfold DelegationStore.ApplyApplying
  simp only [hswap]
  refine exists_congr fun row => and_congr_right fun hrow => and_congr_right fun _ =>
    and_congr_right fun _ => ?_
  cases hp : p row with
  | false => simp
  | true => simpa using hstate row hrow hp

section Calls

variable {toUtcNanos : String → Option String}

lemma quiet_commit {β : Type} {answer : β → DelegationAnswer}
    {result : Except CoreError (β × DelegationStore)}
    (h : ∀ b next, result = .ok (b, next) → Quiet store next) :
    Quiet store (store.commit answer result).2 := by
  unfold DelegationStore.commit
  split
  · next b next => exact h b next rfl
  · exact .refl store

lemma quiet_createOperation {operation : DelegationWorktreeOperation}
    (h : createDelegationWorktreeOperation toUtcNanos store operation = .ok next) :
    Quiet store next := by
  obtain ⟨-, -, h⟩ := except_bind_eq_ok.mp h
  obtain ⟨hstate, h⟩ := except_seq_eq_ok.mp h
  obtain ⟨hoperations, happlies⟩ := DelegationStore.insertOperation_ok h
  refine quiet_of_rows (fun other hother => ?_) fun apply _ => by rw [happlies]
  have hne : other ≠ operation := by
    rintro rfl
    simp [hother] at hstate
  simp [hoperations, hne]

lemma quiet_createApply {apply : DelegationApplyTransaction}
    (h : createDelegationApplyTransaction toUtcNanos store apply = .ok next) : Quiet store next := by
  obtain ⟨-, -, h⟩ := except_bind_eq_ok.mp h
  obtain ⟨-, h⟩ := except_seq_eq_ok.mp h
  obtain ⟨-, h⟩ := except_seq_eq_ok.mp h
  obtain ⟨hoperations, happlies⟩ := DelegationStore.insertApply_ok h
  refine quiet_of_rows (fun operation _ => by rw [hoperations]) fun other hother => ?_
  rw [happlies, List.mem_append, List.mem_singleton]
  refine or_iff_left ?_
  rintro rfl
  cases hother

lemma quiet_claimRemoval {id : DelegationWorktreeOperationId} {recoveryOwner now leaseUntil : String}
    {found : Option DelegationWorktreeOperation}
    (h : claimDelegationWorktreeRemoval toUtcNanos store id recoveryOwner now leaseUntil =
      .ok (found, next)) : Quiet store next := by
  obtain ⟨-, -, h⟩ := except_bind_eq_ok.mp h
  obtain ⟨now, -, h⟩ := except_bind_eq_ok.mp h
  obtain ⟨leaseUntil, -, h⟩ := except_bind_eq_ok.mp h
  obtain ⟨-, h⟩ := except_seq_eq_ok.mp h
  obtain ⟨⟨n, updated⟩, hupdate, h⟩ := except_bind_eq_ok.mp h
  have hquiet : Quiet store updated := by
    refine quiet_of_updateOperations hupdate fun row _ hp => ⟨?_, by simp⟩
    intro hstate
    simp [removable, hstate] at hp
  dsimp only at h
  split at h
  · obtain ⟨operation, -, h⟩ := except_bind_eq_ok.mp h
    cases h
    exact hquiet
  · cases h
    exact hquiet

lemma checkRemovalEnd_ok {finalState : DelegationWorktreeOperationState} {lastError : Option String}
    (h : checkRemovalEnd finalState lastError = .ok ()) : finalState ≠ .applying := by
  rintro rfl
  cases h

lemma quiet_finalizeRemoval {id : DelegationWorktreeOperationId} {recoveryOwner updatedAt : String}
    {finalState : DelegationWorktreeOperationState} {lastError : Option String}
    {found : Option DelegationWorktreeOperation}
    (h : finalizeDelegationWorktreeRemoval toUtcNanos store id recoveryOwner finalState lastError
      updatedAt = .ok (found, next)) : Quiet store next := by
  obtain ⟨-, -, h⟩ := except_bind_eq_ok.mp h
  obtain ⟨hend, h⟩ := except_seq_eq_ok.mp h
  obtain ⟨updatedAt, -, h⟩ := except_bind_eq_ok.mp h
  obtain ⟨⟨n, updated⟩, hupdate, h⟩ := except_bind_eq_ok.mp h
  have hquiet : Quiet store updated := by
    refine quiet_of_updateOperations hupdate fun row _ hp => ⟨?_, checkRemovalEnd_ok hend⟩
    intro hstate
    simp [hstate] at hp
  dsimp only at h
  split at h
  · obtain ⟨operation, -, h⟩ := except_bind_eq_ok.mp h
    cases h
    exact hquiet
  · cases h
    exact hquiet

lemma quiet_deleteRemoved (id : DelegationWorktreeOperationId) :
    Quiet store (deleteRemovedDelegationWorktreeOperation store id).2 := by
  refine quiet_of_rows (fun operation hstate => ?_) fun _ _ => .rfl
  simp [deleteRemovedDelegationWorktreeOperation, KeyedRows.deleteWhere, hstate]

lemma quiet_deleteTerminalApply (id : DelegationApplyTransactionId) :
    Quiet store (deleteTerminalDelegationApplyTransaction store id).2 := by
  refine quiet_of_rows (fun _ _ => .rfl) fun apply hstate => ?_
  simp [deleteTerminalDelegationApplyTransaction, KeyedRows.deleteWhere, hstate]

lemma quiet_swapApply {expectedState : DelegationApplyTransactionState}
    {apply : DelegationApplyTransaction} {changed : Bool}
    (h : compareAndSwapDelegationApplyTransaction toUtcNanos store expectedState apply =
      .ok (changed, next)) : Quiet store next := by
  obtain ⟨-, -, h⟩ := except_bind_eq_ok.mp h
  obtain ⟨hsteps, h⟩ := except_seq_eq_ok.mp h
  obtain ⟨-, h⟩ := except_seq_eq_ok.mp h
  obtain ⟨⟨n, updated⟩, hupdate, h⟩ := except_bind_eq_ok.mp h
  cases h
  have hstates : expectedState ≠ .applying ∧ apply.state ≠ .applying := by
    cases hfrom : expectedState <;> cases hto : apply.state <;>
      simp [hfrom, hto, DelegationApplyTransactionState.canPreApplyTransitionTo] at hsteps ⊢
  refine quiet_of_updateApplies hupdate (fun _ => rfl) fun row _ hp => ?_
  simp only [decide_eq_true_eq] at hp
  simp [hp.2.1, hstates]

lemma swapOperation_cases {expectedState : DelegationWorktreeOperationState}
    {operation : DelegationWorktreeOperation} {changed : Bool}
    (h : compareAndSwapDelegationWorktreeOperation toUtcNanos store expectedState operation =
      .ok (changed, next)) :
    Quiet store next ∨
      (expectedState = .applying ∧ changed = true ∧ GivesUp store next operation.operationId) := by
  obtain ⟨-, -, h⟩ := except_bind_eq_ok.mp h
  obtain ⟨hswap, h⟩ := except_seq_eq_ok.mp h
  obtain ⟨⟨n, updated⟩, hupdate, h⟩ := except_bind_eq_ok.mp h
  cases h
  obtain ⟨-, hswap⟩ := except_seq_eq_ok.mp hswap
  obtain ⟨happly, -⟩ := except_seq_eq_ok.mp hswap
  have hnext : operation.state ≠ .applying := fun hstate => by simp [hstate] at happly
  by_cases hexpected : expectedState = .applying
  · subst hexpected
    obtain ⟨hn, hoperations, happlies⟩ := DelegationStore.updateOperations_ok hupdate
    by_cases hfound : ∃ row ∈ store.operations.rows, row.operationId = operation.operationId ∧
        row.state = .applying ∧ row.workspaceId = operation.workspaceId ∧
        row.sourceRoot = operation.sourceRoot ∧ row.worktreePath = operation.worktreePath ∧
        row.branch = operation.branch ∧ row.baseCommit = operation.baseCommit ∧
        row.createdAt = operation.createdAt
    · obtain ⟨row, hrow, hp⟩ := hfound
      refine .inr ⟨rfl, ?_, ⟨fun id => ?_, fun transactionId id => by
        simp only [DelegationStore.ApplyApplying, IsApplying, happlies]⟩⟩
      · rw [hn, KeyedRows.changed_key hrow (by simpa using hp)]
        · rfl
        · intro row' hp'
          simp only [decide_eq_true_eq] at hp'
          exact hp'.1.trans hp.1.symm
      · rw [operationApplying_update hoperations]
        constructor
        · rintro ⟨row', hrow', hid, hstate⟩
          split at hstate
          · exact absurd hstate hnext
          · next hp' =>
            refine ⟨⟨row', hrow', hid, hstate⟩, ?_⟩
            rintro rfl
            obtain rfl := store.operations.eq_of_key hrow' hrow (hid.trans hp.1.symm)
            exact hp' (by simpa using hp)
        · rintro ⟨⟨row', hrow', hid, hstate⟩, hne⟩
          refine ⟨row', hrow', hid, ?_⟩
          rw [if_neg]
          · exact hstate
          · simp [hid, hne]
    · refine .inl (quiet_of_updateOperations hupdate fun row hrow hp => ?_)
      exact absurd ⟨row, hrow, by simpa using hp⟩ hfound
  · refine .inl (quiet_of_updateOperations hupdate fun row _ hp => ⟨?_, hnext⟩)
    simp only [decide_eq_true_eq] at hp
    rw [hp.2.1]
    exact hexpected

lemma queryApply_ok {id : DelegationApplyTransactionId} {row : DelegationApplyTransaction}
    (h : queryApply toUtcNanos store id = .ok (some row)) :
    row ∈ store.applies.rows ∧ row.transactionId = id := by
  unfold queryApply at h
  split at h
  · cases h
  · next found hfind =>
    obtain ⟨-, -, h⟩ := except_bind_eq_ok.mp h
    cases h
    exact KeyedRows.find?_eq_some.mp hfind

lemma claimPrepared_ok {current : DelegationApplyTransaction} {recoveryOwner now leaseUntil : String}
    (hcurrent : current ∈ store.applies.rows) (hstate : current.state = .prepared)
    (h : claimPrepared store current recoveryOwner now leaseUntil = .ok (some next)) :
    Claims store next current.transactionId current.operationId := by
  obtain ⟨⟨n, claimed⟩, hoperation, h⟩ := except_bind_eq_ok.mp h
  obtain ⟨hn, hoperations, happlies⟩ := DelegationStore.updateOperations_ok hoperation
  dsimp only at h
  split at h
  · cases h
  · next hone =>
    obtain ⟨⟨m, updated⟩, hupdate, h⟩ := except_bind_eq_ok.mp h
    obtain ⟨-, hoperations', happlies'⟩ := DelegationStore.updateApplies_ok hupdate
    dsimp only at h
    split at h
    · cases h
      refine ⟨fun id => ?_, fun transactionId id => ?_⟩
      · have hsame : next.OperationApplying id ↔ claimed.OperationApplying id := by
          simp only [DelegationStore.OperationApplying, hoperations']
        rw [hsame, operationApplying_update hoperations]
        constructor
        · rintro ⟨row, hrow, hid, hrowState⟩
          split at hrowState
          · next hp =>
            simp only [decide_eq_true_eq] at hp
            exact .inr (hid.symm.trans hp.1)
          · exact .inl ⟨row, hrow, hid, hrowState⟩
        · rintro (⟨row, hrow, hid, hrowState⟩ | rfl)
          · refine ⟨row, hrow, hid, ?_⟩
            rw [if_neg]
            · exact hrowState
            · simp [hrowState]
          · obtain ⟨row, hrow, hp⟩ : ∃ row ∈ store.operations.rows, decide
                (row.operationId = current.operationId ∧
                  row.delegationId = some current.delegationId ∧
                  row.workspaceId = current.workspaceId ∧ row.state = .reviewPending) = true :=
              KeyedRows.exists_of_changed (by rw [← hn]; omega)
            refine ⟨row, hrow, ?_, by rw [if_pos hp]⟩
            simp only [decide_eq_true_eq] at hp
            exact hp.1
      · rw [applyApplying_update happlies' fun _ => rfl, happlies]
        constructor
        · rintro ⟨row, hrow, htransaction, hid, hrowState⟩
          split at hrowState
          · next hp =>
            simp only [decide_eq_true_eq] at hp
            obtain rfl := store.applies.eq_of_key hrow hcurrent hp.1
            exact .inr ⟨htransaction.symm, hid.symm⟩
          · exact .inl ⟨row, htransaction, hrow, hid, hrowState⟩
        · rintro (⟨row, htransaction, hrow, hid, hrowState⟩ | ⟨rfl, rfl⟩)
          · refine ⟨row, hrow, htransaction, hid, ?_⟩
            rw [if_neg]
            · exact hrowState
            · simp [hrowState]
          · refine ⟨current, hcurrent, rfl, rfl, ?_⟩
            rw [if_pos (by simp [hstate])]
    · cases h

lemma takeOver_ok {current : DelegationApplyTransaction} {recoveryOwner now leaseUntil : String}
    {operationLockHeld : Bool}
    (h : takeOver store current recoveryOwner now leaseUntil operationLockHeld = .ok (some next)) :
    Quiet store next := by
  obtain ⟨⟨n, updated⟩, hupdate, h⟩ := except_bind_eq_ok.mp h
  dsimp only at h
  split at h
  · cases h
    exact quiet_of_updateApplies hupdate (fun _ => rfl) fun row _ _ => .rfl
  · cases h

lemma claimApply_cases {id : DelegationApplyTransactionId} {recoveryOwner now leaseUntil : String}
    {operationLockHeld : Bool} {found : Option DelegationApplyTransaction}
    (h : claimDelegationApplyTransaction toUtcNanos store id recoveryOwner now leaseUntil
      operationLockHeld = .ok (found, next)) :
    Quiet store next ∨ ∃ transactionId id, Claims store next transactionId id := by
  obtain ⟨-, -, h⟩ := except_bind_eq_ok.mp h
  obtain ⟨now, -, h⟩ := except_bind_eq_ok.mp h
  obtain ⟨leaseUntil, -, h⟩ := except_bind_eq_ok.mp h
  obtain ⟨-, h⟩ := except_seq_eq_ok.mp h
  obtain ⟨current, hquery, h⟩ := except_bind_eq_ok.mp h
  cases current with
  | none =>
      cases h
      exact .inl (.refl store)
  | some current =>
      obtain ⟨claimed, hclaim, h⟩ := except_bind_eq_ok.mp h
      cases claimed with
      | none =>
          cases h
          exact .inl (.refl store)
      | some claimed =>
          obtain ⟨row, -, h⟩ := except_bind_eq_ok.mp h
          obtain ⟨row, -, h⟩ := except_bind_eq_ok.mp h
          cases h
          obtain ⟨hcurrent, -⟩ := queryApply_ok hquery
          unfold claimCurrent at hclaim
          split at hclaim
          · next hstate => exact .inr ⟨_, _, claimPrepared_ok hcurrent hstate hclaim⟩
          · split at hclaim
            · exact .inl (takeOver_ok hclaim)
            · cases hclaim
          · cases hclaim

lemma checkApplyEnd_ok {finalState : DelegationApplyTransactionState} {lastError : Option String}
    {operationState : DelegationWorktreeOperationState}
    (h : checkApplyEnd finalState lastError = .ok operationState) :
    finalState ≠ .applying ∧ operationState ≠ .applying := by
  unfold checkApplyEnd at h
  split at h
  · cases h
    simp
  · cases h
    simp
  · split at h
    · cases h
    · cases h
      simp
  · cases h

lemma finalizeApply_cases {id : DelegationApplyTransactionId} {recoveryOwner updatedAt : String}
    {finalState : DelegationApplyTransactionState} {lastError : Option String}
    {found : Option DelegationApplyTransaction}
    (h : finalizeDelegationApplyTransaction toUtcNanos store id recoveryOwner finalState lastError
      updatedAt = .ok (found, next)) :
    (found = none ∧ next = store) ∨ ∃ current ∈ store.applies.rows, current.transactionId = id ∧
      current.recoveryOwner = some (trim recoveryOwner) ∧
      Ends store next current.transactionId current.operationId := by
  obtain ⟨-, -, h⟩ := except_bind_eq_ok.mp h
  obtain ⟨operationState, hend, h⟩ := except_bind_eq_ok.mp h
  obtain ⟨updatedAt, -, h⟩ := except_bind_eq_ok.mp h
  obtain ⟨current, hquery, h⟩ := except_bind_eq_ok.mp h
  obtain ⟨hfinal, hoperation⟩ := checkApplyEnd_ok hend
  cases current with
  | none =>
      cases h
      exact .inl ⟨rfl, rfl⟩
  | some current =>
      dsimp only at h
      split at h
      · cases h
        exact .inl ⟨rfl, rfl⟩
      · next hheld =>
        simp only [ne_eq, not_or, not_not] at hheld
        obtain ⟨hstate, howner⟩ := hheld
        obtain ⟨hcurrent, hid⟩ := queryApply_ok hquery
        obtain ⟨⟨n, ended⟩, hended, h⟩ := except_bind_eq_ok.mp h
        obtain ⟨-, hoperations, happlies⟩ := DelegationStore.updateOperations_ok hended
        dsimp only at h
        split at h
        · cases h
          exact .inl ⟨rfl, rfl⟩
        · obtain ⟨⟨m, updated⟩, hupdate, h⟩ := except_bind_eq_ok.mp h
          obtain ⟨-, hoperations', happlies'⟩ := DelegationStore.updateApplies_ok hupdate
          dsimp only at h
          split at h
          · cases h
            exact .inl ⟨rfl, rfl⟩
          · obtain ⟨-, -, h⟩ := except_bind_eq_ok.mp h
            cases h
            refine .inr ⟨current, hcurrent, hid, howner,
              ⟨current, rfl, hcurrent, rfl, hstate⟩, fun id' => ?_, fun transactionId' id' => ?_⟩
            · have hsame : next.OperationApplying id' ↔ ended.OperationApplying id' := by
                simp only [DelegationStore.OperationApplying, hoperations']
              rw [hsame, operationApplying_update hoperations]
              constructor
              · rintro ⟨row, hrow, hrowId, hrowState⟩
                split at hrowState
                · exact absurd hrowState hoperation
                · next hp =>
                  refine ⟨⟨row, hrow, hrowId, hrowState⟩, ?_⟩
                  rintro rfl
                  exact hp (by simp [hrowId, hrowState])
              · rintro ⟨⟨row, hrow, hrowId, hrowState⟩, hne⟩
                refine ⟨row, hrow, hrowId, ?_⟩
                rw [if_neg]
                · exact hrowState
                · simp [hrowId, hne]
            · rw [applyApplying_update happlies' fun _ => rfl, happlies]
              constructor
              · rintro ⟨row, hrow, htransaction, hrowId, hrowState⟩
                split at hrowState
                · exact absurd hrowState hfinal
                · next hp =>
                  refine ⟨⟨row, htransaction, hrow, hrowId, hrowState⟩, ?_⟩
                  rintro rfl
                  obtain rfl := store.applies.eq_of_key hrow hcurrent htransaction
                  exact hp (by simp [hid, hstate, howner])
              · rintro ⟨⟨row, htransaction, hrow, hrowId, hrowState⟩, hne⟩
                refine ⟨row, hrow, htransaction, hrowId, ?_⟩
                rw [if_neg]
                · exact hrowState
                · rw [htransaction, ← hid]
                  simp [hne]

lemma call_cases (toUtcNanos : String → Option String) (store : DelegationStore)
    (call : DelegationCall) :
    Quiet store (store.call toUtcNanos call).2 ∨
    (∃ transactionId id, Claims store (store.call toUtcNanos call).2 transactionId id) ∨
    (∃ transactionId id, Ends store (store.call toUtcNanos call).2 transactionId id) ∨
    ∃ operation, call = .swapOperation .applying operation ∧
      (store.call toUtcNanos call).1 = .changed true ∧
      GivesUp store (store.call toUtcNanos call).2 operation.operationId := by
  cases call with
  | createOperation operation =>
      refine .inl (quiet_commit fun _ next h => ?_)
      obtain ⟨next', h, heq⟩ := except_map_eq_ok.mp h
      cases heq
      exact quiet_createOperation h
  | swapOperation expectedState operation =>
      simp only [DelegationStore.call, DelegationStore.commit]
      split
      · next changed next h =>
        obtain hquiet | ⟨rfl, rfl, hgives⟩ := swapOperation_cases h
        · exact .inl hquiet
        · exact .inr (.inr (.inr ⟨operation, rfl, rfl, hgives⟩))
      · exact .inl (.refl store)
  | claimRemoval id recoveryOwner now leaseUntil =>
      exact .inl (quiet_commit fun _ _ h => quiet_claimRemoval h)
  | finalizeRemoval id recoveryOwner finalState lastError updatedAt =>
      exact .inl (quiet_commit fun _ _ h => quiet_finalizeRemoval h)
  | deleteRemoved id => exact .inl (quiet_deleteRemoved id)
  | createApply apply =>
      refine .inl (quiet_commit fun _ next h => ?_)
      obtain ⟨next', h, heq⟩ := except_map_eq_ok.mp h
      cases heq
      exact quiet_createApply h
  | swapApply expectedState apply => exact .inl (quiet_commit fun _ _ h => quiet_swapApply h)
  | claimApply id recoveryOwner now leaseUntil operationLockHeld =>
      simp only [DelegationStore.call, DelegationStore.commit]
      split
      · next found next h =>
        obtain hquiet | hclaims := claimApply_cases h
        · exact .inl hquiet
        · exact .inr (.inl hclaims)
      · exact .inl (.refl store)
  | finalizeApply id recoveryOwner finalState lastError updatedAt =>
      simp only [DelegationStore.call, DelegationStore.commit]
      split
      · next found next h =>
        obtain ⟨-, rfl⟩ | ⟨current, -, -, -, hends⟩ := finalizeApply_cases h
        · exact .inl (.refl _)
        · exact .inr (.inr (.inl ⟨_, _, hends⟩))
      · exact .inl (.refl store)
  | deleteTerminalApply id => exact .inl (quiet_deleteTerminalApply id)

end Calls

section Runs

variable {toUtcNanos : String → Option String} {l : List (DelegationCall × DelegationAnswer)}

lemma GaveUp.append {id : DelegationWorktreeOperationId} (h : GaveUp l id)
    (event : DelegationCall × DelegationAnswer) : GaveUp (l ++ [event]) id := by
  obtain ⟨operation, hid, hmem⟩ := h
  exact ⟨operation, hid, List.mem_append_left _ hmem⟩

structure Paired (l : List (DelegationCall × DelegationAnswer)) (store : DelegationStore) : Prop where
  claimed : ∀ id, store.OperationApplying id → ∃ transactionId, store.ApplyApplying transactionId id
  held : ∀ transactionId id, store.ApplyApplying transactionId id →
    store.OperationApplying id ∨ GaveUp l id

lemma paired_empty : Paired [] .empty where
  claimed := by
    rintro id ⟨operation, hmem, -⟩
    cases hmem
  held := by
    rintro transactionId id ⟨apply, -, hmem, -⟩
    cases hmem

lemma Paired.call (h : Paired l store) (call : DelegationCall) :
    Paired (l ++ [(call, (store.call toUtcNanos call).1)]) (store.call toUtcNanos call).2 := by
  obtain hquiet | ⟨transactionId, id, hclaims⟩ | ⟨transactionId, id, hends⟩ |
    ⟨operation, hcall, hanswer, hgives⟩ := call_cases toUtcNanos store call
  · refine ⟨fun id hid => ?_, fun transactionId id hid => ?_⟩
    · obtain ⟨transactionId, happly⟩ := h.claimed id ((hquiet.operations id).mp hid)
      exact ⟨transactionId, (hquiet.applies _ _).mpr happly⟩
    · refine (h.held transactionId id ((hquiet.applies _ _).mp hid)).imp ?_ fun hgave => hgave.append _
      exact (hquiet.operations id).mpr
  · refine ⟨fun id' hid => ?_, fun transactionId' id' hid => ?_⟩
    · rcases (hclaims.operations id').mp hid with hid | rfl
      · obtain ⟨transactionId', happly⟩ := h.claimed id' hid
        exact ⟨transactionId', (hclaims.applies _ _).mpr (.inl happly)⟩
      · exact ⟨transactionId, (hclaims.applies _ _).mpr (.inr ⟨rfl, rfl⟩)⟩
    · rcases (hclaims.applies transactionId' id').mp hid with hid | ⟨rfl, rfl⟩
      · refine (h.held transactionId' id' hid).imp ?_ fun hgave => hgave.append _
        exact fun hoperation => (hclaims.operations id').mpr (.inl hoperation)
      · exact .inl ((hclaims.operations id').mpr (.inr rfl))
  · refine ⟨fun id' hid => ?_, fun transactionId' id' hid => ?_⟩
    · obtain ⟨hid, hne⟩ := (hends.operations id').mp hid
      obtain ⟨transactionId', happly⟩ := h.claimed id' hid
      refine ⟨transactionId', (hends.applies _ _).mpr ⟨happly, ?_⟩⟩
      rintro rfl
      exact hne (ApplyApplying.operation_eq happly hends.was)
    · obtain ⟨hid, hne⟩ := (hends.applies transactionId' id').mp hid
      refine (h.held transactionId' id' hid).imp ?_ fun hgave => hgave.append _
      refine fun hoperation => (hends.operations id').mpr ⟨hoperation, ?_⟩
      rintro rfl
      exact hne (ApplyApplying.eq hid hends.was)
  · refine ⟨fun id' hid => ?_, fun transactionId' id' hid => ?_⟩
    · obtain ⟨transactionId', happly⟩ := h.claimed id' ((hgives.operations id').mp hid).1
      exact ⟨transactionId', (hgives.applies _ _).mpr happly⟩
    · by_cases hid' : id' = operation.operationId
      · refine .inr ⟨operation, hid'.symm, ?_⟩
        rw [hanswer, hcall]
        exact List.mem_append_right _ (List.mem_singleton_self _)
      · refine (h.held transactionId' id' ((hgives.applies _ _).mp hid)).imp ?_
          fun hgave => hgave.append _
        exact fun hoperation => (hgives.operations id').mpr ⟨hoperation, hid'⟩

lemma paired_run (h : (delegationJournal toUtcNanos).Run .empty l store) : Paired l store := by
  induction h with
  | nil _ => exact paired_empty
  | concat _ hstep _ ih =>
      obtain ⟨rfl, rfl⟩ := Prod.mk.inj (Option.some.inj hstep)
      exact ih.call _

lemma finalizeApply_owned {id : DelegationApplyTransactionId} {recoveryOwner updatedAt : String}
    {finalState : DelegationApplyTransactionState} {lastError : Option String}
    (h : ∀ apply ∈ store.applies.rows, apply.transactionId = id →
      apply.recoveryOwner ≠ some (trim recoveryOwner)) :
    ((store.call toUtcNanos
        (.finalizeApply id recoveryOwner finalState lastError updatedAt)).1 = .apply none ∨
      ∃ error, (store.call toUtcNanos
        (.finalizeApply id recoveryOwner finalState lastError updatedAt)).1 = .failed error) ∧
    (store.call toUtcNanos
      (.finalizeApply id recoveryOwner finalState lastError updatedAt)).2 = store := by
  simp only [DelegationStore.call, DelegationStore.commit]
  split
  · next found next hcall =>
    obtain ⟨rfl, rfl⟩ | ⟨current, hcurrent, hid, howner, -⟩ := finalizeApply_cases hcall
    · exact ⟨.inl rfl, rfl⟩
    · exact absurd howner (h current hcurrent hid)
  · next error _ => exact ⟨.inr ⟨error, rfl⟩, rfl⟩

end Runs

end View

/-- Applying and removing a worktree stay apart, but for an operation that a swap took out of applying
while its transaction was under way. -/
theorem applies_and_removals_stay_apart (toUtcNanos : String → Option String)
    {l : List (DelegationCall × DelegationAnswer)} {store : DelegationStore}
    (h : (delegationJournal toUtcNanos).Run .empty l store) : NeverFight toUtcNanos l store := by
  have hpaired := paired_run h
  have hheld : ∀ id apply, IsApplying store id apply → ¬GaveUp l id → store.OperationApplying id :=
    fun id apply happly hkept =>
      (hpaired.held apply.transactionId id ⟨apply, rfl, happly⟩).resolve_right hkept
  refine ⟨fun operation hmem hstate => ?_, hheld, ?_, fun _ _ _ _ _ => finalizeApply_owned⟩
  · obtain ⟨transactionId, apply, -, happly⟩ :=
      hpaired.claimed operation.operationId ⟨operation, hmem, rfl, hstate⟩
    exact ⟨apply, happly, fun other hother => hother.eq happly⟩
  · intro id apply happly hkept operation hmem hid
    obtain ⟨operation', hmem', hid', hstate⟩ := hheld id apply happly hkept
    obtain rfl := store.operations.eq_of_key hmem hmem' (hid.trans hid'.symm)
    simp [hstate]

section OneOperation

def demoOperation : DelegationWorktreeOperation where
  operationId := ⟨"operation-1"⟩
  delegationKey := none
  delegationId := some ⟨"delegation-1"⟩
  workspaceId := ⟨"workspace-1"⟩
  parentSessionId := none
  childSessionId := none
  sourceRoot := "/source"
  worktreePath := "/worktree"
  branch := "branch"
  baseCommit := "base"
  expectedBranchOid := none
  sourceRootId := none
  worktreeRootId := none
  commonDirId := none
  state := .preparing
  lastError := none
  recoveryOwner := none
  recoveryLeaseUntil := none
  createdAt := "0"
  updatedAt := "0"

def demoApply : DelegationApplyTransaction where
  transactionId := ⟨"apply-1"⟩
  operationId := ⟨"operation-1"⟩
  delegationId := ⟨"delegation-1"⟩
  workspaceId := ⟨"workspace-1"⟩
  sourceHeadOid := none
  destinationHeadOid := none
  destinationRef := none
  destinationIndexTreeOid := none
  manifestDigest := none
  fileCount := 0
  artifactBytes := 0
  state := .preparing
  recoveryOwner := none
  recoveryLeaseUntil := none
  lastError := none
  createdAt := "0"
  updatedAt := "0"

def demoOid : String :=
  "0123456789012345678901234567890123456789"

def demoClaimed : List DelegationCall :=
  [.createOperation demoOperation,
    .swapOperation .preparing { demoOperation with state := .prepared },
    .swapOperation .prepared { demoOperation with state := .reviewPending },
    .createApply demoApply,
    .swapApply .preparing { demoApply with
      state := .prepared
      sourceHeadOid := some demoOid
      destinationHeadOid := some demoOid
      destinationIndexTreeOid := some demoOid
      manifestDigest := some (demoOid ++ "012345678901234567890123")
      fileCount := 1 },
    .claimApply ⟨"apply-1"⟩ "worker" "1" "2" false]

def demoJournal (calls : List DelegationCall) : DelegationStore :=
  (delegationJournal some).exec .empty calls

def demoRemoving : DelegationStore :=
  demoJournal (demoClaimed ++ [.swapOperation .applying
    { demoOperation with state := .cleanupRequired, lastError := some "interrupted" },
    .claimRemoval ⟨"operation-1"⟩ "remover" "1" "2"])

theorem applies_and_removals_stay_apart_demo :
    ∃ operation ∈ (demoJournal demoClaimed).operations.rows, operation.state = .applying ∧
      ∃! apply, IsApplying (demoJournal demoClaimed) operation.operationId apply := by
  obtain ⟨l, hrun⟩ := System.run_exec (M := delegationJournal some) .empty demoClaimed
  have hstate : ∃ operation ∈ (demoJournal demoClaimed).operations.rows,
      operation.state = .applying := by
    decide +kernel
  obtain ⟨operation, hmem, hstate⟩ := hstate
  exact ⟨operation, hmem, hstate,
    (applies_and_removals_stay_apart some hrun).applying operation hmem hstate⟩

theorem removed_while_applying :
    (delegationJournal some).Reachable demoRemoving ∧
    ∃ operation ∈ demoRemoving.operations.rows, operation.state = .removing ∧
      ∃! apply, IsApplying demoRemoving operation.operationId apply := by
  have hoperation : ∃ operation ∈ demoRemoving.operations.rows, operation.state = .removing ∧
      ∃ apply ∈ demoRemoving.applies.rows,
        apply.operationId = operation.operationId ∧ apply.state = .applying := by
    decide +kernel
  obtain ⟨operation, hmem, hremoving, apply, happly⟩ := hoperation
  exact ⟨System.Reachable.start.exec _, operation, hmem, hremoving, apply, happly,
    fun other hother => hother.eq happly⟩

end OneOperation

end DevCommandCenter.Delegation
