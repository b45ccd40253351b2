import DevCommandCenter.GuardedUndo.UndoRecovery

/-! Recovering one undo leaves the others alone. -/

namespace DevCommandCenter.GuardedUndo

open Library JournalStore

variable {env : RestoreEnvironment} {scope : UndoScope} {start d : Durable}
  {files list : List UndoOperationFile} {state expected next : UndoOperationState}
  {file original current : UndoOperationFile} {operation : UndoOperation} {id : UndoOperationId}
  {now : ℕ}

structure UndoScope.Aside (scope : UndoScope) (start d : Durable) : Prop where
  apart : scope.Apart d.journal
  rows : ∀ row : UndoOperationRow, row.operationId = scope.id →
    (row ∈ d.journal.operations.rows ↔ row ∈ start.journal.operations.rows)
  files : ∀ file : UndoOperationFile, file.operationId = scope.id →
    (file ∈ d.journal.operationFiles.rows ↔ file ∈ start.journal.operationFiles.rows)
  targets : ∀ path ∈ scope.paths, d.disk.targets path = start.disk.targets path
  siblings : ∀ path ∈ scope.paths, ∀ key ∈ scope.keys,
    d.disk.siblings path key = start.disk.siblings path key

def UndoScope.Spares (scope : UndoScope) (start : Durable) {α : Type} (c : Service α) : Prop :=
  Service.Triple (scope.Aside start) (scope.Aside start) c fun _ => scope.Aside start

structure UndoScope.Other (scope : UndoScope) (id : UndoOperationId) : Prop where
  ne : id ≠ scope.id
  mem : id ∈ scope.others

structure UndoScope.OtherFile (scope : UndoScope) (id : UndoOperationId) (file : UndoOperationFile) :
    Prop where
  own : file.operationId = id
  path : file.pathBytes ∉ scope.paths

section Transfer

lemma UndoScope.Aside.operationFilesOf (h : scope.Aside start d) :
    ∀ file, file ∈ d.journal.operationFilesOf scope.id ↔
      file ∈ start.journal.operationFilesOf scope.id := by
  intro file
  rw [mem_operationFilesOf, mem_operationFilesOf]
  constructor
  · exact fun ⟨hmem, hid⟩ => ⟨(h.files file hid).mp hmem, hid⟩
  · exact fun ⟨hmem, hid⟩ => ⟨(h.files file hid).mpr hmem, hid⟩

lemma UndoScope.Ledger.aside (hledger : scope.Ledger files state start.journal)
    (h : scope.Aside start d) : scope.Ledger files state d.journal where
  row := by
    obtain ⟨row, hrow, hid, hstate⟩ := hledger.row
    exact ⟨row, (h.rows row hid).mpr hrow, hid, hstate⟩
  held file hfile := by
    obtain ⟨row, hrow, halike⟩ := hledger.held file hfile
    exact ⟨row, (h.operationFilesOf row).mpr hrow, halike⟩
  covered row hrow := hledger.covered row ((h.operationFilesOf row).mp hrow)
  apart := h.apart

lemma UndoScope.Holds.aside (howns : scope.Owns files) (hholds : scope.Holds files state start)
    (h : scope.Aside start d) : scope.Holds files state d := by
  refine ⟨hholds.1.aside h, fun file hfile => ?_⟩
  have hpath := howns.paths file hfile
  have htarget := h.targets _ hpath
  have hsibling := h.siblings _ hpath _ (howns.keys file hfile)
  have hfits := hholds.2 file hfile
  cases state <;>
    simpa only [UndoDisk.Fits, UndoDisk.Untouched, UndoDisk.Applied, UndoDisk.Restored, htarget,
      hsibling] using hfits

lemma spares_keeps {α : Type} {c : Service α} {I P : Durable → Prop}
    (hc : ∀ start, scope.Spares start c) (hI : ∀ d, P d → I d)
    (hapart : ∀ d, P d → scope.Apart d.journal)
    (hP : ∀ start d, P start → scope.Aside start d → P d) :
    Service.Triple I P c fun _ => P := by
  intro w hw
  have hstart : scope.Aside w.durable w.durable :=
    ⟨hapart _ hw, fun _ _ => .rfl, fun _ _ => .rfl, fun _ _ => rfl, fun _ _ _ _ => rfl⟩
  have hrun := hc w.durable w hstart
  rcases hcw : c w with ⟨e | a, u⟩
  · rw [hcw] at hrun
    exact hI _ (hP _ _ hw hrun)
  · rw [hcw] at hrun
    exact hP _ _ hw hrun

end Transfer

section Calls

lemma spares_pure {α : Type} (a : α) : scope.Spares start (pure a : Service α) := fun _ h => h

lemma spares_fail {α : Type} : scope.Spares start (Call.fail .crash : Service α) := fun _ h => h

lemma UndoScope.Spares.bind {α β : Type} {c : Service α} {f : α → Service β}
    (hc : scope.Spares start c) (hf : ∀ a, scope.Spares start (f a)) :
    scope.Spares start (c >>= f) :=
  Call.Triple.bind hc hf

lemma UndoScope.Spares.map {α β : Type} {c : Service α} (hc : scope.Spares start c) (g : α → β) :
    scope.Spares start (g <$> c) :=
  Call.Triple.map hc

lemma UndoScope.Aside.exchanged (h : scope.Aside start d) {path : OpaqueRepoPath}
    (hpath : path ∉ scope.paths) (key : ArtifactKey) (target sibling : FileEvidence) :
    scope.Aside start { d with disk := d.disk.exchanged path key target sibling } where
  apart := h.apart
  rows := h.rows
  files := h.files
  targets other hother := by
    rw [← h.targets other hother]
    simp only [UndoDisk.exchanged]
    rw [Function.update_of_ne (ne_of_mem_of_not_mem hother hpath)]
  siblings other hother key' hkey' := by
    rw [← h.siblings other hother key' hkey']
    exact d.disk.setSibling_siblings_ne (ne_of_mem_of_not_mem hother hpath) key key' _

lemma UndoScope.Aside.setSibling (h : scope.Aside start d) {path : OpaqueRepoPath} {key : ArtifactKey}
    (hapart : path ∈ scope.paths → key ∉ scope.keys) (file : Option FileEvidence) :
    scope.Aside start { d with disk := d.disk.setSibling path key file } where
  apart := h.apart
  rows := h.rows
  files := h.files
  targets := h.targets
  siblings other hother key' hkey' := by
    rw [← h.siblings other hother key' hkey']
    by_cases hpath : other = path
    · subst hpath
      simp only [UndoDisk.setSibling, Function.update_self]
      rw [Function.update_of_ne (ne_of_mem_of_not_mem hkey' (hapart hother))]
    · exact d.disk.setSibling_siblings_ne hpath key key' file

lemma inspectExchange_spares (path : OpaqueRepoPath) (key : ArtifactKey) :
    scope.Spares start (inspectExchange env path key) :=
  (inspectExchange_triple (fun _ h => h) path key).post fun _ _ h => h.1

lemma exchange_spares {path : OpaqueRepoPath} (hpath : path ∉ scope.paths) (key : ArtifactKey)
    (target sibling : FileEvidence) : scope.Spares start (exchange env path key target sibling) :=
  exchange_triple (fun _ h => h) fun _ hd _ _ => hd.exchanged hpath key target sibling

lemma cleanupExchange_spares {path : OpaqueRepoPath} {key : ArtifactKey}
    (hapart : path ∈ scope.paths → key ∉ scope.keys) (expected : FileEvidence) :
    scope.Spares start (cleanupExchange env path key expected) :=
  cleanupExchange_triple (fun _ h => h) fun _ hd => hd.setSibling hapart none

lemma sameRepositoryState_spares (captured : GitIdentityV1) :
    scope.Spares start (sameRepositoryState env captured) :=
  sameRepositoryState_triple (fun _ h => h) captured

lemma transitionOperation_spares (hother : scope.Other id) (reason : Option GuardedUndoReasonCode)
    (details : Option RecoveryDetailsV1) :
    scope.Spares start (transitionOperation env id expected next reason details now) := by
  refine repositoryCall_triple (fun _ h => h) (fun _ _ hd => hd) fun d answer journal hd hcall => ?_
  cases answer with
  | error e =>
      have hkept := transitionUndoOperation_errorKeeps id expected next reason details
        (env.timestamp now) d.journal e journal hcall
      exact hkept ▸ hd
  | ok wrote =>
      obtain ⟨row, hrow, hid, ⟨-, rfl, -⟩ | ⟨-, -, hmoved⟩⟩ := transitionUndoOperation_ok hcall
      · exact hd
      refine ⟨hd.apart.operationMoved (.inr (hid ▸ hother.mem)) hmoved, fun own hown => ?_, ?_,
        hd.targets, hd.siblings⟩
      · rw [← hd.rows own hown]
        constructor
        · intro hmem
          rcases hmoved.mem_operations.mp hmem with rfl | ⟨hmem, -⟩
          · exact absurd (hid.symm.trans hown) hother.ne
          · exact hmem
        · intro hmem
          refine hmoved.mem_operations.mpr (.inr ⟨hmem, ?_⟩)
          rintro rfl
          exact hother.ne (hid.symm.trans hown)
      · intro file hfile
        rw [← hd.files file hfile]
        exact hmoved.operationFiles ▸ Iff.rfl

lemma transitionFile_spares {moved : UndoOperationFile} (hmoved : moved.operationId ≠ scope.id)
    (expected : UndoOperationFileState) :
    scope.Spares start (transitionFile env expected moved) := by
  refine repositoryCall_triple (fun _ h => h) (fun _ _ hd => hd) fun d answer journal hd hcall => ?_
  cases answer with
  | error e =>
      have hkept := transitionUndoOperationFile_errorKeeps expected moved d.journal e journal hcall
      exact hkept ▸ hd
  | ok wrote =>
      rcases transitionUndoOperationFile_ok hcall with ⟨-, rfl, -⟩ | ⟨-, old, -, hwrites⟩
      · exact hd
      refine ⟨hd.apart.fileMoved hwrites, ?_, fun own hown => ?_, hd.targets, hd.siblings⟩
      · intro row hrow
        rw [← hd.rows row hrow]
        exact hwrites.operations ▸ Iff.rfl
      · rw [← hd.files own hown, hwrites.mem_operationFiles]
        constructor
        · rintro (rfl | ⟨hmem, -⟩)
          · exact absurd hown hmoved
          · exact hmem
        · intro hmem
          refine .inr ⟨hmem, ?_⟩
          rintro rfl
          exact hmoved (hwrites.identity.1.symm.trans hown)

lemma finishCleanup_spares (hne : id ≠ scope.id) : scope.Spares start (finishCleanup env id) := by
  refine repositoryCall_triple (fun _ h => h) (fun _ _ hd => hd) fun d answer journal hd hcall => ?_
  cases hcall
  refine ⟨hd.apart.cleanupFinished id, fun own hown => ?_, hd.files, hd.targets, hd.siblings⟩
  rw [← hd.rows own hown]
  change own ∈ (finishUndoOperationCleanup id d.journal).2.operations.rows ↔ _
  rw [finishUndoOperationCleanup_operations, List.mem_map]
  have hkept : ∀ old : UndoOperationRow, old.operationId = scope.id →
      ¬(decide (old.operationId = id) && !old.active && old.cleanupPending) = true := by
    intro old hold
    simp [hold, hne.symm]
  constructor
  · rintro ⟨old, hmem, heq⟩
    split at heq
    · next hselected =>
      rw [← heq] at hown
      exact absurd hselected (hkept old hown)
    · exact heq ▸ hmem
  · exact fun hmem => ⟨own, hmem, if_neg (hkept own hown)⟩

lemma loadedFile_spares_bind {α : Type} {f : Option UndoOperationFile → Service α}
    (hnone : scope.Spares start (f none))
    (hsome : ∀ current, current.operationId = original.operationId →
      scope.Spares start (f (some current))) :
    scope.Spares start (loadedFile env original >>= f) := by
  refine (loadedFile_triple (fun _ h => h) original).bind fun loaded => ?_
  cases loaded with
  | none => exact hnone.pre fun d hd => hd.1
  | some current =>
      refine Call.Triple.pre (.assume fun hid => hsome current hid) fun d hd => ⟨?_, hd.1⟩
      exact (mem_operationFilesOf.mp (hd.2 current rfl)).2

end Calls

section Service

variable (hother : scope.Other id)

lemma pairIsUnapplied_spares (file : UndoOperationFile) :
    scope.Spares start (pairIsUnapplied env file) :=
  (pairIsUnapplied_triple (fun _ h => h) file).post fun _ _ h => h.1

lemma pairIsApplied_spares (file : UndoOperationFile) :
    scope.Spares start (pairIsApplied env file) :=
  (pairIsApplied_triple (fun _ h => h) file).post fun _ _ h => h.1

lemma getTurnRestoreSet_spares (id : RestoreSetId) :
    scope.Spares start (getTurnRestoreSet env id) :=
  getTurnRestoreSet_triple (fun _ h => h) id

lemma clockNow_spares : scope.Spares start (clockNow env) :=
  fun _ hw => hw

lemma acquire_spares (workspaceAbsolute : String) (root : PhysicalRootId) (mode : AuthorityMode) :
    scope.Spares start (acquire env workspaceAbsolute root mode) :=
  acquire_triple (fun _ h => h) workspaceAbsolute root mode

lemma settle_spares {ε α β : Type} {c : Service (Except ε α)} {f : Except ε α → Service β}
    (hc : scope.Spares start c) (herror : ∀ e, scope.Spares start (f (.error e)))
    (hok : ∀ a, scope.Spares start (f (.ok a))) : scope.Spares start (c >>= f) := by
  refine hc.bind fun answer => ?_
  cases answer with
  | error e => exact herror e
  | ok a => exact hok a

lemma recordVerified_spares (hcurrent : current.operationId ≠ scope.id) :
    scope.Spares start (recordVerified env current now) := by
  unfold recordVerified
  split
  · refine settle_spares (transitionFile_spares ?_ _) (fun e => spares_pure _) fun a => spares_pure _
    exact hcurrent
  · exact spares_pure _

lemma recordAppliedVerified_spares (hown : original.operationId ≠ scope.id) :
    scope.Spares start (recordAppliedVerified env original now) := by
  refine loadedFile_spares_bind (spares_pure _) fun current hcurrent => ?_
  have hne : current.operationId ≠ scope.id := hcurrent ▸ hown
  dsimp only
  split
  · refine (transitionFile_spares ?_ _).bind fun answer => ?_
    · exact hne
    cases answer with
    | error e => exact spares_pure _
    | ok wrote => exact recordVerified_spares hne
  · exact recordVerified_spares hne

lemma markFileRolledBack_spares (hown : original.operationId ≠ scope.id) :
    scope.Spares start (markFileRolledBack env original now) := by
  refine loadedFile_spares_bind (spares_pure _) fun current hcurrent => ?_
  dsimp only
  split
  · exact spares_pure _
  · refine settle_spares (transitionFile_spares ?_ _) (fun e => spares_pure _) fun a => spares_pure _
    have hsame : (rolledBackFile env current now).operationId = current.operationId :=
      (alike_rolledBackFile current now).1.1.symm
    rw [hsame, hcurrent]
    exact hown

lemma markFileRecovery_spares (hown : original.operationId ≠ scope.id) :
    scope.Spares start (markFileRecovery env original now) := by
  refine loadedFile_spares_bind (spares_pure _) fun current hcurrent => ?_
  dsimp only
  split
  · exact spares_pure _
  · refine settle_spares (transitionFile_spares ?_ _) (fun e => spares_pure _) fun a => spares_pure _
    exact hcurrent ▸ hown

lemma allFiles_spares {check : UndoOperationFile → Service Bool}
    (hcheck : ∀ file ∈ files, scope.Spares start (check file)) :
    scope.Spares start (allFiles check files) :=
  allFiles_keeps hcheck

include hother in
lemma requireRecovery_spares (reason : GuardedUndoReasonCode) (label : String) :
    scope.Spares start (requireRecovery env id expected reason label now) :=
  (transitionOperation_spares hother _ _).bind fun _ => spares_pure _

lemma cleanupOne_spares (hapart : file.pathBytes ∈ scope.paths →
    file.exchangeArtifactKey ∉ scope.keys) : scope.Spares start (cleanupOne env state file) := by
  unfold cleanupOne
  dsimp only
  split
  · exact spares_pure _
  · exact (inspectExchange_spares _ _).bind fun _ => spares_pure _
  · refine (inspectExchange_spares _ _).bind fun observed => ?_
    split
    · exact settle_spares (cleanupExchange_spares hapart _) (fun e => spares_pure _)
        fun a => spares_pure _
    · exact spares_pure _

lemma cleanupAndFinish_spares (hne : id ≠ scope.id) (hapart : ∀ file ∈ files,
    file.pathBytes ∈ scope.paths → file.exchangeArtifactKey ∉ scope.keys) :
    scope.Spares start (cleanupAndFinish env id files state) := by
  refine (allFiles_spares fun file hfile => cleanupOne_spares (hapart file hfile)).bind
    fun cleaned => ?_
  split
  · exact (finishCleanup_spares hne).bind fun _ => spares_pure _
  · exact spares_pure _

lemma exchangeBack_spares (hfile : scope.OtherFile id original) :
    scope.Spares start (exchangeBack env original) := by
  refine (pairIsApplied_spares original).bind fun applied => ?_
  split
  · split
    · exact spares_fail
    · exact settle_spares (exchange_spares hfile.path _ _ _) (fun e => spares_pure _)
        fun a => spares_pure _
  · exact spares_pure _

include hother

lemma rollbackFile_spares (hfile : scope.OtherFile id original) :
    scope.Spares start (rollbackFile env id now original) := by
  have hown : original.operationId ≠ scope.id := hfile.own ▸ hother.ne
  refine (exchangeBack_spares hfile).bind fun exchanged => ?_
  split
  · exact (requireRecovery_spares hother _ _).map _
  refine (pairIsUnapplied_spares original).bind fun unapplied => ?_
  split
  · refine (markFileRecovery_spares hown).bind fun _ => ?_
    exact (requireRecovery_spares hother _ _).map _
  refine (markFileRolledBack_spares hown).bind fun marked => ?_
  split
  · exact (requireRecovery_spares hother _ _).map _
  · exact spares_pure _

lemma rollbackFiles_spares (hlist : ∀ file ∈ list, scope.OtherFile id file) :
    scope.Spares start (rollbackFiles env id now list) := by
  induction list with
  | nil => exact spares_pure _
  | cons original rest ih =>
      refine (rollbackFile_spares hother (hlist original List.mem_cons_self)).bind fun ended => ?_
      cases ended with
      | some result => exact spares_pure _
      | none => exact ih fun file hfile => hlist file (List.mem_cons_of_mem _ hfile)

lemma finishRollback_spares (hfiles : ∀ file ∈ files, scope.OtherFile id file) :
    scope.Spares start (finishRollback env id now files) := by
  refine (rollbackFiles_spares hother fun file hfile =>
    hfiles file (List.mem_reverse.mp hfile)).bind fun ended => ?_
  cases ended with
  | some result => exact spares_pure _
  | none =>
      refine (transitionOperation_spares hother _ _).bind fun answer => ?_
      cases answer with
      | error e => exact requireRecovery_spares hother _ _
      | ok wrote =>
          refine (cleanupAndFinish_spares hother.ne fun file hfile hpath => ?_).bind
            fun _ => spares_pure _
          exact absurd hpath (hfiles file hfile).path

lemma rollbackOperation_spares (hfiles : ∀ file ∈ files, scope.OtherFile id file) :
    scope.Spares start (rollbackOperation env id now state files) := by
  unfold rollbackOperation
  split
  · exact finishRollback_spares hother hfiles
  · refine (transitionOperation_spares hother _ _).bind fun answer => ?_
    cases answer with
    | error e => exact requireRecovery_spares hother _ _
    | ok wrote => exact finishRollback_spares hother hfiles

lemma preparingDiverged_spares (hfile : scope.OtherFile id file) :
    scope.Spares start (preparingDiverged env id now file) := by
  refine (markFileRecovery_spares (hfile.own ▸ hother.ne)).bind fun _ => ?_
  exact (requireRecovery_spares hother _ _).map _

lemma recoverPlanned_spares (hfile : scope.OtherFile id file) :
    scope.Spares start (recoverPlanned env id now file) := by
  have hcleans : ∀ evidence, scope.Spares start
      (cleanupExchange env file.pathBytes file.exchangeArtifactKey evidence) :=
    cleanupExchange_spares fun hpath => absurd hpath hfile.path
  have hmarks : scope.Spares start (markFileRecovery env file now) :=
    markFileRecovery_spares (hfile.own ▸ hother.ne)
  refine (inspectExchange_spares _ _).bind fun observed => ?_
  cases observed with
  | ok evidence =>
      dsimp only
      split
      · refine (hcleans _).bind fun answer => ?_
        cases answer with
        | ok _ => exact spares_pure _
        | error e => exact (requireRecovery_spares hother _ _).map _
      · exact hmarks.bind fun _ => (requireRecovery_spares hother _ _).map _
  | error reason =>
      dsimp only
      split
      · exact spares_pure _
      · exact hmarks.bind fun _ => (requireRecovery_spares hother _ _).map _

lemma recoverStaged_spares (hfile : scope.OtherFile id file) :
    scope.Spares start (recoverStaged env id now file) := by
  refine (pairIsUnapplied_spares file).bind fun unapplied => ?_
  split
  · split
    · exact spares_fail
    · refine (cleanupExchange_spares (fun hpath => absurd hpath hfile.path) _).bind fun answer => ?_
      cases answer with
      | ok _ => exact spares_pure _
      | error e => exact (requireRecovery_spares hother _ _).map _
  · exact preparingDiverged_spares hother hfile

lemma settleFile_spares (hfile : scope.OtherFile id file) (label : String) :
    scope.Spares start (do
      if ← markFileRolledBack env file now then return none
      else some <$> requireRecovery env id .rollingBack .manualRecoveryRequired label now) := by
  refine (markFileRolledBack_spares (hfile.own ▸ hother.ne)).bind fun marked => ?_
  split
  · exact spares_pure _
  · exact (requireRecovery_spares hother _ _).map _

lemma recoverPreparingFile_spares (hfile : scope.OtherFile id file) :
    scope.Spares start (recoverPreparingFile env id now file) := by
  unfold recoverPreparingFile
  dsimp only
  split
  · refine (recoverPlanned_spares hother hfile).bind fun cleaned => ?_
    cases cleaned with
    | some result => exact spares_pure _
    | none => exact settleFile_spares hother hfile _
  · refine (recoverStaged_spares hother hfile).bind fun cleaned => ?_
    cases cleaned with
    | some result => exact spares_pure _
    | none => exact settleFile_spares hother hfile _
  · refine (preparingDiverged_spares hother hfile).bind fun cleaned => ?_
    cases cleaned with
    | some result => exact spares_pure _
    | none => exact settleFile_spares hother hfile _

lemma recoverPreparingFiles_spares (hlist : ∀ file ∈ list, scope.OtherFile id file) :
    scope.Spares start (recoverPreparingFiles env id now list) := by
  induction list with
  | nil => exact spares_pure _
  | cons file rest ih =>
      refine (recoverPreparingFile_spares hother (hlist file List.mem_cons_self)).bind fun ended => ?_
      cases ended with
      | some result => exact spares_pure _
      | none => exact ih fun other hmem => hlist other (List.mem_cons_of_mem _ hmem)

lemma recoverPreparing_spares (hfiles : ∀ file ∈ files, scope.OtherFile id file) :
    scope.Spares start (recoverPreparing env id now files) := by
  refine (transitionOperation_spares hother _ _).bind fun answer => ?_
  cases answer with
  | error e => exact requireRecovery_spares hother _ _
  | ok wrote =>
      refine (recoverPreparingFiles_spares hother hfiles).bind fun ended => ?_
      cases ended with
      | some result => exact spares_pure _
      | none =>
          refine (transitionOperation_spares hother _ _).bind fun answer => ?_
          cases answer with
          | error e => exact requireRecovery_spares hother _ _
          | ok wrote => exact (finishCleanup_spares hother.ne).bind fun _ => spares_pure _

end Service

section Recovery

variable (hother : scope.Other operation.operationId)
  (hfiles : ∀ file ∈ files, scope.OtherFile operation.operationId file)

include hother

lemma recoveryFailed_spares (reason : GuardedUndoReasonCode) (label : String) :
    scope.Spares start (recoveryFailed env operation reason label) := by
  refine clockNow_spares.bind fun now => ?_
  exact (requireRecovery_spares hother _ _).bind fun _ => spares_pure _

include hfiles

lemma recoverApplied_spares : scope.Spares start (recoverApplied env operation files now) := by
  refine (allFiles_spares fun file hfile => recordAppliedVerified_spares
    ((hfiles file hfile).own ▸ hother.ne)).bind fun recorded => ?_
  dsimp only
  split
  · refine (transitionOperation_spares hother _ _).bind fun transitioned => ?_
    cases recorded with
    | false => exact spares_pure _
    | true =>
        cases transitioned with
        | error e => exact spares_pure _
        | ok wrote =>
            exact settle_spares (transitionOperation_spares hother _ _) (fun e => spares_pure _)
              fun a => spares_pure _
  · refine (spares_pure _).bind fun transitioned => ?_
    cases recorded with
    | false => exact spares_pure _
    | true =>
        cases transitioned with
        | error e => exact spares_pure _
        | ok wrote =>
            exact settle_spares (transitionOperation_spares hother _ _) (fun e => spares_pure _)
              fun a => spares_pure _

lemma recoverPairs_spares : scope.Spares start (recoverPairs env operation files) := by
  refine (allFiles_spares fun file _ => pairIsUnapplied_spares file).bind fun allResult => ?_
  refine (allFiles_spares fun file _ => pairIsApplied_spares file).bind fun allPre => ?_
  refine clockNow_spares.bind fun now => ?_
  have hends : ∀ completed : Bool, scope.Spares start (do
      if completed then return RecoveryOutcome.completed
      else if allResult = true ∨ operation.state = .applying ∨ operation.state = .verifying ∨
          operation.state = .rollingBack then
        ExecuteGuardedUndoResult.outcome <$>
          rollbackOperation env operation.operationId now operation.state files
      else do
        let _ ← requireRecovery env operation.operationId operation.state .manualRecoveryRequired
          "recovery_pair_diverged" now
        return .recoveryRequired) := by
    intro completed
    split
    · exact spares_pure _
    split
    · exact (rollbackOperation_spares hother hfiles).map _
    · exact (requireRecovery_spares hother _ _).bind fun _ => spares_pure _
  dsimp only
  split
  · exact (recoverApplied_spares hother hfiles).bind hends
  · exact (spares_pure _).bind hends

theorem recoverOperation_spares (resolve : WorkspaceId → Option String) :
    scope.Spares start (recoverOperation env resolve operation files) := by
  unfold recoverOperation
  split
  · exact spares_pure _
  refine (getTurnRestoreSet_spares _).bind fun loaded => ?_
  cases loaded with
  | none => exact recoveryFailed_spares hother _ _
  | some loaded =>
      obtain ⟨restore, restoreFiles⟩ := loaded
      dsimp only
      split
      · exact recoveryFailed_spares hother _ _
      refine (acquire_spares _ _ _).bind fun authority => ?_
      cases authority with
      | error reason => exact recoveryFailed_spares hother _ _
      | ok authority =>
          refine (sameRepositoryState_spares _).bind fun same => ?_
          split
          · exact recoveryFailed_spares hother _ _
          split
          · refine clockNow_spares.bind fun now => ?_
            exact (recoverPreparing_spares hother hfiles).map _
          · exact recoverPairs_spares hother hfiles

end Recovery

lemma cleanupOperation_spares (hne : operation.operationId ≠ scope.id) (hapart : ∀ file ∈ files,
    file.pathBytes ∈ scope.paths → file.exchangeArtifactKey ∉ scope.keys)
    (resolve : WorkspaceId → Option String) :
    scope.Spares start (cleanupOperation env resolve operation files) := by
  refine (getTurnRestoreSet_spares _).bind fun loaded => ?_
  cases loaded with
  | none => exact spares_pure _
  | some loaded =>
      obtain ⟨restore, restoreFiles⟩ := loaded
      dsimp only
      split
      · exact spares_pure _
      refine (acquire_spares _ _ _).bind fun authority => ?_
      cases authority with
      | error reason => exact spares_pure _
      | ok authority => exact cleanupAndFinish_spares hne hapart

end DevCommandCenter.GuardedUndo
