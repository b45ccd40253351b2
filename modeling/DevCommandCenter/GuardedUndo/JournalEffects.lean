import DevCommandCenter.GuardedUndo.JournalCalls

/-! What each call on the journal does when it succeeds. -/

namespace DevCommandCenter.GuardedUndo

open Library

variable {encoding : JournalEncoding} {s t : JournalStore}

lemma schemaChecked_eq_ok {α : Type} {x : Except GuardedUndoSchemaError α} {a : α} :
    schemaChecked x = .ok a ↔ x = .ok a :=
  mapError_eq_ok

namespace JournalStore

lemma mem_operationFilesOf {id : UndoOperationId} {file : UndoOperationFile} :
    file ∈ s.operationFilesOf id ↔ file ∈ s.operationFiles.rows ∧ file.operationId = id := by
  simp [operationFilesOf]

lemma mem_restoreFilesOf {id : RestoreSetId} {file : TurnRestoreFile} :
    file ∈ s.restoreFilesOf id ↔ file ∈ s.restoreFiles.rows ∧ file.restoreSetId = id := by
  simp [restoreFilesOf]

lemma loadTurnRestoreSet_ok {id : RestoreSetId} {restoreSet : TurnRestoreSet}
    {files : List TurnRestoreFile}
    (h : s.loadTurnRestoreSet encoding id = .ok (some (restoreSet, files))) :
    restoreSet ∈ s.restoreSets.rows ∧ restoreSet.restoreSetId = id ∧
      files = s.restoreFilesOf id := by
  unfold loadTurnRestoreSet at h
  split at h
  · next found hfound =>
    obtain ⟨-, -, h⟩ := except_bind_eq_ok.mp h
    cases h
    obtain ⟨hmem, hid⟩ := KeyedRows.find?_eq_some.mp hfound
    exact ⟨hmem, hid, rfl⟩
  · cases h

lemma loadUndoOperation_ok {id : UndoOperationId} {operation : UndoOperation}
    {files : List UndoOperationFile}
    (h : s.loadUndoOperation encoding id = .ok (some (operation, files))) :
    ∃ row ∈ s.operations.rows, row.operationId = id ∧ operation = row.toUndoOperation ∧
      files = s.operationFilesOf id := by
  unfold loadUndoOperation at h
  split at h
  · next row hrow =>
    obtain ⟨-, -, h⟩ := except_bind_eq_ok.mp h
    cases h
    obtain ⟨hmem, hid⟩ := KeyedRows.find?_eq_some.mp hrow
    exact ⟨row, hmem, hid, rfl, rfl⟩
  · cases h

lemma bindFiles_ok {operation : UndoOperation} {restoreSet : TurnRestoreSet}
    {keys : List ArtifactKey} {pairs : List (UndoOperationFile × TurnRestoreFile)}
    (h : s.bindFiles operation restoreSet keys pairs = .ok ()) :
    ∀ pair ∈ pairs, pair.1.operationId = operation.operationId ∧
      pair.1.restoreSetId = restoreSet.restoreSetId ∧ pair.1.ordinal = pair.2.ordinal ∧
      pair.1.pathBytes = pair.2.pathBytes ∧ pair.1.preSize = pair.2.preSize ∧
      pair.1.preSha256 = pair.2.preSha256 := by
  induction pairs generalizing keys with
  | nil => simp
  | cons pair rest ih =>
      obtain ⟨journal, restored⟩ := pair
      simp only [bindFiles, except_bind_eq_ok, Unique.exists_iff, refuse_eq_ok, not_or, not_not] at h
      obtain ⟨⟨hop, hset, hordinal, hpath, -, -⟩, bound, hbound, ⟨-, hsize, hhash, -⟩, hrest⟩ := h
      intro pair' hpair'
      rcases List.mem_cons.mp hpair' with rfl | hmem
      · exact ⟨hop, hset, hordinal, hpath, hsize, hhash⟩
      · exact ih hrest pair' hmem

lemma validateOperationManifestBinding_ok {operation : UndoOperation}
    {operationFiles : List UndoOperationFile} {restoreSet : TurnRestoreSet}
    {restoreFiles : List TurnRestoreFile}
    (h : s.validateOperationManifestBinding encoding operation operationFiles restoreSet
      restoreFiles = .ok ()) :
    operation.restoreSetId = restoreSet.restoreSetId ∧
      operationFiles.length = restoreFiles.length ∧
      validateRestoreSetManifest encoding.sha256 restoreSet restoreFiles = .ok () ∧
      s.bindFiles operation restoreSet [] (operationFiles.zip restoreFiles) = .ok () := by
  simp only [validateOperationManifestBinding, except_bind_eq_ok, Unique.exists_iff, refuse_eq_ok,
    schemaChecked_eq_ok, not_or, not_not] at h
  obtain ⟨⟨-, -, hset, -, hlength, -⟩, -, -, -, -, -, -, hmanifest, hfiles⟩ := h
  exact ⟨hset, hlength, hmanifest, hfiles⟩

def Covers (operationFiles : List UndoOperationFile) (restoreFiles : List TurnRestoreFile) : Prop :=
  ∀ restored ∈ restoreFiles, ∃ journal ∈ operationFiles,
    journal.ordinal = restored.ordinal ∧ journal.pathBytes = restored.pathBytes

lemma covers_of_binding {operation : UndoOperation} {operationFiles : List UndoOperationFile}
    {restoreSet : TurnRestoreSet} {restoreFiles : List TurnRestoreFile}
    (h : s.validateOperationManifestBinding encoding operation operationFiles restoreSet
      restoreFiles = .ok ()) : Covers operationFiles restoreFiles := by
  obtain ⟨-, hlength, -, hfiles⟩ := validateOperationManifestBinding_ok h
  intro restored hrestored
  obtain ⟨i, hi, rfl⟩ := List.getElem_of_mem hrestored
  have hi' : i < operationFiles.length := hlength ▸ hi
  have hmem : (operationFiles[i], restoreFiles[i]) ∈ operationFiles.zip restoreFiles := by
    rw [← List.getElem_zip (h := by simpa using ⟨hi', hi⟩)]
    exact List.getElem_mem _
  obtain ⟨-, -, hordinal, hpath, -⟩ := bindFiles_ok hfiles _ hmem
  exact ⟨operationFiles[i], List.getElem_mem hi', hordinal, hpath⟩

end JournalStore

open JournalStore

structure Created (encoding : JournalEncoding) (operation : UndoOperation)
    (files : List UndoOperationFile) (s t : JournalStore) : Prop where
  preparing : operation.state = .preparing
  active : operation.active = true
  planned : ∀ file ∈ files, file.operationId = operation.operationId ∧ file.state = .planned
  ordinals : ∀ i (hi : i < files.length), files[i].ordinal = i
  loaded : ∃ restoreSet restoreFiles,
    s.loadTurnRestoreSet encoding operation.restoreSetId = .ok (some (restoreSet, restoreFiles)) ∧
      restoreSet.state = .eligible ∧
      s.validateOperationManifestBinding encoding operation files restoreSet restoreFiles = .ok ()
  alone : ∀ row ∈ s.operations.rows, row.active = true → row.restoreSetId ≠ operation.restoreSetId
  fresh : ∀ row ∈ s.operations.rows, row.operationId ≠ operation.operationId
  operations : t.operations.rows =
    s.operations.rows ++ [{ operation with cleanupPending := true }]
  operationFiles : t.operationFiles.rows = s.operationFiles.rows ++ files
  restoreSets : t.restoreSets = s.restoreSets
  restoreFiles : t.restoreFiles = s.restoreFiles

structure FileMoved (current next : UndoOperationFile) (s t : JournalStore) : Prop where
  mem : current ∈ s.operationFiles.rows
  owner : ∃ row ∈ s.operations.rows, row.operationId = current.operationId ∧ row.active = true
  steps : current.state.stepsTo next.state = true
  identity : sameFileIdentity current next
  staged : current.stagedMetadata = next.stagedMetadata ∨ current.stagedMetadata = none
  valid : next.validate = .ok ()
  operationFiles : t.operationFiles.rows = s.operationFiles.rows.map fun file =>
    if file.operationId = next.operationId ∧ file.ordinal = next.ordinal then next else file
  operations : t.operations = s.operations
  restoreSets : t.restoreSets = s.restoreSets
  restoreFiles : t.restoreFiles = s.restoreFiles

structure OperationMoved (row : UndoOperationRow) (next : UndoOperationState)
    (reason : Option GuardedUndoReasonCode) (details : Option RecoveryDetailsV1)
    (updatedAt : String) (s t : JournalStore) : Prop where
  mem : row ∈ s.operations.rows
  steps : row.state.stepsTo next = true
  filesReady : checkNextFiles next (s.operationFilesOf row.operationId) = .ok ()
  operations : t.operations.rows = s.operations.rows.map fun other =>
    if other.operationId = row.operationId then
      other.withTransition next reason details updatedAt
    else other
  operationFiles : t.operationFiles = s.operationFiles
  restoreSets : if next = .completed then
      (∃ restoreSet ∈ s.restoreSets.rows, restoreSet.restoreSetId = row.restoreSetId ∧
        restoreSet.state = .eligible) ∧
      t.restoreSets.rows = s.restoreSets.rows.map fun restoreSet =>
        if restoreSet.restoreSetId = row.restoreSetId then
          { restoreSet with
            state := .consumed, reasonCode := none, completedAt := some updatedAt }
        else restoreSet
    else t.restoreSets = s.restoreSets
  restoreFiles : t.restoreFiles = s.restoreFiles

lemma checkNewOperation_ok {operation : UndoOperation} {files : List UndoOperationFile}
    (h : checkNewOperation operation files = .ok ()) :
    operation.state = .preparing ∧ operation.active = true ∧
      (∀ file ∈ files, file.operationId = operation.operationId ∧ file.state = .planned) ∧
      ∀ i (hi : i < files.length), files[i].ordinal = i := by
  simp only [checkNewOperation, except_bind_eq_ok, Unique.exists_iff, refuse_eq_ok,
    schemaChecked_eq_ok, not_not, Bool.not_eq_false] at h
  obtain ⟨-, hpreparing, hactive, -, hfiles⟩ := h
  have hfile : ∀ i (hi : i < files.length), files[i].operationId = operation.operationId ∧
      files[i].state = .planned ∧ files[i].ordinal = i := by
    intro i hi
    have hnew := forM_eq_ok.mp hfiles (files[i], i) (List.mem_zipIdx_iff_getElem?.mpr (by simp [hi]))
    simp only [checkNewFile, except_bind_eq_ok, Unique.exists_iff, refuse_eq_ok,
      schemaChecked_eq_ok, not_or, not_not] at hnew
    obtain ⟨-, ⟨howner, hordinal⟩, hplanned, -⟩ := hnew
    exact ⟨howner, hplanned, hordinal⟩
  refine ⟨hpreparing, hactive, fun file hmem => ?_, fun i hi => (hfile i hi).2.2⟩
  obtain ⟨i, hi, rfl⟩ := List.getElem_of_mem hmem
  exact ⟨(hfile i hi).1, (hfile i hi).2.1⟩

lemma checkCreate_ok {operation : UndoOperation} {files : List UndoOperationFile}
    (h : checkCreate encoding s operation files = .ok ()) : ∃ restoreSet restoreFiles,
      s.loadTurnRestoreSet encoding operation.restoreSetId = .ok (some (restoreSet, restoreFiles)) ∧
        restoreSet.state = .eligible ∧ s.validateOperationManifestBinding encoding operation files
          restoreSet restoreFiles = .ok () := by
  simp only [checkCreate, except_bind_eq_ok, Unique.exists_iff, refuse_eq_ok, demand_eq_ok,
    not_not] at h
  obtain ⟨loaded, hload, ⟨restoreSet, restoreFiles⟩, rfl, heligible, -, -, hbound⟩ := h
  exact ⟨restoreSet, restoreFiles, hload, heligible, hbound⟩

lemma insertUndoOperation_ok {operation : UndoOperation}
    (h : insertUndoOperation encoding operation s = (.ok (), t)) :
    (∀ row ∈ s.operations.rows, row.active = true → row.restoreSetId ≠ operation.restoreSetId) ∧
      (∀ row ∈ s.operations.rows, row.operationId ≠ operation.operationId) ∧
      ∃ operations, t = { s with operations := operations } ∧ operations.rows =
        s.operations.rows ++ [{ operation with active := true, cleanupPending := true }] := by
  replace h := Call.read_bind_ok_iff.mp h
  obtain ⟨_, hcheck, h⟩ := Call.liftExcept_bind_ok_iff.mp h
  obtain ⟨operations, hinsert, h⟩ := Call.liftExcept_bind_ok_iff.mp h
  cases h
  obtain ⟨hfresh, hrows⟩ := KeyedRows.insert_eq_some.mp (demand_eq_ok.mp hinsert)
  simp only [checkOperationColumns, except_bind_eq_ok, Unique.exists_iff, refuse_eq_ok] at hcheck
  refine ⟨fun row hrow hactive hset => hcheck.2.1 ⟨row, hrow, hactive, hset⟩, hfresh,
    operations, rfl, hrows⟩

lemma insertUndoOperationFile_ok {file : UndoOperationFile}
    (h : insertUndoOperationFile encoding file s = (.ok (), t)) :
    ∃ operationFiles, t = { s with operationFiles := operationFiles } ∧
      operationFiles.rows = s.operationFiles.rows ++ [file] := by
  replace h := Call.read_bind_ok_iff.mp h
  obtain ⟨_, -, h⟩ := Call.liftExcept_bind_ok_iff.mp h
  obtain ⟨operationFiles, hinsert, h⟩ := Call.liftExcept_bind_ok_iff.mp h
  cases h
  obtain ⟨-, hrows⟩ := KeyedRows.insert_eq_some.mp (demand_eq_ok.mp hinsert)
  exact ⟨operationFiles, rfl, hrows⟩

lemma insertUndoOperationFiles_ok {files : List UndoOperationFile}
    (h : insertUndoOperationFiles encoding files s = (.ok (), t)) :
    ∃ operationFiles, t = { s with operationFiles := operationFiles } ∧
      operationFiles.rows = s.operationFiles.rows ++ files := by
  induction files generalizing s with
  | nil =>
      cases h
      exact ⟨_, rfl, (List.append_nil _).symm⟩
  | cons file rest ih =>
      obtain ⟨_, u, hinsert, h⟩ := Call.bind_ok_iff.mp h
      obtain ⟨inserted, hu, hrows⟩ := insertUndoOperationFile_ok hinsert
      obtain ⟨operationFiles, ht, hrest⟩ := ih h
      rw [hu] at ht hrest
      refine ⟨operationFiles, ht, ?_⟩
      rw [hrest, hrows, List.append_assoc, List.singleton_append]

theorem createUndoOperation_ok {operation : UndoOperation} {files : List UndoOperationFile}
    (h : createUndoOperation encoding operation files s = (.ok (), t)) :
    Created encoding operation files s t := by
  obtain ⟨_, hnew, h⟩ := Call.liftExcept_bind_ok_iff.mp h
  replace h := Call.read_bind_ok_iff.mp (Call.atomically_ok_iff.mp h)
  obtain ⟨_, hcheck, h⟩ := Call.liftExcept_bind_ok_iff.mp h
  obtain ⟨_, _, hinsert, h⟩ := Call.bind_ok_iff.mp h
  obtain ⟨halone, hfresh, operations, rfl, hoperations⟩ := insertUndoOperation_ok hinsert
  obtain ⟨operationFiles, rfl, hfiles⟩ := insertUndoOperationFiles_ok h
  obtain ⟨hpreparing, hactive, hplanned, hordinals⟩ := checkNewOperation_ok hnew
  exact {
    preparing := hpreparing
    active := hactive
    planned := hplanned
    ordinals := hordinals
    loaded := checkCreate_ok hcheck
    alone := halone
    fresh := hfresh
    operations := by rw [hoperations, ← hactive]
    operationFiles := hfiles
    restoreSets := rfl
    restoreFiles := rfl }

lemma loadActiveOperation_ok {id : UndoOperationId} {files : List UndoOperationFile}
    (h : loadActiveOperation encoding s id = .ok files) :
    ∃ row ∈ s.operations.rows, row.operationId = id ∧ row.active = true ∧
      files = s.operationFilesOf id := by
  simp only [loadActiveOperation, except_bind_eq_ok, Unique.exists_iff, refuse_eq_ok, demand_eq_ok,
    Bool.not_eq_false] at h
  obtain ⟨loaded, hload, ⟨operation, files'⟩, rfl, hactive, -, -, -, -, -, h⟩ := h
  cases h
  obtain ⟨row, hrow, hid, rfl, hfiles⟩ := loadUndoOperation_ok hload
  exact ⟨row, hrow, hid, hactive, hfiles⟩

lemma loadBoundOperation_ok {id : UndoOperationId} {missing : String} {operation : UndoOperation}
    {files : List UndoOperationFile}
    (h : loadBoundOperation encoding s id missing = .ok (operation, files)) :
    ∃ row ∈ s.operations.rows, row.operationId = id ∧ operation = row.toUndoOperation ∧
      files = s.operationFilesOf id := by
  simp only [loadBoundOperation, except_bind_eq_ok, Unique.exists_iff, demand_eq_ok] at h
  obtain ⟨loaded, hload, ⟨operation', files'⟩, rfl, -, -, -, -, -, h⟩ := h
  cases h
  exact loadUndoOperation_ok hload

lemma sameFileIdentity.refl (file : UndoOperationFile) : sameFileIdentity file file :=
  ⟨rfl, rfl, rfl, rfl, rfl, rfl, rfl, rfl, rfl, rfl, rfl⟩

lemma sameFileIdentity.trans {a b c : UndoOperationFile} (h : sameFileIdentity a b)
    (h' : sameFileIdentity b c) : sameFileIdentity a c := by
  unfold sameFileIdentity at *
  simp_all

lemma withTransition_eq {current next : UndoOperationFile} (h : sameFileIdentity current next) :
    current.withTransition next = next := by
  obtain ⟨hid, hset, hordinal, hpath, hkey, hsize, hhash, hmetadata, hpre, hsha, hchain⟩ := h
  cases current
  cases next
  simp_all [UndoOperationFile.withTransition]

theorem transitionUndoOperationFile_ok {expected : UndoOperationFileState}
    {next : UndoOperationFile} {wrote : Bool}
    (h : transitionUndoOperationFile encoding expected next s = (.ok wrote, t)) :
    (wrote = false ∧ t = s ∧ next ∈ s.operationFiles.rows) ∨
      (wrote = true ∧ ∃ current, current.state = expected ∧ FileMoved current next s t) := by
  obtain ⟨_, hvalid, h⟩ := Call.liftExcept_bind_ok_iff.mp h
  obtain ⟨_, -, h⟩ := Call.liftExcept_bind_ok_iff.mp h
  replace h := Call.read_bind_ok_iff.mp (Call.atomically_ok_iff.mp h)
  obtain ⟨files, hload, h⟩ := Call.liftExcept_bind_ok_iff.mp h
  obtain ⟨current, hcurrent, h⟩ := Call.liftExcept_bind_ok_iff.mp h
  obtain ⟨row, hrow, hid, hactive, hfiles⟩ := loadActiveOperation_ok hload
  have hfind := demand_eq_ok.mp hcurrent
  rw [hfiles] at hfind
  have hordinal : current.ordinal = next.ordinal := by simpa using List.find?_some hfind
  obtain ⟨hmem, howner⟩ := mem_operationFilesOf.mp (List.mem_of_find?_eq_some hfind)
  split at h
  · obtain ⟨_, hsame, h⟩ := Call.liftExcept_bind_ok_iff.mp h
    cases h
    have heq : current = next := not_not.mp (refuse_eq_ok.mp hsame)
    exact .inl ⟨rfl, rfl, heq ▸ hmem⟩
  · next hne =>
    obtain ⟨_, hcheck, h⟩ := Call.liftExcept_bind_ok_iff.mp h
    simp only [checkFileTransition, except_bind_eq_ok, Unique.exists_iff, refuse_eq_ok, not_or,
      not_and, not_not, Bool.not_eq_false] at hcheck
    obtain ⟨⟨hexpected, hcan⟩, ⟨hidentity, hstaged⟩, -⟩ := hcheck
    obtain ⟨_, _, hwrite, h⟩ := Call.bind_ok_iff.mp h
    cases h
    replace h := Call.read_bind_ok_iff.mp hwrite
    replace h := Call.update_bind_ok_iff.mp h
    obtain ⟨-, rfl⟩ := Call.liftExcept_ok_iff.mp h
    refine .inr ⟨rfl, current, hexpected, {
      mem := hmem
      owner := ⟨row, hrow, hid.trans howner.symm, hactive⟩
      steps := UndoOperationFileState.stepsTo_of_canTransitionTo hcan hne
      identity := hidentity
      staged := ?_
      valid := schemaChecked_eq_ok.mp hvalid
      operationFiles := ?_
      operations := rfl
      restoreSets := rfl
      restoreFiles := rfl }⟩
    · by_cases hsame : current.stagedMetadata = next.stagedMetadata
      · exact .inl hsame
      · have hstages := hstaged hsame
        simp only [stagesFile, Bool.and_eq_true, decide_eq_true_eq] at hstages
        exact .inr hstages.1.2.2
    · apply List.map_congr_left
      intro file hfile
      by_cases hkey : file.operationId = next.operationId ∧ file.ordinal = next.ordinal
      · have hfile' : file = current := s.operationFiles.eq_of_key hfile hmem
          (Prod.ext (hkey.1.trans howner.symm) (hkey.2.trans hordinal.symm))
        subst hfile'
        rw [if_pos (by simp [hkey.1, hkey.2, hexpected]), if_pos hkey]
        exact withTransition_eq hidentity
      · rw [if_neg hkey, if_neg]
        simp only [decide_eq_true_eq]
        exact fun hselected => hkey ⟨hselected.1, hselected.2.1⟩

lemma consumeRestoreSet_ok {id : RestoreSetId} {updatedAt : String}
    (h : consumeRestoreSet id updatedAt s = (.ok (), t)) :
    (∃ restoreSet ∈ s.restoreSets.rows, restoreSet.restoreSetId = id ∧
      restoreSet.state = .eligible) ∧
      ∃ restoreSets, t = { s with restoreSets := restoreSets } ∧
        restoreSets.rows = s.restoreSets.rows.map fun restoreSet =>
          if restoreSet.restoreSetId = id then
            { restoreSet with
              state := .consumed, reasonCode := none, completedAt := some updatedAt }
          else restoreSet := by
  replace h := Call.update_bind_ok_iff.mp (Call.read_bind_ok_iff.mp h)
  obtain ⟨hchanged, rfl⟩ := Call.liftExcept_ok_iff.mp h
  have hone := not_not.mp (refuse_eq_ok.mp hchanged)
  obtain ⟨eligible, hmem, hselected⟩ := List.countP_pos_iff.mp (Nat.lt_of_lt_of_eq Nat.one_pos hone.symm)
  simp only [decide_eq_true_eq] at hselected
  refine ⟨⟨eligible, hmem, hselected⟩, _, rfl, ?_⟩
  apply List.map_congr_left
  intro restoreSet hrestoreSet
  by_cases hid : restoreSet.restoreSetId = id
  · have heq : restoreSet = eligible := s.restoreSets.eq_of_key hrestoreSet hmem
      (hid.trans hselected.1.symm)
    rw [if_pos (decide_eq_true (heq ▸ hselected)), if_pos hid]
  · rw [if_neg (by simp [hid]), if_neg hid]

lemma writeOperationTransition_ok {row : UndoOperationRow} (hmem : row ∈ s.operations.rows)
    {next : UndoOperationState} {reason : Option GuardedUndoReasonCode}
    {details : Option RecoveryDetailsV1} {updatedAt : String}
    (h : writeOperationTransition encoding row.operationId row.state next reason details updatedAt s
      = (.ok (), t)) : ∃ operations, t = { s with operations := operations } ∧
        operations.rows = s.operations.rows.map fun other =>
          if other.operationId = row.operationId then
            other.withTransition next reason details updatedAt
          else other := by
  obtain ⟨_, -, h⟩ := Call.liftExcept_bind_ok_iff.mp h
  replace h := Call.update_bind_ok_iff.mp (Call.read_bind_ok_iff.mp h)
  obtain ⟨-, rfl⟩ := Call.liftExcept_ok_iff.mp h
  refine ⟨_, rfl, ?_⟩
  apply List.map_congr_left
  intro other hother
  by_cases hid : other.operationId = row.operationId
  · have heq : other = row := s.operations.eq_of_key hother hmem hid
    rw [if_pos (by simp [heq]), if_pos hid]
  · rw [if_neg (by simp [hid]), if_neg hid]

theorem transitionUndoOperation_ok {id : UndoOperationId} {expected next : UndoOperationState}
    {reason : Option GuardedUndoReasonCode} {details : Option RecoveryDetailsV1}
    {updatedAt : String} {wrote : Bool}
    (h : transitionUndoOperation encoding id expected next reason details updatedAt s =
      (.ok wrote, t)) : ∃ row ∈ s.operations.rows, row.operationId = id ∧
        ((wrote = false ∧ t = s ∧ row.state = next) ∨
          (wrote = true ∧ row.state = expected ∧
            OperationMoved row next reason details updatedAt s t)) := by
  obtain ⟨_, -, h⟩ := Call.liftExcept_bind_ok_iff.mp h
  obtain ⟨_, -, h⟩ := Call.liftExcept_bind_ok_iff.mp h
  obtain ⟨_, -, h⟩ := Call.liftExcept_bind_ok_iff.mp h
  replace h := Call.read_bind_ok_iff.mp (Call.atomically_ok_iff.mp h)
  obtain ⟨row, hfind, h⟩ := Call.liftExcept_bind_ok_iff.mp h
  obtain ⟨_, -, h⟩ := Call.liftExcept_bind_ok_iff.mp h
  obtain ⟨⟨operation, files⟩, hload, h⟩ := Call.liftExcept_bind_ok_iff.mp h
  obtain ⟨hrow, hid⟩ := KeyedRows.find?_eq_some.mp (demand_eq_ok.mp hfind)
  obtain ⟨-, -, -, -, hfiles⟩ := loadBoundOperation_ok hload
  refine ⟨row, hrow, hid, ?_⟩
  dsimp only at h
  split at h
  · next hsame =>
    obtain ⟨_, -, h⟩ := Call.liftExcept_bind_ok_iff.mp h
    cases h
    exact .inl ⟨rfl, rfl, hsame⟩
  · next hne =>
    obtain ⟨_, hcas, h⟩ := Call.liftExcept_bind_ok_iff.mp h
    obtain ⟨_, -, h⟩ := Call.liftExcept_bind_ok_iff.mp h
    obtain ⟨_, hready, h⟩ := Call.liftExcept_bind_ok_iff.mp h
    obtain ⟨_, u, hwrite, h⟩ := Call.bind_ok_iff.mp h
    simp only [refuse_eq_ok, not_or, not_not, Bool.not_eq_false] at hcas
    rw [← hid, ← hcas.1] at hwrite
    obtain ⟨operations, hu, hoperations⟩ := writeOperationTransition_ok hrow hwrite
    rw [hfiles, ← hid] at hready
    have hsteps := UndoOperationState.stepsTo_of_canTransitionTo hcas.2 hne
    split at h
    · next hcompleted =>
      obtain ⟨_, v, hconsume, h⟩ := Call.bind_ok_iff.mp h
      cases h
      obtain ⟨heligible, restoreSets, hv, hrestoreSets⟩ := consumeRestoreSet_ok hconsume
      rw [hu] at hv heligible hrestoreSets
      rw [hv]
      exact .inr ⟨rfl, hcas.1, hrow, hsteps, hready, hoperations, rfl, by
        rw [if_pos hcompleted]
        exact ⟨heligible, hrestoreSets⟩, rfl⟩
    · next hcompleted =>
      cases h
      rw [hu]
      exact .inr ⟨rfl, hcas.1, hrow, hsteps, hready, hoperations, rfl, by
        rw [if_neg hcompleted], rfl⟩

end DevCommandCenter.GuardedUndo
