import DevCommandCenter.GuardedUndo.JournalAccepts
import DevCommandCenter.GuardedUndo.LoadedSets
import DevCommandCenter.GuardedUndo.RestoreService
import Mathlib.Data.List.ReduceOption

/-! The completed undos of a path as sources of a chained restore, and the result that prepare and
execute expect of a target. -/

namespace DevCommandCenter.GuardedUndo

open Library

variable {encoding : JournalEncoding} {s : JournalStore} {workspaceId : WorkspaceId}
  {rootId : PhysicalRootId} {path : OpaqueRepoPath}

structure JournalStore.WellKept (encoding : JournalEncoding) (s : JournalStore) : Prop where
  owned : ∀ file ∈ s.operationFiles.rows, ∃ row ∈ s.operations.rows,
    row.operationId = file.operationId
  paths : ∀ file ∈ s.operationFiles.rows, ∀ other ∈ s.operationFiles.rows,
    file.operationId = other.operationId → file.pathBytes = other.pathBytes → file = other
  names : ∀ row ∈ s.operations.rows, isBlank row.operationId.value = false ∧
    1 ≤ row.operationId.value.length ∧ row.operationId.value.length ≤ 256
  identities : ∀ row ∈ s.operations.rows, row.preparedIdentity.validate = .ok ()
  staged : ∀ file ∈ s.operationFiles.rows, ∀ m ∈ file.stagedMetadata,
    m.validate = .ok () ∧ fitsColumn encoding.metadataJson 4096 (some m) = true

namespace JournalStore

structure Undone (s : JournalStore) (workspaceId : WorkspaceId) (rootId : PhysicalRootId)
    (path : OpaqueRepoPath) (file : UndoOperationFile) (row : UndoOperationRow)
    (restoreSet : TurnRestoreSet) : Prop where
  rowMem : row ∈ s.operations.rows
  rowId : row.operationId = file.operationId
  setMem : restoreSet ∈ s.restoreSets.rows
  setId : restoreSet.restoreSetId = file.restoreSetId
  ownSet : row.restoreSetId = file.restoreSetId
  completed : row.state = .completed
  inactive : row.active = false
  verified : file.state = .verified
  outcome : file.verificationOutcome = .verified
  staged : file.stagedMetadata.isSome = true
  workspace : restoreSet.workspaceId = workspaceId
  root : restoreSet.rootId = some rootId
  ownPath : file.pathBytes = path

lemma chainRow_eq_some {operationId : Option UndoOperationId} {file : UndoOperationFile}
    {entry : UndoOperationFile × UndoOperation} :
    s.chainRow workspaceId rootId path operationId file = some entry ↔
      ∃ row restoreSet, entry = (file, row.toUndoOperation) ∧
        s.Undone workspaceId rootId path file row restoreSet ∧
        operationId.all (· = file.operationId) = true := by
  simp only [chainRow, Option.bind_eq_bind, Option.bind_eq_some_iff, KeyedRows.find?_eq_some]
  constructor
  · rintro ⟨row, ⟨hrow, hrowId⟩, restoreSet, ⟨hset, hsetId⟩, hentry⟩
    split at hentry
    · next hjoin =>
      obtain ⟨hown, hcompleted, hinactive, hverified, houtcome, hstaged, hworkspace, hroot, hpath,
        hall⟩ := hjoin
      cases hentry
      exact ⟨row, restoreSet, rfl, ⟨hrow, hrowId, hset, hsetId, hown, hcompleted, hinactive,
        hverified, houtcome, hstaged, hworkspace, hroot, hpath⟩, hall⟩
    · cases hentry
  · rintro ⟨row, restoreSet, rfl, h, hall⟩
    refine ⟨row, ⟨h.rowMem, h.rowId⟩, restoreSet, ⟨h.setMem, h.setId⟩, ?_⟩
    rw [if_pos ⟨h.ownSet, h.completed, h.inactive, h.verified, h.outcome, h.staged, h.workspace,
      h.root, h.ownPath, hall⟩]

lemma mem_undone {operationId : Option UndoOperationId} {entry : UndoOperationFile × UndoOperation} :
    entry ∈ s.undone workspaceId rootId path operationId ↔
      ∃ file ∈ s.operationFiles.rows, ∃ row restoreSet, entry = (file, row.toUndoOperation) ∧
        s.Undone workspaceId rootId path file row restoreSet ∧
        operationId.all (· = file.operationId) = true := by
  simp only [undone, List.mem_filterMap, chainRow_eq_some]

def sourceOf (workspaceId : WorkspaceId) (row : UndoOperationRow) (file : UndoOperationFile)
    (staged : RegularFileMetadataV1) : UndoChainSource where
  operationId := file.operationId
  restoreSetId := file.restoreSetId
  workspaceId := workspaceId
  rootId := row.preparedIdentity.rootId
  git := row.preparedIdentity.git
  pathBytes := file.pathBytes
  preSize := file.preSize
  preSha256 := file.preSha256
  stagedMetadata := staged

lemma chainSource_ok (hkept : s.WellKept encoding) {file : UndoOperationFile}
    (hfile : file ∈ s.operationFiles.rows) {row : UndoOperationRow} {restoreSet : TurnRestoreSet}
    (h : s.Undone workspaceId rootId path file row restoreSet) :
    ∃ staged, file.stagedMetadata = some staged ∧
      chainSource workspaceId rootId path (file, row.toUndoOperation) =
        .ok (if row.preparedIdentity.rootId = rootId then some (sourceOf workspaceId row file staged)
          else none) := by
  obtain ⟨staged, hstaged⟩ := Option.isSome_iff_exists.mp h.staged
  refine ⟨staged, hstaged, ?_⟩
  simp only [chainSource, except_bind_eq_ok, Unique.exists_iff, schemaChecked_eq_ok, demand_eq_ok]
  refine ⟨hkept.identities row h.rowMem, staged, hstaged, (hkept.staged file hfile staged hstaged).1,
    ?_⟩
  by_cases hroot : row.preparedIdentity.rootId = rootId
  · simp only [hroot, ne_eq, not_true_eq_false, if_false, if_true, sourceOf, h.ownPath]
    rfl
  · simp only [ne_eq, hroot, not_false_eq_true, if_true, if_false]
    rfl

lemma mem_of_chainRows {operationId : Option UndoOperationId}
    {entry : UndoOperationFile × UndoOperation}
    (h : entry ∈ s.chainRows workspaceId rootId path operationId) :
    entry ∈ s.undone workspaceId rootId path operationId :=
  (List.mem_insertionSort _).mp (List.mem_of_mem_take h)

lemma query_ok (hkept : s.WellKept encoding) (workspaceId : WorkspaceId) (rootId : PhysicalRootId)
    (path : OpaqueRepoPath) (operationId : Option UndoOperationId) :
    ∃ sources, s.queryUndoChainSources workspaceId rootId path operationId = .ok sources ∧
      ∀ source, source ∈ sources ↔ ∃ entry ∈ s.chainRows workspaceId rootId path operationId,
        chainSource workspaceId rootId path entry = .ok (some source) := by
  obtain ⟨found, hfound⟩ := exists_mapM_eq_ok
    (f := chainSource workspaceId rootId path) (l := s.chainRows workspaceId rootId path operationId)
    (by
      intro entry hentry
      obtain ⟨file, hfile, row, restoreSet, rfl, h, -⟩ := mem_undone.mp (mem_of_chainRows hentry)
      obtain ⟨_, -, hok⟩ := chainSource_ok hkept hfile h
      exact ⟨_, hok⟩)
  refine ⟨found.reduceOption, ?_, fun source => ?_⟩
  · simp only [queryUndoChainSources, except_bind_eq_ok]
    exact ⟨found, hfound, rfl⟩
  · rw [List.reduceOption_mem_iff]
    exact mem_of_mapM_eq_ok hfound

lemma source_of_operation (hkept : s.WellKept encoding) {entry : UndoOperationFile × UndoOperation}
    (hentry : entry ∈ s.chainRows workspaceId rootId path none) {source : UndoChainSource}
    (hsource : chainSource workspaceId rootId path entry = .ok (some source)) :
    ∃ sources, s.queryUndoChainSources workspaceId rootId path (some source.operationId) =
      .ok sources ∧ source ∈ sources := by
  obtain ⟨sources, hquery, hmem⟩ :=
    query_ok hkept workspaceId rootId path (some source.operationId)
  refine ⟨sources, hquery, (hmem source).mpr ?_⟩
  obtain ⟨file, hfile, row, restoreSet, rfl, h, -⟩ := mem_undone.mp (mem_of_chainRows hentry)
  have hid : source.operationId = file.operationId := by
    obtain ⟨staged, -, hok⟩ := chainSource_ok hkept hfile h
    rw [hok] at hsource
    split at hsource
    · cases hsource
      rfl
    · cases hsource
  have hown : (file, row.toUndoOperation) ∈
      s.undone workspaceId rootId path (some source.operationId) :=
    mem_undone.mpr ⟨file, hfile, row, restoreSet, rfl, h, by simp [hid]⟩
  have honly : ∀ other ∈ s.chainRows workspaceId rootId path (some source.operationId),
      other = (file, row.toUndoOperation) := by
    intro other hother
    obtain ⟨file', hfile', row', _, rfl, h', hall⟩ := mem_undone.mp (mem_of_chainRows hother)
    have hid' : file.operationId = file'.operationId := by simpa [← hid] using hall
    have hsame := hkept.paths file hfile file' hfile' hid' (h.ownPath.trans h'.ownPath.symm)
    subst hsame
    rw [s.operations.eq_of_key h'.rowMem h.rowMem (h'.rowId.trans h.rowId.symm)]
  have hsome : s.chainRows workspaceId rootId path (some source.operationId) ≠ [] := by
    intro hnil
    have hlength := congrArg List.length hnil
    have hpos := List.length_pos_of_mem hown
    rw [undone] at hpos
    simp only [chainRows, List.length_take, List.length_insertionSort, List.length_nil] at hlength
    omega
  obtain ⟨other, hother⟩ := List.exists_mem_of_ne_nil _ hsome
  exact ⟨other, hother, by rw [honly other hother]; exact hsource⟩

def expectedIn (s : JournalStore) (binding : ResultBinding) (restore : TurnRestoreSet)
    (file : TurnRestoreFile) (current : FileEvidence) :
    Except GuardedUndoReasonCode ExpectedResult :=
  if matchesResult current file then .ok { evidence := current, chainedFrom := none }
  else if binding = .turnResult ∨ current.size ≠ file.resultSize ∨
      current.sha256 ≠ file.resultSha256 then
    .error .targetResultMismatch
  else
    match restore.rootId with
    | none => .error .invalidPersistedRecord
    | some rootId =>
        match s.queryUndoChainSources restore.workspaceId rootId file.pathBytes none with
        | .error _ => .error .invalidPersistedRecord
        | .ok sources =>
            match sources.find? fun source =>
                chainedResultIsBound restore file source current.metadata with
            | some source => .ok { evidence := current, chainedFrom := some source.operationId }
            | none => .error .targetResultMismatch

variable {binding : ResultBinding} {restore : TurnRestoreSet} {file : TurnRestoreFile}
  {current : FileEvidence} {expected : ExpectedResult}

lemma expectedIn_ok (h : s.expectedIn binding restore file current = .ok expected) :
    expected.evidence = current ∧ current.size = file.resultSize ∧
      current.sha256 = file.resultSha256 ∧
      ((expected.chainedFrom = none ∧ current.metadata = file.metadataFingerprint) ∨
        ∃ rootId sources source, restore.rootId = some rootId ∧
          s.queryUndoChainSources restore.workspaceId rootId file.pathBytes none = .ok sources ∧
          source ∈ sources ∧ chainedResultIsBound restore file source current.metadata = true ∧
          expected.chainedFrom = some source.operationId) := by
  unfold expectedIn at h
  split at h
  · next hmatches =>
    cases h
    simp only [matchesResult, decide_eq_true_eq] at hmatches
    exact ⟨rfl, hmatches.1, hmatches.2.1, .inl ⟨rfl, hmatches.2.2⟩⟩
  · split at h
    · cases h
    · next hbytes =>
      simp only [not_or, not_not] at hbytes
      split at h
      · cases h
      · next rootId hroot =>
        split at h
        · cases h
        · next sources hquery =>
          split at h
          · next source hfind =>
            cases h
            have hbound : chainedResultIsBound restore file source current.metadata = true := by
              simpa using List.find?_some hfind
            exact ⟨rfl, hbytes.2.1, hbytes.2.2, .inr ⟨rootId, sources, source, hroot, hquery,
              List.mem_of_find?_eq_some hfind, hbound, rfl⟩⟩
          · cases h

variable (current) in
lemma expectedIn_of_source (hsize : current.size = file.resultSize)
    (hhash : current.sha256 = file.resultSha256) (hroot : restore.rootId = some rootId)
    {sources : List UndoChainSource}
    (hquery : s.queryUndoChainSources restore.workspaceId rootId file.pathBytes none = .ok sources)
    {source : UndoChainSource} (hsource : source ∈ sources)
    (hbound : chainedResultIsBound restore file source current.metadata = true) :
    ∃ expected, s.expectedIn .afterCompletedUndo restore file current = .ok expected := by
  unfold expectedIn
  split
  · exact ⟨_, rfl⟩
  · rw [if_neg (by simp [hsize, hhash])]
    simp only [hroot, hquery]
    cases hfind : sources.find? fun source =>
        chainedResultIsBound restore file source current.metadata with
    | none => exact absurd hbound (List.find?_eq_none.mp hfind source hsource)
    | some _ => exact ⟨_, rfl⟩

lemma expectedIn_congr {t : JournalStore}
    (h : ∀ rootId, t.queryUndoChainSources restore.workspaceId rootId file.pathBytes none =
      s.queryUndoChainSources restore.workspaceId rootId file.pathBytes none) :
    t.expectedIn binding restore file current = s.expectedIn binding restore file current := by
  simp only [expectedIn, h]

structure Recordable (encoding : JournalEncoding) (s : JournalStore) (restore : TurnRestoreSet)
    (file : TurnRestoreFile) (expected : ExpectedResult) : Prop where
  size : expected.evidence.size = file.resultSize
  sha256 : expected.evidence.sha256 = file.resultSha256
  metadataValid : expected.evidence.metadata.validate = .ok ()
  metadataFits :
    fitsColumn encoding.metadataJson 4096 (some expected.evidence.metadata) = true
  bound : ∀ journal : UndoOperationFile, journal.expectedMetadata = expected.evidence.metadata →
    journal.chainedFromOperationId = expected.chainedFrom →
    s.expectedResultIsBound restore file journal = .ok true
  chain : ∀ source ∈ expected.chainedFrom, ∃ row ∈ s.operations.rows, row.operationId = source

theorem recordable (hkept : s.WellKept encoding) (hvalid : file.metadataFingerprint.validate = .ok ())
    (hfits : fitsColumn encoding.metadataJson 4096 (some file.metadataFingerprint) = true)
    (h : s.expectedIn binding restore file current = .ok expected) :
    Recordable encoding s restore file expected := by
  obtain ⟨rfl, hsize, hhash, ⟨hnone, hmetadata⟩ |
    ⟨rootId, sources, source, hroot, hquery, hsource, hbound, hchain⟩⟩ := expectedIn_ok h
  · refine ⟨hsize, hhash, hmetadata ▸ hvalid, hmetadata ▸ hfits, fun journal hjournal hfrom => ?_,
      by simp [hnone]⟩
    rw [hnone] at hfrom
    simp only [expectedResultIsBound, hfrom, hjournal, hmetadata, decide_true]
  · obtain ⟨sources', hquery', hmem⟩ := query_ok hkept restore.workspaceId rootId file.pathBytes none
    cases hquery.symm.trans hquery'
    obtain ⟨entry, hentry, hof⟩ := (hmem source).mp hsource
    obtain ⟨own, hown, hownMem⟩ := source_of_operation hkept hentry hof
    obtain ⟨undo, hundo, row, restoreSet, rfl, hrow, -⟩ := mem_undone.mp (mem_of_chainRows hentry)
    obtain ⟨staged, hstaged, hok⟩ := chainSource_ok hkept hundo hrow
    rw [hok] at hof
    split at hof
    · cases hof
      have hinstalled : staged = expected.evidence.metadata := by
        simp only [chainedResultIsBound, Bool.and_eq_true, decide_eq_true_eq] at hbound
        exact hbound.1.2.2.2.2
      obtain ⟨hstagedValid, hstagedFits⟩ := hkept.staged undo hundo staged hstaged
      refine ⟨hsize, hhash, hinstalled ▸ hstagedValid, hinstalled ▸ hstagedFits,
        fun journal hjournal hfrom => ?_, ?_⟩
      · rw [hchain] at hfrom
        simp only [expectedResultIsBound, hfrom, hroot, hown, except_bind_eq_ok]
        refine ⟨own, rfl, congrArg Except.ok (List.any_eq_true.mpr ⟨_, hownMem, ?_⟩)⟩
        rw [hjournal]
        exact hbound
      · intro source hsource
        rw [hchain] at hsource
        cases hsource
        exact ⟨row, hrow.rowMem, hrow.rowId⟩
    · cases hof

end JournalStore

end DevCommandCenter.GuardedUndo
