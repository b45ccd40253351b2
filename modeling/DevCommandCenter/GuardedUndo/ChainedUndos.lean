import DevCommandCenter.GuardedUndo.PreparedUndo

/-! A chain of undos while nothing else changes the disk: what each leaves to the ones that follow. -/

namespace DevCommandCenter.GuardedUndo

open Library JournalStore

section Journalled

variable {encoding : JournalEncoding} {s t : JournalStore} {row : UndoOperationRow}
  {journalFiles : List UndoOperationFile} {updatedAt : String} {workspaceId : WorkspaceId}
  {rootId : PhysicalRootId} {path : OpaqueRepoPath}

def TurnRestoreSet.afterUndo (row : UndoOperationRow) (updatedAt : String)
    (restore : TurnRestoreSet) : TurnRestoreSet :=
  if restore.restoreSetId = row.restoreSetId then restore.consumedAt updatedAt else restore

@[simp] lemma afterUndo_restoreSetId (restore : TurnRestoreSet) :
    (restore.afterUndo row updatedAt).restoreSetId = restore.restoreSetId := by
  unfold TurnRestoreSet.afterUndo
  split <;> rfl

@[simp] lemma afterUndo_snapshotId (restore : TurnRestoreSet) :
    (restore.afterUndo row updatedAt).snapshotId = restore.snapshotId := by
  unfold TurnRestoreSet.afterUndo
  split <;> rfl

@[simp] lemma afterUndo_workspaceId (restore : TurnRestoreSet) :
    (restore.afterUndo row updatedAt).workspaceId = restore.workspaceId := by
  unfold TurnRestoreSet.afterUndo
  split <;> rfl

@[simp] lemma afterUndo_rootId (restore : TurnRestoreSet) :
    (restore.afterUndo row updatedAt).rootId = restore.rootId := by
  unfold TurnRestoreSet.afterUndo
  split <;> rfl

lemma afterUndo_other {restore : TurnRestoreSet} (h : restore.restoreSetId ≠ row.restoreSetId) :
    restore.afterUndo row updatedAt = restore :=
  if_neg h

lemma insertionSort_last {α : Type} {r : α → α → Prop} [DecidableRel r] {l : List α} {a : α}
    (h : ∀ b ∈ l, ¬r b a) : ∃ rest, (l ++ [a]).insertionSort r = a :: rest := by
  induction l with
  | nil => exact ⟨[], rfl⟩
  | cons b l ih =>
      obtain ⟨rest, hrest⟩ := ih fun c hc => h c (List.mem_cons_of_mem _ hc)
      refine ⟨rest.orderedInsert r b, ?_⟩
      rw [List.cons_append, List.insertionSort_cons, hrest,
        List.orderedInsert_of_not_le r rest (h b List.mem_cons_self)]

namespace Finished

variable (h : Finished s row journalFiles updatedAt t)
include h

lemma sets :
    t.restoreSets.rows = s.restoreSets.rows.map (TurnRestoreSet.afterUndo row updatedAt) :=
  h.restoreSets

lemma findSet (id : RestoreSetId) :
    t.restoreSets.find? id = (s.restoreSets.find? id).map (·.afterUndo row updatedAt) := by
  rw [KeyedRows.find?, KeyedRows.find?, h.restoreSets, List.find?_map]
  congr 1
  exact congrArg (List.find? · _) (funext fun restore => by
    simp only [Function.comp_apply]
    exact congrArg (fun i => decide (i = id)) (afterUndo_restoreSetId restore))

lemma findOperation {id : UndoOperationId} (hid : id ≠ row.operationId) :
    t.operations.find? id = s.operations.find? id := by
  rw [KeyedRows.find?, KeyedRows.find?, h.operations, List.find?_append]
  simp [hid.symm]

lemma chainRow_old {operationId : Option UndoOperationId} {file : UndoOperationFile}
    (hid : file.operationId ≠ row.operationId) :
    t.chainRow workspaceId rootId path operationId file =
      s.chainRow workspaceId rootId path operationId file := by
  unfold chainRow
  rw [h.findOperation hid, h.findSet]
  cases s.operations.find? file.operationId with
  | none => rfl
  | some other =>
      cases s.restoreSets.find? file.restoreSetId with
      | none => rfl
      | some restore =>
          simp only [Option.map_some, Option.bind_eq_bind, Option.bind_some, afterUndo_workspaceId,
            afterUndo_rootId]

lemma preparable {env : RestoreEnvironment} {snapshotId : String} {now : ℕ} {set : PreparableSet}
    (hset : s.Preparable env snapshotId now set) (hactive : row.active = false)
    (hclean : row.cleanupPending = false) (hother : set.restore.restoreSetId ≠ row.restoreSetId) :
    t.Preparable env snapshotId now set where
  named := hset.named
  found := by
    have hsame : (fun restore : TurnRestoreSet => decide (restore.snapshotId = snapshotId)) ∘
        TurnRestoreSet.afterUndo row updatedAt =
          fun restore => decide (restore.snapshotId = snapshotId) :=
      funext fun restore => by
        rw [Function.comp_apply, afterUndo_snapshotId]
    rw [h.sets, List.find?_map, hsame, hset.found, Option.map_some, afterUndo_other hother]
  loaded := by
    rw [← hset.loaded, loadTurnRestoreSet, loadTurnRestoreSet, restoreFilesOf, restoreFilesOf,
      h.restoreFiles, h.findSet]
    cases hfind : s.restoreSets.find? set.restore.restoreSetId with
    | none => rfl
    | some restore =>
        have hid := (KeyedRows.find?_eq_some.mp hfind).2
        rw [Option.map_some, afterUndo_other (hid ▸ hother)]
  quiet := by
    have hof : ∀ other : UndoOperationRow, t.ofSnapshot snapshotId other =
        s.ofSnapshot snapshotId other := by
      intro other
      rw [ofSnapshot, ofSnapshot, h.findSet, Option.any_map]
      exact congrArg (Option.any · _) (funext fun restore => by simp)
    have hquiet := hset.quiet
    simp only [undoPending, h.operations, List.any_append, List.any_cons, List.any_nil, hof, hactive,
      hclean, Bool.and_false, Bool.or_false] at hquiet ⊢
    exact hquiet
  eligible := hset.eligible
  retained := hset.retained
  root := hset.root
  git := hset.git
  manifest := hset.manifest

variable (hfresh : ∀ file ∈ s.operationFiles.rows, file.operationId ≠ row.operationId)
include hfresh

lemma undone_append (operationId : Option UndoOperationId) :
    t.undone workspaceId rootId path operationId =
      s.undone workspaceId rootId path operationId ++
        journalFiles.filterMap (t.chainRow workspaceId rootId path operationId) := by
  rw [undone, undone, h.operationFiles, List.filterMap_append]
  exact congrArg (· ++ _) (List.filterMap_congr fun file hfile => h.chainRow_old (hfresh file hfile))

lemma undone_other (hpath : path ∉ journalFiles.map UndoOperationFile.pathBytes)
    (operationId : Option UndoOperationId) :
    t.undone workspaceId rootId path operationId = s.undone workspaceId rootId path operationId := by
  have hnone : journalFiles.filterMap (t.chainRow workspaceId rootId path operationId) = [] := by
    apply List.filterMap_eq_nil_iff.mpr
    intro file hfile
    cases hrow : t.chainRow workspaceId rootId path operationId file with
    | none => rfl
    | some entry =>
        obtain ⟨_, _, -, hundone, -⟩ := chainRow_eq_some.mp hrow
        exact absurd (List.mem_map.mpr ⟨file, hfile, hundone.ownPath⟩) hpath
  rw [h.undone_append hfresh, hnone, List.append_nil]

lemma undone_own
    (hpaths : (journalFiles.map UndoOperationFile.pathBytes).Nodup) {file : UndoOperationFile}
    (hfile : file ∈ journalFiles) {restoreSet : TurnRestoreSet}
    (hundone : t.Undone workspaceId rootId path file row restoreSet) :
    t.undone workspaceId rootId path none =
      s.undone workspaceId rootId path none ++ [(file, row.toUndoOperation)] := by
  obtain ⟨before, after, rfl⟩ := List.append_of_mem hfile
  have hother : ∀ other ∈ before ++ after, t.chainRow workspaceId rootId path none other = none := by
    intro other hother
    cases hrow : t.chainRow workspaceId rootId path none other with
    | none => rfl
    | some entry =>
        obtain ⟨_, _, -, hother', -⟩ := chainRow_eq_some.mp hrow
        rw [List.map_append, List.map_cons] at hpaths
        have hnot := (List.nodup_middle.mp hpaths).notMem
        rw [← List.map_append] at hnot
        exact absurd (List.mem_map.mpr ⟨other, hother, hother'.ownPath.trans hundone.ownPath.symm⟩) hnot
  have hown : t.chainRow workspaceId rootId path none file = some (file, row.toUndoOperation) :=
    chainRow_eq_some.mpr ⟨row, restoreSet, rfl, hundone, rfl⟩
  rw [h.undone_append hfresh, List.filterMap_append, List.filterMap_cons, hown,
    List.filterMap_eq_nil_iff.mpr fun other hmem => hother other (List.mem_append_left _ hmem),
    List.filterMap_eq_nil_iff.mpr fun other hmem => hother other (List.mem_append_right _ hmem)]
  rfl

lemma newest
    (hpaths : (journalFiles.map UndoOperationFile.pathBytes).Nodup) {file : UndoOperationFile}
    (hfile : file ∈ journalFiles) {restoreSet : TurnRestoreSet}
    (hundone : t.Undone workspaceId rootId path file row restoreSet)
    (hcompleted : row.completedAt = some updatedAt)
    (hlater : ∀ other ∈ s.operations.rows, ∀ completed ∈ other.completedAt, completed < updatedAt) :
    (file, row.toUndoOperation) ∈ t.chainRows workspaceId rootId path none := by
  have hlast : ∀ entry ∈ s.undone workspaceId rootId path none,
      ¬laterCompleted entry (file, row.toUndoOperation) = true := by
    intro entry hentry
    obtain ⟨other, -, otherRow, _, rfl, hother, -⟩ := mem_undone.mp hentry
    simp only [laterCompleted, hcompleted]
    cases hat : otherRow.completedAt with
    | none => simp
    | some completed =>
        have hlt := hlater otherRow hother.rowMem completed hat
        simp [String.lt_asymm hlt, String.ne_of_lt hlt]
  obtain ⟨rest, hsorted⟩ := insertionSort_last (r := fun a b => laterCompleted a b = true) hlast
  have hrows : t.chainRows workspaceId rootId path none =
      ((t.undone workspaceId rootId path none).insertionSort
        fun a b => laterCompleted a b = true).take 64 := rfl
  rw [hrows, h.undone_own hfresh hpaths hfile hundone, hsorted]
  exact List.mem_cons_self

lemma query_other (hpath : path ∉ journalFiles.map UndoOperationFile.pathBytes) :
    t.queryUndoChainSources workspaceId rootId path none =
      s.queryUndoChainSources workspaceId rootId path none := by
  have hrows : t.chainRows workspaceId rootId path none = s.chainRows workspaceId rootId path none :=
    congrArg (fun l => (l.insertionSort fun a b => laterCompleted a b = true).take 64)
      (h.undone_other hfresh hpath none)
  rw [queryUndoChainSources, queryUndoChainSources, hrows]

lemma wellKept (hkept : s.WellKept encoding)
    (howned : ∀ file ∈ journalFiles, file.operationId = row.operationId)
    (hpaths : (journalFiles.map UndoOperationFile.pathBytes).Nodup)
    (hnamed : isBlank row.operationId.value = false ∧ 1 ≤ row.operationId.value.length ∧
      row.operationId.value.length ≤ 256)
    (hidentity : row.preparedIdentity.validate = .ok ())
    (hstaged : ∀ file ∈ journalFiles, ∀ m ∈ file.stagedMetadata,
      m.validate = .ok () ∧ fitsColumn encoding.metadataJson 4096 (some m) = true) :
    t.WellKept encoding where
  owned := by
    intro file hfile
    rw [h.operations]
    rw [h.operationFiles] at hfile
    rcases List.mem_append.mp hfile with hfile | hfile
    · obtain ⟨other, hother, hid⟩ := hkept.owned file hfile
      exact ⟨other, List.mem_append_left _ hother, hid⟩
    · exact ⟨row, by simp, (howned file hfile).symm⟩
  paths := by
    intro file hfile other hother hid hpath
    rw [h.operationFiles] at hfile hother
    rcases List.mem_append.mp hfile with hfile | hfile
    · rcases List.mem_append.mp hother with hother | hother
      · exact hkept.paths file hfile other hother hid hpath
      · exact absurd (hid.trans (howned other hother)) (hfresh file hfile)
    · rcases List.mem_append.mp hother with hother | hother
      · exact absurd (hid.symm.trans (howned file hfile)) (hfresh other hother)
      · exact List.inj_on_of_nodup_map hpaths hfile hother hpath
  names := by
    intro other hother
    rw [h.operations] at hother
    rcases List.mem_append.mp hother with hother | hother
    · exact hkept.names other hother
    · rw [List.mem_singleton.mp hother]
      exact hnamed
  identities := by
    intro other hother
    rw [h.operations] at hother
    rcases List.mem_append.mp hother with hother | hother
    · exact hkept.identities other hother
    · rw [List.mem_singleton.mp hother]
      exact hidentity
  staged := by
    intro file hfile
    rw [h.operationFiles] at hfile
    rcases List.mem_append.mp hfile with hfile | hfile
    · exact hkept.staged file hfile
    · exact hstaged file hfile

end Finished

end Journalled

section Extended

variable {pending : PendingRestores} {files : List TurnRestoreFile} {path : OpaqueRepoPath}

lemma extend_cons (file : TurnRestoreFile) (rest : List TurnRestoreFile) :
    pending.extend (file :: rest) =
      PendingRestores.extend (Function.update pending file.pathBytes (some file)) rest := rfl

lemma extend_some {file : TurnRestoreFile} (h : pending.extend files path = some file) :
    (file ∈ files ∧ file.pathBytes = path) ∨
      (pending path = some file ∧ path ∉ files.map TurnRestoreFile.pathBytes) := by
  induction files generalizing pending with
  | nil => exact .inr ⟨h, by simp⟩
  | cons first rest ih =>
      rw [extend_cons] at h
      rcases ih h with ⟨hmem, hpath⟩ | ⟨hpending, hnot⟩
      · exact .inl ⟨List.mem_cons_of_mem _ hmem, hpath⟩
      · by_cases heq : path = first.pathBytes
        · rw [heq, Function.update_self, Option.some.injEq] at hpending
          subst hpending
          exact .inl ⟨List.mem_cons_self, heq.symm⟩
        · rw [Function.update_of_ne heq] at hpending
          exact .inr ⟨hpending, by simp [heq, hnot]⟩

lemma extend_none : pending.extend files path = none ↔
    pending path = none ∧ path ∉ files.map TurnRestoreFile.pathBytes := by
  induction files generalizing pending with
  | nil => simp [PendingRestores.extend]
  | cons first rest ih =>
      rw [extend_cons, ih, List.map_cons, List.mem_cons, not_or]
      by_cases heq : path = first.pathBytes
      · simp [heq]
      · simp [heq]

end Extended

section Chained

variable {env : RestoreEnvironment} {w z : World} {pending : PendingRestores}
  {restore : TurnRestoreSet} {workspaceId : WorkspaceId} {rootId : PhysicalRootId}
  {path : OpaqueRepoPath}

def World.PlansFile (w : World) (pending : PendingRestores) (restore : TurnRestoreSet)
    (file : TurnRestoreFile) : Prop :=
  match pending file.pathBytes with
  | some newer => leavesResult newer file = true
  | none => ∃ expected, w.Expects .afterCompletedUndo restore file expected

def World.PlansSets (w : World) (env : RestoreEnvironment) :
    PendingRestores → List PreparableSet → Prop
  | _, [] => True
  | pending, set :: rest =>
      (env.gitIdentity 0).sameRepositoryState set.git = true ∧
        (∀ file ∈ set.files, w.PlansFile pending set.restore file) ∧
          w.PlansSets env (pending.extend set.files) rest

structure World.SourcedBy (w : World) (env : RestoreEnvironment) (workspaceId : WorkspaceId)
    (rootId : PhysicalRootId) (newer : TurnRestoreFile) (m : RegularFileMetadataV1)
    (file : UndoOperationFile) (operation : UndoOperation) : Prop where
  target : w.targets newer.pathBytes =
    some { size := newer.preSize, sha256 := newer.preSha256, metadata := m }
  attributes : m.sameAttributes newer.metadataFingerprint = true
  newest : (file, operation) ∈ w.journal.chainRows workspaceId rootId newer.pathBytes none
  staged : file.stagedMetadata = some m
  size : file.preSize = newer.preSize
  sha256 : file.preSha256 = newer.preSha256
  ofSet : file.restoreSetId = newer.restoreSetId
  ownRoot : operation.preparedIdentity.rootId = rootId
  git : (env.gitIdentity 0).sameRepositoryState operation.preparedIdentity.git = true

lemma World.SourcedBy.expects (hkept : w.journal.WellKept env.encoding) {newer : TurnRestoreFile}
    {m : RegularFileMetadataV1} {undo : UndoOperationFile} {operation : UndoOperation}
    (h : w.SourcedBy env workspaceId rootId newer m undo operation)
    (hworkspace : restore.workspaceId = workspaceId) (hroot : restore.rootId = some rootId)
    {git : GitIdentityV1} (hgit : restore.gitIdentity = some git)
    (hsame : (env.gitIdentity 0).sameRepositoryState git = true) {file : TurnRestoreFile}
    (hpath : newer.pathBytes = file.pathBytes) (hleaves : leavesResult newer file = true)
    (hset : newer.restoreSetId ≠ restore.restoreSetId) :
    ∃ expected, w.Expects .afterCompletedUndo restore file expected := by
  simp only [leavesResult, Bool.and_eq_true, decide_eq_true_eq] at hleaves
  obtain ⟨⟨hsize, hhash⟩, hattributes⟩ := hleaves
  subst hworkspace
  obtain ⟨other, hother, row, restoreSet, hentry, hundone, -⟩ :=
    mem_undone.mp (mem_of_chainRows h.newest)
  cases hentry
  obtain ⟨staged, hstaged, hsource⟩ := chainSource_ok hkept hother hundone
  cases h.staged.symm.trans hstaged
  rw [if_pos h.ownRoot] at hsource
  obtain ⟨sources, hquery, hmem⟩ := query_ok hkept restore.workspaceId rootId newer.pathBytes none
  rw [hpath] at hquery
  have hbound : chainedResultIsBound restore file (sourceOf restore.workspaceId row undo m) m =
      true := by
    have hgits := GitIdentityV1.sameRepositoryState_trans
      (GitIdentityV1.sameRepositoryState_symm hsame) h.git
    simp only [chainedResultIsBound, sourceOf, Bool.and_eq_true, decide_eq_true_eq, hgit,
      Option.any_some]
    exact ⟨⟨⟨⟨fun heq => hset (h.ofSet.symm.trans heq), trivial, hroot.trans (congrArg some h.ownRoot.symm)⟩, hgits⟩,
      hundone.ownPath.trans hpath, h.size.trans hsize, h.sha256.trans hhash, trivial⟩,
      RegularFileMetadataV1.sameAttributes_trans h.attributes hattributes⟩
  obtain ⟨expected, hexpected⟩ := expectedIn_of_source
    { size := newer.preSize, sha256 := newer.preSha256, metadata := m } hsize hhash hroot hquery
    ((hmem _).mpr ⟨_, h.newest, hsource⟩) hbound
  exact ⟨expected, _, hpath ▸ h.target, hexpected⟩

lemma World.planned_expects (hkept : w.journal.WellKept env.encoding) {rest : List PreparableSet}
    {set : PreparableSet} (hplans : w.PlansSets env pending (set :: rest))
    (hsourced : ∀ path newer, pending path = some newer → newer.pathBytes = path ∧
      newer.restoreSetId ≠ set.restore.restoreSetId ∧
      ∃ m file operation, w.SourcedBy env workspaceId rootId newer m file operation)
    (hworkspace : set.restore.workspaceId = workspaceId) (hroot : set.restore.rootId = some rootId)
    (hgit : set.restore.gitIdentity = some set.git) :
    ∃ expected, List.Forall₂ (w.Expects .afterCompletedUndo set.restore) set.files expected := by
  obtain ⟨hsame, hfiles, -⟩ := hplans
  have hexpects : ∀ file ∈ set.files,
      ∃ expected, w.expectation .afterCompletedUndo set.restore file = .ok expected := by
    intro file hfile
    have hplan := hfiles file hfile
    unfold World.PlansFile at hplan
    simp only [expectation_eq_ok]
    cases hpending : pending file.pathBytes with
    | none =>
        rw [hpending] at hplan
        exact hplan
    | some newer =>
        rw [hpending] at hplan
        obtain ⟨hpath, hset, m, undo, operation, hsource⟩ := hsourced _ newer hpending
        exact hsource.expects hkept hworkspace hroot hgit hsame hpath hplan hset
  obtain ⟨expected, hall⟩ := exists_mapM_eq_ok hexpects
  exact ⟨expected, (mapM_eq_ok.mp hall).imp fun _ _ h => expectation_eq_ok.mp h⟩

lemma World.PlansSets.kept {sets : List PreparableSet} (h : w.PlansSets env pending sets)
    (htargets : ∀ path, pending path = none → z.targets path = w.targets path)
    (hqueries : ∀ path, pending path = none → ∀ workspaceId rootId,
      z.journal.queryUndoChainSources workspaceId rootId path none =
        w.journal.queryUndoChainSources workspaceId rootId path none) :
    z.PlansSets env pending sets := by
  induction sets generalizing pending with
  | nil => trivial
  | cons set rest ih =>
      obtain ⟨hgit, hfiles, hrest⟩ := h
      refine ⟨hgit, fun file hfile => ?_, ih hrest (fun path hpath => htargets path
        (extend_none.mp hpath).1) fun path hpath => hqueries path (extend_none.mp hpath).1⟩
      have hplan := hfiles file hfile
      unfold World.PlansFile at hplan ⊢
      cases hpending : pending file.pathBytes with
      | some newer =>
          rw [hpending] at hplan
          exact hplan
      | none =>
          rw [hpending] at hplan
          obtain ⟨expected, current, htarget, hexpected⟩ := hplan
          refine ⟨expected, current, (htargets _ hpending).trans htarget, ?_⟩
          rw [expectedIn_congr fun rootId => hqueries _ hpending _ rootId]
          exact hexpected

lemma World.SourcedBy.kept {newer : TurnRestoreFile} {m : RegularFileMetadataV1}
    {file : UndoOperationFile} {operation : UndoOperation}
    (h : w.SourcedBy env workspaceId rootId newer m file operation)
    (htarget : z.targets newer.pathBytes = w.targets newer.pathBytes)
    (hrows : z.journal.chainRows workspaceId rootId newer.pathBytes none =
      w.journal.chainRows workspaceId rootId newer.pathBytes none) :
    z.SourcedBy env workspaceId rootId newer m file operation :=
  { h with
    target := htarget.trans h.target
    newest := hrows ▸ h.newest }

lemma JournalStore.Preparable.on {s : JournalStore} {env' : RestoreEnvironment} {snapshotId : String}
    {now now' : ℕ} {set : PreparableSet} (h : s.Preparable env snapshotId now set)
    (hencoding : env'.encoding = env.encoding) (hparse : env'.parseTimestamp = env.parseTimestamp)
    (hretained : ∀ expiry ∈ set.restore.expiresAt.bind env.parseTimestamp, now' < expiry) :
    s.Preparable env' snapshotId now' set := by
  obtain ⟨expiry, hexpiry, -⟩ := h.retained
  exact { h with
    loaded := hencoding ▸ h.loaded
    retained := ⟨expiry, hparse ▸ hexpiry, hretained expiry hexpiry⟩ }

structure ChainUndo where
  snapshotId : String
  env : RestoreEnvironment
  preparedAt : ℕ
  executedAt : ℕ

def ChainUndo.completedAt (undo : ChainUndo) : String :=
  undo.env.timestamp undo.executedAt

structure ChainUndo.OnMachine (undo : ChainUndo) (env : RestoreEnvironment) : Prop where
  dependable : undo.env.Dependable
  encoding : undo.env.encoding = env.encoding
  parse : undo.env.parseTimestamp = env.parseTimestamp
  root : ∀ path, undo.env.physicalRoot 0 path = env.physicalRoot 0 path
  git : (undo.env.gitIdentity 0).sameRepositoryState (env.gitIdentity 0) = true
  named : isBlank undo.env.operationId.value = false
  short : undo.env.operationId.value.length ≤ 256
  distinct : Set.InjOn undo.env.exchangeKey (Set.Iio maxRestoreFiles)
  lives : undo.executedAt < undo.preparedAt + tokenLifetime

structure World.ChainState (w : World) (env : RestoreEnvironment) (workspaceId : WorkspaceId)
    (rootId : PhysicalRootId) (pending : PendingRestores) (sets : List PreparableSet) : Prop where
  kept : w.journal.WellKept env.encoding
  sourced : ∀ path newer, pending path = some newer → newer.pathBytes = path ∧
    (∀ set ∈ sets, newer.restoreSetId ≠ set.restore.restoreSetId) ∧
    ∃ m file operation, w.SourcedBy env workspaceId rootId newer m file operation
  plans : w.PlansSets env pending sets

structure ChainUndo.Leaves (undo : ChainUndo) (env : RestoreEnvironment) (w z : World)
    (set : PreparableSet) (row : UndoOperationRow) (journalFiles : List UndoOperationFile) :
    Prop where
  restored : List.Forall₂ (z.RestoredAs env.encoding) set.files journalFiles
  owned : ∀ journal ∈ journalFiles, journal.operationId = undo.env.operationId
  same : w.SameBut z (set.files.map TurnRestoreFile.pathBytes) (Set.range undo.env.exchangeKey)
  finished : Finished w.journal row journalFiles undo.completedAt z.journal
  operation : row.operationId = undo.env.operationId
  ofSet : row.restoreSetId = set.restore.restoreSetId
  completed : row.state = .completed
  inactive : row.active = false
  clean : row.cleanupPending = false
  stamped : row.completedAt = some undo.completedAt
  identity : row.preparedIdentity.validate = .ok ()
  root : row.preparedIdentity.rootId = set.rootId
  git : row.preparedIdentity.git = set.git

lemma restoredAs_paths {encoding : JournalEncoding} {files : List TurnRestoreFile}
    {journalFiles : List UndoOperationFile}
    (h : List.Forall₂ (z.RestoredAs encoding) files journalFiles) :
    journalFiles.map UndoOperationFile.pathBytes = files.map TurnRestoreFile.pathBytes := by
  induction h with
  | nil => rfl
  | cons hfile _ ih => rw [List.map_cons, List.map_cons, hfile.path, ih]

theorem ChainUndo.made {undo : ChainUndo} {set : PreparableSet} {rest : List PreparableSet}
    {now : ℕ} {workspaceAbsolute : String} (hundo : undo.OnMachine env)
    (hstate : w.ChainState env workspaceId rootId pending (set :: rest))
    (hpreparable : w.journal.Preparable env undo.snapshotId now set)
    (hworkspace : set.restore.workspaceId = workspaceId) (hrootId : set.rootId = rootId)
    (hroot : env.physicalRoot 0 workspaceAbsolute = rootId)
    (hnew : ∀ row ∈ w.journal.operations.rows, row.operationId ≠ undo.env.operationId)
    (hfree : ∀ path index, w.siblings path (undo.env.exchangeKey index) = none)
    (hretained : ∀ expiry ∈ set.restore.expiresAt.bind env.parseTimestamp,
      undo.preparedAt < expiry ∧ undo.executedAt < expiry)
    {generations : AuthorityGenerations} (hnext : w.generations.next = some generations) :
    ∃ ready u z row journalFiles,
      prepareAt undo.env undo.snapshotId workspaceAbsolute .afterCompletedUndo undo.preparedAt w =
        (.ok (.ready ready), u) ∧
      executeAt undo.env ready.previewToken true undo.executedAt u =
        (.ok (.completed undo.env.operationId), z) ∧
      z.generations = generations ∧ undo.Leaves env w z set row journalFiles := by
  obtain ⟨expected, hexpects⟩ := World.planned_expects hstate.kept hstate.plans
    (fun path newer hpending => by
      obtain ⟨hpath, hsets, hsource⟩ := hstate.sourced path newer hpending
      exact ⟨hpath, hsets set List.mem_cons_self, hsource⟩)
    hworkspace (hrootId ▸ hpreparable.root) hpreparable.git
  have hprepares : w.Prepares undo.env undo.snapshotId workspaceAbsolute .afterCompletedUndo
      undo.preparedAt set expected := {
    preparable := preparableIn_eq_ok.mpr (hpreparable.on hundo.encoding hundo.parse
      fun expiry hexpiry => (hretained expiry hexpiry).1)
    root := (hundo.root _).trans (hroot.trans hrootId.symm)
    git := GitIdentityV1.sameRepositoryState_trans hundo.git hstate.plans.1
    expects := hexpects }
  have henv := hundo.dependable
  obtain ⟨_, hprepare, tick, rfl⟩ := hprepares.leads henv w (World.Like.refl w)
  let prepared := w.tokenFor undo.snapshotId workspaceAbsolute .afterCompletedUndo undo.preparedAt set
    expected
  let u : World := { w.issued undo.env prepared with tick := tick }
  have hawaits := hprepares.awaits undo.executedAt (v := u) rfl (fun _ _ => rfl) rfl
    hundo.lives (by
      rw [hundo.parse]
      exact fun expiry hexpiry => (hretained expiry hexpiry).2)
  have hdraws : u.DrawsNew undo.env := ⟨hundo.named, hundo.short, hnew, hundo.distinct, hfree⟩
  obtain ⟨z, journalFiles, hexecutes, hrestored, howned, hsame, hgenerations, hfinished⟩ :=
    hawaits.executes henv (hundo.encoding ▸ hstate.kept) hdraws undo.env.previewToken
      (by simp [u, prepared, World.issued]) hnext
  let digest := undo.env.encoding.sha256 (textBytes undo.env.previewToken)
  have hreadable : OperationReadable undo.env.encoding
      (newOperation undo.env digest prepared set.restore undo.executedAt) :=
    newOperation_readable henv hawaits.preparable.loadedSet hundo.named hpreparable.root
      hpreparable.git digest
  exact ⟨_, u, z, _, journalFiles, hprepare, hexecutes, hgenerations, {
    restored := hundo.encoding ▸ hrestored
    owned := howned
    same := hsame.starts rfl rfl
    finished := hfinished
    operation := rfl
    ofSet := rfl
    completed := rfl
    inactive := rfl
    clean := rfl
    stamped := rfl
    identity := hreadable.identity.1
    root := rfl
    git := rfl }⟩

lemma blank_length {text : String} (h : isBlank text = false) : 1 ≤ text.length := by
  by_contra hlt
  have hempty : text.toList = [] := List.length_eq_zero_iff.mp (by
    rw [String.length_toList]
    omega)
  simp [isBlank, hempty] at h

lemma World.ChainState.fresh {sets : List PreparableSet} {undo : ChainUndo}
    (h : w.ChainState env workspaceId rootId pending sets)
    (hnew : ∀ row ∈ w.journal.operations.rows, row.operationId ≠ undo.env.operationId) :
    ∀ file ∈ w.journal.operationFiles.rows, file.operationId ≠ undo.env.operationId := by
  intro file hfile hid
  obtain ⟨row, hrow, hrowId⟩ := h.kept.owned file hfile
  exact hnew row hrow (hrowId.trans hid)

section Step

variable {undo : ChainUndo} {set : PreparableSet} {rest : List PreparableSet}
  {row : UndoOperationRow} {journalFiles : List UndoOperationFile} {now : ℕ}

lemma ChainUndo.Leaves.source (h : undo.Leaves env w z set row journalFiles)
    (hpreparable : w.journal.Preparable env undo.snapshotId now set)
    (hworkspace : set.restore.workspaceId = workspaceId) (hrootId : set.rootId = rootId)
    (hgit : (env.gitIdentity 0).sameRepositoryState set.git = true)
    (hfresh : ∀ file ∈ w.journal.operationFiles.rows, file.operationId ≠ row.operationId)
    (hlater : ∀ other ∈ w.journal.operations.rows, ∀ completed ∈ other.completedAt,
      completed < undo.completedAt)
    {newer : TurnRestoreFile} (hnewer : newer ∈ set.files) :
    ∃ m file operation, z.SourcedBy env workspaceId rootId newer m file operation := by
  have hset := hpreparable.loadedSet
  obtain ⟨file, hfile, hrestored⟩ := exists_of_forall₂ h.restored hnewer
  obtain ⟨m, hm, -, -, hattributes, htarget⟩ := hrestored.installed
  have hown : set.restore.restoreSetId = file.restoreSetId :=
    (hset.own newer hnewer).symm.trans hrestored.ownSet.symm
  have hundone : z.journal.Undone workspaceId rootId newer.pathBytes file row
      (set.restore.afterUndo row undo.completedAt) := {
    rowMem := by simp [h.finished.operations]
    rowId := h.operation.trans (h.owned file hfile).symm
    setMem := by
      rw [h.finished.sets]
      exact List.mem_map_of_mem (loadTurnRestoreSet_ok hpreparable.loaded).1
    setId := (afterUndo_restoreSetId _).trans hown
    ownSet := h.ofSet.trans hown
    completed := h.completed
    inactive := h.inactive
    verified := hrestored.verified
    outcome := hrestored.outcome
    staged := by simp [hm]
    workspace := (afterUndo_workspaceId _).trans hworkspace
    root := (afterUndo_rootId _).trans (hpreparable.root.trans (congrArg some hrootId))
    ownPath := hrestored.path }
  have hpaths : (journalFiles.map UndoOperationFile.pathBytes).Nodup := by
    rw [restoredAs_paths h.restored]
    exact hset.paths
  refine ⟨m, file, row.toUndoOperation, htarget, hattributes,
    h.finished.newest hfresh hpaths hfile hundone h.stamped hlater, hm, hrestored.size,
    hrestored.sha256, hrestored.ownSet, h.root.trans hrootId, ?_⟩
  rw [show row.toUndoOperation.preparedIdentity.git = set.git from h.git]
  exact hgit

theorem ChainUndo.Leaves.chainState (h : undo.Leaves env w z set row journalFiles)
    (hundo : undo.OnMachine env)
    (hstate : w.ChainState env workspaceId rootId pending (set :: rest))
    (hpreparable : w.journal.Preparable env undo.snapshotId now set)
    (hworkspace : set.restore.workspaceId = workspaceId) (hrootId : set.rootId = rootId)
    (hnew : ∀ row ∈ w.journal.operations.rows, row.operationId ≠ undo.env.operationId)
    (hlater : ∀ other ∈ w.journal.operations.rows, ∀ completed ∈ other.completedAt,
      completed < undo.completedAt)
    (hdistinct : ∀ other ∈ rest, set.restore.restoreSetId ≠ other.restore.restoreSetId) :
    z.ChainState env workspaceId rootId (pending.extend set.files) rest := by
  have hset := hpreparable.loadedSet
  have hfresh : ∀ file ∈ w.journal.operationFiles.rows, file.operationId ≠ row.operationId := by
    rw [h.operation]
    exact hstate.fresh hnew
  have hpaths := restoredAs_paths h.restored
  have hother : ∀ path ∉ set.files.map TurnRestoreFile.pathBytes,
      path ∉ journalFiles.map UndoOperationFile.pathBytes := fun path hpath => hpaths ▸ hpath
  refine ⟨?_, ?_, ?_⟩
  · refine h.finished.wellKept hfresh hstate.kept
      (fun file hfile => (h.owned file hfile).trans h.operation.symm) (hpaths ▸ hset.paths)
      ?_ h.identity ?_
    · rw [h.operation]
      exact ⟨hundo.named, blank_length hundo.named, hundo.short⟩
    · intro file hfile m hm
      obtain ⟨restored, -, hrestored⟩ := exists_of_forall₂ h.restored.flip hfile
      obtain ⟨m', hm', hvalid, hfits, -⟩ := hrestored.installed
      cases hm'.symm.trans hm
      exact ⟨hvalid, hfits⟩
  · intro path newer hpending
    rcases extend_some hpending with ⟨hmem, hpath⟩ | ⟨hpending, hnot⟩
    · refine ⟨hpath, fun other hmem' => ?_, h.source hpreparable hworkspace hrootId
        hstate.plans.1 hfresh hlater hmem⟩
      rw [hset.own newer hmem]
      exact hdistinct other hmem'
    · obtain ⟨hpath, hsets, m, file, operation, hsource⟩ := hstate.sourced path newer hpending
      refine ⟨hpath, fun other hmem => hsets other (List.mem_cons_of_mem _ hmem), m, file, operation,
        hsource.kept (h.same.targets _ (hpath ▸ hnot)) ?_⟩
      exact congrArg (fun l => (l.insertionSort fun a b => laterCompleted a b = true).take 64)
        (h.finished.undone_other hfresh (hother _ (hpath ▸ hnot)) none)
  · refine hstate.plans.2.2.kept (fun path hpath => h.same.targets path (extend_none.mp hpath).2) ?_
    intro path hpath workspaceId rootId
    exact h.finished.query_other hfresh (hother path (extend_none.mp hpath).2)

end Step

end Chained

end DevCommandCenter.GuardedUndo
