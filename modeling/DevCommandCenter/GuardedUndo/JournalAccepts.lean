import DevCommandCenter.GuardedUndo.JournalEffects

/-! When the journal accepts a call: the rows of one operation, sound and bound to their set, after
those of a store that knows nothing of it. -/

namespace DevCommandCenter.GuardedUndo

open Library

variable {encoding : JournalEncoding} {s t : JournalStore}

lemma fitsColumn_eq_true {α : Type} {length : α → ℕ} {maximum : ℕ} {value : Option α} :
    fitsColumn length maximum value = true ↔
      ∀ a ∈ value, 1 ≤ length a ∧ length a ≤ maximum := by
  cases value <;> simp [fitsColumn]

lemma OpaqueRepoPath.length_le {path : OpaqueRepoPath} (h : path.validate = .ok ()) :
    path.bytes.length ≤ maxOpaquePathBytes := by
  unfold OpaqueRepoPath.validate at h
  split at h
  · split at h
    · cases h
    · next hshort => exact not_lt.mp fun hlt => hshort (.inr (.inl hlt))
  · cases h

structure FileReadable (encoding : JournalEncoding) (file : UndoOperationFile) : Prop where
  valid : file.validate = .ok ()
  expectedFits : fitsColumn encoding.metadataJson 4096 (some file.expectedMetadata) = true
  stagedFits : fitsColumn encoding.metadataJson 4096 file.stagedMetadata = true
  displacedFits : fitsColumn encoding.metadataJson 4096 file.displacedMetadata = true
  detailsFit : fitsColumn encoding.recoveryDetailsJson 1024 file.recoveryDetails = true

structure OperationReadable (encoding : JournalEncoding) (operation : UndoOperation) : Prop where
  valid : operation.validate = .ok ()
  identityFits :
    fitsColumn encoding.preparedIdentityJson 131072 (some operation.preparedIdentity) = true
  detailsFit : fitsColumn encoding.recoveryDetailsJson 1024 operation.recoveryDetails = true

lemma FileReadable.path_length {file : UndoOperationFile} (h : FileReadable encoding file) :
    file.pathBytes.bytes.length ≤ 4096 := by
  have hvalid := h.valid
  simp only [UndoOperationFile.validate, except_seq_eq_ok] at hvalid
  exact OpaqueRepoPath.length_le hvalid.2.2.2.1

lemma FileReadable.known {file : UndoOperationFile} (h : FileReadable encoding file) :
    file.state.isKnown = true ∧ file.verificationOutcome.isKnown = true := by
  have hvalid := h.valid
  simp only [UndoOperationFile.validate, except_seq_eq_ok, refuse_eq_ok, not_or,
    Bool.not_eq_false] at hvalid
  obtain ⟨-, -, -, -, -, -, hknown, -⟩ := hvalid
  exact hknown

lemma FileReadable.sizes {file : UndoOperationFile} (h : FileReadable encoding file) :
    file.preSize ≤ maxSqliteInteger ∧ file.expectedResultSize ≤ maxSqliteInteger ∧
      file.displacedSize.elim (.ok ()) (sqliteInteger "displaced_size") = .ok () := by
  have hmax : maxPreimageBytesPerFile ≤ maxSqliteInteger := by decide
  have hvalid := h.valid
  simp only [UndoOperationFile.validate, except_seq_eq_ok, refuse_eq_ok, not_or, not_lt, not_exists,
    not_and] at hvalid
  obtain ⟨-, -, -, -, hpre, ⟨hexpected, hdisplaced⟩, -⟩ := hvalid
  refine ⟨hpre.trans hmax, hexpected.trans hmax, ?_⟩
  cases hsize : file.displacedSize with
  | none => rfl
  | some size => exact refuse_eq_ok.mpr (not_lt.mpr ((hdisplaced size hsize).trans hmax))

lemma OperationReadable.identity {operation : UndoOperation}
    (h : OperationReadable encoding operation) : operation.preparedIdentity.validate = .ok () ∧
      validateSome RecoveryDetailsV1.validate operation.recoveryDetails = .ok () := by
  have hvalid := h.valid
  simp only [UndoOperation.validate, except_seq_eq_ok] at hvalid
  obtain ⟨-, -, -, -, -, hidentity, hdetails, -⟩ := hvalid
  exact ⟨hidentity, hdetails⟩

lemma checkOperationRows_eq_ok {operation : UndoOperation} {files : List UndoOperationFile}
    (hoperation : OperationReadable encoding operation) (hfew : files.length ≤ maxRestoreFiles)
    (hfiles : ∀ file ∈ files, FileReadable encoding file) :
    JournalStore.checkOperationRows encoding operation files = .ok () := by
  obtain ⟨hidentity, hdetails⟩ := hoperation.identity
  have hfits := fitsColumn_eq_true.mp hoperation.identityFits
  have hdetailsFit := fitsColumn_eq_true.mp hoperation.detailsFit
  simp only [JournalStore.checkOperationRows, except_seq_eq_ok, refuse_eq_ok, schemaChecked_eq_ok,
    not_or, not_exists, not_and, not_lt]
  refine ⟨⟨(hfits _ rfl).2, fun d hd => (hdetailsFit d hd).2, hfew,
    fun file hmem => (hfiles file hmem).path_length,
    fun file hmem => (fitsColumn_eq_true.mp (hfiles file hmem).expectedFits _ rfl).2,
    fun file hmem m hm => (fitsColumn_eq_true.mp (hfiles file hmem).stagedFits m hm).2,
    fun file hmem m hm => (fitsColumn_eq_true.mp (hfiles file hmem).displacedFits m hm).2,
    fun file hmem d hd => (fitsColumn_eq_true.mp (hfiles file hmem).detailsFit d hd).2⟩,
    hidentity, hdetails, forM_eq_ok.mpr fun file hmem => ?_, ?_⟩
  · split
    · exact schemaChecked_eq_ok.mpr (hfiles file hmem).valid
    · rfl
  · split
    · exact schemaChecked_eq_ok.mpr hoperation.valid
    · rfl

namespace JournalStore

def undone (store : JournalStore) (workspaceId : WorkspaceId) (rootId : PhysicalRootId)
    (pathBytes : OpaqueRepoPath) (operationId : Option UndoOperationId) :
    List (UndoOperationFile × UndoOperation) :=
  store.operationFiles.rows.filterMap (store.chainRow workspaceId rootId pathBytes operationId)

lemma queryUndoChainSources_congr {workspaceId : WorkspaceId} {rootId : PhysicalRootId}
    {path : OpaqueRepoPath} {operationId : Option UndoOperationId}
    (h : t.undone workspaceId rootId path operationId = s.undone workspaceId rootId path operationId) :
    t.queryUndoChainSources workspaceId rootId path operationId =
      s.queryUndoChainSources workspaceId rootId path operationId := by
  unfold undone at h
  simp only [queryUndoChainSources, chainRows, h]

lemma expectedResultIsBound_congr {restoreSet : TurnRestoreSet} {restored : TurnRestoreFile}
    {file file' : UndoOperationFile}
    (h : ∀ workspaceId rootId path operationId, t.undone workspaceId rootId path operationId =
      s.undone workspaceId rootId path operationId) (hsame : sameFileIdentity file file') :
    t.expectedResultIsBound restoreSet restored file' =
      s.expectedResultIsBound restoreSet restored file := by
  obtain ⟨-, -, -, -, -, -, -, hmetadata, -, -, hchain⟩ := hsame
  simp only [expectedResultIsBound, hmetadata, hchain, queryUndoChainSources_congr (h _ _ _ _)]

lemma bindFiles_congr {operation operation' : UndoOperation} {restoreSet : TurnRestoreSet}
    {files files' : List UndoOperationFile} {restoreFiles : List TurnRestoreFile}
    {keys : List ArtifactKey}
    (h : ∀ workspaceId rootId path operationId, t.undone workspaceId rootId path operationId =
      s.undone workspaceId rootId path operationId)
    (hoperation : operation'.operationId = operation.operationId)
    (hsame : List.Forall₂ sameFileIdentity files files') :
    t.bindFiles operation' restoreSet keys (files'.zip restoreFiles) =
      s.bindFiles operation restoreSet keys (files.zip restoreFiles) := by
  induction hsame generalizing restoreFiles keys with
  | nil => rfl
  | @cons file file' files files' hfile hrest ih =>
      cases restoreFiles with
      | nil => rfl
      | cons restored restoreFiles =>
          have hbound : t.expectedResultIsBound restoreSet restored file' =
              s.expectedResultIsBound restoreSet restored file := expectedResultIsBound_congr h hfile
          obtain ⟨hid, hset, hordinal, hpath, hkey, hsize, hhash, -, hpre, hsha, -⟩ := hfile
          simp only [List.zip_cons_cons, bindFiles, hbound, hoperation, ← hid, ← hset, ← hordinal,
            ← hpath, ← hkey, ← hsize, ← hhash, ← hpre, ← hsha, ih]

end JournalStore

open JournalStore

lemma getElem_ordinal {files : List UndoOperationFile}
    (h : files.map UndoOperationFile.ordinal = List.range files.length) {i : ℕ}
    (hi : i < files.length) : files[i].ordinal = i := by
  have hmap := List.getElem_map UndoOperationFile.ordinal (l := files) (i := i)
    (h := by simpa using hi)
  simp only [h, List.getElem_range] at hmap
  exact hmap.symm

structure Opened (encoding : JournalEncoding) (s : JournalStore) (restoreSet : TurnRestoreSet)
    (restoreFiles : List TurnRestoreFile) (row : UndoOperationRow) (files : List UndoOperationFile)
    (t : JournalStore) : Prop where
  loaded : s.loadTurnRestoreSet encoding row.restoreSetId = .ok (some (restoreSet, restoreFiles))
  fresh : ∀ other ∈ s.operations.rows, other.operationId ≠ row.operationId
  freshFiles : ∀ file ∈ s.operationFiles.rows, file.operationId ≠ row.operationId
  operations : t.operations.rows = s.operations.rows ++ [row]
  operationFiles : t.operationFiles.rows = s.operationFiles.rows ++ files
  setsKept : t.restoreSets = s.restoreSets
  setFilesKept : t.restoreFiles = s.restoreFiles
  owned : ∀ file ∈ files, file.operationId = row.operationId
  ordinals : files.map UndoOperationFile.ordinal = List.range files.length
  unfinished : row.state ≠ .completed
  activity : row.active = !row.state.inactive
  readable : OperationReadable encoding row.toUndoOperation
  few : files.length ≤ maxRestoreFiles
  filesReadable : ∀ file ∈ files, FileReadable encoding file
  bound : s.validateOperationManifestBinding encoding row.toUndoOperation files restoreSet
    restoreFiles = .ok ()

namespace Opened

variable {restoreSet : TurnRestoreSet} {restoreFiles : List TurnRestoreFile}
  {row : UndoOperationRow} {files : List UndoOperationFile}
  {next : UndoOperationState} {reason : Option GuardedUndoReasonCode}
  {details : Option RecoveryDetailsV1} {updatedAt : String}

lemma forall₂_set {i : ℕ} (hi : i < files.length) {next : UndoOperationFile}
    (hsame : sameFileIdentity files[i] next) :
    List.Forall₂ sameFileIdentity files (files.set i next) := by
  apply List.forall₂_iff_get.mpr
  refine ⟨by simp, fun j hj hj' => ?_⟩
  rw [List.get_eq_getElem, List.get_eq_getElem, List.getElem_set]
  split
  · next heq =>
    subst heq
    exact hsame
  · exact sameFileIdentity.refl _

lemma forall_mem_set {P : UndoOperationFile → Prop} {i : ℕ} {next : UndoOperationFile}
    (hfiles : ∀ file ∈ files, P file) (hnext : P next) : ∀ file ∈ files.set i next, P file := by
  intro file hfile
  rcases List.mem_or_eq_of_mem_set hfile with hfile | rfl
  · exact hfiles file hfile
  · exact hnext

lemma unknownNot (hsteps : row.state.stepsTo next = true) :
    row.state.isKnown = true ∧ next.isKnown = true ∧ row.state ≠ next := by
  cases hstate : row.state <;> cases hnext : next <;>
    simp_all [UndoOperationState.stepsTo, UndoOperationState.isKnown]

variable (h : Opened encoding s restoreSet restoreFiles row files t)
include h

lemma find : t.operations.find? row.operationId = some row :=
  KeyedRows.find?_eq_some.mpr ⟨by simp [h.operations], rfl⟩

lemma find_other {id : UndoOperationId} (hid : id ≠ row.operationId) :
    t.operations.find? id = s.operations.find? id := by
  rw [KeyedRows.find?, KeyedRows.find?, h.operations, List.find?_append]
  simp [hid.symm]

lemma filesOf : t.operationFilesOf row.operationId = files := by
  have hold : s.operationFiles.rows.filter (fun file => file.operationId = row.operationId) = [] :=
    List.filter_eq_nil_iff.mpr fun file hfile => by simpa using h.freshFiles file hfile
  have hown : files.filter (fun file => file.operationId = row.operationId) = files :=
    List.filter_eq_self.mpr fun file hfile => by simpa using h.owned file hfile
  have hsorted : files.Pairwise fun a b => a.ordinal ≤ b.ordinal :=
    List.pairwise_map.mp (h.ordinals ▸ List.pairwise_le_range)
  rw [operationFilesOf, h.operationFiles, List.filter_append, hold, hown, List.nil_append]
  exact hsorted.insertionSort_eq

lemma restored :
    t.loadTurnRestoreSet encoding row.restoreSetId = .ok (some (restoreSet, restoreFiles)) := by
  rw [← h.loaded, loadTurnRestoreSet, loadTurnRestoreSet, restoreFilesOf, restoreFilesOf,
    h.setsKept, h.setFilesKept]

lemma undone_eq (workspaceId : WorkspaceId) (rootId : PhysicalRootId) (path : OpaqueRepoPath)
    (operationId : Option UndoOperationId) :
    t.undone workspaceId rootId path operationId = s.undone workspaceId rootId path operationId := by
  rw [undone, undone, h.operationFiles, List.filterMap_append]
  have hown : files.filterMap (t.chainRow workspaceId rootId path operationId) = [] := by
    apply List.filterMap_eq_nil_iff.mpr
    intro file hfile
    rw [chainRow, h.owned file hfile, h.find]
    cases t.restoreSets.find? file.restoreSetId <;> simp [h.unfinished]
  have hold : ∀ file ∈ s.operationFiles.rows, t.chainRow workspaceId rootId path operationId file =
      s.chainRow workspaceId rootId path operationId file := by
    intro file hfile
    rw [chainRow, chainRow, h.find_other (h.freshFiles file hfile), h.setsKept]
  rw [hown, List.append_nil]
  exact List.filterMap_congr hold

lemma binds :
    t.validateOperationManifestBinding encoding row.toUndoOperation files restoreSet restoreFiles =
      .ok () := by
  rw [← h.bound]
  simp only [validateOperationManifestBinding, bindFiles_congr h.undone_eq rfl
    (List.forall₂_same.mpr fun file _ => sameFileIdentity.refl file)]

lemma loadUndoOperation :
    t.loadUndoOperation encoding row.operationId = .ok (some (row.toUndoOperation, files)) := by
  simp only [JournalStore.loadUndoOperation, h.find, h.filesOf]
  rw [checkOperationRows_eq_ok h.readable h.few h.filesReadable]
  rfl

lemma loadBoundOperation (missing : String) :
    loadBoundOperation encoding t row.operationId missing = .ok (row.toUndoOperation, files) := by
  simp only [GuardedUndo.loadBoundOperation, h.loadUndoOperation]
  show (t.loadTurnRestoreSet encoding row.restoreSetId >>= _) = _
  rw [h.restored]
  show (t.validateOperationManifestBinding encoding _ _ _ _ >>= _) = _
  rw [h.binds]
  rfl

lemma getUndoOperation :
    getUndoOperation encoding t row.operationId = .ok (some (row.toUndoOperation, files)) := by
  simp only [GuardedUndo.getUndoOperation, h.loadUndoOperation]
  show (if _ then (t.loadTurnRestoreSet encoding row.restoreSetId >>= _) else _) = _
  rw [h.restored]
  show (if _ then (t.validateOperationManifestBinding encoding _ _ _ _ >>= _) else _) = _
  rw [h.binds]
  exact ite_self _

lemma loadActiveOperation (hactive : row.state.inactive = false) :
    loadActiveOperation encoding t row.operationId = .ok files := by
  have hrow : row.active = true := by rw [h.activity, hactive, Bool.not_false]
  simp only [GuardedUndo.loadActiveOperation, h.loadUndoOperation, except_bind_eq_ok,
    Unique.exists_iff, refuse_eq_ok]
  refine ⟨_, rfl, _, rfl, by simp [hrow], _, h.restored, _, rfl, h.binds, rfl⟩

lemma find_ordinal {i : ℕ} (hi : i < files.length) :
    files.find? (fun file => file.ordinal = i) = some files[i] := by
  cases hfind : files.find? fun file => file.ordinal = i with
  | none =>
      have hnone := List.find?_eq_none.mp hfind _ (List.getElem_mem hi)
      simp [getElem_ordinal h.ordinals hi] at hnone
  | some file =>
      obtain ⟨j, hj, rfl⟩ := List.getElem_of_mem (List.mem_of_find?_eq_some hfind)
      have hij := List.find?_some hfind
      simp only [getElem_ordinal h.ordinals hj, decide_eq_true_eq] at hij
      simp only [hij]

lemma binding_set {i : ℕ} (hi : i < files.length) {next : UndoOperationFile}
    (hreadable : FileReadable encoding next) (hsame : sameFileIdentity files[i] next) :
    s.validateOperationManifestBinding encoding row.toUndoOperation (files.set i next) restoreSet
      restoreFiles = .ok () := by
  have hbound := h.bound
  have hknown : ∀ file ∈ files.set i next,
      file.state.isKnown = true ∧ file.verificationOutcome.isKnown = true :=
    forall_mem_set (fun file hfile => (h.filesReadable file hfile).known) hreadable.known
  have hnonempty : files.set i next ≠ [] := by
    intro hnil
    have hlength := congrArg List.length hnil
    rw [List.length_set, List.length_nil] at hlength
    exact absurd hi (by simp [hlength])
  simp only [validateOperationManifestBinding, except_bind_eq_ok, Unique.exists_iff, refuse_eq_ok,
    not_or, not_exists, not_and, List.length_set] at hbound ⊢
  obtain ⟨⟨hversion, hstate, hset, -, hlength, -⟩, rootId, hroot, hrootId, git, hgit, hidentity,
    hmanifest, hfiles⟩ := hbound
  refine ⟨⟨hversion, hstate, hset, hnonempty, hlength, fun file hfile => ?_⟩, rootId, hroot, hrootId,
    git, hgit, hidentity, hmanifest, ?_⟩
  · simp [hknown file hfile]
  · rw [← hfiles]
    exact bindFiles_congr (fun _ _ _ _ => rfl) rfl (forall₂_set hi hsame)

lemma set {i : ℕ} (hi : i < files.length) {next : UndoOperationFile}
    (hreadable : FileReadable encoding next) (hsame : sameFileIdentity files[i] next) {u : JournalStore}
    (hrows : u.operationFiles.rows = s.operationFiles.rows ++ files.set i next)
    (hoperations : u.operations = t.operations) (hsets : u.restoreSets = t.restoreSets)
    (hsetFiles : u.restoreFiles = t.restoreFiles) :
    Opened encoding s restoreSet restoreFiles row (files.set i next) u where
  loaded := h.loaded
  fresh := h.fresh
  freshFiles := h.freshFiles
  operations := by rw [hoperations, h.operations]
  operationFiles := hrows
  setsKept := hsets.trans h.setsKept
  setFilesKept := hsetFiles.trans h.setFilesKept
  owned := forall_mem_set h.owned (hsame.1 ▸ h.owned _ (List.getElem_mem hi))
  ordinals := by
    rw [List.map_set, List.length_set, ← h.ordinals]
    have hordinal := hsame.2.2.1
    rw [getElem_ordinal h.ordinals hi] at hordinal
    apply List.ext_getElem (by simp)
    intro j hj hj'
    rw [List.getElem_set]
    split
    · next heq =>
      subst heq
      rw [List.getElem_map, getElem_ordinal h.ordinals, hordinal]
    · rfl
  unfinished := h.unfinished
  activity := h.activity
  readable := h.readable
  few := by rw [List.length_set]; exact h.few
  filesReadable := forall_mem_set h.filesReadable hreadable
  bound := h.binding_set hi hreadable hsame

lemma rows_set {i : ℕ} (hi : i < files.length) {next : UndoOperationFile}
    (hsame : sameFileIdentity files[i] next) :
    (t.operationFiles.rows.map fun file =>
      if decide (file.operationId = next.operationId ∧ file.ordinal = next.ordinal ∧
        file.state = files[i].state) = true then file.withTransition next else file) =
      s.operationFiles.rows ++ files.set i next := by
  have howner : next.operationId = row.operationId :=
    hsame.1.symm.trans (h.owned _ (List.getElem_mem hi))
  have hordinal : next.ordinal = i := hsame.2.2.1.symm.trans (getElem_ordinal h.ordinals hi)
  have hold : ∀ file ∈ s.operationFiles.rows,
      (if decide (file.operationId = next.operationId ∧ file.ordinal = next.ordinal ∧
        file.state = files[i].state) = true then file.withTransition next else file) = file := by
    intro file hfile
    rw [howner]
    exact if_neg (by simp [h.freshFiles file hfile])
  rw [h.operationFiles, List.map_append, List.map_congr_left hold, List.map_id']
  congr 1
  apply List.ext_getElem (by simp)
  intro j hj hj'
  have hjlt : j < files.length := by simpa using hj
  have hselects : (files[j].operationId = next.operationId ∧ files[j].ordinal = next.ordinal ∧
      files[j].state = files[i].state) ↔ i = j := by
    rw [h.owned _ (List.getElem_mem hjlt), getElem_ordinal h.ordinals hjlt, howner, hordinal]
    constructor
    · exact fun hselected => hselected.2.1.symm
    · rintro rfl
      exact ⟨rfl, rfl, rfl⟩
  rw [List.getElem_map, List.getElem_set]
  by_cases hij : i = j
  · rw [if_pos hij, if_pos (decide_eq_true (hselects.mpr hij))]
    subst hij
    exact withTransition_eq hsame
  · rw [if_neg hij, if_neg (mt of_decide_eq_true (mt hselects.mp hij))]

theorem transitionFile {i : ℕ} (hi : i < files.length) {next : UndoOperationFile}
    (hactive : row.state.inactive = false)
    (hreadable : FileReadable encoding next) (hsame : sameFileIdentity files[i] next)
    (hsteps : files[i].state.stepsTo next.state = true)
    (hstaged : files[i].stagedMetadata = next.stagedMetadata ∨ stagesFile files[i] next = true) :
    ∃ u, transitionUndoOperationFile encoding files[i].state next t = (.ok true, u) ∧
      Opened encoding s restoreSet restoreFiles row (files.set i next) u := by
  have hcurrent := h.filesReadable _ (List.getElem_mem hi)
  have howner : next.operationId = row.operationId :=
    hsame.1.symm.trans (h.owned _ (List.getElem_mem hi))
  have hordinal : next.ordinal = i := hsame.2.2.1.symm.trans (getElem_ordinal h.ordinals hi)
  have hcan : files[i].state.canTransitionTo next.state = true := by
    rw [UndoOperationFileState.canTransitionTo, hsteps, Bool.or_true]
  have hne : files[i].state ≠ next.state := by
    intro heq
    rw [heq] at hsteps
    cases hstate : next.state <;> simp [hstate, UndoOperationFileState.stepsTo] at hsteps
  have hrow := h.rows_set hi hsame
  have hchanged : t.operationFiles.changed (fun file =>
      decide (file.operationId = next.operationId ∧ file.ordinal = next.ordinal ∧
        file.state = files[i].state)) = 1 := by
    have hmem : files[i] ∈ t.operationFiles.rows := by simp [h.operationFiles]
    apply KeyedRows.changed_key hmem
    · simp [hsame.1, hsame.2.2.1]
    · intro file hfile
      simp only [decide_eq_true_eq] at hfile
      exact Prod.ext (hfile.1.trans hsame.1.symm) (hfile.2.1.trans hsame.2.2.1.symm)
  refine ⟨{ t with
    operationFiles := t.operationFiles.updateWhere (fun file =>
      decide (file.operationId = next.operationId ∧ file.ordinal = next.ordinal ∧
        file.state = files[i].state)) (·.withTransition next) fun _ => rfl }, ?_,
    h.set hi hreadable hsame hrow rfl rfl rfl⟩
  unfold transitionUndoOperationFile
  refine Call.liftExcept_bind_ok_iff.mpr ⟨(), schemaChecked_eq_ok.mpr hreadable.valid, ?_⟩
  refine Call.liftExcept_bind_ok_iff.mpr ⟨(), ?_, ?_⟩
  · simp [hcurrent.known.1, hreadable.known.1, hcan]
  refine Call.atomically_ok_iff.mpr (Call.read_bind_ok_iff.mpr ?_)
  refine Call.liftExcept_bind_ok_iff.mpr ⟨files, howner ▸ h.loadActiveOperation hactive, ?_⟩
  refine Call.liftExcept_bind_ok_iff.mpr ⟨files[i], demand_eq_ok.mpr ?_, ?_⟩
  · rw [hordinal]
    exact h.find_ordinal hi
  rw [if_neg hne]
  refine Call.liftExcept_bind_ok_iff.mpr ⟨(), ?_, ?_⟩
  · simp only [checkFileTransition, except_seq_eq_ok, refuse_eq_ok, not_or, not_not, not_and,
      Bool.not_eq_false]
    refine ⟨⟨trivial, hcan⟩, ⟨hsame, fun hchange => hstaged.resolve_left hchange⟩,
      hreadable.sizes.2.2, hreadable.stagedFits, hreadable.displacedFits, hreadable.detailsFit⟩
  · refine Call.bind_ok_iff.mpr ⟨(), _, ?_, rfl⟩
    refine Call.read_bind_ok_iff.mpr (Call.update_bind_ok_iff.mpr ?_)
    exact Call.liftExcept_ok_iff.mpr ⟨refuse_eq_ok.mpr (not_not.mpr hchanged), rfl⟩

lemma eligible : restoreSet.state = .eligible := by
  have hbound := h.bound
  simp only [validateOperationManifestBinding, except_bind_eq_ok, Unique.exists_iff, refuse_eq_ok,
    not_or, not_not] at hbound
  by_contra hne
  exact hbound.1.2.1 ⟨hne, fun hconsumed => h.unfinished hconsumed.2⟩

lemma completedAt (hactive : row.state.inactive = false) : row.completedAt = none := by
  have hvalid := h.readable.valid
  simp only [UndoOperation.validate, except_seq_eq_ok, refuse_eq_ok, Bool.not_eq_false] at hvalid
  have hconsistent := hvalid.2.2.2.2.2.2.2.2
  cases hstate : row.state <;>
    simp_all [UndoOperation.stateConsistent, UndoOperationState.inactive]

lemma moved_toUndoOperation (hactive : row.state.inactive = false) :
    (row.withTransition next reason details updatedAt).toUndoOperation =
      row.toUndoOperation.withTransition next reason details updatedAt := by
  simp [UndoOperationRow.withTransition, UndoOperation.withTransition, h.completedAt hactive]

lemma rows_moved :
    (t.operations.rows.map fun other =>
      if decide (other.operationId = row.operationId ∧ other.state = row.state) = true then
        other.withTransition next reason details updatedAt
      else other) = s.operations.rows ++ [row.withTransition next reason details updatedAt] := by
  have hold : ∀ other ∈ s.operations.rows,
      (if decide (other.operationId = row.operationId ∧ other.state = row.state) = true then
        other.withTransition next reason details updatedAt else other) = other :=
    fun other hother => if_neg (by simp [h.fresh other hother])
  rw [h.operations, List.map_append, List.map_congr_left hold, List.map_id']
  simp

lemma writeTransition (next : UndoOperationState) (reason : Option GuardedUndoReasonCode)
    (details : Option RecoveryDetailsV1) (updatedAt : String)
    (hfits : fitsColumn encoding.recoveryDetailsJson 1024 details = true) :
    ∃ operations, operations.rows = s.operations.rows ++
        [row.withTransition next reason details updatedAt] ∧
      writeOperationTransition encoding row.operationId row.state next reason details updatedAt t =
        (.ok (), { t with operations := operations }) := by
  have hchanged : t.operations.changed (fun other =>
      decide (other.operationId = row.operationId ∧ other.state = row.state)) = 1 := by
    have hmem : row ∈ t.operations.rows := by simp [h.operations]
    apply KeyedRows.changed_key hmem (by simp)
    intro other hother
    simp only [decide_eq_true_eq] at hother
    exact hother.1
  refine ⟨t.operations.updateWhere (fun other =>
    decide (other.operationId = row.operationId ∧ other.state = row.state))
    (·.withTransition next reason details updatedAt) fun _ => rfl, h.rows_moved, ?_⟩
  unfold writeOperationTransition
  refine Call.liftExcept_bind_ok_iff.mpr ⟨(), by simp [hfits], ?_⟩
  refine Call.read_bind_ok_iff.mpr (Call.update_bind_ok_iff.mpr ?_)
  exact Call.liftExcept_ok_iff.mpr ⟨refuse_eq_ok.mpr (not_not.mpr hchanged), rfl⟩

lemma transition_of_writes (hsteps : row.state.stepsTo next = true)
    (hreadable : OperationReadable encoding
      (row.toUndoOperation.withTransition next reason details updatedAt))
    (hready : checkNextFiles next files = .ok ()) {v u : JournalStore}
    (hwrite : writeOperationTransition encoding row.operationId row.state next reason details
      updatedAt t = (.ok (), v))
    (hset : (if next = .completed then consumeRestoreSet row.restoreSetId updatedAt
      else pure ()) v = (.ok (), u)) :
    transitionUndoOperation encoding row.operationId row.state next reason details updatedAt t =
      (.ok true, u) := by
  obtain ⟨hknown, hnext, hne⟩ := unknownNot hsteps
  have hcan : row.state.canTransitionTo next = true := by
    rw [UndoOperationState.canTransitionTo, hsteps, Bool.or_true]
  have hvalid := hreadable.valid
  have hreason : ¬∃ r ∈ reason, r.isKnown = false := by
    simp only [UndoOperation.validate, except_seq_eq_ok] at hvalid
    obtain ⟨-, -, -, -, hreason, -⟩ := hvalid
    rintro ⟨r, hr, hunknown⟩
    have hcheck : requireKnownReason r = .ok () := by
      have hsome : reason = some r := hr
      simpa [UndoOperation.withTransition, validateSome, hsome] using hreason
    exact refuse_eq_ok.mp hcheck hunknown
  have hversion : row.journalVersion = undoJournalSchemaVersion := by
    simp only [UndoOperation.validate, requireSchema, except_seq_eq_ok, refuse_eq_ok,
      not_not] at hvalid
    exact hvalid.1
  unfold transitionUndoOperation
  refine Call.liftExcept_bind_ok_iff.mpr ⟨(), by simp [hknown, hnext, hcan], ?_⟩
  refine Call.liftExcept_bind_ok_iff.mpr ⟨(), refuse_eq_ok.mpr hreason, ?_⟩
  refine Call.liftExcept_bind_ok_iff.mpr ⟨(), schemaChecked_eq_ok.mpr hreadable.identity.2, ?_⟩
  refine Call.atomically_ok_iff.mpr (Call.read_bind_ok_iff.mpr ?_)
  refine Call.liftExcept_bind_ok_iff.mpr ⟨row, demand_eq_ok.mpr h.find, ?_⟩
  refine Call.liftExcept_bind_ok_iff.mpr ⟨(), by simp [hversion], ?_⟩
  refine Call.liftExcept_bind_ok_iff.mpr ⟨_, h.loadBoundOperation _, ?_⟩
  dsimp only
  rw [if_neg hne]
  refine Call.liftExcept_bind_ok_iff.mpr ⟨(), by simp [hcan], ?_⟩
  refine Call.liftExcept_bind_ok_iff.mpr ⟨(), schemaChecked_eq_ok.mpr hvalid, ?_⟩
  refine Call.liftExcept_bind_ok_iff.mpr ⟨(), hready, ?_⟩
  refine Call.bind_ok_iff.mpr ⟨(), v, hwrite, ?_⟩
  split
  · next hcompleted =>
    rw [if_pos hcompleted] at hset
    exact Call.bind_ok_iff.mpr ⟨(), u, hset, rfl⟩
  · next hnot =>
    rw [if_neg hnot] at hset
    cases hset
    rfl

theorem transition (hsteps : row.state.stepsTo next = true) (hnext : next ≠ .completed)
    (hreadable : OperationReadable encoding
      (row.toUndoOperation.withTransition next reason details updatedAt))
    (hready : checkNextFiles next files = .ok ()) :
    ∃ u, transitionUndoOperation encoding row.operationId row.state next reason details updatedAt
        t = (.ok true, u) ∧
      Opened encoding s restoreSet restoreFiles
        (row.withTransition next reason details updatedAt) files u := by
  have hactive := UndoOperationState.not_inactive_of_stepsTo hsteps
  obtain ⟨operations, hrows, hwrite⟩ :=
    h.writeTransition next reason details updatedAt hreadable.detailsFit
  refine ⟨{ t with operations := operations },
    h.transition_of_writes hsteps hreadable hready hwrite (by rw [if_neg hnext]; rfl), {
      loaded := h.loaded
      fresh := h.fresh
      freshFiles := h.freshFiles
      operations := hrows
      operationFiles := h.operationFiles
      setsKept := h.setsKept
      setFilesKept := h.setFilesKept
      owned := h.owned
      ordinals := h.ordinals
      unfinished := hnext
      activity := rfl
      readable := by rw [h.moved_toUndoOperation hactive]; exact hreadable
      few := h.few
      filesReadable := h.filesReadable
      bound := ?_ }⟩
  have hbound := h.bound
  simp only [validateOperationManifestBinding, except_bind_eq_ok, Unique.exists_iff, refuse_eq_ok,
    not_or, not_exists, not_and] at hbound ⊢
  obtain ⟨⟨hversion, -, hset, hfiles⟩, rootId, hroot, hrootId, git, hgit, hidentity, hmanifest,
    hfilesBound⟩ := hbound
  refine ⟨⟨hversion, fun hnot => absurd h.eligible hnot, hset, hfiles⟩, rootId, hroot, hrootId,
    git, hgit, hidentity, hmanifest, ?_⟩
  rw [← hfilesBound]
  exact bindFiles_congr (fun _ _ _ _ => rfl) rfl
    (List.forall₂_same.mpr fun file _ => sameFileIdentity.refl file)

end Opened

def TurnRestoreSet.consumedAt (restoreSet : TurnRestoreSet) (updatedAt : String) : TurnRestoreSet :=
  { restoreSet with state := .consumed, reasonCode := none, completedAt := some updatedAt }

structure Finished (s : JournalStore) (row : UndoOperationRow) (files : List UndoOperationFile)
    (updatedAt : String) (t : JournalStore) : Prop where
  operations : t.operations.rows = s.operations.rows ++ [row]
  operationFiles : t.operationFiles.rows = s.operationFiles.rows ++ files
  restoreSets : t.restoreSets.rows = s.restoreSets.rows.map fun restoreSet =>
    if restoreSet.restoreSetId = row.restoreSetId then restoreSet.consumedAt updatedAt
    else restoreSet
  restoreFiles : t.restoreFiles = s.restoreFiles

variable {restoreSet : TurnRestoreSet} {restoreFiles : List TurnRestoreFile}
  {row : UndoOperationRow} {files : List UndoOperationFile} {updatedAt : String}

lemma consumeRestoreSet_accepts (updatedAt : String)
    (hmem : restoreSet ∈ t.restoreSets.rows)
    (heligible : restoreSet.state = .eligible) :
    ∃ restoreSets, restoreSets.rows = (t.restoreSets.rows.map fun other =>
        if other.restoreSetId = restoreSet.restoreSetId then other.consumedAt updatedAt else other) ∧
      consumeRestoreSet restoreSet.restoreSetId updatedAt t =
        (.ok (), { t with restoreSets := restoreSets }) := by
  have hselects : ∀ other ∈ t.restoreSets.rows, (other.restoreSetId = restoreSet.restoreSetId ∧
      other.state = .eligible) ↔ other.restoreSetId = restoreSet.restoreSetId := by
    intro other hother
    constructor
    · exact fun h => h.1
    · intro h
      rw [t.restoreSets.eq_of_key hother hmem h]
      exact ⟨rfl, heligible⟩
  have hchanged : t.restoreSets.changed (fun other =>
      decide (other.restoreSetId = restoreSet.restoreSetId ∧ other.state = .eligible)) = 1 := by
    apply KeyedRows.changed_key hmem (by simp [heligible])
    intro other hother
    simp only [decide_eq_true_eq] at hother
    exact hother.1
  refine ⟨t.restoreSets.updateWhere (fun other =>
    decide (other.restoreSetId = restoreSet.restoreSetId ∧ other.state = .eligible))
    (·.consumedAt updatedAt) fun _ => rfl, ?_, ?_⟩
  · apply List.map_congr_left
    intro other hother
    simp only [hselects other hother, decide_eq_true_eq]
  · refine Call.read_bind_ok_iff.mpr (Call.update_bind_ok_iff.mpr ?_)
    exact Call.liftExcept_ok_iff.mpr ⟨refuse_eq_ok.mpr (not_not.mpr hchanged), rfl⟩

theorem Opened.complete (h : Opened encoding s restoreSet restoreFiles row files t)
    (hstate : row.state = .verifying)
    (hreadable : OperationReadable encoding
      (row.toUndoOperation.withTransition .completed none none updatedAt))
    (hready : checkNextFiles .completed files = .ok ()) :
    ∃ u, transitionUndoOperation encoding row.operationId .verifying .completed none none updatedAt
        t = (.ok true, u) ∧
      Finished s (row.withTransition .completed none none updatedAt) files updatedAt u := by
  obtain ⟨hmem, hid, -⟩ := JournalStore.loadTurnRestoreSet_ok h.loaded
  obtain ⟨operations, hrows, hwrite⟩ :=
    h.writeTransition .completed none none updatedAt hreadable.detailsFit
  obtain ⟨restoreSets, hsets, hconsume⟩ := consumeRestoreSet_accepts updatedAt
    (t := { t with operations := operations }) (h.setsKept ▸ hmem) h.eligible
  have hmoves := h.transition_of_writes (by rw [hstate]; rfl) hreadable hready hwrite
    (by rw [if_pos rfl, ← hid]; exact hconsume)
  rw [hstate] at hmoves
  refine ⟨{ t with operations := operations, restoreSets := restoreSets }, hmoves, hrows,
    h.operationFiles, ?_, h.setFilesKept⟩
  show restoreSets.rows = _
  rw [hsets, hid, h.setsKept]
  rfl

structure FileNew (encoding : JournalEncoding) (operation : UndoOperation)
    (file : UndoOperationFile) : Prop where
  readable : FileReadable encoding file
  owner : file.operationId = operation.operationId
  ownSet : file.restoreSetId = operation.restoreSetId
  planned : file.state = .planned
  pending : file.verificationOutcome = .pending
  undisplaced : file.displacedSize = none
  undetailed : file.recoveryDetails = none
  chainFits : fitsColumn (fun id => id.value.length) 256 file.chainedFromOperationId = true

lemma checkNewOperation_eq_ok {operation : UndoOperation}
    (hoperation : OperationReadable encoding operation) (hstate : operation.state = .preparing)
    (hactive : operation.active = true) (hdigest : operation.previewTokenDigest.isSome = true)
    (hordinals : files.map UndoOperationFile.ordinal = List.range files.length)
    (hfiles : ∀ file ∈ files, FileNew encoding operation file) :
    checkNewOperation operation files = .ok () := by
  simp only [checkNewOperation, except_seq_eq_ok, refuse_eq_ok, schemaChecked_eq_ok, not_not,
    Bool.not_eq_true, Bool.not_eq_false]
  refine ⟨hoperation.valid, hstate, hactive, by simpa using hdigest, forM_eq_ok.mpr ?_⟩
  rintro ⟨file, i⟩ hmem
  have hget : files[i]? = some file := List.mem_zipIdx_iff_getElem?.mp hmem
  obtain ⟨hi, rfl⟩ := List.getElem?_eq_some_iff.mp hget
  have hnew := hfiles _ (List.getElem_mem hi)
  have hordinal := getElem_ordinal hordinals hi
  simp only [checkNewFile, except_seq_eq_ok, refuse_eq_ok, schemaChecked_eq_ok]
  exact ⟨hnew.readable.valid, by simp [hnew.owner, hordinal],
    by simp [hnew.planned, hnew.pending, hnew.undisplaced, hnew.undetailed]⟩

lemma insertUndoOperationFile_accepts {operation : UndoOperation} {file : UndoOperationFile}
    (hnew : FileNew encoding operation file)
    (howner : ∃ row ∈ t.operations.rows, row.operationId = operation.operationId ∧
      row.restoreSetId = operation.restoreSetId)
    (hrestored : t.restoreFiles.find? (file.restoreSetId, file.ordinal) ≠ none)
    (hfree : ∀ other ∈ t.operationFiles.rows, other.operationId = file.operationId →
      other.pathBytes ≠ file.pathBytes ∧ other.ordinal ≠ file.ordinal) :
    ∃ operationFiles, operationFiles.rows = t.operationFiles.rows ++ [file] ∧
      insertUndoOperationFile encoding file t =
        (.ok (), { t with operationFiles := operationFiles }) := by
  have hkeys : ∀ other ∈ t.operationFiles.rows,
      (other.operationId, other.ordinal) ≠ (file.operationId, file.ordinal) := by
    rintro other hother heq
    obtain ⟨hid, hordinal⟩ := Prod.mk.inj heq
    exact (hfree other hother hid).2 hordinal
  obtain ⟨operationFiles, hinsert⟩ : ∃ operationFiles,
      t.operationFiles.insert file = some operationFiles := by
    cases hinsert : t.operationFiles.insert file with
    | none =>
        obtain ⟨old, hold, hkey⟩ := KeyedRows.insert_eq_none.mp hinsert
        exact absurd hkey (hkeys old hold)
    | some operationFiles => exact ⟨operationFiles, rfl⟩
  refine ⟨operationFiles, (KeyedRows.insert_eq_some.mp hinsert).2, ?_⟩
  unfold insertUndoOperationFile
  refine Call.read_bind_ok_iff.mpr ?_
  refine Call.liftExcept_bind_ok_iff.mpr ⟨(), ?_, ?_⟩
  · obtain ⟨hpre, hexpected, hdisplaced⟩ := hnew.readable.sizes
    simp only [checkFileColumns, except_seq_eq_ok, refuse_eq_ok, schemaChecked_eq_ok, sqliteInteger,
      not_lt, not_or, not_exists, not_and, Bool.not_eq_false]
    refine ⟨hnew.readable.valid, hexpected, hpre, hdisplaced, ⟨hnew.readable.expectedFits,
      hnew.readable.stagedFits, hnew.readable.displacedFits, hnew.readable.detailsFit,
      hnew.chainFits⟩, fun other hother hid => (hfree other hother hid).1, ?_, hrestored⟩
    obtain ⟨row, hrow, hid, hset⟩ := howner
    exact fun hnone => hnone row hrow (hid.trans hnew.owner.symm) (hset.trans hnew.ownSet.symm)
  · exact Call.liftExcept_bind_ok_iff.mpr ⟨operationFiles, demand_eq_ok.mpr hinsert, rfl⟩

lemma insertUndoOperationFiles_accepts {operation : UndoOperation}
    (hnew : ∀ file ∈ files, FileNew encoding operation file)
    (howner : ∃ row ∈ t.operations.rows, row.operationId = operation.operationId ∧
      row.restoreSetId = operation.restoreSetId)
    (hrestored : ∀ file ∈ files, t.restoreFiles.find? (file.restoreSetId, file.ordinal) ≠ none)
    (hfree : ∀ other ∈ t.operationFiles.rows, ∀ file ∈ files,
      other.operationId = file.operationId →
        other.pathBytes ≠ file.pathBytes ∧ other.ordinal ≠ file.ordinal)
    (hdistinct : files.Pairwise fun a b =>
      a.pathBytes ≠ b.pathBytes ∧ a.ordinal ≠ b.ordinal) :
    ∃ operationFiles, operationFiles.rows = t.operationFiles.rows ++ files ∧
      insertUndoOperationFiles encoding files t =
        (.ok (), { t with operationFiles := operationFiles }) := by
  induction files generalizing t with
  | nil => exact ⟨t.operationFiles, (List.append_nil _).symm, rfl⟩
  | cons file rest ih =>
      obtain ⟨hfirst, hrest⟩ := List.pairwise_cons.mp hdistinct
      have hmem : file ∈ file :: rest := by simp
      obtain ⟨inserted, hrows, hinsert⟩ := insertUndoOperationFile_accepts (hnew file hmem) howner
        (hrestored file hmem) fun other hother => hfree other hother file hmem
      have hfree' : ∀ other ∈ inserted.rows, ∀ later ∈ rest,
          other.operationId = later.operationId →
            other.pathBytes ≠ later.pathBytes ∧ other.ordinal ≠ later.ordinal := by
        intro other hother later hlater
        rw [hrows, List.mem_append, List.mem_singleton] at hother
        rcases hother with hother | rfl
        · exact hfree other hother later (List.mem_cons_of_mem _ hlater)
        · exact fun _ => hfirst later hlater
      obtain ⟨operationFiles, hall, hothers⟩ := ih (t := { t with operationFiles := inserted })
        (fun later hlater => hnew later (List.mem_cons_of_mem _ hlater)) howner
        (fun later hlater => hrestored later (List.mem_cons_of_mem _ hlater)) hfree' hrest
      refine ⟨operationFiles, ?_, ?_⟩
      · rw [hall]
        show inserted.rows ++ rest = _
        rw [hrows, List.append_assoc, List.singleton_append]
      · exact Call.bind_ok_iff.mpr ⟨(), _, hinsert, hothers⟩

theorem createUndoOperation_accepts {operation : UndoOperation}
    (hoperation : OperationReadable encoding operation) (hstate : operation.state = .preparing)
    (hactive : operation.active = true) (hdigest : operation.previewTokenDigest.isSome = true)
    (hordinals : files.map UndoOperationFile.ordinal = List.range files.length)
    (hpaths : (files.map UndoOperationFile.pathBytes).Nodup) (hfew : files.length ≤ maxRestoreFiles)
    (hfiles : ∀ file ∈ files, FileNew encoding operation file)
    (hloaded : s.loadTurnRestoreSet encoding operation.restoreSetId =
      .ok (some (restoreSet, restoreFiles)))
    (hbound : s.validateOperationManifestBinding encoding operation files restoreSet restoreFiles =
      .ok ())
    (hrestored : ∀ file ∈ files, s.restoreFiles.find? (file.restoreSetId, file.ordinal) ≠ none)
    (hfresh : ∀ other ∈ s.operations.rows, other.operationId ≠ operation.operationId)
    (hfreshFiles : ∀ file ∈ s.operationFiles.rows, file.operationId ≠ operation.operationId)
    (halone : ∀ other ∈ s.operations.rows, other.active = true →
      other.restoreSetId ≠ operation.restoreSetId) :
    ∃ t, createUndoOperation encoding operation files s = (.ok (), t) ∧
      Opened encoding s restoreSet restoreFiles { operation with cleanupPending := true } files t := by
  have hnew := checkNewOperation_eq_ok hoperation hstate hactive hdigest hordinals hfiles
  have hcheck : checkCreate encoding s operation files = .ok () := by
    have hbinding := hbound
    simp only [validateOperationManifestBinding, except_bind_eq_ok, Unique.exists_iff, refuse_eq_ok,
      demand_eq_ok, not_or, not_not] at hbinding
    obtain ⟨⟨-, heligible, -, hnonempty, hlength, -⟩, rootId, hroot, hrootId, git, hgit,
      ⟨hidentity, hdigest⟩, -⟩ := hbinding
    simp only [checkCreate, except_bind_eq_ok, Unique.exists_iff, refuse_eq_ok, demand_eq_ok, not_or,
      not_not]
    refine ⟨_, hloaded, _, rfl, ?_, ⟨hnonempty, hlength⟩, ⟨by rw [hroot, hrootId],
      by rw [hgit, hidentity], hdigest⟩, hbound⟩
    by_contra hne
    exact heligible ⟨hne, fun hcompleted => by simp [hstate] at hcompleted⟩
  have hset : s.restoreSets.find? operation.restoreSetId ≠ none := by
    obtain ⟨hmem, hid, -⟩ := JournalStore.loadTurnRestoreSet_ok hloaded
    exact fun hnone => KeyedRows.find?_eq_none.mp hnone restoreSet hmem hid
  have hcolumns : checkOperationColumns encoding s operation = .ok () := by
    simp only [checkOperationColumns, except_seq_eq_ok, refuse_eq_ok, not_or, not_exists, not_and,
      Bool.not_eq_false]
    exact ⟨⟨hoperation.identityFits, hoperation.detailsFit⟩, halone, hset⟩
  obtain ⟨operations, hinsert⟩ : ∃ operations, s.operations.insert
      { operation with active := true, cleanupPending := true } = some operations := by
    cases hinsert : s.operations.insert { operation with active := true, cleanupPending := true } with
    | none =>
        obtain ⟨old, hold, hkey⟩ := KeyedRows.insert_eq_none.mp hinsert
        exact absurd hkey (hfresh old hold)
    | some operations => exact ⟨operations, rfl⟩
  have hrows : operations.rows = s.operations.rows ++ [{ operation with cleanupPending := true }] := by
    rw [(KeyedRows.insert_eq_some.mp hinsert).2, ← hactive]
  have hdistinct : files.Pairwise fun a b => a.pathBytes ≠ b.pathBytes ∧ a.ordinal ≠ b.ordinal := by
    have hordinalsNodup : (files.map UndoOperationFile.ordinal).Nodup := hordinals ▸ List.nodup_range
    exact (List.pairwise_map.mp hpaths).and (List.pairwise_map.mp hordinalsNodup)
  obtain ⟨operationFiles, hfileRows, hinserts⟩ := insertUndoOperationFiles_accepts
    (t := { s with operations := operations }) hfiles
    ⟨{ operation with cleanupPending := true }, by simp [hrows], rfl, rfl⟩ hrestored
    (fun other hother file hfile hid =>
      absurd (hid.trans (hfiles file hfile).owner) (hfreshFiles other hother)) hdistinct
  refine ⟨{ s with operations := operations, operationFiles := operationFiles }, ?_, {
    loaded := hloaded
    fresh := hfresh
    freshFiles := hfreshFiles
    operations := hrows
    operationFiles := hfileRows
    setsKept := rfl
    setFilesKept := rfl
    owned := fun file hfile => (hfiles file hfile).owner
    ordinals := hordinals
    unfinished := by simp [hstate]
    activity := by simp [hstate, hactive, UndoOperationState.inactive]
    readable := hoperation
    few := hfew
    filesReadable := fun file hfile => (hfiles file hfile).readable
    bound := hbound }⟩
  unfold createUndoOperation
  refine Call.liftExcept_bind_ok_iff.mpr ⟨(), hnew, Call.atomically_ok_iff.mpr ?_⟩
  refine Call.read_bind_ok_iff.mpr (Call.liftExcept_bind_ok_iff.mpr ⟨(), hcheck, ?_⟩)
  refine Call.bind_ok_iff.mpr ⟨(), { s with operations := operations }, ?_, hinserts⟩
  unfold insertUndoOperation
  refine Call.read_bind_ok_iff.mpr (Call.liftExcept_bind_ok_iff.mpr ⟨(), hcolumns, ?_⟩)
  exact Call.liftExcept_bind_ok_iff.mpr ⟨operations, demand_eq_ok.mpr hinsert, rfl⟩

end DevCommandCenter.GuardedUndo
