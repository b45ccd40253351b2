import DevCommandCenter.GuardedUndo.JournalInvariants
import DevCommandCenter.GuardedUndo.RestoreService

/-! What outlives the process: what the journal says of one undo, and what its files may hold. -/

namespace DevCommandCenter.GuardedUndo

open Library JournalStore

structure UndoDisk where
  targets : OpaqueRepoPath → Option FileEvidence
  siblings : OpaqueRepoPath → ArtifactKey → Option FileEvidence

structure Durable where
  journal : JournalStore
  disk : UndoDisk

def World.durable (w : World) : Durable where
  journal := w.journal
  disk := { targets := w.targets, siblings := w.siblings }

namespace UndoDisk

def setSibling (disk : UndoDisk) (path : OpaqueRepoPath) (key : ArtifactKey)
    (file : Option FileEvidence) : UndoDisk :=
  { disk with
    siblings := Function.update disk.siblings path (Function.update (disk.siblings path) key file) }

def exchanged (disk : UndoDisk) (path : OpaqueRepoPath) (key : ArtifactKey)
    (target sibling : FileEvidence) : UndoDisk :=
  { disk.setSibling path key (some target) with
    targets := Function.update disk.targets path (some sibling) }

variable (disk : UndoDisk) (file : UndoOperationFile)

def Untouched : Prop :=
  disk.targets file.pathBytes = some (resultEvidence file)

def Restored : Prop :=
  ∃ staged, stagedEvidence file = some staged ∧ disk.targets file.pathBytes = some staged

def Unapplied : Prop :=
  disk.Untouched file ∧ ∃ staged, stagedEvidence file = some staged ∧
    disk.siblings file.pathBytes file.exchangeArtifactKey = some staged

def Applied : Prop :=
  disk.Restored file ∧
    disk.siblings file.pathBytes file.exchangeArtifactKey = some (resultEvidence file)

def Fits : UndoOperationState → Prop
  | .preparing | .prepared | .rolledBack | .blocked => disk.Untouched file
  | .completed => disk.Restored file
  | _ => disk.Untouched file ∨ disk.Applied file

def AllFit (files : List UndoOperationFile) (state : UndoOperationState) : Prop :=
  ∀ file ∈ files, disk.Fits file state

end UndoDisk

def UndoOperationFile.Alike (file later : UndoOperationFile) : Prop :=
  sameFileIdentity file later ∧ file.stagedMetadata = later.stagedMetadata

section Alike

variable {file later latest : UndoOperationFile} {disk : UndoDisk} {state : UndoOperationState}

lemma UndoOperationFile.Alike.refl (file : UndoOperationFile) : file.Alike file :=
  ⟨sameFileIdentity.refl file, rfl⟩

lemma UndoOperationFile.Alike.trans (h : file.Alike later) (h' : later.Alike latest) :
    file.Alike latest :=
  ⟨h.1.trans h'.1, h.2.trans h'.2⟩

lemma UndoOperationFile.Alike.symm (h : file.Alike later) : later.Alike file := by
  obtain ⟨hidentity, hstaged⟩ := h
  refine ⟨?_, hstaged.symm⟩
  unfold sameFileIdentity at *
  simp_all

lemma UndoOperationFile.Alike.path (h : file.Alike later) : file.pathBytes = later.pathBytes :=
  h.1.2.2.2.1

lemma UndoOperationFile.Alike.key (h : file.Alike later) :
    file.exchangeArtifactKey = later.exchangeArtifactKey :=
  h.1.2.2.2.2.1

lemma UndoOperationFile.Alike.result (h : file.Alike later) :
    resultEvidence file = resultEvidence later := by
  obtain ⟨⟨-, -, -, -, -, hsize, hhash, hmetadata, -⟩, -⟩ := h
  simp [resultEvidence, hsize, hhash, hmetadata]

lemma UndoOperationFile.Alike.staged (h : file.Alike later) :
    stagedEvidence file = stagedEvidence later := by
  obtain ⟨⟨-, -, -, -, -, -, -, -, hsize, hhash, -⟩, hstaged⟩ := h
  simp [stagedEvidence, hsize, hhash, hstaged]

lemma UndoDisk.Fits.alike (h : disk.Fits file state) (halike : file.Alike later) :
    disk.Fits later state := by
  cases state <;>
    simpa only [UndoDisk.Fits, UndoDisk.Untouched, UndoDisk.Applied, UndoDisk.Restored,
      halike.path, halike.key, halike.result, halike.staged] using h

end Alike

section Fits

variable {disk : UndoDisk} {file other : UndoOperationFile} {state next : UndoOperationState}

lemma UndoDisk.Fits.inBetween (h : disk.Fits file state) (hstate : state.inactive = false) :
    disk.Untouched file ∨ disk.Applied file := by
  cases state with
  | preparing | prepared => exact .inl h
  | applying | verifying | rollingBack | recoveryRequired | unknown _ => exact h
  | completed | rolledBack | blocked => cases hstate

lemma UndoDisk.Fits.recovery (h : disk.Fits file state) (hsteps : state.stepsTo .recoveryRequired) :
    disk.Fits file .recoveryRequired :=
  h.inBetween (UndoOperationState.not_inactive_of_stepsTo hsteps)

lemma UndoDisk.Fits.setSibling (h : disk.Fits file state) (hstate : state.inactive = true)
    (path : OpaqueRepoPath) (key : ArtifactKey) (sibling : Option FileEvidence) :
    (disk.setSibling path key sibling).Fits file state := by
  cases state with
  | completed | rolledBack | blocked => exact h
  | preparing | prepared | applying | verifying | rollingBack | recoveryRequired | unknown _ =>
      cases hstate

lemma UndoDisk.setSibling_siblings_ne {path path' : OpaqueRepoPath} (h : path' ≠ path)
    (key key' : ArtifactKey) (sibling : Option FileEvidence) :
    (disk.setSibling path key sibling).siblings path' key' = disk.siblings path' key' := by
  simp only [UndoDisk.setSibling]
  rw [Function.update_of_ne h]

lemma UndoDisk.exchanged_inBetween {target sibling : FileEvidence}
    (hother : other.pathBytes ≠ file.pathBytes)
    (h : disk.Untouched other ∨ disk.Applied other) :
    (disk.exchanged file.pathBytes file.exchangeArtifactKey target sibling).Untouched other ∨
      (disk.exchanged file.pathBytes file.exchangeArtifactKey target sibling).Applied other := by
  have htarget : (disk.exchanged file.pathBytes file.exchangeArtifactKey target sibling).targets
      other.pathBytes = disk.targets other.pathBytes := by
    simp only [UndoDisk.exchanged]
    rw [Function.update_of_ne hother]
  have hsibling := disk.setSibling_siblings_ne hother file.exchangeArtifactKey
    other.exchangeArtifactKey (some target)
  rcases h with h | ⟨⟨staged, hstaged, h⟩, hbeside⟩
  · exact .inl (htarget.trans h)
  · exact .inr ⟨⟨staged, hstaged, htarget.trans h⟩, hsibling.trans hbeside⟩

lemma UndoDisk.applied_of_exchanged {staged : FileEvidence}
    (hstaged : stagedEvidence file = some staged) :
    (disk.exchanged file.pathBytes file.exchangeArtifactKey (resultEvidence file) staged).Applied
      file := by
  refine ⟨⟨staged, hstaged, ?_⟩, ?_⟩
  · simp [UndoDisk.exchanged]
  · simp [UndoDisk.exchanged, UndoDisk.setSibling]

lemma UndoDisk.untouched_of_exchanged {key : ArtifactKey} (target : FileEvidence) :
    (disk.exchanged file.pathBytes key target (resultEvidence file)).Untouched file := by
  simp [UndoDisk.exchanged, UndoDisk.Untouched]

end Fits

/-- One undo and what it is given: the files of its set, what their targets hold, the keys that are
drawn for it, and the other operations that a recovery may still take up. -/
structure UndoScope where
  id : UndoOperationId
  restored : List TurnRestoreFile
  before : OpaqueRepoPath → Option FileEvidence
  keys : Set ArtifactKey
  others : Set UndoOperationId

namespace UndoScope

variable (scope : UndoScope)

def paths : List OpaqueRepoPath :=
  scope.restored.map TurnRestoreFile.pathBytes

structure Apart (journal : JournalStore) : Prop where
  files : ∀ file ∈ journal.operationFiles.rows, file.operationId ≠ scope.id →
    file.pathBytes ∈ scope.paths →
      file.exchangeArtifactKey ∉ scope.keys ∧ file.operationId ∉ scope.others
  rows : ∀ row ∈ journal.operations.rows, row.operationId ≠ scope.id → row.active = true →
    row.state = .recoveryRequired ∨ row.operationId ∈ scope.others

structure Owns (files : List UndoOperationFile) : Prop where
  own : ∀ file ∈ files, file.operationId = scope.id
  paths : ∀ file ∈ files, file.pathBytes ∈ scope.paths
  keys : ∀ file ∈ files, file.exchangeArtifactKey ∈ scope.keys
  before : ∀ file ∈ files, scope.before file.pathBytes = some (resultEvidence file)
  distinct : ∀ file ∈ files, ∀ other ∈ files, file.pathBytes = other.pathBytes → file = other
  covers : ∀ restored ∈ scope.restored, ∃ file ∈ files, file.pathBytes = restored.pathBytes ∧
    file.preSize = restored.preSize ∧ file.preSha256 = restored.preSha256

structure Ledger (files : List UndoOperationFile) (state : UndoOperationState)
    (journal : JournalStore) : Prop where
  row : ∃ row ∈ journal.operations.rows, row.operationId = scope.id ∧ row.state = state ∧
    row.active = !state.inactive
  held : ∀ file ∈ files, ∃ row ∈ journal.operationFilesOf scope.id, file.Alike row
  covered : ∀ row ∈ journal.operationFilesOf scope.id, ∃ file ∈ files, file.Alike row
  apart : scope.Apart journal

def Stands (files : List UndoOperationFile) (state : UndoOperationState) (D : UndoDisk → Prop)
    (d : Durable) : Prop :=
  scope.Ledger files state d.journal ∧ D d.disk

def Holds (files : List UndoOperationFile) (state : UndoOperationState) : Durable → Prop :=
  scope.Stands files state fun disk => disk.AllFit files state

def Sound (d : Durable) : Prop :=
  ∃ files state, scope.Owns files ∧ scope.Holds files state d

end UndoScope

section Ledger

variable {scope : UndoScope} {encoding : JournalEncoding} {files : List UndoOperationFile}
  {state expected next : UndoOperationState} {s t : JournalStore}

open UndoScope

lemma UndoScope.Apart.operationMoved {row : UndoOperationRow} {reason : Option GuardedUndoReasonCode}
    {details : Option RecoveryDetailsV1} {updatedAt : String} (h : scope.Apart s)
    (hid : row.operationId = scope.id ∨ row.operationId ∈ scope.others)
    (hmoved : OperationMoved row next reason details updatedAt s t) : scope.Apart t where
  files file hfile := by
    rw [hmoved.operationFiles] at hfile
    exact h.files file hfile
  rows other hother hne hactive := by
    rcases hmoved.mem_operations.mp hother with rfl | ⟨hmem, -⟩
    · exact .inr (hid.resolve_left hne)
    · exact h.rows other hmem hne hactive

lemma UndoScope.Apart.fileMoved {current moved : UndoOperationFile} (h : scope.Apart s)
    (hmoved : FileMoved current moved s t) : scope.Apart t where
  files file hfile hne hpath := by
    rcases hmoved.mem_operationFiles.mp hfile with rfl | ⟨hmem, -⟩
    · obtain ⟨hid, -, -, hpath', hkey, -⟩ := hmoved.identity
      rw [← hid, ← hkey]
      exact h.files current hmoved.mem (hid ▸ hne) (hpath' ▸ hpath)
    · exact h.files file hmem hne hpath
  rows row hrow := by
    rw [hmoved.operations] at hrow
    exact h.rows row hrow

lemma finishUndoOperationCleanup_operations (id : UndoOperationId) (s : JournalStore) :
    (finishUndoOperationCleanup id s).2.operations.rows = s.operations.rows.map fun row =>
      if decide (row.operationId = id) && !row.active && row.cleanupPending then
        { row with cleanupPending := false }
      else row := rfl

lemma finishUndoOperationCleanup_rows (id : UndoOperationId) (s : JournalStore) :
    (finishUndoOperationCleanup id s).2.operations.rows.map UndoOperationRow.toUndoOperation =
      s.operations.rows.map UndoOperationRow.toUndoOperation := by
  rw [finishUndoOperationCleanup_operations, List.map_map]
  apply List.map_congr_left
  intro row _
  simp only [Function.comp_apply]
  split <;> rfl

lemma mem_finishUndoOperationCleanup {id : UndoOperationId} {operation : UndoOperation} :
    (∃ row ∈ (finishUndoOperationCleanup id s).2.operations.rows, row.toUndoOperation = operation) ↔
      ∃ row ∈ s.operations.rows, row.toUndoOperation = operation := by
  rw [← List.mem_map, finishUndoOperationCleanup_rows, List.mem_map]

lemma UndoScope.Apart.cleanupFinished (h : scope.Apart s) (id : UndoOperationId) :
    scope.Apart (finishUndoOperationCleanup id s).2 where
  files := h.files
  rows row hrow hne hactive := by
    obtain ⟨old, hold, heq⟩ := mem_finishUndoOperationCleanup.mp ⟨row, hrow, rfl⟩
    rw [← heq] at hne hactive ⊢
    exact h.rows old hold hne hactive

lemma UndoScope.Ledger.transition (h : scope.Ledger files state s)
    {reason : Option GuardedUndoReasonCode} {details : Option RecoveryDetailsV1} {updatedAt : String}
    {wrote : Bool} (hcall : transitionUndoOperation encoding scope.id expected next reason details
      updatedAt s = (.ok wrote, t)) :
    scope.Ledger files next t ∧ ((state = expected ∧ state.stepsTo next) ∨ state = next) := by
  obtain ⟨row, hrow, hid, hcases⟩ := transitionUndoOperation_ok hcall
  obtain ⟨own, hown, hownId, hstate, hactive⟩ := h.row
  have heq : row = own := s.operations.eq_of_key hrow hown (hid.trans hownId.symm)
  subst heq
  rcases hcases with ⟨-, rfl, hnext⟩ | ⟨-, hexpected, hmoved⟩
  · exact ⟨⟨⟨row, hrow, hid, hnext, hnext ▸ hstate ▸ hactive⟩, h.held, h.covered, h.apart⟩, .inr (hstate.symm.trans hnext)⟩
  · refine ⟨⟨⟨_, hmoved.mem_operations.mpr (.inl rfl), hid, rfl, rfl⟩, ?_, ?_,
      h.apart.operationMoved (.inl hid) hmoved⟩, .inl ⟨hstate.symm.trans hexpected, ?_⟩⟩
    · simpa only [operationFilesOf, hmoved.operationFiles] using h.held
    · simpa only [operationFilesOf, hmoved.operationFiles] using h.covered
    · exact hstate ▸ hmoved.steps

lemma UndoScope.Ledger.fileMoved (h : scope.Ledger files state s) {file current moved : UndoOperationFile}
    (hfile : file ∈ files) (halike : file.Alike moved) (hmoved : FileMoved current moved s t) :
    scope.Ledger files state t := by
  obtain ⟨row, hrow, hfileRow⟩ := h.held file hfile
  obtain ⟨hmem, hid⟩ := mem_operationFilesOf.mp hrow
  have hsame := hfileRow.symm.trans halike
  have heq : current = row := s.operationFiles.eq_of_key hmoved.mem hmem
    (Prod.ext (hmoved.identity.1.trans hsame.1.1.symm)
      (hmoved.identity.2.2.1.trans hsame.1.2.2.1.symm))
  subst heq
  refine ⟨?_, ?_, ?_, h.apart.fileMoved hmoved⟩
  · rw [hmoved.operations]
    exact h.row
  · intro other hother
    obtain ⟨otherRow, hotherRow, hotherAlike⟩ := h.held other hother
    by_cases hcurrent : otherRow = current
    · refine ⟨moved, mem_operationFilesOf.mpr ⟨hmoved.mem_operationFiles.mpr (.inl rfl),
        hsame.1.1.symm.trans hid⟩, ?_⟩
      exact (hcurrent ▸ hotherAlike).trans hsame
    · exact ⟨otherRow, mem_operationFilesOf.mpr ⟨hmoved.mem_operationFiles.mpr
        (.inr ⟨(mem_operationFilesOf.mp hotherRow).1, hcurrent⟩),
        (mem_operationFilesOf.mp hotherRow).2⟩, hotherAlike⟩
  · intro other hother
    obtain ⟨hother, hotherId⟩ := mem_operationFilesOf.mp hother
    rcases hmoved.mem_operationFiles.mp hother with rfl | ⟨hother, -⟩
    · exact ⟨file, hfile, halike⟩
    · exact h.covered other (mem_operationFilesOf.mpr ⟨hother, hotherId⟩)

lemma UndoScope.Ledger.transitionFile (h : scope.Ledger files state s) {file moved : UndoOperationFile}
    (hfile : file ∈ files) (halike : file.Alike moved) {expected : UndoOperationFileState}
    {wrote : Bool}
    (hcall : transitionUndoOperationFile encoding expected moved s = (.ok wrote, t)) :
    scope.Ledger files state t := by
  rcases transitionUndoOperationFile_ok hcall with ⟨-, rfl, -⟩ | ⟨-, current, -, hmoved⟩
  · exact h
  · exact h.fileMoved hfile halike hmoved

lemma UndoScope.Ledger.cleanupFinished (h : scope.Ledger files state s) (id : UndoOperationId) :
    scope.Ledger files state (finishUndoOperationCleanup id s).2 where
  row := by
    obtain ⟨row, hrow, hid, hstate, hactive⟩ := h.row
    obtain ⟨kept, hkept, heq⟩ := mem_finishUndoOperationCleanup.mpr ⟨row, hrow, rfl⟩
    exact ⟨kept, hkept, heq ▸ hid, heq ▸ hstate, heq ▸ hactive⟩
  held := h.held
  covered := h.covered
  apart := h.apart.cleanupFinished id

lemma UndoScope.Ledger.reload (h : scope.Ledger files state s) :
    scope.Ledger (s.operationFilesOf scope.id) state s where
  row := h.row
  held file hfile := ⟨file, hfile, .refl file⟩
  covered file hfile := ⟨file, hfile, .refl file⟩
  apart := h.apart

lemma UndoScope.Owns.reload (howns : scope.Owns files) (h : scope.Ledger files state s) :
    scope.Owns (s.operationFilesOf scope.id) where
  own row hrow := (mem_operationFilesOf.mp hrow).2
  paths row hrow := by
    obtain ⟨file, hfile, halike⟩ := h.covered row hrow
    exact halike.path ▸ howns.paths file hfile
  keys row hrow := by
    obtain ⟨file, hfile, halike⟩ := h.covered row hrow
    exact halike.key ▸ howns.keys file hfile
  before row hrow := by
    obtain ⟨file, hfile, halike⟩ := h.covered row hrow
    rw [← halike.path, ← halike.result]
    exact howns.before file hfile
  distinct row hrow other hother hpath := by
    obtain ⟨file, hfile, halike⟩ := h.covered row hrow
    obtain ⟨file', hfile', halike'⟩ := h.covered other hother
    have heq : file = file' := howns.distinct file hfile file' hfile'
      (halike.path.trans (hpath.trans halike'.path.symm))
    subst heq
    have hsame := halike.symm.trans halike'
    exact s.operationFiles.eq_of_key (mem_operationFilesOf.mp hrow).1
      (mem_operationFilesOf.mp hother).1 (Prod.ext hsame.1.1 hsame.1.2.2.1)
  covers restored hrestored := by
    obtain ⟨file, hfile, hpath, hsize, hhash⟩ := howns.covers restored hrestored
    obtain ⟨row, hrow, halike⟩ := h.held file hfile
    obtain ⟨-, -, -, hpath', -, -, -, -, hsize', hhash', -⟩ := halike.1
    exact ⟨row, hrow, hpath' ▸ hpath, hsize' ▸ hsize, hhash' ▸ hhash⟩

end Ledger

end DevCommandCenter.GuardedUndo
