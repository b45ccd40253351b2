import DevCommandCenter.GuardedUndo.JournalEffects

/-! What every call on the journal keeps: the state of each store, and what one store owes to an
earlier one. -/

namespace DevCommandCenter.GuardedUndo

open Library JournalStore

variable {encoding : JournalEncoding} {initial s t u : JournalStore}

def UndoOperationState.pastPrepared : UndoOperationState → Bool
  | .prepared | .applying | .verifying | .completed => true
  | _ => false

def UndoOperationFileState.stagedOrLater : UndoOperationFileState → Bool
  | .staged | .applied | .verified | .rolledBack | .recoveryRequired => true
  | _ => false

lemma UndoOperationFileState.stagedOrLater_of_stepsTo {state next : UndoOperationFileState}
    (h : state.stepsTo next = true) : next.stagedOrLater = true := by
  cases state <;> cases next <;> simp_all [stepsTo, stagedOrLater]

inductive JournalEffect (encoding : JournalEncoding) (s t : JournalStore) : Prop
  | kept (h : t = s)
  | created {operation : UndoOperation} {files : List UndoOperationFile}
      (h : Created encoding operation files s t)
  | fileMoved {current next : UndoOperationFile} (h : FileMoved current next s t)
  | operationMoved {row : UndoOperationRow} {next : UndoOperationState}
      {reason : Option GuardedUndoReasonCode} {details : Option RecoveryDetailsV1}
      {updatedAt : String} (h : OperationMoved row next reason details updatedAt s t)

lemma createUndoOperation_errorKeeps (operation : UndoOperation) (files : List UndoOperationFile) :
    (createUndoOperation encoding operation files).ErrorKeeps :=
  (Call.readOnly_liftExcept _).bind_errorKeeps fun _ => Call.errorKeeps_atomically _

lemma transitionUndoOperationFile_errorKeeps (expected : UndoOperationFileState)
    (next : UndoOperationFile) : (transitionUndoOperationFile encoding expected next).ErrorKeeps := by
  apply (Call.readOnly_liftExcept _).bind_errorKeeps
  intro _
  apply (Call.readOnly_liftExcept _).bind_errorKeeps
  intro _
  exact Call.errorKeeps_atomically _

lemma transitionUndoOperation_errorKeeps (id : UndoOperationId)
    (expected next : UndoOperationState) (reason : Option GuardedUndoReasonCode)
    (details : Option RecoveryDetailsV1) (updatedAt : String) :
    (transitionUndoOperation encoding id expected next reason details updatedAt).ErrorKeeps := by
  apply (Call.readOnly_liftExcept _).bind_errorKeeps
  intro _
  apply (Call.readOnly_liftExcept _).bind_errorKeeps
  intro _
  apply (Call.readOnly_liftExcept _).bind_errorKeeps
  intro _
  exact Call.errorKeeps_atomically _

lemma call_errorKeeps (action : JournalAction) : (action.call encoding).ErrorKeeps := by
  cases action with
  | create operation files =>
      exact (createUndoOperation_errorKeeps operation files).bind_total fun _ => Call.total_pure _
  | transition id expected next reason details updatedAt =>
      exact transitionUndoOperation_errorKeeps id expected next reason details updatedAt
  | transitionFile expected next => exact transitionUndoOperationFile_errorKeeps expected next

theorem call_effect {action : JournalAction} {result : Except String Bool}
    (h : action.call encoding s = (result, t)) : JournalEffect encoding s t := by
  cases result with
  | error e => exact .kept (call_errorKeeps action s e t h)
  | ok wrote =>
      cases action with
      | create operation files =>
          obtain ⟨_, u, hcreate, h⟩ := Call.bind_ok_iff.mp h
          cases h
          exact .created (createUndoOperation_ok hcreate)
      | transition id expected next reason details updatedAt =>
          obtain ⟨row, -, -, h⟩ := transitionUndoOperation_ok h
          rcases h with ⟨-, h, -⟩ | ⟨-, -, h⟩
          · exact .kept h
          · exact .operationMoved h
      | transitionFile expected next =>
          rcases transitionUndoOperationFile_ok h with ⟨-, h, -⟩ | ⟨-, current, -, h⟩
          · exact .kept h
          · exact .fileMoved h

section Rows

lemma Created.mem_operations {operation : UndoOperation} {files : List UndoOperationFile}
    (h : Created encoding operation files s t) {row : UndoOperationRow} :
    row ∈ t.operations.rows ↔
      row ∈ s.operations.rows ∨ row = { operation with cleanupPending := true } := by
  rw [h.operations, List.mem_append, List.mem_singleton]

lemma Created.mem_operationFiles {operation : UndoOperation} {files : List UndoOperationFile}
    (h : Created encoding operation files s t) {file : UndoOperationFile} :
    file ∈ t.operationFiles.rows ↔ file ∈ s.operationFiles.rows ∨ file ∈ files := by
  rw [h.operationFiles, List.mem_append]

lemma Created.old_file {operation : UndoOperation} {files : List UndoOperationFile}
    (h : Created encoding operation files s t) {row : UndoOperationRow}
    (hrow : row ∈ s.operations.rows) {file : UndoOperationFile}
    (hfile : file ∈ t.operationFilesOf row.operationId) : file ∈ s.operationFilesOf row.operationId := by
  obtain ⟨hmem, hid⟩ := mem_operationFilesOf.mp hfile
  rcases h.mem_operationFiles.mp hmem with hmem | hmem
  · exact mem_operationFilesOf.mpr ⟨hmem, hid⟩
  · exact absurd (hid.symm.trans (h.planned file hmem).1) (h.fresh row hrow)

lemma FileMoved.mem_operationFiles {current next : UndoOperationFile}
    (h : FileMoved current next s t) {file : UndoOperationFile} :
    file ∈ t.operationFiles.rows ↔
      file = next ∨ (file ∈ s.operationFiles.rows ∧ file ≠ current) := by
  have hcurrent : ∀ old ∈ s.operationFiles.rows,
      (old.operationId = next.operationId ∧ old.ordinal = next.ordinal) ↔ old = current := by
    intro old hold
    constructor
    · rintro ⟨hid, hordinal⟩
      exact s.operationFiles.eq_of_key hold h.mem
        (Prod.ext (hid.trans h.identity.1.symm) (hordinal.trans h.identity.2.2.1.symm))
    · rintro rfl
      exact ⟨h.identity.1, h.identity.2.2.1⟩
  rw [h.operationFiles, List.mem_map]
  constructor
  · rintro ⟨old, hold, heq⟩
    by_cases hkey : old.operationId = next.operationId ∧ old.ordinal = next.ordinal
    · rw [if_pos hkey] at heq
      exact .inl heq.symm
    · rw [if_neg hkey] at heq
      exact .inr (heq ▸ ⟨hold, fun heq' => hkey ((hcurrent old hold).mpr heq')⟩)
  · rintro (rfl | ⟨hfile, hne⟩)
    · exact ⟨current, h.mem, if_pos ((hcurrent current h.mem).mpr rfl)⟩
    · exact ⟨file, hfile, if_neg fun hkey => hne ((hcurrent file hfile).mp hkey)⟩

lemma OperationMoved.mem_operations {row : UndoOperationRow} {next : UndoOperationState}
    {reason : Option GuardedUndoReasonCode} {details : Option RecoveryDetailsV1}
    {updatedAt : String} (h : OperationMoved row next reason details updatedAt s t)
    {other : UndoOperationRow} :
    other ∈ t.operations.rows ↔ other = row.withTransition next reason details updatedAt ∨
      (other ∈ s.operations.rows ∧ other ≠ row) := by
  have hrow : ∀ old ∈ s.operations.rows, old.operationId = row.operationId ↔ old = row := by
    intro old hold
    constructor
    · exact s.operations.eq_of_key hold h.mem
    · rintro rfl
      rfl
  rw [h.operations, List.mem_map]
  constructor
  · rintro ⟨old, hold, heq⟩
    by_cases hid : old.operationId = row.operationId
    · rw [if_pos hid, (hrow old hold).mp hid] at heq
      exact .inl heq.symm
    · rw [if_neg hid] at heq
      exact .inr (heq ▸ ⟨hold, fun heq' => hid ((hrow old hold).mpr heq')⟩)
  · rintro (rfl | ⟨hother, hne⟩)
    · exact ⟨row, h.mem, if_pos rfl⟩
    · exact ⟨other, hother, if_neg fun hid => hne ((hrow other hother).mp hid)⟩

end Rows

structure JournalSound (initial s : JournalStore) : Prop where
  active : ∀ row ∈ s.operations.rows, row.active = !row.state.inactive
  owned : ∀ file ∈ s.operationFiles.rows, ∃ row ∈ s.operations.rows,
    row.operationId = file.operationId
  covered : ∀ row ∈ s.operations.rows,
    Covers (s.operationFilesOf row.operationId) (s.restoreFilesOf row.restoreSetId)
  staged : ∀ row ∈ s.operations.rows, row.state.pastPrepared = true →
    ∀ file ∈ s.operationFilesOf row.operationId, file.state.stagedOrLater = true
  verified : ∀ row ∈ s.operations.rows, row.state = .completed →
    ∀ file ∈ s.operationFilesOf row.operationId,
      file.state = .verified ∧ file.verificationOutcome = .verified
  rolledBack : ∀ row ∈ s.operations.rows, row.state = .rolledBack →
    ∀ file ∈ s.operationFilesOf row.operationId, file.state = .rolledBack
  ownSet : ∀ row ∈ s.operations.rows, ∃ restoreSet ∈ s.restoreSets.rows,
    restoreSet.restoreSetId = row.restoreSetId
  sets : ∀ restoreSet ∈ s.restoreSets.rows,
    (restoreSet ∈ initial.restoreSets.rows ∧
      ∀ row ∈ s.operations.rows, row.restoreSetId = restoreSet.restoreSetId →
        row.state ≠ .completed) ∨
    (restoreSet.state = .consumed ∧
      (∃ before ∈ initial.restoreSets.rows, before.restoreSetId = restoreSet.restoreSetId ∧
        before.state = .eligible) ∧
      ∃ row ∈ s.operations.rows, row.restoreSetId = restoreSet.restoreSetId ∧
        row.state = .completed)
  single : ∀ row ∈ s.operations.rows, ∀ other ∈ s.operations.rows, row.state = .completed →
    other.state = .completed → row.restoreSetId = other.restoreSetId → row = other

namespace JournalSound

lemma start (hoperations : initial.operations.rows = []) (hfiles : initial.operationFiles.rows = []) :
    JournalSound initial initial where
  active := by simp [hoperations]
  owned := by simp [hfiles]
  covered := by simp [hoperations]
  staged := by simp [hoperations]
  verified := by simp [hoperations]
  rolledBack := by simp [hoperations]
  ownSet := by simp [hoperations]
  sets := fun restoreSet hmem => .inl ⟨hmem, by simp [hoperations]⟩
  single := by simp [hoperations]

theorem created {operation : UndoOperation} {files : List UndoOperationFile}
    (hs : JournalSound initial s) (h : Created encoding operation files s t) :
    JournalSound initial t := by
  obtain ⟨restoreSet, restoreFiles, hload, -, hbound⟩ := h.loaded
  obtain ⟨hset, hsetId, hrestoreFiles⟩ := loadTurnRestoreSet_ok hload
  have hold : ∀ row ∈ t.operations.rows, row.state ≠ .preparing → row ∈ s.operations.rows := by
    intro row hrow hne
    rcases h.mem_operations.mp hrow with hrow | rfl
    · exact hrow
    · exact absurd h.preparing hne
  exact {
    active := by
      intro row hrow
      rcases h.mem_operations.mp hrow with hrow | rfl
      · exact hs.active row hrow
      · rw [h.active, h.preparing]
        rfl
    owned := by
      intro file hfile
      rcases h.mem_operationFiles.mp hfile with hfile | hfile
      · obtain ⟨row, hrow, hid⟩ := hs.owned file hfile
        exact ⟨row, h.mem_operations.mpr (.inl hrow), hid⟩
      · exact ⟨_, h.mem_operations.mpr (.inr rfl), (h.planned file hfile).1.symm⟩
    covered := by
      intro row hrow restored hrestored
      rw [restoreFilesOf, h.restoreFiles] at hrestored
      rcases h.mem_operations.mp hrow with hrow | rfl
      · obtain ⟨file, hfile, hmatch⟩ := hs.covered row hrow restored hrestored
        obtain ⟨hfile, hid⟩ := mem_operationFilesOf.mp hfile
        exact ⟨file, mem_operationFilesOf.mpr ⟨h.mem_operationFiles.mpr (.inl hfile), hid⟩, hmatch⟩
      · obtain ⟨file, hfile, hmatch⟩ := covers_of_binding hbound restored (hrestoreFiles ▸ hrestored)
        exact ⟨file, mem_operationFilesOf.mpr
          ⟨h.mem_operationFiles.mpr (.inr hfile), (h.planned file hfile).1⟩, hmatch⟩
    staged := by
      intro row hrow hpast file hfile
      have hrow := hold row hrow fun heq => by simp [heq, UndoOperationState.pastPrepared] at hpast
      exact hs.staged row hrow hpast file (h.old_file hrow hfile)
    verified := by
      intro row hrow hcompleted file hfile
      have hrow := hold row hrow (by simp [hcompleted])
      exact hs.verified row hrow hcompleted file (h.old_file hrow hfile)
    rolledBack := by
      intro row hrow hrolledBack file hfile
      have hrow := hold row hrow (by simp [hrolledBack])
      exact hs.rolledBack row hrow hrolledBack file (h.old_file hrow hfile)
    ownSet := by
      intro row hrow
      rw [h.restoreSets]
      rcases h.mem_operations.mp hrow with hrow | rfl
      · exact hs.ownSet row hrow
      · exact ⟨restoreSet, hset, hsetId⟩
    sets := by
      intro other hother
      rw [h.restoreSets] at hother
      rcases hs.sets other hother with ⟨hmem, hnone⟩ | ⟨hconsumed, hbefore, row, hrow, hcompleted⟩
      · refine .inl ⟨hmem, fun row hrow hid hcompleted => ?_⟩
        exact hnone row (hold row hrow (by simp [hcompleted])) hid hcompleted
      · exact .inr ⟨hconsumed, hbefore, row, h.mem_operations.mpr (.inl hrow), hcompleted⟩
    single := by
      intro row hrow other hother hcompleted hcompleted'
      exact hs.single row (hold row hrow (by simp [hcompleted])) other
        (hold other hother (by simp [hcompleted'])) hcompleted hcompleted' }

theorem fileMoved {current next : UndoOperationFile} (hs : JournalSound initial s)
    (h : FileMoved current next s t) : JournalSound initial t := by
  obtain ⟨owner, howner, hownerId, hactive⟩ := h.owner
  have hkept : ∀ row ∈ s.operations.rows, row.state.inactive = true →
      ∀ file ∈ t.operationFilesOf row.operationId, file ∈ s.operationFilesOf row.operationId := by
    intro row hrow hinactive file hfile
    obtain ⟨hfile, hid⟩ := mem_operationFilesOf.mp hfile
    rcases h.mem_operationFiles.mp hfile with rfl | ⟨hfile, -⟩
    · have heq : row = owner := s.operations.eq_of_key hrow howner
        (hid.symm.trans (h.identity.1.symm.trans hownerId.symm))
      rw [heq] at hinactive
      have := hs.active owner howner
      simp [hactive, hinactive] at this
    · exact mem_operationFilesOf.mpr ⟨hfile, hid⟩
  exact {
    active := h.operations ▸ hs.active
    owned := by
      intro file hfile
      rw [h.operations]
      rcases h.mem_operationFiles.mp hfile with rfl | ⟨hfile, -⟩
      · exact ⟨owner, howner, hownerId.trans h.identity.1⟩
      · exact hs.owned file hfile
    covered := by
      intro row hrow restored hrestored
      rw [h.operations] at hrow
      rw [restoreFilesOf, h.restoreFiles] at hrestored
      obtain ⟨file, hfile, hmatch⟩ := hs.covered row hrow restored hrestored
      obtain ⟨hfile, hid⟩ := mem_operationFilesOf.mp hfile
      by_cases heq : file = current
      · subst heq
        obtain ⟨hnextId, -, hordinal, hpath, -⟩ := h.identity
        exact ⟨next, mem_operationFilesOf.mpr
          ⟨h.mem_operationFiles.mpr (.inl rfl), hnextId.symm.trans hid⟩,
          hordinal.symm.trans hmatch.1, hpath.symm.trans hmatch.2⟩
      · exact ⟨file, mem_operationFilesOf.mpr
          ⟨h.mem_operationFiles.mpr (.inr ⟨hfile, heq⟩), hid⟩, hmatch⟩
    staged := by
      intro row hrow hpast file hfile
      rw [h.operations] at hrow
      obtain ⟨hfile, hid⟩ := mem_operationFilesOf.mp hfile
      rcases h.mem_operationFiles.mp hfile with rfl | ⟨hfile, -⟩
      · exact UndoOperationFileState.stagedOrLater_of_stepsTo h.steps
      · exact hs.staged row hrow hpast file (mem_operationFilesOf.mpr ⟨hfile, hid⟩)
    verified := by
      intro row hrow hcompleted file hfile
      rw [h.operations] at hrow
      exact hs.verified row hrow hcompleted file (hkept row hrow (by rw [hcompleted]; rfl) file hfile)
    rolledBack := by
      intro row hrow hrolledBack file hfile
      rw [h.operations] at hrow
      exact hs.rolledBack row hrow hrolledBack file
        (hkept row hrow (by rw [hrolledBack]; rfl) file hfile)
    ownSet := by
      rw [h.operations, h.restoreSets]
      exact hs.ownSet
    sets := by
      rw [h.operations, h.restoreSets]
      exact hs.sets
    single := h.operations ▸ hs.single }

lemma checkNextFiles_ok {next : UndoOperationState} {files : List UndoOperationFile}
    (h : checkNextFiles next files = .ok ()) :
    (next = .prepared → ∀ file ∈ files, file.state = .staged) ∧
      (next = .completed → ∀ file ∈ files,
        file.state = .verified ∧ file.verificationOutcome = .verified) ∧
      (next = .rolledBack → ∀ file ∈ files, file.state = .rolledBack) := by
  simp only [checkNextFiles, except_bind_eq_ok, Unique.exists_iff, refuse_eq_ok, not_and, not_exists,
    not_or, not_not] at h
  obtain ⟨hprepared, hcompleted, hrolledBack⟩ := h
  exact ⟨hprepared, hcompleted, fun hnext file hfile => (hrolledBack hnext file hfile).1⟩

section Moved

variable {row : UndoOperationRow} {next : UndoOperationState}
  {reason : Option GuardedUndoReasonCode} {details : Option RecoveryDetailsV1} {updatedAt : String}

lemma operationMoved_files {P : UndoOperationState → UndoOperationFile → Prop}
    (h : OperationMoved row next reason details updatedAt s t)
    (hold : ∀ other ∈ s.operations.rows, ∀ file ∈ s.operationFilesOf other.operationId,
      P other.state file)
    (hnew : ∀ file ∈ s.operationFilesOf row.operationId, P next file) :
    ∀ other ∈ t.operations.rows, ∀ file ∈ t.operationFilesOf other.operationId,
      P other.state file := by
  intro other hother file hfile
  rw [operationFilesOf, h.operationFiles] at hfile
  rcases h.mem_operations.mp hother with rfl | ⟨hother, -⟩
  · exact hnew file hfile
  · exact hold other hother file hfile

lemma operationMoved_sets (hs : JournalSound initial s)
    (h : OperationMoved row next reason details updatedAt s t) :
    ∀ restoreSet ∈ t.restoreSets.rows,
      (restoreSet ∈ initial.restoreSets.rows ∧
        ∀ other ∈ t.operations.rows, other.restoreSetId = restoreSet.restoreSetId →
          other.state ≠ .completed) ∨
      (restoreSet.state = .consumed ∧
        (∃ before ∈ initial.restoreSets.rows, before.restoreSetId = restoreSet.restoreSetId ∧
          before.state = .eligible) ∧
        ∃ other ∈ t.operations.rows, other.restoreSetId = restoreSet.restoreSetId ∧
          other.state = .completed) := by
  have hkeeps : ∀ restoreSet ∈ s.restoreSets.rows,
      (next = .completed → restoreSet.restoreSetId ≠ row.restoreSetId) →
      (restoreSet ∈ initial.restoreSets.rows ∧
        ∀ other ∈ t.operations.rows, other.restoreSetId = restoreSet.restoreSetId →
          other.state ≠ .completed) ∨
      (restoreSet.state = .consumed ∧
        (∃ before ∈ initial.restoreSets.rows, before.restoreSetId = restoreSet.restoreSetId ∧
          before.state = .eligible) ∧
        ∃ other ∈ t.operations.rows, other.restoreSetId = restoreSet.restoreSetId ∧
          other.state = .completed) := by
    intro restoreSet hmem hother
    rcases hs.sets restoreSet hmem with ⟨hinitial, hnone⟩ | ⟨hconsumed, hbefore, done, hdone, hid, hst⟩
    · refine .inl ⟨hinitial, fun other hmem' hid hcompleted => ?_⟩
      rcases h.mem_operations.mp hmem' with rfl | ⟨hmem', -⟩
      · exact hother hcompleted hid.symm
      · exact hnone other hmem' hid hcompleted
    · refine .inr ⟨hconsumed, hbefore, done, h.mem_operations.mpr (.inr ⟨hdone, ?_⟩), hid, hst⟩
      rintro rfl
      have := UndoOperationState.not_inactive_of_stepsTo h.steps
      simp [hst, UndoOperationState.inactive] at this
  have hsets := h.restoreSets
  split at hsets
  · next hcompleted =>
    obtain ⟨⟨eligible, heligible, heligibleId, hstate⟩, hrows⟩ := hsets
    intro restoreSet hrestoreSet
    rw [hrows, List.mem_map] at hrestoreSet
    obtain ⟨before, hbefore, rfl⟩ := hrestoreSet
    by_cases hid : before.restoreSetId = row.restoreSetId
    · have heq : before = eligible := s.restoreSets.eq_of_key hbefore heligible
        (hid.trans heligibleId.symm)
      rw [if_pos hid]
      rcases hs.sets before hbefore with ⟨hinitial, -⟩ | ⟨hconsumed, -⟩
      · exact .inr ⟨rfl, ⟨before, hinitial, rfl, heq ▸ hstate⟩, _, h.mem_operations.mpr (.inl rfl),
          hid.symm, hcompleted⟩
      · rw [heq, hstate] at hconsumed
        cases hconsumed
    · rw [if_neg hid]
      exact hkeeps before hbefore fun _ => hid
  · next hcompleted =>
    rw [hsets]
    exact fun restoreSet hmem => hkeeps restoreSet hmem fun h' => absurd h' hcompleted

theorem operationMoved (hs : JournalSound initial s)
    (h : OperationMoved row next reason details updatedAt s t) : JournalSound initial t := by
  obtain ⟨hprepared, hcompleted, hrolledBack⟩ := checkNextFiles_ok h.filesReady
  exact {
    active := by
      intro other hother
      rcases h.mem_operations.mp hother with rfl | ⟨hother, -⟩
      · rfl
      · exact hs.active other hother
    owned := by
      intro file hfile
      rw [h.operationFiles] at hfile
      obtain ⟨owner, howner, hid⟩ := hs.owned file hfile
      by_cases heq : owner = row
      · exact ⟨_, h.mem_operations.mpr (.inl rfl), heq ▸ hid⟩
      · exact ⟨owner, h.mem_operations.mpr (.inr ⟨howner, heq⟩), hid⟩
    covered := by
      intro other hother
      rw [operationFilesOf, h.operationFiles, restoreFilesOf, h.restoreFiles]
      rcases h.mem_operations.mp hother with rfl | ⟨hother, -⟩
      · exact hs.covered row h.mem
      · exact hs.covered other hother
    staged := by
      have hnext : ∀ file ∈ s.operationFilesOf row.operationId,
          next.pastPrepared = true → file.state.stagedOrLater = true := by
        intro file hfile hpast
        by_cases hnew : next = .prepared
        · rw [hprepared hnew file hfile]
          rfl
        · have hrow : row.state.pastPrepared = true := by
            have hsteps := h.steps
            revert hsteps hpast hnew
            cases row.state <;> cases next <;>
              simp [UndoOperationState.stepsTo, UndoOperationState.pastPrepared]
          exact hs.staged row h.mem hrow file hfile
      intro other hother hpast file hfile
      exact operationMoved_files (P := fun state file =>
          state.pastPrepared = true → file.state.stagedOrLater = true) h
        (fun other hother file hfile hpast => hs.staged other hother hpast file hfile) hnext
        other hother file hfile hpast
    verified := by
      intro other hother hstate file hfile
      exact operationMoved_files (P := fun state file =>
          state = .completed → file.state = .verified ∧ file.verificationOutcome = .verified) h
        (fun other hother file hfile hstate => hs.verified other hother hstate file hfile)
        (fun file hfile hnext => hcompleted hnext file hfile) other hother file hfile hstate
    rolledBack := by
      intro other hother hstate file hfile
      exact operationMoved_files (P := fun state file =>
          state = .rolledBack → file.state = .rolledBack) h
        (fun other hother file hfile hstate => hs.rolledBack other hother hstate file hfile)
        (fun file hfile hnext => hrolledBack hnext file hfile) other hother file hfile hstate
    ownSet := by
      have hsets : ∀ restoreSet ∈ s.restoreSets.rows, ∃ restoreSet' ∈ t.restoreSets.rows,
          restoreSet'.restoreSetId = restoreSet.restoreSetId := by
        intro restoreSet hmem
        have hsets := h.restoreSets
        split at hsets
        · rw [hsets.2]
          refine ⟨_, List.mem_map_of_mem hmem, ?_⟩
          split <;> rfl
        · rw [hsets]
          exact ⟨restoreSet, hmem, rfl⟩
      intro other hother
      have hown : ∃ restoreSet ∈ s.restoreSets.rows,
          restoreSet.restoreSetId = other.restoreSetId := by
        rcases h.mem_operations.mp hother with rfl | ⟨hother, -⟩
        · exact hs.ownSet row h.mem
        · exact hs.ownSet other hother
      obtain ⟨restoreSet, hmem, hid⟩ := hown
      obtain ⟨restoreSet', hmem', hid'⟩ := hsets restoreSet hmem
      exact ⟨restoreSet', hmem', hid'.trans hid⟩
    sets := operationMoved_sets hs h
    single := by
      have hfirst : next = .completed → ∀ other ∈ s.operations.rows, other.state = .completed →
          row.restoreSetId ≠ other.restoreSetId := by
        intro hnext other hother hstate heq
        have hsets := h.restoreSets
        rw [if_pos hnext] at hsets
        obtain ⟨⟨eligible, heligible, hid, helig⟩, -⟩ := hsets
        rcases hs.sets eligible heligible with ⟨-, hnone⟩ | ⟨hconsumed, -⟩
        · exact hnone other hother (heq.symm.trans hid.symm) hstate
        · rw [helig] at hconsumed
          cases hconsumed
      intro a ha b hb hacompleted hbcompleted hset
      rcases h.mem_operations.mp ha with rfl | ⟨ha, -⟩ <;>
        rcases h.mem_operations.mp hb with rfl | ⟨hb, -⟩
      · rfl
      · exact absurd hset (hfirst hacompleted b hb hbcompleted)
      · exact absurd hset.symm (hfirst hbcompleted a ha hacompleted)
      · exact hs.single a ha b hb hacompleted hbcompleted hset }

end Moved

theorem effect (hs : JournalSound initial s) (h : JournalEffect encoding s t) :
    JournalSound initial t := by
  cases h with
  | kept h => exact h ▸ hs
  | created h => exact hs.created h
  | fileMoved h => exact hs.fileMoved h
  | operationMoved h => exact hs.operationMoved h

end JournalSound

end DevCommandCenter.GuardedUndo
