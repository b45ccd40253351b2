import DevCommandCenter.GuardedUndo.JournalInvariants

/-! Runs of the journal: what a later store keeps of an earlier one, over any order of calls. -/

namespace DevCommandCenter.GuardedUndo

open Library JournalStore

variable {encoding : JournalEncoding} {initial s t u : JournalStore}

def UndoOperationState.isFinal (state : UndoOperationState) : Bool :=
  state.inactive || state == .recoveryRequired

def UndoOperationFileState.isFinal : UndoOperationFileState → Bool
  | .rolledBack | .recoveryRequired => true
  | _ => false

lemma UndoOperationState.not_isFinal_of_stepsTo {state next : UndoOperationState}
    (h : state.stepsTo next = true) : state.isFinal = false := by
  cases state <;> simp_all [stepsTo, isFinal, inactive]

lemma UndoOperationFileState.not_isFinal_of_stepsTo {state next : UndoOperationFileState}
    (h : state.stepsTo next = true) : state.isFinal = false := by
  cases state <;> simp_all [stepsTo, isFinal]

def JournalStore.fileLive (s : JournalStore) (file : UndoOperationFile) : Prop :=
  ∀ row ∈ s.operations.rows, row.operationId = file.operationId → row.state.inactive = false

structure FileKept (file later : UndoOperationFile) : Prop where
  identity : sameFileIdentity file later
  staged : file.stagedMetadata ≠ none → later.stagedMetadata = file.stagedMetadata
  stagedOrLater : file.state.stagedOrLater = true → later.state.stagedOrLater = true
  final : file.state.isFinal = true → later = file

structure JournalGrows (s t : JournalStore) : Prop where
  operations : ∀ row ∈ s.operations.rows, ∃ later ∈ t.operations.rows,
    later.operationId = row.operationId ∧ later.restoreSetId = row.restoreSetId ∧
      (row.state.isFinal = true → later = row)
  files : ∀ file ∈ s.operationFiles.rows, ∃ later ∈ t.operationFiles.rows,
    FileKept file later ∧ (¬s.fileLive file → later = file)
  oldFiles : ∀ later ∈ t.operationFiles.rows, (∃ row ∈ s.operations.rows,
    row.operationId = later.operationId) → ∃ file ∈ s.operationFiles.rows, FileKept file later
  sets : ∀ restoreSet ∈ s.restoreSets.rows, ∃ later ∈ t.restoreSets.rows,
    later = restoreSet ∨ (later.restoreSetId = restoreSet.restoreSetId ∧
      restoreSet.state = .eligible ∧ later.state = .consumed)
  restoreFiles : t.restoreFiles = s.restoreFiles

lemma FileKept.refl (file : UndoOperationFile) : FileKept file file where
  identity := sameFileIdentity.refl file
  staged _ := rfl
  stagedOrLater h := h
  final _ := rfl

lemma FileKept.trans {a b c : UndoOperationFile} (h : FileKept a b) (h' : FileKept b c) :
    FileKept a c where
  identity := h.identity.trans h'.identity
  staged hne := by
    have heq := h.staged hne
    rw [h'.staged (heq ▸ hne), heq]
  stagedOrLater ha := h'.stagedOrLater (h.stagedOrLater ha)
  final ha := by
    obtain rfl := h.final ha
    exact h'.final ha

lemma FileMoved.kept {current next : UndoOperationFile} (h : FileMoved current next s t) :
    FileKept current next where
  identity := h.identity
  staged hne := (h.staged.resolve_right hne).symm
  stagedOrLater _ := UndoOperationFileState.stagedOrLater_of_stepsTo h.steps
  final hfinal := by
    have hnot := UndoOperationFileState.not_isFinal_of_stepsTo h.steps
    simp [hfinal] at hnot

namespace JournalGrows

lemma refl (s : JournalStore) : JournalGrows s s where
  operations row hrow := ⟨row, hrow, rfl, rfl, fun _ => rfl⟩
  files file hfile := ⟨file, hfile, .refl file, fun _ => rfl⟩
  oldFiles later hlater _ := ⟨later, hlater, .refl later⟩
  sets restoreSet hmem := ⟨restoreSet, hmem, .inl rfl⟩
  restoreFiles := rfl

lemma fileLive (h : JournalGrows s t) {file later : UndoOperationFile}
    (hid : later.operationId = file.operationId) (hlive : t.fileLive later) : s.fileLive file := by
  intro row hrow hrowId
  obtain ⟨row', hrow', hid', -, hfinal⟩ := h.operations row hrow
  cases hinactive : row.state.inactive with
  | false => rfl
  | true =>
      obtain rfl := hfinal (by simp [UndoOperationState.isFinal, hinactive])
      rw [← hinactive]
      exact hlive row' hrow' (hrowId.trans hid.symm)

lemma trans (h : JournalGrows s t) (h' : JournalGrows t u) : JournalGrows s u where
  operations row hrow := by
    obtain ⟨row', hrow', hid, hset, hfinal⟩ := h.operations row hrow
    obtain ⟨row'', hrow'', hid', hset', hfinal'⟩ := h'.operations row' hrow'
    refine ⟨row'', hrow'', hid'.trans hid, hset'.trans hset, fun hrowFinal => ?_⟩
    obtain rfl := hfinal hrowFinal
    exact hfinal' hrowFinal
  files file hfile := by
    obtain ⟨file', hfile', hkept, hdead⟩ := h.files file hfile
    obtain ⟨file'', hfile'', hkept', hdead'⟩ := h'.files file' hfile'
    refine ⟨file'', hfile'', hkept.trans hkept', fun hnot => ?_⟩
    obtain rfl := hdead hnot
    exact hdead' fun hlive => hnot (h.fileLive rfl hlive)
  oldFiles later hlater hold := by
    obtain ⟨row, hrow, hid⟩ := hold
    obtain ⟨row', hrow', hid', -⟩ := h.operations row hrow
    obtain ⟨file', hfile', hkept'⟩ := h'.oldFiles later hlater ⟨row', hrow', hid'.trans hid⟩
    obtain ⟨file, hfile, hkept⟩ := h.oldFiles file' hfile'
      ⟨row, hrow, hid.trans hkept'.identity.1.symm⟩
    exact ⟨file, hfile, hkept.trans hkept'⟩
  sets restoreSet hmem := by
    obtain ⟨set', hmem', h₁⟩ := h.sets restoreSet hmem
    obtain ⟨set'', hmem'', h₂⟩ := h'.sets set' hmem'
    refine ⟨set'', hmem'', ?_⟩
    rcases h₁ with rfl | ⟨hid, heligible, hconsumed⟩
    · exact h₂
    · rcases h₂ with rfl | ⟨-, heligible', -⟩
      · exact .inr ⟨hid, heligible, hconsumed⟩
      · rw [hconsumed] at heligible'
        cases heligible'
  restoreFiles := h'.restoreFiles.trans h.restoreFiles

lemma created {operation : UndoOperation} {files : List UndoOperationFile}
    (h : Created encoding operation files s t) : JournalGrows s t where
  operations row hrow := ⟨row, h.mem_operations.mpr (.inl hrow), rfl, rfl, fun _ => rfl⟩
  files file hfile := ⟨file, h.mem_operationFiles.mpr (.inl hfile), .refl file, fun _ => rfl⟩
  oldFiles later hlater hold := by
    obtain ⟨row, hrow, hid⟩ := hold
    rcases h.mem_operationFiles.mp hlater with hmem | hmem
    · exact ⟨later, hmem, .refl later⟩
    · exact absurd (hid.trans (h.planned later hmem).1) (h.fresh row hrow)
  sets restoreSet hmem := ⟨restoreSet, h.restoreSets ▸ hmem, .inl rfl⟩
  restoreFiles := h.restoreFiles

lemma fileMoved {current next : UndoOperationFile} (hs : JournalSound initial s)
    (h : FileMoved current next s t) : JournalGrows s t where
  operations row hrow := ⟨row, h.operations ▸ hrow, rfl, rfl, fun _ => rfl⟩
  files file hfile := by
    by_cases heq : file = current
    · subst heq
      refine ⟨next, h.mem_operationFiles.mpr (.inl rfl), h.kept, fun hdead => absurd ?_ hdead⟩
      obtain ⟨owner, howner, hid, hactive⟩ := h.owner
      intro row hrow hrowId
      obtain rfl := s.operations.eq_of_key hrow howner (hrowId.trans hid.symm)
      have hsound := hs.active row hrow
      rw [hactive] at hsound
      simpa using hsound.symm
    · exact ⟨file, h.mem_operationFiles.mpr (.inr ⟨hfile, heq⟩), .refl file, fun _ => rfl⟩
  oldFiles later hlater _ := by
    rcases h.mem_operationFiles.mp hlater with rfl | ⟨hmem, -⟩
    · exact ⟨current, h.mem, h.kept⟩
    · exact ⟨later, hmem, .refl later⟩
  sets restoreSet hmem := ⟨restoreSet, h.restoreSets ▸ hmem, .inl rfl⟩
  restoreFiles := h.restoreFiles

lemma operationMoved {row : UndoOperationRow} {next : UndoOperationState}
    {reason : Option GuardedUndoReasonCode} {details : Option RecoveryDetailsV1}
    {updatedAt : String} (h : OperationMoved row next reason details updatedAt s t) :
    JournalGrows s t where
  operations other hother := by
    by_cases heq : other = row
    · subst heq
      refine ⟨_, h.mem_operations.mpr (.inl rfl), rfl, rfl, fun hfinal => ?_⟩
      have hnot := UndoOperationState.not_isFinal_of_stepsTo h.steps
      simp [hfinal] at hnot
    · exact ⟨other, h.mem_operations.mpr (.inr ⟨hother, heq⟩), rfl, rfl, fun _ => rfl⟩
  files file hfile := ⟨file, h.operationFiles ▸ hfile, .refl file, fun _ => rfl⟩
  oldFiles later hlater _ := ⟨later, h.operationFiles ▸ hlater, .refl later⟩
  sets restoreSet hmem := by
    have hsets := h.restoreSets
    split at hsets
    · obtain ⟨⟨eligible, heligible, hid, hstate⟩, hrows⟩ := hsets
      by_cases hset : restoreSet.restoreSetId = row.restoreSetId
      · have heq : restoreSet = eligible := s.restoreSets.eq_of_key hmem heligible
          (hset.trans hid.symm)
        refine ⟨_, hrows ▸ List.mem_map_of_mem hmem, .inr ?_⟩
        rw [if_pos hset]
        exact ⟨rfl, heq ▸ hstate, rfl⟩
      · refine ⟨_, hrows ▸ List.mem_map_of_mem hmem, .inl ?_⟩
        rw [if_neg hset]
    · exact ⟨restoreSet, hsets ▸ hmem, .inl rfl⟩
  restoreFiles := h.restoreFiles

lemma effect (hs : JournalSound initial s) (h : JournalEffect encoding s t) : JournalGrows s t := by
  cases h with
  | kept h => exact h ▸ .refl s
  | created h => exact created h
  | fileMoved h => exact fileMoved hs h
  | operationMoved h => exact operationMoved h

end JournalGrows

lemma run_sound_grows {calls : List (JournalAction × Except String Bool)}
    (h : (undoJournal encoding initial).Run s calls t) (hs : JournalSound initial s) :
    JournalSound initial t ∧ JournalGrows s t := by
  induction h with
  | nil _ => exact ⟨hs, .refl _⟩
  | concat _ hstep _ ih =>
      obtain ⟨hsound, hgrows⟩ := ih
      have heffect := call_effect (Option.some.inj hstep)
      exact ⟨hsound.effect heffect, hgrows.trans (.effect hsound heffect)⟩

lemma inactive_iff {state : UndoOperationState} : state.inactive = true ↔
    state = .completed ∨ state = .rolledBack ∨ state = .blocked := by
  cases state <;> simp [UndoOperationState.inactive]

lemma JournalSound.active_iff (hs : JournalSound initial s) {row : UndoOperationRow}
    (hrow : row ∈ s.operations.rows) : row.active = false ↔
      row.state = .completed ∨ row.state = .rolledBack ∨ row.state = .blocked := by
  rw [hs.active row hrow, ← inactive_iff]
  simp

lemma JournalSound.consumed_iff (hs : JournalSound initial s) {restoreSet : TurnRestoreSet}
    (hmem : restoreSet ∈ s.restoreSets.rows) :
    (restoreSet.state = .consumed ∧ ∃ before ∈ initial.restoreSets.rows,
        before.restoreSetId = restoreSet.restoreSetId ∧ before.state ≠ .consumed) ↔
      ∃ row ∈ s.operations.rows, row.restoreSetId = restoreSet.restoreSetId ∧
        row.state = .completed := by
  rcases hs.sets restoreSet hmem with ⟨hinitial, hnone⟩ | ⟨hconsumed, ⟨before, hb, hid, he⟩, hdone⟩
  · constructor
    · rintro ⟨hconsumed, before, hbefore, hid, hne⟩
      obtain rfl := initial.restoreSets.eq_of_key hbefore hinitial hid
      exact absurd hconsumed hne
    · rintro ⟨row, hrow, hid, hcompleted⟩
      exact absurd hcompleted (hnone row hrow hid)
  · exact ⟨fun _ => hdone, fun _ => ⟨hconsumed, before, hb, hid, by simp [he]⟩⟩

lemma JournalGrows.prepared (hgrows : JournalGrows s t) (hs : JournalSound initial s)
    (ht : JournalSound initial t) {row : UndoOperationRow} (hrow : row ∈ s.operations.rows)
    (hpast : row.state.pastPrepared = true) :
    ∀ restored ∈ t.restoreFilesOf row.restoreSetId, ∃ file ∈ t.operationFilesOf row.operationId,
      file.ordinal = restored.ordinal ∧ file.pathBytes = restored.pathBytes ∧
        file.state.stagedOrLater = true := by
  intro restored hrestored
  obtain ⟨later, hlater, hid, hset, -⟩ := hgrows.operations row hrow
  rw [← hset] at hrestored
  obtain ⟨file, hfile, hordinal, hpath⟩ := ht.covered later hlater restored hrestored
  rw [hid] at hfile
  refine ⟨file, hfile, hordinal, hpath, ?_⟩
  obtain ⟨hmem, hfileId⟩ := mem_operationFilesOf.mp hfile
  obtain ⟨old, hold, hkept⟩ := hgrows.oldFiles file hmem ⟨row, hrow, hfileId.symm⟩
  exact hkept.stagedOrLater (hs.staged row hrow hpast old
    (mem_operationFilesOf.mpr ⟨hold, hkept.identity.1.trans hfileId⟩))

lemma JournalGrows.final (hgrows : JournalGrows s t) {row : UndoOperationRow}
    (hrow : row ∈ s.operations.rows) (hfinal : row.state.inactive = true) :
    row ∈ t.operations.rows ∧ ∀ file, file ∈ t.operationFilesOf row.operationId ↔
      file ∈ s.operationFilesOf row.operationId := by
  have hdead : ∀ file : UndoOperationFile, file.operationId = row.operationId →
      ¬s.fileLive file := by
    intro file hid hlive
    have := hlive row hrow hid.symm
    simp [hfinal] at this
  obtain ⟨later, hlater, -, -, heq⟩ := hgrows.operations row hrow
  refine ⟨heq (by simp [UndoOperationState.isFinal, hfinal]) ▸ hlater, fun file => ?_⟩
  rw [mem_operationFilesOf, mem_operationFilesOf]
  constructor
  · rintro ⟨hfile, hid⟩
    obtain ⟨old, hold, hkept⟩ := hgrows.oldFiles file hfile ⟨row, hrow, hid.symm⟩
    have holdId := hkept.identity.1.trans hid
    obtain ⟨later, hlater, hkept', hsame⟩ := hgrows.files old hold
    have hfileLater : file = later := t.operationFiles.eq_of_key hfile hlater
      (Prod.ext (hid.trans (holdId.symm.trans hkept'.identity.1))
        (hkept.identity.2.2.1.symm.trans hkept'.identity.2.2.1))
    rw [hfileLater, hsame (hdead old holdId)]
    exact ⟨hold, holdId⟩
  · rintro ⟨hfile, hid⟩
    obtain ⟨later, hlater, -, hsame⟩ := hgrows.files file hfile
    exact ⟨hsame (hdead file hid) ▸ hlater, hid⟩

/-- The journal over any calls in any order, from a store without operations: `s` is any store of
the run and `t` the same or a later one. -/
theorem undo_journal_keeps_invariants {before after : List (JournalAction × Except String Bool)}
    (hoperations : initial.operations.rows = []) (hfiles : initial.operationFiles.rows = [])
    (hbefore : (undoJournal encoding initial).Run initial before s)
    (hafter : (undoJournal encoding initial).Run s after t) :
    (∀ row ∈ t.operations.rows, row.active = false ↔
      row.state = .completed ∨ row.state = .rolledBack ∨ row.state = .blocked) ∧
    (∀ restoreSet ∈ t.restoreSets.rows,
      (restoreSet.state = .consumed ∧ ∃ before ∈ initial.restoreSets.rows,
        before.restoreSetId = restoreSet.restoreSetId ∧ before.state ≠ .consumed) ↔
      ∃ row ∈ t.operations.rows, row.restoreSetId = restoreSet.restoreSetId ∧
        row.state = .completed) ∧
    (∀ row ∈ t.operations.rows, ∀ other ∈ t.operations.rows, row.state = .completed →
      other.state = .completed → row.restoreSetId = other.restoreSetId → row = other) ∧
    (∀ row ∈ s.operations.rows, row.state.pastPrepared = true →
      ∀ restored ∈ t.restoreFilesOf row.restoreSetId, ∃ file ∈ t.operationFilesOf row.operationId,
        file.ordinal = restored.ordinal ∧ file.pathBytes = restored.pathBytes ∧
          file.state.stagedOrLater = true) ∧
    (∀ row ∈ t.operations.rows, row.state = .completed →
      ∀ file ∈ t.operationFilesOf row.operationId,
        file.state = .verified ∧ file.verificationOutcome = .verified) ∧
    (∀ row ∈ t.operations.rows, row.state = .rolledBack →
      ∀ file ∈ t.operationFilesOf row.operationId, file.state = .rolledBack) ∧
    (∀ row ∈ s.operations.rows, row.active = false →
      row ∈ t.operations.rows ∧ ∀ file, file ∈ t.operationFilesOf row.operationId ↔
        file ∈ s.operationFilesOf row.operationId) ∧
    (∀ file ∈ s.operationFiles.rows, file.state.isFinal = true → file ∈ t.operationFiles.rows) ∧
    (∀ file ∈ s.operationFiles.rows, ∃ later ∈ t.operationFiles.rows,
      sameFileIdentity file later ∧
        (file.stagedMetadata ≠ none → later.stagedMetadata = file.stagedMetadata)) ∧
    ∀ (action : JournalAction) (e : String) (u : JournalStore),
      action.call encoding t = (.error e, u) → u = t := by
  obtain ⟨hs, -⟩ := run_sound_grows hbefore (.start hoperations hfiles)
  obtain ⟨ht, hgrows⟩ := run_sound_grows hafter hs
  refine ⟨fun row hrow => ht.active_iff hrow, fun restoreSet hmem => ht.consumed_iff hmem,
    ht.single, fun row hrow hpast => hgrows.prepared hs ht hrow hpast, ht.verified, ht.rolledBack,
    fun row hrow hinactive => ?_, fun file hfile hfinal => ?_, fun file hfile => ?_,
    fun action e u hcall => call_errorKeeps action t e u hcall⟩
  · exact hgrows.final hrow (inactive_iff.mpr ((hs.active_iff hrow).mp hinactive))
  · obtain ⟨later, hlater, hkept, -⟩ := hgrows.files file hfile
    exact hkept.final hfinal ▸ hlater
  · obtain ⟨later, hlater, hkept, -⟩ := hgrows.files file hfile
    exact ⟨later, hlater, hkept.identity, hkept.staged⟩

def demoJournalEncoding : JournalEncoding where
  sha256 _ := ⟨List.replicate 32 0, rfl⟩
  gitIdentityJson _ := 1
  preparedIdentityJson _ := 1
  metadataJson _ := 1
  recoveryDetailsJson _ := 1

def demoHash : Sha256Digest :=
  ⟨List.replicate 32 0, rfl⟩

def demoKey : ArtifactKey :=
  ⟨List.replicate 16 0, rfl⟩

def demoMetadata (identity : Byte) : RegularFileMetadataV1 where
  schemaVersion := 1
  adapter := "unix"
  fileIdentity := [identity]
  linkCount := 1
  fields := ⟨[], .nil⟩

def demoGit : GitIdentityV1 where
  schemaVersion := 2
  worktreeIdentity := [1]
  gitDirIdentity := [1]
  commonDirIdentity := [1]
  headOid := List.replicate 20 0
  checkoutRef := .detached
  index := { sha256 := demoHash, size := 0, statIdentity := [1] }

def demoWorktree : PhysicalRootId :=
  ⟨[1, 1, 7]⟩

def demoRestoreSet : TurnRestoreSet where
  restoreSetId := ⟨"set"⟩
  snapshotId := "snapshot"
  sessionId := ⟨"session"⟩
  turnId := ⟨"turn"⟩
  workspaceId := ⟨"workspace"⟩
  rootId := some demoWorktree
  captureVersion := 2
  state := .eligible
  reasonCode := none
  gitIdentity := some demoGit
  artifactBytes := 3
  fileCount := 1
  manifestDigest := some demoHash
  createdAt := "t0"
  completedAt := some "t0"
  expiresAt := some "t9"

def demoRestoreFile : TurnRestoreFile where
  restoreSetId := ⟨"set"⟩
  ordinal := 0
  pathBytes := ⟨[1, 1, 97]⟩
  status := .modified
  preSize := 3
  preSha256 := demoHash
  preArtifactKey := demoKey
  resultSize := 4
  resultSha256 := demoHash
  metadataFingerprint := demoMetadata 1

def demoOperation : UndoOperation where
  operationId := ⟨"undo"⟩
  restoreSetId := ⟨"set"⟩
  journalVersion := 1
  state := .preparing
  active := true
  previewTokenDigest := some demoHash
  preparedIdentity := {
    schemaVersion := 2
    rootId := demoWorktree
    git := demoGit
    manifestDigest := demoHash
    coordinatorGeneration := 0
    gitDirGeneration := 0
    commonDirGeneration := 0 }
  reasonCode := none
  recoveryDetails := none
  createdAt := "t1"
  updatedAt := "t1"
  completedAt := none

def demoOperationFile : UndoOperationFile where
  operationId := ⟨"undo"⟩
  restoreSetId := ⟨"set"⟩
  ordinal := 0
  pathBytes := ⟨[1, 1, 97]⟩
  exchangeArtifactKey := demoKey
  expectedResultSize := 4
  expectedResultSha256 := demoHash
  expectedMetadata := demoMetadata 1
  preSize := 3
  preSha256 := demoHash
  stagedMetadata := none
  displacedSize := none
  displacedSha256 := none
  displacedMetadata := none
  state := .planned
  verificationOutcome := .pending
  recoveryDetails := none
  updatedAt := "t1"
  chainedFromOperationId := none

def demoStaged : UndoOperationFile :=
  { demoOperationFile with stagedMetadata := some (demoMetadata 2), state := .staged }

def demoApplied : UndoOperationFile :=
  { demoStaged with
    displacedSize := some 4
    displacedSha256 := some demoHash
    displacedMetadata := some (demoMetadata 1)
    state := .applied }

def demoVerified : UndoOperationFile :=
  { demoApplied with state := .verified, verificationOutcome := .verified }

def demoJournalStore : JournalStore where
  restoreSets := ⟨[demoRestoreSet], by simp⟩
  restoreFiles := ⟨[demoRestoreFile], by simp⟩
  operations := .empty
  operationFiles := .empty

def demoUndo : List JournalAction :=
  let moves := fun expected next => JournalAction.transition ⟨"undo"⟩ expected next none none "t2"
  [.create demoOperation [demoOperationFile],
    moves .preparing .prepared,
    .transitionFile .planned demoStaged,
    moves .preparing .prepared,
    moves .prepared .applying,
    .transitionFile .staged demoApplied,
    .transitionFile .applied demoVerified,
    moves .applying .verifying,
    moves .verifying .completed]

def demoUndone : JournalStore :=
  (undoJournal demoJournalEncoding demoJournalStore).exec demoJournalStore demoUndo

theorem undo_journal_keeps_invariants_demo :
    demoUndone.operations.rows.map (fun row => (row.state, row.active)) = [(.completed, false)] ∧
      demoUndone.restoreSets.rows.map TurnRestoreSet.state = [.consumed] ∧
      (∀ row ∈ demoUndone.operations.rows, row.state = .completed →
        ∀ file ∈ demoUndone.operationFilesOf row.operationId,
          file.state = .verified ∧ file.verificationOutcome = .verified) ∧
      ∀ (action : JournalAction) (e : String) (u : JournalStore),
        action.call demoJournalEncoding demoUndone = (.error e, u) → u = demoUndone := by
  obtain ⟨events, hrun⟩ :=
    (undoJournal demoJournalEncoding demoJournalStore).run_exec demoJournalStore demoUndo
  obtain ⟨-, -, -, -, hverified, -, -, -, -, herror⟩ :=
    undo_journal_keeps_invariants rfl rfl hrun (.nil trivial)
  exact ⟨by decide +kernel, by decide +kernel, hverified, herror⟩

end DevCommandCenter.GuardedUndo
