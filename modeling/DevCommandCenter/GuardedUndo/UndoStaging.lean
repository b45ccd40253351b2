import DevCommandCenter.GuardedUndo.LoadedSets
import DevCommandCenter.GuardedUndo.UndoProgress

/-! Executing a previewed undo: validated, journalled, staged and carried out, it is sound wherever
the process stops. -/

namespace DevCommandCenter.GuardedUndo

open Library JournalStore UndoScope

variable {env : RestoreEnvironment} {scope : UndoScope} {I P : Durable → Prop} {now : ℕ}
  {s t : JournalStore} {restore : TurnRestoreSet}

section Staging

variable {files : List UndoOperationFile} {journal staged : UndoOperationFile} {i : ℕ}
  {encoding : JournalEncoding}

def Placed (files : List UndoOperationFile) : Prop :=
  ∀ i (hi : i < files.length), files[i].ordinal = i

lemma Placed.mem_set (hplaced : Placed files) (hi : i < files.length) {file : UndoOperationFile} :
    file ∈ files.set i staged ↔ file = staged ∨ (file ∈ files ∧ file.ordinal ≠ i) := by
  rw [List.mem_iff_getElem]
  constructor
  · rintro ⟨j, hj, rfl⟩
    rw [List.length_set] at hj
    rw [List.getElem_set]
    split
    · exact .inl rfl
    · next hne => exact .inr ⟨List.getElem_mem hj, fun h => hne (h.symm.trans (hplaced j hj))⟩
  · rintro (rfl | ⟨hmem, hne⟩)
    · exact ⟨i, by simpa using hi, by simp⟩
    · obtain ⟨j, hj, rfl⟩ := List.getElem_of_mem hmem
      refine ⟨j, by simpa using hj, ?_⟩
      exact List.getElem_set_ne (fun h => hne ((hplaced j hj).trans h.symm)) _

lemma Placed.eq_of_ordinal (hplaced : Placed files) {file other : UndoOperationFile}
    (hfile : file ∈ files) (hother : other ∈ files) (h : file.ordinal = other.ordinal) :
    file = other := by
  obtain ⟨i, hi, rfl⟩ := List.getElem_of_mem hfile
  obtain ⟨j, hj, rfl⟩ := List.getElem_of_mem hother
  rw [hplaced i hi, hplaced j hj] at h
  subst h
  rfl

lemma Placed.set (hplaced : Placed files) (hstaged : staged.ordinal = i) :
    Placed (files.set i staged) := by
  intro j hj
  rw [List.length_set] at hj
  rw [List.getElem_set]
  split
  · next h => exact hstaged.trans h
  · exact hplaced j hj

variable (hplaced : Placed files) (hjournal : journal ∈ files) (hordinal : journal.ordinal = i)
  (hi : i < files.length) (hsame : sameFileIdentity journal staged)

include hplaced hjournal hordinal hi hsame

lemma UndoScope.Owns.set (howns : scope.Owns files) : scope.Owns (files.set i staged) := by
  obtain ⟨hid, -, -, hpath, hkey, hsize, hhash, hmetadata, hpre, hpreHash, -⟩ := hsame
  have hresult : resultEvidence staged = resultEvidence journal := by
    simp [resultEvidence, hsize, hhash, hmetadata]
  refine ⟨?_, ?_, ?_, ?_, ?_, ?_⟩
  · intro file hfile
    rcases (hplaced.mem_set hi).mp hfile with rfl | ⟨hmem, -⟩
    · exact hid ▸ howns.own journal hjournal
    · exact howns.own file hmem
  · intro file hfile
    rcases (hplaced.mem_set hi).mp hfile with rfl | ⟨hmem, -⟩
    · exact hpath ▸ howns.paths journal hjournal
    · exact howns.paths file hmem
  · intro file hfile
    rcases (hplaced.mem_set hi).mp hfile with rfl | ⟨hmem, -⟩
    · exact hkey ▸ howns.keys journal hjournal
    · exact howns.keys file hmem
  · intro file hfile
    rcases (hplaced.mem_set hi).mp hfile with rfl | ⟨hmem, -⟩
    · rw [← hpath, hresult]
      exact howns.before journal hjournal
    · exact howns.before file hmem
  · intro file hfile other hother hpaths
    rcases (hplaced.mem_set hi).mp hfile with rfl | ⟨hmem, hne⟩ <;>
      rcases (hplaced.mem_set hi).mp hother with rfl | ⟨hmem', hne'⟩
    · rfl
    · exact absurd (howns.distinct _ hjournal _ hmem' (hpath.trans hpaths) ▸ hordinal) hne'
    · exact absurd (howns.distinct _ hjournal _ hmem (hpath.trans hpaths.symm) ▸ hordinal) hne
    · exact howns.distinct _ hmem _ hmem' hpaths
  · intro restored hrestored
    obtain ⟨file, hfile, hpath', hsize', hhash'⟩ := howns.covers restored hrestored
    by_cases hat : file.ordinal = i
    · have heq := hplaced.eq_of_ordinal hfile hjournal (hat.trans hordinal.symm)
      subst heq
      exact ⟨staged, (hplaced.mem_set hi).mpr (.inl rfl), hpath ▸ hpath', hpre ▸ hsize',
        hpreHash ▸ hhash'⟩
    · exact ⟨file, (hplaced.mem_set hi).mpr (.inr ⟨hfile, hat⟩), hpath', hsize', hhash'⟩

lemma UndoScope.Ledger.stage (h : scope.Ledger files .preparing s)
    {expected : UndoOperationFileState} {wrote : Bool}
    (hcall : transitionUndoOperationFile encoding expected staged s = (.ok wrote, t)) :
    scope.Ledger (files.set i staged) .preparing t := by
  obtain ⟨row, hrow, halike⟩ := h.held journal hjournal
  obtain ⟨hrowMem, hrowId⟩ := mem_operationFilesOf.mp hrow
  have hrowOrdinal : row.ordinal = i := halike.1.2.2.1.symm.trans hordinal
  have hkey : ∀ other ∈ s.operationFiles.rows, other.operationId = scope.id → other.ordinal = i →
      other = row := fun other hother hid hat =>
    s.operationFiles.eq_of_key hother hrowMem (Prod.ext (hid.trans hrowId.symm)
      (hat.trans hrowOrdinal.symm))
  have hstagedId : staged.operationId = scope.id :=
    hsame.1.symm.trans (halike.1.1.trans hrowId)
  have hstagedOrdinal : staged.ordinal = i := hsame.2.2.1.symm.trans hordinal
  have hothers : ∀ file ∈ files, file.ordinal ≠ i → ∃ other ∈ s.operationFiles.rows,
      other.operationId = scope.id ∧ other ≠ row ∧ file.Alike other := by
    intro file hfile hne
    obtain ⟨other, hother, hotherAlike⟩ := h.held file hfile
    obtain ⟨hmem, hid⟩ := mem_operationFilesOf.mp hother
    refine ⟨other, hmem, hid, ?_, hotherAlike⟩
    rintro rfl
    exact hne (hotherAlike.1.2.2.1.trans hrowOrdinal)
  have hcovers : ∀ other ∈ s.operationFiles.rows, other.operationId = scope.id → other ≠ row →
      ∃ file ∈ files.set i staged, file.Alike other := by
    intro other hother hid hne
    obtain ⟨file, hfile, hfileAlike⟩ := h.covered other (mem_operationFilesOf.mpr ⟨hother, hid⟩)
    refine ⟨file, (hplaced.mem_set hi).mpr (.inr ⟨hfile, fun hat => hne ?_⟩), hfileAlike⟩
    exact hkey other hother hid (hfileAlike.1.2.2.1.symm.trans hat)
  rcases transitionUndoOperationFile_ok hcall with ⟨-, rfl, hmem⟩ | ⟨-, current, -, hmoved⟩
  · have heq : staged = row := hkey staged hmem hstagedId hstagedOrdinal
    refine ⟨h.row, fun file hfile => ?_, fun other hother => ?_, h.apart⟩
    · rcases (hplaced.mem_set hi).mp hfile with rfl | ⟨hfile, hne⟩
      · exact ⟨row, hrow, heq ▸ .refl _⟩
      · obtain ⟨other, hother, hid, -, hotherAlike⟩ := hothers file hfile hne
        exact ⟨other, mem_operationFilesOf.mpr ⟨hother, hid⟩, hotherAlike⟩
    · obtain ⟨hother, hid⟩ := mem_operationFilesOf.mp hother
      by_cases hat : other = row
      · exact ⟨staged, (hplaced.mem_set hi).mpr (.inl rfl), hat ▸ heq ▸ .refl _⟩
      · exact hcovers other hother hid hat
  · have hcurrent : current = row := hkey current hmoved.mem
      (hmoved.identity.1.trans hstagedId) (hmoved.identity.2.2.1.trans hstagedOrdinal)
    subst hcurrent
    refine ⟨hmoved.operations ▸ h.row, fun file hfile => ?_, fun other hother => ?_,
      h.apart.fileMoved hmoved⟩
    · rcases (hplaced.mem_set hi).mp hfile with rfl | ⟨hfile, hne⟩
      · exact ⟨file, mem_operationFilesOf.mpr ⟨hmoved.mem_operationFiles.mpr (.inl rfl), hstagedId⟩,
          .refl file⟩
      · obtain ⟨other, hother, hid, hne', hotherAlike⟩ := hothers file hfile hne
        exact ⟨other, mem_operationFilesOf.mpr ⟨hmoved.mem_operationFiles.mpr (.inr ⟨hother, hne'⟩),
          hid⟩, hotherAlike⟩
    · obtain ⟨hother, hid⟩ := mem_operationFilesOf.mp hother
      rcases hmoved.mem_operationFiles.mp hother with rfl | ⟨hother, hne⟩
      · exact ⟨other, (hplaced.mem_set hi).mpr (.inl rfl), .refl other⟩
      · exact hcovers other hother hid hne

end Staging

section Stage

variable {files : List UndoOperationFile}

def UndoScope.Staged (scope : UndoScope) :
    Except ExecuteGuardedUndoResult (List UndoOperationFile) → Durable → Prop
  | .error _ => scope.Sound
  | .ok files => fun d => scope.Owns files ∧ scope.Holds files .preparing d

lemma stageFile_triple (hid : scope.id = env.operationId) (howns : scope.Owns files) (hplaced : Placed files)
    {journal : UndoOperationFile} (hjournal : journal ∈ files) {file : TurnRestoreFile}
    (hordinal : journal.ordinal = file.ordinal) (hi : file.ordinal < files.length)
    (expected : ExpectedResult) :
    Service.Triple scope.Sound (scope.Holds files .preparing)
      (stageFile env now file expected files journal) (Call.Answers scope.Sound fun staged d =>
        sameFileIdentity journal staged ∧
          scope.Holds (files.set file.ordinal staged) .preparing d) := by
  have haborts : Service.Triple scope.Sound (scope.Holds files .preparing)
      (abortPreparing env scope.id now files) fun _ => scope.Sound := abortPreparing_triple howns
  have hsound : ∀ d, scope.Holds files .preparing d → scope.Sound d := holds_sound howns
  have hcleans : ∀ staged, Service.Triple scope.Sound (scope.Holds files .preparing)
      (cleanupExchange env file.pathBytes journal.exchangeArtifactKey staged)
      fun _ => scope.Holds files .preparing := fun staged =>
    cleanupExchange_triple hsound fun d hd => ⟨hd.1, hd.2⟩
  unfold stageFile
  rw [← hid]
  refine Call.Triple.bind (stagePreimage_triple hsound fun d staged hd => ⟨hd.1, hd.2⟩)
    fun answer => ?_
  cases answer with
  | error reason => exact .map haborts
  | ok staged =>
      dsimp only
      split
      · exact (hcleans staged).bind fun _ => .map haborts
      refine (inspectTarget_triple hsound _).bind fun current => ?_
      refine Call.Triple.pre (H := scope.Holds files .preparing) ?_ fun d hd => hd.1
      split
      · exact (hcleans staged).bind fun _ => .map haborts
      refine Call.Triple.bind (repositoryCall_triple (Q := Call.Answers
        (scope.Holds files .preparing) fun _ => scope.Holds (files.set file.ordinal { journal with
          stagedMetadata := some staged.metadata, state := .staged }) .preparing)
        hsound (fun e d hd => hd) ?_) fun answer => ?_
      · intro d answer journal' hd hcall
        cases answer with
        | error e =>
            have hkept := transitionUndoOperationFile_errorKeeps _ _ d.journal e journal' hcall
            exact ⟨hkept ▸ hd.1, hd.2⟩
        | ok wrote =>
            refine ⟨hd.1.stage hplaced hjournal hordinal hi (sameFileIdentity.refl journal) hcall, ?_⟩
            intro other hother
            rcases (hplaced.mem_set hi).mp hother with rfl | ⟨hmem, -⟩
            · exact hd.2 journal hjournal
            · exact hd.2 other hmem
      · cases answer with
        | error e => exact .map (requireRecovery_triple howns (fun _ h => h) _ _)
        | ok wrote => exact .pure fun d hd => ⟨sameFileIdentity.refl journal, hd⟩

lemma stageFiles_triple (hid : scope.id = env.operationId) (expected : List ExpectedResult)
    (list : List TurnRestoreFile) (howns : scope.Owns files) (hplaced : Placed files) :
    Service.Triple scope.Sound (scope.Holds files .preparing)
      (stageFiles env now expected list files) scope.Staged := by
  induction list generalizing files with
  | nil => exact .pure fun d hd => ⟨howns, hd⟩
  | cons file rest ih =>
      unfold stageFiles
      split
      · next journal result hjournal hresult =>
        obtain ⟨hi, hat⟩ := List.getElem?_eq_some_iff.mp hjournal
        have hmem : journal ∈ files := hat ▸ List.getElem_mem hi
        have hordinal : journal.ordinal = file.ordinal := hat ▸ hplaced file.ordinal hi
        refine (stageFile_triple hid howns hplaced hmem hordinal hi result).bind fun answer => ?_
        cases answer with
        | error ended => exact .pure fun _ h => h
        | ok staged =>
            exact .assume fun hsame => ih (howns.set hplaced hmem hordinal hi hsame)
              (hplaced.set (hsame.2.2.1.symm.trans hordinal))
      · exact .fail (holds_sound howns)

end Stage

structure UndoScope.Unrecorded (scope : UndoScope) (d : Durable) : Prop where
  rows : ∀ row ∈ d.journal.operations.rows, row.operationId ≠ scope.id
  apart : scope.Apart d.journal
  targets : ∀ path ∈ scope.paths, d.disk.targets path = scope.before path

def UndoScope.Guarded (scope : UndoScope) (d : Durable) : Prop :=
  scope.Unrecorded d ∨ scope.Sound d

lemma UndoScope.Guarded.apart {d : Durable} (h : scope.Guarded d) : scope.Apart d.journal := by
  rcases h with h | ⟨files, state, -, h⟩
  · exact h.apart
  · exact h.1.apart

section Validate

def UndoScope.Before (scope : UndoScope) (s : JournalStore) (d : Durable) : Prop :=
  d.journal = s ∧ d.disk.targets = scope.before

def Answers {ε α : Type} (X : α → Prop) (P : Durable → Prop) (answer : Except ε α) (d : Durable) :
    Prop :=
  (∀ a, answer = .ok a → X a) ∧ P d

lemma answers_error {ε α : Type} {X : α → Prop} (e : ε) :
    Service.Triple I P (pure (.error e) : Service (Except ε α)) (Answers X P) :=
  fun _ hw => ⟨fun a h => (by cases h), hw⟩

lemma answers_ok {ε α : Type} {X : α → Prop} {a : α} (h : X a) :
    Service.Triple I P (pure (.ok a) : Service (Except ε α)) (Answers X P) :=
  fun _ hw => ⟨fun _ hb => Except.ok.inj hb ▸ h, hw⟩

lemma expectedResult_triple (hI : ∀ d, P d → I d) (binding : ResultBinding) (restore : TurnRestoreSet)
    (file : TurnRestoreFile) (current : FileEvidence) :
    Service.Triple I P (expectedResult env binding restore file current)
      (Answers (fun expected => expected.evidence = current) P) := by
  unfold expectedResult
  split
  · exact answers_ok rfl
  split
  · exact answers_error _
  cases restore.rootId with
  | none => exact answers_error _
  | some rootId =>
      refine (repositoryRead_triple hI _).bind fun answer => ?_
      refine Call.Triple.pre (H := P) ?_ fun d hd => hd.1
      cases answer with
      | error e => exact answers_error _
      | ok sources =>
          dsimp only
          split
          · exact answers_ok rfl
          · exact answers_error _

lemma validateTarget_triple (hI : ∀ d, scope.Before s d → I d) (binding : ResultBinding)
    (restore : TurnRestoreSet) (file : TurnRestoreFile) (prepared : ExpectedResult) :
    Service.Triple I (scope.Before s) (validateTarget env binding restore file prepared)
      (Answers (fun _ => scope.before file.pathBytes = some prepared.evidence) (scope.Before s)) := by
  refine (verifyPreimage_triple hI _ _ _).bind fun verified => ?_
  cases verified with
  | error reason => exact answers_error reason
  | ok _ =>
      refine (inspectTarget_triple hI _).bind fun seen => ?_
      cases seen with
      | error reason => exact (answers_error reason).pre fun d hd => hd.1
      | ok current =>
          refine Call.Triple.pre (H := fun d =>
            scope.before file.pathBytes = some current ∧ scope.Before s d) (.assume fun hseen => ?_) ?_
          · refine (expectedResult_triple hI _ _ _ _).bind fun answer => .assume fun hevidence => ?_
            cases answer with
            | error reason => exact answers_error reason
            | ok expected =>
                dsimp only
                split
                · next heq => exact answers_ok (heq ▸ (hevidence expected rfl).symm ▸ hseen)
                · exact answers_error _
          · exact fun d hd => ⟨hd.1.2 ▸ hd.2 current rfl, hd.1⟩

lemma validateTargets_triple (hI : ∀ d, scope.Before s d → I d) (binding : ResultBinding)
    (restore : TurnRestoreSet) (list : List (TurnRestoreFile × ExpectedResult)) :
    Service.Triple I (scope.Before s) (validateTargets env binding restore list)
      (Answers (fun _ => ∀ entry ∈ list, scope.before entry.1.pathBytes = some entry.2.evidence)
        (scope.Before s)) := by
  induction list with
  | nil => exact answers_ok fun entry hentry => by cases hentry
  | cons entry rest ih =>
      obtain ⟨file, expected⟩ := entry
      refine (validateTarget_triple hI binding restore file expected).bind fun answer =>
        .assume fun hfile => ?_
      cases answer with
      | error reason => exact answers_error reason
      | ok _ =>
          refine ih.post fun answer d hd => ⟨fun a h => ?_, hd.2⟩
          exact List.forall_mem_cons.mpr ⟨hfile () rfl, hd.1 a h⟩

lemma validateExecuteAuthority_triple (hI : ∀ d, scope.Before s d → I d)
    (authority : RestoreAuthority) (prepared : PreparedToken) (restore : TurnRestoreSet)
    (files : List TurnRestoreFile) :
    Service.Triple I (scope.Before s)
      (validateExecuteAuthority env authority prepared restore files)
      (Answers (fun _ => files.length = prepared.expected.length ∧
        ∀ entry ∈ files.zip prepared.expected,
          scope.before entry.1.pathBytes = some entry.2.evidence) (scope.Before s)) := by
  unfold validateExecuteAuthority
  split
  · exact answers_error _
  split
  · exact answers_error _
  refine (gitIdentity_triple hI).bind fun git => ?_
  cases git with
  | error reason => exact answers_error _
  | ok git =>
      dsimp only
      split
      · exact answers_error _
      split
      · exact answers_error _
      · next hlength =>
        refine (validateTargets_triple hI _ _ _).post fun answer d hd => ⟨fun a h => ?_, hd.2⟩
        exact ⟨not_not.mp hlength, hd.1 a h⟩

end Validate

section Create

variable {files : List TurnRestoreFile}

lemma getElem_newJournalFiles {expected : List ExpectedResult} {i : ℕ}
    (hi : i < (newJournalFiles env restore files expected now).length) :
    ∃ (hfile : i < files.length) (hexpected : i < expected.length),
      (newJournalFiles env restore files expected now)[i] =
        newJournalFile env restore now files[i] expected[i] i := by
  have hlength : i < files.length ∧ i < expected.length := by
    simpa [newJournalFiles] using hi
  exact ⟨hlength.1, hlength.2, by simp [newJournalFiles]⟩

lemma owns_newJournalFiles {expected : List ExpectedResult} (hid : scope.id = env.operationId)
    (hrestored : scope.restored = files)
    (hkeys : ∀ index, env.exchangeKey index ∈ scope.keys)
    (hpaths : (files.map TurnRestoreFile.pathBytes).Nodup) (hlength : files.length = expected.length)
    (hbefore : ∀ entry ∈ files.zip expected,
      scope.before entry.1.pathBytes = some entry.2.evidence) :
    scope.Owns (newJournalFiles env restore files expected now) := by
  have hmem : ∀ file ∈ newJournalFiles env restore files expected now, ∃ i,
      ∃ (hfile : i < files.length) (hexpected : i < expected.length),
        file = newJournalFile env restore now files[i] expected[i] i := by
    intro file hfile
    obtain ⟨i, hi, rfl⟩ := List.getElem_of_mem hfile
    exact ⟨i, getElem_newJournalFiles hi⟩
  refine ⟨?_, ?_, ?_, ?_, ?_, ?_⟩
  · intro file hfile
    obtain ⟨i, -, -, rfl⟩ := hmem file hfile
    exact hid.symm
  · intro file hfile
    obtain ⟨i, hi, -, rfl⟩ := hmem file hfile
    simp only [UndoScope.paths, hrestored]
    exact List.mem_map_of_mem (List.getElem_mem hi)
  · intro file hfile
    obtain ⟨i, -, -, rfl⟩ := hmem file hfile
    exact hkeys i
  · intro file hfile
    obtain ⟨i, hi, hi', rfl⟩ := hmem file hfile
    have hentry : (files[i], expected[i]) ∈ files.zip expected := by
      rw [← List.getElem_zip (h := by simpa using ⟨hi, hi'⟩)]
      exact List.getElem_mem _
    exact hbefore _ hentry
  · intro file hfile other hother hsame
    obtain ⟨i, hi, _, rfl⟩ := hmem file hfile
    obtain ⟨j, hj, _, rfl⟩ := hmem other hother
    have heq : i = j := by
      have hinj := @List.Nodup.getElem_inj_iff _ _ hpaths i (by simpa using hi) j (by simpa using hj)
      apply hinj.mp
      simpa [newJournalFile] using hsame
    subst heq
    rfl
  · intro restored hrestoredMem
    rw [hrestored] at hrestoredMem
    obtain ⟨i, hi, rfl⟩ := List.getElem_of_mem hrestoredMem
    have hnew : i < (newJournalFiles env restore files expected now).length := by
      simpa [newJournalFiles, ← hlength] using hi
    obtain ⟨_, _, hat⟩ := getElem_newJournalFiles hnew
    exact ⟨_, List.getElem_mem hnew, by rw [hat]; rfl, by rw [hat]; rfl, by rw [hat]; rfl⟩

lemma UndoScope.Ledger.created {operation : UndoOperation} {journalFiles : List UndoOperationFile}
    (hcreated : Created env.encoding operation journalFiles s t)
    (hid : operation.operationId = scope.id) (hapart : scope.Apart s)
    (hfresh : ∀ file ∈ s.operationFiles.rows, file.operationId ≠ scope.id) :
    scope.Ledger journalFiles .preparing t where
  row := ⟨_, hcreated.mem_operations.mpr (.inr rfl), hid, hcreated.preparing, hcreated.active⟩
  held file hfile := ⟨file, mem_operationFilesOf.mpr ⟨hcreated.mem_operationFiles.mpr (.inr hfile),
    (hcreated.planned file hfile).1.trans hid⟩, .refl file⟩
  covered file hfile := by
    obtain ⟨hmem, hown⟩ := mem_operationFilesOf.mp hfile
    rcases hcreated.mem_operationFiles.mp hmem with hmem | hmem
    · exact absurd hown (hfresh file hmem)
    · exact ⟨file, hmem, .refl file⟩
  apart := by
    refine ⟨fun file hfile hne => ?_, fun row hrow hne => ?_⟩
    · rcases hcreated.mem_operationFiles.mp hfile with hmem | hmem
      · exact hapart.files file hmem hne
      · exact absurd ((hcreated.planned file hmem).1.trans hid) hne
    · rcases hcreated.mem_operations.mp hrow with hmem | rfl
      · exact hapart.rows row hmem hne
      · exact absurd hid hne

end Create

section Execute

variable {files : List TurnRestoreFile} {prepared : PreparedToken} {digest : Sha256Digest}

structure UndoScope.Startable (scope : UndoScope) (env : RestoreEnvironment) (s : JournalStore) :
    Prop where
  id : scope.id = env.operationId
  keys : ∀ index, env.exchangeKey index ∈ scope.keys
  apart : scope.Apart s
  rows : ∀ row ∈ s.operations.rows, row.operationId ≠ scope.id
  files : ∀ file ∈ s.operationFiles.rows, file.operationId ≠ scope.id

lemma UndoScope.Startable.guarded (hstart : scope.Startable env s) (d : Durable)
    (h : scope.Before s d) : scope.Guarded d := by
  obtain ⟨rfl, htargets⟩ := h
  exact .inl ⟨hstart.rows, hstart.apart, fun path _ => htargets ▸ rfl⟩

lemma executeJournalled_triple (hstart : scope.Startable env s) (hrestored : scope.restored = files)
    (hload : s.loadTurnRestoreSet env.encoding prepared.restoreSetId = .ok (some (restore, files)))
    (hlength : files.length = prepared.expected.length)
    (hbefore : ∀ entry ∈ files.zip prepared.expected,
      scope.before entry.1.pathBytes = some entry.2.evidence) :
    Service.Triple scope.Guarded (scope.Before s)
      (executeJournalled env now digest prepared restore files) fun _ => scope.Guarded := by
  have hid : restore.restoreSetId = prepared.restoreSetId := (loadTurnRestoreSet_ok hload).2.1
  refine Call.Triple.bind (repositoryCall_triple (Q := Call.Answers (scope.Before s) fun _ d =>
    ∃ t, Created env.encoding (newOperation env digest prepared restore now)
      (newJournalFiles env restore files prepared.expected now) s t ∧ d.journal = t ∧
        d.disk.targets = scope.before) hstart.guarded (fun e d hd => hd) ?_) fun answer => ?_
  · intro d answer journal hd hcall
    obtain ⟨rfl, htargets⟩ := hd
    cases answer with
    | error e =>
        have hkept := createUndoOperation_errorKeeps _ _ d.journal e journal hcall
        exact ⟨hkept, htargets⟩
    | ok _ => exact ⟨journal, createUndoOperation_ok hcall, rfl, htargets⟩
  cases answer with
  | error e => exact .pure hstart.guarded
  | ok _ =>
      refine .exists_pre fun t => .assume fun hcreated => ?_
      obtain ⟨restoreSet, restoreFiles, hloaded, heligible, -⟩ := hcreated.loaded
      have hsame : (restoreSet, restoreFiles) = (restore, files) := by
        have heq := hloaded.symm.trans (hid ▸ hload)
        simpa using heq
      cases hsame
      have howns : scope.Owns (newJournalFiles env restore files prepared.expected now) :=
        owns_newJournalFiles hstart.id hrestored hstart.keys (loadedSet hload heligible).paths hlength
          hbefore
      have hledger := UndoScope.Ledger.created hcreated hstart.id.symm hstart.apart hstart.files
      refine Call.Triple.stops (J := scope.Sound) ?_ fun d hd => .inr hd
      refine Call.Triple.pre (H := scope.Holds
        (newJournalFiles env restore files prepared.expected now) .preparing) ?_ ?_
      · refine (stageFiles_triple hstart.id _ _ howns hcreated.ordinals).bind fun answer => ?_
        cases answer with
        | error ended => exact .pure fun d hd => .inr hd
        | ok staged =>
            refine .assume fun howns => ?_
            exact (applyOperation_triple howns hstart.id _).post fun _ d hd => .inr hd
      · rintro d ⟨rfl, htargets⟩
        refine ⟨hledger, fun file hfile => ?_⟩
        change d.disk.targets file.pathBytes = _
        rw [htargets]
        exact howns.before file hfile

lemma executePrepared_triple (hstart : scope.Startable env s) (hrestored : scope.restored = files)
    (hload : s.loadTurnRestoreSet env.encoding prepared.restoreSetId = .ok (some (restore, files))) :
    Service.Triple scope.Guarded (scope.Before s)
      (executePrepared env now digest prepared restore files) fun _ => scope.Guarded := by
  have hrefuses : ∀ answer : ExecuteGuardedUndoResult,
      Service.Triple scope.Guarded (scope.Before s) (pure answer) fun _ => scope.Guarded :=
    fun answer => .pure hstart.guarded
  unfold executePrepared
  split
  · exact hrefuses _
  split
  · exact hrefuses _
  refine (acquire_triple hstart.guarded _ _ _).bind fun authority => ?_
  cases authority with
  | error reason => exact hrefuses _
  | ok authority =>
      refine (validateExecuteAuthority_triple hstart.guarded _ _ _ _).bind fun answer =>
        .assume fun hvalid => ?_
      cases answer with
      | error reason => exact hrefuses _
      | ok _ =>
          obtain ⟨hlength, hbefore⟩ := hvalid () rfl
          exact executeJournalled_triple hstart hrestored hload hlength hbefore

lemma executeAt_guarded {previewToken : String} {confirmed : Bool} {w : World}
    (hstart : scope.Startable env w.journal) (hbefore : scope.before = w.targets)
    (hrestored : ∀ prepared, w.tokens (env.encoding.sha256 (textBytes previewToken)) = some prepared →
      scope.restored = w.journal.restoreFilesOf prepared.restoreSetId) :
    scope.Guarded (executeAt env previewToken confirmed now w).2.durable := by
  have hruns : ∀ (u : World) (c : Service ExecuteGuardedUndoResult),
      Service.Triple scope.Guarded (scope.Before w.journal) c (fun _ => scope.Guarded) →
        scope.Before w.journal u.durable → scope.Guarded (c u).2.durable := by
    intro u c hc hu
    have hrun := hc u hu
    rcases hcu : c u with ⟨e | a, v⟩ <;> rwa [hcu] at hrun
  unfold executeAt
  dsimp only [Call.bind_apply, Call.read_apply, Call.update_apply]
  cases hfound : w.tokens (env.encoding.sha256 (textBytes previewToken)) with
  | none => exact hruns _ _ (.pure hstart.guarded) ⟨rfl, hbefore.symm⟩
  | some prepared =>
      refine hruns _ _ ?_ ⟨rfl, hbefore.symm⟩
      dsimp only
      split
      · exact .pure hstart.guarded
      split
      · exact .pure hstart.guarded
      refine (getTurnRestoreSet_loaded hstart.guarded _).bind fun loaded => ?_
      cases loaded with
      | none => exact .pure fun d hd => hstart.guarded d hd.2
      | some loaded =>
          obtain ⟨restore, files⟩ := loaded
          refine Call.Triple.pre (H := fun d => w.journal.loadTurnRestoreSet env.encoding
            prepared.restoreSetId = .ok (some (restore, files)) ∧ scope.Before w.journal d)
            (.assume fun hload => executePrepared_triple hstart ?_ hload) ?_
          · rw [(loadTurnRestoreSet_ok hload).2.2]
            exact hrestored prepared hfound
          · exact fun d hd => ⟨hd.2.1 ▸ hd.1 _ rfl, hd.2⟩

end Execute

end DevCommandCenter.GuardedUndo
