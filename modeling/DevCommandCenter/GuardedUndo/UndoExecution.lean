import DevCommandCenter.GuardedUndo.UndoRun

/-! The staged files exchanged, recorded and cleaned up, up to the completed operation. -/

namespace DevCommandCenter.GuardedUndo

open Library

variable {env : RestoreEnvironment} {s : JournalStore} {restore : TurnRestoreSet}
  {files : List TurnRestoreFile} {row : UndoOperationRow} {now : ℕ} {w : World}
  {keys : Set ArtifactKey}

def UndoOperationFile.recordedAt (file : UndoOperationFile) (updatedAt : String) :
    UndoOperationFile :=
  (file.appliedAt updatedAt).verifiedAt updatedAt

lemma pairIsUnapplied_leads (henv : env.Dependable) {file : UndoOperationFile}
    (h : w.Unapplied file) : (pairIsUnapplied env file).Leads World.Like w true w := by
  obtain ⟨htarget, staged, hstaged, hsibling⟩ := h
  refine (inspectTarget_leads henv _).bind ((inspectExchange_leads henv _ _).bind ?_)
  rw [htarget, hsibling, hstaged]
  have hseen : (observes (demand (some (resultEvidence file)) .targetMissing)
      (some (resultEvidence file)) && observes (demand (some staged) .displacedFileMissing)
      (some staged)) = true := by
    simp [observes, demand]
  rw [hseen]
  exact Call.leads_pure _

lemma pairIsApplied_leads (henv : env.Dependable) {file : UndoOperationFile}
    (h : w.Applied file) : (pairIsApplied env file).Leads World.Like w true w := by
  obtain ⟨⟨staged, hstaged, htarget⟩, hsibling⟩ := h
  refine (inspectTarget_leads henv _).bind ((inspectExchange_leads henv _ _).bind ?_)
  rw [htarget, hsibling, hstaged]
  have hseen : (observes (demand (some staged) .targetMissing) (some staged) &&
      observes (demand (some (resultEvidence file)) .displacedFileMissing)
        (some (resultEvidence file))) = true := by
    simp [observes, demand]
  rw [hseen]
  exact Call.leads_pure _

lemma World.Unapplied.exchanged {file : UndoOperationFile} {staged : FileEvidence}
    (hstaged : stagedEvidence file = some staged) :
    (w.exchanged file.pathBytes file.exchangeArtifactKey (resultEvidence file) staged).Applied
      file := by
  refine ⟨⟨staged, hstaged, ?_⟩, ?_⟩
  · simp [World.exchanged]
  · simp [World.exchanged, World.setSibling]

lemma applyOne_leads (henv : env.Dependable) {file : UndoOperationFile} (h : w.Unapplied file)
    (hkey : file.exchangeArtifactKey ∈ keys) :
    ∃ u, (applyOne env file).Leads World.Like w (.ok ()) u ∧ u.Applied file ∧
      w.SameBut u [file.pathBytes] keys ∧ u.journal = w.journal ∧
      u.generations = w.generations := by
  have hunapplied := h
  obtain ⟨htarget, staged, hstaged, hsibling⟩ := h
  refine ⟨w.exchanged file.pathBytes file.exchangeArtifactKey (resultEvidence file) staged, ?_,
    World.Unapplied.exchanged hstaged, w.sameBut_exchanged _ hkey _ _, rfl, rfl⟩
  refine (pairIsUnapplied_leads henv hunapplied).bind ?_
  rw [if_neg (by simp), hstaged]
  refine (exchange_leads henv htarget hsibling).bind ?_
  exact (pairIsApplied_leads henv (World.Unapplied.exchanged hstaged)).bind (Call.leads_pure _)

section Journalled

variable {done later : List UndoOperationFile} {file : UndoOperationFile}

lemma loadedFile_leads (henv : env.Dependable)
    (hopened : Opened env.encoding s restore files row (done ++ file :: later) w.journal)
    {original : UndoOperationFile} (hid : original.operationId = file.operationId)
    (hordinal : original.ordinal = file.ordinal) :
    (loadedFile env original).Leads World.Like w (some file) w := by
  have hi : done.length < (done ++ file :: later).length := by simp
  have hget : (done ++ file :: later)[done.length] = file := by simp
  have howner : file.operationId = row.operationId := hopened.owned file (by simp)
  have hfind := hopened.find_ordinal hi
  have hplace := getElem_ordinal hopened.ordinals hi
  rw [hget] at hfind hplace
  have hread := repositoryRead_leads (w := w) henv fun journal =>
    getUndoOperation env.encoding journal original.operationId
  rw [hid, howner, hopened.getUndoOperation] at hread
  have hfound : (some (row.toUndoOperation, done ++ file :: later)).bind (fun found =>
      found.2.find? fun other => other.ordinal = original.ordinal) = some file := by
    rw [Option.bind_some, hordinal, hplace, hfind]
  unfold loadedFile loadedUndoOperation
  rw [hid, howner]
  refine (hread.map flattened).bind ?_
  rw [flattened, hfound]
  exact Call.leads_pure _

variable (now) in
lemma recordAppliedVerified_leads (henv : env.Dependable)
    (hopened : Opened env.encoding s restore files row (done ++ file :: later) w.journal)
    (hactive : row.state.inactive = false) (hstaged : file.state = .staged)
    (hundetailed : file.recoveryDetails = none) :
    ∃ journal, (recordAppliedVerified env file now).Leads World.Like w true
        { w with journal := journal } ∧
      Opened env.encoding s restore files row
        (done ++ file.recordedAt (env.timestamp now) :: later) journal := by
  have hi : ∀ f : UndoOperationFile, done.length < (done ++ f :: later).length := by simp
  have hget : ∀ (f : UndoOperationFile) (h : done.length < (done ++ f :: later).length),
      (done ++ f :: later)[done.length] = f := by simp
  have hset : ∀ f g : UndoOperationFile,
      (done ++ f :: later).set done.length g = done ++ g :: later := by simp
  have happliedReadable := (hopened.filesReadable file (by simp)).appliedAt hstaged
    (env.timestamp now)
  obtain ⟨applied, happlies, hopened'⟩ := hopened.transitionFile (hi file) hactive
    happliedReadable (by rw [hget]; exact sameFileIdentity_appliedAt file _)
    (by rw [hget, hstaged]; rfl) (.inl (by rw [hget]; rfl))
  rw [hget, hstaged] at happlies
  rw [hset] at hopened'
  have hverifiedReadable := happliedReadable.verifiedAt rfl hundetailed (env.timestamp now)
  obtain ⟨verified, hverifies, hopened''⟩ := hopened'.transitionFile (hi _) hactive
    hverifiedReadable (by rw [hget]; exact sameFileIdentity_verifiedAt _ _)
    (by rw [hget]; rfl) (.inl (by rw [hget]; rfl))
  rw [hget] at hverifies
  rw [hset] at hopened''
  refine ⟨verified, ?_, hopened''⟩
  refine (loadedFile_leads henv hopened rfl rfl).bind ?_
  dsimp only
  rw [if_pos hstaged]
  refine (repositoryCall_leads henv happlies).bind ?_
  dsimp only
  unfold recordVerified
  rw [if_pos rfl]
  exact (repositoryCall_leads (w := { w with journal := applied }) henv hverifies).bind
    (Call.leads_pure _)

variable (now done) in
lemma applyFiles_leads (henv : env.Dependable) (hactive : row.state.inactive = false)
    (hopened : Opened env.encoding s restore files row (done ++ later) w.journal)
    (hwaits : ∀ file ∈ later, w.Waits keys file)
    (hpaths : (later.map UndoOperationFile.pathBytes).Nodup) :
    ∃ u, (applyFiles env now later).Leads World.Like w true u ∧
      Opened env.encoding s restore files row
        (done ++ later.map fun file => file.recordedAt (env.timestamp now)) u.journal ∧
      (∀ file ∈ later, u.Applied file) ∧
      w.SameBut u (later.map UndoOperationFile.pathBytes) keys ∧
      u.generations = w.generations := by
  induction later generalizing done w with
  | nil => exact ⟨w, Call.leads_pure _, hopened, by simp, World.SameBut.refl _ _ _, rfl⟩
  | cons file rest ih =>
      obtain ⟨hfresh, hpaths⟩ := List.nodup_cons.mp hpaths
      have hfile := hwaits file List.mem_cons_self
      obtain ⟨v, happlies, happlied, hsame, hjournal, hgenerations⟩ :=
        applyOne_leads henv hfile.unapplied hfile.key
      obtain ⟨journal, hrecords, hopened'⟩ := recordAppliedVerified_leads now (w := v) henv
        (hjournal ▸ hopened) hactive hfile.staged hfile.undetailed
      have hcons : done ++ file.recordedAt (env.timestamp now) :: rest =
          (done ++ [file.recordedAt (env.timestamp now)]) ++ rest := by simp
      have hother : ∀ other ∈ rest, other.pathBytes ∉ [file.pathBytes] := by
        intro other hmem heq
        exact hfresh (List.mem_map.mpr ⟨other, hmem, List.mem_singleton.mp heq⟩)
      have hsame' : w.SameBut { v with journal := journal } [file.pathBytes] keys :=
        hsame.ends rfl rfl
      rw [hcons] at hopened'
      obtain ⟨u, hleads, hopened'', happlied', hsame'', hgenerations'⟩ := ih
        (done ++ [file.recordedAt (env.timestamp now)]) (w := { v with journal := journal }) hopened'
        (fun other hmem => (hwaits other (List.mem_cons_of_mem _ hmem)).of_sameBut hsame'
          (hother other hmem)) hpaths
      refine ⟨u, ?_, ?_, ?_, (hsame'.mono (by simp)).trans (hsame''.mono (by simp)),
        hgenerations'.trans hgenerations⟩
      · refine happlies.bind (hrecords.bind ?_)
        rw [if_pos rfl]
        exact hleads
      · simpa using hopened''
      · intro other hmem
        rcases List.mem_cons.mp hmem with rfl | hmem
        · have happlied'' : World.Applied { v with journal := journal } other := happlied
          exact happlied''.of_sameBut hsame'' hfresh
        · exact happlied' other hmem

end Journalled

lemma allFiles_leads {check : UndoOperationFile → Service Bool} {later : List UndoOperationFile}
    (h : ∀ file ∈ later, (check file).Leads World.Like w true w) :
    (allFiles check later).Leads World.Like w true w := by
  induction later with
  | nil => exact Call.leads_pure _
  | cons file rest ih =>
      refine (h file List.mem_cons_self).bind ?_
      rw [if_pos rfl]
      exact ih fun other hmem => h other (List.mem_cons_of_mem _ hmem)

lemma cleanupOne_leads (henv : env.Dependable) {file : UndoOperationFile} (h : w.Applied file)
    (hkey : file.exchangeArtifactKey ∈ keys) :
    ∃ u, (cleanupOne env .completed file).Leads World.Like w true u ∧
      u.siblings file.pathBytes file.exchangeArtifactKey = none ∧
      u.targets = w.targets ∧ w.SameBut u [file.pathBytes] keys ∧ u.journal = w.journal ∧
      u.generations = w.generations := by
  refine ⟨w.setSibling file.pathBytes file.exchangeArtifactKey none, ?_,
    by simp [World.setSibling], rfl, w.sameBut_setSibling _ hkey _, rfl, rfl⟩
  refine (inspectExchange_leads henv _ _).bind ?_
  have hseen : observes (demand (w.siblings file.pathBytes file.exchangeArtifactKey)
      GuardedUndoReasonCode.displacedFileMissing) (some (resultEvidence file)) = true := by
    simp [h.2, observes, demand]
  rw [if_pos hseen]
  exact (cleanupExchange_leads henv h.2).bind (Call.leads_pure _)

lemma cleanupTerminal_leads (henv : env.Dependable) {later : List UndoOperationFile}
    (happlied : ∀ file ∈ later, w.Applied file ∧ file.exchangeArtifactKey ∈ keys)
    (hpaths : (later.map UndoOperationFile.pathBytes).Nodup) :
    ∃ u, (cleanupTerminal env later .completed).Leads World.Like w true u ∧
      (∀ file ∈ later, u.siblings file.pathBytes file.exchangeArtifactKey = none) ∧
      u.targets = w.targets ∧ w.SameBut u (later.map UndoOperationFile.pathBytes) keys ∧
      u.journal = w.journal ∧ u.generations = w.generations := by
  induction later generalizing w with
  | nil => exact ⟨w, Call.leads_pure _, by simp, rfl, World.SameBut.refl _ _ _, rfl, rfl⟩
  | cons file rest ih =>
      obtain ⟨hfresh, hpaths⟩ := List.nodup_cons.mp hpaths
      obtain ⟨hfile, hkey⟩ := happlied file List.mem_cons_self
      obtain ⟨v, hcleans, hgone, htargets, hsame, hjournal, hgenerations⟩ :=
        cleanupOne_leads henv hfile hkey
      obtain ⟨u, hleads, hgone', htargets', hsame', hjournal', hgenerations'⟩ := ih (w := v)
        (fun other hmem => by
          obtain ⟨hother, hkey'⟩ := happlied other (List.mem_cons_of_mem _ hmem)
          refine ⟨hother.of_sameBut hsame ?_, hkey'⟩
          intro heq
          exact hfresh (List.mem_map.mpr ⟨other, hmem, List.mem_singleton.mp heq⟩)) hpaths
      refine ⟨u, ?_, ?_, htargets'.trans htargets, (hsame.mono (by simp)).trans (hsame'.mono (by simp)),
        hjournal'.trans hjournal, hgenerations'.trans hgenerations⟩
      · refine hcleans.bind ?_
        rw [if_pos rfl]
        exact hleads
      · intro other hmem
        rcases List.mem_cons.mp hmem with rfl | hmem
        · exact (hsame'.beside _ hfresh _).trans hgone
        · exact hgone' other hmem

section Completion

variable {journalFiles : List UndoOperationFile} {next : UndoOperationState}

lemma OperationReadable.withTransition {encoding : JournalEncoding} {operation : UndoOperation}
    (h : OperationReadable encoding operation) (hknown : next.isKnown = true)
    (hblocked : next ≠ .blocked) (hrecovery : next ≠ .recoveryRequired) (updatedAt : String) :
    OperationReadable encoding (operation.withTransition next none none updatedAt) := by
  refine ⟨?_, h.identityFits, rfl⟩
  have hvalid := h.valid
  simp only [UndoOperation.validate, except_seq_eq_ok, refuse_eq_ok, Bool.not_eq_false] at hvalid ⊢
  obtain ⟨hversion, hid, hset, -, -, hidentity, -⟩ := hvalid
  refine ⟨hversion, hid, hset, hknown, rfl, hidentity, rfl, ?_, ?_⟩
  · rintro ⟨details, hdetails, -⟩
    cases hdetails
  · cases next <;>
      simp_all [UndoOperation.stateConsistent, UndoOperation.withTransition,
        UndoOperationState.inactive, UndoOperationState.isKnown]

variable (now next) in
lemma transitionOperation_leads (henv : env.Dependable)
    (hopened : Opened env.encoding s restore files row journalFiles w.journal)
    (hsteps : row.state.stepsTo next = true) (hinactive : next.inactive = false)
    (hrecovery : next ≠ .recoveryRequired) (hready : checkNextFiles next journalFiles = .ok ()) :
    ∃ journal, (transitionOperation env row.operationId row.state next none none now).Leads
        World.Like w (.ok true) { w with journal := journal } ∧
      Opened env.encoding s restore files
        (row.withTransition next none none (env.timestamp now)) journalFiles journal := by
  have hblocked : next ≠ .blocked := by
    rintro rfl
    cases hinactive
  have hcompleted : next ≠ .completed := by
    rintro rfl
    cases hinactive
  obtain ⟨journal, hmoves, hopened'⟩ := hopened.transition hsteps hcompleted
    (hopened.readable.withTransition (Opened.unknownNot hsteps).2.1 hblocked hrecovery
      (env.timestamp now)) hready
  exact ⟨journal, repositoryCall_leads henv hmoves, hopened'⟩

def UndoOperationRow.settledAt (row : UndoOperationRow) (updatedAt : String) : UndoOperationRow :=
  { row.withTransition .completed none none updatedAt with cleanupPending := false }

lemma Finished.cleaned {t : JournalStore} {updatedAt : String}
    (h : Finished s row journalFiles updatedAt t)
    (hfresh : ∀ other ∈ s.operations.rows, other.operationId ≠ row.operationId)
    (hactive : row.active = false) (hpending : row.cleanupPending = true) :
    ∃ u, finishUndoOperationCleanup row.operationId t = (.ok true, u) ∧
      Finished s { row with cleanupPending := false } journalFiles updatedAt u := by
  have hmem : row ∈ t.operations.rows := by simp [h.operations]
  have hchanged : t.operations.changed (fun other =>
      decide (other.operationId = row.operationId) && !other.active && other.cleanupPending) = 1 := by
    apply KeyedRows.changed_key hmem (by simp [hactive, hpending])
    intro other hother
    simp only [Bool.and_eq_true, decide_eq_true_eq] at hother
    exact hother.1.1
  have hold : ∀ other ∈ s.operations.rows,
      (if (decide (other.operationId = row.operationId) && !other.active && other.cleanupPending) =
        true then { other with cleanupPending := false } else other) = other :=
    fun other hother => if_neg (by simp [hfresh other hother])
  refine ⟨{ t with
    operations := t.operations.updateWhere (fun other =>
      decide (other.operationId = row.operationId) && !other.active && other.cleanupPending)
      (fun other => { other with cleanupPending := false }) fun _ => rfl }, ?_, ?_,
    h.operationFiles, h.restoreSets, h.restoreFiles⟩
  · unfold finishUndoOperationCleanup
    refine Call.read_bind_ok_iff.mpr (Call.update_bind_ok_iff.mpr ?_)
    rw [hchanged]
    rfl
  · show t.operations.rows.map _ = _
    rw [h.operations, List.map_append, List.map_congr_left hold, List.map_id']
    simp [hactive, hpending]

lemma cleanupAndFinish_leads (henv : env.Dependable) {updatedAt : String}
    (hfinished : Finished s row journalFiles updatedAt w.journal)
    (hfresh : ∀ other ∈ s.operations.rows, other.operationId ≠ row.operationId)
    (hactive : row.active = false) (hpending : row.cleanupPending = true)
    {later : List UndoOperationFile}
    (happlied : ∀ file ∈ later, w.Applied file ∧ file.exchangeArtifactKey ∈ keys)
    (hpaths : (later.map UndoOperationFile.pathBytes).Nodup) :
    ∃ u, (cleanupAndFinish env row.operationId later .completed).Leads World.Like w () u ∧
      (∀ file ∈ later, u.siblings file.pathBytes file.exchangeArtifactKey = none) ∧
      u.targets = w.targets ∧ w.SameBut u (later.map UndoOperationFile.pathBytes) keys ∧
      u.generations = w.generations ∧
      Finished s { row with cleanupPending := false } journalFiles updatedAt u.journal := by
  obtain ⟨v, hcleans, hgone, htargets, hsame, hjournal, hgenerations⟩ :=
    cleanupTerminal_leads henv happlied hpaths
  obtain ⟨journal, hcleaned, hfinished'⟩ := hfinished.cleaned hfresh hactive hpending
  rw [← hjournal] at hcleaned
  refine ⟨{ v with journal := journal }, ?_, hgone, htargets, hsame.ends rfl rfl, hgenerations,
    hfinished'⟩
  refine hcleans.bind ?_
  rw [if_pos rfl]
  exact (repositoryCall_leads henv hcleaned).bind (Call.leads_pure _)

variable (now) in
lemma completeOperation_leads (henv : env.Dependable) (hid : row.operationId = env.operationId)
    (hopened : Opened env.encoding s restore files row journalFiles w.journal)
    (hstate : row.state = .applying) (hpending : row.cleanupPending = true)
    (hrecorded : ∀ file ∈ journalFiles,
      file.state = .verified ∧ file.verificationOutcome = .verified)
    {later : List UndoOperationFile}
    (happlied : ∀ file ∈ later, w.Applied file ∧ file.exchangeArtifactKey ∈ keys)
    (hpaths : (later.map UndoOperationFile.pathBytes).Nodup) {git : GitIdentityV1}
    (hgit : (env.gitIdentity 0).sameRepositoryState git = true) :
    ∃ u, (completeOperation env now git later).Leads World.Like w (.completed env.operationId) u ∧
      (∀ file ∈ later, u.siblings file.pathBytes file.exchangeArtifactKey = none) ∧
      u.targets = w.targets ∧ w.SameBut u (later.map UndoOperationFile.pathBytes) keys ∧
      u.generations = w.generations ∧
      Finished s (row.settledAt (env.timestamp now)) journalFiles (env.timestamp now) u.journal := by
  obtain ⟨verifying, hverifies, hopened'⟩ := transitionOperation_leads now .verifying
    henv hopened (by rw [hstate]; rfl) rfl (by simp)
    (by simp only [checkNextFiles, except_seq_eq_ok, refuse_eq_ok]; simp)
  rw [hid, hstate] at hverifies
  have hready : checkNextFiles .completed journalFiles = .ok () := by
    simp only [checkNextFiles, except_seq_eq_ok, refuse_eq_ok]
    refine ⟨by simp, ?_, by simp⟩
    rintro ⟨-, file, hfile, hnot⟩
    obtain ⟨hfileState, houtcome⟩ := hrecorded file hfile
    exact hnot.elim (absurd hfileState) (absurd houtcome)
  obtain ⟨completed, hcompletes, hfinished⟩ := hopened'.complete rfl
    (hopened'.readable.withTransition rfl (by simp) (by simp) (env.timestamp now)) hready
  have hrow : (row.withTransition .verifying none none (env.timestamp now)).operationId =
      env.operationId := hid
  rw [hrow] at hcompletes
  obtain ⟨u, hcleans, hgone, htargets, hsame, hgenerations, hsettled⟩ := cleanupAndFinish_leads
    (w := { w with journal := completed }) henv hfinished hopened.fresh rfl hpending happlied hpaths
  refine ⟨u, ?_, hgone, htargets, hsame.starts rfl rfl, hgenerations, hsettled⟩
  refine hverifies.bind ?_
  refine (allFiles_leads (w := { w with journal := verifying }) fun file hfile =>
    pairIsApplied_leads henv (happlied file hfile).1).bind ?_
  rw [if_pos rfl]
  refine (sameRepositoryState_leads henv hgit).bind ?_
  dsimp only
  rw [if_neg (by simp)]
  refine (repositoryCall_leads (w := { w with journal := verifying }) henv hcompletes).bind ?_
  rw [show env.operationId = (row.withTransition .verifying none none
    (env.timestamp now) |>.withTransition .completed none none (env.timestamp now)).operationId
    from hid.symm]
  exact hcleans.bind (Call.leads_pure _)

variable (now) in
lemma applyOperation_leads (henv : env.Dependable) (hid : row.operationId = env.operationId)
    (hopened : Opened env.encoding s restore files row journalFiles w.journal)
    (hstate : row.state = .preparing) (hpending : row.cleanupPending = true)
    (hwaits : ∀ file ∈ journalFiles, w.Waits keys file)
    (hpaths : (journalFiles.map UndoOperationFile.pathBytes).Nodup) {git : GitIdentityV1}
    (hgit : (env.gitIdentity 0).sameRepositoryState git = true) :
    ∃ u, (applyOperation env now git journalFiles).Leads World.Like w
        (.completed env.operationId) u ∧
      (∀ file ∈ journalFiles, u.siblings file.pathBytes file.exchangeArtifactKey = none ∧
        ∃ staged, stagedEvidence file = some staged ∧ u.targets file.pathBytes = some staged) ∧
      w.SameBut u (journalFiles.map UndoOperationFile.pathBytes) keys ∧
      u.generations = w.generations ∧
      Finished s (row.settledAt (env.timestamp now))
        (journalFiles.map fun file => file.recordedAt (env.timestamp now)) (env.timestamp now)
        u.journal := by
  have hstaged : checkNextFiles .prepared journalFiles = .ok () := by
    simp only [checkNextFiles, except_seq_eq_ok, refuse_eq_ok]
    refine ⟨?_, by simp, by simp⟩
    rintro ⟨-, file, hfile, hnot⟩
    exact hnot (hwaits file hfile).staged
  obtain ⟨prepared, hprepares, hopened'⟩ := transitionOperation_leads now .prepared
    henv hopened (by rw [hstate]; rfl) rfl (by simp) hstaged
  obtain ⟨applying, happlies, hopened''⟩ := transitionOperation_leads now .applying
    (w := { w with journal := prepared }) henv hopened' rfl rfl (by simp)
    (by simp only [checkNextFiles, except_seq_eq_ok, refuse_eq_ok]; simp)
  have hrow : (row.withTransition .prepared none none (env.timestamp now)).operationId =
      env.operationId := hid
  rw [hid, hstate] at hprepares
  rw [hrow] at happlies
  obtain ⟨v, hfiles, hrecorded, happlied, hsame, hgenerations⟩ :=
    applyFiles_leads now [] (w := { w with journal := applying }) henv rfl
      hopened'' (fun file hfile => ⟨(hwaits file hfile).unapplied, (hwaits file hfile).staged,
        (hwaits file hfile).undetailed, (hwaits file hfile).key⟩) hpaths
  obtain ⟨u, hcompletes, hgone, htargets, hsame', hgenerations', hfinished⟩ :=
    completeOperation_leads now henv
      (show ((row.withTransition .prepared none none (env.timestamp now)).withTransition .applying
        none none (env.timestamp now)).operationId = env.operationId from hid) hrecorded rfl hpending
      (by
        intro file hfile
        obtain ⟨original, -, rfl⟩ := List.mem_map.mp hfile
        exact ⟨rfl, rfl⟩)
      (fun file hfile => ⟨happlied file hfile, (hwaits file hfile).key⟩) hpaths hgit
  refine ⟨u, ?_, ?_, (hsame.starts (v := w) rfl rfl).trans hsame', hgenerations'.trans hgenerations,
    hfinished⟩
  · refine hprepares.bind (happlies.bind (hfiles.bind ?_))
    rw [if_pos rfl]
    refine (sameRepositoryState_leads henv hgit).bind ?_
    dsimp only
    rw [if_neg (by simp)]
    exact hcompletes
  · intro file hfile
    obtain ⟨staged, hof, htarget⟩ := (happlied file hfile).1
    exact ⟨hgone file hfile, staged, hof, htargets ▸ htarget⟩

end Completion

end DevCommandCenter.GuardedUndo
