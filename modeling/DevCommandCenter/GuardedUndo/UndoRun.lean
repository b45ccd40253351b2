import DevCommandCenter.GuardedUndo.ChainSources
import DevCommandCenter.GuardedUndo.RestorePlan

/-! A restoration prepared and executed while nothing fails: what each call answers, and what is left
on the disk and in the journal. -/

namespace DevCommandCenter.GuardedUndo

open Library

def World.Like (w u : World) : Prop :=
  ∃ tick, w = { u with tick := tick }

lemma World.Like.refl (w : World) : w.Like w := ⟨w.tick, rfl⟩

/-- No call fails, the repository stays as it is, staging keeps the attributes of the file that it
replaces, and what is written fits its column. -/
structure RestoreEnvironment.Dependable (env : RestoreEnvironment) : Prop where
  works : ∀ tick, env.verdict tick = .works
  repository : ∀ tick tick',
    (env.gitIdentity tick).sameRepositoryState (env.gitIdentity tick') = true
  root : ∀ tick tick' path, env.physicalRoot tick path = env.physicalRoot tick' path
  stagedValid : ∀ tick file, file.metadataFingerprint.validate = .ok () →
    (env.stagedMetadata tick file).validate = .ok ()
  stagedAttributes : ∀ tick file, file.metadataFingerprint.validate = .ok () →
    (env.stagedMetadata tick file).sameAttributes file.metadataFingerprint = true
  stagedFits : ∀ tick file, file.metadataFingerprint.validate = .ok () →
    env.encoding.metadataJson (env.stagedMetadata tick file) ≤ 4096
  metadataJson : ∀ metadata, 1 ≤ env.encoding.metadataJson metadata
  identityJson : ∀ identity, identity.validate = .ok () →
    fitsColumn env.encoding.preparedIdentityJson 131072 (some identity) = true

lemma GitIdentityV1.sameRepositoryState_trans {a b c : GitIdentityV1}
    (h : a.sameRepositoryState b = true) (h' : b.sameRepositoryState c = true) :
    a.sameRepositoryState c = true := by
  simp only [sameRepositoryState, decide_eq_true_eq] at *
  simp_all

lemma GitIdentityV1.sameRepositoryState_symm {a b : GitIdentityV1}
    (h : a.sameRepositoryState b = true) : b.sameRepositoryState a = true := by
  simp only [sameRepositoryState, decide_eq_true_eq] at *
  simp_all

lemma RegularFileMetadataV1.sameAttributes_trans {a b c : RegularFileMetadataV1}
    (h : a.sameAttributes b = true) (h' : b.sameAttributes c = true) :
    a.sameAttributes c = true := by
  simp only [sameAttributes, decide_eq_true_eq] at *
  simp_all

section Calls

variable {env : RestoreEnvironment} {w u : World}

lemma attempt_leads (henv : env.Dependable) {ε α : Type} {failure : GuardedUndoReasonCode → ε}
    {run : World → Except ε α × World} {answer : Except ε α}
    (h : ∀ tick, run { w with tick := tick } = (answer, { u with tick := tick })) :
    (attempt env failure run).Leads World.Like w answer u := by
  rintro _ ⟨tick, rfl⟩
  refine ⟨{ u with tick := tick + 1 }, ?_, ⟨_, rfl⟩⟩
  simp only [attempt, henv.works, h]
  rfl

lemma inspectTarget_leads (henv : env.Dependable) (path : OpaqueRepoPath) :
    (inspectTarget env path).Leads World.Like w (demand (w.targets path) .targetMissing) w :=
  attempt_leads henv fun _ => rfl

lemma inspectExchange_leads (henv : env.Dependable) (path : OpaqueRepoPath) (key : ArtifactKey) :
    (inspectExchange env path key).Leads World.Like w
      (demand (w.siblings path key) .displacedFileMissing) w :=
  attempt_leads henv fun _ => rfl

lemma verifyPreimage_leads (henv : env.Dependable) (key : ArtifactKey) (size : ℕ)
    (sha256 : Sha256Digest) : (verifyPreimage env key size sha256).Leads World.Like w (.ok ()) w :=
  attempt_leads henv fun _ => rfl

lemma exchange_leads (henv : env.Dependable) {path : OpaqueRepoPath} {key : ArtifactKey}
    {target sibling : FileEvidence} (htarget : w.targets path = some target)
    (hsibling : w.siblings path key = some sibling) :
    (exchange env path key target sibling).Leads World.Like w (.ok ())
      (w.exchanged path key target sibling) :=
  attempt_leads henv fun _ => if_pos ⟨htarget, hsibling⟩

lemma cleanupExchange_leads (henv : env.Dependable) {path : OpaqueRepoPath} {key : ArtifactKey}
    {sibling : FileEvidence} (hsibling : w.siblings path key = some sibling) :
    (cleanupExchange env path key sibling).Leads World.Like w (.ok ())
      (w.setSibling path key none) :=
  attempt_leads henv fun _ => if_pos hsibling

lemma acquire_leads (henv : env.Dependable) {workspaceAbsolute : String} {rootId : PhysicalRootId}
    (hroot : env.physicalRoot 0 workspaceAbsolute = rootId) (mode : AuthorityMode)
    {generations : AuthorityGenerations}
    (hadmitted : w.generations.admitted mode = some generations) :
    (acquire env workspaceAbsolute rootId mode).Leads World.Like w
      (.ok { mode := mode, rootId := rootId, coordinatorGenerations := generations })
      { w with generations := generations } := by
  apply attempt_leads henv
  intro tick
  have hnow : ¬env.physicalRoot tick workspaceAbsolute ≠ rootId :=
    not_not.mpr ((henv.root tick 0 _).trans hroot)
  simp only [hnow, if_false, hadmitted]

lemma repositoryCall_leads (henv : env.Dependable) {α : Type} {call : JournalCall α}
    {answer : Except String α} {journal : JournalStore} (h : call w.journal = (answer, journal)) :
    (repositoryCall env call).Leads World.Like w answer { w with journal := journal } :=
  attempt_leads henv fun _ => by simp only [h]

lemma repositoryRead_leads (henv : env.Dependable) {α : Type}
    (query : JournalStore → Except String α) :
    (repositoryRead env query).Leads World.Like w (query w.journal) w :=
  attempt_leads henv fun _ => rfl

lemma sameRepositoryState_leads (henv : env.Dependable) {captured : GitIdentityV1}
    (h : (env.gitIdentity 0).sameRepositoryState captured = true) :
    (sameRepositoryState env captured).Leads World.Like w true w := by
  rintro _ ⟨tick, rfl⟩
  have hnow := GitIdentityV1.sameRepositoryState_trans (henv.repository tick 0) h
  refine ⟨{ w with tick := tick + 1 }, ?_, ⟨_, rfl⟩⟩
  simp only [sameRepositoryState, gitIdentity, authorityCall, Call.bind_apply, attempt, henv.works,
    Call.pure_apply, hnow]
  rfl

lemma gitIdentity_run (henv : env.Dependable) (w : World) :
    gitIdentity env w = (.ok (.ok (env.gitIdentity w.tick)), w.next) := by
  simp only [gitIdentity, authorityCall, attempt, henv.works]

lemma expectedResult_leads (henv : env.Dependable) (binding : ResultBinding)
    (restore : TurnRestoreSet) (file : TurnRestoreFile) (current : FileEvidence) :
    (expectedResult env binding restore file current).Leads World.Like w
      (w.journal.expectedIn binding restore file current) w := by
  unfold expectedResult JournalStore.expectedIn
  split
  · exact Call.leads_pure _
  · split
    · exact Call.leads_pure _
    · cases restore.rootId with
      | none => exact Call.leads_pure _
      | some rootId =>
          refine (repositoryRead_leads henv _).bind ?_
          dsimp only
          cases w.journal.queryUndoChainSources restore.workspaceId rootId file.pathBytes none with
          | error _ => exact Call.leads_pure _
          | ok sources =>
              dsimp only
              cases sources.find? fun source =>
                  chainedResultIsBound restore file source current.metadata with
              | none => exact Call.leads_pure _
              | some source => exact Call.leads_pure _

end Calls

section Records

variable {encoding : JournalEncoding} {file : UndoOperationFile}

def UndoOperationFile.stagedWith (file : UndoOperationFile) (staged : RegularFileMetadataV1) :
    UndoOperationFile :=
  { file with stagedMetadata := some staged, state := .staged }

def UndoOperationFile.appliedAt (file : UndoOperationFile) (updatedAt : String) :
    UndoOperationFile :=
  { withDisplaced file with state := .applied, updatedAt := updatedAt }

def UndoOperationFile.verifiedAt (file : UndoOperationFile) (updatedAt : String) :
    UndoOperationFile :=
  { file with state := .verified, verificationOutcome := .verified, updatedAt := updatedAt }

lemma FileReadable.stagedWith (h : FileReadable encoding file) (hplanned : file.state = .planned)
    {staged : RegularFileMetadataV1} (hvalid : staged.validate = .ok ())
    (hfits : fitsColumn encoding.metadataJson 4096 (some staged) = true) :
    FileReadable encoding (file.stagedWith staged) := by
  refine ⟨?_, h.expectedFits, hfits, h.displacedFits, h.detailsFit⟩
  have hfile := h.valid
  simp only [UndoOperationFile.validate, except_seq_eq_ok, refuse_eq_ok, Bool.not_eq_false] at hfile ⊢
  obtain ⟨hid, hset, hchain, hpath, hpre, hsize, hknown, hexpected, -, hwhole, hdisplaced, hdetails,
    hconsistent⟩ := hfile
  refine ⟨hid, hset, hchain, hpath, hpre, hsize, ?_, hexpected, hvalid, hwhole, hdisplaced, hdetails,
    ?_⟩
  · rintro (hunknown | hunknown)
    · cases hunknown
    · exact hknown (.inr hunknown)
  · simp only [UndoOperationFile.stateConsistent, hplanned, Bool.and_eq_true] at hconsistent
    obtain ⟨⟨⟨-, hnone⟩, hpending⟩, hnodetails⟩ := hconsistent
    simp [UndoOperationFile.stateConsistent, UndoOperationFile.stagedWith, hnone, hpending,
      hnodetails]

lemma FileReadable.appliedAt (h : FileReadable encoding file) (hstaged : file.state = .staged)
    (updatedAt : String) : FileReadable encoding (file.appliedAt updatedAt) := by
  refine ⟨?_, h.expectedFits, h.stagedFits, h.expectedFits, h.detailsFit⟩
  have hfile := h.valid
  simp only [UndoOperationFile.validate, except_seq_eq_ok, refuse_eq_ok, Bool.not_eq_false] at hfile ⊢
  obtain ⟨hid, hset, hchain, hpath, hpre, hsize, hknown, hexpected, hmetadata, -, -, hdetails,
    hconsistent⟩ := hfile
  refine ⟨hid, hset, hchain, hpath, hpre, ?_, ?_, hexpected, hmetadata, rfl, hexpected, hdetails, ?_⟩
  · have hbound : ¬file.expectedResultSize > maxPreimageBytesPerFile := fun hlt => hsize (.inl hlt)
    simp [UndoOperationFile.appliedAt, withDisplaced, hbound]
  · rintro (hunknown | hunknown)
    · cases hunknown
    · exact hknown (.inr hunknown)
  · simp only [UndoOperationFile.stateConsistent, hstaged, Bool.and_eq_true] at hconsistent
    obtain ⟨⟨⟨hsome, -⟩, hpending⟩, -⟩ := hconsistent
    simp [UndoOperationFile.stateConsistent, UndoOperationFile.appliedAt, withDisplaced, hsome,
      hpending]

lemma FileReadable.verifiedAt (h : FileReadable encoding file) (happlied : file.state = .applied)
    (hdetails : file.recoveryDetails = none) (updatedAt : String) :
    FileReadable encoding (file.verifiedAt updatedAt) := by
  refine ⟨?_, h.expectedFits, h.stagedFits, h.displacedFits, h.detailsFit⟩
  have hfile := h.valid
  simp only [UndoOperationFile.validate, except_seq_eq_ok, refuse_eq_ok, Bool.not_eq_false] at hfile ⊢
  obtain ⟨hid, hset, hchain, hpath, hpre, hsize, -, hexpected, hmetadata, hwhole, hdisplaced, hok,
    hconsistent⟩ := hfile
  refine ⟨hid, hset, hchain, hpath, hpre, hsize, ?_, hexpected, hmetadata, hwhole, hdisplaced, hok,
    ?_⟩
  · simp [UndoOperationFile.verifiedAt, UndoOperationFileState.isKnown, VerificationOutcome.isKnown]
  · simp only [UndoOperationFile.stateConsistent, happlied, Bool.and_eq_true] at hconsistent
    simp [UndoOperationFile.stateConsistent, UndoOperationFile.verifiedAt, hconsistent.1.1,
      hconsistent.1.2, hdetails]

lemma sameFileIdentity_stagedWith (file : UndoOperationFile) (staged : RegularFileMetadataV1) :
    sameFileIdentity file (file.stagedWith staged) :=
  sameFileIdentity.refl file

lemma sameFileIdentity_appliedAt (file : UndoOperationFile) (updatedAt : String) :
    sameFileIdentity file (file.appliedAt updatedAt) :=
  sameFileIdentity.refl file

lemma sameFileIdentity_verifiedAt (file : UndoOperationFile) (updatedAt : String) :
    sameFileIdentity file (file.verifiedAt updatedAt) :=
  sameFileIdentity.refl file

end Records

section Disk

def World.Unapplied (w : World) (file : UndoOperationFile) : Prop :=
  w.targets file.pathBytes = some (resultEvidence file) ∧
    ∃ staged, stagedEvidence file = some staged ∧
      w.siblings file.pathBytes file.exchangeArtifactKey = some staged

def World.Applied (w : World) (file : UndoOperationFile) : Prop :=
  (∃ staged, stagedEvidence file = some staged ∧ w.targets file.pathBytes = some staged) ∧
    w.siblings file.pathBytes file.exchangeArtifactKey = some (resultEvidence file)

structure World.SameBut (w u : World) (paths : List OpaqueRepoPath) (keys : Set ArtifactKey) :
    Prop where
  targets : ∀ path ∉ paths, u.targets path = w.targets path
  siblings : ∀ path, ∀ key ∉ keys, u.siblings path key = w.siblings path key
  beside : ∀ path ∉ paths, ∀ key, u.siblings path key = w.siblings path key

variable {w u v : World} {paths : List OpaqueRepoPath} {keys : Set ArtifactKey}

lemma World.SameBut.refl (w : World) (paths : List OpaqueRepoPath) (keys : Set ArtifactKey) :
    w.SameBut w paths keys :=
  ⟨fun _ _ => rfl, fun _ _ _ => rfl, fun _ _ _ => rfl⟩

lemma World.SameBut.trans (h : w.SameBut u paths keys) (h' : u.SameBut v paths keys) :
    w.SameBut v paths keys where
  targets path hpath := (h'.targets path hpath).trans (h.targets path hpath)
  siblings path key hkey := (h'.siblings path key hkey).trans (h.siblings path key hkey)
  beside path hpath key := (h'.beside path hpath key).trans (h.beside path hpath key)

lemma World.SameBut.ends (h : w.SameBut u paths keys) (htargets : v.targets = u.targets)
    (hsiblings : v.siblings = u.siblings) : w.SameBut v paths keys where
  targets := htargets ▸ h.targets
  siblings := hsiblings ▸ h.siblings
  beside := hsiblings ▸ h.beside

lemma World.SameBut.starts (h : w.SameBut u paths keys) (htargets : v.targets = w.targets)
    (hsiblings : v.siblings = w.siblings) : v.SameBut u paths keys where
  targets := htargets ▸ h.targets
  siblings := hsiblings ▸ h.siblings
  beside := hsiblings ▸ h.beside

lemma World.SameBut.mono (h : w.SameBut u paths keys) {paths' : List OpaqueRepoPath}
    (hpaths : paths ⊆ paths') : w.SameBut u paths' keys where
  targets path hpath := h.targets path fun hmem => hpath (hpaths hmem)
  siblings := h.siblings
  beside path hpath key := h.beside path (fun hmem => hpath (hpaths hmem)) key

lemma World.sameBut_setSibling (w : World) (path : OpaqueRepoPath) {key : ArtifactKey}
    (hkey : key ∈ keys) (file : Option FileEvidence) :
    w.SameBut (w.setSibling path key file) [path] keys where
  targets _ _ := rfl
  siblings other key' hkey' := by
    have hne : key' ≠ key := fun heq => hkey' (heq ▸ hkey)
    simp only [World.setSibling, Function.update_apply]
    split
    · next heq => rw [heq, Function.update_of_ne hne]
    · rfl
  beside other hother key' := by
    simp only [World.setSibling, Function.update_apply]
    rw [if_neg (by simpa using hother)]

lemma World.sameBut_exchanged (w : World) (path : OpaqueRepoPath) {key : ArtifactKey}
    (hkey : key ∈ keys) (target sibling : FileEvidence) :
    w.SameBut (w.exchanged path key target sibling) [path] keys where
  targets other hother := by
    simp only [World.exchanged, Function.update_apply]
    rw [if_neg (by simpa using hother)]
  siblings := (w.sameBut_setSibling path hkey (some target)).siblings
  beside := (w.sameBut_setSibling path hkey (some target)).beside

lemma World.Unapplied.of_sameBut {file : UndoOperationFile} (h : w.Unapplied file)
    (hsame : w.SameBut u paths keys) (hpath : file.pathBytes ∉ paths) : u.Unapplied file := by
  obtain ⟨htarget, staged, hstaged, hsibling⟩ := h
  exact ⟨(hsame.targets _ hpath).trans htarget, staged, hstaged,
    (hsame.beside _ hpath _).trans hsibling⟩

lemma World.Applied.of_sameBut {file : UndoOperationFile} (h : w.Applied file)
    (hsame : w.SameBut u paths keys) (hpath : file.pathBytes ∉ paths) : u.Applied file := by
  obtain ⟨⟨staged, hstaged, htarget⟩, hsibling⟩ := h
  exact ⟨⟨staged, hstaged, (hsame.targets _ hpath).trans htarget⟩,
    (hsame.beside _ hpath _).trans hsibling⟩

end Disk

section Stage

variable {env : RestoreEnvironment} {s : JournalStore} {restore : TurnRestoreSet}
  {files : List TurnRestoreFile} {row : UndoOperationRow} {now : ℕ}

structure StagedFor (encoding : JournalEncoding) (file : TurnRestoreFile)
    (journal : UndoOperationFile) : Prop where
  path : journal.pathBytes = file.pathBytes
  size : journal.preSize = file.preSize
  sha256 : journal.preSha256 = file.preSha256
  ownSet : journal.restoreSetId = file.restoreSetId
  staged : ∃ m, journal.stagedMetadata = some m ∧ m.validate = .ok () ∧
    fitsColumn encoding.metadataJson 4096 (some m) = true ∧
    m.sameAttributes file.metadataFingerprint = true

lemma stagePreimage_run (henv : env.Dependable) {w : World} {file : TurnRestoreFile}
    {key : ArtifactKey} (hvalid : file.metadataFingerprint.validate = .ok ())
    (hfree : w.siblings file.pathBytes key = none) :
    ∃ staged u, stagePreimage env file key w = (.ok (.ok staged), u) ∧
      u.Like (w.setSibling file.pathBytes key (some staged)) ∧ staged.size = file.preSize ∧
      staged.sha256 = file.preSha256 ∧ staged.metadata.validate = .ok () ∧
      fitsColumn env.encoding.metadataJson 4096 (some staged.metadata) = true ∧
      staged.metadata.sameAttributes file.metadataFingerprint = true := by
  let staged : FileEvidence := {
    size := file.preSize
    sha256 := file.preSha256
    metadata := env.stagedMetadata w.tick file }
  refine ⟨staged, (w.setSibling file.pathBytes key (some staged)).next, ?_, ⟨_, rfl⟩, rfl, rfl,
    henv.stagedValid _ _ hvalid, fitsColumn_eq_true.mpr ?_, henv.stagedAttributes _ _ hvalid⟩
  · simp only [stagePreimage, authorityCall, attempt, henv.works, hfree]
    rfl
  · rintro m ⟨⟩
    exact ⟨henv.metadataJson _, henv.stagedFits _ _ hvalid⟩

lemma stageFile_run (henv : env.Dependable) {done later : List UndoOperationFile} {w : World}
    {file : TurnRestoreFile} {expected : ExpectedResult} {journal : UndoOperationFile} {index : ℕ}
    (hjournal : journal = newJournalFile env restore now file expected index)
    (hopened : Opened env.encoding s restore files row (done ++ journal :: later) w.journal)
    (hactive : row.state.inactive = false)
    (htarget : w.targets file.pathBytes = some expected.evidence)
    (hfree : w.siblings file.pathBytes (env.exchangeKey index) = none)
    (hown : file.restoreSetId = restore.restoreSetId)
    (hmetadata : file.metadataFingerprint.validate = .ok ()) :
    ∃ staged u, stageFile env now file expected (done ++ journal :: later) journal w =
        (.ok (.ok staged), u) ∧
      Opened env.encoding s restore files row (done ++ staged :: later) u.journal ∧
      u.Unapplied staged ∧ staged.state = .staged ∧ sameFileIdentity journal staged ∧
      StagedFor env.encoding file staged ∧ staged.recoveryDetails = none ∧
      w.SameBut u [file.pathBytes] (Set.range env.exchangeKey) ∧ u.generations = w.generations := by
  have hkey : journal.exchangeArtifactKey = env.exchangeKey index := by rw [hjournal]; rfl
  have hpath : journal.pathBytes = file.pathBytes := by rw [hjournal]; rfl
  have hresult : resultEvidence journal = expected.evidence := by rw [hjournal]; rfl
  have hsize : journal.preSize = file.preSize := by rw [hjournal]; rfl
  have hhash : journal.preSha256 = file.preSha256 := by rw [hjournal]; rfl
  rw [← hkey] at hfree
  obtain ⟨staged, v, hstage, ⟨tick, rfl⟩, hstagedSize, hstagedHash, hvalid, hfits, hattributes⟩ :=
    stagePreimage_run henv hmetadata hfree
  have hmem : journal ∈ done ++ journal :: later := by simp
  have hplanned : journal.state = .planned := by rw [hjournal]; rfl
  have hnext := (hopened.filesReadable _ hmem).stagedWith hplanned hvalid hfits
  have hi : done.length < (done ++ journal :: later).length := by simp
  have hget : (done ++ journal :: later)[done.length] = journal := by simp
  obtain ⟨j, hmoves, hopened'⟩ := hopened.transitionFile hi hactive hnext
    (by rw [hget]; exact sameFileIdentity_stagedWith journal staged.metadata)
    (by rw [hget, hplanned]; rfl)
    (.inr (by rw [hget, hjournal]; rfl))
  rw [hget, hplanned] at hmoves
  rw [List.set_append_right _ _ (by simp), Nat.sub_self, List.set_cons_zero] at hopened'
  let v := w.setSibling file.pathBytes journal.exchangeArtifactKey (some staged)
  obtain ⟨_, hinspect, tick', rfl⟩ := inspectTarget_leads (w := v) henv file.pathBytes _ ⟨tick, rfl⟩
  obtain ⟨u, hcall, tick'', rfl⟩ := repositoryCall_leads (w := v) henv hmoves _ ⟨tick', rfl⟩
  have hseen : demand (v.targets file.pathBytes) GuardedUndoReasonCode.targetMissing =
      .ok expected.evidence := demand_eq_ok.mpr htarget
  have hsame : w.SameBut v [file.pathBytes] (Set.range env.exchangeKey) :=
    w.sameBut_setSibling file.pathBytes (Set.mem_range.mpr ⟨index, hkey.symm⟩) (some staged)
  refine ⟨journal.stagedWith staged.metadata, { v with journal := j, tick := tick'' }, ?_,
    hopened', ?_, rfl, sameFileIdentity_stagedWith _ _, ?_, by rw [hjournal]; rfl,
    hsame.ends rfl rfl, rfl⟩
  · unfold stageFile
    refine Call.bind_ok_iff.mpr ⟨.ok staged, _, hstage, ?_⟩
    simp only [hstagedSize, hstagedHash, ne_eq, not_true_eq_false, or_self, if_false]
    refine Call.bind_ok_iff.mpr ⟨_, _, hinspect, ?_⟩
    rw [hseen]
    simp only [observes, decide_true, Bool.true_eq_false, if_false]
    exact Call.bind_ok_iff.mpr ⟨.ok true, _, hcall, rfl⟩
  · refine ⟨?_, staged, ?_, ?_⟩
    · show w.targets journal.pathBytes = some (resultEvidence journal)
      rw [hpath, hresult, htarget]
    · show some _ = some staged
      simp only [UndoOperationFile.stagedWith, hsize, hhash, ← hstagedSize, ← hstagedHash]
    · show (w.setSibling _ _ _).siblings journal.pathBytes journal.exchangeArtifactKey = some staged
      simp [hpath, World.setSibling]
  · exact ⟨hpath, hsize, hhash, by rw [hown, hjournal]; rfl,
      staged.metadata, rfl, hvalid, hfits, hattributes⟩

def plannedFrom (env : RestoreEnvironment) (restore : TurnRestoreSet) (now index : ℕ)
    (entries : List (TurnRestoreFile × ExpectedResult)) : List UndoOperationFile :=
  (entries.zipIdx index).map fun entry => newJournalFile env restore now entry.1.1 entry.1.2 entry.2

structure World.Waits (w : World) (keys : Set ArtifactKey) (journal : UndoOperationFile) : Prop where
  unapplied : w.Unapplied journal
  staged : journal.state = .staged
  undetailed : journal.recoveryDetails = none
  key : journal.exchangeArtifactKey ∈ keys

lemma World.Waits.of_sameBut {w u : World} {keys : Set ArtifactKey} {paths : List OpaqueRepoPath}
    {journal : UndoOperationFile} (h : w.Waits keys journal) (hsame : w.SameBut u paths keys)
    (hpath : journal.pathBytes ∉ paths) : u.Waits keys journal :=
  ⟨h.unapplied.of_sameBut hsame hpath, h.staged, h.undetailed, h.key⟩

lemma stagedFor_paths {encoding : JournalEncoding} {staged : List UndoOperationFile}
    (h : List.Forall₂ (StagedFor encoding) files staged) :
    staged.map UndoOperationFile.pathBytes = files.map TurnRestoreFile.pathBytes := by
  induction h with
  | nil => rfl
  | cons hfile _ ih => rw [List.map_cons, List.map_cons, hfile.path, ih]

lemma stageFiles_run (henv : env.Dependable) (hactive : row.state.inactive = false)
    (expected : List ExpectedResult) (entries : List (TurnRestoreFile × ExpectedResult))
    (done : List UndoOperationFile) {w : World}
    (hopened : Opened env.encoding s restore files row
      (done ++ plannedFrom env restore now done.length entries) w.journal)
    (hordinals : entries.map (fun entry => entry.1.ordinal) =
      List.range' done.length entries.length)
    (hexpected : expected.drop done.length = entries.map Prod.snd)
    (htargets : ∀ entry ∈ entries, w.targets entry.1.pathBytes = some entry.2.evidence)
    (hfree : ∀ entry ∈ entries, ∀ index,
      w.siblings entry.1.pathBytes (env.exchangeKey index) = none)
    (hpaths : (entries.map fun entry => entry.1.pathBytes).Nodup)
    (hown : ∀ entry ∈ entries, entry.1.restoreSetId = restore.restoreSetId)
    (hmetadata : ∀ entry ∈ entries, entry.1.metadataFingerprint.validate = .ok ()) :
    ∃ staged u, stageFiles env now expected (entries.map Prod.fst)
        (done ++ plannedFrom env restore now done.length entries) w =
          (.ok (.ok (done ++ staged)), u) ∧
      Opened env.encoding s restore files row (done ++ staged) u.journal ∧
      List.Forall₂ (StagedFor env.encoding) (entries.map Prod.fst) staged ∧
      (∀ journal ∈ staged, u.Waits (Set.range env.exchangeKey) journal) ∧
      w.SameBut u (entries.map fun entry => entry.1.pathBytes) (Set.range env.exchangeKey) ∧
      u.generations = w.generations := by
  induction entries generalizing done w with
  | nil =>
      refine ⟨[], w, ?_, hopened, .nil, by simp, World.SameBut.refl _ _ _, rfl⟩
      simp [stageFiles, plannedFrom]
  | cons entry rest ih =>
      obtain ⟨file, result⟩ := entry
      let journal := newJournalFile env restore now file result done.length
      let later := plannedFrom env restore now (done.length + 1) rest
      have hplanned : plannedFrom env restore now done.length ((file, result) :: rest) =
          journal :: later := rfl
      rw [hplanned] at hopened ⊢
      obtain ⟨hordinal, hordinals⟩ : file.ordinal = done.length ∧
          rest.map (fun entry => entry.1.ordinal) = List.range' (done.length + 1) rest.length := by
        simpa [List.range'_succ] using hordinals
      obtain ⟨hfresh, hpaths⟩ := List.nodup_cons.mp hpaths
      have hown' : file.restoreSetId = restore.restoreSetId := hown _ List.mem_cons_self
      obtain ⟨staged, v, hstage, hopened', hunapplied, hstate, hidentity, hfor, hdetails, hsame,
        hgenerations⟩ := stageFile_run henv rfl hopened hactive
          (htargets (file, result) List.mem_cons_self) (hfree (file, result) List.mem_cons_self _)
          hown' (hmetadata _ List.mem_cons_self)
      have hother : ∀ entry ∈ rest, entry.1.pathBytes ∉ [file.pathBytes] := by
        intro entry hentry hmem
        exact hfresh (List.mem_map.mpr ⟨entry, hentry, List.mem_singleton.mp hmem⟩)
      have hcons : done ++ staged :: later = (done ++ [staged]) ++ later := by simp
      have hlength : (done ++ [staged]).length = done.length + 1 := by simp
      have hget : expected[done.length]? = some result := by
        have hhead := congrArg List.head? hexpected
        simpa [List.head?_drop] using hhead
      rw [hcons] at hopened'
      obtain ⟨others, u, hstages, hopened'', hfors, hwaits, hsame', hgenerations'⟩ :=
        ih (done ++ [staged]) (w := v) (by rw [hlength]; exact hopened')
          (by rw [hlength]; exact hordinals)
          (by
            rw [hlength, ← List.tail_drop, hexpected]
            rfl)
          (fun entry hentry => (hsame.targets _ (hother entry hentry)).trans
            (htargets entry (List.mem_cons_of_mem _ hentry)))
          (fun entry hentry index => (hsame.beside _ (hother entry hentry) _).trans
            (hfree entry (List.mem_cons_of_mem _ hentry) index))
          hpaths (fun entry hentry => hown entry (List.mem_cons_of_mem _ hentry))
          (fun entry hentry => hmetadata entry (List.mem_cons_of_mem _ hentry))
      rw [hlength] at hstages
      have happend : done ++ staged :: others = (done ++ [staged]) ++ others := by simp
      refine ⟨staged :: others, u, ?_, happend ▸ hopened'', .cons hfor hfors, ?_,
        (hsame.mono (by simp)).trans (hsame'.mono (by simp)), hgenerations'.trans hgenerations⟩
      · simp only [List.map_cons, stageFiles, hordinal, hget, List.getElem?_append_right le_rfl,
          Nat.sub_self, List.getElem?_cons_zero]
        refine Call.bind_ok_iff.mpr ⟨.ok staged, v, hstage, ?_⟩
        have hset : (done ++ journal :: later).set done.length staged = done ++ [staged] ++ later := by
          simp
        dsimp only
        rw [hset, happend]
        exact hstages
      · intro other hmem
        rcases List.mem_cons.mp hmem with rfl | hmem
        · refine World.Waits.of_sameBut ⟨hunapplied, hstate, hdetails, done.length, ?_⟩ hsame' ?_
          · exact hidentity.2.2.2.2.1
          · rw [hfor.path]
            exact hfresh
        · exact hwaits other hmem

end Stage

end DevCommandCenter.GuardedUndo
