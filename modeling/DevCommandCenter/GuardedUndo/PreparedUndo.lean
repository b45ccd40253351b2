import DevCommandCenter.GuardedUndo.AllOrNothing
import DevCommandCenter.GuardedUndo.Preparation

/-! One restoration set, prepared and then executed while nothing fails. -/

namespace DevCommandCenter.GuardedUndo

open Library JournalStore

structure World.DrawsNew (w : World) (env : RestoreEnvironment) : Prop where
  named : isBlank env.operationId.value = false
  short : env.operationId.value.length ≤ 256
  operation : ∀ row ∈ w.journal.operations.rows, row.operationId ≠ env.operationId
  distinct : Set.InjOn env.exchangeKey (Set.Iio maxRestoreFiles)
  free : ∀ path index, w.siblings path (env.exchangeKey index) = none

section NewRecords

variable {env : RestoreEnvironment} {s : JournalStore} {restore : TurnRestoreSet}
  {files : List TurnRestoreFile} {file : TurnRestoreFile} {expected : ExpectedResult} {now : ℕ}

lemma LoadedSet.setNamed (h : LoadedSet env.encoding restore files) :
    isBlank restore.restoreSetId.value ≠ true := by
  have hvalid := h.valid
  simp only [TurnRestoreSet.validate, requireText, except_seq_eq_ok, refuse_eq_ok] at hvalid
  exact hvalid.2.1

lemma LoadedSet.metadataValid {encoding : JournalEncoding} (h : LoadedSet encoding restore files)
    (hfile : file ∈ files) : file.metadataFingerprint.validate = .ok () := by
  have hvalid := h.filesValid file hfile
  simp only [TurnRestoreFile.validate, except_seq_eq_ok] at hvalid
  exact hvalid.2.2.2.2.2

lemma newJournalFile_readable (hset : LoadedSet env.encoding restore files) (hfile : file ∈ files)
    (hrecordable : Recordable env.encoding s restore file expected)
    (hnamed : isBlank env.operationId.value = false)
    (hchain : ∀ source ∈ expected.chainedFrom,
      isBlank source.value = false ∧ source ≠ env.operationId) (index : ℕ) :
    FileReadable env.encoding (newJournalFile env restore now file expected index) := by
  refine ⟨?_, hrecordable.metadataFits, rfl, rfl, rfl⟩
  have hvalid := hset.filesValid file hfile
  simp only [TurnRestoreFile.validate, except_seq_eq_ok, refuse_eq_ok, not_lt] at hvalid
  obtain ⟨-, hpath, -, hpre, hresult, -⟩ := hvalid
  simp only [UndoOperationFile.validate, requireText, except_seq_eq_ok, refuse_eq_ok]
  refine ⟨by simp [newJournalFile, hnamed], hset.setNamed, ?_, hpath, not_lt.mpr hpre, ?_, ?_,
    hrecordable.metadataValid, rfl, by simp [UndoOperationFile.displacedWhole, newJournalFile], rfl,
    rfl, by simp [UndoOperationFile.stateConsistent, newJournalFile]⟩
  · unfold UndoOperationFile.validateChain
    cases hsource : expected.chainedFrom with
    | none => simp [newJournalFile, hsource]
    | some source =>
        obtain ⟨hsourceNamed, hne⟩ := hchain source hsource
        simp only [newJournalFile, hsource, requireText, except_seq_eq_ok, refuse_eq_ok]
        exact ⟨by simp [hsourceNamed], hne⟩
  · simp [newJournalFile, hrecordable.size, not_lt.mpr hresult]
  · simp [newJournalFile, UndoOperationFileState.isKnown, VerificationOutcome.isKnown]

lemma newJournalFile_new (hset : LoadedSet env.encoding restore files) (hfile : file ∈ files)
    (hkept : s.WellKept env.encoding)
    (hrecordable : Recordable env.encoding s restore file expected)
    (hnamed : isBlank env.operationId.value = false)
    (hunused : ∀ row ∈ s.operations.rows, row.operationId ≠ env.operationId)
    (digest : Sha256Digest) (prepared : PreparedToken) (index : ℕ) :
    FileNew env.encoding (newOperation env digest prepared restore now)
      (newJournalFile env restore now file expected index) := by
  have hchain : ∀ source ∈ expected.chainedFrom, isBlank source.value = false ∧
      source ≠ env.operationId ∧ 1 ≤ source.value.length ∧ source.value.length ≤ 256 := by
    intro source hsource
    obtain ⟨row, hrow, rfl⟩ := hrecordable.chain source hsource
    obtain ⟨hblank, hlengths⟩ := hkept.names row hrow
    exact ⟨hblank, hunused row hrow, hlengths⟩
  refine ⟨newJournalFile_readable hset hfile hrecordable hnamed (fun source hsource =>
    ⟨(hchain source hsource).1, (hchain source hsource).2.1⟩) index, rfl, rfl, rfl, rfl, rfl, rfl,
    fitsColumn_eq_true.mpr fun source hsource => (hchain source hsource).2.2⟩

lemma newOperation_readable (henv : env.Dependable) (hset : LoadedSet env.encoding restore files)
    (hnamed : isBlank env.operationId.value = false) {prepared : PreparedToken}
    (hroot : restore.rootId = some prepared.rootId)
    (hgit : restore.gitIdentity = some prepared.git) (digest : Sha256Digest) :
    OperationReadable env.encoding (newOperation env digest prepared restore now) := by
  have hrootValid := hset.rootValid
  have hgitValid := hset.gitValid
  rw [hroot] at hrootValid
  rw [hgit] at hgitValid
  have hidentity : (newOperation env digest prepared restore now).preparedIdentity.validate =
      .ok () := by
    simp only [PreparedIdentityV1.validate, requireSchema, except_seq_eq_ok, refuse_eq_ok]
    exact ⟨by simp [newOperation], hrootValid, hgitValid⟩
  refine ⟨?_, henv.identityJson _ hidentity, rfl⟩
  simp only [UndoOperation.validate, requireSchema, requireText, except_seq_eq_ok, refuse_eq_ok]
  refine ⟨by simp [newOperation], by simp [newOperation, hnamed], hset.setNamed,
    by simp [newOperation, UndoOperationState.isKnown], rfl, hidentity, rfl, ?_,
    by simp [newOperation, UndoOperation.stateConsistent]⟩
  rintro ⟨details, hdetails, -⟩
  cases hdetails

lemma plannedFrom_ordinals (index : ℕ) (entries : List (TurnRestoreFile × ExpectedResult)) :
    (plannedFrom env restore now index entries).map UndoOperationFile.ordinal =
      entries.map fun entry => entry.1.ordinal := by
  induction entries generalizing index with
  | nil => rfl
  | cons entry rest ih =>
      rw [plannedFrom, List.zipIdx_cons, List.map_cons, List.map_cons, List.map_cons]
      exact congrArg _ (ih (index + 1))

lemma plannedFrom_paths (index : ℕ) (entries : List (TurnRestoreFile × ExpectedResult)) :
    (plannedFrom env restore now index entries).map UndoOperationFile.pathBytes =
      entries.map fun entry => entry.1.pathBytes := by
  induction entries generalizing index with
  | nil => rfl
  | cons entry rest ih =>
      rw [plannedFrom, List.zipIdx_cons, List.map_cons, List.map_cons, List.map_cons]
      exact congrArg _ (ih (index + 1))

lemma mem_plannedFrom {index : ℕ} {entries : List (TurnRestoreFile × ExpectedResult)}
    {journal : UndoOperationFile} (h : journal ∈ plannedFrom env restore now index entries) :
    ∃ entry ∈ entries, ∃ i, journal = newJournalFile env restore now entry.1 entry.2 i := by
  obtain ⟨⟨entry, i⟩, hmem, rfl⟩ := List.mem_map.mp h
  exact ⟨entry, List.fst_mem_of_mem_zipIdx hmem, i, rfl⟩

lemma bindFiles_plannedFrom {operation : UndoOperation}
    (hid : operation.operationId = env.operationId)
    (hdistinct : Set.InjOn env.exchangeKey (Set.Iio maxRestoreFiles))
    (index : ℕ) (entries : List (TurnRestoreFile × ExpectedResult)) (keys : List ArtifactKey)
    (hfew : index + entries.length ≤ maxRestoreFiles)
    (hkeys : ∀ key ∈ keys, ∃ i < index, env.exchangeKey i = key)
    (hrecordable : ∀ entry ∈ entries, Recordable env.encoding s restore entry.1 entry.2) :
    s.bindFiles operation restore keys
      ((plannedFrom env restore now index entries).zip (entries.map Prod.fst)) = .ok () := by
  induction entries generalizing index keys with
  | nil => rfl
  | cons entry rest ih =>
      have hentry := hrecordable entry List.mem_cons_self
      have hlast : index < maxRestoreFiles := by
        rw [List.length_cons] at hfew
        omega
      have hunused : env.exchangeKey index ∉ keys := by
        intro hmem
        obtain ⟨i, hi, heq⟩ := hkeys _ hmem
        exact absurd (hdistinct (hi.trans hlast) hlast heq) hi.ne
      have hrest := ih (index + 1) (env.exchangeKey index :: keys)
        (by
          rw [List.length_cons] at hfew
          omega)
        (by
          intro key hkey
          rcases List.mem_cons.mp hkey with rfl | hkey
          · exact ⟨index, Nat.lt_succ_self _, rfl⟩
          · obtain ⟨i, hi, heq⟩ := hkeys key hkey
            exact ⟨i, Nat.lt_succ_of_lt hi, heq⟩)
        (fun other hother => hrecordable other (List.mem_cons_of_mem _ hother))
      show s.bindFiles operation restore keys
        ((newJournalFile env restore now entry.1 entry.2 index, entry.1) :: _) = .ok ()
      simp only [bindFiles, except_bind_eq_ok, Unique.exists_iff, refuse_eq_ok]
      refine ⟨?_, true, hentry.bound (newJournalFile env restore now entry.1 entry.2 index) rfl rfl, ?_,
        hrest⟩
      · simp [newJournalFile, hid, hentry.size, hentry.sha256]
      · simp [newJournalFile, hunused]

end NewRecords

section Execution

variable {env : RestoreEnvironment} {w u v : World} {snapshotId workspaceAbsolute : String}
  {now later : ℕ} {binding : ResultBinding} {s : JournalStore} {set : PreparableSet}
  {expected : List ExpectedResult}

lemma validateTarget_leads (henv : env.Dependable) {restore : TurnRestoreSet} {file : TurnRestoreFile}
    {result : ExpectedResult} (h : w.Expects binding restore file result) :
    (validateTarget env binding restore file result).Leads World.Like w (.ok ()) w := by
  obtain ⟨current, htarget, hexpected⟩ := h
  refine (verifyPreimage_leads henv _ _ _).bind ((inspectTarget_leads henv _).bind ?_)
  rw [htarget]
  refine (expectedResult_leads henv binding restore file current).bind ?_
  rw [hexpected]
  dsimp only
  rw [if_pos rfl]
  exact Call.leads_pure _

lemma validateTargets_leads (henv : env.Dependable) {restore : TurnRestoreSet}
    {files : List TurnRestoreFile}
    (h : List.Forall₂ (w.Expects binding restore) files expected) :
    (validateTargets env binding restore (files.zip expected)).Leads World.Like w (.ok ()) w := by
  induction h with
  | nil => exact Call.leads_pure _
  | cons hfile _ ih => exact (validateTarget_leads henv hfile).bind ih

lemma gitIdentity_bind_leads (henv : env.Dependable) {α : Type} {answer : α}
    {f : Except GuardedUndoReasonCode GitIdentityV1 → Service α}
    (h : ∀ tick, (f (.ok (env.gitIdentity tick))).Leads World.Like w answer u) :
    (bind (m := Service) (gitIdentity env) f).Leads World.Like w answer u := by
  rintro _ ⟨tick, rfl⟩
  obtain ⟨t, ht, hlike⟩ := h tick { w with tick := tick + 1 } ⟨_, rfl⟩
  refine ⟨t, Call.bind_ok_iff.mpr ⟨_, _, gitIdentity_run henv _, ht⟩, hlike⟩

structure World.Awaits (w : World) (env : RestoreEnvironment) (prepared : PreparedToken)
    (set : PreparableSet) (now : ℕ) : Prop where
  preparable : w.journal.Preparable env prepared.snapshotId now set
  workspace : set.restore.workspaceId = prepared.workspaceId
  ofSet : set.restore.restoreSetId = prepared.restoreSetId
  rootId : set.rootId = prepared.rootId
  captured : set.git = prepared.git
  manifest : set.manifestDigest = prepared.manifestDigest
  generations : prepared.coordinatorGenerations = w.generations
  lives : now < prepared.expiresAt
  root : env.physicalRoot 0 prepared.workspaceAbsolute = prepared.rootId
  git : (env.gitIdentity 0).sameRepositoryState prepared.git = true
  expects : List.Forall₂ (w.Expects prepared.binding set.restore) set.files prepared.expected

lemma validateExecuteAuthority_leads (henv : env.Dependable) {prepared : PreparedToken}
    (h : w.Awaits env prepared set now) {generations : AuthorityGenerations}
    (hnext : w.generations.next = some generations) :
    (validateExecuteAuthority env
      { mode := .exclusive, rootId := prepared.rootId, coordinatorGenerations := generations } prepared
      set.restore set.files).Leads World.Like { w with generations := generations } (.ok ())
      { w with generations := generations } := by
  unfold validateExecuteAuthority
  rw [if_neg (by simp), if_neg (by simp [h.generations, hnext])]
  refine gitIdentity_bind_leads henv fun tick => ?_
  have hgit := GitIdentityV1.sameRepositoryState_trans (henv.repository tick 0) h.git
  have hlength := h.expects.length_eq
  dsimp only
  rw [if_neg (by simp [hgit]), if_neg (by simp [hlength])]
  exact validateTargets_leads (w := { w with generations := generations }) henv h.expects

lemma World.Expects.recordable (henv : env.Dependable) (hkept : w.journal.WellKept env.encoding)
    {restore : TurnRestoreSet} {files : List TurnRestoreFile}
    (hset : LoadedSet env.encoding restore files) {file : TurnRestoreFile} (hfile : file ∈ files)
    {result : ExpectedResult} (h : w.Expects binding restore file result) :
    Recordable env.encoding w.journal restore file result := by
  obtain ⟨current, -, hexpected⟩ := h
  refine JournalStore.recordable hkept (hset.metadataValid hfile) (fitsColumn_eq_true.mpr ?_)
    hexpected
  rintro m ⟨⟩
  exact ⟨henv.metadataJson _, hset.metadataFits file hfile⟩

structure World.RestoredAs (w : World) (encoding : JournalEncoding) (file : TurnRestoreFile)
    (journal : UndoOperationFile) : Prop where
  path : journal.pathBytes = file.pathBytes
  size : journal.preSize = file.preSize
  sha256 : journal.preSha256 = file.preSha256
  ownSet : journal.restoreSetId = file.restoreSetId
  verified : journal.state = .verified
  outcome : journal.verificationOutcome = .verified
  cleaned : w.siblings file.pathBytes journal.exchangeArtifactKey = none
  installed : ∃ m, journal.stagedMetadata = some m ∧ m.validate = .ok () ∧
    fitsColumn encoding.metadataJson 4096 (some m) = true ∧
    m.sameAttributes file.metadataFingerprint = true ∧
    w.targets file.pathBytes =
      some { size := file.preSize, sha256 := file.preSha256, metadata := m }

def settledRow (env : RestoreEnvironment) (digest : Sha256Digest) (prepared : PreparedToken)
    (restore : TurnRestoreSet) (now : ℕ) : UndoOperationRow :=
  UndoOperationRow.settledAt
    { newOperation env digest prepared restore now with cleanupPending := true } (env.timestamp now)

lemma zip_fst {files : List TurnRestoreFile} (h : files.length = expected.length) :
    (files.zip expected).map Prod.fst = files :=
  List.map_fst_zip h.le

lemma bound_new {restore : TurnRestoreSet} {files : List TurnRestoreFile}
    (hset : LoadedSet env.encoding restore files) {prepared : PreparedToken}
    (hroot : restore.rootId = some prepared.rootId) (hgit : restore.gitIdentity = some prepared.git)
    (hmanifest : restore.manifestDigest = some prepared.manifestDigest)
    (hlength : files.length = expected.length)
    (hdistinct : Set.InjOn env.exchangeKey (Set.Iio maxRestoreFiles))
    (hrecordable : ∀ entry ∈ files.zip expected,
      Recordable env.encoding s restore entry.1 entry.2) (digest : Sha256Digest) :
    s.validateOperationManifestBinding env.encoding (newOperation env digest prepared restore now)
      (plannedFrom env restore now 0 (files.zip expected)) restore files = .ok () := by
  have hbinds : s.bindFiles (newOperation env digest prepared restore now) restore []
      ((plannedFrom env restore now 0 (files.zip expected)).zip
        ((files.zip expected).map Prod.fst)) = .ok () :=
    bindFiles_plannedFrom rfl hdistinct 0 (files.zip expected) []
      (by simpa [hlength] using hlength ▸ hset.few) (by simp) hrecordable
  rw [zip_fst hlength] at hbinds
  have hversion : restore.captureVersion = restoreCaptureVersion := by
    have hvalid := hset.valid
    simp only [TurnRestoreSet.validate, except_seq_eq_ok, refuse_eq_ok, not_not] at hvalid
    exact hvalid.1
  have hplanned : (plannedFrom env restore now 0 (files.zip expected)).length = files.length := by
    simp [plannedFrom, hlength]
  have hnonempty : plannedFrom env restore now 0 (files.zip expected) ≠ [] := by
    intro hnil
    rw [hnil] at hplanned
    exact hset.nonempty (List.length_eq_zero_iff.mp hplanned.symm)
  simp only [validateOperationManifestBinding, except_bind_eq_ok, Unique.exists_iff, refuse_eq_ok,
    demand_eq_ok, not_or, not_not]
  refine ⟨⟨hversion, fun hnot => hnot.1 hset.eligible, rfl, hnonempty, hplanned, ?_⟩, prepared.rootId, hroot, rfl,
    prepared.git, hgit, ⟨rfl, hmanifest.symm⟩, schemaChecked_eq_ok.mpr hset.manifest, hbinds⟩
  rintro ⟨file, hfile, hunknown⟩
  obtain ⟨entry, -, i, rfl⟩ := mem_plannedFrom hfile
  rcases hunknown with h | h <;> cases h

variable (now) in
theorem createOperation_opens (henv : env.Dependable) (hkept : w.journal.WellKept env.encoding)
    (hpreparable : w.journal.Preparable env snapshotId later set) (hnew : w.DrawsNew env)
    {prepared : PreparedToken} (hroot : set.rootId = prepared.rootId)
    (hgit : set.git = prepared.git) (hmanifest : set.manifestDigest = prepared.manifestDigest)
    (hexpects : List.Forall₂ (w.Expects binding set.restore) set.files expected)
    (digest : Sha256Digest) :
    ∃ t, createUndoOperation env.encoding (newOperation env digest prepared set.restore now)
        (plannedFrom env set.restore now 0 (set.files.zip expected)) w.journal = (.ok (), t) ∧
      Opened env.encoding w.journal set.restore set.files
        { newOperation env digest prepared set.restore now with cleanupPending := true }
        (plannedFrom env set.restore now 0 (set.files.zip expected)) t := by
  have hset := hpreparable.loadedSet
  have hlength := hexpects.length_eq
  have hrootId := hroot ▸ hpreparable.root
  have hgitId := hgit ▸ hpreparable.git
  have hrecordable : ∀ entry ∈ set.files.zip expected,
      Recordable env.encoding w.journal set.restore entry.1 entry.2 := by
    intro entry hentry
    exact (List.forall₂_zip hexpects hentry).recordable henv hkept hset (List.of_mem_zip hentry).1
  have hfst : ∀ {β : Type} (f : TurnRestoreFile → β),
      (set.files.zip expected).map (fun entry => f entry.1) = set.files.map f := by
    intro β f
    show (set.files.zip expected).map (f ∘ Prod.fst) = _
    rw [← List.map_map, zip_fst hlength]
  have hplanned : (plannedFrom env set.restore now 0 (set.files.zip expected)).length =
      set.files.length := by
    simp [plannedFrom, hlength]
  refine createUndoOperation_accepts
    (newOperation_readable henv hset hnew.named hrootId hgitId digest) rfl rfl rfl ?_ ?_ ?_ ?_
    hpreparable.loaded
    (bound_new hset hrootId hgitId (hmanifest ▸ hpreparable.manifest) hlength hnew.distinct
      hrecordable digest) ?_ hnew.operation ?_ hpreparable.alone
  · rw [plannedFrom_ordinals, hfst, hplanned]
    exact hset.ordinals
  · rw [plannedFrom_paths, hfst]
    exact hset.paths
  · rw [hplanned]
    exact hset.few
  · intro journal hjournal
    obtain ⟨entry, hentry, index, rfl⟩ := mem_plannedFrom hjournal
    exact newJournalFile_new hset (List.of_mem_zip hentry).1 hkept (hrecordable entry hentry)
      hnew.named hnew.operation digest prepared index
  · intro journal hjournal
    obtain ⟨entry, hentry, index, rfl⟩ := mem_plannedFrom hjournal
    have hfile := (List.of_mem_zip hentry).1
    have hmem := (loadTurnRestoreSet_ok hpreparable.loaded).2.2 ▸ hfile
    intro hnone
    have hown := hset.own _ hfile
    exact KeyedRows.find?_eq_none.mp hnone entry.1 (mem_restoreFilesOf.mp hmem).1
      (Prod.ext hown rfl)
  · intro file hfile hid
    obtain ⟨row, hrow, hrowId⟩ := hkept.owned file hfile
    exact hnew.operation row hrow (hrowId.trans hid)

lemma StagedFor.restoredAs {z : World} {file : TurnRestoreFile} {journal : UndoOperationFile}
    (h : StagedFor env.encoding file journal)
    (hcleaned : z.siblings journal.pathBytes journal.exchangeArtifactKey = none)
    (hrestored : ∃ staged, stagedEvidence journal = some staged ∧
      z.targets journal.pathBytes = some staged) (updatedAt : String) :
    z.RestoredAs env.encoding file (journal.recordedAt updatedAt) := by
  obtain ⟨m, hm, hvalid, hfits, hattributes⟩ := h.staged
  obtain ⟨staged, hstaged, htarget⟩ := hrestored
  simp only [stagedEvidence, hm, Option.map_some, Option.some.injEq] at hstaged
  refine ⟨h.path, h.size, h.sha256, h.ownSet, rfl, rfl, h.path ▸ hcleaned, m, hm, hvalid, hfits,
    hattributes, ?_⟩
  rw [← h.path, htarget, ← hstaged, h.size, h.sha256]

variable (now) in
theorem executeJournalled_run (henv : env.Dependable) (hkept : w.journal.WellKept env.encoding)
    (hpreparable : w.journal.Preparable env snapshotId later set) (hnew : w.DrawsNew env)
    {prepared : PreparedToken} (hroot : set.rootId = prepared.rootId)
    (hgit : set.git = prepared.git) (hmanifest : set.manifestDigest = prepared.manifestDigest)
    (hexpects : List.Forall₂ (w.Expects binding set.restore) set.files prepared.expected)
    (hsame : (env.gitIdentity 0).sameRepositoryState prepared.git = true) (digest : Sha256Digest) :
    ∃ z journalFiles, executeJournalled env now digest prepared set.restore set.files w =
        (.ok (.completed env.operationId), z) ∧
      List.Forall₂ (z.RestoredAs env.encoding) set.files journalFiles ∧
      (∀ journal ∈ journalFiles, journal.operationId = env.operationId) ∧
      w.SameBut z (set.files.map TurnRestoreFile.pathBytes) (Set.range env.exchangeKey) ∧
      z.generations = w.generations ∧
      Finished w.journal (settledRow env digest prepared set.restore now) journalFiles
        (env.timestamp now) z.journal := by
  have hset := hpreparable.loadedSet
  have hlength := hexpects.length_eq
  have hfst : ∀ {β : Type} (f : TurnRestoreFile → β),
      (set.files.zip prepared.expected).map (fun entry => f entry.1) = set.files.map f := by
    intro β f
    show (set.files.zip prepared.expected).map (f ∘ Prod.fst) = _
    rw [← List.map_map, zip_fst hlength]
  obtain ⟨t, hcreates, hopened⟩ := createOperation_opens now henv hkept hpreparable hnew hroot
    hgit hmanifest hexpects digest
  obtain ⟨_, hcreated, tick, rfl⟩ := repositoryCall_leads (w := w) henv hcreates w (World.Like.refl w)
  obtain ⟨staged, v, hstages, hopened', hfors, hwaits, hsameBut, hgenerations⟩ := stageFiles_run
    (w := { w with journal := t, tick := tick }) henv rfl prepared.expected
    (set.files.zip prepared.expected) [] hopened
    (by
      rw [hfst, hset.ordinals, List.length_zip, hlength, min_self, List.length_nil,
        List.range_eq_range'])
    (by rw [List.length_nil, List.drop_zero, List.map_snd_zip hlength.ge])
    (fun entry hentry => (List.forall₂_zip hexpects hentry).target)
    (fun entry _ index => hnew.free _ index)
    (by rw [hfst]; exact hset.paths)
    (fun entry hentry => hset.own _ (List.of_mem_zip hentry).1)
    (fun entry hentry => hset.metadataValid (List.of_mem_zip hentry).1)
  rw [zip_fst hlength] at hstages hfors
  rw [List.nil_append] at hstages hopened'
  rw [hfst] at hsameBut
  obtain ⟨z, happlies, hrestored, hsameBut', hgenerations', hfinished⟩ := applyOperation_leads now
    henv rfl hopened' rfl rfl hwaits (by rw [stagedFor_paths hfors]; exact hset.paths) hsame
  rw [stagedFor_paths hfors] at hsameBut'
  obtain ⟨_, happlied, tick', rfl⟩ := happlies v (World.Like.refl v)
  refine ⟨{ z with tick := tick' }, _, ?_, ?_, ?_,
    ((hsameBut.starts (v := w) rfl rfl).trans hsameBut').ends rfl rfl,
    hgenerations'.trans hgenerations, hfinished⟩
  · unfold executeJournalled
    refine Call.bind_ok_iff.mpr ⟨_, _, hcreated, Call.bind_ok_iff.mpr ⟨_, _, hstages, happlied⟩⟩
  · refine List.forall₂_map_right_iff.mpr ?_
    refine List.forall₂_iff_get.mpr ⟨hfors.length_eq, fun i hi hi' => ?_⟩
    obtain ⟨hcleaned, htarget⟩ := hrestored (staged.get ⟨i, hi'⟩) (List.get_mem _ _)
    exact StagedFor.restoredAs (z := { z with tick := tick' }) (hfors.get hi hi') hcleaned htarget _
  · intro journal hjournal
    obtain ⟨original, horiginal, rfl⟩ := List.mem_map.mp hjournal
    exact hopened'.owned original horiginal

theorem World.Awaits.executes (henv : env.Dependable) (hkept : w.journal.WellKept env.encoding)
    (hnew : w.DrawsNew env) {prepared : PreparedToken} (h : w.Awaits env prepared set now)
    (previewToken : String)
    (htoken : w.tokens (env.encoding.sha256 (textBytes previewToken)) = some prepared)
    {generations : AuthorityGenerations} (hnext : w.generations.next = some generations) :
    ∃ z journalFiles, executeAt env previewToken true now w =
        (.ok (.completed env.operationId), z) ∧
      List.Forall₂ (z.RestoredAs env.encoding) set.files journalFiles ∧
      (∀ journal ∈ journalFiles, journal.operationId = env.operationId) ∧
      w.SameBut z (set.files.map TurnRestoreFile.pathBytes) (Set.range env.exchangeKey) ∧
      z.generations = generations ∧
      Finished w.journal (settledRow env (env.encoding.sha256 (textBytes previewToken)) prepared
        set.restore now) journalFiles (env.timestamp now) z.journal := by
  let digest := env.encoding.sha256 (textBytes previewToken)
  let v : World := { w with tokens := Function.update w.tokens digest none }
  have hawaits : v.Awaits env prepared set now := ⟨h.preparable, h.workspace, h.ofSet, h.rootId,
    h.captured, h.manifest, h.generations, h.lives, h.root, h.git, h.expects⟩
  have hmatches : preparedMatchesSet prepared set.restore = true := by
    rw [preparedMatchesSet, decide_eq_true_eq]
    exact ⟨h.preparable.eligible, h.preparable.snapshot, h.workspace, h.ofSet,
      h.rootId ▸ h.preparable.root, h.captured ▸ h.preparable.git, h.manifest ▸ h.preparable.manifest⟩
  have hretained : ((set.restore.expiresAt.bind env.parseTimestamp).all fun expiry =>
      decide (expiry ≤ now)) = false := by
    obtain ⟨expiry, hexpiry, hlt⟩ := h.preparable.retained
    simp [hexpiry, not_le.mpr hlt]
  have hloads : (getTurnRestoreSet env prepared.restoreSetId).Leads World.Like v
      (some (set.restore, set.files)) v := by
    have hread := repositoryRead_leads (w := v) henv fun journal =>
      journal.loadTurnRestoreSet env.encoding prepared.restoreSetId
    rw [← h.ofSet, show v.journal.loadTurnRestoreSet env.encoding set.restore.restoreSetId =
      .ok (some (set.restore, set.files)) from h.preparable.loaded, h.ofSet] at hread
    exact hread.map flattened
  have hacquires := acquire_leads (w := v) henv h.root .exclusive hnext
  have hvalidates := validateExecuteAuthority_leads (w := v) henv hawaits hnext
  obtain ⟨v₁, hloaded, hlike⟩ := hloads v (World.Like.refl v)
  obtain ⟨v₂, hacquired, hlike⟩ := hacquires v₁ hlike
  obtain ⟨v₃, hvalidated, tick, rfl⟩ := hvalidates v₂ hlike
  have hdraws : World.DrawsNew { v with generations := generations, tick := tick } env :=
    ⟨hnew.named, hnew.short, hnew.operation, hnew.distinct, hnew.free⟩
  obtain ⟨z, journalFiles, hexecutes, hrestored, howned, hsame, hgenerations, hfinished⟩ :=
    executeJournalled_run now henv
      (w := { v with generations := generations, tick := tick }) hkept h.preparable hdraws h.rootId
      h.captured h.manifest h.expects h.git digest
  refine ⟨z, journalFiles, ?_, hrestored, howned, hsame.starts rfl rfl, hgenerations, hfinished⟩
  unfold executeAt
  refine Call.read_bind_ok_iff.mpr (Call.update_bind_ok_iff.mpr ?_)
  simp only [htoken, Bool.true_eq_false, if_false, not_le.mpr h.lives]
  refine Call.bind_ok_iff.mpr ⟨_, v₁, hloaded, ?_⟩
  dsimp only
  unfold executePrepared
  rw [if_neg (by simp [hmatches]), if_neg (by simp [hretained])]
  refine Call.bind_ok_iff.mpr ⟨_, v₂, hacquired, Call.bind_ok_iff.mpr ⟨_, _, hvalidated, hexecutes⟩⟩

end Execution

section Outcome

variable {env : RestoreEnvironment} {w u v z : World} {snapshotId workspaceAbsolute : String}
  {now later : ℕ} {binding : ResultBinding} {set : PreparableSet} {expected : List ExpectedResult}

structure World.Undisturbed (u v : World) (files : List TurnRestoreFile) : Prop where
  journal : v.journal = u.journal
  targets : ∀ file ∈ files, v.targets file.pathBytes = u.targets file.pathBytes
  generations : v.generations = u.generations
  tokens : v.tokens = u.tokens

variable (later) in
lemma World.Prepares.awaits (h : w.Prepares env snapshotId workspaceAbsolute binding now set expected)
    (hjournal : v.journal = w.journal)
    (htargets : ∀ file ∈ set.files, v.targets file.pathBytes = w.targets file.pathBytes)
    (hgenerations : v.generations = w.generations) (hlives : later < now + tokenLifetime)
    (hretained : ∀ expiry ∈ set.restore.expiresAt.bind env.parseTimestamp, later < expiry) :
    v.Awaits env (w.tokenFor snapshotId workspaceAbsolute binding now set expected) set later := by
  have hpreparable := preparableIn_eq_ok.mp h.preparable
  obtain ⟨expiry, hexpiry, -⟩ := hpreparable.retained
  refine {
    preparable := hjournal ▸ { hpreparable with
      retained := ⟨expiry, hexpiry, hretained expiry hexpiry⟩ }
    workspace := rfl
    ofSet := rfl
    rootId := rfl
    captured := rfl
    manifest := rfl
    generations := hgenerations.symm
    lives := hlives
    root := h.root
    git := h.git
    expects := ?_ }
  refine List.forall₂_iff_get.mpr ⟨h.expects.length_eq, fun i hi hi' => ?_⟩
  obtain ⟨current, htarget, hexpected⟩ := h.expects.get hi hi'
  refine ⟨current, (htargets _ (List.get_mem _ _)).trans htarget, ?_⟩
  rw [hjournal]
  exact hexpected

/-- What a completed undo of the snapshot, which restored these files, has made of the world. -/
structure World.UndoneTo (v z : World) (env : RestoreEnvironment) (snapshotId : String)
    (files : List TurnRestoreFile) : Prop where
  restored : ∀ file ∈ files, ∃ m, m.sameAttributes file.metadataFingerprint = true ∧
    z.targets file.pathBytes =
      some { size := file.preSize, sha256 := file.preSha256, metadata := m }
  untouched : ∀ path ∉ files.map TurnRestoreFile.pathBytes,
    z.targets path = v.targets path ∧ z.siblings path = v.siblings path
  cleaned : ∀ file ∈ z.journal.operationFilesOf env.operationId,
    z.siblings file.pathBytes file.exchangeArtifactKey = none
  completed : ∃ row ∈ z.journal.operations.rows, row.operationId = env.operationId ∧
    row.state = .completed ∧ row.active = false ∧ row.cleanupPending = false
  consumed : ∃ restore ∈ z.journal.restoreSets.rows, restore.snapshotId = snapshotId ∧
    restore.state = .consumed

lemma Finished.undoneTo {s : JournalStore} {row : UndoOperationRow} {journalFiles : List UndoOperationFile}
    {updatedAt : String} (hfinished : Finished s row journalFiles updatedAt z.journal)
    (hrow : row.operationId = env.operationId) (hstate : row.state = .completed)
    (hactive : row.active = false) (hclean : row.cleanupPending = false)
    (hset : row.restoreSetId = set.restore.restoreSetId)
    (hmem : set.restore ∈ s.restoreSets.rows) (hsnapshot : set.restore.snapshotId = snapshotId)
    (hold : ∀ file ∈ s.operationFiles.rows, file.operationId ≠ env.operationId)
    (hrestored : List.Forall₂ (z.RestoredAs env.encoding) set.files journalFiles)
    (hsame : v.SameBut z (set.files.map TurnRestoreFile.pathBytes) (Set.range env.exchangeKey)) :
    v.UndoneTo z env snapshotId set.files where
  restored file hfile := by
    obtain ⟨journal, -, hrestored⟩ := exists_of_forall₂ hrestored hfile
    obtain ⟨m, -, -, -, hattributes, htarget⟩ := hrestored.installed
    exact ⟨m, hattributes, htarget⟩
  untouched path hpath := ⟨hsame.targets path hpath, funext (hsame.beside path hpath)⟩
  cleaned file hfile := by
    obtain ⟨hfile, hid⟩ := mem_operationFilesOf.mp hfile
    rw [hfinished.operationFiles] at hfile
    rcases List.mem_append.mp hfile with hfile | hfile
    · exact absurd hid (hold file hfile)
    · obtain ⟨restored, -, hrestored⟩ := exists_of_forall₂ hrestored.flip hfile
      rw [hrestored.path]
      exact hrestored.cleaned
  completed := ⟨row, by simp [hfinished.operations], hrow, hstate, hactive, hclean⟩
  consumed := by
    refine ⟨set.restore.consumedAt updatedAt, ?_, hsnapshot, rfl⟩
    rw [hfinished.restoreSets]
    exact List.mem_map.mpr ⟨set.restore, hmem, if_pos hset.symm⟩

/-- A preview is a promise: confirmed in time, with nothing it showed changed since and no call
failing, the undo completes. Every file of the set holds what it held before the turn, no other file
is touched, nothing is left beside the targets, and the set is used up. -/
theorem prepared_undo_completes (henv : env.Dependable) (hkept : w.journal.WellKept env.encoding)
    {ready : PrepareReady}
    (hprepare : prepareAt env snapshotId workspaceAbsolute binding now w = (.ok (.ready ready), u))
    (hsame : u.Undisturbed v (u.previewed env ready.previewToken)) (hnew : v.DrawsNew env)
    (hlives : later < now + tokenLifetime)
    (hretained : ∀ restore ∈ w.journal.restoreSets.rows, restore.snapshotId = snapshotId →
      ∀ expiry ∈ restore.expiresAt.bind env.parseTimestamp, later < expiry)
    (hroom : v.generations.next.isSome = true) :
    ∃ z, executeAt env ready.previewToken true later v = (.ok (.completed env.operationId), z) ∧
      v.UndoneTo z env snapshotId (u.previewed env ready.previewToken) := by
  obtain ⟨set, expected, hprepares, rfl, tick, rfl⟩ := prepareAt_ready henv hprepare
  have hpreparable := preparableIn_eq_ok.mp hprepares.preparable
  obtain ⟨hmem, -, hfiles⟩ := loadTurnRestoreSet_ok hpreparable.loaded
  have hpreviewed : World.previewed { w.issued env
      (w.tokenFor snapshotId workspaceAbsolute binding now set expected) with tick := tick } env
      (readyAnswer env snapshotId now set expected).previewToken = set.files := by
    simp only [World.previewed, World.issued, readyAnswer, Function.update_self]
    exact hfiles.symm
  rw [hpreviewed] at hsame ⊢
  obtain ⟨generations, hnext⟩ := Option.isSome_iff_exists.mp hroom
  have hawaits := hprepares.awaits later (v := v) hsame.journal hsame.targets hsame.generations hlives
    (hretained _ hmem hpreparable.snapshot)
  have hkept' : v.journal.WellKept env.encoding := hsame.journal ▸ hkept
  obtain ⟨z, journalFiles, hexecutes, hrestored, -, hsameBut, -, hfinished⟩ := hawaits.executes henv
    hkept' hnew env.previewToken
    (by
      rw [hsame.tokens]
      simp [World.issued, World.tokenFor]) hnext
  refine ⟨z, hexecutes, hfinished.undoneTo rfl rfl rfl rfl rfl (hsame.journal ▸ hmem)
    hpreparable.snapshot ?_ hrestored hsameBut⟩
  intro file hfile hid
  obtain ⟨row, hrow, hrowId⟩ := hkept'.owned file hfile
  exact hnew.operation row hrow (hrowId.trans hid)

def demoDrawn : RestoreEnvironment :=
  { demoRestore fun _ => .works with
    stagedMetadata := fun _ file => { file.metadataFingerprint with fileIdentity := [2] }
    exchangeKey := fun index => ⟨Fin.ofNat 256 index :: List.replicate 15 0, rfl⟩ }

lemma demoDrawn_dependable : demoDrawn.Dependable where
  works _ := rfl
  repository _ _ := by
    show demoGit.sameRepositoryState demoGit = true
    decide
  root _ _ _ := rfl
  stagedValid tick file h := by
    simp only [RegularFileMetadataV1.validate, except_seq_eq_ok] at h ⊢
    exact ⟨h.1, h.2.1, rfl, h.2.2.2⟩
  stagedAttributes _ file _ := by
    rw [RegularFileMetadataV1.sameAttributes, decide_eq_true_eq]
    exact ⟨rfl, rfl, rfl, rfl⟩
  stagedFits _ _ _ := show 1 ≤ 4096 by omega
  metadataJson _ := le_rfl
  identityJson _ _ := rfl

lemma demoDrawn_distinct : Set.InjOn demoDrawn.exchangeKey (Set.Iio maxRestoreFiles) := by
  intro i hi j hj h
  simp only [demoDrawn, ArtifactKey.mk.injEq, List.cons.injEq, Fin.ext_iff, Fin.val_ofNat,
    and_true] at h
  rwa [Nat.mod_eq_of_lt (show i < 256 from hi), Nat.mod_eq_of_lt (show j < 256 from hj)] at h

def demoReady : PrepareReady where
  snapshotId := "snapshot"
  previewToken := "preview"
  expiresAt := "t2"
  fileCount := 1
  totalBytes := 3
  files := [{ displayPath := "a", size := 3, binary := false, preview := none }]
  unrelatedPathsAreNotTargets := true

def demoPrepare : Except Stopped PrepareGuardedUndoResult × World :=
  prepareAt demoDrawn "snapshot" "/workspace" .turnResult 1 demoWorld

theorem prepared_undo_completes_demo :
    demoPrepare.1 = .ok (.ready demoReady) ∧
      demoPrepare.2.previewed demoDrawn "preview" = [demoRestoreFile] ∧
      ∃ z, executeAt demoDrawn "preview" true 2 demoPrepare.2 = (.ok (.completed ⟨"undo"⟩), z) ∧
        demoPrepare.2.UndoneTo z demoDrawn "snapshot"
          (demoPrepare.2.previewed demoDrawn "preview") := by
  have hready : demoPrepare.1 = .ok (.ready demoReady) := by decide +kernel
  refine ⟨hready, by decide +kernel, ?_⟩
  refine prepared_undo_completes (v := demoPrepare.2) demoDrawn_dependable ?_
    (Prod.ext hready rfl) ⟨rfl, fun _ _ => rfl, rfl, rfl⟩ ?_ ?_ ?_ ?_
  · exact {
      owned := fun file hfile => by cases hfile
      paths := fun file hfile => by cases hfile
      names := fun row hrow => by cases hrow
      identities := fun row hrow => by cases hrow
      staged := fun file hfile => by cases hfile }
  · exact {
      named := by decide +kernel
      short := by decide +kernel
      operation := fun row hrow => by cases hrow
      distinct := demoDrawn_distinct
      free := fun _ _ => rfl }
  · decide
  · rintro restore hmem - expiry hexpiry
    obtain rfl := List.mem_singleton.mp hmem
    cases hexpiry
    decide
  · decide +kernel

end Outcome

end DevCommandCenter.GuardedUndo
