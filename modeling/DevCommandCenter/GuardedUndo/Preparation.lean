import DevCommandCenter.GuardedUndo.UndoExecution

/-! What a preparation answers while nothing fails, and when it is ready. -/

namespace DevCommandCenter.GuardedUndo

open Library JournalStore

def World.Expects (w : World) (binding : ResultBinding) (restore : TurnRestoreSet)
    (file : TurnRestoreFile) (expected : ExpectedResult) : Prop :=
  ∃ current, w.targets file.pathBytes = some current ∧
    w.journal.expectedIn binding restore file current = .ok expected

lemma World.Expects.target {w : World} {binding : ResultBinding} {restore : TurnRestoreSet}
    {file : TurnRestoreFile} {expected : ExpectedResult} (h : w.Expects binding restore file expected) :
    w.targets file.pathBytes = some expected.evidence := by
  obtain ⟨current, htarget, hexpected⟩ := h
  rw [(expectedIn_ok hexpected).1, htarget]

section Preparation

variable {env : RestoreEnvironment} {w u : World} {snapshotId workspaceAbsolute : String} {now : ℕ}
  {binding : ResultBinding} {s : JournalStore} {set : PreparableSet}

def JournalStore.undoPending (s : JournalStore) (snapshotId : String) : Bool :=
  (s.operations.rows.any fun row => s.ofSnapshot snapshotId row && row.active) ||
    s.operations.rows.any fun row => s.ofSnapshot snapshotId row && row.cleanupPending

lemma mutationPending_leads (henv : env.Dependable) (hnamed : isBlank snapshotId ≠ true) :
    (mutationPending env snapshotId).Leads World.Like w (w.journal.undoPending snapshotId) w := by
  have hsummary : (flattened (getActiveGuardedUndoSummary w.journal snapshotId)).isSome =
      w.journal.operations.rows.any fun row =>
        w.journal.ofSnapshot snapshotId row && row.active := by
    simp only [getActiveGuardedUndoSummary, requireSnapshotId, refuse, if_neg hnamed]
    exact Option.isSome_map.trans List.isSome_find?
  have hcleanup : hasGuardedUndoCleanupPending w.journal snapshotId =
      .ok (w.journal.operations.rows.any fun row =>
        w.journal.ofSnapshot snapshotId row && row.cleanupPending) := by
    simp only [hasGuardedUndoCleanupPending, requireSnapshotId, refuse, if_neg hnamed]
    rfl
  refine (repositoryRead_leads henv _).bind ?_
  rw [hsummary, undoPending]
  cases w.journal.operations.rows.any fun row => w.journal.ofSnapshot snapshotId row && row.active with
  | true =>
      rw [if_pos rfl, Bool.true_or]
      exact Call.leads_pure _
  | false =>
      rw [if_neg (by simp), Bool.false_or]
      refine (repositoryRead_leads henv _).bind ?_
      rw [hcleanup]
      exact Call.leads_pure _

def JournalStore.preparableIn (s : JournalStore) (env : RestoreEnvironment) (snapshotId : String)
    (now : ℕ) : Except SetRefusal PreparableSet :=
  match flattened (getTurnRestoreSetBySnapshot env.encoding s snapshotId) with
  | none => .error (.unavailable .captureV2Missing)
  | some (restore, files) =>
      if s.undoPending snapshotId = true then .error (.blocked .mutationInProgress)
      else preparableSet env restore files now

lemma snapshot_named {encoding : JournalEncoding} {s : JournalStore}
    {found : Option (TurnRestoreSet × List TurnRestoreFile)}
    (h : getTurnRestoreSetBySnapshot encoding s snapshotId = .ok found) :
    isBlank snapshotId ≠ true := by
  simp only [getTurnRestoreSetBySnapshot, requireSnapshotId, except_seq_eq_ok, refuse_eq_ok] at h
  exact h.1

lemma loadPreparable_leads (henv : env.Dependable) :
    (loadPreparable env snapshotId now).Leads World.Like w
      (w.journal.preparableIn env snapshotId now) w := by
  refine (repositoryRead_leads henv _).bind ?_
  unfold JournalStore.preparableIn
  cases hfound : getTurnRestoreSetBySnapshot env.encoding w.journal snapshotId with
  | error e => exact Call.leads_pure _
  | ok found =>
      cases found with
      | none => exact Call.leads_pure _
      | some loaded =>
          refine (mutationPending_leads henv (snapshot_named hfound)).bind ?_
          dsimp only [flattened]
          split
          · exact Call.leads_pure _
          · exact Call.leads_pure _

def World.expectation (w : World) (binding : ResultBinding) (restore : TurnRestoreSet)
    (file : TurnRestoreFile) : Except GuardedUndoReasonCode ExpectedResult := do
  let current ← demand (w.targets file.pathBytes) .targetMissing
  w.journal.expectedIn binding restore file current

lemma expectation_eq_ok {restore : TurnRestoreSet} {file : TurnRestoreFile}
    {expected : ExpectedResult} :
    w.expectation binding restore file = .ok expected ↔ w.Expects binding restore file expected := by
  simp only [World.expectation, except_bind_eq_ok, demand_eq_ok, World.Expects]

def RestoreEnvironment.previewed (env : RestoreEnvironment) (file : TurnRestoreFile)
    (expected : ExpectedResult) : ExpectedResult × InversePreview :=
  (expected, env.previewAgainst file file.resultSha256)

lemma prepareFile_leads (henv : env.Dependable) (restore : TurnRestoreSet) (file : TurnRestoreFile) :
    (prepareFile env binding restore file).Leads World.Like w
      ((w.expectation binding restore file).map (env.previewed file)) w := by
  refine (verifyPreimage_leads henv _ _ _).bind ((inspectTarget_leads henv _).bind ?_)
  unfold World.expectation
  cases htarget : w.targets file.pathBytes with
  | none => exact Call.leads_pure _
  | some current =>
      refine (expectedResult_leads henv binding restore file current).bind ?_
      show Call.Leads _ _ _ ((w.journal.expectedIn binding restore file current).map _) _
      cases hexpected : w.journal.expectedIn binding restore file current with
      | error reason => exact Call.leads_pure _
      | ok expected =>
          have hhash : current.sha256 = file.resultSha256 := (expectedIn_ok hexpected).2.2.1
          have hpreview : (inversePreview env file).Leads World.Like w
              (.ok (env.previewAgainst file file.resultSha256)) w := by
            apply attempt_leads henv
            intro tick
            simp only [htarget, hhash, ne_eq, not_true_eq_false, if_false]
          exact hpreview.bind (Call.leads_pure _)

lemma prepareFiles_leads (henv : env.Dependable) (restore : TurnRestoreSet)
    (files : List TurnRestoreFile) :
    (prepareFiles env binding restore files).Leads World.Like w
      (files.mapM fun file => (w.expectation binding restore file).map (env.previewed file)) w := by
  induction files with
  | nil => exact Call.leads_pure _
  | cons file rest ih =>
      refine (prepareFile_leads henv restore file).bind ?_
      rw [List.mapM_cons]
      cases (w.expectation binding restore file).map (env.previewed file) with
      | error reason => exact Call.leads_pure _
      | ok first =>
          refine ih.bind ?_
          show Call.Leads _ _ _ (List.mapM _ rest >>= _) _
          cases rest.mapM fun file => (w.expectation binding restore file).map (env.previewed file) with
          | error reason => exact Call.leads_pure _
          | ok others => exact Call.leads_pure _

lemma prepared_files {restore : TurnRestoreSet} {files : List TurnRestoreFile}
    {prepared : List (ExpectedResult × InversePreview)} :
    (files.mapM fun file => (w.expectation binding restore file).map (env.previewed file)) =
        .ok prepared ↔
      ∃ expected, List.Forall₂ (w.Expects binding restore) files expected ∧
        prepared = files.zipWith env.previewed expected := by
  have hfile : ∀ (file : TurnRestoreFile) (entry : ExpectedResult × InversePreview),
      (w.expectation binding restore file).map (env.previewed file) = .ok entry ↔
        ∃ expected, w.Expects binding restore file expected ∧ entry = env.previewed file expected := by
    intro file entry
    simp only [← expectation_eq_ok]
    cases w.expectation binding restore file with
    | error reason => simp [Except.map]
    | ok expected =>
        simp only [Except.map, Except.ok.injEq]
        constructor
        · rintro rfl
          exact ⟨expected, rfl, rfl⟩
        · rintro ⟨_, rfl, rfl⟩
          rfl
  simp only [mapM_eq_ok, hfile]
  constructor
  · intro h
    induction h with
    | nil => exact ⟨[], .nil, rfl⟩
    | cons hentry _ ih =>
        obtain ⟨expected, hexpects, rfl⟩ := hentry
        obtain ⟨others, hothers, rfl⟩ := ih
        exact ⟨expected :: others, .cons hexpects hothers, rfl⟩
  · rintro ⟨expected, hexpects, rfl⟩
    induction hexpects with
    | nil => exact .nil
    | cons hentry _ ih => exact .cons ⟨_, hentry, rfl⟩ ih

lemma acquire_elsewhere_leads (henv : env.Dependable) {rootId : PhysicalRootId}
    (hroot : env.physicalRoot 0 workspaceAbsolute ≠ rootId) (mode : AuthorityMode) :
    (acquire env workspaceAbsolute rootId mode).Leads World.Like w
      (.error .repositoryIdentityChanged) w := by
  apply attempt_leads henv
  intro tick
  have hnow : env.physicalRoot tick workspaceAbsolute ≠ rootId :=
    fun h => hroot ((henv.root 0 tick _).trans h)
  simp only [hnow, ne_eq, not_false_eq_true, if_true]

lemma sameRepositoryState_answers (henv : env.Dependable) (captured : GitIdentityV1) :
    (sameRepositoryState env captured).Leads World.Like w
      ((env.gitIdentity 0).sameRepositoryState captured) w := by
  rintro _ ⟨tick, rfl⟩
  refine ⟨{ w with tick := tick + 1 }, ?_, ⟨_, rfl⟩⟩
  have hsame : (env.gitIdentity tick).sameRepositoryState captured =
      (env.gitIdentity 0).sameRepositoryState captured :=
    Bool.eq_iff_iff.mpr ⟨GitIdentityV1.sameRepositoryState_trans (henv.repository 0 tick),
      GitIdentityV1.sameRepositoryState_trans (henv.repository tick 0)⟩
  simp only [sameRepositoryState, gitIdentity, authorityCall, Call.bind_apply, attempt, henv.works,
    Call.pure_apply, hsame]
  rfl

structure World.Prepares (w : World) (env : RestoreEnvironment)
    (snapshotId workspaceAbsolute : String) (binding : ResultBinding) (now : ℕ)
    (set : PreparableSet) (expected : List ExpectedResult) : Prop where
  preparable : w.journal.preparableIn env snapshotId now = .ok set
  root : env.physicalRoot 0 workspaceAbsolute = set.rootId
  git : (env.gitIdentity 0).sameRepositoryState set.git = true
  expects : List.Forall₂ (w.Expects binding set.restore) set.files expected

def World.tokenFor (w : World) (snapshotId workspaceAbsolute : String) (binding : ResultBinding)
    (now : ℕ) (set : PreparableSet) (expected : List ExpectedResult) : PreparedToken :=
  preparedToken snapshotId workspaceAbsolute set
    { mode := .shared, rootId := set.rootId, coordinatorGenerations := w.generations } binding now
    expected

def World.issued (w : World) (env : RestoreEnvironment) (prepared : PreparedToken) : World :=
  { w with
    tokens := Function.update
      (fun digest => (w.tokens digest).filter fun current =>
        decide (current.workspaceId ≠ prepared.workspaceId))
      (env.encoding.sha256 (textBytes env.previewToken)) (some prepared) }

def readyAnswer (env : RestoreEnvironment) (snapshotId : String) (now : ℕ) (set : PreparableSet)
    (expected : List ExpectedResult) : PrepareReady where
  snapshotId := snapshotId
  previewToken := env.previewToken
  expiresAt := env.timestamp (now + tokenLifetime)
  fileCount := set.restore.fileCount
  totalBytes := set.restore.artifactBytes
  files := (set.files.zipWith env.previewed expected).map Prod.snd
  unrelatedPathsAreNotTargets := true

lemma issueToken_leads (prepared : PreparedToken) :
    (issueToken env prepared).Leads World.Like w () (w.issued env prepared) := by
  rintro _ ⟨tick, rfl⟩
  exact ⟨_, rfl, ⟨tick, rfl⟩⟩

lemma Forall₂.previewed_fst {restore : TurnRestoreSet} {files : List TurnRestoreFile}
    {expected : List ExpectedResult} (h : List.Forall₂ (w.Expects binding restore) files expected) :
    (files.zipWith env.previewed expected).map Prod.fst = expected := by
  induction h with
  | nil => rfl
  | cons _ _ ih =>
      rw [List.zipWith_cons_cons, List.map_cons, ih]
      rfl

lemma World.Prepares.leads (henv : env.Dependable) {set : PreparableSet}
    {expected : List ExpectedResult}
    (h : w.Prepares env snapshotId workspaceAbsolute binding now set expected) :
    (prepareAt env snapshotId workspaceAbsolute binding now).Leads World.Like w
      (.ready (readyAnswer env snapshotId now set expected))
      (w.issued env (w.tokenFor snapshotId workspaceAbsolute binding now set expected)) := by
  refine (loadPreparable_leads henv).bind ?_
  rw [h.preparable]
  refine (acquire_leads henv h.root .shared rfl).bind ?_
  dsimp only
  unfold prepareSet
  rw [if_neg (by simp)]
  refine (sameRepositoryState_answers henv set.git).bind ?_
  rw [h.git, if_neg (by simp)]
  refine (prepareFiles_leads henv set.restore set.files).bind ?_
  rw [prepared_files.mpr ⟨expected, h.expects, rfl⟩]
  dsimp only
  rw [Forall₂.previewed_fst h.expects]
  exact (issueToken_leads _).bind (Call.leads_pure _)

lemma prepareAt_leads (henv : env.Dependable) :
    (∃ set expected, w.Prepares env snapshotId workspaceAbsolute binding now set expected) ∨
      ∃ answer, (prepareAt env snapshotId workspaceAbsolute binding now).Leads World.Like w answer w ∧
        ∀ ready, answer ≠ .ready ready := by
  cases hpreparable : w.journal.preparableIn env snapshotId now with
  | error refusal =>
      refine .inr ⟨refusal.intoPrepare snapshotId, ?_, fun ready h => by cases refusal <;> cases h⟩
      refine (loadPreparable_leads henv).bind ?_
      rw [hpreparable]
      exact Call.leads_pure _
  | ok set =>
      have hloads : (loadPreparable env snapshotId now).Leads World.Like w (.ok set) w :=
        hpreparable ▸ loadPreparable_leads henv
      by_cases hroot : env.physicalRoot 0 workspaceAbsolute = set.rootId
      · have hacquires := acquire_leads (w := w) henv hroot .shared rfl
        cases hgit : (env.gitIdentity 0).sameRepositoryState set.git with
        | false =>
            refine .inr ⟨.blocked snapshotId .repositoryIdentityChanged, ?_, fun ready h => by cases h⟩
            refine hloads.bind (hacquires.bind ?_)
            dsimp only
            unfold prepareSet
            rw [if_neg (by simp)]
            refine (sameRepositoryState_answers henv set.git).bind ?_
            rw [hgit, if_pos rfl]
            exact Call.leads_pure _
        | true =>
            have hfiles : (prepareFiles env binding set.restore set.files).Leads World.Like w _ w :=
              prepareFiles_leads henv set.restore set.files
            cases hprepared : set.files.mapM fun file =>
                (w.expectation binding set.restore file).map (env.previewed file) with
            | ok prepared =>
                obtain ⟨expected, hexpects, -⟩ := prepared_files.mp hprepared
                exact .inl ⟨set, expected, hpreparable, hroot, hgit, hexpects⟩
            | error reason =>
                refine .inr ⟨.blocked snapshotId reason, ?_, fun ready h => by cases h⟩
                refine hloads.bind (hacquires.bind ?_)
                dsimp only
                unfold prepareSet
                rw [if_neg (by simp)]
                refine (sameRepositoryState_answers henv set.git).bind ?_
                rw [hgit, if_neg (by simp)]
                rw [hprepared] at hfiles
                exact hfiles.bind (Call.leads_pure _)
      · refine .inr ⟨.blocked snapshotId .repositoryIdentityChanged, ?_, fun ready h => by cases h⟩
        exact hloads.bind ((acquire_elsewhere_leads henv hroot .shared).bind (Call.leads_pure _))

lemma prepareAt_ready (henv : env.Dependable) {ready : PrepareReady}
    (h : prepareAt env snapshotId workspaceAbsolute binding now w = (.ok (.ready ready), u)) :
    ∃ set expected, w.Prepares env snapshotId workspaceAbsolute binding now set expected ∧
      ready = readyAnswer env snapshotId now set expected ∧
      u.Like (w.issued env (w.tokenFor snapshotId workspaceAbsolute binding now set expected)) := by
  rcases prepareAt_leads henv with ⟨set, expected, hprepares⟩ | ⟨answer, hleads, hnot⟩
  · obtain ⟨hready, hlike⟩ := (hprepares.leads henv).answer (World.Like.refl w) h
    cases hready
    exact ⟨set, expected, hprepares, rfl, hlike⟩
  · obtain ⟨hready, -⟩ := hleads.answer (World.Like.refl w) h
    exact absurd hready.symm (hnot ready)

structure JournalStore.Preparable (s : JournalStore) (env : RestoreEnvironment) (snapshotId : String)
    (now : ℕ) (set : PreparableSet) : Prop where
  named : isBlank snapshotId ≠ true
  found : s.restoreSets.rows.find? (fun restore => restore.snapshotId = snapshotId) =
    some set.restore
  loaded : s.loadTurnRestoreSet env.encoding set.restore.restoreSetId =
    .ok (some (set.restore, set.files))
  quiet : s.undoPending snapshotId = false
  eligible : set.restore.state = .eligible
  retained : ∃ expiry, set.restore.expiresAt.bind env.parseTimestamp = some expiry ∧ now < expiry
  root : set.restore.rootId = some set.rootId
  git : set.restore.gitIdentity = some set.git
  manifest : set.restore.manifestDigest = some set.manifestDigest

lemma preparableSet_eq_ok {restore : TurnRestoreSet} {files : List TurnRestoreFile} :
    preparableSet env restore files now = .ok set ↔
      set.restore = restore ∧ set.files = files ∧ restore.state = .eligible ∧
        (∃ expiry, restore.expiresAt.bind env.parseTimestamp = some expiry ∧ now < expiry) ∧
        restore.rootId = some set.rootId ∧ restore.gitIdentity = some set.git ∧
        restore.manifestDigest = some set.manifestDigest := by
  unfold preparableSet
  by_cases heligible : restore.state = .eligible
  · rw [if_neg (not_not.mpr heligible)]
    cases hexpiry : restore.expiresAt.bind env.parseTimestamp with
    | none => simp
    | some expiry =>
        dsimp only
        by_cases hretained : expiry ≤ now
        · simp [hretained, not_lt.mpr hretained]
        · rw [if_neg hretained]
          have hlt : now < expiry := not_le.mp hretained
          cases restore.rootId with
          | none => simp
          | some rootId =>
              cases restore.gitIdentity with
              | none => simp
              | some git =>
                  cases restore.manifestDigest with
                  | none => simp
                  | some digest =>
                      simp only [Except.ok.injEq, Option.some.injEq, exists_eq_left', hlt,
                        heligible, true_and]
                      constructor
                      · rintro rfl
                        exact ⟨rfl, rfl, rfl, rfl, rfl⟩
                      · rintro ⟨rfl, rfl, rfl, rfl, rfl⟩
                        rfl
  · rw [if_pos heligible]
    simp [heligible]

lemma preparableIn_eq_ok :
    s.preparableIn env snapshotId now = .ok set ↔ s.Preparable env snapshotId now set := by
  unfold preparableIn
  constructor
  · intro h
    cases hfound : getTurnRestoreSetBySnapshot env.encoding s snapshotId with
    | error e => rw [hfound] at h; cases h
    | ok found =>
        rw [hfound] at h
        cases found with
        | none => cases h
        | some loaded =>
            obtain ⟨restore, files⟩ := loaded
            dsimp only [flattened] at h
            split at h
            · cases h
            · next hquiet =>
              obtain ⟨rfl, rfl, heligible, hretained, hroot, hgit, hmanifest⟩ :=
                preparableSet_eq_ok.mp h
              have hnamed := snapshot_named hfound
              simp only [getTurnRestoreSetBySnapshot, requireSnapshotId, refuse, if_neg hnamed]
                at hfound
              cases hrow : s.restoreSets.rows.find? fun restore => restore.snapshotId = snapshotId with
              | none => rw [hrow] at hfound; cases hfound
              | some row =>
                  rw [hrow] at hfound
                  have hloaded : s.loadTurnRestoreSet env.encoding row.restoreSetId =
                    .ok (some (set.restore, set.files)) := hfound
                  obtain ⟨hmem, hid, -⟩ := loadTurnRestoreSet_ok hloaded
                  have heq : set.restore = row :=
                    s.restoreSets.eq_of_key hmem (List.mem_of_find?_eq_some hrow) hid
                  exact ⟨hnamed, heq ▸ hrow, heq ▸ hloaded, by simpa using hquiet, heligible,
                    hretained, hroot, hgit, hmanifest⟩
  · intro h
    have hfound : getTurnRestoreSetBySnapshot env.encoding s snapshotId =
        .ok (some (set.restore, set.files)) := by
      simp only [getTurnRestoreSetBySnapshot, requireSnapshotId, refuse, if_neg h.named, h.found]
      exact h.loaded
    rw [hfound]
    dsimp only [flattened]
    rw [if_neg (by simp [h.quiet])]
    exact preparableSet_eq_ok.mpr
      ⟨rfl, rfl, h.eligible, h.retained, h.root, h.git, h.manifest⟩

lemma JournalStore.Preparable.loadedSet (h : s.Preparable env snapshotId now set) :
    LoadedSet env.encoding set.restore set.files :=
  GuardedUndo.loadedSet h.loaded h.eligible

lemma JournalStore.Preparable.snapshot (h : s.Preparable env snapshotId now set) :
    set.restore.snapshotId = snapshotId := by
  simpa using List.find?_some h.found

lemma JournalStore.Preparable.alone (h : s.Preparable env snapshotId now set) :
    ∀ row ∈ s.operations.rows, row.active = true → row.restoreSetId ≠ set.restore.restoreSetId := by
  intro row hrow hactive hset
  have hquiet := h.quiet
  simp only [undoPending, Bool.or_eq_false_iff, List.any_eq_false] at hquiet
  apply hquiet.1 row hrow
  have hfind : s.restoreSets.find? row.restoreSetId = some set.restore :=
    KeyedRows.find?_eq_some.mpr ⟨(loadTurnRestoreSet_ok h.loaded).1, hset.symm⟩
  simp [ofSnapshot, hfind, h.snapshot, hactive]

end Preparation

end DevCommandCenter.GuardedUndo
