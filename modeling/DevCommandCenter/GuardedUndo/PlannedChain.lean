import DevCommandCenter.GuardedUndo.ChainedUndos

/-! A chain of undos that was planned is carried out as planned. -/

namespace DevCommandCenter.GuardedUndo

open Library JournalStore

section Planned

variable {env : RestoreEnvironment} {w w' u : World} {now : ℕ} {pending : PendingRestores}
  {restore : TurnRestoreSet} {workspaceAbsolute : String}

lemma loadSets_ok (henv : env.Dependable) {ids : List String} {sets : List (String × PreparableSet)}
    (hlike : w'.Like w) (h : loadSets env now ids w' = (.ok (.ok sets), u)) :
    u.Like w ∧ List.Forall₂ (fun id entry => entry.1 = id ∧
      w.journal.Preparable env id now entry.2) ids sets := by
  induction ids generalizing w' sets with
  | nil =>
      cases h
      exact ⟨hlike, .nil⟩
  | cons id rest ih =>
      obtain ⟨found, v, hload, h⟩ := Call.bind_ok_iff.mp h
      obtain ⟨hanswer, hv⟩ := (loadPreparable_leads henv).answer hlike hload
      cases found with
      | error refusal => cases h
      | ok set =>
          obtain ⟨others, v', hloads, h⟩ := Call.bind_ok_iff.mp h
          cases others with
          | error answer => cases h
          | ok others =>
              cases h
              obtain ⟨hlike', hothers⟩ := ih hv hloads
              exact ⟨hlike', .cons ⟨rfl, preparableIn_eq_ok.mp hanswer.symm⟩ hothers⟩

lemma planTarget_ok (henv : env.Dependable) {file : TurnRestoreFile} {preview : InversePreview}
    (hlike : w'.Like w) (h : planTarget env restore pending file w' = (.ok (.ok preview), u)) :
    u.Like w ∧ w.PlansFile pending restore file := by
  unfold planTarget at h
  unfold World.PlansFile
  cases hpending : pending file.pathBytes with
  | some newer =>
      simp only [hpending] at h ⊢
      split at h
      · cases h
      · next hleaves =>
        have hpreview : (chainedInversePreview env file newer).Leads World.Like w
            (if newer.pathBytes ≠ file.pathBytes ∨ newer.preSize ≠ file.resultSize ∨
                newer.preSha256 ≠ file.resultSha256 then .error .targetResultMismatch
              else .ok (env.previewAgainst file newer.preSha256)) w := by
          apply attempt_leads henv
          intro tick
          split <;> rfl
        exact ⟨(hpreview.answer hlike h).2, by simpa using hleaves⟩
  | none =>
      simp only [hpending] at h ⊢
      obtain ⟨target, v, hinspect, h⟩ := Call.bind_ok_iff.mp h
      obtain ⟨hanswer, hv⟩ := (inspectTarget_leads henv _).answer hlike hinspect
      cases target with
      | error reason => cases h
      | ok current =>
          have htarget : w.targets file.pathBytes = some current := demand_eq_ok.mp hanswer.symm
          obtain ⟨found, v', hfind, h⟩ := Call.bind_ok_iff.mp h
          obtain ⟨hanswer, hv'⟩ := (expectedResult_leads henv _ _ _ _).answer hv hfind
          cases found with
          | error reason => cases h
          | ok expected =>
              have hpreview : (inversePreview env file).Leads World.Like w
                  (if current.sha256 ≠ file.resultSha256 then .error .targetResultMismatch
                    else .ok (env.previewAgainst file current.sha256)) w := by
                apply attempt_leads henv
                intro tick
                simp only [htarget]
                split <;> rfl
              exact ⟨(hpreview.answer hv' h).2, expected, current, htarget, hanswer.symm⟩

lemma planFiles_ok (henv : env.Dependable) {files : List TurnRestoreFile}
    {previews : List InversePreview} (hlike : w'.Like w)
    (h : planFiles env restore pending files w' = (.ok (.ok previews), u)) :
    u.Like w ∧ ∀ file ∈ files, w.PlansFile pending restore file := by
  induction files generalizing w' previews with
  | nil =>
      cases h
      exact ⟨hlike, by simp⟩
  | cons file rest ih =>
      obtain ⟨preview, v, hplan, h⟩ := Call.bind_ok_iff.mp h
      cases preview with
      | error reason => cases h
      | ok preview =>
          obtain ⟨others, v', hplans, h⟩ := Call.bind_ok_iff.mp h
          cases others with
          | error reason => cases h
          | ok others =>
              cases h
              obtain ⟨verified, v'', hverify, hplan⟩ := Call.bind_ok_iff.mp hplan
              obtain ⟨rfl, hv''⟩ := (verifyPreimage_leads henv _ _ _).answer hlike hverify
              obtain ⟨hv, hfile⟩ := planTarget_ok henv hv'' hplan
              obtain ⟨hv', hrest⟩ := ih hv hplans
              refine ⟨hv', fun other hmem => ?_⟩
              rcases List.mem_cons.mp hmem with rfl | hmem
              · exact hfile
              · exact hrest other hmem

lemma planSets_ok (henv : env.Dependable) {tick : ℕ} {sets : List (String × PreparableSet)}
    {planned : List PlannedRestore} (hlike : w'.Like w)
    (h : planSets env (env.gitIdentity tick) pending sets w' = (.ok (.ok planned), u)) :
    u.Like w ∧ w.PlansSets env pending (sets.map Prod.snd) := by
  induction sets generalizing w' u pending planned with
  | nil =>
      cases h
      exact ⟨hlike, trivial⟩
  | cons entry rest ih =>
      obtain ⟨snapshotId, set⟩ := entry
      unfold planSets at h
      split at h
      · cases h
      · next hgit =>
        obtain ⟨previews, v, hplan, h⟩ := Call.bind_ok_iff.mp h
        cases previews with
        | error reason => cases h
        | ok previews =>
            obtain ⟨others, v', hplans, h⟩ := Call.bind_ok_iff.mp h
            cases others with
            | error answer => cases h
            | ok others =>
                obtain ⟨hv, hfiles⟩ := planFiles_ok henv hlike hplan
                cases h
                obtain ⟨hv', hrest⟩ := ih hv hplans
                refine ⟨hv', ?_, hfiles, hrest⟩
                have hsame : set.git.sameRepositoryState (env.gitIdentity tick) = true := by
                  simpa using hgit
                exact GitIdentityV1.sameRepositoryState_trans (henv.repository 0 tick)
                  (GitIdentityV1.sameRepositoryState_symm hsame)

lemma loadSets_error {ids : List String} {answer : PlanGuardedUndoChainResult}
    (h : loadSets env now ids w = (.ok (.error answer), u)) (planned : List PlannedRestore) :
    answer ≠ .ready planned := by
  induction ids generalizing w u with
  | nil => cases h
  | cons id rest ih =>
      obtain ⟨found, v, -, h⟩ := Call.bind_ok_iff.mp h
      cases found with
      | error refusal =>
          cases h
          cases refusal <;> simp [SetRefusal.intoPlan]
      | ok set =>
          obtain ⟨others, v', hloads, h⟩ := Call.bind_ok_iff.mp h
          cases others with
          | error other =>
              cases h
              exact ih hloads
          | ok others => cases h

lemma planSets_error {git : GitIdentityV1} {sets : List (String × PreparableSet)}
    {answer : PlanGuardedUndoChainResult}
    (h : planSets env git pending sets w = (.ok (.error answer), u)) (planned : List PlannedRestore) :
    answer ≠ .ready planned := by
  induction sets generalizing w u pending with
  | nil => cases h
  | cons entry rest ih =>
      obtain ⟨snapshotId, set⟩ := entry
      unfold planSets at h
      split at h
      · cases h
        simp
      · obtain ⟨previews, v, -, h⟩ := Call.bind_ok_iff.mp h
        cases previews with
        | error reason =>
            cases h
            simp
        | ok previews =>
            obtain ⟨others, v', hplans, h⟩ := Call.bind_ok_iff.mp h
            cases others with
            | error other =>
                cases h
                exact ih hplans
            | ok others => cases h

structure World.Plans (w : World) (env : RestoreEnvironment) (workspaceAbsolute : String) (now : ℕ)
    (workspaceId : WorkspaceId) (rootId : PhysicalRootId) (ids : List String)
    (sets : List PreparableSet) : Prop where
  preparable : List.Forall₂ (fun id set => w.journal.Preparable env id now set) ids sets
  workspace : ∀ set ∈ sets, set.restore.workspaceId = workspaceId ∧ set.rootId = rootId
  root : sets ≠ [] → env.physicalRoot 0 workspaceAbsolute = rootId
  planned : w.PlansSets env (fun _ => none) sets

theorem planChainAt_ready (henv : env.Dependable) {ids : List String}
    {planned : List PlannedRestore}
    (h : planChainAt env ids workspaceAbsolute now w = (.ok (.ready planned), u)) :
    u.Like w ∧
      ∃ workspaceId rootId sets, w.Plans env workspaceAbsolute now workspaceId rootId ids sets := by
  obtain ⟨found, v, hload, h⟩ := Call.bind_ok_iff.mp h
  cases found with
  | error answer =>
      cases h
      exact absurd rfl (loadSets_error hload planned)
  | ok sets =>
      obtain ⟨hv, hsets⟩ := loadSets_ok henv (World.Like.refl w) hload
      have hpreparable : List.Forall₂ (fun id set => w.journal.Preparable env id now set) ids
          (sets.map Prod.snd) :=
        List.forall₂_map_right_iff.mpr (hsets.imp fun _ _ h => h.2)
      cases sets with
      | nil =>
          cases h
          exact ⟨hv, ⟨""⟩, env.physicalRoot 0 workspaceAbsolute, [], hpreparable, by simp, by simp, trivial⟩
      | cons entry rest =>
          obtain ⟨snapshotId, first⟩ := entry
          simp only at h
          cases hstray : ((snapshotId, first) :: rest).find? fun set =>
              decide (set.2.restore.workspaceId ≠ first.restore.workspaceId ∨
                set.2.rootId ≠ first.rootId) with
          | some set =>
              rw [hstray] at h
              cases h
          | none =>
            rw [hstray] at h
            obtain ⟨authority, v', hacquire, h⟩ := Call.bind_ok_iff.mp h
            by_cases hroot : env.physicalRoot 0 workspaceAbsolute = first.rootId
            · obtain ⟨rfl, hv'⟩ := (acquire_leads henv hroot .shared rfl).answer hv hacquire
              dsimp only at h
              unfold planWith at h
              rw [if_neg (by simp)] at h
              obtain ⟨identity, v₁, hidentity, h⟩ := Call.bind_ok_iff.mp h
              rw [gitIdentity_run henv] at hidentity
              cases hidentity
              dsimp only at h
              obtain ⟨plans, v₂, hplans, h⟩ := Call.bind_ok_iff.mp h
              cases plans with
              | error answer =>
                  cases h
                  exact absurd rfl (planSets_error hplans planned)
              | ok plans =>
                  have hlike : v'.next.Like w := by
                    obtain ⟨tick, rfl⟩ := hv'
                    exact ⟨_, rfl⟩
                  cases h
                  obtain ⟨hu, hall⟩ := planSets_ok henv hlike hplans
                  refine ⟨hu, first.restore.workspaceId, first.rootId, _, hpreparable, ?_, fun _ => hroot,
                    hall⟩
                  intro set hset
                  obtain ⟨entry, hentry, rfl⟩ := List.mem_map.mp hset
                  have hnot := List.find?_eq_none.mp hstray entry hentry
                  simpa using hnot
            · obtain ⟨rfl, -⟩ := (acquire_elsewhere_leads henv hroot .shared).answer hv hacquire
              cases h

end Planned

section Chained

variable {env : RestoreEnvironment} {w z : World} {pending : PendingRestores}
  {restore : TurnRestoreSet} {workspaceId : WorkspaceId} {rootId : PhysicalRootId}
  {path : OpaqueRepoPath}

/-- The undos, each prepared as its predecessor has left the disk, and executed at once. -/
inductive CarriedOut (workspaceAbsolute : String) : List ChainUndo → World → World → Prop
  | nil (w : World) : CarriedOut workspaceAbsolute [] w w
  | cons {undo : ChainUndo} {rest : List ChainUndo} {ready : PrepareReady} {w u v z : World}
      (prepare : prepareAt undo.env undo.snapshotId workspaceAbsolute .afterCompletedUndo
        undo.preparedAt w = (.ok (.ready ready), u))
      (execute : executeAt undo.env ready.previewToken true undo.executedAt u =
        (.ok (.completed undo.env.operationId), v))
      (others : CarriedOut workspaceAbsolute rest v z) :
      CarriedOut workspaceAbsolute (undo :: rest) w z

def AuthorityGenerations.advance (generations : AuthorityGenerations) : AuthorityGenerations where
  worktree := generations.worktree + 1
  gitDir := generations.gitDir + 1
  commonDir := generations.commonDir + 1

/-- The undos follow on one machine, where what they draw is new and no retention runs out. -/
structure World.Follows (w : World) (env : RestoreEnvironment) (undos : List ChainUndo) : Prop where
  machine : ∀ undo ∈ undos, undo.OnMachine env
  newOperations : ∀ undo ∈ undos, ∀ row ∈ w.journal.operations.rows,
    row.operationId ≠ undo.env.operationId
  free : ∀ undo ∈ undos, ∀ path index, w.siblings path (undo.env.exchangeKey index) = none
  later : ∀ undo ∈ undos, ∀ row ∈ w.journal.operations.rows, ∀ completed ∈ row.completedAt,
    completed < undo.completedAt
  apart : undos.Pairwise fun a b => a.env.operationId ≠ b.env.operationId ∧
    (∀ i j, a.env.exchangeKey i ≠ b.env.exchangeKey j) ∧ a.completedAt < b.completedAt
  room : w.generations.worktree + undos.length ≤ generationMax ∧
    w.generations.gitDir + undos.length ≤ generationMax ∧
    w.generations.commonDir + undos.length ≤ generationMax

lemma World.Follows.next {undo : ChainUndo} {rest : List ChainUndo}
    (h : w.Follows env (undo :: rest)) : w.generations.next = some w.generations.advance := by
  obtain ⟨hworktree, hgitDir, hcommonDir⟩ := h.room
  simp only [List.length_cons] at hworktree hgitDir hcommonDir
  have hroom : ∀ generation, generation + (rest.length + 1) ≤ generationMax →
      nextGeneration generation = some (generation + 1) := by
    intro generation hle
    exact if_pos (by omega)
  simp only [AuthorityGenerations.next, hroom _ hworktree, hroom _ hgitDir, hroom _ hcommonDir]
  rfl

lemma World.Follows.rest {undo : ChainUndo} {rest : List ChainUndo} {set : PreparableSet}
    {row : UndoOperationRow} {journalFiles : List UndoOperationFile}
    (h : w.Follows env (undo :: rest)) (hleaves : undo.Leaves env w z set row journalFiles)
    (hgenerations : z.generations = w.generations.advance) : z.Follows env rest := by
  obtain ⟨hfirst, hrest⟩ := List.pairwise_cons.mp h.apart
  have hrows : ∀ other ∈ z.journal.operations.rows, other ∈ w.journal.operations.rows ∨ other = row := by
    intro other hother
    rw [hleaves.finished.operations] at hother
    exact (List.mem_append.mp hother).imp_right List.mem_singleton.mp
  refine {
    machine := fun other hmem => h.machine other (List.mem_cons_of_mem _ hmem)
    newOperations := fun other hmem found hfound => ?_
    free := fun other hmem path index => ?_
    later := fun other hmem found hfound completed hcompleted => ?_
    apart := hrest
    room := ?_ }
  · rcases hrows found hfound with hold | rfl
    · exact h.newOperations other (List.mem_cons_of_mem _ hmem) found hold
    · rw [hleaves.operation]
      exact (hfirst other hmem).1
  · rw [hleaves.same.siblings path _ ?_]
    · exact h.free other (List.mem_cons_of_mem _ hmem) path index
    · rintro ⟨i, hi⟩
      exact (hfirst other hmem).2.1 i index hi
  · rcases hrows found hfound with hold | rfl
    · exact h.later other (List.mem_cons_of_mem _ hmem) found hold completed hcompleted
    · cases hleaves.stamped.symm.trans hcompleted
      exact (hfirst other hmem).2.2
  · obtain ⟨hworktree, hgitDir, hcommonDir⟩ := h.room
    simp only [List.length_cons] at hworktree hgitDir hcommonDir
    simp only [hgenerations, AuthorityGenerations.advance]
    omega

def PendingRestores.afterSets (pending : PendingRestores) (sets : List PreparableSet) :
    PendingRestores :=
  sets.foldl (fun pending set => pending.extend set.files) pending

lemma afterSets_none {sets : List PreparableSet} {set : PreparableSet}
    (h : pending.afterSets (set :: sets) path = none) :
    pending path = none ∧ path ∉ set.files.map TurnRestoreFile.pathBytes := by
  have hextended : pending.extend set.files path = none := by
    change (pending.extend set.files).afterSets sets path = none at h
    induction sets generalizing pending set with
    | nil => exact h
    | cons next sets ih => exact (extend_none.mp (ih h)).1
  exact extend_none.mp hextended

theorem World.Follows.carriedOut {undos : List ChainUndo} {sets : List PreparableSet} {now : ℕ}
    {workspaceAbsolute : String} (hfollows : w.Follows env undos)
    (hpreparable : List.Forall₂ (fun undo set => w.journal.Preparable env undo.snapshotId now set)
      undos sets)
    (hworkspace : ∀ set ∈ sets, set.restore.workspaceId = workspaceId ∧ set.rootId = rootId)
    (hroot : sets ≠ [] → env.physicalRoot 0 workspaceAbsolute = rootId)
    (hretained : List.Forall₂ (fun (undo : ChainUndo) (set : PreparableSet) =>
      ∀ expiry ∈ set.restore.expiresAt.bind env.parseTimestamp,
        undo.preparedAt < expiry ∧ undo.executedAt < expiry) undos sets)
    (hdistinct : sets.Pairwise fun a b => a.restore.restoreSetId ≠ b.restore.restoreSetId)
    (hstate : w.ChainState env workspaceId rootId pending sets) :
    ∃ z, CarriedOut workspaceAbsolute undos w z ∧
      z.ChainState env workspaceId rootId (pending.afterSets sets) [] ∧
      ∀ path, pending.afterSets sets path = none → z.targets path = w.targets path := by
  induction undos generalizing w pending sets with
  | nil =>
      cases hpreparable
      exact ⟨w, .nil w, hstate, fun _ _ => rfl⟩
  | cons undo undos ih =>
      obtain ⟨set, rest, hset, hsets, rfl⟩ := List.forall₂_cons_left_iff.mp hpreparable
      obtain ⟨hretains, hretained⟩ := List.forall₂_cons.mp hretained
      obtain ⟨hother, hdistinct⟩ := List.pairwise_cons.mp hdistinct
      obtain ⟨hws, hrootId⟩ := hworkspace set List.mem_cons_self
      have hundo := hfollows.machine undo List.mem_cons_self
      have hnew := hfollows.newOperations undo List.mem_cons_self
      obtain ⟨ready, u, v, row, journalFiles, hprepare, hexecute, hgenerations, hleaves⟩ :=
        ChainUndo.made hundo hstate hset hws hrootId (hroot (List.cons_ne_nil _ _)) hnew
          (hfollows.free undo List.mem_cons_self) hretains hfollows.next
      have hrest : List.Forall₂ (fun undo set => v.journal.Preparable env undo.snapshotId now set)
          undos rest := by
        refine List.forall₂_iff_get.mpr ⟨hsets.length_eq, fun i hi hi' => ?_⟩
        refine hleaves.finished.preparable (hsets.get hi hi') hleaves.inactive hleaves.clean ?_
        rw [hleaves.ofSet]
        exact (hother _ (List.get_mem _ _)).symm
      obtain ⟨z, hcarried, hfinal, hkept⟩ := ih (hfollows.rest hleaves hgenerations) hrest
        (fun other hmem => hworkspace other (List.mem_cons_of_mem _ hmem))
        (fun _ => hroot (List.cons_ne_nil _ _)) hretained hdistinct
        (hleaves.chainState hundo hstate hset hws hrootId hnew
          (hfollows.later undo List.mem_cons_self) hother)
      refine ⟨z, .cons hprepare hexecute hcarried, hfinal, fun path hpath => ?_⟩
      rw [hkept path hpath]
      exact hleaves.same.targets path (afterSets_none hpath).2

lemma afterSets_eq (sets : List PreparableSet) :
    pending.afterSets sets = pending.extend (sets.flatMap PreparableSet.files) := by
  induction sets generalizing pending with
  | nil => rfl
  | cons set rest ih =>
      rw [List.flatMap_cons, PendingRestores.extend, List.foldl_append]
      exact ih

lemma extend_last {newer older : List TurnRestoreFile} {file : TurnRestoreFile}
    (hlast : ∀ other ∈ older, other.pathBytes ≠ file.pathBytes) :
    pending.extend (newer ++ file :: older) file.pathBytes = some file := by
  have hsplit : pending.extend (newer ++ file :: older) =
      PendingRestores.extend (Function.update (pending.extend newer) file.pathBytes (some file))
        older := by
    rw [PendingRestores.extend, List.foldl_append]
    rfl
  cases hfound : pending.extend (newer ++ file :: older) file.pathBytes with
  | none =>
      rw [hsplit, extend_none, Function.update_self] at hfound
      cases hfound.1
  | some found =>
      rw [hsplit] at hfound
      rcases extend_some hfound with ⟨hmem, hpath⟩ | ⟨hupdated, -⟩
      · exact absurd hpath (hlast found hmem)
      · rw [Function.update_self] at hupdated
        exact hupdated.symm

def World.chainFiles (w : World) (snapshotIds : List String) : List TurnRestoreFile :=
  snapshotIds.flatMap fun snapshotId =>
    match w.journal.restoreSets.rows.find? fun restore => restore.snapshotId = snapshotId with
    | none => []
    | some restore => w.journal.restoreFilesOf restore.restoreSetId

lemma chainFiles_eq {now : ℕ} {ids : List String} {sets : List PreparableSet}
    (h : List.Forall₂ (fun id set => w.journal.Preparable env id now set) ids sets) :
    w.chainFiles ids = sets.flatMap PreparableSet.files := by
  induction h with
  | nil => rfl
  | cons hset _ ih =>
      rw [World.chainFiles, List.flatMap_cons, hset.found, List.flatMap_cons, ← ih]
      exact congrArg (· ++ _) (loadTurnRestoreSet_ok hset.loaded).2.2.symm

lemma distinct_sets {now : ℕ} {ids : List String} {sets : List PreparableSet}
    (h : List.Forall₂ (fun id set => w.journal.Preparable env id now set) ids sets)
    (hnodup : ids.Nodup) :
    sets.Pairwise fun a b => a.restore.restoreSetId ≠ b.restore.restoreSetId := by
  induction h with
  | nil => exact .nil
  | @cons id set ids sets hset hsets ih =>
      obtain ⟨hfresh, hnodup⟩ := List.nodup_cons.mp hnodup
      refine List.pairwise_cons.mpr ⟨fun other hother heq => ?_, ih hnodup⟩
      obtain ⟨id', hid', hset'⟩ := exists_of_forall₂ hsets.flip hother
      have hsame : set.restore = other.restore :=
        w.journal.restoreSets.eq_of_key (loadTurnRestoreSet_ok hset.loaded).1
          (loadTurnRestoreSet_ok hset'.loaded).1 heq
      apply hfresh
      rw [← hset.snapshot, hsame, hset'.snapshot]
      exact hid'

/-- A chain that was planned can be carried out. Each undo in turn is ready and completes, and at the
end every file that the chain touches holds what it held before the oldest turn that touched it. -/
theorem planned_chain_carried_out {u : World} {now : ℕ} {workspaceAbsolute : String}
    (henv : env.Dependable) (hkept : w.journal.WellKept env.encoding) {undos : List ChainUndo}
    {planned : List PlannedRestore}
    (hplan : planChainAt env (undos.map ChainUndo.snapshotId) workspaceAbsolute now w =
      (.ok (.ready planned), u))
    (hnodup : (undos.map ChainUndo.snapshotId).Nodup) (hfollows : w.Follows env undos)
    (hretained : ∀ undo ∈ undos, ∀ restore ∈ w.journal.restoreSets.rows,
      restore.snapshotId = undo.snapshotId →
        ∀ expiry ∈ restore.expiresAt.bind env.parseTimestamp,
          undo.preparedAt < expiry ∧ undo.executedAt < expiry) :
    ∃ z, CarriedOut workspaceAbsolute undos u z ∧
      (∀ newer file older,
        w.chainFiles (undos.map ChainUndo.snapshotId) = newer ++ file :: older →
          (∀ other ∈ older, other.pathBytes ≠ file.pathBytes) →
            ∃ m, m.sameAttributes file.metadataFingerprint = true ∧ z.targets file.pathBytes =
              some { size := file.preSize, sha256 := file.preSha256, metadata := m }) ∧
      ∀ path ∉ (w.chainFiles (undos.map ChainUndo.snapshotId)).map TurnRestoreFile.pathBytes,
        z.targets path = w.targets path := by
  obtain ⟨⟨tick, rfl⟩, workspaceId, rootId, sets, hplans⟩ := planChainAt_ready henv hplan
  have hpreparable := List.forall₂_map_left_iff.mp hplans.preparable
  have hretains : List.Forall₂ (fun (undo : ChainUndo) (set : PreparableSet) =>
      ∀ expiry ∈ set.restore.expiresAt.bind env.parseTimestamp,
        undo.preparedAt < expiry ∧ undo.executedAt < expiry) undos sets := by
    refine List.forall₂_iff_get.mpr ⟨hpreparable.length_eq, fun i hi hi' => ?_⟩
    have hset := hpreparable.get hi hi'
    exact hretained _ (List.get_mem _ _) _ (loadTurnRestoreSet_ok hset.loaded).1 hset.snapshot
  have hfollows' : World.Follows { w with tick := tick } env undos :=
    ⟨hfollows.machine, hfollows.newOperations, hfollows.free, hfollows.later, hfollows.apart,
      hfollows.room⟩
  have hstate : World.ChainState { w with tick := tick } env workspaceId rootId (fun _ => none)
      sets := {
    kept := hkept
    sourced := fun path newer h => by cases h
    plans := hplans.planned.kept (fun _ _ => rfl) fun _ _ _ _ => rfl }
  obtain ⟨z, hcarried, hfinal, huntouched⟩ := hfollows'.carriedOut
    hpreparable hplans.workspace hplans.root hretains
    (distinct_sets hplans.preparable hnodup) hstate
  rw [afterSets_eq, ← chainFiles_eq hplans.preparable] at hfinal huntouched
  refine ⟨z, hcarried, fun newer file older hfiles hlast => ?_, fun path hpath => ?_⟩
  · rw [hfiles] at hfinal
    obtain ⟨-, -, m, _, _, hsource⟩ := hfinal.sourced _ file (extend_last hlast)
    exact ⟨m, hsource.attributes, hsource.target⟩
  · exact huntouched path (extend_none.mpr ⟨rfl, hpath⟩)

def demoOlderFile : TurnRestoreFile :=
  { demoRestoreFile with
    restoreSetId := ⟨"older"⟩
    preSize := 2
    resultSize := 3
    metadataFingerprint := demoMetadata 5 }

def demoChainWorld : World :=
  { demoWorld with
    journal := {
      restoreSets := ⟨[demoRestoreSet,
        { demoRestoreSet with
          restoreSetId := ⟨"older"⟩
          snapshotId := "older"
          artifactBytes := 2 }], by decide⟩
      restoreFiles := ⟨[demoRestoreFile, demoOlderFile], by decide⟩
      operations := .empty
      operationFiles := .empty } }

def demoOlderDrawn : RestoreEnvironment :=
  { demoDrawn with
    operationId := ⟨"undo older"⟩
    timestamp := fun _ => "t3"
    exchangeKey := fun index => ⟨Fin.ofNat 256 index :: List.replicate 15 1, rfl⟩ }

def demoChain : List ChainUndo :=
  [{ snapshotId := "snapshot", env := demoDrawn, preparedAt := 1, executedAt := 2 },
    { snapshotId := "older", env := demoOlderDrawn, preparedAt := 3, executedAt := 4 }]

def demoPlan : Except Stopped PlanGuardedUndoChainResult × World :=
  planChainAt demoDrawn (demoChain.map ChainUndo.snapshotId) "/workspace" 1 demoChainWorld

def demoPlanned : List PlannedRestore :=
  [{ snapshotId := "snapshot", fileCount := 1, totalBytes := 3,
     files := [{ displayPath := "a", size := 3, binary := false, preview := none }] },
    { snapshotId := "older", fileCount := 1, totalBytes := 2,
      files := [{ displayPath := "a", size := 2, binary := false, preview := none }] }]

lemma demoChain_machine : ∀ undo ∈ demoChain, undo.OnMachine demoDrawn := by
  have hdependable := demoDrawn_dependable
  intro undo hundo
  rcases List.mem_cons.mp hundo with rfl | hundo
  · exact {
      dependable := hdependable
      encoding := rfl
      parse := rfl
      root := fun _ => rfl
      git := hdependable.repository 0 0
      named := by decide +kernel
      short := by decide +kernel
      distinct := demoDrawn_distinct
      lives := by decide }
  · obtain rfl := List.mem_singleton.mp hundo
    exact {
      dependable := ⟨hdependable.works, hdependable.repository, hdependable.root,
        hdependable.stagedValid, hdependable.stagedAttributes, hdependable.stagedFits,
        hdependable.metadataJson, hdependable.identityJson⟩
      encoding := rfl
      parse := rfl
      root := fun _ => rfl
      git := hdependable.repository 0 0
      named := by decide +kernel
      short := by decide +kernel
      distinct := by
        intro i hi j hj h
        simp only [demoOlderDrawn, ArtifactKey.mk.injEq, List.cons.injEq, Fin.ext_iff,
          Fin.val_ofNat, and_true] at h
        rwa [Nat.mod_eq_of_lt (show i < 256 from hi), Nat.mod_eq_of_lt (show j < 256 from hj)] at h
      lives := by decide }

lemma demoChain_follows : demoChainWorld.Follows demoDrawn demoChain where
  machine := demoChain_machine
  newOperations := fun _ _ row hrow => by cases hrow
  free := fun _ _ _ _ => rfl
  later := fun _ _ row hrow => by cases hrow
  apart := by
    refine List.pairwise_pair.mpr ⟨by decide, fun i j h => ?_, by decide⟩
    simp [demoDrawn, demoOlderDrawn] at h
  room := by decide

theorem planned_chain_carried_out_demo :
    demoPlan.1 = .ok (.ready demoPlanned) ∧
      ∃ z, CarriedOut "/workspace" demoChain demoPlan.2 z ∧
        ∃ m, z.targets ⟨[1, 1, 97]⟩ =
          some { size := 2, sha256 := demoHash, metadata := m } := by
  have hready : demoPlan.1 = .ok (.ready demoPlanned) := by decide +kernel
  have hkept : demoChainWorld.journal.WellKept demoDrawn.encoding := {
    owned := fun file hfile => by cases hfile
    paths := fun file hfile => by cases hfile
    names := fun row hrow => by cases hrow
    identities := fun row hrow => by cases hrow
    staged := fun file hfile => by cases hfile }
  have hretained : ∀ undo ∈ demoChain, ∀ restore ∈ demoChainWorld.journal.restoreSets.rows,
      restore.snapshotId = undo.snapshotId →
        ∀ expiry ∈ restore.expiresAt.bind demoDrawn.parseTimestamp,
          undo.preparedAt < expiry ∧ undo.executedAt < expiry := by
    decide +kernel
  obtain ⟨z, hcarried, holdest, -⟩ := planned_chain_carried_out demoDrawn_dependable hkept
    (Prod.ext hready rfl) (by decide) demoChain_follows hretained
  obtain ⟨m, -, htarget⟩ := holdest [demoRestoreFile] demoOlderFile [] (by decide +kernel) (by simp)
  exact ⟨hready, z, hcarried, m, htarget⟩

end Chained

end DevCommandCenter.GuardedUndo
