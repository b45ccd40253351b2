import DevCommandCenter.GuardedUndo.JournalRuns
import DevCommandCenter.GuardedUndo.OtherUndos
import DevCommandCenter.GuardedUndo.UndoStaging

/-! An undo over its whole life: executed once, and recovered as often as the process is started. -/

namespace DevCommandCenter.GuardedUndo

open Library JournalStore UndoScope

variable {env : RestoreEnvironment} {scope : UndoScope} {s : JournalStore}

section Startup

variable {list : List (UndoOperation × List UndoOperationFile)} {operation : UndoOperation}
  {undoFiles : List UndoOperationFile} {resolve : WorkspaceId → Option String}

structure UndoScope.Listed (scope : UndoScope)
    (list : List (UndoOperation × List UndoOperationFile)) : Prop where
  once : (list.map fun entry => entry.1.operationId).Nodup
  own : ∀ entry ∈ list, ∀ file ∈ entry.2, file.operationId = entry.1.operationId
  apart : ∀ entry ∈ list, entry.1.operationId ≠ scope.id → ∀ file ∈ entry.2,
    file.pathBytes ∈ scope.paths →
      file.exchangeArtifactKey ∉ scope.keys ∧ entry.1.operationId ∉ scope.others

def UndoScope.Current (scope : UndoScope) (list : List (UndoOperation × List UndoOperationFile))
    (d : Durable) : Prop :=
  scope.Guarded d ∧ ∀ entry ∈ list, entry.1.operationId = scope.id →
    scope.Owns entry.2 ∧ scope.Holds entry.2 entry.1.state d

lemma UndoScope.Guarded.aside {start d : Durable} (h : scope.Guarded start)
    (haside : scope.Aside start d) : scope.Guarded d := by
  rcases h with h | ⟨files, state, howns, hholds⟩
  · refine .inl ⟨fun row hrow hid => ?_, haside.apart, fun path hpath => ?_⟩
    · exact h.rows row ((haside.rows row hid).mp hrow) hid
    · exact (haside.targets path hpath).trans (h.targets path hpath)
  · exact .inr ⟨files, state, howns, hholds.aside howns haside⟩

lemma UndoScope.Current.aside {start d : Durable} (h : scope.Current list start)
    (haside : scope.Aside start d) : scope.Current list d :=
  ⟨h.1.aside haside, fun entry hentry hid =>
    ⟨(h.2 entry hentry hid).1, (h.2 entry hentry hid).2.aside (h.2 entry hentry hid).1 haside⟩⟩

lemma UndoScope.Current.tail {entry : UndoOperation × List UndoOperationFile} {d : Durable}
    (h : scope.Current (entry :: list) d) : scope.Current list d :=
  ⟨h.1, fun other hother => h.2 other (List.mem_cons_of_mem _ hother)⟩

lemma UndoScope.Listed.tail {entry : UndoOperation × List UndoOperationFile}
    (h : scope.Listed (entry :: list)) : scope.Listed list where
  once := (List.nodup_cons.mp h.once).2
  own other hother := h.own other (List.mem_cons_of_mem _ hother)
  apart other hother := h.apart other (List.mem_cons_of_mem _ hother)

lemma UndoScope.Listed.rest {entry : UndoOperation × List UndoOperationFile}
    (h : scope.Listed (entry :: list)) (hid : entry.1.operationId = scope.id) {d : Durable}
    (hd : scope.Guarded d) : scope.Current list d := by
  refine ⟨hd, fun other hother hotherId => ?_⟩
  have hnot := (List.nodup_cons.mp h.once).1
  refine absurd (List.mem_map.mpr ⟨other, hother, ?_⟩) hnot
  exact hotherId.trans hid.symm

lemma recoverEntry_triple (hlisted : scope.Listed ((operation, undoFiles) :: list))
    (hothers : operation.operationId ≠ scope.id → operation.state ≠ .recoveryRequired →
      operation.operationId ∈ scope.others) :
    Service.Triple scope.Guarded (scope.Current ((operation, undoFiles) :: list))
      (recoverOperation env resolve operation undoFiles) fun _ => scope.Current list := by
  by_cases hid : operation.operationId = scope.id
  · refine Call.Triple.pre (H := fun d => scope.Owns undoFiles ∧
      scope.Holds undoFiles operation.state d) (.assume fun howns => ?_)
      fun d hd => hd.2 _ List.mem_cons_self hid
    exact ((recoverOperation_triple howns hid resolve).stops fun d hd => .inr hd).post
      fun _ d hd => hlisted.rest hid (.inr hd)
  · by_cases hstate : operation.state = .recoveryRequired
    · unfold recoverOperation
      rw [if_pos hstate]
      exact .pure fun d hd => hd.tail
    · have hother : scope.Other operation.operationId := ⟨hid, hothers hid hstate⟩
      have hfiles : ∀ file ∈ undoFiles, scope.OtherFile operation.operationId file :=
        fun file hfile => ⟨hlisted.own _ List.mem_cons_self file hfile, fun hpath =>
          (hlisted.apart _ List.mem_cons_self hid file hfile hpath).2 hother.mem⟩
      refine (spares_keeps (fun start => recoverOperation_spares hother hfiles resolve)
        (fun d hd => hd.1) (fun d hd => hd.1.apart) fun start d h haside => h.aside haside).post ?_
      exact fun _ d hd => hd.tail

lemma recoverOperations_triple (report : RecoveryReport) (hlisted : scope.Listed list)
    (hothers : ∀ entry ∈ list, entry.1.operationId ≠ scope.id →
      entry.1.state ≠ .recoveryRequired → entry.1.operationId ∈ scope.others) :
    Service.Triple scope.Guarded (scope.Current list) (recoverOperations env resolve report list)
      fun _ => scope.Guarded := by
  induction list generalizing report with
  | nil => exact .pure fun d hd => hd.1
  | cons entry rest ih =>
      obtain ⟨operation, files⟩ := entry
      refine (recoverEntry_triple hlisted (hothers _ List.mem_cons_self)).bind fun outcome => ?_
      exact ih _ hlisted.tail fun other hother => hothers other (List.mem_cons_of_mem _ hother)

lemma cleanupOwn_triple (howns : scope.Owns undoFiles) (hid : operation.operationId = scope.id)
    (hinactive : operation.state.inactive = true) :
    Service.Triple scope.Sound (scope.Holds undoFiles operation.state)
      (cleanupOperation env resolve operation undoFiles) fun _ => scope.Sound := by
  refine (getTurnRestoreSet_triple (holds_sound howns) _).bind fun loaded => ?_
  cases loaded with
  | none => exact .pure (holds_sound howns)
  | some loaded =>
      obtain ⟨restore, restoreFiles⟩ := loaded
      dsimp only
      split
      · exact .pure (holds_sound howns)
      refine (acquire_triple (holds_sound howns) _ _ _).bind fun authority => ?_
      cases authority with
      | error reason => exact .pure (holds_sound howns)
      | ok authority =>
          rw [hid]
          exact (cleanupAndFinish_triple howns hinactive).post fun _ => holds_sound howns

lemma cleanupEntry_triple (hlisted : scope.Listed ((operation, undoFiles) :: list))
    (hinactive : operation.operationId = scope.id → operation.state.inactive = true) :
    Service.Triple scope.Guarded (scope.Current ((operation, undoFiles) :: list))
      (cleanupOperation env resolve operation undoFiles) fun _ => scope.Current list := by
  by_cases hid : operation.operationId = scope.id
  · refine Call.Triple.pre (H := fun d => scope.Owns undoFiles ∧
      scope.Holds undoFiles operation.state d) (.assume fun howns => ?_)
      fun d hd => hd.2 _ List.mem_cons_self hid
    exact ((cleanupOwn_triple howns hid (hinactive hid)).stops fun d hd => .inr hd).post
      fun _ d hd => hlisted.rest hid (.inr hd)
  · refine (spares_keeps (fun start => cleanupOperation_spares hid (fun file hfile hpath =>
      (hlisted.apart _ List.mem_cons_self hid file hfile hpath).1) resolve)
      (fun d hd => hd.1) (fun d hd => hd.1.apart) fun start d h haside => h.aside haside).post ?_
    exact fun _ d hd => hd.tail

lemma cleanupOperations_triple (hlisted : scope.Listed list)
    (hinactive : ∀ entry ∈ list, entry.1.operationId = scope.id → entry.1.state.inactive = true) :
    Service.Triple scope.Guarded (scope.Current list) (cleanupOperations env resolve list)
      fun _ => scope.Guarded := by
  induction list with
  | nil => exact .pure fun d hd => hd.1
  | cons entry rest ih =>
      obtain ⟨operation, files⟩ := entry
      refine (cleanupEntry_triple hlisted (hinactive _ List.mem_cons_self)).bind fun _ => ?_
      exact ih hlisted.tail fun other hother => hinactive other (List.mem_cons_of_mem _ hother)

structure Lists (s : JournalStore) (p : UndoOperationRow → Bool)
    (list : List (UndoOperation × List UndoOperationFile)) : Prop where
  once : (list.map fun entry => entry.1.operationId).Nodup
  loaded : ∀ entry ∈ list, ∃ row ∈ s.operations.rows, p row = true ∧
    entry = (row.toUndoOperation, s.operationFilesOf row.operationId)

lemma loadAll_lists {encoding : JournalEncoding} {rows : List UndoOperationRow} {missing : String}
    {p : UndoOperationRow → Bool} (hrows : rows.Perm (s.operations.rows.filter p))
    (h : s.loadAll encoding rows missing = .ok list) : Lists s p list := by
  have hmem : ∀ row ∈ rows, row ∈ s.operations.rows ∧ p row = true := fun row hrow =>
    List.mem_filter.mp (hrows.subset hrow)
  have hlist : list = rows.map fun row =>
      (row.toUndoOperation, s.operationFilesOf row.operationId) := by
    refine eq_map_of_mapM_eq_ok h fun row hrow entry hentry => ?_
    obtain ⟨loaded, hload, hdemand⟩ := except_bind_eq_ok.mp hentry
    have hsome := demand_eq_ok.mp hdemand
    subst hsome
    obtain ⟨operation, files⟩ := entry
    obtain ⟨row', hrow', hid, rfl, rfl⟩ := loadUndoOperation_ok hload
    rw [s.operations.eq_of_key hrow' (hmem row hrow).1 hid]
  subst hlist
  refine ⟨?_, fun entry hentry => ?_⟩
  · rw [List.map_map]
    exact (hrows.map _).nodup_iff.mpr
      (s.operations.unique.sublist (List.filter_sublist.map _))
  · obtain ⟨row, hrow, rfl⟩ := List.mem_map.mp hentry
    exact ⟨row, (hmem row hrow).1, (hmem row hrow).2, rfl⟩

lemma Lists.listed {p : UndoOperationRow → Bool} (h : Lists s p list) (hapart : scope.Apart s) :
    scope.Listed list where
  once := h.once
  own entry hentry file hfile := by
    obtain ⟨row, -, -, rfl⟩ := h.loaded entry hentry
    exact (mem_operationFilesOf.mp hfile).2
  apart entry hentry hne file hfile hpath := by
    obtain ⟨row, -, -, rfl⟩ := h.loaded entry hentry
    obtain ⟨hmem, hid⟩ := mem_operationFilesOf.mp hfile
    have hfiles := hapart.files file hmem (by rw [hid]; exact hne) hpath
    rw [hid] at hfiles
    exact hfiles

lemma Lists.current {p : UndoOperationRow → Bool} {d : Durable} (h : Lists d.journal p list)
    (hguarded : scope.Guarded d) : scope.Current list d := by
  refine ⟨hguarded, fun entry hentry hid => ?_⟩
  obtain ⟨row, hrow, -, rfl⟩ := h.loaded entry hentry
  rcases hguarded with hunrecorded | ⟨files, state, howns, hholds⟩
  · exact absurd hid (hunrecorded.rows row hrow)
  · obtain ⟨own, hown, hownId, hstate, -⟩ := hholds.1.row
    have heq : row = own := d.journal.operations.eq_of_key hrow hown (hid.trans hownId.symm)
    subst heq
    change scope.Owns (d.journal.operationFilesOf row.operationId) ∧
      scope.Holds (d.journal.operationFilesOf row.operationId) row.state d
    rw [hownId, hstate]
    refine ⟨howns.reload hholds.1, hholds.1.reload, fun file hfile => ?_⟩
    obtain ⟨original, horiginal, halike⟩ := hholds.1.covered file hfile
    exact (hholds.2 original horiginal).alike halike

lemma UndoScope.Guarded.inactive {d : Durable} (h : scope.Guarded d) {row : UndoOperationRow}
    (hrow : row ∈ d.journal.operations.rows) (hid : row.operationId = scope.id)
    (hactive : row.active = false) : row.state.inactive = true := by
  rcases h with hunrecorded | ⟨files, state, -, hholds⟩
  · exact absurd hid (hunrecorded.rows row hrow)
  · obtain ⟨own, hown, hownId, rfl, hownActive⟩ := hholds.1.row
    have heq : row = own := d.journal.operations.eq_of_key hrow hown (hid.trans hownId.symm)
    subst heq
    simpa [hactive] using hownActive

theorem recoverStartup_triple :
    Service.Triple scope.Guarded scope.Guarded (recoverStartup env resolve)
      fun _ => scope.Guarded := by
  refine (repositoryRead_triple (fun _ h => h) _).bind fun answer => ?_
  cases answer with
  | error e => exact .pure fun d hd => hd.1
  | ok operations =>
      refine Call.Triple.pre (H := fun d => (scope.Listed operations ∧ ∀ entry ∈ operations,
        entry.1.operationId ≠ scope.id → entry.1.state ≠ .recoveryRequired →
          entry.1.operationId ∈ scope.others) ∧ scope.Current operations d)
        (.assume fun ⟨hlisted, hothers⟩ => ?_) ?_
      · refine (recoverOperations_triple _ hlisted hothers).bind fun report => ?_
        refine (repositoryRead_triple (fun _ h => h) _).bind fun answer => ?_
        cases answer with
        | error e => exact .pure fun d hd => hd.1
        | ok cleanups =>
            refine Call.Triple.pre (H := fun d => (scope.Listed cleanups ∧ ∀ entry ∈ cleanups,
              entry.1.operationId = scope.id → entry.1.state.inactive = true) ∧
                scope.Current cleanups d) (.assume fun ⟨hlisted, hinactive⟩ => ?_) ?_
            · exact (cleanupOperations_triple hlisted hinactive).bind fun _ => .pure fun _ h => h
            · intro d hd
              have hlists : Lists d.journal (fun row => !row.active && row.cleanupPending) cleanups :=
                loadAll_lists (List.perm_insertionSort _ _) (hd.2 cleanups rfl)
              refine ⟨⟨hlists.listed hd.1.apart, fun entry hentry hid => ?_⟩, hlists.current hd.1⟩
              obtain ⟨row, hrow, hp, rfl⟩ := hlists.loaded entry hentry
              simp only [Bool.and_eq_true, Bool.not_eq_true'] at hp
              exact hd.1.inactive hrow hid hp.1
      · intro d hd
        have hlists : Lists d.journal (fun row => row.active) operations :=
          loadAll_lists (List.perm_insertionSort _ _) (hd.2 operations rfl)
        refine ⟨⟨hlists.listed hd.1.apart, fun entry hentry hne hstate => ?_⟩, hlists.current hd.1⟩
        obtain ⟨row, hrow, hp, rfl⟩ := hlists.loaded entry hentry
        exact (hd.1.apart.rows row hrow hne hp).resolve_left hstate

end Startup

section Life

def World.previewed (w : World) (env : RestoreEnvironment) (previewToken : String) :
    List TurnRestoreFile :=
  match w.tokens (env.encoding.sha256 (textBytes previewToken)) with
  | none => []
  | some prepared => w.journal.restoreFilesOf prepared.restoreSetId

structure World.LeavesAlone (w : World) (env : RestoreEnvironment) (files : List TurnRestoreFile) :
    Prop where
  newOperation : ∀ row ∈ w.journal.operations.rows, row.operationId ≠ env.operationId
  newFiles : ∀ file ∈ w.journal.operationFiles.rows, file.operationId ≠ env.operationId
  newKeys : ∀ file ∈ w.journal.operationFiles.rows, ∀ index,
    file.exchangeArtifactKey ≠ env.exchangeKey index
  paths : ∀ file ∈ w.journal.operationFiles.rows,
    file.pathBytes ∈ files.map TurnRestoreFile.pathBytes → ∀ row ∈ w.journal.operations.rows,
      row.operationId = file.operationId → row.active = true → row.state = .recoveryRequired

/-- What starts of the process, as many as there are, make of what was there. Each finds on the disk
what the one before has left, and may itself stop anywhere. -/
inductive Restarted : Durable → Durable → Prop
  | refl (d : Durable) : Restarted d d
  | start {d : Durable} {w : World} (h : Restarted d w.durable) (env : RestoreEnvironment)
      (resolve : WorkspaceId → Option String) :
      Restarted d (recoverStartup env resolve w).2.durable

/-- All of an undo, or nothing of it: `before` is what the targets of `restored` held at first. -/
structure AllOrNothing (id : UndoOperationId) (restored : List TurnRestoreFile)
    (before : OpaqueRepoPath → Option FileEvidence) (d : Durable) : Prop where
  unrecorded : (∀ row ∈ d.journal.operations.rows, row.operationId ≠ id) →
    ∀ file ∈ restored, d.disk.targets file.pathBytes = before file.pathBytes
  journalled : ∀ row ∈ d.journal.operations.rows, row.operationId = id → ∀ file ∈ restored,
    ∃ journal ∈ d.journal.operationFilesOf id, journal.pathBytes = file.pathBytes ∧
      journal.preSize = file.preSize ∧ journal.preSha256 = file.preSha256
  expected : ∀ row ∈ d.journal.operations.rows, row.operationId = id →
    ∀ file ∈ d.journal.operationFilesOf id, before file.pathBytes = some (resultEvidence file)
  either : ∀ row ∈ d.journal.operations.rows, row.operationId = id →
    ∀ file ∈ d.journal.operationFilesOf id, d.disk.Untouched file ∨ d.disk.Restored file
  completed : ∀ row ∈ d.journal.operations.rows, row.operationId = id → row.state = .completed →
    ∀ file ∈ d.journal.operationFilesOf id, d.disk.Restored file
  rolledBack : ∀ row ∈ d.journal.operations.rows, row.operationId = id → row.state = .rolledBack →
    ∀ file ∈ d.journal.operationFilesOf id, d.disk.Untouched file

lemma UndoDisk.Fits.either {disk : UndoDisk} {file : UndoOperationFile} {state : UndoOperationState}
    (h : disk.Fits file state) : disk.Untouched file ∨ disk.Restored file := by
  cases state with
  | preparing | prepared | rolledBack | blocked => exact .inl h
  | completed => exact .inr h
  | applying | verifying | rollingBack | recoveryRequired | unknown _ => exact h.imp_right And.left

lemma UndoScope.Guarded.allOrNothing {d : Durable} (h : scope.Guarded d) :
    AllOrNothing scope.id scope.restored scope.before d := by
  rcases h with h | ⟨files, state, howns, hledger, hfits⟩
  · exact {
      unrecorded := fun _ file hfile => h.targets _ (List.mem_map_of_mem hfile)
      journalled := fun row hrow hid => absurd hid (h.rows row hrow)
      expected := fun row hrow hid => absurd hid (h.rows row hrow)
      either := fun row hrow hid => absurd hid (h.rows row hrow)
      completed := fun row hrow hid => absurd hid (h.rows row hrow)
      rolledBack := fun row hrow hid => absurd hid (h.rows row hrow) }
  · obtain ⟨own, hown, hownId, hownState, -⟩ := hledger.row
    have hreloaded := howns.reload hledger
    have hreached : ∀ row ∈ d.journal.operations.rows, row.operationId = scope.id →
        ∀ file ∈ d.journal.operationFilesOf scope.id, d.disk.Fits file row.state := by
      intro row hrow hid file hfile
      have heq : row = own := d.journal.operations.eq_of_key hrow hown (hid.trans hownId.symm)
      obtain ⟨original, horiginal, halike⟩ := hledger.covered file hfile
      rw [heq, hownState]
      exact (hfits original horiginal).alike halike
    exact {
      unrecorded := fun hnone => absurd hownId (hnone own hown)
      journalled := fun _ _ _ => hreloaded.covers
      expected := fun _ _ _ => hreloaded.before
      either := fun row hrow hid file hfile => (hreached row hrow hid file hfile).either
      completed := fun row hrow hid hstate file hfile => by
        have hfit := hreached row hrow hid file hfile
        rw [hstate] at hfit
        exact hfit
      rolledBack := fun row hrow hid hstate file hfile => by
        have hfit := hreached row hrow hid file hfile
        rw [hstate] at hfit
        exact hfit }

lemma UndoScope.Guarded.restarted {d e : Durable} (h : scope.Guarded d) (hrun : Restarted d e) :
    scope.Guarded e := by
  induction hrun with
  | refl => exact h
  | @start w _ env resolve ih =>
      have hstart := @recoverStartup_triple env scope resolve w ih
      rcases hrun : recoverStartup env resolve w with ⟨e | report, u⟩ <;> rwa [hrun] at hstart

/-- However an undo fails and wherever the process stops, while it is carried out and in every start
after that: recorded as completed, all its targets hold their preimages; recorded as rolled back, all
hold what they held before; and at no time does a target hold anything else. -/
theorem undo_all_or_nothing {previewToken : String} {confirmed : Bool} {now : ℕ} {w : World}
    (halone : w.LeavesAlone env (w.previewed env previewToken)) {d : Durable}
    (hrun : Restarted (executeAt env previewToken confirmed now w).2.durable d) :
    AllOrNothing env.operationId (w.previewed env previewToken) w.targets d := by
  let scope : UndoScope := {
    id := env.operationId
    restored := w.previewed env previewToken
    before := w.targets
    keys := Set.range env.exchangeKey
    others := fun id => ∃ row ∈ w.journal.operations.rows, row.operationId = id ∧
      row.active = true ∧ row.state ≠ .recoveryRequired }
  have hstart : scope.Startable env w.journal := {
    id := rfl
    keys := Set.mem_range_self
    apart := {
      files := fun file hfile _ hpath => ⟨fun ⟨index, hkey⟩ => halone.newKeys file hfile index hkey.symm,
        fun ⟨row, hrow, hid, hactive, hstate⟩ =>
          hstate (halone.paths file hfile hpath row hrow hid hactive)⟩
      rows := fun row hrow _ hactive => by
        by_cases hstate : row.state = .recoveryRequired
        · exact .inl hstate
        · exact .inr ⟨row, hrow, rfl, hactive, hstate⟩ }
    rows := halone.newOperation
    files := halone.newFiles }
  have hguarded : scope.Guarded (executeAt env previewToken confirmed now w).2.durable := by
    refine executeAt_guarded hstart rfl fun prepared hprepared => ?_
    simp only [scope, World.previewed, hprepared]
  exact (hguarded.restarted hrun).allOrNothing

def demoPrepared : PreparedToken where
  snapshotId := "snapshot"
  workspaceId := ⟨"workspace"⟩
  workspaceAbsolute := "/workspace"
  restoreSetId := ⟨"set"⟩
  rootId := demoWorktree
  git := demoGit
  manifestDigest := demoHash
  coordinatorGenerations := { worktree := 0, gitDir := 0, commonDir := 0 }
  expiresAt := 5
  binding := .turnResult
  expected := [{
    evidence := { size := 4, sha256 := demoHash, metadata := demoMetadata 1 }
    chainedFrom := none }]

def demoWorld : World where
  journal := demoJournalStore
  targets := fun path =>
    if path = demoRestoreFile.pathBytes then
      some { size := 4, sha256 := demoHash, metadata := demoMetadata 1 }
    else none
  siblings := fun _ _ => none
  exchanges := 0
  generations := { worktree := 0, gitDir := 0, commonDir := 0 }
  tokens := fun _ => some demoPrepared
  tick := 0

def demoRestore (verdict : ℕ → Verdict) : RestoreEnvironment where
  encoding := demoJournalEncoding
  verdict := verdict
  physicalRoot := fun _ _ => demoWorktree
  gitIdentity := fun _ => demoGit
  stagedMetadata := fun _ _ => demoMetadata 2
  previewAgainst := fun file _ => {
    displayPath := "a"
    size := file.preSize
    binary := false
    preview := none }
  clock := fun tick => tick
  timestamp := fun _ => "t2"
  parseTimestamp := fun _ => some 9
  previewToken := "preview"
  operationId := ⟨"undo"⟩
  exchangeKey := fun _ => demoKey

def demoStopped (tick : ℕ) : World :=
  (executeAt (demoRestore fun now => if now = tick then .crashes else .works) "preview" true 1
    demoWorld).2

def demoStarted (tick : ℕ) : World :=
  (recoverStartup (demoRestore fun _ => .works) (fun _ => some "/workspace") (demoStopped tick)).2

theorem undo_all_or_nothing_demo :
    (demoStopped 14).journal.operations.rows.map (fun row => row.state) = [.applying] ∧
      (demoStarted 12).journal.operations.rows.map (fun row => row.state) = [.rolledBack] ∧
      (demoStarted 14).journal.operations.rows.map (fun row => row.state) = [.completed] ∧
      AllOrNothing ⟨"undo"⟩ [demoRestoreFile] demoWorld.targets (demoStarted 14).durable := by
  have halone : demoWorld.LeavesAlone
      (demoRestore fun now => if now = 14 then .crashes else .works)
      (demoWorld.previewed (demoRestore fun now => if now = 14 then .crashes else .works)
        "preview") := {
    newOperation := fun row hrow => by cases hrow
    newFiles := fun file hfile => by cases hfile
    newKeys := fun file hfile => by cases hfile
    paths := fun file hfile => by cases hfile }
  exact ⟨by decide +kernel, by decide +kernel, by decide +kernel, undo_all_or_nothing halone
    (.start (.refl (demoStopped 14).durable) (demoRestore fun _ => .works)
      fun _ => some "/workspace")⟩

end Life

end DevCommandCenter.GuardedUndo
