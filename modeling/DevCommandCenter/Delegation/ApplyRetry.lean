import DevCommandCenter.Delegation.ApplyRollback

/-! Applying once more what is applied. -/

namespace DevCommandCenter.Delegation

open Library GuardedUndo

def PostThere (host : ApplyHost) (manifest : Manifest) (disk : ApplyDisk) : Prop :=
  ∀ file ∈ manifest.files, currentSnapshot host disk.destination.tree file.path = .ok file.post

def PostCommitted (source : FileTree) (manifest : Manifest) (git : GitState) : Prop :=
  ∀ entry ∈ git.head, ∀ file ∈ manifest.files, entry.1 = file.path →
    ∃ node, source.file? file.path = some node ∧ node.bytes = entry.2.1 ∧ isExecutable node = entry.2.2

def performReadOnly (c : ApplyCall) (fault : Option String) (disk : ApplyDisk) :
    Option (Except String c.Reply × ApplyDisk) :=
  match c with
  | .look => performApply .look fault disk
  | _ => none

inductive Retried (host : ApplyHost) (transactionId digest : String) (start : ApplyDisk) : ApplyDisk → Prop
  | start : Retried host transactionId digest start start
  | again {disk rest : ApplyDisk} {result : Except String ApplyOutput}
      (earlier : Retried host transactionId digest start disk)
      (run : (applyPreparedArtifacts host transactionId digest).run performApply none disk =
        some (result, rest)) : Retried host transactionId digest start rest

section Applied

variable {host : ApplyHost} {transactionId digest : String} {before after base disk : ApplyDisk}
  {manifest : Manifest} {file : FileArtifact} {output : ApplyOutput} {α : Type}

lemma looks_performReadOnly : Looks performReadOnly :=
  fun _ => rfl

lemma of_run_reading {f : ApplyDisk → Except String α} {a : α} {rest : ApplyDisk}
    (h : (reading f).run performApply none disk = some (.ok a, rest)) : rest = disk ∧ f disk = .ok a := by
  rw [run_reading looks_performApply] at h
  cases hresult : f disk <;> rw [hresult] at h <;> cases h
  exact ⟨rfl, rfl⟩

lemma of_run_check {f : ApplyDisk → Except String α} {k : α → ApplyProgram ApplyOutput}
    {rest : ApplyDisk} (h : (reading f >>= k).run performApply none disk = some (.ok output, rest)) :
    ∃ a, f disk = .ok a ∧ (k a).run performApply none disk = some (.ok output, rest) := by
  obtain ⟨a, next, hread, hrest⟩ := Program.of_run_bind h
  obtain ⟨rfl, ha⟩ := of_run_reading hread
  exact ⟨a, ha, hrest⟩

lemma of_run_classify {k : ApplyClassification → ApplyProgram ApplyOutput} {rest : ApplyDisk}
    (h : (classifyDestination host manifest >>= k).run performApply none disk =
      some (.ok output, rest)) :
    (k (classifyManifest host manifest disk.destination.tree)).run performApply none disk =
      some (.ok output, rest) := by
  rwa [Program.run_bind (run_classifyDestination looks_performApply)] at h

structure Shrunk (disk rest : ApplyDisk) : Prop where
  source : rest.source = disk.source
  git : rest.destination.git = disk.destination.git
  transactions : rest.transactions = disk.transactions
  files : ∀ path node, rest.destination.tree.file? path = some node →
    disk.destination.tree.file? path = some node

lemma shrunk_refl (disk : ApplyDisk) : Shrunk disk disk :=
  ⟨rfl, rfl, rfl, fun _ _ h => h⟩

lemma Shrunk.trans {rest rest' : ApplyDisk} (h : Shrunk disk rest) (h' : Shrunk rest rest') :
    Shrunk disk rest' :=
  ⟨h'.source.trans h.source, h'.git.trans h.git, h'.transactions.trans h.transactions,
    fun path node hnode => h.files path node (h'.files path node hnode)⟩

lemma shrunk_delete (disk : ApplyDisk) (path : RelativePath) :
    Shrunk disk (disk.setTree (disk.destination.tree.delete path)) := by
  refine ⟨rfl, rfl, rfl, fun other node hnode => ?_⟩
  dsimp only [ApplyDisk.setTree] at hnode
  rw [FileTree.file?_delete] at hnode
  split at hnode
  · cases hnode
  · exact hnode

lemma Shrunk.absent {rest : ApplyDisk} (h : Shrunk disk rest) {path : RelativePath}
    (habsent : disk.destination.tree.file? path = none) : rest.destination.tree.file? path = none := by
  rw [Option.eq_none_iff_forall_ne_some]
  intro node hnode
  rw [h.files path node hnode] at habsent
  cases habsent

lemma Shrunk.noDirectory {rest : ApplyDisk} (h : Shrunk disk rest) {path : RelativePath}
    (hdirectory : disk.destination.tree.isDirectory path = false) :
    rest.destination.tree.isDirectory path = false := by
  rw [Bool.eq_false_iff] at hdirectory ⊢
  intro hrest
  obtain ⟨below, node, hnode, habove⟩ := FileTree.isDirectory_iff.mp hrest
  exact hdirectory (FileTree.isDirectory_iff.mpr ⟨below, node, h.files below node hnode, habove⟩)

theorem of_run_reconcile {files : List FileArtifact} {rest : ApplyDisk}
    (h : (reconcileDestinationTemporaryFiles host transactionId files).run performApply none disk =
      some (.ok (), rest)) : Shrunk disk rest ∧ ∀ file ∈ files,
        rest.destination.tree.file? (temporaryPath host transactionId file.path) = none ∧
        rest.destination.tree.isDirectory (temporaryPath host transactionId file.path) = false := by
  induction files generalizing disk with
  | nil =>
      cases h
      exact ⟨shrunk_refl _, List.forall_mem_nil _⟩
  | cons file files ih =>
      obtain ⟨found, next, hread, hcontinue⟩ := Program.of_run_bind h
      obtain ⟨rfl, hfound⟩ := of_run_reading hread
      obtain ⟨-, -, ⟨rfl, habsent, hdirectory⟩ | ⟨rfl, node, hnode, -⟩⟩ := knownTemporaryFile_ok hfound
      · obtain ⟨hshrunk, hfiles⟩ := ih hcontinue
        exact ⟨hshrunk, List.forall_mem_cons.mpr
          ⟨⟨hshrunk.absent habsent, hshrunk.noDirectory hdirectory⟩, hfiles⟩⟩
      · have hremove : performApply (.removeFile (temporaryPath host transactionId file.path)) none
            next = some (.ok (), next.setTree
              (next.destination.tree.delete (temporaryPath host transactionId file.path))) := by
          dsimp only [performApply]
          rw [hnode]
        dsimp only at hcontinue
        rw [Program.run_bind (run_call hremove),
          Program.run_bind (run_call (performApply_syncDirectory _ _))] at hcontinue
        obtain ⟨hshrunk, hfiles⟩ := ih hcontinue
        have hgone : (next.setTree (next.destination.tree.delete
            (temporaryPath host transactionId file.path))).destination.tree.file?
              (temporaryPath host transactionId file.path) = none := by
          dsimp only [ApplyDisk.setTree]
          rw [FileTree.file?_delete, if_pos rfl]
        have hdirectory := (shrunk_delete next (temporaryPath host transactionId file.path)).noDirectory
          (FileTree.isDirectory_of_file hnode)
        refine ⟨(shrunk_delete next _).trans hshrunk, List.forall_mem_cons.mpr ⟨?_, hfiles⟩⟩
        exact ⟨hshrunk.absent hgone, hshrunk.noDirectory hdirectory⟩

lemma gitReady_of_checks {worktree : Worktree} {side : GitSide} {identity : ApplyIdentity}
    (hroot : ensureGitRoot worktree side = .ok ()) (hoperation : ensureNoOperationInProgress worktree = .ok ())
    (hidentity : ensureIdentity worktree identity side = .ok ()) : GitReady worktree.git identity := by
  simp only [ensureIdentity, except_bind_eq_ok, refuse_eq_ok, not_not] at hidentity
  obtain ⟨current, hcurrent, _, rfl, -⟩ := hidentity
  obtain ⟨hfilled, hsame⟩ := inspectIdentity_eq_ok.mp hcurrent
  have hworktree := refuse_eq_ok.mp hroot
  exact ⟨by simpa using hworktree, ensureNoOperationInProgress_eq_ok.mp hoperation, hfilled, hsame⟩

structure Applied (host : ApplyHost) (transactionId : String) (manifest : Manifest)
    (disk settled rest : ApplyDisk) : Prop where
  destination : GitReady disk.destination.git manifest.destination
  source : GitReady disk.source.git manifest.source
  reconciled : (reconcileDestinationTemporaryFiles host transactionId manifest.files).run performApply
    none disk = some (.ok (), settled)
  clean : settled.destination.isClean = true
  sides : (classifyManifest host manifest settled.destination.tree = .allPost ∧ rest = settled) ∨
    classifyManifest host manifest settled.destination.tree = .allPre ∧
      (installFiles host transactionId manifest.files).run performApply none settled =
        some (.ok (), rest) ∧
      classifyManifest host manifest rest.destination.tree = .allPost

theorem of_run_apply {rest : ApplyDisk}
    (hloads : loadManifest host transactionId digest disk = .ok manifest)
    (h : (applyPreparedArtifacts host transactionId digest).run performApply none disk =
      some (.ok output, rest)) :
    output = applyOutput manifest ∧ ∃ settled, Applied host transactionId manifest disk settled rest := by
  obtain ⟨loaded, hloaded, h⟩ := of_run_check h
  rw [hloads] at hloaded
  obtain rfl := Except.ok.inj hloaded
  obtain ⟨_, hgit, h⟩ := of_run_check h
  obtain ⟨_, hdestination, h⟩ := of_run_check h
  obtain ⟨_, hsource, h⟩ := of_run_check h
  obtain ⟨_, settled, hreconciled, h⟩ := Program.of_run_bind h
  obtain ⟨_, -, h⟩ := of_run_check h
  obtain ⟨_, hclean, h⟩ := of_run_check h
  have hend := of_run_classify h
  simp only [except_bind_eq_ok] at hgit
  obtain ⟨_, hroot, _, hsourceRoot, _, hoperation, hsourceOperation⟩ := hgit
  have hready := gitReady_of_checks hroot hoperation hdestination
  have hsourceReady := gitReady_of_checks hsourceRoot hsourceOperation hsource
  have hclean : settled.destination.isClean = true := by simpa using refuse_eq_ok.mp hclean
  cases hclass : classifyManifest host manifest settled.destination.tree with
  | mixedKnown | divergent =>
      rw [hclass] at hend
      cases hend
  | allPost =>
      rw [hclass] at hend
      cases hend
      exact ⟨rfl, _, hready, hsourceReady, hreconciled, hclean, .inl ⟨hclass, rfl⟩⟩
  | allPre =>
      rw [hclass] at hend
      dsimp only at hend
      obtain ⟨_, installed, hinstalled, hend⟩ := Program.of_run_bind hend
      obtain ⟨_, -, hend⟩ := of_run_check hend
      have hlast := of_run_classify hend
      by_cases hpost : classifyManifest host manifest installed.destination.tree = .allPost
      · rw [if_neg (not_not.mpr hpost)] at hlast
        cases hlast
        exact ⟨rfl, settled, hready, hsourceReady, hreconciled, hclean, .inr ⟨hclass, hinstalled, hpost⟩⟩
      · rw [if_pos hpost] at hlast
        cases hlast

end Applied

def applyClassified (host : ApplyHost) (transactionId : String) (manifest : Manifest) :
    ApplyClassification → ApplyProgram ApplyOutput
  | .allPost => return applyOutput manifest
  | .mixedKnown => .fail "destination contains a partially applied delegation"
  | .divergent => .fail "destination diverged from the frozen delegation artifact"
  | .allPre => do
      installFiles host transactionId manifest.files
      checkDestination manifest
      let classification ← classifyDestination host manifest
      if classification ≠ .allPost then .fail "delegation apply did not produce the frozen postimage"
      else return applyOutput manifest

section Retry

variable {host : ApplyHost} {transactionId digest : String} {before after disk settled applied : ApplyDisk}
  {manifest : Manifest} {file : FileArtifact} {output : ApplyOutput}

lemma isClean_iff {worktree : Worktree} : worktree.isClean = true ↔ ∀ entry ∈ worktree.git.head,
    ∃ node, worktree.tree.file? entry.1 = some node ∧ node.bytes = entry.2.1 ∧
      isExecutable node = entry.2.2 := by
  simp only [Worktree.isClean, List.all_eq_true, Option.any_eq_true, decide_eq_true_eq]

lemma isExecutable_installed (node : FileNode) : isExecutable node.installed = isExecutable node := by
  simp only [isExecutable, FileNode.installed, fileMode]
  congr 1
  rw [eq_iff_iff]
  omega

lemma Applied.shrunk (h : Applied host transactionId manifest disk settled applied) :
    Shrunk disk settled :=
  (of_run_reconcile h.reconciled).1

lemma Applied.current (h : Applied host transactionId manifest disk settled applied)
    (hfile : file ∈ manifest.files) : settled.destination.tree.Fits file.path ∧
      file.Known (snapshotOf host (settled.destination.tree.file? file.path)) := by
  rcases h.sides with ⟨hpost, -⟩ | ⟨hpre, -⟩
  · obtain ⟨-, hfits, hsnapshot⟩ := currentSnapshot_eq_ok.mp (current_of_allPost hpost file hfile)
    exact ⟨hfits, .inr hsnapshot.symm⟩
  · obtain ⟨-, hfits, hsnapshot⟩ := currentSnapshot_eq_ok.mp (current_of_allPre hpre file hfile)
    exact ⟨hfits, .inl hsnapshot.symm⟩

lemma Applied.sound (h : Applied host transactionId manifest disk settled applied)
    (hdigests : host.DigestsFit)
    (hfrozen : FrozenApply host transactionId digest before after manifest)
    (hnew : ∀ file ∈ manifest.files, NewIn transactionId file.path)
    (hsame : disk.transactions = after.transactions) :
    Sound host transactionId digest before after settled manifest :=
  ⟨hdigests, hfrozen, h.shrunk.transactions.trans hsame, hnew, fun _ hfile => (h.current hfile).1,
    fun file hfile => ((of_run_reconcile h.reconciled).2 file hfile).2⟩

lemma Applied.absent (h : Applied host transactionId manifest disk settled applied)
    (hfile : file ∈ manifest.files) :
    settled.destination.tree.file? (temporaryPath host transactionId file.path) = none :=
  ((of_run_reconcile h.reconciled).2 file hfile).1

lemma Applied.midway (h : Applied host transactionId manifest disk settled applied) :
    Midway host transactionId settled manifest settled := by
  refine ⟨rfl, rfl, rfl, fun file hfile => (h.current hfile).2, fun file hfile node hnode => ?_,
    fun _ _ => rfl⟩
  rw [h.absent hfile] at hnode
  cases hnode

lemma Applied.installed (h : Applied host transactionId manifest disk settled applied)
    (hsound : Sound host transactionId digest before after settled manifest)
    (hinstalled : (installFiles host transactionId manifest.files).run performApply none settled =
      some (.ok (), applied)) :
    Midway host transactionId settled manifest applied ∧
      (∀ file ∈ manifest.files, applied.destination.tree.file? file.path =
        (before.source.tree.file? file.path).map FileNode.installed) ∧
      ∀ path, (∀ file ∈ manifest.files, path ≠ file.path) →
        applied.destination.tree.file? path = settled.destination.tree.file? path := by
  obtain ⟨rest, hrun, hmidway, hfiles, hothers⟩ := h.midway.run_installFiles hsound
    (fun _ hfile => hfile) hsound.frozen.nodup fun _ hfile => h.absent hfile
  rw [hrun] at hinstalled
  cases hinstalled
  exact ⟨hmidway, hfiles, hothers⟩

lemma Applied.end_midway (h : Applied host transactionId manifest disk settled applied)
    (hsound : Sound host transactionId digest before after settled manifest) :
    Midway host transactionId settled manifest applied ∧ (∀ file ∈ manifest.files,
      applied.destination.tree.file? (temporaryPath host transactionId file.path) = none) ∧
    classifyManifest host manifest applied.destination.tree = .allPost := by
  rcases h.sides with ⟨hpost, rfl⟩ | ⟨-, hinstalled, hpost⟩
  · exact ⟨h.midway, fun _ hfile => h.absent hfile, hpost⟩
  · obtain ⟨hmidway, -, hothers⟩ := h.installed hsound hinstalled
    refine ⟨hmidway, fun file hfile => ?_, hpost⟩
    rw [hothers _ fun other hother => (hsound.new other hother).ne_temporary.symm]
    exact h.absent hfile

lemma Midway.run_apply_checks {base : ApplyDisk} (h : Midway host transactionId base manifest disk)
    (hsound : Sound host transactionId digest before after base manifest)
    (hready : GitReady disk.destination.git manifest.destination)
    (hsourceReady : GitReady disk.source.git manifest.source)
    (habsent : ∀ file ∈ manifest.files,
      disk.destination.tree.file? (temporaryPath host transactionId file.path) = none)
    {perform : (c : ApplyCall) → Option String → ApplyDisk → Option (Except String c.Reply × ApplyDisk)}
    (hperform : Looks perform) :
    (applyPreparedArtifacts host transactionId digest).run perform none disk =
      if disk.destination.isClean = true then
        (applyClassified host transactionId manifest
          (classifyManifest host manifest disk.destination.tree)).run perform none disk
      else some (.error "destination Git worktree is not clean", disk) := by
  have hload := run_check hperform
    (hsound.frozen.loads disk (h.transactions.trans hsound.transactions))
  have hgit : (reading fun disk => do
      ensureGitRoot disk.destination .destination
      ensureGitRoot disk.source .source
      ensureNoOperationInProgress disk.destination
      ensureNoOperationInProgress disk.source).run perform none disk = some (.ok (), disk) := by
    refine run_check hperform ?_
    simp only [except_bind_eq_ok]
    exact ⟨(), hready.root_ok, (), hsourceReady.root_ok, (), hready.operation_ok,
      hsourceReady.operation_ok⟩
  have hcheck : (checkDestination manifest).run perform none disk = some (.ok (), disk) :=
    run_check hperform hready.identity_ok
  have hsourceCheck : (reading fun disk => ensureIdentity disk.source manifest.source .source).run
      perform none disk = some (.ok (), disk) := run_check hperform hsourceReady.identity_ok
  have hreconcile := h.run_reconcile_idle hsound (fun _ hfile => hfile) habsent hperform
  have hclean := @run_reading disk _ _ hperform fun disk =>
    ensureCleanRepository disk.destination .destination
  have hclassify := @run_classifyDestination host manifest disk _ hperform
  rw [applyPreparedArtifacts, Program.run_bind hload, Program.run_bind hgit, Program.run_bind hcheck,
    Program.run_bind hsourceCheck, Program.run_bind hreconcile, Program.run_bind hcheck]
  split
  · next hclean' =>
      have hcleanOk : ensureCleanRepository disk.destination .destination = .ok () :=
        refuse_eq_ok.mpr (by simp [hclean'])
      rw [hcleanOk] at hclean
      rw [Program.run_bind hclean, Program.run_bind hclassify]
      rfl
  · next hdirty =>
      have hcleanError : ensureCleanRepository disk.destination .destination =
          .error "destination Git worktree is not clean" := by
        rw [Bool.not_eq_true] at hdirty
        simp only [ensureCleanRepository, refuse, hdirty, if_true]
        rfl
      rw [hcleanError] at hclean
      rw [Program.run_bind_error hclean]

theorem Applied.run_again (h : Applied host transactionId manifest disk settled applied)
    (hsound : Sound host transactionId digest before after settled manifest)
    {perform : (c : ApplyCall) → Option String → ApplyDisk → Option (Except String c.Reply × ApplyDisk)}
    (hperform : Looks perform) :
    (applyPreparedArtifacts host transactionId digest).run perform none applied =
      some (if applied.destination.isClean = true then .ok (applyOutput manifest)
        else .error "destination Git worktree is not clean", applied) := by
  obtain ⟨hmidway, habsent, hpost⟩ := h.end_midway hsound
  have hready : GitReady applied.destination.git manifest.destination := by
    rw [hmidway.git, h.shrunk.git]
    exact h.destination
  have hsourceReady : GitReady applied.source.git manifest.source := by
    rw [hmidway.source, h.shrunk.source]
    exact h.source
  rw [hmidway.run_apply_checks hsound hready hsourceReady habsent hperform, hpost]
  split <;> rfl

theorem run_prepared (hsound : Sound host transactionId digest before after after manifest)
    (hstart : Midway host transactionId after manifest after)
    (hready : GitReady after.destination.git manifest.destination)
    (hsourceReady : GitReady after.source.git manifest.source)
    (habsent : ∀ file ∈ manifest.files,
      after.destination.tree.file? (temporaryPath host transactionId file.path) = none)
    (hclean : after.destination.isClean = true)
    (hpre : ∀ file ∈ manifest.files,
      currentSnapshot host after.destination.tree file.path = .ok file.pre) :
    ∃ applied, (applyPreparedArtifacts host transactionId digest).run performApply none after =
      some (.ok (applyOutput manifest), applied) := by
  rw [hstart.run_apply_checks hsound hready hsourceReady habsent looks_performApply, if_pos hclean,
    classifyManifest_of_pre hpre]
  split
  · obtain ⟨applied, hinstall, hmidway, hfiles, -⟩ := hstart.run_installFiles hsound
      (fun _ hfile => hfile) hsound.frozen.nodup habsent
    have hpost : ∀ file ∈ manifest.files,
        currentSnapshot host applied.destination.tree file.path = .ok file.post := by
      intro file hfile
      obtain ⟨payloads, hfrozen⟩ := hsound.frozen.frozenFrom hfile
      rw [hmidway.current hsound hfile, hfiles file hfile, snapshotOf_installed, hfrozen.post]
    have hcheck : (checkDestination manifest).run performApply none applied =
        some (.ok (), applied) := by
      have happlied : GitReady applied.destination.git manifest.destination := hmidway.git ▸ hready
      exact run_check looks_performApply happlied.identity_ok
    have hclassify := @run_classifyDestination host manifest applied _ looks_performApply
    rw [classifyManifest_of_post hpost] at hclassify
    refine ⟨applied, ?_⟩
    rw [applyClassified, Program.run_bind hinstall, Program.run_bind hcheck, Program.run_bind hclassify]
    rfl
  · exact ⟨after, rfl⟩

lemma Applied.postThere (h : Applied host transactionId manifest disk settled applied)
    (hfrozen : FrozenApply host transactionId digest before after manifest)
    (hnew : ∀ file ∈ manifest.files, NewIn transactionId file.path)
    (hsame : disk.transactions = after.transactions) :
    PostThere host manifest settled ↔ PostThere host manifest disk := by
  have hkeeps := @keeps_reconcile host _ (Untouched manifest disk) _
    (refused_reconcilable hfrozen hnew hsame).removes
  have huntouched := (hkeeps.leads (untouched_refl manifest disk)
    (Program.leads_of_run h.reconciled)).1
  refine forall₂_congr fun file hfile => ?_
  rw [currentSnapshot_eq_ok, currentSnapshot_eq_ok, huntouched.file file hfile,
    huntouched.fits file hfile]

theorem Applied.clean_iff (h : Applied host transactionId manifest disk settled applied)
    (hsound : Sound host transactionId digest before after settled manifest) :
    applied.destination.isClean = true ↔ PostThere host manifest settled ∨
      PostCommitted before.source.tree manifest disk.destination.git := by
  have hgit : applied.destination.git = disk.destination.git :=
    (h.end_midway hsound).1.git.trans h.shrunk.git
  have hbefore := isClean_iff.mp h.clean
  rw [h.shrunk.git] at hbefore
  rcases h.sides with ⟨hpost, rfl⟩ | ⟨hpre, hinstalled, -⟩
  · exact iff_of_true h.clean (.inl (current_of_allPost hpost))
  obtain ⟨-, hfiles, hothers⟩ := h.installed hsound hinstalled
  rw [isClean_iff, hgit]
  constructor
  · intro hclean
    refine .inr fun entry hentry file hfile hpath => ?_
    obtain ⟨node, hnode, hbytes, hexecutable⟩ := hclean entry hentry
    rw [hpath, hfiles file hfile, Option.map_eq_some_iff] at hnode
    obtain ⟨node, hnode, rfl⟩ := hnode
    exact ⟨node, hnode, hbytes, by rwa [isExecutable_installed] at hexecutable⟩
  · rintro (hthere | hcommitted) entry hentry
    · -- a destination that is both images has nothing to be told by
      rw [classifyManifest_of_post hthere] at hpre
      cases hpre
    · by_cases hpath : ∃ file ∈ manifest.files, entry.1 = file.path
      · obtain ⟨file, hfile, hpath⟩ := hpath
        obtain ⟨node, hnode, hbytes, hexecutable⟩ := hcommitted entry hentry file hfile hpath
        refine ⟨node.installed, ?_, hbytes, by rwa [isExecutable_installed]⟩
        rw [hpath, hfiles file hfile, hnode]
        rfl
      · rw [hothers _ fun file hfile heq => hpath ⟨file, hfile, heq⟩]
        exact hbefore entry hentry

/-- Applying again changes nothing exactly when the postimage leaves the destination clean. -/
theorem retry_idle_iff {prepared : PreparedApply} (hdigests : host.DigestsFit)
    (hcodec : host.decodeManifest (host.encodeManifest manifest) = .ok manifest)
    (hmanifest : (freezeArtifacts host transactionId before).map Frozen.manifest = .ok manifest)
    (hprepare : prepareApplyArtifacts host transactionId before = .ok (prepared, after))
    (hnew : NewTransaction transactionId before)
    (hsame : disk.transactions = after.transactions)
    (hrun : (applyPreparedArtifacts host transactionId prepared.manifestDigest).run performApply none
      disk = some (.ok output, applied)) :
    (∀ rest, Retried host transactionId prepared.manifestDigest applied rest →
      (applyPreparedArtifacts host transactionId prepared.manifestDigest).run performReadOnly none rest =
        some (.ok output, rest)) ↔
      PostThere host manifest disk ∨ PostCommitted before.source.tree manifest disk.destination.git := by
  obtain ⟨hsound, -, -⟩ := sound_of_prepare hdigests hcodec hmanifest hprepare hnew
  obtain ⟨rfl, settled, happlied⟩ := of_run_apply (hsound.frozen.loads disk hsame) hrun
  have hsettled := happlied.sound hdigests hsound.frozen hsound.new hsame
  rw [← happlied.postThere hsound.frozen hsound.new hsame, ← happlied.clean_iff hsettled]
  constructor
  · intro hidle
    have hagain := hidle applied .start
    rw [happlied.run_again hsettled looks_performReadOnly] at hagain
    by_contra hdirty
    rw [if_neg hdirty] at hagain
    cases hagain
  · intro hclean rest hretried
    have hstays : rest = applied := by
      induction hretried with
      | start => rfl
      | again _ hstep ih =>
          subst ih
          rw [happlied.run_again hsettled looks_performApply] at hstep
          cases hstep
          rfl
    rw [hstays, happlied.run_again hsettled looks_performReadOnly, if_pos hclean]

lemma run_of_prepare {prepared : PreparedApply} (hdigests : host.DigestsFit)
    (hcodec : host.decodeManifest (host.encodeManifest manifest) = .ok manifest)
    (hmanifest : (freezeArtifacts host transactionId before).map Frozen.manifest = .ok manifest)
    (hprepare : prepareApplyArtifacts host transactionId before = .ok (prepared, after))
    (hnew : NewTransaction transactionId before) :
    ∃ applied, (applyPreparedArtifacts host transactionId prepared.manifestDigest).run performApply none
      after = some (.ok (applyOutput manifest), applied) := by
  obtain ⟨hsound, hstart, hdestination, hsource⟩ :=
    sound_of_prepare hdigests hcodec hmanifest hprepare hnew
  refine run_prepared hsound hstart (hdestination ▸ hsound.frozen.destination)
    (hsource ▸ hsound.frozen.source) (fun file hfile => ?_) (hdestination ▸ hsound.frozen.clean)
    fun file hfile => ?_
  · rw [hdestination, Option.eq_none_iff_forall_ne_some]
    exact fun node hnode => absurd rfl (hnew.destination _ node hnode).ne_temporary
  · obtain ⟨payloads, hfrozen⟩ := hsound.frozen.frozenFrom hfile
    rw [hstart.current hsound hfile, hdestination, hfrozen.pre]

theorem unchanged_apply_idle : ∃ prepared after applied,
    prepareApplyArtifacts unchangedHost demoId unchangedDisk = .ok (prepared, after) ∧
    (applyPreparedArtifacts unchangedHost demoId prepared.manifestDigest).run performApply none after =
      some (.ok ⟨[demoPath], 8⟩, applied) ∧
    ∀ rest, Retried unchangedHost demoId prepared.manifestDigest applied rest →
      (applyPreparedArtifacts unchangedHost demoId prepared.manifestDigest).run performReadOnly none rest =
        some (.ok ⟨[demoPath], 8⟩, rest) := by
  obtain ⟨prepared, after, hprepare⟩ := prepare_of_freeze unchanged_freezes
  have hdigests : unchangedHost.DigestsFit := demoHost_digestsFit (by decide) (by decide)
  have hnew : NewTransaction demoId unchangedDisk :=
    demoDisk_new fun path hpath => List.mem_singleton.mp hpath
  have hcodec := demoHost_codec "4b825dc642cb6eb9a060e54bf8d69288fbee4904" demoOldDigest
    "00525e879cb768e5f355f2988c665102c3014482eacca2aac89dface3822f08f"
  obtain ⟨applied, hrun⟩ := run_of_prepare hdigests hcodec unchanged_freezes hprepare hnew
  refine ⟨prepared, after, applied, hprepare, hrun, ?_⟩
  obtain ⟨-, -, hdestination, -⟩ :=
    sound_of_prepare hdigests hcodec unchanged_freezes hprepare hnew
  refine (retry_idle_iff hdigests hcodec unchanged_freezes hprepare hnew rfl hrun).mpr (.inr ?_)
  rw [hdestination]
  intro entry hentry file hfile _
  obtain rfl := List.mem_singleton.mp hentry
  obtain rfl := List.mem_singleton.mp hfile
  exact ⟨⟨demoOld, 0o644⟩, by decide, rfl, by decide⟩

theorem changed_apply_refused : ∃ prepared after applied,
    prepareApplyArtifacts changedHost demoId changedDisk = .ok (prepared, after) ∧
    (applyPreparedArtifacts changedHost demoId prepared.manifestDigest).run performApply none after =
      some (.ok ⟨[demoPath], 8⟩, applied) ∧
    (applyPreparedArtifacts changedHost demoId prepared.manifestDigest).run performApply none applied =
      some (.error "destination Git worktree is not clean", applied) := by
  obtain ⟨prepared, after, hprepare⟩ := prepare_of_freeze changed_freezes
  have hdigests : changedHost.DigestsFit := demoHost_digestsFit (by decide) (by decide)
  have hnew : NewTransaction demoId changedDisk := demoDisk_new fun _ hpath => nomatch hpath
  have hcodec := demoHost_codec demoTree demoNewDigest
    "14076a13b7fe89fd73153c8196009e1584cd290381e26b1a9f197a3e5901e50c"
  obtain ⟨applied, hrun⟩ := run_of_prepare hdigests hcodec changed_freezes hprepare hnew
  refine ⟨prepared, after, applied, hprepare, hrun, ?_⟩
  obtain ⟨hsound, -, hdestination, -⟩ :=
    sound_of_prepare hdigests hcodec changed_freezes hprepare hnew
  obtain ⟨-, settled, happlied⟩ := of_run_apply (hsound.frozen.loads after rfl) hrun
  have hsettled := happlied.sound hdigests hsound.frozen hsound.new rfl
  rw [happlied.run_again hsettled looks_performApply, if_neg]
  rw [happlied.clean_iff hsettled, happlied.postThere hsound.frozen hsound.new rfl, hdestination]
  rintro (hthere | hcommitted)
  · have hpost := hthere _ (List.mem_singleton_self _)
    rw [hdestination] at hpost
    exact absurd hpost (by decide +kernel)
  · obtain ⟨node, hnode, hbytes, -⟩ :=
      hcommitted _ (List.mem_singleton_self _) _ (List.mem_singleton_self _) rfl
    have hsource : (demoFiles demoNew).file? demoPath = some ⟨demoNew, 0o644⟩ := by decide
    obtain rfl := Option.some.inj (hsource.symm.trans hnode)
    exact absurd hbytes (by decide)

end Retry

end DevCommandCenter.Delegation
