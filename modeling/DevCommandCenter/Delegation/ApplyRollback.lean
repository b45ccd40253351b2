import DevCommandCenter.Delegation.ApplyRuns

/-! Taking an apply back, wherever it stopped. -/

namespace DevCommandCenter.Delegation

open Library GuardedUndo

section Rollback

variable {host : ApplyHost} {transactionId digest : String} {before after base disk : ApplyDisk}
  {manifest : Manifest} {file : FileArtifact}

lemma Midway.current (h : Midway host transactionId base manifest disk)
    (hsound : Sound host transactionId digest before after base manifest) (hfile : file ∈ manifest.files) :
    currentSnapshot host disk.destination.tree file.path =
      .ok (snapshotOf host (disk.destination.tree.file? file.path)) := by
  obtain ⟨payloads, hfrozen⟩ := hsound.frozen.frozenFrom hfile
  exact currentSnapshot_eq_ok.mpr ⟨hfrozen.valid, h.fits hsound hfile, rfl⟩

lemma Midway.not_diverged (h : Midway host transactionId base manifest disk)
    (hsound : Sound host transactionId digest before after base manifest) :
    ¬Diverged host manifest disk.destination.tree := by
  rintro ⟨file, hfile, hlost⟩
  exact hlost _ (h.current hsound hfile) (h.known file hfile)

lemma Midway.run_settle (h : Midway host transactionId base manifest disk)
    (hsound : Sound host transactionId digest before after base manifest)
    (hready : GitReady base.destination.git manifest.destination) :
    ∃ rest, (settleDestination host transactionId digest).run performApply none disk =
        some (.ok manifest, rest) ∧ Midway host transactionId base manifest rest ∧
      (∀ file ∈ manifest.files,
        rest.destination.tree.file? (temporaryPath host transactionId file.path) = none) := by
  have hdiskReady : GitReady disk.destination.git manifest.destination := h.git ▸ hready
  obtain ⟨rest, hreconcile, hrest, hpaths⟩ := h.run_reconcile hsound fun _ hfile => hfile
  have hrestReady : GitReady rest.destination.git manifest.destination := hrest.git ▸ hready
  have hload := run_check looks_performApply
    (hsound.frozen.loads disk (h.transactions.trans hsound.transactions))
  have hroot : (reading fun disk => do
      ensureGitRoot disk.destination .destination
      ensureNoOperationInProgress disk.destination).run performApply none disk = some (.ok (), disk) := by
    refine run_check looks_performApply ?_
    rw [except_seq_eq_ok]
    exact ⟨hdiskReady.root_ok, hdiskReady.operation_ok⟩
  have hcheck : (checkDestination manifest).run performApply none disk = some (.ok (), disk) :=
    run_check looks_performApply hdiskReady.identity_ok
  have hcheckAgain : (checkDestination manifest).run performApply none rest = some (.ok (), rest) :=
    run_check looks_performApply hrestReady.identity_ok
  refine ⟨rest, ?_, hrest, fun file hfile => ?_⟩
  · rw [settleDestination, Program.run_bind hload, Program.run_bind hroot, Program.run_bind hcheck,
      Program.run_bind hreconcile, Program.run_bind hcheckAgain]
    rfl
  · rw [hpaths, if_pos ⟨file, hfile, rfl⟩]

lemma Midway.run_readStates (h : Midway host transactionId base manifest disk)
    (hsound : Sound host transactionId digest before after base manifest) {files : List FileArtifact}
    (hfiles : ∀ file ∈ files, file ∈ manifest.files) :
    (readStates host files).run performApply none disk = some (.ok (files.map fun file =>
      (file, snapshotOf host (disk.destination.tree.file? file.path))), disk) := by
  induction files with
  | nil => rfl
  | cons file files ih =>
      obtain ⟨hfile, hfiles⟩ := List.forall_mem_cons.mp hfiles
      have hstate : knownState host file disk =
          .ok (snapshotOf host (disk.destination.tree.file? file.path)) := by
        simp only [knownState, except_bind_eq_ok, refuse_eq_ok]
        refine ⟨_, h.current hsound hfile, (), ?_, rfl⟩
        rw [not_and_or, not_not, not_not]
        exact h.known file hfile
      rw [readStates, Program.run_bind (run_check looks_performApply hstate), Program.run_bind (ih hfiles)]
      rfl

def Restored (host : ApplyHost) (transactionId : String) (manifest : Manifest) (disk : ApplyDisk) : Prop :=
  ∀ file ∈ manifest.files, currentSnapshot host disk.destination.tree file.path = .ok file.pre ∧
    disk.destination.tree.file? (temporaryPath host transactionId file.path) = none

/-- A rollback that no call fails restores every file. It is content with that when the classification can
tell the two sides apart. -/
theorem Midway.run_rollback (h : Midway host transactionId base manifest disk)
    (hsound : Sound host transactionId digest before after base manifest)
    (hready : GitReady base.destination.git manifest.destination) :
    ∃ rest, (rollbackApplyArtifacts host transactionId digest).run performApply none disk =
        some (if ∃ file ∈ manifest.files, file.pre ≠ file.post then .ok ()
          else .error "delegation rollback did not restore the frozen preimage", rest) ∧
      Restored host transactionId manifest rest := by
  obtain ⟨settled, hsettle, hmidway, habsent⟩ := h.run_settle hsound hready
  have hclassify := @run_classifyDestination host manifest settled _ looks_performApply
  have hknown : classifyManifest host manifest settled.destination.tree ≠ .divergent := fun hdivergent =>
    hmidway.not_diverged hsound (classifyManifest_divergent.mp hdivergent)
  rw [rollbackApplyArtifacts, Program.run_bind hsettle, Program.run_bind hclassify, if_neg hknown]
  by_cases hpre : classifyManifest host manifest settled.destination.tree = .allPre
  · have hcurrent := current_of_allPre hpre
    have hchange : ∃ file ∈ manifest.files, file.pre ≠ file.post := by
      rw [classifyManifest_of_pre hcurrent] at hpre
      by_contra hsame
      rw [if_neg hsame] at hpre
      cases hpre
    rw [if_pos hpre, if_pos hchange]
    exact ⟨settled, rfl, fun file hfile => ⟨hcurrent file hfile, habsent file hfile⟩⟩
  · have hall : ∀ file ∈ manifest.files, file ∈ manifest.files := fun _ hfile => hfile
    have hstates := hmidway.run_readStates hsound hall
    have hnodup : ((manifest.files.map fun file =>
        (file, snapshotOf host (settled.destination.tree.file? file.path))).map
          fun state => state.1.path).Nodup := by
      simpa [List.map_map, Function.comp_def] using hsound.frozen.nodup
    obtain ⟨rest, hrestore, hrest, hrestored, hothers⟩ :=
      hmidway.run_restoreFiles hsound (by simp) (by simp) hnodup habsent
    have hcurrent : ∀ file ∈ manifest.files,
        currentSnapshot host rest.destination.tree file.path = .ok file.pre := by
      intro file hfile
      rw [hrest.current hsound hfile]
      exact congrArg _ (hrestored _ (List.mem_map_of_mem hfile))
    have hgone : ∀ file ∈ manifest.files,
        rest.destination.tree.file? (temporaryPath host transactionId file.path) = none := by
      intro file hfile
      rw [hothers]
      · exact habsent file hfile
      · intro state hstate
        obtain ⟨other, hother, rfl⟩ := List.mem_map.mp hstate
        exact (hsound.new other hother).ne_temporary.symm
    have hrestReady : GitReady rest.destination.git manifest.destination := hrest.git ▸ hready
    have hcheck : (checkDestination manifest).run performApply none rest = some (.ok (), rest) :=
      run_check looks_performApply hrestReady.identity_ok
    have hclassifyAgain := @run_classifyDestination host manifest rest _ looks_performApply
    refine ⟨rest, ?_, fun file hfile => ⟨hcurrent file hfile, hgone file hfile⟩⟩
    rw [if_neg hpre, Program.run_bind hstates, Program.run_bind hrestore, Program.run_bind hcheck,
      Program.run_bind hclassifyAgain, classifyManifest_of_pre hcurrent]
    split <;> rfl

end Rollback

section Interruptions

variable (host : ApplyHost) (transactionId digest : String) (manifest : Manifest)

/-- What a worktree can be after some applies, rollbacks and classifications, each of which got as far as
it did. -/
inductive Interrupted (start : ApplyDisk) : ApplyDisk → Prop
  | start : Interrupted start start
  | apply {disk rest : ApplyDisk} {p : ApplyProgram ApplyOutput} (earlier : Interrupted start disk)
      (leads : Program.Leads performApply (applyPreparedArtifacts host transactionId digest) disk p rest) :
      Interrupted start rest
  | rollback {disk rest : ApplyDisk} {p : ApplyProgram Unit} (earlier : Interrupted start disk)
      (leads : Program.Leads performApply (rollbackApplyArtifacts host transactionId digest) disk p rest) :
      Interrupted start rest
  | classify {disk rest : ApplyDisk} {p : ApplyProgram ApplyClassification}
      (earlier : Interrupted start disk)
      (leads : Program.Leads performApply (classifyApplyArtifacts host transactionId digest) disk p rest) :
      Interrupted start rest

structure NewTransaction (disk : ApplyDisk) : Prop where
  changed : ∀ path ∈ disk.source.git.trackedChanged ++ disk.source.git.untracked, NewIn transactionId path
  destination : ∀ path node, disk.destination.tree.file? path = some node → NewIn transactionId path

def Refuses {α : Type} (p : ApplyProgram α) (disk : ApplyDisk) : Prop :=
  (∃ error rest, p.run performApply none disk = some (.error error, rest)) ∧
  ∀ left rest, Program.Leads performApply p disk left rest →
    Untouched manifest disk rest ∧ ∀ a, left ≠ .done (.ok a)

/-- An apply can be taken back wherever it stopped, and what is not its doing is left alone. -/
structure AlwaysRollsBack (start : ApplyDisk) : Prop where
  classifies : ∀ disk, Interrupted host transactionId digest start disk → ∃ classification rest,
    (classifyApplyArtifacts host transactionId digest).run performApply none disk =
      some (.ok classification, rest) ∧ classification ≠ .divergent
  restores : ∀ disk, Interrupted host transactionId digest start disk → ∃ rest,
    (rollbackApplyArtifacts host transactionId digest).run performApply none disk =
      some (.ok (), rest) ∧ Restored host transactionId manifest rest
  refuses : ∀ disk, disk.transactions = start.transactions →
    Diverged host manifest disk.destination.tree →
      Refuses manifest (applyPreparedArtifacts host transactionId digest) disk ∧
      Refuses manifest (rollbackApplyArtifacts host transactionId digest) disk

variable {host transactionId digest manifest} {before after disk : ApplyDisk}

lemma performApply_total (c : ApplyCall) (disk : ApplyDisk) :
    ∃ reply rest, performApply c none disk = some (reply, rest) := by
  cases c with
  | look | createDestinationParent | syncDirectory => exact ⟨_, _, rfl⟩
  | writeDestinationTemp path bytes fileMode =>
      dsimp only [performApply]
      split
      · exact ⟨_, _, rfl⟩
      · split <;> exact ⟨_, _, rfl⟩
  | atomicReplace temp target =>
      dsimp only [performApply]
      split
      · exact ⟨_, _, rfl⟩
      · split <;> exact ⟨_, _, rfl⟩
  | removeFile path =>
      dsimp only [performApply]
      split <;> exact ⟨_, _, rfl⟩

lemma refuses_of_leads {α : Type} {p : ApplyProgram α}
    (h : ∀ left rest, Program.Leads performApply p disk left rest →
      Untouched manifest disk rest ∧ ∀ a, left ≠ .done (.ok a)) : Refuses manifest p disk := by
  obtain ⟨result, rest, hrun⟩ := @Program.run_total _ _ _ _ _ _ performApply none performApply_total p disk
  refine ⟨?_, h⟩
  cases result with
  | error error => exact ⟨error, rest, hrun⟩
  | ok a => exact absurd rfl ((h _ _ (Program.leads_of_run hrun)).2 a)

lemma Interrupted.midway (hsound : Sound host transactionId digest before after after manifest)
    (hstart : Midway host transactionId after manifest after)
    (h : Interrupted host transactionId digest after disk) :
    Midway host transactionId after manifest disk := by
  induction h with
  | start => exact hstart
  | apply _ hleads ih => exact ih.apply hsound hleads
  | rollback _ hleads ih => exact ih.rollback hsound hleads
  | classify _ hleads ih => exact ih.classify hsound hleads

lemma Midway.run_classify (h : Midway host transactionId after manifest disk)
    (hsound : Sound host transactionId digest before after after manifest)
    (hready : GitReady after.destination.git manifest.destination) : ∃ classification rest,
    (classifyApplyArtifacts host transactionId digest).run performApply none disk =
      some (.ok classification, rest) ∧ classification ≠ .divergent := by
  obtain ⟨settled, hsettle, hmidway, -⟩ := h.run_settle hsound hready
  have hclassify := @run_classifyDestination host manifest settled _ looks_performApply
  refine ⟨_, settled, ?_, fun hdivergent =>
    hmidway.not_diverged hsound (classifyManifest_divergent.mp hdivergent)⟩
  rw [classifyApplyArtifacts, Program.run_bind hsettle]
  exact hclassify

lemma sound_of_prepare {prepared : PreparedApply} (hdigests : host.DigestsFit)
    (hcodec : host.decodeManifest (host.encodeManifest manifest) = .ok manifest)
    (hmanifest : (freezeArtifacts host transactionId before).map Frozen.manifest = .ok manifest)
    (hprepare : prepareApplyArtifacts host transactionId before = .ok (prepared, after))
    (hnew : NewTransaction transactionId before) :
    Sound host transactionId prepared.manifestDigest before after after manifest ∧
      Midway host transactionId after manifest after ∧ after.destination = before.destination ∧
      after.source = before.source := by
  obtain ⟨frozen, hfreeze, rfl⟩ := except_map_eq_ok.mp hmanifest
  simp only [prepareApplyArtifacts, hfreeze, except_bind_eq_ok] at hprepare
  obtain ⟨_, ⟨⟩, ⟨⟩⟩ := hprepare
  have hfrozen := frozenApply hdigests hcodec hfreeze
  have hpaths : ∀ file ∈ frozen.manifest.files, NewIn transactionId file.path :=
    fun file hfile => hnew.changed _ (hfrozen.changed file hfile)
  refine ⟨⟨hdigests, hfrozen, rfl, hpaths, fun file hfile => ?_, fun file hfile => ?_⟩,
    ⟨rfl, rfl, rfl, fun file hfile => ?_, fun file hfile node hnode => ?_, fun _ _ => rfl⟩, rfl, rfl⟩
  · obtain ⟨payloads, hfile⟩ := hfrozen.frozenFrom hfile
    exact hfile.preFits
  · rw [Bool.eq_false_iff]
    intro hdirectory
    obtain ⟨below, node, hnode, habove⟩ := FileTree.isDirectory_iff.mp hdirectory
    exact (hnew.destination below node hnode).temporary_not_above habove
  · obtain ⟨payloads, hfile⟩ := hfrozen.frozenFrom hfile
    exact .inl hfile.pre.symm
  · exact absurd rfl (hnew.destination _ node hnode).ne_temporary

lemma rollback_of_unchanged {prepared : PreparedApply} (hdigests : host.DigestsFit)
    (hcodec : host.decodeManifest (host.encodeManifest manifest) = .ok manifest)
    (hmanifest : (freezeArtifacts host transactionId before).map Frozen.manifest = .ok manifest)
    (hprepare : prepareApplyArtifacts host transactionId before = .ok (prepared, after))
    (hnew : NewTransaction transactionId before)
    (hunchanged : ¬∃ file ∈ manifest.files, file.pre ≠ file.post) :
    ¬AlwaysRollsBack host transactionId prepared.manifestDigest manifest after := by
  intro h
  obtain ⟨hsound, hstart, hsame, -⟩ := sound_of_prepare hdigests hcodec hmanifest hprepare hnew
  obtain ⟨rest, hrun, -⟩ := h.restores after .start
  obtain ⟨rest', hfailed, -⟩ := hstart.run_rollback hsound (hsame ▸ hsound.frozen.destination)
  rw [if_neg hunchanged, hrun] at hfailed
  cases hfailed

/-- An apply can always be taken back unless it was prepared for files none of which it changes. -/
theorem rollback_restores_iff {prepared : PreparedApply} (hdigests : host.DigestsFit)
    (hcodec : host.decodeManifest (host.encodeManifest manifest) = .ok manifest)
    (hmanifest : (freezeArtifacts host transactionId before).map Frozen.manifest = .ok manifest)
    (hprepare : prepareApplyArtifacts host transactionId before = .ok (prepared, after))
    (hnew : NewTransaction transactionId before) :
    AlwaysRollsBack host transactionId prepared.manifestDigest manifest after ↔
      ∃ file ∈ manifest.files, file.pre ≠ file.post := by
  obtain ⟨hsound, hstart, hsame, -⟩ := sound_of_prepare hdigests hcodec hmanifest hprepare hnew
  have hready : GitReady after.destination.git manifest.destination := hsame ▸ hsound.frozen.destination
  constructor
  · intro h
    by_contra hunchanged
    exact rollback_of_unchanged hdigests hcodec hmanifest hprepare hnew hunchanged h
  · intro hchange
    refine ⟨fun disk hdisk => ?_, fun disk hdisk => ?_, fun disk htransactions hdiverged => ⟨?_, ?_⟩⟩
    · exact (hdisk.midway hsound hstart).run_classify hsound hready
    · obtain ⟨rest, hrun, hrestored⟩ := (hdisk.midway hsound hstart).run_rollback hsound hready
      rw [if_pos hchange] at hrun
      exact ⟨rest, hrun, hrestored⟩
    · exact refuses_of_leads fun left rest hleads =>
        apply_refused hsound.frozen hsound.new htransactions hdiverged hleads
    · exact refuses_of_leads fun left rest hleads =>
        rollback_refused hsound.frozen hsound.new htransactions hdiverged hleads

end Interruptions

section Demo

def demoId : String := "0b8f6a3e-5c1d-4f2a-9e7b-3d4c5b6a7f80"

def demoIdentity (branch indexTree : String) : ApplyIdentity where
  head := "d20de41f6546f4b72332908a5fcacf4cb2af06b6"
  branch := some branch
  indexTree := indexTree

def demoTree : String := "8faeb6afb911db3b97ef512d15f9bfe42ac16ce2"

def demoPath : RelativePath := ⟨[], "notes.txt"⟩

def demoOld : List Byte := [111, 110, 101, 10]

def demoNew : List Byte := [116, 119, 111, 10]

def demoOldDigest : String := "2c8b08da5ce60398e1f19af0e5dccc744df274b826abe585eaba68c525434806"

def demoNewDigest : String := "27dd8ed44a83ff94d557f9fd0412ed5a8cbca69ea04922d88c01184a07300a5a"

def demoFiles (bytes : List Byte) : FileTree where
  files := InsertionMap.empty.set demoPath ⟨bytes, 0o644⟩
  apart := by
    intro path below node node' hpath hbelow
    rw [InsertionMap.get?_set] at hpath hbelow
    split at hpath
    · next heq =>
        split at hbelow
        · next heq' =>
            rw [heq, heq']
            decide
        · cases hbelow
    · cases hpath

def demoGit (branch indexTree : String) (trackedChanged untracked : List RelativePath) : GitState where
  isWorktree := true
  identity := demoIdentity branch indexTree
  operation := none
  head := [(demoPath, demoOld, false)]
  trackedChanged := trackedChanged
  untracked := untracked
  submodules := []

def demoDisk (indexTree : String) (bytes : List Byte) (untracked : List RelativePath) : ApplyDisk where
  source := ⟨demoFiles bytes, demoGit "delegation" indexTree [demoPath] untracked⟩
  destination := ⟨demoFiles demoOld, demoGit "main" demoTree [] []⟩
  transactions := .empty

def demoManifest (indexTree digest : String) : Manifest where
  version := 1
  transactionId := demoId
  source := demoIdentity "delegation" indexTree
  destination := demoIdentity "main" demoTree
  files := [{
    path := demoPath
    pre := ⟨.regular, demoOldDigest, 4, 0o644⟩
    post := ⟨.regular, digest, 4, 0o644⟩
    prePayload := some "pre/00000000.bin"
    postPayload := some "post/00000000.bin" }]

def demoText (indexTree digest : String) : String :=
  "\x7b\"version\":1,\"transaction_id\":\"" ++ demoId ++
  "\",\"source\":\x7b\"head\":\"d20de41f6546f4b72332908a5fcacf4cb2af06b6\"," ++
  "\"branch\":\"delegation\",\"indexTree\":\"" ++ indexTree ++
  "\"\x7d,\"destination\":\x7b\"head\":\"d20de41f6546f4b72332908a5fcacf4cb2af06b6\"," ++
  "\"branch\":\"main\",\"indexTree\":\"" ++ demoTree ++
  "\"\x7d,\"files\":[\x7b\"path\":\"notes.txt\",\"pre\":\x7b\"kind\":\"regular\"," ++
  "\"digest\":\"" ++ demoOldDigest ++ "\",\"bytes\":4,\"fileMode\":420\x7d," ++
  "\"post\":\x7b\"kind\":\"regular\",\"digest\":\"" ++ digest ++
  "\",\"bytes\":4,\"fileMode\":420\x7d,\"pre_payload\":\"pre/00000000.bin\"," ++
  "\"post_payload\":\"post/00000000.bin\"\x7d]\x7d"

def demoHost (indexTree digest manifestDigest : String) : ApplyHost where
  isUuid value := value = demoId
  sha256Hex bytes :=
    if bytes = demoOld then demoOldDigest
    else if bytes = demoNew then demoNewDigest
    else if bytes = textBytes (demoText indexTree digest) then manifestDigest
    else "e3b0c44298fc1c149afbf4c8996fb92427ae41e4649b934ca495991b7852b855"
  toLowercase := String.toLower
  encodeManifest manifest :=
    if manifest = demoManifest indexTree digest then textBytes (demoText indexTree digest) else []
  decodeManifest bytes :=
    if bytes = textBytes (demoText indexTree digest) then .ok (demoManifest indexTree digest)
    else .error "expected value at line 1 column 1"

def changedHost : ApplyHost :=
  demoHost demoTree demoNewDigest "14076a13b7fe89fd73153c8196009e1584cd290381e26b1a9f197a3e5901e50c"

def changedDisk : ApplyDisk :=
  demoDisk demoTree demoNew []

def unchangedHost : ApplyHost :=
  demoHost "4b825dc642cb6eb9a060e54bf8d69288fbee4904" demoOldDigest
    "00525e879cb768e5f355f2988c665102c3014482eacca2aac89dface3822f08f"

def unchangedDisk : ApplyDisk :=
  demoDisk "4b825dc642cb6eb9a060e54bf8d69288fbee4904" demoOld [demoPath]

lemma demoHost_digestsFit {indexTree digest manifestDigest : String}
    (hhex : isHex manifestDigest = true) (hsize : manifestDigest.utf8ByteSize = 64) :
    (demoHost indexTree digest manifestDigest).DigestsFit := by
  intro bytes
  dsimp only [demoHost]
  split
  · decide
  · split
    · decide
    · split
      · exact ⟨hhex, hsize⟩
      · decide

lemma demoHost_codec (indexTree digest manifestDigest : String) :
    (demoHost indexTree digest manifestDigest).decodeManifest
      ((demoHost indexTree digest manifestDigest).encodeManifest (demoManifest indexTree digest)) =
        .ok (demoManifest indexTree digest) := by
  simp only [demoHost, if_true]

lemma demoDisk_new {indexTree : String} {bytes : List Byte} {untracked : List RelativePath}
    (h : ∀ path ∈ untracked, path = demoPath) :
    NewTransaction demoId (demoDisk indexTree bytes untracked) := by
  have hpath : NewIn demoId demoPath := by
    intro component hmem hinfix
    rw [List.mem_singleton.mp hmem] at hinfix
    exact absurd hinfix.length_le (by decide)
  constructor
  · intro path hmem
    rcases List.mem_append.mp hmem with hmem | hmem
    · rw [List.mem_singleton.mp hmem]
      exact hpath
    · rw [h path hmem]
      exact hpath
  · intro path node hnode
    dsimp only [demoDisk, demoFiles, FileTree.file?] at hnode
    rw [InsertionMap.get?_set] at hnode
    split at hnode
    · next heq =>
        rw [heq]
        exact hpath
    · cases hnode

lemma prepare_of_freeze {host : ApplyHost} {transactionId : String} {disk : ApplyDisk}
    {manifest : Manifest}
    (h : (freezeArtifacts host transactionId disk).map Frozen.manifest = .ok manifest) :
    ∃ prepared after, prepareApplyArtifacts host transactionId disk = .ok (prepared, after) := by
  obtain ⟨frozen, hfrozen, -⟩ := except_map_eq_ok.mp h
  exact ⟨_, _, by rw [prepareApplyArtifacts, hfrozen]; rfl⟩

lemma changed_freezes : (freezeArtifacts changedHost demoId changedDisk).map Frozen.manifest =
    .ok (demoManifest demoTree demoNewDigest) := by
  decide +kernel

lemma unchanged_freezes : (freezeArtifacts unchangedHost demoId unchangedDisk).map Frozen.manifest =
    .ok (demoManifest "4b825dc642cb6eb9a060e54bf8d69288fbee4904" demoOldDigest) := by
  decide +kernel

theorem changed_rolls_back : ∃ prepared after,
    prepareApplyArtifacts changedHost demoId changedDisk = .ok (prepared, after) ∧
      AlwaysRollsBack changedHost demoId prepared.manifestDigest (demoManifest demoTree demoNewDigest)
        after := by
  obtain ⟨prepared, after, hprepare⟩ := prepare_of_freeze changed_freezes
  refine ⟨prepared, after, hprepare, ?_⟩
  have hchange : ∃ file ∈ (demoManifest demoTree demoNewDigest).files, file.pre ≠ file.post :=
    ⟨_, List.mem_singleton_self _, by decide⟩
  exact (rollback_restores_iff (demoHost_digestsFit (by decide) (by decide)) (demoHost_codec ..)
    changed_freezes hprepare (demoDisk_new fun _ hpath => nomatch hpath)).mpr hchange

theorem unchanged_never_rolls_back : ∃ prepared after,
    prepareApplyArtifacts unchangedHost demoId unchangedDisk = .ok (prepared, after) ∧
      unchangedHost.DigestsFit ∧ NewTransaction demoId unchangedDisk ∧
      ¬AlwaysRollsBack unchangedHost demoId prepared.manifestDigest
        (demoManifest "4b825dc642cb6eb9a060e54bf8d69288fbee4904" demoOldDigest) after := by
  obtain ⟨prepared, after, hprepare⟩ := prepare_of_freeze unchanged_freezes
  have hdigests : unchangedHost.DigestsFit := demoHost_digestsFit (by decide) (by decide)
  have hnew : NewTransaction demoId unchangedDisk :=
    demoDisk_new fun path hpath => List.mem_singleton.mp hpath
  refine ⟨prepared, after, hprepare, hdigests, hnew, ?_⟩
  exact rollback_of_unchanged hdigests (demoHost_codec ..) unchanged_freezes hprepare hnew (by decide)

end Demo

end DevCommandCenter.Delegation
