import DevCommandCenter.Delegation.ApplyKeeps

/-! The runs in which no call is made to fail. -/

namespace DevCommandCenter.Delegation

open Library GuardedUndo

def Looks (perform : (c : ApplyCall) → Option String → ApplyDisk →
    Option (Except String c.Reply × ApplyDisk)) : Prop :=
  ∀ disk, perform .look none disk = some (.ok disk, disk)

lemma looks_performApply : Looks performApply :=
  fun _ => rfl

lemma performApply_syncDirectory (path : RelativePath) (disk : ApplyDisk) :
    performApply (.syncDirectory path) none disk = some (.ok (), disk) :=
  rfl

lemma performApply_createDestinationParent (path : RelativePath) (disk : ApplyDisk) :
    performApply (.createDestinationParent path) none disk = some (.ok (), disk) :=
  rfl

section Looking

variable {host : ApplyHost} {transactionId : String} {manifest : Manifest} {disk : ApplyDisk} {α : Type}
  {perform : (c : ApplyCall) → Option String → ApplyDisk → Option (Except String c.Reply × ApplyDisk)}

lemma run_reading (hperform : Looks perform) (f : ApplyDisk → Except String α) :
    (reading f).run perform none disk = some (f disk, disk) := by
  have hlook : (applyCall .look).run perform none disk = some (.ok disk, disk) :=
    Program.run_invoke (hperform disk)
  exact Program.run_bind hlook

lemma run_check (hperform : Looks perform) {f : ApplyDisk → Except String α} {a : α}
    (h : f disk = .ok a) : (reading f).run perform none disk = some (.ok a, disk) := by
  rw [run_reading hperform, h]

lemma run_classifyDestination (hperform : Looks perform) :
    (classifyDestination host manifest).run perform none disk =
      some (.ok (classifyManifest host manifest disk.destination.tree), disk) := by
  have hlook : (applyCall .look).run perform none disk = some (.ok disk, disk) :=
    Program.run_invoke (hperform disk)
  exact Program.run_andThen hlook

lemma run_call {c : ApplyCall} {reply : c.Reply} {rest : ApplyDisk} {message : String}
    (h : perform c none disk = some (.ok reply, rest)) :
    (orFail (applyCall c) message).run perform none disk = some (.ok reply, rest) := by
  have hcall : (applyCall c).run perform none disk = some (.ok reply, rest) := Program.run_invoke h
  exact Program.run_andThen hcall

end Looking

section Settled

variable {host : ApplyHost} {transactionId digest : String} {before after base disk : ApplyDisk}
  {manifest : Manifest} {file : FileArtifact}

lemma GitReady.root_ok {worktree : Worktree} {side : GitSide} {identity : ApplyIdentity}
    (h : GitReady worktree.git identity) : ensureGitRoot worktree side = .ok () :=
  refuse_eq_ok.mpr (by simp [h.root])

lemma GitReady.operation_ok {worktree : Worktree} {identity : ApplyIdentity}
    (h : GitReady worktree.git identity) : ensureNoOperationInProgress worktree = .ok () :=
  ensureNoOperationInProgress_eq_ok.mpr h.operation

lemma GitReady.identity_ok {worktree : Worktree} {side : GitSide} {identity : ApplyIdentity}
    (h : GitReady worktree.git identity) : ensureIdentity worktree identity side = .ok () := by
  simp only [ensureIdentity, except_bind_eq_ok]
  exact ⟨identity, inspectIdentity_eq_ok.mpr ⟨h.filled, h.identity⟩, refuse_eq_ok.mpr (by simp)⟩

lemma Sound.destinationTempPath_eq (h : Sound host transactionId digest before after base manifest)
    (hfile : file ∈ manifest.files) :
    destinationTempPath host transactionId file.path = .ok (temporaryPath host transactionId file.path) := by
  obtain ⟨payloads, hfrozen⟩ := h.frozen.frozenFrom hfile
  simp only [destinationTempPath, validateTransactionId, except_bind_eq_ok, refuse_eq_ok]
  exact ⟨(), by simp [h.frozen.isUuid], (), hfrozen.valid, rfl⟩

lemma Midway.knownTemporaryFile_absent (h : Midway host transactionId base manifest disk)
    (hsound : Sound host transactionId digest before after base manifest) (hfile : file ∈ manifest.files)
    (habsent : disk.destination.tree.file? (temporaryPath host transactionId file.path) = none) :
    knownTemporaryFile host transactionId file disk = .ok none := by
  obtain ⟨payloads, hfrozen⟩ := hsound.frozen.frozenFrom hfile
  simp only [knownTemporaryFile, except_bind_eq_ok]
  refine ⟨(), hfrozen.valid, (), ensureNoSymlinkAncestors_eq_ok.mpr (h.fits hsound hfile).1, _,
    hsound.destinationTempPath_eq hfile, ?_⟩
  rw [habsent]
  simp only [except_bind_eq_ok, refuse_eq_ok, h.noDirectory hsound hfile]
  exact ⟨(), Bool.noConfusion, rfl⟩

lemma Midway.knownTemporaryFile_present (h : Midway host transactionId base manifest disk)
    (hsound : Sound host transactionId digest before after base manifest) (hfile : file ∈ manifest.files)
    {node : FileNode}
    (hnode : disk.destination.tree.file? (temporaryPath host transactionId file.path) = some node) :
    knownTemporaryFile host transactionId file disk =
      .ok (some (temporaryPath host transactionId file.path)) := by
  obtain ⟨payloads, hfrozen⟩ := hsound.frozen.frozenFrom hfile
  have hknown := h.temporary file hfile node hnode
  simp only [knownTemporaryFile, except_bind_eq_ok]
  refine ⟨(), hfrozen.valid, (), ensureNoSymlinkAncestors_eq_ok.mpr (h.fits hsound hfile).1, _,
    hsound.destinationTempPath_eq hfile, ?_⟩
  rw [hnode]
  simp only [except_bind_eq_ok, refuse_eq_ok]
  exact ⟨(), by rwa [not_and_or, not_not, not_not], rfl⟩

lemma Midway.run_reconcile_idle (h : Midway host transactionId base manifest disk)
    (hsound : Sound host transactionId digest before after base manifest) {files : List FileArtifact}
    (hfiles : ∀ file ∈ files, file ∈ manifest.files)
    (habsent : ∀ file ∈ files,
      disk.destination.tree.file? (temporaryPath host transactionId file.path) = none)
    {perform : (c : ApplyCall) → Option String → ApplyDisk → Option (Except String c.Reply × ApplyDisk)}
    (hperform : Looks perform) :
    (reconcileDestinationTemporaryFiles host transactionId files).run perform none disk =
      some (.ok (), disk) := by
  induction files with
  | nil => rfl
  | cons file files ih =>
      obtain ⟨hfile, hfiles⟩ := List.forall_mem_cons.mp hfiles
      obtain ⟨hgone, habsent⟩ := List.forall_mem_cons.mp habsent
      have hlook := run_check hperform (h.knownTemporaryFile_absent hsound hfile hgone)
      rw [reconcileDestinationTemporaryFiles, Program.run_bind hlook]
      exact ih hfiles habsent

theorem Midway.run_reconcile (h : Midway host transactionId base manifest disk)
    (hsound : Sound host transactionId digest before after base manifest) {files : List FileArtifact}
    (hfiles : ∀ file ∈ files, file ∈ manifest.files) :
    ∃ rest, (reconcileDestinationTemporaryFiles host transactionId files).run performApply none disk =
        some (.ok (), rest) ∧ Midway host transactionId base manifest rest ∧
      ∀ path, rest.destination.tree.file? path =
        if ∃ file ∈ files, path = temporaryPath host transactionId file.path then none
        else disk.destination.tree.file? path := by
  induction files generalizing disk with
  | nil => exact ⟨disk, rfl, h, fun path => by simp⟩
  | cons file files ih =>
      obtain ⟨hfile, hfiles⟩ := List.forall_mem_cons.mp hfiles
      cases hnode : disk.destination.tree.file? (temporaryPath host transactionId file.path) with
      | none =>
          obtain ⟨rest, hrun, hrest, hpaths⟩ := ih h hfiles
          have hlook := run_check looks_performApply (h.knownTemporaryFile_absent hsound hfile hnode)
          refine ⟨rest, ?_, hrest, fun path => ?_⟩
          · rw [reconcileDestinationTemporaryFiles, Program.run_bind hlook]
            exact hrun
          · rw [hpaths]
            by_cases heq : path = temporaryPath host transactionId file.path
            · subst heq
              simp [hnode]
            · simp [heq]
      | some node =>
          have hlook := run_check looks_performApply (h.knownTemporaryFile_present hsound hfile hnode)
          have hremove : performApply (.removeFile (temporaryPath host transactionId file.path)) none
              disk = some (.ok (), disk.setTree
                (disk.destination.tree.delete (temporaryPath host transactionId file.path))) := by
            dsimp only [performApply]
            rw [hnode]
          have hkept := h.perform hsound (c := .removeFile (temporaryPath host transactionId file.path))
            ⟨file, hfile, .inl rfl⟩ hremove
          obtain ⟨rest, hrun, hrest, hpaths⟩ := ih hkept hfiles
          refine ⟨rest, ?_, hrest, fun path => ?_⟩
          · rw [reconcileDestinationTemporaryFiles, Program.run_bind hlook]
            dsimp only
            rw [Program.run_bind (run_call hremove)]
            rw [Program.run_bind (run_call (performApply_syncDirectory _ _))]
            exact hrun
          · rw [hpaths]
            dsimp only [ApplyDisk.setTree]
            rw [FileTree.file?_delete]
            by_cases heq : path = temporaryPath host transactionId file.path
            · subst heq
              simp
            · simp [heq]

end Settled

def FileNode.installed (node : FileNode) : FileNode where
  bytes := node.bytes
  mode := fileMode node

section Installed

variable {host : ApplyHost} {transactionId digest : String} {before after base disk : ApplyDisk}
  {manifest : Manifest} {file : FileArtifact} {wanted : Option FileNode}

lemma snapshotOf_installed (host : ApplyHost) (wanted : Option FileNode) :
    snapshotOf host (wanted.map FileNode.installed) = snapshotOf host wanted := by
  cases wanted with
  | none => rfl
  | some node =>
      simp only [Option.map_some, snapshotOf, regularSnapshot, FileNode.installed, fileMode, Nat.mod_mod]

lemma Midway.run_remove (h : Midway host transactionId base manifest disk)
    (hsound : Sound host transactionId digest before after base manifest) (hfile : file ∈ manifest.files)
    (hmissing : file.Known (missingSnapshot host)) (payload : Option (List Byte)) :
    ∃ rest, (installSnapshot host transactionId file.path (missingSnapshot host) payload).run performApply
        none disk = some (.ok (), rest) ∧ Midway host transactionId base manifest rest ∧
      ∀ path, rest.destination.tree.file? path =
        if path = file.path then none else disk.destination.tree.file? path := by
  obtain ⟨payloads, hfrozen⟩ := hsound.frozen.frozenFrom hfile
  have hfits := h.fits hsound hfile
  have hvalid : (reading fun disk => do
      validateRelativePath file.path
      ensureNoSymlinkAncestors disk.destination.tree file.path).run performApply none disk =
        some (.ok (), disk) := by
    refine run_check looks_performApply ?_
    rw [except_seq_eq_ok]
    exact ⟨hfrozen.valid, ensureNoSymlinkAncestors_eq_ok.mpr hfits.1⟩
  have hpresent : (reading (removableFile file.path)).run performApply none disk =
      some (.ok (disk.destination.tree.file? file.path).isSome, disk) := by
    refine run_check looks_performApply ?_
    simp only [removableFile, except_seq_eq_ok, refuse_eq_ok, hfits.2]
    exact ⟨Bool.noConfusion, rfl⟩
  rw [installSnapshot.eq_def, Program.run_bind hvalid]
  dsimp only [missingSnapshot]
  rw [Program.run_bind hpresent]
  cases hnode : disk.destination.tree.file? file.path with
  | none =>
      refine ⟨disk, rfl, h, fun path => ?_⟩
      split
      · next heq => rw [heq, hnode]
      · rfl
  | some node =>
      have hremove : performApply (.removeFile file.path) none disk =
          some (.ok (), disk.setTree (disk.destination.tree.delete file.path)) := by
        dsimp only [performApply]
        rw [hnode]
      refine ⟨_, run_call hremove, ?_, fun path => FileTree.file?_delete ..⟩
      exact h.perform hsound (c := .removeFile file.path) ⟨file, hfile, .inr ⟨rfl, hmissing⟩⟩ hremove

lemma Midway.run_put (h : Midway host transactionId base manifest disk)
    (hsound : Sound host transactionId digest before after base manifest) (hfile : file ∈ manifest.files)
    {node : FileNode} (hknown : file.Known (regularSnapshot host node))
    (habsent : disk.destination.tree.file? (temporaryPath host transactionId file.path) = none) :
    ∃ rest, (installSnapshot host transactionId file.path (regularSnapshot host node)
        (some node.bytes)).run performApply none disk = some (.ok (), rest) ∧
      Midway host transactionId base manifest rest ∧
      ∀ path, rest.destination.tree.file? path =
        if path = file.path then some node.installed else disk.destination.tree.file? path := by
  obtain ⟨payloads, hfrozen⟩ := hsound.frozen.frozenFrom hfile
  have hfits := h.fits hsound hfile
  have habove : ensureNoSymlinkAncestors disk.destination.tree file.path = .ok () :=
    ensureNoSymlinkAncestors_eq_ok.mpr hfits.1
  have hvalid : (reading fun disk => do
      validateRelativePath file.path
      ensureNoSymlinkAncestors disk.destination.tree file.path).run performApply none disk =
        some (.ok (), disk) := by
    refine run_check looks_performApply ?_
    rw [except_seq_eq_ok]
    exact ⟨hfrozen.valid, habove⟩
  have htemp : (reading fun _ => destinationTempPath host transactionId file.path).run performApply none
      disk = some (.ok (temporaryPath host transactionId file.path), disk) :=
    run_check looks_performApply (hsound.destinationTempPath_eq hfile)
  have hmode : (regularSnapshot host node).fileMode % 0o1000 = fileMode node := Nat.mod_mod ..
  have htempFits : disk.destination.tree.Fits (temporaryPath host transactionId file.path) := by
    refine ⟨?_, h.noDirectory hsound hfile⟩
    rw [ancestors_temporaryPath]
    exact hfits.1
  -- the temporary file is written with its mode, and then takes the place of the file
  have hwrite : performApply (.writeDestinationTemp (temporaryPath host transactionId file.path) node.bytes
      (regularSnapshot host node).fileMode) none disk = some (.ok (), disk.setTree
        (disk.destination.tree.put (temporaryPath host transactionId file.path) node.installed
          htempFits)) := by
    dsimp only [performApply]
    rw [if_neg (not_not.mpr habsent), dif_pos htempFits, hmode]
    rfl
  have hwritten : Midway host transactionId base manifest (disk.setTree
      (disk.destination.tree.put (temporaryPath host transactionId file.path) node.installed
        htempFits)) := by
    have hinstalled : ∀ temp, some node.installed = some temp →
        file.Known (regularSnapshot host temp) := by
      rintro _ ⟨⟩
      have hsame := snapshotOf_installed host (some node)
      dsimp only [Option.map_some, snapshotOf] at hsame
      rwa [hsame]
    exact h.setTemporary hsound hfile hinstalled fun path => FileTree.file?_put ..
  have htarget : ((disk.destination.tree.put (temporaryPath host transactionId file.path) node.installed
      htempFits).delete (temporaryPath host transactionId file.path)).Fits file.path := by
    have hbelow : file.path ∉ (temporaryPath host transactionId file.path).ancestors := by
      rw [ancestors_temporaryPath]
      exact RelativePath.ancestor_irrefl _
    rw [FileTree.fits_delete _ _ (hsound.new file hfile).temporary_not_above hbelow]
    exact hwritten.fits hsound hfile
  have hreplace : performApply (.atomicReplace (temporaryPath host transactionId file.path) file.path) none
      (disk.setTree (disk.destination.tree.put (temporaryPath host transactionId file.path) node.installed
        htempFits)) = some (.ok (), disk.setTree (((disk.destination.tree.put
          (temporaryPath host transactionId file.path) node.installed htempFits).delete
            (temporaryPath host transactionId file.path)).put file.path node.installed htarget)) := by
    dsimp only [performApply, ApplyDisk.setTree]
    rw [FileTree.file?_put, if_pos rfl]
    dsimp only
    rw [dif_pos htarget]
  have hcheck : ¬(host.sha256Hex node.bytes ≠ (regularSnapshot host node).digest ∨
      node.bytes.length ≠ (regularSnapshot host node).bytes) := by
    rintro (hdigest | hlength)
    · exact hdigest rfl
    · exact hlength rfl
  refine ⟨_, ?_, hwritten.perform hsound
    (c := .atomicReplace (temporaryPath host transactionId file.path) file.path)
    ⟨file, hfile, rfl, rfl⟩ hreplace, fun path => ?_⟩
  · rw [installSnapshot.eq_def, Program.run_bind hvalid]
    change Program.run _ _ (ite _ _ _) _ = _
    rw [if_neg hcheck, Program.run_bind (run_call (performApply_createDestinationParent _ _)),
      Program.run_bind (run_check looks_performApply habove), Program.run_bind htemp,
      Program.run_bind (run_call hwrite), Program.run_bind (run_call hreplace)]
    exact run_call (performApply_syncDirectory _ _)
  · dsimp only [ApplyDisk.setTree]
    rw [FileTree.file?_put]
    split
    · rfl
    · rw [FileTree.file?_delete, FileTree.file?_put]
      split
      · next heq => rw [heq, habsent]
      · rfl

theorem Midway.run_install (h : Midway host transactionId base manifest disk)
    (hsound : Sound host transactionId digest before after base manifest) (hfile : file ∈ manifest.files)
    (hwanted : file.Known (snapshotOf host wanted))
    (habsent : disk.destination.tree.file? (temporaryPath host transactionId file.path) = none) :
    ∃ rest, (installSnapshot host transactionId file.path (snapshotOf host wanted)
        (wanted.map FileNode.bytes)).run performApply none disk = some (.ok (), rest) ∧
      Midway host transactionId base manifest rest ∧
      ∀ path, rest.destination.tree.file? path =
        if path = file.path then wanted.map FileNode.installed
        else disk.destination.tree.file? path := by
  cases wanted with
  | none => exact h.run_remove hsound hfile hwanted none
  | some node => exact h.run_put hsound hfile hwanted habsent

lemma loadPayload_frozen {dir : TransactionDir} (hdir : disk.transactions.get? transactionId = some dir)
    {payload : Option String} (h : ∀ node, wanted = some node →
      ∃ name, payload = some name ∧ dir.payloads.get? name = some node.bytes) :
    loadPayload host transactionId payload (snapshotOf host wanted) disk =
      .ok (wanted.map FileNode.bytes) := by
  cases wanted with
  | none => rfl
  | some node =>
      obtain ⟨name, rfl, hbytes⟩ := h node rfl
      have hregular : (snapshotOf host (some node)).kind ≠ .missing := nofun
      rw [loadPayload, if_neg hregular]
      simp only [except_bind_eq_ok, findTransaction, demand_eq_ok, refuse_eq_ok]
      refine ⟨name, rfl, dir, hdir, node.bytes, hbytes, (), ?_, rfl⟩
      rintro (hlength | hdigest)
      · exact hlength rfl
      · exact hdigest rfl

lemma Sound.temporary_kept (h : Sound host transactionId digest before after base manifest)
    (hfile : file ∈ manifest.files) {rest : ApplyDisk} {there : Option FileNode}
    (hpaths : ∀ path, rest.destination.tree.file? path =
      if path = file.path then there else disk.destination.tree.file? path) (other : RelativePath) :
    rest.destination.tree.file? (temporaryPath host transactionId other) =
      disk.destination.tree.file? (temporaryPath host transactionId other) := by
  rw [hpaths, if_neg (h.new file hfile).ne_temporary.symm]

theorem Midway.run_installFiles (h : Midway host transactionId base manifest disk)
    (hsound : Sound host transactionId digest before after base manifest) {files : List FileArtifact}
    (hfiles : ∀ file ∈ files, file ∈ manifest.files) (hnodup : (files.map FileArtifact.path).Nodup)
    (habsent : ∀ file ∈ manifest.files,
      disk.destination.tree.file? (temporaryPath host transactionId file.path) = none) :
    ∃ rest, (installFiles host transactionId files).run performApply none disk = some (.ok (), rest) ∧
      Midway host transactionId base manifest rest ∧
      (∀ file ∈ files, rest.destination.tree.file? file.path =
        (before.source.tree.file? file.path).map FileNode.installed) ∧
      ∀ path, (∀ file ∈ files, path ≠ file.path) →
        rest.destination.tree.file? path = disk.destination.tree.file? path := by
  induction files generalizing disk with
  | nil => exact ⟨disk, rfl, h, List.forall_mem_nil _, fun _ _ => rfl⟩
  | cons file files ih =>
      obtain ⟨hfile, hfiles⟩ := List.forall_mem_cons.mp hfiles
      obtain ⟨hpath, hnodup⟩ := List.nodup_cons.mp hnodup
      obtain ⟨dir, hdir, hfrozen⟩ := hsound.frozen.files
      have hfrozen := hfrozen file hfile
      rw [← hsound.transactions, ← h.transactions] at hdir
      have hload := run_check looks_performApply (@loadPayload_frozen host _ _ _ _ hdir _ hfrozen.postPayload)
      rw [← hfrozen.post] at hload
      obtain ⟨next, hinstall, hnext, hpaths⟩ :=
        h.run_install hsound hfile (.inr hfrozen.post.symm) (habsent file hfile)
      rw [← hfrozen.post] at hinstall
      obtain ⟨rest, hrun, hrest, hinstalled, hothers⟩ := ih hnext hfiles hnodup fun other hother => by
        rw [hsound.temporary_kept hfile hpaths]
        exact habsent other hother
      have hlater : ∀ other ∈ files, file.path ≠ other.path := fun other hother heq =>
        hpath (heq ▸ List.mem_map_of_mem hother)
      refine ⟨rest, ?_, hrest, List.forall_mem_cons.mpr ⟨?_, hinstalled⟩, fun path hne => ?_⟩
      · rw [installFiles, Program.run_bind hload, Program.run_bind hinstall]
        exact hrun
      · rw [hothers _ hlater, hpaths, if_pos rfl]
      · obtain ⟨hne, hothersNe⟩ := List.forall_mem_cons.mp hne
        rw [hothers path hothersNe, hpaths, if_neg hne]

theorem Midway.run_restoreFiles (h : Midway host transactionId base manifest disk)
    (hsound : Sound host transactionId digest before after base manifest)
    {states : List (FileArtifact × Snapshot)} (hfiles : ∀ state ∈ states, state.1 ∈ manifest.files)
    (hstates : ∀ state ∈ states,
      state.2 = snapshotOf host (disk.destination.tree.file? state.1.path))
    (hnodup : (states.map fun state => state.1.path).Nodup)
    (habsent : ∀ file ∈ manifest.files,
      disk.destination.tree.file? (temporaryPath host transactionId file.path) = none) :
    ∃ rest, (restoreFiles host transactionId states).run performApply none disk = some (.ok (), rest) ∧
      Midway host transactionId base manifest rest ∧
      (∀ state ∈ states, snapshotOf host (rest.destination.tree.file? state.1.path) = state.1.pre) ∧
      ∀ path, (∀ state ∈ states, path ≠ state.1.path) →
        rest.destination.tree.file? path = disk.destination.tree.file? path := by
  induction states generalizing disk with
  | nil => exact ⟨disk, rfl, h, List.forall_mem_nil _, fun _ _ => rfl⟩
  | cons state states ih =>
      obtain ⟨file, current⟩ := state
      obtain ⟨hfile, hfiles⟩ := List.forall_mem_cons.mp hfiles
      obtain ⟨hcurrent, hstates⟩ := List.forall_mem_cons.mp hstates
      obtain ⟨hpath, hnodup⟩ := List.nodup_cons.mp hnodup
      dsimp only at hfile hcurrent hpath
      have hlater : ∀ state ∈ states, file.path ≠ state.1.path := fun state hstate heq =>
        hpath (List.mem_map.mpr ⟨state, hstate, heq.symm⟩)
      rw [restoreFiles]
      split
      · next hpre =>
          obtain ⟨rest, hrun, hrest, hrestored, hothers⟩ := ih h hfiles hstates hnodup habsent
          refine ⟨rest, hrun, hrest, List.forall_mem_cons.mpr ⟨?_, hrestored⟩, fun path hne => ?_⟩
          · dsimp only
            rw [hothers _ hlater, ← hcurrent, hpre]
          · exact hothers path (List.forall_mem_cons.mp hne).2
      · obtain ⟨dir, hdir, hfrozen⟩ := hsound.frozen.files
        have hfrozen := hfrozen file hfile
        rw [← hsound.transactions, ← h.transactions] at hdir
        have hload := run_check looks_performApply (@loadPayload_frozen host _ _ _ _ hdir _ hfrozen.prePayload)
        rw [← hfrozen.pre] at hload
        obtain ⟨next, hinstall, hnext, hpaths⟩ :=
          h.run_install hsound hfile (.inl hfrozen.pre.symm) (habsent file hfile)
        rw [← hfrozen.pre] at hinstall
        have hkept : ∀ state ∈ states,
            state.2 = snapshotOf host (next.destination.tree.file? state.1.path) := by
          intro state hstate
          rw [hpaths, if_neg (hlater state hstate).symm]
          exact hstates state hstate
        obtain ⟨rest, hrun, hrest, hrestored, hothers⟩ := ih hnext hfiles hkept hnodup fun other hother => by
          rw [hsound.temporary_kept hfile hpaths]
          exact habsent other hother
        refine ⟨rest, ?_, hrest, List.forall_mem_cons.mpr ⟨?_, hrestored⟩, fun path hne => ?_⟩
        · rw [Program.run_bind hload, Program.run_bind hinstall]
          exact hrun
        · dsimp only
          rw [hothers _ hlater, hpaths, if_pos rfl, snapshotOf_installed, hfrozen.pre]
        · obtain ⟨hne, hothersNe⟩ := List.forall_mem_cons.mp hne
          rw [hothers path hothersNe, hpaths, if_neg hne]

end Installed

end DevCommandCenter.Delegation
