import DevCommandCenter.Delegation.FrozenArtifacts

/-! The destination between the first and the last step of an apply or of a rollback. -/

namespace DevCommandCenter.Delegation

open Library GuardedUndo

def NewIn (transactionId : String) (path : RelativePath) : Prop :=
  ∀ component ∈ path.components, ¬transactionId.toList <:+: component.toList

instance (transactionId : String) (path : RelativePath) : Decidable (NewIn transactionId path) :=
  inferInstanceAs (Decidable (∀ component ∈ path.components, _))

section Paths

variable {host : ApplyHost} {transactionId : String} {path path' : RelativePath}

lemma infix_temporaryPath (host : ApplyHost) (transactionId : String) (path : RelativePath) :
    transactionId.toList <:+: (temporaryPath host transactionId path).name.toList := by
  refine ⟨("." ++ path.name ++ ".dcc-tmp-").toList,
    ("-" ++ String.ofList ((host.sha256Hex (textBytes path.render)).toList.take 16)).toList, ?_⟩
  simp only [temporaryPath, String.toList_append, List.append_assoc]

lemma NewIn.ne_temporary (h : NewIn transactionId path) : path ≠ temporaryPath host transactionId path' := by
  rintro rfl
  exact h _ (List.mem_append_right _ (List.mem_singleton_self _)) (infix_temporaryPath ..)

lemma NewIn.temporary_not_above (h : NewIn transactionId path) :
    temporaryPath host transactionId path' ∉ path.ancestors := fun habove =>
  h _ (List.mem_append_left _ (RelativePath.name_mem_parent habove)) (infix_temporaryPath ..)

lemma ancestors_temporaryPath (host : ApplyHost) (transactionId : String) (path : RelativePath) :
    (temporaryPath host transactionId path).ancestors = path.ancestors :=
  RelativePath.ancestors_eq rfl

lemma temporaryPath_injective (hdigests : host.DigestsFit)
    (h : temporaryPath host transactionId path = temporaryPath host transactionId path') : path = path' := by
  have hdash : ∀ path : RelativePath, '-' ∉ (host.sha256Hex (textBytes path.render)).toList.take 16 := by
    intro path hmem
    have hhex := List.all_eq_true.mp (hdigests (textBytes path.render)).1 '-' (List.mem_of_mem_take hmem)
    exact absurd hhex (by decide)
  have hsplit : ∀ path : RelativePath, (temporaryPath host transactionId path).name.toList =
      (".".toList ++ path.name.toList ++ (".dcc-tmp-".toList ++ transactionId.toList)) ++
        '-' :: (host.sha256Hex (textBytes path.render)).toList.take 16 := by
    intro path
    simp only [temporaryPath, String.toList_append, String.toList_ofList, List.append_assoc]
    rfl
  obtain ⟨hparent, hname⟩ := RelativePath.mk.inj h
  have hlist : (temporaryPath host transactionId path).name.toList =
      (temporaryPath host transactionId path').name.toList := congrArg String.toList hname
  rw [hsplit, hsplit] at hlist
  have hsame := List.append_cancel_left
    (List.append_cancel_right (append_mark_inj (hdash path) (hdash path') hlist).1)
  obtain ⟨parent, name⟩ := path
  obtain ⟨parent', name'⟩ := path'
  rw [RelativePath.mk.injEq]
  exact ⟨hparent, String.toList_injective hsame⟩

end Paths

structure Sound (host : ApplyHost) (transactionId digest : String) (before after base : ApplyDisk)
    (manifest : Manifest) : Prop where
  digests : host.DigestsFit
  frozen : FrozenApply host transactionId digest before after manifest
  transactions : base.transactions = after.transactions
  new : ∀ file ∈ manifest.files, NewIn transactionId file.path
  fits : ∀ file ∈ manifest.files, base.destination.tree.Fits file.path
  noDirectory : ∀ file ∈ manifest.files,
    base.destination.tree.isDirectory (temporaryPath host transactionId file.path) = false

def FileArtifact.Known (file : FileArtifact) (snapshot : Snapshot) : Prop :=
  snapshot = file.pre ∨ snapshot = file.post

structure Midway (host : ApplyHost) (transactionId : String) (base : ApplyDisk) (manifest : Manifest)
    (disk : ApplyDisk) : Prop where
  source : disk.source = base.source
  git : disk.destination.git = base.destination.git
  transactions : disk.transactions = base.transactions
  known : ∀ file ∈ manifest.files,
    file.Known (snapshotOf host (disk.destination.tree.file? file.path))
  temporary : ∀ file ∈ manifest.files, ∀ node,
    disk.destination.tree.file? (temporaryPath host transactionId file.path) = some node →
    file.Known (regularSnapshot host node)
  others : ∀ path, (∀ file ∈ manifest.files, path ≠ file.path ∧
      path ≠ temporaryPath host transactionId file.path) →
    disk.destination.tree.file? path = base.destination.tree.file? path

section Between

variable {host : ApplyHost} {transactionId digest : String} {before after base disk : ApplyDisk}
  {manifest : Manifest} {file : FileArtifact} {path : RelativePath} {node : FileNode}

lemma FrozenApply.frozenFrom (h : FrozenApply host transactionId digest before after manifest)
    (hfile : file ∈ manifest.files) :
    ∃ payloads, file.FrozenFrom host before.destination.tree before.source.tree payloads := by
  obtain ⟨dir, -, hfiles⟩ := h.files
  exact ⟨dir.payloads, hfiles file hfile⟩

lemma FrozenApply.on_a_side (h : FrozenApply host transactionId digest before after manifest)
    (hfile : file ∈ manifest.files) (hknown : file.Known (regularSnapshot host node)) :
    (∃ node, before.destination.tree.file? file.path = some node) ∨
      ∃ node, before.source.tree.file? file.path = some node := by
  obtain ⟨payloads, hfrozen⟩ := h.frozenFrom hfile
  rcases hknown with hpre | hpost
  · rw [hfrozen.pre] at hpre
    exact .inl (snapshotOf_regular (by rw [← hpre]; rfl))
  · rw [hfrozen.post] at hpost
    exact .inr (snapshotOf_regular (by rw [← hpost]; rfl))

lemma FrozenApply.not_above (h : FrozenApply host transactionId digest before after manifest)
    (hfile : file ∈ manifest.files) {other : FileArtifact} (hother : other ∈ manifest.files)
    (hknown : other.Known (regularSnapshot host node)) :
    other.path ∉ file.path.ancestors ∧ file.path ∉ other.path.ancestors := by
  obtain ⟨payloads, hfrozen⟩ := h.frozenFrom hfile
  have hside : ∀ tree : FileTree, tree.Fits file.path → (∃ node, tree.file? other.path = some node) →
      other.path ∉ file.path.ancestors ∧ file.path ∉ other.path.ancestors := by
    rintro tree hfits ⟨node, hnode⟩
    constructor
    · intro habove
      rw [hfits.1 _ habove] at hnode
      cases hnode
    · intro hbelow
      have hdirectory := FileTree.isDirectory_iff.mpr ⟨other.path, node, hnode, hbelow⟩
      rw [hfits.2] at hdirectory
      cases hdirectory
  rcases h.on_a_side hother hknown with hnode | hnode
  · exact hside _ hfrozen.preFits hnode
  · exact hside _ hfrozen.postFits hnode

lemma Midway.file_cases (h : Midway host transactionId base manifest disk)
    (hnode : disk.destination.tree.file? path = some node) :
    (∃ file ∈ manifest.files, path = file.path ∧ file.Known (regularSnapshot host node)) ∨
    (∃ file ∈ manifest.files, path = temporaryPath host transactionId file.path ∧
      file.Known (regularSnapshot host node)) ∨
    base.destination.tree.file? path = some node := by
  by_cases hfile : ∃ file ∈ manifest.files, path = file.path
  · obtain ⟨file, hfile, rfl⟩ := hfile
    have hknown := h.known file hfile
    rw [hnode] at hknown
    exact .inl ⟨file, hfile, rfl, hknown⟩
  by_cases htemp : ∃ file ∈ manifest.files, path = temporaryPath host transactionId file.path
  · obtain ⟨file, hmem, rfl⟩ := htemp
    exact .inr (.inl ⟨file, hmem, rfl, h.temporary file hmem node hnode⟩)
  · rw [h.others path fun file hmem => ⟨fun heq => hfile ⟨file, hmem, heq⟩,
      fun heq => htemp ⟨file, hmem, heq⟩⟩] at hnode
    exact .inr (.inr hnode)

theorem Midway.fits (h : Midway host transactionId base manifest disk)
    (hsound : Sound host transactionId digest before after base manifest)
    (hfile : file ∈ manifest.files) : disk.destination.tree.Fits file.path := by
  constructor
  · intro above habove
    rw [Option.eq_none_iff_forall_ne_some]
    intro node hnode
    rcases h.file_cases hnode with ⟨other, hother, rfl, hknown⟩ | ⟨other, -, rfl, -⟩ | hbase
    · exact (hsound.frozen.not_above hfile hother hknown).1 habove
    · exact (hsound.new file hfile).temporary_not_above habove
    · rw [(hsound.fits file hfile).1 above habove] at hbase
      cases hbase
  · rw [Bool.eq_false_iff]
    intro hdirectory
    obtain ⟨below, node, hnode, habove⟩ := FileTree.isDirectory_iff.mp hdirectory
    rcases h.file_cases hnode with ⟨other, hother, rfl, hknown⟩ | ⟨other, hother, rfl, hknown⟩ | hbase
    · exact (hsound.frozen.not_above hfile hother hknown).2 habove
    · rw [ancestors_temporaryPath] at habove
      exact (hsound.frozen.not_above hfile hother hknown).2 habove
    · have hbefore := FileTree.isDirectory_iff.mpr ⟨below, node, hbase, habove⟩
      rw [(hsound.fits file hfile).2] at hbefore
      cases hbefore

theorem Midway.noDirectory (h : Midway host transactionId base manifest disk)
    (hsound : Sound host transactionId digest before after base manifest)
    (hfile : file ∈ manifest.files) :
    disk.destination.tree.isDirectory (temporaryPath host transactionId file.path) = false := by
  rw [Bool.eq_false_iff]
  intro hdirectory
  obtain ⟨below, node, hnode, habove⟩ := FileTree.isDirectory_iff.mp hdirectory
  rcases h.file_cases hnode with ⟨other, hother, rfl, -⟩ | ⟨other, hother, rfl, -⟩ | hbase
  · exact (hsound.new other hother).temporary_not_above habove
  · rw [ancestors_temporaryPath] at habove
    exact (hsound.new other hother).temporary_not_above habove
  · have hbefore := FileTree.isDirectory_iff.mpr ⟨below, node, hbase, habove⟩
    rw [hsound.noDirectory file hfile] at hbefore
    cases hbefore

end Between

def Permitted (host : ApplyHost) (transactionId : String) (manifest : Manifest) : ApplyCall → Prop
  | .look | .createDestinationParent _ | .syncDirectory _ => True
  | .removeFile path => ∃ file ∈ manifest.files,
      path = temporaryPath host transactionId file.path ∨
        path = file.path ∧ file.Known (missingSnapshot host)
  | .writeDestinationTemp path bytes fileMode => ∃ file ∈ manifest.files,
      path = temporaryPath host transactionId file.path ∧
        file.Known (regularSnapshot host ⟨bytes, fileMode % 0o1000⟩)
  | .atomicReplace temp target => ∃ file ∈ manifest.files,
      temp = temporaryPath host transactionId file.path ∧ target = file.path

section Steps

variable {host : ApplyHost} {transactionId digest : String} {before after base disk : ApplyDisk}
  {manifest : Manifest} {file : FileArtifact}

lemma Sound.file_eq (h : Sound host transactionId digest before after base manifest)
    (hfile : file ∈ manifest.files) {other : FileArtifact} (hother : other ∈ manifest.files)
    (hpath : file.path = other.path) : file = other :=
  List.inj_on_of_nodup_map h.frozen.nodup hfile hother hpath

lemma Sound.file_eq_of_temporary (h : Sound host transactionId digest before after base manifest)
    (hfile : file ∈ manifest.files) {other : FileArtifact} (hother : other ∈ manifest.files)
    (htemp : temporaryPath host transactionId file.path = temporaryPath host transactionId other.path) :
    file = other :=
  h.file_eq hfile hother (temporaryPath_injective h.digests htemp)

lemma Midway.setTemporary (h : Midway host transactionId base manifest disk)
    (hsound : Sound host transactionId digest before after base manifest) (hfile : file ∈ manifest.files)
    {tree : FileTree} {temp : Option FileNode}
    (htemp : ∀ node, temp = some node → file.Known (regularSnapshot host node))
    (htree : ∀ path, tree.file? path =
      if path = temporaryPath host transactionId file.path then temp
      else disk.destination.tree.file? path) :
    Midway host transactionId base manifest (disk.setTree tree) where
  source := h.source
  git := h.git
  transactions := h.transactions
  known other hother := by
    dsimp only [ApplyDisk.setTree]
    rw [htree, if_neg (hsound.new other hother).ne_temporary]
    exact h.known other hother
  temporary other hother node hnode := by
    dsimp only [ApplyDisk.setTree] at hnode
    rw [htree] at hnode
    split at hnode
    · next heq =>
        rw [hsound.file_eq_of_temporary hother hfile heq]
        exact htemp node hnode
    · exact h.temporary other hother node hnode
  others path hpath := by
    dsimp only [ApplyDisk.setTree]
    rw [htree, if_neg (hpath file hfile).2]
    exact h.others path hpath

lemma Midway.setFile (h : Midway host transactionId base manifest disk)
    (hsound : Sound host transactionId digest before after base manifest) (hfile : file ∈ manifest.files)
    {tree : FileTree} {there : Option FileNode} (hknown : file.Known (snapshotOf host there))
    (htree : ∀ path, path ≠ temporaryPath host transactionId file.path → tree.file? path =
      if path = file.path then there else disk.destination.tree.file? path)
    (htemp : ∀ node, tree.file? (temporaryPath host transactionId file.path) = some node →
      file.Known (regularSnapshot host node)) :
    Midway host transactionId base manifest (disk.setTree tree) where
  source := h.source
  git := h.git
  transactions := h.transactions
  known other hother := by
    dsimp only [ApplyDisk.setTree]
    rw [htree _ (hsound.new other hother).ne_temporary]
    split
    · next heq =>
        rw [hsound.file_eq hother hfile heq]
        exact hknown
    · exact h.known other hother
  temporary other hother node hnode := by
    dsimp only [ApplyDisk.setTree] at hnode
    by_cases heq : temporaryPath host transactionId other.path =
        temporaryPath host transactionId file.path
    · rw [hsound.file_eq_of_temporary hother hfile heq] at hnode ⊢
      exact htemp node hnode
    · rw [htree _ heq, if_neg (hsound.new file hfile).ne_temporary.symm] at hnode
      exact h.temporary other hother node hnode
  others path hpath := by
    dsimp only [ApplyDisk.setTree]
    rw [htree _ (hpath file hfile).2, if_neg (hpath file hfile).1]
    exact h.others path hpath

theorem Midway.perform (h : Midway host transactionId base manifest disk)
    (hsound : Sound host transactionId digest before after base manifest) {c : ApplyCall}
    (hc : Permitted host transactionId manifest c) {fault : Option String}
    {reply : Except String c.Reply} {rest : ApplyDisk}
    (hperform : performApply c fault disk = some (reply, rest)) :
    Midway host transactionId base manifest rest := by
  cases fault with
  | some error =>
      cases c <;> cases hperform <;> exact h
  | none =>
      cases c with
      | look | createDestinationParent | syncDirectory =>
          cases hperform
          exact h
      | removeFile path =>
          dsimp only [performApply] at hperform
          split at hperform
          · cases hperform
            exact h
          · cases hperform
            obtain ⟨file, hfile, rfl | ⟨rfl, hmissing⟩⟩ := hc
            · exact h.setTemporary hsound hfile (fun node hnode => by cases hnode)
                fun path => FileTree.file?_delete ..
            · have hgone : file.Known (snapshotOf host none) := hmissing
              refine h.setFile hsound hfile hgone (fun path _ => FileTree.file?_delete ..) fun node hnode => ?_
              rw [FileTree.file?_delete, if_neg (hsound.new file hfile).ne_temporary.symm] at hnode
              exact h.temporary file hfile node hnode
      | writeDestinationTemp path bytes fileMode =>
          obtain ⟨file, hfile, rfl, hknown⟩ := hc
          dsimp only [performApply] at hperform
          split at hperform
          · cases hperform
            exact h
          · split at hperform
            · cases hperform
              exact h.setTemporary hsound hfile (fun node hnode => Option.some.inj hnode ▸ hknown)
                fun path => FileTree.file?_put ..
            · cases hperform
              exact h
      | atomicReplace temp target =>
          obtain ⟨file, hfile, rfl, rfl⟩ := hc
          dsimp only [performApply] at hperform
          split at hperform
          · cases hperform
            exact h
          · next node hnode =>
              split at hperform
              · cases hperform
                have hknown : file.Known (snapshotOf host (some node)) := h.temporary file hfile node hnode
                refine h.setFile hsound hfile hknown (fun path hpath => ?_) fun node' hnode' => ?_
                · rw [FileTree.file?_put, FileTree.file?_delete, if_neg hpath]
                · rw [FileTree.file?_put, if_neg (hsound.new file hfile).ne_temporary.symm,
                    FileTree.file?_delete, if_pos rfl] at hnode'
                  cases hnode'
              · cases hperform
                exact h

end Steps

end DevCommandCenter.Delegation
