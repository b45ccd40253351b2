import DevCommandCenter.GuardedUndo.JournalEffects
import Mathlib.Data.Fin.Basic
import Mathlib.Data.List.Lex

/-! What a restoration set that the journal loads, eligible, says of itself and of its files. -/

namespace DevCommandCenter.GuardedUndo

open Library JournalStore

variable {encoding : JournalEncoding} {s : JournalStore} {id : RestoreSetId}
  {restore : TurnRestoreSet} {files : List TurnRestoreFile}

structure LoadedSet (encoding : JournalEncoding) (restore : TurnRestoreSet)
    (files : List TurnRestoreFile) : Prop where
  eligible : restore.state = .eligible
  valid : restore.validate = .ok ()
  manifest : validateRestoreSetManifest encoding.sha256 restore files = .ok ()
  rootValid : validateSome validateRoot restore.rootId = .ok ()
  gitValid : validateSome GitIdentityV1.validate restore.gitIdentity = .ok ()
  nonempty : files ≠ []
  few : files.length ≤ maxRestoreFiles
  own : ∀ file ∈ files, file.restoreSetId = restore.restoreSetId
  filesValid : ∀ file ∈ files, file.validate = .ok ()
  metadataFits : ∀ file ∈ files, encoding.metadataJson file.metadataFingerprint ≤ 4096
  ordinals : files.map TurnRestoreFile.ordinal = List.range files.length
  paths : (files.map TurnRestoreFile.pathBytes).Nodup

lemma TurnRestoreSet.stateConsistent_of_validate (h : restore.validate = .ok ()) :
    restore.stateConsistent = true := by
  simp only [TurnRestoreSet.validate, except_seq_eq_ok, refuse_eq_ok, Bool.not_eq_false] at h
  exact h.2.2.2.2.2.2.2.2.2.2.2.2

lemma sortedByPath_paths
    (h : ((sortedByPath files).map TurnRestoreFile.pathBytes).IsChain (· ≠ ·)) :
    (files.map TurnRestoreFile.pathBytes).Nodup := by
  have hsorted : ((sortedByPath files).map TurnRestoreFile.pathBytes).Pairwise
      fun a b => a.bytes ≤ b.bytes := by
    rw [List.pairwise_map]
    exact List.pairwise_insertionSort (fun a b : TurnRestoreFile =>
      a.pathBytes.bytes ≤ b.pathBytes.bytes) files
  have hstrict : ((sortedByPath files).map TurnRestoreFile.pathBytes).IsChain
      fun a b => a.bytes < b.bytes := by
    apply List.isChain_iff_getElem.mpr
    intro i hi
    apply lt_of_le_of_ne (List.isChain_iff_getElem.mp hsorted.isChain i hi)
    intro heq
    apply List.isChain_iff_getElem.mp h i hi
    generalize ((sortedByPath files).map TurnRestoreFile.pathBytes)[i] = a at heq ⊢
    generalize ((sortedByPath files).map TurnRestoreFile.pathBytes)[i + 1] = b at heq ⊢
    cases a
    cases b
    exact congrArg OpaqueRepoPath.mk heq
  have hpairwise := List.isChain_iff_pairwise.mp hstrict
  have hnodup : ((sortedByPath files).map TurnRestoreFile.pathBytes).Nodup :=
    hpairwise.imp fun hlt heq => absurd hlt (by simp [heq])
  exact ((List.perm_insertionSort _ files).map TurnRestoreFile.pathBytes).nodup_iff.mp hnodup

lemma manifest_files (h : validateRestoreSetManifest encoding.sha256 restore files = .ok ())
    (hdigest : restore.manifestDigest.isSome = true) :
    files.length ≤ maxRestoreFiles ∧
      checkCanonicalOrder none [] 0 (sortedByPath files) = .ok () := by
  obtain ⟨digest, hsome⟩ := Option.isSome_iff_exists.mp hdigest
  simp only [validateRestoreSetManifest, except_bind_eq_ok, Unique.exists_iff, hsome,
    canonicalRestoreManifestDigest, canonicalRestoreManifest, accountRestoreFiles,
    refuse_eq_ok, not_lt] at h
  obtain ⟨-, -, -, ⟨hfew, -⟩, -, -, ⟨-, ⟨-, -, horder, -⟩, -⟩, -⟩ := h
  exact ⟨hfew, horder⟩

lemma ordinals_of_canonical (hsorted : files.Pairwise fun a b => a.ordinal ≤ b.ordinal)
    (h : checkCanonicalOrder none [] 0 (sortedByPath files) = .ok ()) :
    files.map TurnRestoreFile.ordinal = List.range files.length := by
  have hlength : (sortedByPath files).length = files.length := List.length_insertionSort _ _
  have hordinals : (sortedByPath files).map TurnRestoreFile.ordinal = List.range files.length := by
    rw [(checkCanonicalOrder_ok h).1, hlength, List.range_eq_range']
  have hperm : (files.map TurnRestoreFile.ordinal).Perm (List.range files.length) :=
    hordinals ▸ ((List.perm_insertionSort _ files).map TurnRestoreFile.ordinal).symm
  exact hperm.eq_of_pairwise' (r := (· ≤ ·)) (List.pairwise_map.mpr hsorted) List.pairwise_le_range

theorem loadedSet (h : s.loadTurnRestoreSet encoding id = .ok (some (restore, files)))
    (heligible : restore.state = .eligible) : LoadedSet encoding restore files := by
  obtain ⟨hmem, hid, hfiles⟩ := loadTurnRestoreSet_ok h
  have hcheck : checkRestoreRows encoding restore files = .ok () := by
    unfold loadTurnRestoreSet at h
    split at h
    · obtain ⟨_, hcheck, h⟩ := except_bind_eq_ok.mp h
      cases h
      exact hcheck
    · cases h
  simp only [checkRestoreRows, except_seq_eq_ok, refuse_eq_ok, schemaChecked_eq_ok, not_or,
    not_exists, not_and, not_lt] at hcheck
  obtain ⟨⟨-, -, -, -, hmetadata⟩, hroot, hgit, hvalid, -, hrows, hmanifest⟩ := hcheck
  have hconsistent := TurnRestoreSet.stateConsistent_of_validate hvalid
  simp only [TurnRestoreSet.stateConsistent, heligible, Bool.and_eq_true] at hconsistent
  have hdigest : restore.manifestDigest.isSome = true := hconsistent.1.1.1.1.1.2
  have hnonempty : files ≠ [] := by
    rintro rfl
    rw [if_pos rfl] at hmanifest
    exact refuse_eq_ok.mp hmanifest hdigest
  rw [if_neg hnonempty, schemaChecked_eq_ok] at hmanifest
  obtain ⟨hfew, horder⟩ := manifest_files hmanifest hdigest
  have hsorted : files.Pairwise fun a b => a.ordinal ≤ b.ordinal := by
    rw [hfiles]
    exact List.pairwise_insertionSort (fun a b : TurnRestoreFile => a.ordinal ≤ b.ordinal) _
  have hfile := forM_eq_ok.mp hrows
  simp only [except_seq_eq_ok, schemaChecked_eq_ok] at hfile
  exact {
    eligible := heligible
    valid := hvalid
    manifest := hmanifest
    rootValid := hroot
    gitValid := hgit
    nonempty := hnonempty
    few := hfew
    own := fun file hmem' => by
      rw [hfiles] at hmem'
      exact (mem_restoreFilesOf.mp hmem').2.trans hid.symm
    filesValid := fun file hmem' => (hfile file hmem').2
    metadataFits := hmetadata
    ordinals := ordinals_of_canonical hsorted horder
    paths := sortedByPath_paths (checkCanonicalOrder_ok horder).2 }

end DevCommandCenter.GuardedUndo
