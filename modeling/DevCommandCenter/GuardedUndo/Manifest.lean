import DevCommandCenter.GuardedUndo.Domain

/-! The restoration manifest: what its files may be, and the bytes whose digest binds them. -/

namespace DevCommandCenter.GuardedUndo

open Library

structure RestoreAccounting where
  fileCount : ℕ
  artifactBytes : ℕ
  deriving DecidableEq

-- the sum stays below 2 ^ 31, so that `checked_add` never fails
def accountRestoreFiles (files : List TurnRestoreFile) :
    Except GuardedUndoSchemaError RestoreAccounting := do
  refuse (files.length > maxRestoreFiles) (.accountingLimit .tooManyFiles)
  files.forM TurnRestoreFile.validate
  let artifactBytes := (files.map TurnRestoreFile.preSize).sum
  refuse (artifactBytes > maxPreimageBytesPerSet) (.accountingLimit .setTooLarge)
  return { fileCount := files.length, artifactBytes := artifactBytes }

def bigEndian (width value : ℕ) : List Byte :=
  (List.range width).reverse.map fun i => Fin.ofNat 256 (value / 256 ^ i)

def textBytes (text : String) : List Byte :=
  text.toUTF8.data.toList.map UInt8.toFin

def pushBytes (value : List Byte) : List Byte :=
  bigEndian 8 value.length ++ value

def RegularFileMetadataV1.writeCanonical (metadata : RegularFileMetadataV1) :
    Except GuardedUndoSchemaError (List Byte) := do
  metadata.validate
  return bigEndian 4 metadata.schemaVersion ++ pushBytes (textBytes metadata.adapter) ++
    pushBytes metadata.fileIdentity ++ bigEndian 8 metadata.linkCount ++
    bigEndian 4 metadata.fields.entries.length ++
    metadata.fields.entries.flatMap fun field =>
      pushBytes (textBytes field.1) ++ pushBytes field.2

def canonicalFile (file : TurnRestoreFile) : Except GuardedUndoSchemaError (List Byte) := do
  let metadata ← file.metadataFingerprint.writeCanonical
  return bigEndian 4 file.ordinal ++ pushBytes file.pathBytes.bytes ++
    pushBytes (textBytes file.status.asStr) ++ bigEndian 8 file.preSize ++
    file.preSha256.bytes ++ file.preArtifactKey.bytes ++ bigEndian 8 file.resultSize ++
    file.resultSha256.bytes ++ metadata

def checkCanonicalOrder (previous : Option OpaqueRepoPath) (artifactKeys : List ArtifactKey)
    (expected : ℕ) : List TurnRestoreFile → Check
  | [] => .ok ()
  | file :: rest => do
      refuse (file.ordinal ≠ expected) (.invalidField "ordinals must match canonical path order")
      refuse (previous = some file.pathBytes) (.invalidField "duplicate restore path")
      refuse (file.preArtifactKey ∈ artifactKeys) (.invalidField "duplicate preimage artifact key")
      checkCanonicalOrder (some file.pathBytes) (file.preArtifactKey :: artifactKeys)
        (expected + 1) rest

def sortedByPath (files : List TurnRestoreFile) : List TurnRestoreFile :=
  files.insertionSort fun a b => a.pathBytes.bytes ≤ b.pathBytes.bytes

def canonicalRestoreManifest (files : List TurnRestoreFile) :
    Except GuardedUndoSchemaError (List Byte) := do
  let _ ← accountRestoreFiles files
  let ordered := sortedByPath files
  checkCanonicalOrder none [] 0 ordered
  let rows ← ordered.mapM canonicalFile
  return textBytes "DCC_GUARDED_UNDO_MANIFEST\x00" ++ bigEndian 4 restoreManifestSchemaVersion ++
    bigEndian 4 restoreCaptureVersion ++ bigEndian 4 ordered.length ++ rows.flatten

section Digest

variable (sha256 : List Byte → Sha256Digest)

def canonicalRestoreManifestDigest (files : List TurnRestoreFile) :
    Except GuardedUndoSchemaError Sha256Digest := do
  let manifest ← canonicalRestoreManifest files
  return sha256 manifest

def validateRestoreSetManifest (restoreSet : TurnRestoreSet) (files : List TurnRestoreFile) :
    Check := do
  restoreSet.validate
  refuse (∃ file ∈ files, file.restoreSetId ≠ restoreSet.restoreSetId)
    (.invalidField "file belongs to another set")
  let accounting ← accountRestoreFiles files
  refuse (accounting.fileCount ≠ restoreSet.fileCount ∨
      accounting.artifactBytes ≠ restoreSet.artifactBytes)
    (.invalidField "accounting mismatch")
  match restoreSet.manifestDigest with
  | some expected => do
      let digest ← canonicalRestoreManifestDigest sha256 files
      refuse (digest ≠ expected) .manifestDigestMismatch
  | none =>
      refuse (¬(files = [] ∧ restoreSet.state = .collecting))
        (.invalidField "files require manifest digest")

end Digest

lemma checkCanonicalOrder_ok {previous : Option OpaqueRepoPath} {keys : List ArtifactKey}
    {expected : ℕ} {files : List TurnRestoreFile}
    (h : checkCanonicalOrder previous keys expected files = .ok ()) :
    files.map TurnRestoreFile.ordinal = List.range' expected files.length ∧
      (files.map TurnRestoreFile.pathBytes).IsChain (· ≠ ·) := by
  induction files generalizing previous keys expected with
  | nil => exact ⟨rfl, .nil⟩
  | cons file rest ih =>
      simp only [checkCanonicalOrder, except_seq_eq_ok, refuse_eq_ok, not_not] at h
      obtain ⟨hordinal, -, -, hrest⟩ := h
      obtain ⟨hordinals, hpaths⟩ := ih hrest
      refine ⟨by rw [List.map_cons, hordinal, hordinals, List.length_cons, List.range'_succ], ?_⟩
      cases rest with
      | nil => exact .singleton _
      | cons next rest =>
          simp only [checkCanonicalOrder, except_seq_eq_ok, refuse_eq_ok, not_not] at hrest
          refine .cons_cons (fun heq => hrest.2.1 (congrArg some heq)) hpaths

end DevCommandCenter.GuardedUndo
