import DevCommandCenter.GuardedUndo.JournalRuns
import DevCommandCenter.GuardedUndo.LoadedSets
import DevCommandCenter.Library.PrefixCode

/-! The bytes that a restoration manifest is hashed as: one for each set of files. -/

namespace DevCommandCenter.GuardedUndo

open Library

def metadataWord (metadata : RegularFileMetadataV1) : List Byte :=
  bigEndian 4 metadata.schemaVersion ++ pushBytes (textBytes metadata.adapter) ++
    pushBytes metadata.fileIdentity ++ bigEndian 8 metadata.linkCount ++
    (bigEndian 4 metadata.fields.entries.length ++
      metadata.fields.entries.flatMap fun field =>
        pushBytes (textBytes field.1) ++ pushBytes field.2)

def fileWord (file : TurnRestoreFile) : List Byte :=
  bigEndian 4 file.ordinal ++ pushBytes file.pathBytes.bytes ++
    pushBytes (textBytes file.status.asStr) ++ bigEndian 8 file.preSize ++
    file.preSha256.bytes ++ file.preArtifactKey.bytes ++ bigEndian 8 file.resultSize ++
    file.resultSha256.bytes ++ metadataWord file.metadataFingerprint

structure SameManifestEntry (file other : TurnRestoreFile) : Prop where
  ordinal : file.ordinal = other.ordinal
  pathBytes : file.pathBytes = other.pathBytes
  status : file.status = other.status
  preSize : file.preSize = other.preSize
  preSha256 : file.preSha256 = other.preSha256
  preArtifactKey : file.preArtifactKey = other.preArtifactKey
  resultSize : file.resultSize = other.resultSize
  resultSha256 : file.resultSha256 = other.resultSha256
  metadataFingerprint : file.metadataFingerprint = other.metadataFingerprint

section Words

lemma bigEndian_eq (width value : ℕ) : bigEndian width value = (digits 256 width value).reverse := by
  rw [bigEndian, digits, List.map_reverse]

lemma delimits_bigEndian (width : ℕ) :
    Delimits (fun value => value < 256 ^ width) (bigEndian width) Eq := by
  have h : Delimits (fun value => value < 256 ^ width)
      (fun value => (digits 256 width value).reverse) Eq := delimits_reverse_digits width
  simp only [← bigEndian_eq] at h
  exact h

lemma delimits_pushBytes : Delimits (fun value => value.length < 256 ^ 8) pushBytes Eq :=
  (delimits_bigEndian 8).prefixed

lemma length_textBytes (text : String) : (textBytes text).length = text.utf8ByteSize := by
  simp [textBytes]

lemma textBytes_injective {text text' : String} (h : textBytes text = textBytes text') :
    text = text' := by
  apply String.toByteArray_inj.mp
  apply ByteArray.ext
  apply Array.toList_inj.mp
  apply List.map_injective_iff.mpr _ h
  intro byte byte' heq
  exact UInt8.toFin_inj.mp heq

lemma delimits_field : Delimits
    (fun field : String × List Byte =>
      (textBytes field.1).length < 256 ^ 8 ∧ field.2.length < 256 ^ 8)
    (fun field => pushBytes (textBytes field.1) ++ pushBytes field.2) Eq := by
  have h := (delimits_pushBytes.part fun field : String × List Byte => textBytes field.1).append
    (delimits_pushBytes.part Prod.snd)
  apply h.imp (fun _ hfits => hfits)
  rintro ⟨name, value⟩ ⟨name', value'⟩ - - ⟨hname, hvalue⟩
  exact Prod.ext (textBytes_injective hname) hvalue

structure MetadataFits (metadata : RegularFileMetadataV1) : Prop where
  schemaVersion : metadata.schemaVersion = fileMetadataSchemaVersion
  adapter : metadata.adapter.utf8ByteSize ≤ 64
  fileIdentity : metadata.fileIdentity.length ≤ maxIdentityBytes
  linkCount : metadata.linkCount = 1
  few : metadata.fields.entries.length ≤ maxMetadataFields
  fields : ∀ field ∈ metadata.fields.entries,
    field.1 ∈ allowedMetadataFields ∧ field.2.length ≤ maxMetadataValueBytes

lemma metadataFits {metadata : RegularFileMetadataV1} (h : metadata.validate = .ok ()) :
    MetadataFits metadata := by
  simp only [RegularFileMetadataV1.validate, requireSchema, requireBoundedBytes, except_seq_eq_ok,
    refuse_eq_ok, not_not, not_or, not_lt, not_exists, not_and, Bool.not_eq_false] at h
  obtain ⟨hschema, hadapter, ⟨-, hidentity⟩, hlinks, hfew, hfields⟩ := h
  simp only [validStableLabel, Bool.and_eq_true, decide_eq_true_eq] at hadapter
  exact ⟨hschema, hadapter.1.2, hidentity, hlinks, hfew, hfields⟩

lemma allowed_short {name : String} (h : name ∈ allowedMetadataFields) : name.utf8ByteSize ≤ 13 := by
  simp only [allowedMetadataFields, List.mem_cons, List.not_mem_nil, or_false] at h
  rcases h with rfl | rfl | rfl | rfl | rfl | rfl | rfl <;> decide

lemma delimits_metadataWord : Delimits MetadataFits metadataWord Eq := by
  have h := ((((delimits_bigEndian 4).part RegularFileMetadataV1.schemaVersion).append
    (delimits_pushBytes.part fun metadata => textBytes metadata.adapter)).append
    (delimits_pushBytes.part RegularFileMetadataV1.fileIdentity)).append
    ((delimits_bigEndian 8).part RegularFileMetadataV1.linkCount) |>.append
    (((delimits_bigEndian 4).counted delimits_field).part fun metadata => metadata.fields.entries)
  apply h.imp
  · intro metadata hfits
    have hadapter := hfits.adapter
    have hidentity := hfits.fileIdentity
    have hfew := hfits.few
    simp only [maxIdentityBytes, maxMetadataFields] at hidentity hfew
    rw [hfits.schemaVersion, hfits.linkCount, length_textBytes]
    refine ⟨⟨⟨⟨by decide, by omega⟩, by omega⟩, by decide⟩, by omega, ?_⟩
    intro field hfield
    have hname := allowed_short (hfits.fields field hfield).1
    have hvalue := (hfits.fields field hfield).2
    simp only [maxMetadataValueBytes] at hvalue
    rw [length_textBytes]
    exact ⟨by omega, by omega⟩
  · rintro ⟨_, _, _, _, ⟨entries, _⟩⟩ ⟨_, _, _, _, ⟨entries', _⟩⟩ - -
    rintro ⟨⟨⟨⟨rfl, hadapter⟩, rfl⟩, rfl⟩, hentries⟩
    obtain rfl := textBytes_injective hadapter
    obtain rfl := List.forall₂_eq_eq_eq ▸ hentries
    rfl

structure FileFits (file : TurnRestoreFile) : Prop where
  ordinal : file.ordinal < maxRestoreFiles
  path : file.pathBytes.bytes.length ≤ maxOpaquePathBytes
  status : file.status = .modified
  preSize : file.preSize ≤ maxPreimageBytesPerFile
  resultSize : file.resultSize ≤ maxPreimageBytesPerFile
  metadata : MetadataFits file.metadataFingerprint

lemma delimits_digest : Delimits (fun _ => True) Sha256Digest.bytes Eq := by
  apply Delimits.sized (fun digest _ => digest.sized)
  rintro ⟨_, _⟩ ⟨_, _⟩ - - rfl
  rfl

lemma delimits_key : Delimits (fun _ => True) ArtifactKey.bytes Eq := by
  apply Delimits.sized (fun key _ => key.sized)
  rintro ⟨_, _⟩ ⟨_, _⟩ - - rfl
  rfl

lemma delimits_fileWord : Delimits FileFits fileWord SameManifestEntry := by
  have h := ((((delimits_bigEndian 4).part TurnRestoreFile.ordinal).append
    (delimits_pushBytes.part fun file => file.pathBytes.bytes)).append
    (delimits_pushBytes.part fun file => textBytes file.status.asStr)).append
    ((delimits_bigEndian 8).part TurnRestoreFile.preSize) |>.append
    (delimits_digest.part TurnRestoreFile.preSha256) |>.append
    (delimits_key.part TurnRestoreFile.preArtifactKey) |>.append
    ((delimits_bigEndian 8).part TurnRestoreFile.resultSize) |>.append
    (delimits_digest.part TurnRestoreFile.resultSha256) |>.append
    (delimits_metadataWord.part TurnRestoreFile.metadataFingerprint)
  apply h.imp
  · intro file hfits
    have hordinal := hfits.ordinal
    have hpath := hfits.path
    have hpre := hfits.preSize
    have hresult := hfits.resultSize
    simp only [maxRestoreFiles, maxOpaquePathBytes, maxPreimageBytesPerFile] at *
    rw [hfits.status, length_textBytes]
    exact ⟨⟨⟨⟨⟨⟨⟨⟨by omega, by omega⟩, by decide⟩, by omega⟩, trivial⟩, trivial⟩, by omega⟩,
      trivial⟩, hfits.metadata⟩
  · intro file other hfits hother hlike
    obtain ⟨⟨⟨⟨⟨⟨⟨⟨hordinal, hpath⟩, -⟩, hpre⟩, hpreSha⟩, hkey⟩, hresult⟩, hresultSha⟩, hmetadata⟩ :=
      hlike
    exact ⟨hordinal, congrArg OpaqueRepoPath.mk hpath, hfits.status.trans hother.status.symm, hpre,
      hpreSha, hkey, hresult, hresultSha, hmetadata⟩

end Words

variable {files others : List TurnRestoreFile} {bytes bytes' : List Byte}

lemma canonicalFile_ok {file : TurnRestoreFile} {word : List Byte}
    (h : canonicalFile file = .ok word) :
    file.metadataFingerprint.validate = .ok () ∧ word = fileWord file := by
  simp only [canonicalFile, RegularFileMetadataV1.writeCanonical, except_bind_eq_ok,
    Unique.exists_iff] at h
  obtain ⟨metadata, ⟨hvalid, hmetadata⟩, hword⟩ := h
  cases hmetadata
  cases hword
  refine ⟨hvalid, ?_⟩
  simp only [fileWord, metadataWord, List.append_assoc]

def manifestHeader : List Byte :=
  textBytes "DCC_GUARDED_UNDO_MANIFEST\x00" ++ bigEndian 4 restoreManifestSchemaVersion ++
    bigEndian 4 restoreCaptureVersion

structure Canonical (ordered : List TurnRestoreFile) (bytes : List Byte) : Prop where
  few : ordered.length ≤ maxRestoreFiles
  fits : ∀ file ∈ ordered, FileFits file
  paths : (ordered.map TurnRestoreFile.pathBytes).Nodup
  written : bytes = manifestHeader ++ (bigEndian 4 ordered.length ++ ordered.flatMap fileWord)

lemma fileFits {file : TurnRestoreFile} (h : file.validate = .ok ())
    (hordinal : file.ordinal < maxRestoreFiles) : FileFits file := by
  simp only [TurnRestoreFile.validate, except_seq_eq_ok, refuse_eq_ok, not_not, not_lt] at h
  obtain ⟨-, hpath, hstatus, hpre, hresult, hmetadata⟩ := h
  refine ⟨hordinal, ?_, hstatus, hpre, hresult, metadataFits hmetadata⟩
  unfold OpaqueRepoPath.validate at hpath
  split at hpath
  · split at hpath
    · cases hpath
    · omega
  · cases hpath

lemma flatten_rows {ordered : List TurnRestoreFile} {rows : List (List Byte)}
    (h : List.Forall₂ (fun file word => canonicalFile file = .ok word) ordered rows) :
    rows.flatten = ordered.flatMap fileWord := by
  induction h with
  | nil => rfl
  | cons hword _ ih => rw [List.flatten_cons, List.flatMap_cons, ih, (canonicalFile_ok hword).2]

lemma canonical (h : canonicalRestoreManifest files = .ok bytes) :
    Canonical (sortedByPath files) bytes := by
  have hperm : (sortedByPath files).Perm files := List.perm_insertionSort _ _
  simp only [canonicalRestoreManifest, accountRestoreFiles, except_bind_eq_ok, Unique.exists_iff,
    refuse_eq_ok, not_lt, forM_eq_ok] at h
  obtain ⟨-, ⟨hfew, hvalid, -, -⟩, horder, rows, hrows, hbytes⟩ := h
  cases hbytes
  obtain ⟨hordinals, hpaths⟩ := checkCanonicalOrder_ok horder
  rw [← hperm.length_eq] at hfew
  refine ⟨hfew, ?_, ?_, ?_⟩
  · intro file hfile
    apply fileFits (hvalid file (hperm.mem_iff.mp hfile))
    have hmem := List.mem_map_of_mem (f := TurnRestoreFile.ordinal) hfile
    rw [hordinals, List.mem_range'_1] at hmem
    omega
  · exact (hperm.map TurnRestoreFile.pathBytes).nodup_iff.mpr (sortedByPath_paths hpaths)
  · simp only [flatten_rows (mapM_eq_ok.mp hrows), manifestHeader, List.append_assoc]

lemma Canonical.paths_inj {ordered : List TurnRestoreFile} (h : Canonical ordered bytes)
    {file other : TurnRestoreFile} (hfile : file ∈ ordered) (hother : other ∈ ordered)
    (heq : file.pathBytes = other.pathBytes) : file = other :=
  List.inj_on_of_nodup_map h.paths hfile hother heq

lemma sortedByPath_eq_of_perm (h : canonicalRestoreManifest files = .ok bytes)
    (hperm : files.Perm others) : sortedByPath files = sortedByPath others := by
  have hsorted : (sortedByPath files).Perm (sortedByPath others) :=
    ((List.perm_insertionSort _ _).trans hperm).trans (List.perm_insertionSort _ _).symm
  apply List.Perm.eq_of_pairwise _ (List.pairwise_insertionSort _ _)
    (List.pairwise_insertionSort _ _) hsorted
  intro file other hfile hother hle hge
  apply (canonical h).paths_inj hfile (hsorted.mem_iff.mpr hother)
  exact congrArg OpaqueRepoPath.mk (le_antisymm hle hge)

theorem manifest_encoding_canonical (h : canonicalRestoreManifest files = .ok bytes)
    (h' : canonicalRestoreManifest others = .ok bytes') :
    (files.Perm others → bytes = bytes') ∧
      (bytes = bytes' →
        List.Forall₂ SameManifestEntry (sortedByPath files) (sortedByPath others)) := by
  have hfiles := canonical h
  have hothers := canonical h'
  constructor
  · intro hperm
    rw [hfiles.written, hothers.written, sortedByPath_eq_of_perm h hperm]
  · intro heq
    rw [hfiles.written, hothers.written] at heq
    have hrows := List.append_cancel_left heq
    have hfits : ∀ {ordered : List TurnRestoreFile} {bytes : List Byte}, Canonical ordered bytes →
        ordered.length < 256 ^ 4 ∧ ∀ file ∈ ordered, FileFits file := by
      intro ordered bytes hcanonical
      have hfew := hcanonical.few
      simp only [maxRestoreFiles] at hfew
      exact ⟨by omega, hcanonical.fits⟩
    exact ((delimits_bigEndian 4).counted delimits_fileWord).like (hfits hfiles) (hfits hothers)
      hrows

def demoTwoFiles : List TurnRestoreFile :=
  [{ demoRestoreFile with
      ordinal := 1
      pathBytes := ⟨[1, 1, 98]⟩
      preArtifactKey := ⟨List.replicate 16 9, rfl⟩
      metadataFingerprint := { demoMetadata 2 with fields := ⟨[("mode", [1, 164])], by decide⟩ } },
    demoRestoreFile]

theorem swapped_manifest_alike : ∃ bytes bytes',
    canonicalRestoreManifest demoTwoFiles = .ok bytes ∧
      canonicalRestoreManifest demoTwoFiles.reverse = .ok bytes' ∧ bytes = bytes' := by
  have haccepts : (canonicalRestoreManifest demoTwoFiles).isOk = true ∧
      (canonicalRestoreManifest demoTwoFiles.reverse).isOk = true := by
    decide +kernel
  cases h : canonicalRestoreManifest demoTwoFiles with
  | error e => rw [h] at haccepts; cases haccepts.1
  | ok bytes =>
      cases h' : canonicalRestoreManifest demoTwoFiles.reverse with
      | error e => rw [h'] at haccepts; cases haccepts.2
      | ok bytes' =>
          exact ⟨bytes, bytes', rfl, rfl,
            (manifest_encoding_canonical h h').1 (List.reverse_perm demoTwoFiles).symm⟩

end DevCommandCenter.GuardedUndo
