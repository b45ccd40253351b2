import DevCommandCenter.Delegation.ApplyArtifacts

/-! What a frozen manifest holds, and that it can be loaded again. -/

namespace DevCommandCenter.Delegation

open Library GuardedUndo

def ApplyHost.DigestsFit (host : ApplyHost) : Prop :=
  ∀ bytes, isHex (host.sha256Hex bytes) = true ∧ (host.sha256Hex bytes).utf8ByteSize = 64

section Names

lemma hexDigit_range {c : Char} (h : isAsciiHexDigit c = true) : 0x30 ≤ c.toNat ∧ c.toNat ≤ 0x66 := by
  simp only [isAsciiHexDigit, Bool.or_eq_true, Bool.and_eq_true, decide_eq_true_eq, Char.le_def,
    UInt32.le_iff_toNat_le] at h
  change ((48 ≤ c.toNat ∧ c.toNat ≤ 57) ∨ (97 ≤ c.toNat ∧ c.toNat ≤ 102)) ∨
    (65 ≤ c.toNat ∧ c.toNat ≤ 70) at h
  omega

lemma hexDigit_not_space {c : Char} (h : isAsciiHexDigit c = true) : isWhitespace c = false := by
  have hrange := hexDigit_range h
  simp only [isWhitespace, decide_eq_false_iff_not, List.mem_cons, List.not_mem_nil, or_false]
  omega

lemma no_space_of_isHex {value : String} (h : isHex value = true) :
    ∀ c ∈ value.toList, isWhitespace c = false :=
  fun c hc => hexDigit_not_space (List.all_eq_true.mp h c hc)

lemma payloadName_toList (ordinal : ℕ) : (payloadName ordinal).toList =
    (List.replicate (8 - (toString ordinal).length) '0' ++ Nat.toDigits 10 ordinal) ++ ".bin".toList := by
  simp only [payloadName, String.toList_append, String.toList_ofList, toString_nat_toList]

lemma payloadName_injective {m n : ℕ} (h : payloadName m = payloadName n) : m = n := by
  have hlist := congrArg String.toList h
  rw [payloadName_toList, payloadName_toList] at hlist
  have hvalue := congrArg (fun digits => Nat.ofDigitChars 10 digits 0) (List.append_cancel_right hlist)
  simpa only [Nat.ofDigitChars_append, Nat.ofDigitChars_replicate_zero, Nat.mul_zero,
    Nat.ofDigitChars_toDigits (b := 10) (by decide) (by decide)] using hvalue

lemma isPayloadName_payloadName {ordinal : ℕ} (h : ordinal < 10 ^ 8) :
    isPayloadName (payloadName ordinal).toList = true := by
  have hlength : (toString ordinal).length = (Nat.toDigits 10 ordinal).length := by
    rw [← String.length_toList, toString_nat_toList]
  have hdigits : (Nat.toDigits 10 ordinal).length ≤ 8 :=
    (Nat.length_toDigits_le_iff (by decide) (by decide)).mpr h
  have height : (List.replicate (8 - (toString ordinal).length) '0' ++ Nat.toDigits 10 ordinal).length =
      8 := by
    rw [List.length_append, List.length_replicate, hlength]
    omega
  rw [payloadName_toList, isPayloadName, List.length_append, height, List.take_left' height,
    Bool.and_eq_true, Bool.and_eq_true]
  refine ⟨⟨by decide, List.isSuffixOf_iff_suffix.mpr (List.suffix_append _ _)⟩, ?_⟩
  rw [List.all_eq_true]
  intro c hc
  rcases List.mem_append.mp hc with hc | hc
  · rw [List.eq_of_mem_replicate hc]
    decide
  · exact Nat.isDigit_of_mem_toDigits (by decide) (by decide) hc

end Names

section Captures

variable {host : ApplyHost} {tree : FileTree} {path : RelativePath}

lemma ensureNoSymlinkAncestors_eq_ok {u : Unit} : ensureNoSymlinkAncestors tree path = .ok u ↔
    ∀ above ∈ path.ancestors, tree.file? above = none := by
  unfold ensureNoSymlinkAncestors
  cases hfind : path.ancestors.find? fun above => (tree.file? above).isSome with
  | none =>
      simp only [true_iff]
      intro above habove
      have hnone := List.find?_eq_none.mp hfind above habove
      rwa [Option.not_isSome_iff_eq_none] at hnone
  | some above =>
      simp only [reduceCtorEq, false_iff]
      intro hall
      have hsome := List.find?_some hfind
      rw [hall above (List.mem_of_find?_eq_some hfind)] at hsome
      cases hsome

lemma captureSnapshot_eq_ok {snapshot : Snapshot} {bytes : Option (List Byte)} :
    captureSnapshot host tree path = .ok (snapshot, bytes) ↔
      validateRelativePath path = .ok () ∧ tree.Fits path ∧
        snapshot = snapshotOf host (tree.file? path) ∧ bytes = (tree.file? path).map FileNode.bytes := by
  simp only [captureSnapshot, except_seq_eq_ok, ensureNoSymlinkAncestors_eq_ok, refuse_eq_ok,
    Bool.not_eq_true, FileTree.Fits]
  constructor
  · rintro ⟨hvalid, habove, hfile, heq⟩
    cases heq
    exact ⟨hvalid, ⟨habove, hfile⟩, rfl, rfl⟩
  · rintro ⟨hvalid, ⟨habove, hfile⟩, rfl, rfl⟩
    exact ⟨hvalid, habove, hfile, rfl⟩

lemma currentSnapshot_eq_ok {snapshot : Snapshot} : currentSnapshot host tree path = .ok snapshot ↔
    validateRelativePath path = .ok () ∧ tree.Fits path ∧ snapshot = snapshotOf host (tree.file? path) := by
  rw [currentSnapshot, except_map_eq_ok]
  constructor
  · rintro ⟨⟨snapshot', bytes⟩, hcapture, rfl⟩
    obtain ⟨hvalid, hfits, rfl, -⟩ := captureSnapshot_eq_ok.mp hcapture
    exact ⟨hvalid, hfits, rfl⟩
  · rintro ⟨hvalid, hfits, rfl⟩
    exact ⟨(_, _), captureSnapshot_eq_ok.mpr ⟨hvalid, hfits, rfl, rfl⟩, rfl⟩

lemma snapshotOf_regular {file : Option FileNode} (h : (snapshotOf host file).kind = .regular) :
    ∃ node, file = some node := by
  cases file with
  | none => cases h
  | some node => exact ⟨node, rfl⟩

lemma validateSnapshot_snapshotOf (hdigests : host.DigestsFit) (file : Option FileNode) :
    validateSnapshot (snapshotOf host file) = .ok () := by
  have hdigest : ∀ bytes, ¬(isHex (host.sha256Hex bytes) = false ∨
      (host.sha256Hex bytes).utf8ByteSize ≠ 64) := fun bytes => by simp [hdigests bytes]
  rw [validateSnapshot, except_seq_eq_ok, refuse_eq_ok, refuse_eq_ok]
  cases file with
  | none => exact ⟨hdigest [], fun h => h.2.elim (fun h => h rfl) fun h => h rfl⟩
  | some node => exact ⟨hdigest node.bytes, fun h => nomatch h.1⟩

end Captures

structure FileArtifact.FrozenFrom (host : ApplyHost) (destination source : FileTree)
    (payloads : InsertionMap String (List Byte)) (file : FileArtifact) : Prop where
  valid : validateRelativePath file.path = .ok ()
  preFits : destination.Fits file.path
  postFits : source.Fits file.path
  pre : file.pre = snapshotOf host (destination.file? file.path)
  post : file.post = snapshotOf host (source.file? file.path)
  prePayload : ∀ node, destination.file? file.path = some node →
    ∃ name, file.prePayload = some name ∧ payloads.get? name = some node.bytes
  postPayload : ∀ node, source.file? file.path = some node →
    ∃ name, file.postPayload = some name ∧ payloads.get? name = some node.bytes

section Freezing

variable {host : ApplyHost} {destination source : Worktree}

structure FrozenFile.At (host : ApplyHost) (destination source : Worktree) (ordinal : ℕ)
    (file : FrozenFile) : Prop where
  valid : validateRelativePath file.artifact.path = .ok ()
  preFits : destination.tree.Fits file.artifact.path
  postFits : source.tree.Fits file.artifact.path
  pre : file.artifact.pre = snapshotOf host (destination.tree.file? file.artifact.path)
  post : file.artifact.post = snapshotOf host (source.tree.file? file.artifact.path)
  preBytes : file.preBytes = (destination.tree.file? file.artifact.path).map FileNode.bytes
  postBytes : file.postBytes = (source.tree.file? file.artifact.path).map FileNode.bytes
  prePayload : file.artifact.prePayload = file.preBytes.map fun _ => "pre/" ++ payloadName ordinal
  postPayload : file.artifact.postPayload = file.postBytes.map fun _ => "post/" ++ payloadName ordinal

lemma freezeFile_ok {ordinal : ℕ} {path : RelativePath} {file : FrozenFile}
    (h : freezeFile host destination source ordinal path = .ok file) :
    file.artifact.path = path ∧ file.At host destination source ordinal := by
  simp only [freezeFile, except_bind_eq_ok] at h
  obtain ⟨_, hvalid, _, -, ⟨pre, preBytes⟩, hpre, ⟨post, postBytes⟩, hpost, heq⟩ := h
  obtain ⟨-, hpreFits, hpre, hpreBytes⟩ := captureSnapshot_eq_ok.mp hpre
  obtain ⟨-, hpostFits, hpost, hpostBytes⟩ := captureSnapshot_eq_ok.mp hpost
  cases heq
  exact ⟨rfl, hvalid, hpreFits, hpostFits, hpre, hpost, hpreBytes, hpostBytes, rfl, rfl⟩

lemma freezeFiles_ok {ordinal artifactBytes total : ℕ} {paths : List RelativePath} {files : List FrozenFile}
    (h : freezeFiles host destination source ordinal artifactBytes paths = .ok (files, total)) :
    files.map (fun file => file.artifact.path) = paths ∧
    ∀ (i : ℕ) (file : FrozenFile), files[i]? = some file →
      file.At host destination source (ordinal + i) := by
  induction paths generalizing ordinal artifactBytes files with
  | nil =>
      cases h
      exact ⟨rfl, fun i file hfile => by simp at hfile⟩
  | cons path paths ih =>
      simp only [freezeFiles, except_bind_eq_ok] at h
      obtain ⟨file, hfile, _, -, _, -, ⟨files', total'⟩, hrest, heq⟩ := h
      cases heq
      obtain ⟨hpath, hat⟩ := freezeFile_ok hfile
      obtain ⟨hpaths, hats⟩ := ih hrest
      refine ⟨by rw [List.map_cons, hpath, hpaths], fun i file' hfile' => ?_⟩
      cases i with
      | zero =>
          obtain rfl := Option.some.inj hfile'
          exact hat
      | succ i =>
          have hnext := hats i file' hfile'
          rwa [Nat.add_right_comm, Nat.add_assoc] at hnext

def payloadEntries (payload : Option String) (bytes : Option (List Byte)) :
    List (String × List Byte) :=
  match payload, bytes with
  | some name, some bytes => [(name, bytes)]
  | _, _ => []

def FrozenFile.entries (file : FrozenFile) : List (String × List Byte) :=
  payloadEntries file.artifact.prePayload file.preBytes ++
    payloadEntries file.artifact.postPayload file.postBytes

lemma storePayload_eq (payloads : InsertionMap String (List Byte)) (payload : Option String)
    (bytes : Option (List Byte)) : storePayload payloads payload bytes =
      (payloadEntries payload bytes).foldl (fun payloads entry => payloads.set entry.1 entry.2)
        payloads := by
  cases payload <;> cases bytes <;> rfl

lemma storePayloads_eq (files : List FrozenFile) :
    storePayloads files = (files.flatMap FrozenFile.entries).foldl
      (fun payloads entry => payloads.set entry.1 entry.2) (.empty : InsertionMap String (List Byte)) := by
  rw [storePayloads, List.foldl_flatMap]
  congr 1
  funext payloads file
  rw [FrozenFile.entries, List.foldl_append, ← storePayload_eq, ← storePayload_eq]

variable {ordinal : ℕ} {file : FrozenFile} {files : List FrozenFile}

lemma FrozenFile.At.entry_name (h : file.At host destination source ordinal) {entry : String × List Byte}
    (hentry : entry ∈ file.entries) :
    entry.1 = "pre/" ++ payloadName ordinal ∨ entry.1 = "post/" ++ payloadName ordinal := by
  have hside : ∀ (payload : Option String) (bytes : Option (List Byte)) (name : String),
      payload = bytes.map (fun _ => name) → entry ∈ payloadEntries payload bytes → entry.1 = name := by
    rintro payload bytes name rfl hmem
    cases bytes with
    | none => cases hmem
    | some bytes => rw [List.mem_singleton.mp hmem]
  rcases List.mem_append.mp hentry with hmem | hmem
  · exact .inl (hside _ _ _ h.prePayload hmem)
  · exact .inr (hside _ _ _ h.postPayload hmem)

lemma folder_ne (name name' : String) : "pre/" ++ name ≠ "post/" ++ name' := by
  intro h
  have hlist := congrArg String.toList h
  rw [String.toList_append, String.toList_append] at hlist
  cases hlist

lemma FrozenFile.At.entries_nodup (h : file.At host destination source ordinal) :
    (file.entries.map Prod.fst).Nodup := by
  have hpre := h.prePayload
  have hpost := h.postPayload
  rw [FrozenFile.entries, List.map_append, hpre, hpost]
  cases file.preBytes <;> cases file.postBytes <;> simp [payloadEntries]

lemma entries_nodup (h : ∀ (i : ℕ) (file : FrozenFile), files[i]? = some file →
      file.At host destination source (ordinal + i)) :
    ((files.flatMap FrozenFile.entries).map Prod.fst).Nodup := by
  induction files generalizing ordinal with
  | nil => exact List.nodup_nil
  | cons file files ih =>
      have hfirst : file.At host destination source ordinal := h 0 file rfl
      have hrest : ∀ (i : ℕ) (later : FrozenFile), files[i]? = some later →
          later.At host destination source (ordinal + 1 + i) := by
        intro i later hlater
        have hnext := h (i + 1) later hlater
        rwa [Nat.add_right_comm, Nat.add_assoc]
      rw [List.flatMap_cons, List.map_append, List.nodup_append]
      refine ⟨hfirst.entries_nodup, ih hrest, ?_⟩
      rintro name hname name' hname' rfl
      obtain ⟨entry, hentry, rfl⟩ := List.mem_map.mp hname
      obtain ⟨entry', hentry', heq⟩ := List.mem_map.mp hname'
      obtain ⟨later, hlater, hentry'⟩ := List.mem_flatMap.mp hentry'
      obtain ⟨i, hi⟩ := List.getElem?_of_mem hlater
      have hlt : ordinal ≠ ordinal + 1 + i := by omega
      rcases hfirst.entry_name hentry with hside | hside <;>
        rcases (hrest i later hi).entry_name hentry' with hside' | hside' <;>
        rw [hside, hside'] at heq
      · exact hlt (payloadName_injective (append_left_inj heq)).symm
      · exact folder_ne _ _ heq.symm
      · exact folder_ne _ _ heq
      · exact hlt (payloadName_injective (append_left_inj heq)).symm

lemma get?_storePayloads (h : ∀ (i : ℕ) (file : FrozenFile), files[i]? = some file →
      file.At host destination source (ordinal + i)) (hfile : file ∈ files) {entry : String × List Byte}
    (hentry : entry ∈ file.entries) : (storePayloads files).get? entry.1 = some entry.2 := by
  rw [storePayloads_eq]
  exact InsertionMap.get?_foldl_set (entries_nodup h) (List.mem_flatMap.mpr ⟨file, hfile, hentry⟩) _

lemma frozenFrom (h : ∀ (i : ℕ) (file : FrozenFile), files[i]? = some file →
      file.At host destination source (ordinal + i)) (hfile : file ∈ files) :
    file.artifact.FrozenFrom host destination.tree source.tree (storePayloads files) := by
  obtain ⟨i, hi⟩ := List.getElem?_of_mem hfile
  have hat := h i file hi
  refine ⟨hat.valid, hat.preFits, hat.postFits, hat.pre, hat.post, fun node hnode => ?_, fun node hnode => ?_⟩
  · have hbytes := hat.preBytes
    rw [hnode, Option.map_some] at hbytes
    have hpayload := hat.prePayload
    rw [hbytes, Option.map_some] at hpayload
    have hentry : ("pre/" ++ payloadName (ordinal + i), node.bytes) ∈ file.entries := by
      rw [FrozenFile.entries, hpayload, hbytes]
      exact List.mem_append_left _ (List.mem_singleton_self _)
    exact ⟨_, hpayload, get?_storePayloads h hfile hentry⟩
  · have hbytes := hat.postBytes
    rw [hnode, Option.map_some] at hbytes
    have hpayload := hat.postPayload
    rw [hbytes, Option.map_some] at hpayload
    have hentry : ("post/" ++ payloadName (ordinal + i), node.bytes) ∈ file.entries := by
      rw [FrozenFile.entries, hpayload, hbytes]
      exact List.mem_append_right _ (List.mem_singleton_self _)
    exact ⟨_, hpayload, get?_storePayloads h hfile hentry⟩

end Freezing

section Loading

variable {host : ApplyHost} {destination source : Worktree} {ordinal bytes total : ℕ}
  {paths seen : List RelativePath} {files : List FrozenFile} {file : FrozenFile}

lemma nodup_of_caseDistinct {folded : List String} {u : Unit}
    (h : validateCaseDistinct host folded paths = .ok u) : paths.Nodup := by
  have hfolded : ∀ {folded paths} {u : Unit}, validateCaseDistinct host folded paths = .ok u →
      ∀ path ∈ paths, host.toLowercase path.render ∉ folded := by
    intro folded paths
    induction paths generalizing folded with
    | nil => exact fun _ path hpath => absurd hpath List.not_mem_nil
    | cons first paths ih =>
        intro u h path hpath
        simp only [validateCaseDistinct, except_seq_eq_ok, refuse_eq_ok] at h
        rcases List.mem_cons.mp hpath with rfl | hpath
        · exact h.1
        · exact fun hmem => ih h.2 path hpath (List.mem_cons_of_mem _ hmem)
  induction paths generalizing folded with
  | nil => exact List.nodup_nil
  | cons first paths ih =>
      simp only [validateCaseDistinct, except_seq_eq_ok, refuse_eq_ok] at h
      refine List.nodup_cons.mpr ⟨fun hmem => ?_, ih h.2⟩
      exact hfolded h.2 first hmem (List.mem_cons_self ..)

lemma FrozenFile.At.size_eq (h : file.At host destination source ordinal) :
    file.size = file.artifact.pre.bytes + file.artifact.post.bytes := by
  have hside : ∀ file? : Option FileNode, ((file?.map FileNode.bytes).map List.length).getD 0 =
      (snapshotOf host file?).bytes := by
    intro file?
    cases file? <;> rfl
  rw [FrozenFile.size, h.preBytes, h.postBytes, h.pre, h.post, hside, hside]

lemma validatePayloadName_frozen {folder : String} {file? : Option FileNode} {payload : Option String}
    (hordinal : ordinal < 10 ^ 8)
    (h : payload = (file?.map FileNode.bytes).map fun _ => folder ++ "/" ++ payloadName ordinal) :
    validatePayloadName payload folder (snapshotOf host file?) = .ok () := by
  subst h
  cases file? with
  | none => rfl
  | some node =>
      have hname : ((folder ++ "/" ++ payloadName ordinal).toList.dropPrefix? (folder ++ "/").toList) =
          some (payloadName ordinal).toList := by
        rw [String.toList_append]
        exact List.dropPrefix?_eq_some_iff.mpr ⟨_, rfl, beq_self_eq_true _⟩
      dsimp only [validatePayloadName, Option.map_some, snapshotOf, regularSnapshot]
      rw [refuse_eq_ok, hname, Option.any_some, isPayloadName_payloadName hordinal]
      exact Bool.noConfusion

lemma validateFiles_frozen (hdigests : host.DigestsFit)
    (h : freezeFiles host destination source ordinal bytes paths = .ok (files, total))
    (hcount : ordinal + paths.length ≤ 10 ^ 8) (hnodup : paths.Nodup)
    (hseen : ∀ path ∈ paths, path ∉ seen) :
    validateFiles seen bytes (files.map FrozenFile.artifact) = .ok () := by
  induction paths generalizing ordinal bytes files seen with
  | nil =>
      cases h
      rfl
  | cons path paths ih =>
      simp only [freezeFiles, except_bind_eq_ok] at h
      obtain ⟨file, hfile, _, hoverflow, _, hlimit, ⟨files', total'⟩, hrest, heq⟩ := h
      cases heq
      obtain ⟨rfl, hat⟩ := freezeFile_ok hfile
      obtain ⟨hpath, hnodup⟩ := List.nodup_cons.mp hnodup
      obtain ⟨hfirst, hlater⟩ := List.forall_mem_cons.mp hseen
      rw [List.length_cons] at hcount
      rw [refuse_eq_ok, hat.size_eq, ← Nat.add_assoc] at hoverflow hlimit
      rw [hat.size_eq, ← Nat.add_assoc] at hrest
      have hordinal : ordinal < 10 ^ 8 := by omega
      have hnext : ∀ path ∈ paths, path ∉ file.artifact.path :: seen := by
        intro path hmem
        rw [List.mem_cons, not_or]
        exact ⟨fun heq => hpath (heq ▸ hmem), hlater path hmem⟩
      have hvalidated := ih hrest (by omega) hnodup hnext
      simp only [List.map_cons, validateFiles, except_seq_eq_ok, refuse_eq_ok]
      refine ⟨hat.valid, hfirst, ?_, ?_, hoverflow, hlimit, ?_, ?_, hvalidated⟩
      · rw [hat.pre]
        exact validateSnapshot_snapshotOf hdigests _
      · rw [hat.post]
        exact validateSnapshot_snapshotOf hdigests _
      · rw [hat.pre]
        refine validatePayloadName_frozen hordinal ?_
        rw [hat.prePayload, hat.preBytes]
        rfl
      · rw [hat.post]
        refine validatePayloadName_frozen hordinal ?_
        rw [hat.postPayload, hat.postBytes]
        rfl

end Loading

structure GitReady (git : GitState) (identity : ApplyIdentity) : Prop where
  root : git.isWorktree = true
  operation : git.operation = none
  filled : ¬(git.identity.head = "" ∨ git.identity.indexTree = "")
  identity : git.identity = identity

structure FrozenApply (host : ApplyHost) (transactionId digest : String) (before after : ApplyDisk)
    (manifest : Manifest) : Prop where
  isUuid : host.isUuid transactionId = true
  loads : ∀ disk, disk.transactions = after.transactions →
    loadManifest host transactionId digest disk = .ok manifest
  files : ∃ dir, after.transactions.get? transactionId = some dir ∧ ∀ file ∈ manifest.files,
    file.FrozenFrom host before.destination.tree before.source.tree dir.payloads
  nodup : (manifest.files.map FileArtifact.path).Nodup
  changed : ∀ file ∈ manifest.files,
    file.path ∈ before.source.git.trackedChanged ++ before.source.git.untracked
  destination : GitReady before.destination.git manifest.destination
  source : GitReady before.source.git manifest.source
  clean : before.destination.isClean = true

section Frozen

variable {host : ApplyHost} {transactionId : String} {disk : ApplyDisk} {frozen : Frozen}

lemma inspectIdentity_eq_ok {worktree : Worktree} {side : GitSide} {identity : ApplyIdentity} :
    inspectIdentity worktree side = .ok identity ↔
      ¬(worktree.git.identity.head = "" ∨ worktree.git.identity.indexTree = "") ∧
        worktree.git.identity = identity := by
  rw [inspectIdentity, except_seq_eq_ok, refuse_eq_ok]
  exact and_congr_right fun _ => ⟨Except.ok.inj, congrArg _⟩

lemma ensureNoOperationInProgress_eq_ok {worktree : Worktree} {u : Unit} :
    ensureNoOperationInProgress worktree = .ok u ↔ worktree.git.operation = none := by
  unfold ensureNoOperationInProgress
  cases worktree.git.operation <;> simp

lemma loadManifest_frozen (hdigests : host.DigestsFit)
    (hcodec : host.decodeManifest (host.encodeManifest frozen.manifest) = .ok frozen.manifest)
    (huuid : host.isUuid transactionId = true) (hversion : frozen.manifest.version = 1)
    (hid : frozen.manifest.transactionId = transactionId)
    (hvalid : validateManifest host frozen.manifest = .ok ())
    (hdir : disk.transactions.get? transactionId = some (transactionDir host frozen)) :
    loadManifest host transactionId (manifestDigest host frozen) disk = .ok frozen.manifest := by
  have hhex := no_space_of_isHex (hdigests (host.encodeManifest frozen.manifest)).1
  have hdigest : ¬((trim (manifestDigest host frozen)).utf8ByteSize ≠ 64 ∨
      isHex (trim (manifestDigest host frozen)) = false ∨
      trim (transactionDir host frozen).digest ≠ host.sha256Hex (transactionDir host frozen).manifest ∨
      trim (manifestDigest host frozen) ≠ host.sha256Hex (transactionDir host frozen).manifest) := by
    dsimp only [transactionDir, manifestDigest]
    rw [trim_of_no_space hhex, trim_line hhex]
    simp [hdigests (host.encodeManifest frozen.manifest)]
  simp only [loadManifest, except_bind_eq_ok, validateTransactionId, findTransaction, refuse_eq_ok,
    demand_eq_ok, mapError_eq_ok]
  exact ⟨(), by simp [huuid], _, hdir, (), hdigest, _, hcodec, (), by simp [hversion, hid], (), hvalid, rfl⟩

lemma mem_of_mem_sortPaths {paths : List RelativePath} {path : RelativePath}
    (h : path ∈ sortPaths paths) : path ∈ paths :=
  (List.mem_insertionSort _).mp ((List.destutter_sublist _ _).mem h)

theorem frozenApply (hdigests : host.DigestsFit)
    (hcodec : host.decodeManifest (host.encodeManifest frozen.manifest) = .ok frozen.manifest)
    (h : freezeArtifacts host transactionId disk = .ok frozen) :
    FrozenApply host transactionId (manifestDigest host frozen) disk
      { disk with transactions := disk.transactions.set transactionId (transactionDir host frozen) }
      frozen.manifest := by
  simp only [freezeArtifacts, except_bind_eq_ok] at h
  obtain ⟨_, huuid, _, hroot, _, hsourceRoot, identity, hidentity, sourceIdentity, hsourceIdentity, _,
    hclean, _, hoperation, _, hsourceOperation, _, -, _, hdistinct, _, hsome, _, hcount, _, -, _, -,
    ⟨files, total⟩, hfiles, heq⟩ := h
  cases heq
  simp only [validateTransactionId, ensureGitRoot, ensureCleanRepository, refuse_eq_ok,
    Bool.not_eq_false] at huuid hroot hsourceRoot hclean hcount hsome
  rw [inspectIdentity_eq_ok] at hidentity hsourceIdentity
  rw [ensureNoOperationInProgress_eq_ok] at hoperation hsourceOperation
  obtain ⟨hpaths, hats⟩ := freezeFiles_ok hfiles
  have hnodup := nodup_of_caseDistinct hdistinct
  have hartifacts : (files.map FrozenFile.artifact).map FileArtifact.path =
      sortPaths (disk.source.git.trackedChanged ++ disk.source.git.untracked) := by
    rw [List.map_map]
    exact hpaths
  have hlength : (files.map FrozenFile.artifact).length =
      (sortPaths (disk.source.git.trackedChanged ++ disk.source.git.untracked)).length := by
    exact (List.length_map ..).symm.trans (congrArg List.length hartifacts)
  refine ⟨huuid, fun disk' hsame => ?_, ?_, ?_, fun file hfile => ?_, ⟨hroot, hoperation, hidentity.1, hidentity.2⟩,
    ⟨hsourceRoot, hsourceOperation, hsourceIdentity.1, hsourceIdentity.2⟩, hclean⟩
  · refine loadManifest_frozen hdigests hcodec huuid rfl rfl ?_ ?_
    · simp only [validateManifest, except_seq_eq_ok, refuse_eq_ok, hartifacts]
      refine ⟨?_, hdistinct, validateFiles_frozen hdigests hfiles ?_ hnodup fun _ _ => List.not_mem_nil⟩
      · rw [hlength]
        rintro (hnil | hmany)
        · rw [hnil] at hartifacts
          exact hsome hartifacts.symm
        · exact hcount hmany
      · simp only [maxArtifactFiles] at hcount
        omega
    · rw [hsame]
      exact InsertionMap.get?_set.trans (if_pos rfl)
  · refine ⟨_, InsertionMap.get?_set.trans (if_pos rfl), fun file hfile => ?_⟩
    obtain ⟨frozen, hfrozen, rfl⟩ := List.mem_map.mp hfile
    exact frozenFrom hats hfrozen
  · rw [hartifacts]
    exact hnodup
  · apply mem_of_mem_sortPaths
    rw [← hartifacts]
    exact List.mem_map_of_mem hfile

end Frozen

end DevCommandCenter.Delegation
