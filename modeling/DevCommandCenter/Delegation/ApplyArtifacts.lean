import DevCommandCenter.Delegation.Worktree
import DevCommandCenter.Library.SortDedup

/-! Freezing the changes of a delegation worktree, applying what is frozen, and taking it back. -/

namespace DevCommandCenter.Delegation

open Library GuardedUndo

/-- What the code takes from elsewhere: ids, digests, case and the text form of a manifest. -/
structure ApplyHost where
  isUuid : String → Bool
  sha256Hex : List Byte → String
  toLowercase : String → String
  encodeManifest : Manifest → List Byte
  decodeManifest : List Byte → Except String Manifest

def maxArtifactFiles : ℕ := 10000

def maxArtifactBytes : ℕ := 512 * 1024 * 1024

inductive ApplyClassification
  | allPre
  | allPost
  | mixedKnown
  | divergent
  deriving DecidableEq, Repr

structure PreparedApply where
  transactionId : String
  manifestDigest : String
  fileCount : ℕ
  artifactBytes : ℕ
  changedFiles : List RelativePath
  sourceIdentity : ApplyIdentity
  destinationIdentity : ApplyIdentity
  deriving DecidableEq, Repr

structure ApplyOutput where
  changedFiles : List RelativePath
  artifactBytes : ℕ
  deriving DecidableEq, Repr

section Host

variable (host : ApplyHost)

section Checks

def validateTransactionId (transactionId : String) : Except String Unit :=
  refuse (host.isUuid transactionId = false) "delegation apply transaction ID must be a UUID"

def validateRelativePath (path : RelativePath) : Except String Unit := do
  refuse (∃ component ∈ path.components, '\x00' ∈ component.toList)
    "delegation artifact path is empty or contains NUL"
  refuse (".." ∈ path.components) ("delegation artifact path is unsafe: " ++ path.render)

def validateCaseDistinct (folded : List String) : List RelativePath → Except String Unit
  | [] => .ok ()
  | path :: paths => do
      refuse (host.toLowercase path.render ∈ folded)
        ("delegation paths differing only by case are unsupported: " ++ path.render)
      validateCaseDistinct (host.toLowercase path.render :: folded) paths

def validateCaseDistinctPaths (paths : List RelativePath) : Except String Unit :=
  validateCaseDistinct host [] paths

-- symbolic links and hard links are no part of the model
def ensureNoSymlinkAncestors (tree : FileTree) (path : RelativePath) : Except String Unit :=
  match path.ancestors.find? fun above => (tree.file? above).isSome with
  | some above => .error ("path ancestor is not a directory: " ++ above.render)
  | none => .ok ()

def ensureGitRoot (worktree : Worktree) (side : GitSide) : Except String Unit :=
  refuse (worktree.git.isWorktree = false) (sideLabel side ++ " root is not a Git worktree")

def inspectIdentity (worktree : Worktree) (side : GitSide) : Except String ApplyIdentity := do
  refuse (worktree.git.identity.head = "" ∨ worktree.git.identity.indexTree = "")
    (sideLabel side ++ " Git identity is empty")
  return worktree.git.identity

def ensureIdentity (worktree : Worktree) (expected : ApplyIdentity) (side : GitSide) :
    Except String Unit := do
  let current ← inspectIdentity worktree side
  refuse (current ≠ expected) (sideLabel side ++ " Git HEAD, ref, or index changed")

def ensureCleanRepository (worktree : Worktree) (side : GitSide) : Except String Unit :=
  refuse (worktree.isClean = false) (sideLabel side ++ " Git worktree is not clean")

def ensureNoOperationInProgress (worktree : Worktree) : Except String Unit :=
  match worktree.git.operation with
  | some marker => .error ("Git operation is in progress: " ++ marker)
  | none => .ok ()

def ensureNoUntrackedCollision (destination : Worktree) (paths : List RelativePath) :
    Except String Unit :=
  match paths.find? fun path => path ∈ destination.git.untracked with
  | some path =>
      .error ("destination has an untracked file the delegation also writes: " ++ path.render)
  | none => .ok ()

end Checks

section Snapshots

def regularSnapshot (node : FileNode) : Snapshot where
  kind := .regular
  digest := host.sha256Hex node.bytes
  bytes := node.bytes.length
  fileMode := fileMode node

def missingSnapshot : Snapshot where
  kind := .missing
  digest := host.sha256Hex []
  bytes := 0
  fileMode := 0

def snapshotOf : Option FileNode → Snapshot
  | some node => regularSnapshot host node
  | none => missingSnapshot host

def captureSnapshot (tree : FileTree) (path : RelativePath) :
    Except String (Snapshot × Option (List Byte)) := do
  validateRelativePath path
  ensureNoSymlinkAncestors tree path
  refuse (tree.isDirectory path = true)
    ("delegation artifact path is not a regular file: " ++ path.render)
  return (snapshotOf host (tree.file? path), (tree.file? path).map FileNode.bytes)

def currentSnapshot (tree : FileTree) (path : RelativePath) : Except String Snapshot :=
  (captureSnapshot host tree path).map Prod.fst

def isHex (value : String) : Bool :=
  value.toList.all isAsciiHexDigit

def validateSnapshot (snapshot : Snapshot) : Except String Unit := do
  refuse (isHex snapshot.digest = false ∨ snapshot.digest.utf8ByteSize ≠ 64)
    "delegation apply snapshot digest is invalid"
  refuse (snapshot.kind = .missing ∧ (snapshot.bytes ≠ 0 ∨ snapshot.fileMode ≠ 0))
    "missing delegation snapshot has payload metadata"

def isPayloadName (name : List Char) : Bool :=
  name.length = 12 && ".bin".toList.isSuffixOf name && (name.take 8).all Char.isDigit

def validatePayloadName (payload : Option String) (folder : String) (snapshot : Snapshot) :
    Except String Unit :=
  match payload, snapshot.kind with
  | none, .missing => .ok ()
  | some value, .regular =>
      refuse (((value.toList.dropPrefix? (folder ++ "/").toList).any isPayloadName) = false)
        "delegation apply payload path is invalid"
  | _, _ => .error "delegation apply payload does not match snapshot kind"

end Snapshots

section Prepare

def payloadName (ordinal : ℕ) : String :=
  String.ofList (List.replicate (8 - (toString ordinal).length) '0') ++ toString ordinal ++ ".bin"

structure FrozenFile where
  artifact : FileArtifact
  preBytes : Option (List Byte)
  postBytes : Option (List Byte)

def FrozenFile.size (file : FrozenFile) : ℕ :=
  (file.preBytes.map List.length).getD 0 + (file.postBytes.map List.length).getD 0

def freezeFile (destination source : Worktree) (ordinal : ℕ) (path : RelativePath) :
    Except String FrozenFile := do
  validateRelativePath path
  refuse (path ∈ source.git.submodules) ("submodule path is not supported: " ++ path.render)
  let (pre, preBytes) ← captureSnapshot host destination.tree path
  let (post, postBytes) ← captureSnapshot host source.tree path
  return {
    artifact := {
      path := path
      pre := pre
      post := post
      prePayload := preBytes.map fun _ => "pre/" ++ payloadName ordinal
      postPayload := postBytes.map fun _ => "post/" ++ payloadName ordinal }
    preBytes := preBytes
    postBytes := postBytes }

def freezeFiles (destination source : Worktree) (ordinal artifactBytes : ℕ) :
    List RelativePath → Except String (List FrozenFile × ℕ)
  | [] => .ok ([], artifactBytes)
  | path :: paths => do
      let file ← freezeFile host destination source ordinal path
      refuse (2 ^ 64 ≤ artifactBytes + file.size) "delegation apply artifact size overflow"
      refuse (maxArtifactBytes < artifactBytes + file.size)
        "delegation apply exceeds the 512 MiB artifact limit"
      let (files, total) ← freezeFiles destination source (ordinal + 1) (artifactBytes + file.size) paths
      return (file :: files, total)

def storePayload (payloads : InsertionMap String (List Byte)) (payload : Option String)
    (bytes : Option (List Byte)) : InsertionMap String (List Byte) :=
  match payload, bytes with
  | some name, some bytes => payloads.set name bytes
  | _, _ => payloads

def storePayloads (files : List FrozenFile) : InsertionMap String (List Byte) :=
  files.foldl (fun payloads file =>
    storePayload (storePayload payloads file.artifact.prePayload file.preBytes)
      file.artifact.postPayload file.postBytes) .empty

def sortPaths (paths : List RelativePath) : List RelativePath :=
  (paths.insertionSort fun path path' => path.render ≤ path'.render).destutter (· ≠ ·)

structure Frozen where
  manifest : Manifest
  payloads : InsertionMap String (List Byte)
  artifactBytes : ℕ

def freezeArtifacts (transactionId : String) (disk : ApplyDisk) : Except String Frozen := do
  validateTransactionId host transactionId
  ensureGitRoot disk.destination .destination
  ensureGitRoot disk.source .source
  let destinationIdentity ← inspectIdentity disk.destination .destination
  let sourceIdentity ← inspectIdentity disk.source .source
  ensureCleanRepository disk.destination .destination
  ensureNoOperationInProgress disk.destination
  ensureNoOperationInProgress disk.source
  refuse (destinationIdentity.head ≠ sourceIdentity.head)
    "destination and delegation HEAD differ from the same baseline"
  let paths := sortPaths (disk.source.git.trackedChanged ++ disk.source.git.untracked)
  validateCaseDistinctPaths host paths
  refuse (paths = []) "delegation worktree has no changes to apply"
  refuse (maxArtifactFiles < paths.length) "delegation apply exceeds the 10000 file limit"
  ensureNoUntrackedCollision disk.destination paths
  refuse (disk.transactions.contains transactionId = true)
    "delegation apply transaction already exists"
  let (files, artifactBytes) ← freezeFiles host disk.destination disk.source 0 0 paths
  return {
    manifest := {
      version := 1
      transactionId := transactionId
      source := sourceIdentity
      destination := destinationIdentity
      files := files.map FrozenFile.artifact }
    payloads := storePayloads files
    artifactBytes := artifactBytes }

def manifestDigest (frozen : Frozen) : String :=
  host.sha256Hex (host.encodeManifest frozen.manifest)

def transactionDir (frozen : Frozen) : TransactionDir where
  manifest := host.encodeManifest frozen.manifest
  digest := manifestDigest host frozen ++ "\n"
  payloads := frozen.payloads

def prepareApplyArtifacts (transactionId : String) (disk : ApplyDisk) :
    Except String (PreparedApply × ApplyDisk) := do
  let frozen ← freezeArtifacts host transactionId disk
  return ({
    transactionId := transactionId
    manifestDigest := manifestDigest host frozen
    fileCount := frozen.manifest.files.length
    artifactBytes := frozen.artifactBytes
    changedFiles := frozen.manifest.files.map FileArtifact.path
    sourceIdentity := frozen.manifest.source
    destinationIdentity := frozen.manifest.destination },
    { disk with transactions := disk.transactions.set transactionId (transactionDir host frozen) })

end Prepare

section Load

def validateFiles (paths : List RelativePath) (bytes : ℕ) : List FileArtifact → Except String Unit
  | [] => .ok ()
  | file :: files => do
      validateRelativePath file.path
      refuse (file.path ∈ paths) "delegation apply manifest contains duplicate paths"
      validateSnapshot file.pre
      validateSnapshot file.post
      refuse (2 ^ 64 ≤ bytes + file.pre.bytes + file.post.bytes)
        "delegation apply manifest size overflow"
      refuse (maxArtifactBytes < bytes + file.pre.bytes + file.post.bytes)
        "delegation apply manifest exceeds size limit"
      validatePayloadName file.prePayload "pre" file.pre
      validatePayloadName file.postPayload "post" file.post
      validateFiles (file.path :: paths) (bytes + file.pre.bytes + file.post.bytes) files

def validateManifest (manifest : Manifest) : Except String Unit := do
  refuse (manifest.files = [] ∨ maxArtifactFiles < manifest.files.length)
    "delegation apply manifest file count is invalid"
  validateCaseDistinctPaths host (manifest.files.map FileArtifact.path)
  validateFiles [] 0 manifest.files

def findTransaction (transactionId : String) (disk : ApplyDisk) : Except String TransactionDir :=
  demand (disk.transactions.get? transactionId)
    "failed to read delegation apply manifest: No such file or directory"

def loadManifest (transactionId expectedManifestDigest : String) (disk : ApplyDisk) :
    Except String Manifest := do
  validateTransactionId host transactionId
  let dir ← findTransaction transactionId disk
  refuse ((trim expectedManifestDigest).utf8ByteSize ≠ 64 ∨ isHex (trim expectedManifestDigest) = false ∨
      trim dir.digest ≠ host.sha256Hex dir.manifest ∨
      trim expectedManifestDigest ≠ host.sha256Hex dir.manifest)
    "delegation apply manifest digest mismatch"
  let manifest ← (host.decodeManifest dir.manifest).mapError
    ("delegation apply manifest is corrupt: " ++ ·)
  refuse (manifest.version ≠ 1 ∨ manifest.transactionId ≠ transactionId)
    "delegation apply manifest transaction mismatch"
  validateManifest host manifest
  return manifest

def loadPayload (transactionId : String) (relative : Option String) (snapshot : Snapshot)
    (disk : ApplyDisk) : Except String (Option (List Byte)) := do
  if snapshot.kind = .missing then return none
  else do
    let relative ← demand relative "regular delegation snapshot has no payload"
    let dir ← findTransaction transactionId disk
    let bytes ← demand (dir.payloads.get? relative)
      "failed to read artifact payload: No such file or directory"
    refuse (bytes.length ≠ snapshot.bytes ∨ host.sha256Hex bytes ≠ snapshot.digest)
      "delegation artifact payload is corrupt"
    return some bytes

end Load

section Programs

def reading {α : Type} (f : ApplyDisk → Except String α) : ApplyProgram α := do
  let disk ← applyCall .look
  .done (f disk)

def orFail {α : Type} (p : ApplyProgram α) (message : String) : ApplyProgram α :=
  p.onError fun error => .fail (message ++ ": " ++ error)

def temporaryPath (transactionId : String) (path : RelativePath) : RelativePath where
  parent := path.parent
  name := "." ++ path.name ++ ".dcc-tmp-" ++ transactionId ++ "-" ++
    String.ofList ((host.sha256Hex (textBytes path.render)).toList.take 16)

def destinationTempPath (transactionId : String) (path : RelativePath) : Except String RelativePath := do
  validateTransactionId host transactionId
  validateRelativePath path
  return temporaryPath host transactionId path

def knownTemporaryFile (transactionId : String) (file : FileArtifact) (disk : ApplyDisk) :
    Except String (Option RelativePath) := do
  validateRelativePath file.path
  ensureNoSymlinkAncestors disk.destination.tree file.path
  let temp ← destinationTempPath host transactionId file.path
  match disk.destination.tree.file? temp with
  | some node => do
      refuse (regularSnapshot host node ≠ file.pre ∧ regularSnapshot host node ≠ file.post)
        ("destination temp file diverged from frozen snapshots: " ++ temp.render)
      return some temp
  | none => do
      refuse (disk.destination.tree.isDirectory temp = true)
        ("destination temp file is not regular: " ++ temp.render)
      return none

def reconcileDestinationTemporaryFiles (transactionId : String) :
    List FileArtifact → ApplyProgram Unit
  | [] => pure ()
  | file :: files => do
      match ← reading (knownTemporaryFile host transactionId file) with
      | none => reconcileDestinationTemporaryFiles transactionId files
      | some temp => do
          orFail (applyCall (.removeFile temp)) "failed to remove known destination temp file"
          orFail (applyCall (.syncDirectory temp)) "failed to sync artifact directory"
          reconcileDestinationTemporaryFiles transactionId files

def removableFile (path : RelativePath) (disk : ApplyDisk) : Except String Bool := do
  refuse (disk.destination.tree.isDirectory path = true)
    ("refusing to remove non-regular path: " ++ path.render)
  return (disk.destination.tree.file? path).isSome

def installSnapshot (transactionId : String) (path : RelativePath) (snapshot : Snapshot)
    (payload : Option (List Byte)) : ApplyProgram Unit := do
  reading fun disk => do
    validateRelativePath path
    ensureNoSymlinkAncestors disk.destination.tree path
  match snapshot.kind with
  | .missing => do
      let present ← reading (removableFile path)
      if present then orFail (applyCall (.removeFile path)) ("failed to remove " ++ path.render)
      else pure ()
  | .regular =>
      match payload with
      | none => .fail "regular delegation snapshot has no payload"
      | some bytes =>
          if host.sha256Hex bytes ≠ snapshot.digest ∨ bytes.length ≠ snapshot.bytes then
            .fail "delegation apply payload digest mismatch"
          else do
            orFail (applyCall (.createDestinationParent path))
              ("failed to create the parent of " ++ path.render)
            reading fun disk => ensureNoSymlinkAncestors disk.destination.tree path
            let temp ← reading fun _ => destinationTempPath host transactionId path
            orFail (applyCall (.writeDestinationTemp temp bytes snapshot.fileMode))
              "failed to create destination temp file"
            orFail (applyCall (.atomicReplace temp path)) ("failed to install " ++ path.render)
            orFail (applyCall (.syncDirectory path)) "failed to sync artifact directory"

def knownSides (tree : FileTree) (sides : Bool × Bool) : List FileArtifact → Option (Bool × Bool)
  | [] => some sides
  | file :: files =>
      match currentSnapshot host tree file.path with
      | .error _ => none
      | .ok current =>
          if current ≠ file.pre ∧ current ≠ file.post then none
          else knownSides tree
            (sides.1 || (current = file.pre ∧ current ≠ file.post),
              sides.2 || (current = file.post ∧ current ≠ file.pre)) files

def classifyManifest (manifest : Manifest) (tree : FileTree) : ApplyClassification :=
  match knownSides host tree (false, false) manifest.files with
  | none => .divergent
  | some (false, true) => .allPost
  | some (true, false) => .allPre
  | some (true, true) => .mixedKnown
  | some (false, false) => .allPost

def classifyDestination (manifest : Manifest) : ApplyProgram ApplyClassification :=
  (applyCall .look).andThen fun
    | .ok disk => pure (classifyManifest host manifest disk.destination.tree)
    | .error _ => pure .divergent

def manifestArtifactBytes (manifest : Manifest) : ℕ :=
  (manifest.files.map fun file => min (file.pre.bytes + file.post.bytes) (2 ^ 64 - 1)).foldl
    (fun total bytes => min (total + bytes) (2 ^ 64 - 1)) 0

def applyOutput (manifest : Manifest) : ApplyOutput where
  changedFiles := manifest.files.map FileArtifact.path
  artifactBytes := manifestArtifactBytes manifest

def checkDestination (manifest : Manifest) : ApplyProgram Unit :=
  reading fun disk => ensureIdentity disk.destination manifest.destination .destination

def installFiles (transactionId : String) : List FileArtifact → ApplyProgram Unit
  | [] => pure ()
  | file :: files => do
      let payload ← reading (loadPayload host transactionId file.postPayload file.post)
      installSnapshot host transactionId file.path file.post payload
      installFiles transactionId files

def applyPreparedArtifacts (transactionId expectedManifestDigest : String) :
    ApplyProgram ApplyOutput := do
  let manifest ← reading (loadManifest host transactionId expectedManifestDigest)
  reading fun disk => do
    ensureGitRoot disk.destination .destination
    ensureGitRoot disk.source .source
    ensureNoOperationInProgress disk.destination
    ensureNoOperationInProgress disk.source
  checkDestination manifest
  reading fun disk => ensureIdentity disk.source manifest.source .source
  reconcileDestinationTemporaryFiles host transactionId manifest.files
  checkDestination manifest
  reading fun disk => ensureCleanRepository disk.destination .destination
  match ← classifyDestination host manifest with
  | .allPost => return applyOutput manifest
  | .mixedKnown => .fail "destination contains a partially applied delegation"
  | .divergent => .fail "destination diverged from the frozen delegation artifact"
  | .allPre => do
      installFiles host transactionId manifest.files
      checkDestination manifest
      let classification ← classifyDestination host manifest
      if classification ≠ .allPost then .fail "delegation apply did not produce the frozen postimage"
      else return applyOutput manifest

def settleDestination (transactionId expectedManifestDigest : String) : ApplyProgram Manifest := do
  let manifest ← reading (loadManifest host transactionId expectedManifestDigest)
  reading fun disk => do
    ensureGitRoot disk.destination .destination
    ensureNoOperationInProgress disk.destination
  checkDestination manifest
  reconcileDestinationTemporaryFiles host transactionId manifest.files
  checkDestination manifest
  return manifest

def classifyApplyArtifacts (transactionId expectedManifestDigest : String) :
    ApplyProgram ApplyClassification := do
  let manifest ← settleDestination host transactionId expectedManifestDigest
  classifyDestination host manifest

def knownState (file : FileArtifact) (disk : ApplyDisk) : Except String Snapshot := do
  let current ← currentSnapshot host disk.destination.tree file.path
  refuse (current ≠ file.pre ∧ current ≠ file.post)
    "refusing rollback because destination diverged"
  return current

def readStates : List FileArtifact → ApplyProgram (List (FileArtifact × Snapshot))
  | [] => pure []
  | file :: files => do
      let current ← reading (knownState host file)
      let states ← readStates files
      return (file, current) :: states

def restoreFiles (transactionId : String) : List (FileArtifact × Snapshot) → ApplyProgram Unit
  | [] => pure ()
  | (file, current) :: states =>
      if current = file.pre then restoreFiles transactionId states
      else do
        let payload ← reading (loadPayload host transactionId file.prePayload file.pre)
        installSnapshot host transactionId file.path file.pre payload
        restoreFiles transactionId states

def rollbackApplyArtifacts (transactionId expectedManifestDigest : String) : ApplyProgram Unit := do
  let manifest ← settleDestination host transactionId expectedManifestDigest
  let classification ← classifyDestination host manifest
  if classification = .divergent then .fail "refusing rollback because destination diverged"
  else if classification = .allPre then pure ()
  else do
    let states ← readStates host manifest.files
    restoreFiles host transactionId states
    checkDestination manifest
    let classification ← classifyDestination host manifest
    if classification ≠ .allPre then .fail "delegation rollback did not restore the frozen preimage"
    else pure ()

end Programs

end Host

end DevCommandCenter.Delegation
