import Mathlib.Data.Finset.Basic
import DevCommandCenter.GuardedUndo.Domain
import DevCommandCenter.Library.InsertionMap
import DevCommandCenter.Library.Program

/-! The private store of undo artifacts: staged, published by a hard link, cleaned up, and recovered at
the next start. A failed write leaves what a crash in its middle leaves. -/

namespace DevCommandCenter.GuardedUndo

open Library

abbrev EntryName := List Byte

def hexDigit (nibble : Fin 16) : Byte :=
  if nibble.val < 10 then Fin.ofNat 256 (48 + nibble.val) else Fin.ofNat 256 (87 + nibble.val)

def keyName (key : ArtifactKey) : EntryName :=
  key.bytes.flatMap fun byte =>
    [hexDigit (Fin.ofNat 16 (byte.val / 16)), hexDigit (Fin.ofNat 16 (byte.val % 16))]

def hexNibble (byte : Byte) : Option (Fin 16) :=
  if 48 ≤ byte.val ∧ byte.val ≤ 57 then some (Fin.ofNat 16 (byte.val - 48))
  else if 97 ≤ byte.val ∧ byte.val ≤ 102 then some (Fin.ofNat 16 (byte.val - 97 + 10))
  else none

def parseHexPairs : EntryName → Option (List Byte)
  | high :: low :: rest => do
      let highNibble ← hexNibble high
      let lowNibble ← hexNibble low
      let bytes ← parseHexPairs rest
      return Fin.ofNat 256 (highNibble.val * 16 + lowNibble.val) :: bytes
  | _ => some []

def parseCanonicalKey (name : EntryName) : Option ArtifactKey :=
  if name.length ≠ 32 then none
  else do
    let bytes ← parseHexPairs name
    if sized : bytes.length = 16 then some ⟨bytes, sized⟩ else none

structure StagedArtifact where
  key : ArtifactKey
  size : ℕ
  sha256 : Sha256Digest
  metadata : RegularFileMetadataV1
  deriving DecidableEq

structure VerifiedArtifact where
  key : ArtifactKey
  size : ℕ
  sha256 : Sha256Digest
  deriving DecidableEq

inductive PublishState
  | published (artifact : VerifiedArtifact)
  | publishedCleanupPending (staged : StagedArtifact)
  | stagedOnly (staged : StagedArtifact)
  deriving DecidableEq

inductive IoCategory
  | permissionDenied
  | busy
  | other
  deriving DecidableEq

inductive MacArtifactStoreError
  | io (category : IoCategory)
  | collision
  | integrity
  | notFound
  | limitExceeded
  | extendedMetadataUnsupported
  | artifactStoreUnsafe
  | insufficientDiskSpace
  | publishReconciliationRequired (staged : StagedArtifact)
  deriving DecidableEq

structure OrphanRecoveryReport where
  stagingRemoved : ℕ
  objectsRemoved : ℕ
  deriving DecidableEq

inductive StoreArea
  | staging
  | objects
  deriving DecidableEq

structure Inode where
  content : List Byte
  links : ℕ
  key : ArtifactKey
  bytes : List Byte
  deriving DecidableEq

/-- `cleaned` are the names that were taken out of the objects. -/
structure ArtifactDisk where
  inodes : List Inode
  staging : InsertionMap EntryName ℕ
  objects : InsertionMap EntryName ℕ
  cleaned : List EntryName

def ArtifactDisk.empty : ArtifactDisk where
  inodes := []
  staging := .empty
  objects := .empty
  cleaned := []

def ArtifactDisk.directory (disk : ArtifactDisk) : StoreArea → InsertionMap EntryName ℕ
  | .staging => disk.staging
  | .objects => disk.objects

structure FileStat where
  regular : Bool
  uid : ℕ
  gid : ℕ
  permissions : ℕ
  setId : Bool
  flags : ℕ
  links : ℕ
  size : ℕ
  dev : ℕ
  ino : ℕ

inductive ArtifactCall
  | create (bytes : List Byte)
  | writeAll (ino : ℕ) (bytes : List Byte)
  | syncFile (ino : ℕ)
  | fsyncDir (area : StoreArea)
  | openAt (area : StoreArea) (name : EntryName)
  | fstat (ino : ℕ)
  | rejectAttributes (ino : ℕ)
  | read (ino : ℕ)
  | linkAt (name : EntryName)
  | unlinkAt (area : StoreArea) (name : EntryName)
  | readDir (area : StoreArea)

abbrev ArtifactCall.Reply : ArtifactCall → Type
  | .create _ => ArtifactKey × ℕ
  | .openAt .. => ℕ
  | .fstat _ => FileStat
  | .read _ => List Byte
  | .readDir _ => List EntryName
  | .writeAll .. | .syncFile _ | .fsyncDir _ | .rejectAttributes _ | .linkAt _ | .unlinkAt .. => Unit

/-- How a call of the system fails, other than by what is there or not there. -/
inductive StoreFault
  | noSpace
  | io (category : IoCategory)

def StoreFault.error : StoreFault → MacArtifactStoreError
  | .noSpace => .insufficientDiskSpace
  | .io category => .io category

/-- `key` is a new UUID and `written` how much a failing write leaves. -/
structure ArtifactDraw where
  key : ArtifactKey
  written : ℕ
  fault : Option StoreFault

structure StoreHost where
  euid : ℕ
  gid : ℕ
  dev : ℕ
  sha256 : List Byte → Sha256Digest

def modeFile : ℕ := 0o600

def fileStat (host : StoreHost) (ino : ℕ) (node : Inode) : FileStat where
  regular := true
  uid := host.euid
  gid := host.gid
  permissions := modeFile
  setId := false
  flags := 0
  links := node.links
  size := node.content.length
  dev := host.dev
  ino := ino

section Calls

variable (host : StoreHost)

def ArtifactDisk.setInode (disk : ArtifactDisk) (ino : ℕ) (node : Inode) : ArtifactDisk :=
  { disk with inodes := disk.inodes.set ino node }

def written (content bytes : List Byte) (count : ℕ) : List Byte :=
  bytes.take count ++ content.drop count

def answer (disk : ArtifactDisk) : (c : ArtifactCall) → Option (Except MacArtifactStoreError c.Reply)
  | .openAt area name =>
      match (disk.directory area).get? name with
      | some ino => some (.ok ino)
      | none => some (.error .notFound)
  | .fstat ino => disk.inodes[ino]?.map fun node => .ok (fileStat host ino node)
  | .read ino => disk.inodes[ino]?.map fun node =>
      .ok (node.content.take (maxPreimageBytesPerFile + 1))
  | .readDir area => some (.ok ((disk.directory area).entries.map Prod.fst))
  | .syncFile _ | .fsyncDir _ | .rejectAttributes _ => some (.ok ())
  | .create _ | .writeAll .. | .linkAt _ | .unlinkAt .. => none

def ArtifactDisk.unlinked (disk : ArtifactDisk) (area : StoreArea) (name : EntryName) (ino : ℕ)
    (node : Inode) : ArtifactDisk :=
  match area with
  | .staging => { disk.setInode ino { node with links := node.links - 1 } with
      staging := disk.staging.delete name }
  | .objects => { disk.setInode ino { node with links := node.links - 1 } with
      objects := disk.objects.delete name
      cleaned := name :: disk.cleaned }

def perform (c : ArtifactCall) (draw : ArtifactDraw) (disk : ArtifactDisk) :
    Option (Except MacArtifactStoreError c.Reply × ArtifactDisk) :=
  match c, draw.fault with
  | .create bytes, none =>
      if draw.key ∈ disk.inodes.map Inode.key then none
      else if disk.staging.contains (keyName draw.key) then some (.error (.io .other), disk)
      else some (.ok (draw.key, disk.inodes.length), { disk with
        inodes := disk.inodes ++ [{ content := [], links := 1, key := draw.key, bytes := bytes }]
        staging := disk.staging.set (keyName draw.key) disk.inodes.length })
  | .writeAll ino bytes, fault =>
      disk.inodes[ino]?.map fun node =>
        let count := if fault.isSome then draw.written else bytes.length
        (match fault with
          | some fault => .error fault.error
          | none => .ok (),
          disk.setInode ino { node with content := written node.content bytes count })
  | .linkAt name, none =>
      match disk.staging.get? name with
      | none => some (.error (.io .other), disk)
      | some ino =>
          if disk.objects.contains name then some (.error .collision, disk)
          else disk.inodes[ino]?.map fun node => (.ok (), {
            disk.setInode ino { node with links := node.links + 1 } with
            objects := disk.objects.set name ino })
  | .unlinkAt area name, none =>
      match (disk.directory area).get? name with
      | none => some (.error .notFound, disk)
      | some ino => disk.inodes[ino]?.map fun node => (.ok (), disk.unlinked area name ino node)
  | .rejectAttributes _, some _ => some (.error .extendedMetadataUnsupported, disk)
  | _, some fault => some (.error fault.error, disk)
  | c, none => (answer host disk c).map fun reply => (reply, disk)

end Calls

abbrev StoreProgram :=
  Program ArtifactCall ArtifactCall.Reply MacArtifactStoreError

def fsCall (c : ArtifactCall) : StoreProgram c.Reply :=
  Program.invoke c

section Programs

variable (host : StoreHost)

def fsyncDir (area : StoreArea) : StoreProgram Unit :=
  fsCall (.fsyncDir area)

def unlink (area : StoreArea) (name : EntryName) : StoreProgram Unit :=
  fsCall (.unlinkAt area name)

def openNamed (area : StoreArea) (name : EntryName) : StoreProgram ℕ :=
  fsCall (.openAt area name)

def linkStaged (name : EntryName) : StoreProgram Unit :=
  fsCall (.linkAt name)

def fstat (ino : ℕ) : StoreProgram FileStat :=
  fsCall (.fstat ino)

def isNamed (area : StoreArea) (name : EntryName) : StoreProgram Bool :=
  (openNamed area name).andThen fun
    | .ok _ => pure true
    | .error .notFound => pure false
    | .error error => .fail error

structure ArtifactSnapshot where
  size : ℕ
  sha256 : Sha256Digest
  metadata : RegularFileMetadataV1

def leBytes (width n : ℕ) : List Byte :=
  (List.range width).map fun i => Fin.ofNat 256 (n / 256 ^ i)

def fileMetadata (stat : FileStat) : RegularFileMetadataV1 where
  schemaVersion := 1
  adapter := "macos"
  fileIdentity := 1 :: (leBytes 8 stat.dev ++ leBytes 8 stat.ino)
  linkCount := 1
  fields := {
    entries := [("file_id", leBytes 8 stat.ino), ("gid", leBytes 4 stat.gid),
      ("mode", leBytes 4 (0o100000 + stat.permissions)), ("uid", leBytes 4 stat.uid)]
    ordered := by
      simp only [List.map]
      decide }

def isPrivateFile (stat : FileStat) (expectedLinks : ℕ) : Bool :=
  stat.regular && stat.uid = host.euid && stat.links = expectedLinks &&
    stat.permissions = modeFile && stat.flags = 0 && !stat.setId

def inspectArtifact (ino expectedLinks : ℕ) : StoreProgram ArtifactSnapshot := do
  let stat ← fstat ino
  if !isPrivateFile host stat expectedLinks then .fail .integrity
  else do
    fsCall (.rejectAttributes ino)
    if maxPreimageBytesPerFile < stat.size then .fail .limitExceeded
    else if (fileMetadata stat).validate ≠ .ok () then .fail .artifactStoreUnsafe
    else do
      let content ← fsCall (.read ino)
      if maxPreimageBytesPerFile < content.length then .fail .limitExceeded
      else if content.length ≠ stat.size then .fail .integrity
      else pure {
        size := stat.size
        sha256 := host.sha256 content
        metadata := fileMetadata stat }

def cleanupFailedStage {α : Type} (name : EntryName) (error : MacArtifactStoreError) :
    StoreProgram α :=
  (do
    unlink .staging name
    fsyncDir .staging : StoreProgram Unit).andThen fun
    | .ok () => .fail error
    | .error _ => .fail .artifactStoreUnsafe

def writeStaged (ino : ℕ) (bytes : List Byte) : StoreProgram Unit := do
  fsCall (.writeAll ino bytes)
  fsCall (.syncFile ino)

def syncStaged (ino : ℕ) : StoreProgram Unit := do
  fsCall (.syncFile ino)
  fsyncDir .staging

def stage (bytes : List Byte) (maximumBytes : ℕ) : StoreProgram StagedArtifact :=
  if maximumBytes < bytes.length ∨ maxPreimageBytesPerFile < bytes.length then .fail .limitExceeded
  else do
    let (key, ino) ← fsCall (.create bytes)
    let name := keyName key
    (writeStaged ino bytes).onError (cleanupFailedStage name)
    (syncStaged ino).onError (cleanupFailedStage name)
    let verificationFile ← (openNamed .staging name).onError (cleanupFailedStage name)
    let snapshot ← (inspectArtifact host verificationFile 1).onError (cleanupFailedStage name)
    if snapshot.size = bytes.length ∧ snapshot.sha256 = host.sha256 bytes then pure {
      key := key
      size := bytes.length
      sha256 := host.sha256 bytes
      metadata := snapshot.metadata }
    else cleanupFailedStage name .integrity

def verifyFd (key : ArtifactKey) (expectedSize : ℕ) (expectedSha256 : Sha256Digest)
    (allowLinked : Bool) : StoreProgram VerifiedArtifact :=
  if maxPreimageBytesPerFile < expectedSize then .fail .limitExceeded
  else do
    let file ← openNamed .objects (keyName key)
    let snapshot ← inspectArtifact host file (if allowLinked then 2 else 1)
    if snapshot.size ≠ expectedSize ∨ snapshot.sha256 ≠ expectedSha256 then .fail .integrity
    else pure { key := key, size := expectedSize, sha256 := expectedSha256 }

def verify (key : ArtifactKey) (expectedSize : ℕ) (expectedSha256 : Sha256Digest) :
    StoreProgram VerifiedArtifact :=
  if maxPreimageBytesPerFile < expectedSize then .fail .limitExceeded
  else verifyFd host key expectedSize expectedSha256 false

def reconciling {α : Type} (staged : StagedArtifact) (p : StoreProgram α) : StoreProgram α :=
  p.onError fun _ => .fail (.publishReconciliationRequired staged)

def completeLinkedPublish (staged : StagedArtifact) (name : EntryName) :
    StoreProgram PublishState := do
  reconciling staged (fsyncDir .objects)
  let _ ← reconciling staged (verifyFd host staged.key staged.size staged.sha256 true)
  reconciling staged (unlink .staging name)
  reconciling staged (fsyncDir .staging)
  let finalArtifact ← reconciling staged (verify host staged.key staged.size staged.sha256)
  return .published finalArtifact

def isStagedSnapshot (snapshot : ArtifactSnapshot) (staged : StagedArtifact) : Bool :=
  snapshot.size = staged.size && snapshot.sha256 = staged.sha256 &&
    snapshot.metadata = staged.metadata

def publish (staged : StagedArtifact) : StoreProgram PublishState := do
  let stagedFile ← openNamed .staging (keyName staged.key)
  let snapshot ← inspectArtifact host stagedFile 1
  if !isStagedSnapshot snapshot staged then .fail .integrity
  else do
    linkStaged (keyName staged.key)
    completeLinkedPublish host staged (keyName staged.key)

def requireSameInode (name : EntryName) (error : MacArtifactStoreError) : StoreProgram Unit := do
  let staging ← openNamed .staging name
  let finalFile ← openNamed .objects name
  let left ← fstat staging
  let right ← fstat finalFile
  if left.dev = right.dev ∧ left.ino = right.ino then pure () else .fail error

def finishLinked (staged : StagedArtifact) : StoreProgram PublishState := do
  requireSameInode (keyName staged.key) .integrity
  reconciling staged (unlink .staging (keyName staged.key))
  reconciling staged (fsyncDir .staging)
  let finalArtifact ← reconciling staged
    (verifyFd host staged.key staged.size staged.sha256 false)
  return .published finalArtifact

def completeCollision (staged : StagedArtifact) : StoreProgram PublishState := do
  let finalArtifact ← verifyFd host staged.key staged.size staged.sha256 true
  requireSameInode (keyName staged.key) .collision
  let _ ← completeLinkedPublish host staged (keyName staged.key)
  return .published finalArtifact

def retryLink (staged : StagedArtifact) : StoreProgram PublishState :=
  (linkStaged (keyName staged.key)).andThen fun
    | .ok () => completeLinkedPublish host staged (keyName staged.key)
    | .error .collision => completeCollision host staged
    | .error error => .fail error

def reconcilePublish (staged : StagedArtifact) : StoreProgram PublishState := do
  let stagingExists ← isNamed .staging (keyName staged.key)
  if !stagingExists then do
    let finalArtifact ← verifyFd host staged.key staged.size staged.sha256 false
    return .published finalArtifact
  else
    (verifyFd host staged.key staged.size staged.sha256 true).andThen fun
      | .ok _ => finishLinked host staged
      | .error .notFound => retryLink host staged
      | .error error => .fail error

def cleanupVerified (artifact : VerifiedArtifact) : StoreProgram Unit := do
  let _ ← verify host artifact.key artifact.size artifact.sha256
  unlink .objects (keyName artifact.key)
  fsyncDir .objects

def cleanupStaged (artifact : StagedArtifact) : StoreProgram Unit := do
  let file ← openNamed .staging (keyName artifact.key)
  let snapshot ← inspectArtifact host file 1
  if !isStagedSnapshot snapshot artifact then .fail .integrity
  else do
    unlink .staging (keyName artifact.key)
    fsyncDir .staging

def maxRecoveryEntries : ℕ := 4096

structure RecoveryEntry where
  key : ArtifactKey
  name : EntryName
  area : StoreArea

def collectEntries (area : StoreArea) (entries : List RecoveryEntry) :
    List EntryName → StoreProgram (List RecoveryEntry)
  | [] => pure entries
  | name :: names =>
      if maxRecoveryEntries ≤ entries.length then .fail .artifactStoreUnsafe
      else
        match parseCanonicalKey name with
        | none => .fail .artifactStoreUnsafe
        | some key => collectEntries area (entries ++ [⟨key, name, area⟩]) names

def enumerateEntries (area : StoreArea) : StoreProgram (List RecoveryEntry) := do
  let names ← fsCall (.readDir area)
  collectEntries area [] names

def inspectEntries : List RecoveryEntry → StoreProgram Unit
  | [] => pure ()
  | entry :: entries => do
      let file ← openNamed entry.area entry.name
      let _ ← inspectArtifact host file 1
      inspectEntries entries

def removeOrphans (referenced : Finset ArtifactKey) (removed : ℕ) :
    List RecoveryEntry → StoreProgram ℕ
  | [] => pure removed
  | entry :: entries =>
      if entry.key ∈ referenced then removeOrphans referenced removed entries
      else do
        unlink entry.area entry.name
        if removed + 1 < 2 ^ 32 then removeOrphans referenced (removed + 1) entries
        else .fail .artifactStoreUnsafe

def syncRemoved (area : StoreArea) (removed : ℕ) : StoreProgram Unit :=
  if removed ≠ 0 then fsyncDir area else pure ()

def recoverOrphans (referenced : Finset ArtifactKey) : StoreProgram OrphanRecoveryReport := do
  let stagingEntries ← enumerateEntries .staging
  let objectEntries ← enumerateEntries .objects
  -- everything is validated before anything is deleted
  inspectEntries host (stagingEntries ++ objectEntries)
  let stagingRemoved ← removeOrphans referenced 0 stagingEntries
  syncRemoved .staging stagingRemoved
  let objectsRemoved ← removeOrphans referenced 0 objectEntries
  syncRemoved .objects objectsRemoved
  return { stagingRemoved := stagingRemoved, objectsRemoved := objectsRemoved }

inductive ArtifactOperation
  | stage (bytes : List Byte) (maximumBytes : ℕ)
  | publish (staged : StagedArtifact)
  | reconcilePublish (staged : StagedArtifact)
  | cleanupVerified (artifact : VerifiedArtifact)
  | cleanupStaged (artifact : StagedArtifact)

inductive ArtifactResult
  | staged (artifact : StagedArtifact)
  | publish (state : PublishState)
  | cleanedUp
  deriving DecidableEq

def ArtifactOperation.code : ArtifactOperation → StoreProgram ArtifactResult
  | .stage bytes maximumBytes => do
      let artifact ← GuardedUndo.stage host bytes maximumBytes
      return .staged artifact
  | .publish staged => do
      let state ← GuardedUndo.publish host staged
      return .publish state
  | .reconcilePublish staged => do
      let state ← GuardedUndo.reconcilePublish host staged
      return .publish state
  | .cleanupVerified artifact => do
      GuardedUndo.cleanupVerified host artifact
      return .cleanedUp
  | .cleanupStaged artifact => do
      GuardedUndo.cleanupStaged host artifact
      return .cleanedUp

def admitsOperation (results : List (ArtifactOperation × ArtifactResult)) :
    ArtifactOperation → Bool
  | .publish staged | .reconcilePublish staged | .cleanupStaged staged =>
      results.any fun result => result.2 = .staged staged
  | .stage .. | .cleanupVerified _ => true

abbrev ArtifactRun :=
  Pool ArtifactDisk
    (Running ArtifactOperation ArtifactCall ArtifactCall.Reply MacArtifactStoreError ArtifactResult)

def artifactStore : System ArtifactRun (PoolAction ArtifactOperation ArtifactDraw) Unit :=
  programs .empty (ArtifactOperation.code host) admitsOperation (perform host)

end Programs

end DevCommandCenter.GuardedUndo
