import DevCommandCenter.Delegation.Records
import DevCommandCenter.GuardedUndo.Manifest
import DevCommandCenter.Library.InsertionMap
import DevCommandCenter.Library.Program

/-! The files that an apply works on: the two worktrees, the frozen artifacts, and the calls that
change the destination. -/

namespace DevCommandCenter.Delegation

open Library GuardedUndo

structure RelativePath where
  parent : List String
  name : String
  deriving DecidableEq, Repr

namespace RelativePath

def components (path : RelativePath) : List String :=
  path.parent ++ [path.name]

def render (path : RelativePath) : String :=
  "/".intercalate path.components

def ancestors (path : RelativePath) : List RelativePath :=
  (List.range path.parent.length).map fun i => ⟨path.parent.take i, path.parent.getD i ""⟩

lemma parent_lt {path above : RelativePath} (h : above ∈ path.ancestors) :
    above.parent.length < path.parent.length := by
  obtain ⟨i, hi, rfl⟩ := List.mem_map.mp h
  rw [List.mem_range] at hi
  rw [List.length_take]
  omega

lemma ancestor_irrefl (path : RelativePath) : path ∉ path.ancestors :=
  fun h => lt_irrefl _ (parent_lt h)

lemma ancestors_eq {path path' : RelativePath} (h : path.parent = path'.parent) :
    path.ancestors = path'.ancestors := by
  rw [ancestors, ancestors, h]

lemma name_mem_parent {path above : RelativePath} (h : above ∈ path.ancestors) :
    above.name ∈ path.parent := by
  obtain ⟨i, hi, rfl⟩ := List.mem_map.mp h
  rw [List.mem_range] at hi
  simp only [List.getD_eq_getElem?_getD, List.getElem?_eq_getElem hi, Option.getD_some]
  exact List.getElem_mem hi

end RelativePath

structure FileNode where
  bytes : List Byte
  mode : ℕ
  deriving DecidableEq

/-- The files of a directory tree: what is a file has nothing below it. -/
structure FileTree where
  files : InsertionMap RelativePath FileNode
  apart : ∀ path below node node', files.get? path = some node → files.get? below = some node' →
    path ∉ below.ancestors

namespace FileTree

variable (tree : FileTree) (path : RelativePath)

def file? : Option FileNode :=
  tree.files.get? path

def isDirectory : Bool :=
  tree.files.entries.any fun entry => path ∈ entry.1.ancestors

def Fits : Prop :=
  (∀ above ∈ path.ancestors, tree.file? above = none) ∧ tree.isDirectory path = false

instance : Decidable (tree.Fits path) :=
  inferInstanceAs (Decidable (_ ∧ _))

lemma isDirectory_iff {tree : FileTree} {path : RelativePath} : tree.isDirectory path = true ↔
    ∃ below node, tree.file? below = some node ∧ path ∈ below.ancestors := by
  simp only [isDirectory, List.any_eq_true, decide_eq_true_eq, Prod.exists]
  constructor
  · rintro ⟨below, node, hmem, habove⟩
    exact ⟨below, node, InsertionMap.get?_eq_some.mpr hmem, habove⟩
  · rintro ⟨below, node, hnode, habove⟩
    exact ⟨below, node, InsertionMap.get?_eq_some.mp hnode, habove⟩

lemma isDirectory_of_file {tree : FileTree} {path : RelativePath} {node : FileNode}
    (h : tree.file? path = some node) : tree.isDirectory path = false := by
  rw [Bool.eq_false_iff]
  intro hdirectory
  obtain ⟨below, node', hnode, habove⟩ := isDirectory_iff.mp hdirectory
  exact tree.apart path below node node' h hnode habove

def put (node : FileNode) (h : tree.Fits path) : FileTree where
  files := tree.files.set path node
  apart := by
    intro above below node₁ node₂ habove hbelow hmem
    rw [InsertionMap.get?_set] at habove hbelow
    split at habove
    · next heq =>
        subst heq
        split at hbelow
        · next heq => exact RelativePath.ancestor_irrefl _ (heq ▸ hmem)
        · have hdirectory := isDirectory_iff.mpr ⟨below, node₂, hbelow, hmem⟩
          rw [h.2] at hdirectory
          cases hdirectory
    · split at hbelow
      · next heq =>
          have hnone := h.1 above (heq ▸ hmem)
          rw [file?, habove] at hnone
          cases hnone
      · exact tree.apart above below node₁ node₂ habove hbelow hmem

def delete : FileTree where
  files := tree.files.delete path
  apart := by
    intro above below node₁ node₂ habove hbelow
    rw [InsertionMap.get?_delete] at habove hbelow
    split at habove
    · cases habove
    · split at hbelow
      · cases hbelow
      · exact tree.apart above below node₁ node₂ habove hbelow

@[simp] lemma file?_put (node : FileNode) (h : tree.Fits path) (other : RelativePath) :
    (tree.put path node h).file? other = if other = path then some node else tree.file? other :=
  InsertionMap.get?_set

@[simp] lemma file?_delete (other : RelativePath) :
    (tree.delete path).file? other = if other = path then none else tree.file? other :=
  InsertionMap.get?_delete

lemma fits_delete {other : RelativePath} (habove : other ∉ path.ancestors)
    (hbelow : path ∉ other.ancestors) : (tree.delete other).Fits path ↔ tree.Fits path := by
  refine and_congr (forall₂_congr fun above hmem => ?_) ?_
  · have hne : above ≠ other := ne_of_mem_of_not_mem hmem habove
    rw [file?_delete, if_neg hne]
  · rw [← not_iff_not, Bool.not_eq_false, Bool.not_eq_false, isDirectory_iff, isDirectory_iff]
    refine exists_congr fun below => exists_congr fun node => and_congr_left fun hmem => ?_
    have hne : below ≠ other := fun heq => hbelow (heq ▸ hmem)
    rw [file?_delete, if_neg hne]

end FileTree

structure ApplyIdentity where
  head : String
  branch : Option String
  indexTree : String
  deriving DecidableEq, Repr

inductive GitSide
  | source
  | destination
  deriving DecidableEq, Repr

def sideLabel : GitSide → String
  | .source => "source"
  | .destination => "destination"

/-- What Git says of a worktree. `head` are the bytes and the executable bit of every tracked path. -/
structure GitState where
  isWorktree : Bool
  identity : ApplyIdentity
  operation : Option String
  head : List (RelativePath × List Byte × Bool)
  trackedChanged : List RelativePath
  untracked : List RelativePath
  submodules : List RelativePath

structure Worktree where
  tree : FileTree
  git : GitState

def fileMode (node : FileNode) : ℕ :=
  node.mode % 0o1000

def isExecutable (node : FileNode) : Bool :=
  node.mode / 0o100 % 2 = 1

def Worktree.isClean (worktree : Worktree) : Bool :=
  worktree.git.head.all fun entry =>
    (worktree.tree.file? entry.1).any fun node => node.bytes = entry.2.1 ∧ isExecutable node = entry.2.2

inductive SnapshotKind
  | missing
  | regular
  deriving DecidableEq, Repr

structure Snapshot where
  kind : SnapshotKind
  digest : String
  bytes : ℕ
  fileMode : ℕ
  deriving DecidableEq, Repr

structure FileArtifact where
  path : RelativePath
  pre : Snapshot
  post : Snapshot
  prePayload : Option String
  postPayload : Option String
  deriving DecidableEq, Repr

structure Manifest where
  version : ℕ
  transactionId : String
  source : ApplyIdentity
  destination : ApplyIdentity
  files : List FileArtifact
  deriving DecidableEq, Repr

/-- What a transaction froze: `manifest.json`, `manifest.sha256` and the payloads by their names. -/
structure TransactionDir where
  manifest : List Byte
  digest : String
  payloads : InsertionMap String (List Byte)

structure ApplyDisk where
  source : Worktree
  destination : Worktree
  transactions : InsertionMap String TransactionDir

def ApplyDisk.worktree (disk : ApplyDisk) : GitSide → Worktree
  | .source => disk.source
  | .destination => disk.destination

def ApplyDisk.setTree (disk : ApplyDisk) (tree : FileTree) : ApplyDisk :=
  { disk with destination := { disk.destination with tree := tree } }

inductive ApplyCall
  | look
  | createDestinationParent (path : RelativePath)
  | writeDestinationTemp (path : RelativePath) (bytes : List Byte) (fileMode : ℕ)
  | atomicReplace (temp target : RelativePath)
  | removeFile (path : RelativePath)
  | syncDirectory (path : RelativePath)

abbrev ApplyCall.Reply : ApplyCall → Type
  | .look => ApplyDisk
  | _ => Unit

/-- A call that fails does nothing; one that is not made to fail does so only for what is there. -/
def performApply (c : ApplyCall) (fault : Option String) (disk : ApplyDisk) :
    Option (Except String c.Reply × ApplyDisk) :=
  match c, fault with
  | _, some error => some (.error error, disk)
  | .look, none => some (.ok disk, disk)
  | .createDestinationParent _, none | .syncDirectory _, none => some (.ok (), disk)
  | .writeDestinationTemp path bytes fileMode, none =>
      if disk.destination.tree.file? path ≠ none then some (.error "File exists", disk)
      else if h : disk.destination.tree.Fits path then
        some (.ok (), disk.setTree (disk.destination.tree.put path ⟨bytes, fileMode % 0o1000⟩ h))
      else some (.error "Not a directory", disk)
  | .atomicReplace temp target, none =>
      match disk.destination.tree.file? temp with
      | none => some (.error "No such file or directory", disk)
      | some node =>
          if h : (disk.destination.tree.delete temp).Fits target then
            some (.ok (), disk.setTree ((disk.destination.tree.delete temp).put target node h))
          else some (.error "Is a directory", disk)
  | .removeFile path, none =>
      match disk.destination.tree.file? path with
      | none => some (.error "No such file or directory", disk)
      | some _ => some (.ok (), disk.setTree (disk.destination.tree.delete path))

abbrev ApplyProgram :=
  Program ApplyCall ApplyCall.Reply String

def applyCall (c : ApplyCall) : ApplyProgram c.Reply :=
  Program.invoke c

end DevCommandCenter.Delegation
