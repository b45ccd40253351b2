import DevCommandCenter.Library.Call
import DevCommandCenter.Library.Json
import DevCommandCenter.Library.Table
import DevCommandCenter.Library.Text
import DevCommandCenter.Library.Transition
import Mathlib.Algebra.GroupWithZero.Nat

/-! The quick composer's launch journal: one launch in `state.json`, replaced or moved on. -/

namespace DevCommandCenter.QuickComposer

open Library

structure Launch where
  id : String
  revision : ℕ
  phase : String
  request : Value
  workspaceId : Option String
  sessionId : Option String
  error : Option String
  deriving DecidableEq

structure Saved where
  shortcut : Option String
  launch : Option Launch
  deriving DecidableEq

def defaultShortcut : String := "Super+Shift+KeyC"

def Saved.default : Saved where
  shortcut := some defaultShortcut
  launch := none

structure Codec (Bytes : Type) where
  encode : Saved → Bytes
  decode : Bytes → Option Saved
  encodeLaunch : Launch → Bytes
  valueLength : Value → ℕ

variable {Bytes : Type}

/-- `quick-composer` in the data directory. -/
structure Disk (Bytes : Type) where
  stateJson : Option Bytes
  stateTmp : Option Bytes
  archives : Table String Bytes

/-- `memory` is the locked state of the running process, if one runs. -/
structure Composer (Bytes : Type) where
  disk : Disk Bytes
  memory : Option Saved

inductive FileStep
  | archive
  | write
  | sync
  | rename
  | publish
  deriving DecidableEq

/-- What happens at a step: an error of the file system, or the end of the process. A file that was
being written then holds `left`. -/
structure Fault (Bytes : Type) where
  step : FileStep
  crashes : Bool
  left : Option Bytes

inductive Stop
  | error (message : String)
  | crash
  deriving DecidableEq

section Calls

variable (fault : Option (Fault Bytes))

def fileStep (step : FileStep) (done : Disk Bytes → Disk Bytes)
    (torn : Option Bytes → Disk Bytes → Disk Bytes) : Call (Composer Bytes) Stop Unit := fun s =>
  match fault with
  | some f =>
      if f.step = step then
        (.error (if f.crashes then .crash else .error "io error"),
          { s with disk := torn f.left s.disk })
      else (.ok (), { s with disk := done s.disk })
  | none => (.ok (), { s with disk := done s.disk })

variable (codec : Codec Bytes)

def persist (saved : Saved) : Call (Composer Bytes) Stop Unit := do
  fileStep fault .write (fun disk => { disk with stateTmp := some (codec.encode saved) })
    fun left disk => { disk with stateTmp := left }
  fileStep fault .sync (fun disk => disk) fun _ disk => disk
  fileStep fault .rename
    (fun disk => { disk with stateJson := disk.stateTmp, stateTmp := none }) fun _ disk => disk

def publish (saved : Saved) (launch : Launch) : Call (Composer Bytes) Stop Launch := do
  persist fault codec { saved with launch := some launch }
  -- Only the end of the process comes between the rename and the memory.
  fileStep (fault.filter Fault.crashes) .publish (fun disk => disk) fun _ disk => disk
  Call.update fun s => { s with memory := some { saved with launch := some launch } }
  return launch

def isHexDigit (c : Char) : Bool :=
  c.isDigit || ('a' ≤ c && c ≤ 'f') || ('A' ≤ c && c ≤ 'F')

def isHyphenated (digits : List Char) : Bool :=
  digits.length = 36 &&
    (List.range 36).all fun i =>
      (digits[i]?).any fun c => if i ∈ [8, 13, 18, 23] then c = '-' else isHexDigit c

def isUuid (text : String) : Bool :=
  let chars := text.toList
  (chars.length = 32 && chars.all isHexDigit) || isHyphenated chars ||
    (chars.length = 38 && chars.head? = some '\x7b' && chars.getLast? = some '\x7d' &&
      isHyphenated ((chars.drop 1).take 36)) ||
    ("urn:uuid:".toList.isPrefixOf chars && isHyphenated (chars.drop 9))

def validateLaunch (launch : Launch) : Except String Unit :=
  let prompt := (((launch.request.get "turn").bind (Value.get · "rawPrompt")).bind
    Value.asStr).getD ""
  if !isUuid launch.id || launch.revision ≠ 0 || launch.phase ≠ "pending" ||
      launch.workspaceId.isSome || launch.sessionId.isSome || launch.error.isSome then
    .error "Invalid launch"
  else if isBlank prompt || 256000 < prompt.utf8ByteSize then .error "Invalid prompt"
  else if ¬((launch.request.get "isolationMode").bind Value.asStr).any
      (· ∈ ["localDirect", "protectedWorktree"]) then .error "Invalid environment"
  else if 300000 < codec.valueLength launch.request then .error "Launch too large"
  else .ok ()

def finished (phase : String) : Bool :=
  phase = "completed" || phase = "failed"

def archive (previous : Launch) : Call (Composer Bytes) Stop Unit :=
  fileStep fault .archive
    (fun disk =>
      { disk with archives := disk.archives.insert previous.id (codec.encodeLaunch previous) })
    fun left disk =>
      match left with
      | none => disk
      | some bytes => { disk with archives := disk.archives.insert previous.id bytes }

def replaceLaunch (saved : Saved) (launch : Launch) : Call (Composer Bytes) Stop Launch :=
  match saved.launch with
  | none => publish fault codec saved launch
  | some previous =>
      if previous.id = launch.id then pure previous
      else if !finished previous.phase then Call.fail (.error "A launch is already pending")
      else do
        archive fault codec previous
        publish fault codec saved launch

def refuse (result : Except String Unit) : Call (Composer Bytes) Stop Unit :=
  match result with
  | .ok () => pure ()
  | .error message => Call.fail (.error message)

def begin (saved : Saved) (launch : Launch) : Call (Composer Bytes) Stop Launch := do
  refuse (validateLaunch codec launch)
  replaceLaunch fault codec saved launch

def allowed (phase next : String) : Bool :=
  (phase, next) ∈ [("pending", "creating"), ("creating", "workspaceReady"),
    ("workspaceReady", "starting"), ("starting", "sessionReady"), ("sessionReady", "sending"),
    ("sending", "completed")]

def transition (current next : Launch) : Except String Unit :=
  if current.id ≠ next.id ∨ next.revision ≠ (current.revision + 1) % 2 ^ 32 ∨
      current.request ≠ next.request then .error "Stale launch"
  else if (!allowed current.phase next.phase && next.phase ≠ "failed") || finished current.phase then
    .error "Invalid launch transition"
  else if (current.workspaceId.isSome && current.workspaceId ≠ next.workspaceId) ||
      (current.sessionId.isSome && current.sessionId ≠ next.sessionId) then
    .error "Launch scope changed"
  else if (next.phase ∈ ["workspaceReady", "starting", "sessionReady", "sending", "completed"] ∧
        next.workspaceId.isNone) ∨
      (next.phase ∈ ["sessionReady", "sending", "completed"] ∧ next.sessionId.isNone) then
    .error "Missing launch scope"
  else .ok ()

def checkpoint (saved : Saved) (launch : Launch) : Call (Composer Bytes) Stop Launch :=
  match saved.launch with
  | none => Call.fail (.error "Missing launch")
  | some current => do
      refuse (transition current launch)
      publish fault codec saved launch

end Calls

/-- `opens` starts a process over the directory, unless the file system fails it. -/
inductive Event (Bytes : Type)
  | begin (launch : Launch) (fault : Option (Fault Bytes))
  | checkpoint (launch : Launch) (fault : Option (Fault Bytes))
  | crash
  | opens (failure : Option String)

def answered {α : Type} : Except Stop α → Option (Except String α)
  | .ok a => some (.ok a)
  | .error (.error message) => some (.error message)
  | .error .crash => none

def runCall (call : Saved → Call (Composer Bytes) Stop Launch) (s : Composer Bytes) :
    Option (Option (Except String Launch) × Composer Bytes) :=
  match s.memory with
  | none => none
  | some saved =>
      match call saved s with
      | (.error .crash, t) => some (none, { t with memory := none })
      | (result, t) => some (answered result, t)

def openState (codec : Codec Bytes) (disk : Disk Bytes) : Option Saved :=
  match disk.stateJson with
  | none => some Saved.default
  | some bytes => codec.decode bytes

def quickComposer (codec : Codec Bytes) :
    System (Composer Bytes) (Event Bytes) (Option (Except String Launch)) where
  start := { disk := { stateJson := none, stateTmp := none, archives := ∅ }, memory := none }
  step s
    | .begin launch fault => runCall (fun saved => begin fault codec saved launch) s
    | .checkpoint launch fault => runCall (fun saved => checkpoint fault codec saved launch) s
    | .crash => some (none, { s with memory := none })
    | .opens failure =>
        if s.memory.isSome then none
        else if failure.isSome then some (none, s)
        else some (none, { s with memory := openState codec s.disk })

end DevCommandCenter.QuickComposer
