import DevCommandCenter.Library.InsertionMap
import DevCommandCenter.Library.Interleaving
import DevCommandCenter.Library.Text

/-! The shells of the desktop, by mission, and those of the headless runtime, by owner key. A call looks,
spawns and takes up under three locks one after the other. -/

namespace DevCommandCenter.Terminals

open Library

structure ManagedTerminal where
  missionId : Option String
  ptyOwnerKey : Option String
  cwd : String
  deriving DecidableEq

structure HeadlessManagedTerminal where
  ptyOwnerKey : Option String
  cwd : String
  deriving DecidableEq

structure Shells where
  terminals : InsertionMap String ManagedTerminal
  headless : InsertionMap String HeadlessManagedTerminal
  uuids : List String

structure TerminalOptions where
  cwd : Option String
  ptyOwnerKey : Option String

structure TerminalSpawnRequest where
  cwd : String
  ptyOwnerKey : Option String

inductive ShellReply
  | shell (ptyId : String) (existing : Bool)
  | spawned (ptyId : String)
  | killed (ok : Bool)
  deriving DecidableEq

inductive ShellPhase
  | looking
  | spawning
  | taking (ptyId : String)
  | returned (result : Except String ShellReply)

inductive ShellOperation
  | getOrCreate (missionId : String) (options : TerminalOptions)
  | getOrCreateByOwner (ownerKey : String) (input : TerminalSpawnRequest)
  | spawnHeadless (input : TerminalSpawnRequest)
  | kill (ptyId : String)
  | killHeadless (ptyId : String)
  | killAll

structure ShellCall where
  operation : ShellOperation
  phase : ShellPhase

/-- The id of a new shell, the match that the map's iteration meets first, and how the system fails. -/
structure ShellDraw where
  ptyId : String
  found : String
  fault : Option String

def terminalSpawn (s : Shells) (options : TerminalOptions) (draw : ShellDraw) :
    Except String String × Shells :=
  match options.cwd, draw.fault with
  | none, _ => (.error "cwd is required", s)
  | some _, some fault => (.error fault, s)
  | some cwd, none => (.ok draw.ptyId, { s with
      terminals := s.terminals.set draw.ptyId
        { missionId := none, ptyOwnerKey := options.ptyOwnerKey, cwd := cwd } })

def spawnHeadlessTerminal (s : Shells) (input : TerminalSpawnRequest) (draw : ShellDraw) :
    Option (Except String String × Shells) :=
  if trim input.cwd = "" then some (.error "cwd is required", s)
  else
    match draw.fault with
    | some fault => some (.error fault, s)
    | none =>
        -- a new uuid
        if draw.ptyId ∈ s.uuids then none
        else some (.ok draw.ptyId, { s with
          headless := s.headless.set draw.ptyId
            { ptyOwnerKey := input.ptyOwnerKey, cwd := trim input.cwd }
          uuids := draw.ptyId :: s.uuids })

def findIn {ν : Type} (m : InsertionMap String ν) (found : String) (p : ν → Bool) :
    Option (Option String) :=
  if m.entries.any fun entry => p entry.2 then
    if (m.get? found).any p then some (some found) else none
  else some none

def findMission (s : Shells) (missionId : String) (draw : ShellDraw) : Option (Option String) :=
  findIn s.terminals draw.found fun terminal => terminal.missionId = some missionId

def findOwner (s : Shells) (ownerKey : String) (draw : ShellDraw) : Option (Option String) :=
  findIn s.headless draw.found fun terminal => terminal.ptyOwnerKey = some ownerKey

def looked : Option String → ShellPhase
  | some ptyId => .returned (.ok (.shell ptyId true))
  | none => .spawning

def spawned : Except String String → ShellPhase
  | .ok ptyId => .taking ptyId
  | .error error => .returned (.error error)

def ShellCall.next (s : Shells) (call : ShellCall) (draw : ShellDraw) : Option (Shells × ShellPhase) :=
  match call.operation, call.phase with
  | .getOrCreate missionId _, .looking =>
      (findMission s missionId draw).map fun found => (s, looked found)
  | .getOrCreate _ options, .spawning =>
      let (result, s') := terminalSpawn s options draw
      some (s', spawned result)
  | .getOrCreate missionId _, .taking ptyId =>
      match s.terminals.get? ptyId with
      | some terminal => some (
          { s with terminals := s.terminals.set ptyId { terminal with missionId := some missionId } },
          .returned (.ok (.shell ptyId false)))
      | none => some (s, .returned (.error "Failed to re-acquire spawned terminal"))
  | .getOrCreateByOwner ownerKey _, .looking =>
      (findOwner s ownerKey draw).map fun found => (s, looked found)
  | .getOrCreateByOwner ownerKey input, .spawning =>
      (spawnHeadlessTerminal s { input with ptyOwnerKey := some ownerKey } draw).map
        fun result => (result.2, spawned result.1)
  | .getOrCreateByOwner _ _, .taking ptyId =>
      if s.headless.contains ptyId then some (s, .returned (.ok (.shell ptyId false)))
      else some (s, .returned (.error "spawned terminal not found in runtime"))
  | .spawnHeadless input, .looking =>
      (spawnHeadlessTerminal s input draw).map fun result => (result.2, .returned (result.1.map .spawned))
  | .kill ptyId, .looking => some ({ s with terminals := s.terminals.delete ptyId },
      .returned (.ok (.killed (s.terminals.contains ptyId))))
  | .killHeadless ptyId, .looking => some ({ s with headless := s.headless.delete ptyId },
      .returned (.ok (.killed (s.headless.contains ptyId))))
  | .killAll, .looking => some ({ s with terminals := .empty }, .returned (.ok (.killed true)))
  | _, _ => none

def ShellCall.begins (call : ShellCall) : Bool :=
  match call.phase with
  | .looking => true
  | _ => false

def shells : System (Pool Shells ShellCall) (PoolAction ShellCall ShellDraw) Unit :=
  pool { terminals := .empty, headless := .empty, uuids := [] } ShellCall.begins fun s call draw =>
    (call.next s draw).map fun result => (result.1, ⟨call.operation, result.2⟩)

inductive Owner
  | mission (id : String)
  | key (ownerKey : String)

def Shells.Carries (s : Shells) : Owner → String → Prop
  | .mission id, ptyId => ∃ terminal, s.terminals.get? ptyId = some terminal ∧ terminal.missionId = some id
  | .key ownerKey, ptyId =>
      ∃ terminal, s.headless.get? ptyId = some terminal ∧ terminal.ptyOwnerKey = some ownerKey

def Shells.OneShell (s : Shells) : Prop :=
  ∀ owner a b, s.Carries owner a → s.Carries owner b → a = b

def ShellCall.shell : ShellCall → Option (Owner × String)
  | ⟨.getOrCreate missionId _, .returned (.ok (.shell ptyId _))⟩ => some (.mission missionId, ptyId)
  | ⟨.getOrCreateByOwner ownerKey _, .returned (.ok (.shell ptyId _))⟩ => some (.key ownerKey, ptyId)
  | _ => none

def ShellCall.gives (s : Shells) (call : ShellCall) (draw : ShellDraw) : Option (Owner × String) :=
  match call.operation, call.phase with
  | .getOrCreate missionId _, .taking ptyId =>
      if s.terminals.contains ptyId then some (.mission missionId, ptyId) else none
  | .getOrCreateByOwner ownerKey input, .spawning =>
      if trim input.cwd ≠ "" ∧ draw.fault = none then some (.key ownerKey, draw.ptyId) else none
  | .spawnHeadless input, .looking =>
      if trim input.cwd ≠ "" ∧ draw.fault = none then
        input.ptyOwnerKey.map fun ownerKey => (.key ownerKey, draw.ptyId)
      else none
  | _, _ => none

end DevCommandCenter.Terminals
