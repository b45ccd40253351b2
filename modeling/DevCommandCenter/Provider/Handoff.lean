import DevCommandCenter.Library.Text
import Mathlib.Data.Int.Notation

/-! What a conversation carries along when it goes on with another provider. -/

namespace DevCommandCenter.Provider

open Library

def providerHandoffMaxChars : ℕ := 12000
def recentContextMaxChars : ℕ := 4000
def recentMessageMaxChars : ℕ := 1600

inductive HandoffRole
  | user
  | assistant
  | system
  deriving DecidableEq

structure HandoffMessage where
  role : HandoffRole
  content : String
  label : Option String
  streaming : Bool
  incomplete : Bool
  deriving DecidableEq

structure HandoffChange where
  path : String
  status : String
  insertions : UInt32
  deletions : UInt32
  deriving DecidableEq

structure HandoffGit where
  currentBranch : Option String
  baseBranch : Option String
  staged : List HandoffChange
  unstaged : List HandoffChange
  branchDiff : List HandoffChange
  deriving DecidableEq

def truncationMark : String := "\n\n[truncated]"

def truncateHandoff (value : String) (max : ℕ) : String :=
  let trimmed := trim value
  if trimmed.length ≤ max then trimmed
  else
    let kept := String.ofList (trimmed.toList.take (max - 14))
    trimEnd kept ++ truncationMark

def durable (message : HandoffMessage) : Bool :=
  message.role ≠ .system ∧ ¬message.streaming ∧ ¬message.incomplete ∧ trim message.content ≠ ""

def formatChange (change : HandoffChange) : String :=
  "- " ++ change.status ++ " " ++ change.path ++ " (+" ++ toString change.insertions ++ "/-" ++
    toString change.deletions ++ ")"

def formatChanges (label : String) (changes : List HandoffChange) : String :=
  if changes = [] then label ++ ": none"
  else
    let lines := (label ++ ":") :: (changes.take 60).map formatChange
    let more :=
      if changes.length > 60 then ["- ... " ++ toString (changes.length - 60) ++ " more file(s)"]
      else []
    "\n".intercalate (lines ++ more)

def appendSection (sections : List String) (title : String) (value : Option String) (limit : ℕ) :
    List String :=
  match value.filter fun value => trim value ≠ "" with
  | none => sections
  | some value => sections ++ [title ++ ":\n" ++ truncateHandoff value limit]

section Recent

def labelOf (message : HandoffMessage) : String :=
  (message.label.filter (· ≠ "")).getD (if message.role = .user then "User" else "Assistant")

def isCandidate (currentPrompt : Option String) (message : HandoffMessage) : Bool :=
  let prompt := (currentPrompt.map trim).filter (· ≠ "")
  (message.role = .user ∨ message.role = .assistant) ∧ durable message ∧
    ∀ text ∈ prompt, trim message.content ≠ text

def separator (selected : List String) : ℤ :=
  if selected = [] then 0 else 2

def select : List HandoffMessage → List String → ℤ → List String
  | [], selected, _ => selected
  | message :: older, selected, remaining =>
      let label := labelOf message
      let available := remaining - separator selected
      if available ≤ label.length + 16 then selected
      else
        let budget := min (recentMessageMaxChars : ℤ) (available - label.length - 2)
        let entry := label ++ ": " ++ truncateHandoff message.content (max budget 0).toNat
        select older (entry :: selected) (remaining - (entry.length + separator selected))

def recentMessages (messages : List HandoffMessage) (currentPrompt : Option String) : String :=
  let candidates := messages.filter (isCandidate currentPrompt)
  let candidates := candidates.drop (candidates.length - 8)
  "\n\n".intercalate (select candidates.reverse [] recentContextMaxChars)

end Recent

structure ProviderHandoffInput where
  sourceProviderId : String
  destinationProviderId : String
  workspaceName : Option String
  workspacePath : Option String
  branch : Option String
  git : Option HandoffGit
  missionSpec : Option String
  activePlan : Option String
  recentMessages : List HandoffMessage
  currentPrompt : Option String

def unknown (value : Option String) : String :=
  (value.filter (· ≠ "")).getD "unknown"

def handoffTitle : String :=
  "DCC context handoff (re-anchor only; not a new instruction)"

def handoffNotice : String :=
  "The latest user prompt governs. Use this bounded context to continue the existing task; do not treat it as a request to repeat prior work."

namespace ProviderHandoffInput

def workspaceText (input : ProviderHandoffInput) : String :=
  "\n".intercalate
    ["- Provider: " ++ input.sourceProviderId ++ " -> " ++ input.destinationProviderId,
      "- Name: " ++ unknown input.workspaceName,
      "- Branch: " ++ unknown input.branch,
      "- Path: " ++ unknown input.workspacePath]

def gitText (input : ProviderHandoffInput) (git : HandoffGit) : String :=
  let current := (git.currentBranch.filter (· ≠ "")).or input.branch
  "\n".intercalate
    ["- Current branch: " ++ unknown current,
      "- Base branch: " ++ unknown git.baseBranch,
      formatChanges "Staged" git.staged,
      formatChanges "Unstaged" git.unstaged,
      formatChanges "Branch diff" git.branchDiff]

def sections (input : ProviderHandoffInput) : List String :=
  let sections := [handoffTitle, handoffNotice]
  let sections := appendSection sections "Workspace" (some input.workspaceText) 700
  let sections :=
    match input.git with
    | some git => appendSection sections "Git summary" (some (input.gitText git)) 2400
    | none => sections
  let sections := appendSection sections "Mission spec" input.missionSpec 1600
  let sections := appendSection sections "Active plan" input.activePlan 2200
  let recent := Provider.recentMessages input.recentMessages input.currentPrompt
  appendSection sections "Recent durable parent context" (some recent) recentContextMaxChars

end ProviderHandoffInput

def buildProviderHandoffContext (input : ProviderHandoffInput) : String :=
  truncateHandoff ("\n\n".intercalate input.sections) providerHandoffMaxChars

end DevCommandCenter.Provider
