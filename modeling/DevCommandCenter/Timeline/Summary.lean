import DevCommandCenter.Library.Text
import DevCommandCenter.Timeline.Messages

/-! The label and one-line text of session-level rows, and the `[DCC]` turns the backend writes. -/

namespace DevCommandCenter.Timeline

open Library

def systemNote : SessionEventKind → Option (String × String)
  | .sessionCompleted => some ("session.completed", "")
  | .sessionAborted reason => some ("session.aborted", reason.getD "Session aborted")
  | .sessionResumed => some ("session.resumed", "")
  | .objectivePaused reason consecutiveFailures turnsUsed =>
      let why :=
        match reason with
        | .consecutiveFailures =>
            "consecutive failures reached the limit (" ++ toString consecutiveFailures ++ ")"
        | .turnBudget => "turn budget reached (" ++ toString turnsUsed ++ ")"
        | .manual => "paused"
      some ("session.objective.paused", "Objective paused automatically: " ++ why ++
        ". Queued follow-ups stop until you resume it.")
  | .conversationRewound _ removedTurnIds providerContext restoredTurnIds =>
      let turns := removedTurnIds.length
      let context :=
        match providerContext with
        | .fresh => "the agent starts a new conversation"
        | .native => "the agent's own conversation was cut at the same point"
      let restored := restoredTurnIds.length
      let files :=
        if 0 < restored then
          "files restored for " ++ toString restored ++ " turn" ++ (if restored = 1 then "" else "s")
        else "files kept as they were"
      some ("session.conversation.rewound", "Edited from an earlier message: " ++ toString turns ++
        " turn" ++ (if turns = 1 then "" else "s") ++ " left the conversation; " ++ context ++ "; " ++
        files ++ ".")
  | .checkpointCreated _ label => some ("session.checkpoint.created", label)
  | _ => none

def withSessionId (label content sessionId : String) : String :=
  if content.isEmpty && (label == "session.completed" || label == "session.resumed") then sessionId
  else content

def delegationText : SessionEventKind → Option String
  | .delegationRequested delegationId => some ("Delegation requested · " ++ delegationId.value)
  | .delegationStarted _ childSessionId =>
      match childSessionId with
      | some child => some ("Child session " ++ child.value ++ " is running.")
      | none => some "Delegation is running."
  | .delegationDelta _ content => some content
  | .delegationCompleted _ summary => some (summary.getD "Delegation completed.")
  | .delegationFailed _ reason => some (reason.getD "Delegation failed.")
  | .delegationCancelled _ reason => some (reason.getD "Delegation cancelled.")
  | _ => none

section HandBack

def afterFirst (pattern : List Char) : List Char → Option (List Char)
  | [] => if pattern.isEmpty then some [] else none
  | c :: text =>
      if pattern.isPrefixOf (c :: text) then some ((c :: text).drop pattern.length)
      else afterFirst pattern text

def afterLast (pattern : List Char) : List Char → Option (List Char)
  | [] => if pattern.isEmpty then some [] else none
  | c :: text =>
      match afterLast pattern text with
      | some rest => some rest
      | none =>
          if pattern.isPrefixOf (c :: text) then some ((c :: text).drop pattern.length) else none

def stripPrefix (pattern text : List Char) : Option (List Char) :=
  if pattern.isPrefixOf text then some (text.drop pattern.length) else none

/-- `(task <id>).` somewhere after `before`, the id without spaces or `)`. -/
def taskIdAfter (line before : List Char) : Option (List Char) := do
  let rest ← afterFirst before line
  let tail ← afterLast "(task ".toList rest
  let id := tail.takeWhile (· != ')')
  let close := tail.dropWhile (· != ')')
  if close.isEmpty then none
  else if !id.isEmpty && !id.any isWhitespace && ").".toList.isPrefixOf close then some id
  else none

-- `char::is_alphanumeric`, whose Unicode tables are not spelled out here
variable (isAlphanumeric : Char → Bool)

def oneWord (text : List Char) : Option (List Char × List Char) :=
  let inWord := fun c => isAlphanumeric c || c == '_'
  let word := text.takeWhile inWord
  if word.isEmpty then none else some (word, text.dropWhile inWord)

def delegatedHandBack (line : List Char) (word : String) (outcome : HandBackOutcome) :
    Option DelegationHandBack := do
  let rest ← stripPrefix "[DCC] Delegated ".toList line
  let (_, rest) ← oneWord isAlphanumeric rest
  if (" task " ++ word ++ " — ").toList.isPrefixOf rest then
    let id ← taskIdAfter rest " — ".toList
    return ⟨String.ofList id, outcome⟩
  else none

def taskTurnHandBack (line : List Char) : Option DelegationHandBack := do
  if "[DCC] Task \"".toList.isPrefixOf line then
    let _ ← afterFirst "\" ended a turn — ".toList line
    let id ← taskIdAfter line "\" ended a turn — ".toList
    return ⟨String.ofList id, .taskTurn⟩
  else none

def editsHandBack (line : List Char) (word : String) (outcome : HandBackOutcome) :
    Option DelegationHandBack := do
  let rest ← stripPrefix
    ("[DCC] The human " ++ word ++ " the edits from your delegated ").toList line
  let (_, rest) ← oneWord isAlphanumeric rest
  if " task — ".toList.isPrefixOf rest then
    let id ← taskIdAfter rest " task — ".toList
    return ⟨String.ofList id, outcome⟩
  else none

def parseDelegationHandBack (content : String) : Option DelegationHandBack :=
  let line := (content.toList.dropWhile isWhitespace).takeWhile (· != '\n')
  (delegatedHandBack isAlphanumeric line "finished" .finished)
    <|> (delegatedHandBack isAlphanumeric line "failed" .failed)
    <|> (taskTurnHandBack line)
    <|> (editsHandBack isAlphanumeric line "APPLIED" .applied)
    <|> (editsHandBack isAlphanumeric line "DISCARDED" .discarded)

end HandBack

end DevCommandCenter.Timeline
