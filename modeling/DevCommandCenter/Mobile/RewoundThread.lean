import DevCommandCenter.Library.Sequences
import DevCommandCenter.Library.SortDedup
import DevCommandCenter.Mobile.ThreadEvents
import DevCommandCenter.Session.EventStore

/-! The phone's thread beside the conversation the desktop keeps after rewinds. -/

namespace DevCommandCenter.Mobile

def userTurn : ChatMessage → Option TurnId
  | .user turnId .. => some turnId
  | _ => none

def agentTurn : ChatMessage → Option TurnId
  | .assistant turnId .. | .reasoning turnId .. | .tool turnId .. | .permission turnId .. =>
      some turnId
  | _ => none

def startedTurns (log : List SessionEventRecord) : List TurnId :=
  log.filterMap fun event => startedTurn event.kind

def answeredTurn : SessionEventKind → Option TurnId
  | .turnDelta turnId _ | .turnAssistantMessageDelta turnId .. => some turnId
  | _ => none

inductive BlockKind
  | reasoning
  | tool
  | permission
  deriving DecidableEq, Repr

def openedBlock : SessionEventKind → Option ((BlockKind × String) × TurnId)
  | .turnReasoningStarted turnId reasoningId _ => some ((.reasoning, reasoningId), turnId)
  | .turnToolCallStarted turnId toolCallId .. => some ((.tool, toolCallId), turnId)
  | .turnPermissionRequested turnId requestId .. => some ((.permission, requestId), turnId)
  | _ => none

def opensBlock (block : BlockKind × String) (event : SessionEventRecord) : Bool :=
  (openedBlock event.kind).any fun opened => opened.1 = block

/-- The turn whose messages an event adds to or starts: a block counts for the turn that opened it
first. -/
def shownTurn (before : List SessionEventRecord) (event : SessionEventRecord) : Option TurnId :=
  match openedBlock event.kind with
  | some (block, turnId) => if before.any (opensBlock block) then none else some turnId
  | none => answeredTurn event.kind

def Shown (log : List SessionEventRecord) (turnId : TurnId) : Prop :=
  ∃ before event after, log = before ++ event :: after ∧ shownTurn before event = some turnId

/-- The turns of the phone's messages are those of the conversation the desktop keeps. -/
structure SameConversation (labels : Labels) (log : List SessionEventRecord) : Prop where
  users : (applyEvents labels createThreadState log).messages.filterMap userTurn =
    startedTurns (visibleSessionEvents log)
  agents : ∀ message ∈ (applyEvents labels createThreadState log).messages, ∀ turnId,
    agentTurn message = some turnId → turnId ∉ rewoundTurnIds log

structure NothingRewoundShown (log : List SessionEventRecord) : Prop where
  startedOnce : (startedTurns log).Nodup
  startedKept : ∀ turnId ∈ startedTurns log, turnId ∉ rewoundTurnIds log
  shownKept : ∀ turnId, Shown log turnId → turnId ∉ rewoundTurnIds log

section Shape

variable {β : Type} {f : ChatMessage → ChatMessage} {g : ChatMessage → Option β}
  {messages : List ChatMessage}

lemma filterMap_modify (h : ∀ message, g (f message) = g message) (i : ℕ) :
    (messages.modify i f).filterMap g = messages.filterMap g := by
  induction messages generalizing i with
  | nil => simp
  | cons message messages ih =>
      cases i with
      | zero => simp [List.filterMap_cons, h]
      | succ i => simp [List.filterMap_cons, ih]

lemma filterMap_set {message : ChatMessage} {i : ℕ} (hnew : g message = none)
    (hold : ∀ old, messages[i]? = some old → g old = none) :
    (messages.set i message).filterMap g = messages.filterMap g := by
  induction messages generalizing i with
  | nil => rfl
  | cons first messages ih =>
      cases i with
      | zero =>
          have hfirst := hold first rfl
          simp [hnew, hfirst]
      | succ i => simp [List.filterMap_cons, ih (i := i) fun old h => hold old (by simpa using h)]

lemma mem_push {message : ChatMessage} {b b' : β} (h : g message = some b) :
    b' ∈ (messages ++ [message]).filterMap g ↔ b' ∈ messages.filterMap g ∨ b' = b := by
  rw [List.filterMap_append, List.mem_append, List.filterMap_cons, h, List.filterMap_nil,
    List.mem_singleton]

structure SameShape (state state' : ThreadState) : Prop where
  users : state'.messages.filterMap userTurn = state.messages.filterMap userTurn
  agents : state'.messages.filterMap agentTurn = state.messages.filterMap agentTurn
  byTurn : state'.byTurn = state.byTurn
  byTool : state'.byTool = state.byTool
  byReasoning : state'.byReasoning = state.byReasoning
  byPermission : state'.byPermission = state.byPermission

variable {state : ThreadState}

lemma SameShape.refl (state : ThreadState) : SameShape state state :=
  ⟨rfl, rfl, rfl, rfl, rfl, rfl⟩

lemma sameShape_pushSystem (id text createdAt : String) :
    SameShape state (state.pushSystem id text createdAt) where
  users := by simp [ThreadState.pushSystem, ThreadState.pushMessage, userTurn]
  agents := by simp [ThreadState.pushSystem, ThreadState.pushMessage, agentTurn]
  byTurn := rfl
  byTool := rfl
  byReasoning := rfl
  byPermission := rfl

def KeepsTurn (f : ChatMessage → ChatMessage) : Prop :=
  ∀ message, userTurn (f message) = userTurn message ∧ agentTurn (f message) = agentTurn message

lemma keepsTurn_addText (content : String) : KeepsTurn (.addText content) := by
  intro message
  cases message <;> exact ⟨rfl, rfl⟩

lemma keepsTurn_setText (content : String) : KeepsTurn (.setText content) := by
  intro message
  cases message <;> exact ⟨rfl, rfl⟩

lemma keepsTurn_complete : KeepsTurn .complete := by
  intro message
  cases message <;> exact ⟨rfl, rfl⟩

lemma keepsTurn_abort : KeepsTurn .abort := by
  intro message
  cases message <;> exact ⟨rfl, rfl⟩

lemma keepsTurn_updateTool (detail : ToolCallDetail) : KeepsTurn (.updateTool detail) := by
  intro message
  cases message <;> exact ⟨rfl, rfl⟩

lemma keepsTurn_completeTool (detail : Option ToolCallDetail) : KeepsTurn (.completeTool detail) := by
  intro message
  cases message <;> exact ⟨rfl, rfl⟩

lemma keepsTurn_failTool (error : String) : KeepsTurn (.failTool error) := by
  intro message
  cases message <;> exact ⟨rfl, rfl⟩

lemma keepsTurn_resolve : KeepsTurn .resolve := by
  intro message
  cases message <;> exact ⟨rfl, rfl⟩

lemma KeepsTurn.sameShape (h : KeepsTurn f) (index : Option ℕ) :
    SameShape state (state.updateMessage index f) := by
  cases index with
  | none => exact .refl state
  | some i =>
      exact ⟨filterMap_modify (fun message => (h message).1) i,
        filterMap_modify (fun message => (h message).2) i, rfl, rfl, rfl, rfl⟩

lemma sameShape_usageLimitReached (labels : Labels) (turnId : TurnId) (resetsAt : Option String)
    (occurredAt : String) :
    SameShape state (applyUsageLimitReached labels state turnId resetsAt occurredAt) := by
  unfold applyUsageLimitReached
  dsimp only
  split
  · next existing hfind =>
    split
    · exact .refl state
    · obtain ⟨hlt, hsystem, -⟩ := List.findIdx?_eq_some_iff_getElem.mp hfind
      have hold : ∀ old, state.messages[existing]? = some old →
          userTurn old = none ∧ agentTurn old = none := by
        intro old hget
        rw [List.getElem?_eq_getElem hlt, Option.some.injEq] at hget
        subst hget
        cases hmessage : state.messages[existing] with
        | system => exact ⟨rfl, rfl⟩
        | _ => simp [hmessage, isSystemMessage] at hsystem
      exact ⟨filterMap_set rfl fun old h => (hold old h).1,
        filterMap_set rfl fun old h => (hold old h).2, rfl, rfl, rfl, rfl⟩
  · exact sameShape_pushSystem _ _ _

end Shape

def ThreadState.blocks (state : ThreadState) : BlockKind → Library.InsertionMap String ℕ
  | .reasoning => state.byReasoning
  | .tool => state.byTool
  | .permission => state.byPermission

structure Shows (state : ThreadState) (log : List SessionEventRecord) : Prop where
  users : state.messages.filterMap userTurn = (startedTurns log).foldl Library.addNew []
  userRefs : ∀ turnId, (state.refs turnId).user.isSome = true ↔ turnId ∈ startedTurns log
  agents : ∀ turnId, turnId ∈ state.messages.filterMap agentTurn ↔ Shown log turnId
  answerRefs : ∀ turnId, (state.refs turnId).assistant.isSome = true →
    turnId ∈ state.messages.filterMap agentTurn
  blocks : ∀ kind id, (state.blocks kind).contains id = log.any (opensBlock (kind, id))

section Fold

variable {state state' : ThreadState} {log : List SessionEventRecord} {event : SessionEventRecord}

lemma shown_append {turnId : TurnId} :
    Shown (log ++ [event]) turnId ↔ Shown log turnId ∨ shownTurn log event = some turnId :=
  Library.exists_split_append

lemma startedTurns_append :
    startedTurns (log ++ [event]) = startedTurns log ++ (startedTurn event.kind).toList := by
  rw [startedTurns, List.filterMap_append]
  cases h : startedTurn event.kind with
  | none => simp [startedTurns, h]
  | some turnId => simp [startedTurns, h]

lemma Shows.congr (h : Shows state log) (hshape : SameShape state state') : Shows state' log where
  users := hshape.users.trans h.users
  userRefs turnId := by
    rw [ThreadState.refs, hshape.byTurn]
    exact h.userRefs turnId
  agents turnId := by
    rw [hshape.agents]
    exact h.agents turnId
  answerRefs turnId := by
    rw [hshape.agents, ThreadState.refs, hshape.byTurn]
    exact h.answerRefs turnId
  blocks kind id := by
    rw [← h.blocks]
    cases kind
    · exact congrArg (fun m => m.contains id) hshape.byReasoning
    · exact congrArg (fun m => m.contains id) hshape.byTool
    · exact congrArg (fun m => m.contains id) hshape.byPermission

lemma Shows.append (h : Shows state log) (hstarted : startedTurn event.kind = none)
    (hshown : ∀ turnId, shownTurn log event = some turnId → Shown log turnId)
    (hblocks : ∀ block, opensBlock block event = true → log.any (opensBlock block) = true) :
    Shows state (log ++ [event]) where
  users := by
    rw [startedTurns_append, hstarted, Option.toList_none, List.append_nil]
    exact h.users
  userRefs turnId := by
    rw [startedTurns_append, hstarted, Option.toList_none, List.append_nil]
    exact h.userRefs turnId
  agents turnId := by
    rw [shown_append, h.agents]
    exact ⟨.inl, fun hor => hor.elim id (hshown turnId)⟩
  answerRefs := h.answerRefs
  blocks kind id := by
    rw [h.blocks, List.any_append, List.any_cons, List.any_nil, Bool.or_false]
    cases hopens : opensBlock (kind, id) event with
    | true => rw [hblocks _ hopens, Bool.true_or]
    | false => rw [Bool.or_false]

lemma Shows.quiet (h : Shows state log) (hstarted : startedTurn event.kind = none)
    (hanswered : answeredTurn event.kind = none) (hopened : openedBlock event.kind = none)
    (hshape : SameShape state state') : Shows state' (log ++ [event]) := by
  apply (h.append hstarted ?_ ?_).congr hshape
  · simp [shownTurn, hopened, hanswered]
  · simp [opensBlock, hopened]

lemma shows_createThreadState : Shows createThreadState [] where
  users := rfl
  userRefs turnId := by simp [createThreadState, ThreadState.refs, startedTurns]
  agents turnId := by
    constructor
    · intro h
      cases h
    · rintro ⟨before, shown, after, hlog, -⟩
      cases before <;> cases hlog
  answerRefs turnId h := by simp [createThreadState, ThreadState.refs] at h
  blocks kind id := by cases kind <;> rfl

lemma refs_set {turnId turnId' : TurnId} {refs : TurnRefs} {messages : List ChatMessage} :
    ThreadState.refs { state with messages := messages, byTurn := state.byTurn.set turnId refs }
      turnId' = if turnId' = turnId then refs else state.refs turnId' := by
  simp only [ThreadState.refs, Library.InsertionMap.get?_set]
  split <;> rfl

lemma Shows.turnStarted (h : Shows state log) {turnId : TurnId}
    (hstarted : startedTurn event.kind = some turnId) (hanswered : answeredTurn event.kind = none)
    (hopened : openedBlock event.kind = none) (prompt : String)
    (approvalPolicy : Option ProviderApprovalPolicy) (occurredAt : String) :
    Shows (applyTurnStarted state turnId prompt approvalPolicy occurredAt) (log ++ [event]) := by
  have hturns : startedTurns (log ++ [event]) = startedTurns log ++ [turnId] := by
    rw [startedTurns_append, hstarted, Option.toList_some]
  have hshown : ∀ turnId', Shown (log ++ [event]) turnId' ↔ Shown log turnId' := by
    intro turnId'
    rw [shown_append]
    simp [shownTurn, hopened, hanswered]
  have hblocks : ∀ block, (log ++ [event]).any (opensBlock block) = log.any (opensBlock block) := by
    intro block
    rw [List.any_append]
    simp [opensBlock, hopened]
  unfold applyTurnStarted
  dsimp only
  split
  · next hold =>
    have hmem := (h.userRefs turnId).mp hold
    exact {
      users := by
        have hseen : turnId ∈ (startedTurns log).foldl Library.addNew [] :=
          Library.mem_foldl_addNew.mpr (.inr hmem)
        rw [h.users, hturns, List.foldl_append, List.foldl_cons, List.foldl_nil, Library.addNew,
          if_pos hseen]
      userRefs := fun turnId' => by
        rw [h.userRefs, hturns, List.mem_append, List.mem_singleton]
        constructor
        · exact .inl
        · rintro (hmem' | rfl)
          · exact hmem'
          · exact hmem
      agents := fun turnId' => (h.agents turnId').trans (hshown turnId').symm
      answerRefs := h.answerRefs
      blocks := fun kind id => (h.blocks kind id).trans (hblocks (kind, id)).symm }
  · next hnew =>
    have hmem : turnId ∉ startedTurns log := fun hmem => hnew ((h.userRefs turnId).mpr hmem)
    exact {
      users := by
        have hunseen : turnId ∉ (startedTurns log).foldl Library.addNew [] := by
          simpa [Library.mem_foldl_addNew] using hmem
        rw [hturns, List.foldl_append, List.foldl_cons, List.foldl_nil, Library.addNew,
          if_neg hunseen, ← h.users]
        simp [ThreadState.pushMessage, userTurn]
      userRefs := fun turnId' => by
        rw [ThreadState.pushMessage, refs_set, hturns, List.mem_append, List.mem_singleton]
        split
        · next heq => simp [heq]
        · next hne => exact (h.userRefs turnId').trans (by simp [hne])
      agents := fun turnId' => by
        rw [hshown, ← h.agents]
        simp [ThreadState.pushMessage, agentTurn]
      answerRefs := fun turnId' hsome => by
        rw [ThreadState.pushMessage, refs_set] at hsome
        have hmem' : turnId' ∈ state.messages.filterMap agentTurn := by
          apply h.answerRefs
          split at hsome
          · next heq => exact heq ▸ hsome
          · exact hsome
        simpa [ThreadState.pushMessage, agentTurn] using hmem'
      blocks := fun kind id => by
        rw [hblocks, ← h.blocks]
        cases kind <;> rfl }

lemma Shows.answered (h : Shows state log) {turnId : TurnId}
    (hstarted : startedTurn event.kind = none) (hanswered : answeredTurn event.kind = some turnId)
    (hopened : openedBlock event.kind = none) (content occurredAt : String) :
    Shows (applyDelta state turnId content occurredAt) (log ++ [event]) := by
  have hshown : shownTurn log event = some turnId := by
    rw [shownTurn, hopened]
    exact hanswered
  have hblocks : ∀ block, opensBlock block event = false := by
    simp [opensBlock, hopened]
  unfold applyDelta
  dsimp only
  cases hrefs : (state.refs turnId).assistant with
  | some index =>
      have hold : turnId ∈ state.messages.filterMap agentTurn :=
        h.answerRefs turnId (by rw [hrefs]; rfl)
      refine (h.append hstarted (fun turnId' hturn => ?_) fun block hopens => ?_).congr
        ((keepsTurn_addText content).sameShape _)
      · rw [hshown, Option.some.injEq] at hturn
        exact hturn ▸ (h.agents turnId).mp hold
      · rw [hblocks] at hopens
        cases hopens
  | none =>
      have hagent : agentTurn (.assistant turnId "" occurredAt false false) = some turnId := rfl
      refine Shows.congr ?_ ((keepsTurn_addText content).sameShape _)
      exact {
        users := by
          rw [startedTurns_append, hstarted, Option.toList_none, List.append_nil, ← h.users]
          simp [ThreadState.pushMessage, userTurn]
        userRefs := fun turnId' => by
          rw [ThreadState.pushMessage, refs_set, startedTurns_append, hstarted, Option.toList_none,
            List.append_nil]
          split
          · next heq => exact heq ▸ h.userRefs turnId
          · exact h.userRefs turnId'
        agents := fun turnId' => by
          rw [shown_append, ← h.agents, hshown, Option.some.injEq, eq_comm (a := turnId)]
          exact mem_push hagent
        answerRefs := fun turnId' hsome => by
          rw [ThreadState.pushMessage, refs_set] at hsome
          apply (mem_push hagent).mpr
          split at hsome
          · next heq => exact .inr heq
          · exact .inl (h.answerRefs turnId' hsome)
        blocks := fun kind id => by
          rw [List.any_append, List.any_cons, List.any_nil, hblocks, Bool.or_false, Bool.or_false,
            ← h.blocks]
          cases kind <;> rfl }

lemma Shows.opened (h : Shows state log) {turnId : TurnId} {kind : BlockKind} {id : String}
    (message : ChatMessage) (hstarted : startedTurn event.kind = none)
    (hopened : openedBlock event.kind = some ((kind, id), turnId))
    (huser : userTurn message = none) (hagent : agentTurn message = some turnId)
    (hmessages : state'.messages = state.messages ++ [message]) (hturns : state'.byTurn = state.byTurn)
    (hblocks : ∀ kind', state'.blocks kind' =
      if kind' = kind then (state.blocks kind).set id state.messages.length
      else state.blocks kind') :
    Shows (if (state.blocks kind).contains id then state else state') (log ++ [event]) := by
  have hopens : ∀ block, opensBlock block event = decide ((kind, id) = block) := by
    simp [opensBlock, hopened]
  have hshown : shownTurn log event =
      if log.any (opensBlock (kind, id)) then none else some turnId := by
    rw [shownTurn, hopened]
  rw [h.blocks kind id]
  split
  · next hold =>
    refine h.append hstarted (fun turnId' hturn => ?_) fun block hblock => ?_
    · rw [hshown, if_pos hold] at hturn
      cases hturn
    · rw [hopens, decide_eq_true_eq] at hblock
      exact hblock ▸ hold
  · next hnew =>
    exact {
      users := by
        rw [startedTurns_append, hstarted, Option.toList_none, List.append_nil, ← h.users, hmessages]
        simp [huser]
      userRefs := fun turnId' => by
        rw [ThreadState.refs, hturns, startedTurns_append, hstarted, Option.toList_none,
          List.append_nil]
        exact h.userRefs turnId'
      agents := fun turnId' => by
        rw [shown_append, ← h.agents, hshown, if_neg hnew, hmessages, Option.some.injEq,
          eq_comm (a := turnId)]
        exact mem_push hagent
      answerRefs := fun turnId' hsome => by
        rw [ThreadState.refs, hturns] at hsome
        rw [hmessages]
        exact (mem_push hagent).mpr (.inl (h.answerRefs turnId' hsome))
      blocks := fun kind' id' => by
        rw [List.any_append, List.any_cons, List.any_nil, hopens, Bool.or_false, ← h.blocks,
          Library.InsertionMap.contains, hblocks]
        by_cases hkind : kind' = kind
        · subst hkind
          rw [if_pos rfl, Library.InsertionMap.get?_set, Library.InsertionMap.contains]
          by_cases hid : id' = id
          · simp [hid]
          · simp [hid, Ne.symm hid]
        · have hne : ¬(kind, id) = (kind', id') := fun heq => hkind (Prod.mk.inj heq).1.symm
          rw [if_neg hkind, decide_eq_false hne, Bool.or_false]
          rfl }

theorem shows_applyOne (labels : Labels) (h : Shows state log) :
    Shows (applyOne labels state event) (log ++ [event]) := by
  cases hkind : event.kind with
  | turnStarted turnId prompt _ _ _ _ approvalPolicy =>
      simp only [applyOne, hkind]
      exact h.turnStarted (by rw [hkind]; rfl) (by rw [hkind]; rfl) (by rw [hkind]; rfl) _ _ _
  | turnDelta turnId content =>
      simp only [applyOne, hkind]
      exact h.answered (by rw [hkind]; rfl) (by rw [hkind]; rfl) (by rw [hkind]; rfl) _ _
  | turnAssistantMessageDelta turnId messageId content =>
      simp only [applyOne, hkind]
      exact h.answered (by rw [hkind]; rfl) (by rw [hkind]; rfl) (by rw [hkind]; rfl) _ _
  | turnReasoningStarted turnId reasoningId label =>
      have hopened : openedBlock event.kind = some ((.reasoning, reasoningId), turnId) := by
        rw [hkind]
        rfl
      simp only [applyOne, hkind]
      refine h.opened (.reasoning turnId reasoningId (label.getD "") event.occurredAt false) (by rw [hkind]; rfl) hopened
        rfl rfl rfl rfl ?_
      intro kind
      cases kind <;> rfl
  | turnToolCallStarted turnId toolCallId action command file =>
      have hopened : openedBlock event.kind = some ((.tool, toolCallId), turnId) := by
        rw [hkind]
        rfl
      simp only [applyOne, hkind]
      refine h.opened (.tool turnId toolCallId action ⟨command, file⟩ none none .running
        event.occurredAt) (by rw [hkind]; rfl) hopened
        rfl rfl rfl rfl ?_
      intro kind
      cases kind <;> rfl
  | turnPermissionRequested turnId requestId toolName title description command file =>
      have hopened : openedBlock event.kind = some ((.permission, requestId), turnId) := by
        rw [hkind]
        rfl
      simp only [applyOne, hkind]
      refine h.opened (.permission turnId requestId
        (permissionQuestion title description command file) defaultChoices event.occurredAt false) (by rw [hkind]; rfl) hopened
        rfl rfl rfl rfl ?_
      intro kind
      cases kind <;> rfl
  | turnAssistantMessageCompleted turnId messageId phase content =>
      refine h.quiet (by rw [hkind]; rfl) (by rw [hkind]; rfl) (by rw [hkind]; rfl) ?_
      cases phase with
      | finalAnswer =>
          cases content with
          | some content =>
              simp only [applyOne, hkind]
              exact (keepsTurn_setText content).sameShape _
          | none =>
              simp only [applyOne, hkind]
              exact .refl state
      | _ =>
          simp only [applyOne, hkind]
          exact .refl state
  | turnCompleted turnId =>
      refine h.quiet (by rw [hkind]; rfl) (by rw [hkind]; rfl) (by rw [hkind]; rfl) ?_
      simp only [applyOne, hkind]
      exact keepsTurn_complete.sameShape _
  | turnAborted turnId reason =>
      refine h.quiet (by rw [hkind]; rfl) (by rw [hkind]; rfl) (by rw [hkind]; rfl) ?_
      simp only [applyOne, hkind]
      exact keepsTurn_abort.sameShape _
  | turnReasoningCompleted turnId reasoningId =>
      refine h.quiet (by rw [hkind]; rfl) (by rw [hkind]; rfl) (by rw [hkind]; rfl) ?_
      simp only [applyOne, hkind]
      exact keepsTurn_complete.sameShape _
  | turnToolCallUpdated turnId toolCallId detail =>
      refine h.quiet (by rw [hkind]; rfl) (by rw [hkind]; rfl) (by rw [hkind]; rfl) ?_
      simp only [applyOne, hkind]
      exact (keepsTurn_updateTool detail).sameShape _
  | turnToolCallCompleted turnId toolCallId detail =>
      refine h.quiet (by rw [hkind]; rfl) (by rw [hkind]; rfl) (by rw [hkind]; rfl) ?_
      simp only [applyOne, hkind]
      exact (keepsTurn_completeTool detail).sameShape _
  | turnToolCallFailed turnId toolCallId reason detail =>
      refine h.quiet (by rw [hkind]; rfl) (by rw [hkind]; rfl) (by rw [hkind]; rfl) ?_
      simp only [applyOne, hkind]
      exact (keepsTurn_failTool _).sameShape _
  | turnPermissionResolved turnId requestId behavior =>
      refine h.quiet (by rw [hkind]; rfl) (by rw [hkind]; rfl) (by rw [hkind]; rfl) ?_
      simp only [applyOne, hkind]
      exact keepsTurn_resolve.sameShape _
  | usageLimitReached turnId resetsAt autoResume paused =>
      refine h.quiet (by rw [hkind]; rfl) (by rw [hkind]; rfl) (by rw [hkind]; rfl) ?_
      simp only [applyOne, hkind]
      exact sameShape_usageLimitReached labels turnId resetsAt event.occurredAt
  | _ =>
      refine h.quiet (by rw [hkind]; rfl) (by rw [hkind]; rfl) (by rw [hkind]; rfl) ?_
      simp only [applyOne, hkind]
      first
      | exact .refl state
      | exact sameShape_pushSystem _ _ _

end Fold

section Log

variable {labels : Labels} {log : List SessionEventRecord}

lemma applyEvents_log (hsorted : log.Pairwise fun a b => a.sequence < b.sequence)
    (hpositive : ∀ event ∈ log, 0 < event.sequence) :
    applyEvents labels createThreadState log = log.foldl
      (fun next event => { applyOne labels next event with cursor := event.sequence })
      createThreadState := by
  have hfilter : (log.filter fun event => createThreadState.cursor < event.sequence) = log := by
    apply List.filter_eq_self.mpr
    intro event hevent
    exact decide_eq_true (hpositive event hevent)
  have hsort : log.mergeSort (fun a b => a.sequence ≤ b.sequence) = log := by
    apply List.mergeSort_of_pairwise
    exact hsorted.imp fun hlt => decide_eq_true hlt.le
  rw [applyEvents, hfilter, hsort]

lemma shows_foldl {before : List SessionEventRecord} {state : ThreadState} (h : Shows state before) :
    Shows (log.foldl
      (fun next event => { applyOne labels next event with cursor := event.sequence }) state)
      (before ++ log) := by
  induction log generalizing before state with
  | nil => simpa using h
  | cons event log ih =>
      rw [List.foldl_cons, List.append_cons]
      apply ih
      exact (shows_applyOne labels h).congr ⟨rfl, rfl, rfl, rfl, rfl, rfl⟩

lemma isVisible_started {kind : SessionEventKind} {turnId : TurnId} (rewound : List TurnId)
    (h : startedTurn kind = some turnId) : isVisible rewound kind = decide (turnId ∉ rewound) := by
  cases kind with
  | turnStarted turnId' =>
      cases h
      rfl
  | _ => cases h

lemma startedTurns_filter (rewound : List TurnId) :
    startedTurns (log.filter fun event => isVisible rewound event.kind) =
      (startedTurns log).filter fun turnId => turnId ∉ rewound := by
  rw [startedTurns, startedTurns, List.filterMap_filter, List.filter_filterMap]
  apply List.filterMap_congr
  intro event _
  cases hstarted : startedTurn event.kind with
  | none => simp
  | some turnId => simp [isVisible_started rewound hstarted, Option.filter]

lemma startedTurns_visible : startedTurns (visibleSessionEvents log) =
    (startedTurns log).filter fun turnId => turnId ∉ rewoundTurnIds log := by
  unfold visibleSessionEvents
  dsimp only
  split
  · next hempty =>
    rw [List.isEmpty_iff.mp hempty]
    exact (List.filter_eq_self.mpr (by simp)).symm
  · exact startedTurns_filter _

end Log

/-- Phone and desktop show the same conversation exactly of the logs that start no turn twice and in
which nothing of a turn taken back shows on the phone, which never looks at the markers. -/
theorem sameConversation_iff (labels : Labels) (store : EventStore) (sessionId : SessionId) :
    SameConversation labels (store.listEventsBySession sessionId) ↔
      NothingRewoundShown (store.listEventsBySession sessionId) := by
  have hshows : Shows (applyEvents labels createThreadState (store.listEventsBySession sessionId))
      (store.listEventsBySession sessionId) := by
    rw [applyEvents_log (store.log_sorted sessionId) (store.log_positive sessionId)]
    exact shows_foldl shows_createThreadState
  generalize store.listEventsBySession sessionId = log at hshows ⊢
  have husers : (applyEvents labels createThreadState log).messages.filterMap userTurn =
        startedTurns (visibleSessionEvents log) ↔
      (startedTurns log).Nodup ∧ ∀ turnId ∈ startedTurns log, turnId ∉ rewoundTurnIds log := by
    rw [hshows.users, startedTurns_visible, Library.foldl_addNew_eq_filter]
    simp
  constructor
  · intro h
    obtain ⟨hnodup, hkept⟩ := husers.mp h.users
    refine ⟨hnodup, hkept, fun turnId hturn => ?_⟩
    obtain ⟨message, hmessage, hagent⟩ := List.mem_filterMap.mp ((hshows.agents turnId).mpr hturn)
    exact h.agents message hmessage turnId hagent
  · intro h
    refine ⟨husers.mpr ⟨h.startedOnce, h.startedKept⟩, fun message hmessage turnId hagent => ?_⟩
    exact h.shownKept turnId ((hshows.agents turnId).mp
      (List.mem_filterMap.mpr ⟨message, hmessage, hagent⟩))

section OneRewind

def demoLabels : Labels where
  usageLimitTimelineWaiting := id
  usageLimitTimelinePaused := "paused"
  usageLimitTimelineResumedAuto := "resumed"
  usageLimitTimelineResumedManual := "resumed"
  toolCallFailedFallback := "failed"
  clockTime := id

def demoAppend (store : EventStore) (kind : SessionEventKind) : EventStore :=
  (store.appendEvent {
    eventId := "event-" ++ toString store.rows.length
    sessionId := ⟨"session-1"⟩
    sequence := 0
    occurredAt := "2026-08-02T10:00:00Z"
    kind := kind }).2

def demoRewoundStore : EventStore :=
  [.turnStarted ⟨"turn-1"⟩ "first" none none none none none, .turnDelta ⟨"turn-1"⟩ "answer",
    .turnCompleted ⟨"turn-1"⟩,
    .conversationRewound ⟨"turn-1"⟩ [⟨"turn-1"⟩] .fresh []].foldl demoAppend .empty

theorem rewound_turn_shown :
    startedTurns (visibleSessionEvents (demoRewoundStore.listEventsBySession ⟨"session-1"⟩)) = [] ∧
    (applyEvents demoLabels createThreadState
        (demoRewoundStore.listEventsBySession ⟨"session-1"⟩)).messages =
      [.user ⟨"turn-1"⟩ "first" "2026-08-02T10:00:00Z" none,
        .assistant ⟨"turn-1"⟩ "answer" "2026-08-02T10:00:00Z" true false] ∧
    ¬SameConversation demoLabels (demoRewoundStore.listEventsBySession ⟨"session-1"⟩) := by
  have hvisible : startedTurns
      (visibleSessionEvents (demoRewoundStore.listEventsBySession ⟨"session-1"⟩)) = [] := by
    decide +kernel
  have hmessages : (applyEvents demoLabels createThreadState
        (demoRewoundStore.listEventsBySession ⟨"session-1"⟩)).messages =
      [.user ⟨"turn-1"⟩ "first" "2026-08-02T10:00:00Z" none,
        .assistant ⟨"turn-1"⟩ "answer" "2026-08-02T10:00:00Z" true false] := by
    rw [applyEvents_log (demoRewoundStore.log_sorted _) (demoRewoundStore.log_positive _)]
    decide +kernel
  refine ⟨hvisible, hmessages, fun h => ?_⟩
  have husers := h.users
  rw [hvisible, hmessages] at husers
  cases husers

end OneRewind

end DevCommandCenter.Mobile
