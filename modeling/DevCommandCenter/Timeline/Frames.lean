import DevCommandCenter.Library.Walks
import DevCommandCenter.Timeline.Apply

/-! Where the rows of a projection stand: what each event adds to them, and which row a turn's
activity goes to. -/

namespace DevCommandCenter.Timeline

open Library

structure RowHead where
  id : String
  role : Role
  turnId : Option String
  card : Bool
  deriving DecidableEq, Repr

def TimelineMessage.head (message : TimelineMessage) : RowHead where
  id := message.id
  role := message.role
  turnId := message.turnId
  card := message.delegation.isSome

structure Frame where
  sessionId : String
  heads : List RowHead
  buckets : Table String ℕ
  items : Table (String × String) ℕ
  byTurn : List (String × List ℕ)
  active : Table String (List ℕ)
  completedMessages : Finset (String × String)
  completedReasoning : Finset (String × String)
  completedToolCalls : Finset (String × String)
  delegations : Table String ℕ
  started : Table String String
  steers : Table String ℕ

namespace Projector

def frame (projector : Projector) : Frame where
  sessionId := projector.sessionId
  heads := projector.messages.map TimelineMessage.head
  buckets := projector.assistantBuckets
  items := projector.assistantItems
  byTurn := projector.assistantMessagesByTurn
  active := projector.activeItemsByTurn
  completedMessages := projector.completedAssistantItems
  completedReasoning := projector.completedReasoningItems
  completedToolCalls := projector.completedToolCallItems
  delegations := projector.delegationBuckets
  started := projector.turnStartedAt
  steers := projector.steers

end Projector

namespace Frame

variable (frame : Frame)

def push (head : RowHead) : Frame :=
  { frame with heads := frame.heads ++ [head] }

def setBucket (turnId : String) (index : ℕ) : Frame :=
  { frame with buckets := frame.buckets.insert turnId index }

def looseHead (turnId : String) : RowHead :=
  ⟨"assistant-" ++ frame.sessionId ++ "-" ++ turnId, .assistant, some turnId, false⟩

def messageHead (turnId messageId : String) : RowHead :=
  ⟨"assistant-" ++ frame.sessionId ++ "-" ++ turnId ++ "-" ++ messageId, .assistant, some turnId, false⟩

def ensure (turnId : String) : Frame :=
  match frame.buckets.lookup turnId with
  | some _ => frame
  | none => (frame.push (frame.looseHead turnId)).setBucket turnId frame.heads.length

end Frame

def listing (byTurn : List (String × List ℕ)) (turnId : String) : List ℕ :=
  ((byTurn.find? fun (turn, _) => turn = turnId).map Prod.snd).getD []

def relist (byTurn : List (String × List ℕ)) (turnId : String) (f : List ℕ → List ℕ) :
    List (String × List ℕ) :=
  if byTurn.any fun (turn, _) => turn = turnId then
    modifyFirst (fun (turn, _) => turn = turnId) (fun (turn, rows) => (turn, f rows)) byTurn
  else byTurn ++ [(turnId, f [])]

namespace Frame

variable (frame : Frame)

def listRow (turnId : String) (index : ℕ) (rows : List ℕ) : List ℕ :=
  (match frame.buckets.lookup turnId with
    | some bucket => if bucket ∈ rows then rows else rows ++ [bucket]
    | none => rows) ++ [index]

def addMessage (turnId messageId : String) (makeCurrent : Bool) : Frame :=
  let added := { frame.push (frame.messageHead turnId messageId) with
    items := frame.items.insert (turnId, messageId) frame.heads.length
    byTurn := relist frame.byTurn turnId (frame.listRow turnId frame.heads.length) }
  if makeCurrent then added.setBucket turnId frame.heads.length else added

def markActive (turnId : String) (index : ℕ) : Frame :=
  let active := (frame.active.lookup turnId).getD []
  { frame with
    active := frame.active.insert turnId (if index ∈ active then active else active ++ [index]) }

def aliasMessage (turnId messageId : String) (index : ℕ) : Frame :=
  { frame with items := frame.items.insert (turnId, messageId) index }

def finish (turnId : String) (index : ℕ) : Frame :=
  { frame with
    completedMessages := frame.completedMessages ∪
      ((frame.items.entries.filter fun entry => entry.2 = index).map Sigma.fst).toFinset
    active :=
      match frame.active.lookup turnId with
      | some active => frame.active.insert turnId (active.filter fun item => item ≠ index)
      | none => frame.active }

def rowsOfTurn (turnId : String) : List ℕ :=
  match (frame.byTurn.find? fun (turn, _) => turn = turnId).map Prod.snd with
  | some rows => rows
  | none => (frame.buckets.lookup turnId).toList

def looseTurn : SessionEventKind → Option String
  | .turnDelta turnId _ => some turnId.value
  | .turnReasoningStarted turnId reasoningId _ | .turnReasoningDelta turnId reasoningId _ =>
      if (turnId.value, reasoningId) ∈ frame.completedReasoning then none else some turnId.value
  | .turnToolCallStarted turnId toolCallId action .. =>
      if isHiddenToolAction action then none
      else if (turnId.value, toolCallId) ∈ frame.completedToolCalls then none else some turnId.value
  | .turnToolCallDelta turnId toolCallId _ =>
      if (turnId.value, toolCallId) ∈ frame.completedToolCalls then none else some turnId.value
  | .turnUserInputRequested turnId .. | .turnPermissionRequested turnId ..
  | .turnNativeSubagentActivity turnId .. => some turnId.value
  | .turnAborted turnId _ =>
      if (frame.rowsOfTurn turnId.value).isEmpty && decide (turnId.value ∈ frame.started) then
        some turnId.value
      else none
  | _ => none

def delegationHead (delegationId : DelegationId) : Option RowHead :=
  if delegationId.value ∈ frame.delegations then none
  else some ⟨"delegation-" ++ delegationId.value, .system, none, true⟩

def noteHead (kind : SessionEventKind) : Option RowHead :=
  (systemNote kind).map fun note => ⟨note.1 ++ "-" ++ toString frame.heads.length, .system, none, false⟩

def pushedHead (kind : SessionEventKind) : Option RowHead :=
  match kind with
  | .turnStarted turnId .. =>
      some ⟨"user-" ++ frame.sessionId ++ "-" ++ turnId.value, .user, some turnId.value, false⟩
  | .turnSteered turnId _ =>
      some ⟨"user-steer-" ++ frame.sessionId ++ "-" ++ turnId.value ++ "-" ++
        toString ((frame.steers.lookup turnId.value).getD 0 + 1), .user, none, false⟩
  | .sessionStarted _ _ _ _ forkedFrom =>
      forkedFrom.map fun _ => ⟨"session.started-" ++ toString frame.heads.length, .system, none, false⟩
  | .delegationRequested delegationId | .delegationStarted delegationId _
  | .delegationDelta delegationId _ | .delegationCompleted delegationId _
  | .delegationFailed delegationId _ | .delegationCancelled delegationId _ =>
      frame.delegationHead delegationId
  | kind => frame.noteHead kind

def noteDelegation (delegationId : DelegationId) : Frame :=
  if delegationId.value ∈ frame.delegations then frame
  else { frame with
    delegations := frame.delegations.insert delegationId.value frame.heads.length }

def noted (event : TimelineEvent) : Frame :=
  match event.kind with
  | .turnStarted turnId .. =>
      { frame with started := frame.started.insert turnId.value event.occurredAt }
  | .turnSteered turnId _ =>
      { frame with
        steers := frame.steers.insert turnId.value ((frame.steers.lookup turnId.value).getD 0 + 1) }
  | .turnReasoningCompleted turnId reasoningId =>
      { frame with
        completedReasoning := insert (turnId.value, reasoningId) frame.completedReasoning }
  | .turnToolCallCompleted turnId toolCallId _ | .turnToolCallFailed turnId toolCallId .. =>
      { frame with
        completedToolCalls := insert (turnId.value, toolCallId) frame.completedToolCalls }
  | .delegationRequested delegationId | .delegationStarted delegationId _
  | .delegationDelta delegationId _ | .delegationCompleted delegationId _
  | .delegationFailed delegationId _ | .delegationCancelled delegationId _ =>
      frame.noteDelegation delegationId
  | _ => frame

def pushAll (heads : Option RowHead) : Frame :=
  match heads with
  | some head => frame.push head
  | none => frame

end Frame

def openedMessage : SessionEventKind → Option (String × String)
  | .turnAssistantMessageStarted turnId messageId _
  | .turnAssistantMessageDelta turnId messageId _ => some (turnId.value, messageId)
  | _ => none

def finishedMessage : SessionEventKind → Option (String × String)
  | .turnAssistantMessageCompleted turnId messageId .. => some (turnId.value, messageId)
  | _ => none

inductive FrameStep (frame : Frame) (event : TimelineEvent) : Frame → Prop
  | plain : openedMessage event.kind = none → finishedMessage event.kind = none →
      frame.looseTurn event.kind = none →
      FrameStep frame event ((frame.noted event).pushAll (frame.pushedHead event.kind))
  | loose {turnId : String} : openedMessage event.kind = none → finishedMessage event.kind = none →
      frame.looseTurn event.kind = some turnId → FrameStep frame event (frame.ensure turnId)
  | ignored {turnId messageId : String} : openedMessage event.kind = some (turnId, messageId) →
      (turnId, messageId) ∈ frame.completedMessages → FrameStep frame event frame
  | resumed {turnId messageId : String} {index : ℕ} :
      openedMessage event.kind = some (turnId, messageId) →
      (turnId, messageId) ∉ frame.completedMessages →
      frame.items.lookup (turnId, messageId) = some index →
      FrameStep frame event ((frame.setBucket turnId index).markActive turnId index)
  | opened {turnId messageId : String} : openedMessage event.kind = some (turnId, messageId) →
      (turnId, messageId) ∉ frame.completedMessages →
      frame.items.lookup (turnId, messageId) = none →
      FrameStep frame event
        ((frame.addMessage turnId messageId true).markActive turnId frame.heads.length)
  | finished {turnId messageId : String} {index : ℕ} :
      finishedMessage event.kind = some (turnId, messageId) →
      frame.items.lookup (turnId, messageId) = some index →
      FrameStep frame event (frame.finish turnId index)
  | aliased {turnId messageId : String} {index : ℕ} :
      finishedMessage event.kind = some (turnId, messageId) →
      frame.items.lookup (turnId, messageId) = none → frame.active.lookup turnId = some [index] →
      FrameStep frame event ((frame.aliasMessage turnId messageId index).finish turnId index)
  | unopened {turnId messageId : String} :
      finishedMessage event.kind = some (turnId, messageId) →
      frame.items.lookup (turnId, messageId) = none →
      FrameStep frame event
        ((frame.addMessage turnId messageId false).finish turnId frame.heads.length)

namespace FrameStep

variable {frame frame' : Frame} {event : TimelineEvent}

lemma of_plain (hopened : openedMessage event.kind = none) (hfinished : finishedMessage event.kind = none)
    (hloose : frame.looseTurn event.kind = none)
    (h : frame' = (frame.noted event).pushAll (frame.pushedHead event.kind)) :
    FrameStep frame event frame' :=
  h ▸ .plain hopened hfinished hloose

lemma of_loose (hopened : openedMessage event.kind = none) (hfinished : finishedMessage event.kind = none)
    (hpushed : frame.pushedHead event.kind = none) (hnoted : frame.noted event = frame)
    (h : frame' = match frame.looseTurn event.kind with
      | some turnId => frame.ensure turnId
      | none => frame) : FrameStep frame event frame' := by
  cases hloose : frame.looseTurn event.kind with
  | some turnId =>
      rw [hloose] at h
      exact h ▸ .loose hopened hfinished hloose
  | none =>
      rw [hloose] at h
      refine of_plain hopened hfinished hloose ?_
      rw [hpushed, hnoted]
      exact h

end FrameStep

namespace Projector

variable {projector : Projector}

def KeepsHead (f : TimelineMessage → TimelineMessage) : Prop :=
  ∀ message, (f message).head = message.head

lemma frame_modifyMessage {f : TimelineMessage → TimelineMessage} (h : KeepsHead f)
    (projector : Projector) (index : ℕ) :
    (projector.modifyMessage index f).frame = projector.frame := by
  have hheads : (projector.messages.modify index f).map TimelineMessage.head =
      projector.messages.map TimelineMessage.head := by
    refine List.ext_getElem? fun i => ?_
    simp only [List.getElem?_map, List.getElem?_modify]
    split
    · cases projector.messages[i]? <;> simp [h _]
    · cases projector.messages[i]? <;> rfl
  simp only [modifyMessage, frame, hheads]

lemma frame_modifyMessages {f : TimelineMessage → TimelineMessage} (h : KeepsHead f)
    (projector : Projector) (indices : List ℕ) :
    (projector.modifyMessages indices f).frame = projector.frame :=
  @foldl_keeps _ _ _ frame _ (fun projector index => frame_modifyMessage h projector index) indices
    projector

@[simp] lemma frame_push (projector : Projector) (row : TimelineMessage) :
    (projector.push row).frame = projector.frame.push row.head := by
  simp [push, frame, Frame.push]

@[simp] lemma frame_setBucket (projector : Projector) (turnId : String) (index : ℕ) :
    (projector.setBucket turnId index).frame = projector.frame.setBucket turnId index := rfl

@[simp] lemma frame_insertTextBreak (projector : Projector) (turnId : String) :
    (projector.insertTextBreak turnId).frame = projector.frame := rfl

@[simp] lemma frame_markActive (projector : Projector) (turnId : String) (index : ℕ) :
    (projector.markActive turnId index).frame = projector.frame.markActive turnId index := rfl

lemma frame_heads_length (projector : Projector) :
    projector.frame.heads.length = projector.messages.length := by
  simp [frame]

@[simp] lemma frame_ensureAssistant (projector : Projector) (turnId createdAt : String) :
    (projector.ensureAssistant turnId createdAt).2.frame = projector.frame.ensure turnId := by
  have hbuckets : projector.frame.buckets = projector.assistantBuckets := rfl
  unfold ensureAssistant Frame.ensure
  rw [hbuckets]
  cases projector.assistantBuckets.lookup turnId with
  | some index => rfl
  | none =>
      dsimp only
      rw [frame_setBucket, frame_push, frame_heads_length]
      rfl

lemma keepsHead_annotations (f : TimelineMessage → List Annotation) :
    KeepsHead fun message => { message with annotations := f message } := fun _ => rfl

lemma keepsHead_phase (phase : AssistantMessagePhase) :
    KeepsHead fun message => { message with assistantPhase := some phase } := fun _ => rfl

@[simp] lemma frame_getOrAdd (projector : Projector) (index : ℕ) (added : Annotation)
    (f : Annotation → Annotation) : (projector.getOrAdd index added f).frame = projector.frame :=
  frame_modifyMessage (keepsHead_annotations _) projector index

@[simp] lemma frame_modifyToolCall (projector : Projector) (turnId id : String)
    (f : ToolCall → ToolCall) : (projector.modifyToolCall turnId id f).frame = projector.frame := by
  unfold modifyToolCall
  split
  · rfl
  · exact frame_modifyMessage (keepsHead_annotations _) projector _

@[simp] lemma frame_modifyBucketAnnotations (projector : Projector) (turnId : String)
    (f : Annotation → Annotation) :
    (projector.modifyBucketAnnotations turnId f).frame = projector.frame := by
  unfold modifyBucketAnnotations
  split
  · rfl
  · exact frame_modifyMessage (keepsHead_annotations _) projector _

lemma frame_ensureAssistantItem_of_some {turnId messageId : String} {index : ℕ}
    (h : projector.assistantItems.lookup (turnId, messageId) = some index)
    (phase : AssistantMessagePhase) (makeCurrent : Bool) (createdAt : String) :
    (projector.ensureAssistantItem turnId messageId phase makeCurrent createdAt).1 = index ∧
    (projector.ensureAssistantItem turnId messageId phase makeCurrent createdAt).2.frame =
      if makeCurrent then projector.frame.setBucket turnId index else projector.frame := by
  unfold ensureAssistantItem
  rw [h]
  dsimp only
  refine ⟨rfl, ?_⟩
  have hphased : (if phase ≠ .unknown then
      projector.modifyMessage index fun message => { message with assistantPhase := some phase }
      else projector).frame = projector.frame := by
    split
    · exact frame_modifyMessage (keepsHead_phase phase) projector index
    · rfl
  split
  · rw [frame_setBucket, hphased]
  · exact hphased

lemma frame_ensureAssistantItem_of_none {turnId messageId : String}
    (h : projector.assistantItems.lookup (turnId, messageId) = none)
    (phase : AssistantMessagePhase) (makeCurrent : Bool) (createdAt : String) :
    (projector.ensureAssistantItem turnId messageId phase makeCurrent createdAt).1 =
      projector.frame.heads.length ∧
    (projector.ensureAssistantItem turnId messageId phase makeCurrent createdAt).2.frame =
      projector.frame.addMessage turnId messageId makeCurrent := by
  unfold ensureAssistantItem
  rw [h]
  refine ⟨(frame_heads_length projector).symm, ?_⟩
  cases hbucket : projector.assistantBuckets.lookup turnId <;> cases makeCurrent <;>
    simp [frame, Frame.addMessage, Frame.setBucket, Frame.push, setBucket, modifyTurnMessages, push,
      relist, Frame.listRow, TimelineMessage.head, assistantRow, TimelineMessage.new,
      Frame.messageHead, hbucket] <;>
    rfl

lemma keepsHead_settleRow : KeepsHead settleRow := fun _ => rfl

lemma keepsHead_updateDelegation (kind : SessionEventKind) (text : String) :
    KeepsHead (updateDelegation kind text) := by
  intro message
  unfold updateDelegation
  cases hdelegation : message.delegation with
  | none => rfl
  | some delegation => cases kind <;> simp [TimelineMessage.head, hdelegation]

lemma frame_applyDelegation (projector : Projector) (delegationId : DelegationId)
    (kind : SessionEventKind) (occurredAt : String) :
    (projector.applyDelegation delegationId.value kind occurredAt).frame =
      (projector.frame.noteDelegation delegationId).pushAll
        (projector.frame.delegationHead delegationId) := by
  have hdelegations : projector.frame.delegations = projector.delegationBuckets := rfl
  unfold applyDelegation Frame.noteDelegation Frame.delegationHead
  rw [frame_modifyMessage (keepsHead_updateDelegation _ _), hdelegations]
  cases hbucket : projector.delegationBuckets.lookup delegationId.value with
  | some index =>
      have hmem : delegationId.value ∈ projector.delegationBuckets := Table.mem_of_lookup hbucket
      simp [hmem, Frame.pushAll]
  | none =>
      have hmem : delegationId.value ∉ projector.delegationBuckets := by
        intro hmem
        obtain ⟨index, hindex⟩ := Table.exists_lookup hmem
        rw [hbucket] at hindex
        cases hindex
      simp [hmem, Frame.pushAll, frame_heads_length]
      rfl

lemma frame_applyNote (projector : Projector) (kind : SessionEventKind) (occurredAt : String) :
    (projector.applyNote kind occurredAt).frame =
      projector.frame.pushAll (projector.frame.noteHead kind) := by
  unfold applyNote Frame.noteHead
  cases systemNote kind with
  | none => rfl
  | some note =>
      dsimp only [Option.map_some, Frame.pushAll]
      rw [frame_push, frame_heads_length]
      rfl

section Messages

variable {turn messageId : String}

lemma frameStep_opened {event : TimelineEvent} {projector' : Projector} {index : ℕ}
    {phase : AssistantMessagePhase} {createdAt : String}
    (hevent : openedMessage event.kind = some (turn, messageId))
    (hnew : (turn, messageId) ∉ projector.completedAssistantItems)
    (hensured : projector.ensureAssistantItem turn messageId phase true createdAt = (index, projector')) :
    FrameStep projector.frame event (projector'.frame.markActive turn index) := by
  cases hitem : projector.assistantItems.lookup (turn, messageId) with
  | some found =>
      obtain ⟨hindex, hframe⟩ := frame_ensureAssistantItem_of_some hitem phase true createdAt
      rw [hensured] at hindex hframe
      dsimp only at hindex hframe
      rw [hindex, hframe]
      exact .resumed hevent hnew hitem
  | none =>
      obtain ⟨hindex, hframe⟩ := frame_ensureAssistantItem_of_none hitem phase true createdAt
      rw [hensured] at hindex hframe
      dsimp only at hindex hframe
      rw [hindex, hframe]
      exact .opened hevent hnew hitem

lemma frame_finish {f : TimelineMessage → TimelineMessage} (h : KeepsHead f) (projector : Projector)
    (index : ℕ) :
    ({ projector.modifyMessage index f with
      completedAssistantItems := projector.completedAssistantItems ∪
        ((projector.assistantItems.entries.filter fun entry => entry.2 = index).map
          Sigma.fst).toFinset
      activeItemsByTurn :=
        match projector.activeItemsByTurn.lookup turn with
        | some active =>
            projector.activeItemsByTurn.insert turn (active.filter fun item => item ≠ index)
        | none => projector.activeItemsByTurn } : Projector).frame =
      projector.frame.finish turn index := by
  have hframe := congrArg (fun frame => Frame.finish frame turn index)
    (frame_modifyMessage h projector index)
  exact hframe

lemma keepsHead_completed (phase : AssistantMessagePhase) (content : Option String) :
    KeepsHead fun message => { message with
      assistantPhase := some phase
      content := content.getD message.content
      streaming := false } := fun _ => rfl

lemma frameStep_completed {event : TimelineEvent} {phase : AssistantMessagePhase}
    {content : Option String} {occurredAt : String}
    (hevent : finishedMessage event.kind = some (turn, messageId)) :
    FrameStep projector.frame event
      (projector.applyAssistantMessageCompleted turn messageId phase content occurredAt).frame := by
  have hkeeps := keepsHead_completed phase content
  unfold applyAssistantMessageCompleted
  cases hitem : projector.assistantItems.lookup (turn, messageId) with
  | some index =>
      have hstep : FrameStep projector.frame event (projector.frame.finish turn index) :=
        .finished hevent hitem
      rw [← frame_finish hkeeps projector index] at hstep
      exact hstep
  | none =>
      dsimp only
      split
      · contradiction
      · next index _ hlifecycle =>
          have hactive : projector.activeItemsByTurn.lookup turn = some [index] := by
            have hsole := (Option.filter_eq_some_iff.mp hlifecycle).1
            cases hlookup : projector.activeItemsByTurn.lookup turn with
            | none => simp [hlookup] at hsole
            | some active =>
                rw [hlookup, Option.getD_some] at hsole
                rcases active with _ | ⟨first, _ | ⟨second, rest⟩⟩
                · cases hsole
                · cases hsole
                  rfl
                · cases hsole
          have hstep : FrameStep projector.frame event
              ((projector.frame.aliasMessage turn messageId index).finish turn index) :=
            .aliased hevent hitem hactive
          have haliased : projector.frame.aliasMessage turn messageId index =
              ({ projector with
                assistantItems := projector.assistantItems.insert (turn, messageId) index }).frame := rfl
          rw [haliased, ← frame_finish hkeeps] at hstep
          exact hstep
      · obtain ⟨hindex, hframe⟩ := frame_ensureAssistantItem_of_none hitem phase false
          (projector.startedAt turn occurredAt)
        have hstep : FrameStep projector.frame event
            ((projector.frame.addMessage turn messageId false).finish turn
              projector.frame.heads.length) := .unopened hevent hitem
        rw [← hframe, ← hindex, ← frame_finish hkeeps] at hstep
        exact hstep

end Messages

section Events

variable {event : TimelineEvent}

lemma frame_applyNativeSubagentActivity (projector : Projector) (turn : String)
    (activity : NativeSubagent) (occurredAt : String) :
    (projector.applyNativeSubagentActivity turn activity occurredAt).frame =
      projector.frame.ensure turn := by
  unfold applyNativeSubagentActivity
  dsimp only
  rw [frame_modifyMessage (keepsHead_annotations _), frame_ensureAssistant]

lemma frame_applyNativeSubagentModel (projector : Projector) (turn correlationId model : String)
    (confirmed : Bool) :
    (projector.applyNativeSubagentModel turn correlationId model confirmed).frame =
      projector.frame := by
  unfold applyNativeSubagentModel
  cases confirmed <;> dsimp only [Bool.false_eq_true, if_false, if_true] <;> split <;>
    first | rfl | exact frame_modifyMessage (keepsHead_annotations _) _ _

lemma keepsHead_aborted (status : IncompleteStatus) :
    KeepsHead fun message => { settleRow message with status := some status } := fun _ => rfl

lemma frame_applyTurnAborted (projector : Projector) (turnId : TurnId) (reason : Option String)
    (occurredAt : String) :
    (projector.applyTurnAborted turnId.value reason occurredAt).frame =
      match projector.frame.looseTurn (.turnAborted turnId reason) with
      | some turn => projector.frame.ensure turn
      | none => projector.frame := by
  unfold applyTurnAborted
  dsimp only [Frame.looseTurn]
  rw [frame_modifyMessages (keepsHead_aborted _)]
  split
  · next hempty =>
      have hloose : ((projector.frame.rowsOfTurn turnId.value).isEmpty &&
        decide (turnId.value ∈ projector.frame.started)) = true := hempty
      rw [if_pos hloose]
      exact frame_ensureAssistant ..
  · next hloose =>
      have hloose : ¬((projector.frame.rowsOfTurn turnId.value).isEmpty &&
        decide (turnId.value ∈ projector.frame.started)) = true := hloose
      rw [if_neg hloose]
      rfl

lemma frame_applyUsageLimitResumed (projector : Projector) (accountLabel : Option String) :
    (projector.applyUsageLimitResumed accountLabel).frame = projector.frame := by
  unfold applyUsageLimitResumed
  split
  · next account turn _ _ =>
      simp only [frame, List.map_map]
      congr 1
      refine List.map_congr_left fun message _ => ?_
      dsimp only [Function.comp_apply]
      split <;> rfl
  · rfl

lemma frame_applySessionStarted (projector : Projector) (forkedFrom : Option ForkOrigin)
    (occurredAt : String) :
    (projector.applySessionStarted forkedFrom occurredAt).frame =
      projector.frame.pushAll (forkedFrom.map fun _ =>
        ⟨"session.started-" ++ toString projector.frame.heads.length, .system, none, false⟩) := by
  cases forkedFrom with
  | none => rfl
  | some origin =>
      rw [frame_heads_length]
      exact frame_push ..

lemma keepsHead_text (f : TimelineMessage → String) (g : TimelineMessage → Bool) :
    KeepsHead fun message => { message with
      content := f message
      streaming := g message } := fun _ => rfl

lemma keepsHead_delta (f : TimelineMessage → String) (g : TimelineMessage → Bool)
    (h : TimelineMessage → Option IncompleteStatus) :
    KeepsHead fun message => { message with
      content := f message
      streaming := g message
      status := h message } := fun _ => rfl

theorem frame_apply (projector : Projector) (event : TimelineEvent) :
    FrameStep projector.frame event (projector.apply event).frame := by
  obtain ⟨kind, occurredAt⟩ := event
  cases kind with
  | turnDelta turnId content =>
      refine .of_loose rfl rfl rfl rfl ?_
      dsimp only [apply, applyTurnDelta, Frame.looseTurn]
      rw [frame_modifyMessage (keepsHead_delta _ _ _)]
      exact frame_ensureAssistant ..
  | turnAssistantMessageStarted turnId messageId phase =>
      dsimp only [apply, applyAssistantMessageStarted]
      split
      · next hdone => exact .ignored rfl hdone
      · next hnew => exact frameStep_opened rfl hnew rfl
  | turnAssistantMessageDelta turnId messageId content =>
      dsimp only [apply, applyAssistantMessageDelta]
      split
      · next hdone => exact .ignored rfl hdone
      · next hnew =>
          rw [frame_markActive, frame_modifyMessage (keepsHead_text _ _)]
          exact frameStep_opened rfl hnew rfl
  | turnAssistantMessageCompleted turnId messageId phase content => exact frameStep_completed rfl
  | turnReasoningStarted turnId reasoningId label =>
      refine .of_loose rfl rfl rfl rfl ?_
      dsimp only [apply, applyReasoningStarted, Frame.looseTurn]
      by_cases hdone : (turnId.value, reasoningId) ∈ projector.frame.completedReasoning
      · rw [if_pos hdone]
        exact (congrArg frame (if_pos hdone)).trans (frame_insertTextBreak ..)
      · rw [if_neg hdone]
        refine (congrArg frame (if_neg hdone)).trans ?_
        rw [frame_getOrAdd, frame_ensureAssistant, frame_insertTextBreak]
  | turnReasoningDelta turnId reasoningId content =>
      refine .of_loose rfl rfl rfl rfl ?_
      dsimp only [apply, applyReasoningDelta, Frame.looseTurn]
      by_cases hdone : (turnId.value, reasoningId) ∈ projector.frame.completedReasoning
      · rw [if_pos hdone]
        exact congrArg frame (if_pos hdone)
      · rw [if_neg hdone]
        refine (congrArg frame (if_neg hdone)).trans ?_
        rw [frame_getOrAdd, frame_ensureAssistant]
  | turnReasoningCompleted turnId reasoningId =>
      refine .of_plain rfl rfl rfl ?_
      exact frame_modifyBucketAnnotations ..
  | turnToolCallStarted turnId toolCallId action command file =>
      refine .of_loose rfl rfl rfl rfl ?_
      dsimp only [apply, applyToolCallStarted, Frame.looseTurn]
      by_cases hhidden : isHiddenToolAction action = true
      · rw [if_pos hhidden, if_pos hhidden, frame_insertTextBreak]
      rw [if_neg hhidden, if_neg hhidden]
      by_cases hdone : (turnId.value, toolCallId) ∈ projector.frame.completedToolCalls
      · rw [if_pos hdone]
        exact (congrArg frame (if_pos hdone)).trans (frame_insertTextBreak ..)
      · rw [if_neg hdone]
        refine (congrArg frame (if_neg hdone)).trans ?_
        rw [frame_getOrAdd, frame_ensureAssistant, frame_insertTextBreak]
  | turnToolCallDelta turnId toolCallId content =>
      refine .of_loose rfl rfl rfl rfl ?_
      dsimp only [apply, applyToolCallDelta, Frame.looseTurn]
      by_cases hdone : (turnId.value, toolCallId) ∈ projector.frame.completedToolCalls
      · rw [if_pos hdone]
        exact congrArg frame (if_pos hdone)
      · rw [if_neg hdone]
        refine (congrArg frame (if_neg hdone)).trans ?_
        rw [frame_modifyToolCall, frame_ensureAssistant]
  | turnToolCallCompleted turnId toolCallId detail =>
      refine .of_plain rfl rfl rfl ?_
      exact frame_modifyToolCall ..
  | turnToolCallUpdated turnId toolCallId detail =>
      refine .of_plain rfl rfl rfl ?_
      exact frame_modifyToolCall ..
  | turnToolCallFailed turnId toolCallId reason detail =>
      refine .of_plain rfl rfl rfl ?_
      exact frame_modifyToolCall ..
  | turnUserInputRequested turnId requestId questions =>
      refine .of_loose rfl rfl rfl rfl ?_
      exact (frame_getOrAdd ..).trans (frame_ensureAssistant ..)
  | turnPermissionRequested turnId requestId toolName title description command file =>
      refine .of_loose rfl rfl rfl rfl ?_
      exact (frame_getOrAdd ..).trans (frame_ensureAssistant ..)
  | turnUserInputResolved turnId requestId answers =>
      refine .of_plain rfl rfl rfl ?_
      exact frame_modifyBucketAnnotations ..
  | turnPermissionResolved turnId requestId behavior =>
      refine .of_plain rfl rfl rfl ?_
      exact frame_modifyBucketAnnotations ..
  | turnNativeSubagentActivity turnId id agentId agentThreadId path name role model status =>
      refine .of_loose rfl rfl rfl rfl ?_
      exact frame_applyNativeSubagentActivity ..
  | turnNativeSubagentModelConfirmed turnId correlationId model =>
      refine .of_plain rfl rfl rfl ?_
      exact frame_applyNativeSubagentModel ..
  | turnNativeSubagentModelRequested turnId correlationId model =>
      refine .of_plain rfl rfl rfl ?_
      exact frame_applyNativeSubagentModel ..
  | turnCompleted turnId =>
      refine .of_plain rfl rfl rfl ?_
      exact frame_modifyMessages keepsHead_settleRow ..
  | turnAborted turnId reason =>
      refine .of_loose rfl rfl rfl rfl ?_
      exact frame_applyTurnAborted ..
  | usageLimitResumed automatic turnId accountLabel =>
      refine .of_plain rfl rfl rfl ?_
      exact frame_applyUsageLimitResumed ..
  | sessionStarted workspaceId projectId providerId model forkedFrom =>
      refine .of_plain rfl rfl rfl ?_
      exact frame_applySessionStarted ..
  | turnStarted =>
      refine .of_plain rfl rfl rfl ?_
      exact frame_push ..
  | turnSteered =>
      refine .of_plain rfl rfl rfl ?_
      exact frame_push ..
  | delegationRequested delegationId =>
      refine .of_plain rfl rfl rfl ?_
      exact frame_applyDelegation ..
  | delegationStarted delegationId childSessionId =>
      refine .of_plain rfl rfl rfl ?_
      exact frame_applyDelegation ..
  | delegationDelta delegationId content =>
      refine .of_plain rfl rfl rfl ?_
      exact frame_applyDelegation ..
  | delegationCompleted delegationId summary =>
      refine .of_plain rfl rfl rfl ?_
      exact frame_applyDelegation ..
  | delegationFailed delegationId reason =>
      refine .of_plain rfl rfl rfl ?_
      exact frame_applyDelegation ..
  | delegationCancelled delegationId reason =>
      refine .of_plain rfl rfl rfl ?_
      exact frame_applyDelegation ..
  | turnModelEffective => exact .of_plain rfl rfl rfl rfl
  | usageLimitReached => exact .of_plain rfl rfl rfl rfl
  | _ =>
      refine .of_plain rfl rfl rfl ?_
      exact frame_applyNote ..

end Events

end Projector

end DevCommandCenter.Timeline
