import DevCommandCenter.Timeline.FoldedRows

/-! What the rows of a turn hold, and which annotations an event edits. -/

namespace DevCommandCenter.Timeline

open Library

inductive ItemEdit
  | orAdd (same : Annotation → Bool) (change : Annotation → Annotation) (added : Annotation)
  | first (same : Annotation → Bool) (change : Annotation → Annotation)
  | every (change : Annotation → Annotation)

namespace ItemEdit

def run (annotations : List Annotation) : ItemEdit → List Annotation
  | orAdd same change added =>
      if annotations.any same then modifyFirst same change annotations else annotations ++ [added]
  | first same change => modifyFirst same change annotations
  | every change => annotations.map change

def getOrAdd (added : Annotation) (f : Annotation → Annotation) : ItemEdit :=
  orAdd (fun item => item.kind == added.kind && item.id == added.id) f (f added)

def toolCall (id : String) (f : ToolCall → ToolCall) : ItemEdit :=
  first
    (fun
      | .toolCall call => call.id == id
      | _ => false)
    (fun
      | .toolCall call => .toolCall (f call)
      | item => item)

end ItemEdit

namespace Projector

variable {projector : Projector} {row : ℕ}

def annotationsAt (projector : Projector) (row : ℕ) : List Annotation :=
  ((projector.messages[row]?).map TimelineMessage.annotations).getD []

def currentRow (projector : Projector) (turnId : String) : ℕ :=
  (projector.assistantBuckets.lookup turnId).getD projector.messages.length

section Rows

lemma annotationsAt_push {message : TimelineMessage} (h : message.annotations = []) :
    (projector.push message).annotationsAt row = projector.annotationsAt row := by
  simp only [annotationsAt, push, List.getElem?_append]
  split
  · rfl
  · next hge =>
      rw [List.getElem?_eq_none (Nat.le_of_not_lt hge)]
      cases hindex : row - projector.messages.length with
      | zero => simp [h]
      | succ index => rfl

lemma annotationsAt_modifyMessage (projector : Projector) (index : ℕ)
    (f : TimelineMessage → TimelineMessage) (row : ℕ) :
    (projector.modifyMessage index f).annotationsAt row =
      if row = index then ((projector.messages[row]?).map fun message => (f message).annotations).getD []
      else projector.annotationsAt row := by
  simp only [annotationsAt, modifyMessage, List.getElem?_modify]
  by_cases hrow : row = index
  · subst hrow
    rw [if_pos rfl]
    cases projector.messages[row]? <;> simp
  · rw [if_neg hrow]
    cases projector.messages[row]? <;> simp [Ne.symm hrow]

def KeepsItems (f : TimelineMessage → TimelineMessage) : Prop :=
  ∀ message, (f message).annotations = message.annotations

lemma keepsItems_phase (phase : AssistantMessagePhase) :
    KeepsItems fun message => { message with assistantPhase := some phase } := fun _ => rfl

lemma keepsItems_text (f : TimelineMessage → String) (g : TimelineMessage → Bool) :
    KeepsItems fun message => { message with
      content := f message
      streaming := g message } := fun _ => rfl

lemma keepsItems_delta (f : TimelineMessage → String) (g : TimelineMessage → Bool)
    (h : TimelineMessage → Option IncompleteStatus) :
    KeepsItems fun message => { message with
      content := f message
      streaming := g message
      status := h message } := fun _ => rfl

lemma keepsItems_completed (phase : AssistantMessagePhase) (content : Option String) :
    KeepsItems fun message => { message with
      assistantPhase := some phase
      content := content.getD message.content
      streaming := false } := fun _ => rfl

lemma annotationsAt_modifyMessage_same {f : TimelineMessage → TimelineMessage} (h : KeepsItems f) (projector : Projector) (index row : ℕ) :
    (projector.modifyMessage index f).annotationsAt row = projector.annotationsAt row := by
  rw [annotationsAt_modifyMessage]
  split
  · simp only [h _]
    rfl
  · rfl

lemma annotationsAt_edit (projector : Projector) {index : ℕ} {edit : ItemEdit}
    (h : index < projector.messages.length ∨ edit.run [] = []) (row : ℕ) :
    (projector.modifyMessage index fun message =>
      { message with annotations := edit.run message.annotations }).annotationsAt row =
      if row = index then edit.run (projector.annotationsAt row) else projector.annotationsAt row := by
  rw [annotationsAt_modifyMessage]
  split
  · next hrow =>
      subst hrow
      rw [annotationsAt]
      cases hmessage : projector.messages[row]? with
      | some message => rfl
      | none =>
          rcases h with hlt | hempty
          · rw [List.getElem?_eq_getElem hlt] at hmessage
            cases hmessage
          · exact hempty.symm
  · rfl

lemma annotationsAt_ensureAssistant (projector : Projector) (turnId createdAt : String) (row : ℕ) :
    (projector.ensureAssistant turnId createdAt).2.annotationsAt row = projector.annotationsAt row := by
  unfold ensureAssistant
  split
  · rfl
  · exact annotationsAt_push rfl

lemma annotationsAt_ensureAssistantItem (projector : Projector) (turnId messageId : String)
    (phase : AssistantMessagePhase) (makeCurrent : Bool) (createdAt : String) (row : ℕ) :
    (projector.ensureAssistantItem turnId messageId phase makeCurrent createdAt).2.annotationsAt row =
      projector.annotationsAt row := by
  unfold ensureAssistantItem
  split
  · next index hindex =>
      have hphased : (if phase ≠ .unknown then
          projector.modifyMessage index fun message => { message with assistantPhase := some phase }
          else projector).annotationsAt row = projector.annotationsAt row := by
        split
        · exact annotationsAt_modifyMessage_same (keepsItems_phase phase) projector index row
        · rfl
      dsimp only
      split
      · exact hphased
      · exact hphased
  · have hpushed : ∀ message : TimelineMessage, message.annotations = [] →
        (projector.push message).annotationsAt row = projector.annotationsAt row :=
      fun message hmessage => annotationsAt_push hmessage
    dsimp only
    split
    · exact hpushed _ rfl
    · exact hpushed _ rfl

lemma ensureAssistant_fst (projector : Projector) (turnId createdAt : String) :
    (projector.ensureAssistant turnId createdAt).1 = projector.currentRow turnId := by
  unfold ensureAssistant currentRow
  split
  · next index hindex => rw [hindex, Option.getD_some]
  · next hnone => rw [hnone, Option.getD_none]

lemma currentRow_lt (hkept : projector.frame.WellKept) (turnId createdAt : String) :
    projector.currentRow turnId < (projector.ensureAssistant turnId createdAt).2.messages.length := by
  unfold ensureAssistant currentRow
  split
  · next index hindex =>
      have hlt := (hkept.bucket turnId index hindex).lt
      rw [frame_heads_length] at hlt
      rw [hindex]
      exact hlt
  · next hnone =>
      rw [hnone]
      simp [setBucket, push]

end Rows

section Edits

def subagentEdit (activity : NativeSubagent) (requested confirmed : Option String)
    (occurredAt : String) : ItemEdit :=
  .orAdd
    (fun
      | .nativeSubagent agent =>
          agent.id == activity.id ||
            (activity.agentThreadId.isSome && agent.agentThreadId == activity.agentThreadId) ||
            (activity.agentId.isSome && agent.agentId == activity.agentId)
      | _ => false)
    (fun
      | .nativeSubagent agent =>
          .nativeSubagent { agent with
            agentId := activity.agentId.or agent.agentId
            agentThreadId := activity.agentThreadId.or agent.agentThreadId
            path := activity.path.or agent.path
            name := activity.name.or agent.name
            role := activity.role.or agent.role
            model := confirmed.or (activity.model.or agent.model)
            requestedModel := requested.or agent.requestedModel
            status := activity.status
            createdAt := agent.createdAt.or (some occurredAt) }
      | item => item)
    (.nativeSubagent { activity with
      model := confirmed.or activity.model
      requestedModel := requested
      streaming := false
      createdAt := some occurredAt })

def subagentModelEdit (correlationId model : String) (confirmed : Bool) : ItemEdit :=
  .first
    (fun
      | .nativeSubagent agent =>
          agent.agentThreadId == some correlationId || agent.id == correlationId
      | _ => false)
    (fun
      | .nativeSubagent agent =>
          .nativeSubagent
            (if confirmed then { agent with model := some model }
            else { agent with requestedModel := some model })
      | item => item)

def endedRows (projector : Projector) : SessionEventKind → List ℕ
  | .turnCompleted turnId => projector.rowsOfTurn turnId.value
  | .turnAborted turnId _ =>
      if (projector.rowsOfTurn turnId.value).isEmpty && decide (turnId.value ∈ projector.turnStartedAt) then
        [projector.currentRow turnId.value]
      else projector.rowsOfTurn turnId.value
  | _ => []

def itemEdit (projector : Projector) (event : TimelineEvent) : List ℕ × ItemEdit :=
  let occurredAt := event.occurredAt
  match event.kind with
  | .turnReasoningStarted turnId reasoningId label =>
      (if (turnId.value, reasoningId) ∈ projector.completedReasoningItems then []
        else [projector.currentRow turnId.value],
        .getOrAdd (.reasoning reasoningId (some (label.getD "Thinking")) "" true (some occurredAt)) id)
  | .turnReasoningDelta turnId reasoningId content =>
      (if (turnId.value, reasoningId) ∈ projector.completedReasoningItems then []
        else [projector.currentRow turnId.value],
        .getOrAdd (.reasoning reasoningId (some "Thinking") "" true (some occurredAt))
          fun
            | .reasoning id label text _ createdAt =>
                .reasoning id label (text ++ content) true (createdAt.or (some occurredAt))
            | item => item)
  | .turnReasoningCompleted turnId reasoningId =>
      ((projector.assistantBuckets.lookup turnId.value).toList,
        .every
          fun
            | .reasoning id label content streaming createdAt =>
                .reasoning id label content (if id = reasoningId then false else streaming) createdAt
            | item => item)
  | .turnToolCallStarted turnId toolCallId action command file =>
      (if isHiddenToolAction action then []
        else if (turnId.value, toolCallId) ∈ projector.completedToolCallItems then []
        else [projector.currentRow turnId.value],
        .getOrAdd
          (.toolCall {
            id := toolCallId
            action := action
            command := command
            file := file
            content := ""
            detail := none
            streaming := true
            createdAt := some occurredAt
            failure := none }) id)
  | .turnToolCallDelta turnId toolCallId content =>
      (if (turnId.value, toolCallId) ∈ projector.completedToolCallItems then []
        else [projector.currentRow turnId.value],
        .toolCall toolCallId fun call =>
          { call with
            content := call.content ++ content
            streaming := true
            createdAt := call.createdAt.or (some occurredAt) })
  | .turnToolCallCompleted turnId toolCallId detail =>
      ((projector.assistantBuckets.lookup turnId.value).toList,
        .toolCall toolCallId fun call => mergeToolCallDetail detail { call with streaming := false })
  | .turnToolCallUpdated turnId toolCallId detail =>
      ((projector.assistantBuckets.lookup turnId.value).toList,
        .toolCall toolCallId (mergeToolCallDetail (some detail)))
  | .turnToolCallFailed turnId toolCallId reason detail =>
      ((projector.assistantBuckets.lookup turnId.value).toList,
        .toolCall toolCallId fun call =>
          mergeToolCallDetail detail
            { call with
              streaming := false
              failure := some (reason.getD "Tool call failed") })
  | .turnUserInputRequested turnId requestId questions =>
      ([projector.currentRow turnId.value],
        .getOrAdd (.userInput requestId questions [] true (some occurredAt)) id)
  | .turnUserInputResolved turnId requestId answers =>
      ((projector.assistantBuckets.lookup turnId.value).toList,
        .every
          fun
            | .userInput id questions stored streaming createdAt =>
                if id = requestId then
                  .userInput id questions answers false (createdAt.or (some occurredAt))
                else .userInput id questions stored streaming createdAt
            | item => item)
  | .turnPermissionRequested turnId requestId toolName title description command file =>
      ([projector.currentRow turnId.value],
        .getOrAdd
          (.approval requestId toolName title description command file none true (some occurredAt)) id)
  | .turnPermissionResolved turnId requestId behavior =>
      ((projector.assistantBuckets.lookup turnId.value).toList,
        .every
          fun
            | .approval id toolName title description command file stored streaming createdAt =>
                if id = requestId then
                  .approval id toolName title description command file (some behavior) false
                    (createdAt.or (some occurredAt))
                else
                  .approval id toolName title description command file stored streaming createdAt
            | item => item)
  | .turnNativeSubagentActivity turnId id agentId agentThreadId path name role model status =>
      let correlation := agentThreadId.getD id
      ([projector.currentRow turnId.value],
        subagentEdit ⟨id, agentId, agentThreadId, path, name, role, model, none, status, false, none⟩
          (projector.requestedSubagentModels.lookup correlation)
          (projector.confirmedSubagentModels.lookup correlation) occurredAt)
  | .turnNativeSubagentModelRequested turnId correlationId model =>
      ((projector.assistantBuckets.lookup turnId.value).toList,
        subagentModelEdit correlationId model false)
  | .turnNativeSubagentModelConfirmed turnId correlationId model =>
      ((projector.assistantBuckets.lookup turnId.value).toList,
        subagentModelEdit correlationId model true)
  | .turnCompleted _ | .turnAborted .. =>
      (projector.endedRows event.kind, .every ( Annotation.setStreaming false))
  | _ => ([], .every id)

def editedAt (projector : Projector) (event : TimelineEvent) (row : ℕ) : List Annotation :=
  if row ∈ (projector.itemEdit event).1 then (projector.itemEdit event).2.run (projector.annotationsAt row)
  else projector.annotationsAt row

variable {event : TimelineEvent} {rows : List ℕ} {edit : ItemEdit}

lemma eq_editedAt {annotations : List Annotation} (h : projector.itemEdit event = (rows, edit))
    (heq : annotations = if row ∈ rows then edit.run (projector.annotationsAt row)
      else projector.annotationsAt row) : annotations = projector.editedAt event row := by
  rw [editedAt, h]
  exact heq

lemma eq_editedAt_none {annotations : List Annotation} (h : (projector.itemEdit event).1 = [])
    (heq : annotations = projector.annotationsAt row) :
    annotations = projector.editedAt event row := by
  rw [editedAt, h, if_neg (by simp)]
  exact heq

lemma annotationsAt_ensured (hkept : projector.frame.WellKept) (turnId createdAt : String)
    (edit : ItemEdit) (row : ℕ) :
    ((projector.ensureAssistant turnId createdAt).2.modifyMessage
      (projector.ensureAssistant turnId createdAt).1 fun message =>
        { message with annotations := edit.run message.annotations }).annotationsAt row =
      if row ∈ [projector.currentRow turnId] then edit.run (projector.annotationsAt row)
      else projector.annotationsAt row := by
  rw [ensureAssistant_fst, annotationsAt_edit _ (.inl (currentRow_lt hkept turnId createdAt)),
    annotationsAt_ensureAssistant]
  simp only [List.mem_singleton]

lemma annotationsAt_getOrAdd (hkept : projector.frame.WellKept) (turnId createdAt : String)
    (added : Annotation) (f : Annotation → Annotation) (row : ℕ) :
    ((projector.ensureAssistant turnId createdAt).2.getOrAdd
      (projector.ensureAssistant turnId createdAt).1 added f).annotationsAt row =
      if row ∈ [projector.currentRow turnId] then
        (ItemEdit.getOrAdd added f).run (projector.annotationsAt row)
      else projector.annotationsAt row :=
  annotationsAt_ensured hkept turnId createdAt (.getOrAdd added f) row

lemma annotationsAt_bucket (projector : Projector) (turnId : String) {edit : ItemEdit}
    (h : edit.run [] = []) (row : ℕ) :
    (match projector.assistantBuckets.lookup turnId with
      | none => projector
      | some index => projector.modifyMessage index fun message =>
          { message with annotations := edit.run message.annotations }).annotationsAt row =
      if row ∈ (projector.assistantBuckets.lookup turnId).toList then
        edit.run (projector.annotationsAt row)
      else projector.annotationsAt row := by
  cases projector.assistantBuckets.lookup turnId with
  | none => simp
  | some index =>
      dsimp only
      rw [annotationsAt_edit _ (.inr h)]
      simp only [Option.toList_some, List.mem_singleton]

lemma annotationsAt_modifyBucketAnnotations (projector : Projector) (turnId : String)
    (f : Annotation → Annotation) (row : ℕ) :
    (projector.modifyBucketAnnotations turnId f).annotationsAt row =
      if row ∈ (projector.assistantBuckets.lookup turnId).toList then
        (ItemEdit.every f).run (projector.annotationsAt row)
      else projector.annotationsAt row :=
  @annotationsAt_bucket projector turnId (.every f) rfl row

lemma annotationsAt_modifyToolCall (projector : Projector) (turnId id : String)
    (f : ToolCall → ToolCall) (row : ℕ) :
    (projector.modifyToolCall turnId id f).annotationsAt row =
      if row ∈ (projector.assistantBuckets.lookup turnId).toList then
        (ItemEdit.toolCall id f).run (projector.annotationsAt row)
      else projector.annotationsAt row :=
  @annotationsAt_bucket projector turnId (.toolCall id f) rfl row

lemma annotationsAt_applyNativeSubagentModel (projector : Projector)
    (turn correlationId model : String) (confirmed : Bool) (row : ℕ) :
    (projector.applyNativeSubagentModel turn correlationId model confirmed).annotationsAt row =
      if row ∈ (projector.assistantBuckets.lookup turn).toList then
        (subagentModelEdit correlationId model confirmed).run (projector.annotationsAt row)
      else projector.annotationsAt row := by
  cases confirmed
  · exact @annotationsAt_bucket
      { projector with
        requestedSubagentModels := projector.requestedSubagentModels.insert correlationId model }
      turn (subagentModelEdit correlationId model false) rfl row
  · exact @annotationsAt_bucket
      { projector with
        confirmedSubagentModels := projector.confirmedSubagentModels.insert correlationId model }
      turn (subagentModelEdit correlationId model true) rfl row

lemma setStreaming_setStreaming (item : Annotation) :
    (item.setStreaming false).setStreaming false = item.setStreaming false := by
  cases item <;> rfl

lemma annotationsAt_settled {f : TimelineMessage → TimelineMessage}
    (h : ∀ message, (f message).annotations = message.annotations.map ( Annotation.setStreaming false))
    (projector : Projector) (rows : List ℕ) (row : ℕ) :
    (projector.modifyMessages rows f).annotationsAt row =
      if row ∈ rows then (projector.annotationsAt row).map ( Annotation.setStreaming false)
      else projector.annotationsAt row := by
  have hone : ∀ (projector : Projector) (index : ℕ), (projector.modifyMessage index f).annotationsAt row =
      if row = index then (projector.annotationsAt row).map ( Annotation.setStreaming false)
      else projector.annotationsAt row := by
    intro projector index
    rw [annotationsAt_modifyMessage]
    split
    · rw [annotationsAt]
      cases projector.messages[row]? with
      | none => rfl
      | some message => exact h message
    · rfl
  unfold modifyMessages
  induction rows generalizing projector with
  | nil => simp
  | cons index rows ih =>
      rw [List.foldl_cons, ih, hone]
      by_cases hrow : row = index
      · simp [hrow, setStreaming_setStreaming]
      · simp [hrow]

lemma annotationsAt_applyTurnAborted (projector : Projector) (turnId : TurnId) (reason : Option String)
    (occurredAt : String) (row : ℕ) :
    (projector.applyTurnAborted turnId.value reason occurredAt).annotationsAt row =
      if row ∈ projector.endedRows (.turnAborted turnId reason) then
        (projector.annotationsAt row).map ( Annotation.setStreaming false)
      else projector.annotationsAt row := by
  have hsettled : ∀ (status : IncompleteStatus) (message : TimelineMessage),
      { settleRow message with status := some status }.annotations =
        message.annotations.map ( Annotation.setStreaming false) := fun _ _ => rfl
  unfold applyTurnAborted
  dsimp only [endedRows]
  rw [annotationsAt_settled (hsettled _)]
  split
  · next hempty =>
      have hempty : ((projector.rowsOfTurn turnId.value).isEmpty &&
        decide (turnId.value ∈ projector.turnStartedAt)) = true := hempty
      simp only [if_pos hempty, annotationsAt_ensureAssistant, ensureAssistant_fst]
      rfl
  · next hsome =>
      have hsome : ¬((projector.rowsOfTurn turnId.value).isEmpty &&
        decide (turnId.value ∈ projector.turnStartedAt)) = true := hsome
      simp only [if_neg hsome]
      rfl

lemma bucket_ensured (projector : Projector) (turnId createdAt : String) :
    (projector.ensureAssistant turnId createdAt).2.assistantBuckets.lookup turnId =
      some (projector.currentRow turnId) := by
  unfold ensureAssistant currentRow
  split
  · next index hindex => rw [hindex, Option.getD_some]
  · next hnone =>
      dsimp only [setBucket]
      rw [hnone, Table.lookup_insert_eq, if_pos rfl, Option.getD_none]

lemma annotationsAt_applyNativeSubagentActivity (hkept : projector.frame.WellKept) (turn : String)
    (activity : NativeSubagent) (occurredAt : String) (row : ℕ) :
    (projector.applyNativeSubagentActivity turn activity occurredAt).annotationsAt row =
      if row ∈ [projector.currentRow turn] then
        (subagentEdit activity
          (projector.requestedSubagentModels.lookup (activity.agentThreadId.getD activity.id))
          (projector.confirmedSubagentModels.lookup (activity.agentThreadId.getD activity.id))
          occurredAt).run (projector.annotationsAt row)
      else projector.annotationsAt row := by
  have hmodels : ∀ createdAt,
      (projector.ensureAssistant turn createdAt).2.requestedSubagentModels =
        projector.requestedSubagentModels ∧
      (projector.ensureAssistant turn createdAt).2.confirmedSubagentModels =
        projector.confirmedSubagentModels := by
    intro createdAt
    unfold ensureAssistant
    split <;> exact ⟨rfl, rfl⟩
  rw [← (hmodels (projector.startedAt turn occurredAt)).1,
    ← (hmodels (projector.startedAt turn occurredAt)).2]
  exact annotationsAt_ensured hkept turn _ (subagentEdit activity _ _ occurredAt) row

lemma annotationsAt_applyUsageLimitResumed (projector : Projector) (accountLabel : Option String)
    (row : ℕ) : (projector.applyUsageLimitResumed accountLabel).annotationsAt row =
      projector.annotationsAt row := by
  unfold applyUsageLimitResumed
  split
  · simp only [annotationsAt, List.getElem?_map, Option.map_map]
    congr 2
    funext message
    dsimp only [Function.comp_apply]
    split <;> rfl
  · rfl

lemma annotationsAt_applyDelegation (projector : Projector) (delegationId : String)
    (kind : SessionEventKind) (occurredAt : String) (row : ℕ) :
    (projector.applyDelegation delegationId kind occurredAt).annotationsAt row =
      projector.annotationsAt row := by
  have hupdate : ∀ text : String, KeepsItems (updateDelegation kind text) := by
    intro text message
    unfold updateDelegation
    cases message.delegation with
    | none => rfl
    | some delegation => cases kind <;> rfl
  unfold applyDelegation
  dsimp only
  rw [annotationsAt_modifyMessage_same (hupdate _)]
  split
  · rfl
  · exact annotationsAt_push rfl

lemma annotationsAt_applyNote (projector : Projector) (kind : SessionEventKind) (occurredAt : String)
    (row : ℕ) : (projector.applyNote kind occurredAt).annotationsAt row = projector.annotationsAt row := by
  unfold applyNote
  cases systemNote kind with
  | none => rfl
  | some note => exact annotationsAt_push rfl

lemma annotationsAt_applySessionStarted (projector : Projector) (forkedFrom : Option ForkOrigin)
    (occurredAt : String) (row : ℕ) :
    (projector.applySessionStarted forkedFrom occurredAt).annotationsAt row =
      projector.annotationsAt row := by
  cases forkedFrom with
  | none => rfl
  | some origin => exact annotationsAt_push rfl

theorem annotationsAt_apply (hkept : projector.frame.WellKept) (event : TimelineEvent) (row : ℕ) :
    (projector.apply event).annotationsAt row = projector.editedAt event row := by
  obtain ⟨kind, occurredAt⟩ := event
  cases kind with
  | turnDelta turnId content =>
      refine eq_editedAt_none rfl ?_
      refine (annotationsAt_modifyMessage_same (keepsItems_delta _ _ _) _ _ row).trans ?_
      exact annotationsAt_ensureAssistant ..
  | turnAssistantMessageStarted turnId messageId phase =>
      refine eq_editedAt_none rfl ?_
      dsimp only [apply, applyAssistantMessageStarted]
      split
      · rfl
      · exact annotationsAt_ensureAssistantItem ..
  | turnAssistantMessageDelta turnId messageId content =>
      refine eq_editedAt_none rfl ?_
      dsimp only [apply, applyAssistantMessageDelta]
      split
      · rfl
      · refine (annotationsAt_modifyMessage_same (keepsItems_text _ _) _ _ row).trans ?_
        exact annotationsAt_ensureAssistantItem ..
  | turnAssistantMessageCompleted turnId messageId phase content =>
      refine eq_editedAt_none rfl ?_
      dsimp only [apply, applyAssistantMessageCompleted]
      refine (annotationsAt_modifyMessage_same (keepsItems_completed _ _) _ _ row).trans ?_
      split
      · rfl
      · rfl
      · exact annotationsAt_ensureAssistantItem ..
  | turnReasoningStarted turnId reasoningId label =>
      by_cases hdone : (turnId.value, reasoningId) ∈ projector.completedReasoningItems
      · refine eq_editedAt_none (if_pos hdone) ?_
        dsimp only [apply, applyReasoningStarted]
        refine (congrArg (fun projector : Projector => projector.annotationsAt row)
          (if_pos hdone)).trans ?_
        rfl
      · refine eq_editedAt (Prod.ext (if_neg hdone) rfl) ?_
        dsimp only [apply, applyReasoningStarted]
        refine (congrArg (fun projector : Projector => projector.annotationsAt row)
          (if_neg hdone)).trans ?_
        have hbroken : (projector.insertTextBreak turnId.value).frame.WellKept := hkept
        exact annotationsAt_getOrAdd hbroken ..
  | turnReasoningDelta turnId reasoningId content =>
      by_cases hdone : (turnId.value, reasoningId) ∈ projector.completedReasoningItems
      · refine eq_editedAt_none (if_pos hdone) ?_
        dsimp only [apply, applyReasoningDelta]
        rw [if_pos hdone]
      · refine eq_editedAt (Prod.ext (if_neg hdone) rfl) ?_
        dsimp only [apply, applyReasoningDelta]
        rw [if_neg hdone]
        exact annotationsAt_getOrAdd hkept ..
  | turnReasoningCompleted turnId reasoningId =>
      refine eq_editedAt rfl ?_
      exact annotationsAt_modifyBucketAnnotations ..
  | turnToolCallStarted turnId toolCallId action command file =>
      by_cases hhidden : isHiddenToolAction action = true
      · refine eq_editedAt_none (if_pos hhidden) ?_
        dsimp only [apply, applyToolCallStarted]
        rw [if_pos hhidden]
        rfl
      by_cases hdone : (turnId.value, toolCallId) ∈ projector.completedToolCallItems
      · refine eq_editedAt_none ((if_neg hhidden).trans (if_pos hdone)) ?_
        dsimp only [apply, applyToolCallStarted]
        rw [if_neg hhidden]
        refine (congrArg (fun projector : Projector => projector.annotationsAt row)
          (if_pos hdone)).trans ?_
        rfl
      · refine eq_editedAt (Prod.ext ((if_neg hhidden).trans (if_neg hdone)) rfl) ?_
        dsimp only [apply, applyToolCallStarted]
        rw [if_neg hhidden]
        refine (congrArg (fun projector : Projector => projector.annotationsAt row)
          (if_neg hdone)).trans ?_
        have hbroken : (projector.insertTextBreak turnId.value).frame.WellKept := hkept
        exact annotationsAt_getOrAdd hbroken ..
  | turnToolCallDelta turnId toolCallId content =>
      by_cases hdone : (turnId.value, toolCallId) ∈ projector.completedToolCallItems
      · refine eq_editedAt_none (if_pos hdone) ?_
        dsimp only [apply, applyToolCallDelta]
        rw [if_pos hdone]
      · refine eq_editedAt (Prod.ext (if_neg hdone) rfl) ?_
        dsimp only [apply, applyToolCallDelta]
        rw [if_neg hdone, annotationsAt_modifyToolCall, bucket_ensured, annotationsAt_ensureAssistant]
        rfl
  | turnToolCallCompleted turnId toolCallId detail | turnToolCallUpdated turnId toolCallId detail
  | turnToolCallFailed turnId toolCallId reason detail =>
      refine eq_editedAt rfl ?_
      exact annotationsAt_modifyToolCall ..
  | turnUserInputResolved turnId requestId answers
  | turnPermissionResolved turnId requestId behavior =>
      refine eq_editedAt rfl ?_
      exact annotationsAt_modifyBucketAnnotations ..
  | turnUserInputRequested turnId requestId questions
  | turnPermissionRequested turnId requestId toolName title description command file =>
      refine eq_editedAt rfl ?_
      exact annotationsAt_getOrAdd hkept ..
  | turnNativeSubagentActivity turnId id agentId agentThreadId path name role model status =>
      refine eq_editedAt rfl ?_
      exact annotationsAt_applyNativeSubagentActivity hkept ..
  | turnNativeSubagentModelRequested turnId correlationId model
  | turnNativeSubagentModelConfirmed turnId correlationId model =>
      refine eq_editedAt rfl ?_
      exact annotationsAt_applyNativeSubagentModel ..
  | turnCompleted turnId =>
      refine eq_editedAt rfl ?_
      exact annotationsAt_settled (fun _ => rfl) _ _ row
  | turnAborted turnId reason =>
      refine eq_editedAt rfl ?_
      exact annotationsAt_applyTurnAborted ..
  | usageLimitResumed automatic turnId accountLabel =>
      refine eq_editedAt_none rfl ?_
      exact annotationsAt_applyUsageLimitResumed ..
  | turnStarted | turnSteered =>
      refine eq_editedAt_none rfl ?_
      exact annotationsAt_push rfl
  | sessionStarted workspaceId projectId providerId model forkedFrom =>
      refine eq_editedAt_none rfl ?_
      exact annotationsAt_applySessionStarted ..
  | delegationRequested delegationId | delegationStarted delegationId
  | delegationDelta delegationId | delegationCompleted delegationId
  | delegationFailed delegationId | delegationCancelled delegationId =>
      refine eq_editedAt_none rfl ?_
      exact annotationsAt_applyDelegation ..
  | turnModelEffective | usageLimitReached => rfl
  | _ =>
      refine eq_editedAt_none rfl ?_
      exact annotationsAt_applyNote ..

end Edits

end Projector

end DevCommandCenter.Timeline
