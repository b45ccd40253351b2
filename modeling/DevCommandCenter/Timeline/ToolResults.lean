import DevCommandCenter.Timeline.ShownItems
import DevCommandCenter.Timeline.StrayRows

/-! The result of a tool call: how it comes to the row that shows the call. -/

namespace DevCommandCenter.Timeline

open Library Projector

def toolCallOf (toolCallId : String) : Annotation → Option ToolCall
  | .toolCall call => if call.id = toolCallId then some call else none
  | _ => none

def toolCallsOf (turnId toolCallId : String) (messages : List TimelineMessage) : List ToolCall :=
  messages.flatMap fun message =>
    if message.turnId = some turnId then message.annotations.filterMap (toolCallOf toolCallId) else []

structure ToolCallResult where
  failure : Option String
  detail : Option ToolCallDetail

def toolCallResult : SessionEventKind → Option (String × String × ToolCallResult)
  | .turnToolCallCompleted turnId id detail => some (turnId.value, id, ⟨none, detail⟩)
  | .turnToolCallFailed turnId id reason detail =>
      some (turnId.value, id, ⟨some (reason.getD "Tool call failed"), detail⟩)
  | _ => none

def startsCall (turnId toolCallId : String) : SessionEventKind → Bool
  | .turnToolCallStarted turn id .. => turn.value = turnId ∧ id = toolCallId
  | _ => false

def endsCall (turnId toolCallId : String) : SessionEventKind → Bool
  | .turnToolCallCompleted turn id _ | .turnToolCallFailed turn id .. =>
      turn.value = turnId ∧ id = toolCallId
  | _ => false

def updatesCall (turnId toolCallId : String) : SessionEventKind → Bool
  | .turnToolCallUpdated turn id _ => turn.value = turnId ∧ id = toolCallId
  | _ => false

structure Contains (shown detail : ToolCallDetail) : Prop where
  command : ∀ text, detail.command = some text → text ≠ "" → shown.command = some text
  file : ∀ text, detail.file = some text → text ≠ "" → shown.file = some text
  input : ∀ text, detail.input = some text → text ≠ "" → shown.input = some text
  output : ∀ text, detail.output = some text → text ≠ "" → shown.output = some text
  exitCode : ∀ code, detail.exitCode = some code → shown.exitCode = some code
  diff : ∀ text, detail.diff = some text → text ≠ "" → shown.diff = some text
  truncated : detail.truncated = true → shown.truncated = true

structure Carries (call : ToolCall) (result : ToolCallResult) : Prop where
  streaming : call.streaming = false
  failure : ∀ reason, result.failure = some reason → call.failure = some reason
  detail : ∀ detail, result.detail = some detail → ∃ shown, call.detail = some shown ∧ Contains shown detail

section Calls

variable {call : ToolCall} {result : ToolCallResult}

lemma pick_of_nonempty (target : Option String) {text : String} (h : text ≠ "") :
    pick target (some text) = some text := by
  have hempty : ¬text.isEmpty = true := fun hempty => h (String.isEmpty_iff.mp hempty)
  exact if_neg hempty

lemma id_mergeToolCallDetail (detail : Option ToolCallDetail) (call : ToolCall) :
    (mergeToolCallDetail detail call).id = call.id := by
  cases detail <;> rfl

lemma contains_merged (detail : ToolCallDetail) (call : ToolCall) :
    ∃ shown, (mergeToolCallDetail (some detail) call).detail = some shown ∧ Contains shown detail := by
  refine ⟨_, rfl, ?_, ?_, ?_, ?_, ?_, ?_, ?_⟩
  · rintro text htext hne
    rw [htext, pick_of_nonempty _ hne]
  · rintro text htext hne
    rw [htext, pick_of_nonempty _ hne]
  · rintro text htext hne
    rw [htext, pick_of_nonempty _ hne]
  · rintro text htext hne
    rw [htext, pick_of_nonempty _ hne]
  · rintro code hcode
    rw [hcode, Option.some_or]
  · rintro text htext hne
    rw [htext, pick_of_nonempty _ hne]
  · rintro htruncated
    rw [htruncated, Bool.true_or]

lemma streaming_mergeToolCallDetail (detail : Option ToolCallDetail) (call : ToolCall) :
    (mergeToolCallDetail detail call).streaming = call.streaming ∧
    (mergeToolCallDetail detail call).failure = call.failure := by
  cases detail <;> exact ⟨rfl, rfl⟩

def ToolCall.settled (call : ToolCall) : ToolCall :=
  { call with streaming := false }

def endedCall (result : ToolCallResult) (call : ToolCall) : ToolCall :=
  mergeToolCallDetail result.detail
    { call with
      streaming := false
      failure := result.failure.or call.failure }

lemma carries_endedCall (result : ToolCallResult) (call : ToolCall) :
    Carries (endedCall result call) result where
  streaming := (streaming_mergeToolCallDetail _ _).1
  failure := by
    intro reason hreason
    refine (streaming_mergeToolCallDetail _ _).2.trans ?_
    dsimp only
    rw [hreason, Option.some_or]
  detail := by
    intro detail hdetail
    rw [endedCall, hdetail]
    exact contains_merged detail _

lemma Carries.settled (h : Carries call result) : Carries call.settled result :=
  ⟨rfl, h.failure, h.detail⟩

end Calls

lemma picks_toolCallOf (toolCallId : String) : Picks (toolCallOf toolCallId) ToolCall.id where
  commentary _ _ _ _ := rfl
  replaced incoming existing h := by
    cases incoming <;> cases existing <;> rfl
  same incoming existing h b hb := by
    cases incoming with
    | toolCall call =>
        cases existing with
        | toolCall call' =>
            simp only [ sameAnnotation, Annotation.kind, Annotation.id, beq_self_eq_true, Bool.true_and,
              beq_iff_eq] at h
            simp only [toolCallOf] at hb ⊢
            split at hb
            · next hid =>
                obtain rfl := Option.some.inj hb
                exact ⟨call', if_pos (h.trans hid), h⟩
            · cases hb
        | _ => cases h
    | _ => cases hb
  other incoming existing h hnone := by
    cases existing with
    | toolCall call' =>
        cases incoming with
        | toolCall call =>
            simp only [ sameAnnotation, Annotation.kind, Annotation.id, beq_self_eq_true, Bool.true_and,
              beq_iff_eq] at h
            simp only [toolCallOf, h] at hnone ⊢
            split at hnone
            · cases hnone
            · next hid => exact if_neg hid
        | _ => cases h
    | _ => rfl

lemma filterMap_edited (toolCallId : String) (f : ToolCall → ToolCall) (hid : ∀ call, (f call).id = call.id)
    (id : String) (annotations : List Annotation) :
    ((ItemEdit.toolCall id f).run annotations).filterMap (toolCallOf toolCallId) =
      if id = toolCallId then (annotations.filterMap (toolCallOf toolCallId)).modifyHead f
      else annotations.filterMap (toolCallOf toolCallId) := by
  dsimp only [ItemEdit.run, ItemEdit.toolCall]
  induction annotations with
  | nil => simp [modifyFirst]
  | cons item annotations ih =>
      rw [modifyFirst]
      cases item with
      | toolCall call =>
          by_cases hcall : call.id = id
          · by_cases hsame : id = toolCallId
            · simp [toolCallOf, hcall, hsame, hid]
            · simp [toolCallOf, hcall, hsame, hid]
          · have hother : ¬(call.id == id) = true := by simpa using hcall
            rw [if_neg hother]
            by_cases hsame : id = toolCallId
            · have hskip : ¬call.id = toolCallId := fun heq => hcall (heq.trans hsame.symm)
              rw [if_pos hsame] at ih ⊢
              simpa [toolCallOf, hskip] using ih
            · rw [if_neg hsame] at ih ⊢
              simp [List.filterMap_cons, ih]
      | _ =>
          rw [if_neg (by simp)]
          exact ih

namespace Projector

variable {projector : Projector} {event : TimelineEvent} {turnId toolCallId : String} {row : ℕ}

def toolCallKey : SessionEventKind → Option (String × String)
  | .turnToolCallStarted turn id .. | .turnToolCallDelta turn id _ | .turnToolCallCompleted turn id _
  | .turnToolCallUpdated turn id _ | .turnToolCallFailed turn id .. => some (turn.value, id)
  | _ => none

def callsAt (turnId toolCallId : String) (projector : Projector) (row : ℕ) : List ToolCall :=
  if projector.turnAt row = some turnId then projector.pickedAt (toolCallOf toolCallId) row else []

lemma turnAt_of_assistant (h : projector.frame.Assistant row turnId) :
    projector.turnAt row = some turnId := by
  obtain ⟨head, hhead, -, hturn⟩ := h
  rw [turnAt, hhead, Option.bind_some, hturn]

lemma turnAt_step (projector : Projector) (event : TimelineEvent) (h : row < projector.messages.length) :
    (projector.apply event).turnAt row = projector.turnAt row := by
  obtain ⟨more, hmore⟩ := Frame.heads_step (frame_apply projector event)
  rw [← frame_heads_length] at h
  rw [turnAt, ← hmore, List.getElem?_append_left h, turnAt]

lemma pickedAt_of_ge {β : Type} {pick : Annotation → Option β} (h : projector.messages.length ≤ row) :
    projector.pickedAt pick row = [] := by
  rw [pickedAt, annotationsAt, List.getElem?_eq_none h]
  rfl

lemma callsAt_of_picked {F : List ToolCall → List ToolCall} (hempty : F [] = [])
    (h : (projector.apply event).turnAt row = some turnId →
      (projector.apply event).pickedAt (toolCallOf toolCallId) row =
        F (projector.pickedAt (toolCallOf toolCallId) row)) :
    (projector.apply event).callsAt turnId toolCallId row = F (projector.callsAt turnId toolCallId row) := by
  unfold callsAt
  by_cases hturn : (projector.apply event).turnAt row = some turnId
  · rw [if_pos hturn, h hturn]
    by_cases hrow : row < projector.messages.length
    · rw [← turnAt_step projector event hrow, if_pos hturn]
    · rw [pickedAt_of_ge (Nat.le_of_not_lt hrow), ite_self]
  · rw [if_neg hturn]
    by_cases hrow : row < projector.messages.length
    · rw [← turnAt_step projector event hrow, if_neg hturn, hempty]
    · rw [pickedAt_of_ge (Nat.le_of_not_lt hrow), ite_self, hempty]

lemma turnAt_of_toolCall (hkept : projector.frame.WellKept) {id : String}
    (hkey : toolCallKey event.kind = some (turnId, id)) (hrow : row ∈ (projector.itemEdit event).1) :
    (projector.apply event).turnAt row = some turnId := by
  have hbucket : row ∈ (projector.assistantBuckets.lookup turnId).toList →
      (projector.apply event).turnAt row = some turnId := fun hmem => turnAt_of_assistant
    ((hkept.bucket turnId row (Option.mem_toList.mp hmem)).step (frame_apply projector event))
  obtain ⟨kind, occurredAt⟩ := event
  cases kind with
  | turnToolCallStarted turn toolCall action =>
      obtain ⟨rfl, rfl⟩ := Prod.mk.inj (Option.some.inj hkey)
      obtain ⟨turn', hloose, rfl⟩ := loose_of_added hrow (by simp [itemEdit, ItemEdit.getOrAdd, ItemEdit.run])
      have hturn : turn.value = turn' := by
        dsimp only [Frame.looseTurn] at hloose
        split at hloose
        · cases hloose
        · split at hloose
          · cases hloose
          · exact Option.some.inj hloose
      rw [hturn]
      exact turnAt_of_assistant (assistant_of_loose hkept hloose)
  | turnToolCallDelta turn toolCall content =>
      obtain ⟨rfl, rfl⟩ := Prod.mk.inj (Option.some.inj hkey)
      dsimp only [itemEdit] at hrow
      split at hrow
      · cases hrow
      · next hdone =>
          rw [List.mem_singleton.mp hrow]
          exact turnAt_of_assistant (assistant_of_loose hkept (if_neg hdone))
  | turnToolCallCompleted turn toolCall | turnToolCallUpdated turn toolCall
  | turnToolCallFailed turn toolCall =>
      obtain ⟨rfl, rfl⟩ := Prod.mk.inj (Option.some.inj hkey)
      exact hbucket hrow
  | _ => cases hkey

lemma toolCallOf_setStreaming (toolCallId : String) (item : Annotation) :
    toolCallOf toolCallId (item.setStreaming false) = (toolCallOf toolCallId item).map ToolCall.settled := by
  cases item with
  | toolCall call =>
      by_cases hid : call.id = toolCallId <;>
        simp [ Annotation.setStreaming, toolCallOf, hid, ToolCall.settled]
  | _ => rfl

lemma callsAt_other (hkept : projector.frame.WellKept)
    (hkey : toolCallKey event.kind ≠ some (turnId, toolCallId)) (row : ℕ) :
    (projector.apply event).callsAt turnId toolCallId row =
      if row ∈ projector.endedRows event.kind then
        (projector.callsAt turnId toolCallId row).map ToolCall.settled
      else projector.callsAt turnId toolCallId row := by
  have hleaves : (projector.itemEdit event).2.Leaves (toolCallOf toolCallId) →
      (projector.apply event).callsAt turnId toolCallId row =
        projector.callsAt turnId toolCallId row :=
    fun hleaves => @callsAt_of_picked projector event turnId toolCallId row id rfl fun _ =>
      pickedAt_of_leaves hkept hleaves row
  have hended : projector.itemEdit event =
      (projector.endedRows event.kind, .every ( Annotation.setStreaming false)) →
      (projector.apply event).callsAt turnId toolCallId row =
        if row ∈ projector.endedRows event.kind then
          (projector.callsAt turnId toolCallId row).map ToolCall.settled
        else projector.callsAt turnId toolCallId row := by
    intro hedit
    refine @callsAt_of_picked projector event turnId toolCallId row (fun calls =>
      if row ∈ projector.endedRows event.kind then calls.map ToolCall.settled else calls) ?_ fun _ => ?_
    · simp
    · exact pickedAt_of_every hkept hedit (toolCallOf_setStreaming toolCallId) row
  have hedited : ∀ (id : String) (f : ToolCall → ToolCall), (∀ call, (f call).id = call.id) →
      (projector.itemEdit event).2 = .toolCall id f →
      (id = toolCallId → row ∉ (projector.itemEdit event).1 ∨
        (projector.apply event).turnAt row ≠ some turnId) →
      (projector.apply event).callsAt turnId toolCallId row =
        projector.callsAt turnId toolCallId row := by
    intro id f hid hedit hother
    refine @callsAt_of_picked projector event turnId toolCallId row (fun calls => calls) rfl fun hturn => ?_
    rw [pickedAt, annotationsAt_apply hkept, editedAt, hedit]
    by_cases hsame : id = toolCallId
    · rw [if_neg ((hother hsame).resolve_right (not_not_intro hturn)), pickedAt]
    · split
      · rw [filterMap_edited toolCallId f hid, if_neg hsame, pickedAt]
      · rfl
  have haway : ∀ turn id, toolCallKey event.kind = some (turn, id) → id = toolCallId →
      row ∉ (projector.itemEdit event).1 ∨ (projector.apply event).turnAt row ≠ some turnId := by
    rintro turn id hevent rfl
    by_cases hrow : row ∈ (projector.itemEdit event).1
    · refine .inr fun hturn => hkey ?_
      rw [turnAt_of_toolCall hkept hevent hrow] at hturn
      rw [hevent, Option.some.inj hturn]
    · exact .inl hrow
  have hnot : row ∉ ([] : List ℕ) := List.not_mem_nil
  obtain ⟨kind, occurredAt⟩ := event
  cases kind with
  | turnCompleted turn => exact hended rfl
  | turnAborted turn reason => exact hended rfl
  | turnToolCallStarted turn id action =>
      refine (Eq.trans ?_ (if_neg hnot).symm)
      by_cases hsame : id = toolCallId
      · refine @callsAt_of_picked projector _ turnId toolCallId row (fun calls => calls) rfl fun hturn => ?_
        rw [pickedAt, annotationsAt_apply hkept, editedAt,
          if_neg ((haway turn.value id rfl hsame).resolve_right (not_not_intro hturn)), pickedAt]
      · refine hleaves ⟨fun _ => rfl, ?_⟩
        exact if_neg hsame
  | turnToolCallDelta turn id content =>
      refine (hedited id _ (fun call => ?_) rfl (haway turn.value id rfl)).trans (if_neg hnot).symm
      rfl
  | turnToolCallCompleted turn id detail | turnToolCallFailed turn id reason detail =>
      refine (hedited id _ (fun call => ?_) rfl (haway turn.value id rfl)).trans (if_neg hnot).symm
      exact id_mergeToolCallDetail detail _
  | turnToolCallUpdated turn id detail =>
      refine (hedited id _ (fun call => ?_) rfl (haway turn.value id rfl)).trans (if_neg hnot).symm
      exact id_mergeToolCallDetail (some detail) call
  | turnReasoningStarted | turnUserInputRequested | turnPermissionRequested =>
      exact (hleaves ⟨fun _ => rfl, rfl⟩).trans (if_neg hnot).symm
  | turnReasoningDelta | turnNativeSubagentActivity =>
      refine (hleaves ⟨fun item => ?_, rfl⟩).trans (if_neg hnot).symm
      cases item <;> rfl
  | turnReasoningCompleted | turnNativeSubagentModelRequested | turnNativeSubagentModelConfirmed =>
      refine (hleaves fun item => ?_).trans (if_neg hnot).symm
      cases item <;> rfl
  | turnUserInputResolved turn requestId answers =>
      refine (hleaves fun item => ?_).trans (if_neg hnot).symm
      cases item <;> try rfl
      dsimp only
      split <;> rfl
  | turnPermissionResolved turn requestId behavior =>
      refine (hleaves fun item => ?_).trans (if_neg hnot).symm
      cases item <;> try rfl
      dsimp only
      split <;> rfl
  | _ => exact (hleaves fun _ => rfl).trans (if_neg hnot).symm

lemma callsAt_edited (hkept : projector.frame.WellKept) {rows : List ℕ} {f : ToolCall → ToolCall}
    (hid : ∀ call, (f call).id = call.id)
    (hedit : projector.itemEdit event = (rows, .toolCall toolCallId f)) (row : ℕ) :
    (projector.apply event).callsAt turnId toolCallId row =
      if row ∈ rows then (projector.callsAt turnId toolCallId row).modifyHead f
      else projector.callsAt turnId toolCallId row := by
  refine @callsAt_of_picked projector event turnId toolCallId row (fun calls =>
    if row ∈ rows then calls.modifyHead f else calls) (by simp) fun _ => ?_
  rw [pickedAt, annotationsAt_apply hkept, editedAt, hedit]
  dsimp only
  split
  · rw [filterMap_edited toolCallId f hid, if_pos rfl, pickedAt]
  · rfl

structure Holds (projector : Projector) (turnId toolCallId : String) (row : ℕ) (calls : List ToolCall) :
    Prop where
  atMostOne : calls.length ≤ 1
  callsAt : ∀ other, projector.callsAt turnId toolCallId other = if other = row then calls else []

structure Quiet (projector : Projector) (turnId toolCallId : String) (kind : SessionEventKind) : Prop where
  ends : endsCall turnId toolCallId kind = false
  updates : updatesCall turnId toolCallId kind = false
  ended : (turnId, toolCallId) ∈ projector.completedToolCallItems

variable {calls : List ToolCall}

lemma map_eq_modifyHead (f : ToolCall → ToolCall) (h : calls.length ≤ 1) :
    calls.modifyHead f = calls.map f := by
  cases calls with
  | nil => rfl
  | cons call rest =>
      have hrest : rest = [] := by
        rw [List.length_cons] at h
        exact List.eq_nil_of_length_eq_zero (by omega)
      rw [hrest]
      rfl

lemma Holds.mapped {g : ToolCall → ToolCall} {projector' : Projector}
    (h : projector.Holds turnId toolCallId row calls)
    (hcalls : projector'.callsAt turnId toolCallId row =
      (projector.callsAt turnId toolCallId row).map g)
    (hrest : ∀ other, other ≠ row → projector.callsAt turnId toolCallId other = [] →
      projector'.callsAt turnId toolCallId other = []) :
    projector'.Holds turnId toolCallId row (calls.map g) where
  atMostOne := by
    rw [List.length_map]
    exact h.atMostOne
  callsAt other := by
    by_cases hrow : other = row
    · rw [hrow, if_pos rfl, hcalls, h.callsAt, if_pos rfl]
    · rw [if_neg hrow]
      exact hrest other hrow ((h.callsAt other).trans (if_neg hrow))

lemma Holds.edited (h : projector.Holds turnId toolCallId row calls) (hkept : projector.frame.WellKept)
    {rows : List ℕ} {f : ToolCall → ToolCall} (hid : ∀ call, (f call).id = call.id)
    (hedit : projector.itemEdit event = (rows, .toolCall toolCallId f)) :
    (projector.apply event).Holds turnId toolCallId row
      (calls.map (if row ∈ rows then f else fun call => call)) := by
  refine h.mapped ?_ fun other _ hnone => ?_
  · rw [callsAt_edited hkept hid hedit]
    split
    · refine map_eq_modifyHead f ?_
      rw [h.callsAt, if_pos rfl]
      exact h.atMostOne
    · exact (List.map_id _).symm
  · rw [callsAt_edited hkept hid hedit, hnone]
    split <;> rfl

lemma Holds.step (h : projector.Holds turnId toolCallId row calls) (hkept : projector.frame.WellKept)
    (hstarts : startsCall turnId toolCallId event.kind = false) :
    ∃ g, (projector.apply event).Holds turnId toolCallId row (calls.map g) ∧
      (projector.Quiet turnId toolCallId event.kind → ∀ call, g call = call ∨ g call = call.settled) := by
  by_cases hkey : toolCallKey event.kind = some (turnId, toolCallId)
  · obtain ⟨kind, occurredAt⟩ := event
    cases kind with
    | turnToolCallStarted turn id =>
        obtain ⟨hturn, hid⟩ := Prod.mk.inj (Option.some.inj hkey)
        simp [startsCall, hturn, hid] at hstarts
    | turnToolCallDelta turn id content =>
        obtain ⟨rfl, rfl⟩ := Prod.mk.inj (Option.some.inj hkey)
        refine ⟨_, h.edited hkept (fun call => ?_) rfl, fun hquiet call => .inl ?_⟩
        · rfl
        · rw [if_neg]
          rw [if_pos hquiet.ended]
          exact List.not_mem_nil
    | turnToolCallCompleted turn id detail | turnToolCallFailed turn id reason detail =>
        obtain ⟨rfl, rfl⟩ := Prod.mk.inj (Option.some.inj hkey)
        refine ⟨_, h.edited hkept (fun call => ?_) rfl, fun hquiet => ?_⟩
        · exact id_mergeToolCallDetail detail _
        · have hends := hquiet.ends
          simp [endsCall] at hends
    | turnToolCallUpdated turn id detail =>
        obtain ⟨rfl, rfl⟩ := Prod.mk.inj (Option.some.inj hkey)
        refine ⟨_, h.edited hkept (fun call => ?_) rfl, fun hquiet => ?_⟩
        · exact id_mergeToolCallDetail (some detail) call
        · have hupdates := hquiet.updates
          simp [updatesCall] at hupdates
    | _ => cases hkey
  · by_cases hended : row ∈ projector.endedRows event.kind
    · refine ⟨ToolCall.settled, h.mapped ?_ fun other _ hnone => ?_, fun _ call => .inr rfl⟩
      · rw [callsAt_other hkept hkey, if_pos hended]
      · rw [callsAt_other hkept hkey, hnone, List.map_nil, ite_self]
    · refine ⟨id, h.mapped ?_ fun other _ hnone => ?_, fun _ call => .inl rfl⟩
      · rw [callsAt_other hkept hkey, if_neg hended, List.map_id]
      · rw [callsAt_other hkept hkey, hnone, List.map_nil, ite_self]

lemma Holds.row_lt {call : ToolCall} (h : projector.Holds turnId toolCallId row [call]) :
    row < projector.messages.length := by
  by_contra hge
  have hcalls := (h.callsAt row).trans (if_pos rfl)
  rw [Projector.callsAt, pickedAt_of_ge (Nat.le_of_not_lt hge), ite_self] at hcalls
  cases hcalls

lemma Holds.bucket {call : ToolCall} (h : projector.Holds turnId toolCallId row [call])
    (hrow : projector.currentRow turnId = row) :
    projector.assistantBuckets.lookup turnId = some row := by
  have hlt := h.row_lt
  unfold currentRow at hrow
  cases hbucket : projector.assistantBuckets.lookup turnId with
  | some index =>
      rw [hbucket] at hrow
      exact congrArg some hrow
  | none =>
      rw [hbucket, Option.getD_none] at hrow
      omega

lemma Holds.started {turn : TurnId} {action : String} {command file : Option String}
    (h : projector.Holds turn.value toolCallId row []) (hkept : projector.frame.WellKept)
    (hkind : event.kind = .turnToolCallStarted turn toolCallId action command file)
    (hshown : isHiddenToolAction action = false)
    (hnew : (turn.value, toolCallId) ∉ projector.completedToolCallItems) :
    ∃ call, (projector.apply event).Holds turn.value toolCallId (projector.currentRow turn.value) [call] := by
  have hnone : ∀ other, projector.callsAt turn.value toolCallId other = [] :=
    fun other => (h.callsAt other).trans (ite_self _)
  have hrows : (projector.itemEdit event).1 = [projector.currentRow turn.value] := by
    rw [itemEdit, hkind]
    dsimp only
    rw [if_neg (by simp [hshown]), if_neg hnew]
  have hturn : (projector.apply event).turnAt (projector.currentRow turn.value) = some turn.value :=
    turnAt_of_toolCall hkept (by rw [hkind]; rfl) (by rw [hrows]; exact List.mem_singleton_self _)
  have hpicked : projector.pickedAt (toolCallOf toolCallId) (projector.currentRow turn.value) = [] := by
    by_cases hlt : projector.currentRow turn.value < projector.messages.length
    · rw [turnAt_step projector event hlt] at hturn
      have hcalls := hnone (projector.currentRow turn.value)
      rwa [Projector.callsAt, if_pos hturn] at hcalls
    · exact pickedAt_of_ge (Nat.le_of_not_lt hlt)
  have hfresh : ((projector.annotationsAt (projector.currentRow turn.value)).any fun item =>
      item.kind == .toolCall && item.id == toolCallId) = false := by
    rw [List.any_eq_false]
    intro item hitem hsame
    have hpick := List.filterMap_eq_nil_iff.mp hpicked item hitem
    cases item <;> simp_all [ Annotation.kind, Annotation.id, toolCallOf]
  let call : ToolCall := {
    id := toolCallId
    action := action
    command := command
    file := file
    content := ""
    detail := none
    streaming := true
    createdAt := some event.occurredAt
    failure := none }
  refine ⟨call, le_rfl, fun other => ?_⟩
  by_cases hother : other = projector.currentRow turn.value
  · rw [hother, if_pos rfl, Projector.callsAt, if_pos hturn, pickedAt, annotationsAt_apply hkept, editedAt,
      if_pos (by rw [hrows]; exact List.mem_singleton_self _), itemEdit, hkind]
    dsimp only [ItemEdit.getOrAdd, ItemEdit.run, Annotation.kind, Annotation.id]
    rw [if_neg (by rw [Bool.not_eq_true]; exact hfresh), List.filterMap_append, ← pickedAt, hpicked,
      List.nil_append]
    have hpick : toolCallOf toolCallId (.toolCall call) = some call := if_pos rfl
    exact List.filterMap_cons_some hpick
  · rw [if_neg hother]
    refine (@callsAt_of_picked projector event turn.value toolCallId other (fun calls => calls) rfl
      fun _ => ?_).trans (hnone other)
    rw [pickedAt, annotationsAt_apply hkept, editedAt, if_neg, pickedAt]
    rw [hrows, List.mem_singleton]
    exact hother

lemma Holds.ended {call : ToolCall} {result : ToolCallResult}
    (h : projector.Holds turnId toolCallId row [call]) (hkept : projector.frame.WellKept)
    (hresult : toolCallResult event.kind = some (turnId, toolCallId, result))
    (hrow : projector.currentRow turnId = row) :
    (projector.apply event).Holds turnId toolCallId row [endedCall result call] := by
  have hbucket := h.bucket hrow
  have hlisted : row ∈ (projector.assistantBuckets.lookup turnId).toList := by
    rw [hbucket]
    exact List.mem_singleton_self row
  have hedit : projector.itemEdit event = ((projector.assistantBuckets.lookup turnId).toList,
      .toolCall toolCallId (endedCall result)) := by
    obtain ⟨kind, occurredAt⟩ := event
    cases kind with
    | turnToolCallCompleted turn id detail | turnToolCallFailed turn id reason detail =>
        obtain ⟨rfl, hrest⟩ := Prod.mk.inj (Option.some.inj hresult)
        obtain ⟨rfl, rfl⟩ := Prod.mk.inj hrest
        rfl
    | _ => cases hresult
  have hid : ∀ call, (endedCall result call).id = call.id :=
    fun call => id_mergeToolCallDetail result.detail _
  have hedited := h.edited hkept hid hedit
  rwa [if_pos hlisted] at hedited

end Projector

section Runs

open Projector

variable {isAlphanumeric : Char → Bool} {sessionId turnId toolCallId : String} {row : ℕ}
  {calls : List ToolCall} {call : ToolCall} {result : ToolCallResult} {events later : List TimelineEvent}

lemma toolCallDone_eq (events : List TimelineEvent) (turnId toolCallId : String) :
    toolCallDone events turnId toolCallId = events.any fun event => endsCall turnId toolCallId event.kind := by
  refine congrArg (List.any events) (funext fun event => ?_)
  cases event.kind <;> rfl

lemma mem_completedToolCallItems (sessionId : String) (events : List TimelineEvent) :
    (turnId, toolCallId) ∈ (projectorAfter sessionId events).completedToolCallItems ↔
      (events.any fun event => endsCall turnId toolCallId event.kind) = true := by
  rw [← toolCallDone_eq]
  exact (shaped_projectorAfter sessionId events).1.toolCalls turnId toolCallId

lemma holds_new : (projectorAfter sessionId []).Holds turnId toolCallId row [] where
  atMostOne := Nat.zero_le 1
  callsAt other := by
    have hnone : (projectorAfter sessionId []).pickedAt (toolCallOf toolCallId) other = [] :=
      pickedAt_of_ge (Nat.zero_le other)
    rw [ite_self, Projector.callsAt, hnone, ite_self]

theorem holds_run (h : (projectorAfter sessionId events).Holds turnId toolCallId row calls)
    (hstarts : ∀ event ∈ later, startsCall turnId toolCallId event.kind = false) :
    ∃ g, (projectorAfter sessionId (events ++ later)).Holds turnId toolCallId row (calls.map g) := by
  induction later using List.reverseRecOn with
  | nil =>
      refine ⟨id, ?_⟩
      rwa [List.append_nil, List.map_id]
  | append_singleton later event ih =>
      obtain ⟨g, hheld⟩ := ih fun event hevent => hstarts event (List.mem_append_left _ hevent)
      obtain ⟨g', hstep, -⟩ := hheld.step (wellKept_projectorAfter sessionId _)
        (hstarts event (List.mem_append_right _ (List.mem_singleton_self event)))
      refine ⟨g' ∘ g, ?_⟩
      rwa [← List.append_assoc, projectorAfter_append, ← List.map_map]

theorem carried_run (h : (projectorAfter sessionId events).Holds turnId toolCallId row [call])
    (hcarries : Carries call result)
    (hended : (events.any fun event => endsCall turnId toolCallId event.kind) = true)
    (hlater : ∀ event ∈ later, startsCall turnId toolCallId event.kind = false ∧
      endsCall turnId toolCallId event.kind = false ∧ updatesCall turnId toolCallId event.kind = false) :
    ∃ call', (projectorAfter sessionId (events ++ later)).Holds turnId toolCallId row [call'] ∧
      Carries call' result := by
  induction later using List.reverseRecOn with
  | nil =>
      refine ⟨call, ?_, hcarries⟩
      rwa [List.append_nil]
  | append_singleton later event ih =>
      obtain ⟨call', hheld, hcarries'⟩ := ih fun event hevent =>
        hlater event (List.mem_append_left _ hevent)
      obtain ⟨hstarts, hends, hupdates⟩ :=
        hlater event (List.mem_append_right _ (List.mem_singleton_self event))
      obtain ⟨g, hstep, hquiet⟩ := hheld.step (wellKept_projectorAfter sessionId _) hstarts
      have hdone : (turnId, toolCallId) ∈
          (projectorAfter sessionId (events ++ later)).completedToolCallItems := by
        rw [mem_completedToolCallItems, List.any_append, hended, Bool.true_or]
      refine ⟨g call', ?_, ?_⟩
      · rwa [← List.append_assoc, projectorAfter_append]
      · rcases hquiet ⟨hends, hupdates, hdone⟩ call' with hsame | hsettled
        · rwa [hsame]
        · rw [hsettled]
          exact hcarries'.settled

lemma flatMap_only {rows : List ℕ} (h : rows.Nodup) (row : ℕ) (call : ToolCall) :
    (rows.flatMap fun other => if other = row then [call] else []) = if row ∈ rows then [call] else [] := by
  induction rows with
  | nil => simp
  | cons other rows ih =>
      obtain ⟨hother, hrest⟩ := List.nodup_cons.mp h
      rw [List.flatMap_cons, ih hrest]
      by_cases hrow : other = row
      · subst hrow
        simp [hother]
      · simp [hrow, Ne.symm hrow]

lemma toolCallsOf_held (h : (projectorAfter sessionId events).Holds turnId toolCallId row [call]) :
    toolCallsOf turnId toolCallId ((projectorAfter sessionId events).finish isAlphanumeric) = [call] := by
  have hkept := wellKept_projectorAfter sessionId events
  have hlisted : ((projectorAfter sessionId events).frame.rows turnId).flatMap
      ((projectorAfter sessionId events).pickedAt (toolCallOf toolCallId)) =
      ((projectorAfter sessionId events).frame.rows turnId).flatMap fun other =>
        if other = row then [call] else [] := by
    refine List.flatMap_congr fun other hother => ?_
    rw [← h.callsAt other, callsAt, if_pos (turnAt_of_assistant (hkept.listed turnId other hother))]
  have hnodup : ((((projectorAfter sessionId events).frame.rows turnId).flatMap
      ((projectorAfter sessionId events).pickedAt (toolCallOf toolCallId))).map ToolCall.id).Nodup := by
    rw [hlisted, flatMap_only ((hkept.sorted turnId).imp fun hlt => ne_of_lt hlt)]
    split <;> simp
  rw [toolCallsOf, finish_picked_turn (picks_toolCallOf toolCallId) hkept
    (annotatedAssistant_projectorAfter sessionId events) turnId hnodup]
  have hcalls : ∀ other, (if (projectorAfter sessionId events).turnAt other = some turnId then
      (projectorAfter sessionId events).pickedAt (toolCallOf toolCallId) other else []) =
      if other = row then [call] else [] := h.callsAt
  simp only [hcalls]
  rw [flatMap_only (shownOrder_nodup hkept), if_pos (mem_shownOrder hkept h.row_lt)]

lemma marks_of_records {p : SessionEventKind → Bool} {records : List SessionEventRecord}
    (hdelta : ∀ kind, (deltaTarget kind).isSome → p kind = false)
    (h : ∀ record ∈ records, p record.kind = false) :
    ∀ event ∈ joinDeltas records, p event.kind = false := by
  have hmark : ∀ kind, (deltaTarget kind).isSome → (Option.guard p kind) = none := by
    intro kind hkind
    simp [Option.guard, hdelta kind hkind]
  have hnone : (joinDeltas records).filterMap (fun event => Option.guard p event.kind) = [] := by
    rw [filterMap_joinDeltas hmark, List.filterMap_eq_nil_iff]
    intro record hrecord
    simp [Option.guard, h record hrecord]
  intro event hevent
  simpa [Option.guard] using List.filterMap_eq_nil_iff.mp hnone event hevent

lemma not_startsCall_of_delta (turnId toolCallId : String) {kind : SessionEventKind}
    (h : (deltaTarget kind).isSome) : startsCall turnId toolCallId kind = false := by
  cases kind <;> first | rfl | cases h

lemma not_endsCall_of_delta (turnId toolCallId : String) {kind : SessionEventKind}
    (h : (deltaTarget kind).isSome) : endsCall turnId toolCallId kind = false := by
  cases kind <;> first | rfl | cases h

lemma not_updatesCall_of_delta (turnId toolCallId : String) {kind : SessionEventKind}
    (h : (deltaTarget kind).isSome) : updatesCall turnId toolCallId kind = false := by
  cases kind <;> first | rfl | cases h

lemma of_toolCallResult {kind : SessionEventKind} {turnId toolCallId : String} {result : ToolCallResult}
    (h : toolCallResult kind = some (turnId, toolCallId, result)) :
    deltaTarget kind = none ∧ endsCall turnId toolCallId kind = true ∧
      startsCall turnId toolCallId kind = false := by
  cases kind <;> simp_all [toolCallResult, deltaTarget, endsCall, startsCall]

theorem tool_result_reaches_call (isAlphanumeric : Char → Bool) {log : List SessionEventRecord}
    {sessionId : String} {before between after : List SessionEventRecord}
    {start terminal : SessionEventRecord} {turnId : TurnId} {toolCallId action : String}
    {command file : Option String} {result : ToolCallResult}
    (hlog : visibleSessionEvents (log.filter fun record => record.sessionId.value = sessionId) =
      before ++ start :: (between ++ terminal :: after))
    (hstart : start.kind = .turnToolCallStarted turnId toolCallId action command file)
    (hshown : isHiddenToolAction action = false)
    (hterminal : toolCallResult terminal.kind = some (turnId.value, toolCallId, result))
    (honce : ∀ record ∈ before ++ (between ++ after),
      startsCall turnId.value toolCallId record.kind = false ∧
      endsCall turnId.value toolCallId record.kind = false)
    (hupdates : ∀ record ∈ after, updatesCall turnId.value toolCallId record.kind = false)
    (hrow : (projectorAfter sessionId (joinDeltas (before ++ start :: between))).currentRow turnId.value =
      (projectorAfter sessionId (joinDeltas before)).currentRow turnId.value) :
    ∃ call, toolCallsOf turnId.value toolCallId (projectSession isAlphanumeric log sessionId) = [call] ∧
      Carries call result := by
  have hstartDelta : deltaTarget start.kind = none := by rw [hstart]; rfl
  have hendDelta := of_toolCallResult hterminal
  have hstarts : ∀ records, (∀ record ∈ records, record ∈ before ++ (between ++ after)) →
      ∀ event ∈ joinDeltas records, startsCall turnId.value toolCallId event.kind = false :=
    fun records hmem => marks_of_records (fun kind => not_startsCall_of_delta turnId.value toolCallId)
      fun record hrecord => (honce record (hmem record hrecord)).1
  have hends : ∀ records, (∀ record ∈ records, record ∈ before ++ (between ++ after)) →
      ∀ event ∈ joinDeltas records, endsCall turnId.value toolCallId event.kind = false :=
    fun records hmem => marks_of_records (fun kind => not_endsCall_of_delta turnId.value toolCallId)
      fun record hrecord => (honce record (hmem record hrecord)).2
  have hupdated : ∀ event ∈ joinDeltas after, updatesCall turnId.value toolCallId event.kind = false :=
    marks_of_records (fun kind => not_updatesCall_of_delta turnId.value toolCallId) hupdates
  have hbefore : ∀ record ∈ before, record ∈ before ++ (between ++ after) :=
    fun record hrecord => List.mem_append_left _ hrecord
  have hbetween : ∀ record ∈ between, record ∈ before ++ (between ++ after) :=
    fun record hrecord => List.mem_append_right _ (List.mem_append_left _ hrecord)
  have hafter : ∀ record ∈ after, record ∈ before ++ (between ++ after) :=
    fun record hrecord => List.mem_append_right _ (List.mem_append_right _ hrecord)
  have htimeline : timeline log sessionId =
      ((joinDeltas before ++ [⟨start.kind, start.occurredAt⟩] ++ joinDeltas between) ++
        [⟨terminal.kind, terminal.occurredAt⟩]) ++ joinDeltas after := by
    rw [timeline, hlog, joinDeltas_append hstartDelta, joinDeltas_append hendDelta.1]
    simp
  rw [joinDeltas_append hstartDelta, List.append_cons] at hrow
  obtain ⟨g, hnone⟩ := @holds_run sessionId turnId.value toolCallId 0 [] [] (joinDeltas before) holds_new
    (hstarts before hbefore)
  rw [List.nil_append, List.map_nil] at hnone
  have hnew : (turnId.value, toolCallId) ∉
      (projectorAfter sessionId (joinDeltas before)).completedToolCallItems := by
    rw [mem_completedToolCallItems, Bool.not_eq_true, List.any_eq_false]
    exact fun event hevent => Bool.not_eq_true _ ▸ hends before hbefore event hevent
  obtain ⟨call, hstarted⟩ := @Holds.started _ ⟨start.kind, start.occurredAt⟩ _ _ _ _ _ _ hnone
    (wellKept_projectorAfter sessionId _) hstart hshown hnew
  rw [← projectorAfter_append] at hstarted
  obtain ⟨g', hheld⟩ := holds_run hstarted (hstarts between hbetween)
  have hended := @Holds.ended _ ⟨terminal.kind, terminal.occurredAt⟩ _ _ _ _ _ hheld
    (wellKept_projectorAfter sessionId _) hterminal hrow
  rw [← projectorAfter_append] at hended
  obtain ⟨call', hcall, hcarries⟩ := carried_run hended (carries_endedCall result (g' call))
    (by rw [List.any_append]; simp [hendDelta.2.1])
    (fun event hevent => ⟨hstarts after hafter event hevent, hends after hafter event hevent,
      hupdated event hevent⟩)
  refine ⟨call', ?_, hcarries⟩
  rw [← htimeline] at hcall
  exact toolCallsOf_held hcall

end Runs

section CallLogs

def callEvent (kind : SessionEventKind) : SessionEventRecord where
  eventId := "event"
  sessionId := ⟨"s"⟩
  sequence := 1
  occurredAt := "2026-10-07T10:00:00Z"
  kind := kind

def begunEvent (turnId : String) : SessionEventRecord :=
  callEvent (.turnStarted ⟨turnId⟩ "fix it" none none none none none)

def calledEvent : SessionEventRecord :=
  callEvent (.turnToolCallStarted ⟨"t"⟩ "c" "Read" none (some "a.rs"))

def failedEvent : SessionEventRecord :=
  callEvent (.turnToolCallFailed ⟨"t"⟩ "c" (some "no such file")
    (some ⟨none, none, none, some "out", some 1, none, true⟩))

def failedCallLog : List SessionEventRecord :=
  [begunEvent "t", calledEvent, callEvent (.turnDelta ⟨"t"⟩ "reading"), failedEvent,
    callEvent (.turnCompleted ⟨"t"⟩)]

theorem tool_result_reaches_call_demo :
    ∃ call, toolCallsOf "t" "c" (projectSession Char.isAlphanum failedCallLog "s") = [call] ∧
      Carries call ⟨some "no such file", some ⟨none, none, none, some "out", some 1, none, true⟩⟩ :=
  @tool_result_reaches_call Char.isAlphanum failedCallLog "s"
    [begunEvent "t"] [callEvent (.turnDelta ⟨"t"⟩ "reading")] [callEvent (.turnCompleted ⟨"t"⟩)] calledEvent failedEvent ⟨"t"⟩
    "c" "Read" none (some "a.rs") _ (by decide) rfl (by decide) rfl (by decide) (by decide) (by decide)

def shownCalls (toolCallId : String) (messages : List TimelineMessage) : List ToolCall :=
  messages.flatMap fun message => message.annotations.filterMap (toolCallOf toolCallId)

theorem tool_result_misses_call :
    shownCalls "c" (projectSession Char.isAlphanum [begunEvent "t", calledEvent, failedEvent,
      callEvent (.conversationRewound ⟨"t"⟩ [⟨"t"⟩] .native [])] "s") = [] ∧
    (shownCalls "c" (projectSession Char.isAlphanum [begunEvent "t", calledEvent,
      callEvent (.turnAssistantMessageStarted ⟨"t"⟩ "m" .commentary), failedEvent] "s")).map
      (fun call => (call.streaming, call.failure, call.detail)) = [(true, none, none)] ∧
    (shownCalls "c" (projectSession Char.isAlphanum [begunEvent "t", calledEvent, failedEvent,
      begunEvent "u", callEvent (.turnToolCallStarted ⟨"u"⟩ "c" "Read" none none)] "s")).length = 2 ∧
    (shownCalls "c" (projectSession Char.isAlphanum [begunEvent "t", calledEvent, failedEvent,
      callEvent (.turnToolCallUpdated ⟨"t"⟩ "c" ⟨none, none, none, some "more", none, none, false⟩)]
        "s")).map (fun call => call.detail.bind ToolCallDetail.output) = [some "more"] :=
  ⟨by decide, by decide, by decide, by decide⟩

end CallLogs
end DevCommandCenter.Timeline
