import DevCommandCenter.Library.Grouping
import DevCommandCenter.Timeline.ShownItems

/-! The permission requests that a conversation shows as waiting, and those that do wait. -/

namespace DevCommandCenter.Timeline

open Library

def notePending (state : List String × List Annotation) ( annotation : Annotation) :
    List String × List Annotation :=
  match annotation with
  | .approval id _ _ _ _ _ behavior true _ =>
      if behavior.any (fun behavior => !behavior.isEmpty) || decide (id ∈ state.1) then state
      else (state.1 ++ [id], state.2 ++ [ annotation])
  | _ => state

def pendingPermissionRequests (messages : List TimelineMessage) : List Annotation :=
  (messages.foldl (fun state message => message.annotations.foldl notePending state) ([], [])).2

def closesRequest (turnId requestId : String) : SessionEventKind → Bool
  | .turnPermissionResolved _ id _ => id = requestId
  | .turnCompleted turn | .turnAborted turn _ => turn.value = turnId
  | _ => false

/-- The requests that nothing later closes, in the order of the requests. -/
def openRequests : List SessionEventKind → List String
  | [] => []
  | .turnPermissionRequested turnId id .. :: later =>
      if later.any (closesRequest turnId.value id) then openRequests later
      else id :: openRequests later
  | _ :: later => openRequests later

def permissionRequest : SessionEventKind → Option (String × String)
  | .turnPermissionRequested turnId id .. => some (turnId.value, id)
  | _ => none

def requestIds (kinds : List SessionEventKind) : List String :=
  kinds.filterMap fun kind => (permissionRequest kind).map Prod.snd

def approvalOf : Annotation → Option (String × Bool)
  | .approval id _ _ _ _ _ behavior streaming _ =>
      some (id, streaming && !behavior.any fun behavior => !behavior.isEmpty)
  | _ => none

lemma picks_approvalOf : Picks approvalOf Prod.fst where
  commentary _ _ _ _ := rfl
  replaced incoming existing h := by
    cases incoming <;> cases existing <;> rfl
  same incoming existing h b hb := by
    cases incoming <;> cases hb
    cases existing <;> simp_all [ sameAnnotation, Annotation.kind, approvalOf, Annotation.id]
  other incoming existing h hnone := by
    cases existing <;> first | rfl | skip
    cases incoming <;> simp_all [ sameAnnotation, Annotation.kind, approvalOf]

section Pending

lemma pending_ids (annotations : List Annotation)
    (hnodup : ((annotations.filterMap approvalOf).map Prod.fst).Nodup) :
    (annotations.foldl notePending ([], [])).1 =
      ((annotations.filterMap approvalOf).filter Prod.snd).map Prod.fst ∧
    (annotations.foldl notePending ([], [])).2.map Annotation.id =
      ((annotations.filterMap approvalOf).filter Prod.snd).map Prod.fst := by
  induction annotations using List.reverseRecOn with
  | nil => exact ⟨rfl, rfl⟩
  | append_singleton annotations annotation ih =>
      rw [List.filterMap_append, List.map_append] at hnodup
      obtain ⟨hbefore, -, hdisjoint⟩ := List.nodup_append.mp hnodup
      obtain ⟨hseen, hpending⟩ := ih hbefore
      rw [List.foldl_append, List.foldl_cons, List.foldl_nil, List.filterMap_append,
        List.filter_append, List.map_append]
      generalize annotations.foldl notePending ([], []) = state at hseen hpending
      cases annotation with
      | approval id toolName title description command file behavior streaming createdAt =>
          cases streaming with
          | false => simp [notePending, approvalOf, hseen, hpending]
          | true =>
              have hnew : id ∉ state.1 := by
                rw [hseen]
                intro hmem
                obtain ⟨entry, hentry, rfl⟩ := List.mem_map.mp hmem
                refine hdisjoint entry.1 (List.mem_map_of_mem (List.mem_filter.mp hentry).1) entry.1 ?_ rfl
                exact List.mem_singleton_self _
              cases hanswered : behavior.any fun behavior => !behavior.isEmpty with
              | true => simp [notePending, approvalOf, hseen, hpending, hanswered]
              | false =>
                  have hnoted : notePending state (.approval id toolName title description command file
                      behavior true createdAt) = (state.1 ++ [id], state.2 ++ [.approval id toolName
                        title description command file behavior true createdAt]) := by
                    simp [notePending, hanswered, hnew]
                  rw [hnoted]
                  simp [approvalOf, hseen, hpending, hanswered, Annotation.id]
      | _ => simp [notePending, approvalOf, hseen, hpending]

lemma pendingPermissionRequests_eq (messages : List TimelineMessage) :
    pendingPermissionRequests messages =
      ((messages.flatMap TimelineMessage.annotations).foldl notePending ([], [])).2 := by
  rw [pendingPermissionRequests, List.foldl_flatMap]

end Pending

namespace Projector

variable {projector : Projector} {row : ℕ}

/-- The event reaches the request where it is shown: an answer only in the turn's current row, an end in
the rows that it ends. -/
def closesInPlace (projector : Projector) (row : ℕ) (requestId : String) : SessionEventKind → Bool
  | .turnPermissionResolved turnId id _ =>
      id = requestId ∧ projector.assistantBuckets.lookup turnId.value = some row
  | kind => row ∈ projector.endedRows kind

def closedLater (projector : Projector) (row : ℕ) (requestId : String) : List TimelineEvent → Bool
  | [] => false
  | event :: later =>
      projector.closesInPlace row requestId event.kind ||
        closedLater (projector.apply event) row requestId later

structure Asked where
  id : String
  row : ℕ
  pending : Bool
  deriving DecidableEq, Repr

def askedFrom (projector : Projector) : List TimelineEvent → List Asked
  | [] => []
  | event :: later =>
      (match event.kind with
        | .turnPermissionRequested turnId id .. =>
            [⟨id, projector.currentRow turnId.value,
              !closedLater (projector.apply event) (projector.currentRow turnId.value) id later⟩]
        | _ => []) ++ askedFrom (projector.apply event) later

def Asked.after (projector : Projector) (kind : SessionEventKind) (asked : Asked) : Asked :=
  if projector.closesInPlace asked.row asked.id kind then { asked with pending := false } else asked

def askedBy (projector : Projector) : SessionEventKind → List Asked
  | .turnPermissionRequested turnId id .. => [⟨id, projector.currentRow turnId.value, true⟩]
  | _ => []

lemma closedLater_append (projector : Projector) (row : ℕ) (requestId : String)
    (events : List TimelineEvent) (event : TimelineEvent) :
    projector.closedLater row requestId (events ++ [event]) =
      (projector.closedLater row requestId events ||
        (events.foldl apply projector).closesInPlace row requestId event.kind) := by
  induction events generalizing projector with
  | nil => simp [closedLater]
  | cons first events ih =>
      rw [List.cons_append, closedLater, ih, closedLater, List.foldl_cons, Bool.or_assoc]

lemma askedFrom_append (projector : Projector) (events : List TimelineEvent) (event : TimelineEvent) :
    projector.askedFrom (events ++ [event]) =
      (projector.askedFrom events).map (Asked.after (events.foldl apply projector) event.kind) ++
        (events.foldl apply projector).askedBy event.kind := by
  induction events generalizing projector with
  | nil =>
      cases hkind : event.kind <;> simp [askedFrom, askedBy, closedLater, hkind]
  | cons first events ih =>
      rw [List.cons_append, askedFrom, ih, askedFrom, List.foldl_cons, List.map_append,
        List.append_assoc]
      congr 1
      cases first.kind <;> try rfl
      rename_i turnId id _ _ _ _ _
      simp only [closedLater_append, List.map_cons, List.map_nil, Asked.after]
      split
      · next hcloses => simp [hcloses]
      · next hopen => simp [hopen]

section Steps

variable {event : TimelineEvent}

def Asked.shown (asked : Asked) : String × Bool :=
  (asked.id, asked.pending)

lemma approvalOf_setStreaming (item : Annotation) :
    approvalOf (item.setStreaming false) = (approvalOf item).map fun entry => (entry.1, false) := by
  cases item <;> rfl

lemma pickedAt_ended (hkept : projector.frame.WellKept)
    (hedit : projector.itemEdit event =
      (projector.endedRows event.kind, .every ( Annotation.setStreaming false)))
    (hcloses : ∀ id, projector.closesInPlace row id event.kind =
      decide (row ∈ projector.endedRows event.kind)) :
    (projector.apply event).pickedAt approvalOf row =
      (projector.pickedAt approvalOf row).map fun entry =>
        if projector.closesInPlace row entry.1 event.kind then (entry.1, false) else entry := by
  rw [pickedAt_of_every hkept hedit approvalOf_setStreaming]
  simp only [hcloses, decide_eq_true_eq]
  split
  · rfl
  · exact (List.map_id _).symm

lemma pickedAt_apply (hkept : projector.frame.WellKept)
    (hnone : projector.askedBy event.kind = []) (row : ℕ) :
    (projector.apply event).pickedAt approvalOf row =
      (projector.pickedAt approvalOf row).map fun entry =>
        if projector.closesInPlace row entry.1 event.kind then (entry.1, false) else entry := by
  have hleaves : (projector.itemEdit event).2.Leaves approvalOf →
      (∀ id, projector.closesInPlace row id event.kind = false) →
      (projector.apply event).pickedAt approvalOf row =
        (projector.pickedAt approvalOf row).map fun entry =>
          if projector.closesInPlace row entry.1 event.kind then (entry.1, false) else entry := by
    intro hleaves hcloses
    rw [pickedAt_of_leaves hkept hleaves]
    simp only [hcloses, Bool.false_eq_true, if_false]
    exact (List.map_id _).symm
  obtain ⟨kind, occurredAt⟩ := event
  cases kind with
  | turnPermissionRequested => cases hnone
  | turnPermissionResolved turnId requestId behavior =>
      have hanswered : ∀ item : Annotation, approvalOf
          (match item with
            | .approval id toolName title description command file stored streaming createdAt =>
                if id = requestId then
                  .approval id toolName title description command file (some behavior) false
                    (createdAt.or (some occurredAt))
                else
                  .approval id toolName title description command file stored streaming createdAt
            | item => item) =
          (approvalOf item).map fun entry =>
            if requestId = entry.1 then (entry.1, false) else entry := by
        intro item
        cases item with
        | approval id =>
            by_cases hid : id = requestId
            · simp [approvalOf, hid]
            · simp [approvalOf, hid, Ne.symm hid]
        | _ => rfl
      rw [pickedAt_of_every hkept rfl hanswered]
      split
      · next hrow =>
          rw [Option.mem_toList] at hrow
          simp only [closesInPlace, hrow, and_true, decide_eq_true_eq]
      · next hrow =>
          rw [Option.mem_toList] at hrow
          simp only [closesInPlace, hrow, and_false, decide_false, Bool.false_eq_true, if_false]
          exact (List.map_id _).symm
  | turnCompleted turnId => exact pickedAt_ended hkept rfl fun _ => rfl
  | turnAborted turnId reason => exact pickedAt_ended hkept rfl fun _ => rfl
  | turnReasoningStarted | turnToolCallStarted | turnUserInputRequested =>
      exact hleaves ⟨fun _ => rfl, rfl⟩ fun _ => rfl
  | turnReasoningDelta | turnNativeSubagentActivity =>
      refine hleaves ⟨fun item => ?_, rfl⟩ fun _ => rfl
      cases item <;> rfl
  | turnReasoningCompleted | turnToolCallDelta | turnToolCallCompleted | turnToolCallUpdated
  | turnToolCallFailed | turnNativeSubagentModelRequested | turnNativeSubagentModelConfirmed =>
      refine hleaves (fun item => ?_) fun _ => rfl
      cases item <;> rfl
  | turnUserInputResolved turnId requestId answers =>
      refine hleaves (fun item => ?_) fun _ => rfl
      cases item <;> try rfl
      dsimp only
      split <;> rfl
  | _ => exact hleaves (fun _ => rfl) fun _ => rfl

lemma pickedAt_requested (hkept : projector.frame.WellKept) {asked : Asked}
    (hasks : projector.askedBy event.kind = [asked])
    (hnew : asked.id ∉ (projector.pickedAt approvalOf row).map Prod.fst) :
    (projector.apply event).pickedAt approvalOf row =
      if row = asked.row then projector.pickedAt approvalOf row ++ [asked.shown]
      else projector.pickedAt approvalOf row := by
  obtain ⟨kind, occurredAt⟩ := event
  cases kind with
  | turnPermissionRequested turnId requestId toolName title description command file =>
      obtain rfl := (List.singleton_inj.mp hasks).symm
      have hfresh : (projector.annotationsAt row).any (fun item =>
          item.kind == AnnotationKind.approval && item.id == requestId) = false := by
        rw [List.any_eq_false]
        intro item hitem hsame
        cases item <;> simp [ Annotation.kind] at hsame
        refine hnew (List.mem_map.mpr ⟨_, List.mem_filterMap.mpr ⟨_, hitem, rfl⟩, ?_⟩)
        exact hsame
      rw [pickedAt, annotationsAt_apply hkept, editedAt]
      dsimp only [itemEdit, ItemEdit.getOrAdd, ItemEdit.run]
      simp only [List.mem_singleton]
      split
      · rw [if_neg (by rw [Bool.not_eq_true]; exact hfresh), List.filterMap_append]
        rfl
      · rfl
  | _ => cases hasks

end Steps

end Projector

section Runs

variable {sessionId : String} {events : List TimelineEvent}

open Projector

lemma requestIds_append (kinds kinds' : List SessionEventKind) :
    requestIds (kinds ++ kinds') = requestIds kinds ++ requestIds kinds' :=
  List.filterMap_append ..

lemma askedBy_ids (projector : Projector) (kind : SessionEventKind) :
    (projector.askedBy kind).map Asked.id = requestIds [kind] := by
  cases kind <;> rfl

lemma askedFrom_ids (projector : Projector) (events : List TimelineEvent) :
    (projector.askedFrom events).map Asked.id = requestIds (events.map TimelineEvent.kind) := by
  induction events generalizing projector with
  | nil => rfl
  | cons event events ih =>
      rw [askedFrom, List.map_append, ih, List.map_cons, ← List.singleton_append, requestIds_append]
      congr 1
      cases event.kind <;> rfl

def ShowsAsked (projector : Projector) (asked : List Asked) : Prop :=
  ∀ row, projector.pickedAt approvalOf row =
    (asked.filter fun request => request.row = row).map Asked.shown

lemma after_row (projector : Projector) (kind : SessionEventKind) (asked : Asked) :
    (asked.after projector kind).row = asked.row := by
  unfold Asked.after
  split <;> rfl

lemma after_shown (projector : Projector) (kind : SessionEventKind) (asked : Asked) :
    (asked.after projector kind).shown =
      if projector.closesInPlace asked.row asked.id kind then (asked.id, false) else asked.shown := by
  unfold Asked.after
  split <;> rfl

lemma filter_after (projector : Projector) (kind : SessionEventKind) (asked : List Asked) (row : ℕ) :
    ((asked.map (Asked.after projector kind)).filter fun request => request.row = row).map Asked.shown =
      ((asked.filter fun request => request.row = row).map Asked.shown).map fun entry =>
        if projector.closesInPlace row entry.1 kind then (entry.1, false) else entry := by
  induction asked with
  | nil => rfl
  | cons request asked ih =>
      rw [List.map_cons, List.filter_cons, List.filter_cons, after_row]
      split
      · next hrow =>
          rw [List.map_cons, ih, List.map_cons, List.map_cons, after_shown, of_decide_eq_true hrow]
          rfl
      · exact ih

theorem ShowsAsked.step {projector : Projector} {asked : List Asked} (h : ShowsAsked projector asked)
    (hkept : projector.frame.WellKept) (event : TimelineEvent)
    (hnew : ∀ request ∈ projector.askedBy event.kind, request.id ∉ asked.map Asked.id) :
    ShowsAsked (projector.apply event)
      (asked.map (Asked.after projector event.kind) ++ projector.askedBy event.kind) := by
  intro row
  rw [List.filter_append, List.map_append, filter_after, ← h row]
  cases hasks : projector.askedBy event.kind with
  | nil =>
      rw [pickedAt_apply hkept hasks]
      exact (List.append_nil _).symm
  | cons request rest =>
      have hrest : rest = [] := by
        cases hkind : event.kind <;> rw [hkind] at hasks <;> cases hasks
        rfl
      rw [hrest] at hasks ⊢
      have hfresh : request.id ∉ (projector.pickedAt approvalOf row).map Prod.fst := by
        rw [h row]
        intro hmem
        obtain ⟨entry, hentry, hid⟩ := List.mem_map.mp hmem
        obtain ⟨other, hother, rfl⟩ := List.mem_map.mp hentry
        refine hnew request (by rw [hasks]; exact List.mem_singleton_self _) ?_
        exact List.mem_map.mpr ⟨other, (List.mem_filter.mp hother).1, hid⟩
      have hopen : ∀ entry : String × Bool,
          projector.closesInPlace row entry.1 event.kind = false := by
        intro entry
        cases hkind : event.kind <;> rw [hkind] at hasks <;> cases hasks
        rfl
      rw [pickedAt_requested hkept hasks hfresh]
      simp only [hopen, Bool.false_eq_true, if_false, List.map_id']
      by_cases hrow : row = request.row
      · rw [if_pos hrow, List.filter_cons_of_pos (by simp [hrow])]
        rfl
      · rw [if_neg hrow, List.filter_cons_of_neg (by simp [Ne.symm hrow])]
        exact (List.append_nil _).symm

theorem showsAsked_projectorAfter (sessionId : String)
    (hunique : (requestIds (events.map TimelineEvent.kind)).Nodup) :
    ShowsAsked (projectorAfter sessionId events) ((Projector.new sessionId).askedFrom events) := by
  induction events using List.reverseRecOn with
  | nil =>
      intro row
      rfl
  | append_singleton events event ih =>
      rw [List.map_append, requestIds_append] at hunique
      obtain ⟨hbefore, -, hdisjoint⟩ := List.nodup_append.mp hunique
      rw [projectorAfter_append, askedFrom_append]
      refine (ih hbefore).step (wellKept_projectorAfter sessionId events) event fun request hrequest => ?_
      rw [askedFrom_ids]
      intro hmem
      refine hdisjoint request.id hmem request.id ?_ rfl
      rw [List.map_singleton, ← askedBy_ids]
      exact List.mem_map_of_mem hrequest

end Runs

end DevCommandCenter.Timeline
