import DevCommandCenter.Timeline.PendingRequests

/-! Answered permission requests: when the conversation stops showing them. -/

namespace DevCommandCenter.Timeline

open Library Projector

/-- A request that is closed later is closed where it is shown: an answer finds the turn still at the
request's row, or an end finds that row among the turn's rows. -/
def ClosedInPlace (projector : Projector) (events : List TimelineEvent) : Prop :=
  ∀ before event after turnId id, events = before ++ event :: after →
    permissionRequest event.kind = some (turnId, id) →
    after.any (fun later => closesRequest turnId id later.kind) = true →
    ((before ++ [event]).foldl apply projector).closedLater
      ((before.foldl apply projector).currentRow turnId) id after = true

def openRows (projector : Projector) : List TimelineEvent → List (String × ℕ)
  | [] => []
  | event :: later =>
      (match permissionRequest event.kind with
        | some (turnId, id) =>
            if later.any fun event => closesRequest turnId id event.kind then []
            else [(id, projector.currentRow turnId)]
        | none => []) ++ openRows (projector.apply event) later

def InShownOrder (isAlphanumeric : Char → Bool) (sessionId : String) (events : List TimelineEvent) :
    Prop :=
  (openRows (Projector.new sessionId) events).Pairwise fun a b =>
    ((projectorAfter sessionId events).shownOrder isAlphanumeric).idxOf a.2 ≤
      ((projectorAfter sessionId events).shownOrder isAlphanumeric).idxOf b.2

section Rows

variable {projector : Projector} {row : ℕ} {turnId id : String} {event : TimelineEvent}
  {events : List TimelineEvent}

lemma askedBy_eq (projector : Projector) (kind : SessionEventKind) :
    projector.askedBy kind =
      match permissionRequest kind with
      | some (turnId, id) => [⟨id, projector.currentRow turnId, true⟩]
      | none => [] := by
  cases kind <;> rfl

lemma askedFrom_cons (projector : Projector) (event : TimelineEvent) (later : List TimelineEvent) :
    projector.askedFrom (event :: later) =
      (match permissionRequest event.kind with
        | some (turnId, id) =>
            [⟨id, projector.currentRow turnId,
              !(projector.apply event).closedLater (projector.currentRow turnId) id later⟩]
        | none => []) ++ (projector.apply event).askedFrom later := by
  rw [askedFrom]
  congr 1
  cases event.kind <;> rfl

lemma requestIds_cons (kind : SessionEventKind) (kinds : List SessionEventKind) :
    requestIds (kind :: kinds) =
      (match permissionRequest kind with
        | some (_, id) => [id]
        | none => []) ++ requestIds kinds := by
  cases kind <;> rfl

lemma openRows_ids (projector : Projector) (events : List TimelineEvent) :
    (openRows projector events).map Prod.fst = openRequests (events.map TimelineEvent.kind) := by
  induction events generalizing projector with
  | nil => rfl
  | cons event events ih =>
      rw [openRows, List.map_append, ih, List.map_cons]
      obtain ⟨kind, occurredAt⟩ := event
      cases kind with
      | turnPermissionRequested turnId id =>
          dsimp only [permissionRequest, openRequests]
          rw [List.any_map]
          by_cases hcloses : events.any fun event => closesRequest turnId.value id event.kind
          · have hclosed : events.any (closesRequest turnId.value id ∘ TimelineEvent.kind) = true :=
              hcloses
            rw [if_pos hcloses, if_pos hclosed]
            rfl
          · have hopen : ¬events.any (closesRequest turnId.value id ∘ TimelineEvent.kind) = true :=
              hcloses
            rw [if_neg hcloses, if_neg hopen]
            rfl
      | _ => rfl

lemma closedInPlace_cons : ClosedInPlace projector (event :: events) ↔
    (∀ turnId id, permissionRequest event.kind = some (turnId, id) →
      events.any (fun later => closesRequest turnId id later.kind) = true →
      (projector.apply event).closedLater (projector.currentRow turnId) id events = true) ∧
    ClosedInPlace (projector.apply event) events := by
  constructor
  · intro h
    refine ⟨fun turnId id => h [] event events turnId id rfl, fun before middle after turnId id heq => ?_⟩
    exact h (event :: before) middle after turnId id (by rw [heq, List.cons_append])
  · rintro ⟨hfirst, hrest⟩ before middle after turnId id heq hrequest hcloses
    cases before with
    | nil =>
        obtain ⟨rfl, rfl⟩ := List.cons_eq_cons.mp heq
        exact hfirst turnId id hrequest hcloses
    | cons first before =>
        obtain ⟨rfl, rfl⟩ := List.cons_eq_cons.mp heq
        exact hrest before middle after turnId id rfl hrequest hcloses

lemma closesRequest_of_inPlace (hkept : projector.frame.WellKept) {kind : SessionEventKind}
    (hassistant : projector.frame.Assistant row turnId)
    (h : projector.closesInPlace row id kind = true) : closesRequest turnId id kind = true := by
  have hlt := hassistant.lt
  rw [frame_heads_length] at hlt
  cases kind with
  | turnPermissionResolved turn request behavior =>
      exact decide_eq_true (of_decide_eq_true h).1
  | turnCompleted turn =>
      have hrow : row ∈ projector.rowsOfTurn turn.value := of_decide_eq_true h
      exact decide_eq_true ((assistant_of_rowsOfTurn hkept hrow).unique hassistant)
  | turnAborted turn reason =>
      have hrow : row ∈ projector.endedRows (.turnAborted turn reason) := of_decide_eq_true h
      refine decide_eq_true ?_
      dsimp only [endedRows] at hrow
      split at hrow
      · obtain rfl := List.mem_singleton.mp hrow
        exact (assistant_of_currentRow hkept hlt).unique hassistant
      · exact (assistant_of_rowsOfTurn hkept hrow).unique hassistant
  | _ => cases h

lemma closesRequest_of_closedLater (hkept : projector.frame.WellKept)
    (hassistant : projector.frame.Assistant row turnId)
    (h : projector.closedLater row id events = true) :
    events.any (fun event => closesRequest turnId id event.kind) = true := by
  induction events generalizing projector with
  | nil => cases h
  | cons event events ih =>
      rw [List.any_cons, Bool.or_eq_true]
      rcases Bool.or_eq_true_iff.mp h with hfirst | hrest
      · exact .inl (closesRequest_of_inPlace hkept hassistant hfirst)
      · have hstep := frame_apply projector event
        exact .inr (ih (hkept.step hstep) (hassistant.step hstep) hrest)

lemma assistant_of_request (hkept : projector.frame.WellKept)
    (h : permissionRequest event.kind = some (turnId, id)) :
    (projector.apply event).frame.Assistant (projector.currentRow turnId) turnId := by
  obtain ⟨kind, occurredAt⟩ := event
  cases kind with
  | turnPermissionRequested turn request toolName title description command file =>
      obtain ⟨rfl, rfl⟩ := Prod.mk.inj (Option.some.inj h)
      exact assistant_of_loose hkept rfl
  | _ => cases h

lemma asked_assistant (hkept : projector.frame.WellKept) :
    ∀ asked ∈ projector.askedFrom events,
      ∃ turnId, (events.foldl apply projector).frame.Assistant asked.row turnId := by
  induction events using List.reverseRecOn with
  | nil => rintro asked ⟨⟩
  | append_singleton events event ih =>
      have hkept' : (events.foldl apply projector).frame.WellKept := by
        clear ih
        induction events using List.reverseRecOn with
        | nil => exact hkept
        | append_singleton events event ih =>
            rw [List.foldl_append]
            exact ih.step (frame_apply _ _)
      intro asked hasked
      rw [askedFrom_append] at hasked
      rw [List.foldl_append, List.foldl_cons, List.foldl_nil]
      rcases List.mem_append.mp hasked with hold | hnew
      · obtain ⟨request, hrequest, rfl⟩ := List.mem_map.mp hold
        obtain ⟨turnId, hassistant⟩ := ih request hrequest
        rw [after_row]
        exact ⟨turnId, hassistant.step (frame_apply _ _)⟩
      · rw [askedBy_eq] at hnew
        split at hnew
        · next turnId id hrequest =>
            rw [List.mem_singleton.mp hnew]
            exact ⟨turnId, assistant_of_request hkept' hrequest⟩
        · cases hnew

def heldRows (projector : Projector) (events : List TimelineEvent) : List (String × ℕ) :=
  ((projector.askedFrom events).filter Asked.pending).map fun asked => (asked.id, asked.row)

lemma heldRows_cons (projector : Projector) (event : TimelineEvent) (later : List TimelineEvent) :
    heldRows projector (event :: later) =
      (match permissionRequest event.kind with
        | some (turnId, id) =>
            if (projector.apply event).closedLater (projector.currentRow turnId) id later then []
            else [(id, projector.currentRow turnId)]
        | none => []) ++ heldRows (projector.apply event) later := by
  rw [heldRows, askedFrom_cons, List.filter_append, List.map_append]
  congr 1
  cases permissionRequest event.kind with
  | none => rfl
  | some request =>
      dsimp only
      split
      · next hclosed => simp [hclosed]
      · next hopen => simp [hopen]

lemma mem_requestIds_of_openRows {entry : String × ℕ} (h : entry ∈ openRows projector events) :
    entry.1 ∈ requestIds (events.map TimelineEvent.kind) := by
  induction events generalizing projector with
  | nil => cases h
  | cons event events ih =>
      rw [List.map_cons, requestIds_cons, List.mem_append]
      rw [openRows] at h
      rcases List.mem_append.mp h with hfirst | hrest
      · left
        split at hfirst
        · next turnId id hrequest =>
            split at hfirst
            · cases hfirst
            · rw [List.mem_singleton.mp hfirst]
              exact List.mem_singleton_self _
        · cases hfirst
      · exact .inr (ih hrest)

lemma heldRows_eq (hkept : projector.frame.WellKept) (h : ClosedInPlace projector events) :
    heldRows projector events = openRows projector events := by
  induction events generalizing projector with
  | nil => rfl
  | cons event events ih =>
      obtain ⟨hfirst, hrest⟩ := closedInPlace_cons.mp h
      have hkept' := hkept.step (frame_apply projector event)
      rw [heldRows_cons, openRows, ih hkept' hrest]
      congr 1
      split
      · next turnId id hrequest =>
          by_cases hcloses : events.any fun event => closesRequest turnId id event.kind
          · rw [if_pos hcloses, if_pos (hfirst turnId id hrequest hcloses)]
          · have hopen : ¬(projector.apply event).closedLater (projector.currentRow turnId) id events =
                true := fun hclosed =>
              hcloses (closesRequest_of_closedLater hkept' (assistant_of_request hkept hrequest) hclosed)
            rw [if_neg hcloses, if_neg hopen]
      · rfl

lemma closedInPlace_of_subset (hunique : (requestIds (events.map TimelineEvent.kind)).Nodup)
    (h : ∀ entry ∈ heldRows projector events,
      entry.1 ∈ (openRows projector events).map Prod.fst) : ClosedInPlace projector events := by
  induction events generalizing projector with
  | nil =>
      intro before event after turnId id heq
      simp at heq
  | cons event events ih =>
      rw [List.map_cons, requestIds_cons] at hunique
      obtain ⟨-, hrest, hdisjoint⟩ := List.nodup_append.mp hunique
      rw [heldRows_cons, openRows] at h
      have hlater : ∀ entry ∈ heldRows (projector.apply event) events,
          entry.1 ∈ requestIds (events.map TimelineEvent.kind) := by
        intro entry hentry
        obtain ⟨asked, hasked, rfl⟩ := List.mem_map.mp hentry
        rw [← askedFrom_ids (projector.apply event)]
        exact List.mem_map_of_mem (List.mem_filter.mp hasked).1
      refine closedInPlace_cons.mpr ⟨fun turnId id hrequest hcloses => ?_, ih hrest fun entry hentry => ?_⟩
      · by_contra hopen
        have hheld := h (id, projector.currentRow turnId) (by
          rw [hrequest]
          dsimp only
          rw [if_neg hopen]
          exact List.mem_append_left _ (List.mem_singleton_self _))
        rw [hrequest] at hheld hdisjoint
        dsimp only at hheld
        rw [if_pos hcloses, List.nil_append] at hheld
        obtain ⟨entry, hentry, hid⟩ := List.mem_map.mp hheld
        have hid : entry.1 = id := hid
        exact hdisjoint id (List.mem_singleton_self _) entry.1 (mem_requestIds_of_openRows hentry)
          hid.symm
      · have hmem := h entry (List.mem_append_right _ hentry)
        rw [List.map_append, List.mem_append] at hmem
        refine hmem.resolve_left fun hfirst => ?_
        split at hfirst
        · next turnId id hrequest =>
            rw [hrequest] at hdisjoint
            split at hfirst
            · cases hfirst
            · exact hdisjoint id (List.mem_singleton_self _) entry.1 (hlater entry hentry)
                (List.mem_singleton.mp hfirst).symm
        · cases hfirst

end Rows

section Runs

variable {isAlphanumeric : Char → Bool} {sessionId : String} {events : List TimelineEvent}

lemma pending_eq (hunique : (requestIds (events.map TimelineEvent.kind)).Nodup) :
    (pendingPermissionRequests ((projectorAfter sessionId events).finish isAlphanumeric)).map
      Annotation.id =
      (grouped Prod.snd ((projectorAfter sessionId events).shownOrder isAlphanumeric)
        (heldRows (Projector.new sessionId) events)).map Prod.fst := by
  have hkept := wellKept_projectorAfter sessionId events
  have hasked := showsAsked_projectorAfter sessionId hunique
  have hids := hunique
  rw [← askedFrom_ids (Projector.new sessionId)] at hids
  generalize haskedEq : (Projector.new sessionId).askedFrom events = asked at hasked hids
  have hgroups : ∀ rows : List ℕ, rows.flatMap ((projectorAfter sessionId events).pickedAt approvalOf) =
      (grouped Asked.row rows asked).map Asked.shown := by
    intro rows
    rw [grouped, List.map_flatMap]
    exact List.flatMap_congr fun row _ => hasked row
  have hshownIds : ∀ rows : List ℕ, ((grouped Asked.row rows asked).map Asked.shown).map Prod.fst =
      (grouped Asked.row rows asked).map Asked.id := by
    intro rows
    rw [List.map_map]
    rfl
  have hpicked : ((projectorAfter sessionId events).finish isAlphanumeric).flatMap
      (fun message => message.annotations.filterMap approvalOf) =
      (grouped Asked.row ((projectorAfter sessionId events).shownOrder isAlphanumeric) asked).map
        Asked.shown := by
    have hannotated := annotatedAssistant_projectorAfter sessionId events
    rw [finish_picked picks_approvalOf hkept hannotated fun turnId => ?_, hgroups]
    rw [hgroups, hshownIds]
    exact grouped_map_nodup ((hkept.sorted turnId).imp fun hlt => ne_of_lt hlt) hids
  have horder : ((projectorAfter sessionId events).shownOrder isAlphanumeric).Nodup :=
    shownOrder_nodup hkept
  have hnodup : ((((projectorAfter sessionId events).finish isAlphanumeric).flatMap
      TimelineMessage.annotations).filterMap approvalOf |>.map Prod.fst).Nodup := by
    rw [List.filterMap_flatMap, hpicked, hshownIds]
    exact grouped_map_nodup horder hids
  rw [pendingPermissionRequests_eq, (pending_ids _ hnodup).2, List.filterMap_flatMap, hpicked, heldRows,
    grouped_map, List.filter_map, List.map_map, List.map_map, haskedEq, filter_grouped]
  rfl

/-- The requests shown as waiting are those that wait, in their order, exactly when each one that is
closed is closed in place and the rows of the others are shown in the order of the requests. -/
theorem pending_iff (hunique : (requestIds (events.map TimelineEvent.kind)).Nodup) :
    (pendingPermissionRequests ((projectorAfter sessionId events).finish isAlphanumeric)).map
      Annotation.id = openRequests (events.map TimelineEvent.kind) ↔
    ClosedInPlace (Projector.new sessionId) events ∧ InShownOrder isAlphanumeric sessionId events := by
  have hkept := wellKept_projectorAfter sessionId events
  have hkeptNew := wellKept_new sessionId
  have hids := hunique
  rw [← askedFrom_ids (Projector.new sessionId)] at hids
  have hheld : ((heldRows (Projector.new sessionId) events).map Prod.fst).Nodup := by
    rw [heldRows, List.map_map]
    exact hids.sublist (List.filter_sublist.map _)
  have horder : ((projectorAfter sessionId events).shownOrder isAlphanumeric).Nodup :=
    shownOrder_nodup hkept
  have hcover : ∀ entry ∈ heldRows (Projector.new sessionId) events,
      entry.2 ∈ (projectorAfter sessionId events).shownOrder isAlphanumeric := by
    intro entry hentry
    obtain ⟨asked, hasked, rfl⟩ := List.mem_map.mp hentry
    obtain ⟨turnId, hassistant⟩ := asked_assistant hkeptNew asked (List.mem_filter.mp hasked).1
    have hlt := hassistant.lt
    rw [frame_heads_length] at hlt
    exact mem_shownOrder hkept hlt
  rw [pending_eq hunique, ← openRows_ids (Projector.new sessionId)]
  constructor
  · intro h
    have hclosed : ClosedInPlace (Projector.new sessionId) events := by
      refine closedInPlace_of_subset hunique fun entry hentry => ?_
      rw [← h]
      exact List.mem_map_of_mem (mem_grouped.mpr ⟨hentry, hcover entry hentry⟩)
    rw [← heldRows_eq hkeptNew hclosed] at h
    have hsame := eq_of_map_eq hheld (fun entry hentry => (mem_grouped.mp hentry).1)
      (List.Subset.refl _) h
    refine ⟨hclosed, ?_⟩
    rw [InShownOrder, ← heldRows_eq hkeptNew hclosed]
    exact (grouped_eq_iff horder hcover).mp hsame
  · rintro ⟨hclosed, hinOrder⟩
    rw [InShownOrder, ← heldRows_eq hkeptNew hclosed] at hinOrder
    rw [(grouped_eq_iff horder hcover).mpr hinOrder, heldRows_eq hkeptNew hclosed]

def permissionMark (kind : SessionEventKind) : Option SessionEventKind :=
  match kind with
  | .turnPermissionRequested .. | .turnPermissionResolved .. | .turnCompleted _ | .turnAborted .. =>
      some kind
  | _ => none

lemma any_closesRequest_marks (turnId id : String) (kinds : List SessionEventKind) :
    (kinds.filterMap permissionMark).any (closesRequest turnId id) =
      kinds.any (closesRequest turnId id) := by
  induction kinds with
  | nil => rfl
  | cons kind kinds ih =>
      rw [List.any_cons, ← ih]
      cases kind <;> rfl

lemma openRequests_marks (kinds : List SessionEventKind) :
    openRequests (kinds.filterMap permissionMark) = openRequests kinds := by
  induction kinds with
  | nil => rfl
  | cons kind kinds ih =>
      cases kind with
      | turnPermissionRequested =>
          dsimp only [List.filterMap_cons, permissionMark, openRequests]
          rw [any_closesRequest_marks, ih]
      | _ => exact ih

lemma permissionMark_of_delta (kind : SessionEventKind) (h : (deltaTarget kind).isSome) :
    permissionMark kind = none := by
  cases kind <;> first | rfl | cases h

lemma openRequests_timeline (log : List SessionEventRecord) (sessionId : String) :
    openRequests ((timeline log sessionId).map TimelineEvent.kind) =
      openRequests ((visibleSessionEvents (log.filter fun record =>
        record.sessionId.value = sessionId)).map SessionEventRecord.kind) := by
  rw [← openRequests_marks, ← openRequests_marks (List.map SessionEventRecord.kind _), List.filterMap_map,
    List.filterMap_map]
  exact congrArg openRequests (filterMap_timeline permissionMark_of_delta log sessionId)

lemma requestIds_timeline {log : List SessionEventRecord} (sessionId : String)
    (h : (requestIds (log.map SessionEventRecord.kind)).Nodup) :
    (requestIds ((timeline log sessionId).map TimelineEvent.kind)).Nodup := by
  have hdelta : ∀ kind, (deltaTarget kind).isSome → (permissionRequest kind).map Prod.snd = none := by
    intro kind hkind
    cases kind <;> first | rfl | cases hkind
  rw [requestIds, List.filterMap_map] at h ⊢
  exact h.sublist (filterMap_timeline_sublist hdelta log sessionId)

theorem pending_permission_requests_iff (isAlphanumeric : Char → Bool)
    (log : List SessionEventRecord) (sessionId : String)
    (hunique : (requestIds (log.map SessionEventRecord.kind)).Nodup) :
    (pendingPermissionRequests (projectSession isAlphanumeric log sessionId)).map Annotation.id =
      openRequests ((visibleSessionEvents (log.filter fun record =>
        record.sessionId.value = sessionId)).map SessionEventRecord.kind) ↔
    ClosedInPlace (Projector.new sessionId) (timeline log sessionId) ∧
      InShownOrder isAlphanumeric sessionId (timeline log sessionId) := by
  rw [← openRequests_timeline]
  exact pending_iff (requestIds_timeline sessionId hunique)

end Runs

section AnsweredLog

def answeredEvent (kind : SessionEventKind) : SessionEventRecord where
  eventId := "event"
  sessionId := ⟨"s"⟩
  sequence := 1
  occurredAt := "2026-10-07T10:00:00Z"
  kind := kind

def answeredLog : List SessionEventRecord :=
  [answeredEvent (.turnStarted ⟨"t"⟩ "fix it" none none none none none),
    answeredEvent (.turnPermissionRequested ⟨"t"⟩ "r" "Bash" none none none none),
    answeredEvent (.turnAssistantMessageStarted ⟨"t"⟩ "m" .commentary),
    answeredEvent (.turnPermissionResolved ⟨"t"⟩ "r" "allow")]

theorem pending_permission_requests_iff_demo :
    (requestIds (answeredLog.map SessionEventRecord.kind)).Nodup ∧
    ((pendingPermissionRequests (projectSession Char.isAlphanum answeredLog "s")).map Annotation.id =
      openRequests ((visibleSessionEvents (answeredLog.filter fun record =>
        record.sessionId.value = "s")).map SessionEventRecord.kind) ↔
    ClosedInPlace (Projector.new "s") (timeline answeredLog "s") ∧
      InShownOrder Char.isAlphanum "s" (timeline answeredLog "s")) :=
  ⟨by decide, pending_permission_requests_iff Char.isAlphanum answeredLog "s" (by decide)⟩

theorem answered_request_stays_pending :
    (requestIds (answeredLog.map SessionEventRecord.kind)).Nodup ∧
    (pendingPermissionRequests (projectSession Char.isAlphanum answeredLog "s")).map Annotation.id =
      ["r"] ∧
    openRequests ((visibleSessionEvents (answeredLog.filter fun record =>
      record.sessionId.value = "s")).map SessionEventRecord.kind) = [] :=
  ⟨by decide, by decide, by decide⟩

end AnsweredLog

end DevCommandCenter.Timeline
