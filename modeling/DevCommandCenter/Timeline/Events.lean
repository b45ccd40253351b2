import DevCommandCenter.Session.DeltaCompaction

/-! The events a projection folds: rewound turns left out and runs of deltas joined. -/

namespace DevCommandCenter.Timeline

structure TimelineEvent where
  kind : SessionEventKind
  occurredAt : String
  deriving DecidableEq, Repr

def deltaTarget : SessionEventKind → Option DeltaTarget
  | .turnDelta turnId _ => some ⟨.turnDelta, turnId, ""⟩
  | .turnAssistantMessageDelta turnId messageId _ =>
      some ⟨.turnAssistantMessageDelta, turnId, messageId⟩
  | .turnReasoningDelta turnId reasoningId _ => some ⟨.turnReasoningDelta, turnId, reasoningId⟩
  | .turnToolCallDelta turnId toolCallId _ => some ⟨.turnToolCallDelta, turnId, toolCallId⟩
  | _ => none

def deltaContent : SessionEventKind → String
  | .turnDelta _ content | .turnAssistantMessageDelta _ _ content | .turnReasoningDelta _ _ content
  | .turnToolCallDelta _ _ content => content
  | _ => ""

def setDeltaContent (kind : SessionEventKind) (joined : String) : SessionEventKind :=
  match kind with
  | .turnDelta turnId _ => .turnDelta turnId joined
  | .turnAssistantMessageDelta turnId messageId _ =>
      .turnAssistantMessageDelta turnId messageId joined
  | .turnReasoningDelta turnId reasoningId _ => .turnReasoningDelta turnId reasoningId joined
  | .turnToolCallDelta turnId toolCallId _ => .turnToolCallDelta turnId toolCallId joined
  | kind => kind

def joinedEvent (first : SessionEventRecord) (more : List String) : TimelineEvent where
  kind :=
    if more.isEmpty then first.kind
    else setDeltaContent first.kind (String.join (deltaContent first.kind :: more))
  occurredAt := first.occurredAt

def joinRuns (first : SessionEventRecord) (more : List String) :
    List SessionEventRecord → List TimelineEvent
  | [] => [joinedEvent first more]
  | next :: rest =>
      if (deltaTarget first.kind).isSome ∧ deltaTarget next.kind = deltaTarget first.kind then
        joinRuns first (more ++ [deltaContent next.kind]) rest
      else joinedEvent first more :: joinRuns next [] rest

def joinDeltas : List SessionEventRecord → List TimelineEvent
  | [] => []
  | first :: rest => joinRuns first [] rest

def timeline (records : List SessionEventRecord) (sessionId : String) : List TimelineEvent :=
  joinDeltas (visibleSessionEvents (records.filter fun record => record.sessionId.value = sessionId))

section Marks

variable {β : Type} {f : SessionEventKind → Option β}

lemma setDeltaContent_cases (kind : SessionEventKind) (joined : String) :
    setDeltaContent kind joined = kind ∨
      ((deltaTarget kind).isSome ∧ (deltaTarget (setDeltaContent kind joined)).isSome) := by
  cases kind <;> first | exact .inl rfl | exact .inr ⟨rfl, rfl⟩

lemma mark_joinedEvent (h : ∀ kind, (deltaTarget kind).isSome → f kind = none)
    (first : SessionEventRecord) (more : List String) :
    f (joinedEvent first more).kind = f first.kind := by
  unfold joinedEvent
  dsimp only
  split
  · rfl
  · rcases setDeltaContent_cases first.kind (String.join (deltaContent first.kind :: more)) with
      hsame | ⟨hdelta, hjoined⟩
    · rw [hsame]
    · rw [h _ hjoined, h _ hdelta]

lemma filterMap_joinRuns (h : ∀ kind, (deltaTarget kind).isSome → f kind = none)
    (first : SessionEventRecord) (more : List String) (records : List SessionEventRecord) :
    (joinRuns first more records).filterMap (fun event => f event.kind) =
      (first :: records).filterMap fun record => f record.kind := by
  induction records generalizing first more with
  | nil => simp only [joinRuns, List.filterMap_cons, mark_joinedEvent h, List.filterMap_nil]
  | cons next records ih =>
      rw [joinRuns]
      split
      · next hjoined =>
          have hnext : f next.kind = none := h next.kind (hjoined.2 ▸ hjoined.1)
          rw [ih]
          simp only [List.filterMap_cons, hnext]
      · rw [List.filterMap_cons, mark_joinedEvent h, ih]
        simp only [List.filterMap_cons]

lemma filterMap_joinDeltas (h : ∀ kind, (deltaTarget kind).isSome → f kind = none)
    (records : List SessionEventRecord) :
    (joinDeltas records).filterMap (fun event => f event.kind) =
      records.filterMap fun record => f record.kind := by
  cases records with
  | nil => rfl
  | cons first records => exact filterMap_joinRuns h first [] records

lemma filterMap_timeline (h : ∀ kind, (deltaTarget kind).isSome → f kind = none)
    (records : List SessionEventRecord) (sessionId : String) :
    (timeline records sessionId).filterMap (fun event => f event.kind) =
      (visibleSessionEvents (records.filter fun record => record.sessionId.value = sessionId)).filterMap
        fun record => f record.kind :=
  filterMap_joinDeltas h _

lemma joinRuns_mark {record : SessionEventRecord} (h : deltaTarget record.kind = none)
    (later : List SessionEventRecord) :
    joinRuns record [] later = ⟨record.kind, record.occurredAt⟩ :: joinDeltas later := by
  cases later with
  | nil => rfl
  | cons next later =>
      refine if_neg ?_
      rintro ⟨hdelta, -⟩
      rw [h] at hdelta
      cases hdelta

lemma joinRuns_append {record : SessionEventRecord} (h : deltaTarget record.kind = none)
    (first : SessionEventRecord) (more : List String) (records later : List SessionEventRecord) :
    joinRuns first more (records ++ record :: later) =
      joinRuns first more records ++ ⟨record.kind, record.occurredAt⟩ :: joinDeltas later := by
  induction records generalizing first more with
  | nil =>
      have hparted : joinRuns first more (record :: later) =
          joinedEvent first more :: joinRuns record [] later := by
        refine if_neg ?_
        rintro ⟨hdelta, heq⟩
        rw [← heq, h] at hdelta
        cases hdelta
      rw [List.nil_append, hparted, joinRuns_mark h]
      rfl
  | cons next records ih =>
      rw [List.cons_append, joinRuns, ih, ih, joinRuns]
      split <;> rfl

lemma joinDeltas_append {record : SessionEventRecord} (h : deltaTarget record.kind = none)
    (records later : List SessionEventRecord) :
    joinDeltas (records ++ record :: later) =
      joinDeltas records ++ ⟨record.kind, record.occurredAt⟩ :: joinDeltas later := by
  cases records with
  | nil => exact joinRuns_mark h later
  | cons first records => exact joinRuns_append h first [] records later

lemma filterMap_timeline_sublist (h : ∀ kind, (deltaTarget kind).isSome → f kind = none)
    (records : List SessionEventRecord) (sessionId : String) :
    List.Sublist ((timeline records sessionId).filterMap fun event => f event.kind)
      (records.filterMap fun record => f record.kind) := by
  rw [filterMap_timeline h, visibleSessionEvents_eq_filter]
  exact (List.filter_sublist.trans List.filter_sublist).filterMap _

end Marks

end DevCommandCenter.Timeline
