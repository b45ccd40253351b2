import DevCommandCenter.Search.SearchText
import Mathlib.Data.List.TakeWhile

/-! What the search text of a session says of its rewound turns. -/

namespace DevCommandCenter.Search

open Library

def noDetail : ToolCallDetail where
  command := none
  file := none
  input := none
  output := none
  exitCode := none
  diff := none
  truncated := false

def withoutContents : SessionEventKind → SessionEventKind
  | .turnStarted turnId _ planMode model evidence retryOf policy =>
      .turnStarted turnId "" planMode model evidence retryOf policy
  | .turnSteered turnId _ => .turnSteered turnId ""
  | .turnQueued queuedTurn => .turnQueued { queuedTurn with prompt := "", toolInstructions := none }
  | .turnDelta turnId _ => .turnDelta turnId ""
  | .turnAssistantMessageDelta turnId id _ => .turnAssistantMessageDelta turnId id ""
  | .turnAssistantMessageCompleted turnId id phase _ =>
      .turnAssistantMessageCompleted turnId id phase none
  | .turnReasoningStarted turnId id _ => .turnReasoningStarted turnId id none
  | .turnReasoningDelta turnId id _ => .turnReasoningDelta turnId id ""
  | .turnToolCallStarted turnId id _ _ _ => .turnToolCallStarted turnId id "" none none
  | .turnToolCallDelta turnId id _ => .turnToolCallDelta turnId id ""
  | .turnToolCallUpdated turnId id _ => .turnToolCallUpdated turnId id noDetail
  | .turnToolCallCompleted turnId id _ => .turnToolCallCompleted turnId id none
  | .turnToolCallFailed turnId id _ _ => .turnToolCallFailed turnId id none none
  | .turnUserInputRequested turnId id _ => .turnUserInputRequested turnId id []
  | .turnUserInputResolved turnId id _ => .turnUserInputResolved turnId id []
  | .turnPermissionRequested turnId id _ _ _ _ _ =>
      .turnPermissionRequested turnId id "" none none none none
  | .turnPermissionResolved turnId id _ => .turnPermissionResolved turnId id ""
  | .turnNativeSubagentActivity turnId id agentId threadId _ _ _ _ status =>
      .turnNativeSubagentActivity turnId id agentId threadId none none none none status
  | .turnAborted turnId _ => .turnAborted turnId none
  | .goalUpdated turnId _ => .goalUpdated turnId none
  | kind => kind

def queuedForRewound (rewound : List TurnId) (later : List SessionEventRecord) :
    SessionEventKind → Bool
  | .turnQueued queuedTurn => later.any fun event =>
      match event.kind with
      | .queuedTurnDispatched queuedTurnId turnId =>
          decide (queuedTurnId = queuedTurn.id ∧ turnId ∈ rewound)
      | _ => false
  | _ => false

def ofRewound (rewound : List TurnId) (later : List SessionEventRecord)
    (kind : SessionEventKind) : Bool :=
  !isVisible rewound kind || queuedForRewound rewound later kind

/-- Two logs that differ in nothing but the contents of events of rewound turns. -/
def AgreeApart (rewound : List TurnId) :
    List SessionEventRecord → List SessionEventRecord → Prop
  | [], [] => True
  | event :: rest, event' :: rest' =>
      (event = event' ∨ ofRewound rewound rest event.kind = true ∧
        { event with kind := withoutContents event.kind } =
          { event' with kind := withoutContents event'.kind }) ∧
      AgreeApart rewound rest rest'
  | _, _ => False

lemma withoutContents_turnId (kind : SessionEventKind) :
    (withoutContents kind).turnId = kind.turnId := by
  cases kind <;> rfl

lemma AgreeApart.refl (rewound : List TurnId) (events : List SessionEventRecord) :
    AgreeApart rewound events events := by
  induction events with
  | nil => trivial
  | cons event rest ih => exact ⟨.inl rfl, ih⟩

section Agreeing

variable {rewound : List TurnId} {events events' : List SessionEventRecord}

lemma withoutContents_of_agree {event event' : SessionEventRecord}
    (h : event = event' ∨ ofRewound rewound events event.kind = true ∧
      { event with kind := withoutContents event.kind } =
        { event' with kind := withoutContents event'.kind }) :
    withoutContents event.kind = withoutContents event'.kind := by
  rcases h with rfl | ⟨-, heq⟩
  · rfl
  · exact congrArg SessionEventRecord.kind heq

def removedTurnIds : SessionEventKind → List TurnId
  | .conversationRewound _ removedTurnIds _ _ => removedTurnIds
  | _ => []

lemma removedTurnIds_withoutContents (kind : SessionEventKind) :
    removedTurnIds (withoutContents kind) = removedTurnIds kind := by
  cases kind <;> rfl

lemma rewoundTurnIds_cons (event : SessionEventRecord) (rest : List SessionEventRecord) :
    rewoundTurnIds (event :: rest) = removedTurnIds event.kind ++ rewoundTurnIds rest := by
  simp only [rewoundTurnIds, List.flatMap_cons]
  congr 1

lemma AgreeApart.rewoundTurnIds (h : AgreeApart rewound events events') :
    rewoundTurnIds events' = rewoundTurnIds events := by
  induction events generalizing events' with
  | nil =>
      cases events' with
      | nil => rfl
      | cons => exact h.elim
  | cons event rest ih =>
      cases events' with
      | nil => exact h.elim
      | cons event' rest' =>
          obtain ⟨hevent, hrest⟩ := h
          rw [rewoundTurnIds_cons, rewoundTurnIds_cons, ih hrest,
            ← removedTurnIds_withoutContents, ← withoutContents_of_agree hevent,
            removedTurnIds_withoutContents]

lemma AgreeApart.visible (h : AgreeApart rewound events events')
    (hnone : ∀ before event after, events = before ++ event :: after →
      queuedForRewound rewound after event.kind = false) :
    events'.filter (fun event => isVisible rewound event.kind) =
      events.filter fun event => isVisible rewound event.kind := by
  induction events generalizing events' with
  | nil =>
      cases events' with
      | nil => rfl
      | cons => exact h.elim
  | cons event rest ih =>
      cases events' with
      | nil => exact h.elim
      | cons event' rest' =>
          obtain ⟨hevent, hrest⟩ := h
          have htail := ih hrest fun before other after heq =>
            hnone (event :: before) other after (by rw [heq, List.cons_append])
          have hsame : isVisible rewound event'.kind = isVisible rewound event.kind := by
            simp only [isVisible, ← withoutContents_turnId event.kind,
              withoutContents_of_agree hevent, withoutContents_turnId]
          rw [List.filter_cons, List.filter_cons, htail, hsame]
          rcases hevent with rfl | ⟨hof, -⟩
          · rfl
          · have hqueued := hnone [] event rest rfl
            have hhidden : isVisible rewound event.kind = false := by
              simpa [ofRewound, hqueued] using hof
            simp [hhidden]

end Agreeing

section QueuedPrompt

def queuedText (prompt : String) : String :=
  "Queued follow-up: " ++ prompt

lemma queuedText_toList (prompt : String) :
    (queuedText prompt).toList = "Queued follow-up: ".toList ++ prompt.toList :=
  String.toList_append

lemma queuedText_first (prompt : String) : ∃ rest, (queuedText prompt).toList = 'Q' :: rest := by
  rw [queuedText_toList]
  exact ⟨"ueued follow-up: ".toList ++ prompt.toList, by simp⟩

lemma toList_trim_queuedText (prompt : String) :
    (trim (queuedText prompt)).toList =
      ((queuedText prompt).toList.reverse.dropWhile isWhitespace).reverse := by
  have hfirst : (queuedText prompt).toList.dropWhile isWhitespace = (queuedText prompt).toList := by
    obtain ⟨rest, hrest⟩ := queuedText_first prompt
    rw [hrest]
    exact List.dropWhile_cons_of_neg (by decide)
  rw [trim, String.toList_ofList, hfirst]

lemma pushFragment_queuedText (prompt : String) :
    pushFragment (queuedText prompt) = [trim (queuedText prompt)] := by
  apply if_neg
  intro hempty
  have hlist := congrArg String.toList hempty
  rw [toList_trim_queuedText, String.toList_empty, List.reverse_eq_nil_iff,
    List.dropWhile_eq_nil_iff] at hlist
  obtain ⟨rest, hrest⟩ := queuedText_first prompt
  have hfirst := hlist 'Q' (by simp [hrest])
  exact absurd hfirst (by decide)

lemma trim_queuedText_ne (prompt : String) :
    trim (queuedText (prompt ++ "x")) ≠ trim (queuedText prompt) := by
  intro heq
  have hlist := congrArg (fun text => text.toList.length) heq
  have hlonger : (queuedText (prompt ++ "x")).toList = (queuedText prompt).toList ++ ['x'] := by
    rw [queuedText_toList, queuedText_toList, String.toList_append, List.append_assoc]
    simp
  have hkept : ('x' :: (queuedText prompt).toList.reverse).dropWhile isWhitespace =
      'x' :: (queuedText prompt).toList.reverse := List.dropWhile_cons_of_neg (by decide)
  have hle := (List.dropWhile_sublist isWhitespace
    (l := (queuedText prompt).toList.reverse)).length_le
  simp only [toList_trim_queuedText, hlonger, List.reverse_append, List.reverse_singleton,
    List.singleton_append, hkept, List.length_reverse, List.length_cons] at hlist hle
  omega

lemma searchFragments_queued (buffers : SearchBuffers) (before after : List SessionEventRecord) :
    ∃ earlier later, ∀ event : SessionEventRecord, ∀ queuedTurn,
      event.kind = .turnQueued queuedTurn →
        searchFragments buffers (before ++ event :: after) =
          earlier ++ trim (queuedText queuedTurn.prompt) :: later := by
  induction before generalizing buffers with
  | nil =>
      refine ⟨[], searchFragments buffers after, fun event queuedTurn hkind => ?_⟩
      have hevent : searchEvent buffers event.kind =
          (pushFragment (queuedText queuedTurn.prompt), buffers) := by rw [hkind]; rfl
      rw [List.nil_append, searchFragments, hevent, pushFragment_queuedText]
      rfl
  | cons first rest ih =>
      obtain ⟨earlier, later, hrest⟩ := ih (searchEvent buffers first.kind).2
      refine ⟨(searchEvent buffers first.kind).1 ++ earlier, later, fun event queuedTurn hkind => ?_⟩
      rw [List.cons_append, searchFragments, hrest event queuedTurn hkind, List.append_assoc]

lemma intercalate_around (separator : String) (earlier later : List String) :
    ∃ left right, ∀ text, separator.intercalate (earlier ++ text :: later) =
      left ++ text ++ right := by
  induction earlier with
  | nil =>
      cases later with
      | nil => exact ⟨"", "", fun text => by simp⟩
      | cons next later =>
          refine ⟨"", separator ++ separator.intercalate (next :: later), fun text => ?_⟩
          rw [List.nil_append, String.intercalate_cons_cons, String.empty_append,
            String.append_assoc]
  | cons first rest ih =>
      obtain ⟨left, right, hrest⟩ := ih
      refine ⟨first ++ separator ++ left, right, fun text => ?_⟩
      rw [List.cons_append, String.intercalate_cons_of_ne_nil (by simp), hrest]
      simp only [String.append_assoc]

end QueuedPrompt

lemma agreeApart_at {rewound : List TurnId} {event event' : SessionEventRecord}
    {after : List SessionEventRecord} (hof : ofRewound rewound after event.kind = true)
    (heq : { event with kind := withoutContents event.kind } =
      { event' with kind := withoutContents event'.kind }) (before : List SessionEventRecord) :
    AgreeApart rewound (before ++ event :: after) (before ++ event' :: after) := by
  induction before with
  | nil => exact ⟨.inr ⟨hof, heq⟩, AgreeApart.refl rewound after⟩
  | cons first rest ih => exact ⟨.inl rfl, ih⟩

lemma buildSearchText_queued (rewound : List TurnId) (before after : List SessionEventRecord) :
    ∃ left right, ∀ event : SessionEventRecord, ∀ queuedTurn,
      event.kind = .turnQueued queuedTurn →
      rewoundTurnIds (before ++ event :: after) = rewound →
        buildSearchText (before ++ event :: after) =
          left ++ trim (queuedText queuedTurn.prompt) ++ right := by
  obtain ⟨earlier, later, hfragments⟩ := searchFragments_queued .empty
    (before.filter fun event => isVisible rewound event.kind)
    (after.filter fun event => isVisible rewound event.kind)
  obtain ⟨left, right, htext⟩ := intercalate_around "\n\n" earlier later
  refine ⟨left, right, fun event queuedTurn hkind hrewound => ?_⟩
  have hvisible : isVisible rewound event.kind = true := by rw [hkind]; rfl
  rw [buildSearchText, visibleSessionEvents_eq_filter, hrewound, List.filter_append,
    List.filter_cons, if_pos hvisible, hfragments event queuedTurn hkind, htext]

/-- The text of rewound turns stays out of the search exactly when none of them was queued before
it ran. -/
theorem rewound_text_unsearchable_iff (events : List SessionEventRecord) :
    (∀ events', AgreeApart (rewoundTurnIds events) events events' →
      buildSearchText events' = buildSearchText events) ↔
    ∀ before event after, events = before ++ event :: after →
      queuedForRewound (rewoundTurnIds events) after event.kind = false := by
  constructor
  · intro hsame before event after heq
    by_contra hqueued
    rw [Bool.not_eq_false] at hqueued
    cases hkind : event.kind with
    | turnQueued queuedTurn =>
        let event' : SessionEventRecord := { event with
          kind := .turnQueued { queuedTurn with prompt := queuedTurn.prompt ++ "x" } }
        have hagree : AgreeApart (rewoundTurnIds events) events (before ++ event' :: after) := by
          rw [heq]
          refine agreeApart_at ?_ ?_ before
          · rw [← heq, ofRewound, hqueued, Bool.or_true]
          · rw [hkind]
            rfl
        obtain ⟨left, right, htext⟩ :=
          buildSearchText_queued (rewoundTurnIds events) before after
        have hrewound := hagree.rewoundTurnIds
        have hboth := hsame _ hagree
        rw [htext event' _ rfl hrewound, heq, htext event queuedTurn hkind (by rw [← heq]),
          String.append_left_inj, String.append_right_inj] at hboth
        exact trim_queuedText_ne queuedTurn.prompt hboth
    | _ =>
        rw [hkind] at hqueued
        cases hqueued
  · intro hnone events' hagree
    rw [buildSearchText, buildSearchText, visibleSessionEvents_eq_filter,
      visibleSessionEvents_eq_filter, hagree.rewoundTurnIds, hagree.visible hnone]

section QueuedThenRewound

def demoRecord (sequence : ℕ) (kind : SessionEventKind) : SessionEventRecord where
  eventId := "event"
  sessionId := ⟨"session-1"⟩
  sequence := sequence
  occurredAt := "2026-08-02T10:00:00Z"
  kind := kind

def demoQueued (prompt : String) : QueuedTurn where
  id := "queued-1"
  sessionId := ⟨"session-1"⟩
  prompt := prompt
  toolInstructions := none
  planMode := none
  effort := none
  fastMode := none
  approvalPolicy := none
  evidence := none
  createdAt := "2026-08-02T10:00:00Z"

def demoRewound (prompt : String) : List SessionEventRecord :=
  [demoRecord 1 (.turnStarted ⟨"turn-1"⟩ "hello" none none none none none),
    demoRecord 2 (.turnQueued (demoQueued prompt)),
    demoRecord 3 (.turnCompleted ⟨"turn-1"⟩),
    demoRecord 4 (.turnStarted ⟨"turn-2"⟩ prompt none none none none none),
    demoRecord 5 (.queuedTurnDispatched "queued-1" ⟨"turn-2"⟩),
    demoRecord 6 (.turnCompleted ⟨"turn-2"⟩),
    demoRecord 7 (.conversationRewound ⟨"turn-2"⟩ [⟨"turn-2"⟩] .native [])]

theorem rewound_prompt_searchable :
    AgreeApart (rewoundTurnIds (demoRewound "secret")) (demoRewound "secret")
      (demoRewound "other") ∧
    buildSearchText (demoRewound "secret") = "User: hello\n\nQueued follow-up: secret" ∧
    buildSearchText (demoRewound "other") ≠ buildSearchText (demoRewound "secret") := by
  refine ⟨⟨.inl rfl, .inr ⟨by decide, by decide⟩, .inl rfl, .inr ⟨by decide, by decide⟩, .inl rfl,
    .inl rfl, .inl rfl, trivial⟩, ?_, ?_⟩
  · decide +kernel
  · decide +kernel

end QueuedThenRewound

end DevCommandCenter.Search
