import DevCommandCenter.Mobile.ThreadEvents
import DevCommandCenter.Session.OpenRequests
import Mathlib.Data.List.Nodup

/-! The phone's own account of what a session waits for, beside the desktop's. -/

namespace DevCommandCenter.Mobile

structure QuestionRequest where
  requestId : String
  questions : List ProviderUserInputQuestion
  askedAt : String
  deriving DecidableEq, Repr

def trackQuestion (pending : Library.InsertionMap String QuestionRequest)
    (event : SessionEventRecord) : Library.InsertionMap String QuestionRequest :=
  match event.kind with
  | .turnUserInputRequested _ id questions =>
      -- an empty id is falsy
      if id.isEmpty then pending
      else pending.set id { requestId := id, questions := questions, askedAt := event.occurredAt }
  | .turnUserInputResolved _ id _ => if id.isEmpty then pending else pending.delete id
  | _ => pending

def pendingQuestions (events : List SessionEventRecord) : List QuestionRequest :=
  let ordered := events.mergeSort fun a b => a.sequence ≤ b.sequence
  (ordered.foldl trackQuestion .empty).entries.map Prod.snd

inductive LiveStatus
  | running
  | completed
  | aborted
  | limited
  deriving DecidableEq, Repr

structure PendingItem (Thread : Type) where
  thread : Thread
  requestId : String
  question : String
  choices : List Choice
  askedAt : String
  deriving DecidableEq, Repr

structure Classification where
  requested : Library.InsertionMap String SessionEventRecord
  resolved : List String
  live : Bool
  lastEnd : Option LiveStatus
  limitedTurn : Option TurnId

def classifyEvent (state : Classification) (event : SessionEventRecord) : Classification :=
  match event.kind with
  | .turnStarted .. => { state with live := true, limitedTurn := none }
  | .usageLimitReached turnId .. => { state with limitedTurn := some turnId }
  | .turnCompleted _ | .sessionCompleted => { state with live := false, lastEnd := some .completed }
  | .turnAborted turnId _ =>
      let lastEnd := if state.limitedTurn = some turnId then LiveStatus.limited else .aborted
      { state with live := false, lastEnd := some lastEnd }
  | .sessionAborted _ => { state with live := false, lastEnd := some .aborted }
  | .turnPermissionRequested _ id .. => { state with requested := state.requested.set id event }
  | .turnPermissionResolved _ id _ => { state with resolved := id :: state.resolved }
  | _ => state

def permissionQuestionOf : SessionEventKind → String
  | .turnPermissionRequested _ _ _ title description command file =>
      permissionQuestion title description command file
  | _ => permissionQuestion none none none none

def classifySession {Thread : Type} (thread : Thread) (events : List SessionEventRecord) :
    Option LiveStatus × List (PendingItem Thread) :=
  let questions := (pendingQuestions events).map fun request =>
    { thread := thread
      requestId := request.requestId
      question := String.intercalate " · " (request.questions.map fun q => q.question)
      choices := []
      askedAt := request.askedAt }
  let state := events.foldl classifyEvent {
    requested := .empty, resolved := [], live := false, lastEnd := none, limitedTurn := none }
  let permissions := (state.requested.entries.filter fun entry => entry.1 ∉ state.resolved).map
    fun (id, event) =>
      { thread := thread
        requestId := id
        question := permissionQuestionOf event.kind
        choices := defaultChoices
        askedAt := event.occurredAt }
  (if state.live then some .running else state.lastEnd, questions ++ permissions)

def needsYouIds {Thread : Type} (thread : Thread) (events : List SessionEventRecord) :
    List String :=
  (classifySession thread events).2.map PendingItem.requestId

def Asked (log : List SessionEventRecord) (kind : RequestKind) (id : String) : Prop :=
  ∃ before event after, log = before ++ event :: after ∧
    ∃ turnId, requested event.kind = some ⟨kind, id, turnId⟩ ∧ Unanswered ⟨kind, id, turnId⟩ after

section Questions

variable {log : List SessionEventRecord} {event : SessionEventRecord}

lemma asked_append {kind : RequestKind} {id : String} : Asked (log ++ [event]) kind id ↔
    (Asked log kind id ∧ answered event.kind ≠ some (kind, id)) ∨
      ∃ turnId, requested event.kind = some ⟨kind, id, turnId⟩ := by
  rw [Asked, Library.exists_split_append]
  simp only [Unanswered, Library.forall_mem_append_singleton, List.not_mem_nil, false_implies,
    implies_true, and_true]
  apply or_congr_left
  constructor
  · rintro ⟨before, asked, after, hlog, turnId, hasked, hafter, hanswered⟩
    exact ⟨⟨before, asked, after, hlog, turnId, hasked, hafter⟩, hanswered⟩
  · rintro ⟨⟨before, asked, after, hlog, turnId, hasked, hafter⟩, hanswered⟩
    exact ⟨before, asked, after, hlog, turnId, hasked, hafter, hanswered⟩

structure HoldsQuestions (pending : Library.InsertionMap String QuestionRequest)
    (log : List SessionEventRecord) : Prop where
  ids : ∀ id request, pending.get? id = some request → request.requestId = id
  asked : ∀ id, (pending.get? id).isSome = true ↔ id ≠ "" ∧ Asked log .question id

lemma holdsQuestions_trackQuestion {pending : Library.InsertionMap String QuestionRequest}
    (h : HoldsQuestions pending log) : HoldsQuestions (trackQuestion pending event) (log ++ [event]) := by
  cases hkind : event.kind with
  | turnUserInputRequested turnId id₀ questions =>
      have hasked : ∀ id, Asked (log ++ [event]) .question id ↔ Asked log .question id ∨ id₀ = id := by
        intro id
        simp [asked_append, hkind, requested, answered]
      simp only [trackQuestion, hkind]
      split
      · next hempty =>
        refine ⟨h.ids, fun id => ?_⟩
        rw [h.asked, hasked, String.isEmpty_iff.mp hempty]
        grind
      · next hempty =>
        have hne : id₀ ≠ "" := fun heq => hempty (String.isEmpty_iff.mpr heq)
        refine ⟨fun id request hget => ?_, fun id => ?_⟩
        · rw [Library.InsertionMap.get?_set] at hget
          split at hget
          · next heq =>
            cases hget
            exact heq.symm
          · exact h.ids id request hget
        · rw [Library.InsertionMap.get?_set, hasked]
          split
          · next heq => simp [heq, hne]
          · next hother => simp [h.asked, Ne.symm hother]
  | turnUserInputResolved turnId id₀ answers =>
      have hasked : ∀ id, Asked (log ++ [event]) .question id ↔ Asked log .question id ∧ id₀ ≠ id := by
        intro id
        simp [asked_append, hkind, requested, answered]
      simp only [trackQuestion, hkind]
      split
      · next hempty =>
        refine ⟨h.ids, fun id => ?_⟩
        rw [h.asked, hasked, String.isEmpty_iff.mp hempty]
        grind
      · refine ⟨fun id request hget => ?_, fun id => ?_⟩
        · rw [Library.InsertionMap.get?_delete] at hget
          split at hget
          · cases hget
          · exact h.ids id request hget
        · rw [Library.InsertionMap.get?_delete, hasked]
          split
          · next heq => simp [heq]
          · next hother => simp [h.asked, Ne.symm hother]
  | _ =>
      simp only [trackQuestion, hkind]
      refine ⟨h.ids, fun id => ?_⟩
      rw [h.asked, asked_append]
      simp [hkind, requested, answered]

lemma holdsQuestions_foldl {before : List SessionEventRecord}
    {pending : Library.InsertionMap String QuestionRequest} (h : HoldsQuestions pending before) :
    HoldsQuestions (log.foldl trackQuestion pending) (before ++ log) := by
  induction log generalizing before pending with
  | nil => simpa using h
  | cons event log ih =>
      rw [List.foldl_cons, List.append_cons]
      exact ih (holdsQuestions_trackQuestion h)

lemma mem_pendingQuestions (hsorted : log.Pairwise fun a b => a.sequence < b.sequence) {id : String} :
    (∃ request ∈ pendingQuestions log, request.requestId = id) ↔ id ≠ "" ∧ Asked log .question id := by
  have hsort : log.mergeSort (fun a b => a.sequence ≤ b.sequence) = log := by
    apply List.mergeSort_of_pairwise
    exact hsorted.imp fun hlt => decide_eq_true hlt.le
  have hempty : HoldsQuestions .empty [] := by
    refine ⟨fun id request hget => by simp at hget, fun id => ?_⟩
    refine iff_of_false (by simp) ?_
    rintro ⟨-, before, event, after, hlog, -⟩
    cases before <;> cases hlog
  have hholds : HoldsQuestions (log.foldl trackQuestion .empty) log := holdsQuestions_foldl hempty
  rw [pendingQuestions, hsort, ← hholds.asked, Option.isSome_iff_exists]
  simp only [List.mem_map, Prod.exists]
  constructor
  · rintro ⟨request, ⟨key, _, hentry, rfl⟩, rfl⟩
    have hget := Library.InsertionMap.get?_eq_some.mpr hentry
    rw [hholds.ids key _ hget]
    exact ⟨_, hget⟩
  · rintro ⟨request, hget⟩
    exact ⟨request, ⟨id, request, Library.InsertionMap.get?_eq_some.mp hget, rfl⟩,
      hholds.ids id request hget⟩

end Questions

section Permissions

variable {log : List SessionEventRecord} {event : SessionEventRecord}

structure HoldsPermissions (state : Classification) (log : List SessionEventRecord) : Prop where
  requested : ∀ id, (state.requested.get? id).isSome = true ↔
    ∃ event ∈ log, ∃ turnId, requested event.kind = some ⟨.permission, id, turnId⟩
  resolved : ∀ id, id ∈ state.resolved ↔ ∃ event ∈ log, answered event.kind = some (.permission, id)

lemma holdsPermissions_classifyEvent {state : Classification} (h : HoldsPermissions state log) :
    HoldsPermissions (classifyEvent state event) (log ++ [event]) := by
  have hexists : ∀ {p : SessionEventRecord → Prop},
      (∃ e ∈ log ++ [event], p e) ↔ (∃ e ∈ log, p e) ∨ p event := by
    intro p
    simp [or_and_right, exists_or]
  cases hkind : event.kind with
  | turnPermissionRequested turnId id₀ =>
      simp only [classifyEvent, hkind]
      refine ⟨fun id => ?_, fun id => ?_⟩
      · rw [Library.InsertionMap.get?_set, hexists]
        split
        · next heq => simp [hkind, requested, heq]
        · next hother => simp [hkind, requested, h.requested, Ne.symm hother]
      · rw [h.resolved, hexists]
        simp [hkind, answered]
  | turnPermissionResolved turnId id₀ behavior =>
      simp only [classifyEvent, hkind]
      refine ⟨fun id => ?_, fun id => ?_⟩
      · rw [h.requested, hexists]
        simp [hkind, requested]
      · rw [List.mem_cons, h.resolved, hexists, hkind]
        simp [answered, eq_comm, or_comm]
  | _ =>
      simp only [classifyEvent, hkind]
      refine ⟨fun id => ?_, fun id => ?_⟩
      · rw [h.requested, hexists]
        simp [hkind, requested]
      · rw [h.resolved, hexists]
        simp [hkind, answered]

lemma holdsPermissions_foldl {before : List SessionEventRecord} {state : Classification}
    (h : HoldsPermissions state before) :
    HoldsPermissions (log.foldl classifyEvent state) (before ++ log) := by
  induction log generalizing before state with
  | nil => simpa using h
  | cons event log ih =>
      rw [List.foldl_cons, List.append_cons]
      exact ih (holdsPermissions_classifyEvent h)

lemma mem_needsYouIds {Thread : Type} (thread : Thread)
    (hsorted : log.Pairwise fun a b => a.sequence < b.sequence) {id : String} :
    id ∈ needsYouIds thread log ↔
      (id ≠ "" ∧ Asked log .question id) ∨
      ((∃ event ∈ log, ∃ turnId, requested event.kind = some ⟨.permission, id, turnId⟩) ∧
        ∀ event ∈ log, answered event.kind ≠ some (.permission, id)) := by
  have hstart : HoldsPermissions
      { requested := .empty, resolved := [], live := false, lastEnd := none, limitedTurn := none } [] := by
    refine ⟨fun id => ?_, fun id => ?_⟩ <;> simp
  have hholds : HoldsPermissions (log.foldl classifyEvent
      { requested := .empty, resolved := [], live := false, lastEnd := none, limitedTurn := none })
      ([] ++ log) := holdsPermissions_foldl hstart
  rw [needsYouIds, classifySession, List.map_append, List.mem_append, ← mem_pendingQuestions hsorted]
  apply or_congr
  · simp
  · rw [List.nil_append] at hholds
    rw [← hholds.requested, Option.isSome_iff_exists]
    have hresolved : (∀ event ∈ log, answered event.kind ≠ some (.permission, id)) ↔
        id ∉ (log.foldl classifyEvent
          { requested := .empty, resolved := [], live := false, lastEnd := none,
            limitedTurn := none }).resolved := by
      rw [hholds.resolved]
      simp
    rw [hresolved]
    simp only [List.mem_map, List.mem_filter, decide_eq_true_eq, Prod.exists]
    constructor
    · rintro ⟨item, ⟨key, event, ⟨hentry, hunresolved⟩, rfl⟩, rfl⟩
      exact ⟨⟨event, Library.InsertionMap.get?_eq_some.mpr hentry⟩, hunresolved⟩
    · rintro ⟨⟨event, hget⟩, hunresolved⟩
      exact ⟨_, ⟨id, event, ⟨Library.InsertionMap.get?_eq_some.mp hget, hunresolved⟩, rfl⟩, rfl⟩

end Permissions

/-- The phone leaves out a question with an empty id, and a permission whose answer came first. -/
def Skipped (before : List SessionEventRecord) (request : Request) : Prop :=
  match request.kind with
  | .question => request.id = ""
  | .permission => ¬Unanswered request before

/-- Every request not answered since either belongs to the turn that runs at the end of the log, in
which it was made, or is one the phone leaves out. -/
def OnlyRunningTurnWaits (log : List SessionEventRecord) : Prop :=
  ∀ before event after request, log = before ++ event :: after →
    requested event.kind = some request → Unanswered request after →
      (Skipped before request ↔
        ¬(Running before request.turnId ∧ ∀ later ∈ after, endsTurn request.turnId later.kind = false))

def SameRequests {Thread : Type} (thread : Thread) (log : List SessionEventRecord) : Prop :=
  ∀ id, id ∈ needsYouIds thread log ↔
    ∃ event ∈ openTurnRequestEvents log, requestId event.kind = some id

section Agreement

variable {log : List SessionEventRecord}

lemma request_unique (hids : (log.filterMap fun event => requestId event.kind).Nodup)
    {before after before' after' : List SessionEventRecord} {event event' : SessionEventRecord}
    {id : String} (hlog : log = before ++ event :: after) (hlog' : log = before' ++ event' :: after')
    (hid : requestId event.kind = some id) (hid' : requestId event'.kind = some id) :
    before = before' ∧ event = event' ∧ after = after' := by
  have hnot : ∀ other ∈ before ++ after, requestId other.kind ≠ some id := by
    intro other hother heq
    rw [hlog, List.filterMap_append, List.filterMap_cons, hid] at hids
    have hnodup := List.perm_middle.nodup_iff.mp hids
    rw [← List.filterMap_append] at hnodup
    exact (List.nodup_cons.mp hnodup).1 (List.mem_filterMap.mpr ⟨other, hother, heq⟩)
  have hbefore : event' ∉ before := fun h => hnot event' (List.mem_append_left _ h) hid'
  have hafter : event' ∉ after := fun h => hnot event' (List.mem_append_right _ h) hid'
  exact (List.append_cons_inj_of_notMem hbefore hafter).mp (hlog.symm.trans hlog')

lemma answered_of_requested {event : SessionEventRecord} {request : Request}
    (h : requested event.kind = some request) : answered event.kind = none := by
  cases hkind : event.kind with
  | turnPermissionResolved => simp [hkind, requested] at h
  | turnUserInputResolved => simp [hkind, requested] at h
  | _ => rfl

section Request

variable {before after : List SessionEventRecord} {event : SessionEventRecord} {request : Request}

lemma asked_iff (hids : (log.filterMap fun event => requestId event.kind).Nodup)
    (hlog : log = before ++ event :: after) (hrequest : requested event.kind = some request)
    {kind : RequestKind} :
    Asked log kind request.id ↔ kind = request.kind ∧ Unanswered request after := by
  obtain ⟨kind₀, id, turnId₀⟩ := request
  constructor
  · rintro ⟨before', event', after', hlog', turnId, hrequest', hunanswered⟩
    obtain ⟨rfl, rfl, rfl⟩ := request_unique hids hlog hlog' (requested_asks hrequest).2
      (requested_asks hrequest').2
    rw [hrequest] at hrequest'
    cases hrequest'
    exact ⟨rfl, hunanswered⟩
  · rintro ⟨rfl, hunanswered⟩
    exact ⟨before, event, after, hlog, turnId₀, hrequest, hunanswered⟩

lemma stillOpen_iff (hids : (log.filterMap fun event => requestId event.kind).Nodup)
    (hlog : log = before ++ event :: after) (hrequest : requested event.kind = some request) :
    (∃ kind turnId, StillOpen log ⟨kind, request.id, turnId⟩) ↔ Unanswered request after ∧
      Running before request.turnId ∧ ∀ later ∈ after, endsTurn request.turnId later.kind = false := by
  obtain ⟨kind₀, id, turnId₀⟩ := request
  constructor
  · rintro ⟨kind, turnId, before', event', after', hlog', hrequest', hrunning, hends, hunanswered⟩
    obtain ⟨rfl, rfl, rfl⟩ := request_unique hids hlog hlog' (requested_asks hrequest).2
      (requested_asks hrequest').2
    rw [hrequest] at hrequest'
    cases hrequest'
    exact ⟨hunanswered, hrunning, hends⟩
  · rintro ⟨hunanswered, hrunning, hends⟩
    exact ⟨kind₀, turnId₀, before, event, after, hlog, hrequest, hrunning, hends, hunanswered⟩

lemma needsYou_iff {Thread : Type} (thread : Thread)
    (hsorted : log.Pairwise fun a b => a.sequence < b.sequence)
    (hids : (log.filterMap fun event => requestId event.kind).Nodup)
    (hlog : log = before ++ event :: after) (hrequest : requested event.kind = some request) :
    request.id ∈ needsYouIds thread log ↔ Unanswered request after ∧ ¬Skipped before request := by
  obtain ⟨kind₀, id, turnId₀⟩ := request
  have hpermission : (∃ other ∈ log, ∃ turnId,
      requested other.kind = some ⟨.permission, id, turnId⟩) ↔ kind₀ = .permission := by
    constructor
    · rintro ⟨other, hother, turnId, hrequest'⟩
      obtain ⟨before', after', hlog'⟩ := List.append_of_mem hother
      obtain ⟨-, rfl, -⟩ := request_unique hids hlog hlog' (requested_asks hrequest).2
        (requested_asks hrequest').2
      rw [hrequest] at hrequest'
      cases hrequest'
      rfl
    · intro hkind
      refine ⟨event, by simp [hlog], turnId₀, ?_⟩
      rw [hrequest, ← hkind]
  rw [mem_needsYouIds thread hsorted, asked_iff hids hlog hrequest, hpermission]
  cases kind₀ with
  | question => simp [Skipped, and_comm]
  | permission =>
      have hself := answered_of_requested hrequest
      simp [Skipped, Unanswered, hlog, or_imp, forall_and, hself, and_comm]

end Request

theorem sameRequests_iff {Thread : Type} (thread : Thread) (store : EventStore) (sessionId : SessionId)
    (hids : ((store.listEventsBySession sessionId).filterMap fun event =>
      requestId event.kind).Nodup) :
    SameRequests thread (store.listEventsBySession sessionId) ↔
      OnlyRunningTurnWaits (store.listEventsBySession sessionId) := by
  have hsorted := store.log_sorted sessionId
  generalize store.listEventsBySession sessionId = log at hids hsorted ⊢
  constructor
  · intro h before event after request hlog hrequest hunanswered
    have hsame := h request.id
    rw [mem_openTurnRequestEvents, needsYou_iff thread hsorted hids hlog hrequest,
      stillOpen_iff hids hlog hrequest] at hsame
    simp only [hunanswered, true_and] at hsame
    exact (not_iff_comm.mp hsame).symm
  · intro h id
    rw [mem_openTurnRequestEvents]
    by_cases hmade : ∃ event ∈ log, ∃ kind turnId, requested event.kind = some ⟨kind, id, turnId⟩
    · obtain ⟨event, hevent, kind, turnId, hrequest⟩ := hmade
      obtain ⟨before, after, hlog⟩ := List.append_of_mem hevent
      rw [needsYou_iff thread hsorted hids hlog hrequest, stillOpen_iff hids hlog hrequest]
      apply and_congr_right
      intro hunanswered
      exact not_iff_comm.mp (h before event after _ hlog hrequest hunanswered).symm
    · refine iff_of_false (fun hneeds => ?_) fun hopen => ?_
      · rcases (mem_needsYouIds thread hsorted).mp hneeds with ⟨-, hasked⟩ | ⟨hasked, -⟩
        · obtain ⟨before, event, after, rfl, turnId, hrequest, -⟩ := hasked
          exact hmade ⟨event, by simp, .question, turnId, hrequest⟩
        · obtain ⟨event, hevent, turnId, hrequest⟩ := hasked
          exact hmade ⟨event, hevent, .permission, turnId, hrequest⟩
      · obtain ⟨kind, turnId, before, event, after, rfl, hrequest, -⟩ := hopen
        exact hmade ⟨event, by simp, kind, turnId, hrequest⟩

end Agreement

section FinishedTurn

def demoFinishedStore : EventStore :=
  [.turnStarted ⟨"turn-1"⟩ "first" none none none none none,
    .turnPermissionRequested ⟨"turn-1"⟩ "request-1" "Bash" none none (some "ls") none,
    .turnCompleted ⟨"turn-1"⟩].foldl (fun store kind => (store.appendEvent {
      eventId := "event-" ++ toString store.rows.length
      sessionId := ⟨"session-1"⟩
      sequence := 0
      occurredAt := "2026-08-02T10:00:00Z"
      kind := kind }).2) .empty

def demoFinished : List SessionEventRecord :=
  demoFinishedStore.listEventsBySession ⟨"session-1"⟩

lemma needsYouIds_demoFinished : "request-1" ∈ needsYouIds () demoFinished := by
  have hasked : demoFinished[1]? = some ⟨"event-1", ⟨"session-1"⟩, 2, "2026-08-02T10:00:00Z",
      .turnPermissionRequested ⟨"turn-1"⟩ "request-1" "Bash" none none (some "ls") none⟩ := by
    decide +kernel
  refine (mem_needsYouIds () (demoFinishedStore.log_sorted ⟨"session-1"⟩)).mpr (.inr ⟨?_, ?_⟩)
  · exact ⟨_, List.mem_of_getElem? hasked, ⟨"turn-1"⟩, rfl⟩
  · decide +kernel

lemma openTurnRequestEvents_demoFinished : openTurnRequestEvents demoFinished = [] := by
  decide +kernel

theorem sameRequests_iff_demo : ¬OnlyRunningTurnWaits demoFinished := by
  intro hwaits
  have hsame := (sameRequests_iff () demoFinishedStore ⟨"session-1"⟩ (by decide +kernel)).mpr hwaits
  obtain ⟨event, hevent, -⟩ := (hsame "request-1").mp needsYouIds_demoFinished
  rw [show demoFinishedStore.listEventsBySession ⟨"session-1"⟩ = demoFinished from rfl,
    openTurnRequestEvents_demoFinished] at hevent
  cases hevent

theorem finished_turn_offered :
    (demoFinished.filterMap fun event => requestId event.kind).Nodup ∧
    "request-1" ∈ needsYouIds () demoFinished ∧ openTurnRequestEvents demoFinished = [] ∧
    ¬SameRequests () demoFinished := by
  refine ⟨by decide +kernel, needsYouIds_demoFinished, openTurnRequestEvents_demoFinished,
    fun hsame => ?_⟩
  obtain ⟨event, hevent, -⟩ := (hsame "request-1").mp needsYouIds_demoFinished
  rw [openTurnRequestEvents_demoFinished] at hevent
  cases hevent

end FinishedTurn

end DevCommandCenter.Mobile
