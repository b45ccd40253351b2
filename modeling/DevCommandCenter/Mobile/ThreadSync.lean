import DevCommandCenter.Library.Sequences
import DevCommandCenter.Mobile.Triage
import DevCommandCenter.Session.DeltaCompaction

/-! The phone's thread kept in sync with the desktop's log. -/

namespace DevCommandCenter.Mobile

structure EventsDelta where
  events : List SessionEventRecord
  lastSeq : ℕ
  hasMore : Bool
  reset : Bool
  deriving DecidableEq, Repr

def replayPage : ℕ := 500

def deltaPathLimit : ℕ := 500

def sessionEventsMaxLimit : ℕ := 2000

def listSessionEventsHandler (store : EventStore) (sessionId : SessionId) (after limit : ℕ) :
    EventsDelta :=
  if store.cursorInsideCompactedRun sessionId after then
    { events := [], lastSeq := 0, hasMore := false, reset := true }
  else
    let limit := max 1 (min limit sessionEventsMaxLimit)
    let events := store.listEventsBySessionAfter sessionId after (limit + 1)
    { events := events.take limit
      lastSeq := store.lastEventSequence sessionId
      hasMore := decide (limit < events.length)
      reset := false }

inductive ResetReason
  | historyShrank
  | historyCompacted
  | rewind
  deriving DecidableEq, Repr

inductive DeltaPlan
  | apply (events : List SessionEventRecord) (cursor : ℕ) (more : Bool)
  | reset (reason : ResetReason)
  deriving DecidableEq, Repr

def isRewind (event : SessionEventRecord) : Bool :=
  match event.kind with
  | .conversationRewound .. => true
  | _ => false

def maxSequence (events : List SessionEventRecord) (floor : ℕ) : ℕ :=
  events.foldl (fun max event => Nat.max max event.sequence) floor

def planDelta (cursor : ℕ) (delta : EventsDelta) : DeltaPlan :=
  if delta.reset then .reset .historyCompacted
  else if delta.lastSeq < cursor then .reset .historyShrank
  else
    let events := (delta.events.filter fun event => cursor < event.sequence).mergeSort
      fun a b => a.sequence ≤ b.sequence
    if events.any isRewind then .reset .rewind
    else .apply events (maxSequence events cursor) delta.hasMore

structure ThreadSnapshot where
  state : ThreadState
  questions : List QuestionRequest
  loading : Bool
  error : Option String
  lastSynced : Option ℕ

inductive Mode
  | delta
  | full
  deriving DecidableEq, Repr

structure ThreadSync where
  snapshot : ThreadSnapshot
  held : List SessionEventRecord
  cursor : ℕ
  running : Bool
  queued : Option Mode
  pending : Option Mode
  timer : Bool
  subscribed : Bool
  opened : Bool
  stopped : Bool

def ThreadSync.new : ThreadSync where
  snapshot :=
    { state := createThreadState, questions := [], loading := true, error := none, lastSynced := none }
  held := []
  cursor := 0
  running := false
  queued := none
  pending := none
  timer := false
  subscribed := false
  opened := false
  stopped := false

inductive Flight
  | full
  | fullAnswer (events : List SessionEventRecord)
  | delta (after : ℕ)
  | deltaAnswer (after : ℕ) (delta : EventsDelta)
  deriving DecidableEq, Repr

namespace ThreadSync

def strongest (mode : Option Mode) (mode' : Mode) : Mode :=
  if mode = some .full ∨ mode' = .full then .full else .delta

def schedule (mode : Mode) (sync : ThreadSync) : ThreadSync :=
  if sync.stopped then sync
  else { sync with pending := some (strongest sync.pending mode), timer := true }

def publish (patch : ThreadSnapshot → ThreadSnapshot) (sync : ThreadSync) : ThreadSync :=
  if sync.stopped then sync else { sync with snapshot := patch sync.snapshot }

def apply (labels : Labels) (now : ℕ) (events : List SessionEventRecord) (sync : ThreadSync) :
    ThreadSync :=
  let fresh := events.filter fun event => sync.cursor < event.sequence
  if fresh.isEmpty then sync
  else
    let held := sync.held ++ fresh
    publish (fun snapshot =>
      { snapshot with
        state := applyEvents labels snapshot.state fresh
        questions := pendingQuestions held
        error := none
        lastSynced := some now })
      { sync with cursor := maxSequence fresh sync.cursor, held := held }

def replaceAll (labels : Labels) (now : ℕ) (events : List SessionEventRecord) (sync : ThreadSync) :
    ThreadSync :=
  publish (fun snapshot =>
    { snapshot with
      state := applyEvents labels createThreadState events
      questions := pendingQuestions events
      error := none
      lastSynced := some now })
    { sync with held := events, cursor := maxSequence events 0 }

def sync (mode : Mode) (sync : ThreadSync) : ThreadSync × Option Flight :=
  if sync.stopped then (sync, none)
  else if sync.running then ({ sync with queued := some (strongest sync.queued mode) }, none)
  else
    let flight := match mode with
      | .full => Flight.full
      | .delta => Flight.delta sync.cursor
    ({ sync with running := true }, some flight)

def finish (sync : ThreadSync) : ThreadSync :=
  let sync := publish (fun snapshot => { snapshot with loading := false })
    { sync with running := false, subscribed := sync.subscribed || !sync.stopped }
  match sync.queued with
  | some next => if sync.stopped then sync else schedule next { sync with queued := none }
  | none => sync

def onFailure (message : String) (sync : ThreadSync) : ThreadSync :=
  finish (publish (fun snapshot => { snapshot with error := some message }) sync)

def onFull (labels : Labels) (now : ℕ) (events : List SessionEventRecord) (sync : ThreadSync) :
    ThreadSync :=
  finish (if sync.stopped then sync else replaceAll labels now events sync)

def takePage (labels : Labels) (now : ℕ) (events : List SessionEventRecord) (sync : ThreadSync) :
    ThreadSync :=
  if events.isEmpty then
    publish (fun snapshot => { snapshot with error := none, lastSynced := some now }) sync
  else apply labels now events sync

def onDelta (labels : Labels) (now : ℕ) (delta : EventsDelta) (sync : ThreadSync) :
    ThreadSync × Option Flight :=
  if sync.stopped then (finish sync, none)
  else
    match planDelta sync.cursor delta with
    | .reset _ => (sync, some .full)
    | .apply events _ more =>
        let sync := takePage labels now events sync
        if more then (sync, some (.delta sync.cursor)) else (finish sync, none)

end ThreadSync

inductive StreamFrame
  | replay (event : SessionEventRecord)
  | resync
  | live (sessionId : Option String)
  deriving DecidableEq, Repr

def ThreadSync.onStreamEvent (labels : Labels) (threadId : SessionId) (now : ℕ) (frame : StreamFrame)
    (sync : ThreadSync) : ThreadSync :=
  match frame with
  | .resync => sync.schedule .full
  | .replay raw =>
      if raw.sequence ≤ sync.cursor then sync
      else if isRewind raw then sync.schedule .full
      else sync.apply labels now [raw]
  | .live sessionId => if sessionId = some threadId.value then sync.schedule .delta else sync

def ThreadSync.timerFired (sync : ThreadSync) : ThreadSync × Option Flight :=
  let next := sync.pending.getD .delta
  ThreadSync.sync next { sync with timer := false, pending := none }

section Effects

variable {sync : ThreadSync} {mode : Mode} {patch : ThreadSnapshot → ThreadSnapshot} {labels : Labels}
  {now : ℕ} {events : List SessionEventRecord} {message : String}

namespace ThreadSync

@[simp] lemma publish_held : (publish patch sync).held = sync.held := by
  unfold publish
  split <;> rfl

@[simp] lemma publish_cursor : (publish patch sync).cursor = sync.cursor := by
  unfold publish
  split <;> rfl

@[simp] lemma publish_running : (publish patch sync).running = sync.running := by
  unfold publish
  split <;> rfl

@[simp] lemma schedule_held : (schedule mode sync).held = sync.held := by
  unfold schedule
  split <;> rfl

@[simp] lemma schedule_cursor : (schedule mode sync).cursor = sync.cursor := by
  unfold schedule
  split <;> rfl

@[simp] lemma schedule_running : (schedule mode sync).running = sync.running := by
  unfold schedule
  split <;> rfl

@[simp] lemma finish_held : (finish sync).held = sync.held := by
  unfold finish
  dsimp only
  split
  · split <;> simp
  · simp

@[simp] lemma finish_cursor : (finish sync).cursor = sync.cursor := by
  unfold finish
  dsimp only
  split
  · split <;> simp
  · simp

@[simp] lemma finish_running : (finish sync).running = false := by
  unfold finish
  dsimp only
  split
  · split <;> simp
  · simp

@[simp] lemma apply_held : (apply labels now events sync).held =
    sync.held ++ events.filter fun event => sync.cursor < event.sequence := by
  unfold apply
  dsimp only
  split
  · next hempty => rw [List.isEmpty_iff.mp hempty, List.append_nil]
  · simp

@[simp] lemma apply_cursor : (apply labels now events sync).cursor =
    maxSequence (events.filter fun event => sync.cursor < event.sequence) sync.cursor := by
  unfold apply
  dsimp only
  split
  · next hempty =>
    rw [List.isEmpty_iff.mp hempty]
    rfl
  · simp

@[simp] lemma apply_running : (apply labels now events sync).running = sync.running := by
  unfold apply
  dsimp only
  split <;> simp

@[simp] lemma takePage_held : (takePage labels now events sync).held =
    sync.held ++ events.filter fun event => sync.cursor < event.sequence := by
  unfold takePage
  split
  · next hempty => simp [List.isEmpty_iff.mp hempty]
  · exact apply_held

@[simp] lemma takePage_cursor : (takePage labels now events sync).cursor =
    maxSequence (events.filter fun event => sync.cursor < event.sequence) sync.cursor := by
  unfold takePage
  split
  · next hempty => simp [List.isEmpty_iff.mp hempty, maxSequence]
  · exact apply_cursor

@[simp] lemma takePage_running : (takePage labels now events sync).running = sync.running := by
  unfold takePage
  split <;> simp

@[simp] lemma replaceAll_held : (replaceAll labels now events sync).held = events := by
  simp [replaceAll]

@[simp] lemma replaceAll_cursor :
    (replaceAll labels now events sync).cursor = maxSequence events 0 := by
  simp [replaceAll]

@[simp] lemma onFailure_held : (onFailure message sync).held = sync.held := by
  simp [onFailure]

@[simp] lemma onFailure_cursor : (onFailure message sync).cursor = sync.cursor := by
  simp [onFailure]

@[simp] lemma onFailure_running : (onFailure message sync).running = false := by
  simp [onFailure]

@[simp] lemma onStreamEvent_running {threadId : SessionId} {frame : StreamFrame} :
    (sync.onStreamEvent labels threadId now frame).running = sync.running := by
  unfold onStreamEvent
  split
  · exact schedule_running
  · split_ifs <;> simp
  · split_ifs <;> simp

lemma sync_cases (mode : Mode) (sync : ThreadSync) :
    (ThreadSync.sync mode sync).1.held = sync.held ∧
      (ThreadSync.sync mode sync).1.cursor = sync.cursor ∧
      ((ThreadSync.sync mode sync).2 = none ∧
          (ThreadSync.sync mode sync).1.running = sync.running ∨
        ((ThreadSync.sync mode sync).2 = some .full ∨
            (ThreadSync.sync mode sync).2 = some (.delta sync.cursor)) ∧
          sync.running = false ∧ (ThreadSync.sync mode sync).1.running = true) := by
  unfold ThreadSync.sync
  split
  · exact ⟨rfl, rfl, .inl ⟨rfl, rfl⟩⟩
  · split
    · exact ⟨rfl, rfl, .inl ⟨rfl, rfl⟩⟩
    · next hrunning =>
      refine ⟨rfl, rfl, .inr ⟨?_, by simpa using hrunning, rfl⟩⟩
      cases mode with
      | full => exact .inl rfl
      | delta => exact .inr rfl

end ThreadSync

lemma planDelta_cases (cursor : ℕ) (delta : EventsDelta) :
    (∃ reason, planDelta cursor delta = .reset reason) ∨
    ∃ fresh, fresh = (delta.events.filter fun event => cursor < event.sequence).mergeSort
        (fun a b => a.sequence ≤ b.sequence) ∧
      (∀ event ∈ fresh, isRewind event = false) ∧
      planDelta cursor delta = .apply fresh (maxSequence fresh cursor) delta.hasMore := by
  unfold planDelta
  split
  · exact .inl ⟨_, rfl⟩
  · split
    · exact .inl ⟨_, rfl⟩
    · dsimp only
      split
      · exact .inl ⟨_, rfl⟩
      · next hrewind => exact .inr ⟨_, rfl, by simpa using hrewind, rfl⟩

lemma le_maxSequence (events : List SessionEventRecord) (floor : ℕ) :
    floor ≤ maxSequence events floor ∧ ∀ event ∈ events, event.sequence ≤ maxSequence events floor := by
  induction events generalizing floor with
  | nil => exact ⟨le_rfl, by simp⟩
  | cons event events ih =>
      obtain ⟨hfloor, hevents⟩ := ih (max floor event.sequence)
      refine ⟨(le_max_left _ _).trans hfloor, fun other hother => ?_⟩
      rcases List.mem_cons.mp hother with rfl | hother
      · exact (le_max_right _ _).trans hfloor
      · exact hevents other hother

lemma maxSequence_eq (events : List SessionEventRecord) (floor : ℕ) :
    maxSequence events floor = floor ∨
      ∃ event ∈ events, event.sequence = maxSequence events floor := by
  induction events generalizing floor with
  | nil => exact .inl rfl
  | cons event events ih =>
      have hcons : maxSequence (event :: events) floor =
          maxSequence events (max floor event.sequence) := rfl
      rw [hcons]
      obtain hsame | ⟨other, hother, heq⟩ := ih (max floor event.sequence)
      · rw [hsame]
        rcases le_total event.sequence floor with h | h
        · exact .inl (max_eq_left h)
        · exact .inr ⟨event, List.mem_cons_self .., (max_eq_right h).symm⟩
      · exact .inr ⟨other, List.mem_cons_of_mem _ hother, heq⟩

end Effects

end DevCommandCenter.Mobile
