import DevCommandCenter.Library.Transition
import DevCommandCenter.Mobile.RewoundThread
import DevCommandCenter.Mobile.ThreadSync

/-! The phone's thread over every order of appends, answers, replays and failures. -/

namespace DevCommandCenter.Mobile

open Library

structure EventStream where
  cursor : ℕ
  replaying : Bool
  frames : List StreamFrame

structure ThreadLink where
  store : EventStore
  phone : ThreadSync
  request : Option Flight
  stream : Option EventStream
  fulls : List (List SessionEventRecord)

inductive LinkAction
  | append (event : SessionEventRecord)
  | answer
  | deliver (now : ℕ)
  | fail (message : String)
  | openStream
  | sendReplay
  | sendLive (sessionId : Option String)
  | sendResync
  | receive (now : ℕ)
  | closeStream
  | timer
  | poll
  | nudge
  | stop
  deriving DecidableEq, Repr

namespace ThreadLink

def start (store : EventStore) : ThreadLink where
  store := store
  phone := (ThreadSync.sync .full .new).1
  request := (ThreadSync.sync .full .new).2
  stream := none
  fulls := []

def log (threadId : SessionId) (link : ThreadLink) : List SessionEventRecord :=
  link.store.listEventsBySession threadId

def answer (threadId : SessionId) (link : ThreadLink) : Option Flight :=
  match link.request with
  | some .full => some (.fullAnswer (link.log threadId))
  | some (.delta after) =>
      some (.deltaAnswer after (listSessionEventsHandler link.store threadId after deltaPathLimit))
  | _ => none

def deliver (labels : Labels) (now : ℕ) (link : ThreadLink) : Option ThreadLink :=
  match link.request with
  | some (.fullAnswer events) => some { link with
      phone := link.phone.onFull labels now events
      request := none
      fulls := if link.phone.stopped then link.fulls else link.fulls ++ [events] }
  | some (.deltaAnswer _ delta) => some { link with
      phone := (link.phone.onDelta labels now delta).1
      request := (link.phone.onDelta labels now delta).2 }
  | _ => none

def openStream (link : ThreadLink) : ThreadLink where
  store := link.store
  phone :=
    { if link.phone.opened then link.phone.schedule .delta else link.phone with opened := true }
  request := link.request
  stream := some { cursor := link.phone.cursor, replaying := true, frames := [] }
  fulls := link.fulls

def sendReplay (store : EventStore) (threadId : SessionId) (stream : EventStream) : EventStream :=
  let page := listSessionEventsHandler store threadId stream.cursor replayPage
  if page.reset then
    { stream with replaying := false, frames := stream.frames ++ [.resync] }
  else
    { cursor := maxSequence page.events stream.cursor
      replaying := page.hasMore
      frames := stream.frames ++ page.events.map .replay }

def send (frame : StreamFrame) (stream : EventStream) : EventStream :=
  { stream with frames := stream.frames ++ [frame] }

def receive (labels : Labels) (threadId : SessionId) (now : ℕ) (link : ThreadLink) :
    Option ThreadLink :=
  match link.stream with
  | some stream =>
      match stream.frames with
      | frame :: frames => some { link with
          phone := link.phone.onStreamEvent labels threadId now frame
          stream := some { stream with frames := frames } }
      | [] => none
  | none => none

def step (labels : Labels) (threadId : SessionId) (link : ThreadLink) :
    LinkAction → Option ThreadLink
  | .append event => some { link with store := (link.store.appendEvent event).2 }
  | .answer => (link.answer threadId).map fun flight => { link with request := some flight }
  | .deliver now => link.deliver labels now
  | .fail message =>
      link.request.map fun _ => { link with phone := link.phone.onFailure message, request := none }
  | .openStream =>
      if link.phone.subscribed && !link.phone.stopped then some link.openStream else none
  | .sendReplay => (link.stream.filter fun stream => stream.replaying).map fun stream =>
      { link with stream := some (sendReplay link.store threadId stream) }
  | .sendLive sessionId => (link.stream.filter fun stream => !stream.replaying).map fun stream =>
      { link with stream := some (send (.live sessionId) stream) }
  | .sendResync => (link.stream.filter fun stream => !stream.replaying).map fun stream =>
      { link with stream := some (send .resync stream) }
  | .receive now => link.receive labels threadId now
  | .closeStream => some { link with stream := none }
  | .timer =>
      if link.phone.timer then
        some { link with
          phone := link.phone.timerFired.1, request := link.phone.timerFired.2.or link.request }
      else none
  | .poll => if link.phone.stopped then none else some { link with phone := link.phone.schedule .delta }
  | .nudge => some { link with phone := link.phone.schedule .delta }
  | .stop =>
      some { link with phone := { link.phone with stopped := true, timer := false }, stream := none }

end ThreadLink

def threadSyncing (labels : Labels) (threadId : SessionId) (store : EventStore) :
    System ThreadLink LinkAction Unit where
  start := .start store
  step link action := (link.step labels threadId action).map fun next => ((), next)

structure NoHole (threadId : SessionId) (link : ThreadLink) : Prop where
  held : link.phone.held =
    (link.log threadId).filter fun event => event.sequence ≤ link.phone.cursor
  rewinds : ∀ event ∈ link.log threadId, isRewind event = true →
    event.sequence ≤ link.phone.cursor → ∃ full ∈ link.fulls, event ∈ full

/-- Whether a replayed event that the phone takes on is the next one of the log after its cursor. -/
def takesOnNext (threadId : SessionId) (link : ThreadLink) : LinkAction → Bool
  | .receive _ =>
      match link.stream.bind fun stream => stream.frames.head? with
      | some (.replay raw) =>
          decide (raw.sequence ≤ link.phone.cursor) || isRewind raw ||
            (link.log threadId).all fun event =>
              decide (event.sequence ≤ link.phone.cursor) || decide (raw.sequence ≤ event.sequence)
      | _ => true
  | _ => true

def Flight.Tracks (log : List SessionEventRecord) (cursor : ℕ) : Flight → Prop
  | .full => True
  | .fullAnswer events => events <+: log
  | .delta after => after ≤ cursor
  | .deltaAnswer after page =>
      after ≤ cursor ∧ page.events <+: log.filter fun event => after < event.sequence

structure Linked (threadId : SessionId) (link : ThreadLink) : Prop where
  cursor : link.phone.cursor = 0 ∨ ∃ event ∈ link.log threadId, link.phone.cursor ≤ event.sequence
  oneRequest : link.request.isSome = link.phone.running
  request : ∀ flight ∈ link.request, flight.Tracks (link.log threadId) link.phone.cursor
  replays : ∀ stream ∈ link.stream, ∀ raw, .replay raw ∈ stream.frames → raw ∈ link.log threadId

section Desktop

variable {threadId : SessionId} {store : EventStore} {after limit : ℕ}

lemma listSessionEventsHandler_leads :
    (listSessionEventsHandler store threadId after limit).events <+:
      (store.listEventsBySession threadId).filter fun event => after < event.sequence := by
  unfold listSessionEventsHandler
  dsimp only
  split
  · exact List.nil_prefix
  · have hpage : (store.listEventsBySession threadId).filter (fun event => after < event.sequence) =
        ((sessionRows store.rows threadId).filter fun row => after < row.sequence).map
          EventRow.record := by
      rw [EventStore.listEventsBySession, List.filter_map]
      rfl
    rw [hpage, EventStore.listEventsBySessionAfter, List.map_take]
    exact (List.take_prefix _ _).trans (List.take_prefix _ _)

lemma mem_of_mem_handler {event : SessionEventRecord}
    (h : event ∈ (listSessionEventsHandler store threadId after limit).events) :
    event ∈ store.listEventsBySession threadId :=
  List.mem_of_mem_filter (listSessionEventsHandler_leads.subset h)

lemma log_appendEvent (store : EventStore) (threadId : SessionId) (event : SessionEventRecord) :
    (store.appendEvent event).2.listEventsBySession threadId = store.listEventsBySession threadId ∨
    ∃ new, (store.appendEvent event).2.listEventsBySession threadId =
      store.listEventsBySession threadId ++ [new] := by
  obtain ⟨_, hr⟩ | ⟨_, _, _, hr⟩ | ⟨-, -, -, hr⟩ := appendEventRows_cases store.rows event
  · exact .inl (by simp only [EventStore.listEventsBySession, EventStore.appendEvent, hr])
  · exact .inl (by simp only [EventStore.listEventsBySession, EventStore.appendEvent, hr])
  · by_cases hsession : event.sessionId = threadId
    · refine .inr ⟨(newEventRow event (DevCommandCenter.maxSequence store.rows event.sessionId + 1)).record, ?_⟩
      simp [EventStore.listEventsBySession, EventStore.appendEvent, hr, sessionRows, newEventRow,
        hsession]
    · refine .inl ?_
      simp [EventStore.listEventsBySession, EventStore.appendEvent, hr, sessionRows, newEventRow,
        hsession]

end Desktop

section Invariant

variable {threadId : SessionId} {labels : Labels} {link next : ThreadLink}
  {log log' : List SessionEventRecord} {cursor cursor' : ℕ} {flight : Flight}

lemma Flight.Tracks.mono (h : flight.Tracks log cursor) (hlog : log <+: log')
    (hcursor : cursor ≤ cursor') : flight.Tracks log' cursor' := by
  cases flight with
  | full => trivial
  | fullAnswer events => exact List.IsPrefix.trans h hlog
  | delta after => exact le_trans h hcursor
  | deltaAnswer after page => exact ⟨h.1.trans hcursor, h.2.trans (hlog.filter _)⟩

lemma maxSequence_le_log {events : List SessionEventRecord} {floor : ℕ}
    (hfloor : floor = 0 ∨ ∃ event ∈ log, floor ≤ event.sequence) (hsub : events ⊆ log) :
    maxSequence events floor = 0 ∨ ∃ event ∈ log, maxSequence events floor ≤ event.sequence := by
  obtain hsame | ⟨event, hevent, hmax⟩ := maxSequence_eq events floor
  · rwa [hsame]
  · exact .inr ⟨event, hsub hevent, hmax.ge⟩

lemma fresh_prefix {delta : EventsDelta} {after : ℕ}
    (hsorted : log.Pairwise fun a b => a.sequence < b.sequence)
    (h : (Flight.deltaAnswer after delta).Tracks log cursor) :
    (delta.events.filter fun event => cursor < event.sequence).mergeSort
        (fun a b => a.sequence ≤ b.sequence) =
      (delta.events.filter fun event => cursor < event.sequence) ∧
    (delta.events.filter fun event => cursor < event.sequence) <+:
      log.filter fun event => cursor < event.sequence := by
  obtain ⟨hafter, hleading⟩ := h
  have hfresh : (delta.events.filter fun event => cursor < event.sequence) <+:
      log.filter fun event => cursor < event.sequence := by
    have hfiltered := hleading.filter fun event => decide (cursor < event.sequence)
    rw [List.filter_filter] at hfiltered
    have hboth : log.filter (fun event =>
        decide (cursor < event.sequence) && decide (after < event.sequence)) =
        log.filter fun event => cursor < event.sequence := by
      apply List.filter_congr
      intro event _
      by_cases hlt : cursor < event.sequence
      · simp [hlt, lt_of_le_of_lt hafter hlt]
      · simp [hlt]
    rwa [hboth] at hfiltered
  refine ⟨?_, hfresh⟩
  apply List.mergeSort_of_pairwise
  have hlogged := (hsorted.filter fun event => decide (cursor < event.sequence)).sublist hfresh.sublist
  exact hlogged.imp fun hlt => decide_eq_true hlt.le

structure TakesOn (log : List SessionEventRecord) (sync sync' : ThreadSync)
    (fresh : List SessionEventRecord) : Prop where
  held : sync'.held = sync.held ++ fresh
  cursor : sync'.cursor = maxSequence fresh sync.cursor
  logged : fresh ⊆ log
  rewinds : ∀ event ∈ fresh, isRewind event = false

variable {sync sync' : ThreadSync} {fresh : List SessionEventRecord}

lemma TakesOn.nothing (hheld : sync'.held = sync.held) (hcursor : sync'.cursor = sync.cursor) :
    TakesOn log sync sync' [] where
  held := by rw [hheld, List.append_nil]
  cursor := hcursor
  logged := List.nil_subset _
  rewinds := by simp

lemma TakesOn.cursor_le (h : TakesOn log sync sync' fresh) : sync.cursor ≤ sync'.cursor := by
  rw [h.cursor]
  exact (le_maxSequence fresh sync.cursor).1

lemma TakesOn.cursor_le_log (h : TakesOn log sync sync' fresh)
    (hcursor : sync.cursor = 0 ∨ ∃ event ∈ log, sync.cursor ≤ event.sequence) :
    sync'.cursor = 0 ∨ ∃ event ∈ log, sync'.cursor ≤ event.sequence := by
  rw [h.cursor]
  exact maxSequence_le_log hcursor h.logged

lemma TakesOn.noHole_iff (htakes : TakesOn (link.log threadId) link.phone next.phone fresh)
    (h : NoHole threadId link) (hstore : next.store = link.store) (hfulls : next.fulls = link.fulls) :
    NoHole threadId next ↔
      fresh <+: (link.log threadId).filter fun event => link.phone.cursor < event.sequence := by
  have hlog : next.log threadId = link.log threadId := by rw [ThreadLink.log, hstore, ThreadLink.log]
  have hleading := filter_le_eq_append_iff (link.store.log_sorted threadId)
    (le_maxSequence fresh link.phone.cursor).2 (le_maxSequence fresh link.phone.cursor).1
    (maxSequence_eq fresh link.phone.cursor)
  have hheld : next.phone.held =
        (next.log threadId).filter (fun event => event.sequence ≤ next.phone.cursor) ↔
      fresh <+: (link.log threadId).filter fun event => link.phone.cursor < event.sequence := by
    rw [htakes.held, htakes.cursor, hlog, h.held]
    exact eq_comm.trans hleading
  refine ⟨fun hnext => hheld.mp hnext.held, fun hnext => ⟨hheld.mpr hnext, ?_⟩⟩
  intro event hevent hrewind hle
  have hmem : event ∈ next.phone.held := by
    rw [hheld.mpr hnext]
    exact List.mem_filter.mpr ⟨hevent, decide_eq_true hle⟩
  rw [htakes.held] at hmem
  rcases List.mem_append.mp hmem with hmem | hmem
  · rw [h.held] at hmem
    obtain ⟨hmem, hle⟩ := List.mem_filter.mp hmem
    rw [hfulls]
    exact h.rewinds event hmem hrewind (of_decide_eq_true hle)
  · rw [htakes.rewinds event hmem] at hrewind
    cases hrewind

lemma takePage_takesOn (labels : Labels) (now : ℕ)
    (hleading : fresh <+: log.filter fun event => sync.cursor < event.sequence)
    (hrewinds : ∀ event ∈ fresh, isRewind event = false) :
    TakesOn log sync (sync.takePage labels now fresh) fresh := by
  have hall : fresh.filter (fun event => sync.cursor < event.sequence) = fresh := by
    rw [List.filter_eq_self]
    intro event hevent
    exact (List.mem_filter.mp (hleading.subset hevent)).2
  refine ⟨?_, ?_, fun event hevent => List.mem_of_mem_filter (hleading.subset hevent), hrewinds⟩
  · rw [ThreadSync.takePage_held, hall]
  · rw [ThreadSync.takePage_cursor, hall]

lemma onDelta_takesOn (labels : Labels) (now : ℕ) {after : ℕ} {delta : EventsDelta}
    (hsorted : log.Pairwise fun a b => a.sequence < b.sequence)
    (h : (Flight.deltaAnswer after delta).Tracks log sync.cursor) (hrunning : sync.running = true) :
    ∃ fresh, TakesOn log sync (sync.onDelta labels now delta).1 fresh ∧
      fresh <+: log.filter (fun event => sync.cursor < event.sequence) ∧
      (sync.onDelta labels now delta).2.isSome = (sync.onDelta labels now delta).1.running ∧
      ∀ flight ∈ (sync.onDelta labels now delta).2,
        flight.Tracks log (sync.onDelta labels now delta).1.cursor := by
  obtain ⟨hsort, hleading⟩ := fresh_prefix hsorted h
  unfold ThreadSync.onDelta
  split
  · exact ⟨[], .nothing (by simp) (by simp), List.nil_prefix, by simp, by simp⟩
  · obtain ⟨reason, hplan⟩ | ⟨fresh, hfresh, hrewinds, hplan⟩ := planDelta_cases sync.cursor delta
    · rw [hplan]
      exact ⟨[], .nothing rfl rfl, List.nil_prefix, hrunning.symm, by simp [Flight.Tracks]⟩
    · rw [hsort] at hfresh
      rw [← hfresh] at hleading
      have htakes := takePage_takesOn labels now hleading hrewinds
      rw [hplan]
      dsimp only
      split
      · exact ⟨fresh, htakes, hleading, by simp [hrunning], by simp [Flight.Tracks]⟩
      · refine ⟨fresh, ⟨?_, ?_, htakes.logged, hrewinds⟩, hleading, by simp, by simp⟩
        · rw [ThreadSync.finish_held, htakes.held]
        · rw [ThreadSync.finish_cursor, htakes.cursor]

lemma onStreamEvent_takesOn (labels : Labels) (threadId : SessionId) (now : ℕ) (frame : StreamFrame)
    (hsorted : log.Pairwise fun a b => a.sequence < b.sequence)
    (h : ∀ raw, frame = .replay raw → raw ∈ log) :
    ∃ fresh, TakesOn log sync (sync.onStreamEvent labels threadId now frame) fresh ∧
      (fresh <+: log.filter (fun event => sync.cursor < event.sequence) ↔
        ∀ raw, frame = .replay raw → sync.cursor < raw.sequence → isRewind raw = false →
          ∀ event ∈ log, sync.cursor < event.sequence → raw.sequence ≤ event.sequence) := by
  have hnothing {sync' : ThreadSync} (hheld : sync'.held = sync.held)
      (hcursor : sync'.cursor = sync.cursor)
      (hskip : ∀ raw, frame = .replay raw → sync.cursor < raw.sequence → isRewind raw = true) :
      ∃ fresh, TakesOn log sync sync' fresh ∧
        (fresh <+: log.filter (fun event => sync.cursor < event.sequence) ↔
          ∀ raw, frame = .replay raw → sync.cursor < raw.sequence → isRewind raw = false →
            ∀ event ∈ log, sync.cursor < event.sequence → raw.sequence ≤ event.sequence) := by
    refine ⟨[], .nothing hheld hcursor, fun _ raw hframe hnew hrewind => ?_, fun _ => List.nil_prefix⟩
    rw [hskip raw hframe hnew] at hrewind
    cases hrewind
  cases frame with
  | resync => exact hnothing ThreadSync.schedule_held ThreadSync.schedule_cursor (by simp)
  | live sessionId =>
      simp only [ThreadSync.onStreamEvent]
      split
      · exact hnothing ThreadSync.schedule_held ThreadSync.schedule_cursor (by simp)
      · exact hnothing rfl rfl (by simp)
  | replay raw =>
      simp only [ThreadSync.onStreamEvent]
      split_ifs with hold hrewind
      · refine hnothing rfl rfl fun raw' heq hnew => ?_
        cases heq
        omega
      · refine hnothing ThreadSync.schedule_held ThreadSync.schedule_cursor fun raw' heq _ => ?_
        cases heq
        exact hrewind
      · have hraw := h raw rfl
        have hnew : sync.cursor < raw.sequence := by omega
        have hfresh : [raw].filter (fun event => sync.cursor < event.sequence) = [raw] := by
          simp [hnew]
        refine ⟨[raw], ⟨?_, ?_, by simpa using hraw, by simpa using hrewind⟩, ?_⟩
        · rw [ThreadSync.apply_held, hfresh]
        · rw [ThreadSync.apply_cursor, hfresh]
        · rw [singleton_prefix_iff (hsorted.filter _) (List.mem_filter.mpr ⟨hraw, by simpa using hnew⟩)]
          simp [hnew, hrewind]

structure KeepsLog (threadId : SessionId) (link next : ThreadLink) : Prop where
  store : next.store = link.store
  fulls : next.fulls = link.fulls
  oneRequest : next.request.isSome = next.phone.running
  request : ∀ flight ∈ next.request, flight.Tracks (link.log threadId) next.phone.cursor
  replays : ∀ stream ∈ next.stream, ∀ raw, .replay raw ∈ stream.frames → raw ∈ link.log threadId

lemma Linked.keepsLog (h : Linked threadId link) (hstore : next.store = link.store)
    (hfulls : next.fulls = link.fulls) (hrequest : next.request = link.request)
    (hrunning : next.phone.running = link.phone.running)
    (hcursor : link.phone.cursor ≤ next.phone.cursor)
    (hreplays : ∀ stream ∈ next.stream, ∀ raw, .replay raw ∈ stream.frames →
      raw ∈ link.log threadId) : KeepsLog threadId link next where
  store := hstore
  fulls := hfulls
  oneRequest := by rw [hrequest, hrunning, h.oneRequest]
  request := by
    rw [hrequest]
    exact fun flight hflight => (h.request flight hflight).mono List.prefix_rfl hcursor
  replays := hreplays

lemma Linked.replays_append (h : Linked threadId link) {stream : EventStream}
    (hstream : link.stream = some stream) {frames : List StreamFrame}
    (hframes : ∀ raw, .replay raw ∈ frames → raw ∈ link.log threadId) (raw : SessionEventRecord)
    (hraw : .replay raw ∈ stream.frames ++ frames) : raw ∈ link.log threadId := by
  rcases List.mem_append.mp hraw with hraw | hraw
  · exact h.replays stream hstream raw hraw
  · exact hframes raw hraw

lemma takesOnNext_receive {stream : EventStream} (hstream : link.stream = some stream)
    {frame : StreamFrame} {frames : List StreamFrame} (hframes : stream.frames = frame :: frames)
    (now : ℕ) : takesOnNext threadId link (.receive now) = true ↔
      ∀ raw, frame = .replay raw → link.phone.cursor < raw.sequence → isRewind raw = false →
        ∀ event ∈ link.log threadId, link.phone.cursor < event.sequence →
          raw.sequence ≤ event.sequence := by
  simp only [takesOnNext, hstream, Option.bind_some, hframes, List.head?_cons]
  cases frame with
  | replay raw =>
      simp only [Bool.or_eq_true, decide_eq_true_eq, List.all_eq_true, StreamFrame.replay.injEq,
        forall_eq']
      constructor
      · rintro ((hold | hrewind) | hnext) hnew hplain event hevent hlater
        · omega
        · rw [hrewind] at hplain
          cases hplain
        · have := hnext event hevent
          omega
      · intro hnext
        by_cases hnew : link.phone.cursor < raw.sequence
        · cases hrewind : isRewind raw with
          | true => exact .inl (.inr rfl)
          | false =>
              refine .inr fun event hevent => ?_
              have := hnext hnew hrewind event hevent
              omega
        · exact .inl (.inl (by omega))
  | resync => simp
  | live sessionId => simp

lemma step_cases (h : Linked threadId link) {action : LinkAction}
    (hstep : link.step labels threadId action = some next) :
    (∃ event, action = .append event ∧
      next = { link with store := (link.store.appendEvent event).2 }) ∨
    (∃ now events, action = .deliver now ∧ link.request = some (.fullAnswer events) ∧
      next = { link with
        phone := (link.phone.replaceAll labels now events).finish
        request := none
        fulls := link.fulls ++ [events] }) ∨
    (KeepsLog threadId link next ∧ ∃ fresh,
      TakesOn (link.log threadId) link.phone next.phone fresh ∧
      (fresh <+: (link.log threadId).filter (fun event => link.phone.cursor < event.sequence) ↔
        takesOnNext threadId link action = true)) := by
  have hquiet (hnext : KeepsLog threadId link next) (hheld : next.phone.held = link.phone.held)
      (hcursor : next.phone.cursor = link.phone.cursor)
      (hok : takesOnNext threadId link action = true) :
      KeepsLog threadId link next ∧ ∃ fresh,
        TakesOn (link.log threadId) link.phone next.phone fresh ∧
        (fresh <+: (link.log threadId).filter (fun event => link.phone.cursor < event.sequence) ↔
          takesOnNext threadId link action = true) :=
    ⟨hnext, [], .nothing hheld hcursor, fun _ => hok, fun _ => List.nil_prefix⟩
  cases action with
  | append event =>
      cases hstep
      exact .inl ⟨event, rfl, rfl⟩
  | answer =>
      obtain ⟨flight, hanswer, rfl⟩ := Option.map_eq_some_iff.mp hstep
      refine .inr (.inr (hquiet ⟨rfl, rfl, ?_, ?_, h.replays⟩ rfl rfl rfl))
      · have hsome := h.oneRequest
        cases hrequest : link.request with
        | none => simp [ThreadLink.answer, hrequest] at hanswer
        | some flight => simpa [hrequest] using hsome
      · intro flight' hflight'
        cases hflight'
        unfold ThreadLink.answer at hanswer
        split at hanswer
        · cases hanswer
          exact List.prefix_rfl
        · next after hrequest =>
          cases hanswer
          exact ⟨h.request _ hrequest, listSessionEventsHandler_leads⟩
        · cases hanswer
  | deliver now =>
      simp only [ThreadLink.step, ThreadLink.deliver] at hstep
      split at hstep
      · next events hrequest =>
        cases hstopped : link.phone.stopped with
        | false =>
            rw [ThreadSync.onFull, hstopped] at hstep
            cases hstep
            exact .inr (.inl ⟨now, events, rfl, hrequest, rfl⟩)
        | true =>
            rw [ThreadSync.onFull, hstopped] at hstep
            cases hstep
            exact .inr (.inr (hquiet ⟨rfl, rfl, by simp, by simp, h.replays⟩ (by simp) (by simp) rfl))
      · next after delta hrequest =>
        cases hstep
        have hrunning : link.phone.running = true := by rw [← h.oneRequest, hrequest, Option.isSome_some]
        obtain ⟨fresh, htakes, hleading, hone, htracks⟩ := onDelta_takesOn labels now
          (link.store.log_sorted threadId) (h.request _ hrequest) hrunning
        exact .inr (.inr ⟨⟨rfl, rfl, hone, htracks, h.replays⟩, fresh, htakes,
          fun _ => rfl, fun _ => hleading⟩)
      · cases hstep
  | fail message =>
      obtain ⟨flight, -, rfl⟩ := Option.map_eq_some_iff.mp hstep
      exact .inr (.inr (hquiet ⟨rfl, rfl, by simp, by simp, h.replays⟩ (by simp) (by simp) rfl))
  | openStream =>
      simp only [ThreadLink.step] at hstep
      split at hstep
      · cases hstep
        have hphone : link.openStream.phone.held = link.phone.held ∧
            link.openStream.phone.cursor = link.phone.cursor ∧
            link.openStream.phone.running = link.phone.running := by
          unfold ThreadLink.openStream
          cases link.phone.opened <;> simp
        obtain ⟨hheld, hcursor, hrunning⟩ := hphone
        refine .inr (.inr (hquiet (h.keepsLog rfl rfl rfl hrunning hcursor.ge ?_) hheld hcursor rfl))
        intro stream hstream raw hraw
        cases hstream
        cases hraw
      · cases hstep
  | sendReplay =>
      obtain ⟨stream, hstream, rfl⟩ := Option.map_eq_some_iff.mp hstep
      obtain ⟨hstream, -⟩ := Option.filter_eq_some_iff.mp hstream
      refine .inr (.inr (hquiet (h.keepsLog rfl rfl rfl rfl le_rfl ?_) rfl rfl rfl))
      intro stream' hstream'
      cases hstream'
      unfold ThreadLink.sendReplay
      dsimp only
      split
      · exact h.replays_append hstream (by simp)
      · refine h.replays_append hstream fun raw hraw => ?_
        obtain ⟨event, hevent, heq⟩ := List.mem_map.mp hraw
        cases heq
        exact mem_of_mem_handler hevent
  | sendLive sessionId =>
      obtain ⟨stream, hstream, rfl⟩ := Option.map_eq_some_iff.mp hstep
      obtain ⟨hstream, -⟩ := Option.filter_eq_some_iff.mp hstream
      refine .inr (.inr (hquiet (h.keepsLog rfl rfl rfl rfl le_rfl ?_) rfl rfl rfl))
      intro stream' hstream'
      cases hstream'
      exact h.replays_append hstream (by simp)
  | sendResync =>
      obtain ⟨stream, hstream, rfl⟩ := Option.map_eq_some_iff.mp hstep
      obtain ⟨hstream, -⟩ := Option.filter_eq_some_iff.mp hstream
      refine .inr (.inr (hquiet (h.keepsLog rfl rfl rfl rfl le_rfl ?_) rfl rfl rfl))
      intro stream' hstream'
      cases hstream'
      exact h.replays_append hstream (by simp)
  | receive now =>
      simp only [ThreadLink.step, ThreadLink.receive] at hstep
      split at hstep
      · next stream hstream =>
        split at hstep
        · next frame frames hframes =>
          cases hstep
          have hraw : ∀ raw, frame = .replay raw → raw ∈ link.log threadId := by
            rintro raw rfl
            exact h.replays stream hstream raw (by rw [hframes]; exact List.mem_cons_self ..)
          obtain ⟨fresh, htakes, hok⟩ := onStreamEvent_takesOn labels threadId now frame
            (link.store.log_sorted threadId) hraw
          have hnext : KeepsLog threadId link { link with
              phone := link.phone.onStreamEvent labels threadId now frame
              stream := some { stream with frames := frames } } := by
            refine h.keepsLog rfl rfl rfl ThreadSync.onStreamEvent_running htakes.cursor_le ?_
            intro stream' hstream' raw hraw
            cases hstream'
            exact h.replays stream hstream raw (by rw [hframes]; exact List.mem_cons_of_mem _ hraw)
          exact .inr (.inr ⟨hnext, fresh, htakes,
            hok.trans (takesOnNext_receive hstream hframes now).symm⟩)
        · cases hstep
      · cases hstep
  | closeStream =>
      cases hstep
      exact .inr (.inr (hquiet (h.keepsLog rfl rfl rfl rfl le_rfl (by simp)) rfl rfl rfl))
  | timer =>
      simp only [ThreadLink.step] at hstep
      split at hstep
      · cases hstep
        obtain ⟨hheld, hcursor, hflight⟩ := ThreadSync.sync_cases (link.phone.pending.getD .delta)
          { link.phone with timer := false, pending := none }
        refine .inr (.inr (hquiet ⟨rfl, rfl, ?_, ?_, h.replays⟩ hheld hcursor rfl))
        · obtain ⟨hnone, hrunning⟩ | ⟨hsome, -, hrunning⟩ := hflight
          · simp [ThreadSync.timerFired, hnone, hrunning, h.oneRequest]
          · rcases hsome with hsome | hsome <;> simp [ThreadSync.timerFired, hsome, hrunning]
        · intro flight hmem
          have hcursor' : link.phone.timerFired.1.cursor = link.phone.cursor := hcursor
          rw [hcursor']
          obtain ⟨hnone, -⟩ | ⟨hsome, -, -⟩ := hflight
          · apply h.request
            simpa [ThreadSync.timerFired, hnone] using hmem
          · rcases hsome with hsome | hsome
            · simp [ThreadSync.timerFired, hsome] at hmem
              simp [← hmem, Flight.Tracks]
            · simp [ThreadSync.timerFired, hsome] at hmem
              simp [← hmem, Flight.Tracks]
      · cases hstep
  | poll =>
      simp only [ThreadLink.step] at hstep
      split at hstep
      · cases hstep
      · cases hstep
        exact .inr (.inr (hquiet (h.keepsLog rfl rfl rfl (by simp) (by simp) h.replays)
          (by simp) (by simp) rfl))
  | nudge =>
      cases hstep
      exact .inr (.inr (hquiet (h.keepsLog rfl rfl rfl (by simp) (by simp) h.replays)
        (by simp) (by simp) rfl))
  | stop =>
      cases hstep
      exact .inr (.inr (hquiet (h.keepsLog rfl rfl rfl rfl le_rfl (by simp)) rfl rfl rfl))

lemma log_leads_appended (link : ThreadLink) (threadId : SessionId)
    (event : SessionEventRecord) : link.log threadId <+:
    ({ link with store := (link.store.appendEvent event).2 } : ThreadLink).log threadId := by
  rcases log_appendEvent link.store threadId event with hlog | ⟨new, hlog⟩
  · simp only [ThreadLink.log, hlog, List.prefix_rfl]
  · rw [ThreadLink.log, ThreadLink.log, hlog]
    exact List.prefix_append _ _

lemma cursor_of_full {events : List SessionEventRecord} (hevents : events <+: log) :
    (sync.replaceAll labels cursor events).finish.cursor = 0 ∨
      ∃ event ∈ log, (sync.replaceAll labels cursor events).finish.cursor ≤ event.sequence := by
  rw [ThreadSync.finish_cursor, ThreadSync.replaceAll_cursor]
  exact maxSequence_le_log (.inl rfl) hevents.subset

theorem Linked.step (h : Linked threadId link) {action : LinkAction}
    (hstep : link.step labels threadId action = some next) : Linked threadId next := by
  obtain ⟨event, -, rfl⟩ | ⟨now, events, -, hrequest, rfl⟩ | ⟨hkeeps, fresh, htakes, -⟩ :=
    step_cases h hstep
  · have hlog := log_leads_appended link threadId event
    refine ⟨h.cursor.imp_right ?_, h.oneRequest, ?_, ?_⟩
    · rintro ⟨event', hevent', hle⟩
      exact ⟨event', hlog.subset hevent', hle⟩
    · exact fun flight hflight => (h.request flight hflight).mono hlog le_rfl
    · exact fun stream hstream raw hraw => hlog.subset (h.replays stream hstream raw hraw)
  · exact ⟨cursor_of_full (h.request _ hrequest), by simp, by simp, h.replays⟩
  · have hlog : next.log threadId = link.log threadId := by
      rw [ThreadLink.log, hkeeps.store, ThreadLink.log]
    refine ⟨?_, hkeeps.oneRequest, ?_, ?_⟩
    · rw [hlog]
      exact htakes.cursor_le_log h.cursor
    · rw [hlog]
      exact hkeeps.request
    · rw [hlog]
      exact hkeeps.replays

lemma noHole_append (hlinked : Linked threadId link) (h : NoHole threadId link)
    (event : SessionEventRecord) :
    NoHole threadId { link with store := (link.store.appendEvent event).2 } := by
  rcases log_appendEvent link.store threadId event with hlog | ⟨new, hlog⟩
  · exact ⟨by simpa only [ThreadLink.log, hlog] using h.held,
      by simpa only [ThreadLink.log, hlog] using h.rewinds⟩
  · -- the new event stands past the cursor
    have hpast : link.phone.cursor < new.sequence := by
      have hsorted := (link.store.appendEvent event).2.log_sorted threadId
      have hpositive := (link.store.appendEvent event).2.log_positive threadId
      rw [hlog] at hsorted hpositive
      obtain hzero | ⟨event', hevent', hle⟩ := hlinked.cursor
      · rw [hzero]
        exact hpositive new (by simp)
      · exact hle.trans_lt ((List.pairwise_append.mp hsorted).2.2 event' hevent' new (by simp))
    refine ⟨?_, ?_⟩
    · have hnew : [new].filter (fun event => decide (event.sequence ≤ link.phone.cursor)) = [] := by
        simpa using hpast
      simp only [ThreadLink.log, hlog, List.filter_append, hnew, List.append_nil]
      exact h.held
    · intro event' hevent' hrewind hle
      simp only [ThreadLink.log, hlog, List.mem_append, List.mem_singleton] at hevent'
      rcases hevent' with hevent' | rfl
      · exact h.rewinds event' hevent' hrewind hle
      · exact absurd hle (by simpa using hpast)

lemma noHole_full {now : ℕ} {events : List SessionEventRecord}
    (hevents : events <+: link.log threadId) {request : Option Flight} :
    NoHole threadId { link with
      phone := (link.phone.replaceAll labels now events).finish
      request := request
      fulls := link.fulls ++ [events] } := by
  have hall : (link.log threadId).filter (fun event => event.sequence ≤ maxSequence events 0) =
      events := by
    have hiff := filter_le_eq_append_iff (link.store.log_sorted threadId) (le_maxSequence events 0).2
      (le_maxSequence events 0).1 (maxSequence_eq events 0)
    have hpositive := link.store.log_positive threadId
    have hnone : (link.log threadId).filter (fun event => event.sequence ≤ 0) = [] := by
      rw [List.filter_eq_nil_iff]
      intro event hevent
      simpa using (hpositive event hevent).ne'
    have hsome : (link.log threadId).filter (fun event => 0 < event.sequence) = link.log threadId := by
      rw [List.filter_eq_self]
      intro event hevent
      simpa using hpositive event hevent
    have heq := hiff.mpr (by rw [← ThreadLink.log, hsome]; exact hevents)
    rw [← ThreadLink.log, hnone, List.nil_append] at heq
    exact heq
  refine ⟨?_, ?_⟩
  · simp only [ThreadSync.finish_held, ThreadSync.replaceAll_held, ThreadSync.finish_cursor,
      ThreadSync.replaceAll_cursor]
    exact hall.symm
  · intro event hevent _ hle
    refine ⟨events, by simp, ?_⟩
    rw [← hall]
    exact List.mem_filter.mpr ⟨hevent, by simpa using hle⟩

theorem noHole_step (hlinked : Linked threadId link) (h : NoHole threadId link) {action : LinkAction}
    (hstep : link.step labels threadId action = some next) :
    NoHole threadId next ↔ takesOnNext threadId link action = true := by
  obtain ⟨event, rfl, rfl⟩ | ⟨now, events, rfl, hrequest, rfl⟩ | ⟨hkeeps, fresh, htakes, hok⟩ :=
    step_cases hlinked hstep
  · exact ⟨fun _ => rfl, fun _ => noHole_append hlinked h event⟩
  · exact ⟨fun _ => rfl, fun _ => noHole_full (hlinked.request _ hrequest)⟩
  · exact (htakes.noHole_iff h hkeeps.store hkeeps.fulls).trans hok

lemma linked_start (store : EventStore) : Linked threadId (.start store) where
  cursor := .inl rfl
  oneRequest := rfl
  request := by
    intro flight hflight
    cases hflight
    trivial
  replays := by simp [ThreadLink.start]

lemma noHole_start (store : EventStore) : NoHole threadId (.start store) where
  held := by
    refine (List.filter_eq_nil_iff.mpr fun event hevent => ?_).symm
    simpa [ThreadLink.start, ThreadSync.sync, ThreadSync.new] using
      (store.log_positive threadId event hevent).ne'
  rewinds := by
    intro event hevent _ hle
    exact absurd hle (store.log_positive threadId event hevent).not_ge

end Invariant

/-- The thread has no hole in the runs, and only those, in which every replayed event the phone takes
on is the next one of the log. A replayed rewind is left to a later refetch and an older full response
moves the cursor back, and the replay goes on behind both. -/
theorem no_hole_iff (labels : Labels) (threadId : SessionId) (store : EventStore) (link : ThreadLink)
    (l : List (LinkAction × Unit)) :
    (threadSyncing labels threadId store).RunIn (NoHole threadId) (.start store) l link ↔
      ((threadSyncing labels threadId store).restrict (takesOnNext threadId)).Run
        (.start store) l link := by
  have hlink {s t : ThreadLink} {action : LinkAction} {b : Unit}
      (hstep : (threadSyncing labels threadId store).step s action = some (b, t)) :
      s.step labels threadId action = some t := by
    obtain ⟨t', hstep, heq⟩ := Option.map_eq_some_iff.mp hstep
    cases heq
    exact hstep
  refine System.runIn_iff_restrict_of_invariant (J := Linked threadId) ?_ ?_ (linked_start store)
    (noHole_start store)
  · intro s action b t hs hstep
    exact hs.step (hlink hstep)
  · intro s action b t hs hhole hstep
    exact noHole_step hs hhole (hlink hstep)

section RewindReplayed

def demoOpenedStore : EventStore :=
  (EventStore.empty.appendEvent (demoEvent "event-1"
    (.turnStarted ⟨"turn-1"⟩ "first" none none none none none))).2

def demoSkipped : ThreadLink :=
  (threadSyncing demoLabels demoSession demoOpenedStore).exec (.start demoOpenedStore)
    [.answer, .deliver 1, .openStream,
      .append (demoEvent "event-2" (.conversationRewound ⟨"turn-1"⟩ [⟨"turn-1"⟩] .fresh [])),
      .append (demoEvent "event-3" (.turnStarted ⟨"turn-2"⟩ "second" none none none none none)),
      .sendReplay, .receive 2, .receive 3]

theorem replayed_rewind_skipped :
    (threadSyncing demoLabels demoSession demoOpenedStore).Reachable demoSkipped ∧
    (demoSkipped.log demoSession).map SessionEventRecord.sequence = [1, 2, 3] ∧
    demoSkipped.phone.held.map SessionEventRecord.sequence = [1, 3] ∧
    demoSkipped.phone.cursor = 3 ∧ ¬NoHole demoSession demoSkipped := by
  have hheld : demoSkipped.phone.held.map SessionEventRecord.sequence = [1, 3] := by decide +kernel
  refine ⟨System.Reachable.start.exec _, by decide +kernel, hheld, by decide +kernel, fun h => ?_⟩
  rw [h.held] at hheld
  revert hheld
  decide +kernel

end RewindReplayed

end DevCommandCenter.Mobile
