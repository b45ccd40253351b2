import DevCommandCenter.Library.Table
import DevCommandCenter.Library.Versions
import DevCommandCenter.Session.EventSummary
import Mathlib.Data.Prod.Lex

/-! The cache of the sessions' summaries. Between any two steps of a call other calls go on, events are
appended and the worker merges deltas. -/

namespace DevCommandCenter.Session

open Library

def eventSummaryCacheLimit : ℕ := 4096

structure EventsStamp where
  count : ℕ
  highest : ℕ
  newest : ℕ
  deriving DecidableEq

-- a row keeps the rowid that it got with its sequence
def eventsStamp (rowid : SessionId → ℕ → ℕ) (sessionId : SessionId) (store : EventStore) :
    EventsStamp where
  count := (sessionRows store.rows sessionId).length
  highest := store.lastEventSequence sessionId
  newest := ((sessionRows store.rows sessionId).map fun row =>
    rowid sessionId row.sequence).foldr max 0

inductive SummaryPhase
  | stamped
  | missed
  | folded (summary : EventSummary)
  | answered (summary : EventSummary)

def SummaryPhase.summary? : SummaryPhase → Option EventSummary
  | .stamped | .missed => none
  | .folded summary | .answered summary => some summary

structure SummaryCall where
  sessionId : SessionId
  stamp : EventsStamp
  -- for the statements only: the number of the store whose stamp it is
  since : ℕ
  phase : SummaryPhase

inductive CompactionStage
  | rowsRead (sessionId : SessionId) (now : ℤ) (maxDeleted : ℕ) (atRows : EventStore)
  | terminalsRead (sessionId : SessionId) (now : ℤ) (maxDeleted : ℕ) (atRows atTerminals : EventStore)

structure SummaryWorld where
  store : EventStore
  compaction : Option CompactionStage
  cache : Table SessionId (EventsStamp × EventSummary)
  calls : List SummaryCall
  -- for the statements only: the stores that were written over, the oldest first
  replaced : List EventStore

namespace SummaryWorld

def stores (world : SummaryWorld) : List EventStore :=
  world.replaced ++ [world.store]

def write (world : SummaryWorld) (store : EventStore) : SummaryWorld :=
  { world with store := store, replaced := world.replaced ++ [world.store] }

def setPhase (world : SummaryWorld) (i : ℕ) (call : SummaryCall) (phase : SummaryPhase) :
    SummaryWorld :=
  { world with calls := world.calls.set i { call with phase := phase } }

def keep (world : SummaryWorld) (call : SummaryCall) (summary : EventSummary) : SummaryWorld :=
  let cache := if eventSummaryCacheLimit ≤ world.cache.size then ∅ else world.cache
  { world with cache := cache.insert call.sessionId (call.stamp, summary) }

end SummaryWorld

inductive SummaryAction
  | append (event : SessionEventRecord)
  | readRows (sessionId : SessionId) (now : ℤ) (maxDeleted : ℕ)
  | readTerminals
  | writeGroups
  | begin (sessionId : SessionId)
  | advance (i : ℕ)

section World

variable (rowid : SessionId → ℕ → ℕ) (parseTime : String → Option ℤ)

def summaryOf (sessionId : SessionId) (store : EventStore) : EventSummary :=
  .fromEvents parseTime (store.listEventsBySession sessionId)

/-- A database in memory has no path, and its summaries are not kept. -/
def SummaryWorld.advance (hasPath : Bool) (world : SummaryWorld) (i : ℕ) (call : SummaryCall) :
    Option SummaryWorld :=
  match call.phase with
  | .stamped =>
      match (world.cache.lookup call.sessionId).filter fun kept => hasPath && kept.1 = call.stamp with
      | some (_, summary) => some (world.setPhase i call (.answered summary))
      | none => some (world.setPhase i call .missed)
  | .missed =>
      some (world.setPhase i call (.folded (summaryOf parseTime call.sessionId world.store)))
  | .folded summary =>
      some ((if hasPath then world.keep call summary else world).setPhase i call (.answered summary))
  | .answered _ => none

def summaries (hasPath : Bool) (initial : EventStore) : System SummaryWorld SummaryAction Unit where
  start := { store := initial, compaction := none, cache := ∅, calls := [], replaced := [] }
  step world
    | .append event => some ((), world.write (world.store.appendEvent event).2)
    | .readRows sessionId now maxDeleted =>
        match world.compaction with
        | none => some ((), { world with
            compaction := some (.rowsRead sessionId now maxDeleted world.store) })
        | some _ => none
    | .readTerminals =>
        match world.compaction with
        | some (.rowsRead sessionId now maxDeleted atRows) => some ((), { world with
            compaction := some (.terminalsRead sessionId now maxDeleted atRows world.store) })
        | _ => none
    | .writeGroups =>
        match world.compaction with
        | some (.terminalsRead sessionId now maxDeleted atRows atTerminals) =>
            some ((), { world.write (compactSessionDeltasStep parseTime atRows atTerminals
              world.store sessionId now maxDeleted).2 with compaction := none })
        | _ => none
    | .begin sessionId => some ((), { world with
        calls := world.calls ++ [{
          sessionId := sessionId
          stamp := eventsStamp rowid sessionId world.store
          since := world.replaced.length
          phase := .stamped }] })
    | .advance i =>
        (world.calls[i]?.bind (world.advance parseTime hasPath i)).map fun world => ((), world)

end World

section Ranks

variable {rowid : SessionId → ℕ → ℕ} {parseTime : String → Option ℤ} {s t : EventStore}
  {sessionId : SessionId}

/-- Appending raises the highest sequence, and merging leaves it and takes rows away. -/
def logRank (sessionId : SessionId) (store : EventStore) : ℕ ×ₗ ℕᵒᵈ :=
  toLex (maxSequence store.rows sessionId, .toDual (sessionRows store.rows sessionId).length)

abbrev LogAdvances (sessionId : SessionId) : EventStore → EventStore → Prop :=
  Advances (logRank sessionId) fun store => store.listEventsBySession sessionId

lemma logRank_of_stamp (h : eventsStamp rowid sessionId s = eventsStamp rowid sessionId t) :
    logRank sessionId s = logRank sessionId t := by
  have hhighest : maxSequence s.rows sessionId = _ := congrArg EventsStamp.highest h
  have hcount : (sessionRows s.rows sessionId).length = _ := congrArg EventsStamp.count h
  rw [logRank, hhighest, hcount]
  rfl

lemma advances_of_rows (h : sessionRows t.rows sessionId = sessionRows s.rows sessionId) :
    LogAdvances sessionId s t where
  le := by rw [logRank, logRank, maxSequence, maxSequence, h]
  same _ := by rw [EventStore.listEventsBySession, EventStore.listEventsBySession, h]

lemma advances_of_lt (h : logRank sessionId s < logRank sessionId t) : LogAdvances sessionId s t where
  le := h.le
  same heq := absurd heq h.ne

lemma advances_appendEvent (store : EventStore) (event : SessionEventRecord) :
    LogAdvances sessionId store (store.appendEvent event).2 := by
  by_cases hinserts : Inserts store.rows event
  · have hrows : (store.appendEvent event).2.rows = _ := (appendEventRows_rows _ _).1 hinserts
    by_cases hsession : event.sessionId = sessionId
    · refine advances_of_lt (Prod.Lex.toLex_lt_toLex.mpr (.inl ?_))
      rw [hrows, maxSequence_append, ← hsession]
      have hnew := sequence_le_of_mem (mem_sessionRows.mpr ⟨List.mem_singleton_self
        (newEventRow event (maxSequence store.rows event.sessionId + 1)), rfl⟩)
      exact lt_max_of_lt_right (Nat.lt_of_lt_of_le (Nat.lt_succ_self _) hnew)
    · refine advances_of_rows ?_
      have hother : (newEventRow event (maxSequence store.rows event.sessionId + 1)).sessionId ≠
        sessionId := hsession
      rw [hrows, sessionRows_append, sessionRows, sessionRows, List.filter_singleton]
      simp [hother]
  · exact advances_of_rows (congrArg (sessionRows · sessionId) ((appendEventRows_rows _ _).2 hinserts))

lemma results_cases (segments : List DeltaGroup) :
    segments.map DeltaGroup.result = segments.flatMap DeltaGroup.rows ∨
      segments.length < (segments.flatMap DeltaGroup.rows).length := by
  induction segments with
  | nil => exact .inl rfl
  | cons segment segments ih =>
      have hle : segments.length ≤ (segments.flatMap DeltaGroup.rows).length := by
        rcases ih with heq | hlt
        · rw [← heq, List.length_map]
        · exact hlt.le
      rw [List.map_cons, List.flatMap_cons, List.length_cons, List.length_append, DeltaGroup.rows,
        List.length_cons]
      by_cases hrest : segment.rest = []
      · rcases ih with heq | hlt
        · left
          rw [heq, result_of_rest_nil hrest, hrest, List.singleton_append]
        · right
          omega
      · have hpos := List.length_pos_iff.mpr hrest
        right
        omega

lemma advances_compaction {atRows atTerminals store : EventStore} {now : ℤ} {maxDeleted : ℕ}
    (hrows : Extends atRows store) (hterminals : Extends atTerminals store) (other : SessionId) :
    LogAdvances other store (compactSessionDeltasStep parseTime atRows atTerminals store
      sessionId now maxDeleted).2 := by
  obtain hsame | ⟨segments, before, after, hrewritten⟩ := compaction_rewritten hrows
  · rw [hsame]
    exact .refl _
  · by_cases hother : other = sessionId
    · subst hother
      rcases results_cases segments with heq | hlt
      · refine advances_of_rows ?_
        rw [hrewritten.new, hrewritten.old, heq]
      · refine advances_of_lt (Prod.Lex.toLex_lt_toLex.mpr (.inr
          ⟨(hrewritten.highest hterminals other).symm, OrderDual.toDual_lt_toDual.mpr ?_⟩))
        rw [hrewritten.new, hrewritten.old]
        simp only [List.length_append, List.length_map]
        omega
    · exact advances_of_rows (hrewritten.others other hother).1

end Ranks

section Invariant

variable {rowid : SessionId → ℕ → ℕ} {parseTime : String → Option ℤ} {hasPath : Bool}
  {initial : EventStore} {world next : SummaryWorld} {call : SummaryCall}

/-- The call's stamp is that of the store it began with, and its summary that of a store since then. -/
structure CallSound (rowid : SessionId → ℕ → ℕ) (parseTime : String → Option ℤ)
    (stores : List EventStore) (call : SummaryCall) : Prop where
  stamp : ∃ store, stores[call.since]? = some store ∧ eventsStamp rowid call.sessionId store = call.stamp
  summary : ∀ summary, call.phase.summary? = some summary →
    ReadSince (summaryOf parseTime call.sessionId) stores call.since summary

lemma CallSound.append {stores : List EventStore} (h : CallSound rowid parseTime stores call)
    (later : List EventStore) : CallSound rowid parseTime (stores ++ later) call where
  stamp := by
    obtain ⟨store, hstore, hstamp⟩ := h.stamp
    exact ⟨store, List.getElem?_append_left (List.getElem?_eq_some_iff.mp hstore).1 ▸ hstore, hstamp⟩
  summary summary hsummary := (h.summary summary hsummary).append later

def CompactionStage.Behind (store : EventStore) : CompactionStage → Prop
  | .rowsRead _ _ _ atRows => Extends atRows store
  | .terminalsRead _ _ _ atRows atTerminals => Extends atRows store ∧ Extends atTerminals store

structure SummariesSound (rowid : SessionId → ℕ → ℕ) (parseTime : String → Option ℤ)
    (world : SummaryWorld) : Prop where
  ordered : ∀ sessionId, world.stores.Pairwise (LogAdvances sessionId)
  compaction : ∀ stage ∈ world.compaction, stage.Behind world.store
  cache : ∀ sessionId kept, world.cache.lookup sessionId = some kept → ∃ call,
    CallSound rowid parseTime world.stores call ∧ call.sessionId = sessionId ∧
      call.stamp = kept.1 ∧ call.phase.summary? = some kept.2
  calls : ∀ call ∈ world.calls, CallSound rowid parseTime world.stores call

namespace SummariesSound

variable (h : SummariesSound rowid parseTime world)

include h

lemma write {store : EventStore} {compaction : Option CompactionStage}
    (hadvances : ∀ sessionId, LogAdvances sessionId world.store store)
    (hcompaction : ∀ stage ∈ compaction, stage.Behind store) :
    SummariesSound rowid parseTime { world.write store with compaction := compaction } where
  ordered sessionId := by
    refine List.pairwise_append.mpr ⟨h.ordered sessionId, List.pairwise_singleton _ _, ?_⟩
    intro earlier hearlier _ hstore
    rw [List.mem_singleton.mp hstore]
    rcases List.mem_append.mp hearlier with hreplaced | hlast
    · exact ((List.pairwise_append.mp (h.ordered sessionId)).2.2 earlier hreplaced _
        (List.mem_singleton_self _)).trans (hadvances sessionId)
    · rw [List.mem_singleton.mp hlast]
      exact hadvances sessionId
  compaction := hcompaction
  cache sessionId kept hkept := by
    obtain ⟨call, hcall, hentry⟩ := h.cache sessionId kept hkept
    exact ⟨call, hcall.append [store], hentry⟩
  calls call hcall := (h.calls call hcall).append [store]

lemma readStage {stage : CompactionStage} (hstage : stage.Behind world.store) :
    SummariesSound rowid parseTime { world with compaction := some stage } :=
  { h with compaction := by rintro _ ⟨⟩; exact hstage }

lemma begin (sessionId : SessionId) : SummariesSound rowid parseTime { world with
    calls := world.calls ++ [{
      sessionId := sessionId
      stamp := eventsStamp rowid sessionId world.store
      since := world.replaced.length
      phase := .stamped }] } where
  ordered := h.ordered
  compaction := h.compaction
  cache := h.cache
  calls := by
    refine List.forall_mem_append.mpr ⟨h.calls, List.forall_mem_singleton.mpr ⟨⟨world.store, ?_, rfl⟩, ?_⟩⟩
    · exact List.getElem?_concat_length ..
    · rintro _ ⟨⟩

lemma setPhase {i : ℕ} (hi : world.calls[i]? = some call) {phase : SummaryPhase}
    (hphase : ∀ summary, phase.summary? = some summary →
      ReadSince (summaryOf parseTime call.sessionId) world.stores call.since summary) :
    SummariesSound rowid parseTime (world.setPhase i call phase) where
  ordered := h.ordered
  compaction := h.compaction
  cache := h.cache
  calls other hother := by
    rcases mem_set_cases hother with rfl | ⟨j, -, hj⟩
    · exact ⟨(h.calls call (List.mem_of_getElem? hi)).stamp, hphase⟩
    · exact h.calls other (List.mem_of_getElem? hj)

lemma keep {summary : EventSummary} (hcall : CallSound rowid parseTime world.stores call)
    (hsummary : call.phase.summary? = some summary) :
    SummariesSound rowid parseTime (world.keep call summary) where
  ordered := h.ordered
  compaction := h.compaction
  cache sessionId kept hkept := by
    rw [SummaryWorld.keep, Table.lookup_insert_eq] at hkept
    split at hkept
    · next hsession =>
        cases hkept
        exact ⟨call, hcall, hsession.symm, rfl, hsummary⟩
    · split at hkept
      · cases hkept
      · exact h.cache sessionId kept hkept
  calls := h.calls

lemma hit (hcall : CallSound rowid parseTime world.stores call) {summary : EventSummary}
    (hkept : world.cache.lookup call.sessionId = some (call.stamp, summary)) :
    ReadSince (summaryOf parseTime call.sessionId) world.stores call.since summary := by
  obtain ⟨keeper, hkeeper, hsession, hstamp, hsummary⟩ := h.cache _ _ hkept
  obtain ⟨first, hfirst, hfirstStamp⟩ := hkeeper.stamp
  obtain ⟨begun, hbegun, hbegunStamp⟩ := hcall.stamp
  have hread := hkeeper.summary summary hsummary
  rw [hsession] at hread hfirstStamp
  have hrank := logRank_of_stamp (hfirstStamp.trans (hstamp.trans hbegunStamp.symm))
  have hordered : world.stores.Pairwise (Advances (logRank call.sessionId)
      (summaryOf parseTime call.sessionId)) :=
    (h.ordered call.sessionId).imp fun hadvances => hadvances.map (EventSummary.fromEvents parseTime)
  exact hread.of_rank hordered hfirst hbegun hrank

lemma advance {i : ℕ} (hi : world.calls[i]? = some call)
    (hnext : world.advance parseTime hasPath i call = some next) :
    SummariesSound rowid parseTime next := by
  have hcall := h.calls call (List.mem_of_getElem? hi)
  rw [SummaryWorld.advance] at hnext
  split at hnext
  · split at hnext
    · next hfound =>
        cases hnext
        obtain ⟨hkept, hstamp⟩ := Option.filter_eq_some_iff.mp hfound
        simp only [Bool.and_eq_true, decide_eq_true_eq] at hstamp
        refine h.setPhase hi fun _ hsummary => ?_
        cases hsummary
        refine h.hit hcall ?_
        rw [hkept, ← hstamp.2]
    · cases hnext
      exact h.setPhase hi fun _ hsummary => by cases hsummary
  · cases hnext
    obtain ⟨store, hstore, -⟩ := hcall.stamp
    refine h.setPhase hi fun _ hsummary => ?_
    cases hsummary
    have hlt := (List.getElem?_eq_some_iff.mp hstore).1
    rw [SummaryWorld.stores, List.length_append, List.length_singleton] at hlt
    exact readSince_last _ (Nat.le_of_lt_succ hlt) _
  · next summary hphase =>
      cases hnext
      have hread := hcall.summary summary (by rw [hphase]; rfl)
      have hanswered : ∀ answer, (SummaryPhase.answered summary).summary? = some answer →
          ReadSince (summaryOf parseTime call.sessionId) world.stores call.since answer := by
        rintro _ ⟨⟩
        exact hread
      cases hasPath
      · exact h.setPhase hi hanswered
      · exact (h.keep hcall (by rw [hphase]; rfl)).setPhase hi hanswered
  · cases hnext

end SummariesSound

lemma summariesSound_step {action : SummaryAction} (h : SummariesSound rowid parseTime world)
    (hstep : (summaries rowid parseTime hasPath initial).step world action = some ((), next)) :
    SummariesSound rowid parseTime next := by
  cases action with
  | append event =>
      cases hstep
      refine h.write (fun _ => advances_appendEvent _ _) fun stage hstage => ?_
      have hextends := extends_appendEvent world.store event
      cases stage with
      | rowsRead => exact (h.compaction _ hstage).trans hextends
      | terminalsRead =>
          obtain ⟨hrows, hterminals⟩ := h.compaction _ hstage
          exact ⟨hrows.trans hextends, hterminals.trans hextends⟩
  | readRows sessionId now maxDeleted =>
      simp only [summaries] at hstep
      split at hstep <;> cases hstep
      exact h.readStage (extends_refl _)
  | readTerminals =>
      simp only [summaries] at hstep
      split at hstep <;> cases hstep
      next hstage => exact h.readStage ⟨h.compaction _ hstage, extends_refl _⟩
  | writeGroups =>
      simp only [summaries] at hstep
      split at hstep <;> cases hstep
      next hstage =>
        obtain ⟨hrows, hterminals⟩ := h.compaction _ hstage
        exact h.write (fun _ => advances_compaction hrows hterminals _) (by rintro _ ⟨⟩)
  | begin sessionId =>
      cases hstep
      exact h.begin sessionId
  | advance i =>
      simp only [summaries, Option.map_eq_some_iff, Option.bind_eq_some_iff] at hstep
      obtain ⟨_, ⟨call, hi, hnext⟩, hworld⟩ := hstep
      cases hworld
      exact h.advance hi hnext

end Invariant

/-- Whatever the cache holds and whatever is written meanwhile, a call answers the summary of a store
that was there since it began. -/
theorem summaries_current {rowid : SessionId → ℕ → ℕ} {parseTime : String → Option ℤ}
    {hasPath : Bool} {initial : EventStore} {world : SummaryWorld}
    (h : (summaries rowid parseTime hasPath initial).Reachable world) {call : SummaryCall}
    (hcall : call ∈ world.calls) {summary : EventSummary} (hanswer : call.phase = .answered summary) :
    ∃ store ∈ world.stores.drop call.since,
      EventSummary.fromEvents parseTime (store.listEventsBySession call.sessionId) = summary := by
  have hsound : SummariesSound rowid parseTime world := by
    refine h.invariant ?_ fun _ _ _ _ hworld hstep => summariesSound_step hworld hstep
    refine ⟨fun _ => List.pairwise_singleton _ _, ?_, ?_, ?_⟩
    · rintro _ ⟨⟩
    · rintro _ _ ⟨⟩
    · rintro _ ⟨⟩
  exact (hsound.calls call hcall).summary summary (by rw [hanswer]; rfl)

def demoSummaries : SummaryWorld :=
  let system := summaries (fun _ sequence => sequence) demoParse true .empty
  system.exec system.start
    [.append (demoLogEvent "e1" (.turnStarted ⟨"turn-1"⟩ "Fix it" none none none none none)),
      .begin demoLogSession, .advance 0, .append (demoLogEvent "e2" (.turnCompleted ⟨"turn-1"⟩)),
      .advance 0, .advance 0, .begin demoLogSession, .advance 1, .advance 1, .advance 1,
      .begin demoLogSession, .advance 2]

theorem third_summary_current : ∃ call ∈ demoSummaries.calls, ∃ summary,
    call.phase = .answered summary ∧ summary.lastTurnState = some "completed" ∧
    ∃ store ∈ demoSummaries.stores.drop call.since,
      EventSummary.fromEvents demoParse (store.listEventsBySession call.sessionId) = summary := by
  refine ⟨_, List.mem_of_getElem? (show demoSummaries.calls[2]? = some _ from rfl), _, rfl, rfl, ?_⟩
  exact summaries_current (show (summaries (fun _ sequence => sequence) demoParse true .empty).Reachable
    demoSummaries from .exec .start _) (List.mem_of_getElem? (show demoSummaries.calls[2]? = some _ from rfl)) rfl

end DevCommandCenter.Session
