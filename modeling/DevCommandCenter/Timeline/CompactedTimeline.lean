import DevCommandCenter.Session.CompactionSteps
import DevCommandCenter.Timeline.Fold

/-! The conversation of a compacted log is the conversation of the log that was never compacted. -/

namespace DevCommandCenter.Timeline

open Library

section Targets

lemma deltaTarget_eq (kind : SessionEventKind) :
    deltaTarget kind = (DevCommandCenter.deltaTarget kind).map Prod.fst := by
  cases kind <;> rfl

lemma deltaContent_eq (kind : SessionEventKind) :
    deltaContent kind = ((DevCommandCenter.deltaTarget kind).map Prod.snd).getD "" := by
  cases kind <;> rfl

lemma setDeltaContent_eq (kind : SessionEventKind) (joined : String) :
    setDeltaContent kind joined = withContent kind joined := by
  cases kind <;> rfl

lemma deltaTarget_setDeltaContent (kind : SessionEventKind) (joined : String) :
    deltaTarget (setDeltaContent kind joined) = deltaTarget kind := by
  cases kind <;> rfl

lemma deltaContent_setDeltaContent {kind : SessionEventKind} (h : (deltaTarget kind).isSome)
    (joined : String) : deltaContent (setDeltaContent kind joined) = joined := by
  cases kind <;> first | rfl | cases h

lemma setDeltaContent_self (kind : SessionEventKind) :
    setDeltaContent kind (deltaContent kind) = kind := by
  cases kind <;> rfl

lemma setDeltaContent_setDeltaContent (kind : SessionEventKind) (joined joined' : String) :
    setDeltaContent (setDeltaContent kind joined) joined' = setDeltaContent kind joined' := by
  cases kind <;> rfl

end Targets

section Joining

variable {first next : SessionEventRecord} {more : List String}

def extend (record : SessionEventRecord) (text : String) : SessionEventRecord :=
  { record with kind := setDeltaContent record.kind (deltaContent record.kind ++ text) }

lemma extend_extend (h : (deltaTarget first.kind).isSome) (text text' : String) :
    extend (extend first text) text' = extend first (text ++ text') := by
  simp only [extend, setDeltaContent_setDeltaContent, deltaContent_setDeltaContent h,
    String.append_assoc]

lemma joinedEvent_extend (first : SessionEventRecord) (more : List String) :
    joinedEvent first more = joinedEvent (extend first (String.join more)) [] := by
  cases more with
  | nil =>
      have hself : extend first (String.join []) = first := by
        rw [extend, String.join_nil, String.append_empty, setDeltaContent_self]
      rw [hself]
  | cons text more =>
      simp [joinedEvent, extend]

lemma joinRuns_extend (h : (deltaTarget first.kind).isSome) (more : List String)
    (records : List SessionEventRecord) :
    joinRuns first more records = joinRuns (extend first (String.join more)) [] records := by
  induction records generalizing first more with
  | nil =>
      rw [joinRuns, joinRuns, joinedEvent_extend]
  | cons next rest ih =>
      have htarget : deltaTarget (extend first (String.join more)).kind = deltaTarget first.kind :=
        deltaTarget_setDeltaContent _ _
      rw [joinRuns, joinRuns, htarget]
      split
      · have hextended : (deltaTarget (extend first (String.join more)).kind).isSome := by
          rw [htarget]
          exact h
        rw [ih h, ih hextended, extend_extend h, String.join_append, List.nil_append]
      · rw [joinedEvent_extend]

lemma joinRuns_same (h : (deltaTarget first.kind).isSome) (records later : List SessionEventRecord)
    (hsame : ∀ record ∈ records, deltaTarget record.kind = deltaTarget first.kind) (more : List String) :
    joinRuns first more (records ++ later) =
      joinRuns first (more ++ records.map fun record => deltaContent record.kind) later := by
  induction records generalizing more with
  | nil => simp
  | cons record records ih =>
      obtain ⟨hrecord, hrecords⟩ := List.forall_mem_cons.mp hsame
      rw [List.cons_append, joinRuns, if_pos ⟨h, hrecord⟩, ih hrecords]
      simp

end Joining

section Runs

variable {run : DeltaRun}

lemma deltaTarget_record (row : EventRow) : deltaTarget row.record.kind = row.target :=
  deltaTarget_eq _

lemma deltaContent_record (row : EventRow) : deltaContent row.record.kind = row.text :=
  deltaContent_eq _

lemma join_contents (rows : List EventRow) :
    String.join ((rows.map EventRow.record).map fun record => deltaContent record.kind) =
      joinedText rows := by
  rw [joinedText, List.map_map]
  exact congrArg String.join (List.map_congr_left fun row _ => deltaContent_record row)

lemma extend_first (h : run.rest ≠ []) :
    extend run.first.record (joinedText run.rest) = run.row.record := by
  have hevents : joinedText run.events = run.first.text ++ joinedText run.rest := by
    rw [DeltaRun.events, ← List.singleton_append, joinedText_append, joinedText_singleton]
  rw [extend, deltaContent_record, DeltaRun.row_of_rest_ne_nil h, setDeltaContent_eq, hevents]
  rfl

lemma joinRuns_first (run : DeltaRun) (later : List SessionEventRecord) :
    joinRuns run.first.record [] (run.rest.map EventRow.record ++ later) =
      joinRuns run.row.record [] later := by
  by_cases hrest : run.rest = []
  · rw [DeltaRun.row_of_rest_nil hrest, hrest]
    rfl
  · have hdelta : (deltaTarget run.first.record.kind).isSome := by
      rw [deltaTarget_record]
      exact DeltaRun.first_isSome hrest
    have hsame : ∀ record ∈ run.rest.map EventRow.record,
        deltaTarget record.kind = deltaTarget run.first.record.kind := by
      intro record hrecord
      obtain ⟨row, hrow, rfl⟩ := List.mem_map.mp hrecord
      rw [deltaTarget_record, deltaTarget_record]
      exact (run.sameTarget row hrow).1
    rw [joinRuns_same hdelta _ _ hsame, List.nil_append, joinRuns_extend hdelta, join_contents,
      extend_first hrest]

lemma joinRuns_events (run : DeltaRun) (first : SessionEventRecord) (more : List String)
    (later : List SessionEventRecord) :
    joinRuns first more (run.events.map EventRow.record ++ later) =
      joinRuns first more (run.row.record :: later) := by
  by_cases hjoins : (deltaTarget first.kind).isSome ∧ run.first.target = deltaTarget first.kind
  · obtain ⟨hdelta, htarget⟩ := hjoins
    have hsame : ∀ record ∈ run.events.map EventRow.record,
        deltaTarget record.kind = deltaTarget first.kind := by
      intro record hrecord
      obtain ⟨row, hrow, rfl⟩ := List.mem_map.mp hrecord
      rw [deltaTarget_record, DeltaRun.target_of_mem hrow, htarget]
    have hrow : deltaTarget run.row.record.kind = deltaTarget first.kind := by
      rw [deltaTarget_record, run.row_target, htarget]
    rw [joinRuns_same hdelta _ _ hsame, joinRuns_extend hdelta, String.join_append, join_contents,
      joinRuns, if_pos ⟨hdelta, hrow⟩, joinRuns_extend hdelta, String.join_append, deltaContent_record,
      run.row_text]
    simp
  · have hfirst : ¬((deltaTarget first.kind).isSome ∧
        deltaTarget run.first.record.kind = deltaTarget first.kind) := by
      rwa [deltaTarget_record]
    have hrow : ¬((deltaTarget first.kind).isSome ∧
        deltaTarget run.row.record.kind = deltaTarget first.kind) := by
      rwa [deltaTarget_record, run.row_target]
    rw [DeltaRun.events, List.map_cons, List.cons_append, joinRuns, if_neg hfirst, joinRuns, if_neg hrow,
      joinRuns_first]

lemma joinRuns_represents (runs : List DeltaRun) (first : SessionEventRecord) (more : List String) :
    joinRuns first more ((runs.flatMap DeltaRun.events).map EventRow.record) =
      joinRuns first more ((runs.map DeltaRun.row).map EventRow.record) := by
  induction runs generalizing first more with
  | nil => rfl
  | cons run runs ih =>
      rw [List.flatMap_cons, List.map_append, joinRuns_events, List.map_cons, List.map_cons, joinRuns,
        joinRuns, ih, ih]

lemma joinDeltas_represents {rows original : List EventRow} (h : Represents rows original) :
    joinDeltas (rows.map EventRow.record) = joinDeltas (original.map EventRow.record) := by
  obtain ⟨runs, rfl, rfl⟩ := h
  cases runs with
  | nil => rfl
  | cons run runs =>
      rw [List.flatMap_cons, DeltaRun.events, List.cons_append, List.map_cons, List.map_cons,
        List.map_cons, joinDeltas, joinDeltas, List.map_append, joinRuns_first, joinRuns_represents]

end Runs

section Visible

variable {rows original : List EventRow}

lemma turnId_of_target {a b : EventRow} (hsame : a.target = b.target) (hdelta : b.target.isSome) :
    a.kind.turnId = b.kind.turnId := by
  have hturn : ∀ row : EventRow, ∀ target, row.target = some target →
      row.kind.turnId = some target.turnId := by
    intro row target htarget
    rw [EventRow.target] at htarget
    cases hkind : row.kind <;> rw [hkind] at htarget <;> cases htarget <;> rfl
  obtain ⟨target, htarget⟩ := Option.isSome_iff_exists.mp hdelta
  rw [hturn b target htarget, hturn a target (hsame.trans htarget)]

lemma rewound_of_delta {row : EventRow} (h : row.target.isSome) : rewoundTurnIds [row.record] = [] := by
  rw [target_isSome] at h
  cases hkind : row.kind <;> rw [hkind] at h <;>
    first | simp [rewoundTurnIds, EventRow.record, hkind]; done | cases h

lemma rewoundTurnIds_append (records records' : List SessionEventRecord) :
    rewoundTurnIds (records ++ records') = rewoundTurnIds records ++ rewoundTurnIds records' :=
  List.flatMap_append

lemma rewoundTurnIds_represents (h : Represents rows original) :
    rewoundTurnIds (rows.map EventRow.record) = rewoundTurnIds (original.map EventRow.record) := by
  obtain ⟨runs, rfl, rfl⟩ := h
  induction runs with
  | nil => rfl
  | cons run runs ih =>
      rw [List.map_cons, List.map_cons, ← List.singleton_append, rewoundTurnIds_append, ih,
        List.flatMap_cons, List.map_append, rewoundTurnIds_append]
      refine congrArg (· ++ _) ?_
      by_cases hrest : run.rest = []
      · rw [DeltaRun.row_of_rest_nil hrest, DeltaRun.events, hrest]
        rfl
      · have hdelta := DeltaRun.first_isSome hrest
        have hevents : ∀ events : List EventRow, (∀ event ∈ events, event.target.isSome) →
            rewoundTurnIds (events.map EventRow.record) = [] := by
          intro events hall
          induction events with
          | nil => rfl
          | cons event events ih =>
              obtain ⟨hevent, hevents⟩ := List.forall_mem_cons.mp hall
              rw [List.map_cons, ← List.singleton_append, rewoundTurnIds_append,
                rewound_of_delta hevent, ih hevents]
              rfl
        rw [rewound_of_delta (run.row_target.symm ▸ hdelta), hevents run.events fun event hevent => by
          rw [DeltaRun.target_of_mem hevent]
          exact hdelta]

lemma visible_represents (h : Represents rows original) :
    ∃ rows' original', Represents rows' original' ∧
      visibleSessionEvents (rows.map EventRow.record) = rows'.map EventRow.record ∧
      visibleSessionEvents (original.map EventRow.record) = original'.map EventRow.record := by
  have hrewound := rewoundTurnIds_represents h
  simp only [visibleSessionEvents, hrewound]
  split
  · exact ⟨rows, original, h, rfl, rfl⟩
  · let rewound := rewoundTurnIds (original.map EventRow.record)
    have hfilter : ∀ l : List EventRow,
        (l.map EventRow.record).filter (fun event => isVisible rewound event.kind) =
          (l.filter fun row => isVisible rewound row.kind).map EventRow.record := fun l => by
      rw [List.filter_map]
      rfl
    have hvisible : Represents (rows.filter fun row => isVisible rewound row.kind)
        (original.filter fun row => isVisible rewound row.kind) := by
      refine h.filter fun a b hsame hdelta => ?_
      rw [isVisible, isVisible, turnId_of_target hsame hdelta]
    exact ⟨_, _, hvisible, hfilter rows, hfilter original⟩

end Visible

lemma timeline_represents {rows original : List EventRow} {sessionId : SessionId}
    (h : Represents rows original) (hrows : ∀ row ∈ rows, row.sessionId = sessionId)
    (horiginal : ∀ row ∈ original, row.sessionId = sessionId) (viewed : String) :
    timeline (rows.map EventRow.record) viewed = timeline (original.map EventRow.record) viewed := by
  have hown : ∀ l : List EventRow, (∀ row ∈ l, row.sessionId = sessionId) →
      ((l.map EventRow.record).filter fun record => record.sessionId.value = viewed) =
        if sessionId.value = viewed then l.map EventRow.record else [] := by
    intro l hl
    split
    · next heq =>
        refine List.filter_eq_self.mpr fun record hrecord => ?_
        obtain ⟨row, hrow, rfl⟩ := List.mem_map.mp hrecord
        exact decide_eq_true (show row.sessionId.value = viewed by rw [hl row hrow, heq])
    · next hne =>
        refine List.filter_eq_nil_iff.mpr fun record hrecord => ?_
        obtain ⟨row, hrow, rfl⟩ := List.mem_map.mp hrecord
        rw [decide_eq_true_eq]
        exact fun heq => hne (by rw [← hl row hrow]; exact heq)
  rw [timeline, timeline, hown rows hrows, hown original horiginal]
  split
  · obtain ⟨rows', original', hvisible, hrows', horiginal'⟩ := visible_represents h
    rw [hrows', horiginal', joinDeltas_represents hvisible]
  · rfl

open CompactedLog in
theorem compaction_keeps_conversation (parseFromRfc3339 : String → Option ℤ) {initial : EventStore}
    (hinitial : initial.Uncompacted) {log : CompactedLog}
    (h : (compactedLogging parseFromRfc3339 initial).Reachable log) (isAlphanumeric : Char → Bool)
    (sessionId : SessionId) (viewed : String) :
    projectSession isAlphanumeric (log.store.listEventsBySession sessionId) viewed =
      projectSession isAlphanumeric (log.original.listEventsBySession sessionId) viewed := by
  have hrepresents := (reachable_compacts hinitial h).represents sessionId
  have htimeline := timeline_represents hrepresents
    (fun row hrow => (mem_sessionRows.mp hrow).2) (fun row hrow => (mem_sessionRows.mp hrow).2) viewed
  rw [projectSession, projectSession, EventStore.listEventsBySession, EventStore.listEventsBySession,
    htimeline]

theorem compaction_keeps_conversation_demo :
    demoLog.store.listEventsBySession demoLogSession ≠ demoLog.original.listEventsBySession demoLogSession ∧
    projectSession Char.isAlphanum (demoLog.store.listEventsBySession demoLogSession) "session-1" =
      projectSession Char.isAlphanum (demoLog.original.listEventsBySession demoLogSession) "session-1" :=
  ⟨by decide, compaction_keeps_conversation demoParse
    (show EventStore.empty.Uncompacted from ⟨by simp [EventStore.empty], fun _ => rfl⟩)
    (show (compactedLogging demoParse .empty).Reachable demoLog from .exec .start _)
    Char.isAlphanum demoLogSession "session-1"⟩

end DevCommandCenter.Timeline
