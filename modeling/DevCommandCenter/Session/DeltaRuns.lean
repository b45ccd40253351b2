import DevCommandCenter.Session.CompactedRows

/-! Which stretch of the log that was never compacted each stored row stands for. -/

namespace DevCommandCenter

structure DeltaRun where
  first : EventRow
  rest : List EventRow
  sameTarget : ∀ row ∈ rest, row.target = first.target ∧ row.target.isSome

namespace DeltaRun

variable {run : DeltaRun}

def events (run : DeltaRun) : List EventRow :=
  run.first :: run.rest

lemma events_ne_nil (run : DeltaRun) : run.events ≠ [] :=
  List.cons_ne_nil _ _

def row (run : DeltaRun) : EventRow :=
  if run.rest = [] then run.first
  else
    { run.first with
      kind := withContent run.first.kind (joinedText run.events)
      compactedThrough := some (run.events.getLast run.events_ne_nil).sequence }

def kept (row : EventRow) : DeltaRun where
  first := row
  rest := []
  sameTarget := by simp

lemma row_of_rest_nil (h : run.rest = []) : run.row = run.first := by
  rw [row, if_pos h]

lemma row_of_rest_ne_nil (h : run.rest ≠ []) :
    run.row = { run.first with
      kind := withContent run.first.kind (joinedText run.events)
      compactedThrough := some (run.events.getLast run.events_ne_nil).sequence } := by
  rw [row, if_neg h]

lemma first_isSome (h : run.rest ≠ []) : run.first.target.isSome := by
  obtain ⟨next, hnext⟩ := List.exists_mem_of_ne_nil _ h
  obtain ⟨hsame, hsome⟩ := run.sameTarget next hnext
  rwa [hsame] at hsome

lemma row_target (run : DeltaRun) : run.row.target = run.first.target := by
  rw [row]
  split
  · rfl
  · exact target_withContent _ _

lemma target_of_mem {event : EventRow} (h : event ∈ run.events) : event.target = run.first.target := by
  rcases List.mem_cons.mp h with rfl | h
  · rfl
  · exact (run.sameTarget event h).1

lemma row_text (run : DeltaRun) : run.row.text = joinedText run.events := by
  by_cases h : run.rest = []
  · rw [row_of_rest_nil h, events, h, joinedText_singleton]
  · have hdelta := first_isSome h
    rw [target_isSome] at hdelta
    rw [row_of_rest_ne_nil h, EventRow.text, text_withContent hdelta, Option.getD_some]

lemma withContent_row_kind (run : DeltaRun) (text : String) :
    withContent run.row.kind text = withContent run.first.kind text := by
  rw [row]
  split
  · rfl
  · exact withContent_withContent _ _ _

lemma row_rewritten (run : DeltaRun) (kind : SessionEventKind) (through : Option ℕ) :
    { run.row with kind := kind, compactedThrough := through } =
      { run.first with kind := kind, compactedThrough := through } := by
  rw [row]
  split <;> rfl

@[simp] lemma row_sequence (run : DeltaRun) : run.row.sequence = run.first.sequence := by
  rw [row]
  split <;> rfl

@[simp] lemma row_eventId (run : DeltaRun) : run.row.eventId = run.first.eventId := by
  rw [row]
  split <;> rfl

lemma rest_nil_of_row (h : run.row.compactedThrough = none) : run.rest = [] := by
  by_contra hrest
  rw [row_of_rest_ne_nil hrest] at h
  cases h

lemma compactedThrough_le (hfirst : run.first.compactedThrough = none) :
    run.row.compactedThrough.getD 0 ≤ (run.events.getLast run.events_ne_nil).sequence := by
  by_cases h : run.rest = []
  · rw [row_of_rest_nil h, hfirst]
    exact Nat.zero_le _
  · rw [row_of_rest_ne_nil h]
    exact le_rfl

end DeltaRun

def Represents (rows original : List EventRow) : Prop :=
  ∃ runs : List DeltaRun, rows = runs.map DeltaRun.row ∧ original = runs.flatMap DeltaRun.events

def Ordered (rows : List EventRow) : Prop :=
  rows.Pairwise fun a b => a.sequence < b.sequence

section Represents

variable {rows rows' original original' : List EventRow}

lemma represents_refl (rows : List EventRow) : Represents rows rows := by
  refine ⟨rows.map DeltaRun.kept, ?_, ?_⟩
  · simp [DeltaRun.kept, DeltaRun.row, Function.comp_def]
  · simp [DeltaRun.kept, DeltaRun.events, List.flatMap_map]

lemma Represents.append (h : Represents rows original) (h' : Represents rows' original') :
    Represents (rows ++ rows') (original ++ original') := by
  obtain ⟨runs, rfl, rfl⟩ := h
  obtain ⟨runs', rfl, rfl⟩ := h'
  exact ⟨runs ++ runs', by simp, by simp⟩

lemma Represents.split (h : Represents (rows ++ rows') original) :
    ∃ o o', original = o ++ o' ∧ Represents rows o ∧ Represents rows' o' := by
  obtain ⟨runs, hrows, rfl⟩ := h
  obtain ⟨l, l', rfl, hl, hl'⟩ := List.map_eq_append_iff.mp hrows.symm
  exact ⟨_, _, List.flatMap_append, ⟨l, hl.symm, rfl⟩, ⟨l', hl'.symm, rfl⟩⟩

lemma eq_of_represents_unmerged (h : Represents rows original)
    (hrows : ∀ row ∈ rows, row.compactedThrough = none) : original = rows := by
  obtain ⟨runs, rfl, rfl⟩ := h
  induction runs with
  | nil => rfl
  | cons run runs ih =>
      obtain ⟨hrun, hruns⟩ := List.forall_mem_cons.mp hrows
      have hrest := DeltaRun.rest_nil_of_row hrun
      rw [List.flatMap_cons, List.map_cons, ih hruns, DeltaRun.row_of_rest_nil hrest, DeltaRun.events,
        hrest, List.singleton_append]

lemma Represents.filter (h : Represents rows original) {p : EventRow → Bool}
    (hp : ∀ a b : EventRow, a.target = b.target → b.target.isSome → p a = p b) :
    Represents (rows.filter p) (original.filter p) := by
  obtain ⟨runs, rfl, rfl⟩ := h
  have hrow : ∀ run : DeltaRun, p run.row = p run.first := by
    intro run
    by_cases hrest : run.rest = []
    · rw [DeltaRun.row_of_rest_nil hrest]
    · exact hp _ _ run.row_target (DeltaRun.first_isSome hrest)
  have hevents : ∀ run : DeltaRun, run.events.filter p = if p run.first then run.events else [] := by
    intro run
    have hsame : ∀ event ∈ run.events, p event = p run.first := by
      intro event hevent
      by_cases hrest : run.rest = []
      · rw [DeltaRun.events, hrest, List.mem_singleton] at hevent
        rw [hevent]
      · exact hp _ _ (DeltaRun.target_of_mem hevent) (DeltaRun.first_isSome hrest)
    split
    · next hfirst => exact List.filter_eq_self.mpr fun event hevent => (hsame event hevent).trans hfirst
    · next hfirst =>
        refine List.filter_eq_nil_iff.mpr fun event hevent => ?_
        rwa [hsame event hevent]
  refine ⟨runs.filter fun run => p run.first, ?_, ?_⟩
  · rw [List.filter_map]
    exact congrArg _ (List.filter_congr fun run _ => hrow run)
  · induction runs with
    | nil => rfl
    | cons run runs ih =>
        rw [List.flatMap_cons, List.filter_append, hevents, ih, List.filter_cons]
        split <;> rfl

lemma Represents.joinedText_eq (h : Represents rows original) : joinedText rows = joinedText original := by
  obtain ⟨runs, rfl, rfl⟩ := h
  induction runs with
  | nil => rfl
  | cons run runs ih =>
      rw [List.map_cons, List.flatMap_cons, joinedText_append, ← ih, ← run.row_text,
        ← List.singleton_append, joinedText_append, joinedText_singleton]

lemma Represents.eq_of_no_target (h : Represents rows original) (hrows : ∀ row ∈ rows, row.target = none) :
    rows = original := by
  obtain ⟨runs, rfl, rfl⟩ := h
  induction runs with
  | nil => rfl
  | cons run runs ih =>
      obtain ⟨hrun, hruns⟩ := List.forall_mem_cons.mp hrows
      have hrest : run.rest = [] := by
        by_contra hrest
        have hsome := DeltaRun.first_isSome hrest
        rw [← run.row_target, hrun] at hsome
        cases hsome
      rw [List.map_cons, List.flatMap_cons, ← ih hruns, DeltaRun.row_of_rest_nil hrest, DeltaRun.events,
        hrest, List.singleton_append]

lemma represents_segment {terminals : TurnId → Option (ℕ × Bool)} {group : DeltaGroup}
    (hsound : group.Sound terminals) (hunmerged : ∀ row ∈ group.rest, row.compactedThrough = none)
    (hordered : Ordered original) (hnone : ∀ row ∈ original, row.compactedThrough = none)
    (h : Represents group.rows original) : Represents [group.result] original := by
  by_cases hrest : group.rest = []
  · rw [result_of_rest_nil hrest]
    rwa [DeltaGroup.rows, hrest] at h
  · obtain ⟨o, o', rfl, ⟨runs, hfirst, rfl⟩, hlater⟩ :=
      Represents.split (show Represents ([group.first] ++ group.rest) original from h)
    obtain ⟨run, rfl, hrun⟩ := List.map_eq_singleton_iff.mp hfirst.symm
    have hsame := eq_of_represents_unmerged hlater hunmerged
    subst hsame
    rw [List.flatMap_singleton] at hordered hnone ⊢
    have htargets : ∀ row ∈ run.rest ++ group.rest, row.target = run.first.target ∧ row.target.isSome := by
      intro row hrow
      rcases List.mem_append.mp hrow with hrow | hrow
      · exact run.sameTarget row hrow
      · have hdelta := hsound.first_isSome hrest
        rw [← target_isSome] at hdelta
        rw [hsound.target row hrow, ← hrun, run.row_target]
        rw [← hrun, run.row_target] at hdelta
        exact ⟨rfl, hdelta⟩
    let whole : DeltaRun := ⟨run.first, run.rest ++ group.rest, htargets⟩
    have hevents : whole.events = run.events ++ group.rest := rfl
    have hwhole : whole.rest ≠ [] := by
      simp only [whole, ne_eq, List.append_eq_nil_iff, not_and]
      exact fun _ => hrest
    refine ⟨[whole], ?_, ?_⟩
    · rw [List.map_singleton, List.cons.injEq]
      refine ⟨?_, rfl⟩
      have hcontent : group.content = joinedText whole.events := by
        rw [hsound.content, hevents, joinedText_append, ← run.row_text, hrun]
        simp [DeltaGroup.rows, joinedText]
      have hlast : group.rows.getLast group.rows_ne_nil = group.rest.getLast hrest := List.getLast_cons hrest
      have hlast' : whole.events.getLast whole.events_ne_nil = group.rest.getLast hrest :=
        List.getLast_append_of_ne_nil (show run.events ++ group.rest ≠ [] from List.cons_ne_nil _ _) hrest
      have hle : group.first.compactedThrough.getD 0 ≤ (group.rest.getLast hrest).sequence := by
        rw [← hrun]
        refine (DeltaRun.compactedThrough_le (hnone _ ?_)).trans (Nat.le_of_lt ?_)
        · exact List.mem_append_left _ List.mem_cons_self
        · exact (List.pairwise_append.mp hordered).2.2 _ (List.getLast_mem _) _ (List.getLast_mem _)
      rw [result_of_rest_ne_nil hrest, DeltaRun.row_of_rest_ne_nil hwhole, DeltaGroup.merged,
        DeltaGroup.lastSequence, hlast, hlast', max_eq_left hle, hcontent, ← hrun,
        run.withContent_row_kind]
      exact run.row_rewritten _ _
    · rw [List.flatMap_singleton, hevents]

lemma represents_results {terminals : TurnId → Option (ℕ × Bool)} {segments : List DeltaGroup}
    (hsound : ∀ segment ∈ segments, segment.Sound terminals)
    (hunmerged : ∀ segment ∈ segments, ∀ row ∈ segment.rest, row.compactedThrough = none)
    (hordered : Ordered original) (hnone : ∀ row ∈ original, row.compactedThrough = none)
    (h : Represents (segments.flatMap DeltaGroup.rows) original) :
    Represents (segments.map DeltaGroup.result) original := by
  induction segments generalizing original with
  | nil => exact h
  | cons group segments ih =>
      obtain ⟨hgroup, hsound⟩ := List.forall_mem_cons.mp hsound
      obtain ⟨hfirst, hunmerged⟩ := List.forall_mem_cons.mp hunmerged
      obtain ⟨o, o', rfl, ho, ho'⟩ := Represents.split h
      obtain ⟨hordered, hordered', -⟩ := List.pairwise_append.mp hordered
      obtain ⟨hnone, hnone'⟩ := List.forall_mem_append.mp hnone
      exact (represents_segment hgroup hfirst hordered hnone ho).append
        (ih hsound hunmerged hordered' hnone' ho')

end Represents

end DevCommandCenter
