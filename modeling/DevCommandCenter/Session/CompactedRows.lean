import DevCommandCenter.Session.CompactionPlan

/-! What a written plan leaves in the table, and which stretch of the original log each row stands
for. -/

namespace DevCommandCenter

def DeltaGroup.result (group : DeltaGroup) : EventRow :=
  if group.isRun then group.merged group.first else group.first

section Texts

lemma target_withContent (kind : SessionEventKind) (text : String) :
    (deltaTarget (withContent kind text)).map Prod.fst = (deltaTarget kind).map Prod.fst := by
  cases kind <;> rfl

lemma text_withContent {kind : SessionEventKind} (h : (deltaTarget kind).isSome) (text : String) :
    (deltaTarget (withContent kind text)).map Prod.snd = some text := by
  cases kind <;> first | rfl | cases h

lemma withContent_withContent (kind : SessionEventKind) (text text' : String) :
    withContent (withContent kind text) text' = withContent kind text' := by
  cases kind <;> rfl

lemma target_isSome {row : EventRow} : row.target.isSome = (deltaTarget row.kind).isSome := by
  simp [EventRow.target]

end Texts

def Crowded (row next : EventRow) : Prop :=
  row.target = next.target → next.compactedThrough.isSome →
    mergedContentMaxBytes < row.text.utf8ByteSize + next.text.utf8ByteSize

section Results

variable {terminals : TurnId → Option (ℕ × Bool)} {group next : DeltaGroup}

lemma isRun_iff : group.isRun = true ↔ group.rest ≠ [] := by
  simp [DeltaGroup.isRun]

lemma result_of_rest_nil (h : group.rest = []) : group.result = group.first := by
  simp [DeltaGroup.result, DeltaGroup.isRun, h]

lemma result_of_rest_ne_nil (h : group.rest ≠ []) : group.result = group.merged group.first := by
  rw [DeltaGroup.result, if_pos (isRun_iff.mpr h)]

lemma DeltaGroup.Sound.first_isSome (h : group.Sound terminals) (hrest : group.rest ≠ []) :
    (deltaTarget group.first.kind).isSome := by
  obtain ⟨key, hkey⟩ := mergeable_target (h.mergeable hrest group.first List.mem_cons_self)
  rw [hkey]
  rfl

lemma target_result : group.result.target = group.first.target := by
  rw [DeltaGroup.result]
  split
  · exact target_withContent _ _
  · rfl

lemma DeltaGroup.Sound.text_result (h : group.Sound terminals) : group.result.text = group.content := by
  by_cases hrest : group.rest = []
  · rw [result_of_rest_nil hrest, h.content, DeltaGroup.rows, hrest, joinedText_singleton]
  · rw [result_of_rest_ne_nil hrest, EventRow.text, DeltaGroup.merged,
      text_withContent (h.first_isSome hrest), Option.getD_some]

lemma size_text_le {rows : List EventRow} {row : EventRow} (h : row ∈ rows) :
    row.text.utf8ByteSize ≤ (joinedText rows).utf8ByteSize := by
  induction rows with
  | nil => cases h
  | cons head rows ih =>
      simp only [joinedText, List.map_cons, String.join_cons, String.utf8ByteSize_append]
      rcases List.mem_cons.mp h with rfl | h
      · exact Nat.le_add_right _ _
      · exact (ih h).trans (Nat.le_add_left _ _)

lemma unmerged_of_fits {size : ℕ} {row : EventRow} {rows : List EventRow}
    (hfits : FitsFrom size rows) (hsize : row.text.utf8ByteSize ≤ size)
    (htarget : ∀ r ∈ rows, r.target = row.target) (hchain : (row :: rows).IsChain Crowded) :
    ∀ r ∈ rows, r.compactedThrough = none := by
  induction rows generalizing size row with
  | nil => simp
  | cons head rows ih =>
      obtain ⟨hhead, hfits⟩ := hfits
      obtain ⟨hcrowded, hchain⟩ := List.isChain_cons_cons.mp hchain
      have hsame := htarget head List.mem_cons_self
      refine List.forall_mem_cons.mpr ⟨?_, ih hfits (Nat.le_add_left _ _) (fun r hr => ?_) hchain⟩
      · by_contra hmerged
        have := hcrowded hsame.symm (Option.isSome_iff_ne_none.mpr hmerged)
        omega
      · exact (htarget r (List.mem_cons_of_mem _ hr)).trans hsame.symm

lemma rows_getLast_mem (group : DeltaGroup) :
    group.rows.getLast group.rows_ne_nil ∈ group.rows :=
  List.getLast_mem _

lemma DeltaGroup.Sound.target_of_mem (h : group.Sound terminals) {row : EventRow}
    (hrow : row ∈ group.rows) : row.target = group.first.target := by
  rcases List.mem_cons.mp hrow with rfl | hrow
  · rfl
  · exact h.target row hrow

lemma crowded_result (hgroup : group.Sound terminals) (hnext : next.Sound terminals)
    (hseparate : Separate group next)
    (hrows : Crowded (group.rows.getLast group.rows_ne_nil) next.first) :
    Crowded group.result next.result := by
  intro htarget hmerged
  rw [target_result, target_result] at htarget
  rw [hgroup.text_result, hnext.text_result]
  by_cases hrest : next.rest = []
  · have hlast := rows_getLast_mem group
    rw [result_of_rest_nil hrest] at hmerged
    have hcrowded := hrows ((hgroup.target_of_mem hlast).trans htarget) hmerged
    have hlast_le := size_text_le hlast
    rw [← hgroup.content] at hlast_le
    rw [hnext.content, DeltaGroup.rows, hrest, joinedText_singleton]
    omega
  · have hcrowded := hseparate hrest htarget
    have hfirst_le : next.first.text.utf8ByteSize ≤ (joinedText next.rows).utf8ByteSize :=
      size_text_le List.mem_cons_self
    rw [← hnext.content] at hfirst_le
    omega

lemma crowded_results {segments : List DeltaGroup}
    (hsound : ∀ segment ∈ segments, segment.Sound terminals) (hseparate : segments.IsChain Separate)
    (hchain : (segments.flatMap DeltaGroup.rows).IsChain Crowded) :
    (∀ segment ∈ segments, ∀ row ∈ segment.rest, row.compactedThrough = none) ∧
      (segments.map DeltaGroup.result).IsChain Crowded := by
  induction segments with
  | nil => exact ⟨by simp, List.IsChain.nil⟩
  | cons group segments ih =>
      obtain ⟨hgroup, hsound⟩ := List.forall_mem_cons.mp hsound
      obtain ⟨hhead, hseparate⟩ := List.isChain_cons.mp hseparate
      rw [List.flatMap_cons] at hchain
      obtain ⟨hrows, hchain, hbetween⟩ := List.isChain_append.mp hchain
      obtain ⟨hunmerged, hresults⟩ := ih hsound hseparate hchain
      refine ⟨List.forall_mem_cons.mpr
        ⟨unmerged_of_fits hgroup.fits le_rfl hgroup.target hrows, hunmerged⟩, ?_⟩
      refine List.isChain_cons.mpr ⟨fun row hrow => ?_, hresults⟩
      cases segments with
      | nil => cases hrow
      | cons next more =>
          cases hrow
          refine crowded_result hgroup (hsound next List.mem_cons_self) (hhead next rfl) ?_
          refine hbetween _ ?_ next.first rfl
          rw [List.getLast?_eq_some_getLast group.rows_ne_nil]
          exact Option.mem_some_self _

end Results

section Written

variable {table : List EventRow} {group : DeltaGroup} {sessionId : SessionId}

def DeltaGroup.rewrite (group : DeltaGroup) (row : EventRow) : Option EventRow :=
  if row ∈ group.rest then none else if row = group.first then some (group.merged row) else some row

lemma foldl_filter_unchanged (reads table : List EventRow) :
    reads.foldl (fun rows read => rows.filter fun row => !read.unchanged row) table =
      table.filter fun row => reads.all fun read => !read.unchanged row := by
  induction reads generalizing table with
  | nil => simp
  | cons read reads ih =>
      rw [List.foldl_cons, ih, List.filter_filter]
      refine List.filter_congr fun row _ => ?_
      rw [List.all_cons, Bool.and_comm]

lemma WellFormed.write_eq (h : WellFormed table) (hrows : ∀ row ∈ group.rows, row ∈ table)
    (hnodup : group.rows.Nodup) : group.write table = some (table.filterMap group.rewrite) := by
  obtain ⟨hfirst, hrest⟩ := List.forall_mem_cons.mp hrows
  have hapart : group.first ∉ group.rest := (List.nodup_cons.mp hnodup).1
  have hself : ∀ row : EventRow, row.unchanged row = true := fun row => by simp [EventRow.unchanged]
  have hany : table.any group.first.unchanged = true := List.any_eq_true.mpr ⟨_, hfirst, hself _⟩
  have hsame : ∀ read ∈ table, ∀ row ∈ table, read.unchanged row = true → row = read :=
    fun read hread row hrow heq => h.eq_of_eventId hrow hread (of_decide_eq_true heq).1
  rw [DeltaGroup.write, if_pos hany, Option.some.injEq, foldl_filter_unchanged,
    ← List.filterMap_eq_filter, List.filterMap_map]
  refine List.filterMap_congr fun row hrow => ?_
  by_cases hdeleted : row ∈ group.rest
  · have hne : ¬group.first.unchanged row = true := fun heq =>
      hapart (hsame _ hfirst _ hrow heq ▸ hdeleted)
    simp only [Function.comp_apply, if_neg hne, DeltaGroup.rewrite, if_pos hdeleted]
    refine Option.guard_eq_none_iff.mpr ?_
    simpa using ⟨row, hdeleted, hself row⟩
  · by_cases hkept : row = group.first
    · subst hkept
      simp only [Function.comp_apply, if_pos (hself group.first), DeltaGroup.rewrite, if_neg hdeleted,
        if_true]
      refine Option.guard_eq_some_iff.mpr ⟨rfl, ?_⟩
      refine List.all_eq_true.mpr fun read hread => ?_
      rw [Bool.not_eq_true']
      refine decide_eq_false fun heq => hapart ?_
      rwa [h.eq_of_eventId hfirst (hrest read hread) heq.1]
    · have hne : ¬group.first.unchanged row = true := fun heq => hkept (hsame _ hfirst _ hrow heq)
      simp only [Function.comp_apply, if_neg hne, DeltaGroup.rewrite, if_neg hdeleted, if_neg hkept]
      refine Option.guard_eq_some_iff.mpr ⟨rfl, ?_⟩
      refine List.all_eq_true.mpr fun read hread => ?_
      rw [Bool.not_eq_true', ← Bool.not_eq_true]
      exact fun heq => hdeleted (hsame _ (hrest read hread) _ hrow heq ▸ hread)

lemma sessionRows_rewrite (table : List EventRow) (group : DeltaGroup) (sessionId : SessionId) :
    sessionRows (table.filterMap group.rewrite) sessionId =
      (sessionRows table sessionId).filterMap group.rewrite := by
  have hsession : ∀ row row', group.rewrite row = some row' → row'.sessionId = row.sessionId := by
    intro row row' h
    unfold DeltaGroup.rewrite at h
    split at h
    · cases h
    · split at h <;> cases h <;> rfl
  induction table with
  | nil => rfl
  | cons row table ih =>
      unfold sessionRows at ih ⊢
      cases hrow : group.rewrite row with
      | none =>
          rw [List.filterMap_cons_none hrow, ih, List.filter_cons]
          split
          · rw [List.filterMap_cons_none hrow]
          · rfl
      | some row' =>
          rw [List.filterMap_cons_some hrow, List.filter_cons, List.filter_cons, hsession _ _ hrow]
          split
          · rw [List.filterMap_cons_some hrow, ih]
          · exact ih

lemma filterMap_rewrite_of_disjoint {rows : List EventRow} (h : ∀ row ∈ rows, row ∉ group.rows) :
    rows.filterMap group.rewrite = rows := by
  have hsome : ∀ row ∈ rows, group.rewrite row = some row := by
    intro row hrow
    obtain ⟨hfirst, hrest⟩ := not_or.mp (List.mem_cons.not.mp (h row hrow))
    rw [DeltaGroup.rewrite, if_neg hrest, if_neg hfirst]
  rw [List.filterMap_congr hsome, List.filterMap_some]

lemma filterMap_rewrite_segment {before after : List EventRow}
    (h : (before ++ (group.rows ++ after)).Nodup) :
    (before ++ (group.rows ++ after)).filterMap group.rewrite =
      before ++ (group.merged group.first :: after) := by
  obtain ⟨-, hgroup, hbefore⟩ := List.nodup_append.mp h
  obtain ⟨hrows, -, hafter⟩ := List.nodup_append.mp hgroup
  have hfirst : group.first ∉ group.rest := (List.nodup_cons.mp hrows).1
  have hhead : group.rewrite group.first = some (group.merged group.first) := by
    rw [DeltaGroup.rewrite, if_neg hfirst, if_pos rfl]
  have hrest : group.rest.filterMap group.rewrite = [] :=
    List.filterMap_eq_nil_iff.mpr fun row hrow => by rw [DeltaGroup.rewrite, if_pos hrow]
  rw [List.filterMap_append, List.filterMap_append,
    filterMap_rewrite_of_disjoint fun row hrow hmem =>
      hbefore row hrow row (List.mem_append_left _ hmem) rfl,
    filterMap_rewrite_of_disjoint fun row hrow hmem => hafter row hmem row hrow rfl,
    DeltaGroup.rows, List.filterMap_cons_some hhead, hrest, List.singleton_append]

lemma writeGroups_segments {segments : List DeltaGroup} {before after : List EventRow}
    (h : WellFormed table)
    (hrows : sessionRows table sessionId = before ++ (segments.flatMap DeltaGroup.rows ++ after)) :
    ∃ written, writeGroups (segments.filter DeltaGroup.isRun) table = some written ∧
      sessionRows written sessionId = before ++ (segments.map DeltaGroup.result ++ after) ∧
      ∀ other, other ≠ sessionId → sessionRows written other = sessionRows table other := by
  induction segments generalizing table before with
  | nil => exact ⟨table, rfl, hrows, fun _ _ => rfl⟩
  | cons group segments ih =>
      rw [List.flatMap_cons, List.append_assoc] at hrows
      by_cases hrun : group.isRun = true
      · have hmem : ∀ row ∈ group.rows, row ∈ table ∧ row.sessionId = sessionId := fun row hrow =>
          mem_sessionRows.mp (hrows ▸ List.mem_append_right _ (List.mem_append_left _ hrow))
        have hnodup : (sessionRows table sessionId).Nodup := h.nodup.filter _
        rw [hrows] at hnodup
        have hgroup := (List.nodup_append.mp (List.nodup_append.mp hnodup).2.1).1
        have hwrite := h.write_eq (fun row hrow => (hmem row hrow).1) hgroup
        have hresult : group.result = group.merged group.first := by
          rw [DeltaGroup.result, if_pos hrun]
        have hsession : sessionRows (table.filterMap group.rewrite) sessionId =
            (before ++ [group.result]) ++ (segments.flatMap DeltaGroup.rows ++ after) := by
          rw [sessionRows_rewrite, hrows, filterMap_rewrite_segment hnodup, hresult,
            List.append_assoc, List.singleton_append]
        obtain ⟨written, hwritten, hsame, hothers⟩ := ih (h.write hwrite) hsession
        refine ⟨written, ?_, ?_, fun other hother => (hothers other hother).trans ?_⟩
        · rw [List.filter_cons_of_pos hrun, writeGroups, hwrite, Option.bind_some]
          exact hwritten
        · rw [hsame, List.map_cons, List.append_assoc, List.singleton_append, List.cons_append]
        · rw [sessionRows_rewrite]
          refine filterMap_rewrite_of_disjoint fun row hrow hin => hother ?_
          rw [← (mem_sessionRows.mp hrow).2, (hmem row hin).2]
      · have hrest : group.rest = [] := by simpa [DeltaGroup.isRun] using hrun
        rw [DeltaGroup.rows, hrest, List.singleton_append, ← List.singleton_append,
          ← List.append_assoc] at hrows
        obtain ⟨written, hwritten, hsame, hothers⟩ := ih h hrows
        refine ⟨written, ?_, ?_, hothers⟩
        · rw [List.filter_cons_of_neg hrun]
          exact hwritten
        · rw [hsame, List.map_cons, result_of_rest_nil hrest, List.append_assoc,
            List.singleton_append, List.cons_append]

end Written

end DevCommandCenter
