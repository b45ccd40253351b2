import DevCommandCenter.Session.CompactedLog

/-! A compaction step keeps the store and the original log together, whatever is appended meanwhile. -/

namespace DevCommandCenter

open Library

section Ordered

variable {rows : List EventRow}

lemma ordered_sessionRows {table : List EventRow} (h : WellFormed table) (sessionId : SessionId) :
    Ordered (sessionRows table sessionId) := by
  refine (h.sequences.filter _).imp_of_mem fun {a b} ha hb hlt => hlt ?_
  rw [(mem_sessionRows.mp ha).2, (mem_sessionRows.mp hb).2]

lemma ordered_split (h : Ordered rows) (n : ℕ) :
    rows = (rows.filter fun row => row.sequence ≤ n) ++ rows.filter fun row => n < row.sequence := by
  induction rows with
  | nil => rfl
  | cons row rows ih =>
      obtain ⟨hrow, hrows⟩ := List.pairwise_cons.mp h
      by_cases hle : row.sequence ≤ n
      · have hnot : ¬n < row.sequence := Nat.not_lt.mpr hle
        simp only [List.filter_cons, hle, hnot, decide_true, decide_false, if_true, if_false,
          Bool.false_eq_true, List.cons_append]
        exact congrArg (row :: ·) (ih hrows)
      · have hlt : n < row.sequence := Nat.lt_of_not_le hle
        have hnone : (rows.filter fun later => later.sequence ≤ n) = [] := by
          refine List.filter_eq_nil_iff.mpr fun later hlater => ?_
          have := hrow later hlater
          simp only [decide_eq_true_eq]
          omega
        have hall : (rows.filter fun later => n < later.sequence) = rows := by
          refine List.filter_eq_self.mpr fun later hlater => ?_
          have := hrow later hlater
          simp only [decide_eq_true_eq]
          omega
        simp only [List.filter_cons, hle, hlt, decide_true, decide_false, if_true, if_false,
          Bool.false_eq_true, hnone, hall, List.nil_append]

lemma isChain_filter_of_le {R : EventRow → EventRow → Prop} (h : Ordered rows) {n m : ℕ} (hle : n ≤ m)
    (hchain : (rows.filter fun row => n < row.sequence).IsChain R) :
    (rows.filter fun row => m < row.sequence).IsChain R := by
  have hordered : Ordered (rows.filter fun row => n < row.sequence) := h.filter _
  rw [ordered_split hordered m] at hchain
  have hsame : ((rows.filter fun row => n < row.sequence).filter fun row => m < row.sequence) =
      rows.filter fun row => m < row.sequence := by
    rw [List.filter_filter]
    refine List.filter_congr fun row _ => ?_
    by_cases hm : m < row.sequence
    · have hn : n < row.sequence := hle.trans_lt hm
      simp [hm, hn]
    · simp [hm]
  rw [hsame] at hchain
  exact hchain.right_of_append

lemma exists_maxSequence {table : List EventRow} {sessionId : SessionId}
    (h : sessionRows table sessionId ≠ []) :
    ∃ row ∈ sessionRows table sessionId, row.sequence = maxSequence table sessionId := by
  rw [maxSequence]
  generalize sessionRows table sessionId = rows at h
  induction rows with
  | nil => exact absurd rfl h
  | cons row rows ih =>
      by_cases hrows : rows = []
      · exact ⟨row, List.mem_cons_self, by simp [hrows]⟩
      · obtain ⟨last, hlast, hmax⟩ := ih hrows
        simp only [List.map_cons, List.foldr_cons]
        rcases le_total row.sequence ((rows.map EventRow.sequence).foldr max 0) with hle | hle
        · exact ⟨last, List.mem_cons_of_mem _ hlast, by rw [max_eq_right hle, hmax]⟩
        · exact ⟨row, List.mem_cons_self, by rw [max_eq_left hle]⟩

lemma sequence_le_of_mem {table : List EventRow} {sessionId : SessionId} {row : EventRow}
    (h : row ∈ sessionRows table sessionId) : row.sequence ≤ maxSequence table sessionId :=
  le_foldr_max (List.mem_map_of_mem h)

lemma maxSequence_le {table table' : List EventRow} {sessionId : SessionId}
    (h : ∀ row ∈ sessionRows table sessionId, row.sequence = maxSequence table sessionId →
      ∃ row' ∈ sessionRows table' sessionId, row'.sequence = row.sequence) :
    maxSequence table sessionId ≤ maxSequence table' sessionId := by
  by_cases hnil : sessionRows table sessionId = []
  · rw [maxSequence, hnil]
    exact Nat.zero_le _
  · obtain ⟨row, hrow, hmax⟩ := exists_maxSequence hnil
    obtain ⟨row', hrow', hsequence⟩ := h row hrow hmax
    rw [← hmax, ← hsequence]
    exact sequence_le_of_mem hrow'

end Ordered

section Terminals

variable {parseFromRfc3339 : String → Option ℤ} {now : ℤ} {table : List EventRow}
  {sessionId : SessionId}

lemma terminalSequences_mem {turnId : TurnId} {sequence : ℕ} {isSettled : Bool}
    (h : terminalSequences parseFromRfc3339 now table sessionId turnId = some (sequence, isSettled)) :
    ∃ row ∈ sessionRows table sessionId, row.sequence = sequence := by
  rw [terminalSequences] at h
  generalize sessionRows table sessionId = rows at h ⊢
  induction rows using List.reverseRecOn with
  | nil => cases h
  | append_singleton rows row ih =>
      rw [List.foldl_append, List.foldl_cons, List.foldl_nil] at h
      cases hturn : row.terminalTurnId with
      | some found =>
          simp only [hturn] at h
          by_cases hsame : turnId = found
          · subst hsame
            rw [Function.update_self, Option.some.injEq, Prod.mk.injEq] at h
            exact ⟨row, List.mem_append_right _ (List.mem_singleton_self _), h.1⟩
          · rw [Function.update_of_ne hsame] at h
            obtain ⟨earlier, hearlier, hsequence⟩ := ih h
            exact ⟨earlier, List.mem_append_left _ hearlier, hsequence⟩
      | none =>
          simp only [hturn] at h
          obtain ⟨earlier, hearlier, hsequence⟩ := ih h
          exact ⟨earlier, List.mem_append_left _ hearlier, hsequence⟩

lemma mergeable_below {row : EventRow}
    (h : mergeable (terminalSequences parseFromRfc3339 now table sessionId) row = true) :
    ∃ last ∈ sessionRows table sessionId, row.sequence < last.sequence := by
  rw [mergeable, Option.any_eq_true] at h
  obtain ⟨⟨target, _⟩, -, h⟩ := h
  rw [Bool.and_eq_true, Option.any_eq_true] at h
  obtain ⟨-, ⟨terminal, isSettled⟩, hterminal, hlt⟩ := h
  obtain ⟨last, hlast, rfl⟩ := terminalSequences_mem hterminal
  exact ⟨last, hlast, of_decide_eq_true hlt⟩

lemma mergeable_earlier (terminals : TurnId → Option (ℕ × Bool)) {a b : EventRow}
    (hlt : a.sequence < b.sequence) (htarget : a.target = b.target)
    (h : mergeable terminals b = true) : mergeable terminals a = true := by
  obtain ⟨key, hkey⟩ := mergeable_target h
  rw [EventRow.target, EventRow.target, hkey, Option.map_some] at htarget
  obtain ⟨⟨_, content⟩, ha, rfl⟩ := Option.map_eq_some_iff.mp htarget
  rw [mergeable, hkey, Option.any_some, Bool.and_eq_true, Option.any_eq_true] at h
  obtain ⟨hsettled, ⟨terminal, isSettled⟩, hterminal, hbelow⟩ := h
  rw [mergeable, ha, Option.any_some, Bool.and_eq_true, Option.any_eq_true]
  refine ⟨hsettled, ⟨terminal, isSettled⟩, hterminal, decide_eq_true ?_⟩
  exact hlt.trans (of_decide_eq_true hbelow)

end Terminals

structure Extends (earlier later : EventStore) : Prop where
  rows : ∃ added, later.rows = earlier.rows ++ added ∧ ∀ row ∈ added, row.compactedThrough = none
  scanned : later.scannedThrough = earlier.scannedThrough

section Extends

variable {earlier middle later : EventStore}

lemma extends_refl (store : EventStore) : Extends store store :=
  ⟨⟨[], by simp, by simp⟩, rfl⟩

lemma Extends.trans (h : Extends earlier middle) (h' : Extends middle later) :
    Extends earlier later := by
  obtain ⟨⟨added, hrows, hnone⟩, hscanned⟩ := h
  obtain ⟨⟨added', hrows', hnone'⟩, hscanned'⟩ := h'
  refine ⟨⟨added ++ added', ?_, List.forall_mem_append.mpr ⟨hnone, hnone'⟩⟩, hscanned'.trans hscanned⟩
  rw [hrows', hrows, List.append_assoc]

lemma extends_appendEvent (store : EventStore) (event : SessionEventRecord) :
    Extends store (store.appendEvent event).2 := by
  by_cases h : Inserts store.rows event
  · exact ⟨⟨_, (appendEventRows_rows _ _).1 h, by simp [newEventRow]⟩, rfl⟩
  · exact ⟨⟨[], by rw [List.append_nil]; exact (appendEventRows_rows _ _).2 h, by simp⟩, rfl⟩

lemma Extends.sessionRows_mem (h : Extends earlier later) {sessionId : SessionId} {row : EventRow}
    (hrow : row ∈ sessionRows earlier.rows sessionId) : row ∈ sessionRows later.rows sessionId := by
  obtain ⟨⟨added, hrows, -⟩, -⟩ := h
  rw [hrows, sessionRows_append]
  exact List.mem_append_left _ hrow

end Extends

section Step

variable {parseFromRfc3339 : String → Option ℤ} {atRows atTerminals store original : EventStore}
  {sessionId : SessionId} {now : ℤ} {maxDeleted : ℕ}

lemma scanned_segments (atRows : EventStore) (terminals : TurnId → Option (ℕ × Bool))
    (sessionId : SessionId) (maxDeleted n : ℕ) :
    let rows := (sessionRows atRows.rows sessionId).filter fun row => n < row.sequence
    ∃ segments, Segmented terminals rows (planGroups terminals maxDeleted none 0 rows).groups
      segments := by
  intro rows
  have hordered : Ordered rows := (ordered_sessionRows atRows.wellFormed sessionId).filter _
  exact planGroups_segmented maxDeleted rows none 0 (fun _ _ h => by cases h)
    (hordered.imp fun hlt htarget => mergeable_earlier terminals hlt htarget)

structure Rewritten (atRows store next : EventStore) (sessionId : SessionId)
    (terminals : TurnId → Option (ℕ × Bool)) (segments : List DeltaGroup)
    (before after : List EventRow) : Prop where
  sound : ∀ segment ∈ segments, segment.Sound terminals
  separate : segments.IsChain Separate
  scannedRows : segments.flatMap DeltaGroup.rows = (sessionRows atRows.rows sessionId).filter
    fun row => (atRows.scannedThrough sessionId).getD 0 < row.sequence
  beforeRows : ∀ row ∈ before, row.sequence ≤ (atRows.scannedThrough sessionId).getD 0
  afterRows : ∀ row ∈ after, row.compactedThrough = none
  old : sessionRows store.rows sessionId = before ++ (segments.flatMap DeltaGroup.rows ++ after)
  new : sessionRows next.rows sessionId = before ++ (segments.map DeltaGroup.result ++ after)
  others : ∀ other, other ≠ sessionId → sessionRows next.rows other = sessionRows store.rows other ∧
    next.scannedThrough other = store.scannedThrough other
  scanned : (atRows.scannedThrough sessionId).getD 0 ≤ (next.scannedThrough sessionId).getD 0

lemma compaction_rewritten (h : Extends atRows store) :
    (compactSessionDeltasStep parseFromRfc3339 atRows atTerminals store sessionId now maxDeleted).2 =
        store ∨
      ∃ segments before after, Rewritten atRows store
        (compactSessionDeltasStep parseFromRfc3339 atRows atTerminals store sessionId now maxDeleted).2
        sessionId (terminalSequences parseFromRfc3339 now atTerminals.rows sessionId) segments before
        after := by
  obtain ⟨⟨added, hadded, hnone⟩, hscanned⟩ := h
  let n := (atRows.scannedThrough sessionId).getD 0
  let terminals := terminalSequences parseFromRfc3339 now atTerminals.rows sessionId
  obtain ⟨segments, hsegments⟩ := scanned_segments atRows terminals sessionId maxDeleted n
  have hordered := ordered_sessionRows atRows.wellFormed sessionId
  have hold : sessionRows store.rows sessionId =
      ((sessionRows atRows.rows sessionId).filter fun row => row.sequence ≤ n) ++
        (segments.flatMap DeltaGroup.rows ++ sessionRows added sessionId) := by
    rw [hadded, sessionRows_append, hsegments.rows_eq, ← List.append_assoc, ← ordered_split hordered n]
  obtain ⟨written, hwritten, hnew, hothers⟩ := writeGroups_segments store.wellFormed hold
  rw [← hsegments.groups_eq] at hwritten
  unfold compactSessionDeltasStep
  dsimp only
  split
  · exact .inl rfl
  · right
    split
    · next hfailed => exact absurd (hwritten.symm.trans hfailed) (by simp)
    · next found hfound =>
        cases hwritten.symm.trans hfound
        refine ⟨segments, _, _, hsegments.sound, hsegments.separate, hsegments.rows_eq, ?_, ?_, hold,
          hnew, fun other hother => ⟨hothers other hother, ?_⟩, ?_⟩
        · intro row hrow
          exact of_decide_eq_true (List.mem_filter.mp hrow).2
        · intro row hrow
          exact hnone row (mem_sessionRows.mp hrow).1
        · dsimp only
          split
          · rfl
          · rw [Function.update_of_ne hother]
        · dsimp only
          split
          · rw [hscanned]
          · rw [Function.update_self, Option.getD_some]
            exact le_max_right _ _

namespace Rewritten

variable {next : EventStore} {segments : List DeltaGroup} {before after : List EventRow}

lemma sequence_result (group : DeltaGroup) : group.result.sequence = group.first.sequence := by
  rw [DeltaGroup.result]
  split <;> rfl

lemma unmerged_crowded {terminals : TurnId → Option (ℕ × Bool)}
    (h : Rewritten atRows store next sessionId terminals segments before after)
    (hcrowded : ((sessionRows atRows.rows sessionId).filter fun row =>
      (atRows.scannedThrough sessionId).getD 0 < row.sequence).IsChain Crowded) :
    (∀ segment ∈ segments, ∀ row ∈ segment.rest, row.compactedThrough = none) ∧
      ((sessionRows next.rows sessionId).filter fun row =>
        (next.scannedThrough sessionId).getD 0 < row.sequence).IsChain Crowded := by
  rw [← h.scannedRows] at hcrowded
  obtain ⟨hunmerged, hresults⟩ := crowded_results h.sound h.separate hcrowded
  refine ⟨hunmerged, isChain_filter_of_le (ordered_sessionRows next.wellFormed sessionId) h.scanned ?_⟩
  have hbefore : (before.filter fun row =>
      (atRows.scannedThrough sessionId).getD 0 < row.sequence) = [] := by
    refine List.filter_eq_nil_iff.mpr fun row hrow => ?_
    simpa using h.beforeRows row hrow
  have hkept : ((segments.map DeltaGroup.result).filter fun row =>
      (atRows.scannedThrough sessionId).getD 0 < row.sequence) = segments.map DeltaGroup.result := by
    refine List.filter_eq_self.mpr fun row hrow => ?_
    obtain ⟨segment, hsegment, rfl⟩ := List.mem_map.mp hrow
    have hfirst : segment.first ∈ segments.flatMap DeltaGroup.rows :=
      List.mem_flatMap.mpr ⟨segment, hsegment, List.mem_cons_self⟩
    rw [h.scannedRows] at hfirst
    rw [sequence_result]
    exact (List.mem_filter.mp hfirst).2
  have hafter : ∀ row ∈ after.filter fun row =>
      (atRows.scannedThrough sessionId).getD 0 < row.sequence, row.compactedThrough = none :=
    fun row hrow => h.afterRows row (List.mem_of_mem_filter hrow)
  rw [h.new, List.filter_append, List.filter_append, hbefore, hkept, List.nil_append]
  refine List.isChain_append.mpr ⟨hresults, crowded_of_unmerged hafter, ?_⟩
  intro row _ later hlater _ hmerged
  rw [hafter later (List.mem_of_mem_head? hlater)] at hmerged
  cases hmerged

lemma represents {terminals : TurnId → Option (ℕ × Bool)}
    (h : Rewritten atRows store next sessionId terminals segments before after)
    (hunmerged : ∀ segment ∈ segments, ∀ row ∈ segment.rest, row.compactedThrough = none)
    (hstore : Compacts store original) :
    Represents (sessionRows next.rows sessionId) (sessionRows original.rows sessionId) := by
  have hold := hstore.represents sessionId
  have hordered := ordered_sessionRows original.wellFormed sessionId
  have hnone : ∀ row ∈ sessionRows original.rows sessionId, row.compactedThrough = none :=
    fun row hrow => hstore.unmerged row (mem_sessionRows.mp hrow).1
  rw [h.old] at hold
  obtain ⟨o, o', heq, hbefore, hold⟩ := hold.split
  obtain ⟨o₁, o₂, rfl, hsegments, hafter⟩ := hold.split
  rw [heq] at hordered hnone ⊢
  obtain ⟨hnone₁, -⟩ := List.forall_mem_append.mp (List.forall_mem_append.mp hnone).2
  have hordered₁ : Ordered o₁ :=
    (List.pairwise_append.mp (List.pairwise_append.mp hordered).2.1).1
  rw [h.new]
  exact hbefore.append ((represents_results h.sound hunmerged hordered₁ hnone₁ hsegments).append hafter)

lemma highest (h : Rewritten atRows store next sessionId
      (terminalSequences parseFromRfc3339 now atTerminals.rows sessionId) segments before after)
    (hterminals : Extends atTerminals store) (other : SessionId) :
    maxSequence next.rows other = maxSequence store.rows other := by
  by_cases hother : other = sessionId
  · subst hother
    refine le_antisymm (maxSequence_le fun row hrow _ => ?_) (maxSequence_le fun row hrow hmax => ?_)
    · rw [h.new] at hrow
      rw [h.old]
      simp only [List.mem_append, List.mem_map, List.mem_flatMap] at hrow ⊢
      obtain hrow | ⟨segment, hsegment, rfl⟩ | hrow := hrow
      · exact ⟨row, .inl hrow, rfl⟩
      · exact ⟨segment.first, .inr (.inl ⟨segment, hsegment, List.mem_cons_self⟩),
          (sequence_result segment).symm⟩
      · exact ⟨row, .inr (.inr hrow), rfl⟩
    · rw [h.old] at hrow
      rw [h.new]
      simp only [List.mem_append, List.mem_map, List.mem_flatMap] at hrow ⊢
      obtain hrow | ⟨segment, hsegment, hmem⟩ | hrow := hrow
      · exact ⟨row, .inl hrow, rfl⟩
      · rcases List.mem_cons.mp hmem with rfl | hrest
        · exact ⟨segment.result, .inr (.inl ⟨segment, hsegment, rfl⟩), sequence_result segment⟩
        · have hmergeable := (h.sound segment hsegment).mergeable (List.ne_nil_of_mem hrest) row hmem
          obtain ⟨last, hlast, hbelow⟩ := mergeable_below hmergeable
          have hle := sequence_le_of_mem (hterminals.sessionRows_mem hlast)
          omega
      · exact ⟨row, .inr (.inr hrow), rfl⟩
  · rw [maxSequence, (h.others other hother).1, maxSequence]

end Rewritten

lemma Compacts.compact {earlier : EventStore} (h : Compacts store original)
    (hrows : Compacts atRows earlier) (hstore : Extends atRows store)
    (hterminals : Extends atTerminals store) :
    Compacts
      (compactSessionDeltasStep parseFromRfc3339 atRows atTerminals store sessionId now maxDeleted).2
      original := by
  obtain hsame | ⟨segments, before, after, hrewritten⟩ := compaction_rewritten hstore
  · rw [hsame]
    exact h
  · obtain ⟨hunmerged, hcrowded⟩ := hrewritten.unmerged_crowded (hrows.crowded sessionId)
    refine ⟨h.unmerged, fun other => ?_, fun other => ?_, fun other => ?_⟩
    · by_cases hother : other = sessionId
      · rw [hother]
        exact hrewritten.represents hunmerged h
      · rw [(hrewritten.others other hother).1]
        exact h.represents other
    · by_cases hother : other = sessionId
      · rw [hother]
        exact hcrowded
      · rw [(hrewritten.others other hother).1, (hrewritten.others other hother).2]
        exact h.crowded other
    · rw [hrewritten.highest hterminals, h.highest]

end Step

namespace CompactedLog

variable {parseFromRfc3339 : String → Option ℤ} {initial : EventStore} {log next : CompactedLog}
  {action : LogAction} {answer : LogAnswer}

lemma appendAll_extends (log : CompactedLog) (events : List SessionEventRecord) :
    Extends log.store (log.appendAll events).store ∧
      Extends log.original (log.appendAll events).original := by
  induction events generalizing log with
  | nil => exact ⟨extends_refl _, extends_refl _⟩
  | cons event events ih =>
      obtain ⟨hstore, horiginal⟩ := ih (log.append event)
      exact ⟨(extends_appendEvent log.store event).trans hstore,
        (extends_appendEvent log.original event).trans horiginal⟩

lemma appendAll_compacts {events : List SessionEventRecord} (h : Compacts log.store log.original)
    (hids : log.unabsorbedAll events = true) :
    Compacts (log.appendAll events).store (log.appendAll events).original := by
  induction events generalizing log with
  | nil => exact h
  | cons event events ih =>
      rw [unabsorbedAll, Bool.and_eq_true] at hids
      exact ih (h.append hids.1) hids.2

lemma unabsorbedAll_append {events later : List SessionEventRecord}
    (h : log.unabsorbedAll (events ++ later) = true) :
    log.unabsorbedAll events = true ∧ (log.appendAll events).unabsorbedAll later = true := by
  induction events generalizing log with
  | nil => exact ⟨rfl, h⟩
  | cons event events ih =>
      rw [List.cons_append, unabsorbedAll, Bool.and_eq_true] at h
      obtain ⟨hevents, hlater⟩ := ih h.2
      exact ⟨by rw [unabsorbedAll, h.1, hevents]; rfl, hlater⟩

lemma step_compacts (h : Compacts log.store log.original) (hids : log.drawsNewIds action = true)
    (hstep : log.step parseFromRfc3339 action = some (answer, next)) :
    Compacts next.store next.original := by
  cases action with
  | append event =>
      cases hstep
      exact h.append hids
  | compact sessionId now maxDeleted afterRows afterTerminals =>
      cases hstep
      obtain ⟨hfirst, hsecond⟩ := unabsorbedAll_append hids
      have hterminals := appendAll_compacts h hfirst
      have hrows := (appendAll_extends log afterRows).1
      have hextends := (appendAll_extends (log.appendAll afterRows) afterTerminals).1
      exact (appendAll_compacts hterminals hsecond).compact h (hrows.trans hextends) hextends

lemma reachable_compacts (hinitial : initial.Uncompacted)
    (h : (compactedLogging parseFromRfc3339 initial).Reachable log) :
    Compacts log.store log.original := by
  induction h with
  | start => exact hinitial.compacts
  | step _ hstep ih =>
      obtain ⟨hids, hstep⟩ := System.restrict_step.mp hstep
      exact step_compacts ih hids hstep

end CompactedLog

end DevCommandCenter
