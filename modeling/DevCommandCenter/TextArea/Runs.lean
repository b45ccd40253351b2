import DevCommandCenter.TextArea.Chips
import Mathlib.Data.List.Induction

/-! Runs of a field's operations, next to the same runs on items. -/

namespace DevCommandCenter.TextArea

open Library

variable {C : Type}

def Call.Fits (c : Call C) (text : List Char) : Prop :=
  match c.operation with
  | .splice edits _ => (∀ edit ∈ edits, Clear text edit) ∧ edits.Pairwise Apart
  | _ => True

def Fitting : List (Call C) → Buffer C → Prop
  | [], _ => True
  | c :: calls, buffer => c.Fits buffer.text ∧ ∀ next, buffer.call c = some next → Fitting calls next

namespace ItemBuffer

variable {buffer next : ItemBuffer C}

lemma written_setText (buffer : ItemBuffer C) (text : List Char) :
    buffer.written.setText text = (buffer.setText text).written := by
  simp only [Buffer.setText, setText, written, chars_plainItems, extent_plainItems, chipsOf_plainItems,
    List.map_nil]

lemma written_selectTo (buffer : ItemBuffer C) (offset : ℕ) :
    buffer.written.selectTo offset = (buffer.selectTo offset).written := by
  rw [Buffer.selectTo, selectTo, clamp_written]
  change (if buffer.clamp offset < buffer.anchor then _ else _) = _
  split
  · rfl
  · rfl

lemma written_moveTo (buffer : ItemBuffer C) (offset : ℕ) :
    buffer.written.moveTo offset = (buffer.moveTo offset).written := by
  simp only [Buffer.moveTo, moveTo, clamp_written]
  rfl

lemma written_selectAll (buffer : ItemBuffer C) : buffer.written.selectAll = buffer.selectAll.written := by
  simp only [Buffer.selectAll, selectAll, written, extent_chars]

lemma call_written {c : Call C} (h : c.Fits (chars buffer.items)) :
    buffer.written.call c = (buffer.call c).map written := by
  rw [Buffer.call.eq_def, call.eq_def]
  cases hoperation : c.operation with
  | setText text => exact congrArg some (written_setText buffer text)
  | forgetHistory => rfl
  | moveTo offset => exact congrArg some (written_moveTo buffer offset)
  | selectTo offset => exact congrArg some (written_selectTo buffer offset)
  | selectAll => exact congrArg some (written_selectAll buffer)
  | unmark => rfl
  | replace range text => exact replace_written buffer range text c.now
  | insertChip chip => exact insertChip_written buffer chip c.now c.later
  | removeChipAt offset => exact removeChipAt_written buffer offset c.now c.later
  | splice edits selection =>
      rw [Call.Fits, hoperation] at h
      exact splice_written h.1 h.2 selection c.now
  | replaceAndMark range text selected => exact replaceAndMark_written buffer range text selected c.now
  | deleteTo offset => exact deleteTo_written buffer offset c.now c.later
  | undo => exact congrArg some (undoEdit_written buffer)
  | redo => exact congrArg some (redoEdit_written buffer)

lemma run_written {calls : List (Call C)} (h : Fitting calls buffer.written) :
    buffer.written.run calls = (buffer.run calls).map written := by
  induction calls generalizing buffer with
  | nil => rfl
  | cons c calls ih =>
      obtain ⟨hfits, hrest⟩ := h
      have hcall := @call_written C buffer c hfits
      rw [Buffer.run, run, List.foldlM_cons, List.foldlM_cons, hcall]
      cases hnext : buffer.call c with
      | none => rfl
      | some next =>
          rw [hnext] at hcall
          exact ih (hrest next.written hcall)

/-! What an operation does to the history. -/

inductive HistoryStep (buffer next : ItemBuffer C) : Prop where
  | same (undo : next.undo = buffer.undo) (redo : next.redo = buffer.redo)
  | forgotten (undo : next.undo = []) (redo : next.redo = [])
  | joined (undo : next.undo = buffer.undo) (redo : next.redo = [])
  | opened (undo : next.undo = pushLimited buffer.snapshot buffer.undo) (redo : next.redo = [])
  | undone (previous : ItemSnapshot C) (undo : buffer.undo = previous :: next.undo)
      (redo : next.redo = buffer.snapshot :: buffer.redo) (items : next.items = previous.items)
  | redone (later : ItemSnapshot C) (redo : buffer.redo = later :: next.redo)
      (undo : next.undo = buffer.snapshot :: buffer.undo) (items : next.items = later.items)

structure SameHistory (buffer next : ItemBuffer C) : Prop where
  undo : next.undo = buffer.undo
  redo : next.redo = buffer.redo

lemma record_step (buffer : ItemBuffer C) (kind : EditKind) (now : ℕ) {next : ItemBuffer C}
    (h : SameHistory (buffer.record kind now) next) : HistoryStep buffer next := by
  by_cases hjoins : joinsEdit buffer.lastEdit kind now = true
  · exact .joined (h.undo.trans (if_pos hjoins)) h.redo
  · exact .opened (h.undo.trans (if_neg hjoins)) h.redo

lemma replaceItems_same {range : Range} {new : List (Item C)}
    (h : buffer.replaceItems range new = some next) : SameHistory buffer next := by
  obtain ⟨items, _, hnext⟩ := Option.bind_eq_some_iff.mp h
  cases hnext
  exact ⟨rfl, rfl⟩

lemma replace_step {range : Option Range} {text : List Char} {now : ℕ}
    (h : buffer.replace range text now = some next) : HistoryStep buffer next := by
  obtain ⟨replaced, hreplaced, hnext⟩ := Option.bind_eq_some_iff.mp h
  cases hnext
  have hsame := replaceItems_same hreplaced
  exact record_step _ _ _ ⟨hsame.undo, hsame.redo⟩

lemma insertChip_step {chip : C} {now later : ℕ}
    (h : buffer.insertChip chip now later = some next) : HistoryStep buffer next := by
  obtain ⟨replaced, hreplaced, hnext⟩ := Option.bind_eq_some_iff.mp h
  cases hnext
  have hsame := replaceItems_same hreplaced
  exact record_step _ _ _ ⟨hsame.undo, hsame.redo⟩

lemma HistoryStep.lastEdit (h : HistoryStep buffer next) (edit : Option (EditKind × ℕ)) :
    HistoryStep buffer { next with lastEdit := edit } := by
  cases h with
  | same undo redo => exact .same undo redo
  | forgotten undo redo => exact .forgotten undo redo
  | joined undo redo => exact .joined undo redo
  | opened undo redo => exact .opened undo redo
  | undone previous undo redo items => exact .undone previous undo redo items
  | redone later redo undo items => exact .redone later redo undo items

lemma replace_lastEdit_step {range : Option Range} {text : List Char} {now : ℕ}
    {edit : Option (EditKind × ℕ)}
    (h : (do let b ← buffer.replace range text now; return { b with lastEdit := edit }) = some next) :
    HistoryStep buffer next := by
  obtain ⟨replaced, hreplaced, hnext⟩ := Option.bind_eq_some_iff.mp h
  cases hnext
  exact (replace_step hreplaced).lastEdit edit

lemma removeChipAt_step {offset now later : ℕ}
    (h : buffer.removeChipAt offset now later = some next) : HistoryStep buffer next := by
  obtain ⟨⟨before, after⟩, _, hnext⟩ := Option.bind_eq_some_iff.mp h
  dsimp only at hnext
  split at hnext
  · exact replace_lastEdit_step hnext
  · cases hnext
    exact .same rfl rfl

lemma foldlM_spliceEdit_same {edits : List (Range × List Char)}
    (h : edits.foldlM spliceEdit buffer = some next) : SameHistory buffer next := by
  induction edits generalizing buffer with
  | nil =>
      cases h
      exact ⟨rfl, rfl⟩
  | cons edit edits ih =>
      rw [List.foldlM_cons] at h
      obtain ⟨spliced, hspliced, hrest⟩ := Option.bind_eq_some_iff.mp h
      have hsame := replaceItems_same hspliced
      exact ⟨(ih hrest).undo.trans hsame.undo, (ih hrest).redo.trans hsame.redo⟩

lemma splice_step {edits : List (Range × List Char)} {selection : Range} {now : ℕ}
    (h : buffer.splice edits selection now = some next) : HistoryStep buffer next := by
  obtain ⟨spliced, hspliced, hnext⟩ := Option.bind_eq_some_iff.mp h
  cases hnext
  have hsame := foldlM_spliceEdit_same hspliced
  exact record_step _ _ _ ⟨hsame.undo, hsame.redo⟩

lemma replaceAndMark_step {range selected : Option Range} {text : List Char} {now : ℕ}
    (h : buffer.replaceAndMark range text selected now = some next) : HistoryStep buffer next := by
  rw [replaceAndMark.eq_def] at h
  obtain ⟨replaced, hreplaced, hnext⟩ := Option.bind_eq_some_iff.mp h
  cases hnext
  have hsame := replaceItems_same hreplaced
  by_cases hmarked : buffer.marked = none
  · rw [if_pos hmarked] at hsame
    exact record_step _ _ _ ⟨hsame.undo, hsame.redo⟩
  · -- the composition goes on in the step that it opened
    rw [if_neg hmarked] at hsame
    exact .same hsame.undo hsame.redo

lemma deleteTo_step {offset now later : ℕ} (h : buffer.deleteTo offset now later = some next) :
    HistoryStep buffer next := by
  rw [deleteTo] at h
  split at h
  · split at h
    · cases h
      exact .same rfl rfl
    · exact replace_lastEdit_step h
  · exact replace_lastEdit_step h

lemma undoEdit_step (buffer : ItemBuffer C) : HistoryStep buffer buffer.undoEdit := by
  obtain ⟨items, selection, reversed, marked, undo, redo, lastEdit⟩ := buffer
  cases undo with
  | nil => exact .same rfl rfl
  | cons previous undo => exact .undone previous rfl rfl rfl

lemma redoEdit_step (buffer : ItemBuffer C) : HistoryStep buffer buffer.redoEdit := by
  obtain ⟨items, selection, reversed, marked, undo, redo, lastEdit⟩ := buffer
  cases redo with
  | nil => exact .same rfl rfl
  | cons later redo => exact .redone later rfl rfl rfl

lemma call_step {c : Call C} (h : buffer.call c = some next) : HistoryStep buffer next := by
  rw [call.eq_def] at h
  split at h
  · cases h
    exact .forgotten rfl rfl
  · cases h
    exact .forgotten rfl rfl
  · cases h
    exact .same rfl rfl
  · cases h
    rw [selectTo]
    split
    · exact .same rfl rfl
    · exact .same rfl rfl
  · cases h
    exact .same rfl rfl
  · cases h
    exact .same rfl rfl
  · exact replace_step h
  · exact insertChip_step h
  · exact removeChipAt_step h
  · exact splice_step h
  · exact replaceAndMark_step h
  · exact deleteTo_step h
  · cases h
    exact undoEdit_step buffer
  · cases h
    exact redoEdit_step buffer

lemma mem_pushLimited {α : Type} {a b : α} {l : List α} (h : b ∈ pushLimited a l) : b = a ∨ b ∈ l := by
  rw [pushLimited] at h
  split at h
  · exact List.mem_cons.mp ((List.dropLast_sublist _).subset h)
  · exact List.mem_cons.mp h

lemma HistoryStep.mem (h : HistoryStep buffer next) {snapshot : ItemSnapshot C}
    (hmem : snapshot ∈ next.undo ++ next.redo) :
    snapshot = buffer.snapshot ∨ snapshot ∈ buffer.undo ++ buffer.redo := by
  rw [List.mem_append] at hmem ⊢
  cases h with
  | same undo redo =>
      rw [undo, redo] at hmem
      exact .inr hmem
  | forgotten undo redo =>
      rw [undo, redo] at hmem
      exact .inr (hmem.elim (absurd · List.not_mem_nil) (absurd · List.not_mem_nil))
  | joined undo redo =>
      rw [undo, redo] at hmem
      exact .inr (hmem.imp id (absurd · List.not_mem_nil))
  | opened undo redo =>
      rw [undo, redo] at hmem
      rcases hmem with hmem | hmem
      · exact (mem_pushLimited hmem).imp id .inl
      · exact absurd hmem List.not_mem_nil
  | undone previous undo redo items =>
      rw [redo, List.mem_cons] at hmem
      rw [undo, List.mem_cons]
      tauto
  | redone later redo undo items =>
      rw [undo, List.mem_cons] at hmem
      rw [redo, List.mem_cons]
      tauto

lemma run_concat {calls : List (Call C)} {c : Call C} (h : buffer.run (calls ++ [c]) = some next) :
    ∃ middle, buffer.run calls = some middle ∧ middle.call c = some next := by
  rw [run, List.foldlM_append] at h
  obtain ⟨middle, hmiddle, hlast⟩ := Option.bind_eq_some_iff.mp h
  obtain ⟨last, hcall, hnext⟩ := Option.bind_eq_some_iff.mp hlast
  cases hnext
  exact ⟨middle, hmiddle, hcall⟩

lemma snapshots_visited {calls : List (Call C)} (h : (default : ItemBuffer C).run calls = some next)
    {snapshot : ItemSnapshot C} (hmem : snapshot ∈ next.undo ++ next.redo) :
    ∃ n earlier, (default : ItemBuffer C).run (calls.take n) = some earlier ∧
      earlier.items = snapshot.items := by
  induction calls using List.reverseRecOn generalizing next with
  | nil =>
      cases h
      exact absurd hmem List.not_mem_nil
  | append_singleton calls c ih =>
      obtain ⟨middle, hmiddle, hlast⟩ := run_concat h
      rcases (call_step hlast).mem hmem with rfl | hold
      · exact ⟨calls.length, middle, by rw [List.take_left]; exact hmiddle, rfl⟩
      · obtain ⟨n, earlier, hearlier, hitems⟩ := ih hmiddle hold
        refine ⟨min n calls.length, earlier, ?_, hitems⟩
        rw [List.take_append_of_le_length (Nat.min_le_right _ _), ← hearlier]
        rcases Nat.le_total n calls.length with hle | hle
        · rw [Nat.min_eq_left hle]
        · rw [Nat.min_eq_right hle, List.take_length, List.take_of_length_le hle]

lemma redoEdit_undoEdit (h : buffer.undo ≠ []) : buffer.undoEdit.redoEdit.items = buffer.items := by
  obtain ⟨items, selection, reversed, marked, undo, redo, lastEdit⟩ := buffer
  cases undo with
  | nil => exact absurd rfl h
  | cons previous undo => rfl

lemma undoEdit_redoEdit (h : buffer.redo ≠ []) : buffer.redoEdit.undoEdit.items = buffer.items := by
  obtain ⟨items, selection, reversed, marked, undo, redo, lastEdit⟩ := buffer
  cases redo with
  | nil => exact absurd rfl h
  | cons later redo => rfl

lemma count_written (buffer : ItemBuffer C) :
    buffer.written.text.count chipChar = buffer.written.chips.length :=
  count_chars buffer.items

end ItemBuffer

/-- The field's operations are the same operations on a list of items. -/
theorem run_items {calls : List (Call C)} (h : Fitting calls (Buffer.default : Buffer C)) :
    (Buffer.default : Buffer C).run calls = (ItemBuffer.default.run calls).map ItemBuffer.written ∧
    (∀ buffer, (Buffer.default : Buffer C).run calls = some buffer →
      buffer.text.count chipChar = buffer.chips.length ∧
        ∃! items, chars items = buffer.text ∧ chipsOf items = buffer.chips) ∧
    ∀ buffer : ItemBuffer C, ItemBuffer.default.run calls = some buffer →
      (∀ c next, buffer.call c = some next → ItemBuffer.HistoryStep buffer next) ∧
      (∀ snapshot ∈ buffer.undo ++ buffer.redo, ∃ n earlier,
        ItemBuffer.default.run (calls.take n) = some earlier ∧ earlier.items = snapshot.items) ∧
      (buffer.undo ≠ [] → buffer.undoEdit.redoEdit.items = buffer.items) ∧
      (buffer.redo ≠ [] → buffer.redoEdit.undoEdit.items = buffer.items) := by
  have hrun : (Buffer.default : Buffer C).run calls =
      (ItemBuffer.default.run calls).map ItemBuffer.written :=
    @ItemBuffer.run_written C ItemBuffer.default calls h
  refine ⟨hrun, fun buffer hbuffer => ?_, fun buffer hbuffer => ⟨fun c next hcall => ?_, ?_, ?_, ?_⟩⟩
  · rw [hrun] at hbuffer
    obtain ⟨items, _, rfl⟩ := Option.map_eq_some_iff.mp hbuffer
    refine ⟨items.count_written, items.items, ⟨rfl, rfl⟩, fun items' hitems' => ?_⟩
    exact items_ext hitems'.1 hitems'.2
  · exact ItemBuffer.call_step hcall
  · exact fun snapshot hmem => ItemBuffer.snapshots_visited hbuffer hmem
  · exact ItemBuffer.redoEdit_undoEdit
  · exact ItemBuffer.undoEdit_redoEdit

def markThenChip : List (Call ℕ) :=
  [⟨.splice [(⟨0, 0⟩, ['*'])] ⟨1, 1⟩, 0, 0⟩, ⟨.insertChip 7, 1, 2⟩, ⟨.undo, 3, 3⟩]

lemma markThenChip_fitting : Fitting markThenChip Buffer.default := by
  refine ⟨⟨fun edit hedit => ?_, List.pairwise_singleton _ _⟩, fun _ _ => ⟨trivial, fun _ _ =>
    ⟨trivial, fun _ _ => trivial⟩⟩⟩
  rw [List.mem_singleton.mp hedit]
  refine ⟨[], [], rfl, rfl, fun covered rest hnil _ => ?_⟩
  rw [(List.append_eq_nil_iff.mp hnil).1]
  exact List.not_mem_nil

theorem chip_undone : (Buffer.default : Buffer ℕ).run markThenChip =
    (ItemBuffer.default.run markThenChip).map ItemBuffer.written :=
  (run_items markThenChip_fitting).1

end DevCommandCenter.TextArea
