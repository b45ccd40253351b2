import DevCommandCenter.TextArea.Items
import Mathlib.Data.List.Count

/-! The field's text and chips follow the items: chips stay attached to their characters. -/

namespace DevCommandCenter.TextArea

open Library

section Items

variable {C : Type} {items before middle after new : List (Item C)} {text : List Char} {range : Range}

lemma chars_append (items items' : List (Item C)) : chars (items ++ items') = chars items ++ chars items' :=
  List.map_append

lemma chipsOf_append (items items' : List (Item C)) :
    chipsOf (items ++ items') = chipsOf items ++ chipsOf items' :=
  List.filterMap_append

lemma chars_plainItems (text : List Char) :
    chars (plainItems text : List (Item C)) = removeChipChars text := by
  induction text with
  | nil => rfl
  | cons c text ih =>
      by_cases hc : c = chipChar
      · rw [removeChipChars, List.filter_cons_of_neg (by simpa using hc), ← removeChipChars, ← ih,
          plainItems, List.filterMap_cons_none (dif_neg (by simpa using hc)), plainItems]
      · rw [removeChipChars, List.filter_cons_of_pos (by simpa using hc), ← removeChipChars, ← ih,
          plainItems, List.filterMap_cons_some (dif_pos hc), plainItems]
        rfl

lemma chipsOf_plainItems (text : List Char) : chipsOf (plainItems text : List (Item C)) = [] := by
  refine List.filterMap_eq_nil_iff.mpr fun item hitem => ?_
  obtain ⟨c, _, hc⟩ := List.mem_filterMap.mp hitem
  split at hc
  · cases hc
    rfl
  · cases hc

lemma count_chars (items : List (Item C)) : (chars items).count chipChar = (chipsOf items).length := by
  induction items with
  | nil => rfl
  | cons item items ih =>
      cases item with
      | plain c hc =>
          rw [chars, List.map_cons, Item.char, List.count_cons_of_ne hc, ← chars, ih]
          rfl
      | chip data =>
          rw [chars, List.map_cons, Item.char, List.count_cons_self, ← chars, ih]
          rfl

lemma items_ext {items' : List (Item C)} (htext : chars items = chars items')
    (hchips : chipsOf items = chipsOf items') : items = items' := by
  induction items generalizing items' with
  | nil => exact (List.map_eq_nil_iff.mp htext.symm).symm
  | cons item items ih =>
      cases items' with
      | nil => cases htext
      | cons item' items' =>
          obtain ⟨hchar, htail⟩ := List.cons_eq_cons.mp htext
          cases item with
          | plain c hc =>
              cases item' with
              | plain c' hc' =>
                  obtain rfl : c = c' := hchar
                  rw [ih htail hchips]
              | chip data' => exact absurd hchar hc
          | chip data =>
              cases item' with
              | plain c' hc' => exact absurd hchar.symm hc'
              | chip data' =>
                  obtain ⟨rfl, hrest⟩ := List.cons_eq_cons.mp hchips
                  rw [ih htail hrest]

lemma extent_chars (items : List (Item C)) : byteLen (chars items) = extent Item.size items :=
  extent_map _ _

lemma extent_plainItems (text : List Char) :
    extent Item.size (plainItems text : List (Item C)) = byteLen (removeChipChars text) := by
  rw [← extent_chars, chars_plainItems]

lemma clampOffset_chars (items : List (Item C)) (offset : ℕ) :
    clampOffset Char.utf8Size (chars items) offset = clampOffset Item.size items offset :=
  clampOffset_map _ _ _

lemma splitAtOffset_chars (items : List (Item C)) (offset : ℕ) :
    splitAtOffset Char.utf8Size offset (chars items) =
      (splitAtOffset Item.size offset items).map fun parts => (chars parts.1, chars parts.2) :=
  splitAtOffset_map _ _ _

lemma slice_chars (items : List (Item C)) (start stop : ℕ) :
    slice Char.utf8Size start stop (chars items) = (slice Item.size start stop items).map chars :=
  slice_map _ _ _ _

lemma replaceRange_chars (new items : List (Item C)) (start stop : ℕ) :
    replaceRange Char.utf8Size start stop (chars new) (chars items) =
      (replaceRange Item.size start stop new items).map chars :=
  replaceRange_map _ _ _ _ _

structure Cut (items : List (Item C)) (range : Range) (before middle after : List (Item C)) : Prop where
  items : before ++ (middle ++ after) = items
  start : extent Item.size before = range.start
  stop : range.start + extent Item.size middle = range.stop

lemma cut_or_none (items : List (Item C)) (range : Range) :
    (∃ before middle after, Cut items range before middle after) ∨
      slice Item.size range.start range.stop items = none ∧
        ∀ new, replaceRange Item.size range.start range.stop new items = none := by
  by_cases h : ∃ before middle after, Cut items range before middle after
  · exact .inl h
  · refine .inr ⟨Option.eq_none_iff_forall_ne_some.mpr fun middle hslice => h ?_, fun new =>
      Option.eq_none_iff_forall_ne_some.mpr fun items' hreplace => h ?_⟩
    · obtain ⟨before, after, hitems, hstart, hstop⟩ := (slice_eq_some Item.size_pos).mp hslice
      exact ⟨before, middle, after, hitems, hstart, hstop⟩
    · obtain ⟨before, middle, after, hitems, hstart, hstop, _⟩ :=
        (replaceRange_eq_some Item.size_pos).mp hreplace
      exact ⟨before, middle, after, hitems, hstart, hstop⟩

namespace Cut

lemma slice (h : Cut items range before middle after) :
    slice Item.size range.start range.stop items = some middle :=
  (slice_eq_some Item.size_pos).mpr ⟨before, after, h.items, h.start, h.stop⟩

lemma slice_before (h : Cut items range before middle after) :
    Library.slice Item.size 0 range.start items = some before :=
  (slice_eq_some Item.size_pos).mpr ⟨[], middle ++ after, h.items, rfl, by rw [h.start, Nat.zero_add]⟩

lemma replaceRange (h : Cut items range before middle after) (new : List (Item C)) :
    replaceRange Item.size range.start range.stop new items = some (before ++ (new ++ after)) :=
  (replaceRange_eq_some Item.size_pos).mpr ⟨before, middle, after, h.items, h.start, h.stop, rfl⟩

end Cut

end Items

lemma drain_append {α : Type} (before middle after : List α) :
    drain before.length (before.length + middle.length) (before ++ (middle ++ after)) =
      some (before ++ after) := by
  rw [drain, if_pos (by simp only [List.length_append]; omega), List.take_left, ← List.append_assoc,
    List.drop_left' List.length_append]

lemma insertAt_append {α : Type} (before after : List α) (a : α) :
    insertAt before.length a (before ++ after) = some (before ++ a :: after) := by
  rw [insertAt, if_pos (by rw [List.length_append]; omega), List.take_left, List.drop_left]

namespace ItemBuffer

variable {C : Type} {buffer : ItemBuffer C} {before middle after : List (Item C)} {range : Range}

lemma map_pushLimited {α β : Type} (f : α → β) (a : α) (l : List α) :
    (pushLimited a l).map f = pushLimited (f a) (l.map f) := by
  rw [pushLimited, pushLimited, ← List.map_cons, List.length_map]
  split
  · exact List.map_dropLast ..
  · rfl

lemma written_record (buffer : ItemBuffer C) (kind : EditKind) (now : ℕ) :
    (buffer.record kind now).written = buffer.written.record kind now := by
  rw [record, Buffer.record, written]
  congr 1
  split
  · next h =>
      exact (if_pos h).symm
  · next h =>
      exact (map_pushLimited ..).trans (if_neg h).symm

lemma clamp_written (buffer : ItemBuffer C) (offset : ℕ) :
    buffer.written.clamp offset = buffer.clamp offset :=
  clampOffset_chars _ _

lemma clampRange_written (buffer : ItemBuffer C) (range : Range) :
    buffer.written.clampRange range = buffer.clampRange range := by
  rw [Buffer.clampRange, clamp_written, clamp_written, clampRange]

lemma slice_written (h : Cut buffer.items range before middle after) :
    slice Char.utf8Size range.start range.stop buffer.written.text = some (chars middle) := by
  rw [written, slice_chars, h.slice]
  rfl

lemma chipsBefore_written (h : Cut buffer.items range before middle after) :
    buffer.written.chipsBefore range.start = some (chipsOf before).length := by
  rw [Buffer.chipsBefore, written, slice_chars, h.slice_before, ← count_chars]
  rfl

lemma removeChipsIn_written (h : Cut buffer.items range before middle after) :
    buffer.written.removeChipsIn range =
      some { buffer.written with chips := chipsOf before ++ chipsOf after } := by
  have hchips : buffer.written.chips = chipsOf before ++ (chipsOf middle ++ chipsOf after) := by
    rw [← chipsOf_append, ← chipsOf_append, h.items]
    rfl
  have hcount : (chipsOf before).length + (chars middle).count chipChar ≤ buffer.written.chips.length := by
    rw [hchips, count_chars, List.length_append, List.length_append]
    omega
  rw [Buffer.removeChipsIn, chipsBefore_written h, Option.bind_eq_bind, Option.bind_some, slice_written h,
    Option.bind_eq_bind, Option.bind_some, Nat.min_eq_left hcount, hchips, count_chars, drain_append]
  rfl

lemma replaceText_written {chips : List C} (h : Cut buffer.items range before middle after)
    (new : List (Item C)) :
    Buffer.replaceText { buffer.written with chips } range (chars new) =
      some { buffer.written with text := chars (before ++ (new ++ after)), chips } := by
  rw [Buffer.replaceText]
  change (replaceRange _ _ _ _ (chars buffer.items) >>= _) = _
  rw [replaceRange_chars, h.replaceRange]
  rfl

lemma replaceItems_written (range : Range) (text : List Char) :
    (buffer.written.removeChipsIn range >>= fun b => b.replaceText range (removeChipChars text)) =
      (buffer.replaceItems range (plainItems text)).map written := by
  rcases cut_or_none buffer.items range with ⟨before, middle, after, h⟩ | ⟨hslice, hnone⟩
  · rw [removeChipsIn_written h, Option.bind_eq_bind, Option.bind_some,
      ← chars_plainItems (C := C), replaceText_written h, replaceItems, h.replaceRange]
    simp only [Option.bind_eq_bind, Option.bind_some, Option.pure_def, Option.map_some, written,
      chipsOf_append, chipsOf_plainItems, List.nil_append]
  · rw [replaceItems, hnone, Buffer.removeChipsIn]
    have hstop : slice Char.utf8Size range.start range.stop buffer.written.text = none := by
      rw [written, slice_chars, hslice]
      rfl
    rw [hstop]
    cases buffer.written.chipsBefore range.start <;> rfl

lemma target_written (buffer : ItemBuffer C) (range : Option Range) :
    buffer.written.target range = buffer.target range :=
  rfl

lemma replace_written (buffer : ItemBuffer C) (range : Option Range) (text : List Char) (now : ℕ) :
    buffer.written.replace range text now = (buffer.replace range text now).map written := by
  rw [Buffer.replace, replace]
  simp only [clampRange_written, target_written, chars_plainItems, extent_plainItems, ← written_record]
  rw [← bind_assoc, replaceItems_written, Option.bind_eq_bind, Option.bind_map, Option.bind_eq_bind,
    Option.map_bind]
  rfl

lemma insertChip_written (buffer : ItemBuffer C) (chip : C) (now later : ℕ) :
    buffer.written.insertChip chip now later = (buffer.insertChip chip now later).map written := by
  rw [Buffer.insertChip, insertChip]
  simp only [target_written, ← written_record]
  generalize buffer.target none = range
  generalize buffer.record .other now = recorded
  rcases cut_or_none recorded.items range with ⟨before, middle, after, h⟩ | ⟨hslice, hnone⟩
  · have hindex : Buffer.chipsBefore
        { recorded.written with chips := chipsOf before ++ chipsOf after } range.start =
        some (chipsOf before).length := chipsBefore_written h
    rw [removeChipsIn_written h, Option.bind_eq_bind, Option.bind_some, hindex, Option.bind_eq_bind,
      Option.bind_some, insertAt_append, Option.bind_eq_bind, Option.bind_some,
      show [chipChar] = chars [Item.chip chip] from rfl, replaceText_written h, replaceItems,
      h.replaceRange]
    simp only [Option.bind_eq_bind, Option.bind_some, Option.pure_def, Option.map_some, written,
      chipsOf_append]
    rfl
  · rw [replaceItems, hnone, Buffer.removeChipsIn]
    have hstop : slice Char.utf8Size range.start range.stop recorded.written.text = none := by
      rw [written, slice_chars, hslice]
      rfl
    rw [hstop]
    cases recorded.written.chipsBefore range.start <;> rfl

lemma removeChipAt_written (buffer : ItemBuffer C) (offset now later : ℕ) :
    buffer.written.removeChipAt offset now later =
      (buffer.removeChipAt offset now later).map written := by
  rw [Buffer.removeChipAt, removeChipAt, replace_written,
    show buffer.written.text = chars buffer.items from rfl, splitAtOffset_chars]
  cases splitAtOffset Item.size offset buffer.items with
  | none => rfl
  | some parts =>
      obtain ⟨before, after⟩ := parts
      simp only [Option.map_some, Option.bind_eq_bind, Option.bind_some]
      rcases after with _ | ⟨item, after⟩
      · rfl
      · cases item with
        | plain c hc =>
            rw [if_neg]
            · rfl
            · exact fun h => hc (Option.some_inj.mp h)
        | chip data =>
            rw [if_pos (show (chars (Item.chip data :: after)).head? = some chipChar from rfl)]
            cases buffer.replace (some ⟨offset, offset + chipChar.utf8Size⟩) [] now <;> rfl

lemma replaceAndMark_written (buffer : ItemBuffer C) (range : Option Range) (text : List Char)
    (selected : Option Range) (now : ℕ) : buffer.written.replaceAndMark range text selected now =
      (buffer.replaceAndMark range text selected now).map written := by
  rw [Buffer.replaceAndMark.eq_def, replaceAndMark.eq_def]
  have hrecorded : (if buffer.written.marked = none then buffer.written.record .other now
      else buffer.written) =
      (if buffer.marked = none then buffer.record .other now else buffer).written := by
    rw [← written_record]
    exact (apply_ite written _ _ _).symm
  simp only [clampRange_written, target_written, chars_plainItems, extent_plainItems, hrecorded]
  rw [← bind_assoc, replaceItems_written, Option.bind_eq_bind, Option.bind_map, Option.bind_eq_bind,
    Option.map_bind]
  rfl

lemma deleteTo_written (buffer : ItemBuffer C) (offset now later : ℕ) :
    buffer.written.deleteTo offset now later = (buffer.deleteTo offset now later).map written := by
  rw [Buffer.deleteTo, deleteTo]
  simp only [replace_written]
  change (if buffer.selection.isEmpty = true then if offset = buffer.cursor then _ else _ else _) = _
  split
  · split
    · rfl
    · change (Option.map written (buffer.replace (some ⟨min buffer.cursor offset, max buffer.cursor offset⟩)
        [] now) >>= _) = _
      cases buffer.replace (some ⟨min buffer.cursor offset, max buffer.cursor offset⟩) [] now <;> rfl
  · cases buffer.replace none [] now <;> rfl

lemma undoEdit_written (buffer : ItemBuffer C) : buffer.written.undoEdit = buffer.undoEdit.written := by
  obtain ⟨items, selection, reversed, marked, undo, redo, lastEdit⟩ := buffer
  cases undo <;> rfl

lemma redoEdit_written (buffer : ItemBuffer C) : buffer.written.redoEdit = buffer.redoEdit.written := by
  obtain ⟨items, selection, reversed, marked, undo, redo, lastEdit⟩ := buffer
  cases redo <;> rfl

end ItemBuffer

/-! A splice makes its edits from the end of the text, so that the places of the others stay right. -/

section Splice

variable {C : Type} {text text' new : List Char} {edit edit' : Range × List Char}

lemma utf8Size_pos (c : Char) : 0 < c.utf8Size :=
  Char.utf8Size_pos c

def Clear (text : List Char) (edit : Range × List Char) : Prop :=
  ∃ before after, before ++ after = text ∧ byteLen before = edit.1.start ∧
    ∀ covered rest, covered ++ rest = after → edit.1.start + byteLen covered ≤ edit.1.stop →
      chipChar ∉ covered

def Apart (edit edit' : Range × List Char) : Prop :=
  edit.1.stop ≤ edit'.1.start ∨ edit'.1.stop ≤ edit.1.start

lemma Clear.clamp_start (h : Clear text edit) :
    clampOffset Char.utf8Size text edit.1.start = edit.1.start := by
  obtain ⟨before, after, htext, hstart, _⟩ := h
  exact clampOffset_eq utf8Size_pos ((isBoundary_iff utf8Size_pos).mpr ⟨before, after, htext, hstart⟩)

lemma Clear.not_mem (h : Clear text edit) {before covered after : List Char}
    (htext : before ++ (covered ++ after) = text) (hstart : byteLen before = edit.1.start)
    (hstop : edit.1.start + byteLen covered ≤ edit.1.stop) : chipChar ∉ covered := by
  obtain ⟨before', after', htext', hstart', hclear⟩ := h
  have hsame := (splitAtOffset_eq_some utf8Size_pos).mpr ⟨htext, hstart⟩
  rw [(splitAtOffset_eq_some utf8Size_pos).mpr ⟨htext', hstart'⟩, Option.some_inj, Prod.mk.injEq] at hsame
  exact hclear covered after hsame.2.symm hstop

lemma Clear.after_edit (h : Clear text edit) (h' : Clear text edit') (hapart : Apart edit edit')
    (hle : edit'.1.start ≤ edit.1.start) (hnew : chipChar ∉ new)
    (hreplace : replaceRange Char.utf8Size (clampOffset Char.utf8Size text edit.1.start)
      (clampOffset Char.utf8Size text edit.1.stop) new text = some text') : Clear text' edit' := by
  rw [h.clamp_start] at hreplace
  obtain ⟨before, middle, after, htext, hstart, hstop, rfl⟩ :=
    (replaceRange_eq_some utf8Size_pos).mp hreplace
  have hstop' := @clampOffset_le Char Char.utf8Size text edit.1.stop
  obtain ⟨before', after', htext', hstart', hclear⟩ := h'
  have hsplit : before' ++ after' = before ++ (middle ++ after) := htext'.trans htext.symm
  simp only [byteLen] at hstart' hclear
  obtain ⟨between, hbefore, hafter⟩ := exists_between utf8Size_pos hsplit
    (by rw [hstart, hstart']; exact hle)
  have hextent : edit'.1.start + extent Char.utf8Size between = edit.1.start := by
    rw [← hstart', ← extent_append, hbefore, hstart]
  refine ⟨before', between ++ (new ++ after), by rw [← List.append_assoc, hbefore], hstart', ?_⟩
  intro covered rest hcovered hrange hchip
  rw [byteLen] at hrange
  rcases Nat.lt_or_eq_of_le hle with hlt | hsame
  · -- the range ends before the edit that was made
    have hshort : edit'.1.stop ≤ edit.1.start := hapart.elim (fun h => by omega) id
    obtain ⟨tail, htail, -⟩ := exists_between utf8Size_pos hcovered (by omega)
    refine hclear covered (tail ++ (middle ++ after)) ?_ hrange hchip
    rw [← List.append_assoc, htail, hafter]
  · obtain rfl := eq_nil_of_extent utf8Size_pos (show extent Char.utf8Size between = 0 by omega)
    rw [List.nil_append] at hcovered hafter
    rcases hapart with hempty | hempty
    · -- the edit that was made only put text in
      obtain rfl := eq_nil_of_extent utf8Size_pos (show extent Char.utf8Size middle = 0 by omega)
      rw [List.nil_append] at hafter
      rcases List.append_eq_append_iff.mp hcovered with ⟨tail, rfl, -⟩ | ⟨more, rfl, hmore⟩
      · exact hnew (List.mem_append_left _ hchip)
      · rw [extent_append] at hrange
        refine hclear more rest (hmore.symm.trans hafter) (by omega) ?_
        exact (List.mem_append.mp hchip).resolve_left hnew
    · obtain rfl := eq_nil_of_extent utf8Size_pos (show extent Char.utf8Size covered = 0 by omega)
      exact List.not_mem_nil hchip

lemma chip_not_mem_removeChipChars (text : List Char) : chipChar ∉ removeChipChars text := by
  intro h
  have hne := (List.mem_filter.mp h).2
  rw [decide_eq_true_eq] at hne
  exact hne rfl

lemma chipsOf_eq_nil {items : List (Item C)} (h : chipChar ∉ chars items) : chipsOf items = [] := by
  rw [← List.length_eq_zero_iff, ← count_chars, List.count_eq_zero]
  exact h

namespace ItemBuffer

lemma spliceEdit_written {buffer : ItemBuffer C} (h : Clear (chars buffer.items) edit) :
    buffer.written.spliceEdit edit = (buffer.spliceEdit edit).map written := by
  rw [Buffer.spliceEdit, spliceEdit, clampRange_written]
  have hstart : (buffer.clampRange edit.1).start = edit.1.start := by
    rw [← clampRange_written]
    exact h.clamp_start
  have hstop : (buffer.clampRange edit.1).stop ≤ edit.1.stop := clampOffset_le _
  generalize buffer.clampRange edit.1 = range at hstart hstop ⊢
  rcases cut_or_none buffer.items range with ⟨before, middle, after, hcut⟩ | ⟨hslice, hnone⟩
  · have hsplit : chars before ++ (chars middle ++ chars after) = chars buffer.items := by
      rw [← chars_append, ← chars_append, hcut.items]
    have hmiddle : chipChar ∉ chars middle := by
      refine h.not_mem hsplit ?_ ?_
      · rw [extent_chars, hcut.start, hstart]
      · rw [extent_chars, ← hstart, hcut.stop]
        exact hstop
    have hchips : chipsOf buffer.items = chipsOf before ++ chipsOf after := by
      rw [← hcut.items, chipsOf_append, chipsOf_append, chipsOf_eq_nil hmiddle, List.nil_append]
    have hsame : buffer.written = { buffer.written with chips := chipsOf before ++ chipsOf after } := by
      rw [← hchips]
      rfl
    simp only [slice_written hcut, Option.bind_eq_bind, Option.bind_some, if_neg hmiddle]
    rw [hsame, ← chars_plainItems (C := C), replaceText_written hcut, replaceItems, hcut.replaceRange]
    simp only [Option.bind_eq_bind, Option.bind_some, Option.pure_def, Option.map_some, written,
      chipsOf_append, chipsOf_plainItems, List.nil_append]
  · have hnone' : slice Char.utf8Size range.start range.stop buffer.written.text = none := by
      rw [written, slice_chars, hslice]
      rfl
    rw [replaceItems, hnone]
    simp only [hnone']
    rfl

lemma Clear.spliceEdit {buffer buffer' : ItemBuffer C} (h : Clear (chars buffer.items) edit)
    (h' : Clear (chars buffer.items) edit') (hapart : Apart edit edit')
    (hle : edit'.1.start ≤ edit.1.start) (hedit : buffer.spliceEdit edit = some buffer') :
    Clear (chars buffer'.items) edit' := by
  rw [ItemBuffer.spliceEdit, replaceItems] at hedit
  obtain ⟨items, hitems, hbuffer⟩ := Option.bind_eq_some_iff.mp hedit
  cases hbuffer
  refine h.after_edit h' hapart hle (chip_not_mem_removeChipChars edit.2) ?_
  rw [← chars_plainItems (C := C), clampOffset_chars, clampOffset_chars, replaceRange_chars]
  exact congrArg (Option.map chars) hitems

lemma foldlM_spliceEdit_written {edits : List (Range × List Char)} {buffer : ItemBuffer C}
    (hclear : ∀ edit ∈ edits, Clear (chars buffer.items) edit)
    (hapart : edits.Pairwise fun edit edit' => Apart edit edit' ∧ edit'.1.start ≤ edit.1.start) :
    edits.foldlM Buffer.spliceEdit buffer.written =
      (edits.foldlM ItemBuffer.spliceEdit buffer).map written := by
  induction edits generalizing buffer with
  | nil => rfl
  | cons edit edits ih =>
      obtain ⟨hfirst, hrest⟩ := List.pairwise_cons.mp hapart
      have hedit := hclear edit List.mem_cons_self
      rw [List.foldlM_cons, List.foldlM_cons, spliceEdit_written hedit]
      cases hnext : buffer.spliceEdit edit with
      | none => rfl
      | some next =>
          refine ih (fun edit' hmem => ?_) hrest
          exact Clear.spliceEdit hedit (hclear edit' (List.mem_cons_of_mem _ hmem)) (hfirst edit' hmem).1
            (hfirst edit' hmem).2 hnext

lemma splice_written {edits : List (Range × List Char)} {buffer : ItemBuffer C}
    (hclear : ∀ edit ∈ edits, Clear (chars buffer.items) edit) (hapart : edits.Pairwise Apart)
    (selection : Range) (now : ℕ) : buffer.written.splice edits selection now =
      (buffer.splice edits selection now).map written := by
  have hperm : (fromTheEnd edits).Perm edits := List.mergeSort_perm _ _
  have hsorted : (fromTheEnd edits).Pairwise fun edit edit' => edit'.1.start ≤ edit.1.start := by
    refine (List.pairwise_mergeSort (fun a b c hab hbc => ?_) (fun a b => ?_) edits).imp
      of_decide_eq_true
    · rw [decide_eq_true_eq] at hab hbc ⊢
      omega
    · rw [Bool.or_eq_true, decide_eq_true_eq, decide_eq_true_eq]
      omega
  have hpairs : (fromTheEnd edits).Pairwise Apart :=
    (hperm.pairwise_iff fun h => Or.symm h).mpr hapart
  have hedits : (fromTheEnd edits).foldlM Buffer.spliceEdit (buffer.record .other now).written =
      ((fromTheEnd edits).foldlM ItemBuffer.spliceEdit (buffer.record .other now)).map written :=
    foldlM_spliceEdit_written (fun edit hmem => hclear edit (hperm.mem_iff.mp hmem))
      (hpairs.and hsorted)
  rw [Buffer.splice, splice, ← written_record, hedits]
  cases (fromTheEnd edits).foldlM spliceEdit (buffer.record .other now) with
  | none => rfl
  | some spliced =>
      simp only [Option.bind_eq_bind, Option.map_some, Option.bind_some, clampRange_written]
      rfl

end ItemBuffer

end Splice

end DevCommandCenter.TextArea
