import DevCommandCenter.FileView.EditBuffer
import DevCommandCenter.Library.Walks

/-! What undo and redo in the file editor are for: the texts that stood before the steps of a run. -/

namespace DevCommandCenter.FileView

open Library

/-- The texts are those that the run went through, not what the steps say of them. `base` is the text
before the composition under way; `lost` counts the steps dropped at the limit. -/
structure TextHistory where
  past : List (List Char)
  future : List (List Char)
  base : Option (List Char)
  lost : ℕ

namespace TextHistory

def empty : TextHistory where
  past := []
  future := []
  base := none
  lost := 0

def settled (history : TextHistory) (buffer : EditBuffer) : List Char :=
  history.base.getD buffer.text

def opened (history : TextHistory) (buffer : EditBuffer) : TextHistory where
  past := history.settled buffer :: history.past
  future := []
  base := none
  lost := if undoLimit ≤ buffer.undo.length then history.lost + 1 else history.lost

end TextHistory

namespace EditBuffer

def replaced (buffer : EditBuffer) (range : Option Range) : Range :=
  buffer.clampRange (buffer.target range)

def removedBy (buffer : EditBuffer) (range : Range) : List Char :=
  (slice Char.utf8Size range.start range.stop buffer.text).getD []

def joinsStep (buffer : EditBuffer) (range : Option Range) (text : List Char) (now : ℕ) : Bool :=
  buffer.composition.isNone &&
    (isTyping (buffer.removedBy (buffer.replaced range)) text &&
      buffer.joins (buffer.replaced range).start now)

def edit? (buffer : EditBuffer) : Operation → Option (EditBuffer × Option Range × List Char)
  | .replace range text => some (buffer, range, text)
  | .replaceSelecting range text _ _ => some ({ buffer with lastTyping := none }, some range, text)
  | .deleteTo offset =>
      if buffer.selection.isEmpty then
        if offset = buffer.cursor then none
        else some (buffer, some ⟨min buffer.cursor offset, max buffer.cursor offset⟩, [])
      else some (buffer, none, [])
  | .setText text => some (buffer, some ⟨0, byteLen buffer.text⟩, text)
  | _ => none

end EditBuffer

namespace TextHistory

def edited (history : TextHistory) (buffer : EditBuffer) (range : Option Range) (text : List Char)
    (now : ℕ) : TextHistory :=
  if buffer.joinsStep range text now then { history with future := [] } else history.opened buffer

def observe (history : TextHistory) (buffer : EditBuffer) (c : Call) : TextHistory :=
  match c.operation with
  | .undo =>
      if buffer.undo = [] then history
      else { history with past := history.past.tail, future := buffer.text :: history.future }
  | .redo =>
      if buffer.redo = [] then history
      else { history with past := buffer.text :: history.past, future := history.future.tail }
  | .replaceAndMark _ _ _ => { history with base := some (history.settled buffer) }
  | .unmark => if buffer.composition = none then history else history.opened buffer
  | operation =>
      match buffer.edit? operation with
      | none => history
      | some (buffer, range, text) => history.edited buffer range text c.now

end TextHistory

def Exact (initial : List Char) : List Call → EditBuffer → TextHistory → Prop
  | [], _, _ => True
  | c :: calls, buffer, history => ∃ next, buffer.call c = some next ∧
      (c.operation = .undo → buffer.undo ≠ [] → history.past.head? = some next.text) ∧
      (c.operation = .redo → buffer.redo ≠ [] → history.future.head? = some next.text) ∧
      (c.operation = .undo → buffer.undo ≠ [] → next.undo = [] → history.lost = 0 →
        next.text = initial) ∧
      Exact initial calls next (history.observe buffer c)

def Ordered (range : Range) : Prop :=
  range.start ≤ range.stop

lemma ordered_caret (n : ℕ) : Ordered (.caret n) :=
  Nat.le_refl n

lemma utf8Size_pos (c : Char) : 0 < c.utf8Size :=
  Char.utf8Size_pos c

lemma byteLen_append (text text' : List Char) : byteLen (text ++ text') = byteLen text + byteLen text' :=
  extent_append _ _

def Step.Takes (step : Step) (text text' : List Char) : Prop :=
  ∃ before after, text = before ++ (step.removed ++ after) ∧ text' = before ++ (step.inserted ++ after) ∧
    byteLen before = step.start

def Composed (text : List Char) (composition : Composition) (base : List Char) : Prop :=
  ∃ before composed after, base = before ++ (composition.removed ++ after) ∧
    text = before ++ (composed ++ after) ∧ byteLen before = composition.start

def composedEnd (text : List Char) (composition : Composition) (base : List Char) : ℕ :=
  byteLen text + composition.start + byteLen composition.removed - byteLen base

lemma composedEnd_eq {before composed after : List Char} {composition : Composition}
    (hstart : byteLen before = composition.start) :
    composedEnd (before ++ (composed ++ after)) composition (before ++ (composition.removed ++ after)) =
      byteLen (before ++ composed) := by
  simp only [composedEnd, byteLen_append, hstart]
  omega

structure Cut (text : List Char) (range : Range) (before middle after : List Char) : Prop where
  text : before ++ (middle ++ after) = text
  start : byteLen before = range.start
  stop : range.start + byteLen middle = range.stop

namespace Cut

variable {text before middle after : List Char} {range : Range}

lemma slice_eq (h : Cut text range before middle after) :
    slice Char.utf8Size range.start range.stop text = some middle :=
  (slice_eq_some utf8Size_pos).mpr ⟨before, after, h.text, h.start, h.stop⟩

lemma replaceRange_eq (h : Cut text range before middle after) (new : List Char) :
    replaceRange Char.utf8Size range.start range.stop new text = some (before ++ (new ++ after)) :=
  (replaceRange_eq_some utf8Size_pos).mpr ⟨before, middle, after, h.text, h.start, h.stop, rfl⟩

end Cut

lemma floorBoundary_mono {text : List Char} {n n' : ℕ} (h : n ≤ n') :
    floorBoundary Char.utf8Size text n ≤ floorBoundary Char.utf8Size text n' := by
  induction h with
  | refl => exact Nat.le_refl _
  | step h ih =>
      refine Nat.le_trans ih ?_
      rw [floorBoundary]
      split
      · exact Nat.le_succ_of_le (floorBoundary_le _)
      · exact Nat.le_refl _

lemma ordered_clampRange {buffer : EditBuffer} {range : Range} (h : Ordered range) :
    Ordered (buffer.clampRange range) :=
  floorBoundary_mono (by rw [Ordered] at h; omega)

lemma exists_cut (buffer : EditBuffer) {range : Range} (h : Ordered range) :
    ∃ before middle after, Cut buffer.text (buffer.clampRange range) before middle after := by
  have hordered : Ordered (buffer.clampRange range) := ordered_clampRange h
  obtain ⟨before, rest, htext, hstart⟩ :=
    (isBoundary_iff utf8Size_pos).mp (isBoundary_clampOffset (l := buffer.text) range.start)
  obtain ⟨through, after, htext', hstop⟩ :=
    (isBoundary_iff utf8Size_pos).mp (isBoundary_clampOffset (l := buffer.text) range.stop)
  obtain ⟨middle, hthrough, hrest⟩ := exists_between utf8Size_pos (htext.trans htext'.symm)
    (by rw [hstart, hstop]; exact hordered)
  refine ⟨before, middle, after, by rw [hrest, htext], hstart, ?_⟩
  have hlen := congrArg byteLen hthrough
  rw [byteLen_append] at hlen
  change byteLen before + byteLen middle = byteLen through at hlen
  change byteLen before = _ at hstart
  change byteLen through = _ at hstop
  rw [hstart, hstop] at hlen
  exact hlen

structure Good (initial : List Char) (buffer : EditBuffer) (history : TextHistory) : Prop where
  length : history.past.length = buffer.undo.length + history.lost
  origin : (history.settled buffer :: history.past).getLast? = some initial
  undo : Trail (fun step text text' => step.Takes text' text) (history.settled buffer) buffer.undo history.past
  redo : Trail Step.Takes (history.settled buffer) buffer.redo history.future
  settled : buffer.composition = none → history.base = none
  composed : ∀ composition, buffer.composition = some composition → ∃ base, history.base = some base ∧
    Composed buffer.text composition base ∧ Ordered composition.before
  selection : Ordered buffer.selection
  marked : ∀ range, buffer.marked = some range → Ordered range
  steps : ∀ step ∈ buffer.undo ++ buffer.redo, Ordered step.before ∧ Ordered step.after

section Good

variable {initial : List Char} {buffer : EditBuffer} {history : TextHistory}

lemma Good.new (text : List Char) : Good text (.new text) .empty where
  length := rfl
  origin := rfl
  undo := trail_nil
  redo := trail_nil
  settled := fun _ => rfl
  composed := fun _ h => by cases h
  selection := Nat.le_refl _
  marked := fun _ h => by cases h
  steps := fun _ h => absurd h List.not_mem_nil

lemma Good.settled_eq (h : Good initial buffer history) (hnone : buffer.composition = none) :
    history.settled buffer = buffer.text := by
  rw [TextHistory.settled, h.settled hnone]
  rfl

lemma Good.select (h : Good initial buffer history) {selection : Range} (hselection : Ordered selection)
    (reversed : Bool) (lastTyping : Option ℕ) :
    Good initial { buffer with selection, reversed, lastTyping } history :=
  { h with selection := hselection }

lemma Good.ordered_target (h : Good initial buffer history) {range : Option Range}
    (hrange : ∀ r, range = some r → Ordered r) : Ordered (buffer.target range) := by
  rw [EditBuffer.target]
  cases range with
  | some r => exact hrange r rfl
  | none =>
      cases hmarked : buffer.marked with
      | some r => exact h.marked r hmarked
      | none => exact h.selection

lemma length_pushLimited (step : Step) (steps : List Step) :
    (pushLimited step steps).length =
      if undoLimit ≤ steps.length then steps.length else steps.length + 1 := by
  rw [pushLimited, List.length_cons]
  split
  · rw [List.length_dropLast, List.length_cons, if_pos (by omega)]
    omega
  · rw [List.length_cons, if_neg (by omega)]

lemma mem_pushLimited {step step' : Step} {steps : List Step} (h : step' ∈ pushLimited step steps) :
    step' = step ∨ step' ∈ steps := by
  rw [pushLimited] at h
  split at h
  · exact List.mem_cons.mp ((List.dropLast_sublist _).subset h)
  · exact List.mem_cons.mp h

lemma Good.push (h : Good initial buffer history) {step : Step} {next : EditBuffer}
    (hstep : step.Takes (history.settled buffer) next.text)
    (hundo : next.undo = pushLimited step buffer.undo) (hredo : next.redo = [])
    (hcomposition : next.composition = none) (hselection : Ordered next.selection)
    (hmarked : next.marked = none) (hranges : Ordered step.before ∧ Ordered step.after) :
    Good initial next (history.opened buffer) := by
  have hsettled : (history.opened buffer).settled next = next.text := rfl
  constructor
  · rw [hundo, length_pushLimited]
    simp only [TextHistory.opened, List.length_cons, h.length]
    split
    · omega
    · omega
  · rw [hsettled, TextHistory.opened, List.getLast?_cons_cons]
    exact h.origin
  · rw [hsettled, hundo, pushLimited]
    have htrail : Trail (fun step text text' => step.Takes text' text) next.text (step :: buffer.undo)
        (history.settled buffer :: history.past) := ⟨hstep, h.undo⟩
    split
    · exact htrail.dropLast
    · exact htrail
  · rw [hredo]
    exact trail_nil
  · exact fun _ => rfl
  · intro composition hsome
    rw [hcomposition] at hsome
    cases hsome
  · exact hselection
  · intro range hsome
    rw [hmarked] at hsome
    cases hsome
  · intro step' hmem
    rw [hundo, hredo, List.append_nil] at hmem
    rcases mem_pushLimited hmem with rfl | hold
    · exact hranges
    · exact h.steps step' (List.mem_append_left _ hold)

def Within (buffer : EditBuffer) (history : TextHistory) (range : Range) : Prop :=
  ∀ composition, buffer.composition = some composition → composition.start ≤ range.start ∧
    range.stop ≤ composedEnd buffer.text composition (history.settled buffer)

def AtEnd (buffer : EditBuffer) (history : TextHistory) (place : ℕ) : Prop :=
  ∀ composition, buffer.composition = some composition →
    place = composedEnd buffer.text composition (history.settled buffer)

lemma Good.exists_base (h : Good initial buffer history) {composition : Composition}
    (hsome : buffer.composition = some composition) :
    Composed buffer.text composition (history.settled buffer) ∧ Ordered composition.before := by
  obtain ⟨base, hbase, hcomposed, hordered⟩ := h.composed composition hsome
  rw [TextHistory.settled, hbase]
  exact ⟨hcomposed, hordered⟩

lemma append_inj_of_byteLen {before after before' after' : List Char}
    (h : before ++ after = before' ++ after') (hlen : byteLen before = byteLen before') :
    before = before' ∧ after = after' := by
  obtain ⟨between, rfl, hafter⟩ := exists_between utf8Size_pos h (Nat.le_of_eq hlen)
  rw [byteLen_append] at hlen
  obtain rfl := eq_nil_of_extent utf8Size_pos (show extent Char.utf8Size between = 0 by
    change byteLen between = 0
    omega)
  exact ⟨(List.append_nil _).symm, hafter.symm⟩

lemma Composed.cut {text base before middle after : List Char} {composition : Composition} {range : Range}
    (h : Composed text composition base) (hcut : Cut text range before middle after)
    (hstart : composition.start ≤ range.start) (hstop : range.stop ≤ composedEnd text composition base) :
    ∃ outer left right rest, base = outer ++ (composition.removed ++ rest) ∧ before = outer ++ left ∧
      after = right ++ rest ∧ byteLen outer = composition.start ∧
      range.stop + byteLen right = composedEnd text composition base := by
  obtain ⟨outer, composed, rest, hbase, htext, houter⟩ := h
  rw [htext, hbase, composedEnd_eq houter] at hstop ⊢
  obtain ⟨left, hleft, hmiddle⟩ := exists_between utf8Size_pos (htext.symm.trans hcut.text.symm)
    (by change byteLen outer ≤ byteLen before; rw [houter, hcut.start]; exact hstart)
  have hthrough : (before ++ middle) ++ after = (outer ++ composed) ++ rest := by
    rw [List.append_assoc, List.append_assoc, hcut.text, htext]
  have hlen : byteLen (before ++ middle) = range.stop := by
    rw [byteLen_append, hcut.start, hcut.stop]
  obtain ⟨right, hright, hrest⟩ := exists_between utf8Size_pos hthrough
    (by change byteLen (before ++ middle) ≤ byteLen (outer ++ composed); rw [hlen]; exact hstop)
  refine ⟨outer, left, right, rest, rfl, hleft.symm, hrest.symm, houter, ?_⟩
  rw [← hright, byteLen_append, hlen]

def EditBuffer.changed (buffer : EditBuffer) (before text after : List Char) : EditBuffer :=
  { buffer with
    text := before ++ (text ++ after)
    lineStarts := FileView.lineStarts (before ++ (text ++ after))
    version := buffer.version + 1
    selection := .caret (byteLen before + byteLen text)
    reversed := false
    marked := none }

lemma replace_eq {range : Option Range} {text before middle after : List Char} {now : ℕ}
    (hcut : Cut buffer.text (buffer.replaced range) before middle after) :
    buffer.replace range text now =
      match buffer.composition with
      | some composition =>
          ((buffer.changed before text after).endComposition composition
            (byteLen before + byteLen text)).map fun ended => { ended with lastTyping := none }
      | none => some
          { (if EditBuffer.isTyping middle text && buffer.joins (byteLen before) now then
              (buffer.changed before text after).join text (byteLen before + byteLen text)
            else (buffer.changed before text after).push
              { start := byteLen before
                removed := middle
                inserted := text
                before := buffer.selection
                after := .caret (byteLen before + byteLen text) }) with
            lastTyping := if EditBuffer.isTyping middle text then some now else none } := by
  rw [EditBuffer.replace.eq_def, hcut.start]
  have hslice := hcut.slice_eq
  have hreplace := hcut.replaceRange_eq text
  rw [EditBuffer.replaced] at hslice hreplace
  simp only [hslice, EditBuffer.apply, hreplace, Option.bind_eq_bind, Option.bind_some, Option.pure_def,
    EditBuffer.changed, hcut.start]
  cases hcomposition : buffer.composition with
  | none => rfl
  | some composition => exact Option.map_eq_bind.symm

lemma joins_iff {start now : ℕ} : buffer.joins start now = true ↔
    (∃ last, buffer.lastTyping = some last ∧ now - last < undoGroup) ∧ buffer.redo = [] ∧
      ∃ step steps, buffer.undo = step :: steps ∧ step.start + byteLen step.inserted = start := by
  rw [EditBuffer.joins, Bool.and_eq_true, Bool.and_eq_true, and_assoc, List.isEmpty_iff]
  refine and_congr ?_ (and_congr_right fun _ => ?_)
  · cases buffer.lastTyping with
    | none => simp
    | some last => simp
  · cases buffer.undo with
    | nil => simp
    | cons step steps => simp

lemma Good.join (h : Good initial buffer history) (hnone : buffer.composition = none)
    {next : EditBuffer} {step : Step} {steps : List Step} {before after : List Char} (text : List Char)
    (caret : ℕ) (hundo : buffer.undo = step :: steps) (hplace : step.start + byteLen step.inserted = byteLen before)
    (htext : buffer.text = before ++ after) (hnext : next.text = before ++ (text ++ after))
    (hjoined : next.undo =
      { step with inserted := step.inserted ++ text, after := .caret caret } :: steps)
    (hredo : next.redo = []) (hcomposition : next.composition = none)
    (hselection : Ordered next.selection) (hmarked : next.marked = none) :
    Good initial next { history with future := [] } := by
  have hbase := h.settled hnone
  have htrail := h.undo
  rw [hundo, h.settled_eq hnone] at htrail
  obtain ⟨previous, past, hpast, ⟨outer, rest, hprevious, hcurrent, hstart⟩, hrest⟩ := htrail.exists_next
  rw [htext, ← List.append_assoc] at hcurrent
  obtain ⟨hbefore, hafter⟩ := append_inj_of_byteLen hcurrent
    (by rw [byteLen_append, hstart, hplace])
  have hsettled : TextHistory.settled { history with future := [] } next = next.text := by
    rw [TextHistory.settled, hbase]
    rfl
  constructor
  · have hlength := h.length
    rw [hundo, List.length_cons] at hlength
    rw [hjoined, List.length_cons]
    exact hlength
  · have horigin := h.origin
    rw [hpast, List.getLast?_cons_cons] at horigin ⊢
    exact horigin
  · rw [hsettled, hjoined, hpast]
    refine ⟨⟨outer, rest, hprevious, ?_, hstart⟩, hrest⟩
    rw [hnext, hbefore, hafter, List.append_assoc, List.append_assoc]
  · rw [hredo]
    exact trail_nil
  · exact fun _ => hbase
  · intro composition hsome
    rw [hcomposition] at hsome
    cases hsome
  · exact hselection
  · intro range hsome
    rw [hmarked] at hsome
    cases hsome
  · intro step' hmem
    rw [hjoined, hredo, List.append_nil, List.mem_cons] at hmem
    rcases hmem with rfl | hold
    · have hstep := h.steps step (by rw [hundo]; exact List.mem_append_left _ List.mem_cons_self)
      exact ⟨hstep.1, ordered_caret caret⟩
    · refine h.steps step' ?_
      rw [hundo]
      exact List.mem_append_left _ (List.mem_cons_of_mem _ hold)

lemma endComposition_eq {composition : Composition} {caret : ℕ} {before inserted after : List Char}
    (htext : buffer.text = before ++ (inserted ++ after)) (hstart : byteLen before = composition.start)
    (hcaret : composition.start + byteLen inserted = caret) :
    buffer.endComposition composition caret = some ({ buffer with composition := none }.push
      { start := composition.start
        removed := composition.removed
        inserted
        before := composition.before
        after := .caret caret }) := by
  rw [EditBuffer.endComposition,
    (slice_eq_some utf8Size_pos).mpr ⟨before, after, htext.symm, hstart, hcaret⟩]
  rfl

lemma Good.replace (h : Good initial buffer history) {range : Option Range}
    (hrange : ∀ r, range = some r → Ordered r) (hwithin : Within buffer history (buffer.replaced range))
    (hend : AtEnd buffer history (buffer.replaced range).stop) (text : List Char) (now : ℕ) :
    ∃ next, buffer.replace range text now = some next ∧
      Good initial next (history.edited buffer range text now) := by
  obtain ⟨before, middle, after, hcut⟩ := exists_cut buffer (h.ordered_target hrange)
  have hcut : Cut buffer.text (buffer.replaced range) before middle after := hcut
  have heq := @replace_eq buffer range text _ _ _ now hcut
  have hremoved : buffer.removedBy (buffer.replaced range) = middle := by
    rw [EditBuffer.removedBy, hcut.slice_eq]
    rfl
  rw [TextHistory.edited, EditBuffer.joinsStep, hremoved, ← hcut.start]
  cases hcomposition : buffer.composition with
  | none =>
      rw [hcomposition] at heq
      refine ⟨_, heq, ?_⟩
      by_cases hjoins : (EditBuffer.isTyping middle text && buffer.joins (byteLen before) now) = true
      · simp only [Option.isNone_none, Bool.true_and, if_pos hjoins]
        rw [Bool.and_eq_true, EditBuffer.isTyping, Bool.and_eq_true, Bool.and_eq_true,
          List.isEmpty_iff] at hjoins
        obtain ⟨⟨⟨rfl, -⟩, -⟩, hplaced⟩ := hjoins
        obtain ⟨-, hredo, step, steps, hundo, hplace⟩ := joins_iff.mp hplaced
        have hjoin : (buffer.changed before text after).join text (byteLen before + byteLen text) =
            { buffer.changed before text after with
              undo := { step with
                inserted := step.inserted ++ text
                after := .caret (byteLen before + byteLen text) } :: steps } := by
          rw [EditBuffer.join, EditBuffer.changed, hundo]
        rw [hjoin]
        refine h.join hcomposition text (byteLen before + byteLen text) hundo hplace hcut.text.symm ?_ ?_ ?_
          ?_ ?_ ?_
        · rfl
        · rfl
        · exact hredo
        · exact hcomposition
        · exact ordered_caret _
        · rfl
      · simp only [Option.isNone_none, Bool.true_and, if_neg hjoins]
        refine h.push ?_ rfl ?_ ?_ ?_ ?_ ⟨?_, ?_⟩
        · rw [h.settled_eq hcomposition, ← hcut.text]
          exact ⟨before, after, rfl, rfl, rfl⟩
        · rfl
        · exact hcomposition
        · exact ordered_caret _
        · rfl
        · exact h.selection
        · exact ordered_caret _
  | some composition =>
      obtain ⟨hcomposed, hordered⟩ := h.exists_base hcomposition
      obtain ⟨hstart, hstop⟩ := hwithin composition hcomposition
      obtain ⟨outer, left, right, rest, hbase, rfl, rfl, houter, hright⟩ :=
        hcomposed.cut hcut hstart hstop
      have hreach := hend composition hcomposition
      obtain rfl := eq_nil_of_extent utf8Size_pos (show extent Char.utf8Size right = 0 by
        change byteLen right = 0
        omega)
      have htext : (buffer.changed (outer ++ left) text ([] ++ rest)).text =
          outer ++ ((left ++ text) ++ rest) := by
        simp only [EditBuffer.changed, List.nil_append, List.append_assoc]
      have hended := endComposition_eq htext houter
        (show composition.start + byteLen (left ++ text) = byteLen (outer ++ left) + byteLen text by
          rw [byteLen_append, byteLen_append, ← houter, Nat.add_assoc])
      rw [hcomposition] at heq
      dsimp only at heq
      rw [hended, Option.map_some] at heq
      refine ⟨_, heq, ?_⟩
      simp only [Option.isNone_some, Bool.false_and, if_neg Bool.false_ne_true]
      refine h.push ?_ rfl ?_ ?_ ?_ ?_ ⟨?_, ?_⟩
      · exact ⟨outer, rest, hbase, htext, houter⟩
      · rfl
      · rfl
      · exact ordered_caret _
      · rfl
      · exact hordered
      · exact ordered_caret _

lemma Good.setAfter (h : Good initial buffer history) {selection : Range}
    (hselection : Ordered selection) :
    Good initial { buffer with undo := EditBuffer.setAfter buffer.undo selection } history := by
  have hsettled : history.settled { buffer with undo := EditBuffer.setAfter buffer.undo selection } =
      history.settled buffer := rfl
  cases hundo : buffer.undo with
  | nil =>
      rw [EditBuffer.setAfter, ← hundo]
      exact h
  | cons step steps =>
      rw [hundo, EditBuffer.setAfter] at hsettled
      rw [EditBuffer.setAfter]
      have hsteps := h.steps
      have htrail := h.undo
      have hlength := h.length
      rw [hundo] at hsteps htrail hlength
      refine { h with length := hlength, undo := ?_, steps := fun step' hmem => ?_ }
      · rw [hsettled]
        obtain ⟨previous, past, hpast, htakes, hrest⟩ := htrail.exists_next
        rw [hpast]
        exact ⟨htakes, hrest⟩
      · rcases List.mem_cons.mp hmem with rfl | hold
        · exact ⟨(hsteps step List.mem_cons_self).1, hselection⟩
        · exact hsteps step' (List.mem_cons_of_mem _ hold)

lemma ordered_selectionIn (start : ℕ) (text : List Char) {selected : Option Range}
    (h : ∀ r, selected = some r → Ordered r) : Ordered (EditBuffer.selectionIn start text selected) := by
  cases selected with
  | none => exact ordered_caret _
  | some r => exact Nat.add_le_add_left (h r rfl) _

lemma ordered_markedIn (start : ℕ) (text : List Char) (r : Range)
    (h : EditBuffer.markedIn start text = some r) : Ordered r := by
  rw [EditBuffer.markedIn] at h
  split at h
  · cases h
  · cases h
    exact Nat.le_add_right _ _

lemma Good.replaceAndMark (h : Good initial buffer history) {range selected : Option Range}
    (hrange : ∀ r, range = some r → Ordered r) (hselected : ∀ r, selected = some r → Ordered r)
    (hwithin : Within buffer history (buffer.replaced range)) (text : List Char) :
    ∃ next, buffer.replaceAndMark range text selected = some next ∧
      Good initial next { history with base := some (history.settled buffer) } := by
  obtain ⟨before, middle, after, hcut⟩ := exists_cut buffer (h.ordered_target hrange)
  have hslice := hcut.slice_eq
  have hreplace := hcut.replaceRange_eq text
  have hcaret := ordered_selectionIn (buffer.replaced range).start text hselected
  have hmarked := ordered_markedIn (buffer.replaced range).start text
  have hmark : ∀ composition, Composed (before ++ (text ++ after)) composition (history.settled buffer) →
      Ordered composition.before → ∀ next : EditBuffer, next.text = before ++ (text ++ after) →
      next.composition = some composition → next.undo = buffer.undo → next.redo = buffer.redo →
      Ordered next.selection → (∀ r, next.marked = some r → Ordered r) →
      Good initial next { history with base := some (history.settled buffer) } := by
    intro composition hcomposed hordered next htext hcomposition hundo hredo hselection hmarked
    constructor
    · rw [hundo]
      exact h.length
    · exact h.origin
    · rw [hundo]
      exact h.undo
    · rw [hredo]
      exact h.redo
    · intro hnone
      rw [hcomposition] at hnone
      cases hnone
    · intro composition' hsome
      rw [hcomposition, Option.some_inj] at hsome
      subst hsome
      exact ⟨_, rfl, by rw [htext]; exact hcomposed, hordered⟩
    · exact hselection
    · exact hmarked
    · rw [hundo, hredo]
      exact h.steps
  rw [EditBuffer.replaceAndMark]
  cases hcomposition : buffer.composition with
  | none =>
      simp only [hslice, EditBuffer.apply, hreplace, Option.map_some, Option.bind_eq_bind,
        Option.bind_some, Option.pure_def]
      refine ⟨_, rfl, hmark _ ?_ ?_ _ rfl rfl rfl rfl hcaret hmarked⟩
      · rw [h.settled_eq hcomposition]
        exact ⟨before, text, after, hcut.text.symm, rfl, hcut.start⟩
      · exact h.selection
  | some composition =>
      obtain ⟨hcomposed, hordered⟩ := h.exists_base hcomposition
      obtain ⟨hstart, hstop⟩ := hwithin composition hcomposition
      obtain ⟨outer, left, right, rest, hbase, hleft, hright, houter, -⟩ :=
        hcomposed.cut hcut hstart hstop
      simp only [EditBuffer.apply, hreplace, Option.bind_eq_bind, Option.bind_some, Option.pure_def]
      refine ⟨_, rfl, hmark composition ?_ hordered _ rfl rfl rfl rfl hcaret hmarked⟩
      refine ⟨outer, left ++ (text ++ right), rest, hbase, ?_, houter⟩
      rw [hleft, hright]
      simp only [List.append_assoc]

lemma Good.unmark (h : Good initial buffer history) (hend : AtEnd buffer history buffer.cursor) :
    ∃ next, buffer.unmark = some next ∧ Good initial next
      (if buffer.composition = none then history else history.opened buffer) := by
  rw [EditBuffer.unmark]
  cases hcomposition : buffer.composition with
  | none =>
      refine ⟨_, rfl, ?_⟩
      rw [if_pos rfl]
      exact { h with
        settled := fun _ => h.settled hcomposition
        composed := fun _ hsome => by cases hsome
        marked := fun _ hsome => by cases hsome }
  | some composition =>
      obtain ⟨⟨outer, composed, rest, hbase, htext, houter⟩, hordered⟩ := h.exists_base hcomposition
      have hcaret := hend composition hcomposition
      rw [htext, hbase, composedEnd_eq houter, byteLen_append, houter] at hcaret
      have hmax : max buffer.cursor composition.start = buffer.cursor := Nat.max_eq_left (by omega)
      have hslice : slice Char.utf8Size composition.start (max buffer.cursor composition.start)
          buffer.text = some composed :=
        (slice_eq_some utf8Size_pos).mpr ⟨outer, rest, htext.symm, houter, by rw [hmax, hcaret]; rfl⟩
      simp only [hslice, Option.bind_eq_bind, Option.bind_some, Option.pure_def]
      refine ⟨_, rfl, ?_⟩
      rw [if_neg (by simp)]
      refine h.push ?_ rfl ?_ ?_ ?_ ?_ ⟨?_, ?_⟩
      · exact ⟨outer, rest, hbase, htext, houter⟩
      · rfl
      · rfl
      · exact h.selection
      · rfl
      · exact hordered
      · exact ordered_caret _

lemma Good.undoStep (h : Good initial buffer history) (hnone : buffer.composition = none)
    (hundo : buffer.undo ≠ []) : ∃ next, buffer.undoStep = some next ∧ next.composition = none ∧
      history.past.head? = some next.text ∧
      Good initial next { history with past := history.past.tail, future := buffer.text :: history.future } := by
  obtain ⟨step, steps, hsteps⟩ := List.exists_cons_of_ne_nil hundo
  have htrail := h.undo
  rw [hsteps, h.settled_eq hnone] at htrail
  obtain ⟨previous, past, hpast, htakes, hrest⟩ := htrail.exists_next
  obtain ⟨outer, rest, hprevious, htext, hstart⟩ := htakes
  have hreplace : replaceRange Char.utf8Size step.start (step.start + byteLen step.inserted) step.removed
      buffer.text = some previous :=
    (replaceRange_eq_some utf8Size_pos).mpr ⟨outer, step.inserted, rest, htext.symm, hstart, rfl,
      hprevious.symm⟩
  rw [EditBuffer.undoStep, hsteps]
  simp only [EditBuffer.apply, hreplace, Option.bind_eq_bind, Option.bind_some, Option.pure_def]
  refine ⟨_, rfl, hnone, by rw [hpast]; rfl, ?_⟩
  have hbase := h.settled hnone
  have hlength := h.length
  have horigin := h.origin
  have hredo := h.redo
  have hranges := h.steps
  rw [hpast, hsteps, List.length_cons, List.length_cons] at hlength
  rw [hpast, List.getLast?_cons_cons] at horigin
  rw [h.settled_eq hnone] at hredo
  rw [hsteps] at hranges
  constructor
  · rw [hpast, List.tail_cons]
    dsimp only
    omega
  · rw [TextHistory.settled, hbase, hpast]
    exact horigin
  · rw [TextHistory.settled, hbase, hpast]
    exact hrest
  · rw [TextHistory.settled, hbase]
    exact ⟨⟨outer, rest, hprevious, htext, hstart⟩, hredo⟩
  · exact fun _ => hbase
  · intro composition hsome
    rw [show _ = buffer.composition from rfl, hnone] at hsome
    cases hsome
  · exact (hranges step (List.mem_append_left _ List.mem_cons_self)).1
  · exact fun _ hsome => by cases hsome
  · intro step' hmem
    refine hranges step' ?_
    rw [List.mem_append, List.mem_cons] at hmem ⊢
    tauto

lemma Good.redoStep (h : Good initial buffer history) (hnone : buffer.composition = none)
    (hredo : buffer.redo ≠ []) : ∃ next, buffer.redoStep = some next ∧
      history.future.head? = some next.text ∧
      Good initial next { history with past := buffer.text :: history.past, future := history.future.tail } := by
  obtain ⟨step, steps, hsteps⟩ := List.exists_cons_of_ne_nil hredo
  have htrail := h.redo
  rw [hsteps, h.settled_eq hnone] at htrail
  obtain ⟨later, future, hfuture, htakes, hrest⟩ := htrail.exists_next
  obtain ⟨outer, rest, htext, hlater, hstart⟩ := htakes
  have hreplace : replaceRange Char.utf8Size step.start (step.start + byteLen step.removed) step.inserted
      buffer.text = some later :=
    (replaceRange_eq_some utf8Size_pos).mpr ⟨outer, step.removed, rest, htext.symm, hstart, rfl,
      hlater.symm⟩
  rw [EditBuffer.redoStep, hsteps]
  simp only [EditBuffer.apply, hreplace, Option.bind_eq_bind, Option.bind_some, Option.pure_def]
  refine ⟨_, rfl, by rw [hfuture]; rfl, ?_⟩
  have hbase := h.settled hnone
  have hlength := h.length
  have horigin := h.origin
  have hundo := h.undo
  have hranges := h.steps
  rw [h.settled_eq hnone] at horigin hundo
  rw [hsteps] at hranges
  constructor
  · dsimp only
    rw [List.length_cons, List.length_cons]
    omega
  · rw [TextHistory.settled, hbase, List.getLast?_cons_cons]
    exact horigin
  · rw [TextHistory.settled, hbase]
    exact ⟨⟨outer, rest, htext, hlater, hstart⟩, hundo⟩
  · rw [TextHistory.settled, hbase, hfuture]
    exact hrest
  · exact fun _ => hbase
  · intro composition hsome
    rw [show _ = buffer.composition from rfl, hnone] at hsome
    cases hsome
  · exact (hranges step (List.mem_append_right _ List.mem_cons_self)).2
  · exact h.marked
  · intro step' hmem
    refine hranges step' ?_
    rw [List.mem_append, List.mem_cons] at hmem ⊢
    tauto

end Good

end DevCommandCenter.FileView
