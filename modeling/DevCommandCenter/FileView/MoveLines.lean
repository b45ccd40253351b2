import DevCommandCenter.FileView.SelectedLines

/-! Moving lines past their neighbor, and back. -/

namespace DevCommandCenter.FileView.LineCommands

open Library

variable {pre init post : List Line} {last above below : Line} {text : List Octet}
  {selection : Range} {reversed : Bool}

section Moving

def movedUp (eol : List Octet) (pre : List Line) (above : Line) (init : List Line) (last : Line)
    (post : List Line) : List Line :=
  pre ++ (init ++ ⟨last.content, eol⟩ :: ⟨above.content, last.ending⟩ :: post)

def movedDown (eol : List Octet) (pre init : List Line) (last below : Line) (post : List Line) :
    List Line :=
  pre ++ (⟨below.content, eol⟩ :: (init ++ ⟨last.content, below.ending⟩ :: post))

lemma Selects.start_first (h : Selects text pre init last post selection) :
    (Doc.new text).start pre.length = (render pre).length := by
  cases init with
  | nil =>
      have hat : LineAt text pre last post := ⟨h.lines⟩
      exact hat.start
  | cons first init =>
      have hat : LineAt text pre first (init ++ last :: post) := ⟨h.lines⟩
      exact hat.start

lemma Selects.text_eq (h : Selects text pre init last post selection) :
    text = render pre ++ ((render init ++ last.content) ++ (last.ending ++ render post)) := by
  have heq := h.lineAt.text_eq
  rw [render_append] at heq
  rw [heq]
  simp only [List.append_assoc]

lemma Selects.stop_last (h : Selects text pre init last post selection) :
    (Doc.new text).stop (pre.length + init.length) =
      (render pre).length + (render init ++ last.content).length := by
  have hstop := h.lineAt.stop
  rw [render_append, List.length_append, List.length_append] at hstop
  rw [hstop, List.length_append]
  omega

lemma Selects.block_text (h : Selects text pre init last post selection) :
    between text ((Doc.new text).start pre.length)
      ((Doc.new text).stop (pre.length + init.length)) = render init ++ last.content := by
  rw [h.start_first, h.stop_last]
  conv_lhs => rw [h.text_eq]
  exact between_split _ _ _

structure Moved (text : List Octet) (lines : List Line) (selection : Range) (delta : ℤ)
    (reversed : Bool) (change : Change) : Prop where
  applied : change.apply text = render lines
  selection : change.selection = shifted selection delta (render lines).length
  reversed : change.reversed = reversed

lemma moved_replacing {before middle after replacement : List Octet} {lines : List Line} {delta : ℤ}
    {range : Range} {limit : ℕ} (htext : text = before ++ (middle ++ after))
    (hlines : render lines = before ++ (replacement ++ after))
    (hstart : range.start = before.length) (hstop : range.stop = before.length + middle.length)
    (hlimit : limit = text.length - (range.stop - range.start) + replacement.length) :
    Moved text lines selection delta reversed
      (Change.mk [⟨range, replacement⟩] (shifted selection delta limit) reversed) where
  applied := by
    rw [apply_single, hstart, hstop, htext, hlines, List.take_left]
    simp
  selection := by
    have hlength : limit = (render lines).length := by
      rw [hlimit, hstart, hstop, htext, hlines]
      simp only [List.length_append]
      omega
    rw [hlength]
  reversed := rfl

lemma move_up (h : Selects text (pre ++ [above]) init last post selection) :
    ∃ change, moveLines (Doc.new text) selection reversed true = some change ∧
      Moved text (movedUp (Doc.new text).eol pre above init last post) selection
        (-(above.content.length + (Doc.new text).eol.length)) reversed change := by
  have hat : LineAt text pre above (init ++ last :: post) := ⟨by rw [h.lines]; simp⟩
  have hblock := h.block_text
  have hstop := h.stop_last
  simp only [List.length_append, List.length_singleton] at hblock hstop
  rw [moveLines, h.block]
  simp only [List.length_append, List.length_singleton, if_true, Nat.add_sub_cancel,
    Nat.add_one_ne_zero, if_false, hblock, hat.content, hat.start, new_text]
  refine ⟨_, rfl, @moved_replacing _ _ _ (render pre)
    (above.bytes ++ (render init ++ last.content)) (last.ending ++ render post) _ _ _ _ _ ?_ ?_ rfl
    ?_ ?_⟩
  · have htext := h.text_eq
    rw [render_append] at htext
    conv_lhs => rw [htext]
    simp [render]
  · simp only [movedUp, render_append, render_cons, Line.bytes, List.append_assoc]
  · have hrender : (render (pre ++ [above])).length = (render pre).length + above.bytes.length := by
      rw [render_append, List.length_append]
      simp [render]
    simp only [List.length_append] at hstop hrender ⊢
    omega
  · simp only [List.length_append]

lemma move_down (h : Selects text pre init last (below :: post) selection) :
    ∃ change, moveLines (Doc.new text) selection reversed false = some change ∧
      Moved text (movedDown (Doc.new text).eol pre init last below post) selection
        (below.content.length + (Doc.new text).eol.length) reversed change := by
  have hat : LineAt text (pre ++ init ++ [last]) below post := ⟨by rw [h.lines]; simp⟩
  have hlength : (pre ++ init ++ [last]).length = pre.length + init.length + 1 := by
    simp only [List.length_append, List.length_singleton]
  have hcontent := hat.content
  have hstop := hat.stop
  have hblock := h.block_text
  rw [hlength] at hcontent hstop
  rw [h.start_first] at hblock
  have hcount : ¬pre.length + init.length + 1 ≥ (Doc.new text).lineCount := by
    rw [lineCount_new, h.lines]
    simp only [List.length_append, List.length_cons]
    omega
  rw [moveLines, h.block]
  simp only [if_neg hcount, hblock, hcontent, h.start_first, new_text]
  refine ⟨_, rfl, @moved_replacing _ _ _ (render pre)
    ((render init ++ last.bytes) ++ below.content) (below.ending ++ render post) _ _ _ _ _ ?_ ?_ rfl
    ?_ ?_⟩
  · have htext := hat.text_eq
    simp only [render_append] at htext
    conv_lhs => rw [htext]
    simp [render]
  · simp only [movedDown, render_append, render_cons, Line.bytes, List.append_assoc]
  · simp only [render_append, render_cons, List.length_append] at hstop ⊢
    simp only [render, List.flatMap_nil, List.length_nil] at hstop ⊢
    omega
  · simp only [List.length_append]

end Moving

section Counting

lemma length_feedsFrom (offset : ℕ) (text : List Octet) :
    (feedsFrom offset text).length = text.count lineFeed := by
  induction text generalizing offset with
  | nil => rfl
  | cons byte rest ih =>
      rw [feedsFrom]
      split
      · rename_i hbyte
        rw [List.length_cons, ih, hbyte, List.count_cons_self]
      · rename_i hbyte
        rw [ih, List.count_cons_of_ne hbyte]

lemma lineCount_eq_count (text : List Octet) :
    (Doc.new text).lineCount = text.count lineFeed + 1 := by
  rw [Doc.lineCount, Doc.new, List.length_cons, List.length_map, length_feedsFrom]

lemma count_eol (text : List Octet) : (Doc.new text).eol.count lineFeed = 1 := by
  rw [Doc.eol]
  split
  · dsimp only
    split
    · decide
    · decide
  · decide

lemma Line.Ended.count_ending {line : Line} (h : line.Ended) : line.ending.count lineFeed = 1 := by
  rcases h.2 with hcrlf | ⟨hlf, -⟩
  · rw [hcrlf]
    decide
  · rw [hlf]
    decide

end Counting

section Contents

variable {first : Line} {content ending : List Octet}

lemma LineAt.feed_notMem {line : Line} (h : LineAt text pre line post) :
    lineFeed ∉ line.content := by
  by_cases hpost : post = []
  · exact (h.last hpost).1
  · exact (h.ended hpost).1

lemma eol_head (hlength : 2 ≤ (textLines text).length) (hfirst : first ∈ (textLines text).head?) :
    (Doc.new text).eol = first.ending ∧ first.Ended := by
  match hlines : textLines text with
  | [] => simp [hlines] at hlength
  | [only] => simp [hlines] at hlength
  | head :: second :: rest =>
      rw [hlines] at hfirst
      obtain rfl := Option.some.inj hfirst
      have hat : LineAt text [] head (second :: rest) := ⟨hlines⟩
      exact ⟨eol_of_two hlines, hat.ended (List.cons_ne_nil _ _)⟩

lemma Line.Ended.other (h : first.Ended) (hfeed : lineFeed ∉ content)
    (hkeeps : first.ending = lf → content.getLast? ≠ some carriageReturn) :
    Line.Ended ⟨content, first.ending⟩ :=
  ⟨hfeed, h.2.imp_right fun hlf => ⟨hlf.1, hkeeps hlf.1⟩⟩

lemma eol_other (hlength : 2 ≤ (textLines text).length) (hfeed : lineFeed ∉ content)
    (hkeeps : (Doc.new text).eol = lf → content.getLast? ≠ some carriageReturn) :
    Line.Ended ⟨content, (Doc.new text).eol⟩ := by
  match hlines : textLines text with
  | [] => simp [hlines] at hlength
  | first :: rest =>
      have hfirst : first ∈ (textLines text).head? := by
        rw [hlines]
        rfl
      obtain ⟨heol, hended⟩ := eol_head hlength hfirst
      rw [heol] at hkeeps ⊢
      exact hended.other hfeed hkeeps

lemma LineAt.laid_tail {line : Line} (h : LineAt text pre line post) (hfeed : lineFeed ∉ content)
    (hkeeps : line.ending = lf → content.getLast? ≠ some carriageReturn) :
    Laid (⟨content, line.ending⟩ :: post) := by
  have hlaid := laid_textLines text
  rw [h.lines, laid_append (List.cons_ne_nil _ _), laid_cons] at hlaid
  rw [laid_cons]
  rcases hlaid.2 with ⟨hpost, hlast⟩ | ⟨hended, hrest⟩
  · exact .inl ⟨hpost, hfeed, hlast.2⟩
  · exact .inr ⟨hended.other hfeed hkeeps, hrest⟩

lemma laid_movedUp (h : LineAt text pre above (init ++ last :: post))
    (hlast : (Doc.new text).eol = lf → last.content.getLast? ≠ some carriageReturn)
    (habove : last.ending = lf → above.content.getLast? ≠ some carriageReturn) :
    Laid (movedUp (Doc.new text).eol pre above init last post) := by
  have hlines := h.lines
  have hat : LineAt text (pre ++ above :: init) last post := ⟨by rw [hlines]; simp⟩
  rw [movedUp, laid_append (by simp)]
  refine ⟨h.pre_ended, ?_⟩
  rw [laid_append (List.cons_ne_nil _ _)]
  refine ⟨fun line hline => hat.pre_ended line (by simp [hline]), ?_⟩
  rw [laid_cons]
  exact .inr ⟨eol_other (by simp [hlines]; omega) hat.feed_notMem hlast,
    hat.laid_tail h.feed_notMem habove⟩

lemma laid_movedDown (h : LineAt text (pre ++ init ++ [last]) below post)
    (hbelow : (Doc.new text).eol = lf → below.content.getLast? ≠ some carriageReturn)
    (hlast : below.ending = lf → last.content.getLast? ≠ some carriageReturn) :
    Laid (movedDown (Doc.new text).eol pre init last below post) := by
  have hlines := h.lines
  have hended := h.pre_ended last (by simp)
  rw [movedDown, laid_append (by simp)]
  refine ⟨fun line hline => h.pre_ended line (by simp [hline]), ?_⟩
  rw [laid_cons]
  refine .inr ⟨eol_other (by simp [hlines]; omega) h.feed_notMem hbelow, ?_⟩
  rw [laid_append (List.cons_ne_nil _ _)]
  exact ⟨fun line hline => h.pre_ended line (by simp [hline]), h.laid_tail hended.1 hlast⟩

lemma blockMoved_up {α : Type} (pre : List α) (above : α) (block post : List α) :
    blockMoved (pre ++ above :: (block ++ post)) (pre.length + 1) (pre.length + block.length) true =
      pre ++ (block ++ above :: post) := by
  have hfirst : (pre ++ above :: (block ++ post)).drop (pre.length + 1) = block ++ post := by
    rw [List.append_cons, List.drop_left' (by simp)]
  have hrest : (pre ++ above :: (block ++ post)).drop (pre.length + block.length + 1) = post := by
    rw [List.append_cons, ← List.append_assoc, List.drop_left' (by simp; omega)]
  have hcount : pre.length + block.length + 1 - (pre.length + 1) = block.length := by omega
  rw [blockMoved, hfirst, hrest, hcount, Nat.add_sub_cancel, List.take_left, List.take_left,
    List.drop_left]
  simp

lemma blockMoved_down {α : Type} (pre block : List α) (below : α) (post : List α)
    (hblock : block ≠ []) :
    blockMoved (pre ++ (block ++ below :: post)) pre.length (pre.length + block.length - 1) false =
      pre ++ (below :: (block ++ post)) := by
  have hpos := List.length_pos_iff.mpr hblock
  have hlast : pre.length + block.length - 1 + 1 = pre.length + block.length := by omega
  have hafter : (pre ++ (block ++ below :: post)).drop (pre.length + block.length) =
      below :: post := by
    rw [← List.append_assoc, List.drop_left' (by simp)]
  have hrest : (pre ++ (block ++ below :: post)).drop (pre.length + block.length - 1 + 2) = post := by
    rw [show pre.length + block.length - 1 + 2 = pre.length + block.length + 1 by omega,
      ← List.drop_drop, hafter]
    rfl
  have hcount : pre.length + block.length - pre.length = block.length := by omega
  rw [blockMoved, hlast, hcount, hafter, hrest, List.take_left, List.drop_left, List.take_left]
  simp

lemma blockMoved_perm {α : Type} (pre : List α) (line : α) (block post : List α) :
    (pre ++ (block ++ line :: post)).Perm (pre ++ line :: (block ++ post)) :=
  List.perm_middle.append_left pre

lemma contents_movedUp (eol : List Octet) (pre : List Line) (above : Line) (init : List Line)
    (last : Line) (post : List Line) : (movedUp eol pre above init last post).map Line.content =
      blockMoved ((pre ++ above :: (init ++ last :: post)).map Line.content) (pre.length + 1)
        (pre.length + 1 + init.length) true := by
  have hmoved := blockMoved_up (pre.map Line.content) above.content
    ((init ++ [last]).map Line.content) (post.map Line.content)
  simp only [List.length_map, List.length_append, List.length_singleton] at hmoved
  rw [show pre.length + 1 + init.length = pre.length + (init.length + 1) by omega]
  simp only [movedUp, List.map_append, List.map_cons, List.map_nil, List.append_assoc,
    List.cons_append, List.nil_append] at hmoved ⊢
  exact hmoved.symm

lemma contents_movedDown (eol : List Octet) (pre init : List Line) (last below : Line)
    (post : List Line) : (movedDown eol pre init last below post).map Line.content =
      blockMoved ((pre ++ (init ++ last :: below :: post)).map Line.content) pre.length
        (pre.length + init.length) false := by
  have hmoved := blockMoved_down (pre.map Line.content) ((init ++ [last]).map Line.content)
    below.content (post.map Line.content) (by simp)
  simp only [List.length_map, List.length_append, List.length_singleton] at hmoved
  rw [show pre.length + (init.length + 1) - 1 = pre.length + init.length by omega] at hmoved
  simp only [movedDown, List.map_append, List.map_cons, List.map_nil, List.append_assoc,
    List.cons_append, List.nil_append] at hmoved ⊢
  exact hmoved.symm

end Contents

end DevCommandCenter.FileView.LineCommands
