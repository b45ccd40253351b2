import DevCommandCenter.FileView.MoveLines

/-! A move of lines and the move in the other direction after it. -/

namespace DevCommandCenter.FileView.LineCommands

open Library

variable {pre init post lines : List Line} {last above below : Line} {text eol : List Octet}
  {selection : Range} {reversed : Bool} {change : Change}

lemma shifted_back {delta limit : ℕ} (hstart : delta ≤ selection.start)
    (hstop : delta ≤ selection.stop) (hlimit : selection.start - delta ≤ limit)
    (hlimit' : selection.stop - delta ≤ limit) : shifted selection (-(delta : ℤ)) limit =
      ⟨selection.start - delta, selection.stop - delta⟩ := by
  rw [shifted]
  dsimp only
  congr 1
  · omega
  · omega

lemma shifted_on (delta limit : ℕ) : shifted selection delta limit =
    ⟨min (selection.start + delta) limit, min (selection.stop + delta) limit⟩ := by
  rw [shifted]
  dsimp only
  congr 1
  · omega
  · omega

section Up

lemma render_snoc (lines : List Line) (line : Line) :
    (render (lines ++ [line])).length = (render lines).length + line.bytes.length := by
  rw [render_append, List.length_append]
  simp [render]

lemma length_bytes (content ending : List Octet) :
    (Line.bytes ⟨content, ending⟩).length = content.length + ending.length :=
  List.length_append

lemma selects_movedUp (h : Selects text (pre ++ [above]) init last post selection)
    (hlast : post ≠ [] → last.ending = eol) (hnone : post = [] → last.ending = []) (heol : eol ≠ [])
    (hlines : textLines (change.apply text) = movedUp eol pre above init last post)
    (hback : change.selection = ⟨selection.start - above.bytes.length,
      selection.stop - above.bytes.length⟩) :
    Selects (change.apply text) pre init ⟨last.content, eol⟩ (⟨above.content, last.ending⟩ :: post)
      change.selection := by
  have hpos := List.length_pos_iff.mpr heol
  have hordered := h.ordered
  have hfrom := h.from_start
  have hstop := h.to_stop
  have hbytes : last.bytes.length = _ := length_bytes last.content last.ending
  have hbytes' := length_bytes last.content eol
  have hlength : last.ending.length ≤ eol.length ∧ (post = [] → last.ending.length = 0) := by
    by_cases hpost : post = []
    · rw [hnone hpost]
      simp
    · rw [hlast hpost]
      exact ⟨le_rfl, fun hnil => absurd hnil hpost⟩
  rw [render_snoc] at hfrom hstop
  rw [hback]
  refine ⟨hlines, ?_, ?_, ?_, ?_, ?_, ?_⟩
  · dsimp only
    omega
  · dsimp only
    omega
  · intro first hfirst
    have hin := h.in_first first hfirst
    rw [render_snoc] at hin
    dsimp only
    omega
  · intro hinit
    have hin := h.in_only hinit
    have hrender : (render init).length = 0 := by
      rw [hinit]
      rfl
    rw [render_snoc] at hin
    left
    dsimp only
    rcases hin with hin | hpost
    · omega
    · have := hlength.2 hpost
      omega
  · intro hinit
    have hpast := h.past_init hinit
    rw [render_snoc] at hpast
    dsimp only
    omega
  · dsimp only
    omega

lemma Selects.span_up (h : Selects text (pre ++ [above]) init last post selection) :
    (Doc.new text).span selection true = (pre.length, (pre ++ [above] ++ init).length) := by
  rw [Doc.span, h.block]
  simp only [List.length_append, List.length_singleton, if_true, Nat.add_sub_cancel]

lemma keepsContents_up (h : Selects text (pre ++ [above]) init last post selection) :
    KeepsContents (Doc.new text) selection true ↔
      ((Doc.new text).eol = lf → last.content.getLast? ≠ some carriageReturn) ∧
        (last.ending = lf → above.content.getLast? ≠ some carriageReturn) := by
  have hat : LineAt text pre above (init ++ last :: post) := ⟨by rw [h.lines]; simp⟩
  rw [KeepsContents, h.span_up]
  dsimp only
  rw [if_pos rfl, h.lineAt.content, h.lineAt.ending, hat.content]

lemma Uniform.up (h : Selects text (pre ++ [above]) init last post selection)
    (huniform : Uniform (Doc.new text) selection true) :
    (∀ line ∈ above :: init, line.ending = (Doc.new text).eol) ∧
      (post ≠ [] → last.ending = (Doc.new text).eol) := by
  rw [Uniform, h.span_up, lineCount_new, h.lines] at huniform
  dsimp only at huniform
  constructor
  · intro line hline
    obtain ⟨before, after, hsplit⟩ := List.append_of_mem hline
    have hat : LineAt text (pre ++ before) line (after ++ last :: post) := by
      have hjoin := congrArg (· ++ last :: post) hsplit
      constructor
      rw [h.lines, List.append_assoc, List.append_assoc]
      exact congrArg (pre ++ ·) (by simpa using hjoin)
    have hlength := congrArg List.length hsplit
    simp only [List.length_append, List.length_cons] at hlength
    have hending := huniform (pre ++ before).length (by simp; omega)
      (by simp)
    rw [hat.ending] at hending
    apply hending.resolve_right
    simp only [List.length_append, List.length_cons, List.length_nil]
    omega
  · intro hpost
    have hpos := List.length_pos_iff.mpr hpost
    have hending := huniform (pre ++ [above] ++ init).length le_rfl (by simp)
    rw [h.lineAt.ending] at hending
    apply hending.resolve_right
    simp only [List.length_append, List.length_cons, List.length_nil]
    omega

end Up

section Down

lemma selects_movedDown (h : Selects text pre init last (below :: post) selection)
    (hlast : last.ending = eol) (hbelow : post ≠ [] → below.ending = eol)
    (hnone : post = [] → below.ending = []) (heol : eol ≠ [])
    (hcontent : init ≠ [] → post = [] → last.content ≠ [])
    (hlines : textLines (change.apply text) = movedDown eol pre init last below post)
    (hon : change.selection = shifted selection ((below.content.length + eol.length : ℕ) : ℤ)
      (render (movedDown eol pre init last below post)).length) :
    Selects (change.apply text) (pre ++ [⟨below.content, eol⟩]) init ⟨last.content, below.ending⟩
      post change.selection := by
  have hpos := List.length_pos_iff.mpr heol
  have hordered := h.ordered
  have hfrom := h.from_start
  have hstop := h.to_stop
  have hbytes : last.bytes.length = _ := length_bytes last.content last.ending
  have hbytes' := length_bytes last.content below.ending
  have hbytes'' := length_bytes below.content eol
  rw [hlast] at hbytes
  have hlimit : (render (movedDown eol pre init last below post)).length =
      (render pre).length + (below.content.length + eol.length) + (render init).length +
        (last.content.length + below.ending.length) + (render post).length := by
    simp only [movedDown, render_append, render_cons, Line.bytes, List.length_append]
    omega
  have hlength : post = [] ∧ below.ending.length = 0 ∧ (render post).length = 0 ∨
      post ≠ [] ∧ below.ending.length = eol.length := by
    by_cases hpost : post = []
    · refine .inl ⟨hpost, ?_, ?_⟩
      · rw [hnone hpost, List.length_nil]
      · rw [hpost]
        rfl
    · exact .inr ⟨hpost, by rw [hbelow hpost]⟩
  rw [shifted_on, hlimit] at hon
  rw [hon]
  refine ⟨by rw [hlines, movedDown]; simp, ?_, ?_, ?_, ?_, ?_, ?_⟩
  · dsimp only
    omega
  · rw [render_snoc]
    dsimp only
    omega
  · intro first hfirst
    have hin := h.in_first first hfirst
    rw [render_snoc]
    dsimp only
    omega
  · intro hinit
    have hin := (h.in_only hinit).resolve_right (List.cons_ne_nil _ _)
    rw [render_snoc]
    dsimp only
    rcases hlength with ⟨hnil, -⟩ | ⟨-, hlength⟩
    · exact .inr hnil
    · left
      omega
  · intro hinit
    have hpast := h.past_init hinit
    rw [render_snoc]
    dsimp only
    rcases hlength with ⟨hnil, hlength⟩ | ⟨-, hlength⟩
    · have := List.length_pos_iff.mpr (hcontent hinit hnil)
      omega
    · omega
  · rw [render_snoc]
    dsimp only
    omega

lemma Selects.lineAt_below (h : Selects text pre init last (below :: post) selection) :
    LineAt text (pre ++ init ++ [last]) below post :=
  ⟨by rw [h.lines]; simp⟩

lemma Selects.span_down (h : Selects text pre init last (below :: post) selection) :
    (Doc.new text).span selection false = (pre.length, (pre ++ init ++ [last]).length) := by
  rw [Doc.span, h.block]
  simp only [List.length_append, List.length_singleton, Bool.false_eq_true, if_false]

lemma keepsContents_down (h : Selects text pre init last (below :: post) selection) :
    KeepsContents (Doc.new text) selection false ↔
      ((Doc.new text).eol = lf → below.content.getLast? ≠ some carriageReturn) ∧
        (below.ending = lf → last.content.getLast? ≠ some carriageReturn) := by
  rw [KeepsContents, h.span_down, h.block, ← List.length_append]
  dsimp only
  rw [if_neg Bool.false_ne_true, h.lineAt_below.content, h.lineAt_below.ending, h.lineAt.content]

lemma Uniform.down (h : Selects text pre init last (below :: post) selection)
    (huniform : Uniform (Doc.new text) selection false) :
    last.ending = (Doc.new text).eol ∧ (post ≠ [] → below.ending = (Doc.new text).eol) := by
  rw [Uniform, h.span_down, lineCount_new, h.lines] at huniform
  dsimp only at huniform
  constructor
  · have hending := huniform (pre ++ init).length (by simp) (by simp)
    rw [h.lineAt.ending] at hending
    apply hending.resolve_right
    simp only [List.length_append, List.length_cons]
    omega
  · intro hpost
    have hpos := List.length_pos_iff.mpr hpost
    have hending := huniform (pre ++ init ++ [last]).length le_rfl (by simp)
    rw [h.lineAt_below.ending] at hending
    apply hending.resolve_right
    simp only [List.length_append, List.length_cons, List.length_nil]
    omega

lemma cutOff_down (h : Selects text pre init last (below :: post) selection) :
    CutOff (Doc.new text) selection false ↔ post = [] ∧ init ≠ [] ∧ last.content = [] := by
  have hlength : (pre ++ (init ++ last :: below :: post)).length =
      pre.length + init.length + 2 + post.length := by
    simp only [List.length_append, List.length_cons]
    omega
  have hend : pre.length + init.length + 2 = pre.length + init.length + 2 + post.length ↔
      post = [] := by
    rw [← List.length_eq_zero_iff]
    omega
  have hseveral : pre.length < pre.length + init.length ↔ init ≠ [] := by
    rw [← List.length_pos_iff]
    omega
  have hcontent : (Doc.new text).line (pre.length + init.length) = last.content := by
    rw [← List.length_append, h.lineAt.content]
  rw [CutOff, h.block, lineCount_new, h.lines, hlength]
  dsimp only
  rw [hend, hseveral, hcontent, and_iff_right rfl]

end Down

section Reversal

lemma exists_up (hordered : selection.start ≤ selection.stop) (hstop : selection.stop ≤ text.length)
    (hmove : moveLines (Doc.new text) selection reversed true = some change) :
    ∃ pre above init last post, Selects text (pre ++ [above]) init last post selection ∧
      Moved text (movedUp (Doc.new text).eol pre above init last post) selection
        (-(above.content.length + (Doc.new text).eol.length)) reversed change := by
  obtain ⟨front, init, last, post, hselects⟩ := exists_selects hordered hstop
  rcases List.eq_nil_or_concat' front with rfl | ⟨pre, above, rfl⟩
  · rw [moveLines, hselects.block] at hmove
    simp at hmove
  · obtain ⟨moved, hmoved, hchange⟩ := @move_up _ _ _ _ _ _ _ reversed hselects
    obtain rfl := Option.some.inj (hmoved.symm.trans hmove)
    exact ⟨pre, above, init, last, post, hselects, hchange⟩

lemma exists_down (hordered : selection.start ≤ selection.stop)
    (hstop : selection.stop ≤ text.length)
    (hmove : moveLines (Doc.new text) selection reversed false = some change) :
    ∃ pre init last below post, Selects text pre init last (below :: post) selection ∧
      Moved text (movedDown (Doc.new text).eol pre init last below post) selection
        (below.content.length + (Doc.new text).eol.length) reversed change := by
  obtain ⟨pre, init, last, rest, hselects⟩ := exists_selects hordered hstop
  cases rest with
  | nil =>
      have hend : pre.length + init.length + 1 ≥ (Doc.new text).lineCount := by
        rw [lineCount_new, hselects.lines, List.length_append, List.length_append,
          List.length_singleton, Nat.add_assoc]
      rw [moveLines, hselects.block] at hmove
      simp [hend] at hmove
  | cons below post =>
      obtain ⟨moved, hmoved, hchange⟩ := @move_down _ _ _ _ _ _ _ reversed hselects
      obtain rfl := Option.some.inj (hmoved.symm.trans hmove)
      exact ⟨pre, init, last, below, post, hselects, hchange⟩

lemma count_movedUp (heol : eol.count lineFeed = 1) (habove : above.ending.count lineFeed = 1) :
    (render (movedUp eol pre above init last post)).count lineFeed =
      (render (pre ++ [above] ++ (init ++ last :: post))).count lineFeed := by
  simp only [movedUp, render_append, render_cons, Line.bytes, List.count_append, heol, habove]
  simp only [render, List.flatMap_nil, List.count_nil]
  omega

lemma count_movedDown (heol : eol.count lineFeed = 1) (hlast : last.ending.count lineFeed = 1) :
    (render (movedDown eol pre init last below post)).count lineFeed =
      (render (pre ++ (init ++ last :: below :: post))).count lineFeed := by
  simp only [movedDown, render_append, render_cons, Line.bytes, List.count_append, heol, hlast]
  omega

lemma lineCount_moved (hordered : selection.start ≤ selection.stop)
    (hstop : selection.stop ≤ text.length) {up : Bool}
    (hmove : moveLines (Doc.new text) selection reversed up = some change) :
    (Doc.new (change.apply text)).lineCount = (Doc.new text).lineCount := by
  rw [lineCount_eq_count, lineCount_eq_count]
  congr 1
  cases up with
  | true =>
      obtain ⟨pre, above, init, last, post, hselects, hchange⟩ := exists_up hordered hstop hmove
      have hended := hselects.lineAt.pre_ended above (by simp)
      rw [hchange.applied, count_movedUp (count_eol text) hended.count_ending, ← hselects.lines,
        render_textLines]
  | false =>
      obtain ⟨pre, init, last, below, post, hselects, hchange⟩ := exists_down hordered hstop hmove
      have hended := hselects.lineAt_below.pre_ended last (by simp)
      rw [hchange.applied, count_movedDown (count_eol text) hended.count_ending, ← hselects.lines,
        render_textLines]

lemma lines_moved (hordered : selection.start ≤ selection.stop)
    (hstop : selection.stop ≤ text.length) {up : Bool}
    (hmove : moveLines (Doc.new text) selection reversed up = some change)
    (hkeeps : KeepsContents (Doc.new text) selection up) :
    let block := (Doc.new text).block selection
    (Doc.new (change.apply text)).lines = blockMoved (Doc.new text).lines block.1 block.2 up ∧
      (Doc.new (change.apply text)).lines.Perm (Doc.new text).lines := by
  dsimp only
  rw [lines_new, lines_new]
  cases up with
  | true =>
      obtain ⟨pre, above, init, last, post, hselects, hchange⟩ := exists_up hordered hstop hmove
      have hat : LineAt text pre above (init ++ last :: post) := ⟨by rw [hselects.lines]; simp⟩
      obtain ⟨hlast, habove⟩ := (keepsContents_up hselects).mp hkeeps
      rw [hchange.applied, textLines_render (laid_movedUp hat hlast habove), hselects.block,
        hat.lines]
      constructor
      · rw [contents_movedUp, List.length_append, List.length_singleton]
      · have hperm := blockMoved_perm (pre.map Line.content) above.content
          ((init ++ [last]).map Line.content) (post.map Line.content)
        simpa [movedUp] using hperm
  | false =>
      obtain ⟨pre, init, last, below, post, hselects, hchange⟩ := exists_down hordered hstop hmove
      obtain ⟨hbelow, hlast⟩ := (keepsContents_down hselects).mp hkeeps
      rw [hchange.applied, textLines_render (laid_movedDown hselects.lineAt_below hbelow hlast),
        hselects.block, hselects.lines]
      constructor
      · rw [contents_movedDown]
      · have hperm := blockMoved_perm (pre.map Line.content) below.content
          ((init ++ [last]).map Line.content) (post.map Line.content)
        simpa [movedDown] using hperm.symm

lemma eol_ne_nil (text : List Octet) : (Doc.new text).eol ≠ [] := by
  intro hnil
  have hcount := count_eol text
  rw [hnil] at hcount
  cases hcount

lemma eol_moved {rest other : List Line} {text' : List Octet} (hlines : textLines text = pre ++ rest)
    (hlines' : textLines text' = pre ++ other) (hlength : 2 ≤ (pre ++ rest).length)
    (hlength' : 2 ≤ (pre ++ other).length)
    (hfirst : pre = [] → ∃ first ∈ other.head?, first.ending = (Doc.new text).eol) :
    (Doc.new text').eol = (Doc.new text).eol := by
  cases pre with
  | nil =>
      obtain ⟨first, hmem, hending⟩ := hfirst rfl
      have heol := @eol_head text' first (by rw [hlines']; exact hlength') (by rwa [hlines'])
      rw [heol.1, hending]
  | cons first pre =>
      have heol := @eol_head text first (by rw [hlines]; exact hlength) (by rw [hlines]; rfl)
      have heol' := @eol_head text' first (by rw [hlines']; exact hlength') (by rw [hlines']; rfl)
      rw [heol.1, heol'.1]

lemma moved_back_down (hordered : selection.start ≤ selection.stop)
    (hstop : selection.stop ≤ text.length)
    (hmove : moveLines (Doc.new text) selection reversed true = some change)
    (hkeeps : KeepsContents (Doc.new text) selection true)
    (huniform : Uniform (Doc.new text) selection true) :
    ∃ back, moveLines (Doc.new (change.apply text)) change.selection change.reversed false =
      some back ∧ back.apply (change.apply text) = text := by
  obtain ⟨pre, above, init, last, post, hselects, hchange⟩ := exists_up hordered hstop hmove
  have hat : LineAt text pre above (init ++ last :: post) := ⟨by rw [hselects.lines]; simp⟩
  obtain ⟨hlast, habove⟩ := (keepsContents_up hselects).mp hkeeps
  obtain ⟨hending, hbreak⟩ := huniform.up hselects
  have hlines : textLines (change.apply text) =
      movedUp (Doc.new text).eol pre above init last post := by
    rw [hchange.applied, textLines_render (laid_movedUp hat hlast habove)]
  have hbytes : above.bytes.length = above.content.length + (Doc.new text).eol.length := by
    rw [Line.bytes, List.length_append, hending above List.mem_cons_self]
  have hlimit : (render (movedUp (Doc.new text).eol pre above init last post)).length =
      text.length := by
    conv_rhs => rw [← render_textLines text, hat.lines]
    simp only [movedUp, render_append, render_cons, Line.bytes, List.length_append,
      hending above List.mem_cons_self]
    omega
  have hback : change.selection = ⟨selection.start - above.bytes.length,
      selection.stop - above.bytes.length⟩ := by
    have hfrom := hselects.from_start
    rw [render_snoc] at hfrom
    rw [hchange.selection, hlimit, ← Int.natCast_add, ← hbytes]
    exact shifted_back (by omega) (by omega) (by omega) (by omega)
  have hselects' := selects_movedUp hselects hbreak (fun hpost => (hselects.lineAt.last hpost).2)
    (eol_ne_nil text) hlines hback
  obtain ⟨back, hmoved, hdown⟩ := @move_down _ _ _ _ _ _ _ change.reversed hselects'
  refine ⟨back, hmoved, ?_⟩
  have heol : (Doc.new (change.apply text)).eol = (Doc.new text).eol := by
    refine eol_moved hat.lines hlines (by simp; omega) (by simp; omega) fun _ => ?_
    cases init with
    | nil => exact ⟨_, rfl, rfl⟩
    | cons first init => exact ⟨first, rfl, hending first (by simp)⟩
  rw [hdown.applied, heol]
  conv_rhs => rw [← render_textLines text, hat.lines]
  rw [movedDown, ← hending above List.mem_cons_self]

lemma moved_back_up (hordered : selection.start ≤ selection.stop)
    (hstop : selection.stop ≤ text.length)
    (hmove : moveLines (Doc.new text) selection reversed false = some change)
    (hkeeps : KeepsContents (Doc.new text) selection false)
    (huniform : Uniform (Doc.new text) selection false)
    (hcut : ¬CutOff (Doc.new text) selection false) :
    ∃ back, moveLines (Doc.new (change.apply text)) change.selection change.reversed true =
      some back ∧ back.apply (change.apply text) = text := by
  obtain ⟨pre, init, last, below, post, hselects, hchange⟩ := exists_down hordered hstop hmove
  have hbelow := hselects.lineAt_below
  obtain ⟨hkept, hlast⟩ := (keepsContents_down hselects).mp hkeeps
  obtain ⟨hending, hbreak⟩ := huniform.down hselects
  rw [cutOff_down hselects] at hcut
  have hlines : textLines (change.apply text) =
      movedDown (Doc.new text).eol pre init last below post := by
    rw [hchange.applied, textLines_render (laid_movedDown hbelow hkept hlast)]
  have hselects' := selects_movedDown hselects hending hbreak (fun hpost => (hbelow.last hpost).2)
    (eol_ne_nil text) (fun hinit hpost hnil => hcut ⟨hpost, hinit, hnil⟩) hlines
    (by rw [hchange.selection, Int.natCast_add])
  obtain ⟨back, hmoved, hup⟩ := @move_up _ _ _ _ _ _ _ change.reversed hselects'
  refine ⟨back, hmoved, ?_⟩
  have heol : (Doc.new (change.apply text)).eol = (Doc.new text).eol :=
    eol_moved hselects.lines hlines (by simp; omega) (by simp; omega) fun _ => ⟨_, rfl, rfl⟩
  rw [hup.applied, heol]
  conv_rhs => rw [← render_textLines text, hselects.lines]
  rw [movedUp, ← hending]

end Reversal

end DevCommandCenter.FileView.LineCommands
