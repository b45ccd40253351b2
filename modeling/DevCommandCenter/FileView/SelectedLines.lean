import DevCommandCenter.FileView.TextLines

/-! Which lines of a text a selection takes. -/

namespace DevCommandCenter.FileView.LineCommands

open Library

variable {pre post init lines : List Line} {line : Line} {text : List Octet} {offset : ℕ}

lemma Line.Ended.bytes_ne_nil (h : line.Ended) : line.bytes ≠ [] := by
  intro hnil
  have hending := (List.append_eq_nil_iff.mp hnil).2
  rcases h.2 with hcrlf | ⟨hlf, -⟩
  · rw [hcrlf] at hending
    cases hending
  · rw [hlf] at hending
    cases hending

lemma mem_startsFrom {start : ℕ} (h : start ∈ startsFrom offset lines) :
    offset ≤ start ∧ ((∀ line ∈ lines, line.Ended) → start < offset + (render lines).length) := by
  induction lines generalizing offset with
  | nil => cases h
  | cons line rest ih =>
      simp only [render_cons, List.length_append, List.mem_cons, forall_eq_or_imp]
      rcases List.mem_cons.mp h with rfl | h
      · refine ⟨le_rfl, fun hended => ?_⟩
        have := List.length_pos_iff.mpr hended.1.bytes_ne_nil
        omega
      · obtain ⟨hle, hlt⟩ := ih h
        refine ⟨by omega, fun hended => ?_⟩
        have := hlt hended.2
        omega

namespace LineAt

variable (h : LineAt text pre line post)

include h

lemma pre_ended : ∀ line ∈ pre, line.Ended := by
  have hlaid := laid_textLines text
  rw [h.lines, laid_append (List.cons_ne_nil _ _)] at hlaid
  exact hlaid.1

lemma lineOf (hfrom : (render pre).length ≤ offset)
    (hto : offset < (render pre).length + line.bytes.length ∨ post = []) :
    (Doc.new text).lineOf offset = pre.length := by
  have hbefore : ∀ start ∈ startsFrom 0 pre, start < (render pre).length := by
    intro start hstart
    have := (mem_startsFrom hstart).2 h.pre_ended
    omega
  have hafter : ∀ start ∈ startsFrom ((render pre).length + line.bytes.length) post,
      offset < start := by
    intro start hstart
    rcases hto with hto | rfl
    · have := (mem_startsFrom hstart).1
      omega
    · cases hstart
  rw [Doc.lineOf, h.starts]
  split
  · rename_i hmem
    have heq : offset = (render pre).length := by
      simp only [List.mem_append, List.mem_cons] at hmem
      rcases hmem with hmem | heq | hmem
      · exact absurd (hbefore offset hmem) (by omega)
      · exact heq
      · exact absurd (hafter offset hmem) (lt_irrefl _)
    have hnotMem : offset ∉ startsFrom 0 pre := fun hmem => by
      have := hbefore offset hmem
      omega
    rw [List.idxOf_append_of_notMem hnotMem, heq, List.idxOf_cons_self, length_startsFrom]
    rfl
  · rename_i hnot
    have hne : (render pre).length ≠ offset := by
      rintro rfl
      exact hnot (by simp)
    have hall : (startsFrom 0 pre).countP (· < offset) = pre.length := by
      rw [List.countP_eq_length.mpr, length_startsFrom]
      intro start hstart
      have := hbefore start hstart
      exact decide_eq_true (by omega)
    have hnone : (startsFrom ((render pre).length + line.bytes.length) post).countP (· < offset) =
        0 := by
      apply List.countP_eq_zero.mpr
      intro start hstart hlt
      have := hafter start hstart
      have := of_decide_eq_true hlt
      omega
    have hhere : decide ((render pre).length < offset) = true := decide_eq_true (by omega)
    rw [List.countP_append, List.countP_cons, if_pos hhere, hall, hnone]
    omega

end LineAt

lemma exists_lineAt (text : List Octet) {index : ℕ} (h : index < (textLines text).length) :
    ∃ pre line post, LineAt text pre line post ∧ pre.length = index := by
  refine ⟨(textLines text).take index, (textLines text)[index], (textLines text).drop (index + 1),
    ⟨?_⟩, ?_⟩
  · rw [List.getElem_cons_drop, List.take_append_drop]
  · rw [List.length_take]
    omega

lemma lines_new (text : List Octet) :
    (Doc.new text).lines = (textLines text).map Line.content := by
  apply List.ext_getElem
  · simp [Doc.lines, lineCount_new]
  · intro index hindex hindex'
    rw [List.length_map] at hindex'
    obtain ⟨pre, line, post, hat, rfl⟩ := exists_lineAt text hindex'
    simp only [Doc.lines, List.getElem_map, List.getElem_range, hat.content, hat.lines]
    simp

lemma eol_of_two {first second : Line} {rest : List Line}
    (h : textLines text = first :: second :: rest) : (Doc.new text).eol = first.ending := by
  have hat : LineAt text [] first (second :: rest) := ⟨h⟩
  have hended := hat.ended (List.cons_ne_nil _ _)
  have htext := hat.text_eq
  simp only [render, List.flatMap_nil, List.nil_append] at htext
  rcases hended.2 with hcrlf | ⟨hlf, hreturn⟩
  · have hmem : lineFeed ∈ text := by
      rw [htext, hcrlf]
      simp [crlf]
    have hplace : text.idxOf lineFeed = first.content.length + 1 := by
      rw [htext, List.idxOf_append_of_notMem hended.1, hcrlf]
      rfl
    have hbyte := hat.byte_at first.content.length
    rw [List.getElem?_append_right le_rfl, Nat.sub_self, hcrlf, render, List.flatMap_nil,
      List.length_nil, Nat.zero_add] at hbyte
    rw [Doc.eol, new_text, if_pos hmem, hplace, hcrlf]
    dsimp only
    rw [if_pos ⟨Nat.succ_pos _, hbyte⟩]
  · have hmem : lineFeed ∈ text := by
      rw [htext, hlf]
      simp [lf]
    have hplace : text.idxOf lineFeed = first.content.length := by
      rw [htext, List.idxOf_append_of_notMem hended.1, hlf]
      rfl
    rw [Doc.eol, new_text, if_pos hmem, hplace, hlf]
    dsimp only
    rw [if_neg]
    rintro ⟨hpos, hbyte⟩
    rw [htext, List.getElem?_append_left (by omega), ← List.getLast?_eq_getElem?] at hbyte
    exact hreturn hbyte

section Block

structure Selects (text : List Octet) (pre init : List Line) (last : Line) (post : List Line)
    (selection : Range) : Prop where
  lines : textLines text = pre ++ (init ++ last :: post)
  ordered : selection.start ≤ selection.stop
  from_start : (render pre).length ≤ selection.start
  in_first : ∀ first ∈ init.head?, selection.start < (render pre).length + first.bytes.length
  in_only : init = [] → selection.start < (render pre).length + last.bytes.length ∨ post = []
  past_init : init ≠ [] → (render pre).length + (render init).length < selection.stop
  to_stop : selection.stop ≤ (render pre).length + (render init).length + last.bytes.length

variable {last : Line} {selection : Range}

lemma Selects.lineAt (h : Selects text pre init last post selection) :
    LineAt text (pre ++ init) last post :=
  ⟨by rw [h.lines, List.append_assoc]⟩

lemma Selects.lineOf_start (h : Selects text pre init last post selection) :
    (Doc.new text).lineOf selection.start = pre.length := by
  cases init with
  | nil =>
      have hat : LineAt text pre last post := ⟨h.lines⟩
      exact hat.lineOf h.from_start (h.in_only rfl)
  | cons first init =>
      have hat : LineAt text pre first (init ++ last :: post) := ⟨h.lines⟩
      exact hat.lineOf h.from_start (.inl (h.in_first first rfl))

lemma Selects.block (h : Selects text pre init last post selection) :
    (Doc.new text).block selection = (pre.length, pre.length + init.length) := by
  have hlast := h.lineAt
  have hstop := h.to_stop
  have hrender : (render (pre ++ init)).length = (render pre).length + (render init).length := by
    rw [render_append, List.length_append]
  have hpast : (render (pre ++ init)).length ≤ selection.stop := by
    by_cases hinit : init = []
    · subst hinit
      have := h.from_start
      have := h.ordered
      have hnil : (render ([] : List Line)).length = 0 := rfl
      omega
    · have := h.past_init hinit
      omega
  rw [Doc.block, h.lineOf_start]
  by_cases hwithin : selection.stop < (render (pre ++ init)).length + last.bytes.length ∨ post = []
  · rw [hlast.lineOf hpast hwithin, if_neg, List.length_append]
    rintro ⟨hlt, hstart⟩
    rw [hlast.start] at hstart
    have hinit : init ≠ [] := by
      rintro rfl
      simp at hlt
    have := h.past_init hinit
    omega
  · -- the selection ends where the line behind it starts
    simp only [not_or, not_lt] at hwithin
    obtain ⟨hge, hpost⟩ := hwithin
    cases post with
    | nil => exact absurd rfl hpost
    | cons next rest =>
        have hnext : LineAt text (pre ++ init ++ [last]) next rest :=
          ⟨by rw [h.lines]; simp⟩
        have hplace : (render (pre ++ init ++ [last])).length = selection.stop := by
          rw [render_append, List.length_append, render_cons, List.length_append]
          simp only [render, List.flatMap_nil, List.length_nil] at hge hrender hstop ⊢
          omega
        have hended : next.bytes ≠ [] ∨ rest = [] := by
          by_cases hrest : rest = []
          · exact .inr hrest
          · exact .inl (hnext.ended hrest).bytes_ne_nil
        have hlineOf : (Doc.new text).lineOf selection.stop = (pre ++ init ++ [last]).length := by
          apply hnext.lineOf hplace.le
          rcases hended with hne | hrest
          · have := List.length_pos_iff.mpr hne
            exact .inl (by omega)
          · exact .inr hrest
        rw [hlineOf, hnext.start, if_pos]
        · simp
        · refine ⟨?_, hplace.symm⟩
          simp only [List.length_append, List.length_singleton]
          omega

lemma exists_split {lines : List Line} {offset : ℕ} (hne : lines ≠ [])
    (h : offset ≤ (render lines).length) : ∃ pre line post, lines = pre ++ line :: post ∧
      (render pre).length ≤ offset ∧
      (offset < (render pre).length + line.bytes.length ∨ post = []) := by
  induction lines generalizing offset with
  | nil => exact absurd rfl hne
  | cons line rest ih =>
      by_cases hhere : offset < line.bytes.length ∨ rest = []
      · exact ⟨[], line, rest, rfl, Nat.zero_le _, by simpa [render] using hhere⟩
      · simp only [not_or, not_lt] at hhere
        rw [render_cons, List.length_append] at h
        obtain ⟨pre, next, post, rfl, hfrom, hto⟩ :=
          @ih (offset - line.bytes.length) hhere.2 (by omega)
        refine ⟨line :: pre, next, post, rfl, ?_, ?_⟩
        · rw [render_cons, List.length_append]
          omega
        · rw [render_cons, List.length_append]
          rcases hto with hto | hto
          · exact .inl (by omega)
          · exact .inr hto

lemma exists_selects {text : List Octet} {selection : Range}
    (hordered : selection.start ≤ selection.stop) (hstop : selection.stop ≤ text.length) :
    ∃ pre init last post, Selects text pre init last post selection := by
  have hrender := render_textLines text
  obtain ⟨pre, first, rest, hlines, hfrom, hto⟩ := exists_split (laid_textLines text).ne_nil
    (show selection.start ≤ (render (textLines text)).length by rw [hrender]; omega)
  have hlength := congrArg List.length hrender
  rw [hlines, render_append, List.length_append] at hlength
  obtain ⟨init, last, post, hblock, hfrom', hto'⟩ :=
    @exists_split (first :: rest) (selection.stop - (render pre).length) (List.cons_ne_nil _ _)
      (by omega)
  have hended : ∀ line ∈ init, line.Ended := by
    have hlaid := laid_textLines text
    rw [hlines, hblock, ← List.append_assoc, laid_append (List.cons_ne_nil _ _)] at hlaid
    exact fun line hline => hlaid.1 line (List.mem_append_right _ hline)
  have hfirst : init ≠ [] → selection.start < (render pre).length + first.bytes.length := by
    intro hinit
    rcases hto with hto | rfl
    · exact hto
    · cases init with
      | nil => exact absurd rfl hinit
      | cons line init => simp at hblock
  have hhead : ∀ line ∈ init.head?, line = first := by
    intro line hline
    cases init with
    | nil => cases hline
    | cons head init =>
        rw [List.cons_append, List.cons.injEq] at hblock
        rw [hblock.1]
        exact (Option.some.inj hline).symm
  by_cases hexcluded : init ≠ [] ∧ selection.stop = (render pre).length + (render init).length
  · obtain ⟨hinit, hat⟩ := hexcluded
    obtain ⟨shorter, final, rfl⟩ := (List.eq_nil_or_concat' init).resolve_left hinit
    have hbytes := List.length_pos_iff.mpr (hended final (by simp)).bytes_ne_nil
    have hsplit : (render (shorter ++ [final])).length =
        (render shorter).length + final.bytes.length := by
      rw [render_append, List.length_append]
      simp [render]
    refine ⟨pre, shorter, final, last :: post, by rw [hlines, hblock]; simp, hordered, hfrom, ?_, ?_,
      ?_, ?_⟩
    · intro line hline
      rw [hhead line (by
        cases shorter with
        | nil => cases hline
        | cons head shorter => exact hline)]
      exact hfirst hinit
    · rintro rfl
      rw [hhead final rfl]
      exact .inl (hfirst hinit)
    · intro _
      omega
    · omega
  · refine ⟨pre, init, last, post, by rw [hlines, hblock], hordered, hfrom, ?_, ?_, ?_, ?_⟩
    · intro line hline
      rw [hhead line hline]
      exact hfirst (by rintro rfl; cases hline)
    · rintro rfl
      obtain ⟨rfl, rfl⟩ := List.cons.inj hblock
      exact hto
    · intro hinit
      have : selection.stop ≠ (render pre).length + (render init).length :=
        fun hat => hexcluded ⟨hinit, hat⟩
      omega
    · have hblockLength := congrArg (fun lines => (render lines).length) hblock
      simp only [render_append, render_cons last, List.length_append] at hblockLength
      rcases hto' with hto' | rfl
      · omega
      · simp only [render, List.flatMap_nil, List.length_nil] at hblockLength hlength ⊢
        omega

lemma between_split (before middle after : List Octet) :
    between (before ++ (middle ++ after)) before.length (before.length + middle.length) = middle := by
  simp [between]

lemma apply_single (range : Range) (replacement text : List Octet) (selection : Range)
    (reversed : Bool) : (Change.mk [⟨range, replacement⟩] selection reversed).apply text =
      text.take range.start ++ (replacement ++ text.drop range.stop) := by
  simp [Change.apply, Change.splice, between]

end Block

end DevCommandCenter.FileView.LineCommands
