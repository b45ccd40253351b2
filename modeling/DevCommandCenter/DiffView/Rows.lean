import DevCommandCenter.DiffView.Gaps

/-! What the rows of a diff list and what they hide: each line once, in one of the two ways. -/

namespace DevCommandCenter.DiffView

variable {diff : FileDiff} {line : ℕ}

def Row.line? : Row → Option ℕ
  | .line index => some index
  | _ => none

def listed (rows : List Row) : List ℕ :=
  rows.filterMap Row.line?

def FileDiff.hiddenRange (diff : FileDiff) : Row → List ℕ
  | .separator number _ _ =>
      match diff.gaps[number]? with
      | some gap => List.range' (gap.start + gap.top) (gap.stop - gap.bottom - (gap.start + gap.top))
      | none => []
  | _ => []

def FileDiff.holders (diff : FileDiff) (line : ℕ) (rows : List Row) : ℕ :=
  rows.countP fun row => line ∈ diff.hiddenRange row

structure Sound (diff : FileDiff) : Prop where
  placed : Placed diff.lines.length 0 diff.gaps
  quiet : ∀ gap ∈ diff.gaps, ∀ line, gap.start ≤ line → line < gap.stop →
    ¬NearChange diff.lines line
  whole : diff.skipped = []

lemma sound_ofTexts (fromLines : List Char → List Char → List LineChange)
    (original modified : List Char) : Sound (FileDiff.ofTexts fromLines original modified) where
  placed := placed_fold _
  quiet := fun _ hgap _ hfrom hto => quiet_fold hgap hfrom hto
  whole := rfl

lemma Sound.expand (h : Sound diff) (number : ℕ) (all : Bool) : Sound (diff.expand number all) where
  placed := placed_modify number all h.placed
  quiet := by
    intro gap hgap line hfrom hto
    obtain ⟨before, hbefore, rfl | rfl⟩ := exists_of_mem_modify hgap
    · exact h.quiet gap hbefore line hfrom hto
    · rw [expand_start] at hfrom
      rw [expand_stop] at hto
      exact h.quiet before hbefore line hfrom hto
  whole := h.whole

def Hidden (gaps : List Gap) (line : ℕ) : Prop :=
  ∃ gap ∈ gaps, gap.Hides line

instance (gaps : List Gap) (line : ℕ) : Decidable (Hidden gaps line) :=
  inferInstanceAs (Decidable (∃ _ ∈ _, _))

section GapRows

variable {gap : Gap} {gaps : List Gap} {number start count : ℕ}

lemma hidden_cons : Hidden (gap :: gaps) line ↔ gap.Hides line ∨ Hidden gaps line := by
  simp only [Hidden, List.mem_cons, exists_eq_or_imp]

lemma not_hidden_of_lt (h : Placed count start gaps) (hlt : line < start) : ¬Hidden gaps line := by
  rintro ⟨gap, hgap, hfrom, -⟩
  have := h.le hgap
  omega

lemma listed_append (rows more : List Row) : listed (rows ++ more) = listed rows ++ listed more :=
  List.filterMap_append

lemma listed_lines (lines : List ℕ) : listed (lines.map Row.line) = lines := by
  induction lines with
  | nil => rfl
  | cons line lines ih => exact congrArg (line :: ·) ih

lemma range'_split {first middle last : ℕ} (h : first ≤ middle) (h' : middle ≤ last) :
    List.range' first (last - first) =
      List.range' first (middle - first) ++ List.range' middle (last - middle) := by
  have hsplit := @List.range'_append_1 first (middle - first) (last - middle)
  rw [Nat.add_sub_cancel' h, show middle - first + (last - middle) = last - first by omega] at hsplit
  exact hsplit.symm

lemma listed_gapRows (h : gap.Fits start count) : listed (gapRows gap number) =
    (List.range' gap.start (gap.stop - gap.start)).filter fun line => ¬gap.Hides line := by
  have hopened := h.opened
  have hnonempty := h.nonempty
  have hbottom : min gap.bottom (gap.stop - gap.start - gap.top) = gap.bottom := by omega
  have hseparator : listed (if gap.hidden > 0 then
      [.separator number gap.hidden gap.place] else []) = [] := by
    split <;> rfl
  rw [gapRows, hbottom]
  simp only [listed_append, listed_lines, hseparator, List.append_nil]
  have htop : gap.start + gap.top ≤ gap.stop - gap.bottom := by omega
  rw [range'_split (Nat.le_add_right gap.start gap.top) (htop.trans (Nat.sub_le _ _)),
    range'_split htop (Nat.sub_le _ _)]
  simp only [List.filter_append]
  have hfirst : (List.range' gap.start (gap.start + gap.top - gap.start)).filter
      (fun line => ¬gap.Hides line) = List.range' gap.start gap.top := by
    rw [Nat.add_sub_cancel_left, List.filter_eq_self]
    intro line hline
    rw [List.mem_range'_1] at hline
    apply decide_eq_true
    rintro ⟨hfrom, hto⟩
    omega
  have hhidden : (List.range' (gap.start + gap.top)
      (gap.stop - gap.bottom - (gap.start + gap.top))).filter (fun line => ¬gap.Hides line) = [] := by
    rw [List.filter_eq_nil_iff]
    intro line hline
    rw [List.mem_range'_1] at hline
    intro hshown
    exact of_decide_eq_true hshown ⟨by omega, by omega⟩
  have hrest : (List.range' (gap.stop - gap.bottom) (gap.stop - (gap.stop - gap.bottom))).filter
      (fun line => ¬gap.Hides line) = List.range' (gap.stop - gap.bottom) gap.bottom := by
    rw [show gap.stop - (gap.stop - gap.bottom) = gap.bottom by omega, List.filter_eq_self]
    intro line hline
    rw [List.mem_range'_1] at hline
    apply decide_eq_true
    rintro ⟨hfrom, hto⟩
    omega
  rw [hfirst, hhidden, hrest, List.nil_append]

lemma holders_append (rows more : List Row) :
    diff.holders line (rows ++ more) = diff.holders line rows + diff.holders line more :=
  List.countP_append

lemma holders_lines (lines : List ℕ) : diff.holders line (lines.map Row.line) = 0 := by
  apply List.countP_eq_zero.mpr
  intro row hrow
  obtain ⟨index, -, rfl⟩ := List.mem_map.mp hrow
  simp [FileDiff.hiddenRange]

lemma mem_hiddenRange (hgap : diff.gaps[number]? = some gap) (hidden : ℕ) (place : GapPlace) :
    line ∈ diff.hiddenRange (.separator number hidden place) ↔ gap.Hides line := by
  simp only [FileDiff.hiddenRange, hgap, List.mem_range'_1, Gap.Hides]
  omega

lemma holders_gapRows (h : gap.Fits start count) (hgap : diff.gaps[number]? = some gap) :
    diff.holders line (gapRows gap number) = if gap.Hides line then 1 else 0 := by
  have hopened := h.opened
  have hseparator : diff.holders line (if gap.hidden > 0 then
      [.separator number gap.hidden gap.place] else []) = if gap.Hides line then 1 else 0 := by
    by_cases hhidden : gap.hidden > 0
    · rw [if_pos hhidden, FileDiff.holders, List.countP_singleton]
      simp only [mem_hiddenRange hgap, decide_eq_true_eq]
    · rw [if_neg hhidden, if_neg]
      · rfl
      · rw [hidden_eq] at hhidden
        rw [Gap.Hides]
        omega
  rw [gapRows, holders_append, holders_append, holders_lines, holders_lines, hseparator]
  omega

end GapRows

section Run

variable {gaps : List (Gap × ℕ)} {turns index : ℕ}

structure Covers (diff : FileDiff) (index : ℕ) (gaps : List (Gap × ℕ)) (rows : List Row) : Prop where
  listed : listed rows = (List.range' index (diff.lines.length - index)).filter fun line =>
    ¬Hidden (gaps.map Prod.fst) line
  held : ∀ line, diff.holders line rows = gaps.countP fun gap => gap.1.Hides line
  separators : ∀ number hidden place, Row.separator number hidden place ∈ rows →
    hidden = (diff.hiddenRange (.separator number hidden place)).length

lemma covers_nil (hindex : diff.lines.length ≤ index) (hgaps : gaps = []) :
    Covers diff index gaps [] where
  listed := by
    rw [Nat.sub_eq_zero_of_le hindex]
    rfl
  held := by
    intro line
    rw [hgaps]
    rfl
  separators := by
    intro number hidden place hrow
    cases hrow

lemma covers_line {rows : List Row} (hindex : index < diff.lines.length)
    (hplaced : Placed diff.lines.length (index + 1) (gaps.map Prod.fst))
    (hrest : Covers diff (index + 1) gaps rows) : Covers diff index gaps (.line index :: rows) where
  listed := by
    have hlength : diff.lines.length - index = diff.lines.length - (index + 1) + 1 := by omega
    rw [hlength, List.range'_succ, List.filter_cons_of_pos, ← hrest.listed]
    · rfl
    · exact decide_eq_true (not_hidden_of_lt hplaced (Nat.lt_succ_self index))
  held := by
    intro line
    rw [← hrest.held line, FileDiff.holders, List.countP_cons_of_neg]
    · rfl
    · simp [FileDiff.hiddenRange]
  separators := by
    intro number hidden place hrow
    rcases List.mem_cons.mp hrow with hrow | hrow
    · cases hrow
    · exact hrest.separators number hidden place hrow

lemma covers_gap {gap : Gap} {number : ℕ} {rows : List Row}
    (hfits : gap.Fits gap.start diff.lines.length) (hgap : diff.gaps[number]? = some gap)
    (hplaced : Placed diff.lines.length gap.stop (gaps.map Prod.fst))
    (hrest : Covers diff gap.stop gaps rows) :
    Covers diff gap.start ((gap, number) :: gaps) (gapRows gap number ++ rows) where
  listed := by
    have hnonempty := hfits.nonempty
    rw [listed_append, listed_gapRows hfits, hrest.listed, range'_split hnonempty.le hfits.within,
      List.filter_append]
    congr 1
    · apply List.filter_congr
      intro line hline
      rw [List.mem_range'_1] at hline
      have hother := not_hidden_of_lt hplaced (show line < gap.stop by omega)
      apply decide_eq_decide.mpr
      rw [List.map_cons, hidden_cons, or_iff_left hother]
    · apply List.filter_congr
      intro line hline
      rw [List.mem_range'_1] at hline
      have hself : ¬gap.Hides line := fun hhides => by
        have := hhides.2
        omega
      apply decide_eq_decide.mpr
      rw [List.map_cons, hidden_cons, or_iff_right hself]
  held := by
    intro line
    rw [holders_append, holders_gapRows hfits hgap, hrest.held line, List.countP_cons]
    simp only [decide_eq_true_eq]
    omega
  separators := by
    intro number' hidden place hrow
    rcases List.mem_append.mp hrow with hrow | hrow
    · rw [gapRows] at hrow
      simp only [List.mem_append, List.mem_map, reduceCtorEq, and_false, exists_false, false_or,
        or_false] at hrow
      split at hrow
      · obtain ⟨rfl, rfl, rfl⟩ := Row.separator.injEq .. ▸ List.mem_singleton.mp hrow
        simp only [FileDiff.hiddenRange, hgap, List.length_range', hidden_eq]
      · cases hrow
    · exact hrest.separators number' hidden place hrow

lemma Placed.eq_nil (h : Placed diff.lines.length index (gaps.map Prod.fst))
    (hindex : diff.lines.length ≤ index) : gaps = [] := by
  cases gaps with
  | nil => rfl
  | cons gap rest =>
      have hfits : gap.1.Fits index diff.lines.length := h.1
      have := hfits.from_start
      have := hfits.nonempty
      have := hfits.within
      omega

lemma rowsFrom_covers (hturns : diff.lines.length ≤ index + turns)
    (hplaced : Placed diff.lines.length index (gaps.map Prod.fst))
    (hnumbers : ∀ gap ∈ gaps, diff.gaps[gap.2]? = some gap.1) :
    Covers diff index gaps (diff.rowsFrom turns index gaps []) := by
  induction turns generalizing index gaps with
  | zero => exact covers_nil (by omega) (hplaced.eq_nil (by omega))
  | succ turns ih =>
      rw [FileDiff.rowsFrom]
      split
      · rename_i hindex
        cases gaps with
        | nil => exact covers_line hindex trivial (ih (by omega) trivial (by simp))
        | cons gap rest =>
            obtain ⟨gap, number⟩ := gap
            have hfits : gap.Fits index diff.lines.length := hplaced.1
            have hstart := hfits.from_start
            have hnonempty := hfits.nonempty
            simp only [skippedRows, List.nil_append]
            split
            · rename_i heq
              subst heq
              have hrest : ∀ gap ∈ rest, diff.gaps[gap.2]? = some gap.1 :=
                fun other hother => hnumbers other (List.mem_cons_of_mem _ hother)
              have hnumber := hnumbers (gap, number) List.mem_cons_self
              exact covers_gap hfits hnumber hplaced.2 (ih (by omega) hplaced.2 hrest)
            · rename_i hne
              have hlater : Placed diff.lines.length (index + 1) (((gap, number) :: rest).map Prod.fst) :=
                ⟨⟨show index + 1 ≤ gap.start by omega, hfits.nonempty, hfits.opened, hfits.within⟩,
                  hplaced.2⟩
              exact covers_line hindex hlater (ih (by omega) hlater hnumbers)
      · rename_i hindex
        exact covers_nil (by omega) (hplaced.eq_nil (by omega))

lemma rows_covers (h : Sound diff) : Covers diff 0 diff.gaps.zipIdx diff.rows := by
  rw [FileDiff.rows, h.whole]
  apply rowsFrom_covers (by omega)
  · rw [List.zipIdx_map_fst]
    exact h.placed
  · intro gap hgap
    exact List.mem_zipIdx_iff_getElem?.mp hgap

end Run

lemma Placed.countP_hides {gaps : List Gap} {count start : ℕ} (h : Placed count start gaps) :
    (gaps.countP fun gap => gap.Hides line) = if Hidden gaps line then 1 else 0 := by
  induction gaps generalizing start with
  | nil => rfl
  | cons gap rest ih =>
      rw [List.countP_cons, ih h.2]
      by_cases hgap : gap.Hides line
      · have hother := not_hidden_of_lt h.2 (show line < gap.stop from by have := hgap.2; omega)
        simp [hidden_cons, hgap, hother]
      · simp [hidden_cons, hgap]

lemma listed_rows (h : Sound diff) : listed diff.rows =
    (List.range diff.lines.length).filter fun line => ¬Hidden diff.gaps line := by
  rw [(rows_covers h).listed, List.zipIdx_map_fst, List.range_eq_range', Nat.sub_zero]

lemma holders_rows (h : Sound diff) :
    diff.holders line diff.rows = if Hidden diff.gaps line then 1 else 0 := by
  rw [(rows_covers h).held, ← h.placed.countP_hides]
  conv_rhs => rw [← List.zipIdx_map_fst 0 diff.gaps, List.countP_map]
  rfl

lemma mem_listed (h : Sound diff) :
    line ∈ listed diff.rows ↔ line < diff.lines.length ∧ ¬Hidden diff.gaps line := by
  rw [listed_rows h, List.mem_filter, List.mem_range, decide_eq_true_iff]

lemma listed_increasing (h : Sound diff) : (listed diff.rows).Pairwise (· < ·) := by
  rw [listed_rows h]
  exact List.pairwise_lt_range.filter _

lemma Hidden.lt (h : Sound diff) (hhidden : Hidden diff.gaps line) : line < diff.lines.length := by
  obtain ⟨gap, hgap, -, hto⟩ := hhidden
  have hwithin := (h.placed.fits hgap).within
  omega

lemma shown_once (h : Sound diff) :
    (listed diff.rows).count line + diff.holders line diff.rows =
      if line < diff.lines.length then 1 else 0 := by
  have hnodup : (listed diff.rows).Nodup := (listed_increasing h).imp fun hlt => hlt.ne
  rw [hnodup.count, holders_rows h]
  simp only [mem_listed h]
  by_cases hhidden : Hidden diff.gaps line
  · simp [hhidden, hhidden.lt h]
  · simp [hhidden]

lemma listed_near (h : Sound diff) (hline : line < diff.lines.length)
    (hnear : NearChange diff.lines line) : line ∈ listed diff.rows := by
  rw [mem_listed h]
  refine ⟨hline, ?_⟩
  rintro ⟨gap, hgap, hfrom, hto⟩
  exact h.quiet gap hgap line (by omega) (by omega) hnear

lemma listed_expand (h : Sound diff) (number : ℕ) (all : Bool) (hline : line ∈ listed diff.rows) :
    line ∈ listed (diff.expand number all).rows := by
  rw [mem_listed h] at hline
  rw [mem_listed (h.expand number all)]
  refine ⟨hline.1, ?_⟩
  rintro ⟨gap, hgap, hhides⟩
  obtain ⟨before, hbefore, rfl | rfl⟩ := exists_of_mem_modify hgap
  · exact hline.2 ⟨gap, hbefore, hhides⟩
  · exact hline.2 ⟨before, hbefore, hides_of_expand all hhides⟩

end DevCommandCenter.DiffView
