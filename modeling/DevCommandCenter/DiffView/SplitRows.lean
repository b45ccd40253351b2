import DevCommandCenter.DiffView.Rows

/-! The side-by-side rows: on each side the listed lines of that side's text. -/

namespace DevCommandCenter.DiffView

variable {diff : FileDiff}

def SplitRow.old? : SplitRow → Option ℕ
  | .pair old _ => old
  | _ => none

def SplitRow.new? : SplitRow → Option ℕ
  | .pair _ new => new
  | _ => none

def oldSide (split : List SplitRow) : List ℕ :=
  split.filterMap SplitRow.old?

def newSide (split : List SplitRow) : List ℕ :=
  split.filterMap SplitRow.new?

def FileDiff.hasKind (diff : FileDiff) (kind : LineKind) (line : ℕ) : Prop :=
  diff.lines[line]?.map DiffLine.kind = some kind

instance (kind : LineKind) (line : ℕ) : Decidable (diff.hasKind kind line) :=
  inferInstanceAs (Decidable (_ = _))

def FileDiff.oldLines (diff : FileDiff) (rows : List Row) : List ℕ :=
  (listed rows).filter fun line => diff.hasKind .context line ∨ diff.hasKind .deletion line

def FileDiff.newLines (diff : FileDiff) (rows : List Row) : List ℕ :=
  (listed rows).filter fun line => diff.hasKind .context line ∨ diff.hasKind .addition line

section Flushing

lemma filterMap_getElem? {lines : List ℕ} {count : ℕ} (h : lines.length ≤ count) :
    (List.range count).filterMap (fun index => lines[index]?) = lines := by
  induction lines generalizing count with
  | nil =>
      apply List.filterMap_eq_nil_iff.mpr
      intro index _
      rfl
  | cons line lines ih =>
      cases count with
      | zero => cases h
      | succ count =>
          have hrest := ih (Nat.le_of_succ_le_succ h)
          simp only [List.range_succ_eq_map, List.filterMap_cons, List.getElem?_cons_zero,
            List.filterMap_map]
          exact congrArg (line :: ·) hrest

lemma oldSide_append (split more : List SplitRow) :
    oldSide (split ++ more) = oldSide split ++ oldSide more :=
  List.filterMap_append

lemma newSide_append (split more : List SplitRow) :
    newSide (split ++ more) = newSide split ++ newSide more :=
  List.filterMap_append

lemma oldSide_flush (state : Splitting) :
    oldSide state.flush.split = oldSide state.split ++ state.deleted := by
  rw [Splitting.flush, oldSide_append]
  congr 1
  rw [oldSide, List.filterMap_map]
  exact filterMap_getElem? (le_max_left _ _)

lemma newSide_flush (state : Splitting) :
    newSide state.flush.split = newSide state.split ++ state.added := by
  rw [Splitting.flush, newSide_append]
  congr 1
  rw [newSide, List.filterMap_map]
  exact filterMap_getElem? (le_max_right _ _)

end Flushing

structure Splits (diff : FileDiff) (rows : List Row) (state : Splitting) : Prop where
  old : oldSide state.split ++ state.deleted = diff.oldLines rows
  new : newSide state.split ++ state.added = diff.newLines rows

section Steps

variable {rows : List Row} {state : Splitting}

lemma Splits.flush (h : Splits diff rows state) : Splits diff rows state.flush where
  old := by
    rw [oldSide_flush, ← h.old]
    exact List.append_nil _
  new := by
    rw [newSide_flush, ← h.new]
    exact List.append_nil _

lemma oldLines_append (rows more : List Row) :
    diff.oldLines (rows ++ more) = diff.oldLines rows ++ diff.oldLines more := by
  simp only [FileDiff.oldLines, listed_append, List.filter_append]

lemma newLines_append (rows more : List Row) :
    diff.newLines (rows ++ more) = diff.newLines rows ++ diff.newLines more := by
  simp only [FileDiff.newLines, listed_append, List.filter_append]

lemma Splits.push {row : Row} {splitRow : SplitRow} (h : Splits diff rows state)
    (hold : diff.oldLines [row] = oldSide [splitRow])
    (hnew : diff.newLines [row] = newSide [splitRow]) :
    Splits diff (rows ++ [row]) (state.flush.push splitRow) where
  old := by
    rw [oldLines_append, hold, ← h.flush.old]
    simp only [Splitting.push, Splitting.flush, oldSide_append, List.append_nil]
  new := by
    rw [newLines_append, hnew, ← h.flush.new]
    simp only [Splitting.push, Splitting.flush, newSide_append, List.append_nil]

lemma filter_line (side : ℕ → Prop) [DecidablePred side] (index : ℕ) :
    [index].filter (fun line => side line) = if side index then [index] else [] := by
  by_cases h : side index
  · rw [if_pos h]
    exact List.filter_cons_of_pos (decide_eq_true h)
  · rw [if_neg h]
    exact List.filter_cons_of_neg fun htrue => h (of_decide_eq_true htrue)

lemma oldLines_line {index : ℕ} : diff.oldLines [.line index] =
    if diff.hasKind .context index ∨ diff.hasKind .deletion index then [index] else [] :=
  filter_line _ index

lemma newLines_line {index : ℕ} : diff.newLines [.line index] =
    if diff.hasKind .context index ∨ diff.hasKind .addition index then [index] else [] :=
  filter_line _ index

lemma not_hasKind {kind other : LineKind} {index : ℕ} (h : diff.hasKind kind index)
    (hne : kind ≠ other) : ¬diff.hasKind other index := by
  intro hother
  exact hne (Option.some.inj (h.symm.trans hother))

lemma Splits.delete {index : ℕ} (h : Splits diff rows state)
    (hkind : diff.hasKind .deletion index) :
    Splits diff (rows ++ [.line index]) { state with deleted := state.deleted ++ [index] } where
  old := by
    rw [oldLines_append, oldLines_line, if_pos (.inr hkind), ← h.old, List.append_assoc]
  new := by
    have hcontext : ¬diff.hasKind .context index := not_hasKind hkind (by decide)
    have hadded : ¬diff.hasKind .addition index := not_hasKind hkind (by decide)
    rw [newLines_append, newLines_line, if_neg (not_or.mpr ⟨hcontext, hadded⟩), ← h.new,
      List.append_nil]

lemma Splits.add {index : ℕ} (h : Splits diff rows state)
    (hkind : diff.hasKind .addition index) :
    Splits diff (rows ++ [.line index]) { state with added := state.added ++ [index] } where
  old := by
    have hcontext : ¬diff.hasKind .context index := not_hasKind hkind (by decide)
    have hdeleted : ¬diff.hasKind .deletion index := not_hasKind hkind (by decide)
    rw [oldLines_append, oldLines_line, if_neg (not_or.mpr ⟨hcontext, hdeleted⟩), ← h.old,
      List.append_nil]
  new := by
    rw [newLines_append, newLines_line, if_pos (.inr hkind), ← h.new, List.append_assoc]

lemma Splits.skip {index : ℕ} (h : Splits diff rows state)
    (hnone : ∀ kind, ¬diff.hasKind kind index) : Splits diff (rows ++ [.line index]) state where
  old := by
    rw [oldLines_append, oldLines_line, if_neg (not_or.mpr ⟨hnone _, hnone _⟩), List.append_nil,
      h.old]
  new := by
    rw [newLines_append, newLines_line, if_neg (not_or.mpr ⟨hnone _, hnone _⟩), List.append_nil,
      h.new]

lemma Splits.step (h : Splits diff rows state) (row : Row) :
    Splits diff (rows ++ [row]) (diff.splitStep state row) := by
  cases row with
  | separator gap hidden place => exact h.push rfl rfl
  | skipped skip hidden place => exact h.push rfl rfl
  | line index =>
      rw [FileDiff.splitStep]
      cases hkind : diff.lines[index]?.map DiffLine.kind with
      | none =>
          have hnone : ∀ kind, ¬diff.hasKind kind index := by
            intro kind hsome
            rw [FileDiff.hasKind, hkind] at hsome
            cases hsome
          exact h.skip hnone
      | some kind =>
          cases kind with
          | context =>
              have hcontext : diff.hasKind .context index := hkind
              exact h.push (by rw [oldLines_line, if_pos (.inl hcontext)]; rfl)
                (by rw [newLines_line, if_pos (.inl hcontext)]; rfl)
          | deletion =>
              dsimp only
              split
              · exact h.flush.delete hkind
              · exact h.delete hkind
          | addition => exact h.add hkind

lemma splits_foldl (h : Splits diff rows state) (more : List Row) :
    Splits diff (rows ++ more) (more.foldl diff.splitStep state) := by
  induction more generalizing rows state with
  | nil => simpa using h
  | cons row more ih =>
      have hrest := ih (h.step row)
      rw [List.append_assoc] at hrest
      exact hrest

lemma splitRows_sides (rows : List Row) : oldSide (diff.splitRows rows) = diff.oldLines rows ∧
    newSide (diff.splitRows rows) = diff.newLines rows := by
  have hstart : Splits diff [] { split := [], deleted := [], added := [] } := ⟨rfl, rfl⟩
  have hread := splits_foldl hstart rows
  rw [List.nil_append] at hread
  rw [FileDiff.splitRows, oldSide_flush, newSide_flush]
  exact ⟨hread.old, hread.new⟩

end Steps

def FileDiff.expandAll (diff : FileDiff) (clicks : List (ℕ × Bool)) : FileDiff :=
  clicks.foldl (fun diff click => diff.expand click.1 click.2) diff

lemma Sound.expandAll (h : Sound diff) (clicks : List (ℕ × Bool)) :
    Sound (diff.expandAll clicks) := by
  induction clicks generalizing diff with
  | nil => exact h
  | cons click clicks ih => exact ih (h.expand click.1 click.2)

structure ShowsOnce (diff : FileDiff) : Prop where
  increasing : (listed diff.rows).Pairwise (· < ·)
  once : ∀ line, (listed diff.rows).count line + diff.holders line diff.rows =
    if line < diff.lines.length then 1 else 0
  counted : ∀ number hidden place, Row.separator number hidden place ∈ diff.rows →
    hidden = (diff.hiddenRange (.separator number hidden place)).length
  near : ∀ line < diff.lines.length, NearChange diff.lines line → line ∈ listed diff.rows
  opening : ∀ number all, ∀ line ∈ listed diff.rows, line ∈ listed (diff.expand number all).rows
  oldSide : oldSide (diff.splitRows diff.rows) = diff.oldLines diff.rows
  newSide : newSide (diff.splitRows diff.rows) = diff.newLines diff.rows

theorem diff_shows_each_line_once (fromLines : List Char → List Char → List LineChange)
    (original modified : List Char) (clicks : List (ℕ × Bool)) :
    ShowsOnce ((FileDiff.ofTexts fromLines original modified).expandAll clicks) := by
  have hsound := (sound_ofTexts fromLines original modified).expandAll clicks
  exact {
    increasing := listed_increasing hsound
    once := fun line => shown_once hsound
    counted := (rows_covers hsound).separators
    near := fun line hline hnear => listed_near hsound hline hnear
    opening := fun number all line hline => listed_expand hsound number all hline
    oldSide := (splitRows_sides _).1
    newSide := (splitRows_sides _).2 }

end DevCommandCenter.DiffView
