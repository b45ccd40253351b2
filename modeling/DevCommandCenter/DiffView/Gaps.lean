import DevCommandCenter.DiffView.FileDiff

/-! The gaps of a diff: apart from each other, away from every change, and only ever opened. -/

namespace DevCommandCenter.DiffView

variable {lines : List DiffLine} {gap : Gap} {gaps : List Gap} {count start index line : ℕ}

def NearChange (lines : List DiffLine) (line : ℕ) : Prop :=
  ∃ index changed, lines[index]? = some changed ∧ changed.kind ≠ .context ∧
    index ≤ line + context ∧ line ≤ index + context

def Gap.Hides (gap : Gap) (line : ℕ) : Prop :=
  gap.start + gap.top ≤ line ∧ line < gap.stop - gap.bottom

instance (gap : Gap) (line : ℕ) : Decidable (gap.Hides line) :=
  inferInstanceAs (Decidable (_ ∧ _))

structure Gap.Fits (gap : Gap) (start count : ℕ) : Prop where
  from_start : start ≤ gap.start
  nonempty : gap.start < gap.stop
  opened : gap.top + gap.bottom ≤ gap.stop - gap.start
  within : gap.stop ≤ count

def Placed (count : ℕ) : ℕ → List Gap → Prop
  | _, [] => True
  | start, gap :: rest => gap.Fits start count ∧ Placed count gap.stop rest

lemma Placed.weaken {start' : ℕ} (h : Placed count start gaps) (hle : start' ≤ start) :
    Placed count start' gaps := by
  cases gaps with
  | nil => trivial
  | cons gap rest =>
      have hfits := h.1
      exact ⟨⟨hle.trans hfits.from_start, hfits.nonempty, hfits.opened, hfits.within⟩, h.2⟩

lemma Placed.le (h : Placed count start gaps) (hgap : gap ∈ gaps) : start ≤ gap.start := by
  induction gaps generalizing start with
  | nil => cases hgap
  | cons first rest ih =>
      rcases List.mem_cons.mp hgap with rfl | hgap
      · exact h.1.from_start
      · have hfirst := h.1
        have hrest := ih h.2 hgap
        have := hfirst.from_start
        have := hfirst.nonempty
        omega

lemma Placed.fits (h : Placed count start gaps) (hgap : gap ∈ gaps) : gap.Fits start count := by
  induction gaps generalizing start with
  | nil => cases hgap
  | cons first rest ih =>
      rcases List.mem_cons.mp hgap with rfl | hgap
      · exact h.1
      · have hfits := ih h.2 hgap
        exact ⟨h.le (List.mem_cons_of_mem _ hgap), hfits.nonempty, hfits.opened, hfits.within⟩

lemma hidden_eq (gap : Gap) : gap.hidden = (gap.stop - gap.bottom) - (gap.start + gap.top) := by
  rw [Gap.hidden]
  omega

section Folding

variable {visible : List Bool}

lemma run_length (visible : List Bool) :
    (visible.takeWhile (· = false)).length + (visible.dropWhile (· = false)).length =
      visible.length := by
  rw [← List.length_append, List.takeWhile_append_dropWhile]

lemma placed_gapsFrom (h : index + visible.length ≤ count) :
    Placed count index (gapsFrom count index visible) := by
  induction index, visible using gapsFrom.induct count with
  | case1 index =>
      rw [gapsFrom]
      trivial
  | case2 index rest ih =>
      rw [gapsFrom]
      simp only [List.length_cons] at h
      exact (ih (by omega)).weaken (by omega)
  | case3 index rest run stop hlong ih =>
      have hlength := run_length rest
      simp only [List.length_cons] at h
      rw [gapsFrom, if_pos hlong]
      exact ⟨⟨le_rfl, by show index < index + 1 + _; omega, Nat.zero_le _,
        by show index + 1 + _ ≤ count; omega⟩, ih (by simp only [stop, run]; omega)⟩
  | case4 index rest run stop hshort ih =>
      have hlength := run_length rest
      simp only [List.length_cons] at h
      rw [gapsFrom, if_neg hshort]
      exact (ih (by simp only [stop, run]; omega)).weaken (by simp only [stop]; omega)

lemma unseen_run {rest : List Bool} (hfrom : index ≤ line)
    (hto : line < index + 1 + (rest.takeWhile (· = false)).length) :
    (false :: rest)[line - index]? = some false := by
  have hlt : line - index < (false :: rest.takeWhile (· = false)).length := by
    simp only [List.length_cons]
    omega
  have hall : ∀ seen ∈ false :: rest.takeWhile (· = false), seen = false := by
    intro seen hseen
    rcases List.mem_cons.mp hseen with rfl | hseen
    · rfl
    · have hfalse := List.mem_takeWhile_imp hseen
      exact decide_eq_true_eq.mp hfalse
  have hsplit : false :: rest =
      (false :: rest.takeWhile (· = false)) ++ rest.dropWhile (· = false) := by
    rw [List.cons_append, List.takeWhile_append_dropWhile]
  rw [hsplit, List.getElem?_append_left hlt, List.getElem?_eq_getElem hlt]
  exact congrArg some (hall _ (List.getElem_mem hlt))

lemma unseen_rest {rest : List Bool}
    (hfrom : index + 1 + (rest.takeWhile (· = false)).length ≤ line) :
    (false :: rest)[line - index]? =
      (rest.dropWhile (· = false))[line - (index + 1 + (rest.takeWhile (· = false)).length)]? := by
  have hsplit : false :: rest =
      (false :: rest.takeWhile (· = false)) ++ rest.dropWhile (· = false) := by
    rw [List.cons_append, List.takeWhile_append_dropWhile]
  conv_lhs => rw [hsplit]
  rw [List.getElem?_append_right (by simp only [List.length_cons]; omega), List.length_cons]
  congr 1
  omega

lemma unseen_gapsFrom (h : index + visible.length ≤ count)
    (hgap : gap ∈ gapsFrom count index visible) (hfrom : gap.start ≤ line)
    (hto : line < gap.stop) : visible[line - index]? = some false := by
  have hle := (placed_gapsFrom h).le hgap
  induction index, visible using gapsFrom.induct count with
  | case1 index =>
      rw [gapsFrom] at hgap
      cases hgap
  | case2 index rest ih =>
      rw [gapsFrom] at hgap
      simp only [List.length_cons] at h
      have hrest : index + 1 + rest.length ≤ count := by omega
      have hle' := (placed_gapsFrom hrest).le hgap
      rw [show line - index = (line - (index + 1)) + 1 by omega, List.getElem?_cons_succ]
      exact ih hrest hgap hle'
  | case3 index rest run stop hlong ih =>
      have hlength := run_length rest
      simp only [List.length_cons] at h
      have hrest : stop + (rest.dropWhile (· = false)).length ≤ count := by
        simp only [stop, run]
        omega
      rw [gapsFrom, if_pos hlong] at hgap
      rcases List.mem_cons.mp hgap with rfl | hgap
      · exact unseen_run hfrom hto
      · have hle' := (placed_gapsFrom hrest).le hgap
        rw [unseen_rest (hle'.trans hfrom)]
        exact ih hrest hgap hle'
  | case4 index rest run stop hshort ih =>
      have hlength := run_length rest
      simp only [List.length_cons] at h
      have hrest : stop + (rest.dropWhile (· = false)).length ≤ count := by
        simp only [stop, run]
        omega
      rw [gapsFrom, if_neg hshort] at hgap
      have hle' := (placed_gapsFrom hrest).le hgap
      rw [unseen_rest (hle'.trans hfrom)]
      exact ih hrest hgap hle'

lemma length_visibleLines (lines : List DiffLine) : (visibleLines lines).length = lines.length := by
  simp [visibleLines]

lemma visible_of_nearChange (h : NearChange lines line) (hline : line < lines.length) :
    (visibleLines lines)[line]? = some true := by
  obtain ⟨index, changed, hindex, hkind, hfrom, hto⟩ := h
  obtain ⟨hlt, -⟩ := List.getElem?_eq_some_iff.mp hindex
  simp only [visibleLines, List.getElem?_map, List.getElem?_range hline, Option.map_some,
    Option.some.injEq, List.any_eq_true, List.mem_filter, List.mem_range, decide_eq_true_eq]
  refine ⟨index, ⟨hlt, ?_⟩, by omega, by omega⟩
  simp [hindex, hkind]

lemma placed_fold (lines : List DiffLine) : Placed lines.length 0 (fold lines) := by
  rw [fold]
  split
  · trivial
  · exact placed_gapsFrom (by simp [length_visibleLines])

lemma quiet_fold (hgap : gap ∈ fold lines) (hfrom : gap.start ≤ line) (hto : line < gap.stop) :
    ¬NearChange lines line := by
  intro hnear
  have hwithin := ((placed_fold lines).fits hgap).within
  have hvisible := visible_of_nearChange hnear (by omega)
  rw [fold] at hgap
  split at hgap
  · cases hgap
  · have hunseen := unseen_gapsFrom (by simp [length_visibleLines]) hgap hfrom hto
    rw [Nat.sub_zero, hvisible] at hunseen
    cases hunseen

end Folding

section Expanding

@[simp] lemma expand_start (gap : Gap) (all : Bool) : (gap.expand all).start = gap.start := by
  rw [Gap.expand]
  split
  · rfl
  · cases gap.place <;> rfl

@[simp] lemma expand_stop (gap : Gap) (all : Bool) : (gap.expand all).stop = gap.stop := by
  rw [Gap.expand]
  split
  · rfl
  · cases gap.place <;> rfl

lemma expand_opens (gap : Gap) (all : Bool) : gap.top ≤ (gap.expand all).top ∧
    gap.bottom ≤ (gap.expand all).bottom ∧
    (gap.expand all).top + (gap.expand all).bottom ≤ gap.top + gap.bottom + gap.hidden := by
  rw [Gap.expand]
  split
  · dsimp only
    omega
  · rename_i hpartly
    simp only [not_or, not_le] at hpartly
    cases gap.place <;> dsimp only <;> omega

lemma fits_expand (all : Bool) (h : gap.Fits start count) : (gap.expand all).Fits start count := by
  obtain ⟨-, -, hopened⟩ := expand_opens gap all
  have hfits := h.opened
  rw [Gap.hidden] at hopened
  refine ⟨?_, ?_, ?_, ?_⟩
  · simpa using h.from_start
  · simpa using h.nonempty
  · rw [expand_start, expand_stop]
    omega
  · simpa using h.within

lemma hides_of_expand (all : Bool) (h : (gap.expand all).Hides line) : gap.Hides line := by
  obtain ⟨htop, hbottom, -⟩ := expand_opens gap all
  obtain ⟨hfrom, hto⟩ := h
  rw [expand_start] at hfrom
  rw [expand_stop] at hto
  exact ⟨by omega, by omega⟩

lemma placed_modify (number : ℕ) (all : Bool) (h : Placed count start gaps) :
    Placed count start (gaps.modify number (·.expand all)) := by
  induction gaps generalizing start number with
  | nil => simpa using h
  | cons gap rest ih =>
      cases number with
      | zero =>
          rw [List.modify_zero_cons]
          exact ⟨fits_expand all h.1, by rw [expand_stop]; exact h.2⟩
      | succ number =>
          rw [List.modify_succ_cons]
          exact ⟨h.1, ih number h.2⟩

lemma exists_of_mem_modify {number : ℕ} {all : Bool} (h : gap ∈ gaps.modify number (·.expand all)) :
    ∃ before ∈ gaps, gap = before ∨ gap = before.expand all := by
  obtain ⟨place, hplace⟩ := List.mem_iff_getElem?.mp h
  rw [List.getElem?_modify] at hplace
  obtain ⟨before, hbefore, heq⟩ := Option.map_eq_some_iff.mp hplace
  refine ⟨before, List.mem_of_getElem? hbefore, ?_⟩
  split at heq
  · exact .inr heq.symm
  · exact .inl heq.symm

end Expanding

end DevCommandCenter.DiffView
