import DevCommandCenter.FileView.UndoSteps

/-! Runs of the file editor in which undo is exact. -/

namespace DevCommandCenter.FileView

open Library

def Operation.InOrder : Operation → Prop
  | .select range => Ordered range
  | .replace range _ => ∀ r, range = some r → Ordered r
  | .replaceSelecting range _ selection _ => Ordered range ∧ Ordered selection
  | .replaceAndMark range _ selected =>
      (∀ r, range = some r → Ordered r) ∧ ∀ r, selected = some r → Ordered r
  | _ => True

def Call.Composes (c : Call) (buffer : EditBuffer) (history : TextHistory) : Prop :=
  match c.operation with
  | .replaceAndMark range _ _ => Within buffer history (buffer.replaced range)
  | .unmark => AtEnd buffer history buffer.cursor
  | .undo => buffer.composition = none ∨ buffer.undo = []
  | .redo => buffer.composition = none ∨ buffer.redo = []
  | operation => ∀ edited range text, buffer.edit? operation = some (edited, range, text) →
      Within edited history (edited.replaced range) ∧ AtEnd edited history (edited.replaced range).stop

def Steady : List Call → EditBuffer → TextHistory → Prop
  | [], _, _ => True
  | c :: calls, buffer, history => c.Composes buffer history ∧
      ∀ next, buffer.call c = some next → Steady calls next (history.observe buffer c)

section Steps

variable {initial : List Char} {buffer : EditBuffer} {history : TextHistory}

lemma Good.go (h : Good initial buffer history) (offset : ℕ) (extend : Bool) :
    Good initial (buffer.go offset extend) history := by
  rw [EditBuffer.go]
  split
  · exact h.select (ordered_caret _) false buffer.lastTyping
  · split
    · next hlt => exact h.select (Nat.le_of_lt hlt) true buffer.lastTyping
    · next hle => exact h.select (Nat.le_of_not_lt hle) false buffer.lastTyping

lemma Good.replaceSelecting (h : Good initial buffer history) {range selection : Range}
    (hrange : Ordered range) (hselection : Ordered selection) (text : List Char) (reversed : Bool) (now : ℕ)
    (hwithin : Within { buffer with lastTyping := none } history
      (({ buffer with lastTyping := none } : EditBuffer).replaced (some range)))
    (hend : AtEnd { buffer with lastTyping := none } history
      (({ buffer with lastTyping := none } : EditBuffer).replaced (some range)).stop) :
    ∃ next, buffer.replaceSelecting range text selection reversed now = some next ∧
      Good initial next (history.edited { buffer with lastTyping := none } (some range) text now) := by
  have hsame : Good initial { buffer with lastTyping := none } history :=
    h.select h.selection buffer.reversed none
  obtain ⟨replaced, hreplaced, hgood⟩ :=
    hsame.replace (fun r hr => by cases hr; exact hrange) hwithin hend text now
  rw [EditBuffer.replaceSelecting, hreplaced]
  refine ⟨_, rfl, ?_⟩
  have hclamped : Ordered (replaced.clampRange selection) := ordered_clampRange hselection
  exact (hgood.setAfter hclamped).select hclamped _ none

lemma edit?_deleteTo (buffer : EditBuffer) (offset : ℕ) : buffer.edit? (.deleteTo offset) =
    if buffer.selection.isEmpty then
      if offset = buffer.cursor then none
      else some (buffer, some ⟨min buffer.cursor offset, max buffer.cursor offset⟩, [])
    else some (buffer, none, []) :=
  rfl

lemma observe_deleteTo (history : TextHistory) (buffer : EditBuffer) (offset now : ℕ) :
    history.observe buffer ⟨.deleteTo offset, now⟩ =
      match buffer.edit? (.deleteTo offset) with
      | none => history
      | some (buffer, range, text) => history.edited buffer range text now :=
  rfl

lemma Good.deleteTo (h : Good initial buffer history) (offset now : ℕ)
    (hedit : ∀ edited range text, buffer.edit? (.deleteTo offset) = some (edited, range, text) →
      Within edited history (edited.replaced range) ∧ AtEnd edited history (edited.replaced range).stop) :
    ∃ next, buffer.deleteTo offset now = some next ∧
      Good initial next (history.observe buffer ⟨.deleteTo offset, now⟩) := by
  rw [observe_deleteTo, EditBuffer.deleteTo]
  rw [edit?_deleteTo] at hedit ⊢
  by_cases hempty : buffer.selection.isEmpty = true
  · simp only [if_pos hempty] at hedit ⊢
    by_cases hplace : offset = buffer.cursor
    · simp only [if_pos hplace]
      exact ⟨buffer, rfl, h⟩
    · simp only [if_neg hplace] at hedit ⊢
      obtain ⟨hwithin, hend⟩ := hedit _ _ _ rfl
      have hrange : Ordered ⟨min buffer.cursor offset, max buffer.cursor offset⟩ :=
        Nat.le_trans (Nat.min_le_left _ _) (Nat.le_max_left _ _)
      obtain ⟨next, hnext, hgood⟩ :=
        h.replace (fun r hr => by cases hr; exact hrange) hwithin hend [] now
      rw [hnext]
      exact ⟨_, rfl, hgood.select hgood.selection next.reversed none⟩
  · simp only [if_neg hempty] at hedit ⊢
    obtain ⟨hwithin, hend⟩ := hedit _ _ _ rfl
    obtain ⟨next, hnext, hgood⟩ := h.replace (fun r hr => by cases hr) hwithin hend [] now
    rw [hnext]
    exact ⟨_, rfl, hgood.select hgood.selection next.reversed none⟩

lemma Good.setText (h : Good initial buffer history) (text : List Char) (now : ℕ)
    (hwithin : Within buffer history (buffer.replaced (some ⟨0, byteLen buffer.text⟩)))
    (hend : AtEnd buffer history (buffer.replaced (some ⟨0, byteLen buffer.text⟩)).stop) :
    ∃ next, buffer.setText text now = some next ∧
      Good initial next (history.edited buffer (some ⟨0, byteLen buffer.text⟩) text now) := by
  obtain ⟨next, hnext, hgood⟩ :=
    h.replace (fun r hr => by cases hr; exact Nat.zero_le _) hwithin hend text now
  rw [EditBuffer.setText, hnext]
  exact ⟨_, rfl, hgood.go 0 false⟩

lemma Good.text_eq (h : Good initial buffer history) (hnone : buffer.composition = none)
    (hundo : buffer.undo = []) (hlost : history.lost = 0) : buffer.text = initial := by
  have hlength := h.length
  rw [hundo, hlost, List.length_nil, List.length_eq_zero_iff] at hlength
  have horigin := h.origin
  rw [hlength, h.settled_eq hnone] at horigin
  exact Option.some_inj.mp horigin

lemma Good.call (h : Good initial buffer history) {c : Call} (hinOrder : c.operation.InOrder)
    (hcomposes : c.Composes buffer history) : ∃ next, buffer.call c = some next ∧
      (c.operation = .undo → buffer.undo ≠ [] → history.past.head? = some next.text) ∧
      (c.operation = .redo → buffer.redo ≠ [] → history.future.head? = some next.text) ∧
      (c.operation = .undo → buffer.undo ≠ [] → next.undo = [] → history.lost = 0 →
        next.text = initial) ∧
      Good initial next (history.observe buffer c) := by
  obtain ⟨operation, now⟩ := c
  cases operation with
  | go offset extend => exact ⟨_, rfl, by simp, by simp, by simp, h.go offset extend⟩
  | selectAll =>
      have hall : Ordered ⟨0, byteLen buffer.text⟩ := Nat.zero_le _
      exact ⟨_, rfl, by simp, by simp, by simp, h.select hall false buffer.lastTyping⟩
  | select range =>
      exact ⟨_, rfl, by simp, by simp, by simp, h.select (ordered_clampRange hinOrder) false buffer.lastTyping⟩
  | replace range text =>
      obtain ⟨hwithin, hend⟩ := hcomposes buffer range text rfl
      obtain ⟨next, hnext, hgood⟩ := h.replace hinOrder hwithin hend text now
      exact ⟨next, hnext, by simp, by simp, by simp, hgood⟩
  | replaceSelecting range text selection reversed =>
      obtain ⟨hwithin, hend⟩ := hcomposes _ (some range) text rfl
      obtain ⟨next, hnext, hgood⟩ :=
        h.replaceSelecting hinOrder.1 hinOrder.2 text reversed now hwithin hend
      exact ⟨next, hnext, by simp, by simp, by simp, hgood⟩
  | replaceAndMark range text selected =>
      obtain ⟨next, hnext, hgood⟩ := h.replaceAndMark hinOrder.1 hinOrder.2 hcomposes text
      exact ⟨next, hnext, by simp, by simp, by simp, hgood⟩
  | unmark =>
      obtain ⟨next, hnext, hgood⟩ := h.unmark hcomposes
      exact ⟨next, hnext, by simp, by simp, by simp, hgood⟩
  | deleteTo offset =>
      obtain ⟨next, hnext, hgood⟩ := h.deleteTo offset now hcomposes
      exact ⟨next, hnext, by simp, by simp, by simp, hgood⟩
  | setText text =>
      obtain ⟨hwithin, hend⟩ := hcomposes _ _ _ rfl
      obtain ⟨next, hnext, hgood⟩ := h.setText text now hwithin hend
      exact ⟨next, hnext, by simp, by simp, by simp, hgood⟩
  | undo =>
      have hobserve : history.observe buffer ⟨.undo, now⟩ = if buffer.undo = [] then history
          else { history with past := history.past.tail, future := buffer.text :: history.future } := rfl
      by_cases hundo : buffer.undo = []
      · refine ⟨buffer, ?_, fun _ hne => absurd hundo hne, by simp, fun _ hne => absurd hundo hne, ?_⟩
        · change buffer.undoStep = some buffer
          rw [EditBuffer.undoStep, hundo]
        · rw [hobserve, if_pos hundo]
          exact h
      · have hnone := hcomposes.resolve_right hundo
        obtain ⟨next, hnext, hsettled, hpast, hgood⟩ := h.undoStep hnone hundo
        rw [hobserve, if_neg hundo]
        refine ⟨next, hnext, fun _ _ => hpast, by simp, fun _ _ hdone hlost => ?_, hgood⟩
        exact hgood.text_eq hsettled hdone hlost
  | redo =>
      have hobserve : history.observe buffer ⟨.redo, now⟩ = if buffer.redo = [] then history
          else { history with past := buffer.text :: history.past, future := history.future.tail } := rfl
      by_cases hredo : buffer.redo = []
      · refine ⟨buffer, ?_, by simp, fun _ hne => absurd hredo hne, by simp, ?_⟩
        · change buffer.redoStep = some buffer
          rw [EditBuffer.redoStep, hredo]
        · rw [hobserve, if_pos hredo]
          exact h
      · have hnone := hcomposes.resolve_right hredo
        obtain ⟨next, hnext, hfuture, hgood⟩ := h.redoStep hnone hredo
        rw [hobserve, if_neg hredo]
        exact ⟨next, hnext, by simp, fun _ _ => hfuture, by simp, hgood⟩

lemma Good.exact {calls : List Call} (h : Good initial buffer history)
    (hinOrder : ∀ c ∈ calls, c.operation.InOrder) (hsteady : Steady calls buffer history) :
    Exact initial calls buffer history := by
  induction calls generalizing buffer history with
  | nil => trivial
  | cons c calls ih =>
      obtain ⟨hcomposes, hrest⟩ := hsteady
      obtain ⟨next, hnext, hpast, hfuture, hfirst, hgood⟩ :=
        h.call (hinOrder c List.mem_cons_self) hcomposes
      refine ⟨next, hnext, hpast, hfuture, hfirst, ih hgood (fun c' hc' => ?_) (hrest next hnext)⟩
      exact hinOrder c' (List.mem_cons_of_mem _ hc')

end Steps

/-- In a run that composes only where it may, every undo and redo is exact. -/
theorem undo_exact {text : List Char} {calls : List Call} (hinOrder : ∀ c ∈ calls, c.operation.InOrder)
    (hsteady : Steady calls (.new text) .empty) : Exact text calls (.new text) .empty :=
  (Good.new text).exact hinOrder hsteady

def composedPlainly : List Call :=
  [⟨.replaceAndMark none ['k'] none, 0⟩, ⟨.replaceAndMark none ['k', 'a'] none, 1⟩,
    ⟨.replace none ['か'], 2⟩, ⟨.undo, 3⟩, ⟨.redo, 4⟩]

lemma composedPlainly_inOrder (c : Call) (hc : c ∈ composedPlainly) : c.operation.InOrder := by
  simp only [composedPlainly, List.mem_cons, List.not_mem_nil, or_false] at hc
  rcases hc with rfl | rfl | rfl | rfl | rfl
  · exact ⟨nofun, nofun⟩
  · exact ⟨nofun, nofun⟩
  · exact nofun
  · trivial
  · trivial

lemma composedPlainly_steady : Steady composedPlainly (.new []) .empty := by
  refine ⟨nofun, fun first hfirst => ?_⟩
  cases hfirst
  refine ⟨fun _ hsome => ?_, fun second hsecond => ?_⟩
  · cases hsome
    exact ⟨by decide, by decide⟩
  cases hsecond
  refine ⟨fun edited range text hedit => ?_, fun third hthird => ?_⟩
  · cases hedit
    refine ⟨fun _ hsome => ?_, fun _ hsome => ?_⟩
    · cases hsome
      exact ⟨by decide, by decide⟩
    · cases hsome
      decide
  · cases hthird
    refine ⟨.inl rfl, fun fourth hfourth => ?_⟩
    cases hfourth
    exact ⟨.inl rfl, fun _ _ => trivial⟩

theorem composedPlainly_exact : Exact [] composedPlainly (.new []) .empty :=
  undo_exact composedPlainly_inOrder composedPlainly_steady

def unmarkedBefore : List Call :=
  [⟨.replaceAndMark none ['a', 'b'] (some ⟨0, 0⟩), 0⟩, ⟨.unmark, 1⟩, ⟨.undo, 2⟩]

lemma unmarkedBefore_inOrder (c : Call) (hc : c ∈ unmarkedBefore) : c.operation.InOrder := by
  simp only [unmarkedBefore, List.mem_cons, List.not_mem_nil, or_false] at hc
  rcases hc with rfl | rfl | rfl
  · exact ⟨nofun, fun r hr => by cases hr; exact Nat.le_refl 0⟩
  · trivial
  · trivial

theorem unmarked_text_stays : ¬ ∀ (text : List Char) (calls : List Call),
    (∀ c ∈ calls, c.operation.InOrder) → Exact text calls (.new text) .empty := by
  intro h
  obtain ⟨first, hfirst, -, -, -, second, hsecond, -, -, -, third, hthird, hpast, -⟩ :=
    h [] unmarkedBefore unmarkedBefore_inOrder
  cases hfirst
  cases hsecond
  cases hthird
  exact absurd (hpast rfl nofun) (by decide)

end DevCommandCenter.FileView
