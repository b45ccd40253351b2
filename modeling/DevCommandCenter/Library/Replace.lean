import Mathlib.Data.List.Infix

/-! Replacing a pattern in a text, and how often a pattern stands in a text. -/

namespace Library

variable {α : Type} {pattern replacement text front rest q : List α} {mark c : α}

section Infix

lemma infix_of_append (hmark : mark ∉ front) (h : mark :: q <:+: front ++ rest) :
    mark :: q <:+: rest := by
  induction front with
  | nil => exact h
  | cons c front ih =>
      rcases List.infix_cons_iff.mp h with hstarts | hinside
      · obtain ⟨rfl, -⟩ := List.cons_prefix_cons.mp hstarts
        exact absurd List.mem_cons_self hmark
      · exact ih (fun hmem => hmark (List.mem_cons_of_mem _ hmem)) hinside

lemma prefix_of_append (hmark : mark ∉ q) (h : q <+: front ++ mark :: rest) : q <+: front := by
  induction q generalizing front with
  | nil => exact List.nil_prefix
  | cons a q ih =>
      cases front with
      | nil =>
          obtain ⟨rfl, -⟩ := List.cons_prefix_cons.mp h
          exact absurd List.mem_cons_self hmark
      | cons c front =>
          rw [List.cons_append, List.cons_prefix_cons] at h
          have hq := ih (fun hmem => hmark (List.mem_cons_of_mem _ hmem)) h.2
          exact List.cons_prefix_cons.mpr ⟨h.1, hq⟩

lemma infix_split (hmark : mark ∉ pattern) (h : pattern <:+: front ++ mark :: rest) :
    pattern <:+: front ∨ pattern <:+: rest := by
  obtain ⟨before, after, heq⟩ := h
  rw [List.append_assoc] at heq
  rcases List.append_eq_append_iff.mp heq with ⟨tail, hfront, htail⟩ | ⟨tail, hbefore, htail⟩
  · -- the pattern starts in the first part
    have hstarts : pattern <+: tail ++ mark :: rest := ⟨after, htail⟩
    exact .inl (hfront ▸ (prefix_of_append hmark hstarts).isInfix.trans
      (List.suffix_append before tail).isInfix)
  · cases tail with
    | nil =>
        have hstarts : pattern <+: [] ++ mark :: rest := ⟨after, htail.symm⟩
        exact .inl ((prefix_of_append hmark hstarts).isInfix.trans (List.nil_infix))
    | cons c tail =>
        rw [List.cons_append, List.cons.injEq] at htail
        exact .inr ⟨tail, after, by rw [htail.2, List.append_assoc]⟩

end Infix

variable [DecidableEq α]

def replaceFrom (pattern replacement : List α) : ℕ → List α → List α
  | _, [] => []
  | skip + 1, _ :: rest => replaceFrom pattern replacement skip rest
  | 0, c :: rest =>
      if pattern <+: c :: rest then
        replacement ++ replaceFrom pattern replacement (pattern.length - 1) rest
      else c :: replaceFrom pattern replacement 0 rest

def replaceAll (pattern replacement text : List α) : List α :=
  replaceFrom pattern replacement 0 text

def occurrences (pattern text : List α) : ℕ :=
  text.tails.countP (pattern <+: ·)

section Replacing

lemma prefix_of_replaceFrom (hne : replacement ≠ []) (hfirst : ∀ first ∈ replacement.head?, first ∉ q)
    (h : q <+: replaceFrom pattern replacement 0 text) : q <+: text := by
  induction q generalizing text with
  | nil => exact List.nil_prefix
  | cons a q ih =>
      cases text with
      | nil => simp [replaceFrom] at h
      | cons c text =>
          rw [replaceFrom] at h
          split at h
          · obtain ⟨first, more, rfl⟩ := List.exists_cons_of_ne_nil hne
            rw [List.cons_append, List.cons_prefix_cons] at h
            exact absurd (h.1 ▸ List.mem_cons_self) (hfirst first rfl)
          · rw [List.cons_prefix_cons] at h ⊢
            refine ⟨h.1, ih (fun first hmem hq => ?_) h.2⟩
            exact hfirst first hmem (List.mem_cons_of_mem _ hq)

lemma not_infix_replaceAll (hmark : mark ∉ replacement) (hne : replacement ≠ [])
    (hfirst : ∀ first ∈ replacement.head?, first ∉ q) (text : List α) :
    ¬mark :: q <:+: replaceAll (mark :: q) replacement text := by
  have hskip : ∀ skip, ¬mark :: q <:+: replaceFrom (mark :: q) replacement skip text := by
    induction text with
    | nil =>
        intro skip
        simp [replaceFrom]
    | cons c text ih =>
        intro skip hinside
        cases skip with
        | succ skip => exact ih skip hinside
        | zero =>
            rw [replaceFrom] at hinside
            split at hinside
            · exact ih _ (infix_of_append hmark hinside)
            · rename_i hnot
              rcases List.infix_cons_iff.mp hinside with hstarts | hlater
              · rw [List.cons_prefix_cons] at hnot hstarts
                exact hnot ⟨hstarts.1, prefix_of_replaceFrom hne hfirst hstarts.2⟩
              · exact ih 0 hlater
  exact hskip 0

lemma length_replaceAll_le (hlength : pattern.length ≤ replacement.length) (hne : pattern ≠ [])
    (text : List α) : pattern.length * (replaceAll pattern replacement text).length ≤
      replacement.length * text.length := by
  have hpos := List.length_pos_iff.mpr hne
  have hskip : ∀ skip, pattern.length * (replaceFrom pattern replacement skip text).length ≤
      replacement.length * (text.length - skip) := by
    induction text with
    | nil =>
        intro skip
        simp [replaceFrom]
    | cons c text ih =>
        intro skip
        cases skip with
        | succ skip =>
            rw [replaceFrom, List.length_cons, Nat.add_sub_add_right]
            exact ih skip
        | zero =>
            rw [replaceFrom]
            split
            · rename_i hstarts
              have hlong := hstarts.length_le
              rw [List.length_cons] at hlong
              have hrest := ih (pattern.length - 1)
              have hsum : text.length + 1 = pattern.length + (text.length - (pattern.length - 1)) := by
                omega
              rw [List.length_append, Nat.mul_add, Nat.sub_zero, List.length_cons, hsum, Nat.mul_add,
                Nat.mul_comm pattern.length replacement.length]
              exact Nat.add_le_add_left hrest _
            · have hrest := ih 0
              rw [Nat.sub_zero] at hrest ⊢
              rw [List.length_cons, List.length_cons, Nat.mul_add, Nat.mul_add, Nat.mul_one,
                Nat.mul_one]
              exact Nat.add_le_add hrest hlength
  exact hskip 0

end Replacing

section Occurrences

lemma occurrences_cons : occurrences pattern (c :: text) =
    occurrences pattern text + if pattern <+: c :: text then 1 else 0 := by
  rw [occurrences, List.tails_cons, List.countP_cons]
  simp only [decide_eq_true_eq, occurrences]

lemma occurrences_of_not_infix (h : ¬pattern <:+: text) : occurrences pattern text = 0 := by
  apply List.countP_eq_zero.mpr
  intro rest hrest hstarts
  rw [List.mem_tails] at hrest
  exact h ((of_decide_eq_true hstarts).isInfix.trans hrest.isInfix)

lemma occurrences_append (hmark : mark ∉ q) (h : ¬mark :: q <:+: front) :
    occurrences (mark :: q) (front ++ mark :: q) = 1 := by
  induction front with
  | nil =>
      have hshort : ¬mark :: q <:+: q := fun hinside => by
        have hle := hinside.length_le
        rw [List.length_cons] at hle
        omega
      rw [List.nil_append, occurrences_cons, if_pos List.prefix_rfl, occurrences_of_not_infix hshort]
  | cons c front ih =>
      have hnot : ¬mark :: q <+: c :: (front ++ mark :: q) := by
        intro hstarts
        obtain ⟨rfl, hq⟩ := List.cons_prefix_cons.mp hstarts
        exact h (List.cons_prefix_cons.mpr ⟨rfl, prefix_of_append hmark hq⟩).isInfix
      rw [List.cons_append, occurrences_cons, if_neg hnot, ih fun hinside => h (List.infix_cons hinside)]

end Occurrences

end Library
