import Mathlib.Data.List.Basic
import Mathlib.Data.Nat.Notation

/-! Cutting a stream at a mark while it arrives: the parts that are complete, and what is left over. -/

namespace Library

variable {α : Type} [DecidableEq α]

def cutAt (mark : α) : List α → List (List α) × List α
  | [] => ([], [])
  | a :: rest =>
      if a = mark then ([] :: (cutAt mark rest).1, (cutAt mark rest).2)
      else
        match (cutAt mark rest).1 with
        | [] => ([], a :: (cutAt mark rest).2)
        | part :: parts => ((a :: part) :: parts, (cutAt mark rest).2)

variable {mark : α}

theorem cutAt_append (mark : α) (l l' : List α) : cutAt mark (l ++ l') =
    ((cutAt mark l).1 ++ (cutAt mark ((cutAt mark l).2 ++ l')).1,
      (cutAt mark ((cutAt mark l).2 ++ l')).2) := by
  induction l with
  | nil => rfl
  | cons a l ih =>
      rw [List.cons_append, cutAt, cutAt, ih]
      split
      · rfl
      · next ha =>
          cases hparts : (cutAt mark l).1 with
          | nil =>
              dsimp only
              rw [List.nil_append, List.nil_append, List.cons_append, cutAt, if_neg ha]
          | cons part parts => rfl

lemma notMem_rest (mark : α) (l : List α) : mark ∉ (cutAt mark l).2 := by
  induction l with
  | nil => exact List.not_mem_nil
  | cons a l ih =>
      rw [cutAt]
      split
      · exact ih
      · next ha =>
          cases (cutAt mark l).1 with
          | nil =>
              rw [List.mem_cons, not_or]
              exact ⟨fun heq => ha heq.symm, ih⟩
          | cons part parts => exact ih

lemma exists_prefix_part {l : List α} (h : mark ∉ l) (l' : List α) :
    ∃ part ∈ (cutAt mark (l ++ l')).1 ++ [(cutAt mark (l ++ l')).2], l <+: part := by
  suffices hfirst : ∃ part parts, (cutAt mark (l ++ l')).1 ++ [(cutAt mark (l ++ l')).2] =
      part :: parts ∧ l <+: part by
    obtain ⟨part, parts, heq, hpart⟩ := hfirst
    exact ⟨part, heq ▸ List.mem_cons_self .., hpart⟩
  induction l with
  | nil =>
      cases hall : (cutAt mark ([] ++ l')).1 ++ [(cutAt mark ([] ++ l')).2] with
      | nil => simp at hall
      | cons part parts => exact ⟨part, parts, rfl, List.nil_prefix⟩
  | cons a l ih =>
      rw [List.mem_cons, not_or] at h
      obtain ⟨part, parts, heq, hpart⟩ := ih h.2
      rw [List.cons_append, cutAt, if_neg fun ha => h.1 ha.symm]
      cases hparts : (cutAt mark (l ++ l')).1 with
      | nil =>
          rw [hparts] at heq
          obtain ⟨rfl, rfl⟩ := List.cons.inj heq
          exact ⟨_, _, rfl, List.cons_prefix_cons.mpr ⟨rfl, hpart⟩⟩
      | cons first rest =>
          rw [hparts] at heq
          obtain ⟨rfl, rfl⟩ := List.cons.inj heq
          exact ⟨_, _, rfl, List.cons_prefix_cons.mpr ⟨rfl, hpart⟩⟩

theorem length_rest_le {bound : ℕ} {l l' : List α}
    (h : ∀ part ∈ (cutAt mark (l ++ l')).1 ++ [(cutAt mark (l ++ l')).2], part.length ≤ bound) :
    (cutAt mark l).2.length ≤ bound := by
  obtain ⟨part, hpart, hprefix⟩ := exists_prefix_part (notMem_rest mark l) l'
  refine Nat.le_trans hprefix.length_le (h part ?_)
  rw [cutAt_append, List.append_assoc]
  exact List.mem_append_right _ hpart

lemma cutAt_of_notMem {l : List α} (h : mark ∉ l) : cutAt mark l = ([], l) := by
  induction l with
  | nil => rfl
  | cons a l ih =>
      rw [List.mem_cons, not_or] at h
      rw [cutAt, if_neg fun ha => h.1 ha.symm, ih h.2]

end Library
