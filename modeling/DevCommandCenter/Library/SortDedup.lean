import Mathlib.Data.List.Destutter
import Mathlib.Data.List.Sort

/-! Sorting a list and dropping adjacent repeats, as `sort` followed by `dedup` does in place, and
keeping the first occurrence of each element. -/

namespace Library

variable {α : Type*} [LinearOrder α]

def sorted (l : List α) : List α :=
  l.insertionSort (· ≤ ·)

def sortDedup (l : List α) : List α :=
  (sorted l).destutter (· ≠ ·)

lemma pairwise_sorted (l : List α) : (sorted l).Pairwise (· ≤ ·) :=
  List.pairwise_insertionSort (· ≤ ·) l

lemma sorted_perm (l : List α) : (sorted l).Perm l :=
  List.perm_insertionSort (· ≤ ·) l

lemma sortDedup_eq_dedup (l : List α) : sortDedup l = (sorted l).dedup :=
  (pairwise_sorted l).destutter_eq_dedup

@[simp] lemma mem_sortDedup {l : List α} {a : α} : a ∈ sortDedup l ↔ a ∈ l := by
  rw [sortDedup_eq_dedup, List.mem_dedup, (sorted_perm l).mem_iff]

lemma nodup_sortDedup (l : List α) : (sortDedup l).Nodup := by
  rw [sortDedup_eq_dedup]
  exact List.nodup_dedup _

lemma pairwise_sortDedup (l : List α) : (sortDedup l).Pairwise (· ≤ ·) :=
  (pairwise_sorted l).sublist (List.destutter_sublist _ _)

lemma sorted_eq_of_perm {l l' : List α} (h : l.Perm l') (hl : l.Pairwise (· ≤ ·)) : sorted l' = l :=
  ((sorted_perm l').trans h.symm).eq_of_pairwise' (pairwise_sorted l') hl

theorem sorted_eq_sortDedup_iff {xs ys : List α} :
    sorted xs = sortDedup ys ↔ xs.Nodup ∧ ∀ a, a ∈ xs ↔ a ∈ ys := by
  constructor
  · intro h
    refine ⟨(sorted_perm xs).nodup_iff.mp (h ▸ nodup_sortDedup ys), fun a => ?_⟩
    rw [← (sorted_perm xs).mem_iff, h, mem_sortDedup]
  · rintro ⟨hxs, hmem⟩
    have hperm : (sortDedup ys).Perm xs :=
      (List.perm_ext_iff_of_nodup (nodup_sortDedup ys) hxs).mpr fun a => by
        rw [mem_sortDedup, hmem]
    exact sorted_eq_of_perm hperm (pairwise_sortDedup ys)

section FirstSeen

variable {α : Type} [DecidableEq α] {l : List α}

def addNew (seen : List α) (a : α) : List α :=
  if a ∈ seen then seen else seen ++ [a]

lemma mem_addNew {seen : List α} {a b : α} : b ∈ addNew seen a ↔ b ∈ seen ∨ b = a := by
  unfold addNew
  split
  · next h =>
    constructor
    · exact .inl
    · rintro (hb | rfl)
      · exact hb
      · exact h
  · simp

lemma mem_foldl_addNew {b : α} {seen : List α} : b ∈ l.foldl addNew seen ↔ b ∈ seen ∨ b ∈ l := by
  induction l generalizing seen with
  | nil => simp
  | cons a l ih =>
      rw [List.foldl_cons, ih, mem_addNew, List.mem_cons, or_assoc]

lemma nodup_foldl_addNew {seen : List α} (h : seen.Nodup) : (l.foldl addNew seen).Nodup := by
  induction l generalizing seen with
  | nil => exact h
  | cons a l ih =>
      rw [List.foldl_cons]
      apply ih
      unfold addNew
      split
      · exact h
      · next ha =>
        refine List.nodup_append.mpr ⟨h, List.nodup_singleton a, ?_⟩
        rintro b hb c hc rfl
        rw [List.mem_singleton.mp hc] at hb
        exact ha hb

lemma foldl_addNew_of_nodup {seen : List α} (h : (seen ++ l).Nodup) :
    l.foldl addNew seen = seen ++ l := by
  induction l generalizing seen with
  | nil => simp
  | cons a l ih =>
      have ha : a ∉ seen := by
        intro hmem
        exact (List.nodup_append.mp h).2.2 a hmem a (List.mem_cons_self ..) rfl
      rw [List.append_cons] at h ⊢
      rw [List.foldl_cons, addNew, if_neg ha, ih h]

lemma foldl_addNew_eq_filter {p : α → Bool} :
    l.foldl addNew [] = l.filter p ↔ l.Nodup ∧ ∀ a ∈ l, p a = true := by
  constructor
  · intro h
    have hall : ∀ a ∈ l, p a = true := by
      intro a ha
      have hmem : a ∈ l.foldl addNew [] := mem_foldl_addNew.mpr (.inr ha)
      rw [h] at hmem
      exact (List.mem_filter.mp hmem).2
    have hnodup : (l.foldl addNew []).Nodup := nodup_foldl_addNew List.nodup_nil
    rw [h, List.filter_eq_self.mpr hall] at hnodup
    exact ⟨hnodup, hall⟩
  · rintro ⟨hnodup, hall⟩
    rw [List.filter_eq_self.mpr hall, foldl_addNew_of_nodup (by simpa using hnodup), List.nil_append]

end FirstSeen

end Library
