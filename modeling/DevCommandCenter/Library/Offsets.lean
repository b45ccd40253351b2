import Mathlib.Algebra.BigOperators.Group.List.Basic
import Mathlib.Algebra.GroupWithZero.Nat
import Mathlib.Data.List.Basic
import Mathlib.Data.Nat.Notation

/-! Lists whose elements have sizes: a place in one is the sum of the sizes before it. -/

namespace Library

structure Range where
  start : ℕ
  stop : ℕ
  deriving DecidableEq

def Range.caret (n : ℕ) : Range :=
  ⟨n, n⟩

def Range.isEmpty (range : Range) : Bool :=
  decide (range.stop ≤ range.start)

variable {α : Type} (size : α → ℕ)

def extent (l : List α) : ℕ :=
  (l.map size).sum

def splitAtOffset : ℕ → List α → Option (List α × List α)
  | 0, l => some ([], l)
  | _ + 1, [] => none
  | n + 1, a :: l =>
      if size a ≤ n + 1 then (splitAtOffset (n + 1 - size a) l).map fun parts => (a :: parts.1, parts.2) else none

def isBoundary (n : ℕ) (l : List α) : Bool :=
  (splitAtOffset size n l).isSome

def slice (start stop : ℕ) (l : List α) : Option (List α) :=
  if start ≤ stop then
    (splitAtOffset size start l).bind fun parts => (splitAtOffset size (stop - start) parts.2).map Prod.fst
  else none

def replaceRange (start stop : ℕ) (new l : List α) : Option (List α) :=
  if start ≤ stop then
    (splitAtOffset size start l).bind fun parts =>
      (splitAtOffset size (stop - start) parts.2).map fun rest => parts.1 ++ (new ++ rest.2)
  else none

def floorBoundary (l : List α) : ℕ → ℕ
  | 0 => 0
  | n + 1 => if isBoundary size (n + 1) l then n + 1 else floorBoundary l n

def clampOffset (l : List α) (n : ℕ) : ℕ :=
  floorBoundary size l (min n (extent size l))

section Offsets

variable {size} {n start stop : ℕ} {l l' before middle after new : List α}

@[simp] lemma extent_nil : extent size [] = 0 := rfl

@[simp] lemma extent_cons (a : α) (l : List α) : extent size (a :: l) = size a + extent size l := by
  rw [extent, List.map_cons, List.sum_cons, extent]

@[simp] lemma extent_append (l l' : List α) : extent size (l ++ l') = extent size l + extent size l' := by
  rw [extent, List.map_append, List.sum_append, extent, extent]

lemma eq_nil_of_extent (hsize : ∀ a, 0 < size a) (h : extent size l = 0) : l = [] := by
  cases l with
  | nil => rfl
  | cons a l =>
      have := hsize a
      rw [extent_cons] at h
      omega

lemma splitAtOffset_eq_some (hsize : ∀ a, 0 < size a) :
    splitAtOffset size n l = some (before, after) ↔ before ++ after = l ∧ extent size before = n := by
  induction l generalizing n before with
  | nil =>
      cases n with
      | zero =>
          constructor
          · rintro ⟨⟩
            exact ⟨rfl, rfl⟩
          · rintro ⟨hnil, -⟩
            obtain ⟨rfl, rfl⟩ := List.append_eq_nil_iff.mp hnil
            rfl
      | succ n =>
          constructor
          · rintro ⟨⟩
          · rintro ⟨hnil, hn⟩
            obtain ⟨rfl, -⟩ := List.append_eq_nil_iff.mp hnil
            cases hn
  | cons a l ih =>
      have ha := hsize a
      cases n with
      | zero =>
          constructor
          · rintro ⟨⟩
            exact ⟨rfl, rfl⟩
          · rintro ⟨hl, hn⟩
            obtain rfl := eq_nil_of_extent hsize hn
            rw [← hl, List.nil_append, splitAtOffset]
      | succ n =>
          rw [splitAtOffset]
          split
          · next hle =>
              rw [Option.map_eq_some_iff]
              constructor
              · rintro ⟨⟨before', after'⟩, hparts, heq⟩
                obtain ⟨rfl, rfl⟩ := Prod.mk.inj heq
                obtain ⟨hl, hn⟩ := ih.mp hparts
                rw [List.cons_append, hl, extent_cons, hn]
                exact ⟨rfl, by omega⟩
              · rintro ⟨hl, hn⟩
                cases before with
                | nil => cases hn
                | cons b before =>
                    rw [List.cons_append, List.cons.injEq] at hl
                    obtain ⟨rfl, hl⟩ := hl
                    rw [extent_cons] at hn
                    exact ⟨(before, after), ih.mpr ⟨hl, by omega⟩, rfl⟩
          · next hlt =>
              constructor
              · rintro ⟨⟩
              · rintro ⟨hl, hn⟩
                cases before with
                | nil => cases hn
                | cons b before =>
                    rw [List.cons_append, List.cons.injEq] at hl
                    obtain ⟨rfl, -⟩ := hl
                    rw [extent_cons] at hn
                    omega

lemma isBoundary_iff (hsize : ∀ a, 0 < size a) :
    isBoundary size n l = true ↔ ∃ before after, before ++ after = l ∧ extent size before = n := by
  rw [isBoundary, Option.isSome_iff_exists]
  constructor
  · rintro ⟨⟨before, after⟩, h⟩
    exact ⟨before, after, (splitAtOffset_eq_some hsize).mp h⟩
  · rintro ⟨before, after, h⟩
    exact ⟨(before, after), (splitAtOffset_eq_some hsize).mpr h⟩

lemma slice_eq_some (hsize : ∀ a, 0 < size a) : slice size start stop l = some middle ↔
    ∃ before after, before ++ (middle ++ after) = l ∧ extent size before = start ∧
      start + extent size middle = stop := by
  rw [slice]
  split
  · next hle =>
      rw [Option.bind_eq_some_iff]
      simp only [Option.map_eq_some_iff]
      constructor
      · rintro ⟨⟨before, rest⟩, hfirst, ⟨middle', after⟩, hsecond, rfl⟩
        obtain ⟨hl, hstart⟩ := (splitAtOffset_eq_some hsize).mp hfirst
        obtain ⟨hrest, hstop⟩ := (splitAtOffset_eq_some hsize).mp hsecond
        exact ⟨before, after, by rw [hrest, hl], hstart, by dsimp only; omega⟩
      · rintro ⟨before, after, hl, hstart, hstop⟩
        refine ⟨(before, middle ++ after), (splitAtOffset_eq_some hsize).mpr ⟨hl, hstart⟩, (middle, after), ?_, rfl⟩
        exact (splitAtOffset_eq_some hsize).mpr ⟨rfl, by omega⟩
  · next hlt =>
      constructor
      · rintro ⟨⟩
      · rintro ⟨before, after, -, -, hstop⟩
        omega

lemma replaceRange_eq_some (hsize : ∀ a, 0 < size a) : replaceRange size start stop new l = some l' ↔
    ∃ before middle after, before ++ (middle ++ after) = l ∧ extent size before = start ∧
      start + extent size middle = stop ∧ before ++ (new ++ after) = l' := by
  rw [replaceRange]
  split
  · next hle =>
      rw [Option.bind_eq_some_iff]
      simp only [Option.map_eq_some_iff]
      constructor
      · rintro ⟨⟨before, rest⟩, hfirst, ⟨middle, after⟩, hsecond, rfl⟩
        obtain ⟨hl, hstart⟩ := (splitAtOffset_eq_some hsize).mp hfirst
        obtain ⟨hrest, hstop⟩ := (splitAtOffset_eq_some hsize).mp hsecond
        exact ⟨before, middle, after, by rw [hrest, hl], hstart, by omega, rfl⟩
      · rintro ⟨before, middle, after, hl, hstart, hstop, rfl⟩
        refine ⟨(before, middle ++ after), (splitAtOffset_eq_some hsize).mpr ⟨hl, hstart⟩, (middle, after), ?_, rfl⟩
        exact (splitAtOffset_eq_some hsize).mpr ⟨rfl, by omega⟩
  · next hlt =>
      constructor
      · rintro ⟨⟩
      · rintro ⟨before, middle, after, -, -, hstop, -⟩
        omega

lemma exists_between {after' before' : List α} (hsize : ∀ a, 0 < size a)
    (h : before ++ after = before' ++ after') (hle : extent size before ≤ extent size before') :
    ∃ middle, before ++ middle = before' ∧ middle ++ after' = after := by
  rcases List.append_eq_append_iff.mp h with ⟨middle, hbefore, hafter⟩ | ⟨rest, hbefore, hafter⟩
  · exact ⟨middle, hbefore.symm, hafter.symm⟩
  · rw [hbefore, extent_append] at hle
    obtain rfl := eq_nil_of_extent hsize (show extent size rest = 0 by omega)
    rw [List.append_nil] at hbefore
    exact ⟨[], by rw [List.append_nil, hbefore], hafter⟩

lemma isBoundary_zero : isBoundary size 0 l = true := by
  cases l <;> rfl

lemma isBoundary_floorBoundary (n : ℕ) : isBoundary size (floorBoundary size l n) l = true := by
  induction n with
  | zero => exact isBoundary_zero
  | succ n ih =>
      rw [floorBoundary]
      split
      · assumption
      · exact ih

lemma floorBoundary_le (n : ℕ) : floorBoundary size l n ≤ n := by
  induction n with
  | zero => exact Nat.le_refl _
  | succ n ih =>
      rw [floorBoundary]
      split
      · exact Nat.le_refl _
      · exact Nat.le_succ_of_le ih

lemma floorBoundary_eq (h : isBoundary size n l = true) : floorBoundary size l n = n := by
  cases n with
  | zero => rfl
  | succ n => rw [floorBoundary, if_pos h]

lemma isBoundary_clampOffset (n : ℕ) : isBoundary size (clampOffset size l n) l = true :=
  isBoundary_floorBoundary _

lemma clampOffset_le (n : ℕ) : clampOffset size l n ≤ n :=
  Nat.le_trans (floorBoundary_le _) (Nat.min_le_left _ _)

lemma le_extent_of_isBoundary (hsize : ∀ a, 0 < size a) (h : isBoundary size n l = true) :
    n ≤ extent size l := by
  obtain ⟨before, after, rfl, rfl⟩ := (isBoundary_iff hsize).mp h
  rw [extent_append]
  exact Nat.le_add_right _ _

lemma clampOffset_eq (hsize : ∀ a, 0 < size a) (h : isBoundary size n l = true) :
    clampOffset size l n = n := by
  rw [clampOffset, Nat.min_eq_left (le_extent_of_isBoundary hsize h), floorBoundary_eq h]

end Offsets

/-! A place means the same in a list and in its image. -/

section Map

variable {β : Type} {size} (f : β → α) (n start stop : ℕ) (new l : List β)

lemma extent_map : extent size (l.map f) = extent (fun b => size (f b)) l := by
  rw [extent, List.map_map]
  rfl

lemma splitAtOffset_map : splitAtOffset size n (l.map f) =
    (splitAtOffset (fun b => size (f b)) n l).map fun parts => (parts.1.map f, parts.2.map f) := by
  induction l generalizing n with
  | nil => cases n <;> rfl
  | cons b l ih =>
      cases n with
      | zero => rfl
      | succ n =>
          rw [List.map_cons, splitAtOffset, splitAtOffset, ih]
          split
          · rw [Option.map_map, Option.map_map]
            rfl
          · rfl

lemma isBoundary_map : isBoundary size n (l.map f) = isBoundary (fun b => size (f b)) n l := by
  rw [isBoundary, splitAtOffset_map, Option.isSome_map, isBoundary]

lemma floorBoundary_map : floorBoundary size (l.map f) n = floorBoundary (fun b => size (f b)) l n := by
  induction n with
  | zero => rfl
  | succ n ih => rw [floorBoundary, isBoundary_map, ih, floorBoundary]

lemma clampOffset_map : clampOffset size (l.map f) n = clampOffset (fun b => size (f b)) l n := by
  rw [clampOffset, extent_map, floorBoundary_map, clampOffset]

lemma slice_map : slice size start stop (l.map f) =
    (slice (fun b => size (f b)) start stop l).map (List.map f) := by
  rw [slice, slice]
  split
  · rw [splitAtOffset_map, Option.bind_map, Option.map_bind]
    congr 1
    funext parts
    simp only [Function.comp_apply]
    rw [splitAtOffset_map, Option.map_map, Option.map_map]
    rfl
  · rfl

lemma replaceRange_map : replaceRange size start stop (new.map f) (l.map f) =
    (replaceRange (fun b => size (f b)) start stop new l).map (List.map f) := by
  rw [replaceRange, replaceRange]
  split
  · rw [splitAtOffset_map, Option.bind_map, Option.map_bind]
    congr 1
    funext parts
    simp only [Function.comp_apply]
    rw [splitAtOffset_map, Option.map_map, Option.map_map]
    congr 1
    funext rest
    simp only [Function.comp_apply, List.map_append]
  · rfl

end Map

end Library
