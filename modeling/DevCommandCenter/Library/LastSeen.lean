import Mathlib.Data.Finset.Card
import Mathlib.Data.Finset.Option
import Mathlib.Data.List.Induction

/-! Counting the distinct ids of a sequence of items with only the last id kept. -/

namespace Library

variable {α ι : Type}

structure Tally (α : Type) where
  last : Option α
  count : ℕ

namespace Tally

def seen (f : ι → Option (α × Bool)) (t : Tally α) (l : List ι) : List α :=
  t.last.toList ++ (l.filterMap f).map Prod.fst

def RepeatsAdjacent (f : ι → Option (α × Bool)) (t : Tally α) (l : List ι) : Prop :=
  ∀ before i after e, l = before ++ i :: after → f i = some e → e.1 ∈ t.seen f before →
    (t.seen f before).getLast? = some e.1

def Consistent (f : ι → Option (α × Bool)) (l : List ι) : Prop :=
  ∀ i ∈ l, ∀ j ∈ l, ∀ a b c, f i = some (a, b) → f j = some (a, c) → b = c

variable {f : ι → Option (α × Bool)} {t : Tally α} {l : List ι}

lemma seen_concat (i : ι) : t.seen f (l ++ [i]) = t.seen f l ++ (f i).toList.map Prod.fst := by
  cases h : f i <;> simp [seen, h]

lemma RepeatsAdjacent.of_concat {i : ι} (h : t.RepeatsAdjacent f (l ++ [i])) :
    t.RepeatsAdjacent f l := by
  intro before j after e hl
  apply h before j (after ++ [i]) e
  rw [hl, List.append_assoc, List.cons_append]

lemma consistent_of_weighs (h : ∀ i ∈ l, ∀ a weighs, f i = some (a, weighs) → weighs = true) :
    Consistent f l := by
  intro i hi j hj a b c hb hc
  rw [h i hi a b hb, h j hj a c hc]

variable [DecidableEq α]

def record (t : Tally α) : Option (α × Bool) → Tally α
  | none => t
  | some (a, weighs) =>
      if t.last = some a then t else { last := some a, count := t.count + weighs.toNat }

lemma record_last {a : α} {weighs : Bool} (h : t.last = some a) :
    t.record (some (a, weighs)) = t :=
  if_pos h

lemma record_other {a : α} {weighs : Bool} (h : t.last ≠ some a) :
    t.record (some (a, weighs)) = { last := some a, count := t.count + weighs.toNat } :=
  if_neg h

def recordAll (f : ι → Option (α × Bool)) (t : Tally α) (l : List ι) : Tally α :=
  l.foldl (fun t i => t.record (f i)) t

@[simp] lemma recordAll_nil (f : ι → Option (α × Bool)) (t : Tally α) : t.recordAll f [] = t := rfl

lemma recordAll_concat (f : ι → Option (α × Bool)) (t : Tally α) (l : List ι) (i : ι) :
    t.recordAll f (l ++ [i]) = (t.recordAll f l).record (f i) := by
  simp [recordAll]

def weighed (f : ι → Option (α × Bool)) (l : List ι) : Finset α :=
  (((l.filterMap f).filter Prod.snd).map Prod.fst).toFinset

lemma mem_weighed {a : α} : a ∈ weighed f l ↔ ∃ i ∈ l, f i = some (a, true) := by
  simp [weighed]

lemma seen_of_mem_weighed {a : α} (h : a ∈ weighed f l) : a ∈ t.seen f l := by
  obtain ⟨i, hi, hf⟩ := mem_weighed.mp h
  apply List.mem_append_right
  exact List.mem_map.mpr ⟨(a, true), List.mem_filterMap.mpr ⟨i, hi, hf⟩, rfl⟩

theorem recordAll_last : (t.recordAll f l).last = (t.seen f l).getLast? := by
  induction l using List.reverseRecOn with
  | nil => cases h : t.last <;> simp [seen, h]
  | append_singleton l i ih =>
      rw [recordAll_concat, seen_concat]
      cases hi : f i with
      | none => simpa [record] using ih
      | some e =>
          obtain ⟨a, weighs⟩ := e
          by_cases h : (t.recordAll f l).last = some a
          · simp [record_last h, h]
          · simp [record_other h]

lemma weighed_concat_none {i : ι} (hi : f i = none) : weighed f (l ++ [i]) = weighed f l := by
  ext a
  simp [mem_weighed, or_and_right, exists_or, hi]

lemma weighed_concat_some {i : ι} {a : α} {weighs : Bool} (hi : f i = some (a, weighs)) :
    weighed f (l ++ [i]) = if weighs then insert a (weighed f l) else weighed f l := by
  cases weighs with
  | false =>
      ext b
      simp [mem_weighed, or_and_right, exists_or, hi]
  | true =>
      ext b
      rw [if_pos rfl, Finset.mem_insert, mem_weighed, mem_weighed]
      simp only [List.mem_append, List.mem_singleton, or_and_right, exists_or, exists_eq_left, hi,
        Option.some.injEq, Prod.mk.injEq, and_true]
      rw [or_comm, eq_comm]

theorem recordAll_count (hsame : Consistent f l) (h : t.RepeatsAdjacent f l) :
    (t.recordAll f l).count = t.count + (weighed f l \ t.last.toFinset).card := by
  induction l using List.reverseRecOn with
  | nil => simp [weighed]
  | append_singleton l i ih =>
      have hsame' : Consistent f l := by
        intro j hj k hk
        exact hsame j (List.mem_append_left _ hj) k (List.mem_append_left _ hk)
      have ih := ih hsame' h.of_concat
      rw [recordAll_concat]
      cases hi : f i with
      | none => rw [weighed_concat_none hi, ← ih, record]
      | some e =>
          obtain ⟨a, weighs⟩ := e
          rw [weighed_concat_some hi]
          by_cases hlast : (t.seen f l).getLast? = some a
          · -- the id was seen before: it weighed the same there, or the tally started with it
            rw [record_last (recordAll_last.trans hlast), ih]
            cases weighs with
            | false => rfl
            | true =>
                rw [if_pos rfl]
                congr 2
                rcases List.mem_append.mp (List.mem_of_getLast? hlast) with hstart | hmem
                · rw [Finset.insert_sdiff_of_mem]
                  simpa [eq_comm] using hstart
                · obtain ⟨⟨_, b⟩, hb, rfl⟩ := List.mem_map.mp hmem
                  obtain ⟨j, hj, hfj⟩ := List.mem_filterMap.mp hb
                  have hb' : b = true := hsame j (List.mem_append_left _ hj) i (by simp) _ _ _ hfj hi
                  rw [Finset.insert_eq_of_mem]
                  exact mem_weighed.mpr ⟨j, hj, hb' ▸ hfj⟩
          · have hnew : a ∉ t.seen f l := fun hmem => hlast (h l i [] _ (by simp) hi hmem)
            rw [record_other fun heq => hlast (recordAll_last.symm.trans heq)]
            cases weighs with
            | false => simpa using ih
            | true =>
                have hstart : a ∉ t.last.toFinset := by
                  intro hmem
                  apply hnew
                  apply List.mem_append_left
                  simpa using hmem
                rw [if_pos rfl, Finset.insert_sdiff_of_notMem _ hstart, Finset.card_insert_of_notMem]
                · simp only [ih, Bool.toNat_true, Nat.add_assoc]
                · intro hmem
                  exact hnew (seen_of_mem_weighed (Finset.mem_sdiff.mp hmem).1)

end Tally

end Library
