import Mathlib.Data.List.Basic
import Mathlib.Order.Basic

/-! The versions of a value that is written over, the oldest first, and what was read of them. -/

namespace Library

variable {σ ρ ν : Type} [PartialOrder ρ] {rank : σ → ρ} {read : σ → ν} {s t u : σ} {l : List σ}
  {i k : ℕ} {v : ν}

/-- A later version of the same rank reads the same. -/
structure Advances (rank : σ → ρ) (read : σ → ν) (s t : σ) : Prop where
  le : rank s ≤ rank t
  same : rank s = rank t → read s = read t

lemma Advances.refl (s : σ) : Advances rank read s s :=
  ⟨le_rfl, fun _ => rfl⟩

lemma Advances.trans (h : Advances rank read s t) (h' : Advances rank read t u) :
    Advances rank read s u where
  le := h.le.trans h'.le
  same heq := by
    have hst : rank s = rank t := le_antisymm h.le (h'.le.trans_eq heq.symm)
    exact (h.same hst).trans (h'.same (hst.symm.trans heq))

lemma Advances.map {ν' : Type} (h : Advances rank read s t) (f : ν → ν') :
    Advances rank (fun s => f (read s)) s t where
  le := h.le
  same heq := congrArg f (h.same heq)

lemma Advances.between (h : Advances rank read s t) (h' : Advances rank read t u)
    (hrank : rank s = rank u) : read t = read u :=
  h'.same (le_antisymm h'.le (hrank.symm.trans_le h.le))

lemma advances_of_le (hl : l.Pairwise (Advances rank read)) (hik : i ≤ k) (hs : l[i]? = some s)
    (ht : l[k]? = some t) : Advances rank read s t := by
  obtain ⟨hi, rfl⟩ := List.getElem?_eq_some_iff.mp hs
  obtain ⟨hk, rfl⟩ := List.getElem?_eq_some_iff.mp ht
  rcases Nat.eq_or_lt_of_le hik with rfl | hlt
  · exact .refl _
  · exact List.pairwise_iff_getElem.mp hl i k hi hk hlt

def ReadSince (read : σ → ν) (versions : List σ) (i : ℕ) (v : ν) : Prop :=
  ∃ s ∈ versions.drop i, read s = v

lemma readSince_last (read : σ → ν) (hi : i ≤ l.length) (s : σ) :
    ReadSince read (l ++ [s]) i (read s) := by
  refine ⟨s, ?_, rfl⟩
  rw [List.drop_append_of_le_length hi]
  exact List.mem_append_right _ (List.mem_singleton_self s)

lemma ReadSince.append (h : ReadSince read l i v) (later : List σ) : ReadSince read (l ++ later) i v := by
  obtain ⟨s, hs, rfl⟩ := h
  refine ⟨s, ?_, rfl⟩
  rw [List.drop_append]
  exact List.mem_append_left _ hs

/-- What was read since a version was read since any version of the same rank. -/
lemma ReadSince.of_rank (h : ReadSince read l i v) (hl : l.Pairwise (Advances rank read))
    (hs : l[i]? = some s) (ht : l[k]? = some t) (hrank : rank s = rank t) : ReadSince read l k v := by
  obtain ⟨u, hu, rfl⟩ := h
  obtain ⟨j, hj⟩ := List.mem_iff_getElem?.mp hu
  rw [List.getElem?_drop] at hj
  rcases Nat.le_total k (i + j) with hle | hle
  · refine ⟨u, List.mem_iff_getElem?.mpr ⟨i + j - k, ?_⟩, rfl⟩
    rw [List.getElem?_drop, Nat.add_sub_cancel' hle, hj]
  · have hsu := advances_of_le hl (Nat.le_add_right i j) hs hj
    have hut := advances_of_le hl hle hj ht
    refine ⟨t, List.mem_iff_getElem?.mpr ⟨0, ?_⟩, (hsu.between hut hrank).symm⟩
    rw [List.getElem?_drop, Nat.add_zero, ht]

end Library
