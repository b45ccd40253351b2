import Mathlib.Data.List.Nodup
import Mathlib.Logic.Function.Basic

/-! Maps that hold a limited number of entries and drop the oldest for a new one. -/

namespace Library

structure BoundedMap (κ α : Type) where
  get : κ → Option α
  order : List κ

namespace BoundedMap

variable {κ α : Type} [DecidableEq κ]

def empty : BoundedMap κ α where
  get _ := none
  order := []

def trim (capacity : ℕ) (get : κ → Option α) : List κ → BoundedMap κ α
  | [] => { get := get, order := [] }
  | oldest :: order =>
      if capacity < (oldest :: order).length then
        trim capacity (Function.update get oldest none) order
      else { get := get, order := oldest :: order }

def insert (capacity : ℕ) (m : BoundedMap κ α) (k : κ) (a : α) : BoundedMap κ α :=
  trim capacity (Function.update m.get k (some a)) (m.order ++ [k])

def replace (m : BoundedMap κ α) (k : κ) (a : α) : BoundedMap κ α :=
  if (m.get k).isSome then { m with get := Function.update m.get k (some a) } else m

def erase (m : BoundedMap κ α) (k : κ) : BoundedMap κ α where
  get := Function.update m.get k none
  order := m.order.filter (· ≠ k)

def evicted (capacity : ℕ) (m : BoundedMap κ α) : Option κ :=
  if m.order.length < capacity then none else m.order.head?

structure WellKept (capacity : ℕ) (m : BoundedMap κ α) : Prop where
  nodup : m.order.Nodup
  mem_order : ∀ k, k ∈ m.order ↔ (m.get k).isSome = true
  fits : m.order.length ≤ capacity

variable {capacity : ℕ} {m : BoundedMap κ α} {k : κ} {a : α}

omit [DecidableEq κ] in
lemma wellKept_empty : WellKept capacity (empty : BoundedMap κ α) where
  nodup := .nil
  mem_order k := by simp [empty]
  fits := Nat.zero_le _

lemma trim_fits {get : κ → Option α} {order : List κ} (h : order.length ≤ capacity) :
    trim capacity get order = ⟨get, order⟩ := by
  cases order with
  | nil => rfl
  | cons oldest order => rw [trim, if_neg (Nat.not_lt.mpr h)]

lemma trim_full {get : κ → Option α} {oldest : κ} {order : List κ}
    (h : order.length = capacity) :
    trim capacity get (oldest :: order) = ⟨Function.update get oldest none, order⟩ := by
  rw [trim, if_pos (by simp [h]), trim_fits (Nat.le_of_eq h)]

lemma WellKept.insert_cases (h : WellKept capacity m) (hcapacity : 0 < capacity) :
    (m.evicted capacity = none ∧ m.order.length < capacity ∧
      m.insert capacity k a = ⟨Function.update m.get k (some a), m.order ++ [k]⟩) ∨
    ∃ oldest rest, m.order = oldest :: rest ∧ m.evicted capacity = some oldest ∧
      (rest ++ [k]).length = capacity ∧ m.insert capacity k a =
        ⟨Function.update (Function.update m.get k (some a)) oldest none, rest ++ [k]⟩ := by
  by_cases hroom : m.order.length < capacity
  · refine .inl ⟨if_pos hroom, hroom, trim_fits ?_⟩
    simpa using Nat.succ_le_of_lt hroom
  · have hfull : m.order.length = capacity := Nat.le_antisymm h.fits (Nat.not_lt.mp hroom)
    obtain ⟨oldest, rest, horder⟩ := List.exists_cons_of_length_pos (hfull ▸ hcapacity)
    have hlength : (rest ++ [k]).length = capacity := by simpa [horder] using hfull
    refine .inr ⟨oldest, rest, horder, ?_, hlength, ?_⟩
    · rw [evicted, if_neg hroom, horder]
      rfl
    · rw [BoundedMap.insert, horder, List.cons_append, trim_full hlength]

omit [DecidableEq κ] in
lemma WellKept.ne_evicted (h : WellKept capacity m) (hk : m.get k = none) :
    m.evicted capacity ≠ some k := by
  intro hevicted
  unfold evicted at hevicted
  split at hevicted
  · cases hevicted
  · have hmem := (h.mem_order k).mp (List.mem_of_mem_head? hevicted)
    rw [hk] at hmem
    cases hmem

lemma WellKept.get_insert (h : WellKept capacity m) (hcapacity : 0 < capacity)
    (hk : m.get k = none) (j : κ) : (m.insert capacity k a).get j =
      if j = k then some a else if m.evicted capacity = some j then none else m.get j := by
  have hne := h.ne_evicted hk
  rcases h.insert_cases (k := k) (a := a) hcapacity with 
    ⟨hevicted, -, hinsert⟩ | ⟨oldest, rest, -, hevicted, -, hinsert⟩
  · simp [hinsert, hevicted, Function.update_apply]
  · rw [hevicted] at hne
    have hold : oldest ≠ k := fun heq => hne (congrArg some heq)
    rw [hinsert, hevicted]
    by_cases hj : j = oldest
    · subst hj
      simp [hold]
    · simp [hj, Ne.symm hj, Function.update_apply]

lemma WellKept.insert (h : WellKept capacity m) (hcapacity : 0 < capacity) (hk : m.get k = none) :
    WellKept capacity (m.insert capacity k a) := by
  have hnew : k ∉ m.order := fun hmem => by
    have hsome := (h.mem_order k).mp hmem
    rw [hk] at hsome
    cases hsome
  have hget := h.get_insert (a := a) hcapacity hk
  rcases h.insert_cases (k := k) (a := a) hcapacity with
    ⟨hevicted, hroom, hinsert⟩ | ⟨oldest, rest, horder, hevicted, hlength, hinsert⟩
  · have horder : (m.insert capacity k a).order = m.order ++ [k] := by rw [hinsert]
    refine ⟨?_, fun j => ?_, ?_⟩
    · rw [horder]
      simpa [List.nodup_append, h.nodup] using fun j hj => by rintro rfl; exact hnew hj
    · rw [horder, hget, hevicted]
      by_cases hj : j = k <;> simp [hj, h.mem_order]
    · rw [horder]
      simpa using Nat.succ_le_of_lt hroom
  · have hafter : (m.insert capacity k a).order = rest ++ [k] := by rw [hinsert]
    have hnodup := h.nodup
    rw [horder, List.nodup_cons] at hnodup
    have hrest : k ∉ rest := fun hmem => hnew (horder ▸ List.mem_cons_of_mem _ hmem)
    refine ⟨?_, fun j => ?_, ?_⟩
    · rw [hafter]
      simpa [List.nodup_append, hnodup.2] using fun j hj => by rintro rfl; exact hrest hj
    · rw [hafter, hget, hevicted]
      have hmem := h.mem_order j
      rw [horder, List.mem_cons] at hmem
      by_cases hj : j = k
      · simp [hj]
      · by_cases hold : oldest = j
        · subst hold
          simp [hj, hnodup.1]
        · simp [hj, hold, ← hmem, Ne.symm hold]
    · exact Nat.le_of_eq ((congrArg List.length hafter).trans hlength)

lemma get_replace (j : κ) : (m.replace k a).get j =
    if j = k ∧ (m.get k).isSome = true then some a else m.get j := by
  unfold replace
  by_cases hk : (m.get k).isSome = true
  · simp [hk, Function.update_apply]
  · simp [hk]

lemma get_erase (j : κ) : (m.erase k).get j = if j = k then none else m.get j := by
  simp [erase, Function.update_apply]

lemma WellKept.replace (h : WellKept capacity m) : WellKept capacity (m.replace k a) := by
  have horder : (m.replace k a).order = m.order := by
    unfold BoundedMap.replace
    split <;> rfl
  refine ⟨horder ▸ h.nodup, fun j => ?_, horder ▸ h.fits⟩
  rw [horder, h.mem_order, get_replace]
  split
  · next hk =>
    rw [hk.1, hk.2]
    rfl
  · rfl

lemma WellKept.erase (h : WellKept capacity m) : WellKept capacity (m.erase k) where
  nodup := h.nodup.filter _
  mem_order j := by
    by_cases hj : j = k <;> simp [BoundedMap.erase, hj, h.mem_order]
  fits := Nat.le_trans (List.length_filter_le _ _) h.fits

end BoundedMap

end Library
