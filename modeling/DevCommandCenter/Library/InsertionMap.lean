import Mathlib.Data.List.Nodup

/-! A map that keeps its entries in the order in which their keys were first set. -/

namespace Library

structure InsertionMap (κ ν : Type) where
  entries : List (κ × ν)
  unique : (entries.map Prod.fst).Nodup

namespace InsertionMap

variable {κ ν : Type} [DecidableEq κ] {m : InsertionMap κ ν} {k k' : κ} {v v' : ν}

def empty : InsertionMap κ ν where
  entries := []
  unique := List.nodup_nil

def get? (m : InsertionMap κ ν) (k : κ) : Option ν :=
  (m.entries.find? fun entry => entry.1 = k).map Prod.snd

def contains (m : InsertionMap κ ν) (k : κ) : Bool :=
  (m.get? k).isSome

lemma map_fst_replace (entries : List (κ × ν)) (k : κ) (v : ν) :
    (entries.map fun entry => if entry.1 = k then (k, v) else entry).map Prod.fst =
      entries.map Prod.fst := by
  rw [List.map_map]
  apply List.map_congr_left
  intro entry _
  simp only [Function.comp_apply]
  split
  · next h => exact h.symm
  · rfl

def set (m : InsertionMap κ ν) (k : κ) (v : ν) : InsertionMap κ ν :=
  if h : k ∈ m.entries.map Prod.fst then
    { entries := m.entries.map fun entry => if entry.1 = k then (k, v) else entry
      unique := by
        rw [map_fst_replace]
        exact m.unique }
  else
    { entries := m.entries ++ [(k, v)]
      unique := by
        rw [List.map_append]
        refine List.nodup_append.mpr ⟨m.unique, List.nodup_singleton _, ?_⟩
        rintro a ha b hb rfl
        rw [List.mem_singleton.mp hb] at ha
        exact h ha }

def delete (m : InsertionMap κ ν) (k : κ) : InsertionMap κ ν where
  entries := m.entries.filter fun entry => entry.1 ≠ k
  unique := m.unique.sublist (List.filter_sublist.map Prod.fst)

lemma get?_eq_some : m.get? k = some v ↔ (k, v) ∈ m.entries := by
  constructor
  · intro h
    obtain ⟨⟨k', v'⟩, hfind, rfl⟩ := Option.map_eq_some_iff.mp h
    have hkey : k' = k := by simpa using List.find?_some hfind
    subst hkey
    exact List.mem_of_find?_eq_some hfind
  · intro h
    cases hfind : m.entries.find? fun entry => entry.1 = k with
    | none => simpa using List.find?_eq_none.mp hfind _ h
    | some entry =>
        have hkey : entry.1 = k := by simpa using List.find?_some hfind
        have heq := List.inj_on_of_nodup_map m.unique (List.mem_of_find?_eq_some hfind) h hkey
        rw [get?, hfind, heq, Option.map_some]

@[simp] lemma get?_empty : (empty : InsertionMap κ ν).get? k = none := rfl

lemma mem_entries_set : (k', v') ∈ (m.set k v).entries ↔
    (k' = k ∧ v' = v) ∨ (k' ≠ k ∧ (k', v') ∈ m.entries) := by
  unfold set
  split
  · next h =>
    obtain ⟨⟨k₀, v₀⟩, hmem, rfl⟩ := List.mem_map.mp h
    constructor
    · intro hentry
      obtain ⟨⟨k₁, v₁⟩, hmem₁, heq⟩ := List.mem_map.mp hentry
      dsimp only at heq
      split at heq
      · cases heq
        exact .inl ⟨rfl, rfl⟩
      · next hne =>
        cases heq
        exact .inr ⟨hne, hmem₁⟩
    · rintro (⟨rfl, rfl⟩ | ⟨hne, hentry⟩)
      · exact List.mem_map.mpr ⟨_, hmem, if_pos rfl⟩
      · exact List.mem_map.mpr ⟨_, hentry, if_neg hne⟩
  · next h =>
    rw [List.mem_append, List.mem_singleton, Prod.mk.injEq, or_comm]
    refine or_congr_right ⟨fun hentry => ⟨?_, hentry⟩, And.right⟩
    rintro rfl
    exact h (List.mem_map_of_mem hentry)

lemma mem_entries_delete : (k', v') ∈ (m.delete k).entries ↔ k' ≠ k ∧ (k', v') ∈ m.entries := by
  simp [delete, and_comm]

@[simp] lemma get?_set : (m.set k v).get? k' = if k' = k then some v else m.get? k' := by
  apply Option.ext
  intro v'
  rw [get?_eq_some, mem_entries_set]
  split
  · next h => simp [h, eq_comm]
  · next h => simp [h, get?_eq_some]

@[simp] lemma get?_delete : (m.delete k).get? k' = if k' = k then none else m.get? k' := by
  apply Option.ext
  intro v'
  rw [get?_eq_some, mem_entries_delete]
  split
  · next h => simp [h]
  · next h => simp [h, get?_eq_some]

lemma get?_foldl_set_of_notMem {entries : List (κ × ν)} (h : k ∉ entries.map Prod.fst) (m : InsertionMap κ ν) :
    (entries.foldl (fun m entry => m.set entry.1 entry.2) m).get? k = m.get? k := by
  induction entries generalizing m with
  | nil => rfl
  | cons entry entries ih =>
      rw [List.map_cons, List.mem_cons, not_or] at h
      rw [List.foldl_cons, ih h.2, get?_set, if_neg h.1]

lemma get?_foldl_set {entries : List (κ × ν)} (hnodup : (entries.map Prod.fst).Nodup)
    (hmem : (k, v) ∈ entries) (m : InsertionMap κ ν) :
    (entries.foldl (fun m entry => m.set entry.1 entry.2) m).get? k = some v := by
  induction entries generalizing m with
  | nil => cases hmem
  | cons entry entries ih =>
      obtain ⟨hentry, hrest⟩ := List.nodup_cons.mp hnodup
      rw [List.foldl_cons]
      rcases List.mem_cons.mp hmem with rfl | hmem
      · rw [get?_foldl_set_of_notMem hentry, get?_set, if_pos rfl]
      · exact ih hrest hmem _

end InsertionMap

end Library
