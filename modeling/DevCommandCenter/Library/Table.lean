import Mathlib.Data.List.AList
import Mathlib.Data.List.Nodup
import Mathlib.Data.Nat.Notation

/-! Finite maps with the number of their entries, and tables of rows in the order of their insertion,
no two with the same primary key. -/

namespace Library

abbrev Table (κ ν : Type) : Type :=
  AList fun _ : κ => ν

namespace Table

variable {κ ν : Type}

def size (table : Table κ ν) : ℕ :=
  table.keys.length

@[simp] lemma size_empty : size (∅ : Table κ ν) = 0 := rfl

lemma size_eq_zero {table : Table κ ν} (h : ∀ k, k ∉ table) : size table = 0 := by
  rw [size, List.length_eq_zero_iff, List.eq_nil_iff_forall_not_mem]
  exact fun k hk => h k (AList.mem_keys.mpr hk)

variable [DecidableEq κ]

lemma mem_of_lookup {table : Table κ ν} {k : κ} {v : ν} (h : table.lookup k = some v) : k ∈ table :=
  AList.lookup_isSome.mp (h ▸ rfl)

lemma exists_lookup {table : Table κ ν} {k : κ} (h : k ∈ table) : ∃ v, table.lookup k = some v :=
  Option.isSome_iff_exists.mp (AList.lookup_isSome.mpr h)

lemma lookup_insert_eq {table : Table κ ν} {k k' : κ} {v : ν} :
    (table.insert k v).lookup k' = if k' = k then some v else table.lookup k' := by
  split
  · next h => rw [h, AList.lookup_insert]
  · next h => rw [AList.lookup_insert_ne h]

lemma lookup_erase_eq {table : Table κ ν} {k k' : κ} :
    (table.erase k).lookup k' = if k' = k then none else table.lookup k' := by
  split
  · next h => rw [h, AList.lookup_erase]
  · next h => rw [AList.lookup_erase_ne h]

def count (p : ν → Bool) (table : Table κ ν) : ℕ :=
  (table.entries.map Sigma.snd).countP p

omit [DecidableEq κ] in
@[simp] lemma count_empty (p : ν → Bool) : count p (∅ : Table κ ν) = 0 := rfl

lemma count_insert {table : Table κ ν} {k : κ} {v : ν} (h : k ∉ table) (p : ν → Bool) :
    count p (table.insert k v) = count p table + if p v then 1 else 0 := by
  rw [count, AList.entries_insert_of_notMem h, List.map_cons, List.countP_cons, count]

lemma perm_cons_kerase {k : κ} {v : ν} {l : List (Σ _ : κ, ν)} (h : l.dlookup k = some v) :
    l.Perm (⟨k, v⟩ :: l.kerase k) := by
  induction l with
  | nil => cases h
  | cons entry l ih =>
      obtain ⟨k', v'⟩ := entry
      by_cases hk : k = k'
      · subst hk
        rw [List.dlookup_cons_eq, Option.some.injEq] at h
        subst h
        have herase : List.kerase k (⟨k, v'⟩ :: l) = l := List.kerase_cons_eq rfl
        rw [herase]
      · rw [List.dlookup_cons_ne _ _ hk] at h
        have herase : List.kerase k (⟨k', v'⟩ :: l) = ⟨k', v'⟩ :: List.kerase k l :=
          List.kerase_cons_ne hk
        rw [herase]
        exact ((ih h).cons _).trans (List.Perm.swap ..)

lemma count_erase {table : Table κ ν} {k : κ} {v : ν} (h : table.lookup k = some v) (p : ν → Bool) :
    count p table = count p (table.erase k) + if p v then 1 else 0 := by
  have hperm := ((perm_cons_kerase h).map Sigma.snd).countP_eq p
  rw [List.map_cons, List.countP_cons] at hperm
  exact hperm

lemma count_pos {table : Table κ ν} {p : ν → Bool} :
    0 < count p table ↔ ∃ k v, table.lookup k = some v ∧ p v = true := by
  simp only [count, List.countP_pos_iff, List.mem_map]
  constructor
  · rintro ⟨v, ⟨⟨k, _⟩, hentry, rfl⟩, hv⟩
    exact ⟨k, _, AList.mem_lookup_iff.mpr hentry, hv⟩
  · rintro ⟨k, v, hlookup, hv⟩
    exact ⟨v, ⟨⟨k, v⟩, AList.mem_lookup_iff.mp hlookup, rfl⟩, hv⟩

def retain (keep : κ → ν → Bool) (table : Table κ ν) : Table κ ν where
  entries := table.entries.filter fun entry => keep entry.1 entry.2
  nodupKeys := table.nodupKeys.sublist List.filter_sublist

lemma lookup_retain {keep : κ → ν → Bool} {table : Table κ ν} {k : κ} :
    (retain keep table).lookup k = (table.lookup k).filter (keep k) := by
  ext v
  rw [Option.filter_eq_some_iff, ← Option.mem_def, ← Option.mem_def, AList.mem_lookup_iff,
    AList.mem_lookup_iff, retain, List.mem_filter]

lemma lookup_eq_none_of_isEmpty {table : Table κ ν} (h : table.entries.isEmpty = true) (k : κ) :
    table.lookup k = none := by
  rw [AList.lookup_eq_none, AList.mem_keys, AList.keys, List.isEmpty_iff.mp h]
  exact List.not_mem_nil

end Table

structure KeyedRows (κ ρ : Type) (key : ρ → κ) where
  rows : List ρ
  unique : (rows.map key).Nodup

namespace KeyedRows

variable {κ ρ : Type} {key : ρ → κ} {table table' : KeyedRows κ ρ key}

@[ext] lemma ext (h : table.rows = table'.rows) : table = table' := by
  cases table
  cases table'
  cases h
  rfl

def empty : KeyedRows κ ρ key where
  rows := []
  unique := List.nodup_nil

lemma eq_of_key {r r' : ρ} (hr : r ∈ table.rows) (hr' : r' ∈ table.rows) (h : key r = key r') :
    r = r' :=
  List.inj_on_of_nodup_map table.unique hr hr' h

def updateWhere (table : KeyedRows κ ρ key) (p : ρ → Bool) (f : ρ → ρ)
    (hf : ∀ r, key (f r) = key r) : KeyedRows κ ρ key where
  rows := table.rows.map fun r => if p r then f r else r
  unique := by
    have hkeys : (table.rows.map fun r => if p r then f r else r).map key = table.rows.map key := by
      rw [List.map_map]
      apply List.map_congr_left
      intro r _
      simp only [Function.comp_apply]
      split
      · exact hf r
      · rfl
    rw [hkeys]
    exact table.unique

lemma mem_updateWhere {p : ρ → Bool} {f : ρ → ρ} {hf : ∀ r, key (f r) = key r} {r : ρ} :
    r ∈ (table.updateWhere p f hf).rows ↔
      ∃ old ∈ table.rows, (if p old then f old else old) = r :=
  List.mem_map

def deleteWhere (table : KeyedRows κ ρ key) (p : ρ → Bool) : KeyedRows κ ρ key where
  rows := table.rows.filter fun r => !p r
  unique := table.unique.sublist (List.filter_sublist.map key)

def changed (table : KeyedRows κ ρ key) (p : ρ → Bool) : ℕ :=
  table.rows.countP p

lemma changed_key {p : ρ → Bool} {r : ρ} (hr : r ∈ table.rows) (hp : p r = true)
    (hkey : ∀ r', p r' = true → key r' = key r) : table.changed p = 1 := by
  have hnodup : table.rows.Nodup := table.unique.of_map _
  have hfilter : table.rows.filter p = [r] := by
    apply List.perm_singleton.mp
    apply (List.perm_ext_iff_of_nodup (hnodup.filter _) (List.nodup_singleton r)).mpr
    intro r'
    rw [List.mem_filter, List.mem_singleton]
    constructor
    · rintro ⟨hr', hp'⟩
      exact table.eq_of_key hr' hr (hkey r' hp')
    · rintro rfl
      exact ⟨hr, hp⟩
  rw [changed, List.countP_eq_length_filter, hfilter, List.length_singleton]

lemma exists_of_changed {p : ρ → Bool} (h : table.changed p ≠ 0) : ∃ r ∈ table.rows, p r = true := by
  by_contra hnone
  apply h
  rw [changed, List.countP_eq_zero]
  intro r hr hp
  exact hnone ⟨r, hr, hp⟩

section PrimaryKey

variable [DecidableEq κ]

def find? (table : KeyedRows κ ρ key) (k : κ) : Option ρ :=
  table.rows.find? fun r => key r = k

lemma find?_eq_some {k : κ} {r : ρ} : table.find? k = some r ↔ r ∈ table.rows ∧ key r = k := by
  constructor
  · intro h
    exact ⟨List.mem_of_find?_eq_some h, by simpa using List.find?_some h⟩
  · rintro ⟨hr, hk⟩
    cases hfind : table.find? k with
    | none => exact absurd hk (by simpa using List.find?_eq_none.mp hfind r hr)
    | some r' =>
        have hr' := List.mem_of_find?_eq_some hfind
        have hk' : key r' = k := by simpa using List.find?_some hfind
        rw [table.eq_of_key hr hr' (hk.trans hk'.symm)]

lemma find?_eq_none {k : κ} : table.find? k = none ↔ ∀ r ∈ table.rows, key r ≠ k := by
  simp [find?]

def insert (table : KeyedRows κ ρ key) (r : ρ) : Option (KeyedRows κ ρ key) :=
  if h : key r ∈ table.rows.map key then none
  else some {
    rows := table.rows ++ [r]
    unique := by
      rw [List.map_append]
      exact List.nodup_append.mpr ⟨table.unique, List.nodup_singleton _, by
        rintro k hk k' hk' rfl
        exact h (List.mem_singleton.mp hk' ▸ hk)⟩ }

lemma insert_eq_none {r : ρ} : table.insert r = none ↔ ∃ old ∈ table.rows, key old = key r := by
  unfold insert
  split
  · next h => simpa using h
  · next h => simpa using h

lemma insert_eq_some {r : ρ} : table.insert r = some table' ↔
    (∀ old ∈ table.rows, key old ≠ key r) ∧ table'.rows = table.rows ++ [r] := by
  unfold insert
  split
  · next h =>
    obtain ⟨old, hold, hkey⟩ := List.mem_map.mp h
    constructor
    · intro h'
      cases h'
    · rintro ⟨h', -⟩
      exact absurd hkey (h' old hold)
  · next h =>
    constructor
    · intro h'
      cases h'
      exact ⟨fun old hold hkey => h (List.mem_map.mpr ⟨old, hold, hkey⟩), rfl⟩
    · rintro ⟨-, h'⟩
      exact congrArg some (ext h'.symm)

end PrimaryKey

end KeyedRows

end Library
