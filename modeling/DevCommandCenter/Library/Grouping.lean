import Mathlib.Data.List.Induction
import Mathlib.Data.List.Nodup

/-! The elements of a list collected by class or key: class by class in a given order of the classes,
or in the order in which the keys first appear. -/

namespace Library

section Classes

variable {α κ γ : Type*} [DecidableEq κ] {f : α → κ} {order : List κ} {l : List α}

def grouped (f : α → κ) (order : List κ) (l : List α) : List α :=
  order.flatMap fun k => l.filter fun a => f a = k

lemma mem_grouped {a : α} : a ∈ grouped f order l ↔ a ∈ l ∧ f a ∈ order := by
  rw [grouped, List.mem_flatMap]
  constructor
  · rintro ⟨k, hk, hmem⟩
    obtain ⟨ha, hclass⟩ := List.mem_filter.mp hmem
    rw [decide_eq_true_eq] at hclass
    exact ⟨ha, hclass ▸ hk⟩
  · rintro ⟨ha, hk⟩
    exact ⟨f a, hk, List.mem_filter.mpr ⟨ha, decide_eq_true rfl⟩⟩

lemma grouped_nodup (horder : order.Nodup) (hl : l.Nodup) : (grouped f order l).Nodup := by
  refine List.nodup_flatMap.mpr ⟨fun k _ => hl.filter _, horder.imp fun {k k'} hne => ?_⟩
  refine List.disjoint_left.mpr fun a ha ha' => hne ?_
  have hk := (List.mem_filter.mp ha).2
  have hk' := (List.mem_filter.mp ha').2
  rw [decide_eq_true_eq] at hk hk'
  exact hk.symm.trans hk'

lemma grouped_map_nodup {key : α → γ} (horder : order.Nodup) (hl : (l.map key).Nodup) :
    ((grouped f order l).map key).Nodup := by
  refine List.Nodup.map_on (fun a ha a' ha' => ?_) (grouped_nodup horder (hl.of_map key))
  exact List.inj_on_of_nodup_map hl (mem_grouped.mp ha).1 (mem_grouped.mp ha').1

lemma filter_grouped (p : α → Bool) : (grouped f order l).filter p = grouped f order (l.filter p) := by
  rw [grouped, List.filter_flatMap, grouped]
  refine List.flatMap_congr fun k _ => ?_
  rw [List.filter_filter, List.filter_filter]
  exact List.filter_congr fun a _ => Bool.and_comm ..

lemma grouped_map {β : Type*} (g : β → α) (l : List β) :
    grouped f order (l.map g) = (grouped (fun b => f (g b)) order l).map g := by
  rw [grouped, grouped, List.map_flatMap]
  refine List.flatMap_congr fun k _ => ?_
  rw [List.filter_map]
  rfl

lemma eq_of_map_eq {key : α → γ} {l' whole : List α} (hwhole : (whole.map key).Nodup) (hl : l ⊆ whole)
    (hl' : l' ⊆ whole) (h : l.map key = l'.map key) : l = l' := by
  induction l generalizing l' with
  | nil => exact (List.map_eq_nil_iff.mp h.symm).symm
  | cons a l ih =>
      cases l' with
      | nil => cases h
      | cons a' l' =>
          obtain ⟨ha, hrest⟩ := List.cons_subset.mp hl
          obtain ⟨ha', hrest'⟩ := List.cons_subset.mp hl'
          obtain ⟨hkey, htail⟩ := List.cons_eq_cons.mp h
          rw [List.inj_on_of_nodup_map hwhole ha ha' hkey, ih hrest hrest' htail]

lemma grouped_cons {k : κ} (hk : k ∉ order) :
    grouped f (k :: order) l =
      l.filter (fun a => f a = k) ++ grouped f order (l.filter fun a => f a ≠ k) := by
  rw [grouped, List.flatMap_cons]
  congr 1
  refine List.flatMap_congr fun k' hk' => ?_
  rw [List.filter_filter]
  refine List.filter_congr fun a _ => ?_
  have hne : k' ≠ k := fun heq => hk (heq ▸ hk')
  by_cases hclass : f a = k' <;> simp [hclass, hne]

lemma pairwise_idxOf_cons {k : κ} (hcover : ∀ a ∈ l, f a ∈ k :: order)
    (h : l.Pairwise fun a b => (k :: order).idxOf (f a) ≤ (k :: order).idxOf (f b)) :
    l = l.filter (fun a => f a = k) ++ l.filter fun a => f a ≠ k := by
  induction l with
  | nil => rfl
  | cons a l ih =>
      obtain ⟨hfirst, hrest⟩ := List.pairwise_cons.mp h
      obtain ⟨ha, hl⟩ := List.forall_mem_cons.mp hcover
      by_cases hclass : f a = k
      · rw [List.filter_cons_of_pos (by simpa using hclass),
          List.filter_cons_of_neg (by simpa using hclass), List.cons_append, ← ih hl hrest]
      · have hnone : l.filter (fun b => f b = k) = [] := by
          refine List.filter_eq_nil_iff.mpr fun b hb hk => ?_
          have hle := hfirst b hb
          rw [of_decide_eq_true hk, List.idxOf_cons_self, List.idxOf_cons_ne _ (Ne.symm hclass)] at hle
          omega
        have hall : l.filter (fun b => f b ≠ k) = l := by
          refine List.filter_eq_self.mpr fun b hb => ?_
          have hb := List.filter_eq_nil_iff.mp hnone b hb
          simpa using hb
        rw [List.filter_cons_of_neg (by simpa using hclass), hnone,
          List.filter_cons_of_pos (by simpa using hclass), hall, List.nil_append]

lemma grouped_pairwise (horder : order.Nodup) (l : List α) :
    (grouped f order l).Pairwise fun a b => order.idxOf (f a) ≤ order.idxOf (f b) := by
  induction order generalizing l with
  | nil => exact List.Pairwise.nil
  | cons k order ih =>
      obtain ⟨hk, hnodup⟩ := List.nodup_cons.mp horder
      rw [grouped_cons hk, List.pairwise_append]
      have hclass : ∀ a ∈ l.filter (fun a => f a = k), f a = k :=
        fun a ha => of_decide_eq_true (List.mem_filter.mp ha).2
      have hother : ∀ a ∈ grouped f order (l.filter fun a => f a ≠ k), k ≠ f a := by
        intro a ha heq
        exact hk (heq ▸ (mem_grouped.mp ha).2)
      refine ⟨List.pairwise_of_forall_mem_list fun a ha b hb => ?_, ?_, fun a ha b hb => ?_⟩
      · have hsame : f a = f b := (hclass a ha).trans (hclass b hb).symm
        exact Nat.le_of_eq (congrArg (k :: order).idxOf hsame)
      · refine (ih hnodup _).imp_of_mem fun {a b} ha hb hle => ?_
        rw [List.idxOf_cons_ne _ (hother a ha), List.idxOf_cons_ne _ (hother b hb)]
        exact Nat.succ_le_succ hle
      · rw [hclass a ha, List.idxOf_cons_self]
        exact Nat.zero_le _

theorem grouped_eq_iff (horder : order.Nodup) (hcover : ∀ a ∈ l, f a ∈ order) :
    grouped f order l = l ↔ l.Pairwise fun a b => order.idxOf (f a) ≤ order.idxOf (f b) := by
  constructor
  · intro h
    have hpairwise : (grouped f order l).Pairwise fun a b =>
        order.idxOf (f a) ≤ order.idxOf (f b) := grouped_pairwise horder l
    rwa [h] at hpairwise
  · intro h
    induction order generalizing l with
    | nil =>
        cases l with
        | nil => rfl
        | cons a l => cases hcover a (List.mem_cons_self ..)
    | cons k order ih =>
        obtain ⟨hk, hnodup⟩ := List.nodup_cons.mp horder
        have hsplit := pairwise_idxOf_cons hcover h
        have hne : ∀ a ∈ l.filter (fun a => f a ≠ k), k ≠ f a :=
          fun a ha => Ne.symm (of_decide_eq_true (List.mem_filter.mp ha).2)
        have hrest : (l.filter fun a => f a ≠ k).Pairwise fun a b =>
            order.idxOf (f a) ≤ order.idxOf (f b) := by
          refine (h.sublist List.filter_sublist).imp_of_mem fun {a b} ha hb hle => ?_
          rw [List.idxOf_cons_ne _ (hne a ha), List.idxOf_cons_ne _ (hne b hb)] at hle
          exact Nat.le_of_succ_le_succ hle
        have hcovered : ∀ a ∈ l.filter (fun a => f a ≠ k), f a ∈ order := by
          intro a ha
          have hmem := hcover a (List.mem_filter.mp ha).1
          exact (List.mem_cons.mp hmem).resolve_left (Ne.symm (hne a ha))
        rw [grouped_cons hk, ih hnodup hcovered hrest]
        exact hsplit.symm

end Classes

section Buckets

variable {α κ : Type*} [DecidableEq κ] {key : α → κ} {a : α} {l : List α}

def pushBucket (key : α → κ) (a : α) : List (κ × List α) → List (κ × List α)
  | [] => [(key a, [a])]
  | (k, as) :: bs => if k = key a then (k, as ++ [a]) :: bs else (k, as) :: pushBucket key a bs

def buckets (key : α → κ) (l : List α) : List (κ × List α) :=
  l.foldl (fun bs a => pushBucket key a bs) []

lemma buckets_concat : buckets key (l ++ [a]) = pushBucket key a (buckets key l) := by
  rw [buckets, List.foldl_append]
  rfl

lemma map_fst_pushBucket (bs : List (κ × List α)) :
    (pushBucket key a bs).map Prod.fst =
      if key a ∈ bs.map Prod.fst then bs.map Prod.fst else bs.map Prod.fst ++ [key a] := by
  induction bs with
  | nil => rfl
  | cons b bs ih =>
      obtain ⟨k, as⟩ := b
      by_cases hk : k = key a
      · simp [pushBucket, hk]
      · have hk' : ¬ key a = k := fun h => hk h.symm
        by_cases hmem : key a ∈ bs.map Prod.fst
        · rw [if_pos hmem] at ih
          rw [pushBucket, if_neg hk, List.map_cons, ih, List.map_cons,
            if_pos (List.mem_cons_of_mem _ hmem)]
        · rw [if_neg hmem] at ih
          rw [pushBucket, if_neg hk, List.map_cons, ih, List.map_cons, if_neg, List.cons_append]
          rw [List.mem_cons, not_or]
          exact ⟨hk', hmem⟩

lemma mem_pushBucket {b : κ × List α} {bs : List (κ × List α)} (hnodup : (bs.map Prod.fst).Nodup)
    (hb : b ∈ pushBucket key a bs) :
    (b ∈ bs ∧ b.1 ≠ key a) ∨ (∃ as, (key a, as) ∈ bs ∧ b = (key a, as ++ [a])) ∨
      key a ∉ bs.map Prod.fst ∧ b = (key a, [a]) := by
  induction bs with
  | nil =>
      rw [pushBucket, List.mem_singleton] at hb
      exact .inr (.inr ⟨List.not_mem_nil, hb⟩)
  | cons c bs ih =>
      obtain ⟨k, as⟩ := c
      obtain ⟨hk', hrest⟩ := List.nodup_cons.mp hnodup
      by_cases hk : k = key a
      · rw [pushBucket, if_pos hk, List.mem_cons] at hb
        rcases hb with rfl | hb
        · exact .inr (.inl ⟨as, hk ▸ List.mem_cons_self, by rw [hk]⟩)
        · refine .inl ⟨List.mem_cons_of_mem _ hb, fun hbk => hk' ?_⟩
          exact List.mem_map.mpr ⟨b, hb, hbk.trans hk.symm⟩
      · rw [pushBucket, if_neg hk, List.mem_cons] at hb
        rcases hb with rfl | hb
        · exact .inl ⟨List.mem_cons_self, hk⟩
        · rcases ih hrest hb with ⟨hmem, hne⟩ | ⟨as', hmem, rfl⟩ | ⟨hnew, rfl⟩
          · exact .inl ⟨List.mem_cons_of_mem _ hmem, hne⟩
          · exact .inr (.inl ⟨as', List.mem_cons_of_mem _ hmem, rfl⟩)
          · refine .inr (.inr ⟨?_, rfl⟩)
            rw [List.map_cons, List.mem_cons, not_or]
            exact ⟨fun h => hk h.symm, hnew⟩

structure Bucketed (key : α → κ) (l : List α) (bs : List (κ × List α)) : Prop where
  mem_keys : ∀ k, k ∈ bs.map Prod.fst ↔ k ∈ l.map key
  ordered : (bs.map Prod.fst).Pairwise fun k k' => (l.map key).idxOf k < (l.map key).idxOf k'
  contents : ∀ b ∈ bs, b.2 = l.filter fun a => key a = b.1

namespace Bucketed

variable {bs : List (κ × List α)}

lemma nodup (h : Bucketed key l bs) : (bs.map Prod.fst).Nodup := by
  refine h.ordered.imp fun hlt heq => ?_
  rw [heq] at hlt
  exact Nat.lt_irrefl _ hlt

lemma push (h : Bucketed key l bs) (a : α) : Bucketed key (l ++ [a]) (pushBucket key a bs) := by
  have hkeep : ∀ k ∈ l.map key, (l.map key ++ [key a]).idxOf k = (l.map key).idxOf k := by
    intro k hk
    rw [List.idxOf_append, if_pos hk]
  have hordered : (bs.map Prod.fst).Pairwise fun k k' =>
      (l.map key ++ [key a]).idxOf k < (l.map key ++ [key a]).idxOf k' := by
    refine h.ordered.imp_of_mem fun hk hk' hlt => ?_
    rw [hkeep _ ((h.mem_keys _).mp hk), hkeep _ ((h.mem_keys _).mp hk')]
    exact hlt
  constructor
  · intro k
    rw [map_fst_pushBucket, List.map_append, List.mem_append, List.map_singleton]
    split
    · next hmem =>
        rw [h.mem_keys]
        refine ⟨.inl, fun hk => hk.elim id fun hk => ?_⟩
        rw [List.mem_singleton.mp hk]
        exact (h.mem_keys _).mp hmem
    · rw [List.mem_append, h.mem_keys]
  · rw [map_fst_pushBucket, List.map_append, List.map_singleton]
    split
    · exact hordered
    · next hnew =>
        refine List.pairwise_append.mpr ⟨hordered, List.pairwise_singleton _ _, ?_⟩
        intro k hk k' hk'
        rw [List.mem_singleton.mp hk', hkeep _ ((h.mem_keys _).mp hk), List.idxOf_append,
          if_neg fun hmem => hnew ((h.mem_keys _).mpr hmem)]
        exact Nat.lt_of_lt_of_le (List.idxOf_lt_length_of_mem ((h.mem_keys _).mp hk)) (Nat.le_add_left _ _)
  · intro b hb
    have htake : [a].filter (fun a' => key a' = key a) = [a] :=
      List.filter_cons_of_pos (decide_eq_true rfl)
    rw [List.filter_append]
    rcases mem_pushBucket h.nodup hb with ⟨hmem, hne⟩ | ⟨as, hmem, rfl⟩ | ⟨hnew, rfl⟩
    · have hskip : [a].filter (fun a => key a = b.1) = [] :=
        List.filter_eq_nil_iff.mpr fun a' ha' hkey => hne (by
          rw [List.mem_singleton.mp ha', decide_eq_true_eq] at hkey
          exact hkey.symm)
      rw [h.contents b hmem, hskip, List.append_nil]
    · have has := h.contents _ hmem
      simp only at has ⊢
      rw [htake, ← has]
    · have hnone : l.filter (fun a' => key a' = key a) = [] := by
        refine List.filter_eq_nil_iff.mpr fun a' ha' hkey => hnew ((h.mem_keys _).mpr ?_)
        rw [← of_decide_eq_true hkey]
        exact List.mem_map_of_mem ha'
      simp only
      rw [hnone, htake, List.nil_append]

lemma mem_contents (h : Bucketed key l bs) {b : κ × List α} (hb : b ∈ bs) :
    a ∈ b.2 ↔ a ∈ l ∧ key a = b.1 := by
  rw [h.contents b hb, List.mem_filter, decide_eq_true_eq]

end Bucketed

lemma bucketed_buckets (l : List α) : Bucketed key l (buckets key l) := by
  induction l using List.reverseRecOn with
  | nil =>
      refine ⟨fun k => Iff.rfl, List.Pairwise.nil, fun b hb => absurd hb List.not_mem_nil⟩
  | append_singleton l a ih =>
      rw [buckets_concat]
      exact ih.push a

lemma pushBucket_perm (bs : List (κ × List α)) :
    ((pushBucket key a bs).flatMap Prod.snd).Perm (bs.flatMap Prod.snd ++ [a]) := by
  induction bs with
  | nil => exact List.Perm.refl _
  | cons b bs ih =>
      obtain ⟨k, as⟩ := b
      rw [pushBucket]
      split
      · rw [List.flatMap_cons, List.flatMap_cons, List.append_assoc, List.append_assoc]
        exact List.Perm.append_left _ List.perm_append_comm
      · rw [List.flatMap_cons, List.flatMap_cons, List.append_assoc]
        exact ih.append_left _

lemma buckets_perm (l : List α) : ((buckets key l).flatMap Prod.snd).Perm l := by
  induction l using List.reverseRecOn with
  | nil => exact List.Perm.refl _
  | append_singleton l a ih =>
      rw [buckets_concat]
      exact (pushBucket_perm _).trans (ih.append_right _)

end Buckets

end Library
