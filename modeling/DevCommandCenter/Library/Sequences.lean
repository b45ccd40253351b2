import Mathlib.Data.List.Pairwise
import Mathlib.Order.Nat

/-! Lists whose elements carry increasing sequence numbers. -/

namespace Library

variable {α β : Type*}

lemma take_by_seq {seq : α → ℕ} {l : List α} (h : l.Pairwise fun a b => seq a < seq b) (n : ℕ) :
    l.filter (fun a => seq a ≤ n) <+: l := by
  induction l with
  | nil => exact List.prefix_rfl
  | cons a l ih =>
      obtain ⟨ha, hl⟩ := List.pairwise_cons.mp h
      by_cases hn : seq a ≤ n
      · rw [List.filter_cons_of_pos (by simpa using hn)]
        exact (List.prefix_cons_inj a).mpr (ih hl)
      · rw [List.filter_cons_of_neg (by simpa using hn)]
        have hnil : l.filter (fun b => seq b ≤ n) = [] := by
          rw [List.filter_eq_nil_iff]
          intro b hb
          have hab := ha b hb
          simpa using by omega
        rw [hnil]
        exact List.nil_prefix

lemma filter_le_append_filter_lt {seq : α → ℕ} {l : List α}
    (h : l.Pairwise fun a b => seq a < seq b) (n : ℕ) :
    l.filter (fun a => seq a ≤ n) ++ l.filter (fun a => n < seq a) = l := by
  induction l with
  | nil => rfl
  | cons a l ih =>
      obtain ⟨ha, hl⟩ := List.pairwise_cons.mp h
      by_cases hn : seq a ≤ n
      · rw [List.filter_cons_of_pos (by simpa using hn), List.filter_cons_of_neg (by simpa using hn),
          List.cons_append, ih hl]
      · have hlow : (a :: l).filter (fun b => seq b ≤ n) = [] := by
          rw [List.filter_eq_nil_iff]
          intro b hb
          rcases List.mem_cons.mp hb with rfl | hb
          · simpa using hn
          · have hab := ha b hb
            simpa using by omega
        have hhigh : (a :: l).filter (fun b => n < seq b) = a :: l := by
          rw [List.filter_eq_self]
          intro b hb
          rcases List.mem_cons.mp hb with rfl | hb
          · simpa using hn
          · have hab := ha b hb
            simpa using by omega
        rw [hlow, hhigh, List.nil_append]

lemma filter_le_eq_append_iff {seq : α → ℕ} {l fresh : List α} {c m : ℕ}
    (h : l.Pairwise fun a b => seq a < seq b) (hle : ∀ a ∈ fresh, seq a ≤ m) (hc : c ≤ m)
    (hm : m = c ∨ ∃ a ∈ fresh, seq a = m) :
    l.filter (fun a => seq a ≤ m) = l.filter (fun a => seq a ≤ c) ++ fresh ↔
      fresh <+: l.filter (fun a => c < seq a) := by
  have hhigh : (l.filter (fun a => c < seq a)).Pairwise fun a b => seq a < seq b := h.filter _
  have hlow : (l.filter (fun a => seq a ≤ c)).filter (fun a => seq a ≤ m) =
      l.filter (fun a => seq a ≤ c) := by
    rw [List.filter_eq_self]
    intro a ha
    simp only [List.mem_filter, decide_eq_true_eq] at ha ⊢
    exact ha.2.trans hc
  have hsplit : l.filter (fun a => seq a ≤ m) = l.filter (fun a => seq a ≤ c) ++
      (l.filter (fun a => c < seq a)).filter (fun a => seq a ≤ m) := by
    conv_lhs => rw [← filter_le_append_filter_lt h c]
    rw [List.filter_append, hlow]
  rw [hsplit, List.append_cancel_left_eq]
  constructor
  · intro heq
    rw [← heq]
    exact take_by_seq hhigh m
  · rintro ⟨rest, hrest⟩
    have hfresh : fresh.filter (fun a => seq a ≤ m) = fresh :=
      List.filter_eq_self.mpr fun a ha => by simpa using hle a ha
    have hnone : rest.filter (fun a => seq a ≤ m) = [] := by
      rw [List.filter_eq_nil_iff]
      intro b hb
      have hpast : m < seq b := by
        rcases hm with rfl | ⟨a, ha, rfl⟩
        · have hmem : b ∈ l.filter (fun a => m < seq a) := hrest ▸ List.mem_append_right _ hb
          simpa using (List.mem_filter.mp hmem).2
        · rw [← hrest] at hhigh
          exact (List.pairwise_append.mp hhigh).2.2 a ha b hb
      simpa using hpast
    rw [← hrest, List.filter_append, hfresh, hnone, List.append_nil]

lemma singleton_prefix_iff {seq : α → ℕ} {l : List α} {a : α}
    (h : l.Pairwise fun a b => seq a < seq b) (ha : a ∈ l) :
    [a] <+: l ↔ ∀ b ∈ l, seq a ≤ seq b := by
  cases l with
  | nil => cases ha
  | cons b l =>
      obtain ⟨hb, -⟩ := List.pairwise_cons.mp h
      constructor
      · intro hprefix
        obtain ⟨rfl, -⟩ := List.cons_prefix_cons.mp hprefix
        intro b' hb'
        rcases List.mem_cons.mp hb' with rfl | hb'
        · exact le_rfl
        · exact (hb b' hb').le
      · intro hleast
        rcases List.mem_cons.mp ha with rfl | ha
        · exact List.prefix_append [a] l
        · have hlt := hb a ha
          have hle := hleast b (List.mem_cons_self ..)
          omega

lemma flatMap_prefix {l l' : List α} (h : l <+: l') (f : α → List β) :
    l.flatMap f <+: l'.flatMap f := by
  obtain ⟨rest, rfl⟩ := h
  rw [List.flatMap_append]
  exact List.prefix_append _ _

lemma prefix_append_cons_iff {l l₁ l₂ : List α} {a : α} :
    l <+: l₁ ++ a :: l₂ ↔ l <+: l₁ ∨ ∃ rest, l = l₁ ++ a :: rest ∧ rest <+: l₂ := by
  constructor
  · intro h
    rcases List.prefix_or_prefix_of_prefix h (List.prefix_append l₁ (a :: l₂)) with h' | ⟨rest, rfl⟩
    · exact .inl h'
    · rw [List.prefix_append_right_inj] at h
      cases rest with
      | nil => exact .inl (by simp)
      | cons b rest =>
          obtain ⟨rfl, hrest⟩ := List.cons_prefix_cons.mp h
          exact .inr ⟨rest, rfl, hrest⟩
  · rintro (h | ⟨rest, rfl, hrest⟩)
    · exact h.trans (List.prefix_append _ _)
    · rw [List.prefix_append_right_inj]
      exact (List.prefix_cons_inj a).mpr hrest

section Splits

variable {α : Type} {l : List α} {x : α}

lemma split_append {before after : List α} {a : α} :
    l ++ [x] = before ++ a :: after ↔
      (∃ rest, after = rest ++ [x] ∧ l = before ++ a :: rest) ∨ (before = l ∧ a = x ∧ after = []) := by
  constructor
  · intro h
    rcases List.eq_nil_or_concat after with rfl | ⟨rest, last, rfl⟩
    · obtain ⟨rfl, heq⟩ := List.append_inj' h rfl
      cases heq
      exact .inr ⟨rfl, rfl, rfl⟩
    · rw [List.concat_eq_append, ← List.cons_append, ← List.append_assoc] at h
      obtain ⟨rfl, heq⟩ := List.append_inj' h rfl
      cases heq
      exact .inl ⟨rest, List.concat_eq_append .., rfl⟩
  · rintro (⟨rest, rfl, rfl⟩ | ⟨rfl, rfl, rfl⟩)
    · simp
    · rfl

lemma exists_split_append {p : List α → α → List α → Prop} :
    (∃ before a after, l ++ [x] = before ++ a :: after ∧ p before a after) ↔
      (∃ before a after, l = before ++ a :: after ∧ p before a (after ++ [x])) ∨ p l x [] := by
  constructor
  · rintro ⟨before, a, after, hl, hp⟩
    obtain ⟨rest, rfl, hsplit⟩ | ⟨rfl, rfl, rfl⟩ := split_append.mp hl
    · exact .inl ⟨before, a, rest, hsplit, hp⟩
    · exact .inr hp
  · rintro (⟨before, a, after, rfl, hp⟩ | hp)
    · exact ⟨before, a, after ++ [x], by simp, hp⟩
    · exact ⟨l, x, [], rfl, hp⟩

lemma forall_mem_append_singleton {p : α → Prop} :
    (∀ a ∈ l ++ [x], p a) ↔ (∀ a ∈ l, p a) ∧ p x := by
  simp [or_imp, forall_and]

end Splits

section Replacement

variable {α : Type} {l : List α} {i : ℕ} {a b : α}

lemma getElem?_append_singleton_cases {j : ℕ} {c : α} (hc : (l ++ [b])[j]? = some c) :
    l[j]? = some c ∨ c = b := by
  rw [List.getElem?_append] at hc
  split at hc
  · exact .inl hc
  · exact .inr (List.mem_singleton.mp (List.mem_of_getElem? hc))

lemma getElem?_set_cases {j : ℕ} {c : α} (hc : (l.set i b)[j]? = some c) :
    (j = i ∧ c = b) ∨ (j ≠ i ∧ l[j]? = some c) := by
  by_cases hj : j = i
  · subst hj
    rw [List.getElem?_set] at hc
    simp only [if_true] at hc
    split at hc
    · exact .inl ⟨rfl, (Option.some.inj hc).symm⟩
    · cases hc
  · rw [List.getElem?_set_ne (Ne.symm hj)] at hc
    exact .inr ⟨hj, hc⟩

lemma mem_set_cases {c : α} (hc : c ∈ l.set i b) : c = b ∨ ∃ j, j ≠ i ∧ l[j]? = some c := by
  obtain ⟨j, hj⟩ := List.mem_iff_getElem?.mp hc
  rcases getElem?_set_cases hj with ⟨-, heq⟩ | hother
  · exact .inl heq
  · exact .inr ⟨j, hother⟩

lemma exists_mem_set {p : α → Prop} (ha : l[i]? = some a) (h : ∃ c ∈ l, p c) :
    (∃ c ∈ l.set i b, p c) ∨ p a := by
  obtain ⟨c, hc, hp⟩ := h
  obtain ⟨j, hj⟩ := List.mem_iff_getElem?.mp hc
  by_cases hij : i = j
  · subst hij
    rw [ha] at hj
    exact .inr (Option.some.inj hj ▸ hp)
  · exact .inl ⟨c, List.mem_iff_getElem?.mpr ⟨j, by rw [List.getElem?_set_ne hij, hj]⟩, hp⟩

lemma mem_set_self (ha : l[i]? = some a) : b ∈ l.set i b :=
  List.mem_set (List.getElem?_eq_some_iff.mp ha).1 b

end Replacement

section Keys

variable {γ : Type*} {l : List α} {f : α → Option β} {key : β → γ}

lemma nodup_map_filterMap_iff (h : l.Nodup) : ((l.filterMap f).map key).Nodup ↔
    ∀ a ∈ l, ∀ a' ∈ l, ∀ b b', f a = some b → f a' = some b' → key b = key b' → a = a' := by
  rw [List.Nodup, List.pairwise_map, List.pairwise_filterMap]
  constructor
  · intro hpairwise a ha a' ha' b b' hb hb' hkey
    have : Std.Symm fun a a' => ∀ b, f a = some b → ∀ b', f a' = some b' → key b ≠ key b' :=
      ⟨fun a a' hne b hb b' hb' heq => hne b' hb' b hb heq.symm⟩
    by_contra hne
    exact hpairwise.forall ha ha' hne b hb b' hb' hkey
  · intro hinj
    refine h.imp_of_mem fun {a a'} ha ha' hne b hb b' hb' hkey => ?_
    exact hne (hinj a ha a' ha' b b' hb hb' hkey)

lemma length_le_one_of_keys {l : List β} {k : γ} (h : (l.map key).Nodup) (hkey : ∀ b ∈ l, key b = k) :
    l.length ≤ 1 := by
  match l with
  | [] => exact Nat.zero_le 1
  | [b] => exact le_refl 1
  | b :: b' :: l =>
      have hne : key b ∉ (b' :: l).map key := (List.nodup_cons.mp h).1
      have heq : key b = key b' := (hkey b (by simp)).trans (hkey b' (by simp)).symm
      exact absurd (List.mem_map.mpr ⟨b', List.mem_cons_self .., heq.symm⟩) hne

end Keys

lemma countP_lt_of_imp {p q : α → Bool} {l : List α} {a : α} (h : ∀ b, p b = true → q b = true)
    (ha : a ∈ l) (hq : q a = true) (hp : p a = false) : l.countP p < l.countP q := by
  obtain ⟨before, after, rfl⟩ := List.append_of_mem ha
  have hbefore : before.countP p ≤ before.countP q := List.countP_mono_left fun b _ => h b
  have hafter : after.countP p ≤ after.countP q := List.countP_mono_left fun b _ => h b
  rw [List.countP_append, List.countP_append, List.countP_cons_of_pos hq,
    List.countP_cons_of_neg (by simp [hp])]
  omega

end Library
