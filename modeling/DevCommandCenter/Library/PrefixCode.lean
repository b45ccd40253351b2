import Mathlib.Data.Fin.Basic
import Mathlib.Data.List.Forall2
import Mathlib.Tactic.Ring

/-! Codes whose words tell where they end, so that words written one behind the other can be told
apart again. -/

namespace Library

variable {α γ β : Type} {P : α → Prop} {code code' : α → List β} {Like Like' : α → α → Prop}

def Delimits (P : α → Prop) (code : α → List β) (Like : α → α → Prop) : Prop :=
  ∀ ⦃a b⦄, P a → P b → ∀ ⦃x y⦄, code a ++ x = code b ++ y → Like a b ∧ x = y

namespace Delimits

lemma like (h : Delimits P code Like) {a b : α} (ha : P a) (hb : P b) (heq : code a = code b) :
    Like a b :=
  (@h _ _ ha hb [] [] (congrArg (· ++ []) heq)).1

lemma imp {Q : α → Prop} (h : Delimits P code Like) (hQ : ∀ a, Q a → P a)
    (hlike : ∀ a b, Q a → Q b → Like a b → Like' a b) : Delimits Q code Like' := by
  intro a b ha hb x y heq
  obtain ⟨hab, hxy⟩ := h (hQ a ha) (hQ b hb) heq
  exact ⟨hlike a b ha hb hab, hxy⟩

lemma part (h : Delimits P code Like) (f : γ → α) :
    Delimits (fun c => P (f c)) (fun c => code (f c)) (fun c d => Like (f c) (f d)) := by
  intro c d hc hd x y heq
  exact h hc hd heq

lemma append {Q : α → Prop} (h : Delimits P code Like) (h' : Delimits Q code' Like') :
    Delimits (fun a => P a ∧ Q a) (fun a => code a ++ code' a)
      (fun a b => Like a b ∧ Like' a b) := by
  intro a b ha hb x y heq
  simp only [List.append_assoc] at heq
  obtain ⟨hlike, hrest⟩ := h ha.1 hb.1 heq
  obtain ⟨hlike', hxy⟩ := h' ha.2 hb.2 hrest
  exact ⟨⟨hlike, hlike'⟩, hxy⟩

lemma sized {n : ℕ} (hn : ∀ a, P a → (code a).length = n)
    (hinj : ∀ a b, P a → P b → code a = code b → Like a b) : Delimits P code Like := by
  intro a b ha hb x y heq
  obtain ⟨hcode, hxy⟩ := List.append_inj heq ((hn a ha).trans (hn b hb).symm)
  exact ⟨hinj a b ha hb hcode, hxy⟩

section Counted

variable {number : ℕ → List β} {N : ℕ → Prop}

lemma counted (hnumber : Delimits N number Eq) (h : Delimits P code Like) :
    Delimits (fun l => N l.length ∧ ∀ a ∈ l, P a)
      (fun l => number l.length ++ l.flatMap code) (List.Forall₂ Like) := by
  rintro l m ⟨hl, hPl⟩ ⟨hm, hPm⟩ x y heq
  simp only [List.append_assoc] at heq
  obtain ⟨hlength, hwords⟩ := hnumber hl hm heq
  clear hl hm heq
  induction l generalizing m with
  | nil =>
      obtain rfl := List.length_eq_zero_iff.mp hlength.symm
      exact ⟨.nil, hwords⟩
  | cons a l ih =>
      cases m with
      | nil => simp at hlength
      | cons b m =>
          simp only [List.flatMap_cons, List.append_assoc] at hwords
          simp only [List.mem_cons, forall_eq_or_imp] at hPl hPm
          obtain ⟨hab, hrest⟩ := h hPl.1 hPm.1 hwords
          obtain ⟨hlm, hxy⟩ := ih hPl.2 hPm.2 (by simpa using hlength) hrest
          exact ⟨.cons hab hlm, hxy⟩

lemma prefixed (hnumber : Delimits N number Eq) :
    Delimits (fun l => N l.length) (fun l : List β => number l.length ++ l) Eq := by
  intro l m hl hm x y heq
  simp only [List.append_assoc] at heq
  obtain ⟨hlength, hwords⟩ := hnumber hl hm heq
  exact List.append_inj hwords hlength

end Counted

end Delimits

def digits (base : ℕ) [NeZero base] (width value : ℕ) : List (Fin base) :=
  (List.range width).map fun i => Fin.ofNat base (value / base ^ i)

section Digits

variable {base : ℕ} [NeZero base]

@[simp] lemma length_digits (width value : ℕ) : (digits base width value).length = width := by
  simp [digits]

lemma digits_succ (width value : ℕ) :
    digits base (width + 1) value = Fin.ofNat base value :: digits base width (value / base) := by
  simp only [digits, List.range_succ_eq_map, List.map_cons, List.map_map, pow_zero, Nat.div_one]
  congr 1
  apply List.map_congr_left
  intro i _
  simp [Nat.div_div_eq_div_mul, Nat.pow_succ']

lemma digits_injective {width value value' : ℕ} (hvalue : value < base ^ width)
    (hvalue' : value' < base ^ width) (h : digits base width value = digits base width value') :
    value = value' := by
  induction width generalizing value value' with
  | zero =>
      simp only [pow_zero] at hvalue hvalue'
      omega
  | succ width ih =>
      simp only [digits_succ, List.cons.injEq, Fin.ext_iff, Fin.val_ofNat] at h
      rw [Nat.pow_succ'] at hvalue hvalue'
      have hrest := ih (Nat.div_lt_of_lt_mul hvalue) (Nat.div_lt_of_lt_mul hvalue') h.2
      rw [← Nat.div_add_mod value base, ← Nat.div_add_mod value' base, hrest, h.1]

lemma delimits_digits (width : ℕ) :
    Delimits (fun value => value < base ^ width) (digits base width) Eq :=
  .sized (fun _ _ => length_digits _ _) fun _ _ ha hb h => digits_injective ha hb h

lemma delimits_reverse_digits (width : ℕ) :
    Delimits (fun value => value < base ^ width) (fun value => (digits base width value).reverse)
      Eq :=
  .sized (n := width) (fun _ _ => by simp) fun _ _ ha hb h =>
    digits_injective ha hb (List.reverse_injective h)

end Digits

end Library
