import Mathlib.Algebra.Order.Group.Defs
import Mathlib.Data.List.Forall2

/-! How many of a list of times lie in a window of a given width, wherever the window stands. -/

namespace Library

section Windows

variable {τ : Type} [LinearOrder τ]

def inWindow (since upTo time : τ) : Bool :=
  since < time && time ≤ upTo

lemma inWindow_iff {since upTo time : τ} :
    inWindow since upTo time = true ↔ since < time ∧ time ≤ upTo := by
  simp [inWindow]

lemma countP_inWindow_eq {since upTo : τ} {times : List τ} (h : ∀ time ∈ times, time ≤ upTo) :
    times.countP (inWindow since upTo) = times.countP fun time => since < time := by
  refine List.countP_congr fun time htime => ?_
  simp [inWindow, h time htime]

lemma countP_lt_le_of_forall₂ {earlier later : List τ} (h : List.Forall₂ (· ≤ ·) earlier later)
    (since : τ) :
    (earlier.countP fun time => since < time) ≤ later.countP fun time => since < time := by
  induction h with
  | nil => exact le_rfl
  | @cons a b as bs hab hrest ih =>
      rw [List.countP_cons, List.countP_cons]
      refine Nat.add_le_add ih ?_
      split
      · next ha =>
        have hb : since < b := lt_of_lt_of_le (of_decide_eq_true ha) hab
        rw [if_pos (decide_eq_true hb)]
      · exact Nat.zero_le _

variable [AddCommGroup τ] [IsOrderedAddMonoid τ]

def Capped (limit : ℕ) (width : τ) (times : List τ) : Prop :=
  ∀ since, times.countP (inWindow since (since + width)) ≤ limit

variable {limit : ℕ} {width : τ} {times : List τ}

omit [IsOrderedAddMonoid τ] in
lemma capped_nil : Capped limit width ([] : List τ) :=
  fun _ => Nat.zero_le _

theorem Capped.append (h : Capped limit width times) {hit time : τ} (hhit : hit ≤ time)
    (hroom : (times.countP fun earlier => hit - width < earlier) < limit) :
    Capped limit width (times ++ [time]) := by
  intro since
  rw [List.countP_append, List.countP_singleton]
  split
  · next hin =>
    obtain ⟨-, hupTo⟩ := inWindow_iff.mp hin
    have hsince : hit - width ≤ since := sub_le_iff_le_add.mpr (hhit.trans hupTo)
    have hfewer : times.countP (inWindow since (since + width)) ≤
        times.countP fun earlier => hit - width < earlier := by
      refine List.countP_mono_left fun earlier _ hearlier => decide_eq_true ?_
      exact lt_of_le_of_lt hsince (inWindow_iff.mp hearlier).1
    exact Nat.succ_le_of_lt (lt_of_le_of_lt hfewer hroom)
  · exact h since

end Windows

end Library
