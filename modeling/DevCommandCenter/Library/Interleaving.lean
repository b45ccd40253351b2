import DevCommandCenter.Library.Sequences
import DevCommandCenter.Library.Transition
import Mathlib.Algebra.GroupWithZero.Nat

/-! Calls in progress over one shared state. Each call takes atomic steps, and any number of steps of
other calls may come between two of its own. -/

namespace Library

variable {σ π ι : Type}

structure Pool (σ π : Type) where
  shared : σ
  calls : List π

inductive PoolAction (π ι : Type)
  | enter (call : π)
  | advance (i : ℕ) (input : ι)

def pool (initial : σ) (enters : π → Bool) (next : σ → π → ι → Option (σ × π)) :
    System (Pool σ π) (PoolAction π ι) Unit where
  start := { shared := initial, calls := [] }
  step s
    | .enter call => if enters call then some ((), { s with calls := s.calls ++ [call] }) else none
    | .advance i input => do
        let call ← s.calls[i]?
        let (shared, call) ← next s.shared call input
        return ((), { shared := shared, calls := s.calls.set i call })

section Steps

variable {initial : σ} {enters : π → Bool} {next : σ → π → ι → Option (σ × π)} {s t : Pool σ π}

lemma pool_enter {call : π} {answer : Unit} :
    (pool initial enters next).step s (.enter call) = some (answer, t) ↔
      enters call = true ∧ t = { s with calls := s.calls ++ [call] } := by
  simp only [pool]
  split
  · next h => simp [h, eq_comm]
  · next h => simp [h]

lemma pool_advance {i : ℕ} {input : ι} {answer : Unit} :
    (pool initial enters next).step s (.advance i input) = some (answer, t) ↔
      ∃ call, s.calls[i]? = some call ∧ ∃ shared call', next s.shared call input =
        some (shared, call') ∧ t = { shared := shared, calls := s.calls.set i call' } := by
  constructor
  · intro h
    cases hcall : s.calls[i]? with
    | none => simp [pool, hcall] at h
    | some call =>
        cases hnext : next s.shared call input with
        | none => simp [pool, hcall, hnext] at h
        | some result =>
            simp only [pool, hcall, hnext, Option.bind_eq_bind, Option.bind_some, Option.pure_def,
              Option.some.injEq, Prod.mk.injEq, true_and] at h
            exact ⟨call, rfl, result.1, result.2, hnext, h.symm⟩
  · rintro ⟨call, hcall, shared, call', hnext, rfl⟩
    simp only [pool, hcall, hnext, Option.bind_eq_bind, Option.bind_some, Option.pure_def]

end Steps

def Alone (holds : π → Prop) (calls : List π) : Prop :=
  ∀ (i j : ℕ) (c d : π), calls[i]? = some c → calls[j]? = some d → holds c → holds d → i = j

section Alone

variable {holds : π → Prop} {calls : List π} {call call' : π} {i : ℕ}

lemma Alone.set (h : Alone holds calls) (hc : calls[i]? = some call)
    (hholds : holds call' → holds call ∨ ∀ c ∈ calls, ¬holds c) :
    Alone holds (calls.set i call') := by
  intro j k c d hj hk hcholds hdholds
  rcases getElem?_set_cases hj with ⟨rfl, rfl⟩ | ⟨-, hj'⟩
  · rcases getElem?_set_cases hk with ⟨rfl, rfl⟩ | ⟨-, hk'⟩
    · rfl
    · rcases hholds hcholds with hbefore | hnone
      · exact h _ _ _ _ hc hk' hbefore hdholds
      · exact absurd hdholds (hnone d (List.mem_of_getElem? hk'))
  · rcases getElem?_set_cases hk with ⟨rfl, rfl⟩ | ⟨-, hk'⟩
    · rcases hholds hdholds with hbefore | hnone
      · exact h _ _ _ _ hj' hc hcholds hbefore
      · exact absurd hcholds (hnone c (List.mem_of_getElem? hj'))
    · exact h _ _ _ _ hj' hk' hcholds hdholds

lemma Alone.append (h : Alone holds calls) (hnot : ¬holds call) : Alone holds (calls ++ [call]) := by
  intro j k c d hj hk hcholds hdholds
  rcases getElem?_append_singleton_cases hj with hj' | rfl
  · rcases getElem?_append_singleton_cases hk with hk' | rfl
    · exact h _ _ _ _ hj' hk' hcholds hdholds
    · exact absurd hdholds hnot
  · exact absurd hcholds hnot

lemma Alone.imp {holds' : π → Prop} (h : Alone holds calls) (himp : ∀ c ∈ calls, holds' c → holds c) :
    Alone holds' calls :=
  fun i j c d hi hj hc hd => h i j c d hi hj (himp c (List.mem_of_getElem? hi) hc)
    (himp d (List.mem_of_getElem? hj) hd)

lemma Alone.tail (h : Alone holds (call :: calls)) : Alone holds calls := by
  intro i j c d hi hj hc hd
  exact Nat.succ.inj (h (i + 1) (j + 1) c d hi hj hc hd)

lemma Alone.length_flatMap_le {f : π → List ι} {n : ℕ} (h : Alone (fun call => f call ≠ []) calls)
    (hf : ∀ call ∈ calls, (f call).length ≤ n) : (calls.flatMap f).length ≤ n := by
  induction calls with
  | nil => exact Nat.zero_le n
  | cons call calls ih =>
      rw [List.flatMap_cons, List.length_append]
      by_cases hcall : f call = []
      · rw [hcall, List.length_nil, Nat.zero_add]
        exact ih h.tail fun c hc => hf c (List.mem_cons_of_mem _ hc)
      · have hrest : calls.flatMap f = [] := by
          rw [List.flatMap_eq_nil_iff]
          intro c hc
          by_contra hne
          obtain ⟨j, hj⟩ := List.mem_iff_getElem?.mp hc
          exact absurd (h 0 (j + 1) call c rfl hj hcall hne) (Nat.succ_ne_zero j).symm
        rw [hrest, List.length_nil, Nat.add_zero]
        exact hf call List.mem_cons_self

end Alone

structure Guards (flag : Bool) (holds : π → Prop) (calls : List π) : Prop where
  alone : Alone holds calls
  taken : flag = true ↔ ∃ call ∈ calls, holds call

section Guards

variable {holds : π → Prop} {flag : Bool} {calls : List π} {call call' : π} {i : ℕ}

lemma Guards.append (h : Guards flag holds calls) (hnot : ¬holds call) :
    Guards flag holds (calls ++ [call]) where
  alone := h.alone.append hnot
  taken := by simp [h.taken, or_and_right, exists_or, hnot]

lemma Guards.keep (h : Guards flag holds calls) (hc : calls[i]? = some call)
    (hsame : holds call' ↔ holds call) : Guards flag holds (calls.set i call') where
  alone := h.alone.set hc fun hholds => .inl (hsame.mp hholds)
  taken := by
    rw [h.taken]
    constructor
    · intro hexists
      rcases exists_mem_set (b := call') hc hexists with hother | hholds
      · exact hother
      · exact ⟨call', mem_set_self hc, hsame.mpr hholds⟩
    · rintro ⟨c, hmem, hholds⟩
      rcases mem_set_cases hmem with rfl | ⟨j, -, hj⟩
      · exact ⟨call, List.mem_of_getElem? hc, hsame.mp hholds⟩
      · exact ⟨c, List.mem_of_getElem? hj, hholds⟩

lemma Guards.take (h : Guards false holds calls) (hc : calls[i]? = some call) (hholds : holds call') :
    Guards true holds (calls.set i call') where
  alone := h.alone.set hc fun _ => .inr fun c hmem hc => by
    have hflag := h.taken.mpr ⟨c, hmem, hc⟩
    cases hflag
  taken := ⟨fun _ => ⟨call', mem_set_self hc, hholds⟩, fun _ => rfl⟩

lemma Guards.release (h : Guards flag holds calls) (hc : calls[i]? = some call) (hholds : holds call)
    (hnot : ¬holds call') : Guards false holds (calls.set i call') where
  alone := h.alone.set hc fun hafter => absurd hafter hnot
  taken := by
    constructor
    · intro hflag
      cases hflag
    · rintro ⟨c, hmem, hafter⟩
      rcases mem_set_cases hmem with rfl | ⟨j, hne, hj⟩
      · exact absurd hafter hnot
      · exact absurd (h.alone j i c call hj hc hafter hholds) hne

end Guards

lemma le_sum_map {calls : List π} {call : π} (hc : call ∈ calls) (f : π → ℕ) :
    f call ≤ (calls.map f).sum := by
  obtain ⟨before, after, rfl⟩ := List.append_of_mem hc
  rw [List.map_append, List.sum_append, List.map_cons, List.sum_cons]
  omega

lemma exists_of_sum_ne_zero {calls : List π} {f : π → ℕ} (h : (calls.map f).sum ≠ 0) :
    ∃ call ∈ calls, f call ≠ 0 := by
  induction calls with
  | nil => exact absurd rfl h
  | cons call calls ih =>
      rw [List.map_cons, List.sum_cons] at h
      by_cases hcall : f call = 0
      · obtain ⟨other, hother, hne⟩ := ih (by omega)
        exact ⟨other, List.mem_cons_of_mem _ hother, hne⟩
      · exact ⟨call, List.mem_cons_self, hcall⟩

lemma add_le_sum_map {calls : List π} {call call' : π} {i j : ℕ} (hi : calls[i]? = some call)
    (hj : calls[j]? = some call') (hne : i ≠ j) (f : π → ℕ) : f call + f call' ≤ (calls.map f).sum := by
  induction calls generalizing i j with
  | nil => simp at hi
  | cons first calls ih =>
      rw [List.map_cons, List.sum_cons]
      cases i with
      | zero =>
          obtain rfl : first = call := by simpa using hi
          cases j with
          | zero => exact absurd rfl hne
          | succ j =>
              have hrest := le_sum_map (List.mem_of_getElem? (l := calls) (by simpa using hj)) f
              omega
      | succ i =>
          cases j with
          | zero =>
              obtain rfl : first = call' := by simpa using hj
              have hrest := le_sum_map (List.mem_of_getElem? (l := calls) (by simpa using hi)) f
              omega
          | succ j =>
              have hrest := ih (i := i) (j := j) (by simpa using hi) (by simpa using hj) (by omega)
              omega

lemma sum_map_set {calls : List π} {call : π} {i : ℕ} (hc : calls[i]? = some call) (call' : π)
    (f : π → ℕ) : ((calls.set i call').map f).sum + f call = (calls.map f).sum + f call' := by
  induction calls generalizing i with
  | nil => simp at hc
  | cons first calls ih =>
      cases i with
      | zero =>
          obtain rfl : first = call := by simpa using hc
          simp only [List.set_cons_zero, List.map_cons, List.sum_cons]
          omega
      | succ i =>
          have hrest := ih (i := i) (by simpa using hc)
          simp only [List.set_cons_succ, List.map_cons, List.sum_cons]
          omega

end Library
