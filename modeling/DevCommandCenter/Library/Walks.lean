import Mathlib.Data.List.Nodup

/-! Walks over lists of steps: folding an update that touches one key at a time, and stacks of steps
with the states that they lead to one after another. -/

namespace Library

section Folds

variable {σ κ ν : Type} [DecidableEq κ]

def UpdatesAt (get : σ → κ → ν) (step : σ → κ → σ) (f : κ → ν → ν) : Prop :=
  ∀ s k k', get (step s k) k' = if k' = k then f k' (get s k') else get s k'

variable {get : σ → κ → ν} {step : σ → κ → σ} {f : κ → ν → ν}

lemma UpdatesAt.foldl (h : UpdatesAt get step f) {l : List κ} (hl : l.Nodup) (s : σ) (k : κ) :
    get (l.foldl step s) k = if k ∈ l then f k (get s k) else get s k := by
  induction l generalizing s with
  | nil => simp
  | cons a l ih =>
      obtain ⟨ha, hl⟩ := List.nodup_cons.mp hl
      rw [List.foldl_cons, ih hl, h]
      by_cases hk : k = a
      · subst hk
        simp [ha]
      · simp [hk]

lemma UpdatesAt.foldl_of_idempotent (h : UpdatesAt get step f) (hf : ∀ k v, f k (f k v) = f k v)
    (l : List κ) (s : σ) (k : κ) :
    get (l.foldl step s) k = if k ∈ l then f k (get s k) else get s k := by
  induction l generalizing s with
  | nil => simp
  | cons a l ih =>
      rw [List.foldl_cons, ih, h]
      by_cases hk : k = a
      · subst hk
        simp [hf]
      · simp [hk]

omit [DecidableEq κ] in
lemma foldl_keeps {ν : Type} {get : σ → ν} {step : σ → κ → σ} (h : ∀ s k, get (step s k) = get s)
    (l : List κ) (s : σ) : get (l.foldl step s) = get s := by
  induction l generalizing s with
  | nil => rfl
  | cons a l ih => rw [List.foldl_cons, ih, h]

end Folds

section Trails

variable {σ τ : Type} {takes : σ → τ → τ → Prop} {state state' : τ} {step : σ} {steps : List σ}
variable {states : List τ}

def Trail (takes : σ → τ → τ → Prop) : τ → List σ → List τ → Prop
  | _, [], _ => True
  | _, _ :: _, [] => False
  | state, step :: steps, next :: states => takes step state next ∧ Trail takes next steps states

lemma trail_nil : Trail takes state [] states := by
  cases states <;> trivial

lemma Trail.exists_next (h : Trail takes state (step :: steps) states) :
    ∃ next rest, states = next :: rest ∧ takes step state next ∧ Trail takes next steps rest := by
  cases states with
  | nil => exact h.elim
  | cons next rest => exact ⟨next, rest, rfl, h.1, h.2⟩

lemma Trail.dropLast (h : Trail takes state steps states) : Trail takes state steps.dropLast states := by
  induction steps generalizing state states with
  | nil => exact trail_nil
  | cons step steps ih =>
      obtain ⟨next, rest, rfl, hstep, hrest⟩ := h.exists_next
      cases steps with
      | nil => exact trail_nil
      | cons step' steps => exact ⟨hstep, ih hrest⟩

end Trails

end Library
