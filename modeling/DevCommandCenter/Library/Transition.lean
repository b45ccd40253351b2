import Mathlib.Data.List.Induction

/-! Systems that answer each action they accept, their reachable states and their runs. -/

namespace Library

structure System (σ α β : Type) where
  start : σ
  step : σ → α → Option (β × σ)

namespace System

variable {σ α β : Type} {M : System σ α β}

inductive Reachable (M : System σ α β) : σ → Prop
  | start : Reachable M M.start
  | step {s t : σ} {a : α} {b : β} : Reachable M s → M.step s a = some (b, t) → Reachable M t

inductive RunIn (M : System σ α β) (P : σ → Prop) : σ → List (α × β) → σ → Prop
  | nil {s : σ} : P s → RunIn M P s [] s
  | concat {s t u : σ} {l : List (α × β)} {a : α} {b : β} :
      RunIn M P s l t → M.step t a = some (b, u) → P u → RunIn M P s (l ++ [(a, b)]) u

abbrev Run (M : System σ α β) : σ → List (α × β) → σ → Prop :=
  RunIn M fun _ => True

def exec (M : System σ α β) (s : σ) (l : List α) : σ :=
  l.foldl (fun s a => ((M.step s a).map Prod.snd).getD s) s

def restrict (M : System σ α β) (ok : σ → α → Bool) : System σ α β where
  start := M.start
  step s a := if ok s a then M.step s a else none

theorem Reachable.invariant {I : σ → Prop} (hstart : I M.start)
    (hstep : ∀ s a b t, I s → M.step s a = some (b, t) → I t) {s : σ} (h : Reachable M s) : I s := by
  induction h with
  | start => exact hstart
  | step _ hs ih => exact hstep _ _ _ _ ih hs

lemma Reachable.exec {s : σ} (h : Reachable M s) (l : List α) : Reachable M (M.exec s l) := by
  induction l generalizing s with
  | nil => exact h
  | cons a l ih =>
      simp only [System.exec, List.foldl_cons]
      cases hstep : M.step s a with
      | none => exact ih h
      | some next => exact ih (.step h hstep)

lemma run_exec (s : σ) (l : List α) : ∃ events, M.Run s events (M.exec s l) := by
  induction l using List.reverseRecOn with
  | nil => exact ⟨[], .nil trivial⟩
  | append_singleton l a ih =>
      obtain ⟨events, hrun⟩ := ih
      rw [exec, List.foldl_append, List.foldl_cons, List.foldl_nil]
      cases hstep : M.step (M.exec s l) a with
      | none =>
          rw [exec] at hstep hrun
          rw [hstep]
          exact ⟨events, hrun⟩
      | some next =>
          rw [exec] at hstep hrun
          rw [hstep]
          exact ⟨events ++ [(a, next.1)], hrun.concat hstep trivial⟩

theorem RunIn.reachable {P : σ → Prop} {s t : σ} {l : List (α × β)} (h : RunIn M P s l t)
    (hs : Reachable M s) : Reachable M t := by
  induction h with
  | nil _ => exact hs
  | concat _ hstep _ ih => exact .step ih hstep

theorem restrict_step {ok : σ → α → Bool} {s t : σ} {a : α} {b : β} :
    (M.restrict ok).step s a = some (b, t) ↔ ok s a = true ∧ M.step s a = some (b, t) := by
  simp [restrict]

lemma reachable_of_restrict {ok : σ → α → Bool} {s : σ} (h : (M.restrict ok).Reachable s) :
    M.Reachable s := by
  induction h with
  | start => exact .start
  | step _ hstep ih => exact .step ih (restrict_step.mp hstep).2

lemma run_of_restrict {ok : σ → α → Bool} {s t : σ} {l : List (α × β)}
    (h : (M.restrict ok).Run s l t) : M.Run s l t := by
  induction h with
  | nil _ => exact .nil trivial
  | concat _ hstep _ ih => exact ih.concat (restrict_step.mp hstep).2 trivial

def perform (M : System σ α β) (s : σ) (l : List α) : List (α × β) × σ :=
  l.foldl (fun h a =>
    match M.step h.2 a with
    | none => h
    | some (b, t) => (h.1 ++ [(a, b)], t)) ([], s)

lemma run_perform (M : System σ α β) (s : σ) (l : List α) :
    M.Run s (M.perform s l).1 (M.perform s l).2 := by
  induction l using List.reverseRecOn with
  | nil => exact .nil trivial
  | append_singleton l a ih =>
      rw [perform, List.foldl_append, List.foldl_cons, List.foldl_nil]
      cases hstep : M.step (M.perform s l).2 a with
      | none =>
          rw [perform] at hstep ih
          rw [hstep]
          exact ih
      | some next =>
          rw [perform] at hstep ih
          rw [hstep]
          exact ih.concat hstep trivial

theorem RunIn.split {P : σ → Prop} {s t : σ} {l₁ l₂ : List (α × β)} {e : α × β}
    (h : RunIn M P s (l₁ ++ e :: l₂) t) : ∃ u v, RunIn M P s l₁ u ∧ M.step u e.1 = some (e.2, v) ∧
      RunIn M P v l₂ t := by
  generalize hl : l₁ ++ e :: l₂ = l at h
  induction h generalizing l₂ with
  | nil _ => simp at hl
  | @concat t u l a b hrun hstep hP ih =>
      rcases List.eq_nil_or_concat l₂ with rfl | ⟨l₂, last, rfl⟩
      · obtain ⟨rfl, heq⟩ := List.append_inj' hl rfl
        cases heq
        exact ⟨t, u, hrun, hstep, .nil hP⟩
      · rw [List.concat_eq_append, ← List.cons_append, ← List.append_assoc] at hl
        obtain ⟨rfl, heq⟩ := List.append_inj' hl rfl
        cases heq
        obtain ⟨u', v, hbefore, hevent, hafter⟩ := ih rfl
        rw [List.concat_eq_append]
        exact ⟨u', v, hbefore, hevent, hafter.concat hstep hP⟩

theorem RunIn.exists_of_mem {P : σ → Prop} {s t : σ} {l : List (α × β)} (h : RunIn M P s l t)
    {e : α × β} (he : e ∈ l) : ∃ u v l₁ l₂, RunIn M P s l₁ u ∧ M.step u e.1 = some (e.2, v) ∧
      RunIn M P v l₂ t := by
  obtain ⟨l₁, l₂, rfl⟩ := List.append_of_mem he
  obtain ⟨u, v, hrun⟩ := h.split
  exact ⟨u, v, l₁, l₂, hrun⟩

theorem RunIn.last {P : σ → Prop} {s t : σ} {l : List (α × β)} (h : RunIn M P s l t) : P t := by
  cases h with
  | nil h => exact h
  | concat _ _ h => exact h

theorem RunIn.induct {P I : σ → Prop} {Q : α → β → Prop}
    (hstep : ∀ s a b t, I s → P s → P t → M.step s a = some (b, t) → I t ∧ Q a b) {s t : σ}
    {l : List (α × β)} (h : RunIn M P s l t) (hs : I s) : I t ∧ ∀ e ∈ l, Q e.1 e.2 := by
  induction h with
  | nil _ => exact ⟨hs, by simp⟩
  | concat hrun hlast hP ih =>
      obtain ⟨hI, hQ⟩ := ih
      obtain ⟨hI', hQ'⟩ := hstep _ _ _ _ hI hrun.last hP hlast
      refine ⟨hI', fun e he => ?_⟩
      rcases List.mem_append.mp he with he | he
      · exact hQ e he
      · rw [List.mem_singleton.mp he]
        exact hQ'

theorem RunIn.keeps {P I : σ → Prop} {Q : α → Prop}
    (hstep : ∀ s a b t, I s → Q a → M.step s a = some (b, t) → I t) {s t : σ} {l : List (α × β)}
    (h : RunIn M P s l t) (hs : I s) (hok : ∀ e ∈ l, Q e.1) : I t := by
  induction h with
  | nil _ => exact hs
  | concat _ hlast _ ih =>
      exact hstep _ _ _ _ (ih fun e he => hok e (List.mem_append_left _ he))
        (hok _ (List.mem_append_right _ (List.mem_singleton_self _))) hlast

theorem runIn_iff_restrict_of_invariant {I J : σ → Prop} {ok : σ → α → Bool}
    (hkeep : ∀ s a b t, J s → M.step s a = some (b, t) → J t)
    (hstep : ∀ s a b t, J s → I s → M.step s a = some (b, t) → (I t ↔ ok s a = true)) {s t : σ}
    {l : List (α × β)} (hJ : J s) (hs : I s) : RunIn M I s l t ↔ (M.restrict ok).Run s l t := by
  have hkept : ∀ {N : System σ α β} {P : σ → Prop} {l : List (α × β)} {t : σ},
      (∀ s a b t, N.step s a = some (b, t) → M.step s a = some (b, t)) → RunIn N P s l t → J t := by
    intro N P l t hN h
    induction h with
    | nil _ => exact hJ
    | concat _ hlast _ ih => exact hkeep _ _ _ _ ih (hN _ _ _ _ hlast)
  constructor
  · intro h
    induction h with
    | nil _ => exact .nil trivial
    | concat hrun hlast hP ih =>
        have hbefore := hkept (fun _ _ _ _ h => h) hrun
        have hok := (hstep _ _ _ _ hbefore hrun.last hlast).mp hP
        exact ih.concat (restrict_step.mpr ⟨hok, hlast⟩) trivial
  · intro h
    induction h with
    | nil _ => exact .nil hs
    | concat hrun hlast _ ih =>
        have hbefore := hkept (fun _ _ _ _ h => (restrict_step.mp h).2) hrun
        obtain ⟨hok, hlast⟩ := restrict_step.mp hlast
        exact ih.concat hlast ((hstep _ _ _ _ hbefore ih.last hlast).mpr hok)

theorem runIn_iff_restrict {I : σ → Prop} {ok : σ → α → Bool}
    (hstep : ∀ s a b t, I s → M.step s a = some (b, t) → (I t ↔ ok s a = true)) {s t : σ}
    {l : List (α × β)} (hs : I s) : RunIn M I s l t ↔ (M.restrict ok).Run s l t :=
  runIn_iff_restrict_of_invariant (fun _ _ _ _ _ _ => trivial) (fun s a b t _ => hstep s a b t)
    trivial hs

structure Taken (σ α β : Type) where
  before : σ
  action : α
  answer : β
  after : σ

inductive History (M : System σ α β) : List (Taken σ α β) → σ → Prop
  | start : History M [] M.start
  | step {l : List (Taken σ α β)} {s t : σ} {a : α} {b : β} :
      History M l s → M.step s a = some (b, t) → History M (l ++ [⟨s, a, b, t⟩]) t

lemma History.reachable {l : List (Taken σ α β)} {s : σ} (h : History M l s) : Reachable M s := by
  induction h with
  | start => exact .start
  | step _ hstep ih => exact .step ih hstep

theorem History.split {l₁ l₂ : List (Taken σ α β)} {e : Taken σ α β} {s : σ}
    (h : History M (l₁ ++ e :: l₂) s) :
    History M l₁ e.before ∧ M.step e.before e.action = some (e.answer, e.after) := by
  generalize hl : l₁ ++ e :: l₂ = l at h
  induction h generalizing l₂ with
  | start => simp at hl
  | @step l s t a b hbefore hstep ih =>
      rcases List.eq_nil_or_concat l₂ with rfl | ⟨l₂, last, rfl⟩
      · obtain ⟨rfl, heq⟩ := List.append_inj' hl rfl
        cases heq
        exact ⟨hbefore, hstep⟩
      · rw [List.concat_eq_append, ← List.cons_append, ← List.append_assoc] at hl
        obtain ⟨rfl, -⟩ := List.append_inj' hl rfl
        exact ih rfl

def record (M : System σ α β) (actions : List α) : List (Taken σ α β) × σ :=
  actions.foldl (fun h a =>
    match M.step h.2 a with
    | none => h
    | some (b, t) => (h.1 ++ [⟨h.2, a, b, t⟩], t)) ([], M.start)

lemma history_record (M : System σ α β) (actions : List α) :
    History M (M.record actions).1 (M.record actions).2 := by
  induction actions using List.reverseRecOn with
  | nil => exact .start
  | append_singleton actions a ih =>
      rw [record, List.foldl_append, List.foldl_cons, List.foldl_nil]
      cases hstep : M.step (M.record actions).2 a with
      | none =>
          rw [record] at hstep ih
          rw [hstep]
          exact ih
      | some next =>
          rw [record] at hstep ih
          rw [hstep]
          exact ih.step hstep

lemma History.of_mem {l : List (Taken σ α β)} {s : σ} (h : History M l s) {e : Taken σ α β}
    (he : e ∈ l) : ∃ l₁, History M l₁ e.before ∧
      M.step e.before e.action = some (e.answer, e.after) := by
  obtain ⟨l₁, l₂, rfl⟩ := List.append_of_mem he
  exact ⟨l₁, h.split⟩

end System

end Library
