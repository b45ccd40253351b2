import Mathlib.Logic.Basic

/-! Fallible calls over a state that keeps what was done before a failure. -/

namespace Library

def Call (σ ε α : Type) : Type :=
  σ → Except ε α × σ

namespace Call

variable {σ ε α β : Type}

def ret (a : α) : Call σ ε α :=
  fun s => (.ok a, s)

def bind (c : Call σ ε α) (f : α → Call σ ε β) : Call σ ε β :=
  fun s =>
    match c s with
    | (.ok a, t) => f a t
    | (.error e, t) => (.error e, t)

instance : Monad (Call σ ε) where
  pure := ret
  bind := bind

def read : Call σ ε σ :=
  fun s => (.ok s, s)

def update (f : σ → σ) : Call σ ε Unit :=
  fun s => (.ok (), f s)

def fail (e : ε) : Call σ ε α :=
  fun s => (.error e, s)

def liftExcept : Except ε α → Call σ ε α
  | .ok a => ret a
  | .error e => fail e

def atomically (c : Call σ ε α) : Call σ ε α :=
  fun s =>
    match c s with
    | (.ok a, t) => (.ok a, t)
    | (.error e, _) => (.error e, s)

@[simp] lemma pure_apply (a : α) (s : σ) : (pure a : Call σ ε α) s = (.ok a, s) := rfl

@[simp] lemma read_apply (s : σ) : (read : Call σ ε σ) s = (.ok s, s) := rfl

@[simp] lemma update_apply (f : σ → σ) (s : σ) : (update f : Call σ ε Unit) s = (.ok (), f s) := rfl

@[simp] lemma fail_apply (e : ε) (s : σ) : (fail e : Call σ ε α) s = (.error e, s) := rfl

lemma bind_apply (c : Call σ ε α) (f : α → Call σ ε β) (s : σ) :
    (c >>= f) s = match c s with
      | (.ok a, t) => f a t
      | (.error e, t) => (.error e, t) := rfl

lemma bind_ok_iff {c : Call σ ε α} {f : α → Call σ ε β} {s t : σ} {b : β} :
    (c >>= f) s = (.ok b, t) ↔ ∃ a u, c s = (.ok a, u) ∧ f a u = (.ok b, t) := by
  rw [bind_apply]
  rcases hc : c s with ⟨e | a, u⟩
  · simp
  · constructor
    · intro h
      exact ⟨a, u, rfl, h⟩
    · rintro ⟨a', u', h, hf⟩
      cases h
      exact hf

lemma liftExcept_ok_iff {x : Except ε α} {s t : σ} {a : α} :
    (liftExcept x : Call σ ε α) s = (.ok a, t) ↔ x = .ok a ∧ s = t := by
  cases x with
  | ok b => simp [liftExcept, ret]
  | error e => simp [liftExcept]

lemma liftExcept_bind_ok_iff {x : Except ε α} {f : α → Call σ ε β} {s t : σ} {b : β} :
    (liftExcept x >>= f) s = (.ok b, t) ↔ ∃ a, x = .ok a ∧ f a s = (.ok b, t) := by
  rw [bind_ok_iff]
  constructor
  · rintro ⟨a, u, hlift, hf⟩
    obtain ⟨hx, rfl⟩ := liftExcept_ok_iff.mp hlift
    exact ⟨a, hx, hf⟩
  · rintro ⟨a, hx, hf⟩
    exact ⟨a, s, liftExcept_ok_iff.mpr ⟨hx, rfl⟩, hf⟩

lemma read_bind_ok_iff {f : σ → Call σ ε β} {s t : σ} {b : β} :
    (read >>= f) s = (.ok b, t) ↔ f s s = (.ok b, t) := Iff.rfl

lemma update_bind_ok_iff {g : σ → σ} {f : Unit → Call σ ε β} {s t : σ} {b : β} :
    (update g >>= f) s = (.ok b, t) ↔ f () (g s) = (.ok b, t) := Iff.rfl

lemma atomically_ok_iff {c : Call σ ε α} {s t : σ} {a : α} :
    atomically c s = (.ok a, t) ↔ c s = (.ok a, t) := by
  unfold atomically
  rcases c s with ⟨e | b, u⟩ <;> simp

def ReadOnly (c : Call σ ε α) : Prop :=
  ∀ s, (c s).2 = s

def ErrorKeeps (c : Call σ ε α) : Prop :=
  ∀ s e t, c s = (.error e, t) → t = s

def Total (c : Call σ ε α) : Prop :=
  ∀ s, ∃ a t, c s = (.ok a, t)

lemma readOnly_read : (read : Call σ ε σ).ReadOnly := fun _ => rfl

lemma readOnly_liftExcept (x : Except ε α) : (liftExcept x : Call σ ε α).ReadOnly := by
  cases x <;> exact fun _ => rfl

lemma errorKeeps_fail (e : ε) : (fail e : Call σ ε α).ErrorKeeps := by
  rintro s e' t h
  cases h
  rfl

lemma errorKeeps_atomically (c : Call σ ε α) : (atomically c).ErrorKeeps := by
  intro s e t h
  unfold atomically at h
  rcases hc : c s with ⟨e' | a, u⟩
  · rw [hc] at h
    cases h
    rfl
  · rw [hc] at h
    cases h

lemma Total.errorKeeps {c : Call σ ε α} (h : c.Total) : c.ErrorKeeps := by
  intro s e t hs
  obtain ⟨a, u, hok⟩ := h s
  rw [hok] at hs
  cases hs

lemma total_pure (a : α) : (pure a : Call σ ε α).Total := fun s => ⟨a, s, rfl⟩

lemma total_update_bind (f : σ → σ) {c : Call σ ε α} (h : c.Total) :
    (update f >>= fun _ => c).Total := fun s => h (f s)

lemma ReadOnly.bind_errorKeeps {c : Call σ ε α} {f : α → Call σ ε β} (hc : c.ReadOnly)
    (hf : ∀ a, (f a).ErrorKeeps) : (c >>= f).ErrorKeeps := by
  intro s e t h
  have hs := hc s
  rw [bind_apply] at h
  rcases hcs : c s with ⟨e' | a, u⟩
  · rw [hcs] at h hs
    cases h
    exact hs
  · rw [hcs] at h hs
    subst hs
    exact hf a _ e t h

lemma ErrorKeeps.bind_total {c : Call σ ε α} {f : α → Call σ ε β} (hc : c.ErrorKeeps)
    (hf : ∀ a, (f a).Total) : (c >>= f).ErrorKeeps := by
  intro s e t h
  rw [bind_apply] at h
  rcases hcs : c s with ⟨e' | a, u⟩
  · rw [hcs] at h
    cases h
    exact hc s e t hcs
  · rw [hcs] at h
    obtain ⟨b, v, hb⟩ := hf a u
    simp [hb] at h

def Keeps (I : σ → Prop) (c : Call σ ε α) : Prop :=
  ∀ s, I s → I (c s).2

variable {I : σ → Prop}

lemma keeps_pure (a : α) : (pure a : Call σ ε α).Keeps I := fun _ h => h

lemma keeps_fail (e : ε) : (fail e : Call σ ε α).Keeps I := fun _ h => h

lemma ReadOnly.keeps {c : Call σ ε α} (h : c.ReadOnly) : c.Keeps I := by
  intro s hs
  rw [h s]
  exact hs

lemma keeps_update {f : σ → σ} (h : ∀ s, I s → I (f s)) : (update f : Call σ ε Unit).Keeps I := h

lemma Keeps.bind {c : Call σ ε α} {f : α → Call σ ε β} (hc : c.Keeps I)
    (hf : ∀ a, (f a).Keeps I) : (c >>= f).Keeps I := by
  intro s hs
  have ht := hc s hs
  rw [bind_apply]
  rcases hcs : c s with ⟨e | a, t⟩
  · rw [hcs] at ht
    exact ht
  · rw [hcs] at ht
    exact hf a t ht

def Leads (r : σ → σ → Prop) (c : Call σ ε α) (s : σ) (a : α) (t : σ) : Prop :=
  ∀ s', r s' s → ∃ t', c s' = (.ok a, t') ∧ r t' t

variable {r : σ → σ → Prop} {s t u : σ}

lemma leads_pure (a : α) : (pure a : Call σ ε α).Leads r s a s := fun s' h => ⟨s', rfl, h⟩

lemma Leads.answer {c : Call σ ε α} {a b : α} {s' u' : σ} (hc : c.Leads r s a t) (hs : r s' s)
    (h : c s' = (.ok b, u')) : b = a ∧ r u' t := by
  obtain ⟨t', ht, hlike⟩ := hc s' hs
  rw [ht] at h
  cases h
  exact ⟨rfl, hlike⟩

lemma Leads.bind {c : Call σ ε α} {f : α → Call σ ε β} {a : α} {b : β} (hc : c.Leads r s a u)
    (hf : (f a).Leads r u b t) : (c >>= f).Leads r s b t := by
  intro s' hs
  obtain ⟨u', hu', hlike⟩ := hc s' hs
  obtain ⟨t', ht', hlike'⟩ := hf u' hlike
  refine ⟨t', ?_, hlike'⟩
  rw [bind_apply, hu']
  exact ht'

lemma Leads.map {c : Call σ ε α} {a : α} (hc : c.Leads r s a t) (g : α → β) :
    (g <$> c).Leads r s (g a) t := by
  intro s' hs
  obtain ⟨t', ht', hlike⟩ := hc s' hs
  refine ⟨t', ?_, hlike⟩
  change (c >>= fun a => pure (g a)) s' = _
  rw [bind_apply, ht']
  rfl

section Triples

/-! Triples for calls, over the part of the state that `view` shows: what holds before, what holds of
the answer and after it, and what holds where the call stops with an error. -/

variable {δ : Type} {view : σ → δ} {P H : δ → Prop} {Q K : α → δ → Prop}
  {R : β → δ → Prop} {I J : δ → Prop}

def Triple (view : σ → δ) (I : δ → Prop) (P : δ → Prop) (c : Call σ ε α) (Q : α → δ → Prop) : Prop :=
  ∀ s, P (view s) →
    match c s with
    | (.ok a, t) => Q a (view t)
    | (.error _, t) => I (view t)

def Answers (E : δ → Prop) (Q : α → δ → Prop) : Except ε α → δ → Prop
  | .error _ => E
  | .ok a => Q a

namespace Triple

lemma pure {a : α} (h : ∀ d, P d → Q a d) :
    Triple view I P (Pure.pure a : Call σ ε α) Q := fun s hs => h (view s) hs

lemma fail {e : ε} (h : ∀ d, P d → I d) : Triple view I P (Call.fail e : Call σ ε α) Q :=
  fun s hs => h (view s) hs

lemma bind {c : Call σ ε α} {f : α → Call σ ε β} (hc : Triple view I P c Q)
    (hf : ∀ a, Triple view I (Q a) (f a) R) : Triple view I P (c >>= f) R := by
  intro s hs
  have hfirst := hc s hs
  rw [bind_apply]
  rcases hcs : c s with ⟨e | a, t⟩
  · rw [hcs] at hfirst
    exact hfirst
  · rw [hcs] at hfirst
    exact hf a t hfirst

lemma map {c : Call σ ε α} {g : α → β} (hc : Triple view I P c fun a => R (g a)) :
    Triple view I P (g <$> c) R :=
  hc.bind fun _ => pure fun _ h => h

lemma mono {c : Call σ ε α} (hc : Triple view I H c K) (hP : ∀ d, P d → H d)
    (hQ : ∀ a d, K a d → Q a d) : Triple view I P c Q := by
  intro s hs
  have h := hc s (hP _ hs)
  rcases hcs : c s with ⟨e | a, t⟩
  · rw [hcs] at h
    exact h
  · rw [hcs] at h
    exact hQ a _ h

lemma pre {c : Call σ ε α} (hc : Triple view I H c Q) (hP : ∀ d, P d → H d) :
    Triple view I P c Q :=
  hc.mono hP fun _ _ h => h

lemma post {c : Call σ ε α} (hc : Triple view I P c K) (hQ : ∀ a d, K a d → Q a d) :
    Triple view I P c Q :=
  hc.mono (fun _ h => h) hQ

lemma stops {c : Call σ ε α} (hc : Triple view J P c Q) (hI : ∀ d, J d → I d) :
    Triple view I P c Q := by
  intro s hs
  have h := hc s hs
  rcases hcs : c s with ⟨e | a, t⟩
  · rw [hcs] at h
    exact hI _ h
  · rw [hcs] at h
    exact h

lemma assume {p : Prop} {c : Call σ ε α} (h : p → Triple view I P c Q) :
    Triple view I (fun d => p ∧ P d) c Q := fun s hs => h hs.1 s hs.2

lemma exists_pre {ι : Type} {P : ι → δ → Prop} {c : Call σ ε α} (h : ∀ i, Triple view I (P i) c Q) :
    Triple view I (fun d => ∃ i, P i d) c Q := fun s ⟨i, hs⟩ => h i s hs

end Triple

end Triples

end Call

end Library
