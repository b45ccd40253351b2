import DevCommandCenter.Library.Interleaving

/-! Programs of atomic calls, each of which may fail, run alone or among others that keep the same
invariant. -/

namespace Library

inductive Program (κ : Type) (ρ : κ → Type) (ε α : Type)
  | done (result : Except ε α)
  | call (c : κ) (next : Except ε (ρ c) → Program κ ρ ε α)

namespace Program

variable {κ : Type} {ρ : κ → Type} {ε α β : Type}

def andThen : Program κ ρ ε α → (Except ε α → Program κ ρ ε β) → Program κ ρ ε β
  | done result, f => f result
  | call c next, f => call c fun result => (next result).andThen f

def fail (e : ε) : Program κ ρ ε α :=
  done (.error e)

def invoke (c : κ) : Program κ ρ ε (ρ c) :=
  call c done

def bind (p : Program κ ρ ε α) (f : α → Program κ ρ ε β) : Program κ ρ ε β :=
  p.andThen fun
    | .ok a => f a
    | .error e => fail e

instance : Monad (Program κ ρ ε) where
  pure a := done (.ok a)
  bind := bind

def onError (p : Program κ ρ ε α) (f : ε → Program κ ρ ε α) : Program κ ρ ε α :=
  p.andThen fun
    | .ok a => pure a
    | .error e => f e

section Run

variable {σ ι : Type} (perform : (c : κ) → ι → σ → Option (Except ε (ρ c) × σ))

def step (input : ι) (s : σ) : Program κ ρ ε α → Option (σ × Program κ ρ ε α)
  | done _ => none
  | call c next => (perform c input s).map fun reply => (reply.2, next reply.1)

def run (input : ι) : Program κ ρ ε α → σ → Option (Except ε α × σ)
  | done result, s => some (result, s)
  | call c next, s => (perform c input s).bind fun reply => (next reply.1).run input reply.2

variable {perform} {input : ι} {s t : σ}

lemma run_andThen {p : Program κ ρ ε α} {f : Except ε α → Program κ ρ ε β} {result : Except ε α}
    (h : p.run perform input s = some (result, t)) :
    (p.andThen f).run perform input s = (f result).run perform input t := by
  induction p generalizing s with
  | done r =>
      cases h
      rfl
  | call c next ih =>
      simp only [run, Option.bind_eq_some_iff] at h
      obtain ⟨reply, hreply, hrun⟩ := h
      simp only [andThen, run, hreply, Option.bind_some]
      exact ih reply.1 hrun

lemma run_bind {p : Program κ ρ ε α} {f : α → Program κ ρ ε β} {a : α}
    (h : p.run perform input s = some (.ok a, t)) :
    (p >>= f).run perform input s = (f a).run perform input t :=
  run_andThen h

lemma run_bind_error {p : Program κ ρ ε α} {f : α → Program κ ρ ε β} {e : ε}
    (h : p.run perform input s = some (.error e, t)) :
    (p >>= f).run perform input s = some (.error e, t) :=
  run_andThen h

lemma run_invoke {c : κ} {reply : Except ε (ρ c)} (h : perform c input s = some (reply, t)) :
    (invoke c : Program κ ρ ε (ρ c)).run perform input s = some (reply, t) := by
  simp [invoke, run, h]

lemma of_run_andThen {p : Program κ ρ ε α} {f : Except ε α → Program κ ρ ε β} {result : Except ε β}
    (h : (p.andThen f).run perform input s = some (result, t)) :
    ∃ first u, p.run perform input s = some (first, u) ∧
      (f first).run perform input u = some (result, t) := by
  induction p generalizing s with
  | done r => exact ⟨r, s, rfl, h⟩
  | call c next ih =>
      simp only [andThen, run, Option.bind_eq_some_iff] at h
      obtain ⟨reply, hreply, hrun⟩ := h
      obtain ⟨first, u, hfirst, hrest⟩ := ih reply.1 hrun
      exact ⟨first, u, by rw [run, hreply, Option.bind_some, hfirst], hrest⟩

lemma of_run_bind {p : Program κ ρ ε α} {f : α → Program κ ρ ε β} {b : β}
    (h : (p >>= f).run perform input s = some (.ok b, t)) :
    ∃ a u, p.run perform input s = some (.ok a, u) ∧
      (f a).run perform input u = some (.ok b, t) := by
  obtain ⟨first, u, hfirst, hrest⟩ := of_run_andThen h
  cases first with
  | ok a => exact ⟨a, u, hfirst, hrest⟩
  | error e => cases hrest

lemma run_total (h : ∀ c s, ∃ reply t, perform c input s = some (reply, t)) (p : Program κ ρ ε α)
    (s : σ) : ∃ result t, p.run perform input s = some (result, t) := by
  induction p generalizing s with
  | done result => exact ⟨result, s, rfl⟩
  | call c next ih =>
      obtain ⟨reply, t, hreply⟩ := h c s
      obtain ⟨result, u, hrun⟩ := ih reply t
      exact ⟨result, u, by rw [run, hreply, Option.bind_some, hrun]⟩

end Run

end Program

structure Discipline (σ : Type) where
  Invariant : σ → Prop
  Evolves : σ → σ → Prop
  refl : ∀ s, Evolves s s
  trans : ∀ {s t u}, Evolves s t → Evolves t u → Evolves s u

def Discipline.ofInvariant {σ : Type} (I : σ → Prop) : Discipline σ where
  Invariant := I
  Evolves _ _ := True
  refl _ := trivial
  trans _ _ := trivial

namespace Program

variable {κ : Type} {ρ : κ → Type} {ε α β σ ι : Type}

section Safe

variable (perform : (c : κ) → ι → σ → Option (Except ε (ρ c) × σ)) (D : Discipline σ)

def Safe (Q : α → σ → Prop) : Program κ ρ ε α → σ → Prop
  | done (.ok a), s => ∀ t, D.Evolves s t → D.Invariant t → Q a t
  | done (.error _), _ => True
  | call c next, s => ∀ t, D.Evolves s t → D.Invariant t → ∀ input reply u,
      perform c input t = some (reply, u) → D.Invariant u ∧ D.Evolves t u ∧ (next reply).Safe Q u

variable {perform D} {Q : α → σ → Prop} {p : Program κ ρ ε α} {s t : σ}

lemma Safe.mono (h : p.Safe perform D Q s) (hst : D.Evolves s t) : p.Safe perform D Q t := by
  cases p with
  | done result =>
      cases result with
      | ok a => exact fun u htu => h u (D.trans hst htu)
      | error e => trivial
  | call c next => exact fun u htu => h u (D.trans hst htu)

lemma safe_of_later (h : ∀ t, D.Evolves s t → D.Invariant t → p.Safe perform D Q t) :
    p.Safe perform D Q s := by
  cases p with
  | done result =>
      cases result with
      | ok a => exact fun t hst hI => h t hst hI t (D.refl t) hI
      | error e => trivial
  | call c next => exact fun t hst hI => h t hst hI t (D.refl t) hI

lemma safe_pure {a : α} (h : ∀ t, D.Evolves s t → D.Invariant t → Q a t) :
    (pure a : Program κ ρ ε α).Safe perform D Q s := h

lemma safe_fail {e : ε} : (fail e : Program κ ρ ε α).Safe perform D Q s := trivial

theorem Safe.andThen {Q' : β → σ → Prop} {f : Except ε α → Program κ ρ ε β}
    (h : p.Safe perform D Q s)
    (hok : ∀ a t, D.Evolves s t → D.Invariant t → Q a t → (f (.ok a)).Safe perform D Q' t)
    (herror : ∀ e t, D.Evolves s t → D.Invariant t → (f (.error e)).Safe perform D Q' t) :
    (p.andThen f).Safe perform D Q' s := by
  induction p generalizing s with
  | done result =>
      cases result with
      | ok a => exact safe_of_later fun t hst hI => hok a t hst hI (h t hst hI)
      | error e => exact safe_of_later fun t hst hI => herror e t hst hI
  | call c next ih =>
      intro t hst hI input reply u hreply
      obtain ⟨hI', htu, hnext⟩ := h t hst hI input reply u hreply
      have hsu := D.trans hst htu
      exact ⟨hI', htu, ih reply hnext (fun a v huv => hok a v (D.trans hsu huv))
        fun e v huv => herror e v (D.trans hsu huv)⟩

theorem Safe.bind {Q' : β → σ → Prop} {f : α → Program κ ρ ε β} (h : p.Safe perform D Q s)
    (hf : ∀ a t, D.Evolves s t → D.Invariant t → Q a t → (f a).Safe perform D Q' t) :
    (p >>= f).Safe perform D Q' s :=
  h.andThen hf fun _ _ _ _ => safe_fail

theorem Safe.onError {f : ε → Program κ ρ ε α}
    (h : p.Safe perform D (fun a t => ∀ u, D.Evolves t u → D.Invariant u → Q a u) s)
    (hf : ∀ e t, D.Evolves s t → D.Invariant t → (f e).Safe perform D Q t) :
    (p.onError f).Safe perform D Q s :=
  h.andThen (fun _ _ _ _ hQ => safe_pure hQ) hf

lemma safe_invoke {c : κ} {Q : ρ c → σ → Prop}
    (h : ∀ t, D.Evolves s t → D.Invariant t → ∀ input reply u, perform c input t = some (reply, u) →
      D.Invariant u ∧ D.Evolves t u ∧
        ∀ a, reply = .ok a → ∀ v, D.Evolves u v → D.Invariant v → Q a v) :
    (invoke c : Program κ ρ ε (ρ c)).Safe perform D Q s := by
  intro t hst hI input reply u hreply
  obtain ⟨hI', htu, hQ⟩ := h t hst hI input reply u hreply
  refine ⟨hI', htu, ?_⟩
  cases reply with
  | ok a => exact hQ a rfl
  | error e => trivial

lemma Safe.weaken {Q' : α → σ → Prop} (h : p.Safe perform D Q s)
    (hQ : ∀ a t, D.Evolves s t → D.Invariant t → Q a t → Q' a t) : p.Safe perform D Q' s := by
  induction p generalizing s with
  | done result =>
      cases result with
      | ok a => exact fun t hst hI => hQ a t hst hI (h t hst hI)
      | error e => trivial
  | call c next ih =>
      intro t hst hI input reply u hreply
      obtain ⟨hI', htu, hnext⟩ := h t hst hI input reply u hreply
      exact ⟨hI', htu, ih reply hnext fun a v huv => hQ a v (D.trans (D.trans hst htu) huv)⟩

end Safe

section Alone

/-- Of the program begun in `s` this much is left in `t`, whatever failed on the way. -/
inductive Leads (perform : (c : κ) → ι → σ → Option (Except ε (ρ c) × σ)) :
    Program κ ρ ε α → σ → Program κ ρ ε α → σ → Prop
  | refl (p : Program κ ρ ε α) (s : σ) : Leads perform p s p s
  | step {c : κ} {next : Except ε (ρ c) → Program κ ρ ε α} {p : Program κ ρ ε α} {s t u : σ} {input : ι}
      {reply : Except ε (ρ c)} (first : perform c input s = some (reply, t))
      (rest : Leads perform (next reply) t p u) : Leads perform (call c next) s p u

variable {perform : (c : κ) → ι → σ → Option (Except ε (ρ c) × σ)} {D : Discipline σ}
  {Q : α → σ → Prop} {p p' : Program κ ρ ε α} {s t : σ}

theorem Safe.leads (h : p.Safe perform D Q s) (hI : D.Invariant s) (hleads : Leads perform p s p' t) :
    D.Invariant t ∧ p'.Safe perform D Q t := by
  induction hleads with
  | refl => exact ⟨hI, h⟩
  | step first _ ih =>
      obtain ⟨hI', -, hnext⟩ := h _ (D.refl _) hI _ _ _ first
      exact ih hnext hI'

lemma Safe.returned {a : α} (h : (done (.ok a) : Program κ ρ ε α).Safe perform D Q s)
    (hI : D.Invariant s) : Q a s :=
  h s (D.refl s) hI

def Keeps (perform : (c : κ) → ι → σ → Option (Except ε (ρ c) × σ)) (I : σ → Prop) (R : α → Prop)
    (p : Program κ ρ ε α) : Prop :=
  ∀ s, p.Safe perform (.ofInvariant I) (fun a _ => R a) s

variable {I : σ → Prop} {R : α → Prop}

lemma keeps_pure {a : α} (h : R a) : (pure a : Program κ ρ ε α).Keeps perform I R :=
  fun _ _ _ _ => h

lemma keeps_fail {e : ε} : (fail e : Program κ ρ ε α).Keeps perform I R :=
  fun _ => trivial

theorem Keeps.andThen {R' : β → Prop} {f : Except ε α → Program κ ρ ε β} (h : p.Keeps perform I R)
    (hok : ∀ a, R a → (f (.ok a)).Keeps perform I R') (herror : ∀ e, (f (.error e)).Keeps perform I R') :
    (p.andThen f).Keeps perform I R' :=
  fun s => (h s).andThen (fun a t _ _ hR => hok a hR t) fun e t _ _ => herror e t

theorem Keeps.bind {R' : β → Prop} {f : α → Program κ ρ ε β} (h : p.Keeps perform I R)
    (hf : ∀ a, R a → (f a).Keeps perform I R') : (p >>= f).Keeps perform I R' :=
  h.andThen hf fun _ => keeps_fail

lemma Keeps.onError {f : ε → Program κ ρ ε α} (h : p.Keeps perform I R)
    (hf : ∀ e, (f e).Keeps perform I R) : (p.onError f).Keeps perform I R :=
  h.andThen (fun _ hR => keeps_pure hR) hf

lemma keeps_invoke {c : κ} {R : ρ c → Prop}
    (h : ∀ t input reply u, I t → perform c input t = some (reply, u) →
      I u ∧ ∀ a, reply = .ok a → R a) : (invoke c : Program κ ρ ε (ρ c)).Keeps perform I R := by
  refine fun s => safe_invoke fun t _ hI input reply u hreply => ?_
  obtain ⟨hI', hR⟩ := h t input reply u hI hreply
  exact ⟨hI', trivial, fun a ha _ _ _ => hR a ha⟩

theorem Keeps.leads (h : p.Keeps perform I R) (hI : I s) (hleads : Leads perform p s p' t) :
    I t ∧ ∀ a, p' = done (.ok a) → R a := by
  obtain ⟨hI', hsafe⟩ := (h s).leads hI hleads
  refine ⟨hI', ?_⟩
  rintro a rfl
  exact hsafe.returned hI'

lemma leads_of_run {input : ι} {result : Except ε α} (h : p.run perform input s = some (result, t)) :
    Leads perform p s (done result) t := by
  induction p generalizing s with
  | done r =>
      cases h
      exact .refl _ _
  | call c next ih =>
      simp only [run, Option.bind_eq_some_iff] at h
      obtain ⟨reply, hreply, hrun⟩ := h
      exact .step hreply (ih reply.1 hrun)

end Alone

section Only

def Only (P : κ → Prop) : Program κ ρ ε α → Prop
  | done _ => True
  | call c next => P c ∧ ∀ result, (next result).Only P

variable {P : κ → Prop} {p : Program κ ρ ε α}

lemma only_pure {a : α} : (pure a : Program κ ρ ε α).Only P := trivial

lemma only_fail {e : ε} : (fail e : Program κ ρ ε α).Only P := trivial

lemma only_invoke {c : κ} (h : P c) : (invoke c : Program κ ρ ε (ρ c)).Only P :=
  ⟨h, fun _ => trivial⟩

lemma Only.andThen {f : Except ε α → Program κ ρ ε β} (h : p.Only P) (hf : ∀ result, (f result).Only P) :
    (p.andThen f).Only P := by
  induction p with
  | done result => exact hf result
  | call c next ih => exact ⟨h.1, fun result => ih result (h.2 result)⟩

lemma Only.bind {f : α → Program κ ρ ε β} (h : p.Only P) (hf : ∀ a, (f a).Only P) :
    (p >>= f).Only P := by
  refine h.andThen fun result => ?_
  cases result with
  | ok a => exact hf a
  | error e => exact only_fail

theorem Only.safe {perform : (c : κ) → ι → σ → Option (Except ε (ρ c) × σ)} {D : Discipline σ} {s : σ}
    (h : p.Only P)
    (hcalls : ∀ c t input reply u, P c → D.Invariant t → perform c input t = some (reply, u) →
      D.Invariant u ∧ D.Evolves t u) : p.Safe perform D (fun _ _ => True) s := by
  induction p generalizing s with
  | done result => cases result <;> simp [Safe]
  | call c next ih =>
      intro t _ hI input reply u hreply
      obtain ⟨hI', htu⟩ := hcalls c t input reply u h.1 hI hreply
      exact ⟨hI', htu, ih reply (h.2 reply)⟩

end Only

end Program

section Programs

variable {ο κ : Type} {ρ : κ → Type} {ε α σ ι : Type}

structure Running (ο κ : Type) (ρ : κ → Type) (ε α : Type) where
  operation : ο
  rest : Program κ ρ ε α

def Running.returned (running : Running ο κ ρ ε α) : Option (ο × α) :=
  match running.rest with
  | .done (.ok a) => some (running.operation, a)
  | _ => none

def returned (calls : List (Running ο κ ρ ε α)) : List (ο × α) :=
  calls.filterMap Running.returned

def programs (initial : σ) (code : ο → Program κ ρ ε α) (admits : List (ο × α) → ο → Bool)
    (perform : (c : κ) → ι → σ → Option (Except ε (ρ c) × σ)) :
    System (Pool σ (Running ο κ ρ ε α)) (PoolAction ο ι) Unit where
  start := { shared := initial, calls := [] }
  step s
    | .enter operation =>
        if admits (returned s.calls) operation then
          some ((), { s with calls := s.calls ++ [⟨operation, code operation⟩] })
        else none
    | .advance i input => do
        let running ← s.calls[i]?
        let (shared, rest) ← running.rest.step perform input s.shared
        return ((), { shared := shared, calls := s.calls.set i ⟨running.operation, rest⟩ })

variable {initial : σ} {code : ο → Program κ ρ ε α} {admits : List (ο × α) → ο → Bool}
  {perform : (c : κ) → ι → σ → Option (Except ε (ρ c) × σ)} {D : Discipline σ}
  {Q : ο → α → σ → Prop} {s t : Pool σ (Running ο κ ρ ε α)}

lemma programs_enter {operation : ο} {answer : Unit}
    (h : (programs initial code admits perform).step s (.enter operation) = some (answer, t)) :
    admits (returned s.calls) operation = true ∧
      t = { s with calls := s.calls ++ [⟨operation, code operation⟩] } := by
  simp only [programs, Option.ite_none_right_eq_some, Option.some.injEq, Prod.mk.injEq] at h
  exact ⟨h.1, h.2.2.symm⟩

lemma programs_advance {i : ℕ} {input : ι} {answer : Unit}
    (h : (programs initial code admits perform).step s (.advance i input) = some (answer, t)) :
    ∃ operation c next reply, s.calls[i]? = some ⟨operation, .call c next⟩ ∧
      ∃ shared, perform c input s.shared = some (reply, shared) ∧
        t = { shared := shared, calls := s.calls.set i ⟨operation, next reply⟩ } := by
  simp only [programs, Option.bind_eq_bind, Option.bind_eq_some_iff] at h
  obtain ⟨⟨operation, rest⟩, hcall, ⟨shared, after⟩, hstep, h⟩ := h
  cases h
  cases rest with
  | done result => cases hstep
  | call c next =>
      simp only [Program.step, Option.map_eq_some_iff] at hstep
      obtain ⟨⟨reply, after⟩, hreply, h⟩ := hstep
      cases h
      exact ⟨operation, c, next, reply, hcall, after, hreply, rfl⟩

lemma returned_step {action : PoolAction ο ι} {answer : Unit}
    (h : (programs initial code admits perform).step s action = some (answer, t)) :
    returned s.calls ⊆ returned t.calls := by
  intro result hresult
  cases action with
  | enter operation =>
      obtain ⟨-, rfl⟩ := programs_enter h
      rw [returned, List.filterMap_append]
      exact List.mem_append_left _ hresult
  | advance i input =>
      obtain ⟨operation, c, next, reply, hcall, shared, -, rfl⟩ := programs_advance h
      obtain ⟨running, hrunning, hreturned⟩ := List.mem_filterMap.mp hresult
      obtain ⟨j, hj⟩ := List.mem_iff_getElem?.mp hrunning
      refine List.mem_filterMap.mpr ⟨running, List.mem_of_getElem? (List.getElem?_set_ne ?_ ▸ hj), hreturned⟩
      rintro rfl
      cases hcall.symm.trans hj
      cases hreturned

lemma admitted_of_reachable
    (hmono : ∀ results results' operation, results ⊆ results' → admits results operation = true →
      admits results' operation = true)
    (h : System.Reachable (programs initial code admits perform) s) :
    ∀ running ∈ s.calls, admits (returned s.calls) running.operation = true := by
  induction h with
  | start => exact nofun
  | @step s t action answer _ hstep ih =>
      have hlater := returned_step hstep
      intro running hrunning
      cases action with
      | enter operation =>
          obtain ⟨hadmits, rfl⟩ := programs_enter hstep
          rcases List.mem_append.mp hrunning with hbefore | hnew
          · exact hmono _ _ _ hlater (ih running hbefore)
          · rw [List.mem_singleton.mp hnew]
            exact hmono _ _ _ hlater hadmits
      | advance i input =>
          obtain ⟨operation, c, next, reply, hcall, shared, -, rfl⟩ := programs_advance hstep
          rcases List.mem_or_eq_of_mem_set hrunning with hbefore | rfl
          · exact hmono _ _ _ hlater (ih running hbefore)
          · exact hmono _ _ operation hlater (ih _ (List.mem_of_getElem? hcall))

structure Disciplined (perform : (c : κ) → ι → σ → Option (Except ε (ρ c) × σ)) (D : Discipline σ)
    (Q : ο → α → σ → Prop) (s : Pool σ (Running ο κ ρ ε α)) : Prop where
  invariant : D.Invariant s.shared
  safe : ∀ running ∈ s.calls, running.rest.Safe perform D (Q running.operation) s.shared

lemma Disciplined.returned (h : Disciplined perform D Q s) {operation : ο} {a : α}
    (hmem : (operation, a) ∈ returned s.calls) : Q operation a s.shared := by
  obtain ⟨running, hrunning, hresult⟩ := List.mem_filterMap.mp hmem
  have hsafe := h.safe running hrunning
  unfold Running.returned at hresult
  split at hresult
  · next a' hrest =>
    cases hresult
    rw [hrest] at hsafe
    exact hsafe s.shared (D.refl _) h.invariant
  · cases hresult

theorem disciplined_of_reachable (hstart : D.Invariant initial)
    (hcode : ∀ s results operation, D.Invariant s → (∀ result ∈ results, Q result.1 result.2 s) →
      admits results operation = true → (code operation).Safe perform D (Q operation) s)
    (h : System.Reachable (programs initial code admits perform) s) : Disciplined perform D Q s := by
  induction h with
  | start => exact ⟨hstart, nofun⟩
  | @step s t action answer _ hstep ih =>
      cases action with
      | enter operation =>
          obtain ⟨hadmits, rfl⟩ := programs_enter hstep
          refine ⟨ih.invariant, fun running hrunning => ?_⟩
          rcases List.mem_append.mp hrunning with hbefore | hnew
          · exact ih.safe running hbefore
          · rw [List.mem_singleton.mp hnew]
            exact hcode _ _ _ ih.invariant (fun _ hresult => ih.returned hresult) hadmits
      | advance i input =>
          obtain ⟨operation, c, next, reply, hcall, shared, hreply, rfl⟩ := programs_advance hstep
          have hsafe := ih.safe _ (List.mem_of_getElem? hcall)
          obtain ⟨hinvariant, hevolves, hnext⟩ :=
            hsafe s.shared (D.refl _) ih.invariant input reply shared hreply
          refine ⟨hinvariant, fun running hrunning => ?_⟩
          rcases List.mem_or_eq_of_mem_set hrunning with hbefore | rfl
          · exact (ih.safe running hbefore).mono hevolves
          · exact hnext

end Programs

end Library
