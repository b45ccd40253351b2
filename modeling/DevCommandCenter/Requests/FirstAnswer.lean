import DevCommandCenter.Requests.AnswerLedger
import Mathlib.Data.List.Nodup

/-! Which claim each entry of the ledger belongs to, and when the first answer to a request wins. -/

namespace DevCommandCenter.Requests

open Library

structure Holds (s : Answering) (entries : List (ℕ × AgentRequestOutcome)) : Prop where
  increasing : entries.Pairwise fun a b => a.1 < b.1
  claimed : ∀ e ∈ entries, ∃ status, s.claims[e.1]? = some ⟨e.2, status⟩
  order : s.ledger.order = entries.map fun e => e.2.requestId
  unique : s.ledger.order.Nodup
  answers : ∀ id outcome, s.ledger.answers id = some outcome ↔
    ∃ e ∈ entries, e.2 = outcome ∧ outcome.requestId = id
  fits : entries.length ≤ ledgerCapacity

variable {s t : Answering} {entries : List (ℕ × AgentRequestOutcome)} {outcome : AgentRequestOutcome}
  {i : ℕ}

namespace Holds

lemma start : Holds .start [] where
  increasing := .nil
  claimed := by simp
  order := rfl
  unique := .nil
  answers := by simp [Answering.start, AnswerLedger.empty]
  fits := Nat.zero_le _

lemma eq_of_requestId (h : Holds s entries) {a b : ℕ × AgentRequestOutcome} (ha : a ∈ entries)
    (hb : b ∈ entries) (hid : a.2.requestId = b.2.requestId) : a = b := by
  have hnodup := h.unique
  rw [h.order] at hnodup
  exact List.inj_on_of_nodup_map hnodup ha hb hid

lemma mem_order (h : Holds s entries) (id : String) :
    id ∈ s.ledger.order ↔ (s.ledger.answers id).isSome = true := by
  rw [h.order, List.mem_map, Option.isSome_iff_exists]
  constructor
  · rintro ⟨e, he, hid⟩
    exact ⟨e.2, (h.answers id e.2).mpr ⟨e, he, rfl, hid⟩⟩
  · rintro ⟨outcome, hanswer⟩
    obtain ⟨e, he, rfl, hid⟩ := (h.answers id outcome).mp hanswer
    exact ⟨e, he, hid⟩

lemma lt_length (h : Holds s entries) {e : ℕ × AgentRequestOutcome} (he : e ∈ entries) :
    e.1 < s.claims.length := by
  obtain ⟨status, hclaim⟩ := h.claimed e he
  exact (List.getElem?_eq_some_iff.mp hclaim).1

end Holds

lemma head_add_length_le {bound : ℕ} {e : ℕ × AgentRequestOutcome}
    (hincreasing : (e :: entries).Pairwise fun a b => a.1 < b.1)
    (hbound : ∀ a ∈ e :: entries, a.1 < bound) : e.1 + (e :: entries).length ≤ bound := by
  induction entries generalizing e with
  | nil =>
      have := hbound e (by simp)
      simp only [List.length_singleton]
      omega
  | cons next rest ih =>
      obtain ⟨hnext, hrest⟩ := List.pairwise_cons.mp hincreasing
      have hlt := hnext next (by simp)
      have := ih hrest fun a ha => hbound a (List.mem_cons_of_mem _ ha)
      simp only [List.length_cons] at this ⊢
      omega

lemma claim_granted (hstep : s.step (.claim outcome) = some (.claimed, t)) :
    s.ledger.answers outcome.requestId = none ∧ t = {
      ledger := AnswerLedger.trim
        (Function.update s.ledger.answers outcome.requestId (some outcome))
        (s.ledger.order ++ [outcome.requestId])
      claims := s.claims ++ [{ outcome := outcome, status := .live }] } := by
  simp only [Answering.step, AnswerLedger.claim] at hstep
  cases hanswer : s.ledger.answers outcome.requestId with
  | some existing => simp [hanswer] at hstep
  | none =>
      simp only [hanswer, Option.some.injEq, Prod.mk.injEq, true_and] at hstep
      exact ⟨rfl, hstep.symm⟩

lemma claim_refused {existing : AgentRequestOutcome}
    (hstep : s.step (.claim outcome) = some (.refused existing, t)) :
    s.ledger.answers outcome.requestId = some existing ∧ t = s := by
  simp only [Answering.step, AnswerLedger.claim] at hstep
  cases hanswer : s.ledger.answers outcome.requestId with
  | some existing' =>
      simp only [hanswer, Option.some.injEq, Prod.mk.injEq, AnswerResult.refused.injEq] at hstep
      exact ⟨congrArg some hstep.1, hstep.2.symm⟩
  | none => simp [hanswer] at hstep

lemma settle_step {result : AnswerResult} (hstep : s.step (.settle i) = some (result, t)) :
    ∃ outcome, s.claims[i]? = some ⟨outcome, .live⟩ ∧ result = .settled outcome ∧
      t = { s with claims := s.claims.set i ⟨outcome, .settled⟩ } := by
  simp only [Answering.step] at hstep
  split at hstep
  · next outcome hclaim =>
    cases hstep
    exact ⟨outcome, hclaim, rfl, rfl⟩
  · cases hstep

lemma drop_step {result : AnswerResult} (hstep : s.step (.drop i) = some (result, t)) :
    ∃ outcome, s.claims[i]? = some ⟨outcome, .live⟩ ∧ result = .dropped ∧ t = {
      ledger := s.ledger.release outcome.requestId
      claims := s.claims.set i ⟨outcome, .dropped⟩ } := by
  simp only [Answering.step] at hstep
  split at hstep
  · next outcome hclaim =>
    cases hstep
    exact ⟨outcome, hclaim, rfl, rfl⟩
  · cases hstep

inductive AnswerEffect (s t : Answering) : Prop
  | kept (h : t = s)
  | claimed (outcome : AgentRequestOutcome) (h : s.step (.claim outcome) = some (.claimed, t))
  | settled (i : ℕ) (outcome : AgentRequestOutcome) (hclaim : s.claims[i]? = some ⟨outcome, .live⟩)
      (h : t = { s with claims := s.claims.set i ⟨outcome, .settled⟩ })
  | dropped (i : ℕ) (outcome : AgentRequestOutcome) (hclaim : s.claims[i]? = some ⟨outcome, .live⟩)
      (h : t = {
        ledger := s.ledger.release outcome.requestId
        claims := s.claims.set i ⟨outcome, .dropped⟩ })

lemma step_effect {action : AnswerAction} {result : AnswerResult}
    (hstep : s.step action = some (result, t)) : AnswerEffect s t := by
  cases action with
  | claim outcome =>
      cases result with
      | claimed => exact .claimed outcome hstep
      | refused existing => exact .kept (claim_refused hstep).2
      | settled => simp only [Answering.step] at hstep; split at hstep <;> cases hstep
      | dropped => simp only [Answering.step] at hstep; split at hstep <;> cases hstep
  | settle i =>
      obtain ⟨outcome, hclaim, -, ht⟩ := settle_step hstep
      exact .settled i outcome hclaim ht
  | drop i =>
      obtain ⟨outcome, hclaim, -, ht⟩ := drop_step hstep
      exact .dropped i outcome hclaim ht

lemma set_status {status status' : ClaimStatus} {claims : List AnswerClaim} {j : ℕ}
    {c : AnswerClaim} (hclaim : claims[i]? = some ⟨outcome, status⟩)
    (hj : (claims.set i ⟨outcome, status'⟩)[j]? = some c) :
    (j = i ∧ c = ⟨outcome, status'⟩) ∨ (j ≠ i ∧ claims[j]? = some c) := by
  have hi := (List.getElem?_eq_some_iff.mp hclaim).1
  by_cases heq : i = j
  · subst heq
    rw [List.getElem?_set_self hi] at hj
    exact .inl ⟨rfl, (Option.some.inj hj).symm⟩
  · rw [List.getElem?_set_ne heq] at hj
    exact .inr ⟨fun h => heq h.symm, hj⟩

namespace Holds

lemma set_claimed (h : Holds s entries) {status status' : ClaimStatus}
    (hclaim : s.claims[i]? = some ⟨outcome, status⟩) {e : ℕ × AgentRequestOutcome}
    (he : e ∈ entries) : ∃ status'', (s.claims.set i ⟨outcome, status'⟩)[e.1]? =
      some ⟨e.2, status''⟩ := by
  obtain ⟨status'', hold⟩ := h.claimed e he
  by_cases heq : i = e.1
  · subst heq
    rw [hclaim] at hold
    cases hold
    exact ⟨status', List.getElem?_set_self (h.lt_length he)⟩
  · exact ⟨status'', by rw [List.getElem?_set_ne heq, hold]⟩

theorem settled (h : Holds s entries) (hclaim : s.claims[i]? = some ⟨outcome, .live⟩) :
    Holds { s with claims := s.claims.set i ⟨outcome, .settled⟩ } entries :=
  { h with claimed := fun _ he => h.set_claimed hclaim he }

theorem dropped (h : Holds s entries) (hclaim : s.claims[i]? = some ⟨outcome, .live⟩) :
    Holds { ledger := s.ledger.release outcome.requestId
            claims := s.claims.set i ⟨outcome, .dropped⟩ }
      (entries.filter fun e => e.2.requestId ≠ outcome.requestId) where
  increasing := h.increasing.filter _
  claimed e he := h.set_claimed hclaim ((List.mem_filter.mp he).1)
  order := by
    simp only [AnswerLedger.release, h.order, List.filter_map]
    rfl
  unique := h.unique.filter _
  answers id existing := by
    simp only [AnswerLedger.release, List.mem_filter, decide_eq_true_eq]
    by_cases hid : id = outcome.requestId
    · subst hid
      rw [Function.update_self]
      constructor
      · intro hnone
        cases hnone
      · rintro ⟨e, ⟨-, hne⟩, rfl, hsame⟩
        exact absurd hsame hne
    · rw [Function.update_of_ne hid, h.answers]
      constructor
      · rintro ⟨e, he, rfl, hsame⟩
        exact ⟨e, ⟨he, fun heq => hid (hsame.symm.trans heq)⟩, rfl, hsame⟩
      · rintro ⟨e, ⟨he, -⟩, rfl, hsame⟩
        exact ⟨e, he, rfl, hsame⟩
  fits := Nat.le_trans (List.length_filter_le _ _) h.fits

inductive Placed (s : Answering) (outcome : AgentRequestOutcome) :
    List (ℕ × AgentRequestOutcome) → List (ℕ × AgentRequestOutcome) → Prop
  | room {entries : List (ℕ × AgentRequestOutcome)} (h : entries.length < ledgerCapacity) :
      Placed s outcome entries (entries ++ [(s.claims.length, outcome)])
  | full {old : ℕ × AgentRequestOutcome} {entries : List (ℕ × AgentRequestOutcome)}
      (h : (old :: entries).length = ledgerCapacity) :
      Placed s outcome (old :: entries) (entries ++ [(s.claims.length, outcome)])

lemma placed (h : Holds s entries) (outcome : AgentRequestOutcome) :
    ∃ entries', Placed s outcome entries entries' := by
  rcases Nat.lt_or_eq_of_le h.fits with hlt | heq
  · exact ⟨_, .room hlt⟩
  · cases entries with
    | nil => simp [ledgerCapacity] at heq
    | cons old entries => exact ⟨_, .full heq⟩

lemma Placed.mem {entries' : List (ℕ × AgentRequestOutcome)}
    (hplaced : Placed s outcome entries entries') {e : ℕ × AgentRequestOutcome} (he : e ∈ entries') :
    e ∈ entries ∨ e = (s.claims.length, outcome) := by
  cases hplaced with
  | room => simpa using he
  | full =>
      rcases List.mem_append.mp he with he | he
      · exact .inl (List.mem_cons_of_mem _ he)
      · exact .inr (List.mem_singleton.mp he)

lemma append_claimed (h : Holds s entries) {e : ℕ × AgentRequestOutcome}
    (he : e ∈ entries ∨ e = (s.claims.length, outcome)) :
    ∃ status, (s.claims ++ [⟨outcome, .live⟩])[e.1]? = some ⟨e.2, status⟩ := by
  rcases he with he | rfl
  · obtain ⟨status, hold⟩ := h.claimed e he
    exact ⟨status, by rw [List.getElem?_append_left (h.lt_length he), hold]⟩
  · exact ⟨.live, by simp⟩

lemma append_increasing (h : Holds s entries) :
    (entries ++ [(s.claims.length, outcome)]).Pairwise fun a b => a.1 < b.1 := by
  rw [List.pairwise_append]
  refine ⟨h.increasing, List.pairwise_singleton _ _, fun a ha b hb => ?_⟩
  rw [List.mem_singleton.mp hb]
  exact h.lt_length ha

lemma append_unique (h : Holds s entries) (hnew : s.ledger.answers outcome.requestId = none) :
    (s.ledger.order ++ [outcome.requestId]).Nodup := by
  have hnot : outcome.requestId ∉ s.ledger.order := by
    rw [h.mem_order, hnew]
    simp
  exact List.nodup_append.mpr ⟨h.unique, List.nodup_singleton _, by
    rintro a ha b hb rfl
    exact hnot (List.mem_singleton.mp hb ▸ ha)⟩

lemma append_answers (h : Holds s entries) (hnew : s.ledger.answers outcome.requestId = none)
    (id : String) (existing : AgentRequestOutcome) :
    Function.update s.ledger.answers outcome.requestId (some outcome) id = some existing ↔
      ∃ e ∈ entries ++ [(s.claims.length, outcome)], e.2 = existing ∧ existing.requestId = id := by
  by_cases hid : id = outcome.requestId
  · subst hid
    rw [Function.update_self]
    constructor
    · rintro heq
      cases heq
      exact ⟨(s.claims.length, outcome), by simp, rfl, rfl⟩
    · rintro ⟨e, he, rfl, hsame⟩
      rcases List.mem_append.mp he with he | he
      · have := (h.answers outcome.requestId e.2).mpr ⟨e, he, rfl, hsame⟩
        simp [hnew] at this
      · rw [List.mem_singleton.mp he]
  · rw [Function.update_of_ne hid, h.answers]
    constructor
    · rintro ⟨e, he, hrest⟩
      exact ⟨e, List.mem_append_left _ he, hrest⟩
    · rintro ⟨e, he, rfl, hsame⟩
      rcases List.mem_append.mp he with he | he
      · exact ⟨e, he, rfl, hsame⟩
      · rw [List.mem_singleton.mp he] at hsame
        exact absurd hsame.symm hid

theorem claimed_step (h : Holds s entries) {entries' : List (ℕ × AgentRequestOutcome)}
    (hplaced : Placed s outcome entries entries')
    (hstep : s.step (.claim outcome) = some (.claimed, t)) : Holds t entries' := by
  obtain ⟨hnew, rfl⟩ := claim_granted hstep
  have hincreasing : (entries ++ [(s.claims.length, outcome)]).Pairwise fun a b => a.1 < b.1 :=
    h.append_increasing
  have hunique := h.append_unique hnew
  have hanswers := h.append_answers hnew
  have hclaimed : ∀ e ∈ entries', ∃ status,
      (s.claims ++ [⟨outcome, .live⟩])[e.1]? = some ⟨e.2, status⟩ :=
    fun e he => h.append_claimed (hplaced.mem he)
  rw [h.order] at hunique ⊢
  cases hplaced with
  | room hlt =>
      rw [AnswerLedger.trim_fits (by simpa using Nat.succ_le_of_lt hlt)]
      exact {
        increasing := hincreasing
        claimed := hclaimed
        order := by simp
        unique := hunique
        answers := hanswers
        fits := by simpa using Nat.succ_le_of_lt hlt }
  | @full old rest hfull =>
      have hlength : (rest.map (fun e => e.2.requestId) ++ [outcome.requestId]).length =
          ledgerCapacity := by simpa using hfull
      rw [List.map_cons, List.cons_append] at hunique ⊢
      obtain ⟨hold, hunique⟩ := List.nodup_cons.mp hunique
      rw [AnswerLedger.trim_full hlength]
      exact {
        increasing := (List.pairwise_cons.mp hincreasing).2
        claimed := hclaimed
        order := by simp
        unique := hunique
        answers := by
          intro id existing
          dsimp only
          by_cases hid : id = old.2.requestId
          · subst hid
            rw [Function.update_self]
            constructor
            · intro hnone
              cases hnone
            · rintro ⟨e, he, rfl, hsame⟩
              apply absurd _ hold
              rw [← hsame, ← List.map_singleton (f := fun e : ℕ × AgentRequestOutcome =>
                e.2.requestId) (a := (s.claims.length, outcome)), ← List.map_append]
              exact List.mem_map_of_mem he
          · rw [Function.update_of_ne hid, hanswers]
            constructor
            · rintro ⟨e, he, rfl, hsame⟩
              rcases List.mem_cons.mp he with rfl | he
              · exact absurd hsame.symm hid
              · exact ⟨e, he, rfl, hsame⟩
            · rintro ⟨e, he, rfl, hsame⟩
              exact ⟨e, List.mem_cons_of_mem _ he, rfl, hsame⟩
        fits := by simpa using Nat.le_of_eq hfull }

theorem effect (h : Holds s entries) (heffect : AnswerEffect s t) : ∃ entries', Holds t entries' := by
  cases heffect with
  | kept ht => exact ⟨entries, ht ▸ h⟩
  | claimed outcome hstep =>
      obtain ⟨entries', hplaced⟩ := h.placed outcome
      exact ⟨entries', h.claimed_step hplaced hstep⟩
  | settled i outcome hclaim ht => exact ⟨entries, ht ▸ h.settled hclaim⟩
  | dropped i outcome hclaim ht => exact ⟨_, ht ▸ h.dropped hclaim⟩

end Holds

theorem reachable_holds (h : answering.Reachable s) : ∃ entries, Holds s entries := by
  apply h.invariant (I := fun s => ∃ entries, Holds s entries) ⟨[], .start⟩
  rintro s action result t ⟨entries, hs⟩ hstep
  exact hs.effect (step_effect hstep)

def keepsLive (s : Answering) : AnswerAction → Bool
  | .claim outcome =>
      (s.ledger.answers outcome.requestId).isSome ||
        decide (s.ledger.order.length < ledgerCapacity) ||
        s.claims.all fun c =>
          decide (c.status = .live → s.ledger.order.head? ≠ some c.outcome.requestId)
  | _ => true

structure FirstWins (s : Answering) (entries : List (ℕ × AgentRequestOutcome)) : Prop
    extends Holds s entries where
  live : ∀ i outcome, s.claims[i]? = some ⟨outcome, .live⟩ → (i, outcome) ∈ entries
  kept : ∀ e ∈ entries, s.claims[e.1]? ≠ some ⟨e.2, .dropped⟩
  settledGone : ∀ i outcome, s.claims[i]? = some ⟨outcome, .settled⟩ →
    (i, outcome) ∈ entries ∨ i + ledgerCapacity < s.claims.length
  later : ∀ i j c d, i < j → s.claims[i]? = some c → s.claims[j]? = some d →
    c.outcome.requestId = d.outcome.requestId →
      c.status = .dropped ∨ (c.status = .settled ∧ i + ledgerCapacity < j)

namespace FirstWins

lemma start : FirstWins .start [] where
  toHolds := .start
  live := by simp [Answering.start]
  kept := by simp
  settledGone := by simp [Answering.start]
  later := by simp [Answering.start]

theorem settle (h : FirstWins s entries) (hclaim : s.claims[i]? = some ⟨outcome, .live⟩) :
    FirstWins { s with claims := s.claims.set i ⟨outcome, .settled⟩ } entries where
  toHolds := h.toHolds.settled hclaim
  live j other hj := by
    rcases set_status hclaim hj with ⟨-, hc⟩ | ⟨-, hj⟩
    · cases hc
    · exact h.live j other hj
  kept e he hdropped := by
    rcases set_status hclaim hdropped with ⟨-, hc⟩ | ⟨-, hj⟩
    · cases hc
    · exact h.kept e he hj
  settledGone j other hj := by
    rw [List.length_set]
    rcases set_status hclaim hj with ⟨rfl, hc⟩ | ⟨-, hj⟩
    · cases hc
      exact .inl (h.live _ _ hclaim)
    · exact h.settledGone j other hj
  later j k c d hjk hj hk hid := by
    have hold : ∀ {a : ℕ} {x : AnswerClaim}, (s.claims.set i ⟨outcome, .settled⟩)[a]? = some x →
        ∃ y, s.claims[a]? = some y ∧ y.outcome = x.outcome ∧ (y.status ≠ .live → y = x) := by
      intro a x ha
      rcases set_status hclaim ha with ⟨rfl, rfl⟩ | ⟨-, ha⟩
      · exact ⟨_, hclaim, rfl, fun hne => absurd rfl hne⟩
      · exact ⟨x, ha, rfl, fun _ => rfl⟩
    obtain ⟨c', hj', hc, hcsame⟩ := hold hj
    obtain ⟨d', hk', hd, -⟩ := hold hk
    rw [← hc, ← hd] at hid
    have hlater := h.later j k c' d' hjk hj' hk' hid
    rwa [hcsame (by rcases hlater with hs | ⟨hs, -⟩ <;> simp [hs])] at hlater

theorem drop (h : FirstWins s entries) (hclaim : s.claims[i]? = some ⟨outcome, .live⟩) :
    FirstWins { ledger := s.ledger.release outcome.requestId
                claims := s.claims.set i ⟨outcome, .dropped⟩ }
      (entries.filter fun e => e.2.requestId ≠ outcome.requestId) := by
  have hown := h.live i outcome hclaim
  have hother : ∀ {j : ℕ} {other : AgentRequestOutcome}, j ≠ i → (j, other) ∈ entries →
      (j, other) ∈ entries.filter fun e => e.2.requestId ≠ outcome.requestId := by
    intro j other hne hmem
    rw [List.mem_filter]
    refine ⟨hmem, decide_eq_true fun hid => hne ?_⟩
    exact congrArg Prod.fst (h.eq_of_requestId hmem hown hid)
  exact {
    toHolds := h.toHolds.dropped hclaim
    live := by
      intro j other hj
      rcases set_status hclaim hj with ⟨-, hc⟩ | ⟨hne, hj⟩
      · cases hc
      · exact hother hne (h.live j other hj)
    kept := by
      intro e he hdropped
      obtain ⟨hmem, hne⟩ := List.mem_filter.mp he
      rcases set_status hclaim hdropped with ⟨-, hc⟩ | ⟨-, hj⟩
      · cases hc
        simp at hne
      · exact h.kept e hmem hj
    settledGone := by
      intro j other hj
      rw [List.length_set]
      rcases set_status hclaim hj with ⟨-, hc⟩ | ⟨hne, hj⟩
      · cases hc
      · rcases h.settledGone j other hj with hmem | hgone
        · exact .inl (hother hne hmem)
        · exact .inr hgone
    later := by
      intro j k c d hjk hj hk hid
      rcases set_status hclaim hj with ⟨-, rfl⟩ | ⟨-, hjold⟩
      · exact .inl rfl
      · rcases set_status hclaim hk with ⟨rfl, rfl⟩ | ⟨-, hkold⟩
        · exact h.later j _ c _ hjk hjold hclaim hid
        · exact h.later j k c d hjk hjold hkold hid }

lemma placed_or_gone (h : FirstWins s entries) {entries' : List (ℕ × AgentRequestOutcome)}
    (hplaced : Holds.Placed s outcome entries entries') {e : ℕ × AgentRequestOutcome}
    (he : e ∈ entries) : e ∈ entries' ∨
      (s.ledger.order.length = ledgerCapacity ∧ s.ledger.order.head? = some e.2.requestId ∧
        e.1 + ledgerCapacity ≤ s.claims.length) := by
  cases hplaced with
  | room => exact .inl (List.mem_append_left _ he)
  | @full old rest hfull =>
      rcases List.mem_cons.mp he with rfl | he
      · refine .inr ⟨by rw [h.order, List.length_map, hfull], by rw [h.order]; rfl, ?_⟩
        rw [← hfull]
        exact head_add_length_le h.increasing fun a ha => h.lt_length ha
      · exact .inl (List.mem_append_left _ he)

lemma keepsLive_claim (hkeeps : keepsLive s (.claim outcome) = true)
    (hnew : s.ledger.answers outcome.requestId = none)
    (hfull : s.ledger.order.length = ledgerCapacity) {c : AnswerClaim} (hc : c ∈ s.claims)
    (hlive : c.status = .live) : s.ledger.order.head? ≠ some c.outcome.requestId := by
  simp only [keepsLive, hnew, Option.isSome_none, Bool.false_or, hfull, Nat.lt_irrefl, decide_false,
    List.all_eq_true, decide_eq_true_eq] at hkeeps
  exact hkeeps c hc hlive

theorem claim (h : FirstWins s entries) {entries' : List (ℕ × AgentRequestOutcome)}
    (hplaced : Holds.Placed s outcome entries entries')
    (hkeeps : keepsLive s (.claim outcome) = true)
    (hstep : s.step (.claim outcome) = some (.claimed, t)) : FirstWins t entries' := by
  have hholds := h.toHolds.claimed_step hplaced hstep
  obtain ⟨hnew, ht⟩ := claim_granted hstep
  have hclaims : t.claims = s.claims ++ [⟨outcome, .live⟩] := by rw [ht]
  have hsplit : ∀ {j : ℕ} {c : AnswerClaim}, t.claims[j]? = some c →
      s.claims[j]? = some c ∨ (j = s.claims.length ∧ c = ⟨outcome, .live⟩) := by
    intro j c hj
    rw [hclaims, List.getElem?_append] at hj
    split at hj
    · exact .inl hj
    · next hlength =>
      rw [List.getElem?_singleton] at hj
      split at hj
      · next hzero => exact .inr ⟨by omega, (Option.some.inj hj).symm⟩
      · cases hj
  have hlast : (s.claims.length, outcome) ∈ entries' := by
    cases hplaced <;> simp
  exact {
    toHolds := hholds
    live := by
      intro j other hj
      rcases hsplit hj with hj | ⟨rfl, hc⟩
      · rcases h.placed_or_gone hplaced (h.live j other hj) with hmem | ⟨hfull, hhead, -⟩
        · exact hmem
        · exact absurd hhead (keepsLive_claim hkeeps hnew hfull (List.mem_of_getElem? hj) rfl)
      · cases hc
        exact hlast
    kept := by
      intro e he hdropped
      rcases hsplit hdropped with hj | ⟨-, hc⟩
      · rcases hplaced.mem he with he | rfl
        · exact h.kept e he hj
        · simp at hj
      · cases hc
    settledGone := by
      intro j other hj
      rw [hclaims, List.length_append, List.length_singleton]
      rcases hsplit hj with hj | ⟨-, hc⟩
      · rcases h.settledGone j other hj with hmem | hgone
        · rcases h.placed_or_gone hplaced hmem with hmem | ⟨-, -, hgone⟩
          · exact .inl hmem
          · exact .inr (Nat.lt_succ_of_le hgone)
        · exact .inr (Nat.lt_succ_of_lt hgone)
      · cases hc
    later := by
      intro j k c d hjk hj hk hid
      rcases hsplit hk with hk | ⟨rfl, rfl⟩
      · rcases hsplit hj with hj | ⟨rfl, -⟩
        · exact h.later j k c d hjk hj hk hid
        · have := (List.getElem?_eq_some_iff.mp hk).1
          omega
      · rcases hsplit hj with hj | ⟨rfl, -⟩
        · have hgone : (j, c.outcome) ∉ entries := by
            intro hmem
            have := (h.answers outcome.requestId c.outcome).mpr ⟨_, hmem, rfl, hid⟩
            simp [hnew] at this
          obtain ⟨other, status⟩ := c
          cases status with
          | live => exact absurd (h.live j other hj) hgone
          | settled => exact .inr ⟨rfl, (h.settledGone j other hj).resolve_left hgone⟩
          | dropped => exact .inl rfl
        · exact absurd hjk (Nat.lt_irrefl _) }

theorem step (h : FirstWins s entries) {action : AnswerAction} {result : AnswerResult}
    (hkeeps : keepsLive s action = true) (hstep : s.step action = some (result, t)) :
    ∃ entries', FirstWins t entries' := by
  cases action with
  | claim outcome =>
      cases result with
      | claimed =>
          obtain ⟨entries', hplaced⟩ := h.placed outcome
          exact ⟨entries', h.claim hplaced hkeeps hstep⟩
      | refused existing => exact ⟨entries, (claim_refused hstep).2 ▸ h⟩
      | settled => simp only [Answering.step] at hstep; split at hstep <;> cases hstep
      | dropped => simp only [Answering.step] at hstep; split at hstep <;> cases hstep
  | settle i =>
      obtain ⟨outcome, hclaim, -, rfl⟩ := settle_step hstep
      exact ⟨entries, h.settle hclaim⟩
  | drop i =>
      obtain ⟨outcome, hclaim, -, rfl⟩ := drop_step hstep
      exact ⟨_, h.drop hclaim⟩

end FirstWins

theorem restricted_first_wins (h : (answering.restrict keepsLive).Reachable s) :
    ∃ entries, FirstWins s entries := by
  apply h.invariant (I := fun s => ∃ entries, FirstWins s entries) ⟨[], .start⟩
  rintro s action result t ⟨entries, hs⟩ hstep
  obtain ⟨hkeeps, hstep⟩ := System.restrict_step.mp hstep
  exact hs.step hkeeps hstep

lemma claimed_twice (h : FirstWins s entries)
    (hstep : s.step (.claim outcome) = some (.claimed, t))
    (hkeeps : keepsLive s (.claim outcome) = false) : ∃ c ∈ t.claims, c.status = .live ∧
      ∀ second, second.requestId = c.outcome.requestId →
        ∃ u, t.step (.claim second) = some (.claimed, u) := by
  obtain ⟨hnew, rfl⟩ := claim_granted hstep
  simp only [keepsLive, hnew, Option.isSome_none, Bool.false_or, Bool.or_eq_false_iff,
    decide_eq_false_iff_not, Nat.not_lt, List.all_eq_false, decide_eq_true_eq,
    Classical.not_imp, not_not] at hkeeps
  obtain ⟨hfull, c, hc, hlive, hhead⟩ := hkeeps
  refine ⟨c, List.mem_append_left _ hc, hlive, fun second hid => ?_⟩
  obtain ⟨rest, horder⟩ := List.head?_eq_some_iff.mp hhead
  have hfits := h.fits
  have hlength : s.ledger.order.length = entries.length := by rw [h.order, List.length_map]
  have hrest : (rest ++ [outcome.requestId]).length = ledgerCapacity := by
    rw [horder] at hlength hfull
    simp only [List.length_cons, List.length_append, List.length_nil] at hlength hfull ⊢
    omega
  rw [horder, List.cons_append, AnswerLedger.trim_full hrest]
  simp only [Answering.step, AnswerLedger.claim, hid, Function.update_self]
  exact ⟨_, rfl⟩

/-- Any two claims of a request: the first was dropped, or it was settled and the capacity of the
ledger lies between. -/
def FirstClaimWins (s : Answering) : Prop :=
  ∀ i j c d, i < j → s.claims[i]? = some c → s.claims[j]? = some d →
    c.outcome.requestId = d.outcome.requestId →
      c.status = .dropped ∨ (c.status = .settled ∧ i + ledgerCapacity < j)

def LateAnswerLearns (s : Answering) : Prop :=
  ∀ outcome existing t, s.step (.claim outcome) = some (.refused existing, t) →
    t = s ∧ existing.requestId = outcome.requestId ∧
      ∃ c ∈ s.claims, c.outcome = existing ∧ c.status ≠ .dropped

def DropsOwnEntry (s : Answering) : Prop :=
  ∀ i result t, s.step (.drop i) = some (result, t) → ∃ c, s.claims[i]? = some c ∧
    s.ledger.answers c.outcome.requestId = some c.outcome ∧
    (∀ j d, i < j → s.claims[j]? = some d → d.outcome.requestId ≠ c.outcome.requestId) ∧
    t.ledger.answers = Function.update s.ledger.answers c.outcome.requestId none ∧
    t.ledger.order = s.ledger.order.filter (· ≠ c.outcome.requestId)

lemma FirstWins.lateAnswerLearns (h : FirstWins s entries) : LateAnswerLearns s := by
  intro outcome existing t hstep
  obtain ⟨hanswer, rfl⟩ := claim_refused hstep
  obtain ⟨e, he, rfl, hid⟩ := (h.answers _ _).mp hanswer
  obtain ⟨status, hclaim⟩ := h.claimed e he
  refine ⟨rfl, hid, _, List.mem_of_getElem? hclaim, rfl, ?_⟩
  rintro rfl
  exact h.kept e he hclaim

lemma FirstWins.dropsOwnEntry (h : FirstWins s entries) : DropsOwnEntry s := by
  intro i result t hstep
  obtain ⟨outcome, hclaim, -, rfl⟩ := drop_step hstep
  refine ⟨_, hclaim, ?_, ?_, rfl, rfl⟩
  · exact (h.answers _ _).mpr ⟨_, h.live i outcome hclaim, rfl, rfl⟩
  · intro j d hij hj hid
    rcases h.later i j _ d hij hclaim hj hid.symm with hdropped | ⟨hsettled, -⟩
    · cases hdropped
    · cases hsettled

/-- The order of the ledger is that of its keys in every run. In a run in which no claim evicts the
entry of a live one the first answer wins, and the first claim that does evict one lets its request
be claimed twice. -/
theorem first_answer_wins (s : Answering) :
    (answering.Reachable s → s.ledger.order.Nodup ∧
      ∀ id, id ∈ s.ledger.order ↔ (s.ledger.answers id).isSome = true) ∧
    ((answering.restrict keepsLive).Reachable s →
      (FirstClaimWins s ∧ LateAnswerLearns s ∧ DropsOwnEntry s) ∧
      ∀ outcome t, s.step (.claim outcome) = some (.claimed, t) →
        keepsLive s (.claim outcome) = false → ∃ c ∈ t.claims, c.status = .live ∧
          ∀ second, second.requestId = c.outcome.requestId →
            ∃ u, t.step (.claim second) = some (.claimed, u)) := by
  constructor
  · intro hs
    obtain ⟨entries, h⟩ := reachable_holds hs
    exact ⟨h.unique, h.mem_order⟩
  · intro hs
    obtain ⟨entries, h⟩ := restricted_first_wins hs
    refine ⟨⟨h.later, h.lateAnswerLearns, h.dropsOwnEntry⟩, fun outcome t hstep hkeeps => ?_⟩
    exact claimed_twice h hstep hkeeps

def demoAnswer (requestId : String) : AgentRequestOutcome where
  requestId := requestId
  decision := .allowed
  origin := .phone
  answeredAt := "t1"

def demoAnswers : List AnswerAction :=
  [.claim (demoAnswer "r"), .drop 0, .claim (demoAnswer "r"), .settle 1, .claim (demoAnswer "r")]

theorem first_answer_wins_demo :
    let s := (answering.restrict keepsLive).exec .start demoAnswers
    s.claims.map AnswerClaim.status = [.dropped, .settled] ∧ FirstClaimWins s := by
  refine ⟨by decide +kernel, ?_⟩
  have hreachable := (System.Reachable.start (M := answering.restrict keepsLive)).exec demoAnswers
  exact ((first_answer_wins _).2 hreachable).1.1

def demoRequest (k : ℕ) : String :=
  String.ofList ('r' :: List.replicate k 'x')

lemma demoRequest_injective : Function.Injective demoRequest := by
  intro k l h
  simpa [demoRequest] using congrArg String.length h

lemma exec_claims {ids : List String} (hunique : ids.Nodup) (hfits : ids.length ≤ ledgerCapacity) :
    let s := answering.exec .start (ids.map fun id => .claim (demoAnswer id))
    s.claims = ids.map (fun id => ⟨demoAnswer id, .live⟩) ∧ s.ledger.order = ids ∧
      ∀ id, s.ledger.answers id = none ↔ id ∉ ids := by
  induction ids using List.reverseRecOn with
  | nil => simp [System.exec, Answering.start, AnswerLedger.empty]
  | append_singleton ids new ih =>
      obtain ⟨hold, -, hnew⟩ := List.nodup_append.mp hunique
      rw [List.length_append, List.length_singleton] at hfits
      obtain ⟨hclaims, horder, hanswers⟩ := ih hold (Nat.le_of_succ_le hfits)
      have hfree : new ∉ ids := fun hmem => hnew new hmem new (by simp) rfl
      simp only [List.map_append, List.map_cons, List.map_nil, System.exec, List.foldl_append,
        List.foldl_cons, List.foldl_nil] at hclaims horder hanswers ⊢
      generalize List.foldl _ _ _ = s at hclaims horder hanswers ⊢
      have hgranted : answering.step s (.claim (demoAnswer new)) = some (.claimed, {
          ledger := ⟨Function.update s.ledger.answers new (some (demoAnswer new)), ids ++ [new]⟩
          claims := s.claims ++ [⟨demoAnswer new, .live⟩] }) := by
        simp only [answering, Answering.step, AnswerLedger.claim, demoAnswer,
          (hanswers new).mpr hfree, horder]
        rw [AnswerLedger.trim_fits (by simpa using hfits)]
      rw [hgranted]
      refine ⟨by simp [hclaims], rfl, fun id => ?_⟩
      simp only [Option.map_some, Option.getD_some, List.mem_append, List.mem_singleton, not_or]
      by_cases hid : id = new
      · simp [hid]
      · rw [Function.update_of_ne hid, hanswers]
        simp [hid]

lemma overflow_claims_twice {first extra : String} {rest : List String}
    (horder : s.ledger.order = first :: rest)
    (hfull : (rest ++ [extra]).length = ledgerCapacity) (hextra : s.ledger.answers extra = none)
    (hfirst : s.claims[0]? = some ⟨demoAnswer first, .live⟩) :
    ¬FirstClaimWins (answering.exec s [.claim (demoAnswer extra), .claim (demoAnswer first)]) := by
  obtain ⟨hpos, -⟩ := List.getElem?_eq_some_iff.mp hfirst
  have hclaims : (answering.exec s [.claim (demoAnswer extra), .claim (demoAnswer first)]).claims =
      s.claims ++ [⟨demoAnswer extra, .live⟩] ++ [⟨demoAnswer first, .live⟩] := by
    simp only [System.exec, List.foldl_cons, List.foldl_nil, answering, Answering.step,
      AnswerLedger.claim, demoAnswer, hextra, horder, List.cons_append,
      AnswerLedger.trim_full hfull, Option.map_some, Option.getD_some, Function.update_self]
  intro hwins
  have hzero : (s.claims ++ [⟨demoAnswer extra, .live⟩] ++ [⟨demoAnswer first, .live⟩])[0]? =
      some ⟨demoAnswer first, .live⟩ := by
    rw [List.append_assoc, List.getElem?_append_left hpos, hfirst]
  rcases hwins 0 (s.claims.length + 1) ⟨demoAnswer first, .live⟩ ⟨demoAnswer first, .live⟩
    (Nat.succ_pos _) (hclaims ▸ hzero) (by rw [hclaims]; simp) rfl with hdropped | ⟨hsettled, -⟩
  · cases hdropped
  · cases hsettled

def demoFlood : List AnswerAction :=
  ((List.range ledgerCapacity).map demoRequest).map (fun id => .claim (demoAnswer id)) ++
    [.claim (demoAnswer (demoRequest ledgerCapacity)), .claim (demoAnswer (demoRequest 0))]

theorem not_first_answer_wins_demo : ¬FirstClaimWins (answering.exec .start demoFlood) := by
  have hunique : ((List.range ledgerCapacity).map demoRequest).Nodup :=
    List.nodup_range.map demoRequest_injective
  have hfits : ((List.range ledgerCapacity).map demoRequest).length ≤ ledgerCapacity := by
    simp only [List.length_map, List.length_range, Nat.le_refl]
  obtain ⟨hclaims, horder, hanswers⟩ := exec_claims hunique hfits
  obtain ⟨n, hn⟩ : ∃ n, ledgerCapacity = n + 1 := ⟨255, rfl⟩
  have hrange : (List.range ledgerCapacity).map demoRequest =
      demoRequest 0 :: ((List.range n).map Nat.succ).map demoRequest := by
    rw [hn, List.range_succ_eq_map, List.map_cons]
  rw [demoFlood, System.exec, List.foldl_append]
  apply overflow_claims_twice (horder.trans hrange)
  · rw [List.length_append, List.length_map, List.length_map, List.length_range, hn,
      List.length_singleton]
  · rw [hanswers, List.mem_map]
    rintro ⟨k, hk, heq⟩
    rw [demoRequest_injective heq] at hk
    exact absurd (List.mem_range.mp hk) (Nat.lt_irrefl _)
  · rw [hclaims, hrange]
    rfl

end DevCommandCenter.Requests
