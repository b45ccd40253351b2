import DevCommandCenter.Terminal.ArbiterInvariants

/-! What every schedule of claims, commits and drops agrees on. -/

namespace DevCommandCenter

open Library

namespace TerminalArbiter

variable {arbiter next : TerminalArbiter} {action : ArbiterAction} {answer : ArbiterAnswer}

def Leads (arbiter : TerminalArbiter) (claim : ℕ) (key : TerminalKey) : Prop :=
  ∃ live, arbiter.claims.lookup claim = some live ∧ live.key = key ∧
    arbiter.registry.isCurrent live = true

def Stale (arbiter : TerminalArbiter) (claim : ℕ) : Prop :=
  ∃ live, arbiter.claims.lookup claim = some live ∧ arbiter.registry.isCurrent live = false

def ofClaim (claim : ℕ) : ArbiterAction → Prop
  | .commit c _ | .drop c | .releaseButRemainStale c => c = claim
  | _ => False

def LateCallsLook (first : TerminalArbiter) (key : TerminalKey) (arbiter : TerminalArbiter) : Prop :=
  ∀ call claimCall, arbiter.calls.lookup call = some claimCall → claimCall.key = key →
    claimCall.phase = .looking ∨
      ∃ before, first.calls.lookup call = some before ∧ before.key = key ∧ before.phase ≠ .looking

def AnswersCommitted (first : TerminalArbiter) (key : TerminalKey) (outcome : TerminalOutcome)
    (action : ArbiterAction) (answer : ArbiterAnswer) : Prop :=
  ∀ result, answer = .claimed key result → result = .ok (.alreadyCommitted outcome) ∨
    result = .error .timedOut ∧ ∃ call before, action = .timeOut call ∧
      first.calls.lookup call = some before ∧ before.key = key ∧ before.phase ≠ .looking

lemma leads_unique (h : arbiter.Invariant) {key : TerminalKey} {c c' : ℕ}
    (hc : arbiter.Leads c key) (hc' : arbiter.Leads c' key) : c = c' := by
  obtain ⟨live, hlive, hkey, hcurrent⟩ := hc
  obtain ⟨live', hlive', hkey', hcurrent'⟩ := hc'
  obtain ⟨entry, hentry, -, howner⟩ := Registry.isCurrent_iff.mp hcurrent
  obtain ⟨entry', hentry', -, howner'⟩ := Registry.isCurrent_iff.mp hcurrent'
  rw [hkey] at hentry
  rw [hkey', hentry, Option.some.injEq] at hentry'
  exact h.owners c c' live live' hlive hlive' (by rw [← howner, ← howner', hentry'])

lemma stale_step {claim : ℕ} (hstale : arbiter.Stale claim) (haction : ofClaim claim action)
    (hstep : arbiter.step action = some (answer, next)) : next.registry = arbiter.registry := by
  obtain ⟨live, hlive, hcurrent⟩ := hstale
  have hnot : ¬arbiter.registry.isCurrent live = true := by simp [hcurrent]
  cases step_effect hstep with
  | begin | refuse | lead | timeOut | cancel => cases haction
  | found => rfl
  | follow => rfl
  | commit hlive' =>
      cases haction
      cases hlive.symm.trans hlive'
      rw [commit_eq_of_stale hnot]
  | drop hlive' =>
      cases haction
      cases hlive.symm.trans hlive'
      simp only [TerminalArbiter.drop, Registry.release_of_stale hnot, ite_self]
  | release hlive' =>
      cases haction
      cases hlive.symm.trans hlive'
      exact Registry.release_of_stale hnot

lemma commit_never_poisoned (h : arbiter.Invariant)
    (hstep : arbiter.step action = some (answer, next)) (key : TerminalKey) :
    answer ≠ .persisted key (.error .poisoned) := by
  cases step_effect hstep with
  | begin | found | refuse | lead | follow | timeOut | cancel | drop | release => simp
  | @commit claim live outcome hlive =>
      by_cases hcurrent : arbiter.registry.isCurrent live = true
      · obtain ⟨committed, order, hcommit, -⟩ :=
          Registry.commit_of_current h.order h.disjoint hcurrent outcome
        simp [TerminalArbiter.commit, hcommit]
      · simp [commit_eq_of_stale hcurrent]

lemma step_keeps_record (h : arbiter.Invariant)
    (hstep : arbiter.step action = some (answer, next)) {key : TerminalKey}
    {record : CommittedRecord} (hrecord : arbiter.registry.committed.lookup key = some record)
    (hkey : key ∈ next.registry.committed) :
    next.registry.committed.lookup key = some record := by
  cases step_effect hstep with
  | begin | found | refuse | lead | follow | timeOut | cancel => exact hrecord
  | @commit claim live outcome hlive =>
      by_cases hcurrent : arbiter.registry.isCurrent live = true
      · obtain ⟨committed, order, hcommit, -, -, -, hlookup⟩ :=
          Registry.commit_of_current h.order h.disjoint hcurrent outcome
        simp only [TerminalArbiter.commit, hcommit] at hkey ⊢
        obtain ⟨record', hrecord'⟩ := Table.exists_lookup hkey
        rcases hlookup key record' hrecord' with rfl | hold
        · -- the key of a current claim is active, so it was not committed before
          exact absurd (Table.mem_of_lookup hrecord)
            (h.disjoint _ (Registry.mem_active_of_isCurrent hcurrent))
        · rw [hrecord] at hold
          rw [hrecord', hold]
      · rw [commit_eq_of_stale hcurrent]
        exact hrecord
  | drop hlive =>
      simp only [TerminalArbiter.drop]
      split
      · rw [Registry.release_committed]
        exact hrecord
      · exact hrecord
  | release hlive =>
      simp only [Registry.release_committed]
      exact hrecord

lemma lateCallsLook_erase {first : TerminalArbiter} {key : TerminalKey} {call : ℕ}
    (h : LateCallsLook first key arbiter) :
    LateCallsLook first key { arbiter with calls := arbiter.calls.erase call } := by
  intro call' claimCall hcall
  simp only [Table.lookup_erase_eq] at hcall
  split at hcall
  · cases hcall
  · exact h call' claimCall hcall

lemma lateCallsLook_insert {first : TerminalArbiter} {key : TerminalKey} {call : ℕ}
    {claimCall : ClaimCall} (h : LateCallsLook first key arbiter)
    (hnew : claimCall.key = key → claimCall.phase = .looking) :
    LateCallsLook first key { arbiter with calls := arbiter.calls.insert call claimCall } := by
  intro call' claimCall' hcall hkey
  simp only [Table.lookup_insert_eq] at hcall
  split at hcall
  · cases hcall
    exact .inl (hnew hkey)
  · exact h call' claimCall' hcall hkey

lemma step_late {first : TerminalArbiter} {key : TerminalKey} {record : CommittedRecord}
    (hstep : arbiter.step action = some (answer, next))
    (hrecord : arbiter.registry.committed.lookup key = some record)
    (hlate : LateCallsLook first key arbiter) :
    LateCallsLook first key next ∧ AnswersCommitted first key record.outcome action answer := by
  have hmem := Table.mem_of_lookup hrecord
  cases step_effect hstep with
  | begin =>
      exact ⟨lateCallsLook_insert hlate fun _ => rfl, fun result hresult => by cases hresult⟩
  | found hfound =>
      refine ⟨lateCallsLook_erase hlate, fun result hresult => ?_⟩
      cases hresult
      rw [hrecord, Option.some.injEq] at hfound
      exact .inl (by rw [hfound])
  | refuse hnone =>
      refine ⟨lateCallsLook_erase hlate, fun result hresult => ?_⟩
      cases hresult
      exact absurd hmem hnone
  | lead hnone =>
      refine ⟨lateCallsLook_erase hlate, fun result hresult => ?_⟩
      cases hresult
      exact absurd hmem hnone
  | follow hcall hphase =>
      refine ⟨lateCallsLook_insert hlate fun hkey => ?_, fun result hresult => by cases hresult⟩
      rcases hphase with hphase | hnone
      · exact hphase
      · exact absurd (hkey ▸ hmem) hnone
  | timeOut hcall hphase =>
      refine ⟨lateCallsLook_erase hlate, fun result hresult => ?_⟩
      cases hresult
      rcases hlate _ _ hcall rfl with hlooking | hbefore
      · exact absurd hlooking hphase
      · obtain ⟨before, hbefore⟩ := hbefore
        exact .inr ⟨rfl, _, before, rfl, hbefore⟩
  | cancel => exact ⟨lateCallsLook_erase hlate, fun result hresult => by cases hresult⟩
  | @commit claim live outcome hlive =>
      simp only [TerminalArbiter.commit]
      split
      · exact ⟨hlate, fun result hresult => by cases hresult⟩
      · exact ⟨hlate, fun result hresult => by cases hresult⟩
  | drop => exact ⟨hlate, fun result hresult => by cases hresult⟩
  | release => exact ⟨hlate, fun result hresult => by cases hresult⟩

lemma committed_stays (h : arbiter.Invariant) {key : TerminalKey} {record : CommittedRecord}
    {l : List (ArbiterAction × ArbiterAnswer)}
    (hrecord : arbiter.registry.committed.lookup key = some record)
    (hrun : terminalArbitration.RunIn (fun state => key ∈ state.registry.committed) arbiter l next) :
    next.registry.committed.lookup key = some record ∧
      ∀ e ∈ l, AnswersCommitted arbiter key record.outcome e.1 e.2 := by
  have hstart : LateCallsLook arbiter key arbiter := by
    intro call claimCall hcall hkey
    by_cases hphase : claimCall.phase = .looking
    · exact .inl hphase
    · exact .inr ⟨claimCall, hcall, hkey, hphase⟩
  have hstep : ∀ s a b t,
      (s.Invariant ∧ s.registry.committed.lookup key = some record ∧ LateCallsLook arbiter key s) →
      key ∈ s.registry.committed → key ∈ t.registry.committed →
      terminalArbitration.step s a = some (b, t) →
      (t.Invariant ∧ t.registry.committed.lookup key = some record ∧
        LateCallsLook arbiter key t) ∧ AnswersCommitted arbiter key record.outcome a b := by
    rintro s a b t ⟨hs, hkept, hlate⟩ - hkey hst
    obtain ⟨hlate', hanswer⟩ := step_late hst hkept hlate
    exact ⟨⟨step_invariant hs hst, step_keeps_record hs hst hkept hkey, hlate'⟩, hanswer⟩
  obtain ⟨⟨-, hkept, -⟩, hanswers⟩ := hrun.induct hstep ⟨h, hrecord, hstart⟩
  exact ⟨hkept, hanswers⟩

end TerminalArbiter

open TerminalArbiter in
theorem terminal_arbitration_agrees {arbiter : TerminalArbiter}
    (h : terminalArbitration.Reachable arbiter) :
    (∀ key c c', arbiter.Leads c key → arbiter.Leads c' key → c = c') ∧
    (∀ key, ¬(key ∈ arbiter.registry.active ∧ key ∈ arbiter.registry.committed)) ∧
    (∀ claim action answer next, arbiter.Stale claim → ofClaim claim action →
      arbiter.step action = some (answer, next) → next.registry = arbiter.registry) ∧
    (∀ key record l next, arbiter.registry.committed.lookup key = some record →
      terminalArbitration.RunIn (fun state => key ∈ state.registry.committed) arbiter l next →
      next.registry.committed.lookup key = some record ∧
        ∀ e ∈ l, AnswersCommitted arbiter key record.outcome e.1 e.2) ∧
    arbiter.registry.committed.size ≤ maxCommittedTombstones ∧
    (arbiter.registry.committedOrder.map Prod.fst).Nodup ∧
    (∀ key, key ∈ arbiter.registry.committedOrder.map Prod.fst ↔ key ∈ arbiter.registry.committed) ∧
    arbiter.registry.committedOrder <:+ arbiter.commits ∧
    ∀ action answer next key, arbiter.step action = some (answer, next) →
      answer ≠ .persisted key (.error .poisoned) := by
  have hinv := reachable_invariant h
  refine ⟨fun key c c' => leads_unique hinv, fun key hkey => hinv.disjoint key hkey.1 hkey.2,
    fun claim action answer next => stale_step, fun key record l next => committed_stays hinv,
    hinv.bounded, hinv.order.keys, fun key => ?_, hinv.recent,
    fun action answer next key hstep => commit_never_poisoned hinv hstep key⟩
  constructor
  · intro hkey
    obtain ⟨⟨_, generation⟩, hentry, rfl⟩ := List.mem_map.mp hkey
    obtain ⟨record, hrecord, -⟩ := (hinv.order.records _ generation).mp hentry
    exact Table.mem_of_lookup hrecord
  · intro hkey
    obtain ⟨record, hrecord⟩ := Table.exists_lookup hkey
    exact List.mem_map.mpr ⟨_, (hinv.order.records _ _).mpr ⟨record, hrecord, rfl⟩, rfl⟩

section OneCommit

def demoKey : TerminalKey :=
  ⟨⟨"session-1"⟩, ⟨"turn-1"⟩⟩

def demoArbiter : TerminalArbiter :=
  terminalArbitration.exec .new [.beginClaim 0 demoKey .aborted, .look 0 0 7,
    .beginClaim 1 demoKey .completed, .look 1 1 8, .recheck 1, .commit 0 .aborted, .wake 1]

theorem terminal_arbitration_agrees_demo :
    demoArbiter.registry.committed.lookup demoKey = some ⟨.aborted, 1⟩ ∧
    ∀ l next, terminalArbitration.RunIn (fun state => demoKey ∈ state.registry.committed)
      demoArbiter l next → next.registry.committed.lookup demoKey = some ⟨.aborted, 1⟩ :=
  ⟨by decide, fun l next hrun =>
    ((terminal_arbitration_agrees (System.Reachable.exec .start _)).2.2.2.1 demoKey ⟨.aborted, 1⟩ l next
      (by decide) hrun).1⟩

end OneCommit

end DevCommandCenter
