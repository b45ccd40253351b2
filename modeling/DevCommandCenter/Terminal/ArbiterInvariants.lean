import DevCommandCenter.Terminal.Arbiter

namespace DevCommandCenter

open Library

structure OrderInvariant (committed : Table TerminalKey CommittedRecord)
    (order : List (TerminalKey × ℕ)) : Prop where
  keys : (order.map Prod.fst).Nodup
  records : ∀ key generation, (key, generation) ∈ order ↔
    ∃ record, committed.lookup key = some record ∧ record.generation = generation

structure ArbiterInvariant (registry : Registry) (nextOwner : ℕ) (claims : Table ℕ TerminalClaim)
    (commits : List (TerminalKey × ℕ)) : Prop where
  disjoint : ∀ key, key ∈ registry.active → key ∉ registry.committed
  order : OrderInvariant registry.committed registry.committedOrder
  bounded : registry.committed.size ≤ maxCommittedTombstones
  recent : registry.committedOrder <:+ commits
  owners : ∀ c c' live live', claims.lookup c = some live → claims.lookup c' = some live' →
    live.entry.owner = live'.entry.owner → c = c'
  fresh : ∀ c live, claims.lookup c = some live → live.entry.owner < nextOwner

def TerminalArbiter.Invariant (arbiter : TerminalArbiter) : Prop :=
  ArbiterInvariant arbiter.registry arbiter.nextOwner arbiter.claims arbiter.commits

namespace OrderInvariant

variable {committed : Table TerminalKey CommittedRecord} {order : List (TerminalKey × ℕ)}
  {key : TerminalKey} {generation : ℕ}

lemma not_mem_of_nil (h : OrderInvariant committed []) (key : TerminalKey) : key ∉ committed := by
  intro hkey
  obtain ⟨record, hrecord⟩ := Table.exists_lookup hkey
  have hmem := (h.records key record.generation).mpr ⟨record, hrecord, rfl⟩
  cases hmem

lemma head_lookup (h : OrderInvariant committed ((key, generation) :: order)) :
    ∃ record, committed.lookup key = some record ∧ record.generation = generation :=
  (h.records key generation).mp (List.mem_cons_self ..)

lemma tail (h : OrderInvariant committed ((key, generation) :: order)) :
    OrderInvariant (committed.erase key) order := by
  have hkeys := List.nodup_cons.mp h.keys
  refine ⟨hkeys.2, fun key' generation' => ?_⟩
  by_cases hkey : key' = key
  · subst hkey
    constructor
    · intro hmem
      exact absurd (List.mem_map.mpr ⟨_, hmem, rfl⟩) hkeys.1
    · rintro ⟨record, hrecord, -⟩
      rw [AList.lookup_erase] at hrecord
      cases hrecord
  · rw [AList.lookup_erase_ne hkey, ← h.records, List.mem_cons]
    constructor
    · exact .inr
    · rintro (heq | hmem)
      · cases heq
        exact absurd rfl hkey
      · exact hmem

lemma push (h : OrderInvariant committed order) (hkey : key ∉ committed)
    (outcome : TerminalOutcome) (generation : ℕ) :
    OrderInvariant (committed.insert key ⟨outcome, generation⟩) (order ++ [(key, generation)]) := by
  have hnot : key ∉ order.map Prod.fst := by
    intro hmem
    obtain ⟨⟨_, generation'⟩, hentry, rfl⟩ := List.mem_map.mp hmem
    obtain ⟨record, hrecord, -⟩ := (h.records _ generation').mp hentry
    exact hkey (Table.mem_of_lookup hrecord)
  refine ⟨?_, fun key' generation' => ?_⟩
  · rw [List.map_append]
    exact List.Nodup.append h.keys (List.nodup_singleton _) (by simpa using hnot)
  · rw [List.mem_append, List.mem_singleton, Table.lookup_insert_eq]
    by_cases hkey' : key' = key
    · subst hkey'
      constructor
      · rintro (hmem | heq)
        · exact absurd (List.mem_map.mpr ⟨_, hmem, rfl⟩) hnot
        · cases heq
          exact ⟨_, if_pos rfl, rfl⟩
      · rintro ⟨record, hrecord, rfl⟩
        rw [if_pos rfl, Option.some.injEq] at hrecord
        subst hrecord
        exact .inr rfl
    · rw [if_neg hkey', ← h.records]
      constructor
      · rintro (hmem | heq)
        · exact hmem
        · cases heq
          exact absurd rfl hkey'
      · exact .inl

lemma evict (h : OrderInvariant committed order) :
    OrderInvariant (Registry.evict committed order).1 (Registry.evict committed order).2.1 ∧
    (Registry.evict committed order).1.size ≤ maxCommittedTombstones ∧
    (Registry.evict committed order).2.1 <:+ order ∧
    (Registry.evict committed order).2.2 = false ∧
    ∀ key record, (Registry.evict committed order).1.lookup key = some record →
      committed.lookup key = some record := by
  induction order generalizing committed with
  | nil =>
      have hsize : committed.size = 0 := Table.size_eq_zero h.not_mem_of_nil
      simp [Registry.evict, hsize, h]
  | cons head order ih =>
      obtain ⟨candidate, generation⟩ := head
      unfold Registry.evict
      split
      · obtain ⟨record, hrecord, hgeneration⟩ := h.head_lookup
        have hany : ((committed.lookup candidate).any
            fun record => record.generation = generation) = true := by
          simp [hrecord, hgeneration]
        simp only [hany, if_true]
        obtain ⟨horder, hsize, hsuffix, hdry, hlookup⟩ := ih h.tail
        refine ⟨horder, hsize, hsuffix.trans (List.suffix_cons _ _), hdry, fun key record hkey => ?_⟩
        have herased := hlookup key record hkey
        rw [Table.lookup_erase_eq] at herased
        split at herased
        · cases herased
        · exact herased
      · next hsize => exact ⟨h, not_lt.mp hsize, List.suffix_rfl, rfl, fun _ _ hkey => hkey⟩

end OrderInvariant

namespace Registry

variable {registry : Registry} {claim : TerminalClaim}

lemma isCurrent_iff : registry.isCurrent claim = true ↔ ∃ current,
    registry.active.lookup claim.key = some current ∧
    current.address = claim.entry.address ∧ current.owner = claim.entry.owner := by
  unfold isCurrent
  cases registry.active.lookup claim.key with
  | none => simp
  | some current => simp

lemma mem_active_of_isCurrent (h : registry.isCurrent claim = true) : claim.key ∈ registry.active := by
  obtain ⟨current, hcurrent, -⟩ := isCurrent_iff.mp h
  exact Table.mem_of_lookup hcurrent

lemma commit_of_stale (h : ¬registry.isCurrent claim = true) (outcome : TerminalOutcome) :
    registry.commitAfterPersistence claim outcome = (.error .staleClaim, registry) :=
  if_neg h

lemma release_of_stale (h : ¬registry.isCurrent claim = true) : registry.release claim = registry :=
  if_neg h

lemma commit_of_current (horder : OrderInvariant registry.committed registry.committedOrder)
    (hdisjoint : ∀ key, key ∈ registry.active → key ∉ registry.committed)
    (h : registry.isCurrent claim = true) (outcome : TerminalOutcome) :
    ∃ committed order,
      registry.commitAfterPersistence claim outcome =
        (.ok outcome, ⟨registry.active.erase claim.key, committed, order⟩) ∧
      OrderInvariant committed order ∧ committed.size ≤ maxCommittedTombstones ∧
      order <:+ registry.committedOrder ++ [(claim.key, claim.entry.owner)] ∧
      ∀ key record, committed.lookup key = some record →
        key = claim.key ∨ registry.committed.lookup key = some record := by
  have hkey := hdisjoint claim.key (mem_active_of_isCurrent h)
  obtain ⟨hnew, hsize, hsuffix, hdry, hlookup⟩ :=
    (horder.push hkey outcome claim.entry.owner).evict
  refine ⟨_, _, ?_, hnew, hsize, hsuffix, fun key record hrecord => ?_⟩
  · simp [commitAfterPersistence, h, hdry]
  · have hinserted := hlookup key record hrecord
    rw [Table.lookup_insert_eq] at hinserted
    split at hinserted
    · next heq => exact .inl heq
    · exact .inr hinserted

lemma release_active (key : TerminalKey) (h : key ∈ (registry.release claim).active) :
    key ∈ registry.active := by
  unfold release at h
  split at h
  · exact (AList.mem_erase.mp h).2
  · exact h

@[simp] lemma release_committed : (registry.release claim).committed = registry.committed := by
  unfold release
  split <;> rfl

@[simp] lemma release_committedOrder :
    (registry.release claim).committedOrder = registry.committedOrder := by
  unfold release
  split <;> rfl

end Registry

namespace ArbiterInvariant

variable {registry : Registry} {nextOwner : ℕ} {claims : Table ℕ TerminalClaim}
  {commits : List (TerminalKey × ℕ)} {live : TerminalClaim} {claim : ℕ}

lemma lead (h : ArbiterInvariant registry nextOwner claims commits) {key : TerminalKey}
    (hcommitted : key ∉ registry.committed) (address : ℕ) (intent : TerminalIntent) :
    ArbiterInvariant
      { registry with active := registry.active.insert key ⟨address, nextOwner, intent⟩ }
      (nextOwner + 1) (claims.insert claim ⟨key, ⟨address, nextOwner, intent⟩, true, false⟩)
      commits where
  disjoint key' hkey' := by
    rcases (AList.mem_insert _).mp hkey' with rfl | hkey'
    · exact hcommitted
    · exact h.disjoint key' hkey'
  order := h.order
  bounded := h.bounded
  recent := h.recent
  owners c c' x x' hx hx' hsame := by
    rw [Table.lookup_insert_eq] at hx hx'
    split at hx <;> split at hx'
    · next hc hc' => rw [hc, hc']
    · cases hx
      have hlt := h.fresh c' x' hx'
      simp only at hsame
      omega
    · cases hx'
      have hlt := h.fresh c x hx
      simp only at hsame
      omega
    · exact h.owners c c' x x' hx hx' hsame
  fresh c x hx := by
    rw [Table.lookup_insert_eq] at hx
    split at hx
    · cases hx
      exact Nat.lt_succ_self _
    · exact Nat.lt_succ_of_lt (h.fresh c x hx)

lemma of_claims (h : ArbiterInvariant registry nextOwner claims commits)
    {claims' : Table ℕ TerminalClaim} (hclaims : ∀ c x, claims'.lookup c = some x →
      ∃ x', claims.lookup c = some x' ∧ x'.entry = x.entry) :
    ArbiterInvariant registry nextOwner claims' commits where
  disjoint := h.disjoint
  order := h.order
  bounded := h.bounded
  recent := h.recent
  owners c c' x x' hx hx' hsame := by
    obtain ⟨y, hy, hentry⟩ := hclaims c x hx
    obtain ⟨y', hy', hentry'⟩ := hclaims c' x' hx'
    exact h.owners c c' y y' hy hy' (by rw [hentry, hentry', hsame])
  fresh c x hx := by
    obtain ⟨y, hy, hentry⟩ := hclaims c x hx
    exact hentry ▸ h.fresh c y hy

lemma release (h : ArbiterInvariant registry nextOwner claims commits) (live : TerminalClaim) :
    ArbiterInvariant (registry.release live) nextOwner claims commits where
  disjoint key hkey := by
    rw [Registry.release_committed]
    exact h.disjoint key (Registry.release_active key hkey)
  order := by
    rw [Registry.release_committed, Registry.release_committedOrder]
    exact h.order
  bounded := by
    rw [Registry.release_committed]
    exact h.bounded
  recent := by
    rw [Registry.release_committedOrder]
    exact h.recent
  owners := h.owners
  fresh := h.fresh

lemma lookup_erase_claims {c : ℕ} {x : TerminalClaim}
    (hx : (claims.erase claim).lookup c = some x) :
    ∃ x', claims.lookup c = some x' ∧ x'.entry = x.entry := by
  rw [Table.lookup_erase_eq] at hx
  split at hx
  · cases hx
  · exact ⟨x, hx, rfl⟩

end ArbiterInvariant

namespace TerminalArbiter

variable {arbiter next : TerminalArbiter} {action : ArbiterAction} {answer : ArbiterAnswer}

inductive Effect (arbiter : TerminalArbiter) :
    ArbiterAction → ArbiterAnswer → TerminalArbiter → Prop
  | begin {call : ℕ} {key : TerminalKey} {intent : TerminalIntent} :
      Effect arbiter (.beginClaim call key intent) .pending
        { arbiter with calls := arbiter.calls.insert call ⟨key, intent, .looking⟩ }
  | found {call : ℕ} {claimCall : ClaimCall} {record : CommittedRecord} {action : ArbiterAction} :
      arbiter.registry.committed.lookup claimCall.key = some record →
      Effect arbiter action (.claimed claimCall.key (.ok (.alreadyCommitted record.outcome)))
        { arbiter with calls := arbiter.calls.erase call }
  | refuse {call claim address : ℕ} {claimCall : ClaimCall} :
      claimCall.key ∉ arbiter.registry.committed →
      Effect arbiter (.look call claim address)
        (.claimed claimCall.key (.error .claimCapacityExhausted))
        { arbiter with calls := arbiter.calls.erase call }
  | lead {call claim address : ℕ} {claimCall : ClaimCall} :
      claimCall.key ∉ arbiter.registry.committed →
      Effect arbiter (.look call claim address) (.claimed claimCall.key (.ok (.leader claim)))
        { arbiter with
          registry := { arbiter.registry with
            active := arbiter.registry.active.insert claimCall.key
              ⟨address, arbiter.nextOwner, claimCall.intent⟩ }
          nextOwner := arbiter.nextOwner + 1
          claims := arbiter.claims.insert claim
            ⟨claimCall.key, ⟨address, arbiter.nextOwner, claimCall.intent⟩, true, false⟩
          calls := arbiter.calls.erase call }
  | follow {call : ℕ} {claimCall : ClaimCall} {phase : ClaimPhase} {action : ArbiterAction} :
      arbiter.calls.lookup call = some claimCall →
      (phase = .looking ∨ claimCall.key ∉ arbiter.registry.committed) →
      Effect arbiter action .pending
        { arbiter with calls := arbiter.calls.insert call { claimCall with phase := phase } }
  | timeOut {call : ℕ} {claimCall : ClaimCall} :
      arbiter.calls.lookup call = some claimCall → claimCall.phase ≠ .looking →
      Effect arbiter (.timeOut call) (.claimed claimCall.key (.error .timedOut))
        { arbiter with calls := arbiter.calls.erase call }
  | cancel {call : ℕ} :
      Effect arbiter (.cancel call) .dropped { arbiter with calls := arbiter.calls.erase call }
  | commit {claim : ℕ} {live : TerminalClaim} {outcome : TerminalOutcome} :
      arbiter.claims.lookup claim = some live →
      Effect arbiter (.commit claim outcome) (arbiter.commit claim live outcome).1
        (arbiter.commit claim live outcome).2
  | drop {claim : ℕ} {live : TerminalClaim} :
      arbiter.claims.lookup claim = some live →
      Effect arbiter (.drop claim) .dropped (arbiter.drop claim live).2
  | release {claim : ℕ} {live : TerminalClaim} :
      arbiter.claims.lookup claim = some live →
      Effect arbiter (.releaseButRemainStale claim) .pending
        { arbiter with registry := arbiter.registry.release live }

lemma look_effect {call claim address : ℕ} {claimCall : ClaimCall}
    (hcall : arbiter.calls.lookup call = some claimCall) :
    Effect arbiter (.look call claim address) (arbiter.look call claim address claimCall).1
      (arbiter.look call claim address claimCall).2 := by
  unfold look
  split
  · next record hrecord => exact .found hrecord
  · next hnone =>
      have hcommitted := AList.lookup_eq_none.mp hnone
      split
      · exact .follow hcall (.inr hcommitted)
      · split
        · exact .refuse hcommitted
        · split
          · exact .refuse hcommitted
          · exact .lead hcommitted

lemma recheck_effect {call : ℕ} {claimCall : ClaimCall} (entry : Entry)
    (hcall : arbiter.calls.lookup call = some claimCall) :
    Effect arbiter (.recheck call) (arbiter.recheck call claimCall entry).1
      (arbiter.recheck call claimCall entry).2 := by
  unfold recheck
  split
  · next record hrecord => exact .found hrecord
  · next hnone =>
      split
      · exact .follow hcall (.inr (AList.lookup_eq_none.mp hnone))
      · exact .follow hcall (.inl rfl)

lemma step_effect (h : arbiter.step action = some (answer, next)) :
    Effect arbiter action answer next := by
  cases action with
  | beginClaim call key intent =>
      simp only [step] at h
      split at h
      · cases h
      · cases h
        exact .begin
  | look call claim address =>
      simp only [step] at h
      split at h
      · next key intent hcall =>
          split at h
          · cases h
          · have heffect : Effect arbiter (.look call claim address) _ _ := look_effect hcall
            rw [Option.some.inj h] at heffect
            exact heffect
      · cases h
  | recheck call =>
      simp only [step] at h
      split at h
      · next key intent entry hcall =>
          have heffect := recheck_effect entry hcall
          rw [Option.some.inj h] at heffect
          exact heffect
      · cases h
  | wake call =>
      simp only [step] at h
      split at h
      · next hcall =>
          cases h
          exact .follow hcall (.inl rfl)
      · cases h
  | timeOut call =>
      simp only [step] at h
      split at h
      · next hcall =>
          cases h
          exact .timeOut hcall (by simp)
      · cases h
  | cancel call =>
      simp only [step] at h
      split at h
      · cases h
        exact .cancel
      · cases h
  | commit claim outcome =>
      simp only [step] at h
      split at h
      · next live hlive =>
          split at h
          · cases h
          · have heffect : Effect arbiter (.commit claim outcome) _ _ := .commit hlive
            rw [Option.some.inj h] at heffect
            exact heffect
      · cases h
  | drop claim =>
      simp only [step] at h
      split at h
      · next live hlive =>
          cases h
          exact .drop hlive
      · cases h
  | releaseButRemainStale claim =>
      simp only [step] at h
      split at h
      · next live hlive =>
          cases h
          exact .release hlive
      · cases h

lemma commit_eq_of_stale {claim : ℕ} {live : TerminalClaim} {outcome : TerminalOutcome}
    (h : ¬arbiter.registry.isCurrent live = true) :
    arbiter.commit claim live outcome = (.persisted live.key (.error .staleClaim),
      { arbiter with claims := arbiter.claims.insert claim { live with persisted := true } }) := by
  simp only [TerminalArbiter.commit, Registry.commit_of_stale h]

lemma Invariant.commit {claim : ℕ} {live : TerminalClaim} (h : arbiter.Invariant)
    (hlive : arbiter.claims.lookup claim = some live) (outcome : TerminalOutcome) :
    (arbiter.commit claim live outcome).2.Invariant := by
  by_cases hcurrent : arbiter.registry.isCurrent live = true
  · obtain ⟨committed, order, hcommit, horder, hsize, hsuffix, hlookup⟩ :=
      Registry.commit_of_current h.order h.disjoint hcurrent outcome
    have hclaims : ArbiterInvariant arbiter.registry arbiter.nextOwner (arbiter.claims.erase claim)
        arbiter.commits := h.of_claims fun c x => ArbiterInvariant.lookup_erase_claims
    simp only [TerminalArbiter.commit, hcommit]
    obtain ⟨older, holder⟩ := h.recent
    exact {
      disjoint := fun key hkey hkey' => by
        obtain ⟨hne, hactive⟩ := AList.mem_erase.mp hkey
        obtain ⟨record, hrecord⟩ := Table.exists_lookup hkey'
        rcases hlookup key record hrecord with heq | hold
        · exact hne heq
        · exact h.disjoint key hactive (Table.mem_of_lookup hold)
      order := horder
      bounded := hsize
      recent := hsuffix.trans ⟨older, by rw [← List.append_assoc, holder]⟩
      owners := hclaims.owners
      fresh := hclaims.fresh }
  · rw [commit_eq_of_stale hcurrent]
    refine h.of_claims fun c x hx => ?_
    rw [Table.lookup_insert_eq] at hx
    split at hx
    · next hc =>
        cases hx
        exact ⟨live, hc ▸ hlive, rfl⟩
    · exact ⟨x, hx, rfl⟩

lemma Invariant.drop (h : arbiter.Invariant) (claim : ℕ) (live : TerminalClaim) :
    (arbiter.drop claim live).2.Invariant := by
  have hregistry : ArbiterInvariant (if live.active then arbiter.registry.release live
      else arbiter.registry) arbiter.nextOwner arbiter.claims arbiter.commits := by
    split
    · exact h.release live
    · exact h
  exact hregistry.of_claims fun c x => ArbiterInvariant.lookup_erase_claims

lemma step_invariant (h : arbiter.Invariant) (hstep : arbiter.step action = some (answer, next)) :
    next.Invariant := by
  cases step_effect hstep with
  | begin => exact h
  | found => exact h
  | refuse => exact h
  | lead hcommitted => exact ArbiterInvariant.lead h hcommitted _ _
  | follow => exact h
  | timeOut => exact h
  | cancel => exact h
  | commit hlive => exact h.commit hlive _
  | drop hlive => exact h.drop _ _
  | release hlive => exact ArbiterInvariant.release h _

lemma new_invariant : new.Invariant where
  disjoint := by simp [new]
  order := ⟨List.nodup_nil, by simp [new]⟩
  bounded := by simp [new]
  recent := List.suffix_rfl
  owners := by simp [new]
  fresh := by simp [new]

lemma reachable_invariant (h : terminalArbitration.Reachable arbiter) : arbiter.Invariant := by
  refine h.invariant new_invariant ?_
  intro s action answer t hs hstep
  exact step_invariant hs hstep

end TerminalArbiter

end DevCommandCenter
