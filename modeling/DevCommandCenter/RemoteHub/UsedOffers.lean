import DevCommandCenter.RemoteHub.HubSteps

/-! An offer is consumed by one handshake, and stays consumed. -/

namespace DevCommandCenter.RemoteHub

open Library

def HubCall.TookOffer (pairId : String) : HubCall → Prop
  | .pair pairing =>
      pairing.pairId = pairId ∧ (pairing.stage.tookOffer = true ∨ pairing.requested ≠ [])
  | _ => False

def Hub.Used (hub : Hub) (pairId : String) : Prop :=
  pairId ∈ hub.pairIds ∧ ∀ offer, hub.offers pairId = some offer → offer.consumed = true

structure OffersSound (s : Pool Hub HubCall) : Prop where
  drawn : ∀ pairId, s.shared.offers pairId ≠ none → pairId ∈ s.shared.pairIds
  used : ∀ call ∈ s.calls, ∀ pairId, call.TookOffer pairId → s.shared.Used pairId
  alone : ∀ pairId, Alone (HubCall.TookOffer pairId) s.calls

inductive OfferEffect (hub : Hub) : HubCall → Hub → HubCall → Prop
  | keeps {call call' : HubCall} {hub' : Hub} : hub'.offers = hub.offers → hub'.pairIds = hub.pairIds →
      (∀ pairId, call'.TookOffer pairId → call.TookOffer pairId) → OfferEffect hub call hub' call'
  | inserts {call call' : HubCall} {pairId : String} {ttl : ℕ} : pairId ∉ hub.pairIds →
      (∀ pairId, ¬call'.TookOffer pairId) →
      OfferEffect hub call (hub.insertOffer pairId ttl) call'
  | consumes {call call' : HubCall} {pairId : String} : hub.offerOpen pairId = true →
      (∀ pairId', call'.TookOffer pairId' → pairId' = pairId) →
      OfferEffect hub call (hub.consumeOffer pairId) call'

section Steps

variable {hub hub' : Hub} {pairing pairing' : Pairing} {call call' : HubCall} {input : HubInput}

lemma OfferEffect.of_pair (h : PairEffect hub pairing input hub' pairing') :
    OfferEffect hub (.pair pairing) hub' (.pair pairing') := by
  have hsame : ∀ {after : Pairing}, after.pairId = pairing.pairId → after.requested = pairing.requested →
      (after.stage.tookOffer = true → pairing.stage.tookOffer = true) →
      ∀ pairId, (HubCall.pair after).TookOffer pairId → (HubCall.pair pairing).TookOffer pairId :=
    fun hid hrequested htook pairId ⟨heq, hor⟩ =>
      ⟨hid ▸ heq, hor.imp htook fun hne => hrequested ▸ hne⟩
  cases h with
  | prepares _ _ _ htook => exact .keeps rfl rfl (hsame rfl rfl htook)
  | consumes _ hopen => exact .consumes hopen fun pairId' htook => htook.1.symm
  | requests hstage =>
      exact .keeps rfl rfl fun pairId htook => ⟨htook.1, .inl (by rw [hstage]; rfl)⟩
  | leaves => exact .keeps (by simp) (by simp) (hsame rfl rfl nofun)
  | waits => exact .keeps rfl rfl (hsame rfl rfl id)
  | runs => exact .keeps rfl rfl (hsame rfl rfl id)
  | _ => exact .keeps rfl rfl (hsame rfl rfl nofun)

lemma not_tookOffer_of_isQuiet (h : call.isQuiet = true) (pairId : String) : ¬call.TookOffer pairId := by
  cases call with
  | pair => cases h
  | _ => exact id

lemma OfferEffect.of_hub (h : HubEffect hub input call hub' call') : OfferEffect hub call hub' call' := by
  cases h with
  | passes _ hquiet =>
      exact .keeps rfl rfl fun pairId htook => absurd htook (not_tookOffer_of_isQuiet hquiet pairId)
  | begins =>
      refine .keeps rfl rfl fun pairId htook => ?_
      simp [HubCall.TookOffer, Pairing.fresh, PairStage.tookOffer] at htook
  | offers _ hfresh => exact .inserts hfresh fun _ => id
  | pairs h => exact .of_pair h
  | _ => exact .keeps rfl rfl fun _ => False.elim

lemma offers_insertOffer {pairId fresh : String} {ttl : ℕ} (h : pairId ≠ fresh) :
    (hub.insertOffer fresh ttl).offers pairId = (hub.offers pairId).filter fun offer =>
      decide (hub.now < offer.expiresAt) && !offer.consumed := by
  simp [Hub.insertOffer, h]

lemma offers_consumeOffer (pairId : String) : (hub.consumeOffer pairId).offers pairId =
    (hub.offers pairId).map fun offer => { offer with consumed := true } := by
  simp [Hub.consumeOffer]

lemma offers_consumeOffer_of_ne {pairId pairId' : String} (h : pairId ≠ pairId') :
    (hub.consumeOffer pairId').offers pairId = hub.offers pairId :=
  Function.update_of_ne h _ _

lemma Hub.Used.of_consumed {pairId : String} (h : pairId ∈ hub.pairIds) :
    (hub.consumeOffer pairId).Used pairId := by
  refine ⟨h, fun offer hoffer => ?_⟩
  rw [offers_consumeOffer] at hoffer
  obtain ⟨before, -, rfl⟩ := Option.map_eq_some_iff.mp hoffer
  rfl

lemma Hub.Used.not_open {pairId : String} (h : hub.Used pairId) : hub.offerOpen pairId = false := by
  unfold Hub.offerOpen
  cases hoffer : hub.offers pairId with
  | none => rfl
  | some offer => rw [Option.any_some, h.2 offer hoffer]; rfl

lemma Hub.Used.insertOffer {pairId fresh : String} {ttl : ℕ} (h : hub.Used pairId)
    (hfresh : fresh ∉ hub.pairIds) : (hub.insertOffer fresh ttl).Used pairId := by
  refine ⟨List.mem_cons_of_mem _ h.1, fun offer hoffer => h.2 offer ?_⟩
  have hne : pairId ≠ fresh := fun heq => hfresh (heq ▸ h.1)
  rw [offers_insertOffer hne, Option.filter_eq_some_iff] at hoffer
  exact hoffer.1

lemma Hub.Used.consumeOffer {pairId : String} (h : hub.Used pairId) (pairId' : String) :
    (hub.consumeOffer pairId').Used pairId := by
  by_cases heq : pairId = pairId'
  · exact heq ▸ .of_consumed h.1
  · refine ⟨h.1, fun offer hoffer => h.2 offer ?_⟩
    rwa [offers_consumeOffer_of_ne heq] at hoffer

end Steps

namespace OffersSound

variable {s : Pool Hub HubCall} {hub' : Hub} {call call' : HubCall} {i : ℕ}

lemma advance (h : OffersSound s) (hc : s.calls[i]? = some call)
    (heffect : OfferEffect s.shared call hub' call') :
    OffersSound { shared := hub', calls := s.calls.set i call' } := by
  cases heffect with
  | keeps hoffers hpairIds htook =>
      have hused : ∀ pairId, s.shared.Used pairId → hub'.Used pairId := fun pairId hused => by
        rw [Hub.Used, hoffers, hpairIds]
        exact hused
      refine ⟨fun pairId hoffer => ?_, fun c hmem pairId hc' => ?_, fun pairId => ?_⟩
      · rw [hpairIds]
        exact h.drawn pairId (hoffers ▸ hoffer)
      · rcases List.mem_or_eq_of_mem_set hmem with hmem | rfl
        · exact hused pairId (h.used c hmem pairId hc')
        · exact hused pairId (h.used call (List.mem_of_getElem? hc) pairId (htook pairId hc'))
      · exact (h.alone pairId).set hc fun hc' => .inl (htook pairId hc')
  | @inserts _ fresh ttl hfresh hnot =>
      refine ⟨fun pairId hoffer => ?_, fun c hmem pairId hc' => ?_, fun pairId => ?_⟩
      · by_cases heq : pairId = fresh
        · exact heq ▸ List.mem_cons_self
        · rw [offers_insertOffer heq] at hoffer
          refine List.mem_cons_of_mem _ (h.drawn pairId fun hnone => hoffer ?_)
          rw [hnone]
          rfl
      · rcases List.mem_or_eq_of_mem_set hmem with hmem | rfl
        · exact (h.used c hmem pairId hc').insertOffer hfresh
        · exact absurd hc' (hnot pairId)
      · exact (h.alone pairId).set hc fun hc' => absurd hc' (hnot pairId)
  | @consumes _ consumed hopen htook =>
      have hnobody : ∀ c ∈ s.calls, ¬c.TookOffer consumed := fun c hmem hc' => by
        rw [(h.used c hmem consumed hc').not_open] at hopen
        cases hopen
      have hdrawn : consumed ∈ s.shared.pairIds := by
        refine h.drawn consumed fun hnone => ?_
        rw [Hub.offerOpen, hnone] at hopen
        cases hopen
      refine ⟨fun pairId hoffer => ?_, fun c hmem pairId hc' => ?_, fun pairId => ?_⟩
      · by_cases heq : pairId = consumed
        · exact heq ▸ hdrawn
        · rw [offers_consumeOffer_of_ne heq] at hoffer
          exact h.drawn pairId hoffer
      · rcases List.mem_or_eq_of_mem_set hmem with hmem | rfl
        · exact (h.used c hmem pairId hc').consumeOffer consumed
        · obtain rfl := htook pairId hc'
          exact .of_consumed hdrawn
      · refine (h.alone pairId).set hc fun hc' => .inr ?_
        obtain rfl := htook pairId hc'
        exact hnobody

lemma enter (h : OffersSound s) (hbegins : call.begins = true) :
    OffersSound { s with calls := s.calls ++ [call] } := by
  have hnot : ∀ pairId, ¬call.TookOffer pairId := fun pairId => by
    cases call with
    | pair => cases hbegins
    | _ => exact id
  refine ⟨h.drawn, fun c hmem pairId hc => ?_, fun pairId => (h.alone pairId).append (hnot pairId)⟩
  rcases List.mem_append.mp hmem with hmem | hmem
  · exact h.used c hmem pairId hc
  · rw [List.mem_singleton.mp hmem] at hc
    exact absurd hc (hnot pairId)

end OffersSound

theorem offersSound_of_reachable {s : Pool Hub HubCall} (h : remoteHub.Reachable s) : OffersSound s := by
  refine h.invariant ?_ fun s action _ t hs hstep => ?_
  · constructor <;> simp [remoteHub, pool, Hub.new, Alone]
  · cases action with
    | enter call =>
        obtain ⟨hbegins, rfl⟩ := pool_enter.mp hstep
        exact hs.enter hbegins
    | advance i input =>
        obtain ⟨call, hc, hub', call', hnext, rfl⟩ := pool_advance.mp hstep
        exact hs.advance hc (.of_hub (hub_effect hnext))

end DevCommandCenter.RemoteHub
