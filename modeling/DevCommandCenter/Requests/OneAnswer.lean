import DevCommandCenter.Library.Sequences
import DevCommandCenter.Requests.ProviderAnswers

/-! Why a request is answered once, and when whoever comes second is told the answer that the provider
gets. -/

namespace DevCommandCenter.ProviderRequests

open Library

abbrev Responding := Pool AnswerWorld RespondCall

def RespondCall.entry : RespondCall → Option (RequestKey × AnsweredProviderRequest)
  | .claimed key answer _ | .forwarding key answer | .releasing key answer _ => some (key, answer)
  | .settling key => some (key, .permission "allow")
  | _ => none

def RespondCall.claims : RespondCall → Option RequestKey
  | .claiming key .. => some key
  | _ => none

def RespondCall.changes : RespondCall → Option RequestKey
  | .settling key | .releasing key .. => some key
  | _ => none

def isTold (s : Responding) (key : RequestKey) : Bool :=
  s.calls.any fun call => call.told.any fun told => told.1 = key

/-- A claim pushes out only the entry of a request that the history shows as answered, and that no
call is still about to claim. -/
def evictsResolved (s : Responding) : PoolAction RespondCall RespondDraw → Bool
  | .advance i draw =>
      match s.calls[i]? with
      | some (.claiming key _ _) => draw.fault.isSome || (s.shared.claims.get key).isSome ||
          (s.shared.claims.evicted answeredProviderRequestsCap).all fun old =>
            (answeredInHistory (s.shared.history old.1) old.2).isSome &&
              s.calls.all fun call => call.claims ≠ some old
      | _ => true
  | .enter _ => true

/-- Nobody is told of a claim that is about to change, and a claim of which someone was told is
neither turned by the tool guard nor fails to reach the provider. -/
def tellsFinal (s : Responding) : PoolAction RespondCall RespondDraw → Bool
  | .advance i draw =>
      match s.calls[i]? with
      | some (.claiming key _ _) => draw.fault.isSome || (s.shared.claims.get key).isNone ||
          s.calls.all fun call => call.changes ≠ some key
      | some (.claimed key answer events) =>
          !(isGuarded key answer events && draw.blocks) || !isTold s key
      | some (.forwarding key _) => draw.fault.isNone || !isTold s key
      | _ => true
  | .enter _ => true

/-- Whoever was told an answer was told one that the provider got or is about to get. -/
def ToldForwarded (s : Responding) : Prop :=
  ∀ call ∈ s.calls, ∀ told, call.told = some told →
    told ∈ s.shared.forwarded ∨ ∃ other ∈ s.calls, other.pending = some told

structure OneAnswer (s : Responding) : Prop where
  once : (s.shared.forwarded.map Prod.fst).Nodup
  told : ToldForwarded s

structure Answered (s : Responding) : Prop where
  kept : s.shared.claims.WellKept answeredProviderRequestsCap
  alone : ∀ key, Alone (fun call => call.holds = some key) s.calls
  held : ∀ c ∈ s.calls, ∀ key answer, c.entry = some (key, answer) →
    s.shared.claims.get key = some answer
  unsent : ∀ c ∈ s.calls, ∀ key, c.holds = some key → key ∉ s.shared.forwarded.map Prod.fst
  owned : ∀ key answer, s.shared.claims.get key = some answer →
    (key, answer) ∈ s.shared.forwarded ∨ ∃ c ∈ s.calls, c.entry = some (key, answer)
  sent : ∀ key answer, (key, answer) ∈ s.shared.forwarded →
    s.shared.claims.get key = some answer ∨
      ((answeredInHistory (s.shared.history key.1) key.2).isSome = true ∧
        ∀ c ∈ s.calls, c.claims ≠ some key)
  resolved : ∀ event ∈ s.shared.events, ∀ requestId answer,
    resolvedAnswer requestId event.kind = some answer →
      ((event.sessionId, requestId), answer) ∈ s.shared.forwarded
  once : (s.shared.forwarded.map Prod.fst).Nodup

section Entries

variable {c : RespondCall} {key : RequestKey} {answer : AnsweredProviderRequest}

lemma holds_iff_entry : c.holds = some key ↔ ∃ answer, c.entry = some (key, answer) := by
  cases c <;> simp [RespondCall.holds, RespondCall.entry]

lemma holds_of_pending (h : c.pending = some (key, answer)) : c.holds = some key := by
  cases c <;> simp_all [RespondCall.pending, RespondCall.holds]

lemma holds_of_changes (h : c.changes = some key) : c.holds = some key := by
  cases c <;> simp_all [RespondCall.changes, RespondCall.holds]

lemma pending_of_entry (h : c.entry = some (key, answer)) (hfinal : c.changes ≠ some key) :
    c.pending = some (key, answer) := by
  cases c <;> simp_all [RespondCall.entry, RespondCall.changes, RespondCall.pending]

end Entries

section Steps

variable {s : Responding} {i : ℕ} {call call' : RespondCall} {world : AnswerWorld}
  {key : RequestKey} {answer : AnsweredProviderRequest}

lemma holds_congr (h : call'.entry = call.entry) : call'.holds = call.holds := by
  ext key
  rw [holds_iff_entry, holds_iff_entry, h]

lemma Answered.moves (h : Answered s) (hc : s.calls[i]? = some call)
    (hentry : call'.entry = call.entry) (hclaims : world.claims = s.shared.claims)
    (hforwarded : world.forwarded = s.shared.forwarded)
    (hevents : ∀ event ∈ world.events, event ∈ s.shared.events ∨ ∀ requestId answer,
      resolvedAnswer requestId event.kind = some answer →
        ((event.sessionId, requestId), answer) ∈ s.shared.forwarded)
    (hanswered : ∀ key : RequestKey,
      (answeredInHistory (s.shared.history key.1) key.2).isSome = true →
        (answeredInHistory (world.history key.1) key.2).isSome = true)
    (hclaiming : ∀ key, call'.claims = some key → call.claims = some key ∨
      answeredInHistory (s.shared.history key.1) key.2 = none) :
    Answered { shared := world, calls := s.calls.set i call' } where
  kept := hclaims ▸ h.kept
  alone := fun key => (h.alone key).set hc fun hholds => .inl (holds_congr hentry ▸ hholds)
  held c hmem key answer hheld := by
    rw [hclaims]
    rcases List.mem_or_eq_of_mem_set hmem with hmem | rfl
    · exact h.held c hmem key answer hheld
    · exact h.held call (List.mem_of_getElem? hc) key answer (hentry ▸ hheld)
  unsent c hmem key hholds := by
    rw [hforwarded]
    rcases List.mem_or_eq_of_mem_set hmem with hmem | rfl
    · exact h.unsent c hmem key hholds
    · exact h.unsent call (List.mem_of_getElem? hc) key (holds_congr hentry ▸ hholds)
  owned key answer hget := by
    rw [hclaims] at hget
    rw [hforwarded]
    refine (h.owned key answer hget).imp_right fun howner => ?_
    rcases exists_mem_set (b := call') hc howner with howner | howner
    · exact howner
    · exact ⟨call', mem_set_self hc, hentry.trans howner⟩
  sent key answer hsent := by
    rw [hforwarded] at hsent
    rw [hclaims]
    refine (h.sent key answer hsent).imp_right fun ⟨hhistory, hnone⟩ => ⟨hanswered key hhistory, ?_⟩
    intro c hmem hclaims
    rcases List.mem_or_eq_of_mem_set hmem with hmem | rfl
    · exact hnone c hmem hclaims
    · rcases hclaiming key hclaims with hbefore | hunanswered
      · exact hnone call (List.mem_of_getElem? hc) hbefore
      · rw [hunanswered] at hhistory
        cases hhistory
  resolved event hevent requestId answer hresolved := by
    rw [hforwarded]
    rcases hevents event hevent with hbefore | hnew
    · exact h.resolved event hbefore requestId answer hresolved
    · exact hnew requestId answer hresolved
  once := hforwarded ▸ h.once

lemma Answered.reads (h : Answered s) (hc : s.calls[i]? = some call)
    (hentry : call'.entry = call.entry) (hclaiming : ∀ key, call'.claims = some key →
      call.claims = some key ∨ answeredInHistory (s.shared.history key.1) key.2 = none) :
    Answered { shared := s.shared, calls := s.calls.set i call' } :=
  h.moves hc hentry rfl rfl (fun _ hevent => .inl hevent) (fun _ hanswered => hanswered) hclaiming

lemma Answered.append (h : Answered s) (hc : s.calls[i]? = some call) (hentry : call.entry = none)
    {event : SessionEventRecord} (hevent : ∀ requestId answer,
      resolvedAnswer requestId event.kind = some answer →
        ((event.sessionId, requestId), answer) ∈ s.shared.forwarded) :
    Answered {
      shared := { s.shared with events := s.shared.events ++ [event] }
      calls := s.calls.set i .appended } := by
  refine h.moves hc hentry.symm rfl rfl (fun other hmem => ?_) (fun key hanswered => ?_) nofun
  · rcases List.mem_append.mp hmem with hmem | hmem
    · exact .inl hmem
    · rw [List.mem_singleton.mp hmem]
      exact .inr hevent
  · simp only [answeredInHistory, AnswerWorld.history, List.filter_append, List.reverse_append,
      List.findSome?_append, Option.isSome_or] at hanswered ⊢
    rw [hanswered, Bool.or_true]

lemma answered_forwarded (h : Answered s)
    (hhistory : answeredInHistory (s.shared.history key.1) key.2 = some answer) :
    (key, answer) ∈ s.shared.forwarded := by
  obtain ⟨event, hevent, hresolved⟩ := List.exists_of_findSome?_eq_some hhistory
  obtain ⟨hmem, hsession⟩ := List.mem_filter.mp (List.mem_reverse.mp hevent)
  have hsent := h.resolved event hmem key.2 answer hresolved
  rwa [of_decide_eq_true hsession] at hsent

lemma Answered.not_held (h : Answered s) {c : RespondCall} (hmem : c ∈ s.calls)
    (hsent : (key, answer) ∈ s.shared.forwarded) : c.holds ≠ some key :=
  fun hholds => h.unsent c hmem key hholds (List.mem_map_of_mem hsent)

lemma Answered.unanswered (h : Answered s) {events : List SessionEventRecord}
    (hmem : .claiming key answer events ∈ s.calls) (hget : s.shared.claims.get key = none) :
    key ∉ s.shared.forwarded.map Prod.fst := by
  intro hkey
  obtain ⟨⟨_, sent⟩, hsent, rfl⟩ := List.mem_map.mp hkey
  rcases h.sent _ sent hsent with hentry | ⟨-, hnone⟩
  · rw [hget] at hentry
    cases hentry
  · exact hnone _ hmem rfl

lemma Answered.claim (h : Answered s) {events : List SessionEventRecord}
    (hc : s.calls[i]? = some (.claiming key answer events))
    (hget : s.shared.claims.get key = none)
    (hevicts : ∀ old, s.shared.claims.evicted answeredProviderRequestsCap = some old →
      (answeredInHistory (s.shared.history old.1) old.2).isSome = true ∧
        ∀ c ∈ s.calls, c.claims ≠ some old) :
    Answered {
      shared := { s.shared with
        claims := s.shared.claims.insert answeredProviderRequestsCap key answer }
      calls := s.calls.set i (.claimed key answer events) } where
  kept := h.kept.insert (by decide) hget
  alone := fun other => (h.alone other).set hc fun hholds => .inr fun c hmem hother => by
    obtain ⟨held, hentry⟩ := holds_iff_entry.mp hother
    cases hholds
    rw [h.held c hmem key held hentry] at hget
    cases hget
  held c hmem other held hentry := by
    rw [h.kept.get_insert (by decide) hget]
    rcases List.mem_or_eq_of_mem_set hmem with hmem | rfl
    · have hbefore := h.held c hmem other held hentry
      rw [if_neg, if_neg, hbefore]
      · intro hevicted
        obtain ⟨sent, hsent⟩ := Option.isSome_iff_exists.mp (hevicts other hevicted).1
        exact h.not_held hmem (answered_forwarded h hsent) (holds_iff_entry.mpr ⟨held, hentry⟩)
      · rintro rfl
        rw [hget] at hbefore
        cases hbefore
    · cases hentry
      rw [if_pos rfl]
  unsent c hmem other hholds := by
    rcases List.mem_or_eq_of_mem_set hmem with hmem | rfl
    · exact h.unsent c hmem other hholds
    · cases hholds
      exact h.unanswered (List.mem_of_getElem? hc) hget
  owned other owner howner := by
    rw [h.kept.get_insert (by decide) hget] at howner
    split at howner
    · next hother =>
      cases howner
      exact .inr ⟨_, mem_set_self hc, by rw [hother]; rfl⟩
    · split at howner
      · cases howner
      · refine (h.owned other owner howner).imp_right fun hheld => ?_
        exact (exists_mem_set hc hheld).resolve_right nofun
  sent other sent hsent := by
    have hlater : ∀ (c : RespondCall), c ∈ s.calls.set i (.claimed key answer events) →
        (∀ c ∈ s.calls, c.claims ≠ some other) → c.claims ≠ some other := by
      intro c hmem hnone
      rcases List.mem_or_eq_of_mem_set hmem with hmem | rfl
      · exact hnone c hmem
      · nofun
    rw [h.kept.get_insert (by decide) hget]
    rcases h.sent other sent hsent with hentry | ⟨hhistory, hnone⟩
    · by_cases hevicted : s.shared.claims.evicted answeredProviderRequestsCap = some other
      · obtain ⟨hhistory, hnone⟩ := hevicts other hevicted
        exact .inr ⟨hhistory, fun c hmem => hlater c hmem hnone⟩
      · refine .inl ?_
        rw [if_neg, if_neg hevicted, hentry]
        rintro rfl
        rw [hget] at hentry
        cases hentry
    · exact .inr ⟨hhistory, fun c hmem => hlater c hmem hnone⟩
  resolved := h.resolved
  once := h.once

lemma Answered.ne_of_entry (h : Answered s) (hc : s.calls[i]? = some call)
    (hholds : call.holds = some key) {j : ℕ} {c : RespondCall} {other : RequestKey}
    {held : AnsweredProviderRequest} (hj : j ≠ i) (hother : s.calls[j]? = some c)
    (hentry : c.entry = some (other, held)) : other ≠ key := by
  rintro rfl
  exact hj (h.alone other _ _ _ _ hother hc (holds_iff_entry.mpr ⟨held, hentry⟩) hholds)

lemma Answered.settle (h : Answered s) (hc : s.calls[i]? = some (.settling key)) :
    Answered {
      shared := { s.shared with claims := s.shared.claims.replace key denied }
      calls := s.calls.set i (.forwarding key denied) } where
  kept := h.kept.replace
  alone := fun other => (h.alone other).set hc .inl
  held c hmem other held hentry := by
    rw [BoundedMap.get_replace]
    rcases mem_set_cases hmem with rfl | ⟨j, hj, hother⟩
    · cases hentry
      rw [if_pos ⟨rfl, by rw [h.held _ (List.mem_of_getElem? hc) key _ rfl]; rfl⟩]
    · rw [if_neg fun heq => h.ne_of_entry hc rfl hj hother hentry heq.1]
      exact h.held c (List.mem_of_getElem? hother) other held hentry
  unsent c hmem other hholds := by
    rcases List.mem_or_eq_of_mem_set hmem with hmem | rfl
    · exact h.unsent c hmem other hholds
    · exact h.unsent _ (List.mem_of_getElem? hc) other hholds
  owned other owner howner := by
    rw [BoundedMap.get_replace] at howner
    split at howner
    · next hother =>
      cases howner
      exact .inr ⟨_, mem_set_self hc, by rw [hother.1]; rfl⟩
    · next hother =>
      refine (h.owned other owner howner).imp_right fun hheld => ?_
      refine (exists_mem_set hc hheld).resolve_right fun hentry => hother ?_
      cases hentry
      exact ⟨rfl, by rw [howner]; rfl⟩
  sent other sent hsent := by
    have hne : other ≠ key := by
      rintro rfl
      exact h.not_held (List.mem_of_getElem? hc) hsent rfl
    rw [BoundedMap.get_replace, if_neg fun heq => hne heq.1]
    refine (h.sent other sent hsent).imp_right fun ⟨hhistory, hnone⟩ => ⟨hhistory, ?_⟩
    intro c hmem
    rcases List.mem_or_eq_of_mem_set hmem with hmem | rfl
    · exact hnone c hmem
    · nofun
  resolved := h.resolved
  once := h.once

lemma Answered.forward (h : Answered s) (hc : s.calls[i]? = some (.forwarding key answer)) :
    Answered {
      shared := { s.shared with forwarded := s.shared.forwarded ++ [(key, answer)] }
      calls := s.calls.set i (.returned key (.ok ())) } where
  kept := h.kept
  alone := fun other => (h.alone other).set hc nofun
  held c hmem other held hentry := by
    rcases List.mem_or_eq_of_mem_set hmem with hmem | rfl
    · exact h.held c hmem other held hentry
    · cases hentry
  unsent c hmem other hholds := by
    rcases mem_set_cases hmem with rfl | ⟨j, hj, hother⟩
    · cases hholds
    · obtain ⟨held, hentry⟩ := holds_iff_entry.mp hholds
      have hne := h.ne_of_entry hc rfl hj hother hentry
      simpa [hne] using h.unsent c (List.mem_of_getElem? hother) other hholds
  owned other owner howner := by
    rcases h.owned other owner howner with hsent | hheld
    · exact .inl (List.mem_append_left _ hsent)
    · rcases exists_mem_set hc hheld with hheld | hentry
      · exact .inr hheld
      · cases hentry
        exact .inl (by simp)
  sent other sent hsent := by
    have hlater : ∀ c ∈ s.calls.set i (.returned key (.ok ())),
        (∀ c ∈ s.calls, c.claims ≠ some other) → c.claims ≠ some other := by
      intro c hmem hnone
      rcases List.mem_or_eq_of_mem_set hmem with hmem | rfl
      · exact hnone c hmem
      · nofun
    rcases List.mem_append.mp hsent with hsent | hnew
    · exact (h.sent other sent hsent).imp_right fun ⟨hhistory, hnone⟩ =>
        ⟨hhistory, fun c hmem => hlater c hmem hnone⟩
    · cases List.mem_singleton.mp hnew
      exact .inl (h.held _ (List.mem_of_getElem? hc) _ _ rfl)
  resolved event hevent requestId answer hresolved :=
    List.mem_append_left _ (h.resolved event hevent requestId answer hresolved)
  once := by
    have hunsent := h.unsent _ (List.mem_of_getElem? hc) key rfl
    rw [List.map_append, List.nodup_append]
    refine ⟨h.once, by simp, fun a ha b hb => ?_⟩
    rw [List.mem_singleton.mp hb]
    rintro rfl
    exact hunsent ha

lemma Answered.release (h : Answered s) {message : String}
    (hc : s.calls[i]? = some (.releasing key answer message)) :
    Answered {
      shared := { s.shared with claims := s.shared.claims.erase key }
      calls := s.calls.set i (.returned key (.error (.failed message))) } where
  kept := h.kept.erase
  alone := fun other => (h.alone other).set hc nofun
  held c hmem other held hentry := by
    rcases mem_set_cases hmem with rfl | ⟨j, hj, hother⟩
    · cases hentry
    · have hne := h.ne_of_entry hc rfl hj hother hentry
      rw [BoundedMap.get_erase, if_neg hne]
      exact h.held c (List.mem_of_getElem? hother) other held hentry
  unsent c hmem other hholds := by
    rcases List.mem_or_eq_of_mem_set hmem with hmem | rfl
    · exact h.unsent c hmem other hholds
    · cases hholds
  owned other owner howner := by
    have hne : other ≠ key := by
      rintro rfl
      simp [BoundedMap.get_erase] at howner
    rw [BoundedMap.get_erase, if_neg hne] at howner
    refine (h.owned other owner howner).imp_right fun hheld => ?_
    refine (exists_mem_set hc hheld).resolve_right fun hentry => hne ?_
    cases hentry
    rfl
  sent other sent hsent := by
    have hne : other ≠ key := by
      rintro rfl
      exact h.not_held (List.mem_of_getElem? hc) hsent rfl
    rw [BoundedMap.get_erase, if_neg hne]
    refine (h.sent other sent hsent).imp_right fun ⟨hhistory, hnone⟩ => ⟨hhistory, ?_⟩
    intro c hmem
    rcases List.mem_or_eq_of_mem_set hmem with hmem | rfl
    · exact hnone c hmem
    · nofun
  resolved := h.resolved
  once := h.once

lemma Answered.enter (h : Answered s) (henters : entersRequest call = true) :
    Answered { s with calls := s.calls ++ [call] } := by
  have hentry : call.entry = none := by cases call <;> first | rfl | cases henters
  have hclaims : call.claims = none := by cases call <;> first | rfl | cases henters
  have hholds : ∀ key, call.holds ≠ some key := fun key hkey => by
    obtain ⟨held, hheld⟩ := holds_iff_entry.mp hkey
    rw [hentry] at hheld
    cases hheld
  refine ⟨h.kept, fun key => (h.alone key).append (hholds key), fun c hmem key held hheld => ?_,
    fun c hmem key hkey => ?_, fun key owner howner => ?_, fun key sent hsent => ?_, h.resolved,
    h.once⟩
  · rcases List.mem_append.mp hmem with hmem | hmem
    · exact h.held c hmem key held hheld
    · rw [List.mem_singleton.mp hmem, hentry] at hheld
      cases hheld
  · rcases List.mem_append.mp hmem with hmem | hmem
    · exact h.unsent c hmem key hkey
    · rw [List.mem_singleton.mp hmem] at hkey
      exact absurd hkey (hholds key)
  · exact (h.owned key owner howner).imp_right fun ⟨c, hmem, hheld⟩ =>
      ⟨c, List.mem_append_left _ hmem, hheld⟩
  · refine (h.sent key sent hsent).imp_right fun ⟨hhistory, hnone⟩ =>
      ⟨hhistory, forall_mem_append_singleton.mpr ⟨hnone, ?_⟩⟩
    rw [hclaims]
    nofun

lemma claimProviderRequest_granted
    {claims claims' : BoundedMap RequestKey AnsweredProviderRequest}
    (h : claimProviderRequest claims key answer = (none, claims')) :
    claims.get key = none ∧ claims' = claims.insert answeredProviderRequestsCap key answer := by
  unfold claimProviderRequest at h
  split at h
  · cases h
  · next hget =>
    cases h
    exact ⟨hget, rfl⟩

lemma claimProviderRequest_refused {earlier : AnsweredProviderRequest}
    {claims claims' : BoundedMap RequestKey AnsweredProviderRequest}
    (h : claimProviderRequest claims key answer = (some earlier, claims')) :
    claims.get key = some earlier := by
  unfold claimProviderRequest at h
  split at h
  · next hget =>
    cases h
    exact hget
  · cases h

lemma resolvedAnswer_resolvedKind {draw : RespondDraw} {requestId resolved : String}
    {given : AnsweredProviderRequest}
    (h : resolvedAnswer requestId (resolvedKind draw resolved given) = some answer) :
    resolved = requestId ∧ given = answer := by
  cases given with
  | permission behavior =>
      simp only [resolvedKind, resolvedAnswer, Option.ite_none_right_eq_some] at h
      exact ⟨h.1, Option.some.inj h.2⟩
  | userInput answers =>
      simp only [resolvedKind, resolvedAnswer, Option.ite_none_right_eq_some] at h
      exact ⟨h.1, Option.some.inj h.2⟩

lemma resolvedAnswer_other {kind : SessionEventKind} (h : ¬isResolved kind = true)
    (requestId : String) : resolvedAnswer requestId kind = none := by
  cases kind with
  | turnPermissionResolved => exact absurd rfl h
  | turnUserInputResolved => exact absurd rfl h
  | _ => rfl

theorem Answered.next {t : Responding} {action : PoolAction RespondCall RespondDraw}
    (h : Answered s) (hok : evictsResolved s action = true)
    (hstep : providerRequests.step s action = some ((), t)) : Answered t := by
  cases action with
  | enter call =>
      obtain ⟨henters, rfl⟩ := pool_enter.mp hstep
      exact h.enter henters
  | advance i draw =>
      obtain ⟨call, hc, world, call', hnext, rfl⟩ := pool_advance.mp hstep
      cases call with
      | called key answer =>
          simp only [respondStep] at hnext
          split at hnext
          · cases hnext
            exact h.reads hc rfl nofun
          · split at hnext
            · cases hnext
              exact h.reads hc rfl nofun
            · next hunanswered =>
              cases hnext
              refine h.reads hc rfl fun key hkey => ?_
              cases hkey
              exact .inr hunanswered
      | claiming key answer events =>
          simp only [respondStep] at hnext
          split at hnext
          · cases hnext
            exact h.reads hc rfl nofun
          · split at hnext
            · next hclaim =>
              cases hnext
              exact h.reads hc rfl nofun
            · next hfault _ _ hclaim =>
              cases hnext
              obtain ⟨hget, rfl⟩ := claimProviderRequest_granted hclaim
              refine h.claim hc hget fun old hold => ?_
              simpa [evictsResolved, hc, hfault, hget, hold] using hok
      | claimed key answer events =>
          simp only [respondStep] at hnext
          split at hnext
          · next hguarded =>
            cases hnext
            refine h.reads hc ?_ nofun
            have hallow : answer = .permission "allow" := by
              simp only [isGuarded, Bool.and_eq_true, decide_eq_true_eq] at hguarded
              exact hguarded.1.1
            rw [hallow]
            rfl
          · cases hnext
            exact h.reads hc rfl nofun
      | settling key =>
          cases hnext
          exact h.settle hc
      | forwarding key answer =>
          simp only [respondStep] at hnext
          split at hnext <;> cases hnext
          · exact h.reads hc rfl nofun
          · exact h.forward hc
      | releasing key answer message =>
          cases hnext
          exact h.release hc
      | returned key result => cases hnext
      | resolving key answer =>
          simp only [respondStep, Option.ite_none_right_eq_some] at hnext
          obtain ⟨hsent, hnext⟩ := hnext
          cases hnext
          refine h.append hc rfl fun requestId given hresolved => ?_
          obtain ⟨rfl, rfl⟩ := resolvedAnswer_resolvedKind hresolved
          exact hsent
      | appending event =>
          simp only [respondStep, Option.ite_none_left_eq_some] at hnext
          obtain ⟨hkind, hnext⟩ := hnext
          cases hnext
          refine h.append hc rfl fun requestId given hresolved => ?_
          rw [resolvedAnswer_other hkind] at hresolved
          cases hresolved
      | appended => cases hnext

end Steps

section Told

variable {s : Responding} {i : ℕ} {call call' : RespondCall} {world : AnswerWorld}
  {key : RequestKey} {answer : AnsweredProviderRequest}

lemma isTold_iff : isTold s key = true ↔ ∃ c ∈ s.calls, ∃ answer, c.told = some (key, answer) := by
  simp only [isTold, List.any_eq_true, Option.any_eq_true, decide_eq_true_eq]
  constructor
  · rintro ⟨c, hmem, ⟨_, answer⟩, htold, rfl⟩
    exact ⟨c, hmem, answer, htold⟩
  · rintro ⟨c, hmem, answer, htold⟩
    exact ⟨c, hmem, _, htold, rfl⟩

lemma ToldForwarded.keeps (h : ToldForwarded s) (hc : s.calls[i]? = some call)
    (hpending : ∀ told, call.pending = some told →
      call'.pending = some told ∨ told ∈ world.forwarded)
    (hforwarded : ∀ sent ∈ s.shared.forwarded, sent ∈ world.forwarded)
    (htold : ∀ told, call'.told = some told → told ∈ world.forwarded ∨
      ∃ other ∈ s.calls.set i call', other.pending = some told) :
    ToldForwarded { shared := world, calls := s.calls.set i call' } := by
  intro c hmem told hc'
  rcases List.mem_or_eq_of_mem_set hmem with hmem | rfl
  · rcases h c hmem told hc' with hsent | hother
    · exact .inl (hforwarded told hsent)
    · rcases exists_mem_set (b := call') hc hother with hother | hbefore
      · exact .inr hother
      · exact (hpending told hbefore).symm.imp_right fun hafter => ⟨call', mem_set_self hc, hafter⟩
  · exact htold told hc'

lemma ToldForwarded.loses (h : ToldForwarded s) (hc : s.calls[i]? = some call)
    (hpending : ∀ told, call.pending = some told → told.1 = key) (hnot : isTold s key = false)
    (htold : call'.told = none) :
    ToldForwarded { shared := s.shared, calls := s.calls.set i call' } := by
  intro c hmem told hc'
  rcases List.mem_or_eq_of_mem_set hmem with hmem | rfl
  · refine (h c hmem told hc').imp_right fun hother => ?_
    refine (exists_mem_set hc hother).resolve_right fun hbefore => ?_
    have hkey : isTold s key = true :=
      isTold_iff.mpr ⟨c, hmem, told.2, by rw [hc', ← hpending told hbefore]⟩
    rw [hnot] at hkey
    cases hkey
  · rw [htold] at hc'
    cases hc'

lemma Answered.not_toldForwarded (h : Answered s) {k : ℕ} {holder c : RespondCall}
    (hk : s.calls[k]? = some holder) (hholds : holder.holds = some key)
    (hmem : c ∈ s.calls.set i call') (htold : c.told = some (key, answer))
    (hnew : call'.pending ≠ some (key, answer))
    (hold : k ≠ i → holder.pending ≠ some (key, answer)) :
    ¬ToldForwarded { shared := s.shared, calls := s.calls.set i call' } := by
  intro hforwarded
  rcases hforwarded c hmem (key, answer) htold with hsent | ⟨other, hother, hpending⟩
  · exact h.not_held (List.mem_of_getElem? hk) hsent hholds
  · rcases mem_set_cases hother with rfl | ⟨j, hj, hother⟩
    · exact hnew hpending
    · obtain rfl := h.alone key j k other holder hother hk (holds_of_pending hpending) hholds
      rw [hk] at hother
      cases hother
      exact hold hj hpending

lemma Answered.told_change (h : Answered s) (htold : ToldForwarded s)
    (hc : s.calls[i]? = some call) (hholds : call.holds = some key)
    (hpending : ∀ told, call.pending = some told → told.1 = key) (hnone : call'.told = none)
    (hnew : ∀ {told}, call.pending = some told → call'.pending ≠ some told) :
    ToldForwarded { shared := s.shared, calls := s.calls.set i call' } ↔
      (!isTold s key) = true := by
  cases hkey : isTold s key with
  | false => exact iff_of_true (htold.loses hc hpending hkey hnone) rfl
  | true =>
      refine iff_of_false ?_ nofun
      obtain ⟨c, hmem, answer, hanswer⟩ := isTold_iff.mp hkey
      have hbefore : call.pending = some (key, answer) := by
        rcases htold c hmem _ hanswer with hsent | ⟨other, hother, hpending⟩
        · exact absurd hholds (h.not_held (List.mem_of_getElem? hc) hsent)
        · obtain ⟨j, hj⟩ := List.mem_iff_getElem?.mp hother
          obtain rfl := h.alone key j i other call hj hc (holds_of_pending hpending) hholds
          rw [hc] at hj
          cases hj
          exact hpending
      have hne : call.told ≠ some (key, answer) := by
        cases call with
        | returned => cases hholds
        | _ => nofun
      have hlater : ∃ c ∈ s.calls.set i call', c.told = some (key, answer) :=
        (exists_mem_set hc ⟨c, hmem, hanswer⟩).resolve_right hne
      obtain ⟨c', hmem', hanswer'⟩ := hlater
      exact h.not_toldForwarded hc hholds hmem' hanswer' (hnew hbefore) (absurd rfl)

lemma pending_of_changes {c : RespondCall} (hchanges : c.changes = some key)
    (hentry : c.entry = some (key, answer)) : c.pending ≠ some (key, answer) := by
  cases c with
  | settling other =>
      cases hentry
      simp [RespondCall.pending, denied]
  | releasing => nofun
  | _ => cases hchanges

lemma Answered.told_claim (h : Answered s) (htold : ToldForwarded s)
    {events : List SessionEventRecord} {own : AnsweredProviderRequest}
    (hc : s.calls[i]? = some (.claiming key own events))
    (hget : s.shared.claims.get key = some answer) :
    ToldForwarded {
      shared := s.shared
      calls := s.calls.set i (.returned key (.error (.alreadyAnswered answer))) } ↔
      (s.calls.all fun call => call.changes ≠ some key) = true := by
  rw [List.all_eq_true]
  constructor
  · intro hforwarded c hmem
    rw [decide_eq_true_eq]
    intro hchanges
    obtain ⟨k, hk⟩ := List.mem_iff_getElem?.mp hmem
    obtain ⟨held, hentry⟩ := holds_iff_entry.mp (holds_of_changes hchanges)
    obtain rfl : held = answer := Option.some.inj ((h.held c hmem key held hentry).symm.trans hget)
    have hnew : (RespondCall.returned key (.error (.alreadyAnswered held))).pending ≠
        some (key, held) := nofun
    exact h.not_toldForwarded hk (holds_of_changes hchanges) (mem_set_self hc) rfl hnew
      (fun _ => pending_of_changes hchanges hentry) hforwarded
  · intro hfinal
    refine htold.keeps hc nofun (fun _ hsent => hsent) fun told heq => ?_
    cases heq
    refine (h.owned key answer hget).imp_right fun ⟨c, hmem, hentry⟩ => ?_
    have hpending := pending_of_entry hentry (of_decide_eq_true (hfinal c hmem))
    exact (exists_mem_set hc ⟨c, hmem, hpending⟩).resolve_right nofun

theorem toldForwarded_step {t : Responding} {action : PoolAction RespondCall RespondDraw}
    (h : Answered s) (htold : ToldForwarded s)
    (hstep : providerRequests.step s action = some ((), t)) :
    ToldForwarded t ↔ tellsFinal s action = true := by
  cases action with
  | enter call =>
      obtain ⟨henters, rfl⟩ := pool_enter.mp hstep
      refine iff_of_true (fun c hmem told hc => ?_) rfl
      rcases List.mem_append.mp hmem with hmem | hmem
      · exact (htold c hmem told hc).imp_right fun ⟨other, hother, hpending⟩ =>
          ⟨other, List.mem_append_left _ hother, hpending⟩
      · rw [List.mem_singleton.mp hmem] at hc
        cases call <;> first | cases hc | cases henters
  | advance i draw =>
      obtain ⟨call, hc, world, call', hnext, rfl⟩ := pool_advance.mp hstep
      have hreads : ∀ {call'}, call'.pending = call.pending → call'.told = none →
          ToldForwarded { shared := s.shared, calls := s.calls.set i call' } := by
        intro call' hpending hnone
        refine htold.keeps hc (fun told hbefore => .inl (hpending ▸ hbefore)) (fun _ hsent => hsent) ?_
        rw [hnone]
        nofun
      cases call with
      | called key answer =>
          have hok : tellsFinal s (.advance i draw) = true := by simp [tellsFinal, hc]
          refine iff_of_true ?_ hok
          simp only [respondStep] at hnext
          split at hnext
          · cases hnext
            exact hreads rfl rfl
          · split at hnext
            · next earlier hanswered =>
              cases hnext
              refine htold.keeps hc nofun (fun _ hsent => hsent) fun told heq => .inl ?_
              cases heq
              exact answered_forwarded h hanswered
            · cases hnext
              exact hreads rfl rfl
      | claiming key answer events =>
          simp only [respondStep] at hnext
          split at hnext
          · next hfault =>
            cases hnext
            exact iff_of_true (hreads rfl rfl) (by simp [tellsFinal, hc, hfault])
          · next hfault =>
            split at hnext
            · next earlier _ hclaim =>
              cases hnext
              have hget := claimProviderRequest_refused hclaim
              have hok : tellsFinal s (.advance i draw) =
                  s.calls.all fun call => call.changes ≠ some key := by
                simp [tellsFinal, hc, hfault, hget]
              rw [hok]
              exact h.told_claim htold hc hget
            · next hclaim =>
              cases hnext
              obtain ⟨hget, rfl⟩ := claimProviderRequest_granted hclaim
              refine iff_of_true ?_ (by simp [tellsFinal, hc, hfault, hget])
              exact htold.keeps hc nofun (fun _ hsent => hsent) nofun
      | claimed key answer events =>
          simp only [respondStep] at hnext
          split at hnext
          · next hguarded =>
            cases hnext
            have hok : tellsFinal s (.advance i draw) = !isTold s key := by
              simp [tellsFinal, hc, hguarded]
            rw [hok]
            refine h.told_change htold hc rfl (fun told hbefore => by cases hbefore; rfl) rfl ?_
            intro told hbefore hafter
            cases hbefore
            cases hafter
            simp [isGuarded, denied] at hguarded
          · next hguarded =>
            cases hnext
            refine iff_of_true (hreads rfl rfl) ?_
            simp only [Bool.not_eq_true] at hguarded
            simp [tellsFinal, hc, hguarded]
      | settling key =>
          cases hnext
          refine iff_of_true ?_ (by simp [tellsFinal, hc])
          exact htold.keeps hc (fun _ hbefore => .inl hbefore) (fun _ hsent => hsent) nofun
      | forwarding key answer =>
          simp only [respondStep] at hnext
          split at hnext
          · next hfault =>
            cases hnext
            have hok : tellsFinal s (.advance i draw) = !isTold s key := by
              simp [tellsFinal, hc, hfault]
            rw [hok]
            exact h.told_change htold hc rfl (fun told hbefore => by cases hbefore; rfl) rfl nofun
          · next hfault =>
            cases hnext
            refine iff_of_true ?_ (by simp [tellsFinal, hc, hfault])
            refine htold.keeps hc (fun told hbefore => .inr ?_)
              (fun _ hsent => List.mem_append_left _ hsent) nofun
            cases hbefore
            simp
      | releasing key answer message =>
          cases hnext
          refine iff_of_true ?_ (by simp [tellsFinal, hc])
          exact htold.keeps hc nofun (fun _ hsent => hsent) nofun
      | returned key result => cases hnext
      | resolving key answer =>
          simp only [respondStep, Option.ite_none_right_eq_some] at hnext
          obtain ⟨-, hnext⟩ := hnext
          cases hnext
          refine iff_of_true ?_ (by simp [tellsFinal, hc])
          exact htold.keeps hc nofun (fun _ hsent => hsent) nofun
      | appending event =>
          simp only [respondStep, Option.ite_none_left_eq_some] at hnext
          obtain ⟨-, hnext⟩ := hnext
          cases hnext
          refine iff_of_true ?_ (by simp [tellsFinal, hc])
          exact htold.keeps hc nofun (fun _ hsent => hsent) nofun
      | appended => cases hnext

end Told

lemma answered_start : Answered providerRequests.start where
  kept := BoundedMap.wellKept_empty
  alone key i j c d hi := by simp [providerRequests, pool] at hi
  held c hmem := by simp [providerRequests, pool] at hmem
  unsent c hmem := by simp [providerRequests, pool] at hmem
  owned key answer hget := by cases hget
  sent key answer hsent := by simp [providerRequests, pool] at hsent
  resolved event hevent := by simp [providerRequests, pool] at hevent
  once := by simp [providerRequests, pool]

lemma oneAnswer_start : OneAnswer providerRequests.start where
  once := answered_start.once
  told c hmem := by simp [providerRequests, pool] at hmem

/-- As long as no claim pushes out one that is still needed, every request is answered once, and what
others are told is what the provider gets exactly in the runs that only tell of final claims. -/
theorem one_answer_iff {events : List (PoolAction RespondCall RespondDraw × Unit)} {s : Responding} :
    (providerRequests.restrict evictsResolved).RunIn OneAnswer providerRequests.start events s ↔
      ((providerRequests.restrict evictsResolved).restrict tellsFinal).Run providerRequests.start
        events s := by
  have hkeep : ∀ s a b t, Answered s →
      (providerRequests.restrict evictsResolved).step s a = some (b, t) → Answered t := by
    intro s a b t h hstep
    obtain ⟨hok, hstep⟩ := System.restrict_step.mp hstep
    exact h.next hok hstep
  refine System.runIn_iff_restrict_of_invariant hkeep ?_ answered_start oneAnswer_start
  intro s a b t h hone hstep
  have htold := toldForwarded_step h hone.told (System.restrict_step.mp hstep).2
  have honce := (hkeep s a b t h hstep).once
  exact ⟨fun hnext => htold.mp hnext.told, fun hok => ⟨honce, htold.mpr hok⟩⟩

section BlockedAfterTold

def demoDraw : RespondDraw where
  blocks := true
  fault := none
  turnId := ⟨"turn"⟩
  eventId := "event"
  occurredAt := ""

def demoEvent (eventId : String) (sequence : ℕ) (kind : SessionEventKind) : SessionEventRecord where
  eventId := eventId
  sessionId := ⟨"session"⟩
  sequence := sequence
  occurredAt := ""
  kind := kind

def demoKey : RequestKey :=
  (⟨"session"⟩, "request")

def demoBlocked : List (PoolAction RespondCall RespondDraw) :=
  [.enter (.appending (demoEvent "event-1" 1 (.turnStarted ⟨"turn"⟩ "prompt" none none none none none))),
    .advance 0 demoDraw,
    .enter (.appending (demoEvent "event-2" 2
      (.turnPermissionRequested ⟨"turn"⟩ "request" "Bash" none none none none))),
    .advance 1 demoDraw,
    .enter (respondToPermissionRequest ⟨"session"⟩ "request" "allow"),
    .advance 2 demoDraw, .advance 2 demoDraw,
    .enter (respondToPermissionRequest ⟨"session"⟩ "request" "allow"),
    .advance 3 demoDraw, .advance 3 demoDraw,
    .advance 2 demoDraw, .advance 2 demoDraw, .advance 2 demoDraw]

theorem told_allowed_but_denied :
    ∃ events s, (providerRequests.restrict evictsResolved).Run providerRequests.start events s ∧
      s.calls.filterMap RespondCall.told = [(demoKey, .permission "allow")] ∧
      s.shared.forwarded = [(demoKey, denied)] ∧ ¬OneAnswer s := by
  have hrun := (providerRequests.restrict evictsResolved).run_perform providerRequests.start
    demoBlocked
  have htold : ((providerRequests.restrict evictsResolved).perform providerRequests.start
      demoBlocked).2.calls.filterMap RespondCall.told = [(demoKey, .permission "allow")] := by
    decide +kernel
  have hsent : ((providerRequests.restrict evictsResolved).perform providerRequests.start
      demoBlocked).2.shared.forwarded = [(demoKey, denied)] := by
    decide +kernel
  have hpending : ((providerRequests.restrict evictsResolved).perform providerRequests.start
      demoBlocked).2.calls.filterMap RespondCall.pending = [] := by
    decide +kernel
  refine ⟨_, _, hrun, htold, hsent, fun hone => ?_⟩
  obtain ⟨call, hmem, hcall⟩ := List.mem_filterMap.mp (htold ▸ List.mem_singleton_self _)
  rcases hone.told call hmem _ hcall with hforwarded | ⟨other, hother, hforwards⟩
  · rw [hsent] at hforwarded
    revert hforwarded
    decide
  · exact List.not_mem_nil (hpending ▸ List.mem_filterMap.mpr ⟨other, hother, hforwards⟩)

end BlockedAfterTold

end DevCommandCenter.ProviderRequests
