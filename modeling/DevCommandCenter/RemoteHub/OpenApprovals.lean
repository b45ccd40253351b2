import DevCommandCenter.RemoteHub.HubSteps

/-! Each request is answered once: while it waits nobody holds it, and whoever took it out resolves it. -/

namespace DevCommandCenter.RemoteHub

open Library

def PairStage.held : PairStage → Option String
  | .resolving id _ => some id
  | _ => none

def HubCall.held : HubCall → Option String
  | .respondApproval id _ .taken | .respondApproval id _ (.delivered _) => some id
  | .pair pairing => pairing.stage.held
  | _ => none

def HubCall.Told (hub : Hub) : HubCall → Prop
  | .respondApproval id _ .taken => hub.sent id = none
  | .respondApproval id approve (.delivered true) => hub.sent id = some approve
  | _ => True

def Hub.resolved (hub : Hub) : List String :=
  hub.events.filterMap RemoteEvent.resolved

structure ApprovalsSound (s : Pool Hub HubCall) : Prop where
  waiting : ∀ id, s.shared.approvals id ≠ none →
    id ∈ s.shared.uuids ∧ id ∉ s.shared.resolved ∧ s.shared.sent id = none
  held : ∀ call ∈ s.calls, ∀ id, call.held = some id →
    id ∈ s.shared.uuids ∧ id ∉ s.shared.resolved ∧ s.shared.approvals id = none
  alone : ∀ id, Alone (fun call => call.held = some id) s.calls
  told : ∀ call ∈ s.calls, call.Told s.shared
  known : ∀ id ∈ s.shared.resolved, id ∈ s.shared.uuids
  once : s.shared.resolved.Nodup
  approved : ∀ id, .approvalResolved id true ∈ s.shared.events → s.shared.sent id = some true

inductive ApprovalEffect (hub : Hub) : HubCall → Hub → HubCall → Prop
  | keeps {call call' : HubCall} {hub' : Hub} : hub'.approvals = hub.approvals →
      hub'.uuids = hub.uuids → hub'.resolved = hub.resolved → (∀ id, hub'.sent id = hub.sent id) →
      (∀ id, .approvalResolved id true ∈ hub'.events → .approvalResolved id true ∈ hub.events) →
      (call'.held = none ∨ call'.held = call.held) → (∀ after, call'.Told after) →
      ApprovalEffect hub call hub' call'
  | asks {call call' : HubCall} {approval : ApprovalRequest} : approval.id ∉ hub.uuids →
      call'.held = none → (∀ after, call'.Told after) →
      ApprovalEffect hub call (hub.requestApproval approval) call'
  | takes {call call' : HubCall} {id : String} : hub.approvals id ≠ none → call'.held = some id →
      (hub.sent id = none → call'.Told hub) → ApprovalEffect hub call (hub.takeApproval id) call'
  | delivers {id : String} {approve : Bool} :
      ApprovalEffect hub (.respondApproval id approve .taken)
        (hub.setDecision id ⟨some approve, true⟩) (.respondApproval id approve (.delivered true))
  | resolves {call call' : HubCall} {id : String} {approved : Bool} : call.held = some id →
      call'.held = none → (∀ after, call'.Told after) →
      (approved = true → call.Told hub → hub.sent id = some true) →
      ApprovalEffect hub call (hub.emit (.approvalResolved id approved)) call'

section Steps

variable {hub hub' : Hub} {pairing pairing' : Pairing} {call call' : HubCall} {input : HubInput}

lemma held_of_approval {stage : PairStage} (h : stage.approval = none) : stage.held = none := by
  cases stage with
  | resolving => cases h
  | _ => rfl

lemma ApprovalEffect.of_pair (h : PairEffect hub pairing input hub' pairing') :
    ApprovalEffect hub (.pair pairing) hub' (.pair pairing') := by
  have hsame : ∀ {after : Pairing}, (HubCall.pair after).held = none →
      ApprovalEffect hub (.pair pairing) hub (.pair after) :=
    fun hheld => .keeps rfl rfl rfl (fun _ => rfl) (fun _ => id) (.inl hheld) fun _ => trivial
  cases h with
  | prepares _ _ hafter => exact hsame (held_of_approval hafter)
  | consumes =>
      exact .keeps rfl rfl rfl (fun _ => rfl) (fun _ => id) (.inl rfl) fun _ => trivial
  | requests _ hfresh => exact .asks hfresh rfl fun _ => trivial
  | announces =>
      refine .keeps rfl rfl ?_ (fun _ => rfl) (fun id hid => ?_) (.inl rfl) fun _ => trivial
      · rw [Hub.resolved, Hub.emit, List.filterMap_append]
        exact List.append_nil _
      · simpa [Hub.emit] using hid
  | waits hstage => exact hsame (by simp [HubCall.held, PairStage.held, hstage])
  | hears | timesOut | losesPhone | breaks => exact hsame rfl
  | leaves =>
      refine .keeps (by simp) (by simp) (by simp [Hub.resolved]) (by simp) (fun id hid => ?_) (.inl rfl)
        fun _ => trivial
      simpa using hid
  | cancels _ hwaiting => exact .takes hwaiting rfl fun _ => trivial
  | decides => exact hsame rfl
  | resolves hstage =>
      exact .resolves (by simp [HubCall.held, PairStage.held, hstage]) rfl (fun _ => trivial) nofun
  | approves => exact hsame rfl
  | registers => exact .keeps rfl rfl rfl (fun _ => rfl) (fun _ => id) (.inl rfl) fun _ => trivial
  | opens => exact hsame rfl
  | runs hstage => exact hsame (by simp [HubCall.held, PairStage.held, hstage])
  | ends => exact hsame rfl

lemma held_of_isQuiet (h : call.isQuiet = true) : call.held = none := by
  cases call with
  | pair => cases h
  | respondApproval => cases h
  | _ => rfl

lemma told_of_isQuiet (h : call.isQuiet = true) : call.Told hub := by
  cases call with
  | pair => cases h
  | respondApproval => cases h
  | _ => trivial

lemma ApprovalEffect.of_hub (h : HubEffect hub input call hub' call') :
    ApprovalEffect hub call hub' call' := by
  cases h with
  | passes _ hquiet =>
      exact .keeps rfl rfl rfl (fun _ => rfl) (fun _ => id) (.inl (held_of_isQuiet hquiet))
        fun _ => told_of_isQuiet hquiet
  | begins => exact .keeps rfl rfl rfl (fun _ => rfl) (fun _ => id) (.inl rfl) fun _ => trivial
  | offers => exact .keeps rfl rfl rfl (fun _ => rfl) (fun _ => id) (.inl rfl) fun _ => trivial
  | finds => exact .keeps rfl rfl rfl (fun _ => rfl) (fun _ => id) (.inl rfl) fun _ => trivial
  | takes hwaiting => exact .takes hwaiting rfl id
  | delivers => exact .delivers
  | misses => exact .keeps rfl rfl rfl (fun _ => rfl) (fun _ => id) (.inr rfl) fun _ => trivial
  | @answers id approve delivered =>
      refine .resolves rfl rfl (fun _ => trivial) fun happroved htold => ?_
      obtain ⟨rfl, rfl⟩ := Bool.and_eq_true_iff.mp happroved
      exact htold
  | pairs h => exact .of_pair h

lemma HubCall.Told.congr (h : call.Told hub) (hsent : ∀ id, call.held = some id → hub'.sent id = hub.sent id) :
    call.Told hub' := by
  cases call with
  | respondApproval id approve phase =>
      cases phase with
      | taken => exact (hsent id rfl).trans h
      | delivered delivered =>
          cases delivered with
          | true => exact (hsent id rfl).trans h
          | false => trivial
      | looking | returned => trivial
  | _ => trivial

lemma resolved_of_approved {id : String} (h : .approvalResolved id true ∈ hub.events) :
    id ∈ hub.resolved :=
  List.mem_filterMap.mpr ⟨_, h, rfl⟩

lemma resolved_emit {id : String} {approved : Bool} :
    (hub.emit (.approvalResolved id approved)).resolved = hub.resolved ++ [id] := by
  rw [Hub.resolved, Hub.emit, List.filterMap_append]
  rfl

lemma held_of_begins (h : call.begins = true) : call.held = none := by
  unfold HubCall.begins at h
  split at h
  · rfl
  · rfl
  · rfl
  · rfl
  · rfl
  · cases h

lemma told_of_begins (h : call.begins = true) : call.Told hub := by
  unfold HubCall.begins at h
  split at h
  · trivial
  · trivial
  · trivial
  · trivial
  · trivial
  · cases h

end Steps

namespace ApprovalsSound

variable {s : Pool Hub HubCall} {hub' : Hub} {call call' : HubCall} {i : ℕ}

lemma others {id : String} (h : ApprovalsSound s) (hc : s.calls[i]? = some call)
    (hheld : call.held = some id) {c : HubCall} (hmem : c ∈ s.calls.set i call') :
    c = call' ∨ c ∈ s.calls ∧ ∀ id', c.held = some id' → id' ≠ id := by
  obtain ⟨j, hj⟩ := List.mem_iff_getElem?.mp hmem
  rcases getElem?_set_cases hj with ⟨rfl, rfl⟩ | ⟨hne, hj'⟩
  · exact .inl rfl
  · refine .inr ⟨List.mem_of_getElem? hj', fun id' hid' heq => ?_⟩
    subst heq
    exact hne (h.alone id' _ _ _ _ hj' hc hid' hheld)

lemma keeps (h : ApprovalsSound s) (hc : s.calls[i]? = some call)
    (happrovals : hub'.approvals = s.shared.approvals) (huuids : hub'.uuids = s.shared.uuids)
    (hresolved : hub'.resolved = s.shared.resolved) (hsent : ∀ id, hub'.sent id = s.shared.sent id)
    (hevents : ∀ id, .approvalResolved id true ∈ hub'.events →
      .approvalResolved id true ∈ s.shared.events)
    (hheld : call'.held = none ∨ call'.held = call.held) (htold : ∀ after, call'.Told after) :
    ApprovalsSound { shared := hub', calls := s.calls.set i call' } where
  waiting id hid := by
    rw [happrovals] at hid
    rw [huuids, hresolved, hsent]
    exact h.waiting id hid
  held c hmem id hid := by
    rw [huuids, hresolved, happrovals]
    rcases List.mem_or_eq_of_mem_set hmem with hmem | rfl
    · exact h.held c hmem id hid
    · rcases hheld with hnone | hsame
      · rw [hnone] at hid
        cases hid
      · exact h.held call (List.mem_of_getElem? hc) id (hsame ▸ hid)
  alone id := by
    refine (h.alone id).set hc fun hid => .inl ?_
    rcases hheld with hnone | hsame
    · rw [hnone] at hid
      cases hid
    · exact hsame ▸ hid
  told c hmem := by
    rcases List.mem_or_eq_of_mem_set hmem with hmem | rfl
    · exact (h.told c hmem).congr fun id _ => hsent id
    · exact htold hub'
  known id hid := by
    rw [huuids]
    exact h.known id (hresolved ▸ hid)
  once := by
    rw [hresolved]
    exact h.once
  approved id hid := by
    rw [hsent]
    exact h.approved id (hevents id hid)

lemma asks (h : ApprovalsSound s) (hc : s.calls[i]? = some call) {approval : ApprovalRequest}
    (hfresh : approval.id ∉ s.shared.uuids) (hheld : call'.held = none)
    (htold : ∀ after, call'.Told after) :
    ApprovalsSound { shared := s.shared.requestApproval approval, calls := s.calls.set i call' } := by
  have hne : ∀ id ∈ s.shared.uuids, id ≠ approval.id := fun id hid heq => hfresh (heq ▸ hid)
  have hsent : ∀ id ∈ s.shared.uuids,
      (s.shared.requestApproval approval).sent id = s.shared.sent id := fun id hid => by
    rw [Hub.sent_requestApproval, if_neg (hne id hid)]
  have happrovals : ∀ id, id ≠ approval.id →
      (s.shared.requestApproval approval).approvals id = s.shared.approvals id :=
    fun id hid => Function.update_of_ne hid _ _
  refine ⟨fun id hid => ?_, fun c hmem id hid => ?_, fun id => ?_, fun c hmem => ?_, fun id hid => ?_,
    h.once, fun id hid => ?_⟩
  · by_cases heq : id = approval.id
    · subst heq
      refine ⟨List.mem_cons_self, fun hres => hfresh (h.known _ hres), ?_⟩
      rw [Hub.sent_requestApproval, if_pos rfl]
    · rw [happrovals id heq] at hid
      obtain ⟨huuid, hres, hnone⟩ := h.waiting id hid
      exact ⟨List.mem_cons_of_mem _ huuid, hres, (hsent id huuid).trans hnone⟩
  · rcases List.mem_or_eq_of_mem_set hmem with hmem | rfl
    · obtain ⟨huuid, hres, hnone⟩ := h.held c hmem id hid
      exact ⟨List.mem_cons_of_mem _ huuid, hres, (happrovals id (hne id huuid)).trans hnone⟩
    · rw [hheld] at hid
      cases hid
  · refine (h.alone id).set hc fun hid => ?_
    rw [hheld] at hid
    cases hid
  · rcases List.mem_or_eq_of_mem_set hmem with hmem | rfl
    · exact (h.told c hmem).congr fun id hid => hsent id (h.held c hmem id hid).1
    · exact htold _
  · exact List.mem_cons_of_mem _ (h.known id hid)
  · exact (hsent id (h.known id (resolved_of_approved hid))).trans (h.approved id hid)

lemma takes (h : ApprovalsSound s) (hc : s.calls[i]? = some call) {id : String}
    (hwaiting : s.shared.approvals id ≠ none) (hheld : call'.held = some id)
    (htold : s.shared.sent id = none → call'.Told s.shared) :
    ApprovalsSound { shared := s.shared.takeApproval id, calls := s.calls.set i call' } := by
  obtain ⟨huuid, hres, hnone⟩ := h.waiting id hwaiting
  have htaken : (s.shared.takeApproval id).approvals id = none := by simp [Hub.takeApproval]
  have happrovals : ∀ id', id' ≠ id →
      (s.shared.takeApproval id).approvals id' = s.shared.approvals id' :=
    fun id' hne => Function.update_of_ne hne _ _
  refine ⟨fun id' hid => ?_, fun c hmem id' hid => ?_, fun id' => ?_, fun c hmem => ?_, h.known,
    h.once, h.approved⟩
  · have hne : id' ≠ id := by
      rintro rfl
      exact hid htaken
    exact h.waiting id' (happrovals id' hne ▸ hid)
  · rcases List.mem_or_eq_of_mem_set hmem with hmem | rfl
    · obtain ⟨huuid', hres', hnone'⟩ := h.held c hmem id' hid
      refine ⟨huuid', hres', ?_⟩
      by_cases heq : id' = id
      · exact heq ▸ htaken
      · exact (happrovals id' heq).trans hnone'
    · obtain rfl : id = id' := Option.some_inj.mp (hheld.symm.trans hid)
      exact ⟨huuid, hres, htaken⟩
  · refine (h.alone id').set hc fun hid => .inr fun c hmem hc' => ?_
    obtain rfl : id = id' := Option.some_inj.mp (hheld.symm.trans hid)
    exact hwaiting (h.held c hmem id hc').2.2
  · rcases List.mem_or_eq_of_mem_set hmem with hmem | rfl
    · exact (h.told c hmem).congr fun _ _ => rfl
    · exact (htold hnone).congr fun _ _ => rfl

lemma delivers (h : ApprovalsSound s) {id : String} {approve : Bool}
    (hc : s.calls[i]? = some (.respondApproval id approve .taken)) :
    ApprovalsSound {
      shared := s.shared.setDecision id ⟨some approve, true⟩
      calls := s.calls.set i (.respondApproval id approve (.delivered true)) } := by
  obtain ⟨huuid, hres, hnone⟩ := h.held _ (List.mem_of_getElem? hc) id rfl
  have hsent : ∀ id', id' ≠ id →
      (s.shared.setDecision id ⟨some approve, true⟩).sent id' = s.shared.sent id' :=
    fun id' hne => by rw [Hub.sent_setDecision, if_neg hne]
  refine ⟨fun id' hid => ?_, fun c hmem id' hid => ?_, fun id' => ?_, fun c hmem => ?_, h.known,
    h.once, fun id' hid => ?_⟩
  · have hne : id' ≠ id := by
      rintro rfl
      exact hid hnone
    rw [hsent id' hne]
    exact h.waiting id' hid
  · rcases List.mem_or_eq_of_mem_set hmem with hmem | rfl
    · exact h.held c hmem id' hid
    · exact h.held _ (List.mem_of_getElem? hc) id' hid
  · exact (h.alone id').set hc .inl
  · rcases h.others hc rfl hmem with rfl | ⟨hmem, hne⟩
    · change (s.shared.setDecision id ⟨some approve, true⟩).sent id = some approve
      rw [Hub.sent_setDecision, if_pos rfl]
    · exact (h.told c hmem).congr fun id' hid => hsent id' (hne id' hid)
  · have hne : id' ≠ id := by
      rintro rfl
      exact hres (resolved_of_approved hid)
    rw [hsent id' hne]
    exact h.approved id' hid

lemma resolves (h : ApprovalsSound s) (hc : s.calls[i]? = some call) {id : String} {approved : Bool}
    (hheld : call.held = some id) (hafter : call'.held = none) (htold : ∀ after, call'.Told after)
    (hsent : approved = true → call.Told s.shared → s.shared.sent id = some true) :
    ApprovalsSound {
      shared := s.shared.emit (.approvalResolved id approved)
      calls := s.calls.set i call' } := by
  obtain ⟨huuid, hres, hnone⟩ := h.held call (List.mem_of_getElem? hc) id hheld
  refine ⟨fun id' hid => ?_, fun c hmem id' hid => ?_, fun id' => ?_, fun c hmem => ?_,
    fun id' hid => ?_, ?_, fun id' hid => ?_⟩
  · obtain ⟨huuid', hres', hnone'⟩ := h.waiting id' hid
    have hne : id' ≠ id := by
      rintro rfl
      exact hid hnone
    refine ⟨huuid', ?_, hnone'⟩
    rw [resolved_emit, List.mem_append, List.mem_singleton]
    exact not_or.mpr ⟨hres', hne⟩
  · rcases h.others hc hheld hmem with rfl | ⟨hmem, hne⟩
    · rw [hafter] at hid
      cases hid
    · obtain ⟨huuid', hres', hnone'⟩ := h.held c hmem id' hid
      refine ⟨huuid', ?_, hnone'⟩
      rw [resolved_emit, List.mem_append, List.mem_singleton]
      exact not_or.mpr ⟨hres', hne id' hid⟩
  · refine (h.alone id').set hc fun hid => ?_
    rw [hafter] at hid
    cases hid
  · rcases List.mem_or_eq_of_mem_set hmem with hmem | rfl
    · exact (h.told c hmem).congr fun _ _ => rfl
    · exact htold _
  · rw [resolved_emit, List.mem_append, List.mem_singleton] at hid
    rcases hid with hid | rfl
    · exact h.known id' hid
    · exact huuid
  · rw [resolved_emit, List.nodup_append]
    refine ⟨h.once, by simp, fun a ha b hb heq => ?_⟩
    rw [List.mem_singleton.mp hb] at heq
    exact hres (heq ▸ ha)
  · rw [Hub.emit, List.mem_append, List.mem_singleton, RemoteEvent.approvalResolved.injEq] at hid
    rcases hid with hid | ⟨rfl, htrue⟩
    · exact h.approved id' hid
    · exact hsent htrue.symm (h.told call (List.mem_of_getElem? hc))

lemma advance (h : ApprovalsSound s) (hc : s.calls[i]? = some call)
    (heffect : ApprovalEffect s.shared call hub' call') :
    ApprovalsSound { shared := hub', calls := s.calls.set i call' } := by
  cases heffect with
  | keeps happrovals huuids hresolved hsent hevents hheld htold =>
      exact h.keeps hc happrovals huuids hresolved hsent hevents hheld htold
  | asks hfresh hheld htold => exact h.asks hc hfresh hheld htold
  | takes hwaiting hheld htold => exact h.takes hc hwaiting hheld htold
  | delivers => exact h.delivers hc
  | resolves hheld hafter htold hsent => exact h.resolves hc hheld hafter htold hsent

lemma enter (h : ApprovalsSound s) (hbegins : call.begins = true) :
    ApprovalsSound { s with calls := s.calls ++ [call] } := by
  have hheld : call.held = none := held_of_begins hbegins
  have hmem : ∀ {c}, c ∈ s.calls ++ [call] → c ∈ s.calls ∨ c = call := fun hc => by
    simpa using hc
  refine ⟨h.waiting, fun c hc id hid => ?_, fun id => ?_, fun c hc => ?_, h.known, h.once, h.approved⟩
  · rcases hmem hc with hc | rfl
    · exact h.held c hc id hid
    · rw [hheld] at hid
      cases hid
  · refine (h.alone id).append fun hid => ?_
    rw [hheld] at hid
    cases hid
  · rcases hmem hc with hc | rfl
    · exact h.told c hc
    · exact told_of_begins hbegins

end ApprovalsSound

theorem approvalsSound_of_reachable {s : Pool Hub HubCall} (h : remoteHub.Reachable s) :
    ApprovalsSound s := by
  refine h.invariant ?_ fun s action _ t hs hstep => ?_
  · constructor <;> simp [remoteHub, pool, Hub.new, Hub.resolved, Alone]
  · cases action with
    | enter call =>
        obtain ⟨hbegins, rfl⟩ := pool_enter.mp hstep
        exact hs.enter hbegins
    | advance i input =>
        obtain ⟨call, hc, hub', call', hnext, rfl⟩ := pool_advance.mp hstep
        exact hs.advance hc (.of_hub (hub_effect hnext))

end DevCommandCenter.RemoteHub
