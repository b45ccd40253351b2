import DevCommandCenter.RemoteHub.OpenApprovals
import DevCommandCenter.RemoteHub.UsedOffers

/-! A phone gets in only through its own approval, and an approved phone does get in, as long as no
approving answer is lost. -/

namespace DevCommandCenter.RemoteHub

open Library

structure Pairing.Sound (hub : Hub) (pairing : Pairing) : Prop where
  asked : pairing.stage.isEnded = false → pairing.requested = pairing.stage.approval.toList ∧
    pairing.registered = pairing.stage.device.toList
  bounded : pairing.requested.length ≤ 1 ∧ pairing.registered.length ≤ pairing.requested.length
  letIn : pairing.dispatched ≠ [] → ∃ id ∈ pairing.requested, hub.sent id = some true
  heard : ∀ id answer, pairing.stage.heard = some (id, answer) → hub.sent id = some answer
  continues : ∀ id ∈ pairing.requested, hub.sent id = some true → pairing.stage.ContinuesApproved
  known : ∀ id ∈ pairing.requested, id ∈ hub.uuids
  listens : ∀ id ∈ pairing.requested, hub.listening id = true → pairing.stage.listens = true

namespace Pairing.Sound

variable {hub hub' : Hub} {pairing pairing' : Pairing} {id : String} {stage : PairStage}

lemma approval_of_heard {answer : Bool} (h : stage.heard = some (id, answer)) :
    stage.approval = some id := by
  unfold PairStage.heard at h
  split at h <;> cases h <;> rfl

lemma isEnded_of_approval (h : stage.approval = some id) : stage.isEnded = false := by
  cases stage with
  | ended how => cases h
  | _ => rfl

lemma requested_eq (h : pairing.Sound hub) (hid : pairing.stage.approval = some id) :
    pairing.requested = [id] := by
  rw [(h.asked (isEnded_of_approval hid)).1, hid]
  rfl

lemma of_hub (h : pairing.Sound hub) (hsent : ∀ id ∈ pairing.requested, hub'.sent id = hub.sent id)
    (huuids : ∀ id ∈ hub.uuids, id ∈ hub'.uuids)
    (hlistening : ∀ id ∈ pairing.requested, hub'.listening id = true → hub.listening id = true) :
    pairing.Sound hub' where
  asked := h.asked
  bounded := h.bounded
  letIn hne := by
    obtain ⟨id, hid, happroved⟩ := h.letIn hne
    exact ⟨id, hid, (hsent id hid).trans happroved⟩
  heard id answer hheard := by
    have hid : id ∈ pairing.requested := by
      rw [h.requested_eq (approval_of_heard hheard)]
      exact List.mem_singleton_self id
    exact (hsent id hid).trans (h.heard id answer hheard)
  continues id hid happroved := h.continues id hid ((hsent id hid).symm.trans happroved)
  known id hid := huuids id (h.known id hid)
  listens id hid hlistens := h.listens id hid (hlistening id hid hlistens)

lemma goTo (h : pairing.Sound hub) (hid : pairing.stage.approval = some id)
    (hafter : stage.approval = some id) (hdevice : stage.device = pairing.stage.device)
    (hheard : ∀ answer, stage.heard = some (id, answer) → hub.sent id = some answer)
    (hcontinues : hub.sent id = some true → stage.ContinuesApproved)
    (hlistens : hub.listening id = true → stage.listens = true) : (pairing.goTo stage).Sound hub := by
  have hrequested := h.requested_eq hid
  refine ⟨fun _ => ?_, h.bounded, h.letIn, fun id' answer hheard' => ?_, fun id' hid' => ?_, h.known,
    fun id' hid' => ?_⟩
  · obtain ⟨-, hregistered⟩ := h.asked (isEnded_of_approval hid)
    change pairing.requested = stage.approval.toList ∧ pairing.registered = stage.device.toList
    rw [hafter, hdevice]
    exact ⟨hrequested, hregistered⟩
  · obtain rfl : id = id' := Option.some_inj.mp (hafter.symm.trans (approval_of_heard hheard'))
    exact hheard answer hheard'
  · obtain rfl : id' = id := List.mem_singleton.mp (hrequested ▸ hid')
    exact hcontinues
  · obtain rfl : id' = id := List.mem_singleton.mp (hrequested ▸ hid')
    exact hlistens

lemma deaf (h : pairing.Sound hub) (hid : pairing.stage.approval = some id)
    (hdeaf : pairing.stage.listens = false) : hub.listening id = false := by
  rw [← Bool.not_eq_true]
  intro hlistening
  have hmem : id ∈ pairing.requested := by
    rw [h.requested_eq hid]
    exact List.mem_singleton_self id
  rw [h.listens id hmem hlistening] at hdeaf
  cases hdeaf

lemma continues_of_approval (h : pairing.Sound hub) (hid : pairing.stage.approval = some id)
    (happroved : hub.sent id = some true) : pairing.stage.ContinuesApproved := by
  refine h.continues id ?_ happroved
  rw [h.requested_eq hid]
  exact List.mem_singleton_self id

lemma device_of_approval (h : stage.approval = none) : stage.device = none := by
  cases stage with
  | sendingApproved | running => cases h
  | _ => rfl

lemma heard_of_approval (h : stage.approval = none) : stage.heard = none := by
  cases hheard : stage.heard with
  | none => rfl
  | some answer =>
      rw [approval_of_heard hheard] at h
      cases h

lemma requested_nil (h : pairing.Sound hub) (hnone : pairing.stage.approval = none)
    (hended : pairing.stage.isEnded = false) : pairing.requested = [] ∧ pairing.registered = [] := by
  obtain ⟨hrequested, hregistered⟩ := h.asked hended
  rw [hnone] at hrequested
  rw [device_of_approval hnone] at hregistered
  exact ⟨hrequested, hregistered⟩

lemma prepares (h : pairing.Sound hub) (hnone : pairing.stage.approval = none)
    (hended : pairing.stage.isEnded = false) (hafter : stage.approval = none) (queued : List Frame) :
    ({ pairing with stage := stage, queued := queued } : Pairing).Sound hub := by
  obtain ⟨hrequested, hregistered⟩ := h.requested_nil hnone hended
  refine ⟨fun _ => ?_, h.bounded, h.letIn, fun id answer hheard => ?_, fun id hid => ?_, h.known,
    fun id hid => ?_⟩
  · change pairing.requested = stage.approval.toList ∧ pairing.registered = stage.device.toList
    rw [hafter, device_of_approval hafter]
    exact ⟨hrequested, hregistered⟩
  · change stage.heard = some (id, answer) at hheard
    rw [heard_of_approval hafter] at hheard
    cases hheard
  · change id ∈ pairing.requested at hid
    rw [hrequested] at hid
    cases hid
  · change id ∈ pairing.requested at hid
    rw [hrequested] at hid
    cases hid

lemma carriesOn (h : pairing.Sound hub) (hid : pairing.stage.approval = some id)
    (hafter : stage.approval = some id) (hdevice : stage.device = pairing.stage.device)
    (hheard : stage.heard = pairing.stage.heard)
    (hcontinues : pairing.stage.ContinuesApproved → stage.ContinuesApproved)
    (hdeaf : pairing.stage.listens = false) : (pairing.goTo stage).Sound hub := by
  refine h.goTo hid hafter hdevice (fun answer hsame => h.heard id answer (hheard ▸ hsame))
    (fun happroved => hcontinues (h.continues_of_approval hid happroved)) fun hlistening => ?_
  rw [h.deaf hid hdeaf] at hlistening
  cases hlistening

lemma requests (h : pairing.Sound hub) (hstage : pairing.stage = .requesting) (hfresh : id ∉ hub.uuids) :
    ({ pairing with
      stage := .announcing (approvalRequest id pairing.device)
      requested := pairing.requested ++ [id] } : Pairing).Sound
        (hub.requestApproval (approvalRequest id pairing.device)) := by
  obtain ⟨hrequested, hregistered⟩ := h.requested_nil (by rw [hstage]; rfl) (by rw [hstage]; rfl)
  have hasked : pairing.requested ++ [id] = [id] := by rw [hrequested, List.nil_append]
  have hundispatched : pairing.dispatched = [] := by
    by_contra hne
    obtain ⟨id', hid', -⟩ := h.letIn hne
    rw [hrequested] at hid'
    cases hid'
  refine ⟨fun _ => ⟨hasked, hregistered⟩, ⟨?_, ?_⟩, fun hne => absurd hundispatched hne, nofun,
    fun _ _ _ => trivial, fun id' hid' => ?_, fun _ _ _ => rfl⟩
  · exact Nat.le_of_eq (congrArg List.length hasked)
  · change pairing.registered.length ≤ _
    rw [hregistered]
    exact Nat.zero_le _
  · obtain rfl : id' = id := List.mem_singleton.mp (hasked ▸ hid')
    exact List.mem_cons_self

lemma registers (h : pairing.Sound hub) (hstage : pairing.stage = .registering id) (deviceId : String) :
    ({ pairing with
      stage := .sendingApproved id deviceId
      registered := pairing.registered ++ [deviceId] } : Pairing).Sound hub := by
  have hid : pairing.stage.approval = some id := by rw [hstage]; rfl
  have hrequested := h.requested_eq hid
  have hregistered : pairing.registered = [] := by
    rw [(h.asked (isEnded_of_approval hid)).2, hstage]
    rfl
  have hlistening := h.deaf hid (by rw [hstage]; rfl)
  refine ⟨fun _ => ⟨hrequested, ?_⟩, ⟨h.bounded.1, ?_⟩, h.letIn, fun id' answer hheard => ?_,
    fun _ _ _ => trivial, h.known, fun id' hid' hlistens => ?_⟩
  · change pairing.registered ++ [deviceId] = [deviceId]
    rw [hregistered, List.nil_append]
  · change (pairing.registered ++ [deviceId]).length ≤ pairing.requested.length
    rw [hregistered, hrequested]
    exact le_refl 1
  · refine h.heard id' answer ?_
    rw [hstage]
    exact hheard
  · obtain rfl : id' = id := List.mem_singleton.mp (hrequested ▸ hid')
    rw [hlistening] at hlistens
    cases hlistens

lemma next {input : HubInput} (h : pairing.Sound hub) (heffect : PairEffect hub pairing input hub' pairing')
    (hkeeps : ∀ id deadline, pairing.stage = .awaiting id deadline → hub.sent id = some true →
      input ≠ .timeout ∧ ∀ message, input = .received message →
        message.breaksWait pairing.queued = false) : pairing'.Sound hub' := by
  have hsame : ∀ {after : Hub}, (∀ id, after.sent id = hub.sent id) → after.uuids = hub.uuids →
      (∀ id, after.listening id = true → hub.listening id = true) → pairing.Sound after :=
    fun hsent huuids hlistening => h.of_hub (fun id _ => hsent id) (fun id hid => huuids ▸ hid)
      fun id _ => hlistening id
  cases heffect with
  | @prepares stage queued hnone hended hafter => exact h.prepares hnone hended hafter queued
  | consumes hstage =>
      have hafter : pairing.Sound (hub.consumeOffer pairing.pairId) :=
        hsame (fun _ => rfl) rfl fun _ h => h
      exact hafter.prepares (by rw [hstage]; rfl) (by rw [hstage]; rfl) rfl pairing.queued
  | requests hstage hfresh => exact h.requests hstage hfresh
  | @announces approval deadline hstage =>
      have hafter : pairing.Sound (hub.emit (.approvalRequested approval)) :=
        hsame (fun _ => rfl) rfl fun _ h => h
      exact hafter.goTo (by rw [hstage]; rfl) rfl (by rw [hstage]; rfl) nofun (fun _ => trivial)
        fun _ => rfl
  | waits => exact ⟨h.asked, h.bounded, h.letIn, h.heard, h.continues, h.known, h.listens⟩
  | @hears id deadline answer hstage hsent =>
      refine h.goTo (by rw [hstage]; rfl) rfl (by rw [hstage]; rfl) (fun answer' hheard => ?_)
        (fun happroved => .inl ?_) fun _ => rfl
      · cases hheard
        exact hsent
      · rw [hsent] at happroved
        cases happroved
        rfl
  | @timesOut id deadline hstage hinput =>
      refine h.goTo (by rw [hstage]; rfl) rfl (by rw [hstage]; rfl) nofun (fun happroved => ?_)
        fun _ => rfl
      exact absurd hinput (hkeeps id deadline hstage happroved).1
  | losesPhone hstage =>
      exact h.goTo (by rw [hstage]; rfl) rfl (by rw [hstage]; rfl) nofun (fun _ => .inr rfl)
        fun _ => rfl
  | @breaks id deadline message hstage hinput hbreaks =>
      refine h.goTo (by rw [hstage]; rfl) rfl (by rw [hstage]; rfl) nofun (fun happroved => ?_)
        fun _ => rfl
      rw [(hkeeps id deadline hstage happroved).2 message hinput] at hbreaks
      cases hbreaks
  | @leaves id outcome hstage =>
      have hid : pairing.stage.approval = some id := by rw [hstage]; rfl
      have hafter : pairing.Sound (hub.dropReceiver id) :=
        hsame (by simp) (by simp) fun id' hid' => by
          rw [Hub.listening_dropReceiver] at hid'
          split at hid'
          · cases hid'
          · exact hid'
      refine hafter.goTo hid rfl (by rw [hstage]; rfl) (fun answer hheard => ?_)
        (fun happroved => ?_) fun hlistens => ?_
      · refine hafter.heard id answer ?_
        rw [hstage]
        cases outcome <;> exact hheard
      · have hcontinues := hafter.continues_of_approval hid happroved
        rw [hstage] at hcontinues
        exact hcontinues
      · rw [Hub.listening_dropReceiver, if_pos rfl] at hlistens
        cases hlistens
  | @cancels id outcome hstage =>
      have hafter : pairing.Sound (hub.takeApproval id) := hsame (fun _ => rfl) rfl fun _ h => h
      refine hafter.carriesOn (by rw [hstage]; rfl) rfl (by rw [hstage]; rfl) ?_ ?_
        (by rw [hstage]; rfl)
      · rw [hstage]
        cases outcome <;> rfl
      · rw [hstage]
        exact fun h => h
  | @decides id outcome hstage =>
      refine h.carriesOn (by rw [hstage]; rfl) rfl (by rw [hstage]; rfl) ?_ ?_ (by rw [hstage]; rfl)
      · rw [hstage]
        cases outcome <;> rfl
      · rw [hstage]
        exact fun h => h
  | @resolves id outcome hstage =>
      have hafter : pairing.Sound (hub.emit (.approvalResolved id false)) :=
        hsame (fun _ => rfl) rfl fun _ h => h
      refine hafter.carriesOn (by rw [hstage]; rfl) rfl (by rw [hstage]; rfl) ?_ ?_
        (by rw [hstage]; rfl)
      · rw [hstage]
        cases outcome <;> rfl
      · rw [hstage]
        exact fun h => h
  | approves hstage =>
      exact h.carriesOn (by rw [hstage]; rfl) rfl (by rw [hstage]; rfl) (by rw [hstage]; rfl)
        (fun _ => trivial) (by rw [hstage]; rfl)
  | @registers id deviceId devices hstage =>
      have hafter : pairing.Sound { hub with devices := devices } :=
        hsame (fun _ => rfl) rfl fun _ h => h
      exact hafter.registers hstage deviceId
  | opens hstage =>
      exact h.carriesOn (by rw [hstage]; rfl) rfl (by rw [hstage]; rfl) (by rw [hstage]; rfl)
        (fun _ => trivial) (by rw [hstage]; rfl)
  | @runs id deviceId queued dispatched hstage =>
      refine ⟨h.asked, h.bounded, fun _ => ⟨id, ?_, ?_⟩, h.heard, h.continues, h.known, h.listens⟩
      · have hid : pairing.stage.approval = some id := by rw [hstage]; rfl
        change id ∈ pairing.requested
        rw [h.requested_eq hid]
        exact List.mem_singleton_self id
      · exact h.heard id true (by rw [hstage]; rfl)
  | @ends id how hid hdeaf hcontinues =>
      refine ⟨nofun, h.bounded, h.letIn, nofun, fun id' hid' happroved => ?_, h.known,
        fun id' hid' hlistening => ?_⟩
      · exact hcontinues (h.continues id' hid' happroved)
      · have hlistens := h.listens id' hid' hlistening
        rw [hdeaf] at hlistens
        cases hlistens

lemma fresh (phoneKey : PhoneKey) (pairId : String) (device : DeviceInfo) :
    (Pairing.fresh phoneKey pairId device).Sound hub where
  asked _ := ⟨rfl, rfl⟩
  bounded := ⟨Nat.zero_le 1, le_refl 0⟩
  letIn hne := absurd rfl hne
  heard := nofun
  continues := nofun
  known := nofun
  listens := nofun

lemma delivers {answer : Bool} (h : pairing.Sound hub) (hlistening : hub.listening id = true)
    (hnone : hub.sent id = none) (hkeeps : answer = true → pairing.stage ≠ .leaving id .timedOut ∧
      pairing.stage ≠ .leaving id .channelBroken) :
    pairing.Sound (hub.setDecision id ⟨some answer, true⟩) := by
  have hsent : ∀ id', id' ≠ id →
      (hub.setDecision id ⟨some answer, true⟩).sent id' = hub.sent id' :=
    fun id' hne => by rw [Hub.sent_setDecision, if_neg hne]
  have hlistens : ∀ id', (hub.setDecision id ⟨some answer, true⟩).listening id' = true →
      hub.listening id' = true := by
    intro id' hid'
    rw [Hub.listening_setDecision] at hid'
    split at hid'
    · next heq => exact heq ▸ hlistening
    · exact hid'
  by_cases hmem : id ∈ pairing.requested
  · have hstage := h.listens id hmem hlistening
    have hended : pairing.stage.isEnded = false := by
      cases hpairing : pairing.stage with
      | ended how =>
          rw [hpairing] at hstage
          cases hstage
      | _ => rfl
    have hid : pairing.stage.approval = some id := by
      rw [(h.asked hended).1] at hmem
      exact Option.mem_toList.mp hmem
    have hrequested := h.requested_eq hid
    have hunheard : ∀ answer', pairing.stage.heard ≠ some (id, answer') := by
      intro answer' hheard
      rw [h.heard id answer' hheard] at hnone
      cases hnone
    refine ⟨h.asked, h.bounded, fun hne => ?_, fun id' answer' hheard => ?_, fun id' hid' happroved => ?_,
      h.known, fun id' hid' hlistening' => h.listens id' hid' (hlistens id' hlistening')⟩
    · obtain ⟨id', hid', happroved⟩ := h.letIn hne
      obtain rfl : id' = id := List.mem_singleton.mp (hrequested ▸ hid')
      rw [hnone] at happroved
      cases happroved
    · obtain rfl : id = id' := Option.some_inj.mp (hid.symm.trans (approval_of_heard hheard))
      exact absurd hheard (hunheard answer')
    · obtain rfl : id' = id := List.mem_singleton.mp (hrequested ▸ hid')
      rw [Hub.sent_setDecision, if_pos rfl] at happroved
      obtain ⟨hintime, hwhole⟩ := hkeeps (Option.some_inj.mp happroved)
      cases hpairing : pairing.stage with
      | announcing | awaiting => trivial
      | leaving id'' outcome =>
          rw [hpairing] at hid hintime hwhole hunheard
          obtain rfl : id'' = id' := Option.some_inj.mp hid
          cases outcome with
          | answered answer' => exact absurd rfl (hunheard answer')
          | timedOut => exact absurd rfl hintime
          | channelBroken => exact absurd rfl hwhole
          | phoneGone => exact .inr rfl
      | _ =>
          rw [hpairing] at hstage
          cases hstage
  · refine h.of_hub (fun id' hid' => hsent id' ?_) (fun _ h => h) fun id' _ => hlistens id'
    rintro rfl
    exact hmem hid'

lemma of_other {other other' : Pairing} {input : HubInput} (h : pairing.Sound hub)
    (heffect : PairEffect hub other input hub' other') : pairing.Sound hub' := by
  cases heffect with
  | @requests id hstage hfresh =>
      have hne : ∀ id' ∈ pairing.requested, id' ≠ (approvalRequest id other.device).id := by
        rintro _ hid' rfl
        exact hfresh (h.known _ hid')
      refine h.of_hub (fun id' hid' => ?_) (fun id' hid' => List.mem_cons_of_mem _ hid')
        fun id' hid' hlistening => ?_
      · rw [Hub.sent_requestApproval, if_neg (hne id' hid')]
      · rwa [Hub.listening_requestApproval, if_neg (hne id' hid')] at hlistening
  | @leaves id =>
      refine h.of_hub (by simp) (by simp) fun id' _ hlistening => ?_
      rw [Hub.listening_dropReceiver] at hlistening
      split at hlistening
      · cases hlistening
      · exact hlistening
  | _ => exact h.of_hub (fun _ _ => rfl) (fun _ h => h) fun _ _ h => h

end Pairing.Sound

section Runs

variable {s t : Pool Hub HubCall} {i : ℕ} {input : HubInput} {call call' : HubCall} {hub' : Hub}

lemma sound_other {pairing : Pairing} (hsound : pairing.Sound s.shared) (happrovals : ApprovalsSound s)
    (hmem : .pair pairing ∈ s.calls) (hc : s.calls[i]? = some call)
    (hkeeps : losesApproval s (.advance i input) = false)
    (heffect : HubEffect s.shared input call hub' call') : pairing.Sound hub' := by
  cases heffect with
  | passes => exact hsound.of_hub (fun _ _ => rfl) (fun _ h => h) fun _ _ h => h
  | begins => exact hsound
  | offers => exact hsound.of_hub (fun _ _ => rfl) (fun _ h => h) fun _ _ h => h
  | finds => exact hsound
  | takes => exact hsound.of_hub (fun _ _ => rfl) (fun _ h => h) fun _ _ h => h
  | @delivers id approve hlistening =>
      have hnone : s.shared.sent id = none := happrovals.told _ (List.mem_of_getElem? hc)
      refine hsound.delivers hlistening hnone fun happrove => ?_
      subst happrove
      rw [losesApproval, hc] at hkeeps
      have hpairing := List.any_eq_false.mp hkeeps _ hmem
      simpa using hpairing
  | misses => exact hsound
  | answers => exact hsound.of_hub (fun _ _ => rfl) (fun _ h => h) fun _ _ h => h
  | pairs h => exact hsound.of_other h

lemma keeps_awaiting {pairing : Pairing} (hc : s.calls[i]? = some (.pair pairing))
    (hkeeps : losesApproval s (.advance i input) = false) (id : String) (deadline : ℕ)
    (hstage : pairing.stage = .awaiting id deadline) (happroved : s.shared.sent id = some true) :
    input ≠ .timeout ∧ ∀ message, input = .received message →
      message.breaksWait pairing.queued = false := by
  rw [losesApproval, hc] at hkeeps
  dsimp only at hkeeps
  rw [hstage] at hkeeps
  refine ⟨?_, ?_⟩
  · rintro rfl
    exact absurd happroved (of_decide_eq_false hkeeps)
  · rintro message rfl
    simpa [happroved] using hkeeps

lemma sound_step {action : PoolAction HubCall HubInput}
    (hsound : ∀ pairing, .pair pairing ∈ s.calls → pairing.Sound s.shared)
    (happrovals : ApprovalsSound s) (hkeeps : losesApproval s action = false)
    (hstep : remoteHub.step s action = some ((), t)) :
    ∀ pairing, .pair pairing ∈ t.calls → pairing.Sound t.shared := by
  intro pairing hmem
  cases action with
  | enter call =>
      obtain ⟨hbegins, rfl⟩ := pool_enter.mp hstep
      rcases List.mem_append.mp hmem with hmem | hmem
      · exact hsound pairing hmem
      · rw [← List.mem_singleton.mp hmem] at hbegins
        cases hbegins
  | advance i input =>
      obtain ⟨call, hc, hub', call', hnext, rfl⟩ := pool_advance.mp hstep
      have heffect := hub_effect hnext
      rcases List.mem_or_eq_of_mem_set hmem with hmem | rfl
      · exact sound_other (hsound pairing hmem) happrovals hmem hc hkeeps heffect
      · cases heffect with
        | passes _ hquiet => cases hquiet
        | begins => exact .fresh _ _ _
        | @pairs _ before _ h =>
            exact (hsound before (List.mem_of_getElem? hc)).next h (keeps_awaiting hc hkeeps)

lemma sound_of_reachable (h : attentiveHub.Reachable s) :
    ∀ pairing, .pair pairing ∈ s.calls → pairing.Sound s.shared := by
  induction h with
  | start => exact fun pairing hmem => absurd hmem List.not_mem_nil
  | step hreach hstep ih =>
      obtain ⟨hkeeps, hstep⟩ := System.restrict_step.mp hstep
      have happrovals := approvalsSound_of_reachable (System.reachable_of_restrict hreach)
      exact sound_step ih happrovals (by simpa using hkeeps) hstep

lemma requestedFor_cases (pairId : String) (call : HubCall) :
    (call.requestedFor pairId = [] ∧ call.registeredFor pairId = []) ∨
    ∃ pairing, call = .pair pairing ∧ pairing.pairId = pairId ∧
      call.requestedFor pairId = pairing.requested ∧ call.registeredFor pairId = pairing.registered := by
  cases call with
  | pair pairing =>
      by_cases heq : pairing.pairId = pairId
      · exact .inr ⟨pairing, rfl, heq, if_pos heq, if_pos heq⟩
      · exact .inl ⟨if_neg heq, if_neg heq⟩
  | _ => exact .inl ⟨rfl, rfl⟩

lemma tookOffer_of_requestedFor {pairId : String} (h : call.requestedFor pairId ≠ []) :
    call.TookOffer pairId := by
  rcases requestedFor_cases pairId call with ⟨hnil, -⟩ | ⟨pairing, rfl, heq, hrequested, -⟩
  · exact absurd hnil h
  · exact ⟨heq, .inr (hrequested ▸ h)⟩

lemma length_requestedFor_le (pairId : String)
    (hsound : ∀ pairing, .pair pairing ∈ s.calls → pairing.Sound s.shared) (hmem : call ∈ s.calls) :
    (call.requestedFor pairId).length ≤ 1 ∧
      (call.registeredFor pairId).length ≤ (call.requestedFor pairId).length := by
  rcases requestedFor_cases pairId call with ⟨hnil, hnone⟩ | ⟨pairing, rfl, -, hrequested, hregistered⟩
  · rw [hnil, hnone]
    exact ⟨Nat.zero_le 1, le_refl 0⟩
  · rw [hrequested, hregistered]
    exact (hsound pairing hmem).bounded

/-- Where no approving answer is lost, a phone gets in only through its own approval, and gets in by
it. -/
theorem own_approval (h : attentiveHub.Reachable s) : OwnApproval s := by
  have hreach := System.reachable_of_restrict h
  have hsound := sound_of_reachable h
  have happrovals := approvalsSound_of_reachable hreach
  have halone : ∀ pairId, Alone (fun call => call.requestedFor pairId ≠ []) s.calls :=
    fun pairId => ((offersSound_of_reachable hreach).alone pairId).imp
      fun _ _ => tookOffer_of_requestedFor
  refine ⟨fun pairing hmem => (hsound pairing hmem).letIn, fun pairId => ?_, fun pairId => ?_,
    happrovals.once, fun pairing id hmem hid happroved => ?_⟩
  · exact (halone pairId).length_flatMap_le fun call hmem =>
      (length_requestedFor_le pairId hsound hmem).1
  · have hregistered : Alone (fun call => call.registeredFor pairId ≠ []) s.calls := by
      refine (halone pairId).imp fun call hmem hne hnil => hne ?_
      have hle := (length_requestedFor_le pairId hsound hmem).2
      rw [hnil] at hle
      exact List.length_eq_zero_iff.mp (Nat.le_zero.mp hle)
    refine hregistered.length_flatMap_le fun call hmem => ?_
    obtain ⟨hrequested, hle⟩ := length_requestedFor_le pairId hsound hmem
    exact hle.trans hrequested
  · exact (hsound pairing hmem).continues id hid (happrovals.approved id happroved)

end Runs

section Demo

def demoPhone : PhoneKey := [1, 2, 3]

def demoFrame : Frame := ⟨[9]⟩

def demoAsks : List (PoolAction HubCall HubInput) :=
  [.enter (.createOffer 300), .advance 0 (.drawn "offer"),
    .enter .hello, .advance 1 (.received (.handshakeInit .pair demoPhone (some "offer") none)),
    .advance 1 .go, .advance 1 .go, .advance 1 (.received (.opened (some demoFrame))),
    .advance 1 .go, .advance 1 .go, .advance 1 .go, .advance 1 (.drawn "approval"), .advance 1 .go,
    .enter (.respondApproval "approval" true .looking)]

def demoApproved : Pool Hub HubCall :=
  attentiveHub.exec attentiveHub.start (demoAsks ++ [.advance 2 .go, .advance 2 .go, .advance 1 .decision,
    .advance 2 .go, .advance 1 .go, .advance 1 .go, .advance 1 .go, .advance 1 (.drawn "device"),
    .advance 1 .go, .advance 1 .go])

theorem own_approval_phone : (demoApproved.calls.flatMap fun
    | .pair pairing => pairing.dispatched
    | _ => []) = [demoFrame] ∧ OwnApproval demoApproved :=
  ⟨by decide +kernel, own_approval (.exec .start _)⟩

def demoTimedOut : Pool Hub HubCall :=
  remoteHub.exec remoteHub.start (demoAsks ++ [.enter .clock, .advance 3 (.elapsed 120), .advance 2 .go,
    .advance 2 .go, .advance 2 .go, .advance 1 .timeout, .advance 1 .go, .advance 1 .go, .advance 1 .go])

theorem approved_but_denied : remoteHub.Reachable demoTimedOut ∧ ¬OwnApproval demoTimedOut := by
  refine ⟨.exec .start _, fun h => ?_⟩
  have hcall : ∃ pairing, demoTimedOut.calls[1]? = some (.pair pairing) ∧
      pairing.stage = .ended .denied ∧ pairing.requested = ["approval"] := ⟨_, rfl, rfl, rfl⟩
  have hresolved : .approvalResolved "approval" true ∈ demoTimedOut.shared.events := by
    decide +kernel
  obtain ⟨pairing, hcall, hstage, hrequested⟩ := hcall
  have hcontinues := h.approved pairing "approval" (List.mem_of_getElem? hcall)
    (by rw [hrequested]; exact List.mem_singleton_self _) hresolved
  rw [hstage] at hcontinues
  exact hcontinues

end Demo

end DevCommandCenter.RemoteHub
