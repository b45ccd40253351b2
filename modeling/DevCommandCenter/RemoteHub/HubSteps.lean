import DevCommandCenter.RemoteHub.Handshakes

/-! What one step does to the hub and to the call that takes it. -/

namespace DevCommandCenter.RemoteHub

open Library

namespace Hub

variable (hub : Hub) (id id' pairId : String)

@[simp] lemma sent_consumeOffer : (hub.consumeOffer pairId).sent id = hub.sent id := rfl

@[simp] lemma sent_insertOffer (ttl : ℕ) : (hub.insertOffer pairId ttl).sent id = hub.sent id := rfl

@[simp] lemma sent_takeApproval : (hub.takeApproval id').sent id = hub.sent id := rfl

@[simp] lemma sent_emit (event : RemoteEvent) : (hub.emit event).sent id = hub.sent id := rfl

lemma sent_setDecision (decision : Decision) :
    (hub.setDecision id' decision).sent id = if id = id' then decision.sent else hub.sent id := by
  change (Function.update hub.decisions id' (some decision) id).bind Decision.sent = _
  by_cases h : id = id'
  · rw [h, Function.update_self, if_pos rfl, Option.bind_some]
  · rw [Function.update_of_ne h, if_neg h, sent]

lemma listening_setDecision (decision : Decision) : (hub.setDecision id' decision).listening id =
    if id = id' then decision.listening else hub.listening id := by
  change (Function.update hub.decisions id' (some decision) id).any Decision.listening = _
  by_cases h : id = id'
  · rw [h, Function.update_self, if_pos rfl, Option.any_some]
  · rw [Function.update_of_ne h, if_neg h, listening]

@[simp] lemma sent_dropReceiver : (hub.dropReceiver id').sent id = hub.sent id := by
  rw [dropReceiver]
  split
  · next decision hdecision =>
      rw [sent_setDecision]
      split
      · next h => rw [h, sent, hdecision, Option.bind_some]
      · rfl
  · rfl

lemma listening_dropReceiver : (hub.dropReceiver id').listening id =
    if id = id' then false else hub.listening id := by
  rw [dropReceiver]
  split
  · rw [listening_setDecision]
  · next hnone =>
      split
      · next h => rw [h, listening, hnone, Option.any_none]
      · rfl

lemma sent_requestApproval (approval : ApprovalRequest) : (hub.requestApproval approval).sent id =
    if id = approval.id then none else hub.sent id :=
  hub.sent_setDecision id approval.id ⟨none, true⟩

lemma listening_requestApproval (approval : ApprovalRequest) :
    (hub.requestApproval approval).listening id =
      if id = approval.id then true else hub.listening id :=
  hub.listening_setDecision id approval.id ⟨none, true⟩

@[simp] lemma approvals_dropReceiver : (hub.dropReceiver id').approvals = hub.approvals := by
  rw [dropReceiver]
  split <;> rfl

@[simp] lemma events_dropReceiver : (hub.dropReceiver id').events = hub.events := by
  rw [dropReceiver]
  split <;> rfl

@[simp] lemma uuids_dropReceiver : (hub.dropReceiver id').uuids = hub.uuids := by
  rw [dropReceiver]
  split <;> rfl

@[simp] lemma offers_dropReceiver : (hub.dropReceiver id').offers = hub.offers := by
  rw [dropReceiver]
  split <;> rfl

@[simp] lemma pairIds_dropReceiver : (hub.dropReceiver id').pairIds = hub.pairIds := by
  rw [dropReceiver]
  split <;> rfl

end Hub

namespace PairStage

def approval : PairStage → Option String
  | .announcing approval => some approval.id
  | .awaiting id _ | .leaving id _ | .cancelling id _ | .resolving id _ | .decided id _
  | .registering id | .sendingApproved id _ | .running id _ => some id
  | _ => none

def device : PairStage → Option String
  | .sendingApproved _ deviceId | .running _ deviceId => some deviceId
  | _ => none

def heard : PairStage → Option (String × Bool)
  | .leaving id (.answered answer) | .cancelling id (.answered answer)
  | .resolving id (.answered answer) | .decided id (.answered answer) => some (id, answer)
  | .registering id | .sendingApproved id _ | .running id _ => some (id, true)
  | _ => none

def tookOffer : PairStage → Bool
  | .countingDevices | .sendingPending | .requesting => true
  | _ => false

def isEnded : PairStage → Bool
  | .ended _ => true
  | _ => false

def listens : PairStage → Bool
  | .announcing _ | .awaiting _ _ | .leaving _ _ => true
  | _ => false

end PairStage

inductive PairEffect (hub : Hub) (pairing : Pairing) (input : HubInput) : Hub → Pairing → Prop
  | prepares {stage : PairStage} {queued : List Frame} :
      pairing.stage.approval = none → pairing.stage.isEnded = false → stage.approval = none →
      (stage.tookOffer = true → pairing.stage.tookOffer = true) →
      PairEffect hub pairing input hub { pairing with stage := stage, queued := queued }
  | consumes : pairing.stage = .consumingOffer → hub.offerOpen pairing.pairId = true →
      PairEffect hub pairing input (hub.consumeOffer pairing.pairId) (pairing.goTo .countingDevices)
  | requests {id : String} : pairing.stage = .requesting → id ∉ hub.uuids →
      PairEffect hub pairing input (hub.requestApproval (approvalRequest id pairing.device))
        { pairing with
          stage := .announcing (approvalRequest id pairing.device)
          requested := pairing.requested ++ [id] }
  | announces {approval : ApprovalRequest} {deadline : ℕ} : pairing.stage = .announcing approval →
      PairEffect hub pairing input (hub.emit (.approvalRequested approval))
        (pairing.goTo (.awaiting approval.id deadline))
  | waits {id : String} {deadline : ℕ} {queued : List Frame} : pairing.stage = .awaiting id deadline →
      PairEffect hub pairing input hub { pairing with queued := queued }
  | hears {id : String} {deadline : ℕ} {answer : Bool} : pairing.stage = .awaiting id deadline →
      hub.sent id = some answer →
      PairEffect hub pairing input hub (pairing.goTo (.leaving id (.answered answer)))
  | timesOut {id : String} {deadline : ℕ} : pairing.stage = .awaiting id deadline → input = .timeout →
      PairEffect hub pairing input hub (pairing.goTo (.leaving id .timedOut))
  | losesPhone {id : String} {deadline : ℕ} : pairing.stage = .awaiting id deadline →
      PairEffect hub pairing input hub (pairing.goTo (.leaving id .phoneGone))
  | breaks {id : String} {deadline : ℕ} {message : Received} : pairing.stage = .awaiting id deadline →
      input = .received message → message.breaksWait pairing.queued = true →
      PairEffect hub pairing input hub (pairing.goTo (.leaving id .channelBroken))
  | leaves {id : String} {outcome : Outcome} : pairing.stage = .leaving id outcome →
      PairEffect hub pairing input (hub.dropReceiver id) (pairing.goTo (.cancelling id outcome))
  | cancels {id : String} {outcome : Outcome} : pairing.stage = .cancelling id outcome →
      hub.approvals id ≠ none →
      PairEffect hub pairing input (hub.takeApproval id) (pairing.goTo (.resolving id outcome))
  | decides {id : String} {outcome : Outcome} : pairing.stage = .cancelling id outcome →
      PairEffect hub pairing input hub (pairing.goTo (.decided id outcome))
  | resolves {id : String} {outcome : Outcome} : pairing.stage = .resolving id outcome →
      PairEffect hub pairing input (hub.emit (.approvalResolved id false))
        (pairing.goTo (.decided id outcome))
  | approves {id : String} : pairing.stage = .decided id (.answered true) →
      PairEffect hub pairing input hub (pairing.goTo (.registering id))
  | registers {id deviceId : String} {devices : List PairedDevice} : pairing.stage = .registering id →
      PairEffect hub pairing input { hub with devices := devices } { pairing with
        stage := .sendingApproved id deviceId, registered := pairing.registered ++ [deviceId] }
  | opens {id deviceId : String} : pairing.stage = .sendingApproved id deviceId →
      PairEffect hub pairing input hub (pairing.goTo (.running id deviceId))
  | runs {id deviceId : String} {queued dispatched : List Frame} :
      pairing.stage = .running id deviceId →
      PairEffect hub pairing input hub { pairing with queued := queued, dispatched := dispatched }
  | ends {id : String} {how : PairEnd} : pairing.stage.approval = some id →
      pairing.stage.listens = false →
      (pairing.stage.ContinuesApproved → (PairStage.ended how).ContinuesApproved) →
      PairEffect hub pairing input hub (pairing.finish how)

section Pairing

variable {hub hub' : Hub} {pairing pairing' : Pairing} {input : HubInput}

lemma registerRelayDevice_eq {phoneKey : PhoneKey} {fresh deviceId : String}
    (h : hub.registerRelayDevice phoneKey fresh = some (deviceId, hub')) :
    ∃ devices, hub' = { hub with devices := devices } := by
  unfold Hub.registerRelayDevice at h
  split at h
  · cases h
    exact ⟨hub.devices, rfl⟩
  · split at h
    · cases h
    · cases h
      exact ⟨_, rfl⟩

lemma awaitApproval_effect {id : String} {deadline : ℕ} (hstage : pairing.stage = .awaiting id deadline)
    (h : pairing.awaitApproval hub id deadline input = some pairing') :
    PairEffect hub pairing input hub pairing' := by
  unfold Pairing.awaitApproval at h
  split at h
  · obtain ⟨answer, hsent, rfl⟩ := Option.map_eq_some_iff.mp h
    exact .hears hstage hsent
  · split at h
    · cases h
      exact .timesOut hstage rfl
    · cases h
  · next frame =>
      split at h
      · next hfull =>
          cases h
          exact .breaks hstage rfl (decide_eq_true hfull)
      · cases h
        exact .waits hstage
  · cases h
    exact @PairEffect.waits _ _ _ _ _ pairing.queued hstage
  · cases h
    exact .losesPhone hstage
  · next message hopened hunfinished hgone =>
      cases h
      refine .breaks hstage rfl ?_
      cases message with
      | opened frame => exact absurd rfl (hopened frame)
      | unfinished => exact absurd rfl hunfinished
      | gone => exact absurd rfl hgone
      | unreadable => rfl
      | handshakeInit => rfl
  · cases h

lemma runChannel_effect {id deviceId : String} (hstage : pairing.stage = .running id deviceId)
    (h : pairing.runChannel input = some pairing') : PairEffect hub pairing input hub pairing' := by
  have hends : ∀ code, PairEffect hub pairing input hub (pairing.finish (.channelClosed code)) :=
    fun code => @PairEffect.ends _ _ _ id _ (by rw [hstage]; rfl) (by rw [hstage]; rfl) fun _ => trivial
  unfold Pairing.runChannel at h
  split at h
  · split at h
    · cases h
    · cases h
      exact .runs hstage
  · split at h
    · cases h
    · cases h
      exact @PairEffect.runs _ _ _ _ _ pairing.queued _ hstage
    · cases h
      exact @PairEffect.runs _ _ _ _ _ pairing.queued pairing.dispatched hstage
    · cases h
      exact hends none
    · cases h
      exact hends _
  · cases h
    exact hends none
  · split at h
    · cases h
      exact hends _
    · cases h
  · cases h

lemma prepares_effect {stage : PairStage} {queued : List Frame} (hstage : pairing.stage.approval = none)
    (hended : pairing.stage.isEnded = false)
    (h : some (hub, { pairing with stage := stage, queued := queued }) = some (hub', pairing'))
    (hafter : stage.approval = none) (htook : stage.tookOffer = true → pairing.stage.tookOffer = true) :
    PairEffect hub pairing input hub' pairing' := by
  cases h
  exact .prepares hstage hended hafter htook

lemma pairing_effect (h : pairing.next hub input = some (hub', pairing')) :
    PairEffect hub pairing input hub' pairing' := by
  unfold Pairing.next at h
  cases hstage : pairing.stage with
  | checkingOffer =>
      have hnone : pairing.stage.approval = none := by rw [hstage]; rfl
      have hended : pairing.stage.isEnded = false := by rw [hstage]; rfl
      rw [hstage] at h
      cases input with
      | go =>
          dsimp only at h
          split at h <;> exact prepares_effect hnone hended h rfl nofun
      | _ => cases h
  | responding =>
      have hnone : pairing.stage.approval = none := by rw [hstage]; rfl
      have hended : pairing.stage.isEnded = false := by rw [hstage]; rfl
      rw [hstage] at h
      cases input with
      | go | failed => exact prepares_effect hnone hended h rfl nofun
      | _ => cases h
  | awaitingProof =>
      have hnone : pairing.stage.approval = none := by rw [hstage]; rfl
      have hended : pairing.stage.isEnded = false := by rw [hstage]; rfl
      rw [hstage] at h
      cases input with
      | received message => cases message <;> exact prepares_effect hnone hended h rfl nofun
      | timeout => exact prepares_effect hnone hended h rfl nofun
      | _ => cases h
  | consumingOffer =>
      rw [hstage] at h
      cases input with
      | go =>
          dsimp only at h
          split at h
          · next hopen =>
              cases h
              exact .consumes hstage hopen
          · exact prepares_effect (by rw [hstage]; rfl) (by rw [hstage]; rfl) h rfl nofun
      | _ => cases h
  | countingDevices =>
      have hnone : pairing.stage.approval = none := by rw [hstage]; rfl
      have hended : pairing.stage.isEnded = false := by rw [hstage]; rfl
      have htook : pairing.stage.tookOffer = true := by rw [hstage]; rfl
      rw [hstage] at h
      cases input with
      | go =>
          dsimp only at h
          split at h <;> exact prepares_effect hnone hended h rfl (fun _ => htook)
      | failed => exact prepares_effect hnone hended h rfl nofun
      | _ => cases h
  | sendingPending =>
      have hnone : pairing.stage.approval = none := by rw [hstage]; rfl
      have hended : pairing.stage.isEnded = false := by rw [hstage]; rfl
      have htook : pairing.stage.tookOffer = true := by rw [hstage]; rfl
      rw [hstage] at h
      cases input with
      | go | failed => exact prepares_effect hnone hended h rfl (fun _ => htook)
      | _ => cases h
  | requesting =>
      rw [hstage] at h
      cases input with
      | drawn id =>
          dsimp only at h
          split at h
          · cases h
          · next hfresh =>
              cases h
              exact .requests hstage hfresh
      | _ => cases h
  | announcing approval =>
      rw [hstage] at h
      cases input with
      | go =>
          cases h
          exact .announces hstage
      | _ => cases h
  | awaiting id deadline =>
      rw [hstage] at h
      obtain ⟨after, hafter, heq⟩ := Option.map_eq_some_iff.mp h
      cases heq
      exact awaitApproval_effect hstage hafter
  | leaving id outcome =>
      rw [hstage] at h
      cases input with
      | go =>
          cases h
          exact .leaves hstage
      | _ => cases h
  | cancelling id outcome =>
      rw [hstage] at h
      cases input with
      | go =>
          dsimp only at h
          split at h
          · next hwaiting =>
              cases h
              exact .cancels hstage (Option.isSome_iff_ne_none.mp hwaiting)
          · cases h
            exact .decides hstage
      | _ => cases h
  | resolving id outcome =>
      rw [hstage] at h
      cases input with
      | go =>
          cases h
          exact .resolves hstage
      | _ => cases h
  | decided id outcome =>
      have hid : pairing.stage.approval = some id := by rw [hstage]; rfl
      have hdeaf : pairing.stage.listens = false := by rw [hstage]; rfl
      rw [hstage] at h
      have hgo : input = .go := by
        rcases outcome with (_ | _) | _ | _ | _ <;> cases input <;> first | rfl | cases h
      subst hgo
      cases outcome with
      | answered approve =>
          cases approve with
          | true =>
              cases h
              exact .approves hstage
          | false =>
              cases h
              exact .ends hid hdeaf (by rw [hstage]; simp [PairStage.ContinuesApproved])
      | phoneGone =>
          cases h
          exact .ends hid hdeaf fun _ => trivial
      | timedOut | channelBroken =>
          cases h
          exact .ends hid hdeaf (by rw [hstage]; simp [PairStage.ContinuesApproved])
  | registering id =>
      have hid : pairing.stage.approval = some id := by rw [hstage]; rfl
      have hdeaf : pairing.stage.listens = false := by rw [hstage]; rfl
      rw [hstage] at h
      cases input with
      | drawn fresh =>
          dsimp only at h
          split at h
          · next deviceId after hregister =>
              obtain ⟨devices, rfl⟩ := registerRelayDevice_eq hregister
              cases h
              exact .registers hstage
          · cases h
            exact .ends hid hdeaf fun _ => trivial
      | failed =>
          cases h
          exact .ends hid hdeaf fun _ => trivial
      | _ => cases h
  | sendingApproved id deviceId =>
      have hid : pairing.stage.approval = some id := by rw [hstage]; rfl
      have hdeaf : pairing.stage.listens = false := by rw [hstage]; rfl
      rw [hstage] at h
      cases input with
      | go =>
          cases h
          exact .opens hstage
      | failed =>
          cases h
          exact .ends hid hdeaf fun _ => trivial
      | _ => cases h
  | running id deviceId =>
      rw [hstage] at h
      obtain ⟨after, hafter, heq⟩ := Option.map_eq_some_iff.mp h
      cases heq
      exact runChannel_effect hstage hafter
  | ended how =>
      rw [hstage] at h
      cases h

end Pairing

def HubCall.isQuiet : HubCall → Bool
  | .pair _ | .respondApproval _ _ _ => false
  | _ => true

def Pairing.fresh (phoneKey : PhoneKey) (pairId : String) (device : DeviceInfo) : Pairing where
  phoneKey := phoneKey
  pairId := pairId
  device := device
  queued := []
  stage := .checkingOffer
  requested := []
  registered := []
  dispatched := []

inductive HubEffect (hub : Hub) (input : HubInput) : HubCall → Hub → HubCall → Prop
  | passes {call call' : HubCall} {now : ℕ} {devices : List PairedDevice} : call.isQuiet = true →
      call'.isQuiet = true →
      HubEffect hub input call { hub with now := now, devices := devices } call'
  | begins {call : HubCall} {phoneKey : PhoneKey} {pairId : String} {device : DeviceInfo} :
      call.isQuiet = true →
      HubEffect hub input call hub (.pair (.fresh phoneKey pairId device))
  | offers {call : HubCall} {pairId : String} {ttl : ℕ} : call.isQuiet = true → pairId ∉ hub.pairIds →
      HubEffect hub input call (hub.insertOffer pairId ttl) (.offerCreated pairId)
  | finds {id : String} {approve : Bool} :
      HubEffect hub input (.respondApproval id approve .looking) hub
        (.respondApproval id approve (.returned false))
  | takes {id : String} {approve : Bool} : hub.approvals id ≠ none →
      HubEffect hub input (.respondApproval id approve .looking) (hub.takeApproval id)
        (.respondApproval id approve .taken)
  | delivers {id : String} {approve : Bool} : hub.listening id = true →
      HubEffect hub input (.respondApproval id approve .taken)
        (hub.setDecision id ⟨some approve, true⟩) (.respondApproval id approve (.delivered true))
  | misses {id : String} {approve : Bool} :
      HubEffect hub input (.respondApproval id approve .taken) hub
        (.respondApproval id approve (.delivered false))
  | answers {id : String} {approve delivered : Bool} :
      HubEffect hub input (.respondApproval id approve (.delivered delivered))
        (hub.emit (.approvalResolved id (approve && delivered)))
        (.respondApproval id approve (.returned delivered))
  | pairs {hub' : Hub} {pairing pairing' : Pairing} : PairEffect hub pairing input hub' pairing' →
      HubEffect hub input (.pair pairing) hub' (.pair pairing')

lemma respond_effect {hub hub' : Hub} {id : String} {approve : Bool} {phase phase' : RespondPhase}
    {input : HubInput} (h : respondNext hub id approve phase input = some (hub', phase')) :
    HubEffect hub input (.respondApproval id approve phase) hub' (.respondApproval id approve phase') := by
  unfold respondNext at h
  split at h
  · split at h
    · next hwaiting =>
        cases h
        exact .takes (Option.isSome_iff_ne_none.mp hwaiting)
    · cases h
      exact .finds
  · split at h
    · next hlistening =>
        cases h
        exact .delivers hlistening
    · cases h
      exact .misses
  · cases h
    exact .answers
  · cases h

lemma hello_effect {hub : Hub} {input : HubInput} {call : HubCall} (h : helloNext input = some call) :
    HubEffect hub input .hello hub call := by
  unfold helloNext at h
  split at h
  · cases h
    exact .passes rfl rfl
  · cases h
    exact .begins rfl
  · cases h
    exact .passes rfl rfl
  · cases h
    exact .passes rfl rfl
  · cases h

lemma hub_effect {hub hub' : Hub} {call call' : HubCall} {input : HubInput}
    (h : call.next hub input = some (hub', call')) : HubEffect hub input call hub' call' := by
  unfold HubCall.next at h
  split at h
  · cases h
    exact @HubEffect.passes _ _ _ _ _ hub.devices rfl rfl
  · cases h
    exact @HubEffect.passes _ _ _ _ hub.now _ rfl rfl
  · split at h
    · cases h
    · next hfresh =>
        cases h
        exact .offers rfl hfresh
  · obtain ⟨⟨after, phase⟩, hafter, heq⟩ := Option.map_eq_some_iff.mp h
    cases heq
    exact respond_effect hafter
  · obtain ⟨call, hcall, heq⟩ := Option.map_eq_some_iff.mp h
    cases heq
    exact hello_effect hcall
  · obtain ⟨stage, -, heq⟩ := Option.map_eq_some_iff.mp h
    cases heq
    exact .passes rfl rfl
  · obtain ⟨⟨after, pairing⟩, hafter, heq⟩ := Option.map_eq_some_iff.mp h
    cases heq
    exact .pairs (pairing_effect hafter)
  · cases h

end DevCommandCenter.RemoteHub
