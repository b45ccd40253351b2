import DevCommandCenter.Library.Interleaving
import DevCommandCenter.Library.Text
import DevCommandCenter.Library.Utf8
import Mathlib.Logic.Function.Basic

/-! The offers and approvals of the remote connector and the handshakes of the phones. What a message
opens to is the step's input. -/

namespace DevCommandCenter.RemoteHub

open Library

def approvalTimeout : ℕ := 120

def maxFramesBeforeApproval : ℕ := 32

def maxActiveDevices : ℕ := 10

abbrev PhoneKey : Type :=
  List Octet

structure Frame where
  bytes : List Octet
  deriving DecidableEq

structure DeviceInfo where
  name : String
  platform : Option String
  deriving DecidableEq

inductive CloseCode
  | protocol
  | unknownDevice
  | offerInvalid
  | deviceLimit
  | pairingDenied
  | revoked
  deriving DecidableEq

structure PendingOffer where
  expiresAt : ℕ
  consumed : Bool
  deriving DecidableEq

structure ApprovalRequest where
  id : String
  deviceName : String
  platform : Option String
  deriving DecidableEq

inductive RemoteEvent
  | approvalRequested (approval : ApprovalRequest)
  | approvalResolved (id : String) (approved : Bool)
  deriving DecidableEq

structure Decision where
  sent : Option Bool
  listening : Bool
  deriving DecidableEq

structure PairedDevice where
  deviceId : String
  noisePublicKey : Option PhoneKey
  revoked : Bool
  deriving DecidableEq

structure Hub where
  now : ℕ
  offers : String → Option PendingOffer
  approvals : String → Option ApprovalRequest
  decisions : String → Option Decision
  devices : List PairedDevice
  events : List RemoteEvent
  pairIds : List String
  uuids : List String

inductive Mode
  | pair
  | resume
  deriving DecidableEq

inductive Received
  | handshakeInit (mode : Mode) (phoneKey : PhoneKey) (pairId : Option String)
      (device : Option DeviceInfo)
  | opened (frame : Option Frame)
  | unfinished
  | unreadable
  | gone
  deriving DecidableEq

inductive HubInput
  | go
  | failed
  | timeout
  | decision
  | received (message : Received)
  | revoked
  | drawn (id : String)
  | elapsed (seconds : ℕ)
  | devices (devices : List PairedDevice)
  deriving DecidableEq

inductive Outcome
  | answered (approve : Bool)
  | timedOut
  | phoneGone
  | channelBroken
  deriving DecidableEq

inductive PairEnd
  | refused (code : CloseCode)
  | denied
  | notSaved (code : CloseCode)
  | phoneGone (code : Option CloseCode)
  | channelBroken
  | channelClosed (code : Option CloseCode)
  deriving DecidableEq

inductive PairStage
  | checkingOffer
  | responding
  | awaitingProof
  | consumingOffer
  | countingDevices
  | sendingPending
  | requesting
  | announcing (approval : ApprovalRequest)
  | awaiting (id : String) (deadline : ℕ)
  | leaving (id : String) (outcome : Outcome)
  | cancelling (id : String) (outcome : Outcome)
  | resolving (id : String) (outcome : Outcome)
  | decided (id : String) (outcome : Outcome)
  | registering (id : String)
  | sendingApproved (id : String) (deviceId : String)
  | running (id : String) (deviceId : String)
  | ended (how : PairEnd)
  deriving DecidableEq

structure Pairing where
  phoneKey : PhoneKey
  pairId : String
  device : DeviceInfo
  queued : List Frame
  stage : PairStage
  requested : List String
  registered : List String
  dispatched : List Frame

inductive ResumeStage
  | looking (phoneKey : PhoneKey)
  | responding (deviceId : String)
  | running (deviceId : String)
  | ended (code : Option CloseCode)
  deriving DecidableEq

inductive RespondPhase
  | looking
  | taken
  | delivered (delivered : Bool)
  | returned (delivered : Bool)
  deriving DecidableEq

inductive HubCall
  | clock
  | otherDevices
  | createOffer (ttl : ℕ)
  | offerCreated (pairId : String)
  | respondApproval (id : String) (approve : Bool) (phase : RespondPhase)
  | hello
  | refused (code : CloseCode)
  | resume (stage : ResumeStage)
  | pair (pairing : Pairing)

namespace Hub

def offerOpen (hub : Hub) (pairId : String) : Bool :=
  (hub.offers pairId).any fun offer => !offer.consumed && decide (hub.now < offer.expiresAt)

def consumeOffer (hub : Hub) (pairId : String) : Hub :=
  { hub with
    offers := Function.update hub.offers pairId
      ((hub.offers pairId).map fun offer => { offer with consumed := true }) }

def insertOffer (hub : Hub) (pairId : String) (ttl : ℕ) : Hub :=
  let retained := fun p => (hub.offers p).filter fun offer =>
    decide (hub.now < offer.expiresAt) && !offer.consumed
  { hub with
    offers := Function.update retained pairId (some ⟨hub.now + ttl, false⟩)
    pairIds := pairId :: hub.pairIds }

def requestApproval (hub : Hub) (approval : ApprovalRequest) : Hub :=
  { hub with
    approvals := Function.update hub.approvals approval.id (some approval)
    decisions := Function.update hub.decisions approval.id (some ⟨none, true⟩)
    uuids := approval.id :: hub.uuids }

def takeApproval (hub : Hub) (id : String) : Hub :=
  { hub with approvals := Function.update hub.approvals id none }

def emit (hub : Hub) (event : RemoteEvent) : Hub :=
  { hub with events := hub.events ++ [event] }

def setDecision (hub : Hub) (id : String) (decision : Decision) : Hub :=
  { hub with decisions := Function.update hub.decisions id (some decision) }

def dropReceiver (hub : Hub) (id : String) : Hub :=
  match hub.decisions id with
  | some decision => hub.setDecision id { decision with listening := false }
  | none => hub

def sent (hub : Hub) (id : String) : Option Bool :=
  (hub.decisions id).bind Decision.sent

def listening (hub : Hub) (id : String) : Bool :=
  (hub.decisions id).any Decision.listening

-- the rows are in the order in which they were created
def findRelayDevice (hub : Hub) (phoneKey : PhoneKey) : Option PairedDevice :=
  let found := (hub.devices.filter fun device => device.noisePublicKey = some phoneKey).reverse
  (found.find? fun device => !device.revoked).or found.head?

def activeDeviceCount (hub : Hub) : ℕ :=
  (hub.devices.filter fun device => !device.revoked).length

/-- The device id, or nothing where there are too many devices. `fresh` is a new uuid. -/
def registerRelayDevice (hub : Hub) (phoneKey : PhoneKey) (fresh : String) : Option (String × Hub) :=
  match (hub.findRelayDevice phoneKey).filter fun device => !device.revoked with
  | some existing => some (existing.deviceId, hub)
  | none =>
      if maxActiveDevices ≤ hub.activeDeviceCount then none
      else some (fresh, { hub with devices := hub.devices ++ [⟨fresh, some phoneKey, false⟩] })

end Hub

def approvalRequest (id : String) (device : DeviceInfo) : ApprovalRequest :=
  let name := trim device.name
  { id := id
    deviceName := if name = "" then "Unnamed device" else String.ofList (name.toList.take 80)
    platform := device.platform }

namespace Pairing

def goTo (pairing : Pairing) (stage : PairStage) : Pairing :=
  { pairing with stage := stage }

def finish (pairing : Pairing) (how : PairEnd) : Pairing :=
  pairing.goTo (.ended how)

def queue (pairing : Pairing) (frame : Option Frame) : Pairing :=
  { pairing with queued := pairing.queued ++ frame.toList }

def awaitApproval (hub : Hub) (pairing : Pairing) (id : String) (deadline : ℕ) :
    HubInput → Option Pairing
  | .decision => (hub.sent id).map fun answer => pairing.goTo (.leaving id (.answered answer))
  | .timeout => if deadline ≤ hub.now then some (pairing.goTo (.leaving id .timedOut)) else none
  | .received (.opened frame) =>
      if maxFramesBeforeApproval ≤ pairing.queued.length then
        some (pairing.goTo (.leaving id .channelBroken))
      else some (pairing.queue frame)
  | .received .unfinished => some pairing
  | .received .gone => some (pairing.goTo (.leaving id .phoneGone))
  | .received _ => some (pairing.goTo (.leaving id .channelBroken))
  | _ => none

def runChannel (pairing : Pairing) : HubInput → Option Pairing
  | .go =>
      match pairing.queued with
      | [] => none
      | frame :: frames => some { pairing with
          queued := frames, dispatched := pairing.dispatched ++ [frame] }
  | .received message =>
      match pairing.queued, message with
      | _ :: _, _ => none
      | [], .opened (some frame) => some { pairing with dispatched := pairing.dispatched ++ [frame] }
      | [], .unfinished => some pairing
      | [], .gone => some (pairing.finish (.channelClosed none))
      | [], _ => some (pairing.finish (.channelClosed (some .protocol)))
  | .failed => some (pairing.finish (.channelClosed none))
  | .revoked =>
      if pairing.queued = [] then some (pairing.finish (.channelClosed (some .revoked))) else none
  | _ => none

def next (hub : Hub) (pairing : Pairing) (input : HubInput) : Option (Hub × Pairing) :=
  match pairing.stage, input with
  | .checkingOffer, .go =>
      if hub.offerOpen pairing.pairId then some (hub, pairing.goTo .responding)
      else some (hub, pairing.finish (.refused .offerInvalid))
  | .responding, .go => some (hub, pairing.goTo .awaitingProof)
  | .responding, .failed => some (hub, pairing.finish (.refused .protocol))
  | .awaitingProof, .received (.opened frame) =>
      some (hub, (pairing.queue frame).goTo .consumingOffer)
  | .awaitingProof, .received .unfinished => some (hub, pairing.goTo .consumingOffer)
  | .awaitingProof, .received _ => some (hub, pairing.finish (.refused .protocol))
  | .awaitingProof, .timeout => some (hub, pairing.finish (.refused .protocol))
  | .consumingOffer, .go =>
      if hub.offerOpen pairing.pairId then
        some (hub.consumeOffer pairing.pairId, pairing.goTo .countingDevices)
      else some (hub, pairing.finish (.refused .offerInvalid))
  | .countingDevices, .go =>
      let alreadyPaired := (hub.findRelayDevice pairing.phoneKey).any fun device => !device.revoked
      if !alreadyPaired && decide (maxActiveDevices ≤ hub.activeDeviceCount) then
        some (hub, pairing.finish (.refused .deviceLimit))
      else some (hub, pairing.goTo .sendingPending)
  | .countingDevices, .failed => some (hub, pairing.finish (.refused .protocol))
  | .sendingPending, .go => some (hub, pairing.goTo .requesting)
  | .sendingPending, .failed => some (hub, pairing.finish (.refused .protocol))
  | .requesting, .drawn id =>
      -- a new uuid
      if id ∈ hub.uuids then none
      else
        let approval := approvalRequest id pairing.device
        some (hub.requestApproval approval, { pairing with
          stage := .announcing approval, requested := pairing.requested ++ [id] })
  | .announcing approval, .go =>
      some (hub.emit (.approvalRequested approval),
        pairing.goTo (.awaiting approval.id (hub.now + approvalTimeout)))
  | .awaiting id deadline, input =>
      (pairing.awaitApproval hub id deadline input).map fun pairing => (hub, pairing)
  | .leaving id outcome, .go => some (hub.dropReceiver id, pairing.goTo (.cancelling id outcome))
  | .cancelling id outcome, .go =>
      if (hub.approvals id).isSome then
        some (hub.takeApproval id, pairing.goTo (.resolving id outcome))
      else some (hub, pairing.goTo (.decided id outcome))
  | .resolving id outcome, .go =>
      some (hub.emit (.approvalResolved id false), pairing.goTo (.decided id outcome))
  | .decided id (.answered true), .go => some (hub, pairing.goTo (.registering id))
  | .decided _ .phoneGone, .go => some (hub, pairing.finish (.phoneGone none))
  | .decided _ .channelBroken, .go => some (hub, pairing.finish .channelBroken)
  | .decided _ _, .go => some (hub, pairing.finish .denied)
  | .registering id, .drawn fresh =>
      match hub.registerRelayDevice pairing.phoneKey fresh with
      | some (deviceId, hub) => some (hub, { pairing with
          stage := .sendingApproved id deviceId, registered := pairing.registered ++ [deviceId] })
      | none => some (hub, pairing.finish (.notSaved .deviceLimit))
  | .registering _, .failed => some (hub, pairing.finish (.notSaved .protocol))
  | .sendingApproved id deviceId, .go => some (hub, pairing.goTo (.running id deviceId))
  | .sendingApproved _ _, .failed => some (hub, pairing.finish (.phoneGone (some .protocol)))
  | .running _ _, input => (pairing.runChannel input).map fun pairing => (hub, pairing)
  | _, _ => none

end Pairing

def ResumeStage.next (hub : Hub) : ResumeStage → HubInput → Option ResumeStage
  | .looking phoneKey, .go =>
      match (hub.findRelayDevice phoneKey).filter fun device => !device.revoked with
      | some device => some (.responding device.deviceId)
      | none => some (.ended (some .unknownDevice))
  | .looking _, .failed => some (.ended (some .protocol))
  | .responding deviceId, .go => some (.running deviceId)
  | .responding _, .failed => some (.ended (some .protocol))
  | .running deviceId, .received (.opened (some _)) => some (.running deviceId)
  | .running deviceId, .received .unfinished => some (.running deviceId)
  | .running _, .received .gone => some (.ended none)
  | .running _, .received _ => some (.ended (some .protocol))
  | .running _, .failed => some (.ended none)
  | .running _, .revoked => some (.ended (some .revoked))
  | _, _ => none

def respondNext (hub : Hub) (id : String) (approve : Bool) :
    RespondPhase → HubInput → Option (Hub × RespondPhase)
  | .looking, .go =>
      if (hub.approvals id).isSome then some (hub.takeApproval id, .taken)
      else some (hub, .returned false)
  | .taken, .go =>
      if hub.listening id then some (hub.setDecision id ⟨some approve, true⟩, .delivered true)
      else some (hub, .delivered false)
  | .delivered delivered, .go =>
      some (hub.emit (.approvalResolved id (approve && delivered)), .returned delivered)
  | _, _ => none

def helloNext : HubInput → Option HubCall
  | .received (.handshakeInit .resume phoneKey _ _) => some (.resume (.looking phoneKey))
  | .received (.handshakeInit .pair phoneKey (some pairId) device) => some (.pair {
      phoneKey := phoneKey
      pairId := pairId
      device := device.getD ⟨"", none⟩
      queued := []
      stage := .checkingOffer
      requested := []
      registered := []
      dispatched := [] })
  | .received _ => some (.refused .protocol)
  | .timeout => some (.refused .protocol)
  | _ => none

def HubCall.next (hub : Hub) : HubCall → HubInput → Option (Hub × HubCall)
  | .clock, .elapsed seconds => some ({ hub with now := hub.now + seconds }, .clock)
  | .otherDevices, .devices devices => some ({ hub with devices := devices }, .otherDevices)
  | .createOffer ttl, .drawn pairId =>
      if pairId ∈ hub.pairIds then none
      else some (hub.insertOffer pairId ttl, .offerCreated pairId)
  | .respondApproval id approve phase, input =>
      (respondNext hub id approve phase input).map fun result =>
        (result.1, .respondApproval id approve result.2)
  | .hello, input => (helloNext input).map fun call => (hub, call)
  | .resume stage, input => (stage.next hub input).map fun stage => (hub, .resume stage)
  | .pair pairing, input => (pairing.next hub input).map fun result => (result.1, .pair result.2)
  | _, _ => none

def HubCall.begins : HubCall → Bool
  | .clock | .otherDevices | .createOffer _ | .hello | .respondApproval _ _ .looking => true
  | _ => false

def Hub.new : Hub where
  now := 0
  offers := fun _ => none
  approvals := fun _ => none
  decisions := fun _ => none
  devices := []
  events := []
  pairIds := []
  uuids := []

def remoteHub : System (Pool Hub HubCall) (PoolAction HubCall HubInput) Unit :=
  pool .new HubCall.begins HubCall.next

def Received.breaksWait (queued : List Frame) : Received → Bool
  | .opened _ => decide (maxFramesBeforeApproval ≤ queued.length)
  | .unfinished | .gone => false
  | .unreadable | .handshakeInit _ _ _ _ => true

/-- An approving answer is lost: the wait ends by the deadline or a broken channel with the answer there,
or the answer comes when the wait ended so and the receiver is not dropped yet. -/
def losesApproval (s : Pool Hub HubCall) : PoolAction HubCall HubInput → Bool
  | .enter _ => false
  | .advance i input =>
      match s.calls[i]? with
      | some (.pair pairing) =>
          match pairing.stage, input with
          | .awaiting id _, .timeout => decide (s.shared.sent id = some true)
          | .awaiting id _, .received message =>
              message.breaksWait pairing.queued && decide (s.shared.sent id = some true)
          | _, _ => false
      | some (.respondApproval id true .taken) => s.calls.any fun
          | .pair pairing => decide (pairing.stage = .leaving id .timedOut ∨
              pairing.stage = .leaving id .channelBroken)
          | _ => false
      | _ => false

abbrev attentiveHub : System (Pool Hub HubCall) (PoolAction HubCall HubInput) Unit :=
  remoteHub.restrict fun s action => !losesApproval s action

def PairStage.ContinuesApproved : PairStage → Prop
  | .announcing _ | .awaiting _ _ | .registering _ | .sendingApproved _ _ | .running _ _ => True
  | .leaving _ outcome | .cancelling _ outcome | .resolving _ outcome | .decided _ outcome =>
      outcome = .answered true ∨ outcome = .phoneGone
  | .ended (.notSaved _) | .ended (.phoneGone _) | .ended (.channelClosed _) => True
  | _ => False

def RemoteEvent.resolved : RemoteEvent → Option String
  | .approvalResolved id _ => some id
  | .approvalRequested _ => none

def HubCall.requestedFor (pairId : String) : HubCall → List String
  | .pair pairing => if pairing.pairId = pairId then pairing.requested else []
  | _ => []

def HubCall.registeredFor (pairId : String) : HubCall → List String
  | .pair pairing => if pairing.pairId = pairId then pairing.registered else []
  | _ => []

/-- A phone gets in only through its own approval. -/
structure OwnApproval (s : Pool Hub HubCall) : Prop where
  dispatched : ∀ pairing, .pair pairing ∈ s.calls → pairing.dispatched ≠ [] →
    ∃ id ∈ pairing.requested, s.shared.sent id = some true
  oneRequest : ∀ pairId, (s.calls.flatMap (HubCall.requestedFor pairId)).length ≤ 1
  oneDevice : ∀ pairId, (s.calls.flatMap (HubCall.registeredFor pairId)).length ≤ 1
  oneAnswer : (s.shared.events.filterMap RemoteEvent.resolved).Nodup
  approved : ∀ pairing id, .pair pairing ∈ s.calls → id ∈ pairing.requested →
    .approvalResolved id true ∈ s.shared.events → pairing.stage.ContinuesApproved

end DevCommandCenter.RemoteHub
