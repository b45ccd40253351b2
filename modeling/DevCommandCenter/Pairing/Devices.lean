import DevCommandCenter.Library.Interleaving
import DevCommandCenter.Library.Table
import DevCommandCenter.Library.Text

/-! The table of paired devices and the calls on it, each a sequence of atomic SQL statements on a
connection of its own. -/

namespace DevCommandCenter.Pairing

open Library

def maxActiveDevices : ℕ := 10

structure PairedDevice where
  deviceId : String
  deviceName : String
  userAgent : Option String
  createdAt : String
  lastUsedAt : Option String
  lastIp : Option String
  revokedAt : Option String
  noisePublicKey : Option (List UInt8)
  pushToken : Option String
  pushPlatform : Option String
  pushTokenExpiresAt : Option String
  deriving DecidableEq

def PairedDevice.active (device : PairedDevice) : Bool :=
  device.revokedAt.isNone

abbrev PairedDevices : Type :=
  KeyedRows String PairedDevice PairedDevice.deviceId

structure RelayDevice where
  deviceId : String
  deviceName : String
  revoked : Bool
  deriving DecidableEq

inductive PairingError
  | database
  | deviceLimitReached
  deriving DecidableEq

def sanitizeDeviceName (name : String) : String :=
  let trimmed := ((name.toList.dropWhile isWhitespace).reverse.dropWhile isWhitespace).reverse
  if trimmed = [] then "Unnamed device" else String.ofList (trimmed.take 80)

def relayOrder (a b : PairedDevice) : Bool :=
  decide (a.active = true ∧ b.active = false ∨ a.active = b.active ∧ b.createdAt ≤ a.createdAt)

def findRelayDevice (devices : PairedDevices) (publicKey : List UInt8) : Option RelayDevice :=
  let found := devices.rows.filter fun device => device.noisePublicKey = some publicKey
  (found.mergeSort relayOrder).head?.map fun device =>
    { deviceId := device.deviceId, deviceName := device.deviceName, revoked := !device.active }

def activeDeviceCount (devices : PairedDevices) : ℕ :=
  devices.rows.countP PairedDevice.active

structure PushLease where
  deviceId : String
  token : String
  platform : Option String
  expiresAt : String
  deriving DecidableEq

structure RelayPhone where
  publicKey : List UInt8
  deviceName : String
  platform : Option String
  deriving DecidableEq

inductive PairingResult
  | registered (deviceId : String)
  | changed (changed : Bool)
  | tokenSet (isNew : Option Bool)
  | failed (error : PairingError)
  deriving DecidableEq

inductive PairingCall
  | finding (phone : RelayPhone)
  | updating (phone : RelayPhone) (deviceId : String)
  | counting (phone : RelayPhone)
  | inserting (phone : RelayPhone)
  | revoking (deviceId : String)
  | readingToken (lease : PushLease)
  | takingToken (lease : PushLease) (previous : Option String)
  | storingToken (lease : PushLease) (previous : Option String)
  | clearingToken (deviceId : String)
  | returned (result : PairingResult)
  deriving DecidableEq

def registerRelayDevice (publicKey : List UInt8) (deviceName : String) (platform : Option String) :
    PairingCall :=
  .finding {
    publicKey := publicKey, deviceName := sanitizeDeviceName deviceName, platform := platform }

def revokeDevice (deviceId : String) : PairingCall :=
  .revoking deviceId

def setPushToken (deviceId token : String) (platform : Option String) (expiresAt : String) :
    PairingCall :=
  .readingToken { deviceId := deviceId, token := token, platform := platform, expiresAt := expiresAt }

def clearPushToken (deviceId : String) : PairingCall :=
  .clearingToken deviceId

def PairingCall.enters : PairingCall → Bool
  | .finding _ | .revoking _ | .readingToken _ | .clearingToken _ => true
  | _ => false

def PairedDevice.withoutToken (device : PairedDevice) : PairedDevice :=
  { device with pushToken := none, pushPlatform := none, pushTokenExpiresAt := none }

def RelayPhone.device (phone : RelayPhone) (deviceId now : String) : PairedDevice where
  deviceId := deviceId
  deviceName := phone.deviceName
  userAgent := phone.platform
  createdAt := now
  lastUsedAt := some now
  lastIp := none
  revokedAt := none
  noisePublicKey := some phone.publicKey
  pushToken := none
  pushPlatform := none
  pushTokenExpiresAt := none

def rename (devices : PairedDevices) (phone : RelayPhone) (deviceId now : String) : PairedDevices :=
  devices.updateWhere (fun device => device.deviceId = deviceId)
    (fun device => { device with
      deviceName := phone.deviceName, userAgent := phone.platform, lastUsedAt := some now })
    fun _ => rfl

def revokes (deviceId : String) (device : PairedDevice) : Bool :=
  decide (device.deviceId = deviceId) && device.active

def revoke (devices : PairedDevices) (deviceId now : String) : PairedDevices :=
  devices.updateWhere (revokes deviceId)
    (fun device => { device.withoutToken with revokedAt := some now }) fun _ => rfl

def previousToken (devices : PairedDevices) (deviceId : String) : Option (Option String) :=
  (devices.rows.find? fun device => decide (device.deviceId = deviceId) && device.active &&
    device.noisePublicKey.isSome).map PairedDevice.pushToken

def takeToken (devices : PairedDevices) (lease : PushLease) : PairedDevices :=
  devices.updateWhere
    (fun device => device.pushToken = some lease.token ∧ device.deviceId ≠ lease.deviceId)
    PairedDevice.withoutToken fun _ => rfl

def storeToken (devices : PairedDevices) (lease : PushLease) : PairedDevices :=
  devices.updateWhere (fun device => device.deviceId = lease.deviceId)
    (fun device => { device with
      pushToken := some lease.token
      pushPlatform := lease.platform
      pushTokenExpiresAt := some lease.expiresAt })
    fun _ => rfl

def clears (deviceId : String) (device : PairedDevice) : Bool :=
  decide (device.deviceId = deviceId) && device.pushToken.isSome

def clearToken (devices : PairedDevices) (deviceId : String) : PairedDevices :=
  devices.updateWhere (clears deviceId) PairedDevice.withoutToken fun _ => rfl

/-- What a statement reads beside the table: the time and the id drawn, or that it fails. -/
inductive StatementInput
  | runs (now drawnId : String)
  | fails

def PairingCall.runStatement (devices : PairedDevices) (now drawnId : String) :
    PairingCall → Option (PairedDevices × PairingCall)
  | .finding phone =>
      match (findRelayDevice devices phone.publicKey).filter fun found => !found.revoked with
      | some existing => some (devices, .updating phone existing.deviceId)
      | none => some (devices, .counting phone)
  | .updating phone deviceId =>
      some (rename devices phone deviceId now, .returned (.registered deviceId))
  | .counting phone =>
      if activeDeviceCount devices ≥ maxActiveDevices then
        some (devices, .returned (.failed .deviceLimitReached))
      else some (devices, .inserting phone)
  | .inserting phone =>
      match devices.insert (phone.device drawnId now) with
      | some devices => some (devices, .returned (.registered drawnId))
      | none => some (devices, .returned (.failed .database))
  | .revoking deviceId =>
      some (revoke devices deviceId now,
        .returned (.changed (decide (devices.changed (revokes deviceId) > 0))))
  | .readingToken lease =>
      match previousToken devices lease.deviceId with
      | some previous => some (devices, .takingToken lease previous)
      | none => some (devices, .returned (.tokenSet none))
  | .takingToken lease previous => some (takeToken devices lease, .storingToken lease previous)
  | .storingToken lease previous =>
      some (storeToken devices lease,
        .returned (.tokenSet (some (decide (previous ≠ some lease.token)))))
  | .clearingToken deviceId =>
      some (clearToken devices deviceId,
        .returned (.changed (decide (devices.changed (clears deviceId) > 0))))
  | .returned _ => none

-- a statement that fails changes nothing and ends its call
def PairingCall.next (devices : PairedDevices) :
    PairingCall → StatementInput → Option (PairedDevices × PairingCall)
  | .returned _, _ => none
  | call, .runs now drawnId => call.runStatement devices now drawnId
  | _, .fails => some (devices, .returned (.failed .database))

def pairing (initial : PairedDevices) :
    System (Pool PairedDevices PairingCall) (PoolAction PairingCall StatementInput) Unit :=
  pool initial PairingCall.enters PairingCall.next

end DevCommandCenter.Pairing
