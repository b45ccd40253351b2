import DevCommandCenter.Library.Table
import DevCommandCenter.Library.Transition
import Mathlib.Data.Rat.Cast.CharZero

/-! The room of a relay: one control connection, phones, and the desktop's data connection for each
phone. -/

namespace DevCommandCenter.Relay

open Library

def maxFrameBytes : ℕ := 2 + 65535
def maxPhonesPerRoom : ℕ := 8
def maxBufferedFrames : ℕ := 16
def maxBufferedBytes : ℕ := 256 * 1024
def phoneFramesPerSecond : ℕ := 100
def phoneFrameBurst : ℕ := 300
def roomTtlMs : ℤ := 30 * 24 * 60 * 60 * 1000

namespace RelayClose

def desktopOffline : ℕ := 4603
def frameTooLarge : ℕ := 4613
def tooManyConnections : ℕ := 4629
def rateLimited : ℕ := 4628
def replaced : ℕ := 4609
def badFrame : ℕ := 4600

end RelayClose

/-- The numbers of the source are floats, these are exact. -/
structure TokenBucket where
  tokens : ℚ
  updatedAt : ℤ
  rate : ℚ
  burst : ℚ

def TokenBucket.new (rate burst : ℚ) (now : ℤ) : TokenBucket where
  tokens := burst
  updatedAt := now
  rate := rate
  burst := burst

def TokenBucket.take (now : ℤ) (bucket : TokenBucket) : Bool × TokenBucket :=
  let tokens := min bucket.burst (bucket.tokens + (now - bucket.updatedAt : ℤ) / 1000 * bucket.rate)
  if tokens < 1 then (false, { bucket with tokens := tokens, updatedAt := now })
  else (true, { bucket with tokens := tokens - 1, updatedAt := now })

def constantTimeEqual (a b : String) : Bool :=
  if a.length ≠ b.length then false
  else
    (a.toList.zip b.toList).foldl (fun diff pair => diff ||| (pair.1.toNat ^^^ pair.2.toNat)) 0 = 0

def forwardableCloseCode (code : ℕ) : ℕ :=
  if 4000 ≤ code ∧ code ≤ 4999 then code else 1000

def closeCodeFor (code : ℕ) : ℕ :=
  if code = 1000 ∨ (3000 ≤ code ∧ code ≤ 4999) then code else 1000

abbrev Frame := List UInt8

inductive Message
  | text (text : String)
  | binary (frame : Frame)
  deriving DecidableEq

inductive Attachment
  | control
  | phone (id : String)
  | data (id : String)
  | rejected
  deriving DecidableEq

/-- What `getWebSockets` looks for: a role, or a role and a connection id. -/
inductive Tag
  | control
  | phones
  | phone (id : String)
  | datas
  | data (id : String)
  | rejected
  deriving DecidableEq

def Attachment.tags : Attachment → List Tag
  | .control => [.control]
  | .phone id => [.phones, .phone id]
  | .data id => [.datas, .data id]
  | .rejected => [.rejected]

def Attachment.id? : Attachment → Option String
  | .phone id => some id
  | .data id => some id
  | _ => none

/-- `isOpen` until the socket closed or `close` was called on it, `ended` from its close event on. -/
structure Socket where
  attachment : Attachment
  isOpen : Bool
  ended : Bool
  deriving DecidableEq

structure Buffer where
  frames : List Frame
  bytes : ℕ
  deriving DecidableEq

structure Room where
  secretHash : Option String
  lastControlAt : Option ℤ
  alarmAt : Option ℤ
  sockets : List Socket
  buckets : Table String TokenBucket
  buffers : Table String Buffer

def Room.empty : Room where
  secretHash := none
  lastControlAt := none
  alarmAt := none
  sockets := []
  buckets := ∅
  buffers := ∅

inductive Effect
  | respond (status : ℕ) (body : String)
  | accept (socket : ℕ)
  | send (socket : ℕ) (message : Message)
  | close (socket : ℕ) (code : ℕ) (reason : String)
  deriving DecidableEq

def charUnits (c : Char) : ℕ :=
  if c.toNat < 0x10000 then 1 else 2

def sliceChars (n : ℕ) : List Char → List Char
  | [] => []
  | c :: rest => if charUnits c ≤ n then c :: sliceChars (n - charUnits c) rest else []

def sliceReason (reason : String) : String :=
  String.ofList (sliceChars 120 reason.toList)

namespace Room

def attachment (room : Room) (i : ℕ) : Option Attachment :=
  room.sockets[i]?.map Socket.attachment

def getWebSockets (room : Room) (tag : Tag) : List ℕ :=
  (List.range room.sockets.length).filter fun i =>
    room.sockets[i]?.any fun socket => socket.isOpen && decide (tag ∈ socket.attachment.tags)

def shut (closing : List ℕ) (room : Room) : Room :=
  { room with
    sockets := room.sockets.mapIdx fun i socket =>
      if i ∈ closing then { socket with isOpen := false } else socket }

def safeClose (closing : List ℕ) (code : ℕ) (reason : String) (room : Room) : List Effect × Room :=
  (closing.map fun i => .close i code (sliceReason reason), room.shut closing)

def accept (attachment : Attachment) (room : Room) : List Effect × Room :=
  ([.accept room.sockets.length],
    { room with
      sockets := room.sockets ++ [{ attachment := attachment, isOpen := true, ended := false }] })

def isRoomSecret (secret : String) : Bool :=
  decide (32 ≤ secret.length) && decide (secret.length ≤ 128) &&
    secret.toList.all fun c => c.isAlphanum || c = '_' || c = '-'

section Secrets

variable (sha256Hex : String → String)

def checkSecret (secret : Option String) (register : Bool) (room : Room) : Bool × Room :=
  let secret := secret.getD ""
  if !isRoomSecret secret then (false, room)
  else
    match room.secretHash with
    | none =>
        if !register then (false, room)
        else (true, { room with secretHash := some (sha256Hex secret) })
    | some stored => (constantTimeEqual stored (sha256Hex secret), room)

def replaceControl (now : ℤ) (room : Room) : List Effect × Room :=
  let (replaced, room) := room.safeClose (room.getWebSockets .control) RelayClose.replaced "replaced"
  let (offline, room) := room.safeClose (room.getWebSockets .phones ++ room.getWebSockets .datas)
    RelayClose.desktopOffline "desktop reconnected"
  let (accepted, room) := accept .control { room with
    buffers := ∅
    lastControlAt := some now
    alarmAt := some (now + roomTtlMs) }
  (replaced ++ offline ++ accepted, room)

def openControl (secret : Option String) (now : ℤ) (room : Room) : List Effect × Room :=
  let (allowed, room) := room.checkSecret sha256Hex secret true
  if !allowed then ([.respond 403 "forbidden"], room) else room.replaceControl now

def reject (code : ℕ) (reason : String) (room : Room) : List Effect × Room :=
  let (accepted, room) := room.accept .rejected
  let (closed, room) := room.safeClose (room.getWebSockets .rejected) code reason
  (accepted ++ closed, room)

def notice (type id : String) : Message :=
  .text ("\x7b\"type\":\"" ++ type ++ "\",\"connectionId\":\"" ++ id ++ "\"\x7d")

def freshBucket (now : ℤ) : TokenBucket :=
  .new phoneFramesPerSecond phoneFrameBurst now

def openPhone (id : String) (now : ℤ) (room : Room) : List Effect × Room :=
  match room.getWebSockets .control with
  | [] => room.reject RelayClose.desktopOffline "desktop offline"
  | control :: _ =>
      if maxPhonesPerRoom ≤ (room.getWebSockets .phones).length then
        room.reject RelayClose.tooManyConnections "too many connections"
      else
        let (accepted, room) := room.accept (.phone id)
        (accepted ++ [.send control (notice "connected" id)],
          { room with buckets := room.buckets.insert id (freshBucket now) })

def waiting (room : Room) (id : String) : List Frame :=
  ((room.buffers.lookup id).map Buffer.frames).getD []

def replaceData (id : String) (room : Room) : List Effect × Room :=
  let (replaced, room) :=
    room.safeClose (room.getWebSockets (.data id)) RelayClose.replaced "replaced"
  let (accepted, room) := room.accept (.data id)
  let flushed := ((room.getWebSockets (.data id)).take 1).flatMap fun data =>
    (room.waiting id).map fun frame => Effect.send data (.binary frame)
  (replaced ++ accepted ++ flushed, { room with buffers := room.buffers.erase id })

def openData (secret : Option String) (id : String) (room : Room) : List Effect × Room :=
  let (allowed, room) := room.checkSecret sha256Hex secret false
  if !allowed then ([.respond 403 "forbidden"], room)
  else if (room.getWebSockets (.phone id)).length = 0 then
    ([.respond 404 "no such connection"], room)
  else room.replaceData id

end Secrets

def bufferFrame (i : ℕ) (id : String) (frame : Frame) (room : Room) : List Effect × Room :=
  let buffer := (room.buffers.lookup id).getD { frames := [], bytes := 0 }
  if maxBufferedFrames ≤ buffer.frames.length ∨ maxBufferedBytes < buffer.bytes + frame.length then
    room.safeClose [i] RelayClose.rateLimited "desktop not ready"
  else
    let buffer := { frames := buffer.frames ++ [frame], bytes := buffer.bytes + frame.length }
    ([], { room with buffers := room.buffers.insert id buffer })

def fromPhone (i : ℕ) (id : String) (frame : Frame) (now : ℤ) (room : Room) : List Effect × Room :=
  let (taken, bucket) := ((room.buckets.lookup id).getD (freshBucket now)).take now
  let room := { room with buckets := room.buckets.insert id bucket }
  if !taken then room.safeClose [i] RelayClose.rateLimited "rate limited"
  else
    match room.getWebSockets (.data id) with
    | data :: _ => ([.send data (.binary frame)], room)
    | [] => room.bufferFrame i id frame

def fromData (id : String) (frame : Frame) (room : Room) : List Effect × Room :=
  ((room.getWebSockets (.phone id)).map fun phone => .send phone (.binary frame), room)

def takeMessage (i : ℕ) (message : Message) (forward : Frame → Room → List Effect × Room)
    (room : Room) : List Effect × Room :=
  match message with
  | .text _ => room.safeClose [i] RelayClose.badFrame "binary frames only"
  | .binary frame =>
      if maxFrameBytes < frame.length then
        room.safeClose [i] RelayClose.frameTooLarge "frame too large"
      else forward frame room

def webSocketMessage (i : ℕ) (message : Message) (now : ℤ) (room : Room) : List Effect × Room :=
  match room.attachment i with
  | none | some .control | some .rejected => ([], room)
  | some (.phone id) => room.takeMessage i message fun frame => fromPhone i id frame now
  | some (.data id) => room.takeMessage i message fun frame => fromData id frame

def closed (i : ℕ) (code : ℕ) (reason : String) (room : Room) : List Effect × Room :=
  match room.attachment i with
  | none | some .rejected => ([], room)
  | some .control =>
      if (room.getWebSockets .control).any (· ≠ i) then ([], room)
      else
        let (offline, room) := room.safeClose (room.getWebSockets .phones ++ room.getWebSockets .datas)
          RelayClose.desktopOffline "desktop offline"
        (offline, { room with buffers := ∅ })
  | some (.phone id) =>
      let room := { room with buckets := room.buckets.erase id, buffers := room.buffers.erase id }
      let (left, room) := room.safeClose (room.getWebSockets (.data id)) 1000 "phone left"
      (left ++ (room.getWebSockets .control).map fun control =>
        .send control (notice "disconnected" id), room)
  | some (.data id) =>
      room.safeClose (room.getWebSockets (.phone id)) (forwardableCloseCode code) reason

def webSocketClose (i : ℕ) (code : ℕ) (reason : String) (room : Room) : List Effect × Room :=
  let (effects, room) := room.closed i code reason
  let (answer, room) := room.safeClose [i] (closeCodeFor code) reason
  (effects ++ answer, room)

def webSocketError (i : ℕ) (room : Room) : List Effect × Room :=
  room.closed i 1011 ""

def alarm (now : ℤ) (room : Room) : List Effect × Room :=
  let lastControlAt := room.lastControlAt.getD 0
  if 0 < (room.getWebSockets .control).length then
    ([], { room with lastControlAt := some now, alarmAt := some (now + roomTtlMs) })
  else if roomTtlMs ≤ now - lastControlAt then
    ([], { room with secretHash := none, lastControlAt := none, alarmAt := none })
  else ([], { room with alarmAt := some (lastControlAt + roomTtlMs) })

end Room

/-- `dropped` is a connection that closed before its close event is handled. -/
inductive Event
  | openControl (secret : Option String) (now : ℤ)
  | openPhone (id : String) (now : ℤ)
  | openData (secret : Option String) (id : String)
  | message (i : ℕ) (message : Message) (now : ℤ)
  | dropped (i : ℕ)
  | webSocketClose (i : ℕ) (code : ℕ) (reason : String)
  | webSocketError (i : ℕ)
  | alarm (now : ℤ)
  deriving DecidableEq

namespace Room

def live (room : Room) (i : ℕ) : Bool :=
  room.sockets[i]?.any fun socket => !socket.ended

def finish (i : ℕ) (room : Room) : Room :=
  { room with
    sockets := room.sockets.modify i fun socket => { socket with isOpen := false, ended := true } }

end Room

/-- A room under every order of its events. Connection ids are never drawn twice. -/
def relay (sha256Hex : String → String) : System Room Event (List Effect) where
  start := .empty
  step room
    | .openControl secret now => some (room.openControl sha256Hex secret now)
    | .openPhone id now =>
        if room.sockets.any fun socket => socket.attachment.id? = some id then none
        else some (room.openPhone id now)
    | .openData secret id => some (room.openData sha256Hex secret id)
    | .message i message now =>
        if room.live i then some (room.webSocketMessage i message now) else none
    | .dropped i => if room.live i then some ([], room.shut [i]) else none
    | .webSocketClose i code reason =>
        if room.live i then some ((room.finish i).webSocketClose i code reason) else none
    | .webSocketError i => if room.live i then some ((room.finish i).webSocketError i) else none
    | .alarm now =>
        if room.alarmAt.any (· ≤ now) then some (room.alarm now) else none

end DevCommandCenter.Relay
