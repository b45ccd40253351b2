import DevCommandCenter.Library.Call
import Mathlib.Algebra.GroupWithZero.Nat
import Mathlib.Data.List.Infix

/-! The Noise engine of a phone: IK, and IK with a pre-shared key at the end of the second message. -/

namespace DevCommandCenter.Noise

open Library

abbrev Bytes : Type :=
  List UInt8

def pairPattern : String := "Noise_IKpsk2_25519_ChaChaPoly_SHA256"

def resumePattern : String := "Noise_IK_25519_ChaChaPoly_SHA256"

def dhLen : ℕ := 32
def hashLen : ℕ := 32
def tagLen : ℕ := 16
def maxNoiseMessage : ℕ := 65535

def maxSafeInteger : ℕ := 2 ^ 53 - 1

inductive Token
  | e
  | s
  | ee
  | es
  | se
  | ss
  | psk
  deriving DecidableEq

def messages : List (String × List (List Token)) :=
  [(resumePattern, [[.e, .es, .s, .ss], [.e, .ee, .se]]),
   (pairPattern, [[.e, .es, .s, .ss], [.e, .ee, .se, .psk]])]

structure KeyPair where
  privateKey : Bytes
  publicKey : Bytes
  deriving DecidableEq

structure Primitives where
  getPublicKey : Bytes → Bytes
  getSharedSecret : Bytes → Bytes → Bytes
  sha256 : Bytes → Bytes
  hmac : Bytes → Bytes → Bytes
  encrypt : (key nonce ad plaintext : Bytes) → Bytes
  decrypt : (key nonce ad ciphertext : Bytes) → Option Bytes
  utf8 : String → Bytes

variable (prim : Primitives)

def keyPairFromPrivate (privateKey : Bytes) : Except String KeyPair :=
  if privateKey.length ≠ dhLen then .error "private key must be 32 bytes"
  else .ok { privateKey := privateKey, publicKey := prim.getPublicKey privateKey }

def dh (keyPair : KeyPair) (publicKey : Bytes) : Bytes :=
  prim.getSharedSecret keyPair.privateKey publicKey

def hkdf2 (chainingKey ikm : Bytes) : Bytes × Bytes :=
  let temp := prim.hmac chainingKey ikm
  let out1 := prim.hmac temp [1]
  (out1, prim.hmac temp (out1 ++ [2]))

def hkdf3 (chainingKey ikm : Bytes) : Bytes × Bytes × Bytes :=
  let temp := prim.hmac chainingKey ikm
  let out1 := prim.hmac temp [1]
  let out2 := prim.hmac temp (out1 ++ [2])
  (out1, out2, prim.hmac temp (out2 ++ [3]))

def littleEndian32 (n : ℕ) : Bytes :=
  [UInt8.ofNat n, UInt8.ofNat (n / 2 ^ 8), UInt8.ofNat (n / 2 ^ 16), UInt8.ofNat (n / 2 ^ 24)]

def nonceBytes (n : ℕ) : Bytes :=
  [0, 0, 0, 0] ++ littleEndian32 (n % 2 ^ 32) ++ littleEndian32 (n / 2 ^ 32)

structure CipherState where
  key : Option Bytes
  nonce : ℕ
  deriving DecidableEq

def CipherState.new (key : Option Bytes) : CipherState where
  key := key
  nonce := 0

namespace CipherState

def hasKey (cipher : CipherState) : Bool :=
  cipher.key.isSome

def encryptWithAd (ad plaintext : Bytes) : Call CipherState String Bytes := do
  let cipher ← .read
  match cipher.key with
  | none => return plaintext
  | some key =>
      if cipher.nonce ≥ maxSafeInteger then .fail "nonce exhausted"
      else do
        .update fun cipher => { cipher with nonce := cipher.nonce + 1 }
        return prim.encrypt key (nonceBytes cipher.nonce) ad plaintext

def decryptWithAd (ad ciphertext : Bytes) : Call CipherState String Bytes := do
  let cipher ← .read
  match cipher.key with
  | none => return ciphertext
  | some key =>
      if cipher.nonce ≥ maxSafeInteger then .fail "nonce exhausted"
      else
        match prim.decrypt key (nonceBytes cipher.nonce) ad ciphertext with
        | none => .fail "noise: decrypt failed"
        | some plaintext => do
            .update fun cipher => { cipher with nonce := cipher.nonce + 1 }
            return plaintext

end CipherState

structure SymmetricState where
  chainingKey : Bytes
  hash : Bytes
  cipher : CipherState
  deriving DecidableEq

namespace SymmetricState

def new (protocolName : String) : SymmetricState :=
  let name := prim.utf8 protocolName
  let hash :=
    if name.length ≤ hashLen then name ++ List.replicate (hashLen - name.length) 0
    else prim.sha256 name
  { chainingKey := hash, hash := hash, cipher := .new none }

def mixKey (ikm : Bytes) (state : SymmetricState) : SymmetricState :=
  let (chainingKey, key) := hkdf2 prim state.chainingKey ikm
  { state with chainingKey := chainingKey, cipher := .new (some key) }

def mixHash (data : Bytes) (state : SymmetricState) : SymmetricState :=
  { state with hash := prim.sha256 (state.hash ++ data) }

def mixKeyAndHash (ikm : Bytes) (state : SymmetricState) : SymmetricState :=
  let (chainingKey, tempHash, key) := hkdf3 prim state.chainingKey ikm
  { mixHash prim tempHash { state with chainingKey := chainingKey } with cipher := .new (some key) }

def onCipher {α : Type} (call : Call CipherState String α) : Call SymmetricState String α :=
  fun state => ((call state.cipher).1, { state with cipher := (call state.cipher).2 })

def encryptAndHash (plaintext : Bytes) : Call SymmetricState String Bytes := do
  let state ← .read
  let ciphertext ← onCipher (CipherState.encryptWithAd prim state.hash plaintext)
  .update (mixHash prim ciphertext)
  return ciphertext

def decryptAndHash (ciphertext : Bytes) : Call SymmetricState String Bytes := do
  let state ← .read
  let plaintext ← onCipher (CipherState.decryptWithAd prim state.hash ciphertext)
  .update (mixHash prim ciphertext)
  return plaintext

def split (state : SymmetricState) : CipherState × CipherState :=
  let (k1, k2) := hkdf2 prim state.chainingKey []
  (.new (some k1), .new (some k2))

end SymmetricState

structure HandshakeOptions where
  protocolName : String
  initiator : Bool
  prologue : Bytes
  localStatic : KeyPair
  remoteStatic : Option Bytes
  psk : Option Bytes
  localEphemeral : Option KeyPair

structure TransportCiphers where
  send : CipherState
  receive : CipherState
  deriving DecidableEq

structure HandshakeState where
  symmetric : SymmetricState
  messages : List (List Token)
  initiator : Bool
  isPsk : Bool
  s : KeyPair
  e : Option KeyPair
  rs : Option Bytes
  re : Option Bytes
  psk : Option Bytes
  fixedEphemeral : Option KeyPair
  index : ℕ
  deriving DecidableEq

abbrev Handshake : Type → Type :=
  Call HandshakeState String

namespace HandshakeState

def new (options : HandshakeOptions) : Except String HandshakeState :=
  match (Noise.messages.find? fun entry => entry.1 = options.protocolName).map Prod.snd with
  | none => .error ("unsupported Noise protocol " ++ options.protocolName)
  | some messages =>
      if options.initiator = true ∧ options.remoteStatic = none then
        .error "IK initiator needs the responder key"
      else
        -- pre-message: the responder's static key
        let responder :=
          if options.initiator then options.remoteStatic.getD [] else options.localStatic.publicKey
        .ok {
          symmetric := ((SymmetricState.new prim options.protocolName).mixHash prim
            options.prologue).mixHash prim responder
          messages := messages
          initiator := options.initiator
          isPsk := decide ("psk".toList <:+: options.protocolName.toList)
          s := options.localStatic
          e := none
          rs := options.remoteStatic
          re := none
          psk := options.psk
          fixedEphemeral := options.localEphemeral
          index := 0 }

def remoteStatic (state : HandshakeState) : Option Bytes :=
  state.rs

def handshakeHash (state : HandshakeState) : Bytes :=
  state.symmetric.hash

def finished (state : HandshakeState) : Bool :=
  decide (state.messages.length ≤ state.index)

def myTurn (state : HandshakeState) : Bool :=
  decide (state.index % 2 = 0) == state.initiator

def onSymmetric {α : Type} (call : Call SymmetricState String α) : Handshake α :=
  fun state => ((call state.symmetric).1, { state with symmetric := (call state.symmetric).2 })

def need {α : Type} (token : String) (value : Option α) : Except String α :=
  match value with
  | some a => .ok a
  | none => .error ("noise: missing key for " ++ token)

def dhSecret (state : HandshakeState) : Token → Except String Bytes
  | .ee => do return dh prim (← need "ee" state.e) (← need "ee" state.re)
  | .es =>
      if state.initiator then do return dh prim (← need "es" state.e) (← need "es" state.rs)
      else do return dh prim state.s (← need "es" state.re)
  | .se =>
      if state.initiator then do return dh prim state.s (← need "se" state.re)
      else do return dh prim (← need "se" state.e) (← need "se" state.rs)
  | .ss => do return dh prim state.s (← need "ss" state.rs)
  | _ => .ok []

def mixDh (token : Token) : Handshake Unit := do
  let state ← .read
  let secret ← .liftExcept (dhSecret prim state token)
  onSymmetric (.update (SymmetricState.mixKey prim secret))

def mixPsk : Handshake Unit := do
  let state ← .read
  match state.psk with
  | none => .fail "noise: psk not set"
  | some psk => onSymmetric (.update (SymmetricState.mixKeyAndHash prim psk))

def mixEphemeral (publicKey : Bytes) : Handshake Unit := do
  let state ← .read
  onSymmetric (.update (SymmetricState.mixHash prim publicKey))
  if state.isPsk then onSymmetric (.update (SymmetricState.mixKey prim publicKey)) else return ()

-- `secret` is what `randomSecretKey` draws
def ephemeral (secret : Bytes) : Handshake KeyPair := do
  let state ← .read
  match state.fixedEphemeral with
  | some e => return e
  | none => .liftExcept (keyPairFromPrivate prim secret)

def writeToken (secret : Bytes) : Token → Handshake Bytes
  | .e => do
      let e ← ephemeral prim secret
      .update fun state => { state with e := some e }
      mixEphemeral prim e.publicKey
      return e.publicKey
  | .s => do
      let state ← .read
      onSymmetric (SymmetricState.encryptAndHash prim state.s.publicKey)
  | .psk => do
      mixPsk prim
      return []
  | token => do
      mixDh prim token
      return []

def writeTokens (secret : Bytes) : List Token → Handshake Bytes
  | [] => pure []
  | token :: rest => do
      let part ← writeToken prim secret token
      let parts ← writeTokens secret rest
      return part ++ parts

def writeMessage (secret payload : Bytes) : Handshake Bytes := do
  let state ← .read
  if state.finished = true ∨ state.myTurn = false then .fail "noise: not our turn to write"
  else do
    let parts ← writeTokens prim secret (state.messages.getD state.index [])
    let last ← onSymmetric (SymmetricState.encryptAndHash prim payload)
    .update fun state => { state with index := state.index + 1 }
    let message := parts ++ last
    if message.length > maxNoiseMessage then .fail "noise: message too large" else return message

def take (length : ℕ) (message : Bytes) : Except String (Bytes × Bytes) :=
  if length > message.length then .error "noise: message too short"
  else .ok (message.take length, message.drop length)

def readToken (message : Bytes) : Token → Handshake Bytes
  | .e => do
      let (re, rest) ← .liftExcept (take dhLen message)
      .update fun state => { state with re := some re }
      mixEphemeral prim re
      return rest
  | .s => do
      let state ← .read
      let length := if state.symmetric.cipher.hasKey then dhLen + tagLen else dhLen
      let (part, rest) ← .liftExcept (take length message)
      let rs ← onSymmetric (SymmetricState.decryptAndHash prim part)
      if state.rs.any (fun known => decide (known ≠ rs)) then .fail "noise: unexpected static key"
      else do
        .update fun state => { state with rs := some rs }
        return rest
  | .psk => do
      mixPsk prim
      return message
  | token => do
      mixDh prim token
      return message

def readTokens (message : Bytes) : List Token → Handshake Bytes
  | [] => pure message
  | token :: tokens => do
      let rest ← readToken prim message token
      readTokens rest tokens

def readMessage (message : Bytes) : Handshake Bytes := do
  let state ← .read
  if state.finished = true ∨ state.myTurn = true then .fail "noise: not our turn to read"
  else if message.length > maxNoiseMessage then .fail "noise: message too large"
  else do
    let rest ← readTokens prim message (state.messages.getD state.index [])
    let payload ← onSymmetric (SymmetricState.decryptAndHash prim rest)
    .update fun state => { state with index := state.index + 1 }
    return payload

def split (state : HandshakeState) : Except String TransportCiphers :=
  if state.finished = false then .error "noise: handshake not finished"
  else
    let (first, second) := state.symmetric.split prim
    .ok (if state.initiator then { send := first, receive := second }
      else { send := second, receive := first })

end HandshakeState

end DevCommandCenter.Noise
