import DevCommandCenter.Library.Checks
import DevCommandCenter.Library.FormUrl
import DevCommandCenter.Remote.Encodings

/-! The link of a pairing code, as the desktop and the phone write and read it. -/

namespace DevCommandCenter.Remote

open Library

structure PairingOffer where
  relay : List Char
  room : List Char
  desktopPublic : List Octet
  otp : List Octet
  deriving DecidableEq

def offerSchemePrefix : List Char :=
  "dcc://pair#".toList

def keyLen : ℕ := 32

def otpLen : ℕ := 16

structure Params where
  version : Option (List Char)
  relay : Option (List Char)
  room : Option (List Char)
  pk : Option (List Char)
  otp : Option (List Char)
  deriving DecidableEq

def isWebSocket (relay : List Char) : Bool :=
  "wss://".toList <+: relay ∨ "ws://".toList <+: relay

section Desktop

def Params.assign (params : Params) (pair : List Char × List Char) : Params :=
  if pair.1 = "v".toList then { params with version := some pair.2 }
  else if pair.1 = "relay".toList then { params with relay := some pair.2 }
  else if pair.1 = "room".toList then { params with room := some pair.2 }
  else if pair.1 = "pk".toList then { params with pk := some pair.2 }
  else if pair.1 = "otp".toList then { params with otp := some pair.2 }
  else params

def isRoomByte (b : Octet) : Bool :=
  (0x41 ≤ b.val ∧ b.val ≤ 0x5A) ∨ (0x61 ≤ b.val ∧ b.val ≤ 0x7A) ∨ (0x30 ≤ b.val ∧ b.val ≤ 0x39) ∨
    b.val = 0x2D ∨ b.val = 0x5F

def isValidRoomId (room : List Char) : Bool :=
  (Utf8.encode room).length = 22 ∧ (Utf8.encode room).all isRoomByte

def decodeFixed (n : ℕ) (value : Option (List Char)) (error : String) : Except RemoteError (List Octet) :=
  match value with
  | none => .error (.offer error)
  | some text =>
      match Base64.decode urlSafe text with
      | none => .error (.offer error)
      | some bytes => if bytes.length = n then .ok bytes else .error (.offer error)

namespace PairingOffer

def toUrl (offer : PairingOffer) : List Char :=
  offerSchemePrefix ++ FormUrl.serialize
    [("v".toList, "1".toList), ("relay".toList, offer.relay), ("room".toList, offer.room),
      ("pk".toList, Base64.encode urlSafe offer.desktopPublic), ("otp".toList, Base64.encode urlSafe offer.otp)]

def ofParams (params : Params) : Except RemoteError PairingOffer :=
  if params.version ≠ some "1".toList then .error (.offer "unsupported version")
  else
    match params.relay with
    | none => .error (.offer "missing relay")
    | some relay =>
        if ¬isWebSocket relay then .error (.offer "relay must be a WebSocket URL")
        else
          match params.room with
          | none => .error (.offer "missing room")
          | some room =>
              if ¬isValidRoomId room then .error (.offer "invalid room")
              else do
                let desktopPublic ← decodeFixed keyLen params.pk "invalid pk"
                let otp ← decodeFixed otpLen params.otp "invalid otp"
                return ⟨relay, room, desktopPublic, otp⟩

def parse (url : List Char) : Except RemoteError PairingOffer :=
  if offerSchemePrefix <+: url then
    ofParams ((FormUrl.parse (url.drop offerSchemePrefix.length)).foldl Params.assign ⟨none, none, none, none, none⟩)
  else .error (.offer "not a dcc://pair link")

end PairingOffer

end Desktop

namespace Phone

def searchParams (init : List Char) : List (List Char × List Char) :=
  FormUrl.parse (if init.head? = some '?' then init.tail else init)

def get (params : List (List Char × List Char)) (name : String) : Option (List Char) :=
  (params.find? fun pair => pair.1 = name.toList).map Prod.snd

def isValidRoomId (room : List Char) : Bool :=
  room.length = 22 ∧ room.all isBase64Url

def ofParams (params : Params) : Except String PairingOffer :=
  if params.version ≠ some "1".toList then .error "unsupported pairing link version"
  else
    let relay := params.relay.getD []
    if ¬isWebSocket relay then .error "relay must be a WebSocket URL"
    else
      let room := params.room.getD []
      if ¬isValidRoomId room then .error "invalid room"
      else do
        let desktopPublicKey ← fromBase64Url (params.pk.getD [])
        if desktopPublicKey.length ≠ 32 then .error "invalid pk"
        else do
          let otp ← fromBase64Url (params.otp.getD [])
          if otp.length ≠ 16 then .error "invalid otp"
          else return ⟨relay, room, desktopPublicKey, otp⟩

def firstParams (params : List (List Char × List Char)) : Params :=
  ⟨get params "v", get params "relay", get params "room", get params "pk", get params "otp"⟩

def parsePairingOffer (url : List Char) : Except String PairingOffer :=
  if offerSchemePrefix <+: url then
    ofParams (firstParams (searchParams (url.drop offerSchemePrefix.length)))
  else .error "not a dcc://pair link"

def formatPairingOffer (offer : PairingOffer) : List Char :=
  offerSchemePrefix ++ FormUrl.serialize
    [("v".toList, "1".toList), ("relay".toList, offer.relay), ("room".toList, offer.room),
      ("pk".toList, toBase64Url offer.desktopPublic), ("otp".toList, toBase64Url offer.otp)]

end Phone

def keyBytes (text : List Char) : List Octet :=
  Base64.wholeOctets ((Base64.digits urlSafe text).getD [])

def isKey (n : ℕ) (text : List Char) : Bool :=
  text.all isBase64Url ∧ text.length % 4 ≠ 1 ∧ text.length * 3 / 4 = n

def noBitsLeft (text : List Char) : Bool :=
  Base64.leftover ((Base64.digits urlSafe text).getD []) = 0

namespace Params

def isWellFormed (params : Params) : Bool :=
  params.version = some "1".toList ∧ params.relay.any isWebSocket ∧ params.room.any Phone.isValidRoomId ∧
    params.pk.any (isKey keyLen) ∧ params.otp.any (isKey otpLen)

def isExact (params : Params) : Bool :=
  params.pk.all noBitsLeft ∧ params.otp.all noBitsLeft

def offer (params : Params) : PairingOffer :=
  ⟨params.relay.getD [], params.room.getD [], keyBytes (params.pk.getD []), keyBytes (params.otp.getD [])⟩

end Params

section Keys

variable {n : ℕ} {text : List Char} {bytes : List Octet} {ds : List Base64.Digit}

lemma isKey_digits : isKey n (ds.map urlSafe.digit) = true ↔ ds.length % 4 ≠ 1 ∧ ds.length * 3 / 4 = n := by
  have hall : (ds.map urlSafe.digit).all isBase64Url = true := (all_isBase64Url _).mpr ⟨ds, rfl⟩
  rw [isKey, decide_eq_true_iff, List.length_map]
  exact ⟨fun h => h.2, fun h => ⟨hall, h⟩⟩

lemma keyBytes_digits : keyBytes (ds.map urlSafe.digit) = Base64.wholeOctets ds := by
  rw [keyBytes, Base64.digits_eq_some.mpr rfl, Option.getD_some]

lemma noBitsLeft_digits : noBitsLeft (ds.map urlSafe.digit) = true ↔ Base64.leftover ds = 0 := by
  rw [noBitsLeft, Base64.digits_eq_some.mpr rfl, Option.getD_some, decide_eq_true_iff]

lemma fromBase64Url_key : (fromBase64Url text = .ok bytes ∧ bytes.length = n) ↔
    isKey n text = true ∧ keyBytes text = bytes := by
  rw [fromBase64Url_eq_ok]
  constructor
  · rintro ⟨⟨ds, rfl, hlength, rfl⟩, hn⟩
    rw [Base64.length_wholeOctets] at hn
    exact ⟨isKey_digits.mpr ⟨hlength, hn⟩, keyBytes_digits⟩
  · rintro ⟨hkey, rfl⟩
    obtain ⟨ds, rfl⟩ := (all_isBase64Url text).mp (of_decide_eq_true hkey).1
    obtain ⟨hlength, hn⟩ := isKey_digits.mp hkey
    rw [keyBytes_digits, Base64.length_wholeOctets]
    exact ⟨⟨ds, rfl, hlength, rfl⟩, hn⟩

lemma decode_key : (Base64.decode urlSafe text = some bytes ∧ bytes.length = n) ↔
    isKey n text = true ∧ noBitsLeft text = true ∧ keyBytes text = bytes := by
  rw [Base64.decode_eq_some, Base64.encode]
  constructor
  · rintro ⟨rfl, hn⟩
    obtain ⟨hlength, hleftover⟩ := Base64.length_sextets bytes
    have hwhole := Base64.wholeOctets_sextets bytes
    refine ⟨isKey_digits.mpr ⟨hlength, ?_⟩, noBitsLeft_digits.mpr hleftover, by rw [keyBytes_digits, hwhole]⟩
    rw [← Base64.length_wholeOctets, hwhole, hn]
  · rintro ⟨hkey, hleft, rfl⟩
    obtain ⟨ds, rfl⟩ := (all_isBase64Url text).mp (of_decide_eq_true hkey).1
    obtain ⟨hlength, hn⟩ := isKey_digits.mp hkey
    rw [keyBytes_digits, Base64.length_wholeOctets,
      Base64.sextets_wholeOctets hlength (noBitsLeft_digits.mp hleft)]
    exact ⟨rfl, hn⟩

lemma decodeFixed_eq_ok {value : Option (List Char)} {error : String} : decodeFixed n value error = .ok bytes ↔
    value.any (isKey n) = true ∧ value.all noBitsLeft = true ∧ keyBytes (value.getD []) = bytes := by
  cases value with
  | none =>
      constructor
      · rintro ⟨⟩
      · rintro ⟨⟨⟩, -⟩
  | some text =>
      rw [Option.any_some, Option.all_some, Option.getD_some, ← decode_key, decodeFixed]
      cases Base64.decode urlSafe text with
      | none =>
          constructor
          · rintro ⟨⟩
          · rintro ⟨⟨⟩, -⟩
      | some bytes' =>
          dsimp only
          split
          · next hn =>
              constructor
              · rintro ⟨rfl⟩
                exact ⟨rfl, hn⟩
              · rintro ⟨⟨rfl⟩, -⟩
                rfl
          · next hn =>
              constructor
              · rintro ⟨⟩
              · rintro ⟨⟨rfl⟩, hlength⟩
                exact absurd hlength hn

end Keys

section Rooms

lemma isBase64Url_eq (c : Char) : isBase64Url c = true ↔ (0x41 ≤ c.toNat ∧ c.toNat ≤ 0x5A) ∨
    (0x61 ≤ c.toNat ∧ c.toNat ≤ 0x7A) ∨ (0x30 ≤ c.toNat ∧ c.toNat ≤ 0x39) ∨ c.toNat = 0x5F ∨ c.toNat = 0x2D := by
  have hunderscore : c = '_' ↔ c.toNat = 0x5F := Char.toNat_inj.symm
  have hdash : c = '-' ↔ c.toNat = 0x2D := Char.toNat_inj.symm
  rw [isBase64Url, decide_eq_true_iff, hunderscore, hdash]
  rfl

lemma isRoomByte_iff (b : Octet) : isRoomByte b = true ↔ (0x41 ≤ b.val ∧ b.val ≤ 0x5A) ∨
    (0x61 ≤ b.val ∧ b.val ≤ 0x7A) ∨ (0x30 ≤ b.val ∧ b.val ≤ 0x39) ∨ b.val = 0x2D ∨ b.val = 0x5F :=
  decide_eq_true_iff

lemma exists_encodeChar (c : Char) : ∃ lead tail, Utf8.encodeChar c = lead :: tail ∧
    (c.toNat ≤ 0x7F ∧ lead.val = c.toNat ∧ tail = [] ∨ 0x7F < c.toNat ∧ 0x7F < lead.val) := by
  rcases Nat.lt_or_ge 0x7F c.toNat with h1 | h1
  · rcases Nat.lt_or_ge 0x7FF c.toNat with h2 | h2
    · rcases Nat.lt_or_ge 0xFFFF c.toNat with h3 | h3
      · obtain ⟨a, b, d, e, heq, ha, -⟩ := Utf8.encodeChar_four h3
        exact ⟨a, [b, d, e], heq, .inr ⟨h1, by omega⟩⟩
      · obtain ⟨a, b, d, heq, ha, -⟩ := Utf8.encodeChar_three h2 h3
        exact ⟨a, [b, d], heq, .inr ⟨h1, by omega⟩⟩
    · obtain ⟨a, b, heq, ha, -⟩ := Utf8.encodeChar_two h1 h2
      exact ⟨a, [b], heq, .inr ⟨h1, by omega⟩⟩
  · obtain ⟨a, heq, ha⟩ := Utf8.encodeChar_one h1
    exact ⟨a, [], heq, .inl ⟨h1, ha, rfl⟩⟩

lemma all_isRoomByte (room : List Char) : (Utf8.encode room).all isRoomByte = room.all isBase64Url ∧
    (room.all isBase64Url = true → (Utf8.encode room).length = room.length) := by
  induction room with
  | nil => exact ⟨rfl, fun _ => rfl⟩
  | cons c room ih =>
      obtain ⟨lead, tail, hchar, hcases⟩ := exists_encodeChar c
      have hencode : Utf8.encode (c :: room) = (lead :: tail) ++ Utf8.encode room := by
        rw [← hchar]
        rfl
      rw [hencode, List.cons_append, List.all_cons, List.all_cons]
      rcases hcases with ⟨hc, hlead, rfl⟩ | ⟨hc, hlead⟩
      · have hsame : isRoomByte lead = isBase64Url c := by
          rw [Bool.eq_iff_iff, isBase64Url_eq, isRoomByte_iff, hlead]
          omega
        rw [List.nil_append, hsame, ih.1, Bool.and_eq_true]
        refine ⟨rfl, fun h => ?_⟩
        rw [List.length_cons, List.length_cons, ih.2 h.2]
      · have hbyte : isRoomByte lead = false := by
          rw [Bool.eq_false_iff, ne_eq, isRoomByte_iff]
          omega
        have hdigit : isBase64Url c = false := by
          rw [Bool.eq_false_iff, ne_eq, isBase64Url_eq]
          omega
        rw [hbyte, hdigit]
        exact ⟨rfl, fun h => by cases h⟩

lemma isValidRoomId_eq (room : List Char) : isValidRoomId room = Phone.isValidRoomId room := by
  obtain ⟨hall, hlength⟩ := all_isRoomByte room
  rw [isValidRoomId, Phone.isValidRoomId, hall, Bool.eq_iff_iff, decide_eq_true_iff, decide_eq_true_iff]
  constructor
  · rintro ⟨h, hroom⟩
    exact ⟨by rw [← hlength hroom, h], hroom⟩
  · rintro ⟨h, hroom⟩
    exact ⟨by rw [hlength hroom, h], hroom⟩

end Rooms

section Parsing

variable {params : Params} {offer : PairingOffer}

lemma Params.isWellFormed_iff : params.isWellFormed = true ↔ params.version = some "1".toList ∧
    params.relay.any isWebSocket = true ∧ params.room.any Phone.isValidRoomId = true ∧
    params.pk.any (isKey keyLen) = true ∧ params.otp.any (isKey otpLen) = true :=
  decide_eq_true_iff

lemma Params.isExact_iff : params.isExact = true ↔
    params.pk.all noBitsLeft = true ∧ params.otp.all noBitsLeft = true :=
  decide_eq_true_iff

lemma PairingOffer.ofParams_eq_ok : PairingOffer.ofParams params = .ok offer ↔
    params.isWellFormed = true ∧ params.isExact = true ∧ params.offer = offer := by
  rw [Params.isWellFormed_iff, Params.isExact_iff, PairingOffer.ofParams, Params.offer]
  split
  · next hversion =>
      constructor
      · rintro ⟨⟩
      · rintro ⟨⟨h, -⟩, -⟩
        exact absurd h hversion
  · next hversion =>
      cases hrelay : params.relay with
      | none =>
          constructor
          · rintro ⟨⟩
          · rintro ⟨⟨-, ⟨⟩, -⟩, -⟩
      | some relay =>
          dsimp only
          rw [Option.any_some, Option.getD_some]
          split
          · next hsocket =>
              constructor
              · rintro ⟨⟩
              · rintro ⟨⟨-, h, -⟩, -⟩
                exact absurd h hsocket
          · next hsocket =>
              cases hroom : params.room with
              | none =>
                  constructor
                  · rintro ⟨⟩
                  · rintro ⟨⟨-, -, ⟨⟩, -⟩, -⟩
              | some room =>
                  dsimp only
                  rw [Option.any_some, Option.getD_some, isValidRoomId_eq]
                  split
                  · next hvalid =>
                      constructor
                      · rintro ⟨⟩
                      · rintro ⟨⟨-, -, h, -⟩, -⟩
                        exact absurd h hvalid
                  · next hvalid =>
                      simp only [except_bind_eq_ok, decodeFixed_eq_ok]
                      constructor
                      · rintro ⟨pk, ⟨hpk, hpkLeft, rfl⟩, otp, ⟨hotp, hotpLeft, rfl⟩, ⟨rfl⟩⟩
                        exact ⟨⟨not_ne_iff.mp hversion, not_not.mp hsocket, not_not.mp hvalid, hpk, hotp⟩,
                          ⟨hpkLeft, hotpLeft⟩, rfl⟩
                      · rintro ⟨⟨-, -, -, hpk, hotp⟩, ⟨hpkLeft, hotpLeft⟩, rfl⟩
                        exact ⟨_, ⟨hpk, hpkLeft, rfl⟩, _, ⟨hotp, hotpLeft, rfl⟩, rfl⟩

lemma Phone.ofParams_eq_ok : Phone.ofParams params = .ok offer ↔
    params.isWellFormed = true ∧ params.offer = offer := by
  have hnone : ∀ (value : Option (List Char)) (valid : List Char → Bool), valid [] = false →
      valid (value.getD []) = value.any valid := by
    intro value valid hvalid
    cases value with
    | none => exact hvalid
    | some text => rfl
  rw [Params.isWellFormed_iff, Phone.ofParams, Params.offer]
  dsimp only
  rw [hnone params.relay isWebSocket rfl, hnone params.room Phone.isValidRoomId rfl,
    ← hnone params.pk (isKey keyLen) rfl, ← hnone params.otp (isKey otpLen) rfl]
  split
  · next hversion =>
      constructor
      · rintro ⟨⟩
      · rintro ⟨⟨h, -⟩, -⟩
        exact absurd h hversion
  · next hversion =>
      split
      · next hsocket =>
          constructor
          · rintro ⟨⟩
          · rintro ⟨⟨-, h, -⟩, -⟩
            exact absurd h hsocket
      · next hsocket =>
          split
          · next hvalid =>
              constructor
              · rintro ⟨⟩
              · rintro ⟨⟨-, -, h, -⟩, -⟩
                exact absurd h hvalid
          · next hvalid =>
              rw [except_bind_eq_ok]
              constructor
              · rintro ⟨pk, hpk, h⟩
                split at h
                · cases h
                · next hpkLength =>
                    obtain ⟨otp, hotp, h⟩ := except_bind_eq_ok.mp h
                    split at h
                    · cases h
                    · next hotpLength =>
                        cases h
                        obtain ⟨hpkKey, rfl⟩ := fromBase64Url_key.mp ⟨hpk, not_ne_iff.mp hpkLength⟩
                        obtain ⟨hotpKey, rfl⟩ := fromBase64Url_key.mp ⟨hotp, not_ne_iff.mp hotpLength⟩
                        exact ⟨⟨not_ne_iff.mp hversion, not_not.mp hsocket, not_not.mp hvalid, hpkKey, hotpKey⟩, rfl⟩
              · rintro ⟨⟨-, -, -, hpk, hotp⟩, rfl⟩
                obtain ⟨hpk, (hpkLength : (keyBytes _).length = 32)⟩ := fromBase64Url_key.mpr ⟨hpk, rfl⟩
                obtain ⟨hotp, (hotpLength : (keyBytes _).length = 16)⟩ := fromBase64Url_key.mpr ⟨hotp, rfl⟩
                refine ⟨_, hpk, ?_⟩
                rw [if_neg (not_ne_iff.mpr hpkLength)]
                refine except_bind_eq_ok.mpr ⟨_, hotp, ?_⟩
                rw [if_neg (not_ne_iff.mpr hotpLength)]
                rfl

end Parsing

def phoneParams (url : List Char) : Params :=
  Phone.firstParams (Phone.searchParams (url.drop offerSchemePrefix.length))

def desktopParams (url : List Char) : Params :=
  (FormUrl.parse (url.drop offerSchemePrefix.length)).foldl Params.assign ⟨none, none, none, none, none⟩

/-- Each side has a value that it cannot take, or none has and the values come to the same. -/
def ReadAlike (url : List Char) : Prop :=
  offerSchemePrefix <+: url →
    ((phoneParams url).isWellFormed = false ∧
      ((desktopParams url).isWellFormed = false ∨ (desktopParams url).isExact = false)) ∨
    ((phoneParams url).isWellFormed = true ∧ (desktopParams url).isWellFormed = true ∧
      (desktopParams url).isExact = true ∧ (phoneParams url).offer = (desktopParams url).offer)

structure PairingOffer.Valid (offer : PairingOffer) : Prop where
  relay : isWebSocket offer.relay = true
  room : isValidRoomId offer.room = true
  desktopPublic : offer.desktopPublic.length = keyLen
  otp : offer.otp.length = otpLen

section Links

variable {url : List Char} {offer : PairingOffer}

lemma parse_eq_ok : PairingOffer.parse url = .ok offer ↔ offerSchemePrefix <+: url ∧
    (desktopParams url).isWellFormed = true ∧ (desktopParams url).isExact = true ∧
    (desktopParams url).offer = offer := by
  rw [PairingOffer.parse]
  split
  · next hscheme =>
      rw [← desktopParams, PairingOffer.ofParams_eq_ok]
      exact ⟨fun h => ⟨hscheme, h⟩, fun h => h.2⟩
  · next hscheme =>
      constructor
      · rintro ⟨⟩
      · exact fun h => absurd h.1 hscheme

lemma parsePairingOffer_eq_ok : Phone.parsePairingOffer url = .ok offer ↔ offerSchemePrefix <+: url ∧
    (phoneParams url).isWellFormed = true ∧ (phoneParams url).offer = offer := by
  rw [Phone.parsePairingOffer]
  split
  · next hscheme =>
      rw [← phoneParams, Phone.ofParams_eq_ok]
      exact ⟨fun h => ⟨hscheme, h⟩, fun h => h.2⟩
  · next hscheme =>
      constructor
      · rintro ⟨⟩
      · exact fun h => absurd h.1 hscheme

lemma toOption_eq_iff {ε ε' α : Type} {x : Except ε α} {y : Except ε' α} :
    x.toOption = y.toOption ↔ ∀ a, x = .ok a ↔ y = .ok a := by
  cases x with
  | error e =>
      cases y with
      | error e' =>
          refine ⟨fun _ a => ?_, fun _ => rfl⟩
          constructor <;> rintro ⟨⟩
      | ok b =>
          constructor
          · rintro ⟨⟩
          · intro h
            cases (h b).mpr rfl
  | ok a =>
      cases y with
      | error e' =>
          constructor
          · rintro ⟨⟩
          · intro h
            cases (h a).mp rfl
      | ok b =>
          constructor
          · rintro ⟨rfl⟩ c
            constructor <;> rintro ⟨rfl⟩ <;> rfl
          · intro h
            cases (h a).mp rfl
            rfl

lemma readAlike_iff : (Phone.parsePairingOffer url).toOption = (PairingOffer.parse url).toOption ↔ ReadAlike url := by
  rw [toOption_eq_iff]
  simp only [parse_eq_ok, parsePairingOffer_eq_ok]
  constructor
  · intro h hscheme
    cases hphone : (phoneParams url).isWellFormed with
    | true =>
        obtain ⟨-, hdesktop, hexact, hoffer⟩ := (h _).mp ⟨hscheme, hphone, rfl⟩
        exact .inr ⟨rfl, hdesktop, hexact, hoffer.symm⟩
    | false =>
        refine .inl ⟨rfl, ?_⟩
        cases hdesktop : (desktopParams url).isWellFormed with
        | false => exact .inl rfl
        | true =>
            cases hexact : (desktopParams url).isExact with
            | false => exact .inr rfl
            | true =>
                have hread := (h _).mpr ⟨hscheme, hdesktop, hexact, rfl⟩
                rw [hphone] at hread
                cases hread.2.1
  · intro h offer
    constructor
    · rintro ⟨hscheme, hphone, rfl⟩
      rcases h hscheme with ⟨hneither, -⟩ | ⟨-, hdesktop, hexact, hoffer⟩
      · rw [hphone] at hneither
        cases hneither
      · exact ⟨hscheme, hdesktop, hexact, hoffer.symm⟩
    · rintro ⟨hscheme, hdesktop, hexact, rfl⟩
      rcases h hscheme with ⟨-, hneither⟩ | ⟨hphone, -, -, hoffer⟩
      · rw [hdesktop, hexact] at hneither
        rcases hneither with ⟨⟨⟩⟩ | ⟨⟨⟩⟩
      · exact ⟨hscheme, hphone, hoffer⟩

lemma formatPairingOffer_eq (offer : PairingOffer) : Phone.formatPairingOffer offer = offer.toUrl := by
  rw [Phone.formatPairingOffer, PairingOffer.toUrl, toBase64Url_eq, toBase64Url_eq]

lemma params_toUrl (offer : PairingOffer) : desktopParams offer.toUrl =
      ⟨some "1".toList, some offer.relay, some offer.room, some (Base64.encode urlSafe offer.desktopPublic),
        some (Base64.encode urlSafe offer.otp)⟩ ∧
    phoneParams offer.toUrl = desktopParams offer.toUrl := by
  have hdesktop : desktopParams offer.toUrl =
      ⟨some "1".toList, some offer.relay, some offer.room, some (Base64.encode urlSafe offer.desktopPublic),
        some (Base64.encode urlSafe offer.otp)⟩ := by
    rw [desktopParams, PairingOffer.toUrl, List.drop_left, FormUrl.parse_serialize]
    rfl
  refine ⟨hdesktop, ?_⟩
  have hfirst : ∀ pair pairs, (FormUrl.serialize (("v".toList, "1".toList) :: pair :: pairs)).head? = some 'v' := by
    intro pair pairs
    rw [FormUrl.serialize, List.map_cons, List.map_cons, List.intercalate_cons_cons]
    rfl
  rw [hdesktop, phoneParams, PairingOffer.toUrl, List.drop_left, Phone.searchParams, hfirst,
    if_neg (by decide), FormUrl.parse_serialize]
  rfl

lemma toUrl_read (h : offer.Valid) : offerSchemePrefix <+: offer.toUrl ∧
    (desktopParams offer.toUrl).isWellFormed = true ∧ (desktopParams offer.toUrl).isExact = true ∧
    (desktopParams offer.toUrl).offer = offer := by
  obtain ⟨hpk, hpkLeft, hpkBytes⟩ := decode_key.mp ⟨Base64.decode_eq_some.mpr rfl, h.desktopPublic⟩
  obtain ⟨hotp, hotpLeft, hotpBytes⟩ := decode_key.mp ⟨Base64.decode_eq_some.mpr rfl, h.otp⟩
  have hroom := h.room
  rw [isValidRoomId_eq] at hroom
  rw [(params_toUrl offer).1, Params.isWellFormed_iff, Params.isExact_iff, Params.offer]
  simp only [Option.any_some, Option.all_some, Option.getD_some, hpkBytes, hotpBytes]
  exact ⟨List.prefix_append _ _, ⟨trivial, h.relay, hroom, hpk, hotp⟩, ⟨hpkLeft, hotpLeft⟩, trivial⟩

end Links

/-- Both sides read a link alike when and only when what is the first value of a parameter for the one and
the last for the other makes no difference; a link that either side writes both sides read. -/
theorem links_alike_iff (url : List Char) :
    ((Phone.parsePairingOffer url).toOption = (PairingOffer.parse url).toOption ↔ ReadAlike url) ∧
      ∀ offer : PairingOffer, offer.Valid →
        PairingOffer.parse offer.toUrl = .ok offer ∧ Phone.parsePairingOffer offer.toUrl = .ok offer ∧
          PairingOffer.parse (Phone.formatPairingOffer offer) = .ok offer ∧
          Phone.parsePairingOffer (Phone.formatPairingOffer offer) = .ok offer := by
  refine ⟨readAlike_iff, ?_⟩
  intro offer hvalid
  obtain ⟨hscheme, hformed, hexact, hoffer⟩ := toUrl_read hvalid
  have hdesktop : PairingOffer.parse offer.toUrl = .ok offer :=
    parse_eq_ok.mpr ⟨hscheme, hformed, hexact, hoffer⟩
  have hphone : Phone.parsePairingOffer offer.toUrl = .ok offer := by
    rw [parsePairingOffer_eq_ok, (params_toUrl offer).2]
    exact ⟨hscheme, hformed, hoffer⟩
  rw [formatPairingOffer_eq]
  exact ⟨hdesktop, hphone, hdesktop, hphone⟩

def demoOffer : PairingOffer where
  relay := "wss://relay.example/".toList
  room := List.replicate 22 'A'
  desktopPublic := List.replicate 32 9
  otp := List.replicate 16 7

theorem demoOffer_read : demoOffer.Valid ∧ PairingOffer.parse demoOffer.toUrl = .ok demoOffer := by
  have hvalid : demoOffer.Valid := ⟨by decide +kernel, by decide +kernel, rfl, rfl⟩
  exact ⟨hvalid, ((links_alike_iff demoOffer.toUrl).2 demoOffer hvalid).1⟩

theorem version_twice : ¬∀ url, (Phone.parsePairingOffer url).toOption = (PairingOffer.parse url).toOption := by
  intro h
  have hread := h (demoOffer.toUrl ++ "&v=2".toList)
  have hphone : (Phone.parsePairingOffer (demoOffer.toUrl ++ "&v=2".toList)).toOption.isSome = true := by
    decide +kernel
  have hdesktop : (PairingOffer.parse (demoOffer.toUrl ++ "&v=2".toList)).toOption.isSome = false := by
    decide +kernel
  rw [hread, hdesktop] at hphone
  cases hphone

end DevCommandCenter.Remote
