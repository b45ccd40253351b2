import DevCommandCenter.Library.JsonText
import DevCommandCenter.Remote.Encodings

/-! The body of a frame, as text where it is one and as base64 otherwise, on the desktop and on the phone. -/

namespace DevCommandCenter.Remote

open Library

structure Body where
  body : Option (List Char)
  bodyEncoding : Option (List Char)
  deriving DecidableEq

namespace Body

def fromBytes (bytes : List Octet) : Body :=
  if bytes = [] then ⟨none, none⟩
  else
    match Utf8.decode bytes with
    | some text => ⟨some text, none⟩
    | none => ⟨some (Base64.encodePadded standard bytes), some "base64".toList⟩

def intoBytes (body : Body) : Except RemoteError (List Octet) :=
  match body.body with
  | none => .ok []
  | some text =>
      match body.bodyEncoding with
      | none => .ok (Utf8.encode text)
      | some encoding =>
          if encoding = "base64".toList then
            match Base64.decodePadded standard text with
            | some bytes => .ok bytes
            | none => .error (.malformed "body base64")
          else .error (.malformed "body encoding")

end Body

structure BodyFields where
  body : Option (List Char)
  bodyEncoding : Option (List Char)
  deriving DecidableEq

inductive BodyInput where
  | undefined
  | text (text : List Char)
  | bytes (bytes : List Octet)

def bodyFields : BodyInput → BodyFields
  | .undefined => ⟨none, none⟩
  | .text text => if text = [] then ⟨none, none⟩ else ⟨some text, none⟩
  | .bytes bytes =>
      if bytes = [] then ⟨none, none⟩
      else
        match fromUtf8 bytes with
        | .ok text => ⟨some text, none⟩
        | .error _ => ⟨some (toBase64 bytes), some "base64".toList⟩

def bodyBytes (fields : BodyFields) : Except String (List Octet) :=
  match fields.body with
  | none => .ok []
  | some text => if fields.bodyEncoding = some "base64".toList then fromBase64 text else .ok (utf8 text)

def namedFields (body bodyEncoding : Option (List Char)) : List (List Char × List Char) :=
  (body.map fun text => ("body".toList, text)).toList ++
    (bodyEncoding.map fun text => ("bodyEncoding".toList, text)).toList

def valuesOf (name : String) (fields : List (List Char × List Char)) : List (List Char) :=
  (fields.filter fun field => field.1 = name.toList).map Prod.snd

namespace Body

def toJson (body : Body) : List Char :=
  JsonText.print (namedFields body.body body.bodyEncoding)

def field (name : String) (fields : List (List Char × List Char)) : Except RemoteError (Option (List Char)) :=
  match valuesOf name fields with
  | [] => .ok none
  | [text] => .ok (some text)
  | _ => .error .json

def ofJson (text : List Char) : Except RemoteError Body := do
  let fields ← (JsonText.parse text).elim (.error .json) .ok
  let body ← field "body" fields
  let bodyEncoding ← field "bodyEncoding" fields
  return ⟨body, bodyEncoding⟩

end Body

namespace BodyFields

def stringify (fields : BodyFields) : List Char :=
  JsonText.print (namedFields fields.body fields.bodyEncoding)

def ofJson (text : List Char) : Except String BodyFields := do
  let fields ← (JsonText.parse text).elim (.error "invalid JSON") .ok
  return ⟨(valuesOf "body" fields).getLast?, (valuesOf "bodyEncoding" fields).getLast?⟩

end BodyFields

section Json

variable (body bodyEncoding : Option (List Char))

lemma valuesOf_body : valuesOf "body" (namedFields body bodyEncoding) = body.toList := by
  cases body <;> cases bodyEncoding <;> rfl

lemma valuesOf_bodyEncoding : valuesOf "bodyEncoding" (namedFields body bodyEncoding) = bodyEncoding.toList := by
  cases body <;> cases bodyEncoding <;> rfl

lemma Body.ofJson_print : Body.ofJson (JsonText.print (namedFields body bodyEncoding)) = .ok ⟨body, bodyEncoding⟩ := by
  have hbody : Body.field "body" (namedFields body bodyEncoding) = .ok body := by
    rw [Body.field, valuesOf_body]
    cases body <;> rfl
  have hencoding : Body.field "bodyEncoding" (namedFields body bodyEncoding) = .ok bodyEncoding := by
    rw [Body.field, valuesOf_bodyEncoding]
    cases bodyEncoding <;> rfl
  rw [Body.ofJson, JsonText.parse_print]
  change (Body.field "body" _ >>= _) = _
  rw [hbody]
  change (Body.field "bodyEncoding" _ >>= _) = _
  rw [hencoding]
  rfl

lemma BodyFields.ofJson_print :
    BodyFields.ofJson (JsonText.print (namedFields body bodyEncoding)) = .ok ⟨body, bodyEncoding⟩ := by
  rw [BodyFields.ofJson, JsonText.parse_print]
  change Except.ok (BodyFields.mk (valuesOf "body" _).getLast? (valuesOf "bodyEncoding" _).getLast?) = _
  rw [valuesOf_body, valuesOf_bodyEncoding]
  cases body <;> cases bodyEncoding <;> rfl

end Json

section Bodies

variable {bytes : List Octet} {text : List Char}

lemma fromBytes_text (hne : bytes ≠ []) (h : Utf8.decode bytes = some text) :
    Body.fromBytes bytes = ⟨some text, none⟩ := by
  rw [Body.fromBytes, if_neg hne, h]

lemma fromBytes_base64 (hne : bytes ≠ []) (h : Utf8.decode bytes = none) :
    Body.fromBytes bytes = ⟨some (Base64.encodePadded standard bytes), some "base64".toList⟩ := by
  rw [Body.fromBytes, if_neg hne, h]

lemma decodePadded_encodePadded (bytes : List Octet) :
    Base64.decodePadded standard (Base64.encodePadded standard bytes) = some bytes :=
  (Base64.decodePadded_eq_some notMem_standard).mpr rfl

lemma intoBytes_fromBytes (bytes : List Octet) : (Body.fromBytes bytes).intoBytes = .ok bytes := by
  by_cases hne : bytes = []
  · rw [Body.fromBytes, if_pos hne, hne]
    rfl
  · cases hdecode : Utf8.decode bytes with
    | some text =>
        rw [fromBytes_text hne hdecode, Utf8.decode_eq_some.mp hdecode]
        rfl
    | none =>
        rw [fromBytes_base64 hne hdecode, Body.intoBytes]
        dsimp only
        rw [if_pos rfl, decodePadded_encodePadded]

lemma bodyBytes_fromBytes (bytes : List Octet) :
    bodyBytes ⟨(Body.fromBytes bytes).body, (Body.fromBytes bytes).bodyEncoding⟩ = .ok bytes := by
  by_cases hne : bytes = []
  · rw [Body.fromBytes, if_pos hne, hne]
    rfl
  · cases hdecode : Utf8.decode bytes with
    | some text =>
        rw [fromBytes_text hne hdecode, Utf8.decode_eq_some.mp hdecode]
        rfl
    | none =>
        rw [fromBytes_base64 hne hdecode, bodyBytes]
        dsimp only
        rw [if_pos rfl, fromBase64_encodePadded]

lemma bodyFields_same (h : ¬(byteOrderMark <+: bytes ∧ (Utf8.decode bytes).isSome = true)) :
    bodyFields (.bytes bytes) = ⟨(Body.fromBytes bytes).body, (Body.fromBytes bytes).bodyEncoding⟩ := by
  by_cases hne : bytes = []
  · rw [hne]
    rfl
  · rw [bodyFields, if_neg hne]
    cases hdecode : Utf8.decode bytes with
    | some text =>
        have hmark : ¬byteOrderMark <+: bytes := fun hmark => h ⟨hmark, by rw [hdecode]; rfl⟩
        rw [fromUtf8_of_not_mark hmark, hdecode, fromBytes_text hne hdecode]
    | none =>
        have herror : ∃ error, fromUtf8 bytes = .error error := by
          by_cases hmark : byteOrderMark <+: bytes
          · obtain ⟨rest, rfl⟩ := hmark
            rw [decode_mark, Option.map_eq_none_iff] at hdecode
            exact ⟨_, by rw [fromUtf8_mark, hdecode]⟩
          · exact ⟨_, by rw [fromUtf8_of_not_mark hmark, hdecode]⟩
        obtain ⟨error, herror⟩ := herror
        rw [herror, fromBytes_base64 hne hdecode, toBase64_eq]

lemma bodyFields_mark (rest : List Octet) (h : Utf8.decode rest = some text) :
    bodyFields (.bytes (byteOrderMark ++ rest)) = ⟨some text, none⟩ := by
  rw [bodyFields, if_neg (by simp [byteOrderMark]), fromUtf8_mark, h]

/-- The bytes come back on every side from every side when and only when they are no text with a byte
order mark before it. -/
theorem bodies_cross_iff (bytes : List Octet) :
    (bodyBytes (bodyFields (.bytes bytes)) = .ok bytes ∧
      (Body.ofJson (Body.fromBytes bytes).toJson).bind Body.intoBytes = .ok bytes ∧
      (Body.ofJson (bodyFields (.bytes bytes)).stringify).bind Body.intoBytes = .ok bytes ∧
      (BodyFields.ofJson (Body.fromBytes bytes).toJson).bind bodyBytes = .ok bytes) ↔
      ¬(byteOrderMark <+: bytes ∧ (Utf8.decode bytes).isSome = true) := by
  rw [BodyFields.stringify, Body.toJson, Body.ofJson_print, Body.ofJson_print, BodyFields.ofJson_print]
  constructor
  · rintro ⟨hback, -⟩ ⟨⟨rest, rfl⟩, hsome⟩
    rw [decode_mark, Option.isSome_map, Option.isSome_iff_exists] at hsome
    obtain ⟨text, htext⟩ := hsome
    rw [bodyFields_mark rest htext, Utf8.decode_eq_some.mp htext] at hback
    have hlength := congrArg List.length (Except.ok.inj hback)
    rw [List.length_append] at hlength
    simp [byteOrderMark, utf8] at hlength
  · intro h
    rw [bodyFields_same h]
    exact ⟨bodyBytes_fromBytes bytes, intoBytes_fromBytes bytes, intoBytes_fromBytes bytes,
      bodyBytes_fromBytes bytes⟩

theorem mark_lost : ¬∀ bytes : List Octet,
    bodyBytes (bodyFields (.bytes bytes)) = .ok bytes ∧
      (Body.ofJson (Body.fromBytes bytes).toJson).bind Body.intoBytes = .ok bytes ∧
      (Body.ofJson (bodyFields (.bytes bytes)).stringify).bind Body.intoBytes = .ok bytes ∧
      (BodyFields.ofJson (Body.fromBytes bytes).toJson).bind bodyBytes = .ok bytes := by
  intro h
  have hfields : bodyFields (.bytes [0xEF, 0xBB, 0xBF]) = ⟨some [], none⟩ := by decide +kernel
  have hback := (h [0xEF, 0xBB, 0xBF]).1
  rw [hfields] at hback
  cases hback

end Bodies

end DevCommandCenter.Remote
