import Mathlib.Data.List.Basic
import Mathlib.Data.List.Nodup
import Mathlib.Data.Nat.Notation
import DevCommandCenter.Library.Utf8

/-! Bytes as digits of six bits, and these as characters. -/

namespace Library

namespace Base64

abbrev Digit : Type := Fin 64

structure Alphabet where
  chars : List Char
  length_chars : chars.length = 64
  nodup_chars : chars.Nodup

namespace Alphabet

def digit (alphabet : Alphabet) (d : Digit) : Char :=
  alphabet.chars.get (d.cast alphabet.length_chars.symm)

def value (alphabet : Alphabet) (c : Char) : Option Digit :=
  if h : c ∈ alphabet.chars then
    some ⟨alphabet.chars.idxOf c, alphabet.length_chars ▸ List.idxOf_lt_length_of_mem h⟩
  else none

variable {alphabet : Alphabet} {c : Char} {d : Digit}

lemma digit_mem (alphabet : Alphabet) (d : Digit) : alphabet.digit d ∈ alphabet.chars :=
  List.get_mem _ _

@[simp] lemma value_digit (alphabet : Alphabet) (d : Digit) : alphabet.value (alphabet.digit d) = some d := by
  rw [value, dif_pos (alphabet.digit_mem d)]
  congr 1
  apply Fin.ext
  exact alphabet.nodup_chars.idxOf_getElem _ _

lemma value_eq_some : alphabet.value c = some d ↔ alphabet.digit d = c := by
  constructor
  · intro h
    rw [value] at h
    split at h
    · cases h
      exact List.getElem_idxOf _
    · cases h
  · rintro rfl
    exact value_digit alphabet d

end Alphabet

def sextets : List Octet → List Digit
  | a :: b :: c :: rest =>
      [⟨a.val / 4, by omega⟩, ⟨a.val % 4 * 16 + b.val / 16, by omega⟩,
        ⟨b.val % 16 * 4 + c.val / 64, by omega⟩, ⟨c.val % 64, by omega⟩] ++ sextets rest
  | [a, b] => [⟨a.val / 4, by omega⟩, ⟨a.val % 4 * 16 + b.val / 16, by omega⟩, ⟨b.val % 16 * 4, by omega⟩]
  | [a] => [⟨a.val / 4, by omega⟩, ⟨a.val % 4 * 16, by omega⟩]
  | [] => []

lemma firstOctet_lt (a b : Digit) : a.val * 4 + b.val / 16 < 256 := by omega

lemma secondOctet_lt (b c : Digit) : b.val % 16 * 16 + c.val / 4 < 256 := by omega

lemma thirdOctet_lt (c d : Digit) : c.val % 4 * 64 + d.val < 256 := by omega

def wholeOctets : List Digit → List Octet
  | a :: b :: c :: d :: rest =>
      [⟨a.val * 4 + b.val / 16, firstOctet_lt a b⟩, ⟨b.val % 16 * 16 + c.val / 4, secondOctet_lt b c⟩,
        ⟨c.val % 4 * 64 + d.val, thirdOctet_lt c d⟩] ++ wholeOctets rest
  | [a, b, c] =>
      [⟨a.val * 4 + b.val / 16, firstOctet_lt a b⟩, ⟨b.val % 16 * 16 + c.val / 4, secondOctet_lt b c⟩]
  | [a, b] => [⟨a.val * 4 + b.val / 16, firstOctet_lt a b⟩]
  | _ => []

lemma length_wholeOctets {digits : List Digit} : (wholeOctets digits).length = digits.length * 3 / 4 := by
  induction digits using wholeOctets.induct with
  | case1 a b c d rest ih =>
      rw [wholeOctets, List.length_append, ih]
      simp only [List.length_cons, List.length_nil]
      omega
  | case2 a b c => simp [wholeOctets]
  | case3 a b => simp [wholeOctets]
  | case4 digits h1 h2 h3 =>
      match digits, h1, h2, h3 with
      | [], _, _, _ => rfl
      | [a], _, _, _ => simp [wholeOctets]
      | [a, b], _, _, h3 => exact absurd rfl (h3 a b)
      | [a, b, c], _, h2, _ => exact absurd rfl (h2 a b c)
      | a :: b :: c :: d :: rest, h1, _, _ => exact absurd rfl (h1 a b c d rest)

def leftover : List Digit → ℕ
  | _ :: _ :: _ :: _ :: rest => leftover rest
  | [_, _, c] => c.val % 4
  | [_, b] => b.val % 16
  | _ => 0

def octets (digits : List Digit) : Option (List Octet) :=
  if digits.length % 4 = 1 ∨ leftover digits ≠ 0 then none else some (wholeOctets digits)

lemma wholeOctets_sextets (bytes : List Octet) : wholeOctets (sextets bytes) = bytes := by
  induction bytes using sextets.induct with
  | case1 a b c rest ih =>
      rw [sextets, List.cons_append, List.cons_append, List.cons_append, List.cons_append,
        List.nil_append, wholeOctets, ih]
      simp only [List.cons_append, List.nil_append, List.cons.injEq, Fin.ext_iff, and_true]
      omega
  | case2 a b =>
      simp only [sextets, wholeOctets, List.cons.injEq, Fin.ext_iff, and_true]
      omega
  | case3 a =>
      simp only [sextets, wholeOctets, List.cons.injEq, Fin.ext_iff, and_true]
      omega
  | case4 => rfl

lemma length_sextets (bytes : List Octet) :
    (sextets bytes).length % 4 ≠ 1 ∧ leftover (sextets bytes) = 0 := by
  induction bytes using sextets.induct with
  | case1 a b c rest ih =>
      obtain ⟨hlength, hleftover⟩ := ih
      refine ⟨?_, hleftover⟩
      rw [sextets, List.length_append]
      simp only [List.length_cons, List.length_nil]
      omega
  | case2 a b =>
      refine ⟨by simp [sextets], ?_⟩
      simp only [sextets, leftover]
      omega
  | case3 a =>
      refine ⟨by simp [sextets], ?_⟩
      simp only [sextets, leftover]
      omega
  | case4 => exact ⟨by decide, rfl⟩

lemma sextets_wholeOctets {digits : List Digit} (hlength : digits.length % 4 ≠ 1) (hleftover : leftover digits = 0) :
    sextets (wholeOctets digits) = digits := by
  induction digits using wholeOctets.induct with
  | case1 a b c d rest ih =>
      have hrest : sextets (wholeOctets rest) = rest := by
        refine ih ?_ hleftover
        simp only [List.length_cons] at hlength
        omega
      rw [wholeOctets, List.cons_append, List.cons_append, List.cons_append, List.nil_append, sextets, hrest]
      simp only [List.cons_append, List.nil_append, List.cons.injEq, Fin.ext_iff, and_true]
      omega
  | case2 a b c =>
      simp only [leftover] at hleftover
      simp only [wholeOctets, sextets, List.cons.injEq, Fin.ext_iff, and_true]
      omega
  | case3 a b =>
      simp only [leftover] at hleftover
      simp only [wholeOctets, sextets, List.cons.injEq, Fin.ext_iff, and_true]
      omega
  | case4 digits h1 h2 h3 =>
      match digits, h1, h2, h3 with
      | [], _, _, _ => rfl
      | [a], _, _, _ => exact absurd rfl hlength
      | [a, b], _, _, h3 => exact absurd rfl (h3 a b)
      | [a, b, c], _, h2, _ => exact absurd rfl (h2 a b c)
      | a :: b :: c :: d :: rest, h1, _, _ => exact absurd rfl (h1 a b c d rest)

theorem octets_eq_some {digits : List Digit} {bytes : List Octet} :
    octets digits = some bytes ↔ sextets bytes = digits := by
  rw [octets]
  constructor
  · intro h
    split at h
    · cases h
    · next hwhole =>
        rw [not_or, not_ne_iff] at hwhole
        cases h
        exact sextets_wholeOctets hwhole.1 hwhole.2
  · rintro rfl
    obtain ⟨hlength, hleftover⟩ := length_sextets bytes
    rw [if_neg (by simp [hlength, hleftover]), wholeOctets_sextets]

def encode (alphabet : Alphabet) (bytes : List Octet) : List Char :=
  (sextets bytes).map alphabet.digit

def digits (alphabet : Alphabet) (text : List Char) : Option (List Digit) :=
  text.mapM alphabet.value

def decode (alphabet : Alphabet) (text : List Char) : Option (List Octet) :=
  (digits alphabet text).bind octets

section Text

variable {alphabet : Alphabet} {text : List Char} {bytes : List Octet}

lemma digits_eq_some {ds : List Digit} : digits alphabet text = some ds ↔ ds.map alphabet.digit = text := by
  induction text generalizing ds with
  | nil => cases ds <;> simp [digits]
  | cons c text ih =>
      rw [digits] at ih ⊢
      cases ds with
      | nil => simp [List.mapM_cons, Option.bind_eq_some_iff]
      | cons d ds =>
          simp only [List.mapM_cons, Option.bind_eq_bind, Option.pure_def, Option.bind_eq_some_iff,
            Option.some.injEq, List.cons.injEq, List.map_cons, ih, Alphabet.value_eq_some]
          constructor
          · rintro ⟨d', hd, ds', hds, rfl, rfl⟩
            exact ⟨hd, hds⟩
          · rintro ⟨hd, hds⟩
            exact ⟨d, hd, ds, hds, rfl, rfl⟩

theorem decode_eq_some : decode alphabet text = some bytes ↔ encode alphabet bytes = text := by
  rw [decode, Option.bind_eq_some_iff, encode]
  constructor
  · rintro ⟨ds, hds, hbytes⟩
    rw [octets_eq_some.mp hbytes]
    exact digits_eq_some.mp hds
  · intro h
    exact ⟨sextets bytes, digits_eq_some.mpr h, octets_eq_some.mpr rfl⟩

lemma mem_encode {c : Char} (h : c ∈ encode alphabet bytes) : c ∈ alphabet.chars := by
  obtain ⟨d, -, rfl⟩ := List.mem_map.mp h
  exact alphabet.digit_mem d

end Text

def padding (text : List Char) : List Char :=
  List.replicate ((4 - text.length % 4) % 4) '='

def encodePadded (alphabet : Alphabet) (bytes : List Octet) : List Char :=
  encode alphabet bytes ++ padding (encode alphabet bytes)

def decodePadded (alphabet : Alphabet) (text : List Char) : Option (List Octet) :=
  let body := text.takeWhile (· ≠ '=')
  if text = body ++ padding body then decode alphabet body else none

section Padded

variable {alphabet : Alphabet} {text : List Char} {bytes : List Octet}

lemma takeWhile_encodePadded (h : '=' ∉ alphabet.chars) :
    (encodePadded alphabet bytes).takeWhile (· ≠ '=') = encode alphabet bytes := by
  rw [encodePadded, List.takeWhile_append_of_pos]
  · rw [padding]
    cases (4 - (encode alphabet bytes).length % 4) % 4 <;> simp [List.replicate_succ]
  · intro c hc
    apply decide_eq_true
    rintro rfl
    exact h (mem_encode hc)

theorem decodePadded_eq_some (h : '=' ∉ alphabet.chars) :
    decodePadded alphabet text = some bytes ↔ encodePadded alphabet bytes = text := by
  constructor
  · intro hdecode
    rw [decodePadded] at hdecode
    split at hdecode
    · next htext =>
        rw [encodePadded, decode_eq_some.mp hdecode]
        exact htext.symm
    · cases hdecode
  · rintro rfl
    rw [decodePadded, takeWhile_encodePadded h]
    exact (if_pos rfl).trans (decode_eq_some.mpr rfl)

end Padded

end Base64

end Library
