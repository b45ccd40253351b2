import Mathlib.Data.List.DropRight
import DevCommandCenter.Library.Base64
import DevCommandCenter.Library.Text

/-! Bytes as text on the phone, and what the desktop's decoders make of it. -/

namespace DevCommandCenter.Remote

open Library

inductive RemoteError where
  | noise
  | malformed (what : String)
  | tooLarge
  | version (n : ℕ)
  | offer (what : String)
  | json
  deriving DecidableEq

def utf8 (text : List Char) : List Octet :=
  Utf8.encode text

def byteOrderMark : List Octet :=
  [0xEF, 0xBB, 0xBF]

def fromUtf8 (bytes : List Octet) : Except String (List Char) :=
  match Utf8.decode (if byteOrderMark <+: bytes then bytes.drop 3 else bytes) with
  | some text => .ok text
  | none => .error "The encoded data was not valid for encoding utf-8"

def alphanumerics : List Char :=
  ['A', 'B', 'C', 'D', 'E', 'F', 'G', 'H', 'I', 'J', 'K', 'L', 'M', 'N', 'O', 'P', 'Q', 'R',
   'S', 'T', 'U', 'V', 'W', 'X', 'Y', 'Z', 'a', 'b', 'c', 'd', 'e', 'f', 'g', 'h', 'i',
   'j', 'k', 'l', 'm', 'n', 'o', 'p', 'q', 'r', 's', 't', 'u', 'v', 'w', 'x', 'y', 'z',
   '0', '1', '2', '3', '4', '5', '6', '7', '8', '9']

def urlSafe : Base64.Alphabet where
  chars := alphanumerics ++ ['-', '_']
  length_chars := by decide
  nodup_chars := by decide +kernel

def standard : Base64.Alphabet where
  chars := alphanumerics ++ ['+', '/']
  length_chars := by decide
  nodup_chars := by decide +kernel

def b64url (n : ℕ) : Char :=
  urlSafe.digit (Fin.ofNat 64 n)

def toBase64Url : List Octet → List Char
  | a :: b :: c :: rest =>
      let n := a.val * 0x10000 + b.val * 0x100 + c.val
      [b64url (n / 0x40000), b64url (n / 0x1000 % 64), b64url (n / 0x40 % 64), b64url (n % 64)] ++
        toBase64Url rest
  | [a, b] =>
      let n := a.val * 0x10000 + b.val * 0x100
      [b64url (n / 0x40000), b64url (n / 0x1000 % 64), b64url (n / 0x40 % 64)]
  | [a] =>
      let n := a.val * 0x10000
      [b64url (n / 0x40000), b64url (n / 0x1000 % 64)]
  | [] => []

def utf16Length (text : List Char) : ℕ :=
  (text.map fun c => if 0xFFFF < c.toNat then 2 else 1).sum

def isBase64Url (c : Char) : Bool :=
  'A' ≤ c ∧ c ≤ 'Z' ∨ 'a' ≤ c ∧ c ≤ 'z' ∨ '0' ≤ c ∧ c ≤ '9' ∨ c = '_' ∨ c = '-'

def written (bits value : ℕ) : List Char → List Octet
  | [] => []
  | c :: text =>
      let value := (value * 64 + urlSafe.chars.idxOf c) % 0x100000000
      if 8 ≤ bits + 6 then Fin.ofNat 256 (value / 2 ^ (bits + 6 - 8)) :: written (bits + 6 - 8) value text
      else written (bits + 6) value text

def fromBase64Url (text : List Char) : Except String (List Octet) :=
  if utf16Length text % 4 = 1 ∨ ¬text.all isBase64Url then .error "invalid base64url"
  else
    let size := utf16Length text * 3 / 4
    .ok ((written 0 0 text ++ List.replicate size 0).take size)

def toBase64 (bytes : List Octet) : List Char :=
  let url := (toBase64Url bytes).map fun c => if c = '-' then '+' else if c = '_' then '/' else c
  url ++ List.replicate ((4 - utf16Length url % 4) % 4) '='

def fromBase64 (text : List Char) : Except String (List Octet) :=
  fromBase64Url ((text.rdropWhile (· = '=')).map fun c => if c = '+' then '-' else if c = '/' then '_' else c)

section Digits

variable {text : List Char} {ds : List Base64.Digit} {bytes : List Octet}

lemma isBase64Url_ascii : ∀ n < 128, isBase64Url (Char.ofNat n) = decide (Char.ofNat n ∈ urlSafe.chars) := by
  decide +kernel

lemma ascii_of_all {chars : List Char} (h : (chars.all fun c => c.toNat < 128) = true) :
    ∀ c ∈ chars, c.toNat < 128 := fun c hc =>
  of_decide_eq_true (List.all_eq_true.mp h c hc)

lemma urlSafe_ascii : ∀ c ∈ urlSafe.chars, c.toNat < 128 :=
  ascii_of_all rfl

lemma isBase64Url_iff (c : Char) : isBase64Url c = true ↔ c ∈ urlSafe.chars := by
  rcases Nat.lt_or_ge c.toNat 128 with hlt | hge
  · have hascii := isBase64Url_ascii c.toNat hlt
    rw [Char.ofNat_toNat] at hascii
    rw [hascii, decide_eq_true_iff]
  · constructor
    · intro h
      have hle : c.toNat ≤ 122 := by
        rcases of_decide_eq_true h with ⟨-, hz⟩ | ⟨-, hz⟩ | ⟨-, hz⟩ | rfl | rfl
        · exact (Nat.le_trans hz (by decide : 'Z'.toNat ≤ 122))
        · exact hz
        · exact (Nat.le_trans hz (by decide : '9'.toNat ≤ 122))
        · decide
        · decide
      omega
    · intro h
      have := urlSafe_ascii c h
      omega

lemma utf16Length_ascii (h : ∀ c ∈ text, c.toNat < 128) : utf16Length text = text.length := by
  induction text with
  | nil => rfl
  | cons c text ih =>
      have hc := h c (List.mem_cons_self ..)
      have htext := ih fun c hc => h c (List.mem_cons_of_mem _ hc)
      rw [utf16Length] at htext ⊢
      rw [List.map_cons, List.sum_cons, htext, if_neg (by omega), List.length_cons, Nat.add_comm]

lemma toBase64Url_eq (bytes : List Octet) : toBase64Url bytes = Base64.encode urlSafe bytes := by
  induction bytes using Base64.sextets.induct with
  | case1 a b c rest ih =>
      rw [toBase64Url, ih, Base64.encode, Base64.encode, Base64.sextets, List.map_append]
      simp only [b64url, List.map_cons, List.map_nil, List.append_cancel_right_eq, List.cons.injEq, and_true]
      refine ⟨congrArg _ ?_, congrArg _ ?_, congrArg _ ?_, congrArg _ ?_⟩ <;>
        (simp only [Fin.ext_iff, Fin.val_ofNat]; omega)
  | case2 a b =>
      simp only [toBase64Url, Base64.encode, Base64.sextets, b64url, List.map_cons, List.map_nil,
        List.cons.injEq, and_true]
      refine ⟨congrArg _ ?_, congrArg _ ?_, congrArg _ ?_⟩ <;>
        (simp only [Fin.ext_iff, Fin.val_ofNat]; omega)
  | case3 a =>
      simp only [toBase64Url, Base64.encode, Base64.sextets, b64url, List.map_cons, List.map_nil,
        List.cons.injEq, and_true]
      refine ⟨congrArg _ ?_, congrArg _ ?_⟩ <;> (simp only [Fin.ext_iff, Fin.val_ofNat]; omega)
  | case4 => rfl

lemma idxOf_digit (d : Base64.Digit) : urlSafe.chars.idxOf (urlSafe.digit d) = d.val :=
  urlSafe.nodup_chars.idxOf_getElem _ _

lemma written_digits (value : ℕ) (ds : List Base64.Digit) :
    written 0 value (ds.map urlSafe.digit) = Base64.wholeOctets ds := by
  induction ds using Base64.wholeOctets.induct generalizing value with
  | case1 a b c d rest ih =>
      simp only [List.map_cons, written, idxOf_digit, Base64.wholeOctets, Nat.reduceAdd, Nat.reduceLeDiff,
        if_true, if_false, Nat.reduceSub, ih, Nat.reducePow, List.cons_append, List.nil_append,
        List.cons.injEq, Fin.ext_iff, Fin.val_ofNat, and_true]
      omega
  | case2 a b c =>
      simp only [List.map_cons, List.map_nil, written, idxOf_digit, Base64.wholeOctets, Nat.reduceAdd,
        Nat.reduceLeDiff, if_true, if_false, Nat.reduceSub, Nat.reducePow, List.cons.injEq, Fin.ext_iff,
        Fin.val_ofNat, and_true]
      omega
  | case3 a b =>
      simp only [List.map_cons, List.map_nil, written, idxOf_digit, Base64.wholeOctets, Nat.reduceAdd,
        Nat.reduceLeDiff, if_true, if_false, Nat.reduceSub, Nat.reducePow, List.cons.injEq, Fin.ext_iff,
        Fin.val_ofNat, and_true]
      omega
  | case4 ds h1 h2 h3 =>
      rcases ds with _ | ⟨a, _ | ⟨b, _ | ⟨c, _ | ⟨d, rest⟩⟩⟩⟩
      · rfl
      · rfl
      · exact absurd rfl (h3 a b)
      · exact absurd rfl (h2 a b c)
      · exact absurd rfl (h1 a b c d rest)

lemma all_isBase64Url (text : List Char) :
    text.all isBase64Url = true ↔ ∃ ds : List Base64.Digit, ds.map urlSafe.digit = text := by
  induction text with
  | nil => exact ⟨fun _ => ⟨[], rfl⟩, fun _ => rfl⟩
  | cons c text ih =>
      rw [List.all_cons, Bool.and_eq_true, ih, isBase64Url_iff]
      constructor
      · rintro ⟨hc, ds, rfl⟩
        obtain ⟨d, hd⟩ : ∃ d, urlSafe.value c = some d := by
          rw [Base64.Alphabet.value, dif_pos hc]
          exact ⟨_, rfl⟩
        exact ⟨d :: ds, by rw [List.map_cons, Base64.Alphabet.value_eq_some.mp hd]⟩
      · rintro ⟨ds, hds⟩
        cases ds with
        | nil => cases hds
        | cons d ds =>
            cases hds
            exact ⟨urlSafe.digit_mem d, ds, rfl⟩

lemma utf16Length_digits (ds : List Base64.Digit) : utf16Length (ds.map urlSafe.digit) = ds.length := by
  have hascii : ∀ c ∈ ds.map urlSafe.digit, c.toNat < 128 := by
    intro c hc
    obtain ⟨d, -, rfl⟩ := List.mem_map.mp hc
    exact urlSafe_ascii _ (urlSafe.digit_mem d)
  rw [utf16Length_ascii hascii, List.length_map]

lemma fromBase64Url_digits (h : ds.length % 4 ≠ 1) :
    fromBase64Url (ds.map urlSafe.digit) = .ok (Base64.wholeOctets ds) := by
  have hall : (ds.map urlSafe.digit).all isBase64Url = true := (all_isBase64Url _).mpr ⟨ds, rfl⟩
  rw [fromBase64Url, utf16Length_digits, if_neg (by simp [h, hall])]
  dsimp only
  rw [written_digits, List.take_left' Base64.length_wholeOctets]

theorem fromBase64Url_eq_ok : fromBase64Url text = .ok bytes ↔ ∃ ds : List Base64.Digit,
    ds.map urlSafe.digit = text ∧ ds.length % 4 ≠ 1 ∧ Base64.wholeOctets ds = bytes := by
  constructor
  · intro h
    by_cases hvalid : utf16Length text % 4 = 1 ∨ ¬text.all isBase64Url = true
    · rw [fromBase64Url, if_pos hvalid] at h
      cases h
    · rw [not_or, not_not, all_isBase64Url] at hvalid
      obtain ⟨hlength, ds, rfl⟩ := hvalid
      rw [utf16Length_digits] at hlength
      rw [fromBase64Url_digits hlength] at h
      cases h
      exact ⟨ds, rfl, hlength, rfl⟩
  · rintro ⟨ds, rfl, hlength, rfl⟩
    exact fromBase64Url_digits hlength

lemma standard_of_urlSafe : ∀ d : Base64.Digit,
    (if urlSafe.digit d = '-' then '+' else if urlSafe.digit d = '_' then '/' else urlSafe.digit d) =
      standard.digit d := by
  decide +kernel

lemma urlSafe_of_standard : ∀ d : Base64.Digit,
    (if standard.digit d = '+' then '-' else if standard.digit d = '/' then '_' else standard.digit d) =
      urlSafe.digit d := by
  decide +kernel

lemma notMem_standard : '=' ∉ standard.chars := by
  decide

lemma utf16Length_encode (bytes : List Octet) : utf16Length (Base64.encode standard bytes) =
    (Base64.encode standard bytes).length := by
  apply utf16Length_ascii
  intro c hc
  exact @ascii_of_all standard.chars rfl c (Base64.mem_encode hc)

theorem toBase64_eq (bytes : List Octet) : toBase64 bytes = Base64.encodePadded standard bytes := by
  have hmap : ((toBase64Url bytes).map fun c => if c = '-' then '+' else if c = '_' then '/' else c) =
      Base64.encode standard bytes := by
    rw [toBase64Url_eq, Base64.encode, List.map_map, Base64.encode]
    apply List.map_congr_left
    intro d _
    exact standard_of_urlSafe d
  rw [toBase64, hmap, utf16Length_encode]
  rfl

lemma rdropWhile_encodePadded (bytes : List Octet) :
    (Base64.encodePadded standard bytes).rdropWhile (· = '=') = Base64.encode standard bytes := by
  have hnone : ∀ c ∈ (Base64.encode standard bytes).reverse, decide (c = '=') = false := by
    intro c hc
    apply decide_eq_false
    rintro rfl
    exact notMem_standard (Base64.mem_encode (List.mem_reverse.mp hc))
  have hpadding : ∀ n, (List.replicate n '=' ++ (Base64.encode standard bytes).reverse).dropWhile
      (fun c => decide (c = '=')) = (Base64.encode standard bytes).reverse := by
    intro n
    induction n with
    | zero => exact dropWhile_of_none hnone
    | succ n ih => exact ih
  rw [List.rdropWhile, Base64.encodePadded, List.reverse_append, Base64.padding, List.reverse_replicate,
    hpadding, List.reverse_reverse]

theorem fromBase64_encodePadded (bytes : List Octet) :
    fromBase64 (Base64.encodePadded standard bytes) = .ok bytes := by
  have hmap : ((Base64.encode standard bytes).map fun c => if c = '+' then '-' else if c = '/' then '_' else c) =
      (Base64.sextets bytes).map urlSafe.digit := by
    rw [Base64.encode, List.map_map]
    apply List.map_congr_left
    intro d _
    exact urlSafe_of_standard d
  rw [fromBase64, rdropWhile_encodePadded, hmap, fromBase64Url_digits (Base64.length_sextets bytes).1,
    Base64.wholeOctets_sextets]

end Digits

section Marks

variable {text : List Char} {bytes : List Octet}

lemma decode_mark (rest : List Octet) :
    Utf8.decode (byteOrderMark ++ rest) = (Utf8.decode rest).map ('\uFEFF' :: ·) := by
  have hmark : byteOrderMark = Utf8.encode ['\uFEFF'] := by decide
  have hunits := Utf8.units_encode_append ['\uFEFF'] rest
  rw [Utf8.decode, hmark, hunits, List.map_singleton, List.singleton_append, List.mapM_cons, Utf8.decode]
  cases (Utf8.units rest).mapM id <;> rfl

lemma fromUtf8_of_not_mark (h : ¬byteOrderMark <+: bytes) :
    fromUtf8 bytes = match Utf8.decode bytes with
      | some text => .ok text
      | none => .error "The encoded data was not valid for encoding utf-8" := by
  rw [fromUtf8, if_neg h]

lemma fromUtf8_mark (rest : List Octet) :
    fromUtf8 (byteOrderMark ++ rest) = match Utf8.decode rest with
      | some text => .ok text
      | none => .error "The encoded data was not valid for encoding utf-8" := by
  rw [fromUtf8, if_pos (List.prefix_append _ _)]
  rfl

end Marks

end DevCommandCenter.Remote
