import DevCommandCenter.Library.Utf8

/-! Pairs of texts as `application/x-www-form-urlencoded` has them. -/

namespace Library

namespace FormUrl

def hexDigit (n : ℕ) : Octet :=
  if n < 10 then Fin.ofNat 256 (0x30 + n) else Fin.ofNat 256 (0x37 + n)

def hexValue (b : Octet) : Option ℕ :=
  if 0x30 ≤ b.val ∧ b.val ≤ 0x39 then some (b.val - 0x30)
  else if 0x41 ≤ b.val ∧ b.val ≤ 0x46 then some (b.val - 0x37)
  else if 0x61 ≤ b.val ∧ b.val ≤ 0x66 then some (b.val - 0x57)
  else none

def isPlain (b : Octet) : Bool :=
  b.val = 0x2A ∨ b.val = 0x2D ∨ b.val = 0x2E ∨ (0x30 ≤ b.val ∧ b.val ≤ 0x39) ∨
    (0x41 ≤ b.val ∧ b.val ≤ 0x5A) ∨ b.val = 0x5F ∨ (0x61 ≤ b.val ∧ b.val ≤ 0x7A)

def encodeByte (b : Octet) : List Octet :=
  if isPlain b then [b]
  else if b = 0x20 then [0x2B]
  else [0x25, hexDigit (b.val / 16), hexDigit (b.val % 16)]

def encodeText (text : List Char) : List Octet :=
  (Utf8.encode text).flatMap encodeByte

def plusToSpace (bytes : List Octet) : List Octet :=
  bytes.map fun b => if b = 0x2B then 0x20 else b

def percentDecode : List Octet → List Octet
  | a :: b :: c :: rest =>
      if a = 0x25 then
        match hexValue b, hexValue c with
        | some high, some low => Fin.ofNat 256 (high * 16 + low) :: percentDecode rest
        | _, _ => a :: percentDecode (b :: c :: rest)
      else a :: percentDecode (b :: c :: rest)
  | bytes => bytes

def decodeText (bytes : List Octet) : List Char :=
  Utf8.lossy (percentDecode (plusToSpace bytes))

def encodePair (pair : List Char × List Char) : List Octet :=
  encodeText pair.1 ++ 0x3D :: encodeText pair.2

def decodePair (bytes : List Octet) : List Char × List Char :=
  (decodeText (bytes.takeWhile (· ≠ 0x3D)), decodeText (bytes.dropWhile (· ≠ 0x3D)).tail)

def asText (bytes : List Octet) : List Char :=
  bytes.map fun b => Char.ofNat b.val

def serialize (pairs : List (List Char × List Char)) : List Char :=
  asText ([0x26].intercalate (pairs.map encodePair))

def parse (text : List Char) : List (List Char × List Char) :=
  (((Utf8.encode text).splitOn 0x26).filter (· ≠ [])).map decodePair

section RoundTrip

variable {bytes rest : List Octet} {b : Octet}

lemma hexValue_hexDigit : ∀ n < 16, hexValue (hexDigit n) = some n := by
  decide

lemma percentDecode_cons (h : b ≠ 0x25) : percentDecode (b :: rest) = b :: percentDecode rest := by
  match rest with
  | [] => rfl
  | [c] => rfl
  | c :: d :: rest => rw [percentDecode, if_neg h]

lemma percentDecode_escape {high low : ℕ} (hhigh : high < 16) (hlow : low < 16) :
    percentDecode (0x25 :: hexDigit high :: hexDigit low :: rest) =
      Fin.ofNat 256 (high * 16 + low) :: percentDecode rest := by
  rw [percentDecode, if_pos rfl, hexValue_hexDigit high hhigh, hexValue_hexDigit low hlow]

lemma isPlain_ne (h : isPlain b = true) : b.val < 0x80 ∧ b ≠ 0x2B ∧ b ≠ 0x25 ∧ b ≠ 0x26 ∧ b ≠ 0x3D := by
  have hplain := of_decide_eq_true h
  refine ⟨by omega, ?_, ?_, ?_, ?_⟩ <;>
    · rintro rfl
      revert hplain
      decide

lemma hexDigit_ne : ∀ n < 16, (hexDigit n).val < 0x80 ∧ hexDigit n ≠ 0x2B ∧ hexDigit n ≠ 0x26 ∧ hexDigit n ≠ 0x3D := by
  decide

lemma encodeByte_marks (b : Octet) : ∀ c ∈ encodeByte b, c.val < 0x80 ∧ c ≠ 0x26 ∧ c ≠ 0x3D := by
  intro c hc
  rw [encodeByte] at hc
  split at hc
  · next hplain =>
      obtain rfl := List.mem_singleton.mp hc
      obtain ⟨hascii, -, -, hpair, hname⟩ := isPlain_ne hplain
      exact ⟨hascii, hpair, hname⟩
  · split at hc
    · obtain rfl := List.mem_singleton.mp hc
      decide
    · obtain ⟨hhigh, -, hhigh'⟩ := hexDigit_ne (b.val / 16) (by omega)
      obtain ⟨hlow, -, hlow'⟩ := hexDigit_ne (b.val % 16) (by omega)
      rw [List.mem_cons, List.mem_cons, List.mem_singleton] at hc
      rcases hc with rfl | rfl | rfl
      · decide
      · exact ⟨hhigh, hhigh'⟩
      · exact ⟨hlow, hlow'⟩

lemma percentDecode_encodeByte (b : Octet) (rest : List Octet) :
    percentDecode (plusToSpace (encodeByte b) ++ rest) = b :: percentDecode rest := by
  rw [encodeByte]
  split
  · next hplain =>
      rw [plusToSpace, List.map_singleton, if_neg (isPlain_ne hplain).2.1, List.singleton_append,
        percentDecode_cons (isPlain_ne hplain).2.2.1]
  · split
    · next hspace =>
        subst hspace
        exact percentDecode_cons (by decide)
    · have hhigh : b.val / 16 < 16 := by omega
      have hlow : b.val % 16 < 16 := by omega
      have hplus : plusToSpace [0x25, hexDigit (b.val / 16), hexDigit (b.val % 16)] =
          [0x25, hexDigit (b.val / 16), hexDigit (b.val % 16)] := by
        simp only [plusToSpace, List.map_cons, List.map_nil, if_neg (hexDigit_ne _ hhigh).2.1,
          if_neg (hexDigit_ne _ hlow).2.1]
        rfl
      rw [hplus]
      simp only [List.cons_append, List.nil_append]
      rw [percentDecode_escape hhigh hlow, List.cons.injEq, Fin.ext_iff, Fin.val_ofNat]
      exact ⟨by omega, rfl⟩

lemma decodeText_encodeText (text : List Char) : decodeText (encodeText text) = text := by
  have hbytes : ∀ bytes, percentDecode (plusToSpace (bytes.flatMap encodeByte)) = bytes := by
    intro bytes
    induction bytes with
    | nil => rfl
    | cons b bytes ih =>
        rw [plusToSpace] at ih ⊢
        rw [List.flatMap_cons, List.map_append]
        have hfirst := percentDecode_encodeByte b (plusToSpace (bytes.flatMap encodeByte))
        rw [plusToSpace, plusToSpace] at hfirst
        rw [hfirst, ih]
  rw [decodeText, encodeText, hbytes, Utf8.lossy_encode]

lemma encodeText_marks (text : List Char) : ∀ c ∈ encodeText text, c.val < 0x80 ∧ c ≠ 0x26 ∧ c ≠ 0x3D := by
  intro c hc
  obtain ⟨b, -, hb⟩ := List.mem_flatMap.mp hc
  exact encodeByte_marks b c hb

lemma decodePair_encodePair (pair : List Char × List Char) : decodePair (encodePair pair) = pair := by
  have hname : ∀ c ∈ encodeText pair.1, decide (c ≠ 0x3D) = true :=
    fun c hc => decide_eq_true (encodeText_marks _ c hc).2.2
  rw [decodePair, encodePair, List.takeWhile_append_of_pos hname, List.dropWhile_append_of_pos hname,
    List.takeWhile_cons, List.dropWhile_cons, if_neg (by decide), if_neg (by decide), List.append_nil,
    List.tail_cons, decodeText_encodeText, decodeText_encodeText]

lemma encodePair_marks (pair : List Char × List Char) : ∀ c ∈ encodePair pair, c.val < 0x80 ∧ c ≠ 0x26 := by
  intro c hc
  rcases List.mem_append.mp hc with hname | hvalue
  · exact ⟨(encodeText_marks _ c hname).1, (encodeText_marks _ c hname).2.1⟩
  · rcases List.mem_cons.mp hvalue with rfl | hvalue
    · decide
    · exact ⟨(encodeText_marks _ c hvalue).1, (encodeText_marks _ c hvalue).2.1⟩

lemma encode_asText (h : ∀ c ∈ bytes, c.val < 0x80) : Utf8.encode (asText bytes) = bytes := by
  induction bytes with
  | nil => rfl
  | cons b bytes ih =>
      have hb := h b (List.mem_cons_self ..)
      have htoNat : (Char.ofNat b.val).toNat = b.val := Utf8.ofNat_toNat (by omega)
      obtain ⟨a, heq, ha⟩ := Utf8.encodeChar_one (c := Char.ofNat b.val) (by omega)
      have hrest := ih fun c hc => h c (List.mem_cons_of_mem _ hc)
      rw [asText] at hrest ⊢
      rw [List.map_cons, Utf8.encode, List.flatMap_cons, heq, ← Utf8.encode, hrest, List.singleton_append,
        List.cons.injEq, Fin.ext_iff]
      exact ⟨by omega, rfl⟩

lemma pairs_ascii (pairs : List (List Char × List Char)) :
    ∀ c ∈ [(0x26 : Octet)].intercalate (pairs.map encodePair), c.val < 0x80 := by
  induction pairs with
  | nil => exact List.forall_mem_nil _
  | cons pair pairs ih =>
      cases pairs with
      | nil =>
          rw [List.map_singleton, List.intercalate_singleton]
          exact fun c hc => (encodePair_marks pair c hc).1
      | cons next pairs =>
          intro c hc
          rw [List.map_cons, List.map_cons, List.intercalate_cons_cons, ← List.map_cons, List.mem_append,
            List.mem_append, List.mem_singleton] at hc
          rcases hc with (hpair | rfl) | hrest
          · exact (encodePair_marks pair c hpair).1
          · decide
          · exact ih c hrest

theorem parse_serialize (pairs : List (List Char × List Char)) : parse (serialize pairs) = pairs := by
  have hmarks : ∀ part ∈ pairs.map encodePair, (0x26 : Octet) ∉ part := by
    intro part hpart hmark
    obtain ⟨pair, -, rfl⟩ := List.mem_map.mp hpart
    exact (encodePair_marks pair _ hmark).2 rfl
  rw [parse, serialize, encode_asText (pairs_ascii pairs)]
  cases pairs with
  | nil => rfl
  | cons pair pairs =>
      have hne : ∀ part ∈ (pair :: pairs).map encodePair, decide (part ≠ []) = true := by
        intro part hpart
        obtain ⟨pair, -, rfl⟩ := List.mem_map.mp hpart
        simp [encodePair]
      rw [List.splitOn_intercalate 0x26 hmarks (by simp), List.filter_eq_self.mpr hne, List.map_map]
      exact List.map_id'' decodePair_encodePair (pair :: pairs)

end RoundTrip

end FormUrl

end Library
