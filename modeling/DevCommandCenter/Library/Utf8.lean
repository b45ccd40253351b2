import Mathlib.Algebra.GroupWithZero.Nat
import Mathlib.Algebra.Order.Group.Nat
import Mathlib.Data.List.Basic
import Mathlib.Data.Nat.Notation
import Mathlib.Tactic.SplitIfs

/-! Text as bytes: encoding, and decoding byte by byte, with one error for each longest run of bytes that
begins a character but is not one. -/

namespace Library

abbrev Octet : Type := Fin 256

instance octet_neZero : NeZero 256 := ⟨by decide⟩

namespace Utf8

def encodeChar (c : Char) : List Octet :=
  (String.utf8EncodeChar c).map UInt8.toFin

def encode (text : List Char) : List Octet :=
  text.flatMap encodeChar

def lengthOf (lead : Octet) : ℕ :=
  if lead.val ≤ 0x7F then 1
  else if 0xC2 ≤ lead.val ∧ lead.val ≤ 0xDF then 2
  else if 0xE0 ≤ lead.val ∧ lead.val ≤ 0xEF then 3
  else if 0xF0 ≤ lead.val ∧ lead.val ≤ 0xF4 then 4
  else 0

-- no character in more bytes than it needs, no surrogate and nothing above the last character
def secondRange (lead : Octet) : ℕ × ℕ :=
  if lead.val = 0xE0 then (0xA0, 0xBF)
  else if lead.val = 0xED then (0x80, 0x9F)
  else if lead.val = 0xF0 then (0x90, 0xBF)
  else if lead.val = 0xF4 then (0x80, 0x8F)
  else (0x80, 0xBF)

def continues (pending : List Octet) (b : Octet) : Bool :=
  match pending with
  | [] => false
  | [lead] => (secondRange lead).1 ≤ b.val ∧ b.val ≤ (secondRange lead).2
  | _ => 0x80 ≤ b.val ∧ b.val ≤ 0xBF

def codePoint : List Octet → ℕ
  | [a] => a.val
  | [a, b] => a.val % 0x20 * 0x40 + b.val % 0x40
  | [a, b, c] => a.val % 0x10 * 0x1000 + b.val % 0x40 * 0x40 + c.val % 0x40
  | [a, b, c, d] =>
      a.val % 0x08 * 0x40000 + b.val % 0x40 * 0x1000 + c.val % 0x40 * 0x40 + d.val % 0x40
  | _ => 0

def advance (bytes : List Octet) : List (Option Char) × List Octet :=
  match bytes with
  | [] => ([], [])
  | lead :: _ =>
      if lengthOf lead = 0 then ([none], [])
      else if bytes.length = lengthOf lead then ([some (Char.ofNat (codePoint bytes))], [])
      else ([], bytes)

def flush (pending : List Octet) : List (Option Char) :=
  if pending = [] then [] else [none]

def step (pending : List Octet) (b : Octet) : List (Option Char) × List Octet :=
  if continues pending b then advance (pending ++ [b])
  else ((flush pending) ++ (advance [b]).1, (advance [b]).2)

def unitsFrom (pending : List Octet) : List Octet → List (Option Char)
  | [] => flush pending
  | b :: bytes => (step pending b).1 ++ unitsFrom (step pending b).2 bytes

def pendingAfter (pending bytes : List Octet) : List Octet :=
  bytes.foldl (fun pending b => (step pending b).2) pending

def units (bytes : List Octet) : List (Option Char) :=
  unitsFrom [] bytes

def lossy (bytes : List Octet) : List Char :=
  (units bytes).map fun unit => unit.getD '\uFFFD'

def decode (bytes : List Octet) : Option (List Char) :=
  (units bytes).mapM id

section Cuts

variable {pending bytes later : List Octet} {b : Octet}

@[simp] lemma continues_nil (b : Octet) : continues [] b = false :=
  rfl

@[simp] lemma step_nil (b : Octet) : step [] b = advance [b] := by
  simp [step, flush]

lemma unitsFrom_cut (h : continues pending b = false) :
    unitsFrom pending (b :: bytes) = flush pending ++ units (b :: bytes) := by
  rw [units, unitsFrom, unitsFrom, step_nil, step, if_neg (by simp [h]), List.append_assoc]

def unitsBefore (pending : List Octet) : List Octet → List (Option Char)
  | [] => []
  | b :: bytes => (step pending b).1 ++ unitsBefore (step pending b).2 bytes

lemma unitsFrom_append : unitsFrom pending (bytes ++ later) =
    unitsBefore pending bytes ++ unitsFrom (pendingAfter pending bytes) later := by
  induction bytes generalizing pending with
  | nil => rfl
  | cons b bytes ih =>
      rw [List.cons_append, unitsFrom, unitsBefore, ih, List.append_assoc]
      rfl

lemma unitsFrom_eq : unitsFrom pending bytes =
    unitsBefore pending bytes ++ flush (pendingAfter pending bytes) := by
  have happend : unitsFrom pending (bytes ++ []) =
      unitsBefore pending bytes ++ unitsFrom (pendingAfter pending bytes) [] := unitsFrom_append
  rwa [List.append_nil] at happend

lemma secondRange_within (lead : Octet) :
    0x80 ≤ (secondRange lead).1 ∧ (secondRange lead).2 ≤ 0xBF := by
  rw [secondRange]
  split_ifs <;> exact ⟨by decide, by decide⟩

lemma tail_of_continues (h : continues pending b = true) (hpending : pending ≠ []) :
    0x80 ≤ b.val ∧ b.val ≤ 0xBF := by
  match pending, hpending with
  | [lead], _ =>
      obtain ⟨hlow, hhigh⟩ := of_decide_eq_true h
      obtain ⟨hfirst, hlast⟩ := secondRange_within lead
      exact ⟨hfirst.trans hlow, hhigh.trans hlast⟩
  | _ :: _ :: _, _ => exact of_decide_eq_true h

lemma advance_tail (h : 0x80 ≤ b.val ∧ b.val ≤ 0xBF) : advance [b] = ([none], []) := by
  have hlength : lengthOf b = 0 := by
    rw [lengthOf, if_neg (by omega), if_neg (by omega), if_neg (by omega), if_neg (by omega)]
  rw [advance, if_pos hlength]

lemma length_flush_le (pending : List Octet) : (flush pending).length ≤ 1 := by
  rw [flush]
  split <;> simp

lemma length_advance_le (bytes : List Octet) :
    (advance bytes).1.length + (flush (advance bytes).2).length ≤ 1 ∧
      ((advance bytes).2 = [] ∨ (advance bytes).1 = []) := by
  cases bytes with
  | nil => exact ⟨by simp [advance, flush], .inl rfl⟩
  | cons lead rest =>
      rw [advance]
      split
      · exact ⟨by simp [flush], .inl rfl⟩
      · split
        · exact ⟨by simp [flush], .inl rfl⟩
        · exact ⟨by simpa using length_flush_le _, .inr rfl⟩

theorem length_unitsFrom_le (pending bytes : List Octet) :
    (unitsFrom pending bytes).length ≤ (units bytes).length + 1 := by
  induction bytes generalizing pending with
  | nil =>
      rw [unitsFrom]
      have := length_flush_le pending
      omega
  | cons b bytes ih =>
      cases hcontinues : continues pending b with
      | false =>
          rw [unitsFrom_cut hcontinues, List.length_append]
          have := length_flush_le pending
          omega
      | true =>
          have hpending : pending ≠ [] := by
            rintro rfl
            cases hcontinues
          have htail := advance_tail (tail_of_continues hcontinues hpending)
          have hunits : units (b :: bytes) = none :: units bytes := by
            rw [units, unitsFrom, step_nil, htail]
            rfl
          rw [unitsFrom, step, if_pos hcontinues, hunits, List.length_append, List.length_cons]
          rcases (length_advance_le (pending ++ [b])).2 with hnone | hnone
          · rw [hnone]
            have := (length_advance_le (pending ++ [b])).1
            change _ + (units bytes).length ≤ _
            omega
          · rw [hnone]
            have := ih (advance (pending ++ [b])).2
            simpa using by omega

theorem length_units_lt (h : continues pending b = true) (hpending : pending ≠ []) :
    (unitsFrom pending (b :: bytes)).length < (flush pending).length + (units (b :: bytes)).length := by
  have htail := advance_tail (tail_of_continues h hpending)
  have hunits : units (b :: bytes) = none :: units bytes := by
    rw [units, unitsFrom, step_nil, htail]
    rfl
  have hflush : (flush pending).length = 1 := by
    rw [flush, if_neg hpending]
    rfl
  rw [unitsFrom, step, if_pos h, hunits, hflush, List.length_append, List.length_cons]
  rcases (length_advance_le (pending ++ [b])).2 with hnone | hnone
  · rw [hnone]
    have := (length_advance_le (pending ++ [b])).1
    change _ + (units bytes).length < _
    omega
  · rw [hnone]
    have := length_unitsFrom_le (advance (pending ++ [b])).2 bytes
    simpa using by omega

end Cuts

section Characters

variable {a b c d : Octet} {bytes rest : List Octet}

def Whole : List Octet → Prop
  | [a] => a.val ≤ 0x7F
  | [a, b] => lengthOf a = 2 ∧ continues [a] b = true
  | [a, b, c] => lengthOf a = 3 ∧ continues [a] b = true ∧ continues [a, b] c = true
  | [a, b, c, d] => lengthOf a = 4 ∧ continues [a] b = true ∧ continues [a, b] c = true ∧
      continues [a, b, c] d = true
  | _ => False

def Begun : List Octet → Prop
  | [] => True
  | [a] => 2 ≤ lengthOf a
  | [a, b] => 3 ≤ lengthOf a ∧ continues [a] b = true
  | [a, b, c] => 4 ≤ lengthOf a ∧ continues [a] b = true ∧ continues [a, b] c = true
  | _ => False

lemma lengthOf_le (lead : Octet) : lengthOf lead ≤ 4 := by
  rw [lengthOf]
  split_ifs <;> decide

lemma lengthOf_eq_one : lengthOf a = 1 ↔ a.val ≤ 0x7F := by
  rw [lengthOf]
  split_ifs with h <;> simp [h]

lemma lengthOf_eq_two : lengthOf a = 2 ↔ 0xC2 ≤ a.val ∧ a.val ≤ 0xDF := by
  rw [lengthOf]
  split_ifs <;> constructor <;> intro h <;> first | omega | cases h

lemma lengthOf_eq_three : lengthOf a = 3 ↔ 0xE0 ≤ a.val ∧ a.val ≤ 0xEF := by
  rw [lengthOf]
  split_ifs <;> constructor <;> intro h <;> first | omega | cases h

lemma lengthOf_eq_four : lengthOf a = 4 ↔ 0xF0 ≤ a.val ∧ a.val ≤ 0xF4 := by
  rw [lengthOf]
  split_ifs <;> constructor <;> intro h <;> first | omega | cases h

lemma unitsFrom_continues {pending : List Octet} (h : continues pending b = true) :
    unitsFrom pending (b :: rest) =
      (advance (pending ++ [b])).1 ++ unitsFrom (advance (pending ++ [b])).2 rest := by
  rw [unitsFrom, step, if_pos h]

lemma advance_more {lead : Octet} {more : List Octet} (h : more.length + 1 < lengthOf lead) :
    advance (lead :: more) = ([], lead :: more) := by
  rw [advance, if_neg (by omega), if_neg (by rw [List.length_cons]; omega)]

lemma advance_whole {lead : Octet} {more : List Octet} (h : lengthOf lead = more.length + 1) :
    advance (lead :: more) = ([some (Char.ofNat (codePoint (lead :: more)))], []) := by
  rw [advance, if_neg (by omega), if_pos (by rw [List.length_cons]; omega)]

theorem units_whole (h : Whole bytes) :
    units (bytes ++ rest) = some (Char.ofNat (codePoint bytes)) :: units rest := by
  match bytes, h with
  | [a], h =>
      rw [units, List.singleton_append, unitsFrom, step_nil,
        advance_whole (lengthOf_eq_one.mpr h)]
      rfl
  | [a, b], ⟨ha, hb⟩ =>
      rw [units, List.cons_append, unitsFrom, step_nil, advance_more (by simp [ha])]
      rw [List.singleton_append, List.nil_append, unitsFrom_continues hb, List.singleton_append,
        advance_whole ha]
      rfl
  | [a, b, c], ⟨ha, hb, hc⟩ =>
      rw [units, List.cons_append, unitsFrom, step_nil, advance_more (by simp [ha])]
      rw [List.cons_append, List.nil_append, unitsFrom_continues hb, List.singleton_append,
        advance_more (by simp [ha])]
      rw [List.singleton_append, List.nil_append, unitsFrom_continues hc, List.cons_append,
        List.singleton_append, advance_whole ha]
      rfl
  | [a, b, c, d], ⟨ha, hb, hc, hd⟩ =>
      rw [units, List.cons_append, unitsFrom, step_nil, advance_more (by simp [ha])]
      rw [List.cons_append, List.nil_append, unitsFrom_continues hb, List.singleton_append,
        advance_more (by simp [ha])]
      rw [List.cons_append, List.nil_append, unitsFrom_continues hc, List.cons_append,
        List.singleton_append, advance_more (by simp [ha])]
      rw [List.singleton_append, List.nil_append, unitsFrom_continues hd, List.cons_append,
        List.cons_append, List.singleton_append, advance_whole ha]
      rfl

lemma ofNat_val (n : ℕ) (h : n < 256) : ((UInt8.ofNat n).toFin : Octet).val = n := by
  change (UInt8.ofNat n).toNat = n
  rw [UInt8.toNat_ofNat']
  omega

lemma encodeChar_one {c : Char} (h : c.toNat ≤ 0x7F) : ∃ a : Octet, encodeChar c = [a] ∧ a.val = c.toNat := by
  refine ⟨_, ?_, ofNat_val c.toNat (by omega)⟩
  rw [encodeChar, String.utf8EncodeChar]
  simp only [Char.toNat] at h
  rw [if_pos h]
  rfl

lemma encodeChar_two {c : Char} (h : 0x7F < c.toNat) (h' : c.toNat ≤ 0x7FF) : ∃ a b : Octet,
    encodeChar c = [a, b] ∧ a.val = c.toNat / 64 % 0x20 + 0xC0 ∧ b.val = c.toNat % 0x40 + 0x80 := by
  refine ⟨_, _, ?_, ofNat_val (c.toNat / 64 % 0x20 + 0xC0) (by omega),
    ofNat_val (c.toNat % 0x40 + 0x80) (by omega)⟩
  rw [encodeChar, String.utf8EncodeChar]
  simp only [Char.toNat] at h h'
  rw [if_neg (by omega), if_pos h']
  rfl

lemma encodeChar_three {c : Char} (h : 0x7FF < c.toNat) (h' : c.toNat ≤ 0xFFFF) : ∃ a b d : Octet,
    encodeChar c = [a, b, d] ∧ a.val = c.toNat / 4096 % 0x10 + 0xE0 ∧
      b.val = c.toNat / 64 % 0x40 + 0x80 ∧ d.val = c.toNat % 0x40 + 0x80 := by
  refine ⟨_, _, _, ?_, ofNat_val (c.toNat / 4096 % 0x10 + 0xE0) (by omega),
    ofNat_val (c.toNat / 64 % 0x40 + 0x80) (by omega), ofNat_val (c.toNat % 0x40 + 0x80) (by omega)⟩
  rw [encodeChar, String.utf8EncodeChar]
  simp only [Char.toNat] at h h'
  rw [if_neg (by omega), if_neg (by omega), if_pos h']
  rfl

lemma encodeChar_four {c : Char} (h : 0xFFFF < c.toNat) : ∃ a b d e : Octet,
    encodeChar c = [a, b, d, e] ∧ a.val = c.toNat / 262144 % 0x08 + 0xF0 ∧
      b.val = c.toNat / 4096 % 0x40 + 0x80 ∧ d.val = c.toNat / 64 % 0x40 + 0x80 ∧
      e.val = c.toNat % 0x40 + 0x80 := by
  refine ⟨_, _, _, _, ?_, ofNat_val (c.toNat / 262144 % 0x08 + 0xF0) (by omega),
    ofNat_val (c.toNat / 4096 % 0x40 + 0x80) (by omega),
    ofNat_val (c.toNat / 64 % 0x40 + 0x80) (by omega), ofNat_val (c.toNat % 0x40 + 0x80) (by omega)⟩
  rw [encodeChar, String.utf8EncodeChar]
  simp only [Char.toNat] at h
  rw [if_neg (by omega), if_neg (by omega), if_neg (by omega)]
  rfl

lemma toNat_valid (c : Char) : c.toNat < 0xD800 ∨ 0xDFFF < c.toNat ∧ c.toNat < 0x110000 :=
  c.valid

lemma continues_second : continues [a] b = true ↔ (0x80 ≤ b.val ∧ b.val ≤ 0xBF) ∧
    (a.val = 0xE0 → 0xA0 ≤ b.val) ∧ (a.val = 0xED → b.val ≤ 0x9F) ∧ (a.val = 0xF0 → 0x90 ≤ b.val) ∧
      (a.val = 0xF4 → b.val ≤ 0x8F) := by
  have hcontinues : continues [a] b = true ↔
      (secondRange a).1 ≤ b.val ∧ b.val ≤ (secondRange a).2 := decide_eq_true_iff
  rw [hcontinues, secondRange]
  split_ifs <;> dsimp only <;> omega

theorem whole_encodeChar (c : Char) :
    Whole (encodeChar c) ∧ codePoint (encodeChar c) = c.toNat := by
  have hvalid := toNat_valid c
  rcases Nat.lt_or_ge 0x7F c.toNat with h1 | h1
  · rcases Nat.lt_or_ge 0x7FF c.toNat with h2 | h2
    · rcases Nat.lt_or_ge 0xFFFF c.toNat with h3 | h3
      · obtain ⟨a, b, d, e, heq, ha, hb, hd, he⟩ := encodeChar_four h3
        rw [heq]
        refine ⟨⟨lengthOf_eq_four.mpr (by omega), ?_, ?_, ?_⟩, ?_⟩
        · exact continues_second.mpr (by omega)
        · exact decide_eq_true (by omega)
        · exact decide_eq_true (by omega)
        · simp only [codePoint]
          omega
      · obtain ⟨a, b, d, heq, ha, hb, hd⟩ := encodeChar_three h2 h3
        rw [heq]
        refine ⟨⟨lengthOf_eq_three.mpr (by omega), ?_, ?_⟩, ?_⟩
        · exact continues_second.mpr (by omega)
        · exact decide_eq_true (by omega)
        · simp only [codePoint]
          omega
    · obtain ⟨a, b, heq, ha, hb⟩ := encodeChar_two h1 h2
      rw [heq]
      refine ⟨⟨lengthOf_eq_two.mpr (by omega), ?_⟩, ?_⟩
      · exact continues_second.mpr (by omega)
      · simp only [codePoint]
        omega
  · obtain ⟨a, heq, ha⟩ := encodeChar_one h1
    rw [heq]
    refine ⟨?_, ha⟩
    change a.val ≤ 0x7F
    omega

lemma ofNat_toNat {n : ℕ} (h : n < 0xD800 ∨ 0xDFFF < n ∧ n < 0x110000) : (Char.ofNat n).toNat = n := by
  rw [Char.ofNat, dif_pos h]
  rfl

theorem encodeChar_whole (h : Whole bytes) : encodeChar (Char.ofNat (codePoint bytes)) = bytes := by
  match bytes, h with
  | [a], h =>
      have ha : a.val ≤ 0x7F := h
      have hn : (Char.ofNat (codePoint [a])).toNat = a.val := ofNat_toNat (by simp only [codePoint]; omega)
      obtain ⟨a', heq, ha'⟩ := encodeChar_one (by rw [hn]; exact ha)
      rw [heq, List.cons.injEq, Fin.ext_iff]
      exact ⟨ha'.trans hn, rfl⟩
  | [a, b], ⟨ha, hb⟩ =>
      have hlead := lengthOf_eq_two.mp ha
      have htail := tail_of_continues hb (by simp)
      have hn : (Char.ofNat (codePoint [a, b])).toNat = a.val % 0x20 * 0x40 + b.val % 0x40 :=
        ofNat_toNat (by simp only [codePoint]; omega)
      obtain ⟨a', b', heq, ha', hb'⟩ := encodeChar_two (c := Char.ofNat (codePoint [a, b])) (by omega) (by omega)
      rw [heq]
      simp only [List.cons.injEq, Fin.ext_iff, and_true]
      omega
  | [a, b, c], ⟨ha, hb, hc⟩ =>
      have hlead := lengthOf_eq_three.mp ha
      have hsecond := continues_second.mp hb
      have htail := tail_of_continues hc (by simp)
      have hn : (Char.ofNat (codePoint [a, b, c])).toNat =
          a.val % 0x10 * 0x1000 + b.val % 0x40 * 0x40 + c.val % 0x40 :=
        ofNat_toNat (by simp only [codePoint]; omega)
      obtain ⟨a', b', c', heq, ha', hb', hc'⟩ :=
        encodeChar_three (c := Char.ofNat (codePoint [a, b, c])) (by omega) (by omega)
      rw [heq]
      simp only [List.cons.injEq, Fin.ext_iff, and_true]
      omega
  | [a, b, c, d], ⟨ha, hb, hc, hd⟩ =>
      have hlead := lengthOf_eq_four.mp ha
      have hsecond := continues_second.mp hb
      have htail := tail_of_continues hc (by simp)
      have htail' := tail_of_continues hd (by simp)
      have hn : (Char.ofNat (codePoint [a, b, c, d])).toNat = a.val % 0x08 * 0x40000 +
          b.val % 0x40 * 0x1000 + c.val % 0x40 * 0x40 + d.val % 0x40 :=
        ofNat_toNat (by simp only [codePoint]; omega)
      obtain ⟨a', b', c', d', heq, ha', hb', hc', hd'⟩ :=
        encodeChar_four (c := Char.ofNat (codePoint [a, b, c, d])) (by omega)
      rw [heq]
      simp only [List.cons.injEq, Fin.ext_iff, and_true]
      omega

lemma begun_append {pending : List Octet} (h : Begun pending) (hne : pending ≠ [])
    (hb : continues pending b = true) :
    ((advance (pending ++ [b])).1 = [some (Char.ofNat (codePoint (pending ++ [b])))] ∧
      (advance (pending ++ [b])).2 = [] ∧ Whole (pending ++ [b])) ∨
    ((advance (pending ++ [b])).1 = [] ∧ (advance (pending ++ [b])).2 = pending ++ [b] ∧
      Begun (pending ++ [b])) := by
  match pending, h, hne with
  | [a], h, _ =>
      have h : 2 ≤ lengthOf a := h
      rcases Nat.lt_or_ge 2 (lengthOf a) with hmore | hlast
      · rw [List.singleton_append, advance_more (by simpa using hmore)]
        exact .inr ⟨rfl, rfl, hmore, hb⟩
      · rw [List.singleton_append, advance_whole (by simp; omega)]
        exact .inl ⟨rfl, rfl, by omega, hb⟩
  | [a, c], ⟨ha, hc⟩, _ =>
      rcases Nat.lt_or_ge 3 (lengthOf a) with hmore | hlast
      · rw [List.cons_append, List.singleton_append, advance_more (by simpa using hmore)]
        exact .inr ⟨rfl, rfl, hmore, hc, hb⟩
      · rw [List.cons_append, List.singleton_append, advance_whole (by simp; omega)]
        exact .inl ⟨rfl, rfl, by omega, hc, hb⟩
  | [a, c, d], ⟨ha, hc, hd⟩, _ =>
      have := lengthOf_le a
      rw [List.cons_append, List.cons_append, List.singleton_append, advance_whole (by simp; omega)]
      exact .inl ⟨rfl, rfl, by omega, hc, hd, hb⟩

lemma begun_advance (b : Octet) : ((advance [b]).1 = [none] ∧ (advance [b]).2 = []) ∨
    ((advance [b]).1 = [some (Char.ofNat (codePoint [b]))] ∧ (advance [b]).2 = [] ∧ Whole [b]) ∨
    ((advance [b]).1 = [] ∧ (advance [b]).2 = [b] ∧ Begun [b]) := by
  rcases Nat.lt_or_ge 1 (lengthOf b) with hmore | hlast
  · rw [advance_more (by simpa using hmore)]
    exact .inr (.inr ⟨rfl, rfl, hmore⟩)
  · rcases Nat.eq_zero_or_pos (lengthOf b) with hzero | hpos
    · rw [advance, if_pos hzero]
      exact .inl ⟨rfl, rfl⟩
    · have hone : lengthOf b = 1 := by omega
      rw [advance_whole (by simpa using hone)]
      exact .inr (.inl ⟨rfl, rfl, lengthOf_eq_one.mp hone⟩)

lemma unitsFrom_decoded {pending : List Octet} {text : List Char} (hbegun : Begun pending)
    (h : unitsFrom pending bytes = text.map some) : pending ++ bytes = encode text := by
  induction bytes generalizing pending text with
  | nil =>
      rw [unitsFrom, flush] at h
      split at h
      · next hnil =>
          obtain rfl := List.map_eq_nil_iff.mp h.symm
          rw [hnil]
          rfl
      · cases text <;> cases h
  | cons b bytes ih =>
      have hwhole : ∀ whole, Whole whole →
          [some (Char.ofNat (codePoint whole))] ++ unitsFrom [] bytes = text.map some →
          whole ++ bytes = encode text := by
        intro whole hwhole heq
        cases text with
        | nil => cases heq
        | cons c text =>
            obtain ⟨hc, hrest⟩ := List.cons.inj heq
            have hnil : Begun [] := trivial
            have hbytes : bytes = encode text := ih hnil hrest
            rw [encode, List.flatMap_cons, ← Option.some.inj hc, encodeChar_whole hwhole, hbytes]
            rfl
      cases hcontinues : continues pending b with
      | false =>
          rw [unitsFrom_cut hcontinues, flush] at h
          split at h
          · next hnil =>
              subst hnil
              rw [List.nil_append, units, unitsFrom, step_nil] at h
              rcases begun_advance b with ⟨hunits, -⟩ | ⟨hunits, hnext, hb⟩ | ⟨hunits, hnext, hb⟩
              · rw [hunits] at h
                cases text <;> cases h
              · rw [hunits, hnext] at h
                exact hwhole [b] hb h
              · rw [hunits, hnext, List.nil_append] at h
                exact ih hb h
          · cases text <;> cases h
      | true =>
          have hne : pending ≠ [] := by
            rintro rfl
            cases hcontinues
          rw [unitsFrom_continues hcontinues] at h
          rw [List.append_cons]
          rcases begun_append hbegun hne hcontinues with ⟨hunits, hnext, hb⟩ | ⟨hunits, hnext, hb⟩
          · rw [hunits, hnext] at h
            exact hwhole _ hb h
          · rw [hunits, hnext, List.nil_append] at h
            exact ih hb h

lemma units_encode_append (text : List Char) (rest : List Octet) :
    units (encode text ++ rest) = text.map some ++ units rest := by
  induction text with
  | nil => rfl
  | cons c text ih =>
      obtain ⟨hwhole, hpoint⟩ := whole_encodeChar c
      rw [encode, List.flatMap_cons, List.append_assoc, units_whole hwhole, hpoint, Char.ofNat_toNat]
      exact congrArg _ ih

lemma mapM_id_eq_some {α : Type} {l : List (Option α)} {l' : List α} :
    l.mapM id = some l' ↔ l = l'.map some := by
  induction l generalizing l' with
  | nil => cases l' <;> simp
  | cons a l ih =>
      cases a with
      | none => cases l' <;> simp
      | some a =>
          cases l' <;> simp only [List.mapM_cons, id, Option.bind_eq_bind, Option.bind_some,
            Option.pure_def, Option.bind_eq_some_iff, ih, List.map_nil, List.map_cons, List.cons.injEq,
            Option.some.injEq, reduceCtorEq, and_false, exists_const]
          exact ⟨fun ⟨rest, hrest, ha, htail⟩ => ⟨ha, htail ▸ hrest⟩,
            fun ⟨ha, hrest⟩ => ⟨_, hrest, ha, rfl⟩⟩

theorem decode_eq_some {text : List Char} : decode bytes = some text ↔ bytes = encode text := by
  rw [decode, mapM_id_eq_some]
  constructor
  · intro h
    have hnil : Begun [] := trivial
    exact unitsFrom_decoded hnil h
  · rintro rfl
    have happend := units_encode_append text []
    rwa [List.append_nil, units, units, unitsFrom, flush, if_pos rfl, List.append_nil] at happend

lemma decode_encode (text : List Char) : decode (encode text) = some text :=
  decode_eq_some.mpr rfl

lemma lossy_encode (text : List Char) : lossy (encode text) = text := by
  have hunits := mapM_id_eq_some.mp (decode_encode text)
  rw [lossy, hunits, List.map_map]
  exact List.map_id _

end Characters

section Pieces

variable {before later bytes : List Octet} {pieces : List (List Octet)}

def splits (before later : List Octet) : Bool :=
  later.head?.any (continues (pendingAfter [] before))

lemma units_append (h : splits before later = false) :
    units (before ++ later) = units before ++ units later := by
  have hwhole : units (before ++ later) =
      unitsBefore [] before ++ unitsFrom (pendingAfter [] before) later := unitsFrom_append
  have hbefore : units before = unitsBefore [] before ++ flush (pendingAfter [] before) := unitsFrom_eq
  rw [hwhole, hbefore, List.append_assoc]
  cases later with
  | nil =>
      have hnone : units [] = [] := rfl
      rw [hnone, List.append_nil, unitsFrom]
  | cons b later => rw [unitsFrom_cut h]

lemma length_units_append_lt (h : splits before later = true) :
    (units (before ++ later)).length < (units before).length + (units later).length := by
  have hwhole : units (before ++ later) =
      unitsBefore [] before ++ unitsFrom (pendingAfter [] before) later := unitsFrom_append
  have hbefore : units before = unitsBefore [] before ++ flush (pendingAfter [] before) := unitsFrom_eq
  cases later with
  | nil => cases h
  | cons b later =>
      have hpending : pendingAfter [] before ≠ [] := by
        intro hnil
        rw [splits, hnil] at h
        cases h
      have hcontinues : continues (pendingAfter [] before) b = true := h
      have hlt := @length_units_lt _ later b hcontinues hpending
      rw [hwhole, hbefore, List.length_append, List.length_append]
      omega

lemma length_units_append_le (before later : List Octet) :
    (units (before ++ later)).length ≤ (units before).length + (units later).length := by
  cases hsplits : splits before later with
  | false => rw [units_append hsplits, List.length_append]
  | true => exact (length_units_append_lt hsplits).le

lemma splits_append {middle : List Octet} (h : splits before (middle ++ later) = false) :
    splits (before ++ middle) later = splits middle later := by
  cases middle with
  | nil =>
      rw [List.append_nil, List.nil_append] at *
      rw [h, splits]
      cases later <;> rfl
  | cons b middle =>
      have hstep : (step (pendingAfter [] before) b).2 = (step [] b).2 := by
        rw [step_nil, step, if_neg]
        rw [Bool.not_eq_true]
        exact h
      simp only [splits, pendingAfter, List.foldl_append, List.foldl_cons] at hstep ⊢
      rw [hstep]

lemma length_units_flatten_le (pieces : List (List Octet)) :
    (units pieces.flatten).length ≤ (pieces.map fun piece => (units piece).length).sum := by
  induction pieces with
  | nil => exact le_refl _
  | cons piece pieces ih =>
      rw [List.flatten_cons, List.map_cons, List.sum_cons]
      exact (length_units_append_le _ _).trans (Nat.add_le_add_left ih _)

theorem lossy_flatten_iff (pieces : List (List Octet)) :
    lossy pieces.flatten = pieces.flatMap lossy ↔
      ∀ i, splits (pieces.take i).flatten (pieces.drop i).flatten = false := by
  induction pieces with
  | nil => simp [lossy, units, unitsFrom, flush, splits]
  | cons piece pieces ih =>
      rw [List.flatten_cons, List.flatMap_cons]
      cases hsplits : splits piece pieces.flatten with
      | true =>
          constructor
          · intro heq
            have hlength := congrArg List.length heq
            have hlt := length_units_append_lt hsplits
            have hle := length_units_flatten_le pieces
            have hsum : (pieces.flatMap lossy).length =
                (pieces.map fun piece => (units piece).length).sum := by
              simp [List.length_flatMap, lossy]
            rw [List.length_append, hsum] at hlength
            simp only [lossy, List.length_map] at hlength
            omega
          · intro hcuts
            have hcut := hcuts 1
            simp only [List.take_succ_cons, List.take_zero, List.drop_succ_cons, List.drop_zero,
              List.flatten_cons, List.flatten_nil, List.append_nil] at hcut
            rw [hcut] at hsplits
            cases hsplits
      | false =>
          have hpiece : lossy (piece ++ pieces.flatten) = lossy piece ++ lossy pieces.flatten := by
            rw [lossy, units_append hsplits, List.map_append]
            rfl
          rw [hpiece, List.append_cancel_left_eq, ih]
          have hlater : ∀ i, splits (piece ++ (pieces.take i).flatten) (pieces.drop i).flatten =
              splits (pieces.take i).flatten (pieces.drop i).flatten := by
            intro i
            apply splits_append
            rwa [← List.flatten_append, List.take_append_drop]
          constructor
          · intro hcuts i
            cases i with
            | zero =>
                rw [splits]
                cases (List.drop 0 (piece :: pieces)).flatten <;> rfl
            | succ i => exact (hlater i).trans (hcuts i)
          · intro hcuts i
            exact (hlater i).symm.trans (hcuts (i + 1))

end Pieces

end Utf8

end Library
