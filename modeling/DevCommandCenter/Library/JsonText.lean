import Mathlib.Data.List.Basic
import Mathlib.Data.Nat.Notation
import Mathlib.Tactic.SplitIfs

/-! Objects of strings as JSON text. -/

namespace Library

namespace JsonText

def hexDigit (n : ℕ) : Char :=
  if n < 10 then Char.ofNat (0x30 + n) else Char.ofNat (0x57 + n)

def hexValue (c : Char) : Option ℕ :=
  if '0' ≤ c ∧ c ≤ '9' then some (c.toNat - 0x30)
  else if 'a' ≤ c ∧ c ≤ 'f' then some (c.toNat - 0x57)
  else if 'A' ≤ c ∧ c ≤ 'F' then some (c.toNat - 0x37)
  else none

def escapeChar (c : Char) : List Char :=
  if c = '"' then ['\\', '"']
  else if c = '\\' then ['\\', '\\']
  else if c = '\x08' then ['\\', 'b']
  else if c = '\x0c' then ['\\', 'f']
  else if c = '\n' then ['\\', 'n']
  else if c = '\r' then ['\\', 'r']
  else if c = '\t' then ['\\', 't']
  else if c.toNat < 0x20 then ['\\', 'u', '0', '0', hexDigit (c.toNat / 16), hexDigit (c.toNat % 16)]
  else [c]

def quote (text : List Char) : List Char :=
  '"' :: (text.flatMap escapeChar ++ ['"'])

def unescape (c : Char) : Option Char :=
  if c = '"' ∨ c = '\\' ∨ c = '/' then some c
  else if c = 'b' then some '\x08'
  else if c = 'f' then some '\x0c'
  else if c = 'n' then some '\n'
  else if c = 'r' then some '\r'
  else if c = 't' then some '\t'
  else none

def codeUnit (digits : List Char) : Option ℕ :=
  digits.foldlM (fun n c => (hexValue c).map (n * 16 + ·)) 0

def unquote : List Char → Option (List Char × List Char)
  | [] => none
  | '"' :: rest => some ([], rest)
  | '\\' :: 'u' :: a :: b :: c :: d :: rest => do
      let unit ← codeUnit [a, b, c, d]
      if 0xD800 ≤ unit ∧ unit < 0xDC00 then
        -- the first unit of two
        match rest with
        | '\\' :: 'u' :: a' :: b' :: c' :: d' :: rest => do
            let last ← codeUnit [a', b', c', d']
            if 0xDC00 ≤ last ∧ last < 0xE000 then
              (unquote rest).map fun parts =>
                (Char.ofNat (0x10000 + (unit - 0xD800) * 0x400 + (last - 0xDC00)) :: parts.1, parts.2)
            else none
        | _ => none
      else if 0xDC00 ≤ unit ∧ unit < 0xE000 then none
      else (unquote rest).map fun parts => (Char.ofNat unit :: parts.1, parts.2)
  | '\\' :: c :: rest => do
      let c ← unescape c
      (unquote rest).map fun parts => (c :: parts.1, parts.2)
  | c :: rest =>
      if c.toNat < 0x20 then none else (unquote rest).map fun parts => (c :: parts.1, parts.2)

lemma hexValue_hexDigit : ∀ n < 16, hexValue (hexDigit n) = some n := by
  decide

lemma unquote_escapeChar (c : Char) (rest : List Char) :
    unquote (escapeChar c ++ rest) = (unquote rest).map fun parts => (c :: parts.1, parts.2) := by
  rw [escapeChar]
  split_ifs with h1 h2 h3 h4 h5 h6 h7 h8
  · subst h1
    rfl
  · subst h2
    rfl
  · subst h3
    rfl
  · subst h4
    rfl
  · subst h5
    rfl
  · subst h6
    rfl
  · subst h7
    rfl
  · have hhigh := hexValue_hexDigit (c.toNat / 16) (by omega)
    have hlow := hexValue_hexDigit (c.toNat % 16) (by omega)
    have hunit : codeUnit ['0', '0', hexDigit (c.toNat / 16), hexDigit (c.toNat % 16)] = some c.toNat := by
      have hzero : hexValue '0' = some 0 := rfl
      simp only [codeUnit, List.foldlM_cons, List.foldlM_nil, hzero, hhigh, hlow, Option.map_some,
        Option.bind_eq_bind, Option.bind_some, Option.pure_def]
      congr 1
      omega
    simp only [List.cons_append, List.nil_append, unquote]
    rw [hunit, Option.bind_eq_bind, Option.bind_some, if_neg (by omega), if_neg (by omega), Char.ofNat_toNat]
  · rw [List.singleton_append, unquote.eq_def]
    split <;> (simp_all; try omega)

theorem unquote_quote (text rest : List Char) :
    unquote (text.flatMap escapeChar ++ '"' :: rest) = some (text, rest) := by
  induction text with
  | nil => rfl
  | cons c text ih => rw [List.flatMap_cons, List.append_assoc, unquote_escapeChar, ih, Option.map_some]

def skipSpace (text : List Char) : List Char :=
  text.dropWhile fun c => c = ' ' || c = '\t' || c = '\n' || c = '\r'

def string (text : List Char) : Option (List Char × List Char) :=
  match skipSpace text with
  | '"' :: rest => unquote rest
  | _ => none

def members : ℕ → List Char → Option (List (List Char × List Char))
  | 0, _ => none
  | fuel + 1, text => do
      let (name, rest) ← string text
      match skipSpace rest with
      | ':' :: rest => do
          let (value, rest) ← string rest
          match skipSpace rest with
          | ',' :: rest => (members fuel rest).map ((name, value) :: ·)
          | '}' :: rest => if skipSpace rest = [] then some [(name, value)] else none
          | _ => none
      | _ => none

def parse (text : List Char) : Option (List (List Char × List Char)) :=
  match skipSpace text with
  | '{' :: rest =>
      match skipSpace rest with
      | '}' :: rest => if skipSpace rest = [] then some [] else none
      | rest => members rest.length rest
  | _ => none

def printMember (field : List Char × List Char) : List Char :=
  quote field.1 ++ ':' :: quote field.2

def print (fields : List (List Char × List Char)) : List Char :=
  '{' :: ([','].intercalate (fields.map printMember) ++ ['}'])

lemma string_quote (text rest : List Char) : string (quote text ++ rest) = some (text, rest) := by
  rw [string, quote, List.cons_append, skipSpace, List.dropWhile_cons, if_neg (by decide),
    List.append_assoc, List.singleton_append]
  exact unquote_quote text rest

lemma members_print (field : List Char × List Char) (fields : List (List Char × List Char)) (fuel : ℕ)
    (h : fields.length < fuel) :
    members fuel ([','].intercalate ((field :: fields).map printMember) ++ ['}']) = some (field :: fields) := by
  have hmember : ∀ (field : List Char × List Char) rest, printMember field ++ rest =
      quote field.1 ++ (':' :: (quote field.2 ++ rest)) := by
    intro field rest
    rw [printMember, List.append_assoc, List.cons_append]
  have hcolon : ∀ rest : List Char, skipSpace (':' :: rest) = ':' :: rest := fun _ => rfl
  have hcomma : ∀ rest : List Char, skipSpace (',' :: rest) = ',' :: rest := fun _ => rfl
  induction fields generalizing field fuel with
  | nil =>
      obtain ⟨fuel, rfl⟩ := Nat.exists_eq_add_one_of_ne_zero (by omega : fuel ≠ 0)
      rw [List.map_singleton, List.intercalate_singleton, hmember, members, string_quote]
      simp only [Option.bind_eq_bind, Option.bind_some, hcolon, string_quote]
      rfl
  | cons next fields ih =>
      obtain ⟨fuel, rfl⟩ := Nat.exists_eq_add_one_of_ne_zero (by omega : fuel ≠ 0)
      have hnext := ih next fuel (by simpa using h)
      rw [List.map_cons, List.map_cons, List.intercalate_cons_cons, List.append_assoc, List.append_assoc,
        hmember, members, string_quote]
      simp only [Option.bind_eq_bind, Option.bind_some, hcolon, string_quote, List.singleton_append, hcomma]
      rw [← List.map_cons, hnext, Option.map_some]

lemma length_members (fields : List (List Char × List Char)) :
    fields.length ≤ ([','].intercalate (fields.map printMember)).length := by
  induction fields with
  | nil => exact Nat.zero_le _
  | cons field fields ih =>
      cases fields with
      | nil => simp [printMember, quote]
      | cons next fields =>
          rw [List.map_cons, List.map_cons, List.intercalate_cons_cons, ← List.map_cons, List.length_append,
            List.length_append, List.length_singleton, List.length_cons]
          omega

theorem parse_print (fields : List (List Char × List Char)) : parse (print fields) = some fields := by
  cases fields with
  | nil => rfl
  | cons field fields =>
      have hlength := length_members (field :: fields)
      have hread := members_print field fields
        ([','].intercalate ((field :: fields).map printMember) ++ ['}']).length
        (by simp only [List.length_append, List.length_cons] at hlength ⊢; omega)
      have hquote : ∃ rest, [','].intercalate ((field :: fields).map printMember) ++ ['}'] = '"' :: rest := by
        cases fields with
        | nil =>
            rw [List.map_singleton, List.intercalate_singleton]
            exact ⟨_, rfl⟩
        | cons next fields =>
            rw [List.map_cons, List.map_cons, List.intercalate_cons_cons]
            exact ⟨_, rfl⟩
      obtain ⟨rest, hrest⟩ := hquote
      rw [hrest] at hread
      rw [print, hrest]
      exact hread

end JsonText

end Library
