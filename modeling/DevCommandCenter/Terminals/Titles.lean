import Mathlib.Data.List.Infix
import Mathlib.Data.List.TakeWhile
import DevCommandCenter.Library.Text
import DevCommandCenter.Library.Utf8

/-! The title of a terminal, taken from the escape sequences of its output. -/

namespace DevCommandCenter.Terminals

open Library

section Normalize

variable (isDecimal : Char → Bool)

def isAsciiLetter (c : Char) : Bool :=
  ('a' ≤ c ∧ c ≤ 'z') ∨ ('A' ≤ c ∧ c ≤ 'Z')

def isAsciiDigit (c : Char) : Bool :=
  '0' ≤ c ∧ c ≤ '9'

def isControl (c : Char) : Bool :=
  c.toNat < 0x20 ∨ 0x7F ≤ c.toNat ∧ c.toNat ≤ 0x9F

def afterSgr (body : List Char) : Option (List Char) :=
  match body.dropWhile fun c => isDecimal c || c = ';' || c = '?' with
  | c :: rest => if isAsciiLetter c then some rest else none
  | [] => none

def afterBell (body : List Char) : Option (List Char) :=
  match body.dropWhile (· ≠ '\x07') with
  | _ :: rest => some rest
  | [] => none

def afterBackslash (body : List Char) : Option (List Char) :=
  match body.dropWhile fun c => c ≠ '\x1b' && c ≠ '\\' with
  | '\\' :: rest => some rest
  | _ => none

/-- The text without what begins with an escape and `mark` and goes on as `after` says. At most `fuel`
characters are looked at. -/
def stripSequences (mark : Char) (after : List Char → Option (List Char)) : ℕ → List Char → List Char
  | 0, text => text
  | fuel + 1, '\x1b' :: c :: body =>
      match if c = mark then after body else none with
      | some rest => stripSequences mark after fuel rest
      | none => '\x1b' :: stripSequences mark after fuel (c :: body)
  | fuel + 1, c :: text => c :: stripSequences mark after fuel text
  | _ + 1, [] => []

def stripAnsiCodes (input : List Char) : List Char :=
  let sgr := stripSequences '[' (afterSgr isDecimal) input.length input
  let bell := stripSequences ']' afterBell sgr.length sgr
  stripSequences ']' afterBackslash bell.length bell

def splitWhitespace (text : List Char) : List (List Char) :=
  (text.splitOnP isWhitespace).filter (· ≠ [])

def joinWords (words : List (List Char)) : List Char :=
  [' '].intercalate words

def isTitleWord (word : List Char) : Bool :=
  !(word.head?.any isAsciiDigit) || ';' ∉ word || (¬"rgb:".toList <:+: word ∧ '#' ∉ word)

def normalizeTerminalTitle (raw : List Char) : Option (List Char) :=
  let cleaned := joinWords ((splitWhitespace (stripAnsiCodes isDecimal raw)).filter isTitleWord)
  let collapsed := cleaned.map fun c => if isControl c then ' ' else c
  let normalized := joinWords (splitWhitespace collapsed)
  if normalized = [] then none else some normalized

end Normalize

def isDigitByte (b : Octet) : Bool :=
  0x30 ≤ b.val ∧ b.val ≤ 0x39

def terminated : List Octet → Option (List Octet × List Octet)
  | [] => none
  | b :: rest =>
      if b = 0x07 then some ([], rest)
      else if b = 0x1B ∧ rest.head? = some 0x5C then some ([], rest.tail)
      else (terminated rest).map fun parts => (b :: parts.1, parts.2)

lemma length_terminated {bytes raw rest : List Octet} (h : terminated bytes = some (raw, rest)) :
    rest.length < bytes.length := by
  induction bytes generalizing raw with
  | nil => cases h
  | cons b bytes ih =>
      rw [terminated] at h
      split at h
      · cases h
        exact Nat.lt_succ_self _
      · split at h
        · cases h
          rw [List.length_tail, List.length_cons]
          omega
        · obtain ⟨parts, hparts, heq⟩ := Option.map_eq_some_iff.mp h
          cases heq
          exact (ih hparts).trans (Nat.lt_succ_self _)

section Titles

variable (isDecimal : Char → Bool)

def titleOf (kind raw : List Octet) : Option String := do
  if kind = [0x30] ∨ kind = [0x32] then
    let text ← Utf8.decode raw
    (normalizeTerminalTitle isDecimal text).map String.ofList
  else none

/-- The last title in the bytes, else `latest`, and what is to be read again with more bytes. -/
def scanTitles (latest : Option String) : List Octet → Option String × List Octet
  | [] => (latest, [])
  | b :: rest =>
      if b ≠ 0x1B then scanTitles latest rest
      else
        match rest with
        | [] => (latest, [b])
        | c :: body =>
            if c ≠ 0x5D then scanTitles latest (c :: body)
            else
              match _hbody : body.dropWhile isDigitByte with
              | [] => (latest, b :: c :: body)
              | d :: payload =>
                  if d ≠ 0x3B then scanTitles latest (c :: body)
                  else
                    match _hpayload : terminated payload with
                    | none => (latest, b :: c :: body)
                    | some (raw, more) =>
                        scanTitles ((titleOf isDecimal (body.takeWhile isDigitByte) raw).or latest) more
termination_by bytes => bytes.length
decreasing_by
  · exact Nat.lt_succ_self _
  · exact Nat.lt_succ_self _
  · exact Nat.lt_succ_self _
  · have hdrop := (List.dropWhile_suffix isDigitByte (l := body)).length_le
    have hmore := length_terminated _hpayload
    rw [_hbody, List.length_cons] at hdrop
    simp only [List.length_cons]
    omega

structure TitleReader where
  carry : List Octet
  title : Option String
  deriving DecidableEq

def updateTerminalTitleFromBytes (reader : TitleReader) (data : List Octet) : TitleReader :=
  let (latest, carry) := scanTitles isDecimal none (reader.carry ++ data)
  { carry := carry, title := latest.or reader.title }

def Unfinished (bytes : List Octet) : Prop :=
  bytes = [0x1B] ∨
  ∃ kind, (∀ b ∈ kind, isDigitByte b = true) ∧
    (bytes = [0x1B, 0x5D] ++ kind ∨
      ∃ payload, bytes = [0x1B, 0x5D] ++ kind ++ [0x3B] ++ payload ∧ 0x07 ∉ payload ∧
        ¬[0x1B, 0x5C] <:+: payload)

variable {isDecimal}

lemma terminated_append {bytes raw rest : List Octet} (h : terminated bytes = some (raw, rest))
    (later : List Octet) : terminated (bytes ++ later) = some (raw, rest ++ later) := by
  induction bytes generalizing raw with
  | nil => cases h
  | cons b bytes ih =>
      rw [terminated] at h
      rw [List.cons_append, terminated]
      split at h
      · next hbell =>
          cases h
          rw [if_pos hbell]
      · next hbell =>
          rw [if_neg hbell]
          split at h
          · next hescape =>
              cases h
              cases bytes with
              | nil => cases hescape.2
              | cons c bytes => exact if_pos hescape
          · next hescape =>
              obtain ⟨parts, hparts, heq⟩ := Option.map_eq_some_iff.mp h
              cases heq
              rw [if_neg, ih hparts]
              · rfl
              · cases bytes with
                | nil => cases hparts
                | cons c bytes => exact hescape

lemma suffix_terminated {bytes raw rest : List Octet} (h : terminated bytes = some (raw, rest)) :
    rest <:+ bytes := by
  induction bytes generalizing raw with
  | nil => cases h
  | cons b bytes ih =>
      rw [terminated] at h
      split at h
      · cases h
        exact List.suffix_cons _ _
      · split at h
        · cases h
          exact (List.tail_suffix _).trans (List.suffix_cons _ _)
        · obtain ⟨parts, hparts, heq⟩ := Option.map_eq_some_iff.mp h
          cases heq
          exact (ih hparts).trans (List.suffix_cons _ _)

lemma terminated_eq_none {bytes : List Octet} (h : terminated bytes = none) :
    0x07 ∉ bytes ∧ ¬[0x1B, 0x5C] <:+: bytes := by
  induction bytes with
  | nil => exact ⟨List.not_mem_nil, by simp⟩
  | cons b bytes ih =>
      rw [terminated] at h
      split at h
      · cases h
      · next hbell =>
          split at h
          · cases h
          · next hescape =>
              obtain ⟨hnone, hinfix⟩ := ih (Option.map_eq_none_iff.mp h)
              refine ⟨?_, ?_⟩
              · rw [List.mem_cons, not_or]
                exact ⟨fun heq => hbell heq.symm, hnone⟩
              · rw [List.infix_cons_iff, not_or]
                refine ⟨?_, hinfix⟩
                intro hprefix
                obtain ⟨hb, hrest⟩ := List.cons_prefix_cons.mp hprefix
                obtain ⟨more, rfl⟩ := hrest
                exact hescape ⟨hb.symm, rfl⟩

section Scan

variable {latest : Option String} {b c d : Octet} {rest body payload raw more : List Octet}

lemma scanTitles_other (h : b ≠ 0x1B) :
    scanTitles isDecimal latest (b :: rest) = scanTitles isDecimal latest rest := by
  rw [scanTitles.eq_def]
  exact if_pos h

lemma scanTitles_escape (h : c ≠ 0x5D) :
    scanTitles isDecimal latest (0x1B :: c :: body) = scanTitles isDecimal latest (c :: body) := by
  rw [scanTitles.eq_def]
  exact if_pos h

lemma scanTitles_malformed (hbody : body.dropWhile isDigitByte = d :: payload) (h : d ≠ 0x3B) :
    scanTitles isDecimal latest (0x1B :: 0x5D :: body) = scanTitles isDecimal latest (0x5D :: body) := by
  rw [scanTitles, if_neg (fun h => h rfl), if_neg (fun h => h rfl)]
  split
  · next heq =>
      rw [hbody] at heq
      cases heq
  · next heq =>
      rw [hbody] at heq
      cases heq
      rw [if_pos h]

lemma scanTitles_title (hbody : body.dropWhile isDigitByte = 0x3B :: payload)
    (hpayload : terminated payload = some (raw, more)) :
    scanTitles isDecimal latest (0x1B :: 0x5D :: body) =
      scanTitles isDecimal ((titleOf isDecimal (body.takeWhile isDigitByte) raw).or latest) more := by
  rw [scanTitles, if_neg (fun h => h rfl), if_neg (fun h => h rfl)]
  split
  · next heq =>
      rw [hbody] at heq
      cases heq
  · next heq =>
      rw [hbody] at heq
      cases heq
      rw [if_neg (fun h => h rfl)]
      split
      · next heq =>
          rw [hpayload] at heq
          cases heq
      · next heq =>
          rw [hpayload] at heq
          cases heq
          rfl

lemma scanTitles_alone : scanTitles isDecimal latest [0x1B] = (latest, [0x1B]) := by
  rw [scanTitles, if_neg (fun h => h rfl)]

lemma scanTitles_kind (hbody : body.dropWhile isDigitByte = []) :
    scanTitles isDecimal latest (0x1B :: 0x5D :: body) = (latest, 0x1B :: 0x5D :: body) := by
  rw [scanTitles, if_neg (fun h => h rfl), if_neg (fun h => h rfl)]
  split
  · rfl
  · next heq =>
      rw [hbody] at heq
      cases heq

lemma scanTitles_payload (hbody : body.dropWhile isDigitByte = 0x3B :: payload)
    (hpayload : terminated payload = none) :
    scanTitles isDecimal latest (0x1B :: 0x5D :: body) = (latest, 0x1B :: 0x5D :: body) := by
  rw [scanTitles, if_neg (fun h => h rfl), if_neg (fun h => h rfl)]
  split
  · rfl
  · next heq =>
      rw [hbody] at heq
      cases heq
      rw [if_neg (fun h => h rfl)]
      split
      · rfl
      · next heq =>
          rw [hpayload] at heq
          cases heq

lemma takeWhile_dropWhile_append (later : List Octet) (hbody : body.dropWhile isDigitByte = d :: payload) :
    (body ++ later).takeWhile isDigitByte = body.takeWhile isDigitByte ∧
      (body ++ later).dropWhile isDigitByte = d :: (payload ++ later) := by
  induction body with
  | nil => cases hbody
  | cons b body ih =>
      rw [List.cons_append, List.takeWhile_cons, List.takeWhile_cons, List.dropWhile_cons]
      rw [List.dropWhile_cons] at hbody
      split at hbody
      · next hdigit =>
          obtain ⟨htake, hdrop⟩ := ih hbody
          rw [if_pos hdigit, if_pos hdigit, if_pos hdigit, htake]
          exact ⟨rfl, hdrop⟩
      · next hdigit =>
          cases hbody
          rw [if_neg hdigit, if_neg hdigit, if_neg hdigit]
          exact ⟨rfl, rfl⟩

end Scan

theorem scanTitles_append (latest : Option String) (bytes later : List Octet) :
    scanTitles isDecimal latest (bytes ++ later) =
      scanTitles isDecimal (scanTitles isDecimal latest bytes).1
        ((scanTitles isDecimal latest bytes).2 ++ later) := by
  fun_induction scanTitles isDecimal latest bytes with
  | case1 => rfl
  | case2 latest b rest hb ih =>
      rw [List.cons_append, scanTitles_other hb]
      exact ih
  | case3 => rfl
  | case4 latest b hb c body hc ih =>
      obtain rfl := not_ne_iff.mp hb
      rw [List.cons_append, List.cons_append, scanTitles_escape hc]
      exact ih
  | case5 => rfl
  | case6 latest b hb c body hc d payload hbody hd ih =>
      obtain rfl := not_ne_iff.mp hb
      obtain rfl := not_ne_iff.mp hc
      obtain ⟨-, hlater⟩ := takeWhile_dropWhile_append later hbody
      rw [List.cons_append, List.cons_append, scanTitles_malformed hlater hd]
      exact ih
  | case7 => rfl
  | case8 latest b hb c body hc d payload hbody hd raw more hpayload ih =>
      obtain rfl := not_ne_iff.mp hb
      obtain rfl := not_ne_iff.mp hc
      obtain rfl := not_ne_iff.mp hd
      obtain ⟨hkind, hlater⟩ := takeWhile_dropWhile_append later hbody
      rw [List.cons_append, List.cons_append, scanTitles_title hlater (terminated_append hpayload later), hkind]
      exact ih

lemma scanTitles_latest (latest : Option String) (bytes : List Octet) : scanTitles isDecimal latest bytes =
    ((scanTitles isDecimal none bytes).1.or latest, (scanTitles isDecimal none bytes).2) := by
  suffices h : ∀ title, scanTitles isDecimal title bytes =
      ((scanTitles isDecimal none bytes).1.or title, (scanTitles isDecimal none bytes).2) from h latest
  induction latest, bytes using scanTitles.induct isDecimal with
  | case1 =>
      intro title
      rw [scanTitles, scanTitles]
      rfl
  | case2 latest b rest hb ih =>
      intro title
      rw [scanTitles_other hb, scanTitles_other hb]
      exact ih title
  | case3 latest b hb =>
      intro title
      obtain rfl := not_ne_iff.mp hb
      rw [scanTitles_alone, scanTitles_alone, Option.none_or]
  | case4 latest b hb c body hc ih =>
      intro title
      obtain rfl := not_ne_iff.mp hb
      rw [scanTitles_escape hc, scanTitles_escape hc]
      exact ih title
  | case5 latest b hb c body hc hbody =>
      intro title
      obtain rfl := not_ne_iff.mp hb
      obtain rfl := not_ne_iff.mp hc
      rw [scanTitles_kind hbody, scanTitles_kind hbody, Option.none_or]
  | case6 latest b hb c body hc d payload hbody hd ih =>
      intro title
      obtain rfl := not_ne_iff.mp hb
      obtain rfl := not_ne_iff.mp hc
      rw [scanTitles_malformed hbody hd, scanTitles_malformed hbody hd]
      exact ih title
  | case7 latest b hb c body hc d payload hbody hd hpayload =>
      intro title
      obtain rfl := not_ne_iff.mp hb
      obtain rfl := not_ne_iff.mp hc
      obtain rfl := not_ne_iff.mp hd
      rw [scanTitles_payload hbody hpayload, scanTitles_payload hbody hpayload, Option.none_or]
  | case8 latest b hb c body hc d payload hbody hd raw more hpayload ih =>
      intro title
      obtain rfl := not_ne_iff.mp hb
      obtain rfl := not_ne_iff.mp hc
      obtain rfl := not_ne_iff.mp hd
      rw [scanTitles_title hbody hpayload, scanTitles_title hbody hpayload, ih,
        ih ((titleOf isDecimal _ raw).or none), Option.or_none, Option.or_assoc]

lemma scanTitles_unfinished (latest : Option String) (bytes : List Octet) :
    (scanTitles isDecimal latest bytes).2 <:+ bytes ∧
      ((scanTitles isDecimal latest bytes).2 = [] ∨ Unfinished (scanTitles isDecimal latest bytes).2) := by
  fun_induction scanTitles isDecimal latest bytes with
  | case1 => exact ⟨List.suffix_refl _, .inl rfl⟩
  | case2 latest b rest hb ih => exact ⟨ih.1.trans (List.suffix_cons _ _), ih.2⟩
  | case3 latest b hb =>
      obtain rfl := not_ne_iff.mp hb
      exact ⟨List.suffix_refl _, .inr (.inl rfl)⟩
  | case4 latest b hb c body hc ih => exact ⟨ih.1.trans (List.suffix_cons _ _), ih.2⟩
  | case5 latest b hb c body hc hbody =>
      obtain rfl := not_ne_iff.mp hb
      obtain rfl := not_ne_iff.mp hc
      refine ⟨List.suffix_refl _, .inr (.inr ⟨body, ?_, .inl rfl⟩)⟩
      exact List.dropWhile_eq_nil_iff.mp hbody
  | case6 latest b hb c body hc d payload hbody hd ih =>
      exact ⟨ih.1.trans (List.suffix_cons _ _), ih.2⟩
  | case7 latest b hb c body hc d payload hbody hd hpayload =>
      obtain rfl := not_ne_iff.mp hb
      obtain rfl := not_ne_iff.mp hc
      obtain rfl := not_ne_iff.mp hd
      obtain ⟨hbell, hescape⟩ := terminated_eq_none hpayload
      refine ⟨List.suffix_refl _, .inr (.inr ⟨body.takeWhile isDigitByte, ?_, .inr ⟨payload, ?_, hbell, hescape⟩⟩)⟩
      · intro b hb
        exact List.mem_takeWhile_imp hb
      · have hparts := List.takeWhile_append_dropWhile (p := isDigitByte) (l := body)
        rw [hbody] at hparts
        rw [List.append_assoc, List.append_assoc, List.singleton_append, hparts]
        rfl
  | case8 latest b hb c body hc d payload hbody hd raw more hpayload ih =>
      have hpart : d :: payload <:+ body := hbody ▸ List.dropWhile_suffix isDigitByte
      have hmore : more <:+ body := (suffix_terminated hpayload).trans ((List.suffix_cons _ _).trans hpart)
      exact ⟨(ih.1.trans hmore).trans ((List.suffix_cons _ _).trans (List.suffix_cons _ _)), ih.2⟩

lemma update_append (reader : TitleReader) (first later : List Octet) :
    updateTerminalTitleFromBytes isDecimal (updateTerminalTitleFromBytes isDecimal reader first) later =
      updateTerminalTitleFromBytes isDecimal reader (first ++ later) := by
  simp only [updateTerminalTitleFromBytes]
  rw [← List.append_assoc, scanTitles_append none (reader.carry ++ first) later,
    scanTitles_latest (scanTitles isDecimal none (reader.carry ++ first)).1]
  rw [Option.or_assoc]

lemma update_nil (title : Option String) :
    updateTerminalTitleFromBytes isDecimal ⟨[], title⟩ [] = ⟨[], title⟩ := by
  rw [updateTerminalTitleFromBytes, List.append_nil, scanTitles]
  rfl

lemma foldl_update (title : Option String) (first : List Octet) (chunks : List (List Octet)) :
    chunks.foldl (updateTerminalTitleFromBytes isDecimal)
        (updateTerminalTitleFromBytes isDecimal ⟨[], title⟩ first) =
      updateTerminalTitleFromBytes isDecimal ⟨[], title⟩ (first ++ chunks.flatten) := by
  induction chunks generalizing first with
  | nil => rw [List.flatten_nil, List.append_nil, List.foldl_nil]
  | cons chunk chunks ih => rw [List.foldl_cons, update_append, ih, List.flatten_cons, List.append_assoc]

/-- Calls with the chunks one by one leave the title and the carry that one call with the whole stream
leaves. After each of them the carry is empty, or the bytes so far end with it and it begins with a
sequence that is not at its end. -/
theorem update_chunks (title : Option String) (chunks : List (List Octet)) :
    chunks.foldl (updateTerminalTitleFromBytes isDecimal) ⟨[], title⟩ =
        updateTerminalTitleFromBytes isDecimal ⟨[], title⟩ chunks.flatten ∧
      ∀ i,
        let carry := ((chunks.take i).foldl (updateTerminalTitleFromBytes isDecimal) ⟨[], title⟩).carry
        carry = [] ∨ carry <:+ (chunks.take i).flatten ∧ Unfinished carry := by
  have hwhole : ∀ chunks : List (List Octet),
      chunks.foldl (updateTerminalTitleFromBytes isDecimal) ⟨[], title⟩ =
        updateTerminalTitleFromBytes isDecimal ⟨[], title⟩ chunks.flatten := by
    intro chunks
    rw [← update_nil title, foldl_update, update_nil, List.nil_append]
  refine ⟨hwhole chunks, ?_⟩
  intro i carry
  have hcarry : carry = (scanTitles isDecimal none (chunks.take i).flatten).2 :=
    congrArg TitleReader.carry (hwhole (chunks.take i))
  obtain ⟨hsuffix, hleft⟩ := @scanTitles_unfinished isDecimal none (chunks.take i).flatten
  rw [hcarry]
  exact hleft.imp_right fun hunfinished => ⟨hsuffix, hunfinished⟩

end Titles

end DevCommandCenter.Terminals
