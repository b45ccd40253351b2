import Mathlib.Data.List.DropRight
import Mathlib.Data.Nat.Notation

/-! White space as the Unicode property has it, and texts without it at an end. -/

namespace Library

def isWhitespace (c : Char) : Bool :=
  decide (c.toNat ∈ [0x20, 0x85, 0xA0, 0x1680, 0x2028, 0x2029, 0x202F, 0x205F, 0x3000] ∨
    (0x9 ≤ c.toNat ∧ c.toNat ≤ 0xD) ∨ (0x2000 ≤ c.toNat ∧ c.toNat ≤ 0x200A))

def isBlank (text : String) : Bool :=
  text.toList.all isWhitespace

def trim (text : String) : String :=
  String.ofList (((text.toList.dropWhile isWhitespace).reverse.dropWhile isWhitespace).reverse)

lemma dropWhile_of_none {p : Char → Bool} {l : List Char} (h : ∀ c ∈ l, p c = false) : l.dropWhile p = l := by
  cases l with
  | nil => rfl
  | cons c l => rw [List.dropWhile_cons, h c (List.mem_cons_self ..), if_neg Bool.false_ne_true]

lemma trim_of_no_space {text : String} (h : ∀ c ∈ text.toList, isWhitespace c = false) : trim text = text := by
  have hback : ∀ c ∈ text.toList.reverse, isWhitespace c = false :=
    fun c hc => h c (List.mem_reverse.mp hc)
  rw [trim, dropWhile_of_none h, dropWhile_of_none hback, List.reverse_reverse, String.ofList_toList]

lemma trim_line {text : String} (h : ∀ c ∈ text.toList, isWhitespace c = false) :
    trim (text ++ "\n") = text := by
  have hback : ∀ c ∈ text.toList.reverse, isWhitespace c = false :=
    fun c hc => h c (List.mem_reverse.mp hc)
  have hline : (text ++ "\n").toList = text.toList ++ ['\n'] := String.toList_append
  rw [trim, hline]
  cases htext : text.toList with
  | nil =>
      rw [← String.toList_inj, String.toList_ofList, htext]
      rfl
  | cons c rest =>
      have hfirst : ((c :: rest) ++ ['\n']).dropWhile isWhitespace = (c :: rest) ++ ['\n'] := by
        rw [List.cons_append, List.dropWhile_cons, h c (by rw [htext]; exact List.mem_cons_self ..),
          if_neg Bool.false_ne_true]
      have hlast : ('\n' :: (c :: rest).reverse).dropWhile isWhitespace = (c :: rest).reverse := by
        rw [List.dropWhile_cons, if_pos (by decide), ← htext, dropWhile_of_none hback]
      rw [hfirst, List.reverse_append, List.reverse_singleton, List.singleton_append, hlast,
        List.reverse_reverse, ← htext, String.ofList_toList]

lemma append_left_inj {text more more' : String} (h : text ++ more = text ++ more') : more = more' := by
  have hlist := congrArg String.toList h
  rw [String.toList_append, String.toList_append] at hlist
  exact String.toList_injective (List.append_cancel_left hlist)

lemma append_mark_inj {mark : Char} {before before' after after' : List Char} (h : mark ∉ after)
    (h' : mark ∉ after') (heq : before ++ mark :: after = before' ++ mark :: after') :
    before = before' ∧ after = after' := by
  have hside : ∀ rest later later' : List Char, mark ∉ later →
      mark :: later = rest ++ mark :: later' → rest = [] := by
    intro rest later later' hlater hrest
    cases rest with
    | nil => rfl
    | cons first rest =>
        obtain ⟨-, rfl⟩ := List.cons_eq_cons.mp hrest
        exact absurd (List.mem_append_right _ (List.mem_cons_self ..)) hlater
  rcases List.append_eq_append_iff.mp heq with ⟨rest, rfl, hrest⟩ | ⟨rest, rfl, hrest⟩
  · obtain rfl := hside rest after after' h hrest
    rw [List.nil_append] at hrest
    exact ⟨(List.append_nil _).symm, (List.cons_eq_cons.mp hrest).2⟩
  · obtain rfl := hside rest after' after h' hrest
    rw [List.nil_append] at hrest
    exact ⟨List.append_nil _, (List.cons_eq_cons.mp hrest).2.symm⟩

lemma toString_nat_toList (n : ℕ) : (toString n).toList = Nat.toDigits 10 n :=
  Nat.toList_repr

lemma toString_nat_injective {m n : ℕ} (h : toString m = toString n) : m = n := by
  have hdigits := congrArg String.toList h
  rw [toString_nat_toList, toString_nat_toList] at hdigits
  have hvalue := congrArg (fun digits => Nat.ofDigitChars 10 digits 0) hdigits
  rwa [Nat.ofDigitChars_toDigits (by decide) (by decide),
    Nat.ofDigitChars_toDigits (by decide) (by decide)] at hvalue

lemma dash_notMem_toString (n : ℕ) : '-' ∉ (toString n).toList := by
  rw [toString_nat_toList]
  intro hdash
  exact absurd (Nat.isDigit_of_mem_toDigits (by decide) (by decide) hdash) (by decide)

lemma append_dash_number_inj {text text' : String} {m n : ℕ}
    (h : text ++ "-" ++ toString m = text' ++ "-" ++ toString n) : text = text' ∧ m = n := by
  have hlist := congrArg String.toList h
  simp only [String.toList_append, List.append_assoc] at hlist
  obtain ⟨htext, hnumber⟩ := append_mark_inj (dash_notMem_toString m) (dash_notMem_toString n) hlist
  exact ⟨String.toList_injective htext, toString_nat_injective (String.toList_injective hnumber)⟩

section Trimmed

variable {text : String} {letters : List Char} {c : Char}

def trimEnd (text : String) : String :=
  String.ofList ((text.toList.reverse.dropWhile isWhitespace).reverse)

def Ends (text : String) : Prop :=
  ∃ c ∈ text.toList.getLast?, isWhitespace c = false

lemma trimEnd_front (text : String) : (trimEnd text).toList <+: text.toList := by
  rw [trimEnd, String.toList_ofList]
  have hsuffix := List.dropWhile_suffix (l := text.toList.reverse) isWhitespace
  rw [← List.reverse_prefix, List.reverse_reverse] at hsuffix
  exact hsuffix

lemma ends_trim (h : trim text ≠ "") : Ends (trim text) := by
  rw [Ends, trim, String.toList_ofList, List.getLast?_reverse]
  have hfirst := List.head?_dropWhile_not isWhitespace (text.toList.dropWhile isWhitespace).reverse
  cases hrest : (text.toList.dropWhile isWhitespace).reverse.dropWhile isWhitespace with
  | nil =>
      rw [trim, hrest] at h
      exact absurd rfl h
  | cons c rest =>
      rw [hrest] at hfirst
      exact ⟨c, rfl, by simpa using hfirst⟩

lemma Ends.append (more : String) (h : Ends text) : Ends (more ++ text) := by
  obtain ⟨c, hlast, hc⟩ := h
  refine ⟨c, ?_, hc⟩
  rw [String.toList_append, List.getLast?_append, Option.mem_def.mp hlast]
  rfl

lemma trim_of_ends (hfirst : ∃ c ∈ text.toList.head?, isWhitespace c = false) (hlast : Ends text) :
    trim text = text := by
  obtain ⟨c, hc, hblack⟩ := hfirst
  obtain ⟨d, hd, hblack'⟩ := hlast
  have hfront : text.toList.dropWhile isWhitespace = text.toList := by
    cases hlist : text.toList with
    | nil => rfl
    | cons first rest =>
        rw [hlist] at hc
        obtain rfl := Option.some.inj hc
        exact List.dropWhile_cons_of_neg (by rw [hblack]; exact Bool.false_ne_true)
  have hback : text.toList.reverse.dropWhile isWhitespace = text.toList.reverse := by
    cases hlist : text.toList.reverse with
    | nil => rfl
    | cons last rest =>
        rw [← List.head?_reverse, hlist] at hd
        obtain rfl := Option.some.inj hd
        exact List.dropWhile_cons_of_neg (by rw [hblack']; exact Bool.false_ne_true)
  rw [trim, hfront, hback, List.reverse_reverse, String.ofList_toList]

end Trimmed

end Library
