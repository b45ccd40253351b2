import DevCommandCenter.FileView.LineCommands

/-! A text as its lines, each with the line break it ends in, and what the line commands read of a
text so given. -/

namespace DevCommandCenter.FileView.LineCommands

open Library

structure Line where
  content : List Octet
  ending : List Octet
  deriving DecidableEq

def Line.bytes (line : Line) : List Octet :=
  line.content ++ line.ending

def render (lines : List Line) : List Octet :=
  lines.flatMap Line.bytes

def pushByte (byte : Octet) : List Line → List Line
  | [] => [⟨[byte], []⟩]
  | line :: rest =>
      if byte = lineFeed then ⟨[], lf⟩ :: line :: rest
      else if byte = carriageReturn ∧ line = ⟨[], lf⟩ then ⟨[], crlf⟩ :: rest
      else ⟨byte :: line.content, line.ending⟩ :: rest

def textLines : List Octet → List Line
  | [] => [⟨[], []⟩]
  | byte :: rest => pushByte byte (textLines rest)

def Line.Ended (line : Line) : Prop :=
  lineFeed ∉ line.content ∧
    (line.ending = crlf ∨ line.ending = lf ∧ line.content.getLast? ≠ some carriageReturn)

def Line.Last (line : Line) : Prop :=
  lineFeed ∉ line.content ∧ line.ending = []

def Laid : List Line → Prop
  | [] => False
  | [line] => line.Last
  | line :: rest => line.Ended ∧ Laid rest

def Doc.lines (doc : Doc) : List (List Octet) :=
  (List.range doc.lineCount).map doc.line

def blockMoved {α : Type} (lines : List α) (first last : ℕ) (up : Bool) : List α :=
  let block := (lines.drop first).take (last + 1 - first)
  if up then
    lines.take (first - 1) ++ block ++ (lines.drop (first - 1)).take 1 ++ lines.drop (last + 1)
  else lines.take first ++ (lines.drop (last + 1)).take 1 ++ block ++ lines.drop (last + 2)

def Doc.ending (doc : Doc) (line : ℕ) : List Octet :=
  between doc.text (doc.stop line) (doc.start (line + 1))

def Doc.span (doc : Doc) (selection : Range) (up : Bool) : ℕ × ℕ :=
  let (first, last) := doc.block selection
  if up then (first - 1, last) else (first, last + 1)

def KeepsContents (doc : Doc) (selection : Range) (up : Bool) : Prop :=
  let span := doc.span selection up
  let other := if up then span.1 else (doc.block selection).2
  (doc.eol = lf → (doc.line span.2).getLast? ≠ some carriageReturn) ∧
    (doc.ending span.2 = lf → (doc.line other).getLast? ≠ some carriageReturn)

def Uniform (doc : Doc) (selection : Range) (up : Bool) : Prop :=
  let span := doc.span selection up
  ∀ line ≤ span.2, span.1 ≤ line → doc.ending line = doc.eol ∨ line + 1 = doc.lineCount

def CutOff (doc : Doc) (selection : Range) (up : Bool) : Prop :=
  let block := doc.block selection
  up = false ∧ block.2 + 2 = doc.lineCount ∧ block.1 < block.2 ∧ doc.line block.2 = []

instance (doc : Doc) (selection : Range) (up : Bool) : Decidable (KeepsContents doc selection up) :=
  inferInstanceAs (Decidable (_ ∧ _))

instance (doc : Doc) (selection : Range) (up : Bool) : Decidable (Uniform doc selection up) :=
  inferInstanceAs (Decidable (∀ line ≤ _, _))

instance (doc : Doc) (selection : Range) (up : Bool) : Decidable (CutOff doc selection up) :=
  inferInstanceAs (Decidable (_ ∧ _))

section Lines

variable {line : Line} {lines more : List Line} {byte : Octet} {text : List Octet}

lemma laid_cons : Laid (line :: lines) ↔ lines = [] ∧ line.Last ∨ line.Ended ∧ Laid lines := by
  cases lines with
  | nil => simp [Laid]
  | cons next rest => simp [Laid]

lemma Laid.ne_nil (h : Laid lines) : lines ≠ [] := by
  rintro rfl
  exact h

lemma laid_append (hmore : more ≠ []) :
    Laid (lines ++ more) ↔ (∀ line ∈ lines, line.Ended) ∧ Laid more := by
  induction lines with
  | nil => simp
  | cons line lines ih =>
      have hne : lines ++ more ≠ [] := by simp [hmore]
      simp only [List.cons_append, laid_cons, hne, false_and, false_or, ih, List.mem_cons,
        forall_eq_or_imp, and_assoc]

lemma laid_pushByte (h : Laid lines) : Laid (pushByte byte lines) := by
  cases lines with
  | nil => exact absurd h id
  | cons line rest =>
      rw [pushByte]
      split
      · exact laid_cons.mpr (.inr ⟨⟨by simp, .inr ⟨rfl, by simp⟩⟩, h⟩)
      · rename_i hfeed
        split
        · rename_i hreturn
          obtain ⟨rfl, rfl⟩ := hreturn
          rcases laid_cons.mp h with ⟨-, hlast⟩ | ⟨-, hrest⟩
          · exact absurd hlast.2 (by decide)
          · exact laid_cons.mpr (.inr ⟨⟨by simp, .inl rfl⟩, hrest⟩)
        · rename_i hreturn
          have hcontent : lineFeed ∉ line.content → lineFeed ∉ byte :: line.content := by
            intro hnot
            simpa [eq_comm, hfeed] using hnot
          rcases laid_cons.mp h with ⟨hrest, hlast⟩ | ⟨hended, hrest⟩
          · exact laid_cons.mpr (.inl ⟨hrest, hcontent hlast.1, hlast.2⟩)
          · refine laid_cons.mpr (.inr ⟨⟨hcontent hended.1, ?_⟩, hrest⟩)
            rcases hended.2 with hcrlf | ⟨hlf, hreturns⟩
            · exact .inl hcrlf
            · refine .inr ⟨hlf, ?_⟩
              obtain ⟨content, ending⟩ := line
              cases content with
              | nil =>
                  intro heq
                  exact hreturn ⟨Option.some.inj heq, congrArg (Line.mk []) hlf⟩
              | cons first content =>
                  rw [List.getLast?_cons_cons]
                  exact hreturns

lemma laid_textLines (text : List Octet) : Laid (textLines text) := by
  induction text with
  | nil => exact ⟨by simp, rfl⟩
  | cons byte rest ih => exact laid_pushByte ih

lemma render_pushByte (h : lines ≠ []) : render (pushByte byte lines) = byte :: render lines := by
  cases lines with
  | nil => exact absurd rfl h
  | cons line rest =>
      rw [pushByte]
      split
      · rename_i hfeed
        rw [hfeed]
        rfl
      · split
        · rename_i hreturn
          obtain ⟨rfl, rfl⟩ := hreturn
          rfl
        · rfl

lemma render_textLines (text : List Octet) : render (textLines text) = text := by
  induction text with
  | nil => rfl
  | cons byte rest ih => rw [textLines, render_pushByte (laid_textLines rest).ne_nil, ih]

lemma textLines_content {content ending rest : List Octet} (hfeed : lineFeed ∉ content)
    (hreturn : ending = lf → content.getLast? ≠ some carriageReturn)
    (h : textLines rest = ⟨[], ending⟩ :: lines) :
    textLines (content ++ rest) = ⟨content, ending⟩ :: lines := by
  induction content with
  | nil => exact h
  | cons byte content ih =>
      have hbyte : byte ≠ lineFeed := fun heq => hfeed (heq ▸ List.mem_cons_self)
      have hrest := ih (fun hmem => hfeed (List.mem_cons_of_mem _ hmem)) (by
        intro hlf hlast
        apply hreturn hlf
        cases content with
        | nil => cases hlast
        | cons first content => rwa [List.getLast?_cons_cons])
      rw [List.cons_append, textLines, hrest, pushByte, if_neg hbyte, if_neg]
      rintro ⟨hcr, heq⟩
      obtain ⟨rfl, hlf⟩ := Line.mk.inj heq
      exact hreturn hlf (congrArg some hcr)

lemma textLines_render (h : Laid lines) : textLines (render lines) = lines := by
  induction lines with
  | nil => exact absurd h id
  | cons line rest ih =>
      obtain ⟨content, ending⟩ := line
      rcases laid_cons.mp h with ⟨rfl, hfeed, hlast⟩ | ⟨⟨hfeed, hending⟩, hrest⟩
      · subst hlast
        simp only [render, List.flatMap_cons, List.flatMap_nil, Line.bytes, List.append_assoc]
        exact textLines_content hfeed (fun hlf => absurd hlf (by decide)) rfl
      · have hlaid := ih hrest
        simp only [render, List.flatMap_cons, Line.bytes, List.append_assoc] at hlaid ⊢
        dsimp only at hfeed hending
        rcases hending with rfl | ⟨rfl, hreturn⟩
        · apply textLines_content hfeed (fun hlf => absurd hlf (by decide))
          show pushByte carriageReturn (pushByte lineFeed (textLines (rest.flatMap Line.bytes))) = _
          rw [hlaid]
          cases rest with
          | nil => exact absurd hrest id
          | cons next rest => rfl
        · apply textLines_content hfeed (fun _ => hreturn)
          show pushByte lineFeed (textLines (rest.flatMap Line.bytes)) = _
          rw [hlaid]
          cases rest with
          | nil => exact absurd hrest id
          | cons next rest => rfl

end Lines

section Reading

variable {pre post : List Line} {line : Line} {lines : List Line} {text : List Octet} {offset : ℕ}

@[simp] lemma new_text (text : List Octet) : (Doc.new text).text = text := rfl

def startsFrom (offset : ℕ) : List Line → List ℕ
  | [] => []
  | line :: rest => offset :: startsFrom (offset + line.bytes.length) rest

lemma feedsFrom_content {content rest : List Octet} (h : lineFeed ∉ content) :
    feedsFrom offset (content ++ rest) = feedsFrom (offset + content.length) rest := by
  induction content generalizing offset with
  | nil => rfl
  | cons byte content ih =>
      have hbyte : byte ≠ lineFeed := fun heq => h (heq ▸ List.mem_cons_self)
      rw [List.cons_append, feedsFrom, if_neg hbyte, ih fun hmem => h (List.mem_cons_of_mem _ hmem),
        List.length_cons]
      congr 1
      omega

lemma feedsFrom_render (h : Laid lines) :
    offset :: (feedsFrom offset (render lines)).map (· + 1) = startsFrom offset lines := by
  induction lines generalizing offset with
  | nil => exact absurd h id
  | cons line rest ih =>
      obtain ⟨content, ending⟩ := line
      rcases laid_cons.mp h with ⟨rfl, hfeed, hlast⟩ | ⟨⟨hfeed, hending⟩, hrest⟩
      · dsimp only at hfeed hlast
        subst hlast
        simp only [render, List.flatMap_cons, List.flatMap_nil, Line.bytes, List.append_assoc]
        rw [feedsFrom_content hfeed]
        rfl
      · dsimp only at hfeed hending
        rw [startsFrom, ← ih hrest]
        simp only [render, List.flatMap_cons, Line.bytes, List.append_assoc, List.length_append]
        rw [feedsFrom_content hfeed]
        rcases hending with rfl | ⟨rfl, -⟩
        · rfl
        · rfl

lemma starts_new (text : List Octet) : (Doc.new text).starts = startsFrom 0 (textLines text) := by
  rw [← feedsFrom_render (laid_textLines text), render_textLines]
  rfl

lemma length_startsFrom (offset : ℕ) (lines : List Line) :
    (startsFrom offset lines).length = lines.length := by
  induction lines generalizing offset with
  | nil => rfl
  | cons line rest ih => rw [startsFrom, List.length_cons, List.length_cons, ih]

lemma lineCount_new (text : List Octet) : (Doc.new text).lineCount = (textLines text).length := by
  rw [Doc.lineCount, starts_new, length_startsFrom]

lemma render_append (lines more : List Line) :
    render (lines ++ more) = render lines ++ render more :=
  List.flatMap_append

lemma render_cons (line : Line) (lines : List Line) :
    render (line :: lines) = line.bytes ++ render lines :=
  List.flatMap_cons

lemma startsFrom_append (offset : ℕ) (lines more : List Line) : startsFrom offset (lines ++ more) =
    startsFrom offset lines ++ startsFrom (offset + (render lines).length) more := by
  induction lines generalizing offset with
  | nil => rfl
  | cons line lines ih =>
      rw [List.cons_append, startsFrom, startsFrom, ih, render_cons, List.length_append,
        List.cons_append, Nat.add_assoc]

structure LineAt (text : List Octet) (pre : List Line) (line : Line) (post : List Line) : Prop where
  lines : textLines text = pre ++ line :: post

namespace LineAt

variable (h : LineAt text pre line post)

include h

lemma text_eq : text = render pre ++ (line.content ++ (line.ending ++ render post)) := by
  conv_lhs => rw [← render_textLines text, h.lines, render_append, render_cons]
  rw [Line.bytes, List.append_assoc]

lemma ended (hpost : post ≠ []) : line.Ended := by
  have hlaid := laid_textLines text
  rw [h.lines, laid_append (List.cons_ne_nil _ _), laid_cons] at hlaid
  rcases hlaid.2 with ⟨hnil, -⟩ | ⟨hended, -⟩
  · exact absurd hnil hpost
  · exact hended

lemma last (hpost : post = []) : line.Last := by
  have hlaid := laid_textLines text
  rw [h.lines, laid_append (List.cons_ne_nil _ _), laid_cons] at hlaid
  rcases hlaid.2 with ⟨-, hlast⟩ | ⟨-, hrest⟩
  · exact hlast
  · subst hpost
    exact absurd hrest id

lemma starts : (Doc.new text).starts = startsFrom 0 pre ++
    (render pre).length :: startsFrom ((render pre).length + line.bytes.length) post := by
  rw [starts_new, h.lines, startsFrom_append, startsFrom, Nat.zero_add]

lemma start : (Doc.new text).start pre.length = (render pre).length := by
  rw [Doc.start, h.starts, ← length_startsFrom 0 pre, List.getElem?_append_right le_rfl]
  simp

lemma next_start (hpost : post ≠ []) : (Doc.new text).starts[pre.length + 1]? =
    some ((render pre).length + line.bytes.length) := by
  cases post with
  | nil => exact absurd rfl hpost
  | cons next rest =>
      rw [h.starts, List.getElem?_append_right (by rw [length_startsFrom]; omega),
        length_startsFrom, Nat.add_sub_cancel_left, startsFrom]
      rfl

lemma no_next_start (hpost : post = []) : (Doc.new text).starts[pre.length + 1]? = none := by
  subst hpost
  rw [h.starts, List.getElem?_eq_none]
  simp [length_startsFrom, startsFrom]

lemma byte_at (index : ℕ) : text[(render pre).length + index]? =
    (line.content ++ (line.ending ++ render post))[index]? := by
  conv_lhs => rw [h.text_eq]
  rw [List.getElem?_append_right (Nat.le_add_right _ _), Nat.add_sub_cancel_left]

lemma stop : (Doc.new text).stop pre.length = (render pre).length + line.content.length := by
  have htext := congrArg List.length h.text_eq
  simp only [List.length_append] at htext
  by_cases hpost : post = []
  · have hlast := h.last hpost
    rw [Doc.stop, h.no_next_start hpost]
    simp only [new_text]
    rw [htext, hlast.2, hpost]
    rfl
  · have hended := h.ended hpost
    rw [Doc.stop, h.next_start hpost, h.start]
    rcases hended.2 with hcrlf | ⟨hlf, hreturn⟩
    · have hbytes : line.bytes.length = line.content.length + 2 := by
        rw [Line.bytes, List.length_append, hcrlf]
        rfl
      have hplace : (render pre).length + line.bytes.length - 1 - 1 =
          (render pre).length + line.content.length := by omega
      have hbyte : text[(render pre).length + line.content.length]? = some carriageReturn := by
        rw [h.byte_at, List.getElem?_append_right le_rfl, Nat.sub_self, hcrlf]
        rfl
      dsimp only
      split
      · exact hplace
      · rename_i hnot
        exact absurd ⟨by omega, hplace ▸ hbyte⟩ hnot
    · have hbytes : line.bytes.length = line.content.length + 1 := by
        rw [Line.bytes, List.length_append, hlf]
        rfl
      dsimp only
      split
      · rename_i hreturned
        obtain ⟨hlong, hbyte⟩ := hreturned
        have hplace : (render pre).length + line.bytes.length - 1 - 1 =
            (render pre).length + (line.content.length - 1) := by omega
        rw [new_text, hplace, h.byte_at, List.getElem?_append_left (by omega)] at hbyte
        rw [List.getLast?_eq_getElem?] at hreturn
        exact absurd hbyte hreturn
      · omega

lemma content : (Doc.new text).line pre.length = line.content := by
  rw [Doc.line, h.start, h.stop, between]
  rw [new_text, h.text_eq]
  simp

lemma ending : (Doc.new text).ending pre.length = line.ending := by
  have hstop : (Doc.new text).start (pre.length + 1) =
      (render pre ++ line.content).length + line.ending.length := by
    by_cases hpost : post = []
    · rw [Doc.start, h.no_next_start hpost, Option.getD_none, new_text]
      conv_lhs => rw [h.text_eq, hpost]
      simp [render, Nat.add_assoc]
    · rw [Doc.start, h.next_start hpost, Option.getD_some, Line.bytes, List.length_append,
        List.length_append, Nat.add_assoc]
  have htext : text = (render pre ++ line.content) ++ (line.ending ++ render post) := by
    conv_lhs => rw [h.text_eq]
    rw [List.append_assoc]
  rw [Doc.ending, h.stop, hstop, new_text, ← List.length_append]
  conv_lhs => rw [htext]
  simp [between]

end LineAt

end Reading

end DevCommandCenter.FileView.LineCommands
