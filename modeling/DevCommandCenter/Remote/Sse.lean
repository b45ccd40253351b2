import DevCommandCenter.Library.LineBuffer
import DevCommandCenter.Library.Utf8

/-! The parser of the desktop's event stream. It is fed the bytes as they come. -/

namespace DevCommandCenter.Remote

open Library

structure SseEvent where
  event : Option String
  data : String
  id : Option String
  deriving DecidableEq, Repr

structure SseParser where
  buffer : List Octet
  event : Option String
  data : Option String
  id : Option String
  deriving DecidableEq

def maxLine : ℕ := 8 * 1024 * 1024

namespace SseParser

def new : SseParser := ⟨[], none, none, none⟩

def stripSpace : List Char → List Char
  | ' ' :: value => value
  | value => value

def field (line : List Char) : String × String :=
  if ':' ∈ line then
    (String.ofList (line.takeWhile (· ≠ ':')),
      String.ofList (stripSpace (line.dropWhile (· ≠ ':')).tail))
  else (String.ofList line, "")

def line (parser : SseParser) (line : List Char) : Option SseEvent × SseParser :=
  if line = [] then
    (parser.data.map fun data => ⟨parser.event, data, parser.id⟩,
      { parser with data := none, event := none, id := none })
  else if line.head? = some ':' then (none, parser)
  else
    match field line with
    | ("event", value) => (none, { parser with event := some value })
    | ("id", value) => (none, { parser with id := some value })
    | ("data", value) =>
        match parser.data with
        | some data => (none, { parser with data := some (data ++ "\n" ++ value) })
        | none => (none, { parser with data := some value })
    | _ => (none, parser)

def stripReturn (line : List Octet) : List Octet :=
  if line.getLast? = some 0x0D then line.dropLast else line

def lines (parser : SseParser) : List (List Octet) → List SseEvent × SseParser
  | [] => ([], parser)
  | bytes :: more =>
      let (event, next) := parser.line (Utf8.lossy (stripReturn bytes))
      let (events, last) := next.lines more
      (event.toList ++ events, last)

def feed (parser : SseParser) (bytes : List Octet) : Except String (List SseEvent) × SseParser :=
  let (parts, rest) := cutAt 0x0A (parser.buffer ++ bytes)
  let (events, next) := parser.lines parts
  (if maxLine < rest.length then .error "SSE line too long" else .ok events,
    { next with buffer := rest })

def feedAll (parser : SseParser) : List (List Octet) → Except String (List SseEvent) × SseParser
  | [] => (.ok [], parser)
  | chunk :: chunks =>
      match parser.feed chunk with
      | (.error error, next) => (.error error, next)
      | (.ok events, next) =>
          let (later, last) := next.feedAll chunks
          (later.map (events ++ ·), last)

/-- No line, a return at its end included, and no rest of one is too long. -/
def Short (parser : SseParser) (bytes : List Octet) : Prop :=
  ∀ line ∈ (cutAt 0x0A (parser.buffer ++ bytes)).1 ++ [(cutAt 0x0A (parser.buffer ++ bytes)).2],
    line.length ≤ maxLine

instance (parser : SseParser) (bytes : List Octet) : Decidable (parser.Short bytes) :=
  inferInstanceAs (Decidable (∀ _ ∈ _, _))

section Chunks

variable {parser : SseParser} {bytes later : List Octet} {parts : List (List Octet)}

lemma line_setBuffer (parser : SseParser) (buffer : List Octet) (text : List Char) :
    ({ parser with buffer := buffer } : SseParser).line text =
      ((parser.line text).1, { (parser.line text).2 with buffer := buffer }) := by
  rw [line, line]
  split
  · rfl
  · split
    · rfl
    · dsimp only
      split
      · rfl
      · rfl
      · split <;> rfl
      · rfl

lemma lines_setBuffer (parser : SseParser) (buffer : List Octet) (parts : List (List Octet)) :
    ({ parser with buffer := buffer } : SseParser).lines parts =
      ((parser.lines parts).1, { (parser.lines parts).2 with buffer := buffer }) := by
  induction parts generalizing parser with
  | nil => rfl
  | cons part parts ih =>
      simp only [lines]
      rw [line_setBuffer, ih]

lemma lines_append (parser : SseParser) (parts parts' : List (List Octet)) :
    parser.lines (parts ++ parts') = ((parser.lines parts).1 ++ ((parser.lines parts).2.lines parts').1,
      ((parser.lines parts).2.lines parts').2) := by
  induction parts generalizing parser with
  | nil => rfl
  | cons part parts ih =>
      rw [List.cons_append, lines, lines]
      dsimp only
      rw [ih, List.append_assoc]

lemma feed_eq (parser : SseParser) (bytes : List Octet) : parser.feed bytes =
    (if maxLine < (cutAt 0x0A (parser.buffer ++ bytes)).2.length then .error "SSE line too long"
      else .ok (parser.lines (cutAt 0x0A (parser.buffer ++ bytes)).1).1,
      { (parser.lines (cutAt 0x0A (parser.buffer ++ bytes)).1).2 with
        buffer := (cutAt 0x0A (parser.buffer ++ bytes)).2 }) :=
  rfl

theorem feed_append (h : (cutAt 0x0A (parser.buffer ++ bytes)).2.length ≤ maxLine) :
    ∃ events, parser.feed bytes = (.ok events, (parser.feed bytes).2) ∧
      parser.feed (bytes ++ later) = (((parser.feed bytes).2.feed later).1.map (events ++ ·),
        ((parser.feed bytes).2.feed later).2) := by
  have hfirst := feed_eq parser bytes
  rw [if_neg (not_lt.mpr h)] at hfirst
  refine ⟨(parser.lines (cutAt 0x0A (parser.buffer ++ bytes)).1).1, by rw [hfirst], ?_⟩
  have hsecond := feed_eq (parser.feed bytes).2 later
  rw [hfirst] at hsecond ⊢
  dsimp only at hsecond ⊢
  rw [lines_setBuffer (parser.lines (cutAt 0x0A (parser.buffer ++ bytes)).1).2
    (cutAt 0x0A (parser.buffer ++ bytes)).2] at hsecond
  rw [hsecond, feed_eq parser (bytes ++ later), ← List.append_assoc, cutAt_append, lines_append]
  dsimp only
  split <;> rfl

lemma Short.rest (h : parser.Short (bytes ++ later)) :
    (cutAt 0x0A (parser.buffer ++ bytes)).2.length ≤ maxLine := by
  rw [Short, ← List.append_assoc] at h
  exact length_rest_le h

lemma Short.fed (h : parser.Short (bytes ++ later)) : (parser.feed bytes).2.Short later := by
  intro part hpart
  rw [Short, ← List.append_assoc, cutAt_append] at h
  refine h part ?_
  rw [List.append_assoc]
  exact List.mem_append_right _ hpart

lemma feedAll_eq_feed (hbuffer : 0x0A ∉ parser.buffer) {chunks : List (List Octet)}
    (h : parser.Short chunks.flatten) : parser.feedAll chunks = parser.feed chunks.flatten := by
  induction chunks generalizing parser with
  | nil =>
      rw [Short, List.flatten_nil, List.append_nil, cutAt_of_notMem hbuffer] at h
      rw [feedAll, List.flatten_nil, feed, List.append_nil, cutAt_of_notMem hbuffer]
      dsimp only [lines]
      rw [if_neg (not_lt.mpr (h _ (List.mem_singleton_self _)))]
  | cons chunk chunks ih =>
      rw [List.flatten_cons] at h ⊢
      obtain ⟨events, hfirst, hwhole⟩ := @feed_append _ _ chunks.flatten h.rest
      have hnext : 0x0A ∉ (parser.feed chunk).2.buffer := notMem_rest 0x0A (parser.buffer ++ chunk)
      rw [feedAll, hfirst, hwhole]
      dsimp only
      rw [ih hnext h.fed]

end Chunks

/-- However a stream is cut, the parser reads the same events and is left in the same state. -/
theorem feedAll_new {chunks : List (List Octet)} (h : new.Short chunks.flatten) :
    new.feedAll chunks = new.feed chunks.flatten ∧ ∃ events, (new.feedAll chunks).1 = .ok events := by
  have heq := @feedAll_eq_feed new List.not_mem_nil chunks h
  have hrest : (cutAt 0x0A (new.buffer ++ chunks.flatten)).2.length ≤ maxLine :=
    h _ (List.mem_append_right _ (List.mem_singleton_self _))
  refine ⟨heq, (new.lines (cutAt 0x0A (new.buffer ++ chunks.flatten)).1).1, ?_⟩
  rw [heq, feed]
  dsimp only
  rw [if_neg (not_lt.mpr hrest)]

theorem feedAll_cut_inside : new.feedAll [[100, 97, 116, 97, 58, 32, 0xC3], [0xA9, 13], [10, 10]] =
      new.feed [100, 97, 116, 97, 58, 32, 0xC3, 0xA9, 13, 10, 10] ∧
    ∃ events, (new.feedAll [[100, 97, 116, 97, 58, 32, 0xC3], [0xA9, 13], [10, 10]]).1 = .ok events :=
  @feedAll_new [[100, 97, 116, 97, 58, 32, 0xC3], [0xA9, 13], [10, 10]] (by decide)

example : (new.feed [100, 97, 116, 97, 58, 32, 0xC3, 0xA9, 13, 10, 10]).1 = .ok [⟨none, "é", none⟩] := by
  decide +kernel

end SseParser

end DevCommandCenter.Remote
