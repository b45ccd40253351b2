import DevCommandCenter.Library.Offsets

/-! The text that the file editor edits, with an undo history of the edits. Offsets are in bytes; there is
no result where the program would stop. -/

namespace DevCommandCenter.FileView

open Library

/-- Nanoseconds. -/
def undoGroup : ℕ := 600 * 1000 * 1000

def undoLimit : ℕ := 200

def byteLen (text : List Char) : ℕ :=
  extent Char.utf8Size text

structure Step where
  start : ℕ
  removed : List Char
  inserted : List Char
  before : Range
  after : Range
  deriving DecidableEq

structure Composition where
  start : ℕ
  removed : List Char
  before : Range
  deriving DecidableEq

structure EditBuffer where
  text : List Char
  lineStarts : List ℕ
  selection : Range
  reversed : Bool
  marked : Option Range
  undo : List Step
  redo : List Step
  lastTyping : Option ℕ
  composition : Option Composition
  version : ℕ
  deriving DecidableEq

def breaksFrom (offset : ℕ) : List Char → List ℕ
  | [] => []
  | c :: text =>
      if c = '\n' then (offset + 1) :: breaksFrom (offset + c.utf8Size) text
      else breaksFrom (offset + c.utf8Size) text

def lineStarts (text : List Char) : List ℕ :=
  0 :: breaksFrom 0 text

def pushLimited (step : Step) (steps : List Step) : List Step :=
  if undoLimit < (step :: steps).length then (step :: steps).dropLast else step :: steps

namespace EditBuffer

def new (text : List Char) : EditBuffer where
  text := text
  lineStarts := FileView.lineStarts text
  selection := ⟨0, 0⟩
  reversed := false
  marked := none
  undo := []
  redo := []
  lastTyping := none
  composition := none
  version := 0

def cursor (buffer : EditBuffer) : ℕ :=
  if buffer.reversed then buffer.selection.start else buffer.selection.stop

def anchor (buffer : EditBuffer) : ℕ :=
  if buffer.reversed then buffer.selection.stop else buffer.selection.start

def clamp (buffer : EditBuffer) (offset : ℕ) : ℕ :=
  clampOffset Char.utf8Size buffer.text offset

def clampRange (buffer : EditBuffer) (range : Range) : Range :=
  ⟨buffer.clamp range.start, buffer.clamp range.stop⟩

def go (buffer : EditBuffer) (offset : ℕ) (extend : Bool) : EditBuffer :=
  if extend = false then
    { buffer with selection := .caret (buffer.clamp offset), reversed := false }
  else if buffer.clamp offset < buffer.anchor then
    { buffer with selection := ⟨buffer.clamp offset, buffer.anchor⟩, reversed := true }
  else
    { buffer with selection := ⟨buffer.anchor, buffer.clamp offset⟩, reversed := false }

def selectAll (buffer : EditBuffer) : EditBuffer :=
  { buffer with selection := ⟨0, byteLen buffer.text⟩, reversed := false }

def select (buffer : EditBuffer) (range : Range) : EditBuffer :=
  { buffer with selection := buffer.clampRange range, reversed := false }

def apply (buffer : EditBuffer) (range : Range) (text : List Char) : Option EditBuffer := do
  let text ← replaceRange Char.utf8Size range.start range.stop text buffer.text
  return { buffer with text, lineStarts := FileView.lineStarts text, version := buffer.version + 1 }

def push (buffer : EditBuffer) (step : Step) : EditBuffer :=
  { buffer with redo := [], undo := pushLimited step buffer.undo }

def target (buffer : EditBuffer) (range : Option Range) : Range :=
  (range.or buffer.marked).getD buffer.selection

def endComposition (buffer : EditBuffer) (composition : Composition) (caret : ℕ) : Option EditBuffer := do
  let inserted ← slice Char.utf8Size composition.start caret buffer.text
  return { buffer with composition := none }.push
    { start := composition.start
      removed := composition.removed
      inserted
      before := composition.before
      after := .caret caret }

def isTyping (removed text : List Char) : Bool :=
  removed.isEmpty && '\n' ∉ text && text.length = 1

def joins (buffer : EditBuffer) (start now : ℕ) : Bool :=
  buffer.lastTyping.any (fun last => now - last < undoGroup) && buffer.redo.isEmpty &&
    buffer.undo.head?.any fun step => step.start + byteLen step.inserted = start

def join (buffer : EditBuffer) (text : List Char) (caret : ℕ) : EditBuffer :=
  match buffer.undo with
  | [] => buffer
  | step :: steps =>
      { buffer with undo := { step with inserted := step.inserted ++ text, after := .caret caret } :: steps }

def replace (buffer : EditBuffer) (range : Option Range) (text : List Char) (now : ℕ) :
    Option EditBuffer := do
  let range := buffer.clampRange (buffer.target range)
  let before := buffer.selection
  let removed ← slice Char.utf8Size range.start range.stop buffer.text
  let buffer ← buffer.apply range text
  let caret := range.start + byteLen text
  let buffer := { buffer with selection := .caret caret, reversed := false, marked := none }
  match buffer.composition with
  | some composition =>
      let buffer ← buffer.endComposition composition caret
      return { buffer with lastTyping := none }
  | none =>
      let typing := isTyping removed text
      let buffer :=
        if typing && buffer.joins range.start now then buffer.join text caret
        else buffer.push { start := range.start, removed, inserted := text, before, after := .caret caret }
      return { buffer with lastTyping := if typing then some now else none }

def setAfter (steps : List Step) (selection : Range) : List Step :=
  match steps with
  | [] => []
  | step :: steps => { step with after := selection } :: steps

def replaceSelecting (buffer : EditBuffer) (range : Range) (text : List Char) (selection : Range)
    (reversed : Bool) (now : ℕ) : Option EditBuffer := do
  let buffer ← { buffer with lastTyping := none }.replace (some range) text now
  let selection := buffer.clampRange selection
  return { buffer with
    lastTyping := none
    selection
    reversed := reversed && !selection.isEmpty
    undo := setAfter buffer.undo selection }

def markedIn (start : ℕ) (text : List Char) : Option Range :=
  if text = [] then none else some ⟨start, start + byteLen text⟩

def selectionIn (start : ℕ) (text : List Char) : Option Range → Range
  | some selected => ⟨start + selected.start, start + selected.stop⟩
  | none => .caret (start + byteLen text)

def replaceAndMark (buffer : EditBuffer) (range : Option Range) (text : List Char)
    (selected : Option Range) : Option EditBuffer := do
  let range := buffer.clampRange (buffer.target range)
  let composition ← match buffer.composition with
    | some composition => some composition
    | none => (slice Char.utf8Size range.start range.stop buffer.text).map fun removed =>
        { start := range.start, removed, before := buffer.selection }
  let buffer ← { buffer with composition := some composition }.apply range text
  return { buffer with
    marked := markedIn range.start text
    selection := selectionIn range.start text selected
    reversed := false }

def unmark (buffer : EditBuffer) : Option EditBuffer :=
  match buffer.composition with
  | none => some { buffer with marked := none }
  | some composition => do
      let caret := buffer.cursor
      let inserted ← slice Char.utf8Size composition.start (max caret composition.start) buffer.text
      return { buffer with marked := none, composition := none }.push
        { start := composition.start
          removed := composition.removed
          inserted
          before := composition.before
          after := .caret caret }

def deleteTo (buffer : EditBuffer) (offset now : ℕ) : Option EditBuffer :=
  if buffer.selection.isEmpty then
    if offset = buffer.cursor then some buffer
    else do
      let range := ⟨min buffer.cursor offset, max buffer.cursor offset⟩
      let buffer ← buffer.replace (some range) [] now
      return { buffer with lastTyping := none }
  else do
    let buffer ← buffer.replace none [] now
    return { buffer with lastTyping := none }

def undoStep (buffer : EditBuffer) : Option EditBuffer :=
  match buffer.undo with
  | [] => some buffer
  | step :: steps => do
      let range := ⟨step.start, step.start + byteLen step.inserted⟩
      let buffer ← { buffer with undo := steps }.apply range step.removed
      return { buffer with
        selection := step.before
        reversed := false
        marked := none
        lastTyping := none
        redo := step :: buffer.redo }

def redoStep (buffer : EditBuffer) : Option EditBuffer :=
  match buffer.redo with
  | [] => some buffer
  | step :: steps => do
      let range := ⟨step.start, step.start + byteLen step.removed⟩
      let buffer ← { buffer with redo := steps }.apply range step.inserted
      return { buffer with
        selection := step.after
        reversed := false
        lastTyping := none
        undo := step :: buffer.undo }

def setText (buffer : EditBuffer) (text : List Char) (now : ℕ) : Option EditBuffer := do
  let buffer ← buffer.replace (some ⟨0, byteLen buffer.text⟩) text now
  return buffer.go 0 false

end EditBuffer

inductive Operation where
  | go (offset : ℕ) (extend : Bool)
  | selectAll
  | select (range : Range)
  | replace (range : Option Range) (text : List Char)
  | replaceSelecting (range : Range) (text : List Char) (selection : Range) (reversed : Bool)
  | replaceAndMark (range : Option Range) (text : List Char) (selected : Option Range)
  | unmark
  | deleteTo (offset : ℕ)
  | undo
  | redo
  | setText (text : List Char)

structure Call where
  operation : Operation
  now : ℕ

def EditBuffer.call (buffer : EditBuffer) (c : Call) : Option EditBuffer :=
  match c.operation with
  | .go offset extend => some (buffer.go offset extend)
  | .selectAll => some buffer.selectAll
  | .select range => some (buffer.select range)
  | .replace range text => buffer.replace range text c.now
  | .replaceSelecting range text selection reversed =>
      buffer.replaceSelecting range text selection reversed c.now
  | .replaceAndMark range text selected => buffer.replaceAndMark range text selected
  | .unmark => buffer.unmark
  | .deleteTo offset => buffer.deleteTo offset c.now
  | .undo => buffer.undoStep
  | .redo => buffer.redoStep
  | .setText text => buffer.setText text c.now

end DevCommandCenter.FileView
