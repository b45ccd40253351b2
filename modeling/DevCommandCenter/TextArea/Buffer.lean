import DevCommandCenter.Library.Offsets

/-! The text that a field with several lines edits. Offsets are in bytes; there is no result where the
program would stop. -/

namespace DevCommandCenter.TextArea

open Library

/-- Nanoseconds. -/
def undoGroup : ℕ := 600 * 1000 * 1000

def undoLimit : ℕ := 200

def chipChar : Char := '\uFFFC'

structure Snapshot (C : Type) where
  text : List Char
  selection : Range
  chips : List C

inductive EditKind where
  | typing
  | other
  deriving DecidableEq

structure Buffer (C : Type) where
  text : List Char
  chips : List C
  selection : Range
  reversed : Bool
  marked : Option Range
  undo : List (Snapshot C)
  redo : List (Snapshot C)
  lastEdit : Option (EditKind × ℕ)

def removeChipChars (text : List Char) : List Char :=
  text.filter fun c => c ≠ chipChar

def byteLen (text : List Char) : ℕ :=
  extent Char.utf8Size text

def drain {α : Type} (start stop : ℕ) (l : List α) : Option (List α) :=
  if start ≤ stop ∧ stop ≤ l.length then some (l.take start ++ l.drop stop) else none

def insertAt {α : Type} (index : ℕ) (a : α) (l : List α) : Option (List α) :=
  if index ≤ l.length then some (l.take index ++ a :: l.drop index) else none

def joinsEdit (lastEdit : Option (EditKind × ℕ)) (kind : EditKind) (now : ℕ) : Bool :=
  match lastEdit with
  | some (.typing, last) => kind = .typing && now - last < undoGroup
  | _ => false

def pushLimited {α : Type} (a : α) (l : List α) : List α :=
  if undoLimit < (a :: l).length then (a :: l).dropLast else a :: l

def editKind (text : List Char) : EditKind :=
  if '\n' ∉ text ∧ text.length ≤ 1 then .typing else .other

def fromTheEnd (edits : List (Range × List Char)) : List (Range × List Char) :=
  edits.mergeSort fun edit edit' => edit'.1.start ≤ edit.1.start

namespace Buffer

variable {C : Type}

def default : Buffer C where
  text := []
  chips := []
  selection := ⟨0, 0⟩
  reversed := false
  marked := none
  undo := []
  redo := []
  lastEdit := none

def setText (buffer : Buffer C) (text : List Char) : Buffer C :=
  { buffer with
    text := removeChipChars text
    chips := []
    selection := .caret (byteLen (removeChipChars text))
    reversed := false
    marked := none
    undo := []
    redo := []
    lastEdit := none }

def forgetHistory (buffer : Buffer C) : Buffer C :=
  { buffer with undo := [], redo := [], lastEdit := none }

def cursor (buffer : Buffer C) : ℕ :=
  if buffer.reversed then buffer.selection.start else buffer.selection.stop

def anchor (buffer : Buffer C) : ℕ :=
  if buffer.reversed then buffer.selection.stop else buffer.selection.start

def clamp (buffer : Buffer C) (offset : ℕ) : ℕ :=
  clampOffset Char.utf8Size buffer.text offset

def clampRange (buffer : Buffer C) (range : Range) : Range :=
  ⟨buffer.clamp range.start, buffer.clamp range.stop⟩

def moveTo (buffer : Buffer C) (offset : ℕ) : Buffer C :=
  { buffer with selection := .caret (buffer.clamp offset), reversed := false }

def selectTo (buffer : Buffer C) (offset : ℕ) : Buffer C :=
  if buffer.clamp offset < buffer.anchor then
    { buffer with selection := ⟨buffer.clamp offset, buffer.anchor⟩, reversed := true }
  else
    { buffer with selection := ⟨buffer.anchor, buffer.clamp offset⟩, reversed := false }

def selectAll (buffer : Buffer C) : Buffer C :=
  { buffer with selection := ⟨0, byteLen buffer.text⟩, reversed := false }

def snapshot (buffer : Buffer C) : Snapshot C where
  text := buffer.text
  selection := buffer.selection
  chips := buffer.chips

def record (buffer : Buffer C) (kind : EditKind) (now : ℕ) : Buffer C :=
  { buffer with
    undo := if joinsEdit buffer.lastEdit kind now then buffer.undo
      else pushLimited buffer.snapshot buffer.undo
    redo := []
    lastEdit := some (kind, now) }

def chipsBefore (buffer : Buffer C) (offset : ℕ) : Option ℕ :=
  (slice Char.utf8Size 0 offset buffer.text).map fun before => before.count chipChar

def removeChipsIn (buffer : Buffer C) (range : Range) : Option (Buffer C) := do
  let first ← buffer.chipsBefore range.start
  let covered ← slice Char.utf8Size range.start range.stop buffer.text
  let chips ← drain first (min (first + covered.count chipChar) buffer.chips.length) buffer.chips
  return { buffer with chips }

def replaceText (buffer : Buffer C) (range : Range) (text : List Char) : Option (Buffer C) := do
  let text ← replaceRange Char.utf8Size range.start range.stop text buffer.text
  return { buffer with text }

def target (buffer : Buffer C) (range : Option Range) : Range :=
  (range.or buffer.marked).getD buffer.selection

def insertChip (buffer : Buffer C) (chip : C) (now later : ℕ) : Option (Buffer C) := do
  let range := buffer.target none
  let buffer ← (buffer.record .other now).removeChipsIn range
  let index ← buffer.chipsBefore range.start
  let chips ← insertAt index chip buffer.chips
  let buffer ← { buffer with chips }.replaceText range [chipChar]
  return { buffer with
    selection := .caret (range.start + chipChar.utf8Size)
    reversed := false
    marked := none
    lastEdit := some (.other, later) }

def replace (buffer : Buffer C) (range : Option Range) (text : List Char) (now : ℕ) :
    Option (Buffer C) := do
  let range := buffer.clampRange (buffer.target range)
  let text := removeChipChars text
  let buffer ← (buffer.record (editKind text) now).removeChipsIn range
  let buffer ← buffer.replaceText range text
  return { buffer with
    selection := .caret (range.start + byteLen text)
    reversed := false
    marked := none }

def removeChipAt (buffer : Buffer C) (offset now later : ℕ) : Option (Buffer C) := do
  let (_, after) ← splitAtOffset Char.utf8Size offset buffer.text
  if after.head? = some chipChar then
    let buffer ← buffer.replace (some ⟨offset, offset + chipChar.utf8Size⟩) [] now
    return { buffer with lastEdit := some (.other, later) }
  else return buffer

def spliceEdit (buffer : Buffer C) (edit : Range × List Char) : Option (Buffer C) := do
  let range := buffer.clampRange edit.1
  let covered ← slice Char.utf8Size range.start range.stop buffer.text
  if chipChar ∈ covered then none
  else buffer.replaceText range (removeChipChars edit.2)

def splice (buffer : Buffer C) (edits : List (Range × List Char)) (selection : Range) (now : ℕ) :
    Option (Buffer C) := do
  let buffer ← (fromTheEnd edits).foldlM spliceEdit (buffer.record .other now)
  return { buffer with selection := buffer.clampRange selection, reversed := false, marked := none }

def replaceAndMark (buffer : Buffer C) (range : Option Range) (text : List Char)
    (selected : Option Range) (now : ℕ) : Option (Buffer C) := do
  let range := buffer.clampRange (buffer.target range)
  let buffer := if buffer.marked = none then buffer.record .other now else buffer
  let text := removeChipChars text
  let buffer ← buffer.removeChipsIn range
  let buffer ← buffer.replaceText range text
  return { buffer with
    marked := if text = [] then none else some ⟨range.start, range.start + byteLen text⟩
    selection := match selected with
      | some selected => ⟨range.start + selected.start, range.start + selected.stop⟩
      | none => .caret (range.start + byteLen text)
    reversed := false }

def deleteTo (buffer : Buffer C) (offset now later : ℕ) : Option (Buffer C) :=
  if buffer.selection.isEmpty then
    if offset = buffer.cursor then some buffer
    else do
      let range := ⟨min buffer.cursor offset, max buffer.cursor offset⟩
      let buffer ← buffer.replace (some range) [] now
      return { buffer with lastEdit := some (.other, later) }
  else do
    let buffer ← buffer.replace none [] now
    return { buffer with lastEdit := some (.other, later) }

def restore (buffer : Buffer C) (snapshot : Snapshot C) : Buffer C :=
  { buffer with
    text := snapshot.text
    chips := snapshot.chips
    selection := snapshot.selection
    reversed := false
    marked := none
    lastEdit := none }

def undoEdit (buffer : Buffer C) : Buffer C :=
  match buffer.undo with
  | [] => buffer
  | previous :: undo => { buffer with undo, redo := buffer.snapshot :: buffer.redo }.restore previous

def redoEdit (buffer : Buffer C) : Buffer C :=
  match buffer.redo with
  | [] => buffer
  | next :: redo => { buffer with redo, undo := buffer.snapshot :: buffer.undo }.restore next

end Buffer

inductive Operation (C : Type) where
  | setText (text : List Char)
  | forgetHistory
  | moveTo (offset : ℕ)
  | selectTo (offset : ℕ)
  | selectAll
  | unmark
  | replace (range : Option Range) (text : List Char)
  | insertChip (chip : C)
  | removeChipAt (offset : ℕ)
  | splice (edits : List (Range × List Char)) (selection : Range)
  | replaceAndMark (range : Option Range) (text : List Char) (selected : Option Range)
  | deleteTo (offset : ℕ)
  | undo
  | redo

structure Call (C : Type) where
  operation : Operation C
  now : ℕ
  later : ℕ

def Buffer.call {C : Type} (buffer : Buffer C) (c : Call C) : Option (Buffer C) :=
  match c.operation with
  | .setText text => some (buffer.setText text)
  | .forgetHistory => some buffer.forgetHistory
  | .moveTo offset => some (buffer.moveTo offset)
  | .selectTo offset => some (buffer.selectTo offset)
  | .selectAll => some buffer.selectAll
  | .unmark => some { buffer with marked := none }
  | .replace range text => buffer.replace range text c.now
  | .insertChip chip => buffer.insertChip chip c.now c.later
  | .removeChipAt offset => buffer.removeChipAt offset c.now c.later
  | .splice edits selection => buffer.splice edits selection c.now
  | .replaceAndMark range text selected => buffer.replaceAndMark range text selected c.now
  | .deleteTo offset => buffer.deleteTo offset c.now c.later
  | .undo => some buffer.undoEdit
  | .redo => some buffer.redoEdit

def Buffer.run {C : Type} (buffer : Buffer C) (calls : List (Call C)) : Option (Buffer C) :=
  calls.foldlM Buffer.call buffer

end DevCommandCenter.TextArea
