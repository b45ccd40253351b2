import DevCommandCenter.TextArea.Buffer

/-! The same field as a list of items, each a plain character or a chip with its data. -/

namespace DevCommandCenter.TextArea

open Library

inductive Item (C : Type) where
  | plain (c : Char) (notChip : c ≠ chipChar)
  | chip (data : C)

namespace Item

variable {C : Type}

def char : Item C → Char
  | plain c _ => c
  | chip _ => chipChar

def data? : Item C → Option C
  | plain _ _ => none
  | chip data => some data

def size (item : Item C) : ℕ :=
  item.char.utf8Size

lemma size_pos (item : Item C) : 0 < item.size :=
  Char.utf8Size_pos _

end Item

section Reading

variable {C : Type}

def plainItems (text : List Char) : List (Item C) :=
  text.filterMap fun c => if h : c ≠ chipChar then some (.plain c h) else none

def chars (items : List (Item C)) : List Char :=
  items.map Item.char

def chipsOf (items : List (Item C)) : List C :=
  items.filterMap Item.data?

end Reading

structure ItemSnapshot (C : Type) where
  items : List (Item C)
  selection : Range

structure ItemBuffer (C : Type) where
  items : List (Item C)
  selection : Range
  reversed : Bool
  marked : Option Range
  undo : List (ItemSnapshot C)
  redo : List (ItemSnapshot C)
  lastEdit : Option (EditKind × ℕ)

namespace ItemBuffer

variable {C : Type}

def default : ItemBuffer C where
  items := []
  selection := ⟨0, 0⟩
  reversed := false
  marked := none
  undo := []
  redo := []
  lastEdit := none

def setText (buffer : ItemBuffer C) (text : List Char) : ItemBuffer C :=
  { buffer with
    items := plainItems text
    selection := .caret (extent Item.size (plainItems text : List (Item C)))
    reversed := false
    marked := none
    undo := []
    redo := []
    lastEdit := none }

def forgetHistory (buffer : ItemBuffer C) : ItemBuffer C :=
  { buffer with undo := [], redo := [], lastEdit := none }

def cursor (buffer : ItemBuffer C) : ℕ :=
  if buffer.reversed then buffer.selection.start else buffer.selection.stop

def anchor (buffer : ItemBuffer C) : ℕ :=
  if buffer.reversed then buffer.selection.stop else buffer.selection.start

def clamp (buffer : ItemBuffer C) (offset : ℕ) : ℕ :=
  clampOffset Item.size buffer.items offset

def clampRange (buffer : ItemBuffer C) (range : Range) : Range :=
  ⟨buffer.clamp range.start, buffer.clamp range.stop⟩

def moveTo (buffer : ItemBuffer C) (offset : ℕ) : ItemBuffer C :=
  { buffer with selection := .caret (buffer.clamp offset), reversed := false }

def selectTo (buffer : ItemBuffer C) (offset : ℕ) : ItemBuffer C :=
  if buffer.clamp offset < buffer.anchor then
    { buffer with selection := ⟨buffer.clamp offset, buffer.anchor⟩, reversed := true }
  else
    { buffer with selection := ⟨buffer.anchor, buffer.clamp offset⟩, reversed := false }

def selectAll (buffer : ItemBuffer C) : ItemBuffer C :=
  { buffer with selection := ⟨0, extent Item.size buffer.items⟩, reversed := false }

def snapshot (buffer : ItemBuffer C) : ItemSnapshot C where
  items := buffer.items
  selection := buffer.selection

def record (buffer : ItemBuffer C) (kind : EditKind) (now : ℕ) : ItemBuffer C :=
  { buffer with
    undo := if joinsEdit buffer.lastEdit kind now then buffer.undo
      else pushLimited buffer.snapshot buffer.undo
    redo := []
    lastEdit := some (kind, now) }

def replaceItems (buffer : ItemBuffer C) (range : Range) (new : List (Item C)) :
    Option (ItemBuffer C) := do
  let items ← replaceRange Item.size range.start range.stop new buffer.items
  return { buffer with items }

def target (buffer : ItemBuffer C) (range : Option Range) : Range :=
  (range.or buffer.marked).getD buffer.selection

def insertChip (buffer : ItemBuffer C) (chip : C) (now later : ℕ) : Option (ItemBuffer C) := do
  let range := buffer.target none
  let buffer ← (buffer.record .other now).replaceItems range [.chip chip]
  return { buffer with
    selection := .caret (range.start + chipChar.utf8Size)
    reversed := false
    marked := none
    lastEdit := some (.other, later) }

def replace (buffer : ItemBuffer C) (range : Option Range) (text : List Char) (now : ℕ) :
    Option (ItemBuffer C) := do
  let range := buffer.clampRange (buffer.target range)
  let new : List (Item C) := plainItems text
  let buffer ← (buffer.record (editKind (chars new)) now).replaceItems range new
  return { buffer with
    selection := .caret (range.start + extent Item.size new)
    reversed := false
    marked := none }

def removeChipAt (buffer : ItemBuffer C) (offset now later : ℕ) : Option (ItemBuffer C) := do
  let (_, after) ← splitAtOffset Item.size offset buffer.items
  match after with
  | .chip _ :: _ =>
      let buffer ← buffer.replace (some ⟨offset, offset + chipChar.utf8Size⟩) [] now
      return { buffer with lastEdit := some (.other, later) }
  | _ => return buffer

def spliceEdit (buffer : ItemBuffer C) (edit : Range × List Char) : Option (ItemBuffer C) :=
  buffer.replaceItems (buffer.clampRange edit.1) (plainItems edit.2)

def splice (buffer : ItemBuffer C) (edits : List (Range × List Char)) (selection : Range) (now : ℕ) :
    Option (ItemBuffer C) := do
  let buffer ← (fromTheEnd edits).foldlM spliceEdit (buffer.record .other now)
  return { buffer with selection := buffer.clampRange selection, reversed := false, marked := none }

def replaceAndMark (buffer : ItemBuffer C) (range : Option Range) (text : List Char)
    (selected : Option Range) (now : ℕ) : Option (ItemBuffer C) := do
  let range := buffer.clampRange (buffer.target range)
  let buffer := if buffer.marked = none then buffer.record .other now else buffer
  let new : List (Item C) := plainItems text
  let buffer ← buffer.replaceItems range new
  return { buffer with
    marked := if chars new = [] then none else some ⟨range.start, range.start + extent Item.size new⟩
    selection := match selected with
      | some selected => ⟨range.start + selected.start, range.start + selected.stop⟩
      | none => .caret (range.start + extent Item.size new)
    reversed := false }

def deleteTo (buffer : ItemBuffer C) (offset now later : ℕ) : Option (ItemBuffer C) :=
  if buffer.selection.isEmpty then
    if offset = buffer.cursor then some buffer
    else do
      let range := ⟨min buffer.cursor offset, max buffer.cursor offset⟩
      let buffer ← buffer.replace (some range) [] now
      return { buffer with lastEdit := some (.other, later) }
  else do
    let buffer ← buffer.replace none [] now
    return { buffer with lastEdit := some (.other, later) }

def restore (buffer : ItemBuffer C) (snapshot : ItemSnapshot C) : ItemBuffer C :=
  { buffer with
    items := snapshot.items
    selection := snapshot.selection
    reversed := false
    marked := none
    lastEdit := none }

def undoEdit (buffer : ItemBuffer C) : ItemBuffer C :=
  match buffer.undo with
  | [] => buffer
  | previous :: undo => { buffer with undo, redo := buffer.snapshot :: buffer.redo }.restore previous

def redoEdit (buffer : ItemBuffer C) : ItemBuffer C :=
  match buffer.redo with
  | [] => buffer
  | next :: redo => { buffer with redo, undo := buffer.snapshot :: buffer.undo }.restore next

def call (buffer : ItemBuffer C) (c : Call C) : Option (ItemBuffer C) :=
  match c.operation with
  | .setText text => some (buffer.setText text)
  | .forgetHistory => some buffer.forgetHistory
  | .moveTo offset => some (buffer.moveTo offset)
  | .selectTo offset => some (buffer.selectTo offset)
  | .selectAll => some buffer.selectAll
  | .unmark => some { buffer with marked := none }
  | .replace range text => buffer.replace range text c.now
  | .insertChip chip => buffer.insertChip chip c.now c.later
  | .removeChipAt offset => buffer.removeChipAt offset c.now c.later
  | .splice edits selection => buffer.splice edits selection c.now
  | .replaceAndMark range text selected => buffer.replaceAndMark range text selected c.now
  | .deleteTo offset => buffer.deleteTo offset c.now c.later
  | .undo => some buffer.undoEdit
  | .redo => some buffer.redoEdit

def run (buffer : ItemBuffer C) (calls : List (Call C)) : Option (ItemBuffer C) :=
  calls.foldlM call buffer

/-- What the field holds for its items: their characters, and apart from them the data of the chips. -/
def written (buffer : ItemBuffer C) : Buffer C where
  text := chars buffer.items
  chips := chipsOf buffer.items
  selection := buffer.selection
  reversed := buffer.reversed
  marked := buffer.marked
  undo := buffer.undo.map fun snapshot =>
    ⟨chars snapshot.items, snapshot.selection, chipsOf snapshot.items⟩
  redo := buffer.redo.map fun snapshot =>
    ⟨chars snapshot.items, snapshot.selection, chipsOf snapshot.items⟩
  lastEdit := buffer.lastEdit

end ItemBuffer

end DevCommandCenter.TextArea
