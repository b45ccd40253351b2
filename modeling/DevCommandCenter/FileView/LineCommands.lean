import DevCommandCenter.Library.Offsets
import DevCommandCenter.Library.Utf8

/-! The file view's line commands: a text's lines, and the command that moves some of them. -/

namespace DevCommandCenter.FileView.LineCommands

open Library

-- a text by its bytes: neither of the two is part of a longer character
def lineFeed : Octet := 0x0a
def carriageReturn : Octet := 0x0d

def lf : List Octet := [lineFeed]
def crlf : List Octet := [carriageReturn, lineFeed]

def between (text : List Octet) (start stop : ℕ) : List Octet :=
  (text.drop start).take (stop - start)

structure Edit where
  range : Range
  text : List Octet
  deriving DecidableEq

structure Change where
  edits : List Edit
  selection : Range
  reversed : Bool
  deriving DecidableEq

def Change.splice (change : Change) (text : List Octet) : Range × List Octet :=
  let start := (change.edits.head?.map fun edit => edit.range.start).getD 0
  let stop := (change.edits.getLast?.map fun edit => edit.range.stop).getD 0
  let (out, position) := change.edits.foldl
    (fun (out, position) edit =>
      (out ++ between text position edit.range.start ++ edit.text, edit.range.stop))
    ([], start)
  (⟨start, stop⟩, out ++ between text position stop)

def Change.apply (change : Change) (text : List Octet) : List Octet :=
  let (range, replacement) := change.splice text
  text.take range.start ++ replacement ++ text.drop range.stop

structure Doc where
  text : List Octet
  starts : List ℕ
  deriving DecidableEq

def feedsFrom (offset : ℕ) : List Octet → List ℕ
  | [] => []
  | byte :: rest =>
      if byte = lineFeed then offset :: feedsFrom (offset + 1) rest else feedsFrom (offset + 1) rest

namespace Doc

def new (text : List Octet) : Doc where
  text := text
  starts := 0 :: (feedsFrom 0 text).map (· + 1)

def lineCount (doc : Doc) : ℕ :=
  doc.starts.length

def start (doc : Doc) (line : ℕ) : ℕ :=
  doc.starts[line]?.getD doc.text.length

def stop (doc : Doc) (line : ℕ) : ℕ :=
  match doc.starts[line + 1]? with
  | none => doc.text.length
  | some next =>
      let stop := next - 1
      if stop > doc.start line ∧ doc.text[stop - 1]? = some carriageReturn then stop - 1 else stop

def line (doc : Doc) (line : ℕ) : List Octet :=
  between doc.text (doc.start line) (doc.stop line)

def lineOf (doc : Doc) (offset : ℕ) : ℕ :=
  if offset ∈ doc.starts then doc.starts.idxOf offset
  else doc.starts.countP (· < offset) - 1

def eol (doc : Doc) : List Octet :=
  if lineFeed ∈ doc.text then
    let place := doc.text.idxOf lineFeed
    if place > 0 ∧ doc.text[place - 1]? = some carriageReturn then crlf else lf
  else lf

def block (doc : Doc) (selection : Range) : ℕ × ℕ :=
  let first := doc.lineOf selection.start
  let last := doc.lineOf selection.stop
  if last > first ∧ selection.stop = doc.start last then (first, last - 1) else (first, last)

end Doc

def shifted (selection : Range) (delta : ℤ) (limit : ℕ) : Range :=
  let place := fun offset : ℕ => min (max ((offset : ℤ) + delta) 0).toNat limit
  ⟨place selection.start, place selection.stop⟩

def moveLines (doc : Doc) (selection : Range) (reversed up : Bool) : Option Change :=
  let (first, last) := doc.block selection
  let eol := doc.eol
  let block := between doc.text (doc.start first) (doc.stop last)
  let moved := fun (range : Range) (text : List Octet) (delta : ℤ) =>
    let limit := doc.text.length - (range.stop - range.start) + text.length
    Change.mk [⟨range, text⟩] (shifted selection delta limit) reversed
  if up then
    if first = 0 then none
    else
      let line := doc.line (first - 1)
      some (moved ⟨doc.start (first - 1), doc.stop last⟩ (block ++ eol ++ line)
        (-(line.length + eol.length : ℤ)))
  else if last + 1 ≥ doc.lineCount then none
  else
    let line := doc.line (last + 1)
    some (moved ⟨doc.start first, doc.stop (last + 1)⟩ (line ++ eol ++ block)
      (line.length + eol.length))

end DevCommandCenter.FileView.LineCommands
