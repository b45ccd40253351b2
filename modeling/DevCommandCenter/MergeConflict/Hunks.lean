import DevCommandCenter.Library.Offsets
import DevCommandCenter.Library.Text

/-! Conflict blocks in a file, and a block replaced. Offsets are in bytes; there is no result where the
program would stop. -/

namespace DevCommandCenter.MergeConflict

open Library

structure ConflictHunk where
  id : String
  startOffset : ℕ
  endOffset : ℕ
  startLine : ℕ
  endLine : ℕ
  currentLabel : Option String
  incomingLabel : Option String
  currentText : List Char
  baseText : Option (List Char)
  incomingText : List Char
  lineEnding : List Char
  deriving DecidableEq

structure SourceLine where
  start : ℕ
  stop : ℕ
  body : List Char
  lineEnding : List Char
  deriving DecidableEq

def SourceLine.text (line : SourceLine) : List Char :=
  line.body ++ line.lineEnding

def byteLen (text : List Char) : ℕ :=
  extent Char.utf8Size text

def isLineBreak (c : Char) : Bool :=
  c = '\n' || c = '\r'

def splitEnding : List Char → List Char × List Char
  | '\r' :: '\n' :: rest => (['\r', '\n'], rest)
  | c :: rest => ([c], rest)
  | [] => ([], [])

lemma length_splitEnding (text : List Char) :
    (splitEnding (text.dropWhile fun c => !isLineBreak c)).2.length ≤ text.length - 1 := by
  have hdrop := (List.dropWhile_suffix (fun c => !isLineBreak c) (l := text)).length_le
  rw [splitEnding.eq_def]
  split
  · next heq =>
      rw [heq] at hdrop
      simp only [List.length_cons] at hdrop ⊢
      omega
  · next heq =>
      rw [heq] at hdrop
      simp only [List.length_cons] at hdrop ⊢
      omega
  · exact Nat.zero_le _

def sourceLinesFrom (start : ℕ) (text : List Char) : List SourceLine :=
  if _h : text = [] then []
  else
    let body := text.takeWhile fun c => !isLineBreak c
    let ending := splitEnding (text.dropWhile fun c => !isLineBreak c)
    let stop := start + byteLen body + byteLen ending.1
    ⟨start, stop, body, ending.1⟩ :: sourceLinesFrom stop ending.2
termination_by text.length
decreasing_by
  have hlength := length_splitEnding text
  have hpos := List.length_pos_of_ne_nil _h
  omega

def sourceLines (source : List Char) : List SourceLine :=
  sourceLinesFrom 0 source

def isMarker (body : List Char) (mark : Char) (labelled : Bool) : Bool :=
  let run := (body.takeWhile (· = mark)).length
  if run < 7 then false
  else
    let rest := body.drop run
    rest.isEmpty || (labelled && rest.head? = some ' ')

def isStart (body : List Char) : Bool :=
  isMarker body '<' true

def isBase (body : List Char) : Bool :=
  isMarker body '|' true

def isSeparator (body : List Char) : Bool :=
  isMarker body '=' false

def isEnd (body : List Char) : Bool :=
  isMarker body '>' true

def markerLabel (body : List Char) : Option String :=
  match body.dropWhile (· ≠ ' ') with
  | _ :: rest =>
      let label := trim (String.ofList rest)
      if label = "" then none else some label
  | [] => none

def sliceLines (source : List Char) (lines : List SourceLine) (first last : ℕ) : Option (List Char) :=
  if last ≤ first then some []
  else do
    let start ← lines[first]?
    let stop ← lines[last - 1]?
    slice Char.utf8Size start.start stop.stop source

def findFrom (p : List Char → Bool) (lines : List SourceLine) (start : ℕ) : ℕ :=
  start + (lines.drop start).findIdx fun line => p line.body

structure BlockLines where
  currentEnd : ℕ
  base : Option (ℕ × ℕ)
  incomingStart : ℕ
  endMarker : ℕ
  deriving DecidableEq

def blockAt (lines : List SourceLine) (index : ℕ) : Option BlockLines := do
  let currentEnd := findFrom (fun body => isBase body || isSeparator body) lines (index + 1)
  let line ← lines[currentEnd]?
  if isBase line.body then
    let separator := findFrom isSeparator lines (currentEnd + 1)
    let _ ← lines[separator]?
    let endMarker := findFrom isEnd lines (separator + 1)
    let _ ← lines[endMarker]?
    return ⟨currentEnd, some (currentEnd + 1, separator), separator + 1, endMarker⟩
  else
    let endMarker := findFrom isEnd lines (currentEnd + 1)
    let _ ← lines[endMarker]?
    return ⟨currentEnd, none, currentEnd + 1, endMarker⟩

def conflictHunk (startLine endMarker : SourceLine) (startIndex endIndex : ℕ) (currentText : List Char)
    (baseText : Option (List Char)) (incomingText : List Char) : ConflictHunk where
  id := toString startLine.start ++ ":" ++ toString endMarker.stop
  startOffset := startLine.start
  endOffset := endMarker.stop
  startLine := startIndex + 1
  endLine := endIndex + 1
  currentLabel := markerLabel startLine.body
  incomingLabel := markerLabel endMarker.body
  currentText := currentText
  baseText := baseText
  incomingText := incomingText
  lineEnding := if startLine.lineEnding = [] then ['\n'] else startLine.lineEnding

def hunkAt (source : List Char) (lines : List SourceLine) (index : ℕ) (block : BlockLines) : Option ConflictHunk := do
  let startLine ← lines[index]?
  let endMarker ← lines[block.endMarker]?
  let currentText ← sliceLines source lines (index + 1) block.currentEnd
  let baseText ← block.base.mapM fun range => sliceLines source lines range.1 range.2
  let incomingText ← sliceLines source lines block.incomingStart block.endMarker
  return conflictHunk startLine endMarker index block.endMarker currentText baseText incomingText

lemma le_findFrom (p : List Char → Bool) (lines : List SourceLine) (start : ℕ) : start ≤ findFrom p lines start :=
  Nat.le_add_right _ _

structure BlockLines.At (block : BlockLines) (lines : List SourceLine) (index : ℕ) : Prop where
  current : index < block.currentEnd
  base : ∀ range, block.base = some range → range.1 = block.currentEnd + 1 ∧ range.1 ≤ range.2 ∧
    block.incomingStart = range.2 + 1 ∧ ∃ line, lines[block.currentEnd]? = some line ∧ isBase line.body = true
  noBase : block.base = none → block.incomingStart = block.currentEnd + 1
  separator : ∃ line, lines[block.incomingStart - 1]? = some line ∧ isSeparator line.body = true
  incoming : block.incomingStart ≤ block.endMarker
  endMarker : ∃ line, lines[block.endMarker]? = some line ∧ isEnd line.body = true

lemma findFrom_spec {p : List Char → Bool} {lines : List SourceLine} {start : ℕ} {line : SourceLine}
    (h : lines[findFrom p lines start]? = some line) : p line.body = true := by
  rw [findFrom, ← List.getElem?_drop] at h
  obtain ⟨hlt, hline⟩ := List.getElem?_eq_some_iff.mp h
  rw [← hline]
  exact List.findIdx_getElem (w := hlt)

lemma blockAt_spec {lines : List SourceLine} {index : ℕ} {block : BlockLines}
    (h : blockAt lines index = some block) : block.At lines index := by
  rw [blockAt] at h
  simp only [Option.bind_eq_bind, Option.bind_eq_some_iff] at h
  obtain ⟨line, hline, h⟩ := h
  have hcurrent := le_findFrom (fun body => isBase body || isSeparator body) lines (index + 1)
  have hmark := findFrom_spec hline
  split at h
  · next hbase =>
      simp only [Option.bind_eq_some_iff] at h
      obtain ⟨separator, hseparator, marker, hmarker, ⟨⟩⟩ := h
      exact {
        current := hcurrent
        base := fun range hrange => by
          cases hrange
          exact ⟨rfl, le_findFrom _ _ _, rfl, line, hline, hbase⟩
        noBase := fun hnone => by cases hnone
        separator := ⟨separator, hseparator, findFrom_spec hseparator⟩
        incoming := le_findFrom _ _ _
        endMarker := ⟨marker, hmarker, findFrom_spec hmarker⟩ }
  · next hbase =>
      simp only [Option.bind_eq_some_iff] at h
      obtain ⟨marker, hmarker, ⟨⟩⟩ := h
      rw [Bool.not_eq_true] at hbase
      rw [hbase, Bool.false_or] at hmark
      exact {
        current := hcurrent
        base := fun range hrange => by cases hrange
        noBase := fun _ => rfl
        separator := ⟨line, hline, hmark⟩
        incoming := le_findFrom _ _ _
        endMarker := ⟨marker, hmarker, findFrom_spec hmarker⟩ }

lemma BlockLines.At.index_lt {lines : List SourceLine} {index : ℕ} {block : BlockLines}
    (h : block.At lines index) : block.currentEnd < block.incomingStart := by
  cases hbase : block.base with
  | none =>
      rw [h.noBase hbase]
      exact Nat.lt_succ_self _
  | some range =>
      obtain ⟨hfirst, hrange, hincoming, -⟩ := h.base range hbase
      omega

lemma lt_endMarker {lines : List SourceLine} {index : ℕ} {block : BlockLines}
    (h : blockAt lines index = some block) : index < block.endMarker := by
  have hat := blockAt_spec h
  have hcurrent := hat.current
  have hincoming := hat.incoming
  have hindex := hat.index_lt
  omega

def parseFrom (source : List Char) (lines : List SourceLine) (index : ℕ) : Option (List ConflictHunk) :=
  if hindex : index < lines.length then
    if isStart (lines.get ⟨index, hindex⟩).body then
      match h : blockAt lines index with
      | none => parseFrom source lines (index + 1)
      | some block => do
          let hunk ← hunkAt source lines index block
          let hunks ← parseFrom source lines (block.endMarker + 1)
          return hunk :: hunks
    else parseFrom source lines (index + 1)
  else some []
termination_by lines.length - index
decreasing_by
  · omega
  · have hlater := lt_endMarker h
    omega
  · omega

def parseConflictHunks (source : List Char) : Option (List ConflictHunk) :=
  parseFrom source (sourceLines source) 0

def applyConflictReplacement (source : List Char) (hunk : ConflictHunk) (replacement : List Char) :
    Option (List Char) := do
  let before ← splitAtOffset Char.utf8Size hunk.startOffset source
  let after ← splitAtOffset Char.utf8Size hunk.endOffset source
  return before.1 ++ replacement ++ after.2

end DevCommandCenter.MergeConflict
