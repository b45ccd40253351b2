import DevCommandCenter.Library.Sequences
import Mathlib.Data.List.Basic
import Mathlib.Data.List.Count
import Mathlib.Data.List.DropRight
import Mathlib.Data.List.Range

/-! A file's diff: its lines, the unchanged runs folded away, the rows that remain on screen and
their side-by-side form. -/

namespace DevCommandCenter.DiffView

def context : ℕ := 3
def collapsedThreshold : ℕ := 8
def expansion : ℕ := 20

inductive ChangeTag
  | equal
  | delete
  | insert
  deriving DecidableEq

structure LineChange where
  tag : ChangeTag
  value : List Char
  deriving DecidableEq

inductive LineKind
  | context
  | deletion
  | addition
  deriving DecidableEq

structure DiffLine where
  kind : LineKind
  old : Option ℕ
  new : Option ℕ
  text : List Char
  deriving DecidableEq

inductive GapPlace
  | first
  | middle
  | last
  deriving DecidableEq

inductive Row
  | line (index : ℕ)
  | separator (gap hidden : ℕ) (place : GapPlace)
  | skipped (skip hidden : ℕ) (place : GapPlace)
  deriving DecidableEq

structure Gap where
  start : ℕ
  stop : ℕ
  top : ℕ
  bottom : ℕ
  place : GapPlace
  deriving DecidableEq

def Gap.hidden (gap : Gap) : ℕ :=
  (gap.stop - gap.start) - (gap.top + gap.bottom)

structure FileDiff where
  lines : List DiffLine
  gaps : List Gap
  skipped : List (ℕ × ℕ)
  insertions : ℕ
  deletions : ℕ
  deriving DecidableEq

def stripNewline (line : List Char) : List Char :=
  line.rdropWhile fun c => c = '\n' ∨ c = '\r'

section Folding

def visibleLines (lines : List DiffLine) : List Bool :=
  let changed := (List.range lines.length).filter fun index =>
    (lines[index]?.map DiffLine.kind).any (· ≠ .context)
  (List.range lines.length).map fun line =>
    changed.any fun index =>
      decide (index - context ≤ line ∧ line < min (index + context + 1) lines.length)

def gapsFrom (count index : ℕ) : List Bool → List Gap
  | [] => []
  | true :: rest => gapsFrom count (index + 1) rest
  | false :: rest =>
      let run := rest.takeWhile (· = false)
      let stop := index + 1 + run.length
      let gaps := gapsFrom count stop (rest.dropWhile (· = false))
      if stop - index > collapsedThreshold then
        { start := index
          stop := stop
          top := 0
          bottom := 0
          place := if index = 0 then .first else if stop = count then .last else .middle } :: gaps
      else gaps
termination_by visible => visible.length
decreasing_by
  · simp
  · have := (List.dropWhile_sublist (· = false) (l := rest)).length_le
    simp only [List.length_cons]
    omega

def fold (lines : List DiffLine) : List Gap :=
  if lines.all (·.kind = .context) then []
  else gapsFrom lines.length 0 (visibleLines lines)

end Folding

def numberLines (old new : ℕ) : List LineChange → List DiffLine
  | [] => []
  | change :: rest =>
      let text := stripNewline change.value
      match change.tag with
      | .equal =>
          { kind := .context, old := some (old + 1), new := some (new + 1), text := text } ::
            numberLines (old + 1) (new + 1) rest
      | .delete =>
          { kind := .deletion, old := some (old + 1), new := none, text := text } ::
            numberLines (old + 1) new rest
      | .insert =>
          { kind := .addition, old := none, new := some (new + 1), text := text } ::
            numberLines old (new + 1) rest

-- the words emphasized within changed lines are left out
def FileDiff.ofTexts (fromLines : List Char → List Char → List LineChange)
    (original modified : List Char) : FileDiff :=
  let changes := fromLines original modified
  let lines := numberLines 0 0 changes
  { lines := lines
    gaps := fold lines
    skipped := []
    insertions := changes.countP (·.tag = .insert)
    deletions := changes.countP (·.tag = .delete) }

section Rows

def gapRows (gap : Gap) (number : ℕ) : List Row :=
  let bottom := min gap.bottom (gap.stop - gap.start - gap.top)
  (List.range' gap.start gap.top).map Row.line ++
    (if gap.hidden > 0 then [.separator number gap.hidden gap.place] else []) ++
    (List.range' (gap.stop - bottom) bottom).map Row.line

def skippedRows (index : ℕ) : List ((ℕ × ℕ) × ℕ) → List Row × List ((ℕ × ℕ) × ℕ)
  | ((place, hidden), skip) :: rest =>
      if place = index then
        ([.skipped skip hidden (if index = 0 then .first else .middle)], rest)
      else ([], ((place, hidden), skip) :: rest)
  | [] => ([], [])

-- each turn of the loop passes a line or a gap, so that as many turns as lines are enough
def FileDiff.rowsFrom (diff : FileDiff) :
    ℕ → ℕ → List (Gap × ℕ) → List ((ℕ × ℕ) × ℕ) → List Row
  | 0, _, _, _ => []
  | turns + 1, index, gaps, skipped =>
      if index < diff.lines.length then
        let (told, skipped) := skippedRows index skipped
        told ++
          match gaps with
          | (gap, number) :: rest =>
              if gap.start = index then
                gapRows gap number ++ diff.rowsFrom turns gap.stop rest skipped
              else .line index :: diff.rowsFrom turns (index + 1) gaps skipped
          | [] => .line index :: diff.rowsFrom turns (index + 1) [] skipped
      else []

def FileDiff.rows (diff : FileDiff) : List Row :=
  diff.rowsFrom diff.lines.length 0 diff.gaps.zipIdx diff.skipped.zipIdx

def Gap.expand (gap : Gap) (all : Bool) : Gap :=
  if all = true ∨ gap.hidden ≤ expansion then { gap with top := gap.top + gap.hidden }
  else
    match gap.place with
    | .first => { gap with bottom := gap.bottom + expansion }
    | .last => { gap with top := gap.top + expansion }
    | .middle =>
        let top := min expansion gap.hidden
        { gap with
          top := gap.top + top
          bottom := gap.bottom + min expansion (gap.hidden - top) }

def FileDiff.expand (diff : FileDiff) (gap : ℕ) (all : Bool) : FileDiff :=
  { diff with gaps := diff.gaps.modify gap (·.expand all) }

end Rows

section Split

inductive SplitRow
  | pair (old new : Option ℕ)
  | separator (gap hidden : ℕ) (place : GapPlace)
  | skipped (skip hidden : ℕ) (place : GapPlace)
  deriving DecidableEq

structure Splitting where
  split : List SplitRow
  deleted : List ℕ
  added : List ℕ

def Splitting.flush (state : Splitting) : Splitting where
  split := state.split ++
    (List.range (max state.deleted.length state.added.length)).map fun index =>
      .pair state.deleted[index]? state.added[index]?
  deleted := []
  added := []

def Splitting.push (state : Splitting) (row : SplitRow) : Splitting :=
  { state with split := state.split ++ [row] }

def FileDiff.splitStep (diff : FileDiff) (state : Splitting) : Row → Splitting
  | .line index =>
      match diff.lines[index]?.map DiffLine.kind with
      | some .deletion =>
          -- a deletion after additions starts a new block
          let state := if state.added ≠ [] then state.flush else state
          { state with deleted := state.deleted ++ [index] }
      | some .addition => { state with added := state.added ++ [index] }
      | some .context => state.flush.push (.pair (some index) (some index))
      -- an index out of range would panic, and none is listed
      | none => state
  | .separator gap hidden place => state.flush.push (.separator gap hidden place)
  | .skipped skip hidden place => state.flush.push (.skipped skip hidden place)

def FileDiff.splitRows (diff : FileDiff) (rows : List Row) : List SplitRow :=
  (rows.foldl diff.splitStep { split := [], deleted := [], added := [] }).flush.split

end Split

end DevCommandCenter.DiffView
