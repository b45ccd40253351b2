import DevCommandCenter.Session.EventStore
import Mathlib.Data.Int.Notation
import Mathlib.Logic.Function.Basic

/-! Compaction of settled streaming deltas. A step reads rows, then terminal events, then writes; other
connections may append in between. -/

namespace DevCommandCenter

def deltaCompactionSettleMinutes : ℤ := 10

def mergedContentMaxBytes : ℕ := 128 * 1024

structure DeltaCompactionStep where
  mergedRows : ℕ
  deletedRows : ℕ
  more : Bool
  deriving DecidableEq, Repr

def DeltaCompactionStep.default : DeltaCompactionStep where
  mergedRows := 0
  deletedRows := 0
  more := false

inductive DeltaTag
  | turnDelta
  | turnAssistantMessageDelta
  | turnReasoningDelta
  | turnToolCallDelta
  deriving DecidableEq, Repr

structure DeltaTarget where
  tag : DeltaTag
  turnId : TurnId
  itemId : String
  deriving DecidableEq, Repr

def deltaTarget : SessionEventKind → Option (DeltaTarget × String)
  | .turnDelta turnId content => some (⟨.turnDelta, turnId, ""⟩, content)
  | .turnAssistantMessageDelta turnId messageId content =>
      some (⟨.turnAssistantMessageDelta, turnId, messageId⟩, content)
  | .turnReasoningDelta turnId reasoningId content =>
      some (⟨.turnReasoningDelta, turnId, reasoningId⟩, content)
  | .turnToolCallDelta turnId toolCallId content =>
      some (⟨.turnToolCallDelta, turnId, toolCallId⟩, content)
  | _ => none

def withContent (kind : SessionEventKind) (merged : String) : SessionEventKind :=
  match kind with
  | .turnDelta turnId _ => .turnDelta turnId merged
  | .turnAssistantMessageDelta turnId messageId _ =>
      .turnAssistantMessageDelta turnId messageId merged
  | .turnReasoningDelta turnId reasoningId _ => .turnReasoningDelta turnId reasoningId merged
  | .turnToolCallDelta turnId toolCallId _ => .turnToolCallDelta turnId toolCallId merged
  | kind => kind

/-- The rows of a run, of which the first is kept, and their joined text. -/
structure DeltaGroup where
  first : EventRow
  rest : List EventRow
  content : String
  deriving DecidableEq, Repr

def DeltaGroup.rows (group : DeltaGroup) : List EventRow :=
  group.first :: group.rest

lemma DeltaGroup.rows_ne_nil (group : DeltaGroup) : group.rows ≠ [] :=
  List.cons_ne_nil _ _

def DeltaGroup.push (group : DeltaGroup) (row : EventRow) (content : String) : DeltaGroup where
  first := group.first
  rest := group.rest ++ [row]
  content := group.content ++ content

section Reading

variable (parseFromRfc3339 : String → Option ℤ) (now : ℤ)

def isSettled (occurredAt : String) : Bool :=
  (parseFromRfc3339 occurredAt).any fun time =>
    decide (time ≤ now - deltaCompactionSettleMinutes * 60 * 1000000000)

def terminalSequences (rows : List EventRow) (sessionId : SessionId) : TurnId → Option (ℕ × Bool) :=
  (sessionRows rows sessionId).foldl
    (fun found row =>
      match row.terminalTurnId with
      | some turnId => Function.update found turnId
          (some (row.sequence, isSettled parseFromRfc3339 now row.occurredAt))
      | none => found)
    fun _ => none

end Reading

section Planning

variable (terminals : TurnId → Option (ℕ × Bool))

def settled (turnId : TurnId) : Bool :=
  (terminals turnId).any Prod.snd

def mergeable (row : EventRow) : Bool :=
  (deltaTarget row.kind).any fun (target, _) =>
    settled terminals target.turnId &&
      (terminals target.turnId).any fun (terminal, _) => decide (row.sequence < terminal)

def compactionBoundary (rows : List EventRow) : ℕ :=
  match rows.find? fun row => row.kind.turnId.any fun turnId => !settled terminals turnId with
  | some openFrom => openFrom.sequence - 1
  | none => (rows.getLast?.map EventRow.sequence).getD 0

structure DeltaPlan where
  groups : List DeltaGroup
  truncated : Bool
  deriving DecidableEq, Repr

def DeltaPlan.close (current : Option (DeltaGroup × DeltaTarget)) (plan : DeltaPlan) : DeltaPlan where
  groups := (current.map Prod.fst).toList ++ plan.groups
  truncated := plan.truncated

def planGroups (maxDeleted : ℕ) :
    Option (DeltaGroup × DeltaTarget) → ℕ → List EventRow → DeltaPlan
  | current, _, [] => DeltaPlan.close current ⟨[], false⟩
  | current, plannedDeletes, row :: rows =>
      match if mergeable terminals row then deltaTarget row.kind else none with
      | none => DeltaPlan.close current (planGroups maxDeleted none plannedDeletes rows)
      | some (key, content) =>
          match current.filter fun (group, currentKey) => currentKey = key ∧
              group.content.utf8ByteSize + content.utf8ByteSize ≤ mergedContentMaxBytes with
          | some (group, _) =>
              planGroups maxDeleted (some (group.push row content, key)) (plannedDeletes + 1) rows
          | none =>
              if maxDeleted ≤ plannedDeletes then DeltaPlan.close current ⟨[], true⟩
              else
                DeltaPlan.close current
                  (planGroups maxDeleted (some (⟨row, [], content⟩, key)) plannedDeletes rows)

end Planning

section Writing

def DeltaGroup.isRun (group : DeltaGroup) : Bool :=
  !group.rest.isEmpty

def DeltaGroup.lastSequence (group : DeltaGroup) : ℕ :=
  max (group.rows.getLast group.rows_ne_nil).sequence (group.first.compactedThrough.getD 0)

def DeltaGroup.merged (group : DeltaGroup) (row : EventRow) : EventRow :=
  { row with
    kind := withContent group.first.kind group.content
    compactedThrough := some group.lastSequence }

-- `WHERE event_id = ?1 AND kind_json = ?2`
def EventRow.unchanged (read row : EventRow) : Bool :=
  decide (row.eventId = read.eventId ∧ row.kind = read.kind)

def DeltaGroup.write (rows : List EventRow) (group : DeltaGroup) : Option (List EventRow) :=
  if rows.any group.first.unchanged then
    let updated := rows.map fun row => if group.first.unchanged row then group.merged row else row
    some (group.rest.foldl (fun rows read => rows.filter fun row => !read.unchanged row) updated)
  else none

def writeGroups : List DeltaGroup → List EventRow → Option (List EventRow)
  | [], rows => some rows
  | group :: groups, rows => (group.write rows).bind (writeGroups groups)

end Writing

section WellFormedness

variable {rows rows' : List EventRow}

lemma terminal_withContent (kind : SessionEventKind) (merged : String) :
    terminal (withContent kind merged) = terminal kind := by
  cases kind <;> rfl

lemma WellFormed.sublist (h : WellFormed rows) (hsub : rows'.Sublist rows) : WellFormed rows' where
  eventIds := h.eventIds.sublist hsub
  sequences := h.sequences.sublist hsub
  positive row hrow := h.positive row (hsub.subset hrow)
  terminals row hrow := h.terminals row (hsub.subset hrow)
  terminalTurns := h.terminalTurns.sublist hsub

lemma WellFormed.map (h : WellFormed rows) {f : EventRow → EventRow}
    (hf : ∀ row ∈ rows, (f row).eventId = row.eventId ∧ (f row).sessionId = row.sessionId ∧
      (f row).sequence = row.sequence ∧ terminal (f row).kind = terminal row.kind ∧
      (f row).terminalTurnId = row.terminalTurnId ∧ (f row).terminalKind = row.terminalKind) :
    WellFormed (rows.map f) where
  eventIds := by
    refine List.pairwise_map.mpr (h.eventIds.imp_of_mem fun {a b} ha hb hne => ?_)
    rwa [(hf a ha).1, (hf b hb).1]
  sequences := by
    refine List.pairwise_map.mpr (h.sequences.imp_of_mem fun {a b} ha hb hlt => ?_)
    rwa [(hf a ha).2.1, (hf b hb).2.1, (hf a ha).2.2.1, (hf b hb).2.2.1]
  positive row hrow := by
    obtain ⟨old, hold, rfl⟩ := List.mem_map.mp hrow
    rw [(hf old hold).2.2.1]
    exact h.positive old hold
  terminals row hrow := by
    obtain ⟨old, hold, rfl⟩ := List.mem_map.mp hrow
    obtain ⟨-, -, -, hkind, hturn, hterminal⟩ := hf old hold
    rw [hkind, hturn, hterminal]
    exact h.terminals old hold
  terminalTurns := by
    refine List.pairwise_map.mpr (h.terminalTurns.imp_of_mem fun {a b} ha hb hne => ?_)
    rwa [(hf a ha).2.1, (hf b hb).2.1, (hf a ha).2.2.2.2.1, (hf b hb).2.2.2.2.1]

lemma foldl_filter_sublist (l : List EventRow) (rows : List EventRow) :
    (l.foldl (fun rows read => rows.filter fun row => !read.unchanged row) rows).Sublist rows := by
  induction l generalizing rows with
  | nil => exact List.Sublist.refl rows
  | cons read l ih => exact (ih _).trans List.filter_sublist

lemma WellFormed.write (h : WellFormed rows) {group : DeltaGroup}
    (hwrite : group.write rows = some rows') : WellFormed rows' := by
  unfold DeltaGroup.write at hwrite
  split at hwrite
  · cases hwrite
    refine (h.map fun row _ => ?_).sublist (foldl_filter_sublist _ _)
    split
    · next hunchanged =>
        have hkind : row.kind = group.first.kind := (of_decide_eq_true hunchanged).2
        refine ⟨rfl, rfl, rfl, ?_, rfl, rfl⟩
        rw [hkind]
        exact terminal_withContent _ _
    · exact ⟨rfl, rfl, rfl, rfl, rfl, rfl⟩
  · cases hwrite

lemma WellFormed.writeGroups {groups : List DeltaGroup} (h : WellFormed rows)
    (hwrite : writeGroups groups rows = some rows') : WellFormed rows' := by
  induction groups generalizing rows with
  | nil =>
      cases hwrite
      exact h
  | cons group groups ih =>
      obtain ⟨between, hgroup, hgroups⟩ := Option.bind_eq_some_iff.mp hwrite
      exact ih (h.write hgroup) hgroups

end WellFormedness

/-- One step that reads the rows of `atRows` and the terminal events of `atTerminals` and writes to
`store`; without appends in between the three are one store. -/
def compactSessionDeltasStep (parseFromRfc3339 : String → Option ℤ) (atRows atTerminals : EventStore)
    (store : EventStore) (sessionId : SessionId) (now : ℤ) (maxDeleted : ℕ) :
    DeltaCompactionStep × EventStore :=
  let scannedThrough := (atRows.scannedThrough sessionId).getD 0
  let rows := (sessionRows atRows.rows sessionId).filter fun row => scannedThrough < row.sequence
  if rows.isEmpty then (.default, store)
  else
    let terminals := terminalSequences parseFromRfc3339 now atTerminals.rows sessionId
    let plan := planGroups terminals maxDeleted none 0 rows
    let groups := plan.groups.filter DeltaGroup.isRun
    match hwrite : writeGroups groups store.rows with
    | none => (.default, store)
    | some written =>
        (⟨groups.length, (groups.map fun group => group.rest.length).sum, plan.truncated⟩,
          { rows := written
            scannedThrough :=
              if plan.truncated then store.scannedThrough
              else Function.update store.scannedThrough sessionId
                (some (max (compactionBoundary terminals rows) scannedThrough))
            wellFormed := store.wellFormed.writeGroups hwrite })

/-- A merged row that starts at or before the cursor reaches past it. -/
def EventStore.cursorInsideCompactedRun (store : EventStore) (sessionId : SessionId) (after : ℕ) :
    Bool :=
  (sessionRows store.rows sessionId).any fun row =>
    decide (row.sequence ≤ after) && row.compactedThrough.any fun through => decide (after < through)

end DevCommandCenter
