import Mathlib.Data.Finset.Option
import Mathlib.Data.Finset.Lattice.Lemmas
import Mathlib.Data.List.Perm.Basic
import DevCommandCenter.Library.Sequences

/-! What goes with the history of workspaces: their sessions, and the sessions of their delegations. -/

namespace DevCommandCenter.Session

open Library

structure SessionScopeRow where
  id : String
  workspaceId : String
  additionalWorkspaceIdsJson : String

structure DelegationRow where
  id : String
  parentSessionId : String
  childSessionId : Option String
  workspaceId : String

structure HistoryStore where
  sessions : List SessionScopeRow
  delegations : List DelegationRow
  primaryKey : (delegations.map DelegationRow.id).Nodup

/-- The order in which the rows come, which may differ from one reading to the next. -/
structure RowOrders (store : HistoryStore) where
  sessions : List SessionScopeRow
  sessionsPerm : sessions.Perm store.sessions
  delegations : ℕ → List DelegationRow
  delegationsPerm : ∀ pass, (delegations pass).Perm store.delegations

structure HistoryScope where
  sessionIds : Finset String
  delegationIds : Finset String
  changed : Bool
  deriving DecidableEq

variable (readIds : String → Option (List String)) (workspaceIds : Finset String)

def SessionScopeRow.inWorkspaces (row : SessionScopeRow) : Bool :=
  row.workspaceId ∈ workspaceIds ||
    ((readIds row.additionalWorkspaceIdsJson).getD []).any fun id => id ∈ workspaceIds

def DelegationRow.belongsToScope (row : DelegationRow) (sessionIds : Finset String) : Bool :=
  row.workspaceId ∈ workspaceIds || row.parentSessionId ∈ sessionIds ||
    row.childSessionId.any fun id => id ∈ sessionIds

def readSession (scope : HistoryScope) (row : SessionScopeRow) : HistoryScope :=
  if row.inWorkspaces readIds workspaceIds then
    { scope with sessionIds := insert row.id scope.sessionIds }
  else scope

def readDelegation (scope : HistoryScope) (row : DelegationRow) : HistoryScope :=
  if !row.belongsToScope workspaceIds scope.sessionIds then scope
  else
    match row.childSessionId with
    | some child => {
        sessionIds := insert child scope.sessionIds
        delegationIds := insert row.id scope.delegationIds
        changed := scope.changed || child ∉ scope.sessionIds }
    | none => { scope with delegationIds := insert row.id scope.delegationIds }

def readDelegations (scope : HistoryScope) (rows : List DelegationRow) : HistoryScope :=
  rows.foldl (readDelegation workspaceIds) { scope with changed := false }

section Readings

variable {workspaceIds} {scope : HistoryScope} {row : DelegationRow} {rows : List DelegationRow}

lemma readDelegation_cases (scope : HistoryScope) (row : DelegationRow) :
    (row.belongsToScope workspaceIds scope.sessionIds = false ∧
      readDelegation workspaceIds scope row = scope) ∨
    (row.belongsToScope workspaceIds scope.sessionIds = true ∧
      readDelegation workspaceIds scope row = {
        sessionIds := scope.sessionIds ∪ row.childSessionId.toFinset
        delegationIds := insert row.id scope.delegationIds
        changed := scope.changed || row.childSessionId.any (· ∉ scope.sessionIds) }) := by
  unfold readDelegation
  cases hbelongs : row.belongsToScope workspaceIds scope.sessionIds with
  | false => exact .inl ⟨rfl, rfl⟩
  | true =>
      refine .inr ⟨rfl, ?_⟩
      cases hchild : row.childSessionId with
      | none => simp
      | some child =>
          simp only [Option.toFinset_some, Option.any_some, Bool.not_true, Bool.false_eq_true, if_false]
          rw [Finset.union_comm]
          rfl

structure Grows (rows : List DelegationRow) (before after : HistoryScope) : Prop where
  sessions : before.sessionIds ⊆ after.sessionIds
  delegations : before.delegationIds ⊆ after.delegationIds
  unchanged : after.changed = false → before.changed = false ∧ after.sessionIds = before.sessionIds
  changed : after.changed = true → before.changed = true ∨
    ∃ row ∈ rows, ∃ child, row.childSessionId = some child ∧ child ∉ before.sessionIds ∧
      child ∈ after.sessionIds

lemma Grows.refl (scope : HistoryScope) : Grows [] scope scope where
  sessions := subset_rfl
  delegations := subset_rfl
  unchanged h := ⟨h, rfl⟩
  changed h := .inl h

lemma grows_read (scope : HistoryScope) (rows : List DelegationRow) :
    Grows rows scope (rows.foldl (readDelegation workspaceIds) scope) := by
  induction rows generalizing scope with
  | nil => exact .refl scope
  | cons row rows ih =>
      have hrest := ih (readDelegation workspaceIds scope row)
      rw [List.foldl_cons]
      rcases @readDelegation_cases workspaceIds scope row with ⟨-, heq⟩ | ⟨-, heq⟩
      · rw [heq] at hrest ⊢
        refine ⟨hrest.sessions, hrest.delegations, hrest.unchanged, fun hchanged => ?_⟩
        rcases hrest.changed hchanged with hbefore | ⟨found, hfound, hchild⟩
        · exact .inl hbefore
        · exact .inr ⟨found, List.mem_cons_of_mem _ hfound, hchild⟩
      · rw [heq] at hrest ⊢
        refine ⟨Finset.union_subset_left hrest.sessions,
          (Finset.subset_insert _ _).trans hrest.delegations, fun hunchanged => ?_, fun hchanged => ?_⟩
        · obtain ⟨hfirst, hsame⟩ := hrest.unchanged hunchanged
          rw [Bool.or_eq_false_iff] at hfirst
          refine ⟨hfirst.1, hsame.trans (Finset.union_eq_left.mpr ?_)⟩
          intro child hchild
          rw [Option.mem_toFinset] at hchild
          simpa [Option.mem_def.mp hchild] using hfirst.2
        · rcases hrest.changed hchanged with hfirst | ⟨found, hfound, child, hchild, hnew, hadded⟩
          · rw [Bool.or_eq_true] at hfirst
            rcases hfirst with hbefore | hadds
            · exact .inl hbefore
            · obtain ⟨child, hchild, hnew⟩ := (Option.any_eq_true _ _).mp hadds
              refine .inr ⟨row, List.mem_cons_self, child, hchild, of_decide_eq_true hnew, ?_⟩
              apply hrest.sessions
              simp [hchild]
          · refine .inr ⟨found, List.mem_cons_of_mem _ hfound, child, hchild, fun hmem => hnew ?_, hadded⟩
            exact Finset.mem_union_left _ hmem

lemma settled_of_unchanged {scope : HistoryScope} {rows : List DelegationRow}
    (h : (rows.foldl (readDelegation workspaceIds) scope).changed = false) :
    ∀ row ∈ rows, row.belongsToScope workspaceIds scope.sessionIds = true →
      row.id ∈ (rows.foldl (readDelegation workspaceIds) scope).delegationIds ∧
      ∀ child, row.childSessionId = some child → child ∈ scope.sessionIds := by
  induction rows generalizing scope with
  | nil => exact nofun
  | cons row rows ih =>
      have hgrows := @grows_read workspaceIds (readDelegation workspaceIds scope row) rows
      rw [List.foldl_cons] at h ⊢
      obtain ⟨hfirst, hsame⟩ := hgrows.unchanged h
      rcases @readDelegation_cases workspaceIds scope row with ⟨hbelongs, heq⟩ | ⟨hbelongs, heq⟩
      · intro found hfound hin
        rcases List.mem_cons.mp hfound with rfl | hlater
        · rw [hbelongs] at hin
          cases hin
        · have hrest := ih h found hlater
          rw [heq] at hrest ⊢
          exact hrest hin
      · have hsessions : (readDelegation workspaceIds scope row).sessionIds = scope.sessionIds := by
          rw [heq] at hfirst ⊢
          rw [Bool.or_eq_false_iff] at hfirst
          apply Finset.union_eq_left.mpr
          intro child hchild
          rw [Option.mem_toFinset] at hchild
          simpa [Option.mem_def.mp hchild] using hfirst.2
        intro found hfound hin
        rcases List.mem_cons.mp hfound with rfl | hlater
        · refine ⟨hgrows.delegations ?_, fun child hchild => ?_⟩
          · rw [heq]
            exact Finset.mem_insert_self _ _
          · rw [← hsessions, heq]
            simp [hchild]
        · have hrest := ih h found hlater
          rw [hsessions] at hrest
          exact hrest hin

end Readings

variable {store : HistoryStore}

/-- Sessions and delegations that go together: no session of the workspaces, no delegation of theirs or
to or from one of the sessions, and no child of one of the delegations is left behind. -/
structure ClosedScope (store : HistoryStore) (sessionIds delegationIds : Set String) : Prop where
  sessions : ∀ row ∈ store.sessions, row.inWorkspaces readIds workspaceIds = true → row.id ∈ sessionIds
  delegations : ∀ row ∈ store.delegations, (row.workspaceId ∈ workspaceIds ∨ row.parentSessionId ∈ sessionIds ∨
    ∃ child, row.childSessionId = some child ∧ child ∈ sessionIds) → row.id ∈ delegationIds
  children : ∀ row ∈ store.delegations, row.id ∈ delegationIds →
    ∀ child, row.childSessionId = some child → child ∈ sessionIds

section Scope

variable {readIds workspaceIds} {scope : HistoryScope} {sessionIds delegationIds : Set String}

structure InScope (store : HistoryStore) (scope : HistoryScope) : Prop where
  within : ∀ sessionIds delegationIds, ClosedScope readIds workspaceIds store sessionIds delegationIds →
    (∀ id ∈ scope.sessionIds, id ∈ sessionIds) ∧ ∀ id ∈ scope.delegationIds, id ∈ delegationIds
  sessions : ∀ row ∈ store.sessions, row.inWorkspaces readIds workspaceIds = true → row.id ∈ scope.sessionIds
  children : ∀ row ∈ store.delegations, row.id ∈ scope.delegationIds →
    ∀ child, row.childSessionId = some child → child ∈ scope.sessionIds

lemma InScope.read (h : @InScope readIds workspaceIds store scope) {row : DelegationRow}
    (hrow : row ∈ store.delegations) :
    @InScope readIds workspaceIds store (readDelegation workspaceIds scope row) := by
  rcases @readDelegation_cases workspaceIds scope row with ⟨-, heq⟩ | ⟨hbelongs, heq⟩
  · rwa [heq]
  · rw [heq]
    refine ⟨fun sessionIds delegationIds hclosed => ?_, fun found hfound hin => ?_, ?_⟩
    · obtain ⟨hsessions, hdelegations⟩ := h.within sessionIds delegationIds hclosed
      have hid : row.id ∈ delegationIds := by
        apply hclosed.delegations row hrow
        simp only [DelegationRow.belongsToScope, Bool.or_eq_true, decide_eq_true_eq, Option.any_eq_true] at hbelongs
        rcases hbelongs with (hworkspace | hparent) | ⟨child, hchild, hin⟩
        · exact .inl hworkspace
        · exact .inr (.inl (hsessions _ hparent))
        · exact .inr (.inr ⟨child, hchild, hsessions _ hin⟩)
      refine ⟨fun id hmem => ?_, fun id hmem => ?_⟩
      · rcases Finset.mem_union.mp hmem with hold | hchild
        · exact hsessions id hold
        · exact hclosed.children row hrow hid id (Option.mem_toFinset.mp hchild)
      · rcases Finset.mem_insert.mp hmem with rfl | hold
        · exact hid
        · exact hdelegations id hold
    · exact Finset.mem_union_left _ (h.sessions found hfound hin)
    · intro found hfound hin child hchild
      rcases Finset.mem_insert.mp hin with heqId | hold
      · -- ids are a primary key
        have hsame := List.inj_on_of_nodup_map store.primaryKey hfound hrow heqId
        rw [hsame] at hchild
        exact Finset.mem_union_right _ (Option.mem_toFinset.mpr hchild)
      · exact Finset.mem_union_left _ (h.children found hfound hold child hchild)

lemma InScope.readAll {rows : List DelegationRow} (h : @InScope readIds workspaceIds store scope)
    (hrows : ∀ row ∈ rows, row ∈ store.delegations) :
    @InScope readIds workspaceIds store (rows.foldl (readDelegation workspaceIds) scope) := by
  induction rows generalizing scope with
  | nil => exact h
  | cons row rows ih =>
      exact ih (h.read (hrows row List.mem_cons_self)) fun found hfound =>
        hrows found (List.mem_cons_of_mem _ hfound)

end Scope

def HistoryStore.openChildren (store : HistoryStore) (sessionIds : Finset String) : ℕ :=
  store.delegations.countP fun row => row.childSessionId.any (· ∉ sessionIds)

lemma openChildren_lt {orders : RowOrders store} {pass : ℕ} {scope : HistoryScope}
    (h : (readDelegations workspaceIds scope (orders.delegations pass)).changed = true) :
    store.openChildren (readDelegations workspaceIds scope (orders.delegations pass)).sessionIds <
      store.openChildren scope.sessionIds := by
  have hgrows := @grows_read workspaceIds { scope with changed := false } (orders.delegations pass)
  rcases hgrows.changed h with hbefore | ⟨row, hrow, child, hchild, hnew, hadded⟩
  · cases hbefore
  · refine countP_lt_of_imp ?_ ((orders.delegationsPerm pass).mem_iff.mp hrow) ?_ ?_
    · intro row hopen
      obtain ⟨child, hchild, hnot⟩ := (Option.any_eq_true _ _).mp hopen
      refine (Option.any_eq_true _ _).mpr ⟨child, hchild, decide_eq_true fun hmem => ?_⟩
      exact of_decide_eq_true hnot (hgrows.sessions hmem)
    · simpa [hchild] using hnew
    · rw [hchild, Option.any_some]
      exact decide_eq_false (not_not_intro hadded)

def followDelegations (orders : RowOrders store) (pass : ℕ) (scope : HistoryScope) : HistoryScope :=
  if (readDelegations workspaceIds scope (orders.delegations pass)).changed then
    followDelegations orders (pass + 1) (readDelegations workspaceIds scope (orders.delegations pass))
  else readDelegations workspaceIds scope (orders.delegations pass)
termination_by store.openChildren scope.sessionIds
decreasing_by
  apply openChildren_lt
  assumption

def workspaceHistoryScope (orders : RowOrders store) : Finset String × Finset String :=
  let scope := followDelegations workspaceIds orders 0
    (orders.sessions.foldl (readSession readIds workspaceIds) ⟨∅, ∅, false⟩)
  (scope.sessionIds, scope.delegationIds)

section Result

variable {readIds workspaceIds}

lemma mem_readSessions {rows : List SessionScopeRow} {scope : HistoryScope} {id : String} :
    id ∈ (rows.foldl (readSession readIds workspaceIds) scope).sessionIds ↔
      id ∈ scope.sessionIds ∨ ∃ row ∈ rows, row.inWorkspaces readIds workspaceIds = true ∧ row.id = id := by
  induction rows generalizing scope with
  | nil => simp
  | cons row rows ih =>
      rw [List.foldl_cons, ih, readSession, List.exists_mem_cons_iff]
      split
      · next hin =>
        rw [Finset.mem_insert, or_comm (a := id = row.id), or_assoc]
        simp only [hin, true_and, eq_comm]
      · next hout => simp only [hout, Bool.false_eq_true, false_and, false_or]

lemma readSessions_delegationIds (rows : List SessionScopeRow) (scope : HistoryScope) :
    (rows.foldl (readSession readIds workspaceIds) scope).delegationIds = scope.delegationIds := by
  induction rows generalizing scope with
  | nil => rfl
  | cons row rows ih =>
      rw [List.foldl_cons, ih, readSession]
      split <;> rfl

lemma inScope_readSessions (orders : RowOrders store) : @InScope readIds workspaceIds store
    (orders.sessions.foldl (readSession readIds workspaceIds) ⟨∅, ∅, false⟩) := by
  have hdelegations := @readSessions_delegationIds readIds workspaceIds orders.sessions ⟨∅, ∅, false⟩
  refine ⟨fun sessionIds delegationIds hclosed => ⟨fun id hid => ?_, fun id hid => ?_⟩, ?_, ?_⟩
  · rcases mem_readSessions.mp hid with hnone | ⟨row, hrow, hin, rfl⟩
    · cases Finset.notMem_empty id hnone
    · exact hclosed.sessions row (orders.sessionsPerm.mem_iff.mp hrow) hin
  · rw [hdelegations] at hid
    cases Finset.notMem_empty id hid
  · exact fun row hrow hin => mem_readSessions.mpr (.inr ⟨row, orders.sessionsPerm.mem_iff.mpr hrow, hin, rfl⟩)
  · intro row _ hid
    rw [hdelegations] at hid
    cases Finset.notMem_empty _ hid

lemma followDelegations_spec (orders : RowOrders store) (pass : ℕ) {scope : HistoryScope}
    (h : @InScope readIds workspaceIds store scope) :
    @InScope readIds workspaceIds store (followDelegations workspaceIds orders pass scope) ∧
      ClosedScope readIds workspaceIds store (followDelegations workspaceIds orders pass scope).sessionIds
        (followDelegations workspaceIds orders pass scope).delegationIds := by
  induction pass, scope using followDelegations.induct workspaceIds orders with
  | case1 pass scope hchanged ih =>
      rw [followDelegations, if_pos hchanged]
      exact ih (InScope.readAll ⟨h.within, h.sessions, h.children⟩
        fun row hrow => (orders.delegationsPerm pass).mem_iff.mp hrow)
  | case2 pass scope hchanged =>
      rw [followDelegations, if_neg hchanged]
      have hunchanged : (readDelegations workspaceIds scope (orders.delegations pass)).changed = false := by
        simpa using hchanged
      have hread : @InScope readIds workspaceIds store
          (readDelegations workspaceIds scope (orders.delegations pass)) :=
        InScope.readAll ⟨h.within, h.sessions, h.children⟩
          fun row hrow => (orders.delegationsPerm pass).mem_iff.mp hrow
      have hsame := ((@grows_read workspaceIds { scope with changed := false }
        (orders.delegations pass)).unchanged hunchanged).2
      refine ⟨hread, hread.sessions, fun row hrow hbelongs => ?_, hread.children⟩
      have hbelongs' : row.belongsToScope workspaceIds scope.sessionIds = true := by
        rw [readDelegations, hsame] at hbelongs
        simp only [DelegationRow.belongsToScope, Bool.or_eq_true, decide_eq_true_eq, Option.any_eq_true]
        rcases hbelongs with hworkspace | hparent | ⟨child, hchild, hin⟩
        · exact .inl (.inl hworkspace)
        · exact .inl (.inr hparent)
        · exact .inr ⟨child, hchild, hin⟩
      exact (settled_of_unchanged hunchanged row ((orders.delegationsPerm pass).mem_iff.mpr hrow) hbelongs').1

/-- The scope is the least that is closed, in whatever order the rows are read. -/
theorem history_scope_least (readIds : String → Option (List String)) (workspaceIds : Finset String)
    (store : HistoryStore) (orders : RowOrders store) :
    ClosedScope readIds workspaceIds store (workspaceHistoryScope readIds workspaceIds orders).1
        (workspaceHistoryScope readIds workspaceIds orders).2 ∧
      (∀ sessionIds delegationIds : Set String,
        ClosedScope readIds workspaceIds store sessionIds delegationIds →
        ↑(workspaceHistoryScope readIds workspaceIds orders).1 ⊆ sessionIds ∧
        ↑(workspaceHistoryScope readIds workspaceIds orders).2 ⊆ delegationIds) ∧
      ∀ orders' : RowOrders store, workspaceHistoryScope readIds workspaceIds orders' =
        workspaceHistoryScope readIds workspaceIds orders := by
  have hspec := fun orders : RowOrders store =>
    followDelegations_spec orders 0 (@inScope_readSessions readIds workspaceIds store orders)
  have hleast : ∀ orders : RowOrders store, ∀ sessionIds delegationIds : Set String,
      ClosedScope readIds workspaceIds store sessionIds delegationIds →
      ↑(workspaceHistoryScope readIds workspaceIds orders).1 ⊆ sessionIds ∧
      ↑(workspaceHistoryScope readIds workspaceIds orders).2 ⊆ delegationIds :=
    fun orders sessionIds delegationIds hclosed => (hspec orders).1.within sessionIds delegationIds hclosed
  refine ⟨(hspec orders).2, hleast orders, fun orders' => ?_⟩
  obtain ⟨hsessions, hdelegations⟩ := hleast orders _ _ (hspec orders').2
  obtain ⟨hsessions', hdelegations'⟩ := hleast orders' _ _ (hspec orders).2
  exact Prod.ext (Finset.coe_injective (hsessions'.antisymm hsessions))
    (Finset.coe_injective (hdelegations'.antisymm hdelegations))

end Result

end DevCommandCenter.Session
