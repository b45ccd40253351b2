import DevCommandCenter.GuardedUndo.Coordinator
import DevCommandCenter.Library.Walks

/-! What each coordinator call does when it succeeds, and that a refused call does nothing. -/

namespace DevCommandCenter

open Library WorkspaceMutationCoordinator

namespace WorkspaceMutationCoordinator

variable {c : WorkspaceMutationCoordinator} {root : PhysicalRootId}

lemma idle_iff {entry : RootEntry} : entry.idle = true ↔ entry = .default := by
  obtain ⟨mutationActive, edges, turns⟩ := entry
  constructor
  · intro h
    simp only [RootEntry.idle, Bool.and_eq_true, Bool.not_eq_true', beq_iff_eq,
      List.isEmpty_iff] at h
    obtain ⟨⟨rfl, rfl⟩, hturns⟩ := h
    have hempty : turns = ∅ := AList.ext hturns
    rw [hempty]
    rfl
  · intro h
    rw [h]
    rfl

section RootUpdates

variable (f : RootEntry → RootEntry)

lemma updatesAt_updateEntry :
    UpdatesAt WorkspaceMutationCoordinator.roots (updateEntry f)
      fun _ found => some (f (found.getD .default)) := by
  intro c k k'
  by_cases h : k' = k
  · subst h
    simp [updateEntry, entry]
  · simp [updateEntry, h]

lemma updatesAt_updateExisting :
    UpdatesAt WorkspaceMutationCoordinator.roots (updateExisting f) fun _ found => found.map f := by
  intro c k k'
  unfold updateExisting
  cases hk : c.roots k with
  | none =>
      by_cases h : k' = k
      · subst h
        simp [hk]
      · simp [h]
  | some found =>
      by_cases h : k' = k
      · subst h
        simp [hk]
      · simp [h]

end RootUpdates

lemma updatesAt_removeIdleRoot :
    UpdatesAt WorkspaceMutationCoordinator.roots removeIdleRoot
      fun _ found => found.filter fun entry => !entry.idle := by
  intro c k k'
  unfold removeIdleRoot
  by_cases h : k' = k
  · subst h
    cases hk : c.roots k' with
    | none => simp [hk]
    | some found => by_cases hidle : found.idle = true <;> simp [hk, hidle, Option.filter]
  · split <;> simp [h]

lemma roots_releaseEntries (f : RootEntry → RootEntry) {l : List PhysicalRootId} (hl : l.Nodup)
    (c : WorkspaceMutationCoordinator) (r : PhysicalRootId) :
    (releaseEntries f l c).roots r =
      if r ∈ l then ((c.roots r).map f).filter fun entry => !entry.idle else c.roots r := by
  rw [releaseEntries, updatesAt_removeIdleRoot.foldl hl, (updatesAt_updateExisting f).foldl hl]
  split <;> rfl

lemma entry_releaseEntries {f : RootEntry → RootEntry} (hf : f .default = .default)
    {l : List PhysicalRootId} (hl : l.Nodup) (c : WorkspaceMutationCoordinator)
    (r : PhysicalRootId) :
    (releaseEntries f l c).entry r = if r ∈ l then f (c.entry r) else c.entry r := by
  unfold entry
  rw [roots_releaseEntries f hl]
  split
  · cases hr : c.roots r with
    | none => simp [hf]
    | some found =>
        by_cases hidle : (f found).idle = true
        · simp [Option.filter, hidle, (idle_iff.mp hidle).symm]
        · simp [Option.filter, hidle]
  · rfl

lemma releaseEntries_keeps (f : RootEntry → RootEntry) (l : List PhysicalRootId)
    (c : WorkspaceMutationCoordinator) :
    (releaseEntries f l c).generations = c.generations ∧
    (releaseEntries f l c).receipts = c.receipts ∧
    (releaseEntries f l c).nextReceiptId = c.nextReceiptId := by
  have hexisting : ∀ s k, (updateExisting f s k).generations = s.generations ∧
      (updateExisting f s k).receipts = s.receipts ∧
      (updateExisting f s k).nextReceiptId = s.nextReceiptId := by
    intro s k
    unfold updateExisting
    split <;> exact ⟨rfl, rfl, rfl⟩
  have hremove : ∀ s k, (removeIdleRoot s k).generations = s.generations ∧
      (removeIdleRoot s k).receipts = s.receipts ∧
      (removeIdleRoot s k).nextReceiptId = s.nextReceiptId := by
    intro s k
    unfold removeIdleRoot
    split <;> exact ⟨rfl, rfl, rfl⟩
  unfold releaseEntries
  refine ⟨?_, ?_, ?_⟩
  · rw [foldl_keeps fun s k => (hremove s k).1, foldl_keeps fun s k => (hexisting s k).1]
  · rw [foldl_keeps fun s k => (hremove s k).2.1, foldl_keeps fun s k => (hexisting s k).2.1]
  · rw [foldl_keeps fun s k => (hremove s k).2.2, foldl_keeps fun s k => (hexisting s k).2.2]

def ActiveOn (c : WorkspaceMutationCoordinator) (l : List PhysicalRootId) (receipt : ℕ) : Prop :=
  ∃ r ∈ l, ∃ owner, (c.entry r).activeTurns.lookup owner = some receipt

lemma mem_turn_receipts {entry : RootEntry} {receipt : ℕ} :
    receipt ∈ entry.activeTurns.entries.map Sigma.snd ↔
      ∃ owner, entry.activeTurns.lookup owner = some receipt := by
  rw [List.mem_map]
  constructor
  · rintro ⟨⟨owner, _⟩, hentry, rfl⟩
    exact ⟨owner, AList.mem_lookup_iff.mpr hentry⟩
  · rintro ⟨owner, hlookup⟩
    exact ⟨⟨owner, receipt⟩, AList.mem_lookup_iff.mp hlookup, rfl⟩

lemma mem_activeReceiptStates {l : List PhysicalRootId} {receipt : ℕ} :
    receipt ∈ c.activeReceiptStates l ↔ c.ActiveOn l receipt := by
  simp only [activeReceiptStates, List.mem_dedup, List.mem_flatMap, mem_turn_receipts, ActiveOn]

lemma receipts_markDirty (l : List ℕ) (c : WorkspaceMutationCoordinator) (receipt : ℕ) :
    (l.foldl markDirty c).receipts receipt =
      if receipt ∈ l then some .ineligible else c.receipts receipt := by
  have hat : UpdatesAt WorkspaceMutationCoordinator.receipts markDirty
      fun _ _ => some .ineligible := by
    intro c k k'
    by_cases h : k' = k <;> simp [markDirty, h]
  exact hat.foldl_of_idempotent (fun _ _ => rfl) l c receipt

lemma markDirty_keeps (l : List ℕ) (c : WorkspaceMutationCoordinator) :
    (l.foldl markDirty c).roots = c.roots ∧ (l.foldl markDirty c).generations = c.generations ∧
      (l.foldl markDirty c).nextReceiptId = c.nextReceiptId := by
  have hkeep : ∀ s k, (markDirty s k).roots = s.roots ∧ (markDirty s k).generations = s.generations ∧
      (markDirty s k).nextReceiptId = s.nextReceiptId := fun _ _ => ⟨rfl, rfl, rfl⟩
  exact ⟨foldl_keeps (fun s k => (hkeep s k).1) l c, foldl_keeps (fun s k => (hkeep s k).2.1) l c,
    foldl_keeps (fun s k => (hkeep s k).2.2) l c⟩

end WorkspaceMutationCoordinator

section Preflight

variable {c : WorkspaceMutationCoordinator} {roots rootIds : List PhysicalRootId}

lemma normalizeRoots_ok (h : normalizeRoots rootIds = .ok roots) :
    roots.Nodup ∧ (∀ r, r ∈ roots ↔ r ∈ rootIds) ∧ ∀ r ∈ roots, r.validate = true := by
  unfold normalizeRoots at h
  split at h
  · cases h
  · next hvalid =>
      cases h
      simp only [Bool.or_eq_true, Bool.not_eq_true', not_or, Bool.not_eq_false,
        List.all_eq_true] at hvalid
      exact ⟨nodup_sortDedup rootIds, fun r => mem_sortDedup,
        fun r hr => hvalid.2 r (mem_sortDedup.mp hr)⟩

lemma checkEntries_ok {check : PhysicalRootId → Option RootEntry → Except CoordinatorError Unit}
    (h : checkEntries c check roots = .ok ()) : ∀ r ∈ roots, check r (c.roots r) = .ok () := by
  induction roots with
  | nil => simp
  | cons root roots ih =>
      simp only [checkEntries, bind, Except.bind] at h
      split at h
      · cases h
      · next hroot =>
          intro r hr
          rcases List.mem_cons.mp hr with rfl | hr
          · exact hroot
          · exact ih h r hr

lemma admitTurn_ok {owner : TurnOwner} {r : PhysicalRootId}
    (h : admitTurn owner r (c.roots r) = .ok ()) :
    (c.entry r).activeCaptureEdges = 0 ∧ owner ∉ (c.entry r).activeTurns := by
  unfold entry
  cases hr : c.roots r with
  | none => simp [RootEntry.default]
  | some found =>
      rw [hr] at h
      simp only [admitTurn] at h
      split at h
      · cases h
      · split at h
        · cases h
        · next hedges howner => exact ⟨not_not.mp hedges, howner⟩

lemma admitCaptureEdge_ok {r : PhysicalRootId} (h : admitCaptureEdge r (c.roots r) = .ok ()) :
    (c.entry r).mutationActive = false := by
  unfold entry
  cases hr : c.roots r with
  | none => rfl
  | some found =>
      rw [hr] at h
      simp only [admitCaptureEdge] at h
      split at h
      · cases h
      · next hactive => simpa using hactive

lemma admitMutation_ok {r : PhysicalRootId} (h : admitMutation c r (c.roots r) = .ok ()) :
    (c.entry r).mutationActive = false ∧ (c.entry r).activeCaptureEdges = 0 := by
  unfold entry
  simp only [admitMutation] at h
  split at h
  · cases h
  · split at h
    · cases h
    · split at h
      · cases h
      · next hactive hedges =>
          cases hr : c.roots r with
          | none => exact ⟨rfl, rfl⟩
          | some found =>
              rw [hr] at hactive hedges
              simpa using And.intro hactive hedges

end Preflight

section Calls

variable {c c' : WorkspaceMutationCoordinator} {rootIds : List PhysicalRootId}

structure TurnBegun (c c' : WorkspaceMutationCoordinator) (l : List PhysicalRootId)
    (conflict : Bool) (guard : TurnIntervalGuard) : Prop where
  nodup : l.Nodup
  guard_roots : guard.roots = l.map fun r => (r, c.generation r)
  guard_dropping : guard.dropping = false
  guard_receipt : guard.receipt = c.nextReceiptId + 1
  next : c'.nextReceiptId = c.nextReceiptId + 1
  admitted : ∀ r ∈ l, (c.entry r).activeCaptureEdges = 0 ∧ guard.owner ∉ (c.entry r).activeTurns
  conflict_iff : conflict = true ↔
    ∃ r ∈ l, (c.entry r).activeTurns.entries.isEmpty = false ∨ (c.entry r).mutationActive = true
  roots : ∀ r, c'.roots r = if r ∈ l then
    some { c.entry r with activeTurns := (c.entry r).activeTurns.insert guard.owner guard.receipt }
    else c.roots r
  generations : ∀ r, c'.generations.lookup r =
    if r ∈ l then some (c.generation r) else c.generations.lookup r
  receipt : ∃ generation, c'.receipts guard.receipt =
    some (if conflict then .ineligible else .clean generation)
  dirtied : ∀ id, id ≠ guard.receipt → conflict = true → c.ActiveOn l id →
    c'.receipts id = some .ineligible
  kept : ∀ id, id ≠ guard.receipt → ¬(conflict = true ∧ c.ActiveOn l id) →
    c'.receipts id = c.receipts id

lemma turnConflict_iff {l : List PhysicalRootId} : turnConflict c l = true ↔
    ∃ r ∈ l, (c.entry r).activeTurns.entries.isEmpty = false ∨ (c.entry r).mutationActive = true := by
  simp only [turnConflict, List.any_eq_true]
  refine exists_congr fun r => and_congr_right fun _ => ?_
  unfold entry
  cases c.roots r with
  | none => simp [RootEntry.default]
  | some found => simp

lemma generations_retainGeneration (root r : PhysicalRootId) :
    (c.retainGeneration root).generations.lookup r =
      if r = root then some (c.generation r) else c.generations.lookup r := by
  unfold retainGeneration generation
  by_cases h : r = root
  · subst h
    split
    · next hmem =>
        obtain ⟨g, hg⟩ := Table.exists_lookup hmem
        simp [hg]
    · next hmem => simp [AList.lookup_eq_none.mpr hmem]
  · rw [if_neg h]
    split
    · rfl
    · exact AList.lookup_insert_ne h

lemma retainGeneration_keeps (c : WorkspaceMutationCoordinator) (root : PhysicalRootId) :
    (c.retainGeneration root).roots = c.roots ∧ (c.retainGeneration root).receipts = c.receipts ∧
      (c.retainGeneration root).nextReceiptId = c.nextReceiptId := by
  unfold retainGeneration
  split <;> exact ⟨rfl, rfl, rfl⟩

lemma foldl_retain_update (f : RootEntry → RootEntry) {l : List PhysicalRootId} (hl : l.Nodup)
    (c : WorkspaceMutationCoordinator) :
    (∀ r, (l.foldl (fun c root => (c.retainGeneration root).updateEntry f root) c).roots r =
      if r ∈ l then some (f (c.entry r)) else c.roots r) ∧
    (∀ r, (l.foldl (fun c root => (c.retainGeneration root).updateEntry f root) c).generations.lookup r
      = if r ∈ l then some (c.generation r) else c.generations.lookup r) ∧
    (l.foldl (fun c root => (c.retainGeneration root).updateEntry f root) c).receipts = c.receipts ∧
    (l.foldl (fun c root => (c.retainGeneration root).updateEntry f root) c).nextReceiptId =
      c.nextReceiptId := by
  have hroots : UpdatesAt WorkspaceMutationCoordinator.roots
      (fun c root => (c.retainGeneration root).updateEntry f root)
      fun _ found => some (f (found.getD .default)) := by
    intro c k k'
    have hkeep := (retainGeneration_keeps c k).1
    have hupdate := updatesAt_updateEntry f (c.retainGeneration k) k k'
    rwa [hkeep] at hupdate
  have hgenerations : UpdatesAt (fun (c : WorkspaceMutationCoordinator) root => c.generations.lookup root)
      (fun c root => (c.retainGeneration root).updateEntry f root)
      fun _ found => some (found.getD 0) := fun c k k' => generations_retainGeneration k k'
  have hreceipts : ∀ (s : WorkspaceMutationCoordinator) k,
      ((s.retainGeneration k).updateEntry f k).receipts = s.receipts :=
    fun s k => (retainGeneration_keeps s k).2.1
  have hnext : ∀ (s : WorkspaceMutationCoordinator) k,
      ((s.retainGeneration k).updateEntry f k).nextReceiptId = s.nextReceiptId :=
    fun s k => (retainGeneration_keeps s k).2.2
  exact ⟨hroots.foldl hl c, hgenerations.foldl hl c, foldl_keeps hreceipts l c,
    foldl_keeps hnext l c⟩

lemma allocateReceiptId_ok {receipt : ℕ} (h : allocateReceiptId c = (.ok receipt, c')) :
    receipt = c.nextReceiptId + 1 ∧ c' = { c with nextReceiptId := c.nextReceiptId + 1 } := by
  obtain ⟨_, _, hread, h⟩ := Call.bind_ok_iff.mp h
  cases hread
  split at h
  · cases h
  · cases h
    exact ⟨rfl, rfl⟩

lemma registerTurns_begun {l : List PhysicalRootId} {owner : TurnOwner} {base : ℕ}
    (hl : l.Nodup) (hadmitted : ∀ r ∈ l, (c.entry r).activeCaptureEdges = 0 ∧
      owner ∉ (c.entry r).activeTurns) :
    let numbered := { c with nextReceiptId := c.nextReceiptId + 1 }
    let dirtied := if turnConflict c l then (numbered.activeReceiptStates l).foldl markDirty numbered
      else numbered
    let state := if turnConflict c l then TurnReceiptState.ineligible else .clean base
    let shared := { dirtied with
      receipts := Function.update dirtied.receipts (c.nextReceiptId + 1) (some state) }
    TurnBegun c (l.foldl (registerTurn owner (c.nextReceiptId + 1)) shared) l (turnConflict c l)
      ⟨l.map fun root => (root, c.generation root), owner, c.nextReceiptId + 1, false⟩ := by
  intro numbered dirtied state shared
  have hdirtied : dirtied.roots = c.roots ∧ dirtied.generations = c.generations ∧
      dirtied.nextReceiptId = c.nextReceiptId + 1 ∧
      ∀ id, dirtied.receipts id = if turnConflict c l = true ∧ id ∈ c.activeReceiptStates l
        then some .ineligible else c.receipts id := by
    by_cases hconflict : turnConflict c l = true
    · have hkeeps := markDirty_keeps (numbered.activeReceiptStates l) numbered
      simp only [dirtied, hconflict, if_true, true_and]
      exact ⟨hkeeps.1, hkeeps.2.1, hkeeps.2.2, fun id => receipts_markDirty _ numbered id⟩
    · simp only [dirtied, hconflict, Bool.false_eq_true, if_false, false_and]
      exact ⟨rfl, rfl, rfl, fun _ => rfl⟩
  obtain ⟨hroots, hgenerations, hnext, hreceipts⟩ := hdirtied
  have hentry : ∀ r, shared.entry r = c.entry r := fun r => by
    simp only [WorkspaceMutationCoordinator.entry, shared, hroots]
  have hgeneration : ∀ r, shared.generation r = c.generation r := fun r => by
    simp only [WorkspaceMutationCoordinator.generation, shared, hgenerations]
  obtain ⟨hfold_roots, hfold_generations, hfold_receipts, hfold_next⟩ := foldl_retain_update
    (fun entry => { entry with activeTurns := entry.activeTurns.insert owner (c.nextReceiptId + 1) })
    hl shared
  exact {
    nodup := hl
    guard_roots := rfl
    guard_dropping := rfl
    guard_receipt := rfl
    next := hfold_next.trans hnext
    admitted := hadmitted
    conflict_iff := turnConflict_iff
    roots := fun r => by
      rw [← hentry r]
      exact (hfold_roots r).trans (by simp only [shared, hroots])
    generations := fun r => by
      rw [← hgeneration r]
      exact (hfold_generations r).trans (by simp only [shared, hgenerations])
    receipt := ⟨base, by
      refine (congrFun hfold_receipts _).trans ?_
      simp only [shared, Function.update_self, state]⟩
    dirtied := fun id hid hconflict hactive => by
      refine (congrFun hfold_receipts id).trans ?_
      simp only [shared, Function.update_of_ne hid, hreceipts]
      exact if_pos ⟨hconflict, mem_activeReceiptStates.mpr hactive⟩
    kept := fun id hid hnot => by
      refine (congrFun hfold_receipts id).trans ?_
      simp only [shared, Function.update_of_ne hid, hreceipts]
      exact if_neg fun h => hnot ⟨h.1, mem_activeReceiptStates.mp h.2⟩ }

lemma beginTurnIntervals_ok {owner : TurnOwner} {guard : TurnIntervalGuard}
    (h : beginTurnIntervals rootIds owner c = (.ok guard, c')) :
    ∃ l conflict, (∀ r, r ∈ l ↔ r ∈ rootIds) ∧ guard.owner = owner ∧
      TurnBegun c c' l conflict guard := by
  unfold beginTurnIntervals at h
  cases hhead : rootIds.head? with
  | none =>
      rw [hhead] at h
      cases h
  | some primaryRoot =>
      rw [hhead] at h
      obtain ⟨l, _, hnormal, h⟩ := Call.bind_ok_iff.mp h
      obtain ⟨hroots, rfl⟩ := Call.liftExcept_ok_iff.mp hnormal
      obtain ⟨hnodup, hmem, -⟩ := normalizeRoots_ok hroots
      obtain ⟨_, _, hread, h⟩ := Call.bind_ok_iff.mp h
      cases hread
      obtain ⟨_, _, hcheck, h⟩ := Call.bind_ok_iff.mp h
      obtain ⟨hchecked, rfl⟩ := Call.liftExcept_ok_iff.mp hcheck
      obtain ⟨_, _, hcapacity, h⟩ := Call.bind_ok_iff.mp h
      obtain ⟨-, rfl⟩ := Call.liftExcept_ok_iff.mp hcapacity
      obtain ⟨receipt, _, hreceipt, h⟩ := Call.bind_ok_iff.mp h
      obtain ⟨rfl, rfl⟩ := allocateReceiptId_ok hreceipt
      obtain ⟨_, _, hupdate, h⟩ := Call.bind_ok_iff.mp h
      cases hupdate
      cases h
      exact ⟨l, turnConflict c l, hmem, rfl, registerTurns_begun hnodup fun r hr =>
        admitTurn_ok (checkEntries_ok hchecked r hr)⟩

structure EdgesAcquired (c c' : WorkspaceMutationCoordinator) (l : List PhysicalRootId) : Prop where
  nodup : l.Nodup
  admitted : ∀ r ∈ l, (c.entry r).mutationActive = false
  roots : ∀ r, c'.roots r = if r ∈ l then
    some { c.entry r with activeCaptureEdges := (c.entry r).activeCaptureEdges + 1 } else c.roots r
  generations : ∀ r, c'.generations.lookup r =
    if r ∈ l then some (c.generation r) else c.generations.lookup r
  receipts : c'.receipts = c.receipts
  next : c'.nextReceiptId = c.nextReceiptId

lemma tryAcquireCaptureEdges_ok {l : List PhysicalRootId}
    (h : tryAcquireCaptureEdges rootIds c = (.ok l, c')) :
    (∀ r, r ∈ l ↔ r ∈ rootIds) ∧ EdgesAcquired c c' l := by
  obtain ⟨l', _, hnormal, h⟩ := Call.bind_ok_iff.mp h
  obtain ⟨hroots, rfl⟩ := Call.liftExcept_ok_iff.mp hnormal
  obtain ⟨hnodup, hmem, -⟩ := normalizeRoots_ok hroots
  obtain ⟨_, _, hread, h⟩ := Call.bind_ok_iff.mp h
  cases hread
  obtain ⟨_, _, hcapacity, h⟩ := Call.bind_ok_iff.mp h
  obtain ⟨-, rfl⟩ := Call.liftExcept_ok_iff.mp hcapacity
  obtain ⟨_, _, hcheck, h⟩ := Call.bind_ok_iff.mp h
  obtain ⟨hchecked, rfl⟩ := Call.liftExcept_ok_iff.mp hcheck
  obtain ⟨_, _, hupdate, h⟩ := Call.bind_ok_iff.mp h
  cases hupdate
  cases h
  obtain ⟨hfold_roots, hfold_generations, hfold_receipts, hfold_next⟩ := foldl_retain_update
    (fun entry => { entry with activeCaptureEdges := entry.activeCaptureEdges + 1 }) hnodup c
  exact ⟨hmem, {
    nodup := hnodup
    admitted := fun r hr => admitCaptureEdge_ok (checkEntries_ok hchecked r hr)
    roots := hfold_roots
    generations := hfold_generations
    receipts := hfold_receipts
    next := hfold_next }⟩

structure MutationAcquired (c c' : WorkspaceMutationCoordinator) (l : List PhysicalRootId) :
    Prop where
  nodup : l.Nodup
  admitted : ∀ r ∈ l, (c.entry r).mutationActive = false ∧ (c.entry r).activeCaptureEdges = 0
  roots : ∀ r, c'.roots r =
    if r ∈ l then some { c.entry r with mutationActive := true } else c.roots r
  generations : ∀ r, c'.generations.lookup r =
    if r ∈ l then some (c.generation r + 1) else c.generations.lookup r
  dirtied : ∀ id, c.ActiveOn l id → c'.receipts id = some .ineligible
  kept : ∀ id, ¬c.ActiveOn l id → c'.receipts id = c.receipts id
  next : c'.nextReceiptId = c.nextReceiptId

lemma foldl_activateMutation (g : PhysicalRootId → ℕ) {l : List PhysicalRootId} (hl : l.Nodup)
    (c : WorkspaceMutationCoordinator) :
    (∀ r, ((l.map fun root => (root, g root)).foldl activateMutation c).roots r =
      if r ∈ l then some { c.entry r with mutationActive := true } else c.roots r) ∧
    (∀ r, ((l.map fun root => (root, g root)).foldl activateMutation c).generations.lookup r =
      if r ∈ l then some (g r) else c.generations.lookup r) ∧
    ((l.map fun root => (root, g root)).foldl activateMutation c).receipts = c.receipts ∧
    ((l.map fun root => (root, g root)).foldl activateMutation c).nextReceiptId =
      c.nextReceiptId := by
  rw [List.foldl_map]
  have hroots : UpdatesAt WorkspaceMutationCoordinator.roots
      (fun c root => activateMutation c (root, g root))
      fun _ found => some { found.getD .default with mutationActive := true } :=
    fun c k k' => updatesAt_updateEntry (fun entry => { entry with mutationActive := true }) c k k'
  have hgenerations : UpdatesAt (fun (c : WorkspaceMutationCoordinator) root =>
      c.generations.lookup root) (fun c root => activateMutation c (root, g root))
      fun root _ => some (g root) := by
    intro c k k'
    refine Table.lookup_insert_eq.trans ?_
    by_cases h : k' = k
    · simp [h]
    · rw [if_neg h, if_neg h]
      rfl
  have hreceipts : ∀ (s : WorkspaceMutationCoordinator) k,
      (activateMutation s (k, g k)).receipts = s.receipts := fun _ _ => rfl
  have hnext : ∀ (s : WorkspaceMutationCoordinator) k,
      (activateMutation s (k, g k)).nextReceiptId = s.nextReceiptId := fun _ _ => rfl
  exact ⟨hroots.foldl hl c, hgenerations.foldl hl c, foldl_keeps hreceipts l c,
    foldl_keeps hnext l c⟩

lemma tryAcquireMutations_ok {guard : MutationGuard}
    (h : tryAcquireMutations rootIds c = (.ok guard, c')) :
    ∃ l, (∀ r, r ∈ l ↔ r ∈ rootIds) ∧ guard.roots = l ∧ MutationAcquired c c' l := by
  obtain ⟨l, _, hnormal, h⟩ := Call.bind_ok_iff.mp h
  obtain ⟨hroots, rfl⟩ := Call.liftExcept_ok_iff.mp hnormal
  obtain ⟨hnodup, hmem, -⟩ := normalizeRoots_ok hroots
  obtain ⟨_, _, hread, h⟩ := Call.bind_ok_iff.mp h
  cases hread
  obtain ⟨_, _, hcheck, h⟩ := Call.bind_ok_iff.mp h
  obtain ⟨hchecked, rfl⟩ := Call.liftExcept_ok_iff.mp hcheck
  obtain ⟨_, _, hcapacity, h⟩ := Call.bind_ok_iff.mp h
  obtain ⟨-, rfl⟩ := Call.liftExcept_ok_iff.mp hcapacity
  obtain ⟨_, _, hupdate, h⟩ := Call.bind_ok_iff.mp h
  cases hupdate
  cases h
  obtain ⟨hdirty_roots, hdirty_generations, hdirty_next⟩ :=
    markDirty_keeps (c.activeReceiptStates l) c
  have hdirty_entry : ∀ r, ((c.activeReceiptStates l).foldl markDirty c).entry r = c.entry r :=
    fun r => by rw [entry, hdirty_roots, entry]
  obtain ⟨hfold_roots, hfold_generations, hfold_receipts, hfold_next⟩ := foldl_activateMutation
    (fun root => c.generation root + 1) hnodup ((c.activeReceiptStates l).foldl markDirty c)
  refine ⟨l, hmem, by simp [MutationGuard.roots, Function.comp_def], {
    nodup := hnodup
    admitted := fun r hr => admitMutation_ok (checkEntries_ok hchecked r hr)
    roots := fun r => by
      rw [hfold_roots r, hdirty_entry, hdirty_roots]
    generations := fun r => by
      rw [hfold_generations r, hdirty_generations]
    dirtied := fun id hactive => by
      rw [hfold_receipts, receipts_markDirty, if_pos (mem_activeReceiptStates.mpr hactive)]
    kept := fun id hnot => by
      rw [hfold_receipts, receipts_markDirty, if_neg fun h => hnot (mem_activeReceiptStates.mp h)]
    next := hfold_next.trans hdirty_next }⟩

lemma generationFor_ok {root : PhysicalRootId} {current : ℕ}
    (h : generationFor root c = (.ok current, c')) :
    current = c.generation root ∧
    (root ∈ c.generations ∧ c' = c ∨
      root ∉ c.generations ∧ current = 0 ∧
        c' = { c with generations := c.generations.insert root 0 }) := by
  obtain ⟨_, _, hread, h⟩ := Call.bind_ok_iff.mp h
  cases hread
  cases hlookup : c.generations.lookup root with
  | some g =>
      rw [hlookup] at h
      cases h
      exact ⟨by simp [generation, hlookup], .inl ⟨Table.mem_of_lookup hlookup, rfl⟩⟩
  | none =>
      rw [hlookup] at h
      dsimp only at h
      split at h
      · cases h
      · cases h
        exact ⟨by simp [generation, hlookup],
          .inr ⟨AList.lookup_eq_none.mp hlookup, rfl, rfl⟩⟩

lemma generationFor_error {root : PhysicalRootId} {error : CoordinatorError}
    (h : generationFor root c = (.error error, c')) : c' = c := by
  simp only [generationFor, Call.bind_apply, Call.read_apply] at h
  cases hlookup : c.generations.lookup root with
  | some g =>
      rw [hlookup] at h
      cases h
  | none =>
      rw [hlookup] at h
      dsimp only at h
      split at h
      · cases h
        rfl
      · cases h

lemma entry_updateEntry_id (c : WorkspaceMutationCoordinator) (root r : PhysicalRootId) :
    (c.updateEntry id root).entry r = c.entry r := by
  unfold entry
  rw [updatesAt_updateEntry id c root r]
  split <;> rfl

lemma updateEntry_id_of_mem {root : PhysicalRootId} {found : RootEntry}
    (h : c.roots root = some found) : c.updateEntry id root = c := by
  have hroots : Function.update c.roots root (some (c.entry root)) = c.roots := by
    rw [entry, h, Option.getD_some, ← h, Function.update_eq_self]
  rw [updateEntry, id, hroots]

section SingleMutation

variable {root : PhysicalRootId} {guard : MutationGuard}

lemma activateSingle_acquired {c₁ : WorkspaceMutationCoordinator}
    (hroots : c₁.roots = c.roots) (hreceipts : c₁.receipts = c.receipts)
    (hnext : c₁.nextReceiptId = c.nextReceiptId)
    (hgenerations : ∀ r, r ≠ root → c₁.generations.lookup r = c.generations.lookup r)
    (hfree : (c.entry root).mutationActive = false ∧ (c.entry root).activeCaptureEdges = 0) :
    let c₂ := c₁.updateEntry id root
    MutationAcquired c
      ((((((c₂.entry root).activeTurns.entries.map Sigma.snd).foldl markDirty c₂).updateEntry
        (fun entry => { entry with mutationActive := true }) root).setGeneration root
          (c.generation root + 1))) [root] := by
  intro c₂
  have hentry : ∀ r, c₂.entry r = c.entry r := fun r => by
    rw [entry_updateEntry_id, entry, hroots, entry]
  obtain ⟨hdirty_roots, hdirty_generations, hdirty_next⟩ :=
    markDirty_keeps ((c₂.entry root).activeTurns.entries.map Sigma.snd) c₂
  have hactive_iff : ∀ id, id ∈ (c₂.entry root).activeTurns.entries.map Sigma.snd ↔
      c.ActiveOn [root] id := by
    intro id
    rw [hentry root, mem_turn_receipts]
    simp [ActiveOn]
  exact {
    nodup := List.nodup_singleton _
    admitted := fun r hr => by
      rw [List.mem_singleton.mp hr]
      exact hfree
    roots := fun r => by
      refine (updatesAt_updateEntry (fun entry => { entry with mutationActive := true }) _ root r).trans ?_
      by_cases h : r = root
      · subst h
        rw [if_pos rfl, if_pos (List.mem_singleton_self _), hdirty_roots]
        have hsame : (c₂.roots r).getD .default = c.entry r := hentry r
        simp only [hsame]
      · rw [if_neg h, if_neg (by simpa using h), hdirty_roots, updatesAt_updateEntry id c₁ root r,
          if_neg h, hroots]
    generations := fun r => by
      refine Table.lookup_insert_eq.trans ?_
      by_cases h : r = root
      · subst h
        simp
      · rw [if_neg h, if_neg (by simpa using h)]
        exact (congrArg (AList.lookup r) hdirty_generations).trans (hgenerations r h)
    dirtied := fun id hactive =>
      (receipts_markDirty _ c₂ id).trans (if_pos ((hactive_iff id).mpr hactive))
    kept := fun id hnot => (receipts_markDirty _ c₂ id).trans
      ((if_neg ((hactive_iff id).not.mpr hnot)).trans (congrFun hreceipts id))
    next := hdirty_next.trans hnext }

lemma tryAcquireMutation_ok (h : tryAcquireMutation root c = (.ok guard, c')) :
    guard.roots = [root] ∧ MutationAcquired c c' [root] := by
  unfold tryAcquireMutation at h
  split at h
  · obtain ⟨current, c₁, hgeneration, h⟩ := Call.bind_ok_iff.mp h
    obtain ⟨_, _, hupdate, h⟩ := Call.bind_ok_iff.mp h
    cases hupdate
    obtain ⟨_, _, hread, h⟩ := Call.bind_ok_iff.mp h
    cases hread
    obtain ⟨rfl, hstate⟩ := generationFor_ok hgeneration
    have hsame : c₁.roots = c.roots ∧ c₁.receipts = c.receipts ∧
        c₁.nextReceiptId = c.nextReceiptId ∧
        ∀ r, r ≠ root → c₁.generations.lookup r = c.generations.lookup r := by
      rcases hstate with ⟨-, rfl⟩ | ⟨-, -, rfl⟩
      · exact ⟨rfl, rfl, rfl, fun _ _ => rfl⟩
      · exact ⟨rfl, rfl, rfl, fun r hr => AList.lookup_insert_ne hr⟩
    obtain ⟨hroots, hreceipts, hnext, hgenerations⟩ := hsame
    have hentry : (c₁.updateEntry id root).entry root = c.entry root := by
      rw [entry_updateEntry_id, entry, hroots, entry]
    split at h
    · cases h
    · next hactive =>
        split at h
        · cases h
        · next hedges =>
            split at h
            · cases h
            · rw [hentry] at hactive hedges
              have hacquired := activateSingle_acquired hroots hreceipts hnext hgenerations
                ⟨by simpa using hactive, not_not.mp hedges⟩
              cases h
              exact ⟨rfl, hacquired⟩
  · cases h

lemma tryAcquireMutation_error {error : CoordinatorError}
    (hretained : (c.roots root).isSome → root ∈ c.generations)
    (h : tryAcquireMutation root c = (.error error, c')) :
    c' = c ∨ c.roots root = none ∧ generationMax < c.generation root + 1 ∧
      root ∈ c.generations ∧ c' = c.updateEntry id root := by
  unfold tryAcquireMutation at h
  split at h
  · rw [Call.bind_apply] at h
    rcases hgeneration : generationFor root c with ⟨error' | current, c₁⟩
    · rw [hgeneration] at h
      cases h
      exact .inl (generationFor_error hgeneration)
    · rw [hgeneration] at h
      obtain ⟨rfl, hstate⟩ := generationFor_ok hgeneration
      simp only [Call.bind_apply, Call.update_apply, Call.read_apply] at h
      rcases hstate with ⟨hmem, rfl⟩ | ⟨hnot, hzero, rfl⟩
      · have hend : c' = c₁.updateEntry id root ∧ (c₁.roots root = none →
            generationMax < c₁.generation root + 1) := by
          rw [entry_updateEntry_id] at h
          split at h
          · next hactive =>
              cases h
              refine ⟨rfl, fun hnone => ?_⟩
              simp [entry, hnone, RootEntry.default] at hactive
          · split at h
            · next hedges =>
                cases h
                refine ⟨rfl, fun hnone => ?_⟩
                simp [entry, hnone, RootEntry.default] at hedges
            · split at h
              · next hexhausted =>
                  cases h
                  exact ⟨rfl, fun _ => hexhausted⟩
              · cases h
        cases hroot : c₁.roots root with
        | some found => exact .inl (hend.1.trans (updateEntry_id_of_mem hroot))
        | none => exact .inr ⟨rfl, hend.2 hroot, hmem, hend.1⟩
      · -- a root without a generation has no entry and starts at 0, so nothing refuses it
        have hnone : c.roots root = none := by
          cases hroot : c.roots root with
          | none => rfl
          | some found => exact absurd (hretained (by simp [hroot])) hnot
        have hidle : (updateEntry id { c with generations := c.generations.insert root 0 }
            root).entry root = .default := by
          rw [entry_updateEntry_id, entry, hnone, Option.getD_none]
        rw [hidle] at h
        simp [RootEntry.default, hzero, generationMax, Call.bind_apply] at h
  · cases h
    exact .inl rfl

end SingleMutation

section Refusals

lemma errorKeeps_allocateReceiptId : allocateReceiptId.ErrorKeeps := by
  refine Call.readOnly_read.bind_errorKeeps fun c => ?_
  split
  · exact Call.errorKeeps_fail _
  · exact (Call.total_update_bind _ (Call.total_pure _)).errorKeeps

lemma errorKeeps_beginTurnIntervals (owner : TurnOwner) :
    (beginTurnIntervals rootIds owner).ErrorKeeps := by
  unfold beginTurnIntervals
  split
  · exact Call.errorKeeps_fail _
  · refine (Call.readOnly_liftExcept _).bind_errorKeeps fun roots => ?_
    refine Call.readOnly_read.bind_errorKeeps fun c => ?_
    refine (Call.readOnly_liftExcept _).bind_errorKeeps fun _ => ?_
    refine (Call.readOnly_liftExcept _).bind_errorKeeps fun _ => ?_
    exact errorKeeps_allocateReceiptId.bind_total fun receipt =>
      Call.total_update_bind _ (Call.total_pure _)

lemma errorKeeps_tryAcquireCaptureEdges : (tryAcquireCaptureEdges rootIds).ErrorKeeps := by
  refine (Call.readOnly_liftExcept _).bind_errorKeeps fun roots => ?_
  refine Call.readOnly_read.bind_errorKeeps fun c => ?_
  refine (Call.readOnly_liftExcept _).bind_errorKeeps fun _ => ?_
  refine (Call.readOnly_liftExcept _).bind_errorKeeps fun _ => ?_
  exact (Call.total_update_bind _ (Call.total_pure _)).errorKeeps

lemma errorKeeps_tryAcquireMutations : (tryAcquireMutations rootIds).ErrorKeeps := by
  refine (Call.readOnly_liftExcept _).bind_errorKeeps fun roots => ?_
  refine Call.readOnly_read.bind_errorKeeps fun c => ?_
  refine (Call.readOnly_liftExcept _).bind_errorKeeps fun _ => ?_
  refine (Call.readOnly_liftExcept _).bind_errorKeeps fun _ => ?_
  exact (Call.total_update_bind _ (Call.total_pure _)).errorKeeps

end Refusals

end Calls

end DevCommandCenter
