import DevCommandCenter.GuardedUndo.CoordinatorSystem

namespace DevCommandCenter

open Library WorkspaceMutationCoordinator

section Updates

variable {c c' : WorkspaceMutationCoordinator} {l : List PhysicalRootId}
  {F : PhysicalRootId → RootEntry} {G : PhysicalRootId → ℕ}

lemma entry_of_roots (h : ∀ r, c'.roots r = if r ∈ l then some (F r) else c.roots r)
    (r : PhysicalRootId) : c'.entry r = if r ∈ l then F r else c.entry r := by
  unfold entry
  rw [h r]
  split <;> rfl

lemma retained_of_roots (hroots : ∀ r, c'.roots r = if r ∈ l then some (F r) else c.roots r)
    (hgenerations : ∀ r, c'.generations.lookup r =
      if r ∈ l then some (G r) else c.generations.lookup r)
    (h : ∀ r, (c.roots r).isSome → r ∈ c.generations) (r : PhysicalRootId)
    (hr : (c'.roots r).isSome) : r ∈ c'.generations := by
  rw [← AList.lookup_isSome, hgenerations r]
  split
  · rfl
  · next hnot =>
      rw [hroots r, if_neg hnot] at hr
      exact AList.lookup_isSome.mpr (h r hr)

lemma noIdle_of_roots (hroots : ∀ r, c'.roots r = if r ∈ l then some (F r) else c.roots r)
    (hF : ∀ r ∈ l, (F r).idle = false) (h : NoIdleEntry c) : NoIdleEntry c' := by
  intro r entry hentry
  rw [hroots r] at hentry
  split at hentry
  · next hr =>
      cases hentry
      exact hF r hr
  · exact h r entry hentry

lemma noIdle_releaseEntries (f : RootEntry → RootEntry) (hl : l.Nodup) (h : NoIdleEntry c) :
    NoIdleEntry (releaseEntries f l c) := by
  intro r entry hentry
  rw [roots_releaseEntries f hl] at hentry
  split at hentry
  · simpa using (Option.filter_eq_some_iff.mp hentry).2
  · exact h r entry hentry

lemma retained_releaseEntries (f : RootEntry → RootEntry) (hl : l.Nodup)
    (h : ∀ r, (c.roots r).isSome → r ∈ c.generations) (r : PhysicalRootId)
    (hr : ((releaseEntries f l c).roots r).isSome) : r ∈ (releaseEntries f l c).generations := by
  rw [(releaseEntries_keeps f l c).1]
  refine h r ?_
  rw [roots_releaseEntries f hl] at hr
  split at hr
  · cases hroot : c.roots r with
    | none => simp [hroot] at hr
    | some found => rfl
  · exact hr

end Updates

section Turns

variable {c c' : WorkspaceMutationCoordinator} {turns : Table ℕ TurnIntervalGuard}
  {edges : Table ℕ (List PhysicalRootId)} {mutations : Table ℕ MutationGuard}
  {l : List PhysicalRootId} {conflict : Bool} {guard : TurnIntervalGuard}

namespace TurnBegun

lemma guard_root_ids (hb : TurnBegun c c' l conflict guard) : guard.roots.map Prod.fst = l := by
  rw [hb.guard_roots, List.map_map]
  simp [Function.comp_def]

lemma receipt_fresh (hb : TurnBegun c c' l conflict guard) (h : Agrees c turns edges mutations)
    {id : ℕ} {other : TurnIntervalGuard} (hother : turns.lookup id = some other) :
    id ≠ guard.receipt := by
  have hle := (h.receipt id other hother).2
  rw [hb.guard_receipt]
  omega

lemma lookup_turn (hb : TurnBegun c c' l conflict guard) (h : Agrees c turns edges mutations)
    (r : PhysicalRootId) (owner : TurnOwner) (id : ℕ) :
    (c'.entry r).activeTurns.lookup owner = some id ↔
      (id = guard.receipt ∧ owner = guard.owner ∧ r ∈ l) ∨
        (c.entry r).activeTurns.lookup owner = some id := by
  have hold : (c.entry r).activeTurns.lookup owner = some id → id ≠ guard.receipt := fun hlookup =>
    let ⟨_, hother, _⟩ := (h.turn r owner id).mp hlookup
    hb.receipt_fresh h hother
  rw [entry_of_roots hb.roots r]
  split
  · next hr =>
      dsimp only
      rw [Table.lookup_insert_eq]
      by_cases howner : owner = guard.owner
      · subst howner
        have hnone := AList.lookup_eq_none.mpr (hb.admitted r hr).2
        simp [hr, hnone, eq_comm]
      · simp [howner]
  · next hr => simp [hr]

end TurnBegun

lemma Agrees.turnBegun (h : Agrees c turns edges mutations)
    (hb : TurnBegun c c' l conflict guard) :
    Agrees c' (turns.insert guard.receipt guard) edges mutations where
  retained := retained_of_roots hb.roots hb.generations h.retained
  mutation r := by
    rw [entry_of_roots hb.roots r]
    split <;> exact h.mutation r
  oneMutation := h.oneMutation
  edgeCount r := by
    rw [entry_of_roots hb.roots r]
    split <;> exact h.edgeCount r
  exclusive r := by
    rw [entry_of_roots hb.roots r]
    split <;> exact h.exclusive r
  turn r owner id := by
    rw [hb.lookup_turn h r owner id, h.turn r owner id, Table.lookup_insert_eq]
    by_cases hid : id = guard.receipt
    · subst hid
      have hnone : ¬∃ other, turns.lookup guard.receipt = some other ∧ other.owner = owner ∧
          r ∈ other.roots.map Prod.fst := by
        rintro ⟨other, hother, -⟩
        exact hb.receipt_fresh h hother rfl
      rw [if_pos rfl]
      simp only [hnone, or_false, true_and, Option.some.injEq, exists_eq_left', hb.guard_root_ids]
      exact and_congr_left' eq_comm
    · simp [hid]
  receipt id other hother := by
    rw [Table.lookup_insert_eq] at hother
    rw [hb.next]
    split at hother
    · next hid =>
        cases hother
        exact ⟨hid.symm, by rw [hid, hb.guard_receipt]⟩
    · have hold := h.receipt id other hother
      exact ⟨hold.1, Nat.le_succ_of_le hold.2⟩
  turnNodup id other hother := by
    rw [Table.lookup_insert_eq] at hother
    split at hother
    · cases hother
      rw [hb.guard_root_ids]
      exact hb.nodup
    · exact h.turnNodup id other hother
  edgeNodup := h.edgeNodup
  mutationNodup := h.mutationNodup

lemma CleanAlone.turnBegun (hclean : CleanAlone c turns) (h : Agrees c turns edges mutations)
    (hb : TurnBegun c c' l conflict guard) : CleanAlone c' (turns.insert guard.receipt guard) := by
  intro id other generation hother hstate r base hr
  rw [Table.lookup_insert_eq] at hother
  split at hother
  · next hid =>
      subst hid
      cases hother
      have hfree : conflict = false := by
        obtain ⟨g, hg⟩ := hb.receipt
        rw [hg] at hstate
        by_contra hconflict
        simp [Bool.not_eq_false _ ▸ hconflict] at hstate
      have hl : r ∈ l := hb.guard_root_ids ▸ List.mem_map.mpr ⟨_, hr, rfl⟩
      have hbase : base = c.generation r := by
        rw [hb.guard_roots] at hr
        obtain ⟨r', -, heq⟩ := List.mem_map.mp hr
        cases heq
        rfl
      have hquiet : ¬((c.entry r).activeTurns.entries.isEmpty = false ∨
          (c.entry r).mutationActive = true) := fun hbusy => by
        have hconflict := hb.conflict_iff.mpr ⟨r, hl, hbusy⟩
        rw [hfree] at hconflict
        cases hconflict
      rw [not_or, Bool.not_eq_false, Bool.not_eq_true] at hquiet
      refine ⟨by rw [hb.generations r, if_pos hl, hbase], ?_, fun owner id' hlookup => ?_⟩
      · rw [entry_of_roots hb.roots r, if_pos hl]
        exact hquiet.2
      · rcases (hb.lookup_turn h r owner id').mp hlookup with ⟨hid', -⟩ | hold
        · exact hid'
        · rw [Table.lookup_eq_none_of_isEmpty hquiet.1] at hold
          cases hold
  · next hid =>
      have hroot : r ∈ other.roots.map Prod.fst := List.mem_map.mpr ⟨_, hr, rfl⟩
      have hactive : (c.entry r).activeTurns.lookup other.owner = some id :=
        (h.turn r other.owner id).mpr ⟨other, hother, rfl, hroot⟩
      -- a clean receipt cannot have been active on the new turn's roots
      have hstate_old : c.receipts id = some (.clean generation) ∧ r ∉ l := by
        by_cases hshared : conflict = true ∧ c.ActiveOn l id
        · rw [hb.dirtied id hid hshared.1 hshared.2] at hstate
          cases hstate
        · refine ⟨hb.kept id hid hshared ▸ hstate, fun hl => hshared ⟨?_, r, hl, _, hactive⟩⟩
          refine hb.conflict_iff.mpr ⟨r, hl, .inl ?_⟩
          by_contra hempty
          rw [Bool.not_eq_false] at hempty
          rw [Table.lookup_eq_none_of_isEmpty hempty] at hactive
          cases hactive
      obtain ⟨hold, hl⟩ := hstate_old
      obtain ⟨hgeneration, hmutation, halone⟩ := hclean id other generation hother hold r base hr
      refine ⟨by rw [hb.generations r, if_neg hl, hgeneration], ?_, fun owner id' hlookup => ?_⟩
      · rw [entry_of_roots hb.roots r, if_neg hl]
        exact hmutation
      · rw [entry_of_roots hb.roots r, if_neg hl] at hlookup
        exact halone owner id' hlookup

lemma TurnBegun.noIdle (hb : TurnBegun c c' l conflict guard) (h : NoIdleEntry c) :
    NoIdleEntry c' := by
  refine noIdle_of_roots hb.roots (fun r _ => ?_) h
  simp [RootEntry.idle]

lemma entry_endTurnIntervals (h : (guard.roots.map Prod.fst).Nodup) (r : PhysicalRootId) :
    (endTurnIntervals guard c).entry r = if r ∈ guard.roots.map Prod.fst
      then { c.entry r with activeTurns := (c.entry r).activeTurns.erase guard.owner }
      else c.entry r :=
  entry_releaseEntries rfl h c r

lemma lookup_endTurnIntervals (h : Agrees c turns edges mutations) {id : ℕ}
    (hguard : turns.lookup id = some guard) (r : PhysicalRootId) (owner : TurnOwner) (id' : ℕ) :
    ((endTurnIntervals guard c).entry r).activeTurns.lookup owner = some id' ↔
      id' ≠ id ∧ (c.entry r).activeTurns.lookup owner = some id' := by
  have hroot : r ∈ guard.roots.map Prod.fst ↔
      (c.entry r).activeTurns.lookup guard.owner = some id := by
    rw [h.turn r guard.owner id]
    constructor
    · intro hr
      exact ⟨guard, hguard, rfl, hr⟩
    · rintro ⟨other, hother, -, hr⟩
      cases hguard.symm.trans hother
      exact hr
  have howner : ∀ owner', (c.entry r).activeTurns.lookup owner' = some id →
      owner' = guard.owner := by
    intro owner' hlookup
    obtain ⟨other, hother, rfl, -⟩ := (h.turn r owner' id).mp hlookup
    cases hguard.symm.trans hother
    rfl
  rw [entry_endTurnIntervals (h.turnNodup id guard hguard)]
  split
  · next hr =>
      dsimp only
      rw [Table.lookup_erase_eq]
      split
      · next heq =>
          subst heq
          rw [hroot.mp hr]
          simp [eq_comm]
      · next hne =>
          refine ⟨fun hlookup => ⟨fun hid => hne (howner owner (hid ▸ hlookup)), hlookup⟩, And.right⟩
  · next hr =>
      refine ⟨fun hlookup => ⟨fun hid => hr (hroot.mpr ?_), hlookup⟩, And.right⟩
      subst hid
      rwa [howner owner hlookup] at hlookup

lemma Agrees.turnEnded (h : Agrees c turns edges mutations) {id : ℕ}
    (hguard : turns.lookup id = some guard) :
    Agrees (endTurnIntervals guard c) (turns.erase id) edges mutations where
  retained := retained_releaseEntries _ (h.turnNodup id guard hguard) h.retained
  mutation r := by
    rw [entry_endTurnIntervals (h.turnNodup id guard hguard) r]
    split <;> exact h.mutation r
  oneMutation := h.oneMutation
  edgeCount r := by
    rw [entry_endTurnIntervals (h.turnNodup id guard hguard) r]
    split <;> exact h.edgeCount r
  exclusive r := by
    rw [entry_endTurnIntervals (h.turnNodup id guard hguard) r]
    split <;> exact h.exclusive r
  turn r owner id' := by
    rw [lookup_endTurnIntervals h hguard, h.turn, Table.lookup_erase_eq]
    by_cases hid : id' = id <;> simp [hid]
  receipt id' other hother := by
    rw [Table.lookup_erase_eq] at hother
    split at hother
    · cases hother
    · rw [endTurnIntervals, (releaseEntries_keeps _ _ c).2.2]
      exact h.receipt id' other hother
  turnNodup id' other hother := by
    rw [Table.lookup_erase_eq] at hother
    split at hother
    · cases hother
    · exact h.turnNodup id' other hother
  edgeNodup := h.edgeNodup
  mutationNodup := h.mutationNodup

lemma CleanAlone.turnEnded (hclean : CleanAlone c turns) (h : Agrees c turns edges mutations)
    {id : ℕ} (hguard : turns.lookup id = some guard) :
    CleanAlone (endTurnIntervals guard c) (turns.erase id) := by
  obtain ⟨hgenerations, hreceipts, -⟩ := releaseEntries_keeps (fun entry : RootEntry =>
    { entry with activeTurns := entry.activeTurns.erase guard.owner }) (guard.roots.map Prod.fst) c
  intro id' other generation hother hstate r base hr
  rw [Table.lookup_erase_eq] at hother
  split at hother
  · cases hother
  · rw [endTurnIntervals, hreceipts] at hstate
    obtain ⟨hgeneration, hmutation, halone⟩ := hclean id' other generation hother hstate r base hr
    refine ⟨by rw [endTurnIntervals, hgenerations, hgeneration], ?_, fun owner id'' hlookup => ?_⟩
    · rw [entry_endTurnIntervals (h.turnNodup id guard hguard) r]
      split <;> exact hmutation
    · exact halone owner id'' ((lookup_endTurnIntervals h hguard r owner id'').mp hlookup).2

lemma Agrees.turnDropping (h : Agrees c turns edges mutations) {id : ℕ}
    (hguard : turns.lookup id = some guard) :
    Agrees (c.markDirty id) (turns.insert id { guard with dropping := true }) edges mutations where
  retained := h.retained
  mutation := h.mutation
  oneMutation := h.oneMutation
  edgeCount := h.edgeCount
  exclusive := h.exclusive
  turn r owner id' := by
    refine (h.turn r owner id').trans ?_
    rw [Table.lookup_insert_eq]
    by_cases hid : id' = id
    · subst hid
      simp [hguard]
    · simp [hid]
  receipt id' other hother := by
    rw [Table.lookup_insert_eq] at hother
    split at hother
    · next hid =>
        cases hother
        exact hid ▸ h.receipt id guard hguard
    · exact h.receipt id' other hother
  turnNodup id' other hother := by
    rw [Table.lookup_insert_eq] at hother
    split at hother
    · cases hother
      exact h.turnNodup id guard hguard
    · exact h.turnNodup id' other hother
  edgeNodup := h.edgeNodup
  mutationNodup := h.mutationNodup

lemma CleanAlone.turnDropping (hclean : CleanAlone c turns) (id : ℕ) (guard : TurnIntervalGuard) :
    CleanAlone (c.markDirty id) (turns.insert id { guard with dropping := true }) := by
  intro id' other generation hother hstate r base hr
  by_cases hid : id' = id
  · subst hid
    simp [markDirty] at hstate
  · rw [Table.lookup_insert_eq, if_neg hid] at hother
    simp only [markDirty, Function.update_of_ne hid] at hstate
    exact hclean id' other generation hother hstate r base hr

end Turns

section CaptureEdges

variable {c c' : WorkspaceMutationCoordinator} {turns : Table ℕ TurnIntervalGuard}
  {edges : Table ℕ (List PhysicalRootId)} {mutations : Table ℕ MutationGuard}
  {l : List PhysicalRootId} {edge : ℕ}

lemma CleanAlone.of_same_turns (hclean : CleanAlone c turns)
    (hentry : ∀ r, (c'.entry r).activeTurns = (c.entry r).activeTurns ∧
      (c'.entry r).mutationActive = (c.entry r).mutationActive)
    (hgenerations : ∀ r base, c.generations.lookup r = some base →
      c'.generations.lookup r = some base)
    (hreceipts : c'.receipts = c.receipts) : CleanAlone c' turns := by
  intro id guard generation hguard hstate r base hr
  obtain ⟨hgeneration, hmutation, halone⟩ :=
    hclean id guard generation hguard (hreceipts ▸ hstate) r base hr
  rw [(hentry r).1, (hentry r).2]
  exact ⟨hgenerations r base hgeneration, hmutation, halone⟩

lemma EdgesAcquired.entry (he : EdgesAcquired c c' l) (r : PhysicalRootId) :
    c'.entry r = if r ∈ l then
      { c.entry r with activeCaptureEdges := (c.entry r).activeCaptureEdges + 1 } else c.entry r :=
  entry_of_roots he.roots r

lemma Agrees.edgesAcquired (h : Agrees c turns edges mutations) (hfresh : edge ∉ edges)
    (he : EdgesAcquired c c' l) : Agrees c' turns (edges.insert edge l) mutations where
  retained := retained_of_roots he.roots he.generations h.retained
  mutation r := by
    rw [he.entry r]
    split <;> exact h.mutation r
  oneMutation := h.oneMutation
  edgeCount r := by
    rw [he.entry r, Table.count_insert hfresh, ← h.edgeCount r]
    split
    · next hr => simp [hr]
    · next hr => simp [hr]
  exclusive r hactive := by
    rw [he.entry r] at hactive ⊢
    split at hactive
    · next hr =>
        rw [he.admitted r hr] at hactive
        cases hactive
    · next hr =>
        rw [if_neg hr]
        exact h.exclusive r hactive
  turn r owner id := by
    rw [he.entry r]
    split <;> exact h.turn r owner id
  receipt := by
    rw [he.next]
    exact h.receipt
  turnNodup := h.turnNodup
  edgeNodup e roots hroots := by
    rw [Table.lookup_insert_eq] at hroots
    split at hroots
    · cases hroots
      exact he.nodup
    · exact h.edgeNodup e roots hroots
  mutationNodup := h.mutationNodup

lemma CleanAlone.edgesAcquired (hclean : CleanAlone c turns) (he : EdgesAcquired c c' l) :
    CleanAlone c' turns := by
  refine hclean.of_same_turns (fun r => ?_) (fun r base hr => ?_) he.receipts
  · rw [he.entry r]
    split <;> exact ⟨rfl, rfl⟩
  · rw [he.generations r]
    split
    · rw [generation, hr, Option.getD_some]
    · exact hr

lemma EdgesAcquired.noIdle (he : EdgesAcquired c c' l) (h : NoIdleEntry c) : NoIdleEntry c' :=
  noIdle_of_roots he.roots (fun r _ => by simp [RootEntry.idle]) h

lemma entry_releaseCaptureEdges (hl : l.Nodup) (r : PhysicalRootId) :
    (releaseCaptureEdges l c).entry r = if r ∈ l then
      { c.entry r with activeCaptureEdges := (c.entry r).activeCaptureEdges - 1 } else c.entry r :=
  entry_releaseEntries rfl hl c r

lemma Agrees.edgesReleased (h : Agrees c turns edges mutations)
    (hedge : edges.lookup edge = some l) :
    Agrees (releaseCaptureEdges l c) turns (edges.erase edge) mutations where
  retained := retained_releaseEntries _ (h.edgeNodup edge l hedge) h.retained
  mutation r := by
    rw [entry_releaseCaptureEdges (h.edgeNodup edge l hedge) r]
    split <;> exact h.mutation r
  oneMutation := h.oneMutation
  edgeCount r := by
    have hcount := h.edgeCount r
    rw [Table.count_erase hedge] at hcount
    rw [entry_releaseCaptureEdges (h.edgeNodup edge l hedge) r]
    split
    · next hr =>
        simp only [hr, decide_true, if_true] at hcount
        exact Nat.sub_eq_of_eq_add hcount
    · next hr =>
        simpa only [hr, decide_false, Bool.false_eq_true, if_false, Nat.add_zero] using hcount
  exclusive r hactive := by
    rw [entry_releaseCaptureEdges (h.edgeNodup edge l hedge) r] at hactive ⊢
    split at hactive
    · next hr =>
        rw [if_pos hr]
        exact Nat.sub_eq_zero_of_le (le_of_eq_of_le (h.exclusive r hactive) (Nat.zero_le 1))
    · next hr =>
        rw [if_neg hr]
        exact h.exclusive r hactive
  turn r owner id := by
    rw [entry_releaseCaptureEdges (h.edgeNodup edge l hedge) r]
    split <;> exact h.turn r owner id
  receipt := by
    rw [releaseCaptureEdges, (releaseEntries_keeps _ _ c).2.2]
    exact h.receipt
  turnNodup := h.turnNodup
  edgeNodup e roots hroots := by
    rw [Table.lookup_erase_eq] at hroots
    split at hroots
    · cases hroots
    · exact h.edgeNodup e roots hroots
  mutationNodup := h.mutationNodup

lemma CleanAlone.edgesReleased (hclean : CleanAlone c turns) (hl : l.Nodup) :
    CleanAlone (releaseCaptureEdges l c) turns := by
  obtain ⟨hgenerations, hreceipts, -⟩ := releaseEntries_keeps (fun entry : RootEntry =>
    { entry with activeCaptureEdges := entry.activeCaptureEdges - 1 }) l c
  refine hclean.of_same_turns (fun r => ?_) (fun r base hr => ?_) hreceipts
  · rw [entry_releaseCaptureEdges hl r]
    split <;> exact ⟨rfl, rfl⟩
  · rw [releaseCaptureEdges, hgenerations]
    exact hr

end CaptureEdges

section Mutations

variable {c c' : WorkspaceMutationCoordinator} {turns : Table ℕ TurnIntervalGuard}
  {edges : Table ℕ (List PhysicalRootId)} {mutations : Table ℕ MutationGuard}
  {guard : MutationGuard} {mutation : ℕ}

lemma MutationAcquired.entry {l : List PhysicalRootId} (hm : MutationAcquired c c' l)
    (r : PhysicalRootId) :
    c'.entry r = if r ∈ l then { c.entry r with mutationActive := true } else c.entry r :=
  entry_of_roots hm.roots r

lemma Agrees.not_held (h : Agrees c turns edges mutations) {r : PhysicalRootId}
    (hfree : (c.entry r).mutationActive = false) {m : ℕ} {held : MutationGuard}
    (hheld : mutations.lookup m = some held) : r ∉ held.roots := by
  intro hr
  rw [(h.mutation r).mpr ⟨m, held, hheld, hr⟩] at hfree
  cases hfree

lemma Agrees.mutationAcquired (h : Agrees c turns edges mutations) (hfresh : mutation ∉ mutations)
    (hm : MutationAcquired c c' guard.roots) :
    Agrees c' turns edges (mutations.insert mutation guard) where
  retained := retained_of_roots hm.roots hm.generations h.retained
  mutation r := by
    have hnone := AList.lookup_eq_none.mpr hfresh
    rw [hm.entry r]
    split
    · next hr => exact iff_of_true rfl ⟨mutation, guard, AList.lookup_insert _, hr⟩
    · next hr =>
        rw [h.mutation r]
        constructor
        · rintro ⟨m, held, hheld, hrm⟩
          refine ⟨m, held, ?_, hrm⟩
          rw [Table.lookup_insert_eq, if_neg fun heq => ?_]
          · exact hheld
          · rw [heq, hnone] at hheld
            cases hheld
        · rintro ⟨m, held, hheld, hrm⟩
          rw [Table.lookup_insert_eq] at hheld
          split at hheld
          · cases hheld
            exact absurd hrm hr
          · exact ⟨m, held, hheld, hrm⟩
  oneMutation r m m' held held' hheld hheld' hr hr' := by
    rw [Table.lookup_insert_eq] at hheld hheld'
    split at hheld <;> split at hheld'
    · next heq heq' => rw [heq, heq']
    · cases hheld
      exact absurd hr' (h.not_held (hm.admitted r hr).1 hheld')
    · cases hheld'
      exact absurd hr (h.not_held (hm.admitted r hr').1 hheld)
    · exact h.oneMutation r m m' held held' hheld hheld' hr hr'
  edgeCount r := by
    rw [hm.entry r]
    split <;> exact h.edgeCount r
  exclusive r hactive := by
    rw [hm.entry r] at hactive ⊢
    split at hactive
    · next hr =>
        rw [if_pos hr]
        exact (hm.admitted r hr).2
    · next hr =>
        rw [if_neg hr]
        exact h.exclusive r hactive
  turn r owner id := by
    rw [hm.entry r]
    split <;> exact h.turn r owner id
  receipt := by
    rw [hm.next]
    exact h.receipt
  turnNodup := h.turnNodup
  edgeNodup := h.edgeNodup
  mutationNodup m held hheld := by
    rw [Table.lookup_insert_eq] at hheld
    split at hheld
    · cases hheld
      exact hm.nodup
    · exact h.mutationNodup m held hheld

lemma CleanAlone.mutationAcquired (hclean : CleanAlone c turns) (h : Agrees c turns edges mutations)
    {l : List PhysicalRootId} (hm : MutationAcquired c c' l) : CleanAlone c' turns := by
  intro id other generation hother hstate r base hr
  have hactive : (c.entry r).activeTurns.lookup other.owner = some id :=
    (h.turn r other.owner id).mpr ⟨other, hother, rfl, List.mem_map.mpr ⟨_, hr, rfl⟩⟩
  have hidle : ¬c.ActiveOn l id := by
    intro hon
    rw [hm.dirtied id hon] at hstate
    cases hstate
  have hl : r ∉ l := fun hl => hidle ⟨r, hl, _, hactive⟩
  rw [hm.kept id hidle] at hstate
  obtain ⟨hgeneration, hmutation, halone⟩ := hclean id other generation hother hstate r base hr
  rw [hm.entry r, if_neg hl, hm.generations r, if_neg hl]
  exact ⟨hgeneration, hmutation, halone⟩

lemma MutationAcquired.noIdle {l : List PhysicalRootId} (hm : MutationAcquired c c' l)
    (h : NoIdleEntry c) : NoIdleEntry c' :=
  noIdle_of_roots hm.roots (fun r _ => by simp [RootEntry.idle]) h

lemma entry_releaseMutations (hl : guard.roots.Nodup) (r : PhysicalRootId) :
    (releaseMutations guard c).entry r =
      if r ∈ guard.roots then { c.entry r with mutationActive := false } else c.entry r :=
  entry_releaseEntries rfl hl c r

lemma Agrees.mutationReleased (h : Agrees c turns edges mutations)
    (hguard : mutations.lookup mutation = some guard) :
    Agrees (releaseMutations guard c) turns edges (mutations.erase mutation) where
  retained := retained_releaseEntries _ (h.mutationNodup mutation guard hguard) h.retained
  mutation r := by
    rw [entry_releaseMutations (h.mutationNodup mutation guard hguard) r]
    split
    · next hr =>
        refine iff_of_false (by simp) ?_
        rintro ⟨m, held, hheld, hrm⟩
        rw [Table.lookup_erase_eq] at hheld
        split at hheld
        · cases hheld
        · next hne => exact hne (h.oneMutation r m mutation held guard hheld hguard hrm hr)
    · next hr =>
        rw [h.mutation r]
        refine exists_congr fun m => exists_congr fun held => ?_
        rw [Table.lookup_erase_eq]
        split
        · next heq =>
            subst heq
            refine iff_of_false ?_ (by simp)
            rintro ⟨hheld, hrm⟩
            cases hguard.symm.trans hheld
            exact hr hrm
        · exact Iff.rfl
  oneMutation r m m' held held' hheld hheld' hr hr' := by
    rw [Table.lookup_erase_eq] at hheld hheld'
    split at hheld
    · cases hheld
    · split at hheld'
      · cases hheld'
      · exact h.oneMutation r m m' held held' hheld hheld' hr hr'
  edgeCount r := by
    rw [entry_releaseMutations (h.mutationNodup mutation guard hguard) r]
    split <;> exact h.edgeCount r
  exclusive r hactive := by
    rw [entry_releaseMutations (h.mutationNodup mutation guard hguard) r] at hactive ⊢
    split at hactive
    · cases hactive
    · next hr =>
        rw [if_neg hr]
        exact h.exclusive r hactive
  turn r owner id := by
    rw [entry_releaseMutations (h.mutationNodup mutation guard hguard) r]
    split <;> exact h.turn r owner id
  receipt := by
    rw [releaseMutations, (releaseEntries_keeps _ _ c).2.2]
    exact h.receipt
  turnNodup := h.turnNodup
  edgeNodup := h.edgeNodup
  mutationNodup m held hheld := by
    rw [Table.lookup_erase_eq] at hheld
    split at hheld
    · cases hheld
    · exact h.mutationNodup m held hheld

lemma CleanAlone.mutationReleased (hclean : CleanAlone c turns) (hl : guard.roots.Nodup) :
    CleanAlone (releaseMutations guard c) turns := by
  obtain ⟨hgenerations, hreceipts, -⟩ := releaseEntries_keeps (fun entry : RootEntry =>
    { entry with mutationActive := false }) guard.roots c
  intro id other generation hother hstate r base hr
  rw [releaseMutations, hreceipts] at hstate
  obtain ⟨hgeneration, hmutation, halone⟩ := hclean id other generation hother hstate r base hr
  rw [entry_releaseMutations hl r, releaseMutations, hgenerations]
  refine ⟨hgeneration, ?_, ?_⟩
  · split
    · rfl
    · exact hmutation
  · split <;> exact halone

end Mutations

section IdleEntry

variable {c : WorkspaceMutationCoordinator} {turns : Table ℕ TurnIntervalGuard}
  {edges : Table ℕ (List PhysicalRootId)} {mutations : Table ℕ MutationGuard}
  {root : PhysicalRootId}

lemma Agrees.idleLeft (h : Agrees c turns edges mutations) (hroot : root ∈ c.generations) :
    Agrees (c.updateEntry id root) turns edges mutations where
  retained r hr := by
    by_cases heq : r = root
    · exact heq ▸ hroot
    · refine h.retained r ?_
      rwa [updatesAt_updateEntry id c root r, if_neg heq] at hr
  mutation r := by rw [entry_updateEntry_id]; exact h.mutation r
  oneMutation := h.oneMutation
  edgeCount r := by rw [entry_updateEntry_id]; exact h.edgeCount r
  exclusive r := by rw [entry_updateEntry_id]; exact h.exclusive r
  turn r owner id' := by rw [entry_updateEntry_id]; exact h.turn r owner id'
  receipt := h.receipt
  turnNodup := h.turnNodup
  edgeNodup := h.edgeNodup
  mutationNodup := h.mutationNodup

lemma CleanAlone.idleLeft (hclean : CleanAlone c turns) :
    CleanAlone (c.updateEntry id root) turns :=
  hclean.of_same_turns (fun r => by rw [entry_updateEntry_id]; exact ⟨rfl, rfl⟩)
    (fun _ _ hr => hr) rfl

end IdleEntry

end DevCommandCenter
