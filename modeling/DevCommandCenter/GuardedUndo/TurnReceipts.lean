import DevCommandCenter.GuardedUndo.CoordinatorSteps

/-! A receipt that is clean when its turn finishes was never disturbed while the turn lasted. -/

namespace DevCommandCenter

open Library WorkspaceMutationCoordinator

namespace CoordinatedGuards

variable {s s₁ s₂ next u : CoordinatedGuards} {action : CoordinatorAction} {answer : CoordinatorAnswer}
  {receipt generation : ℕ} {guard : TurnIntervalGuard}

def LiveClean (s : CoordinatedGuards) (receipt : ℕ) (guard : TurnIntervalGuard) (generation : ℕ) :
    Prop :=
  s.turns.lookup receipt = some guard ∧
    s.coordinator.receipts receipt = some (.clean generation)

lemma endTurn_liveClean {ended : ℕ} {endedGuard : TurnIntervalGuard}
    (h : (s.endTurn ended endedGuard).LiveClean receipt guard generation) :
    s.LiveClean receipt guard generation := by
  obtain ⟨hlive, hclean⟩ := h
  refine ⟨?_, ?_⟩
  · simp only [endTurn, Table.lookup_erase_eq] at hlive
    split at hlive
    · cases hlive
    · exact hlive
  · simp only [endTurn, endTurnIntervals] at hclean
    rwa [(releaseEntries_keeps _ _ _).2.1] at hclean

lemma step_liveClean_back (hs : s.Agreed) (hle : receipt ≤ s.coordinator.nextReceiptId)
    (hstep : s.step action = some (answer, next)) (h : next.LiveClean receipt guard generation) :
    s.LiveClean receipt guard generation := by
  cases step_effect hs.1.retained hstep with
  | @begun _ l _ conflict newGuard c _ hbegun =>
      obtain ⟨hlive, hclean⟩ := h
      have hne : receipt ≠ newGuard.receipt := by
        rw [hbegun.guard_receipt]
        omega
      simp only [Table.lookup_insert_eq, if_neg hne] at hlive
      dsimp only at hclean
      by_cases hdirty : conflict = true ∧ s.coordinator.ActiveOn l receipt
      · rw [hbegun.dirtied receipt hne hdirty.1 hdirty.2] at hclean
        cases hclean
      · rw [hbegun.kept receipt hne hdirty] at hclean
        exact ⟨hlive, hclean⟩
  | finished _ => exact endTurn_liveClean h
  | @dropping dropped droppedGuard _ =>
      obtain ⟨hlive, hclean⟩ := h
      by_cases hsame : receipt = dropped
      · subst hsame
        simp [markDirty] at hclean
      · simp only [Table.lookup_insert_eq, if_neg hsame] at hlive
        simp only [markDirty, Function.update_of_ne hsame] at hclean
        exact ⟨hlive, hclean⟩
  | ended _ => exact endTurn_liveClean h
  | edges _ hacquired => exact ⟨h.1, hacquired.receipts ▸ h.2⟩
  | edgesReleased _ =>
      obtain ⟨hlive, hclean⟩ := h
      simp only [releaseCaptureEdges, (releaseEntries_keeps _ _ _).2.1] at hclean
      exact ⟨hlive, hclean⟩
  | @mutation _ held c _ _ hacquired =>
      obtain ⟨hlive, hclean⟩ := h
      dsimp only at hclean
      by_cases hactive : s.coordinator.ActiveOn held.roots receipt
      · rw [hacquired.dirtied receipt hactive] at hclean
        cases hclean
      · rw [hacquired.kept receipt hactive] at hclean
        exact ⟨hlive, hclean⟩
  | mutationReleased _ =>
      obtain ⟨hlive, hclean⟩ := h
      simp only [releaseMutations, (releaseEntries_keeps _ _ _).2.1] at hclean
      exact ⟨hlive, hclean⟩
  | refused => exact h
  | idleLeft _ _ _ => exact h

lemma step_nextReceiptId_le (hs : s.Agreed) (hstep : s.step action = some (answer, next)) :
    s.coordinator.nextReceiptId ≤ next.coordinator.nextReceiptId := by
  cases step_effect hs.1.retained hstep with
  | begun _ hbegun => exact (Nat.le_succ _).trans hbegun.next.ge
  | edges _ hacquired => exact hacquired.next.ge
  | mutation _ hacquired => exact hacquired.next.ge
  | finished _ | ended _ | edgesReleased _ | mutationReleased _ =>
      exact (releaseEntries_keeps ..).2.2.ge
  | dropping _ | refused | idleLeft _ _ _ => exact le_rfl

def Issued (s : CoordinatedGuards) (receipt : ℕ) : Prop :=
  s.Agreed ∧ receipt ≤ s.coordinator.nextReceiptId

lemma run_issued {l : List (CoordinatorAction × CoordinatorAnswer)} (hs : s.Issued receipt)
    (hrun : mutationCoordination.Run s l u) : u.Issued receipt := by
  induction hrun with
  | nil _ => exact hs
  | concat _ hstep _ ih =>
      exact ⟨step_agreed ih.1 hstep, ih.2.trans (step_nextReceiptId_le ih.1 hstep)⟩

lemma run_liveClean_back {l : List (CoordinatorAction × CoordinatorAnswer)}
    (hs : s.Issued receipt) (hrun : mutationCoordination.Run s l u)
    (hu : u.LiveClean receipt guard generation) : s.LiveClean receipt guard generation := by
  induction hrun with
  | nil _ => exact hu
  | concat hbefore hstep _ ih =>
      obtain ⟨hagreed, hle⟩ := run_issued hs hbefore
      exact ih (step_liveClean_back hagreed hle hstep hu)

def Undisturbed (s : CoordinatedGuards) (receipt : ℕ) (r : PhysicalRootId) : Prop :=
  (∀ m held, s.mutations.lookup m = some held → r ∉ held.roots) ∧
  ∀ id other, s.turns.lookup id = some other → id ≠ receipt → r ∉ other.roots.map Prod.fst

lemma LiveClean.undisturbed (h : s.LiveClean receipt guard generation) (hs : s.Agreed)
    {r : PhysicalRootId} (hr : r ∈ guard.roots.map Prod.fst) : s.Undisturbed receipt r := by
  obtain ⟨hagrees, hclean⟩ := hs
  obtain ⟨⟨_, base⟩, hroot, rfl⟩ := List.mem_map.mp hr
  obtain ⟨-, hmutation, halone⟩ := hclean receipt guard generation h.1 h.2 _ base hroot
  refine ⟨fun m held hheld => hagrees.not_held hmutation hheld, fun id other hother hne hin => ?_⟩
  have hactive := (hagrees.turn _ other.owner id).mpr ⟨other, hother, rfl, hin⟩
  exact hne (halone other.owner id hactive)

lemma LiveClean.generationFor (h : s.LiveClean receipt guard generation) (hs : s.Agreed)
    {r : PhysicalRootId} (hr : r ∈ guard.roots.map Prod.fst) :
    guard.generationFor r = some (s.coordinator.generation r) := by
  obtain ⟨-, hclean⟩ := hs
  have hbase : ∀ entry ∈ guard.roots, entry.2 = s.coordinator.generation entry.1 := by
    rintro ⟨r, base⟩ hroot
    obtain ⟨hlookup, -⟩ := hclean receipt guard generation h.1 h.2 r base hroot
    simp [WorkspaceMutationCoordinator.generation, hlookup]
  obtain ⟨entry, hentry, rfl⟩ := List.mem_map.mp hr
  have hfound : (guard.roots.find? fun found => found.1 = entry.1).isSome :=
    List.find?_isSome.mpr ⟨entry, hentry, by simp⟩
  obtain ⟨found, hfound⟩ := Option.isSome_iff_exists.mp hfound
  have hsame : found.1 = entry.1 := by simpa using List.find?_some hfound
  rw [TurnIntervalGuard.generationFor, hfound, Option.map_some,
    hbase found (List.mem_of_find?_eq_some hfound), hsame]

lemma undisturbed_of_begun {l : List PhysicalRootId} {conflict : Bool}
    {c : WorkspaceMutationCoordinator} (hs : s.Agreed)
    (hbegun : TurnBegun s.coordinator c l conflict guard)
    (hclean : c.receipts guard.receipt = some (.clean generation)) {r : PhysicalRootId}
    (hr : r ∈ l) : s.Undisturbed guard.receipt r := by
  obtain ⟨hagrees, -⟩ := hs
  have hquiet : (s.coordinator.entry r).activeTurns.entries.isEmpty = true ∧
      (s.coordinator.entry r).mutationActive = false := by
    by_contra hbusy
    have hconflict : conflict = true := by
      refine hbegun.conflict_iff.mpr ⟨r, hr, ?_⟩
      rwa [not_and_or, Bool.not_eq_true, Bool.not_eq_false] at hbusy
    obtain ⟨g, hg⟩ := hbegun.receipt
    rw [hg, if_pos hconflict] at hclean
    cases hclean
  refine ⟨fun m held hheld => hagrees.not_held hquiet.2 hheld, fun id other hother _ hin => ?_⟩
  have hactive := (hagrees.turn r other.owner id).mpr ⟨other, hother, rfl, hin⟩
  rw [Table.lookup_eq_none_of_isEmpty hquiet.1] at hactive
  cases hactive

lemma step_finishTurn {state : Option TurnReceiptState}
    (hstep : s.step (.finishTurn receipt) = some (.turnFinished guard state, next)) :
    s.turns.lookup receipt = some guard ∧ s.coordinator.receipts receipt = state := by
  simp only [step] at hstep
  split at hstep
  · next found hfound =>
      split at hstep
      · cases hstep
      · cases hstep
        exact ⟨hfound, rfl⟩
  · cases hstep

lemma step_mutationAcquired {held : MutationGuard} (hs : s.Agreed)
    (hstep : s.step action = some (.mutationAcquired held, next)) :
    ∃ m, next.mutations.lookup m = some held := by
  cases step_effect hs.1.retained hstep with
  | mutation _ _ => exact ⟨_, AList.lookup_insert _⟩

lemma step_beginTurnIntervals {rootIds : List PhysicalRootId} {owner : TurnOwner} (hs : s.Agreed)
    (hstep : s.step (.beginTurnIntervals rootIds owner) = some (.turnBegun guard, next)) :
    ∃ l conflict, (∀ r, r ∈ l ↔ r ∈ rootIds) ∧
      TurnBegun s.coordinator next.coordinator l conflict guard ∧
      next.turns.lookup guard.receipt = some guard := by
  cases step_effect hs.1.retained hstep with
  | begun hmem hbegun => exact ⟨_, _, hmem, hbegun, AList.lookup_insert _⟩

end CoordinatedGuards

open CoordinatedGuards

theorem clean_turn_undisturbed {s s₁ s₂ s₃ : CoordinatedGuards} {rootIds : List PhysicalRootId}
    {owner : TurnOwner} {guard guard' : TurnIntervalGuard} {generation : ℕ}
    {l : List (CoordinatorAction × CoordinatorAnswer)} (h : mutationCoordination.Reachable s)
    (hbegin : s.step (.beginTurnIntervals rootIds owner) = some (.turnBegun guard, s₁))
    (hrun : mutationCoordination.Run s₁ l s₂)
    (hfinish : s₂.step (.finishTurn guard.receipt) =
      some (.turnFinished guard' (some (.clean generation)), s₃)) :
    guard' = guard ∧
    ∀ r ∈ rootIds,
      s.Undisturbed guard.receipt r ∧
      (∀ u l₁ l₂, mutationCoordination.Run s₁ l₁ u → mutationCoordination.Run u l₂ s₂ →
        u.Undisturbed guard.receipt r) ∧
      (∀ action held, (action, CoordinatorAnswer.mutationAcquired held) ∈ l → r ∉ held.roots) ∧
      guard'.generationFor r = some (s₂.coordinator.generation r) := by
  have hs := reachable_agreed h
  obtain ⟨roots, conflict, hmem, hbegun, hborn⟩ := step_beginTurnIntervals hs hbegin
  obtain ⟨hlast, hclean⟩ := step_finishTurn hfinish
  have hstart : s₁.Issued guard.receipt := by
    refine ⟨step_agreed hs hbegin, ?_⟩
    rw [hbegun.guard_receipt, hbegun.next]
  have hend : s₂.LiveClean guard.receipt guard' generation := ⟨hlast, hclean⟩
  have hmiddle : ∀ u l₁ l₂, mutationCoordination.Run s₁ l₁ u → mutationCoordination.Run u l₂ s₂ →
      u.LiveClean guard.receipt guard' generation := by
    intro u l₁ l₂ hbefore hafter
    exact run_liveClean_back (run_issued hstart hbefore) hafter hend
  have hagreed : ∀ u l₁, mutationCoordination.Run s₁ l₁ u → u.Agreed := fun u l₁ hbefore =>
    (run_issued hstart hbefore).1
  obtain ⟨hfirst, hfirst_clean⟩ := hmiddle s₁ [] l (.nil trivial) hrun
  have hsame : guard' = guard := Option.some.inj (hfirst.symm.trans hborn)
  subst hsame
  refine ⟨rfl, fun r hr => ?_⟩
  have hroot : r ∈ guard'.roots.map Prod.fst := by
    rw [hbegun.guard_root_ids]
    exact (hmem r).mpr hr
  refine ⟨undisturbed_of_begun hs hbegun hfirst_clean ((hmem r).mpr hr), ?_, ?_, ?_⟩
  · intro u l₁ l₂ hbefore hafter
    exact (hmiddle u l₁ l₂ hbefore hafter).undisturbed (hagreed u l₁ hbefore) hroot
  · intro action held hevent
    obtain ⟨u, v, l₁, l₂, hbefore, hstep, hafter⟩ := hrun.exists_of_mem hevent
    have hthrough := hbefore.concat hstep trivial
    obtain ⟨m, hheld⟩ := step_mutationAcquired (hagreed u l₁ hbefore) hstep
    have hlive := hmiddle v _ l₂ hthrough hafter
    exact (hlive.undisturbed (hagreed v _ hthrough) hroot).1 m held hheld
  · exact hend.generationFor (hagreed s₂ l hrun) hroot

section CleanTurn

def demoTurnRoot : PhysicalRootId :=
  ⟨[1, 1, 7]⟩

def demoMutatedRoot : PhysicalRootId :=
  ⟨[1, 1, 9]⟩

def demoTurnOwner : TurnOwner :=
  ⟨⟨"session-1"⟩, ⟨"turn-1"⟩⟩

def demoTurnGuard : TurnIntervalGuard where
  roots := [(demoTurnRoot, 0)]
  owner := demoTurnOwner
  receipt := 1
  dropping := false

def demoBeforeTurn : CoordinatedGuards :=
  mutationCoordination.exec .new [.tryAcquireMutation 0 demoMutatedRoot]

def demoTurnBegun : CoordinatedGuards :=
  mutationCoordination.exec demoBeforeTurn [.beginTurnIntervals [demoTurnRoot] demoTurnOwner]

def demoTurnPassed : CoordinatedGuards :=
  mutationCoordination.exec demoTurnBegun [.dropMutation 0, .tryAcquireMutation 1 demoMutatedRoot]

theorem clean_turn_undisturbed_demo :
    demoTurnGuard.generationFor demoTurnRoot =
      some (demoTurnPassed.coordinator.generation demoTurnRoot) ∧
    demoTurnPassed.Undisturbed 1 demoTurnRoot := by
  have hreach : mutationCoordination.Reachable demoBeforeTurn := .exec .start _
  have hrun : mutationCoordination.Run demoTurnBegun
      [(.dropMutation 0, .released),
        (.tryAcquireMutation 1 demoMutatedRoot, .mutationAcquired (.single demoMutatedRoot 2))]
      demoTurnPassed :=
    .concat (.concat (.nil trivial) rfl trivial) rfl trivial
  have hturn := clean_turn_undisturbed hreach
    (show demoBeforeTurn.step (.beginTurnIntervals [demoTurnRoot] demoTurnOwner) =
      some (.turnBegun demoTurnGuard, demoTurnBegun) from rfl) hrun
    (show demoTurnPassed.step (.finishTurn 1) =
      some (.turnFinished demoTurnGuard (some (.clean 0)),
        demoTurnPassed.endTurn 1 demoTurnGuard) from rfl)
  obtain ⟨-, hmiddle, -, hgeneration⟩ := hturn.2 demoTurnRoot (List.mem_singleton_self _)
  exact ⟨hgeneration, hmiddle demoTurnPassed _ [] hrun (.nil trivial)⟩

end CleanTurn

end DevCommandCenter
