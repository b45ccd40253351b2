import DevCommandCenter.GuardedUndo.CoordinatorInvariants

namespace DevCommandCenter

open Library WorkspaceMutationCoordinator

namespace CoordinatedGuards

variable {s next : CoordinatedGuards} {action : CoordinatorAction} {answer : CoordinatorAnswer}

inductive Effect (s : CoordinatedGuards) :
    CoordinatorAction → CoordinatorAnswer → CoordinatedGuards → Prop
  | begun {rootIds l : List PhysicalRootId} {owner : TurnOwner} {conflict : Bool}
      {guard : TurnIntervalGuard} {c : WorkspaceMutationCoordinator} :
      (∀ r, r ∈ l ↔ r ∈ rootIds) → TurnBegun s.coordinator c l conflict guard →
      Effect s (.beginTurnIntervals rootIds owner) (.turnBegun guard)
        { s with coordinator := c, turns := s.turns.insert guard.receipt guard }
  | finished {receipt : ℕ} {guard : TurnIntervalGuard} :
      s.turns.lookup receipt = some guard →
      Effect s (.finishTurn receipt) (.turnFinished guard (s.coordinator.receipts receipt))
        (s.endTurn receipt guard)
  | dropping {receipt : ℕ} {guard : TurnIntervalGuard} :
      s.turns.lookup receipt = some guard →
      Effect s (.dropTurn receipt) .released
        { s with
          coordinator := s.coordinator.markDirty receipt
          turns := s.turns.insert receipt { guard with dropping := true } }
  | ended {receipt : ℕ} {guard : TurnIntervalGuard} :
      s.turns.lookup receipt = some guard →
      Effect s (.endDroppedTurn receipt) .released (s.endTurn receipt guard)
  | edges {edge : ℕ} {rootIds l : List PhysicalRootId} {c : WorkspaceMutationCoordinator} :
      edge ∉ s.edges → EdgesAcquired s.coordinator c l →
      Effect s (.tryAcquireCaptureEdges edge rootIds) (.edgesAcquired l)
        { s with coordinator := c, edges := s.edges.insert edge l }
  | edgesReleased {edge : ℕ} {l : List PhysicalRootId} :
      s.edges.lookup edge = some l →
      Effect s (.dropCaptureEdges edge) .released
        { s with coordinator := releaseCaptureEdges l s.coordinator, edges := s.edges.erase edge }
  | mutation {mutation : ℕ} {guard : MutationGuard} {c : WorkspaceMutationCoordinator}
      {action : CoordinatorAction} :
      mutation ∉ s.mutations → MutationAcquired s.coordinator c guard.roots →
      Effect s action (.mutationAcquired guard)
        { s with coordinator := c, mutations := s.mutations.insert mutation guard }
  | mutationReleased {mutation : ℕ} {guard : MutationGuard} :
      s.mutations.lookup mutation = some guard →
      Effect s (.dropMutation mutation) .released
        { s with
          coordinator := releaseMutations guard s.coordinator
          mutations := s.mutations.erase mutation }
  | refused {error : CoordinatorError} {action : CoordinatorAction} :
      Effect s action (.refused error) s
  | idleLeft {mutation : ℕ} {root : PhysicalRootId} {error : CoordinatorError} :
      s.coordinator.roots root = none → generationMax < s.coordinator.generation root + 1 →
      root ∈ s.coordinator.generations →
      Effect s (.tryAcquireMutation mutation root) (.refused error)
        { s with coordinator := s.coordinator.updateEntry id root }

lemma step_effect (h : ∀ r, (s.coordinator.roots r).isSome → r ∈ s.coordinator.generations)
    (hstep : s.step action = some (answer, next)) : Effect s action answer next := by
  cases action with
  | beginTurnIntervals rootIds owner =>
      simp only [step] at hstep
      split at hstep
      · next guard c hcall =>
          cases hstep
          obtain ⟨l, conflict, hmem, -, hbegun⟩ := beginTurnIntervals_ok hcall
          exact .begun hmem hbegun
      · next error c hcall =>
          cases hstep
          rw [errorKeeps_beginTurnIntervals owner _ _ _ hcall]
          exact .refused
  | finishTurn receipt =>
      simp only [step] at hstep
      split at hstep
      · next guard hguard =>
          split at hstep
          · cases hstep
          · cases hstep
            exact .finished hguard
      · cases hstep
  | dropTurn receipt =>
      simp only [step] at hstep
      split at hstep
      · next guard hguard =>
          split at hstep
          · cases hstep
          · cases hstep
            exact .dropping hguard
      · cases hstep
  | endDroppedTurn receipt =>
      simp only [step] at hstep
      split at hstep
      · next guard hguard =>
          split at hstep
          · cases hstep
            exact .ended hguard
          · cases hstep
      · cases hstep
  | tryAcquireCaptureEdges edge rootIds =>
      simp only [step] at hstep
      split at hstep
      · cases hstep
      · next hfresh =>
          split at hstep
          · next l c hcall =>
              cases hstep
              exact .edges hfresh (tryAcquireCaptureEdges_ok hcall).2
          · next error c hcall =>
              cases hstep
              rw [errorKeeps_tryAcquireCaptureEdges _ _ _ hcall]
              exact .refused
  | dropCaptureEdges edge =>
      simp only [step] at hstep
      split at hstep
      · next l hedge =>
          cases hstep
          exact .edgesReleased hedge
      · cases hstep
  | tryAcquireMutation mutation root =>
      simp only [step] at hstep
      split at hstep
      · cases hstep
      · next hfresh =>
          rcases hcall : DevCommandCenter.tryAcquireMutation root s.coordinator with ⟨error | guard, c⟩
          · rw [hcall] at hstep
            cases hstep
            rcases tryAcquireMutation_error (h root) hcall with rfl | ⟨hnone, hmax, hmem, rfl⟩
            · exact .refused
            · exact .idleLeft hnone hmax hmem
          · rw [hcall] at hstep
            cases hstep
            obtain ⟨hroots, hacquired⟩ := tryAcquireMutation_ok hcall
            exact .mutation hfresh (hroots ▸ hacquired)
  | tryAcquireMutations mutation rootIds =>
      simp only [step] at hstep
      split at hstep
      · cases hstep
      · next hfresh =>
          rcases hcall : DevCommandCenter.tryAcquireMutations rootIds s.coordinator with
            ⟨error | guard, c⟩
          · rw [hcall] at hstep
            cases hstep
            rw [errorKeeps_tryAcquireMutations _ _ _ hcall]
            exact .refused
          · rw [hcall] at hstep
            cases hstep
            obtain ⟨l, -, rfl, hacquired⟩ := tryAcquireMutations_ok hcall
            exact .mutation hfresh hacquired
  | dropMutation mutation =>
      simp only [step] at hstep
      split at hstep
      · next guard hguard =>
          cases hstep
          exact .mutationReleased hguard
      · cases hstep

lemma new_agreed : new.Agreed := by
  refine ⟨{
    retained := by simp [new, WorkspaceMutationCoordinator.new]
    mutation := by simp [new, WorkspaceMutationCoordinator.new, entry, RootEntry.default]
    oneMutation := by simp [new]
    edgeCount := by simp [new, WorkspaceMutationCoordinator.new, entry, RootEntry.default]
    exclusive := by simp [new, WorkspaceMutationCoordinator.new, entry, RootEntry.default]
    turn := by simp [new, WorkspaceMutationCoordinator.new, entry, RootEntry.default]
    receipt := by simp [new]
    turnNodup := by simp [new]
    edgeNodup := by simp [new]
    mutationNodup := by simp [new] }, ?_⟩
  intro id guard generation hguard
  simp [new] at hguard

lemma step_agreed (h : s.Agreed) (hstep : s.step action = some (answer, next)) : next.Agreed := by
  obtain ⟨hagrees, hclean⟩ := h
  cases step_effect hagrees.retained hstep with
  | begun _ hbegun => exact ⟨hagrees.turnBegun hbegun, hclean.turnBegun hagrees hbegun⟩
  | finished hguard => exact ⟨hagrees.turnEnded hguard, hclean.turnEnded hagrees hguard⟩
  | dropping hguard => exact ⟨hagrees.turnDropping hguard, hclean.turnDropping _ _⟩
  | ended hguard => exact ⟨hagrees.turnEnded hguard, hclean.turnEnded hagrees hguard⟩
  | edges hfresh hacquired =>
      exact ⟨hagrees.edgesAcquired hfresh hacquired, hclean.edgesAcquired hacquired⟩
  | edgesReleased hedge =>
      exact ⟨hagrees.edgesReleased hedge, hclean.edgesReleased (hagrees.edgeNodup _ _ hedge)⟩
  | mutation hfresh hacquired =>
      exact ⟨hagrees.mutationAcquired hfresh hacquired, hclean.mutationAcquired hagrees hacquired⟩
  | mutationReleased hguard =>
      exact ⟨hagrees.mutationReleased hguard,
        hclean.mutationReleased (hagrees.mutationNodup _ _ hguard)⟩
  | refused => exact ⟨hagrees, hclean⟩
  | idleLeft _ _ hmem => exact ⟨hagrees.idleLeft hmem, hclean.idleLeft⟩

lemma reachable_agreed (h : mutationCoordination.Reachable s) : s.Agreed := by
  refine h.invariant new_agreed ?_
  intro s action answer next hs hstep
  exact step_agreed hs hstep

end CoordinatedGuards

end DevCommandCenter
