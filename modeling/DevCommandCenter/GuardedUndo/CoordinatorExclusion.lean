import DevCommandCenter.GuardedUndo.CoordinatorSteps

/-! Exclusion between mutations, capture edges and turns, and what a refused call leaves alone. -/

namespace DevCommandCenter

open Library WorkspaceMutationCoordinator

namespace CoordinatedGuards

variable {s next : CoordinatedGuards} {action : CoordinatorAction} {answer : CoordinatorAnswer}

/-- No single-root mutation is tried on a root without an entry whose generation is exhausted. -/
def spared (s : CoordinatedGuards) : CoordinatorAction → Bool
  | .tryAcquireMutation _ root =>
      (s.coordinator.roots root).isSome || decide (s.coordinator.generation root < generationMax)
  | _ => true

abbrev sparedCoordination : System CoordinatedGuards CoordinatorAction CoordinatorAnswer :=
  mutationCoordination.restrict spared

lemma spared_not_exhausted {mutation : ℕ} {root : PhysicalRootId}
    (hspared : s.spared (.tryAcquireMutation mutation root) = true)
    (hnone : s.coordinator.roots root = none)
    (hmax : generationMax < s.coordinator.generation root + 1) : False := by
  simp only [spared, hnone, Option.isSome_none, Bool.false_or, decide_eq_true_eq] at hspared
  omega

lemma step_noIdle (h : s.Agreed) (hidle : NoIdleEntry s.coordinator)
    (hspared : s.spared action = true) (hstep : s.step action = some (answer, next)) :
    NoIdleEntry next.coordinator := by
  obtain ⟨hagrees, -⟩ := h
  cases step_effect hagrees.retained hstep with
  | begun _ hbegun => exact hbegun.noIdle hidle
  | finished hguard => exact noIdle_releaseEntries _ (hagrees.turnNodup _ _ hguard) hidle
  | dropping _ => exact hidle
  | ended hguard => exact noIdle_releaseEntries _ (hagrees.turnNodup _ _ hguard) hidle
  | edges _ hacquired => exact hacquired.noIdle hidle
  | edgesReleased hedge => exact noIdle_releaseEntries _ (hagrees.edgeNodup _ _ hedge) hidle
  | mutation _ hacquired => exact hacquired.noIdle hidle
  | mutationReleased hguard => exact noIdle_releaseEntries _ (hagrees.mutationNodup _ _ hguard) hidle
  | refused => exact hidle
  | idleLeft hnone hmax _ => exact (spared_not_exhausted hspared hnone hmax).elim

lemma spared_reachable_agreed (h : sparedCoordination.Reachable s) :
    s.Agreed ∧ NoIdleEntry s.coordinator := by
  induction h with
  | start => exact ⟨new_agreed, fun r entry hentry => by cases hentry⟩
  | step _ hstep ih =>
      obtain ⟨hs, hidle⟩ := ih
      obtain ⟨hspared, hstep⟩ := System.restrict_step.mp hstep
      exact ⟨step_agreed hs hstep, step_noIdle hs hidle hspared hstep⟩

lemma generation_of_lookup {c c' : WorkspaceMutationCoordinator} {l : List PhysicalRootId}
    {g : PhysicalRootId → ℕ} (hle : ∀ r, c.generation r ≤ g r)
    (h : ∀ r, c'.generations.lookup r = if r ∈ l then some (g r) else c.generations.lookup r)
    (r : PhysicalRootId) : c.generation r ≤ c'.generation r := by
  rw [show c'.generation r = (c'.generations.lookup r).getD 0 from rfl, h r]
  split
  · exact hle r
  · exact le_rfl

lemma generation_releaseEntries (f : RootEntry → RootEntry) (l : List PhysicalRootId)
    (c : WorkspaceMutationCoordinator) (r : PhysicalRootId) :
    (releaseEntries f l c).generation r = c.generation r := by
  rw [generation, (releaseEntries_keeps f l c).1, generation]

lemma step_generation_le (h : s.Agreed) (hstep : s.step action = some (answer, next))
    (r : PhysicalRootId) : s.coordinator.generation r ≤ next.coordinator.generation r := by
  cases step_effect h.1.retained hstep with
  | begun _ hbegun => exact generation_of_lookup (fun _ => le_rfl) hbegun.generations r
  | finished _ => exact (generation_releaseEntries ..).ge
  | dropping _ => exact le_rfl
  | ended _ => exact (generation_releaseEntries ..).ge
  | edges _ hacquired => exact generation_of_lookup (fun _ => le_rfl) hacquired.generations r
  | edgesReleased _ => exact (generation_releaseEntries ..).ge
  | mutation _ hacquired => exact generation_of_lookup (fun _ => Nat.le_succ _) hacquired.generations r
  | mutationReleased _ => exact (generation_releaseEntries ..).ge
  | refused => exact le_rfl
  | idleLeft _ _ _ => exact le_rfl

lemma step_refused (h : s.Agreed) {error : CoordinatorError} (hspared : s.spared action = true)
    (hstep : s.step action = some (.refused error, next)) : next = s := by
  generalize hanswer : CoordinatorAnswer.refused error = answer at hstep
  cases step_effect h.1.retained hstep with
  | refused => rfl
  | idleLeft hnone hmax _ => exact (spared_not_exhausted hspared hnone hmax).elim
  | _ => cases hanswer

end CoordinatedGuards

open CoordinatedGuards

theorem coordinator_exclusion {s : CoordinatedGuards} (h : sparedCoordination.Reachable s) :
    (∀ r, ¬((s.coordinator.entry r).mutationActive = true ∧
      0 < (s.coordinator.entry r).activeCaptureEdges)) ∧
    (∀ r m m' guard guard', s.mutations.lookup m = some guard → s.mutations.lookup m' = some guard' →
      r ∈ guard.roots → r ∈ guard'.roots → m = m') ∧
    (∀ r, (s.coordinator.entry r).activeCaptureEdges =
      s.edges.count fun roots => decide (r ∈ roots)) ∧
    (∀ r owner receipt, (s.coordinator.entry r).activeTurns.lookup owner = some receipt ↔
      ∃ guard, s.turns.lookup receipt = some guard ∧ guard.owner = owner ∧
        r ∈ guard.roots.map Prod.fst) ∧
    NoIdleEntry s.coordinator ∧
    (∀ action answer next r, sparedCoordination.step s action = some (answer, next) →
      s.coordinator.generation r ≤ next.coordinator.generation r) ∧
    ∀ action error next, sparedCoordination.step s action = some (.refused error, next) →
      next = s := by
  obtain ⟨hagreed, hidle⟩ := spared_reachable_agreed h
  have hagrees := hagreed.1
  refine ⟨?_, hagrees.oneMutation, hagrees.edgeCount, hagrees.turn, hidle, ?_, ?_⟩
  · rintro r ⟨hactive, hedges⟩
    rw [hagrees.exclusive r hactive] at hedges
    exact lt_irrefl 0 hedges
  · intro action answer next r hstep
    exact step_generation_le hagreed (System.restrict_step.mp hstep).2 r
  · intro action error next hstep
    obtain ⟨hspared, hstep⟩ := System.restrict_step.mp hstep
    exact step_refused hagreed hspared hstep

section SharedRoots

def demoRoot : PhysicalRootId :=
  ⟨[1, 1, 7]⟩

def demoOtherRoot : PhysicalRootId :=
  ⟨[1, 2, 8]⟩

def demoOwner : TurnOwner :=
  ⟨⟨"session-1"⟩, ⟨"turn-1"⟩⟩

def demoShared : CoordinatedGuards :=
  sparedCoordination.exec .new [.tryAcquireCaptureEdges 0 [demoRoot],
    .tryAcquireCaptureEdges 1 [demoOtherRoot, demoRoot, demoOtherRoot], .dropCaptureEdges 0,
    .tryAcquireMutation 0 demoRoot, .dropCaptureEdges 1, .beginTurnIntervals [demoRoot] demoOwner,
    .tryAcquireCaptureEdges 2 [demoRoot], .tryAcquireMutation 3 demoOtherRoot]

theorem coordinator_exclusion_demo :
    (demoShared.coordinator.entry demoRoot).activeCaptureEdges = 1 ∧
    (demoShared.coordinator.entry demoRoot).activeTurns.lookup demoOwner = some 1 ∧
    (demoShared.coordinator.entry demoOtherRoot).activeCaptureEdges = 0 := by
  obtain ⟨-, -, hedges, hturns, -⟩ :=
    coordinator_exclusion (show sparedCoordination.Reachable demoShared from .exec .start _)
  exact ⟨(hedges demoRoot).trans (by decide),
    (hturns demoRoot demoOwner 1).mpr ⟨_, rfl, by decide, by decide⟩,
    (hedges demoOtherRoot).trans (by decide)⟩

end SharedRoots

section Exhaustion

def CoordinatedGuards.RestsAt (s : CoordinatedGuards) (root : PhysicalRootId) (generation : ℕ) :
    Prop :=
  s.coordinator.roots root = none ∧ s.coordinator.generations.lookup root = some generation ∧
    0 ∉ s.mutations

variable {s : CoordinatedGuards} {root : PhysicalRootId} {n : ℕ}

lemma tryAcquireMutation_unused {c : WorkspaceMutationCoordinator} (hvalid : root.validate = true)
    (hnone : c.roots root = none) (hlookup : c.generations.lookup root = some n) :
    (n < generationMax → ∃ c', tryAcquireMutation root c = (.ok (.single root (n + 1)), c')) ∧
    (generationMax ≤ n →
      tryAcquireMutation root c = (.error .generationExhausted, c.updateEntry id root)) := by
  have hgeneration : generationFor root c = (.ok n, c) := by
    simp only [generationFor, Call.bind_apply, Call.read_apply, hlookup, Call.pure_apply]
  have hidle : (c.updateEntry id root).entry root = .default := by
    rw [entry_updateEntry_id, entry, hnone, Option.getD_none]
  unfold tryAcquireMutation
  rw [if_pos hvalid, Call.bind_apply, hgeneration]
  constructor
  · intro hlt
    have hmax : ¬generationMax < n + 1 := by omega
    simp [Call.bind_apply, hidle, RootEntry.default, hmax]
  · intro hle
    have hmax : generationMax < n + 1 := by omega
    simp [Call.bind_apply, hidle, RootEntry.default, hmax]

lemma rests_after_mutation (hvalid : root.validate = true) (h : s.RestsAt root n)
    (hreach : mutationCoordination.Reachable s) (hlt : n < generationMax) :
    ∃ next, mutationCoordination.Reachable next ∧ next.RestsAt root (n + 1) := by
  obtain ⟨hnone, hlookup, hfresh⟩ := h
  obtain ⟨c, hcall⟩ := (tryAcquireMutation_unused hvalid hnone hlookup).1 hlt
  obtain ⟨-, hacquired⟩ := tryAcquireMutation_ok hcall
  let guard := MutationGuard.single root (n + 1)
  let held : CoordinatedGuards :=
    { s with coordinator := c, mutations := s.mutations.insert 0 guard }
  have hacquire : mutationCoordination.step s (.tryAcquireMutation 0 root) =
      some (.mutationAcquired guard, held) := by
    simp only [mutationCoordination, CoordinatedGuards.step, if_neg hfresh, hcall, acquireMutation]
    rfl
  let dropped : CoordinatedGuards :=
    { held with
      coordinator := releaseMutations guard c
      mutations := held.mutations.erase 0 }
  have hguard : held.mutations.lookup 0 = some guard := AList.lookup_insert _
  have hdrop : mutationCoordination.step held (.dropMutation 0) = some (.released, dropped) := by
    simp only [mutationCoordination, CoordinatedGuards.step, hguard]
    rfl
  have hheld : mutationCoordination.Reachable held := hreach.step hacquire
  refine ⟨dropped, hheld.step hdrop, ?_, ?_, ?_⟩
  · have hentry : c.roots root = some { RootEntry.default with mutationActive := true } := by
      rw [hacquired.roots, if_pos (List.mem_singleton_self _), entry, hnone, Option.getD_none]
    refine (roots_releaseEntries _ (List.nodup_singleton root) c root).trans ?_
    rw [if_pos (List.mem_singleton_self _), hentry]
    rfl
  · refine (congrArg (AList.lookup root) (releaseEntries_keeps _ [root] c).1).trans ?_
    rw [hacquired.generations, if_pos (List.mem_singleton_self _), generation, hlookup,
      Option.getD_some]
  · exact fun h => absurd (AList.mem_erase.mp h).1 (not_not.mpr rfl)

lemma exists_rested (hvalid : root.validate = true) (hle : n ≤ generationMax)
    (hstart : ∃ s, mutationCoordination.Reachable s ∧ s.RestsAt root 0) :
    ∃ s, mutationCoordination.Reachable s ∧ s.RestsAt root n := by
  induction n with
  | zero => exact hstart
  | succ n ih =>
      obtain ⟨s, hreach, hrests⟩ := ih (by omega)
      exact rests_after_mutation hvalid hrests hreach (by omega)

end Exhaustion

def demoRested : CoordinatedGuards :=
  mutationCoordination.exec .new [.tryAcquireCaptureEdges 0 [demoRoot], .dropCaptureEdges 0]

-- The last generation is reached by acquiring and dropping, so this run has 2 ^ 65 + 1 steps.
theorem exhausted_mutation_leaves_entry : ∃ s error next,
    mutationCoordination.Reachable s ∧ s.coordinator.roots demoRoot = none ∧
    s.step (.tryAcquireMutation 0 demoRoot) = some (.refused error, next) ∧
    next.coordinator.roots demoRoot = some .default ∧ ¬NoIdleEntry next.coordinator := by
  have hstart : demoRested.RestsAt demoRoot 0 := by
    refine ⟨?_, ?_, ?_⟩
    · decide
    · decide
    · decide
  obtain ⟨s, hreach, hnone, hlookup, hfresh⟩ := exists_rested (by decide) le_rfl
    ⟨demoRested, .exec .start _, hstart⟩
  let next : CoordinatedGuards := { s with coordinator := s.coordinator.updateEntry id demoRoot }
  have hleft : next.coordinator.roots demoRoot = some .default := by
    refine (updatesAt_updateEntry id s.coordinator demoRoot demoRoot).trans ?_
    rw [if_pos rfl, hnone]
    rfl
  refine ⟨s, .generationExhausted, next, hreach, hnone, ?_, hleft, fun h => ?_⟩
  · have hcall := (tryAcquireMutation_unused (by decide) hnone hlookup).2 le_rfl
    simp only [CoordinatedGuards.step, if_neg hfresh, hcall, acquireMutation]
    rfl
  · have hbusy := h demoRoot .default hleft
    cases hbusy

end DevCommandCenter
