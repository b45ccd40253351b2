import DevCommandCenter.GuardedUndo.CoordinatorCalls

/-! The coordinator with every guard it has handed out, under any interleaving of its callers. -/

namespace DevCommandCenter

open Library WorkspaceMutationCoordinator

/-- Turn guards go by their receipt, the other guards by a name their caller gives them. -/
structure CoordinatedGuards where
  coordinator : WorkspaceMutationCoordinator
  turns : Table ℕ TurnIntervalGuard
  edges : Table ℕ (List PhysicalRootId)
  mutations : Table ℕ MutationGuard

-- A single-root begin or capture edge is the multi-root call on a list of one.
inductive CoordinatorAction
  | beginTurnIntervals (rootIds : List PhysicalRootId) (owner : TurnOwner)
  | finishTurn (receipt : ℕ)
  | dropTurn (receipt : ℕ)
  | endDroppedTurn (receipt : ℕ)
  | tryAcquireCaptureEdges (edge : ℕ) (rootIds : List PhysicalRootId)
  | dropCaptureEdges (edge : ℕ)
  | tryAcquireMutation (mutation : ℕ) (root : PhysicalRootId)
  | tryAcquireMutations (mutation : ℕ) (rootIds : List PhysicalRootId)
  | dropMutation (mutation : ℕ)
  deriving DecidableEq, Repr

inductive CoordinatorAnswer
  | turnBegun (guard : TurnIntervalGuard)
  | turnFinished (guard : TurnIntervalGuard) (state : Option TurnReceiptState)
  | edgesAcquired (roots : List PhysicalRootId)
  | mutationAcquired (guard : MutationGuard)
  | released
  | refused (error : CoordinatorError)
  deriving DecidableEq, Repr

namespace CoordinatedGuards

def new : CoordinatedGuards where
  coordinator := .new
  turns := ∅
  edges := ∅
  mutations := ∅

def acquireMutation (s : CoordinatedGuards) (mutation : ℕ)
    (result : Except CoordinatorError MutationGuard × WorkspaceMutationCoordinator) :
    CoordinatorAnswer × CoordinatedGuards :=
  match result with
  | (.ok guard, c) =>
      (.mutationAcquired guard,
        { s with coordinator := c, mutations := s.mutations.insert mutation guard })
  | (.error error, c) => (.refused error, { s with coordinator := c })

def endTurn (s : CoordinatedGuards) (receipt : ℕ) (guard : TurnIntervalGuard) : CoordinatedGuards :=
  { s with
    coordinator := endTurnIntervals guard s.coordinator
    turns := s.turns.erase receipt }

def step (s : CoordinatedGuards) :
    CoordinatorAction → Option (CoordinatorAnswer × CoordinatedGuards)
  | .beginTurnIntervals rootIds owner =>
      match beginTurnIntervals rootIds owner s.coordinator with
      | (.ok guard, c) =>
          some (.turnBegun guard,
            { s with coordinator := c, turns := s.turns.insert guard.receipt guard })
      | (.error error, c) => some (.refused error, { s with coordinator := c })
  | .finishTurn receipt =>
      match s.turns.lookup receipt with
      | some guard =>
          if guard.dropping then none
          else some (.turnFinished guard (s.coordinator.receipts receipt), s.endTurn receipt guard)
      | none => none
  | .dropTurn receipt =>
      match s.turns.lookup receipt with
      | some guard =>
          if guard.dropping then none
          else some (.released,
            { s with
              coordinator := s.coordinator.markDirty receipt
              turns := s.turns.insert receipt { guard with dropping := true } })
      | none => none
  | .endDroppedTurn receipt =>
      match s.turns.lookup receipt with
      | some guard => if guard.dropping then some (.released, s.endTurn receipt guard) else none
      | none => none
  | .tryAcquireCaptureEdges edge rootIds =>
      if edge ∈ s.edges then none
      else
        match DevCommandCenter.tryAcquireCaptureEdges rootIds s.coordinator with
        | (.ok roots, c) =>
            some (.edgesAcquired roots, { s with coordinator := c, edges := s.edges.insert edge roots })
        | (.error error, c) => some (.refused error, { s with coordinator := c })
  | .dropCaptureEdges edge =>
      match s.edges.lookup edge with
      | some roots =>
          some (.released,
            { s with
              coordinator := releaseCaptureEdges roots s.coordinator
              edges := s.edges.erase edge })
      | none => none
  | .tryAcquireMutation mutation root =>
      if mutation ∈ s.mutations then none
      else some (s.acquireMutation mutation (DevCommandCenter.tryAcquireMutation root s.coordinator))
  | .tryAcquireMutations mutation rootIds =>
      if mutation ∈ s.mutations then none
      else some
        (s.acquireMutation mutation (DevCommandCenter.tryAcquireMutations rootIds s.coordinator))
  | .dropMutation mutation =>
      match s.mutations.lookup mutation with
      | some guard =>
          some (.released,
            { s with
              coordinator := releaseMutations guard s.coordinator
              mutations := s.mutations.erase mutation })
      | none => none

end CoordinatedGuards

def mutationCoordination : System CoordinatedGuards CoordinatorAction CoordinatorAnswer where
  start := .new
  step := CoordinatedGuards.step

structure Agrees (c : WorkspaceMutationCoordinator) (turns : Table ℕ TurnIntervalGuard)
    (edges : Table ℕ (List PhysicalRootId)) (mutations : Table ℕ MutationGuard) : Prop where
  retained : ∀ r, (c.roots r).isSome → r ∈ c.generations
  mutation : ∀ r, (c.entry r).mutationActive = true ↔
    ∃ m guard, mutations.lookup m = some guard ∧ r ∈ guard.roots
  oneMutation : ∀ r m m' guard guard', mutations.lookup m = some guard →
    mutations.lookup m' = some guard' → r ∈ guard.roots → r ∈ guard'.roots → m = m'
  edgeCount : ∀ r, (c.entry r).activeCaptureEdges = edges.count fun roots => decide (r ∈ roots)
  exclusive : ∀ r, (c.entry r).mutationActive = true → (c.entry r).activeCaptureEdges = 0
  turn : ∀ r owner id, (c.entry r).activeTurns.lookup owner = some id ↔
    ∃ guard, turns.lookup id = some guard ∧ guard.owner = owner ∧ r ∈ guard.roots.map Prod.fst
  receipt : ∀ id guard, turns.lookup id = some guard → guard.receipt = id ∧ id ≤ c.nextReceiptId
  turnNodup : ∀ id guard, turns.lookup id = some guard → (guard.roots.map Prod.fst).Nodup
  edgeNodup : ∀ e roots, edges.lookup e = some roots → roots.Nodup
  mutationNodup : ∀ m guard, mutations.lookup m = some guard → guard.roots.Nodup

def CleanAlone (c : WorkspaceMutationCoordinator) (turns : Table ℕ TurnIntervalGuard) : Prop :=
  ∀ id guard generation, turns.lookup id = some guard → c.receipts id = some (.clean generation) →
    ∀ r base, (r, base) ∈ guard.roots → c.generations.lookup r = some base ∧
      (c.entry r).mutationActive = false ∧
      ∀ owner id', (c.entry r).activeTurns.lookup owner = some id' → id' = id

def NoIdleEntry (c : WorkspaceMutationCoordinator) : Prop :=
  ∀ r entry, c.roots r = some entry → entry.idle = false

def CoordinatedGuards.Agreed (s : CoordinatedGuards) : Prop :=
  Agrees s.coordinator s.turns s.edges s.mutations ∧ CleanAlone s.coordinator s.turns

end DevCommandCenter
