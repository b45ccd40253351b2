import DevCommandCenter.Rewind.RestoreOrder

/-! A rewind restores files turn by turn, and where it stops all of the projects are at one turn. -/

namespace DevCommandCenter.Rewind

lemma turnRank_spec {factsOldestFirst : List TurnFileFacts} {facts : TurnFileFacts}
    (h : facts ∈ factsOldestFirst) :
    ∃ first, factsOldestFirst[turnRank factsOldestFirst facts.turnId]? = some first ∧
      first.turnId = facts.turnId := by
  rw [turnRank]
  cases hfind : factsOldestFirst.findIdx? fun other => decide (other.turnId = facts.turnId) with
  | none =>
      have hnone := List.findIdx?_eq_none_iff.mp hfind facts h
      rw [decide_eq_false_iff_not] at hnone
      exact absurd rfl hnone
  | some i =>
      obtain ⟨hi, hturn, _⟩ := List.findIdx?_eq_some_iff_getElem.mp hfind
      exact ⟨factsOldestFirst[i], List.getElem?_eq_getElem hi, of_decide_eq_true hturn⟩

lemma turnRank_inj {factsOldestFirst : List TurnFileFacts} {facts facts' : TurnFileFacts}
    (h : facts ∈ factsOldestFirst) (h' : facts' ∈ factsOldestFirst)
    (hrank : turnRank factsOldestFirst facts.turnId = turnRank factsOldestFirst facts'.turnId) :
    facts.turnId = facts'.turnId := by
  obtain ⟨first, hfirst, hturn⟩ := turnRank_spec h
  obtain ⟨first', hfirst', hturn'⟩ := turnRank_spec h'
  rw [hrank, hfirst', Option.some_inj] at hfirst
  rw [← hturn, ← hturn', hfirst]

section Steps

variable {σ : Type} {restorer : RewindFileRestorer σ} {rank : String → ℕ}
variable {done steps : List RestoreStep} {step : RestoreStep}
variable {restored turns : List String} {current : Option String}
variable {world : σ} {stop : RewindFilesStopped}

lemma restoreSteps_cons (restorer : RewindFileRestorer σ) (step : RestoreStep) (steps : List RestoreStep) (restored : List String)
    (current : Option String) (world : σ) :
    (∃ executed outcome reasonCode world', restoreSteps restorer (step :: steps) restored current world =
      ⟨executed, .error (step.stopped (closeTurn restored current step.turnId) outcome reasonCode),
        world'⟩ ∧
      (executed = [] ∨ ∃ result ≠ .completed, executed = [(step.snapshotId, result)])) ∨
    ∃ world', restoreSteps restorer (step :: steps) restored current world =
      (restoreSteps restorer steps (closeTurn restored current step.turnId) (some step.turnId)
        world').after step.snapshotId := by
  rw [restoreSteps]
  split
  · exact .inl ⟨_, _, _, _, rfl, .inl rfl⟩
  · split
    · exact .inr ⟨_, rfl⟩
    · exact .inl ⟨_, _, _, _, rfl, .inr ⟨_, by simp, rfl⟩⟩
    · exact .inl ⟨_, _, _, _, rfl, .inr ⟨_, by simp, rfl⟩⟩
    · exact .inl ⟨_, _, _, _, rfl, .inr ⟨_, by simp, rfl⟩⟩

structure Reports (rank : String → ℕ) (done : List RestoreStep) (restored : List String)
    (current : Option String) : Prop where
  idle : current = none → restored = []
  mem : ∀ turnId, turnId ∈ restored ++ current.toList ↔ turnId ∈ done.map RestoreStep.turnId
  newest : (restored ++ current.toList).Pairwise fun turnId turnId' => rank turnId' < rank turnId

structure Closed (rank : String → ℕ) (done : List RestoreStep) (turnId : String)
    (restored : List String) : Prop where
  mem : ∀ turnId', turnId' ∈ restored ↔ turnId' ∈ done.map RestoreStep.turnId ∧ turnId' ≠ turnId
  newest : restored.Pairwise fun turnId turnId' => rank turnId' < rank turnId

lemma Reports.close (h : Reports rank done restored current)
    (hsorted : ∀ d ∈ done, rank step.turnId ≤ rank d.turnId) :
    Closed rank done step.turnId (closeTurn restored current step.turnId) := by
  cases hcurrent : current with
  | none =>
      have hmem := h.mem
      rw [hcurrent, h.idle hcurrent] at hmem
      rw [closeTurn, h.idle hcurrent]
      refine ⟨fun turnId' => ?_, List.Pairwise.nil⟩
      rw [← hmem]
      simp
  | some turnId =>
      have hmem := h.mem
      have hnewest := h.newest
      rw [hcurrent, Option.toList_some] at hmem hnewest
      have hbehind : ∀ turnId' ∈ restored, rank turnId < rank turnId' := fun turnId' hturnId' =>
        (List.pairwise_append.mp hnewest).2.2 turnId' hturnId' turnId (List.mem_singleton_self _)
      by_cases hsame : turnId = step.turnId
      · have hclose : closeTurn restored (some turnId) step.turnId = restored := by
          rw [closeTurn, if_neg]
          simpa using hsame
        rw [hclose]
        refine ⟨fun turnId' => ?_, (List.pairwise_append.mp hnewest).1⟩
        rw [← hmem, List.mem_append, List.mem_singleton, ← hsame]
        constructor
        · intro hturnId'
          refine ⟨.inl hturnId', fun heq => ?_⟩
          have := hbehind turnId' hturnId'
          rw [heq] at this
          exact lt_irrefl _ this
        · exact fun ⟨hor, hne⟩ => hor.resolve_right hne
      · have hclose : closeTurn restored (some turnId) step.turnId = restored ++ [turnId] := by
          rw [closeTurn, if_pos]
          · rfl
          · simpa using hsame
        rw [hclose]
        refine ⟨fun turnId' => ?_, hnewest⟩
        rw [← hmem]
        refine ⟨fun hturnId' => ⟨hturnId', ?_⟩, And.left⟩
        rintro rfl
        -- the turn at hand would be newer than the one before it
        obtain ⟨d, hd, hdturn⟩ := List.mem_map.mp ((hmem turnId).mp (List.mem_append_right _
          (List.mem_singleton_self _)))
        have hle := hsorted d hd
        rw [hdturn] at hle
        rcases List.mem_append.mp hturnId' with hmem' | hmem'
        · exact absurd (hbehind _ hmem') (not_lt.mpr hle)
        · exact hsame (List.mem_singleton.mp hmem').symm

lemma Reports.next (h : Reports rank done restored current)
    (hsorted : ∀ d ∈ done, rank step.turnId ≤ rank d.turnId)
    (hinj : ∀ d ∈ done, rank d.turnId = rank step.turnId → d.turnId = step.turnId) :
    Reports rank (done ++ [step]) (closeTurn restored current step.turnId) (some step.turnId) := by
  have hclosed := h.close hsorted
  refine ⟨(nomatch ·), fun turnId => ?_, ?_⟩
  · rw [Option.toList_some, List.mem_append, hclosed.mem, List.map_append, List.mem_append,
      List.mem_singleton, List.map_singleton, List.mem_singleton]
    by_cases hsame : turnId = step.turnId
    · exact ⟨fun _ => .inr hsame, fun _ => .inr hsame⟩
    · exact or_congr_left ⟨And.left, fun hmem => ⟨hmem, hsame⟩⟩
  · rw [Option.toList_some]
    refine List.pairwise_append.mpr ⟨hclosed.newest, List.pairwise_singleton _ _, ?_⟩
    intro turnId hturnId turnId' hturnId'
    rw [List.mem_singleton.mp hturnId']
    obtain ⟨hmem, hne⟩ := (hclosed.mem turnId).mp hturnId
    obtain ⟨d, hd, rfl⟩ := List.mem_map.mp hmem
    exact lt_of_le_of_ne (hsorted d hd) fun heq => hne (hinj d hd heq.symm)

lemma reports_nil : Reports rank [] [] none :=
  ⟨fun _ => rfl, fun _ => Iff.rfl, List.Pairwise.nil⟩

structure Ranked (rank : String → ℕ) (steps : List RestoreStep) : Prop where
  newest : steps.Pairwise fun step step' => rank step'.turnId ≤ rank step.turnId
  inj : ∀ step ∈ steps, ∀ step' ∈ steps, rank step.turnId = rank step'.turnId → step.turnId = step'.turnId

lemma Reports.next_of_ranked (h : Reports rank done restored current)
    (hranked : Ranked rank (done ++ step :: steps)) :
    Reports rank (done ++ [step]) (closeTurn restored current step.turnId) (some step.turnId) := by
  have hstep : step ∈ done ++ step :: steps := List.mem_append_right _ List.mem_cons_self
  refine h.next (fun d hd => ?_) fun d hd => hranked.inj d (List.mem_append_left _ hd) step hstep
  exact (List.pairwise_append.mp hranked.newest).2.2 d hd step List.mem_cons_self

def completed (step : RestoreStep) : String × GuardedUndoExecuteResult :=
  (step.snapshotId, .completed)

lemma restoreSteps_ok (h : Reports rank done restored current) (hranked : Ranked rank (done ++ steps))
    (hok : (restoreSteps restorer steps restored current world).result = .ok turns) :
    (restoreSteps restorer steps restored current world).executed = steps.map completed ∧
      (∀ turnId, turnId ∈ turns ↔ turnId ∈ (done ++ steps).map RestoreStep.turnId) ∧
      turns.Pairwise fun turnId turnId' => rank turnId' < rank turnId := by
  induction steps generalizing done restored current world with
  | nil =>
      cases hok
      rw [List.append_nil]
      exact ⟨rfl, h.mem, h.newest⟩
  | cons step steps ih =>
      rcases restoreSteps_cons restorer step steps restored current world with
        ⟨_, _, _, _, hstop, _⟩ | ⟨world', hnext⟩
      · rw [hstop] at hok
        cases hok
      · rw [hnext] at hok ⊢
        have hreports := h.next_of_ranked hranked
        rw [List.append_cons] at hranked ⊢
        obtain ⟨hexecuted, hturns, hnewest⟩ := ih hreports hranked hok
        refine ⟨?_, hturns, hnewest⟩
        rw [RestoreRun.after, hexecuted]
        rfl

structure StoppedAt (rank : String → ℕ) (done before : List RestoreStep) (step : RestoreStep)
    (executed : List (String × GuardedUndoExecuteResult)) (stop : RewindFilesStopped) : Prop where
  turnId : stop.turnId = step.turnId
  project : stop.project = step.chain.project
  executed : executed = before.map completed ∨
    ∃ result ≠ .completed, executed = before.map completed ++ [(step.snapshotId, result)]
  restored : Closed rank (done ++ before) step.turnId stop.restoredTurnIds

lemma restoreSteps_stopped (h : Reports rank done restored current)
    (hranked : Ranked rank (done ++ steps))
    (hstop : (restoreSteps restorer steps restored current world).result = .error stop) :
    ∃ before step after, steps = before ++ step :: after ∧ StoppedAt rank done before step
      (restoreSteps restorer steps restored current world).executed stop := by
  induction steps generalizing done restored current world with
  | nil => cases hstop
  | cons step steps ih =>
      rcases restoreSteps_cons restorer step steps restored current world with
        ⟨executed, outcome, reasonCode, world', hrun, hexecuted⟩ | ⟨world', hnext⟩
      · rw [hrun] at hstop ⊢
        cases hstop
        refine ⟨[], step, steps, rfl, rfl, rfl, hexecuted, ?_⟩
        rw [List.append_nil]
        exact h.close fun d hd => (List.pairwise_append.mp hranked.newest).2.2 d hd step List.mem_cons_self
      · rw [hnext] at hstop ⊢
        have hreports := h.next_of_ranked hranked
        rw [List.append_cons] at hranked
        obtain ⟨before, step', after, hsteps, hat⟩ := ih hreports hranked hstop
        refine ⟨step :: before, step', after, by rw [hsteps, List.cons_append], hat.turnId, hat.project,
          ?_, ?_⟩
        · rw [RestoreRun.after]
          rcases hat.executed with hall | ⟨result, hresult, hall⟩
          · exact .inl (by rw [hall, List.map_cons, completed])
          · exact .inr ⟨result, hresult, by rw [hall, List.map_cons, List.cons_append, completed]⟩
        · rw [List.append_cons]
          exact hat.restored

end Steps

def Restorable.completed (capture : Restorable) : String × GuardedUndoExecuteResult :=
  (capture.snapshotId, .completed)

/-- A stop at `capture`: the captures before it are restored, those after it are not begun, and exactly
the newer turns are reported. -/
structure FrontierAt (facts : List TurnFileFacts) (before : List Restorable) (capture : Restorable)
    (after : List Restorable) (executed : List (String × GuardedUndoExecuteResult))
    (stop : RewindFilesStopped) : Prop where
  turnId : stop.turnId = capture.facts.turnId
  project : stop.project = projectName facts capture.facts.workspaceId
  calls : executed = before.map Restorable.completed ∨
    ∃ result ≠ .completed, executed = before.map Restorable.completed ++ [(capture.snapshotId, result)]
  restored : ∀ turnId, turnId ∈ stop.restoredTurnIds ↔
    (∃ newer ∈ before ++ capture :: after, newer.facts.turnId = turnId) ∧
      turnRank facts capture.facts.turnId < turnRank facts turnId
  complete : ∀ newer ∈ before ++ capture :: after, newer.facts.turnId ∈ stop.restoredTurnIds →
    newer.completed ∈ executed
  newest : stop.restoredTurnIds.Pairwise fun turnId turnId' =>
    turnRank facts turnId' < turnRank facts turnId

structure Frontier {σ : Type} (facts : List TurnFileFacts) (sorted : List Restorable)
    (run : RestoreRun σ) : Prop where
  executed : run.executed.map Prod.fst <+: sorted.map Restorable.snapshotId
  once : ∀ snapshotId, (run.executed.map Prod.fst).count snapshotId ≤
    ((facts.filterMap restorable).map Restorable.snapshotId).count snapshotId
  ok : ∀ turns, run.result = .ok turns → run.executed = sorted.map Restorable.completed ∧
    (∀ turnId, turnId ∈ turns ↔ ∃ capture ∈ facts.filterMap restorable, capture.facts.turnId = turnId) ∧
    turns.Pairwise fun turnId turnId' => turnRank facts turnId' < turnRank facts turnId
  stopped : ∀ stop, run.result = .error stop → ∃ before capture after,
    sorted = before ++ capture :: after ∧ FrontierAt facts before capture after run.executed stop

section Restore

variable {facts : List TurnFileFacts} {places : List Placed}

lemma ranked_places (hplaced : ∀ place ∈ places, place ∈ placed facts)
    (hsorted : (places.map Placed.capture).Pairwise (NewestFirst facts)) :
    Ranked (turnRank facts) (places.map Placed.step) := by
  constructor
  · refine List.pairwise_map.mpr ((List.pairwise_map.mp hsorted).imp fun hle => ?_)
    rcases hle with hlt | ⟨heq, _⟩
    · exact hlt.le
    · exact heq.le
  · intro step hstep step' hstep' hrank
    obtain ⟨place, hplace, rfl⟩ := List.mem_map.mp hstep
    obtain ⟨place', hplace', rfl⟩ := List.mem_map.mp hstep'
    exact turnRank_inj (facts_of_placed (hplaced place hplace)).1
      (facts_of_placed (hplaced place' hplace')).1 hrank

lemma map_completed (places : List Placed) :
    (places.map Placed.step).map completed = (places.map Placed.capture).map Restorable.completed := by
  rw [List.map_map, List.map_map]
  rfl

lemma mem_map_turnId {turnId : String} :
    turnId ∈ (places.map Placed.step).map RestoreStep.turnId ↔
      ∃ capture ∈ places.map Placed.capture, capture.facts.turnId = turnId := by
  rw [List.map_map, ← List.mem_map (f := fun capture : Restorable => capture.facts.turnId), List.map_map]
  rfl

lemma FrontierAt.of_stoppedAt {before after : List Placed} {place : Placed}
    {executed : List (String × GuardedUndoExecuteResult)} {stop : RewindFilesStopped}
    (hplaced : ∀ place' ∈ before ++ place :: after, place' ∈ placed facts)
    (hsorted : ((before ++ place :: after).map Placed.capture).Pairwise (NewestFirst facts))
    (hat : StoppedAt (turnRank facts) [] (before.map Placed.step) place.step executed stop) :
    FrontierAt facts (before.map Placed.capture) place.capture (after.map Placed.capture) executed
      stop := by
  have hranked := ranked_places hplaced hsorted
  rw [List.map_append, List.map_cons] at hranked
  obtain ⟨_, hrest, hcross⟩ := List.pairwise_append.mp hranked.newest
  have hbefore : ∀ place' ∈ before, place.capture.facts.turnId ≠ place'.capture.facts.turnId →
      turnRank facts place.capture.facts.turnId < turnRank facts place'.capture.facts.turnId := by
    intro place' hplace' hne
    refine lt_of_le_of_ne (hcross _ (List.mem_map_of_mem hplace') _ List.mem_cons_self) fun heq => hne ?_
    exact turnRank_inj (facts_of_placed (hplaced _ (List.mem_append_right _ List.mem_cons_self))).1
      (facts_of_placed (hplaced _ (List.mem_append_left _ hplace'))).1 heq
  have hnewer : ∀ newer ∈ before.map Placed.capture ++ place.capture :: after.map Placed.capture,
      turnRank facts place.capture.facts.turnId < turnRank facts newer.facts.turnId →
      newer ∈ before.map Placed.capture := by
    intro newer hnewer hlt
    rcases List.mem_append.mp hnewer with hmem | hmem
    · exact hmem
    · rcases List.mem_cons.mp hmem with rfl | hmem
      · exact absurd hlt (lt_irrefl _)
      · obtain ⟨place', hplace', rfl⟩ := List.mem_map.mp hmem
        have hle := (List.pairwise_cons.mp hrest).1 _ (List.mem_map_of_mem hplace')
        exact absurd hlt (not_lt.mpr hle)
  have hrestored : ∀ turnId, turnId ∈ stop.restoredTurnIds ↔
      (∃ newer ∈ before.map Placed.capture ++ place.capture :: after.map Placed.capture,
        newer.facts.turnId = turnId) ∧
        turnRank facts place.capture.facts.turnId < turnRank facts turnId := by
    intro turnId
    rw [hat.restored.mem, List.nil_append, mem_map_turnId]
    constructor
    · rintro ⟨⟨newer, hmem, rfl⟩, hne⟩
      obtain ⟨place', hplace', rfl⟩ := List.mem_map.mp hmem
      exact ⟨⟨_, List.mem_append_left _ hmem, rfl⟩, hbefore place' hplace' (Ne.symm hne)⟩
    · rintro ⟨⟨newer, hmem, rfl⟩, hlt⟩
      refine ⟨⟨newer, hnewer newer hmem hlt, rfl⟩, fun heq => ?_⟩
      have heq' : newer.facts.turnId = place.capture.facts.turnId := heq
      rw [heq'] at hlt
      exact lt_irrefl _ hlt
  refine ⟨hat.turnId, ?_, ?_, hrestored, ?_, hat.restored.newest⟩
  · rw [hat.project]
    exact project_of_placed (hplaced _ (List.mem_append_right _ List.mem_cons_self))
  · rw [← map_completed]
    exact hat.executed
  · intro newer hmem hturn
    have hdone : newer.completed ∈ (before.map Placed.step).map completed := by
      rw [map_completed]
      exact List.mem_map_of_mem (hnewer newer hmem ((hrestored _).mp hturn).2)
    rcases hat.executed with hall | ⟨result, _, hall⟩
    · rw [hall]
      exact hdone
    · rw [hall]
      exact List.mem_append_left _ hdone

lemma map_fst_completed (captures : List Restorable) :
    (captures.map Restorable.completed).map Prod.fst = captures.map Restorable.snapshotId := by
  rw [List.map_map]
  rfl

end Restore

/-- For whatever Guarded Undo answers: the captures that are executed begin the list of all captures in
order, and a stop reports the turns newer than its own. -/
theorem restoreFiles_frontier {σ : Type} (restorer : RewindFileRestorer σ) {facts : List TurnFileFacts}
    {chains : List ProjectChain} (h : restorableChains facts = .ok chains) (world : σ) :
    ∃ sorted : List Restorable, sorted.Perm (facts.filterMap restorable) ∧
      sorted.Pairwise (NewestFirst facts) ∧ Frontier facts sorted (restoreFiles restorer facts world) := by
  obtain ⟨places, hsteps, hplaced, hperm, hsorted⟩ := restoreOrder_eq h
  have hranked := ranked_places hplaced hsorted
  have hrun : restoreFiles restorer facts world =
      restoreSteps restorer (places.map Placed.step) [] none world := by
    simp only [restoreFiles, h, hsteps]
  have hstopped : ∀ stop, (restoreFiles restorer facts world).result = .error stop →
      ∃ before capture after, places.map Placed.capture = before ++ capture :: after ∧
        FrontierAt facts before capture after (restoreFiles restorer facts world).executed stop := by
    intro stop hstop
    rw [hrun] at hstop ⊢
    obtain ⟨before, step, after, hsplit, hat⟩ := restoreSteps_stopped reports_nil hranked hstop
    obtain ⟨before, rest, rfl, rfl, hrest⟩ := List.map_eq_append_iff.mp hsplit
    obtain ⟨place, after, rfl, rfl, rfl⟩ := List.map_eq_cons_iff.mp hrest
    exact ⟨_, _, _, by rw [List.map_append, List.map_cons], .of_stoppedAt hplaced hsorted hat⟩
  have hok : ∀ turns, (restoreFiles restorer facts world).result = .ok turns →
      (restoreFiles restorer facts world).executed =
        (places.map Placed.capture).map Restorable.completed ∧
      (∀ turnId, turnId ∈ turns ↔
        ∃ capture ∈ facts.filterMap restorable, capture.facts.turnId = turnId) ∧
      turns.Pairwise fun turnId turnId' => turnRank facts turnId' < turnRank facts turnId := by
    intro turns hturns
    rw [hrun] at hturns ⊢
    obtain ⟨hexecuted, hmem, hnewest⟩ := restoreSteps_ok reports_nil hranked hturns
    refine ⟨by rw [hexecuted, map_completed], fun turnId => ?_, hnewest⟩
    rw [hmem, List.nil_append, mem_map_turnId]
    exact exists_congr fun capture => and_congr_left' hperm.mem_iff
  have hbegins : (restoreFiles restorer facts world).executed.map Prod.fst <+:
      (places.map Placed.capture).map Restorable.snapshotId := by
    cases hresult : (restoreFiles restorer facts world).result with
    | ok turns =>
        have hall : (restoreFiles restorer facts world).executed.map Prod.fst =
            (places.map Placed.capture).map Restorable.snapshotId := by
          rw [(hok turns hresult).1, map_fst_completed]
        exact hall ▸ List.prefix_rfl
    | error stop =>
        obtain ⟨before, capture, after, hsplit, hat⟩ := hstopped stop hresult
        rw [hsplit, List.map_append, List.map_cons]
        rcases hat.calls with hcalls | ⟨result, _, hcalls⟩
        · rw [hcalls, map_fst_completed]
          exact List.prefix_append _ _
        · rw [hcalls, List.map_append, map_fst_completed]
          exact ⟨after.map Restorable.snapshotId, by rw [List.append_assoc]; rfl⟩
  refine ⟨places.map Placed.capture, hperm, hsorted, hbegins, fun snapshotId => ?_, hok, hstopped⟩
  rw [← (hperm.map Restorable.snapshotId).count_eq]
  exact hbegins.sublist.count_le _

def changedFacts (turnId project : String) : TurnFileFacts where
  turnId := turnId
  workspaceId := project
  project := some project
  snapshotId := some (turnId ++ project)
  changedFileCount := some 1
  captureState := some "eligible"
  captureReason := none

def refusesOlderWeb : RewindFileRestorer Unit where
  prepare := fun snapshotId world =>
    (if snapshotId = "olderweb" then .blocked "content_changed" else .ready snapshotId true, world)
  execute := fun _ world => (.completed, world)

def olderAndNewer : List TurnFileFacts :=
  [changedFacts "older" "api", changedFacts "older" "web", changedFacts "newer" "web"]

theorem older_turn_stops : ∃ sorted : List Restorable,
    sorted.Perm (olderAndNewer.filterMap restorable) ∧ sorted.Pairwise (NewestFirst olderAndNewer) ∧
      Frontier olderAndNewer sorted (restoreFiles refusesOlderWeb olderAndNewer ()) :=
  restoreFiles_frontier refusesOlderWeb rfl ()

end DevCommandCenter.Rewind
