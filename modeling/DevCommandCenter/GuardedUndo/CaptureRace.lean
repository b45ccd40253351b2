import DevCommandCenter.GuardedUndo.CaptureStages
import DevCommandCenter.GuardedUndo.TurnReceipts

/-! No restore set becomes eligible over a concurrent mutation, unless one slips in between the last
comparison of a generation and the row. -/

namespace DevCommandCenter

open Library WorkspaceMutationCoordinator

namespace CoordinatedGuards

variable {s next : CoordinatedGuards} {action : CoordinatorAction} {answer : CoordinatorAnswer}
  {r : PhysicalRootId} {edge receipt : ℕ} {roots rootIds : List PhysicalRootId}

lemma step_generation_acquired (h : s.Agreed) (hstep : s.step action = some (answer, next))
    (hr : r ∈ answer.acquiredRoots) :
    next.coordinator.generation r = s.coordinator.generation r + 1 := by
  cases step_effect h.1.retained hstep with
  | @mutation _ guard c _ _ hacquired =>
      have hin : r ∈ guard.roots := hr
      have hlookup := hacquired.generations r
      rw [if_pos hin] at hlookup
      rw [generation, hlookup, Option.getD_some]
  | _ => cases hr

lemma step_held (h : s.Agreed) (hstep : s.step action = some (answer, next)) {m : ℕ}
    {held : MutationGuard} (hheld : next.mutations.lookup m = some held) :
    s.mutations.lookup m = some held ∨ held.roots = answer.acquiredRoots := by
  cases step_effect h.1.retained hstep with
  | mutation _ _ =>
      rw [Table.lookup_insert_eq] at hheld
      split at hheld
      · cases hheld
        exact .inr rfl
      · exact .inl hheld
  | mutationReleased _ =>
      rw [Table.lookup_erase_eq] at hheld
      split at hheld
      · cases hheld
      · exact .inl hheld
  | _ => exact .inl hheld

lemma step_edge_kept (h : s.Agreed) (hstep : s.step action = some (answer, next))
    (hedge : s.edges.lookup edge = some roots) (hkeep : action ≠ .dropCaptureEdges edge) :
    next.edges.lookup edge = some roots := by
  cases step_effect h.1.retained hstep with
  | edges hfresh _ =>
      rw [Table.lookup_insert_eq, if_neg, hedge]
      rintro rfl
      exact hfresh (Table.mem_of_lookup hedge)
  | edgesReleased _ =>
      rw [Table.lookup_erase_eq, if_neg, hedge]
      rintro rfl
      exact hkeep rfl
  | _ => exact hedge

lemma step_turn_kept {guard : TurnIntervalGuard} (h : s.Agreed)
    (hstep : s.step action = some (answer, next)) (hguard : s.turns.lookup receipt = some guard)
    (hfinish : action ≠ .finishTurn receipt) (hdrop : action ≠ .dropTurn receipt)
    (hend : action ≠ .endDroppedTurn receipt) : next.turns.lookup receipt = some guard := by
  cases step_effect h.1.retained hstep with
  | begun _ hbegun =>
      rw [Table.lookup_insert_eq, if_neg (hbegun.receipt_fresh h.1 hguard), hguard]
  | finished _ =>
      rw [endTurn, Table.lookup_erase_eq, if_neg, hguard]
      rintro rfl
      exact hfinish rfl
  | dropping _ =>
      rw [Table.lookup_insert_eq, if_neg, hguard]
      rintro rfl
      exact hdrop rfl
  | ended _ =>
      rw [endTurn, Table.lookup_erase_eq, if_neg, hguard]
      rintro rfl
      exact hend rfl
  | _ => exact hguard

lemma step_spares_edge (h : s.Agreed) (hstep : s.step action = some (answer, next))
    (hedge : s.edges.lookup edge = some roots) (hr : r ∈ roots) : r ∉ answer.acquiredRoots := by
  intro hacquiredRoot
  cases step_effect h.1.retained hstep with
  | mutation _ hacquired =>
      have hfree := (hacquired.admitted r hacquiredRoot).2
      have hcount : 0 < s.edges.count fun roots => decide (r ∈ roots) :=
        Table.count_pos.mpr ⟨edge, roots, hedge, decide_eq_true hr⟩
      rw [← h.1.edgeCount, hfree] at hcount
      exact lt_irrefl 0 hcount
  | _ => cases hacquiredRoot

lemma step_edgesAcquired
    (hstep : s.step (.tryAcquireCaptureEdges edge rootIds) = some (.edgesAcquired roots, next)) :
    (∀ r, r ∈ roots ↔ r ∈ rootIds) ∧ next.edges.lookup edge = some roots := by
  simp only [step] at hstep
  split at hstep
  · cases hstep
  · split at hstep
    · next l c hcall =>
        cases hstep
        exact ⟨(tryAcquireCaptureEdges_ok hcall).1, AList.lookup_insert _⟩
    · cases hstep

end CoordinatedGuards

namespace CaptureRace

open CoordinatedGuards

variable {s next : CaptureRace} {guards : CoordinatedGuards} {action : CoordinatorAction}
  {answer : CoordinatorAnswer} {handle : CaptureHandle} {stage : CaptureStage}
  {root : PhysicalRootId} {baseline edge : ℕ}

def Since (s : CaptureRace) (root : PhysicalRootId) (baseline : ℕ) : Prop :=
  baseline ≤ s.guards.coordinator.generation root ∧
    (s.guards.coordinator.generation root = baseline → root ∉ s.acquired)

structure Watches (s : CaptureRace) (handle : CaptureHandle) : Prop where
  compared : handle.coordinatedGenerations.map Prod.fst = handle.roots.ids
  since : ∀ root baseline, (root, baseline) ∈ handle.coordinatedGenerations → s.Since root baseline
  held : ∀ r ∈ handle.roots.ids, ∀ m held, s.guards.mutations.lookup m = some held →
    r ∈ held.roots → r ∈ s.acquired

lemma Watches.at_stage (h : s.Watches handle) (stage : CaptureStage) :
    Watches { s with stage := stage } handle :=
  ⟨h.compared, h.since, h.held⟩

def PhaseHolds (s : CaptureRace) (handle : CaptureHandle) : FinishPhase → Prop
  | .comparingGenerations todo => ∀ entry ∈ todo, entry ∈ handle.coordinatedGenerations
  | .comparingAgain _ done todo =>
      (∃ passed, passed ++ todo = handle.coordinatedGenerations ∧ passed.map Prod.fst = done) ∧
        ∀ r ∈ done, r ∉ s.acquired
  | .finalizing _ => ∀ r ∈ handle.roots.ids, r ∉ s.acquired
  | _ => True

def StageHolds (s : CaptureRace) : CaptureStage → Prop
  | .intervalBegun roots interval => s.guards.turns.lookup interval.receipt = some interval ∧
      (∀ r ∈ roots.ids, r ∈ interval.roots.map Prod.fst) ∧
      ∀ root baseline, (root, baseline) ∈ interval.roots → s.Since root baseline
  | .admitted handle | .capturingBaseline handle _ | .handedOut handle => s.Watches handle
  | .finishing handle edge phase => s.Watches handle ∧
      (∃ roots, s.guards.edges.lookup edge = some roots ∧ handle.roots.root ∈ roots) ∧
      s.PhaseHolds handle phase
  | _ => True

def Holds (s : CaptureRace) : Prop :=
  s.guards.Agreed ∧ s.StageHolds s.stage

section Calls

variable (hs : s.guards.Agreed) (hstep : s.guards.step action = some (answer, guards))

include hs hstep

lemma Since.call (h : s.Since root baseline) :
    Since ⟨guards, stage, s.acquired ++ answer.acquiredRoots⟩ root baseline := by
  obtain ⟨hle, hfree⟩ := h
  have hmoved := step_generation_le hs hstep root
  refine ⟨hle.trans hmoved, fun hsame => ?_⟩
  have hstill : s.guards.coordinator.generation root = baseline := by
    dsimp only at hsame
    omega
  rw [List.mem_append, not_or]
  refine ⟨hfree hstill, fun hacquired => ?_⟩
  have hnext := step_generation_acquired hs hstep hacquired
  dsimp only at hsame
  omega

lemma Watches.call (h : s.Watches handle) :
    Watches ⟨guards, stage, s.acquired ++ answer.acquiredRoots⟩ handle where
  compared := h.compared
  since root baseline hentry := (h.since root baseline hentry).call hs hstep
  held r hr m held hheld hin := by
    rw [List.mem_append]
    rcases step_held hs hstep hheld with hold | hnew
    · exact .inl (h.held r hr m held hold hin)
    · exact .inr (hnew ▸ hin)

end Calls

lemma PhaseHolds.call {phase : FinishPhase}
    (hkeep : ∀ r ∈ (CaptureStage.finishing handle edge phase).settled, r ∉ answer.acquiredRoots)
    (h : s.PhaseHolds handle phase) :
    PhaseHolds ⟨guards, stage, s.acquired ++ answer.acquiredRoots⟩ handle phase := by
  cases phase with
  | comparingAgain clean done todo =>
      refine ⟨h.1, fun r hr => ?_⟩
      rw [List.mem_append, not_or]
      exact ⟨h.2 r hr, hkeep r hr⟩
  | finalizing retried =>
      intro r hr
      rw [List.mem_append, not_or]
      exact ⟨h r hr, hkeep r hr⟩
  | comparingGenerations todo => exact h
  | _ => trivial

lemma settled_kept (hs : s.guards.Agreed) (hstep : s.guards.step action = some (answer, guards))
    (hclear : s.overtaken (.other action) = false) {phase : FinishPhase}
    (hstage : s.stage = .finishing handle edge phase) {roots : List PhysicalRootId}
    (hedge : s.guards.edges.lookup edge = some roots) (hroot : handle.roots.root ∈ roots) :
    ∀ r ∈ (CaptureStage.finishing handle edge phase).settled, r ∉ answer.acquiredRoots := by
  intro r hr hacquired
  by_cases hsame : r = handle.roots.root
  · subst hsame
    exact step_spares_edge hs hstep hedge hroot hacquired
  · simp only [overtaken, hstep, Option.any_some, List.any_eq_false] at hclear
    have hnot := hclear r hacquired
    rw [hstage] at hnot
    simp only [hr, decide_true, Bool.true_and, CaptureStage.root, bne_iff_ne, ne_eq,
      Option.some.injEq, not_not] at hnot
    exact hsame hnot.symm

lemma other_holds (h : s.Holds) (hown : s.stage.owns action = false)
    (hclear : s.overtaken (.other action) = false)
    (hstep : s.guards.step action = some (answer, guards)) :
    Holds ⟨guards, s.stage, s.acquired ++ answer.acquiredRoots⟩ := by
  obtain ⟨hs, hholds⟩ := h
  refine ⟨step_agreed hs hstep, ?_⟩
  dsimp only
  cases hstage : s.stage with
  | intervalBegun roots interval =>
      rw [hstage] at hholds hown
      obtain ⟨hguard, hin, hsince⟩ := hholds
      refine ⟨step_turn_kept hs hstep hguard ?_ ?_ ?_, hin, fun root baseline hentry =>
        (hsince root baseline hentry).call hs hstep⟩
      · rintro rfl
        simp [CaptureStage.owns, CaptureStage.receipt] at hown
      · rintro rfl
        simp [CaptureStage.owns, CaptureStage.receipt] at hown
      · rintro rfl
        simp [CaptureStage.owns, CaptureStage.receipt] at hown
  | admitted handle | capturingBaseline handle _ | handedOut handle =>
      rw [hstage] at hholds
      exact Watches.call hs hstep hholds
  | finishing handle edge phase =>
      rw [hstage] at hholds hown
      obtain ⟨hwatches, ⟨roots, hedge, hroot⟩, hphase⟩ := hholds
      refine ⟨hwatches.call hs hstep, ⟨roots, step_edge_kept hs hstep hedge ?_, hroot⟩,
        hphase.call (settled_kept hs hstep hclear hstage hedge hroot)⟩
      rintro rfl
      simp [CaptureStage.owns, CaptureStage.edge] at hown
  | idle | eligible | ended => trivial

lemma own_cases {b : CaptureAnswer} {after : CoordinatorAnswer → CaptureStage}
    (h : s.own action after = some (b, next)) : ∃ answer guards,
      s.guards.step action = some (answer, guards) ∧ b = .proceeded ∧
      next = ⟨guards, after answer, s.acquired ++ answer.acquiredRoots⟩ := by
  rw [own, Option.map_eq_some_iff] at h
  obtain ⟨⟨answer, moved⟩, hperform, heq⟩ := h
  rw [perform, Option.map_eq_some_iff] at hperform
  obtain ⟨⟨answer', guards⟩, hstep, heq'⟩ := hperform
  cases heq
  cases heq'
  exact ⟨_, _, hstep, rfl, rfl⟩

lemma generationFor_mem {interval : TurnIntervalGuard} {root : PhysicalRootId} {generation : ℕ}
    (h : interval.generationFor root = some generation) : (root, generation) ∈ interval.roots := by
  obtain ⟨⟨r, g⟩, hfound, rfl⟩ := Option.map_eq_some_iff.mp h
  have hsame : r = root := by simpa using List.find?_some hfound
  exact hsame ▸ List.mem_of_find?_eq_some hfound

lemma coordinatedGenerations_some {interval : TurnIntervalGuard} {roots : List PhysicalRootId}
    {generations : List (PhysicalRootId × ℕ)}
    (h : coordinatedGenerations interval roots = some generations) :
    generations.map Prod.fst = roots ∧ ∀ entry ∈ generations, entry ∈ interval.roots := by
  induction roots generalizing generations with
  | nil =>
      cases h
      exact ⟨rfl, fun entry hentry => absurd hentry List.not_mem_nil⟩
  | cons root roots ih =>
      simp only [coordinatedGenerations, Option.bind_eq_bind, Option.bind_eq_some_iff] at h
      obtain ⟨generation, hgeneration, rest, hrest, heq⟩ := h
      cases heq
      obtain ⟨hroots, hmem⟩ := ih hrest
      refine ⟨by rw [List.map_cons, hroots], fun entry hentry => ?_⟩
      rcases List.mem_cons.mp hentry with rfl | hlater
      · exact generationFor_mem hgeneration
      · exact hmem entry hlater

lemma begin_holds {roots : CoordinatedRoots} {owner : TurnOwner} {b : CaptureAnswer}
    (hs : s.guards.Agreed)
    (h : own { s with acquired := [] } (.beginTurnIntervals roots.ids owner) (fun
      | .turnBegun interval => .intervalBegun roots interval
      | _ => .ended) = some (b, next)) : next.Holds := by
  obtain ⟨answer, guards, hstep, -, rfl⟩ := own_cases h
  refine ⟨step_agreed hs hstep, ?_⟩
  cases answer with
  | turnBegun interval =>
      obtain ⟨l, conflict, hmem, hbegun, hlive⟩ := step_beginTurnIntervals hs hstep
      refine ⟨hlive, fun r hr => ?_, fun root baseline hentry => ⟨?_, fun _ => List.not_mem_nil⟩⟩
      · rw [hbegun.guard_root_ids]
        exact (hmem r).mpr hr
      · rw [hbegun.guard_roots] at hentry
        obtain ⟨r, hr, heq⟩ := List.mem_map.mp hentry
        cases heq
        dsimp only
        rw [show guards.coordinator.generation root =
          (guards.coordinator.generations.lookup root).getD 0 from rfl, hbegun.generations,
          if_pos hr, Option.getD_some]
  | _ => trivial

lemma admitted_watches {roots : CoordinatedRoots} {interval : TurnIntervalGuard} {generation : ℕ}
    {generations : List (PhysicalRootId × ℕ)} (hs : s.guards.Agreed)
    (hbegun : s.StageHolds (.intervalBegun roots interval))
    (hclean : s.receiptState interval = some (.clean generation))
    (hgenerations : coordinatedGenerations interval roots.ids = some generations) :
    s.Watches ⟨roots, interval, generation, generations⟩ := by
  obtain ⟨hguard, hin, hsince⟩ := hbegun
  obtain ⟨hroots, hmem⟩ := coordinatedGenerations_some hgenerations
  refine ⟨hroots, fun root baseline hentry => hsince root baseline (hmem _ hentry), ?_⟩
  intro r hr m held hheld hrheld
  obtain ⟨⟨_, baseline⟩, hentry, rfl⟩ := List.mem_map.mp (hin r hr)
  obtain ⟨-, hfree, -⟩ := hs.2 interval.receipt interval generation hguard hclean _ baseline hentry
  exact absurd hrheld (hs.1.not_held hfree hheld)

lemma generationIs_clear (hwatches : s.Watches handle)
    (hentry : (root, baseline) ∈ handle.coordinatedGenerations)
    (his : s.generationIs root baseline = true) : root ∉ s.acquired := by
  rw [generationIs, Bool.and_eq_true, beq_iff_eq] at his
  exact (hwatches.since root baseline hentry).2 his.2

lemma finishStep_holds {phase : FinishPhase} {b : CaptureAnswer} (hs : s.guards.Agreed)
    (hholds : s.StageHolds (.finishing handle edge phase))
    (h : s.finishStep handle edge phase = some (b, next)) : next.Holds := by
  obtain ⟨hwatches, hedge, hphase⟩ := hholds
  have hended : Holds { s with stage := .ended } := ⟨hs, trivial⟩
  cases phase with
  | inspecting =>
      simp only [finishStep, goTo] at h
      split at h
      · cases h
        exact ⟨hs, hwatches.at_stage _, hedge, fun entry hentry => hentry⟩
      · cases h
        exact hended
  | comparingGenerations todo =>
      cases todo with
      | nil =>
          cases h
          exact ⟨hs, hwatches.at_stage _, hedge, trivial⟩
      | cons entry todo =>
          simp only [finishStep, goTo] at h
          split at h
          · cases h
            exact ⟨hs, hwatches.at_stage _, hedge, fun entry hentry => hphase entry (List.mem_cons_of_mem _ hentry)⟩
          · cases h
            exact hended
  | comparingFiles =>
      obtain ⟨answer, guards, hstep, -, rfl⟩ := own_cases h
      refine ⟨step_agreed hs hstep, ?_⟩
      cases answer with
      | turnFinished _ _ =>
          obtain ⟨roots, hlookup, hroot⟩ := hedge
          exact ⟨hwatches.call hs hstep,
            ⟨roots, step_edge_kept hs hstep hlookup (by rintro ⟨⟩), hroot⟩, trivial⟩
      | _ => trivial
  | intervalFinished =>
      cases h
      refine ⟨hs, hwatches.at_stage _, hedge, ⟨[], rfl, rfl⟩, fun r hr => absurd hr List.not_mem_nil⟩
  | comparingAgain clean done todo =>
      obtain ⟨⟨passed, happend, hdone⟩, hclear⟩ := hphase
      cases todo with
      | nil =>
          simp only [finishStep, goTo] at h
          split at h
          · cases h
            refine ⟨hs, hwatches.at_stage _, hedge, fun r hr => hclear r ?_⟩
            rw [List.append_nil] at happend
            rwa [← hdone, happend, hwatches.compared]
          · cases h
            exact hended
      | cons entry todo =>
          simp only [finishStep, goTo] at h
          split at h
          · next his =>
              cases h
              have hentry : entry ∈ handle.coordinatedGenerations := by
                rw [← happend]
                exact List.mem_append_right _ List.mem_cons_self
              have hquiet : entry.1 ∉ s.acquired := generationIs_clear hwatches hentry his
              refine ⟨hs, hwatches.at_stage _, hedge, ⟨passed ++ [entry], ?_, ?_⟩, fun r hr => ?_⟩
              · rw [List.append_assoc, List.singleton_append, happend]
              · rw [List.map_append, hdone]
                rfl
              · rcases List.mem_append.mp hr with hold | hnew
                · exact hclear r hold
                · rw [List.mem_singleton.mp hnew]
                  exact hquiet
          · cases h
            exact hended
  | finalizing retried => cases h

lemma finishStep_answer {phase : FinishPhase} {b : CaptureAnswer}
    (h : s.finishStep handle edge phase = some (b, next)) : b = .proceeded := by
  cases phase with
  | comparingFiles =>
      obtain ⟨_, _, -, hanswer, -⟩ := own_cases h
      exact hanswer
  | comparingGenerations todo | comparingAgain clean done todo =>
      cases todo with
      | nil =>
          simp only [finishStep, goTo] at h
          first
          | split at h <;> cases h <;> rfl
          | cases h; rfl
      | cons entry todo =>
          simp only [finishStep, goTo] at h
          split at h <;> cases h <;> rfl
  | inspecting =>
      simp only [finishStep, goTo] at h
      split at h <;> cases h <;> rfl
  | intervalFinished =>
      cases h
      rfl
  | finalizing retried => cases h

lemma acquireEdge_holds {b : CaptureAnswer} (h : s.Holds)
    (hstep : s.step (.acquireEdge edge) = some (b, next)) : next.Holds := by
  obtain ⟨hs, hholds⟩ := h
  simp only [step] at hstep
  split at hstep
  · next handle hstage =>
      rw [hstage] at hholds
      obtain ⟨answer, guards, hcall, -, rfl⟩ := own_cases hstep
      refine ⟨step_agreed hs hcall, ?_⟩
      cases answer with
      | edgesAcquired _ => exact Watches.call hs hcall hholds
      | _ => trivial
  · next handle hstage =>
      rw [hstage] at hholds
      obtain ⟨answer, guards, hcall, -, rfl⟩ := own_cases hstep
      refine ⟨step_agreed hs hcall, ?_⟩
      cases answer with
      | edgesAcquired roots =>
          obtain ⟨hmem, hlookup⟩ := step_edgesAcquired hcall
          exact ⟨Watches.call hs hcall hholds,
            ⟨roots, hlookup, (hmem _).mpr (List.mem_singleton_self _)⟩, trivial⟩
      | _ => trivial
  · cases hstep

lemma proceed_holds {b : CaptureAnswer} (h : s.Holds)
    (hstep : s.step .proceed = some (b, next)) : next.Holds := by
  obtain ⟨hs, hholds⟩ := h
  simp only [step] at hstep
  split at hstep
  · next roots interval hstage =>
      rw [hstage] at hholds
      split at hstep
      · next generation generations hclean hgenerations =>
          cases hstep
          exact ⟨hs, admitted_watches hs hholds hclean hgenerations⟩
      · cases hstep
        exact ⟨hs, trivial⟩
  · next handle edge hstage =>
      rw [hstage] at hholds
      obtain ⟨answer, guards, hcall, -, rfl⟩ := own_cases hstep
      exact ⟨step_agreed hs hcall, Watches.call hs hcall hholds⟩
  · next handle edge phase hstage =>
      rw [hstage] at hholds
      exact finishStep_holds hs hholds hstep
  · cases hstep

lemma step_holds {a : CaptureAction} {b : CaptureAnswer} (h : s.Holds)
    (hclear : s.overtaken a = false) (hstep : s.step a = some (b, next)) : next.Holds := by
  cases a with
  | other action =>
      simp only [step] at hstep
      split at hstep
      · cases hstep
      · next hown =>
          obtain ⟨⟨answer, after⟩, hperform, heq⟩ := Option.map_eq_some_iff.mp hstep
          obtain ⟨⟨answer', guards⟩, hcall, heq'⟩ := Option.map_eq_some_iff.mp hperform
          cases heq
          cases heq'
          exact other_holds h (Bool.not_eq_true _ ▸ hown) hclear hcall
  | begin roots owner =>
      simp only [step] at hstep
      split at hstep
      · exact begin_holds h.1 hstep
      · cases hstep
  | acquireEdge edge => exact acquireEdge_holds h hstep
  | proceed => exact proceed_holds h hstep
  | finalizeTurnRestoreSet ok =>
      obtain ⟨hs, hholds⟩ := h
      simp only [step] at hstep
      split at hstep
      · next handle edge retried hstage =>
          rw [hstage] at hholds
          split at hstep
          · cases hstep
            exact ⟨hs, trivial⟩
          · split at hstep
            · cases hstep
              exact ⟨hs, trivial⟩
            · cases hstep
              exact ⟨hs, hholds.1.at_stage _, hholds.2⟩
      · cases hstep
  | fail =>
      simp only [step] at hstep
      split at hstep
      · cases hstep
      · cases hstep
      · cases hstep
        exact ⟨h.1, trivial⟩

lemma reachable_holds (h : unovertakenCapture.Reachable s) : s.Holds := by
  refine h.invariant ⟨new_agreed, trivial⟩ ?_
  intro s a b next hs hstep
  obtain ⟨hclear, hstep⟩ := System.restrict_step.mp hstep
  exact step_holds hs (by simpa using hclear) hstep

lemma step_eligible {a : CaptureAction} {roots : CoordinatedRoots}
    (hstep : s.step a = some (.eligible roots, next)) :
    ∃ handle edge retried, s.stage = .finishing handle edge (.finalizing retried) ∧
      roots = handle.roots ∧ next = { s with stage := .eligible } := by
  cases a with
  | finalizeTurnRestoreSet ok =>
      simp only [step] at hstep
      split at hstep
      · next handle edge retried hstage =>
          split at hstep
          · cases hstep
            exact ⟨handle, edge, retried, hstage, rfl, rfl⟩
          · split at hstep <;> cases hstep
      · cases hstep
  | other action =>
      simp only [step] at hstep
      split at hstep
      · cases hstep
      · obtain ⟨_, -, heq⟩ := Option.map_eq_some_iff.mp hstep
        cases heq
  | begin roots owner =>
      simp only [step] at hstep
      split at hstep
      · obtain ⟨_, _, -, hanswer, -⟩ := own_cases hstep
        cases hanswer
      · cases hstep
  | acquireEdge edge =>
      simp only [step] at hstep
      split at hstep
      · obtain ⟨_, _, -, hanswer, -⟩ := own_cases hstep
        cases hanswer
      · obtain ⟨_, _, -, hanswer, -⟩ := own_cases hstep
        cases hanswer
      · cases hstep
  | proceed =>
      simp only [step] at hstep
      split at hstep
      · split at hstep <;> cases hstep
      · obtain ⟨_, _, -, hanswer, -⟩ := own_cases hstep
        cases hanswer
      · have hanswer := finishStep_answer hstep
        cases hanswer
      · cases hstep
  | fail =>
      simp only [step] at hstep
      split at hstep <;> cases hstep

end CaptureRace

open CaptureRace

theorem eligible_undisturbed {s next : CaptureRace} {action : CaptureAction}
    {roots : CoordinatedRoots} (h : unovertakenCapture.Reachable s)
    (hwrite : captureRace.step s action = some (.eligible roots, next)) :
    next.Undisturbed roots.ids := by
  obtain ⟨handle, edge, retried, hstage, rfl, rfl⟩ := step_eligible hwrite
  obtain ⟨-, hholds⟩ := reachable_holds h
  rw [hstage] at hholds
  obtain ⟨hwatches, -, hclear⟩ := hholds
  refine fun r hr => ⟨hclear r hr, fun m held hheld hin => ?_⟩
  exact hclear r hr (hwatches.held r hr m held hheld hin)

section SharedCommonDir

def demoRoots : CoordinatedRoots where
  root := ⟨[1, 1, 7]⟩
  gitDir := ⟨[1, 2, 8]⟩
  commonDir := ⟨[1, 2, 9]⟩

def demoSibling : PhysicalRootId :=
  ⟨[1, 1, 4]⟩

def demoCapture : List CaptureAction :=
  [.begin demoRoots demoTurnOwner, .proceed, .acquireEdge 0, .proceed, .acquireEdge 1] ++
    List.replicate 11 .proceed

def demoQuiet : CaptureRace :=
  unovertakenCapture.exec .new
    ([.other (.tryAcquireMutations 0 [demoSibling, demoRoots.commonDir]), .other (.dropMutation 0)] ++
      demoCapture ++ [.other (.tryAcquireMutation 1 demoSibling), .finalizeTurnRestoreSet false])

theorem eligible_undisturbed_quiet :
    Undisturbed { demoQuiet with stage := .eligible } demoRoots.ids := by
  have hreach : unovertakenCapture.Reachable demoQuiet := .exec .start _
  have hwrite : captureRace.step demoQuiet (.finalizeTurnRestoreSet true) =
      some (.eligible demoRoots, { demoQuiet with stage := .eligible }) := by
    rfl
  exact eligible_undisturbed hreach hwrite

def demoOvertaken : CaptureRace :=
  captureRace.exec .new
    (demoCapture ++ [.other (.tryAcquireMutations 0 [demoSibling, demoRoots.commonDir])])

theorem eligible_over_mutation : ¬∀ (s next : CaptureRace) (action : CaptureAction)
    (roots : CoordinatedRoots), captureRace.Reachable s →
    captureRace.step s action = some (.eligible roots, next) → next.Undisturbed roots.ids := by
  intro h
  have hwrite : captureRace.step demoOvertaken (.finalizeTurnRestoreSet true) =
      some (.eligible demoRoots, { demoOvertaken with stage := .eligible }) := by
    rfl
  have hclear := h _ _ _ _ (.exec .start _) hwrite demoRoots.commonDir (by decide)
  exact hclear.1 (by decide +kernel)

end SharedCommonDir

end DevCommandCenter
