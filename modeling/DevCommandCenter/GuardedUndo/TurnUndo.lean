import DevCommandCenter.GuardedUndo.PreparedUndo

/-! Undo for a turn that changed several projects of one task: all prepared before anything is restored,
then restored one after the other by the calls `prepare` and `execute`, over any state. -/

namespace DevCommandCenter.GuardedUndo

open Library

structure GuardedUndoCaptureSummary where
  state : String

structure GuardedUndoOperationSummary where
  operationId : String

structure TurnReviewSummary where
  snapshotId : String
  files : List String
  guardedUndo : Option GuardedUndoCaptureSummary
  activeUndo : Option GuardedUndoOperationSummary

structure TurnUndoProject where
  workspaceId : String
  name : String
  review : Option TurnReviewSummary

structure TurnUndoTarget where
  workspaceId : String
  name : String
  snapshotId : String
  deriving DecidableEq

structure TurnUndoPlan where
  targets : List TurnUndoTarget
  uncovered : List (String × String)
  deriving DecidableEq

inductive PrepareGuardedUndoOutput
  | ready (prepared : PrepareReady)
  | blocked (snapshotId reasonCode : String) (detailsAvailable : Bool)
  | unavailable (snapshotId reasonCode : String)

inductive ExecuteGuardedUndoOutput
  | completed (operationId reasonCode : Option String)
  | blocked (operationId reasonCode : Option String)
  | rolledBack (operationId reasonCode : Option String)
  | recoveryRequired (operationId reasonCode : Option String)

structure ReadyPreview where
  previewToken : String
  expiresAt : String
  fileCount : ℕ
  totalBytes : ℕ
  files : List InversePreview
  deriving DecidableEq

structure PreparedTurnUndo where
  target : TurnUndoTarget
  preview : ReadyPreview
  deriving DecidableEq

inductive RefusedPreparation
  | blocked
  | unavailable
  deriving DecidableEq

inductive TurnUndoPreparation
  | ready (prepared : List PreparedTurnUndo)
  | blocked (target : TurnUndoTarget) (result : RefusedPreparation) (reasonCode : String)
  deriving DecidableEq

inductive TurnUndoStatus
  | completed
  | blocked
  | rolledBack
  | recoveryRequired
  | failed
  | notAttempted
  deriving DecidableEq

structure TurnUndoStepResult where
  workspaceId : String
  name : String
  status : TurnUndoStatus
  reasonCode : Option String
  deriving DecidableEq

def canPrepareGuardedUndo (capture : Option GuardedUndoCaptureSummary)
    (active : Option GuardedUndoOperationSummary) : Bool :=
  capture.any (fun capture => decide (capture.state = "eligible")) && active.isNone

def TurnUndoProject.changed (project : TurnUndoProject) : Option TurnReviewSummary :=
  project.review.filter fun review => !review.files.isEmpty

def TurnUndoPlan.add (plan : TurnUndoPlan) (project : TurnUndoProject) : TurnUndoPlan :=
  match project.changed with
  | none => plan
  | some review =>
      if canPrepareGuardedUndo review.guardedUndo review.activeUndo then
        { plan with targets := plan.targets ++ [{
            workspaceId := project.workspaceId
            name := project.name
            snapshotId := review.snapshotId }] }
      else { plan with uncovered := plan.uncovered ++ [(project.workspaceId, project.name)] }

def planTurnUndo (projects : List TurnUndoProject) : TurnUndoPlan :=
  projects.foldl TurnUndoPlan.add { targets := [], uncovered := [] }

/-- A preview that may touch paths that the turn did not change is not ready. -/
def readyPreview : PrepareGuardedUndoOutput → Except (RefusedPreparation × String) ReadyPreview
  | .ready prepared =>
      if prepared.unrelatedPathsAreNotTargets then
        .ok {
          previewToken := prepared.previewToken
          expiresAt := prepared.expiresAt
          fileCount := prepared.fileCount
          totalBytes := prepared.totalBytes
          files := prepared.files }
      else .error (.unavailable, "invalid_persisted_record")
  | .blocked _ reasonCode _ => .error (.blocked, reasonCode)
  | .unavailable _ reasonCode => .error (.unavailable, reasonCode)

def ExecuteGuardedUndoOutput.status : ExecuteGuardedUndoOutput → TurnUndoStatus × Option String
  | .completed _ reasonCode => (.completed, reasonCode)
  | .blocked _ reasonCode => (.blocked, reasonCode)
  | .rolledBack _ reasonCode => (.rolledBack, reasonCode)
  | .recoveryRequired _ reasonCode => (.recoveryRequired, reasonCode)

def PreparedTurnUndo.step (project : PreparedTurnUndo) (outcome : TurnUndoStatus × Option String) :
    TurnUndoStepResult where
  workspaceId := project.target.workspaceId
  name := project.target.name
  status := outcome.1
  reasonCode := outcome.2

def PrepareGuardedUndoResult.output : PrepareGuardedUndoResult → PrepareGuardedUndoOutput
  | .ready prepared => .ready prepared
  | .blocked snapshotId reason => .blocked snapshotId reason.asStr false
  | .unavailable snapshotId reason => .unavailable snapshotId reason.asStr

def ExecuteGuardedUndoResult.output : ExecuteGuardedUndoResult → ExecuteGuardedUndoOutput
  | .completed operationId => .completed (some operationId.value) none
  | .blocked reason => .blocked none (some reason.asStr)
  | .rolledBack operationId => .rolledBack (some operationId.value) none
  | .recoveryRequired operationId reason => .recoveryRequired (some operationId.value) (some reason.asStr)

section Calls

variable {σ ε : Type}

def prepareFrom (prepare : String → Call σ ε PrepareGuardedUndoOutput) :
    List PreparedTurnUndo → List TurnUndoTarget → Call σ ε TurnUndoPreparation
  | prepared, [] => pure (.ready prepared)
  | prepared, target :: targets => do
      match readyPreview (← prepare target.snapshotId) with
      | .ok preview => prepareFrom prepare (prepared ++ [{ target := target, preview := preview }]) targets
      | .error (result, reasonCode) => pure (.blocked target result reasonCode)

def prepareTurnUndo (targets : List TurnUndoTarget)
    (prepare : String → Call σ ε PrepareGuardedUndoOutput) : Call σ ε TurnUndoPreparation :=
  prepareFrom prepare [] targets

def outcomeOf : Except ε ExecuteGuardedUndoOutput → TurnUndoStatus × Option String
  | .ok outcome => outcome.status
  | .error _ => (.failed, none)

def executeFrom (execute : String → Call σ ε ExecuteGuardedUndoOutput) :
    Bool → List PreparedTurnUndo → σ → List TurnUndoStepResult × σ
  | _, [], s => ([], s)
  | true, project :: rest, s =>
      let (results, t) := executeFrom execute true rest s
      (project.step (.notAttempted, none) :: results, t)
  | false, project :: rest, s =>
      let (answer, t) := execute project.preview.previewToken s
      let outcome := outcomeOf answer
      let (results, u) := executeFrom execute (decide (outcome.1 ≠ .completed)) rest t
      (project.step outcome :: results, u)

def executeTurnUndo (prepared : List PreparedTurnUndo)
    (execute : String → Call σ ε ExecuteGuardedUndoOutput) (s : σ) : List TurnUndoStepResult × σ :=
  executeFrom execute false prepared s

end Calls

section Plans

def TurnUndoProject.target (project : TurnUndoProject) : Option TurnUndoTarget :=
  (project.changed.filter fun review =>
    canPrepareGuardedUndo review.guardedUndo review.activeUndo).map fun review =>
      { workspaceId := project.workspaceId, name := project.name, snapshotId := review.snapshotId }

def TurnUndoProject.left (project : TurnUndoProject) : Option (String × String) :=
  (project.changed.filter fun review =>
    !canPrepareGuardedUndo review.guardedUndo review.activeUndo).map fun _ =>
      (project.workspaceId, project.name)

lemma TurnUndoPlan.add_eq (plan : TurnUndoPlan) (project : TurnUndoProject) : plan.add project =
    { targets := plan.targets ++ project.target.toList
      uncovered := plan.uncovered ++ project.left.toList } := by
  simp only [add, TurnUndoProject.target, TurnUndoProject.left]
  cases project.changed with
  | none => simp
  | some review =>
      cases hcan : canPrepareGuardedUndo review.guardedUndo review.activeUndo <;>
        simp [Option.filter_some, hcan]

lemma foldl_add (projects : List TurnUndoProject) (plan : TurnUndoPlan) :
    projects.foldl TurnUndoPlan.add plan =
      { targets := plan.targets ++ projects.filterMap TurnUndoProject.target
        uncovered := plan.uncovered ++ projects.filterMap TurnUndoProject.left } := by
  induction projects generalizing plan with
  | nil => simp
  | cons project projects ih =>
      rw [List.foldl_cons, ih, plan.add_eq, List.filterMap_cons, List.filterMap_cons]
      cases project.target <;> cases project.left <;> simp

lemma planTurnUndo_eq (projects : List TurnUndoProject) : planTurnUndo projects =
    { targets := projects.filterMap TurnUndoProject.target
      uncovered := projects.filterMap TurnUndoProject.left } := by
  rw [planTurnUndo, foldl_add]
  rfl

lemma covered (projects : List TurnUndoProject) {project : TurnUndoProject} (hmem : project ∈ projects)
    (hchanged : project.changed.isSome = true) :
    (∃ target ∈ (planTurnUndo projects).targets, target.workspaceId = project.workspaceId) ∨
      (project.workspaceId, project.name) ∈ (planTurnUndo projects).uncovered := by
  obtain ⟨review, hreview⟩ := Option.isSome_iff_exists.mp hchanged
  rw [planTurnUndo_eq]
  cases hcan : canPrepareGuardedUndo review.guardedUndo review.activeUndo with
  | true =>
      have htarget : project.target = some
          { workspaceId := project.workspaceId, name := project.name, snapshotId := review.snapshotId } := by
        simp [TurnUndoProject.target, hreview, Option.filter_some, hcan]
      exact .inl ⟨_, List.mem_filterMap.mpr ⟨project, hmem, htarget⟩, rfl⟩
  | false =>
      refine .inr (List.mem_filterMap.mpr ⟨project, hmem, ?_⟩)
      simp [TurnUndoProject.left, hreview, Option.filter_some, hcan]

end Plans

section Runs

variable {σ ε : Type} {prepare : String → Call σ ε PrepareGuardedUndoOutput}
  {execute : String → Call σ ε ExecuteGuardedUndoOutput} {s t u : σ}

inductive Prepares (prepare : String → Call σ ε PrepareGuardedUndoOutput) :
    List TurnUndoTarget → List PreparedTurnUndo → σ → σ → Prop
  | nil {s : σ} : Prepares prepare [] [] s s
  | cons {target : TurnUndoTarget} {targets : List TurnUndoTarget} {prepared : List PreparedTurnUndo}
      {ready : PrepareReady} {preview : ReadyPreview} {s t u : σ} :
      prepare target.snapshotId s = (.ok (.ready ready), t) →
      readyPreview (.ready ready) = .ok preview → Prepares prepare targets prepared t u →
      Prepares prepare (target :: targets) ({ target := target, preview := preview } :: prepared) s u

inductive Restores (execute : String → Call σ ε ExecuteGuardedUndoOutput) :
    List PreparedTurnUndo → List TurnUndoStepResult → σ → σ → Prop
  | nil {s : σ} : Restores execute [] [] s s
  | cons {project : PreparedTurnUndo} {rest : List PreparedTurnUndo} {results : List TurnUndoStepResult}
      {outcome : ExecuteGuardedUndoOutput} {s t u : σ} :
      execute project.preview.previewToken s = (.ok outcome, t) → outcome.status.1 = .completed →
      Restores execute rest results t u →
      Restores execute (project :: rest) (project.step outcome.status :: results) s u

/-- All projects restored, or those before the first that did not complete and none after it. -/
inductive Carried (execute : String → Call σ ε ExecuteGuardedUndoOutput) (prepared : List PreparedTurnUndo)
    (s : σ) : List TurnUndoStepResult → σ → Prop
  | whole {results : List TurnUndoStepResult} {t : σ} :
      Restores execute prepared results s t → Carried execute prepared s results t
  | stopped {done later : List PreparedTurnUndo} {stop : PreparedTurnUndo}
      {results : List TurnUndoStepResult} {answer : Except ε ExecuteGuardedUndoOutput} {t u : σ} :
      prepared = done ++ stop :: later → Restores execute done results s t →
      execute stop.preview.previewToken t = (answer, u) → (outcomeOf answer).1 ≠ .completed →
      Carried execute prepared s (results ++ stop.step (outcomeOf answer) ::
        later.map fun project => project.step (.notAttempted, none)) u

lemma prepareFrom_ready {targets : List TurnUndoTarget} {before prepared : List PreparedTurnUndo}
    (h : prepareFrom prepare before targets s = (.ok (.ready prepared), t)) :
    ∃ new, prepared = before ++ new ∧ Prepares prepare targets new s t := by
  induction targets generalizing before s with
  | nil =>
      simp only [prepareFrom, Call.pure_apply, Prod.mk.injEq, Except.ok.injEq,
        TurnUndoPreparation.ready.injEq] at h
      obtain ⟨rfl, rfl⟩ := h
      exact ⟨[], (List.append_nil _).symm, .nil⟩
  | cons target targets ih =>
      obtain ⟨output, u, hprepare, hrest⟩ := Call.bind_ok_iff.mp h
      cases hpreview : readyPreview output with
      | error refusal =>
          simp [hpreview] at hrest
      | ok preview =>
          simp only [hpreview] at hrest
          obtain ⟨new, rfl, hnew⟩ := ih hrest
          refine ⟨{ target := target, preview := preview } :: new, by simp, ?_⟩
          cases output with
          | ready ready => exact .cons hprepare hpreview hnew
          | blocked _ _ _ => cases hpreview
          | unavailable _ _ => cases hpreview

lemma Prepares.targets {targets : List TurnUndoTarget} {prepared : List PreparedTurnUndo}
    (h : Prepares prepare targets prepared s t) : prepared.map PreparedTurnUndo.target = targets := by
  induction h with
  | nil => rfl
  | cons _ _ _ ih => rw [List.map_cons, ih]

lemma executeFrom_stopped (prepared : List PreparedTurnUndo) (s : σ) : executeFrom execute true prepared s =
    (prepared.map fun project => project.step (.notAttempted, none), s) := by
  induction prepared with
  | nil => rfl
  | cons project rest ih => simp only [executeFrom, ih, List.map_cons]

lemma executeFrom_carried (prepared : List PreparedTurnUndo) (s : σ) :
    Carried execute prepared s (executeFrom execute false prepared s).1
      (executeFrom execute false prepared s).2 := by
  induction prepared generalizing s with
  | nil => exact .whole .nil
  | cons project rest ih =>
      simp only [executeFrom]
      cases hanswer : execute project.preview.previewToken s with
      | mk answer t =>
          by_cases hcompleted : (outcomeOf answer).1 = .completed
          · simp only [hcompleted, ne_eq, not_true_eq_false, decide_false]
            cases answer with
            | error e => cases hcompleted
            | ok outcome =>
                generalize hrest : executeFrom execute false rest t = result
                have hcarried := ih t
                rw [hrest] at hcarried
                obtain ⟨results, u⟩ := result
                cases hcarried with
                | whole hrestores => exact .whole (.cons hanswer hcompleted hrestores)
                | stopped hsplit hrestores hstop hnot =>
                    rw [hsplit]
                    exact .stopped (List.cons_append ..).symm (.cons hanswer hcompleted hrestores) hstop hnot
          · simp only [ne_eq, hcompleted, not_false_eq_true, decide_true, executeFrom_stopped]
            exact .stopped (List.nil_append _).symm .nil hanswer hcompleted

lemma Restores.named {prepared : List PreparedTurnUndo} {results : List TurnUndoStepResult}
    (h : Restores execute prepared results s t) :
    results.map (fun result => (result.workspaceId, result.name, result.status)) =
      prepared.map fun project => (project.target.workspaceId, project.target.name, .completed) := by
  induction h with
  | nil => rfl
  | cons _ hcompleted _ ih =>
      rw [List.map_cons, List.map_cons, ih]
      simp only [PreparedTurnUndo.step, hcompleted]

lemma Carried.named {prepared : List PreparedTurnUndo} {results : List TurnUndoStepResult}
    (h : Carried execute prepared s results t) :
    results.map (fun result => (result.workspaceId, result.name)) =
      prepared.map fun project => (project.target.workspaceId, project.target.name) := by
  have hnames : ∀ {done : List PreparedTurnUndo} {results : List TurnUndoStepResult} {t : σ},
      Restores execute done results s t →
        results.map (fun result => (result.workspaceId, result.name)) =
          done.map fun project => (project.target.workspaceId, project.target.name) := by
    intro done results t hrestores
    have hnamed := congrArg (List.map fun entry => (entry.1, entry.2.1)) hrestores.named
    simpa only [List.map_map, Function.comp_def] using hnamed
  cases h with
  | whole hrestores => exact hnames hrestores
  | stopped hsplit hrestores _ _ =>
      rw [hsplit, List.map_append, List.map_append, hnames hrestores]
      simp [PreparedTurnUndo.step, Function.comp_def]

structure TurnUndone (projects : List TurnUndoProject)
    (prepare : String → Call σ ε PrepareGuardedUndoOutput)
    (execute : String → Call σ ε ExecuteGuardedUndoOutput) (prepared : List PreparedTurnUndo)
    (s t u : σ) (results : List TurnUndoStepResult) (v : σ) : Prop where
  covered : ∀ project ∈ projects, project.changed.isSome = true →
    (∃ target ∈ (planTurnUndo projects).targets, target.workspaceId = project.workspaceId) ∨
      (project.workspaceId, project.name) ∈ (planTurnUndo projects).uncovered
  targets : prepared.map PreparedTurnUndo.target = projects.filterMap TurnUndoProject.target
  prepares : Prepares prepare (projects.filterMap TurnUndoProject.target) prepared s t
  carried : Carried execute prepared u results v
  named : results.map (fun result => (result.workspaceId, result.name)) =
    (projects.filterMap TurnUndoProject.target).map fun target => (target.workspaceId, target.name)

/-- Every project that the plan covers was ready before any was restored; then they are restored in
order up to the first that does not complete, and each says what became of it. -/
theorem turn_undo_restores_prefix {projects : List TurnUndoProject} {prepared : List PreparedTurnUndo}
    {results : List TurnUndoStepResult} {v : σ}
    (hprepare : prepareTurnUndo (planTurnUndo projects).targets prepare s = (.ok (.ready prepared), t))
    (hexecute : executeTurnUndo prepared execute u = (results, v)) :
    TurnUndone projects prepare execute prepared s t u results v := by
  rw [planTurnUndo_eq] at hprepare
  obtain ⟨_, rfl, hprepares⟩ := prepareFrom_ready hprepare
  have hcarried : Carried execute prepared u results v := by
    have hrun : Carried execute prepared u (executeTurnUndo prepared execute u).1
        (executeTurnUndo prepared execute u).2 := executeFrom_carried prepared u
    rwa [hexecute] at hrun
  have htargets : prepared.map PreparedTurnUndo.target = projects.filterMap TurnUndoProject.target :=
    hprepares.targets
  refine ⟨fun _ => covered projects, htargets, hprepares, hcarried, ?_⟩
  rw [hcarried.named, ← htargets, List.map_map]
  rfl

end Runs

def demoPrepareOutput (snapshotId : String) : Service PrepareGuardedUndoOutput := do
  return (← prepareAt demoDrawn snapshotId "/workspace" .turnResult 1).output

def demoExecuteOutput (previewToken : String) : Service ExecuteGuardedUndoOutput := do
  return (← executeAt demoDrawn previewToken true 2).output

def demoProjects : List TurnUndoProject :=
  [{ workspaceId := "other"
     name := "other"
     review := some { snapshotId := "none", files := ["b"], guardedUndo := none, activeUndo := none } },
    { workspaceId := "workspace"
      name := "project"
      review := some {
        snapshotId := "snapshot"
        files := ["a"]
        guardedUndo := some { state := "eligible" }
        activeUndo := none } }]

def demoPreparedTurn : List PreparedTurnUndo :=
  [{ target := { workspaceId := "workspace", name := "project", snapshotId := "snapshot" }
     preview :=
      { previewToken := "preview"
        expiresAt := "t2"
        fileCount := 1
        totalBytes := 3
        files := demoReady.files } }]

def demoTurnPrepared : Except Stopped TurnUndoPreparation × World :=
  prepareTurnUndo (planTurnUndo demoProjects).targets demoPrepareOutput demoWorld

def demoTurnUndone : List TurnUndoStepResult × World :=
  executeTurnUndo demoPreparedTurn demoExecuteOutput demoTurnPrepared.2

theorem turn_undo_restores_prefix_demo :
    demoTurnUndone.1.map TurnUndoStepResult.status = [.completed] ∧
      TurnUndone demoProjects demoPrepareOutput demoExecuteOutput demoPreparedTurn demoWorld demoTurnPrepared.2
        demoTurnPrepared.2 demoTurnUndone.1 demoTurnUndone.2 := by
  have hready : demoTurnPrepared.1 = .ok (.ready demoPreparedTurn) := by decide +kernel
  exact ⟨by decide +kernel, turn_undo_restores_prefix (Prod.ext hready rfl) rfl⟩

end DevCommandCenter.GuardedUndo
