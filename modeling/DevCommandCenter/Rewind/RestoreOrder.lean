import DevCommandCenter.Library.Checks
import DevCommandCenter.Rewind.Files
import Mathlib.Data.List.Perm.Basic

/-! The order in which the captures of all of the projects are restored. -/

namespace DevCommandCenter.Rewind

open Library

structure Restorable where
  facts : TurnFileFacts
  snapshotId : String

def restorable (facts : TurnFileFacts) : Option Restorable :=
  match classifyTurnFiles facts with
  | .restore snapshotId => some ⟨facts, snapshotId⟩
  | _ => none

lemma facts_of_restorable {facts : TurnFileFacts} {capture : Restorable}
    (h : restorable facts = some capture) : capture.facts = facts := by
  rw [restorable] at h
  split at h
  · cases h
    rfl
  · cases h

def projectRank (factsOldestFirst : List TurnFileFacts) (workspaceId : String) : ℕ :=
  (factsOldestFirst.map TurnFileFacts.workspaceId).idxOf workspaceId

def projectName (factsOldestFirst : List TurnFileFacts) (workspaceId : String) : Option String :=
  (factsOldestFirst.find? fun facts => facts.workspaceId = workspaceId).bind TurnFileFacts.project

def NewestFirst (factsOldestFirst : List TurnFileFacts) (capture capture' : Restorable) : Prop :=
  turnRank factsOldestFirst capture'.facts.turnId < turnRank factsOldestFirst capture.facts.turnId ∨
    turnRank factsOldestFirst capture'.facts.turnId = turnRank factsOldestFirst capture.facts.turnId ∧
      projectRank factsOldestFirst capture.facts.workspaceId ≤
        projectRank factsOldestFirst capture'.facts.workspaceId

def captures (facts : List TurnFileFacts) : List Restorable :=
  facts.reverse.filterMap restorable

def Restorable.snapshot (capture : Restorable) : String × String :=
  (capture.facts.turnId, capture.snapshotId)

lemma foldlM_pushTurnFiles {facts : List TurnFileFacts} {init snapshots : List (String × String)}
    (h : facts.foldlM pushTurnFiles init = .ok snapshots) :
    snapshots = init ++ (facts.filterMap restorable).map Restorable.snapshot := by
  induction facts generalizing init with
  | nil =>
      cases h
      exact (List.append_nil _).symm
  | cons fact facts ih =>
      rw [List.foldlM_cons] at h
      obtain ⟨next, hpush, hrest⟩ := except_bind_eq_ok.mp h
      rw [ih hrest, List.filterMap_cons, restorable]
      rw [pushTurnFiles] at hpush
      split at hpush
      · next hclass =>
          cases hpush
          rw [hclass]
      · next snapshotId hclass =>
          cases hpush
          rw [hclass, List.append_assoc]
          rfl
      · cases hpush

lemma restorableSnapshots_ok {facts : List TurnFileFacts} {snapshots : List (String × String)}
    (h : restorableSnapshots facts = .ok snapshots) :
    snapshots = (captures facts).map Restorable.snapshot :=
  foldlM_pushTurnFiles h

def chainOf (projectFacts : String × List TurnFileFacts) : ProjectChain where
  project := projectFacts.2.head?.bind TurnFileFacts.project
  snapshots := (captures projectFacts.2).map Restorable.snapshot

def hasCapture (projectFacts : String × List TurnFileFacts) : Bool :=
  !(captures projectFacts.2).isEmpty

lemma pushChain_ok {chains chains' : List ProjectChain} {projectFacts : String × List TurnFileFacts}
    (h : pushChain chains projectFacts = .ok chains') :
    chains' = chains ++ ([projectFacts].filter hasCapture).map chainOf := by
  rw [pushChain] at h
  split at h
  · cases h
  · next snapshots hsnapshots =>
      rw [restorableSnapshots_ok hsnapshots] at h
      by_cases hnone : captures projectFacts.2 = []
      · rw [hnone] at h
        cases h
        rw [List.filter_cons_of_neg (by rw [hasCapture, hnone]; decide)]
        exact (List.append_nil _).symm
      · have hsome : hasCapture projectFacts = true := by
          rw [hasCapture, Bool.not_eq_true', List.isEmpty_eq_false_iff]
          exact hnone
        rw [if_neg (by rwa [List.isEmpty_iff, List.map_eq_nil_iff])] at h
        cases h
        rw [List.filter_cons_of_pos hsome]
        rfl

lemma foldlM_pushChain {projects : List (String × List TurnFileFacts)} {init chains : List ProjectChain}
    (h : projects.foldlM pushChain init = .ok chains) :
    chains = init ++ (projects.filter hasCapture).map chainOf := by
  induction projects generalizing init with
  | nil =>
      cases h
      exact (List.append_nil _).symm
  | cons projectFacts projects ih =>
      rw [List.foldlM_cons] at h
      obtain ⟨next, hpush, hrest⟩ := except_bind_eq_ok.mp h
      rw [ih hrest, pushChain_ok hpush, List.append_assoc, ← List.map_append, ← List.filter_append]
      rfl

def changedProjects (facts : List TurnFileFacts) : List (String × List TurnFileFacts) :=
  (buckets TurnFileFacts.workspaceId facts).filter hasCapture

lemma restorableChains_ok {facts : List TurnFileFacts} {chains : List ProjectChain}
    (h : restorableChains facts = .ok chains) : chains = (changedProjects facts).map chainOf :=
  foldlM_pushChain h

structure Placed where
  chainIndex : ℕ
  projectFacts : String × List TurnFileFacts
  capture : Restorable

def Placed.step (placed : Placed) : RestoreStep where
  chainIndex := placed.chainIndex
  chain := chainOf placed.projectFacts
  turnId := placed.capture.facts.turnId
  snapshotId := placed.capture.snapshotId

def placed (facts : List TurnFileFacts) : List Placed :=
  (changedProjects facts).zipIdx.flatMap fun (projectFacts, chainIndex) =>
    (captures projectFacts.2).map fun capture => { chainIndex, projectFacts, capture }

lemma chainSteps_eq {facts : List TurnFileFacts} {chains : List ProjectChain}
    (h : restorableChains facts = .ok chains) :
    chainSteps chains = (placed facts).map Placed.step := by
  rw [restorableChains_ok h, chainSteps, List.zipIdx_map, List.flatMap_map, placed, List.map_flatMap]
  refine List.flatMap_congr fun x _ => ?_
  obtain ⟨projectFacts, chainIndex⟩ := x
  simp only [Prod.map, chainOf, List.map_map]
  rfl

lemma filterMap_captures (facts : List TurnFileFacts) :
    (captures facts).Perm (facts.filterMap restorable) :=
  (List.reverse_perm facts).filterMap restorable

lemma flatMap_filter_hasCapture (projects : List (String × List TurnFileFacts)) :
    (projects.filter hasCapture).flatMap (fun projectFacts => captures projectFacts.2) =
      projects.flatMap fun projectFacts => captures projectFacts.2 := by
  induction projects with
  | nil => rfl
  | cons projectFacts projects ih =>
      by_cases hsome : hasCapture projectFacts = true
      · rw [List.filter_cons_of_pos hsome, List.flatMap_cons, List.flatMap_cons, ih]
      · have hnone : captures projectFacts.2 = [] := by
          rw [Bool.not_eq_true, hasCapture, Bool.not_eq_false', List.isEmpty_iff] at hsome
          exact hsome
        rw [List.filter_cons_of_neg hsome, List.flatMap_cons, ih, hnone, List.nil_append]

lemma placed_perm (facts : List TurnFileFacts) :
    ((placed facts).map Placed.capture).Perm (facts.filterMap restorable) := by
  have hplain : (placed facts).map Placed.capture =
      (changedProjects facts).flatMap fun projectFacts => captures projectFacts.2 := by
    rw [placed, List.map_flatMap]
    simp only [List.map_map, Function.comp_def, List.map_id']
    rw [← List.flatMap_map Prod.fst fun projectFacts : String × List TurnFileFacts =>
      captures projectFacts.2, List.zipIdx_map_fst]
  rw [hplain, changedProjects, flatMap_filter_hasCapture]
  have hcaptures := List.Perm.flatMap_left (buckets TurnFileFacts.workspaceId facts)
    fun projectFacts _ => filterMap_captures projectFacts.2
  refine hcaptures.trans ?_
  rw [← List.filterMap_flatMap]
  exact (buckets_perm facts).filterMap restorable

lemma mem_placed {facts : List TurnFileFacts} {place : Placed} (h : place ∈ placed facts) :
    (changedProjects facts)[place.chainIndex]? = some place.projectFacts ∧
      place.capture ∈ captures place.projectFacts.2 := by
  obtain ⟨⟨projectFacts, chainIndex⟩, hmem, hplace⟩ := List.mem_flatMap.mp h
  obtain ⟨capture, hcapture, rfl⟩ := List.mem_map.mp hplace
  exact ⟨List.mk_mem_zipIdx_iff_getElem?.mp hmem, hcapture⟩

lemma mem_captures {facts : List TurnFileFacts} {capture : Restorable} (h : capture ∈ captures facts) :
    capture.facts ∈ facts := by
  obtain ⟨fact, hfact, hrestorable⟩ := List.mem_filterMap.mp h
  rw [facts_of_restorable hrestorable]
  exact List.mem_reverse.mp hfact

lemma mem_buckets_of_placed {facts : List TurnFileFacts} {place : Placed} (h : place ∈ placed facts) :
    place.projectFacts ∈ buckets TurnFileFacts.workspaceId facts :=
  (List.mem_filter.mp (List.mem_of_getElem? (mem_placed h).1)).1

lemma facts_of_placed {facts : List TurnFileFacts} {place : Placed} (h : place ∈ placed facts) :
    place.capture.facts ∈ facts ∧ place.capture.facts.workspaceId = place.projectFacts.1 :=
  ((bucketed_buckets facts).mem_contents (mem_buckets_of_placed h)).mp (mem_captures (mem_placed h).2)

lemma project_of_placed {facts : List TurnFileFacts} {place : Placed} (h : place ∈ placed facts) :
    place.step.chain.project = projectName facts place.capture.facts.workspaceId := by
  change place.projectFacts.2.head?.bind TurnFileFacts.project = _
  rw [(bucketed_buckets facts).contents _ (mem_buckets_of_placed h), List.head?_filter,
    (facts_of_placed h).2]
  rfl

lemma changedProjects_ordered (facts : List TurnFileFacts) :
    (changedProjects facts).Pairwise fun projectFacts projectFacts' =>
      projectRank facts projectFacts.1 < projectRank facts projectFacts'.1 := by
  have hbuckets : Bucketed TurnFileFacts.workspaceId facts (buckets TurnFileFacts.workspaceId facts) :=
    bucketed_buckets facts
  exact (List.pairwise_map.mp hbuckets.ordered).sublist List.filter_sublist

lemma projectRank_le_of_placed {facts : List TurnFileFacts} {place place' : Placed}
    (h : place ∈ placed facts) (h' : place' ∈ placed facts) (hle : place.chainIndex ≤ place'.chainIndex) :
    projectRank facts place.capture.facts.workspaceId ≤
      projectRank facts place'.capture.facts.workspaceId := by
  obtain ⟨hi, heq⟩ := List.getElem?_eq_some_iff.mp (mem_placed h).1
  obtain ⟨hi', heq'⟩ := List.getElem?_eq_some_iff.mp (mem_placed h').1
  rw [(facts_of_placed h).2, (facts_of_placed h').2]
  rcases Nat.lt_or_eq_of_le hle with hlt | hsame
  · have hrank := List.pairwise_iff_getElem.mp (changedProjects_ordered facts) place.chainIndex
      place'.chainIndex hi hi' hlt
    rw [heq, heq'] at hrank
    exact hrank.le
  · have hsome := (mem_placed h).1
    rw [hsame, (mem_placed h').1, Option.some_inj] at hsome
    rw [hsome]

lemma stepLe_iff {facts : List TurnFileFacts} {left right : RestoreStep} :
    stepLe facts left right = true ↔
      turnRank facts right.turnId < turnRank facts left.turnId ∨
        turnRank facts right.turnId = turnRank facts left.turnId ∧ left.chainIndex ≤ right.chainIndex := by
  rw [stepLe]
  rcases lt_trichotomy (turnRank facts right.turnId) (turnRank facts left.turnId) with hlt | heq | hgt
  · rw [compare_lt_iff_lt.mpr hlt]
    exact ⟨fun _ => .inl hlt, fun _ => rfl⟩
  · rw [compare_eq_iff_eq.mpr heq, Ordering.eq_then, Nat.isLE_compare]
    omega
  · rw [compare_gt_iff_gt.mpr hgt]
    refine ⟨fun h => (Bool.false_ne_true h).elim, ?_⟩
    omega

lemma stepLe_trans {facts : List TurnFileFacts} (a b c : RestoreStep) (hab : stepLe facts a b = true)
    (hbc : stepLe facts b c = true) : stepLe facts a c = true := by
  rw [stepLe_iff] at hab hbc ⊢
  omega

lemma stepLe_total {facts : List TurnFileFacts} (a b : RestoreStep) :
    (stepLe facts a b || stepLe facts b a) = true := by
  rw [Bool.or_eq_true, stepLe_iff, stepLe_iff]
  omega

lemma restoreOrder_eq {facts : List TurnFileFacts} {chains : List ProjectChain}
    (h : restorableChains facts = .ok chains) :
    ∃ places : List Placed, restoreOrder facts chains = places.map Placed.step ∧
      (∀ place ∈ places, place ∈ placed facts) ∧
      (places.map Placed.capture).Perm (facts.filterMap restorable) ∧
      (places.map Placed.capture).Pairwise (NewestFirst facts) := by
  let placedLe (place place' : Placed) : Bool := stepLe facts place.step place'.step
  have hperm := List.mergeSort_perm (placed facts) placedLe
  have hsorted := @List.pairwise_mergeSort Placed placedLe (fun a b c => stepLe_trans _ _ _)
    (fun a b => stepLe_total _ _) (placed facts)
  refine ⟨(placed facts).mergeSort placedLe, ?_, fun place hplace => hperm.mem_iff.mp hplace,
    (hperm.map _).trans (placed_perm facts), ?_⟩
  · rw [restoreOrder, chainSteps_eq h]
    exact (List.map_mergeSort (f := Placed.step) fun place _ place' _ => rfl).symm
  · refine List.pairwise_map.mpr (hsorted.imp_of_mem fun hplace hplace' hle => ?_)
    refine (stepLe_iff.mp hle).imp id fun ⟨hturn, hchain⟩ => ⟨hturn, ?_⟩
    exact projectRank_le_of_placed (hperm.mem_iff.mp hplace) (hperm.mem_iff.mp hplace') hchain

end DevCommandCenter.Rewind
