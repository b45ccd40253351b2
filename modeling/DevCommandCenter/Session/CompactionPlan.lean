import DevCommandCenter.Session.DeltaCompaction
import Mathlib.Data.List.Chain

/-! What the planning loop makes of the rows: adjacent segments, of which the long ones are groups. -/

namespace DevCommandCenter

def EventRow.target (row : EventRow) : Option DeltaTarget :=
  (deltaTarget row.kind).map Prod.fst

def EventRow.text (row : EventRow) : String :=
  ((deltaTarget row.kind).map Prod.snd).getD ""

def joinedText (rows : List EventRow) : String :=
  String.join (rows.map EventRow.text)

lemma joinedText_append (rows rows' : List EventRow) :
    joinedText (rows ++ rows') = joinedText rows ++ joinedText rows' := by
  simp [joinedText, String.join_append]

lemma joinedText_singleton (row : EventRow) : joinedText [row] = row.text := by
  simp [joinedText]

lemma target_of_deltaTarget {row : EventRow} {key : DeltaTarget} {content : String}
    (h : deltaTarget row.kind = some (key, content)) : row.target = some key ∧ row.text = content := by
  simp [EventRow.target, EventRow.text, h]

def FitsFrom : ℕ → List EventRow → Prop
  | _, [] => True
  | size, row :: rows => size + row.text.utf8ByteSize ≤ mergedContentMaxBytes ∧
      FitsFrom (size + row.text.utf8ByteSize) rows

lemma fitsFrom_append_singleton {size : ℕ} {rows : List EventRow} {row : EventRow} :
    FitsFrom size (rows ++ [row]) ↔ FitsFrom size rows ∧
      size + (joinedText rows).utf8ByteSize + row.text.utf8ByteSize ≤ mergedContentMaxBytes := by
  induction rows generalizing size with
  | nil => simp [FitsFrom, joinedText]
  | cons head rows ih =>
      simp only [List.cons_append, FitsFrom, ih, joinedText, List.map_cons, String.join_cons,
        String.utf8ByteSize_append]
      constructor
      · rintro ⟨hhead, hrows, hrow⟩
        exact ⟨⟨hhead, hrows⟩, by omega⟩
      · rintro ⟨⟨hhead, hrows⟩, hrow⟩
        exact ⟨hhead, hrows, by omega⟩

section Plan

variable (terminals : TurnId → Option (ℕ × Bool))

structure DeltaGroup.Sound (group : DeltaGroup) : Prop where
  content : group.content = joinedText group.rows
  target : ∀ row ∈ group.rest, row.target = group.first.target
  mergeable : group.rest ≠ [] → ∀ row ∈ group.rows, mergeable terminals row = true
  fits : FitsFrom group.first.text.utf8ByteSize group.rest

def Separate (group next : DeltaGroup) : Prop :=
  next.rest ≠ [] → group.first.target = next.first.target →
    mergedContentMaxBytes < group.content.utf8ByteSize + next.first.text.utf8ByteSize

def single (row : EventRow) : DeltaGroup where
  first := row
  rest := []
  content := row.text

variable {terminals}

lemma sound_single (row : EventRow) : (single row).Sound terminals where
  content := (joinedText_singleton row).symm
  target := by simp [single]
  mergeable h := absurd rfl h
  fits := trivial

lemma DeltaGroup.Sound.push {group : DeltaGroup} (h : group.Sound terminals) {row : EventRow}
    (hall : ∀ r ∈ group.rows ++ [row], DevCommandCenter.mergeable terminals r = true)
    (htarget : row.target = group.first.target)
    (hfits : group.content.utf8ByteSize + row.text.utf8ByteSize ≤ mergedContentMaxBytes) :
    (group.push row row.text).Sound terminals where
  content := by
    have hrows : (group.push row row.text).rows = group.rows ++ [row] := rfl
    rw [hrows, joinedText_append, joinedText_singleton, ← h.content]
    rfl
  target r hr := by
    rcases List.mem_append.mp hr with hr | hr
    · exact h.target r hr
    · rw [List.mem_singleton.mp hr]
      exact htarget
  mergeable _ := hall
  fits := by
    refine fitsFrom_append_singleton.mpr ⟨h.fits, ?_⟩
    rw [h.content, DeltaGroup.rows, joinedText, List.map_cons, String.join_cons,
      String.utf8ByteSize_append] at hfits
    exact hfits

lemma mergeable_target {row : EventRow} (h : mergeable terminals row = true) :
    ∃ key, deltaTarget row.kind = some (key, row.text) := by
  cases hkind : deltaTarget row.kind with
  | none => simp [mergeable, hkind] at h
  | some pair => exact ⟨pair.1, by simp [EventRow.text, hkind]⟩

lemma flatMap_rows_head {segments : List DeltaGroup} {row : EventRow} {rows : List EventRow}
    (h : segments.flatMap DeltaGroup.rows = row :: rows) :
    ∃ segment more, segments = segment :: more ∧ segment.first = row := by
  cases segments with
  | nil => cases h
  | cons segment more =>
      rw [List.flatMap_cons, DeltaGroup.rows, List.cons_append] at h
      exact ⟨segment, more, rfl, (List.cons.inj h).1⟩

structure OpenGroup (terminals : TurnId → Option (ℕ × Bool)) (group : DeltaGroup)
    (key : DeltaTarget) : Prop where
  sound : group.Sound terminals
  target : group.first.target = some key
  mergeable : ∀ row ∈ group.rows, mergeable terminals row = true

def openRows (current : Option (DeltaGroup × DeltaTarget)) : List EventRow :=
  (current.map Prod.fst).toList.flatMap DeltaGroup.rows

structure Segmented (terminals : TurnId → Option (ℕ × Bool)) (rows : List EventRow)
    (groups segments : List DeltaGroup) : Prop where
  rows_eq : segments.flatMap DeltaGroup.rows = rows
  groups_eq : groups.filter DeltaGroup.isRun = segments.filter DeltaGroup.isRun
  sound : ∀ segment ∈ segments, segment.Sound terminals
  separate : segments.IsChain Separate

lemma Segmented.close {current : Option (DeltaGroup × DeltaTarget)} {plan : DeltaPlan}
    {rows : List EventRow} {segments : List DeltaGroup}
    (h : Segmented terminals rows plan.groups segments)
    (hopen : ∀ group key, current = some (group, key) → OpenGroup terminals group key)
    (hnext : ∀ group key next, current = some (group, key) → segments.head? = some next →
      Separate group next) :
    Segmented terminals (openRows current ++ rows) (DeltaPlan.close current plan).groups
      ((current.map Prod.fst).toList ++ segments) := by
  cases current with
  | none => exact h
  | some pair =>
      obtain ⟨group, key⟩ := pair
      refine ⟨?_, ?_, ?_, ?_⟩
      · simp [openRows, h.rows_eq]
      · simp [DeltaPlan.close, List.filter_cons, h.groups_eq]
      · intro segment hsegment
        rcases List.mem_append.mp hsegment with hsegment | hsegment
        · simp only [Option.map_some, Option.toList_some, List.mem_singleton] at hsegment
          rw [hsegment]
          exact (hopen group key rfl).sound
        · exact h.sound segment hsegment
      · refine List.isChain_cons.mpr ⟨fun next hmem => ?_, h.separate⟩
        exact hnext group key next rfl hmem

lemma segmented_singles (rows : List EventRow) : Segmented terminals rows [] (rows.map single) where
  rows_eq := by
    induction rows with
    | nil => rfl
    | cons row rows ih => simp [single, DeltaGroup.rows, ih]
  groups_eq := by
    induction rows with
    | nil => rfl
    | cons row rows ih => simp [single, DeltaGroup.isRun]
  sound segment hsegment := by
    obtain ⟨row, -, rfl⟩ := List.mem_map.mp hsegment
    exact sound_single row
  separate := by
    refine (List.isChain_map single).mpr (List.Pairwise.isChain ?_)
    exact List.pairwise_of_forall fun _ _ hrest => absurd rfl hrest

lemma segmented_single {row : EventRow} {rows : List EventRow} {groups segments : List DeltaGroup}
    (h : Segmented terminals rows groups segments)
    (hnext : ∀ next, segments.head? = some next → Separate (single row) next) :
    Segmented terminals (row :: rows) groups (single row :: segments) where
  rows_eq := by simp [single, DeltaGroup.rows, h.rows_eq]
  groups_eq := by simpa [single, DeltaGroup.isRun] using h.groups_eq
  sound := List.forall_mem_cons.mpr ⟨sound_single row, h.sound⟩
  separate := List.isChain_cons.mpr ⟨fun next hnext' => hnext next hnext', h.separate⟩

lemma planGroups_segmented (maxDeleted : ℕ) :
    ∀ (rows : List EventRow) (current : Option (DeltaGroup × DeltaTarget)) (plannedDeletes : ℕ),
      (∀ group key, current = some (group, key) → OpenGroup terminals group key) →
      (rows.Pairwise fun a b => a.target = b.target → mergeable terminals b = true →
        mergeable terminals a = true) →
      ∃ segments, Segmented terminals (openRows current ++ rows)
        (planGroups terminals maxDeleted current plannedDeletes rows).groups segments := by
  intro rows
  induction rows with
  | nil =>
      intro current plannedDeletes hopen _
      have hnil : Segmented terminals [] (⟨[], false⟩ : DeltaPlan).groups [] := segmented_singles []
      exact ⟨_, hnil.close hopen fun _ _ _ _ h => by cases h⟩
  | cons row rows ih =>
      intro current plannedDeletes hopen hdown
      obtain ⟨hrow, hrows⟩ := List.pairwise_cons.mp hdown
      rw [planGroups]
      split
      · next hskip =>
          obtain ⟨segments, hsegments⟩ := ih none plannedDeletes (fun _ _ h => by cases h) hrows
          have hhead : ∀ next, segments.head? = some next → Separate (single row) next := by
            intro next hnext hrest htarget
            have hmem := List.mem_of_head? hnext
            have hfirst : next.first ∈ rows := by
              have hflat := hsegments.rows_eq
              rw [show openRows none ++ rows = rows from rfl] at hflat
              rw [← hflat]
              exact List.mem_flatMap.mpr ⟨next, hmem, List.mem_cons_self⟩
            have hmergeable := hrow next.first hfirst htarget
              ((hsegments.sound next hmem).mergeable hrest _ List.mem_cons_self)
            obtain ⟨key, hkey⟩ := mergeable_target hmergeable
            rw [if_pos hmergeable, hkey] at hskip
            cases hskip
          have hsingle := segmented_single hsegments hhead
          refine ⟨_, hsingle.close hopen fun group key next _ hnext hrest => ?_⟩
          cases hnext
          exact absurd rfl hrest
      · next key content htarget =>
          obtain ⟨hmergeable, htarget⟩ : mergeable terminals row = true ∧
              deltaTarget row.kind = some (key, content) := by
            split at htarget
            · next h => exact ⟨h, htarget⟩
            · cases htarget
          obtain ⟨hkey, rfl⟩ := target_of_deltaTarget htarget
          split
          · next group key' hfits =>
              obtain ⟨hcurrent, hsize⟩ := Option.filter_eq_some_iff.mp hfits
              simp only [decide_eq_true_eq] at hsize
              obtain ⟨rfl, hsize⟩ := hsize
              have hgroup := hopen group key' hcurrent
              have hall : ∀ r ∈ group.rows ++ [row], mergeable terminals r = true := by
                intro r hr
                rcases List.mem_append.mp hr with hr | hr
                · exact hgroup.mergeable r hr
                · rw [List.mem_singleton.mp hr]
                  exact hmergeable
              have hpushed : OpenGroup terminals (group.push row row.text) key' :=
                ⟨hgroup.sound.push hall (hkey.trans hgroup.target.symm) hsize, hgroup.target, hall⟩
              obtain ⟨segments, hsegments⟩ := ih (some (group.push row row.text, key'))
                (plannedDeletes + 1) (fun _ _ h => by cases h; exact hpushed) hrows
              refine ⟨segments, ?_⟩
              have hopened : openRows (some (group.push row row.text, key')) ++ rows =
                  openRows current ++ row :: rows := by
                rw [hcurrent]
                simp [openRows, DeltaGroup.push, DeltaGroup.rows]
              rwa [hopened] at hsegments
          · next hunfit =>
              split
              · have htail : Segmented terminals (row :: rows) (⟨[], true⟩ : DeltaPlan).groups
                    ((row :: rows).map single) := segmented_singles _
                refine ⟨_, htail.close hopen fun group key' next _ hnext hrest => ?_⟩
                cases hnext
                exact absurd rfl hrest
              · have hstarted : OpenGroup terminals (single row) key :=
                  ⟨sound_single row, hkey, fun r hr => by
                    rw [List.mem_singleton.mp hr]
                    exact hmergeable⟩
                obtain ⟨segments, hsegments⟩ := ih (some (single row, key)) plannedDeletes
                  (fun _ _ h => by cases h; exact hstarted) hrows
                refine ⟨_, hsegments.close hopen fun group key' next hcurrent hnext _ htargets => ?_⟩
                obtain ⟨_, _, rfl, hfirst⟩ := flatMap_rows_head hsegments.rows_eq
                cases hnext
                have hfirst : next.first = row := hfirst
                rw [hfirst, (hopen group key' hcurrent).target, hkey] at htargets
                cases htargets
                rw [hcurrent] at hunfit
                rw [hfirst]
                simpa using hunfit

end Plan

end DevCommandCenter
