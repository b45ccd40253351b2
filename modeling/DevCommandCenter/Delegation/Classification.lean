import DevCommandCenter.Delegation.ApplySteps

/-! What the classification of a destination says of the files of the manifest. -/

namespace DevCommandCenter.Delegation

open Library GuardedUndo

def FileArtifact.Lost (host : ApplyHost) (tree : FileTree) (file : FileArtifact) : Prop :=
  ∀ snapshot, currentSnapshot host tree file.path = .ok snapshot → ¬file.Known snapshot

def Diverged (host : ApplyHost) (manifest : Manifest) (tree : FileTree) : Prop :=
  ∃ file ∈ manifest.files, file.Lost host tree

section Sides

variable {host : ApplyHost} {tree : FileTree} {manifest : Manifest} {files : List FileArtifact}

def onlyPre (host : ApplyHost) (tree : FileTree) (file : FileArtifact) : Bool :=
  currentSnapshot host tree file.path = .ok file.pre ∧ file.pre ≠ file.post

def onlyPost (host : ApplyHost) (tree : FileTree) (file : FileArtifact) : Bool :=
  currentSnapshot host tree file.path = .ok file.post ∧ file.post ≠ file.pre

lemma knownSides_of_lost {file : FileArtifact} (hfile : file ∈ files) (h : file.Lost host tree)
    (sides : Bool × Bool) : knownSides host tree sides files = none := by
  induction files generalizing sides with
  | nil => cases hfile
  | cons first files ih =>
      rw [knownSides]
      split
      · rfl
      · next current hcurrent =>
          split
          · rfl
          · next hknown =>
              rcases List.mem_cons.mp hfile with rfl | hfile
              · rw [not_and_or, not_not, not_not] at hknown
                exact absurd hknown (h current hcurrent)
              · exact ih hfile _

lemma knownSides_of_known (h : ∀ file ∈ files, ¬file.Lost host tree) (sides : Bool × Bool) :
    knownSides host tree sides files =
      some (sides.1 || files.any (onlyPre host tree), sides.2 || files.any (onlyPost host tree)) := by
  induction files generalizing sides with
  | nil => simp [knownSides]
  | cons file files ih =>
      obtain ⟨hfile, hfiles⟩ := List.forall_mem_cons.mp h
      simp only [FileArtifact.Lost, not_forall, not_not] at hfile
      obtain ⟨current, hcurrent, hknown⟩ := hfile
      have hside : ¬(current ≠ file.pre ∧ current ≠ file.post) := by
        rw [not_and_or, not_not, not_not]
        exact hknown
      have hpre : decide (current = file.pre ∧ current ≠ file.post) = onlyPre host tree file := by
        rw [onlyPre, hcurrent, decide_eq_decide, Except.ok.injEq]
        exact and_congr_right fun heq => by rw [heq]
      have hpost : decide (current = file.post ∧ current ≠ file.pre) = onlyPost host tree file := by
        rw [onlyPost, hcurrent, decide_eq_decide, Except.ok.injEq]
        exact and_congr_right fun heq => by rw [heq]
      simp only [knownSides, hcurrent, if_neg hside]
      rw [hpre, hpost, ih hfiles]
      simp only [List.any_cons, Bool.or_assoc]

theorem classifyManifest_divergent :
    classifyManifest host manifest tree = .divergent ↔ Diverged host manifest tree := by
  constructor
  · intro h
    by_contra hknown
    simp only [Diverged, not_exists, not_and] at hknown
    rw [classifyManifest, knownSides_of_known hknown] at h
    generalize (false || manifest.files.any (onlyPre host tree)) = pre at h
    generalize (false || manifest.files.any (onlyPost host tree)) = post at h
    cases pre <;> cases post <;> cases h
  · rintro ⟨file, hfile, hlost⟩
    rw [classifyManifest, knownSides_of_lost hfile hlost]

lemma classifyManifest_known (h : ¬Diverged host manifest tree) : classifyManifest host manifest tree =
    match manifest.files.any (onlyPre host tree), manifest.files.any (onlyPost host tree) with
    | false, true => .allPost
    | true, false => .allPre
    | true, true => .mixedKnown
    | false, false => .allPost := by
  simp only [Diverged, not_exists, not_and] at h
  rw [classifyManifest, knownSides_of_known h, Bool.false_or, Bool.false_or]
  cases manifest.files.any (onlyPre host tree) <;> cases manifest.files.any (onlyPost host tree) <;> rfl

lemma current_of_not_only {file : FileArtifact} (hknown : ¬file.Lost host tree) :
    (onlyPre host tree file = false → currentSnapshot host tree file.path = .ok file.post) ∧
    (onlyPost host tree file = false → currentSnapshot host tree file.path = .ok file.pre) := by
  simp only [FileArtifact.Lost, not_forall, not_not] at hknown
  obtain ⟨current, hcurrent, hside⟩ := hknown
  simp only [onlyPre, onlyPost, hcurrent, Except.ok.injEq, decide_eq_false_iff_not, not_and, not_not]
  rcases hside with rfl | rfl
  · exact ⟨fun h => h rfl, fun _ => rfl⟩
  · exact ⟨fun _ => rfl, fun h => h rfl⟩

lemma current_of_allPre (h : classifyManifest host manifest tree = .allPre) :
    ∀ file ∈ manifest.files, currentSnapshot host tree file.path = .ok file.pre := by
  have hknown : ¬Diverged host manifest tree := by
    rw [← classifyManifest_divergent, h]
    nofun
  rw [classifyManifest_known hknown] at h
  intro file hfile
  refine (current_of_not_only fun hlost => hknown ⟨file, hfile, hlost⟩).2 ?_
  split at h <;> cases h
  next hpost => exact Bool.eq_false_iff.mpr (List.any_eq_false.mp hpost file hfile)

lemma current_of_allPost (h : classifyManifest host manifest tree = .allPost) :
    ∀ file ∈ manifest.files, currentSnapshot host tree file.path = .ok file.post := by
  have hknown : ¬Diverged host manifest tree := by
    rw [← classifyManifest_divergent, h]
    nofun
  rw [classifyManifest_known hknown] at h
  intro file hfile
  refine (current_of_not_only fun hlost => hknown ⟨file, hfile, hlost⟩).1 ?_
  split at h <;> cases h
  · next hpre _ => exact Bool.eq_false_iff.mpr (List.any_eq_false.mp hpre file hfile)
  · next hpre _ => exact Bool.eq_false_iff.mpr (List.any_eq_false.mp hpre file hfile)

lemma classifyManifest_of_post
    (h : ∀ file ∈ manifest.files, currentSnapshot host tree file.path = .ok file.post) :
    classifyManifest host manifest tree = .allPost := by
  have hknown : ¬Diverged host manifest tree := by
    rintro ⟨file, hfile, hlost⟩
    exact hlost _ (h file hfile) (.inr rfl)
  have hpre : manifest.files.any (onlyPre host tree) = false := by
    rw [List.any_eq_false]
    intro file hfile
    simp only [onlyPre, h file hfile, Except.ok.injEq, decide_eq_true_eq, not_and, not_not]
    exact Eq.symm
  rw [classifyManifest_known hknown, hpre]
  cases manifest.files.any (onlyPost host tree) <;> rfl

theorem classifyManifest_of_pre
    (h : ∀ file ∈ manifest.files, currentSnapshot host tree file.path = .ok file.pre) :
    classifyManifest host manifest tree =
      if ∃ file ∈ manifest.files, file.pre ≠ file.post then .allPre else .allPost := by
  have hknown : ¬Diverged host manifest tree := by
    rintro ⟨file, hfile, hlost⟩
    exact hlost _ (h file hfile) (.inl rfl)
  have hpost : manifest.files.any (onlyPost host tree) = false := by
    rw [List.any_eq_false]
    intro file hfile
    simp only [onlyPost, h file hfile, Except.ok.injEq, decide_eq_true_eq, not_and, not_not]
    exact Eq.symm
  have hpre : manifest.files.any (onlyPre host tree) =
      decide (∃ file ∈ manifest.files, file.pre ≠ file.post) := by
    rw [Bool.eq_iff_iff, List.any_eq_true, decide_eq_true_eq]
    refine exists_congr fun file => and_congr_right fun hfile => ?_
    simp [onlyPre, h file hfile]
  rw [classifyManifest_known hknown, hpost, hpre]
  by_cases hchange : ∃ file ∈ manifest.files, file.pre ≠ file.post
  · rw [decide_eq_true hchange, if_pos hchange]
  · rw [decide_eq_false hchange, if_neg hchange]

end Sides

end DevCommandCenter.Delegation
