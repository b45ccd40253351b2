import DevCommandCenter.GuardedUndo.ArtifactDisks

/-! What the operations on the artifact store have achieved when they return, whatever others do at the
same time. -/

namespace DevCommandCenter.GuardedUndo

open Library Program

def ArtifactCall.IsFree : ArtifactCall → Prop
  | .create _ | .writeAll .. => False
  | _ => True

def artifactDiscipline : Discipline ArtifactDisk where
  Invariant := ArtifactDisk.Sound
  Evolves := ArtifactDisk.Evolves
  refl := .refl
  trans := .trans

def ArtifactDisk.Published (disk : ArtifactDisk) (key : ArtifactKey) : Prop :=
  (∃ ino bytes, disk.objects.get? (keyName key) = some ino ∧ disk.Whole ino key bytes) ∨
    keyName key ∈ disk.cleaned

lemma ArtifactDisk.Published.later {disk disk' : ArtifactDisk} {key : ArtifactKey}
    (h : disk.Published key) (hevolves : disk.Evolves disk') : disk'.Published key := by
  rcases h with ⟨ino, bytes, hname, hwhole⟩ | hcleaned
  · rcases hevolves.objects _ _ hname with hstays | hcleaned
    · exact .inl ⟨ino, bytes, hstays, hwhole.later hevolves⟩
    · exact .inr hcleaned
  · exact .inr (hevolves.cleaned _ hcleaned)

section Free

variable (host : StoreHost) {α : Type}

lemma only_inspectArtifact (ino expectedLinks : ℕ) :
    (inspectArtifact host ino expectedLinks).Only ArtifactCall.IsFree := by
  refine Only.bind (only_invoke trivial) fun stat => ?_
  split
  · exact only_fail
  · refine Only.bind (only_invoke trivial) fun _ => ?_
    split
    · exact only_fail
    · split
      · exact only_fail
      · refine Only.bind (only_invoke trivial) fun content => ?_
        split
        · exact only_fail
        · split
          · exact only_fail
          · exact only_pure

lemma only_syncStaged (ino : ℕ) : (syncStaged ino).Only ArtifactCall.IsFree :=
  Only.bind (only_invoke trivial) fun _ => only_invoke trivial

lemma only_removal (area : StoreArea) (name : EntryName) :
    (do
      unlink area name
      fsyncDir area : StoreProgram Unit).Only ArtifactCall.IsFree :=
  Only.bind (only_invoke trivial) fun _ => only_invoke trivial

lemma only_verifyFd (key : ArtifactKey) (expectedSize : ℕ) (expectedSha256 : Sha256Digest)
    (allowLinked : Bool) :
    (verifyFd host key expectedSize expectedSha256 allowLinked).Only ArtifactCall.IsFree := by
  unfold verifyFd
  split
  · exact only_fail
  · refine Only.bind (only_invoke trivial) fun file => ?_
    refine Only.bind (only_inspectArtifact host file _) fun snapshot => ?_
    split
    · exact only_fail
    · exact only_pure

lemma only_requireSameInode (name : EntryName) (error : MacArtifactStoreError) :
    (requireSameInode name error).Only ArtifactCall.IsFree := by
  refine Only.bind (only_invoke trivial) fun staging => ?_
  refine Only.bind (only_invoke trivial) fun finalFile => ?_
  refine Only.bind (only_invoke trivial) fun left => ?_
  refine Only.bind (only_invoke trivial) fun right => ?_
  split
  · exact only_pure
  · exact only_fail

lemma only_isNamed (area : StoreArea) (name : EntryName) :
    (isNamed area name).Only ArtifactCall.IsFree := by
  refine Only.andThen (only_invoke trivial) fun result => ?_
  split
  · exact only_pure
  · exact only_pure
  · exact only_fail

lemma only_cleanupVerified (artifact : VerifiedArtifact) :
    (cleanupVerified host artifact).Only ArtifactCall.IsFree := by
  refine Only.bind ?_ fun _ => only_removal .objects _
  unfold verify
  split
  · exact only_fail
  · exact only_verifyFd host _ _ _ _

lemma only_cleanupStaged (artifact : StagedArtifact) :
    (cleanupStaged host artifact).Only ArtifactCall.IsFree := by
  refine Only.bind (only_invoke trivial) fun file => ?_
  refine Only.bind (only_inspectArtifact host file 1) fun snapshot => ?_
  split
  · exact only_fail
  · exact only_removal .staging _

end Free

section Safe

variable {host : StoreHost} {disk : ArtifactDisk} {α : Type} {key : ArtifactKey}

lemma keeps_of_only {p : StoreProgram α} (h : p.Only ArtifactCall.IsFree) :
    p.Safe (perform host) artifactDiscipline (fun _ _ => True) disk := by
  refine h.safe fun c t input reply u hfree hsound hreply => ?_
  refine perform_sound hsound ?_ hreply
  cases c with
  | create bytes => cases hfree
  | writeAll ino bytes => cases hfree
  | _ => trivial

lemma safe_cleanupFailedStage {Q : α → ArtifactDisk → Prop} (name : EntryName)
    (error : MacArtifactStoreError) :
    (cleanupFailedStage name error : StoreProgram α).Safe (perform host) artifactDiscipline Q disk :=
  (keeps_of_only (only_removal .staging name)).andThen (fun _ _ _ _ _ => safe_fail) fun _ _ _ _ => safe_fail

lemma safe_writeStaged {ino : ℕ} {bytes : List Byte} (h : disk.Holds ino key bytes) :
    (writeStaged ino bytes).Safe (perform host) artifactDiscipline (fun _ t => t.Whole ino key bytes)
      disk := by
  refine Safe.bind (Q := fun _ t => t.Whole ino key bytes) ?_ ?_
  · refine safe_invoke fun t hevolves hsound draw reply u hreply => ?_
    have hholds := h.later hevolves
    have hallows : t.Allows (.writeAll ino bytes) := ⟨key, hholds⟩
    obtain ⟨hsound', hevolves'⟩ := perform_sound hsound hallows hreply
    refine ⟨hsound', hevolves', ?_⟩
    rintro a rfl v hlater -
    refine ArtifactDisk.Whole.later ?_ hlater
    obtain ⟨node, hnode, hkey, rfl⟩ := hholds
    cases hfault : draw.fault with
    | some fault => simp [perform, hnode, hfault] at hreply
    | none =>
        simp only [perform, hnode, hfault, Option.map_some, Option.some.injEq, Prod.mk.injEq] at hreply
        refine ⟨{ node with content := written node.content node.bytes node.bytes.length }, ?_, hkey, rfl,
          written_all (hsound.begun ino node hnode).1⟩
        rw [← hreply.2]
        exact List.getElem?_set_self (List.getElem?_eq_some_iff.mp hnode).1
  · intro _ t _ _ hwhole
    have hfree : (fsCall (.syncFile ino)).Only ArtifactCall.IsFree := only_invoke trivial
    exact (keeps_of_only hfree).weaken fun _ u hevolves _ _ => hwhole.later hevolves

lemma safe_stage (bytes : List Byte) (maximumBytes : ℕ) :
    (stage host bytes maximumBytes).Safe (perform host) artifactDiscipline
      (fun artifact t => ∃ ino, t.Whole ino artifact.key bytes) disk := by
  unfold stage
  split
  · exact safe_fail
  · next hfits =>
    refine Safe.bind (Q := fun created t => t.Holds created.2 created.1 bytes) ?_ ?_
    · refine safe_invoke fun t _ hsound draw reply u hreply => ?_
      have hallows : t.Allows (.create bytes) := by
        show bytes.length ≤ maxPreimageBytesPerFile
        omega
      obtain ⟨hsound', hevolves'⟩ := perform_sound hsound hallows hreply
      refine ⟨hsound', hevolves', ?_⟩
      rintro ⟨key, ino⟩ rfl v hlater -
      refine ArtifactDisk.Holds.later ?_ hlater
      cases hfault : draw.fault with
      | some fault => simp [perform, hfault] at hreply
      | none =>
          simp only [perform, hfault] at hreply
          split at hreply
          · cases hreply
          · split at hreply
            · simp at hreply
            · cases hreply
              exact ⟨_, List.getElem?_concat_length, rfl, rfl⟩
    · rintro ⟨key, ino⟩ t - - hholds
      refine Safe.bind (Q := fun _ u => u.Whole ino key bytes) ?_ fun _ u _ _ hwhole => ?_
      · refine Safe.onError ?_ fun error u _ _ => safe_cleanupFailedStage _ error
        exact (safe_writeStaged hholds).weaken fun _ u _ _ hwhole v hlater _ => hwhole.later hlater
      · refine Safe.bind (Q := fun _ _ => True) ?_ fun _ v hv _ _ => ?_
        · refine Safe.onError ?_ fun error v _ _ => safe_cleanupFailedStage _ error
          exact (keeps_of_only (only_syncStaged ino)).weaken fun _ _ _ _ _ _ _ _ => trivial
        · refine Safe.bind (Q := fun _ _ => True) ?_ fun file w hw _ _ => ?_
          · refine Safe.onError ?_ fun error w _ _ => safe_cleanupFailedStage _ error
            have hfree : (openNamed .staging (keyName key)).Only ArtifactCall.IsFree := only_invoke trivial
            exact (keeps_of_only hfree).weaken fun _ _ _ _ _ _ _ _ => trivial
          · refine Safe.bind (Q := fun _ _ => True) ?_ fun snapshot x hx _ _ => ?_
            · refine Safe.onError ?_ fun error x _ _ => safe_cleanupFailedStage _ error
              exact (keeps_of_only (only_inspectArtifact host file 1)).weaken fun _ _ _ _ _ _ _ _ => trivial
            · split
              · refine safe_pure fun y hy _ => ⟨ino, ?_⟩
                exact (((hwhole.later hv).later hw).later hx).later hy
              · exact safe_cleanupFailedStage _ _

lemma safe_verifyFd {expectedSize : ℕ} {expectedSha256 : Sha256Digest} {allowLinked : Bool}
    (h : ∃ ino bytes, disk.Whole ino key bytes) :
    (verifyFd host key expectedSize expectedSha256 allowLinked).Safe (perform host) artifactDiscipline
      (fun artifact t => artifact.key = key ∧ t.Published key) disk := by
  obtain ⟨ino, bytes, hwhole⟩ := h
  unfold verifyFd
  split
  · exact safe_fail
  · refine Safe.bind (Q := fun _ t => t.Published key) ?_ fun file t _ _ hpublished => ?_
    · refine safe_invoke fun t hevolves hsound draw reply u hreply => ?_
      have hallows : t.Allows (.openAt .objects (keyName key)) := trivial
      obtain ⟨hsound', hevolves'⟩ := perform_sound hsound hallows hreply
      refine ⟨hsound', hevolves', ?_⟩
      rintro file rfl v hlater -
      refine ArtifactDisk.Published.later (.inl ?_) (hevolves'.trans hlater)
      have hname : t.objects.get? (keyName key) = some file := by
        cases hfault : draw.fault with
        | some fault => simp [perform, hfault] at hreply
        | none =>
            cases hget : t.objects.get? (keyName key) with
            | none => simp [perform, hfault, answer, ArtifactDisk.directory, hget] at hreply
            | some found =>
                simp only [perform, hfault, answer, ArtifactDisk.directory, hget, Option.map_some,
                  Option.some.injEq, Prod.mk.injEq, Except.ok.injEq] at hreply
                rw [hreply.1]
      obtain ⟨node, hnode, hkey, hbytes⟩ := hwhole.later hevolves
      obtain ⟨named, hnamed, hname'⟩ := hsound.named .objects _ _ hname
      cases hsound.ino_eq hnamed hnode (hkey ▸ (keyName_injective hname').symm)
      exact ⟨_, bytes, hname, node, hnode, hkey, hbytes⟩
    · refine Safe.bind (keeps_of_only (only_inspectArtifact host file _)) fun snapshot u hu _ _ => ?_
      split
      · exact safe_fail
      · exact safe_pure fun v hv _ => ⟨rfl, (hpublished.later hu).later hv⟩

def Publishes (key : ArtifactKey) (state : PublishState) (disk : ArtifactDisk) : Prop :=
  ∀ artifact, state = .published artifact → artifact.key = key ∧ disk.Published key

lemma safe_reconciling {staged : StagedArtifact} {p : StoreProgram α} {Q : α → ArtifactDisk → Prop}
    (hstable : ∀ a t u, ArtifactDisk.Evolves t u → Q a t → Q a u)
    (h : p.Safe (perform host) artifactDiscipline Q disk) :
    (reconciling staged p).Safe (perform host) artifactDiscipline Q disk := by
  refine Safe.onError ?_ fun _ _ _ _ => safe_fail
  exact h.weaken fun a t _ _ hQ u hevolves _ => hstable a t u hevolves hQ

lemma safe_published (artifact : VerifiedArtifact) (hkey : artifact.key = key)
    (h : disk.Published key) : (pure (.published artifact) : StoreProgram PublishState).Safe (perform host)
      artifactDiscipline (Publishes key) disk := by
  refine safe_pure fun t hevolves _ => ?_
  rintro _ ⟨⟩
  exact ⟨hkey, h.later hevolves⟩

lemma safe_completeLinkedPublish {staged : StagedArtifact} {name : EntryName}
    (h : ∃ ino bytes, disk.Whole ino staged.key bytes) :
    (completeLinkedPublish host staged name).Safe (perform host) artifactDiscipline
      (Publishes staged.key) disk := by
  obtain ⟨ino, bytes, hwhole⟩ := h
  have hfree : ∀ {t : ArtifactDisk} {β : Type} {p : StoreProgram β}, p.Only ArtifactCall.IsFree →
      (reconciling staged p).Safe (perform host) artifactDiscipline (fun _ _ => True) t :=
    fun hp => safe_reconciling (fun _ _ _ _ _ => trivial) (keeps_of_only hp)
  refine Safe.bind (hfree (only_invoke trivial)) fun _ t ht _ _ => ?_
  refine Safe.bind (hfree (only_verifyFd host _ _ _ _)) fun _ u hu _ _ => ?_
  refine Safe.bind (hfree (only_invoke trivial)) fun _ v hv _ _ => ?_
  refine Safe.bind (hfree (only_invoke trivial)) fun _ w hw _ _ => ?_
  have hwhole' := (((hwhole.later ht).later hu).later hv).later hw
  refine Safe.bind (Q := fun artifact x => artifact.key = staged.key ∧ x.Published staged.key) ?_ ?_
  · apply safe_reconciling
    · exact fun _ _ _ hevolves h => ⟨h.1, h.2.later hevolves⟩
    · unfold verify
      split
      · exact safe_fail
      · exact safe_verifyFd ⟨ino, bytes, hwhole'⟩
  · exact fun artifact x _ _ h => safe_published artifact h.1 h.2

lemma safe_publish {staged : StagedArtifact} (h : ∃ ino bytes, disk.Whole ino staged.key bytes) :
    (publish host staged).Safe (perform host) artifactDiscipline (Publishes staged.key) disk := by
  obtain ⟨ino, bytes, hwhole⟩ := h
  have hopen : (openNamed .staging (keyName staged.key)).Only ArtifactCall.IsFree := only_invoke trivial
  refine Safe.bind (keeps_of_only hopen) fun file t ht _ _ => ?_
  refine Safe.bind (keeps_of_only (only_inspectArtifact host file 1)) fun snapshot u hu _ _ => ?_
  split
  · exact safe_fail
  · have hlink : (linkStaged (keyName staged.key)).Only ArtifactCall.IsFree := only_invoke trivial
    refine Safe.bind (keeps_of_only hlink) fun _ v hv _ _ => ?_
    exact safe_completeLinkedPublish ⟨ino, bytes, ((hwhole.later ht).later hu).later hv⟩

lemma safe_finishLinked {staged : StagedArtifact} (h : ∃ ino bytes, disk.Whole ino staged.key bytes) :
    (finishLinked host staged).Safe (perform host) artifactDiscipline (Publishes staged.key) disk := by
  obtain ⟨ino, bytes, hwhole⟩ := h
  have hfree : ∀ {t : ArtifactDisk} {p : StoreProgram Unit}, p.Only ArtifactCall.IsFree →
      (reconciling staged p).Safe (perform host) artifactDiscipline (fun _ _ => True) t :=
    fun hp => safe_reconciling (fun _ _ _ _ _ => trivial) (keeps_of_only hp)
  refine Safe.bind (keeps_of_only (only_requireSameInode _ _)) fun _ t ht _ _ => ?_
  refine Safe.bind (hfree (only_invoke trivial)) fun _ u hu _ _ => ?_
  refine Safe.bind (hfree (only_invoke trivial)) fun _ v hv _ _ => ?_
  refine Safe.bind (Q := fun artifact x => artifact.key = staged.key ∧ x.Published staged.key) ?_ ?_
  · apply safe_reconciling
    · exact fun _ _ _ hevolves h => ⟨h.1, h.2.later hevolves⟩
    · exact safe_verifyFd ⟨ino, bytes, ((hwhole.later ht).later hu).later hv⟩
  · exact fun artifact x _ _ h => safe_published artifact h.1 h.2

lemma safe_retryLink {staged : StagedArtifact} (h : ∃ ino bytes, disk.Whole ino staged.key bytes) :
    (retryLink host staged).Safe (perform host) artifactDiscipline (Publishes staged.key) disk := by
  obtain ⟨ino, bytes, hwhole⟩ := h
  have hlink : (linkStaged (keyName staged.key)).Only ArtifactCall.IsFree := only_invoke trivial
  refine Safe.andThen (keeps_of_only hlink) ?_ ?_
  · exact fun _ t ht _ _ => safe_completeLinkedPublish ⟨ino, bytes, hwhole.later ht⟩
  · intro error t ht _
    split
    · rename_i heq
      cases heq
    · -- the name was there
      refine Safe.bind (safe_verifyFd ⟨ino, bytes, hwhole.later ht⟩) fun artifact u hu _ hpublished => ?_
      refine Safe.bind (keeps_of_only (only_requireSameInode _ _)) fun _ v hv _ _ => ?_
      have hwhole' := ((hwhole.later ht).later hu).later hv
      refine Safe.bind (safe_completeLinkedPublish ⟨ino, bytes, hwhole'⟩) fun _ w hw _ _ => ?_
      exact safe_published artifact hpublished.1 ((hpublished.2.later hv).later hw)
    · exact safe_fail

lemma safe_reconcilePublish {staged : StagedArtifact} (h : ∃ ino bytes, disk.Whole ino staged.key bytes) :
    (reconcilePublish host staged).Safe (perform host) artifactDiscipline (Publishes staged.key) disk := by
  obtain ⟨ino, bytes, hwhole⟩ := h
  refine Safe.bind (keeps_of_only (only_isNamed _ _)) fun stagingExists t ht _ _ => ?_
  split
  · refine Safe.bind (safe_verifyFd ⟨ino, bytes, hwhole.later ht⟩) fun artifact u _ _ hpublished => ?_
    exact safe_published artifact hpublished.1 hpublished.2
  · refine Safe.andThen (keeps_of_only (only_verifyFd host _ _ _ _)) ?_ ?_
    · exact fun _ u hu _ _ => safe_finishLinked ⟨ino, bytes, (hwhole.later ht).later hu⟩
    · intro error u hu _
      split
      · rename_i heq
        cases heq
      · exact safe_retryLink ⟨ino, bytes, (hwhole.later ht).later hu⟩
      · exact safe_fail

end Safe

def Achieved (operation : ArtifactOperation) : ArtifactResult → ArtifactDisk → Prop
  | .staged artifact, disk => ∃ bytes maximumBytes ino, operation = .stage bytes maximumBytes ∧
      disk.Whole ino artifact.key bytes
  | .publish state, disk => ∃ staged, (operation = .publish staged ∨ operation = .reconcilePublish staged) ∧
      Publishes staged.key state disk
  | .cleanedUp, _ => True

section Run

variable {host : StoreHost} {s : ArtifactRun}

lemma safe_code {disk : ArtifactDisk} {results : List (ArtifactOperation × ArtifactResult)}
    (hresults : ∀ result ∈ results, Achieved result.1 result.2 disk) {operation : ArtifactOperation}
    (hadmits : admitsOperation results operation = true) :
    (operation.code host).Safe (perform host) artifactDiscipline (Achieved operation) disk := by
  have hstaged : ∀ staged, (results.any fun result => result.2 = .staged staged) = true →
      ∃ ino bytes, disk.Whole ino staged.key bytes := by
    intro staged hany
    obtain ⟨⟨began, result⟩, hresult, heq⟩ := List.any_eq_true.mp hany
    cases of_decide_eq_true heq
    obtain ⟨bytes, -, ino, -, hwhole⟩ := hresults _ hresult
    exact ⟨ino, bytes, hwhole⟩
  have hpublishes : ∀ {staged : StagedArtifact} {state : PublishState} {t : ArtifactDisk},
      (operation = .publish staged ∨ operation = .reconcilePublish staged) →
      Publishes staged.key state t → (pure (.publish state) : StoreProgram ArtifactResult).Safe (perform host)
        artifactDiscipline (Achieved operation) t := by
    intro staged state t hoperation h
    refine safe_pure fun u hevolves _ => ⟨staged, hoperation, fun artifact hstate => ?_⟩
    exact ⟨(h artifact hstate).1, (h artifact hstate).2.later hevolves⟩
  cases operation with
  | stage bytes maximumBytes =>
      refine Safe.bind (safe_stage bytes maximumBytes) ?_
      rintro artifact t - - ⟨ino, hwhole⟩
      exact safe_pure fun u hevolves _ => ⟨bytes, maximumBytes, ino, rfl, hwhole.later hevolves⟩
  | publish staged =>
      exact Safe.bind (safe_publish (hstaged staged hadmits)) fun _ _ _ _ h => hpublishes (.inl rfl) h
  | reconcilePublish staged =>
      exact Safe.bind (safe_reconcilePublish (hstaged staged hadmits)) fun _ _ _ _ h =>
        hpublishes (.inr rfl) h
  | cleanupVerified artifact =>
      exact Safe.bind (keeps_of_only (only_cleanupVerified host artifact)) fun _ _ _ _ _ =>
        safe_pure fun _ _ _ => trivial
  | cleanupStaged artifact =>
      exact Safe.bind (keeps_of_only (only_cleanupStaged host artifact)) fun _ _ _ _ _ =>
        safe_pure fun _ _ _ => trivial

lemma sound_empty : ArtifactDisk.empty.Sound where
  keys := List.nodup_nil
  named area name ino h := by cases area <;> cases h
  linked _ _ h := by cases h
  begun _ _ h := by cases h

theorem artifacts_disciplined (h : System.Reachable (artifactStore host) s) :
    Disciplined (perform host) artifactDiscipline Achieved s :=
  disciplined_of_reachable sound_empty
    (fun _ _ _ _ hresults hadmits => safe_code hresults hadmits) h

theorem staged_of_published (h : System.Reachable (artifactStore host) s) {operation : ArtifactOperation}
    {artifact : VerifiedArtifact} (hmem : (operation, .publish (.published artifact)) ∈ returned s.calls) :
    s.shared.Published artifact.key ∧ ∃ bytes maximumBytes staged,
      (.stage bytes maximumBytes, .staged staged) ∈ returned s.calls ∧ staged.key = artifact.key := by
  obtain ⟨staged, hoperation, hpublishes⟩ := (artifacts_disciplined h).returned hmem
  obtain ⟨hkey, hpublished⟩ := hpublishes artifact rfl
  refine ⟨hkey ▸ hpublished, ?_⟩
  have hadmitted := admitted_of_reachable (fun results results' operation hsub hadmits => ?_) h
  · obtain ⟨running, hrunning, hreturned⟩ := List.mem_filterMap.mp hmem
    have hsame : running.operation = operation := by
      unfold Running.returned at hreturned
      split at hreturned <;> cases hreturned
      rfl
    have hany : ((returned s.calls).any fun result => result.2 = .staged staged) = true := by
      have hadmits := hadmitted running hrunning
      rw [hsame] at hadmits
      rcases hoperation with rfl | rfl <;> exact hadmits
    obtain ⟨⟨began, result⟩, hresult, heq⟩ := List.any_eq_true.mp hany
    cases of_decide_eq_true heq
    obtain ⟨bytes, maximumBytes, ino, rfl, -⟩ := (artifacts_disciplined h).returned hresult
    exact ⟨bytes, maximumBytes, staged, hresult, hkey.symm⟩
  · cases operation with
    | stage bytes maximumBytes => rfl
    | cleanupVerified artifact => rfl
    | _ =>
        obtain ⟨result, hresult, heq⟩ := List.any_eq_true.mp hadmits
        exact List.any_eq_true.mpr ⟨result, hsub hresult, heq⟩

end Run

end DevCommandCenter.GuardedUndo
