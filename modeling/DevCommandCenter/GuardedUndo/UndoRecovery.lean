import DevCommandCenter.GuardedUndo.UndoCalls

/-! Rolling back and recovering an undo: whatever fails and wherever the process stops, it is sound. -/

namespace DevCommandCenter.GuardedUndo

open Library JournalStore UndoScope

variable {env : RestoreEnvironment} {scope : UndoScope} {files list done : List UndoOperationFile}
  {state expected next : UndoOperationState} {D : UndoDisk → Prop} {I : Durable → Prop}
  {file original current : UndoOperationFile} {now : ℕ}

lemma holds_sound (howns : scope.Owns files) (d : Durable) (h : scope.Holds files state d) :
    scope.Sound d :=
  ⟨files, state, howns, h⟩

lemma stands_sound (howns : scope.Owns files) (hD : ∀ disk, D disk → disk.AllFit files state)
    (d : Durable) (h : scope.Stands files state D d) : scope.Sound d :=
  ⟨files, state, howns, h.1, hD d.disk h.2⟩

section Files

lemma recordVerified_triple (hI : ∀ d, scope.Stands files state D d → I d) (hfile : file ∈ files)
    (halike : file.Alike current) :
    Service.Triple I (scope.Stands files state D) (recordVerified env current now)
      fun _ => scope.Stands files state D := by
  unfold recordVerified
  split
  · refine Call.Triple.bind (transitionFile_triple hI hfile ?_ _) fun answer => ?_
    · exact halike.trans ⟨.refl current, rfl⟩
    cases answer with
    | error e => exact .pure fun _ h => h
    | ok wrote => exact .pure fun _ h => h
  · exact .pure fun _ h => h

lemma recordAppliedVerified_triple (hI : ∀ d, scope.Stands files state D d → I d)
    (hid : original.operationId = scope.id) :
    Service.Triple I (scope.Stands files state D) (recordAppliedVerified env original now)
      fun _ => scope.Stands files state D := by
  refine loadedFile_bind hid hI (.pure fun _ h => h) fun file hfile current halike => ?_
  dsimp only
  split
  · have happlied : file.Alike { withDisplaced current with
        state := .applied, updatedAt := env.timestamp now } := halike.trans ⟨.refl current, rfl⟩
    refine (transitionFile_triple hI hfile happlied _).bind fun answer => ?_
    cases answer with
    | error e => exact .pure fun _ h => h
    | ok wrote => exact recordVerified_triple hI hfile happlied
  · exact recordVerified_triple hI hfile halike

lemma alike_rolledBackFile (current : UndoOperationFile) (now : ℕ) :
    current.Alike (rolledBackFile env current now) := by
  unfold rolledBackFile
  dsimp only
  split <;> exact ⟨.refl current, rfl⟩

lemma markFileRolledBack_triple (hI : ∀ d, scope.Stands files state D d → I d)
    (hid : original.operationId = scope.id) :
    Service.Triple I (scope.Stands files state D) (markFileRolledBack env original now)
      fun _ => scope.Stands files state D := by
  refine loadedFile_bind hid hI (.pure fun _ h => h) fun file hfile current halike => ?_
  dsimp only
  split
  · exact .pure fun _ h => h
  · refine (transitionFile_triple hI hfile (halike.trans (alike_rolledBackFile current now)) _).bind
      fun answer => ?_
    cases answer with
    | error e => exact .pure fun _ h => h
    | ok wrote => exact .pure fun _ h => h

lemma markFileRecovery_triple (hI : ∀ d, scope.Stands files state D d → I d)
    (hid : original.operationId = scope.id) :
    Service.Triple I (scope.Stands files state D) (markFileRecovery env original now)
      fun _ => scope.Stands files state D := by
  refine loadedFile_bind hid hI (.pure fun _ h => h) fun file hfile current halike => ?_
  dsimp only
  split
  · exact .pure fun _ h => h
  · refine Call.Triple.bind (transitionFile_triple hI hfile ?_ _) fun answer => ?_
    · exact halike.trans ⟨.refl current, rfl⟩
    cases answer with
    | error e => exact .pure fun _ h => h
    | ok wrote => exact .pure fun _ h => h

end Files

section Endings

lemma requireRecovery_triple (howns : scope.Owns files)
    (hD : ∀ disk, D disk → disk.AllFit files state) (reason : GuardedUndoReasonCode) (label : String) :
    Service.Triple scope.Sound (scope.Stands files state D)
      (requireRecovery env scope.id expected reason label now) fun _ => scope.Sound := by
  refine transitionOperation_bind (stands_sound howns hD) (fun e => .pure (stands_sound howns hD))
    fun wrote hstate => .pure (stands_sound howns fun disk hdisk file hfile => ?_)
  rcases hstate with ⟨-, hsteps⟩ | rfl
  · exact (hD disk hdisk file hfile).recovery hsteps
  · exact hD disk hdisk file hfile

lemma finishCleanup_triple (hI : ∀ d, scope.Stands files state D d → I d) :
    Service.Triple I (scope.Stands files state D) (finishCleanup env scope.id)
      fun _ => scope.Stands files state D := by
  refine repositoryCall_triple hI (fun _ _ hd => hd) fun d answer journal hd hcall => ?_
  cases hcall
  exact ⟨hd.1.cleanupFinished _, hd.2⟩

lemma cleanupOne_triple (howns : scope.Owns files) (hstate : state.inactive = true)
    (file : UndoOperationFile) :
    Service.Triple scope.Sound (scope.Holds files state) (cleanupOne env state file)
      fun _ => scope.Holds files state := by
  have hinspects : Service.Triple scope.Sound (scope.Holds files state)
      (inspectExchange env file.pathBytes file.exchangeArtifactKey) fun seen d =>
        scope.Holds files state d ∧
          ∀ found, seen = .ok found → d.disk.siblings file.pathBytes file.exchangeArtifactKey = some found :=
    inspectExchange_triple (holds_sound howns) _ _
  unfold cleanupOne
  dsimp only
  split
  · exact .pure fun _ h => h
  · exact hinspects.bind fun observed => .pure fun d hd => hd.1
  · next evidence _ =>
    refine hinspects.bind fun observed => Call.Triple.pre (H := scope.Holds files state) ?_
      fun d hd => hd.1
    split
    · refine Call.Triple.bind (cleanupExchange_triple (holds_sound howns) ?_) fun answer => ?_
      · exact fun d hd => ⟨hd.1, fun other hother => (hd.2 other hother).setSibling hstate _ _ _⟩
      cases answer with
      | error e => exact .pure fun _ h => h
      | ok _ => exact .pure fun _ h => h
    · exact .pure fun _ h => h

lemma cleanupAndFinish_triple (howns : scope.Owns files) (hstate : state.inactive = true) :
    Service.Triple scope.Sound (scope.Holds files state) (cleanupAndFinish env scope.id files state)
      fun _ => scope.Holds files state := by
  refine (allFiles_keeps fun file _ => cleanupOne_triple howns hstate file).bind fun cleaned => ?_
  split
  · refine (finishCleanup_triple (holds_sound howns)).bind fun answer => ?_
    exact .pure fun _ h => h
  · exact .pure fun _ h => h

end Endings

section Rollback

def UndoScope.Returning (scope : UndoScope) (files done : List UndoOperationFile) :
    Durable → Prop :=
  scope.Stands files .rollingBack fun disk =>
    disk.AllFit files .rollingBack ∧ ∀ file ∈ done, disk.Untouched file

lemma returning_sound (howns : scope.Owns files) (d : Durable) (h : scope.Returning files done d) :
    scope.Sound d :=
  stands_sound howns (fun _ h => h.1) d h

lemma UndoDisk.exchanged_untouched {disk : UndoDisk} {other : UndoOperationFile}
    {target sibling : FileEvidence} (hother : other.pathBytes ≠ file.pathBytes)
    (h : disk.Untouched other) :
    (disk.exchanged file.pathBytes file.exchangeArtifactKey target sibling).Untouched other := by
  simp only [UndoDisk.Untouched, UndoDisk.exchanged]
  rw [Function.update_of_ne hother]
  exact h

lemma exchangeBack_triple (howns : scope.Owns files) (horiginal : original ∈ files)
    (hdone : ∀ file ∈ done, file ∈ files) :
    Service.Triple scope.Sound (scope.Returning files done) (exchangeBack env original)
      fun _ => scope.Returning files done := by
  refine (pairIsApplied_triple (returning_sound howns) original).bind fun applied => ?_
  refine Call.Triple.pre (H := scope.Returning files done) ?_ fun d hd => hd.1
  split
  · split
    · exact .fail (returning_sound howns)
    · next staged _ =>
      refine Call.Triple.bind (exchange_triple (returning_sound howns) ?_) fun answer => ?_
      · intro d hd _ _
        refine ⟨hd.1, fun other hother => ?_, fun other hother => ?_⟩
        · by_cases hpath : other.pathBytes = original.pathBytes
          · rw [howns.distinct other hother original horiginal hpath]
            exact .inl (UndoDisk.untouched_of_exchanged staged)
          · exact UndoDisk.exchanged_inBetween hpath (hd.2.1 other hother)
        · by_cases hpath : other.pathBytes = original.pathBytes
          · rw [howns.distinct other (hdone other hother) original horiginal hpath]
            exact UndoDisk.untouched_of_exchanged staged
          · exact UndoDisk.exchanged_untouched hpath (hd.2.2 other hother)
      cases answer with
      | error e => exact .pure fun _ h => h
      | ok _ => exact .pure fun _ h => h
  · exact .pure fun _ h => h

def UndoScope.Unless (scope : UndoScope) (P : Durable → Prop) :
    Option ExecuteGuardedUndoResult → Durable → Prop
  | none => P
  | some _ => scope.Sound

lemma rollbackFile_triple (howns : scope.Owns files) (horiginal : original ∈ files)
    (hid : original.operationId = scope.id) (hdone : ∀ file ∈ done, file ∈ files) :
    Service.Triple scope.Sound (scope.Returning files done) (rollbackFile env scope.id now original)
      (scope.Unless (scope.Returning files (original :: done))) := by
  refine (exchangeBack_triple howns horiginal hdone).bind fun exchanged => ?_
  split
  · exact .map (requireRecovery_triple howns (fun _ h => h.1) _ _)
  refine (pairIsUnapplied_triple (returning_sound howns) original).bind fun unapplied => ?_
  split
  · refine Call.Triple.pre (H := scope.Returning files done) ?_ fun d hd => hd.1
    refine (markFileRecovery_triple (returning_sound howns) hid).bind fun _ => ?_
    exact .map (requireRecovery_triple howns (fun _ h => h.1) _ _)
  next hunapplied =>
  refine Call.Triple.pre (H := scope.Returning files (original :: done)) ?_ ?_
  · refine (markFileRolledBack_triple (returning_sound howns) hid).bind fun marked => ?_
    split
    · exact .map (requireRecovery_triple howns (fun _ h => h.1) _ _)
    · exact .pure fun _ h => h
  · intro d hd
    have hnow := hd.2 (Bool.not_eq_false _ ▸ hunapplied)
    exact ⟨hd.1.1, hd.1.2.1, List.forall_mem_cons.mpr ⟨hnow.1, hd.1.2.2⟩⟩

lemma rollbackFiles_triple (howns : scope.Owns files) (hlist : ∀ file ∈ list, file ∈ files)
    (hdone : ∀ file ∈ done, file ∈ files) :
    Service.Triple scope.Sound (scope.Returning files done) (rollbackFiles env scope.id now list)
      (scope.Unless (scope.Returning files (list ++ done))) := by
  induction list generalizing done with
  | nil => exact .pure fun _ h => h
  | cons original rest ih =>
      have horiginal := hlist original List.mem_cons_self
      refine (rollbackFile_triple howns horiginal (howns.own original horiginal) hdone).bind fun ended => ?_
      cases ended with
      | some result => exact .pure fun _ h => h
      | none =>
          refine (ih (fun file hfile => hlist file (List.mem_cons_of_mem _ hfile))
            (List.forall_mem_cons.mpr ⟨horiginal, hdone⟩)).post fun ended d hd => ?_
          cases ended with
          | some result => exact hd
          | none =>
              refine ⟨hd.1, hd.2.1, fun file hfile => hd.2.2 file ?_⟩
              simp only [List.cons_append, List.mem_append, List.mem_cons] at hfile ⊢
              tauto

lemma finishRollback_triple (howns : scope.Owns files) :
    Service.Triple scope.Sound (scope.Holds files .rollingBack) (finishRollback env scope.id now files)
      fun _ => scope.Sound := by
  have hnone : ∀ file ∈ ([] : List UndoOperationFile), file ∈ files := by simp
  refine ((rollbackFiles_triple howns (fun file hfile => List.mem_reverse.mp hfile) hnone).pre
    ?_).bind fun ended => ?_
  · exact fun d hd => ⟨hd.1, hd.2, by simp⟩
  cases ended with
  | some result => exact .pure fun _ h => h
  | none =>
      refine Call.Triple.pre
        (H := scope.Stands files .rollingBack fun disk => disk.AllFit files .rolledBack) ?_ ?_
      · refine transitionOperation_bind ?_ (fun e => requireRecovery_triple howns ?_ _ _)
          fun wrote _ => ?_
        · exact stands_sound howns fun disk hdisk file hfile => .inl (hdisk file hfile)
        · exact fun disk hdisk file hfile => .inl (hdisk file hfile)
        · refine (cleanupAndFinish_triple howns rfl).bind fun _ => ?_
          exact .pure (holds_sound howns)
      · exact fun d hd => ⟨hd.1, fun file hfile => hd.2.2 file (by simpa using hfile)⟩

lemma rollbackOperation_triple (howns : scope.Owns files) {operationState : UndoOperationState}
    (hstate : operationState = .rollingBack → state = .rollingBack) :
    Service.Triple scope.Sound (scope.Holds files state)
      (rollbackOperation env scope.id now operationState files) fun _ => scope.Sound := by
  unfold rollbackOperation
  split
  · next h =>
    rw [hstate h]
    exact finishRollback_triple howns
  · refine transitionOperation_bind (holds_sound howns)
      (fun e => requireRecovery_triple howns (fun _ h => h) _ _) fun wrote hsteps => ?_
    refine (finishRollback_triple howns).pre fun d hd => ⟨hd.1, fun file hfile => ?_⟩
    rcases hsteps with ⟨-, hsteps⟩ | rfl
    · exact (hd.2 file hfile).inBetween (UndoOperationState.not_inactive_of_stepsTo hsteps)
    · exact hd.2 file hfile

end Rollback

section Preparing

def UndoScope.Unprepared (scope : UndoScope) (files : List UndoOperationFile) : Durable → Prop :=
  scope.Stands files .rollingBack fun disk => disk.AllFit files .preparing

lemma unprepared_fits (disk : UndoDisk) (h : disk.AllFit files .preparing) :
    disk.AllFit files .rollingBack := fun file hfile => .inl (h file hfile)

lemma unprepared_sound (howns : scope.Owns files) (d : Durable) (h : scope.Unprepared files d) :
    scope.Sound d :=
  stands_sound howns unprepared_fits d h

lemma cleanupExchange_unprepared (howns : scope.Owns files) (path : OpaqueRepoPath)
    (key : ArtifactKey) (evidence : FileEvidence) :
    Service.Triple scope.Sound (scope.Unprepared files) (cleanupExchange env path key evidence)
      fun _ => scope.Unprepared files :=
  cleanupExchange_triple (unprepared_sound howns) fun _ hd => ⟨hd.1, hd.2⟩

lemma preparingDiverged_triple (howns : scope.Owns files) (hid : file.operationId = scope.id) :
    Service.Triple scope.Sound (scope.Unprepared files) (preparingDiverged env scope.id now file)
      (scope.Unless (scope.Unprepared files)) := by
  refine (markFileRecovery_triple (unprepared_sound howns) hid).bind fun _ => ?_
  exact .map (requireRecovery_triple howns unprepared_fits _ _)

lemma recoverPlanned_triple (howns : scope.Owns files) (hid : file.operationId = scope.id) :
    Service.Triple scope.Sound (scope.Unprepared files) (recoverPlanned env scope.id now file)
      (scope.Unless (scope.Unprepared files)) := by
  have hdiverged : Service.Triple scope.Sound (scope.Unprepared files)
      (do
        let _ ← markFileRecovery env file now
        some <$> requireRecovery env scope.id .rollingBack .manualRecoveryRequired
          "planned_sibling_diverged" now)
      (scope.Unless (scope.Unprepared files)) := by
    refine (markFileRecovery_triple (unprepared_sound howns) hid).bind fun _ => ?_
    exact .map (requireRecovery_triple howns unprepared_fits _ _)
  refine (inspectExchange_triple (unprepared_sound howns) _ _).bind fun observed => ?_
  refine Call.Triple.pre (H := scope.Unprepared files) ?_ fun d hd => hd.1
  cases observed with
  | ok evidence =>
      dsimp only
      split
      · refine (cleanupExchange_unprepared howns _ _ _).bind fun answer => ?_
        cases answer with
        | ok _ => exact .pure fun _ h => h
        | error e => exact .map (requireRecovery_triple howns unprepared_fits _ _)
      · exact hdiverged
  | error reason =>
      dsimp only
      split
      · exact .pure fun _ h => h
      · exact hdiverged

lemma recoverStaged_triple (howns : scope.Owns files) (hid : file.operationId = scope.id) :
    Service.Triple scope.Sound (scope.Unprepared files) (recoverStaged env scope.id now file)
      (scope.Unless (scope.Unprepared files)) := by
  refine (pairIsUnapplied_triple (unprepared_sound howns) file).bind fun unapplied => ?_
  refine Call.Triple.pre (H := scope.Unprepared files) ?_ fun d hd => hd.1
  split
  · split
    · exact .fail (unprepared_sound howns)
    · refine (cleanupExchange_unprepared howns _ _ _).bind fun answer => ?_
      cases answer with
      | ok _ => exact .pure fun _ h => h
      | error e => exact .map (requireRecovery_triple howns unprepared_fits _ _)
  · exact preparingDiverged_triple howns hid

lemma settleFile_triple (howns : scope.Owns files) (hid : file.operationId = scope.id)
    (label : String) :
    Service.Triple scope.Sound (scope.Unprepared files)
      (do
        if ← markFileRolledBack env file now then return none
        else
          some <$> requireRecovery env scope.id .rollingBack .manualRecoveryRequired label now)
      (scope.Unless (scope.Unprepared files)) := by
  refine (markFileRolledBack_triple (unprepared_sound howns) hid).bind fun marked => ?_
  split
  · exact .pure fun _ h => h
  · exact .map (requireRecovery_triple howns unprepared_fits _ _)

lemma recoverPreparingFile_triple (howns : scope.Owns files) (hid : file.operationId = scope.id) :
    Service.Triple scope.Sound (scope.Unprepared files) (recoverPreparingFile env scope.id now file)
      (scope.Unless (scope.Unprepared files)) := by
  unfold recoverPreparingFile
  dsimp only
  split
  · refine (recoverPlanned_triple howns hid).bind fun cleaned => ?_
    cases cleaned with
    | some result => exact .pure fun _ h => h
    | none => exact settleFile_triple howns hid _
  · refine (recoverStaged_triple howns hid).bind fun cleaned => ?_
    cases cleaned with
    | some result => exact .pure fun _ h => h
    | none => exact settleFile_triple howns hid _
  · refine (preparingDiverged_triple howns hid).bind fun cleaned => ?_
    cases cleaned with
    | some result => exact .pure fun _ h => h
    | none => exact settleFile_triple howns hid _

lemma recoverPreparingFiles_triple (howns : scope.Owns files)
    (hids : ∀ file ∈ list, file.operationId = scope.id) :
    Service.Triple scope.Sound (scope.Unprepared files) (recoverPreparingFiles env scope.id now list)
      (scope.Unless (scope.Unprepared files)) := by
  induction list with
  | nil => exact .pure fun _ h => h
  | cons file rest ih =>
      refine (recoverPreparingFile_triple howns (hids file List.mem_cons_self)).bind fun ended => ?_
      cases ended with
      | some result => exact .pure fun _ h => h
      | none => exact ih fun other hother => hids other (List.mem_cons_of_mem _ hother)

lemma abortFile_triple (howns : scope.Owns files) (hid : file.operationId = scope.id) :
    Service.Triple scope.Sound (scope.Unprepared files) (abortFile env scope.id now file)
      (scope.Unless (scope.Unprepared files)) := by
  unfold abortFile
  dsimp only
  split
  · refine (cleanupExchange_unprepared howns _ _ _).bind fun answer => ?_
    exact settleFile_triple howns hid _
  · exact settleFile_triple howns hid _

lemma abortFiles_triple (howns : scope.Owns files)
    (hids : ∀ file ∈ list, file.operationId = scope.id) :
    Service.Triple scope.Sound (scope.Unprepared files) (abortFiles env scope.id now list)
      (scope.Unless (scope.Unprepared files)) := by
  induction list with
  | nil => exact .pure fun _ h => h
  | cons file rest ih =>
      refine (abortFile_triple howns (hids file List.mem_cons_self)).bind fun ended => ?_
      cases ended with
      | some result => exact .pure fun _ h => h
      | none => exact ih fun other hother => hids other (List.mem_cons_of_mem _ hother)

lemma unprepared_bind (howns : scope.Owns files) {α : Type} {f : Except String Bool → Service α}
    {R : α → Durable → Prop}
    (herror : ∀ e, Service.Triple scope.Sound (scope.Holds files .preparing) (f (.error e)) R)
    (hok : ∀ wrote, Service.Triple scope.Sound (scope.Unprepared files) (f (.ok wrote)) R) :
    Service.Triple scope.Sound (scope.Holds files .preparing)
      (transitionOperation env scope.id .preparing .rollingBack none none now >>= f) R :=
  transitionOperation_bind (holds_sound howns) herror fun wrote _ => hok wrote

lemma recoverPreparing_triple (howns : scope.Owns files) :
    Service.Triple scope.Sound (scope.Holds files .preparing)
      (recoverPreparing env scope.id now files) fun _ => scope.Sound := by
  refine unprepared_bind howns (fun e => requireRecovery_triple howns (fun _ h => h) _ _)
    fun wrote => ?_
  refine (recoverPreparingFiles_triple howns howns.own).bind fun ended => ?_
  cases ended with
  | some result => exact .pure fun _ h => h
  | none =>
      refine transitionOperation_bind (unprepared_sound howns)
        (fun e => requireRecovery_triple howns unprepared_fits _ _) fun wrote _ => ?_
      refine (finishCleanup_triple (stands_sound howns fun _ h => h)).bind fun _ => ?_
      exact .pure (stands_sound howns fun _ h => h)

lemma abortPreparing_triple (howns : scope.Owns files) :
    Service.Triple scope.Sound (scope.Holds files .preparing) (abortPreparing env scope.id now files)
      fun _ => scope.Sound := by
  refine unprepared_bind howns (fun e => requireRecovery_triple howns (fun _ h => h) _ _)
    fun wrote => ?_
  refine (abortFiles_triple howns howns.own).bind fun ended => ?_
  cases ended with
  | some result => exact .pure fun _ h => h
  | none =>
      refine transitionOperation_bind (unprepared_sound howns)
        (fun e => requireRecovery_triple howns unprepared_fits _ _) fun wrote _ => ?_
      refine Call.Triple.bind (Q := fun _ => scope.Holds files .rolledBack) ?_ fun _ => ?_
      · exact cleanupAndFinish_triple howns rfl
      · exact .pure (holds_sound howns)

end Preparing

end DevCommandCenter.GuardedUndo
