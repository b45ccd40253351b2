import DevCommandCenter.GuardedUndo.UndoRecovery

/-! Carrying an undo out, and taking it up again after a stop: it stays sound. -/

namespace DevCommandCenter.GuardedUndo

open Library JournalStore UndoScope

variable {env : RestoreEnvironment} {scope : UndoScope} {files list : List UndoOperationFile}
  {state : UndoOperationState} {file : UndoOperationFile} {now : ℕ}

section Apply

lemma applyOne_triple (howns : scope.Owns files) (hfile : file ∈ files) :
    Service.Triple scope.Sound (scope.Holds files .applying) (applyOne env file)
      fun _ => scope.Holds files .applying := by
  refine (pairIsUnapplied_triple (holds_sound howns) file).bind fun unapplied => ?_
  refine Call.Triple.pre (H := scope.Holds files .applying) ?_ fun d hd => hd.1
  split
  · exact .pure fun _ h => h
  split
  · exact .pure fun _ h => h
  next staged hstaged =>
  refine Call.Triple.bind (exchange_triple (holds_sound howns) ?_) fun answer => ?_
  · refine fun d hd _ _ => ⟨hd.1, fun other hother => ?_⟩
    by_cases hpath : other.pathBytes = file.pathBytes
    · rw [howns.distinct other hother file hfile hpath]
      exact .inr (UndoDisk.applied_of_exchanged hstaged)
    · exact UndoDisk.exchanged_inBetween hpath (hd.2 other hother)
  cases answer with
  | error reason => exact .pure fun _ h => h
  | ok _ =>
      refine (pairIsApplied_triple (holds_sound howns) file).bind fun applied => ?_
      split
      · exact .pure fun d hd => hd.1
      · exact .pure fun d hd => hd.1

lemma applyFiles_triple (howns : scope.Owns files) (hlist : ∀ file ∈ list, file ∈ files) :
    Service.Triple scope.Sound (scope.Holds files .applying) (applyFiles env now list)
      fun _ => scope.Holds files .applying := by
  induction list with
  | nil => exact .pure fun _ h => h
  | cons file rest ih =>
      have hfile := hlist file List.mem_cons_self
      refine (applyOne_triple howns hfile).bind fun answer => ?_
      cases answer with
      | error reason => exact .pure fun _ h => h
      | ok _ =>
          refine (recordAppliedVerified_triple (holds_sound howns) (howns.own file hfile)).bind
            fun recorded => ?_
          split
          · exact ih fun other hother => hlist other (List.mem_cons_of_mem _ hother)
          · exact .pure fun _ h => h

def UndoScope.Exchanged (scope : UndoScope) (files : List UndoOperationFile)
    (state : UndoOperationState) : Durable → Prop :=
  scope.Stands files state fun disk => ∀ file ∈ files, disk.Applied file

lemma exchanged_fits {disk : UndoDisk} (hstate : state = .applying ∨ state = .verifying)
    (h : ∀ file ∈ files, disk.Applied file) : disk.AllFit files state := by
  intro file hfile
  rcases hstate with rfl | rfl <;> exact .inr (h file hfile)

lemma exchanged_sound (howns : scope.Owns files) (hstate : state = .applying ∨ state = .verifying)
    (d : Durable) (h : scope.Exchanged files state d) : scope.Sound d :=
  stands_sound howns (fun _ h => exchanged_fits hstate h) d h

lemma exchanged_completed (d : Durable) (h : scope.Exchanged files .completed d) :
    scope.Holds files .completed d :=
  ⟨h.1, fun file hfile => (h.2 file hfile).1⟩

lemma completeOperation_triple (howns : scope.Owns files) (hid : scope.id = env.operationId)
    (git : GitIdentityV1) :
    Service.Triple scope.Sound (scope.Holds files .applying) (completeOperation env now git files)
      fun _ => scope.Sound := by
  unfold completeOperation
  rw [← hid]
  refine transitionOperation_bind (holds_sound howns)
    (fun e => requireRecovery_triple howns (fun _ h => h) _ _) fun wrote _ => ?_
  refine Call.Triple.pre (H := scope.Holds files .verifying) ?_ fun d hd => hd
  have hback : Service.Triple scope.Sound (scope.Holds files .verifying)
      (rollbackOperation env scope.id now .verifying files) fun _ => scope.Sound :=
    rollbackOperation_triple howns fun h => by cases h
  refine (allFiles_triple (X := fun file disk => disk.Applied file)
    (fun file _ P hI => pairIsApplied_triple hI file) (holds_sound howns)).bind fun applied => ?_
  dsimp only
  split
  · refine Call.Triple.pre (H := scope.Exchanged files .verifying) ?_ fun d hd =>
      ⟨hd.1.1, hd.2 ‹_›⟩
    refine (sameRepositoryState_triple (exchanged_sound howns (.inr rfl)) git).bind
      fun verified => ?_
    split
    · exact hback.pre fun d hd => ⟨hd.1, exchanged_fits (.inr rfl) hd.2⟩
    · refine transitionOperation_bind (exchanged_sound howns (.inr rfl))
        (fun e => requireRecovery_triple howns (fun _ h => exchanged_fits (.inr rfl) h) _ _)
        fun wrote _ => ?_
      refine ((cleanupAndFinish_triple howns rfl).pre exchanged_completed).bind fun _ => ?_
      exact .pure (holds_sound howns)
  · refine Call.Triple.bind (Q := fun verified d => verified = false ∧ scope.Holds files .verifying d)
      (.pure fun d hd => ⟨rfl, hd.1⟩) fun verified => .assume fun hverified => ?_
    rw [if_pos hverified]
    exact hback

lemma applyOperation_triple (howns : scope.Owns files) (hid : scope.id = env.operationId)
    (git : GitIdentityV1) :
    Service.Triple scope.Sound (scope.Holds files .preparing) (applyOperation env now git files)
      fun _ => scope.Sound := by
  have hback : Service.Triple scope.Sound (scope.Holds files .applying)
      (rollbackOperation env scope.id now .applying files) fun _ => scope.Sound :=
    rollbackOperation_triple howns fun h => by cases h
  have hcompletes : Service.Triple scope.Sound (scope.Holds files .applying)
      (completeOperation env now git files) fun _ => scope.Sound :=
    completeOperation_triple howns hid git
  unfold applyOperation
  rw [← hid] at *
  refine transitionOperation_bind (holds_sound howns)
    (fun e => requireRecovery_triple howns (fun _ h => h) _ _) fun wrote _ => ?_
  refine transitionOperation_bind (holds_sound howns)
    (fun e => requireRecovery_triple howns (fun _ h => h) _ _) fun wrote _ => ?_
  refine Call.Triple.pre (H := scope.Holds files .applying) ?_
    fun d hd => ⟨hd.1, fun file hfile => .inl (hd.2 file hfile)⟩
  refine (applyFiles_triple howns fun _ h => h).bind fun applied => ?_
  dsimp only
  split
  · refine (sameRepositoryState_triple (holds_sound howns) git).bind fun unchanged => ?_
    split
    · exact hback
    · exact hcompletes
  · refine Call.Triple.bind (Q := fun verified d => verified = false ∧ scope.Holds files .applying d)
      (.pure fun d hd => ⟨rfl, hd⟩) fun verified => .assume fun hverified => ?_
    rw [if_pos hverified]
    exact hback

end Apply

section Recover

variable {operation : UndoOperation}

lemma recoverApplied_triple (howns : scope.Owns files) (hid : operation.operationId = scope.id)
    (hstate : operation.state = .applying ∨ operation.state = .verifying) :
    Service.Triple scope.Sound (scope.Exchanged files operation.state)
      (recoverApplied env operation files now) fun completed d =>
        (completed = true → scope.Sound d) ∧ (completed = false →
          ∃ state, (state = .applying ∨ state = .verifying) ∧ scope.Exchanged files state d) := by
  have hfails : ∀ state, state = .applying ∨ state = .verifying →
      Service.Triple scope.Sound (scope.Exchanged files state) (pure false) fun completed d =>
        (completed = true → scope.Sound d) ∧ (completed = false →
          ∃ state, (state = .applying ∨ state = .verifying) ∧ scope.Exchanged files state d) := by
    intro state hstate
    refine .pure ?_
    exact fun d hd => ⟨by simp, fun _ => ⟨state, hstate, hd⟩⟩
  have hcompleted : Service.Triple scope.Sound (scope.Stands files .completed fun disk =>
      ∀ file ∈ files, disk.Applied file) (pure true) fun completed d =>
        (completed = true → scope.Sound d) ∧ (completed = false →
          ∃ state, (state = .applying ∨ state = .verifying) ∧ scope.Exchanged files state d) :=
    .pure fun d hd => ⟨fun _ => holds_sound howns d (exchanged_completed d hd), by simp⟩
  unfold recoverApplied
  rw [hid]
  refine (allFiles_keeps fun file hfile => recordAppliedVerified_triple (exchanged_sound howns hstate)
    (howns.own file hfile)).bind fun recorded => ?_
  dsimp only
  split
  · next happlying =>
    rw [happlying] at *
    refine transitionOperation_bind (exchanged_sound howns (.inl rfl)) (fun e => ?_) fun wrote _ => ?_
    · cases recorded <;> exact hfails .applying (.inl rfl)
    · cases recorded with
      | false => exact hfails .verifying (.inr rfl)
      | true =>
          exact transitionOperation_bind (exchanged_sound howns (.inr rfl))
            (fun e => hfails .verifying (.inr rfl)) fun wrote _ => hcompleted
  · next hnot =>
    have hverifying := hstate.resolve_left hnot
    rw [hverifying] at *
    cases recorded with
    | false => exact hfails .verifying (.inr rfl)
    | true =>
        exact transitionOperation_bind (exchanged_sound howns (.inr rfl))
          (fun e => hfails .verifying (.inr rfl)) fun wrote _ => hcompleted

lemma recoverPairs_triple (howns : scope.Owns files) (hid : operation.operationId = scope.id) :
    Service.Triple scope.Sound (scope.Holds files operation.state)
      (recoverPairs env operation files) fun _ => scope.Sound := by
  have hrest : ∀ state, (operation.state = .rollingBack → state = .rollingBack) → ∀ now,
      ∀ allResult : Bool, Service.Triple scope.Sound (scope.Holds files state)
        (if allResult = true ∨ operation.state = .applying ∨ operation.state = .verifying ∨
            operation.state = .rollingBack then
          ExecuteGuardedUndoResult.outcome <$>
            rollbackOperation env scope.id now operation.state files
        else do
          let _ ← requireRecovery env scope.id operation.state .manualRecoveryRequired
            "recovery_pair_diverged" now
          return .recoveryRequired) fun _ => scope.Sound := by
    intro state hstate now allResult
    split
    · exact .map (rollbackOperation_triple howns hstate)
    · exact (requireRecovery_triple howns (fun _ h => h) _ _).bind fun _ => .pure fun _ h => h
  unfold recoverPairs
  rw [hid]
  refine (allFiles_triple (X := fun file disk => disk.Unapplied file)
    (fun file _ P hI => pairIsUnapplied_triple hI file) (holds_sound howns)).bind fun allResult => ?_
  refine Call.Triple.pre (H := scope.Holds files operation.state) ?_ fun d hd => hd.1
  refine (allFiles_triple (X := fun file disk => disk.Applied file)
    (fun file _ P hI => pairIsApplied_triple hI file) (holds_sound howns)).bind fun allPre => ?_
  refine clockNow_triple.bind fun now => ?_
  dsimp only
  split
  · next hall =>
    refine ((recoverApplied_triple howns hid hall.2).pre ?_).bind fun completed => ?_
    · exact fun d hd => ⟨hd.1.1, hd.2 hall.1⟩
    cases completed with
    | true => exact .pure fun d hd => hd.1 rfl
    | false =>
        refine Call.Triple.pre (Call.Triple.exists_pre fun state => .assume fun hstate =>
          (hrest state ?_ now allResult).pre fun d hd => ?_) fun d hd => hd.2 rfl
        · intro hrolling
          exact absurd hrolling (by rcases hall.2 with h | h <;> simp [h])
        · exact ⟨hd.1, exchanged_fits hstate hd.2⟩
  · exact (hrest operation.state (fun h => h) now allResult).pre fun d hd => hd.1

lemma recoveryFailed_triple (howns : scope.Owns files) (hid : operation.operationId = scope.id)
    (reason : GuardedUndoReasonCode) (label : String) :
    Service.Triple scope.Sound (scope.Holds files state)
      (recoveryFailed env operation reason label) fun _ => scope.Sound := by
  unfold recoveryFailed
  rw [hid]
  refine clockNow_triple.bind fun now => ?_
  refine (requireRecovery_triple howns (fun _ h => h) _ _).bind fun _ => ?_
  exact .pure fun _ h => h

theorem recoverOperation_triple (howns : scope.Owns files) (hid : operation.operationId = scope.id)
    (resolve : WorkspaceId → Option String) :
    Service.Triple scope.Sound (scope.Holds files operation.state)
      (recoverOperation env resolve operation files) fun _ => scope.Sound := by
  unfold recoverOperation
  split
  · exact .pure (holds_sound howns)
  refine (getTurnRestoreSet_triple (holds_sound howns) _).bind fun loaded => ?_
  cases loaded with
  | none => exact recoveryFailed_triple howns hid _ _
  | some loaded =>
      obtain ⟨restore, restoreFiles⟩ := loaded
      dsimp only
      split
      · exact recoveryFailed_triple howns hid _ _
      refine (acquire_triple (holds_sound howns) _ _ _).bind fun authority => ?_
      cases authority with
      | error reason => exact recoveryFailed_triple howns hid _ _
      | ok authority =>
          refine (sameRepositoryState_triple (holds_sound howns) _).bind fun same => ?_
          split
          · exact recoveryFailed_triple howns hid _ _
          split
          · next hpreparing =>
            rw [hid, hpreparing]
            refine clockNow_triple.bind fun now => ?_
            exact .map (recoverPreparing_triple howns)
          · exact recoverPairs_triple howns hid

end Recover

end DevCommandCenter.GuardedUndo
