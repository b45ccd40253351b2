import DevCommandCenter.GuardedUndo.UndoLedger
import DevCommandCenter.Library.Call

/-! Triples for the calls of the restore service: the undo is sound wherever the process stops. -/

namespace DevCommandCenter.GuardedUndo

open Library JournalStore

variable {env : RestoreEnvironment} {I P : Durable → Prop}

abbrev Service.Triple {α : Type} (I P : Durable → Prop) (c : Service α) (Q : α → Durable → Prop) :
    Prop :=
  Call.Triple World.durable I P c Q

section Attempts

lemma attempt_triple {ε α : Type} {failure : GuardedUndoReasonCode → ε}
    {run : World → Except ε α × World} {Q : Except ε α → Durable → Prop} (hI : ∀ d, P d → I d)
    (hfails : ∀ reason d, P d → Q (.error (failure reason)) d)
    (hworks : ∀ w, P w.durable → Q (run w).1 (run w).2.durable) :
    Service.Triple I P (attempt env failure run) Q := by
  intro w hw
  simp only [attempt]
  cases env.verdict w.tick with
  | works => exact hworks w hw
  | fails reason => exact hfails reason w.durable hw
  | crashes => exact hI w.durable hw

lemma inspectTarget_triple (hI : ∀ d, P d → I d) (path : OpaqueRepoPath) :
    Service.Triple I P (inspectTarget env path) fun seen d =>
      P d ∧ ∀ file, seen = .ok file → d.disk.targets path = some file := by
  apply attempt_triple hI
  · intro reason d hd
    exact ⟨hd, fun file h => by cases h⟩
  · intro w hw
    exact ⟨hw, fun file h => demand_eq_ok.mp h⟩

lemma inspectExchange_triple (hI : ∀ d, P d → I d) (path : OpaqueRepoPath) (key : ArtifactKey) :
    Service.Triple I P (inspectExchange env path key) fun seen d =>
      P d ∧ ∀ file, seen = .ok file → d.disk.siblings path key = some file := by
  apply attempt_triple hI
  · intro reason d hd
    exact ⟨hd, fun file h => by cases h⟩
  · intro w hw
    exact ⟨hw, fun file h => demand_eq_ok.mp h⟩

lemma exchange_triple (hI : ∀ d, P d → I d) {path : OpaqueRepoPath} {key : ArtifactKey}
    {target sibling : FileEvidence}
    (hwrites : ∀ d, P d → d.disk.targets path = some target → d.disk.siblings path key = some sibling →
      P { d with disk := d.disk.exchanged path key target sibling }) :
    Service.Triple I P (exchange env path key target sibling) fun _ d => P d := by
  apply attempt_triple hI
  · exact fun _ d hd => hd
  · intro w hw
    split
    · next h => exact hwrites w.durable hw h.1 h.2
    · exact hw

lemma cleanupExchange_triple (hI : ∀ d, P d → I d) {path : OpaqueRepoPath} {key : ArtifactKey}
    {expected : FileEvidence}
    (hwrites : ∀ d, P d → P { d with disk := d.disk.setSibling path key none }) :
    Service.Triple I P (cleanupExchange env path key expected) fun _ d => P d := by
  apply attempt_triple hI
  · exact fun _ d hd => hd
  · intro w hw
    split
    · exact hwrites w.durable hw
    · exact hw

lemma stagePreimage_triple (hI : ∀ d, P d → I d) {file : TurnRestoreFile} {key : ArtifactKey}
    (hwrites : ∀ d staged, P d →
      P { d with disk := d.disk.setSibling file.pathBytes key (some staged) }) :
    Service.Triple I P (stagePreimage env file key) fun _ d => P d := by
  apply attempt_triple hI
  · exact fun _ d hd => hd
  · intro w hw
    dsimp only
    split
    · exact hw
    · exact hwrites w.durable _ hw

lemma verifyPreimage_triple (hI : ∀ d, P d → I d) (key : ArtifactKey) (size : ℕ)
    (sha256 : Sha256Digest) :
    Service.Triple I P (verifyPreimage env key size sha256) fun _ d => P d :=
  attempt_triple hI (fun _ _ hd => hd) fun _ hw => hw

lemma gitIdentity_triple (hI : ∀ d, P d → I d) :
    Service.Triple I P (gitIdentity env) fun _ d => P d :=
  attempt_triple hI (fun _ _ hd => hd) fun _ hw => hw

lemma acquire_triple (hI : ∀ d, P d → I d) (workspaceAbsolute : String) (root : PhysicalRootId)
    (mode : AuthorityMode) :
    Service.Triple I P (acquire env workspaceAbsolute root mode) fun _ d => P d := by
  apply attempt_triple hI
  · exact fun _ d hd => hd
  · intro w hw
    split
    · exact hw
    · split <;> exact hw

lemma repositoryRead_triple (hI : ∀ d, P d → I d) {α : Type}
    (query : JournalStore → Except String α) :
    Service.Triple I P (repositoryRead env query) fun answer d =>
      P d ∧ ∀ a, answer = .ok a → query d.journal = .ok a := by
  apply attempt_triple hI
  · intro reason d hd
    exact ⟨hd, fun a h => by cases h⟩
  · intro w hw
    exact ⟨hw, fun a h => h⟩

lemma getTurnRestoreSet_loaded (hI : ∀ d, P d → I d) (id : RestoreSetId) :
    Service.Triple I P (getTurnRestoreSet env id) fun loaded d =>
      (∀ found, loaded = some found →
        d.journal.loadTurnRestoreSet env.encoding id = .ok (some found)) ∧ P d := by
  refine Call.Triple.map ((repositoryRead_triple hI _).post fun answer d hd => ⟨?_, hd.1⟩)
  intro found hfound
  cases answer with
  | error e => cases hfound
  | ok loaded =>
      cases hfound
      exact hd.2 _ rfl

lemma getTurnRestoreSet_triple (hI : ∀ d, P d → I d) (id : RestoreSetId) :
    Service.Triple I P (getTurnRestoreSet env id) fun _ d => P d :=
  (getTurnRestoreSet_loaded hI id).post fun _ _ hd => hd.2

lemma repositoryCall_triple (hI : ∀ d, P d → I d) {α : Type} {call : JournalCall α}
    {Q : Except String α → Durable → Prop} (hfails : ∀ e d, P d → Q (.error e) d)
    (hworks : ∀ d answer journal, P d → call d.journal = (answer, journal) →
      Q answer { d with journal := journal }) :
    Service.Triple I P (repositoryCall env call) Q := by
  apply attempt_triple hI
  · exact fun _ d hd => hfails _ d hd
  · exact fun w hw => hworks w.durable _ _ hw rfl

lemma sameRepositoryState_triple (hI : ∀ d, P d → I d) (captured : GitIdentityV1) :
    Service.Triple I P (sameRepositoryState env captured) fun _ d => P d := by
  refine (gitIdentity_triple hI).bind fun current => ?_
  cases current with
  | error reason => exact .pure fun _ h => h
  | ok current => exact .pure fun _ h => h

lemma clockNow_triple : Service.Triple I P (clockNow env) fun _ d => P d := fun _ hw => hw

end Attempts

section Pairs

lemma observes_eq_true {seen : Except GuardedUndoReasonCode FileEvidence}
    {expected : Option FileEvidence} (h : observes seen expected = true) :
    ∃ file, seen = .ok file ∧ expected = some file := by
  cases seen with
  | error reason => cases expected <;> cases h
  | ok file =>
      cases expected with
      | none => cases h
      | some file' =>
          simp only [observes, decide_eq_true_eq] at h
          exact ⟨file, rfl, h ▸ rfl⟩

lemma pairIsUnapplied_triple (hI : ∀ d, P d → I d) (file : UndoOperationFile) :
    Service.Triple I P (pairIsUnapplied env file) fun found d =>
      P d ∧ (found = true → d.disk.Unapplied file) := by
  refine (inspectTarget_triple hI _).bind fun target => ?_
  refine (inspectExchange_triple (fun d hd => hI d hd.1) _ _).bind fun sibling => ?_
  refine .pure fun d ⟨⟨hd, htarget⟩, hsibling⟩ => ⟨hd, fun hfound => ?_⟩
  obtain ⟨hresult, hstaged⟩ := Bool.and_eq_true _ _ ▸ hfound
  obtain ⟨result, hseen, hresult⟩ := observes_eq_true hresult
  obtain ⟨staged, hbeside, hstaged⟩ := observes_eq_true hstaged
  cases hresult
  exact ⟨htarget _ hseen, staged, hstaged, hsibling _ hbeside⟩

lemma pairIsApplied_triple (hI : ∀ d, P d → I d) (file : UndoOperationFile) :
    Service.Triple I P (pairIsApplied env file) fun found d =>
      P d ∧ (found = true → d.disk.Applied file) := by
  refine (inspectTarget_triple hI _).bind fun target => ?_
  refine (inspectExchange_triple (fun d hd => hI d hd.1) _ _).bind fun sibling => ?_
  refine .pure fun d ⟨⟨hd, htarget⟩, hsibling⟩ => ⟨hd, fun hfound => ?_⟩
  obtain ⟨hstaged, hresult⟩ := Bool.and_eq_true _ _ ▸ hfound
  obtain ⟨staged, hseen, hstaged⟩ := observes_eq_true hstaged
  obtain ⟨result, hbeside, hresult⟩ := observes_eq_true hresult
  cases hresult
  exact ⟨⟨staged, hstaged, htarget _ hseen⟩, hsibling _ hbeside⟩

lemma allFiles_triple {check : UndoOperationFile → Service Bool}
    {X : UndoOperationFile → UndoDisk → Prop} {files : List UndoOperationFile}
    (hcheck : ∀ file ∈ files, ∀ P : Durable → Prop, (∀ d, P d → I d) →
      Service.Triple I P (check file) fun found d => P d ∧ (found = true → X file d.disk))
    (hI : ∀ d, P d → I d) :
    Service.Triple I P (allFiles check files) fun found d =>
      P d ∧ (found = true → ∀ file ∈ files, X file d.disk) := by
  induction files generalizing P with
  | nil => exact .pure fun d hd => ⟨hd, fun _ file hfile => by cases hfile⟩
  | cons file rest ih =>
      refine (hcheck file List.mem_cons_self P hI).bind fun found => ?_
      cases found with
      | false => exact .pure fun d hd => ⟨hd.1, fun h => by cases h⟩
      | true =>
          have hrest := ih (fun other hother => hcheck other (List.mem_cons_of_mem _ hother))
            (P := fun d => P d ∧ X file d.disk) fun d hd => hI d hd.1
          refine hrest.mono (fun d hd => ⟨hd.1, hd.2 rfl⟩) fun found d ⟨⟨hd, hfile⟩, hfound⟩ =>
            ⟨hd, fun h other hother => ?_⟩
          rcases List.mem_cons.mp hother with rfl | hother
          · exact hfile
          · exact hfound h other hother

lemma allFiles_keeps {check : UndoOperationFile → Service Bool} {files : List UndoOperationFile}
    (hcheck : ∀ file ∈ files, Service.Triple I P (check file) fun _ d => P d) :
    Service.Triple I P (allFiles check files) fun _ d => P d := by
  induction files with
  | nil => exact .pure fun _ hd => hd
  | cons file rest ih =>
      refine (hcheck file List.mem_cons_self).bind fun found => ?_
      cases found with
      | false => exact .pure fun _ hd => hd
      | true => exact ih fun other hother => hcheck other (List.mem_cons_of_mem _ hother)

end Pairs

section Journalling

variable {scope : UndoScope} {files : List UndoOperationFile}
  {state expected next : UndoOperationState} {D : UndoDisk → Prop} {now : ℕ}

open UndoScope

lemma transitionOperation_bind {reason : Option GuardedUndoReasonCode}
    {details : Option RecoveryDetailsV1} {α : Type} {f : Except String Bool → Service α}
    {R : α → Durable → Prop} (hI : ∀ d, scope.Stands files state D d → I d)
    (herror : ∀ e, Service.Triple I (scope.Stands files state D) (f (.error e)) R)
    (hok : ∀ wrote, (state = expected ∧ state.stepsTo next) ∨ state = next →
      Service.Triple I (scope.Stands files next D) (f (.ok wrote)) R) :
    Service.Triple I (scope.Stands files state D)
      (transitionOperation env scope.id expected next reason details now >>= f) R := by
  refine (repositoryCall_triple (Q := Call.Answers (scope.Stands files state D) fun _ d =>
    ((state = expected ∧ state.stepsTo next) ∨ state = next) ∧ scope.Stands files next D d)
    hI (fun _ _ hd => hd) ?_).bind fun answer => ?_
  · intro d answer journal hd hcall
    cases answer with
    | error e =>
        have hkept := transitionUndoOperation_errorKeeps scope.id expected next reason details
          (env.timestamp now) d.journal e journal hcall
        exact ⟨hkept ▸ hd.1, hd.2⟩
    | ok wrote =>
        obtain ⟨hledger, hstate⟩ := hd.1.transition hcall
        exact ⟨hstate, hledger, hd.2⟩
  · cases answer with
    | error e => exact herror e
    | ok wrote => exact .assume (hok wrote)

lemma transitionFile_triple (hI : ∀ d, scope.Stands files state D d → I d)
    {file moved : UndoOperationFile} (hfile : file ∈ files) (halike : file.Alike moved)
    (expected : UndoOperationFileState) :
    Service.Triple I (scope.Stands files state D) (transitionFile env expected moved)
      fun _ => scope.Stands files state D := by
  refine repositoryCall_triple hI (fun _ _ hd => hd) fun d answer journal hd hcall => ?_
  cases answer with
  | error e =>
      have hkept := transitionUndoOperationFile_errorKeeps expected moved d.journal e journal hcall
      exact ⟨hkept ▸ hd.1, hd.2⟩
  | ok wrote => exact ⟨hd.1.transitionFile hfile halike hcall, hd.2⟩

lemma getUndoOperation_ok {encoding : JournalEncoding} {s : JournalStore} {id : UndoOperationId}
    {operation : UndoOperation} {files : List UndoOperationFile}
    (h : getUndoOperation encoding s id = .ok (some (operation, files))) :
    files = s.operationFilesOf id := by
  simp only [getUndoOperation, except_bind_eq_ok] at h
  obtain ⟨loaded, hload, h⟩ := h
  cases loaded with
  | none => cases h
  | some found =>
      obtain ⟨operation', files'⟩ := found
      obtain ⟨-, -, -, -, hfiles⟩ := loadUndoOperation_ok hload
      dsimp only at h
      split at h
      · simp only [except_bind_eq_ok] at h
        obtain ⟨-, -, -, -, -, -, h⟩ := h
        cases h
        exact hfiles
      · cases h
        exact hfiles

lemma loadedFile_triple (hI : ∀ d, P d → I d) (original : UndoOperationFile) :
    Service.Triple I P (loadedFile env original) fun loaded d =>
      P d ∧ ∀ current, loaded = some current →
        current ∈ d.journal.operationFilesOf original.operationId := by
  refine Call.Triple.bind (Q := fun loaded d => P d ∧ ∀ found, loaded = some found →
    found.2 = d.journal.operationFilesOf original.operationId) ?_ fun loaded => ?_
  · refine Call.Triple.map ((repositoryRead_triple hI _).post fun answer d hd => ⟨hd.1, ?_⟩)
    intro found hfound
    cases answer with
    | error e => cases hfound
    | ok loaded =>
        cases hfound
        exact getUndoOperation_ok (hd.2 _ rfl)
  · refine .pure fun d hd => ⟨hd.1, fun current hcurrent => ?_⟩
    cases loaded with
    | none => cases hcurrent
    | some found =>
        have hmem : current ∈ found.2 := List.mem_of_find?_eq_some hcurrent
        exact hd.2 found rfl ▸ hmem

lemma loadedFile_bind {original : UndoOperationFile} (hid : original.operationId = scope.id)
    {α : Type} {f : Option UndoOperationFile → Service α} {R : α → Durable → Prop}
    (hI : ∀ d, scope.Stands files state D d → I d)
    (hnone : Service.Triple I (scope.Stands files state D) (f none) R)
    (hsome : ∀ file ∈ files, ∀ current, file.Alike current →
      Service.Triple I (scope.Stands files state D) (f (some current)) R) :
    Service.Triple I (scope.Stands files state D) (loadedFile env original >>= f) R := by
  refine (loadedFile_triple hI original).bind fun loaded => ?_
  cases loaded with
  | none => exact hnone.pre fun d hd => hd.1
  | some current =>
      have hcovered : ∀ d, scope.Stands files state D d ∧ (∀ found, some current = some found →
          found ∈ d.journal.operationFilesOf original.operationId) →
          (∃ file ∈ files, file.Alike current) ∧ scope.Stands files state D d :=
        fun d hd => ⟨hd.1.1.covered current (hid ▸ hd.2 current rfl), hd.1⟩
      refine Call.Triple.pre (.assume fun ⟨file, hfile, halike⟩ => ?_) hcovered
      exact hsome file hfile current halike

end Journalling

end DevCommandCenter.GuardedUndo
