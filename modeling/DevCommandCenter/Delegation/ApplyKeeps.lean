import DevCommandCenter.Delegation.Classification

/-! However an apply, a rollback or a classification is cut off or fails, the destination is in between. -/

namespace DevCommandCenter.Delegation

open Library GuardedUndo

def KeptBy (I : ApplyDisk → Prop) (c : ApplyCall) : Prop :=
  ∀ disk fault reply rest, I disk → performApply c fault disk = some (reply, rest) → I rest

section Keeps

variable {host : ApplyHost} {transactionId digest : String} {I : ApplyDisk → Prop} {α : Type}
  {files : List FileArtifact} {manifest : Manifest}

lemma keptBy_idle {c : ApplyCall} (h : ∀ disk fault reply rest,
    performApply c fault disk = some (reply, rest) → rest = disk) : KeptBy I c := by
  intro disk fault reply rest hI hperform
  rwa [h disk fault reply rest hperform]

lemma keptBy_createDestinationParent (path : RelativePath) :
    KeptBy I (.createDestinationParent path) := by
  refine keptBy_idle fun disk fault reply rest h => ?_
  cases fault <;> cases h <;> rfl

lemma keptBy_syncDirectory (path : RelativePath) : KeptBy I (.syncDirectory path) := by
  refine keptBy_idle fun disk fault reply rest h => ?_
  cases fault <;> cases h <;> rfl

lemma keeps_call {c : ApplyCall} (h : KeptBy I c) :
    (applyCall c).Keeps performApply I fun _ => True :=
  Program.keeps_invoke fun disk fault reply rest hI hperform =>
    ⟨h disk fault reply rest hI hperform, fun _ _ => trivial⟩

lemma keeps_look : (applyCall .look).Keeps performApply I I := by
  refine Program.keeps_invoke fun disk fault reply rest hI hperform => ?_
  cases fault <;> cases hperform
  · refine ⟨hI, fun disk hdisk => ?_⟩
    cases hdisk
    exact hI
  · exact ⟨hI, nofun⟩

lemma keeps_reading {f : ApplyDisk → Except String α} {R : α → Prop}
    (h : ∀ disk a, I disk → f disk = .ok a → R a) : (reading f).Keeps performApply I R := by
  refine keeps_look.bind fun disk hI s => ?_
  cases hresult : f disk with
  | ok a => exact Program.safe_pure fun _ _ _ => h disk a hI hresult
  | error e => exact Program.safe_fail

lemma keeps_orFail {p : ApplyProgram α} {R : α → Prop} (h : p.Keeps performApply I R)
    (message : String) : (orFail p message).Keeps performApply I R :=
  h.onError fun _ => Program.keeps_fail

lemma knownTemporaryFile_ok {file : FileArtifact} {disk : ApplyDisk} {found : Option RelativePath}
    (h : knownTemporaryFile host transactionId file disk = .ok found) :
    validateRelativePath file.path = .ok () ∧
    (∀ above ∈ file.path.ancestors, disk.destination.tree.file? above = none) ∧
    ((found = none ∧
        disk.destination.tree.file? (temporaryPath host transactionId file.path) = none ∧
        disk.destination.tree.isDirectory (temporaryPath host transactionId file.path) = false) ∨
      found = some (temporaryPath host transactionId file.path) ∧
        ∃ node, disk.destination.tree.file? (temporaryPath host transactionId file.path) = some node ∧
          file.Known (regularSnapshot host node)) := by
  simp only [knownTemporaryFile, destinationTempPath, except_bind_eq_ok] at h
  obtain ⟨_, hvalid, _, habove, temp, ⟨_, -, _, -, htemp⟩, h⟩ := h
  cases htemp
  refine ⟨hvalid, ensureNoSymlinkAncestors_eq_ok.mp habove, ?_⟩
  split at h
  · next node hnode =>
      simp only [except_bind_eq_ok, refuse_eq_ok] at h
      obtain ⟨_, hknown, h⟩ := h
      cases h
      refine .inr ⟨rfl, node, hnode, ?_⟩
      rwa [not_and_or, not_not, not_not] at hknown
  · next hnone =>
      simp only [except_bind_eq_ok, refuse_eq_ok, Bool.not_eq_true] at h
      obtain ⟨_, hdirectory, h⟩ := h
      cases h
      exact .inl ⟨rfl, hnone, hdirectory⟩

lemma keeps_reconcile (h : ∀ file ∈ files, ∀ node, file.Known (regularSnapshot host node) →
      KeptBy I (.removeFile (temporaryPath host transactionId file.path))) :
    (reconcileDestinationTemporaryFiles host transactionId files).Keeps performApply I
      fun _ => True := by
  induction files with
  | nil => exact Program.keeps_pure trivial
  | cons file files ih =>
      obtain ⟨hfile, hfiles⟩ := List.forall_mem_cons.mp h
      have hlook : (reading (knownTemporaryFile host transactionId file)).Keeps performApply I
          fun found => ∀ temp, found = some temp → KeptBy I (.removeFile temp) := by
        refine keeps_reading fun disk found _ hfound temp htemp => ?_
        obtain ⟨-, -, ⟨hnone, -⟩ | ⟨hsome, node, -, hknown⟩⟩ := knownTemporaryFile_ok hfound
        · rw [hnone] at htemp
          cases htemp
        · rw [hsome] at htemp
          cases htemp
          exact hfile node hknown
      refine hlook.bind fun found hfound => ?_
      cases found with
      | none => exact ih hfiles
      | some temp =>
          refine (keeps_orFail (keeps_call (hfound temp rfl)) _).bind fun _ _ => ?_
          refine (keeps_orFail (keeps_call (keptBy_syncDirectory temp)) _).bind fun _ _ => ?_
          exact ih hfiles

lemma keeps_classifyDestination {R : ApplyClassification → Prop}
    (h : ∀ disk, I disk → R (classifyManifest host manifest disk.destination.tree))
    (hfailed : R .divergent) : (classifyDestination host manifest).Keeps performApply I R :=
  keeps_look.andThen (fun disk hI => Program.keeps_pure (h disk hI)) fun _ => Program.keeps_pure hfailed

end Keeps

section Installing

variable {host : ApplyHost} {transactionId digest : String} {before after base disk : ApplyDisk}
  {manifest : Manifest} {file : FileArtifact} {wanted : Option FileNode}

lemma regularSnapshot_written {node : FileNode} {bytes : List Byte}
    (hdigest : host.sha256Hex bytes = (regularSnapshot host node).digest)
    (hlength : bytes.length = (regularSnapshot host node).bytes) :
    regularSnapshot host ⟨bytes, (regularSnapshot host node).fileMode % 0o1000⟩ =
      regularSnapshot host node := by
  rw [regularSnapshot, Snapshot.mk.injEq]
  refine ⟨rfl, hdigest, hlength, ?_⟩
  simp only [fileMode, regularSnapshot, Nat.mod_mod]

lemma Midway.keptBy (hsound : Sound host transactionId digest before after base manifest)
    {c : ApplyCall} (hc : Permitted host transactionId manifest c) :
    KeptBy (Midway host transactionId base manifest) c :=
  fun _ _ _ _ hmidway hperform => hmidway.perform hsound hc hperform

lemma keeps_install (hsound : Sound host transactionId digest before after base manifest)
    (hfile : file ∈ manifest.files) (hwanted : file.Known (snapshotOf host wanted))
    (payload : Option (List Byte)) :
    (installSnapshot host transactionId file.path (snapshotOf host wanted) payload).Keeps performApply
      (Midway host transactionId base manifest) fun _ => True := by
  refine (keeps_reading fun _ _ _ _ => trivial).bind fun _ _ => ?_
  cases wanted with
  | none =>
      refine (keeps_reading fun _ _ _ _ => trivial).bind fun present _ => ?_
      cases present with
      | false => exact Program.keeps_pure trivial
      | true =>
          have hremove : Permitted host transactionId manifest (.removeFile file.path) :=
            ⟨file, hfile, .inr ⟨rfl, hwanted⟩⟩
          exact keeps_orFail (keeps_call (Midway.keptBy hsound hremove)) _
  | some node =>
      cases payload with
      | none => exact Program.keeps_fail
      | some bytes =>
          change Program.Keeps _ _ _ (ite _ _ _)
          split
          · exact Program.keeps_fail
          · next hcheck =>
              rw [not_or, not_not, not_not] at hcheck
              have hwrite : Permitted host transactionId manifest
                  (.writeDestinationTemp (temporaryPath host transactionId file.path) bytes
                    (regularSnapshot host node).fileMode) := by
                refine ⟨file, hfile, rfl, ?_⟩
                rw [regularSnapshot_written hcheck.1 hcheck.2]
                exact hwanted
              have hreplace : Permitted host transactionId manifest
                  (.atomicReplace (temporaryPath host transactionId file.path) file.path) :=
                ⟨file, hfile, rfl, rfl⟩
              have htemp : (reading fun _ => destinationTempPath host transactionId file.path).Keeps
                  performApply (Midway host transactionId base manifest)
                  fun temp => temp = temporaryPath host transactionId file.path := by
                refine keeps_reading fun disk temp _ hpath => ?_
                simp only [destinationTempPath, except_seq_eq_ok] at hpath
                exact (Except.ok.inj hpath.2.2).symm
              refine (keeps_orFail (keeps_call (keptBy_createDestinationParent _)) _).bind fun _ _ => ?_
              refine (keeps_reading fun _ _ _ _ => trivial).bind fun _ _ => ?_
              refine htemp.bind fun temp hpath => ?_
              subst hpath
              refine (keeps_orFail (keeps_call (Midway.keptBy hsound hwrite)) _).bind fun _ _ => ?_
              refine (keeps_orFail (keeps_call (Midway.keptBy hsound hreplace)) _).bind fun _ _ => ?_
              exact keeps_orFail (keeps_call (keptBy_syncDirectory _)) _

lemma keeps_installFiles (hsound : Sound host transactionId digest before after base manifest)
    {files : List FileArtifact} (hfiles : ∀ file ∈ files, file ∈ manifest.files) :
    (installFiles host transactionId files).Keeps performApply
      (Midway host transactionId base manifest) fun _ => True := by
  induction files with
  | nil => exact Program.keeps_pure trivial
  | cons file files ih =>
      obtain ⟨hfile, hfiles⟩ := List.forall_mem_cons.mp hfiles
      obtain ⟨payloads, hfrozen⟩ := hsound.frozen.frozenFrom hfile
      refine (keeps_reading fun _ _ _ _ => trivial).bind fun payload _ => ?_
      rw [hfrozen.post]
      refine (keeps_install hsound hfile (.inr hfrozen.post.symm) payload).bind fun _ _ => ?_
      exact ih hfiles

lemma keeps_readStates {I : ApplyDisk → Prop} {files : List FileArtifact} :
    (readStates host files).Keeps performApply I fun states => states.map Prod.fst = files := by
  induction files with
  | nil => exact Program.keeps_pure rfl
  | cons file files ih =>
      refine (keeps_reading fun _ _ _ _ => trivial : Program.Keeps _ _ (fun _ => True) _).bind
        fun current _ => ?_
      refine ih.bind fun states hstates => Program.keeps_pure ?_
      rw [List.map_cons, hstates]

lemma keeps_restoreFiles (hsound : Sound host transactionId digest before after base manifest)
    {states : List (FileArtifact × Snapshot)} (hstates : ∀ state ∈ states, state.1 ∈ manifest.files) :
    (restoreFiles host transactionId states).Keeps performApply
      (Midway host transactionId base manifest) fun _ => True := by
  induction states with
  | nil => exact Program.keeps_pure trivial
  | cons state states ih =>
      obtain ⟨file, current⟩ := state
      obtain ⟨hfile, hstates⟩ := List.forall_mem_cons.mp hstates
      obtain ⟨payloads, hfrozen⟩ := hsound.frozen.frozenFrom hfile
      rw [restoreFiles]
      split
      · exact ih hstates
      · refine (keeps_reading fun _ _ _ _ => trivial).bind fun payload _ => ?_
        rw [hfrozen.pre]
        refine (keeps_install hsound hfile (.inl hfrozen.pre.symm) payload).bind fun _ _ => ?_
        exact ih hstates

end Installing

section Whole

variable {host : ApplyHost} {transactionId digest : String} {I : ApplyDisk → Prop} {manifest : Manifest}
  {C : ApplyClassification → Prop}

structure Reconcilable (host : ApplyHost) (transactionId digest : String) (manifest : Manifest)
    (I : ApplyDisk → Prop) : Prop where
  loads : ∀ disk, I disk → loadManifest host transactionId digest disk = .ok manifest
  removes : ∀ file ∈ manifest.files, ∀ node, file.Known (regularSnapshot host node) →
    KeptBy I (.removeFile (temporaryPath host transactionId file.path))

lemma Reconcilable.keeps_load (h : Reconcilable host transactionId digest manifest I) :
    (reading (loadManifest host transactionId digest)).Keeps performApply I (· = manifest) := by
  refine keeps_reading fun disk loaded hI hload => ?_
  rw [h.loads disk hI] at hload
  exact (Except.ok.inj hload).symm

lemma keeps_check {f : ApplyDisk → Except String Unit} :
    (reading f).Keeps performApply I fun _ => True :=
  keeps_reading fun _ _ _ _ => trivial

lemma Reconcilable.keeps_settle (h : Reconcilable host transactionId digest manifest I) :
    (settleDestination host transactionId digest).Keeps performApply I (· = manifest) := by
  refine h.keeps_load.bind fun loaded hloaded => ?_
  subst hloaded
  refine keeps_check.bind fun _ _ => keeps_check.bind fun _ _ => ?_
  refine (keeps_reconcile h.removes).bind fun _ _ => keeps_check.bind fun _ _ => ?_
  exact Program.keeps_pure rfl

theorem Reconcilable.keeps_apply (h : Reconcilable host transactionId digest manifest I)
    (hclassify : ∀ disk, I disk → C (classifyManifest host manifest disk.destination.tree))
    (hfailed : C .divergent)
    (hinstall : C .allPre → (installFiles host transactionId manifest.files).Keeps performApply I
      fun _ => True) :
    (applyPreparedArtifacts host transactionId digest).Keeps performApply I fun _ => C .allPost := by
  refine h.keeps_load.bind fun loaded hloaded => ?_
  subst hloaded
  refine keeps_check.bind fun _ _ => keeps_check.bind fun _ _ => keeps_check.bind fun _ _ => ?_
  refine (keeps_reconcile h.removes).bind fun _ _ => keeps_check.bind fun _ _ => ?_
  refine keeps_check.bind fun _ _ => ?_
  refine (keeps_classifyDestination hclassify hfailed).bind fun classification hC => ?_
  cases classification with
  | allPost => exact Program.keeps_pure hC
  | mixedKnown | divergent => exact Program.keeps_fail
  | allPre =>
      refine (hinstall hC).bind fun _ _ => keeps_check.bind fun _ _ => ?_
      refine (keeps_classifyDestination hclassify hfailed).bind fun classification hC => ?_
      split
      · exact Program.keeps_fail
      · next hpost =>
          rw [not_not] at hpost
          exact Program.keeps_pure (hpost ▸ hC)

theorem Reconcilable.keeps_rollback (h : Reconcilable host transactionId digest manifest I)
    (hclassify : ∀ disk, I disk → C (classifyManifest host manifest disk.destination.tree))
    (hfailed : C .divergent)
    (hrestore : (C .allPost ∨ C .mixedKnown) →
      ∀ states : List (FileArtifact × Snapshot), states.map Prod.fst = manifest.files →
        (restoreFiles host transactionId states).Keeps performApply I fun _ => True) :
    (rollbackApplyArtifacts host transactionId digest).Keeps performApply I fun _ => C .allPre := by
  refine h.keeps_settle.bind fun loaded hloaded => ?_
  subst hloaded
  refine (keeps_classifyDestination hclassify hfailed).bind fun classification hC => ?_
  have hrest : (C .allPost ∨ C .mixedKnown) → (do
      let states ← readStates host loaded.files
      restoreFiles host transactionId states
      checkDestination loaded
      let classification ← classifyDestination host loaded
      if classification ≠ .allPre then
        .fail "delegation rollback did not restore the frozen preimage"
      else pure () : ApplyProgram Unit).Keeps performApply I fun _ => C .allPre := by
    intro hC
    refine keeps_readStates.bind fun states hstates => ?_
    refine (hrestore hC states hstates).bind fun _ _ => keeps_check.bind fun _ _ => ?_
    refine (keeps_classifyDestination hclassify hfailed).bind fun classification hC => ?_
    split
    · exact Program.keeps_fail
    · next hpre =>
        rw [not_not] at hpre
        exact Program.keeps_pure (hpre ▸ hC)
  cases classification with
  | divergent => exact Program.keeps_fail
  | allPre => exact Program.keeps_pure hC
  | allPost => exact hrest (.inl hC)
  | mixedKnown => exact hrest (.inr hC)

end Whole

section Kept

variable {host : ApplyHost} {transactionId digest : String} {before after base disk rest : ApplyDisk}
  {manifest : Manifest}

lemma Sound.reconcilable (h : Sound host transactionId digest before after base manifest) :
    Reconcilable host transactionId digest manifest (Midway host transactionId base manifest) where
  loads disk hmidway := h.frozen.loads disk (hmidway.transactions.trans h.transactions)
  removes file hfile _ _ := Midway.keptBy h ⟨file, hfile, .inl rfl⟩

theorem Midway.apply (h : Midway host transactionId base manifest disk)
    (hsound : Sound host transactionId digest before after base manifest) {p : ApplyProgram ApplyOutput}
    (hleads : Program.Leads performApply (applyPreparedArtifacts host transactionId digest) disk p rest) :
    Midway host transactionId base manifest rest := by
  have hkeeps := hsound.reconcilable.keeps_apply (C := fun _ => True) (fun _ _ => trivial) trivial
    fun _ => keeps_installFiles hsound fun _ hfile => hfile
  exact (hkeeps.leads h hleads).1

theorem Midway.rollback (h : Midway host transactionId base manifest disk)
    (hsound : Sound host transactionId digest before after base manifest) {p : ApplyProgram Unit}
    (hleads : Program.Leads performApply (rollbackApplyArtifacts host transactionId digest) disk p rest) :
    Midway host transactionId base manifest rest := by
  have hkeeps := hsound.reconcilable.keeps_rollback (C := fun _ => True) (fun _ _ => trivial) trivial
    fun _ states hstates => keeps_restoreFiles hsound fun state hstate =>
      hstates ▸ List.mem_map_of_mem hstate
  exact (hkeeps.leads h hleads).1

theorem Midway.classify (h : Midway host transactionId base manifest disk)
    (hsound : Sound host transactionId digest before after base manifest)
    {p : ApplyProgram ApplyClassification}
    (hleads : Program.Leads performApply (classifyApplyArtifacts host transactionId digest) disk p rest) :
    Midway host transactionId base manifest rest := by
  have hkeeps : (classifyApplyArtifacts host transactionId digest).Keeps performApply
      (Midway host transactionId base manifest) fun _ => True := by
    refine hsound.reconcilable.keeps_settle.bind fun loaded hloaded => ?_
    exact keeps_classifyDestination (fun _ _ => trivial) trivial
  exact (hkeeps.leads h hleads).1

end Kept

section Refused

variable {host : ApplyHost} {transactionId digest : String} {before after base disk rest : ApplyDisk}
  {manifest : Manifest} {file : FileArtifact}

structure Untouched (manifest : Manifest) (base disk : ApplyDisk) : Prop where
  transactions : disk.transactions = base.transactions
  file : ∀ file ∈ manifest.files,
    disk.destination.tree.file? file.path = base.destination.tree.file? file.path
  fits : ∀ file ∈ manifest.files,
    disk.destination.tree.Fits file.path ↔ base.destination.tree.Fits file.path

lemma untouched_refl (manifest : Manifest) (base : ApplyDisk) : Untouched manifest base base :=
  ⟨rfl, fun _ _ => rfl, fun _ _ => Iff.rfl⟩

lemma Untouched.diverged (h : Untouched manifest base disk)
    (hdiverged : Diverged host manifest base.destination.tree) :
    Diverged host manifest disk.destination.tree := by
  obtain ⟨file, hfile, hlost⟩ := hdiverged
  refine ⟨file, hfile, fun snapshot hcurrent => hlost snapshot ?_⟩
  rw [currentSnapshot_eq_ok, h.file file hfile, h.fits file hfile] at hcurrent
  exact currentSnapshot_eq_ok.mpr hcurrent

lemma Untouched.removeTemporary (hfrozen : FrozenApply host transactionId digest before after manifest)
    (hnew : ∀ file ∈ manifest.files, NewIn transactionId file.path) (hfile : file ∈ manifest.files)
    {node : FileNode} (hknown : file.Known (regularSnapshot host node)) :
    KeptBy (Untouched manifest base) (.removeFile (temporaryPath host transactionId file.path)) := by
  intro disk fault reply rest h hperform
  cases fault with
  | some error =>
      cases hperform
      exact h
  | none =>
      dsimp only [performApply] at hperform
      split at hperform
      · cases hperform
        exact h
      · cases hperform
        refine ⟨h.transactions, fun other hother => ?_, fun other hother => ?_⟩
        · dsimp only [ApplyDisk.setTree]
          rw [FileTree.file?_delete, if_neg (hnew other hother).ne_temporary]
          exact h.file other hother
        · dsimp only [ApplyDisk.setTree]
          have hbelow : other.path ∉ (temporaryPath host transactionId file.path).ancestors := by
            rw [ancestors_temporaryPath]
            exact (hfrozen.not_above hother hfile hknown).2
          rw [FileTree.fits_delete _ _ (hnew other hother).temporary_not_above hbelow]
          exact h.fits other hother

lemma refused_reconcilable (hfrozen : FrozenApply host transactionId digest before after manifest)
    (hnew : ∀ file ∈ manifest.files, NewIn transactionId file.path)
    (hsame : base.transactions = after.transactions) :
    Reconcilable host transactionId digest manifest (Untouched manifest base) where
  loads disk h := hfrozen.loads disk (h.transactions.trans hsame)
  removes _ hfile _ hknown := Untouched.removeTemporary hfrozen hnew hfile hknown

theorem apply_refused (hfrozen : FrozenApply host transactionId digest before after manifest)
    (hnew : ∀ file ∈ manifest.files, NewIn transactionId file.path)
    (hsame : base.transactions = after.transactions)
    (hdiverged : Diverged host manifest base.destination.tree) {p : ApplyProgram ApplyOutput}
    (hleads : Program.Leads performApply (applyPreparedArtifacts host transactionId digest) base p rest) :
    Untouched manifest base rest ∧ ∀ output, p ≠ .done (.ok output) := by
  have hkeeps := (refused_reconcilable hfrozen hnew hsame).keeps_apply (C := (· = .divergent))
    (fun disk h => classifyManifest_divergent.mpr (h.diverged hdiverged)) rfl nofun
  obtain ⟨hrest, hreturned⟩ := hkeeps.leads (untouched_refl manifest base) hleads
  exact ⟨hrest, fun output hp => nomatch hreturned output hp⟩

theorem rollback_refused (hfrozen : FrozenApply host transactionId digest before after manifest)
    (hnew : ∀ file ∈ manifest.files, NewIn transactionId file.path)
    (hsame : base.transactions = after.transactions)
    (hdiverged : Diverged host manifest base.destination.tree) {p : ApplyProgram Unit}
    (hleads : Program.Leads performApply (rollbackApplyArtifacts host transactionId digest) base p rest) :
    Untouched manifest base rest ∧ ∀ u, p ≠ .done (.ok u) := by
  have hkeeps := (refused_reconcilable hfrozen hnew hsame).keeps_rollback (C := (· = .divergent))
    (fun disk h => classifyManifest_divergent.mpr (h.diverged hdiverged)) rfl
    fun h => h.elim nofun nofun
  obtain ⟨hrest, hreturned⟩ := hkeeps.leads (untouched_refl manifest base) hleads
  exact ⟨hrest, fun u hp => nomatch hreturned u hp⟩

end Refused

end DevCommandCenter.Delegation
