import DevCommandCenter.GuardedUndo.ArtifactSafety

/-! Recovery after a crash: which states it accepts, and that no file remains that nobody refers to. -/

namespace DevCommandCenter.GuardedUndo

open Library Program

section Reads

variable {host : StoreHost} {disk : ArtifactDisk} {draw : ArtifactDraw} {area : StoreArea}
  {name : EntryName} {ino : ℕ} {node : Inode}

lemma validate_fileMetadata (ino : ℕ) (node : Inode) :
    (fileMetadata (fileStat host ino node)).validate = .ok () := by
  have hlabel : validStableLabel "macos" = true := by decide
  simp [RegularFileMetadataV1.validate, except_seq_eq_ok, fileMetadata, fileStat, leBytes, hlabel,
    requireSchema, fileMetadataSchemaVersion, requireBoundedBytes, maxIdentityBytes, maxMetadataFields,
    allowedMetadataFields, maxMetadataValueBytes]

lemma run_openNamed (hdraw : draw.fault = none) (hname : (disk.directory area).get? name = some ino) :
    (openNamed area name).run (perform host) draw disk = some (.ok ino, disk) :=
  run_invoke (by simp [perform, hdraw, answer, hname])

lemma run_inspectArtifact (hdraw : draw.fault = none) (hnode : disk.inodes[ino]? = some node)
    (hlinks : node.links = 1) (hsize : node.content.length ≤ maxPreimageBytesPerFile) :
    ∃ snapshot, (inspectArtifact host ino 1).run (perform host) draw disk = some (.ok snapshot, disk) := by
  have hstat : (fstat ino).run (perform host) draw disk = some (.ok (fileStat host ino node), disk) :=
    run_invoke (by simp [perform, hdraw, answer, hnode])
  have hattributes : (fsCall (.rejectAttributes ino)).run (perform host) draw disk = some (.ok (), disk) :=
    run_invoke (by simp [perform, hdraw, answer])
  have hread : (fsCall (.read ino)).run (perform host) draw disk = some (.ok node.content, disk) := by
    apply run_invoke
    simp only [perform, hdraw, answer, hnode, Option.map_some]
    rw [List.take_of_length_le (by omega)]
  have hprivate : isPrivateFile host (fileStat host ino node) 1 = true := by
    simp [isPrivateFile, fileStat, hlinks]
  have hstatSize : ¬maxPreimageBytesPerFile < (fileStat host ino node).size := Nat.not_lt.mpr hsize
  have hreadSize : ¬node.content.length ≠ (fileStat host ino node).size := not_not_intro rfl
  rw [inspectArtifact, run_bind hstat, hprivate, Bool.not_true, if_neg Bool.false_ne_true,
    run_bind hattributes, if_neg hstatSize, if_neg (not_not_intro (validate_fileMetadata ino node)),
    run_bind hread, if_neg (Nat.not_lt.mpr hsize), if_neg hreadSize]
  exact ⟨_, rfl⟩

lemma keyNames_of_forall {names : List EntryName} (h : ∀ name ∈ names, ∃ key, name = keyName key) :
    ∃ keys : List ArtifactKey, names = keys.map keyName := by
  induction names with
  | nil => exact ⟨[], rfl⟩
  | cons name names ih =>
      obtain ⟨key, rfl⟩ := h name List.mem_cons_self
      obtain ⟨keys, rfl⟩ := ih fun name hname => h name (List.mem_cons_of_mem _ hname)
      exact ⟨key :: keys, rfl⟩

def entryOf (area : StoreArea) (key : ArtifactKey) : RecoveryEntry :=
  ⟨key, keyName key, area⟩

lemma collectEntries_keyNames {entries : List RecoveryEntry} {keys : List ArtifactKey}
    (h : entries.length + keys.length ≤ maxRecoveryEntries) :
    collectEntries area entries (keys.map keyName) = pure (entries ++ keys.map (entryOf area)) := by
  induction keys generalizing entries with
  | nil => rw [List.map_nil, List.map_nil, List.append_nil, collectEntries]
  | cons key keys ih =>
      rw [List.length_cons] at h
      rw [List.map_cons, collectEntries, if_neg (by omega), parseCanonicalKey_keyName]
      simp only
      rw [ih (by simp; omega), List.append_assoc]
      rfl

lemma ArtifactDisk.Sound.exists_keys (h : disk.Sound) (area : StoreArea) :
    ∃ keys : List ArtifactKey, (disk.directory area).entries.map Prod.fst = keys.map keyName ∧ keys.Nodup := by
  obtain ⟨keys, hkeys⟩ : ∃ keys : List ArtifactKey,
      (disk.directory area).entries.map Prod.fst = keys.map keyName := by
    apply keyNames_of_forall
    intro name hname
    obtain ⟨⟨name, ino⟩, hentry, rfl⟩ := List.mem_map.mp hname
    obtain ⟨node, -, hkey⟩ := h.named area name ino (InsertionMap.get?_eq_some.mpr hentry)
    exact ⟨node.key, hkey⟩
  refine ⟨keys, hkeys, List.Nodup.of_map keyName ?_⟩
  rw [← hkeys]
  exact (disk.directory area).unique

lemma mem_keys_iff {keys : List ArtifactKey}
    (hkeys : (disk.directory area).entries.map Prod.fst = keys.map keyName) {key : ArtifactKey} :
    key ∈ keys ↔ ∃ ino, (disk.directory area).get? (keyName key) = some ino := by
  have hmap : key ∈ keys ↔ keyName key ∈ keys.map keyName := by
    refine ⟨List.mem_map_of_mem, fun hmem => ?_⟩
    obtain ⟨key', hkey', heq⟩ := List.mem_map.mp hmem
    exact keyName_injective heq ▸ hkey'
  rw [hmap, ← hkeys, List.mem_map]
  constructor
  · rintro ⟨⟨name, ino⟩, hentry, rfl⟩
    exact ⟨ino, InsertionMap.get?_eq_some.mpr hentry⟩
  · rintro ⟨ino, hino⟩
    exact ⟨(keyName key, ino), InsertionMap.get?_eq_some.mp hino, rfl⟩

lemma run_enumerateEntries (hdraw : draw.fault = none) {keys : List ArtifactKey}
    (hkeys : (disk.directory area).entries.map Prod.fst = keys.map keyName)
    (hsmall : keys.length ≤ maxRecoveryEntries) :
    (enumerateEntries area).run (perform host) draw disk = some (.ok (keys.map (entryOf area)), disk) := by
  have hread : (fsCall (.readDir area)).run (perform host) draw disk =
      some (.ok (keys.map keyName), disk) :=
    run_invoke (by simp [perform, hdraw, answer, hkeys])
  rw [enumerateEntries, run_bind hread, collectEntries_keyNames (by simpa using hsmall), List.nil_append]
  rfl

end Reads

def ArtifactDisk.Apart (disk : ArtifactDisk) : Prop :=
  ∀ name, disk.staging.contains name = true → disk.objects.contains name = false

section Recovery

variable {host : StoreHost} {disk : ArtifactDisk} {draw : ArtifactDraw} {area : StoreArea}

lemma ArtifactDisk.Sound.one_link (h : disk.Sound) (hapart : disk.Apart) {name : EntryName} {ino : ℕ}
    {node : Inode} (hname : (disk.directory area).get? name = some ino)
    (hnode : disk.inodes[ino]? = some node) : node.links = 1 := by
  cases h.name_eq hname hnode
  have hlinks := h.linked ino node hnode
  have hone := hapart (keyName node.key)
  simp only [ArtifactDisk.names] at hlinks
  cases area with
  | staging =>
      have hstaging : disk.staging.get? (keyName node.key) = some ino := hname
      simp only [InsertionMap.contains, hstaging, Option.isSome_some, Option.isSome_eq_false_iff,
        Option.isNone_iff_eq_none, true_implies] at hone
      simpa [hstaging, hone] using hlinks
  | objects =>
      have hobjects : disk.objects.get? (keyName node.key) = some ino := hname
      have hstaging : disk.staging.get? (keyName node.key) = none := by
        by_contra hne
        simp [InsertionMap.contains, hobjects, Option.isSome_iff_ne_none.mpr hne] at hone
      simpa [hstaging, hobjects] using hlinks

lemma run_inspectEntries (hdraw : draw.fault = none) (h : disk.Sound) (hapart : disk.Apart)
    {entries : List RecoveryEntry}
    (hentries : ∀ entry ∈ entries, ∃ ino, (disk.directory entry.area).get? entry.name = some ino) :
    (inspectEntries host entries).run (perform host) draw disk = some (.ok (), disk) := by
  induction entries with
  | nil => rfl
  | cons entry entries ih =>
      obtain ⟨ino, hname⟩ := hentries entry List.mem_cons_self
      obtain ⟨node, hnode, -⟩ := h.named entry.area entry.name ino hname
      obtain ⟨hcontent, hbytes⟩ := h.begun ino node hnode
      obtain ⟨snapshot, hinspect⟩ := @run_inspectArtifact host disk draw ino node hdraw hnode
        (h.one_link hapart hname hnode) (hcontent.length_le.trans hbytes)
      rw [inspectEntries, run_bind (run_openNamed hdraw hname), run_bind hinspect]
      exact ih fun entry hentry => hentries entry (List.mem_cons_of_mem _ hentry)

structure Pruned (area : StoreArea) (gone : List EntryName) (before after : ArtifactDisk) : Prop where
  sound : after.Sound
  whole : ∀ ino key bytes, before.Whole ino key bytes → after.Whole ino key bytes
  pruned : ∀ name, (after.directory area).get? name =
    if name ∈ gone then none else (before.directory area).get? name
  other : ∀ other, other ≠ area → after.directory other = before.directory other

lemma Pruned.refl (h : disk.Sound) : Pruned area [] disk disk where
  sound := h
  whole _ _ _ hwhole := hwhole
  pruned _ := by rw [if_neg List.not_mem_nil]
  other _ _ := rfl

lemma directory_unlinked {name : EntryName} {ino : ℕ} {node : Inode} :
    (disk.unlinked area name ino node).directory area = (disk.directory area).delete name := by
  cases area <;> rfl

lemma directory_unlinked_ne {other : StoreArea} {name : EntryName} {ino : ℕ} {node : Inode}
    (h : other ≠ area) : (disk.unlinked area name ino node).directory other = disk.directory other := by
  cases area with
  | staging => cases other with
    | staging => exact absurd rfl h
    | objects => rfl
  | objects => cases other with
    | staging => rfl
    | objects => exact absurd rfl h

lemma run_removeOrphans (hdraw : draw.fault = none) (referenced : Finset ArtifactKey)
    {keys : List ArtifactKey} (h : disk.Sound) (hnodup : keys.Nodup)
    (hkeys : ∀ key ∈ keys, ∃ ino, (disk.directory area).get? (keyName key) = some ino) (removed : ℕ)
    (hremoved : removed + keys.length < 2 ^ 32) :
    ∃ count after, (removeOrphans referenced removed (keys.map (entryOf area))).run (perform host) draw disk =
        some (.ok count, after) ∧
      Pruned area ((keys.filter (· ∉ referenced)).map keyName) disk after := by
  induction keys generalizing disk removed with
  | nil => exact ⟨removed, disk, rfl, .refl h⟩
  | cons key keys ih =>
      obtain ⟨hkey, hrest⟩ := List.nodup_cons.mp hnodup
      rw [List.length_cons] at hremoved
      rw [List.map_cons, removeOrphans]
      by_cases hreferenced : (entryOf area key).key ∈ referenced
      · rw [if_pos hreferenced, List.filter_cons_of_neg (by simpa [entryOf] using hreferenced)]
        exact ih h hrest (fun key hmem => hkeys key (List.mem_cons_of_mem _ hmem)) removed (by omega)
      · rw [if_neg hreferenced, List.filter_cons_of_pos (by simpa [entryOf] using hreferenced)]
        obtain ⟨ino, hname⟩ := hkeys key List.mem_cons_self
        obtain ⟨node, hnode, -⟩ := h.named area _ ino hname
        have hunlink : (unlink area (keyName key)).run (perform host) draw disk =
            some (.ok (), disk.unlinked area (keyName key) ino node) :=
          run_invoke (by simp [perform, hdraw, hname, hnode])
        obtain ⟨hsound, hevolves⟩ := h.unlink hname hnode
        have hstays : ∀ other ∈ keys, ∃ ino',
            ((disk.unlinked area (keyName key) ino node).directory area).get? (keyName other) = some ino' := by
          intro other hother
          obtain ⟨ino', hino'⟩ := hkeys other (List.mem_cons_of_mem _ hother)
          refine ⟨ino', ?_⟩
          rw [directory_unlinked, InsertionMap.get?_delete, if_neg, hino']
          intro heq
          exact hkey (keyName_injective heq ▸ hother)
        obtain ⟨count, after, hrun, hpruned⟩ := ih hsound hrest hstays (removed + 1) (by omega)
        refine ⟨count, after, ?_, hpruned.sound, ?_, ?_, ?_⟩
        · have hunlink' : (unlink (entryOf area key).area (entryOf area key).name).run (perform host) draw disk =
              some (.ok (), disk.unlinked area (keyName key) ino node) := hunlink
          rw [run_bind hunlink', if_pos (by omega), hrun]
        · exact fun ino key bytes hwhole => hpruned.whole ino key bytes (hwhole.later hevolves)
        · intro name
          rw [hpruned.pruned, directory_unlinked, InsertionMap.get?_delete, List.map_cons]
          by_cases hgone : name ∈ (keys.filter (· ∉ referenced)).map keyName
          · rw [if_pos hgone, if_pos (List.mem_cons_of_mem _ hgone)]
          · rw [if_neg hgone]
            simp only [List.mem_cons, hgone, or_false]
        · exact fun other hother => (hpruned.other other hother).trans (directory_unlinked_ne hother)

lemma run_syncRemoved (hdraw : draw.fault = none) (removed : ℕ) :
    (syncRemoved area removed).run (perform host) draw disk = some (.ok (), disk) := by
  unfold syncRemoved
  split
  · exact run_invoke (by simp [perform, hdraw, answer])
  · rfl

theorem run_recoverOrphans (hdraw : draw.fault = none) (h : disk.Sound) (hapart : disk.Apart)
    (hsmall : ∀ area, (disk.directory area).entries.length ≤ maxRecoveryEntries)
    (referenced : Finset ArtifactKey) :
    ∃ report after, (recoverOrphans host referenced).run (perform host) draw disk = some (.ok report, after) ∧
      (∀ ino key bytes, disk.Whole ino key bytes → after.Whole ino key bytes) ∧
      ∀ area name ino, (after.directory area).get? name = some ino ↔
        (disk.directory area).get? name = some ino ∧ ∃ key ∈ referenced, name = keyName key := by
  obtain ⟨stagingKeys, hstaging, hstagingNodup⟩ := h.exists_keys .staging
  obtain ⟨objectKeys, hobjects, hobjectsNodup⟩ := h.exists_keys .objects
  have hlength : ∀ {area : StoreArea} {keys : List ArtifactKey}, (disk.directory area).entries.map Prod.fst = keys.map keyName →
      keys.length ≤ maxRecoveryEntries := by
    intro area keys hkeys
    have heq := congrArg List.length hkeys
    rw [List.length_map, List.length_map] at heq
    exact heq ▸ hsmall area
  have hbound : ∀ {n : ℕ}, n ≤ maxRecoveryEntries → 0 + n < 2 ^ 32 := by
    intro n hn
    simp only [maxRecoveryEntries] at hn
    omega
  have hinspect : (inspectEntries host (stagingKeys.map (entryOf .staging) ++
      objectKeys.map (entryOf .objects))).run (perform host) draw disk = some (.ok (), disk) := by
    apply run_inspectEntries hdraw h hapart
    intro entry hentry
    rcases List.mem_append.mp hentry with hmem | hmem
    · obtain ⟨key, hkey, rfl⟩ := List.mem_map.mp hmem
      exact (mem_keys_iff hstaging).mp hkey
    · obtain ⟨key, hkey, rfl⟩ := List.mem_map.mp hmem
      exact (mem_keys_iff hobjects).mp hkey
  obtain ⟨stagingRemoved, middle, hremove, hpruned⟩ := @run_removeOrphans host disk draw .staging hdraw referenced
    stagingKeys h hstagingNodup (fun key hkey => (mem_keys_iff hstaging).mp hkey) 0 (hbound (hlength hstaging))
  have hmiddle : middle.directory .objects = disk.directory .objects := hpruned.other .objects nofun
  obtain ⟨objectsRemoved, after, hremove', hpruned'⟩ := @run_removeOrphans host middle draw .objects hdraw
    referenced objectKeys hpruned.sound hobjectsNodup
    (fun key hkey => hmiddle ▸ (mem_keys_iff hobjects).mp hkey) 0 (hbound (hlength hobjects))
  refine ⟨⟨stagingRemoved, objectsRemoved⟩, after, ?_, ?_, ?_⟩
  · rw [recoverOrphans, run_bind (run_enumerateEntries hdraw hstaging (hlength hstaging)),
      run_bind (run_enumerateEntries hdraw hobjects (hlength hobjects)), run_bind hinspect, run_bind hremove,
      run_bind (run_syncRemoved hdraw stagingRemoved), run_bind hremove',
      run_bind (run_syncRemoved hdraw objectsRemoved)]
    rfl
  · exact fun ino key bytes hwhole => hpruned'.whole _ _ _ (hpruned.whole _ _ _ hwhole)
  have hstays : ∀ {area : StoreArea} {keys : List ArtifactKey} {name : EntryName} {ino : ℕ},
      (disk.directory area).entries.map Prod.fst = keys.map keyName →
      ((if name ∈ (keys.filter (· ∉ referenced)).map keyName then none
        else (disk.directory area).get? name) = some ino ↔
      (disk.directory area).get? name = some ino ∧ ∃ key ∈ referenced, name = keyName key) := by
    intro area keys name ino hkeys
    constructor
    · intro hget
      split at hget
      · cases hget
      · next hkept =>
        obtain ⟨node, -, rfl⟩ := h.named area name ino hget
        refine ⟨hget, node.key, ?_, rfl⟩
        by_contra hreferenced
        exact hkept (List.mem_map_of_mem (List.mem_filter.mpr
          ⟨(mem_keys_iff hkeys).mpr ⟨ino, hget⟩, by simpa using hreferenced⟩))
    · rintro ⟨hget, key, hkey, rfl⟩
      rw [if_neg, hget]
      intro hgone
      obtain ⟨other, hother, heq⟩ := List.mem_map.mp hgone
      rw [keyName_injective heq] at hother
      exact of_decide_eq_true (List.mem_filter.mp hother).2 hkey
  intro area name ino
  cases area with
  | staging => rw [hpruned'.other .staging nofun, hpruned.pruned, hstays hstaging]
  | objects => rw [hpruned'.pruned, hmiddle, hstays hobjects]

def Referable (s : ArtifactRun) (key : ArtifactKey) : Prop :=
  keyName key ∉ s.shared.cleaned ∧ ∃ operation artifact,
    (operation, .publish (.published artifact)) ∈ returned s.calls ∧ artifact.key = key

def Recovers (host : StoreHost) (s : ArtifactRun) (referenced : Finset ArtifactKey) : Prop :=
  ∀ draw : ArtifactDraw, draw.fault = none → ∃ report after,
    (recoverOrphans host referenced).run (perform host) draw s.shared = some (.ok report, after) ∧
    (∀ key ∈ referenced, ∃ bytes maximumBytes staged ino node,
      (.stage bytes maximumBytes, .staged staged) ∈ returned s.calls ∧ staged.key = key ∧
      after.objects.get? (keyName key) = some ino ∧ after.inodes[ino]? = some node ∧
      node.content = bytes) ∧
    ∀ area name, (after.directory area).contains name = true → ∃ key ∈ referenced, name = keyName key

theorem recovers_after_crash {s : ArtifactRun} {referenced : Finset ArtifactKey}
    (h : System.Reachable (artifactStore host) s) (hreferenced : ∀ key ∈ referenced, Referable s key)
    (hsmall : ∀ area, (s.shared.directory area).entries.length ≤ maxRecoveryEntries)
    (hapart : s.shared.Apart) : Recovers host s referenced := by
  intro draw hdraw
  have hdisciplined := artifacts_disciplined h
  have hsound : s.shared.Sound := hdisciplined.invariant
  obtain ⟨report, after, hrun, hwhole, hnames⟩ := run_recoverOrphans hdraw hsound hapart hsmall referenced
  refine ⟨report, after, hrun, ?_, ?_⟩
  · intro key hkey
    obtain ⟨huncleaned, operation, artifact, hmem, rfl⟩ := hreferenced key hkey
    obtain ⟨hpublished, bytes, maximumBytes, staged, hstaged, hsame⟩ := staged_of_published h hmem
    obtain ⟨ino, bytes', hname, node, hnode, hnodeKey, hrest⟩ := hpublished.resolve_right huncleaned
    obtain ⟨_, _, ino', ⟨⟩, node', hnode', hnodeKey', hbytes, hcontent⟩ := hdisciplined.returned hstaged
    have heq : ino' = ino := hsound.ino_eq hnode' hnode (by rw [hnodeKey, hnodeKey', hsame])
    subst heq
    obtain ⟨last, hlast, -, -, hcontent'⟩ := hwhole _ _ _ ⟨node', hnode', hnodeKey', hbytes, hcontent⟩
    have hname' := (hnames .objects (keyName artifact.key) ino').mpr ⟨hname, artifact.key, hkey, rfl⟩
    exact ⟨bytes, maximumBytes, staged, ino', last, hstaged, hsame, hname', hlast, hcontent'⟩
  · intro area name hname
    obtain ⟨ino, hino⟩ := Option.isSome_iff_exists.mp hname
    exact ((hnames area name ino).mp hino).2

end Recovery

section Crashes

def lettersKey : ArtifactKey := ⟨List.replicate 16 7, rfl⟩

def lettersHost : StoreHost where
  euid := 501
  gid := 20
  dev := 1
  sha256 _ := ⟨[0xba, 0x78, 0x16, 0xbf, 0x8f, 0x01, 0xcf, 0xea, 0x41, 0x41, 0x40, 0xde, 0x5d, 0xae, 0x22,
    0x23, 0xb0, 0x03, 0x61, 0xa3, 0x96, 0x17, 0x7a, 0x9c, 0xb4, 0x10, 0xff, 0x61, 0xf2, 0x00, 0x15, 0xad], rfl⟩

def lettersDraw : ArtifactDraw := ⟨lettersKey, 0, none⟩

def lettersStaged : StagedArtifact where
  key := lettersKey
  size := 3
  sha256 := lettersHost.sha256 [97, 98, 99]
  metadata := fileMetadata (fileStat lettersHost 0 ⟨[97, 98, 99], 1, lettersKey, [97, 98, 99]⟩)

def publishedSteps (count : ℕ) : ArtifactRun :=
  (artifactStore lettersHost).exec (artifactStore lettersHost).start
    (.enter (.stage [97, 98, 99] 1024) :: List.replicate 9 (.advance 0 lettersDraw) ++
      .enter (.publish lettersStaged) :: List.replicate count (.advance 1 lettersDraw))

lemma publishedSteps_reachable (count : ℕ) :
    System.Reachable (artifactStore lettersHost) (publishedSteps count) :=
  .exec .start _

lemma publishedSteps_returned : (returned (publishedSteps 16).calls).map Prod.snd =
    [.staged lettersStaged, .publish (.published ⟨lettersKey, 3, lettersStaged.sha256⟩)] := by
  decide +kernel

theorem published_recovers : Recovers lettersHost (publishedSteps 16) {lettersKey} := by
  refine recovers_after_crash (publishedSteps_reachable 16) ?_ ?_ ?_
  · intro key hkey
    rw [Finset.mem_singleton.mp hkey]
    refine ⟨by decide +kernel, ?_⟩
    have hmem : .publish (.published ⟨lettersKey, 3, lettersStaged.sha256⟩) ∈
        (returned (publishedSteps 16).calls).map Prod.snd := by
      rw [publishedSteps_returned]
      exact List.mem_cons_of_mem _ List.mem_cons_self
    obtain ⟨⟨operation, result⟩, hresult, rfl⟩ := List.mem_map.mp hmem
    exact ⟨operation, _, hresult, rfl⟩
  · intro area
    cases area <;> decide +kernel
  · have hstaging : (publishedSteps 16).shared.staging.entries = [] := by decide +kernel
    intro name hname
    simp [InsertionMap.contains, InsertionMap.get?, hstaging] at hname

def numberedKey (n : ℕ) : ArtifactKey :=
  ⟨Fin.ofNat 256 (n / 256) :: Fin.ofNat 256 n :: List.replicate 14 0, rfl⟩

lemma numberedKey_injective {m n : ℕ} (hm : m < 65536) (hn : n < 65536)
    (h : numberedKey m = numberedKey n) : m = n := by
  simp only [numberedKey, ArtifactKey.mk.injEq, List.cons.injEq, Fin.ext_iff, Fin.ofNat] at h
  omega

lemma exists_staged (host : StoreHost) {n : ℕ} (hn : n ≤ 65536) :
    ∃ s, System.Reachable (artifactStore host) s ∧ s.shared.objects = .empty ∧
      s.shared.inodes.map Inode.key = (List.range n).map numberedKey ∧
      s.shared.staging.entries.map Prod.fst = (List.range n).map fun i => keyName (numberedKey i) := by
  induction n with
  | zero => exact ⟨_, .start, rfl, rfl, rfl⟩
  | succ n ih =>
      obtain ⟨s, hs, hobjects, hkeys, hstaging⟩ := ih (by omega)
      have hfresh : numberedKey n ∉ (List.range n).map numberedKey := by
        intro hmem
        obtain ⟨i, hi, heq⟩ := List.mem_map.mp hmem
        have hlt := List.mem_range.mp hi
        have := numberedKey_injective (by omega) (by omega) heq
        omega
      have hnew : ¬∃ node ∈ s.shared.inodes, node.key = numberedKey n := by
        rwa [← List.mem_map, hkeys]
      have hunnamed : keyName (numberedKey n) ∉ s.shared.staging.entries.map Prod.fst := by
        rw [hstaging]
        intro hmem
        obtain ⟨i, hi, heq⟩ := List.mem_map.mp hmem
        exact hfresh (List.mem_map.mpr ⟨i, hi, keyName_injective heq⟩)
      have hget : s.shared.staging.get? (keyName (numberedKey n)) = none := by
        apply Option.eq_none_iff_forall_ne_some.mpr
        exact fun ino hino => hunnamed (List.mem_map_of_mem (InsertionMap.get?_eq_some.mp hino))
      obtain ⟨next, hcode⟩ : ∃ next, ArtifactOperation.code host (.stage [] 0) = .call (.create []) next :=
        ⟨_, rfl⟩
      have henter : (artifactStore host).step s (.enter (.stage [] 0)) =
          some ((), { s with calls := s.calls ++ [⟨.stage [] 0, .call (.create []) next⟩] }) := by
        rw [← hcode]
        rfl
      have hadvance : (artifactStore host).step
          { s with calls := s.calls ++ [⟨.stage [] 0, .call (.create []) next⟩] }
          (.advance s.calls.length (ArtifactDraw.mk (numberedKey n) 0 none)) = some ((), {
            shared := { s.shared with
              inodes := s.shared.inodes ++ [{ content := [], links := 1, key := numberedKey n, bytes := [] }]
              staging := s.shared.staging.set (keyName (numberedKey n)) s.shared.inodes.length }
            calls := List.set (s.calls ++ [⟨.stage [] 0, .call (.create []) next⟩]) s.calls.length
              ⟨.stage [] 0, next (.ok (numberedKey n, s.shared.inodes.length))⟩ }) := by
        simp [artifactStore, programs, Program.step, perform, hnew, InsertionMap.contains, hget]
      refine ⟨_, .step (.step hs henter) hadvance, hobjects, ?_, ?_⟩
      · rw [List.map_append, hkeys, List.range_succ, List.map_append]
        rfl
      · rw [InsertionMap.set, dif_neg hunnamed, List.map_append, hstaging, List.range_succ, List.map_append]
        rfl

lemma run_collectEntries_large {host : StoreHost} {draw : ArtifactDraw} {disk : ArtifactDisk} {area : StoreArea}
    {entries : List RecoveryEntry} {names : List EntryName}
    (h : maxRecoveryEntries < entries.length + names.length) (hentries : entries.length ≤ maxRecoveryEntries) :
    ∃ error, (collectEntries area entries names).run (perform host) draw disk = some (.error error, disk) := by
  induction names generalizing entries with
  | nil =>
      rw [List.length_nil] at h
      omega
  | cons name names ih =>
      rw [collectEntries]
      split
      · exact ⟨_, rfl⟩
      · rw [List.length_cons] at h
        split
        · exact ⟨_, rfl⟩
        · refine ih ?_ ?_
          · rw [List.length_append, List.length_singleton]
            omega
          · rw [List.length_append, List.length_singleton]
            omega

theorem recovery_refuses :
    (∃ s, System.Reachable (artifactStore lettersHost) s ∧
      (∀ area, (s.shared.directory area).entries.length ≤ maxRecoveryEntries) ∧ ¬Recovers lettersHost s ∅) ∧
    ∃ s, System.Reachable (artifactStore lettersHost) s ∧ s.shared.Apart ∧ ¬Recovers lettersHost s ∅ := by
  constructor
  · refine ⟨publishedSteps 5, publishedSteps_reachable 5, ?_, ?_⟩
    · intro area
      cases area <;> decide +kernel
    · intro h
      obtain ⟨report, after, hrun, -⟩ := h lettersDraw rfl
      have hfails : ((recoverOrphans lettersHost ∅).run (perform lettersHost) lettersDraw
          (publishedSteps 5).shared).map (fun result => result.1.toOption.isSome) = some false := by
        decide +kernel
      rw [hrun] at hfails
      cases hfails
  · obtain ⟨s, hs, hobjects, -, hstaging⟩ := exists_staged lettersHost (by decide : maxRecoveryEntries + 1 ≤ 65536)
    refine ⟨s, hs, ?_, ?_⟩
    · intro name _
      rw [hobjects]
      rfl
    · intro h
      obtain ⟨report, after, hrun, -⟩ := h lettersDraw rfl
      obtain ⟨error, hlarge⟩ := @run_collectEntries_large lettersHost lettersDraw s.shared .staging []
        (s.shared.staging.entries.map Prod.fst) (by rw [hstaging]; simp) (Nat.zero_le _)
      have henumerate : (enumerateEntries .staging).run (perform lettersHost) lettersDraw s.shared =
          some (.error error, s.shared) := by
        have hread : (fsCall (.readDir .staging)).run (perform lettersHost) lettersDraw s.shared =
            some (.ok (s.shared.staging.entries.map Prod.fst), s.shared) :=
          run_invoke (by simp [perform, lettersDraw, answer, ArtifactDisk.directory])
        rw [enumerateEntries, run_bind hread, hlarge]
      rw [recoverOrphans, run_bind_error henumerate] at hrun
      cases hrun

end Crashes

end DevCommandCenter.GuardedUndo
