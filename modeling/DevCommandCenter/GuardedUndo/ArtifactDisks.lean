import DevCommandCenter.GuardedUndo.ArtifactStore

/-! What every call to the file system leaves of the artifact store: the names and what they lead to. -/

namespace DevCommandCenter.GuardedUndo

open Library

lemma hexNibble_hexDigit (nibble : Fin 16) : hexNibble (hexDigit nibble) = some nibble := by
  revert nibble
  decide

lemma parseHexPairs_hexDigits (bytes : List Byte) :
    parseHexPairs (bytes.flatMap fun byte =>
      [hexDigit (Fin.ofNat 16 (byte.val / 16)), hexDigit (Fin.ofNat 16 (byte.val % 16))]) = some bytes := by
  induction bytes with
  | nil => rfl
  | cons byte bytes ih =>
      have hbyte : Fin.ofNat 256 ((Fin.ofNat 16 (byte.val / 16)).val * 16 +
          (Fin.ofNat 16 (byte.val % 16)).val) = byte := by
        apply Fin.ext
        simp only [Fin.ofNat]
        omega
      simp only [List.flatMap_cons, List.cons_append, List.nil_append, parseHexPairs, hexNibble_hexDigit,
        Option.bind_eq_bind, Option.bind_some, Option.pure_def, ih, hbyte]

lemma length_keyName (key : ArtifactKey) : (keyName key).length = 32 := by
  simp [keyName, List.length_flatMap, key.sized]

lemma parseCanonicalKey_keyName (key : ArtifactKey) : parseCanonicalKey (keyName key) = some key := by
  rw [parseCanonicalKey, if_neg (not_not_intro (length_keyName key)), keyName, parseHexPairs_hexDigits]
  simp [key.sized]

lemma keyName_injective {key key' : ArtifactKey} (h : keyName key = keyName key') : key = key' := by
  apply Option.some.inj
  rw [← parseCanonicalKey_keyName key, h, parseCanonicalKey_keyName key']

def ArtifactDisk.names (disk : ArtifactDisk) (ino : ℕ) (key : ArtifactKey) : ℕ :=
  (if disk.staging.get? (keyName key) = some ino then 1 else 0) +
    if disk.objects.get? (keyName key) = some ino then 1 else 0

structure ArtifactDisk.Sound (disk : ArtifactDisk) : Prop where
  keys : (disk.inodes.map Inode.key).Nodup
  named : ∀ area name ino, (disk.directory area).get? name = some ino →
    ∃ node, disk.inodes[ino]? = some node ∧ name = keyName node.key
  linked : ∀ (ino : ℕ) (node : Inode), disk.inodes[ino]? = some node → node.links = disk.names ino node.key
  begun : ∀ (ino : ℕ) (node : Inode), disk.inodes[ino]? = some node →
    node.content <+: node.bytes ∧ node.bytes.length ≤ maxPreimageBytesPerFile

def ArtifactDisk.Holds (disk : ArtifactDisk) (ino : ℕ) (key : ArtifactKey) (bytes : List Byte) : Prop :=
  ∃ node, disk.inodes[ino]? = some node ∧ node.key = key ∧ node.bytes = bytes

def ArtifactDisk.Whole (disk : ArtifactDisk) (ino : ℕ) (key : ArtifactKey) (bytes : List Byte) : Prop :=
  ∃ node, disk.inodes[ino]? = some node ∧ node.key = key ∧ node.bytes = bytes ∧ node.content = bytes

structure Inode.Continues (node later : Inode) : Prop where
  key : later.key = node.key
  bytes : later.bytes = node.bytes
  whole : node.content = node.bytes → later.content = node.bytes

structure ArtifactDisk.Evolves (before after : ArtifactDisk) : Prop where
  files : ∀ (ino : ℕ) (node : Inode), before.inodes[ino]? = some node →
    ∃ later, after.inodes[ino]? = some later ∧ node.Continues later
  objects : ∀ name ino, before.objects.get? name = some ino →
    after.objects.get? name = some ino ∨ name ∈ after.cleaned
  cleaned : ∀ name ∈ before.cleaned, name ∈ after.cleaned

lemma Inode.Continues.refl (node : Inode) : node.Continues node where
  key := rfl
  bytes := rfl
  whole h := h

lemma Inode.Continues.trans {node later last : Inode} (h : node.Continues later)
    (h' : later.Continues last) : node.Continues last where
  key := h'.key.trans h.key
  bytes := h'.bytes.trans h.bytes
  whole hwhole := by
    rw [← h.bytes]
    apply h'.whole
    rw [h.bytes]
    exact h.whole hwhole

section Evolves

variable {disk disk' disk'' : ArtifactDisk} {ino : ℕ} {key : ArtifactKey} {bytes : List Byte}

lemma ArtifactDisk.Evolves.refl (disk : ArtifactDisk) : disk.Evolves disk where
  files _ node h := ⟨node, h, .refl node⟩
  objects _ _ h := .inl h
  cleaned _ h := h

lemma ArtifactDisk.Evolves.trans (h : disk.Evolves disk') (h' : disk'.Evolves disk'') :
    disk.Evolves disk'' where
  files ino node hnode := by
    obtain ⟨later, hlater, hcontinues⟩ := h.files ino node hnode
    obtain ⟨last, hlast, hcontinues'⟩ := h'.files ino later hlater
    exact ⟨last, hlast, hcontinues.trans hcontinues'⟩
  objects name ino hname := by
    rcases h.objects name ino hname with hstays | hcleaned
    · exact h'.objects name ino hstays
    · exact .inr (h'.cleaned name hcleaned)
  cleaned name hname := h'.cleaned name (h.cleaned name hname)

lemma ArtifactDisk.Holds.later (h : disk.Holds ino key bytes) (hevolves : disk.Evolves disk') :
    disk'.Holds ino key bytes := by
  obtain ⟨node, hnode, rfl, rfl⟩ := h
  obtain ⟨later, hlater, hcontinues⟩ := hevolves.files ino node hnode
  exact ⟨later, hlater, hcontinues.key, hcontinues.bytes⟩

lemma ArtifactDisk.Whole.later (h : disk.Whole ino key bytes) (hevolves : disk.Evolves disk') :
    disk'.Whole ino key bytes := by
  obtain ⟨node, hnode, rfl, rfl, hwhole⟩ := h
  obtain ⟨later, hlater, hcontinues⟩ := hevolves.files ino node hnode
  exact ⟨later, hlater, hcontinues.key, hcontinues.bytes, hcontinues.whole hwhole⟩

end Evolves

def ArtifactDisk.Allows (disk : ArtifactDisk) : ArtifactCall → Prop
  | .create bytes => bytes.length ≤ maxPreimageBytesPerFile
  | .writeAll ino bytes => ∃ key, disk.Holds ino key bytes
  | _ => True

lemma prefix_written {content bytes : List Byte} (h : content <+: bytes) (count : ℕ) :
    written content bytes count <+: bytes := by
  obtain ⟨rest, rfl⟩ := h
  rw [written]
  by_cases hcount : count ≤ content.length
  · rw [List.take_append_of_le_length hcount, List.take_append_drop]
    exact List.prefix_append content rest
  · rw [List.drop_eq_nil_of_le (by omega), List.append_nil]
    exact List.take_prefix count (content ++ rest)

lemma written_all {content bytes : List Byte} (h : content <+: bytes) :
    written content bytes bytes.length = bytes := by
  rw [written, List.take_length, List.drop_eq_nil_of_le h.length_le, List.append_nil]

section Steps

variable {host : StoreHost} {disk disk' : ArtifactDisk} {draw : ArtifactDraw} {ino : ℕ}
  {node node' : Inode} {name : EntryName}

lemma ArtifactDisk.Sound.ino_eq (h : disk.Sound) {i j : ℕ} {node node' : Inode}
    (hi : disk.inodes[i]? = some node) (hj : disk.inodes[j]? = some node') (hkey : node.key = node'.key) :
    i = j := by
  have hlt : i < (disk.inodes.map Inode.key).length := by
    rw [List.length_map]
    exact (List.getElem?_eq_some_iff.mp hi).1
  apply (List.getElem?_inj hlt h.keys).mp
  rw [List.getElem?_map, List.getElem?_map, hi, hj, Option.map_some, Option.map_some, hkey]

lemma ArtifactDisk.Sound.name_eq (h : disk.Sound) {area : StoreArea}
    (hname : (disk.directory area).get? name = some ino) (hnode : disk.inodes[ino]? = some node) :
    name = keyName node.key := by
  obtain ⟨node', hnode', rfl⟩ := h.named area name ino hname
  cases hnode.symm.trans hnode'
  rfl

theorem ArtifactDisk.Sound.change (h : disk.Sound) (hnode : disk.inodes[ino]? = some node)
    (hcontinues : node.Continues node') (hcontent : node'.content <+: node.bytes)
    (hinodes : disk'.inodes = disk.inodes.set ino node')
    (hother : ∀ area name, name ≠ keyName node.key →
      (disk'.directory area).get? name = (disk.directory area).get? name)
    (hown : ∀ area i, (disk'.directory area).get? (keyName node.key) = some i → i = ino)
    (hlinks : node'.links = disk'.names ino node.key) : disk'.Sound where
  keys := by
    obtain ⟨hlt, heq⟩ := List.getElem?_eq_some_iff.mp hnode
    rw [hinodes, List.map_set, hcontinues.key, ← List.map_set, ← heq, List.set_getElem_self]
    exact h.keys
  named area name i hname := by
    have hset : disk'.inodes[ino]? = some node' := by
      rw [hinodes, List.getElem?_set_self (List.getElem?_eq_some_iff.mp hnode).1]
    by_cases hkey : name = keyName node.key
    · subst hkey
      cases hown area i hname
      exact ⟨node', hset, congrArg keyName hcontinues.key.symm⟩
    · rw [hother area name hkey] at hname
      obtain ⟨found, hfound, rfl⟩ := h.named area name i hname
      by_cases hi : i = ino
      · subst hi
        cases hnode.symm.trans hfound
        exact absurd rfl hkey
      · refine ⟨found, ?_, rfl⟩
        rw [hinodes, List.getElem?_set_ne (Ne.symm hi), hfound]
  linked i found hfound := by
    rw [hinodes] at hfound
    rcases getElem?_set_cases hfound with ⟨rfl, rfl⟩ | ⟨hi, hfound'⟩
    · rw [hlinks, hcontinues.key]
    · have hkey : keyName found.key ≠ keyName node.key := fun heq =>
        hi (h.ino_eq hfound' hnode (keyName_injective heq))
      rw [h.linked i found hfound', ArtifactDisk.names, ArtifactDisk.names]
      have hstaging := hother .staging _ hkey
      have hobjects := hother .objects _ hkey
      simp only [ArtifactDisk.directory] at hstaging hobjects
      rw [hstaging, hobjects]
  begun i found hfound := by
    rw [hinodes] at hfound
    rcases getElem?_set_cases hfound with ⟨-, rfl⟩ | ⟨-, hfound'⟩
    · rw [hcontinues.bytes]
      exact ⟨hcontent, (h.begun ino node hnode).2⟩
    · exact h.begun i found hfound'

lemma ArtifactDisk.Evolves.change (hnode : disk.inodes[ino]? = some node)
    (hcontinues : node.Continues node') (hinodes : disk'.inodes = disk.inodes.set ino node')
    (hobjects : ∀ name i, disk.objects.get? name = some i →
      disk'.objects.get? name = some i ∨ name ∈ disk'.cleaned)
    (hcleaned : ∀ name ∈ disk.cleaned, name ∈ disk'.cleaned) : disk.Evolves disk' where
  files i found hfound := by
    rw [hinodes]
    by_cases hi : i = ino
    · subst hi
      cases hnode.symm.trans hfound
      exact ⟨node', List.getElem?_set_self (List.getElem?_eq_some_iff.mp hnode).1, hcontinues⟩
    · exact ⟨found, (List.getElem?_set_ne (Ne.symm hi)).trans hfound, .refl found⟩
  objects := hobjects
  cleaned := hcleaned

lemma ArtifactDisk.Sound.write (h : disk.Sound) (hnode : disk.inodes[ino]? = some node) (count : ℕ) :
    (disk.setInode ino { node with content := written node.content node.bytes count }).Sound ∧
      disk.Evolves (disk.setInode ino { node with content := written node.content node.bytes count }) := by
  have hbegun := (h.begun ino node hnode).1
  have hcontinues : node.Continues { node with content := written node.content node.bytes count } := by
    refine ⟨rfl, rfl, fun hwhole => ?_⟩
    simp only [hwhole, written, List.take_append_drop]
  constructor
  · apply h.change hnode hcontinues (prefix_written hbegun count) rfl
    · exact fun area _ _ => by cases area <;> rfl
    · intro area i hname
      have hname : (disk.directory area).get? (keyName node.key) = some i := by
        cases area <;> exact hname
      obtain ⟨found, hfound, hkey⟩ := h.named area _ i hname
      exact h.ino_eq hfound hnode (keyName_injective hkey).symm
    · exact h.linked ino node hnode
  · exact .change hnode hcontinues rfl (fun _ _ hname => .inl hname) fun _ hname => hname

lemma ArtifactDisk.Sound.link (h : disk.Sound) (hstaging : disk.staging.get? name = some ino)
    (hobjects : disk.objects.get? name = none) (hnode : disk.inodes[ino]? = some node) :
    ArtifactDisk.Sound { disk.setInode ino { node with links := node.links + 1 } with
        objects := disk.objects.set name ino } ∧
      disk.Evolves { disk.setInode ino { node with links := node.links + 1 } with
        objects := disk.objects.set name ino } := by
  have hname := @ArtifactDisk.Sound.name_eq disk ino node name h .staging hstaging hnode
  subst hname
  have hcontinues : node.Continues { node with links := node.links + 1 } := ⟨rfl, rfl, id⟩
  constructor
  · apply h.change hnode hcontinues (h.begun ino node hnode).1 rfl
    · intro area other hother
      cases area with
      | staging => rfl
      | objects => exact InsertionMap.get?_set.trans (if_neg hother)
    · intro area i hi
      cases area with
      | staging => exact Option.some.inj (hi.symm.trans hstaging)
      | objects => exact (Option.some.inj ((InsertionMap.get?_set.trans (if_pos rfl)).symm.trans hi)).symm
    · simp [ArtifactDisk.names, ArtifactDisk.setInode, h.linked ino node hnode, hstaging, hobjects]
  · refine .change hnode hcontinues rfl (fun other i hi => .inl ?_) fun _ hcleaned => hcleaned
    rw [InsertionMap.get?_set, if_neg, hi]
    rintro rfl
    rw [hobjects] at hi
    cases hi

lemma ArtifactDisk.Sound.unlink {area : StoreArea} (h : disk.Sound)
    (hname : (disk.directory area).get? name = some ino) (hnode : disk.inodes[ino]? = some node) :
    (disk.unlinked area name ino node).Sound ∧ disk.Evolves (disk.unlinked area name ino node) := by
  cases h.name_eq hname hnode
  have hcontinues : node.Continues { node with links := node.links - 1 } := ⟨rfl, rfl, id⟩
  have hunique : ∀ area i, (disk.directory area).get? (keyName node.key) = some i → i = ino := by
    intro area i hi
    obtain ⟨found, hfound, hkey⟩ := h.named area _ i hi
    exact h.ino_eq hfound hnode (keyName_injective hkey).symm
  have hlinks := h.linked ino node hnode
  cases area with
  | staging =>
      constructor
      · apply h.change hnode hcontinues (h.begun ino node hnode).1 rfl
        · intro area other hother
          cases area with
          | staging => exact InsertionMap.get?_delete.trans (if_neg hother)
          | objects => rfl
        · intro area i hi
          cases area with
          | staging => cases (InsertionMap.get?_delete.trans (if_pos rfl)).symm.trans hi
          | objects => exact hunique .objects i hi
        · simp only [ArtifactDisk.directory] at hname
          simp [ArtifactDisk.names, ArtifactDisk.unlinked, ArtifactDisk.setInode, hlinks, hname]
      · exact .change hnode hcontinues rfl (fun _ _ hi => .inl hi) fun _ hcleaned => hcleaned
  | objects =>
      constructor
      · apply h.change hnode hcontinues (h.begun ino node hnode).1 rfl
        · intro area other hother
          cases area with
          | staging => rfl
          | objects => exact InsertionMap.get?_delete.trans (if_neg hother)
        · intro area i hi
          cases area with
          | staging => exact hunique .staging i hi
          | objects => cases (InsertionMap.get?_delete.trans (if_pos rfl)).symm.trans hi
        · simp only [ArtifactDisk.directory] at hname
          simp [ArtifactDisk.names, ArtifactDisk.unlinked, ArtifactDisk.setInode, hlinks, hname]
      · refine .change hnode hcontinues rfl (fun other i hi => ?_) fun _ => List.mem_cons_of_mem _
        by_cases hother : other = keyName node.key
        · exact .inr (hother ▸ List.mem_cons_self)
        · exact .inl ((InsertionMap.get?_delete.trans (if_neg hother)).trans hi)

lemma ArtifactDisk.Sound.create {key : ArtifactKey} {bytes : List Byte} (h : disk.Sound)
    (hkey : key ∉ disk.inodes.map Inode.key) (hbytes : bytes.length ≤ maxPreimageBytesPerFile) :
    ArtifactDisk.Sound { disk with
        inodes := disk.inodes ++ [{ content := [], links := 1, key := key, bytes := bytes }]
        staging := disk.staging.set (keyName key) disk.inodes.length } ∧
      disk.Evolves { disk with
        inodes := disk.inodes ++ [{ content := [], links := 1, key := key, bytes := bytes }]
        staging := disk.staging.set (keyName key) disk.inodes.length } := by
  have hold : ∀ {i : ℕ} {node : Inode}, disk.inodes[i]? = some node →
      (disk.inodes ++ [{ content := [], links := 1, key := key, bytes := bytes }])[i]? = some node :=
    fun hnode => List.getElem?_append_left (List.getElem?_eq_some_iff.mp hnode).1 ▸ hnode
  have hnew : ∀ {i : ℕ} {node : Inode}, disk.inodes[i]? = some node →
      keyName node.key ≠ keyName key := by
    intro i node hnode heq
    exact hkey (keyName_injective heq ▸ List.mem_map_of_mem (List.mem_of_getElem? hnode))
  have hunnamed : ∀ area, (disk.directory area).get? (keyName key) = none := by
    intro area
    apply Option.eq_none_iff_forall_ne_some.mpr
    intro i hi
    obtain ⟨node, hnode, hname⟩ := h.named area _ i hi
    exact hnew hnode hname.symm
  have hobjects : disk.objects.get? (keyName key) = none := hunnamed .objects
  refine ⟨⟨?_, ?_, ?_, ?_⟩, fun i node hnode => ⟨node, hold hnode, .refl node⟩, fun _ _ => .inl, fun _ => id⟩
  · rw [List.map_append, List.map_singleton]
    refine List.nodup_append.mpr ⟨h.keys, List.nodup_singleton _, ?_⟩
    rintro a ha b hb rfl
    rw [List.mem_singleton.mp hb] at ha
    exact hkey ha
  · intro area name i hname
    cases area with
    | staging =>
        simp only [ArtifactDisk.directory, InsertionMap.get?_set] at hname
        split at hname
        · next heq =>
          cases hname
          exact ⟨_, List.getElem?_concat_length, heq⟩
        · obtain ⟨node, hnode, hkey'⟩ := h.named .staging name i hname
          exact ⟨node, hold hnode, hkey'⟩
    | objects =>
        obtain ⟨node, hnode, hkey'⟩ := h.named .objects name i hname
        exact ⟨node, hold hnode, hkey'⟩
  · intro i node hnode
    rw [List.getElem?_append] at hnode
    split at hnode
    · simp [ArtifactDisk.names, hnew hnode, h.linked i node hnode]
    · next hlt =>
      have hi : i - disk.inodes.length < 1 := (List.getElem?_eq_some_iff.mp hnode).1
      obtain rfl : i = disk.inodes.length := by omega
      rw [Nat.sub_self, List.getElem?_cons_zero] at hnode
      cases hnode
      simp [ArtifactDisk.names, hobjects]
  · intro i node hnode
    rcases getElem?_append_singleton_cases hnode with hnode | rfl
    · exact h.begun i node hnode
    · exact ⟨List.nil_prefix, hbytes⟩

theorem perform_sound {c : ArtifactCall} {reply : Except MacArtifactStoreError c.Reply}
    (h : disk.Sound) (hallows : disk.Allows c) (hperform : perform host c draw disk = some (reply, disk')) :
    disk'.Sound ∧ disk.Evolves disk' := by
  have hsame : disk' = disk → disk'.Sound ∧ disk.Evolves disk' := by
    rintro rfl
    exact ⟨h, .refl disk'⟩
  cases c with
  | create bytes =>
      cases hfault : draw.fault with
      | some fault =>
          simp only [perform, hfault, Option.some.injEq, Prod.mk.injEq] at hperform
          exact hsame hperform.2.symm
      | none =>
          simp only [perform, hfault] at hperform
          split at hperform
          · cases hperform
          · next hkey =>
            split at hperform
            · cases hperform
              exact hsame rfl
            · cases hperform
              exact h.create hkey hallows
  | writeAll ino bytes =>
      obtain ⟨key, node, hnode, -, rfl⟩ := hallows
      simp only [perform, hnode, Option.map_some, Option.some.injEq, Prod.mk.injEq] at hperform
      rw [← hperform.2]
      exact h.write hnode _
  | linkAt name =>
      cases hfault : draw.fault with
      | some fault =>
          simp only [perform, hfault, Option.some.injEq, Prod.mk.injEq] at hperform
          exact hsame hperform.2.symm
      | none =>
          cases hstaging : disk.staging.get? name with
          | none =>
              simp only [perform, hfault, hstaging, Option.some.injEq, Prod.mk.injEq] at hperform
              exact hsame hperform.2.symm
          | some ino =>
              cases hobjects : disk.objects.get? name with
              | some other =>
                  simp only [perform, hfault, hstaging, InsertionMap.contains, hobjects, Option.isSome_some,
                    if_true, Option.some.injEq, Prod.mk.injEq] at hperform
                  exact hsame hperform.2.symm
              | none =>
                  simp only [perform, hfault, hstaging, InsertionMap.contains, hobjects, Option.isSome_none,
                    Bool.false_eq_true, if_false] at hperform
                  obtain ⟨node, hnode, heq⟩ := Option.map_eq_some_iff.mp hperform
                  cases heq
                  exact h.link hstaging hobjects hnode
  | unlinkAt area name =>
      cases hfault : draw.fault with
      | some fault =>
          simp only [perform, hfault, Option.some.injEq, Prod.mk.injEq] at hperform
          exact hsame hperform.2.symm
      | none =>
          cases hname : (disk.directory area).get? name with
          | none =>
              simp only [perform, hfault, hname, Option.some.injEq, Prod.mk.injEq] at hperform
              exact hsame hperform.2.symm
          | some ino =>
              simp only [perform, hfault, hname] at hperform
              obtain ⟨node, hnode, heq⟩ := Option.map_eq_some_iff.mp hperform
              cases heq
              exact h.unlink hname hnode
  | _ =>
      apply hsame
      cases hfault : draw.fault with
      | some fault =>
          simp only [perform, hfault, Option.some.injEq, Prod.mk.injEq] at hperform
          exact hperform.2.symm
      | none =>
          simp only [perform, hfault, Option.map_eq_some_iff, Prod.mk.injEq] at hperform
          obtain ⟨-, -, -, hdisk⟩ := hperform
          exact hdisk.symm

end Steps

end DevCommandCenter.GuardedUndo
