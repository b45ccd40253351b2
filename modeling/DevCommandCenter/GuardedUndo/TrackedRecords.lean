import DevCommandCenter.GuardedUndo.ManifestEncoding
import DevCommandCenter.GuardedUndo.TrackedManifest
import Mathlib.Data.Fintype.Card
import Mathlib.Data.Nat.Digits.Defs

/-! Reading back what `git ls-files --stage -v -z` prints of an index, and telling two readings
apart by the bytes that are hashed. -/

namespace DevCommandCenter.GuardedUndo

open Library

structure IndexRecord where
  tag : Byte
  mode : UInt32
  objectId : List Byte
  stage : Fin 4
  path : List Byte
  letter : isAsciiAlphabetic tag.val = true
  sized : objectId.length = 20 ∨ objectId.length = 32
  valid : validateUnixRelativePath path = .ok ()

section Printing

def digitByte (value : ℕ) : Byte :=
  Fin.ofNat 256 (0x30 + value)

-- `%06o`
def octal (mode : ℕ) : List Byte :=
  let written := (Nat.digits 8 mode).reverse.map digitByte
  List.replicate (6 - written.length) 0x30 ++ written

def hexByte (value : ℕ) : Byte :=
  Fin.ofNat 256 (if value < 10 then 0x30 + value else 0x61 + (value - 10))

def hex (bytes : List Byte) : List Byte :=
  bytes.flatMap fun byte => [hexByte (byte.val / 16), hexByte (byte.val % 16)]

def IndexRecord.fields (record : IndexRecord) : List (List Byte) :=
  [[record.tag], octal record.mode.toNat, hex record.objectId, [digitByte record.stage]]

def IndexRecord.line (record : IndexRecord) : List Byte :=
  [0x20].intercalate record.fields ++ 0x09 :: record.path

def lsFiles (records : List IndexRecord) : List Byte :=
  records.flatMap fun record => record.line ++ [0]

end Printing

def IndexRecord.entry (record : IndexRecord) : TrackedManifestEntry where
  path := ⟨1 :: 1 :: record.path⟩
  mode := record.mode
  stage := Fin.ofNat 256 record.stage
  objectId := record.objectId
  assumeUnchanged := isAsciiLowercase record.tag
  skipWorktree := decide (record.tag = 0x53 ∨ record.tag = 0x73)
  kind := classifyEntry record.mode (Fin.ofNat 256 record.stage)
  attributeHazards := ⟨[], ordered_noHazards⟩

structure WithinLimits (limits : GitInspectorLimits) (records : List IndexRecord) : Prop where
  entries : records.length ≤ limits.maxTrackedEntries
  paths : ∀ record ∈ records, record.path.length ≤ maxOpaquePathBytes - 2
  total : (records.map fun record => record.path.length).sum ≤ limits.maxTotalPathBytes

section Fields

lemma digitByte_val : ∀ value < 10, (digitByte value).val = 0x30 + value := by
  decide

lemma digitValue_digitByte {radix value : ℕ} (hradix : radix ≤ 10) (h : value < radix) :
    digitValue radix (digitByte value) = some value := by
  rw [digitValue, digitByte_val value (by omega), if_pos (by omega)]
  simp

def readNumber (values : List ℕ) : ℕ :=
  values.foldl (fun number value => number * 8 + value) 0

lemma readNumber_zeros (count : ℕ) (values : List ℕ) :
    readNumber (List.replicate count 0 ++ values) = readNumber values := by
  induction count with
  | zero => rfl
  | succ count ih => exact ih

lemma readNumber_digits (number : ℕ) : readNumber (Nat.digits 8 number).reverse = number := by
  rw [readNumber, List.foldl_reverse]
  calc (Nat.digits 8 number).foldr (fun value number => number * 8 + value) 0
      = Nat.ofDigits 8 (Nat.digits 8 number) := by
        rw [Nat.ofDigits_eq_foldr]
        congr 1
        funext value number
        simp [Nat.add_comm, Nat.mul_comm]
    _ = number := Nat.ofDigits_digits 8 number

def octalValues (mode : ℕ) : List ℕ :=
  List.replicate (6 - (Nat.digits 8 mode).length) 0 ++ (Nat.digits 8 mode).reverse

lemma octal_eq (mode : ℕ) : octal mode = (octalValues mode).map digitByte := by
  simp only [octal, octalValues, List.map_append, List.map_replicate, List.length_map,
    List.length_reverse]
  rfl

lemma octalValues_lt {mode value : ℕ} (h : value ∈ octalValues mode) : value < 8 := by
  simp only [octalValues, List.mem_append, List.mem_replicate, List.mem_reverse] at h
  rcases h with ⟨-, rfl⟩ | h
  · decide
  · exact Nat.digits_lt_base (by decide) h

lemma octal_ne_nil (mode : ℕ) : octal mode ≠ [] := by
  intro h
  have hlength := congrArg List.length h
  simp only [octal_eq, octalValues, List.length_map, List.length_append, List.length_replicate,
    List.length_reverse, List.length_nil] at hlength
  omega

lemma mapM_digitValue {values : List ℕ} (h : ∀ value ∈ values, value < 8) :
    (values.map digitByte).mapM (digitValue 8) = some values := by
  induction values with
  | nil => rfl
  | cons value values ih =>
      simp only [List.mem_cons, forall_eq_or_imp] at h
      rw [List.map_cons, List.mapM_cons, digitValue_digitByte (by decide) h.1, ih h.2]
      rfl

lemma head_octal (mode : ℕ) : (octal mode).head? ≠ some 0x2b := by
  intro h
  obtain ⟨value, hvalue, heq⟩ := List.mem_map.mp (octal_eq mode ▸ List.mem_of_mem_head? h)
  have hval := digitByte_val value (by have := octalValues_lt hvalue; omega)
  rw [heq] at hval
  have : (0x2b : Byte).val = 0x2b := rfl
  omega

lemma fromRadix_octal (mode : UInt32) :
    fromRadix 8 (2 ^ 32) (octal mode.toNat) = some mode.toNat := by
  have hread : readNumber (octalValues mode.toNat) = mode.toNat :=
    (readNumber_zeros _ _).trans (readNumber_digits _)
  have hvalues : (octal mode.toNat).mapM (digitValue 8) = some (octalValues mode.toNat) := by
    rw [octal_eq]
    exact mapM_digitValue fun value hvalue => octalValues_lt hvalue
  simp only [fromRadix, if_neg (head_octal _), if_neg (octal_ne_nil _), hvalues]
  show (if readNumber (octalValues mode.toNat) < 2 ^ 32 then
    some (readNumber (octalValues mode.toNat)) else none) = _
  rw [hread, if_pos mode.toNat_lt]

lemma fromRadix_stage : ∀ stage : Fin 4, fromRadix 10 256 [digitByte stage] = some stage.val := by
  decide

lemma decodeHex_hexByte : ∀ value < 16, decodeHex (hexByte value) = some value := by
  decide

lemma decodePairs_hex (bytes : List Byte) : decodePairs (hex bytes) = some bytes := by
  induction bytes with
  | nil => rfl
  | cons byte bytes ih =>
      have hbyte : Fin.ofNat 256 (16 * (byte.val / 16) + byte.val % 16) = byte := by
        rw [Nat.div_add_mod]
        exact Fin.ofNat_val_eq_self byte
      simp only [hex, List.flatMap_cons, List.cons_append, List.nil_append, decodePairs] at ih ⊢
      rw [decodeHex_hexByte _ (by omega), decodeHex_hexByte _ (by omega), ih]
      show some (Fin.ofNat 256 (16 * (byte.val / 16) + byte.val % 16) :: bytes) = _
      rw [hbyte]

lemma length_hex (bytes : List Byte) : (hex bytes).length = 2 * bytes.length := by
  simp [hex, Nat.mul_comm]

lemma hexByte_printed : ∀ value < 16, 0x20 < (hexByte value).val := by
  decide

variable {record : IndexRecord}

lemma IndexRecord.fields_printed {field : List Byte} (hfield : field ∈ record.fields) {byte : Byte}
    (h : byte ∈ field) : 0x20 < byte.val := by
  simp only [fields, List.mem_cons, List.not_mem_nil, or_false] at hfield
  rcases hfield with rfl | rfl | rfl | rfl
  · have hletter := record.letter
    rw [List.mem_singleton.mp h]
    simp only [isAsciiAlphabetic, decide_eq_true_eq] at hletter
    omega
  · rw [octal_eq] at h
    obtain ⟨value, hvalue, rfl⟩ := List.mem_map.mp h
    have := octalValues_lt hvalue
    rw [digitByte_val value (by omega)]
    omega
  · obtain ⟨source, -, hbyte⟩ := List.mem_flatMap.mp h
    simp only [List.mem_cons, List.not_mem_nil, or_false] at hbyte
    rcases hbyte with rfl | rfl <;> exact hexByte_printed _ (by omega)
  · rw [List.mem_singleton.mp h, digitByte_val _ (by omega)]
    omega

lemma IndexRecord.metadata_printed {byte : Byte} (h : byte ∈ [0x20].intercalate record.fields) :
    0x20 ≤ byte.val := by
  have hfields : byte = 0x20 ∨ ∃ field ∈ record.fields, byte ∈ field := by
    simp only [fields, List.intercalate_cons_cons, List.intercalate_singleton, List.mem_append,
      List.mem_singleton] at h
    simp only [fields, List.mem_cons, List.not_mem_nil, or_false, exists_eq_or_imp,
      exists_eq_left]
    tauto
  rcases hfields with rfl | ⟨field, hfield, hbyte⟩
  · decide
  · exact (fields_printed hfield hbyte).le

lemma IndexRecord.path_valid : record.path ≠ [] ∧ (0 : Byte) ∉ record.path := by
  have h := record.valid
  simp only [validateUnixRelativePath, except_seq_eq_ok, refuse_eq_ok, not_or] at h
  exact ⟨h.1.1, h.1.2.1⟩

lemma IndexRecord.line_whole : (0 : Byte) ∉ record.line := by
  intro h
  simp only [line, List.mem_append, List.mem_cons] at h
  rcases h with h | h | h
  · exact absurd (metadata_printed h) (by decide)
  · cases h
  · exact path_valid.2 h

lemma splitOnce_line :
    splitOnce record.line 0x09 = some ([0x20].intercalate record.fields, record.path) := by
  have hmetadata : ∀ byte ∈ [0x20].intercalate record.fields, decide (byte ≠ (0x09 : Byte)) = true := by
    intro byte hbyte
    apply decide_eq_true
    rintro rfl
    exact absurd (record.metadata_printed hbyte) (by decide)
  rw [splitOnce, IndexRecord.line, List.dropWhile_append_of_pos hmetadata,
    List.takeWhile_append_of_pos hmetadata]
  simp

lemma splitOn_fields : ([0x20].intercalate record.fields).splitOn 0x20 = record.fields := by
  apply List.splitOn_intercalate
  · intro field hfield hmem
    exact absurd (record.fields_printed hfield hmem) (by decide)
  · exact List.cons_ne_nil _ _

end Fields

lemma nulRecords_lsFiles (records : List IndexRecord) (step : GitInspectionStep) :
    nulRecords (lsFiles records) step = .ok (records.map IndexRecord.line) := by
  cases records with
  | nil => rfl
  | cons record records =>
      have hlines : ∀ records : List IndexRecord, records ≠ [] →
          lsFiles records = [0].intercalate (records.map IndexRecord.line) ++ [0] := by
        intro records hne
        induction records with
        | nil => exact absurd rfl hne
        | cons record records ih =>
            cases records with
            | nil => simp [lsFiles]
            | cons next records =>
                have hrest := ih (List.cons_ne_nil _ _)
                simp only [lsFiles, List.flatMap_cons, List.map_cons,
                  List.intercalate_cons_cons, List.append_assoc] at hrest ⊢
                rw [hrest]
      have heq := hlines (record :: records) (List.cons_ne_nil _ _)
      rw [nulRecords, if_neg (by rw [heq]; exact List.append_ne_nil_of_right_ne_nil _ (by decide)),
        if_neg (by rw [heq]; simp), heq, List.dropLast_concat, List.splitOn_intercalate]
      · rintro line hline
        obtain ⟨record, -, rfl⟩ := List.mem_map.mp hline
        exact record.line_whole
      · exact List.cons_ne_nil _ _

lemma unix_path (record : IndexRecord) (hlength : record.path.length ≤ maxOpaquePathBytes - 2) :
    OpaqueRepoPath.unix record.path = .ok ⟨1 :: 1 :: record.path⟩ := by
  simp only [maxOpaquePathBytes] at hlength
  have hvalid : OpaqueRepoPath.validate ⟨1 :: 1 :: record.path⟩ = .ok () := by
    show (if record.path = [] ∨ record.path.length + 1 + 1 > 4096 ∨ ((1 : Byte) ≠ 1) then _
      else if (1 : Byte) = 1 then validateUnixRelativePath record.path else _) = _
    rw [if_neg, if_pos rfl]
    · exact record.valid
    · rintro (h | h | h)
      · exact record.path_valid.1 h
      · omega
      · exact h rfl
  rw [OpaqueRepoPath.unix, hvalid]
  rfl

lemma decodeOid_hex (record : IndexRecord) :
    decodeOid (hex record.objectId) = some record.objectId := by
  rw [decodeOid, length_hex, if_pos (by have := record.sized; omega), decodePairs_hex]

lemma parse_record (record : IndexRecord) (hlength : record.path.length ≤ maxOpaquePathBytes - 2) :
    parseTrackedRecord ([0x20].intercalate record.fields) record.path = .ok record.entry := by
  have hmode : parseOctal (some (octal record.mode.toNat)) .trackedManifest = .ok record.mode := by
    rw [parseOctal, Option.getD_some, fromRadix_octal, Option.map_some, demand, UInt32.ofNat_toNat]
  have hstage : parseDecimal (some [digitByte record.stage]) .trackedManifest =
      .ok (Fin.ofNat 256 record.stage) := by
    rw [parseDecimal, Option.getD_some, fromRadix_stage]
    rfl
  have hsmall : ∀ stage : Fin 4, ¬Fin.ofNat 256 stage.val > 3 := by decide
  rw [parseTrackedRecord, splitOn_fields]
  simp only [IndexRecord.fields, List.getElem?_cons_zero, List.getElem?_cons_succ,
    List.getElem?_nil, Option.getD_some, decodeOid_hex, hmode, hstage, unix_path record hlength,
    except_bind_eq_ok, demand_eq_ok]
  refine ⟨record.tag, rfl, record.mode, rfl, record.objectId, rfl, _, rfl, (), ?_, _, rfl, rfl⟩
  apply refuse_eq_ok.mpr
  rintro (h | h)
  · cases h
  · exact hsmall record.stage h

lemma parse_records {limits : GitInspectorLimits} {records : List IndexRecord} {count total : ℕ}
    (hentries : count + records.length ≤ limits.maxTrackedEntries)
    (hpaths : ∀ record ∈ records, record.path.length ≤ maxOpaquePathBytes - 2)
    (htotal : total + (records.map fun record => record.path.length).sum ≤
      limits.maxTotalPathBytes) :
    parseTrackedRecords limits count total (records.map IndexRecord.line) =
      .ok (records.map IndexRecord.entry) := by
  induction records generalizing count total with
  | nil => rfl
  | cons record records ih =>
      simp only [List.mem_cons, forall_eq_or_imp] at hpaths
      simp only [List.length_cons, List.map_cons, List.sum_cons] at hentries htotal
      have hrest := @ih (count + 1) (total + record.path.length) (by omega) hpaths.2 (by omega)
      simp only [List.map_cons, parseTrackedRecords, splitOnce_line, except_bind_eq_ok, demand_eq_ok]
      refine ⟨(), refuse_eq_ok.mpr (by omega), _, rfl, (), refuse_eq_ok.mpr ?_, (),
        refuse_eq_ok.mpr (by dsimp only; omega), _, parse_record record hpaths.1, _, hrest, rfl⟩
      rintro (h | h)
      · exact record.path_valid.1 h
      · exact absurd hpaths.1 h.not_ge

section Order

variable {first second third : TrackedManifestEntry}

lemma entryLe_total (first second : TrackedManifestEntry) :
    entryLe first second ∨ entryLe second first := by
  rcases lt_trichotomy first.path.bytes second.path.bytes with h | h | h
  · exact .inl (.inl h)
  · rcases le_total first.stage second.stage with hstage | hstage
    · exact .inl (.inr ⟨h, hstage⟩)
    · exact .inr (.inr ⟨h.symm, hstage⟩)
  · exact .inr (.inl h)

lemma entryLe_trans (h : entryLe first second) (h' : entryLe second third) :
    entryLe first third := by
  rcases h with h | ⟨h, hstage⟩ <;> rcases h' with h' | ⟨h', hstage'⟩
  · exact .inl (h.trans h')
  · exact .inl (h' ▸ h)
  · exact .inl (h ▸ h')
  · exact .inr ⟨h.trans h', hstage.trans hstage'⟩

lemma entryLe_antisymm (h : entryLe first second) (h' : entryLe second first) :
    first.path.bytes = second.path.bytes ∧ first.stage = second.stage := by
  rcases h with h | ⟨h, hstage⟩ <;> rcases h' with h' | ⟨h', hstage'⟩
  · exact absurd h (lt_asymm h')
  · exact absurd h (by simp [h'])
  · exact absurd h' (by simp [h])
  · exact ⟨h, le_antisymm hstage hstage'⟩

instance : Std.Total entryLe :=
  ⟨entryLe_total⟩

instance : IsTrans TrackedManifestEntry entryLe :=
  ⟨fun _ _ _ => entryLe_trans⟩

lemma insertionSort_eq_of_perm {entries others : List TrackedManifestEntry}
    (hkeys : (entries.map fun entry => (entry.path.bytes, entry.stage)).Nodup)
    (hperm : entries.Perm others) : entries.insertionSort entryLe = others.insertionSort entryLe := by
  have hsorted : (entries.insertionSort entryLe).Perm (others.insertionSort entryLe) :=
    ((List.perm_insertionSort _ _).trans hperm).trans (List.perm_insertionSort _ _).symm
  apply List.Perm.eq_of_pairwise _ (List.pairwise_insertionSort _ _)
    (List.pairwise_insertionSort _ _) hsorted
  intro entry other hentry hother hle hge
  obtain ⟨hpath, hstage⟩ := entryLe_antisymm hle hge
  have hmem : entry ∈ entries := (List.mem_insertionSort entryLe).mp hentry
  have hmem' : other ∈ entries :=
    hperm.mem_iff.mpr ((List.mem_insertionSort entryLe).mp hother)
  exact List.inj_on_of_nodup_map hkeys hmem hmem' (by simp only [hpath, hstage])

end Order

lemma parse_lsFiles {limits : GitInspectorLimits} {records : List IndexRecord}
    (h : WithinLimits limits records) : parseTrackedManifest (lsFiles records) limits =
      .ok ((records.map IndexRecord.entry).insertionSort entryLe) := by
  have hrecords := @parse_records limits records 0 0 (by simpa using h.entries) h.paths
    (by simpa using h.total)
  rw [parseTrackedManifest, nulRecords_lsFiles]
  simp only [except_bind_eq_ok]
  exact ⟨_, rfl, _, hrecords, rfl⟩

lemma WithinLimits.perm {limits : GitInspectorLimits} {records shuffled : List IndexRecord}
    (h : WithinLimits limits records) (hperm : shuffled.Perm records) :
    WithinLimits limits shuffled where
  entries := hperm.length_eq ▸ h.entries
  paths := fun record hrecord => h.paths record (hperm.mem_iff.mp hrecord)
  total := (hperm.map _).sum_nat ▸ h.total

def IndexRecord.key (record : IndexRecord) : List Byte × Fin 4 :=
  (record.path, record.stage)

lemma entry_keys {records : List IndexRecord} (h : (records.map IndexRecord.key).Nodup) :
    ((records.map IndexRecord.entry).map fun entry => (entry.path.bytes, entry.stage)).Nodup := by
  have hstages : ∀ stage stage' : Fin 4,
      Fin.ofNat 256 stage.val = Fin.ofNat 256 stage'.val → stage = stage' := by
    decide
  have hkeys := h.map (f := fun key : List Byte × Fin 4 =>
      (1 :: 1 :: key.1, (Fin.ofNat 256 key.2 : Byte))) (by
    rintro ⟨path, stage⟩ ⟨path', stage'⟩ heq
    simp only [Prod.mk.injEq, List.cons.injEq, true_and] at heq
    exact Prod.ext heq.1 (hstages stage stage' heq.2))
  rw [List.map_map] at hkeys ⊢
  exact hkeys

section Words

lemma delimits_littleEndian (width : ℕ) :
    Delimits (fun value => value < 256 ^ width) (littleEndian width) Eq :=
  delimits_digits width

lemma delimits_digestField : Delimits (fun bytes => bytes.length < 256 ^ 8) digestField Eq :=
  (delimits_littleEndian 8).prefixed

lemma kindCode_injective : ∀ kind kind', kindCode kind = kindCode kind' → kind = kind' := by
  intro kind kind' h
  cases kind <;> cases kind' <;> first | rfl | exact absurd h (by decide)

lemma hazardCode_injective : Function.Injective hazardCode := by
  intro hazard hazard' h
  cases hazard <;> cases hazard' <;> first | rfl | exact absurd h (by decide)

lemma flagByte_injective : ∀ flag flag', flagByte flag = flagByte flag' → flag = flag' := by
  decide

-- a hazard is written as one of six numbers, and none twice
lemma AttributeHazards.few (hazards : AttributeHazards) : hazards.hazards.length ≤ 256 := by
  have hnodup : (hazards.hazards.map hazardCode).Nodup := hazards.ordered.imp fun h => h.ne
  calc hazards.hazards.length = (hazards.hazards.map hazardCode).length := by simp
    _ ≤ Fintype.card Byte := hnodup.length_le_card
    _ = 256 := Fintype.card_fin 256

lemma delimits_hazards : Delimits (fun _ => True)
    (fun hazards : AttributeHazards => littleEndian 8 hazards.hazards.length ++
      hazards.hazards.flatMap fun hazard => [hazardCode hazard]) Eq := by
  have hcode : Delimits (fun _ => True) (fun hazard => [hazardCode hazard]) Eq :=
    .sized (n := 1) (fun _ _ => rfl) fun _ _ _ _ h => hazardCode_injective (List.singleton_inj.mp h)
  have h := ((delimits_littleEndian 8).counted hcode).part AttributeHazards.hazards
  apply h.imp
  · intro hazards _
    have hfew := hazards.few
    exact ⟨by omega, fun _ _ => trivial⟩
  · rintro ⟨hazards, _⟩ ⟨hazards', _⟩ - - hlike
    obtain rfl := List.forall₂_eq_eq_eq ▸ hlike
    rfl

structure EntryFits (entry : TrackedManifestEntry) : Prop where
  path : entry.path.bytes.length < 2 ^ 64
  objectId : entry.objectId.length < 2 ^ 64

lemma delimits_digestEntry : Delimits EntryFits digestEntry Eq := by
  have hstage : Delimits (fun _ => True) (fun stage : Byte => [stage]) Eq :=
    .sized (n := 1) (fun _ _ => rfl) fun _ _ _ _ h => List.singleton_inj.mp h
  have hcodes : Delimits (fun _ => True) (fun entry : TrackedManifestEntry =>
      [flagByte entry.assumeUnchanged, flagByte entry.skipWorktree, kindCode entry.kind])
      fun entry other => entry.assumeUnchanged = other.assumeUnchanged ∧
        entry.skipWorktree = other.skipWorktree ∧ entry.kind = other.kind := by
    apply Delimits.sized (n := 3) (fun _ _ => rfl)
    intro entry other _ _ h
    simp only [List.cons.injEq, and_true] at h
    exact ⟨flagByte_injective _ _ h.1, flagByte_injective _ _ h.2.1, kindCode_injective _ _ h.2.2⟩
  have h := (delimits_digestField.part fun entry : TrackedManifestEntry => entry.path.bytes).append
    ((delimits_littleEndian 4).part fun entry => entry.mode.toNat) |>.append
    (hstage.part TrackedManifestEntry.stage) |>.append
    (delimits_digestField.part TrackedManifestEntry.objectId) |>.append hcodes |>.append
    (delimits_hazards.part TrackedManifestEntry.attributeHazards)
  apply h.imp
  · intro entry hfits
    have hmode := entry.mode.toNat_lt
    exact ⟨⟨⟨⟨⟨hfits.path, hmode⟩, trivial⟩, hfits.objectId⟩, trivial⟩, trivial⟩
  · rintro ⟨⟨path⟩, mode, stage, objectId, assumed, skipped, kind, hazards⟩
      ⟨⟨path'⟩, mode', stage', objectId', assumed', skipped', kind', hazards'⟩ - -
    rintro ⟨⟨⟨⟨⟨rfl, hmode⟩, rfl⟩, rfl⟩, rfl, rfl, rfl⟩, rfl⟩
    obtain rfl := UInt32.toNat_inj.mp hmode
    rfl

-- the lengths are those of a `Vec`, which are numbers of 64 bits
structure Sized (entries : List TrackedManifestEntry) : Prop where
  length : entries.length < 2 ^ 64
  entries : ∀ entry ∈ entries, EntryFits entry

lemma manifestBytes_injective {entries others : List TrackedManifestEntry} (h : Sized entries)
    (h' : Sized others) (heq : manifestBytes entries = manifestBytes others) : entries = others := by
  have hrows := List.append_cancel_left heq
  have hlike := ((delimits_littleEndian 8).counted delimits_digestEntry).like
    ⟨h.length, h.entries⟩ ⟨h'.length, h'.entries⟩ hrows
  exact List.forall₂_eq_eq_eq ▸ hlike

end Words

theorem tracked_manifest_faithful {limits : GitInspectorLimits} {records : List IndexRecord}
    (h : WithinLimits limits records) {entries others : List TrackedManifestEntry}
    (hentries : Sized entries) (hothers : Sized others) :
    (∃ tracked, parseTrackedManifest (lsFiles records) limits = .ok tracked ∧
      tracked.Perm (records.map IndexRecord.entry) ∧ tracked.Pairwise entryLe ∧
      ∀ shuffled : List IndexRecord, shuffled.Perm records →
        (records.map IndexRecord.key).Nodup →
        parseTrackedManifest (lsFiles shuffled) limits = .ok tracked) ∧
      (manifestBytes entries = manifestBytes others → entries = others) := by
  refine ⟨⟨_, parse_lsFiles h, List.perm_insertionSort _ _, List.pairwise_insertionSort _ _, ?_⟩,
    manifestBytes_injective hentries hothers⟩
  intro shuffled hperm hkeys
  have hkeys' := (hperm.map IndexRecord.key).nodup_iff.mpr hkeys
  rw [parse_lsFiles (h.perm hperm),
    insertionSort_eq_of_perm (entry_keys hkeys') (hperm.map IndexRecord.entry)]

def demoIndexRecord : IndexRecord where
  tag := 0x48
  mode := 0o100644
  objectId := List.replicate 20 0xab
  stage := 0
  path := [0x61, 0x09, 0x20, 0x0a, 0x62]
  letter := by decide
  sized := by decide
  valid := by decide +kernel

theorem tabbed_path_faithful :
    ∃ tracked, parseTrackedManifest (lsFiles [demoIndexRecord]) ⟨20000, 16777216⟩ = .ok tracked ∧
      tracked.Perm [demoIndexRecord.entry] := by
  have hsized : Sized [demoIndexRecord.entry] := by
    refine ⟨by decide, fun entry hentry => ?_⟩
    rw [List.mem_singleton.mp hentry]
    exact ⟨by decide, by decide⟩
  obtain ⟨⟨tracked, hparse, hperm, -⟩, -⟩ := @tracked_manifest_faithful ⟨20000, 16777216⟩
    [demoIndexRecord] ⟨by decide, by decide, by decide⟩ _ _ hsized hsized
  exact ⟨tracked, hparse, hperm⟩

end DevCommandCenter.GuardedUndo
