import DevCommandCenter.GuardedUndo.Manifest
import DevCommandCenter.Library.PrefixCode

/-! The tracked files as `git ls-files --stage -v -z` reports them, and the bytes whose digest tells
one report from another. -/

namespace DevCommandCenter.GuardedUndo

open Library

structure GitInspectorLimits where
  maxTrackedEntries : ℕ
  maxTotalPathBytes : ℕ
  deriving DecidableEq

inductive GitInspectionStep
  | trackedManifest
  | untrackedPaths
  | attributes
  deriving DecidableEq

inductive GitInspectorError
  | manifestLimit
  | invalidOutput (step : GitInspectionStep)
  deriving DecidableEq

inductive TrackedPathKind
  | regular
  | symlink
  | submodule
  | sparseDirectory
  | unmerged
  | unsupportedMode
  deriving DecidableEq

inductive AttributeHazard
  | filter
  | workingTreeEncoding
  | ident
  | text
  | eol
  | crlf
  deriving DecidableEq

def kindCode : TrackedPathKind → Byte
  | .regular => 1
  | .symlink => 2
  | .submodule => 3
  | .sparseDirectory => 4
  | .unmerged => 5
  | .unsupportedMode => 6

def hazardCode : AttributeHazard → Byte
  | .filter => 1
  | .workingTreeEncoding => 2
  | .ident => 3
  | .text => 4
  | .eol => 5
  | .crlf => 6

-- a `BTreeSet`, in the order of declaration
structure AttributeHazards where
  hazards : List AttributeHazard
  ordered : (hazards.map hazardCode).Pairwise (· < ·)
  deriving DecidableEq

lemma ordered_noHazards : (([] : List AttributeHazard).map hazardCode).Pairwise (· < ·) := .nil

structure TrackedManifestEntry where
  path : OpaqueRepoPath
  mode : UInt32
  stage : Byte
  objectId : List Byte
  assumeUnchanged : Bool
  skipWorktree : Bool
  kind : TrackedPathKind
  attributeHazards : AttributeHazards
  deriving DecidableEq

section Parsing

def nulRecords (output : List Byte) (step : GitInspectionStep) :
    Except GitInspectorError (List (List Byte)) :=
  if output = [] then .ok []
  else if output.getLast? ≠ some 0 then .error (.invalidOutput step)
  else .ok (output.dropLast.splitOn 0)

def splitOnce (bytes : List Byte) (delimiter : Byte) : Option (List Byte × List Byte) :=
  match bytes.dropWhile (· ≠ delimiter) with
  | _ :: after => some (bytes.takeWhile (· ≠ delimiter), after)
  | [] => none

def digitValue (radix : ℕ) (byte : Byte) : Option ℕ :=
  if 0x30 ≤ byte.val ∧ byte.val < 0x30 + radix then some (byte.val - 0x30) else none

-- `from_str_radix` for a radix up to ten; what is no UTF-8 has a byte that is no digit, and the
-- number of the digits read so far never falls, so that it is enough to bound the whole
def fromRadix (radix bound : ℕ) (text : List Byte) : Option ℕ := do
  let unsigned := if text.head? = some 0x2b then text.tail else text
  let values ← if unsigned = [] then none else unsigned.mapM (digitValue radix)
  let number := values.foldl (fun number value => number * radix + value) 0
  if number < bound then some number else none

def parseOctal (value : Option (List Byte)) (step : GitInspectionStep) :
    Except GitInspectorError UInt32 :=
  demand ((fromRadix 8 (2 ^ 32) (value.getD [])).map UInt32.ofNat) (.invalidOutput step)

def parseDecimal (value : Option (List Byte)) (step : GitInspectionStep) :
    Except GitInspectorError Byte :=
  demand ((fromRadix 10 256 (value.getD [])).map (Fin.ofNat 256)) (.invalidOutput step)

def decodeHex (byte : Byte) : Option ℕ :=
  if 0x30 ≤ byte.val ∧ byte.val ≤ 0x39 then some (byte.val - 0x30)
  else if 0x61 ≤ byte.val ∧ byte.val ≤ 0x66 then some (byte.val - 0x61 + 10)
  else if 0x41 ≤ byte.val ∧ byte.val ≤ 0x46 then some (byte.val - 0x41 + 10)
  else none

-- `chunks_exact(2)`
def decodePairs : List Byte → Option (List Byte)
  | first :: second :: rest => do
      let high ← decodeHex first
      let low ← decodeHex second
      let decoded ← decodePairs rest
      return Fin.ofNat 256 (16 * high + low) :: decoded
  | _ => some []

def decodeOid (hex : List Byte) : Option (List Byte) :=
  if hex.length = 40 ∨ hex.length = 64 then decodePairs hex else none

def OpaqueRepoPath.unix (path : List Byte) : Except GuardedUndoSchemaError OpaqueRepoPath := do
  let value : OpaqueRepoPath := ⟨1 :: 1 :: path⟩
  value.validate
  return value

def classifyEntry (mode : UInt32) (stage : Byte) : TrackedPathKind :=
  if stage ≠ 0 then .unmerged
  else if mode = 0o100644 ∨ mode = 0o100755 then .regular
  else if mode = 0o120000 then .symlink
  else if mode = 0o160000 then .submodule
  else if mode = 0o040000 then .sparseDirectory
  else .unsupportedMode

def isAsciiLowercase (byte : Byte) : Bool :=
  decide (0x61 ≤ byte.val ∧ byte.val ≤ 0x7a)

def parseTrackedRecord (metadata path : List Byte) : Except GitInspectorError TrackedManifestEntry := do
  let invalid := GitInspectorError.invalidOutput .trackedManifest
  let fields := metadata.splitOn 0x20
  let tag ← match fields[0]? with
    | some [tag] => .ok tag
    | _ => .error invalid
  let mode ← parseOctal fields[1]? .trackedManifest
  let objectId ← demand (decodeOid (fields[2]?.getD [])) invalid
  let stage ← parseDecimal fields[3]? .trackedManifest
  refuse (fields[4]?.isSome = true ∨ stage > 3) invalid
  let path ← (OpaqueRepoPath.unix path).mapError fun _ => invalid
  return {
    path := path
    mode := mode
    stage := stage
    objectId := objectId
    assumeUnchanged := isAsciiLowercase tag
    skipWorktree := decide (tag = 0x53 ∨ tag = 0x73)
    kind := classifyEntry mode stage
    attributeHazards := ⟨[], ordered_noHazards⟩ }

-- `count` entries with `total` bytes of paths are read already; `checked_add` fails only above
-- every limit
def parseTrackedRecords (limits : GitInspectorLimits) (count total : ℕ) :
    List (List Byte) → Except GitInspectorError (List TrackedManifestEntry)
  | [] => .ok []
  | record :: rest => do
      refuse (count ≥ limits.maxTrackedEntries) .manifestLimit
      let (metadata, path) ← demand (splitOnce record 0x09) (.invalidOutput .trackedManifest)
      refuse (path = [] ∨ path.length > maxOpaquePathBytes - 2) .manifestLimit
      refuse (total + path.length > limits.maxTotalPathBytes) .manifestLimit
      let entry ← parseTrackedRecord metadata path
      let entries ← parseTrackedRecords limits (count + 1) (total + path.length) rest
      return entry :: entries

def entryLe (left right : TrackedManifestEntry) : Prop :=
  left.path.bytes < right.path.bytes ∨
    (left.path.bytes = right.path.bytes ∧ left.stage ≤ right.stage)

instance (left right : TrackedManifestEntry) : Decidable (entryLe left right) :=
  inferInstanceAs (Decidable (_ ∨ _))

def parseTrackedManifest (output : List Byte) (limits : GitInspectorLimits) :
    Except GitInspectorError (List TrackedManifestEntry) := do
  let records ← nulRecords output .trackedManifest
  let entries ← parseTrackedRecords limits 0 0 records
  return entries.insertionSort entryLe

end Parsing

section Digest

def littleEndian (width value : ℕ) : List Byte :=
  digits 256 width value

def digestField (bytes : List Byte) : List Byte :=
  littleEndian 8 bytes.length ++ bytes

def flagByte (flag : Bool) : Byte :=
  if flag then 1 else 0

def digestEntry (entry : TrackedManifestEntry) : List Byte :=
  digestField entry.path.bytes ++ littleEndian 4 entry.mode.toNat ++ [entry.stage] ++
    digestField entry.objectId ++
    [flagByte entry.assumeUnchanged, flagByte entry.skipWorktree, kindCode entry.kind] ++
    (littleEndian 8 entry.attributeHazards.hazards.length ++
      entry.attributeHazards.hazards.flatMap fun hazard => [hazardCode hazard])

def manifestBytes (entries : List TrackedManifestEntry) : List Byte :=
  textBytes "DCC_GU_TRACKED_MANIFEST\x00\x01" ++
    (littleEndian 8 entries.length ++ entries.flatMap digestEntry)

def manifestDigest (sha256 : List Byte → Sha256Digest) (entries : List TrackedManifestEntry) :
    Sha256Digest :=
  sha256 (manifestBytes entries)

end Digest

end DevCommandCenter.GuardedUndo
