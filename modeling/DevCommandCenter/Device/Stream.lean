import DevCommandCenter.Library.Framing
import DevCommandCenter.Library.Utf8

/-! The stream of a device helper: a length of four bytes, a tag and a payload, read in pieces as they
arrive. `fromSlice` is the JSON parser. -/

namespace DevCommandCenter.Device

open Library

def maxChunk : ℕ := 64 * 1024 * 1024

inductive Chunk (V : Type)
  | description (data : List Octet)
  | frame (keyframe : Bool) (data : List Octet)
  | reply (value : V)
  | status (value : V)
  deriving DecidableEq

def fromBeBytes (b₀ b₁ b₂ b₃ : Octet) : ℕ :=
  ((b₀.val * 256 + b₁.val) * 256 + b₂.val) * 256 + b₃.val

def toBeBytes (n : ℕ) : List Octet :=
  [Fin.ofNat 256 (n / 256 ^ 3), Fin.ofNat 256 (n / 256 ^ 2), Fin.ofNat 256 (n / 256), Fin.ofNat 256 n]

section Reader

variable {V : Type} (fromSlice : List Octet → Option V)

def readChunk (tag : Octet) (payload : List Octet) : Option (Chunk V) :=
  if tag = 0x01 then some (.description payload)
  else if tag = 0x02 ∨ tag = 0x03 then some (.frame (tag = 0x02) payload)
  else if tag = 0x05 then (fromSlice payload).map .reply
  else if tag = 0x06 then (fromSlice payload).map .status
  else none

def nextChunk : List Octet → Front Octet (Option (Chunk V)) String
  | b₀ :: b₁ :: b₂ :: b₃ :: body =>
      let length := fromBeBytes b₀ b₁ b₂ b₃
      if length = 0 ∨ maxChunk < length then .refused s!"bad chunk length {length}"
      else
        match body with
        | [] => .incomplete
        | tag :: after =>
            if after.length + 1 < length then .incomplete
            else .record (readChunk fromSlice tag (after.take (length - 1))) (after.drop (length - 1))
  | _ => .incomplete

variable {fromSlice}

lemma nextChunk_cons {b₀ b₁ b₂ b₃ tag : Octet} {after : List Octet}
    (hlow : 1 ≤ fromBeBytes b₀ b₁ b₂ b₃) (hhigh : fromBeBytes b₀ b₁ b₂ b₃ ≤ maxChunk)
    (hthere : fromBeBytes b₀ b₁ b₂ b₃ ≤ after.length + 1) :
    nextChunk fromSlice (b₀ :: b₁ :: b₂ :: b₃ :: tag :: after) =
      .record (readChunk fromSlice tag (after.take (fromBeBytes b₀ b₁ b₂ b₃ - 1)))
        (after.drop (fromBeBytes b₀ b₁ b₂ b₃ - 1)) := by
  simp only [nextChunk]
  rw [if_neg (by omega), if_neg (by omega)]

lemma nextChunk_bad {b₀ b₁ b₂ b₃ : Octet} {body : List Octet}
    (h : fromBeBytes b₀ b₁ b₂ b₃ = 0 ∨ maxChunk < fromBeBytes b₀ b₁ b₂ b₃) :
    nextChunk fromSlice (b₀ :: b₁ :: b₂ :: b₃ :: body) =
      .refused s!"bad chunk length {fromBeBytes b₀ b₁ b₂ b₃}" := by
  simp only [nextChunk]
  rw [if_pos h]

lemma nextChunk_cases (buffer : List Octet) :
    nextChunk fromSlice buffer = .incomplete ∨
    (∃ b₀ b₁ b₂ b₃ body, buffer = b₀ :: b₁ :: b₂ :: b₃ :: body ∧
      (fromBeBytes b₀ b₁ b₂ b₃ = 0 ∨ maxChunk < fromBeBytes b₀ b₁ b₂ b₃)) ∨
    ∃ b₀ b₁ b₂ b₃ tag after, buffer = b₀ :: b₁ :: b₂ :: b₃ :: tag :: after ∧
      1 ≤ fromBeBytes b₀ b₁ b₂ b₃ ∧ fromBeBytes b₀ b₁ b₂ b₃ ≤ maxChunk ∧
      fromBeBytes b₀ b₁ b₂ b₃ ≤ after.length + 1 := by
  rcases buffer with _ | ⟨b₀, _ | ⟨b₁, _ | ⟨b₂, _ | ⟨b₃, body⟩⟩⟩⟩
  · exact .inl rfl
  · exact .inl rfl
  · exact .inl rfl
  · exact .inl rfl
  · by_cases hbad : fromBeBytes b₀ b₁ b₂ b₃ = 0 ∨ maxChunk < fromBeBytes b₀ b₁ b₂ b₃
    · exact .inr (.inl ⟨b₀, b₁, b₂, b₃, body, rfl, hbad⟩)
    · cases body with
      | nil =>
          refine .inl ?_
          simp only [nextChunk]
          rw [if_neg hbad]
      | cons tag after =>
          by_cases hshort : after.length + 1 < fromBeBytes b₀ b₁ b₂ b₃
          · refine .inl ?_
            simp only [nextChunk]
            rw [if_neg hbad, if_pos hshort]
          · exact .inr (.inr ⟨b₀, b₁, b₂, b₃, tag, after, rfl, by omega, by omega, by omega⟩)

lemma nextChunk_record {buffer rest : List Octet} {value : Option (Chunk V)}
    (h : nextChunk fromSlice buffer = .record value rest) :
    ∃ b₀ b₁ b₂ b₃ tag after, buffer = b₀ :: b₁ :: b₂ :: b₃ :: tag :: after ∧
      1 ≤ fromBeBytes b₀ b₁ b₂ b₃ ∧ fromBeBytes b₀ b₁ b₂ b₃ ≤ maxChunk ∧
      fromBeBytes b₀ b₁ b₂ b₃ ≤ after.length + 1 ∧
      value = readChunk fromSlice tag (after.take (fromBeBytes b₀ b₁ b₂ b₃ - 1)) ∧
      rest = after.drop (fromBeBytes b₀ b₁ b₂ b₃ - 1) := by
  rcases @nextChunk_cases V fromSlice buffer with hshort | ⟨b₀, b₁, b₂, b₃, body, rfl, hbad⟩ |
    ⟨b₀, b₁, b₂, b₃, tag, after, rfl, hlow, hhigh, hthere⟩
  · cases hshort.symm.trans h
  · cases (nextChunk_bad hbad).symm.trans h
  · cases (nextChunk_cons hlow hhigh hthere).symm.trans h
    exact ⟨b₀, b₁, b₂, b₃, tag, after, rfl, hlow, hhigh, hthere, rfl, rfl⟩

lemma nextChunk_refused {buffer : List Octet} {error : String}
    (h : nextChunk fromSlice buffer = .refused error) :
    ∃ b₀ b₁ b₂ b₃ body, buffer = b₀ :: b₁ :: b₂ :: b₃ :: body ∧
      (fromBeBytes b₀ b₁ b₂ b₃ = 0 ∨ maxChunk < fromBeBytes b₀ b₁ b₂ b₃) := by
  rcases @nextChunk_cases V fromSlice buffer with hshort | hbad |
    ⟨b₀, b₁, b₂, b₃, tag, after, rfl, hlow, hhigh, hthere⟩
  · cases hshort.symm.trans h
  · exact hbad
  · cases (nextChunk_cons hlow hhigh hthere).symm.trans h

variable (fromSlice)

def chunkFraming : Framing Octet (Option (Chunk V)) String where
  front := nextChunk fromSlice
  shorter h := by
    obtain ⟨b₀, b₁, b₂, b₃, tag, after, rfl, -, -, -, -, rfl⟩ := nextChunk_record h
    simp only [List.length_drop, List.length_cons]
    omega
  record_append h more := by
    obtain ⟨b₀, b₁, b₂, b₃, tag, after, rfl, hlow, hhigh, hthere, rfl, rfl⟩ := nextChunk_record h
    have hmore : fromBeBytes b₀ b₁ b₂ b₃ ≤ (after ++ more).length + 1 := by
      rw [List.length_append]
      omega
    simp only [List.cons_append]
    rw [nextChunk_cons hlow hhigh hmore, List.take_append_of_le_length (by omega),
      List.drop_append_of_le_length (by omega)]
  refused_append h more := by
    obtain ⟨b₀, b₁, b₂, b₃, body, rfl, hbad⟩ := nextChunk_refused h
    rw [nextChunk_bad hbad] at h
    cases h
    exact nextChunk_bad hbad

structure Reader where
  pending : List Octet
  deriving DecidableEq

namespace Reader

def default : Reader where
  pending := []

def push (reader : Reader) (bytes : List Octet) : Except String (List (Chunk V)) × Reader :=
  let fed := (chunkFraming fromSlice).feed reader.pending bytes
  (fed.1.map fun chunks => chunks.filterMap id, ⟨fed.2⟩)

def pushEach (reader : Reader) : List (List Octet) → List (Except String (List (Chunk V))) × Reader
  | [] => ([], reader)
  | piece :: pieces =>
      let pushed := reader.push fromSlice piece
      let later := pushEach pushed.2 pieces
      (pushed.1 :: later.1, later.2)

lemma pushEach_eq (reader : Reader) (pieces : List (List Octet)) :
    reader.pushEach fromSlice pieces =
      (((chunkFraming fromSlice).feedEach reader.pending pieces).1.map fun fed =>
          fed.map fun chunks => chunks.filterMap id,
        ⟨((chunkFraming fromSlice).feedEach reader.pending pieces).2⟩) := by
  induction pieces generalizing reader with
  | nil => rfl
  | cons piece pieces ih =>
      rw [pushEach, Framing.feedEach]
      dsimp only
      rw [ih]
      rfl

end Reader

end Reader

structure WireChunk where
  tag : Octet
  payload : List Octet
  fits : payload.length + 1 ≤ maxChunk

namespace WireChunk

def bytes (chunk : WireChunk) : List Octet :=
  toBeBytes (chunk.payload.length + 1) ++ chunk.tag :: chunk.payload

def read {V : Type} (fromSlice : List Octet → Option V) (chunk : WireChunk) : Option (Chunk V) :=
  readChunk fromSlice chunk.tag chunk.payload

end WireChunk

def stream (chunks : List WireChunk) : List Octet :=
  chunks.flatMap WireChunk.bytes

/-- A chunk that has not arrived yet as far as its length says, if as far as that. -/
def Unfinished : List Octet → Prop
  | b₀ :: b₁ :: b₂ :: b₃ :: body =>
      1 ≤ fromBeBytes b₀ b₁ b₂ b₃ ∧ fromBeBytes b₀ b₁ b₂ b₃ ≤ maxChunk ∧
        body.length < fromBeBytes b₀ b₁ b₂ b₃
  | _ => True

section Streams

variable {V : Type} {fromSlice : List Octet → Option V} {chunk : WireChunk} {chunks : List WireChunk}
  {bytes : List Octet} {pieces : List (List Octet)} {n : ℕ}

lemma toBeBytes_eq (h : n ≤ maxChunk) : ∃ b₀ b₁ b₂ b₃, toBeBytes n = [b₀, b₁, b₂, b₃] ∧
    fromBeBytes b₀ b₁ b₂ b₃ = n := by
  refine ⟨_, _, _, _, rfl, ?_⟩
  simp only [fromBeBytes, Fin.val_ofNat]
  rw [maxChunk] at h
  omega

lemma nextChunk_bytes (chunk : WireChunk) (more : List Octet) :
    nextChunk fromSlice (chunk.bytes ++ more) = .record (chunk.read fromSlice) more := by
  obtain ⟨b₀, b₁, b₂, b₃, hbytes, hlength⟩ := toBeBytes_eq chunk.fits
  have hlow : 1 ≤ fromBeBytes b₀ b₁ b₂ b₃ := by omega
  have hhigh : fromBeBytes b₀ b₁ b₂ b₃ ≤ maxChunk := hlength ▸ chunk.fits
  have hthere : fromBeBytes b₀ b₁ b₂ b₃ ≤ (chunk.payload ++ more).length + 1 := by
    rw [List.length_append]
    omega
  rw [WireChunk.bytes, hbytes]
  simp only [List.cons_append, List.nil_append]
  rw [nextChunk_cons hlow hhigh hthere, hlength, Nat.add_sub_cancel, List.take_left, List.drop_left]
  rfl

lemma nextChunk_unfinished (h : Unfinished bytes) : nextChunk fromSlice bytes = .incomplete := by
  rcases @nextChunk_cases V fromSlice bytes with hshort | ⟨b₀, b₁, b₂, b₃, body, rfl, hbad⟩ |
    ⟨b₀, b₁, b₂, b₃, tag, after, rfl, -, -, hthere⟩
  · exact hshort
  · obtain ⟨hlow, hhigh, -⟩ := h
    omega
  · obtain ⟨-, -, hlength⟩ := h
    rw [List.length_cons] at hlength
    omega

lemma unfinished_of_front (hstarts : bytes <+: chunk.bytes) (hne : bytes ≠ chunk.bytes) :
    Unfinished bytes := by
  obtain ⟨c₀, c₁, c₂, c₃, hbytes, hlength⟩ := toBeBytes_eq chunk.fits
  have hshorter : bytes.length < chunk.bytes.length := by
    refine lt_of_le_of_ne hstarts.length_le fun heq => hne ?_
    exact hstarts.eq_of_length heq
  rw [WireChunk.bytes, hbytes] at hstarts hshorter
  rcases bytes with _ | ⟨b₀, _ | ⟨b₁, _ | ⟨b₂, _ | ⟨b₃, body⟩⟩⟩⟩
  · trivial
  · trivial
  · trivial
  · trivial
  · simp only [List.cons_append, List.nil_append, List.cons_prefix_cons] at hstarts
    obtain ⟨rfl, rfl, rfl, rfl, -⟩ := hstarts
    have hfits := chunk.fits
    simp only [List.cons_append, List.nil_append, List.length_cons] at hshorter
    refine ⟨?_, ?_, ?_⟩
    · omega
    · omega
    · omega

lemma drain_stream (chunks : List WireChunk) (more : List Octet) :
    (chunkFraming fromSlice).drain (stream chunks ++ more) =
      ((chunkFraming fromSlice).drain more).map fun drained =>
        (chunks.map (WireChunk.read fromSlice) ++ drained.1, drained.2) := by
  induction chunks with
  | nil =>
      rw [stream, List.flatMap_nil, List.nil_append]
      cases (chunkFraming fromSlice).drain more <;> rfl
  | cons chunk chunks ih =>
      have hfront : (chunkFraming fromSlice).front (chunk.bytes ++ (stream chunks ++ more)) =
          .record (chunk.read fromSlice) (stream chunks ++ more) := nextChunk_bytes chunk _
      have hsplit : stream (chunk :: chunks) = chunk.bytes ++ stream chunks := List.flatMap_cons
      rw [hsplit, List.append_assoc, Framing.drain_record hfront, ih]
      cases (chunkFraming fromSlice).drain more <;> rfl

end Streams

/-- However a stream is cut, its pushes give the chunks with a known tag and keep what has not arrived;
and one of them refuses a stream with a length that no chunk has. -/
theorem pushes_cut_anywhere {V : Type} (fromSlice : List Octet → Option V) (chunks : List WireChunk)
    (pieces : List (List Octet)) :
    (∀ unfinished, Unfinished unfinished → pieces.flatten = stream chunks ++ unfinished →
      (∃ batches : List (List (Chunk V)),
        Reader.default.pushEach fromSlice pieces = (batches.map .ok, ⟨unfinished⟩) ∧
        batches.flatten = chunks.filterMap (WireChunk.read fromSlice)) ∧
      Reader.default.push fromSlice pieces.flatten =
        (.ok (chunks.filterMap (WireChunk.read fromSlice)), ⟨unfinished⟩)) ∧
    ∀ b₀ b₁ b₂ b₃ more, fromBeBytes b₀ b₁ b₂ b₃ = 0 ∨ maxChunk < fromBeBytes b₀ b₁ b₂ b₃ →
      pieces.flatten = stream chunks ++ b₀ :: b₁ :: b₂ :: b₃ :: more →
      ∃ error, .error error ∈ (Reader.default.pushEach fromSlice pieces).1 := by
  have hempty : (chunkFraming fromSlice).front [] = .incomplete := rfl
  constructor
  · intro unfinished hunfinished hcut
    have hleft : (chunkFraming fromSlice).drain unfinished = .ok ([], unfinished) :=
      Framing.drain_incomplete (nextChunk_unfinished hunfinished)
    have hwhole : (chunkFraming fromSlice).drain ([] ++ pieces.flatten) =
        .ok (chunks.map (WireChunk.read fromSlice), unfinished) := by
      rw [List.nil_append, hcut, drain_stream, hleft, Except.map, List.append_nil]
    have hknown : (chunks.map (WireChunk.read fromSlice)).filterMap id =
        chunks.filterMap (WireChunk.read fromSlice) := List.filterMap_map
    constructor
    · obtain ⟨batches, heach, hbatches⟩ := Framing.feedEach_ok hempty hwhole
      refine ⟨batches.map fun chunks => chunks.filterMap id, ?_, ?_⟩
      · rw [Reader.pushEach_eq, Reader.default, heach, List.map_map, List.map_map]
        rfl
      · rw [← hknown, ← hbatches, List.filterMap_flatten]
    · rw [Reader.push, Reader.default, Framing.feed_ok hwhole, ← hknown]
      rfl
  · intro b₀ b₁ b₂ b₃ more hbad hcut
    have hrefused : (chunkFraming fromSlice).front (b₀ :: b₁ :: b₂ :: b₃ :: more) =
        .refused s!"bad chunk length {fromBeBytes b₀ b₁ b₂ b₃}" := nextChunk_bad hbad
    have hwhole : (chunkFraming fromSlice).drain ([] ++ pieces.flatten) =
        .error s!"bad chunk length {fromBeBytes b₀ b₁ b₂ b₃}" := by
      rw [List.nil_append, hcut, drain_stream, Framing.drain_refused hrefused]
      rfl
    have hrefusal := Framing.feedEach_error hempty hwhole
    rw [Reader.pushEach_eq]
    exact ⟨_, List.mem_map.mpr ⟨_, hrefusal, rfl⟩⟩

section Cuts

def demoDescription : WireChunk where
  tag := 0x01
  payload := [1, 2]
  fits := by decide

def demoSeed : WireChunk where
  tag := 0x04
  payload := [7]
  fits := by decide

def demoPieces : List (List Octet) :=
  [[0, 0], [0, 3, 1, 1], [], [2, 0, 0, 0, 2], [4, 7, 0, 0, 0], [3, 1]]

theorem description_cut : ∃ batches : List (List (Chunk String)),
    Reader.default.pushEach (fun _ => none) demoPieces = (batches.map .ok, ⟨[0, 0, 0, 3, 1]⟩) ∧
      batches.flatten = [.description [1, 2]] := by
  have hunfinished : Unfinished [0, 0, 0, 3, 1] :=
    @unfinished_of_front demoDescription _ (by decide) (by decide)
  have hcut := pushes_cut_anywhere (fun _ => (none : Option String)) [demoDescription, demoSeed] demoPieces
  exact (hcut.1 _ hunfinished (by decide)).1

end Cuts

end DevCommandCenter.Device
