import Mathlib.Data.List.TakeWhile
import DevCommandCenter.MergeConflict.Hunks

/-! The hunks of a file are where its conflict blocks are, and what is between them stays as it is. -/

namespace DevCommandCenter.MergeConflict

open Library

structure Block where
  startMarker : List Char
  current : List Char
  base : Option (List Char × List Char)
  separator : List Char
  incoming : List Char
  endMarker : List Char

def Block.baseText (block : Block) : List Char :=
  block.base.elim [] fun base => base.1 ++ base.2

def Block.text (block : Block) : List Char :=
  block.startMarker ++ (block.current ++ (block.baseText ++ (block.separator ++ (block.incoming ++ block.endMarker))))

def MarkerLine (isMark : List Char → Bool) (text : List Char) : Prop :=
  ∃ body ending, text = body ++ ending ∧ isMark body = true ∧ (∀ c ∈ body, isLineBreak c = false) ∧
    ending ∈ [[], ['\n'], ['\r'], ['\r', '\n']]

structure Block.At (block : Block) (source : List Char) (hunk : ConflictHunk) : Prop where
  span : slice Char.utf8Size hunk.startOffset hunk.endOffset source = some block.text
  currentText : hunk.currentText = block.current
  baseText : hunk.baseText = block.base.map Prod.snd
  incomingText : hunk.incomingText = block.incoming
  startMarker : MarkerLine isStart block.startMarker
  base : ∀ marker text, block.base = some (marker, text) → MarkerLine isBase marker
  separator : MarkerLine isSeparator block.separator
  endMarker : MarkerLine isEnd block.endMarker

def Within (source : List Char) : ℕ → List ConflictHunk → Prop
  | offset, [] => isBoundary Char.utf8Size offset source = true
  | offset, hunk :: hunks =>
      isBoundary Char.utf8Size offset source = true ∧ offset ≤ hunk.startOffset ∧
        (∃ block : Block, block.At source hunk) ∧ Within source hunk.endOffset hunks

def lineRange (lines : List SourceLine) (first last : ℕ) : List Char :=
  ((lines.drop first).take (last - first)).flatMap SourceLine.text

section Lines

variable {lines : List SourceLine} {source : List Char} {i j k : ℕ} {line : SourceLine}

lemma lineRange_append (h : i ≤ j) (h' : j ≤ k) : lineRange lines i j ++ lineRange lines j k = lineRange lines i k := by
  have hparts : (lines.drop i).take (k - i) = (lines.drop i).take (j - i) ++ (lines.drop j).take (k - j) := by
    have hsum : k - i = (j - i) + (k - j) := by omega
    have hdrop : i + (j - i) = j := by omega
    rw [hsum, List.take_add, List.drop_drop, hdrop]
  rw [lineRange, lineRange, lineRange, hparts, List.flatMap_append]

lemma lineRange_line (h : lines[i]? = some line) : lineRange lines i (i + 1) = line.text := by
  obtain ⟨hlt, rfl⟩ := List.getElem?_eq_some_iff.mp h
  rw [lineRange, Nat.add_sub_cancel_left, List.drop_eq_getElem_cons hlt, List.take_succ_cons, List.take_zero,
    List.flatMap_singleton]

structure Cover (lines : List SourceLine) (source : List Char) : Prop where
  text : lines.flatMap SourceLine.text = source
  start : ∀ i line, lines[i]? = some line → line.start = byteLen (lineRange lines 0 i)
  stop : ∀ i line, lines[i]? = some line → line.stop = byteLen (lineRange lines 0 (i + 1))
  body : ∀ line ∈ lines, ∀ c ∈ line.body, isLineBreak c = false
  ending : ∀ line ∈ lines, line.lineEnding ∈ [[], ['\n'], ['\r'], ['\r', '\n']]

lemma utf8Size_pos (c : Char) : 0 < c.utf8Size :=
  Char.utf8Size_pos c

lemma Cover.slice (h : Cover lines source) (hij : i ≤ j) (hj : j ≤ lines.length) :
    slice Char.utf8Size (byteLen (lineRange lines 0 i)) (byteLen (lineRange lines 0 j)) source =
      some (lineRange lines i j) := by
  have hwhole : lineRange lines 0 i ++ (lineRange lines i j ++ lineRange lines j lines.length) = source := by
    rw [lineRange_append hij hj, lineRange_append (Nat.zero_le _) (Nat.le_trans hij hj), lineRange,
      List.drop_zero, Nat.sub_zero, List.take_length, h.text]
  refine (slice_eq_some utf8Size_pos).mpr ⟨_, _, hwhole, rfl, ?_⟩
  rw [← lineRange_append (Nat.zero_le i) hij, byteLen, byteLen, extent_append]

lemma Cover.sliceLines (h : Cover lines source) (hj : j ≤ lines.length) :
    sliceLines source lines i j = some (lineRange lines i j) := by
  rw [MergeConflict.sliceLines]
  split
  · next hle =>
      rw [lineRange, Nat.sub_eq_zero_of_le hle]
      rfl
  · next hlt =>
      obtain ⟨first, hfirst⟩ : ∃ line, lines[i]? = some line := ⟨_, List.getElem?_eq_getElem (by omega)⟩
      obtain ⟨last, hlast⟩ : ∃ line, lines[j - 1]? = some line := ⟨_, List.getElem?_eq_getElem (by omega)⟩
      have hstop := h.stop _ _ hlast
      rw [Nat.sub_add_cancel (by omega)] at hstop
      rw [hfirst, hlast, Option.bind_eq_bind, Option.bind_some, Option.bind_some, h.start _ _ hfirst, hstop]
      exact h.slice (by omega) hj

lemma Cover.boundary (h : Cover lines source) (hi : i ≤ lines.length) :
    isBoundary Char.utf8Size (byteLen (lineRange lines 0 i)) source = true := by
  refine (isBoundary_iff utf8Size_pos).mpr ⟨lineRange lines 0 i, lineRange lines i lines.length, ?_, rfl⟩
  rw [lineRange_append (Nat.zero_le _) hi, lineRange, List.drop_zero, Nat.sub_zero, List.take_length, h.text]

lemma Cover.markerLine (h : Cover lines source) {isMark : List Char → Bool} (hline : lines[i]? = some line)
    (hmark : isMark line.body = true) : MarkerLine isMark line.text :=
  have hmem := List.mem_of_getElem? hline
  ⟨line.body, line.lineEnding, rfl, hmark, h.body line hmem, h.ending line hmem⟩

lemma lineRange_cons (line : SourceLine) (lines : List SourceLine) (i : ℕ) :
    lineRange (line :: lines) 0 (i + 1) = line.text ++ lineRange lines 0 i := by
  rw [lineRange, lineRange, List.drop_zero, List.drop_zero, Nat.sub_zero, Nat.sub_zero, List.take_succ_cons,
    List.flatMap_cons]

lemma splitEnding_append (text : List Char) : (splitEnding text).1 ++ (splitEnding text).2 = text := by
  rw [splitEnding.eq_def]
  split <;> rfl

lemma splitEnding_break {text : List Char} (h : ∀ c ∈ text.head?, isLineBreak c = true) :
    (splitEnding text).1 ∈ [[], ['\n'], ['\r'], ['\r', '\n']] := by
  rw [splitEnding.eq_def]
  split
  · simp
  · next c rest _ =>
      have hc := h c rfl
      rw [isLineBreak, Bool.or_eq_true, decide_eq_true_iff, decide_eq_true_iff] at hc
      rcases hc with rfl | rfl
      · simp
      · simp
  · simp

lemma sourceLinesFrom_spec (start : ℕ) (text : List Char) :
    (sourceLinesFrom start text).flatMap SourceLine.text = text ∧
      (∀ i line, (sourceLinesFrom start text)[i]? = some line →
        line.start = start + byteLen (lineRange (sourceLinesFrom start text) 0 i) ∧
          line.stop = line.start + byteLen line.text) ∧
      ∀ line ∈ sourceLinesFrom start text, (∀ c ∈ line.body, isLineBreak c = false) ∧
        line.lineEnding ∈ [[], ['\n'], ['\r'], ['\r', '\n']] := by
  fun_induction sourceLinesFrom start text with
  | case1 start => exact ⟨rfl, fun i line h => (nomatch h), List.forall_mem_nil _⟩
  | case2 start text hne body ending stop ih =>
      obtain ⟨htext, hstart, hlines⟩ := ih
      have hending := splitEnding_append (text.dropWhile fun c => !isLineBreak c)
      refine ⟨?_, ?_, ?_⟩
      · rw [List.flatMap_cons, htext, SourceLine.text, List.append_assoc]
        exact (congrArg (body ++ ·) hending).trans List.takeWhile_append_dropWhile
      · intro i line hline
        cases i with
        | zero =>
            cases hline
            refine ⟨by simp [lineRange, byteLen], ?_⟩
            rw [SourceLine.text, byteLen, extent_append, ← Nat.add_assoc]
            rfl
        | succ i =>
            obtain ⟨hfirst, hlast⟩ := hstart i line hline
            refine ⟨?_, hlast⟩
            rw [hfirst, lineRange_cons, SourceLine.text, byteLen, byteLen, extent_append, extent_append]
            simp only [stop, byteLen]
            omega
      · intro line hline
        rcases List.mem_cons.mp hline with rfl | hmem
        · refine ⟨fun c hc => ?_, splitEnding_break ?_⟩
          · have hnot := List.mem_takeWhile_imp hc
            simpa using hnot
          · intro c hc
            have hnot := List.head?_dropWhile_not (fun c => !isLineBreak c) text
            rw [Option.mem_def.mp hc] at hnot
            simpa using hnot
        · exact hlines line hmem

lemma cover_sourceLines (source : List Char) : Cover (sourceLines source) source := by
  obtain ⟨htext, hstart, hlines⟩ := sourceLinesFrom_spec 0 source
  refine ⟨htext, ?_, ?_, fun line hline => (hlines line hline).1, fun line hline => (hlines line hline).2⟩
  · intro i line hline
    have hfirst := (hstart i line hline).1
    rwa [Nat.zero_add] at hfirst
  · intro i line hline
    obtain ⟨hfirst, hlast⟩ := hstart i line hline
    rw [hlast, hfirst, Nat.zero_add, ← lineRange_append (Nat.zero_le i) (Nat.le_succ i), lineRange_line hline,
      byteLen, byteLen, byteLen, extent_append]
    rfl

end Lines

section Hunks

variable {lines : List SourceLine} {source : List Char} {index : ℕ} {blockLines : BlockLines}

lemma exists_block (hcover : Cover lines source) {startLine : SourceLine} (hstart : lines[index]? = some startLine)
    (hmark : isStart startLine.body = true) (h : blockLines.At lines index) : ∃ block : Block,
    block.text = lineRange lines index (blockLines.endMarker + 1) ∧
      block.current = lineRange lines (index + 1) blockLines.currentEnd ∧
      block.base.map Prod.snd = blockLines.base.map (fun range => lineRange lines range.1 range.2) ∧
      block.incoming = lineRange lines blockLines.incomingStart blockLines.endMarker ∧
      MarkerLine isStart block.startMarker ∧
      (∀ marker text, block.base = some (marker, text) → MarkerLine isBase marker) ∧
      MarkerLine isSeparator block.separator ∧ MarkerLine isEnd block.endMarker := by
  obtain ⟨separator, hseparator, hseparatorMark⟩ := h.separator
  obtain ⟨last, hlast, hlastMark⟩ := h.endMarker
  have hcurrent := h.current
  have hincoming := h.incoming
  cases hbase : blockLines.base with
  | none =>
      have hfirst := h.noBase hbase
      rw [hfirst, Nat.add_sub_cancel] at hseparator
      refine ⟨⟨startLine.text, lineRange lines (index + 1) blockLines.currentEnd, none, separator.text,
        lineRange lines blockLines.incomingStart blockLines.endMarker, last.text⟩, ?_, rfl, rfl, rfl,
        hcover.markerLine hstart hmark, fun _ _ hnone => (nomatch hnone), hcover.markerLine hseparator hseparatorMark,
        hcover.markerLine hlast hlastMark⟩
      rw [Block.text, Block.baseText]
      dsimp only [Option.elim_none]
      rw [← lineRange_line hstart, ← lineRange_line hseparator, ← lineRange_line hlast, hfirst, List.nil_append,
        lineRange_append (by omega) (by omega), lineRange_append (by omega) (by omega),
        lineRange_append (by omega) (by omega), lineRange_append (by omega) (by omega)]
  | some range =>
      obtain ⟨hfirst, hrange, hnext, marker, hmarker, hmarkerMark⟩ := h.base range hbase
      rw [hnext, Nat.add_sub_cancel] at hseparator
      refine ⟨⟨startLine.text, lineRange lines (index + 1) blockLines.currentEnd,
        some (marker.text, lineRange lines range.1 range.2), separator.text,
        lineRange lines blockLines.incomingStart blockLines.endMarker, last.text⟩, ?_, rfl, rfl, rfl,
        hcover.markerLine hstart hmark, ?_, hcover.markerLine hseparator hseparatorMark,
        hcover.markerLine hlast hlastMark⟩
      · rw [Block.text, Block.baseText]
        dsimp only [Option.elim_some]
        rw [← lineRange_line hstart, ← lineRange_line hmarker, ← lineRange_line hseparator, ← lineRange_line hlast,
          hnext, hfirst, List.append_assoc (lineRange lines blockLines.currentEnd (blockLines.currentEnd + 1)),
          lineRange_append (by omega) (by omega), lineRange_append (by omega) (by omega),
          lineRange_append (by omega) (by omega), lineRange_append (by omega) (by omega),
          lineRange_append (by omega) (by omega), lineRange_append (by omega) (by omega)]
      · rintro marker' text ⟨⟩
        exact hcover.markerLine hmarker hmarkerMark

lemma hunkAt_spec (hcover : Cover lines source) {startLine : SourceLine} (hstart : lines[index]? = some startLine)
    (hmark : isStart startLine.body = true) (h : blockLines.At lines index) :
    ∃ hunk, hunkAt source lines index blockLines = some hunk ∧ (∃ block : Block, block.At source hunk) ∧
      hunk.startOffset = byteLen (lineRange lines 0 index) ∧
      hunk.endOffset = byteLen (lineRange lines 0 (blockLines.endMarker + 1)) := by
  obtain ⟨block, htext, hcurrentText, hbaseText, hincomingText, hstartMarker, hbaseMarker, hseparatorMarker,
    hendMarker⟩ := exists_block hcover hstart hmark h
  obtain ⟨last, hlast, -⟩ := h.endMarker
  have hlt := (List.getElem?_eq_some_iff.mp hlast).1
  have hcurrent := h.current
  have hincoming := h.incoming
  have hindex := h.index_lt
  have hbaseSlice : (blockLines.base.mapM fun range => sliceLines source lines range.1 range.2) =
      some (blockLines.base.map fun range => lineRange lines range.1 range.2) := by
    cases hbase : blockLines.base with
    | none => rfl
    | some range =>
        obtain ⟨-, -, hnext, -⟩ := h.base range hbase
        simp only [Option.mapM_some, hcover.sliceLines (show range.2 ≤ lines.length by omega), Option.map_some]
        rfl
  have hrun : hunkAt source lines index blockLines = some (conflictHunk startLine last index blockLines.endMarker
      (lineRange lines (index + 1) blockLines.currentEnd)
      (blockLines.base.map fun range => lineRange lines range.1 range.2)
      (lineRange lines blockLines.incomingStart blockLines.endMarker)) := by
    simp only [hunkAt, hstart, hlast, hcover.sliceLines (show blockLines.currentEnd ≤ lines.length by omega),
      hbaseSlice, hcover.sliceLines (show blockLines.endMarker ≤ lines.length by omega), Option.bind_eq_bind,
      Option.bind_some, Option.pure_def]
  have hfirst := hcover.start _ _ hstart
  have hstop := hcover.stop _ _ hlast
  have hspan := hcover.slice (show index ≤ blockLines.endMarker + 1 by omega) hlt
  refine ⟨_, hrun, ⟨block, ?_⟩, hfirst, hstop⟩
  exact {
    span := by rw [conflictHunk, hfirst, hstop, hspan, htext]
    currentText := hcurrentText.symm
    baseText := hbaseText.symm
    incomingText := hincomingText.symm
    startMarker := hstartMarker
    base := hbaseMarker
    separator := hseparatorMarker
    endMarker := hendMarker }

lemma Within.weaken {hunks : List ConflictHunk} {offset offset' : ℕ} (h : Within source offset' hunks)
    (hle : offset ≤ offset') (hboundary : isBoundary Char.utf8Size offset source = true) :
    Within source offset hunks := by
  cases hunks with
  | nil => exact hboundary
  | cons hunk hunks => exact ⟨hboundary, hle.trans h.2.1, h.2.2⟩

lemma lineRange_le {i j : ℕ} (h : i ≤ j) : byteLen (lineRange lines 0 i) ≤ byteLen (lineRange lines 0 j) := by
  rw [← lineRange_append (Nat.zero_le i) h, byteLen, byteLen, extent_append]
  exact Nat.le_add_right _ _

lemma parseFrom_within (hcover : Cover lines source) (hindex : index ≤ lines.length) :
    ∃ hunks, parseFrom source lines index = some hunks ∧
      Within source (byteLen (lineRange lines 0 index)) hunks := by
  fun_induction parseFrom source lines index with
  | case1 index hlt hmark hnone ih =>
      obtain ⟨hunks, hparse, hwithin⟩ := ih hlt
      exact ⟨hunks, hparse, hwithin.weaken (lineRange_le (Nat.le_succ _)) (hcover.boundary hindex)⟩
  | case2 index hlt hmark blockLines hblock ih =>
      have hat := blockAt_spec hblock
      have hline : lines[index]? = some (lines.get ⟨index, hlt⟩) := List.getElem?_eq_getElem hlt
      obtain ⟨last, hlast, -⟩ := hat.endMarker
      have hend := (List.getElem?_eq_some_iff.mp hlast).1
      obtain ⟨hunk, hhunk, hplace, hstart, hstop⟩ := hunkAt_spec hcover hline hmark hat
      obtain ⟨hunks, hparse, hwithin⟩ := ih hend
      refine ⟨hunk :: hunks, ?_, hcover.boundary hindex, by rw [hstart], hplace, ?_⟩
      · rw [hhunk, hparse]
        rfl
      · rwa [hstop]
  | case3 index hlt hmark ih =>
      obtain ⟨hunks, hparse, hwithin⟩ := ih hlt
      exact ⟨hunks, hparse, hwithin.weaken (lineRange_le (Nat.le_succ _)) (hcover.boundary hindex)⟩
  | case4 index hge => exact ⟨[], rfl, hcover.boundary hindex⟩

end Hunks

def applyFromLast (source : List Char) (replacements : List (ConflictHunk × List Char)) : Option (List Char) :=
  replacements.foldr
    (fun replacement text => text.bind fun text => applyConflictReplacement text replacement.1 replacement.2)
    (some source)

def replaceSpans (source : List Char) : ℕ → List (ConflictHunk × List Char) → Option (List Char)
  | offset, [] => slice Char.utf8Size offset (byteLen source) source
  | offset, (hunk, text) :: rest => do
      let before ← slice Char.utf8Size offset hunk.startOffset source
      let after ← replaceSpans source hunk.endOffset rest
      return before ++ (text ++ after)

section Replacements

variable {source : List Char}

lemma MarkerLine.ne_nil {mark : Char} {labelled : Bool} {text : List Char}
    (h : MarkerLine (fun body => isMarker body mark labelled) text) : text ≠ [] := by
  obtain ⟨body, ending, rfl, hmark, -⟩ := h
  cases body with
  | nil => cases hmark
  | cons c body => exact List.cons_ne_nil _ _

lemma Block.At.offsets {block : Block} {hunk : ConflictHunk} (h : block.At source hunk) :
    hunk.startOffset < hunk.endOffset ∧ hunk.endOffset ≤ byteLen source := by
  obtain ⟨before, after, hsource, hstart, hstop⟩ := (slice_eq_some utf8Size_pos).mp h.span
  have hne : block.text ≠ [] := by
    intro hnil
    exact MarkerLine.ne_nil h.startMarker (List.append_eq_nil_iff.mp hnil).1
  have hpos : extent Char.utf8Size block.text ≠ 0 := fun hzero => hne (eq_nil_of_extent utf8Size_pos hzero)
  rw [← hsource, byteLen, extent_append, extent_append]
  omega

lemma Within.spec {hunks : List ConflictHunk} {offset : ℕ} (h : Within source offset hunks) :
    (∀ hunk ∈ hunks, offset ≤ hunk.startOffset ∧ hunk.startOffset < hunk.endOffset ∧
      hunk.endOffset ≤ byteLen source ∧ ∃ block : Block, block.At source hunk) ∧
      hunks.Pairwise fun hunk hunk' => hunk.endOffset ≤ hunk'.startOffset := by
  induction hunks generalizing offset with
  | nil => exact ⟨List.forall_mem_nil _, List.Pairwise.nil⟩
  | cons hunk hunks ih =>
      obtain ⟨-, hle, ⟨block, hblock⟩, hrest⟩ := h
      obtain ⟨hall, hpairwise⟩ := ih hrest
      obtain ⟨hlt, hend⟩ := hblock.offsets
      refine ⟨fun hunk' hmem => ?_, List.pairwise_cons.mpr ⟨fun hunk' hmem => (hall hunk' hmem).1, hpairwise⟩⟩
      rcases List.mem_cons.mp hmem with rfl | hmem
      · exact ⟨hle, hlt, hend, block, hblock⟩
      · obtain ⟨hstart, hothers⟩ := hall hunk' hmem
        exact ⟨by omega, hothers⟩

lemma Within.boundary {hunks : List ConflictHunk} {offset : ℕ} (h : Within source offset hunks) :
    ∃ before after, before ++ after = source ∧ extent Char.utf8Size before = offset := by
  cases hunks with
  | nil => exact (isBoundary_iff utf8Size_pos).mp h
  | cons hunk hunks => exact (isBoundary_iff utf8Size_pos).mp h.1

lemma applyFromLast_nil {hunks : List ConflictHunk} {offset : ℕ} (h : Within source offset hunks) :
    ∃ before after rest, before ++ after = source ∧ extent Char.utf8Size before = offset ∧
      replaceSpans source offset [] = some rest ∧ applyFromLast source [] = some (before ++ rest) := by
  obtain ⟨before, after, hsource, hoffset⟩ := h.boundary
  refine ⟨before, after, after, hsource, hoffset, ?_, congrArg some hsource.symm⟩
  refine (slice_eq_some utf8Size_pos).mpr ⟨before, [], by rw [List.append_nil, hsource], hoffset, ?_⟩
  rw [← hsource, byteLen, extent_append, hoffset]

lemma applyFromLast_zip {hunks : List ConflictHunk} {offset : ℕ} (h : Within source offset hunks)
    (texts : List (List Char)) : ∃ before after rest, before ++ after = source ∧
      extent Char.utf8Size before = offset ∧ replaceSpans source offset (hunks.zip texts) = some rest ∧
      applyFromLast source (hunks.zip texts) = some (before ++ rest) := by
  induction hunks generalizing offset texts with
  | nil => exact applyFromLast_nil h
  | cons hunk hunks ih =>
      cases texts with
      | nil => exact applyFromLast_nil h
      | cons text texts =>
          obtain ⟨before, after, hsource, hoffset⟩ := h.boundary
          obtain ⟨-, hle, ⟨block, hblock⟩, hrest⟩ := h
          obtain ⟨beforeEnd, afterEnd, rest, hsourceEnd, hend, hspans, happly⟩ :=
            ih hrest texts
          obtain ⟨start, tail, hspan, hstart, hstop⟩ := (slice_eq_some utf8Size_pos).mp hblock.span
          have hbeforeEnd : start ++ block.text = beforeEnd := by
            have hfirst := (splitAtOffset_eq_some utf8Size_pos).mpr ⟨hsourceEnd, hend⟩
            have hextent : extent Char.utf8Size (start ++ block.text) = hunk.endOffset := by
              rw [extent_append, hstart, hstop]
            have hsecond := (splitAtOffset_eq_some utf8Size_pos).mpr
              ⟨(List.append_assoc start block.text tail).trans hspan, hextent⟩
            rw [hfirst] at hsecond
            cases hsecond
            rfl
          obtain ⟨middle, hmiddle, -⟩ := exists_between utf8Size_pos (hsource.trans hspan.symm)
            (by rw [hoffset, hstart]; exact hle)
          refine ⟨before, after, middle ++ (text ++ rest), hsource, hoffset, ?_, ?_⟩
          · have hslice : slice Char.utf8Size offset hunk.startOffset source = some middle := by
              refine (slice_eq_some utf8Size_pos).mpr ⟨before, block.text ++ tail, ?_, hoffset, ?_⟩
              · rw [← List.append_assoc, hmiddle, hspan]
              · rw [← hstart, ← hmiddle, extent_append, hoffset]
            rw [List.zip_cons_cons, replaceSpans, hslice, hspans]
            rfl
          · have hsplitStart : splitAtOffset Char.utf8Size hunk.startOffset (beforeEnd ++ rest) =
                some (start, block.text ++ rest) := by
              refine (splitAtOffset_eq_some utf8Size_pos).mpr ⟨?_, hstart⟩
              rw [← hbeforeEnd, List.append_assoc]
            have hsplitEnd : splitAtOffset Char.utf8Size hunk.endOffset (beforeEnd ++ rest) =
                some (beforeEnd, rest) := (splitAtOffset_eq_some utf8Size_pos).mpr ⟨rfl, hend⟩
            rw [applyFromLast] at happly ⊢
            rw [List.zip_cons_cons, List.foldr_cons, happly, Option.bind_some, applyConflictReplacement,
              hsplitStart, hsplitEnd, ← List.append_assoc, hmiddle, ← List.append_assoc]
            rfl

end Replacements

end DevCommandCenter.MergeConflict
