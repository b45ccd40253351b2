import DevCommandCenter.Timeline.Fold
import DevCommandCenter.Timeline.RowsKept
import Mathlib.Data.List.Find
import Mathlib.Data.List.Perm.Subperm

/-! The rows at the end of a projection: one of the rows listed for a turn stays, and delegation cards
move behind their turn. -/

namespace DevCommandCenter.Timeline

open Library

section Turns

variable {messages messages' : List TimelineMessage} {settledTurns : Finset String}
  {sessionId : String} {rows : List ℕ} {settled : Bool} {last : ℕ}

def stayingRow (messages : List TimelineMessage) (settledTurns : Finset String)
    (turn : String × List ℕ) : Option ℕ :=
  turn.2.getLast?.map (terminalRow messages turn.2 (decide (turn.1 ∈ settledTurns)))

def foldedRow (messages : List TimelineMessage) (settledTurns : Finset String) (sessionId : String)
    (turn : String × List ℕ) (terminal : ℕ) (message : TimelineMessage) : TimelineMessage :=
  { message with
    id := "assistant-" ++ sessionId ++ "-" ++ turn.1
    turnId := some turn.1
    streaming := !decide (turn.1 ∈ settledTurns)
    annotations := foldedAnnotations messages turn.2 (decide (turn.1 ∈ settledTurns)) terminal
    content := if turn.1 ∈ settledTurns then message.content else "" }

lemma terminalRow_mem (h : rows.getLast? = some last) : terminalRow messages rows settled last ∈ rows := by
  have hlast : last ∈ rows := List.mem_of_getLast? h
  have hfound : ∀ (p : ℕ → Bool) (i : ℕ), rows.reverse.find? p = some i → i ∈ rows :=
    fun p i hi => List.mem_reverse.mp (List.mem_of_find?_eq_some hi)
  unfold terminalRow
  dsimp only
  generalize hanswer : rows.reverse.find? (fun index =>
    ((messages[index]?).bind TimelineMessage.assistantPhase) == some .finalAnswer) = answer
  generalize htext : rows.reverse.find? (fun index =>
    (messages[index]?).any fun message => !isBlank message.content) = text
  cases answer with
  | some i =>
      cases settled <;> exact hfound _ i hanswer
  | none =>
      cases settled with
      | false => exact hlast
      | true =>
          cases text with
          | some i => exact hfound _ i htext
          | none => exact hlast

lemma mem_of_stayingRow {turn : String × List ℕ} {i : ℕ}
    (h : stayingRow messages settledTurns turn = some i) : i ∈ turn.2 := by
  obtain ⟨last, hlast, rfl⟩ := Option.map_eq_some_iff.mp h
  exact terminalRow_mem hlast

lemma terminalRow_congr (h : ∀ i ∈ rows, messages'[i]? = messages[i]?) :
    terminalRow messages' rows settled last = terminalRow messages rows settled last := by
  have hanswer : rows.reverse.find? (fun index =>
      ((messages'[index]?).bind TimelineMessage.assistantPhase) == some .finalAnswer) =
      rows.reverse.find? fun index =>
        ((messages[index]?).bind TimelineMessage.assistantPhase) == some .finalAnswer :=
    List.find?_congr fun i hi => by rw [h i (List.mem_reverse.mp hi)]
  have htext : rows.reverse.find? (fun index =>
      (messages'[index]?).any fun message => !isBlank message.content) =
      rows.reverse.find? fun index =>
        (messages[index]?).any fun message => !isBlank message.content :=
    List.find?_congr fun i hi => by rw [h i (List.mem_reverse.mp hi)]
  rw [terminalRow, terminalRow, hanswer, htext]

lemma foldedAnnotations_congr (h : ∀ i ∈ rows, messages'[i]? = messages[i]?) (terminal : ℕ) :
    foldedAnnotations messages' rows settled terminal =
      foldedAnnotations messages rows settled terminal :=
  List.foldl_ext _ _ _ fun folded i hi => by rw [h i hi]

lemma stayingRow_congr {turn : String × List ℕ} (h : ∀ i ∈ turn.2, messages'[i]? = messages[i]?) :
    stayingRow messages' settledTurns turn = stayingRow messages settledTurns turn :=
  Option.map_congr fun _ _ => terminalRow_congr h

lemma foldedRow_congr {turn : String × List ℕ} (h : ∀ i ∈ turn.2, messages'[i]? = messages[i]?)
    (terminal : ℕ) (message : TimelineMessage) :
    foldedRow messages' settledTurns sessionId turn terminal message =
      foldedRow messages settledTurns sessionId turn terminal message := by
  rw [foldedRow, foldedAnnotations_congr h, foldedRow]

structure FoldedFrom (messages : List TimelineMessage) (settledTurns : Finset String)
    (sessionId : String) (turns : List (String × List ℕ))
    (result : List TimelineMessage × Finset ℕ) : Prop where
  other : ∀ i, (∀ turn ∈ turns, stayingRow messages settledTurns turn ≠ some i) →
    result.1[i]? = messages[i]?
  staying : ∀ turn ∈ turns, ∀ i, stayingRow messages settledTurns turn = some i →
    result.1[i]? = (messages[i]?).map (foldedRow messages settledTurns sessionId turn i)
  hidden : ∀ i, i ∈ result.2 ↔
    ∃ turn ∈ turns, i ∈ turn.2 ∧ stayingRow messages settledTurns turn ≠ some i

lemma foldTurn_none {state : List TimelineMessage × Finset ℕ} {turn : String × List ℕ}
    (h : turn.2 = []) : foldTurn settledTurns sessionId state turn = state := by
  obtain ⟨turnId, rows⟩ := turn
  cases h
  rfl

lemma foldTurn_some {state : List TimelineMessage × Finset ℕ} {turn : String × List ℕ} {i : ℕ}
    (h : stayingRow state.1 settledTurns turn = some i) :
    foldTurn settledTurns sessionId state turn =
      (state.1.modify i (foldedRow state.1 settledTurns sessionId turn i),
        state.2 ∪ (turn.2.filter fun index => index ≠ i).toFinset) := by
  obtain ⟨last, hlast, rfl⟩ := Option.map_eq_some_iff.mp h
  obtain ⟨messages, hidden⟩ := state
  obtain ⟨turnId, rows⟩ := turn
  unfold foldTurn
  dsimp only at hlast ⊢
  rw [hlast]
  dsimp only
  simp only [Prod.mk.injEq, and_true]
  congr 1
  funext message
  simp [foldedRow]

theorem FoldedFrom.foldl {turns : List (String × List ℕ)}
    (hdisjoint : turns.Pairwise fun a b => ∀ i ∈ a.2, i ∉ b.2) :
    FoldedFrom messages settledTurns sessionId turns
      (turns.foldl (foldTurn settledTurns sessionId) (messages, ∅)) := by
  induction turns using List.reverseRecOn with
  | nil =>
      refine ⟨fun i _ => rfl, ?_, fun i => ?_⟩
      · rintro turn ⟨⟩
      · simp
  | append_singleton turns turn ih =>
      obtain ⟨hturns, -, hlater⟩ := List.pairwise_append.mp hdisjoint
      have hfolded := ih hturns
      rw [List.foldl_append, List.foldl_cons, List.foldl_nil]
      generalize turns.foldl (foldTurn settledTurns sessionId) (messages, ∅) = state at hfolded
      have hapart : ∀ earlier ∈ turns, ∀ i ∈ turn.2, stayingRow messages settledTurns earlier ≠ some i :=
        fun earlier hearlier i hi hstays =>
          hlater earlier hearlier turn (List.mem_singleton_self _) i (mem_of_stayingRow hstays) hi
      have hagree : ∀ i ∈ turn.2, state.1[i]? = messages[i]? :=
        fun i hi => hfolded.other i fun earlier hearlier => hapart earlier hearlier i hi
      have hsame : stayingRow state.1 settledTurns turn = stayingRow messages settledTurns turn :=
        stayingRow_congr hagree
      cases hstays : stayingRow messages settledTurns turn with
      | none =>
          have hempty : turn.2 = [] := by simpa [stayingRow] using hstays
          rw [foldTurn_none hempty]
          refine ⟨fun i hi => hfolded.other i fun earlier hearlier =>
            hi earlier (List.mem_append_left _ hearlier), ?_, fun i => ?_⟩
          · intro earlier hearlier i hi
            rcases List.mem_append.mp hearlier with hearlier | hearlier
            · exact hfolded.staying earlier hearlier i hi
            · rw [List.mem_singleton.mp hearlier, hstays] at hi
              cases hi
          · rw [hfolded.hidden]
            simp [or_and_right, exists_or, hempty]
      | some terminal =>
          have hterminal := mem_of_stayingRow hstays
          rw [foldTurn_some (hsame.trans hstays)]
          refine ⟨?_, ?_, ?_⟩
          · intro i hi
            have hne : terminal ≠ i := fun heq =>
              hi turn (List.mem_append_right _ (List.mem_singleton_self _)) (heq ▸ hstays)
            rw [List.getElem?_modify_ne _ _ hne]
            exact hfolded.other i fun earlier hearlier => hi earlier (List.mem_append_left _ hearlier)
          · intro earlier hearlier i hi
            rcases List.mem_append.mp hearlier with hearlier | hearlier
            · have hne : terminal ≠ i := fun heq => hapart earlier hearlier terminal hterminal (heq ▸ hi)
              rw [List.getElem?_modify_ne _ _ hne]
              exact hfolded.staying earlier hearlier i hi
            · rw [List.mem_singleton.mp hearlier] at hi ⊢
              obtain rfl : terminal = i := Option.some.inj (hstays.symm.trans hi)
              rw [List.getElem?_modify_eq, hagree terminal hterminal]
              exact Option.map_congr fun message _ => foldedRow_congr hagree terminal message
          · intro i
            rw [Finset.mem_union, hfolded.hidden]
            simp only [List.mem_toFinset, List.mem_filter, decide_eq_true_eq, List.mem_append,
              List.mem_singleton, or_and_right, exists_or, exists_eq_left, hstays, ne_eq,
              Option.some.injEq]
            refine or_congr_right (and_congr_right fun _ => ?_)
            exact ne_comm

lemma map_filter_zipIdx {α : Type} (l : List α) (p : ℕ → Bool) :
    ((l.zipIdx.filter fun entry => p entry.2).map Prod.fst) =
      ((List.range l.length).filter p).filterMap fun i => l[i]? := by
  induction l using List.reverseRecOn with
  | nil => rfl
  | append_singleton l a ih =>
      have hold : ((List.range l.length).filter p).filterMap (fun i => (l ++ [a])[i]?) =
          ((List.range l.length).filter p).filterMap fun i => l[i]? := by
        refine List.filterMap_congr fun i hi => ?_
        exact List.getElem?_append_left (List.mem_range.mp (List.mem_filter.mp hi).1)
      rw [List.zipIdx_append, List.filter_append, List.map_append, ih, List.length_append,
        List.length_singleton, List.range_succ, List.filter_append, List.filterMap_append, hold]
      congr 1
      by_cases hp : p l.length = true <;> simp [hp]

lemma foldTurn_length (state : List TimelineMessage × Finset ℕ) (turn : String × List ℕ) :
    (foldTurn settledTurns sessionId state turn).1.length = state.1.length := by
  unfold foldTurn
  dsimp only
  split
  · rfl
  · exact List.length_modify ..

lemma foldAssistantTurns_eq (byTurn : List (String × List ℕ)) :
    foldAssistantTurns messages byTurn settledTurns sessionId =
      ((List.range messages.length).filter fun i =>
        i ∉ (byTurn.foldl (foldTurn settledTurns sessionId) (messages, ∅)).2).filterMap fun i =>
          (byTurn.foldl (foldTurn settledTurns sessionId) (messages, ∅)).1[i]? := by
  have hlength : (byTurn.foldl (foldTurn settledTurns sessionId) (messages, ∅)).1.length =
      messages.length :=
    @foldl_keeps _ _ _ (fun state : List TimelineMessage × Finset ℕ => state.1.length) _
      foldTurn_length byTurn (messages, ∅)
  rw [← hlength]
  exact map_filter_zipIdx _ fun i =>
    decide (i ∉ (byTurn.foldl (foldTurn settledTurns sessionId) (messages, ∅)).2)

end Turns

section Cards

variable {β : Type} {messages : List TimelineMessage}

def anchored (messages : List TimelineMessage) : List (TimelineMessage × ℕ × Option ℕ) :=
  messages.zipIdx.map fun (message, index) => (message, index, delegationAnchor messages message index)

def cardsBehind (messages : List TimelineMessage) (index : ℕ) :
    List (TimelineMessage × ℕ × Option ℕ) :=
  (anchored messages).filter fun entry => entry.2.2 == some index

def placed (messages : List TimelineMessage) : List (TimelineMessage × ℕ × Option ℕ) :=
  ((anchored messages).filter fun entry => entry.2.2.isNone).flatMap fun entry =>
    entry :: cardsBehind messages entry.2.1

lemma placeDelegations_eq (messages : List TimelineMessage) :
    placeDelegationsAfterTheirTurn messages = (placed messages).map Prod.fst := by
  rw [placed, List.map_flatMap]
  rfl

lemma anchored_map_fst (messages : List TimelineMessage) :
    (anchored messages).map Prod.fst = messages := by
  rw [anchored, List.map_map]
  exact List.zipIdx_map_fst 0 messages

lemma anchored_map_index (messages : List TimelineMessage) :
    (anchored messages).map (fun entry => entry.2.1) = List.range messages.length := by
  rw [anchored, List.map_map, List.range_eq_range']
  exact List.zipIdx_map_snd 0 messages

lemma anchored_nodup (messages : List TimelineMessage) : (anchored messages).Nodup :=
  List.Nodup.of_map _ (anchored_map_index messages ▸ List.nodup_range)

lemma card_of_anchored {entry : TimelineMessage × ℕ × Option ℕ} (h : entry ∈ anchored messages)
    (hanchor : entry.2.2 ≠ none) : entry.1.delegation.isSome = true := by
  obtain ⟨⟨message, index⟩, -, rfl⟩ := List.mem_map.mp h
  dsimp only [delegationAnchor] at hanchor ⊢
  cases hcard : message.delegation.isSome with
  | true => rfl
  | false =>
      rw [hcard] at hanchor
      simp at hanchor

lemma flatMap_placed {g : TimelineMessage → List β}
    (h : ∀ message ∈ messages, message.delegation.isSome = true → g message = []) :
    (placeDelegationsAfterTheirTurn messages).flatMap g = messages.flatMap g := by
  have hcard : ∀ entry ∈ anchored messages, entry.2.2 ≠ none → g entry.1 = [] := by
    intro entry hentry hanchor
    refine h entry.1 ?_ (card_of_anchored hentry hanchor)
    rw [← anchored_map_fst messages]
    exact List.mem_map_of_mem hentry
  have hbehind : ∀ index, (cardsBehind messages index).flatMap (fun entry => g entry.1) = [] := by
    intro index
    refine List.flatMap_eq_nil_iff.mpr fun entry hentry => ?_
    obtain ⟨hmem, hanchor⟩ := List.mem_filter.mp hentry
    refine hcard entry hmem fun hnone => ?_
    simp [hnone] at hanchor
  have hkept : ∀ l : List (TimelineMessage × ℕ × Option ℕ),
      (∀ entry ∈ l, entry.2.2 ≠ none → g entry.1 = []) →
      ((l.filter fun entry => entry.2.2.isNone).flatMap fun entry => g entry.1) =
        l.flatMap fun entry => g entry.1 := by
    intro l hl
    induction l with
    | nil => rfl
    | cons entry l ih =>
        obtain ⟨hentry, hrest⟩ := List.forall_mem_cons.mp hl
        rw [List.filter_cons, List.flatMap_cons]
        split
        · rw [List.flatMap_cons, ih hrest]
        · next hanchor => rw [hentry (by simpa using hanchor), List.nil_append, ih hrest]
  rw [placeDelegations_eq, List.flatMap_map, placed, List.flatMap_assoc]
  simp only [List.flatMap_cons, hbehind, List.append_nil]
  rw [hkept _ hcard, ← List.flatMap_map, anchored_map_fst]

lemma placed_nodup (messages : List TimelineMessage) : (placed messages).Nodup := by
  have hnodup := anchored_nodup messages
  have hindex : ∀ entry ∈ anchored messages, ∀ entry' ∈ anchored messages,
      entry.2.1 = entry'.2.1 → entry = entry' := by
    intro entry hentry entry' hentry' heq
    exact List.inj_on_of_nodup_map (anchored_map_index messages ▸ List.nodup_range) hentry hentry' heq
  refine List.nodup_flatMap.mpr ⟨fun entry hentry => ?_, ?_⟩
  · refine List.nodup_cons.mpr ⟨fun hmem => ?_, hnodup.filter _⟩
    have hnone := (List.mem_filter.mp hentry).2
    have hsome := (List.mem_filter.mp hmem).2
    simp_all
  · refine (hnodup.filter _).imp_of_mem fun {entry entry'} hentry hentry' hne => ?_
    obtain ⟨hmem, hnone⟩ := List.mem_filter.mp hentry
    obtain ⟨hmem', hnone'⟩ := List.mem_filter.mp hentry'
    refine List.disjoint_left.mpr fun x hx hx' => ?_
    rcases List.mem_cons.mp hx with rfl | hx
    · rcases List.mem_cons.mp hx' with rfl | hx'
      · exact hne rfl
      · have hsome := (List.mem_filter.mp hx').2
        simp_all
    · rcases List.mem_cons.mp hx' with rfl | hx'
      · have hsome := (List.mem_filter.mp hx).2
        simp_all
      · have hsome := (List.mem_filter.mp hx).2
        have hsome' := (List.mem_filter.mp hx').2
        rw [beq_iff_eq] at hsome hsome'
        exact hne (hindex entry hmem entry' hmem' (Option.some.inj (hsome.symm.trans hsome')))

lemma placeDelegations_subperm (messages : List TimelineMessage) :
    List.Subperm (placeDelegationsAfterTheirTurn messages) messages := by
  have hsubset : placed messages ⊆ anchored messages := by
    intro entry hentry
    obtain ⟨kept, hkept, hmem⟩ := List.mem_flatMap.mp hentry
    rcases List.mem_cons.mp hmem with rfl | hmem
    · exact (List.mem_filter.mp hkept).1
    · exact (List.mem_filter.mp hmem).1
  obtain ⟨l, hperm, hsublist⟩ := (placed_nodup messages).subperm hsubset
  refine ⟨l.map Prod.fst, ?_, ?_⟩
  · rw [placeDelegations_eq]
    exact hperm.map Prod.fst
  · have hmap := hsublist.map Prod.fst
    rwa [anchored_map_fst] at hmap

end Cards

namespace Projector

variable {isAlphanumeric : Char → Bool} {projector : Projector} {message : TimelineMessage}

def face (message : TimelineMessage) : RowHead × List Annotation :=
  (message.head, message.annotations)

def faces (projector : Projector) : List (RowHead × List Annotation) :=
  projector.messages.map face

lemma faces_modifyMessage {f : TimelineMessage → TimelineMessage} (h : ∀ message, face (f message) = face message)
    (projector : Projector) (index : ℕ) : (projector.modifyMessage index f).faces = projector.faces := by
  refine List.ext_getElem? fun i => ?_
  simp only [faces, modifyMessage, List.getElem?_map, List.getElem?_modify]
  split
  · cases projector.messages[i]? <;> simp [h _]
  · cases projector.messages[i]? <;> rfl

lemma faces_modifyMessages {f : TimelineMessage → TimelineMessage} (h : ∀ message, face (f message) = face message)
    (projector : Projector) (indices : List ℕ) :
    (projector.modifyMessages indices f).faces = projector.faces :=
  @foldl_keeps _ _ _ faces _ (fun projector index => faces_modifyMessage h projector index) indices
    projector

lemma faces_setModels (projector : Projector) : projector.setModels.faces = projector.faces := by
  refine @foldl_keeps _ _ _ faces _ (fun projector entry => ?_) projector.turnModel projector
  obtain ⟨turn, model⟩ := entry
  cases model with
  | none => rfl
  | some model =>
      have hmodel : ∀ message : TimelineMessage, face { message with model := some model } =
        face message := fun _ => rfl
      exact faces_modifyMessages hmodel projector _

lemma faces_markPlanMode (lastUserPlanMode : Bool) (messages : List TimelineMessage) :
    (markPlanMode isAlphanumeric lastUserPlanMode messages).map face = messages.map face := by
  induction messages generalizing lastUserPlanMode with
  | nil => rfl
  | cons message messages ih =>
      unfold markPlanMode
      cases hrole : message.role <;> simp [ih, face, TimelineMessage.head, hrole]

lemma face_markTurn (projector : Projector) (message : TimelineMessage) :
    face (projector.markTurn message) = face message := by
  unfold markTurn
  split <;> rfl

def withoutRows (projector : Projector) : Projector :=
  { projector with messages := [] }

lemma withoutRows_modifyMessages (projector : Projector) (indices : List ℕ)
    (f : TimelineMessage → TimelineMessage) :
    (projector.modifyMessages indices f).withoutRows = projector.withoutRows := by
  have hstep : ∀ (projector : Projector) (index : ℕ),
      (projector.modifyMessage index f).withoutRows = projector.withoutRows := fun _ _ => rfl
  exact foldl_keeps hstep indices projector

lemma withoutRows_setModels (projector : Projector) :
    projector.setModels.withoutRows = projector.withoutRows := by
  refine @foldl_keeps _ _ _ withoutRows _ (fun projector entry => ?_) projector.turnModel projector
  obtain ⟨turn, model⟩ := entry
  cases model with
  | none => rfl
  | some model => exact withoutRows_modifyMessages projector _ _

def finalRows (isAlphanumeric : Char → Bool) (projector : Projector) : List TimelineMessage :=
  (markPlanMode isAlphanumeric false projector.setModels.messages).map projector.setModels.markTurn

def settledTurns (projector : Projector) : Finset String :=
  projector.completedTurns ∪ projector.abortedTurns.keys.toFinset

lemma finish_eq (projector : Projector) : projector.finish isAlphanumeric =
    placeDelegationsAfterTheirTurn (foldAssistantTurns (projector.finalRows isAlphanumeric)
      projector.assistantMessagesByTurn projector.settledTurns projector.sessionId) := by
  have hkeeps := withoutRows_setModels projector
  have hbyTurn := congrArg assistantMessagesByTurn hkeeps
  have hsession := congrArg sessionId hkeeps
  have hcompleted := congrArg completedTurns hkeeps
  have haborted := congrArg abortedTurns hkeeps
  simp only [withoutRows] at hbyTurn hsession hcompleted haborted
  rw [finish, hbyTurn, hsession, hcompleted, haborted]
  rfl

lemma faces_finalRows (projector : Projector) :
    (projector.finalRows isAlphanumeric).map face = projector.faces := by
  have hmark : (face ∘ projector.setModels.markTurn) = face := by
    funext message
    exact face_markTurn _ message
  rw [finalRows, List.map_map, hmark, faces_markPlanMode]
  exact faces_setModels projector

lemma finalRows_length (projector : Projector) :
    (projector.finalRows isAlphanumeric).length = projector.messages.length := by
  have hfaces : (projector.finalRows isAlphanumeric).map face = projector.faces :=
    faces_finalRows projector
  simpa [faces] using congrArg List.length hfaces

section Shown

variable (isAlphanumeric : Char → Bool) (projector : Projector)

def stays (turnId : String) : Option ℕ :=
  stayingRow (projector.finalRows isAlphanumeric) projector.settledTurns
    (turnId, projector.frame.rows turnId)

def folded : List TimelineMessage × Finset ℕ :=
  projector.assistantMessagesByTurn.foldl (foldTurn projector.settledTurns projector.sessionId)
    (projector.finalRows isAlphanumeric, ∅)

def shown : List ℕ :=
  (List.range projector.messages.length).filter fun i => i ∉ (projector.folded isAlphanumeric).2

def shownRows : List TimelineMessage :=
  (projector.shown isAlphanumeric).filterMap fun i => (projector.folded isAlphanumeric).1[i]?

lemma finish_eq_shownRows : projector.finish isAlphanumeric =
    placeDelegationsAfterTheirTurn (projector.shownRows isAlphanumeric) := by
  rw [finish_eq, foldAssistantTurns_eq, finalRows_length]
  rfl

end Shown

section Kept

variable {turnId : String} {i : ℕ}

lemma mem_byTurn (hkept : projector.frame.WellKept) {turn : String × List ℕ}
    (h : turn ∈ projector.assistantMessagesByTurn) : turn.2 = projector.frame.rows turn.1 :=
  (listing_of_mem hkept.keys h).symm

lemma byTurn_disjoint (hkept : projector.frame.WellKept) :
    projector.assistantMessagesByTurn.Pairwise fun a b => ∀ i ∈ a.2, i ∉ b.2 := by
  have hkeys : projector.assistantMessagesByTurn.Pairwise fun a b => a.1 ≠ b.1 :=
    List.pairwise_map.mp hkept.keys
  refine hkeys.imp_of_mem fun {a b} ha hb hne i hia hib => hne ?_
  rw [mem_byTurn hkept ha] at hia
  rw [mem_byTurn hkept hb] at hib
  exact (hkept.listed a.1 i hia).unique (hkept.listed b.1 i hib)

lemma folded_spec (hkept : projector.frame.WellKept) :
    FoldedFrom (projector.finalRows isAlphanumeric) projector.settledTurns projector.sessionId
      projector.assistantMessagesByTurn (projector.folded isAlphanumeric) :=
  .foldl (byTurn_disjoint hkept)

lemma stayingRow_eq (hkept : projector.frame.WellKept) {turn : String × List ℕ}
    (h : turn ∈ projector.assistantMessagesByTurn) :
    stayingRow (projector.finalRows isAlphanumeric) projector.settledTurns turn =
      projector.stays isAlphanumeric turn.1 := by
  rw [stays, ← mem_byTurn hkept h]

lemma mem_rows_of_stays (h : projector.stays isAlphanumeric turnId = some i) :
    i ∈ projector.frame.rows turnId :=
  mem_of_stayingRow h

lemma turn_mem_byTurn (h : i ∈ projector.frame.rows turnId) :
    (turnId, projector.frame.rows turnId) ∈ projector.assistantMessagesByTurn :=
  mem_of_listing h

lemma exists_stays (h : i ∈ projector.frame.rows turnId) :
    ∃ terminal, projector.stays isAlphanumeric turnId = some terminal := by
  cases hlast : (projector.frame.rows turnId).getLast? with
  | none =>
      rw [List.getLast?_eq_none_iff.mp hlast] at h
      cases h
  | some last => exact ⟨_, by rw [stays, stayingRow, hlast, Option.map_some]⟩

lemma mem_shown (hkept : projector.frame.WellKept) : i ∈ projector.shown isAlphanumeric ↔
    i < projector.messages.length ∧
      ∀ turnId, i ∈ projector.frame.rows turnId → projector.stays isAlphanumeric turnId = some i := by
  rw [shown, List.mem_filter, List.mem_range, decide_eq_true_eq, (folded_spec hkept).hidden]
  refine and_congr_right fun _ => ⟨fun h turnId hi => ?_, fun h => ?_⟩
  · have hturn := turn_mem_byTurn hi
    by_contra hnot
    exact h ⟨_, hturn, hi, fun hstays => hnot ((stayingRow_eq hkept hturn).symm.trans hstays)⟩
  · rintro ⟨turn, hturn, hi, hnot⟩
    rw [mem_byTurn hkept hturn] at hi
    exact hnot ((stayingRow_eq hkept hturn).trans (h turn.1 hi))

lemma folded_of_stays (hkept : projector.frame.WellKept)
    (h : projector.stays isAlphanumeric turnId = some i) :
    (projector.folded isAlphanumeric).1[i]? =
      ((projector.finalRows isAlphanumeric)[i]?).map
        (foldedRow (projector.finalRows isAlphanumeric) projector.settledTurns projector.sessionId
          (turnId, projector.frame.rows turnId) i) :=
  (folded_spec hkept).staying _ (turn_mem_byTurn (mem_rows_of_stays h)) i h

lemma folded_of_other (hkept : projector.frame.WellKept)
    (h : ∀ turnId, projector.stays isAlphanumeric turnId ≠ some i) :
    (projector.folded isAlphanumeric).1[i]? = (projector.finalRows isAlphanumeric)[i]? :=
  (folded_spec hkept).other i fun turn hturn hstays =>
    h turn.1 ((stayingRow_eq hkept hturn).symm.trans hstays)

lemma finalRows_head (h : (projector.finalRows isAlphanumeric)[i]? = some message) :
    projector.frame.heads[i]? = some message.head := by
  have hfaces : (projector.finalRows isAlphanumeric).map face = projector.faces :=
    faces_finalRows projector
  have hface := congrArg (fun faces => faces[i]?) hfaces
  simp only [faces, List.getElem?_map, h, Option.map_some] at hface
  obtain ⟨row, hrow, heq⟩ := Option.map_eq_some_iff.mp hface.symm
  rw [frame, List.getElem?_map, hrow, Option.map_some]
  exact congrArg (fun face => some face.1) heq

lemma exists_folded (hkept : projector.frame.WellKept) (hi : i < projector.frame.heads.length) :
    ∃ message, (projector.folded isAlphanumeric).1[i]? = some message := by
  have hrow : ∃ row, (projector.finalRows isAlphanumeric)[i]? = some row := by
    have hlength : (projector.finalRows isAlphanumeric).length = projector.messages.length :=
      finalRows_length projector
    rw [frame_heads_length, ← hlength] at hi
    exact ⟨_, List.getElem?_eq_getElem hi⟩
  obtain ⟨row, hrow⟩ := hrow
  by_cases hstays : ∃ turnId, projector.stays isAlphanumeric turnId = some i
  · obtain ⟨turnId, hturn⟩ := hstays
    rw [folded_of_stays hkept hturn, hrow]
    exact ⟨_, rfl⟩
  · rw [folded_of_other hkept (not_exists.mp hstays), hrow]
    exact ⟨row, rfl⟩

lemma head_of_folded (hkept : projector.frame.WellKept)
    (h : (projector.folded isAlphanumeric).1[i]? = some message) :
    (∃ turnId, projector.stays isAlphanumeric turnId = some i ∧
      message.head = projector.frame.looseHead turnId) ∨
    ((∀ turnId, projector.stays isAlphanumeric turnId ≠ some i) ∧
      projector.frame.heads[i]? = some message.head) := by
  by_cases hstays : ∃ turnId, projector.stays isAlphanumeric turnId = some i
  · obtain ⟨turnId, hturn⟩ := hstays
    rw [folded_of_stays hkept hturn] at h
    obtain ⟨row, hrow, rfl⟩ := Option.map_eq_some_iff.mp h
    have hhead := finalRows_head hrow
    obtain ⟨head, hfound, hrole, -⟩ := hkept.listed turnId i (mem_rows_of_stays hturn)
    have hcard := hkept.cards head (List.mem_of_getElem? hfound) hrole
    rw [hhead, Option.some.injEq] at hfound
    subst hfound
    refine .inl ⟨turnId, hturn, ?_⟩
    simp only [TimelineMessage.head] at hrole hcard
    simp [foldedRow, TimelineMessage.head, Frame.looseHead, hrole, hcard, frame]
  · simp only [not_exists] at hstays
    rw [folded_of_other hkept hstays] at h
    exact .inr ⟨hstays, finalRows_head h⟩

end Kept

end Projector

end DevCommandCenter.Timeline
