import DevCommandCenter.Session.ObjectiveBlock

/-! The instruction block stays within its bound and is closed once, whatever the objective says. -/

namespace DevCommandCenter.Session

open Library

variable {text more intent doneWhen : String} {m n : ℕ}

section Free

def Free (text : String) : Prop :=
  ¬closingTag.toList <:+: text.toList

lemma closingTag_toList : closingTag.toList = '<' :: "/dcc_objective>".toList := by
  decide

lemma free_of_notMem (h : '<' ∉ text.toList) : Free text := by
  intro hinside
  rw [closingTag_toList] at hinside
  exact h (hinside.subset List.mem_cons_self)

lemma Free.label (h : '<' ∉ text.toList) (hmore : Free more) : Free (text ++ more) := by
  intro hinside
  rw [closingTag_toList, String.toList_append] at hinside
  have hrest := infix_of_append h hinside
  rw [← closingTag_toList] at hrest
  exact hmore hrest

lemma Free.line (h : Free text) (hmore : Free more) : Free (text ++ "\n" ++ more) := by
  intro hinside
  have hline : (text ++ "\n" ++ more).toList = text.toList ++ '\n' :: more.toList := by
    rw [String.append_assoc, String.toList_append, String.toList_append]
    rfl
  rw [hline] at hinside
  rcases infix_split (by decide) hinside with hfront | hrest
  · exact h hfront
  · exact hmore hrest

lemma free_escape (value : String) : Free (escape value) := by
  have hfirst : ∀ first ∈ ("&lt;/" ++ objectiveTag ++ ">").toList.head?,
      first ∉ "/dcc_objective>".toList := by
    intro first hfirst
    have hhead : ("&lt;/" ++ objectiveTag ++ ">").toList.head? = some '&' := by decide
    rw [hhead] at hfirst
    obtain rfl := Option.some.inj hfirst
    decide
  rw [Free, escape, String.toList_ofList, closingTag_toList]
  exact not_infix_replaceAll (by decide) (by decide) hfirst value.toList

lemma Free.truncateChars (h : Free text) : Free (truncateChars text) := by
  intro hinside
  rw [Session.truncateChars, String.toList_ofList] at hinside
  rcases infix_split (by decide) hinside with hfront | hrest
  · exact h (hfront.trans (List.take_prefix _ _).isInfix)
  · rw [List.infix_nil] at hrest
    exact absurd hrest (by decide)

end Free

section Within

structure Within (limit : ℕ) (text : String) : Prop where
  bounded : text.length ≤ limit
  unmarked : '<' ∉ text.toList

lemma Within.append (h : Within m text) (hmore : Within n more) : Within (m + n) (text ++ more) where
  bounded := by
    rw [String.length_append]
    exact Nat.add_le_add h.bounded hmore.bounded
  unmarked := by
    rw [String.toList_append, List.mem_append, not_or]
    exact ⟨h.unmarked, hmore.unmarked⟩

lemma Within.mono (h : Within m text) (hle : m ≤ n) : Within n text :=
  ⟨h.bounded.trans hle, h.unmarked⟩

lemma within_number (value : UInt32) : Within 10 (toString value) where
  bounded := (Nat.length_repr_le_iff (by decide)).mpr (Nat.lt_trans value.toNat_lt (by decide))
  unmarked := by
    intro hmem
    have hlist : (toString value).toList = Nat.toDigits 10 value.toNat := toString_nat_toList _
    rw [hlist] at hmem
    exact absurd (Nat.isDigit_of_mem_toDigits (by decide) (by decide) hmem) (by decide)

lemma within_statusText (status : ObjectiveStatus) : Within 6 (statusText status) := by
  cases status <;> exact ⟨by decide, by decide⟩

lemma within_pauseReasonText (reason : Option ObjectivePauseReason) :
    Within 36 (pauseReasonText reason) := by
  rcases reason with _ | _ | _ | _ <;> exact ⟨by decide, by decide⟩

lemma within_maxTurnsText (maxTurns : Option UInt32) : Within 23 (maxTurnsText maxTurns) := by
  cases maxTurns with
  | none => exact ⟨by decide, by decide⟩
  | some value =>
      have hname : Within 12 " max_turns=\"" := ⟨by decide, by decide⟩
      have hquote : Within 1 "\"" := ⟨by decide, by decide⟩
      exact (hname.append (within_number value)).append hquote

lemma openingTag_eq (objective : SessionObjective) :
    ∃ rest, objective.openingTag = "<" ++ (objectiveTag ++ rest) ∧ Within 270 rest := by
  have hstatus : Within 9 " status=\"" := ⟨by decide, by decide⟩
  have hquote : Within 1 "\"" := ⟨by decide, by decide⟩
  have hturns : Within 13 " turns_used=\"" := ⟨by decide, by decide⟩
  have hfailures : Within 23 " consecutive_failures=\"" := ⟨by decide, by decide⟩
  have hmax : Within 28 "\" max_consecutive_failures=\"" := ⟨by decide, by decide⟩
  have hretries : Within 11 "\" retries=\"" := ⟨by decide, by decide⟩
  have hend : Within 2 "\">" := ⟨by decide, by decide⟩
  have hrest := hstatus.append ((within_statusText objective.status).append (hquote.append
    ((within_pauseReasonText objective.pauseReason).append (hturns.append
      ((within_number objective.turnsUsed).append (hquote.append
        ((within_maxTurnsText objective.maxTurns).append (hfailures.append
          ((within_number objective.consecutiveFailures).append (hmax.append
            ((within_number objective.maxConsecutiveFailures).append (hretries.append
              ((within_number objective.retries).append hend)))))))))))))
  refine ⟨_, ?_, hrest.mono (show _ ≤ 270 by omega)⟩
  unfold SessionObjective.openingTag
  simp only [String.append_assoc]

end Within

section Block

variable (objective : SessionObjective)

def doneWhenText (doneWhen : String) : String :=
  if doneWhen = "" then "(not specified)" else doneWhen

def blockFront (intent doneWhen : String) : String :=
  objective.openingTag ++ "\n" ++
    (backgroundLine ++ "\n" ++
      ("intent: " ++ intent ++ "\n" ++ ("done_when: " ++ doneWhenText doneWhen ++ "\n" ++ remainsLine)))

lemma build_eq (intent doneWhen : String) :
    objective.build intent doneWhen = blockFront objective intent doneWhen ++ "\n" ++ closingTag := by
  rw [SessionObjective.build, blockFront, doneWhenText]
  simp only [String.intercalate_cons_cons, String.intercalate_singleton, String.append_assoc]

lemma free_openingTag : Free objective.openingTag := by
  obtain ⟨rest, heq, hrest⟩ := openingTag_eq objective
  have hname : (objectiveTag ++ rest).toList = 'd' :: ("cc_objective".toList ++ rest.toList) := by
    rw [String.toList_append]
    rfl
  have hlist : objective.openingTag.toList = '<' :: 'd' :: ("cc_objective".toList ++ rest.toList) := by
    rw [heq, String.toList_append, hname]
    rfl
  intro hinside
  rw [closingTag_toList, hlist] at hinside
  rcases List.infix_cons_iff.mp hinside with hstarts | hlater
  · have hslash := (List.cons_prefix_cons.mp hstarts).2
    exact absurd (List.cons_prefix_cons.mp hslash).1 (by decide)
  · have hmem := hlater.subset (List.mem_cons_self (a := '<'))
    simp only [List.mem_cons, List.mem_append, hrest.unmarked, or_false] at hmem
    exact absurd hmem (by decide)

lemma within_backgroundLine : Within 123 backgroundLine :=
  ⟨by decide +kernel, by decide +kernel⟩

lemma within_remainsLine : Within 83 remainsLine :=
  ⟨by decide +kernel, by decide +kernel⟩

lemma free_blockFront (hintent : Free intent) (hdone : Free doneWhen) :
    Free (blockFront objective intent doneWhen) := by
  have hdoneWhen : Free (doneWhenText doneWhen) := by
    rw [doneWhenText]
    split
    · exact free_of_notMem (by decide)
    · exact hdone
  refine (free_openingTag objective).line ((free_of_notMem within_backgroundLine.unmarked).line ?_)
  refine (hintent.label (by decide)).line ((hdoneWhen.label (by decide)).line ?_)
  exact free_of_notMem within_remainsLine.unmarked

lemma closed_once (hintent : Free intent) (hdone : Free doneWhen) :
    occurrences closingTag.toList (objective.build intent doneWhen).toList = 1 := by
  have hfree : Free (blockFront objective intent doneWhen ++ "\n" ++ "") :=
    (free_blockFront objective hintent hdone).line (free_of_notMem (by decide))
  rw [String.append_empty, Free, closingTag_toList] at hfree
  rw [build_eq, String.toList_append, closingTag_toList]
  exact occurrences_append (by decide) hfree

lemma length_build (intent doneWhen : String) :
    (objective.build intent doneWhen).length ≤ 600 + intent.length + doneWhen.length := by
  obtain ⟨rest, heq, hrest⟩ := openingTag_eq objective
  have hopen : objective.openingTag.length = 14 + rest.length := by
    rw [heq, String.length_append, String.length_append, ← Nat.add_assoc]
    rfl
  have hdone : (doneWhenText doneWhen).length ≤ 15 + doneWhen.length := by
    rw [doneWhenText]
    split
    · exact le_trans (by decide) (Nat.le_add_right 15 _)
    · exact Nat.le_add_left _ _
  have hbound := hrest.bounded
  have hbackground := within_backgroundLine.bounded
  have hremains := within_remainsLine.bounded
  have hnewline : "\n".length = 1 := by decide
  have hintent : "intent: ".length = 8 := by decide
  have hdoneWhen : "done_when: ".length = 11 := by decide
  have hclosing : closingTag.length = 16 := by decide
  rw [build_eq, blockFront]
  simp only [String.length_append, hnewline, hintent, hdoneWhen, hclosing, hopen]
  generalize backgroundLine.length = background at *
  generalize remainsLine.length = remains at *
  omega

end Block

section Loop

variable {objective : SessionObjective} {block : String}

lemma length_truncateChars (value : String) :
    (truncateChars value).length ≤ value.length * 3 / 4 + 1 := by
  have hkeep : min (value.length * 3) usizeMax / 4 ≤ value.length * 3 / 4 :=
    Nat.div_le_div_right (Nat.min_le_left _ _)
  rw [truncateChars, String.length_ofList, List.length_append, List.length_take,
    List.length_singleton]
  omega

structure WellClosed (block : String) : Prop where
  bounded : block.length ≤ maxObjectiveInstructionChars
  last_line : ∃ front, block = front ++ "\n" ++ closingTag
  once : occurrences closingTag.toList block.toList = 1

lemma shrink_ends {size : ℕ} (hsize : intent.length + doneWhen.length ≤ size) (hintent : Free intent)
    (hdone : Free doneWhen) : ∃ block, (∀ fuel > size, objective.shrink fuel intent doneWhen =
      some block) ∧ WellClosed block := by
  induction size generalizing intent doneWhen with
  | zero =>
      have hlength := length_build objective intent doneWhen
      refine ⟨objective.build intent doneWhen, fun fuel hfuel => ?_, ?_⟩
      · obtain ⟨more, rfl⟩ := Nat.exists_eq_add_of_lt hfuel
        rw [Nat.zero_add, SessionObjective.shrink, if_neg]
        rw [maxObjectiveInstructionChars]
        omega
      · refine ⟨?_, ⟨_, build_eq objective intent doneWhen⟩, closed_once objective hintent hdone⟩
        rw [maxObjectiveInstructionChars]
        omega
  | succ size ih =>
      have hlength := length_build objective intent doneWhen
      by_cases hlong : (objective.build intent doneWhen).length > maxObjectiveInstructionChars
      · have hsum : 4200 < intent.length + doneWhen.length := by
          rw [maxObjectiveInstructionChars] at hlong
          omega
        by_cases hdoneWhen : doneWhen.length > intent.length
        · have hshorter := length_truncateChars doneWhen
          obtain ⟨block, hends, hclosed⟩ :=
            ih (show intent.length + (truncateChars doneWhen).length ≤ size by omega) hintent
              hdone.truncateChars
          refine ⟨block, fun fuel hfuel => ?_, hclosed⟩
          obtain ⟨fuel, rfl⟩ := Nat.exists_eq_add_of_lt hfuel
          rw [SessionObjective.shrink, if_pos hlong, if_pos hdoneWhen]
          exact hends _ (by omega)
        · have hshorter := length_truncateChars intent
          obtain ⟨block, hends, hclosed⟩ :=
            ih (show (truncateChars intent).length + doneWhen.length ≤ size by omega)
              hintent.truncateChars hdone
          refine ⟨block, fun fuel hfuel => ?_, hclosed⟩
          obtain ⟨fuel, rfl⟩ := Nat.exists_eq_add_of_lt hfuel
          rw [SessionObjective.shrink, if_pos hlong, if_neg hdoneWhen]
          exact hends _ (by omega)
      · refine ⟨objective.build intent doneWhen, fun fuel hfuel => ?_, Nat.le_of_not_lt hlong,
          ⟨_, build_eq objective intent doneWhen⟩, closed_once objective hintent hdone⟩
        obtain ⟨fuel, rfl⟩ := Nat.exists_eq_add_of_lt hfuel
        rw [SessionObjective.shrink, if_neg hlong]

/-- The block of any objective is made after finitely many rounds, stays within its bound and has its
closing tag once, as its last line. -/
theorem instruction_block_well_closed (objective : SessionObjective) :
    ∃ block, (∃ rounds, ∀ fuel > rounds, objective.instructionBlock fuel = some block) ∧
      block.length ≤ maxObjectiveInstructionChars ∧
      (∃ front, block = front ++ "\n" ++ closingTag) ∧
      occurrences closingTag.toList block.toList = 1 := by
  obtain ⟨block, hends, hclosed⟩ := @shrink_ends _ _ objective _ le_rfl
    (free_escape objective.intent) (free_escape objective.doneWhen)
  exact ⟨block, ⟨_, hends⟩, hclosed.bounded, hclosed.last_line, hclosed.once⟩

end Loop

section Validated

variable {draft : SessionObjectiveDraft} {validated : ValidatedObjectiveDraft}
  {objective : SessionObjective}

lemma length_boundedText {value field : String} (h : boundedText value field = .ok text) :
    text.length ≤ maxObjectiveTextChars := by
  obtain ⟨hbound, htext⟩ := except_seq_eq_ok.mp h
  have hlength := refuse_eq_ok.mp hbound
  obtain rfl := Except.ok.inj htext
  rw [String.length_ofList, List.length_map, String.length_toList]
  exact Nat.le_of_not_lt hlength

structure BoundedTexts (intent doneWhen : String) : Prop where
  intent : intent.length ≤ maxObjectiveTextChars
  doneWhen : doneWhen.length ≤ maxObjectiveTextChars

lemma bounded_validated (h : draft.validate = .ok validated) :
    BoundedTexts validated.intent validated.doneWhen := by
  obtain ⟨intent, hintent, h⟩ := except_bind_eq_ok.mp h
  obtain ⟨-, h⟩ := except_seq_eq_ok.mp h
  obtain ⟨doneWhen, hdone, h⟩ := except_bind_eq_ok.mp h
  obtain ⟨-, h⟩ := except_seq_eq_ok.mp h
  obtain ⟨-, h⟩ := except_seq_eq_ok.mp h
  obtain rfl := Except.ok.inj h
  exact ⟨length_boundedText hintent, length_boundedText hdone⟩

def ObjectiveCall.Validated : ObjectiveCall → Prop
  | .applyDraft validated _ => ∃ draft : SessionObjectiveDraft, draft.validate = .ok validated
  | _ => True

lemma BoundedTexts.apply (h : BoundedTexts objective.intent objective.doneWhen) {call : ObjectiveCall}
    (hcall : call.Validated) :
    BoundedTexts (call.apply objective).2.intent (call.apply objective).2.doneWhen := by
  cases call with
  | recordTurnOutcome turnId outcome now =>
      simp only [ObjectiveCall.apply, SessionObjective.recordTurnOutcome]
      split
      · exact h
      · cases outcome with
        | completed =>
            simp only [SessionObjective.countCompleted]
            split <;> exact h
        | failed =>
            simp only [SessionObjective.countFailed]
            split <;> exact h
  | recordRetry retryingTurnId now =>
      simp only [ObjectiveCall.apply, SessionObjective.recordRetry]
      split <;> exact h
  | transition move now =>
      cases move <;> simp only [ObjectiveCall.apply, SessionObjective.transition] <;> split <;> exact h
  | applyDraft validated now =>
      obtain ⟨draft, hdraft⟩ := hcall
      simp only [ObjectiveCall.apply, SessionObjective.applyDraft]
      split <;> exact bounded_validated hdraft

lemma BoundedTexts.run (h : BoundedTexts objective.intent objective.doneWhen)
    {calls : List ObjectiveCall} (hcalls : ∀ call ∈ calls, call.Validated) :
    BoundedTexts (objective.run calls).intent (objective.run calls).doneWhen := by
  induction calls using List.reverseRecOn with
  | nil => exact h
  | append_singleton calls call ih =>
      rw [SessionObjective.run_concat]
      exact (ih fun other hother => hcalls other (List.mem_append_left _ hother)).apply
        (hcalls call (by simp))

lemma length_escape (value : String) : 16 * (escape value).length ≤ 19 * value.length := by
  have hclosing : closingTag.toList.length = 16 := by decide
  have hescaped : ("&lt;/" ++ objectiveTag ++ ">").toList.length = 19 := by decide
  have hle := length_replaceAll_le (hclosing.trans_le (by rw [hescaped]; decide)) (by decide) value.toList
  rwa [hclosing, hescaped, String.length_toList, ← String.length_ofList] at hle

lemma shrink_of_short {intent doneWhen : String} (hle : intent.length + doneWhen.length ≤ 4200)
    (fuel : ℕ) : objective.shrink (fuel + 1) intent doneWhen = some (objective.build intent doneWhen) := by
  have hlength := length_build objective intent doneWhen
  rw [SessionObjective.shrink, if_neg]
  rw [maxObjectiveInstructionChars]
  omega

lemma BoundedTexts.shrinks_once (h : BoundedTexts objective.intent objective.doneWhen) :
    (objective.instructionBlock 2).isSome := by
  have hshort := h.intent
  have hshort' := h.doneWhen
  have hescaped := length_escape objective.intent
  have hescaped' := length_escape objective.doneWhen
  rw [maxObjectiveTextChars] at hshort hshort'
  rw [SessionObjective.instructionBlock, SessionObjective.shrink]
  split
  · split
    · have hshorter := length_truncateChars (escape objective.doneWhen)
      rw [shrink_of_short (by omega)]
      rfl
    · have hshorter := length_truncateChars (escape objective.intent)
      rw [shrink_of_short (by omega)]
      rfl
  · rfl

/-- Whatever becomes of an objective, its texts are cut at most once to make its block fit, and never
where they do not hold the closing tag. -/
theorem block_cut_at_most_once (h : draft.validate = .ok validated) (sessionId now : String)
    {calls : List ObjectiveCall} (hcalls : ∀ call ∈ calls, call.Validated)
    (hrun : objective = (SessionObjective.new sessionId validated now).run calls) :
    (objective.instructionBlock 2).isSome ∧
      (escape objective.intent = objective.intent → escape objective.doneWhen = objective.doneWhen →
        objective.instructionBlock 1 = some (objective.build objective.intent objective.doneWhen)) := by
  subst hrun
  have hbounded : BoundedTexts (SessionObjective.new sessionId validated now).intent
      (SessionObjective.new sessionId validated now).doneWhen := bounded_validated h
  have hkept := hbounded.run hcalls
  refine ⟨hkept.shrinks_once, fun hintent hdone => ?_⟩
  have hshort := hkept.intent
  have hshort' := hkept.doneWhen
  rw [maxObjectiveTextChars] at hshort hshort'
  rw [SessionObjective.instructionBlock, hintent, hdone, shrink_of_short (by omega)]

end Validated

def demoDraft : SessionObjectiveDraft where
  intent := "ship it"
  doneWhen := "tests pass"
  maxConsecutiveFailures := none
  maxTurns := none

def demoValidated : ValidatedObjectiveDraft where
  intent := "ship it"
  doneWhen := "tests pass"
  maxConsecutiveFailures := 3
  maxTurns := none

theorem block_of_draft : (((SessionObjective.new "a" demoValidated "t0").run
    [.transition .pause "t1"]).instructionBlock 2).isSome := by
  have hdraft : demoDraft.validate = .ok demoValidated := by decide +kernel
  exact (block_cut_at_most_once hdraft "a" "t0" (by simp [ObjectiveCall.Validated]) rfl).1

end DevCommandCenter.Session
