import DevCommandCenter.Provider.Handoff
import Mathlib.Data.List.Forall2

/-! A handoff stays within the budget of the recent context and the bounds of its sections. -/

namespace DevCommandCenter.Provider

open Library

variable {value text entry : String} {limit : ℕ}

section Truncated

lemma length_truncateHandoff (hlimit : 13 ≤ limit) (value : String) :
    (truncateHandoff value limit).length ≤ limit := by
  rw [truncateHandoff]
  split
  · assumption
  · rename_i hlong
    have hmark : truncationMark.length = 13 := by decide
    have hkept := (trimEnd_front (String.ofList ((trim value).toList.take (limit - 14)))).length_le
    rw [String.length_toList, String.toList_ofList, List.length_take, String.length_toList] at hkept
    rw [String.length_append, hmark]
    omega

lemma ends_truncateHandoff (h : trim value ≠ "") : Ends (truncateHandoff value limit) := by
  rw [truncateHandoff]
  split
  · exact ends_trim h
  · have hmark : Ends truncationMark := ⟨']', by decide, by decide⟩
    exact hmark.append _

def Carries (message : HandoffMessage) (entry : String) : Prop :=
  entry = labelOf message ++ ": " ++ trim message.content ∨
    ∃ kept, kept.toList <+: (trim message.content).toList ∧
      kept.length < (trim message.content).length ∧
      entry = labelOf message ++ ": " ++ (kept ++ truncationMark)

lemma carries_truncateHandoff (message : HandoffMessage) (limit : ℕ) :
    Carries message (labelOf message ++ ": " ++ truncateHandoff message.content limit) := by
  rw [truncateHandoff]
  split
  · exact .inl rfl
  · rename_i hlong
    have hkept := trimEnd_front
      (String.ofList ((trim message.content).toList.take (limit - 14)))
    have hshort := hkept.length_le
    rw [String.length_toList, String.toList_ofList, List.length_take] at hshort
    rw [String.toList_ofList] at hkept
    exact .inr ⟨_, hkept.trans (List.take_prefix _ _), by omega, rfl⟩

end Truncated

section Recent

variable {messages older selected : List HandoffMessage} {entries : List String}

def joined (entries : List String) : String :=
  "\n\n".intercalate entries

lemma length_joined_cons (entry : String) (entries : List String) :
    ((joined (entry :: entries)).length : ℤ) =
      entry.length + separator entries + (joined entries).length := by
  by_cases hnil : entries = []
  · subst hnil
    simp [joined, separator]
  · have hseparator : "\n\n".length = 2 := by decide
    rw [joined, String.intercalate_cons_of_ne_nil hnil, String.length_append, String.length_append,
      hseparator, separator, if_neg hnil, joined]
    omega

lemma select_eq (messages : List HandoffMessage) (selected : List String) (remaining : ℤ) :
    ∃ taken left entries, messages = taken ++ left ∧ List.Forall₂ Carries taken entries ∧
      select messages selected remaining = entries.reverse ++ selected := by
  induction messages generalizing selected remaining with
  | nil => exact ⟨[], [], [], rfl, .nil, rfl⟩
  | cons message older ih =>
      rw [select]
      dsimp only
      split
      · exact ⟨[], message :: older, [], rfl, .nil, rfl⟩
      · generalize (max (min (recentMessageMaxChars : ℤ)
          (remaining - separator selected - (labelOf message).length - 2)) 0).toNat = budget
        have hentry := carries_truncateHandoff message budget
        generalize labelOf message ++ ": " ++ truncateHandoff message.content budget = entry at *
        obtain ⟨taken, left, entries, rfl, hcarries, hselect⟩ :=
          ih (entry :: selected) (remaining - (entry.length + separator selected))
        refine ⟨message :: taken, left, entry :: entries, rfl, .cons hentry hcarries, ?_⟩
        rw [hselect, List.reverse_cons, List.append_assoc]
        rfl

lemma length_select (messages : List HandoffMessage) (selected : List String) {remaining : ℤ}
    (h : 0 ≤ remaining) : ((joined (select messages selected remaining)).length : ℤ) ≤
      (joined selected).length + remaining := by
  induction messages generalizing selected remaining with
  | nil =>
      rw [select]
      omega
  | cons message older ih =>
      rw [select]
      dsimp only
      split
      · omega
      · rename_i hroom
        have hnamed : ∀ body : String, (labelOf message ++ ": " ++ body).length =
            (labelOf message).length + 2 + body.length := by
          intro body
          have hcolon : ": ".length = 2 := by decide
          rw [String.length_append, String.length_append, hcolon]
        generalize hbudget : (max (min (recentMessageMaxChars : ℤ)
          (remaining - separator selected - (labelOf message).length - 2)) 0).toNat = budget
        have hfits : (budget : ℤ) ≤ remaining - separator selected - (labelOf message).length - 2 := by
          omega
        have henough : 13 ≤ budget := by
          rw [recentMessageMaxChars] at hbudget
          omega
        have hbody := length_truncateHandoff henough message.content
        have hentry := hnamed (truncateHandoff message.content budget)
        have hrest := ih ((labelOf message ++ ": " ++ truncateHandoff message.content budget) :: selected)
          (show 0 ≤ remaining - (((labelOf message ++ ": " ++
            truncateHandoff message.content budget).length : ℤ) + separator selected) by omega)
        rw [length_joined_cons] at hrest
        omega

lemma recentMessages_eq (messages : List HandoffMessage) (currentPrompt : Option String) :
    ∃ older newest entries, messages.filter (isCandidate currentPrompt) = older ++ newest ∧
      newest.length ≤ 8 ∧ List.Forall₂ Carries newest entries ∧
      recentMessages messages currentPrompt = joined entries ∧
      (recentMessages messages currentPrompt).length ≤ recentContextMaxChars := by
  rw [recentMessages]
  generalize messages.filter (isCandidate currentPrompt) = candidates
  have hlength := length_select (candidates.drop (candidates.length - 8)).reverse []
    (show (0 : ℤ) ≤ recentContextMaxChars by decide)
  obtain ⟨taken, left, entries, hsplit, hcarries, hselect⟩ :=
    select_eq (candidates.drop (candidates.length - 8)).reverse [] recentContextMaxChars
  have hlast : candidates.drop (candidates.length - 8) = left.reverse ++ taken.reverse := by
    rw [← List.reverse_append, ← hsplit, List.reverse_reverse]
  refine ⟨candidates.take (candidates.length - 8) ++ left.reverse, taken.reverse, entries.reverse,
    ?_, ?_, List.forall₂_reverse_iff.mpr hcarries, ?_, ?_⟩
  · rw [List.append_assoc, ← hlast, List.take_append_drop]
  · have hcount := congrArg List.length hlast
    rw [List.length_drop, List.length_append] at hcount
    omega
  · rw [hselect, List.append_nil]
    rfl
  · have hnil : (joined []).length = 0 := by decide
    rw [hnil] at hlength
    rw [joined] at hlength
    omega

end Recent

section Sections

variable {sections : List String} {bound : ℕ} {title : String}

lemma length_joined_append (hne : sections ≠ []) (entry : String) :
    (joined (sections ++ [entry])).length = (joined sections).length + 2 + entry.length := by
  have hseparator : "\n\n".length = 2 := by decide
  rw [joined, String.intercalate_append_of_ne_nil hne (List.cons_ne_nil _ _),
    String.intercalate_singleton, String.length_append, String.length_append, hseparator, joined]

lemma infix_joined (h : entry ∈ sections) : entry.toList <:+: (joined sections).toList := by
  induction sections with
  | nil => cases h
  | cons first rest ih =>
      by_cases hnil : rest = []
      · subst hnil
        obtain rfl := List.mem_singleton.mp h
        have hsingle : joined [entry] = entry := by rw [joined, String.intercalate_singleton]
        exact hsingle.symm ▸ List.infix_rfl
      · rw [joined, String.intercalate_cons_of_ne_nil hnil, String.toList_append,
          String.toList_append]
        rcases List.mem_cons.mp h with rfl | hrest
        · rw [List.append_assoc]
          exact (List.prefix_append _ _).isInfix
        · exact (ih hrest).trans (List.suffix_append _ _).isInfix

structure Packed (sections : List String) (bound : ℕ) : Prop where
  titled : ∃ rest, sections = handoffTitle :: rest
  ends : ∀ entry ∈ sections, Ends entry
  bounded : (joined sections).length ≤ bound

lemma Packed.mono {bound' : ℕ} (h : Packed sections bound) (hle : bound ≤ bound') :
    Packed sections bound' :=
  ⟨h.titled, h.ends, h.bounded.trans hle⟩

lemma Packed.append (h : Packed sections bound) (title : String) (value : Option String)
    (hlimit : 13 ≤ limit) :
    Packed (appendSection sections title value limit) (bound + title.length + limit + 4) := by
  rw [appendSection]
  split
  · exact h.mono (by omega)
  · rename_i text htext
    obtain ⟨rest, htitled⟩ := h.titled
    have hne : sections ≠ [] := by
      rw [htitled]
      exact List.cons_ne_nil _ _
    have hseen : trim text ≠ "" := by
      have := Option.filter_eq_some_iff.mp htext
      exact of_decide_eq_true this.2
    refine ⟨⟨rest ++ [_], by rw [htitled]; rfl⟩, ?_, ?_⟩
    · intro entry hentry
      rcases List.mem_append.mp hentry with hold | hnew
      · exact h.ends entry hold
      · obtain rfl := List.mem_singleton.mp hnew
        exact (ends_truncateHandoff hseen).append _
    · have hcolon : ":\n".length = 2 := by decide
      have hbody := length_truncateHandoff hlimit text
      have hbounded := h.bounded
      rw [length_joined_append hne, String.length_append, String.length_append, hcolon]
      omega

lemma packed_heads : Packed [handoffTitle, handoffNotice] 203 where
  titled := ⟨_, rfl⟩
  ends := by
    intro entry hentry
    rcases List.mem_cons.mp hentry with rfl | hentry
    · exact ⟨')', by decide +kernel, by decide⟩
    · obtain rfl := List.mem_singleton.mp hentry
      exact ⟨'.', by decide +kernel, by decide⟩
  bounded := by decide +kernel

lemma packed_gitSection (input : ProviderHandoffInput) :
    Packed (match input.git with
      | some git => appendSection (appendSection [handoffTitle, handoffNotice] "Workspace"
          (some input.workspaceText) 700) "Git summary" (some (input.gitText git)) 2400
      | none => appendSection [handoffTitle, handoffNotice] "Workspace"
          (some input.workspaceText) 700) 3331 := by
  have hworkspace := packed_heads.append "Workspace" (some input.workspaceText)
    (show 13 ≤ 700 by decide)
  cases input.git with
  | none => exact hworkspace.mono (by decide)
  | some git =>
      exact (hworkspace.append "Git summary" (some (input.gitText git))
        (show 13 ≤ 2400 by decide)).mono (by decide)

lemma packed_sections (input : ProviderHandoffInput) :
    Packed input.sections providerHandoffMaxChars := by
  have hmission := (packed_gitSection input).append "Mission spec" input.missionSpec (show 13 ≤ 1600 by decide)
  have hplan := hmission.append "Active plan" input.activePlan (show 13 ≤ 2200 by decide)
  exact (hplan.append "Recent durable parent context"
    (some (recentMessages input.recentMessages input.currentPrompt))
    (show 13 ≤ recentContextMaxChars by decide)).mono (by decide)

lemma Packed.truncateHandoff_eq (h : Packed sections bound) (hbound : bound ≤ limit) :
    truncateHandoff (joined sections) limit = joined sections := by
  obtain ⟨rest, rfl⟩ := h.titled
  have hfirst : ∃ c ∈ (joined (handoffTitle :: rest)).toList.head?, isWhitespace c = false := by
    have htitle : handoffTitle.toList = 'D' :: handoffTitle.toList.tail := by decide +kernel
    refine ⟨'D', ?_, by decide⟩
    by_cases hnil : rest = []
    · subst hnil
      rw [joined, String.intercalate_singleton, htitle]
      rfl
    · rw [joined, String.intercalate_cons_of_ne_nil hnil, String.toList_append,
        String.toList_append, htitle]
      rfl
  have hlast : Ends (joined (handoffTitle :: rest)) := by
    obtain ⟨front, last, hsplit⟩ :=
      (List.eq_nil_or_concat' (handoffTitle :: rest)).resolve_left (List.cons_ne_nil _ _)
    have hends := h.ends last (by rw [hsplit]; simp)
    rw [hsplit]
    by_cases hnil : front = []
    · subst hnil
      rw [List.nil_append, joined, String.intercalate_singleton]
      exact hends
    · rw [joined, String.intercalate_append_of_ne_nil hnil (List.cons_ne_nil _ _),
        String.intercalate_singleton]
      exact hends.append _
  rw [truncateHandoff, trim_of_ends hfirst hlast, if_pos (h.bounded.trans hbound)]

end Sections

/-- The newest messages within the budget of the recent context, and the whole handoff within its
bound without its final truncation. -/
theorem handoff_within_budget (input : ProviderHandoffInput) :
    (∃ older newest entries,
      input.recentMessages.filter (isCandidate input.currentPrompt) = older ++ newest ∧
        newest.length ≤ 8 ∧ List.Forall₂ Carries newest entries ∧
        recentMessages input.recentMessages input.currentPrompt = "\n\n".intercalate entries ∧
        (recentMessages input.recentMessages input.currentPrompt).length ≤ recentContextMaxChars) ∧
      ("\n\n".intercalate input.sections).length ≤ providerHandoffMaxChars ∧
      buildProviderHandoffContext input = "\n\n".intercalate input.sections ∧
      ∀ entry ∈ input.sections, entry.toList <:+: (buildProviderHandoffContext input).toList := by
  have hpacked := packed_sections input
  have hbuild : buildProviderHandoffContext input = joined input.sections :=
    hpacked.truncateHandoff_eq le_rfl
  refine ⟨recentMessages_eq input.recentMessages input.currentPrompt, hpacked.bounded, hbuild, ?_⟩
  intro entry hentry
  rw [hbuild]
  exact infix_joined hentry

end DevCommandCenter.Provider
