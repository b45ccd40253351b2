import Mathlib.Data.List.Forall2
import Mathlib.Data.List.Induction

/-! Bursts of a provider's deltas are merged before they reach the session log. -/

namespace DevCommandCenter.Provider

def maxMergedDeltaBytes : ℕ := 16 * 1024

inductive DeltaKey
  | text
  | assistant (id : String)
  | reasoning (id : String)
  | tool (id : String)
  deriving DecidableEq

inductive ProviderEvent (ω : Type)
  | textDelta (content : String)
  | assistantMessageDelta (id content : String)
  | reasoningDelta (id content : String)
  | toolCallDelta (id content : String)
  | other (event : ω)

section Merge

variable {ω : Type}

def deltaKey : ProviderEvent ω → Option DeltaKey
  | .textDelta _ => some .text
  | .assistantMessageDelta id _ => some (.assistant id)
  | .reasoningDelta id _ => some (.reasoning id)
  | .toolCallDelta id _ => some (.tool id)
  | .other _ => none

def deltaContent : ProviderEvent ω → Option String
  | .textDelta content | .assistantMessageDelta _ content | .reasoningDelta _ content
  | .toolCallDelta _ content => some content
  | .other _ => none

def setDeltaContent (content : String) : ProviderEvent ω → ProviderEvent ω
  | .textDelta _ => .textDelta content
  | .assistantMessageDelta id _ => .assistantMessageDelta id content
  | .reasoningDelta id _ => .reasoningDelta id content
  | .toolCallDelta id _ => .toolCallDelta id content
  | .other event => .other event

def tryMerge (acc next : ProviderEvent ω) : Option (ProviderEvent ω) := do
  let left ← deltaKey acc
  let right ← deltaKey next
  if left = right then
    let addition ← deltaContent next
    let content ← deltaContent acc
    if maxMergedDeltaBytes < content.utf8ByteSize + addition.utf8ByteSize then none
    else some (setDeltaContent (content ++ addition) acc)
  else none

@[simp] lemma deltaKey_setDeltaContent (content : String) (event : ProviderEvent ω) :
    deltaKey (setDeltaContent content event) = deltaKey event := by
  cases event <;> rfl

lemma deltaContent_setDeltaContent {event : ProviderEvent ω} {key : DeltaKey} (h : deltaKey event = some key)
    (content : String) : deltaContent (setDeltaContent content event) = some content := by
  cases event <;> first | rfl | cases h

lemma tryMerge_eq_some {acc next merged : ProviderEvent ω} (h : tryMerge acc next = some merged) :
    ∃ key content addition, deltaKey acc = some key ∧ deltaKey next = some key ∧
      deltaContent acc = some content ∧ deltaContent next = some addition ∧
      content.utf8ByteSize + addition.utf8ByteSize ≤ maxMergedDeltaBytes ∧
      merged = setDeltaContent (content ++ addition) acc := by
  simp only [tryMerge, Option.bind_eq_bind, Option.bind_eq_some_iff] at h
  obtain ⟨left, hleft, right, hright, h⟩ := h
  split at h
  · next heq =>
    subst heq
    simp only [Option.bind_eq_some_iff] at h
    obtain ⟨addition, haddition, content, hcontent, h⟩ := h
    split at h
    · cases h
    · next hfits =>
      cases h
      exact ⟨left, content, addition, hleft, hright, hcontent, haddition, by omega, rfl⟩
  · cases h

end Merge

section Coalesce

variable {ε ω : Type}

structure CoalesceState (ε ω : Type) where
  position : ℕ
  lookahead : Option (Except ε (ProviderEvent ω))
  finished : Bool

def CoalesceState.start : CoalesceState ε ω where
  position := 0
  lookahead := none
  finished := false

variable (inner : ℕ → Option (Except ε (ProviderEvent ω)))

/-- Deltas are merged until the window closes, which is after so many answers of the inner stream. -/
def mergeUntil : ℕ → ProviderEvent ω → CoalesceState ε ω → ProviderEvent ω × CoalesceState ε ω
  | 0, acc, state => (acc, state)
  | window + 1, acc, state =>
      match inner state.position with
      | none => (acc, { state with finished := true })
      | some (.ok next) =>
          match tryMerge acc next with
          | some merged => mergeUntil window merged { state with position := state.position + 1 }
          | none => (acc, { state with position := state.position + 1, lookahead := some (.ok next) })
      | some (.error error) =>
          (acc, { state with position := state.position + 1, lookahead := some (.error error) })

def takeFirst (state : CoalesceState ε ω) : Option (Except ε (ProviderEvent ω) × CoalesceState ε ω) :=
  match state.lookahead with
  | some item => some (item, { state with lookahead := none })
  | none =>
      if state.finished then none
      else (inner state.position).map fun item => (item, { state with position := state.position + 1 })

def coalesceNext (window : ℕ) (state : CoalesceState ε ω) :
    Option (Except ε (ProviderEvent ω) × CoalesceState ε ω) := do
  let (first, state) ← takeFirst inner state
  match first with
  | .ok event =>
      if (deltaKey event).isSome then
        let (acc, state) := mergeUntil inner window event state
        some (.ok acc, state)
      else some (.ok event, state)
  | .error error => some (.error error, state)

def coalesceProviderDeltas (windows : List ℕ) : List (Except ε (ProviderEvent ω)) × CoalesceState ε ω :=
  windows.foldl (fun sofar window =>
    match coalesceNext inner window sofar.2 with
    | some (item, state) => (sofar.1 ++ [item], state)
    | none => sofar) ([], .start)

end Coalesce

section Stream

variable {ε ω : Type}

def contents (group : List (Except ε (ProviderEvent ω))) : String :=
  String.join (group.filterMap fun item => item.toOption.bind deltaContent)

inductive Merged : List (Except ε (ProviderEvent ω)) → Except ε (ProviderEvent ω) → Prop
  | single (item : Except ε (ProviderEvent ω)) : Merged [item] item
  | run {group : List (Except ε (ProviderEvent ω))} {acc : ProviderEvent ω} {key : DeltaKey} :
      (∀ item ∈ group, ∃ event, item = .ok event ∧ deltaKey event = some key) → deltaKey acc = some key →
      deltaContent acc = some (contents group) → (contents group).utf8ByteSize ≤ maxMergedDeltaBytes →
      Merged group (.ok acc)

lemma contents_append (group group' : List (Except ε (ProviderEvent ω))) :
    contents (group ++ group') = contents group ++ contents group' := by
  simp [contents, List.filterMap_append, String.join_append]

lemma contents_singleton {event : ProviderEvent ω} {content : String} (h : deltaContent event = some content) :
    contents [(.ok event : Except ε (ProviderEvent ω))] = content := by
  simp [contents, Except.toOption, h, String.join]

lemma Merged.extend {group : List (Except ε (ProviderEvent ω))} {acc next merged : ProviderEvent ω}
    (h : Merged group (.ok acc)) (hmerge : tryMerge acc next = some merged) :
    Merged (group ++ [.ok next]) (.ok merged) := by
  obtain ⟨key, content, addition, hacc, hnext, hcontent, haddition, hfits, rfl⟩ := tryMerge_eq_some hmerge
  have hgroup : (∀ item ∈ group, ∃ event, item = .ok event ∧ deltaKey event = some key) ∧
      contents group = content := by
    cases h with
    | single =>
        refine ⟨fun item hitem => ⟨acc, List.mem_singleton.mp hitem, hacc⟩, contents_singleton hcontent⟩
    | run hdeltas hkey hcontents _ =>
        cases hkey.symm.trans hacc
        exact ⟨hdeltas, Option.some.inj (hcontents.symm.trans hcontent)⟩
  have hjoined : contents (group ++ [.ok next]) = content ++ addition := by
    rw [contents_append, hgroup.2, contents_singleton haddition]
  refine @Merged.run ε ω _ _ key ?_ ?_ ?_ ?_
  · intro item hitem
    rcases List.mem_append.mp hitem with hold | hnew
    · exact hgroup.1 item hold
    · exact ⟨next, List.mem_singleton.mp hnew, hnext⟩
  · rw [deltaKey_setDeltaContent, hacc]
  · rw [deltaContent_setDeltaContent hacc, hjoined]
  · rw [hjoined, String.utf8ByteSize_append]
    exact hfits

variable (inner : ℕ → Option (Except ε (ProviderEvent ω)))

def received (position : ℕ) : List (Except ε (ProviderEvent ω)) :=
  (List.range position).filterMap inner

variable {inner}

lemma received_succ {position : ℕ} {item : Except ε (ProviderEvent ω)} (h : inner position = some item) :
    received inner (position + 1) = received inner position ++ [item] := by
  rw [received, List.range_succ, List.filterMap_append, List.filterMap_cons, h]
  rfl

/-- The results out and the one that was looked at are those received, each once and in order. -/
structure Coalesced (inner : ℕ → Option (Except ε (ProviderEvent ω)))
    (output : List (Except ε (ProviderEvent ω))) (state : CoalesceState ε ω) : Prop where
  merged : ∃ groups, List.Forall₂ Merged groups output ∧
    groups.flatten ++ state.lookahead.toList = received inner state.position
  given : ∀ i < state.position, inner i ≠ none
  ended : state.finished = true → state.lookahead = none ∧ inner state.position = none

lemma given_succ {position : ℕ} {item : Except ε (ProviderEvent ω)}
    (hgiven : ∀ i < position, inner i ≠ none) (h : inner position = some item) :
    ∀ i < position + 1, inner i ≠ none := by
  intro i hi
  rcases Nat.lt_succ_iff_lt_or_eq.mp hi with hlt | rfl
  · exact hgiven i hlt
  · rw [h]
    exact Option.some_ne_none item

lemma mergeUntil_spec {before group : List (Except ε (ProviderEvent ω))} {acc : ProviderEvent ω}
    {state : CoalesceState ε ω} (window : ℕ) (hgroup : Merged group (.ok acc))
    (hreceived : before ++ group = received inner state.position)
    (hgiven : ∀ i < state.position, inner i ≠ none) (hlookahead : state.lookahead = none)
    (hopen : state.finished = false) :
    ∃ group', Merged group' (.ok (mergeUntil inner window acc state).1) ∧
      before ++ group' ++ (mergeUntil inner window acc state).2.lookahead.toList =
        received inner (mergeUntil inner window acc state).2.position ∧
      (∀ i < (mergeUntil inner window acc state).2.position, inner i ≠ none) ∧
      ((mergeUntil inner window acc state).2.finished = true →
        (mergeUntil inner window acc state).2.lookahead = none ∧
        inner (mergeUntil inner window acc state).2.position = none) := by
  induction window generalizing group acc state with
  | zero =>
      rw [mergeUntil]
      refine ⟨group, hgroup, ?_, hgiven, ?_⟩
      · rw [hlookahead, Option.toList_none, List.append_nil, hreceived]
      · rw [hopen]
        exact nofun
  | succ window ih =>
      cases hnext : inner state.position with
      | none =>
          simp only [mergeUntil, hnext]
          refine ⟨group, hgroup, ?_, hgiven, fun _ => ⟨hlookahead, trivial⟩⟩
          rw [hlookahead, Option.toList_none, List.append_nil, hreceived]
      | some item =>
          have hput : before ++ group ++ [item] = received inner (state.position + 1) := by
            rw [received_succ hnext, hreceived]
          have hgiven' := given_succ hgiven hnext
          cases item with
          | error error =>
              simp only [mergeUntil, hnext]
              exact ⟨group, hgroup, hput, hgiven', fun hfinished => absurd (hopen.symm.trans hfinished) nofun⟩
          | ok next =>
              cases hmerge : tryMerge acc next with
              | none =>
                  simp only [mergeUntil, hnext, hmerge]
                  exact ⟨group, hgroup, hput, hgiven', fun hfinished => absurd (hopen.symm.trans hfinished) nofun⟩
              | some merged =>
                  simp only [mergeUntil, hnext, hmerge]
                  rw [List.append_assoc] at hput
                  exact ih (hgroup.extend hmerge) hput hgiven' hlookahead hopen

namespace Coalesced

variable {output : List (Except ε (ProviderEvent ω))} {state state' : CoalesceState ε ω}
  {first item : Except ε (ProviderEvent ω)}

lemma start : Coalesced inner [] .start where
  merged := ⟨[], .nil, rfl⟩
  given _ h := absurd h (Nat.not_lt_zero _)
  ended := nofun

lemma takeFirst (h : Coalesced inner output state) (htake : takeFirst inner state = some (first, state')) :
    (∃ groups, List.Forall₂ Merged groups output ∧
      groups.flatten ++ [first] = received inner state'.position) ∧
    (∀ i < state'.position, inner i ≠ none) ∧ state'.lookahead = none ∧ state'.finished = false := by
  obtain ⟨groups, hgroups, hflatten⟩ := h.merged
  unfold Provider.takeFirst at htake
  split at htake
  · next ahead hahead =>
    cases htake
    rw [hahead] at hflatten
    refine ⟨⟨groups, hgroups, hflatten⟩, h.given, rfl, ?_⟩
    by_contra hfinished
    have hnone := (h.ended (Bool.not_eq_false _ ▸ hfinished)).1
    rw [hahead] at hnone
    cases hnone
  · next hahead =>
    split at htake
    · cases htake
    · next hfinished =>
      obtain ⟨next, hnext, heq⟩ := Option.map_eq_some_iff.mp htake
      cases heq
      rw [hahead, Option.toList_none, List.append_nil] at hflatten
      refine ⟨⟨groups, hgroups, ?_⟩, given_succ h.given hnext, hahead, Bool.not_eq_true _ ▸ hfinished⟩
      rw [received_succ hnext, hflatten]

lemma next {window : ℕ} (h : Coalesced inner output state)
    (hnext : coalesceNext inner window state = some (item, state')) :
    Coalesced inner (output ++ [item]) state' := by
  simp only [coalesceNext, Option.bind_eq_bind, Option.bind_eq_some_iff] at hnext
  obtain ⟨⟨first, taken⟩, htake, hnext⟩ := hnext
  obtain ⟨⟨groups, hgroups, hflatten⟩, hgiven, hlookahead, hopen⟩ := h.takeFirst htake
  have hpassed : item = first → state' = taken → Coalesced inner (output ++ [item]) state' := by
    rintro rfl rfl
    refine ⟨⟨groups ++ [[item]], ?_, ?_⟩, hgiven, ?_⟩
    · exact List.rel_append hgroups (.cons (.single item) .nil)
    · rw [hlookahead, List.flatten_append, List.flatten_singleton, Option.toList_none, List.append_nil,
        hflatten]
    · rw [hopen]
      exact nofun
  cases first with
  | error error =>
      cases hnext
      exact hpassed rfl rfl
  | ok event =>
      simp only at hnext
      split at hnext
      · cases hnext
        obtain ⟨group, hmerged, hreceived, hgiven', hended⟩ :=
          mergeUntil_spec window (.single (.ok event)) hflatten hgiven hlookahead hopen
        refine ⟨⟨groups ++ [group], ?_, ?_⟩, hgiven', hended⟩
        · exact List.rel_append hgroups (.cons hmerged .nil)
        · rw [List.flatten_append, List.flatten_singleton, hreceived]
      · cases hnext
        exact hpassed rfl rfl

lemma next_eq_none (h : Coalesced inner output state) (window : ℕ) :
    coalesceNext inner window state = none ↔ state.lookahead = none ∧ inner state.position = none := by
  have htake : coalesceNext inner window state = none ↔ Provider.takeFirst inner state = none := by
    simp only [coalesceNext, Option.bind_eq_bind, Option.bind_eq_none_iff]
    constructor
    · intro hnone
      by_contra hsome
      obtain ⟨⟨first, taken⟩, htaken⟩ := Option.ne_none_iff_exists'.mp hsome
      have hlast := hnone _ htaken
      cases first with
      | error error => cases hlast
      | ok event =>
          simp only at hlast
          split at hlast <;> cases hlast
    · rintro hnone _ htaken
      rw [hnone] at htaken
      cases htaken
  rw [htake, Provider.takeFirst]
  cases hahead : state.lookahead with
  | some ahead => simp
  | none =>
      cases hfinished : state.finished with
      | true => simpa [hahead] using (h.ended hfinished).2
      | false => simp

end Coalesced

lemma coalesced_run (inner : ℕ → Option (Except ε (ProviderEvent ω))) (windows : List ℕ) :
    Coalesced inner (coalesceProviderDeltas inner windows).1 (coalesceProviderDeltas inner windows).2 := by
  induction windows using List.reverseRecOn with
  | nil => exact .start
  | append_singleton windows window ih =>
      rw [coalesceProviderDeltas, List.foldl_append, List.foldl_cons, List.foldl_nil]
      cases hnext : coalesceNext inner window (coalesceProviderDeltas inner windows).2 with
      | none =>
          rw [coalesceProviderDeltas] at hnext ih
          rw [hnext]
          exact ih
      | some result =>
          rw [coalesceProviderDeltas] at hnext ih
          rw [hnext]
          exact ih.next hnext

example : (@coalesceProviderDeltas String Unit
    (fun i => [.ok (.textDelta "a"), .ok (.textDelta "b"), .error "gone", .ok (.textDelta "c")][i]?)
    [5, 5, 5, 5]).1.length = 3 := rfl

end Stream

end DevCommandCenter.Provider
