import DevCommandCenter.Remote.Coalesce
import Mathlib.Data.List.Induction
import Mathlib.Data.List.Nodup
import Mathlib.Order.MinMax

/-! What a phone has received when it resumes from the highest sequence it was sent. -/

namespace DevCommandCenter

open Library

inductive CoalescerCall
  | push (event : OutgoingEvent) (now : ℕ)
  | flush

/-- A coalescer with the events handed to it and the events it sent, both oldest first. -/
structure RelayStream where
  coalescer : DeltaCoalescer
  inputs : List OutgoingEvent
  sent : List OutgoingEvent

namespace RelayStream

def start (window : ℕ) : RelayStream where
  coalescer := .new window
  inputs := []
  sent := []

def step (stream : RelayStream) : CoalescerCall → RelayStream
  | .push event now =>
      { coalescer := (stream.coalescer.push event now).2
        inputs := stream.inputs ++ [event]
        sent := stream.sent ++ (stream.coalescer.push event now).1 }
  | .flush =>
      { coalescer := stream.coalescer.flush.2
        inputs := stream.inputs
        sent := stream.sent ++ stream.coalescer.flush.1 }

def run (window : ℕ) (calls : List CoalescerCall) : RelayStream :=
  calls.foldl step (start window)

end RelayStream

def SeqsIncrease (inputs : List OutgoingEvent) : Prop :=
  (∀ event ∈ inputs, event.seq.isSome) ∧ inputs.Pairwise fun a b => a.seq.getD 0 < b.seq.getD 0

def highestSeq (events : List OutgoingEvent) : Option ℕ :=
  (events.filterMap OutgoingEvent.seq).max?

def fragment (key : DeltaKey) (event : OutgoingEvent) : List Char :=
  if deltaKey event = some key then (content event key.variant).toList else []

def textOf (key : DeltaKey) (events : List OutgoingEvent) : List Char :=
  events.flatMap (fragment key)

def upTo (cursor : ℕ) (events : List OutgoingEvent) : List OutgoingEvent :=
  events.filter fun event => event.seq.getD 0 ≤ cursor

/-- Everything up to the cursor arrived: each item's text in order, and each other event. -/
def Covered (inputs received : List OutgoingEvent) (cursor : ℕ) : Prop :=
  (∀ key, textOf key (upTo cursor inputs) <+: textOf key received) ∧
  ∀ event ∈ upTo cursor inputs, deltaKey event = none → event ∈ received

def ResumeSafe (inputs sent : List OutgoingEvent) : Prop :=
  ∀ received, received <+: sent → ∀ cursor, highestSeq received = some cursor →
    Covered inputs received cursor

def laterSlots (key : DeltaKey) : List (DeltaKey × OutgoingEvent) → List (DeltaKey × OutgoingEvent)
  | [] => []
  | slot :: rest => if slot.1 = key then rest else laterSlots key rest

/-- A delta for an item that waits already finds no text in the slots opened after it. -/
def InOrder (pending : List (DeltaKey × OutgoingEvent)) : CoalescerCall → Prop
  | .push event _ => ∀ key ∈ deltaKey event, ∀ slot ∈ laterSlots key pending,
      content slot.2 slot.1.variant = ""
  | .flush => True

def EachInOrder (window : ℕ) (calls : List CoalescerCall) : Prop :=
  ∀ before call after, calls = before ++ call :: after →
    InOrder (RelayStream.run window before).coalescer.pending call

lemma textOf_append (key : DeltaKey) (a b : List OutgoingEvent) :
    textOf key (a ++ b) = textOf key a ++ textOf key b :=
  List.flatMap_append

lemma textOf_cons (key : DeltaKey) (event : OutgoingEvent) (events : List OutgoingEvent) :
    textOf key (event :: events) = fragment key event ++ textOf key events :=
  List.flatMap_cons

lemma textOf_eq_nil {key : DeltaKey} {events : List OutgoingEvent} :
    textOf key events = [] ↔ ∀ event ∈ events, fragment key event = [] :=
  List.flatMap_eq_nil_iff

lemma fragment_of_ne {key key' : DeltaKey} {event : OutgoingEvent} (h : deltaKey event = some key)
    (hne : key ≠ key') : fragment key' event = [] := by
  simp [fragment, h, hne]

lemma fragment_appendContent {key : DeltaKey} {merged event : OutgoingEvent}
    (hm : deltaKey merged = some key) (he : deltaKey event = some key) (key' : DeltaKey) :
    fragment key' (appendContent merged event key.variant) =
      fragment key' merged ++ fragment key' event := by
  have hmerged := deltaKey_appendContent hm event
  by_cases hkey : key = key'
  · subst hkey
    simp [fragment, hmerged, hm, he, content_appendContent hm]
  · rw [fragment_of_ne hmerged hkey, fragment_of_ne hm hkey, fragment_of_ne he hkey, List.append_nil]

lemma mem_of_highestSeq {events : List OutgoingEvent} {cursor : ℕ}
    (h : highestSeq events = some cursor) : ∃ event ∈ events, event.seq = some cursor :=
  List.mem_filterMap.mp (List.max?_eq_some_iff.mp h).1

lemma le_of_highestSeq {events : List OutgoingEvent} {cursor seq : ℕ} {event : OutgoingEvent}
    (h : highestSeq events = some cursor) (hmem : event ∈ events) (hseq : event.seq = some seq) :
    seq ≤ cursor :=
  (List.max?_eq_some_iff.mp h).2 seq (List.mem_filterMap.mpr ⟨event, hmem, hseq⟩)

lemma upTo_concat {inputs : List OutgoingEvent} {event : OutgoingEvent} {cursor : ℕ}
    (h : cursor < event.seq.getD 0) : upTo cursor (inputs ++ [event]) = upTo cursor inputs := by
  simp [upTo, h]

section Coverage

variable {inputs received line : List OutgoingEvent} {event : OutgoingEvent} {cursor : ℕ}

structure Complete (inputs received : List OutgoingEvent) : Prop where
  text : ∀ key, textOf key received = textOf key inputs
  others : ∀ event ∈ inputs, deltaKey event = none → event ∈ received

lemma Complete.covered (h : Complete inputs received) (hseqs : SeqsIncrease inputs) (cursor : ℕ) :
    Covered inputs received cursor := by
  refine ⟨fun key => ?_, fun event hevent => h.others event (List.mem_of_mem_filter hevent)⟩
  rw [h.text key]
  exact flatMap_prefix (take_by_seq hseqs.2 cursor) _

lemma Covered.concat_iff (h : cursor < event.seq.getD 0) :
    Covered (inputs ++ [event]) received cursor ↔ Covered inputs received cursor := by
  simp only [Covered, upTo_concat h]

lemma cursor_lt (hseqs : SeqsIncrease (inputs ++ [event]))
    (hline : ∀ sent ∈ line, ∃ input ∈ inputs, sent.seq = input.seq)
    (hreceived : ∀ sent ∈ received, sent ∈ line) (h : highestSeq received = some cursor) :
    cursor < event.seq.getD 0 := by
  obtain ⟨sent, hsent, hseq⟩ := mem_of_highestSeq h
  obtain ⟨input, hinput, heq⟩ := hline sent (hreceived sent hsent)
  have hlt := (List.pairwise_append.mp hseqs.2).2.2 input hinput event (List.mem_singleton_self _)
  rwa [← heq, hseq] at hlt

lemma ResumeSafe.of_shorter {sent : List OutgoingEvent} (h : ResumeSafe inputs line)
    (hsent : sent <+: line) : ResumeSafe inputs sent :=
  fun received hreceived => h received (hreceived.trans hsent)

lemma resumeSafe_concat_iff (hseqs : SeqsIncrease (inputs ++ [event]))
    (hline : ∀ sent ∈ line, ∃ input ∈ inputs, sent.seq = input.seq)
    (hcomplete : Complete (inputs ++ [event]) (line ++ [event])) :
    ResumeSafe (inputs ++ [event]) (line ++ [event]) ↔ ResumeSafe inputs line := by
  constructor
  · intro h received hreceived cursor hcursor
    have hlt := cursor_lt hseqs hline (fun _ hsent => hreceived.subset hsent) hcursor
    exact (Covered.concat_iff hlt).mp
      (h received (hreceived.trans (List.prefix_append _ _)) cursor hcursor)
  · intro h received hreceived cursor hcursor
    rcases List.prefix_concat_iff.mp hreceived with rfl | hreceived
    · exact hcomplete.covered hseqs cursor
    · have hlt := cursor_lt hseqs hline (fun _ hsent => hreceived.subset hsent) hcursor
      exact (Covered.concat_iff hlt).mpr (h received hreceived cursor hcursor)

lemma complete_cut {before after rest : List OutgoingEvent} {slot : OutgoingEvent}
    (htext : ∀ key, textOf key (before ++ slot :: after) = textOf key inputs)
    (hothers : ∀ input ∈ inputs, deltaKey input = none → input ∈ before)
    (hafter : ∀ key, textOf key after = []) (hrest : rest <+: after) :
    Complete inputs (before ++ slot :: rest) where
  text key := by
    have hrest_nil : textOf key rest = [] :=
      List.prefix_nil.mp (hafter key ▸ flatMap_prefix hrest _)
    rw [← htext key, textOf_append, textOf_append, textOf_cons, textOf_cons, hrest_nil, hafter key]
  others input hinput hnone := List.mem_append_left _ (hothers input hinput hnone)

lemma resumeSafe_merge_iff {before after : List OutgoingEvent} {slot merged : OutgoingEvent}
    (hseqs : SeqsIncrease (inputs ++ [event]))
    (hline : ∀ sent ∈ before ++ slot :: after, ∃ input ∈ inputs, sent.seq = input.seq)
    (hmerged : merged.seq = event.seq)
    (hbefore : ∀ input ∈ inputs ++ [event], deltaKey input = none → input ∈ before)
    (hold : ∀ key, textOf key (before ++ slot :: after) = textOf key inputs)
    (hnew : ∀ key, textOf key (before ++ merged :: after) = textOf key (inputs ++ [event])) :
    ResumeSafe (inputs ++ [event]) (before ++ merged :: after) ↔
      ResumeSafe inputs (before ++ slot :: after) ∧ ∀ key, textOf key after = [] := by
  obtain ⟨seq, hseq⟩ := Option.isSome_iff_exists.mp
    (hseqs.1 event (List.mem_append_right _ (List.mem_singleton_self _)))
  have hold_seqs : SeqsIncrease inputs :=
    ⟨fun e he => hseqs.1 e (List.mem_append_left _ he), (List.pairwise_append.mp hseqs.2).1⟩
  have hall : upTo seq (inputs ++ [event]) = inputs ++ [event] := by
    refine List.filter_eq_self.mpr fun input hinput => ?_
    rcases List.mem_append.mp hinput with hinput | hinput
    · have hlt := (List.pairwise_append.mp hseqs.2).2.2 input hinput event (List.mem_singleton_self _)
      rw [hseq] at hlt
      simpa using hlt.le
    · rw [List.mem_singleton.mp hinput, hseq]
      simp
  constructor
  · intro h
    -- the prefix that ends with the raised event already claims every input
    have hafter : ∀ key, textOf key after = [] := by
      intro key
      obtain ⟨cursor, hcursor⟩ : ∃ cursor, highestSeq (before ++ [merged]) = some cursor := by
        have hmem : seq ∈ (before ++ [merged]).filterMap OutgoingEvent.seq :=
          List.mem_filterMap.mpr ⟨merged, by simp, hmerged.trans hseq⟩
        exact Option.isSome_iff_exists.mp (List.isSome_max?_of_mem hmem)
      have hle := le_of_highestSeq hcursor (by simp) (hmerged.trans hseq)
      have hcovered := (h (before ++ [merged]) ⟨after, by simp⟩ cursor hcursor).1 key
      have hup : upTo cursor (inputs ++ [event]) = inputs ++ [event] := by
        refine List.filter_eq_self.mpr fun input hinput => ?_
        have hmem := hall ▸ hinput
        have hseq_le : input.seq.getD 0 ≤ seq := by simpa using List.of_mem_filter hmem
        simpa using hseq_le.trans hle
      rw [hup, ← hnew key, textOf_append, textOf_append, textOf_cons, textOf_cons,
        List.prefix_append_right_inj, List.prefix_append_right_inj] at hcovered
      exact List.prefix_nil.mp hcovered
    refine ⟨fun received hreceived cursor hcursor => ?_, hafter⟩
    rcases prefix_append_cons_iff.mp hreceived with hreceived | ⟨rest, rfl, hrest⟩
    · have hlt := cursor_lt hseqs hline
        (fun _ hsent => List.mem_append_left _ (hreceived.subset hsent)) hcursor
      exact (Covered.concat_iff hlt).mp
        (h received (hreceived.trans (List.prefix_append _ _)) cursor hcursor)
    · exact (complete_cut hold (fun input hinput => hbefore input (List.mem_append_left _ hinput))
        hafter hrest).covered hold_seqs cursor
  · rintro ⟨h, hafter⟩ received hreceived cursor hcursor
    rcases prefix_append_cons_iff.mp hreceived with hreceived | ⟨rest, rfl, hrest⟩
    · have hlt := cursor_lt hseqs hline
        (fun _ hsent => List.mem_append_left _ (hreceived.subset hsent)) hcursor
      exact (Covered.concat_iff hlt).mpr
        (h received (hreceived.trans (List.prefix_append _ _)) cursor hcursor)
    · exact (complete_cut hnew hbefore hafter hrest).covered hseqs cursor

end Coverage

lemma maxSeq_eq (a b : Option ℕ) : maxSeq a b = a ∨ maxSeq a b = b := by
  rcases a with _ | a <;> rcases b with _ | b <;> simp [maxSeq, le_total]

lemma maxSeq_of_lt {a b : Option ℕ} (h : a.getD 0 < b.getD 0) (hb : b.isSome) : maxSeq a b = b := by
  obtain ⟨n, rfl⟩ := Option.isSome_iff_exists.mp hb
  cases a with
  | none => rfl
  | some m => exact congrArg some (max_eq_right (le_of_lt h))

lemma forall_textOf_eq_nil_iff {slots : List (DeltaKey × OutgoingEvent)}
    (hslots : ∀ slot ∈ slots, deltaKey slot.2 = some slot.1) :
    (∀ key, textOf key (slots.map Prod.snd) = []) ↔
      ∀ slot ∈ slots, content slot.2 slot.1.variant = "" := by
  constructor
  · intro h slot hslot
    have hnil := textOf_eq_nil.mp (h slot.1) slot.2 (List.mem_map_of_mem hslot)
    simpa [fragment, hslots slot hslot] using hnil
  · intro h key
    rw [textOf_eq_nil]
    intro event hevent
    obtain ⟨slot, hslot, rfl⟩ := List.mem_map.mp hevent
    by_cases hkey : slot.1 = key
    · subst hkey
      simp [fragment, hslots slot hslot, h slot hslot]
    · exact fragment_of_ne (hslots slot hslot) hkey

namespace DeltaCoalescer

lemma absorb_cases (key : DeltaKey) (event : OutgoingEvent)
    (pending : List (DeltaKey × OutgoingEvent)) :
    (key ∉ pending.map Prod.fst ∧ laterSlots key pending = [] ∧
      absorb key event pending = pending ++ [(key, event)]) ∨
    ∃ before merged, pending = before ++ (key, merged) :: laterSlots key pending ∧
      absorb key event pending =
        before ++ (key, appendContent merged event key.variant) :: laterSlots key pending := by
  induction pending with
  | nil => exact .inl ⟨by simp, rfl, rfl⟩
  | cons slot rest ih =>
      obtain ⟨name, merged⟩ := slot
      by_cases hname : name = key
      · subst hname
        exact .inr ⟨[], merged, by simp [laterSlots], by simp [absorb, laterSlots]⟩
      · simp only [laterSlots, absorb, hname, if_false]
        rcases ih with ⟨hkey, hlater, habsorb⟩ | ⟨before, merged', hrest, habsorb⟩
        · refine .inl ⟨?_, hlater, by rw [habsorb, List.cons_append]⟩
          simpa [Ne.symm hname] using hkey
        · refine .inr ⟨(name, merged) :: before, merged', ?_, ?_⟩
          · rw [List.cons_append, ← hrest]
          · rw [habsorb, List.cons_append]

end DeltaCoalescer

namespace RelayStream

def line (stream : RelayStream) : List OutgoingEvent :=
  stream.sent ++ stream.coalescer.pending.map Prod.snd

structure Invariant (stream : RelayStream) : Prop where
  slots : ∀ slot ∈ stream.coalescer.pending, deltaKey slot.2 = some slot.1
  keys : (stream.coalescer.pending.map Prod.fst).Nodup
  text : ∀ key, textOf key stream.line = textOf key stream.inputs
  others : ∀ event ∈ stream.inputs, deltaKey event = none → event ∈ stream.sent
  seqs : ∀ sent ∈ stream.line, ∃ input ∈ stream.inputs, sent.seq = input.seq

lemma start_invariant (window : ℕ) : (start window).Invariant where
  slots := by simp [start, DeltaCoalescer.new]
  keys := by simp [start, DeltaCoalescer.new]
  text := by simp [start, DeltaCoalescer.new, line]
  others := by simp [start]
  seqs := by simp [start, DeltaCoalescer.new, line]

lemma run_concat (window : ℕ) (calls : List CoalescerCall) (call : CoalescerCall) :
    run window (calls ++ [call]) = (run window calls).step call := by
  simp [run]

@[simp] lemma inputs_push (stream : RelayStream) (event : OutgoingEvent) (now : ℕ) :
    (stream.step (.push event now)).inputs = stream.inputs ++ [event] := rfl

lemma line_flush (stream : RelayStream) : (stream.step .flush).line = stream.line := by
  simp [line, step, DeltaCoalescer.flush]

lemma line_push_other {stream : RelayStream} {event : OutgoingEvent} (h : deltaKey event = none)
    (now : ℕ) : (stream.step (.push event now)).line = stream.line ++ [event] := by
  simp [line, step, DeltaCoalescer.push, h, DeltaCoalescer.flush]

lemma line_push_delta {stream : RelayStream} {event : OutgoingEvent} {key : DeltaKey}
    (h : deltaKey event = some key) (now : ℕ) :
    (stream.step (.push event now)).line = stream.sent ++
      (DeltaCoalescer.absorb key event stream.coalescer.pending).map Prod.snd := by
  simp only [line, step, DeltaCoalescer.push, h]
  split
  · simp [DeltaCoalescer.flush]
  · simp

section Absorb

variable {key : DeltaKey} {event : OutgoingEvent} {pending : List (DeltaKey × OutgoingEvent)}

lemma absorb_slots (hslots : ∀ slot ∈ pending, deltaKey slot.2 = some slot.1)
    (hevent : deltaKey event = some key) :
    ∀ slot ∈ DeltaCoalescer.absorb key event pending, deltaKey slot.2 = some slot.1 := by
  intro slot hslot
  rcases DeltaCoalescer.absorb_cases key event pending with
    ⟨-, -, habsorb⟩ | ⟨before, merged, hpending, habsorb⟩
  · rw [habsorb, List.mem_append, List.mem_singleton] at hslot
    rcases hslot with hslot | rfl
    · exact hslots slot hslot
    · exact hevent
  · rw [habsorb, List.mem_append, List.mem_cons] at hslot
    have hmerged : deltaKey merged = some key := hslots (key, merged) (by rw [hpending]; simp)
    rcases hslot with hslot | rfl | hslot
    · exact hslots slot (by rw [hpending]; exact List.mem_append_left _ hslot)
    · exact deltaKey_appendContent hmerged event
    · exact hslots slot (by rw [hpending]; simp [hslot])

lemma absorb_keys (hkeys : (pending.map Prod.fst).Nodup) :
    ((DeltaCoalescer.absorb key event pending).map Prod.fst).Nodup := by
  rcases DeltaCoalescer.absorb_cases key event pending with
    ⟨hkey, -, habsorb⟩ | ⟨before, merged, hpending, habsorb⟩
  · rw [habsorb, List.map_append]
    exact List.Nodup.append hkeys (List.nodup_singleton _) (by simpa using hkey)
  · rw [habsorb]
    rw [hpending] at hkeys
    simpa using hkeys

lemma textOf_later {before later : List (DeltaKey × OutgoingEvent)} {merged : OutgoingEvent}
    (hslots : ∀ slot ∈ before ++ (key, merged) :: later, deltaKey slot.2 = some slot.1)
    (hkeys : ((before ++ (key, merged) :: later).map Prod.fst).Nodup) :
    textOf key (later.map Prod.snd) = [] := by
  rw [List.map_append, List.map_cons] at hkeys
  have hnot := (List.nodup_cons.mp (List.nodup_append.mp hkeys).2.1).1
  rw [textOf_eq_nil]
  intro event hevent
  obtain ⟨slot, hslot, rfl⟩ := List.mem_map.mp hevent
  exact fragment_of_ne (hslots slot (by simp [hslot])) fun heq =>
    hnot (List.mem_map.mpr ⟨slot, hslot, heq⟩)

lemma textOf_absorb (hslots : ∀ slot ∈ pending, deltaKey slot.2 = some slot.1)
    (hkeys : (pending.map Prod.fst).Nodup) (hevent : deltaKey event = some key) (key' : DeltaKey) :
    textOf key' ((DeltaCoalescer.absorb key event pending).map Prod.snd) =
      textOf key' (pending.map Prod.snd) ++ fragment key' event := by
  rcases DeltaCoalescer.absorb_cases key event pending with
    ⟨-, -, habsorb⟩ | ⟨before, merged, hpending, habsorb⟩
  · rw [habsorb, List.map_append, textOf_append]
    simp [textOf]
  · have hmerged : deltaKey merged = some key := hslots (key, merged) (by rw [hpending]; simp)
    have hlater := textOf_later (hpending ▸ hslots) (hpending ▸ hkeys)
    rw [habsorb]
    conv_rhs => rw [hpending]
    simp only [List.map_append, List.map_cons, textOf_append, textOf_cons,
      fragment_appendContent hmerged hevent, List.append_assoc]
    by_cases hkey : key = key'
    · subst hkey
      simp [hlater]
    · simp [fragment_of_ne hevent hkey]

lemma absorb_seqs {inputs : List OutgoingEvent}
    (hseqs : ∀ sent ∈ pending.map Prod.snd, ∃ input ∈ inputs, sent.seq = input.seq) :
    ∀ sent ∈ (DeltaCoalescer.absorb key event pending).map Prod.snd,
      ∃ input ∈ inputs ++ [event], sent.seq = input.seq := by
  have hkeep : ∀ sent ∈ pending.map Prod.snd, ∃ input ∈ inputs ++ [event], sent.seq = input.seq := by
    intro sent hsent
    obtain ⟨input, hinput, heq⟩ := hseqs sent hsent
    exact ⟨input, List.mem_append_left _ hinput, heq⟩
  intro sent hsent
  rcases DeltaCoalescer.absorb_cases key event pending with
    ⟨-, -, habsorb⟩ | ⟨before, merged, hpending, habsorb⟩
  · rw [habsorb, List.map_append, List.mem_append] at hsent
    rcases hsent with hsent | hsent
    · exact hkeep sent hsent
    · exact ⟨event, by simp, by simpa using congrArg OutgoingEvent.seq (List.mem_singleton.mp hsent)⟩
  · rw [habsorb] at hsent
    simp only [List.map_append, List.map_cons, List.mem_append, List.mem_cons] at hsent
    rcases hsent with hsent | rfl | hsent
    · exact hkeep sent (by rw [hpending]; simp only [List.map_append, List.mem_append, hsent, true_or])
    · obtain ⟨input, hinput, heq⟩ := hkeep merged (by rw [hpending]; simp)
      rcases maxSeq_eq merged.seq event.seq with hmax | hmax
      · exact ⟨input, hinput, hmax.trans heq⟩
      · exact ⟨event, by simp, hmax⟩
    · exact hkeep sent (by
        rw [hpending]
        simp only [List.map_append, List.map_cons, List.mem_append, List.mem_cons, hsent, or_true])

end Absorb

lemma step_invariant {stream : RelayStream} (h : stream.Invariant) (call : CoalescerCall) :
    (stream.step call).Invariant := by
  cases call with
  | flush =>
      exact {
        slots := by simp [step, DeltaCoalescer.flush]
        keys := by simp [step, DeltaCoalescer.flush]
        text := fun key => by rw [line_flush]; exact h.text key
        others := fun event hevent hnone => List.mem_append_left _ (h.others event hevent hnone)
        seqs := by rw [line_flush]; exact h.seqs }
  | push event now =>
      cases hkey : deltaKey event with
      | none =>
          exact {
            slots := by simp [step, DeltaCoalescer.push, hkey, DeltaCoalescer.flush]
            keys := by simp [step, DeltaCoalescer.push, hkey, DeltaCoalescer.flush]
            text := fun key => by
              rw [line_push_other hkey, step, textOf_append, textOf_append, h.text key]
            others := by
              intro other hother hnone
              simp only [step, DeltaCoalescer.push, hkey]
              rcases List.mem_append.mp hother with hother | hother
              · exact List.mem_append_left _ (h.others other hother hnone)
              · exact List.mem_append_right _ (List.mem_append_right _ hother)
            seqs := by
              intro sent hsent
              rw [line_push_other hkey, List.mem_append] at hsent
              rcases hsent with hsent | hsent
              · obtain ⟨input, hinput, heq⟩ := h.seqs sent hsent
                exact ⟨input, List.mem_append_left _ hinput, heq⟩
              · exact ⟨event, List.mem_append_right _ (List.mem_singleton_self _),
                  congrArg _ (List.mem_singleton.mp hsent)⟩ }
      | some key =>
          have hpending : (stream.step (.push event now)).coalescer.pending = [] ∨
              (stream.step (.push event now)).coalescer.pending =
                DeltaCoalescer.absorb key event stream.coalescer.pending := by
            simp only [step, DeltaCoalescer.push, hkey]
            split
            · exact .inl rfl
            · exact .inr rfl
          exact {
            slots := by
              rcases hpending with hp | hp
              · rw [hp]; simp
              · rw [hp]; exact absorb_slots h.slots hkey
            keys := by
              rcases hpending with hp | hp
              · rw [hp]; exact List.nodup_nil
              · rw [hp]; exact absorb_keys h.keys
            text := fun key' => by
              rw [line_push_delta hkey, textOf_append, textOf_absorb h.slots h.keys hkey, step,
                textOf_append, ← h.text key', line, textOf_append, List.append_assoc]
              simp [textOf]
            others := by
              intro other hother hnone
              rcases List.mem_append.mp hother with hother | hother
              · exact List.mem_append_left _ (h.others other hother hnone)
              · rw [List.mem_singleton.mp hother, hkey] at hnone
                cases hnone
            seqs := by
              intro sent hsent
              rw [line_push_delta hkey, List.mem_append] at hsent
              rcases hsent with hsent | hsent
              · obtain ⟨input, hinput, heq⟩ := h.seqs sent (List.mem_append_left _ hsent)
                exact ⟨input, List.mem_append_left _ hinput, heq⟩
              · exact absorb_seqs (fun waiting hwaiting =>
                  h.seqs waiting (List.mem_append_right _ hwaiting)) sent hsent }

lemma run_invariant (window : ℕ) (calls : List CoalescerCall) : (run window calls).Invariant := by
  induction calls using List.reverseRecOn with
  | nil => exact start_invariant window
  | append_singleton calls call ih =>
      rw [run_concat]
      exact step_invariant ih call

lemma step_resumeSafe_iff {stream : RelayStream} (h : stream.Invariant) (call : CoalescerCall)
    (hseqs : SeqsIncrease (stream.step call).inputs) :
    ResumeSafe (stream.step call).inputs (stream.step call).line ↔
      ResumeSafe stream.inputs stream.line ∧ InOrder stream.coalescer.pending call := by
  have hnext := step_invariant h call
  cases call with
  | flush =>
      rw [line_flush]
      exact (and_iff_left trivial).symm
  | push event now =>
      cases hkey : deltaKey event with
      | none =>
          rw [line_push_other hkey]
          have hcomplete : Complete (stream.inputs ++ [event]) (stream.line ++ [event]) :=
            ⟨fun key => line_push_other hkey now ▸ hnext.text key, fun other hother hnone =>
              line_push_other hkey now ▸ List.mem_append_left _ (hnext.others other hother hnone)⟩
          simpa [InOrder, hkey] using resumeSafe_concat_iff hseqs h.seqs hcomplete
      | some key =>
          have htext := hnext.text
          have hothers : ∀ input ∈ stream.inputs ++ [event], deltaKey input = none →
              input ∈ stream.sent := by
            intro other hother hnone
            rcases List.mem_append.mp hother with hother | hother
            · exact h.others other hother hnone
            · rw [List.mem_singleton.mp hother, hkey] at hnone
              cases hnone
          simp only [line_push_delta hkey, inputs_push] at htext ⊢
          rcases DeltaCoalescer.absorb_cases key event stream.coalescer.pending with
            ⟨-, hlater, habsorb⟩ | ⟨before, merged, hpending, habsorb⟩
          · -- a new slot opens at the end of the line
            have hline : stream.sent ++ (stream.coalescer.pending ++ [(key, event)]).map Prod.snd =
                stream.line ++ [event] := by simp [line]
            simp only [habsorb, hline] at htext ⊢
            have hcomplete : Complete (stream.inputs ++ [event]) (stream.line ++ [event]) :=
              ⟨htext, fun other hother hnone =>
                List.mem_append_left _ (List.mem_append_left _ (hothers other hother hnone))⟩
            simpa [InOrder, hkey, hlater] using resumeSafe_concat_iff hseqs h.seqs hcomplete
          · -- the slot of the key takes the fragment and the newest sequence
            have hline : stream.line = (stream.sent ++ before.map Prod.snd) ++
                merged :: (laterSlots key stream.coalescer.pending).map Prod.snd := by
              rw [line]
              conv_lhs => rw [hpending]
              simp
            have hline' : stream.sent ++ (before ++ (key, appendContent merged event key.variant) ::
                laterSlots key stream.coalescer.pending).map Prod.snd =
                (stream.sent ++ before.map Prod.snd) ++ appendContent merged event key.variant ::
                  (laterSlots key stream.coalescer.pending).map Prod.snd := by simp
            simp only [habsorb, hline'] at htext ⊢
            have hseq : (appendContent merged event key.variant).seq = event.seq := by
              obtain ⟨input, hinput, heq⟩ := h.seqs merged (by rw [hline]; simp)
              have hlt := (List.pairwise_append.mp hseqs.2).2.2 input hinput event
                (List.mem_singleton_self _)
              rw [← heq] at hlt
              have hsome := hseqs.1 event (List.mem_append_right _ (List.mem_singleton_self _))
              exact maxSeq_of_lt hlt hsome
            have hbefore : ∀ input ∈ stream.inputs ++ [event], deltaKey input = none →
                input ∈ stream.sent ++ before.map Prod.snd :=
              fun input hinput hnone => List.mem_append_left _ (hothers input hinput hnone)
            have hmerge := resumeSafe_merge_iff hseqs (hline ▸ h.seqs) hseq hbefore
              (hline ▸ h.text) htext
            rw [hmerge, ← hline]
            have hslots : ∀ slot ∈ laterSlots key stream.coalescer.pending,
                deltaKey slot.2 = some slot.1 :=
              fun slot hslot => h.slots slot (by rw [hpending]; simp [hslot])
            refine and_congr_right fun _ => ?_
            simpa [InOrder, hkey] using forall_textOf_eq_nil_iff hslots

lemma eachInOrder_concat_iff (window : ℕ) (calls : List CoalescerCall) (call : CoalescerCall) :
    EachInOrder window (calls ++ [call]) ↔
      EachInOrder window calls ∧ InOrder (run window calls).coalescer.pending call := by
  constructor
  · intro h
    refine ⟨fun before call' after heq => h before call' (after ++ [call]) (by simp [heq]), ?_⟩
    exact h calls call [] rfl
  · rintro ⟨h, hlast⟩ before call' after heq
    induction after using List.reverseRecOn with
    | nil =>
        obtain ⟨rfl, hcall⟩ := List.append_inj' heq rfl
        cases hcall
        exact hlast
    | append_singleton after last _ =>
        rw [← List.cons_append, ← List.append_assoc] at heq
        exact h before call' after (List.append_inj' heq rfl).1

lemma seqsIncrease_of_step {stream : RelayStream} {call : CoalescerCall}
    (h : SeqsIncrease (stream.step call).inputs) : SeqsIncrease stream.inputs := by
  cases call with
  | flush => exact h
  | push event now =>
      exact ⟨fun e he => h.1 e (List.mem_append_left _ he), (List.pairwise_append.mp h.2).1⟩

lemma run_resumeSafe_iff (window : ℕ) (calls : List CoalescerCall)
    (hseqs : SeqsIncrease (run window calls).inputs) :
    ResumeSafe (run window calls).inputs (run window calls).line ↔ EachInOrder window calls := by
  induction calls using List.reverseRecOn with
  | nil =>
      refine iff_of_true ?_ fun before call after heq => by simp at heq
      intro received hreceived cursor hcursor
      have hnil : received = [] := by
        simpa [run, start, line, DeltaCoalescer.new] using hreceived
      rw [hnil] at hcursor
      cases hcursor
  | append_singleton calls call ih =>
      rw [run_concat] at hseqs ⊢
      rw [step_resumeSafe_iff (run_invariant window calls) call hseqs,
        ih (seqsIncrease_of_step hseqs), eachInOrder_concat_iff]

end RelayStream

/-- Every run in order is safe to resume after each event it sent, and a run that ends with a flush
is safe only when it was in order. -/
theorem resume_safe_iff_each_in_order (window : ℕ) (calls : List CoalescerCall)
    (hseqs : SeqsIncrease (RelayStream.run window calls).inputs) :
    (EachInOrder window calls →
      ResumeSafe (RelayStream.run window calls).inputs (RelayStream.run window calls).sent) ∧
    (ResumeSafe (RelayStream.run window (calls ++ [.flush])).inputs
        (RelayStream.run window (calls ++ [.flush])).sent ↔ EachInOrder window calls) := by
  have hline := RelayStream.run_resumeSafe_iff window calls hseqs
  have hflush : (RelayStream.run window (calls ++ [.flush])).sent =
      (RelayStream.run window calls).line := by
    rw [RelayStream.run_concat]
    rfl
  refine ⟨fun h => (hline.mpr h).of_shorter (List.prefix_append _ _), ?_⟩
  rw [hflush, ← hline, RelayStream.run_concat]
  rfl

section Interleaved

def demoDelta (messageId content : String) (seq : ℕ) : OutgoingEvent where
  event := "core-event"
  data := .object [("sessionTurnAssistantMessageDelta", .object [("session_id", .string "s1"),
    ("turn_id", .string "t1"), ("message_id", .string messageId), ("content", .string content)])]
  seq := some seq

def demoInterleaved : List CoalescerCall :=
  [.push (demoDelta "m1" "a" 1) 0, .push (demoDelta "m2" "x" 2) 10, .push (demoDelta "m1" "b" 3) 20]

def demoOrdered : List CoalescerCall :=
  [.push (demoDelta "m1" "a" 1) 0, .push (demoDelta "m1" "b" 2) 10, .push (demoDelta "m2" "x" 3) 20]

lemma demoOrdered_inOrder : EachInOrder 150 demoOrdered := by
  have hcalls : demoOrdered = [] ++ [.push (demoDelta "m1" "a" 1) 0] ++
      [.push (demoDelta "m1" "b" 2) 10] ++ [.push (demoDelta "m2" "x" 3) 20] := rfl
  rw [hcalls, RelayStream.eachInOrder_concat_iff, RelayStream.eachInOrder_concat_iff,
    RelayStream.eachInOrder_concat_iff]
  refine ⟨⟨⟨fun before call after heq => by simp at heq, ?_⟩, ?_⟩, ?_⟩
  · exact show ∀ key ∈ deltaKey _, ∀ slot ∈ laterSlots key _, _ by decide
  · exact show ∀ key ∈ deltaKey _, ∀ slot ∈ laterSlots key _, _ by decide
  · exact show ∀ key ∈ deltaKey _, ∀ slot ∈ laterSlots key _, _ by decide

theorem resume_safe_of_demoOrdered :
    ResumeSafe (RelayStream.run 150 demoOrdered).inputs
      (RelayStream.run 150 (demoOrdered ++ [.flush])).sent :=
  (resume_safe_iff_each_in_order 150 demoOrdered ⟨by decide, by decide⟩).2.mpr demoOrdered_inOrder

theorem demoInterleaved_not_resume_safe :
    SeqsIncrease (RelayStream.run 150 (demoInterleaved ++ [.flush])).inputs ∧
    ¬ResumeSafe (RelayStream.run 150 (demoInterleaved ++ [.flush])).inputs
      (RelayStream.run 150 (demoInterleaved ++ [.flush])).sent := by
  refine ⟨⟨by decide, by decide⟩, fun h => ?_⟩
  have hcovered := h ((RelayStream.run 150 (demoInterleaved ++ [.flush])).sent.take 1)
    (List.take_prefix _ _) 3 (by decide)
  have htext := hcovered.1 ⟨"sessionTurnAssistantMessageDelta", "s1", "m2"⟩
  revert htext
  decide

end Interleaved

end DevCommandCenter
