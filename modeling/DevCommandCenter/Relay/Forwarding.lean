import DevCommandCenter.Relay.Lines
import Mathlib.Data.List.TakeWhile

/-! What the relay forwards: the frames of each phone to its data connections, the frames of the data
connections to their phone, and nothing across. -/

namespace DevCommandCenter.Relay

open Library

def accepted (id : String) (history : List Entry) : List Frame :=
  (history.takeWhile fun e => !limits id e).flatMap (sent (.phone id))

def owner (e : Entry) : Option String :=
  match e.action with
  | .openData _ id => some id
  | .message i _ _ | .dropped i | .webSocketClose i _ _ | .webSocketError i =>
      (e.before.attachment i).bind Attachment.id?
  | .openControl _ _ | .openPhone _ _ | .alarm _ => none

def Effect.target : Effect → Option ℕ
  | .send j _ => some j
  | .close j _ _ => some j
  | _ => none

/-- No frame or close of one connection id reaches a socket of another. -/
def KeepsApart (e : Entry) : Prop :=
  (∀ j frame, Effect.send j (.binary frame) ∈ e.answer → (owner e).isSome) ∧
    ∀ id, owner e = some id → ∀ effect ∈ e.answer, ∀ j, effect.target = some j →
      ∀ a id', e.after.attachment j = some a → a.id? = some id' → id' = id

structure ForwardsExactly (history : List Entry) : Prop where
  toData : ∀ id, history.flatMap (delivered (.data id)) <+: accepted id history
  toPhone : ∀ id, history.flatMap (delivered (.phone id)) = history.flatMap (sent (.data id))
  apart : ∀ e ∈ history, KeepsApart e

def QuietAfterLimit (id : String) (history : List Entry) : Prop :=
  ∀ l₁ e l₂, history = l₁ ++ e :: l₂ → limits id e = true → ∀ e' ∈ l₂, sent (.phone id) e' = []

/-- The frames of the data connections that are within the limit and find the phone connected. -/
def due (id : String) (e : Entry) : List Frame :=
  (sent (.data id) e).filter fun frame =>
    decide (frame.length ≤ maxFrameBytes) && !(e.before.getWebSockets (.phone id)).isEmpty

structure Forwards (history : List Entry) : Prop where
  inOrder : ∀ id,
    (history.flatMap (delivered (.data id))).Sublist (history.flatMap (sent (.phone id)))
  toData : ∀ id, QuietAfterLimit id history →
    history.flatMap (delivered (.data id)) <+: accepted id history
  toPhone : ∀ id, history.flatMap (delivered (.phone id)) = history.flatMap (due id)
  apart : ∀ e ∈ history, KeepsApart e

variable {sha256Hex : String → String} {history : List Entry} {room s t : Room} {event : Event}
  {effects : List Effect} {e : Entry} {id : String}

section Accounts

lemma accepted_append (id : String) (history : List Entry) (e : Entry) :
    accepted id (history ++ [e]) =
      if history.any (limits id) then accepted id history
      else history.flatMap (sent (.phone id)) ++ if limits id e then [] else sent (.phone id) e := by
  unfold accepted
  split
  · next h =>
    obtain ⟨e', he', hlimits⟩ := List.any_eq_true.mp h
    rw [List.takeWhile_append, if_neg]
    intro hlength
    have hall := List.takeWhile_eq_self_iff.mp
      ((List.takeWhile_prefix fun e => !limits id e).eq_of_length hlength)
    simpa [hlimits] using hall e' he'
  · next h =>
    have hall : ∀ e' ∈ history, (!limits id e') = true := by
      intro e' he'
      simpa using fun hlimits => h (List.any_eq_true.mpr ⟨e', he', hlimits⟩)
    rw [List.takeWhile_append_of_pos hall, List.flatMap_append]
    cases hlimits : limits id e <;> simp [hlimits]

lemma accepted_of_unlimited (h : history.any (limits id) = false) :
    accepted id history = history.flatMap (sent (.phone id)) := by
  rw [accepted, List.takeWhile_eq_self_iff.mpr]
  intro e he
  simpa using List.any_eq_false.mp h e he

lemma accepted_same (h : sent (.phone id) e = [] ∨ limits id e = true) :
    accepted id (history ++ [e]) = accepted id history := by
  rw [accepted_append]
  split
  · rfl
  · next hlimits =>
    rw [accepted_of_unlimited (by simpa using hlimits)]
    rcases h with h | h <;> simp [h]

lemma prefix_accepted (id : String) (history : List Entry) (e : Entry) :
    accepted id history <+: accepted id (history ++ [e]) := by
  rw [accepted_append]
  split
  · exact List.prefix_rfl
  · next hlimits =>
    rw [accepted_of_unlimited (by simpa using hlimits)]
    exact List.prefix_append _ _

lemma QuietAfterLimit.init (h : QuietAfterLimit id (history ++ [e])) :
    QuietAfterLimit id history := by
  rintro l₁ e₁ l₂ rfl hlimits e' he'
  exact h l₁ e₁ (l₂ ++ [e]) (by simp) hlimits e' (List.mem_append_left _ he')

lemma QuietAfterLimit.last (h : QuietAfterLimit id (history ++ [e])) {frame : Frame}
    (hsent : sent (.phone id) e = [frame]) : history.any (limits id) = false := by
  rw [List.any_eq_false]
  intro e₁ he₁ hlimits
  obtain ⟨l₁, l₂, rfl⟩ := List.append_of_mem he₁
  have hnone := h l₁ e₁ (l₂ ++ [e]) (by simp) hlimits e (by simp)
  rw [hsent] at hnone
  cases hnone

structure LineAccount (id : String) (history : List Entry) (room : Room) : Prop where
  unused : ¬used room id → room.waiting id = [] ∧ ¬dataOpen room id ∧
    history.flatMap (sent (.phone id)) = [] ∧ history.any (limits id) = false
  direct : dataOpen room id → room.waiting id = []
  inOrder : (history.flatMap (delivered (.data id)) ++ room.waiting id).Sublist
    (history.flatMap (sent (.phone id)))
  whole : phoneOpen room id → history.any (limits id) = false ∧
    history.flatMap (delivered (.data id)) ++ room.waiting id = history.flatMap (sent (.phone id))
  upToDate : QuietAfterLimit id history → dataOpen room id →
    history.flatMap (delivered (.data id)) = accepted id history
  toData : QuietAfterLimit id history →
    history.flatMap (delivered (.data id)) <+: accepted id history

lemma empty_closed {i : ℕ} {a : Attachment} : ¬OpenIn Room.empty.sockets i a := by
  rintro ⟨socket, hsocket, -⟩
  cases hsocket

lemma LineAccount.start (id : String) : LineAccount id [] Room.empty where
  unused _ := ⟨rfl, fun ⟨_, hi⟩ => empty_closed hi, rfl, rfl⟩
  direct := fun ⟨_, hi⟩ => absurd hi empty_closed
  inOrder := List.Sublist.refl _
  whole := fun ⟨_, hi⟩ => absurd hi empty_closed
  upToDate := fun _ ⟨_, hi⟩ => absurd hi empty_closed
  toData _ := List.prefix_rfl

lemma LineAccount.step (h : LineAccount id history e.before) (hline : LineStep id e)
    (hused : used e.before id → used e.after id) : LineAccount id (history ++ [e]) e.after := by
  have hcontra : used e.before id → ¬used e.after id → False := fun hb ha => ha (hused hb)
  cases hline with
  | still hsent hdelivered hlimits hshrinks =>
      have haccepted : accepted id (history ++ [e]) = accepted id history := accepted_same (.inl hsent)
      refine ⟨fun hnot => ?_, fun hdata => ?_, ?_, fun hphone => ?_, fun hquiet hdata => ?_,
        fun hquiet => ?_⟩
      · obtain ⟨hwaiting, hdata, hall, hnone⟩ := h.unused fun hb => hcontra hb hnot
        refine ⟨?_, fun hopen => hdata (hshrinks.data hopen), by simp [hall, hsent],
          by simp [hnone, hlimits]⟩
        rcases hshrinks.waiting with hkept | ⟨hlost, -⟩
        · rw [hkept, hwaiting]
        · exact hlost
      · rcases hshrinks.waiting with hkept | ⟨hlost, -⟩
        · rw [hkept, h.direct (hshrinks.data hdata)]
        · exact hlost
      · rw [List.flatMap_append, List.flatMap_append, List.flatMap_singleton, List.flatMap_singleton,
          hsent, hdelivered, List.append_nil, List.append_nil]
        rcases hshrinks.waiting with hkept | ⟨hlost, -⟩
        · rw [hkept]
          exact h.inOrder
        · rw [hlost, List.append_nil]
          exact (List.sublist_append_left _ _).trans h.inOrder
      · obtain ⟨hnone, hwhole⟩ := h.whole (hshrinks.phone hphone)
        refine ⟨by simp [hnone, hlimits], ?_⟩
        rcases hshrinks.waiting with hkept | ⟨-, hclosed, -⟩
        · rw [hkept]
          simpa [hsent, hdelivered] using hwhole
        · exact absurd hphone hclosed
      · rw [haccepted]
        simpa [hdelivered] using h.upToDate hquiet.init (hshrinks.data hdata)
      · rw [haccepted]
        simpa [hdelivered] using h.toData hquiet.init
  | connected hnew hsent hdelivered hlimits hdata hwaiting =>
      obtain ⟨hnothing, hclosed, hall, hnone⟩ := h.unused hnew
      have hkept := h.inOrder
      rw [hall, List.sublist_nil, List.append_eq_nil_iff] at hkept
      have hclosed' : ¬dataOpen e.after id := fun hopen => hclosed (hdata hopen)
      have hwaiting' : e.after.waiting id = [] := hwaiting.trans hnothing
      refine ⟨fun _ => ⟨hwaiting', hclosed', by simp [hall, hsent], by simp [hnone, hlimits]⟩,
        fun hopen => absurd hopen hclosed', ?_, fun _ => ⟨by simp [hnone, hlimits], ?_⟩,
        fun _ hopen => absurd hopen hclosed', fun _ => ?_⟩
      · simp [hkept.1, hdelivered, hwaiting']
      · simp [hkept.1, hdelivered, hwaiting', hall, hsent]
      · simp [hkept.1, hdelivered]
  | opened hphone hsent hdelivered hlimits hwaiting =>
      obtain ⟨hnone, hwhole⟩ := h.whole hphone
      have haccepted : accepted id (history ++ [e]) = history.flatMap (sent (.phone id)) := by
        rw [accepted_same (.inl hsent), accepted_of_unlimited hnone]
      have hflushed : (history ++ [e]).flatMap (delivered (.data id)) =
          history.flatMap (sent (.phone id)) := by
        rw [List.flatMap_append, List.flatMap_singleton, hdelivered, hwhole]
      have hsame : (history ++ [e]).flatMap (sent (.phone id)) =
          history.flatMap (sent (.phone id)) := by
        rw [List.flatMap_append, List.flatMap_singleton, hsent, List.append_nil]
      refine ⟨fun hnot => absurd (used_of_phoneOpen hphone) fun hb => hcontra hb hnot,
        fun _ => hwaiting, ?_, fun _ => ⟨by simp [hnone, hlimits], ?_⟩, fun _ _ => ?_, fun _ => ?_⟩
      · rw [hflushed, hsame, hwaiting, List.append_nil]
      · rw [hflushed, hsame, hwaiting, List.append_nil]
      · rw [hflushed, haccepted]
      · have hall := hflushed.trans haccepted.symm
        exact hall ▸ List.prefix_rfl
  | forwarded frame hb hdata hsent hdelivered hlimits hshrinks hwaiting =>
      have hempty := h.direct hdata
      have hupToDate : QuietAfterLimit id (history ++ [e]) →
          (history ++ [e]).flatMap (delivered (.data id)) = accepted id (history ++ [e]) := by
        intro hquiet
        have hnone := hquiet.last hsent
        rw [accepted_append, hnone, if_neg (by simp), hlimits, if_neg (by simp), List.flatMap_append,
          List.flatMap_singleton, hdelivered, hsent, h.upToDate hquiet.init hdata,
          accepted_of_unlimited hnone]
      refine ⟨fun hnot => (hcontra hb hnot).elim, fun _ => by rw [hwaiting, hempty], ?_,
        fun hphone => ?_, fun hquiet _ => hupToDate hquiet,
        fun hquiet => hupToDate hquiet ▸ List.prefix_rfl⟩
      · have horder := h.inOrder
        rw [hempty, List.append_nil] at horder
        simpa [hdelivered, hsent, hwaiting, hempty] using horder
      · obtain ⟨hnone, hwhole⟩ := h.whole (hshrinks.phone hphone)
        rw [hempty, List.append_nil] at hwhole
        refine ⟨by simp [hnone, hlimits], ?_⟩
        simpa [hdelivered, hsent, hwaiting, hempty] using hwhole
  | kept frame hb hdata hsent hdelivered hlimits hphone hdata' hwaiting =>
      refine ⟨fun hnot => (hcontra hb hnot).elim, fun hopen => absurd hopen hdata', ?_,
        fun hopen => ?_, fun _ hopen => absurd hopen hdata', fun hquiet => ?_⟩
      · rw [hwaiting, List.flatMap_append, List.flatMap_append, List.flatMap_singleton,
          List.flatMap_singleton, hdelivered, hsent, List.append_nil, ← List.append_assoc]
        exact h.inOrder.append_right [frame]
      · obtain ⟨hnone, hwhole⟩ := h.whole (hphone hopen)
        refine ⟨by simp [hnone, hlimits], ?_⟩
        rw [hwaiting, List.flatMap_append, List.flatMap_append, List.flatMap_singleton,
          List.flatMap_singleton, hdelivered, hsent, List.append_nil, ← List.append_assoc, hwhole]
      · rw [List.flatMap_append, List.flatMap_singleton, hdelivered, List.append_nil]
        exact (h.toData hquiet.init).trans (prefix_accepted id history e)
  | limited frame hb hsent hdelivered hlimits hshrinks hphone hwaiting =>
      have haccepted : accepted id (history ++ [e]) = accepted id history :=
        accepted_same (.inr hlimits)
      refine ⟨fun hnot => (hcontra hb hnot).elim,
        fun hopen => by rw [hwaiting, h.direct (hshrinks.data hopen)], ?_,
        fun hopen => absurd hopen hphone, fun hquiet hopen => ?_, fun hquiet => ?_⟩
      · rw [hwaiting, List.flatMap_append, List.flatMap_append, List.flatMap_singleton,
          List.flatMap_singleton, hdelivered, List.append_nil]
        exact h.inOrder.trans (List.sublist_append_left _ _)
      · rw [haccepted]
        simpa [hdelivered] using h.upToDate hquiet.init (hshrinks.data hopen)
      · rw [haccepted]
        simpa [hdelivered] using h.toData hquiet.init

theorem lineAccount (h : (relay sha256Hex).History history room) (id : String) :
    LineAccount id history room := by
  induction h with
  | start => exact .start id
  | step hhistory hstep ih =>
      exact ih.step (step_line hhistory.reachable hstep id) fun ⟨i, hi⟩ =>
        ⟨i, step_attachment hstep hi⟩

end Accounts

section Steps

lemma getWebSockets_phone (hreachable : (relay sha256Hex).Reachable s) (id : String) :
    s.getWebSockets (.phone id) = [] ∨ ∃ i, s.getWebSockets (.phone id) = [i] := by
  have hphone : ∀ i ∈ s.getWebSockets (.phone id), s.attachment i = some (.phone id) := by
    intro i hi
    obtain ⟨a, hopen, htag⟩ := mem_getWebSockets.mp hi
    rw [hopen.attachment, phone_mem_tags.mp htag]
  cases hsockets : s.getWebSockets (.phone id) with
  | nil => exact .inl rfl
  | cons i others =>
      rw [hsockets] at hphone
      refine .inr ⟨i, ?_⟩
      cases others with
      | nil => rfl
      | cons j others =>
          have hnodup : (s.getWebSockets (.phone id)).Nodup := getWebSockets_nodup _
          rw [hsockets] at hnodup
          have hij := phone_unique hreachable (hphone i (by simp)) (hphone j (by simp))
          simp [hij] at hnodup

lemma message_cases (i : ℕ) (message : Message) (now : ℤ) (s : Room) :
    ((∀ id, s.attachment i ≠ some (.data id)) ∧ s.webSocketMessage i message now = ([], s)) ∨
    (∃ buckets code reason, (∀ id frame, s.attachment i = some (.data id) →
        message = .binary frame → maxFrameBytes < frame.length) ∧
      s.webSocketMessage i message now =
        Room.safeClose [i] code reason { s with buckets := buckets }) ∨
    (∃ id frame buckets buffers, s.attachment i = some (.phone id) ∧ message = .binary frame ∧
      ((∃ data, OpenIn s.sockets data (.data id) ∧ s.webSocketMessage i message now =
          ([.send data (.binary frame)], { s with buckets := buckets })) ∨
        s.webSocketMessage i message now =
          ([], { s with buckets := buckets, buffers := buffers }))) ∨
    ∃ id frame, s.attachment i = some (.data id) ∧ message = .binary frame ∧
      frame.length ≤ maxFrameBytes ∧ s.webSocketMessage i message now = s.fromData id frame := by
  cases hattachment : s.attachment i with
  | none => exact .inl ⟨by simp, by simp [Room.webSocketMessage, hattachment]⟩
  | some attachment =>
      cases attachment with
      | control => exact .inl ⟨by simp, by simp [Room.webSocketMessage, hattachment]⟩
      | rejected => exact .inl ⟨by simp, by simp [Room.webSocketMessage, hattachment]⟩
      | phone id =>
          refine .inr ?_
          rw [webSocketMessage_of_phone hattachment]
          cases message with
          | text text => exact .inl ⟨s.buckets, _, _, by simp, rfl⟩
          | binary frame =>
              unfold Room.takeMessage
              dsimp only
              split
              · exact .inl ⟨s.buckets, _, _, by simp, rfl⟩
              · obtain ⟨buckets, ⟨reason, heq⟩ | ⟨data, hdata, heq⟩ | ⟨bytes, -, heq⟩⟩ :=
                  fromPhone_cases i id frame now s
                · exact .inl ⟨buckets, _, reason, by simp, heq⟩
                · exact .inr (.inl ⟨id, frame, buckets, s.buffers, rfl, rfl, .inl ⟨data, hdata, heq⟩⟩)
                · exact .inr (.inl ⟨id, frame, buckets, _, rfl, rfl, .inr heq⟩)
      | data id =>
          refine .inr ?_
          rw [webSocketMessage_of_data hattachment]
          cases message with
          | text text => exact .inl ⟨s.buckets, _, _, by simp, rfl⟩
          | binary frame =>
              unfold Room.takeMessage
              dsimp only
              split
              · next hlarge =>
                refine .inl ⟨s.buckets, _, _, fun id' frame' _ hframe => ?_, rfl⟩
                cases hframe
                exact hlarge
              · next hsmall =>
                exact .inr (.inr ⟨id, frame, rfl, rfl, Nat.not_lt.mp hsmall, rfl⟩)

lemma fromData_due {i : ℕ} {frame : Frame} {now : ℤ} (hreachable : (relay sha256Hex).Reachable s)
    (hdata : s.attachment i = some (.data id)) (hsmall : frame.length ≤ maxFrameBytes)
    (id' : String) : delivered (.phone id') ⟨s, .message i (.binary frame) now,
        (s.fromData id frame).1, (s.fromData id frame).2⟩ =
      due id' ⟨s, .message i (.binary frame) now, (s.fromData id frame).1,
        (s.fromData id frame).2⟩ := by
  by_cases hid : id' = id
  · subst hid
    unfold due
    rw [sent_of_attachment hdata]
    unfold delivered Room.fromData
    rcases getWebSockets_phone hreachable id' with hnone | ⟨j, hj⟩
    · simp [hnone]
    · have hphone : s.attachment j = some (.phone id') := by
        obtain ⟨a, hopen, htag⟩ := mem_getWebSockets.mp (hj ▸ List.mem_singleton_self j)
        rw [hopen.attachment, phone_mem_tags.mp htag]
      simp [hj, Effect.frameTo, hphone, hsmall]
  · have hsent : sent (.data id') ⟨s, .message i (.binary frame) now, (s.fromData id frame).1,
        (s.fromData id frame).2⟩ = [] := if_neg (by simpa [hdata] using Ne.symm hid)
    rw [due, hsent]
    refine delivered_eq_nil fun j frame' h => ?_
    obtain ⟨phone, hphone, heq⟩ := List.mem_map.mp h
    cases heq
    obtain ⟨a, hopen, htag⟩ := mem_getWebSockets.mp hphone
    rw [phone_mem_tags] at htag
    subst htag
    intro hj
    cases hopen.attachment.symm.trans hj
    exact hid rfl

lemma due_eq_nil {i : ℕ} {message : Message} {now : ℤ}
    (h : ∀ frame, s.attachment i = some (.data id) → message = .binary frame →
      maxFrameBytes < frame.length) : due id ⟨s, .message i message now, effects, t⟩ = [] := by
  cases message with
  | text text => rfl
  | binary frame =>
      unfold due sent
      dsimp only
      split
      · next hdata => simp [Nat.not_le.mpr (h frame hdata rfl)]
      · rfl

lemma flushed_target {id : String} {j : ℕ} {frame : Frame}
    (h : .send j (.binary frame) ∈ (s.replaceData id).1) :
    (s.replaceData id).2.attachment j = some (.data id) := by
  rw [replaceData_eq] at h ⊢
  simp only [List.mem_append, List.mem_map, List.mem_singleton, reduceCtorEq, and_false,
    exists_false, or_false, false_or, Effect.send.injEq, Message.binary.injEq] at h
  obtain ⟨frame', -, rfl, -⟩ := h
  exact data_attachment id s _

lemma step_toPhone (hreachable : (relay sha256Hex).Reachable s)
    (hstep : (relay sha256Hex).step s event = some (effects, t)) (id : String) :
    delivered (.phone id) ⟨s, event, effects, t⟩ = due id ⟨s, event, effects, t⟩ := by
  have hresult : ∀ {result : List Effect × Room}, some result = some (effects, t) →
      effects = result.1 ∧ t = result.2 := by
    intro result h
    cases h
    exact ⟨rfl, rfl⟩
  have hguard : ∀ {p : Prop} [Decidable p] {result : Option (List Effect × Room)},
      (if p then result else none) = some (effects, t) → result = some (effects, t) :=
    fun h => (Option.ite_none_right_eq_some.mp h).2
  have hquiet : (∀ j frame, Effect.send j (.binary frame) ∉ effects) →
      delivered (.phone id) ⟨s, event, effects, t⟩ = [] :=
    fun h => delivered_eq_nil fun j frame hmem => absurd hmem (h j frame)
  cases event with
  | openControl secret now =>
      obtain ⟨rfl, rfl⟩ := hresult hstep
      exact hquiet (openControl_sends secret now s)
  | openPhone id' now =>
      obtain ⟨rfl, rfl⟩ := hresult (Option.ite_none_left_eq_some.mp hstep).2
      exact hquiet (openPhone_sends id' now s)
  | openData secret id' =>
      obtain ⟨rfl, rfl⟩ := hresult hstep
      refine delivered_eq_nil fun j frame h => ?_
      obtain ⟨hash, ⟨status, body, heq⟩ | ⟨-, heq⟩⟩ := openData_cases sha256Hex s secret id'
      · simp [heq] at h
      · dsimp only at h ⊢
        rw [heq] at h ⊢
        rw [flushed_target h]
        simp
  | message i message now =>
      obtain ⟨rfl, rfl⟩ := hresult (hguard hstep)
      obtain ⟨hother, heq⟩ | ⟨buckets, code, reason, hlarge, heq⟩ | hphone | hdata :=
        message_cases i message now s
      · rw [due_eq_nil fun frame h _ => absurd h (hother id)]
        exact hquiet (by simp [heq])
      · rw [due_eq_nil (hlarge id)]
        exact hquiet (by simp [heq, Room.safeClose])
      · obtain ⟨id', frame, buckets, buffers, hattachment, rfl, ⟨data, hdata, heq⟩ | heq⟩ := hphone
        · rw [due_eq_nil fun frame h _ => absurd (hattachment.symm.trans h) (by simp)]
          refine delivered_eq_nil fun j frame' hmem hj => ?_
          dsimp only at hmem hj
          rw [heq] at hmem hj
          cases List.mem_singleton.mp hmem
          cases hdata.attachment.symm.trans hj
        · rw [due_eq_nil fun frame h _ => absurd (hattachment.symm.trans h) (by simp)]
          exact hquiet (by simp [heq])
      · obtain ⟨id', frame, hattachment, rfl, hsmall, heq⟩ := hdata
        rw [heq]
        exact fromData_due hreachable hattachment hsmall id
  | dropped i =>
      obtain ⟨rfl, rfl⟩ := hresult (hguard hstep)
      exact hquiet (by simp)
  | webSocketClose i code reason =>
      obtain ⟨rfl, rfl⟩ := hresult (hguard hstep)
      exact hquiet (webSocketClose_sends i code reason _)
  | webSocketError i =>
      obtain ⟨rfl, rfl⟩ := hresult (hguard hstep)
      exact hquiet (closed_sends i _)
  | alarm now =>
      obtain ⟨rfl, rfl⟩ := hresult (hguard hstep)
      exact hquiet (by simp [alarm_effects])

def Touches (room : Room) (owns : Option String) (answer : List Effect) : Prop :=
  ∀ effect ∈ answer, ∀ j, effect.target = some j →
    ∃ a, room.attachment j = some a ∧ (a.id? = none ∨ a.id? = owns)

lemma keepsApart_of_touches
    (hsends : ∀ j frame, Effect.send j (.binary frame) ∈ e.answer → (owner e).isSome)
    (h : (owner e).isSome → Touches e.after (owner e) e.answer) : KeepsApart e := by
  refine ⟨hsends, fun id howner effect heffect j hj a id' ha hid => ?_⟩
  obtain ⟨a', ha', hnone | hsame⟩ := h (by rw [howner]; rfl) effect heffect j hj
  · cases ha.symm.trans ha'
    rw [hnone] at hid
    cases hid
  · cases ha.symm.trans ha'
    rw [hid, howner] at hsame
    exact Option.some.inj hsame

lemma touches_closes {closing : List ℕ} {code : ℕ} {reason : String} {owns : Option String}
    (h : ∀ i ∈ closing, ∃ a, room.attachment i = some a ∧ (a.id? = none ∨ a.id? = owns)) :
    Touches room owns (closing.map fun i => .close i code reason) := by
  intro effect heffect j hj
  obtain ⟨i, hi, rfl⟩ := List.mem_map.mp heffect
  cases hj
  exact h _ hi

lemma Touches.append {owns : Option String} {l₁ l₂ : List Effect} (h₁ : Touches room owns l₁)
    (h₂ : Touches room owns l₂) : Touches room owns (l₁ ++ l₂) := by
  intro effect heffect j hj
  rcases List.mem_append.mp heffect with heffect | heffect
  · exact h₁ effect heffect j hj
  · exact h₂ effect heffect j hj

lemma getWebSockets_attachment {tag : Tag} {a : Attachment} {i : ℕ}
    (htag : ∀ b : Attachment, tag ∈ b.tags → b = a) (hi : i ∈ s.getWebSockets tag) :
    s.attachment i = some a := by
  obtain ⟨b, hopen, hb⟩ := mem_getWebSockets.mp hi
  rw [hopen.attachment, htag b hb]

lemma closed_touches {i code : ℕ} {reason : String}
    (h : ((s.attachment i).bind Attachment.id?).isSome) :
    Touches s ((s.attachment i).bind Attachment.id?) (s.closed i code reason).1 := by
  cases hattachment : s.attachment i with
  | none => simp [hattachment] at h
  | some attachment =>
      cases attachment with
      | control => simp [hattachment, Attachment.id?] at h
      | rejected => simp [hattachment, Attachment.id?] at h
      | phone id =>
          simp only [Room.closed, hattachment]
          refine Touches.append (touches_closes fun j hj => ?_) fun effect heffect j hj => ?_
          · exact ⟨.data id, getWebSockets_attachment (s := s) (by simp) hj, .inr rfl⟩
          · obtain ⟨k, hk, rfl⟩ := List.mem_map.mp heffect
            cases hj
            refine ⟨.control, ?_, .inl rfl⟩
            rw [← @shut_attachment s (s.getWebSockets (.data id))]
            exact getWebSockets_attachment (by simp) hk
      | data id =>
          simp only [Room.closed, hattachment]
          refine touches_closes fun j hj => ?_
          exact ⟨.phone id, getWebSockets_attachment (by simp) hj, .inr rfl⟩

lemma Touches.mono {owns : Option String} {answer : List Effect} (h : Touches s owns answer)
    (hkept : ∀ i a, s.attachment i = some a → t.attachment i = some a) :
    Touches t owns answer := by
  intro effect heffect j hj
  obtain ⟨a, ha, hid⟩ := h effect heffect j hj
  exact ⟨a, hkept j a ha, hid⟩

lemma openData_apart (secret : Option String) (id : String) (s : Room) :
    KeepsApart ⟨s, .openData secret id, (s.openData sha256Hex secret id).1,
      (s.openData sha256Hex secret id).2⟩ := by
  refine keepsApart_of_touches (fun j frame _ => rfl) fun _ => ?_
  dsimp only
  obtain ⟨hash, ⟨status, body, heq⟩ | ⟨-, heq⟩⟩ := openData_cases sha256Hex s secret id
  · rw [heq]
    intro effect heffect j hj
    cases List.mem_singleton.mp heffect
    cases hj
  · rw [heq, replaceData_eq]
    have hkept := (replaceData_accepts id { s with secretHash := hash }).1
    rw [replaceData_eq] at hkept
    refine Touches.append (Touches.append ?_ ?_) ?_
    · refine touches_closes fun i hi => ?_
      exact ⟨.data id, (hkept i _).mpr (.inl (getWebSockets_attachment (by simp) hi)), .inr rfl⟩
    · intro effect heffect j hj
      cases List.mem_singleton.mp heffect
      cases hj
    · intro effect heffect j hj
      obtain ⟨frame, -, rfl⟩ := List.mem_map.mp heffect
      cases hj
      exact ⟨.data id, data_attachment id { s with secretHash := hash } _, .inr rfl⟩

lemma message_apart (i : ℕ) (message : Message) (now : ℤ) (s : Room) :
    KeepsApart ⟨s, .message i message now, (s.webSocketMessage i message now).1,
      (s.webSocketMessage i message now).2⟩ := by
  obtain ⟨-, heq⟩ | ⟨buckets, code, reason, -, heq⟩ | hphone | hdata := message_cases i message now s
  · rw [heq]
    exact keepsApart_of_touches (by simp) fun _ => by simp [Touches]
  · rw [heq]
    refine keepsApart_of_touches (by simp [Room.safeClose]) fun howner =>
      touches_closes fun j hj => ?_
    cases List.mem_singleton.mp hj
    obtain ⟨id, hid⟩ := Option.isSome_iff_exists.mp howner
    obtain ⟨a, ha, -⟩ := Option.bind_eq_some_iff.mp hid
    refine ⟨a, (shut_attachment [i] i).trans ha, .inr ?_⟩
    exact ((congrArg (Option.bind · Attachment.id?) ha).trans rfl).symm
  · obtain ⟨id, frame, buckets, buffers, hattachment, rfl, hforwarded⟩ := hphone
    have howner : ∀ answer after, owner ⟨s, .message i (.binary frame) now, answer, after⟩ =
        some id := fun _ _ => (congrArg (Option.bind · Attachment.id?) hattachment).trans rfl
    refine keepsApart_of_touches (fun j frame' _ => by rw [howner]; rfl) fun _ => ?_
    rw [howner]
    rcases hforwarded with ⟨data, hdata, heq⟩ | heq
    · intro effect heffect j hj
      dsimp only at heffect ⊢
      rw [heq] at heffect ⊢
      cases List.mem_singleton.mp heffect
      cases hj
      exact ⟨.data id, hdata.attachment, .inr rfl⟩
    · rw [heq]
      simp [Touches]
  · obtain ⟨id, frame, hattachment, rfl, -, heq⟩ := hdata
    have howner : ∀ answer after, owner ⟨s, .message i (.binary frame) now, answer, after⟩ =
        some id := fun _ _ => (congrArg (Option.bind · Attachment.id?) hattachment).trans rfl
    refine keepsApart_of_touches (fun j frame' _ => by rw [howner]; rfl) fun _ => ?_
    rw [howner, heq]
    intro effect heffect j hj
    obtain ⟨phone, hphone, rfl⟩ := List.mem_map.mp heffect
    cases hj
    exact ⟨.phone id, getWebSockets_attachment (by simp) hphone, .inr rfl⟩

lemma ended_touches {i code : ℕ} {reason : String}
    (h : ((s.attachment i).bind Attachment.id?).isSome) :
    Touches ((s.finish i).closed i code reason).2 ((s.attachment i).bind Attachment.id?)
      ((s.finish i).closed i code reason).1 := by
  have htouches : Touches (s.finish i) (((s.finish i).attachment i).bind Attachment.id?)
      ((s.finish i).closed i code reason).1 := closed_touches (by rwa [finish_attachment])
  rw [finish_attachment] at htouches
  exact htouches.mono fun j a ha => by rw [closed_attachment, ha]

lemma step_apart (hstep : (relay sha256Hex).step s event = some (effects, t)) :
    KeepsApart ⟨s, event, effects, t⟩ := by
  have hresult : ∀ {result : List Effect × Room}, some result = some (effects, t) →
      effects = result.1 ∧ t = result.2 := by
    intro result h
    cases h
    exact ⟨rfl, rfl⟩
  have hguard : ∀ {p : Prop} [Decidable p] {result : Option (List Effect × Room)},
      (if p then result else none) = some (effects, t) → result = some (effects, t) :=
    fun h => (Option.ite_none_right_eq_some.mp h).2
  cases event with
  | openControl secret now =>
      obtain ⟨rfl, rfl⟩ := hresult hstep
      exact keepsApart_of_touches (fun j frame h => absurd h (openControl_sends secret now s j frame))
        (by simp [owner])
  | openPhone id' now =>
      obtain ⟨rfl, rfl⟩ := hresult (Option.ite_none_left_eq_some.mp hstep).2
      exact keepsApart_of_touches (fun j frame h => absurd h (openPhone_sends id' now s j frame))
        (by simp [owner])
  | openData secret id' =>
      obtain ⟨rfl, rfl⟩ := hresult hstep
      exact openData_apart secret id' s
  | message i message now =>
      obtain ⟨rfl, rfl⟩ := hresult (hguard hstep)
      exact message_apart i message now s
  | dropped i =>
      obtain ⟨rfl, rfl⟩ := hresult (hguard hstep)
      exact keepsApart_of_touches (by simp) fun _ => by simp [Touches]
  | webSocketClose i code reason =>
      obtain ⟨rfl, rfl⟩ := hresult (hguard hstep)
      refine keepsApart_of_touches
        (fun j frame h => absurd h (webSocketClose_sends i code reason _ j frame)) fun howner => ?_
      refine Touches.append ((ended_touches howner).mono fun j a ha => ?_) ?_
      · exact (shut_attachment [i] j).trans ha
      · refine touches_closes fun j hj => ?_
        cases List.mem_singleton.mp hj
        obtain ⟨id, hid⟩ := Option.isSome_iff_exists.mp howner
        obtain ⟨a, ha, -⟩ := Option.bind_eq_some_iff.mp hid
        refine ⟨a, ?_, .inr ((congrArg (Option.bind · Attachment.id?) ha).trans rfl).symm⟩
        exact (shut_attachment [i] i).trans
          ((closed_attachment i).trans ((finish_attachment i i).trans ha))
  | webSocketError i =>
      obtain ⟨rfl, rfl⟩ := hresult (hguard hstep)
      exact keepsApart_of_touches (fun j frame h => absurd h (closed_sends i _ j frame)) ended_touches
  | alarm now =>
      obtain ⟨rfl, rfl⟩ := hresult (hguard hstep)
      exact keepsApart_of_touches (by simp [alarm_effects]) (by simp [owner])

end Steps

/-- The relay forwards in order and keeps the connection ids apart. -/
theorem relay_forwards (h : (relay sha256Hex).History history room) : Forwards history where
  inOrder id := (List.sublist_append_left _ _).trans (lineAccount h id).inOrder
  toData id := (lineAccount h id).toData
  toPhone id := by
    induction h with
    | start => rfl
    | step hhistory hstep ih =>
        rw [List.flatMap_append, List.flatMap_append, List.flatMap_singleton, List.flatMap_singleton,
          ih, step_toPhone hhistory.reachable hstep]
  apart e he := by
    obtain ⟨l, -, hstep⟩ := h.of_mem he
    exact step_apart hstep

lemma step_message {i : ℕ} (message : Message) (now : ℤ) (h : s.live i = true) :
    (relay sha256Hex).step s (.message i message now) = some (s.webSocketMessage i message now) := by
  simp [relay, h]

def demoRelay : System Room Event (List Effect) :=
  relay fun text => text

def demoSecret : Option String :=
  some "abcdefghijklmnopqrstuvwxyz012345"

def demoEvents : List Event :=
  [.openControl demoSecret 0, .openPhone "a" 1, .message 1 (.binary [1]) 2, .openData demoSecret "a",
    .message 1 (.binary [2]) 3, .message 2 (.binary [9]) 4]

theorem relay_forwards_demo :
    (demoRelay.record demoEvents).1.flatMap (delivered (.data "a")) = [[1], [2]] ∧
      (demoRelay.record demoEvents).1.flatMap (due "a") = [[9]] ∧
      Forwards (demoRelay.record demoEvents).1 :=
  ⟨by decide +kernel, by decide +kernel, relay_forwards (demoRelay.history_record demoEvents)⟩

def demoOpened : List (System.Taken Room Event (List Effect)) × Room :=
  demoRelay.record [.openControl demoSecret 0, .openPhone "a" 1, .openData demoSecret "a"]

theorem oversized_frame_not_forwarded :
    ∃ history room, demoRelay.History history room ∧ ¬ForwardsExactly history := by
  obtain ⟨frame, hlarge⟩ : ∃ frame : Frame, maxFrameBytes < frame.length :=
    ⟨List.replicate (maxFrameBytes + 1) 0, by simp⟩
  have hdata : demoOpened.2.attachment 2 = some (.data "a") := by decide +kernel
  have hlive : demoOpened.2.live 2 = true := by decide +kernel
  have hstep : demoRelay.step demoOpened.2 (.message 2 (.binary frame) 3) =
      some (demoOpened.2.safeClose [2] RelayClose.frameTooLarge "frame too large") := by
    rw [demoRelay, step_message _ _ hlive, webSocketMessage_of_data hdata]
    exact congrArg some (if_pos hlarge)
  have hopened : demoRelay.History demoOpened.1 demoOpened.2 := demoRelay.history_record _
  refine ⟨_, _, hopened.step hstep, fun h => ?_⟩
  have hsame := h.toPhone "a"
  have hnone : demoOpened.1.flatMap (delivered (.phone "a")) = [] := by decide +kernel
  rw [List.flatMap_append, List.flatMap_append, List.flatMap_singleton, List.flatMap_singleton, hnone,
    sent_of_attachment hdata] at hsame
  exact List.cons_ne_nil frame [] (List.append_eq_nil_iff.mp hsame.symm).2

end DevCommandCenter.Relay
