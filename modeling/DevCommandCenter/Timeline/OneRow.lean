import DevCommandCenter.Session.ConversationRewinds
import DevCommandCenter.Timeline.FoldedRows
import DevCommandCenter.Timeline.RowNames
import DevCommandCenter.Timeline.StrayRows

/-! One assistant row for each turn, and no id twice: when the projection keeps to it. -/

namespace DevCommandCenter.Timeline

open Library

structure OneRowPerTurn (messages : List TimelineMessage) : Prop where
  assistant : ∀ turnId, (messages.filter fun message =>
    message.role = .assistant ∧ message.turnId = some turnId).length ≤ 1
  ids : (messages.map TimelineMessage.id).Nodup

def PromptsClash (sessionId : String) (events : List TimelineEvent) : Prop :=
  ∃ turnId turn count, turnBegun events turnId = true ∧ 1 ≤ count ∧ count ≤ steersIn events turn ∧
    "user-" ++ sessionId ++ "-" ++ turnId =
      "user-steer-" ++ sessionId ++ "-" ++ turn ++ "-" ++ toString count

section Starts

variable {log : List SessionEventRecord}

def startsOf (events : List TimelineEvent) : List TurnId :=
  events.filterMap fun event => startedTurn event.kind

lemma startedTurn_of_delta (kind : SessionEventKind) (h : (deltaTarget kind).isSome) :
    startedTurn kind = none := by
  cases kind <;> first | rfl | cases h

lemma startsOf_nodup (h : (startedTurnIds log).Nodup) (sessionId : String) :
    (startsOf (timeline log sessionId)).Nodup :=
  h.sublist (filterMap_timeline_sublist startedTurn_of_delta log sessionId)

end Starts

namespace Frame

variable {frame frame' : Frame} {event : TimelineEvent}

def LooseUnlisted (frame : Frame) : Prop :=
  ∀ turnId index, frame.buckets.lookup turnId = some index → index ∉ frame.rows turnId →
    frame.heads[index]? = some (frame.looseHead turnId)

lemma getElem?_append_of_some {heads more : List RowHead} {index : ℕ} {head : RowHead}
    (h : heads[index]? = some head) : (heads ++ more)[index]? = some head := by
  rw [List.getElem?_append_left (List.getElem?_eq_some_iff.mp h).1, h]

lemma LooseUnlisted.ensure (h : frame.LooseUnlisted) (turnId : String) :
    (frame.ensure turnId).LooseUnlisted := by
  unfold Frame.ensure
  split
  · exact h
  · intro turn index hindex hnot
    rw [Frame.setBucket, Table.lookup_insert_eq] at hindex
    split at hindex
    · next hturn =>
        obtain rfl := Option.some.inj hindex
        rw [hturn]
        simp [Frame.setBucket, Frame.push, looseHead]
    · exact getElem?_append_of_some (h turn index hindex hnot)

lemma LooseUnlisted.addMessage (h : frame.LooseUnlisted) (turnId messageId : String)
    (makeCurrent : Bool) : (frame.addMessage turnId messageId makeCurrent).LooseUnlisted := by
  intro turn index hindex hnot
  have hlisted : turn ≠ turnId := by
    rintro rfl
    rcases bucket_addMessage_cases hindex with ⟨-, rfl⟩ | hold
    · exact hnot (newRow_mem_rows ..)
    · exact hnot (bucket_mem_rows hold)
  have hold : frame.buckets.lookup turn = some index := by
    rw [buckets_addMessage] at hindex
    split at hindex
    · rwa [Table.lookup_insert_eq, if_neg hlisted] at hindex
    · exact hindex
  have hhead : (frame.addMessage turnId messageId makeCurrent).looseHead turn =
      frame.looseHead turn := by
    cases makeCurrent <;> rfl
  rw [rows_addMessage, if_neg hlisted] at hnot
  rw [heads_addMessage, hhead]
  exact getElem?_append_of_some (h turn index hold hnot)

theorem LooseUnlisted.step (h : frame.LooseUnlisted) (hkept : frame.WellKept)
    (hstep : FrameStep frame event frame') : frame'.LooseUnlisted := by
  cases hstep with
  | plain =>
      obtain ⟨completedReasoning, completedToolCalls, delegations, started, steers, heq⟩ :=
        noted_eq frame event
      rw [heq]
      cases frame.pushedHead event.kind with
      | none => exact h
      | some head =>
          intro turnId index hindex hnot
          exact getElem?_append_of_some (h turnId index hindex hnot)
  | loose => exact h.ensure _
  | ignored => exact h
  | @resumed turnId messageId index _ _ hitem =>
      intro turn found hfound hnot
      have hfound' : (frame.buckets.insert turnId index).lookup turn = some found := hfound
      rw [Table.lookup_insert_eq] at hfound'
      split at hfound'
      · next hturn =>
          obtain rfl := Option.some.inj hfound'
          rw [hturn] at hnot
          exact absurd (hkept.items _ _ _ hitem) hnot
      · exact h turn found hfound' hnot
  | opened => exact h.addMessage _ _ _
  | finished => exact h
  | aliased => exact h
  | unopened => exact h.addMessage _ _ _

lemma sessionId_step (hstep : FrameStep frame event frame') : frame'.sessionId = frame.sessionId := by
  cases hstep with
  | plain =>
      obtain ⟨completedReasoning, completedToolCalls, delegations, started, steers, heq⟩ :=
        noted_eq frame event
      rw [heq]
      cases frame.pushedHead event.kind <;> rfl
  | loose =>
      rw [ensure]
      split <;> rfl
  | ignored | resumed | opened | finished | aliased | unopened => rfl

end Frame

section Names

variable {sessionId : String} {events : List TimelineEvent} {name name' : RowName}

def RowName.letter : RowName → Char
  | prompt _ | steer .. => 'u'
  | loose _ | message .. => 'a'
  | note .. => 's'
  | card _ => 'd'

def RowName.Labelled : RowName → Prop
  | note label _ => isSessionLabel label = true
  | _ => True

lemma head?_append {text more : String} {letter : Char} (h : text.toList.head? = some letter) :
    (text ++ more).toList.head? = some letter := by
  rw [String.toList_append, List.head?_append, h, Option.some_or]

lemma RowName.head_letter (h : name.Labelled) :
    (name.head sessionId).id.toList.head? = some name.letter := by
  have huser : "user-".toList.head? = some 'u' := by decide
  have hsteer : "user-steer-".toList.head? = some 'u' := by decide
  have hassistant : "assistant-".toList.head? = some 'a' := by decide
  have hdelegation : "delegation-".toList.head? = some 'd' := by decide
  cases name with
  | prompt turnId => exact head?_append (head?_append (head?_append huser))
  | steer turnId count =>
      exact head?_append (head?_append (head?_append (head?_append (head?_append hsteer))))
  | loose turnId => exact head?_append (head?_append (head?_append hassistant))
  | message turnId messageId =>
      exact head?_append (head?_append (head?_append (head?_append (head?_append hassistant))))
  | note label position => exact head?_append (head?_append (beq_iff_eq.mp h))
  | card delegationId => exact head?_append hdelegation

lemma RowName.letter_eq (h : name.Labelled) (h' : name'.Labelled)
    (hid : (name.head sessionId).id = (name'.head sessionId).id) : name.letter = name'.letter := by
  have hletter : (name.head sessionId).id.toList.head? = some name.letter := RowName.head_letter h
  rw [hid, RowName.head_letter h'] at hletter
  exact (Option.some.inj hletter).symm

def RowName.Clash (sessionId : String) (name name' : RowName) : Prop :=
  ∃ turnId turn count, name = .prompt turnId ∧ name' = .steer turn count ∧
    (name.head sessionId).id = (name'.head sessionId).id

lemma RowName.eq_of_id (h : name.Labelled) (h' : name'.Labelled) (hrow : name.letter ≠ 'a')
    (hid : (name.head sessionId).id = (name'.head sessionId).id) :
    name = name' ∨ name.Clash sessionId name' ∨ name'.Clash sessionId name := by
  have hletter := RowName.letter_eq h h' hid
  cases name with
  | prompt turnId =>
      cases name' with
      | prompt turnId' =>
          simp only [head] at hid
          exact .inl (congrArg prompt (append_left_inj hid))
      | steer turn count => exact .inr (.inl ⟨turnId, turn, count, rfl, rfl, hid⟩)
      | loose | message | note | card => simp [letter] at hletter
  | steer turn count =>
      cases name' with
      | prompt turnId => exact .inr (.inr ⟨turnId, turn, count, rfl, rfl, hid.symm⟩)
      | steer turn' count' =>
          simp only [head] at hid
          obtain ⟨htext, rfl⟩ := append_dash_number_inj hid
          exact .inl (congrArg (steer · count) (append_left_inj htext))
      | loose | message | note | card => simp [letter] at hletter
  | loose | message => exact absurd rfl hrow
  | note label position =>
      cases name' with
      | note label' position' =>
          simp only [head] at hid
          obtain ⟨rfl, rfl⟩ := append_dash_number_inj hid
          exact .inl rfl
      | prompt | steer | loose | message | card => simp [letter] at hletter
  | card delegationId =>
      cases name' with
      | card delegationId' =>
          simp only [head] at hid
          exact .inl (congrArg card (append_left_inj hid))
      | prompt | steer | loose | message | note => simp [letter] at hletter

lemma sessionId_projectorAfter (sessionId : String) (events : List TimelineEvent) :
    (projectorAfter sessionId events).frame.sessionId = sessionId := by
  induction events using List.reverseRecOn with
  | nil => rfl
  | append_singleton events event ih =>
      rw [projectorAfter_append, Frame.sessionId_step (Projector.frame_apply _ _), ih]

lemma looseUnlisted_projectorAfter (sessionId : String) (events : List TimelineEvent) :
    (projectorAfter sessionId events).frame.LooseUnlisted := by
  induction events using List.reverseRecOn with
  | nil =>
      intro turnId index hindex
      cases hindex
  | append_singleton events event ih =>
      rw [projectorAfter_append]
      exact ih.step (wellKept_projectorAfter sessionId events) (Projector.frame_apply _ _)

lemma turnBegun_iff {turnId : TurnId} : turnBegun events turnId.value = true ↔
    turnId ∈ startsOf events := by
  unfold turnBegun startsOf
  rw [List.any_eq_true, List.mem_filterMap]
  refine exists_congr fun event => and_congr_right fun _ => ?_
  obtain ⟨kind, occurredAt⟩ := event
  cases kind with
  | turnStarted turn =>
      obtain ⟨value⟩ := turn
      obtain ⟨value'⟩ := turnId
      simp [startedTurn]
  | _ => simp [startedTurn]

theorem named_projectorAfter (sessionId : String) (h : (startsOf events).Nodup) :
    ∃ names, (projectorAfter sessionId events).frame.Named names := by
  induction events using List.reverseRecOn with
  | nil =>
      refine ⟨[], rfl, List.nodup_nil, ?_, ?_, ?_, ?_, ?_, ?_⟩
      all_goals simp [projectorAfter, Projector.frame, Projector.new]
      omega
  | append_singleton events event ih =>
      rw [startsOf, List.filterMap_append, ← startsOf] at h
      obtain ⟨hbefore, -, hdisjoint⟩ := List.nodup_append.mp h
      obtain ⟨names, hnamed⟩ := ih hbefore
      rw [projectorAfter_append]
      refine hnamed.step (fun turnId hstarted hmem => ?_) (Projector.frame_apply _ _)
      have hbegun := ((shaped_projectorAfter sessionId events).1.started turnId.value).mp hmem
      refine hdisjoint turnId (turnBegun_iff.mp hbegun) turnId ?_ rfl
      simp [hstarted]

end Names

namespace Projector

variable {isAlphanumeric : Char → Bool} {projector : Projector} {i j : ℕ} {turnId : String}
  {message message' : TimelineMessage}

structure Shows (isAlphanumeric : Char → Bool) (projector : Projector) (i : ℕ)
    (message : TimelineMessage) : Prop where
  mem : i ∈ projector.shown isAlphanumeric
  row : (projector.folded isAlphanumeric).1[i]? = some message

lemma Shows.head (h : projector.Shows isAlphanumeric i message) (hkept : projector.frame.WellKept)
    (hloose : projector.frame.LooseUnlisted) :
    (∃ turnId, projector.frame.Assistant i turnId ∧
      message.head = projector.frame.looseHead turnId) ∨
    (projector.frame.heads[i]? = some message.head ∧ message.role ≠ .assistant) := by
  rcases head_of_folded hkept h.row with ⟨turnId, hstays, hhead⟩ | ⟨hstays, hhead⟩
  · exact .inl ⟨turnId, hkept.listed turnId i (mem_rows_of_stays hstays), hhead⟩
  · by_cases hrole : message.role = .assistant
    · obtain ⟨turnId, hturn, hown⟩ := hkept.owned i message.head hhead hrole
      have hlisted : i ∉ projector.frame.rows turnId := fun hrows =>
        hstays turnId (((mem_shown hkept).mp h.mem).2 turnId hrows)
      have hbucket := hown.resolve_right hlisted
      have hrow := hloose turnId i hbucket hlisted
      rw [hhead, Option.some.injEq] at hrow
      exact .inl ⟨turnId, hkept.bucket turnId i hbucket, hrow⟩
    · exact .inr ⟨hhead, hrole⟩

lemma eq_of_assistant (hkept : projector.frame.WellKept)
    (hwhole : ∀ index, projector.frame.buckets.lookup turnId = some index →
      index ∉ projector.frame.rows turnId → projector.frame.rows turnId = [])
    (hi : projector.Shows isAlphanumeric i message) (hj : projector.Shows isAlphanumeric j message')
    (hassistant : projector.frame.Assistant i turnId) (hassistant' : projector.frame.Assistant j turnId) :
    i = j := by
  have hplace : ∀ k, k ∈ projector.shown isAlphanumeric → projector.frame.Assistant k turnId →
      projector.stays isAlphanumeric turnId = some k ∨
      (projector.frame.buckets.lookup turnId = some k ∧ projector.frame.rows turnId = []) := by
    intro k hk hturn
    by_cases hlisted : k ∈ projector.frame.rows turnId
    · exact .inl (((mem_shown hkept).mp hk).2 turnId hlisted)
    · obtain ⟨head, hhead, hrole, hturn⟩ := hturn
      obtain ⟨turn, heq, hown⟩ := hkept.owned k head hhead hrole
      rw [hturn, Option.some.injEq] at heq
      subst heq
      have hbucket := hown.resolve_right hlisted
      exact .inr ⟨hbucket, hwhole k hbucket hlisted⟩
  have hsome : ∀ k, projector.stays isAlphanumeric turnId = some k → projector.frame.rows turnId ≠ [] :=
    fun k hk => List.ne_nil_of_mem (mem_rows_of_stays hk)
  rcases hplace i hi.mem hassistant with hstays | ⟨hbucket, hempty⟩
  · rcases hplace j hj.mem hassistant' with hstays' | ⟨hbucket', hempty⟩
    · exact Option.some.inj (hstays.symm.trans hstays')
    · exact absurd hempty (hsome i hstays)
  · rcases hplace j hj.mem hassistant' with hstays' | ⟨hbucket', -⟩
    · exact absurd hempty (hsome j hstays')
    · exact Option.some.inj (hbucket.symm.trans hbucket')

lemma shows_of_unlisted (isAlphanumeric : Char → Bool) (hkept : projector.frame.WellKept) (hi : i < projector.frame.heads.length)
    (hnot : ∀ turnId, i ∉ projector.frame.rows turnId) :
    ∃ message, projector.Shows isAlphanumeric i message := by
  obtain ⟨message, hrow⟩ := exists_folded hkept hi
  rw [frame_heads_length] at hi
  exact ⟨message, (mem_shown hkept).mpr ⟨hi, fun turnId hmem => absurd hmem (hnot turnId)⟩, hrow⟩

lemma shows_of_stays (hkept : projector.frame.WellKept)
    (hstays : projector.stays isAlphanumeric turnId = some i) :
    ∃ message, projector.Shows isAlphanumeric i message := by
  have hassistant := hkept.listed turnId i (mem_rows_of_stays hstays)
  obtain ⟨message, hrow⟩ := exists_folded hkept hassistant.lt
  have hlt := hassistant.lt
  rw [frame_heads_length] at hlt
  refine ⟨message, (mem_shown hkept).mpr ⟨hlt, fun turn hmem => ?_⟩, hrow⟩
  rw [← (hkept.listed turn i hmem).unique hassistant] at hstays
  exact hstays

lemma shown_nodup (projector : Projector) : (projector.shown isAlphanumeric).Nodup :=
  List.nodup_range.filter _

lemma ids_nodup_iff : ((projector.shownRows isAlphanumeric).map TimelineMessage.id).Nodup ↔
    ∀ i j message message', projector.Shows isAlphanumeric i message →
      projector.Shows isAlphanumeric j message' → message.id = message'.id → i = j := by
  rw [shownRows, nodup_map_filterMap_iff (shown_nodup projector)]
  constructor
  · exact fun h i j message message' hi hj => h i hi.mem j hj.mem message message' hi.row hj.row
  · exact fun h i hi j hj message message' hrow hrow' =>
      h i j message message' ⟨hi, hrow⟩ ⟨hj, hrow'⟩

lemma placed_ids_nodup (h : ((projector.finish isAlphanumeric).map TimelineMessage.id).Nodup)
    (hi : projector.Shows isAlphanumeric i message) (hj : projector.Shows isAlphanumeric j message')
    (hcard : message.delegation.isSome = false) (hcard' : message'.delegation.isSome = false)
    (hid : message.id = message'.id) : i = j := by
  have hplain : ∀ messages : List TimelineMessage,
      messages.filter (fun message => !message.delegation.isSome) =
        messages.flatMap fun message => if message.delegation.isSome then [] else [message] := by
    intro messages
    induction messages with
    | nil => rfl
    | cons message messages ih =>
        rw [List.filter_cons, List.flatMap_cons, ih]
        cases message.delegation.isSome <;> rfl
  have hkept : (projector.finish isAlphanumeric).filter (fun message => !message.delegation.isSome) =
      (projector.shownRows isAlphanumeric).filter fun message => !message.delegation.isSome := by
    rw [finish_eq_shownRows, hplain, hplain]
    refine flatMap_placed fun message _ hsome => ?_
    rw [if_pos hsome]
  have hnodup : (((projector.finish isAlphanumeric).filter fun message =>
      !message.delegation.isSome).map TimelineMessage.id).Nodup :=
    h.sublist (List.filter_sublist.map TimelineMessage.id)
  rw [hkept, shownRows, List.filter_filterMap, nodup_map_filterMap_iff (shown_nodup projector)] at hnodup
  refine hnodup i hi.mem j hj.mem message message' ?_ ?_ hid
  · rw [hi.row, Option.filter_some, if_pos (by rw [hcard]; rfl)]
  · rw [hj.row, Option.filter_some, if_pos (by rw [hcard']; rfl)]

lemma Shows.looseHead (h : projector.Shows isAlphanumeric i message)
    (hkept : projector.frame.WellKept) (hloose : projector.frame.LooseUnlisted)
    (hassistant : projector.frame.Assistant i turnId) :
    message.head = projector.frame.looseHead turnId := by
  rcases h.head hkept hloose with ⟨turn, hturn, hhead⟩ | ⟨hhead, hrole⟩
  · rwa [hturn.unique hassistant] at hhead
  · obtain ⟨head, hfound, hassistant, -⟩ := hassistant
    rw [hhead, Option.some.injEq] at hfound
    subst hfound
    exact absurd hassistant hrole

end Projector

section Rows

variable {frame : Frame} {names : List RowName} {name : RowName} {sessionId : String} {i : ℕ}

lemma Frame.Named.labelled (h : frame.Named names) (hname : name ∈ names) : name.Labelled := by
  cases name with
  | note label position => exact (h.note label position hname).2
  | prompt | steer | loose | message | card => trivial

lemma RowName.letter_ne (h : (name.head sessionId).role ≠ .assistant) : name.letter ≠ 'a' := by
  cases name with
  | loose | message => exact absurd rfl h
  | prompt | steer | note | card => simp [letter]

lemma Frame.Named.getElem? (h : frame.Named names) :
    frame.heads[i]? = (names[i]?).map (RowName.head frame.sessionId) := by
  rw [h.heads, List.getElem?_map]

end Rows

section Runs

variable {isAlphanumeric : Char → Bool} {sessionId : String} {events : List TimelineEvent}
  {names : List RowName} {i : ℕ} {name : RowName} {message : TimelineMessage} {turnId : String}

lemma shows_named (hnamed : (projectorAfter sessionId events).frame.Named names)
    (h : (projectorAfter sessionId events).Shows isAlphanumeric i message) :
    ∃ name, message.head = name.head sessionId ∧ name.Labelled ∧
      ((∃ turnId, name = .loose turnId ∧
        (projectorAfter sessionId events).frame.Assistant i turnId) ∨
      (names[i]? = some name ∧ name.letter ≠ 'a')) := by
  have hsession := sessionId_projectorAfter sessionId events
  have hkept := wellKept_projectorAfter sessionId events
  rcases h.head hkept (looseUnlisted_projectorAfter sessionId events) with
    ⟨turnId, hassistant, hhead⟩ | ⟨hhead, hrole⟩
  · refine ⟨.loose turnId, ?_, trivial, .inl ⟨turnId, rfl, hassistant⟩⟩
    rw [hhead, Frame.looseHead, hsession]
    rfl
  · rw [hnamed.getElem?, hsession] at hhead
    obtain ⟨name, hname, heq⟩ := Option.map_eq_some_iff.mp hhead
    have hrole' : (name.head sessionId).role ≠ .assistant := by
      rw [heq]
      exact hrole
    exact ⟨name, heq.symm, hnamed.labelled (List.mem_of_getElem? hname),
      .inr ⟨hname, RowName.letter_ne hrole'⟩⟩

lemma shows_of_name (isAlphanumeric : Char → Bool) (hnamed : (projectorAfter sessionId events).frame.Named names)
    (hname : names[i]? = some name) (hrole : (name.head sessionId).role ≠ .assistant) :
    ∃ message, (projectorAfter sessionId events).Shows isAlphanumeric i message ∧
      message.head = name.head sessionId := by
  have hkept := wellKept_projectorAfter sessionId events
  have hhead : (projectorAfter sessionId events).frame.heads[i]? = some (name.head sessionId) := by
    rw [hnamed.getElem?, hname, sessionId_projectorAfter]
    rfl
  have hlt := (List.getElem?_eq_some_iff.mp hhead).1
  have hnot : ∀ turnId, ¬(projectorAfter sessionId events).frame.Assistant i turnId := by
    rintro turnId ⟨head, hfound, hassistant, -⟩
    rw [hhead, Option.some.injEq] at hfound
    exact hrole (hfound ▸ hassistant)
  obtain ⟨message, hshows⟩ := Projector.shows_of_unlisted isAlphanumeric hkept hlt
    fun turnId hmem => hnot turnId (hkept.listed turnId i hmem)
  refine ⟨message, hshows, ?_⟩
  rcases hshows.head hkept (looseUnlisted_projectorAfter sessionId events) with
    ⟨turnId, hassistant, -⟩ | ⟨hfound, -⟩
  · exact absurd hassistant (hnot turnId)
  · rw [hhead, Option.some.injEq] at hfound
    exact hfound.symm

lemma clash_iff (hnamed : (projectorAfter sessionId events).frame.Named names) :
    PromptsClash sessionId events ↔ ∃ name ∈ names, ∃ name' ∈ names, name.Clash sessionId name' := by
  have hlinked := (shaped_projectorAfter sessionId events).1
  constructor
  · rintro ⟨turnId, turn, count, hbegun, hpos, hle, hid⟩
    refine ⟨.prompt turnId, (hnamed.prompt turnId).mpr ((hlinked.started turnId).mpr hbegun),
      .steer turn count, (hnamed.steer turn count).mpr ⟨hpos, ?_⟩, turnId, turn, count, rfl, rfl, hid⟩
    rwa [hlinked.steers]
  · rintro ⟨_, hprompt, _, hsteer, turnId, turn, count, rfl, rfl, hid⟩
    obtain ⟨hpos, hle⟩ := (hnamed.steer turn count).mp hsteer
    rw [hlinked.steers] at hle
    exact ⟨turnId, turn, count, (hlinked.started turnId).mp ((hnamed.prompt turnId).mp hprompt), hpos,
      hle, hid⟩

lemma id_of_head {message message' : TimelineMessage} {head head' : RowHead} (h : message.head = head)
    (h' : message'.head = head') (hid : message.id = message'.id) : head.id = head'.id := by
  rw [← h, ← h']
  exact hid

theorem ids_nodup_of_whole (hnamed : (projectorAfter sessionId events).frame.Named names)
    (hstrays : ∀ turnId, ¬Strays events turnId) (hclash : ¬PromptsClash sessionId events) :
    (((projectorAfter sessionId events).shownRows isAlphanumeric).map TimelineMessage.id).Nodup := by
  refine Projector.ids_nodup_iff.mpr fun i j message message' hi hj hid => ?_
  have hkept := wellKept_projectorAfter sessionId events
  obtain ⟨name, hhead, hlabelled, hname⟩ := shows_named hnamed hi
  obtain ⟨name', hhead', hlabelled', hname'⟩ := shows_named hnamed hj
  have hids := id_of_head hhead hhead' hid
  have hnames : ∀ name name' : RowName, name ∈ names → name' ∈ names →
      ¬name.Clash sessionId name' :=
    fun name name' hmem hmem' h => hclash ((clash_iff hnamed).mpr ⟨name, hmem, name', hmem', h⟩)
  rcases hname with ⟨turnId, rfl, hassistant⟩ | ⟨hname, hletter⟩
  · rcases hname' with ⟨turn, rfl, hassistant'⟩ | ⟨hname', hletter'⟩
    · have hturn : turnId = turn := append_left_inj hids
      subst hturn
      refine Projector.eq_of_assistant hkept (fun index hbucket hlisted => ?_) hi hj hassistant
        hassistant'
      by_contra hsome
      exact hstrays turnId ((strays_iff sessionId events turnId).mpr ⟨index, hbucket, hlisted, hsome⟩)
    · exact absurd (RowName.letter_eq hlabelled hlabelled' hids).symm hletter'
  · rcases hname' with ⟨turn, rfl, hassistant'⟩ | ⟨hname', hletter'⟩
    · exact absurd (RowName.letter_eq hlabelled hlabelled' hids) hletter
    · have hmem := List.mem_of_getElem? hname
      have hmem' := List.mem_of_getElem? hname'
      rcases RowName.eq_of_id hlabelled hlabelled' hletter hids with rfl | hsame | hsame
      · exact (List.getElem?_inj (List.getElem?_eq_some_iff.mp hname).1 hnamed.nodup).mp
          (hname.trans hname'.symm)
      · exact absurd hsame (hnames _ _ hmem hmem')
      · exact absurd hsame (hnames _ _ hmem' hmem)

lemma oneRowPerTurn_of_ids
    (hids : (((projectorAfter sessionId events).shownRows isAlphanumeric).map TimelineMessage.id).Nodup) :
    OneRowPerTurn ((projectorAfter sessionId events).finish isAlphanumeric) := by
  have hsubperm := placeDelegations_subperm ((projectorAfter sessionId events).shownRows isAlphanumeric)
  rw [← Projector.finish_eq_shownRows] at hsubperm
  obtain ⟨rows, hperm, hsublist⟩ := hsubperm
  have hnodup := (hperm.map TimelineMessage.id).nodup_iff.mp (hids.sublist (hsublist.map _))
  refine ⟨fun turnId => ?_, hnodup⟩
  refine @length_le_one_of_keys _ _ TimelineMessage.id _ ("assistant-" ++ sessionId ++ "-" ++ turnId)
    (hnodup.sublist (List.filter_sublist.map _)) fun message hmessage => ?_
  obtain ⟨hmem, hturn⟩ := List.mem_filter.mp hmessage
  obtain ⟨hrole, hturn⟩ := of_decide_eq_true hturn
  obtain ⟨i, hi, hrow⟩ := List.mem_filterMap.mp (hsublist.subset (hperm.mem_iff.mpr hmem))
  have hshows : (projectorAfter sessionId events).Shows isAlphanumeric i message := ⟨hi, hrow⟩
  rcases hshows.head (wellKept_projectorAfter sessionId events)
    (looseUnlisted_projectorAfter sessionId events) with ⟨turn, -, hhead⟩ | ⟨-, hrole'⟩
  · have hturn' : some turn = some turnId := by
      rw [← hturn]
      exact (congrArg RowHead.turnId hhead).symm
    have hid := congrArg RowHead.id hhead
    rw [Frame.looseHead, sessionId_projectorAfter, Option.some.inj hturn'] at hid
    exact hid
  · exact absurd hrole hrole'

lemma not_strays_of_oneRow (h : OneRowPerTurn ((projectorAfter sessionId events).finish isAlphanumeric))
    (turnId : String) : ¬Strays events turnId := by
  intro hstrays
  have hkept := wellKept_projectorAfter sessionId events
  have hloose := looseUnlisted_projectorAfter sessionId events
  obtain ⟨index, hbucket, hlisted, hsome⟩ := (strays_iff sessionId events turnId).mp hstrays
  obtain ⟨other, hother⟩ := List.exists_mem_of_ne_nil _ hsome
  obtain ⟨terminal, hstays⟩ : ∃ terminal,
      (projectorAfter sessionId events).stays isAlphanumeric turnId = some terminal :=
    Projector.exists_stays hother
  have hterminal := Projector.mem_rows_of_stays hstays
  have hassistant := hkept.bucket turnId index hbucket
  obtain ⟨message, hshows⟩ := Projector.shows_of_stays hkept hstays
  obtain ⟨message', hshows'⟩ := Projector.shows_of_unlisted isAlphanumeric hkept
    hassistant.lt fun turn hmem => hlisted ((hkept.listed turn index hmem).unique hassistant ▸ hmem)
  have hhead := hshows.looseHead hkept hloose (hkept.listed turnId terminal hterminal)
  have hhead' := hshows'.looseHead hkept hloose hassistant
  have hsame : terminal = index := Projector.placed_ids_nodup h.ids hshows hshows'
    (congrArg RowHead.card hhead) (congrArg RowHead.card hhead')
    ((congrArg RowHead.id hhead).trans (congrArg RowHead.id hhead').symm)
  exact hlisted (hsame ▸ hterminal)

lemma not_clash_of_oneRow (hnamed : (projectorAfter sessionId events).frame.Named names)
    (h : OneRowPerTurn ((projectorAfter sessionId events).finish isAlphanumeric)) :
    ¬PromptsClash sessionId events := by
  intro hclash
  obtain ⟨_, hprompt, _, hsteer, turnId, turn, count, rfl, rfl, hid⟩ := (clash_iff hnamed).mp hclash
  obtain ⟨i, hi⟩ := List.mem_iff_getElem?.mp hprompt
  obtain ⟨j, hj⟩ := List.mem_iff_getElem?.mp hsteer
  have huser : Role.user ≠ Role.assistant := by decide
  obtain ⟨message, hshows, hhead⟩ := shows_of_name isAlphanumeric hnamed hi huser
  obtain ⟨message', hshows', hhead'⟩ := shows_of_name isAlphanumeric hnamed hj huser
  have hids : message.id = message'.id :=
    (congrArg RowHead.id hhead).trans (hid.trans (congrArg RowHead.id hhead').symm)
  have hsame : i = j := Projector.placed_ids_nodup h.ids hshows hshows'
    (congrArg RowHead.card hhead) (congrArg RowHead.card hhead') hids
  rw [hsame, hj] at hi
  cases hi

/-- There is one assistant row for each turn, and no id twice, exactly when no turn strays and no prompt
of a turn clashes with one added to a turn. -/
theorem one_row_per_turn_iff (isAlphanumeric : Char → Bool) (log : List SessionEventRecord)
    (sessionId : String) (hunique : (startedTurnIds log).Nodup) :
    OneRowPerTurn (projectSession isAlphanumeric log sessionId) ↔
      (∀ turnId, ¬Strays (timeline log sessionId) turnId) ∧
        ¬PromptsClash sessionId (timeline log sessionId) := by
  obtain ⟨names, hnamed⟩ := named_projectorAfter sessionId (startsOf_nodup hunique sessionId)
  constructor
  · exact fun h => ⟨not_strays_of_oneRow h, not_clash_of_oneRow hnamed h⟩
  · rintro ⟨hstrays, hclash⟩
    exact oneRowPerTurn_of_ids (ids_nodup_of_whole hnamed hstrays hclash)

end Runs

section StrayLog

def strayEvent (kind : SessionEventKind) : SessionEventRecord where
  eventId := "event"
  sessionId := ⟨"s"⟩
  sequence := 1
  occurredAt := "2026-10-07T10:00:00Z"
  kind := kind

def strayLog : List SessionEventRecord :=
  [strayEvent (.turnStarted ⟨"t"⟩ "fix it" none none none none none),
    strayEvent (.turnAssistantMessageCompleted ⟨"t"⟩ "m" .commentary (some "Looking")),
    strayEvent (.turnToolCallStarted ⟨"t"⟩ "c" "Bash" none none)]

theorem one_row_per_turn_iff_demo : (startedTurnIds strayLog).Nodup ∧
    (OneRowPerTurn (projectSession Char.isAlphanum strayLog "s") ↔
      (∀ turnId, ¬Strays (timeline strayLog "s") turnId) ∧
        ¬PromptsClash "s" (timeline strayLog "s")) :=
  ⟨by decide, one_row_per_turn_iff Char.isAlphanum strayLog "s" (by decide)⟩

theorem two_rows_of_one_turn : (startedTurnIds strayLog).Nodup ∧
    ((projectSession Char.isAlphanum strayLog "s").filter fun message =>
      message.role = .assistant ∧ message.turnId = some "t").length = 2 ∧
    ¬((projectSession Char.isAlphanum strayLog "s").map TimelineMessage.id).Nodup :=
  ⟨by decide, by decide, by decide⟩

end StrayLog

end DevCommandCenter.Timeline
