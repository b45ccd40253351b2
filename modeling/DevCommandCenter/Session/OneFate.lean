import DevCommandCenter.Session.TurnSteps

/-! What becomes of a queued turn: it is handed to the provider at most once, and not after it was
removed. -/

namespace DevCommandCenter

def TurnAnswer.sent? : TurnAnswer → Option String
  | .sent id => some id
  | _ => none

def TurnAnswer.removed? : TurnAnswer → Option String
  | .removed id => some id
  | _ => none

def sentTurnIds (events : List (TurnAction × TurnAnswer)) : List String :=
  events.filterMap fun event => event.2.sent?

def removedTurnIds (events : List (TurnAction × TurnAnswer)) : List String :=
  events.filterMap fun event => event.2.removed?

def NeverSentAfterRemoval (events : List (TurnAction × TurnAnswer)) : Prop :=
  ∀ before event after id, events = before ++ event :: after → event.2 = .removed id →
    ∀ later ∈ after, later.2 ≠ .sent id

/-- No removal is appended of a turn that a dispatch has chosen and not handed over yet. -/
def removesUnpicked (s : SessionTurns) : TurnAction → Bool
  | .advance i draw =>
      match s.calls[i]? with
      | some (.removing id history) =>
          draw.fault.isSome || decide (id ∉ queuedTurnIdsOf (projectTurnQueue history)) ||
            decide (s.transition.bind Transition.picked ≠ some id)
      | _ => true
  | _ => true

def IsTakenOut (log : List SessionEventRecord) (queuedTurnId : String) : Prop :=
  ∃ event ∈ log, takesOut queuedTurnId event.kind = true

/-- A turn is queued under a new id, and only a turn that was queued is taken out. -/
def QueuesOnce (log : List SessionEventRecord) : Prop :=
  ∀ before event after, log = before ++ event :: after →
    (∀ turn, event.kind = .turnQueued turn → ¬IsQueued before turn.id) ∧
    ∀ id, takesOut id event.kind = true → IsQueued before id

section Logs

variable {log rest : List SessionEventRecord} {event : SessionEventRecord} {id : String}

lemma IsQueued.append (h : IsQueued log id) (rest : List SessionEventRecord) :
    IsQueued (log ++ rest) id := by
  obtain ⟨event, hevent, hturn⟩ := h
  exact ⟨event, List.mem_append_left _ hevent, hturn⟩

lemma IsTakenOut.append (h : IsTakenOut log id) (rest : List SessionEventRecord) :
    IsTakenOut (log ++ rest) id := by
  obtain ⟨event, hevent, hout⟩ := h
  exact ⟨event, List.mem_append_left _ hevent, hout⟩

lemma isTakenOut_last (h : takesOut id event.kind = true) : IsTakenOut (log ++ [event]) id :=
  ⟨event, by simp, h⟩

lemma isQueued_of_mem_queue (h : id ∈ queuedTurnIdsOf (projectTurnQueue log)) : IsQueued log id := by
  obtain ⟨turn, hturn, rfl⟩ := List.mem_map.mp h
  obtain ⟨before, event, after, rfl, hkind, -⟩ := mem_projectTurnQueue hturn
  exact ⟨event, by simp, turn, hkind, rfl⟩

lemma queuesOnce_nil : QueuesOnce [] := by
  intro before event after hlog
  cases before <;> cases hlog

lemma QueuesOnce.append (h : QueuesOnce log)
    (hqueues : ∀ turn, event.kind = .turnQueued turn → ¬IsQueued log turn.id)
    (htakes : ∀ id, takesOut id event.kind = true → IsQueued log id) :
    QueuesOnce (log ++ [event]) := by
  intro before event' after hlog
  obtain ⟨rest, -, hsplit⟩ | ⟨rfl, rfl, -⟩ := Library.split_append.mp hlog
  · exact h before event' rest hsplit
  · exact ⟨hqueues, htakes⟩

lemma QueuesOnce.not_takenOut (h : QueuesOnce log) {turn : QueuedTurn}
    (hturn : turn ∈ projectTurnQueue log) : ¬IsTakenOut log turn.id := by
  obtain ⟨before, event, after, rfl, hkind, hafter⟩ := mem_projectTurnQueue hturn
  rintro ⟨out, hout, htakes⟩
  rcases List.mem_append.mp hout with hbefore | hrest
  · obtain ⟨l₁, l₂, rfl⟩ := List.append_of_mem hbefore
    have hearlier := (h l₁ out (l₂ ++ event :: after) (by simp)).2 _ htakes
    exact (h _ event after rfl).1 turn hkind (hearlier.append _)
  · rcases List.mem_cons.mp hrest with rfl | hrest
    · rw [hkind] at htakes
      cases htakes
    · rw [hafter out hrest] at htakes
      cases htakes

end Logs

structure Handles (sessionId : SessionId) (s : SessionTurns) (answer : TurnAnswer)
    (t : SessionTurns) : Prop where
  log : t.log sessionId = s.log sessionId ∨ ∃ event, t.log sessionId = s.log sessionId ++ [event] ∧
    (∀ turn, event.kind = .turnQueued turn → ¬IsQueued (s.log sessionId) turn.id) ∧
    ∀ id, takesOut id event.kind = true →
      (∃ held, s.transition = some held ∧ held.picked = some id) ∨
      ∃ history, .removing id history ∈ s.calls ∧
        id ∈ queuedTurnIdsOf (projectTurnQueue history)
  removing : ∀ id history, .removing id history ∈ t.calls →
    .removing id history ∈ s.calls ∨ history = s.log sessionId
  picked : ∀ held id, t.transition = some held → held.picked = some id →
    (∃ before, s.transition = some before ∧ before.picked = some id) ∨
    ∃ queued ∈ projectTurnQueue (s.log sessionId), queued.id = id
  marked : ∀ id turnId, t.transition = some (.sending (some id) turnId) →
    s.transition = some (.sending (some id) turnId) ∨ IsTakenOut (t.log sessionId) id
  sent : ∀ id, answer = .sent id → (∃ turnId, s.transition = some (.sending (some id) turnId)) ∧
    ∀ held, t.transition = some held → held.picked = none
  removed : ∀ id, answer = .removed id → IsTakenOut (t.log sessionId) id

section Steps

variable {sessionId : SessionId} {s t : SessionTurns} {action : TurnAction} {answer : TurnAnswer}

lemma handles_of_transition_kept
    (hlog : t.log sessionId = s.log sessionId ∨ ∃ event,
      t.log sessionId = s.log sessionId ++ [event] ∧
      (∀ turn, event.kind = .turnQueued turn → ¬IsQueued (s.log sessionId) turn.id) ∧
      ∀ id, takesOut id event.kind = true → ∃ history, .removing id history ∈ s.calls ∧
        id ∈ queuedTurnIdsOf (projectTurnQueue history))
    (hremoving : ∀ id history, .removing id history ∈ t.calls →
      .removing id history ∈ s.calls ∨ history = s.log sessionId)
    (htransition : t.transition = s.transition) (hsent : ∀ id, answer ≠ .sent id)
    (hremoved : ∀ id, answer = .removed id → IsTakenOut (t.log sessionId) id) :
    Handles sessionId s answer t where
  log := hlog.imp_right fun ⟨event, hafter, hqueues, htakes⟩ =>
    ⟨event, hafter, hqueues, fun id hout => .inr (htakes id hout)⟩
  removing := hremoving
  picked held _ hheld hid := .inl ⟨held, htransition ▸ hheld, hid⟩
  marked _ _ hsending := .inl (htransition ▸ hsending)
  sent id hid := absurd hid (hsent id)
  removed := hremoved

lemma handles_of_read (hlog : t.log sessionId = s.log sessionId)
    (hremoving : ∀ id history, .removing id history ∈ t.calls →
      .removing id history ∈ s.calls ∨ history = s.log sessionId)
    (hpicked : ∀ held, t.transition = some held → held.picked = none)
    (hsent : ∀ id, answer ≠ .sent id) (hremoved : ∀ id, answer ≠ .removed id) :
    Handles sessionId s answer t where
  log := .inl hlog
  removing := hremoving
  picked held id hheld hid := by simp [hpicked held hheld] at hid
  marked id turnId hsending := nomatch hpicked _ hsending
  sent id hid := absurd hid (hsent id)
  removed id hid := absurd hid (hremoved id)

lemma untouched {log : List SessionEventRecord} {kind : SessionEventKind} {P : String → Prop}
    (hqueues : ∀ turn, kind ≠ .turnQueued turn) (htakes : ∀ id, takesOut id kind = false) :
    (∀ turn, kind = .turnQueued turn → ¬IsQueued log turn.id) ∧
      ∀ id, takesOut id kind = true → P id := by
  constructor
  · intro turn hturn
    exact absurd hturn (hqueues turn)
  · intro id hout
    rw [htakes id] at hout
    cases hout

lemma startedTurn_takesOut {kind : SessionEventKind} {turnId : TurnId}
    (h : startedTurn kind = some turnId) (id : String) : takesOut id kind = false := by
  cases kind with
  | turnStarted => rfl
  | _ => cases h

lemma removing_of_set {i : ℕ} {c' : TurnCall} (hcalls : t.calls = s.calls.set i c')
    (hc' : ∀ id history, c' = .removing id history → history = s.log sessionId) (id : String)
    (history : List SessionEventRecord) (h : .removing id history ∈ t.calls) :
    .removing id history ∈ s.calls ∨ history = s.log sessionId := by
  rw [hcalls] at h
  exact (List.mem_or_eq_of_mem_set h).imp_right fun heq => hc' id history heq.symm

lemma callEffect_handles {i : ℕ} {c c' : TurnCall} (hc : s.calls[i]? = some c)
    (hcalls : t.calls = s.calls.set i c') (h : CallEffect (s.log sessionId) s.transition c answer
      (t.log sessionId) t.transition c') : Handles sessionId s answer t := by
  generalize hafter : t.log sessionId = log' at h
  generalize htransition : t.transition = held' at h
  cases h with
  | reads _ _ hreading =>
      exact handles_of_transition_kept (.inl hafter) (removing_of_set hcalls hreading) htransition
        (by simp) (by simp)
  | queues hkind hnew =>
      refine handles_of_transition_kept (.inr ⟨_, hafter, fun turn hturn => ?_, fun id hout => ?_⟩)
        (removing_of_set hcalls (by simp)) htransition (by simp) (by simp)
      · rw [hkind] at hturn
        cases hturn
        exact hnew
      · rw [hkind] at hout
        cases hout
  | @removes removedId history event _ hkind hqueued hanswer =>
      refine handles_of_transition_kept (.inr ⟨_, hafter, fun turn hturn => ?_, fun id hout => ?_⟩)
        (removing_of_set hcalls (by simp)) htransition (fun id hsent => ?_) fun id hremoved => ?_
      · rw [hkind] at hturn
        cases hturn
      · rw [hkind] at hout
        obtain rfl : id = removedId := of_decide_eq_true hout
        exact ⟨history, List.mem_of_getElem? hc, hqueued⟩
      · rcases hanswer with rfl | rfl <;> cases hsent
      · rcases hanswer with rfl | rfl <;> cases hremoved
        rw [hafter]
        exact isTakenOut_last (by simp [hkind, takesOut])
  | reorders hkind =>
      exact handles_of_transition_kept (.inr ⟨_, hafter, untouched (by simp [hkind]) (by simp [hkind, takesOut])⟩)
        (removing_of_set hcalls (by simp)) htransition (by simp) (by simp)
  | completes hkind =>
      exact handles_of_transition_kept (.inr ⟨_, hafter, untouched (by simp [hkind]) (by simp [hkind, takesOut])⟩)
        (removing_of_set hcalls (by simp)) htransition (by simp) (by simp)
  | allowed =>
      exact handles_of_transition_kept (.inl hafter) (removing_of_set hcalls (by simp)) htransition
        (by simp) (by simp)
  | undispatched =>
      exact handles_of_transition_kept (.inl hafter) (removing_of_set hcalls (by simp)) htransition
        (by simp) (by simp)
  | dispatches hfree =>
      refine handles_of_read hafter (removing_of_set hcalls (by simp)) (fun held hheld => ?_) (by simp) (by simp)
      rw [htransition] at hheld
      cases hheld
      rfl
  | sends hfree =>
      refine handles_of_read hafter (removing_of_set hcalls (by simp)) (fun held hheld => ?_) (by simp) (by simp)
      rw [htransition] at hheld
      cases hheld
      rfl

lemma handles_of_held {h : Transition} (hheld : s.transition = some h) (hcalls : t.calls = s.calls)
    (hlog : t.log sessionId = s.log sessionId ∨ ∃ event,
      t.log sessionId = s.log sessionId ++ [event] ∧
      (∀ turn, event.kind = .turnQueued turn → ¬IsQueued (s.log sessionId) turn.id) ∧
      ∀ id, takesOut id event.kind = true → h.picked = some id)
    (hpicked : ∀ h', t.transition = some h' → h'.picked = h.picked ∨ h'.picked = none)
    (hmarked : ∀ id turnId, t.transition = some (.sending (some id) turnId) →
      IsTakenOut (t.log sessionId) id)
    (hsent : ∀ id, answer ≠ .sent id) (hremoved : ∀ id, answer ≠ .removed id) :
    Handles sessionId s answer t where
  log := hlog.imp_right fun ⟨event, hafter, hqueues, htakes⟩ =>
    ⟨event, hafter, hqueues, fun id hout => .inl ⟨h, hheld, htakes id hout⟩⟩
  removing _ _ hmem := .inl (hcalls ▸ hmem)
  picked h' id hh' hid := by
    rcases hpicked h' hh' with hsame | hnone
    · exact .inl ⟨h, hheld, hsame ▸ hid⟩
    · rw [hnone] at hid
      cases hid
  marked id turnId hsending := .inr (hmarked id turnId hsending)
  sent id hid := absurd hid (hsent id)
  removed id hid := absurd hid (hremoved id)

lemma holderEffect_handles {h : Transition} (hheld : s.transition = some h)
    (hcalls : t.calls = s.calls) (heffect : HolderEffect (s.log sessionId) h answer (t.log sessionId)
      t.transition) : Handles sessionId s answer t := by
  have hremoving : ∀ id history, .removing id history ∈ t.calls →
      .removing id history ∈ s.calls ∨ history = s.log sessionId :=
    fun id history hmem => .inl (hcalls ▸ hmem)
  generalize hafter : t.log sessionId = log' at heffect
  generalize htransition : t.transition = held' at heffect
  cases heffect with
  | findsNothing hqueue =>
      exact handles_of_read hafter hremoving (by simp [htransition]) (by simp) (by simp)
  | @picks queued turn hqueued =>
      refine ⟨.inl hafter, hremoving, fun held id hh hid => .inr ⟨queued, hqueued, ?_⟩, ?_, (by simp),
        (by simp)⟩
      · rw [htransition] at hh
        cases hh
        exact Option.some.inj hid
      · intro id turnId hsending
        rw [htransition] at hsending
        cases hsending
  | reads =>
      refine handles_of_held hheld hcalls (.inl hafter) (fun h' hh' => ?_) (fun id turnId hh' => ?_)
        (by simp) (by simp)
      · rw [htransition] at hh'
        cases hh'
        exact .inl rfl
      · rw [htransition] at hh'
        cases hh'
  | starts hstarted =>
      refine handles_of_held hheld hcalls (.inr ⟨_, hafter, untouched (fun turn hturn => ?_)
        fun id => ?_⟩) (fun h' hh' => ?_) (fun id turnId hh' => ?_) (by simp) (by simp)
      · rw [hturn] at hstarted
        cases hstarted
      · exact startedTurn_takesOut hstarted id
      · rw [htransition] at hh'
        cases hh'
        exact .inl rfl
      · rw [htransition] at hh'
        cases hh'
  | proceeds _ _ hpicked hsending =>
      refine handles_of_held hheld hcalls (.inl hafter) (fun h' hh' => ?_) (fun id turnId hh' => ?_)
        (by simp) (by simp)
      · rw [htransition] at hh'
        cases hh'
        exact hpicked
      · rw [htransition] at hh'
        exact absurd (Option.some.inj hh') (hsending id turnId)
  | @marks markedId turnId history event next hkind hnext =>
      have hout : takesOut markedId event.kind = true := by simp [hkind, takesOut]
      refine handles_of_held hheld hcalls (.inr ⟨_, hafter, fun turn hturn => ?_, fun id hid => ?_⟩)
        (fun h' hh' => ?_) (fun id turnId hh' => ?_) (by simp) (by simp)
      · rw [hkind] at hturn
        cases hturn
      · rw [hkind] at hid
        exact congrArg some (of_decide_eq_true hid).symm
      · rw [htransition] at hh'
        cases hh'
        rcases hnext with rfl | rfl
        · exact .inl rfl
        · exact .inr rfl
      · rw [htransition] at hh'
        rcases hnext with rfl | rfl <;> cases hh'
        rw [hafter]
        exact isTakenOut_last hout
  | @hands sentId turnId _ hnext =>
      have hfree : ∀ held, t.transition = some held → held.picked = none := by
        intro held hh
        rw [htransition] at hh
        rcases hnext with rfl | rfl <;> cases hh
        rfl
      refine ⟨.inl hafter, hremoving, fun held id hh hid => ?_, fun id turnId hh => ?_,
        fun id hid => ⟨?_, hfree⟩, (by simp)⟩
      · rw [hfree held hh] at hid
        cases hid
      · cases hfree _ hh
      · cases hid
        exact ⟨turnId, hheld⟩
  | handsDirectly hnext =>
      refine handles_of_read hafter hremoving (fun held hh => ?_) (by simp) (by simp)
      rw [htransition] at hh
      rcases hnext with rfl | rfl <;> cases hh
      rfl
  | fails hanswer =>
      refine handles_of_read hafter hremoving (by simp [htransition]) ?_ ?_
      · rcases hanswer with rfl | ⟨rfl, -⟩ <;> simp
      · rcases hanswer with rfl | ⟨rfl, -⟩ <;> simp
  | @aborts queuedTurnId turnId event hkind =>
      refine handles_of_held hheld hcalls (.inr ⟨_, hafter, untouched (by simp [hkind]) (by simp [hkind, takesOut])⟩)
        (by simp [htransition]) (by simp [htransition]) ?_ ?_
      · cases queuedTurnId <;> simp [dispatchFailure]
      · cases queuedTurnId <;> simp [dispatchFailure]

lemma turnStep_handles (h : TurnStep sessionId s action answer t) : Handles sessionId s answer t := by
  cases h with
  | entered henters hcalls hlog htransition =>
      refine handles_of_transition_kept (.inl hlog) (fun id history hmem => ?_) htransition nofun nofun
      rw [hcalls] at hmem
      rcases List.mem_append.mp hmem with hmem | hmem
      · exact .inl hmem
      · rw [← List.mem_singleton.mp hmem] at henters
        cases henters
  | advanced hc hcalls heffect => exact callEffect_handles hc hcalls heffect
  | held hheld hcalls heffect => exact holderEffect_handles hheld hcalls heffect
  | appended hcalls htransition hlog =>
      refine handles_of_transition_kept (hlog.imp_right fun ⟨event, hkind, hafter⟩ => ?_)
        (fun id history hmem => .inl (hcalls ▸ hmem)) htransition nofun nofun
      refine ⟨event, hafter, untouched (fun turn hturn => ?_) fun id => ?_⟩
      · rw [hturn] at hkind
        cases hkind
      · cases hevent : event.kind <;> first | rfl | (rw [hevent] at hkind; cases hkind)
  | crashed hcalls htransition hlog =>
      refine handles_of_read hlog (fun id history hmem => ?_) (fun held hheld => ?_) ?_ ?_
      · rw [hcalls] at hmem
        cases hmem
      · rw [htransition] at hheld
        cases hheld
      · intro id
        split <;> nofun
      · intro id
        split <;> nofun

end Steps

/-- The queued turns so far: each was handed over at most once, and the one that a dispatch has chosen
was not. -/
structure OneFate (sessionId : SessionId) (events : List (TurnAction × TurnAnswer))
    (s : SessionTurns) : Prop where
  once : QueuesOnce (s.log sessionId)
  removing : ∀ id history, .removing id history ∈ s.calls →
    ∀ queued, IsQueued history queued → IsQueued (s.log sessionId) queued
  picked : ∀ held id, s.transition = some held → held.picked = some id →
    IsQueued (s.log sessionId) id ∧ id ∉ sentTurnIds events
  marked : ∀ id turnId, s.transition = some (.sending (some id) turnId) →
    IsTakenOut (s.log sessionId) id
  sent : ∀ id ∈ sentTurnIds events, IsTakenOut (s.log sessionId) id
  removed : ∀ id ∈ removedTurnIds events, IsTakenOut (s.log sessionId) id
  nodup : (sentTurnIds events).Nodup

section Runs

variable {sessionId : SessionId} {s t : SessionTurns} {events : List (TurnAction × TurnAnswer)}
  {action : TurnAction} {answer : TurnAnswer}

lemma mem_sentTurnIds_append {id : String} : id ∈ sentTurnIds (events ++ [(action, answer)]) ↔
    id ∈ sentTurnIds events ∨ answer = .sent id := by
  rw [sentTurnIds, List.filterMap_append, List.mem_append]
  refine or_congr Iff.rfl ?_
  cases answer <;> simp [TurnAnswer.sent?, eq_comm]

lemma mem_removedTurnIds_append {id : String} : id ∈ removedTurnIds (events ++ [(action, answer)]) ↔
    id ∈ removedTurnIds events ∨ answer = .removed id := by
  rw [removedTurnIds, List.filterMap_append, List.mem_append]
  refine or_congr Iff.rfl ?_
  cases answer <;> simp [TurnAnswer.removed?, eq_comm]

lemma nodup_sentTurnIds_append (h : (sentTurnIds events).Nodup)
    (hnew : ∀ id, answer = .sent id → id ∉ sentTurnIds events) :
    (sentTurnIds (events ++ [(action, answer)])).Nodup := by
  rw [sentTurnIds, List.filterMap_append]
  refine h.append ?_ ?_
  · cases answer <;> simp [TurnAnswer.sent?]
  · intro id hid hlast
    cases answer with
    | sent sentId =>
        obtain rfl : id = sentId := by simpa [TurnAnswer.sent?] using hlast
        exact hnew id rfl hid
    | _ => simp [TurnAnswer.sent?] at hlast

lemma Handles.log_append (h : Handles sessionId s answer t) :
    ∃ rest, t.log sessionId = s.log sessionId ++ rest := by
  rcases h.log with hsame | ⟨event, hlog, -⟩
  · exact ⟨[], by simp [hsame]⟩
  · exact ⟨[event], hlog⟩

lemma OneFate.next (h : OneFate sessionId events s) (hstep : Handles sessionId s answer t) :
    OneFate sessionId (events ++ [(action, answer)]) t := by
  obtain ⟨rest, hrest⟩ := hstep.log_append
  have hqueued : ∀ id, IsQueued (s.log sessionId) id → IsQueued (t.log sessionId) id :=
    fun id hid => hrest ▸ hid.append rest
  have htaken : ∀ id, IsTakenOut (s.log sessionId) id → IsTakenOut (t.log sessionId) id :=
    fun id hid => hrest ▸ hid.append rest
  have hunsent : ∀ queued ∈ projectTurnQueue (s.log sessionId), queued.id ∉ sentTurnIds events :=
    fun queued hmem hsent => h.once.not_takenOut hmem (h.sent _ hsent)
  refine ⟨?_, fun id history hmem => ?_, fun held id hheld hid => ?_, fun id turnId hsending => ?_,
    fun id hid => ?_, fun id hid => ?_, ?_⟩
  · rcases hstep.log with hsame | ⟨event, hlog, hqueues, htakes⟩
    · rw [hsame]
      exact h.once
    · rw [hlog]
      refine h.once.append hqueues fun id hout => ?_
      rcases htakes id hout with ⟨held, hheld, hid⟩ | ⟨history, hmem, hid⟩
      · exact (h.picked held id hheld hid).1
      · exact h.removing id history hmem id (isQueued_of_mem_queue hid)
  · rcases hstep.removing id history hmem with hmem | rfl
    · exact fun queued hid => hqueued queued (h.removing id history hmem queued hid)
    · exact hqueued
  · have hbefore : IsQueued (s.log sessionId) id ∧ id ∉ sentTurnIds events := by
      rcases hstep.picked held id hheld hid with ⟨before, hbefore, hid⟩ | ⟨queued, hmem, rfl⟩
      · exact h.picked before id hbefore hid
      · exact ⟨isQueued_of_mem_queue (List.mem_map_of_mem hmem), hunsent queued hmem⟩
    refine ⟨hqueued id hbefore.1, fun hsent => ?_⟩
    rcases mem_sentTurnIds_append.mp hsent with hsent | hsent
    · exact hbefore.2 hsent
    · rw [(hstep.sent id hsent).2 held hheld] at hid
      cases hid
  · rcases hstep.marked id turnId hsending with hbefore | hmarked
    · exact htaken id (h.marked id turnId hbefore)
    · exact hmarked
  · rcases mem_sentTurnIds_append.mp hid with hid | hid
    · exact htaken id (h.sent id hid)
    · obtain ⟨⟨turnId, hsending⟩, -⟩ := hstep.sent id hid
      exact htaken id (h.marked id turnId hsending)
  · rcases mem_removedTurnIds_append.mp hid with hid | hid
    · exact htaken id (h.removed id hid)
    · exact hstep.removed id hid
  · refine nodup_sentTurnIds_append h.nodup fun id hid => ?_
    obtain ⟨⟨turnId, hsending⟩, -⟩ := hstep.sent id hid
    exact (h.picked _ id hsending rfl).2

lemma oneFate_start : OneFate sessionId [] (sessionTurns sessionId).start where
  once := queuesOnce_nil
  removing _ _ hmem := by simp [sessionTurns] at hmem
  picked _ _ hheld := by simp [sessionTurns] at hheld
  marked _ _ hsending := by simp [sessionTurns] at hsending
  sent _ hid := by simp [sentTurnIds] at hid
  removed _ hid := by simp [removedTurnIds] at hid
  nodup := .nil

theorem oneFate_run (h : (sessionTurns sessionId).Run (sessionTurns sessionId).start events s) :
    OneFate sessionId events s := by
  induction h with
  | nil => exact oneFate_start
  | concat _ hstep _ ih => exact ih.next (turnStep_handles (sessionTurns_step hstep))

structure StaysRemoved (events : List (TurnAction × TurnAnswer)) (s : SessionTurns) : Prop where
  unpicked : ∀ held id, s.transition = some held → held.picked = some id →
    id ∉ removedTurnIds events
  never : NeverSentAfterRemoval events

lemma staysRemoved_start : StaysRemoved [] (sessionTurns sessionId).start where
  unpicked _ _ hheld := by simp [sessionTurns] at hheld
  never before event after id hevents := by simp at hevents

lemma neverSentAfterRemoval_append (h : NeverSentAfterRemoval events)
    (hnew : ∀ id, answer = .sent id → id ∉ removedTurnIds events) :
    NeverSentAfterRemoval (events ++ [(action, answer)]) := by
  intro before event after id hevents hremoved later hlater
  obtain ⟨rest, rfl, rfl⟩ | ⟨-, -, rfl⟩ := Library.split_append.mp hevents
  · rcases List.mem_append.mp hlater with hlater | hlater
    · exact h before event rest id rfl hremoved later hlater
    · rw [List.mem_singleton.mp hlater]
      intro hsent
      refine hnew id hsent (List.mem_filterMap.mpr ⟨event, by simp, ?_⟩)
      rw [hremoved]
      rfl
  · cases hlater

lemma holderEffect_not_removed {log log' : List SessionEventRecord} {h : Transition}
    {held : Option Transition} (heffect : HolderEffect log h answer log' held) (id : String) :
    answer ≠ .removed id := by
  cases heffect with
  | fails hanswer => rcases hanswer with rfl | ⟨rfl, -⟩ <;> nofun
  | @aborts queuedTurnId _ _ _ => cases queuedTurnId <;> nofun
  | _ => nofun

lemma removing_faultless {i : ℕ} {draw : TurnDraw} {id removedId : String}
    {history : List SessionEventRecord}
    (h : callStep sessionId s i draw (.removing id history) = some (.removed removedId, t)) :
    draw.fault = none := by
  simp only [callStep, Option.ite_none_right_eq_some] at h
  obtain ⟨-, h⟩ := h
  split at h
  · cases h
  · assumption

lemma removed_unpicked {id : String}
    (hstep : (sessionTurns sessionId).step s action = some (.removed id, t))
    (hok : removesUnpicked s action = true) :
    t.transition = s.transition ∧ s.transition.bind Transition.picked ≠ some id := by
  generalize hanswer : TurnAnswer.removed id = answer at hstep
  cases sessionTurns_step hstep with
  | entered => cases hanswer
  | @advanced i draw c c' _ _ hc hcalls heffect =>
      subst hanswer
      have hcall : callStep sessionId s i draw c = some (.removed id, t) := by
        simpa [sessionTurns, hc] using hstep
      generalize hlog : t.log sessionId = log' at heffect
      generalize htransition : t.transition = held' at heffect
      cases heffect with
      | removes hkind hqueued hremoved =>
          cases hremoved.resolve_left (by simp)
          have hfault := removing_faultless hcall
          simp only [removesUnpicked, hc, hfault, Option.isSome_none, Bool.false_or, Bool.or_eq_true,
            decide_eq_true_eq] at hok
          exact ⟨rfl, hok.resolve_left (not_not_intro hqueued)⟩
  | held hheld hcalls heffect => exact absurd hanswer.symm (holderEffect_not_removed heffect id)
  | appended => cases hanswer
  | crashed => split at hanswer <;> cases hanswer

lemma StaysRemoved.next (h : StaysRemoved events s) (hfate : OneFate sessionId events s)
    (hstep : (sessionTurns sessionId).step s action = some (answer, t))
    (hok : removesUnpicked s action = true) :
    StaysRemoved (events ++ [(action, answer)]) t := by
  have hhandles := turnStep_handles (sessionTurns_step hstep)
  refine ⟨fun held id hheld hid hremoved => ?_, neverSentAfterRemoval_append h.never fun id hid => ?_⟩
  · rcases mem_removedTurnIds_append.mp hremoved with hremoved | rfl
    · rcases hhandles.picked held id hheld hid with ⟨before, hbefore, hid⟩ | ⟨queued, hmem, rfl⟩
      · exact h.unpicked before id hbefore hid hremoved
      · exact hfate.once.not_takenOut hmem (hfate.removed _ hremoved)
    · obtain ⟨hsame, hne⟩ := removed_unpicked hstep hok
      rw [hsame] at hheld
      exact hne (by rw [hheld]; exact hid)
  · obtain ⟨⟨turnId, hsending⟩, -⟩ := hhandles.sent id hid
    exact h.unpicked _ id hsending rfl

theorem staysRemoved_run
    (h : ((sessionTurns sessionId).restrict removesUnpicked).Run (sessionTurns sessionId).start events
      s) : OneFate sessionId events s ∧ StaysRemoved events s := by
  induction h with
  | nil => exact ⟨oneFate_start, staysRemoved_start⟩
  | concat _ hstep _ ih =>
      obtain ⟨hok, hstep⟩ := Library.System.restrict_step.mp hstep
      obtain ⟨hfate, hstays⟩ := ih
      exact ⟨hfate.next (turnStep_handles (sessionTurns_step hstep)), hstays.next hfate hstep hok⟩

end Runs

theorem one_fate {sessionId : SessionId} {events : List (TurnAction × TurnAnswer)}
    {s : SessionTurns} (hrun : (sessionTurns sessionId).Run (sessionTurns sessionId).start events s) :
    (sentTurnIds events).Nodup ∧
    (((sessionTurns sessionId).restrict removesUnpicked).Run (sessionTurns sessionId).start events s →
      NeverSentAfterRemoval events) := by
  exact ⟨(oneFate_run hrun).nodup, fun hrestricted => (staysRemoved_run hrestricted).2.never⟩

section RemovedWhileChosen

def demoChosen : List TurnAction :=
  demoRunning ++ demoQueues ++ demoCompletes "event-4" 2

def demoRemoves : List TurnAction :=
  [.enter (.removeQueuedTurn "a"),
    .advance 3 (demoTurnDraw "" ""),
    .advance 3 (demoTurnDraw "event-5" "")]

def demoEvents (actions : List TurnAction) : List (TurnAction × TurnAnswer) :=
  (((sessionTurns demoSession).restrict removesUnpicked).perform (sessionTurns demoSession).start
    actions).1

theorem one_fate_demo :
    (demoEvents (demoChosen ++ demoSends)).map Prod.snd =
      List.replicate 24 .quiet ++ [.sent "a"] ∧
    (sentTurnIds (demoEvents (demoChosen ++ demoSends))).Nodup ∧
    NeverSentAfterRemoval (demoEvents (demoChosen ++ demoSends)) := by
  have hrestricted := Library.System.run_perform
    ((sessionTurns demoSession).restrict removesUnpicked) (sessionTurns demoSession).start
    (demoChosen ++ demoSends)
  have hfate := one_fate (Library.System.run_of_restrict hrestricted)
  exact ⟨by decide +kernel, hfate.1, hfate.2 hrestricted⟩

theorem removed_turn_sent :
    ∃ events s, (sessionTurns demoSession).Run (sessionTurns demoSession).start events s ∧
      events.map Prod.snd = List.replicate 20 .quiet ++ .removed "a" ::
        (List.replicate 6 .quiet ++ [.sent "a"]) ∧
      ¬NeverSentAfterRemoval events := by
  have hrun := Library.System.run_perform (sessionTurns demoSession) (sessionTurns demoSession).start
    (demoChosen ++ demoRemoves ++ demoSends)
  have hanswers : ((sessionTurns demoSession).perform (sessionTurns demoSession).start
      (demoChosen ++ demoRemoves ++ demoSends)).1.map Prod.snd = List.replicate 20 .quiet ++
        .removed "a" :: (List.replicate 6 .quiet ++ [.sent "a"]) := by decide +kernel
  refine ⟨_, _, hrun, hanswers, fun hnever => ?_⟩
  obtain ⟨before, rest, hevents, -, hrest⟩ := List.map_eq_append_iff.mp hanswers
  obtain ⟨removal, after, rfl, hremoval, hafter⟩ := List.map_eq_cons_iff.mp hrest
  have hlast : TurnAnswer.sent "a" ∈ after.map Prod.snd := by simp [hafter]
  obtain ⟨later, hlater, hsent⟩ := List.mem_map.mp hlast
  exact hnever before removal after "a" hevents hremoval later hlater hsent

end RemovedWhileChosen

end DevCommandCenter
