import DevCommandCenter.Session.TurnSteps

/-! Whether a queued turn can be left behind: only the end of a turn dispatches the queue. -/

namespace DevCommandCenter

def lastTurnAfter (last : Option (TurnId × Bool)) (event : SessionEventRecord) :
    Option (TurnId × Bool) :=
  match event.kind with
  | .turnStarted turnId .. => some (turnId, false)
  | .turnCompleted turnId => last.map fun turn => (turn.1, turn.2 || decide (turn.1 = turnId))
  | _ => last

def lastTurn (log : List SessionEventRecord) : Option (TurnId × Bool) :=
  log.foldl lastTurnAfter none

def lastTurnCompleted (log : List SessionEventRecord) : Bool :=
  (lastTurn log).any Prod.snd

structure Quiescent (sessionId : SessionId) (s : SessionTurns) : Prop where
  free : s.transition = none
  returned : ∀ call ∈ s.calls, call = .returned
  inactive : activeTurnId (s.log sessionId) = none

def queuesInTime (sessionId : SessionId) (s : SessionTurns) : TurnAction → Bool
  | .advance i draw =>
      match s.calls[i]? with
      | some (.queueingFrom ..) => draw.fault.isSome || (activeTurnId (s.log sessionId)).isSome ||
          s.dispatchUnderWay || !lastTurnCompleted (s.log sessionId)
      | _ => true
  | _ => true

section Logs

variable {log : List SessionEventRecord} {event : SessionEventRecord}

lemma lastTurn_append : lastTurn (log ++ [event]) = lastTurnAfter (lastTurn log) event := by
  simp [lastTurn]

lemma activeTurnId_append :
    activeTurnId (log ++ [event]) = activeTurnAfter (activeTurnId log) event := by
  simp [activeTurnId]

def ActiveIsLast (log : List SessionEventRecord) : Prop :=
  ∀ turnId, activeTurnId log = some turnId → lastTurn log = some (turnId, false)

lemma ActiveIsLast.append (h : ActiveIsLast log) : ActiveIsLast (log ++ [event]) := by
  intro turnId hactive
  rw [activeTurnId_append] at hactive
  rw [lastTurn_append]
  unfold activeTurnAfter at hactive
  unfold lastTurnAfter
  cases hkind : event.kind with
  | turnStarted started =>
      simp only [hkind] at hactive
      rw [Option.some.inj hactive]
  | turnCompleted completed =>
      simp only [hkind] at hactive
      split at hactive
      · cases hactive
      · next hne =>
        have hother : turnId ≠ completed := fun heq => hne (heq ▸ hactive)
        simp [h turnId hactive, hother]
  | turnAborted aborted reason =>
      simp only [hkind] at hactive
      split at hactive
      · cases hactive
      · exact h turnId hactive
  | sessionCompleted => simp [hkind] at hactive
  | sessionAborted reason => simp [hkind] at hactive
  | conversationRewound => simp [hkind] at hactive
  | _ =>
      simp only [hkind] at hactive
      exact h turnId hactive

lemma lastTurnCompleted_inactive (h : ActiveIsLast log) (hcompleted : lastTurnCompleted log = true) :
    activeTurnId log = none := by
  cases hactive : activeTurnId log with
  | none => rfl
  | some turnId => simp [lastTurnCompleted, h turnId hactive] at hcompleted

lemma lastTurnCompleted_append (hstarted : startedTurn event.kind = none)
    (hcompleted : ∀ turnId, event.kind ≠ .turnCompleted turnId) :
    lastTurnCompleted (log ++ [event]) = lastTurnCompleted log := by
  rw [lastTurnCompleted, lastTurnCompleted, lastTurn_append, lastTurnAfter]
  cases hkind : event.kind with
  | turnStarted => simp [hkind, startedTurn] at hstarted
  | turnCompleted turnId => exact absurd hkind (hcompleted turnId)
  | _ => rfl

lemma lastTurnCompleted_started {turnId : TurnId} (h : startedTurn event.kind = some turnId) :
    lastTurnCompleted (log ++ [event]) = false := by
  rw [lastTurnCompleted, lastTurn_append, lastTurnAfter]
  cases hkind : event.kind with
  | turnStarted => rfl
  | _ => simp [hkind, startedTurn] at h

lemma projectTurnQueue_append_nil (hqueue : projectTurnQueue log = [])
    (hkind : ∀ turn, event.kind ≠ .turnQueued turn) : projectTurnQueue (log ++ [event]) = [] := by
  rw [projectTurnQueue_append, hqueue]
  unfold projectQueueEvent
  split
  · next turn hturn => exact absurd hturn (hkind turn)
  · rfl
  · rfl
  · next ids _ => exact List.filterMap_eq_nil_iff.mpr fun id _ => rfl
  · rfl

end Logs

section UnderWay

variable {sessionId : SessionId} {s t : SessionTurns}

lemma dispatchUnderWay_iff : s.dispatchUnderWay = true ↔
    (∃ call ∈ s.calls, call.dispatches = true) ∨
      ∃ held, s.transition = some held ∧ held.dispatches = true := by
  cases htransition : s.transition <;> simp [SessionTurns.dispatchUnderWay, htransition]

lemma dispatches_set {i : ℕ} {c c' : TurnCall} (hc : s.calls[i]? = some c)
    (hnot : c.dispatches = false) (h : ∃ call ∈ s.calls, call.dispatches = true) :
    ∃ call ∈ s.calls.set i c', call.dispatches = true := by
  obtain ⟨call, hcall, hdispatches⟩ := h
  obtain ⟨j, hj, rfl⟩ := List.getElem_of_mem hcall
  refine ⟨s.calls[j], List.mem_iff_getElem?.mpr ⟨j, ?_⟩, hdispatches⟩
  have hne : i ≠ j := by
    rintro rfl
    rw [List.getElem?_eq_getElem hj, Option.some.injEq] at hc
    rw [hc, hnot] at hdispatches
    cases hdispatches
  rw [List.getElem?_set_ne hne, List.getElem?_eq_getElem hj]

inductive Waits (sessionId : SessionId) (s : SessionTurns) (action : TurnAction) (t : SessionTurns) :
    Prop
  | unchanged : t.log sessionId = s.log sessionId →
      (s.dispatchUnderWay = true → t.dispatchUnderWay = true ∨
        projectTurnQueue (s.log sessionId) = []) → Waits sessionId s action t
  | started {event : SessionEventRecord} {turnId : TurnId} :
      startedTurn event.kind = some turnId →
      t.log sessionId = s.log sessionId ++ [event] → Waits sessionId s action t
  | completed {event : SessionEventRecord} : t.log sessionId = s.log sessionId ++ [event] →
      t.dispatchUnderWay = true → Waits sessionId s action t
  | queued {event : SessionEventRecord} {queued : QueuedTurn} {i : ℕ} {draw : TurnDraw}
      {turn : SendTurnInput} {history : List SessionEventRecord} :
      event.kind = .turnQueued queued → action = .advance i draw →
      s.calls[i]? = some (.queueingFrom turn history) → draw.fault = none →
      t.log sessionId = s.log sessionId ++ [event] →
      (s.dispatchUnderWay = true → t.dispatchUnderWay = true) → Waits sessionId s action t
  | other {event : SessionEventRecord} : startedTurn event.kind = none →
      (∀ turnId, event.kind ≠ .turnCompleted turnId) → (∀ turn, event.kind ≠ .turnQueued turn) →
      t.log sessionId = s.log sessionId ++ [event] →
      (s.dispatchUnderWay = true → t.dispatchUnderWay = true) → Waits sessionId s action t

lemma underWay_set {i : ℕ} {c c' : TurnCall} (hc : s.calls[i]? = some c)
    (hcalls : t.calls = s.calls.set i c') (htransition : t.transition = s.transition)
    (hnot : c.dispatches = false) (h : s.dispatchUnderWay = true) : t.dispatchUnderWay = true := by
  rw [dispatchUnderWay_iff, hcalls, htransition]
  exact (dispatchUnderWay_iff.mp h).imp_left (dispatches_set hc hnot)

lemma underWay_of_set {i : ℕ} {c c' : TurnCall} (hc : s.calls[i]? = some c)
    (hcalls : t.calls = s.calls.set i c') (hdispatches : c'.dispatches = true) :
    t.dispatchUnderWay = true := by
  obtain ⟨hi, -⟩ := List.getElem?_eq_some_iff.mp hc
  refine dispatchUnderWay_iff.mpr (.inl ⟨c', ?_, hdispatches⟩)
  rw [hcalls]
  exact List.mem_set hi c'

lemma queueing_faultless {i : ℕ} {draw : TurnDraw} {turn : SendTurnInput}
    {history : List SessionEventRecord} {answer : TurnAnswer} {event : SessionEventRecord}
    (h : callStep sessionId s i draw (.queueingFrom turn history) = some (answer, t))
    (hlog : t.log sessionId = s.log sessionId ++ [event]) : draw.fault = none := by
  simp only [callStep, Option.ite_none_right_eq_some] at h
  obtain ⟨-, h⟩ := h
  split at h
  · cases h
    have hlength := congrArg List.length hlog
    simp [SessionTurns.log, SessionTurns.moves] at hlength
  · assumption

lemma callStep_waits {i : ℕ} {draw : TurnDraw} {c : TurnCall} {answer : TurnAnswer}
    (hc : s.calls[i]? = some c) (hstep : callStep sessionId s i draw c = some (answer, t))
    (hanswer : answer ≠ .undispatched) : Waits sessionId s (.advance i draw) t := by
  obtain ⟨c', hcalls, heffect⟩ := callStep_effect hstep
  generalize hafter : t.log sessionId = log' at heffect
  generalize htransition : t.transition = held' at heffect
  cases heffect with
  | reads hnot _ _ =>
      exact .unchanged hafter fun h => .inl (underWay_set hc hcalls htransition hnot h)
  | queues hkind _ =>
      exact .queued hkind rfl hc (queueing_faultless hstep hafter) hafter
        (underWay_set hc hcalls htransition rfl)
  | removes hkind _ _ =>
      exact .other (by rw [hkind]; rfl) (by simp [hkind]) (by simp [hkind]) hafter
        (underWay_set hc hcalls htransition rfl)
  | reorders hkind =>
      exact .other (by rw [hkind]; rfl) (by simp [hkind]) (by simp [hkind]) hafter
        (underWay_set hc hcalls htransition rfl)
  | completes hkind => exact .completed hafter (underWay_of_set hc hcalls rfl)
  | allowed => exact .unchanged hafter fun _ => .inl (underWay_of_set hc hcalls rfl)
  | undispatched => exact absurd rfl hanswer
  | dispatches _ =>
      exact .unchanged hafter fun _ => .inl
        (dispatchUnderWay_iff.mpr (.inr ⟨.reading, htransition, rfl⟩))
  | sends hfree =>
      refine .unchanged hafter fun h => .inl (dispatchUnderWay_iff.mpr (.inl ?_))
      rw [hcalls]
      rcases dispatchUnderWay_iff.mp h with hwaiting | ⟨held, hheld, -⟩
      · exact dispatches_set hc rfl hwaiting
      · rw [hfree] at hheld
        cases hheld

lemma underWay_of_calls {h : Transition} (hheld : s.transition = some h)
    (hcalls : t.calls = s.calls) (hnot : h.dispatches = false) (hunder : s.dispatchUnderWay = true) :
    t.dispatchUnderWay = true := by
  refine dispatchUnderWay_iff.mpr (.inl (hcalls ▸ ?_))
  refine (dispatchUnderWay_iff.mp hunder).resolve_right ?_
  rintro ⟨held, hheld', hdispatches⟩
  rw [hheld] at hheld'
  cases hheld'
  rw [hnot] at hdispatches
  cases hdispatches

lemma holderStep_waits {draw : TurnDraw} {h : Transition} {answer : TurnAnswer}
    (hheld : s.transition = some h) (hstep : holderStep sessionId s draw h = some (answer, t))
    (hanswer : answer ≠ .undispatched) : Waits sessionId s (.hold draw) t := by
  obtain ⟨hcalls, heffect⟩ := holderStep_effect hstep
  generalize hafter : t.log sessionId = log' at heffect
  generalize htransition : t.transition = held' at heffect
  cases heffect with
  | findsNothing hqueue => exact .unchanged hafter fun _ => .inr hqueue
  | picks _ =>
      exact .unchanged hafter fun _ => .inl
        (dispatchUnderWay_iff.mpr (.inr ⟨_, htransition, rfl⟩))
  | @reads turn queuedTurnId =>
      refine .unchanged hafter fun hunder => .inl ?_
      rw [dispatchUnderWay_iff, hcalls, htransition]
      refine (dispatchUnderWay_iff.mp hunder).imp_right ?_
      rintro ⟨held, hheld', hdispatches⟩
      rw [hheld] at hheld'
      cases hheld'
      exact ⟨_, rfl, hdispatches⟩
  | starts hstarted => exact .started hstarted hafter
  | proceeds hnot _ _ _ =>
      exact .unchanged hafter fun hunder => .inl (underWay_of_calls hheld hcalls hnot hunder)
  | marks hkind _ =>
      exact .other (by rw [hkind]; rfl) (by simp [hkind]) (by simp [hkind]) hafter
        (underWay_of_calls hheld hcalls rfl)
  | hands _ =>
      exact .unchanged hafter fun hunder => .inl (underWay_of_calls hheld hcalls rfl hunder)
  | handsDirectly _ =>
      exact .unchanged hafter fun hunder => .inl (underWay_of_calls hheld hcalls rfl hunder)
  | fails hfails =>
      have hnot := (hfails.resolve_left hanswer).2
      exact .unchanged hafter fun hunder => .inl (underWay_of_calls hheld hcalls hnot hunder)
  | aborts hkind =>
      exact .other (by rw [hkind]; rfl) (by simp [hkind]) (by simp [hkind]) hafter
        (underWay_of_calls hheld hcalls rfl)

lemma sessionTurns_waits {action : TurnAction} {answer : TurnAnswer}
    (h : (sessionTurns sessionId).step s action = some (answer, t))
    (hanswer : answer ≠ .undispatched) : Waits sessionId s action t := by
  cases action with
  | enter call =>
      simp only [sessionTurns, Option.ite_none_right_eq_some] at h
      obtain ⟨-, h⟩ := h
      cases h
      refine .unchanged rfl fun hunder => .inl (dispatchUnderWay_iff.mpr ?_)
      refine (dispatchUnderWay_iff.mp hunder).imp_left ?_
      rintro ⟨call, hcall, hdispatches⟩
      exact ⟨call, List.mem_append_left _ hcall, hdispatches⟩
  | advance i draw =>
      obtain ⟨c, hc, hstep⟩ := Option.bind_eq_some_iff.mp h
      exact callStep_waits hc hstep hanswer
  | hold draw =>
      obtain ⟨held, hheld, hstep⟩ := Option.bind_eq_some_iff.mp h
      exact holderStep_waits hheld hstep hanswer
  | append event =>
      cases sessionTurns_step h with
      | appended hcalls htransition hlog =>
          have hunder : s.dispatchUnderWay = true → t.dispatchUnderWay = true := by
            rw [SessionTurns.dispatchUnderWay, SessionTurns.dispatchUnderWay, hcalls, htransition]
            exact id
          rcases hlog with hsame | ⟨canonical, hkind, hlog⟩
          · exact .unchanged hsame fun h => .inl (hunder h)
          · refine .other ?_ (fun turnId hcompleted => ?_) (fun turn hturn => ?_) hlog hunder
            · cases hevent : canonical.kind with
              | turnStarted =>
                  rw [hevent] at hkind
                  cases hkind
              | _ => rfl
            · rw [hcompleted] at hkind
              cases hkind
            · rw [hturn] at hkind
              cases hkind
  | crash =>
      cases h
      refine .unchanged rfl fun hunder => ?_
      rw [if_pos hunder] at hanswer
      exact absurd rfl hanswer

end UnderWay

/-- After a completed turn, a dispatch is still to come or there is nothing for it to find. -/
structure NoneStranded (sessionId : SessionId) (s : SessionTurns) : Prop where
  active : ActiveIsLast (s.log sessionId)
  served : lastTurnCompleted (s.log sessionId) = true → s.dispatchUnderWay = true ∨
    projectTurnQueue (s.log sessionId) = []

section Runs

variable {sessionId : SessionId} {s t : SessionTurns} {events : List (TurnAction × TurnAnswer)}
  {action : TurnAction}

lemma NoneStranded.next (h : NoneStranded sessionId s) (hstep : Waits sessionId s action t)
    (hok : queuesInTime sessionId s action = true) : NoneStranded sessionId t := by
  cases hstep with
  | unchanged hlog hunder =>
      refine ⟨hlog ▸ h.active, fun hcompleted => ?_⟩
      rw [hlog] at hcompleted ⊢
      rcases h.served hcompleted with hbefore | hqueue
      · exact hunder hbefore
      · exact .inr hqueue
  | started hstarted hlog =>
      refine ⟨hlog ▸ h.active.append, fun hcompleted => ?_⟩
      rw [hlog, lastTurnCompleted_started hstarted] at hcompleted
      cases hcompleted
  | completed hlog hunder => exact ⟨hlog ▸ h.active.append, fun _ => .inl hunder⟩
  | queued hkind haction hcall hfault hlog hunder =>
      refine ⟨hlog ▸ h.active.append, fun hcompleted => .inl (hunder ?_)⟩
      rw [hlog, lastTurnCompleted_append (by rw [hkind]; rfl) (by simp [hkind])] at hcompleted
      subst haction
      simpa [queuesInTime, hcall, hfault, hcompleted,
        lastTurnCompleted_inactive h.active hcompleted] using hok
  | other hstarted hnot hqueues hlog hunder =>
      refine ⟨hlog ▸ h.active.append, fun hcompleted => ?_⟩
      rw [hlog, lastTurnCompleted_append hstarted hnot] at hcompleted
      refine (h.served hcompleted).imp hunder fun hqueue => ?_
      rw [hlog]
      exact projectTurnQueue_append_nil hqueue hqueues

lemma noneStranded_start : NoneStranded sessionId (sessionTurns sessionId).start where
  active turnId hactive := by cases hactive
  served hcompleted := by cases hcompleted

theorem noneStranded_run
    (h : ((sessionTurns sessionId).restrict (queuesInTime sessionId)).Run
      (sessionTurns sessionId).start events s)
    (hdispatched : ∀ event ∈ events, event.2 ≠ .undispatched) : NoneStranded sessionId s := by
  induction h with
  | nil => exact noneStranded_start
  | concat _ hstep _ ih =>
      obtain ⟨hok, hstep⟩ := Library.System.restrict_step.mp hstep
      obtain ⟨hbefore, hlast⟩ := Library.forall_mem_append_singleton.mp hdispatched
      exact (ih hbefore).next (sessionTurns_waits hstep hlast) hok

lemma Quiescent.not_underWay (h : Quiescent sessionId s) : s.dispatchUnderWay = false := by
  rw [Bool.eq_false_iff]
  intro hunder
  rcases dispatchUnderWay_iff.mp hunder with ⟨call, hcall, hdispatches⟩ | ⟨held, hheld, -⟩
  · rw [h.returned call hcall] at hdispatches
    cases hdispatches
  · rw [h.free] at hheld
    cases hheld

end Runs

lemma forall_dispatched {events : List (TurnAction × TurnAnswer)}
    (h : .undispatched ∉ events.map Prod.snd) : ∀ event ∈ events, event.2 ≠ .undispatched :=
  fun _ hevent heq => h (heq ▸ List.mem_map_of_mem hevent)

theorem no_turn_stranded {sessionId : SessionId} {events : List (TurnAction × TurnAnswer)}
    {s : SessionTurns}
    (hrun : ((sessionTurns sessionId).restrict (queuesInTime sessionId)).Run
      (sessionTurns sessionId).start events s)
    (hdispatched : ∀ event ∈ events, event.2 ≠ .undispatched) (hquiescent : Quiescent sessionId s)
    (hcompleted : lastTurnCompleted (s.log sessionId) = true) :
    projectTurnQueue (s.log sessionId) = [] := by
  have hserved := (noneStranded_run hrun hdispatched).served hcompleted
  rw [hquiescent.not_underWay] at hserved
  exact hserved.resolve_left nofun

section QueuedTooLate

def demoServed : List (TurnAction × TurnAnswer) × SessionTurns :=
  ((sessionTurns demoSession).restrict (queuesInTime demoSession)).perform
    (sessionTurns demoSession).start (demoRunning ++ demoQueues ++ demoCompletes "event-4" 2 ++
      demoSends ++ demoCompletes "event-8" 3)

theorem no_turn_stranded_demo :
    demoServed.1.map Prod.snd = List.replicate 24 .quiet ++ [.sent "a"] ++ List.replicate 5 .quiet ∧
      projectTurnQueue (demoServed.2.log demoSession) = [] := by
  have hrun := Library.System.run_perform
    ((sessionTurns demoSession).restrict (queuesInTime demoSession)) (sessionTurns demoSession).start
    (demoRunning ++ demoQueues ++ demoCompletes "event-4" 2 ++ demoSends ++
      demoCompletes "event-8" 3)
  have hanswers : demoServed.1.map Prod.snd =
      List.replicate 24 .quiet ++ [.sent "a"] ++ List.replicate 5 .quiet := by decide +kernel
  have hquiescent : Quiescent demoSession demoServed.2 :=
    ⟨by decide +kernel, by decide +kernel, by decide +kernel⟩
  have hdispatched : ∀ event ∈ demoServed.1, event.2 ≠ .undispatched := by
    apply forall_dispatched
    rw [hanswers]
    decide
  exact ⟨hanswers, no_turn_stranded hrun hdispatched hquiescent (by decide +kernel)⟩

theorem late_turn_stranded :
    ∃ events s, (sessionTurns demoSession).Run (sessionTurns demoSession).start events s ∧
      (∀ event ∈ events, event.2 ≠ .undispatched) ∧ Quiescent demoSession s ∧
      lastTurnCompleted (s.log demoSession) = true ∧
      projectTurnQueue (s.log demoSession) = [demoQueuedTurn] := by
  have hrun := Library.System.run_perform (sessionTurns demoSession) (sessionTurns demoSession).start
    (demoRunning ++ demoQueues.take 3 ++ demoCompletes "event-4" 2 ++ demoQueues.drop 3)
  refine ⟨_, _, hrun, ?_, ⟨?_, ?_, ?_⟩, ?_, ?_⟩
  · exact forall_dispatched (by decide +kernel)
  · decide +kernel
  · decide +kernel
  · decide +kernel
  · decide +kernel
  · decide +kernel

end QueuedTooLate

end DevCommandCenter
