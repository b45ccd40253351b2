import DevCommandCenter.Library.Transition
import DevCommandCenter.Session.TurnQueue
import Mathlib.Data.List.TakeWhile

/-! Taking the conversation back to just before one of its turns, again and again. -/

namespace DevCommandCenter

structure ConversationRewindPlan where
  anchorTurnId : TurnId
  removedTurnIds : List TurnId
  lastKeptTurnId : Option TurnId
  keptTurnCount : ℕ
  anchorPrompt : String
  deriving DecidableEq, Repr

inductive ConversationRewindBlock
  | anchorNotFound
  | turnRunning
  | queuePending
  deriving DecidableEq, Repr

def ConversationRewindBlock.debug : ConversationRewindBlock → String
  | .anchorNotFound => "AnchorNotFound"
  | .turnRunning => "TurnRunning"
  | .queuePending => "QueuePending"

structure RewindScan where
  visibleTurns : List (TurnId × String)
  openTurns : List TurnId
  deriving DecidableEq, Repr

def scanRewindEvent (rewound : List TurnId) (scan : RewindScan) (event : SessionEventRecord) :
    RewindScan :=
  match event.kind with
  | .turnStarted turnId prompt .. =>
      if turnId ∈ rewound then scan
      else ⟨scan.visibleTurns ++ [(turnId, prompt)], scan.openTurns ++ [turnId]⟩
  | .turnCompleted turnId | .turnAborted turnId _ =>
      { scan with openTurns := scan.openTurns.filter fun openTurn => openTurn ≠ turnId }
  | .sessionCompleted | .sessionAborted _ => { scan with openTurns := [] }
  | _ => scan

def scanRewind (history : List SessionEventRecord) : RewindScan :=
  history.foldl (scanRewindEvent (rewoundTurnIds history)) ⟨[], []⟩

def planConversationRewind (history : List SessionEventRecord) (anchorTurnId : TurnId) :
    Except ConversationRewindBlock ConversationRewindPlan :=
  let scan := scanRewind history
  match scan.visibleTurns.findIdx? fun visible => visible.1 = anchorTurnId with
  | none => .error .anchorNotFound
  | some anchorIndex =>
      if !scan.openTurns.isEmpty then .error .turnRunning
      else if !(projectTurnQueue history).isEmpty then .error .queuePending
      else .ok {
        anchorTurnId := anchorTurnId
        removedTurnIds := (scan.visibleTurns.drop anchorIndex).map Prod.fst
        lastKeptTurnId :=
          if 0 < anchorIndex then (scan.visibleTurns[anchorIndex - 1]?).map Prod.fst else none
        -- the cast to u32
        keptTurnCount := anchorIndex % 2 ^ 32
        anchorPrompt := ((scan.visibleTurns[anchorIndex]?).map Prod.snd).getD "" }

def rewoundEvent (sessionId : SessionId) (plan : ConversationRewindPlan)
    (providerContext : RewindProviderContext) (restoredTurnIds : List TurnId) : CoreEvent :=
  .sessionConversationRewound sessionId.value plan.anchorTurnId.value
    (plan.removedTurnIds.map TurnId.value) providerContext (restoredTurnIds.map TurnId.value)

def recordConversationRewound (bus : CoreEvent → Except CoreError Unit)
    (eventId occurredAt : String) (sessionId : SessionId) (expected : ConversationRewindPlan)
    (providerContext : RewindProviderContext) (restoredTurnIds : List TurnId) :
    QueueCall SessionEventRecord := do
  let history ← listEvents sessionId
  match planConversationRewind history expected.anchorTurnId with
  | .error block => .fail (.invalidInput ("conversation rewind refused: " ++ block.debug))
  | .ok current =>
      if current.removedTurnIds ≠ expected.removedTurnIds then
        .fail (.invalidInput "conversation changed while it was being rewound")
      else
        let (event, inserted) ← append eventId occurredAt sessionId history
          (.conversationRewound current.anchorTurnId current.removedTurnIds providerContext
            restoredTurnIds)
        if inserted then
          publishDurableSession bus event
            (rewoundEvent sessionId current providerContext restoredTurnIds)
        return event

def startedTurnIds (log : List SessionEventRecord) : List TurnId :=
  log.filterMap fun event => startedTurn event.kind

def visibleTurns (log : List SessionEventRecord) : List TurnId :=
  startedTurnIds (visibleSessionEvents log)

/-- A new turn has a new id, and a rewind was planned on the log as it was then or some time before. -/
def admitsEvent (log : List SessionEventRecord) (event : SessionEventRecord) : Bool :=
  match event.kind with
  | .turnStarted turnId .. => decide (turnId ∉ startedTurnIds log)
  | .conversationRewound anchorTurnId removedTurnIds _ _ =>
      (List.range (log.length + 1)).any fun read =>
        match planConversationRewind (log.take read) anchorTurnId with
        | .ok plan => decide (plan.removedTurnIds = removedTurnIds)
        | .error _ => false
  | _ => true

def conversation : Library.System (List SessionEventRecord) SessionEventRecord Unit where
  start := []
  step log event := if admitsEvent log event then some ((), log ++ [event]) else none

/-- What a rewind to the anchor leaves of the conversation, and what its plan says of it. -/
structure RemovesSuffix (log : List SessionEventRecord) (plan : ConversationRewindPlan)
    (marker : SessionEventRecord) : Prop where
  visible : visibleTurns (log ++ [marker]) = (visibleTurns log).takeWhile (· ≠ plan.anchorTurnId)
  gone : ∀ turnId ∈ rewoundTurnIds log, ∀ event ∈ visibleSessionEvents (log ++ [marker]),
    event.kind.turnId ≠ some turnId
  sessionLevel : (visibleSessionEvents (log ++ [marker])).filter (fun event => event.kind.turnId.isNone) =
    (log ++ [marker]).filter fun event => event.kind.turnId.isNone
  queue : projectTurnQueue (log ++ [marker]) = projectTurnQueue log
  parts : visibleTurns log =
    (visibleTurns log).takeWhile (· ≠ plan.anchorTurnId) ++ plan.removedTurnIds
  lastKept : plan.lastKeptTurnId = ((visibleTurns log).takeWhile (· ≠ plan.anchorTurnId)).getLast?
  keptCount : plan.keptTurnCount = ((visibleTurns log).takeWhile (· ≠ plan.anchorTurnId)).length

section Logs

variable {log : List SessionEventRecord} {event : SessionEventRecord}

lemma startedTurnIds_append (log log' : List SessionEventRecord) :
    startedTurnIds (log ++ log') = startedTurnIds log ++ startedTurnIds log' :=
  List.filterMap_append ..

lemma turnId_of_startedTurn {kind : SessionEventKind} {turnId : TurnId}
    (h : startedTurn kind = some turnId) : kind.turnId = some turnId := by
  cases kind <;> first | exact h | cases h

lemma startedTurnIds_filter (rewound : List TurnId) (log : List SessionEventRecord) :
    startedTurnIds (log.filter fun event => isVisible rewound event.kind) =
      (startedTurnIds log).filter fun turnId => turnId ∉ rewound := by
  induction log with
  | nil => rfl
  | cons event log ih =>
      cases hstarted : startedTurn event.kind with
      | none =>
          simp only [startedTurnIds, List.filterMap_cons, hstarted] at ih ⊢
          rw [← ih, List.filter_cons]
          split
          · rw [List.filterMap_cons, hstarted]
          · rfl
      | some turnId =>
          have hvisible : isVisible rewound event.kind = decide (turnId ∉ rewound) := by
            rw [isVisible, turnId_of_startedTurn hstarted, Option.all_some]
          simp only [startedTurnIds, List.filterMap_cons, hstarted] at ih ⊢
          rw [List.filter_cons, List.filter_cons, hvisible]
          split
          · rw [List.filterMap_cons, hstarted, ih]
          · exact ih

lemma visibleTurns_eq (log : List SessionEventRecord) :
    visibleTurns log = (startedTurnIds log).filter fun turnId => turnId ∉ rewoundTurnIds log := by
  rw [visibleTurns, visibleSessionEvents_eq_filter, startedTurnIds_filter]

lemma rewoundTurnIds_append (log log' : List SessionEventRecord) :
    rewoundTurnIds (log ++ log') = rewoundTurnIds log ++ rewoundTurnIds log' :=
  List.flatMap_append

lemma scanRewind_visibleTurns (rewound : List TurnId) (log : List SessionEventRecord)
    (scan : RewindScan) :
    ((log.foldl (scanRewindEvent rewound) scan).visibleTurns.map Prod.fst) =
      scan.visibleTurns.map Prod.fst ++
        (startedTurnIds log).filter fun turnId => turnId ∉ rewound := by
  induction log generalizing scan with
  | nil => simp [startedTurnIds]
  | cons event log ih =>
      rw [List.foldl_cons, ih]
      cases hstarted : startedTurn event.kind with
      | none =>
          have hscan : (scanRewindEvent rewound scan event).visibleTurns = scan.visibleTurns := by
            unfold scanRewindEvent
            cases hkind : event.kind <;> simp_all [startedTurn]
          simp [startedTurnIds, hscan, hstarted]
      | some turnId =>
          have hscan : (scanRewindEvent rewound scan event).visibleTurns.map Prod.fst =
              scan.visibleTurns.map Prod.fst ++ if turnId ∈ rewound then [] else [turnId] := by
            unfold scanRewindEvent
            cases hkind : event.kind <;> rw [hkind] at hstarted <;> cases hstarted
            dsimp only
            split <;> simp
          simp only [startedTurnIds, List.filterMap_cons, hstarted, hscan, List.append_assoc]
          by_cases hturn : turnId ∈ rewound
          · simp [hturn]
          · simp [hturn]

lemma scanRewind_eq_visibleTurns (log : List SessionEventRecord) :
    (scanRewind log).visibleTurns.map Prod.fst = visibleTurns log := by
  rw [scanRewind, scanRewind_visibleTurns, visibleTurns_eq]
  rfl

end Logs

section Plans

variable {log : List SessionEventRecord} {anchorTurnId : TurnId} {plan : ConversationRewindPlan}

lemma findIdx_map_fst {visible : List (TurnId × String)} {i : ℕ}
    (h : visible.findIdx? (fun turn => turn.1 = anchorTurnId) = some i) :
    (visible.map Prod.fst).take i = (visible.map Prod.fst).takeWhile (· ≠ anchorTurnId) ∧
      i < visible.length := by
  induction visible generalizing i with
  | nil => simp at h
  | cons turn visible ih =>
      rw [List.findIdx?_cons] at h
      by_cases hturn : turn.1 = anchorTurnId
      · simp only [hturn, decide_true, if_true, Option.some.injEq] at h
        subst h
        simp [hturn]
      · simp only [hturn, decide_false, Bool.false_eq_true, if_false, Option.map_eq_some_iff] at h
        obtain ⟨j, hj, rfl⟩ := h
        obtain ⟨htake, hlt⟩ := ih hj
        simp only [List.map_cons, List.take_succ_cons, ne_eq, hturn, not_false_eq_true, decide_true,
          List.takeWhile_cons_of_pos, List.length_cons]
        simp only [ne_eq] at htake
        exact ⟨congrArg _ htake, by omega⟩

lemma planConversationRewind_ok (h : planConversationRewind log anchorTurnId = .ok plan) :
    ∃ kept, kept = (visibleTurns log).takeWhile (· ≠ anchorTurnId) ∧
      visibleTurns log = kept ++ plan.removedTurnIds ∧ plan.anchorTurnId = anchorTurnId ∧
      plan.lastKeptTurnId = kept.getLast? ∧ plan.keptTurnCount = kept.length % 2 ^ 32 ∧
      projectTurnQueue log = [] := by
  unfold planConversationRewind at h
  dsimp only at h
  cases hfind : (scanRewind log).visibleTurns.findIdx? fun turn => turn.1 = anchorTurnId with
  | none =>
      rw [hfind] at h
      cases h
  | some i =>
      rw [hfind] at h
      dsimp only at h
      split at h
      · cases h
      split at h
      · cases h
      next hqueue =>
      obtain ⟨htake, hlt⟩ := findIdx_map_fst hfind
      rw [scanRewind_eq_visibleTurns] at htake
      have hlength : ((visibleTurns log).takeWhile (· ≠ anchorTurnId)).length = i := by
        rw [← htake, List.length_take, ← scanRewind_eq_visibleTurns, List.length_map]
        exact min_eq_left hlt.le
      cases h
      refine ⟨_, rfl, ?_, rfl, ?_, ?_, by simpa using hqueue⟩
      · rw [List.map_drop, scanRewind_eq_visibleTurns, ← htake, List.take_append_drop]
      · rw [List.getLast?_eq_getElem?, hlength, ← htake, ← List.getElem?_map,
          scanRewind_eq_visibleTurns]
        split
        · next hpos => rw [List.getElem?_take_of_lt (by omega)]
        · next hpos =>
            have hzero : i = 0 := by omega
            simp [hzero]
      · rw [hlength]

end Plans

lemma conversation_step {log log' : List SessionEventRecord} {event : SessionEventRecord}
    {answer : Unit} (h : conversation.step log event = some (answer, log')) :
    admitsEvent log event = true ∧ log' = log ++ [event] := by
  simp only [conversation] at h
  split at h
  · next hadmits =>
      cases h
      exact ⟨hadmits, rfl⟩
  · cases h

lemma startedTurnIds_append_nodup {log : List SessionEventRecord} {event : SessionEventRecord}
    (h : (startedTurnIds log).Nodup) (hadmits : admitsEvent log event = true) :
    (startedTurnIds (log ++ [event])).Nodup := by
  rw [startedTurnIds_append]
  cases hstarted : startedTurn event.kind with
  | none => simpa [startedTurnIds, hstarted] using h
  | some turnId =>
      have hnew : turnId ∉ startedTurnIds log := by
        unfold admitsEvent at hadmits
        cases hkind : event.kind <;> rw [hkind] at hstarted hadmits <;> cases hstarted
        simpa using hadmits
      have hsingle : startedTurnIds [event] = [turnId] := by simp [startedTurnIds, hstarted]
      rw [hsingle]
      exact List.nodup_append.mpr ⟨h, List.nodup_singleton _, fun a ha b hb heq =>
        hnew (List.mem_singleton.mp hb ▸ heq ▸ ha)⟩

lemma reachable_startedTurnIds_nodup {log : List SessionEventRecord}
    (h : Library.System.Reachable conversation log) : (startedTurnIds log).Nodup := by
  induction h with
  | start => exact List.nodup_nil
  | step _ hstep ih =>
      obtain ⟨hadmits, rfl⟩ := conversation_step hstep
      exact startedTurnIds_append_nodup ih hadmits

section Marker

variable {log : List SessionEventRecord} {plan : ConversationRewindPlan} {marker : SessionEventRecord}
  {providerContext : RewindProviderContext} {restoredTurnIds : List TurnId}

lemma rewoundTurnIds_marker (hkind : marker.kind = .conversationRewound plan.anchorTurnId
    plan.removedTurnIds providerContext restoredTurnIds) :
    rewoundTurnIds (log ++ [marker]) = rewoundTurnIds log ++ plan.removedTurnIds := by
  rw [rewoundTurnIds_append]
  simp [rewoundTurnIds, hkind]

lemma visibleTurns_marker (hkind : marker.kind = .conversationRewound plan.anchorTurnId
    plan.removedTurnIds providerContext restoredTurnIds) :
    visibleTurns (log ++ [marker]) =
      (visibleTurns log).filter fun turnId => turnId ∉ plan.removedTurnIds := by
  have hstarted : startedTurnIds [marker] = [] := by simp [startedTurnIds, hkind, startedTurn]
  rw [visibleTurns_eq, visibleTurns_eq, rewoundTurnIds_marker hkind, startedTurnIds_append, hstarted,
    List.append_nil, List.filter_filter]
  refine List.filter_congr fun turnId _ => ?_
  simp only [List.mem_append, not_or, ← Bool.decide_and]
  exact decide_eq_decide.mpr and_comm

lemma filter_of_nodup_append {kept removed : List TurnId} (h : (kept ++ removed).Nodup) :
    ((kept ++ removed).filter fun turnId => turnId ∉ removed) = kept := by
  obtain ⟨-, -, hdisjoint⟩ := List.nodup_append.mp h
  rw [List.filter_append, List.filter_eq_self.mpr, List.filter_eq_nil_iff.mpr, List.append_nil]
  · simp
  · intro turnId hkept
    simpa using fun hremoved => hdisjoint turnId hkept turnId hremoved rfl

lemma projectTurnQueue_marker (hkind : marker.kind = .conversationRewound plan.anchorTurnId
    plan.removedTurnIds providerContext restoredTurnIds) :
    projectTurnQueue (log ++ [marker]) = projectTurnQueue log := by
  rw [projectTurnQueue_append, projectQueueEvent, hkind]

lemma gone_of_visible {turnId : TurnId} {event : SessionEventRecord}
    (hrewound : turnId ∈ rewoundTurnIds log) (hevent : event ∈ visibleSessionEvents log) :
    event.kind.turnId ≠ some turnId := by
  rw [visibleSessionEvents_eq_filter] at hevent
  intro hturn
  have hvisible := (List.mem_filter.mp hevent).2
  rw [isVisible, hturn, Option.all_some] at hvisible
  exact of_decide_eq_true hvisible hrewound

lemma visible_sessionLevel (log : List SessionEventRecord) :
    (visibleSessionEvents log).filter (fun event => event.kind.turnId.isNone) =
      log.filter fun event => event.kind.turnId.isNone := by
  rw [visibleSessionEvents_eq_filter, List.filter_filter]
  refine List.filter_congr fun event _ => ?_
  cases hturn : event.kind.turnId <;> simp [isVisible, hturn]

end Marker

section Rewinds

variable {log : List SessionEventRecord} {anchorTurnId : TurnId} {plan : ConversationRewindPlan}
  {marker : SessionEventRecord} {providerContext : RewindProviderContext}
  {restoredTurnIds : List TurnId}

/-- The number of kept turns is told in 32 bits. -/
theorem rewind_removes_suffix_iff (hreach : Library.System.Reachable conversation log)
    (hplan : planConversationRewind log anchorTurnId = .ok plan)
    (hkind : marker.kind = .conversationRewound plan.anchorTurnId plan.removedTurnIds providerContext
      restoredTurnIds) :
    RemovesSuffix log plan marker ↔
      ((visibleTurns log).takeWhile (· ≠ anchorTurnId)).length < 2 ^ 32 := by
  obtain ⟨kept, hkept, hparts, rfl, hlast, hcount, -⟩ := planConversationRewind_ok hplan
  rw [← hkept]
  constructor
  · intro h
    have hsame := h.keptCount
    rw [← hkept, hcount] at hsame
    exact hsame ▸ Nat.mod_lt _ (Nat.two_pow_pos 32)
  · intro hlt
    have hnodup : (kept ++ plan.removedTurnIds).Nodup := by
      rw [← hparts, visibleTurns_eq]
      exact (reachable_startedTurnIds_nodup hreach).filter _
    exact {
      visible := by
        rw [← hkept, visibleTurns_marker hkind, hparts, filter_of_nodup_append hnodup]
      gone := fun turnId hrewound event hevent =>
        gone_of_visible (by
          rw [rewoundTurnIds_marker hkind]
          exact List.mem_append_left _ hrewound) hevent
      sessionLevel := visible_sessionLevel _
      queue := projectTurnQueue_marker hkind
      parts := hkept ▸ hparts
      lastKept := hkept ▸ hlast
      keptCount := by rw [← hkept, hcount, Nat.mod_eq_of_lt hlt] }

lemma recordConversationRewound_ok {bus : CoreEvent → Except CoreError Unit}
    {eventId occurredAt : String} {sessionId : SessionId} {expected : ConversationRewindPlan}
    {world world' : TurnQueueWorld}
    (h : recordConversationRewound bus eventId occurredAt sessionId expected providerContext
      restoredTurnIds world = (.ok marker, world'))
    (hfresh : ∀ row ∈ world.store.rows, row.eventId ≠ eventId) :
    ∃ plan, planConversationRewind (world.store.listEventsBySession sessionId)
        expected.anchorTurnId = .ok plan ∧ plan.removedTurnIds = expected.removedTurnIds ∧
      marker.kind = .conversationRewound plan.anchorTurnId plan.removedTurnIds providerContext
        restoredTurnIds ∧
      world'.store.listEventsBySession sessionId =
        world.store.listEventsBySession sessionId ++ [marker] := by
  obtain ⟨history, world₁, hlist, h⟩ := Library.Call.bind_ok_iff.mp h
  cases hlist
  cases hplan : planConversationRewind (world.store.listEventsBySession sessionId)
      expected.anchorTurnId with
  | error block =>
      rw [hplan] at h
      cases h
  | ok plan =>
      rw [hplan] at h
      dsimp only at h
      split at h
      · cases h
      next hsame =>
      obtain ⟨⟨event, inserted⟩, world₂, happend, h⟩ := Library.Call.bind_ok_iff.mp h
      have houtcome := congrArg Prod.fst (append_ok happend)
      have hinserted := appendEvent_fresh hfresh rfl houtcome
      have hafter := listEventsBySession_appendEvent (houtcome.trans (congrArg Except.ok hinserted))
      rw [congrArg Prod.snd (append_ok happend)] at hafter
      cases inserted with
      | false => cases hinserted
      | true =>
          obtain ⟨_, world₃, hpublish, h⟩ := Library.Call.bind_ok_iff.mp h
          cases h
          cases hinserted
          rw [publishDurableSession_store hpublish]
          exact ⟨plan, rfl, not_not.mp hsame, rfl, hafter⟩

end Rewinds

section ManyTurns

def manyTurnId (n : ℕ) : TurnId :=
  ⟨String.ofList (List.replicate n 't')⟩

def manyTurnEvent (kind : SessionEventKind) : SessionEventRecord where
  eventId := "event"
  sessionId := ⟨"session-1"⟩
  sequence := 1
  occurredAt := "2026-10-07T10:00:00Z"
  kind := kind

def manyTurnStarted (n : ℕ) : SessionEventRecord :=
  manyTurnEvent (.turnStarted (manyTurnId n) "prompt" none none none none none)

def manyTurnEvents (n : ℕ) : List SessionEventRecord :=
  [manyTurnStarted n, manyTurnEvent (.turnCompleted (manyTurnId n))]

def manyTurns (n : ℕ) : List SessionEventRecord :=
  (List.range n).flatMap manyTurnEvents

def rewindMarker (anchorTurnId : TurnId) (removedTurnIds : List TurnId) : SessionEventRecord :=
  manyTurnEvent (.conversationRewound anchorTurnId removedTurnIds .native [])

def manyTurnsPlan (n : ℕ) : ConversationRewindPlan where
  anchorTurnId := manyTurnId n
  removedTurnIds := [manyTurnId n]
  lastKeptTurnId := if 0 < n then some (manyTurnId (n - 1)) else none
  keptTurnCount := n % 2 ^ 32
  anchorPrompt := "prompt"

lemma manyTurnId_injective {m n : ℕ} (h : manyTurnId m = manyTurnId n) : m = n := by
  have hvalue := congrArg (fun turnId : TurnId => turnId.value.toList.length) h
  simpa [manyTurnId] using hvalue

lemma manyTurns_succ (n : ℕ) : manyTurns (n + 1) = manyTurns n ++ manyTurnEvents n := by
  simp [manyTurns, List.range_succ]

lemma startedTurnIds_manyTurns (n : ℕ) :
    startedTurnIds (manyTurns n) = (List.range n).map manyTurnId := by
  induction n with
  | zero => rfl
  | succ n ih =>
      rw [manyTurns_succ, startedTurnIds_append, ih, List.range_succ, List.map_append]
      rfl

lemma rewoundTurnIds_manyTurns (n : ℕ) : rewoundTurnIds (manyTurns n) = [] := by
  induction n with
  | zero => rfl
  | succ n ih =>
      rw [manyTurns_succ, rewoundTurnIds_append, ih]
      rfl

lemma projectTurnQueue_manyTurns (n : ℕ) : projectTurnQueue (manyTurns n) = [] := by
  induction n with
  | zero => rfl
  | succ n ih =>
      rw [manyTurns_succ, projectTurnQueue, List.foldl_append, ← projectTurnQueue, ih]
      rfl

lemma scanRewind_manyTurns (n : ℕ) :
    (manyTurns n).foldl (scanRewindEvent []) ⟨[], []⟩ =
      ⟨(List.range n).map fun n => (manyTurnId n, "prompt"), []⟩ := by
  induction n with
  | zero => rfl
  | succ n ih =>
      rw [manyTurns_succ, List.foldl_append, ih, List.range_succ, List.map_append]
      simp [manyTurnEvents, manyTurnStarted, manyTurnEvent, scanRewindEvent]

lemma reachable_manyTurns (n : ℕ) : Library.System.Reachable conversation (manyTurns n) := by
  induction n with
  | zero => exact .start
  | succ n ih =>
      have hnew : manyTurnId n ∉ startedTurnIds (manyTurns n) := by
        rw [startedTurnIds_manyTurns]
        intro hmem
        obtain ⟨m, hm, heq⟩ := List.mem_map.mp hmem
        have hlt := List.mem_range.mp hm
        have hsame := manyTurnId_injective heq
        omega
      have hstarted : conversation.step (manyTurns n) (manyTurnStarted n) =
          some ((), manyTurns n ++ [manyTurnStarted n]) :=
        if_pos (by simpa [admitsEvent, manyTurnStarted, manyTurnEvent] using hnew)
      have hcompleted : conversation.step (manyTurns n ++ [manyTurnStarted n])
          (manyTurnEvent (.turnCompleted (manyTurnId n))) = some ((), manyTurns n ++
            [manyTurnStarted n] ++ [manyTurnEvent (.turnCompleted (manyTurnId n))]) := rfl
      rw [manyTurns_succ, manyTurnEvents, List.append_cons]
      exact (ih.step hstarted).step hcompleted

lemma findIdx_manyTurns (n : ℕ) :
    ((List.range (n + 1)).map fun n => (manyTurnId n, "prompt")).findIdx?
      (fun turn => turn.1 = manyTurnId n) = some n := by
  rw [List.findIdx?_eq_some_iff_getElem]
  refine ⟨by simp, by simp, fun j hj => ?_⟩
  simpa using fun heq => absurd (manyTurnId_injective heq) hj.ne

lemma planConversationRewind_manyTurns (n : ℕ) :
    planConversationRewind (manyTurns (n + 1)) (manyTurnId n) = .ok (manyTurnsPlan n) := by
  have hdrop : (List.range (n + 1)).drop n = [n] := by
    rw [List.range_succ, List.drop_left' (List.length_range ..)]
  unfold planConversationRewind
  dsimp only
  rw [scanRewind, rewoundTurnIds_manyTurns, scanRewind_manyTurns, projectTurnQueue_manyTurns]
  dsimp only
  rw [findIdx_manyTurns]
  simp only [List.isEmpty_nil, Bool.not_true, Bool.false_eq_true, if_false, Except.ok.injEq,
    manyTurnsPlan, ← List.map_drop, hdrop]
  have hlast : n - 1 < n + 1 := by omega
  simp [hlast]

lemma kept_manyTurns (n : ℕ) :
    ((visibleTurns (manyTurns (n + 1))).takeWhile (· ≠ manyTurnId n)).length = n := by
  obtain ⟨kept, hkept, hparts, -⟩ := planConversationRewind_ok (planConversationRewind_manyTurns n)
  have hlength := congrArg List.length hparts
  rw [visibleTurns_eq, rewoundTurnIds_manyTurns, startedTurnIds_manyTurns] at hlength
  rw [← hkept]
  simpa [manyTurnsPlan] using hlength.symm

theorem rewind_removes_suffix_iff_demo :
    RemovesSuffix (manyTurns 2) (manyTurnsPlan 1) (rewindMarker (manyTurnId 1) [manyTurnId 1]) :=
  (rewind_removes_suffix_iff (reachable_manyTurns 2) (planConversationRewind_manyTurns 1) rfl).mpr
    (kept_manyTurns 1 ▸ by decide)

theorem kept_turn_count_wraps :
    Library.System.Reachable conversation (manyTurns (2 ^ 32 + 1)) ∧
    planConversationRewind (manyTurns (2 ^ 32 + 1)) (manyTurnId (2 ^ 32)) =
      .ok (manyTurnsPlan (2 ^ 32)) ∧
    (manyTurnsPlan (2 ^ 32)).keptTurnCount = 0 ∧
    ¬RemovesSuffix (manyTurns (2 ^ 32 + 1)) (manyTurnsPlan (2 ^ 32))
      (rewindMarker (manyTurnId (2 ^ 32)) [manyTurnId (2 ^ 32)]) := by
  refine ⟨reachable_manyTurns _, planConversationRewind_manyTurns _, Nat.mod_self _, fun h => ?_⟩
  have hcount := h.keptCount
  rw [manyTurnsPlan, kept_manyTurns, Nat.mod_self] at hcount
  exact (Nat.two_pow_pos 32).ne hcount

end ManyTurns

end DevCommandCenter
