import DevCommandCenter.UsageLimit.Resumes

/-! When the automatic resumes of a session stay within their limit. -/

namespace DevCommandCenter.UsageLimit

open Library

variable {sessionId : SessionId} {parseTime : String → Option ℤ}

abbrev Limiting := Pool LimitWorld LimitCall

/-- An automatic resume passes its check only if the hit that it resumes came no earlier than any
automatic resume recorded so far, and it does not fail once its turn has started. -/
def countsEveryStart (parseTime : String → Option ℤ) (s : Limiting) :
    PoolAction LimitCall LimitDraw → Bool
  | .advance i draw =>
      match s.calls[i]?.map LimitCall.stage with
      | some (.checking resume events limit) =>
          !resume.automatic || !isDue parseTime limit draw.now ||
            (autoResumeTimes parseTime events).all fun time =>
              (parseTime limit.hitAt).all fun hit => time ≤ hit
      | some (.announcing resume ..) | some (.unbound resume ..) | some (.activating resume _)
      | some (.prompting resume _) => !resume.automatic || draw.fault.isNone
      | _ => true
  | .enter _ => true

def LimitStage.isInFlight : LimitStage → Bool
  | .reading _ | .checking .. | .checked .. | .sending .. | .starting .. | .announcing ..
  | .unbound .. | .activating .. | .prompting .. | .aborting .. | .recording .. | .releasing _ => true
  | _ => false

def Settled (starts recorded : List ℤ) : Prop :=
  List.Forall₂ (· ≤ ·) starts recorded

def Unsettled (starts recorded : List ℤ) (since : ℤ) : Prop :=
  ∃ earlier start, starts = earlier ++ [start] ∧ start ≤ since ∧ Settled earlier recorded

def CountedAt (parseTime : String → Option ℤ) (recorded : List ℤ) (limit : SessionUsageLimit)
    (hit : ℤ) : Prop :=
  parseTime limit.hitAt = some hit ∧ limit.autoResumesUsed =
    recorded.countP (inWindow (hit - hours autoResumeWindowHours) hit)

def HasRoom (starts : List ℤ) (since : ℤ) : Prop :=
  ∃ hit ≤ since, (starts.countP fun time => hit - hours autoResumeWindowHours < time) <
    maxAutoResumes

def StartCounted (resume : Resume) (starts recorded : List ℤ) (since : ℤ) : Prop :=
  if resume.automatic then Unsettled starts recorded since else Settled starts recorded

def StageCounted (parseTime : String → Option ℤ) (starts recorded : List ℤ) (since : ℤ) :
    LimitStage → Prop
  | .reading _ | .aborting .. | .releasing _ => Settled starts recorded
  | .checking _ events limit => Settled starts recorded ∧
      autoResumeTimes parseTime events = recorded ∧
        ∃ hit ≤ since, CountedAt parseTime recorded limit hit
  | .checked resume .. | .sending resume .. | .starting resume .. =>
      Settled starts recorded ∧ (resume.automatic = true → HasRoom starts since)
  | .announcing resume .. | .unbound resume .. | .activating resume _ | .prompting resume _
  | .recording resume _ => StartCounted resume starts recorded since
  | _ => True

def LimitWorld.recordedAt (parseTime : String → Option ℤ) (world : LimitWorld) : List ℤ :=
  autoResumeTimes parseTime world.events

structure Counted (parseTime : String → Option ℤ) (s : Limiting) : Prop where
  alone : Alone (fun call => call.stage.isInFlight = true) s.calls
  inFlight : ∀ call ∈ s.calls, call.stage.isInFlight = true → s.shared.inFlight = true
  grounded : s.shared.inFlight = false → Settled s.shared.autoStarts (s.shared.recordedAt parseTime)
  counted : ∀ call ∈ s.calls, StageCounted parseTime s.shared.autoStarts
    (s.shared.recordedAt parseTime) call.since call.stage
  stamped : ∀ event ∈ s.shared.events, ∃ time ≤ s.shared.clock, parseTime event.occurredAt = some time
  capped : Capped maxAutoResumes (hours autoResumeWindowHours) s.shared.autoStarts

section History

variable {events : List SessionEventRecord} {scan : LimitScan} {limit : SessionUsageLimit}

lemma autoResumeTimes_append (event : SessionEventRecord) :
    autoResumeTimes parseTime (events ++ [event]) = autoResumeTimes parseTime events ++
      if isAutoResume event.kind then (parseTime event.occurredAt).toList else [] := by
  rw [autoResumeTimes, List.filter_append, List.filterMap_append]
  cases hkind : isAutoResume event.kind with
  | false => simp [autoResumeTimes, hkind]
  | true => cases hparse : parseTime event.occurredAt <;> simp [autoResumeTimes, hkind, hparse]

lemma endedAt_next {event : SessionEventRecord} {endedAt : String}
    (h : (scan.next event).endedAt = some endedAt) :
    scan.endedAt = some endedAt ∨ event.occurredAt = endedAt := by
  unfold LimitScan.next at h
  split at h
  · cases h
  · split at h
    · exact .inr (Option.some.inj h)
    · exact .inl h
  · split at h <;> exact .inl h
  · split at h <;> exact .inl h
  · exact .inl h
  · exact .inl h
  · exact .inl h

lemma endedAt_scan {endedAt : String}
    (h : (events.foldl LimitScan.next scan).endedAt = some endedAt) :
    scan.endedAt = some endedAt ∨ ∃ event ∈ events, event.occurredAt = endedAt := by
  induction events generalizing scan with
  | nil => exact .inl h
  | cons event events ih =>
      rcases ih h with hscan | ⟨later, hlater, hoccurred⟩
      · exact (endedAt_next hscan).imp_right fun heq => ⟨event, List.mem_cons_self, heq⟩
      · exact .inr ⟨later, List.mem_cons_of_mem _ hlater, hoccurred⟩

lemma mem_of_mem_visible {event : SessionEventRecord} (h : event ∈ visibleSessionEvents events) :
    event ∈ events := by
  simp only [visibleSessionEvents] at h
  split at h
  · exact h
  · exact List.mem_of_mem_filter h

lemma sessionUsageLimit_hit (h : sessionUsageLimit parseTime events = some limit) :
    (∃ event ∈ events, event.occurredAt = limit.hitAt) ∧ limit.autoResumesUsed =
      ((parseTime limit.hitAt).map (autoResumesBefore parseTime events)).getD 0 := by
  simp only [sessionUsageLimit, Option.bind_eq_bind, Option.bind_eq_some_iff] at h
  obtain ⟨turnId, -, hitAt, hended, hitSeq, -, hlimit⟩ := h
  split at hlimit
  · cases hlimit
  · cases hlimit
    refine ⟨?_, rfl⟩
    obtain ⟨event, hevent, hoccurred⟩ := (endedAt_scan hended).resolve_left nofun
    exact ⟨event, mem_of_mem_visible hevent, hoccurred⟩

lemma lt_maxAutoResumes_of_isDue {now : ℤ} (h : isDue parseTime limit now = true) :
    limit.autoResumesUsed < maxAutoResumes := by
  simp only [isDue, Bool.and_eq_true, decide_eq_true_eq] at h
  obtain ⟨⟨hauto, -⟩, hphase⟩ := h
  by_contra hused
  unfold usageLimitPhase at hphase
  split at hphase
  · cases hphase
  · rw [if_pos (by simp [hauto, Nat.not_lt.mp hused])] at hphase
    cases hphase

lemma hasRoom_of_isDue {starts recorded : List ℤ} {now hit since : ℤ}
    (hsettled : Settled starts recorded) (hcounted : CountedAt parseTime recorded limit hit)
    (hsince : hit ≤ since) (hdue : isDue parseTime limit now = true)
    (hrecorded : ∀ time ∈ recorded, time ≤ hit) : HasRoom starts since := by
  refine ⟨hit, hsince, ?_⟩
  calc starts.countP (fun time => hit - hours autoResumeWindowHours < time)
      ≤ recorded.countP (fun time => hit - hours autoResumeWindowHours < time) :=
        countP_lt_le_of_forall₂ hsettled _
    _ = limit.autoResumesUsed := by rw [hcounted.2, countP_inWindow_eq hrecorded]
    _ < maxAutoResumes := lt_maxAutoResumes_of_isDue hdue

end History

section Worlds

variable {world world' : LimitWorld} {draw : LimitDraw}

structure Keeps (parseTime : String → Option ℤ) (draw : LimitDraw) (world world' : LimitWorld) :
    Prop where
  autoStarts : world'.autoStarts = world.autoStarts
  recordedAt : world'.recordedAt parseTime = world.recordedAt parseTime
  inFlight : world'.inFlight = world.inFlight
  clock : world'.clock = world.clock
  events : ∀ event ∈ world'.events, event ∈ world.events ∨ event.occurredAt = draw.stamp

lemma keeps_refl : Keeps parseTime draw world world where
  autoStarts := rfl
  recordedAt := rfl
  inFlight := rfl
  clock := rfl
  events _ hevent := .inl hevent

lemma Keeps.current (h : Keeps parseTime draw world world') (turnId : Option TurnId) :
    Keeps parseTime draw world { world' with currentTurnId := turnId } where
  autoStarts := h.autoStarts
  recordedAt := h.recordedAt
  inFlight := h.inFlight
  clock := h.clock
  events := h.events

lemma mem_append {kind : SessionEventKind} {event : SessionEventRecord}
    (h : event ∈ (world.append sessionId draw kind).events) :
    event ∈ world.events ∨ event.occurredAt = draw.stamp := by
  rcases List.mem_append.mp h with h | h
  · exact .inl h
  · exact .inr (by rw [List.mem_singleton.mp h])

lemma recordedAt_append (kind : SessionEventKind) :
    (world.append sessionId draw kind).recordedAt parseTime = world.recordedAt parseTime ++
      if isAutoResume kind then (parseTime draw.stamp).toList else [] :=
  autoResumeTimes_append _

lemma keeps_append {kind : SessionEventKind} (hkind : isAutoResume kind = false) :
    Keeps parseTime draw world (world.append sessionId draw kind) where
  autoStarts := rfl
  recordedAt := by simp [recordedAt_append, hkind]
  inFlight := rfl
  clock := rfl
  events _ := mem_append

lemma keeps_terminalize (turnId : TurnId) (reason : String) (bound : Bool) :
    Keeps parseTime draw world (world.terminalize sessionId draw turnId reason bound) := by
  simp only [LimitWorld.terminalize]
  split
  · exact keeps_refl.current _
  · exact (keeps_append rfl).current _

end Worlds

section Steps

variable {s : Limiting} {i : ℕ} {call : LimitCall} {stage : LimitStage} {world : LimitWorld}
  {draw : LimitDraw}

lemma stageCounted_of_not_inFlight {starts recorded : List ℤ} {since : ℤ}
    (h : stage.isInFlight = false) : StageCounted parseTime starts recorded since stage := by
  cases stage <;> trivial

lemma HasRoom.mono {starts : List ℤ} {since since' : ℤ} (h : HasRoom starts since)
    (hle : since ≤ since') : HasRoom starts since' := by
  obtain ⟨hit, hhit, hroom⟩ := h
  exact ⟨hit, hhit.trans hle, hroom⟩

lemma StartCounted.mono {resume : Resume} {starts recorded : List ℤ} {since since' : ℤ}
    (h : StartCounted resume starts recorded since) (hle : since ≤ since') :
    StartCounted resume starts recorded since' := by
  unfold StartCounted at h ⊢
  split
  · next hautomatic =>
    rw [if_pos hautomatic] at h
    obtain ⟨earlier, start, hstarts, hstart, hsettled⟩ := h
    exact ⟨earlier, start, hstarts, hstart.trans hle, hsettled⟩
  · next hautomatic =>
    rwa [if_neg hautomatic] at h

lemma StartCounted.settled {resume : Resume} {starts recorded : List ℤ} {since : ℤ}
    {message : String} (h : StartCounted resume starts recorded since)
    (hok : (!resume.automatic || draw.fault.isNone) = true) (hfault : draw.fault = some message) :
    Settled starts recorded := by
  unfold StartCounted at h
  rw [hfault, Option.isNone_some, Bool.or_false] at hok
  rwa [(Bool.not_eq_true' _).mp hok, if_neg Bool.false_ne_true] at h

lemma stamped_advance (h : Counted parseTime s) (hstamp : parseTime draw.stamp = some draw.now)
    (hclock : world.clock = max s.shared.clock draw.now)
    (hevents : ∀ event ∈ world.events, event ∈ s.shared.events ∨ event.occurredAt = draw.stamp) :
    ∀ event ∈ world.events, ∃ time ≤ world.clock, parseTime event.occurredAt = some time := by
  intro event hevent
  rw [hclock]
  rcases hevents event hevent with hbefore | hnew
  · obtain ⟨time, htime, hparse⟩ := h.stamped event hbefore
    exact ⟨time, htime.trans (le_max_left _ _), hparse⟩
  · exact ⟨draw.now, le_max_right _ _, hnew ▸ hstamp⟩

lemma Counted.others (h : Counted parseTime s) (hc : s.calls[i]? = some call)
    (hflying : call.stage.isInFlight = true) {call' c : LimitCall}
    (hmem : c ∈ s.calls.set i call') : c = call' ∨ c.stage.isInFlight = false := by
  rcases mem_set_cases hmem with heq | ⟨j, hj, hother⟩
  · exact .inl heq
  · refine .inr (Bool.eq_false_iff.mpr fun hholds => hj ?_)
    exact h.alone j i c call hother hc hholds hflying

lemma Counted.moves (h : Counted parseTime s) (hc : s.calls[i]? = some call)
    (hstamp : parseTime draw.stamp = some draw.now)
    (hkeeps : Keeps parseTime draw { s.shared with clock := max s.shared.clock draw.now } world)
    (hflying : stage.isInFlight = true → call.stage.isInFlight = true)
    (hcounted : StageCounted parseTime s.shared.autoStarts (s.shared.recordedAt parseTime)
      (max s.shared.clock draw.now) stage) :
    Counted parseTime {
      shared := world
      calls := s.calls.set i ⟨stage, max s.shared.clock draw.now⟩ } where
  alone := h.alone.set hc fun hholds => .inl (hflying hholds)
  inFlight c hmem hholds := by
    rw [hkeeps.inFlight]
    rcases List.mem_or_eq_of_mem_set hmem with hmem | rfl
    · exact h.inFlight c hmem hholds
    · exact h.inFlight call (List.mem_of_getElem? hc) (hflying hholds)
  grounded hground := by
    rw [hkeeps.autoStarts, hkeeps.recordedAt]
    exact h.grounded (hkeeps.inFlight.symm.trans hground)
  counted c hmem := by
    rw [hkeeps.autoStarts, hkeeps.recordedAt]
    rcases List.mem_or_eq_of_mem_set hmem with hmem | rfl
    · exact h.counted c hmem
    · exact hcounted
  stamped := stamped_advance h hstamp hkeeps.clock hkeeps.events
  capped := by
    rw [hkeeps.autoStarts]
    exact h.capped

lemma Counted.takeOff (h : Counted parseTime s) (hc : s.calls[i]? = some call)
    (hground : s.shared.inFlight = false) (hstamp : parseTime draw.stamp = some draw.now)
    (resume : Resume) :
    Counted parseTime {
      shared := { s.shared with clock := max s.shared.clock draw.now, inFlight := true }
      calls := s.calls.set i ⟨.reading resume, max s.shared.clock draw.now⟩ } where
  alone := h.alone.set hc fun _ => .inr fun c hmem hholds => by
    rw [h.inFlight c hmem hholds] at hground
    cases hground
  inFlight _ _ _ := rfl
  grounded := nofun
  counted c hmem := by
    rcases List.mem_or_eq_of_mem_set hmem with hmem | rfl
    · exact h.counted c hmem
    · exact h.grounded hground
  stamped := stamped_advance h hstamp rfl fun _ => .inl
  capped := h.capped

lemma Counted.land (h : Counted parseTime s) {result : Except CoreError TurnId}
    (hc : s.calls[i]? = some call) (hstage : call.stage = .releasing result)
    (hstamp : parseTime draw.stamp = some draw.now) :
    Counted parseTime {
      shared := { s.shared with clock := max s.shared.clock draw.now, inFlight := false }
      calls := s.calls.set i ⟨.resumed result, max s.shared.clock draw.now⟩ } where
  alone := h.alone.set hc nofun
  inFlight c hmem hholds := by
    rcases h.others hc (by rw [hstage]; rfl) hmem with rfl | hother
    · cases hholds
    · rw [hother] at hholds
      cases hholds
  grounded _ := by
    have hcounted := h.counted call (List.mem_of_getElem? hc)
    rw [hstage] at hcounted
    exact hcounted
  counted c hmem := by
    rcases List.mem_or_eq_of_mem_set hmem with hmem | rfl
    · exact h.counted c hmem
    · trivial
  stamped := stamped_advance h hstamp rfl fun _ => .inl
  capped := h.capped

lemma Counted.flies (h : Counted parseTime s) (hc : s.calls[i]? = some call)
    (hflying : call.stage.isInFlight = true) (hstamp : parseTime draw.stamp = some draw.now)
    (hclock : world.clock = max s.shared.clock draw.now)
    (hevents : ∀ event ∈ world.events, event ∈ s.shared.events ∨ event.occurredAt = draw.stamp)
    (hinFlight : world.inFlight = s.shared.inFlight)
    (hcounted : StageCounted parseTime world.autoStarts (world.recordedAt parseTime)
      (max s.shared.clock draw.now) stage)
    (hcapped : Capped maxAutoResumes (hours autoResumeWindowHours) world.autoStarts) :
    Counted parseTime {
      shared := world
      calls := s.calls.set i ⟨stage, max s.shared.clock draw.now⟩ } where
  alone := h.alone.set hc fun _ => .inl hflying
  inFlight _ _ _ := hinFlight.trans (h.inFlight call (List.mem_of_getElem? hc) hflying)
  grounded hground := by
    rw [hinFlight, h.inFlight call (List.mem_of_getElem? hc) hflying] at hground
    cases hground
  counted c hmem := by
    rcases h.others hc hflying hmem with rfl | hother
    · exact hcounted
    · exact stageCounted_of_not_inFlight hother
  stamped := stamped_advance h hstamp hclock hevents
  capped := hcapped

lemma Counted.starts (h : Counted parseTime s) (hc : s.calls[i]? = some call) {resume : Resume}
    {attachError : Option String} {planMode : Option Bool}
    {approvalPolicy : Option ProviderApprovalPolicy}
    (hstage : call.stage = .starting resume attachError planMode approvalPolicy)
    (hsince : call.since ≤ draw.now) (hstamp : parseTime draw.stamp = some draw.now) :
    Counted parseTime {
      shared := { s.shared with clock := max s.shared.clock draw.now }.start sessionId draw resume
        planMode approvalPolicy
      calls := s.calls.set i
        ⟨.announcing resume attachError draw.turnId, max s.shared.clock draw.now⟩ } := by
  have hflying : call.stage.isInFlight = true := by rw [hstage]; rfl
  have hcounted := h.counted call (List.mem_of_getElem? hc)
  rw [hstage] at hcounted
  obtain ⟨hsettled, hroom⟩ := hcounted
  have hrecorded : ({ s.shared with clock := max s.shared.clock draw.now }.start sessionId draw resume
      planMode approvalPolicy).recordedAt parseTime = s.shared.recordedAt parseTime :=
    (recordedAt_append _).trans (List.append_nil _)
  refine h.flies hc hflying hstamp rfl (fun event => mem_append) rfl ?_ ?_
  · rw [hrecorded]
    simp only [StageCounted, StartCounted, LimitWorld.start]
    cases resume.automatic with
    | false => exact hsettled
    | true => exact ⟨s.shared.autoStarts, draw.now, rfl, le_max_right _ _, hsettled⟩
  · simp only [LimitWorld.start]
    cases hautomatic : resume.automatic with
    | false => exact h.capped
    | true =>
        obtain ⟨hit, hhit, hfewer⟩ := hroom hautomatic
        exact h.capped.append (hhit.trans hsince) hfewer

lemma Counted.records (h : Counted parseTime s) (hc : s.calls[i]? = some call) {resume : Resume}
    {turnId : TurnId} (hstage : call.stage = .recording resume turnId)
    (hsince : call.since ≤ draw.now) (hstamp : parseTime draw.stamp = some draw.now) :
    Counted parseTime {
      shared := { s.shared with clock := max s.shared.clock draw.now }.append sessionId draw
        (.usageLimitResumed resume.automatic (some turnId) resume.accountLabel)
      calls := s.calls.set i ⟨.releasing (.ok turnId), max s.shared.clock draw.now⟩ } := by
  have hflying : call.stage.isInFlight = true := by rw [hstage]; rfl
  have hcounted := h.counted call (List.mem_of_getElem? hc)
  rw [hstage] at hcounted
  refine h.flies hc hflying hstamp rfl (fun event => mem_append) rfl ?_ h.capped
  simp only [StageCounted, StartCounted, recordedAt_append, isAutoResume, hstamp] at hcounted ⊢
  cases hautomatic : resume.automatic with
  | false =>
      rw [hautomatic] at hcounted
      rw [if_neg Bool.false_ne_true, List.append_nil]
      exact hcounted
  | true =>
      rw [hautomatic] at hcounted
      obtain ⟨earlier, start, hstarts, hstart, hsettled⟩ := hcounted
      rw [Settled, if_pos rfl]
      change List.Forall₂ (· ≤ ·) s.shared.autoStarts _
      rw [hstarts]
      exact List.rel_append hsettled (.cons (hstart.trans hsince) .nil)

lemma Counted.advance (h : Counted parseTime s) {stage : LimitStage}
    (hc : s.calls[i]? = some call) (hok : countsEveryStart parseTime s (.advance i draw) = true)
    (hsince : call.since ≤ draw.now) (hstamp : parseTime draw.stamp = some draw.now)
    (hnext : stageStep sessionId parseTime
      { s.shared with clock := max s.shared.clock draw.now } draw call.stage = some (world, stage)) :
    Counted parseTime {
      shared := world
      calls := s.calls.set i ⟨stage, max s.shared.clock draw.now⟩ } := by
  have hle : call.since ≤ max s.shared.clock draw.now := hsince.trans (le_max_right _ _)
  have hcounted := h.counted call (List.mem_of_getElem? hc)
  generalize hstage : call.stage = current at hnext hcounted
  have hmoves : ∀ {world : LimitWorld} {stage : LimitStage},
      Keeps parseTime draw { s.shared with clock := max s.shared.clock draw.now } world →
      (stage.isInFlight = true → current.isInFlight = true) →
      StageCounted parseTime s.shared.autoStarts (s.shared.recordedAt parseTime)
        (max s.shared.clock draw.now) stage → Counted parseTime {
      shared := world
      calls := s.calls.set i ⟨stage, max s.shared.clock draw.now⟩ } :=
    fun hkeeps hflying hstage' => h.moves hc hstamp hkeeps (hstage ▸ hflying) hstage'
  cases current with
  | resuming resume =>
      simp only [stageStep] at hnext
      split at hnext
      · cases hnext
        exact hmoves keeps_refl nofun trivial
      · next hground =>
        cases hnext
        exact h.takeOff hc (Bool.eq_false_iff.mpr hground) hstamp resume
  | reading resume =>
      simp only [stageStep] at hnext
      split at hnext
      · cases hnext
        exact hmoves keeps_refl (fun _ => rfl) hcounted
      · split at hnext
        · cases hnext
          exact hmoves keeps_refl (fun _ => rfl) hcounted
        · next limit hlimit =>
          cases hnext
          obtain ⟨⟨event, hevent, hoccurred⟩, hused⟩ := sessionUsageLimit_hit hlimit
          obtain ⟨hit, hhit, hparse⟩ := h.stamped event hevent
          rw [hoccurred] at hparse
          rw [hparse] at hused
          exact hmoves keeps_refl (fun _ => rfl)
            ⟨hcounted, rfl, hit, hhit.trans (le_max_left _ _), hparse, hused⟩
  | checking resume events limit =>
      obtain ⟨hsettled, hevents, hit, hhit, hlimit⟩ := hcounted
      simp only [stageStep] at hnext
      split at hnext
      · cases hnext
        exact hmoves keeps_refl (fun _ => rfl) hsettled
      · next hdue =>
        cases hnext
        refine hmoves keeps_refl (fun _ => rfl) ⟨hsettled, fun hautomatic => ?_⟩
        simp only [hautomatic, Bool.true_and, Bool.not_eq_true, Bool.not_eq_false'] at hdue
        simp only [countsEveryStart, hc, Option.map_some, hstage, hautomatic, hdue, hevents,
          hlimit.1, Bool.not_true, Bool.false_or, List.all_eq_true, Option.all_some,
          decide_eq_true_eq] at hok
        exact hasRoom_of_isDue hsettled hlimit (hhit.trans hle) hdue hok
  | checked resume events limit =>
      simp only [stageStep] at hnext
      split at hnext
      · cases hnext
        exact hmoves keeps_refl (fun _ => rfl) hcounted.1
      · split at hnext
        · cases hnext
          exact hmoves keeps_refl (fun _ => rfl) hcounted.1
        · cases hnext
          exact hmoves keeps_refl (fun _ => rfl) ⟨hcounted.1, fun hautomatic => (hcounted.2 hautomatic).mono hle⟩
  | sending resume planMode approvalPolicy =>
      simp only [stageStep] at hnext
      split at hnext
      · cases hnext
        exact hmoves keeps_refl (fun _ => rfl) hcounted.1
      · split at hnext
        · cases hnext
          exact hmoves keeps_refl (fun _ => rfl) hcounted.1
        · cases hnext
          exact hmoves keeps_refl (fun _ => rfl) ⟨hcounted.1, fun hautomatic => (hcounted.2 hautomatic).mono hle⟩
  | starting resume attachError planMode approvalPolicy =>
      cases hnext
      exact h.starts hc hstage hsince hstamp
  | announcing resume attachError turnId =>
      have hmay : (!resume.automatic || draw.fault.isNone) = true := by
        simpa [countsEveryStart, hc, hstage] using hok
      simp only [stageStep] at hnext
      split at hnext
      · next hfault =>
        cases hnext
        exact hmoves keeps_refl (fun _ => rfl) (hcounted.settled hmay hfault)
      · next hfault =>
        cases hnext
        exact hmoves keeps_refl (fun _ => rfl) (hcounted.settled hmay hfault)
      · cases hnext
        exact hmoves keeps_refl (fun _ => rfl) (hcounted.mono hle)
      · cases hnext
        exact hmoves keeps_refl (fun _ => rfl) (hcounted.mono hle)
  | unbound resume turnId reason =>
      have hmay : (!resume.automatic || draw.fault.isNone) = true := by
        simpa [countsEveryStart, hc, hstage] using hok
      simp only [stageStep] at hnext
      split at hnext
      · next hfault =>
        cases hnext
        exact hmoves keeps_refl (fun _ => rfl) (hcounted.settled hmay hfault)
      · cases hnext
        exact hmoves (keeps_terminalize _ _ _) (fun _ => rfl) (hcounted.mono hle)
  | activating resume turnId =>
      have hmay : (!resume.automatic || draw.fault.isNone) = true := by
        simpa [countsEveryStart, hc, hstage] using hok
      simp only [stageStep] at hnext
      split at hnext
      · next hfault =>
        cases hnext
        exact hmoves keeps_refl (fun _ => rfl) (hcounted.settled hmay hfault)
      · cases hnext
        exact hmoves (keeps_refl.current _) (fun _ => rfl) (hcounted.mono hle)
  | prompting resume turnId =>
      have hmay : (!resume.automatic || draw.fault.isNone) = true := by
        simpa [countsEveryStart, hc, hstage] using hok
      simp only [stageStep] at hnext
      split at hnext
      · next hfault =>
        cases hnext
        exact hmoves keeps_refl (fun _ => rfl) (hcounted.settled hmay hfault)
      · cases hnext
        exact hmoves keeps_refl (fun _ => rfl) (hcounted.mono hle)
  | aborting bound turnId message =>
      simp only [stageStep] at hnext
      split at hnext
      · cases hnext
        exact hmoves keeps_refl (fun _ => rfl) hcounted
      · cases hnext
        exact hmoves (keeps_terminalize _ _ _) (fun _ => rfl) hcounted
  | recording resume turnId =>
      cases hnext
      exact h.records hc hstage hsince hstamp
  | releasing result =>
      cases hnext
      exact h.land hc hstage hstamp
  | resumed result => cases hnext
  | limited turnId resetsAt reason =>
      cases hnext
      split
      · exact hmoves keeps_refl nofun trivial
      · exact hmoves keeps_refl nofun trivial
  | hitting turnId resetsAt reason =>
      simp only [stageStep] at hnext
      split at hnext
      · cases hnext
        exact hmoves keeps_refl nofun trivial
      · cases hnext
        exact hmoves keeps_refl nofun trivial
  | reaching turnId resetsAt reason autoResume paused =>
      cases hnext
      exact hmoves (keeps_append rfl) nofun trivial
  | stopping turnId reason =>
      cases hnext
      exact hmoves (keeps_terminalize _ _ _) nofun trivial
  | appending kind =>
      cases hnext
      exact hmoves keeps_refl nofun trivial
  | stamping kind =>
      simp only [stageStep, Option.ite_none_left_eq_some] at hnext
      obtain ⟨hkind, hnext⟩ := hnext
      cases hnext
      exact hmoves (keeps_append (Bool.eq_false_iff.mpr hkind)) nofun trivial
  | binding turnId =>
      cases hnext
      exact hmoves (keeps_refl.current _) nofun trivial
  | ended => cases hnext

lemma Counted.enter (h : Counted parseTime s) (henters : entersLimit call = true) :
    Counted parseTime { s with calls := s.calls ++ [call] } := by
  have hstage : call.stage.isInFlight = false := by
    unfold entersLimit at henters
    cases hcall : call.stage with
    | resuming | limited | appending | binding => rfl
    | _ =>
        rw [hcall] at henters
        cases henters
  refine ⟨h.alone.append (Bool.eq_false_iff.mp hstage), fun c hmem hholds => ?_, h.grounded,
    fun c hmem => ?_, h.stamped, h.capped⟩
  · rcases List.mem_append.mp hmem with hmem | hmem
    · exact h.inFlight c hmem hholds
    · rw [List.mem_singleton.mp hmem, hstage] at hholds
      cases hholds
  · rcases List.mem_append.mp hmem with hmem | hmem
    · exact h.counted c hmem
    · rw [List.mem_singleton.mp hmem]
      exact stageCounted_of_not_inFlight hstage

lemma Counted.next (h : Counted parseTime s) {t : Limiting} {answer : Unit}
    {action : PoolAction LimitCall LimitDraw} (hok : countsEveryStart parseTime s action = true)
    (hstep : (limitResumes sessionId parseTime).step s action = some (answer, t)) :
    Counted parseTime t := by
  cases action with
  | enter call =>
      obtain ⟨henters, rfl⟩ := pool_enter.mp hstep
      exact h.enter henters
  | advance i draw =>
      obtain ⟨call, hc, world, call', hnext, rfl⟩ := pool_advance.mp hstep
      simp only [limitStep, Option.ite_none_right_eq_some, Option.map_eq_some_iff] at hnext
      obtain ⟨⟨hsince, hstamp⟩, ⟨after, stage⟩, hstage, hcall⟩ := hnext
      cases hcall
      exact h.advance hc hok hsince hstamp hstage

lemma counted_start : Counted parseTime (limitResumes sessionId parseTime).start where
  alone i j c d hi := by cases hi
  inFlight call hmem := by cases hmem
  grounded _ := .nil
  counted call hmem := by cases hmem
  stamped event hmem := by cases hmem
  capped := capped_nil

lemma counted_run {events : List (PoolAction LimitCall LimitDraw × Unit)}
    (hrun : ((limitResumes sessionId parseTime).restrict (countsEveryStart parseTime)).Run
      (limitResumes sessionId parseTime).start events s) : Counted parseTime s := by
  induction hrun with
  | nil _ => exact counted_start
  | concat _ hstep _ ih =>
      obtain ⟨hok, hstep⟩ := System.restrict_step.mp hstep
      exact ih.next hok hstep

end Steps

theorem automatic_resumes_capped {events : List (PoolAction LimitCall LimitDraw × Unit)}
    {s : Limiting}
    (hrun : ((limitResumes sessionId parseTime).restrict (countsEveryStart parseTime)).Run
      (limitResumes sessionId parseTime).start events s) :
    Capped maxAutoResumes (hours autoResumeWindowHours) s.shared.autoStarts :=
  (counted_run hrun).capped

section ThirdHitBeforeRecord

def demoStamp (second : ℕ) : String :=
  "2026-10-12T03:00:" ++ (if second < 10 then "0" else "") ++ toString second ++ "+00:00"

def demoTime (text : String) : Option ℤ := do
  let tens ← text.toList[17]?
  let ones ← text.toList[18]?
  return (10 * (tens.toNat - 48) + (ones.toNat - 48)) * 10 ^ 9

def demoLimits : System Limiting (PoolAction LimitCall LimitDraw) Unit :=
  limitResumes ⟨"session"⟩ demoTime

def demoSteps (i count second : ℕ) (turnId : String) : List (PoolAction LimitCall LimitDraw) :=
  List.replicate count (.advance i {
    now := second * 10 ^ 9
    stamp := demoStamp second
    eventId := "event"
    turnId := ⟨turnId⟩
    model := none
    attachError := none
    autoResume := true
    fault := none })

def demoHit (i second : ℕ) (turnId : String) : List (PoolAction LimitCall LimitDraw) :=
  .enter (emitTurnUsageLimited ⟨turnId⟩ (demoStamp 0) "limit") :: demoSteps i 4 second turnId

def demoResume (i second : ℕ) (turnId : String) : List (PoolAction LimitCall LimitDraw) :=
  .enter (sendUsageLimitContinuation true none) :: demoSteps i 9 second turnId

def demoRecord (i second : ℕ) : List (PoolAction LimitCall LimitDraw) :=
  demoSteps i 2 second ""

def demoTwice : List (PoolAction LimitCall LimitDraw) :=
  .enter ⟨.appending (.turnStarted ⟨"turn-0"⟩ "prompt" none none none none none), 0⟩ ::
    demoSteps 0 2 1 "" ++ demoHit 1 2 "turn-0" ++
    demoResume 2 3 "turn-1" ++ demoRecord 2 4 ++ demoHit 3 5 "turn-1" ++
    demoResume 4 6 "turn-2" ++ demoRecord 4 7 ++ demoHit 5 8 "turn-2"

def demoThird : List (PoolAction LimitCall LimitDraw) :=
  demoTwice ++ demoResume 6 9 "turn-3" ++ demoRecord 6 10 ++ demoHit 7 11 "turn-3" ++
    demoResume 8 12 "turn-4"

def demoFourth : List (PoolAction LimitCall LimitDraw) :=
  demoTwice ++ demoResume 6 9 "turn-3" ++ demoHit 7 10 "turn-3" ++ demoRecord 6 11 ++
    demoResume 8 12 "turn-4"

def demoEnd (actions : List (PoolAction LimitCall LimitDraw)) : Limiting :=
  ((demoLimits.restrict (countsEveryStart demoTime)).perform demoLimits.start actions).2

theorem automatic_resumes_capped_demo :
    (demoEnd demoThird).shared.autoStarts = [3 * 10 ^ 9, 6 * 10 ^ 9, 9 * 10 ^ 9] ∧
      Capped maxAutoResumes (hours autoResumeWindowHours) (demoEnd demoThird).shared.autoStarts :=
  ⟨by decide +kernel, automatic_resumes_capped ((demoLimits.restrict
    (countsEveryStart demoTime)).run_perform demoLimits.start demoThird)⟩

theorem fourth_automatic_resume :
    ∃ events s, demoLimits.Run demoLimits.start events s ∧
      s.shared.autoStarts = [3 * 10 ^ 9, 6 * 10 ^ 9, 9 * 10 ^ 9, 12 * 10 ^ 9] ∧
      ¬Capped maxAutoResumes (hours autoResumeWindowHours) s.shared.autoStarts := by
  have hstarts : (demoLimits.perform demoLimits.start demoFourth).2.shared.autoStarts =
      [3 * 10 ^ 9, 6 * 10 ^ 9, 9 * 10 ^ 9, 12 * 10 ^ 9] := by decide +kernel
  refine ⟨_, _, demoLimits.run_perform demoLimits.start demoFourth, hstarts, fun hcapped => ?_⟩
  have hfour := hcapped 0
  rw [hstarts] at hfour
  revert hfour
  decide

end ThirdHitBeforeRecord

end DevCommandCenter.UsageLimit
