import DevCommandCenter.UsageLimit.ResumePlanner
import Mathlib.Data.List.Induction
import Mathlib.Data.List.Sort

/-! What the planner promises of its resumes, and the runs in which it keeps that. -/

namespace DevCommandCenter.UsageLimit

open Library

variable {parseTime : String → Option ℤ} {planner : ResumePlanner} {run : PlannerRun}
  {sessionId updated : String} {limit : SessionUsageLimit} {now slack : ℤ} {watch : Watch} {past : Past}
  {answer : Option ResumeAction} {calls before after : List PlannerCall} {call : PlannerCall}

section Promises

variable (parseTime)

/-- A resume only behind the reset and its slack, behind the delay of every failed start of its stop, and
while the stop has starts left. -/
def ResumesInTime (before : List PlannerCall) (sessionId : String) (limit : Option SessionUsageLimit)
    (now : ℤ) : Prop :=
  ∃ stopped ∈ limit, stopped.autoResume ∧ (usageLimitPhase parseTime stopped now).phase = .waiting ∧
    (∃ resetsAt ∈ stopped.resetsAt.bind parseTime, resetsAt + seconds resumeSlackMinSecs ≤ now) ∧
    (∀ time ∈ (pastOf sessionId before).failedAt stopped.stop,
      time + seconds retryAfterFailureSecs ≤ now) ∧
    ((pastOf sessionId before).failedAt stopped.stop).length < maxStartFailures

def WaitsListed (calls : List PlannerCall) (sessionId : String) : Prop :=
  (∃ due, (sessionId, due) ∈ (plannerRun parseTime calls).planner.waits) ↔
    (∃ action ∈ (plannerRun parseTime calls).answers.lookup sessionId, action ≠ .none) ∧
      ∀ stop ∈ (pastOf sessionId calls).stop,
        ((pastOf sessionId calls).failedAt stop).length < maxStartFailures

def KeepsPromises (calls : List PlannerCall) : Prop :=
  (∀ before after sessionId limit now slack, calls = before ++ .update sessionId limit now slack :: after →
    ((plannerRun parseTime before).planner.update parseTime sessionId limit now slack).2 = .resume →
      ResumesInTime parseTime before sessionId limit now) ∧
    ∀ before after sessionId, calls = before ++ after → WaitsListed parseTime before sessionId

end Promises

def Remembered (before : List PlannerCall) : PlannerCall → Prop
  | .update sessionId (some limit) _ _ =>
      (pastOf sessionId before).stop ≠ some limit.stop →
        (pastOf sessionId before).failedAt limit.stop = []
  | .update _ none _ _ => True
  | .failed sessionId _ =>
      ∀ stop ∈ (pastOf sessionId before).stop,
        ((pastOf sessionId before).failedAt stop).length + 1 < 2 ^ 32

def Remembers (calls : List PlannerCall) : Prop :=
  ∀ before call after, calls = before ++ call :: after → Remembered before call

section Steps

lemma plannerRun_snoc (calls : List PlannerCall) (call : PlannerCall) :
    plannerRun parseTime (calls ++ [call]) = (plannerRun parseTime calls).next parseTime call := by
  rw [plannerRun, List.foldl_append]
  rfl

lemma pastOf_snoc (calls : List PlannerCall) (call : PlannerCall) :
    pastOf sessionId (calls ++ [call]) = (pastOf sessionId calls).next sessionId call := by
  rw [pastOf, List.foldl_append]
  rfl

lemma autoResumeDueAt_eq_some {slackSecs due : ℤ}
    (h : autoResumeDueAt parseTime limit slackSecs now = some due) :
    limit.autoResume ∧ (usageLimitPhase parseTime limit now).phase = .waiting ∧
      ∃ resetsAt ∈ limit.resetsAt.bind parseTime, resetsAt + seconds resumeSlackMinSecs ≤ due := by
  rw [autoResumeDueAt] at h
  split at h
  · cases h
  · rename_i hon
    simp only [not_or, not_not] at hon
    obtain ⟨resetsAt, hreset, rfl⟩ := Option.map_eq_some_iff.mp h
    refine ⟨hon.1, hon.2, resetsAt, hreset, ?_⟩
    simp only [seconds, resumeSlackMinSecs, resumeSlackMaxSecs]
    omega

lemma update_some (planner : ResumePlanner) (sessionId : String) (limit : SessionUsageLimit)
    (now slack : ℤ) : ∃ due action,
      planner.update parseTime sessionId (some limit) now slack =
        (⟨planner.watches.insert sessionId
          { planner.watchOf sessionId limit.stop slack with due := due }⟩, action) ∧
      (due.isSome ↔ action ≠ .none) ∧
      (due.isSome → (planner.watchOf sessionId limit.stop slack).failures < maxStartFailures) ∧
      (action = .resume → limit.autoResume ∧
        (usageLimitPhase parseTime limit now).phase = .waiting ∧
        (∃ resetsAt ∈ limit.resetsAt.bind parseTime, resetsAt + seconds resumeSlackMinSecs ≤ now) ∧
        ∀ retryAt ∈ (planner.watchOf sessionId limit.stop slack).retryAfter, retryAt ≤ now) := by
  rw [ResumePlanner.update]
  dsimp only
  generalize planner.watchOf sessionId limit.stop slack = watch
  cases hdue : autoResumeDueAt parseTime limit watch.slackSecs now with
  | none => exact ⟨none, .none, rfl, by simp, by simp, by simp⟩
  | some due =>
      dsimp only
      split
      · exact ⟨none, .none, rfl, by simp, by simp, by simp⟩
      · rename_i hfailures
        refine ⟨some due, _, rfl, ?_, fun _ => Nat.lt_of_not_le hfailures, ?_⟩
        · split <;> simp
        · intro haction
          obtain ⟨hon, hphase, resetsAt, hreset, hslack⟩ := autoResumeDueAt_eq_some hdue
          have hready : max due (watch.retryAfter.getD due) ≤ now := by
            by_contra hnot
            rw [if_neg hnot] at haction
            cases haction
          refine ⟨hon, hphase, ⟨resetsAt, hreset, by omega⟩, ?_⟩
          intro retryAt hretry
          rw [Option.mem_def.mp hretry, Option.getD_some] at hready
          omega

end Steps

section Tracking

structure Counts (watch : Watch) (past : Past) : Prop where
  failures : watch.failures = (past.failedAt watch.key).length
  retryAfter : watch.retryAfter =
    (past.failedAt watch.key).getLast?.map (· + seconds retryAfterFailureSecs)

def Tracked (watch : Option Watch) (past : Past) (answer : Option ResumeAction) : Prop :=
  match watch with
  | none => past.stop = none ∧ ∀ action ∈ answer, action = .none
  | some watch => past.stop = some watch.key ∧ Counts watch past ∧
      (watch.due.isSome ↔ (∃ action ∈ answer, action ≠ .none) ∧ watch.failures < maxStartFailures)

lemma counts_watchOf {key : Stop}
    (h : Tracked (planner.watches.lookup sessionId) past answer)
    (hseen : past.stop ≠ some key → past.failedAt key = []) :
    (planner.watchOf sessionId key slack).key = key ∧
      Counts (planner.watchOf sessionId key slack) past := by
  have hnew : past.stop ≠ some key → Counts ⟨key, slack, none, 0, none⟩ past := by
    intro hother
    have hnone := hseen hother
    exact ⟨by rw [hnone]; rfl, by rw [hnone]; rfl⟩
  rw [ResumePlanner.watchOf]
  cases hlookup : planner.watches.lookup sessionId with
  | none =>
      rw [hlookup] at h
      refine ⟨rfl, hnew ?_⟩
      rw [h.1]
      exact Option.some_ne_none key |>.symm
  | some watch =>
      rw [hlookup] at h
      by_cases hkey : watch.key = key
      · rw [Option.filter_some, if_pos (decide_eq_true hkey)]
        exact ⟨hkey, h.2.1⟩
      · rw [Option.filter_some, if_neg (by simpa using hkey)]
        refine ⟨rfl, hnew ?_⟩
        rw [h.1]
        exact fun heq => hkey (Option.some.inj heq)

lemma tracked_update (h : ∀ sessionId, Tracked (run.planner.watches.lookup sessionId)
      (pastOf sessionId calls) (run.answers.lookup sessionId)) {updated : String}
    {limit : Option SessionUsageLimit}
    (hremembered : Remembered calls (.update updated limit now slack)) (sessionId : String) :
    Tracked ((run.next parseTime (.update updated limit now slack)).planner.watches.lookup sessionId)
      ((pastOf sessionId calls).next sessionId (.update updated limit now slack))
      ((run.next parseTime (.update updated limit now slack)).answers.lookup sessionId) := by
  by_cases hid : updated = sessionId
  · subst hid
    rw [Past.next, if_pos rfl]
    cases limit with
    | none =>
        have hlookup : (run.planner.watches.erase updated).lookup updated = none :=
          AList.lookup_erase ..
        simp only [PlannerRun.next, ResumePlanner.update, hlookup, List.lookup_cons_self]
        exact ⟨rfl, fun action haction => (Option.some.inj haction).symm⟩
    | some limit =>
        obtain ⟨due, action, hupdate, hdue, hfew, -⟩ :=
          @update_some parseTime run.planner updated limit now slack
        obtain ⟨hkey, hcounts⟩ := @counts_watchOf run.planner updated slack _ _ limit.stop (h updated)
          hremembered
        simp only [PlannerRun.next, hupdate, List.lookup_cons_self]
        rw [AList.lookup_insert]
        refine ⟨congrArg some hkey.symm, ⟨hcounts.failures, hcounts.retryAfter⟩, ?_⟩
        constructor
        · exact fun hsome => ⟨⟨action, rfl, hdue.mp hsome⟩, hfew hsome⟩
        · rintro ⟨⟨answered, hanswer, hne⟩, -⟩
          obtain rfl := Option.some.inj hanswer
          exact hdue.mpr hne
  · have hold := h sessionId
    have hne : sessionId ≠ updated := fun heq => hid heq.symm
    rw [Past.next, if_neg hid]
    cases limit with
    | none =>
        simp only [PlannerRun.next, ResumePlanner.update]
        rw [AList.lookup_erase_ne hne, List.lookup_cons, beq_false_of_ne hne]
        exact hold
    | some limit =>
        obtain ⟨due, action, hupdate, -⟩ := @update_some parseTime run.planner updated limit now slack
        simp only [PlannerRun.next, hupdate]
        rw [AList.lookup_insert_ne hne, List.lookup_cons, beq_false_of_ne hne]
        exact hold

lemma stop_failed (past : Past) (sessionId failing : String) (now : ℤ) :
    (past.next sessionId (.failed failing now)).stop = past.stop := by
  rw [Past.next]
  split
  · rfl
  · rfl

lemma failedAt_failed {stop : Stop} (h : past.stop = some stop) (failing : String) (now : ℤ) :
    (past.next failing (.failed failing now)).failedAt stop = past.failedAt stop ++ [now] := by
  rw [Past.next, if_pos rfl, h, Past.failedAt, Past.failedAt, List.filter_append, List.map_append]
  simp

lemma tracked_failed (h : ∀ sessionId, Tracked (run.planner.watches.lookup sessionId)
      (pastOf sessionId calls) (run.answers.lookup sessionId)) {failing : String}
    (hremembered : Remembered calls (.failed failing now)) (sessionId : String) :
    Tracked ((run.next parseTime (.failed failing now)).planner.watches.lookup sessionId)
      ((pastOf sessionId calls).next sessionId (.failed failing now))
      ((run.next parseTime (.failed failing now)).answers.lookup sessionId) := by
  have hold := h sessionId
  rw [PlannerRun.next, ResumePlanner.failed]
  by_cases hid : failing = sessionId
  · subst hid
    cases hlookup : run.planner.watches.lookup failing with
    | none =>
        rw [hlookup] at hold
        dsimp only
        rw [hlookup]
        exact ⟨by rw [stop_failed, hold.1], hold.2⟩
    | some watch =>
        rw [hlookup] at hold
        obtain ⟨hstop, hcounts, hdue⟩ := hold
        have hfew := hremembered watch.key hstop
        rw [← hcounts.failures] at hfew
        have htimes := failedAt_failed hstop failing now
        dsimp only
        rw [AList.lookup_insert, Nat.mod_eq_of_lt hfew]
        refine ⟨by rw [stop_failed, hstop], ⟨?_, ?_⟩, ?_⟩
        · dsimp only
          rw [htimes, List.length_append, hcounts.failures]
          rfl
        · dsimp only
          rw [htimes, List.getLast?_concat]
          rfl
        · dsimp only
          split
          · rename_i hmany
            constructor
            · intro hsome
              cases hsome
            · rintro ⟨-, hlt⟩
              omega
          · rename_i hroom
            rw [hdue]
            constructor
            · rintro ⟨hanswer, -⟩
              exact ⟨hanswer, by omega⟩
            · rintro ⟨hanswer, -⟩
              exact ⟨hanswer, by omega⟩
  · have hne : sessionId ≠ failing := fun heq => hid heq.symm
    rw [Past.next, if_neg hid]
    cases hlookup : run.planner.watches.lookup failing with
    | none => exact hold
    | some watch =>
        dsimp only
        rw [AList.lookup_insert_ne hne]
        exact hold

lemma tracked_run (h : Remembers calls) (sessionId : String) :
    Tracked ((plannerRun parseTime calls).planner.watches.lookup sessionId) (pastOf sessionId calls)
      ((plannerRun parseTime calls).answers.lookup sessionId) := by
  induction calls using List.reverseRecOn generalizing sessionId with
  | nil => exact ⟨rfl, fun action haction => by cases haction⟩
  | append_singleton calls call ih =>
      have hold : Remembers calls := by
        rintro before earlier after rfl
        exact h before earlier (after ++ [call]) (by simp)
      have hremembered := h calls call [] rfl
      rw [plannerRun_snoc, pastOf_snoc]
      cases call with
      | update updated limit now slack => exact tracked_update (ih hold) hremembered sessionId
      | failed failing now => exact tracked_failed (ih hold) hremembered sessionId

end Tracking

section Keeping

lemma failures_sublist (sessionId : String) (calls : List PlannerCall) :
    ((pastOf sessionId calls).failures.map Prod.snd).Sublist (calls.map PlannerCall.now) := by
  induction calls using List.reverseRecOn with
  | nil => exact List.nil_sublist _
  | append_singleton calls call ih =>
      rw [pastOf_snoc, List.map_append]
      cases call with
      | update updated limit now slack =>
          rw [Past.next]
          split
          · exact ih.trans (List.sublist_append_left _ _)
          · exact ih.trans (List.sublist_append_left _ _)
      | failed failing now =>
          rw [Past.next]
          split
          · rw [List.map_append]
            apply ih.append
            cases (pastOf sessionId calls).stop with
            | none => exact List.nil_sublist _
            | some stop => exact List.Sublist.refl _
          · exact ih.trans (List.sublist_append_left _ _)

lemma le_getLast_failedAt (hsorted : (calls.map PlannerCall.now).Pairwise (· ≤ ·)) {stop : Stop}
    {time : ℤ} (htime : time ∈ (pastOf sessionId calls).failedAt stop) :
    ∃ latest ∈ ((pastOf sessionId calls).failedAt stop).getLast?, time ≤ latest := by
  have hpairwise : ((pastOf sessionId calls).failedAt stop).Pairwise (· ≤ ·) := by
    have hfailures := List.Pairwise.sublist (failures_sublist sessionId calls) hsorted
    exact List.Pairwise.sublist (List.filter_sublist.map _) hfailures
  obtain ⟨front, latest, hsplit⟩ :=
    (List.eq_nil_or_concat' ((pastOf sessionId calls).failedAt stop)).resolve_left
      (List.ne_nil_of_mem htime)
  rw [hsplit] at htime hpairwise ⊢
  refine ⟨latest, List.getLast?_concat .., ?_⟩
  rcases List.mem_append.mp htime with hfront | hlast
  · exact (List.pairwise_append.mp hpairwise).2.2 time hfront latest List.mem_cons_self
  · exact (List.mem_singleton.mp hlast).le

lemma mem_waits {due : ℤ} : (sessionId, due) ∈ planner.waits ↔
    ∃ watch ∈ planner.watches.lookup sessionId, watch.due = some due := by
  rw [ResumePlanner.waits, List.mem_mergeSort, List.mem_filterMap]
  constructor
  · rintro ⟨⟨id, watch⟩, hentry, hdue⟩
    obtain ⟨due', hdue', heq⟩ := Option.map_eq_some_iff.mp hdue
    obtain ⟨rfl, rfl⟩ := Prod.mk.inj heq
    exact ⟨watch, AList.mem_lookup_iff.mpr hentry, hdue'⟩
  · rintro ⟨watch, hwatch, hdue⟩
    exact ⟨⟨sessionId, watch⟩, AList.mem_lookup_iff.mp hwatch, by rw [hdue]; rfl⟩

lemma Remembers.of_append (h : Remembers calls) (heq : calls = before ++ after) : Remembers before := by
  rintro earlier call later rfl
  exact h earlier call (later ++ after) (by rw [heq]; simp)

lemma resumes_in_time (hsorted : (before.map PlannerCall.now).Pairwise (· ≤ ·))
    (h : Remembers before) {limit : Option SessionUsageLimit}
    (hremembered : Remembered before (.update sessionId limit now slack))
    (hresume : ((plannerRun parseTime before).planner.update parseTime sessionId limit now slack).2 =
      .resume) : ResumesInTime parseTime before sessionId limit now := by
  cases limit with
  | none => cases hresume
  | some limit =>
      obtain ⟨due, action, hupdate, hdue, hfew, hpromise⟩ :=
        @update_some parseTime (plannerRun parseTime before).planner sessionId limit now slack
      rw [hupdate] at hresume
      obtain ⟨hon, hphase, hreset, hretry⟩ := hpromise hresume
      obtain ⟨hkey, hcounts⟩ := @counts_watchOf _ sessionId slack _ _ limit.stop
        (tracked_run h sessionId) hremembered
      have hroom := hfew (hdue.mpr (by rw [show action = .resume from hresume]; simp))
      rw [hcounts.failures, hkey] at hroom
      refine ⟨limit, rfl, hon, hphase, hreset, fun time htime => ?_, hroom⟩
      obtain ⟨latest, hlatest, hle⟩ := le_getLast_failedAt hsorted htime
      have hdelay := hretry (latest + seconds retryAfterFailureSecs) (by
        rw [hcounts.retryAfter, hkey, Option.mem_def.mp hlatest]
        rfl)
      omega

lemma waits_listed (h : Remembers calls) (sessionId : String) :
    WaitsListed parseTime calls sessionId := by
  have htracked := @tracked_run parseTime _ h sessionId
  rw [WaitsListed]
  simp only [mem_waits]
  cases hlookup : (plannerRun parseTime calls).planner.watches.lookup sessionId with
  | none =>
      rw [hlookup] at htracked
      constructor
      · rintro ⟨due, watch, hwatch, -⟩
        cases hwatch
      · rintro ⟨⟨action, haction, hne⟩, -⟩
        exact absurd (htracked.2 action haction) hne
  | some watch =>
      rw [hlookup] at htracked
      obtain ⟨hstop, hcounts, hdue⟩ := htracked
      rw [hstop]
      constructor
      · rintro ⟨due, listed, hlisted, hset⟩
        obtain rfl := Option.some.inj hlisted
        obtain ⟨hanswer, hfew⟩ := hdue.mp (by rw [hset]; rfl)
        refine ⟨hanswer, fun stop hmem => ?_⟩
        obtain rfl := Option.some.inj hmem
        rwa [← hcounts.failures]
      · rintro ⟨hanswer, hfew⟩
        have hroom := hfew watch.key rfl
        rw [← hcounts.failures] at hroom
        obtain ⟨due, hset⟩ := Option.isSome_iff_exists.mp (hdue.mpr ⟨hanswer, hroom⟩)
        exact ⟨due, watch, rfl, hset⟩

end Keeping

/-- The planner keeps its promises in every run in which no stop comes back after another limit of its
session has put its failed starts aside. -/
theorem keeps_promises (parseTime : String → Option ℤ) (calls : List PlannerCall)
    (hsorted : (calls.map PlannerCall.now).Pairwise (· ≤ ·)) (h : Remembers calls) :
    KeepsPromises parseTime calls := by
  constructor
  · intro before after sessionId limit now slack heq hresume
    have hbefore : (before.map PlannerCall.now).Pairwise (· ≤ ·) := by
      rw [heq, List.map_append, List.pairwise_append] at hsorted
      exact hsorted.1
    exact resumes_in_time hbefore (h.of_append heq) (h before _ after heq) hresume
  · intro before after sessionId heq
    exact waits_listed (h.of_append heq) sessionId

section Demo

def plannedReset : String := "2026-10-12T03:40:00Z"

def plannedTime (text : String) : Option ℤ :=
  if text = plannedReset then some (seconds 1791776400) else none

def plannedLimit : SessionUsageLimit where
  turnId := ⟨"t1"⟩
  hitAt := "2026-10-12T01:30:00Z"
  resetsAt := some plannedReset
  autoResume := true
  autoResumesUsed := 0

def seenAt (second : ℤ) : PlannerCall :=
  .update "s" (some plannedLimit) (seconds (1791776400 + second)) 90

def failedAtSecond (second : ℤ) : PlannerCall :=
  .failed "s" (seconds (1791776400 + second))

lemma Remembers.nil : Remembers [] := by
  intro before call after h
  simp at h

lemma Remembers.snoc (h : Remembers calls) (hcall : Remembered calls call) :
    Remembers (calls ++ [call]) := by
  intro before earlier after heq
  rcases List.eq_nil_or_concat' after with rfl | ⟨later, last, rfl⟩
  · obtain ⟨rfl, hlast⟩ := List.append_inj' heq rfl
    obtain rfl := List.singleton_injective hlast
    exact hcall
  · rw [← List.cons_append, ← List.append_assoc] at heq
    exact h before earlier later (List.append_inj' heq rfl).1

theorem retried_behind_delay :
    let before := [seenAt 90, failedAtSecond 90, seenAt 200]
    ResumesInTime plannedTime before "s" (some plannedLimit) (seconds (1791776400 + 390)) := by
  intro before
  have hfirst : Remembers [seenAt 90] := Remembers.nil.snoc fun _ => rfl
  have hfailed : Remembers [seenAt 90, failedAtSecond 90] := hfirst.snoc (by
    rintro stop hstop
    obtain rfl := Option.some.inj hstop
    decide)
  have hagain : Remembers before := hfailed.snoc fun hne => absurd rfl hne
  have hlast : Remembers (before ++ [seenAt 390]) := hagain.snoc fun hne => absurd rfl hne
  exact (keeps_promises plannedTime (before ++ [seenAt 390]) (by decide) hlast).1 before [] "s"
    (some plannedLimit) _ 90 rfl (by decide +kernel)

def forgottenStarts : List PlannerCall :=
  [seenAt 90, failedAtSecond 90, seenAt 390, failedAtSecond 390, seenAt 690, failedAtSecond 690,
    seenAt 990, .update "s" none (seconds (1791776400 + 991)) 90]

theorem forgotten_starts_resume :
    let calls := forgottenStarts ++ [seenAt 992]
    (calls.map PlannerCall.now).Pairwise (· ≤ ·) ∧
      ((plannerRun plannedTime forgottenStarts).planner.update plannedTime "s" (some plannedLimit)
        (seconds (1791776400 + 992)) 90).2 = .resume ∧
      ¬KeepsPromises plannedTime calls := by
  intro calls
  have hresume : ((plannerRun plannedTime forgottenStarts).planner.update plannedTime "s"
      (some plannedLimit) (seconds (1791776400 + 992)) 90).2 = .resume := by
    decide +kernel
  refine ⟨by decide, hresume, fun hkeeps => ?_⟩
  obtain ⟨stopped, hstopped, -, -, -, -, hfew⟩ :=
    hkeeps.1 forgottenStarts [] "s" (some plannedLimit) _ 90 rfl hresume
  obtain rfl := Option.some.inj hstopped
  exact absurd hfew (by decide +kernel)

end Demo

end DevCommandCenter.UsageLimit
