import DevCommandCenter.Composer.LaunchJournal
import Mathlib.Data.List.Chain

/-! What the launches in `state.json` go through over any run of calls and crashes. -/

namespace DevCommandCenter.QuickComposer

open Library

variable {Bytes : Type}

structure Codec.Lawful (codec : Codec Bytes) : Prop where
  decodeEncode : ∀ saved, codec.decode (codec.encode saved) = some saved

abbrev Entry (Bytes : Type) :=
  System.Taken (Composer Bytes) (Event Bytes) (Option (Except String Launch))

section Calls

variable {codec : Codec Bytes} {fault : Option (Fault Bytes)} {saved : Saved} {launch : Launch}
  {s t : Composer Bytes} {result : Except Stop Launch}

def written (fault : Option (Fault Bytes)) : Bool :=
  fault.all fun f => f.step ∉ [.write, .sync, .rename]

structure Kept (s t : Composer Bytes) : Prop where
  stateJson : t.disk.stateJson = s.disk.stateJson
  memory : t.memory = s.memory

structure Wrote (codec : Codec Bytes) (saved : Saved) (launch : Launch) (t : Composer Bytes)
    (result : Except Stop Launch) : Prop where
  stateJson : t.disk.stateJson = some (codec.encode { saved with launch := some launch })
  returned : (result = .ok launch ∧ t.memory = some { saved with launch := some launch }) ∨
    result = .error .crash

lemma publish_kept (h : written fault = false) :
    Kept s (publish fault codec saved launch s).2 := by
  cases fault with
  | none => simp [written] at h
  | some f =>
      obtain ⟨step, crashes, left⟩ := f
      cases step with
      | archive => cases h
      | publish => cases h
      | write => exact ⟨rfl, rfl⟩
      | sync => exact ⟨rfl, rfl⟩
      | rename => exact ⟨rfl, rfl⟩

lemma publish_wrote (h : written fault = true) :
    Wrote codec saved launch (publish fault codec saved launch s).2
      (publish fault codec saved launch s).1 := by
  cases fault with
  | none => exact ⟨rfl, .inl ⟨rfl, rfl⟩⟩
  | some f =>
      obtain ⟨step, crashes, left⟩ := f
      cases step with
      | write => cases h
      | sync => cases h
      | rename => cases h
      | archive =>
          cases crashes
          · exact ⟨rfl, .inl ⟨rfl, rfl⟩⟩
          · exact ⟨rfl, .inl ⟨rfl, rfl⟩⟩
      | publish =>
          cases crashes
          · exact ⟨rfl, .inl ⟨rfl, rfl⟩⟩
          · exact ⟨rfl, .inr rfl⟩

structure Starts (codec : Codec Bytes) (fault : Option (Fault Bytes)) (saved : Saved)
    (launch : Launch) : Prop where
  valid : validateLaunch codec launch = .ok ()
  replaces : ∀ previous ∈ saved.launch, previous.id ≠ launch.id ∧
    finished previous.phase = true ∧ (fault.all fun f => f.step ≠ .archive) = true
  written : written fault = true

structure Moves (fault : Option (Fault Bytes)) (saved : Saved) (launch : Launch) : Prop where
  follows : ∃ current, saved.launch = some current ∧ transition current launch = .ok ()
  written : written fault = true

lemma refuse_ok_bind {check : Except String Unit} {call : Call (Composer Bytes) Stop Launch}
    (h : check = .ok ()) : (refuse check >>= fun _ => call) s = call s := by
  rw [h]
  rfl

lemma refuse_error_bind {check : Except String Unit} {call : Call (Composer Bytes) Stop Launch}
    {message : String} (h : check = .error message) :
    (refuse check >>= fun _ => call) s = (.error (.error message), s) := by
  rw [h]
  rfl

lemma archive_ok (codec : Codec Bytes) (previous : Launch) (s : Composer Bytes)
    (h : (fault.all fun f => f.step ≠ .archive) = true) :
    ∃ t, archive fault codec previous s = (.ok (), t) ∧ Kept s t := by
  cases fault with
  | none => exact ⟨_, rfl, rfl, rfl⟩
  | some f => exact ⟨_, if_neg (of_decide_eq_true h), rfl, rfl⟩

lemma archive_error (codec : Codec Bytes) (previous : Launch) (s : Composer Bytes)
    (h : (fault.all fun f => f.step ≠ .archive) = false) :
    ∃ stop t, archive fault codec previous s = (.error stop, t) ∧ Kept s t := by
  cases fault with
  | none => cases h
  | some f =>
      refine ⟨_, _, if_pos (not_not.mp (of_decide_eq_false h)), ?_⟩
      cases f.left <;> exact ⟨rfl, rfl⟩

lemma Kept.trans {u : Composer Bytes} (h : Kept s t) (h' : Kept t u) : Kept s u :=
  ⟨h'.stateJson.trans h.stateJson, h'.memory.trans h.memory⟩

lemma begin_cases (codec : Codec Bytes) (fault : Option (Fault Bytes)) (saved : Saved)
    (launch : Launch) (s : Composer Bytes) :
    Starts codec fault saved launch ∧
      Wrote codec saved launch (begin fault codec saved launch s).2
        (begin fault codec saved launch s).1 ∨
    ¬Starts codec fault saved launch ∧ Kept s (begin fault codec saved launch s).2 := by
  unfold begin
  cases hvalid : validateLaunch codec launch with
  | error message =>
      rw [refuse_error_bind rfl]
      refine .inr ⟨fun h => ?_, rfl, rfl⟩
      rw [h.valid] at hvalid
      cases hvalid
  | ok done =>
      rw [refuse_ok_bind rfl]
      unfold replaceLaunch
      cases hlaunch : saved.launch with
      | none =>
          dsimp only
          cases hwritten : written fault with
          | true =>
              exact .inl ⟨⟨hvalid, by simp [hlaunch], hwritten⟩, publish_wrote hwritten⟩
          | false =>
              refine .inr ⟨fun h => ?_, publish_kept hwritten⟩
              simp [h.written] at hwritten
      | some previous =>
          dsimp only
          split
          · next hid => exact .inr ⟨fun h => (h.replaces previous hlaunch).1 hid, rfl, rfl⟩
          · next hid =>
            split
            · next hphase =>
              refine .inr ⟨fun h => ?_, rfl, rfl⟩
              simp [(h.replaces previous hlaunch).2.1] at hphase
            · next hphase =>
              cases hclear : fault.all fun f => f.step ≠ .archive with
              | false =>
                  obtain ⟨stop, t, heq, hkept⟩ := archive_error codec previous s hclear
                  rw [Call.bind_apply, heq]
                  refine .inr ⟨fun h => ?_, hkept⟩
                  rw [(h.replaces previous hlaunch).2.2] at hclear
                  cases hclear
              | true =>
                  obtain ⟨t, heq, hkept⟩ := archive_ok codec previous s hclear
                  rw [Call.bind_apply, heq]
                  cases hwritten : written fault with
                  | true =>
                      refine .inl ⟨⟨hvalid, ?_, hwritten⟩, publish_wrote hwritten⟩
                      intro other hother
                      obtain rfl : previous = other := Option.some.inj (hlaunch.symm.trans hother)
                      exact ⟨hid, by simpa using hphase, hclear⟩
                  | false =>
                      refine .inr ⟨fun h => ?_, hkept.trans (publish_kept hwritten)⟩
                      rw [h.written] at hwritten
                      cases hwritten

lemma checkpoint_cases (codec : Codec Bytes) (fault : Option (Fault Bytes)) (saved : Saved)
    (launch : Launch) (s : Composer Bytes) :
    Moves fault saved launch ∧
      Wrote codec saved launch (checkpoint fault codec saved launch s).2
        (checkpoint fault codec saved launch s).1 ∨
    Kept s (checkpoint fault codec saved launch s).2 := by
  unfold checkpoint
  cases hlaunch : saved.launch with
  | none => exact .inr ⟨rfl, rfl⟩
  | some current =>
      dsimp only
      cases hfollows : transition current launch with
      | error message =>
          rw [refuse_error_bind rfl]
          exact .inr ⟨rfl, rfl⟩
      | ok done =>
          rw [refuse_ok_bind rfl]
          cases hwritten : written fault with
          | true => exact .inl ⟨⟨⟨current, hlaunch, hfollows⟩, hwritten⟩, publish_wrote hwritten⟩
          | false => exact .inr (publish_kept hwritten)

end Calls

section Steps

variable {codec : Codec Bytes} {s t : Composer Bytes} {event : Event Bytes}
  {answer : Option (Except String Launch)}

structure Unwritten (codec : Codec Bytes) (s t : Composer Bytes)
    (answer : Option (Except String Launch)) : Prop where
  stateJson : t.disk.stateJson = s.disk.stateJson
  memory : ∀ saved, t.memory = some saved →
    s.memory = some saved ∨ openState codec s.disk = some saved
  refused : ∀ message, answer = some (.error message) → t.memory = s.memory

structure Written (codec : Codec Bytes) (s t : Composer Bytes)
    (answer : Option (Except String Launch)) (saved : Saved) (launch : Launch) : Prop where
  memory : s.memory = some saved
  stateJson : t.disk.stateJson = some (codec.encode { saved with launch := some launch })
  kept : ∀ saved', t.memory = some saved' → saved' = { saved with launch := some launch }
  answered : ∀ message, answer ≠ some (.error message)

lemma runCall_kept {call : Saved → Call (Composer Bytes) Stop Launch} {saved : Saved}
    (hmemory : s.memory = some saved) (hrun : runCall call s = some (answer, t))
    (hkept : Kept s (call saved s).2) : Unwritten codec s t answer := by
  unfold runCall at hrun
  rw [hmemory] at hrun
  dsimp only at hrun
  split at hrun
  · next u heq =>
    cases hrun
    rw [heq] at hkept
    exact ⟨hkept.stateJson, by simp, by simp⟩
  · next result u hother heq =>
    cases hrun
    rw [heq] at hkept
    exact ⟨hkept.stateJson, fun saved h => .inl (hkept.memory ▸ h), fun _ _ => hkept.memory⟩

lemma runCall_wrote {call : Saved → Call (Composer Bytes) Stop Launch} {saved : Saved}
    {launch : Launch} (hmemory : s.memory = some saved) (hrun : runCall call s = some (answer, t))
    (hwrote : Wrote codec saved launch (call saved s).2 (call saved s).1) :
    Written codec s t answer saved launch := by
  unfold runCall at hrun
  rw [hmemory] at hrun
  dsimp only at hrun
  obtain ⟨hstateJson, ⟨hresult, hwritten⟩ | hresult⟩ := hwrote
  · split at hrun
    · next u heq =>
      rw [heq] at hresult
      cases hresult
    · next result u hother heq =>
      cases hrun
      rw [heq] at hstateJson hresult hwritten
      dsimp only at hresult
      subst hresult
      refine ⟨hmemory, hstateJson, fun saved' h => ?_, by simp [answered]⟩
      exact (Option.some.inj (hwritten.symm.trans h)).symm
  · split at hrun
    · next u heq =>
      cases hrun
      rw [heq] at hstateJson
      exact ⟨hmemory, hstateJson, by simp, by simp⟩
    · next result u hother heq =>
      rw [heq] at hresult
      exact (hother hresult).elim

inductive StepKind (codec : Codec Bytes) (s t : Composer Bytes) (event : Event Bytes)
    (answer : Option (Except String Launch)) : Prop
  | unwritten : Unwritten codec s t answer →
      (∀ launch fault saved, event = .begin launch fault → s.memory = some saved →
        ¬Starts codec fault saved launch) → StepKind codec s t event answer
  | begun (saved : Saved) (launch : Launch) (fault : Option (Fault Bytes)) :
      event = .begin launch fault → Starts codec fault saved launch →
      Written codec s t answer saved launch → StepKind codec s t event answer
  | moved (saved : Saved) (current launch : Launch) (fault : Option (Fault Bytes)) :
      event = .checkpoint launch fault → saved.launch = some current →
      transition current launch = .ok () → Written codec s t answer saved launch →
      StepKind codec s t event answer

lemma step_kind (hstep : (quickComposer codec).step s event = some (answer, t)) :
    StepKind codec s t event answer := by
  cases event with
  | begin launch fault =>
      cases hmemory : s.memory with
      | none => simp [quickComposer, runCall, hmemory] at hstep
      | some saved =>
          obtain ⟨hstarts, hwrote⟩ | ⟨hnot, hkept⟩ := begin_cases codec fault saved launch s
          · exact .begun saved launch fault rfl hstarts (runCall_wrote hmemory hstep hwrote)
          · refine .unwritten (runCall_kept hmemory hstep hkept) ?_
            rintro launch' fault' saved' ⟨⟩ hmemory'
            cases hmemory.symm.trans hmemory'
            exact hnot
  | checkpoint launch fault =>
      cases hmemory : s.memory with
      | none => simp [quickComposer, runCall, hmemory] at hstep
      | some saved =>
          obtain ⟨⟨⟨current, hcurrent, hfollows⟩, -⟩, hwrote⟩ | hkept :=
            checkpoint_cases codec fault saved launch s
          · exact .moved saved current launch fault rfl hcurrent hfollows
              (runCall_wrote hmemory hstep hwrote)
          · exact .unwritten (runCall_kept hmemory hstep hkept) (by rintro _ _ _ ⟨⟩)
  | crash =>
      cases hstep
      exact .unwritten ⟨rfl, by simp, by simp⟩ (by rintro _ _ _ ⟨⟩)
  | opens failure =>
      refine .unwritten ?_ (by rintro _ _ _ ⟨⟩)
      simp only [quickComposer] at hstep
      split at hstep
      · cases hstep
      · split at hstep
        · cases hstep
          exact ⟨rfl, fun _ h => .inl h, fun _ _ => rfl⟩
        · cases hstep
          exact ⟨rfl, fun _ h => .inr h, by simp⟩

end Steps

structure Follows (a b : Launch) : Prop where
  revision : a.revision < b.revision
  phase : allowed a.phase b.phase = true ∨ b.phase = "failed"
  unfinished : finished a.phase = false
  request : b.request = a.request
  workspaceId : ∀ workspace, a.workspaceId = some workspace → b.workspaceId = some workspace
  sessionId : ∀ session, a.sessionId = some session → b.sessionId = some session

section Transitions

def bound (phase : String) : ℕ :=
  match phase with
  | "creating" => 1
  | "workspaceReady" => 2
  | "starting" => 3
  | "sessionReady" => 4
  | "sending" => 5
  | "completed" => 6
  | "failed" => 7
  | _ => 0

variable {codec : Codec Bytes} {launch current next : Launch}

lemma validateLaunch_pending (h : validateLaunch codec launch = .ok ()) :
    launch.phase = "pending" ∧ launch.revision = 0 := by
  unfold validateLaunch at h
  dsimp only at h
  split at h
  · cases h
  · next hvalid =>
    simp only [Bool.or_eq_true, decide_eq_true_eq, not_or] at hvalid
    exact ⟨by simpa using hvalid.1.1.1.2, by simpa using hvalid.1.1.1.1.2⟩

lemma begun_new {fault : Option (Fault Bytes)} {saved : Saved}
    (h : Starts codec fault saved launch) : saved.launch ≠ some launch :=
  fun hlaunch => (h.replaces launch hlaunch).1 rfl

lemma bound_unfinished (h : finished current.phase = false) : bound current.phase ≤ 6 := by
  unfold bound
  split <;> first | decide | skip
  next hfailed => simp [finished, hfailed] at h

lemma bound_allowed {phase next : String} (h : allowed phase next = true) :
    bound next = bound phase + 1 := by
  simp only [allowed, List.mem_cons, Prod.mk.injEq, List.not_mem_nil, or_false,
    decide_eq_true_eq] at h
  rcases h with ⟨rfl, rfl⟩ | ⟨rfl, rfl⟩ | ⟨rfl, rfl⟩ | ⟨rfl, rfl⟩ | ⟨rfl, rfl⟩ | ⟨rfl, rfl⟩ <;> rfl

lemma transition_follows (h : transition current next = .ok ())
    (hrevision : current.revision ≤ bound current.phase) :
    Follows current next ∧ next.id = current.id ∧ next.revision ≤ bound next.phase := by
  unfold transition at h
  split at h
  · cases h
  · next hstale =>
    split at h
    · cases h
    · next hphase =>
      split at h
      · cases h
      · next hscope =>
        simp only [ne_eq, not_or, not_not] at hstale
        obtain ⟨hid, hnext, hrequest⟩ := hstale
        simp only [Bool.or_eq_true, Bool.and_eq_true, not_or, Bool.not_eq_true] at hphase hscope
        have hunfinished : finished current.phase = false := hphase.2
        have hallowed : allowed current.phase next.phase = true ∨ next.phase = "failed" := by
          cases hcase : allowed current.phase next.phase with
          | true => exact .inl rfl
          | false => simpa [hcase] using hphase.1
        have hbound := bound_unfinished hunfinished
        have hrevision' : next.revision = current.revision + 1 := by
          rw [hnext]
          exact Nat.mod_eq_of_lt (by omega)
        refine ⟨⟨by omega, hallowed, hunfinished, hrequest.symm, ?_, ?_⟩, hid.symm, ?_⟩
        · intro workspace hworkspace
          have hkept := hscope.1
          simp [hworkspace] at hkept
          exact hkept.symm
        · intro session hsession
          have hkept := hscope.2
          simp [hsession] at hkept
          exact hkept.symm
        · rcases hallowed with hallowed | hfailed
          · rw [bound_allowed hallowed]
            omega
          · rw [hfailed]
            show _ ≤ 7
            omega

lemma moved_new {saved : Saved} (hcurrent : saved.launch = some current)
    (hfollows : Follows current next) : saved.launch ≠ some next := by
  intro hnext
  cases hcurrent.symm.trans hnext
  exact lt_irrefl _ hfollows.revision

end Transitions

section Runs

variable [DecidableEq Bytes] {codec : Codec Bytes} {history before after : List (Entry Bytes)}
  {e : Entry Bytes} {s t : Composer Bytes}

def persisted (codec : Codec Bytes) (e : Entry Bytes) : Option Launch :=
  if e.after.disk.stateJson = e.before.disk.stateJson then none
  else (e.after.disk.stateJson.bind codec.decode).bind Saved.launch

def statesOf (codec : Codec Bytes) (id : String) (history : List (Entry Bytes)) : List Launch :=
  (history.filterMap (persisted codec)).filter fun launch => launch.id = id

structure Unreplayed (states : List Launch) : Prop where
  starts : ∀ first ∈ states.head?, first.phase = "pending" ∧ first.revision = 0
  follows : states.IsChain Follows

/-- No launch is ever replayed or changed, and no refused call changes anything. -/
structure NeverReplayed (codec : Codec Bytes) (history : List (Entry Bytes)) : Prop where
  launches : ∀ id, Unreplayed (statesOf codec id history)
  refusals : ∀ e ∈ history, ∀ message, e.answer = some (.error message) →
    e.after.memory = e.before.memory ∧ e.after.disk.stateJson = e.before.disk.stateJson

structure Rebegins (codec : Codec Bytes) (before : List (Entry Bytes)) (e : Entry Bytes)
    (launch : Launch) (fault : Option (Fault Bytes)) (saved : Saved) : Prop where
  action : e.action = .begin launch fault
  memory : e.before.memory = some saved
  starts : Starts codec fault saved launch
  earlier : statesOf codec launch.id before ≠ []

structure Recorded (codec : Codec Bytes) (history : List (Entry Bytes)) (s : Composer Bytes)
    (saved : Saved) : Prop where
  opens : openState codec s.disk = some saved
  memory : ∀ saved', s.memory = some saved' → saved' = saved
  none_ : saved.launch = none → ∀ id, statesOf codec id history = []
  last : ∀ current, saved.launch = some current →
    (statesOf codec current.id history).getLast? = some current ∧
      current.revision ≤ bound current.phase

lemma persisted_of_unwritten {s t : Composer Bytes} {event : Event Bytes}
    {answer : Option (Except String Launch)} (h : Unwritten codec s t answer) :
    persisted codec ⟨s, event, answer, t⟩ = none :=
  if_pos h.stateJson

lemma statesOf_append (id : String) (history : List (Entry Bytes)) (e : Entry Bytes) :
    statesOf codec id (history ++ [e]) =
      statesOf codec id history ++ ((persisted codec e).toList.filter fun launch => launch.id = id) := by
  unfold statesOf
  rw [List.filterMap_append, List.filter_append]
  congr 1

lemma persisted_of_written (hcodec : codec.Lawful) {s t : Composer Bytes} {event : Event Bytes}
    {answer : Option (Except String Launch)} {saved : Saved} {launch : Launch}
    (h : Written codec s t answer saved launch) (hopens : openState codec s.disk = some saved)
    (hnew : saved.launch ≠ some launch) :
    persisted codec ⟨s, event, answer, t⟩ = some launch := by
  have hchanged : t.disk.stateJson ≠ s.disk.stateJson := by
    rw [h.stateJson]
    intro heq
    rw [openState, ← heq] at hopens
    dsimp only at hopens
    rw [hcodec.decodeEncode] at hopens
    exact hnew (congrArg Saved.launch (Option.some.inj hopens)).symm
  rw [persisted, if_neg hchanged, h.stateJson, Option.bind_some, hcodec.decodeEncode]
  rfl

lemma statesOf_written (hcodec : codec.Lawful) {event : Event Bytes}
    {answer : Option (Except String Launch)} {saved : Saved} {launch : Launch}
    (h : Written codec s t answer saved launch) (hopens : openState codec s.disk = some saved)
    (hnew : saved.launch ≠ some launch) (id : String) :
    statesOf codec id (history ++ [⟨s, event, answer, t⟩]) =
      statesOf codec id history ++ if launch.id = id then [launch] else [] := by
  rw [statesOf_append, persisted_of_written hcodec h hopens hnew]
  by_cases hid : launch.id = id <;> simp [hid]

lemma Recorded.written (hcodec : codec.Lawful) {event : Event Bytes}
    {answer : Option (Except String Launch)} {saved : Saved} {launch : Launch}
    (ih : Recorded codec history s saved) (h : Written codec s t answer saved launch)
    (hnew : saved.launch ≠ some launch) (hbound : launch.revision ≤ bound launch.phase) :
    Recorded codec (history ++ [⟨s, event, answer, t⟩]) t { saved with launch := some launch } := by
  refine ⟨?_, h.kept, by rintro ⟨⟩, ?_⟩
  · rw [openState, h.stateJson]
    exact hcodec.decodeEncode _
  · rintro current ⟨⟩
    rw [statesOf_written hcodec h ih.opens hnew, if_pos rfl]
    exact ⟨List.getLast?_concat, hbound⟩

lemma recorded (hcodec : codec.Lawful) (h : (quickComposer codec).History history s) :
    ∃ saved, Recorded codec history s saved := by
  induction h with
  | start =>
      exact ⟨Saved.default, rfl, by rintro saved' ⟨⟩, fun _ _ => rfl, by rintro current ⟨⟩⟩
  | @step history s t event answer hhistory hstep ih =>
      obtain ⟨saved, ih⟩ := ih
      cases step_kind hstep with
      | unwritten hunwritten =>
          have hsame : ∀ id, statesOf codec id (history ++ [⟨s, event, answer, t⟩]) =
              statesOf codec id history := by
            intro id
            rw [statesOf_append, persisted_of_unwritten hunwritten]
            simp
          have hopens : openState codec t.disk = some saved := by
            rw [openState, hunwritten.stateJson]
            exact ih.opens
          refine ⟨saved, hopens, fun saved' hmemory => ?_, fun hnone id => ?_, fun current hlast => ?_⟩
          · rcases hunwritten.memory saved' hmemory with hbefore | hopened
            · exact ih.memory saved' hbefore
            · exact Option.some.inj (hopened.symm.trans ih.opens)
          · rw [hsame, ih.none_ hnone]
          · rw [hsame]
            exact ih.last current hlast
      | begun saved' launch fault haction hstarts hwritten =>
          obtain rfl := ih.memory saved' hwritten.memory
          refine ⟨_, ih.written hcodec hwritten (begun_new hstarts) ?_⟩
          rw [(validateLaunch_pending hstarts.valid).2]
          exact Nat.zero_le _
      | moved saved' current launch fault haction hcurrent htransition hwritten =>
          obtain rfl := ih.memory saved' hwritten.memory
          obtain ⟨hfollows, -, hbound⟩ := transition_follows htransition (ih.last current hcurrent).2
          exact ⟨_, ih.written hcodec hwritten (moved_new hcurrent hfollows) hbound⟩

lemma Unreplayed.append {states : List Launch} {launch : Launch} (h : Unreplayed states)
    (hfollows : ∀ last ∈ states.getLast?, Follows last launch) (hne : states ≠ []) :
    Unreplayed (states ++ [launch]) := by
  refine ⟨?_, List.isChain_append.mpr ⟨h.follows, List.isChain_singleton _, ?_⟩⟩
  · rw [List.head?_append_of_ne_nil _ hne]
    exact h.starts
  · rintro last hlast first hfirst
    cases hfirst
    exact hfollows last hlast

lemma unreplayed_begun {launch : Launch} (hphase : launch.phase = "pending")
    (hrevision : launch.revision = 0) : Unreplayed [launch] := by
  refine ⟨?_, List.isChain_singleton _⟩
  rintro first ⟨⟩
  exact ⟨hphase, hrevision⟩

lemma unreplayed (hcodec : codec.Lawful) (h : (quickComposer codec).History history s)
    (hnever : ∀ before e after, history = before ++ e :: after →
      ∀ launch fault saved, ¬Rebegins codec before e launch fault saved) (id : String) :
    Unreplayed (statesOf codec id history) := by
  induction h with
  | start => exact ⟨by rintro first ⟨⟩, List.isChain_nil⟩
  | @step history s t event answer hhistory hstep ih =>
      have ih := ih fun before e after heq => hnever before e (after ++ [⟨s, event, answer, t⟩])
        (by rw [heq, List.append_assoc]; rfl)
      obtain ⟨saved, hrecorded⟩ := recorded hcodec hhistory
      cases step_kind hstep with
      | unwritten hunwritten =>
          rw [statesOf_append, persisted_of_unwritten hunwritten]
          simpa using ih
      | begun saved' launch fault haction hstarts hwritten =>
          obtain rfl := hrecorded.memory saved' hwritten.memory
          rw [statesOf_written hcodec hwritten hrecorded.opens (begun_new hstarts)]
          split
          · next hid =>
            subst hid
            have hfirst : statesOf codec launch.id history = [] := by
              by_contra hearlier
              exact hnever history _ [] rfl launch fault saved'
                ⟨haction, hwritten.memory, hstarts, hearlier⟩
            rw [hfirst]
            obtain ⟨hphase, hrevision⟩ := validateLaunch_pending hstarts.valid
            exact unreplayed_begun hphase hrevision
          · simpa using ih
      | moved saved' current launch fault haction hcurrent htransition hwritten =>
          obtain rfl := hrecorded.memory saved' hwritten.memory
          obtain ⟨hlast, hbound⟩ := hrecorded.last current hcurrent
          obtain ⟨hfollows, hsame, -⟩ := transition_follows htransition hbound
          rw [statesOf_written hcodec hwritten hrecorded.opens (moved_new hcurrent hfollows)]
          split
          · next hid =>
            subst hid
            rw [hsame] at ih ⊢
            refine ih.append (fun last hlast' => ?_) fun hnil => ?_
            · cases hlast.symm.trans hlast'
              exact hfollows
            · rw [hnil] at hlast
              cases hlast
          · simpa using ih

omit [DecidableEq Bytes] in
lemma refusals (h : (quickComposer codec).History history s) :
    ∀ e ∈ history, ∀ message, e.answer = some (.error message) →
      e.after.memory = e.before.memory ∧ e.after.disk.stateJson = e.before.disk.stateJson := by
  intro e he message hanswer
  obtain ⟨before, -, hstep⟩ := h.of_mem he
  cases step_kind hstep with
  | unwritten hunwritten => exact ⟨hunwritten.refused message hanswer, hunwritten.stateJson⟩
  | begun saved launch fault haction hstarts hwritten =>
      exact absurd hanswer (hwritten.answered message)
  | moved saved current launch fault haction hcurrent htransition hwritten =>
      exact absurd hanswer (hwritten.answered message)

lemma statesOf_prefix (codec : Codec Bytes) (id : String) (before after : List (Entry Bytes)) :
    statesOf codec id before <+: statesOf codec id (before ++ after) := by
  unfold statesOf
  rw [List.filterMap_append, List.filter_append]
  exact List.prefix_append _ _

lemma not_unreplayed (hcodec : codec.Lawful) (h : (quickComposer codec).History history s)
    (heq : history = before ++ e :: after) {launch : Launch} {fault : Option (Fault Bytes)}
    {saved : Saved} (hrebegins : Rebegins codec before e launch fault saved) :
    ¬Unreplayed (statesOf codec launch.id history) := by
  intro hunreplayed
  subst heq
  obtain ⟨hbefore, hstep⟩ := h.split
  obtain ⟨saved', hrecorded⟩ := recorded hcodec hbefore
  obtain rfl := hrecorded.memory saved hrebegins.memory
  cases step_kind hstep with
  | unwritten _ hnot =>
      exact hnot launch fault saved hrebegins.action hrebegins.memory hrebegins.starts
  | begun saved' launch' fault' haction hstarts hwritten =>
      cases haction.symm.trans hrebegins.action
      obtain rfl := hrecorded.memory saved' hwritten.memory
      have hstates : statesOf codec launch.id (before ++ [e]) =
          statesOf codec launch.id before ++ [launch] := by
        refine (statesOf_written hcodec hwritten hrecorded.opens (begun_new hstarts) _).trans ?_
        rw [if_pos rfl]
      have hprefix := statesOf_prefix codec launch.id (before ++ [e]) after
      rw [hstates, List.append_assoc, List.singleton_append] at hprefix
      have hfollows := List.IsChain.prefix hunreplayed.follows hprefix
      have hchain := List.isChain_append.mp hfollows
      obtain ⟨last, hlast⟩ := Option.isSome_iff_exists.mp
        (List.getLast?_isSome.mpr hrebegins.earlier)
      have hlater := (hchain.2.2 last hlast launch rfl).revision
      rw [(validateLaunch_pending hstarts.valid).2] at hlater
      exact Nat.not_lt_zero _ hlater
  | moved saved' current launch' fault' haction => cases haction.symm.trans hrebegins.action

theorem never_replayed_iff (hcodec : codec.Lawful)
    (h : (quickComposer codec).History history s) :
    NeverReplayed codec history ↔ ∀ before e after, history = before ++ e :: after →
      ∀ launch fault saved, ¬Rebegins codec before e launch fault saved := by
  constructor
  · intro hnever before e after heq launch fault saved hrebegins
    exact not_unreplayed hcodec h heq hrebegins (hnever.launches launch.id)
  · intro hnever
    exact ⟨unreplayed hcodec h hnever, refusals h⟩

def demoCodec : Codec Saved where
  encode saved := saved
  decode saved := some saved
  encodeLaunch launch := { shortcut := none, launch := some launch }
  valueLength _ := 2

lemma demoCodec_lawful : demoCodec.Lawful :=
  ⟨fun _ => rfl⟩

def demoLaunch (id : String) : Launch where
  id := id
  revision := 0
  phase := "pending"
  request := .object [("isolationMode", .string "localDirect"),
    ("turn", .object [("rawPrompt", .string "Fix this")])]
  workspaceId := none
  sessionId := none
  error := none

def demoFailed (id : String) : Launch :=
  { demoLaunch id with revision := 1, phase := "failed", error := some "offline" }

def demoId : String := "aaaaaaaaaaaaaaaaaaaaaaaaaaaaaaaa"
def demoId' : String := "bbbbbbbbbbbbbbbbbbbbbbbbbbbbbbbb"

def demoCalls : List (Event Saved) :=
  [.opens none, .begin (demoLaunch demoId) none, .checkpoint (demoFailed demoId) none,
    .begin (demoLaunch demoId') none, .checkpoint (demoFailed demoId') none]

theorem launch_replayed :
    ∃ history s, (quickComposer demoCodec).History history s ∧ ¬NeverReplayed demoCodec history := by
  refine ⟨_, _, (quickComposer demoCodec).history_record
    (demoCalls ++ [.begin (demoLaunch demoId) none]), fun h => ?_⟩
  have hstates : statesOf demoCodec demoId ((quickComposer demoCodec).record
      (demoCalls ++ [.begin (demoLaunch demoId) none])).1 =
      [demoLaunch demoId, demoFailed demoId, demoLaunch demoId] := by decide +kernel
  have hchain := (h.launches demoId).follows
  rw [hstates, List.isChain_cons_cons, List.isChain_cons_cons] at hchain
  exact Nat.not_lt_zero _ hchain.2.1.revision

theorem never_replayed_demo :
    NeverReplayed demoCodec ((quickComposer demoCodec).record (demoCalls.take 3)).1 ↔
      ∀ before e after, ((quickComposer demoCodec).record (demoCalls.take 3)).1 =
        before ++ e :: after →
        ∀ launch fault saved, ¬Rebegins demoCodec before e launch fault saved :=
  never_replayed_iff demoCodec_lawful ((quickComposer demoCodec).history_record _)

end Runs

end DevCommandCenter.QuickComposer
