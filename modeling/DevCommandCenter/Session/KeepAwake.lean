import DevCommandCenter.Library.Table
import DevCommandCenter.Library.Transition
import Mathlib.Data.Int.Notation

/-! Keeping the computer awake while turns run: the turns in flight, the reason to hold, and the one
assertion that is held. Instants are in nanoseconds; a limit ends at an instant of the calendar. -/

namespace DevCommandCenter.KeepAwake

open Library

def nanosPerSec : ℕ := 1000000000

def handOffGrace : ℕ := 120 * nanosPerSec

def reconcileMinAge : ℕ := 20 * nanosPerSec

def endedMemory : ℕ := 120 * nanosPerSec

inductive KeepAwakeMode
  | off
  | always
  | duringAgents
  deriving DecidableEq

inductive HoldReason
  | appOpen
  | agentsWorking (count : ℕ)
  | agentJustFinished
  | waitingForLimit (limit : ℤ)
  deriving DecidableEq

structure TrackedTurn where
  turnId : String
  since : ℕ
  deriving DecidableEq

structure ActiveTurns where
  turns : Table String TrackedTurn
  ended : Table (String × String) ℕ
  lastEnded : Option ℕ

namespace ActiveTurns

def new : ActiveTurns where
  turns := ∅
  ended := ∅
  lastEnded := none

def turnStarted (active : ActiveTurns) (sessionId turnId : String) (now : ℕ) : ActiveTurns :=
  { active with turns := active.turns.insert sessionId { turnId := turnId, since := now } }

def turnEnded (active : ActiveTurns) (sessionId turnId : String) (now : ℕ) : ActiveTurns :=
  let active := { active with ended := active.ended.insert (sessionId, turnId) now }
  if (active.turns.lookup sessionId).any fun turn => decide (turn.turnId = turnId) then
    { active with turns := active.turns.erase sessionId, lastEnded := some now }
  else active

def sessionClosed (active : ActiveTurns) (sessionId : String) (now : ℕ) : ActiveTurns :=
  match active.turns.lookup sessionId with
  | some turn =>
      { turns := active.turns.erase sessionId
        ended := active.ended.insert (sessionId, turn.turnId) now
        lastEnded := some now }
  | none => active

def keeps (truth : List (String × String)) (now : ℕ) (sessionId : String) (turn : TrackedTurn) : Bool :=
  truth.any (fun entry => decide (entry.1 = sessionId) && decide (entry.2 = turn.turnId)) ||
    decide (now - turn.since < reconcileMinAge)

def dropLost (active : ActiveTurns) (truth : List (String × String)) (now : ℕ) : ActiveTurns where
  turns := Table.retain (keeps truth now) active.turns
  ended := Table.retain (fun _ instant => decide (now - instant < endedMemory)) active.ended
  lastEnded :=
    if active.turns.entries.any fun entry => !keeps truth now entry.1 entry.2 then some now
    else active.lastEnded

def takeUp (now : ℕ) (active : ActiveTurns) (entry : String × String) : ActiveTurns :=
  let known := (active.turns.lookup entry.1).any fun turn => decide (turn.turnId = entry.2)
  if known || (active.ended.lookup entry).isSome then active
  else active.turnStarted entry.1 entry.2 now

def reconcile (active : ActiveTurns) (truth : List (String × String)) (now : ℕ) : ActiveTurns :=
  truth.foldl (takeUp now) (active.dropLost truth now)

def count (active : ActiveTurns) : ℕ :=
  Table.size active.turns

def endedWithin (active : ActiveTurns) (grace now : ℕ) : Bool :=
  active.lastEnded.any fun instant => decide (now - instant < grace)

def handOffEnds (active : ActiveTurns) (grace : ℕ) : Option ℕ :=
  if active.turns.entries.isEmpty then active.lastEnded.map (· + grace) else none

end ActiveTurns

def decideHold (mode : KeepAwakeMode) (active : ActiveTurns) (limitUntil : Option ℤ) (grace now : ℕ) :
    Option HoldReason :=
  match mode with
  | .off => none
  | .always => some .appOpen
  | .duringAgents =>
      match active.count, limitUntil with
      | 0, some limit => some (.waitingForLimit limit)
      | 0, none => if active.endedWithin grace now then some .agentJustFinished else none
      | count, _ => some (.agentsWorking count)

structure Inner where
  mode : KeepAwakeMode
  turns : ActiveTurns
  limitUntil : Option ℤ
  held : Option (ℕ × HoldReason)

inductive PowerCall
  | acquire (id : ℕ)
  | release (id : ℕ)
  deriving DecidableEq

inductive KeepAwakeCall
  | setMode (mode : KeepAwakeMode)
  | turnStarted (sessionId turnId : String)
  | turnEnded (sessionId turnId : String)
  | sessionClosed (sessionId : String)
  | reconcile (truth : List (String × String))
  | setLimitWaits (waits : List ℤ)
  | tick

/-- A call, the instant it read, and what the system answers if it is asked for an assertion. -/
structure Update where
  call : KeepAwakeCall
  now : ℕ
  answer : Option ℕ

namespace Inner

def change (inner : Inner) (now : ℕ) : KeepAwakeCall → Inner
  | .setMode mode => { inner with mode := mode }
  | .turnStarted sessionId turnId =>
      { inner with turns := inner.turns.turnStarted sessionId turnId now }
  | .turnEnded sessionId turnId => { inner with turns := inner.turns.turnEnded sessionId turnId now }
  | .sessionClosed sessionId => { inner with turns := inner.turns.sessionClosed sessionId now }
  | .reconcile truth => { inner with turns := inner.turns.reconcile truth now }
  | .setLimitWaits waits => { inner with limitUntil := waits.min? }
  | .tick => inner

def wanted (supported : Bool) (grace : ℕ) (inner : Inner) (now : ℕ) : Option HoldReason :=
  if supported then decideHold inner.mode inner.turns inner.limitUntil grace now else none

def releaseHeld (inner : Inner) : List PowerCall :=
  (inner.held.map fun held => PowerCall.release held.1).toList

/-- A new assertion is taken before the old one is let go; where none is given the old one stays. -/
def settle (supported : Bool) (grace : ℕ) (inner : Inner) (now : ℕ) (answer : Option ℕ) :
    List PowerCall × Inner :=
  let wanted := inner.wanted supported grace now
  if wanted = inner.held.map Prod.snd then ([], inner)
  else
    match wanted with
    | some reason =>
        match answer with
        | some id => (.acquire id :: inner.releaseHeld, { inner with held := some (id, reason) })
        | none => ([], inner)
    | none => (inner.releaseHeld, { inner with held := none })

def update (supported : Bool) (grace : ℕ) (inner : Inner) (update : Update) : List PowerCall × Inner :=
  (inner.change update.now update.call).settle supported grace update.now update.answer

def handOffDeadline (grace : ℕ) (inner : Inner) : Option ℕ :=
  match inner.held with
  | some (_, .agentJustFinished) => inner.turns.handOffEnds grace
  | _ => none

def new (mode : KeepAwakeMode) : Inner where
  mode := mode
  turns := .new
  limitUntil := none
  held := none

end Inner

def PowerCall.perform (assertions : List ℕ) : PowerCall → List ℕ
  | .acquire id => assertions ++ [id]
  | .release id => assertions.erase id

structure Keeper where
  inner : Inner
  assertions : List ℕ

/-- The system gives no id to two assertions that are both held. -/
def keepingAwake (supported : Bool) (grace : ℕ) (mode : KeepAwakeMode) :
    System Keeper Update (List PowerCall) where
  start := { inner := .new mode, assertions := [] }
  step keeper update :=
    if update.answer.any fun id => decide (id ∈ keeper.assertions) then none
    else
      let (calls, inner) := keeper.inner.update supported grace update
      some (calls, { inner := inner, assertions := calls.foldl PowerCall.perform keeper.assertions })

namespace ActiveTurns

variable {active : ActiveTurns} {sessionId turnId session turn : String} {now : ℕ}
  {truth : List (String × String)}

def Tracks (active : ActiveTurns) (sessionId turnId : String) : Prop :=
  ∃ tracked, active.turns.lookup sessionId = some tracked ∧ tracked.turnId = turnId

lemma lookup_turnStarted : (active.turnStarted session turn now).turns.lookup sessionId =
    if sessionId = session then some { turnId := turn, since := now }
    else active.turns.lookup sessionId :=
  Table.lookup_insert_eq

lemma tracks_turnStarted : (active.turnStarted session turn now).Tracks sessionId turnId ↔
    if sessionId = session then turn = turnId else active.Tracks sessionId turnId := by
  simp only [Tracks, lookup_turnStarted]
  split <;> simp

lemma any_turnId : ((active.turns.lookup sessionId).any fun tracked => decide (tracked.turnId = turnId)) =
    true ↔ active.Tracks sessionId turnId := by
  simp [Tracks, Option.any_eq_true]

lemma tracks_turnEnded : (active.turnEnded session turn now).Tracks sessionId turnId ↔
    active.Tracks sessionId turnId ∧ (sessionId, turnId) ≠ (session, turn) := by
  simp only [turnEnded]
  split
  · next hcurrent =>
      obtain ⟨current, hlookup, hturn⟩ := any_turnId.mp hcurrent
      simp only [Tracks, Table.lookup_erase_eq]
      by_cases hsession : sessionId = session
      · subst hsession
        simp only [if_pos, hlookup]
        constructor
        · rintro ⟨_, hnone, -⟩
          cases hnone
        · rintro ⟨⟨tracked, heq, hid⟩, hne⟩
          cases heq
          exact absurd (by rw [← hid, hturn]) hne
      · simp [hsession]
  · next hother =>
      refine ⟨fun htracks => ⟨htracks, ?_⟩, fun htracks => htracks.1⟩
      rintro ⟨⟩
      exact hother (any_turnId.mpr htracks)

lemma tracks_sessionClosed : (active.sessionClosed session now).Tracks sessionId turnId ↔
    active.Tracks sessionId turnId ∧ sessionId ≠ session := by
  simp only [sessionClosed]
  cases hlookup : active.turns.lookup session with
  | some current =>
      simp only [Tracks, Table.lookup_erase_eq]
      split <;> simp_all
  | none =>
      refine ⟨fun htracks => ⟨htracks, ?_⟩, fun htracks => htracks.1⟩
      rintro rfl
      obtain ⟨tracked, heq, -⟩ := htracks
      rw [hlookup] at heq
      cases heq

lemma lookup_dropLost : (active.dropLost truth now).turns.lookup sessionId =
    (active.turns.lookup sessionId).filter (keeps truth now sessionId) :=
  Table.lookup_retain

lemma ended_takeUp (entry : String × String) : (takeUp now active entry).ended = active.ended := by
  simp only [takeUp]
  split <;> rfl

lemma lastEnded_takeUp (entry : String × String) :
    (takeUp now active entry).lastEnded = active.lastEnded := by
  simp only [takeUp]
  split <;> rfl

lemma ended_takeUps : (truth.foldl (takeUp now) active).ended = active.ended := by
  induction truth generalizing active with
  | nil => rfl
  | cons entry truth ih => rw [List.foldl_cons, ih, ended_takeUp]

lemma lastEnded_takeUps : (truth.foldl (takeUp now) active).lastEnded = active.lastEnded := by
  induction truth generalizing active with
  | nil => rfl
  | cons entry truth ih => rw [List.foldl_cons, ih, lastEnded_takeUp]

lemma tracks_takeUp {entry : String × String} : (takeUp now active entry).Tracks sessionId turnId ↔
    if entry.1 = sessionId ∧ active.ended.lookup entry = none then entry.2 = turnId
    else active.Tracks sessionId turnId := by
  obtain ⟨session, turn⟩ := entry
  simp only [takeUp]
  split
  · next hkept =>
      rw [Bool.or_eq_true, any_turnId] at hkept
      split
      · next hnew =>
          obtain ⟨rfl, hnone⟩ := hnew
          simp only [hnone, Option.isSome_none, Bool.false_eq_true, or_false] at hkept
          obtain ⟨current, hlookup, rfl⟩ := hkept
          simp [Tracks, hlookup]
      · exact Iff.rfl
  · next hnew =>
      rw [Bool.not_eq_true, Bool.or_eq_false_iff] at hnew
      have hnone : active.ended.lookup (session, turn) = none := by simpa using hnew.2
      rw [tracks_turnStarted]
      simp only [hnone, and_true, eq_comm]

/-- Where the bindings name a session they name one turn of it. -/
def Agrees (truth : List (String × String)) (sessionId turnId : String) : Prop :=
  ∀ entry ∈ truth, entry.1 = sessionId → entry.2 = turnId

lemma tracks_takeUps (hagrees : Agrees truth sessionId turnId) (htracks : active.Tracks sessionId turnId) :
    (truth.foldl (takeUp now) active).Tracks sessionId turnId := by
  induction truth generalizing active with
  | nil => exact htracks
  | cons entry truth ih =>
      rw [List.foldl_cons]
      refine ih (fun other hother => hagrees other (List.mem_cons_of_mem _ hother)) ?_
      rw [tracks_takeUp]
      split
      · next hnew => exact hagrees entry List.mem_cons_self hnew.1
      · exact htracks

lemma tracks_takeUps_of_mem (hagrees : Agrees truth sessionId turnId)
    (hmem : (sessionId, turnId) ∈ truth) (hended : active.ended.lookup (sessionId, turnId) = none) :
    (truth.foldl (takeUp now) active).Tracks sessionId turnId := by
  induction truth generalizing active with
  | nil => cases hmem
  | cons entry truth ih =>
      rw [List.foldl_cons]
      have hrest : Agrees truth sessionId turnId :=
        fun other hother => hagrees other (List.mem_cons_of_mem _ hother)
      rcases List.mem_cons.mp hmem with rfl | hmem
      · refine tracks_takeUps hrest ?_
        rw [tracks_takeUp, if_pos ⟨rfl, hended⟩]
      · refine ih hrest hmem ?_
        rwa [ended_takeUp]

lemma not_tracks_takeUps (hended : active.ended.lookup (sessionId, turnId) ≠ none)
    (hnot : ¬active.Tracks sessionId turnId) :
    ¬(truth.foldl (takeUp now) active).Tracks sessionId turnId := by
  induction truth generalizing active with
  | nil => exact hnot
  | cons entry truth ih =>
      rw [List.foldl_cons]
      refine ih (by rwa [ended_takeUp]) ?_
      rw [tracks_takeUp]
      split
      · next hnew =>
          obtain ⟨rfl, hnone⟩ := hnew
          rintro rfl
          exact hended hnone
      · exact hnot

lemma tracks_dropLost (hmem : (sessionId, turnId) ∈ truth) (htracks : active.Tracks sessionId turnId) :
    (active.dropLost truth now).Tracks sessionId turnId := by
  obtain ⟨tracked, hlookup, rfl⟩ := htracks
  refine ⟨tracked, ?_, rfl⟩
  rw [lookup_dropLost, hlookup, Option.filter_eq_some_iff]
  refine ⟨rfl, ?_⟩
  have halive : truth.any (fun entry => decide (entry.1 = sessionId) &&
      decide (entry.2 = tracked.turnId)) = true :=
    List.any_eq_true.mpr ⟨_, hmem, by simp⟩
  simp [keeps, halive]

lemma not_tracks_dropLost (hnot : ¬active.Tracks sessionId turnId) :
    ¬(active.dropLost truth now).Tracks sessionId turnId := by
  rintro ⟨tracked, hlookup, hid⟩
  rw [lookup_dropLost, Option.filter_eq_some_iff] at hlookup
  exact hnot ⟨tracked, hlookup.1, hid⟩

lemma lookup_ended_dropLost (entry : String × String) : (active.dropLost truth now).ended.lookup entry =
    (active.ended.lookup entry).filter fun instant => decide (now - instant < endedMemory) :=
  Table.lookup_retain

lemma tracks_reconcile (hagrees : Agrees truth sessionId turnId) (hmem : (sessionId, turnId) ∈ truth)
    (htracks : active.Tracks sessionId turnId) : (active.reconcile truth now).Tracks sessionId turnId :=
  tracks_takeUps hagrees (tracks_dropLost hmem htracks)

lemma count_ne_zero (h : active.Tracks sessionId turnId) : active.count ≠ 0 := by
  obtain ⟨tracked, hlookup, -⟩ := h
  intro hzero
  have hmem := AList.mem_keys.mp (Table.mem_of_lookup hlookup)
  rw [count, Table.size, List.length_eq_zero_iff] at hzero
  rw [hzero] at hmem
  exact List.not_mem_nil hmem

end ActiveTurns

section Assertions

variable {supported : Bool} {grace : ℕ} {mode : KeepAwakeMode} {s t : Keeper} {update : Update}
  {calls : List PowerCall}

def Keeper.Single (keeper : Keeper) : Prop :=
  keeper.assertions = (keeper.inner.held.map Prod.fst).toList

lemma Inner.held_change (inner : Inner) (now : ℕ) (call : KeepAwakeCall) :
    (inner.change now call).held = inner.held := by
  cases call <;> rfl

inductive Settled (inner : Inner) (wanted : Option HoldReason) (answer : Option ℕ) :
    List PowerCall → Option (ℕ × HoldReason) → Prop
  | kept (hkept : wanted = inner.held.map Prod.snd ∨ wanted.isSome ∧ answer = none) :
      Settled inner wanted answer [] inner.held
  | acquired {id : ℕ} {reason : HoldReason} (hanswer : answer = some id) (hwanted : wanted = some reason) :
      Settled inner wanted answer (.acquire id :: inner.releaseHeld) (some (id, reason))
  | released (hwanted : wanted = none) : Settled inner wanted answer inner.releaseHeld none

lemma Inner.settle_settled (inner : Inner) (now : ℕ) (answer : Option ℕ) :
    Settled inner (inner.wanted supported grace now) answer (inner.settle supported grace now answer).1
      (inner.settle supported grace now answer).2.held := by
  simp only [settle]
  split
  · next hsame => exact .kept (.inl hsame)
  · next hdiffers =>
      cases hwanted : inner.wanted supported grace now with
      | none => exact .released rfl
      | some reason =>
          cases answer with
          | some id => exact .acquired rfl rfl
          | none => exact .kept (.inr ⟨rfl, rfl⟩)

lemma Inner.settle_rest (inner : Inner) (now : ℕ) (answer : Option ℕ) :
    (inner.settle supported grace now answer).2 =
      { inner with held := (inner.settle supported grace now answer).2.held } := by
  simp only [settle]
  split
  · rfl
  · split
    · split <;> rfl
    · rfl

section Step

variable (h : (keepingAwake supported grace mode).step s update = some (calls, t))
include h

lemma keepingAwake_step :
    (∀ id ∈ update.answer, id ∉ s.assertions) ∧
      calls = (s.inner.update supported grace update).1 ∧
      t.inner = (s.inner.update supported grace update).2 ∧
      t.assertions = calls.foldl PowerCall.perform s.assertions := by
  simp only [keepingAwake] at h
  split at h
  · cases h
  · next hfresh =>
      cases h
      refine ⟨fun id hid hmem => hfresh ?_, rfl, rfl, rfl⟩
      rw [hid]
      exact decide_eq_true hmem

lemma Settled.of_step :
    Settled (s.inner.change update.now update.call)
      ((s.inner.change update.now update.call).wanted supported grace update.now) update.answer calls
      t.inner.held := by
  obtain ⟨-, rfl, hinner, -⟩ := keepingAwake_step h
  rw [hinner]
  exact (s.inner.change update.now update.call).settle_settled update.now update.answer

lemma inner_of_step :
    t.inner = { s.inner.change update.now update.call with held := t.inner.held } := by
  obtain ⟨-, -, hinner, -⟩ := keepingAwake_step h
  rw [hinner]
  exact (s.inner.change update.now update.call).settle_rest update.now update.answer

lemma wanted_of_step :
    (s.inner.change update.now update.call).wanted supported grace update.now =
      t.inner.wanted supported grace update.now := by
  rw [inner_of_step h]
  rfl

lemma released_of_step
    (hnone : (s.inner.change update.now update.call).wanted supported grace update.now = none) :
    t.inner.held = none := by
  have hsettled := Settled.of_step h
  rw [hnone] at hsettled
  generalize t.inner.held = after at hsettled
  cases hsettled with
  | kept hkept =>
      rcases hkept with hsame | ⟨hsome, -⟩
      · exact Option.map_eq_none_iff.mp hsame.symm
      · cases hsome
  | acquired _ hwanted => cases hwanted
  | released _ => rfl

lemma Keeper.Single.step (hsingle : s.Single) : t.Single := by
  have hsettled := Settled.of_step h
  obtain ⟨hfresh, -, -, hassertions⟩ := keepingAwake_step h
  have hheld := s.inner.held_change update.now update.call
  rw [Keeper.Single, hassertions, hsingle]
  generalize t.inner.held = after at hsettled
  cases hsettled with
  | kept _ => rw [hheld, List.foldl_nil]
  | released _ | acquired _ _ =>
      rw [Inner.releaseHeld, hheld]
      cases s.inner.held <;> simp [PowerCall.perform]

lemma Keeper.Single.covered (hsingle : s.Single)
    (hbefore : s.inner.held.isSome = true) (hafter : t.inner.held.isSome = true) (n : ℕ) :
    (calls.take n).foldl PowerCall.perform s.assertions ≠ [] := by
  have hsettled := Settled.of_step h
  have hheld := s.inner.held_change update.now update.call
  obtain ⟨held, hsome⟩ := Option.isSome_iff_exists.mp hbefore
  rw [hsome] at hheld
  have hassertions : s.assertions = [held.1] := by rw [hsingle, hsome]; rfl
  rw [hassertions]
  generalize t.inner.held = after at hsettled hafter
  cases hsettled with
  | kept _ => simp
  | released _ => cases hafter
  | acquired hanswer _ =>
      rw [Inner.releaseHeld, hheld]
      rcases n with _ | _ | n <;> simp [PowerCall.perform]

end Step

lemma single_of_reachable (h : (keepingAwake supported grace mode).Reachable s) : s.Single := by
  refine h.invariant ?_ ?_
  · rfl
  · intro s update calls t hsingle hstep
    exact hsingle.step hstep

structure Held (supported : Bool) (grace : ℕ) (s : Keeper) (update : Update) (calls : List PowerCall)
    (t : Keeper) : Prop where
  single : t.assertions = (t.inner.held.map Prod.fst).toList
  reason : t.inner.held.map Prod.snd = t.inner.wanted supported grace update.now ∨
    update.answer = none ∧ t.inner.held = s.inner.held
  covered : s.inner.held.isSome = true → t.inner.held.isSome = true → ∀ n,
    (calls.take n).foldl PowerCall.perform s.assertions ≠ []

theorem one_assertion (hs : (keepingAwake supported grace mode).Reachable s)
    (h : (keepingAwake supported grace mode).step s update = some (calls, t)) :
    Held supported grace s update calls t where
  single := (single_of_reachable hs).step h
  reason := by
    have hsettled := Settled.of_step h
    have hheld := s.inner.held_change update.now update.call
    rw [wanted_of_step h] at hsettled
    generalize hafter : t.inner.held = after at hsettled
    cases hsettled with
    | kept hkept =>
        rcases hkept with hsame | ⟨-, hanswer⟩
        · exact .inl hsame.symm
        · exact .inr ⟨hanswer, hheld⟩
    | acquired _ hwanted => exact .inl hwanted.symm
    | released hwanted => exact .inl hwanted.symm
  covered := (single_of_reachable hs).covered h

end Assertions

def demoKeepingAwake : System Keeper Update (List PowerCall) :=
  keepingAwake true handOffGrace .duringAgents

def demoWorking : Keeper :=
  demoKeepingAwake.exec demoKeepingAwake.start
    [{ call := .turnStarted "a" "a1", now := 0, answer := some 1 }]

def demoSecondTurn : Update where
  call := .turnStarted "b" "b1"
  now := nanosPerSec
  answer := some 2

theorem second_turn_covered :
    (demoKeepingAwake.exec demoWorking [demoSecondTurn]).assertions = [2] ∧
      Held true handOffGrace demoWorking demoSecondTurn [.acquire 2, .release 1]
        (demoKeepingAwake.exec demoWorking [demoSecondTurn]) :=
  ⟨by decide, one_assertion (System.Reachable.start.exec _) rfl⟩

section HandOff

variable {supported : Bool} {grace id : ℕ} {mode : KeepAwakeMode} {s t : Keeper} {update : Update}
  {calls : List PowerCall}

lemma lastEnded_change (inner : Inner) (now : ℕ) (call : KeepAwakeCall)
    (h : inner.turns.lastEnded.isSome = true) :
    (inner.change now call).turns.lastEnded.isSome = true := by
  cases call with
  | turnEnded | sessionClosed | reconcile =>
      simp only [Inner.change, ActiveTurns.turnEnded, ActiveTurns.sessionClosed,
        ActiveTurns.reconcile, ActiveTurns.lastEnded_takeUps, ActiveTurns.dropLost]
      split
      · rfl
      · exact h
  | _ => exact h

lemma lastEnded_of_wanted {inner : Inner} {now : ℕ}
    (h : inner.wanted supported grace now = some .agentJustFinished) :
    supported = true ∧ inner.turns.lastEnded.isSome = true := by
  simp only [Inner.wanted] at h
  split at h
  · next hsupported =>
      refine ⟨hsupported, ?_⟩
      cases hmode : inner.mode <;> simp only [hmode, decideHold, reduceCtorEq, Option.some.injEq] at h
      split at h
      · cases h
      · split at h
        · next hwithin =>
            cases hlast : inner.turns.lastEnded with
            | none => simp [ActiveTurns.endedWithin, hlast] at hwithin
            | some ended => rfl
        · cases h
      · cases h
  · cases h

def Keeper.Ended (supported : Bool) (keeper : Keeper) : Prop :=
  ∀ id, keeper.inner.held = some (id, .agentJustFinished) →
    supported = true ∧ keeper.inner.turns.lastEnded.isSome = true

lemma ended_of_reachable (hs : (keepingAwake supported grace mode).Reachable s) :
    s.Ended supported := by
  refine hs.invariant ?_ ?_
  · rintro id ⟨⟩
  · intro s update calls t hs hstep id hheld
    have hsettled := Settled.of_step hstep
    have hbefore := s.inner.held_change update.now update.call
    have hturns : t.inner.turns = (s.inner.change update.now update.call).turns := by
      rw [inner_of_step hstep]
    rw [hheld] at hsettled
    rw [hturns]
    generalize hcalls : calls = made at hsettled
    generalize hafter : some (id, HoldReason.agentJustFinished) = after at hsettled
    cases hsettled with
    | kept _ =>
        rw [hbefore] at hafter
        obtain ⟨hsupported, hlast⟩ := hs id hafter.symm
        exact ⟨hsupported, lastEnded_change _ _ _ hlast⟩
    | acquired _ hwanted =>
        cases hafter
        exact lastEnded_of_wanted hwanted
    | released _ => cases hafter

/-- The deadline at which the controller wakes is the first instant at which a look lets go. -/
theorem let_go_at_deadline (hgrace : 0 < grace) (hs : (keepingAwake supported grace mode).Reachable s)
    (hheld : s.inner.held = some (id, .agentJustFinished)) (hmode : s.inner.mode = .duringAgents)
    (hlimit : s.inner.limitUntil = none) (hidle : s.inner.turns.turns.entries = []) :
    ∃ deadline, s.inner.handOffDeadline grace = some deadline ∧ ∀ update calls t,
      update.call = .tick → (keepingAwake supported grace mode).step s update = some (calls, t) →
        (t.assertions = [] ↔ deadline ≤ update.now) := by
  obtain ⟨rfl, hlast⟩ := ended_of_reachable hs id hheld
  obtain ⟨ended, hended⟩ := Option.isSome_iff_exists.mp hlast
  refine ⟨ended + grace, ?_, ?_⟩
  · simp [Inner.handOffDeadline, hheld, ActiveTurns.handOffEnds, hidle, hended]
  · intro update calls t hcall hstep
    have hcount : s.inner.turns.count = 0 := by
      simp [ActiveTurns.count, Table.size, AList.keys, hidle]
    have hwanted : (s.inner.change update.now update.call).wanted true grace update.now =
        if update.now - ended < grace then some .agentJustFinished else none := by
      simp [hcall, Inner.change, Inner.wanted, hmode, decideHold, hcount, hlimit,
        ActiveTurns.endedWithin, hended]
    have hbefore := s.inner.held_change update.now update.call
    rw [hheld] at hbefore
    rw [(one_assertion hs hstep).single]
    by_cases hsoon : update.now - ended < grace
    · have hsettled := Settled.of_step hstep
      rw [hwanted, if_pos hsoon] at hsettled
      have hafter : t.inner.held.isSome = true := by
        generalize t.inner.held = after at hsettled
        cases hsettled with
        | kept _ => rw [hbefore]; rfl
        | acquired _ _ => rfl
        | released hnone => cases hnone
      obtain ⟨held, hsome⟩ := Option.isSome_iff_exists.mp hafter
      rw [hsome]
      simp only [Option.map_some, Option.toList_some, List.cons_ne_nil, false_iff]
      omega
    · rw [if_neg hsoon] at hwanted
      rw [released_of_step hstep hwanted]
      simp only [Option.map_none, Option.toList_none, true_iff]
      omega

end HandOff

def demoHandOff : Keeper :=
  demoKeepingAwake.exec demoWorking
    [{ call := .turnEnded "a" "a1", now := nanosPerSec, answer := some 2 }]

theorem let_go_at_deadline_demo : ∃ deadline, demoHandOff.inner.handOffDeadline handOffGrace = some deadline ∧
    ∀ update calls t, update.call = .tick → demoKeepingAwake.step demoHandOff update = some (calls, t) →
      (t.assertions = [] ↔ deadline ≤ update.now) :=
  let_go_at_deadline (by decide) ((System.Reachable.start.exec _).exec _) rfl rfl rfl rfl

section LostEnd

variable {supported : Bool} {grace latest now : ℕ} {mode : KeepAwakeMode} {inner : Inner}
  {call : KeepAwakeCall}

def KeepAwakeCall.Quiet : KeepAwakeCall → Prop
  | .setMode mode => mode ≠ .always
  | .turnStarted .. => False
  | .reconcile truth => truth = []
  | .setLimitWaits waits => waits = []
  | _ => True

structure Idle (latest : ℕ) (inner : Inner) : Prop where
  turns : inner.turns.turns.entries = []
  ended : ∀ instant ∈ inner.turns.lastEnded, instant ≤ latest
  mode : inner.mode ≠ .always
  limit : inner.limitUntil = none

lemma Idle.lookup (h : Idle latest inner) (sessionId : String) :
    inner.turns.turns.lookup sessionId = none :=
  Table.lookup_eq_none_of_isEmpty (by rw [h.turns]; rfl) sessionId

lemma Idle.change (h : Idle latest inner) (hquiet : call.Quiet) : Idle latest (inner.change now call) := by
  cases call with
  | setMode mode => exact { h with mode := hquiet }
  | turnStarted sessionId turnId => exact hquiet.elim
  | turnEnded sessionId turnId =>
      have hnone := h.lookup sessionId
      have hturns : inner.turns.turnEnded sessionId turnId now =
          { inner.turns with ended := inner.turns.ended.insert (sessionId, turnId) now } := by
        simp [ActiveTurns.turnEnded, hnone]
      exact { h with
        turns := by simp only [Inner.change, hturns, h.turns]
        ended := by simpa only [Inner.change, hturns] using h.ended }
  | sessionClosed sessionId =>
      have hnone := h.lookup sessionId
      have hturns : inner.turns.sessionClosed sessionId now = inner.turns := by
        simp [ActiveTurns.sessionClosed, hnone]
      simpa only [Inner.change, hturns] using h
  | reconcile truth =>
      obtain rfl : truth = [] := hquiet
      refine ⟨?_, ?_, h.mode, h.limit⟩
      · simp [Inner.change, ActiveTurns.reconcile, ActiveTurns.dropLost, Table.retain, h.turns]
      · simpa [Inner.change, ActiveTurns.reconcile, ActiveTurns.dropLost, h.turns] using h.ended
  | setLimitWaits waits =>
      obtain rfl : waits = [] := hquiet
      exact { h with limit := rfl }
  | tick => exact h

lemma Idle.wanted (h : Idle latest inner) (hlate : latest + grace ≤ now) :
    inner.wanted supported grace now = none := by
  have hcount : inner.turns.count = 0 := by
    simp [ActiveTurns.count, Table.size, AList.keys, h.turns]
  have hended : inner.turns.endedWithin grace now = false := by
    rw [ActiveTurns.endedWithin, Option.any_eq_false]
    intro instant hinstant
    have hle := h.ended instant hinstant
    simp only [decide_eq_false_iff_not]
    omega
  have hmode := h.mode
  simp only [Inner.wanted, h.limit]
  split
  · cases hinner : inner.mode with
    | off => rfl
    | always => exact absurd hinner hmode
    | duringAgents => simp [decideHold, hcount, hended]
  · rfl

lemma idle_of_reconcile (hmode : inner.mode ≠ .always) (hlimit : inner.limitUntil = none)
    (hold : ∀ sessionId tracked, inner.turns.turns.lookup sessionId = some tracked →
      tracked.since + reconcileMinAge ≤ now)
    (hended : ∀ instant ∈ inner.turns.lastEnded, instant ≤ now) :
    Idle now (inner.change now (.reconcile [])) where
  turns := by
    simp only [Inner.change, ActiveTurns.reconcile, List.foldl_nil, ActiveTurns.dropLost, Table.retain]
    rw [List.filter_eq_nil_iff]
    rintro ⟨sessionId, tracked⟩ hentry
    have hle := hold sessionId tracked (AList.mem_lookup_iff.mpr hentry)
    simp only [ActiveTurns.keeps, List.any_nil, Bool.false_or, decide_eq_true_eq]
    omega
  ended := by
    simp only [Inner.change, ActiveTurns.reconcile, List.foldl_nil, ActiveTurns.dropLost]
    split
    · rintro instant ⟨⟩
      exact Nat.le_refl _
    · exact hended
  mode := hmode
  limit := hlimit

/-- A turn whose end was never told does not keep the computer awake: from the first reconcile that
finds the bindings empty, the hold lasts no longer than the hand-off. -/
theorem lost_end_lets_go {s s' t t' : Keeper} {latest : ℕ} {answer : Option ℕ} {update : Update}
    {calls calls' : List PowerCall} {l : List (Update × List PowerCall)}
    (hs : (keepingAwake supported grace mode).Reachable s)
    (hmode : s.inner.mode ≠ .always) (hlimit : s.inner.limitUntil = none)
    (hold : ∀ sessionId tracked, s.inner.turns.turns.lookup sessionId = some tracked →
      tracked.since + reconcileMinAge ≤ latest)
    (hended : ∀ instant ∈ s.inner.turns.lastEnded, instant ≤ latest)
    (hreconcile : (keepingAwake supported grace mode).step s
      { call := .reconcile [], now := latest, answer := answer } = some (calls, s'))
    (hrun : (keepingAwake supported grace mode).Run s' l t) (hquiet : ∀ e ∈ l, e.1.call.Quiet)
    (hlast : (keepingAwake supported grace mode).step t update = some (calls', t'))
    (hcall : update.call.Quiet) (hlate : latest + grace ≤ update.now) :
    t'.inner.held = none ∧ t'.assertions = [] := by
  have hreached : (keepingAwake supported grace mode).Reachable t := hrun.reachable (hs.step hreconcile)
  have hidle' : Idle latest s'.inner := by
    rw [inner_of_step hreconcile]
    exact { idle_of_reconcile hmode hlimit hold hended with }
  have hidle : Idle latest t.inner := by
    refine hrun.keeps (I := fun keeper => Idle latest keeper.inner) (Q := fun update => update.call.Quiet)
      ?_ hidle' hquiet
    intro s update calls t hs hupdate hstep
    rw [inner_of_step hstep]
    exact { hs.change hupdate with }
  have hnone := released_of_step hlast ((hidle.change hcall).wanted hlate)
  refine ⟨hnone, ?_⟩
  rw [(one_assertion hreached hlast).single, hnone]
  rfl

end LostEnd

def demoReconcile : Update where
  call := .reconcile []
  now := 30 * nanosPerSec
  answer := some 2

def demoTick (now : ℕ) : Update where
  call := .tick
  now := now
  answer := none

theorem lost_end_lets_go_demo :
    (demoKeepingAwake.exec demoWorking [demoReconcile, demoTick (100 * nanosPerSec)]).assertions = [2] ∧
    (demoKeepingAwake.exec demoWorking [demoReconcile, demoTick (100 * nanosPerSec),
      demoTick (150 * nanosPerSec)]).assertions = [] := by
  have hreconcile : demoKeepingAwake.step demoWorking demoReconcile =
      some ([.acquire 2, .release 1], demoKeepingAwake.exec demoWorking [demoReconcile]) := rfl
  have hlast : demoKeepingAwake.step (demoKeepingAwake.exec demoWorking
      [demoReconcile, demoTick (100 * nanosPerSec)]) (demoTick (150 * nanosPerSec)) =
        some ([.release 2], demoKeepingAwake.exec demoWorking
          [demoReconcile, demoTick (100 * nanosPerSec), demoTick (150 * nanosPerSec)]) := rfl
  have hold : ∀ sessionId tracked, demoWorking.inner.turns.turns.lookup sessionId = some tracked →
      tracked.since + reconcileMinAge ≤ demoReconcile.now := by
    intro sessionId tracked hlookup
    have hturns : demoWorking.inner.turns = ActiveTurns.new.turnStarted "a" "a1" 0 := rfl
    rw [hturns, ActiveTurns.lookup_turnStarted] at hlookup
    split at hlookup
    · cases hlookup
      decide
    · cases hlookup
  have hquiet : ∀ e ∈ [(demoTick (100 * nanosPerSec), ([] : List PowerCall))], e.1.call.Quiet := by
    intro e he
    rw [List.mem_singleton.mp he]
    trivial
  have hlets := lost_end_lets_go (System.Reachable.start.exec _) (by decide) rfl hold
    (by rintro instant ⟨⟩) hreconcile (System.run_perform _ _ [demoTick (100 * nanosPerSec)]) hquiet
    hlast trivial (by decide)
  exact ⟨by decide, hlets.2⟩

section RunningTurn

variable {grace now : ℕ} {mode : KeepAwakeMode} {sessionId turnId : String} {inner : Inner}
  {call : KeepAwakeCall}

/-- A call under which the turn goes on: the bindings know it, and only other turns end. -/
def KeepAwakeCall.Continues (sessionId turnId : String) : KeepAwakeCall → Prop
  | .setMode mode => mode = .duringAgents
  | .turnStarted session turn => session = sessionId → turn = turnId
  | .turnEnded session turn => (session, turn) ≠ (sessionId, turnId)
  | .sessionClosed session => session ≠ sessionId
  | .reconcile truth => (sessionId, turnId) ∈ truth ∧ ActiveTurns.Agrees truth sessionId turnId
  | _ => True

/-- A call that tells of the turn: its start, or bindings that know it and no recent end of it. -/
def KeepAwakeCall.TellsOf (active : ActiveTurns) (now : ℕ) (sessionId turnId : String) :
    KeepAwakeCall → Prop
  | .turnStarted session turn => session = sessionId ∧ turn = turnId
  | .reconcile truth => (sessionId, turnId) ∈ truth ∧ ActiveTurns.Agrees truth sessionId turnId ∧
      ∀ instant ∈ active.ended.lookup (sessionId, turnId), endedMemory ≤ now - instant
  | _ => False

lemma tracks_change (htracks : inner.turns.Tracks sessionId turnId)
    (hcall : call.Continues sessionId turnId) :
    (inner.change now call).turns.Tracks sessionId turnId := by
  cases call with
  | turnStarted session turn =>
      simp only [Inner.change, ActiveTurns.tracks_turnStarted]
      split
      · next heq => exact hcall heq.symm
      · exact htracks
  | turnEnded session turn => exact ActiveTurns.tracks_turnEnded.mpr ⟨htracks, Ne.symm hcall⟩
  | sessionClosed session => exact ActiveTurns.tracks_sessionClosed.mpr ⟨htracks, Ne.symm hcall⟩
  | reconcile truth => exact ActiveTurns.tracks_reconcile hcall.2 hcall.1 htracks
  | _ => exact htracks

lemma tracks_of_tellsOf (hcall : call.TellsOf inner.turns now sessionId turnId) :
    (inner.change now call).turns.Tracks sessionId turnId := by
  cases call with
  | turnStarted session turn =>
      obtain ⟨rfl, rfl⟩ := hcall
      exact ActiveTurns.tracks_turnStarted.mpr (by rw [if_pos rfl])
  | reconcile truth =>
      obtain ⟨hmem, hagrees, hold⟩ := hcall
      refine ActiveTurns.tracks_takeUps_of_mem hagrees hmem ?_
      rw [ActiveTurns.lookup_ended_dropLost, Option.filter_eq_none_iff]
      intro instant hinstant
      have hle := hold instant hinstant
      simp only [decide_eq_true_eq]
      omega
  | _ => exact hcall.elim

lemma mode_change (hmode : inner.mode = .duringAgents) (hcall : call.Continues sessionId turnId) :
    (inner.change now call).mode = .duringAgents := by
  cases call with
  | setMode mode => exact hcall
  | _ => exact hmode

lemma wanted_of_tracks (grace now : ℕ) (hmode : inner.mode = .duringAgents) (htracks : inner.turns.Tracks sessionId turnId) :
    ∃ count, inner.wanted true grace now = some (.agentsWorking (count + 1)) := by
  obtain ⟨count, hcount⟩ := Nat.exists_eq_succ_of_ne_zero (ActiveTurns.count_ne_zero htracks)
  refine ⟨count, ?_⟩
  simp only [Inner.wanted, if_true, hmode, decideHold, hcount]

structure Working (sessionId turnId : String) (keeper : Keeper) : Prop where
  mode : keeper.inner.mode = .duringAgents
  tracks : keeper.inner.turns.Tracks sessionId turnId
  held : ∃ id count, keeper.inner.held = some (id, .agentsWorking (count + 1)) ∧ keeper.assertions = [id]

lemma working_of_step {s t : Keeper} {update : Update} {calls : List PowerCall}
    (hs : s.Single) (hstep : (keepingAwake true grace mode).step s update = some (calls, t))
    (hanswer : update.answer ≠ none)
    (hmode : (s.inner.change update.now update.call).mode = .duringAgents)
    (htracks : (s.inner.change update.now update.call).turns.Tracks sessionId turnId) :
    Working sessionId turnId t := by
  have hsettled := Settled.of_step hstep
  have hsingle := hs.step hstep
  have hinner := inner_of_step hstep
  obtain ⟨count, hwanted⟩ := wanted_of_tracks grace update.now hmode htracks
  rw [hwanted] at hsettled
  have hheld : ∃ id, t.inner.held = some (id, .agentsWorking (count + 1)) := by
    generalize hafter : t.inner.held = after at hsettled
    cases hsettled with
    | kept hkept =>
        rcases hkept with hsame | ⟨-, hnone⟩
        · obtain ⟨⟨id, reason⟩, hsome, rfl⟩ := Option.map_eq_some_iff.mp hsame.symm
          exact ⟨id, hsome⟩
        · exact absurd hnone hanswer
    | @acquired id _ _ hreason =>
        cases hreason
        exact ⟨id, rfl⟩
    | released hnone => cases hnone
  obtain ⟨id, hid⟩ := hheld
  refine ⟨?_, ?_, id, count, hid, ?_⟩
  · rw [hinner]
    exact hmode
  · rw [hinner]
    exact htracks
  · rw [hsingle, hid]
    rfl

/-- A turn that runs keeps the computer awake from the first that is told of it, even by a reconcile
after a start that was missed, and however late the ends of older turns arrive. -/
theorem running_turn_holds {s s' t : Keeper} {update : Update} {calls : List PowerCall}
    {l : List (Update × List PowerCall)} (hs : (keepingAwake true grace mode).Reachable s)
    (hmode : s.inner.mode = .duringAgents)
    (hupdate : update.call.TellsOf s.inner.turns update.now sessionId turnId)
    (hanswer : update.answer ≠ none)
    (hstep : (keepingAwake true grace mode).step s update = some (calls, s'))
    (hrun : (keepingAwake true grace mode).Run s' l t)
    (hcontinues : ∀ e ∈ l, e.1.call.Continues sessionId turnId ∧ e.1.answer ≠ none) :
    ∃ id count, t.inner.held = some (id, .agentsWorking (count + 1)) ∧ t.assertions = [id] := by
  have hfirst : Working sessionId turnId s' := by
    refine working_of_step (single_of_reachable hs) hstep hanswer ?_ (tracks_of_tellsOf hupdate)
    cases hcall : update.call <;> rw [hcall] at hupdate <;> first | exact hupdate.elim | exact hmode
  have hlast : Keeper.Single t ∧ Working sessionId turnId t := by
    refine hrun.keeps (I := fun keeper => keeper.Single ∧ Working sessionId turnId keeper)
      (Q := fun update => update.call.Continues sessionId turnId ∧ update.answer ≠ none) ?_
      ⟨single_of_reachable (hs.step hstep), hfirst⟩ hcontinues
    rintro s update calls t ⟨hsingle, hworking⟩ ⟨hcall, hanswer⟩ hstep
    exact ⟨hsingle.step hstep, working_of_step hsingle hstep hanswer
      (mode_change hworking.mode hcall) (tracks_change hworking.tracks hcall)⟩
  exact hlast.2.held

end RunningTurn

def demoMissedStart : Update where
  call := .reconcile [("a", "a2")]
  now := 0
  answer := some 1

def demoLateEnd : Update where
  call := .turnEnded "a" "a1"
  now := nanosPerSec
  answer := some 2

theorem running_turn_holds_demo :
    ∃ id count, (demoKeepingAwake.exec demoKeepingAwake.start [demoMissedStart, demoLateEnd]).inner.held =
        some (id, .agentsWorking (count + 1)) ∧
      (demoKeepingAwake.exec demoKeepingAwake.start [demoMissedStart, demoLateEnd]).assertions = [id] := by
  have hfirst : demoKeepingAwake.step demoKeepingAwake.start demoMissedStart = some ([.acquire 1],
      demoKeepingAwake.exec demoKeepingAwake.start [demoMissedStart]) := rfl
  have htells : demoMissedStart.call.TellsOf demoKeepingAwake.start.inner.turns demoMissedStart.now
      "a" "a2" := by
    refine ⟨List.mem_singleton_self _, ?_, ?_⟩
    · intro entry hentry _
      rw [List.mem_singleton.mp hentry]
    · rintro instant ⟨⟩
  have hcontinues : ∀ e ∈ [(demoLateEnd, ([] : List PowerCall))],
      e.1.call.Continues "a" "a2" ∧ e.1.answer ≠ none := by
    intro e he
    rw [List.mem_singleton.mp he]
    exact ⟨by simp [demoLateEnd, KeepAwakeCall.Continues], by decide⟩
  exact running_turn_holds .start rfl htells (by decide) hfirst
    (System.run_perform _ _ [demoLateEnd]) hcontinues

section EndedTurn

variable {supported : Bool} {grace now instant : ℕ} {mode : KeepAwakeMode}
  {sessionId turnId : String} {inner : Inner} {call : KeepAwakeCall}

structure Remembered (sessionId turnId : String) (instant : ℕ) (inner : Inner) : Prop where
  not_tracks : ¬inner.turns.Tracks sessionId turnId
  ended : ∃ later, inner.turns.ended.lookup (sessionId, turnId) = some later ∧ instant ≤ later

lemma Remembered.change (h : Remembered sessionId turnId instant inner) (hle : instant ≤ now)
    (hsoon : now < instant + endedMemory) (hcall : call ≠ .turnStarted sessionId turnId) :
    Remembered sessionId turnId instant (inner.change now call) := by
  obtain ⟨later, hended, hlater⟩ := h.ended
  cases call with
  | turnStarted session turn =>
      refine ⟨?_, later, hended, hlater⟩
      simp only [Inner.change, ActiveTurns.tracks_turnStarted]
      split
      · next heq =>
          rintro rfl
          exact hcall (by rw [heq])
      · exact h.not_tracks
  | turnEnded session turn =>
      refine ⟨fun htracks => h.not_tracks (ActiveTurns.tracks_turnEnded.mp htracks).1, ?_⟩
      have hended' : (inner.turns.turnEnded session turn now).ended =
          inner.turns.ended.insert (session, turn) now := by
        simp only [ActiveTurns.turnEnded]
        split <;> rfl
      simp only [Inner.change, hended', Table.lookup_insert_eq]
      split
      · exact ⟨now, rfl, hle⟩
      · exact ⟨later, hended, hlater⟩
  | sessionClosed session =>
      refine ⟨fun htracks => h.not_tracks (ActiveTurns.tracks_sessionClosed.mp htracks).1, ?_⟩
      simp only [Inner.change, ActiveTurns.sessionClosed]
      split
      · simp only [Table.lookup_insert_eq]
        split
        · exact ⟨now, rfl, hle⟩
        · exact ⟨later, hended, hlater⟩
      · exact ⟨later, hended, hlater⟩
  | reconcile truth =>
      have hkept : (inner.turns.dropLost truth now).ended.lookup (sessionId, turnId) = some later := by
        rw [ActiveTurns.lookup_ended_dropLost, hended, Option.filter_eq_some_iff]
        refine ⟨rfl, decide_eq_true ?_⟩
        omega
      refine ⟨?_, later, ?_, hlater⟩
      · refine ActiveTurns.not_tracks_takeUps ?_ (ActiveTurns.not_tracks_dropLost h.not_tracks)
        rw [hkept]
        exact Option.some_ne_none _
      · simp only [Inner.change, ActiveTurns.reconcile, ActiveTurns.ended_takeUps, hkept]
  | _ => exact ⟨h.not_tracks, later, hended, hlater⟩

/-- No reconcile brings a turn back that ended within the time the controller remembers. -/
theorem ended_turn_stays_ended {s s' t : Keeper} {answer : Option ℕ} {calls : List PowerCall}
    {l : List (Update × List PowerCall)}
    (hstep : (keepingAwake supported grace mode).step s
      { call := .turnEnded sessionId turnId, now := instant, answer := answer } = some (calls, s'))
    (hrun : (keepingAwake supported grace mode).Run s' l t)
    (hsoon : ∀ e ∈ l, instant ≤ e.1.now ∧ e.1.now < instant + endedMemory)
    (hnew : ∀ e ∈ l, e.1.call ≠ .turnStarted sessionId turnId) :
    ¬t.inner.turns.Tracks sessionId turnId := by
  have hfirst : Remembered sessionId turnId instant s'.inner := by
    rw [inner_of_step hstep]
    refine ⟨fun htracks => (ActiveTurns.tracks_turnEnded.mp htracks).2 rfl, instant, ?_, le_refl _⟩
    simp only [Inner.change, ActiveTurns.turnEnded]
    split <;> simp only [Table.lookup_insert_eq, if_true]
  have hlast : Remembered sessionId turnId instant t.inner := by
    refine hrun.keeps (I := fun keeper => Remembered sessionId turnId instant keeper.inner)
      (Q := fun update => (instant ≤ update.now ∧ update.now < instant + endedMemory) ∧
        update.call ≠ .turnStarted sessionId turnId) ?_ hfirst fun e he => ⟨hsoon e he, hnew e he⟩
    rintro s update calls t hs ⟨⟨hle, hlt⟩, hcall⟩ hstep
    rw [inner_of_step hstep]
    exact { hs.change hle hlt hcall with }
  exact hlast.not_tracks

end EndedTurn

def demoEnd : Update where
  call := .turnEnded "a" "a1"
  now := nanosPerSec
  answer := some 2

def demoStale : Update where
  call := .reconcile [("a", "a1")]
  now := 2 * nanosPerSec
  answer := some 3

theorem ended_turn_stays_ended_demo :
    ¬(demoKeepingAwake.exec demoWorking [demoEnd, demoStale]).inner.turns.Tracks "a" "a1" := by
  have hend : demoKeepingAwake.step demoWorking demoEnd =
      some ([.acquire 2, .release 1], demoKeepingAwake.exec demoWorking [demoEnd]) := rfl
  have honly : ∀ e ∈ (demoKeepingAwake.perform (demoKeepingAwake.exec demoWorking [demoEnd])
      [demoStale]).1, e = (demoStale, []) := fun e he => List.mem_singleton.mp he
  refine ended_turn_stays_ended hend (System.run_perform _ _ [demoStale]) ?_ ?_
  · intro e he
    rw [honly e he]
    decide
  · intro e he
    rw [honly e he]
    exact KeepAwakeCall.noConfusion

end DevCommandCenter.KeepAwake
