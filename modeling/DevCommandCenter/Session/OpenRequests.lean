import DevCommandCenter.Library.Sequences
import DevCommandCenter.Session.EventStore
import Mathlib.Data.List.Induction

/-! What the running turn of a session waits on the user for. -/

namespace DevCommandCenter

structure OpenTurnRequests where
  permissions : List (String × String)
  inputs : List (String × String)
  deriving DecidableEq, Repr

structure RequestScan where
  openTurn : Option TurnId
  permissions : List (String × String)
  inputs : List (String × String)
  deriving DecidableEq, Repr

def scanRequest (scan : RequestScan) (event : SessionEventRecord) : RequestScan :=
  match event.kind with
  | .turnStarted turnId .. => { openTurn := some turnId, permissions := [], inputs := [] }
  | .turnCompleted turnId | .turnAborted turnId _ =>
      if scan.openTurn = some turnId then { scan with openTurn := none } else scan
  | .turnPermissionRequested turnId requestId .. =>
      if scan.openTurn = some turnId then
        { scan with permissions := scan.permissions ++ [(requestId, event.occurredAt)] }
      else scan
  | .turnPermissionResolved _ requestId _ =>
      { scan with permissions := scan.permissions.filter fun pending => pending.1 ≠ requestId }
  | .turnUserInputRequested turnId requestId _ =>
      if scan.openTurn = some turnId then
        { scan with inputs := scan.inputs ++ [(requestId, event.occurredAt)] }
      else scan
  | .turnUserInputResolved _ requestId _ =>
      { scan with inputs := scan.inputs.filter fun pending => pending.1 ≠ requestId }
  | .sessionCompleted | .sessionAborted _ => { scan with openTurn := none }
  | _ => scan

def scanRequests (events : List SessionEventRecord) : RequestScan :=
  events.foldl scanRequest { openTurn := none, permissions := [], inputs := [] }

def openTurnRequests (events : List SessionEventRecord) : Option OpenTurnRequests :=
  let scan := scanRequests events
  if scan.openTurn.isSome then some { permissions := scan.permissions, inputs := scan.inputs }
  else none

def isTurnStarted (event : SessionEventRecord) : Bool :=
  match event.kind with
  | .turnStarted .. => true
  | _ => false

def fromLast (p : SessionEventRecord → Bool) (events : List SessionEventRecord) :
    List SessionEventRecord :=
  events.drop (((List.range events.length).reverse.find? fun i => events[i]?.any p).getD 0)

def requestId : SessionEventKind → Option String
  | .turnPermissionRequested _ requestId .. | .turnUserInputRequested _ requestId _ => some requestId
  | _ => none

def openTurnRequestEvents (events : List SessionEventRecord) : List SessionEventRecord :=
  match openTurnRequests events with
  | none => []
  | some pending =>
      let opened := (pending.permissions ++ pending.inputs).map Prod.fst
      (fromLast isTurnStarted events).filter fun event =>
        (requestId event.kind).any fun id => id ∈ opened

inductive RequestKind
  | permission
  | question
  deriving DecidableEq, Repr

structure Request where
  kind : RequestKind
  id : String
  turnId : TurnId
  deriving DecidableEq, Repr

def requested : SessionEventKind → Option Request
  | .turnPermissionRequested turnId requestId .. => some ⟨.permission, requestId, turnId⟩
  | .turnUserInputRequested turnId requestId _ => some ⟨.question, requestId, turnId⟩
  | _ => none

def answered : SessionEventKind → Option (RequestKind × String)
  | .turnPermissionResolved _ requestId _ => some (.permission, requestId)
  | .turnUserInputResolved _ requestId _ => some (.question, requestId)
  | _ => none

def endsTurn (turnId : TurnId) : SessionEventKind → Bool
  | .turnStarted .. | .sessionCompleted | .sessionAborted _ => true
  | .turnCompleted turnId' | .turnAborted turnId' _ => turnId = turnId'
  | _ => false

def Running (log : List SessionEventRecord) (turnId : TurnId) : Prop :=
  ∃ before event after, log = before ++ event :: after ∧ startedTurn event.kind = some turnId ∧
    ∀ later ∈ after, endsTurn turnId later.kind = false

def Unanswered (request : Request) (events : List SessionEventRecord) : Prop :=
  ∀ event ∈ events, answered event.kind ≠ some (request.kind, request.id)

/-- The request was made while its turn ran, the turn still runs, and no answer came. -/
def StillOpen (log : List SessionEventRecord) (request : Request) : Prop :=
  ∃ before event after, log = before ++ event :: after ∧ requested event.kind = some request ∧
    Running before request.turnId ∧ (∀ later ∈ after, endsTurn request.turnId later.kind = false) ∧
      Unanswered request after

section Scan

variable {log : List SessionEventRecord} {event : SessionEventRecord} {turnId : TurnId}
  {request : Request}

lemma running_append : Running (log ++ [event]) turnId ↔
    (Running log turnId ∧ endsTurn turnId event.kind = false) ∨
      startedTurn event.kind = some turnId := by
  rw [Running, Library.exists_split_append]
  simp only [Library.forall_mem_append_singleton, List.not_mem_nil, false_implies, implies_true,
    and_true]
  constructor
  · rintro (⟨before, start, after, hlog, hstart, hafter, hends⟩ | hstart)
    · exact .inl ⟨⟨before, start, after, hlog, hstart, hafter⟩, hends⟩
    · exact .inr hstart
  · rintro (⟨⟨before, start, after, hlog, hstart, hafter⟩, hends⟩ | hstart)
    · exact .inl ⟨before, start, after, hlog, hstart, hafter, hends⟩
    · exact .inr hstart

lemma stillOpen_append : StillOpen (log ++ [event]) request ↔
    (StillOpen log request ∧ endsTurn request.turnId event.kind = false ∧
      answered event.kind ≠ some (request.kind, request.id)) ∨
      (requested event.kind = some request ∧ Running log request.turnId) := by
  rw [StillOpen, Library.exists_split_append]
  simp only [Unanswered, Library.forall_mem_append_singleton, List.not_mem_nil, false_implies,
    implies_true, and_true]
  constructor
  · rintro (⟨before, asked, after, hlog, hasked, hrunning, ⟨hafter, hends⟩, hunanswered, hanswered⟩ |
      hnew)
    · exact .inl ⟨⟨before, asked, after, hlog, hasked, hrunning, hafter, hunanswered⟩, hends, hanswered⟩
    · exact .inr hnew
  · rintro (⟨⟨before, asked, after, hlog, hasked, hrunning, hafter, hunanswered⟩, hends, hanswered⟩ |
      hnew)
    · exact .inl ⟨before, asked, after, hlog, hasked, hrunning, ⟨hafter, hends⟩, hunanswered,
        hanswered⟩
    · exact .inr hnew

def RequestScan.ids (scan : RequestScan) : RequestKind → List String
  | .permission => scan.permissions.map Prod.fst
  | .question => scan.inputs.map Prod.fst

structure Tracks (scan : RequestScan) (log : List SessionEventRecord) : Prop where
  openTurn : ∀ turnId, scan.openTurn = some turnId ↔ Running log turnId
  ids : ∀ turnId, Running log turnId → ∀ kind id,
    id ∈ scan.ids kind ↔ StillOpen log ⟨kind, id, turnId⟩

lemma StillOpen.running (h : StillOpen log request) : Running log request.turnId := by
  obtain ⟨before, asked, after, rfl, hasked, ⟨first, start, between, rfl, hstart, hbetween⟩, hafter, -⟩ :=
    h
  refine ⟨first, start, between ++ asked :: after, by simp, hstart, fun later hlater => ?_⟩
  rcases List.mem_append.mp hlater with hlater | hlater
  · exact hbetween later hlater
  · rcases List.mem_cons.mp hlater with rfl | hlater
    · cases hkind : later.kind with
      | turnPermissionRequested => rfl
      | turnUserInputRequested => rfl
      | _ => simp [hkind, requested] at hasked
    · exact hafter later hlater

lemma mem_map_fst_filter {l : List (String × String)} {id id₀ : String} :
    id ∈ (l.filter fun pending => pending.1 ≠ id₀).map Prod.fst ↔ id ∈ l.map Prod.fst ∧ id₀ ≠ id := by
  simp only [List.mem_map, List.mem_filter, decide_eq_true_eq]
  constructor
  · rintro ⟨pending, ⟨hmem, hne⟩, rfl⟩
    exact ⟨⟨pending, hmem, rfl⟩, hne.symm⟩
  · rintro ⟨⟨pending, hmem, rfl⟩, hne⟩
    exact ⟨pending, ⟨hmem, hne.symm⟩, rfl⟩

lemma Tracks.started (h : startedTurn event.kind = some turnId)
    (hrequested : requested event.kind = none) (hends : ∀ turnId', endsTurn turnId' event.kind = true) :
    Tracks { openTurn := some turnId, permissions := [], inputs := [] } (log ++ [event]) where
  openTurn turnId' := by
    rw [running_append]
    simp [hends, h]
  ids turnId' _ kind id := by
    rw [stillOpen_append]
    cases kind <;> simp [RequestScan.ids, hends, hrequested]

lemma Tracks.ended (h : Tracks scan log) (hstarted : startedTurn event.kind = none)
    (hrequested : requested event.kind = none) (hanswered : answered event.kind = none)
    (hids : ∀ kind, scan'.ids kind = scan.ids kind)
    (hopen : ∀ turnId, scan'.openTurn = some turnId ↔
      scan.openTurn = some turnId ∧ endsTurn turnId event.kind = false) :
    Tracks scan' (log ++ [event]) where
  openTurn turnId := by
    rw [running_append, hopen, h.openTurn]
    simp [hstarted]
  ids turnId hrunning kind id := by
    rw [running_append] at hrunning
    obtain ⟨hbefore, hends⟩ : Running log turnId ∧ endsTurn turnId event.kind = false := by
      simpa [hstarted] using hrunning
    rw [stillOpen_append, hids, h.ids turnId hbefore]
    simp [hends, hrequested, hanswered]

lemma Tracks.asked (h : Tracks scan log) (hstarted : startedTurn event.kind = none)
    (hrequested : requested event.kind = some request) (hanswered : answered event.kind = none)
    (hends : ∀ turnId, endsTurn turnId event.kind = false) (hopen : scan'.openTurn = scan.openTurn)
    (hids : ∀ kind id, id ∈ scan'.ids kind ↔ id ∈ scan.ids kind ∨
      (scan.openTurn = some request.turnId ∧ kind = request.kind ∧ id = request.id)) :
    Tracks scan' (log ++ [event]) where
  openTurn turnId := by
    rw [running_append, hopen, h.openTurn]
    simp [hends, hstarted]
  ids turnId hrunning kind id := by
    rw [running_append] at hrunning
    have hbefore : Running log turnId := by simpa [hends, hstarted] using hrunning
    have hturn := (h.openTurn turnId).mpr hbefore
    rw [stillOpen_append, hids, h.ids turnId hbefore, hrequested, hturn]
    simp only [hends, hanswered, Option.some.injEq, hbefore, ne_eq, reduceCtorEq, not_false_eq_true,
      and_true]
    apply or_congr_right
    constructor
    · rintro ⟨rfl, rfl, rfl⟩
      rfl
    · rintro rfl
      exact ⟨rfl, rfl, rfl⟩

lemma Tracks.resolved (h : Tracks scan log) {kind₀ : RequestKind} {id₀ : String}
    (hstarted : startedTurn event.kind = none) (hrequested : requested event.kind = none)
    (hanswered : answered event.kind = some (kind₀, id₀))
    (hends : ∀ turnId, endsTurn turnId event.kind = false) (hopen : scan'.openTurn = scan.openTurn)
    (hids : ∀ kind id, id ∈ scan'.ids kind ↔ id ∈ scan.ids kind ∧ ¬(kind₀ = kind ∧ id₀ = id)) :
    Tracks scan' (log ++ [event]) where
  openTurn turnId := by
    rw [running_append, hopen, h.openTurn]
    simp [hends, hstarted]
  ids turnId hrunning kind id := by
    rw [running_append] at hrunning
    have hbefore : Running log turnId := by simpa [hends, hstarted] using hrunning
    rw [stillOpen_append, hids, h.ids turnId hbefore]
    simp [hends, hrequested, hanswered]

lemma Tracks.endedTurn (h : Tracks scan log) (hstarted : startedTurn event.kind = none)
    (hrequested : requested event.kind = none) (hanswered : answered event.kind = none)
    (hends : ∀ turnId', endsTurn turnId' event.kind = decide (turnId' = turnId)) :
    Tracks (if scan.openTurn = some turnId then { scan with openTurn := none } else scan)
      (log ++ [event]) := by
  refine h.ended hstarted hrequested hanswered (fun kind => ?_) fun turnId' => ?_
  · split
    · cases kind <;> rfl
    · rfl
  · rw [hends, decide_eq_false_iff_not]
    split
    · next hopen => simp [hopen, eq_comm]
    · next hopen =>
      constructor
      · intro hturn
        refine ⟨hturn, ?_⟩
        rintro rfl
        exact hopen hturn
      · exact And.left

lemma Tracks.endedSession (h : Tracks scan log) (hstarted : startedTurn event.kind = none)
    (hrequested : requested event.kind = none) (hanswered : answered event.kind = none)
    (hends : ∀ turnId, endsTurn turnId event.kind = true) :
    Tracks { scan with openTurn := none } (log ++ [event]) := by
  refine h.ended hstarted hrequested hanswered (fun kind => ?_) fun turnId => ?_
  · cases kind <;> rfl
  · simp [hends]

theorem tracks_scanRequest (h : Tracks scan log) :
    Tracks (scanRequest scan event) (log ++ [event]) := by
  cases hkind : event.kind with
  | turnStarted turnId =>
      simp only [scanRequest, hkind]
      exact .started (by rw [hkind]; rfl) (by rw [hkind]; rfl) (fun _ => by rw [hkind]; rfl)
  | turnCompleted turnId =>
      simp only [scanRequest, hkind]
      exact h.endedTurn (by rw [hkind]; rfl) (by rw [hkind]; rfl) (by rw [hkind]; rfl)
        (fun _ => by rw [hkind]; rfl)
  | turnAborted turnId reason =>
      simp only [scanRequest, hkind]
      exact h.endedTurn (by rw [hkind]; rfl) (by rw [hkind]; rfl) (by rw [hkind]; rfl)
        (fun _ => by rw [hkind]; rfl)
  | sessionCompleted =>
      simp only [scanRequest, hkind]
      exact h.endedSession (by rw [hkind]; rfl) (by rw [hkind]; rfl) (by rw [hkind]; rfl)
        (fun _ => by rw [hkind]; rfl)
  | sessionAborted reason =>
      simp only [scanRequest, hkind]
      exact h.endedSession (by rw [hkind]; rfl) (by rw [hkind]; rfl) (by rw [hkind]; rfl)
        (fun _ => by rw [hkind]; rfl)
  | turnPermissionRequested turnId requestId =>
      simp only [scanRequest, hkind]
      refine h.asked (by rw [hkind]; rfl) (by rw [hkind]; rfl) (by rw [hkind]; rfl)
        (fun _ => by rw [hkind]; rfl) ?_ fun kind id => ?_
      · split <;> rfl
      · cases kind <;> split <;> simp_all [RequestScan.ids]
  | turnUserInputRequested turnId requestId questions =>
      simp only [scanRequest, hkind]
      refine h.asked (by rw [hkind]; rfl) (by rw [hkind]; rfl) (by rw [hkind]; rfl)
        (fun _ => by rw [hkind]; rfl) ?_ fun kind id => ?_
      · split <;> rfl
      · cases kind <;> split <;> simp_all [RequestScan.ids]
  | turnPermissionResolved turnId requestId behavior =>
      simp only [scanRequest, hkind]
      refine h.resolved (by rw [hkind]; rfl) (by rw [hkind]; rfl) (by rw [hkind]; rfl)
        (fun _ => by rw [hkind]; rfl) rfl fun kind id => ?_
      cases kind with
      | permission => exact mem_map_fst_filter.trans (by simp [RequestScan.ids])
      | question => simp [RequestScan.ids]
  | turnUserInputResolved turnId requestId answers =>
      simp only [scanRequest, hkind]
      refine h.resolved (by rw [hkind]; rfl) (by rw [hkind]; rfl) (by rw [hkind]; rfl)
        (fun _ => by rw [hkind]; rfl) rfl fun kind id => ?_
      cases kind with
      | permission => simp [RequestScan.ids]
      | question => exact mem_map_fst_filter.trans (by simp [RequestScan.ids])
  | _ =>
      simp only [scanRequest, hkind]
      refine h.ended (by rw [hkind]; rfl) (by rw [hkind]; rfl) (by rw [hkind]; rfl) (fun _ => rfl)
        fun turnId => ?_
      simp [hkind, endsTurn]

theorem tracks_scanRequests (log : List SessionEventRecord) : Tracks (scanRequests log) log := by
  induction log using List.reverseRecOn with
  | nil =>
      have hnone : ∀ turnId, ¬Running [] turnId := by
        rintro turnId ⟨before, start, after, hlog, -⟩
        cases before <;> cases hlog
      exact ⟨fun turnId => iff_of_false (by simp [scanRequests]) (hnone turnId),
        fun turnId hrunning => absurd hrunning (hnone turnId)⟩
  | append_singleton log event ih =>
      rw [scanRequests, List.foldl_append, List.foldl_cons, List.foldl_nil]
      exact tracks_scanRequest ih

end Scan

section Events

variable {log : List SessionEventRecord}

lemma mem_fromLast {p : SessionEventRecord → Bool} {before after : List SessionEventRecord}
    {event : SessionEventRecord} (hevent : p event = false) (hafter : ∀ later ∈ after, p later = false) :
    event ∈ fromLast p (before ++ event :: after) := by
  have hindex : ((List.range (before ++ event :: after).length).reverse.find? fun i =>
      (before ++ event :: after)[i]?.any p).getD 0 ≤ before.length := by
    cases hfind : (List.range (before ++ event :: after).length).reverse.find? fun i =>
        (before ++ event :: after)[i]?.any p with
    | none => exact Nat.zero_le _
    | some i =>
        by_contra hlt
        have hi := List.find?_some hfind
        rw [Option.getD_some, not_le] at hlt
        rw [List.getElem?_append_right hlt.le, Option.any_eq_true] at hi
        obtain ⟨later, hlater, hp⟩ := hi
        rcases List.mem_cons.mp (List.mem_of_getElem? hlater) with rfl | hmem
        · rw [hevent] at hp
          cases hp
        · rw [hafter later hmem] at hp
          cases hp
  rw [fromLast, List.drop_append_of_le_length hindex]
  exact List.mem_append_right _ (List.mem_cons_self ..)

lemma requested_asks {event : SessionEventRecord} {request : Request}
    (h : requested event.kind = some request) :
    isTurnStarted event = false ∧ requestId event.kind = some request.id := by
  unfold isTurnStarted
  cases hkind : event.kind with
  | turnPermissionRequested =>
      rw [hkind] at h
      cases h
      exact ⟨rfl, rfl⟩
  | turnUserInputRequested =>
      rw [hkind] at h
      cases h
      exact ⟨rfl, rfl⟩
  | _ => simp [hkind, requested] at h

lemma isTurnStarted_of_endsTurn {event : SessionEventRecord} {turnId : TurnId}
    (h : endsTurn turnId event.kind = false) : isTurnStarted event = false := by
  unfold isTurnStarted
  cases hkind : event.kind with
  | turnStarted => simp [hkind, endsTurn] at h
  | _ => rfl

theorem mem_openTurnRequestEvents {id : String} :
    (∃ event ∈ openTurnRequestEvents log, requestId event.kind = some id) ↔
      ∃ kind turnId, StillOpen log ⟨kind, id, turnId⟩ := by
  have htracks := tracks_scanRequests log
  have hids : ∀ turnId, Running log turnId →
      (id ∈ ((scanRequests log).permissions ++ (scanRequests log).inputs).map Prod.fst ↔
        ∃ kind, StillOpen log ⟨kind, id, turnId⟩) := by
    intro turnId hrunning
    rw [List.map_append, List.mem_append]
    constructor
    · rintro (hmem | hmem)
      · exact ⟨.permission, (htracks.ids turnId hrunning .permission id).mp hmem⟩
      · exact ⟨.question, (htracks.ids turnId hrunning .question id).mp hmem⟩
    · rintro ⟨kind, hopen⟩
      cases kind with
      | permission => exact .inl ((htracks.ids turnId hrunning .permission id).mpr hopen)
      | question => exact .inr ((htracks.ids turnId hrunning .question id).mpr hopen)
  simp only [openTurnRequestEvents, openTurnRequests]
  cases hturn : (scanRequests log).openTurn with
  | none =>
      refine iff_of_false (by simp) ?_
      rintro ⟨kind, turnId, hopen⟩
      have hrunning := (htracks.openTurn turnId).mpr hopen.running
      rw [hturn] at hrunning
      cases hrunning
  | some turnId =>
      have hrunning := (htracks.openTurn turnId).mp hturn
      constructor
      · rintro ⟨event, hevent, hid⟩
        have hmem := (List.mem_filter.mp hevent).2
        rw [hid, Option.any_some, decide_eq_true_eq, hids turnId hrunning] at hmem
        exact ⟨hmem.choose, turnId, hmem.choose_spec⟩
      · rintro ⟨kind, turnId', hopen⟩
        have hsame := (htracks.openTurn turnId').mpr hopen.running
        rw [hturn] at hsame
        cases hsame
        have hmem := (hids turnId hrunning).mpr ⟨kind, hopen⟩
        obtain ⟨before, asked, after, hlog, hasked, -, hafter, -⟩ := hopen
        obtain ⟨hstarted, hid⟩ := requested_asks hasked
        have hnone : ∀ later ∈ after, isTurnStarted later = false := fun later hlater =>
          isTurnStarted_of_endsTurn (hafter later hlater)
        refine ⟨asked, List.mem_filter.mpr ⟨hlog ▸ mem_fromLast hstarted hnone, ?_⟩, hid⟩
        rw [hid, Option.any_some, decide_eq_true_eq]
        exact hmem

end Events

end DevCommandCenter
