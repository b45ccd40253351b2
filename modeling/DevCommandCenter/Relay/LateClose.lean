import DevCommandCenter.Relay.Forwarding

/-! The close event of a connection that a newer one replaced. -/

namespace DevCommandCenter.Relay

open Library

def Event.ends : Event → Option ℕ
  | .webSocketClose i _ _ => some i
  | .webSocketError i => some i
  | _ => none

def Effect.closes (i : ℕ) : Effect → Bool
  | .close j _ _ => j = i
  | _ => false

def replaces (i : ℕ) (e : Entry) : Bool :=
  match e.action with
  | .openControl _ _ | .openData _ _ => e.answer.any (Effect.closes i)
  | _ => false

structure Harmless (i : ℕ) (e : Entry) : Prop where
  closes : ∀ effect ∈ e.answer, ∀ j, effect.closes j = true → j = i
  stays : ∀ j a, j ≠ i → OpenIn e.before.sockets j a → OpenIn e.after.sockets j a
  buffers : e.after.buffers = e.before.buffers

/-- A control connection needs a newer one that is open, or nothing left to close; a phone no frame
that waits; a data connection a phone that is gone. -/
def LateCloseSafe (room : Room) (i : ℕ) : Prop :=
  match room.attachment i with
  | some .control => (∃ j, j ≠ i ∧ OpenIn room.sockets j .control) ∨
      (∀ id, ¬phoneOpen room id ∧ ¬dataOpen room id) ∧ room.buffers = ∅
  | some (.phone id) => id ∉ room.buffers
  | some (.data id) => ¬phoneOpen room id
  | some .rejected | none => True

/-- The late closes of a history: the close events of sockets replaced before. -/
def LateClose (history : List Entry) (i : ℕ) (before : List Entry) (e : Entry) : Prop :=
  (∃ after, history = before ++ e :: after) ∧ e.action.ends = some i ∧
    ∃ e' ∈ before, replaces i e' = true

variable {sha256Hex : String → String} {history : List Entry} {room s t : Room} {event : Event}
  {effects : List Effect} {e : Entry} {i : ℕ} {id : String}

def closing (room : Room) (i : ℕ) : List ℕ :=
  match room.attachment i with
  | some .control =>
      if (room.getWebSockets .control).any (· ≠ i) then []
      else room.getWebSockets .phones ++ room.getWebSockets .datas
  | some (.phone id) => room.getWebSockets (.data id)
  | some (.data id) => room.getWebSockets (.phone id)
  | some .rejected | none => []

lemma closed_closes (code : ℕ) (reason : String) (room : Room) (i j : ℕ) :
    (∃ effect ∈ (room.closed i code reason).1, effect.closes j = true) ↔ j ∈ closing room i := by
  have hcloses : ∀ l code reason, (∃ effect ∈ (room.safeClose l code reason).1,
      effect.closes j = true) ↔ j ∈ l := by
    intro l code reason
    simp [Room.safeClose, Effect.closes]
  unfold Room.closed closing
  cases hattachment : room.attachment i with
  | none => simp
  | some attachment =>
      cases attachment with
      | control =>
          dsimp only
          split
          · simp
          · exact hcloses _ _ _
      | rejected => simp
      | data id => exact hcloses _ _ _
      | phone id =>
          dsimp only
          simp only [List.mem_append, or_and_right, exists_or]
          refine (or_iff_left ?_).trans (hcloses _ 1000 "phone left")
          simp [Effect.closes]

lemma closed_sockets {code : ℕ} {reason : String} (room : Room) (i : ℕ) :
    (room.closed i code reason).2.sockets = (room.shut (closing room i)).sockets := by
  have hnone : (room.shut []).sockets = room.sockets :=
    List.ext_getElem? fun j => by simp [Room.shut]
  unfold Room.closed closing
  cases hattachment : room.attachment i with
  | none => exact hnone.symm
  | some attachment =>
      cases attachment with
      | control =>
          dsimp only
          split
          · exact hnone.symm
          · rfl
      | rejected => exact hnone.symm
      | data id => rfl
      | phone id => rfl

lemma erase_eq_self {buffers : Table String Buffer} :
    buffers.erase id = buffers ↔ id ∉ buffers := by
  constructor
  · intro h
    rw [← h, AList.mem_erase]
    exact fun hmem => hmem.1 rfl
  · intro h
    exact AList.ext (List.kerase_of_notMem_keys h)

lemma closed_buffers {code : ℕ} {reason : String} (room : Room) (i : ℕ) :
    (room.closed i code reason).2.buffers =
      match room.attachment i with
      | some .control => if (room.getWebSockets .control).any (· ≠ i) then room.buffers else ∅
      | some (.phone id) => room.buffers.erase id
      | some (.data _) | some .rejected | none => room.buffers := by
  unfold Room.closed
  cases hattachment : room.attachment i with
  | none => rfl
  | some attachment =>
      cases attachment with
      | control =>
          dsimp only
          split <;> rfl
      | rejected => rfl
      | data id => rfl
      | phone id => rfl

lemma others_open : (room.getWebSockets .control).any (· ≠ i) = true ↔
    ∃ j, j ≠ i ∧ OpenIn room.sockets j .control := by
  simp [List.any_eq_true, mem_getWebSockets, and_comm]

lemma nothing_open : room.getWebSockets .phones ++ room.getWebSockets .datas = [] ↔
    ∀ id, ¬phoneOpen room id ∧ ¬dataOpen room id := by
  rw [List.append_eq_nil_iff, getWebSockets_eq_nil, getWebSockets_eq_nil]
  constructor
  · rintro ⟨hphones, hdatas⟩ id
    exact ⟨fun ⟨i, hi⟩ => hphones i _ hi (by simp), fun ⟨i, hi⟩ => hdatas i _ hi (by simp)⟩
  · intro h
    refine ⟨fun i a hopen htag => ?_, fun i a hopen htag => ?_⟩
    · obtain ⟨id, rfl⟩ := phones_mem_tags.mp htag
      exact (h id).1 ⟨i, hopen⟩
    · obtain ⟨id, rfl⟩ := datas_mem_tags.mp htag
      exact (h id).2 ⟨i, hopen⟩

lemma closed_quiet_iff (code : ℕ) (reason : String)
    (hdata : ∀ id, room.attachment i = some (.phone id) → ¬dataOpen room id) :
    closing room i = [] ∧ (room.closed i code reason).2.buffers = room.buffers ↔
      LateCloseSafe room i := by
  rw [closed_buffers]
  unfold closing LateCloseSafe
  cases hattachment : room.attachment i with
  | none => simp
  | some attachment =>
      cases attachment with
      | control =>
          dsimp only
          rw [← others_open]
          split
          · next hothers => exact ⟨fun _ => .inl hothers, fun _ => ⟨rfl, rfl⟩⟩
          · next hothers =>
            rw [nothing_open, or_iff_right hothers, eq_comm (a := (∅ : Table String Buffer))]
      | rejected => simp
      | phone id =>
          have hnone : room.getWebSockets (.data id) = [] := by
            by_contra h
            exact hdata id hattachment (dataOpen_iff.mpr h)
          simp only [hnone, true_and]
          exact erase_eq_self
      | data id => simp [phoneOpen_iff]

lemma lateCloseSafe_finish : LateCloseSafe (room.finish i) i ↔ LateCloseSafe room i := by
  have hopen : ∀ {a : Attachment} {j : ℕ}, room.attachment i ≠ some a →
      (OpenIn (room.finish i).sockets j a ↔ OpenIn room.sockets j a) := by
    intro a j hne
    rw [openIn_finish]
    refine ⟨And.left, fun h => ⟨h, ?_⟩⟩
    rintro rfl
    exact hne h.attachment
  unfold LateCloseSafe phoneOpen dataOpen
  rw [finish_attachment]
  cases hattachment : room.attachment i with
  | none => simp
  | some attachment =>
      cases attachment with
      | control =>
          simp only [hopen (a := .phone _) (by simp [hattachment]),
            hopen (a := .data _) (by simp [hattachment]), finish_buffers, openIn_finish]
          simp only [and_comm, and_self_left]
      | rejected => simp
      | phone id => simp
      | data id => simp only [hopen (a := .phone id) (by simp [hattachment])]

lemma lineStep_closed (h : LineStep id e) (hused : used e.before id)
    (hclosed : ¬phoneOpen e.before id ∧ ¬dataOpen e.before id) :
    ¬phoneOpen e.after id ∧ ¬dataOpen e.after id := by
  have hshrinks : Shrinks id e.before e.after → ¬phoneOpen e.after id ∧ ¬dataOpen e.after id :=
    fun hshrinks => ⟨fun hopen => hclosed.1 (hshrinks.phone hopen),
      fun hopen => hclosed.2 (hshrinks.data hopen)⟩
  cases h with
  | still _ _ _ h => exact hshrinks h
  | connected hnew => exact absurd hused hnew
  | opened hphone => exact absurd hphone hclosed.1
  | forwarded _ _ _ _ _ _ h => exact hshrinks h
  | kept _ _ _ _ _ _ hphone hdata =>
      exact ⟨fun hopen => hclosed.1 (hphone hopen), hdata⟩
  | limited _ _ _ _ _ h => exact hshrinks h

/-- What the replaced socket was: a phone of it is closed, and so is its data connection. -/
def ReplacedIn (room : Room) (i : ℕ) : Prop :=
  ∃ a, room.attachment i = some a ∧ ∀ id, a = .phone id →
    ¬phoneOpen room id ∧ ¬dataOpen room id

lemma replaceControl_closes {now : ℤ} (room : Room)
    (h : (room.replaceControl now).1.any (Effect.closes i) = true) :
    ∃ a, room.attachment i = some a := by
  have hopen : ∀ {tag : Tag} {closing : List ℕ}, i ∈ (room.shut closing).getWebSockets tag →
      ∃ a, room.attachment i = some a := by
    intro tag closing hi
    obtain ⟨a, hi, -⟩ := mem_getWebSockets.mp hi
    exact ⟨a, (openIn_shut.mp hi).1.attachment⟩
  simp only [Room.replaceControl, Room.safeClose, Room.accept, List.any_append, List.any_map,
    Bool.or_eq_true, List.any_eq_true, Function.comp_apply, Effect.closes, decide_eq_true_eq,
    List.any_cons, List.any_nil, Bool.or_false] at h
  rcases h with ⟨j, hj, rfl⟩ | ⟨j, hj, rfl⟩ | ⟨j, hj, rfl⟩
  · obtain ⟨a, hj, -⟩ := mem_getWebSockets.mp hj
    exact ⟨a, hj.attachment⟩
  · exact hopen hj
  · exact hopen hj

lemma replacedIn_of_replaces (hstep : (relay sha256Hex).step s event = some (effects, t))
    (hreplaces : replaces i ⟨s, event, effects, t⟩ = true) : ReplacedIn t i := by
  have hkept : ∀ a, s.attachment i = some a → t.attachment i = some a :=
    fun a h => step_attachment hstep h
  cases event with
  | openControl secret now =>
      have hresult : s.openControl sha256Hex secret now = (effects, t) := Option.some.inj hstep
      obtain ⟨hash, heq | heq⟩ := openControl_cases sha256Hex s secret now
      · rw [hresult] at heq
        cases heq
        simp [replaces, Effect.closes] at hreplaces
      · rw [hresult] at heq
        obtain rfl : t = (Room.replaceControl now { s with secretHash := hash }).2 :=
          congrArg Prod.snd heq
        obtain rfl : effects = (Room.replaceControl now { s with secretHash := hash }).1 :=
          congrArg Prod.fst heq
        obtain ⟨a, ha⟩ := replaceControl_closes { s with secretHash := hash } hreplaces
        refine ⟨a, hkept a ha, fun id _ => ?_⟩
        obtain ⟨hphone, hdata, -⟩ := replaceControl_lost now { s with secretHash := hash } id
        exact ⟨hphone, hdata⟩
  | openData secret id' =>
      have hresult : s.openData sha256Hex secret id' = (effects, t) := Option.some.inj hstep
      obtain ⟨hash, ⟨status, body, heq⟩ | ⟨-, heq⟩⟩ := openData_cases sha256Hex s secret id'
      · rw [hresult] at heq
        cases heq
        simp [replaces, Effect.closes] at hreplaces
      · rw [hresult, replaceData_eq] at heq
        cases heq
        obtain ⟨effect, heffect, hcloses⟩ := List.any_eq_true.mp hreplaces
        rcases List.mem_append.mp heffect with heffect | heffect
        · rcases List.mem_append.mp heffect with heffect | heffect
          · obtain ⟨j, hj, rfl⟩ := List.mem_map.mp heffect
            obtain rfl : j = i := of_decide_eq_true hcloses
            refine ⟨.data id', hkept _ (getWebSockets_attachment (by simp) hj), ?_⟩
            rintro id ⟨⟩
          · rw [List.mem_singleton.mp heffect] at hcloses
            cases hcloses
        · obtain ⟨frame, -, rfl⟩ := List.mem_map.mp heffect
          cases hcloses
  | openPhone id' now => cases hreplaces
  | message j message now => cases hreplaces
  | dropped j => cases hreplaces
  | webSocketClose j code reason => cases hreplaces
  | webSocketError j => cases hreplaces
  | alarm now => cases hreplaces

lemma replacedIn (h : (relay sha256Hex).History history room)
    (hreplaced : ∃ e ∈ history, replaces i e = true) : ReplacedIn room i := by
  induction h with
  | start => simp at hreplaced
  | @step history s t event effects hhistory hstep ih =>
      obtain ⟨e, he, hreplaces⟩ := hreplaced
      rcases List.mem_append.mp he with he | he
      · obtain ⟨a, ha, hclosed⟩ := ih ⟨e, he, hreplaces⟩
        refine ⟨a, step_attachment hstep ha, fun id hid => ?_⟩
        exact lineStep_closed (step_line hhistory.reachable hstep id) ⟨i, hid ▸ ha⟩ (hclosed id hid)
      · rw [List.mem_singleton.mp he] at hreplaces
        exact replacedIn_of_replaces hstep hreplaces

lemma mem_closing_open {j : ℕ} (h : j ∈ closing room i) : ∃ a, OpenIn room.sockets j a := by
  have hopen : ∀ {tag : Tag}, j ∈ room.getWebSockets tag → ∃ a, OpenIn room.sockets j a := by
    intro tag hj
    obtain ⟨a, hj, -⟩ := mem_getWebSockets.mp hj
    exact ⟨a, hj⟩
  unfold closing at h
  split at h
  · split at h
    · cases h
    · rcases List.mem_append.mp h with h | h
      · exact hopen h
      · exact hopen h
  · exact hopen h
  · exact hopen h
  · cases h
  · cases h

lemma harmless_iff_quiet {code : ℕ} {reason : String}
    (hcloses : ∀ j, j ≠ i → ((∃ effect ∈ e.answer, effect.closes j = true) ↔
      j ∈ closing (e.before.finish i) i))
    (hsockets : ∀ j a, j ≠ i → (OpenIn e.after.sockets j a ↔
      OpenIn ((e.before.finish i).closed i code reason).2.sockets j a))
    (hbuffers : e.after.buffers = ((e.before.finish i).closed i code reason).2.buffers) :
    Harmless i e ↔ closing (e.before.finish i) i = [] ∧
      ((e.before.finish i).closed i code reason).2.buffers = (e.before.finish i).buffers := by
  constructor
  · intro h
    refine ⟨List.eq_nil_iff_forall_not_mem.mpr fun j hj => ?_, hbuffers.symm.trans h.buffers⟩
    obtain ⟨a, hopen⟩ := mem_closing_open hj
    have hne : j ≠ i := (openIn_finish.mp hopen).2
    obtain ⟨effect, heffect, hclose⟩ := (hcloses j hne).mpr hj
    exact hne (h.closes effect heffect j hclose)
  · rintro ⟨hnone, hkept⟩
    refine ⟨fun effect heffect j hclose => ?_, fun j a hne hopen => ?_, hbuffers.trans hkept⟩
    · by_contra hne
      have hmem := (hcloses j hne).mp ⟨effect, heffect, hclose⟩
      rw [hnone] at hmem
      cases hmem
    · rw [hsockets j a hne, closed_sockets, hnone, openIn_shut, openIn_finish]
      exact ⟨⟨hopen, hne⟩, List.not_mem_nil⟩

lemma closes_answered {j code code' : ℕ} {reason reason' : String} (hne : j ≠ i) :
    (∃ effect ∈ (room.closed i code reason).1 ++ [Effect.close i code' reason'],
      effect.closes j = true) ↔ j ∈ closing room i := by
  rw [← closed_closes code reason]
  simp only [List.mem_append, List.mem_singleton, or_and_right, exists_or, exists_eq_left]
  refine or_iff_left fun h => hne ?_
  exact (of_decide_eq_true h).symm

lemma late_close_iff (h : (relay sha256Hex).History history s)
    (hreplaced : ∃ e ∈ history, replaces i e = true)
    (hstep : (relay sha256Hex).step s event = some (effects, t)) (hends : event.ends = some i) :
    Harmless i ⟨s, event, effects, t⟩ ↔ LateCloseSafe s i := by
  obtain ⟨a, ha, hclosed⟩ := replacedIn h hreplaced
  have hdata : ∀ id, (s.finish i).attachment i = some (.phone id) → ¬dataOpen (s.finish i) id := by
    intro id hphone
    rw [finish_attachment, ha] at hphone
    rintro ⟨j, hj⟩
    exact (hclosed id (Option.some.inj hphone)).2 ⟨j, (openIn_finish.mp hj).1⟩
  rw [← lateCloseSafe_finish]
  cases event with
  | webSocketClose j code reason =>
      cases hends
      cases (Option.ite_none_right_eq_some.mp hstep).2
      rw [← closed_quiet_iff code reason hdata]
      refine harmless_iff_quiet (fun j hne => closes_answered hne) (fun j a hne => ?_) rfl
      refine openIn_shut.trans (and_iff_left ?_)
      simpa using hne
  | webSocketError j =>
      cases hends
      have hresult : (s.finish i).closed i 1011 "" = (effects, t) :=
        Option.some.inj (Option.ite_none_right_eq_some.mp hstep).2
      obtain rfl := congrArg Prod.fst hresult
      obtain rfl := congrArg Prod.snd hresult
      rw [← closed_quiet_iff 1011 "" hdata]
      exact harmless_iff_quiet (fun j hne => closed_closes 1011 "" _ i j) (fun j a hne => Iff.rfl) rfl
  | openControl secret now => cases hends
  | openPhone id now => cases hends
  | openData secret id => cases hends
  | message j message now => cases hends
  | dropped j => cases hends
  | alarm now => cases hends

/-- In every run, the late closes are harmless exactly when each of them is safe. -/
theorem late_closes_harmless_iff (h : (relay sha256Hex).History history room) :
    (∀ i before e, LateClose history i before e → Harmless i e) ↔
      ∀ i before e, LateClose history i before e → LateCloseSafe e.before i := by
  have hiff : ∀ i before e, LateClose history i before e →
      (Harmless i e ↔ LateCloseSafe e.before i) := by
    rintro i before e ⟨⟨after, rfl⟩, hends, hreplaced⟩
    obtain ⟨hbefore, hstep⟩ := h.split
    exact late_close_iff hbefore hreplaced hstep hends
  constructor
  · intro hharmless i before e hlate
    exact (hiff i before e hlate).mp (hharmless i before e hlate)
  · intro hsafe i before e hlate
    exact (hiff i before e hlate).mpr (hsafe i before e hlate)

def demoReplaced : List (System.Taken Room Event (List Effect)) × Room :=
  demoRelay.record [.openControl demoSecret 0, .openPhone "a" 1, .openData demoSecret "a",
    .openData demoSecret "a"]

theorem replaced_data_closes_phone :
    ∃ history room, demoRelay.History history room ∧
      ¬∀ i before e, LateClose history i before e → Harmless i e := by
  have heffects : (demoRelay.step demoReplaced.2 (.webSocketClose 2 4609 "replaced")).map Prod.fst =
      some [.close 1 4609 "replaced", .close 2 4609 "replaced"] := by decide +kernel
  have hreplaced : demoReplaced.1.any (replaces 2) = true := by decide +kernel
  obtain ⟨⟨effects, room⟩, hstep, heq⟩ := Option.map_eq_some_iff.mp heffects
  subst heq
  have hhistory : demoRelay.History demoReplaced.1 demoReplaced.2 := demoRelay.history_record _
  refine ⟨_, room, hhistory.step hstep, fun h => ?_⟩
  have hharmless := h 2 _ _ ⟨⟨[], rfl⟩, rfl, List.any_eq_true.mp hreplaced⟩
  exact absurd (hharmless.closes _ (List.mem_cons_self ..) 1 rfl) (by decide)

def demoControls : List Event :=
  [.openControl demoSecret 0, .openControl demoSecret 1, .webSocketClose 0 4609 "replaced"]

theorem late_closes_harmless_demo :
    (∀ i before e, LateClose (demoRelay.record demoControls).1 i before e → Harmless i e) ↔
      ∀ i before e, LateClose (demoRelay.record demoControls).1 i before e →
        LateCloseSafe e.before i :=
  late_closes_harmless_iff (demoRelay.history_record demoControls)

end DevCommandCenter.Relay
