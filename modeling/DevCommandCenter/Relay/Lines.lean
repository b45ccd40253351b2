import DevCommandCenter.Relay.Sockets

/-! What one event of the room does to the line of one connection id: its phone, its data connection
and the frames that wait between them. -/

namespace DevCommandCenter.Relay

open Library

abbrev Entry := System.Taken Room Event (List Effect)

def Effect.frameTo (room : Room) (a : Attachment) : Effect → Option Frame
  | .send j (.binary frame) => if room.attachment j = some a then some frame else none
  | _ => none

def delivered (a : Attachment) (e : Entry) : List Frame :=
  e.answer.filterMap (Effect.frameTo e.after a)

def sent (a : Attachment) (e : Entry) : List Frame :=
  match e.action with
  | .message i (.binary frame) _ => if e.before.attachment i = some a then [frame] else []
  | _ => []

def Effect.limits (i : ℕ) : Effect → Bool
  | .close j code _ =>
      j = i && (code = RelayClose.frameTooLarge || code = RelayClose.rateLimited)
  | _ => false

def limits (id : String) (e : Entry) : Bool :=
  match e.action with
  | .message i _ _ =>
      decide (e.before.attachment i = some (.phone id)) && e.answer.any (Effect.limits i)
  | _ => false

def phoneOpen (room : Room) (id : String) : Prop :=
  ∃ i, OpenIn room.sockets i (.phone id)

def dataOpen (room : Room) (id : String) : Prop :=
  ∃ i, OpenIn room.sockets i (.data id)

def used (room : Room) (id : String) : Prop :=
  ∃ i, room.attachment i = some (.phone id)

structure Shrinks (id : String) (s t : Room) : Prop where
  phone : phoneOpen t id → phoneOpen s id
  data : dataOpen t id → dataOpen s id
  waiting : t.waiting id = s.waiting id ∨
    t.waiting id = [] ∧ ¬phoneOpen t id ∧ ¬dataOpen t id

inductive LineStep (id : String) (e : Entry) : Prop
  | still : sent (.phone id) e = [] → delivered (.data id) e = [] → limits id e = false →
      Shrinks id e.before e.after → LineStep id e
  | connected : ¬used e.before id → sent (.phone id) e = [] → delivered (.data id) e = [] →
      limits id e = false → (dataOpen e.after id → dataOpen e.before id) →
      e.after.waiting id = e.before.waiting id → LineStep id e
  | opened : phoneOpen e.before id → sent (.phone id) e = [] →
      delivered (.data id) e = e.before.waiting id → limits id e = false →
      e.after.waiting id = [] → LineStep id e
  | forwarded (frame : Frame) : used e.before id → dataOpen e.before id →
      sent (.phone id) e = [frame] → delivered (.data id) e = [frame] → limits id e = false →
      Shrinks id e.before e.after → e.after.waiting id = e.before.waiting id → LineStep id e
  | kept (frame : Frame) : used e.before id → ¬dataOpen e.before id → sent (.phone id) e = [frame] →
      delivered (.data id) e = [] → limits id e = false →
      (phoneOpen e.after id → phoneOpen e.before id) → ¬dataOpen e.after id →
      e.after.waiting id = e.before.waiting id ++ [frame] → LineStep id e
  | limited (frame : Frame) : used e.before id → sent (.phone id) e = [frame] →
      delivered (.data id) e = [] → limits id e = true → Shrinks id e.before e.after →
      ¬phoneOpen e.after id → e.after.waiting id = e.before.waiting id → LineStep id e

variable {room s t : Room} {i : ℕ} {id : String} {a : Attachment}

lemma Shrinks.refl (id : String) (room : Room) : Shrinks id room room :=
  ⟨fun h => h, fun h => h, .inl rfl⟩

lemma Shrinks.trans {u : Room} (h : Shrinks id s t) (h' : Shrinks id t u) : Shrinks id s u := by
  refine ⟨fun hu => h.phone (h'.phone hu), fun hu => h.data (h'.data hu), ?_⟩
  rcases h'.waiting with hwaiting' | hlost
  · rcases h.waiting with hwaiting | ⟨hwaiting, hphone, hdata⟩
    · exact .inl (hwaiting'.trans hwaiting)
    · exact .inr ⟨hwaiting'.trans hwaiting, fun hu => hphone (h'.phone hu),
        fun hu => hdata (h'.data hu)⟩
  · exact .inr hlost

lemma Shrinks.of_open (hopen : ∀ i a, OpenIn t.sockets i a → OpenIn s.sockets i a)
    (hbuffers : t.buffers = s.buffers) : Shrinks id s t :=
  ⟨fun ⟨i, hi⟩ => ⟨i, hopen i _ hi⟩, fun ⟨i, hi⟩ => ⟨i, hopen i _ hi⟩,
    .inl (by rw [Room.waiting, Room.waiting, hbuffers])⟩

lemma shrinks_shut (closing : List ℕ) : Shrinks id room (room.shut closing) :=
  .of_open (fun _ _ h => (openIn_shut.mp h).1) rfl

lemma shrinks_finish (i : ℕ) : Shrinks id room (room.finish i) :=
  .of_open (fun _ _ h => (openIn_finish.mp h).1) rfl

lemma shrinks_accept (hphone : a ≠ .phone id) (hdata : a ≠ .data id) :
    Shrinks id room (room.accept a).2 := by
  refine ⟨?_, ?_, .inl rfl⟩
  · rintro ⟨i, hi⟩
    rcases openIn_accept.mp hi with hi | ⟨-, heq⟩
    · exact ⟨i, hi⟩
    · exact absurd heq.symm hphone
  · rintro ⟨i, hi⟩
    rcases openIn_accept.mp hi with hi | ⟨-, heq⟩
    · exact ⟨i, hi⟩
    · exact absurd heq.symm hdata

lemma used_of_phoneOpen (h : phoneOpen room id) : used room id := by
  obtain ⟨i, hi⟩ := h
  exact ⟨i, hi.attachment⟩

lemma phoneOpen_iff : phoneOpen room id ↔ room.getWebSockets (.phone id) ≠ [] := by
  rw [Ne, getWebSockets_eq_nil]
  simp [phoneOpen]

lemma dataOpen_iff : dataOpen room id ↔ room.getWebSockets (.data id) ≠ [] := by
  rw [Ne, getWebSockets_eq_nil]
  simp [dataOpen]

lemma not_open_shut_all {closing : List ℕ} (h : ∀ i ∈ room.getWebSockets .phones ++
    room.getWebSockets .datas, i ∈ closing) (id : String) :
    ¬phoneOpen (room.shut closing) id ∧ ¬dataOpen (room.shut closing) id := by
  constructor
  · rintro ⟨i, hi⟩
    obtain ⟨hopen, hnot⟩ := openIn_shut.mp hi
    exact hnot (h i (List.mem_append_left _ (mem_getWebSockets.mpr ⟨_, hopen, by simp⟩)))
  · rintro ⟨i, hi⟩
    obtain ⟨hopen, hnot⟩ := openIn_shut.mp hi
    exact hnot (h i (List.mem_append_right _ (mem_getWebSockets.mpr ⟨_, hopen, by simp⟩)))

lemma waiting_erase (id id' : String) (room : Room) :
    Room.waiting { room with buffers := room.buffers.erase id' } id =
      if id = id' then [] else room.waiting id := by
  unfold Room.waiting
  dsimp only
  rw [Table.lookup_erase_eq]
  split <;> rfl

lemma shrinks_closed {code : ℕ} {reason : String}
    (hgone : ∀ id, room.attachment i = some (.phone id) → ¬phoneOpen room id) :
    Shrinks id room (room.closed i code reason).2 := by
  unfold Room.closed
  split
  · exact .refl id room
  · exact .refl id room
  · split
    · exact .refl id room
    · obtain ⟨hphone, hdata⟩ := @not_open_shut_all room _ (fun i hi => hi) id
      exact ⟨fun h => absurd h hphone, fun h => absurd h hdata, .inr ⟨rfl, hphone, hdata⟩⟩
  · next id' hattachment =>
    refine ⟨fun ⟨j, hj⟩ => ⟨j, (openIn_shut.mp hj).1⟩, fun ⟨j, hj⟩ => ⟨j, (openIn_shut.mp hj).1⟩, ?_⟩
    by_cases hid : id = id'
    · subst hid
      refine .inr ⟨?_, fun ⟨j, hj⟩ => hgone id hattachment ⟨j, (openIn_shut.mp hj).1⟩, ?_⟩
      · exact (waiting_erase id id room).trans (if_pos rfl)
      · rintro ⟨j, hj⟩
        obtain ⟨hopen, hnot⟩ := openIn_shut.mp hj
        exact hnot (mem_getWebSockets.mpr ⟨_, hopen, by simp⟩)
    · exact .inl ((waiting_erase id id' room).trans (if_neg hid))
  · exact shrinks_shut _

section Attachments

variable {sha256Hex : String → String} {event : Event} {effects : List Effect}

@[simp] lemma closed_attachment {code : ℕ} {reason : String} (j : ℕ) :
    (room.closed i code reason).2.attachment j = room.attachment j := by
  unfold Room.closed
  split
  · rfl
  · rfl
  · split
    · rfl
    · exact @shut_attachment room _ j
  · exact @shut_attachment room _ j
  · exact @shut_attachment room _ j

@[simp] lemma bufferFrame_attachment {frame : Frame} (j : ℕ) :
    (room.bufferFrame i id frame).2.attachment j = room.attachment j := by
  unfold Room.bufferFrame
  dsimp only
  split
  · exact shut_attachment _ j
  · rfl

@[simp] lemma fromPhone_attachment {frame : Frame} {now : ℤ} (j : ℕ) :
    (room.fromPhone i id frame now).2.attachment j = room.attachment j := by
  unfold Room.fromPhone
  dsimp only
  split
  · exact @shut_attachment room _ j
  · split
    · rfl
    · exact @bufferFrame_attachment { room with buckets := _ } _ _ _ j

@[simp] lemma webSocketMessage_attachment {message : Message} {now : ℤ} (j : ℕ) :
    (room.webSocketMessage i message now).2.attachment j = room.attachment j := by
  have htake : ∀ forward : Frame → Room → List Effect × Room,
      (∀ frame, (forward frame room).2.attachment j = room.attachment j) →
      (room.takeMessage i message forward).2.attachment j = room.attachment j := by
    intro forward hforward
    unfold Room.takeMessage
    split
    · exact shut_attachment _ j
    · split
      · exact shut_attachment _ j
      · exact hforward _
  unfold Room.webSocketMessage
  split
  · rfl
  · rfl
  · rfl
  · exact htake _ fun frame => fromPhone_attachment j
  · exact htake _ fun frame => rfl

def Accepts (s t : Room) (b : Attachment) : Prop :=
  (∀ i a, t.attachment i = some a ↔ s.attachment i = some a ∨ (i = s.sockets.length ∧ a = b)) ∧
    ∀ id, b = .phone id → ∀ socket ∈ s.sockets, socket.attachment.id? ≠ some id

lemma accepts_of_accept (u : Room) {b : Attachment}
    (hattachment : ∀ i, u.attachment i = s.attachment i)
    (hlength : u.sockets.length = s.sockets.length)
    (ht : ∀ i, t.attachment i = (u.accept b).2.attachment i)
    (hnew : ∀ id, b = .phone id → ∀ socket ∈ s.sockets, socket.attachment.id? ≠ some id) :
    Accepts s t b := by
  refine ⟨fun i a => ?_, hnew⟩
  rw [ht, accept_attachment, hattachment, hlength]

lemma checkSecret_room (sha256Hex : String → String) (secret : Option String) (register : Bool)
    (room : Room) :
    ∃ hash, (room.checkSecret sha256Hex secret register).2 = { room with secretHash := hash } := by
  unfold Room.checkSecret
  dsimp only
  split
  · exact ⟨room.secretHash, rfl⟩
  · split
    · split
      · exact ⟨room.secretHash, rfl⟩
      · exact ⟨_, rfl⟩
    · exact ⟨room.secretHash, rfl⟩

lemma openControl_cases (sha256Hex : String → String) (room : Room) (secret : Option String)
    (now : ℤ) : ∃ hash, room.openControl sha256Hex secret now =
        ([.respond 403 "forbidden"], { room with secretHash := hash }) ∨
      room.openControl sha256Hex secret now =
        Room.replaceControl now { room with secretHash := hash } := by
  obtain ⟨hash, hroom⟩ := checkSecret_room sha256Hex secret true room
  refine ⟨hash, ?_⟩
  unfold Room.openControl
  dsimp only
  rw [hroom]
  split
  · exact .inl rfl
  · exact .inr rfl

lemma openData_cases (sha256Hex : String → String) (room : Room) (secret : Option String)
    (id : String) : ∃ hash, (∃ status body, room.openData sha256Hex secret id =
        ([.respond status body], { room with secretHash := hash })) ∨
      phoneOpen room id ∧ room.openData sha256Hex secret id =
        Room.replaceData id { room with secretHash := hash } := by
  obtain ⟨hash, hroom⟩ := checkSecret_room sha256Hex secret false room
  refine ⟨hash, ?_⟩
  unfold Room.openData
  dsimp only
  rw [hroom]
  split
  · exact .inl ⟨_, _, rfl⟩
  · split
    · exact .inl ⟨_, _, rfl⟩
    · next hphone =>
      refine .inr ⟨phoneOpen_iff.mpr fun hnil => hphone ?_, rfl⟩
      exact (congrArg List.length hnil).trans rfl

lemma openPhone_cases (room : Room) (id : String) (now : ℤ) :
    (∃ code reason, room.openPhone id now = room.reject code reason) ∨
      ∃ control buckets, control ∈ room.getWebSockets .control ∧ room.openPhone id now =
        ([.accept room.sockets.length, .send control (Room.notice "connected" id)],
          { (room.accept (.phone id)).2 with buckets := buckets }) := by
  unfold Room.openPhone
  split
  · exact .inl ⟨_, _, rfl⟩
  · next control others hcontrol =>
    split
    · exact .inl ⟨_, _, rfl⟩
    · exact .inr ⟨control, _, by rw [hcontrol]; exact List.mem_cons_self .., rfl⟩

lemma reject_accepts (code : ℕ) (reason : String) (room : Room) :
    Accepts room (room.reject code reason).2 .rejected := by
  refine accepts_of_accept room (fun i => rfl) rfl (fun i => ?_) (by rintro id ⟨⟩)
  exact shut_attachment _ i

lemma replaceControl_accepts (now : ℤ) (room : Room) :
    Accepts room (room.replaceControl now).2 .control := by
  let shut := (room.shut (room.getWebSockets .control))
  refine accepts_of_accept (shut.shut (shut.getWebSockets .phones ++ shut.getWebSockets .datas))
    (fun i => ?_) ?_ (fun i => rfl) (by rintro id ⟨⟩)
  · rw [shut_attachment, shut_attachment]
  · rw [shut_length, shut_length]

lemma replaceData_accepts (id : String) (room : Room) :
    Accepts room (room.replaceData id).2 (.data id) := by
  refine accepts_of_accept (room.shut (room.getWebSockets (.data id))) (fun i => ?_) ?_
    (fun i => rfl) (by rintro id' ⟨⟩)
  · rw [shut_attachment]
  · rw [shut_length]

lemma alarm_attachment (now : ℤ) (room : Room) (i : ℕ) :
    (room.alarm now).2.attachment i = room.attachment i := by
  unfold Room.alarm
  dsimp only
  split
  · rfl
  · split <;> rfl

lemma step_attachments (hstep : (relay sha256Hex).step s event = some (effects, t)) :
    (∀ i, t.attachment i = s.attachment i) ∨ ∃ b, Accepts s t b := by
  have hroom : ∀ {result : List Effect × Room}, some result = some (effects, t) → t = result.2 :=
    fun h => (congrArg Prod.snd (Option.some.inj h)).symm
  have hguard : ∀ {p : Prop} [Decidable p] {result : Option (List Effect × Room)},
      (if p then result else none) = some (effects, t) → result = some (effects, t) :=
    fun h => (Option.ite_none_right_eq_some.mp h).2
  cases event with
  | openControl secret now =>
      obtain rfl := hroom hstep
      obtain ⟨hash, heq | heq⟩ := openControl_cases sha256Hex s secret now
      · exact .inl fun i => by rw [heq]; rfl
      · exact .inr ⟨.control, by rw [heq]; exact replaceControl_accepts now _⟩
  | openPhone id now =>
      obtain ⟨hnew, hopened⟩ := Option.ite_none_left_eq_some.mp hstep
      obtain rfl := hroom hopened
      obtain ⟨code, reason, heq⟩ | ⟨control, buckets, -, heq⟩ := openPhone_cases s id now
      · exact .inr ⟨.rejected, by rw [heq]; exact reject_accepts code reason s⟩
      · refine .inr ⟨.phone id, ?_⟩
        rw [heq]
        refine accepts_of_accept s (fun i => rfl) rfl (fun i => rfl) ?_
        rintro id' ⟨⟩ socket hsocket hid
        exact hnew (List.any_eq_true.mpr ⟨socket, hsocket, decide_eq_true hid⟩)
  | openData secret id =>
      obtain rfl := hroom hstep
      obtain ⟨hash, ⟨status, body, heq⟩ | ⟨-, heq⟩⟩ := openData_cases sha256Hex s secret id
      · exact .inl fun i => by rw [heq]; rfl
      · exact .inr ⟨.data id, by rw [heq]; exact replaceData_accepts id _⟩
  | message i message now =>
      obtain rfl := hroom (hguard hstep)
      exact .inl fun j => webSocketMessage_attachment j
  | dropped i =>
      obtain rfl := hroom (hguard hstep)
      exact .inl fun j => shut_attachment [i] j
  | webSocketClose i code reason =>
      obtain rfl := hroom (hguard hstep)
      refine .inl fun j => ?_
      exact (shut_attachment [i] j).trans ((closed_attachment j).trans (finish_attachment j i))
  | webSocketError i =>
      obtain rfl := hroom (hguard hstep)
      exact .inl fun j => (closed_attachment j).trans (finish_attachment j i)
  | alarm now =>
      obtain rfl := hroom (hguard hstep)
      exact .inl fun j => alarm_attachment now s j

lemma step_attachment (hstep : (relay sha256Hex).step s event = some (effects, t))
    (h : s.attachment i = some a) : t.attachment i = some a := by
  rcases step_attachments hstep with hsame | ⟨b, haccepts, -⟩
  · rw [hsame, h]
  · exact (haccepts i a).mpr (.inl h)

lemma phone_unique (h : (relay sha256Hex).Reachable room) {i j : ℕ}
    (hi : room.attachment i = some (.phone id)) (hj : room.attachment j = some (.phone id)) :
    i = j := by
  induction h with
  | start => cases hi
  | @step s t event effects _ hstep ih =>
      rcases step_attachments hstep with hsame | ⟨b, haccepts, hnew⟩
      · rw [hsame] at hi hj
        exact ih hi hj
      · have hold : ∀ k, s.attachment k = some (.phone id) → b ≠ .phone id := by
          rintro k hk rfl
          obtain ⟨socket, hsocket, hattachment⟩ := Option.map_eq_some_iff.mp hk
          exact hnew id rfl socket (List.mem_of_getElem? hsocket) (by rw [hattachment]; rfl)
        rcases (haccepts i _).mp hi with hi | ⟨hi, hb⟩ <;>
          rcases (haccepts j _).mp hj with hj | ⟨hj, hb'⟩
        · exact ih hi hj
        · exact absurd hb'.symm (hold i hi)
        · exact absurd hb.symm (hold j hj)
        · rw [hi, hj]

end Attachments

section Steps

variable {sha256Hex : String → String} {event : Event} {effects : List Effect} {e : Entry}

lemma frameTo_eq_some {effect : Effect} {frame : Frame} :
    effect.frameTo room a = some frame ↔
      ∃ j, effect = .send j (.binary frame) ∧ room.attachment j = some a := by
  cases effect with
  | send j message => cases message <;> simp [Effect.frameTo, and_comm]
  | respond status body => simp [Effect.frameTo]
  | accept j => simp [Effect.frameTo]
  | close j code reason => simp [Effect.frameTo]

lemma delivered_eq_nil (h : ∀ j frame, .send j (.binary frame) ∈ e.answer →
    e.after.attachment j ≠ some a) : delivered a e = [] := by
  refine List.filterMap_eq_nil_iff.mpr fun effect heffect => ?_
  refine Option.eq_none_iff_forall_ne_some.mpr fun frame hframe => ?_
  obtain ⟨j, rfl, hj⟩ := frameTo_eq_some.mp hframe
  exact h j frame heffect hj

lemma sent_of_attachment {frame : Frame} {now : ℤ} (h : s.attachment i = some a) :
    sent a ⟨s, .message i (.binary frame) now, effects, t⟩ = [frame] := by
  simp [sent, h]

lemma getWebSockets_nodup (tag : Tag) : (room.getWebSockets tag).Nodup :=
  List.nodup_range.filter _

lemma getWebSockets_data_accepted (id : String) (room : Room) :
    ((room.shut (room.getWebSockets (.data id))).accept (.data id)).2.getWebSockets (.data id) =
      [room.sockets.length] := by
  refine List.perm_singleton.mp ((List.perm_ext_iff_of_nodup (getWebSockets_nodup _)
    (List.nodup_singleton _)).mpr fun i => ?_)
  rw [mem_getWebSockets, List.mem_singleton]
  simp only [openIn_accept, openIn_shut, shut_length, data_mem_tags, mem_getWebSockets]
  constructor
  · rintro ⟨_, ⟨hopen, hnot⟩ | ⟨hi, -⟩, rfl⟩
    · exact absurd ⟨_, hopen, rfl⟩ hnot
    · exact hi
  · rintro rfl
    exact ⟨_, .inr ⟨rfl, rfl⟩, rfl⟩

lemma replaceData_eq (id : String) (room : Room) : room.replaceData id =
    ((room.getWebSockets (.data id)).map (fun i => Effect.close i RelayClose.replaced
        (sliceReason "replaced")) ++ [.accept room.sockets.length] ++
      (room.waiting id).map fun frame => .send room.sockets.length (.binary frame),
      { ((room.shut (room.getWebSockets (.data id))).accept (.data id)).2 with
        buffers := room.buffers.erase id }) := by
  have hdata := getWebSockets_data_accepted id room
  unfold Room.replaceData Room.safeClose
  dsimp only
  rw [hdata]
  simp only [List.take_succ_cons, List.take_zero, List.flatMap_cons, List.flatMap_nil,
    List.append_nil]
  rw [Room.accept, shut_length]
  rfl

lemma replaceControl_lost (now : ℤ) (room : Room) (id : String) :
    ¬phoneOpen (room.replaceControl now).2 id ∧ ¬dataOpen (room.replaceControl now).2 id ∧
      (room.replaceControl now).2.waiting id = [] := by
  let shut := (room.shut (room.getWebSockets .control))
  obtain ⟨hphone, hdata⟩ := @not_open_shut_all shut _ (fun i hi => hi) id
  refine ⟨?_, ?_, rfl⟩
  · rintro ⟨i, hi⟩
    rcases openIn_accept.mp hi with hi | ⟨-, heq⟩
    · exact hphone ⟨i, hi⟩
    · cases heq
  · rintro ⟨i, hi⟩
    rcases openIn_accept.mp hi with hi | ⟨-, heq⟩
    · exact hdata ⟨i, hi⟩
    · cases heq

lemma fromPhone_cases (i : ℕ) (id : String) (frame : Frame) (now : ℤ) (room : Room) :
    ∃ buckets, (∃ reason, room.fromPhone i id frame now =
        Room.safeClose [i] RelayClose.rateLimited reason { room with buckets := buckets }) ∨
      (∃ data, OpenIn room.sockets data (.data id) ∧ room.fromPhone i id frame now =
        ([.send data (.binary frame)], { room with buckets := buckets })) ∨
      ∃ bytes, ¬dataOpen room id ∧ room.fromPhone i id frame now = ([], { room with
        buckets := buckets
        buffers := room.buffers.insert id
          { frames := room.waiting id ++ [frame], bytes := bytes } }) := by
  unfold Room.fromPhone
  dsimp only
  refine ⟨room.buckets.insert id (((room.buckets.lookup id).getD (Room.freshBucket now)).take now).2,
    ?_⟩
  split
  · exact .inl ⟨_, rfl⟩
  · split
    · next data others hdata =>
      have hmem : data ∈ room.getWebSockets (.data id) := by
        rw [show room.getWebSockets (.data id) = data :: others from hdata]
        exact List.mem_cons_self ..
      obtain ⟨a, hopen, htag⟩ := mem_getWebSockets.mp hmem
      rw [data_mem_tags] at htag
      subst htag
      exact .inr (.inl ⟨data, hopen, rfl⟩)
    · next hdata =>
      have hclosed : ¬dataOpen room id := fun hopen => dataOpen_iff.mp hopen hdata
      unfold Room.bufferFrame
      dsimp only
      split
      · exact .inl ⟨_, rfl⟩
      · refine .inr (.inr ⟨((room.buffers.lookup id).getD { frames := [], bytes := 0 }).bytes +
          frame.length, hclosed, ?_⟩)
        unfold Room.waiting
        cases room.buffers.lookup id <;> rfl

lemma lineStep_still (hsent : sent (.phone id) e = []) (hlimits : limits id e = false)
    (hquiet : ∀ j frame, Effect.send j (.binary frame) ∉ e.answer)
    (hshrinks : Shrinks id e.before e.after) : LineStep id e :=
  .still hsent (delivered_eq_nil fun j frame h => absurd h (hquiet j frame)) hlimits hshrinks

lemma openControl_sends (secret : Option String) (now : ℤ) (s : Room) (j : ℕ) (frame : Frame) :
    Effect.send j (.binary frame) ∉ (s.openControl sha256Hex secret now).1 := by
  obtain ⟨hash, heq | heq⟩ := openControl_cases sha256Hex s secret now
  · simp [heq]
  · simp [heq, Room.replaceControl, Room.safeClose, Room.accept]

lemma openPhone_sends (id : String) (now : ℤ) (s : Room) (j : ℕ) (frame : Frame) :
    Effect.send j (.binary frame) ∉ (s.openPhone id now).1 := by
  obtain ⟨code, reason, heq⟩ | ⟨control, buckets, -, heq⟩ := openPhone_cases s id now
  · simp [heq, Room.reject, Room.safeClose, Room.accept]
  · simp [heq, Room.notice]

lemma openControl_line (secret : Option String) (now : ℤ) (s : Room) (id : String) :
    LineStep id ⟨s, .openControl secret now, (s.openControl sha256Hex secret now).1,
      (s.openControl sha256Hex secret now).2⟩ := by
  refine lineStep_still rfl rfl (openControl_sends secret now s) ?_
  obtain ⟨hash, heq | heq⟩ := openControl_cases sha256Hex s secret now
  · rw [heq]
    exact .of_open (fun _ _ h => h) rfl
  · rw [heq]
    obtain ⟨hphone, hdata, hwaiting⟩ := replaceControl_lost now { s with secretHash := hash } id
    exact ⟨fun h => absurd h hphone, fun h => absurd h hdata, .inr ⟨hwaiting, hphone, hdata⟩⟩

lemma openPhone_line {id' : String} (now : ℤ)
    (hnew : ¬(s.sockets.any fun socket => socket.attachment.id? = some id') = true) (id : String) :
    LineStep id ⟨s, .openPhone id' now, (s.openPhone id' now).1, (s.openPhone id' now).2⟩ := by
  have hquiet := openPhone_sends id' now s
  obtain ⟨code, reason, heq⟩ | ⟨control, buckets, -, heq⟩ := openPhone_cases s id' now
  · rw [heq] at hquiet ⊢
    exact lineStep_still rfl rfl hquiet ((shrinks_accept (by simp) (by simp)).trans (shrinks_shut _))
  · rw [heq] at hquiet ⊢
    by_cases hid : id' = id
    · subst hid
      refine .connected ?_ rfl (delivered_eq_nil fun j frame h => absurd h (hquiet j frame)) rfl ?_ rfl
      · rintro ⟨i, hi⟩
        obtain ⟨socket, hsocket, hattachment⟩ := Option.map_eq_some_iff.mp hi
        refine hnew (List.any_eq_true.mpr ⟨socket, List.mem_of_getElem? hsocket, ?_⟩)
        rw [hattachment]
        exact decide_eq_true rfl
      · rintro ⟨i, hi⟩
        rcases openIn_accept.mp hi with hi | ⟨-, heq⟩
        · exact ⟨i, hi⟩
        · cases heq
    · refine lineStep_still rfl rfl hquiet ?_
      have hshrinks : Shrinks id s (s.accept (.phone id')).2 := shrinks_accept (by simpa using hid)
        (by simp)
      exact ⟨hshrinks.phone, hshrinks.data, .inl rfl⟩

lemma data_attachment (id : String) (room : Room) (buffers : Table String Buffer) :
    Room.attachment { ((room.shut (room.getWebSockets (.data id))).accept (.data id)).2 with
      buffers := buffers } room.sockets.length = some (.data id) := by
  refine accept_attachment.mpr (.inr ⟨?_, rfl⟩)
  rw [shut_length]

lemma delivered_flushed {action : Event} (id : String) (room : Room) :
    delivered (.data id) ⟨s, action,
      (room.getWebSockets (.data id)).map (fun i => Effect.close i RelayClose.replaced
        (sliceReason "replaced")) ++ [.accept room.sockets.length] ++
        (room.waiting id).map fun frame => .send room.sockets.length (.binary frame),
      { ((room.shut (room.getWebSockets (.data id))).accept (.data id)).2 with
        buffers := room.buffers.erase id }⟩ = room.waiting id := by
  have hclosed : ∀ l : List ℕ, l.filterMap ((Effect.frameTo
      { ((room.shut (room.getWebSockets (.data id))).accept (.data id)).2 with
        buffers := room.buffers.erase id } (.data id)) ∘ fun i => Effect.close i RelayClose.replaced
        (sliceReason "replaced")) = [] :=
    fun l => List.filterMap_eq_nil_iff.mpr fun i _ => rfl
  unfold delivered
  rw [List.filterMap_append, List.filterMap_append, List.filterMap_map, List.filterMap_map, hclosed]
  refine Eq.trans (List.filterMap_congr fun frame _ => ?_) List.filterMap_some
  exact if_pos (data_attachment id room _)

lemma openData_line (secret : Option String) (id' : String) (s : Room) (id : String) :
    LineStep id ⟨s, .openData secret id', (s.openData sha256Hex secret id').1,
      (s.openData sha256Hex secret id').2⟩ := by
  obtain ⟨hash, ⟨status, body, heq⟩ | ⟨hphone, heq⟩⟩ := openData_cases sha256Hex s secret id'
  · rw [heq]
    exact lineStep_still rfl rfl (by simp) (.of_open (fun _ _ h => h) rfl)
  · rw [heq, replaceData_eq]
    by_cases hid : id' = id
    · subst hid
      refine .opened hphone rfl (delivered_flushed id' _) rfl ?_
      exact (waiting_erase id' id' s).trans (if_pos rfl)
    · refine .still rfl (delivered_eq_nil fun j frame h => ?_) rfl ?_
      · simp only [List.mem_append, List.mem_map, List.mem_singleton, reduceCtorEq, and_false,
          exists_false, or_false, false_or, Effect.send.injEq, Message.binary.injEq] at h
        obtain ⟨frame', -, rfl, -⟩ := h
        rw [data_attachment]
        simpa using hid
      · have hshrinks : Shrinks id s ((s.shut (s.getWebSockets (.data id'))).accept (.data id')).2 :=
          (shrinks_shut _).trans (shrinks_accept (by simp) (by simpa using hid))
        exact ⟨hshrinks.phone, hshrinks.data,
          .inl ((waiting_erase id id' s).trans (if_neg (Ne.symm hid)))⟩

lemma message_line_other {message : Message} {now : ℤ} {e : Entry}
    (haction : e.action = .message i message now)
    (hother : e.before.attachment i ≠ some (.phone id))
    (hdelivered : ∀ j frame, .send j (.binary frame) ∈ e.answer →
      e.after.attachment j ≠ some (.data id))
    (hshrinks : Shrinks id e.before e.after) : LineStep id e := by
  refine .still ?_ (delivered_eq_nil hdelivered) ?_ hshrinks
  · unfold sent
    rw [haction]
    cases message with
    | text text => rfl
    | binary frame => exact if_neg hother
  · unfold limits
    rw [haction]
    exact Bool.and_eq_false_imp.mpr fun h => absurd (of_decide_eq_true h) hother

lemma refused_line {frame : Frame} {now : ℤ} {code : ℕ} {reason : String}
    (hreachable : (relay sha256Hex).Reachable s) (hphone : s.attachment i = some (.phone id))
    (hcode : code = RelayClose.frameTooLarge ∨ code = RelayClose.rateLimited)
    (hopen : t.sockets = (s.shut [i]).sockets) (hbuffers : t.buffers = s.buffers) :
    LineStep id ⟨s, .message i (.binary frame) now, [.close i code (sliceReason reason)], t⟩ := by
  have hshrinks : Shrinks id s t := .of_open (fun j a h => (openIn_shut.mp (hopen ▸ h)).1) hbuffers
  refine .limited frame ⟨i, hphone⟩ (sent_of_attachment hphone) (delivered_eq_nil (by simp)) ?_
    hshrinks ?_ ?_
  · simpa [limits, hphone, Effect.limits] using hcode
  · rintro ⟨j, hj⟩
    obtain ⟨hj, hnot⟩ := openIn_shut.mp (hopen ▸ hj)
    exact hnot (List.mem_singleton.mpr (phone_unique hreachable hj.attachment hphone))
  · rw [Room.waiting, Room.waiting, hbuffers]

lemma fromPhone_line {frame : Frame} {now : ℤ} (hreachable : (relay sha256Hex).Reachable s)
    (hphone : s.attachment i = some (.phone id)) :
    LineStep id ⟨s, .message i (.binary frame) now, (s.fromPhone i id frame now).1,
      (s.fromPhone i id frame now).2⟩ := by
  obtain ⟨buckets, ⟨reason, heq⟩ | ⟨data, hdata, heq⟩ | ⟨bytes, hdata, heq⟩⟩ :=
    fromPhone_cases i id frame now s
  · rw [heq]
    exact refused_line hreachable hphone (.inr rfl) rfl rfl
  · rw [heq]
    refine .forwarded frame ⟨i, hphone⟩ ⟨data, hdata⟩ (sent_of_attachment hphone) ?_ ?_
      (.of_open (fun _ _ h => h) rfl) rfl
    · exact List.filterMap_cons_some (if_pos hdata.attachment)
    · simp [limits, Effect.limits]
  · rw [heq]
    refine .kept frame ⟨i, hphone⟩ hdata (sent_of_attachment hphone) rfl ?_ (fun h => h) hdata ?_
    · simp [limits]
    · simp [Room.waiting]

lemma webSocketMessage_of_phone {message : Message} {now : ℤ}
    (h : s.attachment i = some (.phone id)) : s.webSocketMessage i message now =
      s.takeMessage i message fun frame => Room.fromPhone i id frame now := by
  unfold Room.webSocketMessage
  rw [h]

lemma webSocketMessage_of_data {message : Message} {now : ℤ}
    (h : s.attachment i = some (.data id)) : s.webSocketMessage i message now =
      s.takeMessage i message fun frame => Room.fromData id frame := by
  unfold Room.webSocketMessage
  rw [h]

lemma fromPhone_other {id' : String} (hid : id' ≠ id) (s : Room) (i : ℕ) (frame : Frame) (now : ℤ) :
    (∀ j frame', .send j (.binary frame') ∈ (s.fromPhone i id' frame now).1 →
      (s.fromPhone i id' frame now).2.attachment j ≠ some (.data id)) ∧
    Shrinks id s (s.fromPhone i id' frame now).2 := by
  obtain ⟨buckets, ⟨reason, heq⟩ | ⟨data, hdata, heq⟩ | ⟨bytes, hdata, heq⟩⟩ :=
    fromPhone_cases i id' frame now s
  · rw [heq]
    exact ⟨by simp [Room.safeClose], .of_open (fun j a h => (openIn_shut.mp h).1) rfl⟩
  · rw [heq]
    refine ⟨fun j frame' h => ?_, .of_open (fun _ _ h => h) rfl⟩
    cases List.mem_singleton.mp h
    intro hdata'
    cases hdata.attachment.symm.trans hdata'
    exact hid rfl
  · rw [heq]
    refine ⟨by simp, fun h => h, fun h => h, .inl ?_⟩
    simp [Room.waiting, Ne.symm hid]

lemma fromData_other (s : Room) (id id' : String) (frame : Frame) :
    (∀ j frame', .send j (.binary frame') ∈ (s.fromData id' frame).1 →
      (s.fromData id' frame).2.attachment j ≠ some (.data id)) ∧
    Shrinks id s (s.fromData id' frame).2 := by
  refine ⟨fun j frame' h hj => ?_, .refl id s⟩
  obtain ⟨phone, hphone, heq⟩ := List.mem_map.mp h
  cases heq
  obtain ⟨a, hopen, htag⟩ := mem_getWebSockets.mp hphone
  rw [phone_mem_tags] at htag
  subst htag
  cases hopen.attachment.symm.trans hj

lemma admit_other (message : Message) {forward : Frame → Room → List Effect × Room}
    (hforward : ∀ frame, (∀ j frame', .send j (.binary frame') ∈ (forward frame s).1 →
      (forward frame s).2.attachment j ≠ some (.data id)) ∧ Shrinks id s (forward frame s).2) :
    (∀ j frame, .send j (.binary frame) ∈ (s.takeMessage i message forward).1 →
      (s.takeMessage i message forward).2.attachment j ≠ some (.data id)) ∧
    Shrinks id s (s.takeMessage i message forward).2 := by
  unfold Room.takeMessage
  split
  · exact ⟨by simp [Room.safeClose], shrinks_shut _⟩
  · split
    · exact ⟨by simp [Room.safeClose], shrinks_shut _⟩
    · exact hforward _

lemma message_line {message : Message} {now : ℤ} (hreachable : (relay sha256Hex).Reachable s)
    (id : String) : LineStep id ⟨s, .message i message now, (s.webSocketMessage i message now).1,
      (s.webSocketMessage i message now).2⟩ := by
  have hnothing : s.webSocketMessage i message now = ([], s) →
      s.attachment i ≠ some (.phone id) → LineStep id ⟨s, .message i message now,
        (s.webSocketMessage i message now).1, (s.webSocketMessage i message now).2⟩ := by
    intro heq hother
    rw [heq]
    exact message_line_other rfl hother (by simp) (.refl id s)
  cases hattachment : s.attachment i with
  | none => exact hnothing (by simp [Room.webSocketMessage, hattachment]) (by simp [hattachment])
  | some attachment =>
      cases attachment with
      | control => exact hnothing (by simp [Room.webSocketMessage, hattachment]) (by simp [hattachment])
      | rejected =>
          exact hnothing (by simp [Room.webSocketMessage, hattachment]) (by simp [hattachment])
      | data id' =>
          rw [webSocketMessage_of_data hattachment]
          obtain ⟨hdelivered, hshrinks⟩ := admit_other (i := i) message fun frame =>
            fromData_other s id id' frame
          exact message_line_other rfl (by simp [hattachment]) hdelivered hshrinks
      | phone id' =>
          rw [webSocketMessage_of_phone hattachment]
          by_cases hid : id' = id
          · subst hid
            cases message with
            | text text =>
                refine lineStep_still rfl ?_ (by simp [Room.takeMessage, Room.safeClose]) (shrinks_shut [i])
                simp [limits, Room.takeMessage, Room.safeClose, Effect.limits, RelayClose.badFrame,
                  RelayClose.frameTooLarge, RelayClose.rateLimited]
            | binary frame =>
                unfold Room.takeMessage
                dsimp only
                split
                · exact refused_line hreachable hattachment (.inl rfl) rfl rfl
                · exact fromPhone_line hreachable hattachment
          · obtain ⟨hdelivered, hshrinks⟩ := admit_other (i := i) message fun frame =>
              fromPhone_other hid s i frame now
            exact message_line_other rfl (by simpa [hattachment] using hid) hdelivered hshrinks

lemma closed_sends {code : ℕ} {reason : String} (i : ℕ) (room : Room) (j : ℕ) (frame : Frame) :
    Effect.send j (.binary frame) ∉ (room.closed i code reason).1 := by
  unfold Room.closed
  split
  · simp
  · simp
  · split <;> simp [Room.safeClose]
  · simp [Room.safeClose, Room.notice]
  · simp [Room.safeClose]

lemma webSocketClose_sends (i code : ℕ) (reason : String) (room : Room) (j : ℕ) (frame : Frame) :
    Effect.send j (.binary frame) ∉ (room.webSocketClose i code reason).1 := by
  intro h
  rcases List.mem_append.mp h with h | h
  · exact closed_sends i room j frame h
  · simp at h

lemma shrinks_ended {code : ℕ} {reason : String} (hreachable : (relay sha256Hex).Reachable s)
    (i : ℕ) (id : String) : Shrinks id s ((s.finish i).closed i code reason).2 := by
  refine (shrinks_finish i).trans (shrinks_closed fun id' hphone => ?_)
  rw [finish_attachment] at hphone
  rintro ⟨j, hj⟩
  obtain ⟨hj, hne⟩ := openIn_finish.mp hj
  exact hne (phone_unique hreachable hj.attachment hphone)

lemma alarm_effects (now : ℤ) (s : Room) : (s.alarm now).1 = [] := by
  unfold Room.alarm
  dsimp only
  split
  · rfl
  · split <;> rfl

lemma alarm_line (now : ℤ) (s : Room) (id : String) :
    LineStep id ⟨s, .alarm now, (s.alarm now).1, (s.alarm now).2⟩ := by
  have hroom : (s.alarm now).2.sockets = s.sockets ∧ (s.alarm now).2.buffers = s.buffers := by
    unfold Room.alarm
    dsimp only
    split
    · exact ⟨rfl, rfl⟩
    · split <;> exact ⟨rfl, rfl⟩
  refine lineStep_still rfl rfl (by simp [alarm_effects]) (.of_open (fun i a h => ?_) hroom.2)
  exact hroom.1 ▸ h

theorem step_line (hreachable : (relay sha256Hex).Reachable s)
    (hstep : (relay sha256Hex).step s event = some (effects, t)) (id : String) :
    LineStep id ⟨s, event, effects, t⟩ := by
  have hresult : ∀ {result : List Effect × Room}, some result = some (effects, t) →
      LineStep id ⟨s, event, result.1, result.2⟩ → LineStep id ⟨s, event, effects, t⟩ := by
    intro result hresult hline
    cases hresult
    exact hline
  have hguard : ∀ {p : Prop} [Decidable p] {result : Option (List Effect × Room)},
      (if p then result else none) = some (effects, t) → result = some (effects, t) :=
    fun h => (Option.ite_none_right_eq_some.mp h).2
  cases event with
  | openControl secret now => exact hresult hstep (openControl_line secret now s id)
  | openPhone id' now =>
      obtain ⟨hnew, hopened⟩ := Option.ite_none_left_eq_some.mp hstep
      exact hresult hopened (openPhone_line now hnew id)
  | openData secret id' => exact hresult hstep (openData_line secret id' s id)
  | message i message now => exact hresult (hguard hstep) (message_line hreachable id)
  | dropped i =>
      exact hresult (hguard hstep) (lineStep_still rfl rfl (by simp) (shrinks_shut [i]))
  | webSocketClose i code reason =>
      exact hresult (hguard hstep) (lineStep_still rfl rfl (webSocketClose_sends i code reason _)
        ((shrinks_ended hreachable i id).trans (shrinks_shut [i])))
  | webSocketError i =>
      exact hresult (hguard hstep) (lineStep_still rfl rfl (closed_sends i _)
        (shrinks_ended hreachable i id))
  | alarm now => exact hresult (hguard hstep) (alarm_line now s id)

end Steps

end DevCommandCenter.Relay
