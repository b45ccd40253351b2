import DevCommandCenter.Relay.Room

/-! Which sockets are open after each operation of the room. -/

namespace DevCommandCenter.Relay

open Library

def OpenIn (sockets : List Socket) (i : ℕ) (a : Attachment) : Prop :=
  ∃ socket, sockets[i]? = some socket ∧ socket.isOpen = true ∧ socket.attachment = a

variable {room : Room} {i j : ℕ} {a b : Attachment} {id : String}

@[simp] lemma control_mem_tags : Tag.control ∈ a.tags ↔ a = .control := by
  cases a <;> simp [Attachment.tags]

@[simp] lemma phones_mem_tags : Tag.phones ∈ a.tags ↔ ∃ id, a = .phone id := by
  cases a <;> simp [Attachment.tags]

@[simp] lemma phone_mem_tags : Tag.phone id ∈ a.tags ↔ a = .phone id := by
  cases a <;> simp [Attachment.tags, eq_comm]

@[simp] lemma datas_mem_tags : Tag.datas ∈ a.tags ↔ ∃ id, a = .data id := by
  cases a <;> simp [Attachment.tags]

@[simp] lemma data_mem_tags : Tag.data id ∈ a.tags ↔ a = .data id := by
  cases a <;> simp [Attachment.tags, eq_comm]

lemma mem_getWebSockets {tag : Tag} :
    i ∈ room.getWebSockets tag ↔ ∃ a, OpenIn room.sockets i a ∧ tag ∈ a.tags := by
  unfold Room.getWebSockets OpenIn
  rw [List.mem_filter, List.mem_range]
  constructor
  · rintro ⟨hlt, hopen⟩
    rw [List.getElem?_eq_getElem hlt] at hopen ⊢
    simp only [Option.any_some, Bool.and_eq_true, decide_eq_true_eq] at hopen
    exact ⟨_, ⟨_, rfl, hopen.1, rfl⟩, hopen.2⟩
  · rintro ⟨a, ⟨socket, hsocket, hopen, rfl⟩, htag⟩
    refine ⟨(List.getElem?_eq_some_iff.mp hsocket).1, ?_⟩
    rw [hsocket, Option.any_some, hopen, decide_eq_true htag]
    rfl

lemma getWebSockets_eq_nil {tag : Tag} :
    room.getWebSockets tag = [] ↔ ∀ i a, OpenIn room.sockets i a → tag ∉ a.tags := by
  rw [List.eq_nil_iff_forall_not_mem]
  simp only [mem_getWebSockets, not_exists, not_and]

lemma OpenIn.attachment (h : OpenIn room.sockets i a) : room.attachment i = some a := by
  obtain ⟨socket, hsocket, -, rfl⟩ := h
  rw [Room.attachment, hsocket, Option.map_some]

lemma openIn_shut {closing : List ℕ} :
    OpenIn (room.shut closing).sockets i a ↔ OpenIn room.sockets i a ∧ i ∉ closing := by
  unfold OpenIn Room.shut
  simp only [List.getElem?_mapIdx, Option.map_eq_some_iff]
  constructor
  · rintro ⟨_, ⟨socket, hsocket, rfl⟩, hopen, hattachment⟩
    by_cases hi : i ∈ closing
    · rw [if_pos hi] at hopen
      cases hopen
    · rw [if_neg hi] at hopen hattachment
      exact ⟨⟨socket, hsocket, hopen, hattachment⟩, hi⟩
  · rintro ⟨⟨socket, hsocket, hopen, hattachment⟩, hi⟩
    exact ⟨socket, ⟨socket, hsocket, if_neg hi⟩, hopen, hattachment⟩

@[simp] lemma shut_attachment (closing : List ℕ) (i : ℕ) :
    (room.shut closing).attachment i = room.attachment i := by
  simp only [Room.attachment, Room.shut, List.getElem?_mapIdx, Option.map_map]
  congr 1
  funext socket
  simp only [Function.comp_apply]
  split <;> rfl

@[simp] lemma shut_buffers (closing : List ℕ) : (room.shut closing).buffers = room.buffers := rfl

@[simp] lemma shut_length (closing : List ℕ) :
    (room.shut closing).sockets.length = room.sockets.length := List.length_mapIdx

@[simp] lemma safeClose_room (closing : List ℕ) (code : ℕ) (reason : String) :
    (room.safeClose closing code reason).2 = room.shut closing := rfl

lemma openIn_finish :
    OpenIn (room.finish j).sockets i a ↔ OpenIn room.sockets i a ∧ i ≠ j := by
  unfold OpenIn Room.finish
  simp only [List.getElem?_modify, Option.map_eq_map, Option.map_eq_some_iff]
  constructor
  · rintro ⟨_, ⟨socket, hsocket, rfl⟩, hopen, hattachment⟩
    by_cases hij : j = i
    · rw [if_pos hij] at hopen
      cases hopen
    · rw [if_neg hij] at hopen hattachment
      exact ⟨⟨socket, hsocket, hopen, hattachment⟩, Ne.symm hij⟩
  · rintro ⟨⟨socket, hsocket, hopen, hattachment⟩, hij⟩
    exact ⟨socket, ⟨socket, hsocket, if_neg (Ne.symm hij)⟩, hopen, hattachment⟩

@[simp] lemma finish_attachment (i j : ℕ) : (room.finish j).attachment i = room.attachment i := by
  unfold Room.attachment Room.finish
  simp only [List.getElem?_modify]
  by_cases hij : j = i
  · cases hsocket : room.sockets[i]? <;> simp [hij]
  · simp [hij]

@[simp] lemma finish_buffers (j : ℕ) : (room.finish j).buffers = room.buffers := rfl

lemma getElem?_append_singleton {α : Type} {l : List α} {x y : α} :
    (l ++ [x])[i]? = some y ↔ l[i]? = some y ∨ (i = l.length ∧ x = y) := by
  rw [List.getElem?_append, List.getElem?_singleton]
  split
  · next hlt =>
    have hne : i ≠ l.length := by omega
    simp [hne]
  · next hlt =>
    rw [List.getElem?_eq_none (Nat.not_lt.mp hlt)]
    by_cases hi : i = l.length
    · simp [hi]
    · have hpast : i - l.length ≠ 0 := by omega
      simp [hi, hpast]

lemma openIn_accept :
    OpenIn (room.accept b).2.sockets i a ↔
      OpenIn room.sockets i a ∨ (i = room.sockets.length ∧ a = b) := by
  unfold OpenIn Room.accept
  simp only [getElem?_append_singleton]
  constructor
  · rintro ⟨socket, hsocket | ⟨hi, rfl⟩, hopen, rfl⟩
    · exact .inl ⟨socket, hsocket, hopen, rfl⟩
    · exact .inr ⟨hi, rfl⟩
  · rintro (⟨socket, hsocket, hopen, rfl⟩ | ⟨hi, rfl⟩)
    · exact ⟨socket, .inl hsocket, hopen, rfl⟩
    · exact ⟨_, .inr ⟨hi, rfl⟩, rfl, rfl⟩

lemma accept_attachment :
    (room.accept b).2.attachment i = some a ↔
      room.attachment i = some a ∨ (i = room.sockets.length ∧ a = b) := by
  unfold Room.attachment Room.accept
  simp only [Option.map_eq_some_iff, getElem?_append_singleton]
  constructor
  · rintro ⟨socket, hsocket | ⟨hi, rfl⟩, rfl⟩
    · exact .inl ⟨socket, hsocket, rfl⟩
    · exact .inr ⟨hi, rfl⟩
  · rintro (⟨socket, hsocket, rfl⟩ | ⟨hi, rfl⟩)
    · exact ⟨socket, .inl hsocket, rfl⟩
    · exact ⟨_, .inr ⟨hi, rfl⟩, rfl⟩

@[simp] lemma accept_buffers : (room.accept b).2.buffers = room.buffers := rfl

section Secrets

variable {sha256Hex : String → String} {secret : Option String} {register : Bool}

end Secrets

end DevCommandCenter.Relay
