import DevCommandCenter.Timeline.RowsKept

/-! The ids of the rows: what each row is named after. -/

namespace DevCommandCenter.Timeline

open Library

inductive RowName
  | prompt (turnId : String)
  | steer (turnId : String) (count : ℕ)
  | loose (turnId : String)
  | message (turnId messageId : String)
  | note (label : String) (position : ℕ)
  | card (delegationId : String)
  deriving DecidableEq, Repr

def RowName.head (sessionId : String) : RowName → RowHead
  | prompt turnId => ⟨"user-" ++ sessionId ++ "-" ++ turnId, .user, some turnId, false⟩
  | steer turnId count =>
      ⟨"user-steer-" ++ sessionId ++ "-" ++ turnId ++ "-" ++ toString count, .user, none, false⟩
  | loose turnId => ⟨"assistant-" ++ sessionId ++ "-" ++ turnId, .assistant, some turnId, false⟩
  | message turnId messageId =>
      ⟨"assistant-" ++ sessionId ++ "-" ++ turnId ++ "-" ++ messageId, .assistant, some turnId, false⟩
  | note label position => ⟨label ++ "-" ++ toString position, .system, none, false⟩
  | card delegationId => ⟨"delegation-" ++ delegationId, .system, none, true⟩

def isSessionLabel (label : String) : Bool :=
  label.toList.head? == some 's'

lemma systemNote_label {kind : SessionEventKind} {note : String × String}
    (h : systemNote kind = some note) : isSessionLabel note.1 = true := by
  cases kind <;> cases h <;> dsimp only <;> decide

namespace Frame

variable {frame frame' : Frame} {names : List RowName}

structure Named (frame : Frame) (names : List RowName) : Prop where
  heads : frame.heads = names.map (RowName.head frame.sessionId)
  nodup : names.Nodup
  prompt : ∀ turnId, .prompt turnId ∈ names ↔ turnId ∈ frame.started
  steer : ∀ turnId count, .steer turnId count ∈ names ↔
    1 ≤ count ∧ count ≤ (frame.steers.lookup turnId).getD 0
  loose : ∀ turnId, .loose turnId ∈ names → ∃ index, frame.buckets.lookup turnId = some index
  message : ∀ turnId messageId, .message turnId messageId ∈ names →
    ∃ index, frame.items.lookup (turnId, messageId) = some index
  note : ∀ label position, .note label position ∈ names →
    position < names.length ∧ isSessionLabel label = true
  card : ∀ delegationId, .card delegationId ∈ names → delegationId ∈ frame.delegations

structure Grows (frame frame' : Frame) : Prop where
  sessionId : frame'.sessionId = frame.sessionId
  buckets : ∀ turnId index, frame.buckets.lookup turnId = some index →
    ∃ index', frame'.buckets.lookup turnId = some index'
  items : ∀ key index, frame.items.lookup key = some index →
    ∃ index', frame'.items.lookup key = some index'
  delegations : ∀ delegationId ∈ frame.delegations, delegationId ∈ frame'.delegations

lemma Named.grows (h : frame.Named names) (hgrows : Grows frame frame')
    (hheads : frame'.heads = frame.heads) (hstarted : frame'.started = frame.started)
    (hsteers : frame'.steers = frame.steers) : frame'.Named names where
  heads := by rw [hheads, h.heads, hgrows.sessionId]
  nodup := h.nodup
  prompt := by
    rw [hstarted]
    exact h.prompt
  steer := by
    rw [hsteers]
    exact h.steer
  loose := by
    intro turnId hmem
    obtain ⟨index, hindex⟩ := h.loose turnId hmem
    exact hgrows.buckets turnId index hindex
  message := by
    intro turnId messageId hmem
    obtain ⟨index, hindex⟩ := h.message turnId messageId hmem
    exact hgrows.items _ index hindex
  note := h.note
  card delegationId hmem := hgrows.delegations _ (h.card delegationId hmem)

structure Adds (frame frame' : Frame) (name : RowName) : Prop extends Grows frame frame' where
  heads : frame'.heads = frame.heads ++ [name.head frame.sessionId]
  prompt : ∀ turnId, turnId ∈ frame'.started ↔ turnId ∈ frame.started ∨ name = .prompt turnId
  steer : ∀ turnId count, (1 ≤ count ∧ count ≤ (frame'.steers.lookup turnId).getD 0) ↔
    (1 ≤ count ∧ count ≤ (frame.steers.lookup turnId).getD 0) ∨ name = .steer turnId count
  loose : ∀ turnId, name = .loose turnId → ∃ index, frame'.buckets.lookup turnId = some index
  message : ∀ turnId messageId, name = .message turnId messageId →
    ∃ index, frame'.items.lookup (turnId, messageId) = some index
  note : ∀ label position, name = .note label position →
    position = frame.heads.length ∧ isSessionLabel label = true
  card : ∀ delegationId, name = .card delegationId → delegationId ∈ frame'.delegations

lemma Named.adds {name : RowName} (h : frame.Named names) (hadds : Adds frame frame' name)
    (hnew : name ∉ names) : frame'.Named (names ++ [name]) where
  heads := by rw [hadds.heads, h.heads, hadds.sessionId, List.map_append, List.map_singleton]
  nodup := by
    refine List.nodup_append.mpr ⟨h.nodup, List.nodup_singleton _, fun a ha b hb heq => ?_⟩
    exact hnew (List.mem_singleton.mp hb ▸ heq ▸ ha)
  prompt turnId := by
    rw [List.mem_append, List.mem_singleton, h.prompt, hadds.prompt, eq_comm]
  steer turnId count := by
    rw [List.mem_append, List.mem_singleton, h.steer, hadds.steer, eq_comm]
  loose := by
    intro turnId hmem
    rcases List.mem_append.mp hmem with hmem | hmem
    · obtain ⟨index, hindex⟩ := h.loose turnId hmem
      exact hadds.buckets turnId index hindex
    · exact hadds.loose turnId (List.mem_singleton.mp hmem).symm
  message := by
    intro turnId messageId hmem
    rcases List.mem_append.mp hmem with hmem | hmem
    · obtain ⟨index, hindex⟩ := h.message turnId messageId hmem
      exact hadds.items _ index hindex
    · exact hadds.message turnId messageId (List.mem_singleton.mp hmem).symm
  note := by
    intro label position hmem
    rw [List.length_append, List.length_singleton]
    rcases List.mem_append.mp hmem with hmem | hmem
    · obtain ⟨hlt, hlabel⟩ := h.note label position hmem
      exact ⟨by omega, hlabel⟩
    · obtain ⟨hposition, hlabel⟩ := hadds.note label position (List.mem_singleton.mp hmem).symm
      rw [h.heads, List.length_map] at hposition
      exact ⟨by omega, hlabel⟩
  card := by
    intro delegationId hmem
    rcases List.mem_append.mp hmem with hmem | hmem
    · exact hadds.delegations _ (h.card delegationId hmem)
    · exact hadds.card delegationId (List.mem_singleton.mp hmem).symm

lemma Named.same (h : frame.Named names) (hheads : frame'.heads = frame.heads)
    (hsession : frame'.sessionId = frame.sessionId) (hbuckets : frame'.buckets = frame.buckets)
    (hitems : frame'.items = frame.items) (hdelegations : frame'.delegations = frame.delegations)
    (hstarted : frame'.started = frame.started) (hsteers : frame'.steers = frame.steers) :
    frame'.Named names := by
  refine h.grows ⟨hsession, ?_, ?_, ?_⟩ hheads hstarted hsteers
  · rw [hbuckets]
    exact fun _ index hindex => ⟨index, hindex⟩
  · rw [hitems]
    exact fun _ index hindex => ⟨index, hindex⟩
  · rw [hdelegations]
    exact fun _ hmem => hmem

lemma exists_lookup_insert {κ : Type} [DecidableEq κ] {table : Table κ ℕ} {k k' : κ} {v w : ℕ}
    (h : table.lookup k' = some w) : ∃ w', (table.insert k v).lookup k' = some w' := by
  rw [Table.lookup_insert_eq]
  split
  · exact ⟨v, rfl⟩
  · exact ⟨w, h⟩

lemma grows_setBucket (frame : Frame) (turnId : String) (index : ℕ) :
    Grows frame (frame.setBucket turnId index) :=
  ⟨rfl, fun _ _ h => exists_lookup_insert h, fun _ index h => ⟨index, h⟩, fun _ h => h⟩

lemma grows_aliasMessage (frame : Frame) (turnId messageId : String) (index : ℕ) :
    Grows frame (frame.aliasMessage turnId messageId index) :=
  ⟨rfl, fun _ index h => ⟨index, h⟩, fun _ _ h => exists_lookup_insert h, fun _ h => h⟩

lemma adds_ensure {turnId : String} (h : frame.buckets.lookup turnId = none) :
    Adds frame (frame.ensure turnId) (.loose turnId) := by
  have heq : frame.ensure turnId =
      (frame.push (frame.looseHead turnId)).setBucket turnId frame.heads.length := by
    rw [ensure, h]
  rw [heq]
  exact {
    sessionId := rfl
    buckets := fun _ _ hindex => exists_lookup_insert hindex
    items := fun _ index hindex => ⟨index, hindex⟩
    delegations := fun _ hmem => hmem
    heads := rfl
    prompt := fun _ => by simp [setBucket, push]
    steer := fun _ _ => by simp [setBucket, push]
    loose := by
      rintro _ ⟨⟩
      exact ⟨_, by rw [setBucket, Table.lookup_insert_eq, if_pos rfl]⟩
    message := by rintro _ _ ⟨⟩
    note := by rintro _ _ ⟨⟩
    card := by rintro _ ⟨⟩ }

lemma adds_addMessage (frame : Frame) (turnId messageId : String) (makeCurrent : Bool) :
    Adds frame (frame.addMessage turnId messageId makeCurrent) (.message turnId messageId) := by
  have hfields : (frame.addMessage turnId messageId makeCurrent).sessionId = frame.sessionId ∧
      (frame.addMessage turnId messageId makeCurrent).delegations = frame.delegations ∧
      (frame.addMessage turnId messageId makeCurrent).started = frame.started ∧
      (frame.addMessage turnId messageId makeCurrent).steers = frame.steers := by
    cases makeCurrent <;> exact ⟨rfl, rfl, rfl, rfl⟩
  obtain ⟨hsession, hdelegations, hstarted, hsteers⟩ := hfields
  exact {
    sessionId := hsession
    buckets := by
      intro turn index hindex
      rw [buckets_addMessage]
      split
      · exact exists_lookup_insert hindex
      · exact ⟨index, hindex⟩
    items := by
      rw [items_addMessage]
      exact fun _ _ hindex => exists_lookup_insert hindex
    delegations := by
      rw [hdelegations]
      exact fun _ hmem => hmem
    heads := heads_addMessage ..
    prompt := fun _ => by simp [hstarted]
    steer := fun _ _ => by simp [hsteers]
    loose := by rintro _ ⟨⟩
    message := by
      rintro _ _ ⟨⟩
      exact ⟨_, by rw [items_addMessage, Table.lookup_insert_eq, if_pos rfl]⟩
    note := by rintro _ _ ⟨⟩
    card := by rintro _ ⟨⟩ }

lemma adds_prompt (frame : Frame) (turnId : TurnId) (occurredAt : String) :
    Adds frame (({ frame with started := frame.started.insert turnId.value occurredAt } : Frame).push
      (RowName.head frame.sessionId (.prompt turnId.value))) (.prompt turnId.value) where
  sessionId := rfl
  buckets _ index h := ⟨index, h⟩
  items _ index h := ⟨index, h⟩
  delegations _ h := h
  heads := rfl
  prompt turn := by
    change turn ∈ frame.started.insert turnId.value occurredAt ↔ _
    rw [AList.mem_insert, RowName.prompt.injEq, eq_comm, or_comm]
  steer _ _ := by simp [push]
  loose := by rintro _ ⟨⟩
  message := by rintro _ _ ⟨⟩
  note := by rintro _ _ ⟨⟩
  card := by rintro _ ⟨⟩

lemma adds_steer (frame : Frame) (turnId : TurnId) {count : ℕ}
    (hcount : count = (frame.steers.lookup turnId.value).getD 0 + 1) :
    Adds frame (({ frame with steers := frame.steers.insert turnId.value count } : Frame).push
      (RowName.head frame.sessionId (.steer turnId.value count))) (.steer turnId.value count) where
  sessionId := rfl
  buckets _ index h := ⟨index, h⟩
  items _ index h := ⟨index, h⟩
  delegations _ h := h
  heads := rfl
  prompt _ := by simp [push]
  steer turn n := by
    change 1 ≤ n ∧ n ≤ ((frame.steers.insert turnId.value count).lookup turn).getD 0 ↔ _
    rw [Table.lookup_insert_eq, RowName.steer.injEq]
    split
    · next hturn =>
        rw [hturn, Option.getD_some]
        constructor
        · rintro ⟨hpos, hle⟩
          by_cases hlast : n = count
          · exact .inr ⟨rfl, hlast.symm⟩
          · exact .inl ⟨hpos, by omega⟩
        · rintro (⟨hpos, hle⟩ | ⟨-, hlast⟩)
          · exact ⟨hpos, by omega⟩
          · omega
    · next hturn => simp [Ne.symm hturn]
  loose := by rintro _ ⟨⟩
  message := by rintro _ _ ⟨⟩
  note := by rintro _ _ ⟨⟩
  card := by rintro _ ⟨⟩

lemma adds_note (frame : Frame) {label : String} (hlabel : isSessionLabel label = true) :
    Adds frame (frame.push (RowName.head frame.sessionId (.note label frame.heads.length)))
      (.note label frame.heads.length) where
  sessionId := rfl
  buckets _ index h := ⟨index, h⟩
  items _ index h := ⟨index, h⟩
  delegations _ h := h
  heads := rfl
  prompt _ := by simp [push]
  steer _ _ := by simp [push]
  loose := by rintro _ ⟨⟩
  message := by rintro _ _ ⟨⟩
  note := by
    rintro _ _ ⟨⟩
    exact ⟨rfl, hlabel⟩
  card := by rintro _ ⟨⟩

lemma adds_card (frame : Frame) (delegationId : DelegationId) (index : ℕ) :
    Adds frame (({ frame with
      delegations := frame.delegations.insert delegationId.value index } : Frame).push
        (RowName.head frame.sessionId (.card delegationId.value))) (.card delegationId.value) where
  sessionId := rfl
  buckets _ index h := ⟨index, h⟩
  items _ index h := ⟨index, h⟩
  delegations _ h := (AList.mem_insert _).mpr (.inr h)
  heads := rfl
  prompt _ := by simp [push]
  steer _ _ := by simp [push]
  loose := by rintro _ ⟨⟩
  message := by rintro _ _ ⟨⟩
  note := by rintro _ _ ⟨⟩
  card := by
    rintro _ ⟨⟩
    exact (AList.mem_insert _).mpr (.inl rfl)

lemma Named.note_notMem (h : frame.Named names) (label : String) :
    RowName.note label frame.heads.length ∉ names := by
  intro hmem
  have hlt := (h.note _ _ hmem).1
  rw [h.heads, List.length_map] at hlt
  exact lt_irrefl _ hlt

lemma Named.noteHead (h : frame.Named names) (kind : SessionEventKind) :
    ∃ names', (frame.pushAll (frame.noteHead kind)).Named names' := by
  unfold Frame.noteHead
  cases hnote : systemNote kind with
  | none => exact ⟨names, h⟩
  | some note => exact ⟨_, h.adds (adds_note frame (systemNote_label hnote)) (h.note_notMem _)⟩

lemma Named.delegation (h : frame.Named names) (delegationId : DelegationId) :
    ∃ names', ((frame.noteDelegation delegationId).pushAll
      (frame.delegationHead delegationId)).Named names' := by
  unfold noteDelegation delegationHead
  by_cases hmem : delegationId.value ∈ frame.delegations
  · rw [if_pos hmem, if_pos hmem]
    exact ⟨names, h⟩
  · rw [if_neg hmem, if_neg hmem]
    exact ⟨_, h.adds (adds_card frame delegationId _) fun hcard => hmem (h.card _ hcard)⟩

def StartsNew (frame : Frame) (kind : SessionEventKind) : Prop :=
  ∀ turnId, startedTurn kind = some turnId → turnId.value ∉ frame.started

lemma Named.plain (h : frame.Named names) {event : TimelineEvent}
    (hnew : frame.StartsNew event.kind) :
    ∃ names', ((frame.noted event).pushAll (frame.pushedHead event.kind)).Named names' := by
  obtain ⟨kind, occurredAt⟩ := event
  cases kind with
  | turnStarted turnId =>
      refine ⟨_, h.adds (adds_prompt frame turnId occurredAt) fun hmem => ?_⟩
      exact hnew turnId rfl ((h.prompt _).mp hmem)
  | turnSteered turnId =>
      refine ⟨_, h.adds (adds_steer frame turnId rfl) fun hmem => ?_⟩
      have hle := ((h.steer _ _).mp hmem).2
      omega
  | sessionStarted workspaceId projectId providerId model forkedFrom =>
      cases forkedFrom with
      | none => exact ⟨names, h⟩
      | some origin =>
          have hlabel : isSessionLabel "session.started" = true := by decide
          exact ⟨_, h.adds (adds_note frame hlabel) (h.note_notMem _)⟩
  | delegationRequested delegationId => exact h.delegation delegationId
  | delegationStarted delegationId => exact h.delegation delegationId
  | delegationDelta delegationId => exact h.delegation delegationId
  | delegationCompleted delegationId => exact h.delegation delegationId
  | delegationFailed delegationId => exact h.delegation delegationId
  | delegationCancelled delegationId => exact h.delegation delegationId
  | turnReasoningCompleted => exact ⟨names, h.same rfl rfl rfl rfl rfl rfl rfl⟩
  | turnToolCallCompleted => exact ⟨names, h.same rfl rfl rfl rfl rfl rfl rfl⟩
  | turnToolCallFailed => exact ⟨names, h.same rfl rfl rfl rfl rfl rfl rfl⟩
  | _ => exact h.noteHead _

lemma Named.message_notMem (h : frame.Named names) {turnId messageId : String}
    (hitem : frame.items.lookup (turnId, messageId) = none) :
    RowName.message turnId messageId ∉ names := by
  intro hmem
  obtain ⟨index, hindex⟩ := h.message turnId messageId hmem
  rw [hitem] at hindex
  cases hindex

theorem Named.step (h : frame.Named names) {event : TimelineEvent}
    (hnew : frame.StartsNew event.kind) (hstep : FrameStep frame event frame') :
    ∃ names', frame'.Named names' := by
  cases hstep with
  | plain => exact h.plain hnew
  | @loose turnId =>
      cases hbucket : frame.buckets.lookup turnId with
      | none =>
          refine ⟨_, h.adds (adds_ensure hbucket) fun hmem => ?_⟩
          obtain ⟨index, hindex⟩ := h.loose turnId hmem
          rw [hbucket] at hindex
          cases hindex
      | some index =>
          rw [ensure, hbucket]
          exact ⟨names, h⟩
  | ignored => exact ⟨names, h⟩
  | @resumed turnId messageId index =>
      have hcurrent := h.grows (grows_setBucket frame turnId index) rfl rfl rfl
      exact ⟨names, hcurrent.same rfl rfl rfl rfl rfl rfl rfl⟩
  | @opened turnId messageId _ _ hitem =>
      have hadded := h.adds (adds_addMessage frame turnId messageId true) (h.message_notMem hitem)
      exact ⟨_, hadded.same rfl rfl rfl rfl rfl rfl rfl⟩
  | finished => exact ⟨names, h.same rfl rfl rfl rfl rfl rfl rfl⟩
  | @aliased turnId messageId index =>
      have haliased := h.grows (grows_aliasMessage frame turnId messageId index) rfl rfl rfl
      exact ⟨names, haliased.same rfl rfl rfl rfl rfl rfl rfl⟩
  | @unopened turnId messageId _ hitem =>
      have hadded := h.adds (adds_addMessage frame turnId messageId false) (h.message_notMem hitem)
      exact ⟨_, hadded.same rfl rfl rfl rfl rfl rfl rfl⟩

end Frame

end DevCommandCenter.Timeline
