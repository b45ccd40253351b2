import DevCommandCenter.Library.Sequences
import DevCommandCenter.Timeline.RowsKept

/-! The turns whose loose activity ends up in a row beside the rows of their messages, told from the
events alone. -/

namespace DevCommandCenter.Timeline

open Library

section Events

variable (events : List TimelineEvent) (turnId : String)

def reasoningDone (reasoningId : String) : Bool :=
  events.any fun event =>
    match event.kind with
    | .turnReasoningCompleted turn reasoning => turn.value = turnId ∧ reasoning = reasoningId
    | _ => false

def toolCallDone (toolCallId : String) : Bool :=
  events.any fun event =>
    match event.kind with
    | .turnToolCallCompleted turn toolCall _ | .turnToolCallFailed turn toolCall .. =>
        turn.value = turnId ∧ toolCall = toolCallId
    | _ => false

def turnBegun : Bool :=
  events.any fun event =>
    match event.kind with
    | .turnStarted turn .. => turn.value = turnId
    | _ => false

def steersIn : ℕ :=
  events.countP fun event =>
    match event.kind with
    | .turnSteered turn _ => turn.value = turnId
    | _ => false

def completedIn : List String :=
  events.filterMap fun event =>
    match finishedMessage event.kind with
    | some (turn, messageId) => if turn = turnId then some messageId else none
    | none => none

def needsRow (kind : SessionEventKind) : Bool :=
  match kind with
  | .turnDelta turn _ => turn.value = turnId
  | .turnReasoningStarted turn reasoningId _ | .turnReasoningDelta turn reasoningId _ =>
      turn.value = turnId ∧ reasoningDone events turnId reasoningId = false
  | .turnToolCallStarted turn toolCallId action .. =>
      turn.value = turnId ∧ isHiddenToolAction action = false ∧
        toolCallDone events turnId toolCallId = false
  | .turnToolCallDelta turn toolCallId _ =>
      turn.value = turnId ∧ toolCallDone events turnId toolCallId = false
  | .turnUserInputRequested turn .. | .turnPermissionRequested turn ..
  | .turnNativeSubagentActivity turn .. => turn.value = turnId
  | .turnAborted turn _ =>
      turn.value = turnId ∧ turnBegun events turnId = true ∧ completedIn events turnId = []
  | _ => false

def OpensMessage (kind : SessionEventKind) : Prop :=
  ∃ messageId, openedMessage kind = some (turnId, messageId) ∧ messageId ∉ completedIn events turnId

def Bucketless : Prop :=
  ∀ before event after, events = before ++ event :: after →
    needsRow before turnId event.kind = false ∧ ¬OpensMessage before turnId event.kind

def OnlyMessages (messageIds : List String) (event : TimelineEvent) : Prop :=
  ∀ messageId, openedMessage event.kind = some (turnId, messageId) ∨
    finishedMessage event.kind = some (turnId, messageId) → messageId ∈ messageIds

/-- The turn's first loose activity came behind messages that were completed without having been
begun, and no other message of the turn came behind it. -/
def StraysBeside (messageIds : List String) : Prop :=
  ∃ before event after, events = before ++ event :: after ∧ Bucketless before turnId ∧
    needsRow before turnId event.kind = true ∧ completedIn before turnId = messageIds ∧
    messageIds ≠ [] ∧ ∀ later ∈ after, OnlyMessages turnId messageIds later

def Strays : Prop :=
  ∃ messageIds, StraysBeside events turnId messageIds

end Events

section Appended

variable {events : List TimelineEvent} {event : TimelineEvent} {turnId : String}
  {messageIds : List String}

lemma bucketless_append : Bucketless (events ++ [event]) turnId ↔ Bucketless events turnId ∧
    needsRow events turnId event.kind = false ∧ ¬OpensMessage events turnId event.kind := by
  constructor
  · intro h
    refine ⟨fun before middle after heq => h before middle (after ++ [event]) (by simp [heq]),
      h events event [] rfl⟩
  · rintro ⟨hbefore, hlast⟩ before middle after heq
    obtain ⟨rest, rfl, hevents⟩ | ⟨rfl, rfl, rfl⟩ := split_append.mp heq
    · exact hbefore before middle rest hevents
    · exact hlast

lemma straysBeside_append : StraysBeside (events ++ [event]) turnId messageIds ↔
    (StraysBeside events turnId messageIds ∧ OnlyMessages turnId messageIds event) ∨
    (Bucketless events turnId ∧ needsRow events turnId event.kind = true ∧
      completedIn events turnId = messageIds ∧ messageIds ≠ []) := by
  constructor
  · rintro ⟨before, middle, after, heq, hless, hneeds, hids, hne, hlater⟩
    obtain ⟨rest, rfl, hevents⟩ | ⟨rfl, rfl, rfl⟩ := split_append.mp heq
    · obtain ⟨hrest, hlast⟩ := forall_mem_append_singleton.mp hlater
      exact .inl ⟨⟨before, middle, rest, hevents, hless, hneeds, hids, hne, hrest⟩, hlast⟩
    · exact .inr ⟨hless, hneeds, hids, hne⟩
  · rintro (⟨⟨before, middle, after, rfl, hless, hneeds, hids, hne, hlater⟩, hlast⟩ |
      ⟨hless, hneeds, hids, hne⟩)
    · exact ⟨before, middle, after ++ [event], by simp, hless, hneeds, hids, hne,
        forall_mem_append_singleton.mpr ⟨hlater, hlast⟩⟩
    · exact ⟨events, event, [], rfl, hless, hneeds, hids, hne, by simp⟩

lemma completedIn_append : completedIn (events ++ [event]) turnId = completedIn events turnId ++
    match finishedMessage event.kind with
    | some (turn, messageId) => if turn = turnId then [messageId] else []
    | none => [] := by
  unfold completedIn
  rw [List.filterMap_append]
  congr 1
  cases hfinished : finishedMessage event.kind with
  | none => simp [hfinished]
  | some key =>
      obtain ⟨turn, messageId⟩ := key
      by_cases hturn : turn = turnId <;> simp [hfinished, hturn]

end Appended

namespace Frame

variable {frame frame' : Frame} {event : TimelineEvent} {turnId : String} {messageIds : List String}

structure AllCompleted (frame : Frame) (turnId : String) (messageIds : List String) : Prop where
  items : ∀ messageId, (∃ index, frame.items.lookup (turnId, messageId) = some index) ↔
    messageId ∈ messageIds
  completed : ∀ messageId, (turnId, messageId) ∈ frame.completedMessages ↔ messageId ∈ messageIds
  rows : frame.rows turnId = [] ↔ messageIds = []

structure Unbucketed (frame : Frame) (turnId : String) (messageIds : List String) : Prop
    extends frame.AllCompleted turnId messageIds where
  bucket : frame.buckets.lookup turnId = none

structure Stray (frame : Frame) (turnId : String) (messageIds : List String) : Prop
    extends frame.AllCompleted turnId messageIds where
  bucket : ∃ index, frame.buckets.lookup turnId = some index ∧ index ∉ frame.rows turnId
  nonempty : messageIds ≠ []

def Whole (frame : Frame) (turnId : String) : Prop :=
  ∃ index, frame.buckets.lookup turnId = some index ∧
    (index ∈ frame.rows turnId ∨ frame.rows turnId = [])

structure SameTurn (frame frame' : Frame) (turnId : String) : Prop where
  bucket : frame'.buckets.lookup turnId = frame.buckets.lookup turnId
  rows : frame'.rows turnId = frame.rows turnId
  items : ∀ messageId, frame'.items.lookup (turnId, messageId) = frame.items.lookup (turnId, messageId)
  completed : ∀ messageId, (turnId, messageId) ∈ frame.completedMessages →
    (turnId, messageId) ∈ frame'.completedMessages
  withRow : ∀ messageId, (turnId, messageId) ∈ frame'.completedMessages →
    (turnId, messageId) ∈ frame.completedMessages ∨
      ∃ index, frame.items.lookup (turnId, messageId) = some index

lemma AllCompleted.same (h : frame.AllCompleted turnId messageIds) (hsame : SameTurn frame frame' turnId) :
    frame'.AllCompleted turnId messageIds where
  items messageId := by rw [hsame.items, h.items]
  completed messageId := by
    constructor
    · intro hdone
      rcases hsame.withRow messageId hdone with hdone | hrow
      · exact (h.completed messageId).mp hdone
      · exact (h.items messageId).mp hrow
    · exact fun hmem => hsame.completed messageId ((h.completed messageId).mpr hmem)
  rows := by rw [hsame.rows, h.rows]

lemma AllCompleted.congr {messageIds' : List String} (h : frame.AllCompleted turnId messageIds)
    (hmem : ∀ messageId, messageId ∈ messageIds' ↔ messageId ∈ messageIds) :
    frame.AllCompleted turnId messageIds' where
  items messageId := (h.items messageId).trans (hmem messageId).symm
  completed messageId := (h.completed messageId).trans (hmem messageId).symm
  rows := by
    rw [h.rows, List.eq_nil_iff_forall_not_mem, List.eq_nil_iff_forall_not_mem]
    exact forall_congr' fun messageId => not_congr (hmem messageId).symm

lemma Unbucketed.same (h : frame.Unbucketed turnId messageIds) (hsame : SameTurn frame frame' turnId) :
    frame'.Unbucketed turnId messageIds :=
  ⟨h.toAllCompleted.same hsame, hsame.bucket.trans h.bucket⟩

lemma Stray.same (h : frame.Stray turnId messageIds) (hsame : SameTurn frame frame' turnId) :
    frame'.Stray turnId messageIds := by
  refine ⟨h.toAllCompleted.same hsame, ?_, h.nonempty⟩
  rw [hsame.bucket, hsame.rows]
  exact h.bucket

lemma Whole.same (h : frame.Whole turnId) (hsame : SameTurn frame frame' turnId) :
    frame'.Whole turnId := by
  unfold Whole
  rw [hsame.bucket, hsame.rows]
  exact h

lemma SameTurn.refl (frame : Frame) (turnId : String) : SameTurn frame frame turnId :=
  ⟨rfl, rfl, fun _ => rfl, fun _ => id, fun _ => .inl⟩

lemma sameTurn_plain (frame : Frame) (event : TimelineEvent) (heads : Option RowHead)
    (turnId : String) : SameTurn frame ((frame.noted event).pushAll heads) turnId := by
  obtain ⟨_, _, _, _, _, heq⟩ := noted_eq frame event
  rw [heq]
  cases heads <;> exact ⟨rfl, rfl, fun _ => rfl, fun _ => id, fun _ => .inl⟩

lemma sameTurn_ensure {turn : String} (h : turn ≠ turnId ∨ frame.buckets.lookup turnId ≠ none) :
    SameTurn frame (frame.ensure turn) turnId := by
  unfold Frame.ensure
  split
  · exact .refl frame turnId
  · next hnone =>
      have hne : turnId ≠ turn := by
        rintro rfl
        exact h.elim (fun hne => hne rfl) fun hsome => hsome hnone
      refine ⟨?_, rfl, fun _ => rfl, fun _ => id, fun _ => .inl⟩
      rw [setBucket, Table.lookup_insert_eq, if_neg hne]
      rfl

lemma sameTurn_resumed {turn : String} (h : turnId ≠ turn) (index : ℕ) :
    SameTurn frame ((frame.setBucket turn index).markActive turn index) turnId := by
  refine ⟨?_, rfl, fun _ => rfl, fun _ => id, fun _ => .inl⟩
  rw [markActive, setBucket, Table.lookup_insert_eq, if_neg h]

lemma sameTurn_addMessage {turn : String} (h : turnId ≠ turn) (messageId : String)
    (makeCurrent : Bool) : SameTurn frame (frame.addMessage turn messageId makeCurrent) turnId := by
  refine ⟨?_, ?_, fun message => ?_, ?_, ?_⟩
  · rw [buckets_addMessage]
    split
    · rw [Table.lookup_insert_eq, if_neg h]
    · rfl
  · rw [rows_addMessage, if_neg h]
  · rw [items_addMessage, Table.lookup_insert_eq, if_neg fun heq => h (Prod.mk.inj heq).1]
  · rw [(fields_addMessage ..).2]
    exact fun _ => id
  · rw [(fields_addMessage ..).2]
    exact fun _ => .inl

lemma sameTurn_finish (frame : Frame) (turn : String) (index : ℕ) (turnId : String) :
    SameTurn frame (frame.finish turn index) turnId where
  bucket := rfl
  rows := rfl
  items _ := rfl
  completed _ hdone := mem_completedMessages_finish.mpr (.inl hdone)
  withRow _ hdone := (mem_completedMessages_finish.mp hdone).imp_right fun hrow => ⟨index, hrow⟩

lemma sameTurn_alias {turn : String} (h : turnId ≠ turn) (messageId : String) (index : ℕ) :
    SameTurn frame (frame.aliasMessage turn messageId index) turnId := by
  refine ⟨rfl, rfl, fun message => ?_, fun _ => id, fun _ => .inl⟩
  rw [aliasMessage, Table.lookup_insert_eq, if_neg fun heq => h (Prod.mk.inj heq).1]

lemma SameTurn.trans {frame'' : Frame} (h : SameTurn frame frame' turnId)
    (h' : SameTurn frame' frame'' turnId) : SameTurn frame frame'' turnId where
  bucket := h'.bucket.trans h.bucket
  rows := h'.rows.trans h.rows
  items messageId := (h'.items messageId).trans (h.items messageId)
  completed messageId hdone := h'.completed messageId (h.completed messageId hdone)
  withRow messageId hdone := by
    rcases h'.withRow messageId hdone with hdone | hrow
    · exact h.withRow messageId hdone
    · rw [h.items] at hrow
      exact .inr hrow

def Touches (turnId : String) (event : TimelineEvent) : Prop :=
  ∃ messageId, openedMessage event.kind = some (turnId, messageId) ∨
    finishedMessage event.kind = some (turnId, messageId)

lemma sameTurn_step (hstep : FrameStep frame event frame')
    (hloose : frame.looseTurn event.kind = some turnId → frame.buckets.lookup turnId ≠ none)
    (htouches : ¬Touches turnId event) : SameTurn frame frame' turnId := by
  have hother : ∀ {turn messageId : String}, (openedMessage event.kind = some (turn, messageId) ∨
      finishedMessage event.kind = some (turn, messageId)) → turnId ≠ turn := by
    rintro turn messageId hmessage rfl
    exact htouches ⟨messageId, hmessage⟩
  cases hstep with
  | plain => exact sameTurn_plain ..
  | @loose turn _ _ hturn =>
      refine sameTurn_ensure ?_
      by_cases heq : turn = turnId
      · subst heq
        exact .inr (hloose hturn)
      · exact .inl heq
  | ignored => exact .refl frame turnId
  | resumed hmessage => exact sameTurn_resumed (hother (.inl hmessage)) _
  | @opened turn messageId hmessage =>
      have hadded : SameTurn frame (frame.addMessage turn messageId true) turnId :=
        sameTurn_addMessage (hother (.inl hmessage)) messageId true
      exact ⟨hadded.bucket, hadded.rows, hadded.items, hadded.completed, hadded.withRow⟩
  | finished => exact sameTurn_finish ..
  | aliased hmessage =>
      exact (sameTurn_alias (hother (.inr hmessage)) _ _).trans (sameTurn_finish ..)
  | unopened hmessage =>
      exact (sameTurn_addMessage (hother (.inr hmessage)) _ false).trans (sameTurn_finish ..)

lemma openedMessage_of_finished {kind : SessionEventKind} {key : String × String}
    (h : finishedMessage kind = some key) : openedMessage kind = none := by
  cases kind <;> first | rfl | cases h

lemma whole_addMessage {messageId : String} :
    (frame.addMessage turnId messageId true).Whole turnId := by
  obtain ⟨index, hindex, hbucket⟩ := bucketListed_addMessage frame turnId messageId
  exact ⟨index, hbucket, .inl hindex⟩

lemma AllCompleted.items_none (h : frame.AllCompleted turnId messageIds) {messageId : String}
    (hnew : messageId ∉ messageIds) : frame.items.lookup (turnId, messageId) = none := by
  cases hitem : frame.items.lookup (turnId, messageId) with
  | none => rfl
  | some index => exact absurd ((h.items messageId).mp ⟨index, hitem⟩) hnew

lemma AllCompleted.opened (h : frame.AllCompleted turnId messageIds) {messageId : String}
    (hmessage : openedMessage event.kind = some (turnId, messageId))
    (hstep : FrameStep frame event frame') :
    if messageId ∈ messageIds then frame' = frame else frame'.Whole turnId := by
  have hfinished : finishedMessage event.kind = none := by
    cases hfinished : finishedMessage event.kind with
    | none => rfl
    | some key =>
        rw [openedMessage_of_finished hfinished] at hmessage
        cases hmessage
  split
  · next hmem =>
      have hdone := (h.completed messageId).mpr hmem
      cases hstep with
      | plain hnone | loose hnone =>
          rw [hnone] at hmessage
          cases hmessage
      | ignored => rfl
      | resumed hkey hnew | opened hkey hnew =>
          rw [hkey, Option.some.injEq] at hmessage
          rw [hmessage] at hnew
          exact absurd hdone hnew
      | finished hkey | aliased hkey | unopened hkey =>
          rw [hkey] at hfinished
          cases hfinished
  · next hmem =>
      have hnew : (turnId, messageId) ∉ frame.completedMessages := (h.completed messageId).not.mpr hmem
      cases hstep with
      | plain hnone | loose hnone =>
          rw [hnone] at hmessage
          cases hmessage
      | ignored hkey hdone =>
          rw [hkey, Option.some.injEq] at hmessage
          rw [hmessage] at hdone
          exact absurd hdone hnew
      | resumed hkey _ hitem =>
          rw [hkey, Option.some.injEq] at hmessage
          rw [hmessage, h.items_none hmem] at hitem
          cases hitem
      | opened hkey =>
          rw [hkey] at hmessage
          cases hmessage
          exact whole_addMessage.same ⟨rfl, rfl, fun _ => rfl, fun _ => id, fun _ => .inl⟩
      | finished hkey | aliased hkey | unopened hkey =>
          rw [hkey] at hfinished
          cases hfinished

lemma AllCompleted.finished (h : frame.AllCompleted turnId messageIds)
    (hopen : frame.OpenListed) (hlisted : ¬frame.BucketListed turnId) {messageId : String}
    (hmessage : finishedMessage event.kind = some (turnId, messageId))
    (hstep : FrameStep frame event frame') :
    if messageId ∈ messageIds then SameTurn frame frame' turnId
    else frame' =
      (frame.addMessage turnId messageId false).finish turnId frame.heads.length := by
  have hopened := openedMessage_of_finished hmessage
  cases hstep with
  | plain _ hnone | loose _ hnone =>
      rw [hnone] at hmessage
      cases hmessage
  | ignored hkey | resumed hkey | opened hkey =>
      rw [hkey] at hopened
      cases hopened
  | finished hkey hitem =>
      rw [hkey] at hmessage
      cases hmessage
      rw [if_pos ((h.items messageId).mp ⟨_, hitem⟩)]
      exact sameTurn_finish ..
  | aliased hkey _ hactive =>
      rw [hkey] at hmessage
      cases hmessage
      exact absurd (hopen.active _ _ hactive _ (List.mem_singleton_self _)).2 hlisted
  | unopened hkey hitem =>
      rw [hkey] at hmessage
      cases hmessage
      rw [if_neg fun hmem => ?_]
      obtain ⟨index, hindex⟩ := (h.items messageId).mpr hmem
      rw [hitem] at hindex
      cases hindex

lemma AllCompleted.unopened (h : frame.AllCompleted turnId messageIds) (messageId : String) :
    ((frame.addMessage turnId messageId false).finish turnId frame.heads.length).AllCompleted turnId
      (messageIds ++ [messageId]) where
  items message := by
    change (∃ index, (frame.addMessage turnId messageId false).items.lookup (turnId, message) =
      some index) ↔ _
    rw [items_addMessage, Table.lookup_insert_eq, List.mem_append, List.mem_singleton, ← h.items]
    by_cases heq : message = messageId <;> simp [heq]
  completed message := by
    rw [mem_completedMessages_finish, (fields_addMessage ..).2, items_addMessage,
      Table.lookup_insert_eq, List.mem_append, List.mem_singleton, h.completed]
    by_cases heq : message = messageId
    · simp [heq]
    · simp only [Prod.mk.injEq, true_and, heq, if_false, or_false, or_iff_left_iff_imp]
      exact fun hindex => (h.items message).mp ⟨_, hindex⟩
  rows := by
    constructor
    · intro hempty
      have hmem := newRow_mem_rows frame turnId messageId false
      change (frame.addMessage turnId messageId false).rows turnId = [] at hempty
      rw [hempty] at hmem
      cases hmem
    · intro hempty
      simp at hempty

lemma Touches.turn_eq (h : Touches turnId event) {turn messageId : String}
    (hmessage : openedMessage event.kind = some (turn, messageId) ∨
      finishedMessage event.kind = some (turn, messageId)) : turn = turnId := by
  obtain ⟨found, hfound⟩ := h
  rcases hmessage with hmessage | hmessage <;> rcases hfound with hfound | hfound
  · rw [hmessage, Option.some.injEq, Prod.mk.injEq] at hfound
    exact hfound.1
  · rw [openedMessage_of_finished hfound] at hmessage
    cases hmessage
  · rw [openedMessage_of_finished hmessage] at hfound
    cases hfound
  · rw [hmessage, Option.some.injEq, Prod.mk.injEq] at hfound
    exact hfound.1

lemma not_touches (hopened : openedMessage event.kind = none)
    (hfinished : finishedMessage event.kind = none) : ¬Touches turnId event := by
  rintro ⟨messageId, hmessage⟩
  rw [hopened, hfinished] at hmessage
  rcases hmessage with hmessage | hmessage <;> cases hmessage

lemma Whole.step (h : frame.Whole turnId) (hkept : frame.WellKept)
    (hstep : FrameStep frame event frame') : frame'.Whole turnId := by
  obtain ⟨bucket, hbucket, hrows⟩ := id h
  by_cases htouches : Touches turnId event
  · cases hstep with
    | plain hopened hfinished => exact absurd htouches (not_touches hopened hfinished)
    | loose hopened hfinished => exact absurd htouches (not_touches hopened hfinished)
    | ignored => exact h
    | @resumed turn messageId index hmessage _ hitem =>
        obtain rfl := htouches.turn_eq (.inl hmessage)
        refine ⟨index, ?_, .inl (hkept.items turn messageId index hitem)⟩
        rw [markActive, setBucket, Table.lookup_insert_eq, if_pos rfl]
    | opened hmessage =>
        obtain rfl := htouches.turn_eq (.inl hmessage)
        exact whole_addMessage.same ⟨rfl, rfl, fun _ => rfl, fun _ => id, fun _ => .inl⟩
    | finished => exact h.same (sameTurn_finish ..)
    | aliased => exact ⟨bucket, hbucket, hrows⟩
    | @unopened turn messageId hmessage =>
        obtain rfl := htouches.turn_eq (.inr hmessage)
        exact ⟨bucket, hbucket, .inl (bucket_mem_rows hbucket)⟩
  · refine h.same (sameTurn_step hstep (fun _ => ?_) htouches)
    rw [hbucket]
    exact Option.some_ne_none _

lemma Stray.step (h : frame.Stray turnId messageIds) (hkept : frame.WellKept)
    (hstep : FrameStep frame event frame') :
    (OnlyMessages turnId messageIds event → frame'.Stray turnId messageIds) ∧
    (¬OnlyMessages turnId messageIds event → frame'.Whole turnId) := by
  obtain ⟨bucket, hbucket, hunlisted⟩ := h.bucket
  have hlisted : ¬frame.BucketListed turnId := by
    rintro ⟨index, hindex, hcurrent⟩
    rw [hbucket, Option.some.injEq] at hcurrent
    exact hunlisted (hcurrent ▸ hindex)
  by_cases htouches : Touches turnId event
  · obtain ⟨messageId, hopened | hfinished⟩ := htouches
    · have hafter := h.opened hopened hstep
      constructor
      · intro honly
        rw [if_pos (honly messageId (.inl hopened))] at hafter
        exact hafter ▸ h
      · intro hother
        rw [if_neg fun hmem => hother ?_] at hafter
        · exact hafter
        · rintro other (hkey | hkey)
          · rw [hopened, Option.some.injEq, Prod.mk.injEq] at hkey
            exact hkey.2 ▸ hmem
          · rw [openedMessage_of_finished hkey] at hopened
            cases hopened
    · have hafter := h.finished hkept.toOpenListed hlisted hfinished hstep
      constructor
      · intro honly
        rw [if_pos (honly messageId (.inr hfinished))] at hafter
        exact h.same hafter
      · intro hother
        rw [if_neg fun hmem => hother ?_] at hafter
        · rw [hafter]
          exact ⟨bucket, hbucket, .inl (bucket_mem_rows hbucket)⟩
        · rintro other (hkey | hkey)
          · rw [openedMessage_of_finished hfinished] at hkey
            cases hkey
          · rw [hfinished, Option.some.injEq, Prod.mk.injEq] at hkey
            exact hkey.2 ▸ hmem
  · have hsame := sameTurn_step hstep (fun _ => by rw [hbucket]; exact Option.some_ne_none _) htouches
    exact ⟨fun _ => h.same hsame, fun hother => absurd
      (fun messageId hkey => absurd ⟨messageId, hkey⟩ htouches) hother⟩

structure Linked (frame : Frame) (events : List TimelineEvent) : Prop where
  reasoning : ∀ turnId reasoningId, (turnId, reasoningId) ∈ frame.completedReasoning ↔
    reasoningDone events turnId reasoningId = true
  toolCalls : ∀ turnId toolCallId, (turnId, toolCallId) ∈ frame.completedToolCalls ↔
    toolCallDone events turnId toolCallId = true
  started : ∀ turnId, turnId ∈ frame.started ↔ turnBegun events turnId = true
  steers : ∀ turnId, (frame.steers.lookup turnId).getD 0 = steersIn events turnId

variable {events : List TimelineEvent}

lemma rowsOfTurn_eq (h : frame.buckets.lookup turnId = none) :
    frame.rowsOfTurn turnId = frame.rows turnId := by
  unfold rowsOfTurn rows listing
  split
  · next hfind => rw [hfind, Option.getD_some]
  · next hfind => rw [hfind, h, Option.getD_none, Option.toList_none]

lemma Unbucketed.looseTurn_iff (h : frame.Unbucketed turnId (completedIn events turnId))
    (hlinked : frame.Linked events) (kind : SessionEventKind) :
    frame.looseTurn kind = some turnId ↔ needsRow events turnId kind = true := by
  cases kind with
  | turnAborted turn reason =>
      simp only [looseTurn, needsRow, decide_eq_true_eq]
      by_cases hturn : turn.value = turnId
      · rw [hturn, rowsOfTurn_eq h.bucket, ← hlinked.started, ← h.rows]
        simp [List.isEmpty_iff, and_comm]
      · simp [hturn]
  | turnDelta | turnUserInputRequested | turnPermissionRequested | turnNativeSubagentActivity =>
      simp [looseTurn, needsRow]
  | turnReasoningStarted turn reasoningId | turnReasoningDelta turn reasoningId =>
      simp only [looseTurn, needsRow, hlinked.reasoning, decide_eq_true_eq]
      by_cases hturn : turn.value = turnId
      · subst hturn
        simp
      · simp [hturn]
  | turnToolCallDelta turn toolCallId =>
      simp only [looseTurn, needsRow, hlinked.toolCalls, decide_eq_true_eq]
      by_cases hturn : turn.value = turnId
      · subst hturn
        simp
      · simp [hturn]
  | turnToolCallStarted turn toolCallId action =>
      simp only [looseTurn, needsRow, hlinked.toolCalls, decide_eq_true_eq]
      by_cases hturn : turn.value = turnId
      · subst hturn
        simp
      · simp [hturn]
  | _ => simp [looseTurn, needsRow]

lemma noted_of_loose {turn : String} (h : frame.looseTurn event.kind = some turn) :
    frame.noted event = frame := by
  obtain ⟨kind, occurredAt⟩ := event
  cases kind <;> first | rfl | cases h

lemma noted_of_message {key : String × String}
    (h : openedMessage event.kind = some key ∨ finishedMessage event.kind = some key) :
    frame.noted event = frame := by
  obtain ⟨kind, occurredAt⟩ := event
  rcases h with h | h <;> cases kind <;> first | rfl | cases h

lemma step_noted (hstep : FrameStep frame event frame') :
    frame'.completedReasoning = (frame.noted event).completedReasoning ∧
    frame'.completedToolCalls = (frame.noted event).completedToolCalls ∧
    frame'.started = (frame.noted event).started ∧ frame'.steers = (frame.noted event).steers := by
  cases hstep with
  | plain => cases frame.pushedHead event.kind <;> exact ⟨rfl, rfl, rfl, rfl⟩
  | @loose turn _ _ hturn =>
      rw [noted_of_loose hturn, ensure]
      split <;> exact ⟨rfl, rfl, rfl, rfl⟩
  | ignored hmessage | resumed hmessage | opened hmessage =>
      rw [noted_of_message (.inl hmessage)]
      exact ⟨rfl, rfl, rfl, rfl⟩
  | finished hmessage | aliased hmessage | unopened hmessage =>
      rw [noted_of_message (.inr hmessage)]
      exact ⟨rfl, rfl, rfl, rfl⟩

lemma noteDelegation_keeps (frame : Frame) (delegationId : DelegationId) :
    (frame.noteDelegation delegationId).completedReasoning = frame.completedReasoning ∧
    (frame.noteDelegation delegationId).completedToolCalls = frame.completedToolCalls ∧
    (frame.noteDelegation delegationId).started = frame.started ∧
    (frame.noteDelegation delegationId).steers = frame.steers := by
  unfold noteDelegation
  split <;> exact ⟨rfl, rfl, rfl, rfl⟩

lemma Linked.kept (h : frame.Linked events)
    (hframe : frame'.completedReasoning = frame.completedReasoning ∧
      frame'.completedToolCalls = frame.completedToolCalls ∧ frame'.started = frame.started ∧
      frame'.steers = frame.steers)
    (hreasoning : ∀ turnId reasoningId, reasoningDone [event] turnId reasoningId = false)
    (htoolCalls : ∀ turnId toolCallId, toolCallDone [event] turnId toolCallId = false)
    (hstarted : ∀ turnId, turnBegun [event] turnId = false)
    (hsteers : ∀ turnId, steersIn [event] turnId = 0) : frame'.Linked (events ++ [event]) := by
  obtain ⟨hr, ht, hs, hn⟩ := hframe
  constructor
  · intro turnId reasoningId
    have happend : reasoningDone (events ++ [event]) turnId reasoningId =
        (reasoningDone events turnId reasoningId || reasoningDone [event] turnId reasoningId) :=
      List.any_append
    rw [hr, h.reasoning, happend, hreasoning, Bool.or_false]
  · intro turnId toolCallId
    have happend : toolCallDone (events ++ [event]) turnId toolCallId =
        (toolCallDone events turnId toolCallId || toolCallDone [event] turnId toolCallId) :=
      List.any_append
    rw [ht, h.toolCalls, happend, htoolCalls, Bool.or_false]
  · intro turnId
    have happend : turnBegun (events ++ [event]) turnId =
        (turnBegun events turnId || turnBegun [event] turnId) := List.any_append
    rw [hs, h.started, happend, hstarted, Bool.or_false]
  · intro turnId
    have happend : steersIn (events ++ [event]) turnId =
        steersIn events turnId + steersIn [event] turnId := List.countP_append
    rw [hn, h.steers, happend, hsteers, Nat.add_zero]

lemma Linked.noted (h : frame.Linked events) (event : TimelineEvent) :
    (frame.noted event).Linked (events ++ [event]) := by
  obtain ⟨kind, occurredAt⟩ := event
  have hreasoning := h.reasoning
  have htoolCalls := h.toolCalls
  have hstarted := h.started
  have hsteers := h.steers
  simp only [reasoningDone, toolCallDone, turnBegun, steersIn] at hreasoning htoolCalls hstarted hsteers
  cases kind with
  | delegationRequested delegationId | delegationStarted delegationId | delegationDelta delegationId
  | delegationCompleted delegationId | delegationFailed delegationId
  | delegationCancelled delegationId =>
      exact h.kept (noteDelegation_keeps frame delegationId) (fun _ _ => rfl) (fun _ _ => rfl)
        (fun _ => rfl) fun _ => rfl
  | turnReasoningCompleted turn reasoning =>
      constructor
      · intro turnId reasoningId
        simp only [Frame.noted, Finset.mem_insert, hreasoning, reasoningDone, List.any_append,
          Bool.or_eq_true, List.any_cons, List.any_nil, Bool.or_false, decide_eq_true_eq,
          Prod.mk.injEq]
        exact or_comm.trans (or_congr_right (and_congr eq_comm eq_comm))
      · simp [Frame.noted, toolCallDone, htoolCalls]
      · simp [Frame.noted, turnBegun, hstarted]
      · simp [Frame.noted, steersIn, hsteers]
  | turnToolCallCompleted turn toolCall | turnToolCallFailed turn toolCall =>
      constructor
      · simp [Frame.noted, reasoningDone, hreasoning]
      · intro turnId toolCallId
        simp only [Frame.noted, Finset.mem_insert, htoolCalls, toolCallDone, List.any_append,
          Bool.or_eq_true, List.any_cons, List.any_nil, Bool.or_false, decide_eq_true_eq,
          Prod.mk.injEq]
        exact or_comm.trans (or_congr_right (and_congr eq_comm eq_comm))
      · simp [Frame.noted, turnBegun, hstarted]
      · simp [Frame.noted, steersIn, hsteers]
  | turnStarted turn =>
      constructor
      · simp [Frame.noted, reasoningDone, hreasoning]
      · simp [Frame.noted, toolCallDone, htoolCalls]
      · intro turnId
        simp only [Frame.noted, AList.mem_insert, hstarted, turnBegun, List.any_append,
          Bool.or_eq_true, List.any_cons, List.any_nil, Bool.or_false, decide_eq_true_eq]
        exact or_comm.trans (or_congr_right eq_comm)
      · simp [Frame.noted, steersIn, hsteers]
  | turnSteered turn =>
      constructor
      · simp [Frame.noted, reasoningDone, hreasoning]
      · simp [Frame.noted, toolCallDone, htoolCalls]
      · simp [Frame.noted, turnBegun, hstarted]
      · intro turnId
        simp only [Frame.noted, Table.lookup_insert_eq, steersIn, List.countP_append,
          List.countP_singleton, decide_eq_true_eq, ← hsteers]
        by_cases hturn : turnId = turn.value
        · subst hturn
          simp
        · simp [hturn, Ne.symm hturn]
  | _ =>
      exact h.kept ⟨rfl, rfl, rfl, rfl⟩ (fun _ _ => rfl) (fun _ _ => rfl) (fun _ => rfl) fun _ => rfl

lemma Linked.step (h : frame.Linked events) (hstep : FrameStep frame event frame') :
    frame'.Linked (events ++ [event]) := by
  obtain ⟨hr, ht, hs, hn⟩ := step_noted hstep
  have hnoted := h.noted event
  constructor
  · rw [hr]
    exact hnoted.reasoning
  · rw [ht]
    exact hnoted.toolCalls
  · rw [hs]
    exact hnoted.started
  · rw [hn]
    exact hnoted.steers

structure Shaped (frame : Frame) (events : List TimelineEvent) (turnId : String) : Prop where
  unbucketed : Bucketless events turnId → frame.Unbucketed turnId (completedIn events turnId)
  stray : ∀ messageIds, StraysBeside events turnId messageIds → frame.Stray turnId messageIds
  whole : ¬Bucketless events turnId → ¬Strays events turnId → frame.Whole turnId

lemma Unbucketed.needs (h : frame.Unbucketed turnId (completedIn events turnId))
    (hkept : frame.WellKept) (hlinked : frame.Linked events) (hneeds : needsRow events turnId event.kind = true)
    (hstep : FrameStep frame event frame') :
    (completedIn events turnId = [] → frame'.Whole turnId) ∧
    (completedIn events turnId ≠ [] → frame'.Stray turnId (completedIn events turnId)) := by
  have hloose := (h.looseTurn_iff hlinked event.kind).mpr hneeds
  have hensured := step_loose hstep hloose
  have heq : frame.ensure turnId =
      (frame.push (frame.looseHead turnId)).setBucket turnId frame.heads.length := by
    rw [ensure, h.bucket]
  have hbucket : frame'.buckets.lookup turnId = some frame.heads.length := by
    rw [hensured, heq, setBucket, Table.lookup_insert_eq, if_pos rfl]
  have hall : frame'.AllCompleted turnId (completedIn events turnId) := by
    rw [hensured, heq]
    exact ⟨h.items, h.completed, h.rows⟩
  constructor
  · intro hnone
    exact ⟨_, hbucket, .inr (hall.rows.mpr hnone)⟩
  · intro hsome
    refine ⟨hall, ⟨_, hbucket, fun hmem => ?_⟩, hsome⟩
    rw [hensured, rows, (fields_ensure frame turnId).2.1] at hmem
    exact lt_irrefl _ (hkept.listed turnId _ hmem).lt

lemma Unbucketed.stays (h : frame.Unbucketed turnId (completedIn events turnId))
    (hkept : frame.WellKept) (hlinked : frame.Linked events)
    (hneeds : needsRow events turnId event.kind = false)
    (hopens : ¬OpensMessage events turnId event.kind) (hstep : FrameStep frame event frame') :
    frame'.Unbucketed turnId (completedIn (events ++ [event]) turnId) := by
  have hlisted : ¬frame.BucketListed turnId := by
    rintro ⟨index, -, hcurrent⟩
    rw [h.bucket] at hcurrent
    cases hcurrent
  by_cases htouches : Touches turnId event
  · obtain ⟨messageId, hopened | hfinished⟩ := htouches
    · have hmem : messageId ∈ completedIn events turnId := by
        by_contra hnot
        exact hopens ⟨messageId, hopened, hnot⟩
      have hafter := h.opened hopened hstep
      rw [if_pos hmem] at hafter
      have hnone : finishedMessage event.kind = none := by
        cases hkey : finishedMessage event.kind with
        | none => rfl
        | some key =>
            rw [openedMessage_of_finished hkey] at hopened
            cases hopened
      rw [completedIn_append, hnone, List.append_nil, hafter]
      exact h
    · have hafter := h.finished hkept.toOpenListed hlisted hfinished hstep
      rw [completedIn_append, hfinished]
      dsimp only
      rw [if_pos rfl]
      split at hafter
      · next hmem =>
          refine ⟨(h.toAllCompleted.same hafter).congr fun other => ?_, hafter.bucket.trans h.bucket⟩
          rw [List.mem_append, List.mem_singleton, or_iff_left_iff_imp]
          intro heq
          rw [heq]
          exact hmem
      · rw [hafter]
        exact ⟨h.toAllCompleted.unopened messageId, h.bucket⟩
  · have hloose : frame.looseTurn event.kind ≠ some turnId := by
      rw [Ne, h.looseTurn_iff hlinked, hneeds]
      exact Bool.false_ne_true
    have hnone : (match finishedMessage event.kind with
        | some (turn, messageId) => if turn = turnId then [messageId] else []
        | none => []) = [] := by
      split
      · next turn messageId hkey =>
          refine if_neg fun heq => htouches ⟨messageId, .inr ?_⟩
          rw [hkey, heq]
      · rfl
    rw [completedIn_append, hnone, List.append_nil]
    exact h.same (sameTurn_step hstep (fun heq => absurd heq hloose) htouches)

lemma Unbucketed.opens (h : frame.Unbucketed turnId (completedIn events turnId))
    (hopens : OpensMessage events turnId event.kind) (hstep : FrameStep frame event frame') :
    frame'.Whole turnId := by
  obtain ⟨messageId, hopened, hnew⟩ := hopens
  have hafter := h.opened hopened hstep
  rwa [if_neg hnew] at hafter

theorem Shaped.step (h : frame.Shaped events turnId) (hkept : frame.WellKept)
    (hlinked : frame.Linked events) (hstep : FrameStep frame event frame') :
    frame'.Shaped (events ++ [event]) turnId where
  unbucketed := by
    intro hless
    obtain ⟨hbefore, hneeds, hopens⟩ := bucketless_append.mp hless
    exact (h.unbucketed hbefore).stays hkept hlinked hneeds hopens hstep
  stray := by
    intro messageIds hstray
    rcases straysBeside_append.mp hstray with ⟨hbefore, honly⟩ | ⟨hless, hneeds, rfl, hsome⟩
    · exact ((h.stray messageIds hbefore).step hkept hstep).1 honly
    · exact ((h.unbucketed hless).needs hkept hlinked hneeds hstep).2 hsome
  whole := by
    intro hless hstrays
    by_cases hbefore : Bucketless events turnId
    · by_cases hneeds : needsRow events turnId event.kind = true
      · refine ((h.unbucketed hbefore).needs hkept hlinked hneeds hstep).1 (by_contra fun hsome => ?_)
        exact hstrays ⟨_, straysBeside_append.mpr (.inr ⟨hbefore, hneeds, rfl, hsome⟩)⟩
      · have hopens : OpensMessage events turnId event.kind := by
          by_contra hnot
          exact hless (bucketless_append.mpr ⟨hbefore, by simpa using hneeds, hnot⟩)
        exact (h.unbucketed hbefore).opens hopens hstep
    · by_cases hstray : Strays events turnId
      · obtain ⟨messageIds, hstray⟩ := hstray
        refine ((h.stray messageIds hstray).step hkept hstep).2 fun honly => ?_
        exact hstrays ⟨messageIds, straysBeside_append.mpr (.inl ⟨hstray, honly⟩)⟩
      · exact (h.whole hbefore hstray).step hkept hstep

end Frame

lemma shaped_new (sessionId turnId : String) : (Projector.new sessionId).frame.Shaped [] turnId where
  unbucketed _ := ⟨⟨fun _ => by simp [Projector.frame, Projector.new, completedIn],
    fun _ => by simp [Projector.frame, Projector.new, completedIn], by
      simp [Projector.frame, Projector.new, completedIn, Frame.rows, listing]⟩, rfl⟩
  stray := by
    rintro messageIds ⟨before, event, after, heq, -⟩
    simp at heq
  whole hless := by
    refine absurd (fun before event after heq => ?_) hless
    simp at heq

lemma linked_new (sessionId : String) : (Projector.new sessionId).frame.Linked [] where
  reasoning _ _ := by simp [Projector.frame, Projector.new, reasoningDone]
  toolCalls _ _ := by simp [Projector.frame, Projector.new, toolCallDone]
  started _ := by simp [Projector.frame, Projector.new, turnBegun]
  steers _ := by simp [Projector.frame, Projector.new, steersIn]

theorem shaped_projectorAfter (sessionId : String) (events : List TimelineEvent) :
    (projectorAfter sessionId events).frame.Linked events ∧
      ∀ turnId, (projectorAfter sessionId events).frame.Shaped events turnId := by
  induction events using List.reverseRecOn with
  | nil => exact ⟨linked_new sessionId, shaped_new sessionId⟩
  | append_singleton events event ih =>
      obtain ⟨hlinked, hshaped⟩ := ih
      have hkept := wellKept_projectorAfter sessionId events
      have hstep := Projector.frame_apply (projectorAfter sessionId events) event
      rw [projectorAfter_append]
      exact ⟨hlinked.step hstep, fun turnId => (hshaped turnId).step hkept hlinked hstep⟩

theorem strays_iff (sessionId : String) (events : List TimelineEvent) (turnId : String) :
    Strays events turnId ↔ ∃ index,
      (projectorAfter sessionId events).frame.buckets.lookup turnId = some index ∧
      index ∉ (projectorAfter sessionId events).frame.rows turnId ∧
      (projectorAfter sessionId events).frame.rows turnId ≠ [] := by
  have hshaped := (shaped_projectorAfter sessionId events).2 turnId
  constructor
  · rintro ⟨messageIds, hstray⟩
    have hrows := hshaped.stray messageIds hstray
    obtain ⟨index, hbucket, hunlisted⟩ := hrows.bucket
    exact ⟨index, hbucket, hunlisted, hrows.rows.not.mpr hrows.nonempty⟩
  · rintro ⟨index, hbucket, hunlisted, hsome⟩
    by_contra hstrays
    by_cases hless : Bucketless events turnId
    · rw [(hshaped.unbucketed hless).bucket] at hbucket
      cases hbucket
    · obtain ⟨found, hfound, hlisted⟩ := hshaped.whole hless hstrays
      rw [hbucket, Option.some.injEq] at hfound
      subst hfound
      exact hlisted.elim hunlisted hsome

end DevCommandCenter.Timeline
