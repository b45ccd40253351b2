import DevCommandCenter.Library.Json
import DevCommandCenter.Library.Sequences

/-! The relay's delta coalescer, and the stream of events a phone receives from it. -/

namespace DevCommandCenter

open Library

structure OutgoingEvent where
  event : String
  data : Value
  seq : Option ℕ

def deltaVariants : List (String × String) :=
  [("sessionTurnDelta", "turn_id"),
   ("sessionTurnAssistantMessageDelta", "message_id"),
   ("sessionTurnReasoningDelta", "reasoning_id"),
   ("sessionTurnToolCallDelta", "tool_call_id"),
   ("sessionDelegationDelta", "delegation_id")]

structure DeltaKey where
  variant : String
  sessionId : String
  itemId : String
  deriving DecidableEq, Repr

def onlyField : List (String × Value) → Option (String × Value)
  | [field] => some field
  | _ => none

def deltaKey (event : OutgoingEvent) : Option DeltaKey :=
  if event.event = "core-event" then do
    let object ← event.data.asObject
    let (name, inner) ← onlyField object
    let (variant, idField) ← deltaVariants.find? fun entry => entry.1 = name
    let content ← inner.get "content"
    let _ ← content.asStr
    let session ← inner.get "session_id"
    let sessionId ← session.asStr
    let item ← inner.get idField
    let itemId ← item.asStr
    return { variant := variant, sessionId := sessionId, itemId := itemId }
  else none

def content (event : OutgoingEvent) (variant : String) : String :=
  (((event.data.index variant).index "content").asStr).getD ""

def maxSeq : Option ℕ → Option ℕ → Option ℕ
  | some a, some b => some (max a b)
  | a, b => a.or b

def pushStr (addition : String) : Value → Value
  | .string content => .string (content ++ addition)
  | value => value

def appendContent (into source : OutgoingEvent) (variant : String) : OutgoingEvent where
  event := into.event
  data := into.data.modify variant fun inner =>
    inner.modify "content" (pushStr (content source variant))
  seq := maxSeq into.seq source.seq

structure DeltaCoalescer where
  window : ℕ
  pending : List (DeltaKey × OutgoingEvent)
  openedAt : Option ℕ

namespace DeltaCoalescer

def new (window : ℕ) : DeltaCoalescer where
  window := window
  pending := []
  openedAt := none

def flush (coalescer : DeltaCoalescer) : List OutgoingEvent × DeltaCoalescer :=
  (coalescer.pending.map Prod.snd, { coalescer with pending := [], openedAt := none })

def absorb (key : DeltaKey) (event : OutgoingEvent) :
    List (DeltaKey × OutgoingEvent) → List (DeltaKey × OutgoingEvent)
  | [] => [(key, event)]
  | (slot, merged) :: rest =>
      if slot = key then (slot, appendContent merged event key.variant) :: rest
      else (slot, merged) :: absorb key event rest

def push (coalescer : DeltaCoalescer) (event : OutgoingEvent) (now : ℕ) :
    List OutgoingEvent × DeltaCoalescer :=
  match deltaKey event with
  | none => (coalescer.flush.1 ++ [event], coalescer.flush.2)
  | some key =>
      let openedAt := coalescer.openedAt.getD now
      let absorbed : DeltaCoalescer :=
        { coalescer with pending := absorb key event coalescer.pending, openedAt := some openedAt }
      if openedAt + coalescer.window ≤ now then absorbed.flush else ([], absorbed)

def deadline (coalescer : DeltaCoalescer) : Option ℕ :=
  coalescer.openedAt.map (· + coalescer.window)

end DeltaCoalescer

structure IsDelta (event : OutgoingEvent) (key : DeltaKey) (inner : Value) (idField text : String) :
    Prop where
  event_eq : event.event = "core-event"
  data_eq : event.data = .object [(key.variant, inner)]
  variant_eq : deltaVariants.find? (fun entry => entry.1 = key.variant) = some (key.variant, idField)
  content_eq : inner.get "content" = some (.string text)
  session_eq : inner.get "session_id" = some (.string key.sessionId)
  item_eq : inner.get idField = some (.string key.itemId)

lemma onlyField_eq_some {fields : List (String × Value)} {field : String × Value} :
    onlyField fields = some field ↔ fields = [field] := by
  rcases fields with _ | ⟨a, _ | ⟨b, fields⟩⟩ <;> simp [onlyField]

lemma deltaKey_eq_some {event : OutgoingEvent} {key : DeltaKey} :
    deltaKey event = some key ↔ ∃ inner idField text, IsDelta event key inner idField text := by
  constructor
  · intro h
    unfold deltaKey at h
    split at h
    · next hevent =>
        simp only [Option.pure_def, Option.bind_eq_bind, Option.bind_eq_some_iff,
          Value.asObject_eq_some, Value.asStr_eq_some, onlyField_eq_some, Option.some.injEq] at h
        obtain ⟨_, hdata, ⟨name, inner⟩, rfl, ⟨variant, idField⟩, hfind, content, hcontent, text, rfl,
          session, hsession, sessionId, rfl, item, hitem, itemId, rfl, rfl⟩ := h
        have hname : variant = name := by simpa using List.find?_some hfind
        subst hname
        exact ⟨inner, idField, text, hevent, hdata, hfind, hcontent, hsession, hitem⟩
    · cases h
  · rintro ⟨inner, idField, text, hevent, hdata, hfind, hcontent, hsession, hitem⟩
    simp [deltaKey, hevent, hdata, Value.asObject, onlyField, hfind, hcontent, hsession, hitem,
      Value.asStr]

lemma IsDelta.content_eq_text {event : OutgoingEvent} {key : DeltaKey} {inner : Value}
    {idField text : String} (h : IsDelta event key inner idField text) :
    content event key.variant = text := by
  have hindex : event.data.index key.variant = inner := by
    simp [Value.index, Value.get, Value.asObject, h.data_eq, Value.lookupField]
  rw [content, hindex, Value.index, h.content_eq]
  rfl

lemma idField_ne_content {name : String} {entry : String × String}
    (h : deltaVariants.find? (fun entry => entry.1 = name) = some entry) : entry.2 ≠ "content" := by
  have hmem := List.mem_of_find?_eq_some h
  revert hmem
  simp [deltaVariants]
  rintro (rfl | rfl | rfl | rfl | rfl) <;> decide

lemma IsDelta.appendContent {into : OutgoingEvent} {key : DeltaKey} {inner : Value}
    {idField text : String} (h : IsDelta into key inner idField text) (source : OutgoingEvent) :
    IsDelta (appendContent into source key.variant) key
      (inner.modify "content" (pushStr (content source key.variant))) idField
      (text ++ content source key.variant) where
  event_eq := h.event_eq
  data_eq := by simp [DevCommandCenter.appendContent, h.data_eq, Value.modify, Value.modifyField]
  variant_eq := h.variant_eq
  content_eq := by simp [Value.get_modify, h.content_eq, pushStr]
  session_eq := by rw [Value.get_modify_ne (show "session_id" ≠ "content" by decide), h.session_eq]
  item_eq := by rw [Value.get_modify_ne (idField_ne_content h.variant_eq), h.item_eq]

lemma deltaKey_appendContent {into : OutgoingEvent} {key : DeltaKey} (h : deltaKey into = some key)
    (source : OutgoingEvent) : deltaKey (appendContent into source key.variant) = some key := by
  obtain ⟨inner, idField, text, hdelta⟩ := deltaKey_eq_some.mp h
  exact deltaKey_eq_some.mpr ⟨_, _, _, hdelta.appendContent source⟩

lemma content_appendContent {into : OutgoingEvent} {key : DeltaKey} (h : deltaKey into = some key)
    (source : OutgoingEvent) : content (appendContent into source key.variant) key.variant =
      content into key.variant ++ content source key.variant := by
  obtain ⟨inner, idField, text, hdelta⟩ := deltaKey_eq_some.mp h
  rw [(hdelta.appendContent source).content_eq_text, hdelta.content_eq_text]

end DevCommandCenter
