import DevCommandCenter.Library.Call
import DevCommandCenter.Remote.Encodings

/-! Messages of any size over a transport whose messages are small. -/

namespace DevCommandCenter.Remote

open Library

def maxNoiseMessage : ℕ := 65535

def tagLen : ℕ := 16

def maxChunk : ℕ := maxNoiseMessage - tagLen - 1

def maxAppMessage : ℕ := 32 * 1024 * 1024

def flagFinal : Octet := 0x01

def kindTransport : Octet := 0x03

/-- The encryption after a handshake. A message is written to, or read into, a buffer of the given size;
nothing has happened where there is no result. -/
structure Transport (T : Type) where
  writeMessage : T → List Octet → ℕ → Option (List Octet × T)
  readMessage : T → List Octet → ℕ → Option (List Octet × T)

structure SecureChannel (T : Type) where
  transport : T
  partialMessage : List Octet

namespace SecureChannel

variable {T : Type} (transport : Transport T)

def new (transport : T) : SecureChannel T :=
  ⟨transport, []⟩

def sealChunk (data : List Octet) (last : Bool) : Call (SecureChannel T) RemoteError (List Octet) := do
  let channel ← .read
  let plaintext := (if last then flagFinal else 0) :: data
  match transport.writeMessage channel.transport plaintext (plaintext.length + tagLen) with
  | none => .fail .noise
  | some (ciphertext, next) => do
      .update fun channel => { channel with transport := next }
      return kindTransport :: ciphertext

def chunks (size : ℕ) (message : List Octet) : List (List Octet) :=
  (List.range ((message.length + size - 1) / size)).map fun i => (message.drop (i * size)).take size

def sealChunks : List (List Octet) → Call (SecureChannel T) RemoteError (List (List Octet))
  | [] => return []
  | chunk :: rest => do
      let wire ← sealChunk transport chunk rest.isEmpty
      let wires ← sealChunks rest
      return wire :: wires

def sealMessage (message : List Octet) : Call (SecureChannel T) RemoteError (List (List Octet)) :=
  if maxAppMessage < message.length then .fail .tooLarge
  else if chunks maxChunk message = [] then sealChunks transport [[]]
  else sealChunks transport (chunks maxChunk message)

def openNoise (noise : List Octet) : Call (SecureChannel T) RemoteError (Option (List Octet)) := do
  if maxNoiseMessage < noise.length ∨ noise.length < tagLen + 1 then
    .fail (.malformed "transport message size")
  else do
    let channel ← .read
    match transport.readMessage channel.transport noise noise.length with
    | none => .fail .noise
    | some (plaintext, next) => do
        .update fun channel => { channel with transport := next }
        match plaintext with
        | [] => .fail (.malformed "empty chunk")
        | flags :: data =>
            if maxAppMessage < channel.partialMessage.length + data.length then do
              .update fun channel => { channel with partialMessage := [] }
              .fail .tooLarge
            else do
              .update fun channel => { channel with partialMessage := channel.partialMessage ++ data }
              if flags.val % 2 = 0 then return none
              else do
                let channel ← .read
                .update fun channel => { channel with partialMessage := [] }
                return some channel.partialMessage

def openWire (wire : List Octet) : Call (SecureChannel T) RemoteError (Option (List Octet)) :=
  match wire with
  | kind :: noise => if kind = kindTransport then openNoise transport noise else .fail (.malformed "not a transport message")
  | [] => .fail (.malformed "not a transport message")

def sealAll : List (List Octet) → Call (SecureChannel T) RemoteError (List (List (List Octet)))
  | [] => return []
  | message :: messages => do
      let wires ← sealMessage transport message
      let batches ← sealAll messages
      return wires :: batches

def openAll (channel : SecureChannel T) : List (List Octet) →
    List (Except RemoteError (Option (List Octet))) × SecureChannel T
  | [] => ([], channel)
  | wire :: wires =>
      let opened := openWire transport wire channel
      let rest := openAll opened.2 wires
      (opened.1 :: rest.1, rest.2)

end SecureChannel

structure Transport.InOrder {T : Type} (transport : Transport T) (paired : T → T → Prop) : Prop where
  read : ∀ {writer reader next plaintext size ciphertext}, paired writer reader →
    transport.writeMessage writer plaintext size = some (ciphertext, next) →
    ciphertext.length = plaintext.length + tagLen ∧ ∀ size, plaintext.length ≤ size →
      ∃ next', transport.readMessage reader ciphertext size = some (plaintext, next') ∧ paired next next'

def Transport.Writes {T : Type} (transport : Transport T) (paired : T → T → Prop) : Prop :=
  ∀ writer reader plaintext size, paired writer reader → plaintext.length + tagLen ≤ maxNoiseMessage →
    plaintext.length + tagLen ≤ size → (transport.writeMessage writer plaintext size).isSome = true

namespace SecureChannel

section Chunks

variable {size : ℕ} {message chunk : List Octet}

lemma flatten_take_chunks (n : ℕ) (message : List Octet) :
    ((List.range n).map fun i => (message.drop (i * size)).take size).flatten = message.take (n * size) := by
  induction n with
  | zero => simp
  | succ n ih =>
      rw [List.range_succ, List.map_append, List.flatten_append, ih, List.map_singleton, List.flatten_singleton,
        Nat.succ_mul, List.take_add]

lemma flatten_chunks (hsize : 0 < size) (message : List Octet) : (chunks size message).flatten = message := by
  rw [chunks, flatten_take_chunks]
  apply List.take_of_length_le
  have hdiv := Nat.div_add_mod (message.length + size - 1) size
  have hmod := Nat.mod_lt (message.length + size - 1) hsize
  rw [Nat.mul_comm]
  omega

lemma length_of_mem_chunks (h : chunk ∈ chunks size message) : chunk.length ≤ size := by
  obtain ⟨i, -, rfl⟩ := List.mem_map.mp h
  exact List.length_take_le _ _

end Chunks

section Streams

variable {transport} {paired : T → T → Prop} {sender sender' receiver : SecureChannel T}
  {data message wire : List Octet} {last : Bool} {pieces wires : List (List Octet)}

lemma sealChunk_apply : sealChunk transport data last sender =
    match transport.writeMessage sender.transport ((if last then flagFinal else 0) :: data)
      (data.length + 1 + tagLen) with
    | none => (.error .noise, sender)
    | some (ciphertext, next) => (.ok (kindTransport :: ciphertext), { sender with transport := next }) := by
  cases h : transport.writeMessage sender.transport ((if last then flagFinal else 0) :: data)
      (data.length + 1 + tagLen) with
  | none => simp only [sealChunk, Call.bind_apply, Call.read_apply, List.length_cons, h, Call.fail_apply]
  | some written =>
      simp only [sealChunk, Call.bind_apply, Call.read_apply, List.length_cons, h, Call.update_apply,
        Call.pure_apply]

lemma sealChunk_ok_iff : sealChunk transport data last sender = (.ok wire, sender') ↔
    ∃ ciphertext next, transport.writeMessage sender.transport ((if last then flagFinal else 0) :: data)
        (data.length + 1 + tagLen) = some (ciphertext, next) ∧
      kindTransport :: ciphertext = wire ∧ { sender with transport := next } = sender' := by
  rw [sealChunk_apply]
  constructor
  · intro h
    split at h
    · cases h
    · next ciphertext next hwrite =>
        cases h
        exact ⟨ciphertext, next, hwrite, rfl, rfl⟩
  · rintro ⟨ciphertext, next, hwrite, rfl, rfl⟩
    rw [hwrite]

lemma openWire_sealChunk (hlaw : transport.InOrder paired) (hpaired : paired sender.transport receiver.transport)
    (hchunk : data.length ≤ maxChunk) (hroom : receiver.partialMessage.length + data.length ≤ maxAppMessage)
    (h : sealChunk transport data last sender = (.ok wire, sender')) :
    wire.length ≤ 1 + maxNoiseMessage ∧ ∃ receiver',
      openWire transport wire receiver =
        (.ok (if last then some (receiver.partialMessage ++ data) else none), receiver') ∧
      paired sender'.transport receiver'.transport ∧
      receiver'.partialMessage = if last then [] else receiver.partialMessage ++ data := by
  obtain ⟨ciphertext, next, hwrite, rfl, rfl⟩ := sealChunk_ok_iff.mp h
  obtain ⟨hlength, hread⟩ := hlaw.read hpaired hwrite
  rw [List.length_cons] at hlength
  obtain ⟨next', hread, hnext⟩ := hread ciphertext.length (by rw [hlength, List.length_cons]; omega)
  have hsmall : ciphertext.length ≤ maxNoiseMessage := by
    rw [hlength]
    rw [maxChunk] at hchunk
    have hnumbers : tagLen + 1 ≤ maxNoiseMessage := by decide
    omega
  have hsize : ¬(maxNoiseMessage < ciphertext.length ∨ ciphertext.length < tagLen + 1) := by omega
  refine ⟨by rw [List.length_cons]; omega, ?_⟩
  have hopen : openWire transport (kindTransport :: ciphertext) receiver =
      (.ok (if last then some (receiver.partialMessage ++ data) else none),
        ⟨next', if last then [] else receiver.partialMessage ++ data⟩) := by
    rw [openWire, if_pos rfl, openNoise, if_neg hsize, Call.read_bind_ok_iff, hread]
    dsimp only
    rw [Call.update_bind_ok_iff, if_neg (by omega), Call.update_bind_ok_iff]
    cases last <;> rfl
  exact ⟨_, hopen, hnext, rfl⟩

lemma openAll_append (receiver : SecureChannel T) (wires wires' : List (List Octet)) :
    openAll transport receiver (wires ++ wires') =
      ((openAll transport receiver wires).1 ++ (openAll transport (openAll transport receiver wires).2 wires').1,
        (openAll transport (openAll transport receiver wires).2 wires').2) := by
  induction wires generalizing receiver with
  | nil => rfl
  | cons wire wires ih =>
      rw [List.cons_append, openAll, openAll, ih]
      rfl

lemma openAll_sealChunks (hlaw : transport.InOrder paired) (hpaired : paired sender.transport receiver.transport)
    (hne : pieces ≠ []) (hpieces : ∀ piece ∈ pieces, piece.length ≤ maxChunk)
    (hroom : receiver.partialMessage.length + pieces.flatten.length ≤ maxAppMessage)
    (h : sealChunks transport pieces sender = (.ok wires, sender')) :
    wires.length = pieces.length ∧ (∀ wire ∈ wires, wire.length ≤ 1 + maxNoiseMessage) ∧ ∃ receiver',
      openAll transport receiver wires =
        (List.replicate (wires.length - 1) (.ok none) ++ [.ok (some (receiver.partialMessage ++ pieces.flatten))],
          receiver') ∧
      paired sender'.transport receiver'.transport ∧ receiver'.partialMessage = [] := by
  induction pieces generalizing sender receiver wires with
  | nil => exact absurd rfl hne
  | cons piece rest ih =>
      obtain ⟨wire, middle, hfirst, hrest⟩ := Call.bind_ok_iff.mp h
      obtain ⟨wires', sender'', hlater, hdone⟩ := Call.bind_ok_iff.mp hrest
      cases hdone
      rw [List.flatten_cons, List.length_append] at hroom
      obtain ⟨hwire, receiver', hopen, hpaired', hunfinished⟩ :=
        openWire_sealChunk hlaw hpaired (hpieces piece (List.mem_cons_self ..)) (by omega) hfirst
      cases rest with
      | nil =>
          cases hlater
          refine ⟨rfl, ?_, receiver', ?_, hpaired', hunfinished⟩
          · intro wire' hwire'
            rwa [List.mem_singleton.mp hwire']
          · rw [openAll, hopen, List.flatten_singleton]
            rfl
      | cons next rest =>
          have hroom' : receiver'.partialMessage.length + (next :: rest).flatten.length ≤ maxAppMessage := by
            rw [hunfinished, List.isEmpty_cons, if_neg Bool.false_ne_true, List.length_append]
            omega
          obtain ⟨hlength, hwires, receiver'', hopenRest, hpaired'', hempty⟩ :=
            ih hpaired' (by simp) (fun piece hpiece => hpieces piece (List.mem_cons_of_mem _ hpiece)) hroom' hlater
          refine ⟨congrArg (· + 1) hlength, ?_, receiver'', ?_, hpaired'', hempty⟩
          · intro wire' hwire'
            rcases List.mem_cons.mp hwire' with rfl | hmem
            · exact hwire
            · exact hwires wire' hmem
          · obtain ⟨n, hn⟩ : ∃ n, wires'.length = n + 1 := ⟨rest.length, hlength⟩
            have hflatten : (piece :: next :: rest).flatten = piece ++ (next :: rest).flatten := List.flatten_cons
            rw [openAll, hopen]
            dsimp only
            rw [hopenRest, hunfinished, List.isEmpty_cons, if_neg Bool.false_ne_true, if_neg Bool.false_ne_true,
              List.length_cons, Nat.add_sub_cancel, hn, List.replicate_succ, Nat.add_sub_cancel, hflatten,
              List.append_assoc]
            rfl

lemma openAll_sealMessage (hlaw : transport.InOrder paired) (hpaired : paired sender.transport receiver.transport)
    (hempty : receiver.partialMessage = []) (hsize : message.length ≤ maxAppMessage)
    (h : sealMessage transport message sender = (.ok wires, sender')) :
    wires ≠ [] ∧ (∀ wire ∈ wires, wire.length ≤ 1 + maxNoiseMessage) ∧ ∃ receiver',
      openAll transport receiver wires =
        (List.replicate (wires.length - 1) (.ok none) ++ [.ok (some message)], receiver') ∧
      paired sender'.transport receiver'.transport ∧ receiver'.partialMessage = [] := by
  have hflatten := flatten_chunks (by decide : 0 < maxChunk) message
  have hpieces : ∃ pieces, pieces ≠ [] ∧ (∀ piece ∈ pieces, piece.length ≤ maxChunk) ∧ pieces.flatten = message ∧
      sealChunks transport pieces sender = (.ok wires, sender') := by
    rw [sealMessage, if_neg (by omega)] at h
    split at h
    · next hnone =>
        rw [hnone] at hflatten
        refine ⟨[[]], by simp, ?_, hflatten, h⟩
        intro piece hpiece
        rw [List.mem_singleton.mp hpiece]
        exact Nat.zero_le _
    · next hsome => exact ⟨chunks maxChunk message, hsome, fun piece hpiece => length_of_mem_chunks hpiece, hflatten, h⟩
  obtain ⟨pieces, hne, hsmall, rfl, hseal⟩ := hpieces
  have hroom : receiver.partialMessage.length + pieces.flatten.length ≤ maxAppMessage := by
    rw [hempty, List.length_nil]
    omega
  obtain ⟨hlength, hwires, receiver', hopen, hpaired', hempty'⟩ :=
    openAll_sealChunks hlaw hpaired hne hsmall hroom hseal
  refine ⟨?_, hwires, receiver', ?_, hpaired', hempty'⟩
  · rintro rfl
    exact hne (List.length_eq_zero_iff.mp hlength.symm)
  · rwa [hempty, List.nil_append] at hopen

def arrivals (batch : List (List Octet) × List Octet) : List (Except RemoteError (Option (List Octet))) :=
  List.replicate (batch.1.length - 1) (.ok none) ++ [.ok (some batch.2)]

lemma openAll_sealAll {messages : List (List Octet)} {batches : List (List (List Octet))}
    (hlaw : transport.InOrder paired) (hpaired : paired sender.transport receiver.transport)
    (hempty : receiver.partialMessage = []) (hsize : ∀ message ∈ messages, message.length ≤ maxAppMessage)
    (h : sealAll transport messages sender = (.ok batches, sender')) :
    batches.length = messages.length ∧
      (∀ batch ∈ batches, batch ≠ [] ∧ ∀ wire ∈ batch, wire.length ≤ 1 + maxNoiseMessage) ∧
      (openAll transport receiver batches.flatten).1 = (batches.zip messages).flatMap arrivals ∧
      ∀ i, (openAll transport receiver (batches.take i).flatten).2.partialMessage = [] := by
  induction messages generalizing sender receiver batches with
  | nil =>
      cases h
      refine ⟨rfl, List.forall_mem_nil _, rfl, fun i => ?_⟩
      rw [List.take_nil]
      exact hempty
  | cons message messages ih =>
      obtain ⟨wires, middle, hfirst, hrest⟩ := Call.bind_ok_iff.mp h
      obtain ⟨batches', sender'', hlater, hdone⟩ := Call.bind_ok_iff.mp hrest
      cases hdone
      obtain ⟨hne, hwires, receiver', hopen, hpaired', hempty'⟩ :=
        openAll_sealMessage hlaw hpaired hempty (hsize message (List.mem_cons_self ..)) hfirst
      obtain ⟨hlength, hbatches, hopenRest, hunfinished⟩ :=
        ih hpaired' hempty' (fun message hmessage => hsize message (List.mem_cons_of_mem _ hmessage)) hlater
      refine ⟨congrArg (· + 1) hlength, ?_, ?_, fun i => ?_⟩
      · intro batch hbatch
        rcases List.mem_cons.mp hbatch with rfl | hmem
        · exact ⟨hne, hwires⟩
        · exact hbatches batch hmem
      · rw [List.flatten_cons, openAll_append, hopen, List.zip_cons_cons, List.flatMap_cons, ← hopenRest]
        rfl
      · cases i with
        | zero => exact hempty
        | succ i =>
            rw [List.take_succ_cons, List.flatten_cons, openAll_append, hopen]
            exact hunfinished i

lemma exists_sealChunks (hlaw : transport.InOrder paired) (hwrites : transport.Writes paired)
    (hpaired : paired sender.transport receiver.transport) (hpieces : ∀ piece ∈ pieces, piece.length ≤ maxChunk) :
    ∃ wires sender' reader, sealChunks transport pieces sender = (.ok wires, sender') ∧
      paired sender'.transport reader := by
  induction pieces generalizing sender receiver with
  | nil => exact ⟨[], sender, receiver.transport, rfl, hpaired⟩
  | cons piece rest ih =>
      have hpiece := hpieces piece (List.mem_cons_self ..)
      have hfits : piece.length + 1 + tagLen ≤ maxNoiseMessage := by
        have hnumbers : tagLen + 1 ≤ maxNoiseMessage := by decide
        rw [maxChunk] at hpiece
        omega
      have hwritten := hwrites sender.transport receiver.transport
        ((if rest.isEmpty then flagFinal else 0) :: piece) (piece.length + 1 + tagLen) hpaired hfits (le_refl _)
      obtain ⟨⟨ciphertext, next⟩, hwrite⟩ := Option.isSome_iff_exists.mp hwritten
      obtain ⟨-, hread⟩ := hlaw.read hpaired hwrite
      obtain ⟨next', -, hnext⟩ := hread _ (le_refl _)
      have hfirst := sealChunk_ok_iff.mpr ⟨ciphertext, next, hwrite, rfl, rfl⟩
      obtain ⟨wires, sender', reader, hrest, hlast⟩ :=
        @ih { sender with transport := next } ⟨next', []⟩ hnext
          fun piece hpiece => hpieces piece (List.mem_cons_of_mem _ hpiece)
      refine ⟨(kindTransport :: ciphertext) :: wires, sender', reader,
        Call.bind_ok_iff.mpr ⟨_, _, hfirst, ?_⟩, hlast⟩
      exact Call.bind_ok_iff.mpr ⟨wires, sender', hrest, rfl⟩

lemma exists_sealAll {messages : List (List Octet)} (hlaw : transport.InOrder paired)
    (hwrites : transport.Writes paired) (hpaired : paired sender.transport receiver.transport)
    (hsize : ∀ message ∈ messages, message.length ≤ maxAppMessage) :
    ∃ batches sender', sealAll transport messages sender = (.ok batches, sender') := by
  induction messages generalizing sender receiver with
  | nil => exact ⟨[], sender, rfl⟩
  | cons message messages ih =>
      have hfirst : ∃ wires middle reader, sealMessage transport message sender = (.ok wires, middle) ∧
          paired middle.transport reader := by
        have hmessage := hsize message (List.mem_cons_self ..)
        rw [sealMessage, if_neg (by omega)]
        split
        · refine exists_sealChunks hlaw hwrites hpaired ?_
          intro piece hpiece
          rw [List.mem_singleton.mp hpiece]
          exact Nat.zero_le _
        · exact exists_sealChunks hlaw hwrites hpaired fun piece hpiece => length_of_mem_chunks hpiece
      obtain ⟨wires, middle, reader, hseal, hmiddle⟩ := hfirst
      obtain ⟨batches, sender', hrest⟩ := @ih middle ⟨reader, []⟩ hmiddle
        fun message hmessage => hsize message (List.mem_cons_of_mem _ hmessage)
      refine ⟨wires :: batches, sender', Call.bind_ok_iff.mpr ⟨wires, middle, hseal, ?_⟩⟩
      exact Call.bind_ok_iff.mpr ⟨batches, sender', hrest, rfl⟩

end Streams

def demoCiphertext : List Octet :=
  [0x9E, 0xD6, 0xE8, 0x46, 0x3F, 0x38, 0x1B, 0x22, 0x2B, 0xEE, 0x81, 0x84, 0x21, 0xC4, 0x47, 0xB9, 0x92]

def demoTransport : Transport ℕ where
  writeMessage nonce plaintext size :=
    if maxNoiseMessage < plaintext.length + tagLen ∨ size < plaintext.length + tagLen then none
    else if nonce = 0 ∧ plaintext = [1] then some (demoCiphertext, nonce + 1)
    else some (plaintext ++ List.replicate tagLen 0, nonce + 1)
  readMessage nonce ciphertext size :=
    if ciphertext.length < tagLen ∨ size + tagLen < ciphertext.length then none
    else if nonce = 0 ∧ ciphertext = demoCiphertext then some ([1], nonce + 1)
    else if ciphertext.drop (ciphertext.length - tagLen) = List.replicate tagLen 0 then
      some (ciphertext.take (ciphertext.length - tagLen), nonce + 1)
    else none

lemma demoTransport_inOrder : demoTransport.InOrder (· = ·) := by
  constructor
  rintro writer _ next plaintext size ciphertext rfl hwrite
  simp only [demoTransport] at hwrite
  split at hwrite
  · cases hwrite
  · split at hwrite
    · next hfirst =>
        obtain ⟨rfl, rfl⟩ := hfirst
        cases hwrite
        refine ⟨rfl, fun size hsize => ⟨1, ?_, rfl⟩⟩
        simp only [demoTransport]
        rw [if_neg, if_pos (by simp)]
        simp only [demoCiphertext, List.length_cons, List.length_nil, tagLen] at hsize ⊢
        omega
    · next hfirst =>
        cases hwrite
        refine ⟨by rw [List.length_append, List.length_replicate], fun size hsize => ⟨writer + 1, ?_, rfl⟩⟩
        have hother : ¬(writer = 0 ∧ plaintext ++ List.replicate tagLen 0 = demoCiphertext) := by
          rintro ⟨-, heq⟩
          have hlast := congrArg List.getLast? heq
          rw [List.getLast?_append_of_ne_nil _ (by decide)] at hlast
          revert hlast
          decide
        simp only [demoTransport]
        rw [if_neg, if_neg hother, List.length_append, List.length_replicate, Nat.add_sub_cancel, List.drop_left,
          List.take_left, if_pos rfl]
        rw [List.length_append, List.length_replicate]
        omega

lemma demoTransport_writes : demoTransport.Writes (· = ·) := by
  intro writer reader plaintext size _ hfits hsize
  simp only [demoTransport]
  rw [if_neg (by omega)]
  split <;> rfl

end SecureChannel

end DevCommandCenter.Remote
