import DevCommandCenter.Terminals.Titles

/-! The output of a terminal, read in chunks and sent on in batches. -/

namespace DevCommandCenter.Terminals

open Library

def maxBatchBytes : ℕ := 128 * 1024

/-- What one wait for output comes to: a chunk and all of the chunks that are there behind it, or none
in the interval of a flush. -/
inductive Received where
  | chunks (chunk : List Octet) (more : List (List Octet))
  | timedOut

def Received.bytes : Received → List Octet
  | chunks chunk more => chunk ++ more.flatten
  | timedOut => []

structure Batching where
  pending : List Octet
  reader : TitleReader
  output : List String

namespace Batching

variable (isDecimal : Char → Bool)

def flushPending (batching : Batching) : Batching :=
  if batching.pending = [] then batching
  else
    { pending := []
      reader := updateTerminalTitleFromBytes isDecimal batching.reader batching.pending
      output := batching.output ++ [String.ofList (Utf8.lossy batching.pending)] }

def extend (batching : Batching) (chunk : List Octet) : Batching :=
  { batching with pending := batching.pending ++ chunk }

def flushFull (batching : Batching) : Batching :=
  if maxBatchBytes ≤ batching.pending.length then batching.flushPending isDecimal else batching

def receive (batching : Batching) : Received → Batching
  | .chunks chunk more =>
      (more.foldl (fun batching chunk => (batching.extend chunk).flushFull isDecimal)
        (batching.extend chunk)).flushFull isDecimal
  | .timedOut => batching.flushPending isDecimal

def readAll (batching : Batching) (events : List Received) : Batching :=
  (events.foldl (receive isDecimal) batching).flushPending isDecimal

end Batching

structure Pace where
  read : ℕ
  waiting : ℕ
  flushes : List ℕ

namespace Pace

def flush (pace : Pace) : Pace :=
  if pace.waiting = 0 then pace else { pace with waiting := 0, flushes := pace.flushes ++ [pace.read] }

def extend (pace : Pace) (size : ℕ) : Pace :=
  { pace with read := pace.read + size, waiting := pace.waiting + size }

def flushFull (pace : Pace) : Pace :=
  if maxBatchBytes ≤ pace.waiting then pace.flush else pace

def receive (pace : Pace) : Received → Pace
  | .chunks chunk more =>
      (more.foldl (fun pace chunk => (pace.extend chunk.length).flushFull) (pace.extend chunk.length)).flushFull
  | .timedOut => pace.flush

end Pace

def flushPoints (events : List Received) : List ℕ :=
  ((events.foldl Pace.receive ⟨0, 0, []⟩).flush).flushes

structure Paced (pieces : List (List Octet)) (read : List Octet) (batching : Batching) (pace : Pace) : Prop where
  output : batching.output = pieces.map fun piece => String.ofList (Utf8.lossy piece)
  parts : pieces.flatten ++ batching.pending = read
  read : pace.read = read.length
  waiting : pace.waiting = batching.pending.length
  flushes : ∀ n, n ∈ pace.flushes ↔ ∃ i < pieces.length, n = (pieces.take (i + 1)).flatten.length

section Paced

variable (isDecimal : Char → Bool) {pieces : List (List Octet)} {read : List Octet} {batching : Batching}
  {pace : Pace}

lemma Paced.flush (h : Paced pieces read batching pace) :
    ∃ pieces, Paced pieces read (batching.flushPending isDecimal) pace.flush := by
  cases hpending : batching.pending with
  | nil =>
      refine ⟨pieces, ?_⟩
      rw [Batching.flushPending, if_pos hpending, Pace.flush, if_pos]
      · exact h
      · rw [h.waiting, hpending, List.length_nil]
  | cons b bytes =>
      have hne : batching.pending ≠ [] := by simp [hpending]
      have hsome : pace.waiting ≠ 0 := by simp [h.waiting, hpending]
      refine ⟨pieces ++ [batching.pending], ?_⟩
      rw [Batching.flushPending, if_neg hne, Pace.flush, if_neg hsome]
      constructor
      · rw [h.output, List.map_append, List.map_singleton]
      · rw [List.flatten_append, List.flatten_singleton, List.append_nil]
        exact h.parts
      · exact h.read
      · rfl
      · intro n
        dsimp only
        rw [List.mem_append, h.flushes, List.mem_singleton, h.read, ← h.parts, List.length_append]
        constructor
        · rintro (⟨i, hi, rfl⟩ | rfl)
          · refine ⟨i, by rw [List.length_append]; exact Nat.lt_add_right _ hi, ?_⟩
            rw [List.take_append_of_le_length (Nat.succ_le_of_lt hi)]
          · refine ⟨pieces.length, by simp, ?_⟩
            rw [List.take_of_length_le (by simp)]
            simp
        · rintro ⟨i, hi, rfl⟩
          rcases Nat.lt_or_ge i pieces.length with hlt | hge
          · left
            refine ⟨i, hlt, ?_⟩
            rw [List.take_append_of_le_length (Nat.succ_le_of_lt hlt)]
          · right
            rw [List.take_of_length_le (by simpa using hge)]
            simp

lemma Paced.extend (h : Paced pieces read batching pace) (chunk : List Octet) :
    Paced pieces (read ++ chunk) (batching.extend chunk) (pace.extend chunk.length) := by
  constructor
  · exact h.output
  · rw [← h.parts, List.append_assoc]
    rfl
  · rw [List.length_append, ← h.read]
    rfl
  · rw [Batching.extend, List.length_append, ← h.waiting]
    rfl
  · exact h.flushes

lemma Paced.flushFull (h : Paced pieces read batching pace) :
    ∃ pieces, Paced pieces read (batching.flushFull isDecimal) pace.flushFull := by
  rw [Batching.flushFull, Pace.flushFull, h.waiting]
  split
  · exact h.flush isDecimal
  · exact ⟨pieces, h⟩

lemma Paced.more (h : Paced pieces read batching pace) (chunks : List (List Octet)) :
    ∃ pieces, Paced pieces (read ++ chunks.flatten)
      (chunks.foldl (fun batching chunk => (batching.extend chunk).flushFull isDecimal) batching)
      (chunks.foldl (fun pace chunk => (pace.extend chunk.length).flushFull) pace) := by
  induction chunks generalizing pieces read batching pace with
  | nil => exact ⟨pieces, by simpa using h⟩
  | cons chunk chunks ih =>
      obtain ⟨pieces', hnext⟩ := (h.extend chunk).flushFull isDecimal
      obtain ⟨pieces'', hlast⟩ := ih hnext
      refine ⟨pieces'', ?_⟩
      rw [List.flatten_cons, ← List.append_assoc]
      exact hlast

lemma Paced.receive (h : Paced pieces read batching pace) (event : Received) :
    ∃ pieces, Paced pieces (read ++ event.bytes) (batching.receive isDecimal event) (pace.receive event) := by
  cases event with
  | chunks chunk more =>
      obtain ⟨pieces', hmore⟩ := (h.extend chunk).more isDecimal more
      rw [List.append_assoc] at hmore
      exact hmore.flushFull isDecimal
  | timedOut =>
      rw [Received.bytes, List.append_nil]
      exact h.flush isDecimal

lemma Paced.run (h : Paced pieces read batching pace) (events : List Received) :
    ∃ pieces, Paced pieces (read ++ events.flatMap Received.bytes)
      (events.foldl (Batching.receive isDecimal) batching) (events.foldl Pace.receive pace) := by
  induction events generalizing pieces read batching pace with
  | nil => exact ⟨pieces, by simpa using h⟩
  | cons event events ih =>
      obtain ⟨pieces', hnext⟩ := h.receive isDecimal event
      obtain ⟨pieces'', hlast⟩ := ih hnext
      refine ⟨pieces'', ?_⟩
      rw [List.flatMap_cons, ← List.append_assoc]
      exact hlast

lemma Paced.joined (h : Paced pieces read batching pace) :
    String.join batching.output = String.ofList (pieces.flatMap Utf8.lossy) := by
  rw [h.output, ← String.toList_inj, String.toList_join, String.toList_ofList, List.flatMap_map]
  simp only [String.toList_ofList]

lemma pending_flushPending (batching : Batching) : (batching.flushPending isDecimal).pending = [] := by
  rw [Batching.flushPending]
  split
  · assumption
  · rfl

lemma Paced.splits_iff (h : Paced pieces read batching pace) (hpending : batching.pending = []) :
    (∀ i, Utf8.splits (pieces.take i).flatten (pieces.drop i).flatten = false) ↔
      ∀ n ∈ pace.flushes, Utf8.splits (read.take n) (read.drop n) = false := by
  have hread : read = pieces.flatten := by rw [← h.parts, hpending, List.append_nil]
  have hcut : ∀ i, read.take (pieces.take i).flatten.length = (pieces.take i).flatten ∧
      read.drop (pieces.take i).flatten.length = (pieces.drop i).flatten := by
    intro i
    have hwhole : read = (pieces.take i).flatten ++ (pieces.drop i).flatten := by
      rw [hread, ← List.flatten_append, List.take_append_drop]
    rw [hwhole, List.take_left, List.drop_left]
    exact ⟨rfl, rfl⟩
  constructor
  · intro hpieces n hn
    obtain ⟨i, -, rfl⟩ := (h.flushes n).mp hn
    rw [(hcut (i + 1)).1, (hcut (i + 1)).2]
    exact hpieces (i + 1)
  · intro hflushes i
    cases i with
    | zero =>
        rw [Utf8.splits]
        cases (pieces.drop 0).flatten <;> rfl
    | succ i =>
        rcases Nat.lt_or_ge i pieces.length with hlt | hge
        · have hn := hflushes _ ((h.flushes _).mpr ⟨i, hlt, rfl⟩)
          rwa [(hcut (i + 1)).1, (hcut (i + 1)).2] at hn
        · rw [List.drop_of_length_le (by omega)]
          rfl

end Paced

section Output

variable (isDecimal : Char → Bool)

/-- The data of the events, put together, is the text of the stream, errors replaced, when and only when
no flush cuts a character in two. -/
theorem output_iff (events : List Received) (title : Option String) :
    String.join (Batching.readAll isDecimal ⟨[], ⟨[], title⟩, []⟩ events).output =
        String.ofList (Utf8.lossy (events.flatMap Received.bytes)) ↔
      ∀ n ∈ flushPoints events, Utf8.splits ((events.flatMap Received.bytes).take n)
        ((events.flatMap Received.bytes).drop n) = false := by
  have hstart : Paced [] [] ⟨[], ⟨[], title⟩, []⟩ ⟨0, 0, []⟩ := ⟨rfl, rfl, rfl, rfl, by simp⟩
  obtain ⟨pieces, hrun⟩ := hstart.run isDecimal events
  obtain ⟨pieces', hend⟩ := hrun.flush isDecimal
  rw [List.nil_append] at hend
  have hpending := pending_flushPending isDecimal (events.foldl (Batching.receive isDecimal) ⟨[], ⟨[], title⟩, []⟩)
  rw [flushPoints, ← hend.splits_iff hpending, ← Utf8.lossy_flatten_iff, Batching.readAll, hend.joined,
    ← hend.parts, hpending, List.append_nil, String.ofList_inj]
  exact eq_comm

theorem output_cut : ¬∀ (isDecimal : Char → Bool) (events : List Received) (title : Option String),
    String.join (Batching.readAll isDecimal ⟨[], ⟨[], title⟩, []⟩ events).output =
      String.ofList (Utf8.lossy (events.flatMap Received.bytes)) := by
  intro h
  have hcut := h (fun _ => false) [.chunks [0xC3] [], .timedOut, .chunks [0xA9] []] none
  have hsent : (Batching.readAll (fun _ => false) ⟨[], ⟨[], none⟩, []⟩
      [.chunks [0xC3] [], .timedOut, .chunks [0xA9] []]).output =
      [String.ofList (Utf8.lossy [0xC3]), String.ofList (Utf8.lossy [0xA9])] := rfl
  have htext := congrArg String.toList hcut
  rw [hsent, String.toList_join, List.flatMap_cons, List.flatMap_singleton, String.toList_ofList,
    String.toList_ofList, String.toList_ofList] at htext
  have hlength := congrArg List.length htext
  revert hlength
  decide

end Output

end DevCommandCenter.Terminals
