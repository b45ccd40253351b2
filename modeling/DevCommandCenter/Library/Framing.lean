import Mathlib.Data.List.Basic
import Mathlib.Data.Nat.Notation

/-! Records cut from the front of a buffer that fills while a stream arrives. -/

namespace Library

variable {α β ε : Type}

inductive Front (α β ε : Type)
  | record (value : β) (rest : List α)
  | incomplete
  | refused (error : ε)

structure Framing (α β ε : Type) where
  front : List α → Front α β ε
  shorter : ∀ {buffer value rest}, front buffer = .record value rest → rest.length < buffer.length
  record_append : ∀ {buffer value rest}, front buffer = .record value rest →
    ∀ more, front (buffer ++ more) = .record value (rest ++ more)
  refused_append : ∀ {buffer error}, front buffer = .refused error →
    ∀ more, front (buffer ++ more) = .refused error

namespace Framing

def drain (framing : Framing α β ε) (buffer : List α) : Except ε (List β × List α) :=
  match _h : framing.front buffer with
  | .record value rest => (framing.drain rest).map fun drained => (value :: drained.1, drained.2)
  | .incomplete => .ok ([], buffer)
  | .refused error => .error error
termination_by buffer.length
decreasing_by exact framing.shorter ‹_›

def feed (framing : Framing α β ε) (pending piece : List α) : Except ε (List β) × List α :=
  match framing.drain (pending ++ piece) with
  | .ok (values, rest) => (.ok values, rest)
  | .error error => (.error error, pending ++ piece)

def feedEach (framing : Framing α β ε) (pending : List α) :
    List (List α) → List (Except ε (List β)) × List α
  | [] => ([], pending)
  | piece :: pieces =>
      let fed := framing.feed pending piece
      let later := framing.feedEach fed.2 pieces
      (fed.1 :: later.1, later.2)

variable {framing : Framing α β ε} {buffer rest pending : List α} {value : β} {values : List β}
  {error : ε} {pieces : List (List α)}

lemma drain_record (h : framing.front buffer = .record value rest) :
    framing.drain buffer = (framing.drain rest).map fun drained => (value :: drained.1, drained.2) := by
  rw [drain]
  split
  · next hfront =>
      cases hfront.symm.trans h
      rfl
  · next hfront => cases hfront.symm.trans h
  · next hfront => cases hfront.symm.trans h

lemma drain_incomplete (h : framing.front buffer = .incomplete) :
    framing.drain buffer = .ok ([], buffer) := by
  rw [drain]
  split
  · next hfront => cases hfront.symm.trans h
  · rfl
  · next hfront => cases hfront.symm.trans h

lemma drain_refused (h : framing.front buffer = .refused error) : framing.drain buffer = .error error := by
  rw [drain]
  split
  · next hfront => cases hfront.symm.trans h
  · next hfront => cases hfront.symm.trans h
  · next hfront =>
      cases hfront.symm.trans h
      rfl

theorem drain_append (h : framing.drain buffer = .ok (values, rest)) (more : List α) :
    framing.front rest = .incomplete ∧ framing.drain (buffer ++ more) =
      (framing.drain (rest ++ more)).map fun drained => (values ++ drained.1, drained.2) := by
  induction buffer using drain.induct framing generalizing values with
  | case1 buffer value after hfront ih =>
      rw [drain_record hfront] at h
      cases hafter : framing.drain after with
      | error error =>
          rw [hafter] at h
          cases h
      | ok drained =>
          rw [hafter] at h
          cases h
          obtain ⟨hleft, hlater⟩ := ih hafter
          refine ⟨hleft, ?_⟩
          rw [drain_record (framing.record_append hfront more), hlater]
          cases framing.drain (drained.2 ++ more) <;> rfl
  | case2 buffer hfront =>
      rw [drain_incomplete hfront] at h
      cases h
      refine ⟨hfront, ?_⟩
      cases framing.drain (rest ++ more) <;> rfl
  | case3 buffer error hfront =>
      rw [drain_refused hfront] at h
      cases h

lemma drain_error_append (h : framing.drain buffer = .error error) (more : List α) :
    framing.drain (buffer ++ more) = .error error := by
  induction buffer using drain.induct framing with
  | case1 buffer value after hfront ih =>
      rw [drain_record hfront] at h
      cases hafter : framing.drain after with
      | ok drained =>
          rw [hafter] at h
          cases h
      | error found =>
          rw [hafter] at h
          cases h
          rw [drain_record (framing.record_append hfront more), ih hafter]
          rfl
  | case2 buffer hfront =>
      rw [drain_incomplete hfront] at h
      cases h
  | case3 buffer found hfront =>
      rw [drain_refused hfront] at h
      cases h
      exact drain_refused (framing.refused_append hfront more)

lemma feed_ok (h : framing.drain (pending ++ buffer) = .ok (values, rest)) :
    framing.feed pending buffer = (.ok values, rest) := by
  rw [feed, h]

lemma feed_error (h : framing.drain (pending ++ buffer) = .error error) :
    (framing.feed pending buffer).1 = .error error := by
  rw [feed, h]

theorem feedEach_ok (hpending : framing.front pending = .incomplete)
    (h : framing.drain (pending ++ pieces.flatten) = .ok (values, rest)) :
    ∃ batches : List (List β), framing.feedEach pending pieces = (batches.map .ok, rest) ∧
      batches.flatten = values := by
  induction pieces generalizing pending values with
  | nil =>
      rw [List.flatten_nil, List.append_nil, drain_incomplete hpending] at h
      cases h
      exact ⟨[], rfl, rfl⟩
  | cons piece pieces ih =>
      rw [List.flatten_cons, ← List.append_assoc] at h
      cases hpiece : framing.drain (pending ++ piece) with
      | error error =>
          rw [drain_error_append hpiece] at h
          cases h
      | ok drained =>
          obtain ⟨hleft, hlater⟩ := drain_append hpiece pieces.flatten
          rw [hlater] at h
          cases hrest : framing.drain (drained.2 ++ pieces.flatten) with
          | error error =>
              rw [hrest] at h
              cases h
          | ok last =>
              rw [hrest] at h
              cases h
              obtain ⟨batches, hbatches, hvalues⟩ := ih hleft hrest
              refine ⟨drained.1 :: batches, ?_, by rw [List.flatten_cons, hvalues]⟩
              rw [feedEach, feed_ok hpiece]
              dsimp only
              rw [hbatches]
              rfl

theorem feedEach_error (hpending : framing.front pending = .incomplete)
    (h : framing.drain (pending ++ pieces.flatten) = .error error) :
    .error error ∈ (framing.feedEach pending pieces).1 := by
  induction pieces generalizing pending with
  | nil =>
      rw [List.flatten_nil, List.append_nil, drain_incomplete hpending] at h
      cases h
  | cons piece pieces ih =>
      rw [List.flatten_cons, ← List.append_assoc] at h
      rw [feedEach]
      cases hpiece : framing.drain (pending ++ piece) with
      | error found =>
          rw [drain_error_append hpiece] at h
          cases h
          rw [feed_error hpiece]
          exact List.mem_cons_self
      | ok drained =>
          obtain ⟨hleft, hlater⟩ := drain_append hpiece pieces.flatten
          rw [hlater] at h
          apply List.mem_cons_of_mem
          rw [feed_ok hpiece]
          apply ih hleft
          cases hrest : framing.drain (drained.2 ++ pieces.flatten) with
          | ok last =>
              rw [hrest] at h
              cases h
          | error found =>
              rw [hrest] at h
              cases h
              rfl

end Framing

end Library
