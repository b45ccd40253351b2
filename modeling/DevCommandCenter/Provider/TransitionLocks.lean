import DevCommandCenter.Library.Interleaving
import DevCommandCenter.Library.Table

/-! The locks under which a session changes its provider, and a provider its availability. The registry
holds them weakly, and the steps of other transitions come between any two of one transition. -/

namespace DevCommandCenter.Provider

open Library

/-- What the transitions share. A lock is known by the order of its allocation. -/
structure LockRegistry (κ : Type) where
  locks : Table κ ℕ
  -- whether the mutex over the map is taken
  mapLocked : Bool
  strongCount : ℕ → ℕ
  held : ℕ → Bool
  allocated : ℕ

inductive TransitionPhase
  | arrived
  | looking
  | found (lock : ℕ)
  | waiting (lock : ℕ)
  | running (lock : ℕ)
  | unlocked (lock : ℕ)
  | released (lock : ℕ)
  | checking (lock : ℕ) (current : Option ℕ)
  | leaving (lock : ℕ)
  | ended
  deriving DecidableEq

structure Transition (κ : Type) where
  key : κ
  phase : TransitionPhase
  deriving DecidableEq

inductive TransitionInput
  | proceed
  | cancel

def maxRegisteredProviderLocks : ℕ := 16

section Registry

variable {κ : Type} [DecidableEq κ]

namespace LockRegistry

def new : LockRegistry κ where
  locks := ∅
  mapLocked := false
  strongCount _ := 0
  held _ := false
  allocated := 0

def clone (registry : LockRegistry κ) (lock : ℕ) : LockRegistry κ :=
  { registry with
    strongCount := Function.update registry.strongCount lock (registry.strongCount lock + 1) }

def drop (registry : LockRegistry κ) (lock : ℕ) : LockRegistry κ :=
  { registry with
    strongCount := Function.update registry.strongCount lock (registry.strongCount lock - 1) }

def retainLive (registry : LockRegistry κ) : LockRegistry κ :=
  { registry with
    locks := Table.retain (fun _ lock => decide (registry.strongCount lock ≠ 0)) registry.locks }

def upgrade (registry : LockRegistry κ) (key : κ) : Option ℕ :=
  (registry.locks.lookup key).filter fun lock => decide (registry.strongCount lock ≠ 0)

def insertNew (registry : LockRegistry κ) (key : κ) : LockRegistry κ :=
  { registry with
    locks := registry.locks.insert key registry.allocated
    allocated := registry.allocated + 1 }

def transitionLock (capacity : Option ℕ) (registry : LockRegistry κ) (key : κ) :
    Option (ℕ × LockRegistry κ) :=
  match registry.upgrade key with
  | some lock => some (lock, registry.clone lock)
  | none =>
      if capacity.any fun limit => decide (limit ≤ Table.size registry.locks) then none
      else some (registry.allocated, (registry.insertNew key).clone registry.allocated)

def removeTransitionLockIfIdle (registry : LockRegistry κ) (key : κ) (lock current : ℕ) :
    LockRegistry κ :=
  if current = lock ∧ registry.strongCount lock = 2 then
    { registry.drop current with locks := registry.locks.erase key }
  else registry.drop current

end LockRegistry

def Transition.next (capacity : Option ℕ) (registry : LockRegistry κ) (transition : Transition κ) :
    TransitionInput → Option (LockRegistry κ × Transition κ)
  | .cancel =>
      match transition.phase with
      | .waiting lock => some (registry.drop lock, { transition with phase := .leaving lock })
      | _ => none
  | .proceed =>
      match transition.phase with
      | .arrived =>
          if registry.mapLocked then none
          else some ({ registry.retainLive with mapLocked := true },
            { transition with phase := .looking })
      | .looking =>
          match registry.transitionLock capacity transition.key with
          | some (lock, registry) => some ({ registry with mapLocked := false },
              { transition with phase := .found lock })
          | none => some ({ registry with mapLocked := false }, { transition with phase := .ended })
      | .found lock => some (registry.clone lock, { transition with phase := .waiting lock })
      | .waiting lock =>
          if registry.held lock then none
          else some ({ registry with held := Function.update registry.held lock true },
            { transition with phase := .running lock })
      | .running lock => some ({ registry with held := Function.update registry.held lock false },
          { transition with phase := .unlocked lock })
      | .unlocked lock => some (registry.drop lock, { transition with phase := .released lock })
      | .released lock =>
          if registry.mapLocked then none
          else
            match registry.upgrade transition.key with
            | some current => some ({ registry.clone current with mapLocked := true },
                { transition with phase := .checking lock (some current) })
            | none => some ({ registry with mapLocked := true },
                { transition with phase := .checking lock none })
      | .checking lock none => some ({ registry with mapLocked := false },
          { transition with phase := .leaving lock })
      | .checking lock (some current) =>
          some ({ registry.removeTransitionLockIfIdle transition.key lock current with
              mapLocked := false },
            { transition with phase := .leaving lock })
      | .leaving lock => some (registry.drop lock, { transition with phase := .ended })
      | .ended => none

def Transition.enters (transition : Transition κ) : Bool :=
  decide (transition.phase = .arrived)

def transitions (capacity : Option ℕ) : System (Pool (LockRegistry κ) (Transition κ))
    (PoolAction (Transition κ) TransitionInput) Unit :=
  pool .new Transition.enters (Transition.next capacity)

def providerTransitions : System (Pool (LockRegistry String) (Transition String))
    (PoolAction (Transition String) TransitionInput) Unit :=
  transitions none

def providerAvailabilityTransitions : System (Pool (LockRegistry String) (Transition String))
    (PoolAction (Transition String) TransitionInput) Unit :=
  transitions (some maxRegisteredProviderLocks)

def TransitionPhase.references : TransitionPhase → List ℕ
  | .arrived | .looking | .ended => []
  | .found lock | .released lock | .leaving lock => [lock]
  | .waiting lock | .running lock | .unlocked lock => [lock, lock]
  | .checking lock current => lock :: current.toList

def TransitionPhase.needs : TransitionPhase → Option ℕ
  | .found lock | .waiting lock | .running lock => some lock
  | .checking _ current => current
  | _ => none

def TransitionPhase.insideMap : TransitionPhase → Bool
  | .looking | .checking .. => true
  | _ => false

def RunsUnder (lock : ℕ) (transition : Transition κ) : Prop :=
  transition.phase = .running lock

structure Kept (s : Pool (LockRegistry κ) (Transition κ)) : Prop where
  counted : ∀ lock, s.shared.strongCount lock =
    (s.calls.map fun call => call.phase.references.count lock).sum
  allocated : ∀ key lock, s.shared.locks.lookup key = some lock → lock < s.shared.allocated
  known : ∀ call ∈ s.calls, ∀ lock ∈ call.phase.references, lock < s.shared.allocated
  needed : ∀ call ∈ s.calls, ∀ lock ∈ call.phase.needs, s.shared.locks.lookup call.key = some lock
  own : ∀ call ∈ s.calls, ∀ lock ∈ call.phase.references, ∀ key,
    s.shared.locks.lookup key = some lock → key = call.key
  distinct : ∀ key key' lock, s.shared.locks.lookup key = some lock →
    s.shared.locks.lookup key' = some lock → key = key'
  held : ∀ lock, Guards (s.shared.held lock) (RunsUnder lock) s.calls
  inside : Guards s.shared.mapLocked (fun call => call.phase.insideMap = true) s.calls

section Steps

variable {s : Pool (LockRegistry κ) (Transition κ)} {registry : LockRegistry κ}
  {call call' : Transition κ} {i lock : ℕ} {key : κ}

omit [DecidableEq κ] in
lemma mem_references_of_needs {phase : TransitionPhase} (h : phase.needs = some lock) :
    lock ∈ phase.references := by
  cases phase <;> simp_all [TransitionPhase.needs, TransitionPhase.references]

lemma LockRegistry.upgrade_eq_some : registry.upgrade key = some lock ↔
    registry.locks.lookup key = some lock ∧ registry.strongCount lock ≠ 0 := by
  simp [upgrade, Option.filter_eq_some_iff]

lemma Kept.alive (h : Kept s) (hcall : call ∈ s.calls) (hlock : lock ∈ call.phase.references) :
    s.shared.strongCount lock ≠ 0 := by
  have hle := le_sum_map hcall fun call => call.phase.references.count lock
  have hpos := List.count_pos_iff.mpr hlock
  rw [h.counted]
  omega

omit [DecidableEq κ] in
lemma LockRegistry.strongCount_clone (registry : LockRegistry κ) (lock l : ℕ) :
    (registry.clone lock).strongCount l = registry.strongCount l + if lock = l then 1 else 0 := by
  by_cases heq : lock = l
  · subst heq
    simp [clone]
  · simp [clone, heq, Function.update_of_ne (Ne.symm heq)]

omit [DecidableEq κ] in
lemma LockRegistry.strongCount_drop (h : registry.strongCount lock ≠ 0) (l : ℕ) :
    (registry.drop lock).strongCount l + (if lock = l then 1 else 0) = registry.strongCount l := by
  by_cases heq : lock = l
  · subst heq
    simp only [drop, Function.update_self, if_true]
    omega
  · simp [drop, heq, Function.update_of_ne (Ne.symm heq)]

lemma LockRegistry.remove_drop (registry : LockRegistry κ) (key : κ) (lock current : ℕ) :
    (registry.removeTransitionLockIfIdle key lock current).strongCount =
      (registry.drop current).strongCount ∧
    (registry.removeTransitionLockIfIdle key lock current).allocated = registry.allocated ∧
    (registry.removeTransitionLockIfIdle key lock current).held = registry.held := by
  simp only [removeTransitionLockIfIdle]
  split <;> exact ⟨rfl, rfl, rfl⟩

namespace Kept

variable (h : Kept s) (hc : s.calls[i]? = some call)
include h hc

lemma advance (hkey : call'.key = call.key)
    (hcount : ∀ lock, registry.strongCount lock + call.phase.references.count lock =
      s.shared.strongCount lock + call'.phase.references.count lock)
    (hlocks : ∀ key lock, registry.locks.lookup key = some lock → s.shared.locks.lookup key = some lock)
    (hkept : ∀ d ∈ s.calls.set i call', ∀ lock ∈ d.phase.needs,
      s.shared.locks.lookup d.key = some lock → registry.locks.lookup d.key = some lock)
    (hreferences : ∀ lock ∈ call'.phase.references, lock ∈ call.phase.references ∨
      s.shared.locks.lookup call.key = some lock)
    (hneeds : ∀ lock ∈ call'.phase.needs, lock ∈ call.phase.needs ∨
      s.shared.locks.lookup call.key = some lock)
    (hallocated : registry.allocated = s.shared.allocated)
    (hheld : ∀ lock, Guards (registry.held lock) (RunsUnder lock) (s.calls.set i call'))
    (hinside : Guards registry.mapLocked (fun call => call.phase.insideMap = true)
      (s.calls.set i call')) :
    Kept { shared := registry, calls := s.calls.set i call' } where
  counted lock := by
    have hsum := sum_map_set hc call' fun call => call.phase.references.count lock
    have hbefore := h.counted lock
    have hafter := hcount lock
    simp only at hsum ⊢
    omega
  allocated key lock hlookup := hallocated ▸ h.allocated key lock (hlocks key lock hlookup)
  known d hd lock hlock := by
    rw [hallocated]
    rcases mem_set_cases hd with rfl | ⟨j, -, hj⟩
    · rcases hreferences lock hlock with hbefore | hlookup
      · exact h.known call (List.mem_of_getElem? hc) lock hbefore
      · exact h.allocated call.key lock hlookup
    · exact h.known d (List.mem_of_getElem? hj) lock hlock
  needed d hd lock hlock := by
    refine hkept d hd lock hlock ?_
    rcases mem_set_cases hd with rfl | ⟨j, -, hj⟩
    · rw [hkey]
      rcases hneeds lock hlock with hbefore | hlookup
      · exact h.needed call (List.mem_of_getElem? hc) lock hbefore
      · exact hlookup
    · exact h.needed d (List.mem_of_getElem? hj) lock hlock
  own d hd lock hlock key hlookup := by
    rcases mem_set_cases hd with rfl | ⟨j, -, hj⟩
    · rw [hkey]
      rcases hreferences lock hlock with hbefore | hfound
      · exact h.own call (List.mem_of_getElem? hc) lock hbefore key (hlocks key lock hlookup)
      · exact h.distinct key call.key lock (hlocks key lock hlookup) hfound
    · exact h.own d (List.mem_of_getElem? hj) lock hlock key (hlocks key lock hlookup)
  distinct key key' lock hk hk' :=
    h.distinct key key' lock (hlocks key lock hk) (hlocks key' lock hk')
  held := hheld
  inside := hinside

lemma move (hkey : call'.key = call.key)
    (hcount : ∀ lock, registry.strongCount lock + call.phase.references.count lock =
      s.shared.strongCount lock + call'.phase.references.count lock)
    (hlocks : registry.locks = s.shared.locks) (hallocated : registry.allocated = s.shared.allocated)
    (hreferences : ∀ lock ∈ call'.phase.references, lock ∈ call.phase.references ∨
      s.shared.locks.lookup call.key = some lock)
    (hneeds : ∀ lock ∈ call'.phase.needs, lock ∈ call.phase.needs ∨
      s.shared.locks.lookup call.key = some lock)
    (hheld : ∀ lock, Guards (registry.held lock) (RunsUnder lock) (s.calls.set i call'))
    (hinside : Guards registry.mapLocked (fun call => call.phase.insideMap = true)
      (s.calls.set i call')) :
    Kept { shared := registry, calls := s.calls.set i call' } := by
  refine h.advance hc hkey hcount ?_ ?_ hreferences hneeds hallocated hheld hinside
  · intro key lock hlookup
    rwa [hlocks] at hlookup
  · intro d _ lock _ hlookup
    rwa [hlocks]

lemma stay (hkey : call'.key = call.key)
    (hcount : registry.strongCount = s.shared.strongCount) (hlocks : registry.locks = s.shared.locks)
    (hallocated : registry.allocated = s.shared.allocated)
    (hreferences : call'.phase.references = call.phase.references)
    (hneeds : ∀ lock ∈ call'.phase.needs, lock ∈ call.phase.needs)
    (hheld : ∀ lock, Guards (registry.held lock) (RunsUnder lock) (s.calls.set i call'))
    (hinside : Guards registry.mapLocked (fun call => call.phase.insideMap = true)
      (s.calls.set i call')) :
    Kept { shared := registry, calls := s.calls.set i call' } := by
  refine h.move hc hkey ?_ hlocks hallocated ?_ ?_ hheld hinside
  · intro lock
    rw [hcount, hreferences]
  · intro lock hlock
    exact .inl (hreferences ▸ hlock)
  · intro lock hlock
    exact .inl (hneeds lock hlock)

lemma heldKeep (hsame : ∀ lock, RunsUnder lock call' ↔ RunsUnder lock call) (lock : ℕ) :
    Guards (s.shared.held lock) (RunsUnder lock) (s.calls.set i call') :=
  (h.held lock).keep hc (hsame lock)

lemma insideKeep (hsame : call'.phase.insideMap = call.phase.insideMap) :
    Guards s.shared.mapLocked (fun call => call.phase.insideMap = true) (s.calls.set i call') :=
  h.inside.keep hc (by rw [hsame])

lemma insideTake (hfree : s.shared.mapLocked = false) (hinside : call'.phase.insideMap = true) :
    Guards true (fun call => call.phase.insideMap = true) (s.calls.set i call') := by
  have hguards := h.inside
  rw [hfree] at hguards
  exact hguards.take hc hinside

lemma insideRelease
    (hbefore : call.phase.insideMap = true) (hafter : call'.phase.insideMap = false) :
    Guards false (fun call => call.phase.insideMap = true) (s.calls.set i call') :=
  h.inside.release hc hbefore (by rw [hafter]; exact Bool.false_ne_true)

lemma retained (hphase : call.phase = .arrived) (hfree : s.shared.mapLocked = false) :
    Kept { shared := { s.shared.retainLive with mapLocked := true }
           calls := s.calls.set i { call with phase := .looking } } := by
  refine h.advance hc rfl ?_ ?_ ?_ ?_ ?_ rfl (h.heldKeep hc (by simp [RunsUnder, hphase]))
    (h.insideTake hc hfree rfl)
  · intro lock
    rw [hphase]
    rfl
  · intro key lock hlookup
    simp only [LockRegistry.retainLive, Table.lookup_retain] at hlookup
    exact (Option.filter_eq_some_iff.mp hlookup).1
  · intro d hd lock hlock hlookup
    simp only [LockRegistry.retainLive, Table.lookup_retain]
    refine Option.filter_eq_some_iff.mpr ⟨hlookup, ?_⟩
    rcases mem_set_cases hd with rfl | ⟨j, -, hj⟩
    · cases hlock
    · exact decide_eq_true (h.alive (List.mem_of_getElem? hj) (mem_references_of_needs hlock))
  · intro lock hlock
    cases hlock
  · intro lock hlock
    cases hlock

lemma foundLive (hphase : call.phase = .looking)
    (hlookup : s.shared.locks.lookup call.key = some lock) :
    Kept { shared := { s.shared.clone lock with mapLocked := false }
           calls := s.calls.set i { call with phase := .found lock } } := by
  refine h.move hc rfl ?_ rfl rfl ?_ ?_ (h.heldKeep hc (by simp [RunsUnder, hphase]))
    (h.insideRelease hc (by rw [hphase]; rfl) rfl)
  · intro l
    have hclone := s.shared.strongCount_clone lock l
    simp only [hphase, TransitionPhase.references, List.count_nil, List.count_singleton] at hclone ⊢
    simpa using hclone
  · intro l hl
    rw [List.mem_singleton.mp hl]
    exact .inr hlookup
  · rintro l ⟨⟩
    exact .inr hlookup

lemma foundNew (hphase : call.phase = .looking) (hupgrade : s.shared.upgrade call.key = none) :
    Kept { shared := { (s.shared.insertNew call.key).clone s.shared.allocated with mapLocked := false }
           calls := s.calls.set i { call with phase := .found s.shared.allocated } } where
  counted l := by
    have hsum := sum_map_set hc { call with phase := .found s.shared.allocated }
      fun call => call.phase.references.count l
    have hclone := (s.shared.insertNew call.key).strongCount_clone s.shared.allocated l
    have hold : call.phase.references.count l = 0 := by
      rw [hphase]
      rfl
    have hnew : (TransitionPhase.found s.shared.allocated).references.count l =
        if s.shared.allocated = l then 1 else 0 := by
      simp [TransitionPhase.references, List.count_singleton]
    have hbefore : (s.shared.insertNew call.key).strongCount l = _ := h.counted l
    simp only at hsum ⊢
    omega
  allocated key l hlookup := by
    simp only [LockRegistry.clone, LockRegistry.insertNew, Table.lookup_insert_eq] at hlookup ⊢
    split at hlookup
    · cases hlookup
      exact Nat.lt_succ_self _
    · exact (h.allocated key l hlookup).trans (Nat.lt_succ_self _)
  known d hd l hl := by
    rcases mem_set_cases hd with rfl | ⟨j, -, hj⟩
    · rw [List.mem_singleton.mp hl]
      exact Nat.lt_succ_self _
    · exact (h.known d (List.mem_of_getElem? hj) l hl).trans (Nat.lt_succ_self _)
  needed d hd l hl := by
    simp only [LockRegistry.clone, LockRegistry.insertNew, Table.lookup_insert_eq]
    rcases mem_set_cases hd with rfl | ⟨j, -, hj⟩
    · cases hl
      exact if_pos rfl
    · have hmem := List.mem_of_getElem? hj
      have hlookup := h.needed d hmem l hl
      have hlive := h.alive hmem (mem_references_of_needs hl)
      have hne : d.key ≠ call.key := by
        intro heq
        rw [heq] at hlookup
        rw [LockRegistry.upgrade_eq_some.mpr ⟨hlookup, hlive⟩] at hupgrade
        cases hupgrade
      rw [if_neg hne, hlookup]
  own d hd l hl key hlookup := by
    simp only [LockRegistry.clone, LockRegistry.insertNew, Table.lookup_insert_eq] at hlookup
    rcases mem_set_cases hd with rfl | ⟨j, -, hj⟩
    · split at hlookup
      · next heq => exact heq
      · have hlt := h.allocated key l hlookup
        rw [List.mem_singleton.mp hl] at hlt
        exact absurd hlt (Nat.lt_irrefl _)
    · have hmem := List.mem_of_getElem? hj
      split at hlookup
      · cases hlookup
        exact absurd (h.known d hmem _ hl) (Nat.lt_irrefl _)
      · exact h.own d hmem l hl key hlookup
  distinct key key' l hk hk' := by
    simp only [LockRegistry.clone, LockRegistry.insertNew, Table.lookup_insert_eq] at hk hk'
    split at hk
    · next heq =>
        cases hk
        split at hk'
        · next heq' => rw [heq, heq']
        · exact absurd (h.allocated key' _ hk') (Nat.lt_irrefl _)
    · split at hk'
      · cases hk'
        exact absurd (h.allocated key _ hk) (Nat.lt_irrefl _)
      · exact h.distinct key key' l hk hk'
  held := h.heldKeep hc (by simp [RunsUnder, hphase])
  inside := h.insideRelease hc (by rw [hphase]; rfl) rfl

lemma refused (hphase : call.phase = .looking) :
    Kept { shared := { s.shared with mapLocked := false }
           calls := s.calls.set i { call with phase := .ended } } := by
  refine h.stay hc rfl rfl rfl rfl (by rw [hphase]; rfl) (by rintro l ⟨⟩)
    (h.heldKeep hc (by simp [RunsUnder, hphase])) (h.insideRelease hc (by rw [hphase]; rfl) rfl)

lemma cloned (hphase : call.phase = .found lock) :
    Kept { shared := s.shared.clone lock
           calls := s.calls.set i { call with phase := .waiting lock } } := by
  refine h.move hc rfl ?_ rfl rfl ?_ ?_ (h.heldKeep hc (by simp [RunsUnder, hphase]))
    (h.insideKeep hc (by rw [hphase]; rfl))
  · intro l
    have hclone := s.shared.strongCount_clone lock l
    simp only [hphase, TransitionPhase.references, List.count_cons, List.count_nil, beq_iff_eq]
    omega
  · intro l hl
    left
    rw [hphase]
    simpa [TransitionPhase.references] using hl
  · intro l hl
    left
    rw [hphase]
    exact hl

lemma dropped (hkey : call'.key = call.key)
    (hreferences : call.phase.references = lock :: call'.phase.references)
    (hneeds : call'.phase.needs = none) (hruns : ∀ lock, RunsUnder lock call' ↔ RunsUnder lock call)
    (hinside : call'.phase.insideMap = call.phase.insideMap) :
    Kept { shared := s.shared.drop lock, calls := s.calls.set i call' } := by
  have hmem : lock ∈ call.phase.references := hreferences ▸ List.mem_cons_self
  refine h.move hc hkey ?_ rfl rfl ?_ ?_ (h.heldKeep hc hruns) (h.insideKeep hc hinside)
  · intro l
    have hdrop := LockRegistry.strongCount_drop (h.alive (List.mem_of_getElem? hc) hmem) l
    rw [hreferences, List.count_cons]
    simp only [beq_iff_eq]
    omega
  · intro l hl
    left
    rw [hreferences]
    exact List.mem_cons_of_mem _ hl
  · intro l hl
    rw [hneeds] at hl
    cases hl

lemma started (hphase : call.phase = .waiting lock) (hfree : s.shared.held lock = false) :
    Kept { shared := { s.shared with held := Function.update s.shared.held lock true }
           calls := s.calls.set i { call with phase := .running lock } } := by
  refine h.stay hc rfl rfl rfl rfl (by rw [hphase]; rfl) (by rw [hphase]; exact fun _ hl => hl) ?_
    (h.insideKeep hc (by rw [hphase]; rfl))
  intro l
  have hguards := h.held l
  by_cases heq : l = lock
  · subst heq
    rw [hfree] at hguards
    simp only [Function.update_self]
    exact hguards.take hc rfl
  · simp only [Function.update_of_ne heq]
    exact hguards.keep hc (by simp [RunsUnder, hphase, Ne.symm heq])

lemma finished (hphase : call.phase = .running lock) :
    Kept { shared := { s.shared with held := Function.update s.shared.held lock false }
           calls := s.calls.set i { call with phase := .unlocked lock } } := by
  refine h.stay hc rfl rfl rfl rfl (by rw [hphase]; rfl) (by rintro l ⟨⟩) ?_
    (h.insideKeep hc (by rw [hphase]; rfl))
  intro l
  have hguards := h.held l
  by_cases heq : l = lock
  · subst heq
    simp only [Function.update_self]
    exact hguards.release hc hphase (by simp [RunsUnder])
  · simp only [Function.update_of_ne heq]
    exact hguards.keep hc (by simp [RunsUnder, hphase, Ne.symm heq])

lemma upgraded (hphase : call.phase = .released lock)
    (hfree : s.shared.mapLocked = false) {current : ℕ}
    (hlookup : s.shared.locks.lookup call.key = some current) :
    Kept { shared := { s.shared.clone current with mapLocked := true }
           calls := s.calls.set i { call with phase := .checking lock (some current) } } := by
  refine h.move hc rfl ?_ rfl rfl ?_ ?_ (h.heldKeep hc (by simp [RunsUnder, hphase]))
    (h.insideTake hc hfree rfl)
  · intro l
    have hclone := s.shared.strongCount_clone current l
    simp only [hphase, TransitionPhase.references, List.count_cons, List.count_nil,
      Option.toList_some, beq_iff_eq]
    omega
  · intro l hl
    rcases List.mem_cons.mp hl with rfl | hl
    · left
      rw [hphase]
      exact List.mem_singleton_self _
    · right
      rw [List.mem_singleton.mp hl]
      exact hlookup
  · rintro l ⟨⟩
    exact .inr hlookup

lemma unlisted (hphase : call.phase = .released lock) (hfree : s.shared.mapLocked = false) :
    Kept { shared := { s.shared with mapLocked := true }
           calls := s.calls.set i { call with phase := .checking lock none } } := by
  refine h.stay hc rfl rfl rfl rfl (by rw [hphase]; rfl) (by rintro l ⟨⟩)
    (h.heldKeep hc (by simp [RunsUnder, hphase])) (h.insideTake hc hfree rfl)

lemma left (hphase : call.phase = .checking lock none) :
    Kept { shared := { s.shared with mapLocked := false }
           calls := s.calls.set i { call with phase := .leaving lock } } := by
  refine h.stay hc rfl rfl rfl rfl (by rw [hphase]; rfl) (by rintro l ⟨⟩)
    (h.heldKeep hc (by simp [RunsUnder, hphase])) (h.insideRelease hc (by rw [hphase]; rfl) rfl)

lemma swept {current : ℕ} (hphase : call.phase = .checking lock (some current)) :
    Kept { shared := { s.shared.removeTransitionLockIfIdle call.key lock current with mapLocked := false }
           calls := s.calls.set i { call with phase := .leaving lock } } := by
  have hmem : current ∈ call.phase.references := by simp [hphase, TransitionPhase.references]
  have hlive := h.alive (List.mem_of_getElem? hc) hmem
  obtain ⟨hcount, hallocated, hheld⟩ := s.shared.remove_drop call.key lock current
  refine h.advance hc rfl ?_ ?_ ?_ ?_ ?_ hallocated ?_ (h.insideRelease hc (by rw [hphase]; rfl) rfl)
  · intro l
    have hdrop := LockRegistry.strongCount_drop hlive l
    simp only [hcount, hphase, TransitionPhase.references, List.count_cons, List.count_nil,
      Option.toList_some, beq_iff_eq]
    omega
  · intro key l hlookup
    simp only [LockRegistry.removeTransitionLockIfIdle] at hlookup
    split at hlookup
    · simp only [Table.lookup_erase_eq] at hlookup
      split at hlookup
      · cases hlookup
      · exact hlookup
    · exact hlookup
  · intro d hd l hl hlookup
    simp only [LockRegistry.removeTransitionLockIfIdle]
    split
    · next hidle =>
        obtain ⟨rfl, htwo⟩ := hidle
        simp only [Table.lookup_erase_eq]
        rcases mem_set_cases hd with rfl | ⟨j, hne, hj⟩
        · cases hl
        · rw [if_neg, hlookup]
          intro heq
          have hcaller := h.needed call (List.mem_of_getElem? hc) current (by rw [hphase]; rfl)
          rw [heq, hcaller] at hlookup
          cases hlookup
          have hsum := add_le_sum_map hc hj (Ne.symm hne)
            fun call => call.phase.references.count current
          have hown : call.phase.references.count current = 2 := by
            simp [hphase, TransitionPhase.references]
          have hother := List.count_pos_iff.mpr (mem_references_of_needs hl)
          have hcounted := h.counted current
          omega
    · exact hlookup
  · intro l hl
    left
    rw [hphase]
    exact List.mem_cons.mpr (.inl (List.mem_singleton.mp hl))
  · intro l hl
    cases hl
  · intro l
    simp only [hheld]
    exact h.heldKeep hc (by simp [RunsUnder, hphase]) l

end Kept

theorem Kept.next (h : Kept s) (hc : s.calls[i]? = some call) {capacity : Option ℕ}
    {input : TransitionInput} (hnext : Transition.next capacity s.shared call input = some (registry, call')) :
    Kept { shared := registry, calls := s.calls.set i call' } := by
  obtain ⟨key, phase⟩ := call
  cases input with
  | cancel =>
      cases phase <;> simp only [Transition.next, reduceCtorEq, Option.some.injEq, Prod.mk.injEq] at hnext
      obtain ⟨rfl, rfl⟩ := hnext
      exact h.dropped hc rfl rfl rfl (by simp [RunsUnder]) rfl
  | proceed =>
      cases phase with
      | arrived =>
          simp only [Transition.next] at hnext
          split at hnext
          · cases hnext
          · next hfree =>
              cases hnext
              exact h.retained hc rfl (Bool.eq_false_iff.mpr hfree)
      | looking =>
          simp only [Transition.next, LockRegistry.transitionLock] at hnext
          cases hupgrade : s.shared.upgrade key with
          | some lock =>
              simp only [hupgrade] at hnext
              cases hnext
              exact h.foundLive hc rfl (LockRegistry.upgrade_eq_some.mp hupgrade).1
          | none =>
              simp only [hupgrade] at hnext
              split at hnext
              · next heq =>
                  split at heq
                  · cases heq
                  · cases heq
                    cases hnext
                    exact h.foundNew hc rfl hupgrade
              · cases hnext
                exact h.refused hc rfl
      | found lock =>
          cases hnext
          exact h.cloned hc rfl
      | waiting lock =>
          simp only [Transition.next] at hnext
          split at hnext
          · cases hnext
          · next hfree =>
              cases hnext
              exact h.started hc rfl (Bool.eq_false_iff.mpr hfree)
      | running lock =>
          cases hnext
          exact h.finished hc rfl
      | unlocked lock =>
          cases hnext
          exact h.dropped hc rfl rfl rfl (by simp [RunsUnder]) rfl
      | released lock =>
          simp only [Transition.next] at hnext
          split at hnext
          · cases hnext
          · next hfree =>
              split at hnext
              · next current hupgrade =>
                  cases hnext
                  exact h.upgraded hc rfl (Bool.eq_false_iff.mpr hfree)
                    (LockRegistry.upgrade_eq_some.mp hupgrade).1
              · cases hnext
                exact h.unlisted hc rfl (Bool.eq_false_iff.mpr hfree)
      | checking lock current =>
          cases current with
          | none =>
              cases hnext
              exact h.left hc rfl
          | some current =>
              cases hnext
              exact h.swept hc rfl
      | leaving lock =>
          cases hnext
          exact h.dropped hc rfl rfl rfl (by simp [RunsUnder]) rfl
      | ended => cases hnext

lemma Kept.entered (h : Kept s) (harrived : call.phase = .arrived) :
    Kept { s with calls := s.calls ++ [call] } where
  counted lock := by simp [h.counted lock, harrived, TransitionPhase.references]
  allocated := h.allocated
  known := List.forall_mem_append.mpr ⟨h.known, by simp [harrived, TransitionPhase.references]⟩
  needed := List.forall_mem_append.mpr ⟨h.needed, by simp [harrived, TransitionPhase.needs]⟩
  own := List.forall_mem_append.mpr ⟨h.own, by simp [harrived, TransitionPhase.references]⟩
  distinct := h.distinct
  held lock := (h.held lock).append (by simp [RunsUnder, harrived])
  inside := h.inside.append (by simp [harrived, TransitionPhase.insideMap])

lemma kept_new : Kept { shared := (.new : LockRegistry κ), calls := [] } where
  counted _ := rfl
  allocated _ _ hlookup := by cases hlookup
  known _ hcall := by cases hcall
  needed _ hcall := by cases hcall
  own _ hcall := by cases hcall
  distinct _ _ _ hlookup := by cases hlookup
  held lock :=
    { alone := fun _ _ _ _ hi => by simp at hi
      taken := by simp [LockRegistry.new] }
  inside :=
    { alone := fun _ _ _ _ hi => by simp at hi
      taken := by simp [LockRegistry.new] }

theorem kept_of_reachable {capacity : Option ℕ} (h : (transitions capacity).Reachable s) : Kept s := by
  refine h.invariant kept_new ?_
  intro s action answer t hkept hstep
  cases action with
  | enter call =>
      obtain ⟨henters, rfl⟩ := pool_enter.mp hstep
      exact hkept.entered (of_decide_eq_true henters)
  | advance i input =>
      obtain ⟨call, hc, registry, call', hnext, rfl⟩ := pool_advance.mp hstep
      exact hkept.next hc hnext

lemma Transition.proceeds (capacity : Option ℕ) (registry : LockRegistry κ) (call : Transition κ)
    (hended : call.phase ≠ .ended)
    (hmap : call.phase.insideMap = false → registry.mapLocked = false)
    (hlock : ∀ lock, call.phase = .waiting lock → registry.held lock = false) :
    (Transition.next capacity registry call .proceed).isSome = true := by
  obtain ⟨key, phase⟩ := call
  cases phase with
  | arrived => simp [next, hmap rfl]
  | looking =>
      simp only [next]
      split <;> rfl
  | waiting lock => simp [next, hlock lock rfl]
  | released lock =>
      simp only [next, hmap rfl]
      cases registry.upgrade key <;> rfl
  | checking lock current => cases current <;> rfl
  | ended => exact absurd rfl hended
  | _ => rfl

structure Serialized (capacity : Option ℕ) (s : Pool (LockRegistry κ) (Transition κ)) : Prop where
  alone : ∀ key, Alone (fun call : Transition κ => call.key = key ∧ ∃ lock, RunsUnder lock call) s.calls
  behind : ∀ call ∈ s.calls, ∀ lock, call.phase = .waiting lock → s.shared.held lock = true →
    ∃ other ∈ s.calls, other.key = call.key ∧ RunsUnder lock other
  moves : (∃ call ∈ s.calls, call.phase ≠ .ended) → ∃ call ∈ s.calls,
    (Transition.next capacity s.shared call .proceed).isSome = true
  listed : ∀ key lock, s.shared.retainLive.locks.lookup key = some lock →
    ∃ call ∈ s.calls, call.key = key ∧ lock ∈ call.phase.references

lemma Kept.alone (h : Kept s) (key : κ) :
    Alone (fun call : Transition κ => call.key = key ∧ ∃ lock, RunsUnder lock call) s.calls := by
  rintro i j c d hi hj ⟨hckey, lock, hc⟩ ⟨hdkey, lock', hd⟩
  have hclookup := h.needed c (List.mem_of_getElem? hi) lock (by rw [hc]; rfl)
  have hdlookup := h.needed d (List.mem_of_getElem? hj) lock' (by rw [hd]; rfl)
  rw [hckey] at hclookup
  rw [hdkey, hclookup] at hdlookup
  obtain rfl := Option.some.inj hdlookup
  exact (h.held lock).alone i j c d hi hj hc hd

lemma Kept.behind (h : Kept s) (hcall : call ∈ s.calls) (hphase : call.phase = .waiting lock)
    (hheld : s.shared.held lock = true) :
    ∃ other ∈ s.calls, other.key = call.key ∧ RunsUnder lock other := by
  obtain ⟨other, hother, hruns⟩ := (h.held lock).taken.mp hheld
  have hlookup := h.needed other hother lock (by rw [hruns]; rfl)
  have hmem : lock ∈ call.phase.references := by simp [hphase, TransitionPhase.references]
  exact ⟨other, hother, h.own call hcall lock hmem other.key hlookup, hruns⟩

lemma Kept.moves (h : Kept s) (capacity : Option ℕ) (hcall : call ∈ s.calls)
    (hended : call.phase ≠ .ended) : ∃ call ∈ s.calls,
    (Transition.next capacity s.shared call .proceed).isSome = true := by
  by_cases hmap : s.shared.mapLocked = true
  · obtain ⟨other, hother, hinside⟩ := h.inside.taken.mp hmap
    refine ⟨other, hother, other.proceeds capacity s.shared ?_ (fun hout => ?_) ?_⟩
    · intro hphase
      simp [hphase, TransitionPhase.insideMap] at hinside
    · simp [hout] at hinside
    · intro lock hphase
      simp [hphase, TransitionPhase.insideMap] at hinside
  · by_cases hwaits : ∃ lock, call.phase = .waiting lock ∧ s.shared.held lock = true
    · obtain ⟨lock, hphase, hheld⟩ := hwaits
      obtain ⟨other, hother, -, hruns⟩ := h.behind hcall hphase hheld
      refine ⟨other, hother, other.proceeds capacity s.shared ?_ (fun _ => Bool.eq_false_iff.mpr hmap) ?_⟩
      · rw [hruns]
        exact TransitionPhase.noConfusion
      · intro lock' hphase'
        rw [hruns] at hphase'
        cases hphase'
    · refine ⟨call, hcall, call.proceeds capacity s.shared hended (fun _ => Bool.eq_false_iff.mpr hmap) ?_⟩
      intro lock hphase
      exact Bool.eq_false_iff.mpr fun hheld => hwaits ⟨lock, hphase, hheld⟩

lemma Kept.listed (h : Kept s) (hlookup : s.shared.retainLive.locks.lookup key = some lock) :
    ∃ call ∈ s.calls, call.key = key ∧ lock ∈ call.phase.references := by
  simp only [LockRegistry.retainLive, Table.lookup_retain] at hlookup
  obtain ⟨hentry, hlive⟩ := Option.filter_eq_some_iff.mp hlookup
  have hsum : (s.calls.map fun call => call.phase.references.count lock).sum ≠ 0 := by
    rw [← h.counted]
    exact of_decide_eq_true hlive
  obtain ⟨call, hcall, hcount⟩ := exists_of_sum_ne_zero hsum
  have hlock := List.count_pos_iff.mp (Nat.pos_of_ne_zero hcount)
  exact ⟨call, hcall, (h.own call hcall lock hlock key hentry).symm, hlock⟩

theorem transitions_serialized {capacity : Option ℕ} (h : (transitions capacity).Reachable s) :
    Serialized capacity s where
  alone := (kept_of_reachable h).alone
  behind _ hcall _ := (kept_of_reachable h).behind hcall
  moves := by
    rintro ⟨call, hcall, hended⟩
    exact (kept_of_reachable h).moves capacity hcall hended
  listed _ _ := (kept_of_reachable h).listed

end Steps

end Registry

def demoTransitions : Pool (LockRegistry String) (Transition String) :=
  providerTransitions.exec providerTransitions.start
    [.enter ⟨"a", .arrived⟩, .enter ⟨"b", .arrived⟩, .enter ⟨"a", .arrived⟩,
      .advance 0 .proceed, .advance 0 .proceed, .advance 0 .proceed, .advance 0 .proceed,
      .advance 1 .proceed, .advance 1 .proceed, .advance 1 .proceed, .advance 1 .proceed,
      .advance 2 .proceed, .advance 2 .proceed, .advance 2 .proceed, .advance 2 .proceed]

theorem second_selection_waits :
    demoTransitions.calls = [⟨"a", .running 0⟩, ⟨"b", .running 1⟩, ⟨"a", .waiting 0⟩] ∧
      Serialized none demoTransitions :=
  ⟨by decide, transitions_serialized (System.Reachable.start.exec _)⟩

end DevCommandCenter.Provider
