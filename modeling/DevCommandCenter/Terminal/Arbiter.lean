import DevCommandCenter.Library.Table
import DevCommandCenter.Library.Transition
import DevCommandCenter.Session.Events
import Mathlib.Algebra.GroupWithZero.Nat

/-! The terminal arbiter, with one step for each time a claim holds the registry lock. -/

namespace DevCommandCenter

open Library

structure TerminalKey where
  sessionId : SessionId
  turnId : TurnId
  deriving DecidableEq, Repr

inductive TerminalIntent
  | completed
  | aborted
  | providerFailed
  deriving DecidableEq, Repr

abbrev TerminalOutcome := TerminalIntent

inductive TerminalArbiterError
  | timedOut
  | poisoned
  | claimCapacityExhausted
  | staleClaim
  deriving DecidableEq, Repr

def maxActiveClaims : ℕ := 1024

def maxCommittedTombstones : ℕ := 4096

def u64Max : ℕ := 2 ^ 64 - 1

-- `address` is the allocation behind the `Arc`, which `Arc::ptr_eq` compares.
structure Entry where
  address : ℕ
  owner : ℕ
  intent : TerminalIntent
  deriving DecidableEq, Repr

structure CommittedRecord where
  outcome : TerminalOutcome
  generation : ℕ
  deriving DecidableEq, Repr

structure Registry where
  active : Table TerminalKey Entry
  committed : Table TerminalKey CommittedRecord
  committedOrder : List (TerminalKey × ℕ)

structure TerminalClaim where
  key : TerminalKey
  entry : Entry
  active : Bool
  -- set once `persist_then_commit` has consumed the claim
  persisted : Bool
  deriving DecidableEq, Repr

inductive TerminalClaimResult
  | leader (claim : ℕ)
  | alreadyCommitted (outcome : TerminalOutcome)
  deriving DecidableEq, Repr

namespace Registry

def isCurrent (registry : Registry) (claim : TerminalClaim) : Bool :=
  match registry.active.lookup claim.key with
  | some current =>
      decide (current.address = claim.entry.address ∧ current.owner = claim.entry.owner)
  | none => false

def evict (committed : Table TerminalKey CommittedRecord) :
    List (TerminalKey × ℕ) → Table TerminalKey CommittedRecord × List (TerminalKey × ℕ) × Bool
  | [] => (committed, [], decide (maxCommittedTombstones < committed.size))
  | (candidate, generation) :: order =>
      if maxCommittedTombstones < committed.size then
        if (committed.lookup candidate).any fun record => record.generation = generation then
          evict (committed.erase candidate) order
        else evict committed order
      else (committed, (candidate, generation) :: order, false)

def commitAfterPersistence (registry : Registry) (claim : TerminalClaim)
    (canonicalOutcome : TerminalOutcome) :
    Except TerminalArbiterError TerminalOutcome × Registry :=
  if registry.isCurrent claim then
    let committed := registry.committed.insert claim.key
      { outcome := canonicalOutcome, generation := claim.entry.owner }
    let order := registry.committedOrder ++ [(claim.key, claim.entry.owner)]
    let (committed, order, ranDry) := evict committed order
    (if ranDry then .error .poisoned else .ok canonicalOutcome,
      { active := registry.active.erase claim.key
        committed := committed
        committedOrder := order })
  else (.error .staleClaim, registry)

def release (registry : Registry) (claim : TerminalClaim) : Registry :=
  if registry.isCurrent claim then { registry with active := registry.active.erase claim.key }
  else registry

end Registry

inductive ClaimPhase
  | looking
  | rechecking (entry : Entry)
  | waiting (entry : Entry)
  deriving DecidableEq, Repr

structure ClaimCall where
  key : TerminalKey
  intent : TerminalIntent
  phase : ClaimPhase
  deriving DecidableEq, Repr

/-- `commits` records every commit ever made, for the statements only. -/
structure TerminalArbiter where
  registry : Registry
  nextOwner : ℕ
  calls : Table ℕ ClaimCall
  claims : Table ℕ TerminalClaim
  commits : List (TerminalKey × ℕ)

inductive ArbiterAction
  | beginClaim (call : ℕ) (key : TerminalKey) (intent : TerminalIntent)
  | look (call claim address : ℕ)
  | recheck (call : ℕ)
  | wake (call : ℕ)
  | timeOut (call : ℕ)
  | cancel (call : ℕ)
  | commit (claim : ℕ) (canonicalOutcome : TerminalOutcome)
  | drop (claim : ℕ)
  | releaseButRemainStale (claim : ℕ)
  deriving DecidableEq, Repr

inductive ArbiterAnswer
  | pending
  | claimed (key : TerminalKey) (result : Except TerminalArbiterError TerminalClaimResult)
  | persisted (key : TerminalKey) (result : Except TerminalArbiterError TerminalOutcome)
  | dropped

namespace TerminalArbiter

def new : TerminalArbiter where
  registry := { active := ∅, committed := ∅, committedOrder := [] }
  nextOwner := 1
  calls := ∅
  claims := ∅
  commits := []

def returned (arbiter : TerminalArbiter) (call : ℕ) (key : TerminalKey)
    (result : Except TerminalArbiterError TerminalClaimResult) : ArbiterAnswer × TerminalArbiter :=
  (.claimed key result, { arbiter with calls := arbiter.calls.erase call })

def setPhase (arbiter : TerminalArbiter) (call : ℕ) (claimCall : ClaimCall) (phase : ClaimPhase) :
    ArbiterAnswer × TerminalArbiter :=
  (.pending, { arbiter with calls := arbiter.calls.insert call { claimCall with phase := phase } })

/-- The first lock section of `claim`; a new claim gets the name `claim`, its entry `address`. -/
def look (arbiter : TerminalArbiter) (call claim address : ℕ) (claimCall : ClaimCall) :
    ArbiterAnswer × TerminalArbiter :=
  match arbiter.registry.committed.lookup claimCall.key with
  | some record => arbiter.returned call claimCall.key (.ok (.alreadyCommitted record.outcome))
  | none =>
      match arbiter.registry.active.lookup claimCall.key with
      | some entry => arbiter.setPhase call claimCall (.rechecking entry)
      | none =>
          if maxActiveClaims ≤ arbiter.registry.active.size then
            arbiter.returned call claimCall.key (.error .claimCapacityExhausted)
          else if u64Max < arbiter.nextOwner + 1 then
            arbiter.returned call claimCall.key (.error .claimCapacityExhausted)
          else
            let entry : Entry :=
              { address := address, owner := arbiter.nextOwner, intent := claimCall.intent }
            ({ arbiter with
                registry := { arbiter.registry with
                  active := arbiter.registry.active.insert claimCall.key entry }
                nextOwner := arbiter.nextOwner + 1
                claims := arbiter.claims.insert claim
                  { key := claimCall.key, entry := entry, active := true, persisted := false } }
              : TerminalArbiter).returned call claimCall.key (.ok (.leader claim))

def recheck (arbiter : TerminalArbiter) (call : ℕ) (claimCall : ClaimCall) (entry : Entry) :
    ArbiterAnswer × TerminalArbiter :=
  match arbiter.registry.committed.lookup claimCall.key with
  | some record => arbiter.returned call claimCall.key (.ok (.alreadyCommitted record.outcome))
  | none =>
      if (arbiter.registry.active.lookup claimCall.key).any
          fun current => current.address = entry.address then
        arbiter.setPhase call claimCall (.waiting entry)
      else arbiter.setPhase call claimCall .looking

def commit (arbiter : TerminalArbiter) (claim : ℕ) (live : TerminalClaim)
    (canonicalOutcome : TerminalOutcome) : ArbiterAnswer × TerminalArbiter :=
  match arbiter.registry.commitAfterPersistence live canonicalOutcome with
  | (.ok outcome, registry) =>
      -- the consumed claim is no longer active, so its drop does nothing
      (.persisted live.key (.ok outcome),
        { arbiter with
          registry := registry
          claims := arbiter.claims.erase claim
          commits := arbiter.commits ++ [(live.key, live.entry.owner)] })
  | (.error error, registry) =>
      (.persisted live.key (.error error),
        { arbiter with
          registry := registry
          claims := arbiter.claims.insert claim { live with persisted := true } })

def drop (arbiter : TerminalArbiter) (claim : ℕ) (live : TerminalClaim) :
    ArbiterAnswer × TerminalArbiter :=
  (.dropped,
    { arbiter with
      registry := if live.active then arbiter.registry.release live else arbiter.registry
      claims := arbiter.claims.erase claim })

def step (arbiter : TerminalArbiter) : ArbiterAction → Option (ArbiterAnswer × TerminalArbiter)
  | .beginClaim call key intent =>
      if call ∈ arbiter.calls then none
      else some (arbiter.setPhase call ⟨key, intent, .looking⟩ .looking)
  | .look call claim address =>
      match arbiter.calls.lookup call with
      | some ⟨key, intent, .looking⟩ =>
          if claim ∈ arbiter.claims then none
          else some (arbiter.look call claim address ⟨key, intent, .looking⟩)
      | _ => none
  | .recheck call =>
      match arbiter.calls.lookup call with
      | some ⟨key, intent, .rechecking entry⟩ =>
          some (arbiter.recheck call ⟨key, intent, .rechecking entry⟩ entry)
      | _ => none
  | .wake call =>
      match arbiter.calls.lookup call with
      | some ⟨key, intent, .waiting entry⟩ =>
          some (arbiter.setPhase call ⟨key, intent, .waiting entry⟩ .looking)
      | _ => none
  | .timeOut call =>
      match arbiter.calls.lookup call with
      | some ⟨key, _, .waiting _⟩ => some (arbiter.returned call key (.error .timedOut))
      | _ => none
  | .cancel call =>
      if call ∈ arbiter.calls then some (.dropped, { arbiter with calls := arbiter.calls.erase call })
      else none
  | .commit claim canonicalOutcome =>
      match arbiter.claims.lookup claim with
      | some live =>
          if live.persisted then none else some (arbiter.commit claim live canonicalOutcome)
      | none => none
  | .drop claim =>
      match arbiter.claims.lookup claim with
      | some live => some (arbiter.drop claim live)
      | none => none
  | .releaseButRemainStale claim =>
      match arbiter.claims.lookup claim with
      | some live => some (.pending, { arbiter with registry := arbiter.registry.release live })
      | none => none

end TerminalArbiter

def terminalArbitration : System TerminalArbiter ArbiterAction ArbiterAnswer where
  start := .new
  step := TerminalArbiter.step

end DevCommandCenter
