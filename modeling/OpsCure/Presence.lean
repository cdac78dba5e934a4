/-
Kernel resource leases (`kernel/presence.py`): claim, heartbeat and release of
a time-limited lease on a resource.  The actor-session rows of the same service
are left out; nothing reads them back.
-/
import OpsCure.Library.Fallible
import OpsCure.Library.Table
import OpsCure.Library.Text

namespace OpsCure

/-- An instant, in microseconds. -/
abbrev Time := Int

/-- The successive readings of `utcnow()` one operation makes. -/
abbrev Clock := Nat → Time

/-- A primary key: the position of the row in its table. -/
abbrev Id := Nat

def seconds (count : Int) : Time := count * 1000000

namespace Presence

open Fallible Table

structure ResourceLease where
  resourceKind : String
  resourceId : Id
  holderActorId : String
  leaseToken : String
  claimedAt : Time
  expiresAt : Time
  status : String
  releasedAt : Option Time
  updatedAt : Time
deriving DecidableEq, Repr

inductive PresenceError where
  | alreadyHeld (resourceKind : String) (resourceId : Id) (holder : String)
  | notFound (lease : Id)
  | heldBy (lease : Id) (holder actor : String)
  | tokenMismatch (lease : Id)
  | alreadyReleased (lease : Id)
  | expired (lease : Id)
deriving DecidableEq, Repr

def PresenceError.text : PresenceError → String
  | alreadyHeld kind id holder =>
      s!"Resource `{kind}:{id}` is already held by `{holder}`."
  | notFound lease => s!"Lease `{lease}` was not found."
  | heldBy lease holder actor =>
      s!"Lease `{lease}` is held by `{holder}`, not `{actor}`."
  | tokenMismatch lease => s!"Lease token does not match lease `{lease}`."
  | alreadyReleased lease => s!"Lease `{lease}` has already been released."
  | expired lease => s!"Lease `{lease}` has expired."

structure LeaseClaimRequest where
  resourceKind : String
  resourceId : Id
  holderActorId : String
  leaseToken : Option String
  leaseSeconds : Int
  status : String

structure LeaseHeartbeatRequest where
  holderActorId : String
  leaseToken : String
  leaseSeconds : Int
  status : Option String

structure LeaseReleaseRequest where
  holderActorId : String
  leaseToken : String
  status : String

/-- The validator every lease request applies to its `lease_seconds`. -/
def validateLeaseSeconds (value : Int) : Int :=
  max 10 (min value 3600)

def isForResource (resourceKind : String) (resourceId : Id)
    (lease : ResourceLease) : Bool :=
  lease.resourceKind = resourceKind ∧ lease.resourceId = resourceId

/-- The lease is unreleased, unexpired and not marked expired. -/
def isLive (now : Time) (lease : ResourceLease) : Bool :=
  lease.releasedAt = none ∧ now < lease.expiresAt ∧ lease.status ≠ "expired"

/-- `order_by(claimed_at.desc(), updated_at.desc())`. -/
def claimedLater (left right : ResourceLease) : Bool :=
  right.claimedAt < left.claimedAt ∨
    (left.claimedAt = right.claimedAt ∧ right.updatedAt ≤ left.updatedAt)

def getCurrentLease (leases : List ResourceLease) (resourceKind : String)
    (resourceId : Id) (now : Time) : Option (ResourceLease × Id) :=
  firstBy claimedLater <| selectWhere
    (fun lease => isForResource resourceKind resourceId lease && isLive now lease)
    leases

def getLatestLease (leases : List ResourceLease) (resourceKind : String)
    (resourceId : Id) : Option (ResourceLease × Id) :=
  firstBy claimedLater (selectWhere (isForResource resourceKind resourceId) leases)

def expireStale (leases : List ResourceLease) (resourceKind : String)
    (resourceId : Id) (now : Time) : List ResourceLease :=
  match getLatestLease leases resourceKind resourceId with
  | some (stale, id) =>
      if stale.releasedAt = none ∧ stale.expiresAt ≤ now then
        update leases id { stale with status := "expired", updatedAt := now }
      else leases
  | none => leases

/-- `claim_resource_lease`: renew the claimant's own live lease, or open a new
one under `drawn`, the token `uuid4` gives.  The lookup of the live lease reads
the clock after the claim does. -/
def claimResourceLease (leases : List ResourceLease) (payload : LeaseClaimRequest)
    (now lookupNow : Time) (drawn : String) :
    Except PresenceError (List ResourceLease × ResourceLease) :=
  let expiresAt := now + seconds (validateLeaseSeconds payload.leaseSeconds)
  match getCurrentLease leases payload.resourceKind payload.resourceId lookupNow with
  | some (current, id) => do
      require (current.holderActorId = payload.holderActorId)
        (.alreadyHeld payload.resourceKind payload.resourceId current.holderActorId)
      let renewed := { current with
        leaseToken := Text.orElse payload.leaseToken current.leaseToken
        expiresAt := expiresAt
        status := payload.status
        updatedAt := now }
      return (update leases id renewed, renewed)
  | none =>
      let opened : ResourceLease :=
        { resourceKind := payload.resourceKind
          resourceId := payload.resourceId
          holderActorId := payload.holderActorId
          leaseToken := Text.orElse payload.leaseToken drawn
          claimedAt := now
          expiresAt := expiresAt
          status := payload.status
          releasedAt := none
          updatedAt := now }
      let leases := expireStale leases payload.resourceKind payload.resourceId now
      .ok (leases ++ [opened], opened)

/-- `_require_lease` followed by `_validate_lease_holder`. -/
def requireHeldLease (leases : List ResourceLease) (leaseId : Id)
    (holderActorId leaseToken : String) : Except PresenceError ResourceLease := do
  let row ← orRaise leases[leaseId]? (.notFound leaseId)
  require (row.holderActorId = holderActorId)
    (.heldBy leaseId row.holderActorId holderActorId)
  require (row.leaseToken = leaseToken) (.tokenMismatch leaseId)
  return row

def heartbeatResourceLease (leases : List ResourceLease) (leaseId : Id)
    (payload : LeaseHeartbeatRequest) (now : Time) :
    Except PresenceError (List ResourceLease × ResourceLease) := do
  let row ← requireHeldLease leases leaseId payload.holderActorId payload.leaseToken
  require (row.releasedAt = none ∧ row.status ≠ "released") (.alreadyReleased leaseId)
  require (now < row.expiresAt) (.expired leaseId)
  let renewed := { row with
    expiresAt := now + seconds (validateLeaseSeconds payload.leaseSeconds)
    status := Text.orElse payload.status row.status
    updatedAt := now }
  return (update leases leaseId renewed, renewed)

def releaseResourceLease (leases : List ResourceLease) (leaseId : Id)
    (payload : LeaseReleaseRequest) (now : Time) :
    Except PresenceError (List ResourceLease) := do
  let row ← requireHeldLease leases leaseId payload.holderActorId payload.leaseToken
  return update leases leaseId { row with
    status := payload.status, releasedAt := some now, expiresAt := now, updatedAt := now }

/-- The resource has a live lease that another actor holds. -/
def HeldByOther (leases : List ResourceLease) (resourceKind : String)
    (resourceId : Id) (actorId : String) (now : Time) : Prop :=
  ∃ lease id, getCurrentLease leases resourceKind resourceId now = some (lease, id) ∧
    lease.holderActorId ≠ actorId

variable {leases : List ResourceLease}

theorem getCurrentLease_spec {resourceKind : String} {resourceId : Id} {now : Time}
    {lease : ResourceLease} {id : Id}
    (hlive : getCurrentLease leases resourceKind resourceId now = some (lease, id)) :
    leases[id]? = some lease ∧ isForResource resourceKind resourceId lease ∧
      isLive now lease := by
  obtain ⟨hrow, hkeep⟩ := firstBy_selectWhere hlive
  rw [Bool.and_eq_true] at hkeep
  exact ⟨hrow, hkeep.1, hkeep.2⟩

theorem claimResourceLease_isOk_iff {lookupNow : Time} (payload : LeaseClaimRequest) (now : Time)
    (drawn : String) :
    (∃ result, claimResourceLease leases payload now lookupNow drawn = .ok result) ↔
      ¬HeldByOther leases payload.resourceKind payload.resourceId
        payload.holderActorId lookupNow := by
  unfold claimResourceLease HeldByOther
  cases hlive : getCurrentLease leases payload.resourceKind payload.resourceId
      lookupNow with
  | none => simp
  | some current =>
      obtain ⟨lease, id⟩ := current
      simp

theorem requireHeldLease_eq_ok {leaseId : Id} {holderActorId leaseToken : String}
    {row : ResourceLease} :
    requireHeldLease leases leaseId holderActorId leaseToken = .ok row ↔
      leases[leaseId]? = some row ∧ row.holderActorId = holderActorId ∧
        row.leaseToken = leaseToken := by
  unfold requireHeldLease
  simp only [bind_eq_ok, orRaise_eq_ok, require_eq_ok, pure_eq_ok]
  constructor
  · rintro ⟨found, hfound, _, hholder, _, htoken, rfl⟩
    exact ⟨hfound, hholder, htoken⟩
  · rintro ⟨hfound, hholder, htoken⟩
    exact ⟨row, hfound, ⟨⟩, hholder, ⟨⟩, htoken, rfl⟩

end Presence

end OpsCure
