/-
Are resource leases mutually exclusive?  The lookup of the live lease passes over a row
that is marked expired; a heartbeat does not look for the mark.  Both take the status of a
row from their caller.
-/
import OpsCure.Library.Run
import OpsCure.Presence

namespace OpsCure.Presence

open Fallible Table Run

/-! ## The service in runs -/

inductive LeaseOperation where
  | claim (payload : LeaseClaimRequest) (drawn : String)
  | heartbeat (leaseId : Id) (payload : LeaseHeartbeatRequest)
  | release (leaseId : Id) (payload : LeaseReleaseRequest)

/-- A request, the time since the last reading of the clock, and the time a claim takes to
look the live lease up. -/
structure LeaseCall where
  operation : LeaseOperation
  waited : Nat
  looked : Nat

structure LeaseTable where
  leases : List ResourceLease
  clock : Time

/-- The first reading of the clock a call makes. -/
def LeaseTable.now (table : LeaseTable) (call : LeaseCall) : Time :=
  table.clock + call.waited

/-- The reading a claim's lookup makes, after the first one. -/
def LeaseTable.lookupNow (table : LeaseTable) (call : LeaseCall) : Time :=
  table.now call + call.looked

/-- What a call makes of the rows. -/
def perform (table : LeaseTable) (call : LeaseCall) :
    Except PresenceError (List ResourceLease) :=
  match call.operation with
  | .claim payload drawn => do
      let (leases, _) ← claimResourceLease table.leases payload (table.now call)
        (table.lookupNow call) drawn
      return leases
  | .heartbeat leaseId payload => do
      let (leases, _) ← heartbeatResourceLease table.leases leaseId payload (table.now call)
      return leases
  | .release leaseId payload =>
      releaseResourceLease table.leases leaseId payload (table.now call)

/-- The table after a call: rolled back when the call raised. -/
def step (table : LeaseTable) (call : LeaseCall) : LeaseTable where
  leases := committed table.leases (perform table call)
  clock := table.lookupNow call

/-! ## Exclusive leases -/

def SameResource (lease other : ResourceLease) : Prop :=
  lease.resourceKind = other.resourceKind ∧ lease.resourceId = other.resourceId

/-- The leases are mutually exclusive from a moment on: one lease of a resource is live at
most; a heartbeat goes through for a live lease only; and a lease that is followed by one of
another holder is not live again, and takes no heartbeat. -/
structure ExclusiveFrom (leases : List ResourceLease) (clock : Time) : Prop where
  one_live : ∀ (now : Time) (id other : Id) (lease rival : ResourceLease), clock ≤ now →
    leases[id]? = some lease → leases[other]? = some rival → SameResource lease rival →
    isLive now lease → isLive now rival → id = other
  heartbeat_live : ∀ now id payload result, clock ≤ now →
    heartbeatResourceLease leases id payload now = .ok result →
    ∃ lease, leases[id]? = some lease ∧ isLive now lease
  superseded_dead : ∀ (now : Time) (id other : Id) (lease rival : ResourceLease), clock ≤ now →
    leases[id]? = some lease → leases[other]? = some rival → SameResource lease rival →
    id < other → lease.holderActorId ≠ rival.holderActorId → ¬ isLive now lease ∧
      ∀ payload result, heartbeatResourceLease leases id payload now ≠ .ok result

def Exclusive (table : LeaseTable) : Prop := ExclusiveFrom table.leases table.clock

structure Renewable (leases : List ResourceLease) (leaseId : Id)
    (payload : LeaseHeartbeatRequest) (now : Time) (lease : ResourceLease) : Prop where
  found : leases[leaseId]? = some lease
  holder : lease.holderActorId = payload.holderActorId
  token : lease.leaseToken = payload.leaseToken
  unreleased : lease.releasedAt = none ∧ lease.status ≠ "released"
  unexpired : now < lease.expiresAt

/-- A call that goes through marks its lease expired while its time still runs: a claim that
no other holder is in the way of, or a heartbeat that is let through. -/
def MarksExpired (table : LeaseTable) (call : LeaseCall) : Prop :=
  match call.operation with
  | .claim payload _ =>
      payload.status = "expired" ∧
        table.lookupNow call <
          table.now call + seconds (validateLeaseSeconds payload.leaseSeconds) ∧
        ¬ HeldByOther table.leases payload.resourceKind payload.resourceId
          payload.holderActorId (table.lookupNow call)
  | .heartbeat leaseId payload =>
      payload.status = some "expired" ∧
        table.lookupNow call <
          table.now call + seconds (validateLeaseSeconds payload.leaseSeconds) ∧
        ∃ lease, Renewable table.leases leaseId payload (table.now call) lease
  | .release _ _ => False

/-! ## What the operations do -/

variable {now clock : Time} {lease : ResourceLease} {payload : LeaseHeartbeatRequest}
  {leases : List ResourceLease} {id : Id}

theorem isLive_iff :
    isLive now lease ↔
      lease.releasedAt = none ∧ now < lease.expiresAt ∧ lease.status ≠ "expired" := by
  simp [isLive]

theorem isLive_earlier {later : Time} (hle : now ≤ later) (hlive : isLive later lease) :
    isLive now lease := by
  rw [isLive_iff] at hlive ⊢
  exact ⟨hlive.1, lt_of_le_of_lt hle hlive.2.1, hlive.2.2⟩

/-- The row a heartbeat leaves. -/
def renewedBy (payload : LeaseHeartbeatRequest) (now : Time) (lease : ResourceLease) :
    ResourceLease :=
  { lease with
    expiresAt := now + seconds (validateLeaseSeconds payload.leaseSeconds)
    status := Text.orElse payload.status lease.status
    updatedAt := now }

theorem renewed_expired (hunmarked : lease.status ≠ "expired")
    (hmarked : (renewedBy payload now lease).status = "expired") :
    payload.status = some "expired" := by
  unfold renewedBy Text.orElse at hmarked
  cases hstatus : payload.status with
  | none =>
      simp only [hstatus] at hmarked
      exact absurd hmarked hunmarked
  | some =>
      simp only [hstatus] at hmarked
      split at hmarked
      · exact absurd hmarked hunmarked
      · rw [hmarked]

variable {leaseId resourceId : Id} {result : List ResourceLease × ResourceLease}
  {resourceKind drawn : String} {table : LeaseTable}

theorem heartbeatResourceLease_eq_ok :
    heartbeatResourceLease leases leaseId payload now = .ok result ↔
      ∃ lease, Renewable leases leaseId payload now lease ∧
        result = (update leases leaseId (renewedBy payload now lease),
          renewedBy payload now lease) := by
  simp only [heartbeatResourceLease, bind_eq_ok, requireHeldLease_eq_ok, require_eq_ok,
    pure_eq_ok]
  constructor
  · rintro ⟨lease, ⟨hfound, hholder, htoken⟩, _, hunreleased, _, hunexpired, rfl⟩
    exact ⟨lease, ⟨hfound, hholder, htoken, hunreleased, hunexpired⟩, rfl⟩
  · rintro ⟨lease, hrenewable, rfl⟩
    exact ⟨lease, ⟨hrenewable.found, hrenewable.holder, hrenewable.token⟩, ⟨⟩,
      hrenewable.unreleased, ⟨⟩, hrenewable.unexpired, rfl⟩

theorem renewable_of_held (hfound : leases[id]? = some lease)
    (hreleased : lease.releasedAt = none) (hstatus : lease.status ≠ "released")
    (hnow : now < lease.expiresAt) :
    ∃ payload result, heartbeatResourceLease leases id payload now = .ok result := by
  let payload : LeaseHeartbeatRequest :=
    { holderActorId := lease.holderActorId, leaseToken := lease.leaseToken
      leaseSeconds := 0, status := none }
  refine ⟨payload, _, heartbeatResourceLease_eq_ok.2 ⟨lease, ?_, rfl⟩⟩
  exact ⟨hfound, rfl, rfl, ⟨hreleased, hstatus⟩, hnow⟩

theorem not_isLive_of_none (hnone : getCurrentLease leases resourceKind resourceId now = none)
    (hfound : leases[id]? = some lease) (hresource : isForResource resourceKind resourceId lease) :
    ¬ isLive now lease := by
  intro hlive
  have hrow : (lease, id) ∈ selectWhere (fun lease =>
      isForResource resourceKind resourceId lease && isLive now lease) leases := by
    rw [mem_selectWhere, Bool.and_eq_true]
    exact ⟨hfound, hresource, hlive⟩
  have hordered : (lease, id) ∈ orderBy claimedLater (selectWhere (fun lease =>
      isForResource resourceKind resourceId lease && isLive now lease) leases) :=
    mem_orderBy.2 hrow
  rw [getCurrentLease, firstBy, List.head?_eq_none_iff] at hnone
  rw [hnone] at hordered
  cases hordered

theorem expireStale_row
    (hfound : (expireStale leases resourceKind resourceId now)[id]? = some lease) :
    leases[id]? = some lease ∨ lease.expiresAt ≤ now ∧ ∃ old, leases[id]? = some old ∧
      SameResource lease old := by
  unfold expireStale at hfound
  cases hlatest : getLatestLease leases resourceKind resourceId with
  | none =>
      rw [hlatest] at hfound
      exact Or.inl hfound
  | some latest =>
      rcases latest with ⟨stale, staleId⟩
      rw [hlatest] at hfound
      simp only at hfound
      by_cases hover : stale.releasedAt = none ∧ stale.expiresAt ≤ now
      · rw [if_pos hover] at hfound
        have hrow := (firstBy_selectWhere hlatest).1
        by_cases hid : staleId = id
        · subst hid
          rw [getElem?_update_self hrow, Option.some.injEq] at hfound
          subst hfound
          exact Or.inr ⟨hover.2, stale, hrow, ⟨rfl, rfl⟩⟩
        · rw [getElem?_update_of_ne hid] at hfound
          exact Or.inl hfound
      · rw [if_neg hover] at hfound
        exact Or.inl hfound

/-- The row a claim leaves of the claimant's own lease. -/
def reclaimedBy (payload : LeaseClaimRequest) (now : Time) (lease : ResourceLease) :
    ResourceLease :=
  { lease with
    leaseToken := Text.orElse payload.leaseToken lease.leaseToken
    expiresAt := now + seconds (validateLeaseSeconds payload.leaseSeconds)
    status := payload.status
    updatedAt := now }

def openedBy (payload : LeaseClaimRequest) (now : Time) (drawn : String) : ResourceLease :=
  { resourceKind := payload.resourceKind
    resourceId := payload.resourceId
    holderActorId := payload.holderActorId
    leaseToken := Text.orElse payload.leaseToken drawn
    claimedAt := now
    expiresAt := now + seconds (validateLeaseSeconds payload.leaseSeconds)
    status := payload.status
    releasedAt := none
    updatedAt := now }

theorem claimResourceLease_eq_ok {payload : LeaseClaimRequest} {lookupNow : Time}
    (hok : claimResourceLease leases payload now lookupNow drawn = .ok result) :
    (∃ current id, getCurrentLease leases payload.resourceKind payload.resourceId lookupNow =
        some (current, id) ∧ current.holderActorId = payload.holderActorId ∧
        result = (update leases id (reclaimedBy payload now current),
          reclaimedBy payload now current)) ∨
      getCurrentLease leases payload.resourceKind payload.resourceId lookupNow = none ∧
        result = (expireStale leases payload.resourceKind payload.resourceId now ++
          [openedBy payload now drawn], openedBy payload now drawn) := by
  unfold claimResourceLease at hok
  cases hlive : getCurrentLease leases payload.resourceKind payload.resourceId lookupNow with
  | none =>
      simp only [hlive, Except.ok.injEq] at hok
      subst hok
      exact Or.inr ⟨rfl, rfl⟩
  | some current =>
      rcases current with ⟨current, id⟩
      simp only [hlive, bind_eq_ok, require_eq_ok, pure_eq_ok] at hok
      rcases hok with ⟨_, hholder, rfl⟩
      exact Or.inl ⟨current, id, rfl, hholder, rfl⟩

theorem releaseResourceLease_eq_ok {after : List ResourceLease} {payload : LeaseReleaseRequest}
    (hok : releaseResourceLease leases leaseId payload now = .ok after) :
    ∃ lease, leases[leaseId]? = some lease ∧ after = update leases leaseId { lease with
      status := payload.status, releasedAt := some now, expiresAt := now, updatedAt := now } := by
  simp only [releaseResourceLease, bind_eq_ok, requireHeldLease_eq_ok, pure_eq_ok] at hok
  rcases hok with ⟨lease, ⟨hfound, _⟩, rfl⟩
  exact ⟨lease, hfound, rfl⟩

/-! ## What keeps leases exclusive -/

structure Orderly (leases : List ResourceLease) (clock : Time) : Prop where
  followed : ∀ (id other : Id) (lease rival : ResourceLease), leases[id]? = some lease →
    leases[other]? = some rival → SameResource lease rival → id < other →
    ¬ isLive clock lease
  marked : ∀ (id : Id) (lease : ResourceLease), leases[id]? = some lease →
    lease.status = "expired" → lease.releasedAt = none → lease.expiresAt ≤ clock

theorem Orderly.later {later : Time} (horderly : Orderly leases clock) (hle : clock ≤ later) :
    Orderly leases later where
  followed := by
    intro id other lease rival hlease hrival hsame hlt hlive
    exact horderly.followed id other lease rival hlease hrival hsame hlt
      (isLive_earlier hle hlive)
  marked := by
    intro id lease hlease hstatus hreleased
    exact (horderly.marked id lease hlease hstatus hreleased).trans hle

theorem Orderly.heartbeat_live (horderly : Orderly leases clock) (hle : clock ≤ now)
    (hrenewable : Renewable leases id payload now lease) : isLive now lease := by
  rw [isLive_iff]
  refine ⟨hrenewable.unreleased.1, hrenewable.unexpired, ?_⟩
  intro hmarked
  have hover := horderly.marked id lease hrenewable.found hmarked hrenewable.unreleased.1
  exact absurd hrenewable.unexpired (not_lt.mpr (hover.trans hle))

theorem Orderly.exclusive (horderly : Orderly leases clock) : ExclusiveFrom leases clock where
  one_live := by
    intro now id other lease rival hle hlease hrival hsame hlive hrivals
    have hthen := horderly.later hle
    rcases Nat.lt_trichotomy id other with hlt | heq | hgt
    · exact absurd hlive (hthen.followed id other lease rival hlease hrival hsame hlt)
    · exact heq
    · have hback : SameResource rival lease := ⟨hsame.1.symm, hsame.2.symm⟩
      exact absurd hrivals (hthen.followed other id rival lease hrival hlease hback hgt)
  heartbeat_live := by
    intro now id payload result hle hok
    rcases heartbeatResourceLease_eq_ok.1 hok with ⟨lease, hrenewable, _⟩
    exact ⟨lease, hrenewable.found, horderly.heartbeat_live hle hrenewable⟩
  superseded_dead := by
    intro now id other lease rival hle hlease hrival hsame hlt _
    have hdead := (horderly.later hle).followed id other lease rival hlease hrival hsame hlt
    refine ⟨hdead, ?_⟩
    intro payload result hok
    rcases heartbeatResourceLease_eq_ok.1 hok with ⟨found, hrenewable, _⟩
    have hfound := hrenewable.found
    rw [hlease] at hfound
    rw [Option.some.inj hfound] at hdead
    exact hdead (horderly.heartbeat_live hle hrenewable)

theorem Orderly.update {old row : ResourceLease} (horderly : Orderly leases clock)
    (hold : leases[id]? = some old) (hsame : SameResource row old)
    (hlast : isLive clock row → ∀ (other : Id) (rival : ResourceLease),
      leases[other]? = some rival → SameResource old rival → ¬ id < other)
    (hmarked : row.status = "expired" → row.releasedAt = none → row.expiresAt ≤ clock) :
    Orderly (update leases id row) clock where
  followed := by
    intro first other lease rival hlease hrival hresource hlt hlive
    have hback : ∀ {place : Id} {found : ResourceLease},
        (Table.update leases id row)[place]? = some found →
          ∃ before, leases[place]? = some before ∧ SameResource found before := by
      intro place found hfound
      rcases getElem?_update_eq_some hfound with ⟨rfl, rfl⟩ | hfound
      · exact ⟨old, hold, hsame⟩
      · exact ⟨found, hfound, ⟨rfl, rfl⟩⟩
    rcases hback hrival with ⟨before, hbefore, hrivals⟩
    rcases getElem?_update_eq_some hlease with ⟨rfl, rfl⟩ | hlease
    · apply hlast hlive other before hbefore _ hlt
      exact ⟨hsame.1.symm.trans (hresource.1.trans hrivals.1),
        hsame.2.symm.trans (hresource.2.trans hrivals.2)⟩
    · apply horderly.followed first other lease before hlease hbefore _ hlt hlive
      exact ⟨hresource.1.trans hrivals.1, hresource.2.trans hrivals.2⟩
  marked := by
    intro place lease hlease hstatus hreleased
    rcases getElem?_update_eq_some hlease with ⟨rfl, rfl⟩ | hlease
    · exact hmarked hstatus hreleased
    · exact horderly.marked place lease hlease hstatus hreleased

theorem Orderly.opened {payload : LeaseClaimRequest} (horderly : Orderly leases clock)
    (hnow : now ≤ clock)
    (hnone : getCurrentLease leases payload.resourceKind payload.resourceId clock = none)
    (hmarked : payload.status = "expired" →
      now + seconds (validateLeaseSeconds payload.leaseSeconds) ≤ clock) :
    Orderly (expireStale leases payload.resourceKind payload.resourceId now ++
      [openedBy payload now drawn]) clock where
  followed := by
    intro id other lease rival hlease hrival hsame hlt hlive
    rcases getElem?_concat_eq_some hlease with hstood | ⟨hid, _⟩
    · rcases expireStale_row hstood with hkept | ⟨hover, _⟩
      · rcases getElem?_concat_eq_some hrival with hrivalStood | ⟨_, hopened⟩
        · rcases expireStale_row hrivalStood with hrivalKept | ⟨_, old, hold, hrivals⟩
          · exact horderly.followed id other lease rival hkept hrivalKept hsame hlt hlive
          · apply horderly.followed id other lease old hkept hold _ hlt hlive
            exact ⟨hsame.1.trans hrivals.1, hsame.2.trans hrivals.2⟩
        · subst hopened
          have hresource : isForResource payload.resourceKind payload.resourceId lease :=
            decide_eq_true hsame
          exact not_isLive_of_none hnone hkept hresource hlive
      · have hunexpired := (isLive_iff.1 hlive).2.1
        exact absurd hunexpired (not_lt.mpr (hover.trans hnow))
    · have hbound := (List.getElem?_eq_some_iff.mp hrival).1
      rw [List.length_append, List.length_singleton, ← hid] at hbound
      exact absurd hlt (not_lt.mpr (Nat.lt_succ_iff.mp hbound))
  marked := by
    intro id lease hlease hstatus hreleased
    rcases getElem?_concat_eq_some hlease with hstood | ⟨_, hopened⟩
    · rcases expireStale_row hstood with hkept | ⟨hover, _⟩
      · exact horderly.marked id lease hkept hstatus hreleased
      · exact hover.trans hnow
    · subst hopened
      exact hmarked hstatus

theorem clock_le_now (table : LeaseTable) (call : LeaseCall) :
    table.clock ≤ table.now call ∧ table.now call ≤ table.lookupNow call := by
  have hwaited : (0 : Int) ≤ call.waited := Int.natCast_nonneg _
  have hlooked : (0 : Int) ≤ call.looked := Int.natCast_nonneg _
  unfold LeaseTable.lookupNow LeaseTable.now
  exact ⟨Int.le_add_of_nonneg_right hwaited, Int.le_add_of_nonneg_right hlooked⟩

theorem orderly_step {call : LeaseCall} (horderly : Orderly table.leases table.clock)
    (hunmarked : ¬ MarksExpired table call) :
    Orderly (step table call).leases (step table call).clock := by
  rcases clock_le_now table call with ⟨hwaited, hlooked⟩
  have hthen := horderly.later (hwaited.trans hlooked)
  unfold step
  simp only
  cases hok : perform table call with
  | error => exact hthen
  | ok =>
      rw [committed_ok]
      unfold perform at hok
      unfold MarksExpired at hunmarked
      cases hoperation : call.operation with
      | claim payload =>
          simp only [hoperation, bind_eq_ok, Prod.exists, pure_eq_ok] at hok
          rcases hok with ⟨_, lease, hclaim, rfl⟩
          have hfree := (claimResourceLease_isOk_iff _ _ _).mp ⟨_, hclaim⟩
          simp only [hoperation] at hunmarked
          have hmarked : payload.status = "expired" → table.now call +
              seconds (validateLeaseSeconds payload.leaseSeconds) ≤ table.lookupNow call := by
            intro hstatus
            by_contra hruns
            exact hunmarked ⟨hstatus, not_le.mp hruns, hfree⟩
          rcases claimResourceLease_eq_ok hclaim with
            ⟨current, id, hcurrent, _, hafter⟩ | ⟨hnone, hafter⟩
          · rw [(Prod.mk.inj hafter).1]
            rcases getCurrentLease_spec hcurrent with ⟨hrow, _, hlive⟩
            refine Orderly.update hthen hrow ⟨rfl, rfl⟩ ?_ ?_
            · intro _ other rival hrival hsame hlt
              exact hthen.followed id other current rival hrow hrival hsame hlt hlive
            · exact fun hstatus _ => hmarked hstatus
          · rw [(Prod.mk.inj hafter).1]
            exact hthen.opened hlooked hnone hmarked
      | heartbeat leaseId =>
          simp only [hoperation, bind_eq_ok, Prod.exists, pure_eq_ok] at hok
          rcases hok with ⟨_, lease, hbeat, rfl⟩
          rcases heartbeatResourceLease_eq_ok.1 hbeat with ⟨found, hrenewable, hresult⟩
          rw [(Prod.mk.inj hresult).1]
          have hlive := horderly.heartbeat_live hwaited hrenewable
          simp only [hoperation] at hunmarked
          have hnow := horderly.later hwaited
          refine Orderly.update hthen hrenewable.found ⟨rfl, rfl⟩ ?_ ?_
          · intro _ other rival hrival hsame hlt
            exact hnow.followed leaseId other found rival hrenewable.found hrival hsame hlt hlive
          · intro hstatus _
            by_contra hruns
            apply hunmarked
            refine ⟨?_, not_le.mp hruns, found, hrenewable⟩
            exact renewed_expired (isLive_iff.1 hlive).2.2 hstatus
      | release =>
          simp only [hoperation] at hok
          rcases releaseResourceLease_eq_ok hok with ⟨found, hfound, rfl⟩
          refine Orderly.update hthen hfound ⟨rfl, rfl⟩ ?_ ?_
          · intro hlive
            cases (isLive_iff.1 hlive).1
          · intro _ hreleased
            cases hreleased

theorem marked_not_exclusive (hfound : leases[id]? = some lease)
    (hstatus : lease.status = "expired") (hreleased : lease.releasedAt = none)
    (hruns : clock < lease.expiresAt) : ¬ ExclusiveFrom leases clock := by
  intro hexclusive
  have hother : lease.status ≠ "released" := by
    rw [hstatus]
    decide
  rcases renewable_of_held hfound hreleased hother hruns with ⟨payload, result, hok⟩
  rcases hexclusive.heartbeat_live clock id payload result le_rfl hok with
    ⟨found, hrow, hlive⟩
  rw [hfound] at hrow
  rw [← Option.some.inj hrow, isLive_iff] at hlive
  exact hlive.2.2 hstatus

theorem not_exclusive_of_marks {call : LeaseCall} (hmarks : MarksExpired table call) :
    ¬ Exclusive (step table call) := by
  unfold Exclusive step
  unfold MarksExpired at hmarks
  cases hoperation : call.operation with
  | claim payload drawn =>
      simp only [hoperation] at hmarks
      rcases hmarks with ⟨hstatus, hruns, hfree⟩
      rcases (claimResourceLease_isOk_iff payload (table.now call) drawn).mpr hfree with
        ⟨⟨after, lease⟩, hclaim⟩
      have hok : perform table call = .ok after := by
        simp only [perform, hoperation, hclaim]
        rfl
      simp only [hok, committed_ok]
      rcases claimResourceLease_eq_ok hclaim with
        ⟨current, id, hcurrent, _, hafter⟩ | ⟨hnone, hafter⟩
      · rcases getCurrentLease_spec hcurrent with ⟨hrow, _, hlive⟩
        have hrenewed : after[id]? = some (reclaimedBy payload (table.now call) current) := by
          rw [(Prod.mk.inj hafter).1]
          exact getElem?_update_self hrow
        exact marked_not_exclusive hrenewed hstatus (isLive_iff.1 hlive).1 hruns
      · have hopened : after[(expireStale table.leases payload.resourceKind payload.resourceId
            (table.now call)).length]? = some (openedBy payload (table.now call) drawn) := by
          rw [(Prod.mk.inj hafter).1]
          exact List.getElem?_concat_length
        exact marked_not_exclusive hopened hstatus rfl hruns
  | heartbeat leaseId payload =>
      simp only [hoperation] at hmarks
      rcases hmarks with ⟨hstatus, hruns, lease, hrenewable⟩
      have hbeat := heartbeatResourceLease_eq_ok.2 ⟨lease, hrenewable, rfl⟩
      have hok : perform table call = .ok (update table.leases leaseId
          (renewedBy payload (table.now call) lease)) := by
        simp only [perform, hoperation, hbeat]
        rfl
      simp only [hok, committed_ok]
      apply marked_not_exclusive (getElem?_update_self hrenewable.found)
      · simp [renewedBy, hstatus, Text.orElse]
      · exact hrenewable.unreleased.1
      · exact hruns
  | release =>
      simp only [hoperation] at hmarks

/-! ## The theorem -/

/-- From an empty table, under any calls and any readings of the clock that do not go back:
leases are mutually exclusive at every moment exactly when no call that goes through marks
a lease expired while its time still runs. -/
theorem leases_exclusive_iff (clock : Time) (calls : List LeaseCall) :
    Throughout step Exclusive ⟨[], clock⟩ calls ↔
      Along step (fun table call => ¬ MarksExpired table call) ⟨[], clock⟩ calls := by
  have hstart : Orderly ([] : List ResourceLease) clock := by
    constructor
    · intro id other lease rival hlease
      cases hlease
    · intro id lease hlease
      cases hlease
  constructor
  · intro hall done call hcall hmarks
    have hafter := hall (done ++ [call]) hcall
    rw [run_concat] at hafter
    exact not_exclusive_of_marks hmarks hafter
  · intro hunmarked
    have hrun : Throughout step (fun table => Orderly table.leases table.clock) ⟨[], clock⟩
        calls := by
      refine throughout_of_preserved ?_ ?_
      · exact hstart
      · intro done call hcall hhere
        exact orderly_step hhere (hunmarked done call hcall)
    intro done hdone
    exact (hrun done hdone).exclusive

/-! ## A lease that comes back -/

def claimOf (holder : String) : LeaseOperation :=
  .claim { resourceKind := "machine", resourceId := 0, holderActorId := holder
           leaseToken := some holder, leaseSeconds := 120, status := "claimed" } ""

def beatOf (leaseId : Id) (holder status : String) : LeaseOperation :=
  .heartbeat leaseId { holderActorId := holder, leaseToken := holder, leaseSeconds := 120
                       status := some status }

/-- The first holder marks its lease expired, another claims the resource, and the first
one's next heartbeat brings its lease back. -/
def revivedRun : List LeaseCall :=
  [⟨claimOf "first", 0, 0⟩, ⟨beatOf 0 "first" "expired", 0, 0⟩, ⟨claimOf "second", 0, 0⟩,
    ⟨beatOf 0 "first" "active", 0, 0⟩]

theorem superseded_lease_revives : ¬ Throughout step Exclusive ⟨[], 0⟩ revivedRun := by
  intro hall
  have hlast := hall revivedRun List.prefix_rfl
  let stands (lease : ResourceLease) : Bool :=
    lease.resourceKind = "machine" ∧ lease.resourceId = 0 ∧ isLive 0 lease
  have hfirst : ((run step ⟨[], 0⟩ revivedRun).leases[0]?).any stands := by decide
  have hsecond : ((run step ⟨[], 0⟩ revivedRun).leases[1]?).any stands := by decide
  rcases (Option.any_eq_true _ _).mp hfirst with ⟨lease, hlease, hstands⟩
  rcases (Option.any_eq_true _ _).mp hsecond with ⟨rival, hrival, hrivals⟩
  rcases of_decide_eq_true hstands with ⟨hkind, hid, hlive⟩
  rcases of_decide_eq_true hrivals with ⟨hkind', hid', hlive'⟩
  have hsame : SameResource lease rival := ⟨hkind.trans hkind'.symm, hid.trans hid'.symm⟩
  have habsurd : (0 : Nat) = 1 :=
    hlast.one_live 0 0 1 lease rival le_rfl hlease hrival hsame hlive hlive'
  cases habsurd

end OpsCure.Presence
