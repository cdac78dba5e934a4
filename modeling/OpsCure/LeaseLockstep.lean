/-
Do the assignments of the remote tasks agree with the kernel's leases?  The two tables are
written by separate calls, under one reading of the clock.
-/
import OpsCure.ResourceLeases
import OpsCure.TaskLifecycle

namespace OpsCure.Presence

open Fallible Table

/-- The two tables have the same rows, those of one resource apart. -/
def OnlyTouches (resource : ResourceLease → Bool) (leases after : List ResourceLease) : Prop :=
  ∀ (id : Id) (lease : ResourceLease), ¬ resource lease →
    (leases[id]? = some lease ↔ after[id]? = some lease)

theorem OnlyTouches.refl (resource : ResourceLease → Bool) (leases : List ResourceLease) :
    OnlyTouches resource leases leases :=
  fun _ _ _ => Iff.rfl

variable {resource : ResourceLease → Bool} {leases : List ResourceLease}

theorem OnlyTouches.trans {between after : List ResourceLease}
    (hfirst : OnlyTouches resource leases between) (hsecond : OnlyTouches resource between after) :
    OnlyTouches resource leases after :=
  fun id lease hother => (hfirst id lease hother).trans (hsecond id lease hother)

theorem onlyTouches_update {id : Id} {old row : ResourceLease} (hold : leases[id]? = some old)
    (hresource : resource old) (hrow : resource row) :
    OnlyTouches resource leases (update leases id row) := by
  intro other lease hother
  by_cases hid : id = other
  · subst hid
    rw [getElem?_update_self hold, hold]
    constructor
    · intro hsame
      rw [← Option.some.inj hsame] at hother
      exact absurd hresource hother
    · intro hsame
      rw [← Option.some.inj hsame] at hother
      exact absurd hrow hother
  · rw [getElem?_update_of_ne hid]

theorem onlyTouches_append (leases : List ResourceLease) {row : ResourceLease}
    (hrow : resource row) : OnlyTouches resource leases (leases ++ [row]) := by
  intro id lease hother
  constructor
  · intro hfound
    rw [List.getElem?_append_left (List.getElem?_eq_some_iff.mp hfound).1]
    exact hfound
  · intro hfound
    rcases getElem?_concat_eq_some hfound with hstood | ⟨_, hsame⟩
    · exact hstood
    · rw [hsame] at hother
      exact absurd hrow hother

theorem expireStale_eq (leases : List ResourceLease) (resourceKind : String)
    (resourceId : Id) (now : Time) :
    expireStale leases resourceKind resourceId now = leases ∨
      ∃ stale id, leases[id]? = some stale ∧ isForResource resourceKind resourceId stale ∧
        expireStale leases resourceKind resourceId now =
          update leases id { stale with status := "expired", updatedAt := now } := by
  unfold expireStale
  cases hlatest : getLatestLease leases resourceKind resourceId with
  | none => exact Or.inl rfl
  | some latest =>
      rcases latest with ⟨stale, id⟩
      rcases firstBy_selectWhere hlatest with ⟨hrow, hresource⟩
      by_cases hover : stale.releasedAt = none ∧ stale.expiresAt ≤ now
      · simp only [if_pos hover]
        exact Or.inr ⟨stale, id, hrow, hresource, rfl⟩
      · simp only [if_neg hover]
        exact Or.inl trivial

theorem onlyTouches_expireStale (leases : List ResourceLease) (resourceKind : String)
    (resourceId : Id) (now : Time) :
    OnlyTouches (isForResource resourceKind resourceId) leases
      (expireStale leases resourceKind resourceId now) := by
  rcases expireStale_eq leases resourceKind resourceId now with
    hsame | ⟨stale, id, hrow, hresource, hmarked⟩
  · rw [hsame]
    exact OnlyTouches.refl _ _
  · rw [hmarked]
    exact onlyTouches_update hrow hresource hresource

theorem onlyTouches_claim {payload : LeaseClaimRequest} {now lookupNow : Time} {drawn : String}
    {result : List ResourceLease × ResourceLease}
    (hok : claimResourceLease leases payload now lookupNow drawn = .ok result) :
    OnlyTouches (isForResource payload.resourceKind payload.resourceId) leases result.1 := by
  rcases claimResourceLease_eq_ok hok with ⟨current, id, hcurrent, _, hafter⟩ | ⟨_, hafter⟩
  · rcases getCurrentLease_spec hcurrent with ⟨hrow, hresource, _⟩
    rw [hafter]
    exact onlyTouches_update hrow hresource hresource
  · rw [hafter]
    have hopened : isForResource payload.resourceKind payload.resourceId
        (openedBy payload now drawn) := decide_eq_true ⟨rfl, rfl⟩
    exact (onlyTouches_expireStale leases _ _ now).trans (onlyTouches_append _ hopened)

end OpsCure.Presence

namespace OpsCure.RemoteTask

open Fallible Table Presence Run

/-! ## The service beside the other holders of leases -/

/-- A call of the task service, or one of the lease service by somebody else. -/
inductive Deed where
  | task (operation : Operation)
  | lease (operation : LeaseOperation)

/-- A deed, and the time since the deed before it. -/
structure TimedDeed where
  deed : Deed
  waited : Nat

/-- The tables, and the last reading of the clock. -/
structure ServiceState where
  db : Db
  clock : Time

def ServiceState.now (state : ServiceState) (timed : TimedDeed) : Time :=
  state.clock + timed.waited

def deedStep (state : ServiceState) (timed : TimedDeed) : ServiceState where
  db :=
    match timed.deed with
    | .task operation => step state.db ⟨operation, fun _ => state.now timed⟩
    | .lease operation =>
        { state.db with
          leases := (Presence.step ⟨state.db.leases, state.clock⟩
            ⟨operation, timed.waited, 0⟩).leases }
  clock := state.now timed

def TouchesTaskLease (state : ServiceState) (timed : TimedDeed) : Prop :=
  match timed.deed with
  | .task _ => False
  | .lease (.claim payload _) => payload.resourceKind = remoteTaskResourceKind
  | .lease (.heartbeat leaseId _) | .lease (.release leaseId _) =>
      ∃ lease, state.db.leases[leaseId]? = some lease ∧
        lease.resourceKind = remoteTaskResourceKind

structure InLockstep (state : ServiceState) : Prop where
  one_current : ∀ (taskId : Id) (row : Task) (id other : Id) (assignment rival : Assignment),
    state.db.tasks[taskId]? = some row → row.assignments[id]? = some assignment →
    row.assignments[other]? = some rival → assignment.status = .claimed →
    rival.status = .claimed → id = other
  agree : ∀ (taskId : Id) (row : Task) (now : Time), state.db.tasks[taskId]? = some row →
    state.clock ≤ now →
    ((∃ current, currentAssignment row = some current ∧ now < current.1.leaseExpiresAt) ↔
      ∃ live, getCurrentLease state.db.leases remoteTaskResourceKind taskId now = some live)
  equal : ∀ (taskId : Id) (row : Task) (now : Time) (current : Assignment × Id)
    (live : ResourceLease × Id), state.db.tasks[taskId]? = some row → state.clock ≤ now →
    currentAssignment row = some current →
    getCurrentLease state.db.leases remoteTaskResourceKind taskId now = some live →
    current.1.actorId = live.1.holderActorId ∧ current.1.leaseToken = live.1.leaseToken ∧
      current.1.leaseExpiresAt = live.1.expiresAt
  one_passes : ∀ (taskId : Id) (row : Task) (now : Time) (actorId leaseToken : String)
    (other otherToken : String) (current rival : Assignment × Id),
    state.db.tasks[taskId]? = some row → state.clock ≤ now →
    requireActiveAssignment taskId row actorId leaseToken now = .ok current →
    requireActiveAssignment taskId row other otherToken now = .ok rival →
    actorId = other ∧ leaseToken = otherToken

/-! ## One task -/

/-- The assignment is one that has been claimed and not given up. -/
def isCurrent (item : Assignment) : Bool := item.status = .claimed

def isLiveFor (taskId : Id) (now : Time) (lease : ResourceLease) : Bool :=
  isForResource remoteTaskResourceKind taskId lease && isLive now lease

structure Matches (assignment : Assignment) (lease : ResourceLease) : Prop where
  holder : assignment.actorId = lease.holderActorId
  token : assignment.leaseToken = lease.leaseToken
  expiry : assignment.leaseExpiresAt = lease.expiresAt

/-- What a task has of a current assignment and a live lease: neither, an assignment that is
over, or the two together. -/
inductive Corresponds (now : Time) :
    Option (Assignment × Id) → Option (ResourceLease × Id) → Prop
  | idle : Corresponds now none none
  | lapsed {assignment : Assignment} {id : Id} (hreleased : assignment.releasedAt = none)
      (hover : assignment.leaseExpiresAt ≤ now) : Corresponds now (some (assignment, id)) none
  | held {assignment : Assignment} {id : Id} {lease : ResourceLease} {leaseId : Id}
      (hreleased : assignment.releasedAt = none) (hmatches : Matches assignment lease) :
      Corresponds now (some (assignment, id)) (some (lease, leaseId))

structure Linked (assignments : List Assignment) (leases : List ResourceLease) (taskId : Id)
    (now : Time) (current : Option (Assignment × Id)) (live : Option (ResourceLease × Id)) :
    Prop where
  one_current : Sole isCurrent assignments current
  one_live : Sole (isLiveFor taskId now) leases live
  corresponds : Corresponds now current live

variable {row : Task} {current : Option (Assignment × Id)} {leases after : List ResourceLease}
  {taskId : Id} {now : Time} {live : Option (ResourceLease × Id)} {assignments : List Assignment}
  {actorId : String} {db db' : Db} {state : ServiceState}

theorem currentAssignment_of_sole (hsole : Sole isCurrent row.assignments current) :
    currentAssignment row = current :=
  firstBy_of_sole hsole

theorem getCurrentLease_of_sole (hsole : Sole (isLiveFor taskId now) leases live) :
    getCurrentLease leases remoteTaskResourceKind taskId now = live :=
  firstBy_of_sole hsole

theorem isLiveFor_iff {lease : ResourceLease} :
    isLiveFor taskId now lease ↔
      isForResource remoteTaskResourceKind taskId lease ∧ isLive now lease := by
  rw [isLiveFor, Bool.and_eq_true]

variable {clock : Time} {drawn leaseToken : String} {assignment : Assignment} {id : Id}

theorem Linked.later (hlinked : Linked assignments leases taskId clock current live)
    (hle : clock ≤ now) : ∃ live, Linked assignments leases taskId now current live := by
  have hearlier : ∀ {lease : ResourceLease}, isLiveFor taskId now lease →
      isLiveFor taskId clock lease := by
    intro lease hlive
    rw [isLiveFor_iff] at hlive ⊢
    exact ⟨hlive.1, isLive_earlier hle hlive.2⟩
  have hnone : Sole (isLiveFor taskId clock) leases none →
      Sole (isLiveFor taskId now) leases none := by
    intro hsole id lease hlease hlive
    exact hsole id lease hlease (hearlier hlive)
  obtain ⟨hcurrent, hlive, hcorresponds⟩ := hlinked
  cases hcorresponds with
  | idle => exact ⟨none, hcurrent, hnone hlive, Corresponds.idle⟩
  | lapsed hreleased hover =>
      exact ⟨none, hcurrent, hnone hlive, Corresponds.lapsed hreleased (hover.trans hle)⟩
  | @held assignment id lease leaseId hreleased hmatches =>
      have hresource := (isLiveFor_iff.1 hlive.2.1).1
      have hthen := isLive_iff.1 (isLiveFor_iff.1 hlive.2.1).2
      by_cases hruns : now < lease.expiresAt
      · have hnow : isLiveFor taskId now lease :=
          isLiveFor_iff.2 ⟨hresource, isLive_iff.2 ⟨hthen.1, hruns, hthen.2.2⟩⟩
        refine ⟨some (lease, leaseId), hcurrent, ⟨hlive.1, hnow, ?_⟩,
          Corresponds.held hreleased hmatches⟩
        intro other found hfound hkept
        exact hlive.2.2 other found hfound (hearlier hkept)
      · have hover : assignment.leaseExpiresAt ≤ now := by
          rw [hmatches.expiry]
          exact not_lt.mp hruns
        refine ⟨none, hcurrent, ?_, Corresponds.lapsed hreleased hover⟩
        intro other found hfound hkept
        have hsame := hlive.2.2 other found hfound (hearlier hkept)
        subst hsame
        rw [hlive.1] at hfound
        have hunexpired := (isLive_iff.1 (isLiveFor_iff.1 hkept).2).2.1
        rw [← Option.some.inj hfound] at hunexpired
        exact hruns hunexpired

theorem Linked.elsewhere {resource : ResourceLease → Bool}
    (hlinked : Linked assignments leases taskId now current live)
    (honly : OnlyTouches resource leases after)
    (hother : ∀ lease, isForResource remoteTaskResourceKind taskId lease → ¬ resource lease) :
    Linked assignments after taskId now current live := by
  obtain ⟨hcurrent, hlive, hcorresponds⟩ := hlinked
  refine ⟨hcurrent, hlive.congr ?_, hcorresponds⟩
  intro id lease hkeep
  exact honly id lease (hother lease (isLiveFor_iff.1 hkeep).1)

theorem now_lt_expiry (now : Time) (leaseSeconds : Int) :
    now < now + seconds (validateLeaseSeconds leaseSeconds) := by
  have hten : (10 : Int) ≤ validateLeaseSeconds leaseSeconds := le_max_left _ _
  have hpositive : 0 < seconds (validateLeaseSeconds leaseSeconds) := by
    unfold seconds
    exact Int.mul_pos (lt_of_lt_of_le (by decide) hten) (by decide)
  exact Int.lt_add_of_pos_right now hpositive

/-! ## What a call does to its task -/

/-- A claim that is granted leaves the claimant's assignment current and its lease live. -/
theorem Linked.claim {payload : LeaseClaimRequest} {result : List ResourceLease × ResourceLease}
    (hlinked : Linked assignments leases taskId now current live)
    (hkind : payload.resourceKind = remoteTaskResourceKind) (hid : payload.resourceId = taskId)
    (hstatus : payload.status = "claimed")
    (hok : claimResourceLease leases payload now now drawn = .ok result) :
    ∃ current' live', Linked (upsertAssignmentFromLease assignments current result.2 now)
      result.1 taskId now current' live' := by
  obtain ⟨hcurrent, hlive, hcorresponds⟩ := hlinked
  have hexpiry := now_lt_expiry now payload.leaseSeconds
  have hunmarked : payload.status ≠ "expired" := by
    rw [hstatus]
    decide
  have hlookup : getCurrentLease leases payload.resourceKind payload.resourceId now = live := by
    rw [hkind, hid]
    exact getCurrentLease_of_sole hlive
  rcases claimResourceLease_eq_ok hok with ⟨lease, leaseId, hfound, hholder, rfl⟩ | ⟨hnone, rfl⟩
  · -- The claimant's own lease is renewed, and its assignment with it.
    rw [hlookup] at hfound
    subst hfound
    cases hcorresponds with
    | @held assignment id _ _ hreleased hmatches =>
        have hkept := isLiveFor_iff.1 hlive.2.1
        have hthen := isLive_iff.1 hkept.2
        have hactor : assignment.actorId = (reclaimedBy payload now lease).holderActorId :=
          hmatches.holder
        have hunexpired : ¬(assignment.leaseExpiresAt ≤ now ∧ assignment.releasedAt = none) := by
          rw [hmatches.expiry]
          exact fun hover => absurd hthen.2.1 (not_lt.mpr hover.1)
        have hclaimed : assignment.status = .claimed := of_decide_eq_true hcurrent.2.1
        simp only [upsertAssignmentFromLease, if_neg hunexpired, if_pos (And.intro hactor
          (And.intro hreleased hclaimed))]
        refine ⟨_, _, hcurrent.update ?_, hlive.update ?_, Corresponds.held hreleased ?_⟩
        · exact decide_eq_true hclaimed
        · exact isLiveFor_iff.2 ⟨hkept.1, isLive_iff.2 ⟨hthen.1, hexpiry, hunmarked⟩⟩
        · exact ⟨hactor, rfl, rfl⟩
  · -- A lease is opened, and an assignment with it; one that is over is retired.
    rw [hlookup] at hnone
    subst hnone
    have hresource : isForResource remoteTaskResourceKind taskId
        (openedBy payload now drawn) := decide_eq_true ⟨hkind, hid⟩
    have hopened : isLiveFor taskId now (openedBy payload now drawn) :=
      isLiveFor_iff.2 ⟨hresource, isLive_iff.2 ⟨rfl, hexpiry, hunmarked⟩⟩
    have hstale : Sole (isLiveFor taskId now)
        (expireStale leases payload.resourceKind payload.resourceId now) none := by
      rcases expireStale_eq leases payload.resourceKind payload.resourceId now with
        hsame | ⟨stale, staleId, hrow, _, hmarked⟩
      · rw [hsame]
        exact hlive
      · rw [hmarked]
        refine hlive.update_none hrow ?_
        intro hkept
        exact (isLive_iff.1 (isLiveFor_iff.1 hkept).2).2.2 rfl
    cases hcorresponds with
    | idle =>
        refine ⟨_, _, hcurrent.append ?_, hstale.append hopened, Corresponds.held rfl ?_⟩
        · rfl
        · exact ⟨rfl, rfl, rfl⟩
    | @lapsed assignment id hreleased hover =>
        simp only [upsertAssignmentFromLease, if_pos (And.intro hover hreleased)]
        have hretired : Sole isCurrent (update assignments id
            { assignment with status := .expired, releasedAt := some now }) none := by
          exact hcurrent.retire Bool.false_ne_true
        refine ⟨_, _, hretired.append ?_, hstale.append hopened, Corresponds.held rfl ?_⟩
        · rfl
        · exact ⟨rfl, rfl, rfl⟩

theorem Linked.given_up {settled : Assignment}
    (hlinked : Linked assignments leases taskId now (some (assignment, id)) live)
    (hsettled : settled.status ≠ .claimed) (hnone : Sole (isLiveFor taskId now) after none) :
    Linked (update assignments id settled) after taskId now none none := by
  refine ⟨hlinked.one_current.retire ?_, hnone, Corresponds.idle⟩
  intro hkept
  exact hsettled (of_decide_eq_true hkept)

theorem released_of_releaseResourceLease {lease : ResourceLease} {leaseId : Id}
    {payload : LeaseReleaseRequest}
    (hlive : Sole (isLiveFor taskId now) leases (some (lease, leaseId)))
    (hok : releaseResourceLease leases leaseId payload now = .ok after) :
    Sole (isLiveFor taskId now) after none ∧
      OnlyTouches (isForResource remoteTaskResourceKind taskId) leases after := by
  have hresource := (isLiveFor_iff.1 hlive.2.1).1
  rcases releaseResourceLease_eq_ok hok with ⟨row, hrow, rfl⟩
  have hsame : lease = row := Option.some.inj (hlive.1.symm.trans hrow)
  subst hsame
  constructor
  · refine hlive.retire ?_
    intro hkept
    cases (isLive_iff.1 (isLiveFor_iff.1 hkept).2).1
  · exact onlyTouches_update hrow hresource hresource

theorem releaseKernelLeaseIfPresent_eq_ok (hlive : Sole (isLiveFor taskId now) leases live)
    (hok : releaseKernelLeaseIfPresent leases taskId actorId leaseToken now now = .ok after) :
    Sole (isLiveFor taskId now) after none ∧
      OnlyTouches (isForResource remoteTaskResourceKind taskId) leases after := by
  unfold releaseKernelLeaseIfPresent at hok
  rw [getCurrentLease_of_sole hlive] at hok
  cases live with
  | none =>
      cases hok
      exact ⟨hlive, OnlyTouches.refl _ _⟩
  | some =>
      simp only [bind_eq_ok, mapError_eq_ok] at hok
      obtain ⟨_, _, hrelease⟩ := hok
      exact released_of_releaseResourceLease hlive hrelease

theorem releaseStaleLease_eq_ok (hlinked : Linked assignments leases taskId now current live)
    (hok : releaseStaleLease leases taskId current now now = .ok after) :
    Sole (isLiveFor taskId now) after none ∧
      OnlyTouches (isForResource remoteTaskResourceKind taskId) leases after := by
  obtain ⟨_, hlive, hcorresponds⟩ := hlinked
  unfold releaseStaleLease at hok
  rw [getCurrentLease_of_sole hlive] at hok
  cases hcorresponds with
  | idle | lapsed =>
      cases hok
      exact ⟨hlive, OnlyTouches.refl _ _⟩
  | held _ hmatches =>
      simp only [if_pos (And.intro hmatches.holder.symm hmatches.token.symm),
        mapError_eq_ok] at hok
      exact released_of_releaseResourceLease hlive hok

/-! ## Every task -/

structure Lockstep (db : Db) (now : Time) : Prop where
  linked : ∀ (taskId : Id) (row : Task), db.tasks[taskId]? = some row →
    ∃ current live, Linked row.assignments db.leases taskId now current live
  known : ∀ (id : Id) (lease : ResourceLease), db.leases[id]? = some lease →
    lease.resourceKind = remoteTaskResourceKind → lease.resourceId < db.tasks.length

/-- One task was rewritten, with leases of its own, and is linked. -/
def Moved (db db' : Db) (taskId : Id) (now : Time) : Prop :=
  ∃ row row' current live, db.tasks[taskId]? = some row ∧
    db'.tasks = update db.tasks taskId row' ∧
    OnlyTouches (isForResource remoteTaskResourceKind taskId) db.leases db'.leases ∧
    Linked row'.assignments db'.leases taskId now current live

theorem Lockstep.later (hlock : Lockstep db clock) (hle : clock ≤ now) :
    Lockstep db now where
  linked := by
    intro taskId row hrow
    obtain ⟨current, live, hlinked⟩ := hlock.linked taskId row hrow
    exact ⟨current, hlinked.later hle⟩
  known := hlock.known

theorem Lockstep.moved (hlock : Lockstep db now) (hmoved : Moved db db' taskId now) :
    Lockstep db' now := by
  obtain ⟨row, row', current, live, hrow, htasks, honly, hlinked⟩ := hmoved
  constructor
  · intro other found hfound
    rw [htasks] at hfound
    by_cases hid : taskId = other
    · subst hid
      rw [getElem?_update_self hrow] at hfound
      rw [← Option.some.inj hfound]
      exact ⟨current, live, hlinked⟩
    · rw [getElem?_update_of_ne hid] at hfound
      obtain ⟨others, othersLive, hothers⟩ := hlock.linked other found hfound
      refine ⟨others, othersLive, hothers.elsewhere honly ?_⟩
      intro lease hother hresource
      have htheirs := of_decide_eq_true hother
      have hours := of_decide_eq_true hresource
      exact hid (hours.2.symm.trans htheirs.2)
  · intro id lease hlease hkind
    have hlength : db'.tasks.length = db.tasks.length := by
      rw [htasks]
      exact List.length_set
    rw [hlength]
    by_cases hid : lease.resourceId = taskId
    · rw [hid]
      exact (List.getElem?_eq_some_iff.mp hrow).1
    · have hother : ¬ isForResource remoteTaskResourceKind taskId lease :=
        fun hresource => hid (of_decide_eq_true hresource).2
      exact hlock.known id lease ((honly id lease hother).mpr hlease) hkind

theorem moved_of_kept {row' : Task} (hlock : Lockstep db now)
    (hrow : db.tasks[taskId]? = some row) (htasks : db'.tasks = update db.tasks taskId row')
    (hassignments : row'.assignments = row.assignments) (hleases : db'.leases = db.leases) :
    Moved db db' taskId now := by
  obtain ⟨current, live, hlinked⟩ := hlock.linked taskId row hrow
  refine ⟨row, row', current, live, hrow, htasks, ?_, ?_⟩
  · rw [hleases]
    exact OnlyTouches.refl _ _
  · rw [hassignments, hleases]
    exact hlinked

theorem moved_of_claim {leaseSeconds : Int} (hlock : Lockstep db now)
    (hrow : db.tasks[taskId]? = some row)
    (hok : claimTaskInSession db taskId row actorId leaseSeconds (fun _ => now) drawn =
      .ok db') : Moved db db' taskId now := by
  obtain ⟨current, live, hlinked⟩ := hlock.linked taskId row hrow
  simp only [claimTaskInSession, bind_eq_ok, pure_eq_ok, mapError_eq_ok,
    currentAssignment_of_sole hlinked.one_current] at hok
  obtain ⟨result, hclaim, rfl⟩ := hok
  obtain ⟨current', live', hafter⟩ := hlinked.claim rfl rfl rfl hclaim
  exact ⟨row, _, current', live', hrow, rfl, onlyTouches_claim hclaim, hafter⟩

theorem moved_of_heartbeat {payload : HeartbeatRequest} (hlock : Lockstep db now)
    (hok : heartbeatTask db taskId payload (fun _ => now) = .ok db') : Moved db db' taskId now := by
  simp only [heartbeatTask, bind_eq_ok, pure_eq_ok, mapError_eq_ok, requireTask_eq_ok,
    orRaise_eq_ok] at hok
  obtain ⟨row, hrow, ⟨assignment, id⟩, hactive, ⟨lease, leaseId⟩, hfound, result, hbeat, rfl⟩ :=
    hok
  obtain ⟨current, live, hcurrent, hlive, hcorresponds⟩ := hlock.linked taskId row hrow
  have hheld := (requireActiveAssignment_eq_ok.1 hactive).1
  rw [currentAssignment_of_sole hcurrent] at hheld
  rw [getCurrentLease_of_sole hlive] at hfound
  subst hheld hfound
  obtain ⟨beaten, hrenewable, rfl⟩ := heartbeatResourceLease_eq_ok.1 hbeat
  have hsame : lease = beaten := Option.some.inj (hlive.1.symm.trans hrenewable.found)
  subst hsame
  have hkept := isLiveFor_iff.1 hlive.2.1
  cases hcorresponds with
  | held hreleased hmatches =>
      refine ⟨row, _, _, _, hrow, rfl, ?_, hcurrent.update ?_, hlive.update ?_,
        Corresponds.held hreleased ?_⟩
      · exact onlyTouches_update hlive.1 hkept.1 hkept.1
      · exact hcurrent.2.1
      · refine isLiveFor_iff.2 ⟨hkept.1, isLive_iff.2 ⟨?_, ?_, ?_⟩⟩
        · exact (isLive_iff.1 hkept.2).1
        · exact now_lt_expiry now _
        · simp [renewedBy, Text.orElse]
      · exact ⟨hmatches.holder, hmatches.token, rfl⟩

theorem moved_of_release (hlock : Lockstep db now) (hrow : db.tasks[taskId]? = some row)
    (hactive : requireActiveAssignment taskId row actorId leaseToken now =
      .ok (assignment, id))
    (hrelease : releaseKernelLeaseIfPresent db.leases taskId actorId leaseToken now now =
      .ok leases) {evidenced : Task} (hassignments : evidenced.assignments = row.assignments)
    {outcome : AssignmentStatus} (houtcome : outcome ≠ .claimed) (status : TaskStatus) :
    Moved db ({ db with leases := leases }.setTask taskId
      (releaseAssignment evidenced assignment id outcome status actorId now now)) taskId now := by
  obtain ⟨current, live, hlinked⟩ := hlock.linked taskId row hrow
  have hheld := (requireActiveAssignment_eq_ok.1 hactive).1
  rw [currentAssignment_of_sole hlinked.one_current] at hheld
  subst hheld
  obtain ⟨hnone, honly⟩ := releaseKernelLeaseIfPresent_eq_ok hlinked.one_live hrelease
  refine ⟨row, _, none, none, hrow, rfl, honly, ?_⟩
  simp only [releaseAssignment, hassignments]
  exact hlinked.given_up houtcome hnone

theorem moved_of_settle (hlock : Lockstep db now) (hrow : db.tasks[taskId]? = some row)
    (hrelease : releaseStaleLease db.leases taskId (currentAssignment row) now now = .ok leases)
    (finalStatus : TaskStatus) (summary : String) (payload : List (String × Json)) :
    Moved db ({ db with leases := leases }.setTask taskId
      (settledRow row finalStatus summary payload now now)) taskId now := by
  obtain ⟨current, live, hlinked⟩ := hlock.linked taskId row hrow
  have hcurrent := currentAssignment_of_sole hlinked.one_current
  rw [hcurrent] at hrelease
  obtain ⟨hnone, honly⟩ := releaseStaleLease_eq_ok hlinked hrelease
  refine ⟨row, _, none, none, hrow, rfl, honly, ?_⟩
  have hstatus : settledAssignment finalStatus ≠ .claimed := by
    cases finalStatus <;> decide
  cases hlinked.corresponds with
  | idle =>
      simp only [settledRow, hcurrent]
      exact ⟨hlinked.one_current, hnone, Corresponds.idle⟩
  | lapsed hreleased _ | held hreleased _ =>
      simp only [settledRow, hcurrent, if_pos hreleased]
      exact hlinked.given_up hstatus hnone

theorem perform_lockstep {operation : Operation} (hlock : Lockstep db now)
    (hok : perform db ⟨operation, fun _ => now⟩ = .ok db') : Lockstep db' now := by
  cases operation with
  | createTask =>
      cases hok
      constructor
      · intro taskId row hrow
        rcases getElem?_concat_eq_some hrow with hstood | ⟨hid, hsame⟩
        · exact hlock.linked taskId row hstood
        · refine ⟨none, none, ?_, ?_, Corresponds.idle⟩
          · intro id assignment hassignment
            rw [hsame] at hassignment
            cases hassignment
          · intro id lease hlease hkept
            have hresource := of_decide_eq_true (isLiveFor_iff.1 hkept).1
            have hknown := hlock.known id lease hlease hresource.1
            rw [hresource.2, hid] at hknown
            exact absurd hknown (lt_irrefl _)
      · intro id lease hlease hkind
        have hknown := hlock.known id lease hlease hkind
        simp only [createTask, List.length_append, List.length_singleton]
        exact Nat.lt_succ_of_lt hknown
  | claimTask =>
      simp only [perform, claimTask, bind_eq_ok, requireTask_eq_ok] at hok
      obtain ⟨row, hrow, hclaim⟩ := hok
      exact hlock.moved (moved_of_claim hlock hrow hclaim)
  | claimNextTask machineId payload =>
      simp only [perform, claimNextTask] at hok
      cases hnext : nextQueuedTask db machineId payload with
      | none =>
          rw [hnext] at hok
          cases hok
          exact hlock
      | some =>
          rw [hnext] at hok
          exact hlock.moved (moved_of_claim hlock (firstBy_selectWhere hnext).1 hok)
  | heartbeatTask => exact hlock.moved (moved_of_heartbeat hlock hok)
  | addEvidence =>
      simp only [perform, addEvidence, bind_eq_ok, requireTask_eq_ok, pure_eq_ok] at hok
      obtain ⟨row, hrow, rfl⟩ := hok
      exact hlock.moved (moved_of_kept hlock hrow rfl rfl rfl)
  | requestApproval =>
      simp only [perform, requestApproval, bind_eq_ok, requireTask_eq_ok, pure_eq_ok] at hok
      obtain ⟨row, hrow, _, _, rfl⟩ := hok
      exact hlock.moved (moved_of_kept hlock hrow rfl rfl rfl)
  | resolveApproval =>
      simp only [perform, resolveApproval, bind_eq_ok, requireTask_eq_ok, pure_eq_ok] at hok
      obtain ⟨row, hrow, _, _, _, _, rfl⟩ := hok
      exact hlock.moved (moved_of_kept hlock hrow rfl rfl rfl)
  | addNote =>
      simp only [perform, addNote, bind_eq_ok, requireTask_eq_ok, pure_eq_ok] at hok
      obtain ⟨row, hrow, rfl⟩ := hok
      exact hlock.moved (moved_of_kept hlock hrow rfl rfl rfl)
  | interruptTask =>
      simp only [perform, interruptTask, bind_eq_ok, requireTask_eq_ok, pure_eq_ok] at hok
      obtain ⟨row, hrow, _, hactive, leases, hrelease, rfl⟩ := hok
      apply hlock.moved
      refine moved_of_release hlock hrow hactive hrelease ?_ ?_ _
      · rfl
      · decide
  | completeTask =>
      simp only [perform, completeTask, bind_eq_ok, requireTask_eq_ok, pure_eq_ok] at hok
      obtain ⟨row, hrow, _, hactive, leases, hrelease, rfl⟩ := hok
      apply hlock.moved
      refine moved_of_release hlock hrow hactive hrelease ?_ ?_ _
      · rfl
      · decide
  | failTask =>
      simp only [perform, failTask, bind_eq_ok, requireTask_eq_ok, pure_eq_ok] at hok
      obtain ⟨row, hrow, _, hactive, leases, hrelease, rfl⟩ := hok
      apply hlock.moved
      refine moved_of_release hlock hrow hactive hrelease ?_ ?_ _
      · rfl
      · decide
  | settleStaleTask =>
      simp only [perform, settleStaleTask, bind_eq_ok, requireTask_eq_ok] at hok
      obtain ⟨_, _, row, hrow, hsettle⟩ := hok
      by_cases hdone : isSettled row.status
      · rw [if_pos hdone, pure_eq_ok] at hsettle
        rw [← hsettle]
        exact hlock
      · simp only [if_neg hdone, bind_eq_ok, pure_eq_ok] at hsettle
        obtain ⟨leases, hrelease, rfl⟩ := hsettle
        exact hlock.moved (moved_of_settle hlock hrow hrelease _ _ _)

/-- The lease service does not unlink the tasks while it is used for other resources. -/
theorem lease_step_lockstep {operation : LeaseOperation} {waited : Nat}
    (hlock : Lockstep state.db (state.now ⟨.lease operation, waited⟩))
    (hother : ¬ TouchesTaskLease state ⟨.lease operation, waited⟩) :
    Lockstep (deedStep state ⟨.lease operation, waited⟩).db
      (state.now ⟨.lease operation, waited⟩) := by
  have hkept : ∀ {resource : ResourceLease → Bool} {after : List ResourceLease},
      OnlyTouches resource state.db.leases after →
      (∀ lease, resource lease → lease.resourceKind ≠ remoteTaskResourceKind) →
      Lockstep { state.db with leases := after } (state.now ⟨.lease operation, waited⟩) := by
    intro resource after honly hkinds
    constructor
    · intro taskId row hrow
      obtain ⟨current, live, hlinked⟩ := hlock.linked taskId row hrow
      refine ⟨current, live, hlinked.elsewhere honly ?_⟩
      intro lease htasks hresource
      exact hkinds lease hresource (of_decide_eq_true htasks).1
    · intro id lease hlease hkind
      have hours : ¬ resource lease := fun hresource => hkinds lease hresource hkind
      exact hlock.known id lease ((honly id lease hours).mpr hlease) hkind
  simp only [deedStep, Presence.step]
  cases hok : Presence.perform ⟨state.db.leases, state.clock⟩ ⟨operation, waited, 0⟩ with
  | error => exact hlock
  | ok =>
      rw [committed_ok]
      cases operation with
      | claim =>
          simp only [Presence.perform, bind_eq_ok, Prod.exists, pure_eq_ok] at hok
          obtain ⟨_, lease, hclaim, rfl⟩ := hok
          refine hkept (onlyTouches_claim hclaim) ?_
          intro other hresource hkind
          exact hother ((of_decide_eq_true hresource).1.symm.trans hkind)
      | heartbeat =>
          simp only [Presence.perform, bind_eq_ok, Prod.exists, pure_eq_ok] at hok
          obtain ⟨_, lease, hbeat, rfl⟩ := hok
          obtain ⟨found, hrenewable, hresult⟩ := heartbeatResourceLease_eq_ok.1 hbeat
          rw [(Prod.mk.inj hresult).1]
          have hresource : isForResource found.resourceKind found.resourceId found :=
            decide_eq_true ⟨rfl, rfl⟩
          refine hkept (onlyTouches_update hrenewable.found hresource hresource) ?_
          intro other hsame hkind
          exact hother ⟨found, hrenewable.found, (of_decide_eq_true hsame).1.symm.trans hkind⟩
      | release =>
          simp only [Presence.perform] at hok
          obtain ⟨found, hfound, rfl⟩ := releaseResourceLease_eq_ok hok
          have hresource : isForResource found.resourceKind found.resourceId found :=
            decide_eq_true ⟨rfl, rfl⟩
          refine hkept (onlyTouches_update hfound hresource hresource) ?_
          intro other hsame hkind
          exact hother ⟨found, hfound, (of_decide_eq_true hsame).1.symm.trans hkind⟩

theorem clock_le_now (state : ServiceState) (timed : TimedDeed) :
    state.clock ≤ state.now timed :=
  Int.le_add_of_nonneg_right (Int.natCast_nonneg _)

theorem deedStep_lockstep {timed : TimedDeed} (hlock : Lockstep state.db state.clock)
    (hother : ¬ TouchesTaskLease state timed) :
    Lockstep (deedStep state timed).db (deedStep state timed).clock := by
  have hnow := hlock.later (clock_le_now state timed)
  obtain ⟨deed, waited⟩ := timed
  cases deed with
  | task operation =>
      simp only [deedStep, step]
      cases hok : perform state.db ⟨operation, fun _ => state.now ⟨.task operation, waited⟩⟩ with
      | error => exact hnow
      | ok =>
          rw [committed_ok]
          exact perform_lockstep hnow hok
  | lease => exact lease_step_lockstep hnow hother

theorem Lockstep.inLockstep (hlock : Lockstep state.db state.clock) :
    InLockstep state where
  one_current := by
    intro taskId row id other assignment rival hrow hassignment hrival hclaimed hrivals
    obtain ⟨current, live, hlinked⟩ := hlock.linked taskId row hrow
    exact hlinked.one_current.eq hassignment (decide_eq_true hclaimed) hrival
      (decide_eq_true hrivals)
  agree := by
    intro taskId row now hrow hle
    obtain ⟨current, live, hcurrent, hlive, hcorresponds⟩ := (hlock.later hle).linked taskId row hrow
    rw [currentAssignment_of_sole hcurrent, getCurrentLease_of_sole hlive]
    cases hcorresponds with
    | idle => simp
    | lapsed _ hover =>
        constructor
        · rintro ⟨found, hsame, hruns⟩
          rw [← Option.some.inj hsame] at hruns
          exact absurd hruns (not_lt.mpr hover)
        · rintro ⟨found, hsame⟩
          cases hsame
    | held _ hmatches =>
        have hruns := (isLive_iff.1 (isLiveFor_iff.1 hlive.2.1).2).2.1
        rw [← hmatches.expiry] at hruns
        exact ⟨fun _ => ⟨_, rfl⟩, fun _ => ⟨_, rfl, hruns⟩⟩
  equal := by
    intro taskId row now assignment lease hrow hle hassignment hlease
    obtain ⟨current, live, hcurrent, hlive, hcorresponds⟩ := (hlock.later hle).linked taskId row hrow
    rw [currentAssignment_of_sole hcurrent] at hassignment
    rw [getCurrentLease_of_sole hlive] at hlease
    subst hassignment hlease
    cases hcorresponds with
    | held _ hmatches => exact ⟨hmatches.holder, hmatches.token, hmatches.expiry⟩
  one_passes := by
    intro taskId row now actorId leaseToken other otherToken current rival _ _ hpasses hrivals
    have hours := requireActiveAssignment_eq_ok.1 hpasses
    have htheirs := requireActiveAssignment_eq_ok.1 hrivals
    have hsame : current = rival := Option.some.inj (hours.1.symm.trans htheirs.1)
    rw [← hsame] at htheirs
    exact ⟨hours.2.1.symm.trans htheirs.2.1, hours.2.2.1.symm.trans htheirs.2.2.1⟩

/-! ## The theorem -/

/-- From empty tables, under any calls of the task service and any deeds of others that leave
the leases of the remote tasks alone: assignments and leases agree in every state. -/
theorem assignments_match_leases (clock : Time) (deeds : List TimedDeed)
    (hothers : Along deedStep (fun state timed => ¬ TouchesTaskLease state timed)
      ⟨Db.empty, clock⟩ deeds) :
    Throughout deedStep InLockstep ⟨Db.empty, clock⟩ deeds := by
  have hstart : Lockstep Db.empty clock := by
    constructor
    · intro taskId row hrow
      cases hrow
    · intro id lease hlease
      cases hlease
  have hrun : Throughout deedStep (fun state => Lockstep state.db state.clock)
      ⟨Db.empty, clock⟩ deeds := by
    refine throughout_of_preserved ?_ ?_
    · exact hstart
    · intro done timed hdeed hhere
      exact deedStep_lockstep hhere (hothers done timed hdeed)
  intro done hdone
  exact (hrun done hdone).inLockstep

/-- A task is made, claimed and completed while somebody else claims a machine. -/
def sharedRun : List TimedDeed :=
  [⟨.task (.createTask
      { machineId := "m", threadId := "t", objective := "o", successCriteria := .null
        originSurface := "s", originMessageId := none, priority := "normal"
        createdBy := "alice" }), 1⟩,
    ⟨.task (.claimTask 0 { actorId := "bob", leaseSeconds := 60 } "token"), 1⟩,
    ⟨.lease (.claim
      { resourceKind := "machine", resourceId := 0, holderActorId := "carol"
        leaseToken := none, leaseSeconds := 60, status := "claimed" } "other"), 1⟩,
    ⟨.task (.completeTask 0 { actorId := "bob", leaseToken := "token", summary := none }), 1⟩]

theorem shared_run_in_lockstep : Throughout deedStep InLockstep ⟨Db.empty, 0⟩ sharedRun := by
  refine assignments_match_leases 0 sharedRun ?_
  refine along_cons (fun h => h) (along_cons (fun h => h) (along_cons ?_
    (along_cons (fun h => h) (along_nil _ _ _))))
  intro htouches
  have hkind : "machine" = remoteTaskResourceKind := htouches
  exact absurd hkind (by decide)

example : ((run deedStep ⟨Db.empty, 0⟩ sharedRun).db.tasks[0]?.map (·.status)) =
    some .completed := by
  decide

end OpsCure.RemoteTask
