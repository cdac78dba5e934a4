/-
What a claim of a queued task holds.  A queued task has never been assigned or leased, so the one
who claims it holds its only assignment and its only lease, which end together; calls about other
tasks leave both alone.
-/
import OpsCure.EvidenceRules
import OpsCure.LeaseLockstep

namespace OpsCure.RemoteTask

open Fallible Table Presence Run

/-! ## The leases a call touches -/

abbrev taskResource (task : Id) : ResourceLease → Bool :=
  isForResource remoteTaskResourceKind task

variable {db' : Db} {row : Task} {leases after : List ResourceLease} {now : Time}

theorem onlyTouches_claimTaskInSession {db : Db} {task : Id} {actorId : String}
    {leaseSeconds : Int} {clock : Clock} {drawn : String}
    (hok : claimTaskInSession db task row actorId leaseSeconds clock drawn = .ok db') :
    OnlyTouches (taskResource task) db.leases db'.leases := by
  unfold claimTaskInSession at hok
  simp only [bind_eq_ok, pure_eq_ok, mapError_eq_ok] at hok
  obtain ⟨result, hclaim, rfl⟩ := hok
  exact onlyTouches_claim hclaim

theorem onlyTouches_release {leaseId : Id} {payload : LeaseReleaseRequest} {lease : ResourceLease}
    {task : Id} (hlease : leases[leaseId]? = some lease) (hresource : taskResource task lease)
    (hok : releaseResourceLease leases leaseId payload now = .ok after) :
    OnlyTouches (taskResource task) leases after := by
  obtain ⟨found, hfound, rfl⟩ := releaseResourceLease_eq_ok hok
  have hsame : lease = found := Option.some.inj (hlease.symm.trans hfound)
  subst hsame
  exact onlyTouches_update hlease hresource hresource

theorem onlyTouches_releaseIfPresent {task : Id} {actorId leaseToken : String} {lookupNow : Time}
    (hok : releaseKernelLeaseIfPresent leases task actorId leaseToken lookupNow now = .ok after) :
    OnlyTouches (taskResource task) leases after := by
  unfold releaseKernelLeaseIfPresent at hok
  split at hok
  · cases hok
    exact OnlyTouches.refl _ _
  · rename_i lease leaseId hlive
    obtain ⟨hlease, hresource, _⟩ := getCurrentLease_spec hlive
    simp only [bind_eq_ok, mapError_eq_ok] at hok
    obtain ⟨_, _, hrelease⟩ := hok
    exact onlyTouches_release hlease hresource hrelease

theorem onlyTouches_releaseStale {task : Id} {current : Option (Assignment × Id)}
    {lookupNow : Time} (hok : releaseStaleLease leases task current lookupNow now = .ok after) :
    OnlyTouches (taskResource task) leases after := by
  unfold releaseStaleLease at hok
  split at hok
  · rename_i lease leaseId assignment id hlive
    obtain ⟨hlease, hresource, _⟩ := getCurrentLease_spec hlive
    split at hok
    · rw [mapError_eq_ok] at hok
      exact onlyTouches_release hlease hresource hok
    · cases hok
      exact OnlyTouches.refl _ _
  · cases hok
    exact OnlyTouches.refl _ _

/-- A call touches the leases of its task at most. -/
theorem onlyTouches_perform {db : Db} {call : Call} {task : Id}
    (htarget : call.operation.target db = some task) (hok : perform db call = .ok db') :
    OnlyTouches (taskResource task) db.leases db'.leases := by
  obtain ⟨operation, clock⟩ := call
  cases operation with
  | createTask => simp [Operation.target] at htarget
  | claimTask named =>
      obtain rfl : named = task := Option.some.inj htarget
      simp only [perform, claimTask, bind_eq_ok, requireTask_eq_ok] at hok
      obtain ⟨row, _, hclaim⟩ := hok
      exact onlyTouches_claimTaskInSession hclaim
  | claimNextTask =>
      simp only [Operation.target, Option.map_eq_some_iff] at htarget
      obtain ⟨⟨row, found⟩, hnext, rfl⟩ := htarget
      simp only [perform, claimNextTask, hnext] at hok
      exact onlyTouches_claimTaskInSession hok
  | heartbeatTask named =>
      obtain rfl : named = task := Option.some.inj htarget
      simp only [perform, heartbeatTask, bind_eq_ok, pure_eq_ok, mapError_eq_ok,
        orRaise_eq_ok] at hok
      obtain ⟨row, _, _, _, ⟨lease, leaseId⟩, hlive, result, hbeat, rfl⟩ := hok
      obtain ⟨hlease, hresource, _⟩ := getCurrentLease_spec hlive
      obtain ⟨found, hrenewable, rfl⟩ := heartbeatResourceLease_eq_ok.1 hbeat
      have hsame : lease = found := Option.some.inj (hlease.symm.trans hrenewable.found)
      subst hsame
      exact onlyTouches_update hlease hresource hresource
  | addEvidence =>
      simp only [perform, addEvidence, bind_eq_ok, pure_eq_ok] at hok
      obtain ⟨_, _, rfl⟩ := hok
      exact OnlyTouches.refl _ _
  | addNote =>
      simp only [perform, addNote, bind_eq_ok, pure_eq_ok] at hok
      obtain ⟨_, _, rfl⟩ := hok
      exact OnlyTouches.refl _ _
  | requestApproval =>
      simp only [perform, requestApproval, bind_eq_ok, pure_eq_ok] at hok
      obtain ⟨_, _, _, _, rfl⟩ := hok
      exact OnlyTouches.refl _ _
  | resolveApproval =>
      simp only [perform, resolveApproval, bind_eq_ok, pure_eq_ok] at hok
      obtain ⟨_, _, _, _, _, _, rfl⟩ := hok
      exact OnlyTouches.refl _ _
  | interruptTask named =>
      obtain rfl : named = task := Option.some.inj htarget
      simp only [perform, interruptTask, bind_eq_ok, pure_eq_ok] at hok
      obtain ⟨_, _, _, _, leases, hreleased, rfl⟩ := hok
      exact onlyTouches_releaseIfPresent hreleased
  | completeTask named =>
      obtain rfl : named = task := Option.some.inj htarget
      simp only [perform, completeTask, bind_eq_ok, pure_eq_ok] at hok
      obtain ⟨_, _, _, _, leases, hreleased, rfl⟩ := hok
      exact onlyTouches_releaseIfPresent hreleased
  | failTask named =>
      obtain rfl : named = task := Option.some.inj htarget
      simp only [perform, failTask, bind_eq_ok, pure_eq_ok] at hok
      obtain ⟨_, _, _, _, leases, hreleased, rfl⟩ := hok
      exact onlyTouches_releaseIfPresent hreleased
  | settleStaleTask named =>
      obtain rfl : named = task := Option.some.inj htarget
      simp only [perform, settleStaleTask, bind_eq_ok] at hok
      obtain ⟨_, _, row, _, hok⟩ := hok
      split at hok
      · cases hok
        exact OnlyTouches.refl _ _
      · simp only [bind_eq_ok, pure_eq_ok] at hok
        obtain ⟨leases, hreleased, rfl⟩ := hok
        exact onlyTouches_releaseStale hreleased

/-! ## Queued tasks -/

structure QueuedFresh (db : Db) : Prop where
  unassigned : ∀ (task : Id) (row : Task), db.tasks[task]? = some row → row.status = .queued →
    row.assignments = []
  unleased : ∀ (task : Id) (row : Task), db.tasks[task]? = some row → row.status = .queued →
    ∀ (id : Id) (lease : ResourceLease), db.leases[id]? = some lease → ¬ taskResource task lease
  known : ∀ (id : Id) (lease : ResourceLease), db.leases[id]? = some lease →
    lease.resourceKind = remoteTaskResourceKind → lease.resourceId < db.tasks.length

theorem queuedFresh_empty : QueuedFresh Db.empty where
  unassigned := fun _ _ hrow => by cases hrow
  unleased := fun _ _ hrow => by cases hrow
  known := fun _ _ hlease => by cases hlease

theorem statusForHeartbeat_ne_queued (payload : HeartbeatRequest) :
    statusForHeartbeat payload ≠ .queued := by
  unfold statusForHeartbeat
  dsimp only
  split
  · exact TaskStatus.noConfusion
  · split
    · exact TaskStatus.noConfusion
    · split
      · split <;> exact TaskStatus.noConfusion
      · split
        · split <;> exact TaskStatus.noConfusion
        · exact TaskStatus.noConfusion

/-- What a call that leaves its task queued has not touched. -/
structure StillQueued (db db' : Db) (row row' : Task) : Prop where
  status : row.status = .queued
  machineId : row'.machineId = row.machineId
  originSurface : row'.originSurface = row.originSurface
  assignments : row'.assignments = row.assignments
  leases : db'.leases = db.leases

theorem queued_of_queued_after {db : Db} {call : Call} {task : Id} {row' : Task}
    (htarget : call.operation.target db = some task) (hok : perform db call = .ok db')
    (hwrote : Rewrote db db' task row row') (hresult : Result call row row')
    (hqueued : row'.status = .queued) : StillQueued db db' row row' := by
  have hstatus := hresult.status.symm.trans hqueued
  obtain ⟨operation, clock⟩ := call
  cases operation with
  | createTask => simp [Operation.target] at htarget
  | addEvidence named =>
      obtain rfl : named = task := Option.some.inj htarget
      simp only [perform, addEvidence, bind_eq_ok, pure_eq_ok, requireTask_eq_ok] at hok
      obtain ⟨found, hfound, rfl⟩ := hok
      obtain ⟨rfl, rfl⟩ := hwrote.unique (rewrote_setTask hfound)
      refine ⟨?_, rfl, rfl, rfl, rfl⟩
      simp only [Operation.statusAfter, statusAfterEvidence] at hstatus
      split at hstatus
      · cases hstatus
      · exact hstatus
  | addNote named =>
      obtain rfl : named = task := Option.some.inj htarget
      simp only [perform, addNote, bind_eq_ok, pure_eq_ok, requireTask_eq_ok] at hok
      obtain ⟨found, hfound, rfl⟩ := hok
      obtain ⟨rfl, rfl⟩ := hwrote.unique (rewrote_setTask hfound)
      exact ⟨hstatus, rfl, rfl, rfl, rfl⟩
  | heartbeatTask named payload =>
      exact absurd hstatus (statusForHeartbeat_ne_queued payload)
  | resolveApproval =>
      simp only [Operation.statusAfter, statusAfterResolution] at hstatus
      split at hstatus <;> cases hstatus
  | settleStaleTask named finalStatus summary payload =>
      obtain rfl : named = task := Option.some.inj htarget
      obtain ⟨_, _, hfinal⟩ := (perform_isOk_iff htarget).mp ⟨db', hok⟩
      simp only [Operation.statusAfter] at hstatus
      split at hstatus
      · rename_i hsettled
        rw [hstatus] at hsettled
        cases hsettled
      · rw [Admitted, hstatus] at hfinal
        cases hfinal
  | claimTask | claimNextTask | requestApproval | interruptTask | completeTask | failTask =>
      cases hstatus

theorem QueuedFresh.create {db : Db} (hfresh : QueuedFresh db) (payload : CreateRequest)
    (clock : Clock) : QueuedFresh (createTask db payload clock).1 := by
  have hlength : (createTask db payload clock).1.tasks.length = db.tasks.length + 1 :=
    List.length_append
  constructor
  · intro task row hrow hqueued
    rcases getElem?_concat_eq_some hrow with hold | ⟨_, rfl⟩
    · exact hfresh.unassigned task row hold hqueued
    · rfl
  · intro task row hrow hqueued id lease hlease hresource
    rcases getElem?_concat_eq_some hrow with hold | ⟨rfl, _⟩
    · exact hfresh.unleased task row hold hqueued id lease hlease hresource
    · have htheirs := of_decide_eq_true hresource
      have hlt := hfresh.known id lease hlease htheirs.1
      rw [htheirs.2] at hlt
      exact absurd hlt (Nat.lt_irrefl _)
  · intro id lease hlease hkind
    rw [hlength]
    exact Nat.lt_succ_of_lt (hfresh.known id lease hlease hkind)

theorem QueuedFresh.step {db : Db} (hfresh : QueuedFresh db) (call : Call) :
    QueuedFresh (step db call) := by
  cases htarget : call.operation.target db with
  | none =>
      obtain ⟨operation, clock⟩ := call
      cases operation with
      | createTask payload => exact hfresh.create payload clock
      | claimNextTask =>
          simp only [Operation.target, Option.map_eq_none_iff] at htarget
          simpa [RemoteTask.step, perform, claimNextTask, htarget] using hfresh
      | _ => simp [Operation.target] at htarget
  | some named =>
      cases hperform : perform db call with
      | error =>
          rw [RemoteTask.step, hperform]
          exact hfresh
      | ok db' =>
          rw [RemoteTask.step, hperform, committed_ok]
          obtain ⟨row, row', hwrote, hresult⟩ := perform_rewrote htarget hperform
          have honly := onlyTouches_perform htarget hperform
          have hlength : db'.tasks.length = db.tasks.length := by
            rw [hwrote.wrote, update, List.length_set]
          -- a task that is queued now was queued, and nothing of it has changed
          have hback : ∀ (task : Id) (found : Task), db'.tasks[task]? = some found →
              found.status = .queued → ∃ old, db.tasks[task]? = some old ∧ old.status = .queued ∧
                found.assignments = old.assignments ∧
                (db'.leases = db.leases ∨ task ≠ named) := by
            intro task found hfound hqueued
            rw [hwrote.wrote] at hfound
            by_cases hid : named = task
            · subst hid
              rw [getElem?_update_self hwrote.read] at hfound
              obtain rfl : row' = found := Option.some.inj hfound
              have hstill := queued_of_queued_after htarget hperform hwrote hresult hqueued
              exact ⟨row, hwrote.read, hstill.status, hstill.assignments, Or.inl hstill.leases⟩
            · rw [getElem?_update_of_ne hid] at hfound
              exact ⟨found, hfound, hqueued, rfl, Or.inr (Ne.symm hid)⟩
          constructor
          · intro task found hfound hqueued
            obtain ⟨old, hold, hwas, hassignments, _⟩ := hback task found hfound hqueued
            rw [hassignments]
            exact hfresh.unassigned task old hold hwas
          · intro task found hfound hqueued id lease hlease hresource
            obtain ⟨old, hold, hwas, _, hleases⟩ := hback task found hfound hqueued
            rcases hleases with hleases | hid
            · rw [hleases] at hlease
              exact hfresh.unleased task old hold hwas id lease hlease hresource
            · have hother : ¬ taskResource named lease := by
                intro hnamed
                have htheirs := of_decide_eq_true hnamed
                have hours := of_decide_eq_true hresource
                exact hid (hours.2.symm.trans htheirs.2)
              exact hfresh.unleased task old hold hwas id lease
                ((honly id lease hother).mpr hlease) hresource
          · intro id lease hlease hkind
            rw [hlength]
            by_cases hid : lease.resourceId = named
            · rw [hid]
              exact (List.getElem?_eq_some_iff.mp hwrote.read).1
            · have hother : ¬ taskResource named lease :=
                fun hnamed => hid (of_decide_eq_true hnamed).2
              exact hfresh.known id lease ((honly id lease hother).mpr hlease) hkind

theorem queuedFresh_run (calls : List Call) : QueuedFresh (run step .empty calls) := by
  have hfresh : Throughout step QueuedFresh .empty calls :=
    throughout_of_preserved queuedFresh_empty fun _ call _ hhere => hhere.step call
  exact hfresh calls List.prefix_rfl

/-- In no run has a queued task an assignment, or any lease on it. -/
theorem queued_never_assigned (calls : List Call) :
    let db := run step .empty calls
    ∀ (task : Id) (row : Task), db.tasks[task]? = some row → row.status = .queued →
      row.assignments = [] ∧ ∀ lease ∈ db.leases, ¬ taskResource task lease := by
  intro db task row hrow hqueued
  have hfresh : QueuedFresh db := queuedFresh_run calls
  refine ⟨hfresh.unassigned task row hrow hqueued, fun lease hlease => ?_⟩
  rcases List.mem_iff_getElem?.mp hlease with ⟨id, hid⟩
  exact hfresh.unleased task row hrow hqueued id lease hid

/-! ## A task that is held -/

structure HeldAssignment (actorId leaseToken : String) (expiry : Time) (assignment : Assignment) :
    Prop where
  status : assignment.status = .claimed
  actor : assignment.actorId = actorId
  token : assignment.leaseToken = leaseToken
  expires : assignment.leaseExpiresAt = expiry

structure HeldLease (task : Id) (actorId leaseToken : String) (expiry : Time)
    (lease : ResourceLease) : Prop where
  resource : taskResource task lease
  holder : lease.holderActorId = actorId
  token : lease.leaseToken = leaseToken
  expires : lease.expiresAt = expiry
  unreleased : lease.releasedAt = none
  status : lease.status = "claimed"

/-- The task is under way, held by one assignment and one lease with the same end. -/
structure Holding (db : Db) (task : Id) (actorId leaseToken : String) (expiry : Time) : Prop where
  assigned : ∃ row assignment, db.tasks[task]? = some row ∧ row.status ≠ .queued ∧
    row.status ≠ .completed ∧ row.assignments = [assignment] ∧
    HeldAssignment actorId leaseToken expiry assignment
  leased : ∃ lease leaseId, db.leases[leaseId]? = some lease ∧
    HeldLease task actorId leaseToken expiry lease ∧
    ∀ (id : Id) (found : ResourceLease), db.leases[id]? = some found → taskResource task found →
      id = leaseId

section Holding

variable {db : Db} {task : Id} {actorId leaseToken : String} {expiry : Time}

variable {row : Task} {lease : ResourceLease} {leaseId : Id}

variable {assignment : Assignment} {clock : Clock}

theorem currentAssignment_singleton (hassignments : row.assignments = [assignment])
    (hheld : HeldAssignment actorId leaseToken expiry assignment) :
    currentAssignment row = some (assignment, 0) := by
  have hsole : Sole isCurrent row.assignments (some (assignment, 0)) := by
    rw [hassignments]
    refine ⟨rfl, decide_eq_true hheld.status, ?_⟩
    intro other found hfound _
    have hlt := (List.getElem?_eq_some_iff.mp hfound).1
    rw [List.length_singleton] at hlt
    omega
  exact currentAssignment_of_sole hsole

theorem holdsActive_of_held {now : Time} (hassignments : row.assignments = [assignment])
    (hheld : HeldAssignment actorId leaseToken expiry assignment) :
    HoldsActive row actorId leaseToken now ↔ now < expiry := by
  rw [HoldsActive, currentAssignment_singleton hassignments hheld, ← hheld.expires]
  constructor
  · rintro ⟨current, hcurrent, _, _, hunexpired⟩
    cases hcurrent
    exact hunexpired
  · intro hunexpired
    exact ⟨_, rfl, hheld.actor, hheld.token, hunexpired⟩

theorem getCurrentLease_of_held (hlease : db.leases[leaseId]? = some lease)
    (hheld : HeldLease task actorId leaseToken expiry lease)
    (honly : ∀ (id : Id) (found : ResourceLease), db.leases[id]? = some found →
      taskResource task found → id = leaseId) (now : Time) :
    getCurrentLease db.leases remoteTaskResourceKind task now =
      if now < expiry then some (lease, leaseId) else none := by
  split
  · rename_i hruns
    apply getCurrentLease_of_sole
    refine ⟨hlease, isLiveFor_iff.2 ⟨hheld.resource, isLive_iff.2 ⟨hheld.unreleased, ?_, ?_⟩⟩, ?_⟩
    · rw [hheld.expires]
      exact hruns
    · rw [hheld.status]
      decide
    · intro other found hfound hlive
      exact honly other found hfound (isLiveFor_iff.1 hlive).1
  · rename_i hover
    apply getCurrentLease_of_sole
    intro id found hfound hlive
    obtain ⟨hresource, hthen⟩ := isLiveFor_iff.1 hlive
    have hid := honly id found hfound hresource
    subst hid
    obtain rfl : lease = found := Option.some.inj (hlease.symm.trans hfound)
    have hunexpired := (isLive_iff.1 hthen).2.1
    rw [hheld.expires] at hunexpired
    exact hover hunexpired

theorem canBeat_of_held (hlease : db.leases[leaseId]? = some lease)
    (hheld : HeldLease task actorId leaseToken expiry lease)
    (honly : ∀ (id : Id) (found : ResourceLease), db.leases[id]? = some found →
      taskResource task found → id = leaseId) (lookupNow now : Time) :
    CanBeat db task actorId leaseToken lookupNow now ↔ lookupNow < expiry ∧ now < expiry := by
  rw [CanBeat, getCurrentLease_of_held hlease hheld honly]
  split
  · rename_i hruns
    constructor
    · rintro ⟨found, id, hfound, _, _, _, hunexpired⟩
      cases hfound
      rw [hheld.expires] at hunexpired
      exact ⟨hruns, hunexpired⟩
    · rintro ⟨_, hunexpired⟩
      refine ⟨lease, leaseId, rfl, hheld.holder, hheld.token, ?_, ?_⟩
      · rw [hheld.status]
        decide
      · rw [hheld.expires]
        exact hunexpired
  · rename_i hover
    constructor
    · rintro ⟨found, id, hfound, _⟩
      cases hfound
    · intro hboth
      exact absurd hboth.1 hover

theorem Holding.heartbeat_isOk_iff (hholding : Holding db task actorId leaseToken expiry)
    {payload : HeartbeatRequest} (hactor : payload.actorId = actorId)
    (htoken : payload.leaseToken = leaseToken) :
    (∃ after, heartbeatTask db task payload clock = .ok after) ↔
      clock 0 < expiry ∧ clock 1 < expiry ∧ clock 2 < expiry := by
  obtain ⟨row, assignment, hrow, _, _, hassignments, hassigned⟩ := hholding.assigned
  obtain ⟨lease, leaseId, hlease, hleased, honly⟩ := hholding.leased
  rw [heartbeatTask_isOk_iff, hactor, htoken, canBeat_of_held hlease hleased honly]
  constructor
  · rintro ⟨found, hfound, hactive, hbeats⟩
    obtain rfl : row = found := Option.some.inj (hrow.symm.trans hfound)
    exact ⟨(holdsActive_of_held hassignments hassigned).mp hactive, hbeats⟩
  · rintro ⟨hfirst, hbeats⟩
    exact ⟨row, hrow, (holdsActive_of_held hassignments hassigned).mpr hfirst, hbeats⟩

theorem statusForHeartbeat_ne_completed (payload : HeartbeatRequest) :
    statusForHeartbeat payload ≠ .completed := by
  unfold statusForHeartbeat
  dsimp only
  split
  · exact TaskStatus.noConfusion
  · split
    · exact TaskStatus.noConfusion
    · split
      · split <;> exact TaskStatus.noConfusion
      · split
        · split <;> exact TaskStatus.noConfusion
        · exact TaskStatus.noConfusion

theorem Holding.heartbeat {after : Db} (hholding : Holding db task actorId leaseToken expiry)
    {payload : HeartbeatRequest} (hok : heartbeatTask db task payload clock = .ok after) :
    Holding after task actorId leaseToken
      (clock 2 + seconds (validateLeaseSeconds (validateNonNegative payload.leaseSeconds))) := by
  obtain ⟨row, assignment, hrow, _, _, hassignments, hassigned⟩ := hholding.assigned
  obtain ⟨lease, leaseId, hlease, hleased, honly⟩ := hholding.leased
  unfold heartbeatTask at hok
  simp only [bind_eq_ok, pure_eq_ok, mapError_eq_ok, requireTask_eq_ok, orRaise_eq_ok,
    requireActiveAssignment_eq_ok] at hok
  obtain ⟨found, hfound, current, ⟨hcurrent, _⟩, live, hlive, result, hbeat, rfl⟩ := hok
  obtain rfl : row = found := Option.some.inj (hrow.symm.trans hfound)
  rw [currentAssignment_singleton hassignments hassigned] at hcurrent
  obtain rfl : (assignment, 0) = current := Option.some.inj hcurrent
  obtain ⟨liveLease, liveId⟩ := live
  obtain ⟨hliveRow, hliveResource, _⟩ := getCurrentLease_spec hlive
  have hid := honly liveId liveLease hliveRow hliveResource
  subst hid
  obtain rfl : lease = liveLease := Option.some.inj (hlease.symm.trans hliveRow)
  obtain ⟨renewed, hrenewable, rfl⟩ := heartbeatResourceLease_eq_ok.1 hbeat
  obtain rfl : lease = renewed := Option.some.inj (hlease.symm.trans hrenewable.found)
  have hqueued := statusForHeartbeat_ne_queued payload
  have hcompleted := statusForHeartbeat_ne_completed payload
  generalize statusForHeartbeat payload = status at hqueued hcompleted ⊢
  let until' := clock 2 + seconds (validateLeaseSeconds (validateNonNegative payload.leaseSeconds))
  constructor
  · refine ⟨_, { assignment with leaseExpiresAt := until' }, getElem?_update_self hrow, hqueued,
      hcompleted, ?_, ⟨hassigned.status, hassigned.actor, hassigned.token, rfl⟩⟩
    rw [hassignments]
    rfl
  · refine ⟨_, liveId, getElem?_update_self hlease, ⟨hleased.resource, hleased.holder,
      hleased.token, rfl, hleased.unreleased, rfl⟩, ?_⟩
    intro id other hother hresource
    rcases getElem?_update_eq_some hother with ⟨hsame, _⟩ | hold
    · exact hsame.symm
    · exact honly id other hold hresource

theorem Holding.rewrote {after : Db} {row' : Task}
    (hholding : Holding db task actorId leaseToken expiry)
    (hwrote : Rewrote db after task row row') (hassignments : row'.assignments = row.assignments)
    (hleases : after.leases = db.leases) (hqueued : row.status ≠ .queued → row'.status ≠ .queued)
    (hcompleted : row.status ≠ .completed → row'.status ≠ .completed) :
    Holding after task actorId leaseToken expiry := by
  obtain ⟨found, assignment, hfound, hstarted, hopen, hsole, hassigned⟩ := hholding.assigned
  obtain rfl : row = found := Option.some.inj (hwrote.read.symm.trans hfound)
  constructor
  · refine ⟨row', assignment, ?_, hqueued hstarted, hcompleted hopen, ?_, hassigned⟩
    · rw [hwrote.wrote]
      exact getElem?_update_self hfound
    · rw [hassignments]
      exact hsole
  · rw [hleases]
    exact hholding.leased

theorem Holding.addEvidence (hholding : Holding db task actorId leaseToken expiry)
    (payload : EvidenceRequest) (clock : Clock) :
    ∃ after, addEvidence db task payload clock = .ok after ∧
      Holding after task actorId leaseToken expiry := by
  obtain ⟨row, _, hrow, _⟩ := hholding.assigned
  have htaken : ∃ after, RemoteTask.addEvidence db task payload clock = .ok after :=
    addEvidence_isOk_iff.2 ⟨row, hrow⟩
  obtain ⟨after, hok⟩ := htaken
  refine ⟨after, hok, ?_⟩
  simp only [RemoteTask.addEvidence, bind_eq_ok, pure_eq_ok, requireTask_eq_ok] at hok
  obtain ⟨found, hfound, rfl⟩ := hok
  refine hholding.rewrote (rewrote_setTask hfound) rfl rfl ?_ ?_
  · intro hstarted
    simp only [statusAfterEvidence]
    split
    · exact TaskStatus.noConfusion
    · exact hstarted
  · intro hopen
    simp only [statusAfterEvidence]
    split
    · exact TaskStatus.noConfusion
    · exact hopen

theorem Holding.addNote (hholding : Holding db task actorId leaseToken expiry)
    (payload : NoteRequest) (clock : Clock) :
    ∃ after, addNote db task payload clock = .ok after ∧
      Holding after task actorId leaseToken expiry := by
  obtain ⟨row, _, hrow, _⟩ := hholding.assigned
  have htaken : ∃ after, RemoteTask.addNote db task payload clock = .ok after :=
    addNote_isOk_iff.2 ⟨row, hrow⟩
  obtain ⟨after, hok⟩ := htaken
  refine ⟨after, hok, ?_⟩
  simp only [RemoteTask.addNote, bind_eq_ok, pure_eq_ok, requireTask_eq_ok] at hok
  obtain ⟨found, hfound, rfl⟩ := hok
  exact hholding.rewrote (rewrote_setTask hfound) rfl rfl id id

theorem canRelease_of_held (hlease : db.leases[leaseId]? = some lease)
    (hheld : HeldLease task actorId leaseToken expiry lease)
    (honly : ∀ (id : Id) (found : ResourceLease), db.leases[id]? = some found →
      taskResource task found → id = leaseId) (now : Time) :
    CanRelease db task actorId leaseToken now := by
  intro found id hfound
  rw [getCurrentLease_of_held hlease hheld honly] at hfound
  split at hfound
  · cases hfound
    exact ⟨hheld.holder, hheld.token⟩
  · cases hfound

theorem Holding.complete_isOk_iff (hholding : Holding db task actorId leaseToken expiry)
    (summary : Option String) (clock : Clock) :
    (∃ after, completeTask db task ⟨actorId, leaseToken, summary⟩ clock = .ok after) ↔
      clock 0 < expiry := by
  obtain ⟨row, assignment, hrow, _, _, hassignments, hassigned⟩ := hholding.assigned
  obtain ⟨lease, leaseId, hlease, hleased, honly⟩ := hholding.leased
  rw [completeTask_isOk_iff]
  constructor
  · rintro ⟨found, hfound, hactive, _⟩
    obtain rfl : row = found := Option.some.inj (hrow.symm.trans hfound)
    exact (holdsActive_of_held hassignments hassigned).mp hactive
  · intro hruns
    exact ⟨row, hrow, (holdsActive_of_held hassignments hassigned).mpr hruns,
      canRelease_of_held hlease hleased honly _⟩

/-! ## Calls about other tasks -/

def Operation.named : Operation → Option Id
  | .createTask _ | .claimNextTask _ _ _ => none
  | .claimTask task _ _ | .heartbeatTask task _ | .addEvidence task _
  | .requestApproval task _ | .resolveApproval task _ | .addNote task _
  | .interruptTask task _ | .completeTask task _ | .failTask task _
  | .settleStaleTask task _ _ _ => some task

theorem target_ne_of_named_ne {operation : Operation} (hrow : db.tasks[task]? = some row)
    (hstarted : row.status ≠ .queued) (hnamed : operation.named ≠ some task) :
    operation.target db ≠ some task := by
  intro htarget
  cases operation with
  | createTask => cases htarget
  | claimNextTask =>
      simp only [Operation.target, Option.map_eq_some_iff] at htarget
      obtain ⟨⟨found, id⟩, hnext, rfl⟩ := htarget
      obtain ⟨hfound, hpicked⟩ := firstBy_selectWhere hnext
      obtain rfl : row = found := Option.some.inj (hrow.symm.trans hfound)
      exact hstarted (of_decide_eq_true hpicked).2.1
  | _ => exact hnamed htarget

theorem step_leases_of_no_target {call : Call} (htarget : call.operation.target db = none) :
    (step db call).leases = db.leases := by
  obtain ⟨operation, clock⟩ := call
  cases operation with
  | createTask => rfl
  | claimNextTask =>
      simp only [Operation.target, Option.map_eq_none_iff] at htarget
      simp [step, perform, claimNextTask, htarget]
  | _ => simp [Operation.target] at htarget

theorem Holding.step (hholding : Holding db task actorId leaseToken expiry) {call : Call}
    (hnamed : call.operation.named ≠ some task) :
    Holding (step db call) task actorId leaseToken expiry := by
  obtain ⟨row, assignment, hrow, hstarted, hopen, hsole, hassigned⟩ := hholding.assigned
  obtain ⟨lease, leaseId, hlease, hleased, honly⟩ := hholding.leased
  have hother := target_ne_of_named_ne hrow hstarted hnamed
  cases htarget : call.operation.target db with
  | none =>
      constructor
      · exact ⟨row, assignment, step_keeps_of_no_target htarget hrow, hstarted, hopen, hsole,
          hassigned⟩
      · rw [step_leases_of_no_target htarget]
        exact hholding.leased
  | some named =>
      have hid : named ≠ task := fun hsame => hother (hsame ▸ htarget)
      cases hperform : perform db call with
      | error =>
          rw [RemoteTask.step, hperform]
          exact hholding
      | ok =>
          rw [RemoteTask.step, hperform, committed_ok]
          obtain ⟨_, _, hwrote, _⟩ := perform_rewrote htarget hperform
          have htouches := onlyTouches_perform htarget hperform
          have hforeign : ∀ found : ResourceLease, taskResource task found →
              ¬ taskResource named found := by
            intro found hours htheirs
            exact hid ((of_decide_eq_true htheirs).2.symm.trans (of_decide_eq_true hours).2)
          constructor
          · refine ⟨row, assignment, ?_, hstarted, hopen, hsole, hassigned⟩
            rw [hwrote.wrote, getElem?_update_of_ne hid]
            exact hrow
          · refine ⟨lease, leaseId, ?_, hleased, ?_⟩
            · exact (htouches leaseId lease (hforeign lease hleased.resource)).mp hlease
            · intro id found hfound hresource
              exact honly id found ((htouches id found (hforeign found hresource)).mpr hfound)
                hresource

theorem Holding.run (hholding : Holding db task actorId leaseToken expiry) {calls : List Call}
    (hnamed : ∀ call ∈ calls, call.operation.named ≠ some task) :
    Holding (Run.run RemoteTask.step db calls) task actorId leaseToken expiry := by
  induction calls generalizing db with
  | nil => exact hholding
  | cons call calls ih =>
      have hhere := hholding.step (hnamed call List.mem_cons_self)
      exact ih hhere fun other hother => hnamed other (List.mem_cons_of_mem call hother)

end Holding

/-! ## Claims -/

theorem claimResourceLease_fresh {payload : LeaseClaimRequest}
    (hfresh : ∀ (id : Id) (lease : ResourceLease), leases[id]? = some lease →
      ¬ isForResource payload.resourceKind payload.resourceId lease) (now lookupNow : Time)
    (drawn : String) :
    claimResourceLease leases payload now lookupNow drawn =
      .ok (leases ++ [openedBy payload now drawn], openedBy payload now drawn) := by
  have hlive : getCurrentLease leases payload.resourceKind payload.resourceId lookupNow = none := by
    cases hfound : getCurrentLease leases payload.resourceKind payload.resourceId lookupNow with
    | none => rfl
    | some live =>
        obtain ⟨hlease, hresource, _⟩ := getCurrentLease_spec hfound
        exact absurd hresource (hfresh live.2 live.1 hlease)
  have hkept : expireStale leases payload.resourceKind payload.resourceId now = leases := by
    rcases expireStale_eq leases payload.resourceKind payload.resourceId now with
      hsame | ⟨stale, id, hstale, hresource, _⟩
    · exact hsame
    · exact absurd hresource (hfresh id stale hstale)
  have hgranted : ∃ result, claimResourceLease leases payload now lookupNow drawn = .ok result := by
    rw [claimResourceLease_isOk_iff]
    rintro ⟨lease, id, hfound, _⟩
    rw [hlive] at hfound
    cases hfound
  obtain ⟨result, hok⟩ := hgranted
  rcases claimResourceLease_eq_ok hok with ⟨_, _, hfound, _⟩ | ⟨_, hresult⟩
  · rw [hlive] at hfound
    cases hfound
  · rw [hok, hresult, hkept]

theorem QueuedFresh.claim {db : Db} (hfresh : QueuedFresh db) {task : Id}
    (hrow : db.tasks[task]? = some row) (hqueued : row.status = .queued) (actorId : String)
    (leaseSeconds : Int) (clock : Clock) (drawn : String) :
    ∃ after, claimTaskInSession db task row actorId leaseSeconds clock drawn = .ok after ∧
      Holding after task actorId drawn
        (clock 1 + seconds (validateLeaseSeconds leaseSeconds)) := by
  have hunassigned := hfresh.unassigned task row hrow hqueued
  have hunleased := hfresh.unleased task row hrow hqueued
  have hcurrent : currentAssignment row = none := by
    rw [currentAssignment, hunassigned]
    rfl
  let payload : LeaseClaimRequest :=
    { resourceKind := remoteTaskResourceKind
      resourceId := task
      holderActorId := actorId
      leaseToken := none
      leaseSeconds := leaseSeconds
      status := "claimed" }
  let opened : Assignment :=
    { actorId := actorId
      leaseToken := drawn
      leaseExpiresAt := clock 1 + seconds (validateLeaseSeconds leaseSeconds)
      status := .claimed
      claimedAt := clock 1
      releasedAt := none }
  have hclaim : claimResourceLease db.leases payload (clock 1) (clock 2) drawn = _ :=
    claimResourceLease_fresh hunleased (clock 1) (clock 2) drawn
  refine ⟨{ db with leases := db.leases ++ [openedBy payload (clock 1) drawn] }.setTask task
    { row with
      assignments := [opened]
      ownerActorId := some actorId
      status := .claimed
      updatedAt := clock 0 }, ?_, ?_, ?_⟩
  · simp only [claimTaskInSession, hcurrent, bind_eq_ok, mapError_eq_ok, pure_eq_ok]
    refine ⟨_, hclaim, ?_⟩
    rw [hunassigned]
    rfl
  · exact ⟨_, opened, getElem?_update_self hrow, TaskStatus.noConfusion, TaskStatus.noConfusion,
      rfl, ⟨rfl, rfl, rfl, rfl⟩⟩
  · refine ⟨openedBy payload (clock 1) drawn, db.leases.length, List.getElem?_concat_length,
      ⟨decide_eq_true ⟨rfl, rfl⟩, rfl, rfl, rfl, rfl, rfl⟩, ?_⟩
    intro id found hfound hresource
    rcases getElem?_concat_eq_some hfound with hold | ⟨hid, _⟩
    · exact absurd hresource (hunleased id found hold)
    · exact hid

end OpsCure.RemoteTask
