/-
What one call of the remote task service can do to the task it names, and
when the terminal statuses are absorbing along a run of calls.
-/
import OpsCure.Library.Run
import OpsCure.RemoteTask

namespace OpsCure.RemoteTask

open Fallible Table Presence

/-- The task a call is about: the one it names, or the one `claim_next_task`
picks. -/
def Operation.target (db : Db) : Operation → Option Id
  | .createTask _ => none
  | .claimNextTask machineId payload _ => (nextQueuedTask db machineId payload).map (·.2)
  | .claimTask task _ _ | .heartbeatTask task _ | .addEvidence task _
  | .requestApproval task _ | .resolveApproval task _ | .addNote task _
  | .interruptTask task _ | .completeTask task _ | .failTask task _
  | .settleStaleTask task _ _ _ => some task

def HoldsActive (row : Task) (actorId leaseToken : String) (now : Time) : Prop :=
  ∃ current, currentAssignment row = some current ∧ current.1.actorId = actorId ∧
    current.1.leaseToken = leaseToken ∧ now < current.1.leaseExpiresAt

/-- No live kernel lease stands in the way of releasing the actor's own. -/
def CanRelease (db : Db) (task : Id) (actorId leaseToken : String) (now : Time) :
    Prop :=
  ∀ lease id, getCurrentLease db.leases remoteTaskResourceKind task now = some (lease, id) →
    lease.holderActorId = actorId ∧ lease.leaseToken = leaseToken

/-- The live kernel lease is the actor's own and can be extended. -/
def CanBeat (db : Db) (task : Id) (actorId leaseToken : String)
    (lookupNow now : Time) : Prop :=
  ∃ lease id, getCurrentLease db.leases remoteTaskResourceKind task lookupNow =
      some (lease, id) ∧ lease.holderActorId = actorId ∧ lease.leaseToken = leaseToken ∧
    lease.status ≠ "released" ∧ now < lease.expiresAt

/-- The guards a call passes before it writes the row of its task. -/
def Admitted (db : Db) (task : Id) (row : Task) (call : Call) : Prop :=
  match call.operation with
  | .createTask _ | .addEvidence _ _ | .addNote _ _ => True
  | .claimTask _ payload _ =>
      ¬HeldByOther db.leases remoteTaskResourceKind task payload.actorId (call.clock 2)
  | .claimNextTask _ payload _ =>
      ¬HeldByOther db.leases remoteTaskResourceKind task payload.actorId (call.clock 2)
  | .heartbeatTask _ payload =>
      HoldsActive row payload.actorId payload.leaseToken (call.clock 0) ∧
        CanBeat db task payload.actorId payload.leaseToken (call.clock 1) (call.clock 2)
  | .requestApproval _ payload =>
      HoldsActive row payload.actorId payload.leaseToken (call.clock 0)
  | .resolveApproval _ _ =>
      ∃ latest, latestApproval row = some latest ∧ latest.1.status = .pending
  | .interruptTask _ payload =>
      HoldsActive row payload.actorId payload.leaseToken (call.clock 0) ∧
        CanRelease db task payload.actorId payload.leaseToken (call.clock 1)
  | .completeTask _ payload =>
      HoldsActive row payload.actorId payload.leaseToken (call.clock 0) ∧
        CanRelease db task payload.actorId payload.leaseToken (call.clock 1)
  | .failTask _ payload =>
      HoldsActive row payload.actorId payload.leaseToken (call.clock 0) ∧
        CanRelease db task payload.actorId payload.leaseToken (call.clock 1)
  | .settleStaleTask _ finalStatus _ _ => isSettled finalStatus

/-- The status a call that goes through leaves on its task. -/
def Operation.statusAfter (status : TaskStatus) : Operation → TaskStatus
  | .createTask _ | .addNote _ _ => status
  | .claimTask _ _ _ | .claimNextTask _ _ _ => .claimed
  | .heartbeatTask _ payload => statusForHeartbeat payload
  | .addEvidence _ payload => statusAfterEvidence payload.kind status
  | .requestApproval _ _ => .blockedApproval
  | .resolveApproval _ payload => statusAfterResolution payload.resolution
  | .interruptTask _ _ => .interrupted
  | .completeTask _ _ => .completed
  | .failTask _ _ => .failed
  | .settleStaleTask _ finalStatus _ _ => if isSettled status then status else finalStatus

def pendingCount (row : Task) : Nat :=
  row.approvals.countP fun approval => approval.status = .pending

/-- The number of pending approvals a call that goes through leaves. -/
def Operation.pendingAfter (pending : Nat) : Operation → Nat
  | .requestApproval _ _ => pending + 1
  | .resolveApproval _ _ => pending - 1
  | _ => pending

/-- `db'` is `db` with the row of one task rewritten. -/
structure Rewrote (db db' : Db) (task : Id) (row row' : Task) : Prop where
  read : db.tasks[task]? = some row
  wrote : db'.tasks = update db.tasks task row'

variable {db db' : Db} {task : Id} {row row' : Task} {actorId leaseToken : String} {now : Time}
  {clock : Clock} {call : Call}

theorem rewrote_setTask {leases : List ResourceLease} {row' : Task}
    (hrow : db.tasks[task]? = some row) :
    Rewrote db ({ db with leases := leases }.setTask task row') task row row' :=
  ⟨hrow, rfl⟩

@[simp]
theorem requireTask_eq_ok : requireTask db task = .ok row ↔ db.tasks[task]? = some row := by
  simp [requireTask]

theorem requireActiveAssignment_eq_ok {current : Assignment × Id} :
    requireActiveAssignment task row actorId leaseToken now = .ok current ↔
      currentAssignment row = some current ∧ current.1.actorId = actorId ∧
        current.1.leaseToken = leaseToken ∧ now < current.1.leaseExpiresAt := by
  unfold requireActiveAssignment
  simp only [bind_eq_ok, orRaise_eq_ok, require_eq_ok, pure_eq_ok]
  constructor
  · rintro ⟨found, hfound, _, hactor, _, htoken, _, htime, rfl⟩
    exact ⟨hfound, hactor, htoken, htime⟩
  · rintro ⟨hfound, hactor, htoken, htime⟩
    exact ⟨current, hfound, ⟨⟩, hactor, ⟨⟩, htoken, ⟨⟩, htime, rfl⟩

theorem holdsActive_iff (task : Id) : HoldsActive row actorId leaseToken now ↔
      ∃ current, requireActiveAssignment task row actorId leaseToken now = .ok current := by
  simp only [HoldsActive, requireActiveAssignment_eq_ok]

theorem heartbeatResourceLease_isOk_iff {lookupNow : Time} (payload : LeaseHeartbeatRequest) :
    (∃ lease id, getCurrentLease db.leases remoteTaskResourceKind task lookupNow =
        some (lease, id) ∧
        ∃ result, heartbeatResourceLease db.leases id payload now = .ok result) ↔
      CanBeat db task payload.holderActorId payload.leaseToken lookupNow now := by
  unfold CanBeat
  refine exists_congr fun lease => exists_congr fun id => and_congr_right fun hlive => ?_
  obtain ⟨hrow, _, hkeep⟩ := getCurrentLease_spec hlive
  have hreleased : lease.releasedAt = none := by
    simp only [isLive, decide_eq_true_eq] at hkeep
    exact hkeep.1
  simp only [heartbeatResourceLease, bind_eq_ok, require_eq_ok, pure_eq_ok,
    requireHeldLease_eq_ok, hrow, Option.some.injEq]
  constructor
  · rintro ⟨_, found, ⟨rfl, hholder, htoken⟩, _, ⟨_, hstatus⟩, _, htime, _⟩
    exact ⟨hholder, htoken, hstatus, htime⟩
  · rintro ⟨hholder, htoken, hstatus, htime⟩
    exact ⟨_, lease, ⟨rfl, hholder, htoken⟩, ⟨⟩, ⟨hreleased, hstatus⟩, ⟨⟩, htime, rfl⟩

theorem releaseKernelLeaseIfPresent_isOk_iff {lookupNow : Time} (now : Time) :
    (∃ leases, releaseKernelLeaseIfPresent db.leases task actorId leaseToken
        lookupNow now = .ok leases) ↔
      CanRelease db task actorId leaseToken lookupNow := by
  unfold releaseKernelLeaseIfPresent CanRelease
  cases hlive : getCurrentLease db.leases remoteTaskResourceKind task lookupNow with
  | none => simp
  | some current =>
      obtain ⟨lease, id⟩ := current
      obtain ⟨hrow, _, _⟩ := getCurrentLease_spec hlive
      simp only [bind_eq_ok, require_eq_ok, mapError_eq_ok, releaseResourceLease,
        pure_eq_ok, requireHeldLease_eq_ok, hrow, Option.some.injEq, Prod.mk.injEq]
      constructor
      · rintro ⟨_, _, hown, _⟩ other otherId ⟨rfl, rfl⟩
        exact hown
      · intro hown
        have hheld := hown lease id ⟨rfl, rfl⟩
        exact ⟨_, ⟨⟩, hheld, lease, ⟨rfl, hheld.1, hheld.2⟩, rfl⟩

theorem releaseStaleLease_isOk (leases : List ResourceLease) (task : Id)
    (current : Option (Assignment × Id)) (lookupNow now : Time) :
    ∃ released, releaseStaleLease leases task current lookupNow now = .ok released := by
  unfold releaseStaleLease
  split
  · rename_i lease leaseId assignment id hlive
    obtain ⟨hrow, _, _⟩ := getCurrentLease_spec hlive
    split
    · rename_i hown
      simp only [mapError_eq_ok, releaseResourceLease, bind_eq_ok, pure_eq_ok,
        requireHeldLease_eq_ok, hrow, Option.some.injEq]
      exact ⟨_, lease, ⟨rfl, hown.1, hown.2⟩, rfl⟩
    · exact ⟨leases, rfl⟩
  · exact ⟨leases, rfl⟩

variable {leaseSeconds : Int} {drawn : String} {approval : Approval}

theorem claimTaskInSession_isOk_iff :
    (∃ db', claimTaskInSession db task row actorId leaseSeconds clock drawn = .ok db') ↔
      ¬HeldByOther db.leases remoteTaskResourceKind task actorId (clock 2) := by
  unfold claimTaskInSession
  simp only [bind_eq_ok, pure_eq_ok, mapError_eq_ok]
  rw [← claimResourceLease_isOk_iff
    { resourceKind := remoteTaskResourceKind
      resourceId := task
      holderActorId := actorId
      leaseToken := (currentAssignment row).bind fun held =>
        if held.1.actorId = actorId then some held.1.leaseToken else none
      leaseSeconds := leaseSeconds
      status := "claimed" } (clock 1) drawn]
  constructor
  · rintro ⟨_, result, hclaim, _⟩
    exact ⟨result, hclaim⟩
  · rintro ⟨result, hclaim⟩
    exact ⟨_, result, hclaim, rfl⟩

theorem claimTaskInSession_rewrote (hrow : db.tasks[task]? = some row)
    (hclaim : claimTaskInSession db task row actorId leaseSeconds clock drawn = .ok db') :
    ∃ row', Rewrote db db' task row row' ∧ row'.status = .claimed ∧
      row'.approvals = row.approvals := by
  unfold claimTaskInSession at hclaim
  simp only [bind_eq_ok, pure_eq_ok, mapError_eq_ok] at hclaim
  obtain ⟨result, _, rfl⟩ := hclaim
  exact ⟨_, rewrote_setTask hrow, rfl, rfl⟩

theorem heartbeatTask_isOk_iff {payload : HeartbeatRequest} :
    (∃ db', heartbeatTask db task payload clock = .ok db') ↔
      ∃ row, db.tasks[task]? = some row ∧
        HoldsActive row payload.actorId payload.leaseToken (clock 0) ∧
        CanBeat db task payload.actorId payload.leaseToken (clock 1) (clock 2) := by
  unfold heartbeatTask
  simp only [bind_eq_ok, pure_eq_ok, mapError_eq_ok, requireTask_eq_ok, orRaise_eq_ok]
  constructor
  · rintro ⟨_, row, hrow, current, hactive, lease, hlive, result, hbeat, _⟩
    refine ⟨row, hrow, (holdsActive_iff task).mpr ⟨current, hactive⟩, ?_⟩
    exact (heartbeatResourceLease_isOk_iff _).mp ⟨lease.1, lease.2, hlive, result, hbeat⟩
  · rintro ⟨row, hrow, hactive, hbeats⟩
    obtain ⟨current, hcurrent⟩ := (holdsActive_iff task).mp hactive
    obtain ⟨lease, id, hlive, result, hbeat⟩ := (heartbeatResourceLease_isOk_iff
      { holderActorId := payload.actorId
        leaseToken := payload.leaseToken
        leaseSeconds := validateNonNegative payload.leaseSeconds
        status := some "claimed" }).mpr hbeats
    exact ⟨_, row, hrow, current, hcurrent, (lease, id), hlive, result, hbeat, rfl⟩

theorem heartbeatTask_rewrote {payload : HeartbeatRequest}
    (hok : heartbeatTask db task payload clock = .ok db') :
    ∃ row row', Rewrote db db' task row row' ∧
      row'.status = statusForHeartbeat payload ∧ row'.approvals = row.approvals := by
  unfold heartbeatTask at hok
  simp only [bind_eq_ok, pure_eq_ok, requireTask_eq_ok] at hok
  obtain ⟨row, hrow, _, _, _, _, _, _, rfl⟩ := hok
  exact ⟨row, _, rewrote_setTask hrow, by simp only, rfl⟩

theorem addEvidence_isOk_iff {payload : EvidenceRequest} :
    (∃ db', addEvidence db task payload clock = .ok db') ↔
      ∃ row, db.tasks[task]? = some row := by
  simp [addEvidence]

theorem addEvidence_rewrote {payload : EvidenceRequest}
    (hok : addEvidence db task payload clock = .ok db') :
    ∃ row row', Rewrote db db' task row row' ∧
      row'.status = statusAfterEvidence payload.kind row.status ∧
      row'.approvals = row.approvals := by
  unfold addEvidence at hok
  simp only [bind_eq_ok, pure_eq_ok, requireTask_eq_ok] at hok
  obtain ⟨row, hrow, rfl⟩ := hok
  exact ⟨row, _, rewrote_setTask hrow, by simp only, rfl⟩

theorem requestApproval_isOk_iff {payload : ApprovalRequest} :
    (∃ db', requestApproval db task payload clock = .ok db') ↔
      ∃ row, db.tasks[task]? = some row ∧
        HoldsActive row payload.actorId payload.leaseToken (clock 0) := by
  unfold requestApproval
  simp only [bind_eq_ok, pure_eq_ok, requireTask_eq_ok, holdsActive_iff task]
  constructor
  · rintro ⟨_, row, hrow, current, hactive, _⟩
    exact ⟨row, hrow, current, hactive⟩
  · rintro ⟨row, hrow, current, hactive⟩
    exact ⟨_, row, hrow, current, hactive, rfl⟩

theorem requestApproval_rewrote {payload : ApprovalRequest}
    (hok : requestApproval db task payload clock = .ok db') :
    ∃ row row', Rewrote db db' task row row' ∧ row'.status = .blockedApproval ∧
      ∃ approval : Approval, approval.status = .pending ∧
        row'.approvals = row.approvals ++ [approval] := by
  unfold requestApproval at hok
  simp only [bind_eq_ok, pure_eq_ok, requireTask_eq_ok] at hok
  obtain ⟨row, hrow, _, _, rfl⟩ := hok
  exact ⟨row, _, rewrote_setTask hrow, rfl, _, rfl, rfl⟩

theorem resolveApproval_isOk_iff {payload : ApprovalResolveRequest} :
    (∃ db', resolveApproval db task payload clock = .ok db') ↔
      ∃ row, db.tasks[task]? = some row ∧
        ∃ latest, latestApproval row = some latest ∧ latest.1.status = .pending := by
  unfold resolveApproval
  simp only [bind_eq_ok, pure_eq_ok, requireTask_eq_ok, orRaise_eq_ok, require_eq_ok]
  constructor
  · rintro ⟨_, row, hrow, latest, hlatest, _, hpending, _⟩
    exact ⟨row, hrow, latest, hlatest, hpending⟩
  · rintro ⟨row, hrow, latest, hlatest, hpending⟩
    exact ⟨_, row, hrow, latest, hlatest, ⟨⟩, hpending, rfl⟩

theorem resolveApproval_rewrote {payload : ApprovalResolveRequest}
    (hok : resolveApproval db task payload clock = .ok db') :
    ∃ row row', Rewrote db db' task row row' ∧
      row'.status = statusAfterResolution payload.resolution ∧
      ∃ id approval resolved, row.approvals[id]? = some approval ∧
        approval.status = .pending ∧ resolved.status = .resolved ∧
        row'.approvals = update row.approvals id resolved := by
  unfold resolveApproval at hok
  simp only [bind_eq_ok, pure_eq_ok, requireTask_eq_ok, orRaise_eq_ok, require_eq_ok] at hok
  obtain ⟨row, hrow, latest, hlatest, _, hpending, rfl⟩ := hok
  refine ⟨row, _, rewrote_setTask hrow, by simp only, latest.2, latest.1, _, ?_,
    hpending, ?_, rfl⟩
  · exact (firstBy_selectWhere hlatest).1
  · rfl

theorem addNote_isOk_iff {payload : NoteRequest} :
    (∃ db', addNote db task payload clock = .ok db') ↔
      ∃ row, db.tasks[task]? = some row := by
  simp [addNote]

theorem addNote_rewrote {payload : NoteRequest} (hok : addNote db task payload clock = .ok db') :
    ∃ row row', Rewrote db db' task row row' ∧ row'.status = row.status ∧
      row'.approvals = row.approvals := by
  unfold addNote at hok
  simp only [bind_eq_ok, pure_eq_ok, requireTask_eq_ok] at hok
  obtain ⟨row, hrow, rfl⟩ := hok
  exact ⟨row, _, rewrote_setTask hrow, rfl, rfl⟩

theorem interruptTask_isOk_iff {payload : InterruptRequest} :
    (∃ db', interruptTask db task payload clock = .ok db') ↔
      ∃ row, db.tasks[task]? = some row ∧
        HoldsActive row payload.actorId payload.leaseToken (clock 0) ∧
        CanRelease db task payload.actorId payload.leaseToken (clock 1) := by
  unfold interruptTask
  simp only [bind_eq_ok, pure_eq_ok, requireTask_eq_ok, holdsActive_iff task,
    ← releaseKernelLeaseIfPresent_isOk_iff (clock 2)]
  constructor
  · rintro ⟨_, row, hrow, current, hactive, leases, hrelease, _⟩
    exact ⟨row, hrow, ⟨current, hactive⟩, leases, hrelease⟩
  · rintro ⟨row, hrow, ⟨current, hactive⟩, leases, hrelease⟩
    exact ⟨_, row, hrow, current, hactive, leases, hrelease, rfl⟩

theorem interruptTask_rewrote {payload : InterruptRequest}
    (hok : interruptTask db task payload clock = .ok db') :
    ∃ row row', Rewrote db db' task row row' ∧ row'.status = .interrupted ∧
      row'.approvals = row.approvals := by
  unfold interruptTask at hok
  simp only [bind_eq_ok, pure_eq_ok, requireTask_eq_ok] at hok
  obtain ⟨row, hrow, _, _, _, _, rfl⟩ := hok
  exact ⟨row, _, rewrote_setTask hrow, rfl, rfl⟩

theorem completeTask_isOk_iff {payload : CompleteRequest} :
    (∃ db', completeTask db task payload clock = .ok db') ↔
      ∃ row, db.tasks[task]? = some row ∧
        HoldsActive row payload.actorId payload.leaseToken (clock 0) ∧
        CanRelease db task payload.actorId payload.leaseToken (clock 1) := by
  unfold completeTask
  simp only [bind_eq_ok, pure_eq_ok, requireTask_eq_ok, holdsActive_iff task,
    ← releaseKernelLeaseIfPresent_isOk_iff (clock 2)]
  constructor
  · rintro ⟨_, row, hrow, current, hactive, leases, hrelease, _⟩
    exact ⟨row, hrow, ⟨current, hactive⟩, leases, hrelease⟩
  · rintro ⟨row, hrow, ⟨current, hactive⟩, leases, hrelease⟩
    exact ⟨_, row, hrow, current, hactive, leases, hrelease, rfl⟩

theorem completeTask_rewrote {payload : CompleteRequest}
    (hok : completeTask db task payload clock = .ok db') :
    ∃ row row', Rewrote db db' task row row' ∧ row'.status = .completed ∧
      row'.approvals = row.approvals := by
  unfold completeTask at hok
  simp only [bind_eq_ok, pure_eq_ok, requireTask_eq_ok] at hok
  obtain ⟨row, hrow, _, _, _, _, rfl⟩ := hok
  exact ⟨row, _, rewrote_setTask hrow, rfl, rfl⟩

theorem failTask_isOk_iff {payload : FailRequest} :
    (∃ db', failTask db task payload clock = .ok db') ↔
      ∃ row, db.tasks[task]? = some row ∧
        HoldsActive row payload.actorId payload.leaseToken (clock 0) ∧
        CanRelease db task payload.actorId payload.leaseToken (clock 1) := by
  unfold failTask
  simp only [bind_eq_ok, pure_eq_ok, requireTask_eq_ok, holdsActive_iff task,
    ← releaseKernelLeaseIfPresent_isOk_iff (clock 2)]
  constructor
  · rintro ⟨_, row, hrow, current, hactive, leases, hrelease, _⟩
    exact ⟨row, hrow, ⟨current, hactive⟩, leases, hrelease⟩
  · rintro ⟨row, hrow, ⟨current, hactive⟩, leases, hrelease⟩
    exact ⟨_, row, hrow, current, hactive, leases, hrelease, rfl⟩

theorem failTask_rewrote {payload : FailRequest} (hok : failTask db task payload clock = .ok db') :
    ∃ row row', Rewrote db db' task row row' ∧ row'.status = .failed ∧
      row'.approvals = row.approvals := by
  unfold failTask at hok
  simp only [bind_eq_ok, pure_eq_ok, requireTask_eq_ok] at hok
  obtain ⟨row, hrow, _, _, _, _, rfl⟩ := hok
  exact ⟨row, _, rewrote_setTask hrow, rfl, rfl⟩

theorem settleStaleTask_isOk_iff {finalStatus : TaskStatus} {summary : String}
    {payload : List (String × Json)} :
    (∃ db', settleStaleTask db task finalStatus summary payload clock = .ok db') ↔
      ∃ row, db.tasks[task]? = some row ∧ isSettled finalStatus := by
  unfold settleStaleTask
  simp only [bind_eq_ok, require_eq_ok, requireTask_eq_ok]
  constructor
  · rintro ⟨_, _, hfinal, row, hrow, _⟩
    exact ⟨row, hrow, hfinal⟩
  · rintro ⟨row, hrow, hfinal⟩
    by_cases hdone : isSettled row.status
    · exact ⟨db, ⟨⟩, hfinal, row, hrow, by simp [hdone]⟩
    · obtain ⟨leases, hrelease⟩ := releaseStaleLease_isOk db.leases task
        (currentAssignment row) (clock 1) (clock 2)
      refine ⟨{ db with leases := leases }.setTask task
        (settledRow row finalStatus summary payload (clock 0) (clock 3)), ⟨⟩, hfinal,
        row, hrow, ?_⟩
      simp [hdone, hrelease]

theorem settleStaleTask_rewrote {finalStatus : TaskStatus} {summary : String}
    {payload : List (String × Json)}
    (hok : settleStaleTask db task finalStatus summary payload clock = .ok db') :
    ∃ row row', Rewrote db db' task row row' ∧
      row'.status = (if isSettled row.status then row.status else finalStatus) ∧
      row'.approvals = row.approvals := by
  unfold settleStaleTask at hok
  simp only [bind_eq_ok, require_eq_ok, requireTask_eq_ok] at hok
  obtain ⟨_, _, row, hrow, hok⟩ := hok
  by_cases hdone : isSettled row.status
  · simp only [hdone, if_true, pure_eq_ok] at hok
    subst hok
    exact ⟨row, row, ⟨hrow, (update_self hrow).symm⟩, by simp only [hdone, if_true], rfl⟩
  · simp only [hdone, Bool.false_eq_true, if_false, bind_eq_ok, pure_eq_ok] at hok
    obtain ⟨leases, _, rfl⟩ := hok
    refine ⟨row, _, rewrote_setTask hrow, ?_, rfl⟩
    simp only [hdone, Bool.false_eq_true, if_false]
    rfl

theorem pendingCount_append (hpending : approval.status = .pending)
    (happrovals : row'.approvals = row.approvals ++ [approval]) :
    pendingCount row' = pendingCount row + 1 := by
  simp [pendingCount, happrovals, hpending]

theorem pendingCount_resolve {id : Id} {resolved : Approval}
    (hrow : row.approvals[id]? = some approval) (hpending : approval.status = .pending)
    (hresolved : resolved.status = .resolved)
    (happrovals : row'.approvals = update row.approvals id resolved) :
    pendingCount row' = pendingCount row - 1 := by
  obtain ⟨hlt, rfl⟩ := List.getElem?_eq_some_iff.mp hrow
  simp [pendingCount, happrovals, update, List.countP_set, hlt, hpending, hresolved]

theorem pendingCount_congr (happrovals : row'.approvals = row.approvals) :
    pendingCount row' = pendingCount row := by
  simp [pendingCount, happrovals]

/-- A call that names a task goes through exactly when the task exists and the
call passes its guards. -/
theorem perform_isOk_iff {db : Db} {call : Call} {task : Id}
    (htarget : call.operation.target db = some task) :
    (∃ db', perform db call = .ok db') ↔
      ∃ row, db.tasks[task]? = some row ∧ Admitted db task row call := by
  obtain ⟨operation, clock⟩ := call
  cases operation with
  | createTask => simp [Operation.target] at htarget
  | claimTask named =>
      obtain rfl : named = task := Option.some.inj htarget
      simp only [perform, claimTask, bind_eq_ok, requireTask_eq_ok, Admitted]
      rw [exists_comm]
      simp only [exists_and_left, claimTaskInSession_isOk_iff]
  | claimNextTask =>
      simp only [Operation.target, Option.map_eq_some_iff] at htarget
      obtain ⟨⟨row, found⟩, hnext, rfl⟩ := htarget
      have hrow : db.tasks[found]? = some row := (firstBy_selectWhere hnext).1
      simp only [perform, claimNextTask, hnext, Admitted, hrow, Option.some.injEq,
        exists_eq_left', claimTaskInSession_isOk_iff]
  | heartbeatTask named =>
      obtain rfl : named = task := Option.some.inj htarget
      exact heartbeatTask_isOk_iff
  | addEvidence named =>
      obtain rfl : named = task := Option.some.inj htarget
      simp only [Admitted, and_true]
      exact addEvidence_isOk_iff
  | requestApproval named =>
      obtain rfl : named = task := Option.some.inj htarget
      exact requestApproval_isOk_iff
  | resolveApproval named =>
      obtain rfl : named = task := Option.some.inj htarget
      exact resolveApproval_isOk_iff
  | addNote named =>
      obtain rfl : named = task := Option.some.inj htarget
      simp only [Admitted, and_true]
      exact addNote_isOk_iff
  | interruptTask named =>
      obtain rfl : named = task := Option.some.inj htarget
      exact interruptTask_isOk_iff
  | completeTask named =>
      obtain rfl : named = task := Option.some.inj htarget
      exact completeTask_isOk_iff
  | failTask named =>
      obtain rfl : named = task := Option.some.inj htarget
      exact failTask_isOk_iff
  | settleStaleTask named =>
      obtain rfl : named = task := Option.some.inj htarget
      exact settleStaleTask_isOk_iff

/-- What a call that goes through leaves on the task it names. -/
structure Result (call : Call) (row row' : Task) : Prop where
  status : row'.status = call.operation.statusAfter row.status
  pending : pendingCount row' = call.operation.pendingAfter (pendingCount row)

/-- A call that goes through rewrites the row of the task it names, and no
other. -/
theorem perform_rewrote (htarget : call.operation.target db = some task)
    (hok : perform db call = .ok db') :
    ∃ row row', Rewrote db db' task row row' ∧ Result call row row' := by
  obtain ⟨operation, clock⟩ := call
  cases operation with
  | createTask => simp [Operation.target] at htarget
  | claimTask named =>
      obtain rfl : named = task := Option.some.inj htarget
      simp only [perform, claimTask, bind_eq_ok, requireTask_eq_ok] at hok
      obtain ⟨row, hrow, hclaim⟩ := hok
      obtain ⟨row', hwrote, hstatus, happrovals⟩ := claimTaskInSession_rewrote hrow hclaim
      exact ⟨row, row', hwrote, hstatus, pendingCount_congr happrovals⟩
  | claimNextTask =>
      simp only [Operation.target, Option.map_eq_some_iff] at htarget
      obtain ⟨⟨row, found⟩, hnext, rfl⟩ := htarget
      simp only [perform, claimNextTask, hnext] at hok
      obtain ⟨row', hwrote, hstatus, happrovals⟩ :=
        claimTaskInSession_rewrote (firstBy_selectWhere hnext).1 hok
      exact ⟨row, row', hwrote, hstatus, pendingCount_congr happrovals⟩
  | heartbeatTask named =>
      obtain rfl : named = task := Option.some.inj htarget
      obtain ⟨row, row', hwrote, hstatus, happrovals⟩ := heartbeatTask_rewrote hok
      exact ⟨row, row', hwrote, hstatus, pendingCount_congr happrovals⟩
  | addEvidence named =>
      obtain rfl : named = task := Option.some.inj htarget
      obtain ⟨row, row', hwrote, hstatus, happrovals⟩ := addEvidence_rewrote hok
      exact ⟨row, row', hwrote, hstatus, pendingCount_congr happrovals⟩
  | requestApproval named =>
      obtain rfl : named = task := Option.some.inj htarget
      obtain ⟨row, row', hwrote, hstatus, approval, hpending, happrovals⟩ :=
        requestApproval_rewrote hok
      exact ⟨row, row', hwrote, hstatus, pendingCount_append hpending happrovals⟩
  | resolveApproval named =>
      obtain rfl : named = task := Option.some.inj htarget
      obtain ⟨row, row', hwrote, hstatus, id, approval, resolved, hfound, hpending,
        hresolved, happrovals⟩ := resolveApproval_rewrote hok
      exact ⟨row, row', hwrote, hstatus,
        pendingCount_resolve hfound hpending hresolved happrovals⟩
  | addNote named =>
      obtain rfl : named = task := Option.some.inj htarget
      obtain ⟨row, row', hwrote, hstatus, happrovals⟩ := addNote_rewrote hok
      exact ⟨row, row', hwrote, hstatus, pendingCount_congr happrovals⟩
  | interruptTask named =>
      obtain rfl : named = task := Option.some.inj htarget
      obtain ⟨row, row', hwrote, hstatus, happrovals⟩ := interruptTask_rewrote hok
      exact ⟨row, row', hwrote, hstatus, pendingCount_congr happrovals⟩
  | completeTask named =>
      obtain rfl : named = task := Option.some.inj htarget
      obtain ⟨row, row', hwrote, hstatus, happrovals⟩ := completeTask_rewrote hok
      exact ⟨row, row', hwrote, hstatus, pendingCount_congr happrovals⟩
  | failTask named =>
      obtain rfl : named = task := Option.some.inj htarget
      obtain ⟨row, row', hwrote, hstatus, happrovals⟩ := failTask_rewrote hok
      exact ⟨row, row', hwrote, hstatus, pendingCount_congr happrovals⟩
  | settleStaleTask named =>
      obtain rfl : named = task := Option.some.inj htarget
      obtain ⟨row, row', hwrote, hstatus, happrovals⟩ := settleStaleTask_rewrote hok
      exact ⟨row, row', hwrote, hstatus, pendingCount_congr happrovals⟩

theorem step_of_no_target (htarget : call.operation.target db = none) :
    (step db call).tasks[task]? = some row →
      db.tasks[task]? = some row ∨ row.status = .queued ∧ row.approvals = [] := by
  obtain ⟨operation, clock⟩ := call
  cases operation with
  | createTask =>
      intro hrow
      simp only [step, perform, committed_ok, createTask,
        List.getElem?_append] at hrow
      split at hrow
      · exact Or.inl hrow
      · right
        rw [List.getElem?_singleton] at hrow
        split at hrow
        · cases hrow
          exact ⟨rfl, rfl⟩
        · simp at hrow
  | claimNextTask =>
      simp only [Operation.target, Option.map_eq_none_iff] at htarget
      intro hrow
      left
      simpa [step, perform, claimNextTask, htarget] using hrow
  | _ => simp [Operation.target] at htarget

theorem step_keeps_of_no_target (htarget : call.operation.target db = none)
    (hrow : db.tasks[task]? = some row) : (step db call).tasks[task]? = some row := by
  obtain ⟨operation, clock⟩ := call
  cases operation with
  | createTask =>
      have hlt : task < db.tasks.length := (List.getElem?_eq_some_iff.mp hrow).1
      simpa [step, perform, createTask, List.getElem?_append_left hlt] using hrow
  | claimNextTask =>
      simp only [Operation.target, Option.map_eq_none_iff] at htarget
      simpa [step, perform, claimNextTask, htarget] using hrow
  | _ => simp [Operation.target] at htarget

/-- The step lemma: a call either leaves the database alone because it is not
admitted, or rewrites the row of the task it names to its result. -/
theorem step_of_target (htarget : call.operation.target db = some task) :
    (step db call = db ∧
        ¬∃ row, db.tasks[task]? = some row ∧ Admitted db task row call) ∨
      ∃ row row', Rewrote db (step db call) task row row' ∧ Result call row row' ∧
        Admitted db task row call := by
  have hiff := perform_isOk_iff htarget
  cases hperform : perform db call with
  | error =>
      left
      refine ⟨by simp [step, hperform], fun hadmitted => ?_⟩
      obtain ⟨db', hok⟩ := hiff.mpr hadmitted
      simp [hperform] at hok
  | ok db' =>
      right
      obtain ⟨row, row', hwrote, hresult⟩ := perform_rewrote htarget hperform
      obtain ⟨found, hfound, hadmitted⟩ := hiff.mp ⟨db', hperform⟩
      obtain rfl : row = found := by simpa [hwrote.read] using hfound
      exact ⟨row, row', by simpa [step, hperform] using hwrote, hresult, hadmitted⟩

theorem step_rows_iff {db : Db} {P : Task → Prop} {Harms : Task → Operation → Prop} (call : Call)
    (hall : ∀ (task : Id) (row : Task), db.tasks[task]? = some row → P row)
    (hqueued : ∀ row : Task, row.status = .queued → row.approvals = [] → P row)
    (hresult : ∀ (task : Id) (row row' : Task), call.operation.target db = some task →
      Rewrote db (step db call) task row row' → Result call row row' →
        Admitted db task row call → (P row' ↔ ¬ Harms row call.operation)) :
    (∀ (task : Id) (row : Task), (step db call).tasks[task]? = some row → P row) ↔
      ¬ ∃ task row, call.operation.target db = some task ∧ db.tasks[task]? = some row ∧
        Harms row call.operation ∧ Admitted db task row call := by
  cases htarget : call.operation.target db with
  | none =>
      refine iff_of_true ?_ ?_
      · intro task row hrow
        rcases step_of_no_target htarget hrow with hold | ⟨hstatus, hnone⟩
        · exact hall task row hold
        · exact hqueued row hstatus hnone
      · rintro ⟨task, row, hnamed, _⟩
        cases hnamed
  | some named =>
      rcases step_of_target htarget with ⟨hsame, hrefused⟩ | ⟨row, row', hwrote, hrow', hadmitted⟩
      · rw [hsame]
        refine iff_of_true hall ?_
        rintro ⟨task, row, hnamed, hrow, _, hadmitted⟩
        obtain rfl : named = task := Option.some.inj hnamed
        exact hrefused ⟨row, hrow, hadmitted⟩
      · have hiff := hresult named row row' htarget hwrote hrow' hadmitted
        constructor
        · rintro hafter ⟨task, found, hnamed, hrow, hharms, _⟩
          obtain rfl : named = task := Option.some.inj hnamed
          obtain rfl : row = found := by simpa [hwrote.read] using hrow
          refine hiff.mp (hafter named row' ?_) hharms
          rw [hwrote.wrote, getElem?_update_self hwrote.read]
        · intro hharmless task other hother
          rw [hwrote.wrote] at hother
          by_cases hnamed : named = task
          · subst hnamed
            rw [getElem?_update_self hwrote.read] at hother
            obtain rfl : row' = other := by simpa using hother
            exact hiff.mpr fun hharms => hharmless ⟨named, row, rfl, hwrote.read, hharms, hadmitted⟩
          · rw [getElem?_update_of_ne hnamed] at hother
            exact hall task other hother

end OpsCure.RemoteTask
