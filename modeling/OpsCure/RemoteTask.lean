/-
The remote task service (`services/remote_task_service.py`): tasks with their
assignments, heartbeats, evidence, approvals and notes, and the operations
that move them.  Each operation is one transaction over the task table and the
kernel leases.
-/
import OpsCure.Library.Json
import OpsCure.Presence

namespace OpsCure.RemoteTask

open Fallible Table Presence

inductive TaskStatus where
  | queued
  | claimed
  | executing
  | blockedApproval
  | verifying
  | interrupted
  | completed
  | failed
deriving DecidableEq, Repr

def TaskStatus.text : TaskStatus → String
  | queued => "queued"
  | claimed => "claimed"
  | executing => "executing"
  | blockedApproval => "blocked_approval"
  | verifying => "verifying"
  | interrupted => "interrupted"
  | completed => "completed"
  | failed => "failed"

inductive AssignmentStatus where
  | claimed
  | expired
  | interrupted
  | completed
  | failed
deriving DecidableEq, Repr

inductive ApprovalStatus where
  | pending
  | resolved
deriving DecidableEq, Repr

inductive ApprovalResolution where
  | approved
  | denied
deriving DecidableEq, Repr

structure Assignment where
  actorId : String
  leaseToken : String
  leaseExpiresAt : Time
  status : AssignmentStatus
  claimedAt : Time
  releasedAt : Option Time
deriving DecidableEq, Repr

structure Heartbeat where
  actorId : String
  phase : String
  summary : Option String
  commandsRunCount : Int
  filesReadCount : Int
  filesModifiedCount : Int
  testsRunCount : Int
  createdAt : Time
deriving DecidableEq, Repr

structure Evidence where
  actorId : String
  kind : String
  summary : String
  payload : Json
  createdAt : Time
deriving Repr

structure Approval where
  actorId : String
  reason : String
  status : ApprovalStatus
  note : Option String
  requestedAt : Time
  resolvedAt : Option Time
  resolvedBy : Option String
  resolution : Option ApprovalResolution
deriving DecidableEq, Repr

structure Note where
  actorId : String
  kind : String
  content : String
  createdAt : Time
deriving DecidableEq, Repr

structure Task where
  machineId : String
  threadId : String
  originSurface : String
  originMessageId : Option String
  objective : String
  successCriteria : Json
  status : TaskStatus
  priority : String
  ownerActorId : Option String
  createdBy : String
  createdAt : Time
  updatedAt : Time
  assignments : List Assignment
  heartbeats : List Heartbeat
  evidenceItems : List Evidence
  approvals : List Approval
  notes : List Note
deriving Repr

/-- The tables the service reads and writes. -/
structure Db where
  tasks : List Task
  leases : List ResourceLease
deriving Repr

def Db.empty : Db := ⟨[], []⟩

def Db.setTask (db : Db) (taskId : Id) (row : Task) : Db :=
  { db with tasks := update db.tasks taskId row }

inductive TaskError where
  | notFound (task : Id)
  | noActiveAssignment (task : Id)
  | ownedBy (task : Id) (owner actor : String)
  | tokenMismatch
  | leaseExpired (task : Id)
  | noKernelLease (task : Id)
  | kernelLeaseMismatch (task : Id)
  | noPendingApproval (task : Id)
  | unsupportedStaleStatus (status : TaskStatus)
  | presence (error : PresenceError)
deriving DecidableEq, Repr

def TaskError.text : TaskError → String
  | notFound task => s!"Remote task `{task}` was not found."
  | noActiveAssignment task => s!"Remote task `{task}` has no active assignment."
  | ownedBy task owner actor =>
      s!"Remote task `{task}` is owned by `{owner}`, not `{actor}`."
  | tokenMismatch => "Lease token does not match the active assignment."
  | leaseExpired task => s!"Lease for remote task `{task}` has expired."
  | noKernelLease task => s!"Remote task `{task}` has no active kernel lease."
  | kernelLeaseMismatch task =>
      s!"Kernel lease for remote task `{task}` does not match the active assignment."
  | noPendingApproval task => s!"Remote task `{task}` has no pending approval."
  | unsupportedStaleStatus status => s!"Unsupported stale task status: {status.text}"
  | presence error => error.text

structure CreateRequest where
  machineId : String
  threadId : String
  objective : String
  successCriteria : Json
  originSurface : String
  originMessageId : Option String
  priority : String
  createdBy : String

structure ClaimRequest where
  actorId : String
  leaseSeconds : Int

structure ClaimNextRequest where
  actorId : String
  leaseSeconds : Int
  excludeOriginSurfaces : List String

structure HeartbeatRequest where
  actorId : String
  leaseToken : String
  phase : String
  summary : Option String
  commandsRunCount : Int
  filesReadCount : Int
  filesModifiedCount : Int
  testsRunCount : Int
  leaseSeconds : Int

structure EvidenceRequest where
  actorId : String
  kind : String
  summary : String
  payload : Json

structure ApprovalRequest where
  actorId : String
  leaseToken : String
  reason : String
  note : Option String

structure ApprovalResolveRequest where
  resolvedBy : String
  resolution : ApprovalResolution
  note : Option String

structure NoteRequest where
  actorId : String
  kind : String
  content : String

structure InterruptRequest where
  actorId : String
  leaseToken : String
  note : Option String

structure CompleteRequest where
  actorId : String
  leaseToken : String
  summary : Option String

structure FailRequest where
  actorId : String
  leaseToken : String
  errorText : String

/-- `WORK_EVIDENCE_KINDS`. -/
def workEvidenceKinds : List String :=
  ["command_execution", "file_read", "file_write", "test_result",
    "runtime_turn_started", "runtime_turn_completed"]

/-- `REMOTE_TASK_RESOURCE_KIND`. -/
def remoteTaskResourceKind : String := "remote_task"

def validateNonNegative (value : Int) : Int := max 0 value

def requireTask (db : Db) (taskId : Id) : Except TaskError Task :=
  orRaise db.tasks[taskId]? (.notFound taskId)

def currentAssignment (row : Task) : Option (Assignment × Id) :=
  firstBy (fun left right => right.claimedAt ≤ left.claimedAt)
    (selectWhere (fun item => item.status = .claimed) row.assignments)

def latestApproval (row : Task) : Option (Approval × Id) :=
  firstBy (fun left right => right.requestedAt ≤ left.requestedAt)
    (selectWhere (fun _ => true) row.approvals)

def requireActiveAssignment (taskId : Id) (row : Task)
    (actorId leaseToken : String) (now : Time) :
    Except TaskError (Assignment × Id) := do
  let current ← orRaise (currentAssignment row) (.noActiveAssignment taskId)
  require (current.1.actorId = actorId) (.ownedBy taskId current.1.actorId actorId)
  require (current.1.leaseToken = leaseToken) .tokenMismatch
  require (now < current.1.leaseExpiresAt) (.leaseExpired taskId)
  return current

def hasWorkSignal (payload : HeartbeatRequest) : Bool :=
  0 < validateNonNegative payload.commandsRunCount ∨
    0 < validateNonNegative payload.filesReadCount ∨
    0 < validateNonNegative payload.filesModifiedCount ∨
    0 < validateNonNegative payload.testsRunCount

/-- `_status_for_heartbeat`: the phase words a heartbeat may report. -/
def statusForHeartbeat (payload : HeartbeatRequest) : TaskStatus :=
  let phase := Text.lower (Text.strip payload.phase)
  if phase ∈ ["blocked_approval", "approval", "waiting_approval"] then .blockedApproval
  else if phase ∈ ["interrupted", "interrupting"] then .interrupted
  else if phase = "verifying" then
    if hasWorkSignal payload then .verifying else .claimed
  else if phase ∈ ["executing", "working", "running"] then
    if hasWorkSignal payload then .executing else .claimed
  else .claimed

/-- `_upsert_assignment_from_lease`: retire an expired current assignment, then
renew the claimant's own or append a new one. -/
def upsertAssignmentFromLease (assignments : List Assignment)
    (current : Option (Assignment × Id)) (lease : ResourceLease) (now : Time) :
    List Assignment :=
  let opened : Assignment :=
    { actorId := lease.holderActorId
      leaseToken := lease.leaseToken
      leaseExpiresAt := lease.expiresAt
      status := .claimed
      claimedAt := lease.claimedAt
      releasedAt := none }
  match current with
  | none => assignments ++ [opened]
  | some (assignment, id) =>
      if assignment.leaseExpiresAt ≤ now ∧ assignment.releasedAt = none then
        update assignments id { assignment with
          status := .expired, releasedAt := some now } ++ [opened]
      else if assignment.actorId = lease.holderActorId ∧ assignment.releasedAt = none ∧
          assignment.status = .claimed then
        update assignments id { assignment with
          leaseToken := lease.leaseToken, leaseExpiresAt := lease.expiresAt }
      else assignments ++ [opened]

def createTask (db : Db) (payload : CreateRequest) (clock : Clock) : Db × Id :=
  let row : Task :=
    { machineId := payload.machineId
      threadId := payload.threadId
      originSurface := payload.originSurface
      originMessageId := payload.originMessageId
      objective := payload.objective
      successCriteria := payload.successCriteria
      status := .queued
      priority := payload.priority
      ownerActorId := none
      createdBy := payload.createdBy
      createdAt := clock 0
      updatedAt := clock 1
      assignments := []
      heartbeats := []
      evidenceItems := []
      approvals := []
      notes := [] }
  ({ db with tasks := db.tasks ++ [row] }, db.tasks.length)

/-- `_claim_task_in_session`.  The claim asks the kernel for a lease, under the
token of the current assignment when that is the claimant's own. -/
def claimTaskInSession (db : Db) (taskId : Id) (row : Task) (actorId : String)
    (leaseSeconds : Int) (clock : Clock) (drawn : String) : Except TaskError Db := do
  let current := currentAssignment row
  let ownToken := current.bind fun held =>
    if held.1.actorId = actorId then some held.1.leaseToken else none
  let (leases, lease) ← (claimResourceLease db.leases
    { resourceKind := remoteTaskResourceKind
      resourceId := taskId
      holderActorId := actorId
      leaseToken := ownToken
      leaseSeconds := leaseSeconds
      status := "claimed" } (clock 1) (clock 2) drawn).mapError .presence
  let claimed := { row with
    assignments := upsertAssignmentFromLease row.assignments current lease (clock 0)
    ownerActorId := some actorId
    status := .claimed
    updatedAt := clock 0 }
  return { db with leases := leases }.setTask taskId claimed

def claimTask (db : Db) (taskId : Id) (payload : ClaimRequest) (clock : Clock)
    (drawn : String) : Except TaskError Db := do
  let row ← requireTask db taskId
  claimTaskInSession db taskId row payload.actorId
    (validateLeaseSeconds payload.leaseSeconds) clock drawn

def priorityRank (priority : String) : Nat :=
  if priority = "critical" then 0
  else if priority = "high" then 1
  else if priority = "normal" then 2
  else 3

def claimedBefore (left right : Task) : Bool :=
  priorityRank left.priority < priorityRank right.priority ∨
    (priorityRank left.priority = priorityRank right.priority ∧
      left.createdAt ≤ right.createdAt)

/-- `validate_exclude_origin_surfaces`: stripped, lower-cased, non-empty. -/
def excludedOriginSurfaces (payload : ClaimNextRequest) : List String :=
  (payload.excludeOriginSurfaces.map fun item => Text.lower (Text.strip item)).filter
    (· ≠ "")

def nextQueuedTask (db : Db) (machineId : String) (payload : ClaimNextRequest) :
    Option (Task × Id) :=
  firstBy claimedBefore <| selectWhere
    (fun row => row.machineId = machineId ∧ row.status = .queued ∧
      row.originSurface ∉ excludedOriginSurfaces payload)
    db.tasks

def claimNextTask (db : Db) (machineId : String) (payload : ClaimNextRequest)
    (clock : Clock) (drawn : String) : Except TaskError Db :=
  match nextQueuedTask db machineId payload with
  | none => .ok db
  | some (row, taskId) =>
      claimTaskInSession db taskId row payload.actorId
        (validateLeaseSeconds payload.leaseSeconds) clock drawn

def heartbeatTask (db : Db) (taskId : Id) (payload : HeartbeatRequest)
    (clock : Clock) : Except TaskError Db := do
  let row ← requireTask db taskId
  let (assignment, id) ←
    requireActiveAssignment taskId row payload.actorId payload.leaseToken (clock 0)
  let (_, leaseId) ← orRaise
    (getCurrentLease db.leases remoteTaskResourceKind taskId (clock 1))
    (.noKernelLease taskId)
  let (leases, lease) ← (heartbeatResourceLease db.leases leaseId
    { holderActorId := payload.actorId
      leaseToken := payload.leaseToken
      leaseSeconds := validateNonNegative payload.leaseSeconds
      status := some "claimed" } (clock 2)).mapError .presence
  let heartbeat : Heartbeat :=
    { actorId := payload.actorId
      phase := payload.phase
      summary := payload.summary
      commandsRunCount := validateNonNegative payload.commandsRunCount
      filesReadCount := validateNonNegative payload.filesReadCount
      filesModifiedCount := validateNonNegative payload.filesModifiedCount
      testsRunCount := validateNonNegative payload.testsRunCount
      createdAt := clock 4 }
  let beaten := { row with
    assignments := update row.assignments id
      { assignment with leaseExpiresAt := lease.expiresAt }
    heartbeats := row.heartbeats ++ [heartbeat]
    ownerActorId := some payload.actorId
    status := statusForHeartbeat payload
    updatedAt := clock 3 }
  return { db with leases := leases }.setTask taskId beaten

def statusAfterEvidence (kind : String) (status : TaskStatus) : TaskStatus :=
  if kind ∈ workEvidenceKinds ∧ status ∈ [.queued, .claimed] then .executing else status

def addEvidence (db : Db) (taskId : Id) (payload : EvidenceRequest)
    (clock : Clock) : Except TaskError Db := do
  let row ← requireTask db taskId
  let evidence : Evidence :=
    { actorId := payload.actorId
      kind := payload.kind
      summary := payload.summary
      payload := payload.payload
      createdAt := clock 1 }
  return db.setTask taskId { row with
    evidenceItems := row.evidenceItems ++ [evidence]
    status := statusAfterEvidence payload.kind row.status
    updatedAt := clock 0 }

def requestApproval (db : Db) (taskId : Id) (payload : ApprovalRequest)
    (clock : Clock) : Except TaskError Db := do
  let row ← requireTask db taskId
  let _ ← requireActiveAssignment taskId row payload.actorId payload.leaseToken (clock 0)
  let approval : Approval :=
    { actorId := payload.actorId
      reason := payload.reason
      status := .pending
      note := payload.note
      requestedAt := clock 2
      resolvedAt := none
      resolvedBy := none
      resolution := none }
  return db.setTask taskId { row with
    approvals := row.approvals ++ [approval]
    status := .blockedApproval
    ownerActorId := some payload.actorId
    updatedAt := clock 1 }

def statusAfterResolution : ApprovalResolution → TaskStatus
  | .approved => .claimed
  | .denied => .failed

def resolveApproval (db : Db) (taskId : Id) (payload : ApprovalResolveRequest)
    (clock : Clock) : Except TaskError Db := do
  let row ← requireTask db taskId
  let (approval, id) ← orRaise (latestApproval row) (.noPendingApproval taskId)
  require (approval.status = .pending) (.noPendingApproval taskId)
  let resolved := { approval with
    status := .resolved
    note := if Text.present payload.note then payload.note else approval.note
    resolvedAt := some (clock 0)
    resolvedBy := some payload.resolvedBy
    resolution := some payload.resolution }
  return db.setTask taskId { row with
    approvals := update row.approvals id resolved
    status := statusAfterResolution payload.resolution
    updatedAt := clock 1 }

def addNote (db : Db) (taskId : Id) (payload : NoteRequest) (clock : Clock) :
    Except TaskError Db := do
  let row ← requireTask db taskId
  let note : Note :=
    { actorId := payload.actorId
      kind := payload.kind
      content := payload.content
      createdAt := clock 1 }
  return db.setTask taskId { row with
    notes := row.notes ++ [note], updatedAt := clock 0 }

/-- `_release_kernel_lease_if_present`: a live lease must be the caller's. -/
def releaseKernelLeaseIfPresent (leases : List ResourceLease) (taskId : Id)
    (actorId leaseToken : String) (lookupNow now : Time) :
    Except TaskError (List ResourceLease) :=
  match getCurrentLease leases remoteTaskResourceKind taskId lookupNow with
  | none => .ok leases
  | some (lease, leaseId) => do
      require (lease.holderActorId = actorId ∧ lease.leaseToken = leaseToken)
        (.kernelLeaseMismatch taskId)
      (releaseResourceLease leases leaseId
        { holderActorId := actorId
          leaseToken := leaseToken
          status := "released" } now).mapError .presence

/-- What `interrupt_task`, `complete_task` and `fail_task` do to the task row:
release the assignment and settle it and the task. -/
def releaseAssignment (row : Task) (assignment : Assignment) (id : Id)
    (outcome : AssignmentStatus) (status : TaskStatus) (actorId : String)
    (releasedAt updatedAt : Time) : Task :=
  { row with
    assignments := update row.assignments id
      { assignment with status := outcome, releasedAt := some releasedAt }
    status := status
    ownerActorId := some actorId
    updatedAt := updatedAt }

def interruptTask (db : Db) (taskId : Id) (payload : InterruptRequest)
    (clock : Clock) : Except TaskError Db := do
  let row ← requireTask db taskId
  let (assignment, id) ←
    requireActiveAssignment taskId row payload.actorId payload.leaseToken (clock 0)
  let note : Note :=
    { actorId := payload.actorId
      kind := "interrupt"
      content := payload.note.getD ""
      createdAt := clock 5 }
  let noted := { row with
    notes := if Text.present payload.note then row.notes ++ [note] else row.notes }
  let leases ← releaseKernelLeaseIfPresent db.leases taskId payload.actorId
    payload.leaseToken (clock 1) (clock 2)
  return { db with leases := leases }.setTask taskId
    (releaseAssignment noted assignment id .interrupted .interrupted payload.actorId
      (clock 3) (clock 4))

def completeTask (db : Db) (taskId : Id) (payload : CompleteRequest)
    (clock : Clock) : Except TaskError Db := do
  let row ← requireTask db taskId
  let (assignment, id) ←
    requireActiveAssignment taskId row payload.actorId payload.leaseToken (clock 0)
  let evidence : Evidence :=
    { actorId := payload.actorId
      kind := "result"
      summary := payload.summary.getD ""
      payload := .obj [("kind", .str "result")]
      createdAt := clock 5 }
  let evidenced := { row with
    evidenceItems :=
      if Text.present payload.summary then row.evidenceItems ++ [evidence]
      else row.evidenceItems }
  let leases ← releaseKernelLeaseIfPresent db.leases taskId payload.actorId
    payload.leaseToken (clock 1) (clock 2)
  return { db with leases := leases }.setTask taskId
    (releaseAssignment evidenced assignment id .completed .completed payload.actorId
      (clock 3) (clock 4))

def failTask (db : Db) (taskId : Id) (payload : FailRequest) (clock : Clock) :
    Except TaskError Db := do
  let row ← requireTask db taskId
  let (assignment, id) ←
    requireActiveAssignment taskId row payload.actorId payload.leaseToken (clock 0)
  let evidence : Evidence :=
    { actorId := payload.actorId
      kind := "error"
      summary := payload.errorText
      payload := .obj [("kind", .str "error")]
      createdAt := clock 5 }
  let evidenced := { row with evidenceItems := row.evidenceItems ++ [evidence] }
  let leases ← releaseKernelLeaseIfPresent db.leases taskId payload.actorId
    payload.leaseToken (clock 1) (clock 2)
  return { db with leases := leases }.setTask taskId
    (releaseAssignment evidenced assignment id .failed .failed payload.actorId
      (clock 3) (clock 4))

/-- The statuses `settle_stale_task` accepts, and finds nothing to do at. -/
def isSettled (status : TaskStatus) : Bool :=
  status ∈ [TaskStatus.completed, .failed, .interrupted]

def settledAssignment : TaskStatus → AssignmentStatus
  | .completed => .completed
  | .interrupted => .interrupted
  | _ => .failed

/-- The lease `settle_stale_task` releases: the live one, when it is the current
assignment's. -/
def releaseStaleLease (leases : List ResourceLease) (taskId : Id)
    (current : Option (Assignment × Id)) (lookupNow now : Time) :
    Except TaskError (List ResourceLease) :=
  match getCurrentLease leases remoteTaskResourceKind taskId lookupNow, current with
  | some (lease, leaseId), some (assignment, _) =>
      if lease.holderActorId = assignment.actorId ∧
          lease.leaseToken = assignment.leaseToken then
        (releaseResourceLease leases leaseId
          { holderActorId := assignment.actorId
            leaseToken := assignment.leaseToken
            status := "released" } now).mapError .presence
      else .ok leases
  | _, _ => .ok leases

/-- The row of a task settled from outside: its assignment, when it is still
unreleased, and the task itself take the final status. -/
def settledRow (row : Task) (finalStatus : TaskStatus) (summary : String)
    (payload : List (String × Json)) (now createdAt : Time) : Task :=
  let current := currentAssignment row
  let actorId := match current with
    | some (assignment, _) => assignment.actorId
    | none => Text.orElse row.ownerActorId "bridge-service"
  let assignments := match current with
    | some (assignment, id) =>
        if assignment.releasedAt = none then
          update row.assignments id { assignment with
            status := settledAssignment finalStatus, releasedAt := some now }
        else row.assignments
    | none => row.assignments
  let evidence : Evidence :=
    { actorId := actorId
      kind := if finalStatus = .completed then "result" else "error"
      summary := summary
      payload := .obj <| Json.mergeFields
        [("kind", .str "stale_task_cleanup"), ("finalStatus", .str finalStatus.text)]
        payload
      createdAt := createdAt }
  { row with
    assignments := assignments
    evidenceItems := row.evidenceItems ++ [evidence]
    status := finalStatus
    ownerActorId := some actorId
    updatedAt := now }

def settleStaleTask (db : Db) (taskId : Id) (finalStatus : TaskStatus)
    (summary : String) (payload : List (String × Json)) (clock : Clock) :
    Except TaskError Db := do
  require (isSettled finalStatus) (.unsupportedStaleStatus finalStatus)
  let row ← requireTask db taskId
  if isSettled row.status then
    return db
  else
    let leases ← releaseStaleLease db.leases taskId (currentAssignment row)
      (clock 1) (clock 2)
    return { db with leases := leases }.setTask taskId
      (settledRow row finalStatus summary payload (clock 0) (clock 3))

/-- A service operation with its arguments; `drawn` is the token `uuid4` would
give to a new lease. -/
inductive Operation where
  | createTask (payload : CreateRequest)
  | claimTask (task : Id) (payload : ClaimRequest) (drawn : String)
  | claimNextTask (machineId : String) (payload : ClaimNextRequest) (drawn : String)
  | heartbeatTask (task : Id) (payload : HeartbeatRequest)
  | addEvidence (task : Id) (payload : EvidenceRequest)
  | requestApproval (task : Id) (payload : ApprovalRequest)
  | resolveApproval (task : Id) (payload : ApprovalResolveRequest)
  | addNote (task : Id) (payload : NoteRequest)
  | interruptTask (task : Id) (payload : InterruptRequest)
  | completeTask (task : Id) (payload : CompleteRequest)
  | failTask (task : Id) (payload : FailRequest)
  | settleStaleTask (task : Id) (finalStatus : TaskStatus) (summary : String)
      (payload : List (String × Json))

structure Call where
  operation : Operation
  clock : Clock

def perform (db : Db) (call : Call) : Except TaskError Db :=
  match call.operation with
  | .createTask payload => .ok (createTask db payload call.clock).1
  | .claimTask task payload drawn => claimTask db task payload call.clock drawn
  | .claimNextTask machineId payload drawn =>
      claimNextTask db machineId payload call.clock drawn
  | .heartbeatTask task payload => heartbeatTask db task payload call.clock
  | .addEvidence task payload => addEvidence db task payload call.clock
  | .requestApproval task payload => requestApproval db task payload call.clock
  | .resolveApproval task payload => resolveApproval db task payload call.clock
  | .addNote task payload => addNote db task payload call.clock
  | .interruptTask task payload => interruptTask db task payload call.clock
  | .completeTask task payload => completeTask db task payload call.clock
  | .failTask task payload => failTask db task payload call.clock
  | .settleStaleTask task finalStatus summary payload =>
      settleStaleTask db task finalStatus summary payload call.clock

/-- The database after a call: a call that raises is rolled back. -/
def step (db : Db) (call : Call) : Db :=
  committed db (perform db call)

end OpsCure.RemoteTask
