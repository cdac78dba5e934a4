/-
What a claimed task tells the executor.  The bridge renders a stored task for the browser
(`_task_to_browser`), the launcher reads that back (`_normalize_remote_task`), and the runner puts
what it reads into the context its runtime works from (`_execute_claimed_task`).
-/
import OpsCure.RemoteTask

namespace OpsCure.RemoteTask

open Table

/-! ## The summary of a row -/

/-- The texts of the row identities, and of the times. -/
structure Rendering where
  taskId : Id → String
  evidenceId : Id → String
  approvalId : Id → String
  isoformat : Time → String

/-- `RemoteTaskSummaryResponse`. -/
structure Summary where
  id : String
  machineId : String
  threadId : String
  originSurface : String
  originMessageId : Option String
  objective : String
  successCriteria : Json
  status : TaskStatus
  priority : String
  ownerActorId : Option String
  createdBy : String
  createdAt : Time
  updatedAt : Time
  currentAssignment : Option Assignment
  latestHeartbeat : Option Heartbeat
  recentEvidence : List (Evidence × Id)
  latestApproval : Option (Approval × Id)

/-- `_to_summary`.  The heartbeat is the first of the latest, and of the evidence the ten latest
come, in their order where the times agree. -/
def toSummary (rendering : Rendering) (taskId : Id) (row : Task) : Summary :=
  { id := rendering.taskId taskId
    machineId := row.machineId
    threadId := row.threadId
    originSurface := row.originSurface
    originMessageId := row.originMessageId
    objective := row.objective
    successCriteria := row.successCriteria
    status := row.status
    priority := row.priority
    ownerActorId := row.ownerActorId
    createdBy := row.createdBy
    createdAt := row.createdAt
    updatedAt := row.updatedAt
    currentAssignment := (currentAssignment row).map Prod.fst
    latestHeartbeat :=
      (firstBy (fun left right => right.createdAt ≤ left.createdAt)
        (selectWhere (fun _ => true) row.heartbeats)).map Prod.fst
    recentEvidence :=
      (orderBy (fun left right => right.createdAt ≤ left.createdAt)
        (selectWhere (fun _ => true) row.evidenceItems)).take 10
    latestApproval := latestApproval row }

/-! ## The bridge's encoder -/

/-- A column that may be null. -/
def optional : Option String → Json
  | none => .null
  | some text => .str text

def ApprovalStatus.text : ApprovalStatus → String
  | pending => "pending"
  | resolved => "resolved"

def ApprovalResolution.text : ApprovalResolution → String
  | approved => "approved"
  | denied => "denied"

def approvalStatusText (approval : Approval) : String :=
  match approval.status, approval.resolution with
  | .resolved, some .approved => "approved"
  | .resolved, some .denied => "rejected"
  | status, _ => status.text

section
variable (rendering : Rendering)

def approvalToBrowser (approval : Approval) (id : Id) : Json :=
  .obj [
    ("id", .str (rendering.approvalId id)),
    ("actorId", .str approval.actorId),
    ("reason", .str approval.reason),
    ("status", .str (approvalStatusText approval)),
    ("note", optional approval.note),
    ("requestedAt", .str (rendering.isoformat approval.requestedAt)),
    ("resolvedAt", optional (approval.resolvedAt.map rendering.isoformat)),
    ("resolvedBy", optional approval.resolvedBy),
    ("resolution", optional (approval.resolution.map ApprovalResolution.text))]

def claimToBrowser (assignment : Assignment) : Json :=
  .obj [
    ("actorId", .str assignment.actorId),
    ("workerId", .null),
    ("leaseToken", .str assignment.leaseToken),
    ("claimedAt", .str (rendering.isoformat assignment.claimedAt)),
    ("leaseExpiresAt", .str (rendering.isoformat assignment.leaseExpiresAt))]

def heartbeatToBrowser (heartbeat : Heartbeat) : Json :=
  .obj [
    ("actorId", .str heartbeat.actorId),
    ("phase", .str heartbeat.phase),
    ("summary", optional heartbeat.summary),
    ("commandsRunCount", .int heartbeat.commandsRunCount),
    ("filesReadCount", .int heartbeat.filesReadCount),
    ("filesModifiedCount", .int heartbeat.filesModifiedCount),
    ("testsRunCount", .int heartbeat.testsRunCount),
    ("createdAt", .str (rendering.isoformat heartbeat.createdAt))]

def evidenceToBrowser (evidence : Evidence × Id) : Json :=
  .obj [
    ("id", .str (rendering.evidenceId evidence.2)),
    ("actorId", .str evidence.1.actorId),
    ("kind", .str evidence.1.kind),
    ("summary", .str evidence.1.summary),
    ("payload", evidence.1.payload),
    ("createdAt", .str (rendering.isoformat evidence.1.createdAt))]

/-- `_task_to_browser`. -/
def taskToBrowser (task : Summary) : Json :=
  .obj [
    ("taskId", .str task.id),
    ("machineId", .str task.machineId),
    ("threadId", .str task.threadId),
    ("sourceSurface", .str task.originSurface),
    ("objective", .str task.objective),
    ("status", .str task.status.text),
    ("priority", .str task.priority),
    ("ownerActorId", optional task.ownerActorId),
    ("createdBy", .str task.createdBy),
    ("createdAt", .str (rendering.isoformat task.createdAt)),
    ("updatedAt", .str (rendering.isoformat task.updatedAt)),
    ("currentClaim", (task.currentAssignment.map (claimToBrowser rendering)).getD .null),
    ("latestHeartbeat", (task.latestHeartbeat.map (heartbeatToBrowser rendering)).getD .null),
    ("recentEvidence", .arr (task.recentEvidence.map (evidenceToBrowser rendering))),
    ("latestApproval",
      (task.latestApproval.map fun found => approvalToBrowser rendering found.1 found.2).getD
        .null)]

end

/-! ## The launcher's decoder -/

/-- A value if it is an object, else `None`. -/
def objOrNone (value : Json) : Json := if value.isObj then value else .null

def normalizeClaim (currentClaim : Json) : Json :=
  if currentClaim.truthy then
    .obj [
      ("actor_id", currentClaim.get "actorId"),
      ("lease_token", currentClaim.get "leaseToken"),
      ("claimed_at", currentClaim.get "claimedAt"),
      ("lease_expires_at", currentClaim.get "leaseExpiresAt")]
  else .null

/-- `_normalize_remote_task`.  A task in the shape of the tables stays as it is. -/
def normalizeRemoteTask (task : Json) : Json :=
  if ¬ task.isObj then .obj []
  else if (task.get? "id").isSome ∧ (task.get? "machine_id").isSome then task
  else .obj [
    ("id", task.get "taskId"),
    ("machine_id", task.get "machineId"),
    ("thread_id", task.get "threadId"),
    ("origin_surface", task.get "sourceSurface"),
    ("objective", task.get "objective"),
    ("priority", task.get "priority"),
    ("owner_actor_id", task.get "ownerActorId"),
    ("created_by", task.get "createdBy"),
    ("status", task.get "status"),
    ("success_criteria", .obj []),
    ("current_assignment", normalizeClaim (objOrNone (task.get "currentClaim"))),
    ("latest_approval", objOrNone (task.get "latestApproval")),
    ("latest_heartbeat", objOrNone (task.get "latestHeartbeat")),
    ("recent_evidence",
      if (task.get "recentEvidence").truthy then task.get "recentEvidence" else .arr [])]

/-! ## The runner's context -/

structure ExecutionTaskContext where
  taskId : String
  machineId : String
  threadId : String
  objective : String
  successCriteria : List (String × Json)
  priority : String
  originSurface : String
  ownerActorId : String

section
variable (render : Json → String)

/-- `str(value)`: `render` is `str` of what is not a text. -/
def strOf (value : Json) : String := value.str?.getD (render value)

/-- `str(value or default)`. -/
def strOr (value : Json) (default : String) : String :=
  if value.truthy then strOf render value else default

/-- `dict(value or {})`, where the value is an object or nothing. -/
def dictOf : Json → List (String × Json)
  | .obj fields => fields
  | _ => []

def leaseTokenOf (claim : Json) : String :=
  strOr render ((claim.get "current_assignment").get "lease_token") ""

/-- What `_execute_claimed_task` hands to the runtime. -/
def executionContext (claim : Json) (actorId : String) : Except String ExecutionTaskContext :=
  if leaseTokenOf render claim = "" then
    .error ("Remote task " ++ strOf render (claim.get "id") ++
      " did not return a lease token after claim.")
  else .ok
    { taskId := strOf render (claim.get "id")
      machineId := strOf render (claim.get "machine_id")
      threadId := strOf render (claim.get "thread_id")
      objective := strOf render (claim.get "objective")
      successCriteria := dictOf (claim.get "success_criteria")
      priority := strOr render (claim.get "priority") "normal"
      originSurface := strOr render (claim.get "origin_surface") "browser"
      ownerActorId := strOr render (claim.get "owner_actor_id") actorId }

end

/-! ## Intact tasks -/

/-- A lease as the launcher holds it, its times as texts. -/
def leaseJson (isoformat : Time → String) (assignment : Assignment) : Json :=
  .obj [
    ("actor_id", .str assignment.actorId),
    ("lease_token", .str assignment.leaseToken),
    ("claimed_at", .str (isoformat assignment.claimedAt)),
    ("lease_expires_at", .str (isoformat assignment.leaseExpiresAt))]

/-- The launcher's task is the stored one. -/
structure Restored (isoformat : Time → String) (task : Summary) (decoded : Json) : Prop where
  id : decoded.get "id" = .str task.id
  machineId : decoded.get "machine_id" = .str task.machineId
  threadId : decoded.get "thread_id" = .str task.threadId
  originSurface : decoded.get "origin_surface" = .str task.originSurface
  objective : decoded.get "objective" = .str task.objective
  successCriteria : decoded.get "success_criteria" = task.successCriteria
  priority : decoded.get "priority" = .str task.priority
  status : decoded.get "status" = .str task.status.text
  ownerActorId : decoded.get "owner_actor_id" = optional task.ownerActorId
  currentLease : decoded.get "current_assignment" =
    (task.currentAssignment.map (leaseJson isoformat)).getD .null

structure Carries (task : Summary) (context : ExecutionTaskContext) : Prop where
  taskId : context.taskId = task.id
  machineId : context.machineId = task.machineId
  threadId : context.threadId = task.threadId
  objective : context.objective = task.objective
  successCriteria : .obj context.successCriteria = task.successCriteria
  priority : context.priority = task.priority
  originSurface : context.originSurface = task.originSurface
  ownerActorId : some context.ownerActorId = task.ownerActorId

/-- A stored task reaches the launcher, and the runtime of an executor that runs it. -/
def ReachesIntact (rendering : Rendering) (render : Json → String) (actorId : String)
    (task : Summary) : Prop :=
  Restored rendering.isoformat task (normalizeRemoteTask (taskToBrowser rendering task)) ∧
    ∀ context,
      executionContext render (normalizeRemoteTask (taskToBrowser rendering task)) actorId =
        .ok context → Carries task context

def Summary.leased (task : Summary) : Prop :=
  ∃ assignment, task.currentAssignment = some assignment ∧ assignment.leaseToken ≠ ""

/-- What the runner would put a default for is there: no blank words, and an owner, who may be
blank only for a blank executor. -/
structure Summary.Worded (task : Summary) (actorId : String) : Prop where
  priority : task.priority ≠ ""
  originSurface : task.originSurface ≠ ""
  owned : task.ownerActorId ≠ none
  ownerActorId : task.ownerActorId = some "" → actorId = ""

/-! ## The round trip -/

section
variable (rendering : Rendering) (render : Json → String) (task : Summary) (actorId : String)

theorem strOr_str (text default : String) :
    strOr render (.str text) default = if text = "" then default else text := by
  by_cases hblank : text = "" <;> simp [strOr, strOf, Json.str?, Json.truthy, hblank]

theorem strOr_null (default : String) : strOr render .null default = default := by
  simp [strOr, Json.truthy]

theorem normalizeClaim_claimToBrowser (current : Option Assignment) :
    normalizeClaim (objOrNone ((current.map (claimToBrowser rendering)).getD .null)) =
      (current.map (leaseJson rendering.isoformat)).getD .null := by
  cases current with
  | none => simp [objOrNone, normalizeClaim, Json.isObj, Json.truthy]
  | some =>
      simp [objOrNone, normalizeClaim, claimToBrowser, leaseJson, Json.isObj, Json.truthy,
        Json.get, Json.get?, List.lookup_cons]

theorem get_normalize :
    let decoded := normalizeRemoteTask (taskToBrowser rendering task)
    decoded.get "success_criteria" = .obj [] ∧
      Restored rendering.isoformat { task with successCriteria := .obj [] } decoded := by
  have hbrowser : normalizeRemoteTask (taskToBrowser rendering task) = .obj [
      ("id", .str task.id),
      ("machine_id", .str task.machineId),
      ("thread_id", .str task.threadId),
      ("origin_surface", .str task.originSurface),
      ("objective", .str task.objective),
      ("priority", .str task.priority),
      ("owner_actor_id", optional task.ownerActorId),
      ("created_by", .str task.createdBy),
      ("status", .str task.status.text),
      ("success_criteria", .obj []),
      ("current_assignment",
        (task.currentAssignment.map (leaseJson rendering.isoformat)).getD .null),
      ("latest_approval", objOrNone ((taskToBrowser rendering task).get "latestApproval")),
      ("latest_heartbeat", objOrNone ((taskToBrowser rendering task).get "latestHeartbeat")),
      ("recent_evidence",
        if ((taskToBrowser rendering task).get "recentEvidence").truthy
        then (taskToBrowser rendering task).get "recentEvidence" else .arr [])] := by
    rw [← normalizeClaim_claimToBrowser]
    simp [normalizeRemoteTask, taskToBrowser, Json.isObj, Json.get, Json.get?, List.lookup_cons]
  rw [hbrowser]
  constructor
  · simp [Json.get, Json.get?, List.lookup_cons]
  · constructor <;> simp [Json.get, Json.get?, List.lookup_cons]

end

section
variable {isoformat : Time → String} {render : Json → String} {task : Summary} {decoded : Json}
  {actorId : String}

theorem leaseTokenOf_restored (hrestored : Restored isoformat task decoded) :
    leaseTokenOf render decoded = (task.currentAssignment.map (·.leaseToken)).getD "" := by
  rw [leaseTokenOf, hrestored.currentLease]
  cases task.currentAssignment with
  | none => exact strOr_null render ""
  | some assignment =>
      have htoken : (leaseJson isoformat assignment).get "lease_token" =
          .str assignment.leaseToken := by
        simp [leaseJson, Json.get, Json.get?, List.lookup_cons]
      simp only [Option.map_some, Option.getD_some]
      rw [htoken, strOr_str]
      split
      · next hblank => exact hblank.symm
      · rfl

theorem leased_iff : task.leased ↔ (task.currentAssignment.map (·.leaseToken)).getD "" ≠ "" := by
  cases hcurrent : task.currentAssignment with
  | none => simp [Summary.leased, hcurrent]
  | some => simp [Summary.leased, hcurrent]

theorem executionContext_unleased (hrestored : Restored isoformat task decoded)
    (hunleased : ¬ task.leased) (context : ExecutionTaskContext) :
    executionContext render decoded actorId ≠ .ok context := by
  have hblank : leaseTokenOf render decoded = "" := by
    rw [leaseTokenOf_restored hrestored]
    by_contra htoken
    exact hunleased (leased_iff.2 htoken)
  rw [executionContext, if_pos hblank]
  exact nofun

theorem executionContext_leased (hrestored : Restored isoformat task decoded)
    (hleased : task.leased) :
    executionContext render decoded actorId = .ok
      { taskId := task.id
        machineId := task.machineId
        threadId := task.threadId
        objective := task.objective
        successCriteria := dictOf task.successCriteria
        priority := if task.priority = "" then "normal" else task.priority
        originSurface := if task.originSurface = "" then "browser" else task.originSurface
        ownerActorId := strOr render (optional task.ownerActorId) actorId } := by
  have htoken : leaseTokenOf render decoded ≠ "" := by
    rw [leaseTokenOf_restored hrestored]
    exact leased_iff.1 hleased
  rw [executionContext, if_neg htoken, hrestored.id, hrestored.machineId, hrestored.threadId,
    hrestored.objective, hrestored.successCriteria, hrestored.priority, hrestored.originSurface,
    hrestored.ownerActorId, strOr_str, strOr_str]
  rfl

theorem default_iff {text default : String} (hdefault : default ≠ "") :
    (if text = "" then default else text) = text ↔ text ≠ "" := by
  by_cases hblank : text = "" <;> simp [hblank, hdefault]

theorem owner_iff {owner : Option String} :
    some (strOr render (optional owner) actorId) = owner ↔
      owner ≠ none ∧ (owner = some "" → actorId = "") := by
  cases owner with
  | none => simp [optional]
  | some name =>
      rw [optional, strOr_str]
      by_cases hblank : name = "" <;> simp [hblank]

theorem carries_iff (hrestored : Restored isoformat task decoded)
    (hempty : task.successCriteria = .obj []) :
    (∀ context, executionContext render decoded actorId = .ok context → Carries task context) ↔
      (task.leased → task.Worded actorId) := by
  constructor
  · intro hcarries hleased
    obtain ⟨-, -, -, -, -, hpriority, hsurface, howner⟩ :=
      hcarries _ (executionContext_leased hrestored hleased)
    obtain ⟨howned, hblank⟩ := owner_iff.1 howner
    exact ⟨(default_iff (by decide)).mp hpriority, (default_iff (by decide)).mp hsurface, howned,
      hblank⟩
  · intro hworded context hcontext
    by_cases hleased : task.leased
    · obtain ⟨hpriority, hsurface, howned, hblank⟩ := hworded hleased
      rw [executionContext_leased hrestored hleased] at hcontext
      have hsame := Except.ok.inj hcontext
      rw [← hsame]
      constructor
      case successCriteria => rw [hempty]; rfl
      case priority => exact if_neg hpriority
      case originSurface => exact if_neg hsurface
      case ownerActorId => exact owner_iff.2 ⟨howned, hblank⟩
      all_goals rfl
    · exact absurd hcontext (executionContext_unleased hrestored hleased context)

end

/-- A stored task reaches the executor intact exactly when it has no success criteria, and, where
it is run, no blank word for which the runner has a default. -/
theorem reachesIntact_iff (rendering : Rendering) (render : Json → String) (actorId : String)
    (taskId : Id) (row : Task) :
    ReachesIntact rendering render actorId (toSummary rendering taskId row) ↔
      row.successCriteria = .obj [] ∧
        ((toSummary rendering taskId row).leased →
          (toSummary rendering taskId row).Worded actorId) := by
  obtain ⟨hcriteria, hrestored⟩ := get_normalize rendering (toSummary rendering taskId row)
  have hsame : row.successCriteria = (toSummary rendering taskId row).successCriteria := rfl
  rw [hsame]
  constructor
  · rintro ⟨hrestores, hcarries⟩
    have hempty := hrestores.successCriteria.symm.trans hcriteria
    exact ⟨hempty, (carries_iff hrestores hempty).mp hcarries⟩
  · rintro ⟨hempty, hworded⟩
    rw [← hempty] at hrestored
    exact ⟨hrestored, (carries_iff hrestored hempty).mpr hworded⟩

def testedTask : Task :=
  { machineId := "machine-1"
    threadId := "thread-1"
    originSurface := "chat"
    originMessageId := none
    objective := "Fix the build"
    successCriteria := .obj [("required", .arr [.str "all tests pass"])]
    status := .claimed
    priority := "normal"
    ownerActorId := some "executor-1"
    createdBy := "chat"
    createdAt := 0
    updatedAt := 1
    assignments := [⟨"executor-1", "lease-1", 90, .claimed, 1, none⟩]
    heartbeats := []
    evidenceItems := []
    approvals := []
    notes := [] }

def numbered : Rendering :=
  { taskId := fun id => "task-" ++ toString id
    evidenceId := fun id => "evidence-" ++ toString id
    approvalId := fun id => "approval-" ++ toString id
    isoformat := fun time => toString time }

/-- The launcher loses its criteria. -/
theorem criteria_lost :
    ¬ ReachesIntact numbered (fun _ => "None") "executor-1" (toSummary numbered 0 testedTask) := by
  rintro ⟨hrestored, -⟩
  have hcriteria := (get_normalize numbered (toSummary numbered 0 testedTask)).1
  have hempty := hrestored.successCriteria.symm.trans hcriteria
  simp [toSummary, testedTask] at hempty

end OpsCure.RemoteTask
