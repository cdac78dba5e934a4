/-
Is finished work recorded?  The executor renews its lease before the execution and after it, and
not while it lasts: an execution that outlives the lease is refused by the bridge, which refuses
the report of the failure too.
-/
import OpsCure.HeldTasks
import OpsCure.TaskExecutor

namespace OpsCure.RemoteExecutor

open Fallible Table Presence RemoteTask Session

/-! ## Finished work -/

/-- The time one heartbeat of the executor keeps its task. -/
def RunnerConfig.lease (config : RunnerConfig) : Time :=
  seconds (validateLeaseSeconds config.leaseSeconds)

/-- `execute_task` returned a summary, and a signal of work. -/
structure Finished (executed : Except Raised (Option ExecutionResult)) (summary : String)
    (activity : TurnActivityEvidence) : Prop where
  returned : executed = .ok (some ⟨summary, some activity⟩)
  summarised : Text.strip summary ≠ ""
  worked : activity.hasWorkSignal

/-- Nobody else operates on the task while the executor works on it. -/
structure LeftAlone (schedule : Schedule) (task : Id) : Prop where
  prepared : ∀ call ∈ schedule.prepared.others, call.operation.named ≠ some task
  evidence : ∀ kind, ∀ call ∈ (schedule.evidence kind).others, call.operation.named ≠ some task
  note : ∀ call ∈ schedule.note.others, call.operation.named ≠ some task
  executed : ∀ call ∈ schedule.executed.others, call.operation.named ≠ some task
  completed : ∀ call ∈ schedule.completed.others, call.operation.named ≠ some task
  failed : ∀ call ∈ schedule.failed.others, call.operation.named ≠ some task

/-- A heartbeat reaches the bridge before the lease it renews is over. -/
def Beats (clock : Clock) (expiry : Time) : Prop :=
  clock 0 < expiry ∧ clock 1 < expiry ∧ clock 2 < expiry

/-- The execution ends within the lease of the first heartbeat, and the completion is reported
within that of the second. -/
structure InTime (config : RunnerConfig) (schedule : Schedule) : Prop where
  executed : Beats schedule.executed.clock (schedule.prepared.clock 2 + config.lease)
  completed : schedule.completed.clock 0 < schedule.executed.clock 2 + config.lease

def CompletedWith (db : Db) (task : Id) (summary : String) : Prop :=
  ∃ row, db.tasks[task]? = some row ∧ row.status = .completed ∧
    ∃ evidence ∈ row.evidenceItems, evidence.kind = "result" ∧ evidence.summary = summary

/-! ## Calls of the executor -/

variable {refuse : TaskError → Raised} {slot : Slot} {operation : Operation} {db after : Db}

theorem exec_bridgeCall_ok
    (hok : RemoteTask.perform (Run.run RemoteTask.step db slot.others) ⟨operation, slot.clock⟩ = .ok after) :
    exec (bridgeCall refuse slot operation) db = (.ok ⟨⟩, after) := by
  rw [bridgeCall, exec_bind, exec_transaction]
  simp only
  rw [exec_transaction, hok]
  rfl

theorem exec_bridgeCall_error {raised : TaskError}
    (hraised : RemoteTask.perform (Run.run RemoteTask.step db slot.others) ⟨operation, slot.clock⟩ = .error raised) :
    exec (bridgeCall refuse slot operation) db =
      (.error (refuse raised), Run.run RemoteTask.step db slot.others) := by
  rw [bridgeCall, exec_bind, exec_transaction]
  simp only
  rw [exec_transaction, hraised]
  rfl

variable {task : Id} {config : RunnerConfig} {schedule : Schedule} {leaseToken summary : String}
  {activity : TurnActivityEvidence} {executed : Except Raised (Option ExecutionResult)}
  {expiry : Time}

theorem exec_heartbeat_of_beats (payload : HeartbeatRequest)
    (hholding : Holding db task config.actorId leaseToken expiry)
    (hnamed : ∀ call ∈ slot.others, call.operation.named ≠ some task)
    (hactor : payload.actorId = config.actorId) (htoken : payload.leaseToken = leaseToken)
    (hlease : payload.leaseSeconds = config.leaseSeconds) (hbeats : Beats slot.clock expiry) :
    ∃ after, exec (bridgeCall refuse slot (.heartbeatTask task payload)) db = (.ok ⟨⟩, after) ∧
      Holding after task config.actorId leaseToken (slot.clock 2 + config.lease) := by
  have hbefore := hholding.run hnamed
  obtain ⟨after, hok⟩ := (hbefore.heartbeat_isOk_iff hactor htoken).mpr hbeats
  refine ⟨after, exec_bridgeCall_ok hok, ?_⟩
  have hafter := hbefore.heartbeat hok
  have hsame : validateLeaseSeconds (validateNonNegative payload.leaseSeconds) =
      validateLeaseSeconds config.leaseSeconds := by
    rw [hlease]
    unfold validateLeaseSeconds validateNonNegative
    omega
  rw [hsame] at hafter
  exact hafter

theorem exec_heartbeat_of_late (payload : HeartbeatRequest)
    (hholding : Holding db task config.actorId leaseToken expiry)
    (hnamed : ∀ call ∈ slot.others, call.operation.named ≠ some task)
    (hactor : payload.actorId = config.actorId) (htoken : payload.leaseToken = leaseToken)
    (hlate : ¬ Beats slot.clock expiry) :
    ∃ raised after, exec (bridgeCall refuse slot (.heartbeatTask task payload)) db =
      (.error raised, after) ∧ Holding after task config.actorId leaseToken expiry := by
  have hbefore := hholding.run hnamed
  cases hperform : RemoteTask.perform (Run.run RemoteTask.step db slot.others)
      ⟨.heartbeatTask task payload, slot.clock⟩ with
  | error raised => exact ⟨refuse raised, _, exec_bridgeCall_error hperform, hbefore⟩
  | ok after => exact absurd ((hbefore.heartbeat_isOk_iff hactor htoken).mp ⟨after, hperform⟩) hlate

theorem exec_evidence (payloads : List EvidenceRequest)
    (hholding : Holding db task config.actorId leaseToken expiry)
    (hnamed : ∀ kind, ∀ call ∈ (schedule.evidence kind).others, call.operation.named ≠ some task) :
    ∃ after, exec (payloads.forM fun payload =>
        bridgeCall refuse (schedule.evidence payload.kind) (.addEvidence task payload)) db =
      (.ok ⟨⟩, after) ∧ Holding after task config.actorId leaseToken expiry := by
  induction payloads generalizing db with
  | nil => exact ⟨db, rfl, hholding⟩
  | cons payload payloads ih =>
      have hbefore := hholding.run (hnamed payload.kind)
      obtain ⟨between, hok, hbetween⟩ :=
        hbefore.addEvidence payload (schedule.evidence payload.kind).clock
      obtain ⟨after, hrest, hafter⟩ := ih hbetween
      refine ⟨after, ?_, hafter⟩
      have hcall : exec (bridgeCall refuse (schedule.evidence payload.kind)
          (.addEvidence task payload)) db = (.ok ⟨⟩, between) := exec_bridgeCall_ok hok
      change exec (bridgeCall refuse _ _ >>= fun _ => payloads.forM _) db = _
      rw [exec_bind, hcall]
      exact hrest

theorem exec_addActivityEvidence (hholding : Holding db task config.actorId leaseToken expiry)
    (halone : LeftAlone schedule task) :
    ∃ after, exec (addActivityEvidence refuse schedule task config.actorId summary activity) db =
      (.ok ⟨⟩, after) ∧ Holding after task config.actorId leaseToken expiry := by
  obtain ⟨between, hevidence, hbetween⟩ := exec_evidence
    (activityEvidence config.actorId activity) hholding halone.evidence
  have hbefore := hbetween.run halone.note
  obtain ⟨after, hok, hafter⟩ := hbefore.addNote ⟨config.actorId, "summary", summary⟩
    schedule.note.clock
  refine ⟨after, ?_, hafter⟩
  rw [addActivityEvidence, exec_bind, hevidence]
  exact exec_bridgeCall_ok hok

theorem exec_complete_of_in_time (hholding : Holding db task config.actorId leaseToken expiry)
    (hnamed : ∀ call ∈ slot.others, call.operation.named ≠ some task)
    (hsummary : summary ≠ "") (htime : slot.clock 0 < expiry) :
    ∃ after, exec (bridgeCall refuse slot
        (.completeTask task ⟨config.actorId, leaseToken, some summary⟩)) db = (.ok ⟨⟩, after) ∧
      CompletedWith after task summary := by
  have hbefore := hholding.run hnamed
  obtain ⟨after, hok⟩ := (hbefore.complete_isOk_iff (some summary) slot.clock).mpr htime
  refine ⟨after, exec_bridgeCall_ok hok, ?_⟩
  have hpresent : Text.present (some summary) := decide_eq_true hsummary
  simp only [completeTask, bind_eq_ok, pure_eq_ok, requireTask_eq_ok, hpresent, if_true] at hok
  obtain ⟨row, hrow, _, _, _, _, rfl⟩ := hok
  refine ⟨_, getElem?_update_self hrow, rfl, _, List.mem_concat_self, rfl, rfl⟩

theorem exec_complete_of_late (hholding : Holding db task config.actorId leaseToken expiry)
    (hnamed : ∀ call ∈ slot.others, call.operation.named ≠ some task)
    (hlate : ¬ slot.clock 0 < expiry) :
    ∃ raised after, exec (bridgeCall refuse slot
        (.completeTask task ⟨config.actorId, leaseToken, some summary⟩)) db =
      (.error raised, after) ∧ Holding after task config.actorId leaseToken expiry := by
  have hbefore := hholding.run hnamed
  cases hperform : RemoteTask.perform (Run.run RemoteTask.step db slot.others)
      ⟨.completeTask task ⟨config.actorId, leaseToken, some summary⟩, slot.clock⟩ with
  | error raised => exact ⟨refuse raised, _, exec_bridgeCall_error hperform, hbefore⟩
  | ok after =>
      exact absurd ((hbefore.complete_isOk_iff (some summary) slot.clock).mp ⟨after, hperform⟩)
        hlate

theorem not_completed_of_failing (hholding : Holding db task config.actorId leaseToken expiry)
    (hnamed : ∀ call ∈ slot.others, call.operation.named ≠ some task) (payload : FailRequest)
    (summary : String) :
    ¬ CompletedWith (exec (attempt (bridgeCall refuse slot (.failTask task payload))) db).2 task
      summary := by
  have hbefore := hholding.run hnamed
  rw [exec_attempt]
  rintro ⟨row, hrow, hcompleted, _⟩
  cases hperform : RemoteTask.perform (Run.run RemoteTask.step db slot.others) ⟨.failTask task payload, slot.clock⟩ with
  | error =>
      rw [exec_bridgeCall_error hperform] at hrow
      obtain ⟨found, _, hfound, _, hopen, _⟩ := hbefore.assigned
      obtain rfl : row = found := Option.some.inj (hrow.symm.trans hfound)
      exact hopen hcompleted
  | ok after =>
      rw [exec_bridgeCall_ok hperform] at hrow
      obtain ⟨before, failed, hwrote, hfailed, _⟩ := failTask_rewrote hperform
      have hfound : after.tasks[task]? = some failed := by
        rw [hwrote.wrote]
        exact getElem?_update_self hwrote.read
      obtain rfl : row = failed := Option.some.inj (hrow.symm.trans hfound)
      rw [hcompleted] at hfailed
      cases hfailed

/-! ## One cycle -/

theorem requireWork_of_finished (hfinished : Finished executed summary activity) :
    requireWork executed = .ok (summary, activity) := by
  have hsummarised : (Option.some (ExecutionResult.mk summary (some activity))).filter
      (fun result => Text.strip result.summary ≠ "") = some ⟨summary, some activity⟩ :=
    Option.filter_eq_some_iff.mpr ⟨rfl, decide_eq_true hfinished.summarised⟩
  have hworked : (some activity).filter TurnActivityEvidence.hasWorkSignal = some activity :=
    Option.filter_eq_some_iff.mpr ⟨rfl, hfinished.worked⟩
  simp only [requireWork, hfinished.returned, bind_eq_ok, orRaise_eq_ok, pure_eq_ok]
  exact ⟨_, rfl, _, hsummarised, _, hworked, rfl⟩

section Cycle

variable (refuse)

theorem workOn_of_in_time (hholding : Holding db task config.actorId leaseToken expiry)
    (halone : LeftAlone schedule task) (hstarted : Beats schedule.prepared.clock expiry)
    (hfinished : Finished executed summary activity) (htime : InTime config schedule) :
    ∃ after, exec (workOn refuse config schedule task leaseToken executed) db = (.ok ⟨⟩, after) ∧
      CompletedWith after task summary := by
  have hsummary : summary ≠ "" := by
    rintro rfl
    exact hfinished.summarised (by decide)
  obtain ⟨prepared, hprepared, hpreparing⟩ := exec_heartbeat_of_beats
    (preparedHeartbeat config leaseToken) hholding halone.prepared rfl rfl rfl hstarted
  obtain ⟨noted, hnoted, hnoting⟩ := exec_addActivityEvidence hpreparing halone
  obtain ⟨beaten, hbeaten, hbeating⟩ := exec_heartbeat_of_beats
    (executedHeartbeat config leaseToken summary activity) hnoting halone.executed
    rfl rfl rfl htime.executed
  obtain ⟨after, hcompleted, hrecorded⟩ := exec_complete_of_in_time hbeating halone.completed
    hsummary htime.completed
  refine ⟨after, ?_, hrecorded⟩
  rw [workOn, exec_bind, hprepared]
  simp only
  rw [exec_bind, exec_query, requireWork_of_finished hfinished]
  simp only
  rw [exec_bind, hnoted]
  simp only
  rw [exec_bind, hbeaten]
  exact hcompleted

theorem workOn_of_late (hholding : Holding db task config.actorId leaseToken expiry)
    (halone : LeftAlone schedule task) (hstarted : Beats schedule.prepared.clock expiry)
    (hfinished : Finished executed summary activity) (hlate : ¬ InTime config schedule) :
    ∃ raised after expiry, exec (workOn refuse config schedule task leaseToken executed) db =
      (.error raised, after) ∧ Holding after task config.actorId leaseToken expiry := by
  obtain ⟨prepared, hprepared, hpreparing⟩ := exec_heartbeat_of_beats
    (preparedHeartbeat config leaseToken) hholding halone.prepared rfl rfl rfl hstarted
  obtain ⟨noted, hnoted, hnoting⟩ := exec_addActivityEvidence hpreparing halone
  have hsteps : exec (workOn refuse config schedule task leaseToken executed) db =
      exec (bridgeCall refuse schedule.executed (.heartbeatTask task
          (executedHeartbeat config leaseToken summary activity)) >>= fun _ =>
        bridgeCall refuse schedule.completed
          (.completeTask task ⟨config.actorId, leaseToken, some summary⟩)) noted := by
    rw [workOn, exec_bind, hprepared]
    simp only
    rw [exec_bind, exec_query, requireWork_of_finished hfinished]
    simp only
    rw [exec_bind, hnoted]
  rw [hsteps, exec_bind]
  by_cases hbeats : Beats schedule.executed.clock (schedule.prepared.clock 2 + config.lease)
  · obtain ⟨beaten, hbeaten, hbeating⟩ := exec_heartbeat_of_beats
      (executedHeartbeat config leaseToken summary activity) hnoting halone.executed
      rfl rfl rfl hbeats
    have hover : ¬ schedule.completed.clock 0 < schedule.executed.clock 2 + config.lease :=
      fun hcompleted => hlate ⟨hbeats, hcompleted⟩
    obtain ⟨raised, after, hrefused, hstill⟩ :=
      exec_complete_of_late hbeating halone.completed hover
    rw [hbeaten]
    exact ⟨raised, after, _, hrefused, hstill⟩
  · obtain ⟨raised, after, hrefused, hstill⟩ := exec_heartbeat_of_late
      (executedHeartbeat config leaseToken summary activity) hnoting halone.executed
      rfl rfl hbeats
    rw [hrefused]
    exact ⟨raised, after, _, rfl, hstill⟩

theorem exec_executeClaimedTask :
    exec (executeClaimedTask refuse config schedule task leaseToken executed) db =
      match exec (workOn refuse config schedule task leaseToken executed) db with
      | (.ok _, after) => (.ok true, after)
      | (.error raised, after) =>
          (.ok false, (exec (attempt (bridgeCall refuse schedule.failed (.failTask task
            ⟨config.actorId, leaseToken, raised.errorText⟩))) after).2) := rfl

theorem executeClaimedTask_recorded_iff
    (hholding : Holding db task config.actorId leaseToken expiry)
    (halone : LeftAlone schedule task) (hstarted : Beats schedule.prepared.clock expiry)
    (hfinished : Finished executed summary activity) :
    CompletedWith (exec (executeClaimedTask refuse config schedule task leaseToken executed) db).2
      task summary ↔ InTime config schedule := by
  constructor
  · intro hrecorded
    by_contra hlate
    obtain ⟨raised, after, expiry, hraised, hstill⟩ :=
      workOn_of_late refuse hholding halone hstarted hfinished hlate
    rw [exec_executeClaimedTask, hraised] at hrecorded
    exact not_completed_of_failing hstill halone.failed _ summary hrecorded
  · intro htime
    obtain ⟨after, hdone, hrecorded⟩ :=
      workOn_of_in_time refuse hholding halone hstarted hfinished htime
    rw [exec_executeClaimedTask, hdone]
    exact hrecorded

end Cycle

/-! ## Finished work is recorded -/

/-- The bridge when the executor's claim reaches it. -/
abbrev beforeClaim (history : List Call) (schedule : Schedule) : Db :=
  Run.run RemoteTask.step .empty (history ++ schedule.claim.others)

theorem exec_claimAndExecute (refuse : TaskError → Raised) {history : List Call} {row : Task}
    {drawn : String} (hdrawn : drawn ≠ "")
    (hclaimed : nextQueuedTask (beforeClaim history schedule) config.machineId
      (claimRequest config) = some (row, task))
    (executed : Except Raised (Option ExecutionResult)) :
    ∃ db, Holding db task config.actorId drawn (schedule.claim.clock 1 + config.lease) ∧
      exec (claimAndExecute refuse config schedule drawn executed)
          (Run.run RemoteTask.step .empty history) =
        exec (executeClaimedTask refuse config schedule task drawn executed) db := by
  obtain ⟨hrow, hpicked⟩ := firstBy_selectWhere hclaimed
  have hqueued := (of_decide_eq_true hpicked).2.1
  have hfresh := queuedFresh_run (history ++ schedule.claim.others)
  obtain ⟨db, hok, hholding⟩ := hfresh.claim hrow hqueued config.actorId
    (validateLeaseSeconds config.leaseSeconds) schedule.claim.clock drawn
  have hsame : validateLeaseSeconds (validateLeaseSeconds config.leaseSeconds) =
      validateLeaseSeconds config.leaseSeconds := by
    unfold validateLeaseSeconds
    omega
  rw [hsame] at hholding
  refine ⟨db, hholding, ?_⟩
  have hgranted : claimNextTask (beforeClaim history schedule) config.machineId
      (claimRequest config) schedule.claim.clock drawn = .ok db := by
    rw [claimNextTask, hclaimed]
    exact hok
  have htoken : ((db.tasks[task]?).bind currentAssignment).map (fun held => held.1.leaseToken) =
      some drawn := by
    obtain ⟨found, assignment, hfound, _, _, hassignments, hassigned⟩ := hholding.assigned
    rw [hfound, Option.bind_some, currentAssignment_singleton hassignments hassigned,
      Option.map_some, hassigned.token]
  have hclaim : exec (claimNextRemoteTask refuse config schedule.claim drawn)
      (Run.run RemoteTask.step .empty history) = (.ok (some (task, drawn)), db) := by
    rw [claimNextRemoteTask, exec_bind, exec_transaction]
    simp only
    rw [exec_transaction, ← Run.run_append]
    simp only [hclaimed, hgranted, Except.mapError, Except.map, htoken, Option.getD_some]
  rw [claimAndExecute, exec_bind, hclaim]
  simp only
  rw [if_neg hdrawn]

/-- Finished work is put on record exactly when the execution and its report are in time. -/
theorem finished_work_recorded_iff (refuse : TaskError → Raised) (history : List Call)
    (config : RunnerConfig) (schedule : Schedule) (drawn : String) (row : Task) (task : Id)
    (executed : Except Raised (Option ExecutionResult)) (summary : String)
    (activity : TurnActivityEvidence) (hdrawn : drawn ≠ "")
    (hclaimed : nextQueuedTask (beforeClaim history schedule) config.machineId
      (claimRequest config) = some (row, task))
    (halone : LeftAlone schedule task)
    (hstarted : Beats schedule.prepared.clock (schedule.claim.clock 1 + config.lease))
    (hfinished : Finished executed summary activity) :
    CompletedWith (exec (claimAndExecute refuse config schedule drawn executed)
      (Run.run RemoteTask.step .empty history)).2 task summary ↔ InTime config schedule := by
  obtain ⟨db, hholding, hcycle⟩ := exec_claimAndExecute refuse hdrawn hclaimed executed
  rw [hcycle]
  exact executeClaimedTask_recorded_iff refuse hholding halone hstarted hfinished

def oneTask : List Call :=
  [⟨.createTask ⟨"m", "t", "tidy up", .obj [], "discord", none, "normal", "op"⟩, fun _ => 0⟩]

/-- A cycle of an executor that nobody disturbs, whose execution takes so many seconds. -/
def lonely (took : Int) : Schedule where
  claim := ⟨[], fun _ => 0⟩
  prepared := ⟨[], fun _ => seconds 1⟩
  evidence := fun _ => ⟨[], fun _ => seconds (1 + took)⟩
  note := ⟨[], fun _ => seconds (1 + took)⟩
  executed := ⟨[], fun _ => seconds (1 + took)⟩
  completed := ⟨[], fun _ => seconds (1 + took)⟩
  failed := ⟨[], fun _ => seconds (1 + took)⟩

def laptop : RunnerConfig := ⟨"m", "agent", 90⟩

def tidied : TurnActivityEvidence := ⟨["commandExecution"], 1, 0, 1, 0, 0⟩

def refused (error : TaskError) : Raised := ⟨"HTTPStatusError", error.text⟩

theorem lonely_leftAlone (took : Int) (task : Id) : LeftAlone (lonely took) task := by
  constructor <;> simp [lonely]

/-- A turn of eighty seconds is put on record. -/
theorem short_turn_recorded :
    CompletedWith (exec (claimAndExecute refused laptop (lonely 80) "token"
      (.ok (some ⟨"Tidied.", some tidied⟩))) (Run.run RemoteTask.step .empty oneTask)).2 0
      "Tidied." ↔ InTime laptop (lonely 80) :=
  finished_work_recorded_iff refused oneTask laptop (lonely 80) "token" _ 0 _ "Tidied." tidied
    (by decide) (by rfl) (lonely_leftAlone 80 0) ⟨by decide, by decide, by decide⟩
    ⟨rfl, by decide, by decide⟩

/-- A turn of a hundred seconds outlives the lease, and its task is left executing. -/
theorem long_turn_unrecorded :
    ¬ ∀ (refuse : TaskError → Raised) (history : List Call) (config : RunnerConfig)
      (schedule : Schedule) (drawn : String) (row : Task) (task : Id)
      (executed : Except Raised (Option ExecutionResult)) (summary : String)
      (activity : TurnActivityEvidence), drawn ≠ "" →
      nextQueuedTask (beforeClaim history schedule) config.machineId (claimRequest config) =
        some (row, task) →
      LeftAlone schedule task →
      Beats schedule.prepared.clock (schedule.claim.clock 1 + config.lease) →
      Finished executed summary activity →
      CompletedWith (exec (claimAndExecute refuse config schedule drawn executed)
        (Run.run RemoteTask.step .empty history)).2 task summary := by
  intro hclaim
  have hrecorded := hclaim refused oneTask laptop (lonely 100) "token" _ 0
    (.ok (some ⟨"Tidied.", some tidied⟩)) "Tidied." tidied (by decide) (by rfl)
    (lonely_leftAlone 100 0) ⟨by decide, by decide, by decide⟩ ⟨rfl, by decide, by decide⟩
  have hexecuting : ((exec (claimAndExecute refused laptop (lonely 100) "token"
      (.ok (some ⟨"Tidied.", some tidied⟩))) (Run.run RemoteTask.step .empty oneTask)).2.tasks[0]?).map
      Task.status = some .executing := by decide +kernel
  obtain ⟨row, hrow, hcompleted, _⟩ := hrecorded
  rw [hrow, Option.map_some, hcompleted] at hexecuting
  cases hexecuting

end OpsCure.RemoteExecutor
