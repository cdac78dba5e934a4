/-
Are `completed` and `failed` absorbing?  No operation but `settle_stale_task`
and `claim_next_task` looks at the status of the task it writes, so a run keeps
the terminal statuses exactly when none of its calls reopens a finished task.
-/
import OpsCure.TaskLifecycle

namespace OpsCure.RemoteTask

open Table Presence

def isTerminal (status : TaskStatus) : Bool :=
  status ∈ [TaskStatus.completed, .failed]

def hasStatus (among : TaskStatus → Bool) (task : Id) (db : Db) : Bool :=
  db.tasks[task]?.any fun row => among row.status

/-- The operations that write a non-terminal status without asking for the
present one. -/
def Reopens : Operation → Prop
  | .claimTask _ _ _ | .heartbeatTask _ _ | .requestApproval _ _
  | .interruptTask _ _ => True
  | .resolveApproval _ payload => payload.resolution = .approved
  | _ => False

/-- The call is a reopening operation on a finished task, and the lease,
assignment or approval left over from before lets it through. -/
def Revives (db : Db) (call : Call) : Prop :=
  ∃ task row, call.operation.target db = some task ∧ db.tasks[task]? = some row ∧
    isTerminal row.status ∧ Reopens call.operation ∧ Admitted db task row call

theorem hasStatus_iff {among : TaskStatus → Bool} {task : Id} {db : Db} :
    hasStatus among task db ↔ ∃ row, db.tasks[task]? = some row ∧ among row.status := by
  unfold hasStatus
  cases db.tasks[task]? <;> simp

theorem statusForHeartbeat_not_terminal (payload : HeartbeatRequest) :
    isTerminal (statusForHeartbeat payload) = false := by
  unfold statusForHeartbeat
  dsimp only
  split_ifs <;> rfl

theorem statusAfterEvidence_of_terminal {kind : String} {status : TaskStatus}
    (hterminal : isTerminal status) : statusAfterEvidence kind status = status := by
  cases status <;> simp_all [isTerminal, statusAfterEvidence]

theorem isSettled_of_terminal {status : TaskStatus} (hterminal : isTerminal status) :
    isSettled status := by
  cases status <;> simp_all [isTerminal, isSettled]

/-- The statuses `claim_next_task` picks from are not terminal. -/
theorem target_claimNextTask_not_terminal {db : Db} {machineId drawn : String}
    {payload : ClaimNextRequest} {task : Id} {row : Task}
    (htarget : (Operation.claimNextTask machineId payload drawn).target db = some task)
    (hrow : db.tasks[task]? = some row) : isTerminal row.status = false := by
  simp only [Operation.target, Option.map_eq_some_iff] at htarget
  obtain ⟨⟨found, foundId⟩, hnext, rfl⟩ := htarget
  obtain ⟨hfound, hkeep⟩ := firstBy_selectWhere hnext
  obtain rfl : found = row := by simpa [hfound] using hrow
  simp only [decide_eq_true_eq] at hkeep
  rw [hkeep.2.1]
  rfl

theorem statusAfter_terminal_iff {db : Db} {operation : Operation} {task : Id}
    {row : Task} (htarget : operation.target db = some task)
    (hrow : db.tasks[task]? = some row) (hterminal : isTerminal row.status) :
    isTerminal (operation.statusAfter row.status) ↔ ¬Reopens operation := by
  cases operation with
  | createTask => simp [Operation.target] at htarget
  | claimTask => simp [Operation.statusAfter, Reopens, isTerminal]
  | claimNextTask =>
      simp [target_claimNextTask_not_terminal htarget hrow] at hterminal
  | heartbeatTask =>
      simp [Operation.statusAfter, Reopens, statusForHeartbeat_not_terminal]
  | addEvidence =>
      simp [Operation.statusAfter, Reopens, statusAfterEvidence_of_terminal hterminal,
        hterminal]
  | requestApproval => simp [Operation.statusAfter, Reopens, isTerminal]
  | resolveApproval named payload =>
      cases hresolution : payload.resolution <;>
        simp [Operation.statusAfter, Reopens, statusAfterResolution, hresolution, isTerminal]
  | addNote => simp [Operation.statusAfter, Reopens, hterminal]
  | interruptTask => simp [Operation.statusAfter, Reopens, isTerminal]
  | completeTask => simp [Operation.statusAfter, Reopens, isTerminal]
  | failTask => simp [Operation.statusAfter, Reopens, isTerminal]
  | settleStaleTask =>
      simp [Operation.statusAfter, Reopens, isSettled_of_terminal hterminal, hterminal]

theorem step_keeps_terminal_iff (db : Db) (call : Call) :
    (∀ task, hasStatus isTerminal task db → hasStatus isTerminal task (step db call)) ↔
      ¬Revives db call := by
  constructor
  · rintro hkeeps ⟨task, row, htarget, hrow, hterminal, hreopens, hadmitted⟩
    have hafter := hasStatus_iff.1 (hkeeps task (hasStatus_iff.2 ⟨row, hrow, hterminal⟩))
    rcases step_of_target htarget with ⟨_, hrefused⟩ | ⟨old, new, hwrote, hresult, _⟩
    · exact hrefused ⟨row, hrow, hadmitted⟩
    · obtain rfl : old = row := by simpa [hwrote.read] using hrow
      obtain ⟨found, hfound, hstill⟩ := hafter
      rw [hwrote.wrote, getElem?_update_self hwrote.read] at hfound
      obtain rfl : new = found := by simpa using hfound
      rw [hresult.status] at hstill
      exact (statusAfter_terminal_iff htarget hrow hterminal).mp hstill hreopens
  · intro hrevives task hbefore
    obtain ⟨row, hrow, hterminal⟩ := hasStatus_iff.1 hbefore
    rw [hasStatus_iff]
    cases htarget : call.operation.target db with
    | none => exact ⟨row, step_keeps_of_no_target htarget hrow, hterminal⟩
    | some named =>
        rcases step_of_target htarget with ⟨hsame, _⟩ | ⟨old, new, hwrote, hresult, hadmitted⟩
        · exact ⟨row, by rw [hsame]; exact hrow, hterminal⟩
        · by_cases hnamed : named = task
          · subst hnamed
            obtain rfl : old = row := by simpa [hwrote.read] using hrow
            refine ⟨new, ?_, ?_⟩
            · rw [hwrote.wrote, getElem?_update_self hwrote.read]
            · rw [hresult.status, statusAfter_terminal_iff htarget hrow hterminal]
              intro hreopens
              exact hrevives ⟨named, old, htarget, hrow, hterminal, hreopens, hadmitted⟩
          · refine ⟨row, ?_, hterminal⟩
            rw [hwrote.wrote, getElem?_update_of_ne hnamed]
            exact hrow

/-- Along any run, from any database, under any clocks, actors and tokens: every
finished task stays finished exactly when no call of the run revives one. -/
theorem terminal_absorbing_iff (db : Db) (calls : List Call) :
    (∀ task, Run.Absorbs step (fun db => hasStatus isTerminal task db) db calls) ↔
      Run.Along step (fun db call => ¬Revives db call) db calls := by
  simp only [Run.absorbs_iff_along, ← step_keeps_terminal_iff]
  constructor
  · intro hall done call hcall task
    exact hall task done call hcall
  · intro hall task done call hcall
    exact hall done call hcall task

def completedRun : List Call :=
  [⟨.createTask
      { machineId := "m", threadId := "t", objective := "o", successCriteria := .null
        originSurface := "chat", originMessageId := none, priority := "normal"
        createdBy := "@opener" }, fun _ => 0⟩,
    ⟨.claimTask 0 { actorId := "worker", leaseSeconds := 120 } "token", fun _ => 0⟩,
    ⟨.completeTask 0 { actorId := "worker", leaseToken := "token", summary := none },
      fun _ => 1⟩]

/-- A second claim takes a completed task back to `claimed`: completing it
released the lease, and nothing else stands in the way. -/
theorem claim_reopens_completed_task :
    ¬∀ task, Run.Absorbs step (fun db => hasStatus isTerminal task db) Db.empty
      (completedRun ++
        [⟨.claimTask 0 { actorId := "other", leaseSeconds := 120 } "fresh", fun _ => 2⟩]) := by
  intro habsorbs
  have hstays := habsorbs 0 completedRun _ List.prefix_rfl (by decide)
  exact absurd hstays (by decide)

end OpsCure.RemoteTask
