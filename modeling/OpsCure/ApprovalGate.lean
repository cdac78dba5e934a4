/-
The approval gate: while an approval of a task is pending, the task should wait
at `blocked_approval` or be stopped, and no second approval should be asked
for.  The gate is a status value that each operation overwrites in its own way;
a run keeps it exactly when no call overrides a pending approval.
-/
import OpsCure.TerminalStatuses

namespace OpsCure.RemoteTask

open Table Presence

/-- The statuses a task may have while an approval of it is pending. -/
def isGated (status : TaskStatus) : Bool :=
  status ∈ [TaskStatus.blockedApproval, .failed, .interrupted]

structure Gated (row : Task) : Prop where
  single : pendingCount row ≤ 1
  gated : 0 < pendingCount row → isGated row.status

def Gate (db : Db) : Prop :=
  ∀ (task : Id) (row : Task), db.tasks[task]? = some row → Gated row

/-- The operations that, on a task with a pending approval, leave the gate or
open a second one. -/
def Overrides (status : TaskStatus) : Operation → Prop
  | .claimTask _ _ _ | .requestApproval _ _ | .completeTask _ _ => True
  | .heartbeatTask _ payload => ¬isGated (statusForHeartbeat payload)
  | .settleStaleTask _ finalStatus _ _ => finalStatus = .completed ∧ ¬isSettled status
  | _ => False

/-- The call goes through on a task with a pending approval and overrides it. -/
def Bypasses (db : Db) (call : Call) : Prop :=
  ∃ task row, call.operation.target db = some task ∧ db.tasks[task]? = some row ∧
    0 < pendingCount row ∧ Overrides row.status call.operation ∧ Admitted db task row call

theorem gated_of_none_pending {row : Task} (hnone : pendingCount row = 0) : Gated row :=
  ⟨by omega, by omega⟩

theorem target_claimNextTask_none_pending {db : Db} {machineId drawn : String}
    {payload : ClaimNextRequest} {task : Id} {row : Task} (hgate : Gated row)
    (htarget : (Operation.claimNextTask machineId payload drawn).target db = some task)
    (hrow : db.tasks[task]? = some row) : pendingCount row = 0 := by
  simp only [Operation.target, Option.map_eq_some_iff] at htarget
  obtain ⟨⟨found, foundId⟩, hnext, rfl⟩ := htarget
  obtain ⟨hfound, hkeep⟩ := firstBy_selectWhere hnext
  obtain rfl : found = row := by simpa [hfound] using hrow
  simp only [decide_eq_true_eq] at hkeep
  by_contra hpending
  have hgated := hgate.gated (Nat.pos_of_ne_zero hpending)
  rw [hkeep.2.1] at hgated
  exact absurd hgated (by decide)

theorem gated_iff_of_same_pending {row row' : Task} (hgate : Gated row)
    (hsame : pendingCount row' = pendingCount row) :
    Gated row' ↔ (0 < pendingCount row → isGated row'.status) := by
  constructor
  · intro hgated hpending
    exact hgated.gated (by omega)
  · intro hstatus
    exact ⟨by rw [hsame]; exact hgate.single, fun hpending => hstatus (by omega)⟩

/-- What a call that goes through does to the gate of its task. -/
theorem result_gated_iff {db : Db} {call : Call} {task : Id} {row row' : Task}
    (hgate : Gated row) (htarget : call.operation.target db = some task)
    (hrow : db.tasks[task]? = some row) (hadmitted : Admitted db task row call)
    (hresult : Result call row row') :
    Gated row' ↔ ¬(0 < pendingCount row ∧ Overrides row.status call.operation) := by
  obtain ⟨operation, clock⟩ := call
  obtain ⟨hstatus, hpending⟩ := hresult
  cases operation with
  | createTask => simp [Operation.target] at htarget
  | requestApproval named payload =>
      simp only [Operation.pendingAfter] at hpending
      simp only [Overrides, and_true, Nat.not_lt, Nat.le_zero]
      constructor
      · intro hgated
        have := hgated.single
        omega
      · intro hnone
        exact ⟨by omega, fun _ => by rw [hstatus]; rfl⟩
  | resolveApproval named payload =>
      simp only [Operation.pendingAfter] at hpending
      have hsingle := hgate.single
      simp only [Overrides, and_false, not_false_eq_true, iff_true]
      exact gated_of_none_pending (by omega)
  | claimNextTask machineId payload drawn =>
      have hnone := target_claimNextTask_none_pending hgate htarget hrow
      simp only [Operation.pendingAfter] at hpending
      simp only [Overrides, and_false, not_false_eq_true, iff_true]
      exact gated_of_none_pending (by omega)
  | claimTask =>
      rw [gated_iff_of_same_pending hgate hpending, hstatus]
      simp [Overrides, Operation.statusAfter, isGated]
  | heartbeatTask =>
      rw [gated_iff_of_same_pending hgate hpending, hstatus]
      simp [Overrides, Operation.statusAfter]
  | addEvidence named payload =>
      rw [gated_iff_of_same_pending hgate hpending, hstatus]
      simp only [Overrides, and_false, not_false_eq_true, iff_true]
      intro hwaiting
      have hgated := hgate.gated hwaiting
      change isGated (statusAfterEvidence payload.kind row.status)
      cases hcurrent : row.status <;> simp_all [isGated, statusAfterEvidence]
  | addNote =>
      rw [gated_iff_of_same_pending hgate hpending, hstatus]
      simpa [Overrides, Operation.statusAfter] using hgate.gated
  | interruptTask =>
      rw [gated_iff_of_same_pending hgate hpending, hstatus]
      simp [Overrides, Operation.statusAfter, isGated]
  | completeTask =>
      rw [gated_iff_of_same_pending hgate hpending, hstatus]
      simp [Overrides, Operation.statusAfter, isGated]
  | failTask =>
      rw [gated_iff_of_same_pending hgate hpending, hstatus]
      simp [Overrides, Operation.statusAfter, isGated]
  | settleStaleTask named finalStatus summary payload =>
      rw [gated_iff_of_same_pending hgate hpending, hstatus]
      have hfinal : isSettled finalStatus = true := hadmitted
      by_cases hsettled : isSettled row.status
      · simpa [Overrides, Operation.statusAfter, hsettled] using hgate.gated
      · simp only [Overrides, Operation.statusAfter, hsettled, not_false_eq_true,
          and_true, Bool.false_eq_true, if_false]
        cases finalStatus <;> simp_all [isGated, isSettled]

theorem step_gate_iff {db : Db} (call : Call) (hgate : Gate db) :
    Gate (step db call) ↔ ¬Bypasses db call := by
  have hrows : Gate (step db call) ↔ ¬ ∃ task row, call.operation.target db = some task ∧
      db.tasks[task]? = some row ∧
        (0 < pendingCount row ∧ Overrides row.status call.operation) ∧
          Admitted db task row call := by
    refine @step_rows_iff db Gated
      (fun row operation => 0 < pendingCount row ∧ Overrides row.status operation) call hgate ?_ ?_
    · intro row _ hnone
      exact gated_of_none_pending (by simp [pendingCount, hnone])
    · intro task row row' htarget hwrote hresult hadmitted
      exact result_gated_iff (hgate task row hwrote.read) htarget hwrote.read hadmitted hresult
  simpa only [Bypasses, and_assoc] using hrows

/-- In every run of the service from an empty database: the gate holds in every
state exactly when no call of the run bypasses a pending approval. -/
theorem approval_gate_iff (calls : List Call) :
    Run.Throughout step Gate Db.empty calls ↔
      Run.Along step (fun db call => ¬Bypasses db call) Db.empty calls := by
  refine Run.throughout_iff_along ?_ fun db call hgate => step_gate_iff call hgate
  intro task row hrow
  simp [Db.empty] at hrow

/-- A worker that asked for an approval and completes without waiting for it. -/
def impatientRun : List Call :=
  [⟨.createTask
      { machineId := "m", threadId := "t", objective := "o", successCriteria := .null
        originSurface := "chat", originMessageId := none, priority := "normal"
        createdBy := "@opener" }, fun _ => 0⟩,
    ⟨.claimTask 0 { actorId := "worker", leaseSeconds := 120 } "token", fun _ => 0⟩,
    ⟨.requestApproval 0
      { actorId := "worker", leaseToken := "token", reason := "delete", note := none },
      fun _ => 1⟩,
    ⟨.completeTask 0 { actorId := "worker", leaseToken := "token", summary := none },
      fun _ => 2⟩]

theorem complete_bypasses_pending_approval :
    ¬Run.Throughout step Gate Db.empty impatientRun := by
  intro hgate
  have hlast := hgate impatientRun List.prefix_rfl 0 _ rfl
  exact absurd (hlast.gated (by decide)) (by decide)

end OpsCure.RemoteTask
