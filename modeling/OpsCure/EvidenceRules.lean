/-
Evidence before claims: a task that executes or verifies has work on record, one that waits for
an approval has a pending one, and a completed one has its result among the evidence.  Two
operations take the caller's word: a heartbeat may name the phase of an approval nobody asked
for, and a completion may come without a summary.
-/
import OpsCure.TaskLifecycle

namespace OpsCure.RemoteTask

open Fallible Table Presence

/-! ## What is on record -/

def Heartbeat.worked (heartbeat : Heartbeat) : Bool :=
  0 < heartbeat.commandsRunCount ∨ 0 < heartbeat.filesReadCount ∨
    0 < heartbeat.filesModifiedCount ∨ 0 < heartbeat.testsRunCount

def hasWork (row : Task) : Bool :=
  (row.evidenceItems.map Evidence.kind).any (· ∈ workEvidenceKinds) ||
    row.heartbeats.any Heartbeat.worked

def hasResult (row : Task) : Bool := "result" ∈ row.evidenceItems.map Evidence.kind

structure Evidenced (row : Task) : Prop where
  worked : row.status ∈ [TaskStatus.executing, .verifying] → hasWork row
  pending : row.status = .blockedApproval → 0 < pendingCount row
  resulted : row.status = .completed → hasResult row

/-- The status of every task is backed. -/
def AllEvidenced (db : Db) : Prop :=
  ∀ (task : Id) (row : Task), db.tasks[task]? = some row → Evidenced row

/-- The operation, on such a task, claims what nothing on record backs. -/
def Claims (row : Task) : Operation → Prop
  | .heartbeatTask _ payload =>
      statusForHeartbeat payload = .blockedApproval ∧ pendingCount row = 0
  | .completeTask _ payload => ¬ Text.present payload.summary ∧ ¬ hasResult row
  | _ => False

/-- The call goes through and claims what nothing on record backs. -/
def Ungrounded (db : Db) (call : Call) : Prop :=
  ∃ task row, call.operation.target db = some task ∧ db.tasks[task]? = some row ∧
    Claims row call.operation ∧ Admitted db task row call

/-! ## What a call records -/

def Operation.kinds (status : TaskStatus) : Operation → List String
  | .addEvidence _ payload => [payload.kind]
  | .completeTask _ payload => if Text.present payload.summary then ["result"] else []
  | .failTask _ _ => ["error"]
  | .settleStaleTask _ finalStatus _ _ =>
      if isSettled status then [] else [if finalStatus = .completed then "result" else "error"]
  | _ => []

def Operation.beats : Operation → Bool
  | .heartbeatTask _ payload => hasWorkSignal payload
  | _ => false

/-- What a call that goes through adds to the records of its task. -/
structure Recorded (call : Call) (row row' : Task) : Prop where
  kinds : row'.evidenceItems.map Evidence.kind =
    row.evidenceItems.map Evidence.kind ++ call.operation.kinds row.status
  beats : row'.heartbeats.any Heartbeat.worked =
    (row.heartbeats.any Heartbeat.worked || call.operation.beats)

variable {db db' : Db} {task : Id} {row row' : Task} {call : Call} {clock : Clock}

theorem Rewrote.unique {found found' : Task} (hwrote : Rewrote db db' task row row')
    (hother : Rewrote db db' task found found') : row = found ∧ row' = found' := by
  have hrow : row = found := Option.some.inj (hwrote.read.symm.trans hother.read)
  have hafter : update db.tasks task row' = update db.tasks task found' :=
    hwrote.wrote.symm.trans hother.wrote
  have hself : (update db.tasks task row')[task]? = some row' := getElem?_update_self hwrote.read
  rw [hafter, getElem?_update_self hwrote.read] at hself
  exact ⟨hrow, (Option.some.inj hself).symm⟩

theorem recorded_of_kept (hevidence : row'.evidenceItems = row.evidenceItems)
    (hheartbeats : row'.heartbeats = row.heartbeats)
    (hkinds : call.operation.kinds row.status = []) (hbeats : call.operation.beats = false) :
    Recorded call row row' := by
  constructor
  · rw [hevidence, hkinds, List.append_nil]
  · rw [hheartbeats, hbeats, Bool.or_false]

theorem claimTaskInSession_recorded {actorId : String} {leaseSeconds : Int} {drawn : String}
    (hrow : db.tasks[task]? = some row)
    (hclaim : claimTaskInSession db task row actorId leaseSeconds clock drawn = .ok db')
    (hkinds : call.operation.kinds row.status = []) (hbeats : call.operation.beats = false) :
    ∃ row', Rewrote db db' task row row' ∧ Recorded call row row' := by
  unfold claimTaskInSession at hclaim
  simp only [bind_eq_ok, pure_eq_ok] at hclaim
  obtain ⟨_, _, rfl⟩ := hclaim
  exact ⟨_, rewrote_setTask hrow, recorded_of_kept rfl rfl hkinds hbeats⟩

/-- What a call that goes through records on the task it names. -/
theorem perform_recorded (htarget : call.operation.target db = some task)
    (hok : perform db call = .ok db') :
    ∃ row row', Rewrote db db' task row row' ∧ Recorded call row row' := by
  obtain ⟨operation, clock⟩ := call
  cases operation with
  | createTask => simp [Operation.target] at htarget
  | claimTask named =>
      obtain rfl : named = task := Option.some.inj htarget
      simp only [perform, claimTask, bind_eq_ok, requireTask_eq_ok] at hok
      obtain ⟨row, hrow, hclaim⟩ := hok
      exact ⟨row, claimTaskInSession_recorded hrow hclaim rfl rfl⟩
  | claimNextTask =>
      simp only [Operation.target, Option.map_eq_some_iff] at htarget
      obtain ⟨⟨row, found⟩, hnext, rfl⟩ := htarget
      simp only [perform, claimNextTask, hnext] at hok
      exact ⟨row, claimTaskInSession_recorded (firstBy_selectWhere hnext).1 hok rfl rfl⟩
  | heartbeatTask named =>
      obtain rfl : named = task := Option.some.inj htarget
      simp only [perform, heartbeatTask, bind_eq_ok, pure_eq_ok, requireTask_eq_ok] at hok
      obtain ⟨row, hrow, _, _, _, _, _, _, rfl⟩ := hok
      refine ⟨row, _, rewrote_setTask hrow, (List.append_nil _).symm, ?_⟩
      rw [List.any_append]
      exact congrArg _ (Bool.or_false _)
  | addEvidence named =>
      obtain rfl : named = task := Option.some.inj htarget
      simp only [perform, addEvidence, bind_eq_ok, pure_eq_ok, requireTask_eq_ok] at hok
      obtain ⟨row, hrow, rfl⟩ := hok
      exact ⟨row, _, rewrote_setTask hrow, List.map_append, (Bool.or_false _).symm⟩
  | requestApproval named =>
      obtain rfl : named = task := Option.some.inj htarget
      simp only [perform, requestApproval, bind_eq_ok, pure_eq_ok, requireTask_eq_ok] at hok
      obtain ⟨row, hrow, _, _, rfl⟩ := hok
      exact ⟨row, _, rewrote_setTask hrow, recorded_of_kept rfl rfl rfl rfl⟩
  | resolveApproval named =>
      obtain rfl : named = task := Option.some.inj htarget
      simp only [perform, resolveApproval, bind_eq_ok, pure_eq_ok, requireTask_eq_ok] at hok
      obtain ⟨row, hrow, _, _, _, _, rfl⟩ := hok
      exact ⟨row, _, rewrote_setTask hrow, recorded_of_kept rfl rfl rfl rfl⟩
  | addNote named =>
      obtain rfl : named = task := Option.some.inj htarget
      simp only [perform, addNote, bind_eq_ok, pure_eq_ok, requireTask_eq_ok] at hok
      obtain ⟨row, hrow, rfl⟩ := hok
      exact ⟨row, _, rewrote_setTask hrow, recorded_of_kept rfl rfl rfl rfl⟩
  | interruptTask named =>
      obtain rfl : named = task := Option.some.inj htarget
      simp only [perform, interruptTask, bind_eq_ok, pure_eq_ok, requireTask_eq_ok] at hok
      obtain ⟨row, hrow, _, _, _, _, rfl⟩ := hok
      exact ⟨row, _, rewrote_setTask hrow, recorded_of_kept rfl rfl rfl rfl⟩
  | completeTask named =>
      obtain rfl : named = task := Option.some.inj htarget
      simp only [perform, completeTask, bind_eq_ok, pure_eq_ok, requireTask_eq_ok] at hok
      obtain ⟨row, hrow, _, _, _, _, rfl⟩ := hok
      refine ⟨row, _, rewrote_setTask hrow, ?_, (Bool.or_false _).symm⟩
      simp only [releaseAssignment, Operation.kinds]
      split
      · rw [List.map_append, List.map_singleton]
      · rw [List.append_nil]
  | failTask named =>
      obtain rfl : named = task := Option.some.inj htarget
      simp only [perform, failTask, bind_eq_ok, pure_eq_ok, requireTask_eq_ok] at hok
      obtain ⟨row, hrow, _, _, _, _, rfl⟩ := hok
      exact ⟨row, _, rewrote_setTask hrow, List.map_append, (Bool.or_false _).symm⟩
  | settleStaleTask named =>
      obtain rfl : named = task := Option.some.inj htarget
      simp only [perform, settleStaleTask, bind_eq_ok, requireTask_eq_ok] at hok
      obtain ⟨_, _, row, hrow, hok⟩ := hok
      by_cases hdone : isSettled row.status
      · simp only [hdone, if_true, pure_eq_ok] at hok
        subst hok
        exact ⟨row, row, ⟨hrow, (update_self hrow).symm⟩,
          recorded_of_kept rfl rfl (if_pos hdone) rfl⟩
      · simp only [hdone, Bool.false_eq_true, if_false, bind_eq_ok, pure_eq_ok] at hok
        obtain ⟨leases, _, rfl⟩ := hok
        refine ⟨row, _, rewrote_setTask hrow, ?_, (Bool.or_false _).symm⟩
        simp only [Operation.kinds, if_neg hdone]
        exact List.map_append

/-! ## One call -/

theorem hasWork_recorded (hrecorded : Recorded call row row') :
    hasWork row' ↔ hasWork row ∨ call.operation.beats ∨
      ∃ kind ∈ call.operation.kinds row.status, kind ∈ workEvidenceKinds := by
  unfold hasWork
  rw [hrecorded.kinds, hrecorded.beats, List.any_append]
  simp only [Bool.or_eq_true, List.any_eq_true, decide_eq_true_eq]
  grind

theorem hasResult_recorded (hrecorded : Recorded call row row') :
    hasResult row' ↔ hasResult row ∨ "result" ∈ call.operation.kinds row.status := by
  unfold hasResult
  rw [hrecorded.kinds]
  simp only [decide_eq_true_eq, List.mem_append]

theorem statusForHeartbeat_worked (payload : HeartbeatRequest) :
    (statusForHeartbeat payload ∈ [TaskStatus.executing, .verifying] → hasWorkSignal payload) ∧
      statusForHeartbeat payload ≠ .completed := by
  unfold statusForHeartbeat
  dsimp only
  split_ifs with h₁ h₂ h₃ h₄ h₅ h₆ <;> simp_all

theorem evidenced_of_status
    (hstatus : row.status ∈ [TaskStatus.queued, .claimed, .interrupted, .failed]) :
    Evidenced row := by
  have hclaims : row.status ∉ [TaskStatus.executing, .verifying] ∧
      row.status ≠ .blockedApproval ∧ row.status ≠ .completed := by
    revert hstatus
    cases row.status <;> decide
  exact ⟨fun hworks => absurd hworks hclaims.1, fun hblocked => absurd hblocked hclaims.2.1,
    fun hcompleted => absurd hcompleted hclaims.2.2⟩

theorem evidenced_of_work (hstatus : row.status = .executing) (hwork : hasWork row) :
    Evidenced row := by
  refine ⟨fun _ => hwork, ?_, ?_⟩ <;> intro hother <;> rw [hstatus] at hother <;> cases hother

theorem evidenced_of_pending (hstatus : row.status = .blockedApproval)
    (hpending : 0 < pendingCount row) : Evidenced row := by
  refine ⟨?_, fun _ => hpending, ?_⟩ <;> intro hother <;> rw [hstatus] at hother
  · exact absurd hother (by decide)
  · cases hother

theorem evidenced_of_result (hstatus : row.status = .completed) (hresult : hasResult row) :
    Evidenced row := by
  refine ⟨?_, ?_, fun _ => hresult⟩ <;> intro hother <;> rw [hstatus] at hother
  · exact absurd hother (by decide)
  · cases hother

theorem evidenced_of_same_status (hevidenced : Evidenced row) (hrecorded : Recorded call row row')
    (hstatus : row'.status = row.status) (hpending : pendingCount row' = pendingCount row) :
    Evidenced row' := by
  constructor
  · intro hworks
    rw [hstatus] at hworks
    exact (hasWork_recorded hrecorded).mpr (Or.inl (hevidenced.worked hworks))
  · intro hblocked
    rw [hstatus] at hblocked
    rw [hpending]
    exact hevidenced.pending hblocked
  · intro hcompleted
    rw [hstatus] at hcompleted
    exact (hasResult_recorded hrecorded).mpr (Or.inl (hevidenced.resulted hcompleted))

theorem evidenced_heartbeat_iff {payload : HeartbeatRequest}
    (hresult : Result ⟨.heartbeatTask task payload, clock⟩ row row')
    (hrecorded : Recorded ⟨.heartbeatTask task payload, clock⟩ row row') :
    Evidenced row' ↔ ¬ (statusForHeartbeat payload = .blockedApproval ∧ pendingCount row = 0) := by
  obtain ⟨hstatus, hpending⟩ := hresult
  simp only [Operation.statusAfter, Operation.pendingAfter] at hstatus hpending
  obtain ⟨hworks, hends⟩ := statusForHeartbeat_worked payload
  constructor
  · rintro hevidenced ⟨hblocked, hnone⟩
    have hsome := hevidenced.pending (hstatus.trans hblocked)
    omega
  · intro hclaims
    constructor
    · intro hworking
      rw [hstatus] at hworking
      exact (hasWork_recorded hrecorded).mpr (Or.inr (Or.inl (hworks hworking)))
    · intro hblocked
      rw [hstatus] at hblocked
      by_contra hnone
      exact hclaims ⟨hblocked, by omega⟩
    · intro hcompleted
      rw [hstatus] at hcompleted
      exact absurd hcompleted hends

theorem evidenced_complete_iff {payload : CompleteRequest}
    (hresult : Result ⟨.completeTask task payload, clock⟩ row row')
    (hrecorded : Recorded ⟨.completeTask task payload, clock⟩ row row') :
    Evidenced row' ↔ ¬ (¬ Text.present payload.summary ∧ ¬ hasResult row) := by
  have hstatus : row'.status = .completed := hresult.status
  have hkinds := hasResult_recorded hrecorded
  simp only [Operation.kinds] at hkinds
  constructor
  · rintro hevidenced ⟨hsummary, hnone⟩
    rw [if_neg hsummary] at hkinds
    rcases hkinds.mp (hevidenced.resulted hstatus) with hstood | hadded
    · exact hnone hstood
    · cases hadded
  · intro hclaims
    apply evidenced_of_result hstatus
    apply hkinds.mpr
    by_cases hsummary : Text.present payload.summary
    · right
      rw [if_pos hsummary]
      exact List.mem_singleton.mpr rfl
    · left
      by_contra hnone
      exact hclaims ⟨hsummary, hnone⟩

theorem evidenced_addEvidence {payload : EvidenceRequest} (hevidenced : Evidenced row)
    (hresult : Result ⟨.addEvidence task payload, clock⟩ row row')
    (hrecorded : Recorded ⟨.addEvidence task payload, clock⟩ row row') : Evidenced row' := by
  obtain ⟨hstatus, hpending⟩ := hresult
  simp only [Operation.statusAfter, Operation.pendingAfter, statusAfterEvidence] at hstatus hpending
  split at hstatus
  · rename_i hstarts
    apply evidenced_of_work hstatus
    apply (hasWork_recorded hrecorded).mpr
    exact Or.inr (Or.inr ⟨payload.kind, List.mem_singleton.mpr rfl, hstarts.1⟩)
  · exact evidenced_of_same_status hevidenced hrecorded hstatus hpending

theorem evidenced_settle {finalStatus : TaskStatus} {summary : String}
    {payload : List (String × Json)} (hevidenced : Evidenced row) (hfinal : isSettled finalStatus)
    (hresult : Result ⟨.settleStaleTask task finalStatus summary payload, clock⟩ row row')
    (hrecorded : Recorded ⟨.settleStaleTask task finalStatus summary payload, clock⟩ row row') :
    Evidenced row' := by
  obtain ⟨hstatus, hpending⟩ := hresult
  simp only [Operation.statusAfter, Operation.pendingAfter] at hstatus hpending
  by_cases hsettled : isSettled row.status
  · rw [if_pos hsettled] at hstatus
    exact evidenced_of_same_status hevidenced hrecorded hstatus hpending
  · rw [if_neg hsettled] at hstatus
    by_cases hcompleted : finalStatus = .completed
    · apply evidenced_of_result (hstatus.trans hcompleted)
      apply (hasResult_recorded hrecorded).mpr
      right
      simp only [Operation.kinds, if_neg hsettled, if_pos hcompleted, List.mem_singleton]
    · apply evidenced_of_status
      rw [hstatus]
      cases finalStatus <;> simp_all [isSettled]

theorem evidenced_iff (hevidenced : Evidenced row) (hadmitted : Admitted db task row call)
    (hresult : Result call row row') (hrecorded : Recorded call row row') :
    Evidenced row' ↔ ¬ Claims row call.operation := by
  obtain ⟨operation, clock⟩ := call
  cases operation with
  | heartbeatTask => exact evidenced_heartbeat_iff hresult hrecorded
  | completeTask => exact evidenced_complete_iff hresult hrecorded
  | createTask =>
      exact iff_of_true (evidenced_of_same_status hevidenced hrecorded hresult.status
        hresult.pending) not_false
  | addNote =>
      exact iff_of_true (evidenced_of_same_status hevidenced hrecorded hresult.status
        hresult.pending) not_false
  | addEvidence =>
      exact iff_of_true (evidenced_addEvidence hevidenced hresult hrecorded) not_false
  | settleStaleTask =>
      exact iff_of_true (evidenced_settle hevidenced hadmitted hresult hrecorded) not_false
  | requestApproval named payload =>
      have hstatus : row'.status = .blockedApproval := hresult.status
      have hpending : pendingCount row' = pendingCount row + 1 := hresult.pending
      exact iff_of_true (evidenced_of_pending hstatus (by omega)) not_false
  | claimTask =>
      have hstatus : row'.status = .claimed := hresult.status
      exact iff_of_true (evidenced_of_status (by rw [hstatus]; decide)) not_false
  | claimNextTask =>
      have hstatus : row'.status = .claimed := hresult.status
      exact iff_of_true (evidenced_of_status (by rw [hstatus]; decide)) not_false
  | interruptTask =>
      have hstatus : row'.status = .interrupted := hresult.status
      exact iff_of_true (evidenced_of_status (by rw [hstatus]; decide)) not_false
  | failTask =>
      have hstatus : row'.status = .failed := hresult.status
      exact iff_of_true (evidenced_of_status (by rw [hstatus]; decide)) not_false
  | resolveApproval named payload =>
      have hstatus : row'.status = statusAfterResolution payload.resolution := hresult.status
      refine iff_of_true (evidenced_of_status ?_) not_false
      rw [hstatus]
      cases payload.resolution with
      | approved => decide
      | denied => decide

theorem step_evidenced_iff (call : Call) (hall : AllEvidenced db) :
    AllEvidenced (step db call) ↔ ¬ Ungrounded db call := by
  refine step_rows_iff call hall ?_ ?_
  · intro row hqueued _
    apply evidenced_of_status
    rw [hqueued]
    decide
  · intro task row row' htarget hwrote hresult hadmitted
    have hok : ∃ db', perform db call = .ok db' :=
      (perform_isOk_iff htarget).mpr ⟨row, hwrote.read, hadmitted⟩
    obtain ⟨db', hperform⟩ := hok
    have hstep : step db call = db' := by
      unfold step
      rw [hperform, committed_ok]
    rw [hstep] at hwrote
    obtain ⟨found, found', hother, hrecorded⟩ := perform_recorded htarget hperform
    obtain ⟨rfl, rfl⟩ := hwrote.unique hother
    exact evidenced_iff (hall task row hwrote.read) hadmitted hresult hrecorded

/-- In every run of the service from an empty database: every status is backed by what is on
record in every state exactly when no call of the run claims what nothing backs. -/
theorem evidence_before_claims_iff (calls : List Call) :
    Run.Throughout step AllEvidenced Db.empty calls ↔
      Run.Along step (fun db call => ¬ Ungrounded db call) Db.empty calls := by
  refine Run.throughout_iff_along ?_ fun db call hall => step_evidenced_iff call hall
  intro task row hrow
  simp [Db.empty] at hrow

def unevidencedRun : List Call :=
  [⟨.createTask
      { machineId := "m", threadId := "t", objective := "o", successCriteria := .null
        originSurface := "chat", originMessageId := none, priority := "normal"
        createdBy := "@opener" }, fun _ => 0⟩,
    ⟨.claimTask 0 { actorId := "worker", leaseSeconds := 120 } "token", fun _ => 0⟩,
    ⟨.completeTask 0 { actorId := "worker", leaseToken := "token", summary := none },
      fun _ => 1⟩]

theorem completed_without_result :
    ¬ Run.Throughout step AllEvidenced Db.empty unevidencedRun := by
  intro hall
  have hlast := hall unevidencedRun List.prefix_rfl 0 _ rfl
  exact absurd (hlast.resulted (by decide)) (by decide)

end OpsCure.RemoteTask
