/-
Do a command and its remote task move together?  A request creates both; a claim and a report
commit the command first, and the task's own guards may refuse the second half.
-/
import OpsCure.ThreadGuards

namespace OpsCure.RemoteCodex

open Fallible Table RemoteCommand Run

/-! ## What is to hold -/

def Unchanged (service after : Service) : Prop :=
  after.commands.queue.commands = service.commands.queue.commands ∧ after.tasks = service.tasks

def TaskIs (tasks : RemoteTask.Db) (name : String) (status : RemoteTask.TaskStatus) : Prop :=
  ∃ task row, taskNamed tasks name = some task ∧ tasks.tasks[task]? = some row ∧
    row.status = status

structure CreatedBoth (service after : Service) (task command : Id) : Prop where
  newTask : service.tasks.tasks[task]? = none
  newCommand : service.commands.queue.commands[command]? = none
  queuedTask : ∃ row, after.tasks.tasks[task]? = some row ∧ row.status = .queued
  queuedCommand : ∃ row, after.commands.get command = some row ∧ row.status = .queued ∧
    row.address.taskId = some (taskName task)

def Report.commandStatus (report : Report) : CommandStatus :=
  if report.completes then .completed else .failed

def Report.taskStatus (report : Report) : RemoteTask.TaskStatus :=
  if report.completes then .completed else .failed

/-- A request creates a command and its task, or raises with neither moved. -/
def CreatesTogether (service : Service) (outcome : Outcome) : Prop :=
  match outcome.2 with
  | .ok answer => ∃ task command, answer = .enqueued (some task) command ∧
      CreatedBoth service outcome.1 task command
  | .error _ => Unchanged service outcome.1

/-- A claim moves a command and its task and returns the command, or moves neither. -/
def ClaimsTogether (service : Service) (outcome : Outcome) : Prop :=
  match outcome.2 with
  | .ok answer =>
      (answer = .claimed none ∧ Unchanged service outcome.1) ∨
        ∃ row command, answer = .claimed (some (row, command)) ∧
          (∃ old, service.commands.get command = some old ∧ old.status = .queued) ∧
          outcome.1.commands.get command = some row ∧ row.status = .running ∧
          ∀ name ∈ row.address.taskId, TaskIs outcome.1.tasks name .claimed
  | .error _ => Unchanged service outcome.1

/-- A report settles a command and its task alike, or raises with neither moved. -/
def SettlesTogether (service : Service) (report : Report) (outcome : Outcome) : Prop :=
  match outcome.2 with
  | .ok _ => ∃ row, outcome.1.commands.get report.commandId = some row ∧
      row.status = report.commandStatus ∧
      ∀ name ∈ row.address.taskId, TaskIs outcome.1.tasks name report.taskStatus
  | .error _ => Unchanged service outcome.1

/-- The call returns with the command and its task moved alike, or raises with neither moved. -/
def Together (render : Json → String) (service : Service) (call : Call) : Prop :=
  let outcome := perform render service call
  match call.operation with
  | .enqueueTurn _ | .enqueueInterrupt _ => CreatesTogether service outcome
  | .claimNextCommand _ _ _ => ClaimsTogether service outcome
  | .recordCommandResult report => SettlesTogether service report outcome
  | _ => True

/-! ## When it holds -/

/-- The lease of the command's task is free, or the machine's own. -/
def ClaimPaired (service : Service) (machineId : String) (clock : Clock) : Prop :=
  ∀ row command, nextQueued service.commands.queue machineId = some (row, command) →
    ∀ name ∈ row.address.taskId, ∃ task, taskNamed service.tasks name = some task ∧
      ¬ Presence.HeldByOther service.tasks.leases RemoteTask.remoteTaskResourceKind task machineId
        (laterReadings clock 2)

def reportedRow (render : Json → String) (report : Report) (row : Command Address) (now : Time) :
    Command Address :=
  if report.completes then completedRow render row report.workerId (asJson report.result) now
  else failedRow row report.workerId (asJson report.error) now

def LeavesTask (render : Json → String) (service : Service) (report : Report)
    (row : Command Address) (name : String) : Prop :=
  ∀ settle, settlement render report row = some settle →
    ∃ task, taskNamed service.tasks name = some task ∧ currentAssignment service.tasks task = none

def SettlementAdmitted (render : Json → String) (service : Service) (report : Report)
    (row : Command Address) (name : String) (clock : Clock) : Prop :=
  ∃ settle task found assignment, settlement render report row = some settle ∧
    taskNamed service.tasks name = some task ∧ service.tasks.tasks[task]? = some found ∧
    currentAssignment service.tasks task = some assignment ∧
    RemoteTask.Admitted service.tasks task found
      ⟨settle task assignment.leaseToken, laterReadings clock⟩

/-- A task that the report leaves alone has ended as the report says; one that it settles may be
settled, or the report says again, at the same instant, what its command has on record. -/
structure SettlementPaired (render : Json → String) (service : Service) (report : Report)
    (row : Command Address) (name : String) (clock : Clock) : Prop where
  left : LeavesTask render service report row name →
    TaskIs service.tasks name report.taskStatus
  settled : ¬ LeavesTask render service report row name →
    SettlementAdmitted render service report row name clock ∨
      reportedRow render report row (clock 0) = row

def ReportPaired (render : Json → String) (service : Service) (report : Report)
    (clock : Clock) : Prop :=
  ∀ row, service.commands.get report.commandId = some row → ∀ name ∈ row.address.taskId,
    SettlementPaired render service report row name clock

/-- The second half of the call will go through. -/
def Paired (render : Json → String) (service : Service) (call : Call) : Prop :=
  match call.operation with
  | .claimNextCommand machineId _ _ => ClaimPaired service machineId call.clock
  | .recordCommandResult report => ReportPaired render service report call.clock
  | _ => True

section Pairs

variable {render : Json → String} {service : Service} {clock : Clock}

/-! ## Creation -/

theorem createdBoth_enqueueWithTask (render : Json → String) (service : Service)
    (addressee : Addressee) (commandType objective : String) (successCriteria : List Json)
    (createdBy : String) (requestedBy : List (String × Json)) (prompt turnId : Option String)
    (clock : Clock) :
    CreatedBoth service
      (enqueueWithTask render service addressee commandType objective successCriteria createdBy
        requestedBy prompt turnId clock).1
      service.tasks.tasks.length service.commands.queue.commands.length where
  newTask := List.getElem?_eq_none (Nat.le_refl _)
  newCommand := List.getElem?_eq_none (Nat.le_refl _)
  queuedTask := ⟨_, List.getElem?_concat_length, rfl⟩
  queuedCommand := ⟨_, get_enqueueCommand.2 (Or.inr ⟨rfl, rfl⟩), rfl, rfl⟩

theorem together_enqueueTurn (request : TurnRequest) :
    CreatesTogether service (enqueueTurn render service request clock) := by
  simp only [enqueueTurn]
  cases requireTurn request.addressee
      (buildBrowserTurnPrompt request.prompt request.attachments) with
  | error => exact ⟨rfl, rfl⟩
  | ok => exact ⟨_, _, rfl, createdBoth_enqueueWithTask ..⟩

theorem interruptedTurnId_queue (render : Json → String) (tasks : RemoteTask.Db)
    (table : CommandTable) (request : InterruptRequest) (now : Time) :
    (interruptedTurnId render tasks table request now).1.queue = table.queue := by
  unfold interruptedTurnId
  dsimp only
  split <;> rfl

variable {task command : Id} {row : Command Address} {table after : CommandTable} {report : Report}
  {now : Time} {name : String}

theorem CreatedBoth.of_queue {between : CommandTable} {after : Service}
    (hqueue : between.queue = service.commands.queue)
    (hcreated : CreatedBoth { service with commands := between } after task command) :
    CreatedBoth service after task command where
  newTask := hcreated.newTask
  newCommand := by
    rw [← hqueue]
    exact hcreated.newCommand
  queuedTask := hcreated.queuedTask
  queuedCommand := hcreated.queuedCommand

theorem together_enqueueInterrupt (request : InterruptRequest) :
    CreatesTogether service (enqueueInterrupt render service request clock) := by
  simp only [enqueueInterrupt]
  cases requireLiveThread request.addressee with
  | error => exact ⟨rfl, rfl⟩
  | ok =>
      let pruned := service.commands.prune render service.tasks request.addressee.machineId
        request.addressee.threadId (clock 0)
      have hqueue : (interruptedTurnId render service.tasks pruned request (clock 1)).1.queue =
          service.commands.queue := interruptedTurnId_queue render service.tasks pruned request _
      cases (getActiveThreadCommand render service.tasks service.commands
          request.addressee.machineId request.addressee.threadId (some turnInterrupt)
          (clock 0)).2 with
      | some => exact ⟨rfl, rfl⟩
      | none =>
          cases hturn : (interruptedTurnId render service.tasks
              (getActiveThreadCommand render service.tasks service.commands
                request.addressee.machineId request.addressee.threadId (some turnInterrupt)
                (clock 0)).1 request (clock 1)).2 with
          | none => exact ⟨congrArg Queue.commands hqueue, rfl⟩
          | some turnId =>
              have hcreated := createdBoth_enqueueWithTask render
                { service with commands :=
                    (interruptedTurnId render service.tasks pruned request (clock 1)).1 }
                request.addressee turnInterrupt s!"Interrupt turn {turnId}"
                [.str "interrupt task", .str "command result"]
                (createdBy render request.requestedBy) request.requestedBy none (some turnId)
                (laterReadings clock)
              exact ⟨_, _, rfl, hcreated.of_queue hqueue⟩

/-! ## The second half of a call -/

theorem callTask_of_admitted (service : Service) (clock : Clock)
    {operation : RemoteTask.Operation} {row : RemoteTask.Task}
    (htarget : operation.target service.tasks = some task)
    (hrow : service.tasks.tasks[task]? = some row)
    (hadmitted : RemoteTask.Admitted service.tasks task row ⟨operation, clock⟩) :
    (callTask service operation clock).2 = .ok ⟨⟩ ∧
      (callTask service operation clock).1.commands = service.commands ∧
      ∀ name, taskNamed service.tasks name = some task →
        TaskIs (callTask service operation clock).1.tasks name
          (operation.statusAfter row.status) := by
  obtain ⟨after, hok⟩ := (@RemoteTask.perform_isOk_iff service.tasks ⟨operation, clock⟩ task htarget).mpr
    ⟨row, hrow, hadmitted⟩
  obtain ⟨found, written, hwrote, hresult⟩ := RemoteTask.perform_rewrote htarget hok
  have hsame : found = row := Option.some.inj (hwrote.read.symm.trans hrow)
  subst hsame
  have hcalled : callTask service operation clock = ({ service with tasks := after }, .ok ⟨⟩) := by
    rw [callTask, hok]
  rw [hcalled]
  refine ⟨rfl, rfl, ?_⟩
  intro name hnamed
  refine ⟨task, written, ?_, ?_, hresult.status⟩
  · have hlength : after.tasks.length = service.tasks.tasks.length := by
      rw [hwrote.wrote, update, List.length_set]
    rw [taskNamed_congr hlength, hnamed]
  · have hself : (update service.tasks.tasks task written)[task]? = some written :=
      getElem?_update_self hrow
    rw [← hwrote.wrote] at hself
    exact hself

theorem callTask_of_refused (service : Service) (clock : Clock) {operation : RemoteTask.Operation}
    (htarget : operation.target service.tasks = some task)
    (hrefused : ¬ ∃ row, service.tasks.tasks[task]? = some row ∧
      RemoteTask.Admitted service.tasks task row ⟨operation, clock⟩) :
    ∃ raised, callTask service operation clock = (service, .error raised) := by
  unfold callTask
  cases hperform : RemoteTask.perform service.tasks ⟨operation, clock⟩ with
  | error raised => exact ⟨.task raised, rfl⟩
  | ok after =>
      exact absurd ((@RemoteTask.perform_isOk_iff service.tasks ⟨operation, clock⟩ task htarget).mp
        ⟨after, hperform⟩) hrefused

theorem commands_update_iff {commands : List (Command Address)} {written : Command Address}
    (hrow : commands[command]? = some row) :
    update commands command written = commands ↔ written = row := by
  constructor
  · intro hsame
    have hself : (update commands command written)[command]? = some written :=
      getElem?_update_self hrow
    rw [hsame, hrow] at hself
    exact (Option.some.inj hself).symm
  · intro hsame
    rw [hsame, update_self hrow]

/-! ## Claims -/

theorem together_claimNext_iff (machineId workerId drawn : String) :
    ClaimsTogether service (claimNext render service machineId workerId drawn clock) ↔
      ClaimPaired service machineId clock := by
  simp only [claimNext]
  cases hnext : nextQueued service.commands.queue machineId with
  | none =>
      have hclaim := claimNextCommand_of_none render workerId clock hnext
      rw [hclaim.1]
      refine iff_of_true ?_ ?_
      · exact Or.inl ⟨rfl, congrArg Queue.commands hclaim.2, rfl⟩
      · intro row command hsome
        rw [hnext] at hsome
        cases hsome
  | some found =>
      obtain ⟨row, command⟩ := found
      obtain ⟨hget, hqueued, hclaimed, hdeleted, hcommands⟩ :=
        claimNextCommand_of_some render workerId clock hnext
      have hrow := CommandTable.get_eq_some.1 hget
      have hafter : (service.commands.claimNextCommand render machineId workerId clock).1.get
          command = some (claimedRow row workerId (clock 0)) := by
        rw [CommandTable.get_eq_some, hdeleted, hcommands]
        exact ⟨hrow.1, getElem?_update_self hrow.2⟩
      have hmoved : ¬ Unchanged service ⟨(service.commands.claimNextCommand render machineId
          workerId clock).1, service.tasks⟩ := by
        rintro ⟨hsame, _⟩
        rw [hcommands, commands_update_iff hrow.2] at hsame
        have hstatus := congrArg Command.status hsame
        rw [hqueued] at hstatus
        cases hstatus
      have hpaired : ClaimPaired service machineId clock ↔
          ∀ name ∈ row.address.taskId, ∃ task, taskNamed service.tasks name = some task ∧
            ¬ Presence.HeldByOther service.tasks.leases RemoteTask.remoteTaskResourceKind task
              machineId (laterReadings clock 2) := by
        constructor
        · intro hall
          exact hall row command hnext
        · intro hall other id hother
          rw [hnext] at hother
          cases hother
          exact hall
      rw [hclaimed, hpaired]
      have htaskId : (claimedRow row workerId (clock 0)).address.taskId = row.address.taskId := rfl
      dsimp only
      rw [htaskId]
      cases htask : row.address.taskId with
      | none =>
          refine iff_of_true (Or.inr ⟨_, _, rfl, ⟨row, hget, hqueued⟩, hafter, rfl, ?_⟩) ?_
          · rw [htaskId, htask]
            exact fun name hname => absurd hname (by simp)
          · exact fun name hname => absurd hname (by simp)
      | some name =>
          simp only [Option.mem_some_iff, forall_eq']
          cases hnamed : taskNamed service.tasks name with
          | none =>
              refine iff_of_false hmoved ?_
              rintro ⟨task, hfound, _⟩
              cases hfound
          | some task =>
              simp only [Option.some.injEq, exists_eq_left']
              obtain ⟨held, hheld⟩ := row_of_taskNamed hnamed
              let between : Service :=
                ⟨(service.commands.claimNextCommand render machineId workerId clock).1,
                  service.tasks⟩
              have htarget : (RemoteTask.Operation.claimTask task ⟨machineId, 120⟩ drawn).target
                  between.tasks = some task := rfl
              by_cases hother : Presence.HeldByOther service.tasks.leases
                  RemoteTask.remoteTaskResourceKind task machineId (laterReadings clock 2)
              · obtain ⟨raised, hcalled⟩ := callTask_of_refused between (laterReadings clock)
                  htarget fun ⟨_, _, hadmitted⟩ => hadmitted hother
                rw [hcalled]
                exact iff_of_false hmoved (not_not_intro hother)
              · obtain ⟨hreturned, hkept, hwritten⟩ := callTask_of_admitted between
                  (laterReadings clock) htarget hheld hother
                rw [hreturned]
                refine iff_of_true (Or.inr ⟨_, _, rfl, ⟨row, hget, hqueued⟩, ?_, rfl, ?_⟩) hother
                · rw [hkept]
                  exact hafter
                · rw [htaskId, htask]
                  intro other hname
                  cases hname
                  exact hwritten name hnamed

theorem claimNext_answer (render : Json → String) (service : Service) {machineId : String}
    (workerId drawn : String) (clock : Clock)
    (hnext : nextQueued service.commands.queue machineId = some (row, command)) :
    (claimNext render service machineId workerId drawn clock).2 =
        .ok (.claimed (some (claimedRow row workerId (clock 0), command))) ∨
      ∃ raised, (claimNext render service machineId workerId drawn clock).2 = .error raised := by
  obtain ⟨_, _, hclaimed, _⟩ := claimNextCommand_of_some render workerId clock hnext
  simp only [claimNext, hclaimed]
  split
  · exact Or.inl rfl
  · split
    · exact Or.inr ⟨_, rfl⟩
    · cases (callTask _ _ (laterReadings clock)).2 with
      | ok => exact Or.inl rfl
      | error raised => exact Or.inr ⟨raised, rfl⟩

/-! ## Reports -/

theorem recordCommand_of_none (render : Json → String) (clock : Clock)
    (hget : table.get report.commandId = none) :
    ∃ raised, recordCommand render table report clock = .error raised := by
  cases hrecorded : recordCommand render table report clock with
  | error raised => exact ⟨raised, rfl⟩
  | ok =>
      have hfound : ∃ row, table.get report.commandId = some row := by
        unfold recordCommand at hrecorded
        split at hrecorded
        · obtain ⟨hkept, hwritten, _⟩ := CommandTable.settle_eq_ok.1 hrecorded
          obtain ⟨row, hrow, _⟩ := completeCommand_eq_ok.1 hwritten
          exact ⟨row, CommandTable.get_eq_some.2 ⟨hkept, hrow⟩⟩
        · obtain ⟨hkept, hwritten, _⟩ := CommandTable.settle_eq_ok.1 hrecorded
          obtain ⟨row, hrow, _⟩ := failCommand_eq_ok.1 hwritten
          exact ⟨row, CommandTable.get_eq_some.2 ⟨hkept, hrow⟩⟩
      obtain ⟨row, hrow⟩ := hfound
      rw [hget] at hrow
      cases hrow

theorem recordCommand_of_some (render : Json → String) (clock : Clock)
    (hget : table.get report.commandId = some row) :
    ∃ after, recordCommand render table report clock = .ok after ∧
      after.deleted = table.deleted ∧
      after.queue.commands = update table.queue.commands report.commandId
        (reportedRow render report row (clock 0)) := by
  cases hcompletes : report.completes with
  | true =>
      simp only [recordCommand, reportedRow, hcompletes, if_true]
      exact CommandTable.completeCommand_of_get render hget _ _ clock
  | false =>
      simp only [recordCommand, reportedRow, hcompletes, Bool.false_eq_true, if_false]
      exact CommandTable.failCommand_of_get render hget _ _ clock

theorem reportedRow_taskId :
    (reportedRow render report row now).address.taskId = row.address.taskId := by
  unfold reportedRow
  split
  · unfold completedRow readdress
    dsimp only
    split
    · split <;> rfl
    · rfl
  · rfl

theorem reportedRow_status : (reportedRow render report row now).status = report.commandStatus := by
  unfold reportedRow Report.commandStatus
  split <;> rfl

theorem settlement_reportedRow :
    settlement render report (reportedRow render report row now) = settlement render report row := by
  unfold settlement reportedRow
  split <;> rfl

theorem settlement_spec {settle : Id → String → RemoteTask.Operation}
    (hsettle : settlement render report row = some settle) (task : Id) (token : String)
    (tasks : RemoteTask.Db) (status : RemoteTask.TaskStatus) :
    (settle task token).target tasks = some task ∧
      (settle task token).statusAfter status = report.taskStatus := by
  unfold settlement at hsettle
  unfold Report.taskStatus
  split at hsettle
  · rename_i hcompletes
    split at hsettle
    · cases hsettle
      rw [if_pos hcompletes]
      exact ⟨rfl, rfl⟩
    · cases hsettle
  · rename_i hfails
    cases hsettle
    rw [if_neg hfails]
    exact ⟨rfl, rfl⟩

theorem settlesTogether_iff_taskIs {answer : Answer}
    (hafter : after.get report.commandId = some (reportedRow render report row (clock 0)))
    (htask : row.address.taskId = some name) :
    SettlesTogether service report (⟨after, service.tasks⟩, .ok answer) ↔
      TaskIs service.tasks name report.taskStatus := by
  simp only [SettlesTogether]
  constructor
  · rintro ⟨found, hfound, _, htasks⟩
    have hsame := Option.some.inj (hafter.symm.trans hfound)
    apply htasks
    rw [← hsame, reportedRow_taskId, htask]
    rfl
  · intro hstatus
    refine ⟨_, hafter, reportedRow_status, ?_⟩
    rw [reportedRow_taskId, htask]
    intro other hname
    cases hname
    exact hstatus

theorem reportPaired_iff (hget : service.commands.get report.commandId = some row) :
    ReportPaired render service report clock ↔
      ∀ name ∈ row.address.taskId, SettlementPaired render service report row name clock := by
  constructor
  · intro hall
    exact hall row hget
  · intro hall other hother
    have hsame : row = other := Option.some.inj (hget.symm.trans hother)
    subst hsame
    exact hall

theorem settlementPaired_of_leaves (hleaves : LeavesTask render service report row name) :
    SettlementPaired render service report row name clock ↔
      TaskIs service.tasks name report.taskStatus := by
  constructor
  · intro hpaired
    exact hpaired.left hleaves
  · intro hended
    exact ⟨fun _ => hended, fun hsettles => absurd hleaves hsettles⟩

theorem settlementPaired_of_settles (hsettles : ¬ LeavesTask render service report row name) :
    SettlementPaired render service report row name clock ↔
      SettlementAdmitted render service report row name clock ∨
        reportedRow render report row (clock 0) = row := by
  constructor
  · intro hpaired
    exact hpaired.settled hsettles
  · intro hsettled
    exact ⟨fun hleaves => absurd hleaves hsettles, fun _ => hsettled⟩

/-- The task of a command, once the command is written. -/
theorem together_settleTask_iff {settle : Id → String → RemoteTask.Operation}
    (hafter : after.get report.commandId = some (reportedRow render report row (clock 0)))
    (hunchanged : Unchanged service ⟨after, service.tasks⟩ ↔
      reportedRow render report row (clock 0) = row) (htask : row.address.taskId = some name)
    (hsettle : settlement render report row = some settle) :
    SettlesTogether service report
        ((settleTask ⟨after, service.tasks⟩ name settle (laterReadings clock)).1,
          (settleTask ⟨after, service.tasks⟩ name settle (laterReadings clock)).2.map
            fun _ => .done) ↔
      SettlementPaired render service report row name clock := by
  simp only [settleTask]
  cases hnamed : taskNamed service.tasks name with
  | none =>
      have hsettles : ¬ LeavesTask render service report row name := by
        intro hleaves
        obtain ⟨task, htaskNamed, _⟩ := hleaves settle hsettle
        rw [hnamed] at htaskNamed
        cases htaskNamed
      rw [settlementPaired_of_settles hsettles, or_iff_right]
      · exact hunchanged
      · rintro ⟨_, task, _, _, _, htaskNamed, _⟩
        rw [hnamed] at htaskNamed
        cases htaskNamed
  | some task =>
      dsimp only
      cases hassigned : currentAssignment service.tasks task with
      | none =>
          rw [settlementPaired_of_leaves fun _ _ => ⟨task, hnamed, hassigned⟩]
          exact settlesTogether_iff_taskIs hafter htask
      | some assignment =>
          dsimp only
          have hsettles : ¬ LeavesTask render service report row name := by
            intro hleaves
            obtain ⟨other, hother, hnone⟩ := hleaves settle hsettle
            rw [hnamed] at hother
            cases hother
            rw [hassigned] at hnone
            cases hnone
          rw [settlementPaired_of_settles hsettles]
          let between : Service := ⟨after, service.tasks⟩
          have hspec := settlement_spec hsettle task assignment.leaseToken between.tasks
          by_cases hadmits : ∃ found, service.tasks.tasks[task]? = some found ∧
              RemoteTask.Admitted service.tasks task found
                ⟨settle task assignment.leaseToken, laterReadings clock⟩
          · obtain ⟨found, hfound, hadmitted⟩ := hadmits
            obtain ⟨hreturned, hkept, hwritten⟩ := callTask_of_admitted between
              (laterReadings clock) (hspec .queued).1 hfound hadmitted
            refine iff_of_true ?_ (Or.inl ⟨settle, task, found, assignment, hsettle, hnamed, hfound,
              hassigned, hadmitted⟩)
            rw [hreturned]
            refine ⟨_, by rw [hkept]; exact hafter, reportedRow_status, ?_⟩
            rw [reportedRow_taskId, htask]
            intro other hname
            cases hname
            have hended := hwritten name hnamed
            rw [(hspec found.status).2] at hended
            exact hended
          · obtain ⟨raised, hcalled⟩ := callTask_of_refused between (laterReadings clock)
              (hspec .queued).1 hadmits
            rw [hcalled, or_iff_right]
            · exact hunchanged
            · rintro ⟨found, other, foundRow, held, hsame, hother, hrow, hheld, hadmitted⟩
              rw [hsettle] at hsame
              cases hsame
              rw [hnamed] at hother
              cases hother
              rw [hassigned] at hheld
              cases hheld
              exact hadmits ⟨foundRow, hrow, hadmitted⟩

theorem together_recordCommandResult_iff (report : Report) :
    SettlesTogether service report (recordCommandResult render service report clock) ↔
      ReportPaired render service report clock := by
  unfold recordCommandResult
  cases hget : service.commands.get report.commandId with
  | none =>
      obtain ⟨raised, hraised⟩ := recordCommand_of_none render clock hget
      rw [hraised]
      refine iff_of_true ⟨rfl, rfl⟩ ?_
      intro row hrow
      rw [hget] at hrow
      cases hrow
  | some row =>
      obtain ⟨after, hrecorded, hdeleted, hcommands⟩ := recordCommand_of_some render clock hget
      have hafter := CommandTable.get_of_update hget hdeleted hcommands
      have hunchanged : Unchanged service ⟨after, service.tasks⟩ ↔
          reportedRow render report row (clock 0) = row := by
        rw [Unchanged, hcommands, commands_update_iff (CommandTable.get_eq_some.1 hget).2]
        exact and_iff_left rfl
      rw [hrecorded, reportPaired_iff hget]
      dsimp only
      rw [hafter]
      dsimp only
      rw [reportedRow_taskId, settlement_reportedRow]
      cases htask : row.address.taskId with
      | none =>
          refine iff_of_true ⟨_, hafter, reportedRow_status, ?_⟩ ?_
          · rw [reportedRow_taskId, htask]
            exact fun name hname => absurd hname (by simp)
          · exact fun name hname => absurd hname (by simp)
      | some name =>
          simp only [Option.mem_some_iff, forall_eq']
          cases hsettle : settlement render report row with
          | none =>
              have hleaves : LeavesTask render service report row name := by
                intro settle hsome
                rw [hsettle] at hsome
                cases hsome
              rw [settlementPaired_of_leaves hleaves]
              exact settlesTogether_iff_taskIs hafter htask
          | some => exact together_settleTask_iff hafter hunchanged htask hsettle

/-- The step lemma: a call moves its command and task together exactly when its second half will
go through. -/
theorem together_iff (call : Call) : Together render service call ↔ Paired render service call := by
  obtain ⟨operation, clock⟩ := call
  cases operation with
  | enqueueTurn request => exact iff_of_true (together_enqueueTurn request) trivial
  | enqueueInterrupt request => exact iff_of_true (together_enqueueInterrupt request) trivial
  | claimNextCommand machineId workerId drawn =>
      simp only [Together, Paired, perform]
      exact together_claimNext_iff machineId workerId drawn
  | recordCommandResult report =>
      simp only [Together, Paired, perform]
      exact together_recordCommandResult_iff report
  | enqueueThreadDelete | enqueueThreadStart | enqueueFsList | enqueueFsMkdir
  | listThreadCommands | task => exact Iff.rfl

/-! ## Commands that run -/

structure RunningKept (table after : CommandTable) : Prop where
  ran : ∀ id row, after.get id = some row → row.status = .running →
    ∃ old, table.get id = some old ∧ old.status = .running

theorem RunningKept.refl (table : CommandTable) : RunningKept table table where
  ran _ row hrow hruns := ⟨row, hrow, hruns⟩

theorem SameActive.runningKept (hsame : SameActive table after) : RunningKept table after := by
  constructor
  intro id row hrow hruns
  have hactive : active row := active_iff.2 (Or.inr hruns)
  exact ⟨row, (hsame id row hactive).mp hrow, hruns⟩

theorem runningKept_enqueueCommand (render : Json → String) (table : CommandTable)
    (payload : EnqueueRequest Address) (clock : Clock) :
    RunningKept table (table.enqueueCommand render payload clock) := by
  constructor
  intro id row hrow hruns
  rcases get_enqueueCommand.1 hrow with hold | ⟨_, rfl⟩
  · exact ⟨row, hold, hruns⟩
  · cases hruns

theorem RunningKept.trans {between : CommandTable} (hfirst : RunningKept table between)
    (hsecond : RunningKept between after) : RunningKept table after := by
  constructor
  intro id row hrow hruns
  obtain ⟨old, hold, hran⟩ := hsecond.ran id row hrow hruns
  exact hfirst.ran id old hold hran

theorem Queues.runningKept {addressee : Addressee} {commandType : String}
    (hqueues : Queues render table after addressee commandType) : RunningKept table after := by
  obtain ⟨between, payload, at_, hsame, rfl, _⟩ := hqueues
  exact hsame.runningKept.trans (runningKept_enqueueCommand render between payload at_)

theorem commandStatus_ne_running (report : Report) : report.commandStatus ≠ .running := by
  unfold Report.commandStatus
  cases report.completes with
  | true => exact CommandStatus.noConfusion
  | false => exact CommandStatus.noConfusion

theorem runningKept_recordCommandResult (report : Report) :
    RunningKept service.commands
      (recordCommandResult render service report clock).1.commands := by
  rw [recordCommandResult_commands]
  cases hget : service.commands.get report.commandId with
  | none =>
      obtain ⟨raised, hraised⟩ := recordCommand_of_none render clock hget
      rw [hraised]
      exact .refl _
  | some =>
      obtain ⟨after, hrecorded, hdeleted, hcommands⟩ := recordCommand_of_some render clock hget
      rw [hrecorded]
      constructor
      intro id row hrow hruns
      rw [committed_ok, CommandTable.get_eq_some, hdeleted, hcommands] at hrow
      rcases getElem?_update_eq_some hrow.2 with ⟨_, hsame⟩ | hold
      · rw [hsame, reportedRow_status] at hruns
        exact absurd hruns (commandStatus_ne_running report)
      · exact ⟨row, CommandTable.get_eq_some.2 ⟨hrow.1, hold⟩, hruns⟩

theorem runningKept_enqueueForMachine (commandType : String) (request : MachineRequest) :
    RunningKept service.commands
      (enqueueForMachine render commandType service request clock).1.commands := by
  unfold enqueueForMachine
  split
  · exact .refl _
  · exact runningKept_enqueueCommand ..

theorem runningKept_step {call : Call}
    (hclaims : ∀ machineId workerId drawn,
      call.operation ≠ .claimNextCommand machineId workerId drawn) :
    RunningKept service.commands (step render service call).commands := by
  obtain ⟨operation, clock⟩ := call
  cases operation with
  | enqueueTurn =>
      simp only [step, perform, enqueueTurn]
      split
      · exact .refl _
      · exact runningKept_enqueueCommand ..
  | enqueueInterrupt request =>
      rcases enqueueInterrupt_spec render service request clock with ⟨_, hqueues⟩ | ⟨_, hsame⟩
      · exact hqueues.runningKept
      · exact hsame.runningKept
  | enqueueThreadDelete request =>
      rcases enqueueThreadDelete_spec render service request clock with
        ⟨_, _, hqueues⟩ | ⟨_, _, hsame⟩
      · exact hqueues.runningKept
      · exact hsame.runningKept
  | enqueueThreadStart request | enqueueFsList request | enqueueFsMkdir request =>
      exact runningKept_enqueueForMachine _ request
  | claimNextCommand machineId workerId drawn => exact absurd rfl (hclaims machineId workerId drawn)
  | recordCommandResult report =>
      simp only [step, perform]
      exact runningKept_recordCommandResult report
  | listThreadCommands =>
      exact (sameActive_prune service.tasks (clock 0)).runningKept
  | task operation =>
      have hcommands := callTask_commands service operation clock
      rw [step, perform, hcommands]
      exact .refl _

end Pairs

/-! ## Runs -/

def returned : Except ServiceError Answer → List Id
  | .ok (.claimed (some (_, command))) => [command]
  | _ => []

def stepReturning (render : Json → String) (state : Service × List Id) (call : Call) :
    Service × List Id :=
  (step render state.1 call, state.2 ++ returned (perform render state.1 call).2)

/-- Every command that runs has been returned to a worker. -/
def NoneLost (state : Service × List Id) : Prop :=
  ∀ id row, state.1.commands.get id = some row → row.status = .running → id ∈ state.2

/-- A call that moves its command and task together loses no command. -/
theorem NoneLost.step {render : Json → String} {state : Service × List Id} {call : Call}
    (hnone : NoneLost state) (htogether : Together render state.1 call) :
    NoneLost (stepReturning render state call) := by
  obtain ⟨operation, clock⟩ := call
  by_cases hclaims : ∃ machineId workerId drawn,
      operation = .claimNextCommand machineId workerId drawn
  · obtain ⟨machineId, workerId, drawn, rfl⟩ := hclaims
    intro id row hrow hruns
    have hcommands := claimNext_commands render state.1 machineId workerId drawn clock
    simp only [stepReturning, RemoteCodex.step, perform] at hrow ⊢
    rw [hcommands] at hrow
    cases hnext : nextQueued state.1.commands.queue machineId with
    | none =>
        have hqueue := (claimNextCommand_of_none render workerId clock hnext).2
        have hget := CommandTable.get_eq_some.1 hrow
        rw [hqueue] at hget
        exact List.mem_append_left _ (hnone id row (CommandTable.get_eq_some.2 hget) hruns)
    | some found =>
        obtain ⟨old, command⟩ := found
        obtain ⟨hget, hqueued, _, hdeleted, hwritten⟩ :=
          claimNextCommand_of_some render workerId clock hnext
        rcases claimNext_answer render state.1 workerId drawn clock hnext with
          hanswer | ⟨raised, hraised⟩
        · rw [hanswer]
          have hfound := CommandTable.get_eq_some.1 hrow
          rw [hdeleted, hwritten] at hfound
          rcases getElem?_update_eq_some hfound.2 with ⟨hsame, _⟩ | hold
          · exact List.mem_append_right _ (by simp [returned, hsame])
          · have hstood := CommandTable.get_eq_some.2 ⟨hfound.1, hold⟩
            exact List.mem_append_left _ (hnone id row hstood hruns)
        · -- a claim that raises has moved the command all the same
          simp only [Together, perform, ClaimsTogether, hraised] at htogether
          have hsame := htogether.1
          rw [hcommands, hwritten,
            commands_update_iff (CommandTable.get_eq_some.1 hget).2] at hsame
          have hstatus := congrArg Command.status hsame
          rw [hqueued] at hstatus
          cases hstatus
  · intro id row hrow hruns
    have hkept : RunningKept state.1.commands
        (RemoteCodex.step render state.1 ⟨operation, clock⟩).commands := by
      apply runningKept_step
      intro machineId workerId drawn hsame
      exact hclaims ⟨machineId, workerId, drawn, hsame⟩
    obtain ⟨old, hold, hran⟩ := hkept.ran id row hrow hruns
    exact List.mem_append_left _ (hnone id old hold hran)

/-- In every run each call moves its command and task together, and no command runs that has not
been returned to a worker, exactly when the second half of every call will go through. -/
theorem commands_and_tasks_together_iff (render : Json → String) (calls : List Call) :
    (Throughout (stepReturning render) NoneLost (.empty, []) calls ∧
        Along (stepReturning render) (fun state => Together render state.1) (.empty, []) calls) ↔
      Along (stepReturning render) (fun state => Paired render state.1) (.empty, []) calls := by
  apply throughout_and_along_iff
  · intro id row hrow
    cases hrow
  · intro state call hnone
    rw [← together_iff]
    constructor
    · intro hboth
      exact hboth.2
    · intro htogether
      exact ⟨hnone.step htogether, htogether⟩

/-! ## A command that nobody was given -/

/-- A prompt, whose task an executor takes through the task routes before the machine claims the
command. -/
def overtakenPrompt : List Call :=
  [promptDesk 0, ⟨.task (.claimTask 0 ⟨"executor", 120⟩ "token"), fun _ => 1⟩,
    ⟨.claimNextCommand "m" "worker" "other", fun _ => 2⟩]

/-- The machine's claim raises, and the command runs though no worker has it. -/
theorem command_lost_in_claim :
    ¬ (Throughout (stepReturning fun _ => "") NoneLost (.empty, []) overtakenPrompt ∧
        Along (stepReturning fun _ => "") (fun state => Together (fun _ => "") state.1)
          (.empty, []) overtakenPrompt) := by
  rintro ⟨hnone, _⟩
  have hend := hnone overtakenPrompt List.prefix_rfl
  have hruns : ∃ row, (run (stepReturning fun _ => "") (.empty, [])
      overtakenPrompt).1.commands.get 0 = some row ∧ decide (row.status = .running) = true := by
    apply (Option.any_eq_true ..).mp
    decide
  have hreturned : (run (stepReturning fun _ => "") (.empty, []) overtakenPrompt).2 = [] := by
    decide
  obtain ⟨row, hrow, hrunning⟩ := hruns
  have hlisted := hend 0 row hrow (of_decide_eq_true hrunning)
  rw [hreturned] at hlisted
  cases hlisted

end OpsCure.RemoteCodex
