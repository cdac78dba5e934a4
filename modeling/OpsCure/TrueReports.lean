/-
Is what the agent reports of a command true?  The handler of the one try block reports a failure
whatever was cut off; the bridge lets a failed report replace a completed one.
-/
import OpsCure.AgentErrands
import OpsCure.TerminalStatuses

namespace OpsCure.RemoteCodex

open Fallible Session Lossy RemoteCommand

/-! ## What is to hold -/

def CommandFailed (table : CommandTable) (commandId : Id) : Prop :=
  ∃ row, table.get commandId = some row ∧ row.status = .failed

def TaskFailed (tasks : RemoteTask.Db) (row : Command Address) : Prop :=
  ∃ name ∈ taskOf row, TaskIs tasks name .failed

/-- Nothing was done on the machine for the command. -/
def Desk.Untouched (desk : Desk) (commandId : Id) : Prop :=
  ∀ effect, (commandId, effect) ∉ desk.effects

/-- The command and its task have failed only if nothing was done, and the command has not failed
where its completed report is on record. -/
structure TellsTruth (desk : Desk) (row : Command Address) (commandId : Id) : Prop where
  command : CommandFailed desk.bridge.service.commands commandId → desk.Untouched commandId
  task : TaskFailed desk.bridge.service.tasks row → desk.Untouched commandId
  recorded : commandId ∈ desk.bridge.recorded →
    ¬ CommandFailed desk.bridge.service.commands commandId

/-- Nobody else asks anything of the bridge during the errand. -/
def Errand.Undisturbed (errand : Errand) : Prop := ∀ slot ∈ errand.slots, slot.others = []

section Condition

variable (render : Json → String) (refuse : ServiceError → String) (lost : String)

/-- The try block has done its local work, and a call after it has failed. -/
structure CutOff (config : AgentConfig) (errand : Errand) (row : Command Address) (commandId : Id)
    (claimed : Desk) (done : Done) (after : Desk) : Prop where
  cut : ∃ started worked raised,
    exec (callAll render refuse lost (announceStart config errand row)) claimed =
        (.ok ⟨⟩, started) ∧
      exec (workOnMachine errand row commandId) started = (.ok done, worked) ∧
      exec (concludeCommand render refuse lost config errand row commandId done) worked =
        (.error raised, after)

def ReportHeard (errand : Errand) (commandId : Id) (desk : Desk) : Prop :=
  errand.failedReport.fate.arrives ∧
    ∃ row, desk.bridge.service.commands.get commandId = some row

/-- The task is the machine's own, under its current token and in time. -/
def MayFail (service : Service) (name machineId : String) (clock : Clock) : Prop :=
  ∃ task row assignment, taskNamed service.tasks name = some task ∧
    service.tasks.tasks[task]? = some row ∧
    currentAssignment service.tasks task = some assignment ∧
    RemoteTask.HoldsActive row machineId assignment.leaseToken (clock 0) ∧
    RemoteTask.CanRelease service.tasks task machineId assignment.leaseToken (clock 1)

/-- The task's failure reaches the bridge, and passes its guards. -/
def TaskHeard (config : AgentConfig) (errand : Errand) (row : Command Address) (desk : Desk) :
    Prop :=
  errand.failedTask.fate.arrives ∧ ∃ name ∈ taskOf row,
    MayFail desk.bridge.service name config.machineId errand.failedTask.arrival.clock

/-- Where a call fails after the local work, the failure is no lie or is not heard: nothing was
done and nothing is on record, or neither of the two reports gets through. -/
def Candid (config : AgentConfig) (errand : Errand) (row : Command Address) (commandId : Id)
    (claimed : Desk) : Prop :=
  ∀ done after, CutOff render refuse lost config errand row commandId claimed done after →
    (done.effect = none ∧ commandId ∉ after.bridge.recorded) ∨
      (¬ ReportHeard errand commandId after ∧
        (done.effect = none ∨ ¬ TaskHeard config errand row after))

end Condition

/-! ## Before the handler -/

theorem taskOf_of_named {tasks : RemoteTask.Db} {row : Command Address} {name : String} {task : Id}
    (hname : row.address.taskId = some name) (hnamed : taskNamed tasks name = some task) :
    taskOf row = some name := by
  have hsame : taskName task = name := by
    have hfound := List.find?_some hnamed
    exact of_decide_eq_true hfound
  subst hsame
  obtain ⟨hword, hcompact⟩ := compactText_taskName task
  simp [taskOf, hname, hcompact, hword]

section Kept

variable {render : Json → String} {service : Service} {row : Command Address} {commandId : Id}

variable {name : String} {clock : Clock}

theorem TaskIs.status_eq {tasks : RemoteTask.Db} {status other : RemoteTask.TaskStatus}
    (hone : TaskIs tasks name status) (hother : TaskIs tasks name other) : status = other := by
  obtain ⟨task, found, hnamed, hrow, rfl⟩ := hone
  obtain ⟨task', found', hnamed', hrow', rfl⟩ := hother
  obtain rfl : task = task' := Option.some.inj (hnamed.symm.trans hnamed')
  obtain rfl : found = found' := Option.some.inj (hrow.symm.trans hrow')
  rfl

theorem callTask_not_failed {operation : RemoteTask.Operation} {task : Id}
    (htarget : operation.target service.tasks = some task)
    (hmild : ∀ status, operation.statusAfter status = .failed → status = .failed)
    (hfailed : TaskIs (callTask service operation clock).1.tasks name .failed) :
    TaskIs service.tasks name .failed := by
  unfold callTask at hfailed
  split at hfailed
  · exact hfailed
  · rename_i after hperform
    obtain ⟨old, written, hwrote, hresult⟩ := RemoteTask.perform_rewrote htarget hperform
    obtain ⟨other, found, hnamed, hfound, hstatus⟩ := hfailed
    have hlength : after.tasks.length = service.tasks.tasks.length := by
      rw [hwrote.wrote, Table.update, List.length_set]
    rw [taskNamed_congr hlength] at hnamed
    dsimp only at hfound
    rw [hwrote.wrote] at hfound
    rcases Table.getElem?_update_eq_some hfound with ⟨hsame, hnew⟩ | hold
    · refine ⟨other, old, hnamed, ?_, ?_⟩
      · rw [← hsame]
        exact hwrote.read
      · apply hmild
        rw [← hresult.status, ← hnew]
        exact hstatus
    · exact ⟨other, found, hnamed, hold, hstatus⟩

theorem statusForHeartbeat_ne_failed (payload : RemoteTask.HeartbeatRequest) :
    RemoteTask.statusForHeartbeat payload ≠ .failed := by
  intro hfailed
  have hopen := RemoteTask.statusForHeartbeat_not_terminal payload
  rw [hfailed] at hopen
  cases hopen

theorem statusAfter_heartbeat_ne_failed (task : Id) (payload : RemoteTask.HeartbeatRequest)
    (status : RemoteTask.TaskStatus) :
    (RemoteTask.Operation.heartbeatTask task payload).statusAfter status ≠ .failed := by
  rw [RemoteTask.Operation.statusAfter]
  exact statusForHeartbeat_ne_failed payload

theorem statusAfterEvidence_failed {kind : String} {status : RemoteTask.TaskStatus}
    (hfailed : RemoteTask.statusAfterEvidence kind status = .failed) : status = .failed := by
  unfold RemoteTask.statusAfterEvidence at hfailed
  split at hfailed
  · cases hfailed
  · exact hfailed

structure Unfailed (row : Command Address) (commandId : Id) (service : Service) : Prop where
  command : ¬ CommandFailed service.commands commandId
  task : ¬ TaskFailed service.tasks row

theorem callHeldTask_not_failed {operation : Id → String → RemoteTask.Operation}
    (htarget : ∀ task token, (operation task token).target service.tasks = some task)
    (hmild : ∀ task token status, (operation task token).statusAfter status = .failed →
      status = .failed) {other : String}
    (hfailed : TaskIs (callHeldTask service name operation clock).1.tasks other .failed) :
    TaskIs service.tasks other .failed := by
  unfold callHeldTask at hfailed
  split at hfailed
  · exact hfailed
  · split at hfailed
    · exact hfailed
    · exact callTask_not_failed (htarget _ _) (hmild _ _) hfailed

theorem settleTask_not_failed {operation : Id → String → RemoteTask.Operation}
    (htarget : ∀ task token, (operation task token).target service.tasks = some task)
    (hmild : ∀ task token status, (operation task token).statusAfter status = .failed →
      status = .failed) {other : String}
    (hfailed : TaskIs (settleTask service name operation clock).1.tasks other .failed) :
    TaskIs service.tasks other .failed := by
  unfold settleTask at hfailed
  split at hfailed
  · exact hfailed
  · split at hfailed
    · exact hfailed
    · exact callTask_not_failed (htarget _ _) (hmild _ _) hfailed

theorem commandFailed_prune {table : CommandTable} {tasks : RemoteTask.Db}
    {machineId threadId : String} {now : Time} :
    CommandFailed (table.prune render tasks machineId threadId now) commandId ↔
      CommandFailed table commandId := by
  constructor
  · rintro ⟨found, hfound, hstatus⟩
    obtain ⟨hkept, hrow⟩ := CommandTable.get_eq_some.1 hfound
    refine ⟨found, CommandTable.get_eq_some.2 ⟨?_, hrow⟩, hstatus⟩
    exact fun hdeleted => hkept (List.mem_append_left _ hdeleted)
  · rintro ⟨found, hfound, hstatus⟩
    obtain ⟨hkept, hrow⟩ := CommandTable.get_eq_some.1 hfound
    refine ⟨found, CommandTable.get_eq_some.2 ⟨?_, hrow⟩, hstatus⟩
    intro hdeleted
    rcases List.mem_append.mp hdeleted with hold | hnew
    · exact hkept hold
    · obtain ⟨other, hother, hcompleted⟩ := completed_of_stale (stale_of_deletable hnew)
      obtain rfl : found = other := Option.some.inj (hfound.symm.trans hother)
      rw [hstatus] at hcompleted
      cases hcompleted

theorem commandFailed_applyAgentSync {machineId : String} {threadIds : List String} {now : Time} :
    CommandFailed (applyAgentSync render service machineId threadIds now).commands commandId ↔
      CommandFailed service.commands commandId := by
  have hfold : ∀ table : CommandTable,
      CommandFailed (threadIds.foldl (fun commands threadId =>
        commands.prune render service.tasks machineId threadId now) table) commandId ↔
        CommandFailed table commandId := by
    intro table
    induction threadIds generalizing table with
    | nil => exact Iff.rfl
    | cons threadId threadIds ih => exact (ih _).trans commandFailed_prune
  exact hfold service.commands

theorem completes_completedReport (config : AgentConfig) (done : Done) :
    (completedReport config commandId done).completes = true := by
  have hword : Text.lower (compactText "completed" "") = "completed" := by decide
  exact decide_eq_true hword

theorem not_completes_failedReport (config : AgentConfig) (text : String) :
    (failedReport config commandId text).completes = false := by
  have hword : Text.lower (compactText "failed" "") ≠ "completed" := by decide
  exact decide_eq_false hword

theorem unfailed_heartbeat (hunfailed : Unfailed row commandId service) (name : String)
    (beat : AgentHeartbeat) (clock : Clock) :
    Unfailed row commandId (agentHeartbeatTask service name beat clock).1 := by
  constructor
  · rw [agentHeartbeatTask, callHeldTask_commands]
    exact hunfailed.command
  · rintro ⟨other, hother, hfailed⟩
    rw [agentHeartbeatTask] at hfailed
    refine hunfailed.task ⟨other, hother, callHeldTask_not_failed ?_ ?_ hfailed⟩
    · intro task token
      rfl
    · intro task token status hstatus
      exact absurd hstatus (statusAfter_heartbeat_ne_failed task _ status)

theorem unfailed_complete (hunfailed : Unfailed row commandId service) (name actorId : String)
    (summary : Option String) (clock : Clock) :
    Unfailed row commandId (agentCompleteTask service name actorId summary clock).1 := by
  constructor
  · rw [agentCompleteTask, callHeldTask_commands]
    exact hunfailed.command
  · rintro ⟨other, hother, hfailed⟩
    refine hunfailed.task ⟨other, hother, callHeldTask_not_failed (fun _ _ => rfl) ?_ hfailed⟩
    intro task token status hstatus
    cases hstatus

theorem unfailed_evidence (hunfailed : Unfailed row commandId service) (name : String)
    (payload : RemoteTask.EvidenceRequest) (clock : Clock) :
    Unfailed row commandId (agentAddEvidence service name payload clock).1 := by
  constructor
  · rw [agentAddEvidence_commands]
    exact hunfailed.command
  · rintro ⟨other, hother, hfailed⟩
    unfold agentAddEvidence at hfailed
    split at hfailed
    · exact hunfailed.task ⟨other, hother, hfailed⟩
    · refine hunfailed.task ⟨other, hother, callTask_not_failed rfl ?_ hfailed⟩
      intro status hstatus
      exact statusAfterEvidence_failed hstatus

theorem unfailed_report (hunfailed : Unfailed row commandId service) {report : Report}
    (hcommand : report.commandId = commandId) (hcompletes : report.completes) (clock : Clock) :
    Unfailed row commandId (recordCommandResult render service report clock).1 := by
  constructor
  · rw [recordCommandResult_commands]
    cases hget : service.commands.get report.commandId with
    | none =>
        obtain ⟨raised, hraised⟩ := recordCommand_of_none render clock hget
        rw [hraised]
        exact hunfailed.command
    | some =>
        obtain ⟨after, hok, hdeleted, hrows⟩ := recordCommand_of_some render clock hget
        rw [hok, committed_ok]
        rintro ⟨found, hfound, hstatus⟩
        have hafter := CommandTable.get_of_update hget hdeleted hrows
        rw [hcommand] at hafter
        obtain rfl := Option.some.inj (hafter.symm.trans hfound)
        rw [reportedRow_status, Report.commandStatus, if_pos hcompletes] at hstatus
        cases hstatus
  · rintro ⟨other, hother, hfailed⟩
    apply hunfailed.task
    refine ⟨other, hother, ?_⟩
    unfold recordCommandResult at hfailed
    split at hfailed
    · exact hfailed
    · rename_i commands _
      dsimp only at hfailed
      split at hfailed
      · exact hfailed
      · split at hfailed
        · rename_i settle _ hsettle
          unfold settlement at hsettle
          rw [if_pos hcompletes] at hsettle
          split at hsettle
          · cases hsettle
            dsimp only at hfailed
            have hbefore : TaskIs (Service.mk commands service.tasks).tasks other .failed := by
              refine settleTask_not_failed ?_ ?_ hfailed
              · intro task token
                rfl
              · intro task token status hstatus
                cases hstatus
            exact hbefore
          · cases hsettle
        · exact hfailed

def Desk.Unfailed (row : Command Address) (commandId : Id) (desk : Desk) : Prop :=
  RemoteCodex.Unfailed row commandId desk.bridge.service

theorem harmless_unfailed {request : Request}
    (hkeeps : ∀ service clock, Unfailed row commandId service →
      Unfailed row commandId (respond render service request clock).1) :
    Harmless render (Desk.Unfailed row commandId) request := by
  intro arrival desk hunfailed
  exact hkeeps desk.bridge.service arrival.clock hunfailed

theorem endures_unfailed (config : AgentConfig) :
    Endures render (Desk.Unfailed row commandId) config commandId where
  beats task beat := by
    apply harmless_unfailed
    intro service clock hunfailed
    simp only [respond]
    exact unfailed_heartbeat hunfailed task beat clock
  evidence task payload := by
    apply harmless_unfailed
    intro service clock hunfailed
    simp only [respond]
    exact unfailed_evidence hunfailed task payload clock
  completes task summary := by
    apply harmless_unfailed
    intro service clock hunfailed
    simp only [respond]
    exact unfailed_complete hunfailed task config.machineId summary clock
  reports done := by
    apply harmless_unfailed
    intro service clock hunfailed
    simp only [respond, perform]
    exact unfailed_report hunfailed rfl (completes_completedReport config done) clock
  lists _ := by
    apply harmless_unfailed
    intro service clock hunfailed
    exact ⟨fun hfailed => hunfailed.command (commandFailed_prune.1 hfailed), hunfailed.task⟩
  syncs _ := by
    apply harmless_unfailed
    intro service clock hunfailed
    exact ⟨fun hfailed => hunfailed.command (commandFailed_applyAgentSync.1 hfailed),
      hunfailed.task⟩
  boots _ hunfailed := hunfailed

end Kept

/-! ## The handler -/

/-- Two desks that tell the same of the command. -/
structure SameTale (row : Command Address) (commandId : Id) (before after : Desk) : Prop where
  command : CommandFailed after.bridge.service.commands commandId ↔
    CommandFailed before.bridge.service.commands commandId
  task : TaskFailed after.bridge.service.tasks row ↔ TaskFailed before.bridge.service.tasks row
  recorded : after.bridge.recorded = before.bridge.recorded
  effects : after.effects = before.effects

section Handler

variable {render : Json → String} {refuse : ServiceError → String} {lost : String}
  {config : AgentConfig} {errand : Errand} {row : Command Address} {commandId : Id}

theorem harmless_of_alone {P : Desk → Prop} {slot : Slot} (halone : slot.others = []) :
    slot.Harmless render P := by
  intro visit hvisit
  rw [halone] at hvisit
  cases hvisit

theorem sameTale_performSync {plan : SyncPlan} (halone : ∀ slot ∈ plan.slots, slot.others = [])
    (before : Desk) :
    SameTale row commandId before (exec (performSync render refuse lost config plan) before).2 := by
  have hkeeps : Keeps (SameTale row commandId before)
      (performSync render refuse lost config plan) := by
    apply keeps_performSync
    · intro slot hslot
      exact harmless_of_alone (halone slot hslot)
    · intro threadId arrival desk hsame
      refine ⟨commandFailed_prune.trans hsame.command, hsame.task, ?_, hsame.effects⟩
      exact (List.append_nil _).trans hsame.recorded
    · intro threadIds arrival desk hsame
      refine ⟨commandFailed_applyAgentSync.trans hsame.command, hsame.task, ?_, hsame.effects⟩
      exact (List.append_nil _).trans hsame.recorded
    · intro desk hsame
      exact ⟨hsame.command, hsame.task, hsame.recorded, hsame.effects⟩
  exact hkeeps before ⟨Iff.rfl, Iff.rfl, rfl, rfl⟩

theorem agentFailTask_spec (service : Service) (name machineId text : String) (clock : Clock) :
    (MayFail service name machineId clock ∧
        TaskIs (agentFailTask service name machineId text clock).1.tasks name .failed) ∨
      (¬ MayFail service name machineId clock ∧
        (agentFailTask service name machineId text clock).1 = service) := by
  unfold agentFailTask callHeldTask
  cases hnamed : taskNamed service.tasks name with
  | none =>
      right
      refine ⟨?_, rfl⟩
      rintro ⟨task, _, _, hsome, _⟩
      rw [hnamed] at hsome
      cases hsome
  | some task =>
      dsimp only
      cases hassigned : currentAssignment service.tasks task with
      | none =>
          right
          refine ⟨?_, rfl⟩
          rintro ⟨other, _, _, hsome, _, hcurrent, _⟩
          obtain rfl := Option.some.inj (hnamed.symm.trans hsome)
          rw [hassigned] at hcurrent
          cases hcurrent
      | some assignment =>
          dsimp only
          let payload : RemoteTask.FailRequest :=
            ⟨machineId, assignment.leaseToken, compactText text "Unknown error"⟩
          have htarget : (RemoteTask.Operation.failTask task payload).target service.tasks =
              some task := rfl
          by_cases hadmitted : ∃ found, service.tasks.tasks[task]? = some found ∧
              RemoteTask.Admitted service.tasks task found ⟨.failTask task payload, clock⟩
          · left
            obtain ⟨found, hfound, hpasses⟩ := hadmitted
            refine ⟨⟨task, found, assignment, hnamed, hfound, hassigned, hpasses⟩, ?_⟩
            have hcalled := callTask_of_admitted service clock htarget hfound hpasses
            exact hcalled.2.2 name hnamed
          · right
            constructor
            · rintro ⟨other, found, held, hsome, hfound, hcurrent, hpasses⟩
              obtain rfl := Option.some.inj (hnamed.symm.trans hsome)
              obtain rfl := Option.some.inj (hassigned.symm.trans hcurrent)
              exact hadmitted ⟨found, hfound, hpasses⟩
            · obtain ⟨raised, hraised⟩ := callTask_of_refused service clock htarget hadmitted
              exact congrArg Prod.fst hraised

def afterFailedTask (render : Json → String) (refuse : ServiceError → String) (lost : String)
    (config : AgentConfig) (errand : Errand) (row : Command Address) (text : String) (desk : Desk) :
    Desk :=
  match taskOf row with
  | none => desk
  | some task => (exec (bridgeCall render refuse lost errand.failedTask
      (.agentFailTask task config.machineId text)) desk).2

theorem exec_reportFailure (raised : String) (desk : Desk) :
    (exec (reportFailure render refuse lost config errand row commandId raised) desk).2 =
      (exec (performSync render refuse lost config errand.resync)
        (exec (bridgeCall render refuse lost errand.failedReport (.call (.recordCommandResult
          (failedReport config commandId (compactText raised "Unknown error")))))
          (afterFailedTask render refuse lost config errand row
            (compactText raised "Unknown error") desk)).2).2 := by
  rw [reportFailure, exec_bind, exec_forM_attempt]
  dsimp only
  rw [exec_bind, exec_attempt]
  dsimp only
  rw [exec_attempt]
  cases htask : taskOf row with
  | none => rw [afterFailedTask, htask]; rfl
  | some => rw [afterFailedTask, htask]; rfl

theorem taskFailed_afterFailedTask (halone : errand.failedTask.others = []) (text : String)
    {desk : Desk} (hunfailed : desk.Unfailed row commandId) :
    TaskFailed (afterFailedTask render refuse lost config errand row text
      desk).bridge.service.tasks row ↔ TaskHeard config errand row desk := by
  unfold afterFailedTask TaskFailed TaskHeard
  have hopen := hunfailed.task
  unfold TaskFailed at hopen
  cases htask : taskOf row with
  | none => simp
  | some name =>
      rw [htask] at hopen
      simp only [Option.mem_def, Option.some.injEq, exists_eq_left'] at hopen ⊢
      rw [bridgeCall_alone halone]
      cases errand.failedTask.fate.arrives with
      | false =>
          simp only [Bool.false_eq_true, if_false, false_and]
          exact iff_of_false hopen id
      | true =>
          simp only [if_true, true_and]
          have hspec := agentFailTask_spec desk.bridge.service name config.machineId text
            errand.failedTask.arrival.clock
          rcases hspec with ⟨hpasses, hfailed⟩ | ⟨hrefused, hsame⟩
          · exact iff_of_true hfailed hpasses
          · refine iff_of_false ?_ hrefused
            intro hfailed
            apply hopen
            rw [← hsame]
            exact hfailed

theorem afterFailedTask_frame (halone : errand.failedTask.others = []) (text : String)
    (desk : Desk) :
    let after := afterFailedTask render refuse lost config errand row text desk
    after.bridge.service.commands = desk.bridge.service.commands ∧
      after.bridge.recorded = desk.bridge.recorded ∧ after.effects = desk.effects := by
  dsimp only
  unfold afterFailedTask
  cases taskOf row with
  | none => exact ⟨rfl, rfl, rfl⟩
  | some =>
      dsimp only
      rw [bridgeCall_alone halone]
      split
      · refine ⟨?_, List.append_nil _, rfl⟩
        exact respond_commands_of_task rfl _
      · exact ⟨rfl, rfl, rfl⟩

theorem recordCommandResult_failed {report : Report} (hfails : report.completes = false)
    (service : Service) (clock : Clock) :
    ((∃ old, service.commands.get report.commandId = some old) →
        CommandFailed (recordCommandResult render service report clock).1.commands
          report.commandId) ∧
      ((¬ ∃ old, service.commands.get report.commandId = some old) →
        (recordCommandResult render service report clock).1 = service) := by
  constructor
  · rintro ⟨old, hold⟩
    obtain ⟨after, hok, hdeleted, hrows⟩ := recordCommand_of_some render clock hold
    have hwritten := CommandTable.get_of_update hold hdeleted hrows
    rw [recordCommandResult_commands, hok, committed_ok]
    refine ⟨_, hwritten, ?_⟩
    rw [reportedRow_status, Report.commandStatus, hfails]
    rfl
  · intro hunknown
    have hget : service.commands.get report.commandId = none := by
      cases hfound : service.commands.get report.commandId with
      | none => rfl
      | some found => exact absurd ⟨found, hfound⟩ hunknown
    obtain ⟨raised, hraised⟩ := recordCommand_of_none render clock hget
    simp only [recordCommandResult, hraised]

theorem served_report (report : Report) (arrival : Arrival) (desk : Desk) :
    (desk.served render (.call (.recordCommandResult report)) arrival).bridge.service =
      (recordCommandResult render desk.bridge.service report arrival.clock).1 := by
  simp only [Desk.served, serve, respond, perform]

theorem served_recorded (request : Request) (arrival : Arrival) (desk : Desk) :
    (desk.served render request arrival).bridge.recorded =
      desk.bridge.recorded ++ recordedBy render desk.bridge.service request arrival.clock := by
  simp only [Desk.served, serve]

theorem served_effects (request : Request) (arrival : Arrival) (desk : Desk) :
    (desk.served render request arrival).effects = desk.effects := by
  simp only [Desk.served]

theorem failedReport_spec (halone : errand.failedReport.others = []) {report : Report}
    (hcommand : report.commandId = commandId) (hfails : report.completes = false) (desk : Desk) :
    let after := (exec (bridgeCall render refuse lost errand.failedReport
      (.call (.recordCommandResult report))) desk).2
    (ReportHeard errand commandId desk → CommandFailed after.bridge.service.commands commandId) ∧
      (¬ ReportHeard errand commandId desk → after.bridge.service = desk.bridge.service) ∧
      after.bridge.recorded = desk.bridge.recorded ∧ after.effects = desk.effects := by
  subst hcommand
  dsimp only
  rw [bridgeCall_alone halone]
  unfold ReportHeard
  cases errand.failedReport.fate.arrives with
  | false => simp
  | true =>
      simp only [if_true, true_and]
      have hnothing : recordedBy render desk.bridge.service (.call (.recordCommandResult report))
          errand.failedReport.arrival.clock = [] := by
        rw [recordedBy, hfails]
        simp
      have hspec := @recordCommandResult_failed render report hfails desk.bridge.service
        errand.failedReport.arrival.clock
      rw [served_report, served_recorded, served_effects, hnothing, List.append_nil]
      exact ⟨hspec.1, hspec.2, rfl, rfl⟩

structure Handled (config : AgentConfig) (errand : Errand) (row : Command Address) (commandId : Id)
    (desk after : Desk) : Prop where
  command : CommandFailed after.bridge.service.commands commandId ↔
    ReportHeard errand commandId desk
  task : ¬ ReportHeard errand commandId desk →
    (TaskFailed after.bridge.service.tasks row ↔ TaskHeard config errand row desk)
  recorded : after.bridge.recorded = desk.bridge.recorded
  effects : after.effects = desk.effects

theorem handled_reportFailure (halone : errand.Undisturbed) (raised : String) {desk : Desk}
    (hunfailed : desk.Unfailed row commandId) :
    Handled config errand row commandId desk
      (exec (reportFailure render refuse lost config errand row commandId raised) desk).2 := by
  rw [exec_reportFailure]
  generalize compactText raised "Unknown error" = text
  have hfirst : errand.failedTask.others = [] := halone _ (by simp [Errand.slots])
  have hsecond : errand.failedReport.others = [] := halone _ (by simp [Errand.slots])
  have htask := @taskFailed_afterFailedTask render refuse lost config errand row commandId hfirst
    text desk hunfailed
  obtain ⟨hcommands, hrecorded, heffects⟩ :=
    @afterFailedTask_frame render refuse lost config errand row hfirst text desk
  generalize afterFailedTask render refuse lost config errand row text desk = middle at *
  have hheard : ReportHeard errand commandId middle ↔ ReportHeard errand commandId desk := by
    rw [ReportHeard, ReportHeard, hcommands]
  obtain ⟨hfails, hkeeps, hrecorded', heffects'⟩ :=
    @failedReport_spec render refuse lost errand commandId hsecond
      (failedReport config commandId text) rfl (not_completes_failedReport config text) middle
  generalize (exec (bridgeCall render refuse lost errand.failedReport (.call (.recordCommandResult
    (failedReport config commandId text)))) middle).2 = reported at *
  have hsame := @sameTale_performSync render refuse lost config row commandId errand.resync
    (fun slot hslot => halone slot (mem_slots_resync hslot)) reported
  rw [hheard] at hfails hkeeps
  constructor
  · rw [hsame.command]
    constructor
    · intro hfailed
      by_contra hunheard
      rw [hkeeps hunheard, hcommands] at hfailed
      exact hunfailed.command hfailed
    · exact hfails
  · intro hunheard
    rw [hsame.task, hkeeps hunheard]
    exact htask
  · rw [hsame.recorded, hrecorded', hrecorded]
  · rw [hsame.effects, heffects', heffects]

end Handler

/-! ## The try block -/

section Attempt

variable {render : Json → String} {refuse : ServiceError → String} {lost : String}
  {config : AgentConfig} {errand : Errand} {row : Command Address} {commandId : Id}
  {claimed : Desk}

theorem harmless_effects (effects : List (Id × LocalEffect)) (request : Request) :
    Harmless render (fun desk => desk.effects = effects) request := by
  intro arrival desk hsame
  rw [served_effects]
  exact hsame

theorem endures_effects (effects : List (Id × LocalEffect)) :
    Endures render (fun desk => desk.effects = effects) config commandId where
  beats _ _ := harmless_effects effects _
  evidence _ _ := harmless_effects effects _
  completes _ _ := harmless_effects effects _
  reports _ := harmless_effects effects _
  lists _ := harmless_effects effects _
  syncs _ := harmless_effects effects _
  boots _ hsame := hsame

theorem announceStart_frame (halone : errand.Undisturbed) (desk : Desk) :
    let after := (exec (callAll render refuse lost (announceStart config errand row)) desk).2
    after.effects = desk.effects ∧ after.bridge.recorded = desk.bridge.recorded := by
  have hkeeps : Keeps (fun after : Desk =>
      after.effects = desk.effects ∧ after.bridge.recorded = desk.bridge.recorded)
      (callAll render refuse lost (announceStart config errand row)) := by
    apply keeps_callAll
    · intro next hnext
      exact harmless_of_alone (halone _ (announceStart_slot hnext).1)
    · intro next hnext arrival middle hsame
      obtain ⟨task, _, rfl⟩ := List.mem_map.mp hnext
      refine ⟨hsame.1, ?_⟩
      rw [served_recorded]
      exact (List.append_nil _).trans hsame.2
  exact hkeeps desk ⟨rfl, rfl⟩

variable {after : Desk} {done : Done}

theorem attemptCommand_error (halone : errand.Undisturbed) {raised : String}
    (hraised : exec (attemptCommand render refuse lost config errand row commandId) claimed =
      (.error raised, after)) :
    (after.effects = claimed.effects ∧ after.bridge.recorded = claimed.bridge.recorded ∧
        ∀ done other, ¬ CutOff render refuse lost config errand row commandId claimed done other) ∨
      ∃ done, CutOff render refuse lost config errand row commandId claimed done after := by
  have hframe := @announceStart_frame render refuse lost config errand row halone claimed
  rcases exec_bind_error.1 hraised with hannounce | ⟨⟨⟩, started, hannounce, hrest⟩
  · left
    rw [hannounce] at hframe
    refine ⟨hframe.1, hframe.2, ?_⟩
    rintro done other ⟨_, _, _, hreturned, _⟩
    rw [hannounce] at hreturned
    cases hreturned
  · rw [hannounce] at hframe
    rcases exec_bind_error.1 hrest with hwork | ⟨done, worked, hwork, hconclude⟩
    · left
      obtain ⟨_, rfl⟩ := exec_transaction_error.1 hwork
      refine ⟨hframe.1, hframe.2, ?_⟩
      rintro done other ⟨started', _, _, hreturned, hworked, _⟩
      rw [hannounce] at hreturned
      cases hreturned
      rw [hwork] at hworked
      cases hworked
    · exact Or.inr ⟨done, started, worked, raised, hannounce, hwork, hconclude⟩

theorem CutOff.raises
    (hcut : CutOff render refuse lost config errand row commandId claimed done after) :
    ∃ raised, exec (attemptCommand render refuse lost config errand row commandId) claimed =
      (.error raised, after) := by
  obtain ⟨started, worked, raised, hannounce, hwork, hconclude⟩ := hcut.cut
  refine ⟨raised, exec_bind_error.2 (Or.inr ⟨⟨⟩, started, hannounce, ?_⟩)⟩
  exact exec_bind_error.2 (Or.inr ⟨done, worked, hwork, hconclude⟩)

theorem CutOff.unique {done' : Done} {after' : Desk}
    (hone : CutOff render refuse lost config errand row commandId claimed done after)
    (hother : CutOff render refuse lost config errand row commandId claimed done' after') :
    done' = done ∧ after' = after := by
  obtain ⟨started, worked, raised, hannounce, hwork, hconclude⟩ := hone.cut
  obtain ⟨started', worked', raised', hannounce', hwork', hconclude'⟩ := hother.cut
  rw [hannounce] at hannounce'
  cases hannounce'
  rw [hwork] at hwork'
  cases hwork'
  rw [hconclude] at hconclude'
  cases hconclude'
  exact ⟨rfl, rfl⟩

theorem CutOff.effects (halone : errand.Undisturbed)
    (hcut : CutOff render refuse lost config errand row commandId claimed done after) :
    after.effects =
      claimed.effects ++ done.effect.toList.map fun effect => (commandId, effect) := by
  obtain ⟨started, worked, raised, hannounce, hwork, hconclude⟩ := hcut.cut
  have hframe := @announceStart_frame render refuse lost config errand row halone claimed
  rw [hannounce] at hframe
  have hworked : worked.effects =
      started.effects ++ done.effect.toList.map fun effect => (commandId, effect) := by
    rw [workOnMachine] at hwork
    have hbody := exec_transaction_ok.1 hwork
    obtain ⟨found, _, hpair⟩ := map_eq_ok.1 hbody
    cases hpair
    rfl
  have hkeeps : Keeps (fun desk => desk.effects = worked.effects)
      (concludeCommand render refuse lost config errand row commandId done) :=
    (endures_effects worked.effects).concludeCommand
      (fun slot hslot => harmless_of_alone (halone slot hslot)) done
  have hafter := hkeeps worked rfl
  rw [hconclude] at hafter
  rw [hafter, hworked, hframe.1]

end Attempt

/-! ## The claim of a command -/

section Claimed

variable {render : Json → String} {refuse : ServiceError → String} {lost : String}
  {config : AgentConfig} {errand : Errand} {row : Command Address} {commandId : Id}
  {desk claimed : Desk}

/-- What the agent starts from: nothing has failed, nothing was done, nothing is on record. -/
structure Claimed (row : Command Address) (commandId : Id) (desk : Desk) : Prop where
  unfailed : desk.Unfailed row commandId
  untouched : desk.Untouched commandId
  unrecorded : commandId ∉ desk.bridge.recorded

theorem claimed_of_answer (halone : errand.claim.others = []) (hfresh : desk.Fresh)
    (hclaimed : exec (bridgeCall render refuse lost errand.claim
      (.call (.claimNextCommand config.machineId config.workerId errand.drawn))) desk =
        (.ok (.claimed (some (row, commandId))), claimed)) :
    Claimed row commandId claimed := by
  have hout := handedOut_of_claimed hclaimed
  rw [halone] at hout
  obtain ⟨waiting, hwaited, hrow⟩ := hout.waited
  obtain ⟨hfound, hkeep⟩ := Table.firstBy_selectWhere hwaited
  have hqueued := (of_decide_eq_true hkeep).2
  have hunbegun : ¬ Begun desk.bridge.service.commands commandId := by
    rintro ⟨other, hother, hstatus⟩
    obtain rfl := Option.some.inj (hfound.symm.trans hother)
    exact hstatus hqueued
  have hstate := @bridgeCall_alone render refuse lost _ halone
    (.call (.claimNextCommand config.machineId config.workerId errand.drawn)) desk
  rw [hclaimed] at hstate
  have hframe : claimed.effects = desk.effects ∧
      claimed.bridge.recorded = desk.bridge.recorded := by
    dsimp only at hstate
    rw [hstate]
    split
    · rw [served_effects, served_recorded]
      exact ⟨rfl, List.append_nil _⟩
    · exact ⟨rfl, rfl⟩
  refine ⟨⟨?_, ?_⟩, ?_, ?_⟩
  · rintro ⟨other, hother, hstatus⟩
    obtain rfl := Option.some.inj (hout.runs.symm.trans hother)
    rw [hrow] at hstatus
    cases hstatus
  · rintro ⟨name, hname, hfailed⟩
    cases htask : row.address.taskId with
    | none => simp [taskOf, htask] at hname
    | some raw =>
        have hstarted := hout.task raw htask
        have hnamed : ∃ task, taskNamed claimed.bridge.service.tasks raw = some task := by
          obtain ⟨task, _, hnamed, _⟩ := hstarted
          exact ⟨task, hnamed⟩
        obtain ⟨task, hnamed⟩ := hnamed
        rw [taskOf_of_named htask hnamed] at hname
        cases hname
        cases hstarted.status_eq hfailed
  · intro effect heffect
    rw [hframe.1] at heffect
    exact hunbegun (hfresh.effects commandId effect heffect)
  · intro hrecorded
    rw [hframe.2] at hrecorded
    exact hunbegun (hfresh.recorded commandId hrecorded)

end Claimed

/-! ## The result -/

theorem tellsTruth_of_unfailed {row : Command Address} {commandId : Id} {desk : Desk}
    (hunfailed : desk.Unfailed row commandId) : TellsTruth desk row commandId where
  command hfailed := absurd hfailed hunfailed.command
  task hfailed := absurd hfailed hunfailed.task
  recorded _ := hunfailed.command

theorem Handled.tellsTruth_iff {config : AgentConfig} {errand : Errand} {row : Command Address}
    {commandId : Id} {desk after : Desk}
    (hhandled : Handled config errand row commandId desk after) {nothing : Prop}
    (huntouched : after.Untouched commandId ↔ nothing) :
    TellsTruth after row commandId ↔ (nothing ∧ commandId ∉ desk.bridge.recorded) ∨
      (¬ ReportHeard errand commandId desk ∧ (nothing ∨ ¬ TaskHeard config errand row desk)) := by
  have hcommand := hhandled.command
  have htask := hhandled.task
  have hrecorded := hhandled.recorded
  by_cases hheard : ReportHeard errand commandId desk
  · have hfailed := hcommand.mpr hheard
    constructor
    · intro htold
      left
      refine ⟨huntouched.mp (htold.command hfailed), ?_⟩
      intro hrecord
      rw [← hrecorded] at hrecord
      exact htold.recorded hrecord hfailed
    · rintro (⟨hnothing, hunrecorded⟩ | ⟨hunheard, _⟩)
      · refine ⟨fun _ => huntouched.mpr hnothing, fun _ => huntouched.mpr hnothing, ?_⟩
        intro hrecord
        rw [hrecorded] at hrecord
        exact absurd hrecord hunrecorded
      · exact absurd hheard hunheard
  · have hopen : ¬ CommandFailed after.bridge.service.commands commandId :=
      fun hfailed => hheard (hcommand.mp hfailed)
    constructor
    · intro htold
      right
      refine ⟨hheard, ?_⟩
      by_cases hfailed : TaskHeard config errand row desk
      · exact Or.inl (huntouched.mp (htold.task ((htask hheard).mpr hfailed)))
      · exact Or.inr hfailed
    · intro hcandid
      refine ⟨fun hfailed => absurd hfailed hopen, ?_, fun _ => hopen⟩
      intro hfailed
      rcases hcandid with ⟨hnothing, _⟩ | ⟨_, hnothing | hunheard⟩
      · exact huntouched.mpr hnothing
      · exact huntouched.mpr hnothing
      · exact absurd ((htask hheard).mp hfailed) hunheard

theorem untouched_append_iff {commandId : Id} {effects : List (Id × LocalEffect)}
    (huntouched : ∀ effect, (commandId, effect) ∉ effects) {effect : Option LocalEffect} :
    (∀ found, (commandId, found) ∉
      effects ++ effect.toList.map fun effect => (commandId, effect)) ↔ effect = none := by
  cases effect with
  | none => simpa using huntouched
  | some effect =>
      constructor
      · intro hall
        exact absurd (List.mem_append_right effects List.mem_cons_self) (hall effect)
      · intro hnone
        cases hnone

/-- After any history, what an undisturbed errand tells of its command is true exactly when each
failure after the local work is no lie or is not heard. -/
theorem reported_truly_iff (render : Json → String) (refuse : ServiceError → String)
    (lost : String) (config : AgentConfig) (history : List Turn) (errand : Errand)
    (halone : errand.Undisturbed) {row : Command Address} {commandId : Id} {claimed : Desk}
    (hclaimed : exec (bridgeCall render refuse lost errand.claim
      (.call (.claimNextCommand config.machineId config.workerId errand.drawn)))
        (Run.run (Desk.turn render refuse lost config) .empty history) =
          (.ok (.claimed (some (row, commandId))), claimed)) :
    TellsTruth (exec (executeNextCommand render refuse lost config errand)
        (Run.run (Desk.turn render refuse lost config) .empty history)).2 row commandId ↔
      Candid render refuse lost config errand row commandId claimed := by
  have hfirst : errand.claim.others = [] := halone _ (by simp [Errand.slots])
  have hstart := claimed_of_answer hfirst (fresh_run history) hclaimed
  have hothers : ∀ slot ∈ errand.slots, slot.Harmless render (Desk.Unfailed row commandId) :=
    fun slot hslot => harmless_of_alone (halone slot hslot)
  have hattempt : Keeps (Desk.Unfailed row commandId)
      (attemptCommand render refuse lost config errand row commandId) :=
    (endures_unfailed config).attemptCommand hothers fun _ _ hunfailed => hunfailed
  have hafter := hattempt claimed hstart.unfailed
  rw [executeNextCommand, exec_bind, hclaimed]
  dsimp only
  rw [exec_carryOut]
  rcases hresult : exec (attemptCommand render refuse lost config errand row commandId) claimed with
    ⟨outcome, after⟩
  rw [hresult] at hafter
  cases outcome with
  | ok value =>
      refine iff_of_true (tellsTruth_of_unfailed hafter) ?_
      intro done other hcut
      obtain ⟨raised, hraised⟩ := hcut.raises
      rw [hresult] at hraised
      cases hraised
  | error raised =>
      dsimp only
      have hhandled := @handled_reportFailure render refuse lost config errand row commandId halone
        raised after hafter
      rcases attemptCommand_error halone hresult with ⟨heffects, hrecorded, hnone⟩ | ⟨done, hcut⟩
      · refine iff_of_true ?_ fun done other hcut => absurd hcut (hnone done other)
        have huntouched : Desk.Untouched (exec (reportFailure render refuse lost config errand row
            commandId raised) after).2 commandId := by
          intro effect heffect
          rw [hhandled.effects, heffects] at heffect
          exact hstart.untouched effect heffect
        refine ⟨fun _ => huntouched, fun _ => huntouched, ?_⟩
        intro hrecord
        rw [hhandled.recorded, hrecorded] at hrecord
        exact absurd hrecord hstart.unrecorded
      · have huntouched : Desk.Untouched (exec (reportFailure render refuse lost config errand row
            commandId raised) after).2 commandId ↔ done.effect = none := by
          rw [Desk.Untouched, hhandled.effects, hcut.effects halone]
          exact untouched_append_iff hstart.untouched
        have hcandid : Candid render refuse lost config errand row commandId claimed ↔
            (done.effect = none ∧ commandId ∉ after.bridge.recorded) ∨
              (¬ ReportHeard errand commandId after ∧
                (done.effect = none ∨ ¬ TaskHeard config errand row after)) := by
          constructor
          · intro hall
            exact hall done after hcut
          · intro hhere other between hother
            obtain ⟨rfl, rfl⟩ := hcut.unique hother
            exact hhere
        rw [hcandid]
        exact hhandled.tellsTruth_iff huntouched

/-! ## A closing sync that is lost -/

def handsOut (commandId : Id) : Except String Answer → Bool
  | .ok (.claimed (some (_, found))) => found = commandId
  | _ => false

theorem claimed_of_handsOut {commandId : Id} {result : Except String Answer × Desk}
    (hhands : handsOut commandId result.1) :
    ∃ row claimed, result = (.ok (.claimed (some (row, commandId))), claimed) := by
  obtain ⟨outcome, claimed⟩ := result
  dsimp only at hhands
  unfold handsOut at hhands
  split at hhands
  · rename_i row found
    obtain rfl := of_decide_eq_true hhands
    exact ⟨row, claimed, rfl⟩
  · cases hhands

/-- Every call goes through but the closing sync. -/
def lostSync : Errand := { smoothErrand with sync := ⟨[], none, soloSlot .lostBefore 8⟩ }

def onePrompt : List Turn :=
  [.visits [(.call (.enqueueTurn ⟨desk, "p", [], []⟩), ⟨fun _ => 0, 0⟩)]]

def promptedDesk : Desk :=
  Run.run (Desk.turn (fun _ => "") ServiceError.text "lost" soloAgent) .empty onePrompt

/-- The turn was submitted and its completion recorded, and the command ends as failed. -/
theorem completed_command_failed :
    ∃ row claimed, exec (bridgeCall (fun _ => "") ServiceError.text "lost" lostSync.claim
        (.call (.claimNextCommand "m" "w" "l"))) promptedDesk =
          (.ok (.claimed (some (row, 0))), claimed) ∧
      ¬ TellsTruth (exec (executeNextCommand (fun _ => "") ServiceError.text "lost" soloAgent
        lostSync) promptedDesk).2 row 0 := by
  have hhands : handsOut 0 (exec (bridgeCall (fun _ => "") ServiceError.text "lost" lostSync.claim
      (.call (.claimNextCommand "m" "w" "l"))) promptedDesk).1 := by decide +kernel
  obtain ⟨row, claimed, hclaimed⟩ := claimed_of_handsOut hhands
  refine ⟨row, claimed, hclaimed, ?_⟩
  intro htold
  have hrecorded : 0 ∈ (exec (executeNextCommand (fun _ => "") ServiceError.text "lost" soloAgent
      lostSync) promptedDesk).2.bridge.recorded := by decide +kernel
  apply htold.recorded hrecorded
  have hfailed : ((exec (executeNextCommand (fun _ => "") ServiceError.text "lost" soloAgent
      lostSync) promptedDesk).2.bridge.service.commands.get 0).any
        fun found => found.status = .failed := by decide +kernel
  obtain ⟨found, hfound, hstatus⟩ := (Option.any_eq_true ..).mp hfailed
  exact ⟨found, hfound, of_decide_eq_true hstatus⟩

/-- The same errand, judged by its calls. -/
theorem lost_sync_judged :
    ∃ row claimed, exec (bridgeCall (fun _ => "") ServiceError.text "lost" lostSync.claim
        (.call (.claimNextCommand "m" "w" "l"))) promptedDesk =
          (.ok (.claimed (some (row, 0))), claimed) ∧
      (TellsTruth (exec (executeNextCommand (fun _ => "") ServiceError.text "lost" soloAgent
          lostSync) promptedDesk).2 row 0 ↔
        Candid (fun _ => "") ServiceError.text "lost" soloAgent lostSync row 0 claimed) := by
  have hhands : handsOut 0 (exec (bridgeCall (fun _ => "") ServiceError.text "lost" lostSync.claim
      (.call (.claimNextCommand "m" "w" "l"))) promptedDesk).1 := by decide
  obtain ⟨row, claimed, hclaimed⟩ := claimed_of_handsOut hhands
  have halone : lostSync.Undisturbed := by
    intro slot hslot
    simp [Errand.slots, SyncPlan.slots, lostSync, smoothErrand, soloSlot] at hslot
    rcases hslot with rfl | rfl | rfl | rfl | rfl | rfl | rfl | rfl | rfl | rfl <;> rfl
  exact ⟨row, claimed, hclaimed, reported_truly_iff (fun _ => "") ServiceError.text "lost" soloAgent
    onePrompt lostSync halone hclaimed⟩

end OpsCure.RemoteCodex
