/-
What one request does to the commands of the bridge, whoever it comes from: it adds a queued
command, hands one out, settles one, or leaves the rows alone.
-/
import OpsCure.AgentBridge
import OpsCure.CommandPairs
import OpsCure.HeldTasks

namespace OpsCure.RemoteCodex

open Fallible Table RemoteCommand

/-! ## The commands -/

/-- What becomes of the command rows where none is added. -/
inductive RowChange (table after : CommandTable) : Prop where
  | kept (hqueue : after.queue = table.queue)
  | handed (id : Id) (row claimed : Command Address)
      (hrow : table.queue.commands[id]? = some row) (hqueued : row.status = .queued)
      (hclaimed : claimed.status = .running)
      (hrows : after.queue.commands = update table.queue.commands id claimed)
  | settled (id : Id) (row written : Command Address)
      (hrow : table.queue.commands[id]? = some row)
      (hwritten : written.status = .completed ∨ written.status = .failed)
      (hrows : after.queue.commands = update table.queue.commands id written)

section Changes

variable {render : Json → String} {service : Service}

/-- A request has queued a command, and answers with its id. -/
structure Announced (service : Service) (outcome : Outcome) (row : Command Address) : Prop where
  answer : ∃ task, outcome.2 = .ok (.enqueued task service.commands.queue.commands.length)
  stored : outcome.1.commands.get service.commands.queue.commands.length = some row
  status : row.status = .queued
  rows : outcome.1.commands.queue.commands = service.commands.queue.commands ++ [row]

/-- A request queues a command, or leaves the rows alone. -/
def Enqueues (service : Service) (outcome : Outcome) : Prop :=
  outcome.1.commands.queue = service.commands.queue ∨ ∃ row, Announced service outcome row

theorem announced_enqueueCommand {between : CommandTable}
    (hqueue : between.queue = service.commands.queue) (payload : EnqueueRequest Address)
    (clock : Clock) (tasks : RemoteTask.Db) (task : Option Id) :
    Announced service (⟨between.enqueueCommand render payload clock, tasks⟩,
      .ok (.enqueued task between.queue.commands.length)) (queuedRow payload clock) := by
  constructor
  · rw [hqueue]
    exact ⟨task, rfl⟩
  · rw [← hqueue]
    exact get_enqueueCommand.2 (Or.inr ⟨rfl, rfl⟩)
  · rfl
  · rw [← hqueue]
    rfl

theorem enqueues_enqueueForMachine (commandType : String) (request : MachineRequest)
    (clock : Clock) :
    Enqueues service (enqueueForMachine render commandType service request clock) := by
  unfold enqueueForMachine
  split
  · exact Or.inl rfl
  · exact Or.inr ⟨_, announced_enqueueCommand rfl _ _ _ _⟩

theorem enqueues_enqueueTurn (request : TurnRequest) (clock : Clock) :
    Enqueues service (enqueueTurn render service request clock) := by
  simp only [enqueueTurn]
  cases requireTurn request.addressee
      (buildBrowserTurnPrompt request.prompt request.attachments) with
  | error => exact Or.inl rfl
  | ok => exact Or.inr ⟨_, announced_enqueueCommand rfl _ _ _ _⟩

theorem enqueues_enqueueInterrupt (request : InterruptRequest) (clock : Clock) :
    Enqueues service (enqueueInterrupt render service request clock) := by
  simp only [enqueueInterrupt]
  cases requireLiveThread request.addressee with
  | error => exact Or.inl rfl
  | ok =>
      cases (getActiveThreadCommand render service.tasks service.commands
          request.addressee.machineId request.addressee.threadId (some turnInterrupt)
          (clock 0)).2 with
      | some => exact Or.inl rfl
      | none =>
          have hqueue : (interruptedTurnId render service.tasks
              (getActiveThreadCommand render service.tasks service.commands
                request.addressee.machineId request.addressee.threadId (some turnInterrupt)
                (clock 0)).1 request (clock 1)).1.queue = service.commands.queue :=
            interruptedTurnId_queue ..
          cases (interruptedTurnId render service.tasks
              (getActiveThreadCommand render service.tasks service.commands
                request.addressee.machineId request.addressee.threadId (some turnInterrupt)
                (clock 0)).1 request (clock 1)).2 with
          | none => exact Or.inl hqueue
          | some => exact Or.inr ⟨_, announced_enqueueCommand hqueue _ _ _ _⟩

theorem enqueues_enqueueThreadDelete (request : DeleteRequest) (clock : Clock) :
    Enqueues service (enqueueThreadDelete render service request clock) := by
  simp only [enqueueThreadDelete]
  cases requireThread request.addressee with
  | error => exact Or.inl rfl
  | ok =>
      cases (getActiveThreadCommand render service.tasks service.commands
          request.addressee.machineId request.addressee.threadId none (clock 0)).2 with
      | some => exact Or.inl rfl
      | none =>
          have hqueue : (service.commands.prune render service.tasks request.addressee.machineId
              request.addressee.threadId (clock 0)).queue = service.commands.queue := rfl
          exact Or.inr ⟨_, announced_enqueueCommand hqueue _ _ _ _⟩

theorem change_claimNextCommand (table : CommandTable) (machineId workerId : String)
    (clock : Clock) :
    RowChange table (table.claimNextCommand render machineId workerId clock).1 := by
  cases hnext : nextQueued table.queue machineId with
  | none => exact .kept (claimNextCommand_of_none render workerId clock hnext).2
  | some found =>
      obtain ⟨row, id⟩ := found
      obtain ⟨hget, hqueued, _, _, hrows⟩ := claimNextCommand_of_some render workerId clock hnext
      exact .handed id row _ (CommandTable.get_eq_some.1 hget).2 hqueued rfl hrows

theorem change_recordCommand (table : CommandTable) (report : Report) (clock : Clock) :
    RowChange table (committed table (recordCommand render table report clock)) := by
  cases hget : table.get report.commandId with
  | none =>
      obtain ⟨raised, hraised⟩ := recordCommand_of_none render clock hget
      rw [hraised]
      exact .kept rfl
  | some row =>
      obtain ⟨after, hok, _, hrows⟩ := recordCommand_of_some render clock hget
      rw [hok]
      apply RowChange.settled report.commandId row _ (CommandTable.get_eq_some.1 hget).2 _ hrows
      rw [reportedRow_status, Report.commandStatus]
      cases report.completes with
      | true => exact Or.inl rfl
      | false => exact Or.inr rfl

theorem applyAgentSync_queue (machineId : String) (threadIds : List String) (now : Time) :
    (applyAgentSync render service machineId threadIds now).commands.queue =
      service.commands.queue := by
  have hfold : ∀ table : CommandTable,
      (threadIds.foldl (fun commands threadId =>
        commands.prune render service.tasks machineId threadId now) table).queue = table.queue := by
    intro table
    induction threadIds generalizing table with
    | nil => rfl
    | cons threadId threadIds ih => exact ih _
  exact hfold service.commands

@[simp]
theorem callHeldTask_commands (name : String) (operation : Id → String → RemoteTask.Operation)
    (clock : Clock) :
    (callHeldTask service name operation clock).1.commands = service.commands := by
  unfold callHeldTask
  split
  · rfl
  · split
    · rfl
    · exact callTask_commands _ _ _

@[simp]
theorem agentAddEvidence_commands (name : String) (payload : RemoteTask.EvidenceRequest)
    (clock : Clock) :
    (agentAddEvidence service name payload clock).1.commands = service.commands := by
  unfold agentAddEvidence
  split
  · rfl
  · exact callTask_commands _ _ _

def Request.ofTask : Request → Bool
  | .agentHeartbeatTask .. | .agentAddEvidence .. | .agentCompleteTask .. | .agentFailTask .. => true
  | _ => false

theorem respond_commands_of_task {request : Request} (htask : request.ofTask) (clock : Clock) :
    (respond render service request clock).1.commands = service.commands := by
  cases request with
  | agentHeartbeatTask => exact callHeldTask_commands _ _ _
  | agentAddEvidence => exact agentAddEvidence_commands _ _ _
  | agentCompleteTask => exact callHeldTask_commands _ _ _
  | agentFailTask => exact callHeldTask_commands _ _ _
  | call | agentSync | publish => cases htask

def Operation.enqueues : Operation → Bool
  | .enqueueTurn _ | .enqueueInterrupt _ | .enqueueThreadDelete _ | .enqueueThreadStart _
  | .enqueueFsList _ | .enqueueFsMkdir _ => true
  | _ => false

theorem enqueues_perform {operation : Operation} (henqueues : operation.enqueues) (clock : Clock) :
    Enqueues service (perform render service ⟨operation, clock⟩) := by
  cases operation with
  | enqueueTurn request => exact enqueues_enqueueTurn request clock
  | enqueueInterrupt request => exact enqueues_enqueueInterrupt request clock
  | enqueueThreadDelete request => exact enqueues_enqueueThreadDelete request clock
  | enqueueThreadStart request | enqueueFsList request | enqueueFsMkdir request =>
      exact enqueues_enqueueForMachine _ request clock
  | claimNextCommand | recordCommandResult | listThreadCommands | task => cases henqueues

theorem rowChange_respond {request : Request}
    (hother : ∀ operation, request = .call operation → operation.enqueues = false)
    (clock : Clock) :
    RowChange service.commands (respond render service request clock).1.commands := by
  cases request with
  | agentHeartbeatTask | agentAddEvidence | agentCompleteTask | agentFailTask =>
      apply RowChange.kept
      apply congrArg CommandTable.queue
      apply respond_commands_of_task
      rfl
  | agentSync machineId threadIds => exact .kept (applyAgentSync_queue machineId threadIds _)
  | publish => exact .kept rfl
  | call operation =>
      have hquiet := hother operation rfl
      cases operation with
      | enqueueTurn | enqueueInterrupt | enqueueThreadDelete | enqueueThreadStart | enqueueFsList
      | enqueueFsMkdir => cases hquiet
      | claimNextCommand machineId workerId drawn =>
          have hcommands := claimNext_commands render service machineId workerId drawn clock
          simp only [respond, perform, hcommands]
          exact change_claimNextCommand service.commands machineId workerId clock
      | recordCommandResult report =>
          simp only [respond, perform, recordCommandResult_commands]
          exact change_recordCommand service.commands report clock
      | listThreadCommands => exact .kept rfl
      | task operation =>
          have hcommands := callTask_commands service operation clock
          exact .kept (congrArg CommandTable.queue hcommands)

inductive CommandChange (service : Service) (outcome : Outcome) : Prop where
  | among (hrows : RowChange service.commands outcome.1.commands)
  | added (row : Command Address) (hannounced : Announced service outcome row)

theorem change_respond (service : Service) (request : Request) (clock : Clock) :
    CommandChange service (respond render service request clock) := by
  by_cases henqueues : ∃ operation, request = .call operation ∧ operation.enqueues = true
  · obtain ⟨operation, rfl, henqueues⟩ := henqueues
    rcases enqueues_perform henqueues clock with hqueue | ⟨row, hannounced⟩
    · exact .among (.kept hqueue)
    · exact .added row hannounced
  · apply CommandChange.among
    apply rowChange_respond
    intro operation hcall
    cases hsame : operation.enqueues with
    | false => rfl
    | true => exact absurd ⟨operation, hcall, hsame⟩ henqueues

end Changes

/-! ## What a claim hands out -/

section Claims

variable {render : Json → String} {service : Service} {clock : Clock}

theorem callTask_ok {operation : RemoteTask.Operation}
    (hok : (callTask service operation clock).2 = .ok ⟨⟩) :
    ∃ tasks, RemoteTask.perform service.tasks ⟨operation, clock⟩ = .ok tasks ∧
      (callTask service operation clock).1 = { service with tasks := tasks } := by
  unfold callTask at hok ⊢
  cases hperform : RemoteTask.perform service.tasks ⟨operation, clock⟩ with
  | error =>
      rw [hperform] at hok
      cases hok
  | ok tasks => exact ⟨tasks, rfl, rfl⟩

theorem taskIs_of_perform {tasks after : RemoteTask.Db} {operation : RemoteTask.Operation}
    {task : Id} {name : String} (htarget : operation.target tasks = some task)
    (hok : RemoteTask.perform tasks ⟨operation, clock⟩ = .ok after)
    (hnamed : taskNamed tasks name = some task) :
    ∃ row, tasks.tasks[task]? = some row ∧ TaskIs after name (operation.statusAfter row.status) := by
  obtain ⟨row, row', hwrote, hresult⟩ := RemoteTask.perform_rewrote htarget hok
  have hlength : after.tasks.length = tasks.tasks.length := by
    rw [hwrote.wrote, update, List.length_set]
  refine ⟨row, hwrote.read, task, row', ?_, ?_, hresult.status⟩
  · rw [taskNamed_congr hlength, hnamed]
  · rw [hwrote.wrote]
    exact getElem?_update_self hwrote.read

structure HandedOut (service after : Service) (machineId workerId : String) (clock : Clock)
    (row : Command Address) (id : Id) : Prop where
  waited : ∃ waiting, nextQueued service.commands.queue machineId = some (waiting, id) ∧
    row = claimedRow waiting workerId (clock 0)
  runs : after.commands.get id = some row
  task : ∀ name ∈ row.address.taskId, TaskIs after.tasks name .claimed

theorem handedOut_of_claimNext {machineId workerId drawn : String} {row : Command Address} {id : Id}
    (hanswer : (claimNext render service machineId workerId drawn clock).2 =
      .ok (.claimed (some (row, id)))) :
    HandedOut service (claimNext render service machineId workerId drawn clock).1 machineId workerId
      clock row id := by
  cases hnext : nextQueued service.commands.queue machineId with
  | none =>
      have hclaim := claimNextCommand_of_none render workerId clock hnext
      simp only [claimNext, hclaim.1] at hanswer
      cases hanswer
  | some found =>
      obtain ⟨waiting, found⟩ := found
      obtain ⟨hget, _, hclaimed, hdeleted, hrows⟩ :=
        claimNextCommand_of_some render workerId clock hnext
      have hruns := CommandTable.get_of_update hget hdeleted hrows
      have hhanded : found = id ∧ claimedRow waiting workerId (clock 0) = row := by
        rcases claimNext_answer render service workerId drawn clock hnext with hok | ⟨raised, hraised⟩
        · rw [hok] at hanswer
          cases hanswer
          exact ⟨rfl, rfl⟩
        · rw [hraised] at hanswer
          cases hanswer
      obtain ⟨rfl, rfl⟩ := hhanded
      refine ⟨⟨waiting, hnext, rfl⟩, ?_, ?_⟩
      · rw [claimNext_commands]
        exact hruns
      · intro name hname
        simp only [claimNext, hclaimed] at hanswer ⊢
        rw [Option.mem_def] at hname
        rw [hname] at hanswer ⊢
        dsimp only at hanswer ⊢
        cases hnamed : taskNamed service.tasks name with
        | none =>
            rw [hnamed] at hanswer
            cases hanswer
        | some =>
            rw [hnamed] at hanswer
            dsimp only at hanswer ⊢
            obtain ⟨⟨⟩, hcalled, _⟩ := map_eq_ok.1 hanswer
            obtain ⟨tasks, hperform, hafter⟩ := callTask_ok hcalled
            obtain ⟨_, _, hstatus⟩ := taskIs_of_perform rfl hperform hnamed
            exact (congrArg (fun after : Service => TaskIs after.tasks name .claimed) hafter).mpr
              hstatus

end Claims

/-! ## Commands that were handed out -/

def Begun (table : CommandTable) (id : Id) : Prop :=
  ∃ row, table.queue.commands[id]? = some row ∧ row.status ≠ .queued

theorem Begun.change {service : Service} {outcome : Outcome} {id : Id}
    (hbegun : Begun service.commands id) (hchange : CommandChange service outcome) :
    Begun outcome.1.commands id := by
  obtain ⟨row, hrow, hstatus⟩ := hbegun
  have hwritten : ∀ (other : Id) (old written : Command Address),
      service.commands.queue.commands[other]? = some old → written.status ≠ .queued →
        outcome.1.commands.queue.commands = update service.commands.queue.commands other written →
          Begun outcome.1.commands id := by
    intro other old written hold hnew hrows
    by_cases hsame : other = id
    · refine ⟨written, ?_, hnew⟩
      rw [hrows, hsame]
      exact getElem?_update_self hrow
    · refine ⟨row, ?_, hstatus⟩
      rw [hrows, getElem?_update_of_ne hsame]
      exact hrow
  cases hchange with
  | added new hannounced =>
      refine ⟨row, ?_, hstatus⟩
      rw [hannounced.rows, List.getElem?_append_left (List.getElem?_eq_some_iff.mp hrow).1]
      exact hrow
  | among hrows =>
      cases hrows with
      | kept hqueue =>
          refine ⟨row, ?_, hstatus⟩
          rw [hqueue]
          exact hrow
      | handed other old claimed hold _ hclaimed hrows =>
          apply hwritten other old claimed hold _ hrows
          rw [hclaimed]
          exact CommandStatus.noConfusion
      | settled other old written hold hended hrows =>
          apply hwritten other old written hold _ hrows
          rcases hended with hended | hended
          · rw [hended]
            exact CommandStatus.noConfusion
          · rw [hended]
            exact CommandStatus.noConfusion

/-! ## The tasks -/

section Tasks

variable {render : Json → String} {service : Service}

def QueuedKept (tasks after : RemoteTask.Db) : Prop :=
  ∀ (task : Id) (row : RemoteTask.Task), after.tasks[task]? = some row → row.status = .queued →
    ∃ old, tasks.tasks[task]? = some old ∧ old.status = .queued ∧
      row.machineId = old.machineId ∧ row.originSurface = old.originSurface

theorem QueuedKept.refl (tasks : RemoteTask.Db) : QueuedKept tasks tasks :=
  fun _ row hrow hqueued => ⟨row, hrow, hqueued, rfl, rfl⟩

theorem queuedKept_perform {tasks after : RemoteTask.Db} {call : RemoteTask.Call}
    (hnew : ∀ payload, call.operation ≠ .createTask payload)
    (hok : RemoteTask.perform tasks call = .ok after) : QueuedKept tasks after := by
  cases htarget : call.operation.target tasks with
  | none =>
      obtain ⟨operation, clock⟩ := call
      cases operation with
      | createTask payload => exact absurd rfl (hnew payload)
      | claimNextTask =>
          simp only [RemoteTask.Operation.target, Option.map_eq_none_iff] at htarget
          simp only [RemoteTask.perform, RemoteTask.claimNextTask, htarget] at hok
          cases hok
          exact .refl _
      | _ => cases htarget
  | some =>
      obtain ⟨old, written, hwrote, hresult⟩ := RemoteTask.perform_rewrote htarget hok
      intro other row hrow hqueued
      rw [hwrote.wrote] at hrow
      rcases getElem?_update_eq_some hrow with ⟨rfl, rfl⟩ | hold
      · have hstill := RemoteTask.queued_of_queued_after htarget hok hwrote hresult hqueued
        exact ⟨old, hwrote.read, hstill.status, hstill.machineId, hstill.originSurface⟩
      · exact ⟨row, hold, hqueued, rfl, rfl⟩

theorem queuedKept_callTask {operation : RemoteTask.Operation}
    (hnew : ∀ payload, operation ≠ .createTask payload) (clock : Clock) :
    QueuedKept service.tasks (callTask service operation clock).1.tasks := by
  unfold callTask
  split
  · exact .refl _
  · rename_i after hok
    exact queuedKept_perform hnew hok

theorem queuedKept_callHeldTask {name : String} {operation : Id → String → RemoteTask.Operation}
    (hnew : ∀ task token payload, operation task token ≠ .createTask payload) (clock : Clock) :
    QueuedKept service.tasks (callHeldTask service name operation clock).1.tasks := by
  unfold callHeldTask
  split
  · exact .refl _
  · split
    · exact .refl _
    · exact queuedKept_callTask (hnew _ _) clock

theorem queuedKept_settleTask {name : String} {settle : Id → String → RemoteTask.Operation}
    (hnew : ∀ task token payload, settle task token ≠ .createTask payload) (clock : Clock) :
    QueuedKept service.tasks (settleTask service name settle clock).1.tasks := by
  unfold settleTask
  split
  · exact .refl _
  · split
    · exact .refl _
    · exact queuedKept_callTask (hnew _ _) clock

theorem settlement_not_create {report : Report} {row : Command Address}
    {settle : Id → String → RemoteTask.Operation}
    (hsettle : settlement render report row = some settle) (task : Id) (token : String)
    (payload : RemoteTask.CreateRequest) : settle task token ≠ .createTask payload := by
  unfold settlement at hsettle
  split at hsettle
  · split at hsettle
    · cases hsettle
      exact RemoteTask.Operation.noConfusion
    · cases hsettle
  · cases hsettle
    exact RemoteTask.Operation.noConfusion

theorem queuedKept_recordCommandResult (report : Report) (clock : Clock) :
    QueuedKept service.tasks (recordCommandResult render service report clock).1.tasks := by
  unfold recordCommandResult
  split
  · exact .refl _
  · dsimp only
    split
    · exact .refl _
    · split
      · rename_i settle _ hsettle
        exact queuedKept_settleTask (settlement_not_create hsettle) _
      · exact .refl _

theorem queuedKept_claimNext (machineId workerId drawn : String) (clock : Clock) :
    QueuedKept service.tasks (claimNext render service machineId workerId drawn clock).1.tasks := by
  unfold claimNext
  dsimp only
  split
  · exact .refl _
  · split
    · exact .refl _
    · split
      · exact .refl _
      · refine queuedKept_callTask ?_ _
        intro payload
        exact RemoteTask.Operation.noConfusion

def QueuedBy (request : Request) (tasks after : RemoteTask.Db) : Prop :=
  ∀ (task : Id) (row : RemoteTask.Task), after.tasks[task]? = some row → row.status = .queued →
    (∃ old, tasks.tasks[task]? = some old ∧ old.status = .queued ∧
      row.machineId = old.machineId ∧ row.originSurface = old.originSurface) ∨
      row.originSurface = "browser" ∨
        ∃ payload, request = .call (.task (.createTask payload)) ∧
          row.machineId = payload.machineId ∧ row.originSurface = payload.originSurface

theorem QueuedKept.by {tasks after : RemoteTask.Db} (hkept : QueuedKept tasks after)
    (request : Request) : QueuedBy request tasks after :=
  fun task row hrow hqueued => Or.inl (hkept task row hrow hqueued)

theorem queuedBy_enqueueWithTask (request : Request) (table : CommandTable)
    (tasks : RemoteTask.Db) (addressee : Addressee) (commandType objective : String)
    (successCriteria : List Json) (createdBy : String) (requestedBy : List (String × Json))
    (prompt turnId : Option String) (clock : Clock) :
    QueuedBy request tasks (enqueueWithTask render ⟨table, tasks⟩ addressee commandType objective
      successCriteria createdBy requestedBy prompt turnId clock).1.tasks := by
  intro task row hrow hqueued
  rcases getElem?_concat_eq_some hrow with hold | ⟨_, rfl⟩
  · exact Or.inl ⟨row, hold, hqueued, rfl, rfl⟩
  · exact Or.inr (Or.inl rfl)

/-- Where the queued tasks after a request come from. -/
theorem queuedBy_respond (service : Service) (request : Request) (clock : Clock) :
    QueuedBy request service.tasks (respond render service request clock).1.tasks := by
  cases request with
  | agentHeartbeatTask =>
      refine (queuedKept_callHeldTask ?_ clock).by _
      intro task token payload
      exact RemoteTask.Operation.noConfusion
  | agentCompleteTask =>
      refine (queuedKept_callHeldTask ?_ clock).by _
      intro task token payload
      exact RemoteTask.Operation.noConfusion
  | agentFailTask =>
      refine (queuedKept_callHeldTask ?_ clock).by _
      intro task token payload
      exact RemoteTask.Operation.noConfusion
  | agentAddEvidence name payload =>
      simp only [respond, agentAddEvidence]
      split
      · exact (QueuedKept.refl _).by _
      · refine (queuedKept_callTask ?_ clock).by _
        intro payload
        exact RemoteTask.Operation.noConfusion
  | agentSync => exact (QueuedKept.refl _).by _
  | publish => exact (QueuedKept.refl _).by _
  | call operation =>
      cases operation with
      | enqueueTurn =>
          simp only [respond, perform, enqueueTurn]
          split
          · exact (QueuedKept.refl _).by _
          · apply queuedBy_enqueueWithTask
      | enqueueInterrupt =>
          simp only [respond, perform, enqueueInterrupt]
          split
          · exact (QueuedKept.refl _).by _
          · split
            · exact (QueuedKept.refl _).by _
            · split
              · exact (QueuedKept.refl _).by _
              · apply queuedBy_enqueueWithTask
      | enqueueThreadDelete =>
          simp only [respond, perform, enqueueThreadDelete]
          split
          · exact (QueuedKept.refl _).by _
          · split <;> exact (QueuedKept.refl _).by _
      | enqueueThreadStart request | enqueueFsList request | enqueueFsMkdir request =>
          simp only [respond, perform, enqueueThreadStart, enqueueFsList, enqueueFsMkdir,
            enqueueForMachine]
          split <;> exact (QueuedKept.refl _).by _
      | claimNextCommand machineId workerId drawn =>
          simp only [respond, perform]
          exact (queuedKept_claimNext machineId workerId drawn clock).by _
      | recordCommandResult report =>
          simp only [respond, perform]
          exact (queuedKept_recordCommandResult report clock).by _
      | listThreadCommands =>
          exact (QueuedKept.refl _).by _
      | task operation =>
          simp only [respond, perform]
          by_cases hnew : ∃ payload, operation = .createTask payload
          · obtain ⟨payload, rfl⟩ := hnew
            intro task row hrow hqueued
            rcases getElem?_concat_eq_some hrow with hold | ⟨_, rfl⟩
            · exact Or.inl ⟨row, hold, hqueued, rfl, rfl⟩
            · exact Or.inr (Or.inr ⟨payload, rfl, rfl, rfl⟩)
          · refine (queuedKept_callTask ?_ clock).by _
            intro payload hsame
            exact hnew ⟨payload, hsame⟩

end Tasks

/-! ## Names -/

theorem collapse_of_visible {text : String} (hne : text.toList ≠ [])
    (hvisible : ∀ c ∈ text.toList, Text.isSpace c = false) : Text.collapse text = text := by
  rw [Text.collapse, List.splitOnP_eq_singleton hvisible]
  simp [hne]

theorem isSpace_of_isDigit {c : Char} (hdigit : c.isDigit) : Text.isSpace c = false := by
  obtain ⟨hzero, hnine⟩ := Char.isDigit_iff_toNat.mp hdigit
  have hlow : 48 ≤ c.toNat := hzero
  have hhigh : c.toNat ≤ 57 := hnine
  simp only [Text.isSpace, Bool.or_eq_false_iff, Bool.and_eq_false_iff, decide_eq_false_iff_not,
    beq_eq_false_iff_ne]
  omega

theorem compactText_taskName (task : Id) :
    taskName task ≠ "" ∧ compactText (taskName task) "" = taskName task := by
  have hdigits : (taskName task).toList = Nat.toDigits 10 task := by
    rw [taskName, Nat.toString_eq_repr, Nat.toList_repr]
  have hne : (taskName task).toList ≠ [] := by
    rw [hdigits]
    exact Nat.toDigits_ne_nil
  have hcollapse : Text.collapse (taskName task) = taskName task := by
    apply collapse_of_visible hne
    intro c hc
    rw [hdigits] at hc
    exact isSpace_of_isDigit (Nat.isDigit_of_mem_toDigits (by decide) (by decide) hc)
  have hword : taskName task ≠ "" := by
    intro hempty
    rw [hempty] at hne
    exact hne rfl
  refine ⟨hword, ?_⟩
  simp only [compactText, hcollapse]
  exact if_neg hword

/-! ## Spaces -/

theorem threadSpace_ne_machineSpace (threadId machineId : String) :
    remoteCodexThreadSpaceId threadId ≠ remoteCodexMachineSpaceId machineId := by
  unfold remoteCodexThreadSpaceId remoteCodexMachineSpaceId
  intro hsame
  have hletters := congrArg String.toList hsame
  rw [String.toList_append, String.toList_append] at hletters
  have hhead := congrArg (List.take 14) hletters
  have hthread : 14 ≤ "remote_codex.thread:".toList.length := by decide
  have hmachine : 14 ≤ "remote_codex.machine:".toList.length := by decide
  have hdiffer : "remote_codex.thread:".toList.take 14 ≠
      "remote_codex.machine:".toList.take 14 := by decide
  generalize "remote_codex.thread:".toList = thread at *
  generalize "remote_codex.machine:".toList = machine at *
  rw [List.take_append_of_le_length hthread, List.take_append_of_le_length hmachine] at hhead
  exact hdiffer hhead

theorem mirror_command (row : Command Address) (commandId : Id) (now : Time) :
    ∃ item, mirrorToKernelBroker (commandPublication row commandId) now = some item ∧
      item.spaceId = remoteCodexMachineSpaceId row.machineId := by
  obtain ⟨hword, hcompact⟩ := compactText_taskName commandId
  unfold taskName at hword hcompact
  simp only [mirrorToKernelBroker, commandPublication, hcompact]
  rw [if_neg hword]
  exact ⟨_, rfl, rfl⟩

theorem mirror_task {machineId threadId kind : String} {now : Time} {item : Envelope}
    (hitem : mirrorToKernelBroker ⟨machineId, threadId, .other kind⟩ now = some item) :
    item.spaceId = remoteCodexThreadSpaceId threadId := by
  simp only [mirrorToKernelBroker] at hitem
  split at hitem
  · cases hitem
  · cases hitem
    rfl

section Envelopes

variable {render : Json → String} {service : Service} {arrival : Arrival}

theorem published_of_enqueued {operation : Operation} (henqueues : operation.enqueues)
    {task : Option Id} {commandId : Id}
    (hanswer : (perform render service ⟨operation, arrival.clock⟩).2 =
      .ok (.enqueued task commandId)) :
    ∃ told, published render service (.call operation) arrival.clock =
      told ++ publishCommand (perform render service ⟨operation, arrival.clock⟩).1.commands
        commandId := by
  cases operation with
  | claimNextCommand | recordCommandResult | listThreadCommands | task => cases henqueues
  | enqueueTurn | enqueueInterrupt | enqueueThreadDelete | enqueueThreadStart | enqueueFsList
  | enqueueFsMkdir =>
      simp only [published, respond, hanswer]
      exact ⟨_, rfl⟩

theorem envelopes_of_announced {operation : Operation} (henqueues : operation.enqueues)
    {row : Command Address}
    (hannounced : Announced service (perform render service ⟨operation, arrival.clock⟩) row) :
    ∃ item ∈ envelopes render service (.call operation) arrival,
      item.spaceId = remoteCodexMachineSpaceId row.machineId := by
  obtain ⟨task, hanswer⟩ := hannounced.answer
  obtain ⟨told, hpublished⟩ := published_of_enqueued henqueues hanswer
  obtain ⟨item, hitem, hspace⟩ :=
    mirror_command row service.commands.queue.commands.length arrival.stamp
  refine ⟨item, ?_, hspace⟩
  simp only [envelopes, hpublished, List.mem_filterMap]
  refine ⟨commandPublication row service.commands.queue.commands.length, ?_, hitem⟩
  apply List.mem_append_right
  rw [publishCommand, hannounced.stored]
  exact List.mem_cons_self

end Envelopes

end OpsCure.RemoteCodex
