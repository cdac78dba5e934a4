/-
The browser and agent facing service of remote codex (`remote_codex/service.py`): requests of a
browser become a remote task and a command, the agent claims the command and reports on it.
The command and its task are written in separate sessions, so a call that raises may have
committed the first of them.
-/
import OpsCure.ThreadCommands
import OpsCure.TaskLifecycle

namespace OpsCure.RemoteCodex

open Fallible Table RemoteCommand

/-! ## State and requests -/

structure Service where
  commands : CommandTable
  tasks : RemoteTask.Db

def Service.empty : Service := ⟨.empty, .empty⟩

inductive ServiceError where
  | machineNotFound
  | machineOffline
  | machineLiveControlUnavailable
  | threadNotFound
  | missingPrompt
  | interruptCommandInProgress
  | missingTurnId
  | turnCommandInProgress
  | taskNotClaimed
  | unknownTask (name : String)
  | command (error : CommandError)
  | task (error : RemoteTask.TaskError)
deriving DecidableEq, Repr

def ServiceError.text : ServiceError → String
  | machineNotFound => "machine_not_found"
  | machineOffline => "machine_offline"
  | machineLiveControlUnavailable => "machine_live_control_unavailable"
  | threadNotFound => "thread_not_found"
  | missingPrompt => "missing_prompt"
  | interruptCommandInProgress => "interrupt_command_in_progress"
  | missingTurnId => "missing_turn_id"
  | turnCommandInProgress => "turn_command_in_progress"
  | taskNotClaimed => "task_not_claimed"
  | unknownTask name => s!"Remote task \x60{name}\x60 was not found."
  | command error => error.text
  | task error => error.text

/-- The public row of a machine, as far as a request asks about it. -/
structure Machine where
  status : String
  liveControl : Bool

/-- What a browser's request meets: the machine and the thread it names, as the agent's syncs
have left them. -/
structure Addressee where
  machineId : String
  threadId : String
  machine : Option Machine
  threadKnown : Bool

/-- An attachment as `normalize_browser_turn_attachments` leaves it. -/
structure Attachment where
  name : String
  fields : List (String × Json)

structure TurnRequest where
  addressee : Addressee
  prompt : String
  attachments : List Attachment
  requestedBy : List (String × Json)

structure InterruptRequest where
  addressee : Addressee
  turnId : Option String
  requestedBy : List (String × Json)

structure DeleteRequest where
  addressee : Addressee
  requestedBy : List (String × Json)

/-- A request for the machine itself; `prompt` holds its parameters. -/
structure MachineRequest where
  addressee : Addressee
  prompt : String
  requestedBy : List (String × Json)

structure Report where
  commandId : Id
  workerId : String
  status : String
  result : Option (List (String × Json))
  error : Option (List (String × Json))

inductive Answer where
  | done
  | enqueued (task : Option Id) (command : Id)
  | claimed (command : Option (Command Address × Id))
  | commands (rows : List (Command Address × Id))

/-- A call leaves a state, whether it returns or raises. -/
abbrev Outcome := Service × Except ServiceError Answer

/-- The clock of the second of two sessions: a command's write reads the first one twice. -/
def laterReadings (clock : Clock) : Clock := fun reading => clock (reading + 2)

section Operations

variable (render : Json → String)

/-! ## Requests of a browser -/

/-- `_created_by`. -/
def createdBy (requestedBy : List (String × Json)) : String :=
  let field (key : String) := compactText (textOf render (Json.get key (.obj requestedBy))) ""
  if field "email" ≠ "" then field "email"
  else if field "name" ≠ "" then field "name"
  else if field "subject" ≠ "" then field "subject"
  else "bridge-service"

/-- `build_browser_turn_prompt`. -/
def buildBrowserTurnPrompt (prompt : String) (attachments : List Attachment) : String :=
  let normalizedPrompt := compactText prompt ""
  let names := (attachments.map fun item => compactText item.name "").filter (· ≠ "")
  if normalizedPrompt ≠ "" then normalizedPrompt
  else if attachments.isEmpty then ""
  else if names ≠ [] then "Use the attached context: " ++ ", ".intercalate (names.take 3)
  else "Use the attached files and images as context for this turn."

def requireOnline (addressee : Addressee) : Except ServiceError Machine := do
  let machine ← orRaise addressee.machine .machineNotFound
  require (machine.status = "online") .machineOffline
  return machine

/-- What a request for a turn, or for an interrupt, asks of its addressee. -/
def requireLiveThread (addressee : Addressee) : Except ServiceError PUnit.{1} := do
  let machine ← requireOnline addressee
  require machine.liveControl .machineLiveControlUnavailable
  require addressee.threadKnown .threadNotFound

def requireThread (addressee : Addressee) : Except ServiceError PUnit.{1} := do
  let _ ← requireOnline addressee
  require addressee.threadKnown .threadNotFound

def requireTurn (addressee : Addressee) (prompt : String) : Except ServiceError PUnit.{1} := do
  requireLiveThread addressee
  require (prompt ≠ "") .missingPrompt

def enqueueWithTask (service : Service) (addressee : Addressee) (commandType objective : String)
    (successCriteria : List Json) (createdBy : String) (requestedBy : List (String × Json))
    (prompt turnId : Option String) (clock : Clock) : Service × Id × Id :=
  let created := RemoteTask.createTask service.tasks
    { machineId := addressee.machineId
      threadId := addressee.threadId
      objective := objective
      successCriteria := .obj [("browser", .arr successCriteria)]
      originSurface := "browser"
      originMessageId := none
      priority := "normal"
      createdBy := createdBy } clock
  let commands := service.commands.enqueueCommand render
    { commandType := commandType
      machineId := addressee.machineId
      address :=
        { threadId := addressee.threadId
          taskId := some (taskName created.2)
          turnId := turnId }
      prompt := prompt
      requestedBy := .obj requestedBy } (laterReadings clock)
  (⟨commands, created.1⟩, created.2, service.commands.queue.commands.length)

def enqueueAlone (service : Service) (addressee : Addressee) (commandType threadId : String)
    (requestedBy : List (String × Json)) (prompt : Option String) (clock : Clock) : Service × Id :=
  let commands := service.commands.enqueueCommand render
    { commandType := commandType
      machineId := addressee.machineId
      address := { threadId := threadId, taskId := none, turnId := none }
      prompt := prompt
      requestedBy := .obj requestedBy } clock
  (⟨commands, service.tasks⟩, service.commands.queue.commands.length)

/-- `enqueue_turn`. -/
def enqueueTurn (service : Service) (request : TurnRequest) (clock : Clock) : Outcome :=
  let prompt := buildBrowserTurnPrompt request.prompt request.attachments
  let requestedBy := if request.attachments = [] then request.requestedBy
    else Json.mergeFields request.requestedBy
      [("attachments", .arr (request.attachments.map fun item => .obj item.fields))]
  match requireTurn request.addressee prompt with
  | .error raised => (service, .error raised)
  | .ok _ =>
      let (after, task, command) := enqueueWithTask render service request.addressee turnStart prompt
        [.str "task row", .str "command queue", .str "transcript update"]
        (createdBy render request.requestedBy) requestedBy (some prompt) none clock
      (after, .ok (.enqueued (some task) command))

def interruptedTurnId (tasks : RemoteTask.Db) (table : CommandTable) (request : InterruptRequest)
    (now : Time) : CommandTable × Option String :=
  let turnId := compactText (request.turnId.getD "") ""
  if turnId ≠ "" then (table, some turnId)
  else getLatestTurnId render tasks table request.addressee.machineId
    request.addressee.threadId now

/-- `enqueue_interrupt`. -/
def enqueueInterrupt (service : Service) (request : InterruptRequest) (clock : Clock) : Outcome :=
  match requireLiveThread request.addressee with
  | .error raised => (service, .error raised)
  | .ok _ =>
      let guarded := getActiveThreadCommand render service.tasks service.commands
        request.addressee.machineId request.addressee.threadId (some turnInterrupt) (clock 0)
      match guarded.2 with
      | some _ => ({ service with commands := guarded.1 }, .error .interruptCommandInProgress)
      | none =>
          let next := interruptedTurnId render service.tasks guarded.1 request (clock 1)
          match next.2 with
          | none => ({ service with commands := next.1 }, .error .missingTurnId)
          | some turnId =>
              let (after, task, command) := enqueueWithTask render
                { service with commands := next.1 } request.addressee turnInterrupt
                s!"Interrupt turn {turnId}" [.str "interrupt task", .str "command result"]
                (createdBy render request.requestedBy) request.requestedBy none (some turnId)
                (laterReadings clock)
              (after, .ok (.enqueued (some task) command))

/-- `enqueue_thread_delete`. -/
def enqueueThreadDelete (service : Service) (request : DeleteRequest) (clock : Clock) : Outcome :=
  match requireThread request.addressee with
  | .error raised => (service, .error raised)
  | .ok _ =>
      let guarded := getActiveThreadCommand render service.tasks service.commands
        request.addressee.machineId request.addressee.threadId none (clock 0)
      match guarded.2 with
      | some _ => ({ service with commands := guarded.1 }, .error .turnCommandInProgress)
      | none =>
          let (after, command) := enqueueAlone render { service with commands := guarded.1 }
            request.addressee threadDelete request.addressee.threadId request.requestedBy none
            fun reading => clock (reading + 1)
          (after, .ok (.enqueued none command))

def enqueueForMachine (commandType : String) (service : Service) (request : MachineRequest)
    (clock : Clock) : Outcome :=
  match requireOnline request.addressee with
  | .error raised => (service, .error raised)
  | .ok _ =>
      let (after, command) := enqueueAlone render service request.addressee commandType ""
        request.requestedBy (some request.prompt) clock
      (after, .ok (.enqueued none command))

/-- `enqueue_thread_start`. -/
def enqueueThreadStart := enqueueForMachine render threadStart

/-- `enqueue_fs_list`. -/
def enqueueFsList := enqueueForMachine render fsList

/-- `enqueue_fs_mkdir`. -/
def enqueueFsMkdir := enqueueForMachine render fsMkdir

/-! ## Calls of an agent -/

def callTask (service : Service) (operation : RemoteTask.Operation) (clock : Clock) :
    Service × Except ServiceError PUnit.{1} :=
  match RemoteTask.perform service.tasks ⟨operation, clock⟩ with
  | .error raised => (service, .error (.task raised))
  | .ok tasks => ({ service with tasks := tasks }, .ok ⟨⟩)

/-- `claim_next_command`: the claim of the command is committed before that of its task. -/
def claimNext (service : Service) (machineId workerId drawn : String) (clock : Clock) : Outcome :=
  let claim := service.commands.claimNextCommand render machineId workerId clock
  let service := { service with commands := claim.1 }
  match claim.2 with
  | none => (service, .ok (.claimed none))
  | some (row, commandId) =>
      match row.address.taskId with
      | none => (service, .ok (.claimed (some (row, commandId))))
      | some name =>
          match taskNamed service.tasks name with
          | none => (service, .error (.unknownTask name))
          | some task =>
              let called := callTask service
                (.claimTask task { actorId := machineId, leaseSeconds := 120 } drawn)
                (laterReadings clock)
              (called.1, called.2.map fun _ => .claimed (some (row, commandId)))

/-- The current assignment of a task, as `get_task` shows it. -/
def currentAssignment (tasks : RemoteTask.Db) (task : Id) : Option RemoteTask.Assignment := do
  let row ← tasks.tasks[task]?
  let current ← RemoteTask.currentAssignment row
  return current.1

def settleTask (service : Service) (name : String) (settle : Id → String → RemoteTask.Operation)
    (clock : Clock) : Service × Except ServiceError PUnit.{1} :=
  match taskNamed service.tasks name with
  | none => (service, .error (.unknownTask name))
  | some task =>
      match currentAssignment service.tasks task with
      | none => (service, .ok ⟨⟩)
      | some assignment => callTask service (settle task assignment.leaseToken) clock

/-- A payload of a report as a decoded value. -/
def asJson (payload : Option (List (String × Json))) : Json := (payload.map Json.obj).getD .null

def completionSummary (commandType : String) : String :=
  if commandType = turnStart then "Turn request accepted by the local Codex runtime."
  else "Interrupt request completed."

def Report.completes (report : Report) : Bool :=
  Text.lower (compactText report.status "") = "completed"

def Report.errorText (report : Report) : String :=
  compactText (textOf render (Json.get "message" (.obj (report.error.getD [])))) "Unknown error"

def recordCommand (table : CommandTable) (report : Report) (clock : Clock) :
    Except CommandError CommandTable :=
  if report.completes then
    table.completeCommand render report.commandId report.workerId (asJson report.result) clock
  else table.failCommand render report.commandId report.workerId (asJson report.error) clock

def settlement (report : Report) (row : Command Address) :
    Option (Id → String → RemoteTask.Operation) :=
  if report.completes then
    if row.type ∈ [turnStart, turnInterrupt] then
      some fun task token => .completeTask task
        { actorId := row.machineId
          leaseToken := token
          summary := some (completionSummary row.type) }
    else none
  else some fun task token => .failTask task
    { actorId := row.machineId
      leaseToken := token
      errorText := report.errorText render }

/-- `record_command_result`: the command is committed before its task is settled. -/
def recordCommandResult (service : Service) (report : Report) (clock : Clock) : Outcome :=
  match recordCommand render service.commands report clock with
  | .error raised => (service, .error (.command raised))
  | .ok commands =>
      let service := { service with commands := commands }
      match commands.get report.commandId with
      | none => (service, .ok .done)
      | some row =>
          match row.address.taskId, settlement render report row with
          | some name, some settle =>
              let settled := settleTask service name settle (laterReadings clock)
              (settled.1, settled.2.map fun _ => .done)
          | _, _ => (service, .ok .done)

/-! ## Calls -/

/-- One request of the service.  The routes of the remote tasks, the clean-up of stale ones
included, are the task service's own operations. -/
inductive Operation where
  | enqueueTurn (request : TurnRequest)
  | enqueueInterrupt (request : InterruptRequest)
  | enqueueThreadDelete (request : DeleteRequest)
  | enqueueThreadStart (request : MachineRequest)
  | enqueueFsList (request : MachineRequest)
  | enqueueFsMkdir (request : MachineRequest)
  | claimNextCommand (machineId workerId drawn : String)
  | recordCommandResult (report : Report)
  | listThreadCommands (machineId threadId : String) (limit : Int) (includeStale : Bool)
  | task (operation : RemoteTask.Operation)

structure Call where
  operation : Operation
  clock : Clock

def perform (service : Service) (call : Call) : Outcome :=
  match call.operation with
  | .enqueueTurn request => enqueueTurn render service request call.clock
  | .enqueueInterrupt request => enqueueInterrupt render service request call.clock
  | .enqueueThreadDelete request => enqueueThreadDelete render service request call.clock
  | .enqueueThreadStart request => enqueueThreadStart render service request call.clock
  | .enqueueFsList request => enqueueFsList render service request call.clock
  | .enqueueFsMkdir request => enqueueFsMkdir render service request call.clock
  | .claimNextCommand machineId workerId drawn =>
      claimNext render service machineId workerId drawn call.clock
  | .recordCommandResult report => recordCommandResult render service report call.clock
  | .listThreadCommands machineId threadId limit includeStale =>
      let listed := listThreadCommands render service.tasks service.commands machineId threadId
        limit includeStale (call.clock 0)
      ({ service with commands := listed.1 }, .ok (.commands listed.2))
  | .task operation =>
      let called := callTask service operation call.clock
      (called.1, called.2.map fun _ => .done)

/-- The state a call leaves. -/
def step (service : Service) (call : Call) : Service := (perform render service call).1

end Operations

end OpsCure.RemoteCodex
