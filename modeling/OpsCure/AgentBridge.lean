/-
The bridge as a device agent sees it: the service of remote codex, with the functions for agents,
and the kernel broker that mirrors what the service publishes to whoever listens to a space
(`remote_codex/service.py`, `state_service.py`, `kernel/subscriptions.py`).
-/
import OpsCure.RemoteCodexService

namespace OpsCure.RemoteCodex

open RemoteCommand

/-! ## What is published, and where -/

/-- The position of an envelope: when it was made, then what it is about. -/
structure Cursor where
  createdAt : Time
  eventId : String
deriving DecidableEq, Repr

/-- Cursors are compared as texts: twenty digits of time, then the id. -/
def Cursor.le (left right : Cursor) : Bool :=
  left.createdAt < right.createdAt ∨
    (left.createdAt = right.createdAt ∧ left.eventId ≤ right.eventId)

/-- What the service tells others about, by its kind. -/
inductive Payload where
  | command (commandId status workerId : String)
  | machine (machineId : String)
  | other (kind : String)
deriving DecidableEq, Repr

structure Publication where
  machineId : String
  threadId : String
  payload : Payload
deriving DecidableEq, Repr

structure Envelope where
  spaceId : String
  kind : String
  cursor : Cursor
deriving DecidableEq, Repr

/-- `remote_codex_thread_space_id`. -/
def remoteCodexThreadSpaceId (threadId : String) : String := "remote_codex.thread:" ++ threadId

/-- `_mirror_to_kernel_broker`: commands and machines go to the machine's space, and all else to
the thread's. -/
def mirrorToKernelBroker (publication : Publication) (now : Time) : Option Envelope :=
  let machineSpace := remoteCodexMachineSpaceId publication.machineId
  match publication.payload with
  | .command commandId status _ =>
      let eventId := compactText commandId ""
      let status := compactText status ""
      if eventId = "" then none
      else some
        { spaceId := machineSpace
          kind := if status = "" then "remote_codex.command" else "remote_codex.command." ++ status
          cursor := ⟨now, eventId⟩ }
  | .machine machineId =>
      let eventId := compactText machineId (compactText publication.machineId "remote_codex.machine")
      some { spaceId := machineSpace, kind := "remote_codex.machine", cursor := ⟨now, eventId⟩ }
  | .other kind =>
      let threadId := publication.threadId
      if threadId = "" ∨ threadId = "*" then none
      else some
        { spaceId := remoteCodexThreadSpaceId threadId
          kind := "remote_codex." ++ kind
          cursor := ⟨now, threadId ++ "-" ++ kind ++ "-" ++ toString now⟩ }

/-- A subscription: its space, what waits in its queue, and the last cursor its stream sent. -/
structure Listener where
  spaceId : String
  queue : List Envelope
  cursor : Option Cursor
deriving DecidableEq, Repr

/-- `publish`, at one subscription. -/
def Listener.offer (listener : Listener) (item : Envelope) : Listener :=
  if item.spaceId = listener.spaceId then { listener with queue := listener.queue ++ [item] }
  else listener

/-! ## The functions for agents -/

structure AgentHeartbeat where
  actorId : String
  phase : String
  summary : Option String
  commandsRunCount : Int
  filesReadCount : Int
  filesModifiedCount : Int
  testsRunCount : Int

def callHeldTask (service : Service) (name : String)
    (operation : Id → String → RemoteTask.Operation) (clock : Clock) :
    Service × Except ServiceError PUnit.{1} :=
  match taskNamed service.tasks name with
  | none => (service, .error (.unknownTask name))
  | some task =>
      match currentAssignment service.tasks task with
      | none => (service, .error .taskNotClaimed)
      | some assignment => callTask service (operation task assignment.leaseToken) clock

/-- `agent_heartbeat_task`. -/
def agentHeartbeatTask (service : Service) (name : String) (beat : AgentHeartbeat)
    (clock : Clock) : Service × Except ServiceError PUnit.{1} :=
  callHeldTask service name (fun task token => .heartbeatTask task
    { actorId := beat.actorId
      leaseToken := token
      phase := beat.phase
      summary := beat.summary
      commandsRunCount := beat.commandsRunCount
      filesReadCount := beat.filesReadCount
      filesModifiedCount := beat.filesModifiedCount
      testsRunCount := beat.testsRunCount
      leaseSeconds := 120 }) clock

/-- `agent_add_evidence`. -/
def agentAddEvidence (service : Service) (name : String) (payload : RemoteTask.EvidenceRequest)
    (clock : Clock) : Service × Except ServiceError PUnit.{1} :=
  match taskNamed service.tasks name with
  | none => (service, .error (.unknownTask name))
  | some task => callTask service (.addEvidence task payload) clock

/-- `agent_complete_task`. -/
def agentCompleteTask (service : Service) (name actorId : String) (summary : Option String)
    (clock : Clock) : Service × Except ServiceError PUnit.{1} :=
  callHeldTask service name (fun task token => .completeTask task ⟨actorId, token, summary⟩) clock

/-- `agent_fail_task`. -/
def agentFailTask (service : Service) (name actorId errorText : String) (clock : Clock) :
    Service × Except ServiceError PUnit.{1} :=
  callHeldTask service name (fun task token => .failTask task
    ⟨actorId, token, compactText errorText "Unknown error"⟩) clock

/-! ## Requests -/

/-- A request to the bridge, by the agent or by somebody else.  `publish` stands for whatever else
is published to a space. -/
inductive Request where
  | call (operation : Operation)
  | agentHeartbeatTask (task : String) (beat : AgentHeartbeat)
  | agentAddEvidence (task : String) (payload : RemoteTask.EvidenceRequest)
  | agentCompleteTask (task actorId : String) (summary : Option String)
  | agentFailTask (task actorId errorText : String)
  | agentSync (machineId : String) (threadIds : List String)
  | publish (envelope : Envelope)

/-- When a request reaches the bridge: the clock it reads, and the reading of its publishes. -/
structure Arrival where
  clock : Clock
  stamp : Time

/-- The bridge, with one listener at most.  `recorded` is no column: the commands whose completed
report has been recorded. -/
structure Bridge where
  service : Service
  listener : Option Listener
  recorded : List Id

def Bridge.empty : Bridge := ⟨.empty, none, []⟩

section Requests

variable (render : Json → String)

/-- `apply_agent_sync`, as far as it touches commands: those of the machine's threads that may be
deleted go. -/
def applyAgentSync (service : Service) (machineId : String) (threadIds : List String)
    (now : Time) : Service :=
  { service with
    commands := threadIds.foldl
      (fun commands threadId => commands.prune render service.tasks machineId threadId now)
      service.commands }

/-- What the service makes of a request. -/
def respond (service : Service) (request : Request) (clock : Clock) : Outcome :=
  let done (outcome : Service × Except ServiceError PUnit.{1}) : Outcome :=
    (outcome.1, outcome.2.map fun _ => .done)
  match request with
  | .call operation => perform render service ⟨operation, clock⟩
  | .agentHeartbeatTask task beat => done (agentHeartbeatTask service task beat clock)
  | .agentAddEvidence task payload => done (agentAddEvidence service task payload clock)
  | .agentCompleteTask task actorId summary =>
      done (agentCompleteTask service task actorId summary clock)
  | .agentFailTask task actorId errorText =>
      done (agentFailTask service task actorId errorText clock)
  | .agentSync machineId threadIds =>
      (applyAgentSync render service machineId threadIds (clock 0), .ok .done)
  | .publish _ => (service, .ok .done)

def commandPublication (row : Command Address) (commandId : Id) : Publication where
  machineId := row.machineId
  threadId := row.address.threadId
  payload := .command (toString commandId) row.status.text (row.workerId.getD "")

def publishCommand (table : CommandTable) (commandId : Id) : List Publication :=
  (table.get commandId).toList.map fun row => commandPublication row commandId

def publishTask (tasks : RemoteTask.Db) (task : Id) : List Publication :=
  (tasks.tasks[task]?).toList.map fun row => ⟨row.machineId, row.threadId, .other "task"⟩

def writtenBy (service : Service) (report : Report) (clock : Clock) : Option CommandTable :=
  (recordCommand render service.commands report clock).toOption

/-- What a request tells others about, by the service it meets and what becomes of it.  What a
report tells of the task it settles goes to the thread, and is left out. -/
def published (service : Service) (request : Request) (clock : Clock) : List Publication :=
  let outcome := respond render service request clock
  let ofTask (name : String) : List Publication :=
    match taskNamed service.tasks name, outcome.2 with
    | some task, .ok _ => publishTask outcome.1.tasks task
    | _, _ => []
  match request with
  | .call (.claimNextCommand machineId workerId _) =>
      match (service.commands.claimNextCommand render machineId workerId clock).2 with
      | some (row, commandId) =>
          -- the command is told of before its task is claimed
          commandPublication row commandId ::
            (row.address.taskId.map fun name => ofTask name).getD []
      | none => []
  | .call (.recordCommandResult report) =>
      match writtenBy render service report clock with
      | some commands => publishCommand commands report.commandId
      | none => []
  | .call (.task operation) =>
      match outcome.2 with
      | .ok _ =>
          match operation with
          | .createTask _ => publishTask outcome.1.tasks service.tasks.tasks.length
          | operation =>
              ((operation.target service.tasks).map (publishTask outcome.1.tasks)).getD []
      | .error _ => []
  | .call (.listThreadCommands ..) => []
  | .call _ =>
      match outcome.2 with
      | .ok (.enqueued task commandId) =>
          (task.map (publishTask outcome.1.tasks)).getD [] ++
            publishCommand outcome.1.commands commandId
      | _ => []
  | .agentHeartbeatTask task _ | .agentAddEvidence task _ | .agentCompleteTask task _ _
  | .agentFailTask task _ _ => ofTask task
  | .agentSync machineId _ => [⟨machineId, "*", .machine machineId⟩]
  | .publish _ => []

def recordedBy (service : Service) (request : Request) (clock : Clock) : List Id :=
  match request with
  | .call (.recordCommandResult report) =>
      if report.completes ∧ (writtenBy render service report clock).isSome then [report.commandId]
      else []
  | _ => []

def envelopes (service : Service) (request : Request) (arrival : Arrival) : List Envelope :=
  match request with
  | .publish envelope => [envelope]
  | _ => (published render service request arrival.clock).filterMap fun publication =>
      mirrorToKernelBroker publication arrival.stamp

def serve (request : Request) (arrival : Arrival) (bridge : Bridge) :
    Bridge × Except ServiceError Answer :=
  let outcome := respond render bridge.service request arrival.clock
  ({ service := outcome.1
     listener := bridge.listener.map fun listener =>
       (envelopes render bridge.service request arrival).foldl Listener.offer listener
     recorded := bridge.recorded ++ recordedBy render bridge.service request arrival.clock },
    outcome.2)

end Requests

end OpsCure.RemoteCodex
