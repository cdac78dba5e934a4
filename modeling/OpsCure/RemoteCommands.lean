/-
The command queues of the remote behaviors (`remote_codex/state_service.py` and its mirror
`remote_claude/state_service.py`): enqueue, claim, complete and fail.  The two differ in what
addresses a command, in how a text is compacted, in what a result says of the address, and in
the kernel task that shadows a codex command.
-/
import OpsCure.KernelTask

namespace OpsCure.RemoteCommand

open Fallible Table

/-! ## One queue, with what a behavior brings to it -/

inductive CommandStatus where
  | queued
  | running
  | completed
  | failed
deriving DecidableEq, Repr

def CommandStatus.text : CommandStatus → String
  | queued => "queued"
  | running => "running"
  | completed => "completed"
  | failed => "failed"

/-- A row of the command table; `address` holds the columns of the behavior's own. -/
structure Command (α : Type) where
  type : String
  status : CommandStatus
  machineId : String
  address : α
  prompt : Option String
  requestedBy : Json
  workerId : Option String
  result : Option Json
  error : Option Json
  createdAt : Time
  updatedAt : Time
  startedAt : Option Time
  completedAt : Option Time
deriving Repr

structure Queue (α : Type) where
  commands : List (Command α)
  tasks : KernelTask.Db

def Queue.empty (α : Type) : Queue α := ⟨[], .empty⟩

/-- A move of a command that its shadow follows. -/
inductive Transition where
  | claimed
  | completed (result : Json)
  | failed (error : Json)

/-- What a behavior brings to its queue. -/
structure Behavior (α : Type) where
  /-- `compact_text` of a text with its default. -/
  compactText : String → String → String
  /-- What `complete_command` reads off a result for the address. -/
  readdress : Json → α → α
  /-- The error `fail_command` records when it is given none. -/
  noError : Json
  mirrorEnqueue : KernelTask.Db → Id → Command α → Clock → KernelTask.Db
  mirrorTransition : KernelTask.Db → Id → Command α → Transition → Time → KernelTask.Db

structure EnqueueRequest (α : Type) where
  commandType : String
  machineId : String
  address : α
  prompt : Option String
  requestedBy : Json

inductive CommandError where
  | unknownCommand (command : Id)
deriving DecidableEq, Repr

def CommandError.text : CommandError → String
  | unknownCommand command => s!"Unknown command: {command}"

section Operations

variable {α : Type} (behavior : Behavior α)

/-- `value or fallback` on a decoded value. -/
def orElse (value fallback : Json) : Json := if value.truthy then value else fallback

/-- `enqueue_command`. -/
def enqueue (queue : Queue α) (payload : EnqueueRequest α) (clock : Clock) : Queue α :=
  let row : Command α :=
    { type := payload.commandType
      status := .queued
      machineId := payload.machineId
      address := payload.address
      prompt := payload.prompt
      requestedBy := payload.requestedBy
      workerId := none
      result := none
      error := none
      createdAt := clock 0
      updatedAt := clock 1
      startedAt := none
      completedAt := none }
  { commands := queue.commands ++ [row]
    tasks := behavior.mirrorEnqueue queue.tasks queue.commands.length row
      fun reading => clock (reading + 2) }

def nextQueued (queue : Queue α) (machineId : String) : Option (Command α × Id) :=
  firstBy (fun left right => left.createdAt ≤ right.createdAt) <|
    selectWhere (fun row => row.machineId = machineId ∧ row.status = .queued) queue.commands

def workerName (workerId : String) : String :=
  behavior.compactText workerId "unknown-worker"

/-- `claim_next_command`, with the command it hands out. -/
def claimNext (queue : Queue α) (machineId workerId : String) (clock : Clock) :
    Queue α × Option (Command α × Id) :=
  match nextQueued queue machineId with
  | none => (queue, none)
  | some (row, commandId) =>
      let claimed := { row with
        status := .running
        workerId := some (workerName behavior workerId)
        startedAt := some (clock 0)
        updatedAt := clock 0 }
      ({ commands := update queue.commands commandId claimed
         tasks := behavior.mirrorTransition queue.tasks commandId claimed .claimed (clock 1) },
        some (claimed, commandId))

/-- `complete_command`. -/
def complete (queue : Queue α) (commandId : Id) (workerId : String) (result : Json)
    (clock : Clock) : Except CommandError (Queue α) := do
  let row ← orRaise queue.commands[commandId]? (.unknownCommand commandId)
  let completed := { row with
    status := .completed
    workerId := some (behavior.compactText workerId (row.workerId.getD ""))
    result := some (orElse result (.obj []))
    completedAt := some (clock 0)
    updatedAt := clock 0
    address := behavior.readdress result row.address }
  return {
    commands := update queue.commands commandId completed
    tasks := behavior.mirrorTransition queue.tasks commandId completed (.completed result)
      (clock 1) }

/-- `fail_command`. -/
def fail (queue : Queue α) (commandId : Id) (workerId : String) (error : Json)
    (clock : Clock) : Except CommandError (Queue α) := do
  let row ← orRaise queue.commands[commandId]? (.unknownCommand commandId)
  let failed := { row with
    status := .failed
    workerId := some (behavior.compactText workerId (row.workerId.getD ""))
    error := some (orElse error behavior.noError)
    completedAt := some (clock 0)
    updatedAt := clock 0 }
  return {
    commands := update queue.commands commandId failed
    tasks := behavior.mirrorTransition queue.tasks commandId failed (.failed error) (clock 1) }

end Operations

end OpsCure.RemoteCommand

namespace OpsCure.RemoteCodex

open Fallible RemoteCommand

/-- The columns of a codex command's own. -/
structure Address where
  threadId : String
  taskId : Option String
  turnId : Option String
deriving Repr

/-- `REMOTE_CODEX_COMMAND_KIND`. -/
def remoteCodexCommandKind : String := "remote_codex.command"

/-- `remote_codex_machine_space_id`. -/
def remoteCodexMachineSpaceId (machineId : String) : String :=
  "remote_codex.machine:" ++ machineId

/-- `compact_text` on a text. -/
def compactText (value fallback : String) : String :=
  let normalized := Text.collapse value
  if normalized = "" then fallback else normalized

/-- `str(value or "")` on a decoded value; `render` is Python's `str` where the value is no
text. -/
def textOf (render : Json → String) (value : Json) : String :=
  match value with
  | .str text => text
  | value => if value.truthy then render value else ""

def column (value : Option String) : Json := (value.map Json.str).getD .null

def taskKey (commandId : Id) : String := toString commandId

/-- `_mirror_command_enqueue`; a failure of the mirror is swallowed. -/
def mirrorCommandEnqueue (render : Json → String) (tasks : KernelTask.Db) (commandId : Id)
    (row : Command Address) (clock : Clock) : KernelTask.Db :=
  committed tasks <| KernelTask.enqueue tasks
    { spaceId := remoteCodexMachineSpaceId row.machineId
      kind := remoteCodexCommandKind
      payload :=
        [("machine_id", .str row.machineId), ("thread_id", .str row.address.threadId),
          ("command_type", .str row.type), ("turn_id", column row.address.turnId),
          ("task_id", column row.address.taskId)]
      priority := 0
      requestedBy := compactText (textOf render (row.requestedBy.get "actorId")) ""
      parentTaskId := none
      taskId := some (taskKey commandId) } (taskKey commandId) clock

/-- `_mirror_command_transition`: the shadow takes the command's status, owner and outcome,
lease or no lease. -/
def mirrorCommandTransition (tasks : KernelTask.Db) (commandId : Id) (row : Command Address)
    (transition : Transition) (now : Time) : KernelTask.Db :=
  tasks.modify (taskKey commandId) (fun task =>
    let owned := { task with ownerActorId := row.workerId, updatedAt := now }
    match transition with
    | .claimed => { owned with
        status := .claimed
        claimCount := task.claimCount + 1
        startedAt := task.startedAt.or (some now) }
    | .completed .null => { owned with status := .completed }
    | .completed result => { owned with
        status := .completed
        result := some result
        completedAt := some now
        leaseExpiresAt := none }
    | .failed error => { owned with
        status := .failed
        error := some (orElse error (.obj [("message", .str "Unknown error")]))
        completedAt := some now
        leaseExpiresAt := none }) fun task => by
    cases transition with
    | claimed => rfl
    | completed result => cases result <;> rfl
    | failed error => rfl

/-- A result that is an object may name the turn it is about. -/
def readdress (render : Json → String) (result : Json) (address : Address) : Address :=
  match result with
  | .obj _ =>
      let nextTurnId := compactText (textOf render (result.get "turnId")) ""
      if nextTurnId = "" then address else { address with turnId := some nextTurnId }
  | _ => address

/-- What the codex behavior brings; `render` is Python's `str` of a decoded value. -/
def behavior (render : Json → String) : Behavior Address where
  compactText := compactText
  readdress := readdress render
  noError := .obj [("message", .str "Unknown error")]
  mirrorEnqueue := mirrorCommandEnqueue render
  mirrorTransition := mirrorCommandTransition

def enqueueCommand (render : Json → String) := enqueue (behavior render)
def claimNextCommand (render : Json → String) := claimNext (behavior render)
def completeCommand (render : Json → String) := complete (behavior render)
def failCommand (render : Json → String) := fail (behavior render)

end OpsCure.RemoteCodex

namespace OpsCure.RemoteClaude

open RemoteCommand

/-- The columns of a claude command's own. -/
structure Address where
  sessionId : String
  runId : Option String
deriving Repr

/-- `compact_text` on a text. -/
def compactText (value fallback : String) : String :=
  let stripped := Text.strip value
  if stripped = "" then fallback else stripped

/-- What the claude behavior brings: no turns, and no kernel tasks. -/
def behavior : Behavior Address where
  compactText := compactText
  readdress _ address := address
  noError := .obj []
  mirrorEnqueue tasks _ _ _ := tasks
  mirrorTransition tasks _ _ _ _ := tasks

def enqueueCommand := enqueue behavior
def claimNextCommand := claimNext behavior
def completeCommand := complete behavior
def failCommand := fail behavior

end OpsCure.RemoteClaude
