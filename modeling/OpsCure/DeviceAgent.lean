/-
The device agent (`remote_executor/device_agent.py`): it syncs with the bridge, and claims commands
and carries them out on its machine.  One try block spans the calls before the local work, the
work, and the calls after it up to the closing sync; its handler reports a failure.
-/
import OpsCure.AgentBridge
import OpsCure.Library.Lossy

namespace OpsCure.RemoteCodex

open Fallible Session Lossy RemoteCommand

/-! ## The agent beside the bridge -/

/-- What a command does on the machine, and cannot be undone by reporting a failure. -/
inductive LocalEffect where
  | turnSubmitted
  | turnInterrupted
  | threadArchived
  | threadCreated
  | directoryMade
deriving DecidableEq, Repr

/-- The bridge, the agent, and what was done on the machine for which command. -/
structure Desk where
  bridge : Bridge
  hasBootstrapped : Bool
  effects : List (Id × LocalEffect)

def Desk.empty : Desk := ⟨.empty, false, []⟩

/-- A call of the agent: what others ask of the bridge before it, what becomes of it, and when it
arrives. -/
structure Slot where
  others : List (Request × Arrival)
  fate : Fate
  arrival : Arrival

structure AgentConfig where
  machineId : String
  workerId : String
  pendingCommandSyncLimit : Int

/-- One `perform_sync`: the threads whose commands are read, what the local reading of a thread
raises, and the sync itself. -/
structure SyncPlan where
  listings : List (String × Slot)
  fault : Option String
  sync : Slot

/-- What the machine makes of a command, by its type. -/
structure LocalRuntime where
  hasAttachments : Bool
  buildTurnInput : Except String PUnit.{1}
  submitPromptViaDesktopUi : Except String (Option String)
  materializePrompt : Except String PUnit.{1}
  startTurn : Except String (Option String × Option String)
  interruptTurn : Except String PUnit.{1}
  deleteThread : Except String Bool
  createThread : Except String (Option String)
  listDirectory : Except String (List (String × Json))
  makeDirectory : Except String (List (String × Json))

/-- One turn of `execute_next_command`: when its calls arrive, and what the machine does. -/
structure Errand where
  claim : Slot
  drawn : String
  started : Slot
  runtime : LocalRuntime
  evidence : Slot
  executing : Slot
  completedTask : Slot
  report : Slot
  sync : SyncPlan
  failedTask : Slot
  failedReport : Slot
  resync : SyncPlan

section Agent

-- Python's rendering of a decoded value, and the texts the client raises.
variable (render : Json → String) (refuse : ServiceError → String) (lost : String)

/-! ## Calls -/

/-- What others ask of the bridge. -/
def serveAll (requests : List (Request × Arrival)) (bridge : Bridge) : Bridge :=
  requests.foldl (fun bridge visit => (serve render visit.1 visit.2 bridge).1) bridge

def sendRequest (request : Request) (arrival : Arrival) (desk : Desk) :
    Desk × Except String Answer :=
  let served := serve render request arrival desk.bridge
  ({ desk with bridge := served.1 }, served.2.mapError refuse)

def bridgeCall (slot : Slot) (request : Request) : Program String Desk Answer := do
  transaction fun desk => .ok (⟨⟩, { desk with bridge := serveAll render slot.others desk.bridge })
  call lost slot.fate (sendRequest render refuse request slot.arrival)

/-- What `perform_sync` ends with: the reading of the threads, and the sync itself. -/
def closeSync (config : AgentConfig) (fault : Option String) (slot : Slot)
    (threadIds : List String) : Program String Desk PUnit.{1} := do
  query fun _ => match fault with
    | some text => .error text
    | none => .ok PUnit.unit
  let _ ← bridgeCall render refuse lost slot (.agentSync config.machineId threadIds)
  transaction fun desk => .ok (⟨⟩, { desk with hasBootstrapped := true })

/-- `perform_sync`.  A listing that fails is passed over. -/
def performSync (config : AgentConfig) (plan : SyncPlan) : Program String Desk PUnit.{1} := do
  plan.listings.forM fun listing => attempt <| bridgeCall render refuse lost listing.2
    (.call (.listThreadCommands config.machineId listing.1 config.pendingCommandSyncLimit false))
  closeSync render refuse lost config plan.fault plan.sync (plan.listings.map (·.1))

/-! ## The local work -/

/-- What was done for a command: the result to report, how a prompt was submitted, and the effect
on the machine. -/
structure Done where
  result : List (String × Json)
  submissionMode : Option String
  effect : Option LocalEffect

/-- `turn.start` on the machine. -/
def startTurnLocally (runtime : LocalRuntime) (row : Command Address) : Except String Done := do
  let prompt := compactText (row.prompt.getD "") ""
  require (prompt ≠ "" ∨ runtime.hasAttachments) "Turn prompt is empty."
  runtime.buildTurnInput
  match ← runtime.submitPromptViaDesktopUi with
  | some mode =>
      return {
        result := [("accepted", .bool true), ("turnId", .null), ("turnStatus", .str "queued"),
          ("submissionMode", .str mode)]
        submissionMode := some mode
        effect := some .turnSubmitted }
  | none =>
      runtime.materializePrompt
      let (turnId, turnStatus) ← runtime.startTurn
      return {
        result := [("accepted", .bool true), ("turnId", column turnId),
          ("turnStatus", column turnStatus)]
        submissionMode := none
        effect := some .turnSubmitted }

/-- `turn.interrupt` on the machine. -/
def interruptTurnLocally (runtime : LocalRuntime) (row : Command Address) :
    Except String Done := do
  let turnId := compactText (row.address.turnId.getD "") ""
  require (turnId ≠ "") "Interrupt command is missing turnId."
  runtime.interruptTurn
  return {
    result := [("interrupted", .bool true), ("turnId", .str turnId)]
    submissionMode := none
    effect := some .turnInterrupted }

/-- A command on the machine.  A listing leaves nothing behind. -/
def workLocally (runtime : LocalRuntime) (row : Command Address) : Except String Done :=
  if row.type = turnStart then startTurnLocally runtime row
  else if row.type = turnInterrupt then interruptTurnLocally runtime row
  else if row.type = threadDelete then
    runtime.deleteThread.map fun archived =>
      { result := [("threadId", .str (compactText row.address.threadId "")),
          ("archived", .bool archived)]
        submissionMode := none
        effect := some .threadArchived }
  else if row.type = threadStart then
    runtime.createThread.map fun threadId =>
      { result := [("threadId", column threadId), ("created", .bool true)]
        submissionMode := none
        effect := some .threadCreated }
  else if row.type = fsList then
    runtime.listDirectory.map fun result => ⟨result, none, none⟩
  else if row.type = fsMkdir then
    runtime.makeDirectory.map fun result => ⟨result, none, some .directoryMade⟩
  else .error s!"Unsupported command type: {row.type}"

/-! ## One command -/

/-- `compact_text(command.get("taskId")) or None`. -/
def taskOf (row : Command Address) : Option String :=
  (row.address.taskId.map fun name => compactText name "").filter (· ≠ "")

def beatOf (config : AgentConfig) (phase summary : String) (commandsRunCount : Int) :
    AgentHeartbeat where
  actorId := config.machineId
  phase := phase
  summary := some summary
  commandsRunCount := commandsRunCount
  filesReadCount := 0
  filesModifiedCount := 0
  testsRunCount := 0

def submissionSummary (submissionMode : Option String) : String :=
  match submissionMode with
  | some "desktop-ipc" => "Submitted the request through the Codex desktop thread-follower IPC."
  | some _ => "Submitted the request through the Codex desktop UI."
  | none => "Submitted a live turn command to the local Codex runtime."

/-- What the heartbeat after a submitted prompt says. -/
def acceptanceSummary (submissionMode : Option String) : String :=
  match submissionMode with
  | some "desktop-ipc" =>
      "The Codex desktop IPC accepted the request and queued it in the active thread."
  | some _ => "The Codex desktop UI accepted the request and queued it in the active thread."
  | none => "The local Codex runtime accepted the request and is updating the thread."

def submissionEvidence (config : AgentConfig) (row : Command Address) (commandId : Id)
    (done : Done) : RemoteTask.EvidenceRequest where
  actorId := config.machineId
  kind := "command_execution"
  summary := submissionSummary done.submissionMode
  payload := .obj [("commandId", .str (toString commandId)),
    ("turnId", (Json.obj done.result).get "turnId"),
    ("turnStatus", (Json.obj done.result).get "turnStatus"), ("type", .str row.type),
    ("submissionMode", column done.submissionMode)]

def interruptEvidence (config : AgentConfig) (row : Command Address) (commandId : Id) (done : Done) :
    RemoteTask.EvidenceRequest where
  actorId := config.machineId
  kind := "command_execution"
  summary := "Sent an interrupt command to the local Codex runtime."
  payload := .obj [("commandId", .str (toString commandId)),
    ("turnId", (Json.obj done.result).get "turnId"), ("type", .str row.type)]

/-- The calls on the task of a command after the local work, with the slots they go through. -/
def followUps (config : AgentConfig) (errand : Errand) (row : Command Address) (commandId : Id)
    (done : Done) : List (Slot × Request) :=
  match taskOf row with
  | none => []
  | some task =>
      if row.type = turnStart then
        [(errand.evidence, .agentAddEvidence task (submissionEvidence config row commandId done)),
          (errand.executing, .agentHeartbeatTask task
            (beatOf config "executing" (acceptanceSummary done.submissionMode) 1))]
      else if row.type = turnInterrupt then
        [(errand.evidence, .agentAddEvidence task (interruptEvidence config row commandId done)),
          (errand.executing, .agentHeartbeatTask task
            (beatOf config "interrupted" "Interrupt reached the local Codex runtime." 1)),
          (errand.completedTask, .agentCompleteTask task config.machineId
            (some "Interrupt request completed."))]
      else []

def announceStart (config : AgentConfig) (errand : Errand) (row : Command Address) :
    List (Slot × Request) :=
  (taskOf row).toList.map fun task => (errand.started, .agentHeartbeatTask task
    (beatOf config "running" "Submitting the browser request to the local Codex runtime." 0))

def callAll (calls : List (Slot × Request)) : Program String Desk PUnit.{1} :=
  calls.forM fun next => do
    let _ ← bridgeCall render refuse lost next.1 next.2

def completedReport (config : AgentConfig) (commandId : Id) (done : Done) : Report where
  commandId := commandId
  workerId := config.workerId
  status := "completed"
  result := some done.result
  error := none

def failedReport (config : AgentConfig) (commandId : Id) (errorText : String) : Report where
  commandId := commandId
  workerId := config.workerId
  status := "failed"
  result := none
  error := some [("message", .str errorText)]

def workOnMachine (errand : Errand) (row : Command Address) (commandId : Id) :
    Program String Desk Done :=
  transaction fun desk =>
    (workLocally errand.runtime row).map fun done =>
      (done, { desk with effects :=
        desk.effects ++ done.effect.toList.map fun effect => (commandId, effect) })

/-- What follows the local work. -/
def concludeCommand (config : AgentConfig) (errand : Errand) (row : Command Address)
    (commandId : Id) (done : Done) : Program String Desk PUnit.{1} := do
  callAll render refuse lost (followUps config errand row commandId done)
  let _ ← bridgeCall render refuse lost errand.report
    (.call (.recordCommandResult (completedReport config commandId done)))
  performSync render refuse lost config errand.sync

/-- The try block. -/
def attemptCommand (config : AgentConfig) (errand : Errand) (row : Command Address)
    (commandId : Id) : Program String Desk PUnit.{1} := do
  callAll render refuse lost (announceStart config errand row)
  let done ← workOnMachine errand row commandId
  concludeCommand render refuse lost config errand row commandId done

def reportFailure (config : AgentConfig) (errand : Errand) (row : Command Address)
    (commandId : Id) (raised : String) : Program String Desk PUnit.{1} := do
  let errorText := compactText raised "Unknown error"
  (taskOf row).toList.forM fun task => attempt <| bridgeCall render refuse lost errand.failedTask
    (.agentFailTask task config.machineId errorText)
  attempt <| bridgeCall render refuse lost errand.failedReport
    (.call (.recordCommandResult (failedReport config commandId errorText)))
  attempt <| performSync render refuse lost config errand.resync

/-- A claimed command.  Whatever is raised is reported, and raised again. -/
def carryOut (config : AgentConfig) (errand : Errand) (row : Command Address) (commandId : Id) :
    Program String Desk Bool :=
  ExceptT.mk fun desk =>
    match exec (attemptCommand render refuse lost config errand row commandId) desk with
    | (.ok _, after) => (.ok true, after)
    | (.error raised, after) =>
        (.error raised,
          (exec (reportFailure render refuse lost config errand row commandId raised) after).2)

/-- `execute_next_command`. -/
def executeNextCommand (config : AgentConfig) (errand : Errand) : Program String Desk Bool := do
  match ← bridgeCall render refuse lost errand.claim
      (.call (.claimNextCommand config.machineId config.workerId errand.drawn)) with
  | .claimed (some (row, commandId)) => carryOut render refuse lost config errand row commandId
  | _ => return false

end Agent

end OpsCure.RemoteCodex
