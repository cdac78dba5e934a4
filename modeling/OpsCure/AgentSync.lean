/-
`perform_sync` of the device agent (`remote_executor/device_agent.py`), from the commands it asks the
bridge for through its client (`remote_executor/bridge.py`, `bridge_client.py`) to the snapshots that
the bridge stores (`remote_codex/state_service.py`).
-/
import OpsCure.Library.Lossy
import OpsCure.ThreadCommands
import OpsCure.ThreadReading

namespace OpsCure.AgentSync

open Rollout RemoteCommand
open RemoteCodex (compactText)

/-! ## The bridge -/

/-- What the bridge keeps for a machine: the commands and tasks, the machines it knows, and the
threads of this one with their messages. -/
structure Store where
  commands : RemoteCodex.CommandTable
  tasks : RemoteTask.Db
  machines : List String
  threads : String → Option (List Message)

/-- A command as the bridge tells of it, as far as the agent asks. -/
structure PublicCommand where
  commandId : String
  type : String
  status : String
  prompt : Option String
deriving DecidableEq, Repr

/-- `_command_row_to_public`. -/
def commandRowToPublic (row : Command RemoteCodex.Address × Id) : PublicCommand where
  commandId := toString row.2
  type := row.1.type
  status := row.1.status.text
  prompt := row.1.prompt

/-- `GET /api/remote-codex/machines/{machine}/threads/{thread}/commands`, whose limit is validated. -/
def getThreadCommands (render : Json → String) (store : Store) (machineId threadId : String)
    (limit : Int) (now : Time) : Store × Except String (List PublicCommand) :=
  if ¬ (1 ≤ limit ∧ limit ≤ 30) then (store, .error "422")
  else if machineId ∉ store.machines then (store, .error "machine_not_found")
  else if (store.threads threadId).isNone then (store, .error "thread_not_found")
  else
    let listed := RemoteCodex.listThreadCommands render store.tasks store.commands machineId threadId
      limit false now
    ({ store with commands := listed.1 }, .ok (listed.2.map commandRowToPublic))

/-- `BridgeClient.get_remote_codex_thread_commands`. -/
def getRemoteCodexThreadCommands (render : Json → String) (store : Store)
    (machineId threadId : String) (limit : Int) (now : Time) :
    Store × Except String (List PublicCommand) :=
  getThreadCommands render store machineId threadId (max 1 (min limit 32)) now

/-- `DEFAULT_STORED_MESSAGE_WINDOW`. -/
def storedMessageWindow : Int := 200

def storedMessage (message : Message) : Message :=
  { message with
    role := compactText message.role "assistant"
    phase := (message.phase.map fun phase => compactText phase "").filter (· ≠ "") }

/-- The messages of a thread that an agent sends. -/
structure Snapshot where
  threadId : String
  messages : List Message

/-- `apply_agent_sync`, as far as it touches threads and their messages. -/
def applyAgentSync (threads : String → Option (List Message)) (threadIds : List String)
    (snapshots : List Snapshot) : String → Option (List Message) :=
  let incoming := (threadIds.map fun id => compactText id "").filter (· ≠ "")
  let kept := fun threadId =>
    if threadId ∈ incoming then some ((threads threadId).getD []) else none
  snapshots.foldl (fun threads snapshot =>
    Function.update threads snapshot.threadId
      (some ((lastOf storedMessageWindow snapshot.messages).map storedMessage))) kept

/-! ## The client of the agent -/

/-- What an agent asks of its bridge. -/
inductive Method where
  | streamRemoteCodexMachine
  | streamMachineKernelEvents
  | syncRemoteCodexAgent
  | getRemoteCodexThreadCommands
  | claimNextRemoteCodexCommand
  | reportRemoteCodexCommandResult
  | heartbeatRemoteCodexAgentTask
  | addRemoteCodexAgentTaskEvidence
  | completeRemoteCodexAgentTask
  | failRemoteCodexAgentTask
  | claimNextRemoteTaskForMachine
  | claimRemoteTask
  | heartbeatRemoteTask
  | addRemoteTaskEvidence
  | addRemoteTaskNote
  | completeRemoteTask
  | failRemoteTask
deriving DecidableEq, Repr

/-- The object an agent has for its bridge: the name of its class, and the methods of the class,
each of which hands a call on to a `BridgeClient`. -/
structure Client where
  className : String
  methods : List Method

/-- `BridgeRemoteExecutorClient`, a data class with slots. -/
def bridgeRemoteExecutorClient : Client where
  className := "BridgeRemoteExecutorClient"
  methods := [
    .streamRemoteCodexMachine,
    .streamMachineKernelEvents,
    .syncRemoteCodexAgent,
    .claimNextRemoteCodexCommand,
    .reportRemoteCodexCommandResult,
    .heartbeatRemoteCodexAgentTask,
    .addRemoteCodexAgentTaskEvidence,
    .completeRemoteCodexAgentTask,
    .failRemoteCodexAgentTask,
    .claimNextRemoteTaskForMachine,
    .claimRemoteTask,
    .heartbeatRemoteTask,
    .addRemoteTaskEvidence,
    .addRemoteTaskNote,
    .completeRemoteTask,
    .failRemoteTask]

/-- `self.bridge.get_remote_codex_thread_commands(…)`. -/
def askThreadCommands (client : Client) (setup : Setup) (store : Store) (threadId : String)
    (now : Time) : Store × Except String (List PublicCommand) :=
  if .getRemoteCodexThreadCommands ∈ client.methods then
    getRemoteCodexThreadCommands setup.python.render store setup.machineId threadId
      setup.pendingCommandSyncLimit now
  else (store, .error ("'" ++ client.className ++
    "' object has no attribute 'get_remote_codex_thread_commands'"))

/-! ## Prompts that wait -/

/-- The machine, the bridge, and, which is no state of theirs, the commands whose prompts have been
materialised, each with its thread. -/
structure Site where
  machine : Machine
  store : Store
  materialized : List (String × String)

/-- A command whose prompt `perform_sync` shows in its thread. -/
def waits (setup : Setup) (threadId : String) (command : PublicCommand) : Bool :=
  compactText command.type "" = "turn.start" ∧
    Text.lower (compactText command.status "") ∈ ["queued", "running"] ∧
    canSubmitPromptViaDesktopUi setup threadId = false ∧
    compactText (command.prompt.getD "") "" ≠ "" ∧
    compactText command.commandId "" ≠ ""

def materializeWaiting (setup : Setup) (threadId : String) :
    List (PublicCommand × Moment) → Site → Site × Except String Bool
  | [], site => (site, .ok false)
  | (command, moment) :: rest, site =>
      if waits setup threadId command then
        let commandId := compactText command.commandId ""
        match materializePendingBrowserPrompt setup site.machine threadId commandId
            (compactText (command.prompt.getD "") "") moment with
        | .error raised => (site, .error raised)
        | .ok (machine, done) =>
            let shown := { site with
              machine := machine
              materialized := site.materialized ++ if done then [(threadId, commandId)] else [] }
            let later := materializeWaiting setup threadId rest shown
            (later.1, later.2.map fun more => done || more)
      else materializeWaiting setup threadId rest site

/-! ## The loop over the threads -/

/-- A thread of `list_threads`, with the clock of its turn in the loop: when its commands are asked
for, when each of them is materialised, and when it is read. -/
structure Visit where
  id : String
  record : ThreadRecord
  asked : Time
  shown : Nat → Moment
  reading : Moment

def Visit.threadId (visit : Visit) : String := compactText visit.id ""

def showWaiting (client : Client) (setup : Setup) (visit : Visit) (site : Site) :
    Site × Except String Bool :=
  let asked := askThreadCommands client setup site.store visit.threadId visit.asked
  let rows := match asked.2 with
    | .ok rows => rows
    | .error _ => []
  materializeWaiting setup visit.threadId (rows.zipIdx.map fun row => (row.1, visit.shown row.2))
    { site with store := asked.1 }

/-- What a thread comes to in the loop: its version, and its messages where it was read. -/
structure Seen where
  threadId : String
  version : String
  messages : Option (List Message)

/-- `self.backend.get_thread_by_id(thread_id) or thread`. -/
def currentThread (machine : Machine) (visit : Visit) : ThreadRecord :=
  (getThreadById machine visit.threadId).getD visit.record

def readVisit (setup : Setup) (versions : List (String × String)) (mustRead : Bool) (visit : Visit)
    (machine : Machine) : Machine × Except String Seen :=
  let version := buildThreadVersion setup machine.files (currentThread machine visit)
  if ¬ mustRead ∧ versions.lookup visit.threadId = some version then
    (machine, .ok ⟨visit.threadId, version, none⟩)
  else
    let read := readThreadMessages setup machine visit.threadId visit.reading
    (read.1, read.2.map fun messages =>
      ⟨visit.threadId, version, messages.map (lastOf setup.messageLimit)⟩)

def visitThread (client : Client) (setup : Setup) (versions : List (String × String))
    (force includePendingCommands : Bool) (visit : Visit) (site : Site) :
    Site × Except String (List Seen) :=
  if visit.threadId = "" then (site, .ok [])
  else
    let shown := if includePendingCommands then showWaiting client setup visit site
      else (site, .ok false)
    match shown.2 with
    | .error raised => (shown.1, .error raised)
    | .ok pendingMaterialized =>
        let read := readVisit setup versions (force || pendingMaterialized) visit shown.1.machine
        ({ shown.1 with machine := read.1 }, read.2.map fun seen => [seen])

def visitThreads (client : Client) (setup : Setup) (versions : List (String × String))
    (force includePendingCommands : Bool) : List Visit → Site → Site × Except String (List Seen)
  | [], site => (site, .ok [])
  | visit :: visits, site =>
      let here := visitThread client setup versions force includePendingCommands visit site
      match here.2 with
      | .error raised => (here.1, .error raised)
      | .ok seen =>
          let later := visitThreads client setup versions force includePendingCommands visits here.1
          (later.1, later.2.map fun more => seen ++ more)

/-! ## The sync -/

/-- The agent beside its machine and the bridge. -/
structure World where
  site : Site
  threadVersions : List (String × String)
  hasBootstrapped : Bool

def snapshotsOf (seen : List Seen) : List Snapshot :=
  seen.filterMap fun one => one.messages.map fun messages => ⟨one.threadId, messages⟩

/-- `next_versions`. -/
def nextVersions (seen : List Seen) : List (String × String) :=
  Dict.setAll [] (seen.map fun one => (one.threadId, one.version))

def Site.applySync (site : Site) (visits : List Visit) (seen : List Seen) : Site :=
  { site with
    store := { site.store with
      threads := applyAgentSync site.store.threads (visits.map (·.id)) (snapshotsOf seen) } }

/-- `perform_sync`, over the threads that `list_threads` gives.  The versions are noted when the call
of the bridge has been answered. -/
def performSync (client : Client) (setup : Setup) (force includePendingCommands : Bool)
    (visits : List Visit) (fate : Lossy.Fate) (world : World) : World × Except String Bool :=
  let visited := visitThreads client setup world.threadVersions force includePendingCommands visits
    world.site
  match visited.2 with
  | .error raised => ({ world with site := visited.1 }, .error raised)
  | .ok seen =>
      match fate with
      | .lostBefore => ({ world with site := visited.1 }, .error "lost")
      | .lostAfter => ({ world with site := visited.1.applySync visits seen }, .error "lost")
      | .delivered =>
          ({ site := visited.1.applySync visits seen
             threadVersions := nextVersions seen
             hasBootstrapped := true },
            .ok (snapshotsOf seen ≠ [] ∨ visits ≠ []))

/-- `mark_thread_dirty`. -/
def markThreadDirty (world : World) (threadId : String) : World :=
  { world with threadVersions := Dict.pop world.threadVersions threadId }

end OpsCure.AgentSync
