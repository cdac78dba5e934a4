/-
The runner of the remote executor (`remote_executor/runner.py`): it runs a cycle, subscribes to the
stream of its machine, and runs a further cycle for each frame that wakes it.  A step is one call
of the runner, one frame it reads, or one request of somebody else.
-/
import OpsCure.AgentErrands

namespace OpsCure.RemoteCodex

open Session Lossy RemoteCommand

/-! ## Configuration and state -/

structure RunnerConfig where
  agent : AgentConfig
  actorId : String
  leaseSeconds : Int

def RunnerConfig.claim (config : RunnerConfig) : RemoteTask.ClaimNextRequest where
  actorId := config.actorId
  leaseSeconds := config.leaseSeconds
  excludeOriginSurfaces := ["browser"]

/-- Where the runner stands.  A cycle goes from `bootstrapping` or `polling` to `claiming` and
`executing`; it runs before there is a stream, and again for each frame that wakes the runner. -/
inductive Phase where
  | starting
  | bootstrapping
  | polling (processedCommand : Bool)
  | idling
  | claiming
  | executing (task : Id)
  | connecting
  | listening
deriving DecidableEq, Repr

structure Runner where
  desk : Desk
  phase : Phase

def Runner.empty : Runner := ⟨.empty, .starting⟩

/-- A single call of the runner.  What others ask before it are steps of their own. -/
structure Contact where
  fate : Fate
  arrival : Arrival

def Contact.slot (contact : Contact) : Slot := ⟨[], contact.fate, contact.arrival⟩

/-- The call that ends `perform_sync`, with what the local reading of the threads raises.  The
listings before it have no answer the runner depends on: they are visits. -/
structure SyncCall where
  fault : Option String
  contact : Contact
  threadIds : List String

inductive Event where
  | visit (request : Request) (arrival : Arrival)
  | begin
  | sync (call : SyncCall)
  | errand (claim : Contact) (errand : Errand)
  | claimTask (contact : Contact) (drawn : String)
  | work (operation : RemoteTask.Operation) (slot : Slot)
  | connect
  | frame
  | beat (maintenance : Option SyncCall)
  | drop

/-! ## The stream -/

/-- `_should_wake_for_kernel_frame`, for the frame of an event. -/
def shouldWakeForKernelFrame (kind : String) : Bool :=
  "remote_codex.".toList.isPrefixOf (Text.lower (compactText kind "")).toList

/-- The stream drops what is no later than what it last sent. -/
def Listener.isStale (listener : Listener) (item : Envelope) : Bool :=
  match listener.cursor with
  | some cursor => item.cursor.le cursor
  | none => false

/-- The next frame is taken from the stream; it may wake the runner. -/
def Listener.read (listener : Listener) : Listener × Bool :=
  match listener.queue with
  | [] => (listener, false)
  | item :: rest =>
      if listener.isStale item then ({ listener with queue := rest }, false)
      else ({ listener with queue := rest, cursor := some item.cursor },
        shouldWakeForKernelFrame item.kind)

def Desk.listen (desk : Desk) (listener : Option Listener) : Desk :=
  { desk with bridge := { desk.bridge with listener := listener } }

/-! ## Steps -/

section Steps

variable (render : Json → String) (refuse : ServiceError → String) (lost : String)
  (config : RunnerConfig)

/-- A new session knows of no sync. -/
def Desk.renewed (desk : Desk) : Desk := { desk with hasBootstrapped := false }

/-- `run_cycle` begins. -/
def Runner.cycle (desk : Desk) : Runner :=
  ⟨desk, if desk.hasBootstrapped then .polling false else .bootstrapping⟩

/-- `run_cycle` has returned: to the stream, or on to it. -/
def Runner.rest (desk : Desk) : Runner :=
  ⟨desk, if desk.bridge.listener.isSome then .listening else .connecting⟩

def syncAgent (call : SyncCall) : Program String Desk PUnit.{1} :=
  closeSync render refuse lost config.agent call.fault call.contact.slot call.threadIds

/-- A cycle goes on, or is cut off. -/
def Runner.after (next : Phase) (result : Except String PUnit.{1} × Desk) : Runner :=
  match result with
  | (.ok _, desk) => ⟨desk, next⟩
  | (.error _, desk) => .rest desk

def promptErrand (claim : Contact) (errand : Errand) : Errand := { errand with claim := claim.slot }

/-- The task the runner's claim would be answered with. -/
def claimable (service : Service) : Option Id :=
  (RemoteTask.nextQueuedTask service.tasks config.agent.machineId config.claim).map (·.2)

/-- The calls `_execute_claimed_task` makes about its task. -/
def isExecutors (task : Id) : RemoteTask.Operation → Bool
  | .heartbeatTask named _ | .addEvidence named _ | .addNote named _ | .completeTask named _
  | .failTask named _ => named = task
  | _ => false

def Runner.step (s : Runner) : Event → Runner
  | .visit request arrival => ⟨s.desk.served render request arrival, s.phase⟩
  | .begin =>
      match s.phase with
      | .starting => .cycle s.desk.renewed
      | _ => s
  | .sync call =>
      match s.phase with
      | .bootstrapping => .after (.polling false) (exec (syncAgent render refuse lost config call) s.desk)
      | .idling => .after .claiming (exec (syncAgent render refuse lost config call) s.desk)
      | .executing _ => .rest (exec (syncAgent render refuse lost config call) s.desk).2
      | _ => s
  | .errand claim errand =>
      match s.phase with
      | .polling processedCommand =>
          match exec (executeNextCommand render refuse lost config.agent
              (promptErrand claim errand)) s.desk with
          | (.ok true, desk) => ⟨desk, .polling true⟩
          | (.ok false, desk) => ⟨desk, if processedCommand then .claiming else .idling⟩
          | (.error _, desk) => .rest desk
      | _ => s
  | .claimTask contact drawn =>
      match s.phase with
      | .claiming =>
          match exec (bridgeCall render refuse lost contact.slot (.call (.task
              (.claimNextTask config.agent.machineId config.claim drawn)))) s.desk with
          | (.ok _, desk) =>
              match claimable config s.desk.bridge.service with
              | some task => ⟨desk, .executing task⟩
              | none => .rest desk
          | (.error _, desk) => .rest desk
      | _ => s
  | .work operation slot =>
      match s.phase with
      | .executing task =>
          if isExecutors task operation then
            ⟨(exec (bridgeCall render refuse lost slot (.call (.task operation))) s.desk).2, s.phase⟩
          else s
      | _ => s
  | .connect =>
      match s.phase with
      | .connecting =>
          ⟨s.desk.listen (some ⟨remoteCodexMachineSpaceId config.agent.machineId, [], none⟩),
            .listening⟩
      | _ => s
  | .frame =>
      match s.phase, s.desk.bridge.listener with
      | .listening, some listener =>
          let desk := s.desk.listen (some listener.read.1)
          if listener.read.2 then .cycle desk else ⟨desk, .listening⟩
      | _, _ => s
  | .beat maintenance =>
      match s.phase, s.desk.bridge.listener, maintenance with
      | .listening, some listener, some call =>
          if listener.queue = [] then
            match exec (syncAgent render refuse lost config call) s.desk with
            | (.ok _, desk) => ⟨desk, .listening⟩
            | (.error _, desk) => ⟨desk.listen none, .starting⟩
          else s
      | _, _, _ => s
  | .drop =>
      match s.phase with
      | .connecting | .listening => ⟨s.desk.listen none, .starting⟩
      | _ => s

def Runner.begins (s : Runner) : Event → Bool
  | .begin => s.phase = .starting
  | .frame => s.phase = .listening ∧ s.desk.bridge.listener.any fun listener => listener.read.2
  | _ => false

def Runner.cycles (s : Runner) : List Event → Nat
  | [] => 0
  | event :: events =>
      (if s.begins event then 1 else 0) +
        (s.step render refuse lost config event).cycles events

end Steps

end OpsCure.RemoteCodex
