/-
Pause, resume and recovery of a session (`workflows/pause_workflow.py`,
`services/recovery_service.py`), and what can happen to a session in all.  A recovery reads the
session, waits for Discord to tell whether the thread is there, and then writes the fields it
has changed over whatever has been committed meanwhile.
-/
import OpsCure.Library.Run
import OpsCure.SessionService

namespace OpsCure.SessionService

open Fallible

/-! ## Pause and resume -/

/-- `PauseWorkflow.pause`. -/
def pause (s : State) : State :=
  { s with
    session := { s.session with desiredStatus := .paused, status := .paused }
    agents := s.agents.map fun agent =>
      { agent with
        desiredStatus := .paused
        status := if agent.status = "busy" then agent.status else "paused" }
    jobs := cancelJobs s.jobs (·.status = .pending) }

/-- `PauseWorkflow.resume`, up to the recovery it asks for. -/
def resume (s : State) : State :=
  { s with
    session := { s.session with desiredStatus := .ready }
    agents := s.agents.map fun agent =>
      { agent with
        desiredStatus := .ready
        status := if agent.status = "paused" then "starting" else agent.status } }

/-! ## Recovery -/

/-- What a recovery learns outside the database, and the settings of its service. -/
structure RecoveryReadings where
  threadMissing : Bool
  hasPowerTarget : Bool
  executionState : Option String
  wakeIfNeeded : Bool
  workerStaleAfter : Time
  stalledStartTimeout : Time
deriving DecidableEq, Repr

/-- `STARTUP_SESSION_STATUSES`. -/
def SessionStatus.isStartup : SessionStatus → Bool
  | requested | wakingExecutionPlane | awaitingLauncher | waitingForWorkers | launching
  | restartingWorkers => true
  | resumingJobs | ready | paused | closed | failedStart => false

/-- `_clear_stale_workers`, on one agent. -/
def clearStaleWorker (staleAfter now : Time) (agent : AgentRow) : AgentRow :=
  if agent.lastHeartbeatAt.all (· + staleAfter < now) then
    { agent with
      workerId := none
      status := if agent.status = "busy" then agent.status else "starting" }
  else agent

def AgentRow.retired (agent : AgentRow) : AgentRow :=
  { agent with workerId := none, status := "offline", desiredStatus := .closed }

/-- What a recovery makes of the rows it has read: the session, each agent, and whether the
jobs are cancelled. -/
structure Recovered where
  session : SessionRow
  agent : AgentRow → AgentRow
  cancels : Bool

/-- `_is_stalled_start`. -/
def isStalledStart (session : SessionRow) (agents : List AgentRow) (readings : RecoveryReadings)
    (now : Time) : Bool :=
  session.status.isStartup && session.closedAt.isNone &&
  decide (session.createdAt + readings.stalledStartTimeout ≤ now) &&
  decide (attachedAgentCount readings.workerStaleAfter now agents = 0)

/-- The rest of `recover_session`, once the stale workers are cleared and the start is not
stalled. -/
def recoverWorkers (session : SessionRow) (agents : List AgentRow) (hasJobs : Bool)
    (readings : RecoveryReadings) (now : Time) : Recovered :=
  let cleared := clearStaleWorker readings.workerStaleAfter now
  let attached := attachedAgentCount readings.workerStaleAfter now (agents.map cleared)
  if readings.executionState.all (· ∈ ["offline", "awaiting_launcher"]) then
    { session := { session with
        status := if readings.wakeIfNeeded ∧ readings.hasPowerTarget then .wakingExecutionPlane
          else .awaitingLauncher }
      agent := cleared
      cancels := false }
  else if attached < agents.length then
    { session := { session with
        status := if 0 < attached then .launching else .waitingForWorkers }
      agent := fun agent =>
        { cleared agent with
          desiredStatus := .ready
          status :=
            if ¬ agentHasAttachmentSignal readings.workerStaleAfter now (cleared agent) then
              "starting"
            else if (cleared agent).status ∈ ["starting", "offline"] then "idle"
            else (cleared agent).status }
      cancels := false }
  else
    { session := { session with status := if hasJobs then .resumingJobs else .ready }
      agent := fun agent =>
        { cleared agent with
          desiredStatus := .ready
          status := if (cleared agent).status = "paused" then "idle" else (cleared agent).status }
      cancels := false }

/-- `recover_session`, after the thread has been probed. -/
def recoverSession (session : SessionRow) (agents : List AgentRow) (hasJobs : Bool)
    (readings : RecoveryReadings) (now : Time) : Recovered :=
  if readings.threadMissing then
    -- `_close_missing_thread_session`
    { session := { session with
        status := .closed, desiredStatus := .closed, closedAt := some now }
      agent := AgentRow.retired
      cancels := true }
  else if session.desiredStatus = .paused then
    { session := { session with status := .paused }
      agent := fun agent =>
        { agent with
          desiredStatus := .paused
          status := if agent.status = "busy" then agent.status else "paused" }
      cancels := false }
  else if isStalledStart session
      (agents.map (clearStaleWorker readings.workerStaleAfter now)) readings now then
    -- `_fail_stalled_start`
    { session := { session with
        status := .failedStart, desiredStatus := .closed, closedAt := some now }
      agent := AgentRow.retired
      cancels := true }
  else recoverWorkers session agents hasJobs readings now

/-- A field as it is stored after a flush: what is written is what differs from what was
loaded. -/
def writeBack {α : Type} [DecidableEq α] (loaded computed stored : α) : α :=
  if computed = loaded then stored else computed

def SessionRow.flushed (stored loaded computed : SessionRow) : SessionRow :=
  { stored with
    status := writeBack loaded.status computed.status stored.status
    desiredStatus := writeBack loaded.desiredStatus computed.desiredStatus stored.desiredStatus
    closedAt := writeBack loaded.closedAt computed.closedAt stored.closedAt }

def AgentRow.flushed (stored loaded computed : AgentRow) : AgentRow :=
  { stored with
    status := writeBack loaded.status computed.status stored.status
    desiredStatus := writeBack loaded.desiredStatus computed.desiredStatus stored.desiredStatus
    workerId := writeBack loaded.workerId computed.workerId stored.workerId }

/-- `recover_session`, up to its probe of the thread. -/
def recoverBegin (s : State) : State :=
  if s.session.closedAt.isSome then s
  else { s with recoveries := s.recoveries ++ [⟨s.session, s.agents⟩] }

def State.recovered (s : State) (recovery : Recovery) (readings : RecoveryReadings)
    (now : Time) : Recovered :=
  recoverSession recovery.session recovery.agents (hasLiveJob s.jobs) readings now

def flushAgents (stored loaded : List AgentRow) (computed : AgentRow → AgentRow) :
    List AgentRow :=
  stored.mapIdx fun place agent =>
    match loaded[place]? with
    | some old => agent.flushed old (computed old)
    | none => agent

/-- `recover_session`, from the answer of the probe on. -/
def recoverFinish (s : State) (which : Nat) (readings : RecoveryReadings) (now : Time) : State :=
  match s.recoveries[which]? with
  | none => s
  | some recovery =>
      let recovered := s.recovered recovery readings now
      { s with
        session := s.session.flushed recovery.session recovered.session
        agents := flushAgents s.agents recovery.agents recovered.agent
        jobs := if recovered.cancels then cancelJobs s.jobs (·.live) else s.jobs
        recoveries := s.recoveries.eraseIdx which }

/-! ## Runs -/

/-- A text that `str(uuid4())` returns. -/
structure Uuid where
  text : String
  nonempty : text ≠ ""

/-- What can happen to a session. -/
inductive Operation where
  | registerWorker (agentName workerId : String)
  | heartbeat (agentName workerId status : String)
  | routeDiscordMessage (routing : Except ServiceError RoutingDecision)
  | enqueueRestart (agentName : String)
  | claimLaunches (restoreLastSession : Bool)
  | claimNextJob (agentName workerId : String) (leaseToken : Uuid) (policy : Option Nat)
  | completeJob (report : JobReport) (output : ControlOutput)
  | failJob (report : JobReport) (errorText : String)
  | resetSession
  | closeSession
  | cleanupSessionThread
  | pause
  | resume
  | recoverBegin
  | recoverFinish (which : Nat) (readings : RecoveryReadings)

structure Deed where
  operation : Operation
  now : Time

def perform (s : State) (operation : Operation) (now : Time) : Except ServiceError State :=
  match operation with
  | .registerWorker agentName workerId => registerWorker s agentName workerId now
  | .heartbeat agentName workerId status => heartbeat s agentName workerId status now
  | .routeDiscordMessage routing => routeDiscordMessage s routing now
  | .enqueueRestart agentName => enqueueRestart s agentName now
  | .claimLaunches restoreLastSession => .ok (claimLaunches s restoreLastSession)
  | .claimNextJob agentName workerId leaseToken policy =>
      (·.1) <$> claimNextJob s agentName workerId leaseToken.text policy now
  | .completeJob report output => completeJob s report output now
  | .failJob report errorText => failJob s report errorText now
  | .resetSession => .ok (resetSession s now)
  | .closeSession => .ok (closeSessionRow s now)
  | .cleanupSessionThread => .ok (cleanupSessionThread s now)
  | .pause => .ok (pause s)
  | .resume => .ok (resume s)
  | .recoverBegin => .ok (recoverBegin s)
  | .recoverFinish which readings => .ok (recoverFinish s which readings now)

/-- An operation that raises is rolled back. -/
def step (s : State) (deed : Deed) : State :=
  committed s (perform s deed.operation deed.now)

def team : State :=
  State.start [("planner", "planning"), ("coder", "coding"), ("tester", "verification")] 0

def handoffTo (agent : String) : HandoffBlock where
  agent := agent
  body := "T-001\nRead CURRENT_STATE.md and TASK_BOARD.md first.\nTarget summary: parse the log"
  taskCardId := some "T-001"

def reportOn (jobId : Id) (agentName workerId : String) : JobReport :=
  ⟨jobId, agentName, workerId, none, none, none⟩

/-- The planner gets a message and hands a task to the coder, who takes it up. -/
def handedOver : List Deed :=
  [⟨.registerWorker "planner" "w1", 1⟩, ⟨.registerWorker "coder" "w2", 2⟩,
    ⟨.routeDiscordMessage (.ok ⟨"planner", "orchestration"⟩), 3⟩,
    ⟨.claimNextJob "planner" "w1" ⟨"k0", by decide⟩ none, 4⟩,
    ⟨.completeJob (reportOn 0 "planner" "w1") ⟨[handoffTo "coder"], [], "", false⟩, 5⟩,
    ⟨.claimNextJob "coder" "w2" ⟨"k1", by decide⟩ none, 6⟩]

def handedOverAgain : List Deed :=
  handedOver ++
    [⟨.routeDiscordMessage (.ok ⟨"planner", "routing"⟩), 7⟩,
      ⟨.claimNextJob "planner" "w1" ⟨"k2", by decide⟩ none, 8⟩,
      ⟨.completeJob (reportOn 2 "planner" "w1") ⟨[handoffTo "tester"], [], "", false⟩, 9⟩]

end OpsCure.SessionService
