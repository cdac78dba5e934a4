/-
The remote executor's task cycle (`remote_executor/runner.py`): claim the next queued task of the
machine, heartbeat, execute it locally, put what was done on record and complete the task.  The
bridge checks the lease in each call; between two calls others use the bridge, and time passes.
-/
import OpsCure.Library.Run
import OpsCure.Library.Session
import OpsCure.RemoteTask

namespace OpsCure.RemoteExecutor

open Fallible Presence RemoteTask Session

/-! ## What the local runtime returns -/

structure TurnActivityEvidence where
  itemTypes : List String
  commandExecutionCount : Nat
  readCommandCount : Nat
  writeCommandCount : Nat
  testCommandCount : Nat
  otherActivityCount : Nat

def TurnActivityEvidence.hasWorkSignal (activity : TurnActivityEvidence) : Bool :=
  0 < activity.commandExecutionCount ∨ 0 < activity.otherActivityCount

structure ExecutionResult where
  summary : String
  activity : Option TurnActivityEvidence

structure Raised where
  className : String
  text : String

/-- `str(exc).strip() or exc.__class__.__name__`. -/
def Raised.errorText (raised : Raised) : String :=
  let stripped := Text.strip raised.text
  if stripped = "" then raised.className else stripped

/-! ## Calls of the bridge -/

/-- What the bridge does for others before a call of the executor, and the clock it then reads. -/
structure Slot where
  others : List Call
  clock : Clock

/-- When the calls of one cycle reach the bridge. -/
structure Schedule where
  claim : Slot
  prepared : Slot
  /-- The evidence calls, by the kind of the evidence. -/
  evidence : String → Slot
  note : Slot
  executed : Slot
  completed : Slot
  failed : Slot

structure RunnerConfig where
  machineId : String
  actorId : String
  leaseSeconds : Int

section Cycle

-- What the client raises when the bridge refuses a request.
variable (refuse : TaskError → Raised)

def bridgeCall (slot : Slot) (operation : Operation) : Program Raised Db PUnit := do
  transaction fun db => .ok (⟨⟩, Run.run step db slot.others)
  transaction fun db =>
    ((perform db ⟨operation, slot.clock⟩).mapError refuse).map fun after => (⟨⟩, after)

def claimRequest (config : RunnerConfig) : ClaimNextRequest where
  actorId := config.actorId
  leaseSeconds := config.leaseSeconds
  excludeOriginSurfaces := ["browser"]

/-- `claim_next_remote_task_for_machine`: the task, and the token of its assignment. -/
def claimNextRemoteTask (config : RunnerConfig) (slot : Slot) (drawn : String) :
    Program Raised Db (Option (Id × String)) := do
  transaction fun db => .ok (⟨⟩, Run.run step db slot.others)
  transaction fun db =>
    match nextQueuedTask db config.machineId (claimRequest config) with
    | none => .ok (none, db)
    | some (_, task) =>
        ((claimNextTask db config.machineId (claimRequest config) slot.clock drawn).mapError
          refuse).map fun after =>
            let token := ((after.tasks[task]?).bind currentAssignment).map fun held =>
              held.1.leaseToken
            (some (task, token.getD ""), after)

/-! ## The cycle -/

def activityEvidence (actorId : String) (activity : TurnActivityEvidence) :
    List EvidenceRequest :=
  let entry (count : Nat) (kind summary : String) (payload : List (String × Json)) :=
    if 0 < count then [⟨actorId, kind, summary, .obj payload⟩] else ([] : List EvidenceRequest)
  let counted (count : Nat) : List (String × Json) := [("count", .int count)]
  entry activity.commandExecutionCount "command_execution"
      s!"Executed {activity.commandExecutionCount} local command(s)."
      [("item_types", .arr (activity.itemTypes.map Json.str))] ++
    entry activity.readCommandCount "file_read"
      s!"Read from the workspace using {activity.readCommandCount} command(s)."
      (counted activity.readCommandCount) ++
    entry activity.writeCommandCount "file_write"
      s!"Modified the workspace using {activity.writeCommandCount} command(s)."
      (counted activity.writeCommandCount) ++
    entry activity.testCommandCount "test_result"
      s!"Ran {activity.testCommandCount} test command(s)." (counted activity.testCommandCount)

/-- `_add_activity_evidence`. -/
def addActivityEvidence (schedule : Schedule) (task : Id) (actorId summary : String)
    (activity : TurnActivityEvidence) : Program Raised Db PUnit := do
  (activityEvidence actorId activity).forM fun payload =>
    bridgeCall refuse (schedule.evidence payload.kind) (.addEvidence task payload)
  bridgeCall refuse schedule.note
    (.addNote task { actorId := actorId, kind := "summary", content := summary })

def requireWork (executed : Except Raised (Option ExecutionResult)) :
    Except Raised (String × TurnActivityEvidence) := do
  let result ← executed
  let result ← orRaise (result.filter fun result => Text.strip result.summary ≠ "")
    ⟨"RuntimeError", "Local Codex runtime returned no task summary."⟩
  let activity ← orRaise (result.activity.filter TurnActivityEvidence.hasWorkSignal)
    ⟨"RuntimeError", "Local Codex runtime returned without concrete work evidence. " ++
      "Remote executor expects command or tool activity before completing a task."⟩
  return (result.summary, activity)

def preparedHeartbeat (config : RunnerConfig) (leaseToken : String) : HeartbeatRequest where
  actorId := config.actorId
  leaseToken := leaseToken
  phase := "claimed"
  summary := some "Remote executor claimed the task and is preparing local Codex execution."
  commandsRunCount := 0
  filesReadCount := 0
  filesModifiedCount := 0
  testsRunCount := 0
  leaseSeconds := config.leaseSeconds

def executedHeartbeat (config : RunnerConfig) (leaseToken summary : String)
    (activity : TurnActivityEvidence) : HeartbeatRequest where
  actorId := config.actorId
  leaseToken := leaseToken
  phase := "executing"
  summary := some summary
  commandsRunCount := activity.commandExecutionCount
  filesReadCount := activity.readCommandCount
  filesModifiedCount := activity.writeCommandCount
  testsRunCount := activity.testCommandCount
  leaseSeconds := config.leaseSeconds

/-- The work on a claimed task.  The runtime executes between the first heartbeat and the
evidence; nothing keeps the lease alive meanwhile. -/
def workOn (config : RunnerConfig) (schedule : Schedule) (task : Id) (leaseToken : String)
    (executed : Except Raised (Option ExecutionResult)) : Program Raised Db PUnit := do
  bridgeCall refuse schedule.prepared (.heartbeatTask task (preparedHeartbeat config leaseToken))
  let (summary, activity) ← query fun _ => requireWork executed
  addActivityEvidence refuse schedule task config.actorId summary activity
  bridgeCall refuse schedule.executed
    (.heartbeatTask task (executedHeartbeat config leaseToken summary activity))
  bridgeCall refuse schedule.completed
    (.completeTask task ⟨config.actorId, leaseToken, some summary⟩)

/-- `_execute_claimed_task`: whatever is raised is reported as the task's failure, if the bridge
takes the report. -/
def executeClaimedTask (config : RunnerConfig) (schedule : Schedule) (task : Id)
    (leaseToken : String) (executed : Except Raised (Option ExecutionResult)) :
    Program Raised Db Bool :=
  ExceptT.mk fun db =>
    match exec (workOn refuse config schedule task leaseToken executed) db with
    | (.ok _, after) => (.ok true, after)
    | (.error raised, after) =>
        let reported := attempt <| bridgeCall refuse schedule.failed
          (.failTask task ⟨config.actorId, leaseToken, raised.errorText⟩)
        (.ok false, (exec reported after).2)

/-- The part of `run_cycle` after the poll: claim a task, and execute it. -/
def claimAndExecute (config : RunnerConfig) (schedule : Schedule) (drawn : String)
    (executed : Except Raised (Option ExecutionResult)) : Program Raised Db Bool := do
  match ← claimNextRemoteTask refuse config schedule.claim drawn with
  | none => return false
  | some (task, leaseToken) =>
      if leaseToken = "" then
        throw ⟨"RuntimeError",
          s!"Remote task {task} did not return a lease token after claim."⟩
      else executeClaimedTask refuse config schedule task leaseToken executed

end Cycle

end OpsCure.RemoteExecutor
