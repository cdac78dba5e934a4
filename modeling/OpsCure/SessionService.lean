/-
Sessions of local agents (`session_service.py`): one session with its agents, its jobs, its
tasks and the handoffs that pass them on.  An operation is one database session; what it reads
outside the database is an argument.
-/
import OpsCure.HandoffText
import OpsCure.Presence

namespace OpsCure.SessionService

open Fallible Table Text

/-! ## The rows -/

inductive SessionStatus where
  | requested
  | wakingExecutionPlane
  | awaitingLauncher
  | waitingForWorkers
  | launching
  | restartingWorkers
  | resumingJobs
  | ready
  | paused
  | closed
  | failedStart
deriving DecidableEq, Repr

inductive DesiredStatus where
  | ready
  | paused
  | closed
deriving DecidableEq, Repr

inductive JobStatus where
  | pending
  | inProgress
  | completed
  | failed
  | cancelled
deriving DecidableEq, Repr

inductive TaskState where
  | ready
  | review
  | verify
  | handoffQueued
  | inProgress
  | blockedOnOperator
  | done
  | failed
deriving DecidableEq, Repr

inductive HandoffState where
  | queued
  | claimed
  | consumed
  | superseded
  | failed
deriving DecidableEq, Repr

/-- A row of `sessions`. -/
structure SessionRow where
  status : SessionStatus
  desiredStatus : DesiredStatus
  sessionEpoch : Nat
  createdAt : Time
  closedAt : Option Time
deriving DecidableEq, Repr

/-- A row of `agents`; the status is the text its worker reports. -/
structure AgentRow where
  agentName : String
  role : String
  status : String
  desiredStatus : DesiredStatus
  workerId : Option String
  lastHeartbeatAt : Option Time
deriving DecidableEq, Repr

/-- A row of `jobs`. -/
structure JobRow where
  agentName : String
  jobType : String
  status : JobStatus
  taskId : Option Id
  handoffId : Option Id
  sessionEpoch : Nat
  taskRevision : Nat
  leaseToken : Option String
  workerId : Option String
  createdAt : Time
  claimedAt : Option Time
deriving DecidableEq, Repr

/-- A row of `tasks`. -/
structure TaskRow where
  taskKey : String
  role : String
  assignedAgent : Option String
  semanticScope : Option String
  fileScope : Option (List String)
  state : TaskState
  revision : Nat
  sessionEpoch : Nat
  currentLeaseToken : Option String
  currentWorkerId : Option String
  summaryText : Option String
  bodyText : String
  updatedAt : Time
deriving DecidableEq, Repr

/-- A row of `handoffs`. -/
structure HandoffRow where
  taskId : Id
  targetAgent : String
  targetRole : String
  state : HandoffState
  revision : Nat
  sessionEpoch : Nat
  claimedByJobId : Option Id
  createdAt : Time
deriving DecidableEq, Repr

/-- What a recovery has read of the session and its agents, when it waits for the thread. -/
structure Recovery where
  session : SessionRow
  agents : List AgentRow
deriving DecidableEq, Repr

/-- The rows of a session, and the recoveries of it that are under way. -/
structure State where
  session : SessionRow
  agents : List AgentRow
  jobs : List JobRow
  tasks : List TaskRow
  handoffs : List HandoffRow
  recoveries : List Recovery
deriving DecidableEq, Repr

inductive ServiceError where
  | valueError (text : String)
  | permissionError (text : String)
  | typeError (text : String)
deriving DecidableEq, Repr

def startAgent (profile : String × String) : AgentRow where
  agentName := profile.1
  role := profile.2
  status := "starting"
  desiredStatus := .ready
  workerId := none
  lastHeartbeatAt := none

/-- `_create_session_with_manifest`, from the names and roles of the manifest's agents. -/
def State.start (profiles : List (String × String)) (now : Time) : State where
  session :=
    { status := .requested, desiredStatus := .ready, sessionEpoch := 1, createdAt := now
      closedAt := none }
  agents := profiles.map startAgent
  jobs := []
  tasks := []
  handoffs := []
  recoveries := []

/-! ## Jobs, tasks and agents by their states -/

def JobRow.live (job : JobRow) : Bool :=
  job.status = .pending ∨ job.status = .inProgress

/-- `TERMINAL_JOB_STATES`. -/
def JobStatus.isTerminal : JobStatus → Bool
  | completed | failed | cancelled => true
  | pending | inProgress => false

/-- `READY_TASK_STATES`. -/
def TaskState.isReady : TaskState → Bool
  | ready | review | verify => true
  | _ => false

def HandoffRow.live (handoff : HandoffRow) : Bool :=
  handoff.state = .queued ∨ handoff.state = .claimed

/-- `TERMINAL_HANDOFF_STATES`. -/
def HandoffState.isTerminal : HandoffState → Bool
  | consumed | superseded | failed => true
  | queued | claimed => false

/-- `_require_agent`. -/
def requireAgent (agents : List AgentRow) (agentName : String) : Except ServiceError AgentRow :=
  orRaise (agents.find? (·.agentName = agentName)) (.valueError "Agent not found.")

def changeAgent (agents : List AgentRow) (agentName : String) (change : AgentRow → AgentRow) :
    List AgentRow :=
  agents.map fun agent => if agent.agentName = agentName then change agent else agent

def State.markAgent (s : State) (agentName status : String) : State :=
  { s with agents := changeAgent s.agents agentName fun agent => { agent with status := status } }

/-- `_is_curator_agent`. -/
def isCuratorAgent (agent : AgentRow) : Bool :=
  lower agent.agentName = "curator" ∨ mentions (lower agent.role) "coordination" ∨
    mentions (lower agent.role) "curat"

/-- `_find_curator_agent`. -/
def findCuratorAgent (agents : List AgentRow) : Option AgentRow :=
  (agents.find? (lower ·.agentName = "curator")).or
    (agents.find? fun agent =>
      mentions (lower agent.role) "coordination" ∨ mentions (lower agent.role) "curat")

/-- `_find_planner_agent`. -/
def findPlannerAgent (agents : List AgentRow) : Option AgentRow :=
  (agents.find? (lower ·.agentName = "planner")).or
    (agents.find? fun agent => mentions (lower agent.role) "plan")

/-- `_has_non_curator_busy_agent`. -/
def hasNonCuratorBusyAgent (agents : List AgentRow) : Bool :=
  agents.any fun agent => agent.status = "busy" ∧ ¬ isCuratorAgent agent

/-- `_agent_has_attachment_signal`, a heartbeat being good for `grace`. -/
def agentHasAttachmentSignal (grace : Time) (now : Time) (agent : AgentRow) : Bool :=
  present agent.workerId || agent.lastHeartbeatAt.any (now ≤ · + grace)

/-- `_attached_agent_count`. -/
def attachedAgentCount (grace : Time) (now : Time) (agents : List AgentRow) : Nat :=
  agents.countP (agentHasAttachmentSignal grace now)

/-- `ATTACHMENT_SIGNAL_GRACE_SECONDS`. -/
def attachmentSignalGrace : Time := seconds 120

def activeJobCount (jobs : List JobRow) : Nat := jobs.countP (·.status = .inProgress)

def hasLiveJob (jobs : List JobRow) : Bool := jobs.any (·.live)

def newJob (agentName jobType : String) (sessionEpoch : Nat) (now : Time) : JobRow where
  agentName := agentName
  jobType := jobType
  status := .pending
  taskId := none
  handoffId := none
  sessionEpoch := sessionEpoch
  taskRevision := 0
  leaseToken := none
  workerId := none
  createdAt := now
  claimedAt := none

def State.addJob (s : State) (job : JobRow) : State := { s with jobs := s.jobs ++ [job] }

def cancelJobs (jobs : List JobRow) (which : JobRow → Bool) : List JobRow :=
  jobs.map fun job => if which job then { job with status := .cancelled } else job

/-! ## What an output carries -/

structure HandoffBlock where
  agent : String
  body : String
  taskCardId : Option String
deriving DecidableEq, Repr

structure DiscussBlock where
  attrs : List (String × String)
  body : String
deriving DecidableEq, Repr

structure ControlOutput where
  handoffBlocks : List HandoffBlock
  discussBlocks : List DiscussBlock
  visibleOutput : String
  questionPresent : Bool
deriving DecidableEq, Repr

structure HandoffRequest where
  targetAgent : String
  body : String
  taskId : String
deriving DecidableEq, Repr

structure DiscussRequest where
  discussType : String
  askAgents : List String
  toAgent : Option String
deriving DecidableEq, Repr

/-- `available_agents.get(name.lower())`: the last agent of the name. -/
def availableAgent (agents : List AgentRow) (name : String) : Option String :=
  (agents.reverse.find? (lower ·.agentName = lower name)).map (·.agentName)

/-- `replace_handoff`, below the limit: the request of a block, or why it is rejected. -/
def readHandoff (agents : List AgentRow) (sourceAgent : String) (block : HandoffBlock) :
    Except String HandoffRequest :=
  let requestedName := strip block.agent
  let body := strip block.body
  match availableAgent agents requestedName with
  | none => .error s!"handoff to unknown agent `{requestedName}`"
  | some targetAgent =>
      if lower targetAgent = lower sourceAgent then .error "self-handoff is not allowed"
      else if body = "" then .error s!"empty handoff for `{targetAgent}`"
      else match validateHandoffBody body block.taskCardId with
        | some validationError =>
            .error s!"handoff for `{targetAgent}` rejected: {validationError}"
        | none => .ok ⟨targetAgent, body, block.taskCardId.getD ""⟩

/-- `MAX_HANDOFFS_PER_COMPLETION`. -/
def maxHandoffsPerCompletion : Nat := 4

/-- The handoffs and the rejections of `_extract_control_updates`. -/
def extractHandoffs (agents : List AgentRow) (sourceAgent : String) (blocks : List HandoffBlock) :
    List HandoffRequest × List String :=
  blocks.foldl (fun found block =>
    if maxHandoffsPerCompletion ≤ found.1.length then
      (found.1, found.2 ++ ["extra handoff ignored after reaching the per-completion limit"])
    else match readHandoff agents sourceAgent block with
      | .ok request => (found.1 ++ [request], found.2)
      | .error rejection => (found.1, found.2 ++ [rejection])) ([], [])

/-- `attrs.get(key)`, the last of the attributes of the name. -/
def DiscussBlock.attr (block : DiscussBlock) (key : String) : Option String :=
  (block.attrs.reverse.find? (·.1 = key)).map (·.2)

/-- `replace_discuss`, below the limit: the request of a block that is not rejected. -/
def readDiscussion (agents : List AgentRow) (sourceAgent : String) (block : DiscussBlock) :
    Option DiscussRequest :=
  let discussType := lower (strip (orElse (block.attr "type") "open"))
  let askRaw := strip (orElse (block.attr "ask") (orElse (block.attr "with") ""))
  let askNames := ((((askRaw.toList.splitOn ',').map String.ofList).map strip).filter (· ≠ ""))
  let resolvedAsk := askNames.filterMap (availableAgent agents)
  let toName := strip (orElse (block.attr "to") "")
  let targetAgent := if toName = "" then none else availableAgent agents toName
  if discussType ∉ ["open", "reply", "resolve", "escalate"] then none
  else if strip block.body = "" then none
  else if askNames.any fun name => availableAgent agents name = none then none
  else if toName ≠ "" ∧ targetAgent = none then none
  else if discussType = "open" then
    let others := resolvedAsk.filter (lower · ≠ lower sourceAgent)
    if others = [] then none else some ⟨discussType, others, targetAgent⟩
  else if discussType = "reply" ∧ targetAgent = none then none
  else some ⟨discussType, resolvedAsk, targetAgent⟩

/-- `MAX_DISCUSSIONS_PER_COMPLETION`. -/
def maxDiscussionsPerCompletion : Nat := 4

/-- The discussions of `_extract_control_updates`. -/
def extractDiscussions (agents : List AgentRow) (sourceAgent : String)
    (blocks : List DiscussBlock) : List DiscussRequest :=
  (blocks.filterMap (readDiscussion agents sourceAgent)).take maxDiscussionsPerCompletion

/-! ## Queueing work -/

def hasLiveJobOf (jobs : List JobRow) (agentName : String) (jobTypes : List String) : Bool :=
  jobs.any fun job => job.agentName = agentName ∧ job.jobType ∈ jobTypes ∧ job.live

/-- `_queue_curator_event`. -/
def State.queueCuratorEvent (s : State) (sourceAgent : String) (now : Time) : State :=
  match findCuratorAgent s.agents with
  | none => s
  | some curator =>
      if lower sourceAgent = lower curator.agentName then s
      else if hasLiveJobOf s.jobs curator.agentName ["curation_event", "curation_sweep"] then s
      else s.addJob (newJob curator.agentName "curation_event" s.session.sessionEpoch now)

def DiscussRequest.jobs (request : DiscussRequest) (sessionEpoch : Nat) (now : Time) :
    List JobRow :=
  if request.discussType = "open" then
    request.askAgents.map fun agentName => newJob agentName "discussion" sessionEpoch now
  else if request.discussType = "reply" then
    request.toAgent.toList.map fun agentName => newJob agentName "discussion" sessionEpoch now
  else []

/-- `_queue_discussions`. -/
def State.queueDiscussions (s : State) (sourceAgent : String) (sourceJob : JobRow)
    (discussions : List DiscussRequest) (now : Time) : State :=
  match discussions.flatMap fun request => request.jobs sourceJob.sessionEpoch now with
  | [] => s
  | queued => { s with jobs := s.jobs ++ queued }.queueCuratorEvent sourceAgent now

/-- `_record_handoff_rejections` with `_queue_planner_handoff_repair`. -/
def State.queuePlannerHandoffRepair (s : State) (sourceAgent : String) (rejections : List String)
    (now : Time) : State :=
  match rejections, findPlannerAgent s.agents with
  | [], _ => s
  | _, none => s
  | _, some planner =>
      if lower sourceAgent = lower planner.agentName then s
      else if hasLiveJobOf s.jobs planner.agentName
          ["orchestration", "routing", "recovery", "handoff_repair"] then s
      else s.addJob (newJob planner.agentName "handoff_repair" s.session.sessionEpoch now)

/-- `_queue_planner_recovery`. -/
def State.queuePlannerRecovery (s : State) (failedJob : JobRow) (failedAgent : String)
    (now : Time) : State :=
  if lower failedAgent = "planner" then s
  else if failedJob.jobType ∉ ["handoff", "verification"] then s
  else match findPlannerAgent s.agents with
    | none => s
    | some planner =>
        if hasLiveJobOf s.jobs planner.agentName ["recovery"] then s
        else s.addJob (newJob planner.agentName "recovery" s.session.sessionEpoch now)

/-! ## Handing tasks off -/

def HandoffRow.liveFor (handoff : HandoffRow) (taskId : Id) : Bool :=
  handoff.taskId = taskId ∧ handoff.live

/-- `_is_duplicate_ready_handoff`. -/
def isDuplicateReadyHandoff (s : State) (taskId : Id) (task : TaskRow) (targetAgent : String)
    (normalizedBody : String) : Bool :=
  task.sessionEpoch = s.session.sessionEpoch ∧
    (present task.assignedAgent → lower (orElse task.assignedAgent "") = lower targetAgent) ∧
    strip task.bodyText = strip normalizedBody ∧
    task.state ∈ [.ready, .inProgress, .review, .verify, .handoffQueued] ∧
    s.handoffs.any fun handoff => handoff.liveFor taskId ∧ handoff.targetAgent = targetAgent

def TaskRow.handedOff (task : TaskRow) (request : HandoffRequest) (role : String)
    (sessionEpoch : Nat) (now : Time) : TaskRow :=
  let normalizedBody := normalizeTaskPayloadText request.body
  let summaryLine := extractPrefixedLine normalizedBody "Target summary:"
  let fileScope := extractPrefixedLine normalizedBody "Files:"
  { task with
    role := role
    assignedAgent := some request.targetAgent
    summaryText := summaryLine
    bodyText := normalizedBody
    semanticScope := deriveSemanticScope (orElse summaryLine normalizedBody)
    fileScope := if present fileScope then fileScope.map fileItems else none
    state := .ready
    revision := task.revision + 1
    sessionEpoch := sessionEpoch
    currentLeaseToken := none
    currentWorkerId := none
    updatedAt := now }

def blankTask (taskKey : String) : TaskRow where
  taskKey := taskKey
  role := "coding"
  assignedAgent := none
  semanticScope := none
  fileScope := none
  state := .ready
  revision := 0
  sessionEpoch := 1
  currentLeaseToken := none
  currentWorkerId := none
  summaryText := none
  bodyText := ""
  updatedAt := 0

def findTask (tasks : List TaskRow) (taskKey : String) : Option (TaskRow × Id) :=
  (selectWhere (·.taskKey = taskKey) tasks).head?

/-- `_upsert_task_for_handoff`: the tasks after it, and the one handed off, unless the handoff
is a duplicate. -/
def upsertTaskForHandoff (s : State) (request : HandoffRequest) (now : Time) :
    Except ServiceError (Option (List TaskRow × TaskRow × Id)) := do
  let target ← requireAgent s.agents request.targetAgent
  match findTask s.tasks request.taskId with
  | none =>
      let task := (blankTask request.taskId).handedOff request target.role s.session.sessionEpoch
        now
      pure (some (s.tasks ++ [task], task, s.tasks.length))
  | some (task, taskId) =>
      if isDuplicateReadyHandoff s taskId task request.targetAgent
          (normalizeTaskPayloadText request.body) then pure none
      else
        let changed := task.handedOff request target.role s.session.sessionEpoch now
        pure (some (update s.tasks taskId changed, changed, taskId))

/-- The handoffs of a task after a new one has taken the place of those queued or claimed. -/
def supersede (handoffs : List HandoffRow) (taskId : Id) : List HandoffRow :=
  handoffs.map fun handoff =>
    if handoff.liveFor taskId then { handoff with state := .superseded } else handoff

/-- `agent_roles.get(target_agent, task.role)`. -/
def targetRole (agents : List AgentRow) (targetAgent role : String) : String :=
  ((agents.reverse.find? (·.agentName = targetAgent)).map (·.role)).getD role

/-- One turn of the loop of `_queue_handoffs`; the flag tells whether a handoff was queued. -/
def queueHandoff (queued : State × Bool) (request : HandoffRequest) (now : Time) :
    Except ServiceError (State × Bool) := do
  let s := queued.1
  match ← upsertTaskForHandoff s request now with
  | none => pure queued
  | some (tasks, task, taskId) =>
      pure ({ s with
        tasks := tasks
        handoffs := supersede s.handoffs taskId ++
          [{ taskId := taskId, targetAgent := request.targetAgent
             targetRole := targetRole s.agents request.targetAgent task.role
             state := .queued, revision := task.revision
             sessionEpoch := s.session.sessionEpoch, claimedByJobId := none
             createdAt := now }] }, true)

/-- `_queue_handoffs`. -/
def queueHandoffs (s : State) (sourceAgent : String) (requests : List HandoffRequest)
    (now : Time) : Except ServiceError State := do
  let queued ← requests.foldlM (fun queued request => queueHandoff queued request now) (s, false)
  pure (if queued.2 then queued.1.queueCuratorEvent sourceAgent now else queued.1)

/-! ## Claiming -/

/-- `_parse_scope_list`. -/
def parseScopeList (fileScope : Option (List String)) : List String :=
  ((fileScope.getD []).map strip).filter (· ≠ "")

def scopesOverlap (task active : TaskRow) : Bool :=
  (present task.semanticScope && present active.semanticScope &&
    decide (task.semanticScope = active.semanticScope)) ||
  (parseScopeList task.fileScope).any (· ∈ parseScopeList active.fileScope)

/-- `_can_self_claim_task`. -/
def canSelfClaimTask (tasks : List TaskRow) (taskId : Id) (task : TaskRow) : Bool :=
  (selectWhere (·.state = .inProgress) tasks).all fun active =>
    active.2 = taskId ∨ ¬ scopesOverlap task active.1

def queuedHandoffs (s : State) (agent : AgentRow) : List (HandoffRow × Id) :=
  orderBy (fun left right => left.createdAt ≤ right.createdAt)
    (selectWhere (fun handoff => handoff.state = .queued ∧
      handoff.sessionEpoch = s.session.sessionEpoch ∧
      (handoff.targetAgent = agent.agentName ∨
        handoff.targetRole ∈ [agent.role, agent.agentName])) s.handoffs)

def claimableHandoff (s : State) (agent : AgentRow) : Option (HandoffRow × Id × TaskRow) :=
  (queuedHandoffs s agent).findSome? fun handoff =>
    (s.tasks[handoff.1.taskId]?).bind fun task =>
      if canSelfClaimTask s.tasks handoff.1.taskId task then some (handoff.1, handoff.2, task)
      else none

/-- `_job_type_for_task`. -/
def jobTypeForTask (task : TaskRow) : String :=
  if task.role = "verification" then "verification" else "handoff"

def taskJob (agentName workerId leaseToken : String) (handoff : HandoffRow) (handoffId : Id)
    (task : TaskRow) (sessionEpoch : Nat) (now : Time) : JobRow where
  agentName := agentName
  jobType := jobTypeForTask task
  status := .inProgress
  taskId := some handoff.taskId
  handoffId := some handoffId
  sessionEpoch := sessionEpoch
  taskRevision := task.revision
  leaseToken := some leaseToken
  workerId := some workerId
  createdAt := now
  claimedAt := some now

/-- `_claim_ready_task_job`. -/
def claimReadyTaskJob (s : State) (agent : AgentRow) (workerId leaseToken : String)
    (now : Time) : Option (State × Id) :=
  match claimableHandoff s agent with
  | none => none
  | some (handoff, handoffId, task) =>
      if ¬ task.state.isReady ∨ task.sessionEpoch ≠ s.session.sessionEpoch then none
      else
        let job := taskJob agent.agentName workerId leaseToken handoff handoffId task
          s.session.sessionEpoch now
        some ({ (s.addJob job).markAgent agent.agentName "busy" with
          tasks := update s.tasks handoff.taskId
            { task with
              state := .inProgress
              currentLeaseToken := some leaseToken
              currentWorkerId := some workerId
              assignedAgent := some agent.agentName
              updatedAt := now }
          handoffs := update s.handoffs handoffId
            { handoff with state := .claimed, claimedByJobId := some s.jobs.length } },
          s.jobs.length)

/-- `CURATION_READY_IDLE_SECONDS` and `CURATION_PLANNER_IMBALANCE_SECONDS`. -/
def curationIdle : Time := seconds 180

/-- `CURATION_ATTACHMENT_MISMATCH_SECONDS`. -/
def curationAttachmentMismatch : Time := seconds 60

/-- The planner has been busy for long, another agent is idle, and there is work. -/
def plannerBottleneck (s : State) (planner : AgentRow) (now : Time) : Bool :=
  match firstBy (fun left right => left.claimedAt.getD 0 ≤ right.claimedAt.getD 0)
      (selectWhere (fun job => job.agentName = planner.agentName ∧ job.status = .inProgress)
        s.jobs) with
  | none => false
  | some (job, _) =>
      job.claimedAt.any (curationIdle ≤ now - ·) &&
      s.agents.any (fun agent => agent.agentName ≠ planner.agentName ∧
        agent.agentName ≠ "curator" ∧ agent.status = "idle") &&
      (s.handoffs.any (·.state = .queued) || s.tasks.any (·.state.isReady))

/-- The reason `_build_curator_sweep_prompt` gives; without one its caller raises. -/
def curatorSweepReason (s : State) (now : Time) : Option String :=
  let attached := attachedAgentCount attachmentSignalGrace now s.agents
  if s.handoffs.any fun handoff =>
      handoff.state = .queued ∧ handoff.createdAt ≤ now - curationIdle then some "stale_handoff"
  else if s.tasks.any fun task => task.state.isReady ∧ task.updatedAt ≤ now - curationIdle then
    some "stale_ready_task"
  else if s.session.status ∈ [.waitingForWorkers, .launching, .restartingWorkers] ∧
      0 < attached ∧ attached < s.agents.length ∧
      s.session.createdAt ≤ now - curationAttachmentMismatch then some "partial_attachment"
  else match findPlannerAgent s.agents with
    | none => none
    | some planner => if plannerBottleneck s planner now then some "planner_bottleneck" else none

/-- `_claim_curator_sweep_job`. -/
def claimCuratorSweepJob (s : State) (agent : AgentRow) (workerId leaseToken : String)
    (now : Time) : Except ServiceError (Option (State × Id)) := do
  let reason ← orRaise (curatorSweepReason s now)
    (.typeError "cannot unpack non-iterable NoneType object")
  if ¬ hasNonCuratorBusyAgent s.agents ∧ reason ≠ "partial_attachment" then pure none
  else
    let job :=
      { newJob agent.agentName "curation_sweep" s.session.sessionEpoch now with
        status := .inProgress
        workerId := some workerId
        leaseToken := some leaseToken
        claimedAt := some now }
    pure (some ((s.addJob job).markAgent agent.agentName "busy", s.jobs.length))

/-- `_recover_orphaned_job`: the job after it, when its worker has been replaced. -/
def recoverOrphanedJob (agent : AgentRow) (activeJob : JobRow) (workerId : String) :
    Option JobRow :=
  if activeJob.workerId = none ∨ activeJob.workerId = some workerId then none
  else if agent.workerId ≠ some workerId then none
  else some { activeJob with status := .pending, workerId := none, claimedAt := none }

def JobRow.started (job : JobRow) (workerId leaseToken : String) (sessionEpoch : Nat)
    (now : Time) : JobRow :=
  { job with
    status := .inProgress
    claimedAt := some now
    workerId := some workerId
    leaseToken := some (orElse job.leaseToken leaseToken)
    sessionEpoch := sessionEpoch }

/-- `policy.max_parallel_agents`, or the number of the agents without a policy. -/
def maxParallelAgents (policy : Option Nat) (agents : List AgentRow) : Nat :=
  policy.getD (max 1 agents.length)

/-- `claim_next_job`, once the agent has no job in progress. -/
def claimWork (s : State) (agent : AgentRow) (workerId leaseToken : String)
    (policy : Option Nat) (now : Time) : Except ServiceError (State × Option Id) :=
  let idle := (s.markAgent agent.agentName "idle", none)
  if maxParallelAgents policy s.agents ≤ activeJobCount s.jobs ∧ ¬ isCuratorAgent agent then
    .ok idle
  else
    match firstBy (fun left right => left.createdAt ≤ right.createdAt)
        (selectWhere (fun job => job.agentName = agent.agentName ∧ job.status = .pending)
          s.jobs) with
    | some (job, jobId) =>
        .ok ({ s.markAgent agent.agentName "busy" with
          jobs := update s.jobs jobId
            (job.started workerId leaseToken s.session.sessionEpoch now) }, some jobId)
    | none =>
        match claimReadyTaskJob s agent workerId leaseToken now with
        | some (after, jobId) => .ok (after, some jobId)
        | none =>
            if isCuratorAgent agent then do
              match ← claimCuratorSweepJob s agent workerId leaseToken now with
              | some (after, jobId) => pure (after, some jobId)
              | none => pure idle
            else .ok idle

/-- `claim_next_job`: the session after it, and the job that was claimed. -/
def claimNextJob (s : State) (agentName workerId leaseToken : String) (policy : Option Nat)
    (now : Time) : Except ServiceError (State × Option Id) := do
  if s.session.status = .closed then pure (s, none)
  else
    let agent ← requireAgent s.agents agentName
    if s.session.desiredStatus = .paused then pure (s.markAgent agentName "paused", none)
    else if s.session.status ∈ [.paused, .awaitingLauncher, .wakingExecutionPlane] then
      pure (s, none)
    else
      match (selectWhere (fun job => job.agentName = agentName ∧ job.status = .inProgress)
          s.jobs).head? with
      | none => claimWork s agent workerId leaseToken policy now
      | some (activeJob, jobId) =>
          match recoverOrphanedJob agent activeJob workerId with
          | none => pure (s.markAgent agentName "busy", none)
          | some recovered =>
              claimWork { s with jobs := update s.jobs jobId recovered } agent workerId
                leaseToken policy now

/-! ## Completing and failing -/

/-- The arguments of `complete_job` and `fail_job` that say whose job it is. -/
structure JobReport where
  jobId : Id
  agentName : String
  workerId : String
  leaseToken : Option String
  taskRevision : Option Int
  sessionEpoch : Option Int
deriving DecidableEq, Repr

/-- `_require_job`. -/
def requireJob (s : State) (report : JobReport) : Except ServiceError JobRow := do
  let job ← orRaise (s.jobs[report.jobId]?.filter (·.agentName = report.agentName))
    (.valueError "Job not found.")
  require (job.workerId = none ∨ job.workerId = some report.workerId)
    (.permissionError "Job is owned by a different worker.")
  pure job

/-- `_validate_job_concurrency`. -/
def validateJobConcurrency (job : JobRow) (session : SessionRow) (report : JobReport) : Bool :=
  report.sessionEpoch.all ((job.sessionEpoch : Int) = ·) &&
  decide (job.sessionEpoch = session.sessionEpoch) &&
  (! present job.leaseToken || report.leaseToken.all (job.leaseToken = some ·)) &&
  (decide (job.taskRevision = 0) || report.taskRevision.all ((job.taskRevision : Int) = ·))

def reportingAgent (session : SessionRow) (now : Time) (agent : AgentRow) : AgentRow :=
  { agent with
    status := if session.desiredStatus = .paused then "paused" else "idle"
    lastHeartbeatAt := some now }

/-- `SESSION_SUMMARY_TEXT_LIMIT`. -/
def sessionSummaryTextLimit : Nat := 220

def settleHandoff (handoffs : List HandoffRow) (handoffId : Option Id) (state : HandoffState) :
    List HandoffRow :=
  match handoffId.bind fun id => (handoffs[id]?).map fun handoff => (handoff, id) with
  | none => handoffs
  | some (handoff, id) =>
      if handoff.state.isTerminal then handoffs
      else update handoffs id { handoff with state := state }

def completedState (task : TaskRow) (sameTaskHandoff questionPresent : Bool) : TaskState :=
  if sameTaskHandoff then if task.state.isReady then task.state else .ready
  else if questionPresent then .blockedOnOperator
  else .done

/-- `_synchronize_completed_task`. -/
def synchronizeCompletedTask (s : State) (job : JobRow) (reportText : String)
    (questionPresent : Bool) (requests : List HandoffRequest) (now : Time) : State :=
  match job.taskId.bind fun id => (s.tasks[id]?).map fun task => (task, id) with
  | none => s
  | some (task, taskId) =>
      let sameTaskHandoff := requests.any (·.taskId = task.taskKey)
      { s with
        tasks := update s.tasks taskId
          { task with
            state := completedState task sameTaskHandoff questionPresent
            revision := if sameTaskHandoff then task.revision else task.revision + 1
            currentLeaseToken := none
            currentWorkerId := none
            updatedAt := now
            summaryText :=
              if reportText = "" then task.summaryText
              else some (trimContextText reportText sessionSummaryTextLimit) }
        handoffs := settleHandoff s.handoffs job.handoffId .consumed }

/-- `_synchronize_failed_task`. -/
def synchronizeFailedTask (s : State) (job : JobRow) (errorText : String) (now : Time) : State :=
  match job.taskId.bind fun id => (s.tasks[id]?).map fun task => (task, id) with
  | none => s
  | some (task, taskId) =>
      { s with
        tasks := update s.tasks taskId
          { task with
            state := .failed
            revision := task.revision + 1
            currentLeaseToken := none
            currentWorkerId := none
            updatedAt := now
            summaryText := some (trimContextText errorText sessionSummaryTextLimit) }
        handoffs := settleHandoff s.handoffs job.handoffId .failed }

def State.reported (s : State) (report : JobReport) (job : JobRow) (status : JobStatus)
    (now : Time) : State :=
  { s with
    jobs := update s.jobs report.jobId { job with status := status }
    agents := changeAgent s.agents report.agentName (reportingAgent s.session now) }

/-- `complete_job`. -/
def completeJob (s : State) (report : JobReport) (output : ControlOutput) (now : Time) :
    Except ServiceError State := do
  let job ← requireJob s report
  let _ ← requireAgent s.agents report.agentName
  if job.status.isTerminal then pure s
  else if ! validateJobConcurrency job s.session report then pure s
  else
    let handoffs := extractHandoffs s.agents report.agentName output.handoffBlocks
    let discussions := extractDiscussions s.agents report.agentName output.discussBlocks
    let queued ← queueHandoffs (s.reported report job .completed now) report.agentName
      handoffs.1 now
    let discussed := queued.queueDiscussions report.agentName job discussions now
    let repaired := discussed.queuePlannerHandoffRepair report.agentName handoffs.2 now
    pure (synchronizeCompletedTask repaired job output.visibleOutput output.questionPresent
      handoffs.1 now)

/-- `fail_job`. -/
def failJob (s : State) (report : JobReport) (errorText : String) (now : Time) :
    Except ServiceError State := do
  let job ← requireJob s report
  let _ ← requireAgent s.agents report.agentName
  if job.status.isTerminal then pure s
  else if ! validateJobConcurrency job s.session report then pure s
  else
    let failed := synchronizeFailedTask (s.reported report job .failed now) job errorText now
    pure (failed.queuePlannerRecovery job report.agentName now)

/-! ## Workers, messages and the life of the session -/

/-- `_refresh_session_startup_state`: the session after it. -/
def refreshSessionStartupState (session : SessionRow) (agents : List AgentRow)
    (jobs : List JobRow) (now : Time) : SessionRow :=
  let attached := attachedAgentCount attachmentSignalGrace now agents
  if session.closedAt.isSome then session
  else if session.desiredStatus = .paused then { session with status := .paused }
  else if agents.length = 0 then { session with status := .ready }
  else if agents.length ≤ attached then
    { session with status := if hasLiveJob jobs then .resumingJobs else .ready }
  else if 0 < attached then { session with status := .launching }
  else { session with status := .waitingForWorkers }

/-- `register_worker`. -/
def registerWorker (s : State) (agentName workerId : String) (now : Time) :
    Except ServiceError State := do
  let _ ← requireAgent s.agents agentName
  let held := s.session.desiredStatus = .paused
  let agents := changeAgent s.agents agentName fun agent =>
    { agent with
      workerId := some workerId
      status := if held then "paused" else "idle"
      lastHeartbeatAt := some now }
  let session := { s.session with status := if held then .paused else .launching }
  pure { s with
    agents := agents
    session := refreshSessionStartupState session agents s.jobs now }

/-- `heartbeat`. -/
def heartbeat (s : State) (agentName workerId status : String) (now : Time) :
    Except ServiceError State := do
  let _ ← requireAgent s.agents agentName
  let agents := changeAgent s.agents agentName fun agent =>
    { agent with
      workerId := some workerId
      status := if agent.desiredStatus = .paused ∧ status ≠ "busy" then "paused" else status
      lastHeartbeatAt := some now }
  pure { s with
    agents := agents
    session := refreshSessionStartupState s.session agents s.jobs now }

/-- Where `_resolve_agent` sends a message, and as which type of job. -/
structure RoutingDecision where
  agentName : String
  jobType : String
deriving DecidableEq, Repr

/-- `route_discord_message`, given what `_resolve_agent` returns or raises. -/
def routeDiscordMessage (s : State) (routing : Except ServiceError RoutingDecision) (now : Time) :
    Except ServiceError State := do
  require (s.session.status ≠ .closed) (.valueError "This session is already closed.")
  require (s.session.desiredStatus ≠ .paused ∧ s.session.status ≠ .paused)
    (.valueError "This session is paused. Resume it before sending new work.")
  let decision ← routing
  pure (s.addJob (newJob decision.agentName decision.jobType s.session.sessionEpoch now))

/-- `enqueue_restart`. -/
def enqueueRestart (s : State) (agentName : String) (now : Time) : Except ServiceError State := do
  let _ ← orRaise (s.agents.find? (·.agentName = agentName))
    (.valueError s!"Agent '{agentName}' does not exist in this session.")
  pure (s.addJob (newJob agentName "restart" s.session.sessionEpoch now))

def TaskRow.reset (task : TaskRow) (sessionEpoch : Nat) (now : Time) : TaskRow :=
  { task with
    currentLeaseToken := none
    currentWorkerId := none
    sessionEpoch := sessionEpoch
    state := if task.state ∈ [.inProgress, .review, .verify, .ready] then .ready else task.state
    updatedAt := now }

def HandoffRow.reset (handoff : HandoffRow) (sessionEpoch : Nat) : HandoffRow :=
  { handoff with
    state := if handoff.state = .claimed then .queued else handoff.state
    sessionEpoch := sessionEpoch }

/-- `reset_session`. -/
def resetSession (s : State) (now : Time) : State :=
  let sessionEpoch := s.session.sessionEpoch + 1
  { s with
    session := { s.session with sessionEpoch := sessionEpoch }
    tasks := s.tasks.map (·.reset sessionEpoch now)
    handoffs := s.handoffs.map (·.reset sessionEpoch)
    jobs := cancelJobs s.jobs (·.live) ++
      s.agents.map fun agent => newJob agent.agentName "restart" sessionEpoch now }

/-- `_close_session_row`. -/
def closeSessionRow (s : State) (now : Time) : State :=
  { s with
    session := { s.session with status := .closed, desiredStatus := .closed, closedAt := some now }
    agents := s.agents.map fun agent =>
      { agent with status := "offline", desiredStatus := .closed }
    jobs := cancelJobs s.jobs (·.live) }

/-- `cleanup_session_thread`. -/
def cleanupSessionThread (s : State) (now : Time) : State :=
  if s.session.closedAt = none then closeSessionRow s now else s

/-- `claim_launches`, for a session of the launcher's, below its capacity. -/
def claimLaunches (s : State) (restoreLastSession : Bool) : State :=
  if s.session.status ∈
        [.requested, .waitingForWorkers, .launching, .awaitingLauncher, .restartingWorkers] ∧
      s.session.desiredStatus ≠ .paused ∧ s.session.closedAt = none ∧
      ¬ (s.session.status = .launching ∧ ¬ restoreLastSession) then
    { s with session := { s.session with status := .launching } }
  else s

end OpsCure.SessionService
