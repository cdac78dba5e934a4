/-
The chat task coordinator (`behaviors/chat/task_coordinator.py`).  Every operation
commits through the remote task service first, then echoes what happened into the
bound conversation and its v2 operation, then closes the conversation when the task
came to an end; each of the three opens sessions of its own.
-/
import OpsCure.ConversationService

namespace OpsCure.Chat

open Fallible Session Contract V2 OperationMirror RemoteTask

/-! ## The stages -/

/-- What `_update_owner_and_emit` is told.  `newState` is `none` where the target state
comes from the contract's table. -/
structure Emission where
  actorName : String
  eventKind : String
  payload : Json
  newOwner : Option String := none
  newExpectedSpeaker : Option String := none
  expectedSpeakerToNone : Bool := false
  artifact : Option (List (String × Json)) := none
  newState : Option (Option OpState) := none

/-- The state the v2 operation is moved to, if it is. -/
def Emission.targetState (emission : Emission) : Option OpState :=
  emission.newState.getD (eventKindToTargetState emission.eventKind)

/-- The close at the end of a task's life. -/
structure Closing where
  closedBy : String
  resolution : String
  summary : Option String

/-- What one operation does once its gates let it: the call of the remote task service,
the echo of its outcome, and the close it entails. -/
structure Plan where
  operation : RemoteTask.Operation
  emission : Task → Emission
  closing : Option Closing

structure Clocks where
  remote : Clock
  echo : Clock
  close : Clock

def requireBoundTask (s : State) (conversationId : Id) : Except ChatError Id := do
  let row ← orRaise s.conversations[conversationId]? (.binding (.notFound conversationId))
  require (row.kind = .task) (.binding (.notTask conversationId))
  orRaise row.boundTaskId (.binding (.notTask conversationId))

def remoteCall (taskId : Id) (call : Call) : Program ChatError State Task :=
  transaction fun s => do
    let tasks ← (perform s.tasks call).mapError .task
    let task ← (requireTask tasks taskId).mapError .task
    return (task, { s with tasks := tasks })

def echoRow (row : Conversation) (emission : Emission) (now : Time) : Conversation :=
  { row with
    ownerActor := emission.newOwner.or row.ownerActor
    expectedSpeaker :=
      if emission.expectedSpeakerToNone then none
      else emission.newExpectedSpeaker.or row.expectedSpeaker
    lastSpeechAt := some now
    speechCount := row.speechCount + 1 }

/-- Pin the artifact of a task event, when it carries a non-empty one. -/
def attachEchoed (config : Config) (store : Store) (eventId : Option EventId)
    (emission : Emission) (now : Time) : Except ChatError Store :=
  match emission.artifact, eventId with
  | some (field :: fields), some eventId =>
      (attachArtifact config.render store eventId (.obj (field :: fields)) now).mapError
        .storage
  | _, _ => .ok store

def moveOperation (store : Store) (row : Conversation) (target : Option OpState)
    (now : Time) : Except ChatError Store :=
  match target, row.v2OperationId with
  | some target, some operationId =>
      (transitionState store operationId target now).mapError .stateMachine
  | _, _ => .ok store

/-- The session of `_update_owner_and_emit`; a missing conversation is passed over. -/
def echoSession (config : Config) (s : State) (conversationId : Id) (emission : Emission)
    (clock : Clock) : Except ChatError (PUnit × State) :=
  match s.conversations[conversationId]? with
  | none => .ok (⟨⟩, s)
  | some row => do
      let echoed := echoRow row emission (clock 0)
      let message := lifecycleMessage echoed conversationId emission.actorName
        emission.eventKind none emission.payload (clock 1)
      let (s, eventId) ← addMessage (s.setConversation conversationId echoed) echoed message
        {} (clock 2)
      let store ← attachEchoed config s.store eventId emission (clock 3)
      let store ← moveOperation store echoed emission.targetState (clock 4)
      return (⟨⟩, { s with store := store })

def updateOwnerAndEmit (config : Config) (conversationId : Id) (emission : Emission)
    (clock : Clock) : Program ChatError State PUnit :=
  transaction fun s => echoSession config s conversationId emission clock

def closeSettled (config : Config) (conversationId : Id) (closing : Option Closing)
    (clock : Clock) : Program ChatError State PUnit :=
  match closing with
  | none => pure ⟨⟩
  | some closing => do
      let _ ← closeConversation config conversationId closing.closedBy closing.resolution
        closing.summary true clock
      pure ⟨⟩

/-- The stages of an operation, and the response read back at the end. -/
def coordinate (config : Config) (conversationId taskId : Id) (plan : Plan)
    (clocks : Clocks) : Program ChatError State (Summary × Task) := do
  let task ← remoteCall taskId ⟨plan.operation, clocks.remote⟩
  updateOwnerAndEmit config conversationId (plan.emission task) clocks.echo
  closeSettled config conversationId plan.closing clocks.close
  let row ← query fun s => getConversation s conversationId
  return ((conversationId, row), task)

/-! ## The operations -/

/-- The two fields every task event carries, and its own. -/
def taskPayload (taskId : Id) (task : Task) (fields : List (String × Json)) : Json :=
  .obj ([("taskId", .int taskId), ("status", .str task.status.text)] ++ fields)

def claimPlan (config : Config) (taskId : Id) (request : ClaimRequest) (drawn : String) :
    Plan where
  operation := .claimTask taskId request drawn
  emission := fun task =>
    { actorName := request.actorId
      eventKind := eventTaskClaimed
      payload := taskPayload taskId task
        [("leaseExpiresAt", optionJson ((currentAssignment task).map fun current =>
          config.isoformat current.1.leaseExpiresAt))]
      newOwner := some request.actorId
      newExpectedSpeaker := some request.actorId }
  closing := none

def claim (config : Config) (conversationId : Id) (request : ClaimRequest) (drawn : String)
    (clocks : Clocks) : Program ChatError State (Summary × Task) := do
  checkCapability config request.actorId .taskClaim
  let taskId ← query fun s => requireBoundTask s conversationId
  coordinate config conversationId taskId (claimPlan config taskId request drawn) clocks

def heartbeatPlan (taskId : Id) (request : HeartbeatRequest) : Plan where
  operation := .heartbeatTask taskId request
  emission := fun task =>
    { actorName := request.actorId
      eventKind := eventTaskHeartbeat
      payload := taskPayload taskId task
        [("phase", .str request.phase),
          ("summary", optionJson request.summary),
          ("metrics", .obj
            [("commandsRunCount", .int (validateNonNegative request.commandsRunCount)),
              ("filesReadCount", .int (validateNonNegative request.filesReadCount)),
              ("filesModifiedCount", .int (validateNonNegative request.filesModifiedCount)),
              ("testsRunCount", .int (validateNonNegative request.testsRunCount))])] }
  closing := none

def heartbeat (config : Config) (conversationId : Id) (request : HeartbeatRequest)
    (clocks : Clocks) : Program ChatError State (Summary × Task) := do
  let taskId ← query fun s => requireBoundTask s conversationId
  coordinate config conversationId taskId (heartbeatPlan taskId request) clocks

/-- Only the holder of the current assignment adds evidence; the lease may be over. -/
def requireHolder (s : State) (taskId : Id) (actorName leaseToken : String) :
    Except ChatError Unit := do
  let task ← (requireTask s.tasks taskId).mapError .task
  let current ← orRaise (currentAssignment task) (.binding (.noActiveAssignment taskId))
  require (current.1.actorId = actorName ∧ current.1.leaseToken = leaseToken)
    (.binding (.leaseHolderMismatch current.1.actorId))

/-- `ChatTaskEvidenceRequest`. -/
structure ChatEvidenceRequest where
  actorName : String
  leaseToken : String
  kind : String
  summary : String
  payload : List (String × Json)

def embeddedArtifact (payload : List (String × Json)) : Option (List (String × Json)) :=
  match (Json.obj payload).get "artifact" with
  | .obj fields => some fields
  | _ => none

def addEvidencePlan (taskId : Id) (request : ChatEvidenceRequest) : Plan where
  operation := .addEvidence taskId
    { actorId := request.actorName
      kind := request.kind
      summary := request.summary
      payload := .obj request.payload }
  emission := fun task =>
    { actorName := request.actorName
      eventKind := eventTaskEvidence
      payload := taskPayload taskId task
        [("evidenceKind", .str request.kind), ("summary", .str request.summary)]
      artifact := embeddedArtifact request.payload }
  closing := none

def addEvidence (config : Config) (conversationId : Id) (request : ChatEvidenceRequest)
    (clocks : Clocks) : Program ChatError State (Summary × Task) := do
  let taskId ← query fun s => requireBoundTask s conversationId
  query fun s => requireHolder s taskId request.actorName request.leaseToken
  coordinate config conversationId taskId (addEvidencePlan taskId request) clocks

def requireEvidence (s : State) (conversationId : Id) : Except ChatError Unit :=
  require (s.messages.any fun message =>
      message.conversationId = conversationId ∧ message.eventKind = eventTaskEvidence)
    (.binding .completeNeedsEvidence)

def completePlan (taskId : Id) (request : CompleteRequest) : Plan where
  operation := .completeTask taskId request
  emission := fun task =>
    { actorName := request.actorId
      eventKind := eventTaskCompleted
      payload := taskPayload taskId task [("summary", optionJson request.summary)]
      expectedSpeakerToNone := true }
  closing := some
    { closedBy := request.actorId, resolution := "completed", summary := request.summary }

def complete (config : Config) (conversationId : Id) (request : CompleteRequest)
    (clocks : Clocks) : Program ChatError State (Summary × Task) := do
  checkCapability config request.actorId .taskComplete
  let taskId ← query fun s => requireBoundTask s conversationId
  query fun s => requireEvidence s conversationId
  coordinate config conversationId taskId (completePlan taskId request) clocks

def failPlan (taskId : Id) (request : FailRequest) : Plan where
  operation := .failTask taskId request
  emission := fun task =>
    { actorName := request.actorId
      eventKind := eventTaskFailed
      payload := taskPayload taskId task [("errorText", .str request.errorText)]
      expectedSpeakerToNone := true }
  closing := some
    { closedBy := request.actorId, resolution := "failed", summary := some request.errorText }

def fail (config : Config) (conversationId : Id) (request : FailRequest)
    (clocks : Clocks) : Program ChatError State (Summary × Task) := do
  checkCapability config request.actorId .taskFail
  let taskId ← query fun s => requireBoundTask s conversationId
  coordinate config conversationId taskId (failPlan taskId request) clocks

def requestApprovalPlan (taskId : Id) (request : ApprovalRequest) : Plan where
  operation := .requestApproval taskId request
  emission := fun task =>
    { actorName := request.actorId
      eventKind := eventTaskApprovalRequested
      payload := taskPayload taskId task
        [("reason", .str request.reason), ("note", optionJson request.note)] }
  closing := none

def requestApproval (config : Config) (conversationId : Id) (request : ApprovalRequest)
    (clocks : Clocks) : Program ChatError State (Summary × Task) := do
  let taskId ← query fun s => requireBoundTask s conversationId
  coordinate config conversationId taskId (requestApprovalPlan taskId request) clocks

def resolutionText : ApprovalResolution → String
  | .approved => "approved"
  | .denied => "denied"

/-- The outcome of an approval decides the state: approved work resumes, denied work
is closed as cancelled. -/
def resolveApprovalPlan (taskId : Id) (request : ApprovalResolveRequest) : Plan where
  operation := .resolveApproval taskId request
  emission := fun task =>
    { actorName := request.resolvedBy
      eventKind := eventTaskApprovalResolved
      payload := taskPayload taskId task
        [("resolution", .str (resolutionText request.resolution)),
          ("note", optionJson request.note)]
      newState := some (if request.resolution = .approved then some .executing else none) }
  closing :=
    if request.resolution = .denied then
      let shown := Text.orElse request.note "(no note)"
      some
        { closedBy := request.resolvedBy
          resolution := "cancelled"
          summary := some s!"approval denied: {shown}" }
    else none

def resolveApproval (config : Config) (conversationId : Id)
    (request : ApprovalResolveRequest) (clocks : Clocks) :
    Program ChatError State (Summary × Task) := do
  if request.resolution = .approved then
    checkCapability config request.resolvedBy .taskApproveDestructive
  let taskId ← query fun s => requireBoundTask s conversationId
  coordinate config conversationId taskId (resolveApprovalPlan taskId request) clocks

def interruptPlan (taskId : Id) (request : InterruptRequest) : Plan where
  operation := .interruptTask taskId request
  emission := fun task =>
    { actorName := request.actorId
      eventKind := eventTaskInterrupted
      payload := taskPayload taskId task [("note", optionJson request.note)] }
  closing := none

def interrupt (config : Config) (conversationId : Id) (request : InterruptRequest)
    (clocks : Clocks) : Program ChatError State (Summary × Task) := do
  let taskId ← query fun s => requireBoundTask s conversationId
  coordinate config conversationId taskId (interruptPlan taskId request) clocks

def addNotePlan (taskId : Id) (request : NoteRequest) : Plan where
  operation := .addNote taskId request
  emission := fun _ =>
    { actorName := request.actorId
      eventKind := eventTaskNote
      payload := .obj
        [("taskId", .int taskId), ("noteKind", .str request.kind),
          ("content", .str request.content)] }
  closing := none

def addNote (config : Config) (conversationId : Id) (request : NoteRequest)
    (clocks : Clocks) : Program ChatError State (Summary × Task) := do
  let taskId ← query fun s => requireBoundTask s conversationId
  coordinate config conversationId taskId (addNotePlan taskId request) clocks

/-! ## Any operation -/

/-- An operation of the coordinator with its request; `drawn` is the token a new lease
would get. -/
inductive TaskRequest where
  | claim (request : ClaimRequest) (drawn : String)
  | heartbeat (request : HeartbeatRequest)
  | addEvidence (request : ChatEvidenceRequest)
  | complete (request : CompleteRequest)
  | fail (request : FailRequest)
  | requestApproval (request : ApprovalRequest)
  | resolveApproval (request : ApprovalResolveRequest)
  | interrupt (request : InterruptRequest)
  | addNote (request : NoteRequest)

def TaskRequest.perform (config : Config) (conversationId : Id) (clocks : Clocks) :
    TaskRequest → Program ChatError State (Summary × Task)
  | .claim request drawn => Chat.claim config conversationId request drawn clocks
  | .heartbeat request => Chat.heartbeat config conversationId request clocks
  | .addEvidence request => Chat.addEvidence config conversationId request clocks
  | .complete request => Chat.complete config conversationId request clocks
  | .fail request => Chat.fail config conversationId request clocks
  | .requestApproval request => Chat.requestApproval config conversationId request clocks
  | .resolveApproval request => Chat.resolveApproval config conversationId request clocks
  | .interrupt request => Chat.interrupt config conversationId request clocks
  | .addNote request => Chat.addNote config conversationId request clocks

def TaskRequest.plan (config : Config) (taskId : Id) : TaskRequest → Plan
  | .claim request drawn => claimPlan config taskId request drawn
  | .heartbeat request => heartbeatPlan taskId request
  | .addEvidence request => addEvidencePlan taskId request
  | .complete request => completePlan taskId request
  | .fail request => failPlan taskId request
  | .requestApproval request => requestApprovalPlan taskId request
  | .resolveApproval request => resolveApprovalPlan taskId request
  | .interrupt request => interruptPlan taskId request
  | .addNote request => addNotePlan taskId request

end OpsCure.Chat
