/-
The operations of the chat conversation service, each a program of the sessions
it opens: `open_conversation`, `close_conversation`, `submit_speech`,
`transfer_owner`, `sweep_idle_conversations` and `emit_system_event`.
-/
import OpsCure.Conversation

namespace OpsCure.Chat

open Fallible Session Table Contract V2 OperationMirror RemoteTask

/-! ## Opening -/

structure OpenRequest where
  kind : Kind
  title : String
  openerActor : String
  intent : Option String
  ownerActor : Option String
  addressedTo : Option String
  parentConversationId : Option Id
  objective : Option String
  successCriteria : Json
  priority : String
  policy : Option (List (String × Json))
  kind_ne_general : kind ≠ .general

def newConversation (threadId : Id) (kind : Kind) (title : String) (intent : Option String)
    (openerActor : String) (now : Time) : Conversation :=
  { threadId := threadId
    kind := kind
    title := title
    intent := intent
    state := .opened
    openerActor := openerActor
    ownerActor := none
    expectedSpeaker := none
    parentConversationId := none
    boundTaskId := none
    v2OperationId := none
    resolution := none
    resolutionSummary := none
    closedBy := none
    isGeneral := false
    lastSpeechAt := none
    speechCount := 0
    idleWarningEmittedAt := none
    idleWarningCount := 0
    unaddressedSpeechCount := 0
    createdAt := now
    closedAt := none }

def addConversation (s : State) (row : Conversation) (now : Time) : State :=
  let mirrored := mirrorConversationOpen s.store
    { v1ConversationId := s.conversations.length
      threadId := row.threadId
      kind := row.kind
      title := row.title
      intent := row.intent
      openerActor := row.openerActor
      ownerActor := row.ownerActor
      addressedTo := row.expectedSpeaker
      isGeneral := row.isGeneral } now
  { s with
    store := mirrored.1
    conversations := s.conversations ++ [{ row with v2OperationId := some mirrored.2 }] }

/-- `_get_or_create_general`. -/
def ensureGeneral (s : State) (threadId : Id) (now : Time) : State :=
  if s.conversations.any fun row => row.threadId = threadId ∧ row.isGeneral then s
  else addConversation s
    { newConversation threadId .general "General"
        (some "Casual chat and unstructured updates.") "system" now with isGeneral := true }
    now

def taskRequest (threadId : Id) (request : OpenRequest) (objective : String) :
    CreateRequest :=
  { machineId := "chat"
    threadId := toString threadId
    objective := objective
    successCriteria := request.successCriteria
    originSurface := "chat"
    originMessageId := none
    priority := request.priority
    createdBy := request.openerActor }

def openSession (s : State) (threadId : Id) (request : OpenRequest)
    (policy : OperationPolicy) (boundTaskId : Option Id) (clock : Clock) :
    Except ChatError (Summary × State) := do
  let s := ensureGeneral s threadId (clock 0)
  require (request.parentConversationId.all (· < s.conversations.length))
    (.storage .foreignKey)
  let conversationId := s.conversations.length
  let operationId := s.store.operations.length
  let row := { newConversation threadId request.kind request.title request.intent
      request.openerActor (clock 1) with
    ownerActor := some (Text.orElse request.ownerActor request.openerActor)
    expectedSpeaker := request.addressedTo
    parentConversationId := request.parentConversationId
    boundTaskId := boundTaskId }
  let s := addConversation s row (clock 2)
  let row := { row with v2OperationId := some operationId }
  let s := { s with store := s.store.setOperationPolicy operationId policy (clock 3) }
  let opened := lifecycleMessage row conversationId row.openerActor eventConversationOpened
    row.expectedSpeaker (summaryPayload conversationId row) (clock 4)
  let (s, _) ← addMessage s row opened {} (clock 5)
  return ((conversationId, row), s)

def openConversation (config : Config) (discordThreadId : String) (request : OpenRequest)
    (clock taskClock : Clock) : Program ChatError State Summary := do
  checkCapability config request.openerActor .conversationOpen
  let policy ← query fun _ =>
    (validateOperationPolicy request.policy).mapError .invalidPolicy
  let bound : Bool := request.kind = .task ∧ policy.bindRemoteTask
  let threadId ← query fun s => do
    require (request.kind = .task → Text.present request.objective) .taskNeedsObjective
    require (bound → config.remoteTasks) .remoteTasksNotConfigured
    orRaise (findThread s discordThreadId) (.threadNotFound discordThreadId)
  let boundTaskId ← transaction fun s =>
    if bound then
      let (tasks, id) := createTask s.tasks
        (taskRequest threadId request (request.objective.getD "")) taskClock
      .ok (some id, { s with tasks := tasks })
    else .ok (none, s)
  transaction fun s => openSession s threadId request policy boundTaskId clock

/-! ## Closing -/

/-- `is_resolution_allowed`: a kind without a vocabulary allows everything. -/
def isResolutionAllowed (kind : Kind) (resolution : String) : Bool :=
  allowedResolutions kind = [] ∨ resolution ∈ allowedResolutions kind

/-- `TASK_NON_TERMINAL_STATUSES`, short of a status no code writes. -/
def taskNonTerminalStatuses : List TaskStatus :=
  [.queued, .claimed, .executing, .blockedApproval, .verifying, .interrupted]

def requireClosable (s : State) (conversationId : Id) : Except ChatError Conversation := do
  let row ← getConversation s conversationId
  require (row.isGeneral = false) .generalCannotClose
  require (row.state ≠ .closed) (.alreadyClosed row.resolution)
  return row

def isCloser (row : Conversation) (closedBy : String) : Prop :=
  closedBy = row.openerActor ∨ Text.present row.ownerActor ∧ row.ownerActor = some closedBy

instance (row : Conversation) (closedBy : String) : Decidable (isCloser row closedBy) :=
  inferInstanceAs (Decidable (_ ∨ _))

def checkClosePolicy (s : State) (row : Conversation) (closedBy resolution : String) :
    Except ChatError State :=
  match row.v2OperationId with
  | none => .ok s
  | some operationId =>
      match s.store.getOperation operationId with
      | none => .ok s
      | some operation => do
          let store := s.store.ensureActorByHandle (withAt closedBy) .ai
          (PolicyEngine.checkCloseAdmissible store operationId operation
            (some (withAt closedBy)) (some resolution)).mapError .policy
          return { s with store := store }

def checkTaskSettled (config : Config) (s : State) (row : Conversation) :
    Except ChatError Unit :=
  match row.boundTaskId with
  | none => .ok ()
  | some taskId =>
      if config.remoteTasks then do
        let task ← (requireTask s.tasks taskId).mapError .task
        require (task.status ∉ taskNonTerminalStatuses) (.taskStillActive task.status)
      else .ok ()

def closedRow (row : Conversation) (closedBy resolution : String) (summary : Option String)
    (now : Time) : Conversation :=
  { row with
    state := .closed
    resolution := some resolution
    resolutionSummary := summary
    closedBy := some closedBy
    closedAt := some now }

def recordClose (config : Config) (s : State) (eventId : Option EventId) : State :=
  match eventId.bind (config.digest s.store) with
  | none => s
  | some artifact =>
      { s with store := s.store.insertArtifact artifact.eventId.operation artifact }

def mirrorClose (s : State) (row : Conversation) (closedBy resolution : String)
    (summary : Option String) (bypass : Bool) (clock : Clock) : Except ChatError Store :=
  match row.v2OperationId with
  | none => .ok s.store
  | some operationId =>
      (mirrorConversationClose s.store operationId closedBy resolution summary bypass
        (clock 1) (clock 2)).mapError .stateMachine

/-- The writes of a close: the v1 row, the v2 operation, the event, the digest. -/
def closeSession (config : Config) (s : State) (conversationId : Id) (row : Conversation)
    (closedBy resolution : String) (summary : Option String) (bypass : Bool)
    (clock : Clock) : Except ChatError (Summary × State) := do
  let closed := closedRow row closedBy resolution summary (clock 0)
  let store ← mirrorClose s row closedBy resolution summary bypass clock
  let s := { s with store := store }.setConversation conversationId closed
  let message := lifecycleMessage closed conversationId closedBy eventConversationClosed none
    (summaryPayload conversationId closed) (clock 3)
  let (s, eventId) ← addMessage s closed message {} (clock 4)
  return ((conversationId, closed), recordClose config s eventId)

/-- The gates on the conversation and the closer, before any capability is asked for. -/
def checkCloser (row : Conversation) (closedBy resolution : String) : Except ChatError Unit := do
  require (isResolutionAllowed row.kind resolution) (.resolutionNotValid resolution row.kind)
  require (isCloser row closedBy)
    (.closerNotAuthorized closedBy row.openerActor row.ownerActor)

def closeByHand (config : Config) (s : State) (conversationId : Id) (row : Conversation)
    (closedBy resolution : String) (summary : Option String) (clock : Clock) :
    Except ChatError (Summary × State) := do
  let s ← checkClosePolicy s row closedBy resolution
  checkTaskSettled config s row
  closeSession config s conversationId row closedBy resolution summary false clock

/-- `close_conversation`.  A bypassing close carries the authority of the system
or of a task lease: it skips every gate but the state of the conversation. -/
def closeConversation (config : Config) (conversationId : Id) (closedBy resolution : String)
    (summary : Option String) (bypass : Bool) (clock : Clock) :
    Program ChatError State Summary := do
  let row ← query fun s => requireClosable s conversationId
  if bypass then
    transaction fun s =>
      closeSession config s conversationId row closedBy resolution summary true clock
  else do
    query fun _ => checkCloser row closedBy resolution
    checkCapability config closedBy .conversationCloseOpener
    transaction fun s => closeByHand config s conversationId row closedBy resolution summary clock

/-! ## Speech -/

/-- A validated speech act.  `expectedResponse` is the raw object. -/
structure SpeechRequest where
  actorName : String
  actorKind : String
  kind : SpeechKind
  content : String
  addressedTo : Option String
  addressedToMany : List String
  repliesToSpeechId : Option Id
  repliesToV2EventId : Option EventId
  privateToActors : List String
  expectedResponse : Option (List (String × Json))

def primaryAddress (request : SpeechRequest) : Option String :=
  request.addressedTo.or request.addressedToMany.head?

def storedAddressees (request : SpeechRequest) : Option (List String) :=
  let extras := request.addressedToMany
  let others := match request.addressedTo with
    | none => extras.drop 1
    | some primary => extras.filter (· ≠ primary)
  match primaryAddress request with
  | some primary =>
      if others ≠ [] then some (primary :: others)
      else if extras ≠ [] then some [primary] else none
  | none => none

/-- The first element of the raw `from_actor_handles`: indexing takes the first
character of a text, and raises on what is not a sequence. -/
def firstHandle : Json → Except ChatError (Option String)
  | .arr (.str handle :: _) => .ok (some handle)
  | .arr _ => .ok none
  | .str text => .ok (text.toList.head?.map String.singleton)
  | _ => .error .malformedExpectedResponse

/-- `_compute_effective_addr`: whose turn a message makes it. -/
def computeEffectiveAddr (primary : Option String)
    (expectedResponse : Option (List (String × Json))) : Except ChatError (Option String) :=
  if Text.present primary then .ok primary
  else
    let handles := (Json.obj (expectedResponse.getD [])).get "from_actor_handles"
    if handles.truthy then do
      let first ← firstHandle handles
      return first.filter (· ≠ "")
    else .ok none

def checkMembership (operation : V2.Operation) (kind : SpeechKind) (speaker : String) :
    Except PolicyEngine.PolicyViolation Unit :=
  match kind with
  | .invite => PolicyEngine.checkInviteAdmissible operation speaker
  | .join =>
      PolicyEngine.checkJoinAdmissible operation
        (PolicyEngine.isParticipant operation.participants speaker)
  | _ => .ok ()

/-- The policy gates of a speech act, before its mirror is written.  They look at
the v2 event id of the request only. -/
def checkSpeechPolicy (s : State) (row : Conversation) (request : SpeechRequest) :
    Except ChatError State :=
  match row.v2OperationId with
  | none => .ok s
  | some operationId =>
      match s.store.getOperation operationId with
      | none => .ok s
      | some operation => do
          (PolicyEngine.checkSpeechAdmissible s.store operationId operation request.kind
            request.repliesToV2EventId).mapError .policy
          let speaker := withAt request.actorName
          (checkMembership operation request.kind speaker).mapError .policy
          if request.kind ∈ [SpeechKind.invite, .join] then
            let kind := if request.actorKind = "ai" then ActorKind.ai else .human
            return { s with store := s.store.ensureActorByHandle speaker kind }
          else return s

/-- The turn-taking columns after a speech act, and whether it trips the
over-speech warning. -/
def takeTurn (policy : ChatPolicyConfig) (row : Conversation) (actorName : String)
    (effective : Option String) : Conversation × Bool :=
  match effective with
  | some addressed =>
      ({ row with
        unaddressedSpeechCount :=
          if some addressed ≠ row.expectedSpeaker then 0 else row.unaddressedSpeechCount
        expectedSpeaker := some addressed }, false)
  | none =>
      if some actorName = row.expectedSpeaker then
        ({ row with expectedSpeaker := none, unaddressedSpeechCount := 0 }, false)
      else if Text.present row.expectedSpeaker then
        let count := row.unaddressedSpeechCount + 1
        ({ row with unaddressedSpeechCount := count },
          count = policy.overSpeechThreshold)
      else (row, false)

def overSpeechMessage (policy : ChatPolicyConfig) (conversationId : Id) (row : Conversation)
    (now : Time) : Message :=
  lifecycleMessage row conversationId "system" eventConversationOverSpeech
    row.expectedSpeaker
    (.obj [("conversationId", .int conversationId),
      ("expectedSpeaker", optionJson row.expectedSpeaker),
      ("unaddressedSpeechCount", .int row.unaddressedSpeechCount),
      ("threshold", .int policy.overSpeechThreshold)])
    now

def speechMessage (config : Config) (conversationId : Id) (row : Conversation)
    (request : SpeechRequest) (now : Time) : Message :=
  { threadId := row.threadId
    conversationId := conversationId
    actorName := request.actorName
    eventKind := speechEventKind request.kind
    addressedTo := primaryAddress request
    addressedToMany := storedAddressees request
    repliesToSpeechId := request.repliesToSpeechId
    content := .str (config.sanitize request.content)
    v2EventId := none
    createdAt := now }

/-- The activity columns after a speech act. -/
def spokenRow (row : Conversation) (now : Time) : Conversation :=
  { row with lastSpeechAt := some now, speechCount := row.speechCount + 1 }

/-- Write the turn back, with the over-speech warning it trips. -/
def endTurn (config : Config) (s : State) (conversationId : Id) (turn : Conversation × Bool)
    (clock : Clock) : Except ChatError State :=
  let s := s.setConversation conversationId turn.1
  if turn.2 then do
    let (s, _) ← addMessage s turn.1
      (overSpeechMessage config.policy conversationId turn.1 (clock 3)) {} (clock 4)
    return s
  else .ok s

/-- The session of `submit_speech`: returns the message's v2 event. -/
def submitSession (config : Config) (s : State) (conversationId : Id)
    (request : SpeechRequest) (clock : Clock) :
    Except ChatError (Option EventId × State) := do
  let row ← getConversation s conversationId
  require (row.state ≠ .closed) .conversationIsClosed
  let effective ← computeEffectiveAddr (primaryAddress request) request.expectedResponse
  require (request.repliesToSpeechId.all (· < s.messages.length)) (.storage .foreignKey)
  let expected ←
    (validateExpectedResponse request.expectedResponse).mapError .invalidExpectedResponse
  let s ← checkSpeechPolicy s row request
  let (s, eventId) ← addMessage s row
    (speechMessage config conversationId row request (clock 1))
    { privateToActors := request.privateToActors
      expectedResponse := expected
      repliesToV2EventId := request.repliesToV2EventId } (clock 2)
  let turn := takeTurn config.policy (spokenRow row (clock 0)) request.actorName effective
  let s ← endTurn config s conversationId turn clock
  return (eventId, s)

def submitSpeech (config : Config) (conversationId : Id) (request : SpeechRequest)
    (clock : Clock) : Program ChatError State (Option EventId) := do
  checkCapability config request.actorName .speechSubmit
  transaction fun s => submitSession config s conversationId request clock

/-! ## Handoff, idle sweep and system events -/

def transferSession (s : State) (conversationId : Id) (byActor newOwner : String)
    (reason : Option String) (clock : Clock) : Except ChatError (Summary × State) := do
  let row ← getConversation s conversationId
  require (row.isGeneral = false) .generalHasNoOwner
  require (row.state ≠ .closed) .handoffAfterClose
  require (row.boundTaskId = none) .ownerGovernedByLease
  require (isCloser row byActor)
    (.handoffNotAuthorized byActor row.openerActor row.ownerActor)
  let owned := { row with ownerActor := some newOwner, expectedSpeaker := some newOwner }
  let message := lifecycleMessage owned conversationId byActor eventConversationHandoff
    (some newOwner)
    (.obj [("conversationId", .int conversationId),
      ("previousOwner", optionJson row.ownerActor),
      ("newOwner", .str newOwner),
      ("byActor", .str byActor),
      ("reason", optionJson reason)])
    (clock 0)
  let (s, _) ← addMessage (s.setConversation conversationId owned) owned message {} (clock 1)
  return ((conversationId, owned), s)

def transferOwner (config : Config) (conversationId : Id) (byActor newOwner : String)
    (reason : Option String) (clock : Clock) : Program ChatError State Summary := do
  checkCapability config byActor .conversationHandoff
  transaction fun s => transferSession s conversationId byActor newOwner reason clock

def lastActive (row : Conversation) : Time := row.lastSpeechAt.getD row.createdAt

def targetTier (policy : ChatPolicyConfig) (threshold : Int) (now : Time)
    (row : Conversation) : Nat :=
  let age := now - lastActive row
  if seconds (policy.tier3Multiplier * threshold) ≤ age then 3
  else if seconds (policy.tier2Multiplier * threshold) ≤ age then 2
  else if seconds (policy.tier1Multiplier * threshold) ≤ age then 1
  else 0

def warnIdle (s : State) (conversationId : Id) (threshold : Int) (now : Time)
    (clock : Clock) (level : Nat) : Except ChatError State := do
  let row ← getConversation s conversationId
  let message := lifecycleMessage row conversationId "system" eventConversationIdleWarning
    row.expectedSpeaker
    (.obj [("conversationId", .int conversationId),
      ("kind", .str row.kind.text),
      ("title", .str row.title),
      ("expectedSpeaker", optionJson row.expectedSpeaker),
      ("ownerActor", optionJson row.ownerActor),
      ("lastSpeechAt", .int (lastActive row)),
      ("ageSeconds", .int ((now - lastActive row) / 1000000)),
      ("idleThresholdSeconds", .int threshold),
      ("level", .int level)])
    (clock level)
  let (s, _) ← addMessage s row message {} (clock level)
  return s.setConversation conversationId { row with
    idleWarningEmittedAt := row.idleWarningEmittedAt.or (some now)
    idleWarningCount := level }

/-- The tiers a conversation advances through: the warnings left to emit. -/
def warningLevels (row : Conversation) (tier : Nat) : List Nat :=
  (List.range' 1 (min tier 2)).filter (row.idleWarningCount < ·)

/-- The conversations of a thread that a sweep advances to another tier. -/
def idleRows (config : Config) (s : State) (threadId : Id) (threshold : Int) (now : Time) :
    List (Conversation × Id) :=
  selectWhere (fun row => row.threadId = threadId ∧ row.state = .opened ∧
    row.isGeneral = false ∧
    row.idleWarningCount < targetTier config.policy threshold now row)
    s.conversations

/-- Why a sweep abandons a conversation. -/
def abandonSummary (config : Config) (threshold : Int) (now : Time) (row : Conversation) :
    String :=
  let age := (now - lastActive row) / 1000000
  s!"auto-abandoned: tier-3 idle threshold exceeded (age={age}s, base={threshold}s, last={config.isoformat (lastActive row)})"

def sweepSession (config : Config) (s : State) (discordThreadId : String) (threshold : Int)
    (now : Time) (clock : Clock) : Except ChatError (List (Id × String) × State) := do
  let threadId ← orRaise (findThread s discordThreadId) (.threadNotFound discordThreadId)
  let rows := idleRows config s threadId threshold now
  let after ← rows.foldlM (fun s row =>
    (warningLevels row.1 (targetTier config.policy threshold now row.1)).foldlM
      (fun s level => warnIdle s row.2 threshold now clock level) s) s
  let abandoned := rows.filter fun row => targetTier config.policy threshold now row.1 = 3
  return (abandoned.map fun row => (row.2, abandonSummary config threshold now row.1), after)

def abandonIdle (config : Config) (conversationId : Id) (summary : String) (clock : Clock) :
    Program ChatError State PUnit := do
  let _ ← closeConversation config conversationId "system" "abandoned" (some summary) true
    clock
  transaction fun s =>
    match s.conversations[conversationId]? with
    | none => .ok (⟨⟩, s)
    | some row => .ok (⟨⟩, s.setConversation conversationId { row with idleWarningCount := 3 })

def sweepIdleConversations (config : Config) (discordThreadId : String)
    (idleThresholdSeconds : Int) (now : Time) (clock : Clock) (closeClock : Nat → Clock) :
    Program ChatError State PUnit :=
  let threshold := max 0 idleThresholdSeconds
  if threshold = 0 then pure ⟨⟩
  else do
    let abandoned ← transaction fun s =>
      sweepSession config s discordThreadId threshold now clock
    abandoned.zipIdx.forM fun row =>
      abandonIdle config row.1.1 row.1.2 (closeClock row.2)

/-- `emit_system_event`: no gate at all, whatever the kind. -/
def emitSession (s : State) (conversationId : Id) (kind : String)
    (addressedToHandle : Option String) (repliesToV2EventId : Option EventId)
    (payload : List (String × Json)) (clock : Clock) :
    Except ChatError (Option EventId × State) := do
  let row ← getConversation s conversationId
  let message := lifecycleMessage row conversationId "system" kind addressedToHandle
    (.obj payload) (clock 0)
  let (s, eventId) ← addMessage s row message
    { repliesToV2EventId := repliesToV2EventId } (clock 1)
  return (eventId, s)

def emitSystemEvent (conversationId : Id) (kind : String)
    (addressedToHandle : Option String) (repliesToV2EventId : Option EventId)
    (payload : List (String × Json)) (clock : Clock) :
    Program ChatError State (Option EventId) :=
  transaction fun s =>
    emitSession s conversationId kind addressedToHandle repliesToV2EventId payload clock

/-! ## A service to try things on -/

def plainConfig : Config where
  authorizer := .unwired
  remoteTasks := true
  policy := .default
  sanitize := id
  digest := fun _ _ => none
  render := fun _ => ""
  isoformat := fun _ => ""

/-- One thread, and nothing in it yet. -/
def emptyRoom : State where
  store := .empty
  threads := ["room"]
  conversations := []
  messages := []
  tasks := .empty

theorem inquiry_ne_general : Kind.inquiry ≠ .general := by decide

/-- A request of `alice`'s to open a conversation. -/
def openingOf (kind : Kind) (kind_ne_general : kind ≠ .general)
    (policy : Option (List (String × Json))) : OpenRequest where
  kind := kind
  title := "t"
  openerActor := "alice"
  intent := none
  ownerActor := none
  addressedTo := none
  parentConversationId := none
  objective := some "o"
  successCriteria := .obj []
  priority := "normal"
  policy := policy
  kind_ne_general := kind_ne_general

/-- The room with one conversation opened by `alice`, of the given policy. -/
def roomWith (kind : Kind) (kind_ne_general : kind ≠ .general)
    (policy : Option (List (String × Json))) : State :=
  (exec (openConversation plainConfig "room" (openingOf kind kind_ne_general policy)
    (fun _ => 0) (fun _ => 0)) emptyRoom).2

def speechOf (actorName : String) (kind : SpeechKind) : SpeechRequest where
  actorName := actorName
  actorKind := "ai"
  kind := kind
  content := "c"
  addressedTo := none
  addressedToMany := []
  repliesToSpeechId := none
  repliesToV2EventId := none
  privateToActors := []
  expectedResponse := none

end OpsCure.Chat
