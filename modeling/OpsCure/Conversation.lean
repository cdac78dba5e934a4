/-
The chat conversation service (`behaviors/chat/conversation_service.py`):
opening, closing, speech, handoff, the idle sweep and system events.  Every
message is written to the v1 rows and mirrored into the v2 store in one session.
Message contents are kept as the values they dump: a text, or a payload object,
in which identities and instants are numbers.  Brokers, metrics, read cursors and
discord rendering are left out.
-/
import OpsCure.Library.Session
import OpsCure.OperationMirror
import OpsCure.PolicyEngine
import OpsCure.RemoteTask

namespace OpsCure.Chat

open Fallible Session Table Contract V2 OperationMirror RemoteTask

inductive ConversationState where
  | opened
  | resolving
  | closed
deriving DecidableEq, Repr

def ConversationState.text : ConversationState → String
  | opened => "open"
  | resolving => "resolving"
  | closed => "closed"

structure Conversation where
  threadId : Id
  kind : Kind
  title : String
  intent : Option String
  state : ConversationState
  openerActor : String
  ownerActor : Option String
  expectedSpeaker : Option String
  parentConversationId : Option Id
  boundTaskId : Option Id
  v2OperationId : Option Id
  resolution : Option String
  resolutionSummary : Option String
  closedBy : Option String
  isGeneral : Bool
  lastSpeechAt : Option Time
  speechCount : Nat
  idleWarningEmittedAt : Option Time
  idleWarningCount : Nat
  unaddressedSpeechCount : Nat
  createdAt : Time
  closedAt : Option Time
deriving DecidableEq, Repr

structure Message where
  threadId : Id
  conversationId : Id
  actorName : String
  eventKind : String
  addressedTo : Option String
  addressedToMany : Option (List String)
  repliesToSpeechId : Option Id
  content : Json
  v2EventId : Option EventId
  createdAt : Time
deriving Repr

/-- Everything the chat service reads and writes: the v2 tables, the v1 rows
(a thread is its discord id) and the remote tasks. -/
structure State where
  store : Store
  threads : List String
  conversations : List Conversation
  messages : List Message
  tasks : Db

/-- `ChatPolicyConfig`, with what its constructor checks. -/
structure ChatPolicyConfig where
  tier1Multiplier : Int
  tier2Multiplier : Int
  tier3Multiplier : Int
  overSpeechThreshold : Nat
  tiers_mono : tier1Multiplier ≤ tier2Multiplier ∧ tier2Multiplier ≤ tier3Multiplier
  overSpeechThreshold_pos : 1 ≤ overSpeechThreshold

def ChatPolicyConfig.default : ChatPolicyConfig where
  tier1Multiplier := 1
  tier2Multiplier := 4
  tier3Multiplier := 48
  overSpeechThreshold := 5
  tiers_mono := by decide
  overSpeechThreshold_pos := by decide

/-- The two authorizer slots of the service: neither set, the legacy one that
only sees the name, or the capability service with auto-provisioning. -/
inductive Authorizer where
  | unwired
  | actor (allows : String → Bool)
  | capability

/-- How a service instance is wired. `sanitize` is `sanitize_text`, `digest` the
injected digest service, which builds the summary card of a close; `render` is
`str` on values that are not strings, and `isoformat` that of an instant. -/
structure Config where
  authorizer : Authorizer
  remoteTasks : Bool
  policy : ChatPolicyConfig
  sanitize : String → String
  digest : Store → EventId → Option Artifact
  render : Json → String
  isoformat : Time → String

/-- `ChatTaskBindingError`. -/
inductive BindingError where
  | notFound (conversation : Id)
  | notTask (conversation : Id)
  | noActiveAssignment (task : Id)
  | leaseHolderMismatch (holder : String)
  | completeNeedsEvidence
deriving DecidableEq, Repr

def BindingError.text : BindingError → String
  | notFound conversation => s!"conversation {conversation} not found"
  | notTask conversation => s!"conversation {conversation} is not a task conversation"
  | noActiveAssignment task => s!"task {task} has no active assignment; cannot add evidence"
  | leaseHolderMismatch holder =>
      s!"actor or lease_token mismatch: only the current lease holder ({holder}) may add evidence"
  | completeNeedsEvidence =>
      "task complete requires at least one evidence row; call add_evidence first (or fail/interrupt instead)"

inductive ChatError where
  | lacksCapability (actor : String) (capability : Capability)
  | notAuthorizedAs (actor : String)
  | invalidPolicy (error : PolicyError)
  | taskNeedsObjective
  | remoteTasksNotConfigured
  | threadNotFound (discordThreadId : String)
  | conversationNotFound (conversation : Id)
  | generalCannotClose
  | alreadyClosed (resolution : Option String)
  | resolutionNotValid (resolution : String) (kind : Kind)
  | closerNotAuthorized (closedBy opener : String) (owner : Option String)
  | policy (violation : PolicyEngine.PolicyViolation)
  | taskStillActive (status : TaskStatus)
  | conversationIsClosed
  | malformedExpectedResponse
  | invalidExpectedResponse (error : ExpectedResponseError)
  | generalHasNoOwner
  | handoffAfterClose
  | ownerGovernedByLease
  | handoffNotAuthorized (byActor opener : String) (owner : Option String)
  | binding (error : BindingError)
  | task (error : TaskError)
  | stateMachine (error : StateMachine.StateMachineError)
  | storage (error : StoreError)

def optionText (repr : Json → String) (value : Option String) : String :=
  repr ((value.map Json.str).getD .null)

/-- The message of an error of the service, `repr` being Python's. -/
def ChatError.text (repr : Json → String) : ChatError → String
  | lacksCapability actor capability =>
      s!"actor {repr (.str actor)} lacks capability {repr (.str capability.text)}"
  | notAuthorizedAs actor => s!"caller is not authorized to act as {repr (.str actor)}"
  | invalidPolicy error => s!"invalid policy: {error.text repr}"
  | taskNeedsObjective => "kind=task requires an objective"
  | remoteTasksNotConfigured =>
      "remote_task_service is not configured; kind=task is unavailable"
  | threadNotFound discordThreadId => discordThreadId
  | conversationNotFound conversation => toString conversation
  | generalCannotClose => "general conversation cannot be closed"
  | alreadyClosed resolution =>
      let shown := resolution.getD "None"
      s!"conversation already closed (resolution={shown})"
  | resolutionNotValid resolution kind =>
      s!"resolution '{resolution}' is not valid for kind={kind.text}"
  | closerNotAuthorized closedBy opener owner =>
      s!"closed_by={repr (.str closedBy)} is not authorized; only opener ({repr (.str opener)}) or owner ({optionText repr owner}) may close"
  | policy violation => s!"policy: {violation.detail}"
  | taskStillActive status =>
      s!"task-bound conversation cannot be manually closed while task is {status.text}; complete/fail the task instead, OR re-open the op via /v2/operations with policy.bind_remote_task=false if you want collab-task semantics (no executor lifecycle binding)"
  | conversationIsClosed => "conversation is closed; reopen or start a new one"
  | malformedExpectedResponse => "from_actor_handles is not subscriptable"
  | invalidExpectedResponse error => s!"invalid expected_response: {error.text repr}"
  | generalHasNoOwner => "general conversation has no owner to transfer"
  | handoffAfterClose => "conversation is already closed"
  | ownerGovernedByLease =>
      "task-bound conversation owner is governed by the lease; release/claim the task instead"
  | handoffNotAuthorized byActor opener owner =>
      s!"by_actor={repr (.str byActor)} is not authorized to hand off; only opener ({repr (.str opener)}) or current owner ({optionText repr owner}) may transfer ownership"
  | binding error => error.text
  | task error => error.text
  | stateMachine error => error.text
  | storage error => error.text

/-- A conversation with its identity: what the service returns of it. -/
abbrev Summary := Id × Conversation

def optionJson (value : Option String) : Json :=
  (value.map Json.str).getD .null

def idJson (value : Option Id) : Json :=
  (value.map fun id => Json.int id).getD .null

def timeJson (value : Option Time) : Json :=
  (value.map Json.int).getD .null

/-- `_summary_payload`. -/
def summaryPayload (conversationId : Id) (row : Conversation) : Json :=
  .obj
    [("id", .int conversationId),
      ("thread_id", .int row.threadId),
      ("kind", .str row.kind.text),
      ("title", .str row.title),
      ("intent", optionJson row.intent),
      ("state", .str row.state.text),
      ("opener_actor", .str row.openerActor),
      ("owner_actor", optionJson row.ownerActor),
      ("expected_speaker", optionJson row.expectedSpeaker),
      ("parent_conversation_id", idJson row.parentConversationId),
      ("bound_task_id", idJson row.boundTaskId),
      ("resolution", optionJson row.resolution),
      ("resolution_summary", optionJson row.resolutionSummary),
      ("closed_by", optionJson row.closedBy),
      ("is_general", .bool row.isGeneral),
      ("last_speech_at", timeJson row.lastSpeechAt),
      ("speech_count", .int row.speechCount),
      ("idle_warning_emitted_at", timeJson row.idleWarningEmittedAt),
      ("idle_warning_count", .int row.idleWarningCount),
      ("unaddressed_speech_count", .int row.unaddressedSpeechCount),
      ("created_at", .int row.createdAt),
      ("closed_at", timeJson row.closedAt)]

def eventConversationOpened : String := "chat.conversation.opened"
def eventConversationClosed : String := "chat.conversation.closed"
def eventConversationIdleWarning : String := "chat.conversation.idle_warning"
def eventConversationHandoff : String := "chat.conversation.handoff"
def eventConversationOverSpeech : String := "chat.conversation.over_speech"

/-! ## Capabilities -/

/-- `_effective_capabilities`: the explicit grants, or the defaults of the kind. -/
def effectiveCapabilities (actor : Actor) : List Capability :=
  if actor.capabilities ≠ [] then actor.capabilities
  else match actor.kind with
    | .human => defaultCapabilitiesHuman
    | .ai => defaultCapabilitiesAi

/-- `actor_can`. -/
def actorCan (store : Store) (actorHandle : String) (capability : Capability) : Bool :=
  (store.getActorByHandle (withAt actorHandle)).any fun actor =>
    capability ∈ effectiveCapabilities actor

/-- What asking the authorizer leaves: the capability service registers the actor. -/
def provision (config : Config) (s : State) (actorName : String) : State :=
  match config.authorizer with
  | .capability => { s with store := s.store.ensureActorByHandle (withAt actorName) .ai }
  | _ => s

/-- What the authorizer answers. -/
def permits (config : Config) (s : State) (actorName : String) (capability : Capability) :
    Bool :=
  match config.authorizer with
  | .unwired => true
  | .actor allows => allows actorName
  | .capability => actorCan (provision config s actorName).store actorName capability

def denial (config : Config) (actorName : String) (capability : Capability) : ChatError :=
  match config.authorizer with
  | .capability => .lacksCapability actorName capability
  | _ => .notAuthorizedAs actorName

/-- `check_capability`: the authorizer answers in a session of its own. -/
def checkCapability (config : Config) (actorName : String) (capability : Capability) :
    Program ChatError State PUnit := do
  let permitted ← transaction fun s =>
    .ok (permits config s actorName capability, provision config s actorName)
  if permitted then pure ⟨⟩ else throw (denial config actorName capability)

/-! ## Messages -/

/-- What the mirror of a v1 message is given besides the message. -/
structure MirrorOptions where
  privateToActors : List String := []
  expectedResponse : Option ExpectedResponse := none
  repliesToV2EventId : Option EventId := none

/-- The event a message replies to: the mirror of the v1 message it names wins
over an event id given directly. -/
def parentEvent (s : State) (repliesToSpeechId : Option Id)
    (repliesToV2EventId : Option EventId) : Option EventId :=
  ((repliesToSpeechId.bind fun id => s.messages[id]?).bind (·.v2EventId)).or
    repliesToV2EventId

/-- The record `_mirror_v1_message_to_v2` hands to the mirror. -/
def mirrorRecord (s : State) (message : Message) (options : MirrorOptions) : MessageRecord :=
  { actorName := message.actorName
    eventKind := message.eventKind
    content := message.content
    addressedTo := message.addressedTo
    addressedToMany := message.addressedToMany.getD []
    repliesToV2EventId :=
      parentEvent s message.repliesToSpeechId options.repliesToV2EventId
    privateToActors := options.privateToActors
    expectedResponse := options.expectedResponse }

/-- `_mirror_v1_message_to_v2`; a conversation without a mirror has no event. -/
def mirrorV1Message (s : State) (message : Message) (row : Conversation)
    (options : MirrorOptions) (now : Time) : Except ChatError (Store × Option EventId) :=
  match row.v2OperationId with
  | none => .ok (s.store, none)
  | some operationId => do
      let (store, eventId) ← (mirrorMessage s.store operationId
        (mirrorRecord s message options) now).mapError .storage
      return (store, some eventId)

def addMessage (s : State) (row : Conversation) (message : Message)
    (options : MirrorOptions) (now : Time) : Except ChatError (State × Option EventId) := do
  let (store, eventId) ← mirrorV1Message s message row options now
  return ({ s with
    store := store
    messages := s.messages ++ [{ message with v2EventId := eventId }] }, eventId)

def lifecycleMessage (row : Conversation) (conversationId : Id) (actorName eventKind : String)
    (addressedTo : Option String) (content : Json) (now : Time) : Message :=
  { threadId := row.threadId
    conversationId := conversationId
    actorName := actorName
    eventKind := eventKind
    addressedTo := addressedTo
    addressedToMany := none
    repliesToSpeechId := none
    content := content
    v2EventId := none
    createdAt := now }

def State.setConversation (s : State) (conversationId : Id) (row : Conversation) : State :=
  { s with conversations := update s.conversations conversationId row }

def findThread (s : State) (discordThreadId : String) : Option Id :=
  s.threads.findIdx? (· = discordThreadId)

def getConversation (s : State) (conversationId : Id) : Except ChatError Conversation :=
  orRaise s.conversations[conversationId]? (.conversationNotFound conversationId)

end OpsCure.Chat
