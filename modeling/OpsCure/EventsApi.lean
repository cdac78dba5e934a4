/-
An operation's log from outside: the inbox fan-out and the space stream the chat service
publishes to (`_publish_v2_inbox_fanout`, `_publish`), and the endpoints that append to
the log and read it (`api/v2_operations.py`).
-/
import OpsCure.ConversationService

namespace OpsCure.Api

open Fallible Session Contract V2 OperationMirror Chat

/-! ## What is pushed -/

/-- An envelope on `v2:inbox:<actor_id>`, its content unpacked. -/
structure InboxItem where
  inboxOf : String
  eventId : EventId
  kind : String
  actorName : String
  createdAt : Time
  operationId : Id
  seq : Nat
  payload : EventPayload
  addressedToActorIds : List String
  privateToActorIds : Option (List String)
  repliesToEventId : Option EventId
  expectedResponse : Option ExpectedResponse
deriving Repr

structure StreamItem where
  spaceId : Id
  messageId : Id
  kind : String
  actorName : String
  content : Json
  createdAt : Time
deriving Repr

/-- The bridge: the chat service's state, and what has gone out to the inboxes, to the
space streams and to the discord threads. -/
structure Bridge where
  chat : State
  inboxes : List InboxItem
  stream : List StreamItem
  discord : List (String × String)

def inboxItem (operationId : Id) (id : EventId) (event : Event) (reader : Participant) :
    InboxItem :=
  { inboxOf := reader.actorId
    eventId := id
    kind := event.kind
    actorName := event.actorId
    createdAt := event.createdAt
    operationId := operationId
    seq := id.seq
    payload := event.payload
    addressedToActorIds := event.addressedToActorIds
    privateToActorIds := event.privateToActorIds
    repliesToEventId := event.repliesToEventId
    expectedResponse := event.payload.expectedResponse }

/-- `_publish_v2_inbox_fanout`: a whisper goes to its readers and its speaker only. -/
def inboxFanout (store : Store) (operationId : Id) (id : EventId) : List InboxItem :=
  match store.getEvent id with
  | none => []
  | some event =>
      let readers := (store.listParticipants operationId).filter fun participant =>
        event.privateToActorIds.all fun readers =>
          participant.actorId ∈ readers ∨ participant.actorId = event.actorId
      readers.map (inboxItem operationId id event)

/-- `make_message_envelope`. -/
def streamItem (message : Message) (messageId : Id) : StreamItem :=
  { spaceId := message.threadId
    messageId := messageId
    kind := message.eventKind
    actorName := message.actorName
    content := message.content
    createdAt := message.createdAt }

def publishMessage (b : Bridge) (message : Message × Id) : Bridge :=
  { b with
    stream := b.stream ++ [streamItem message.1 message.2]
    inboxes := b.inboxes ++ (message.1.v2EventId.toList.flatMap fun id =>
      inboxFanout b.chat.store id.operation id) }

/-- The messages from the `sent`-th on, with their identities. -/
def newMessages (s : State) (sent : Nat) : List (Message × Id) :=
  s.messages.zipIdx.drop sent

/-- An operation of the chat service with its publications: once it has gone through,
its messages go out one after the other. -/
def publishing {α : Type} (program : Program ChatError State α) :
    Program ChatError Bridge α :=
  ExceptT.mk fun b =>
    match exec program b.chat with
    | (.ok value, after) =>
        (.ok value, (newMessages after b.chat.messages.length).foldl publishMessage
          { b with chat := after })
    | (.error error, after) => (.error error, { b with chat := after })

/-- `sweep_idle_conversations` with its publications: the warnings go out before the first
conversation is abandoned. -/
def sweepIdle (config : Config) (discordThreadId : String) (idleThresholdSeconds : Int)
    (now : Time) (clock : Clock) (closeClock : Nat → Clock) :
    Program ChatError Bridge PUnit :=
  let threshold := max 0 idleThresholdSeconds
  if threshold = 0 then pure ⟨⟩
  else do
    let abandoned ← publishing (transaction fun s =>
      sweepSession config s discordThreadId threshold now clock)
    abandoned.zipIdx.forM fun row =>
      publishing (abandonIdle config row.1.1 row.1.2 (closeClock row.2))

/-- Publish the messages of a task operation: its echo goes out on the stream of its thread
only, and the close it may entail is the chat service's. -/
def publishTask (b : Bridge) : List (Message × Id) → Bridge
  | [] => b
  | echo :: rest =>
      rest.foldl publishMessage { b with stream := b.stream ++ [streamItem echo.1 echo.2] }

/-- An operation of the task coordinator with the publications of the stages it gets
through. -/
def publishingTask {α : Type} (program : Program ChatError State α) :
    Program ChatError Bridge α :=
  ExceptT.mk fun b =>
    let (outcome, after) := exec program b.chat
    (outcome, publishTask { b with chat := after } (newMessages after b.chat.messages.length))

/-! ## Requests and errors -/

/-- `V2EventRequest`, with the actor token of its header. -/
structure EventRequest where
  actorHandle : String
  kind : String
  payload : List (String × Json)
  addressedTo : Option String
  addressedToMany : Option (List String)
  repliesToEventId : Option EventId
  privateToActors : Option (List String)
  expectedResponse : Option (List (String × Json))
  actorToken : Option String

/-- How the API is wired: the chat service, the resolution of actor tokens to a handle
and a scope, and the environment's switches. -/
structure ApiConfig where
  chat : Config
  resolveActorToken : String → Option (String × String)
  requireActorToken : Bool
  maxJsonDepth : Nat
  boundsLogOnly : Bool
  requireKnownHandles : Bool

inductive ApiError where
  | tokenRequired
  | tokenInvalid
  | tokenBound (handle claimed : String)
  | scopeInsufficient (scope : String)
  | depthExceeded (cap : Nat)
  | kindNotSpeech (kind : String)
  | operationNotFound (operation : Id)
  | textRequired
  | handlesNotIterable
  | unknownHandles (handles : List String)
  | requestInvalid
  | chat (error : ChatError)
  | mirrorMissing
  | invalidArtifact (error : ArtifactError)
  | invalidArtifacts (error : ArtifactsError)
  | storage (error : StoreError)
  | digestNotSliceable

/-- The detail of an error, `repr` being Python's. -/
def ApiError.detail (repr : Json → String) : ApiError → String
  | tokenRequired => "X-Actor-Token header required (BRIDGE_REQUIRE_ACTOR_TOKEN=1)"
  | tokenInvalid => "X-Actor-Token is invalid or revoked"
  | tokenBound handle claimed =>
      s!"X-Actor-Token is bound to {repr (.str handle)}, cannot speak as {repr (.str claimed)}"
  | scopeInsufficient scope =>
      s!"X-Actor-Token scope={repr (.str scope)} insufficient; this endpoint needs scope>='speak'"
  | depthExceeded cap =>
      s!"json nesting depth > {cap} (free-form fields must stay under the cap to keep parse cost bounded)"
  | kindNotSpeech kind =>
      s!"event kind {repr (.str kind)} cannot be appended via this endpoint; only speech.* kinds are supported in G2 (task lifecycle stays on /api/chat for now)."
  | operationNotFound operation => s!"operation {operation} not found"
  | textRequired => "payload.text is required for speech.* events"
  | handlesNotIterable => "object is not iterable"
  | unknownHandles handles =>
      s!"expected_response.from_actor_handles contains unknown actor(s): {Text.renderWords handles}"
  | requestInvalid => "validation error for SpeechActSubmitRequest"
  | chat (.conversationNotFound _) => "operation conversation not found"
  | chat error => error.text repr
  | mirrorMissing => "speech accepted but v2 mirror missing -- check dual-write"
  | invalidArtifact error => s!"invalid payload.artifact: {error.text}"
  | invalidArtifacts error => s!"invalid payload.artifacts: {error.text}"
  | storage error => error.text
  | digestNotSliceable => "object is not subscriptable"

/-! ## The checks before a speech act -/

/-- `verify_actor_handle_claim`: without a token the claim is trusted, unless one is
required; a token speaks for its own actor only. -/
def verifyActorHandleClaim (api : ApiConfig) (claimed : String) (token : Option String) :
    Except ApiError Unit :=
  match token.filter (· ≠ "") with
  | none => require (api.requireActorToken = false) .tokenRequired
  | some token => do
      let bound ← orRaise (api.resolveActorToken token) .tokenInvalid
      require (bound.1 = withAt claimed) (.tokenBound bound.1 (withAt claimed))

/-- `_SCOPE_RANK`. -/
def scopeRank (scope : String) : Nat :=
  if scope = "read-only" then 1
  else if scope = "speak" then 2
  else if scope = "admin" then 3
  else 0

/-- `require_scope`, for speaking. -/
def requireScope (api : ApiConfig) (token : Option String) : Except ApiError Unit :=
  match (token.filter (· ≠ "")).bind api.resolveActorToken with
  | none => .ok ()
  | some bound => require (scopeRank "speak" ≤ scopeRank bound.2) (.scopeInsufficient bound.2)

/-- `walk_json_depth`: containers nest this deep at most. -/
def depthWithin : Nat → Json → Bool
  | 0, .arr items => items.isEmpty
  | 0, .obj fields => fields.isEmpty
  | depth + 1, .arr items => items.all (depthWithin depth)
  | depth + 1, .obj fields => fields.all fun field => depthWithin depth field.2
  | _, _ => true

/-- `_enforce_payload_depth`, on the payload and the expected response. -/
def enforcePayloadDepth (api : ApiConfig) (request : EventRequest) : Except ApiError Unit :=
  require (api.boundsLogOnly ∨
      depthWithin api.maxJsonDepth (.obj request.payload) ∧
        request.expectedResponse.all fun fields =>
          depthWithin api.maxJsonDepth (.obj fields))
    (.depthExceeded api.maxJsonDepth)

/-- `str(value)`. -/
def pyStr (render : Json → String) (value : Json) : String :=
  value.str?.getD (render value)

/-- `str(payload.get("text", ""))`. -/
def payloadText (api : ApiConfig) (payload : List (String × Json)) : String :=
  match (Json.obj payload).get? "text" with
  | none => ""
  | some value => pyStr api.chat.render value

def invitedHandles (api : ApiConfig) (expectedResponse : Option (List (String × Json))) :
    Except ApiError (List String) :=
  let handles := (Json.obj (expectedResponse.getD [])).get "from_actor_handles"
  if handles.truthy then
    match handles with
    | .arr items => .ok (items.map fun item => withAt (pyStr api.chat.render item))
    | .str text => .ok (text.toList.map fun c => withAt (String.singleton c))
    | .obj fields => .ok (fields.map fun field => withAt field.1)
    | _ => .error .handlesNotIterable
  else .ok []

/-- Invited handles that belong to nobody are an error in strict mode. -/
def checkInvited (api : ApiConfig) (store : Store) (request : EventRequest) :
    Except ApiError Unit := do
  let invited ← invitedHandles api request.expectedResponse
  let unknown := invited.filter fun handle => (store.getActorByHandle handle).isNone
  require (api.requireKnownHandles → unknown = []) (.unknownHandles unknown)

def stripAt (handle : String) : String :=
  if handle.toList.head? = some '@' then String.ofList (handle.toList.drop 1) else handle

/-- What follows `speech.` in a kind. -/
def speechWord (kind : String) : String :=
  String.ofList (kind.toList.drop "speech.".length)

def isSpeechRequest (kind : String) : Bool :=
  "speech.".toList <+: kind.toList

/-- The `SpeechActSubmitRequest` of a request, with its validators. -/
def speechRequest (request : EventRequest) (text : String) : Except ApiError SpeechRequest := do
  let actorName := stripAt request.actorHandle
  require (actorName ≠ "") .requestInvalid
  let kind ← orRaise (SpeechKind.all.find? (·.text = speechWord request.kind)) .requestInvalid
  return {
    actorName := actorName
    actorKind := "ai"
    kind := kind
    content := text
    addressedTo := (request.addressedTo.map Text.strip).filter (· ≠ "")
    addressedToMany :=
      (((request.addressedToMany.getD []).map Text.strip).filter (· ≠ "")).eraseDups
    repliesToSpeechId := none
    repliesToV2EventId := request.repliesToEventId
    privateToActors := request.privateToActors.getD []
    expectedResponse := request.expectedResponse }

/-- `_operation_to_v1_conversation_id`. -/
def v1ConversationId (store : Store) (operationId : Id) : Except ApiError Id := do
  let operation ← orRaise (store.getOperation operationId) (.operationNotFound operationId)
  return operation.v1ConversationId

/-- Everything that is checked before the speech act is submitted: the conversation, and
the act. -/
def checkAppend (api : ApiConfig) (store : Store) (operationId : Id) (request : EventRequest) :
    Except ApiError (Id × SpeechRequest) := do
  verifyActorHandleClaim api request.actorHandle request.actorToken
  requireScope api request.actorToken
  enforcePayloadDepth api request
  require (isSpeechRequest request.kind) (.kindNotSpeech request.kind)
  let conversationId ← v1ConversationId store operationId
  let text := payloadText api request.payload
  require (text ≠ "") .textRequired
  checkInvited api store request
  let speech ← speechRequest request text
  return (conversationId, speech)

/-! ## What follows a speech act -/

/-- An event of `GET /v2/operations/{id}/events`. -/
structure EventBody where
  id : EventId
  operationId : Id
  actorId : String
  seq : Nat
  kind : String
  payload : EventPayload
  addressedToActorIds : List String
  privateToActorIds : Option (List String)
  repliesToEventId : Option EventId
  expectedResponse : Option ExpectedResponse
  createdAt : Time
deriving Repr

/-- `_serialize_event`. -/
def serializeEvent (id : EventId) (event : Event) : EventBody :=
  { id := id
    operationId := id.operation
    actorId := event.actorId
    seq := id.seq
    kind := event.kind
    payload := event.payload
    addressedToActorIds := event.addressedToActorIds
    privateToActorIds := event.privateToActorIds
    repliesToEventId := event.repliesToEventId
    expectedResponse := event.payload.expectedResponse
    createdAt := event.createdAt }

def modifyEvent (store : Store) (id : EventId) (change : Event → Event) : Store :=
  store.modifyOperation id.operation fun row =>
    { row with events := row.events.modify id.index change }

/-- Wire the reply chain of an event that has none yet. -/
def patchReply (store : Store) (id : EventId) (parent : Option EventId) : Store :=
  modifyEvent store id fun event =>
    { event with repliesToEventId := event.repliesToEventId.or parent }

def payloadArtifacts (payload : List (String × Json)) :
    Except ApiError (List (List (String × Json))) := do
  let singular ← (validateArtifactPayload ((Json.obj payload).get "artifact")).mapError
    .invalidArtifact
  let plural ← (validateArtifactsList ((Json.obj payload).get "artifacts")).mapError
    .invalidArtifacts
  return singular.toList ++ plural

def attachAll (render : Json → String) (store : Store) (id : EventId)
    (artifacts : List (List (String × Json))) (clock : Clock) : Except StoreError Store :=
  artifacts.zipIdx.foldlM (fun store fields =>
    attachArtifact render store id (.obj fields.1) (clock fields.2)) store

def payloadIntent (payload : List (String × Json)) : Option String :=
  (((Json.obj payload).get "intent").str?.map Text.strip).filter (· ≠ "")

def patchIntent (store : Store) (id : EventId) (intent : Option String) : Store :=
  match intent with
  | none => store
  | some intent =>
      modifyEvent store id fun event =>
        { event with payload := { event.payload with intent := some intent } }

def attachEvidence (api : ApiConfig) (store : Store) (id : EventId) (request : EventRequest)
    (clock : Clock) : Except ApiError Store :=
  if speechWord request.kind = SpeechKind.evidence.text then do
    let artifacts ← payloadArtifacts request.payload
    (attachAll api.chat.render store id artifacts clock).mapError .storage
  else .ok store

def keepIntent (store : Store) (id : EventId) (request : EventRequest) : Store :=
  if speechWord request.kind = SpeechKind.ratify.text then
    patchIntent store id (payloadIntent request.payload)
  else store

/-- What is added to the event of a speech act once it is there. -/
def finishEvent (api : ApiConfig) (store : Store) (id : EventId) (request : EventRequest)
    (clock : Clock) : Except ApiError Store := do
  let store ← attachEvidence api (patchReply store id request.repliesToEventId) id request clock
  return keepIntent store id request

/-- `value[:12]`, which texts and lists have. -/
def sliceDigest (render : Json → String) : Json → Except ApiError String
  | .str text => .ok (String.ofList (text.toList.take 12))
  | .arr items => .ok (render (.arr (items.take 12)))
  | _ => .error .digestNotSliceable

def artifactLine (render : Json → String) (artifact : Json) : Except ApiError String :=
  if artifact.isObj ∧ (artifact.get "uri").truthy then do
    let uri := pyStr render (artifact.get "uri")
    let size := pyStr render ((artifact.get? "size_bytes").getD (.str "?"))
    let digest ← sliceDigest render ((artifact.get? "sha256").getD (.str "?"))
    return s!"\n📎 artifact: `{uri}` ({size} bytes, sha256={digest}…)"
  else return ""

def discordThread (s : State) (conversationId : Id) : Option String :=
  ((s.conversations[conversationId]?).bind fun row => s.threads[row.threadId]?).filter
    (· ≠ "")

def forwardedPost (api : ApiConfig) (s : State) (conversationId : Id)
    (request : EventRequest) : Except ApiError (List (String × String)) :=
  match discordThread s conversationId with
  | none => .ok []
  | some thread => do
      let handle := withAt request.actorHandle
      let text := payloadText api request.payload
      let line ← artifactLine api.chat.render ((Json.obj request.payload).get "artifact")
      return [(thread, s!"**{handle}** _[{speechWord request.kind}]_\n{text}{line}")]

/-- The session that follows the speech act; its discord post goes out when it commits. -/
def finishAppend (api : ApiConfig) (b : Bridge) (conversationId : Id)
    (eventId : Option EventId) (request : EventRequest) (clock : Clock) :
    Except ApiError (EventBody × Bridge) := do
  let id ← orRaise eventId .mirrorMissing
  let store ← finishEvent api b.chat.store id request clock
  let event ← orRaise (store.getEvent id) .mirrorMissing
  let posts ← forwardedPost api b.chat conversationId request
  return (serializeEvent id event,
    { b with chat := { b.chat with store := store }, discord := b.discord ++ posts })

/-- Errors of the chat service reach the caller of the API. -/
def fromChat {α : Type} (program : Program ChatError Bridge α) : Program ApiError Bridge α :=
  ExceptT.mk fun b => ((exec program b).1.mapError .chat, (exec program b).2)

/-- `append_event`. -/
def appendEvent (api : ApiConfig) (operationId : Id) (request : EventRequest)
    (clock finishClock : Clock) : Program ApiError Bridge EventBody := do
  let (conversationId, speech) ← query fun b =>
    checkAppend api b.chat.store operationId request
  let eventId ← fromChat (publishing (submitSpeech api.chat conversationId speech clock))
  transaction fun b => finishAppend api b conversationId eventId request finishClock

/-! ## What is read -/

/-- A reader sees a whisper that names it, and one of its own. -/
def visibleTo (viewer : Option String) (event : Event) : Bool :=
  event.privateToActorIds.all fun readers =>
    viewer.any fun reader => reader = event.actorId ∨ reader ∈ readers

/-- `_resolve_actor_id`. -/
def resolveActorId (store : Store) (actorHandle : Option String) : Option String :=
  (normalizeHandle actorHandle).bind fun handle =>
    (store.getActorByHandle handle).map (·.handle)

def selectEvents (store : Store) (operationId : Id) (afterSeq : Nat) (kinds : List String)
    (limit : Nat) : List (Event × Nat) :=
  (((store.log operationId).zipIdx.drop afterSeq).filter fun row =>
    kinds = [] ∨ row.1.kind ∈ kinds).take (clampLimit limit)

/-- The answer of `GET /v2/operations/{id}/events`. -/
structure EventsPage where
  operationId : Id
  events : List EventBody
  redactedCount : Nat
  viewerActorId : Option String

/-- `list_events`: `GET /v2/operations/{id}/events`. -/
def listEvents (store : Store) (operationId : Id) (afterSeq : Nat)
    (kinds : List String) (actorHandle : Option String) (limit : Nat) :
    Except ApiError EventsPage := do
  let _ ← orRaise (store.getOperation operationId) (.operationNotFound operationId)
  let viewer := resolveActorId store actorHandle
  let rows := selectEvents store operationId afterSeq kinds limit
  let shown := rows.filter fun row => visibleTo viewer row.1
  return {
    operationId := operationId
    events := shown.map fun row =>
      serializeEvent { operation := operationId, index := row.2 } row.1
    redactedCount := rows.length - shown.length
    viewerActorId := viewer }

def plainApi : ApiConfig where
  chat := plainConfig
  resolveActorToken := fun _ => none
  requireActorToken := false
  maxJsonDepth := 16
  boundsLogOnly := false
  requireKnownHandles := false

end OpsCure.Api
