/-
The `/v2` routes that act or read on behalf of an actor handle, with the checks of the
actor token each of them makes: the operations (`api/v2_operations.py`), the inbox
(`api/v2_inbox.py`) and the heartbeat (`api/v2_actor_tokens.py`), over `auth.py`.
-/
import Mathlib.Logic.Function.Basic
import OpsCure.EventsApi
import OpsCure.TaskCoordinator
import Mathlib.Algebra.GroupWithZero.Nat

namespace OpsCure.Api

open Fallible Session Table Contract V2 OperationMirror Chat RemoteTask

/-! ## Tokens and actors -/

/-- What a token may be used for; the scopes a token can be issued with. -/
inductive Scope where
  | readOnly
  | speak
  | admin
deriving DecidableEq, Repr

def Scope.text : Scope → String
  | readOnly => "read-only"
  | speak => "speak"
  | admin => "admin"

/-- A row of `actor_tokens_v2`. -/
structure TokenRow where
  actorId : String
  tokenHash : String
  scope : Scope
  revokedAt : Option Time

inductive ActorStatus where
  | online
  | idle
  | offline
deriving DecidableEq, Repr

structure ActorPresence where
  status : ActorStatus
  lastSeenAt : Option Time
deriving DecidableEq, Repr

/-- The bridge with its tokens, the presence of its actors, the `last_seen_seq` of each
participant row by operation and place, and the actors whose inbox is being streamed. -/
structure World where
  bridge : Bridge
  tokens : List TokenRow
  presence : String → ActorPresence
  lastSeenSeq : Id → Nat → Option Nat
  subscriptions : List String

def World.store (w : World) : Store := w.bridge.chat.store

/-- How the bridge is deployed: the chat service, the hash of a token, and the
environment's switches. -/
structure Deployment where
  chat : Config
  hashActorToken : String → String
  requireActorToken : Bool
  maxJsonDepth : Nat
  boundsLogOnly : Bool
  requireKnownHandles : Bool

/-- `get_actor_token_by_hash`: active tokens only. -/
def World.getActorTokenByHash (w : World) (tokenHash : String) : Option TokenRow :=
  w.tokens.find? fun row => row.tokenHash = tokenHash ∧ row.revokedAt = none

/-- `_resolve_actor_token`, of a token that is not empty. -/
def resolveActorToken (d : Deployment) (w : World) (token : String) :
    Option (String × Scope) :=
  (w.getActorTokenByHash (d.hashActorToken token)).bind fun bound =>
    (w.store.getActorByHandle bound.actorId).map fun actor => (actor.handle, bound.scope)

def Deployment.api (d : Deployment) (w : World) : ApiConfig where
  chat := d.chat
  resolveActorToken := fun token =>
    (resolveActorToken d w token).map fun bound => (bound.1, bound.2.text)
  requireActorToken := d.requireActorToken
  maxJsonDepth := d.maxJsonDepth
  boundsLogOnly := d.boundsLogOnly
  requireKnownHandles := d.requireKnownHandles

/-- `update_actor_presence`. -/
def World.updateActorPresence (w : World) (actorId : String) (presence : ActorPresence) :
    World :=
  { w with presence := Function.update w.presence actorId presence }

/-- `ensure_actor_by_handle`: an actor that is there is seen now, a new one is online. -/
def World.ensureActorByHandle (w : World) (handle : String) (now : Time) : World :=
  match w.store.getActorByHandle handle with
  | some _ => w.updateActorPresence handle ⟨.online, some now⟩
  | none =>
      let store := w.store.ensureActorByHandle handle .ai
      { w with
        bridge := { w.bridge with chat := { w.bridge.chat with store := store } }
        presence := Function.update w.presence handle ⟨.online, none⟩ }

/-! ## Requests and answers -/

/-- `V2OpenOperationRequest`. -/
structure OpenOperationRequest where
  spaceId : String
  kind : String
  title : String
  intent : Option String
  addressedTo : Option String
  openerActorHandle : String
  objective : Option String
  successCriteria : Option (List (String × Json))
  policy : Option (List (String × Json))

/-- `V2CloseRequest`. -/
structure CloseOperationRequest where
  actorHandle : String
  resolution : String
  summary : Option String

/-- `V2ClaimRequest`. -/
structure ClaimOperationRequest where
  actorHandle : String
  leaseSeconds : Int

/-- `V2EvidenceRequest`. -/
structure SubmitEvidenceRequest where
  actorHandle : String
  leaseToken : String
  kind : String
  summary : String
  payload : List (String × Json)

/-- `V2ApprovalRequestRequest`. -/
structure RequestApprovalRequest where
  actorHandle : String
  leaseToken : String
  reason : String
  note : Option String

/-- `V2ApprovalResolveRequest`. -/
structure ResolveApprovalRequest where
  actorHandle : String
  resolution : String
  note : Option String

/-- `V2CompleteRequest`. -/
structure CompleteOperationRequest where
  actorHandle : String
  leaseToken : String
  summary : Option String

/-- `V2FailRequest`. -/
structure FailOperationRequest where
  actorHandle : String
  leaseToken : String
  errorText : String

/-- The answer of `_serialize_operation`. -/
structure OperationBody where
  id : Id
  spaceId : String
  kind : Kind
  state : OpState
  title : String
  intent : Option String
  v1ConversationId : Id
  isGeneral : Bool
  policy : OperationPolicy
  resolution : Option String
  resolutionSummary : Option String
  closedByActorId : Option String
  createdAt : Time
  updatedAt : Time
  closedAt : Option Time

def serializeOperation (id : Id) (operation : V2.Operation) : OperationBody :=
  { id := id
    spaceId := operation.spaceId
    kind := operation.kind
    state := operation.state
    title := operation.title
    intent := operation.intent
    v1ConversationId := operation.v1ConversationId
    isGeneral := operation.isGeneral
    policy := operation.operationPolicy
    resolution := operation.resolution
    resolutionSummary := operation.resolutionSummary
    closedByActorId := operation.closedByActorId
    createdAt := operation.createdAt
    updatedAt := operation.updatedAt
    closedAt := operation.closedAt }

structure InboxEntry where
  operationId : Id
  spaceId : String
  kind : Kind
  state : OpState
  title : String
  intent : Option String
  role : String
  resolution : Option String
  openedAt : Time
  updatedAt : Time
  closedAt : Option Time

/-- An operation that could be joined. -/
structure DiscoverableEntry where
  id : Id
  spaceId : String
  kind : Kind
  title : String
  intent : Option String
  policy : OperationPolicy
  createdAt : Time

inductive Response where
  | operation (body : OperationBody)
  | event (body : EventBody)
  | task (body : OperationBody) (task : Task)
  | page (page : EventsPage)
  | seen (operationId : Id) (actorId : String) (lastSeenSeq : Nat)
  | inbox (actorHandle : String) (items : List InboxEntry)
  | discoverable (actorHandle : String) (items : List DiscoverableEntry)
      (nextCursor : Option (Time × Id))
  | streamOpened (actorId : String)
  | unread (actorHandle : String) (total : Nat)
  | heartbeat (actorHandle : String) (lastSeenAt : Time)

inductive RouteError where
  | api (error : ApiError)
  | spaceNotFound (spaceId : String)
  | actorNotFound (handle : String)

/-- The detail of an error, `repr` being Python's. -/
def RouteError.detail (repr : Json → String) : RouteError → String
  | api error => error.detail repr
  | spaceNotFound spaceId => s!"space {spaceId} not found"
  | actorNotFound handle => s!"actor {repr (.str handle)} not found"

/-! ## The checks -/

def onBridge {α : Type} (program : Program ApiError Bridge α) :
    Program RouteError World α :=
  ExceptT.mk fun w =>
    ((exec program w.bridge).1.mapError .api, { w with bridge := (exec program w.bridge).2 })

/-- `verify_actor_handle_claim`, of the token of a request. -/
def verifyClaim (d : Deployment) (claimedHandle : String) (token : Option String) :
    Program RouteError World PUnit :=
  query fun w => (verifyActorHandleClaim (d.api w) claimedHandle token).mapError .api

/-- `require_scope(needed=speak)`, of the token of a request. -/
def requireSpeak (d : Deployment) (token : Option String) : Program RouteError World PUnit :=
  query fun w => (requireScope (d.api w) token).mapError .api

/-- `_enforce_payload_depth`, on the objects a request carries. -/
def enforceDepth (d : Deployment) (values : List (List (String × Json))) :
    Except RouteError PUnit :=
  require (d.boundsLogOnly ∨ values.all fun fields => depthWithin d.maxJsonDepth (.obj fields))
    (.api (.depthExceeded d.maxJsonDepth))

def validate (valid : Prop) [Decidable valid] : Except RouteError PUnit :=
  require valid (.api .requestInvalid)

def readOperation (w : World) (operationId : Id) : Except RouteError V2.Operation :=
  orRaise (w.store.getOperation operationId) (.api (.operationNotFound operationId))

/-! ## Opening and closing -/

/-- The kinds `ConversationOpenRequest` knows. -/
def openedKind : String → Option {kind : Kind // kind ≠ .general}
  | "inquiry" => some ⟨.inquiry, nofun⟩
  | "proposal" => some ⟨.proposal, nofun⟩
  | "task" => some ⟨.task, nofun⟩
  | _ => none

def effectivePolicy (request : OpenOperationRequest) : Option (List (String × Json)) :=
  let stated := request.policy.getD []
  let fields :=
    if request.kind = "task" ∧ (Json.obj stated).get? "bind_remote_task" = none then
      stated ++ [("bind_remote_task", .bool false)]
    else stated
  if fields = [] then none else some fields

/-- A text that is stripped, and dropped when nothing is left. -/
def stripped (text : Option String) : Option String :=
  (text.map Text.strip).filter (· ≠ "")

/-- The `ConversationOpenRequest` of a request; a blank title or opener becomes a null
that no row takes. -/
def openRequest (request : OpenOperationRequest) : Except RouteError OpenRequest := do
  let opener := stripAt request.openerActorHandle
  let kind ← orRaise (openedKind request.kind) (.api .requestInvalid)
  validate (request.title.length ≤ 200 ∧ Text.strip request.title ≠ "" ∧
    Text.strip opener ≠ "")
  return {
    kind := kind.val
    title := Text.strip request.title
    openerActor := Text.strip opener
    intent := stripped request.intent
    ownerActor := none
    addressedTo := stripped request.addressedTo
    parentConversationId := none
    objective := stripped request.objective
    successCriteria := .obj (request.successCriteria.getD [])
    priority := "normal"
    policy := effectivePolicy request
    kind_ne_general := kind.property }

/-- `ensure_general`, in a session of its own. -/
def ensureSpace (spaceId : String) (now : Time) : Program RouteError World PUnit :=
  transaction fun w => do
    let threadId ← orRaise (findThread w.bridge.chat spaceId) (.spaceNotFound spaceId)
    return (⟨⟩, { w with bridge := { w.bridge with
      chat := ensureGeneral w.bridge.chat threadId now } })

def postInThread (w : World) (conversationId : Id) (post : String) : World :=
  match discordThread w.bridge.chat conversationId with
  | none => w
  | some thread =>
      { w with bridge := { w.bridge with discord := w.bridge.discord ++ [(thread, post)] } }

def ClosePolicy.text : ClosePolicy → String
  | .openerUnilateral => "opener_unilateral"
  | .anyParticipant => "any_participant"
  | .quorum => "quorum"
  | .operatorRatifies => "operator_ratifies"

/-- The line about the policy in the post about a new operation. -/
def policyLine (policy : OperationPolicy) : String :=
  let quorum :=
    if policy.closePolicy = .quorum then
      "/quorum=" ++ (policy.minRatifiers.map toString).getD "None"
    else ""
  let artifact := if policy.requiresArtifact then " /req-artifact" else ""
  s!"close={ClosePolicy.text policy.closePolicy}{quorum}{artifact}"

def openedPost (request : OpenOperationRequest) (id : Id) (operation : V2.Operation) :
    String :=
  let shown := String.ofList ((toString id).toList.take 8)
  s!"📣 **op opened** _{operation.kind.text}_ — `{operation.title}`\n" ++
    s!"opener: {request.openerActorHandle} · policy: {policyLine operation.operationPolicy}\n" ++
    s!"id: `{shown}…`"

def finishOpen (request : OpenOperationRequest) (w : World) (opened : Summary) :
    Except RouteError (Response × World) := do
  let operationId ← orRaise opened.2.v2OperationId (.api .mirrorMissing)
  let operation ← readOperation w operationId
  return (.operation (serializeOperation operationId operation),
    postInThread w opened.1 (openedPost request operationId operation))

/-- `open_operation`. -/
def openOperation (d : Deployment) (request : OpenOperationRequest) (token : Option String)
    (now : Time) (clock taskClock : Clock) : Program RouteError World Response := do
  verifyClaim d request.openerActorHandle token
  requireSpeak d token
  query fun _ => enforceDepth d (request.successCriteria.toList ++ request.policy.toList)
  ensureSpace request.spaceId now
  let asked ← query fun _ => openRequest request
  let opened ← onBridge (fromChat (publishing
    (openConversation d.chat request.spaceId asked clock taskClock)))
  transaction fun w => finishOpen request w opened

/-- `append_event`, which makes its checks itself. -/
def appendEventRoute (d : Deployment) (operationId : Id) (request : EventRequest)
    (token : Option String) (clock finishClock : Clock) :
    Program RouteError World Response := do
  let api ← query fun w => .ok (d.api w)
  let body ← onBridge (appendEvent api operationId { request with actorToken := token } clock
    finishClock)
  return .event body

def closedPost (w : World) (request : CloseOperationRequest) (id : Id)
    (operation : V2.Operation) : String :=
  let events := (w.store.listEvents id 0 10000).length
  let artifacts := (w.store.listArtifactsForOperation id).length
  let summary :=
    match operation.resolutionSummary.filter (· ≠ "") with
    | none => ""
    | some text => "\n_summary:_ " ++ String.ofList (text.toList.take 300)
  let resolution := operation.resolution.getD "None"
  s!"✅ **op closed** _{operation.kind.text}_ — `{operation.title}`\n" ++
    s!"resolution: **{resolution}** by {request.actorHandle}\n" ++
    s!"events: {events} · artifacts: {artifacts}" ++ summary

def finishClose (request : CloseOperationRequest) (operationId conversationId : Id)
    (w : World) : Except RouteError (Response × World) := do
  let operation ← readOperation w operationId
  return (.operation (serializeOperation operationId operation),
    postInThread w conversationId (closedPost w request operationId operation))

def conversationOf (operationId : Id) : Program RouteError World Id :=
  query fun w => (v1ConversationId w.store operationId).mapError .api

/-- `close_operation`. -/
def closeOperation (d : Deployment) (operationId : Id) (request : CloseOperationRequest)
    (token : Option String) (clock : Clock) : Program RouteError World Response := do
  verifyClaim d request.actorHandle token
  requireSpeak d token
  let conversationId ← conversationOf operationId
  let _ ← onBridge (fromChat (publishing (closeConversation d.chat conversationId
    (stripAt request.actorHandle) request.resolution request.summary false clock)))
  transaction fun w => finishClose request operationId conversationId w

/-! ## The life of a task -/

/-- `EVIDENCE_KINDS`. -/
def evidenceKinds : List String :=
  ["command_execution", "file_read", "file_write", "test_result", "screenshot",
    "approval_request", "error", "result", "runtime_turn_started", "runtime_turn_completed"]

/-- `_coord_call` and `_coord_response_to_v2_dict`: no route of a task looks at a token. -/
def coordCall (d : Deployment) (operationId : Id) (asked : Except RouteError TaskRequest)
    (clocks : Clocks) : Program RouteError World Response := do
  let conversationId ← conversationOf operationId
  let request ← query fun _ => asked
  let answer ← onBridge (fromChat (publishingTask
    (request.perform d.chat conversationId clocks)))
  query fun w => do
    let operation ← readOperation w operationId
    return .task (serializeOperation operationId operation) answer.2

/-- `ChatTaskClaimRequest`, which bounds the lease. -/
def claimRequest (request : ClaimOperationRequest) (drawn : String) :
    Except RouteError TaskRequest := do
  let actor := stripAt request.actorHandle
  validate (actor ≠ "")
  return .claim { actorId := actor, leaseSeconds := max 10 (min request.leaseSeconds 3600) }
    drawn

/-- `claim_operation`. -/
def claimOperation (d : Deployment) (operationId : Id) (request : ClaimOperationRequest)
    (drawn : String) (clocks : Clocks) : Program RouteError World Response :=
  coordCall d operationId (claimRequest request drawn) clocks

/-- `ChatTaskEvidenceRequest`. -/
def evidenceRequest (request : SubmitEvidenceRequest) : Except RouteError TaskRequest := do
  let actor := stripAt request.actorHandle
  validate (actor ≠ "" ∧ request.leaseToken ≠ "" ∧ request.kind ∈ evidenceKinds ∧
    request.summary ≠ "")
  return .addEvidence
    { actorName := actor
      leaseToken := request.leaseToken
      kind := request.kind
      summary := request.summary
      payload := request.payload }

/-- `submit_evidence`. -/
def submitEvidence (d : Deployment) (operationId : Id) (request : SubmitEvidenceRequest)
    (clocks : Clocks) : Program RouteError World Response := do
  query fun _ => enforceDepth d [request.payload]
  coordCall d operationId (evidenceRequest request) clocks

/-- `ChatTaskApprovalRequest`. -/
def approvalRequest (request : RequestApprovalRequest) : Except RouteError TaskRequest := do
  let actor := stripAt request.actorHandle
  validate (actor ≠ "" ∧ request.leaseToken ≠ "" ∧ request.reason ≠ "")
  return .requestApproval
    { actorId := actor
      leaseToken := request.leaseToken
      reason := request.reason
      note := request.note }

/-- `request_approval`. -/
def requestApprovalRoute (d : Deployment) (operationId : Id)
    (request : RequestApprovalRequest) (clocks : Clocks) :
    Program RouteError World Response :=
  coordCall d operationId (approvalRequest request) clocks

/-- `_normalize_resolution`. -/
def approvalResolution (text : String) : Option ApprovalResolution :=
  match Text.lower (Text.strip text) with
  | "approved" => some .approved
  | "denied" => some .denied
  | _ => none

/-- `ChatTaskApprovalResolveRequest`. -/
def resolutionRequest (request : ResolveApprovalRequest) : Except RouteError TaskRequest := do
  let actor := stripAt request.actorHandle
  validate (actor ≠ "")
  let resolution ← orRaise (approvalResolution request.resolution) (.api .requestInvalid)
  return .resolveApproval
    { resolvedBy := actor, resolution := resolution, note := request.note }

/-- `resolve_approval`. -/
def resolveApprovalRoute (d : Deployment) (operationId : Id)
    (request : ResolveApprovalRequest) (clocks : Clocks) :
    Program RouteError World Response :=
  coordCall d operationId (resolutionRequest request) clocks

/-- `ChatTaskCompleteRequest`. -/
def completeRequest (request : CompleteOperationRequest) : Except RouteError TaskRequest := do
  let actor := stripAt request.actorHandle
  validate (actor ≠ "" ∧ request.leaseToken ≠ "")
  return .complete
    { actorId := actor, leaseToken := request.leaseToken, summary := request.summary }

/-- `complete_operation`. -/
def completeOperation (d : Deployment) (operationId : Id) (request : CompleteOperationRequest)
    (clocks : Clocks) : Program RouteError World Response :=
  coordCall d operationId (completeRequest request) clocks

/-- `ChatTaskFailRequest`. -/
def failRequest (request : FailOperationRequest) : Except RouteError TaskRequest := do
  let actor := stripAt request.actorHandle
  validate (actor ≠ "" ∧ request.leaseToken ≠ "" ∧ request.errorText ≠ "")
  return .fail
    { actorId := actor, leaseToken := request.leaseToken, errorText := request.errorText }

/-- `fail_operation`. -/
def failOperation (d : Deployment) (operationId : Id) (request : FailOperationRequest)
    (clocks : Clocks) : Program RouteError World Response :=
  coordCall d operationId (failRequest request) clocks

/-! ## Reading and marking -/

/-- `GET /v2/operations/{id}/events`, of a named reader. -/
def listEventsRoute (operationId : Id) (afterSeq : Nat) (kinds : List String)
    (actorHandle : String) (limit : Nat) : Program RouteError World Response :=
  query fun w =>
    ((listEvents w.store operationId afterSeq kinds (some actorHandle) limit).map .page).mapError
      .api

/-- The participant row at a place is the actor's, and has seen less than `seq`. -/
def World.behind (w : World) (operationId : Id) (actorId : String) (seq place : Nat) : Bool :=
  ((w.store.listParticipants operationId)[place]?).any fun row =>
    row.actorId = actorId ∧ (w.lastSeenSeq operationId place).getD 0 < seq

/-- `update_participant_seen_seq`. -/
def World.updateParticipantSeenSeq (w : World) (operationId : Id) (actorId : String)
    (seq : Nat) : World :=
  { w with lastSeenSeq := fun id place =>
      if id = operationId ∧ w.behind operationId actorId seq place then some seq
      else w.lastSeenSeq id place }

/-- The places of an operation's participants that `seq` moves on. -/
def World.movedOn (w : World) (operationId : Id) (actorId : String) (seq : Nat) : List Nat :=
  (List.range (w.store.listParticipants operationId).length).filter
    (w.behind operationId actorId seq)

/-- `_resolve_actor_id`, or the error about it. -/
def namedActor (w : World) (actorHandle : String) : Except RouteError Actor :=
  orRaise ((normalizeHandle (some actorHandle)).bind w.store.getActorByHandle)
    (.actorNotFound actorHandle)

/-- `mark_seen`. -/
def markSeen (operationId : Id) (actorHandle : String) (seq : Nat) :
    Program RouteError World Response :=
  transaction fun w => do
    let actor ← namedActor w actorHandle
    let _ ← readOperation w operationId
    require (w.movedOn operationId actor.handle seq = [] ∨ isStorable seq)
      (.api (.storage .integerOverflow))
    return (.seen operationId actor.handle seq,
      w.updateParticipantSeenSeq operationId actor.handle seq)

/-- `operations_for_actor`: the operations the actor takes part in, once for each of its
roles, the latest updated first. -/
def operationsForActor (store : Store) (actorId : String) (roles : List String)
    (state : Option String) (limit : Nat) : List ((V2.Operation × String) × Id) :=
  let joined := store.operations.zipIdx.flatMap fun row =>
    (row.1.participants.filter (·.actorId = actorId)).map fun participant =>
      ((row.1, participant.role), row.2)
  let kept := joined.filter fun row =>
    (roles = [] ∨ row.1.2 ∈ roles) ∧ state.all fun wanted => row.1.1.state.text = wanted
  (orderBy (fun left right => right.1.updatedAt ≤ left.1.updatedAt) kept).take
    (clampLimit limit)

def inboxEntry (row : (V2.Operation × String) × Id) : InboxEntry :=
  { operationId := row.2
    spaceId := row.1.1.spaceId
    kind := row.1.1.kind
    state := row.1.1.state
    title := row.1.1.title
    intent := row.1.1.intent
    role := row.1.2
    resolution := row.1.1.resolution
    openedAt := row.1.1.createdAt
    updatedAt := row.1.1.updatedAt
    closedAt := row.1.1.closedAt }

/-- `get_inbox`. -/
def getInbox (actorHandle : String) (state : Option String) (roles : List String)
    (limit : Nat) : Program RouteError World Response :=
  query fun w =>
    match w.store.getActorByHandle (withAt actorHandle) with
    | none => .ok (.inbox (withAt actorHandle) [])
    | some actor =>
        .ok (.inbox (withAt actorHandle)
          ((operationsForActor w.store actor.handle roles state limit).map inboxEntry))

/-- `_last_expected_kinds`: the kinds the latest of the first twenty events asks for. -/
def lastExpectedKinds (store : Store) (operationId : Id) : Option (List String) :=
  (store.listEvents operationId 0 20).reverse.findSome? fun event =>
    (event.payload.expectedResponse.bind (·.kinds)).filter (· ≠ [])

/-- `kind.removeprefix("speech.")`. -/
def bareKind (kind : String) : String :=
  if isSpeechRequest kind then speechWord kind else kind

/-- What the asker can say is something the operation asks for, if it asks. -/
def compatible (store : Store) (operationId : Id) (askerKinds : Option (List String)) : Bool :=
  askerKinds.all fun kinds =>
    (lastExpectedKinds store operationId).all fun allowed =>
      kindWildcard ∈ allowed ∨ (kinds.map bareKind).any fun kind => kind ∈ allowed

/-- An operation comes after a cursor: it is older, or as old with a smaller identity. -/
def afterCursor (cursor : Option (Time × Id)) (row : V2.Operation × Id) : Bool :=
  cursor.all fun last =>
    row.1.createdAt < last.1 ∨ row.1.createdAt = last.1 ∧ row.2 < last.2

def openOperations (store : Store) (spaceId : Option String) (cursor : Option (Time × Id))
    (limit : Nat) : List (V2.Operation × Id) :=
  let kept := (selectWhere (·.state = .opened) store.operations).filter fun row =>
    (spaceId.filter (· ≠ "")).all (row.1.spaceId = ·) ∧ afterCursor cursor row
  let newestFirst := kept.insertionSort fun left right =>
    right.1.createdAt < left.1.createdAt ∨
      right.1.createdAt = left.1.createdAt ∧ right.2 ≤ left.2
  newestFirst.take (max 1 (min limit 500))

/-- The asker may join: it is not in yet, and needs no invitation. -/
def joinable (store : Store) (actorId : Option String) (askerKinds : Option (List String))
    (row : V2.Operation × Id) : Bool :=
  actorId.all (fun id => row.1.participants.all (·.actorId ≠ id)) ∧
    row.1.operationPolicy.joinPolicy ≠ .inviteOnly ∧ compatible store row.2 askerKinds

def discoverableEntry (row : V2.Operation × Id) : DiscoverableEntry :=
  { id := row.2
    spaceId := row.1.spaceId
    kind := row.1.kind
    title := row.1.title
    intent := row.1.intent
    policy := row.1.operationPolicy
    createdAt := row.1.createdAt }

/-- `list_discoverable_operations`, its cursor decoded. -/
def listDiscoverable (actorHandle : String) (spaceId : Option String)
    (askerKinds : Option (List String)) (cursor : Option (Time × Id)) (limit : Nat) :
    Program RouteError World Response :=
  query fun w =>
    let actorId := (w.store.getActorByHandle (withAt actorHandle)).map (·.handle)
    let found := (openOperations w.store spaceId cursor limit).filter
      (joinable w.store actorId askerKinds)
    let nextCursor :=
      if limit ≤ found.length then found.getLast?.map fun row => (row.1.createdAt, row.2)
      else none
    .ok (.discoverable (withAt actorHandle) (found.map discoverableEntry) nextCursor)

/-- `stream_inbox`: to subscribe is to register. -/
def streamInbox (d : Deployment) (actorHandle : String) (token : Option String) (now : Time) :
    Program RouteError World Response := do
  verifyClaim d actorHandle token
  transaction fun w =>
    let handle := withAt actorHandle
    let seen := w.ensureActorByHandle handle now
    .ok (.streamOpened handle, { seen with subscriptions := seen.subscriptions ++ [handle] })

def World.lastSeen (w : World) (operationId : Id) (actorId : String) : Nat :=
  (((w.store.listParticipants operationId).findIdx? (·.actorId = actorId)).bind
    (w.lastSeenSeq operationId)).getD 0

/-- What an operation has in store for an actor past what it has seen; its own whispers do
not count. -/
def unreadEvents (w : World) (actorId : String) (operationId : Id) : List Event :=
  (w.store.listEvents operationId (w.lastSeen operationId actorId) 500).filter fun event =>
    event.privateToActorIds.all (actorId ∈ ·)

/-- `get_unread_count`. -/
def getUnreadCount (actorHandle : String) : Program RouteError World Response :=
  query fun w =>
    match w.store.getActorByHandle (withAt actorHandle) with
    | none => .ok (.unread (withAt actorHandle) 0)
    | some actor =>
        let counts := (operationsForActor w.store actor.handle [] none 100).map fun row =>
          (unreadEvents w actor.handle row.2).length
        .ok (.unread (withAt actorHandle) counts.sum)

/-- `actor_heartbeat`. -/
def actorHeartbeat (d : Deployment) (handle : String) (token : Option String) (now : Time) :
    Program RouteError World Response := do
  verifyClaim d (withAt handle) token
  transaction fun w =>
    let seen := w.ensureActorByHandle (withAt handle) now
    .ok (.heartbeat (withAt handle) now,
      seen.updateActorPresence (withAt handle) ⟨.online, some now⟩)

/-! ## Any request -/

/-- What is asked of the bridge, with the clocks its sessions read and the lease token a
claim would draw. -/
inductive RouteCall where
  | openOperation (request : OpenOperationRequest) (now : Time) (clock taskClock : Clock)
  | appendEvent (operationId : Id) (request : EventRequest) (clock finishClock : Clock)
  | closeOperation (operationId : Id) (request : CloseOperationRequest) (clock : Clock)
  | claimOperation (operationId : Id) (request : ClaimOperationRequest) (drawn : String)
      (clocks : Clocks)
  | submitEvidence (operationId : Id) (request : SubmitEvidenceRequest) (clocks : Clocks)
  | requestApproval (operationId : Id) (request : RequestApprovalRequest) (clocks : Clocks)
  | resolveApproval (operationId : Id) (request : ResolveApprovalRequest) (clocks : Clocks)
  | completeOperation (operationId : Id) (request : CompleteOperationRequest)
      (clocks : Clocks)
  | failOperation (operationId : Id) (request : FailOperationRequest) (clocks : Clocks)
  | listEvents (operationId : Id) (afterSeq : Nat) (kinds : List String)
      (actorHandle : String) (limit : Nat)
  | markSeen (operationId : Id) (actorHandle : String) (seq : Nat)
  | getInbox (actorHandle : String) (state : Option String) (roles : List String)
      (limit : Nat)
  | listDiscoverable (actorHandle : String) (spaceId : Option String)
      (askerKinds : Option (List String)) (cursor : Option (Time × Id)) (limit : Nat)
  | streamInbox (actorHandle : String) (now : Time)
  | getUnreadCount (actorHandle : String)
  | actorHeartbeat (handle : String) (now : Time)

def RouteCall.handle : RouteCall → String
  | .openOperation request _ _ _ => request.openerActorHandle
  | .appendEvent _ request _ _ => request.actorHandle
  | .closeOperation _ request _ => request.actorHandle
  | .claimOperation _ request _ _ => request.actorHandle
  | .submitEvidence _ request _ => request.actorHandle
  | .requestApproval _ request _ => request.actorHandle
  | .resolveApproval _ request _ => request.actorHandle
  | .completeOperation _ request _ => request.actorHandle
  | .failOperation _ request _ => request.actorHandle
  | .listEvents _ _ _ actorHandle _ => actorHandle
  | .markSeen _ actorHandle _ => actorHandle
  | .getInbox actorHandle _ _ _ => actorHandle
  | .listDiscoverable actorHandle _ _ _ _ => actorHandle
  | .streamInbox actorHandle _ => actorHandle
  | .getUnreadCount actorHandle => actorHandle
  | .actorHeartbeat handle _ => handle

/-- A request, with the `X-Actor-Token` header it carries, if it does. -/
structure RouteRequest where
  call : RouteCall
  token : Option String

/-- What the bridge does with a request. -/
def serve (d : Deployment) (request : RouteRequest) : Program RouteError World Response :=
  match request.call with
  | .openOperation body now clock taskClock =>
      openOperation d body request.token now clock taskClock
  | .appendEvent operationId body clock finishClock =>
      appendEventRoute d operationId body request.token clock finishClock
  | .closeOperation operationId body clock =>
      closeOperation d operationId body request.token clock
  | .claimOperation operationId body drawn clocks =>
      claimOperation d operationId body drawn clocks
  | .submitEvidence operationId body clocks => submitEvidence d operationId body clocks
  | .requestApproval operationId body clocks => requestApprovalRoute d operationId body clocks
  | .resolveApproval operationId body clocks => resolveApprovalRoute d operationId body clocks
  | .completeOperation operationId body clocks => completeOperation d operationId body clocks
  | .failOperation operationId body clocks => failOperation d operationId body clocks
  | .listEvents operationId afterSeq kinds actorHandle limit =>
      listEventsRoute operationId afterSeq kinds actorHandle limit
  | .markSeen operationId actorHandle seq => markSeen operationId actorHandle seq
  | .getInbox actorHandle state roles limit => getInbox actorHandle state roles limit
  | .listDiscoverable actorHandle spaceId askerKinds cursor limit =>
      listDiscoverable actorHandle spaceId askerKinds cursor limit
  | .streamInbox actorHandle now => streamInbox d actorHandle request.token now
  | .getUnreadCount actorHandle => getUnreadCount actorHandle
  | .actorHeartbeat handle now => actorHeartbeat d handle request.token now

end OpsCure.Api
