/-
The protocol vocabulary (`kernel/v2/contract.py`): operation kinds and states,
speech kinds, resolutions, the task transition graph, event-kind categories,
capabilities, and the two validated protocol values, `expected_response` and
the operation policy.
-/
import OpsCure.Library.Fallible
import OpsCure.Library.Json

namespace OpsCure.Contract

open Fallible

inductive Kind where
  | general
  | inquiry
  | proposal
  | task
deriving DecidableEq, Repr

def Kind.text : Kind → String
  | general => "general"
  | inquiry => "inquiry"
  | proposal => "proposal"
  | task => "task"

inductive OpState where
  | opened
  | claimed
  | executing
  | blockedApproval
  | verifying
  | closed
deriving DecidableEq, Repr

def OpState.text : OpState → String
  | opened => "open"
  | claimed => "claimed"
  | executing => "executing"
  | blockedApproval => "blocked_approval"
  | verifying => "verifying"
  | closed => "closed"

inductive SpeechKind where
  | claim
  | question
  | answer
  | propose
  | agree
  | objection
  | evidence
  | block
  | defer
  | summarize
  | react
  | moveClose
  | ratify
  | invite
  | join
deriving DecidableEq, Repr

def SpeechKind.text : SpeechKind → String
  | claim => "claim"
  | question => "question"
  | answer => "answer"
  | propose => "propose"
  | agree => "agree"
  | objection => "object"
  | evidence => "evidence"
  | block => "block"
  | defer => "defer"
  | summarize => "summarize"
  | react => "react"
  | moveClose => "move_close"
  | ratify => "ratify"
  | invite => "invite"
  | join => "join"

/-- `SPEECH_KINDS`. -/
def speechKinds : List String :=
  ["claim", "question", "answer", "propose", "agree", "object", "evidence", "block",
    "defer", "summarize", "react", "move_close", "ratify", "invite", "join"]

/-- `ALLOWED_RESOLUTIONS`: the close vocabulary of each kind. -/
def allowedResolutions : Kind → List String
  | .inquiry => ["answered", "dropped", "escalated", "abandoned"]
  | .proposal => ["accepted", "rejected", "withdrawn", "superseded", "abandoned"]
  | .task => ["completed", "failed", "cancelled", "abandoned"]
  | .general => []

/-- `ALLOWED_TRANSITIONS`: the states a kind's graph knows, and where each may
go short of closing. -/
def allowedTransitions : Kind → OpState → Option (List OpState)
  | .task, .opened => some [.claimed]
  | .task, .claimed => some [.executing, .opened]
  | .task, .executing => some [.blockedApproval, .verifying, .claimed]
  | .task, .blockedApproval => some [.executing, .claimed]
  | .task, .verifying => some [.executing]
  | .task, .closed => none
  | _, .opened => some []
  | _, _ => none

def eventTaskClaimed : String := "chat.task.claimed"
def eventTaskHeartbeat : String := "chat.task.heartbeat"
def eventTaskEvidence : String := "chat.task.evidence"
def eventTaskCompleted : String := "chat.task.completed"
def eventTaskFailed : String := "chat.task.failed"
def eventTaskInterrupted : String := "chat.task.interrupted"
def eventTaskApprovalRequested : String := "chat.task.approval_requested"
def eventTaskApprovalResolved : String := "chat.task.approval_resolved"
def eventTaskNote : String := "chat.task.note"

/-- `EVENT_KIND_TO_TARGET_STATE`. -/
def eventKindToTargetState (kind : String) : Option OpState :=
  if kind = eventTaskClaimed then some .claimed
  else if kind = eventTaskEvidence then some .executing
  else if kind = eventTaskApprovalRequested then some .blockedApproval
  else none

/-- `EVENT_SYSTEM_NUDGE`. -/
def eventSystemNudge : String := "chat.system.nudge"

inductive Category where
  | speech
  | system
  | conversation
  | task
deriving DecidableEq, Repr

def Category.text : Category → String
  | speech => "speech"
  | system => "system"
  | conversation => "conversation"
  | task => "task"

def categoryOfToken (token : List Char) : Option Category :=
  if token = "speech".toList then some .speech
  else if token = "system".toList then some .system
  else if token = "conversation".toList then some .conversation
  else if token = "task".toList then some .task
  else none

/-- `kind.split(".")`. -/
def kindTokens (kind : String) : List (List Char) :=
  kind.toList.splitOn '.'

/-- The first known category before the last token, the action. -/
def categoryOf (kind : String) : Option Category :=
  (kindTokens kind).dropLast.findSome? categoryOfToken

def isSpeechKind (kind : String) : Bool :=
  categoryOf kind = some .speech

def speechAction (kind : String) : Option String :=
  if isSpeechKind kind then (kindTokens kind).getLast?.map String.ofList else none

/-- The kind `submit_speech` records for a speech act. -/
def speechEventKind (kind : SpeechKind) : String :=
  "chat.speech." ++ kind.text

/-- Every speech kind, in the order of `speechKinds`. -/
def SpeechKind.all : List SpeechKind :=
  [claim, question, answer, propose, agree, objection, evidence, block, defer, summarize,
    react, moveClose, ratify, invite, join]

theorem SpeechKind.mem_all (kind : SpeechKind) : kind ∈ all := by
  cases kind <;> decide

theorem SpeechKind.text_injective {kind other : SpeechKind} (htext : kind.text = other.text) :
    kind = other := by
  have hnodup : (all.map text).Nodup := by decide
  exact List.inj_on_of_nodup_map hnodup kind.mem_all other.mem_all htext

@[simp]
theorem speechAction_speechEventKind (kind : SpeechKind) :
    speechAction (speechEventKind kind) = some kind.text := by
  cases kind <;> rfl

/-- A validated `expected_response`: who should reply, with which kinds (none:
any), and by which round. -/
structure ExpectedResponse where
  fromActorHandles : List String
  kinds : Option (List String)
  byRoundSeq : Option Nat
deriving DecidableEq, Repr

/-- `EXPECTED_RESPONSE_KIND_WILDCARD`. -/
def kindWildcard : String := "*"

/-- A handle with its leading `@`. -/
def withAt (handle : String) : String :=
  if handle.toList.head? = some '@' then handle else "@" ++ handle

theorem head?_withAt (handle : String) : (withAt handle).toList.head? = some '@' := by
  unfold withAt
  split
  · assumption
  · rw [String.toList_append]
    rfl

theorem withAt_withAt (handle : String) : withAt (withAt handle) = withAt handle := by
  rw [withAt, if_pos (head?_withAt handle)]

inductive ExpectedResponseError where
  | handlesNotList
  | handleEmpty
  | kindsNotList
  | unknownKind (kind : Json)
  | byRoundSeqNegative
deriving Repr

def ExpectedResponseError.text (repr : Json → String) : ExpectedResponseError → String
  | handlesNotList => "expected_response.from_actor_handles must be a list"
  | handleEmpty =>
      "expected_response.from_actor_handles entries must be non-empty strings"
  | kindsNotList => "expected_response.kinds must be a list"
  | unknownKind kind => s!"expected_response.kinds: unknown speech kind {repr kind}"
  | byRoundSeqNegative => "expected_response.by_round_seq must be a non-negative int"

def asList (value : Json) (notList : ExpectedResponseError) :
    Except ExpectedResponseError (List Json) :=
  match value with
  | .str single => .ok [.str single]
  | .arr items => .ok items
  | _ => .error notList

def validateHandle (value : Json) : Except ExpectedResponseError String := do
  let handle ← orRaise value.str? .handleEmpty
  require (handle ≠ "") .handleEmpty
  return withAt handle

def validateReplyKind (value : Json) : Except ExpectedResponseError String := do
  let kind ← orRaise value.str? (.unknownKind value)
  require (kind = kindWildcard ∨ kind ∈ speechKinds) (.unknownKind value)
  return kind

/-- `validate_expected_response` on the object of a request. -/
def validateExpectedResponse (value : Option (List (String × Json))) :
    Except ExpectedResponseError (Option ExpectedResponse) :=
  match value with
  | none | some [] => .ok none
  | some fields => do
      let value := Json.obj fields
      let declared := value.get "from_actor_handles"
      let short := value.get "from"
      let raw := if declared.truthy then declared
        else if short.truthy then short else .arr []
      let handles ← (← asList raw .handlesNotList).mapM validateHandle
      let kinds ← match value.get "kinds" with
        | .null => pure none
        | given => do
            let kinds ← (← asList given .kindsNotList).mapM validateReplyKind
            pure (some kinds)
      let byRoundSeq ← match value.get "by_round_seq" with
        | .null => pure none
        | given => do
            let seq ← orRaise given.int? .byRoundSeqNegative
            require (0 ≤ seq) .byRoundSeqNegative
            pure (some seq.toNat)
      return some { fromActorHandles := handles, kinds := kinds, byRoundSeq := byRoundSeq }

/-- The channel that names the next responder of an event. -/
inductive Responder where
  | handle (value : String)
  | actorId (value : String)
deriving DecidableEq, Repr

/-- `infer_implicit_responder`: the declared responder, else the first
addressee, else the author replied to; `none` when the event is terminal. -/
def inferImplicitResponder (expectedResponse : Option ExpectedResponse)
    (addressedActorIds : List String) (repliesToAuthorActorId : Option String) :
    Option Responder :=
  let declared := (expectedResponse.bind (·.fromActorHandles.head?)).filter (· ≠ "")
  let addressed := addressedActorIds.head?.filter (· ≠ "")
  let author := repliesToAuthorActorId.filter (· ≠ "")
  (declared.map .handle).or ((addressed.map .actorId).or (author.map .actorId))

inductive Capability where
  | conversationOpen
  | conversationClose
  | conversationCloseOpener
  | conversationHandoff
  | speechSubmit
  | taskClaim
  | taskComplete
  | taskFail
  | taskApproveDestructive
deriving DecidableEq, Repr

def Capability.text : Capability → String
  | conversationOpen => "conversation.open"
  | conversationClose => "conversation.close"
  | conversationCloseOpener => "conversation.close.opener"
  | conversationHandoff => "conversation.handoff"
  | speechSubmit => "speech.submit"
  | taskClaim => "task.claim"
  | taskComplete => "task.complete"
  | taskFail => "task.fail"
  | taskApproveDestructive => "task.approve.destructive"

/-- `DEFAULT_CAPABILITIES_HUMAN`. -/
def defaultCapabilitiesHuman : List Capability :=
  [.conversationOpen, .conversationClose, .conversationCloseOpener, .conversationHandoff,
    .speechSubmit, .taskClaim, .taskComplete, .taskFail]

/-- `DEFAULT_CAPABILITIES_AI`. -/
def defaultCapabilitiesAi : List Capability :=
  [.conversationOpen, .conversationCloseOpener, .conversationHandoff, .speechSubmit,
    .taskClaim, .taskComplete, .taskFail]

inductive ClosePolicy where
  | openerUnilateral
  | anyParticipant
  | quorum
  | operatorRatifies
deriving DecidableEq, Repr

def ClosePolicy.ofText? : String → Option ClosePolicy
  | "opener_unilateral" => some openerUnilateral
  | "any_participant" => some anyParticipant
  | "quorum" => some quorum
  | "operator_ratifies" => some operatorRatifies
  | _ => none

inductive JoinPolicy where
  | inviteOnly
  | selfOrInvite
  | anyone
deriving DecidableEq, Repr

def JoinPolicy.ofText? : String → Option JoinPolicy
  | "invite_only" => some inviteOnly
  | "self_or_invite" => some selfOrInvite
  | "open" => some anyone
  | _ => none

inductive ContextCompaction where
  | off
  | rollingSummary
deriving DecidableEq, Repr

def ContextCompaction.ofText? : String → Option ContextCompaction
  | "none" => some off
  | "rolling_summary" => some rollingSummary
  | _ => none

/-- A validated operation policy.  Bounds are positive, and a quorum names how
many ratifiers it takes. -/
structure OperationPolicy where
  closePolicy : ClosePolicy
  joinPolicy : JoinPolicy
  contextCompaction : ContextCompaction
  maxRounds : Option Nat
  minRatifiers : Option Nat
  botOpen : Bool
  bindRemoteTask : Bool
  requiresArtifact : Bool
  maxRounds_pos : ∀ n ∈ maxRounds, 0 < n
  minRatifiers_pos : ∀ n ∈ minRatifiers, 0 < n
  quorum_minRatifiers : closePolicy = .quorum → minRatifiers.isSome
deriving DecidableEq

/-- `DEFAULT_OPERATION_POLICY`. -/
def defaultOperationPolicy : OperationPolicy where
  closePolicy := .openerUnilateral
  joinPolicy := .selfOrInvite
  contextCompaction := .off
  maxRounds := none
  minRatifiers := none
  botOpen := true
  bindRemoteTask := true
  requiresArtifact := false
  maxRounds_pos := by simp
  minRatifiers_pos := by simp
  quorum_minRatifiers := by simp

inductive PolicyError where
  | unknownClosePolicy (value : Json)
  | unknownJoinPolicy (value : Json)
  | unknownContextCompaction (value : Json)
  | maxRoundsNotPositive
  | minRatifiersNotPositive
  | notBool (field : String)
  | quorumNeedsMinRatifiers
deriving Repr

def PolicyError.text (repr : Json → String) : PolicyError → String
  | unknownClosePolicy value => s!"policy.close_policy: unknown {repr value}"
  | unknownJoinPolicy value => s!"policy.join_policy: unknown {repr value}"
  | unknownContextCompaction value => s!"policy.context_compaction: unknown {repr value}"
  | maxRoundsNotPositive => "policy.max_rounds must be a positive int"
  | minRatifiersNotPositive => "policy.min_ratifiers must be a positive int"
  | notBool field => s!"policy.{field} must be a bool"
  | quorumNeedsMinRatifiers => "policy.close_policy=quorum requires min_ratifiers"

/-- One optional key of the policy object: absent or `null` keeps the default. -/
def policyField {α : Type} (value : Json) (key : String) (default : α)
    (read : Json → Except PolicyError α) : Except PolicyError α :=
  match value.get key with
  | .null => .ok default
  | given => read given

/-- A key whose value is one of a fixed set of words. -/
def readWord {α : Type} (ofText? : String → Option α) (unknown : Json → PolicyError)
    (given : Json) : Except PolicyError α :=
  orRaise (given.str?.bind ofText?) (unknown given)

/-- A key whose value is a positive integer. -/
def readPositive (error : PolicyError) (given : Json) :
    Except PolicyError (Option { n : Nat // 0 < n }) :=
  match given.int? with
  | some n => if positive : 0 < n.toNat then .ok (some ⟨n.toNat, positive⟩) else .error error
  | none => .error error

def readBool (field : String) (given : Json) : Except PolicyError Bool :=
  match given with
  | .bool value => .ok value
  | _ => .error (.notBool field)

theorem pos_of_mem_map_val {bound : Option { n : Nat // 0 < n }} :
    ∀ n ∈ bound.map Subtype.val, 0 < n := by
  cases bound with
  | none => simp
  | some positive => simpa using positive.property

/-- `validate_operation_policy`: the defaults overridden key by key. -/
def validateOperationPolicy (value : Option (List (String × Json))) :
    Except PolicyError OperationPolicy := do
  let value := Json.obj (value.getD [])
  let base := defaultOperationPolicy
  let closePolicy ← policyField value "close_policy" base.closePolicy
    (readWord ClosePolicy.ofText? .unknownClosePolicy)
  let joinPolicy ← policyField value "join_policy" base.joinPolicy
    (readWord JoinPolicy.ofText? .unknownJoinPolicy)
  let contextCompaction ← policyField value "context_compaction" base.contextCompaction
    (readWord ContextCompaction.ofText? .unknownContextCompaction)
  let maxRounds ← policyField value "max_rounds" none (readPositive .maxRoundsNotPositive)
  let minRatifiers ← policyField value "min_ratifiers" none
    (readPositive .minRatifiersNotPositive)
  let botOpen ← policyField value "bot_open" base.botOpen (readBool "bot_open")
  let bindRemoteTask ← policyField value "bind_remote_task" base.bindRemoteTask
    (readBool "bind_remote_task")
  let requiresArtifact ← policyField value "requires_artifact" base.requiresArtifact
    (readBool "requires_artifact")
  if quorum : closePolicy = .quorum → (minRatifiers.map Subtype.val).isSome then
    return {
      closePolicy := closePolicy
      joinPolicy := joinPolicy
      contextCompaction := contextCompaction
      maxRounds := maxRounds.map Subtype.val
      minRatifiers := minRatifiers.map Subtype.val
      botOpen := botOpen
      bindRemoteTask := bindRemoteTask
      requiresArtifact := requiresArtifact
      maxRounds_pos := pos_of_mem_map_val
      minRatifiers_pos := pos_of_mem_map_val
      quorum_minRatifiers := quorum }
  else
    throw .quorumNeedsMinRatifiers

/-! ## Artifact descriptors -/

inductive ArtifactError where
  | missingFields (fields : List String)
  | kindEmpty
  | uriEmpty
  | sha256Malformed
  | mimeNotText
  | sizeNotNatural
  | labelNotText
  | metadataNotObject
deriving DecidableEq, Repr

def ArtifactError.text : ArtifactError → String
  | missingFields fields =>
      s!"payload.artifact missing required fields: {Text.renderWords fields}"
  | kindEmpty => "payload.artifact.kind must be a non-empty str"
  | uriEmpty => "payload.artifact.uri must be a non-empty str"
  | sha256Malformed => "payload.artifact.sha256 must be a 64-char hex string"
  | mimeNotText => "payload.artifact.mime must be a str"
  | sizeNotNatural => "payload.artifact.size_bytes must be a non-negative int"
  | labelNotText => "payload.artifact.label must be a str when set"
  | metadataNotObject => "payload.artifact.metadata must be a dict when set"

def artifactRequired : List String := ["kind", "uri", "sha256", "mime", "size_bytes"]

def artifactKeys : List String := artifactRequired ++ ["label", "metadata"]

/-- A text of some length. -/
def isFilled (value : Json) : Bool :=
  value.str?.any (· ≠ "")

/-- A key that may be absent or `null`. -/
def optionalField (value : Json) (key : String) : List (String × Json) :=
  match value.get key with
  | .null => []
  | given => [(key, given)]

/-- `validate_artifact_payload`: `none` where nothing shows that an artifact was meant. -/
def validateArtifactPayload (value : Json) :
    Except ArtifactError (Option (List (String × Json))) :=
  if artifactKeys.all fun key => (value.get? key).isNone then .ok none
  else do
    let missing := artifactRequired.filter fun key => (value.get? key).isNone
    require (missing = []) (.missingFields missing)
    require (isFilled (value.get "kind")) .kindEmpty
    require (isFilled (value.get "uri")) .uriEmpty
    require ((value.get "sha256").str?.any (·.length = 64)) .sha256Malformed
    require (value.get "mime").str?.isSome .mimeNotText
    require ((value.get "size_bytes").int?.any (0 ≤ ·)) .sizeNotNatural
    require ((optionalField value "label").all (·.2.str?.isSome)) .labelNotText
    require ((optionalField value "metadata").all (·.2.isObj)) .metadataNotObject
    return some ((artifactRequired.map fun key => (key, value.get key)) ++
      optionalField value "label" ++ optionalField value "metadata")

inductive ArtifactsError where
  | notList
  | item (index : Nat) (error : ArtifactError)
  | itemNotArtifact (index : Nat)
deriving DecidableEq, Repr

def ArtifactsError.text : ArtifactsError → String
  | notList => "payload.artifacts must be a list"
  | item index error => s!"payload.artifacts[{index}]: {error.text}"
  | itemNotArtifact index => s!"payload.artifacts[{index}]: not a valid artifact dict"

def validateArtifactItem (item : Json × Nat) : Except ArtifactsError (List (String × Json)) := do
  let normalized ← (validateArtifactPayload item.1).mapError (.item item.2)
  orRaise normalized (.itemNotArtifact item.2)

/-- `validate_artifacts_list`; an absent list is an empty one. -/
def validateArtifactsList (value : Json) :
    Except ArtifactsError (List (List (String × Json))) :=
  match value with
  | .null => .ok []
  | .arr items => items.zipIdx.mapM validateArtifactItem
  | _ => .error .notList

end OpsCure.Contract
