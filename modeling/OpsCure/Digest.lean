/-
The digest service (`behaviors/digest/service.py`): the summary card a close attaches to
its operation.  It reads the whole log, and knows nothing of who may read what.
-/
import OpsCure.ConversationService

namespace OpsCure.Digest

open V2 Chat

/-- What the service takes from the standard library and the clock: `json.dumps` on the
content of a message that is no text and on a summary, the encoding and the digest of the
dumped bytes, the rendering of an instant, and when the card of an event is written. -/
structure Codec where
  dumpContent : Json → String
  dumpSummary : Json → String
  base64 : String → String
  sha256 : String → String
  isoformat : Time → String
  moment : EventId → Time

/-- `text[:200]` of an event's payload. -/
def preview (codec : Codec) (event : Event) : String :=
  let text := event.payload.text.str?.getD (codec.dumpContent event.payload.text)
  String.ofList (text.toList.take 200)

def isSpeech (event : Event) : Bool := "chat.speech.".toList <+: event.kind.toList

def isEvidence (event : Event) : Bool :=
  !isSpeech event && event.kind = "chat.task.evidence"

def isLifecycle (event : Event) : Bool :=
  !isSpeech event && !isEvidence event &&
    ("chat.conversation.".toList <+: event.kind.toList ∨
      "chat.task.".toList <+: event.kind.toList)

def openingQuestion (codec : Codec) (events : List Event) : Json :=
  ((events.find? (·.kind = "chat.speech.question")).map fun event =>
    Json.str (preview codec event)).getD .null

def lastAddressedSpeech (codec : Codec) (events : List (Event × Nat)) : Json :=
  let addressed := events.filter fun row =>
    isSpeech row.1 && row.1.addressedToActorIds ≠ []
  (addressed.getLast?.map fun row => Json.obj
    [("seq", .int (row.2 + 1)),
      ("kind", .str row.1.kind),
      ("actor_id", .str row.1.actorId),
      ("addressed_to_actor_ids", .arr (row.1.addressedToActorIds.map .str)),
      ("text_preview", .str (preview codec row.1))]).getD .null

/-- `int(delta.total_seconds())`. -/
def durationSeconds (openedAt : Time) (closedAt : Option Time) : Json :=
  (closedAt.map fun closedAt => Json.int ((closedAt - openedAt).tdiv 1000000)).getD .null

/-- The `totals` of a summary. -/
def totals (events : List Event) (artifacts : Nat) : Json :=
  .obj
    [("events", .int events.length),
      ("speech", .int (events.countP isSpeech)),
      ("evidence", .int (events.countP isEvidence)),
      ("lifecycle", .int (events.countP isLifecycle)),
      ("whispers", .int (events.countP fun event => event.privateToActorIds.isSome)),
      ("artifacts", .int artifacts)]

/-- `_build_summary`. -/
def buildSummary (codec : Codec) (store : Store) (operationId : Id)
    (operation : V2.Operation) : Json :=
  let events := store.listEvents operationId 0 1000
  .obj
    [("operation_id", .int operationId),
      ("space_id", .str operation.spaceId),
      ("kind", .str operation.kind.text),
      ("title", .str operation.title),
      ("intent", optionJson operation.intent),
      ("resolution", optionJson operation.resolution),
      ("resolution_summary", optionJson operation.resolutionSummary),
      ("closed_by_actor_id", optionJson operation.closedByActorId),
      ("opened_at", .str (codec.isoformat operation.createdAt)),
      ("closed_at", optionJson (operation.closedAt.map codec.isoformat)),
      ("duration_seconds", durationSeconds operation.createdAt operation.closedAt),
      ("participants", .arr ((store.listParticipants operationId).map fun participant =>
        .obj [("actor_id", .str participant.actorId), ("role", .str participant.role)])),
      ("totals", totals events (store.listArtifactsForOperation operationId).length),
      ("opening_question", openingQuestion codec events),
      ("last_addressed_speech", lastAddressedSpeech codec events.zipIdx)]

def summaryArtifact (codec : Codec) (eventId : EventId) (operation : V2.Operation)
    (summary : Json) : Artifact :=
  let content := codec.dumpSummary summary
  let outcome := Text.orElse operation.resolution "closed"
  { eventId := eventId
    kind := "summary"
    uri := s!"data:application/json;base64,{codec.base64 content}"
    sha256 := codec.sha256 content
    mime := "application/json"
    sizeBytes := content.utf8ByteSize
    label := some s!"digest:{operation.kind.text}:{outcome}"
    metadata := summary
    createdAt := codec.moment eventId }

/-- `record_close`: only an operation that is closed gets its card. -/
def recordClose (codec : Codec) (store : Store) (closeEventId : EventId) : Option Artifact :=
  match store.getOperation closeEventId.operation with
  | none => none
  | some operation =>
      if operation.state = .closed then
        some (summaryArtifact codec closeEventId operation
          (buildSummary codec store closeEventId.operation operation))
      else none

end OpsCure.Digest
