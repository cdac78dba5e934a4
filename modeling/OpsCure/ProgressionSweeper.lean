/-
The progression sweeper and its runner (`kernel/v2/progression_sweeper.py`): it
nudges the responder an idle operation waits for, and after a number of nudges
posts a defer.  Both go through `emit_system_event`.
-/
import OpsCure.ConversationService

namespace OpsCure.Progression

open Session Contract V2 Chat

inductive Decision where
  | nudge
  | defer
deriving DecidableEq, Repr

def Decision.text : Decision → String
  | nudge => "nudge"
  | defer => "defer"

/-- A `SweepAction` that is not a skip. -/
structure SweepAction where
  operationId : Id
  action : Decision
  reason : String
  targetHandle : String
  repliesToEventId : EventId
deriving DecidableEq, Repr

/-- The settings of a sweeper; `idle` is in microseconds. -/
structure Settings where
  idle : Time
  maxRetries : Int
  idleText : String

/-- The defaults: nudges after thirty idle seconds, and a defer after two of them. -/
def Settings.usual : Settings where
  idle := seconds 30
  maxRetries := 2
  idleText := "30.0"

def trigger (store : Store) (operationId : Id) : Option (Event × EventId) :=
  (store.lastSpeechEventForOp operationId).map fun row =>
    (row.1, { operation := operationId, index := row.2 })

/-- The actor a trigger implicitly waits for, and the channel that names it, when that
actor is known. -/
def responder (store : Store) (event : Event) : Option (Actor × String) :=
  let author := (event.repliesToEventId.bind store.getEvent).map (·.actorId)
  match inferImplicitResponder event.payload.expectedResponse event.addressedToActorIds
      author with
  | none => none
  | some (.handle value) => (store.getActorByHandle value).map fun actor => (actor, "handle")
  | some (.actorId value) => (store.getActorByHandle value).map fun actor => (actor, "actor_id")

/-- The events after the trigger, as many as one query returns. -/
def laterEvents (store : Store) (id : EventId) : List Event :=
  store.listEvents id.operation id.seq 500

def priorNudges (id : EventId) (events : List Event) : Nat :=
  events.countP fun event =>
    event.kind = eventSystemNudge ∧ event.repliesToEventId = some id

/-- `_classify_op`, `none` standing for every skip. -/
def classifyOp (settings : Settings) (store : Store) (operationId : Id) (now : Time) :
    Option SweepAction := do
  let (event, id) ← trigger store operationId
  guard (event.createdAt ≤ now - settings.idle)
  let (target, channel) ← responder store event
  guard (target.handle ≠ "")
  guard (target.handle ≠ event.actorId)
  let later := laterEvents store id
  guard (later.all (·.actorId ≠ target.handle))
  let nudges := priorNudges id later
  return {
    operationId := operationId
    action := if settings.maxRetries ≤ nudges then .defer else .nudge
    reason :=
      if settings.maxRetries ≤ nudges then s!"escalating after {nudges} nudges"
      else s!"idle ≥{settings.idleText}s, channel={channel}"
    targetHandle := target.handle
    repliesToEventId := id }

/-- `_resolve_v1_conv_id`: the first conversation mirrored by an operation. -/
def resolveV1ConvId (s : State) (operationId : Id) : Option Id :=
  s.conversations.findIdx? (·.v2OperationId = some operationId)

def emittedKind : Decision → String
  | .nudge => eventSystemNudge
  | .defer => "chat.speech.defer"

def emitAction (action : SweepAction) (conversationId : Id) (clock : Clock) :
    Program ChatError State PUnit :=
  attempt <| emitSystemEvent conversationId (emittedKind action.action)
    (some action.targetHandle) (some action.repliesToEventId)
    [("reason", .str action.reason),
      ("target_handle", .str action.targetHandle),
      ("trigger_event_id", .arr [.int action.repliesToEventId.operation,
        .int action.repliesToEventId.index]),
      ("decision", .str action.action.text)]
    clock

/-- The actions of a tick, each with the conversation to post it in. -/
def plans (settings : Settings) (s : State) (now : Time) : List (SweepAction × Id) :=
  s.store.recentActiveOps.filterMap fun row => do
    let action ← classifyOp settings s.store row.2 now
    let conversationId ← resolveV1ConvId s row.2
    return (action, conversationId)

/-- `_tick_once`: decide in one reading session, then post one by one, the `i`-th
under `clock i`. -/
def tickOnce (settings : Settings) (now : Time) (clock : Nat → Clock) :
    Program ChatError State PUnit := do
  let planned ← query fun s => .ok (plans settings s now)
  planned.zipIdx.forM fun plan => emitAction plan.1.1 plan.1.2 (clock plan.2)

end OpsCure.Progression
