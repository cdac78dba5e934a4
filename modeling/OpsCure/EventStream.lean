/-
The event stream of a space (`api/events.py`) between the event rows and the broker
(`kernel/subscriptions.py`): commits, publishes and one subscriber, step by step.  The rows,
the backlog and the listeners are kept per space; this is one space of them.  Who is
listening (`touch`) is left out.
-/
import OpsCure.Library.Padded
import Mathlib.Data.List.Sort

namespace OpsCure.EventStream

/-! ## Events and their cursors -/

/-- Cursors count microseconds in this many digits. -/
def cursorWidth : Nat := 20

/-- A row of a space's event table; `createdAt` is in microseconds. -/
structure EventSummary where
  id : String
  kind : String
  actorName : String
  content : String
  createdAt : Nat
  in_time : createdAt < 10 ^ cursorWidth
deriving DecidableEq

/-- `encode_event_cursor`. -/
def encodeEventCursor (createdAt : Nat) (eventId : String) : String :=
  Padded.key cursorWidth createdAt (":" ++ eventId)

structure EventEnvelope where
  cursor : String
  event : EventSummary
deriving DecidableEq

/-- The envelope every publisher and every provider makes of a row. -/
def makeEnvelope (event : EventSummary) : EventEnvelope where
  cursor := encodeEventCursor event.createdAt event.id
  event := event

/-- `is_valid_event_cursor`; `isDigit` is `str.isdigit` of one character. -/
def isValidEventCursor (isDigit : Char → Bool) (cursor : String) : Bool :=
  cursor = "" ||
    match cursor.toList.takeWhile (· ≠ ':'), cursor.toList.dropWhile (· ≠ ':') with
    | [], _ => false
    | _, [] => false
    | digits, _ :: suffix => digits.all isDigit && !suffix.isEmpty

/-! ## Reading the rows -/

structure EventDeltaResponse where
  items : List EventEnvelope
  nextCursor : Option String
  hasMore : Bool

def ofKinds (kinds : List String) (item : EventEnvelope) : Bool :=
  kinds = [] ∨ item.event.kind ∈ kinds

/-- `items[-limit:]`, which is all of them for no limit. -/
def lastItems (items : List EventEnvelope) (limit : Nat) : List EventEnvelope :=
  if 0 < limit then items.drop (items.length - limit) else items

/-- `paginate_event_envelopes`. -/
def paginateEventEnvelopes (items : List EventEnvelope) (afterCursor : Option String)
    (limit : Nat) (kinds : List String) : EventDeltaResponse :=
  let filteredItems := items.filter (ofKinds kinds)
  match afterCursor with
  | none =>
      let page := lastItems filteredItems limit
      { items := page
        nextCursor := page.getLast?.map (·.cursor)
        hasMore := page.length < filteredItems.length }
  | some after =>
      let unread := filteredItems.filter (after < ·.cursor)
      let page := unread.take limit
      { items := page
        nextCursor := (page.getLast?.map (·.cursor)).or (some after)
        hasMore := limit < unread.length }

/-- `order_by(created_at.asc(), id.asc())`. -/
def createdBefore (left right : EventSummary) : Prop :=
  left.createdAt < right.createdAt ∨ left.createdAt = right.createdAt ∧ left.id ≤ right.id

instance (left right : EventSummary) : Decidable (createdBefore left right) :=
  inferInstanceAs (Decidable (_ ∨ _ ∧ _))

/-- `get_events_for_space`, on the rows of a space that is there. -/
def getEventsForSpace (rows : List EventSummary) (afterCursor : Option String) (limit : Nat)
    (kinds : List String) : EventDeltaResponse :=
  paginateEventEnvelopes ((rows.insertionSort createdBefore).map makeEnvelope) afterCursor
    limit kinds

/-! ## The stream -/

/-- What a subscriber asks for. -/
structure StreamRequest where
  afterCursor : Option String
  limit : Nat
  kinds : List String

inductive ResetReason where
  | invalidCursor
  | spaceNotFound
  | replayLimitExceeded
deriving DecidableEq, Repr

def ResetReason.text : ResetReason → String
  | invalidCursor => "invalid_cursor"
  | spaceNotFound => "space_not_found"
  | replayLimitExceeded => "replay_limit_exceeded"

/-- A chunk of the stream. -/
inductive Frame where
  | opened (acceptedAfterCursor latestCursor : Option String)
  | event (item : EventEnvelope)
  | heartbeat (cursor : Option String)
  | reset (reason : ResetReason)
deriving DecidableEq

/-- `_load_stream_replay_items`; `found` says whether the space is still there. -/
def loadStreamReplayItems (rows : List EventSummary) (found : Bool) (afterCursor : String)
    (boundaryCursor : Option String) (limit : Nat) (kinds : List String) :
    Except ResetReason (List EventEnvelope) :=
  if boundaryCursor.any (· ≤ afterCursor) then .ok []
  else if found then
    let response := getEventsForSpace rows (some afterCursor) (limit + 1) kinds
    let replayItems := response.items.filter fun item => boundaryCursor.all (item.cursor ≤ ·)
    if limit < replayItems.length then .error .replayLimitExceeded
    else if response.hasMore ∧ boundaryCursor.any (fun boundary =>
        replayItems.getLast?.any (·.cursor < boundary)) then .error .replayLimitExceeded
    else .ok replayItems
  else .error .spaceNotFound

/-- How many envelopes of a space the broker keeps. -/
def backlogLimit : Nat := 1024

/-- Where `_stream_space_events` stands. -/
inductive Phase where
  | waiting
  | subscribed (latestCursor : Option String)
  | opened (latestCursor : Option String)
  | live (cursor : Option String)
  | ended
deriving DecidableEq

/-- The rows that are committed, the envelopes that were published, those on their way to the
subscriber's queue, the queue, and what the stream has come to. -/
structure State where
  rows : List EventSummary
  published : List EventEnvelope
  inFlight : List EventEnvelope
  queue : List EventEnvelope
  phase : Phase
  frames : List Frame

def State.start : State := ⟨[], [], [], [], .waiting, []⟩

def State.backlog (s : State) : List EventEnvelope :=
  s.published.drop (s.published.length - backlogLimit)

def Phase.listens : Phase → Bool
  | .subscribed _ | .opened _ | .live _ => true
  | .waiting | .ended => false

/-- What can happen next: a writer commits a row; a writer publishes an envelope, first to the
backlog and the listeners there are, then to the queue of each; the stream makes its next
move. -/
inductive Step where
  | commit (event : EventSummary)
  | publish (item : EventEnvelope)
  | deliver (item : EventEnvelope)
  | subscribe
  | readLatest (found : Bool)
  | replay (found : Bool)
  | nextEvent

section Stream

variable (isDigit : Char → Bool) (request : StreamRequest)

def subscribe (s : State) : State :=
  match s.phase with
  | .waiting =>
      if request.afterCursor.all (isValidEventCursor isDigit) then
        { s with phase := .subscribed (s.backlog.getLast?.map (·.cursor)) }
      else { s with phase := .ended, frames := s.frames ++ [.reset .invalidCursor] }
  | _ => s

def readLatest (found : Bool) (s : State) : State :=
  match s.phase with
  | .subscribed latestCursor =>
      let latestCursor := latestCursor.or <|
        if found then (getEventsForSpace s.rows none 1 []).nextCursor else none
      { s with
        phase := .opened latestCursor
        frames := s.frames ++ [.opened request.afterCursor latestCursor] }
  | _ => s

def replay (found : Bool) (s : State) : State :=
  match s.phase with
  | .opened boundaryCursor =>
      match request.afterCursor with
      | none => { s with phase := .live none }
      | some after =>
          match loadStreamReplayItems s.rows found after boundaryCursor request.limit
              request.kinds with
          | .error reason =>
              { s with phase := .ended, frames := s.frames ++ [.reset reason] }
          | .ok replayItems =>
              { s with
                phase := .live ((replayItems.getLast?.map (·.cursor)).or (some after))
                frames := s.frames ++ replayItems.map .event }
  | _ => s

/-- One turn of the loop: a heartbeat when the queue is empty, else its next item, unless the
stream is past it. -/
def nextEvent (s : State) : State :=
  match s.phase with
  | .live cursor =>
      match s.queue with
      | [] => { s with frames := s.frames ++ [.heartbeat cursor] }
      | nextItem :: queue =>
          if cursor.any (nextItem.cursor ≤ ·) then { s with queue := queue }
          else { s with
            queue := queue
            phase := .live (some nextItem.cursor)
            frames := s.frames ++ [.event nextItem] }
  | _ => s

/-- `publish`, up to the listeners it takes: the backlog, and the subscription if it is there
and asked for the kind. -/
def publish (item : EventEnvelope) (s : State) : State :=
  { s with
    published := s.published ++ [item]
    inFlight :=
      if s.phase.listens ∧ ofKinds request.kinds item then s.inFlight ++ [item]
      else s.inFlight }

/-- `publish`, at one listener: `put_nowait`. -/
def deliver (item : EventEnvelope) (s : State) : State :=
  if item ∈ s.inFlight then
    { s with inFlight := s.inFlight.erase item, queue := s.queue ++ [item] }
  else s

def step (s : State) : Step → State
  | .commit event => { s with rows := s.rows ++ [event] }
  | .publish item => publish request item s
  | .deliver item => deliver item s
  | .subscribe => subscribe isDigit request s
  | .readLatest found => readLatest request found s
  | .replay found => replay request found s
  | .nextEvent => nextEvent s

end Stream

end OpsCure.EventStream
