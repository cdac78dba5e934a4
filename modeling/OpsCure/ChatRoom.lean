/-
A chat room (`behaviors/chat/service.py`): participants submit messages and poll the thread delta,
which moves their read marker.  The rows of one thread; the conversation a message is filed under and
its mirror in the event log are left out.
-/
import Mathlib.Data.Prod.Lex
import OpsCure.Library.Keyed
import OpsCure.Library.Keyset
import OpsCure.Library.Run
import OpsCure.Presence

namespace OpsCure.ChatRoom

open Keyset

/-! ## Rows -/

abbrev MessageId := { id : String // id ≠ "" }

/-- A row of `chat_messages`. -/
structure Message where
  id : MessageId
  actorName : String
  eventKind : String
  content : String
  createdAt : Time
deriving DecidableEq, Repr

structure ThreadRow where
  turnCount : Nat
  lastActorName : Option String
  lastMessagePreview : Option String
  lastMessageAt : Option Time
deriving DecidableEq, Repr

/-- A row of `chat_participants`. -/
structure Participant where
  actorName : String
  kind : String
  turnCount : Nat
  lastMessagePreview : Option String
  lastMessageAt : Option Time
deriving DecidableEq, Repr

/-- A row of `chat_participant_states`. -/
structure ParticipantState where
  actorName : String
  lastSeenAt : Option Time
  lastReadMessageId : Option MessageId
  lastReadMessageAt : Option Time
deriving DecidableEq, Repr

structure Room where
  thread : ThreadRow
  participants : Keyed Participant.actorName
  states : Keyed ParticipantState.actorName
  messages : Keyed Message.id

def Room.empty : Room := ⟨⟨0, none, none, none⟩, .empty, .empty, .empty⟩

/-! ## The service -/

/-- `_preview_text`. -/
def previewText (content : String) : String :=
  let compact := Text.collapse content
  if compact.length ≤ 120 then compact
  else String.ofList ((compact.toList.take 117).reverse.dropWhile Text.isSpace).reverse ++ "..."

/-- `_ensure_participant`. -/
def Room.ensureParticipant (room : Room) (actorName actorKind : String) : Room :=
  { room with
    participants := room.participants.upsert ⟨actorName, actorKind, 0, none, none⟩
      (fun row => { row with kind := if actorKind = "" then row.kind else actorKind })
      fun _ => rfl }

/-- `_ensure_participant_state`, seen now. -/
def Room.ensureParticipantState (room : Room) (actorName : String) (now : Time) : Room :=
  { room with
    states := room.states.upsert ⟨actorName, some now, none, none⟩
      (fun row => { row with lastSeenAt := some now }) fun _ => rfl }

def Room.markRead (room : Room) (actorName : String) (message : Message) : Room :=
  { room with
    states := room.states.modify actorName
      (fun row => { row with
        lastReadMessageId := some message.id
        lastReadMessageAt := some message.createdAt }) fun _ => rfl }

/-- When a message was written: its `created_at`, and where that is shared its place in the table. -/
def written (row : Message × Nat) : Lex (Time × Nat) := toLex (row.1.createdAt, row.2)

def Room.allMessages (room : Room) : List Message :=
  (ascending written room.messages.rows.zipIdx).map (·.1)

/-- `_messages_after_cursor`. -/
def messagesAfterCursor (allMessages : List Message) (cursorId : Option String) (limit : Nat) :
    List Message :=
  match cursorId.filter (· ≠ "") with
  | none => allMessages.drop (allMessages.length - limit)
  | some cursor =>
      match allMessages.findIdx? fun message => message.id.1 = cursor with
      | some index => (allMessages.drop (index + 1)).take limit
      | none => allMessages.take limit

def Room.marker (room : Room) (actorName : String) : Option MessageId :=
  (room.states.get actorName).bind (·.lastReadMessageId)

structure DeltaQuery where
  afterMessageId : Option String
  limit : Nat
  markRead : Bool
  limit_pos : 1 ≤ limit
deriving DecidableEq

structure DeltaResponse where
  thread : ThreadRow
  participant : Option Participant × Option ParticipantState
  participants : List (Participant × Option ParticipantState)
  messages : List Message

/-- `get_thread_delta`.  The rows of a new participant are not flushed before the participants are
listed. -/
def Room.getThreadDelta (room : Room) (actorName : String) (query : DeltaQuery) (now : Time) :
    DeltaResponse × Room :=
  let ensured := (room.ensureParticipant actorName "ai").ensureParticipantState actorName now
  let cursorId := (query.afterMessageId.filter (· ≠ "")).or
    ((ensured.marker actorName).map (·.1))
  let messages := messagesAfterCursor ensured.allMessages cursorId query.limit
  let after :=
    match query.markRead, messages.getLast? with
    | true, some lastMessage => ensured.markRead actorName lastMessage
    | _, _ => ensured
  let listed := (room.participants.rows.map (·.actorName)).insertionSort (· ≤ ·)
  ({ thread := after.thread
     participant := (after.participants.get actorName, after.states.get actorName)
     participants := listed.filterMap fun name =>
       (after.participants.get name).map fun row =>
         (row, if (room.states.get name).isSome then after.states.get name else none)
     messages := messages }, after)

/-- What a participant submits.  The kind it is registered under, and the key its message is drawn. -/
structure Submission where
  actorName : String
  actorKind : String
  content : String
  drawn : MessageId

def Submission.message (submission : Submission) (sanitize : String → String) (clock : Clock) :
    Message :=
  ⟨submission.drawn, submission.actorName, "claim", sanitize submission.content, clock 1⟩

/-- `submit_participant_message`; a key that is taken raises, and nothing is written. -/
def Room.submitParticipantMessage (sanitize : String → String) (room : Room)
    (submission : Submission) (clock : Clock) : Room :=
  let now := clock 0
  let actorName := submission.actorName
  let message := submission.message sanitize clock
  match room.messages.insert message with
  | none => room
  | some messages =>
      let ensured := (room.ensureParticipant actorName submission.actorKind).ensureParticipantState
        actorName now
      Room.markRead
        { thread :=
            { turnCount := ensured.thread.turnCount + 1
              lastActorName := some actorName
              lastMessagePreview := some (previewText message.content)
              lastMessageAt := some now }
          participants := ensured.participants.modify actorName
            (fun row => { row with
              turnCount := row.turnCount + 1
              lastMessagePreview := some (previewText message.content)
              lastMessageAt := some now }) fun _ => rfl
          states := ensured.states
          messages := messages } actorName message

end OpsCure.ChatRoom
