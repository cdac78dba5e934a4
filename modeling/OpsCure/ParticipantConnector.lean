/-
The chat participant connector (`connectors/chat_participant/connector.py`): a poll reads the
messages behind the connector's cursor, passes the newest one by somebody else through the reply
gate, asks the runtime for a reply when the gate lets it, and moves the cursor past all of them.
-/
import OpsCure.HandoffText
import OpsCure.Library.Run

namespace OpsCure.ChatParticipant

open SessionService

/-- What the connector takes from the standard library: the two case mappings, and the digest of a
text's bytes. -/
structure Python where
  lower : String → String
  upper : String → String
  sha256 : String → List UInt8

/-! ## Messages and participants -/

structure Message where
  id : String
  actorName : String
  content : String
deriving DecidableEq, Repr

/-- A participant of the delta or an actor of the space: either pair of keys may hold the name and
the kind, an absent value is empty. -/
structure Participant where
  actorName : String
  name : String
  actorKind : String
  kind : String
deriving DecidableEq, Repr

/-- `item.get("actor_name") or item.get("name")`. -/
def Participant.shownName (participant : Participant) : String :=
  if participant.actorName = "" then participant.name else participant.actorName

/-- `item.get("actor_kind") or item.get("kind")`. -/
def Participant.shownKind (participant : Participant) : String :=
  if participant.actorKind = "" then participant.kind else participant.actorKind

structure ChatParticipantConfig where
  actorName : String
  actorKind : String := "ai"
  allowUnprompted : Bool := true
deriving Repr

/-! ## Texts -/

def progressNoticeKo : String := "확인했다. 지금 바로 확인하고 진행 중이다. 끝나면 여기 보고하겠다."

def progressNoticeEn : String :=
  "I saw the request and I'm working on it now. I'll report back here when I have a concrete result."

def failureNoticeKoPrefix : String := "작업을 진행하다가 오류가 났다:"

def failureNoticeEnPrefix : String := "I hit an error while working on it:"

def noReplyMessageTags : List String := ["INFO", "END", "CONTROL"]

/-- What stands between the brackets a text starts with, and what follows them. -/
def messageTagParts (content : String) : Option (String × String) :=
  match content.toList.dropWhile Text.isSpace with
  | '[' :: rest =>
      let inside := rest.takeWhile (· ≠ ']')
      match rest.dropWhile (· ≠ ']') with
      | [] => none
      | _ :: after =>
          if inside = [] then none
          else some (String.ofList inside, String.ofList (after.dropWhile Text.isSpace))
  | _ => none

def extractMessageTag (python : Python) (content : String) : Option String :=
  match messageTagParts content with
  | none => none
  | some (inside, _) =>
      let candidate := python.upper (Text.strip inside)
      if candidate = "" then none else some candidate

def stripMessageTag (content : String) : String :=
  match messageTagParts content with
  | none => content
  | some (_, after) => after

def normalizeText (python : Python) (content : String) : String :=
  Text.collapse (python.lower (stripMessageTag content))

def controlMarkers : List String :=
  ["다 대화 멈춰", "대답도 하지마", "대답하지 마", "응답하지 마", "말하지 마", "조용히",
    "stop talking", "stop replying", "don't reply", "do not reply", "be quiet",
    "silence this room"]

def isControlMessage (python : Python) (content : String) : Bool :=
  let lowered := normalizeText python content
  lowered ∈ ["멈춰", "stop"] || controlMarkers.any (mentions lowered)

def isExplicitlyTargeted (python : Python) (config : ChatParticipantConfig)
    (content : String) : Bool :=
  let lowered := python.lower (stripMessageTag content)
  let actor := python.lower config.actorName
  mentions lowered ("@" ++ actor) || startsWith lowered (actor ++ ":") ||
    mentions lowered ("[" ++ actor ++ "]")

def isProgressNoticeText (python : Python) (content : String) : Bool :=
  normalizeText python content ∈
    [normalizeText python progressNoticeKo, normalizeText python progressNoticeEn]

def isFailureNoticeText (python : Python) (content : String) : Bool :=
  let normalized := normalizeText python content
  startsWith normalized (normalizeText python failureNoticeKoPrefix) ||
    startsWith normalized (normalizeText python failureNoticeEnPrefix)

def acknowledgementMarkers : List String :=
  ["좋다", "알겠다", "확인했다", "sounds good", "got it", "understood"]

def planningMarkers : List String :=
  ["내 쪽은", "나는 ", "우선순위는", "집중한다", "계속 본다", "맡는다", "순서로 간다", "커밋",
    "해시", "테스트 결과", "회귀", "확인 포인트", "그 기준으로", "다시 올리겠다", "공유하겠다",
    "넘기겠다", "i will", "my side", "priority is", "commit", "hash", "test results",
    "regression", "i'll verify", "i will verify", "report back", "share only"]

def isPlanningChurnText (python : Python) (content : String) : Bool :=
  let normalized := normalizeText python content
  let hasAcknowledgement := acknowledgementMarkers.any (mentions normalized)
  let planningHits := planningMarkers.countP (mentions normalized)
  let hasNumberedList := ["1.", "2.", "3.", "4.", "5.", "6.", "7."].any (mentions normalized)
  normalized ≠ "" &&
    (2 ≤ planningHits || (hasAcknowledgement && (1 ≤ planningHits || hasNumberedList)))

def looksLikeKorean (content : String) : Bool :=
  content.toList.any fun c => '가' ≤ c && c ≤ '힣'

/-! ## The reply gate -/

/-- The newest message by somebody else. -/
def selectTargetMessage (config : ChatParticipantConfig) (messages : List Message) :
    Option Message :=
  messages.reverse.find? fun message => message.actorName ≠ config.actorName

def actorKindForMessage (target : Message) (participants : List Participant) : Option String :=
  (participants.find? fun participant => participant.shownName = target.actorName).map
    Participant.shownKind

def isMeaninglessAiEcho (python : Python) (target : Message)
    (recentMessages : List Message) : Bool :=
  let content := normalizeText python target.content
  let repeatedActors := ((recentMessages.filter fun message =>
    normalizeText python message.content = content).map Message.actorName).dedup
  content = "" || isProgressNoticeText python content || isFailureNoticeText python content ||
    isPlanningChurnText python content || 2 ≤ repeatedActors.length

/-- `int.from_bytes(digest[:4], "big")`. -/
def fromBytes (digest : List UInt8) : Nat :=
  (digest.take 4).foldl (fun value byte => 256 * value + byte.toNat) 0

/-- The AI participants that may take an unprompted turn. -/
def aiNames (participants : List Participant) : List String :=
  (((participants.filter fun item => item.shownKind = "ai" && item.shownName ≠ "").map
    Participant.shownName).dedup).insertionSort (· ≤ ·)

def claimsUnpromptedTurn (python : Python) (config : ChatParticipantConfig) (target : Message)
    (participants : List Participant) : Bool :=
  let listed := aiNames participants
  let names := if config.actorName ∈ listed then listed
    else (listed ++ [config.actorName]).insertionSort (· ≤ ·)
  let claimSeed := if target.id = "" then target.actorName ++ ":" ++ target.content else target.id
  listed = [] || names.length = 1 ||
    names[fromBytes (python.sha256 claimSeed) % names.length]? = some config.actorName

/-- `_reply_gate_reason`: why a message gets no reply; `none` lets it through. -/
def replyGateReason (python : Python) (config : ChatParticipantConfig) (target : Message)
    (participants : List Participant) (recentMessages : List Message) : Option String :=
  let content := target.content
  let messageTag := extractMessageTag python content
  if isControlMessage python content || messageTag = some "CONTROL" then some "control_message"
  else if messageTag.any (· ∈ noReplyMessageTags) then some "message_type_no_reply"
  else if isExplicitlyTargeted python config content then none
  else if actorKindForMessage target participants = some "ai" then
    if isMeaninglessAiEcho python target recentMessages then some "ai_echo_message"
    else match messageTag with
      | none => some "untagged_ai_message"
      | some tag =>
          if tag ∈ ["QUESTION", "HANDOFF"] then some "not_addressed_to_actor"
          else if tag = "TASK" then some "not_addressed_to_actor"
          else some "message_type_no_reply"
  else if messageTag = some "HANDOFF" then some "not_addressed_to_actor"
  else if !config.allowUnprompted then some "not_addressed_to_actor"
  else if !claimsUnpromptedTurn python config target participants then
    some "turn_claimed_by_other_participant"
  else none

/-! ## Notices and replies -/

/-- An exception: `str(error)` and the name of its class. -/
structure Failure where
  text : String
  className : String
deriving DecidableEq, Repr

structure TurnActivityEvidence where
  itemTypes : List String
  commandExecutionCount : Nat
  readCommandCount : Nat
  writeCommandCount : Nat
  testCommandCount : Nat
  otherActivityCount : Nat
deriving DecidableEq, Repr

def TurnActivityEvidence.hasWorkSignal (activity : TurnActivityEvidence) : Bool :=
  0 < activity.commandExecutionCount || 0 < activity.otherActivityCount

structure ReplyResult where
  content : String
  activity : Option TurnActivityEvidence
deriving DecidableEq, Repr

def buildProgressNotice (target : Message) : String :=
  "[INFO] " ++ if looksLikeKorean target.content then progressNoticeKo else progressNoticeEn

def buildFailureNotice (target : Message) (error : Failure) : String :=
  let collapsed := Text.collapse error.text
  let detail := if collapsed = "" then error.className else collapsed
  let shown := if looksLikeKorean target.content then failureNoticeKoPrefix
    else failureNoticeEnPrefix
  "[END] " ++ shown ++ " " ++ String.ofList (detail.toList.take 200)

/-- `_should_emit_progress_notice`, and `_should_append_activity_evidence`: the message is not by an
AI participant. -/
def fromNoAi (target : Message) (participants : List Participant) : Bool :=
  actorKindForMessage target participants ≠ some "ai"

def ensureMessageTag (python : Python) (replyContent : String) : String :=
  if (extractMessageTag python replyContent).isSome then replyContent
  else Text.strip ("[END] " ++ Text.strip replyContent)

def buildActivityEvidenceLine (target : Message) :
    Option TurnActivityEvidence → String
  | none =>
      if looksLikeKorean target.content then
        "증거 기준: 이번 turn에서 명령/도구 흔적을 확인하지 못했다."
      else "Evidence: I could not confirm any command or tool activity in this turn."
  | some activity =>
      let itemTypes := if activity.itemTypes = [] then "none"
        else ", ".intercalate activity.itemTypes
      if !activity.hasWorkSignal then
        if looksLikeKorean target.content then
          "증거 기준: 이번 turn에서 명령/도구 사용 없음. item=" ++ itemTypes
        else "Evidence: no command or tool activity in this turn. items=" ++ itemTypes
      else if looksLikeKorean target.content then
        "증거 기준: 명령 " ++ toString activity.commandExecutionCount ++ "회, 읽기 " ++
          toString activity.readCommandCount ++ "회, 수정 " ++
          toString activity.writeCommandCount ++ "회, 테스트 " ++
          toString activity.testCommandCount ++ "회, 기타 활동 " ++
          toString activity.otherActivityCount ++ "회. item=" ++ itemTypes
      else
        "Evidence: " ++ toString activity.commandExecutionCount ++ " commands, " ++
          toString activity.readCommandCount ++ " read-like, " ++
          toString activity.writeCommandCount ++ " write-like, " ++
          toString activity.testCommandCount ++ " test-like, " ++
          toString activity.otherActivityCount ++ " other activity items. items=" ++ itemTypes

/-- `text.rstrip()`. -/
def rstrip (text : String) : String :=
  String.ofList (text.toList.reverse.dropWhile Text.isSpace).reverse

def decorateReplyContent (python : Python) (reply : ReplyResult) (target : Message)
    (participants : List Participant) : String :=
  let content := ensureMessageTag python reply.content
  if fromNoAi target participants then
    Text.strip (rstrip content ++ "\n\n" ++ buildActivityEvidenceLine target reply.activity)
  else content

/-! ## Polls -/

/-- A room, the messages in their order, and the connector's place in it: the messages its cursor
has passed, and those behind which the runtime has been asked for a reply. -/
structure Room where
  messages : List Message
  cursor : Nat
  asked : Nat
deriving DecidableEq, Repr

def Room.empty : Room := ⟨[], 0, 0⟩

/-- What a poll meets: the number of messages in its delta, the participants and the actors listed
with it, what the runtime answers and whether it takes longer than the notice waits, and the ids of
the messages the poll submits, `none` where the submission fails. -/
structure Poll where
  size : Nat
  participants : List Participant
  actors : List Participant
  reply : Except Failure (Option ReplyResult)
  slow : Bool
  noticeId : Option String
  failureId : Option String
  replyId : Option String

/-- `delta.get("participants") or actors.get("actors") or []`. -/
def Poll.present (poll : Poll) : List Participant :=
  if poll.participants = [] then poll.actors else poll.participants

inductive SyncError where
  | runtime (error : Failure)
  | submission
deriving DecidableEq, Repr

structure ChatSyncResult where
  status : String
  reason : String
  repliedMessageId : Option String := none
  seenMessageId : Option String := none
  progressMessageId : Option String := none
deriving DecidableEq, Repr

/-- The messages behind the cursor, as many as the poll is given. -/
def Room.delta (room : Room) (size : Nat) : List Message :=
  (room.messages.drop room.cursor).take size

def Room.setCursor (room : Room) (cursor : Nat) : Room :=
  { room with cursor := cursor }

/-- The runtime has been asked behind the first `place` messages. -/
def Room.ask (room : Room) (place : Nat) : Room :=
  { room with asked := max room.asked place }

def Room.submitChatMessage (room : Room) (config : ChatParticipantConfig) (content : String) :
    Option String → Except SyncError String × Room
  | none => (.error .submission, room)
  | some id =>
      (.ok id, { room with messages := room.messages ++ [⟨id, config.actorName, content⟩] })

/-- The end of `_generate_reply_with_progress`: the worker has been joined. -/
def Poll.joinWorker (poll : Poll) (config : ChatParticipantConfig) (target : Message)
    (progressId : Option String) (room : Room) :
    Except SyncError (Option ReplyResult × Option String) × Room :=
  match poll.reply, progressId with
  | .ok reply, _ => (.ok (reply, progressId), room)
  | .error error, none => (.error (.runtime error), room)
  | .error error, some _ =>
      match room.submitChatMessage config (buildFailureNotice target error) poll.failureId with
      | (.error failed, room) => (.error failed, room)
      | (.ok _, room) => (.error (.runtime error), room)

def Poll.generateReplyWithProgress (poll : Poll) (config : ChatParticipantConfig)
    (target : Message) (room : Room) :
    Except SyncError (Option ReplyResult × Option String) × Room :=
  if fromNoAi target poll.present && poll.slow then
    match room.submitChatMessage config (buildProgressNotice target) poll.noticeId with
    | (.error failed, room) => (.error failed, room)
    | (.ok id, room) => poll.joinWorker config target (some id) room
  else poll.joinWorker config target none room

def Poll.submitReply (python : Python) (config : ChatParticipantConfig) (poll : Poll)
    (target : Message) (seen : String) (reply : Option ReplyResult) (progressId : Option String)
    (room : Room) : Except SyncError ChatSyncResult × Room :=
  match reply.filter fun reply => Text.strip reply.content ≠ "" with
  | none =>
      (.ok {
        status := "skipped"
        reason := "runtime_returned_no_reply"
        seenMessageId := some seen
        progressMessageId := progressId }, room)
  | some reply =>
      match room.submitChatMessage config
          (decorateReplyContent python reply target poll.present) poll.replyId with
      | (.error failed, room) => (.error failed, room)
      | (.ok id, room) =>
          (.ok {
            status := "replied"
            reason := "reply_submitted"
            repliedMessageId := some id
            seenMessageId := some seen
            progressMessageId := progressId }, room)

def syncOnce (python : Python) (config : ChatParticipantConfig) (room : Room) (poll : Poll) :
    Except SyncError ChatSyncResult × Room :=
  let messages := room.delta poll.size
  match messages.getLast? with
  | none => (.ok { status := "idle", reason := "no_unread_messages" }, room)
  | some latest =>
      let passed := room.cursor + messages.length
      match selectTargetMessage config messages with
      | none =>
          (.ok {
            status := "skipped"
            reason := "self_only_messages"
            seenMessageId := some latest.id }, room.setCursor passed)
      | some target =>
          match replyGateReason python config target poll.present messages with
          | some reason =>
              (.ok {
                status := "skipped"
                reason := reason
                seenMessageId := some latest.id }, room.setCursor passed)
          | none =>
              match poll.generateReplyWithProgress config target (room.ask passed) with
              | (.error error, room) => (.error error, room)
              | (.ok (reply, progressId), room) =>
                  poll.submitReply python config target latest.id reply progressId
                    (room.setCursor passed)

/-! ## Runs -/

/-- A message comes into the room, or the connector polls. -/
inductive Op where
  | arrives (message : Message)
  | polls (poll : Poll)

def step (python : Python) (config : ChatParticipantConfig) (room : Room) : Op → Room
  | .arrives message => { room with messages := room.messages ++ [message] }
  | .polls poll => (syncOnce python config room poll).2

end OpsCure.ChatParticipant
