/-
Overlooked messages (`connectors/chat_participant/connector.py`, `sync_once`): the reply gate sees
only the newest message by somebody else, yet the cursor passes the whole delta.  Which messages
that call for a reply a poll leaves behind unanswered, and which failed submissions it passes over.
-/
import OpsCure.ParticipantConnector

namespace OpsCure.ChatParticipant

open Run

variable {python : Python} {config : ChatParticipantConfig} {room : Room} {poll : Poll}

/-! ## What a poll does to the cursor -/

/-- The connector's place in the room is the same. -/
structure Stays (before after : Room) : Prop where
  cursor : after.cursor = before.cursor
  asked : after.asked = before.asked

theorem Stays.trans {first second third : Room} (hfirst : Stays first second)
    (hsecond : Stays second third) : Stays first third :=
  ⟨hsecond.cursor.trans hfirst.cursor, hsecond.asked.trans hfirst.asked⟩

theorem submitChatMessage_stays (content : String) (id : Option String) :
    Stays room (room.submitChatMessage config content id).2 := by
  cases id with
  | none => exact ⟨rfl, rfl⟩
  | some => exact ⟨rfl, rfl⟩

theorem joinWorker_stays (target : Message) (progressId : Option String) :
    Stays room (poll.joinWorker config target progressId room).2 := by
  unfold Poll.joinWorker
  split
  · exact ⟨rfl, rfl⟩
  · exact ⟨rfl, rfl⟩
  · next error _ _ =>
      have hstays := @submitChatMessage_stays config room (buildFailureNotice target error)
        poll.failureId
      split
      · next hsubmit =>
          rw [hsubmit] at hstays
          exact hstays
      · next hsubmit =>
          rw [hsubmit] at hstays
          exact hstays

/-- Asking the runtime moves nothing by itself, whatever notices are submitted meanwhile. -/
theorem generateReplyWithProgress_stays (target : Message) :
    Stays room (poll.generateReplyWithProgress config target room).2 := by
  unfold Poll.generateReplyWithProgress
  split
  · have hstays := @submitChatMessage_stays config room (buildProgressNotice target) poll.noticeId
    split
    · next hsubmit =>
        rw [hsubmit] at hstays
        exact hstays
    · next hsubmit =>
        rw [hsubmit] at hstays
        exact hstays.trans (joinWorker_stays target _)
  · exact joinWorker_stays target none

theorem submitReply_stays (target : Message) (seen : String) (reply : Option ReplyResult)
    (progressId : Option String) :
    Stays room (poll.submitReply python config target seen reply progressId room).2 := by
  unfold Poll.submitReply
  split
  · exact ⟨rfl, rfl⟩
  · next reply _ =>
      have hstays := @submitChatMessage_stays config room
        (decorateReplyContent python reply target poll.present) poll.replyId
      split
      · next hsubmit =>
          rw [hsubmit] at hstays
          exact hstays
      · next hsubmit =>
          rw [hsubmit] at hstays
          exact hstays

theorem generateReplyWithProgress_eq_ok {target : Message} {reply : Option ReplyResult} :
    (∃ progressId, (poll.generateReplyWithProgress config target room).1 =
        .ok (reply, progressId)) ↔
      poll.reply = .ok reply ∧
        ((fromNoAi target poll.present && poll.slow) = true → poll.noticeId ≠ none) := by
  have hjoin : ∀ progressId room, (∃ shown, (poll.joinWorker config target progressId room).1 =
      .ok (reply, shown)) ↔ poll.reply = .ok reply := by
    intro progressId room
    unfold Poll.joinWorker
    split
    · next answer hanswer => simp [hanswer]
    · next hanswer => simp [hanswer]
    · next hanswer =>
        split
        · simp [hanswer]
        · simp [hanswer]
  unfold Poll.generateReplyWithProgress
  split
  · next hdue =>
      cases hnotice : poll.noticeId with
      | none => simp [Room.submitChatMessage, hdue]
      | some => simp [Room.submitChatMessage, hjoin]
  · next hdue => simp [hjoin, hdue]

theorem submitReply_eq_submission {target : Message} {seen : String}
    {reply : Option ReplyResult} {progressId : Option String} :
    (poll.submitReply python config target seen reply progressId room).1 = .error .submission ↔
      (∃ spoken, reply = some spoken ∧ Text.strip spoken.content ≠ "") ∧ poll.replyId = none := by
  unfold Poll.submitReply
  split
  · next hfilter =>
      have hblank : ∀ spoken, reply = some spoken → Text.strip spoken.content = "" := by
        simpa [Option.filter_eq_none_iff] using hfilter
      constructor
      · intro hok
        cases hok
      · intro hboth
        obtain ⟨⟨spoken, hspoken, hsome⟩, _⟩ := hboth
        exact absurd (hblank spoken hspoken) hsome
  · next spoken hfilter =>
      rw [Option.filter_eq_some_iff] at hfilter
      have hsome : Text.strip spoken.content ≠ "" := by simpa using hfilter.2
      cases hid : poll.replyId with
      | none => simp [Room.submitChatMessage, hfilter.1, hsome]
      | some => simp [Room.submitChatMessage]

/-! ## What a message is owed -/

/-- The gate lets the newest message by somebody else through. -/
def Accepted (python : Python) (config : ChatParticipantConfig) (poll : Poll)
    (messages : List Message) (target : Message) : Prop :=
  selectTargetMessage config messages = some target ∧
    replyGateReason python config target poll.present messages = none

/-- The message at a place is by somebody else, and the gate would let it through were it the
newest. -/
def Calls (python : Python) (config : ChatParticipantConfig) (poll : Poll)
    (messages : List Message) (place : Nat) : Prop :=
  ∃ message, messages[place]? = some message ∧ message.actorName ≠ config.actorName ∧
    replyGateReason python config message poll.present (messages.take (place + 1)) = none

/-- What is asked of a poll: before the cursor passes a message that calls for a reply, the runtime
has been asked behind it, and a submission that fails leaves the cursor where it was. -/
structure PollAnswers (python : Python) (config : ChatParticipantConfig) (room : Room)
    (poll : Poll) : Prop where
  attempted : ∀ place, Calls python config poll (room.delta poll.size) place →
    room.cursor + place < (syncOnce python config room poll).2.cursor →
    room.cursor + place < (syncOnce python config room poll).2.asked
  kept : (syncOnce python config room poll).1 = .error .submission →
    (syncOnce python config room poll).2.cursor = room.cursor

/-- The runtime gives a reply with content, after a notice that got through if one is due. -/
structure Speaks (poll : Poll) (target : Message) (reply : ReplyResult) : Prop where
  replied : poll.reply = .ok (some reply)
  noticed : (fromNoAi target poll.present && poll.slow) = true → poll.noticeId ≠ none
  spoken : Text.strip reply.content ≠ ""

/-- A poll that overlooks nothing: when a message of its delta calls for a reply and the runtime has
not been asked behind it, the gate lets the newest one through; and a reply with content is
submitted. -/
structure PollHears (python : Python) (config : ChatParticipantConfig) (room : Room)
    (poll : Poll) : Prop where
  newest : (∃ place, Calls python config poll (room.delta poll.size) place ∧
      room.asked ≤ room.cursor + place) →
    ∃ target, Accepted python config poll (room.delta poll.size) target
  delivered : ∀ target reply, Accepted python config poll (room.delta poll.size) target →
    Speaks poll target reply → poll.replyId ≠ none

/-! ## Polls -/

theorem lt_length_of_calls {messages : List Message} {place : Nat}
    (hcalls : Calls python config poll messages place) : place < messages.length := by
  obtain ⟨message, hat, _⟩ := hcalls
  exact (List.getElem?_eq_some_iff.mp hat).1

theorem syncOnce_of_not_accepted
    (hnone : ∀ target, ¬ Accepted python config poll (room.delta poll.size) target) :
    (syncOnce python config room poll).2 =
        room.setCursor (room.cursor + (room.delta poll.size).length) ∧
      (syncOnce python config room poll).1 ≠ .error .submission := by
  unfold syncOnce
  dsimp only
  split
  · next hempty =>
      rw [List.getLast?_eq_none_iff] at hempty
      rw [hempty]
      exact ⟨rfl, nofun⟩
  · split
    · exact ⟨rfl, nofun⟩
    · next target htarget =>
        split
        · exact ⟨rfl, nofun⟩
        · next hgate => exact absurd ⟨htarget, hgate⟩ (hnone target)

theorem delta_ne_nil_of_accepted {messages : List Message} {target : Message}
    (haccepted : Accepted python config poll messages target) : messages ≠ [] := by
  intro hnil
  have hselect := haccepted.1
  rw [hnil] at hselect
  cases hselect

/-- With one, the runtime is asked behind the whole delta, and the cursor stays on a failed
submission unless it is the reply that failed. -/
theorem syncOnce_of_accepted {target : Message}
    (haccepted : Accepted python config poll (room.delta poll.size) target) :
    (syncOnce python config room poll).2.asked =
        max room.asked (room.cursor + (room.delta poll.size).length) ∧
      (((syncOnce python config room poll).1 = .error .submission →
          (syncOnce python config room poll).2.cursor = room.cursor) ↔
        ∀ reply, Speaks poll target reply → poll.replyId ≠ none) := by
  have hlength := List.length_pos_iff.mpr (delta_ne_nil_of_accepted haccepted)
  obtain ⟨latest, hlatest⟩ :=
    Option.ne_none_iff_exists'.mp (mt List.getLast?_eq_none_iff.mp
      (delta_ne_nil_of_accepted haccepted))
  have hstays := @generateReplyWithProgress_stays config
    (room.ask (room.cursor + (room.delta poll.size).length)) poll target
  have hok := fun reply => @generateReplyWithProgress_eq_ok config
    (room.ask (room.cursor + (room.delta poll.size).length)) poll target reply
  unfold syncOnce
  simp only [hlatest, haccepted.1, haccepted.2]
  generalize poll.generateReplyWithProgress config target
    (room.ask (room.cursor + (room.delta poll.size).length)) = asking at hstays hok ⊢
  obtain ⟨result, after⟩ := asking
  cases result with
  | error =>
      refine ⟨hstays.asked, ?_⟩
      have hsilent : ∀ reply, ¬ Speaks poll target reply := by
        intro reply hspeaks
        obtain ⟨progressId, hresult⟩ := (hok (some reply)).mpr ⟨hspeaks.replied, hspeaks.noticed⟩
        cases hresult
      constructor
      · intro _ reply hspeaks
        exact absurd hspeaks (hsilent reply)
      · intro _ _
        exact hstays.cursor
  | ok answer =>
      obtain ⟨reply, progressId⟩ := answer
      obtain ⟨hreply, hnoticed⟩ := (hok reply).mp ⟨progressId, rfl⟩
      dsimp only
      have hplace := @submitReply_stays python config
        (after.setCursor (room.cursor + (room.delta poll.size).length)) poll target latest.id reply
        progressId
      refine ⟨hplace.asked.trans hstays.asked, ?_⟩
      have hmoved : (poll.submitReply python config target latest.id reply progressId
          (after.setCursor (room.cursor + (room.delta poll.size).length))).2.cursor ≠
            room.cursor := by
        rw [hplace.cursor]
        have hcursor : (after.setCursor (room.cursor + (room.delta poll.size).length)).cursor =
          room.cursor + (room.delta poll.size).length := rfl
        omega
      constructor
      · intro hkept spoken hspeaks hlost
        apply hmoved
        apply hkept
        apply submitReply_eq_submission.2
        refine ⟨⟨spoken, ?_, hspeaks.spoken⟩, hlost⟩
        rw [hspeaks.replied] at hreply
        exact (Except.ok.inj hreply).symm
      · intro hdelivered hfailed
        obtain ⟨⟨spoken, hspoken, hsome⟩, hlost⟩ := submitReply_eq_submission.1 hfailed
        rw [hspoken] at hreply
        exact absurd hlost (hdelivered spoken ⟨hreply, hnoticed, hsome⟩)

/-! ## The law of a poll -/

theorem pollAnswers_iff : PollAnswers python config room poll ↔
    PollHears python config room poll := by
  by_cases haccepted : ∃ target, Accepted python config poll (room.delta poll.size) target
  · obtain ⟨target, htarget⟩ := haccepted
    obtain ⟨hasked, hkept⟩ := syncOnce_of_accepted htarget
    constructor
    · intro hanswers
      refine ⟨fun _ => ⟨target, htarget⟩, ?_⟩
      intro other reply hother hspeaks
      have hsame : other = target := Option.some.inj (hother.1.symm.trans htarget.1)
      rw [hsame] at hspeaks
      exact hkept.mp hanswers.kept reply hspeaks
    · intro hhears
      refine ⟨?_, hkept.mpr (fun reply => hhears.delivered target reply htarget)⟩
      intro place hcalls _
      have hplace := lt_length_of_calls hcalls
      rw [hasked]
      omega
  · have hnone : ∀ target, ¬ Accepted python config poll (room.delta poll.size) target :=
      fun target htarget => haccepted ⟨target, htarget⟩
    obtain ⟨hroom, hresult⟩ := syncOnce_of_not_accepted hnone
    constructor
    · intro hanswers
      refine ⟨?_, fun target _ htarget => absurd htarget (hnone target)⟩
      intro hcalled
      obtain ⟨place, hcalls, hbehind⟩ := hcalled
      have hplace := lt_length_of_calls hcalls
      have hattempted := hanswers.attempted place hcalls
      rw [hroom] at hattempted
      have hpassed : room.cursor + place < room.asked :=
        hattempted (by
          have hcursor : (room.setCursor (room.cursor + (room.delta poll.size).length)).cursor =
            room.cursor + (room.delta poll.size).length := rfl
          omega)
      omega
    · intro hhears
      refine ⟨?_, fun hfailed => absurd hfailed hresult⟩
      intro place hcalls _
      rw [hroom]
      by_contra hbehind
      exact haccepted (hhears.newest ⟨place, hcalls, Nat.le_of_not_lt hbehind⟩)

/-- What is asked of a step of a run; a message that comes in leaves the cursor alone. -/
def Answers (python : Python) (config : ChatParticipantConfig) (room : Room) : Op → Prop
  | .arrives message => (step python config room (.arrives message)).cursor = room.cursor
  | .polls poll => PollAnswers python config room poll

def Hears (python : Python) (config : ChatParticipantConfig) (room : Room) : Op → Prop
  | .arrives _ => True
  | .polls poll => PollHears python config room poll

theorem answers_iff {op : Op} : Answers python config room op ↔ Hears python config room op := by
  cases op with
  | arrives => exact iff_of_true rfl trivial
  | polls => exact pollAnswers_iff

/-- Over every sequence of messages and every way polls cut it, each message that calls for a reply
is followed by an attempt before the cursor passes it, and failed submissions leave the cursor,
exactly when no poll overlooks a message and no reply fails to be submitted. -/
theorem run_answers_iff (python : Python) (config : ChatParticipantConfig) (ops : List Op) :
    Along (step python config) (Answers python config) Room.empty ops ↔
      Along (step python config) (Hears python config) Room.empty ops := by
  constructor
  · intro hall done op hop
    exact answers_iff.mp (hall done op hop)
  · intro hall done op hop
    exact answers_iff.mpr (hall done op hop)

/-! ## Two polls -/

def samplePython : Python where
  lower := Text.lower
  upper := fun text => String.ofList (text.toList.map Char.toUpper)
  sha256 := fun _ => []

def sampleConfig : ChatParticipantConfig where
  actorName := "codex-b"

def addressed : Message := ⟨"m1", "operator", "@codex-b hello"⟩

def remark : Message := ⟨"m2", "operator", "[INFO] on it"⟩

/-- A poll whose runtime would answer, given both messages. -/
def lateRemark : Poll where
  size := 20
  participants := []
  actors := []
  reply := .ok (some ⟨"hello", none⟩)
  slow := false
  noticeId := none
  failureId := none
  replyId := some "m3"

def lostReply : Poll := { lateRemark with replyId := none }

/-- A message addressed to the connector is passed without an attempt when a remark follows it in
the same delta, and a reply that cannot be submitted moves the cursor. -/
theorem addressed_message_overlooked :
    ¬ Along (step samplePython sampleConfig) (Answers samplePython sampleConfig) Room.empty
        [.arrives addressed, .arrives remark, .polls lateRemark] ∧
      ¬ Along (step samplePython sampleConfig) (Answers samplePython sampleConfig) Room.empty
        [.arrives addressed, .polls lostReply] := by
  constructor
  · intro hall
    have hanswers : PollAnswers samplePython sampleConfig ⟨[addressed, remark], 0, 0⟩ lateRemark :=
      hall [.arrives addressed, .arrives remark] (.polls lateRemark) ⟨[], rfl⟩
    have hcalls : Calls samplePython sampleConfig lateRemark
        (Room.delta ⟨[addressed, remark], 0, 0⟩ 20) 0 :=
      ⟨addressed, rfl, by decide, by decide +kernel⟩
    exact absurd (hanswers.attempted 0 hcalls (by decide +kernel)) (by decide +kernel)
  · intro hall
    have hanswers : PollAnswers samplePython sampleConfig ⟨[addressed], 0, 0⟩ lostReply :=
      hall [.arrives addressed] (.polls lostReply) ⟨[], rfl⟩
    have hmoved : (syncOnce samplePython sampleConfig ⟨[addressed], 0, 0⟩ lostReply).1 =
          .error .submission ∧
        (syncOnce samplePython sampleConfig ⟨[addressed], 0, 0⟩ lostReply).2.cursor = 1 :=
      ⟨by decide +kernel, by decide +kernel⟩
    exact absurd ((hanswers.kept hmoved.1).symm.trans hmoved.2) (by decide)

end OpsCure.ChatParticipant
