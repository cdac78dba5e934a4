/-
What reaches the bridge, with what goes out for it: the operations of the services, the
stages of an idle sweep, and the requests to append an event.  Each is a stage or two:
events are recorded, and go out from the state that is left.
-/
import OpsCure.Appending
import OpsCure.Recording

namespace OpsCure.Api

open Fallible Session Contract V2 OperationMirror Chat RemoteTask

/-- What is done in one go, its messages going out when it is over. -/
inductive Deed where
  | openConversation (discordThreadId : String) (request : OpenRequest)
      (clock taskClock : Clock)
  | closeConversation (conversationId : Id) (closedBy resolution : String)
      (summary : Option String) (bypass : Bool) (clock : Clock)
  | adminAbandon (conversationId : Id) (summary : Option String) (clock : Clock)
  | warnIdle (discordThreadId : String) (threshold : Int) (now : Time) (clock : Clock)
  | abandonIdle (conversationId : Id) (summary : String) (clock : Clock)
  | submitSpeech (conversationId : Id) (request : SpeechRequest) (clock : Clock)
  | transferOwner (conversationId : Id) (byActor newOwner : String) (reason : Option String)
      (clock : Clock)
  | emitSystemEvent (conversationId : Id) (kind : String) (addressedToHandle : Option String)
      (repliesToV2EventId : Option EventId) (payload : List (String × Json)) (clock : Clock)
  | coordinate (conversationId : Id) (request : TaskRequest) (clocks : Clocks)
  | remoteTask (call : Call)
  | appendEvent (operationId : Id) (request : EventRequest) (clock finishClock : Clock)

/-- The bridge a deed leaves, whether it goes through or raises. -/
def bridgeStep (api : ApiConfig) (b : Bridge) : Deed → Bridge
  | .openConversation discordThreadId request clock taskClock =>
      (exec (publishing (Chat.openConversation api.chat discordThreadId request clock
        taskClock)) b).2
  | .closeConversation conversationId closedBy resolution summary bypass clock =>
      (exec (publishing (Chat.closeConversation api.chat conversationId closedBy resolution
        summary bypass clock)) b).2
  | .adminAbandon conversationId summary clock =>
      (exec (publishing (Chat.adminAbandon api.chat conversationId summary clock)) b).2
  | .warnIdle discordThreadId threshold now clock =>
      (exec (publishing (transaction fun s =>
        sweepSession api.chat s discordThreadId threshold now clock)) b).2
  | .abandonIdle conversationId summary clock =>
      (exec (publishing (Chat.abandonIdle api.chat conversationId summary clock)) b).2
  | .submitSpeech conversationId request clock =>
      (exec (publishing (Chat.submitSpeech api.chat conversationId request clock)) b).2
  | .transferOwner conversationId byActor newOwner reason clock =>
      (exec (publishing (Chat.transferOwner api.chat conversationId byActor newOwner reason
        clock)) b).2
  | .emitSystemEvent conversationId kind addressedToHandle parent payload clock =>
      (exec (publishing (Chat.emitSystemEvent conversationId kind addressedToHandle parent
        payload clock)) b).2
  | .coordinate conversationId request clocks =>
      (exec (publishingTask (request.perform api.chat conversationId clocks)) b).2
  | .remoteTask call => { b with chat := { b.chat with tasks := step b.chat.tasks call } }
  | .appendEvent operationId request clock finishClock =>
      (exec (Api.appendEvent api operationId request clock finishClock) b).2

/-! ## What a deed pushes -/

/-- From `b` to `c` events are recorded, and the new ones go out to the inboxes, except
those `missed` tells. -/
structure Pushes (missed : EventId → Prop) (b c : Bridge) : Prop where
  recorded : Recorded b.chat c.chat
  inboxes : ∀ item, item ∈ c.inboxes ↔ item ∈ b.inboxes ∨
    ∃ id, b.chat.store.getEvent id = none ∧ ¬ missed id ∧
      item ∈ inboxFanout c.chat.store id.operation id

variable {store : Store} {operationId conversationId : Id} {id : EventId} {b : Bridge}
  {s after t : State} {row : Conversation} {config : Config} {clock : Clock} {api : ApiConfig}
  {request : EventRequest}

variable {item : InboxItem} {deed : Deed} {eventId : Option EventId}

theorem isSome_of_mem_fanout (hitem : item ∈ inboxFanout store operationId id) :
    (store.getEvent id).isSome := by
  unfold inboxFanout at hitem
  cases hevent : store.getEvent id with
  | none =>
      rw [hevent] at hitem
      cases hitem
  | some => rfl

theorem Pushes.of_silent {missed : EventId → Prop} {c : Bridge}
    (hrecorded : Recorded b.chat c.chat) (hmessages : c.chat.messages = b.chat.messages)
    (hinboxes : c.inboxes = b.inboxes) : Pushes missed b c where
  recorded := hrecorded
  inboxes := by
    intro item
    rw [hinboxes]
    constructor
    · exact Or.inl
    · rintro (hold | ⟨id, hnone, _, hitem⟩)
      · exact hold
      · rcases (hrecorded.carried id).mpr ⟨hnone, isSome_of_mem_fanout hitem⟩ with
          ⟨message, hmessage, _⟩
        rw [hmessages, List.drop_length] at hmessage
        cases hmessage

theorem foldl_publishMessage_inboxes (messages : List (Message × Id)) (b : Bridge) :
    (messages.foldl publishMessage b).inboxes = b.inboxes ++ messages.flatMap fun message =>
      message.1.v2EventId.toList.flatMap fun id =>
        inboxFanout b.chat.store id.operation id := by
  induction messages generalizing b with
  | nil => simp
  | cons message messages ih =>
      rw [List.foldl_cons, ih]
      simp [publishMessage]

theorem map_fst_newMessages (s : State) (sent : Nat) :
    (newMessages s sent).map Prod.fst = s.messages.drop sent := by
  rw [newMessages, List.map_drop, List.zipIdx_map_fst]

theorem mem_pushed {messages : List (Message × Id)} :
    (item ∈ messages.flatMap fun message => message.1.v2EventId.toList.flatMap fun id =>
      inboxFanout store id.operation id) ↔
    ∃ id, (∃ message ∈ messages.map Prod.fst, message.v2EventId = some id) ∧
      item ∈ inboxFanout store id.operation id := by
  simp only [List.mem_flatMap, Option.mem_toList, List.mem_map]
  constructor
  · rintro ⟨message, hmessage, id, hid, hitem⟩
    exact ⟨id, ⟨message.1, ⟨message, hmessage, rfl⟩, hid⟩, hitem⟩
  · rintro ⟨id, ⟨_, ⟨message, hmessage, rfl⟩, hid⟩, hitem⟩
    exact ⟨message, hmessage, id, hid, hitem⟩

theorem pushes_publishing {α : Type} {program : Program ChatError State α}
    (hrecorded : Recorded b.chat (exec program b.chat).2)
    (hsilent : KeepsRaising (fun t => t.messages = b.chat.messages) program) :
    Pushes (fun _ => False) b (exec (publishing program) b).2 := by
  rw [exec_publishing_eq]
  rcases hexec : exec program b.chat with ⟨error | value, after⟩
  · rw [hexec] at hrecorded
    exact .of_silent hrecorded (hsilent _ error after rfl hexec) rfl
  · rw [hexec] at hrecorded
    constructor
    · rw [foldl_publishMessage_chat]
      exact hrecorded
    · intro item
      rw [foldl_publishMessage_chat, foldl_publishMessage_inboxes, List.mem_append, mem_pushed,
        map_fst_newMessages]
      apply or_congr_right
      constructor
      · rintro ⟨id, hcarried, hitem⟩
        exact ⟨id, ((hrecorded.carried id).mp hcarried).1, not_false, hitem⟩
      · rintro ⟨id, hnone, _, hitem⟩
        exact ⟨id, (hrecorded.carried id).mpr ⟨hnone, isSome_of_mem_fanout hitem⟩, hitem⟩

/-! ## The operations of the chat service -/

theorem keeps_messages_checkCapability (config : Config) (actorName : String)
    (capability : Capability) (messages : List Message) :
    Keeps (fun t : State => t.messages = messages)
      (checkCapability config actorName capability) := by
  intro s hs
  rw [exec_checkCapability]
  have hasked := (registers_provision config s actorName).messages.trans hs
  by_cases hpermitted : permits config s actorName capability
  · rw [if_pos hpermitted]
    exact hasked
  · rw [if_neg hpermitted]
    exact hasked

theorem silent_closeConversation (config : Config) (conversationId : Id)
    (closedBy resolution : String) (summary : Option String) (bypass : Bool) (clock : Clock)
    (messages : List Message) :
    KeepsRaising (fun t => t.messages = messages)
      (closeConversation config conversationId closedBy resolution summary bypass clock) := by
  unfold closeConversation
  refine keepsRaising_bind (keeps_query _ _) ?_
  intro row
  cases bypass with
  | true => exact keepsRaising_transaction _ _
  | false =>
      refine keepsRaising_bind (keeps_query _ _) ?_
      intro _
      refine keepsRaising_bind (keeps_messages_checkCapability _ _ _ _) ?_
      intro _
      exact keepsRaising_transaction _ _

theorem silent_abandonIdle (config : Config) (conversationId : Id) (summary : String)
    (clock : Clock) (messages : List Message) :
    KeepsRaising (fun t => t.messages = messages)
      (abandonIdle config conversationId summary clock) := by
  refine keepsRaising_bind_returns (silent_closeConversation _ _ _ _ _ _ _ _) ?_
  intro _ s
  rw [exec_transaction]
  cases s.conversations[conversationId]? with
  | none => exact ⟨_, _, rfl⟩
  | some => exact ⟨_, _, rfl⟩

theorem silent_openConversation (config : Config) (discordThreadId : String)
    (request : OpenRequest) (clock taskClock : Clock) (messages : List Message) :
    KeepsRaising (fun t => t.messages = messages)
      (openConversation config discordThreadId request clock taskClock) := by
  unfold openConversation
  refine keepsRaising_bind (keeps_messages_checkCapability _ _ _ _) ?_
  intro _
  refine keepsRaising_bind (keeps_query _ _) ?_
  intro policy
  refine keepsRaising_bind (keeps_query _ _) ?_
  intro threadId
  refine keepsRaising_bind (keeps_transaction ?_) fun _ => keepsRaising_transaction _ _
  intro s value after hs hok
  split at hok
  · cases hok
    exact hs
  · cases hok
    exact hs

theorem silent_submitSpeech (config : Config) (conversationId : Id) (request : SpeechRequest)
    (clock : Clock) (messages : List Message) :
    KeepsRaising (fun t => t.messages = messages)
      (submitSpeech config conversationId request clock) := by
  refine keepsRaising_bind (keeps_messages_checkCapability _ _ _ _) ?_
  intro _
  exact keepsRaising_transaction _ _

theorem silent_transferOwner (config : Config) (conversationId : Id)
    (byActor newOwner : String) (reason : Option String) (clock : Clock)
    (messages : List Message) :
    KeepsRaising (fun t => t.messages = messages)
      (transferOwner config conversationId byActor newOwner reason clock) := by
  refine keepsRaising_bind (keeps_messages_checkCapability _ _ _ _) ?_
  intro _
  exact keepsRaising_transaction _ _

def recordingGates : Gates := ⟨fun _ _ _ => True, fun _ _ => True, fun _ _ _ => True, False⟩

theorem warnSession_writes (config : Config) (s : State) (discordThreadId : String)
    (threshold : Int) (now : Time) (clock : Clock) :
    Writes config s recordingGates s (exec (transaction fun s =>
      sweepSession config s discordThreadId threshold now clock) s).2 := by
  rw [exec_transaction]
  rcases hsession : sweepSession config s discordThreadId threshold now clock with
    error | ⟨abandoned, after⟩
  · exact .refl s
  · exact sweepSession_writes (fun _ _ _ _ => trivial) hsession

def Deed.isService : Deed → Bool
  | .coordinate _ _ _ => false
  | .appendEvent _ _ _ _ => false
  | _ => true

theorem service_writes (api : ApiConfig) (b : Bridge) (hservice : deed.isService) :
    ∃ may, ¬ may.rewrite ∧ Writes api.chat b.chat may b.chat (bridgeStep api b deed).chat := by
  have hmove : ∀ (move : Move) (c : Bridge), c.chat = serviceStep api.chat b.chat move →
      ∃ may, ¬ may.rewrite ∧ Writes api.chat b.chat may b.chat c.chat := by
    intro move c hsame
    refine ⟨move.gates api.chat b.chat, fun hrewrites => hrewrites, ?_⟩
    rw [hsame]
    exact serviceStep_writes api.chat b.chat move
  have hstage : ∀ c : Bridge, Writes api.chat b.chat recordingGates b.chat c.chat →
      ∃ may, ¬ may.rewrite ∧ Writes api.chat b.chat may b.chat c.chat := by
    intro c hwrites
    exact ⟨recordingGates, fun hrewrites => hrewrites, hwrites⟩
  cases deed with
  | openConversation discordThreadId request clock taskClock =>
      exact hmove (.openConversation discordThreadId request clock taskClock) _
        (exec_publishing _ b).2
  | closeConversation conversationId closedBy resolution summary bypass clock =>
      exact hmove (.closeConversation conversationId closedBy resolution summary bypass clock) _
        (exec_publishing _ b).2
  | adminAbandon conversationId summary clock =>
      exact hmove (.adminAbandon conversationId summary clock) _ (exec_publishing _ b).2
  | warnIdle discordThreadId threshold now clock =>
      apply hstage
      rw [bridgeStep, (exec_publishing _ b).2]
      exact warnSession_writes api.chat b.chat discordThreadId threshold now clock
  | abandonIdle conversationId summary clock =>
      apply hstage
      rw [bridgeStep, (exec_publishing _ b).2]
      exact abandonIdle_writes conversationId summary clock b.chat trivial
  | submitSpeech conversationId request clock =>
      exact hmove (.submitSpeech conversationId request clock) _ (exec_publishing _ b).2
  | transferOwner conversationId byActor newOwner reason clock =>
      exact hmove (.transferOwner conversationId byActor newOwner reason clock) _
        (exec_publishing _ b).2
  | emitSystemEvent conversationId kind addressedToHandle parent payload clock =>
      exact hmove (.emitSystemEvent conversationId kind addressedToHandle parent payload clock) _
        (exec_publishing _ b).2
  | coordinate => cases hservice
  | remoteTask call => exact hstage _ (.one (.serves (step b.chat.tasks call)))
  | appendEvent => cases hservice

theorem service_pushes (api : ApiConfig) (b : Bridge) (hservice : deed.isService) :
    Pushes (fun _ => False) b (bridgeStep api b deed) := by
  rcases service_writes api b hservice with ⟨may, hkeeps, hwrites⟩
  have hrecorded := hwrites.recorded hkeeps
  cases deed with
  | openConversation =>
      rw [bridgeStep, (exec_publishing _ b).2] at hrecorded
      exact pushes_publishing hrecorded (silent_openConversation _ _ _ _ _ _)
  | closeConversation =>
      rw [bridgeStep, (exec_publishing _ b).2] at hrecorded
      exact pushes_publishing hrecorded (silent_closeConversation _ _ _ _ _ _ _ _)
  | adminAbandon =>
      rw [bridgeStep, (exec_publishing _ b).2] at hrecorded
      exact pushes_publishing hrecorded (silent_closeConversation _ _ _ _ _ _ _ _)
  | warnIdle =>
      rw [bridgeStep, (exec_publishing _ b).2] at hrecorded
      exact pushes_publishing hrecorded (keepsRaising_transaction _ _)
  | abandonIdle =>
      rw [bridgeStep, (exec_publishing _ b).2] at hrecorded
      exact pushes_publishing hrecorded (silent_abandonIdle _ _ _ _ _)
  | submitSpeech =>
      rw [bridgeStep, (exec_publishing _ b).2] at hrecorded
      exact pushes_publishing hrecorded (silent_submitSpeech _ _ _ _ _)
  | transferOwner =>
      rw [bridgeStep, (exec_publishing _ b).2] at hrecorded
      exact pushes_publishing hrecorded (silent_transferOwner _ _ _ _ _ _ _)
  | emitSystemEvent =>
      rw [bridgeStep, (exec_publishing _ b).2] at hrecorded
      exact pushes_publishing hrecorded (keepsRaising_transaction _ _)
  | coordinate => cases hservice
  | remoteTask => exact .of_silent hrecorded rfl rfl
  | appendEvent => cases hservice

/-! ## The task coordinator -/

def nextEvent (s : State) (conversationId : Id) : Option EventId :=
  (s.conversations[conversationId]?).bind fun row =>
    row.v2OperationId.map fun operationId =>
      { operation := operationId, index := (s.store.log operationId).length }

theorem addMessage_eventId {message : Message} {options : MirrorOptions} {now : Time}
    (hadded : addMessage s row message options now = .ok (after, eventId)) :
    after.messages = s.messages ++ [{ message with v2EventId := eventId }] ∧
      eventId = row.v2OperationId.map fun operationId =>
        { operation := operationId, index := (s.store.log operationId).length } := by
  rcases addMessage_eq_ok.1 hadded with
    ⟨hnone, rfl, rfl⟩ | ⟨operationId, operation, hsome, hoperation, _, rfl, rfl⟩
  · rw [hnone]
    exact ⟨rfl, rfl⟩
  · rw [hsome, Option.map_some, Store.log_eq_of_getOperation hoperation]
    exact ⟨rfl, rfl⟩

theorem echoSession_recorded {emission : Emission} {done : PUnit}
    (hrow : s.conversations[conversationId]? = some row)
    (hopen : emission.targetState ≠ some .closed)
    (hok : echoSession config s conversationId emission clock = .ok (done, after)) :
    Recorded s after ∧
      (∃ echo, after.messages = s.messages ++ [echo] ∧
        echo.v2EventId = nextEvent s conversationId) ∧
      ∀ id, nextEvent s conversationId = some id → ∃ event,
        after.store.getEvent id = some event ∧ event.privateToActorIds = none := by
  simp only [echoSession, hrow, bind_eq_ok, pure_eq_ok, Prod.exists, Prod.mk.injEq] at hok
  rcases hok with ⟨posted, eventId, hadded, attached, hattached, store, hmoved, _, rfl⟩
  have hnoted : Recorded s
      (s.setConversation conversationId (echoRow row emission (clock 0))) :=
    .of_logs List.prefix_rfl (fun _ => rfl) rfl
  have hmoved' : Recorded posted { posted with store := store } := by
    refine .of_logs ?_ ?_ rfl
    · have hmarks := (marks_attachEchoed hattached).trans (marks_moveOperation hopen hmoved)
      rw [hmarks.actors]
    · intro id
      change store.log id = posted.store.log id
      rw [log_moveOperation hmoved, log_attachEchoed hattached]
  rcases addMessage_eventId hadded with ⟨hmessages, heventId⟩
  have hnext : eventId = nextEvent s conversationId := by
    rw [nextEvent, hrow]
    exact heventId
  refine ⟨(hnoted.trans (.of_added hadded)).trans hmoved', ⟨_, hmessages, hnext⟩, ?_⟩
  intro id hid
  rw [hnext, hid] at hadded
  exact ⟨_, hmoved'.extends_store.getEvent (addMessage_getEvent hadded), rfl⟩

theorem exec_publishingTask {α : Type} (program : Program ChatError State α) (b : Bridge) :
    exec (publishingTask program) b = ((exec program b.chat).1,
      publishTask { b with chat := (exec program b.chat).2 }
        (newMessages (exec program b.chat).2 b.chat.messages.length)) := rfl

theorem publishTask_chat (b : Bridge) (messages : List (Message × Id)) :
    (publishTask b messages).chat = b.chat := by
  cases messages with
  | nil => rfl
  | cons echo rest => exact foldl_publishMessage_chat rest _

theorem newMessages_self (hmessages : t.messages = s.messages) :
    newMessages t s.messages.length = [] := by
  rw [newMessages, hmessages]
  apply List.drop_of_length_le
  rw [List.length_zipIdx]

theorem newMessages_cons {u : State} {message : Message}
    (hfirst : t.messages = s.messages ++ [message]) (hrest : t.messages <+: u.messages) :
    newMessages u s.messages.length =
      (message, s.messages.length) :: newMessages u t.messages.length := by
  rcases hrest with ⟨rest, hrest⟩
  have hlength : t.messages.length = s.messages.length + 1 := by
    rw [hfirst, List.length_append, List.length_singleton]
  have hlt : s.messages.length < u.messages.zipIdx.length := by
    rw [List.length_zipIdx, ← hrest, List.length_append, hlength]
    omega
  have hhere : u.messages.zipIdx[s.messages.length] = (message, s.messages.length) := by
    rw [List.getElem_zipIdx, Nat.zero_add]
    simp [← hrest, hfirst]
  rw [newMessages, newMessages, List.drop_eq_getElem_cons hlt, hhere, hlength]

/-- An operation of the coordinator records nothing, or its echo and then a close at most. -/
theorem coordinate_recorded (config : Config) (conversationId : Id) (request : TaskRequest)
    (clocks : Clocks) (s : State) :
    let after := (exec (request.perform config conversationId clocks) s).2
    (Recorded s after ∧ after.messages = s.messages) ∨
      ∃ echoed echo, Recorded s echoed ∧ echoed.messages = s.messages ++ [echo] ∧
        echo.v2EventId = nextEvent s conversationId ∧
        (∀ id, nextEvent s conversationId = some id → ∃ event,
          echoed.store.getEvent id = some event ∧ event.privateToActorIds = none) ∧
        Recorded echoed after := by
  intro after
  rcases perform_stages config conversationId request clocks s with
    ⟨pre, tasks, hregisters, hleft⟩ |
    ⟨taskId, row, pre, tasks, task, echoed, hechoes, hregisters, hecho, hleft⟩
  · left
    have hserved : Recorded s { pre with tasks := tasks } :=
      (Recorded.of_registers hregisters).trans (.of_logs List.prefix_rfl (fun _ => rfl) rfl)
    simp only [after, hleft]
    exact ⟨hserved, hregisters.messages⟩
  · right
    let between : State := { pre with tasks := tasks }
    have hbetween : Recorded s between :=
      (Recorded.of_registers hregisters).trans (.of_logs List.prefix_rfl (fun _ => rfl) rfl)
    have hfound : between.conversations[conversationId]? = some row := by
      change pre.conversations[conversationId]? = some row
      rw [hregisters.conversations]
      exact hechoes.found
    have hopen : ((request.plan config taskId).emission task).targetState ≠ some .closed := by
      rw [plan_targetState]
      exact target_ne_closed request
    have hnext : nextEvent between conversationId = nextEvent s conversationId := by
      have hlogs : between.store.log = s.store.log :=
        funext (Store.log_congr hregisters.operations)
      rw [nextEvent, nextEvent, hfound, hechoes.found, hlogs]
    rcases echoSession_recorded hfound hopen hecho with
      ⟨hechoed, ⟨echo, hmessages, hcarries⟩, hpublic⟩
    rw [hnext] at hcarries hpublic
    refine ⟨echoed, echo, hbetween.trans hechoed, ?_, hcarries, hpublic, ?_⟩
    · rw [hmessages]
      exact congrArg (· ++ [echo]) hregisters.messages
    · simp only [after, hleft, closeSettled_state]
      cases (request.plan config taskId).closing with
      | none => exact .refl echoed
      | some closing =>
          have hwrites : Writes config echoed recordingGates echoed _ :=
            closeConversation_writes conversationId closing.closedBy closing.resolution
              closing.summary true clocks.close echoed fun _ _ => trivial
          exact hwrites.recorded fun hrewrites => hrewrites

theorem coordinate_pushes (api : ApiConfig) (b : Bridge) (conversationId : Id)
    (request : TaskRequest) (clocks : Clocks) :
    Pushes (fun id => nextEvent b.chat conversationId = some id) b
      (bridgeStep api b (.coordinate conversationId request clocks)) := by
  rw [bridgeStep, exec_publishingTask]
  simp only
  rcases coordinate_recorded api.chat conversationId request clocks b.chat with
    ⟨hrecorded, hmessages⟩ | ⟨echoed, echo, hechoed, hmessages, hcarries, _, hclosed⟩
  · rw [newMessages_self hmessages]
    exact .of_silent hrecorded hmessages rfl
  · generalize (exec (request.perform api.chat conversationId clocks) b.chat).2 = after at *
    constructor
    · rw [publishTask_chat]
      exact hechoed.trans hclosed
    · intro item
      rw [newMessages_cons hmessages hclosed.messages, publishTask, foldl_publishMessage_chat,
        foldl_publishMessage_inboxes, List.mem_append, mem_pushed, map_fst_newMessages]
      apply or_congr_right
      have hnew : ∀ id, (echoed.store.getEvent id = none ∧ (after.store.getEvent id).isSome) ↔
          b.chat.store.getEvent id = none ∧ nextEvent b.chat conversationId ≠ some id ∧
            (after.store.getEvent id).isSome := by
        intro id
        have hfirst := hechoed.carried id
        rw [hmessages, List.drop_left] at hfirst
        simp only [List.mem_singleton, exists_eq_left, hcarries] at hfirst
        cases hbefore : b.chat.store.getEvent id with
        | some =>
            rw [hechoed.extends_store.getEvent hbefore]
            simp
        | none =>
            rw [hbefore] at hfirst
            simp only [true_and] at hfirst
            rw [Ne, hfirst, Option.not_isSome_iff_eq_none, eq_self_iff_true, true_and]
      constructor
      · rintro ⟨id, hcarried, hitem⟩
        rcases (hnew id).mp ((hclosed.carried id).mp hcarried) with ⟨hnone, hother, _⟩
        exact ⟨id, hnone, hother, hitem⟩
      · rintro ⟨id, hnone, hother, hitem⟩
        have hthere := isSome_of_mem_fanout hitem
        exact ⟨id, (hclosed.carried id).mpr ((hnew id).mpr ⟨hnone, hother, hthere⟩), hitem⟩

theorem coordinate_echo (api : ApiConfig) (b : Bridge) (conversationId : Id)
    (request : TaskRequest) (clocks : Clocks) {event : Event}
    (hnext : nextEvent b.chat conversationId = some id) (hnew : b.chat.store.getEvent id = none)
    (hevent : (bridgeStep api b (.coordinate conversationId request
      clocks)).chat.store.getEvent id = some event) : event.privateToActorIds = none := by
  rw [bridgeStep, exec_publishingTask, publishTask_chat] at hevent
  rcases coordinate_recorded api.chat conversationId request clocks b.chat with
    ⟨hrecorded, hmessages⟩ | ⟨echoed, echo, _, _, _, hpublic, hclosed⟩
  · have hcarried := (hrecorded.carried id).mpr ⟨hnew, Option.isSome_iff_exists.mpr ⟨_, hevent⟩⟩
    rw [hmessages, List.drop_length] at hcarried
    rcases hcarried with ⟨_, habsurd, _⟩
    cases habsurd
  · rcases hpublic id hnext with ⟨found, hfound, hnone⟩
    have hkept := hclosed.extends_store.getEvent hfound
    rw [Option.some.inj (hevent.symm.trans hkept)]
    exact hnone

/-! ## Coherent bridges -/

/-- Conversations and operations mirror each other, and whoever takes part is registered. -/
structure Ordered (s : State) : Prop where
  mirrored : Mirrored s
  homes : Lawful (fun id _ operation => operation.v1ConversationId = id) s
  enrolled : Enrolled s.store

theorem Ordered.of_fresh (hfresh : Fresh s) : Ordered s where
  mirrored := .of_fresh hfresh
  homes := by
    intro id row operation hmirror
    have hrow := hmirror.conversation
    rw [hfresh.no_conversations] at hrow
    cases hrow
  enrolled := by
    intro id row participant hrow
    rw [Store.getOperation, hfresh.no_operations] at hrow
    cases hrow

theorem Ordered.of_writes {may : Gates} (hordered : Ordered s) (hwrites : Writes config s may s t) :
    Ordered t := by
  have hmirrors := hwrites.keepsMirrors hordered.mirrored hordered.homes
    fun _ _ _ _ _ hbefore hwrote => home_wrote hbefore hwrote
  have henrolled : Enrolled t.store :=
    hwrites.keeps (P := fun u => Enrolled u.store) hordered.enrolled
      fun _ _ hu hwrite => hwrite.enrolled hu
  exact ⟨hmirrors.1, hmirrors.2, henrolled⟩

/-! ## Requests to append an event -/

def keptIntent (request : EventRequest) : Option String :=
  if speechWord request.kind = SpeechKind.ratify.text then payloadIntent request.payload
  else none

/-- What the session after a speech act makes of its event. -/
def finished (request : EventRequest) (event : Event) : Event :=
  { event with
    repliesToEventId := event.repliesToEventId.or request.repliesToEventId
    payload := { event.payload with
      intent := (keptIntent request).or event.payload.intent } }

theorem getEvent_modifyEvent (store : Store) (id other : EventId) (change : Event → Event) :
    (modifyEvent store id change).getEvent other =
      if other = id then (store.getEvent id).map change else store.getEvent other := by
  unfold modifyEvent
  by_cases hoperation : id.operation = other.operation
  · have hlog : (store.modifyOperation id.operation fun row =>
        { row with events := row.events.modify id.index change }).log other.operation =
          (store.log other.operation).modify id.index change := by
      rw [← hoperation, Store.log, Store.getOperation_modifyOperation_self, Store.log]
      cases store.getOperation id.operation with
      | none => simp
      | some => rfl
    rw [Store.getEvent, hlog, List.getElem?_modify]
    by_cases hindex : id.index = other.index
    · have hsame : other = id := by
        cases other
        cases id
        simp only [EventId.mk.injEq]
        exact ⟨hoperation.symm, hindex.symm⟩
      rw [if_pos hsame, hsame, Store.getEvent]
      simp
    · have hother : other ≠ id := fun hsame => hindex (congrArg EventId.index hsame.symm)
      rw [if_neg hother, Store.getEvent]
      simp [hindex]
  · have hother : other ≠ id := fun hsame => hoperation (congrArg EventId.operation hsame.symm)
    rw [if_neg hother, Store.getEvent, Store.log,
      Store.getOperation_modifyOperation_of_ne hoperation]
    rfl

theorem log_attachAll {render : Json → String} {artifacts : List (List (String × Json))}
    {after : Store} (hok : attachAll render store id artifacts clock = .ok after) (other : Id) :
    after.log other = store.log other := by
  unfold attachAll at hok
  generalize artifacts.zipIdx = numbered at hok
  induction numbered generalizing store with
  | nil =>
      cases hok
      rfl
  | cons fields rest ih =>
      rw [List.foldlM_cons, bind_eq_ok] at hok
      rcases hok with ⟨attached, hattached, hrest⟩
      rw [ih hrest]
      rcases attachArtifact_eq_ok hattached with rfl | ⟨artifact, rfl⟩
      · rfl
      · apply Store.log_modifyOperation
        exact fun _ => rfl

theorem getEvent_keepIntent (store : Store) (id other : EventId) (request : EventRequest) :
    (keepIntent store id request).getEvent other =
      if other = id then (store.getEvent id).map fun event =>
        { event with payload := { event.payload with
          intent := (keptIntent request).or event.payload.intent } }
      else store.getEvent other := by
  have hsame : ∀ kept : Option String, kept = none → store.getEvent other =
      if other = id then (store.getEvent id).map fun event =>
        { event with payload := { event.payload with
          intent := kept.or event.payload.intent } }
      else store.getEvent other := by
    rintro _ rfl
    by_cases hother : other = id
    · rw [if_pos hother, hother]
      simp
    · rw [if_neg hother]
  unfold keepIntent keptIntent
  by_cases hratify : speechWord request.kind = SpeechKind.ratify.text
  · rw [if_pos hratify, if_pos hratify]
    cases hintent : payloadIntent request.payload with
    | none => exact hsame none rfl
    | some =>
        rw [patchIntent, getEvent_modifyEvent]
        rfl
  · rw [if_neg hratify, if_neg hratify]
    exact hsame none rfl

theorem getEvent_finishEvent {after : Store}
    (hok : finishEvent api store id request clock = .ok after) (other : EventId) :
    after.getEvent other =
      if other = id then (store.getEvent id).map (finished request)
      else store.getEvent other := by
  simp only [finishEvent, bind_eq_ok, pure_eq_ok] at hok
  rcases hok with ⟨attached, hattached, rfl⟩
  have hlogs : ∀ other, attached.getEvent other =
      (patchReply store id request.repliesToEventId).getEvent other := by
    intro other
    unfold attachEvidence at hattached
    split at hattached
    · simp only [bind_eq_ok, mapError_eq_ok] at hattached
      rcases hattached with ⟨artifacts, _, hall⟩
      rw [Store.getEvent, Store.getEvent, log_attachAll hall]
    · cases hattached
      rfl
  rw [getEvent_keepIntent, hlogs, hlogs, patchReply, getEvent_modifyEvent, getEvent_modifyEvent,
    if_pos rfl]
  by_cases hother : other = id
  · rw [if_pos hother, if_pos hother, Option.map_map]
    rfl
  · rw [if_neg hother, if_neg hother, if_neg hother]

def mayRead (request : EventRequest) (reader : String) : Bool :=
  let readers := (request.privateToActors.getD []).filterMap fun actor =>
    normalizeHandle (some actor)
  readers = [] ∨ reader ∈ readers ∨
    reader = handleOrSystem (some (stripAt request.actorHandle))

theorem checkAppend_speech {speech : SpeechRequest}
    (hok : checkAppend api store operationId request = .ok (conversationId, speech)) :
    speech.repliesToSpeechId = none ∧ speech.repliesToV2EventId = request.repliesToEventId ∧
      speech.privateToActors = request.privateToActors.getD [] ∧
      speech.actorName = stripAt request.actorHandle := by
  simp only [checkAppend, speechRequest, bind_eq_ok, pure_eq_ok, Prod.mk.injEq] at hok
  rcases hok with ⟨_, _, _, _, _, _, _, _, _, _, _, _, _, _, _, ⟨_, _, kind, _, rfl⟩, _, rfl⟩
  exact ⟨rfl, rfl, rfl, rfl⟩

theorem Spoken.recorded {request : SpeechRequest} {effective : Option String} {gated said : State}
    (hspoken : Spoken config s conversationId request clock eventId after row effective gated
      said) :
    eventId = nextEvent s conversationId ∧ ∀ id, eventId = some id → ∃ expected,
      after.store.getEvent id = some (eventOf
        (speechRecord config s conversationId row request expected (clock 1)) (clock 2)) := by
  have hnext : eventId = nextEvent s conversationId := by
    rcases hspoken.speech with ⟨expected, hspeech⟩
    have hlogs : gated.store.log = s.store.log :=
      funext (Store.log_congr hspoken.registered.operations)
    rw [(addMessage_eventId hspeech).2, hlogs, nextEvent, hspoken.passes.found]
    rfl
  refine ⟨hnext, ?_⟩
  rintro id rfl
  rw [nextEvent, hspoken.passes.found, Option.bind_some] at hnext
  rcases Option.map_eq_some_iff.mp hnext.symm with ⟨operationId, hmirror, rfl⟩
  rcases hspoken.log with ⟨expected, hlogs⟩
  rcases hlogs operationId with ⟨warnings, hlog, _⟩
  refine ⟨expected, ?_⟩
  rw [Store.getEvent, hlog, if_pos hmirror, List.singleton_append,
    List.getElem?_append_right le_rfl, Nat.sub_self]
  rfl

theorem visibleTo_speechRecord {speech : SpeechRequest} {expected : Option ExpectedResponse}
    {now sent : Time}
    (hchecked : checkAppend api s.store operationId request = .ok (conversationId, speech))
    (reader : String) :
    visibleTo (some reader) (eventOf (speechRecord api.chat s conversationId row speech expected
      now) sent) = mayRead request reader := by
  rcases checkAppend_speech hchecked with ⟨_, _, hreaders, hauthor⟩
  have hprivate : privateHandles (speechRecord api.chat s conversationId row speech expected
      now) = (request.privateToActors.getD []).filterMap fun actor =>
        normalizeHandle (some actor) := by
    rw [← hreaders]
    rfl
  have hspeaker : (speechRecord api.chat s conversationId row speech expected now).actorName =
      stripAt request.actorHandle := hauthor
  rw [visibleTo, mayRead, eventOf, hprivate, hspeaker]
  simp only
  generalize (request.privateToActors.getD []).filterMap _ = readers
  by_cases hpublic : readers = []
  · simp [hpublic]
  · simp [hpublic, or_comm]

/-- From `b` to `c` the session after a speech act has finished the event `id`. -/
structure Finishes (request : EventRequest) (id : EventId) (b c : Bridge) : Prop where
  inboxes : c.inboxes = b.inboxes
  actors : c.chat.store.actors = b.chat.store.actors
  participants : c.chat.store.listParticipants = b.chat.store.listParticipants
  events : ∀ other, c.chat.store.getEvent other =
    if other = id then (b.chat.store.getEvent id).map (finished request)
    else b.chat.store.getEvent other

theorem finishAppend_finishes {after : Bridge} {body : EventBody}
    (hok : finishAppend api b conversationId (some id) request clock = .ok (body, after)) :
    Finishes request id b after := by
  rcases finishAppend_eq_ok.1 hok with ⟨found, store, event, posts, hid, hstore, _, _, _, rfl⟩
  cases hid
  have hmarks := marks_finishEvent hstore
  refine ⟨rfl, hmarks.actors, ?_, getEvent_finishEvent hstore⟩
  funext operationId
  change store.listParticipants operationId = _
  rw [Store.listParticipants, Store.listParticipants]
  cases hrow : b.chat.store.getOperation operationId with
  | some row =>
      rcases hmarks.rows operationId row hrow with ⟨marked, hmarked, hremains⟩
      rw [hmarked, Option.map_some, Option.map_some, hremains.participants]
  | none =>
      cases hmarked : store.getOperation operationId with
      | none => rfl
      | some =>
          rcases hmarks.unmarked hmarked with ⟨row, hrow', _⟩
          rw [hrow] at hrow'
          cases hrow'

/-- A request to append an event pushes what it records, and that is all unless its act is
accepted and the rest of it goes through; then the event of the act is finished after it was
pushed. -/
inductive Appends (api : ApiConfig) (operationId : Id) (request : EventRequest) (b c : Bridge) :
    Prop
  | left (hpushes : Pushes (fun _ => False) b c)
      (hleft : ∀ operation id, b.chat.store.getOperation operationId = some operation →
        nextEvent b.chat operation.v1ConversationId = some id →
        (c.chat.store.getEvent id).isSome →
        ¬ Completable api b.chat operation.v1ConversationId request)
  | finished (operation : V2.Operation) (id : EventId) (event : Event) (posted : Bridge)
      (hoperation : b.chat.store.getOperation operationId = some operation)
      (hcompletable : Completable api b.chat operation.v1ConversationId request)
      (hpushes : Pushes (fun _ => False) b posted)
      (hnext : nextEvent b.chat operation.v1ConversationId = some id)
      (hevent : posted.chat.store.getEvent id = some event)
      (hreply : event.repliesToEventId = request.repliesToEventId)
      (hintent : event.payload.intent = none)
      (hvisible : ∀ reader, visibleTo (some reader) event = mayRead request reader)
      (hfinishes : Finishes request id posted c)

theorem getEvent_nextEvent (hnext : nextEvent s conversationId = some id) :
    s.store.getEvent id = none := by
  rcases Option.bind_eq_some_iff.mp hnext with ⟨row, _, hmirror⟩
  rcases Option.map_eq_some_iff.mp hmirror with ⟨operationId, _, rfl⟩
  exact List.getElem?_eq_none le_rfl

theorem appendEvent_appends (api : ApiConfig) (hordered : Ordered b.chat) (operationId : Id)
    (request : EventRequest) (clock finishClock : Clock) :
    Appends api operationId request b
      (bridgeStep api b (.appendEvent operationId request clock finishClock)) := by
  have hrefused : ∀ c : Bridge, Registers b.chat c.chat → c.inboxes = b.inboxes →
      Appends api operationId request b c := by
    intro c hregisters hquiet
    apply Appends.left (.of_silent (.of_registers hregisters) hregisters.messages hquiet)
    intro operation id _ hnext hthere
    rw [hregisters.getEvent, getEvent_nextEvent hnext] at hthere
    cases hthere
  rw [bridgeStep]
  cases appendEvent_outcome api operationId request clock finishClock b with
  | unchecked error hchecked hexec =>
      rw [hexec]
      exact hrefused b (.refl b.chat) rfl
  | refused conversationId speech error after hchecked hrefusal hregisters hquiet hexec =>
      rw [hexec]
      exact hrefused after hregisters hquiet
  | spoken conversationId speech eventId posted row effective gated said hchecked hspoken
      hposted hexec =>
      rw [hexec]
      have hpushes : Pushes (fun _ => False) b posted := by
        have hservice : Pushes (fun _ => False) b
            (bridgeStep api b (.submitSpeech conversationId speech clock)) :=
          service_pushes api b rfl
        rw [bridgeStep, ← hposted] at hservice
        exact hservice
      rcases checkAppend_conversation hchecked with ⟨operation, hoperation, hhome⟩
      rcases hspoken.event hordered.mirrored with ⟨id, rfl, _, hthere⟩
      rcases Spoken.recorded hspoken with ⟨hnext, hrecorded⟩
      rcases hrecorded id rfl with ⟨expected, hevent⟩
      have hcompletable : Completable api posted.chat conversationId request ↔
          Completable api b.chat operation.v1ConversationId request := by
        rw [hhome]
        constructor
        · rintro ⟨hattached, hforwarded⟩
          rw [discordThread_spoken hspoken] at hforwarded
          exact ⟨hattached, hforwarded⟩
        · rintro ⟨hattached, hforwarded⟩
          rw [← discordThread_spoken hspoken] at hforwarded
          exact ⟨hattached, hforwarded⟩
      cases hfinished : finishAppend api posted conversationId (some id) request finishClock with
      | error =>
          apply Appends.left hpushes
          intro found _ hfound _ _ hcompletes
          rw [hoperation] at hfound
          cases hfound
          rcases (finishAppend_isOk_iff hthere).mpr (hcompletable.mpr hcompletes) with
            ⟨result, hok⟩
          rw [hfinished] at hok
          cases hok
      | ok =>
          have hcompletes := hcompletable.mp ((finishAppend_isOk_iff hthere).mp ⟨_, hfinished⟩)
          rcases checkAppend_speech hchecked with ⟨hquiet, hreply, _, _⟩
          refine .finished operation id _ posted hoperation hcompletes hpushes ?_ hevent ?_ rfl
            ?_ (finishAppend_finishes hfinished)
          · rw [hhome]
            exact hnext.symm
          · change parentEvent b.chat speech.repliesToSpeechId speech.repliesToV2EventId = _
            rw [hquiet, hreply]
            rfl
          · exact fun reader => visibleTo_speechRecord hchecked reader

end OpsCure.Api
