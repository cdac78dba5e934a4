/-
What the services write, one write at a time.  Whatever an act does to the chat state, it
does by writes of a few kinds, and the messages it posts are those its gates let through;
what holds of every run is read off these kinds.
-/
import OpsCure.Openings
import OpsCure.System
import Mathlib.Logic.Relation

namespace OpsCure

open Fallible Session Contract V2 OperationMirror RemoteTask

/-! ## Marks on a store -/

namespace V2

/-- What an event says, short of its payload: who, what kind, and to whom. -/
def Event.said (event : Event) : String × String × List String :=
  (event.actorId, event.kind, event.addressedToActorIds)

def replyAt (events : List Event) (index : Nat) : Option EventId :=
  events[index]?.bind (·.repliesToEventId)

/-- `marked` is `row` with the same conversation, participants and policy, the same log up
to payloads and replies added, and closed as before. -/
structure Operation.Remains (row marked : Operation) : Prop where
  home : marked.v1ConversationId = row.v1ConversationId
  participants : marked.participants = row.participants
  policy : marked.policy = row.policy
  resolution : marked.resolution = row.resolution
  closed : marked.state = .closed ↔ row.state = .closed
  said : marked.events.map Event.said = row.events.map Event.said
  replies : ∀ index parent, replyAt row.events index = some parent →
    replyAt marked.events index = some parent

theorem Operation.Remains.refl (row : Operation) : row.Remains row where
  home := rfl
  participants := rfl
  policy := rfl
  resolution := rfl
  closed := Iff.rfl
  said := rfl
  replies := fun _ _ hreply => hreply

theorem Operation.Remains.trans {row middle marked : Operation}
    (hfirst : row.Remains middle) (hsecond : middle.Remains marked) : row.Remains marked where
  home := hsecond.home.trans hfirst.home
  participants := hsecond.participants.trans hfirst.participants
  policy := hsecond.policy.trans hfirst.policy
  resolution := hsecond.resolution.trans hfirst.resolution
  closed := hsecond.closed.trans hfirst.closed
  said := hsecond.said.trans hfirst.said
  replies := fun index parent hreply =>
    hsecond.replies index parent (hfirst.replies index parent hreply)

/-- `after` has the actors and the operations of `before`, the latter with marks at most. -/
structure Store.Marks (before after : Store) : Prop where
  actors : after.actors = before.actors
  length : after.operations.length = before.operations.length
  rows : ∀ id row, before.getOperation id = some row →
    ∃ marked, after.getOperation id = some marked ∧ row.Remains marked

namespace Store.Marks

theorem refl (store : Store) : store.Marks store where
  actors := rfl
  length := rfl
  rows := fun _ row hrow => ⟨row, hrow, .refl row⟩

theorem trans {before middle after : Store} (hfirst : before.Marks middle)
    (hsecond : middle.Marks after) : before.Marks after where
  actors := hsecond.actors.trans hfirst.actors
  length := hsecond.length.trans hfirst.length
  rows := by
    intro id row hrow
    rcases hfirst.rows id row hrow with ⟨between, hbetween, hremains⟩
    rcases hsecond.rows id between hbetween with ⟨marked, hmarked, hremains'⟩
    exact ⟨marked, hmarked, hremains.trans hremains'⟩

variable {id : Id}

theorem modifyOperation {store : Store} {change : Operation → Operation}
    (hchange : ∀ row, store.getOperation id = some row → row.Remains (change row)) :
    store.Marks (store.modifyOperation id change) where
  actors := rfl
  length := by simp [Store.modifyOperation]
  rows := by
    intro other row hrow
    by_cases hsame : id = other
    · subst hsame
      refine ⟨change row, ?_, hchange row hrow⟩
      rw [Store.getOperation_modifyOperation_self, hrow]
      rfl
    · refine ⟨row, ?_, .refl row⟩
      rw [Store.getOperation_modifyOperation_of_ne hsame]
      exact hrow

theorem unmarked {before after : Store} (hmarks : before.Marks after) {marked : Operation}
    (hmarked : after.getOperation id = some marked) :
    ∃ row, before.getOperation id = some row ∧ row.Remains marked := by
  have hlt : id < before.operations.length := by
    rw [← hmarks.length]
    exact (List.getElem?_eq_some_iff.mp hmarked).1
  have hrow : before.getOperation id = some before.operations[id] :=
    List.getElem?_eq_getElem hlt
  rcases hmarks.rows id _ hrow with ⟨found, hfound, hremains⟩
  rw [hmarked] at hfound
  cases hfound
  exact ⟨_, hrow, hremains⟩

end Store.Marks

end V2

namespace OperationMirror

theorem marks_insertArtifact (store : Store) (operationId : Id) (artifact : Artifact) :
    store.Marks (store.insertArtifact operationId artifact) := by
  apply Store.Marks.modifyOperation
  intro row _
  exact ⟨rfl, rfl, rfl, rfl, Iff.rfl, rfl, fun _ _ hreply => hreply⟩

theorem marks_attachArtifact {render : Json → String} {store after : Store} {id : EventId}
    {fields : Json} {now : Time}
    (hok : attachArtifact render store id fields now = .ok after) : store.Marks after := by
  rcases attachArtifact_eq_ok hok with rfl | ⟨artifact, rfl⟩
  · exact .refl _
  · exact marks_insertArtifact store id.operation artifact

theorem marks_transitionState {store after : Store} {operationId : Id} {toState : OpState}
    {now : Time} (hopen : toState ≠ .closed)
    (hok : transitionState store operationId toState now = .ok after) :
    store.Marks after := by
  unfold transitionState at hok
  cases hoperation : store.getOperation operationId with
  | none =>
      rw [hoperation] at hok
      cases hok
      exact .refl _
  | some operation =>
      rw [hoperation] at hok
      by_cases hsame : operation.state = toState
      · simp only [hsame, if_true] at hok
        cases hok
        exact .refl _
      · simp only [hsame, if_false, bind_eq_ok, pure_eq_ok] at hok
        rcases hok with ⟨_, hassert, rfl⟩
        rcases StateMachine.assertTransition_eq_ok_iff.1 hassert with ⟨targets, hallowed, _⟩
        apply Store.Marks.modifyOperation
        intro row hrow
        rw [hoperation] at hrow
        cases hrow
        refine ⟨rfl, rfl, rfl, rfl, ?_, rfl, fun _ _ hreply => hreply⟩
        exact iff_of_false hopen (Chat.allowedTransitions_closed hallowed).1

end OperationMirror

namespace Api

variable {id : EventId} {clock : Clock}

theorem marks_modifyEvent {store : Store} {change : Event → Event}
    (hsaid : ∀ event, (change event).said = event.said)
    (hreplies : ∀ event parent, event.repliesToEventId = some parent →
      (change event).repliesToEventId = some parent) :
    store.Marks (modifyEvent store id change) := by
  apply Store.Marks.modifyOperation
  intro row _
  refine ⟨rfl, rfl, rfl, rfl, Iff.rfl, ?_, ?_⟩
  · apply List.ext_getElem?
    intro other
    rw [List.getElem?_map, List.getElem?_map, List.getElem?_modify]
    by_cases hsame : id.index = other
    · simp [hsame, Function.comp_def, hsaid]
    · simp [hsame]
  · intro other parent hreply
    rw [replyAt, Option.bind_eq_some_iff] at hreply
    rcases hreply with ⟨event, hevent, hparent⟩
    rw [replyAt, List.getElem?_modify, hevent]
    by_cases hsame : id.index = other
    · simp [hsame, hreplies event parent hparent]
    · simp [hsame, hparent]

theorem marks_attachAll {render : Json → String} {artifacts : List (List (String × Json))}
    {store after : Store} (hok : attachAll render store id artifacts clock = .ok after) :
    store.Marks after := by
  unfold attachAll at hok
  generalize artifacts.zipIdx = numbered at hok
  induction numbered generalizing store with
  | nil =>
      cases hok
      exact .refl _
  | cons fields rest ih =>
      rw [List.foldlM_cons, bind_eq_ok] at hok
      rcases hok with ⟨attached, hattached, hrest⟩
      exact (marks_attachArtifact hattached).trans (ih hrest)

theorem marks_keepIntent (store : Store) (id : EventId) (request : EventRequest) :
    store.Marks (keepIntent store id request) := by
  unfold keepIntent patchIntent
  split
  · split
    · exact .refl _
    · exact marks_modifyEvent (fun _ => rfl) fun _ _ hreply => hreply
  · exact .refl _

theorem marks_finishEvent {api : ApiConfig} {store after : Store} {request : EventRequest}
    (hok : finishEvent api store id request clock = .ok after) : store.Marks after := by
  simp only [finishEvent, bind_eq_ok, pure_eq_ok] at hok
  rcases hok with ⟨attached, hattached, rfl⟩
  have hreply : store.Marks (patchReply store id request.repliesToEventId) := by
    refine marks_modifyEvent (fun _ => rfl) ?_
    intro event parent hparent
    simp only [hparent, Option.some_or]
  refine (hreply.trans ?_).trans (marks_keepIntent attached id request)
  unfold attachEvidence at hattached
  split at hattached
  · simp only [bind_eq_ok, mapError_eq_ok] at hattached
    rcases hattached with ⟨artifacts, _, hall⟩
    exact marks_attachAll hall
  · cases hattached
    exact .refl _

end Api

namespace Chat

/-! ## The gates -/

structure SpeechPasses (config : Config) (s : State) (conversationId : Id)
    (request : SpeechRequest) (row : Conversation) (effective : Option String) : Prop where
  permitted : permits config s request.actorName .speechSubmit
  found : s.conversations[conversationId]? = some row
  opened : row.state ≠ .closed
  addressed : computeEffectiveAddr (primaryAddress request) request.expectedResponse =
    .ok effective
  replied : request.repliesToSpeechId.all (· < s.messages.length)
  expected : ∃ expected, validateExpectedResponse request.expectedResponse = .ok expected
  policy : ∃ gated, checkSpeechPolicy (provision config s request.actorName) row request =
    .ok gated
  mirrored : ∀ operationId, row.v2OperationId = some operationId →
    (s.store.getOperation operationId).isSome ∧
      (parentEvent s request.repliesToSpeechId request.repliesToV2EventId).all fun id =>
        (s.store.getEvent id).isSome

structure HandoffPasses (config : Config) (s : State) (conversationId : Id)
    (byActor : String) (row : Conversation) : Prop where
  permitted : permits config s byActor .conversationHandoff
  found : s.conversations[conversationId]? = some row
  not_general : row.isGeneral = false
  opened : row.state ≠ .closed
  unbound : row.boundTaskId = none
  authorized : isCloser row byActor
  mirrored : ∀ operationId, row.v2OperationId = some operationId →
    (s.store.getOperation operationId).isSome

/-- The gates of a close; a bypassing one has those of the conversation and of the state
machine only. -/
structure ClosePasses (config : Config) (s : State) (conversationId : Id)
    (closedBy resolution : String) (bypass : Bool) (row : Conversation) : Prop where
  closable : requireClosable s conversationId = .ok row
  by_hand : bypass = false → isResolutionAllowed row.kind resolution ∧ isCloser row closedBy ∧
    permits config s closedBy .conversationCloseOpener ∧
    PolicyLets (provision config s closedBy) row closedBy resolution ∧
    TaskSettled config s row
  admitted : ∀ operationId, row.v2OperationId = some operationId →
    Closable s.store operationId resolution bypass

structure EchoPasses (config : Config) (s : State) (conversationId taskId : Id)
    (request : TaskRequest) (clocks : Clocks) (row : Conversation) : Prop where
  passes : request.Passes config s conversationId taskId
  accepted : Accepts s.tasks taskId ⟨(request.plan config taskId).operation, clocks.remote⟩
  found : s.conversations[conversationId]? = some row
  follows : OperationFollows s.store row request.target

/-- The gates of a system event: the conversation, and the event it replies to. -/
structure EmitPasses (s : State) (conversationId : Id) (parent : Option EventId)
    (row : Conversation) : Prop where
  found : s.conversations[conversationId]? = some row
  mirrored : ∀ operationId, row.v2OperationId = some operationId →
    (s.store.getOperation operationId).isSome ∧
      parent.all fun id => (s.store.getEvent id).isSome

/-! ## What a move may do -/

inductive MayPost (config : Config) (s : State) : Move → Id → String → String → Prop
  | spoke {conversationId : Id} {request : SpeechRequest} {clock : Clock}
      {row : Conversation} {effective : Option String}
      (hpasses : SpeechPasses config s conversationId request row effective) :
      MayPost config s (.submitSpeech conversationId request clock) conversationId
        request.actorName (speechEventKind request.kind)
  | overSpoke {conversationId : Id} {request : SpeechRequest} {clock : Clock}
      {row : Conversation} {effective : Option String}
      (hpasses : SpeechPasses config s conversationId request row effective)
      (htrips : (takeTurn config.policy row request.actorName effective).2 = true) :
      MayPost config s (.submitSpeech conversationId request clock) conversationId "system"
        eventConversationOverSpeech
  | handedOff {conversationId : Id} {byActor newOwner : String} {reason : Option String}
      {clock : Clock} {row : Conversation}
      (hpasses : HandoffPasses config s conversationId byActor row) :
      MayPost config s (.transferOwner conversationId byActor newOwner reason clock)
        conversationId byActor eventConversationHandoff
  | warned {discordThreadId : String} {idleThresholdSeconds : Int} {now : Time}
      {clock : Clock} {closeClock : Nat → Clock} {threadId : Id} {row : Conversation × Id}
      (hthreshold : 0 < idleThresholdSeconds)
      (hthread : findThread s discordThreadId = some threadId)
      (hidle : row ∈ idleRows config s threadId (max 0 idleThresholdSeconds) now) :
      MayPost config s
        (.sweepIdle discordThreadId idleThresholdSeconds now clock closeClock) row.2 "system"
        eventConversationIdleWarning
  | emitted {conversationId : Id} {kind : String} {addressedToHandle : Option String}
      {parent : Option EventId} {payload : List (String × Json)} {clock : Clock}
      {row : Conversation} (hpasses : EmitPasses s conversationId parent row) :
      MayPost config s
        (.emitSystemEvent conversationId kind addressedToHandle parent payload clock)
        conversationId "system" kind
  | echoed {conversationId taskId : Id} {request : TaskRequest} {clocks : Clocks}
      {row : Conversation} {task : Task}
      (hpasses : EchoPasses config s conversationId taskId request clocks row) :
      MayPost config s (.coordinate conversationId request clocks) conversationId
        ((request.plan config taskId).emission task).actorName
        ((request.plan config taskId).emission task).eventKind

inductive MayClose (config : Config) (s : State) : Move → Id → String → Prop
  | closed {conversationId : Id} {closedBy resolution : String} {summary : Option String}
      {bypass : Bool} {clock : Clock} {row : Conversation}
      (hpasses : ClosePasses config s conversationId closedBy resolution bypass row) :
      MayClose config s
        (.closeConversation conversationId closedBy resolution summary bypass clock)
        conversationId closedBy
  | adminAbandoned {conversationId : Id} {summary : Option String} {clock : Clock}
      {row : Conversation}
      (hpasses : ClosePasses config s conversationId "system" "abandoned" true row) :
      MayClose config s (.adminAbandon conversationId summary clock) conversationId "system"
  | abandoned {discordThreadId : String} {idleThresholdSeconds : Int} {now : Time}
      {clock : Clock} {closeClock : Nat → Clock} {conversationId : Id}
      (hthreshold : 0 < idleThresholdSeconds)
      (hidle : conversationId ∈
        abandonedBy config s discordThreadId (max 0 idleThresholdSeconds) now) :
      MayClose config s
        (.sweepIdle discordThreadId idleThresholdSeconds now clock closeClock) conversationId
        "system"
  | settled {conversationId taskId : Id} {request : TaskRequest} {clocks : Clocks}
      {row : Conversation} {closing : Closing}
      (hpasses : EchoPasses config s conversationId taskId request clocks row)
      (hclosing : (request.plan config taskId).closing = some closing)
      (hopen : row.state ≠ .closed) :
      MayClose config s (.coordinate conversationId request clocks) conversationId
        closing.closedBy

theorem MayClose.closable {config : Config} {s : State} {move : Move} {conversationId : Id}
    {closedBy : String} (hmay : MayClose config s move conversationId closedBy) :
    ∃ row, s.conversations[conversationId]? = some row ∧ row.state ≠ .closed := by
  cases hmay with
  | closed hpasses =>
      rcases requireClosable_eq_ok.1 hpasses.closable with ⟨hfound, _, hopen⟩
      exact ⟨_, hfound, hopen⟩
  | adminAbandoned hpasses =>
      rcases requireClosable_eq_ok.1 hpasses.closable with ⟨hfound, _, hopen⟩
      exact ⟨_, hfound, hopen⟩
  | abandoned hthreshold hidle =>
      rcases closable_of_abandonedBy hidle with ⟨row, hrow⟩
      rcases requireClosable_eq_ok.1 hrow with ⟨hfound, _, hopen⟩
      exact ⟨row, hfound, hopen⟩
  | settled hpasses hclosing hopen => exact ⟨_, hpasses.found, hopen⟩

/-- Who is expected to speak next, and how many spoke out of turn. -/
def Conversation.gauge (row : Conversation) : Option String × Nat :=
  (row.expectedSpeaker, row.unaddressedSpeechCount)

inductive MayTurn (config : Config) (s : State) :
    Move → Id → Option String × Nat → Option String × Nat → Prop
  | spoke {conversationId : Id} {request : SpeechRequest} {clock : Clock}
      {row : Conversation} {effective : Option String}
      (hpasses : SpeechPasses config s conversationId request row effective) :
      MayTurn config s (.submitSpeech conversationId request clock) conversationId row.gauge
        (takeTurn config.policy row request.actorName effective).1.gauge
  | handedOff {conversationId : Id} {byActor newOwner : String} {reason : Option String}
      {clock : Clock} {row : Conversation}
      (hpasses : HandoffPasses config s conversationId byActor row) :
      MayTurn config s (.transferOwner conversationId byActor newOwner reason clock)
        conversationId row.gauge (some newOwner, row.unaddressedSpeechCount)
  | echoed {conversationId taskId : Id} {request : TaskRequest} {clocks : Clocks}
      {row : Conversation} {task : Task} {now : Time}
      (hpasses : EchoPasses config s conversationId taskId request clocks row) :
      MayTurn config s (.coordinate conversationId request clocks) conversationId row.gauge
        (echoRow row ((request.plan config taskId).emission task) now).gauge

/-- What an act may do to the conversations that are there: post into them, close them,
set their turn-taking columns, and rewrite their events. -/
structure Gates where
  post : Id → String → String → Prop
  close : Id → String → Prop
  turn : Id → Option String × Nat → Option String × Nat → Prop
  rewrite : Prop

def Move.gates (config : Config) (s : State) (move : Move) : Gates :=
  ⟨MayPost config s move, MayClose config s move, MayTurn config s move, False⟩

/-! ## The kinds of writes -/

/-- What a bookkeeping write leaves alone of a conversation. -/
def Conversation.charter (row : Conversation) :
    ConversationState × Option String × Option Id × String :=
  (row.state, row.resolution, row.v2OperationId, row.openerActor)

def governed (s : State) (row : Conversation) (policy : OperationPolicy) (now set : Time) :
    State :=
  { addConversation s row now with
    store := (addConversation s row now).store.setOperationPolicy s.store.operations.length
      policy set }

/-- One write, from a state `s` of an act that began in `s₀` and may do what `may` tells. -/
inductive Write (config : Config) (s₀ : State) (may : Gates) (s : State) : State → Prop
  | registers {t : State} (hregisters : Registers s t) : Write config s₀ may s t
  | serves (tasks : Db) : Write config s₀ may s { s with tasks := tasks }
  | marks (store : Store) (hmarks : s.store.Marks store)
      (hlogs : may.rewrite ∨ ∀ id, store.log id = s.store.log id) :
      Write config s₀ may s { s with store := store }
  /-- A general conversation. -/
  | opens (row : Conversation) (now : Time) (hopened : row.state = .opened)
      (hunresolved : row.resolution = none) (hunowned : row.ownerActor = none)
      (hunaddressed : row.expectedSpeaker = none) (hquiet : row.unaddressedSpeechCount = 0) :
      Write config s₀ may s (addConversation s row now)
  | notes {conversationId : Id} {row old : Conversation}
      (hold : s.conversations[conversationId]? = some old)
      (hsame : row.charter = old.charter)
      (hturn : row.gauge = old.gauge ∨ may.turn conversationId old.gauge row.gauge) :
      Write config s₀ may s (s.setConversation conversationId row)
  /-- A new conversation, with the message that announces it. -/
  | announces {row : Conversation} {policy : OperationPolicy} {now set : Time}
      {message : Message} {options : MirrorOptions} {sent : Time} {t : State}
      {eventId : Option EventId}
      (hopened : row.state = .opened) (hunresolved : row.resolution = none)
      (hquiet : row.unaddressedSpeechCount = 0)
      (hauthor : message.actorName = row.openerActor)
      (hkind : message.eventKind = eventConversationOpened)
      (haddressed : message.addressedTo = row.expectedSpeaker)
      (hadded : addMessage (governed s row policy now set)
        { row with v2OperationId := some s.store.operations.length } message options sent =
          .ok (t, eventId)) :
      Write config s₀ may s t
  /-- A message in a conversation that was there before the act. -/
  | posts {conversationId : Id} {row₀ row : Conversation} {message : Message}
      {options : MirrorOptions} {now : Time} {t : State} {eventId : Option EventId}
      (hknown : s₀.conversations[conversationId]? = some row₀)
      (hfound : s.conversations[conversationId]? = some row)
      (hstate : row.state = row₀.state)
      (hmay : may.post conversationId message.actorName message.eventKind)
      (hadded : addMessage s row message options now = .ok (t, eventId)) :
      Write config s₀ may s t
  /-- The close of a conversation, with its message. -/
  | closes {conversationId : Id} {row : Conversation} {closedBy resolution : String}
      {summary : Option String} {bypass : Bool} {clock : Clock} {result : Summary}
      {t : State}
      (hfound : s.conversations[conversationId]? = some row)
      (hopen : row.state ≠ .closed)
      (hmay : may.close conversationId closedBy)
      (hclosed : closeSession config s conversationId row closedBy resolution summary bypass
        clock = .ok (result, t)) :
      Write config s₀ may s t

def Writes (config : Config) (s₀ : State) (may : Gates) : State → State → Prop :=
  Relation.ReflTransGen (Write config s₀ may)

end Chat

end OpsCure
