/-
Who answers a speech event.  The bridge designates a responder (`kernel/v2/contract.py`,
`infer_implicit_responder`) and nudges it; the Python agent loop (`agent_loop.py`,
`_enqueue_event`) and the TypeScript agent (`agent.ts`, `shouldRespond`) decide for
themselves which of the events they receive they reply to.
-/
import OpsCure.HandoffText
import OpsCure.ProgressionSweeper

namespace OpsCure.Routing

open Contract Progression SessionService V2

abbrev ActorId := { text : String // text ≠ "" }

/-- What an inbox stream says of an event, as far as the clients route by it. -/
structure Envelope where
  eventId : EventId
  kind : String
  actorId : String
  addressedToActorIds : List String
  expectedResponse : Option ExpectedResponse
deriving DecidableEq

def envelopeOf (eventId : EventId) (event : Event) : Envelope where
  eventId := eventId
  kind := event.kind
  actorId := event.actorId
  addressedToActorIds := event.addressedToActorIds
  expectedResponse := event.payload.expectedResponse

/-- The envelope of the nudge the sweeper sends an actor: the system's, addressed to that actor
alone. -/
def nudgeTo (nudgeId : EventId) (system : String) (target : ActorId) : Envelope where
  eventId := nudgeId
  kind := emittedKind .nudge
  actorId := system
  addressedToActorIds := [target.val]
  expectedResponse := none

/-! ## The two clients -/

/-- The state of a `BridgeAgentLoop` its routing reads and writes. -/
structure AgentLoop where
  actorHandle : String
  actorId : Option ActorId
  seenEventIds : List EventId
  eventQueue : List Envelope

/-- The response gate of `_enqueue_event`: the speaker's `expected_response` lists the handle
of the loop, or there is none and the event is addressed to its actor. -/
def AgentLoop.isAsked (loop : AgentLoop) (event : Envelope) : Bool :=
  match event.expectedResponse with
  | some expected => loop.actorHandle ∈ expected.fromActorHandles
  | none =>
      event.addressedToActorIds ≠ [] && loop.actorId.all (·.val ∈ event.addressedToActorIds)

/-- `_enqueue_event`. -/
def AgentLoop.enqueueEvent (loop : AgentLoop) (event : Envelope) : AgentLoop :=
  if ¬ startsWith event.kind "chat.speech." then loop
  else if loop.actorId.any (·.val = event.actorId) then loop
  else if ¬ loop.isAsked event then loop
  else if event.eventId ∈ loop.seenEventIds then loop
  else
    { loop with
      seenEventIds := event.eventId :: loop.seenEventIds
      eventQueue := loop.eventQueue ++ [event] }

def AgentLoop.Queues (loop : AgentLoop) (event : Envelope) : Prop :=
  (loop.enqueueEvent event).eventQueue = loop.eventQueue ++ [event]

/-- The state of an `Agent` of the TypeScript client. -/
structure Agent where
  actorHandle : String
  actorId : Option ActorId

/-- The last two rules of `shouldRespond`. -/
def Agent.isAsked (agent : Agent) (envelope : Envelope) : Bool :=
  match envelope.expectedResponse with
  | some expected => agent.actorHandle ∈ expected.fromActorHandles
  | none =>
      if envelope.addressedToActorIds.length = 0 then false
      else agent.actorId.any (·.val ∈ envelope.addressedToActorIds)

/-- `shouldRespond`. -/
def Agent.shouldRespond (agent : Agent) (envelope : Envelope) : Bool :=
  if ¬ startsWith envelope.kind "chat.speech." then false
  else if agent.actorId.any (·.val = envelope.actorId) then false
  else agent.isAsked envelope

theorem queues_iff {loop : AgentLoop} {event : Envelope}
    (hunseen : event.eventId ∉ loop.seenEventIds) :
    loop.Queues event ↔ startsWith event.kind "chat.speech." ∧
      loop.actorId.any (·.val = event.actorId) = false ∧ loop.isAsked event := by
  have hstays : ¬ loop.eventQueue = loop.eventQueue ++ [event] := by
    intro hsame
    have hlength := congrArg List.length hsame
    rw [List.length_append, List.length_singleton] at hlength
    omega
  unfold AgentLoop.Queues AgentLoop.enqueueEvent
  by_cases hspeech : startsWith event.kind "chat.speech."
  · by_cases hself : loop.actorId.any (·.val = event.actorId)
    · simp [hspeech, hself, hstays]
    · by_cases hasked : loop.isAsked event
      · simp [hspeech, hself, hasked, hunseen]
      · simp [hspeech, hself, hasked, hstays]
  · simp [hspeech, hstays]

theorem shouldRespond_iff {agent : Agent} {envelope : Envelope} :
    agent.shouldRespond envelope ↔ startsWith envelope.kind "chat.speech." ∧
      agent.actorId.any (·.val = envelope.actorId) = false ∧ agent.isAsked envelope := by
  unfold Agent.shouldRespond
  by_cases hspeech : startsWith envelope.kind "chat.speech."
  · by_cases hself : agent.actorId.any (·.val = envelope.actorId)
    · simp [hspeech, hself]
    · simp [hspeech, hself]
  · simp [hspeech]

/-! ## Agreement -/

/-- A stored event names no actor by an empty text: handles are written with their `@`, and ids
are those of actor rows. -/
def IsStored (event : Event) : Prop :=
  isSpeechKind event.kind ∧ event.actorId ≠ "" ∧ "" ∉ event.addressedToActorIds ∧
    ∀ expected ∈ event.payload.expectedResponse, "" ∉ expected.fromActorHandles

def Designates (event : Event) (author : Option String) (handle : String) (id : ActorId) : Prop :=
  inferImplicitResponder event.payload.expectedResponse event.addressedToActorIds author =
      some (.handle handle) ∨
    inferImplicitResponder event.payload.expectedResponse event.addressedToActorIds author =
      some (.actorId id.val)

/-- The clients of the actor queue a reply to the event, or to the nudge. -/
def Answers (event : Event) (handle : String) (id : ActorId) : Prop :=
  (∀ loop : AgentLoop, ∀ eventId nudgeId system, loop.actorHandle = handle →
    loop.actorId = some id → eventId ∉ loop.seenEventIds → nudgeId ∉ loop.seenEventIds →
      loop.Queues (envelopeOf eventId event) ∨ loop.Queues (nudgeTo nudgeId system id)) ∧
  ∀ eventId nudgeId system,
    (⟨handle, some id⟩ : Agent).shouldRespond (envelopeOf eventId event) ∨
      (⟨handle, some id⟩ : Agent).shouldRespond (nudgeTo nudgeId system id)

/-- The actor is not the speaker, and the event asks it in the first place: by the first handle
of its `expected_response`, or as its first addressee where it has none. -/
def AsksFirst (event : Event) (handle : String) (id : ActorId) : Prop :=
  startsWith event.kind "chat.speech." ∧ id.val ≠ event.actorId ∧
    match event.payload.expectedResponse with
    | some expected => expected.fromActorHandles.head? = some handle
    | none => event.addressedToActorIds.head? = some id.val

/-- The two clients take the same events, for one actor whose id they both know or do not know
yet. -/
def ClientsAgree (handle : String) (actorId : Option ActorId) (envelope : Envelope) : Prop :=
  ∀ loop : AgentLoop, loop.actorHandle = handle → loop.actorId = actorId →
    envelope.eventId ∉ loop.seenEventIds →
      (loop.Queues envelope ↔ (⟨handle, actorId⟩ : Agent).shouldRespond envelope)

theorem nudge_not_speech (nudgeId : EventId) (system : String) (target : ActorId) :
    startsWith (nudgeTo nudgeId system target).kind "chat.speech." = false := by
  change startsWith eventSystemNudge "chat.speech." = false
  decide

variable {event : Event} {author : Option String} {handle : String} {id : ActorId}

/-- The responder of an event that has an `expected_response` with handles is its first one. -/
theorem designates_declared {first : String} {expected : ExpectedResponse}
    (hdesignates : Designates event author handle id)
    (hexpected : event.payload.expectedResponse = some expected)
    (hfirst : expected.fromActorHandles.head? = some first) (hnonempty : first ≠ "") :
    first = handle := by
  have hinfer : inferImplicitResponder event.payload.expectedResponse event.addressedToActorIds
      author = some (.handle first) := by
    unfold inferImplicitResponder
    rw [hexpected, Option.bind_some, hfirst]
    simp [hnonempty]
  rcases hdesignates with hhandle | hid
  · rw [hinfer] at hhandle
    exact Responder.handle.inj (Option.some.inj hhandle)
  · rw [hinfer] at hid
    cases hid

/-- Without an `expected_response` it is the first addressee, where there is one. -/
theorem designates_addressed {first : String} (hdesignates : Designates event author handle id)
    (hnone : event.payload.expectedResponse = none)
    (hfirst : event.addressedToActorIds.head? = some first) (hnonempty : first ≠ "") :
    first = id.val := by
  have hinfer : inferImplicitResponder event.payload.expectedResponse event.addressedToActorIds
      author = some (.actorId first) := by
    unfold inferImplicitResponder
    rw [hnone, hfirst]
    simp [hnonempty]
  rcases hdesignates with hhandle | hid
  · rw [hinfer] at hhandle
    cases hhandle
  · rw [hinfer] at hid
    exact Responder.actorId.inj (Option.some.inj hid)

theorem asksFirst_of_isAsked (hstored : IsStored event)
    (hdesignates : Designates event author handle id)
    (hspeech : startsWith event.kind "chat.speech.") (hother : id.val ≠ event.actorId)
    {eventId : EventId} (hasked : (⟨handle, some id⟩ : Agent).isAsked (envelopeOf eventId event)) :
    AsksFirst event handle id := by
  refine ⟨hspeech, hother, ?_⟩
  unfold Agent.isAsked envelopeOf at hasked
  cases hexpected : event.payload.expectedResponse with
  | some expected =>
      simp only [hexpected, decide_eq_true_eq] at hasked ⊢
      cases hfirst : expected.fromActorHandles.head? with
      | none =>
          rw [List.head?_eq_none_iff.mp hfirst] at hasked
          cases hasked
      | some first =>
          have hnonempty : first ≠ "" := by
            intro hempty
            rw [hempty] at hfirst
            exact hstored.2.2.2 expected hexpected (List.mem_of_head? hfirst)
          rw [designates_declared hdesignates hexpected hfirst hnonempty]
  | none =>
      simp only [hexpected] at hasked ⊢
      cases hfirst : event.addressedToActorIds.head? with
      | none =>
          rw [List.head?_eq_none_iff.mp hfirst] at hasked
          cases hasked
      | some first =>
          have hnonempty : first ≠ "" := by
            intro hempty
            rw [hempty] at hfirst
            exact hstored.2.2.1 (List.mem_of_head? hfirst)
          rw [designates_addressed hdesignates hexpected hfirst hnonempty]

theorem AsksFirst.isAsked (hasks : AsksFirst event handle id) (eventId : EventId) :
    (⟨handle, some id⟩ : Agent).isAsked (envelopeOf eventId event) ∧
      ∀ loop : AgentLoop, loop.actorHandle = handle → loop.actorId = some id →
        loop.isAsked (envelopeOf eventId event) := by
  obtain ⟨_, _, hfirst⟩ := hasks
  unfold Agent.isAsked AgentLoop.isAsked envelopeOf
  cases hexpected : event.payload.expectedResponse with
  | some =>
      simp only [hexpected] at hfirst ⊢
      have hmem := List.mem_of_head? hfirst
      refine ⟨decide_eq_true hmem, ?_⟩
      intro loop hhandle _
      rw [hhandle]
      exact decide_eq_true hmem
  | none =>
      simp only [hexpected] at hfirst ⊢
      have hmem := List.mem_of_head? hfirst
      have hsome : event.addressedToActorIds ≠ [] := List.ne_nil_of_mem hmem
      constructor
      · simp [hmem, hsome]
      · intro loop _ hid
        simp [hmem, hsome, hid]

theorem answers_iff (hstored : IsStored event) (hdesignates : Designates event author handle id) :
    Answers event handle id ↔ AsksFirst event handle id := by
  constructor
  · intro hanswers
    have hresponds := hanswers.2 ⟨0, 0⟩ ⟨0, 0⟩ ""
    rw [shouldRespond_iff, shouldRespond_iff, nudge_not_speech] at hresponds
    rcases hresponds with ⟨hspeech, hself, hasked⟩ | ⟨hnudge, _⟩
    · have hother : id.val ≠ event.actorId := by
        rw [Option.any_some] at hself
        exact of_decide_eq_false hself
      exact asksFirst_of_isAsked hstored hdesignates hspeech hother hasked
    · cases hnudge
  · intro hasks
    constructor
    · intro loop eventId nudgeId system hhandle hid hunseen _
      left
      rw [queues_iff hunseen]
      refine ⟨hasks.1, ?_, (hasks.isAsked eventId).2 loop hhandle hid⟩
      rw [hid, Option.any_some]
      exact decide_eq_false hasks.2.1
    · intro eventId nudgeId system
      left
      rw [shouldRespond_iff]
      refine ⟨hasks.1, ?_, (hasks.isAsked eventId).1⟩
      rw [Option.any_some]
      exact decide_eq_false hasks.2.1

/-- A client that does not know its id takes an event that is addressed to anyone; the other
one takes none. -/
def Guesses (actorId : Option ActorId) (envelope : Envelope) : Prop :=
  actorId = none ∧ startsWith envelope.kind "chat.speech." ∧ envelope.expectedResponse = none ∧
    envelope.addressedToActorIds ≠ []

theorem clientsAgree_iff {actorId : Option ActorId} {envelope : Envelope} :
    ClientsAgree handle actorId envelope ↔ ¬ Guesses actorId envelope := by
  constructor
  · rintro hagree ⟨rfl, hspeech, hnone, haddressed⟩
    have hqueues := hagree ⟨handle, none, [], []⟩ rfl rfl List.not_mem_nil
    rw [queues_iff List.not_mem_nil, shouldRespond_iff] at hqueues
    have hasked : (⟨handle, none, [], []⟩ : AgentLoop).isAsked envelope := by
      simp [AgentLoop.isAsked, hnone, haddressed]
    obtain ⟨_, _, hresponds⟩ := hqueues.mp ⟨hspeech, rfl, hasked⟩
    simp [Agent.isAsked, hnone] at hresponds
  · intro hguesses loop hhandle hid hunseen
    rw [queues_iff hunseen, shouldRespond_iff, hid]
    apply and_congr_right
    intro hspeech
    apply and_congr_right
    intro _
    unfold AgentLoop.isAsked Agent.isAsked
    rw [hhandle, hid]
    cases hexpected : envelope.expectedResponse with
    | some => exact Iff.rfl
    | none =>
        cases hactor : actorId with
        | some => by_cases hempty : envelope.addressedToActorIds = [] <;> simp [hempty]
        | none =>
            have hempty : envelope.addressedToActorIds = [] := by
              by_contra haddressed
              exact hguesses ⟨hactor, hspeech, hexpected, haddressed⟩
            simp [hempty]

/-- A designated responder's clients queue a reply exactly when the event asks it in the first
place; and the two clients take the same events exactly when they need not guess. -/
theorem responder_routing_iff (clientHandle : String) (actorId : Option ActorId)
    (envelope : Envelope) :
    (∀ event author handle id, IsStored event → Designates event author handle id →
      (Answers event handle id ↔ AsksFirst event handle id)) ∧
    (ClientsAgree clientHandle actorId envelope ↔ ¬ Guesses actorId envelope) :=
  ⟨fun _ _ _ _ hstored hdesignates => answers_iff hstored hdesignates, clientsAgree_iff⟩

/-- A public answer to a question. -/
def publicReply : Event where
  actorId := "alice-id"
  kind := "chat.speech.claim"
  payload := ⟨.str "done", none, none, none⟩
  addressedToActorIds := []
  repliesToEventId := some ⟨0, 0⟩
  privateToActorIds := none
  createdAt := 0

theorem public_reply_routing :
    (Answers publicReply "@bob" ⟨"bob-id", by decide⟩ ↔
      AsksFirst publicReply "@bob" ⟨"bob-id", by decide⟩) :=
  (responder_routing_iff "@bob" none (envelopeOf ⟨0, 1⟩ publicReply)).1 publicReply
    (some "bob-id") "@bob" ⟨"bob-id", by decide⟩ ⟨by decide, by decide, by decide, nofun⟩
    (Or.inr (by decide))

/-- The author of the question is designated, and its clients pass over the answer and over
the nudge. -/
theorem replied_author_never_answers :
    IsStored publicReply ∧ Designates publicReply (some "bob-id") "@bob" ⟨"bob-id", by decide⟩ ∧
      ¬ Answers publicReply "@bob" ⟨"bob-id", by decide⟩ := by
  refine ⟨⟨by decide, by decide, by decide, nofun⟩, Or.inr (by decide), ?_⟩
  intro hanswers
  rcases hanswers.2 ⟨0, 1⟩ ⟨0, 2⟩ "system-id" with hevent | hnudge
  · revert hevent
    decide
  · revert hnudge
    decide

end OpsCure.Routing
