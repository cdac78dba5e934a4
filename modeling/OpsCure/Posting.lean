/-
What a posted message leaves behind: one more event at the end of the log of its
conversation's operation, and every other log as it was.  Logs only grow, so an
event once recorded stays where it is.
-/
import OpsCure.ConversationService

namespace OpsCure

open Fallible Session V2 OperationMirror

namespace V2

/-- `after` has every actor and every event of `before`, in place. -/
structure Store.Extends (before after : Store) : Prop where
  actors : before.actors <+: after.actors
  logs : ∀ operationId, before.log operationId <+: after.log operationId

namespace Store.Extends

theorem refl (store : Store) : store.Extends store where
  actors := List.prefix_rfl
  logs := fun _ => List.prefix_rfl

theorem trans {before middle after : Store} (hfirst : before.Extends middle)
    (hsecond : middle.Extends after) : before.Extends after where
  actors := hfirst.actors.trans hsecond.actors
  logs := fun operationId => (hfirst.logs operationId).trans (hsecond.logs operationId)

theorem getEvent {before after : Store} {id : EventId} {event : Event}
    (hextends : before.Extends after) (hevent : before.getEvent id = some event) :
    after.getEvent id = some event := by
  rcases hextends.logs id.operation with ⟨more, hmore⟩
  have hbefore : (before.log id.operation)[id.index]? = some event := hevent
  have hlt : id.index < (before.log id.operation).length :=
    (List.getElem?_eq_some_iff.mp hbefore).1
  rw [Store.getEvent, ← hmore, List.getElem?_append_left hlt, hbefore]

end Store.Extends

/-- An operation with participants and events added behind the ones it has. -/
def Operation.extend (row : Operation) (joined : List Participant) (more : List Event) :
    Operation :=
  { row with participants := row.participants ++ joined, events := row.events ++ more }

/-- `after` has the operations of `before`, each with participants and events added
at most: nothing but messages was posted. -/
def Store.Grows (before after : Store) : Prop :=
  ∀ operationId, ∃ joined more, after.getOperation operationId =
    (before.getOperation operationId).map fun row => row.extend joined more

namespace Store.Grows

theorem of_operations {before after : Store} (hsame : after.operations = before.operations) :
    before.Grows after := by
  intro operationId
  refine ⟨[], [], ?_⟩
  rw [Store.getOperation, Store.getOperation, hsame]
  simp [Operation.extend]

theorem trans {before middle after : Store} (hfirst : before.Grows middle)
    (hsecond : middle.Grows after) : before.Grows after := by
  intro operationId
  rcases hfirst operationId with ⟨joined, more, hmiddle⟩
  rcases hsecond operationId with ⟨joined', more', hafter⟩
  refine ⟨joined ++ joined', more ++ more', ?_⟩
  rw [hafter, hmiddle, Option.map_map]
  simp [Function.comp_def, Operation.extend]

theorem getOperation {before after : Store} (hgrows : before.Grows after) {operationId : Id}
    {row : Operation} (hrow : before.getOperation operationId = some row) :
    ∃ joined more, after.getOperation operationId = some (row.extend joined more) := by
  rcases hgrows operationId with ⟨joined, more, hafter⟩
  exact ⟨joined, more, by rw [hafter, hrow]; rfl⟩

theorem kindState {before after : Store} (hgrows : before.Grows after) (operationId : Id) :
    after.kindState operationId = before.kindState operationId := by
  rcases hgrows operationId with ⟨joined, more, hafter⟩
  rw [Store.kindState, Store.kindState, hafter, Option.map_map]
  rfl

end Store.Grows

end V2

namespace OperationMirror

variable {operationId : Id}

theorem log_mirroredStore {store : Store} {record : MessageRecord} {now : Time}
    {row : V2.Operation} (hrow : store.getOperation operationId = some row) (other : Id) :
    (mirroredStore store operationId record now row).log other =
      store.log other ++ (if operationId = other then [eventOf record now] else []) := by
  have hat : store.operations[operationId]? = some row := hrow
  by_cases hsame : operationId = other
  · subst hsame
    have hlt : operationId < store.operations.length := (List.getElem?_eq_some_iff.mp hat).1
    rw [Store.log_eq_of_getOperation hrow, if_pos rfl]
    simp [Store.log, Store.getOperation, mirroredStore, rowAfter, hlt]
  · simp [Store.log, Store.getOperation, mirroredStore, hsame]

theorem grows_mirroredStore {store : Store} {record : MessageRecord} {now : Time}
    {row : V2.Operation} (hrow : store.getOperation operationId = some row) :
    store.Grows (mirroredStore store operationId record now row) := by
  intro other
  have hat : store.operations[operationId]? = some row := hrow
  by_cases hsame : operationId = other
  · subst hsame
    have hlt : operationId < store.operations.length := (List.getElem?_eq_some_iff.mp hat).1
    rcases prefix_joinParticipants row.participants record now with ⟨joined, hjoined⟩
    refine ⟨joined, [eventOf record now], ?_⟩
    rw [hrow]
    simp [Store.getOperation, mirroredStore, rowAfter, Operation.extend, hlt, hjoined]
  · refine ⟨[], [], ?_⟩
    simp [Store.getOperation, mirroredStore, Operation.extend, hsame]

end OperationMirror

namespace Chat

/-- `t` differs from `s` in actors registered on top at most. -/
structure Registers (s t : State) : Prop where
  actors : s.store.actors <+: t.store.actors
  operations : t.store.operations = s.store.operations
  threads : t.threads = s.threads
  conversations : t.conversations = s.conversations
  messages : t.messages = s.messages
  tasks : t.tasks = s.tasks

namespace Registers

theorem refl (s : State) : Registers s s where
  actors := List.prefix_rfl
  operations := rfl
  threads := rfl
  conversations := rfl
  messages := rfl
  tasks := rfl

variable {t : State}

theorem trans {s u : State} (hfirst : Registers s t) (hsecond : Registers t u) :
    Registers s u where
  actors := hfirst.actors.trans hsecond.actors
  operations := hsecond.operations.trans hfirst.operations
  threads := hsecond.threads.trans hfirst.threads
  conversations := hsecond.conversations.trans hfirst.conversations
  messages := hsecond.messages.trans hfirst.messages
  tasks := hsecond.tasks.trans hfirst.tasks

theorem ensure (s : State) (handle : String) (kind : ActorKind) :
    Registers s { s with store := s.store.ensureActorByHandle handle kind } where
  actors := s.store.actors_prefix_ensureActorByHandle handle kind
  operations := s.store.ensureActorByHandle_operations handle kind
  threads := rfl
  conversations := rfl
  messages := rfl
  tasks := rfl

theorem grows {s : State} (hregisters : Registers s t) : s.store.Grows t.store :=
  .of_operations hregisters.operations

theorem store_extends {s : State} (hregisters : Registers s t) :
    s.store.Extends t.store where
  actors := hregisters.actors
  logs := fun operationId => by
    rw [Store.log_congr hregisters.operations]

theorem getOperation {s : State} (hregisters : Registers s t) (operationId : Id) :
    t.store.getOperation operationId = s.store.getOperation operationId := by
  rw [Store.getOperation, Store.getOperation, hregisters.operations]

theorem getEvent {s : State} (hregisters : Registers s t) (id : EventId) :
    t.store.getEvent id = s.store.getEvent id :=
  Store.getEvent_congr hregisters.operations id

end Registers

theorem addMessage_eq_ok {s after : State} {row : Conversation} {message : Message}
    {options : MirrorOptions} {now : Time} {eventId : Option EventId} :
    addMessage s row message options now = .ok (after, eventId) ↔
      (row.v2OperationId = none ∧ eventId = none ∧
        after = { s with messages := s.messages ++ [{ message with v2EventId := none }] }) ∨
      ∃ operationId operation, row.v2OperationId = some operationId ∧
        s.store.getOperation operationId = some operation ∧
        ((mirrorRecord s message options).repliesToV2EventId.all fun id =>
          (s.store.getEvent id).isSome) ∧
        eventId = some { operation := operationId, index := operation.events.length } ∧
        after = { s with
          store := mirroredStore s.store operationId (mirrorRecord s message options) now
            operation
          messages := s.messages ++ [{ message with v2EventId := eventId }] } := by
  unfold addMessage mirrorV1Message
  cases row.v2OperationId with
  | none =>
      constructor
      · intro hok
        cases hok
        exact Or.inl ⟨rfl, rfl, rfl⟩
      · rintro (⟨_, rfl, rfl⟩ | ⟨_, _, habsurd, _⟩)
        · rfl
        · cases habsurd
  | some operationId =>
      simp only [bind_eq_ok, mapError_eq_ok, pure_eq_ok, Prod.exists, Prod.mk.injEq,
        mirrorMessage_eq_ok, reduceCtorEq, false_and, false_or, Option.some.injEq]
      constructor
      · rintro ⟨store, eid, ⟨_, _, ⟨operation, hoperation, hreply, rfl, rfl⟩, rfl, rfl⟩, rfl, rfl⟩
        exact ⟨operationId, operation, rfl, hoperation, hreply, rfl, rfl⟩
      · rintro ⟨_, operation, rfl, hoperation, hreply, rfl, rfl⟩
        exact ⟨_, _, ⟨_, _, ⟨operation, hoperation, hreply, rfl, rfl⟩, rfl, rfl⟩, rfl, rfl⟩

theorem addMessage_isOk {s : State} {row : Conversation} {message : Message} {now : Time}
    (hquiet : message.repliesToSpeechId = none)
    (hexists : ∀ operationId, row.v2OperationId = some operationId →
      (s.store.getOperation operationId).isSome) :
    ∃ after eventId, addMessage s row message {} now = .ok (after, eventId) := by
  cases hmirror : row.v2OperationId with
  | none => exact ⟨_, _, addMessage_eq_ok.2 (Or.inl ⟨hmirror, rfl, rfl⟩)⟩
  | some operationId =>
      rcases Option.isSome_iff_exists.mp (hexists operationId hmirror) with
        ⟨operation, hoperation⟩
      refine ⟨_, _, addMessage_eq_ok.2 (Or.inr ⟨operationId, operation, hmirror, hoperation,
        ?_, rfl, rfl⟩)⟩
      simp [mirrorRecord, parentEvent, hquiet]

section Added

variable {s after : State} {row : Conversation} {message : Message}
  {options : MirrorOptions} {now : Time} {eventId : Option EventId}

theorem addMessage_log (hadded : addMessage s row message options now = .ok (after, eventId))
    (other : Id) :
    after.store.log other = s.store.log other ++
      (if row.v2OperationId = some other then
        [eventOf (mirrorRecord s message options) now] else []) := by
  rcases addMessage_eq_ok.1 hadded with
    ⟨hnone, _, rfl⟩ | ⟨operationId, operation, hsome, hoperation, _, _, rfl⟩
  · simp [hnone]
  · simp only [log_mirroredStore hoperation, hsome, Option.some.injEq]

theorem addMessage_extends
    (hadded : addMessage s row message options now = .ok (after, eventId)) :
    s.store.Extends after.store where
  actors := by
    rcases addMessage_eq_ok.1 hadded with ⟨_, _, rfl⟩ | ⟨_, _, _, _, _, _, rfl⟩
    · exact List.prefix_rfl
    · exact actors_prefix_registerActors _ _
  logs := fun operationId => by
    rw [addMessage_log hadded]
    exact List.prefix_append _ _

theorem addMessage_grows
    (hadded : addMessage s row message options now = .ok (after, eventId)) :
    s.store.Grows after.store := by
  rcases addMessage_eq_ok.1 hadded with ⟨_, _, rfl⟩ | ⟨_, _, _, hoperation, _, _, rfl⟩
  · exact .of_operations rfl
  · exact grows_mirroredStore hoperation

theorem addMessage_getEvent {id : EventId}
    (hadded : addMessage s row message options now = .ok (after, some id)) :
    after.store.getEvent id = some (eventOf (mirrorRecord s message options) now) := by
  rcases addMessage_eq_ok.1 hadded with
    ⟨_, habsurd, _⟩ | ⟨operationId, operation, hsome, hoperation, _, hid, rfl⟩
  · cases habsurd
  · cases hid
    rw [Store.getEvent, log_mirroredStore hoperation, if_pos rfl,
      Store.log_eq_of_getOperation hoperation]
    exact List.getElem?_concat_length

theorem addMessage_frame
    (hadded : addMessage s row message options now = .ok (after, eventId)) :
    after.threads = s.threads ∧ after.conversations = s.conversations ∧
      after.tasks = s.tasks := by
  rcases addMessage_eq_ok.1 hadded with ⟨_, _, rfl⟩ | ⟨_, _, _, _, _, _, rfl⟩
  · exact ⟨rfl, rfl, rfl⟩
  · exact ⟨rfl, rfl, rfl⟩

end Added

def systemMessage (row : Conversation) (conversationId : Id) (kind : String)
    (addressedToHandle : Option String) (payload : List (String × Json)) (now : Time) :
    Message :=
  lifecycleMessage row conversationId "system" kind addressedToHandle (.obj payload) now

variable {conversationId : Id} {kind : String} {addressedToHandle : Option String}
  {parent : Option EventId} {clock : Clock}

theorem emitSession_eq_ok {s after : State} {payload : List (String × Json)}
    {eventId : Option EventId} :
    emitSession s conversationId kind addressedToHandle parent payload clock =
        .ok (eventId, after) ↔
      ∃ row, s.conversations[conversationId]? = some row ∧
        addMessage s row (systemMessage row conversationId kind addressedToHandle payload
          (clock 0)) { repliesToV2EventId := parent } (clock 1) = .ok (after, eventId) := by
  simp only [emitSession, getConversation, bind_eq_ok, orRaise_eq_ok, pure_eq_ok, Prod.exists,
    Prod.mk.injEq]
  constructor
  · rintro ⟨row, hrow, _, _, hadded, rfl, rfl⟩
    exact ⟨row, hrow, hadded⟩
  · rintro ⟨row, hrow, hadded⟩
    exact ⟨row, hrow, _, _, hadded, rfl, rfl⟩

theorem emitSession_posts {s : State} {payload : List (String × Json)} {row : Conversation}
    {operationId : Id} {operation : V2.Operation}
    (hrow : s.conversations[conversationId]? = some row)
    (hmirror : row.v2OperationId = some operationId)
    (hoperation : s.store.getOperation operationId = some operation)
    (hparent : parent.all fun id => (s.store.getEvent id).isSome) :
    ∃ after, emitSession s conversationId kind addressedToHandle parent payload clock =
      .ok (some { operation := operationId, index := operation.events.length }, after) := by
  let message := systemMessage row conversationId kind addressedToHandle payload (clock 0)
  let record := mirrorRecord s message { repliesToV2EventId := parent }
  refine ⟨_, emitSession_eq_ok.2 ⟨row, hrow, addMessage_eq_ok.2 (Or.inr
    ⟨operationId, operation, hmirror, hoperation, ?_, rfl, rfl⟩)⟩⟩
  exact hparent

theorem emitSystemEvent_state (conversationId : Id) (kind : String)
    (addressedToHandle : Option String) (parent : Option EventId)
    (payload : List (String × Json)) (clock : Clock) (s : State) :
    (exec (emitSystemEvent conversationId kind addressedToHandle parent payload clock) s).2 =
      committed s ((emitSession s conversationId kind addressedToHandle parent payload
        clock).map Prod.snd) :=
  exec_transaction_state _ _

theorem emitSystemEvent_grows (conversationId : Id) (kind : String)
    (addressedToHandle : Option String) (parent : Option EventId)
    (payload : List (String × Json)) (clock : Clock) (s : State) :
    s.store.Grows (exec (emitSystemEvent conversationId kind addressedToHandle parent payload
      clock) s).2.store := by
  rw [emitSystemEvent_state]
  rcases hsession : emitSession s conversationId kind addressedToHandle parent payload clock
    with error | ⟨eventId, left⟩
  · exact .of_operations rfl
  · rcases emitSession_eq_ok.1 hsession with ⟨row, _, hadded⟩
    exact addMessage_grows hadded

end Chat

end OpsCure
