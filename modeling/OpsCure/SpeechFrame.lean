/-
The frame of a speech act: what it adds to the log of its operation, and what it leaves as
it was.
-/
import OpsCure.Histories

namespace OpsCure.Chat

open Table Contract V2 OperationMirror Api

/-! ## Posting -/

/-- Speech and nothing else: the logs and the actors grow, and the conversations stay as
they were up to bookkeeping. -/
structure Emits (s t : State) : Prop where
  extends_store : s.store.Extends t.store
  grows : s.store.Grows t.store
  charters : SameCharters s t

theorem Emits.refl (s : State) : Emits s s where
  extends_store := .refl s.store
  grows := .of_operations rfl
  charters := rfl

theorem Emits.trans {s t u : State} (hfirst : Emits s t) (hlast : Emits t u) : Emits s u where
  extends_store := hfirst.extends_store.trans hlast.extends_store
  grows := hfirst.grows.trans hlast.grows
  charters := Eq.trans hlast.charters hfirst.charters

theorem Emits.of_registers {s t : State} (hregisters : Registers s t) : Emits s t where
  extends_store := hregisters.store_extends
  grows := hregisters.grows
  charters := by rw [SameCharters, hregisters.conversations]

theorem Emits.of_added {s after : State} {row : Conversation} {message : Message}
    {options : MirrorOptions} {now : Time} {eventId : Option EventId}
    (hadded : addMessage s row message options now = .ok (after, eventId)) :
    Emits s after where
  extends_store := addMessage_extends hadded
  grows := addMessage_grows hadded
  charters := by rw [SameCharters, (addMessage_frame hadded).2.1]

theorem Emits.setConversation {s : State} {id : Id} {row old : Conversation}
    (hold : s.conversations[id]? = some old) (hkept : row.charter = old.charter) :
    Emits s (s.setConversation id row) where
  extends_store := .refl s.store
  grows := .of_operations rfl
  charters := SameCharters.setConversation rfl hold hkept

theorem Emits.mirrored {s t : State} (hemits : Emits s t) (hmirrored : Mirrored s) :
    Mirrored t where
  lengths := by
    have hconversations := congrArg List.length hemits.charters
    rw [List.length_map, List.length_map] at hconversations
    rw [hconversations, hmirrored.lengths]
    apply (length_operations_eq _).symm
    intro id
    rw [← Store.isSome_kindState, ← Store.isSome_kindState, hemits.grows.kindState]
  linked := by
    intro id row hrow
    rcases hemits.charters.row hrow with ⟨old, hold, hsame⟩
    have hlinked : row.v2OperationId = old.v2OperationId :=
      congrArg (fun charter => charter.2.2.1) hsame
    rw [hlinked]
    exact hmirrored.linked id old hold

theorem endTurn_emits {config : Config} {s after : State} {conversationId : Id}
    {turn : Conversation × Bool} {clock : Clock} {old : Conversation}
    (hold : s.conversations[conversationId]? = some old) (hkept : turn.1.charter = old.charter)
    (hok : endTurn config s conversationId turn clock = .ok after) :
    Emits s after ∧ ∀ id, ∃ warnings, after.store.log id = s.store.log id ++ warnings ∧
      ∀ event ∈ warnings, event.kind = eventConversationOverSpeech := by
  have hset := Emits.setConversation hold hkept
  rcases endTurn_eq_ok hok with rfl | ⟨warningId, hwarned⟩
  · refine ⟨hset, fun id => ⟨[], (List.append_nil _).symm, ?_⟩⟩
    intro event hevent
    cases hevent
  · refine ⟨hset.trans (.of_added hwarned), fun id => ⟨_, addMessage_log hwarned id, ?_⟩⟩
    intro event hevent
    split_ifs at hevent
    · rw [List.mem_singleton.mp hevent]
      rfl
    · cases hevent

def speechRecord (config : Config) (s : State) (conversationId : Id) (row : Conversation)
    (request : SpeechRequest) (expected : Option ExpectedResponse) (now : Time) :
    MessageRecord :=
  mirrorRecord s (speechMessage config conversationId row request now)
    { privateToActors := request.privateToActors
      expectedResponse := expected
      repliesToV2EventId := request.repliesToV2EventId }

section Spoken

variable {config : Config} {s after : State} {conversationId : Id} {request : SpeechRequest}
  {clock : Clock} {eventId : Option EventId} {row : Conversation}
  {effective : Option String} {gated posted : State}

theorem Spoken.posted_row
    (hspoken : Spoken config s conversationId request clock eventId after row effective gated
      posted) : posted.conversations[conversationId]? = some row := by
  rcases hspoken.speech with ⟨expected, hspeech⟩
  rw [(addMessage_frame hspeech).2.1, hspoken.registered.conversations]
  exact hspoken.passes.found

theorem Spoken.turned_emits
    (hspoken : Spoken config s conversationId request clock eventId after row effective gated
      posted) :
    Emits posted after ∧ ∀ id, ∃ warnings, after.store.log id = posted.store.log id ++ warnings ∧
      ∀ event ∈ warnings, event.kind = eventConversationOverSpeech := by
  have hkept : (takeTurn config.policy (spokenRow row (clock 0)) request.actorName
      effective).1.charter = row.charter := takeTurn_charter _ _ _ _
  exact endTurn_emits hspoken.posted_row hkept hspoken.turned

theorem Spoken.emits
    (hspoken : Spoken config s conversationId request clock eventId after row effective gated
      posted) : Emits s after := by
  rcases hspoken.speech with ⟨expected, hspeech⟩
  have hposted := (Emits.of_registers hspoken.registered).trans (.of_added hspeech)
  exact hposted.trans hspoken.turned_emits.1

theorem Spoken.log
    (hspoken : Spoken config s conversationId request clock eventId after row effective gated
      posted) :
    ∃ expected, ∀ id, ∃ warnings,
      after.store.log id = s.store.log id ++
        ((if row.v2OperationId = some id then
          [eventOf (speechRecord config s conversationId row request expected (clock 1))
            (clock 2)] else []) ++ warnings) ∧
      ∀ event ∈ warnings, event.kind = eventConversationOverSpeech := by
  rcases hspoken.speech with ⟨expected, hspeech⟩
  refine ⟨expected, fun id => ?_⟩
  rcases hspoken.turned_emits.2 id with ⟨warnings, hlog, hwarnings⟩
  refine ⟨warnings, ?_, hwarnings⟩
  rw [hlog, addMessage_log hspeech, Store.log_congr hspoken.registered.operations,
    List.append_assoc]
  have hsame : mirrorRecord gated (speechMessage config conversationId row request (clock 1))
      { privateToActors := request.privateToActors
        expectedResponse := expected
        repliesToV2EventId := request.repliesToV2EventId } =
      speechRecord config s conversationId row request expected (clock 1) := by
    rw [speechRecord, mirrorRecord, mirrorRecord, parentEvent, parentEvent,
      hspoken.registered.messages]
  rw [hsame]

theorem Spoken.event
    (hspoken : Spoken config s conversationId request clock eventId after row effective gated
      posted) (hmirrored : Mirrored s) :
    ∃ id, eventId = some id ∧ id.operation = conversationId ∧
      (after.store.getEvent id).isSome := by
  rcases hspoken.speech with ⟨expected, hspeech⟩
  have hlinked := hmirrored.linked _ _ hspoken.passes.found
  rcases addMessage_eq_ok.1 hspeech with ⟨hnone, _⟩ | ⟨operationId, _, hsome, _, _, hid, _⟩
  · rw [hlinked] at hnone
    cases hnone
  · rw [hlinked] at hsome
    cases hsome
    rw [hid] at hspeech
    have hposted := addMessage_getEvent hspeech
    refine ⟨_, hid, rfl, ?_⟩
    rw [hspoken.turned_emits.1.extends_store.getEvent hposted]
    rfl

theorem takeTurn_threadId (policy : ChatPolicyConfig) (row : Conversation)
    (actorName : String) (effective : Option String) :
    (takeTurn policy row actorName effective).1.threadId = row.threadId := by
  unfold takeTurn
  split
  · rfl
  · split_ifs <;> rfl

theorem Spoken.thread
    (hspoken : Spoken config s conversationId request clock eventId after row effective gated
      posted) :
    after.threads = s.threads ∧ ∃ turned, after.conversations[conversationId]? = some turned ∧
      turned.threadId = row.threadId := by
  rcases hspoken.speech with ⟨expected, hspeech⟩
  have hthreads : posted.threads = s.threads :=
    (addMessage_frame hspeech).1.trans hspoken.registered.threads
  let turned := (takeTurn config.policy (spokenRow row (clock 0)) request.actorName effective).1
  have hturned : (posted.setConversation conversationId turned).conversations[conversationId]? =
      some turned := getElem?_update_self hspoken.posted_row
  have hsame : turned.threadId = row.threadId := takeTurn_threadId _ _ _ _
  rcases endTurn_eq_ok hspoken.turned with rfl | ⟨warningId, hwarned⟩
  · exact ⟨hthreads, turned, hturned, hsame⟩
  · refine ⟨(addMessage_frame hwarned).1.trans hthreads, turned, ?_, hsame⟩
    rw [(addMessage_frame hwarned).2.1]
    exact hturned

end Spoken

end OpsCure.Chat
