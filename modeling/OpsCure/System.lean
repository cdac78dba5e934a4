/-
The system in runs: the moves of the chat service and of the task coordinator, and the
session that follows an appended event.  A request to append an event, a sweep of the
policy sweeper and a tick of the progression sweeper are short runs of these.
-/
import OpsCure.EventsApi
import OpsCure.NudgeLimit
import OpsCure.PolicySweeper
import OpsCure.ServiceRuns

namespace OpsCure.Api

open Fallible Session Run V2 Chat

/-- An act of a run: a move of the services, or the session after an appended event. -/
inductive Act where
  | move (move : Move)
  | finishAppend (conversationId : Id) (eventId : EventId) (request : EventRequest)
      (clock : Clock)

def Bridge.of (s : State) : Bridge := ⟨s, [], [], []⟩

/-- The state an act leaves, whether it goes through or raises. -/
def systemStep (api : ApiConfig) (s : State) : Act → State
  | .move move => serviceStep api.chat s move
  | .finishAppend conversationId eventId request clock =>
      committed s ((finishAppend api (Bridge.of s) conversationId (some eventId) request
        clock).map (·.2.chat))

theorem finishAppend_eq_ok {api : ApiConfig} {b after : Bridge} {conversationId : Id}
    {eventId : Option EventId} {request : EventRequest} {clock : Clock} {body : EventBody} :
    finishAppend api b conversationId eventId request clock = .ok (body, after) ↔
      ∃ id store event posts, eventId = some id ∧
        finishEvent api b.chat.store id request clock = .ok store ∧
        store.getEvent id = some event ∧
        forwardedPost api b.chat conversationId request = .ok posts ∧
        body = serializeEvent id event ∧
        after = { b with
          chat := { b.chat with store := store }, discord := b.discord ++ posts } := by
  simp only [finishAppend, bind_eq_ok, orRaise_eq_ok, pure_eq_ok, Prod.mk.injEq]
  constructor
  · rintro ⟨id, hid, store, hstore, event, hevent, posts, hposts, rfl, rfl⟩
    exact ⟨id, store, event, posts, hid, hstore, hevent, hposts, rfl, rfl⟩
  · rintro ⟨id, store, event, posts, hid, hstore, hevent, hposts, rfl, rfl⟩
    exact ⟨id, hid, store, hstore, event, hevent, posts, hposts, rfl, rfl⟩

theorem finishAppend_chat (api : ApiConfig) (b : Bridge) (conversationId : Id)
    (eventId : EventId) (request : EventRequest) (clock : Clock) :
    committed b.chat ((finishAppend api b conversationId (some eventId) request clock).map
        (·.2.chat)) =
      systemStep api b.chat (.finishAppend conversationId eventId request clock) := by
  have hsame : (finishAppend api b conversationId (some eventId) request clock).map
        (·.2.chat) =
      (finishAppend api (Bridge.of b.chat) conversationId (some eventId) request clock).map
        (·.2.chat) := by
    simp only [finishAppend, Bridge.of, orRaise, bind, Except.bind]
    cases finishEvent api b.chat.store eventId request clock with
    | error => rfl
    | ok store =>
        cases hevent : store.getEvent eventId with
        | none => simp only [hevent]
        | some =>
            simp only [hevent]
            cases forwardedPost api b.chat conversationId request with
            | error => rfl
            | ok => rfl
  rw [hsame, systemStep]

/-! ## Requests and sweeps are runs -/

theorem foldl_publishMessage_chat (messages : List (Message × Id)) (b : Bridge) :
    (messages.foldl publishMessage b).chat = b.chat := by
  induction messages generalizing b with
  | nil => rfl
  | cons message messages ih => exact ih (publishMessage b message)

theorem exec_publishing_eq {α : Type} (program : Program ChatError State α) (b : Bridge) :
    exec (publishing program) b =
      match exec program b.chat with
      | (.ok value, after) =>
          (.ok value, (newMessages after b.chat.messages.length).foldl publishMessage
            { b with chat := after })
      | (.error error, after) => (.error error, { b with chat := after }) := rfl

theorem exec_publishing {α : Type} (program : Program ChatError State α) (b : Bridge) :
    (exec (publishing program) b).1 = (exec program b.chat).1 ∧
      (exec (publishing program) b).2.chat = (exec program b.chat).2 := by
  rcases hprogram : exec program b.chat with ⟨error | value, after⟩
  · rw [exec_publishing_eq, hprogram]
    exact ⟨rfl, rfl⟩
  · rw [exec_publishing_eq, hprogram]
    exact ⟨rfl, foldl_publishMessage_chat _ _⟩

theorem exec_fromChat {α : Type} (program : Program ChatError Bridge α) (b : Bridge) :
    exec (fromChat program) b = ((exec program b).1.mapError .chat, (exec program b).2) := rfl

theorem appendEvent_run (api : ApiConfig) (operationId : Id) (request : EventRequest)
    (clock finishClock : Clock) (b : Bridge) :
    ∃ acts, (exec (appendEvent api operationId request clock finishClock) b).2.chat =
      run (systemStep api) b.chat acts := by
  rw [appendEvent, exec_bind, exec_query]
  cases checkAppend api b.chat.store operationId request with
  | error => exact ⟨[], rfl⟩
  | ok checked =>
      rcases checked with ⟨conversationId, speech⟩
      have hspoken := exec_publishing (submitSpeech api.chat conversationId speech clock) b
      simp only [exec_bind, exec_fromChat]
      rcases hpublish : exec (publishing (submitSpeech api.chat conversationId speech clock)) b
        with ⟨error | eventId, after⟩
      · refine ⟨[.move (.submitSpeech conversationId speech clock)], ?_⟩
        rw [hpublish] at hspoken
        exact hspoken.2
      · rw [hpublish] at hspoken
        simp only [Except.mapError]
        rw [exec_transaction]
        have hafter : after.chat =
            systemStep api b.chat (.move (.submitSpeech conversationId speech clock)) :=
          hspoken.2
        cases eventId with
        | none =>
            refine ⟨[.move (.submitSpeech conversationId speech clock)], ?_⟩
            exact hafter
        | some id =>
            refine ⟨[.move (.submitSpeech conversationId speech clock),
              .finishAppend conversationId id request finishClock], ?_⟩
            rw [run_cons, run_cons, run_nil, ← hafter, ← finishAppend_chat]
            cases finishAppend api after conversationId (some id) request finishClock <;> rfl

end OpsCure.Api
