/-
What an accepted `submit_speech` did: the gates it passed, and the one or two
messages it posted.
-/
import OpsCure.Posting

namespace OpsCure.Chat

open Fallible Session Contract V2

theorem registers_provision (config : Config) (s : State) (actorName : String) :
    Registers s (provision config s actorName) := by
  unfold provision
  cases config.authorizer with
  | unwired => exact .refl s
  | actor => exact .refl s
  | capability => exact .ensure s _ _

theorem exec_checkCapability (config : Config) (actorName : String)
    (capability : Capability) (s : State) :
    exec (checkCapability config actorName capability) s =
      (if permits config s actorName capability then .ok ⟨⟩
        else .error (denial config actorName capability), provision config s actorName) := by
  rw [checkCapability, exec_bind, exec_transaction]
  cases permits config s actorName capability <;> rfl

variable {s after : State} {request : SpeechRequest} {config : Config} {conversationId : Id}
  {clock : Clock}

theorem checkSpeechPolicy_eq_ok {gated : State} {row : Conversation}
    (hok : checkSpeechPolicy s row request = .ok gated) :
    Registers s gated ∧
    ∀ operationId operation, row.v2OperationId = some operationId →
      s.store.getOperation operationId = some operation →
      PolicyEngine.checkSpeechAdmissible s.store operationId operation request.kind
        request.repliesToV2EventId = .ok () := by
  unfold checkSpeechPolicy at hok
  cases hrow : row.v2OperationId with
  | none =>
      rw [hrow] at hok
      cases hok
      exact ⟨.refl _, by simp⟩
  | some operationId =>
      rw [hrow] at hok
      cases hoperation : s.store.getOperation operationId with
      | none =>
          simp only [hoperation] at hok
          cases hok
          refine ⟨.refl _, ?_⟩
          rintro _ _ ⟨⟩ hfound
          rw [hoperation] at hfound
          cases hfound
      | some =>
          simp only [hoperation, bind_eq_ok, mapError_eq_ok] at hok
          rcases hok with ⟨_, hspeech, _, hmember, hgated⟩
          refine ⟨?_, ?_⟩
          · split at hgated
            · cases hgated
              exact .ensure s _ _
            · cases hgated
              exact .refl _
          · rintro _ _ ⟨⟩ hfound
            rw [hoperation] at hfound
            cases hfound
            exact hspeech

/-- The parts of an accepted speech act: the conversation it found open, the state
after the gates, the state with its message, and the state it left, with the
over-speech warning when that was tripped. -/
structure Submitted (config : Config) (s : State) (conversationId : Id)
    (request : SpeechRequest) (clock : Clock) (eventId : Option EventId) (after : State)
    (row : Conversation) (gated posted : State) (options : MirrorOptions)
    (turned : Conversation) : Prop where
  found : s.conversations[conversationId]? = some row
  opened : row.state ≠ .closed
  gates : checkSpeechPolicy s row request = .ok gated
  replies : options.repliesToV2EventId = request.repliesToV2EventId
  speech : addMessage gated row (speechMessage config conversationId row request (clock 1))
    options (clock 2) = .ok (posted, eventId)
  turn : ∃ effective, turned =
    (takeTurn config.policy (spokenRow row (clock 0)) request.actorName effective).1
  left : after = posted.setConversation conversationId turned ∨
    ∃ warningId, addMessage (posted.setConversation conversationId turned) turned
      (overSpeechMessage config.policy conversationId turned (clock 3)) {} (clock 4) =
        .ok (after, warningId)

theorem endTurn_eq_ok {turn : Conversation × Bool}
    (hok : endTurn config s conversationId turn clock = .ok after) :
    after = s.setConversation conversationId turn.1 ∨
      ∃ warningId, addMessage (s.setConversation conversationId turn.1) turn.1
        (overSpeechMessage config.policy conversationId turn.1 (clock 3)) {} (clock 4) =
          .ok (after, warningId) := by
  unfold endTurn at hok
  by_cases htrips : turn.2 = true
  · rw [if_pos htrips] at hok
    simp only [bind_eq_ok, pure_eq_ok, Prod.exists] at hok
    rcases hok with ⟨_, warningId, hwarned, rfl⟩
    exact Or.inr ⟨warningId, hwarned⟩
  · rw [if_neg htrips] at hok
    cases hok
    exact Or.inl rfl

theorem submitSession_eq_ok {eventId : Option EventId}
    (hok : submitSession config s conversationId request clock = .ok (eventId, after)) :
    ∃ row gated posted options turned,
      Submitted config s conversationId request clock eventId after row gated posted
        options turned := by
  simp only [submitSession, getConversation, bind_eq_ok, orRaise_eq_ok, require_eq_ok,
    mapError_eq_ok, pure_eq_ok, Prod.exists, Prod.mk.injEq] at hok
  rcases hok with ⟨row, hfound, _, hopened, effective, _, _, _, expected, _, gated, hgates,
    posted, speechId, hspeech, left, hleft, rfl, rfl⟩
  exact ⟨row, gated, posted, _, _, hfound, hopened, hgates, rfl, hspeech,
    ⟨effective, rfl⟩, endTurn_eq_ok hleft⟩

theorem submitSpeech_state (config : Config) (conversationId : Id) (request : SpeechRequest)
    (clock : Clock) (s : State) :
    let asked := provision config s request.actorName
    let left := (exec (submitSpeech config conversationId request clock) s).2
    left = asked ∨ ∃ eventId,
      submitSession config asked conversationId request clock = .ok (eventId, left) := by
  intro asked left
  change (exec (submitSpeech config conversationId request clock) s).2 = asked ∨ ∃ eventId,
    submitSession config asked conversationId request clock =
      .ok (eventId, (exec (submitSpeech config conversationId request clock) s).2)
  rw [submitSpeech, exec_bind, exec_checkCapability]
  by_cases hpermitted : permits config s request.actorName .speechSubmit
  · simp only [hpermitted, if_true, exec_transaction]
    rcases hsession : submitSession config asked conversationId request clock with
      error | ⟨eventId, after⟩
    · exact Or.inl rfl
    · exact Or.inr ⟨eventId, rfl⟩
  · simp only [hpermitted]
    exact Or.inl rfl

theorem submitSession_grows {eventId : Option EventId}
    (hok : submitSession config s conversationId request clock = .ok (eventId, after)) :
    s.store.Grows after.store := by
  rcases submitSession_eq_ok hok with ⟨row, gated, posted, options, turned, hsubmitted⟩
  have hgated : s.store.Grows gated.store :=
    (checkSpeechPolicy_eq_ok hsubmitted.gates).1.grows
  have hposted : s.store.Grows posted.store :=
    hgated.trans (addMessage_grows hsubmitted.speech)
  rcases hsubmitted.left with rfl | ⟨warningId, hwarned⟩
  · exact hposted
  · have hleft := addMessage_grows hwarned
    exact hposted.trans hleft

theorem submitSpeech_grows (config : Config) (conversationId : Id) (request : SpeechRequest)
    (clock : Clock) (s : State) :
    s.store.Grows (exec (submitSpeech config conversationId request clock) s).2.store := by
  have hasked : s.store.Grows (provision config s request.actorName).store :=
    (registers_provision config s request.actorName).grows
  rcases submitSpeech_state config conversationId request clock s with hleft | ⟨_, hsession⟩
  · rw [hleft]
    exact hasked
  · exact hasked.trans (submitSession_grows hsession)

end OpsCure.Chat
