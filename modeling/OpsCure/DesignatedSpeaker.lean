/-
Is the expected speaker recognised however the handle is spelled (`submit_speech`)?  The slot
keeps the spelling of whoever set it, `@bob` when the address or the expected response had an
at-sign; a speech comes under a name without one.  The two are compared as they stand.
-/
import OpsCure.TurnGauge
import OpsCure.Deeds

namespace OpsCure.Chat

open Fallible Session Table Run Contract V2 OperationMirror Api

def bareHandle (handle : String) : List Char :=
  handle.toList.dropWhile (· = '@')

/-- The expected speaker of a conversation speaks, however the handle is spelled, and
addresses nobody. -/
structure Answers (config : Config) (s : State) (conversationId : Id)
    (request : SpeechRequest) (clock : Clock) (expected : String)
    (eventId : Option EventId) (after : State) : Prop where
  expects : expectedIn s conversationId = some expected
  unaddressed : computeEffectiveAddr (primaryAddress request) request.expectedResponse =
    .ok none
  spelled : bareHandle request.actorName = bareHandle expected
  accepted : exec (submitSpeech config conversationId request clock) s = (.ok eventId, after)

def warningMessages (s : State) : Nat :=
  s.messages.countP fun message => message.eventKind = eventConversationOverSpeech

/-- The slot is cleared and the gauge reset, and no warning is recorded. -/
structure Recognised (conversationId : Id) (s after : State) : Prop where
  cleared : ∃ row, after.conversations[conversationId]? = some row ∧
    row.expectedSpeaker = none ∧ row.unaddressedSpeechCount = 0
  unwarned : warningMessages after = warningMessages s
  silent : ∀ operationId,
    warnings (after.store.log operationId) = warnings (s.store.log operationId)

variable {config : Config} {s : State} {conversationId : Id} {clock : Clock} {actorName : String}

theorem endTurn_found {after : State} {row : Conversation} {turn : Conversation × Bool}
    (hrow : s.conversations[conversationId]? = some row)
    (hended : endTurn config s conversationId turn clock = .ok after) :
    after.conversations[conversationId]? = some turn.1 := by
  have hwritten : (s.setConversation conversationId turn.1).conversations[conversationId]? =
      some turn.1 := getElem?_update_self hrow
  unfold endTurn at hended
  by_cases htrips : turn.2 = true
  · rw [if_pos htrips] at hended
    simp only [bind_eq_ok, pure_eq_ok, Prod.exists] at hended
    obtain ⟨posted, warningId, hwarned, rfl⟩ := hended
    rw [(addMessage_frame hwarned).2.1]
    exact hwritten
  · rw [if_neg htrips] at hended
    cases hended
    exact hwritten

theorem takeTurn_expected (policy : ChatPolicyConfig) {row : Conversation}
    (hsame : row.expectedSpeaker = some actorName) :
    takeTurn policy row actorName none =
      ({ row with expectedSpeaker := none, unaddressedSpeechCount := 0 }, false) := by
  apply if_pos
  exact hsame.symm

theorem takeTurn_unexpected (policy : ChatPolicyConfig) {row : Conversation}
    (hother : row.expectedSpeaker ≠ some actorName) :
    (takeTurn policy row actorName none).1.expectedSpeaker = row.expectedSpeaker := by
  rcases takeTurn_cases policy row actorName none with
    ⟨hset, _, _⟩ | ⟨hkept, _⟩ | ⟨hkept, _⟩
  · exfalso
    have hnot : ¬ some actorName = row.expectedSpeaker := fun hsame => hother hsame.symm
    apply hset
    simp only [takeTurn, if_neg hnot]
    split_ifs <;> rfl
  · exact hkept
  · exact hkept

theorem speech_unwarned {after : State} {request : SpeechRequest} {eventId : Option EventId}
    {row : Conversation} {effective : Option String} {gated posted : State}
    (hspoken : Spoken config s conversationId request clock eventId after row effective gated
      posted) :
    warningMessages posted = warningMessages s ∧
      ∀ operationId,
        warnings (posted.store.log operationId) = warnings (s.store.log operationId) := by
  have hkind : speechEventKind request.kind ≠ eventConversationOverSpeech := by
    cases request.kind <;> decide
  obtain ⟨expected, hspeech⟩ := hspoken.speech
  constructor
  · have hmessages := (addMessage_eventId hspeech).1
    rw [warningMessages, hmessages, hspoken.registered.messages, List.countP_append]
    simp [warningMessages, speechMessage, hkind]
  · intro operationId
    rw [addMessage_log hspeech, warnings_append,
      Store.log_congr hspoken.registered.operations]
    split_ifs
    · simp [warnings, eventOf, mirrorRecord, speechMessage, hkind]
    · rfl

/-- The expected speaker is recognised exactly when the speech comes under the very string
that stands in the slot. -/
theorem recognised_iff {config : Config} {s after : State} {conversationId : Id}
    {request : SpeechRequest} {clock : Clock} {expected : String} {eventId : Option EventId}
    (hanswers : Answers config s conversationId request clock expected eventId after) :
    Recognised conversationId s after ↔ request.actorName = expected := by
  rcases submitSpeech_cases config conversationId request clock s with
    ⟨_, error, hexec⟩ | ⟨_, _, row, effective, gated, posted, hspoken, hexec⟩
  · rw [hanswers.accepted] at hexec
    cases hexec
  rw [hanswers.accepted] at hexec
  cases hexec
  have hrow := hspoken.passes.found
  have hexpects : row.expectedSpeaker = some expected := by
    rw [← expectedIn_eq hrow]
    exact hanswers.expects
  have haddressed := hspoken.passes.addressed
  rw [hanswers.unaddressed] at haddressed
  cases haddressed
  obtain ⟨_, hspeech⟩ := hspoken.speech
  have hposted : posted.conversations[conversationId]? = some row := by
    rw [(addMessage_frame hspeech).2.1, hspoken.registered.conversations]
    exact hrow
  have hended := hspoken.turned
  have hfound := endTurn_found hposted hended
  constructor
  · intro hrecognised
    by_contra hother
    obtain ⟨found, hfound', hcleared, _⟩ := hrecognised.cleared
    have hdiffers : (spokenRow row (clock 0)).expectedSpeaker ≠ some request.actorName := by
      intro hsame
      exact hother (Option.some.inj (hsame.symm.trans hexpects))
    have hkept := takeTurn_unexpected config.policy hdiffers
    rw [hfound] at hfound'
    cases hfound'
    rw [hcleared] at hkept
    exact absurd (hkept.trans hexpects) (by simp)
  · intro hsame
    have hagrees : (spokenRow row (clock 0)).expectedSpeaker = some request.actorName :=
      hexpects.trans (congrArg some hsame.symm)
    rw [takeTurn_expected config.policy hagrees] at hended hfound
    obtain ⟨hunwarned, hsilent⟩ := speech_unwarned hspoken
    unfold endTurn at hended
    cases hended
    exact ⟨⟨_, hfound, rfl, rfl⟩, hunwarned, hsilent⟩

/-! ## Bob, with an at-sign and without -/

/-- `alice` asks, and expects a response from this handle. -/
def asked (handle : String) : State :=
  run (systemStep plainApi) emptyRoom
    [.move (.openConversation "room" (openingOf .inquiry inquiry_ne_general none) (fun _ => 0)
        fun _ => 0),
      .move (.submitSpeech 1 { speechOf "alice" .question with
        expectedResponse := some [("from_actor_handles", .arr [.str handle])] } fun _ => 1)]

/-- The room after `bob` has answered. -/
def answeredTo (handle : String) : State :=
  (exec (submitSpeech plainConfig 1 (speechOf "bob" .answer) fun _ => 2) (asked handle)).2

/-- `alice` has asked `bob`, and his answer resolves the round. -/
theorem bob_recognised : Recognised 1 (asked "bob") (answeredTo "bob") := by
  have hanswers : Answers plainConfig (asked "bob") 1 (speechOf "bob" .answer) (fun _ => 2)
      "bob" (some ⟨1, 2⟩) (answeredTo "bob") := by
    refine ⟨?_, rfl, rfl, rfl⟩
    decide
  apply (recognised_iff hanswers).mpr
  rfl

/-- `alice` has asked `@bob`, and the room goes on waiting for him after his answer. -/
theorem at_bob_unrecognised :
    ¬ ∀ config s conversationId request clock expected eventId after,
      Answers config s conversationId request clock expected eventId after →
        Recognised conversationId s after := by
  intro hall
  have hanswers : Answers plainConfig (asked "@bob") 1 (speechOf "bob" .answer) (fun _ => 2)
      "@bob" (some ⟨1, 2⟩) (answeredTo "@bob") := by
    refine ⟨?_, rfl, ?_, rfl⟩
    · decide
    · decide
  obtain ⟨row, hrow, hcleared, _⟩ := (hall _ _ _ _ _ _ _ _ hanswers).cleared
  have hwaits : expectedIn (answeredTo "@bob") 1 = some "@bob" := by
    decide
  rw [expectedIn_eq hrow, hcleared] at hwaits
  cases hwaits

end OpsCure.Chat
