/-
Are reply-kind whitelists enforced on every recorded reply edge?  The gate looks
at the v2 event id of the request, while the stored edge prefers the mirror of
the v1 message the request names; a whitelist reached that way is not enforced.
-/
import OpsCure.Speech

namespace OpsCure.Chat

open Session Contract V2 PolicyEngine

def EdgeRespected (store : Store) (id : EventId) : Prop :=
  ∀ event trigger allowed action, store.getEvent id = some event →
    event.repliesToEventId.bind store.getEvent = some trigger →
    replyWhitelist trigger = some allowed →
    speechAction event.kind = some action →
    kindWildcard ∈ allowed ∨ action ∈ allowed ∨
      action ∈ universalKinds.map SpeechKind.text

def HiddenWhitelist (s : State) (request : SpeechRequest) : Prop :=
  ∃ messageId message eventId trigger allowed,
    request.repliesToSpeechId = some messageId ∧
    s.messages[messageId]? = some message ∧
    message.v2EventId = some eventId ∧
    request.repliesToV2EventId ≠ some eventId ∧
    s.store.getEvent eventId = some trigger ∧
    replyWhitelist trigger = some allowed ∧
    ¬KindAdmitted allowed request.kind

theorem kindAdmitted_iff {allowed : List String} {kind : SpeechKind} :
    KindAdmitted allowed kind ↔
      kindWildcard ∈ allowed ∨ kind.text ∈ allowed ∨
        kind.text ∈ universalKinds.map SpeechKind.text := by
  have huniversal : kind.text ∈ universalKinds.map SpeechKind.text ↔ kind ∈ universalKinds := by
    constructor
    · intro hmem
      rcases List.mem_map.mp hmem with ⟨other, hother, htext⟩
      rwa [← SpeechKind.text_injective htext]
    · exact List.mem_map_of_mem
  rw [huniversal, KindAdmitted, whitelistAdmits]
  simp only [decide_eq_true_eq]
  tauto

variable {config : Config} {s after gated posted : State} {conversationId : Id}
  {request : SpeechRequest} {clock : Clock} {id : EventId} {row turned : Conversation}
  {options : MirrorOptions}

theorem Submitted.recorded
    (hsubmitted : Submitted config s conversationId request clock (some id) after row gated
      posted options turned) :
    s.store.Extends after.store ∧
      ∃ event, after.store.getEvent id = some event ∧
        event.kind = speechEventKind request.kind ∧
        event.repliesToEventId =
          parentEvent s request.repliesToSpeechId request.repliesToV2EventId ∧
        event.repliesToEventId.all fun parent => (s.store.getEvent parent).isSome := by
  have hgated := (checkSpeechPolicy_eq_ok hsubmitted.gates).1
  have hspeech := hsubmitted.speech
  have hposted : posted.store.Extends after.store := by
    rcases hsubmitted.left with rfl | ⟨_, hwarned⟩
    · exact .refl _
    · have hextends := addMessage_extends hwarned
      exact hextends
  refine ⟨(hgated.store_extends.trans (addMessage_extends hspeech)).trans hposted, _,
    hposted.getEvent (addMessage_getEvent hspeech), rfl, ?_, ?_⟩
  · change parentEvent gated request.repliesToSpeechId options.repliesToV2EventId = _
    rw [hsubmitted.replies, parentEvent, parentEvent, hgated.messages]
  · rcases addMessage_eq_ok.1 hspeech with ⟨_, habsurd, _⟩ | ⟨_, _, _, _, hreply, _, _⟩
    · cases habsurd
    · simp only [hgated.getEvent] at hreply
      exact hreply

theorem Submitted.edgeRespected_iff
    (hsubmitted : Submitted config s conversationId request clock (some id) after row gated
      posted options turned) :
    EdgeRespected after.store id ↔
      ∀ trigger allowed,
        (parentEvent s request.repliesToSpeechId request.repliesToV2EventId).bind
          s.store.getEvent = some trigger →
        replyWhitelist trigger = some allowed → KindAdmitted allowed request.kind := by
  rcases hsubmitted.recorded with ⟨hextends, event, hevent, hkind, hparent, hexists⟩
  have hsame : event.repliesToEventId.bind after.store.getEvent =
      (parentEvent s request.repliesToSpeechId request.repliesToV2EventId).bind
        s.store.getEvent := by
    rw [← hparent]
    cases hreplies : event.repliesToEventId with
    | none => rfl
    | some =>
        rw [hreplies] at hexists
        rcases Option.isSome_iff_exists.mp hexists with ⟨trigger, htrigger⟩
        simp only [Option.bind_some, htrigger, hextends.getEvent htrigger]
  constructor
  · intro hlaw trigger allowed htrigger hallowed
    refine kindAdmitted_iff.2 (hlaw event trigger allowed request.kind.text hevent ?_
      hallowed ?_)
    · rw [hsame, htrigger]
    · rw [hkind, speechAction_speechEventKind]
  · intro hadmitted event' trigger allowed action hevent' htrigger hallowed haction
    rw [hevent] at hevent'
    cases hevent'
    rw [hsame] at htrigger
    rw [hkind, speechAction_speechEventKind] at haction
    cases haction
    exact kindAdmitted_iff.1 (hadmitted trigger allowed htrigger hallowed)

theorem Submitted.admitted
    (hsubmitted : Submitted config s conversationId request clock (some id) after row gated
      posted options turned) {trigger : Event} {allowed : List String}
    (htrigger : request.repliesToV2EventId.bind s.store.getEvent = some trigger)
    (hallowed : replyWhitelist trigger = some allowed) : KindAdmitted allowed request.kind := by
  rcases addMessage_eq_ok.1 hsubmitted.speech with
    ⟨_, habsurd, _⟩ | ⟨operationId, operation, hmirrored, hoperation, _, _, _⟩
  · cases habsurd
  · have hgated := (checkSpeechPolicy_eq_ok hsubmitted.gates).1
    rw [hgated.getOperation] at hoperation
    have hgate := (checkSpeechPolicy_eq_ok hsubmitted.gates).2 operationId operation hmirrored
      hoperation
    have hkind := (checkSpeechAdmissible_eq_ok_iff.1 hgate).2
    exact checkReplyKind_eq_ok_iff.1 hkind trigger allowed htrigger hallowed

theorem parent_admits_iff (hgate : ∀ trigger allowed,
      request.repliesToV2EventId.bind s.store.getEvent = some trigger →
      replyWhitelist trigger = some allowed → KindAdmitted allowed request.kind) :
    (∀ trigger allowed,
      (parentEvent s request.repliesToSpeechId request.repliesToV2EventId).bind
        s.store.getEvent = some trigger →
      replyWhitelist trigger = some allowed → KindAdmitted allowed request.kind) ↔
    ¬HiddenWhitelist s request := by
  cases hnamed : (request.repliesToSpeechId.bind fun id => s.messages[id]?).bind
      (·.v2EventId) with
  | none =>
      have hparent : parentEvent s request.repliesToSpeechId request.repliesToV2EventId =
          request.repliesToV2EventId := by
        rw [parentEvent, hnamed, Option.none_or]
      rw [hparent]
      refine iff_of_true hgate ?_
      rintro ⟨messageId, message, eventId, _, _, hid, hmessage, hevent, _⟩
      simp [hid, hmessage, hevent] at hnamed
  | some eventId =>
      have hparent : parentEvent s request.repliesToSpeechId request.repliesToV2EventId =
          some eventId := by
        rw [parentEvent, hnamed, Option.some_or]
      rw [hparent]
      constructor
      · rintro hadmitted ⟨messageId, message, other, trigger, allowed, hid, hmessage, hevent,
          _, htrigger, hallowed, hexcluded⟩
        have hother : other = eventId := by simpa [hid, hmessage, hevent] using hnamed
        subst hother
        exact hexcluded (hadmitted trigger allowed htrigger hallowed)
      · intro hvisible trigger allowed htrigger hallowed
        by_contra hexcluded
        simp only [Option.bind_eq_some_iff] at hnamed
        rcases hnamed with ⟨message, ⟨messageId, hid, hmessage⟩, hevent⟩
        refine hvisible ⟨messageId, message, eventId, trigger, allowed, hid, hmessage, hevent,
          ?_, htrigger, hallowed, hexcluded⟩
        intro hsame
        exact hexcluded (hgate trigger allowed (by rw [hsame]; exact htrigger) hallowed)

/-- The edge recorded for an accepted speech act respects the whitelist of its parent,
if and only if the request does not reach a whitelist through a v1 message that the
gate never looked at. -/
theorem reply_edge_respected_iff (config : Config) (s after : State) (conversationId : Id)
    (request : SpeechRequest) (clock : Clock) (id : EventId)
    (haccepted : exec (submitSpeech config conversationId request clock) s =
      (.ok (some id), after)) :
    EdgeRespected after.store id ↔ ¬HiddenWhitelist s request := by
  rcases exec_bind_ok.mp haccepted with ⟨_, asked, hasked, hsession⟩
  have hprovisioned : asked = provision config s request.actorName := by
    rw [exec_checkCapability] at hasked
    exact (Prod.mk.inj hasked).2.symm
  have hregisters : Registers s asked := by
    rw [hprovisioned]
    exact registers_provision config s request.actorName
  rcases submitSession_eq_ok (exec_transaction_ok.mp hsession) with
    ⟨row, gated, posted, options, turned, hsubmitted⟩
  have hhidden : HiddenWhitelist asked request ↔ HiddenWhitelist s request := by
    simp only [HiddenWhitelist, hregisters.messages, hregisters.getEvent]
  rw [hsubmitted.edgeRespected_iff, ← hhidden]
  exact parent_admits_iff fun trigger allowed => hsubmitted.admitted

/-- An inquiry in which `alice` asked for an answer from `bob`. -/
def askedRoom : State :=
  (exec (submitSpeech plainConfig 1
    { speechOf "alice" .question with
      expectedResponse := some [("from_actor_handles", .arr [.str "@bob"]),
        ("kinds", .arr [.str "answer"])] }
    fun _ => 0) (roomWith .inquiry inquiry_ne_general none)).2

/-- `bob` answers, naming the question's event: the edge is respected. -/
theorem answer_edge_respected :
    let request := { speechOf "bob" .answer with repliesToV2EventId := some ⟨1, 1⟩ }
    let after := (exec (submitSpeech plainConfig 1 request fun _ => 0) askedRoom).2
    EdgeRespected after.store ⟨1, 2⟩ ↔ ¬HiddenWhitelist askedRoom request :=
  reply_edge_respected_iff plainConfig askedRoom _ 1 _ (fun _ => 0) ⟨1, 2⟩ rfl

/-- `bob` replies with a claim, naming the question's v1 message: the act is
accepted, and recorded under a whitelist that excludes it. -/
theorem claim_slips_past_whitelist :
    let request := { speechOf "bob" .claim with repliesToSpeechId := some 1 }
    let after := (exec (submitSpeech plainConfig 1 request fun _ => 0) askedRoom).2
    exec (submitSpeech plainConfig 1 request fun _ => 0) askedRoom =
      (.ok (some ⟨1, 2⟩), after) ∧ ¬EdgeRespected after.store ⟨1, 2⟩ := by
  refine ⟨rfl, ?_⟩
  intro hlaw
  have hadmitted := hlaw _ _ ["answer"] "claim" rfl rfl rfl rfl
  exact absurd hadmitted (by decide)

end OpsCure.Chat
