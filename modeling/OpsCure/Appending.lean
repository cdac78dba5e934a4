/-
Is a request to append an event atomic?  The speech act commits first.  What the session
after it objects to, in the artifacts of evidence or in the line about an artifact in the
discord post, leaves the act behind.
-/
import OpsCure.SpeechFrame

namespace OpsCure.Api

open Fallible Session Run Contract V2 OperationMirror Chat

/-! ## An operation and its conversation -/

variable {s : State} {row : Conversation} {api : ApiConfig} {store : Store} {request : EventRequest}
  {conversationId : Id} {id : EventId} {clock : Clock}

theorem home_wrote {s₀ : State} {may : Gates} {id : Id} {after : V2.Operation}
    (hbefore : ∀ old before, Mirror s id old before → before.v1ConversationId = id)
    (hwrote : Wrote s₀ may s id row after) : after.v1ConversationId = id := by
  cases hwrote with
  | kept old before hmirror hsame hturn hremains =>
      exact hremains.home.trans (hbefore old before hmirror)
  | founded now hid hopened hunresolved hunowned hunaddressed hquiet hfounded =>
      exact hfounded.home
  | announced policy now before record sent hid hopened hunresolved hquiet hfounded hauthor
      hkind haddressed hafter =>
      rw [hafter]
      exact hfounded.home
  | said before row₀ record now hmirror hknown hstate hmay hafter =>
      rw [hafter]
      exact hbefore row before hmirror
  | closed old before record now closedBy resolution summary closedAt operationClosedAt
      operationNow hmirror hopen hmay hkind hrow hremains =>
      exact hremains.home.trans (hbefore old before hmirror)

theorem reached_homes (api : ApiConfig) (hfresh : Fresh s) (acts : List Act) :
    Mirrored (run (systemStep api) s acts) ∧
      Lawful (fun id _ operation => operation.v1ConversationId = id)
        (run (systemStep api) s acts) := by
  have halong : Along (systemStep api) (fun _ _ => True) s acts := fun _ _ _ => trivial
  refine throughout_lawful api hfresh halong ?_ acts List.prefix_rfl
  intro t act _ _ u id row after _ hbefore hwrote
  exact home_wrote hbefore hwrote

variable {operationId : Id} {b : Bridge} {config : Config} {eventId : Option EventId}
  {effective : Option String} {gated : State}

theorem checkAppend_conversation {speech : SpeechRequest}
    (hok : checkAppend api store operationId request = .ok (conversationId, speech)) :
    ∃ operation, store.getOperation operationId = some operation ∧
      operation.v1ConversationId = conversationId := by
  simp only [checkAppend, v1ConversationId, bind_eq_ok, orRaise_eq_ok, pure_eq_ok,
    Prod.mk.injEq] at hok
  rcases hok with ⟨_, _, _, _, _, _, _, _, _, ⟨operation, hoperation, rfl⟩, _, _, _, _, _, _,
    rfl, _⟩
  exact ⟨operation, hoperation, rfl⟩

/-! ## What the second session objects to -/

/-- The artifacts of a request can be attached, and its discord post can be written. -/
structure Completable (api : ApiConfig) (s : State) (conversationId : Id)
    (request : EventRequest) : Prop where
  attached : speechWord request.kind = SpeechKind.evidence.text →
    ∃ artifacts, payloadArtifacts request.payload = .ok artifacts ∧
      ∀ fields ∈ artifacts, isStorableArtifact (.obj fields)
  forwarded : (discordThread s conversationId).isSome →
    ∃ line, artifactLine api.chat.render ((Json.obj request.payload).get "artifact") =
      .ok line

theorem attachAll_isOk_iff {render : Json → String} {artifacts : List (List (String × Json))} :
    (∃ after, attachAll render store id artifacts clock = .ok after) ↔
      ∀ fields ∈ artifacts, isStorableArtifact (.obj fields) := by
  have hnumbered : ∀ (rows : List (List (String × Json) × Nat)) (store : Store),
      (∃ after, rows.foldlM (fun store fields =>
        attachArtifact render store id (.obj fields.1) (clock fields.2)) store = .ok after) ↔
      ∀ row ∈ rows, isStorableArtifact (.obj row.1) := by
    intro rows
    induction rows with
    | nil =>
        intro store
        exact iff_of_true ⟨store, rfl⟩ fun _ hrow => absurd hrow List.not_mem_nil
    | cons row rows ih =>
        intro store
        rw [List.forall_mem_cons, List.foldlM_cons]
        constructor
        · rintro ⟨after, hok⟩
          rcases bind_eq_ok.1 hok with ⟨attached, hattached, hrest⟩
          exact ⟨attachArtifact_isOk_iff.1 ⟨attached, hattached⟩, (ih attached).mp ⟨after, hrest⟩⟩
        · rintro ⟨hfirst, hall⟩
          rcases attachArtifact_isOk_iff.2 hfirst with ⟨attached, hattached⟩
          rcases (ih attached).mpr hall with ⟨after, hrest⟩
          exact ⟨after, bind_eq_ok.2 ⟨attached, hattached, hrest⟩⟩
  have hrows : artifacts.zipIdx.map Prod.fst = artifacts := List.zipIdx_map_fst _ _
  rw [attachAll, hnumbered]
  constructor
  · intro hall fields hfields
    rw [← hrows] at hfields
    rcases List.mem_map.mp hfields with ⟨row, hrow, rfl⟩
    exact hall row hrow
  · intro hall row hrow
    apply hall
    rw [← hrows]
    exact List.mem_map_of_mem hrow

theorem finishEvent_isOk_iff :
    (∃ after, finishEvent api store id request clock = .ok after) ↔
      (speechWord request.kind = SpeechKind.evidence.text →
        ∃ artifacts, payloadArtifacts request.payload = .ok artifacts ∧
          ∀ fields ∈ artifacts, isStorableArtifact (.obj fields)) := by
  have hfinished : (∃ after, finishEvent api store id request clock = .ok after) ↔
      ∃ attached, attachEvidence api (patchReply store id request.repliesToEventId) id request
        clock = .ok attached := by
    simp only [finishEvent, bind_eq_ok, pure_eq_ok]
    constructor
    · rintro ⟨_, attached, hattached, _⟩
      exact ⟨attached, hattached⟩
    · rintro ⟨attached, hattached⟩
      exact ⟨_, attached, hattached, rfl⟩
  rw [hfinished, attachEvidence]
  by_cases hevidence : speechWord request.kind = SpeechKind.evidence.text
  · simp only [hevidence, if_true, bind_eq_ok, mapError_eq_ok, forall_const]
    constructor
    · rintro ⟨attached, artifacts, hartifacts, hall⟩
      exact ⟨artifacts, hartifacts, attachAll_isOk_iff.1 ⟨attached, hall⟩⟩
    · rintro ⟨artifacts, hartifacts, hall⟩
      rcases attachAll_isOk_iff.2 hall with ⟨attached, hattached⟩
      exact ⟨attached, artifacts, hartifacts, hattached⟩
  · simp [hevidence]

theorem forwardedPost_isOk_iff :
    (∃ posts, forwardedPost api s conversationId request = .ok posts) ↔
      ((discordThread s conversationId).isSome → ∃ line,
        artifactLine api.chat.render ((Json.obj request.payload).get "artifact") = .ok line) := by
  unfold forwardedPost
  cases discordThread s conversationId with
  | none => simp
  | some =>
      simp only [Option.isSome_some, forall_const, bind_eq_ok, pure_eq_ok]
      constructor
      · rintro ⟨_, line, hline, _⟩
        exact ⟨line, hline⟩
      · rintro ⟨line, hline⟩
        exact ⟨_, line, hline, rfl⟩

theorem finishAppend_isOk_iff (hevent : (b.chat.store.getEvent id).isSome) :
    (∃ result, finishAppend api b conversationId (some id) request clock = .ok result) ↔
      Completable api b.chat conversationId request := by
  constructor
  · rintro ⟨⟨body, after⟩, hok⟩
    rcases finishAppend_eq_ok.1 hok with ⟨_, store, _, posts, _, hstore, _, hposts, _, _⟩
    exact ⟨finishEvent_isOk_iff.1 ⟨store, hstore⟩, forwardedPost_isOk_iff.1 ⟨posts, hposts⟩⟩
  · intro hcompletable
    rcases finishEvent_isOk_iff.2 hcompletable.attached with ⟨store, hstore⟩
    rcases forwardedPost_isOk_iff.2 hcompletable.forwarded with ⟨posts, hposts⟩
    have hthere : (store.getEvent id).isSome := by
      refine getEvent_of_grown ?_ hevent
      intro other row hrow
      rcases (marks_finishEvent hstore).rows other row hrow with ⟨marked, hmarked, hremains⟩
      exact ⟨marked, hmarked, .of_remains hremains⟩
    rcases Option.isSome_iff_exists.mp hthere with ⟨event, hevent⟩
    exact ⟨_, finishAppend_eq_ok.2 ⟨id, store, event, posts, rfl, hstore, hevent, hposts,
      rfl, rfl⟩⟩

/-! ## The stages of a request -/

/-- What a request to append an event comes to: a check before the speech act fails, or the
act is refused, or it is accepted and published, and the session after it goes through or
raises. -/
inductive Outcome (api : ApiConfig) (operationId : Id) (request : EventRequest)
    (clock finishClock : Clock) (b : Bridge) : Prop
  | unchecked (error : ApiError)
      (hchecked : checkAppend api b.chat.store operationId request = .error error)
      (hexec : exec (appendEvent api operationId request clock finishClock) b = (.error error, b))
  | refused (conversationId : Id) (speech : SpeechRequest) (error : ApiError) (after : Bridge)
      (hchecked : checkAppend api b.chat.store operationId request =
        .ok (conversationId, speech))
      (hrefused : ¬ ∃ row effective,
        SpeechPasses api.chat b.chat conversationId speech row effective)
      (hregisters : Registers b.chat after.chat) (hquiet : after.inboxes = b.inboxes)
      (hexec : exec (appendEvent api operationId request clock finishClock) b =
        (.error error, after))
  | spoken (conversationId : Id) (speech : SpeechRequest) (eventId : Option EventId)
      (posted : Bridge) (row : Conversation) (effective : Option String)
      (gated said : State)
      (hchecked : checkAppend api b.chat.store operationId request =
        .ok (conversationId, speech))
      (hspoken : Spoken api.chat b.chat conversationId speech clock eventId posted.chat row
        effective gated said)
      (hposted : posted =
        (exec (publishing (submitSpeech api.chat conversationId speech clock)) b).2)
      (hexec : exec (appendEvent api operationId request clock finishClock) b =
        match finishAppend api posted conversationId eventId request finishClock with
        | .ok (body, after) => (.ok body, after)
        | .error error => (.error error, posted))

theorem appendEvent_outcome (api : ApiConfig) (operationId : Id) (request : EventRequest)
    (clock finishClock : Clock) (b : Bridge) :
    Outcome api operationId request clock finishClock b := by
  have hexec : exec (appendEvent api operationId request clock finishClock) b =
      match checkAppend api b.chat.store operationId request with
      | .error error => (.error error, b)
      | .ok (conversationId, speech) =>
          match exec (publishing (submitSpeech api.chat conversationId speech clock)) b with
          | (.error error, after) => (.error (.chat error), after)
          | (.ok eventId, posted) =>
              match finishAppend api posted conversationId eventId request finishClock with
              | .ok (body, after) => (.ok body, after)
              | .error error => (.error error, posted) := by
    rw [appendEvent, exec_bind, exec_query]
    cases checkAppend api b.chat.store operationId request with
    | error => rfl
    | ok checked =>
        simp only [exec_bind, exec_fromChat]
        rcases exec (publishing (submitSpeech api.chat checked.1 checked.2 clock)) b
          with ⟨error | eventId, posted⟩
        · rfl
        · simp only [Except.mapError]
          rw [exec_transaction]
          rcases finishAppend api posted checked.1 eventId request finishClock with
            error | ⟨body, after⟩ <;> rfl
  cases hchecked : checkAppend api b.chat.store operationId request with
  | error error =>
      rw [hchecked] at hexec
      exact .unchecked error hchecked hexec
  | ok checked =>
      rcases checked with ⟨conversationId, speech⟩
      rw [hchecked] at hexec
      have hpublish := exec_publishing_eq (submitSpeech api.chat conversationId speech clock) b
      rcases submitSpeech_cases api.chat conversationId speech clock b.chat with
        ⟨hrefused, error, hsubmit⟩ |
        ⟨eventId, after, row, effective, gated, said, hspoken, hsubmit⟩
      · rw [hsubmit] at hpublish
        simp only [hpublish] at hexec
        have hregisters := registers_provision api.chat b.chat speech.actorName
        exact .refused conversationId speech (.chat error)
          { b with chat := provision api.chat b.chat speech.actorName } hchecked hrefused
          hregisters rfl hexec
      · rw [hsubmit] at hpublish
        simp only [hpublish] at hexec
        refine .spoken conversationId speech eventId _ row effective gated said hchecked ?_ ?_
          hexec
        · rw [foldl_publishMessage_chat]
          exact hspoken
        · rw [hpublish]

/-! ## The theorem -/

/-- What a request that fails may not touch: the log of its operation and who takes part in
it, whose turn it is anywhere, and every inbox. -/
structure Untouched (operationId : Id) (b after : Bridge) : Prop where
  log : after.chat.store.log operationId = b.chat.store.log operationId
  participants : after.chat.store.listParticipants operationId =
    b.chat.store.listParticipants operationId
  gauges : after.chat.conversations.map Conversation.gauge =
    b.chat.conversations.map Conversation.gauge
  inboxes : after.inboxes = b.inboxes

/-- When the speech act of a request is accepted, the rest of the request goes through. -/
def Completes (api : ApiConfig) (s : State) (operationId : Id) (request : EventRequest) :
    Prop :=
  ∀ conversationId speech,
    checkAppend api s.store operationId request = .ok (conversationId, speech) →
    (∃ row effective, SpeechPasses api.chat s conversationId speech row effective) →
    Completable api s conversationId request

theorem Untouched.of_registers {after : Bridge} (hregisters : Registers b.chat after.chat)
    (hquiet : after.inboxes = b.inboxes) :
    Untouched operationId b after where
  log := Store.log_congr hregisters.operations operationId
  participants := by
    rw [Store.listParticipants, Store.listParticipants, hregisters.getOperation]
  gauges := by rw [hregisters.conversations]
  inboxes := hquiet

theorem discordThread_spoken {after : State} {request : SpeechRequest} {said : State}
    (hspoken : Spoken config s conversationId request clock eventId after row effective gated
      said) : discordThread after conversationId = discordThread s conversationId := by
  rcases hspoken.thread with ⟨hthreads, turned, hturned, hsame⟩
  rw [discordThread, discordThread, hthreads, hturned, hspoken.passes.found]
  simp only [Option.bind_some, hsame]

theorem log_spoken_ne {after : State} {request : SpeechRequest} {said : State}
    (hspoken : Spoken config s conversationId request clock eventId after row effective gated
      said) (hmirrored : Mirrored s) :
    after.store.log conversationId ≠ s.store.log conversationId := by
  intro hsame
  rcases hspoken.log with ⟨expected, hlogs⟩
  rcases hlogs conversationId with ⟨warnings, hlog, _⟩
  rw [if_pos (hmirrored.linked _ _ hspoken.passes.found), hsame] at hlog
  have hlength := congrArg List.length hlog
  simp at hlength

/-- In every reachable state, a request that fails leaves nothing behind exactly when its
speech act is not accepted or the rest of it goes through. -/
theorem append_atomic_iff (api : ApiConfig) {s : State} (hfresh : Fresh s) (acts : List Act)
    {b : Bridge} (hreached : b.chat = run (systemStep api) s acts) (operationId : Id)
    (request : EventRequest) (clock finishClock : Clock) :
    (∀ error after, exec (appendEvent api operationId request clock finishClock) b =
        (.error error, after) → Untouched operationId b after) ↔
      Completes api b.chat operationId request := by
  rcases reached_homes api hfresh acts with ⟨hmirrored, hhomes⟩
  rw [← hreached] at hmirrored hhomes
  cases appendEvent_outcome api operationId request clock finishClock b with
  | unchecked error hchecked hexec =>
      apply iff_of_true
      · intro _ after hraised
        rw [hexec] at hraised
        cases hraised
        exact .of_registers (.refl b.chat) rfl
      · intro _ _ hpassed
        rw [hchecked] at hpassed
        cases hpassed
  | refused conversationId speech error after hchecked hrefused hregisters hquiet hexec =>
      apply iff_of_true
      · intro _ left hraised
        rw [hexec] at hraised
        cases hraised
        exact .of_registers hregisters hquiet
      · intro _ _ hpassed hpasses
        rw [hchecked] at hpassed
        cases hpassed
        exact absurd hpasses hrefused
  | spoken conversationId speech eventId posted row effective gated said hchecked hspoken
      hposted hexec =>
      rcases checkAppend_conversation hchecked with ⟨operation, hoperation, hhome⟩
      have hlt := (List.getElem?_eq_some_iff.mp hoperation).1
      rw [← hmirrored.lengths] at hlt
      rcases hmirrored.mirror hlt with ⟨found, same, hmirror⟩
      have hthis : conversationId = operationId := by
        rw [← hhome, Option.some.inj (hoperation.symm.trans hmirror.operation)]
        exact hhomes operationId found same hmirror
      rcases hspoken.event hmirrored with ⟨id, rfl, _, hevent⟩
      have hfinish : (∃ result, finishAppend api posted conversationId (some id) request
          finishClock = .ok result) ↔ Completable api b.chat conversationId request := by
        rw [finishAppend_isOk_iff hevent]
        constructor
        · rintro ⟨hattached, hforwarded⟩
          rw [discordThread_spoken hspoken] at hforwarded
          exact ⟨hattached, hforwarded⟩
        · rintro ⟨hattached, hforwarded⟩
          rw [← discordThread_spoken hspoken] at hforwarded
          exact ⟨hattached, hforwarded⟩
      cases hfinished : finishAppend api posted conversationId (some id) request finishClock with
      | ok result =>
          have hcompletable := hfinish.mp ⟨result, hfinished⟩
          apply iff_of_true
          · intro error after hraised
            rw [hexec, hfinished] at hraised
            cases hraised
          · intro _ _ hpassed _
            rw [hchecked] at hpassed
            cases hpassed
            exact hcompletable
      | error error =>
          apply iff_of_false
          · intro hatomic
            rw [hfinished] at hexec
            have huntouched := hatomic error posted hexec
            apply log_spoken_ne hspoken hmirrored
            rw [hthis]
            exact huntouched.log
          · intro hcompletes
            have hcompletable := hcompletes conversationId speech hchecked
              ⟨row, effective, hspoken.passes⟩
            rcases hfinish.mpr hcompletable with ⟨result, hok⟩
            rw [hfinished] at hok
            cases hok

/-! ## Requests into an inquiry -/

def openInquiry : Act :=
  .move (.openConversation "room" (openingOf .inquiry inquiry_ne_general none) (fun _ => 0)
    fun _ => 0)

/-- The room with an inquiry of `alice`'s, and nothing pushed yet. -/
def inquiryBridge : Bridge := Bridge.of (run (systemStep plainApi) emptyRoom [openInquiry])

/-- A request of `carol`'s with nothing but its kind and payload. -/
def requestOf (kind : String) (payload : List (String × Json)) : EventRequest where
  actorHandle := "@carol"
  kind := kind
  payload := payload
  addressedTo := none
  addressedToMany := none
  repliesToEventId := none
  privateToActors := none
  expectedResponse := none
  actorToken := none

/-- A claim with a malformed `expected_response`. -/
def vagueClaim : EventRequest :=
  { requestOf "speech.claim" [("text", .str "done")] with
    expectedResponse := some [("by_round_seq", .int (-1))] }

/-- The malformed `expected_response` is refused before anything is written. -/
theorem vague_claim_leaves_nothing :
    let outcome := exec (appendEvent plainApi 1 vagueClaim (fun _ => 1) fun _ => 2)
      inquiryBridge
    outcome.1.isOk = false ∧ Untouched 1 inquiryBridge outcome.2 := by
  have hatomic := (append_atomic_iff plainApi ⟨rfl, rfl⟩ [openInquiry] (b := inquiryBridge) rfl 1
    vagueClaim (fun _ => 1) fun _ => 2).mpr
  have hfailed : (exec (appendEvent plainApi 1 vagueClaim (fun _ => 1) fun _ => 2)
      inquiryBridge).1.isOk = false := by
    decide
  refine ⟨hfailed, ?_⟩
  rcases houtcome : exec (appendEvent plainApi 1 vagueClaim (fun _ => 1) fun _ => 2)
    inquiryBridge with ⟨error | body, after⟩
  · refine hatomic ?_ error after houtcome
    intro conversationId speech _ _
    refine ⟨fun hevidence => ?_, fun _ => ⟨"", rfl⟩⟩
    exact absurd hevidence (by decide)
  · rw [houtcome] at hfailed
    cases hfailed

/-- Evidence whose artifact lacks its fields is answered by an error, and stays. -/
theorem half_evidence_stays :
    ¬ ∀ error after, exec (appendEvent plainApi 1
        (requestOf "speech.evidence" [("text", .str "done"),
          ("artifact", .obj [("uri", .str "file")])]) (fun _ => 1) fun _ => 2)
        inquiryBridge = (.error error, after) →
      Untouched 1 inquiryBridge after := by
  intro hatomic
  have hsame := congrArg List.length (hatomic _ _ rfl).log
  exact absurd hsame (by decide)

end OpsCure.Api
