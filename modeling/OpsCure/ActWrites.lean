/-
Every act is a run of writes: what the programs of the services do, taken apart into the
writes they make under the gates they pass.
-/
import OpsCure.Writes

namespace OpsCure.Chat

open Fallible Session Table Contract V2 OperationMirror RemoteTask

/-! ## Speech -/

/-- The parts of an accepted speech act. -/
structure Spoken (config : Config) (s : State) (conversationId : Id)
    (request : SpeechRequest) (clock : Clock) (eventId : Option EventId) (after : State)
    (row : Conversation) (effective : Option String) (gated posted : State) : Prop where
  passes : SpeechPasses config s conversationId request row effective
  registered : Registers s gated
  speech : ∃ expected, addMessage gated row
    (speechMessage config conversationId row request (clock 1))
    { privateToActors := request.privateToActors
      expectedResponse := expected
      repliesToV2EventId := request.repliesToV2EventId } (clock 2) = .ok (posted, eventId)
  turned : endTurn config posted conversationId
    (takeTurn config.policy (spokenRow row (clock 0)) request.actorName effective) clock =
    .ok after

theorem takeTurn_spokenRow (policy : ChatPolicyConfig) (row : Conversation) (now : Time)
    (actorName : String) (effective : Option String) :
    takeTurn policy (spokenRow row now) actorName effective =
      (spokenRow (takeTurn policy row actorName effective).1 now,
        (takeTurn policy row actorName effective).2) := by
  cases effective with
  | some => rfl
  | none =>
      unfold takeTurn spokenRow
      by_cases hexpected : some actorName = row.expectedSpeaker
      · simp only [if_pos hexpected]
      · simp only [if_neg hexpected]
        by_cases hpresent : Text.present row.expectedSpeaker
        · simp only [if_pos hpresent]
        · simp only [if_neg hpresent]

variable {effective : Option String}

theorem takeTurn_trips {policy : ChatPolicyConfig} {row : Conversation} {actorName : String}
    (htrips : (takeTurn policy row actorName effective).2 = true) :
    row.unaddressedSpeechCount + 1 = policy.overSpeechThreshold := by
  cases effective with
  | some => cases htrips
  | none =>
      simp only [takeTurn] at htrips
      split_ifs at htrips
      exact of_decide_eq_true htrips

variable {s : State} {conversationId : Id}

theorem endTurn_isOk {config : Config} {turn : Conversation × Bool} {clock : Clock}
    (hexists : ∀ operationId, turn.1.v2OperationId = some operationId →
      (s.store.getOperation operationId).isSome) :
    ∃ after, endTurn config s conversationId turn clock = .ok after := by
  unfold endTurn
  by_cases htrips : turn.2 = true
  · have hwarned : ∃ after eventId, addMessage (s.setConversation conversationId turn.1) turn.1
        (overSpeechMessage config.policy conversationId turn.1 (clock 3)) {} (clock 4) =
          .ok (after, eventId) :=
      addMessage_isOk rfl hexists
    rcases hwarned with ⟨after, eventId, hadded⟩
    refine ⟨after, ?_⟩
    rw [if_pos htrips]
    simp only [hadded]
    rfl
  · exact ⟨_, by rw [if_neg htrips]⟩

theorem takeTurn_v2OperationId (policy : ChatPolicyConfig) (row : Conversation)
    (actorName : String) (effective : Option String) :
    (takeTurn policy row actorName effective).1.v2OperationId = row.v2OperationId :=
  congrArg Entry.v2OperationId (takeTurn_entry policy row actorName effective)

theorem submitSession_spoken {config : Config} {after : State} {request : SpeechRequest}
    {clock : Clock} {eventId : Option EventId}
    (hpermitted : permits config s request.actorName .speechSubmit)
    (hok : submitSession config (provision config s request.actorName) conversationId request
      clock = .ok (eventId, after)) :
    ∃ row effective gated posted,
      Spoken config s conversationId request clock eventId after row effective gated posted := by
  have hasked := registers_provision config s request.actorName
  simp only [submitSession, getConversation, bind_eq_ok, orRaise_eq_ok, require_eq_ok,
    mapError_eq_ok, pure_eq_ok, Prod.exists, Prod.mk.injEq] at hok
  rcases hok with ⟨row, hfound, _, hopened, effective, haddressed, _, hreplied, expected,
    hexpected, gated, hgates, posted, speechId, hspeech, left, hturned, rfl, rfl⟩
  have hgated := hasked.trans (checkSpeechPolicy_eq_ok hgates).1
  rw [hasked.conversations] at hfound
  rw [hasked.messages] at hreplied
  refine ⟨row, effective, gated, posted, ⟨hpermitted, hfound, hopened, haddressed, hreplied,
    ⟨expected, hexpected⟩, ⟨gated, hgates⟩, ?_⟩, hgated, ⟨expected, hspeech⟩, hturned⟩
  intro operationId hmirror
  rcases addMessage_eq_ok.1 hspeech with
    ⟨hnone, _⟩ | ⟨_, operation, hsome, hoperation, hparent, _⟩
  · rw [hnone] at hmirror
    cases hmirror
  · rw [hsome] at hmirror
    cases hmirror
    rw [hgated.getOperation] at hoperation
    refine ⟨by rw [hoperation]; rfl, ?_⟩
    simpa only [mirrorRecord, speechMessage, parentEvent, hgated.messages,
      hgated.getEvent] using hparent

theorem submitSession_of_passes {config : Config} {request : SpeechRequest} {row : Conversation}
    (clock : Clock) (hpasses : SpeechPasses config s conversationId request row effective) :
    ∃ eventId after, submitSession config (provision config s request.actorName)
      conversationId request clock = .ok (eventId, after) := by
  have hasked := registers_provision config s request.actorName
  rcases hpasses.policy with ⟨gated, hgates⟩
  rcases hpasses.expected with ⟨expected, hexpected⟩
  have hgated := hasked.trans (checkSpeechPolicy_eq_ok hgates).1
  let options : MirrorOptions :=
    { privateToActors := request.privateToActors
      expectedResponse := expected
      repliesToV2EventId := request.repliesToV2EventId }
  let message := speechMessage config conversationId row request (clock 1)
  have hspeech : ∃ posted eventId,
      addMessage gated row message options (clock 2) = .ok (posted, eventId) := by
    cases hmirror : row.v2OperationId with
    | none => exact ⟨_, _, addMessage_eq_ok.2 (Or.inl ⟨hmirror, rfl, rfl⟩)⟩
    | some operationId =>
        rcases hpasses.mirrored operationId hmirror with ⟨hexists, hparent⟩
        rcases Option.isSome_iff_exists.mp hexists with ⟨operation, hoperation⟩
        rw [← hgated.getOperation] at hoperation
        refine ⟨_, _, addMessage_eq_ok.2 (Or.inr ⟨operationId, operation, hmirror,
          hoperation, ?_, rfl, rfl⟩)⟩
        simpa only [options, message, mirrorRecord, speechMessage, parentEvent,
          hgated.messages, hgated.getEvent] using hparent
  rcases hspeech with ⟨posted, eventId, hspeech⟩
  have hturned : ∃ after, endTurn config posted conversationId
      (takeTurn config.policy (spokenRow row (clock 0)) request.actorName effective)
      clock = .ok after := by
    apply endTurn_isOk
    intro operationId hmirror
    rw [takeTurn_v2OperationId] at hmirror
    rw [← Store.isSome_kindState, (addMessage_grows hspeech).kindState,
      Store.isSome_kindState, hgated.getOperation]
    exact (hpasses.mirrored operationId hmirror).1
  rcases hturned with ⟨after, hturned⟩
  refine ⟨eventId, after, ?_⟩
  simp only [submitSession, getConversation, bind_eq_ok, orRaise_eq_ok, require_eq_ok,
    mapError_eq_ok, pure_eq_ok, Prod.exists, Prod.mk.injEq]
  refine ⟨row, ?_, ⟨⟩, hpasses.opened, effective, hpasses.addressed, ⟨⟩, ?_, expected,
    hexpected, gated, hgates, posted, eventId, hspeech, after, hturned, rfl, rfl⟩
  · rw [hasked.conversations]
    exact hpasses.found
  · rw [hasked.messages]
    exact hpasses.replied

theorem submitSpeech_cases (config : Config) (conversationId : Id) (request : SpeechRequest)
    (clock : Clock) (s : State) :
    (¬ (∃ row effective, SpeechPasses config s conversationId request row effective) ∧
      ∃ error, exec (submitSpeech config conversationId request clock) s =
        (.error error, provision config s request.actorName)) ∨
    ∃ eventId after row effective gated posted,
      Spoken config s conversationId request clock eventId after row effective gated posted ∧
        exec (submitSpeech config conversationId request clock) s = (.ok eventId, after) := by
  rw [submitSpeech, exec_bind, exec_checkCapability]
  by_cases hpermitted : permits config s request.actorName .speechSubmit
  · simp only [hpermitted, if_true, exec_transaction]
    rcases hsession : submitSession config (provision config s request.actorName)
      conversationId request clock with error | ⟨eventId, after⟩
    · left
      refine ⟨?_, error, rfl⟩
      rintro ⟨row, effective, hpasses⟩
      rcases submitSession_of_passes clock hpasses with ⟨eventId, after, hok⟩
      rw [hsession] at hok
      cases hok
    · right
      rcases submitSession_spoken hpermitted hsession with
        ⟨row, effective, gated, posted, hspoken⟩
      exact ⟨eventId, after, row, effective, gated, posted, hspoken, rfl⟩
  · left
    simp only [hpermitted]
    refine ⟨?_, _, rfl⟩
    rintro ⟨row, effective, hpasses⟩
    exact hpermitted hpasses.permitted

section Sessions

variable {config : Config} {s₀ : State} {may : Gates}

variable {s t : State} {conversationId : Id} {clock : Clock}

theorem Writes.one (hwrite : Write config s₀ may s t) : Writes config s₀ may s t :=
  Relation.ReflTransGen.single hwrite

theorem Writes.refl (s : State) : Writes config s₀ may s s :=
  Relation.ReflTransGen.refl

theorem Writes.andThen {u : State} (hfirst : Writes config s₀ may s t)
    (hlast : Write config s₀ may t u) : Writes config s₀ may s u :=
  Relation.ReflTransGen.tail hfirst hlast

theorem takeTurn_charter (policy : ChatPolicyConfig) (row : Conversation)
    (actorName : String) (effective : Option String) :
    (takeTurn policy row actorName effective).1.charter = row.charter := by
  unfold takeTurn
  split
  · rfl
  · split_ifs <;> rfl

variable {row₀ : Conversation} {id : Id} {threshold : Int} {eventId : Option EventId}

theorem endTurn_writes {after : State} {row : Conversation} {turn : Conversation × Bool}
    (hknown : s₀.conversations[conversationId]? = some row₀)
    (hfound : s.conversations[conversationId]? = some row) (hstate : row.state = row₀.state)
    (hsame : turn.1.charter = row.charter)
    (hturn : may.turn conversationId row.gauge turn.1.gauge)
    (hmay : turn.2 = true → may.post conversationId "system" eventConversationOverSpeech)
    (hok : endTurn config s conversationId turn clock = .ok after) :
    Writes config s₀ may s after := by
  have hnoted : Writes config s₀ may s (s.setConversation conversationId turn.1) :=
    .one (.notes hfound hsame (Or.inr hturn))
  unfold endTurn at hok
  by_cases htrips : turn.2 = true
  · rw [if_pos htrips] at hok
    simp only [bind_eq_ok, pure_eq_ok, Prod.exists] at hok
    rcases hok with ⟨_, warningId, hwarned, rfl⟩
    have hturned : (s.setConversation conversationId turn.1).conversations[conversationId]? =
        some turn.1 := getElem?_update_self hfound
    have hkept : turn.1.state = row₀.state := (congrArg Prod.fst hsame).trans hstate
    exact hnoted.andThen (.posts hknown hturned hkept (hmay htrips) hwarned)
  · rw [if_neg htrips] at hok
    cases hok
    exact hnoted

theorem submitSpeech_writes (config : Config) (conversationId : Id) (request : SpeechRequest)
    (clock : Clock) (s : State) :
    Writes config s (Move.gates config s (.submitSpeech conversationId request clock)) s
      (exec (submitSpeech config conversationId request clock) s).2 := by
  rcases submitSpeech_cases config conversationId request clock s with
    ⟨_, error, hexec⟩ | ⟨eventId, after, row, effective, gated, posted, hspoken, hexec⟩
  · rw [hexec]
    exact .one (.registers (registers_provision config s request.actorName))
  · rw [hexec]
    rcases hspoken.speech with ⟨expected, hspeech⟩
    have hgated : gated.conversations[conversationId]? = some row := by
      rw [hspoken.registered.conversations]
      exact hspoken.passes.found
    have hposted : posted.conversations[conversationId]? = some row := by
      rw [(addMessage_frame hspeech).2.1]
      exact hgated
    let may := Move.gates config s (.submitSpeech conversationId request clock)
    have hmay : may.post conversationId request.actorName (speechEventKind request.kind) :=
      MayPost.spoke hspoken.passes
    have hspoke : Writes config s may s posted :=
      Writes.andThen (.one (.registers hspoken.registered))
        (.posts hspoken.passes.found hgated rfl hmay hspeech)
    refine hspoke.trans
      (endTurn_writes hspoken.passes.found hposted rfl ?_ ?_ ?_ hspoken.turned)
    · exact takeTurn_charter _ _ _ _
    · rw [takeTurn_spokenRow]
      exact .spoke hspoken.passes
    · intro htrips
      rw [takeTurn_spokenRow] at htrips
      exact .overSpoke hspoken.passes htrips

/-! ## Handoff -/

theorem transferOwner_writes (config : Config) (conversationId : Id)
    (byActor newOwner : String) (reason : Option String) (clock : Clock) (s : State) :
    Writes config s
      (Move.gates config s (.transferOwner conversationId byActor newOwner reason clock)) s
      (exec (transferOwner config conversationId byActor newOwner reason clock) s).2 := by
  have hasked := registers_provision config s byActor
  rw [transferOwner, exec_bind, exec_checkCapability]
  by_cases hpermitted : permits config s byActor .conversationHandoff
  · simp only [hpermitted, if_true, exec_transaction]
    rcases hsession : transferSession (provision config s byActor) conversationId byActor
      newOwner reason clock with error | ⟨result, after⟩
    · exact .one (.registers hasked)
    · simp only [transferSession, getConversation, bind_eq_ok, orRaise_eq_ok, require_eq_ok,
        pure_eq_ok, Prod.exists, Prod.mk.injEq] at hsession
      rcases hsession with ⟨row, hfound, _, hgeneral, _, hopened, _, hunbound, _, hauthorized,
        posted, eventId, hadded, _, rfl⟩
      have hknown := hfound
      rw [hasked.conversations] at hknown
      have hpasses : HandoffPasses config s conversationId byActor row := by
        refine ⟨hpermitted, hknown, hgeneral, hopened, hunbound, hauthorized, ?_⟩
        intro operationId hmirror
        rcases addMessage_eq_ok.1 hadded with ⟨hnone, _⟩ | ⟨_, operation, hsome, hoperation, _⟩
        · exact absurd (hnone.symm.trans hmirror) (by simp)
        · have hsame := hsome.symm.trans hmirror
          cases hsame
          have hthere : s.store.getOperation operationId = some operation :=
            (hasked.getOperation operationId).symm.trans hoperation
          rw [hthere]
          rfl
      let owned := { row with ownerActor := some newOwner, expectedSpeaker := some newOwner }
      let may := Move.gates config s
        (.transferOwner conversationId byActor newOwner reason clock)
      have hmay : may.post conversationId byActor eventConversationHandoff :=
        MayPost.handedOff hpasses
      have hturn : may.turn conversationId row.gauge owned.gauge := MayTurn.handedOff hpasses
      have hwritten : ((provision config s byActor).setConversation conversationId
          owned).conversations[conversationId]? = some owned :=
        getElem?_update_self hfound
      have hnoted : Writes config s may s
          ((provision config s byActor).setConversation conversationId owned) :=
        Writes.andThen (.one (.registers hasked)) (.notes hfound rfl (Or.inr hturn))
      exact hnoted.andThen (.posts hknown hwritten rfl hmay hadded)
  · simp only [hpermitted]
    exact .one (.registers hasked)

/-! ## System events -/

theorem emitSystemEvent_writes (config : Config) (conversationId : Id) (kind : String)
    (addressedToHandle : Option String) (parent : Option EventId)
    (payload : List (String × Json)) (clock : Clock) (s : State) :
    Writes config s (Move.gates config s
        (.emitSystemEvent conversationId kind addressedToHandle parent payload clock)) s
      (exec (emitSystemEvent conversationId kind addressedToHandle parent payload clock)
        s).2 := by
  rw [emitSystemEvent_state]
  rcases hsession : emitSession s conversationId kind addressedToHandle parent payload clock
    with error | ⟨eventId, after⟩
  · exact .refl s
  · rcases emitSession_eq_ok.1 hsession with ⟨row, hfound, hadded⟩
    have hpasses : EmitPasses s conversationId parent row := by
      refine ⟨hfound, ?_⟩
      intro operationId hmirror
      rcases addMessage_eq_ok.1 hadded with
        ⟨hnone, _⟩ | ⟨_, operation, hsome, hoperation, hparent, _⟩
      · rw [hnone] at hmirror
        cases hmirror
      · rw [hsome] at hmirror
        cases hmirror
        exact ⟨by rw [hoperation]; rfl, hparent⟩
    have hmay : (Move.gates config s (.emitSystemEvent conversationId kind addressedToHandle
        parent payload clock)).post conversationId "system" kind := MayPost.emitted hpasses
    exact .one (.posts hfound hfound rfl hmay hadded)

/-! ## Closing -/

/-- A close is refused, having registered its closer at most, or it goes through. -/
theorem closeConversation_cases (config : Config) (conversationId : Id)
    (closedBy resolution : String) (summary : Option String) (bypass : Bool) (clock : Clock)
    (s : State) :
    let ended := exec (closeConversation config conversationId closedBy resolution summary
      bypass clock) s
    (∃ error, ended.1 = .error error) ∧ Registers s ended.2 ∨ ∃ row gated result,
      ClosePasses config s conversationId closedBy resolution bypass row ∧
        Registers s gated ∧
        closeSession config gated conversationId row closedBy resolution summary bypass clock =
          .ok (result, ended.2) ∧ ended.1 = .ok result := by
  intro ended
  have hended : ended = exec (closeConversation config conversationId closedBy resolution
    summary bypass clock) s := rfl
  rw [exec_closeConversation] at hended
  cases hrow : requireClosable s conversationId with
  | error error =>
      rw [hrow] at hended
      rw [hended]
      exact Or.inl ⟨⟨error, rfl⟩, .refl s⟩
  | ok row =>
      rw [hrow] at hended
      cases bypass with
      | true =>
          simp only [if_true, exec_transaction] at hended
          rcases hclose : closeSession config s conversationId row closedBy resolution summary
            true clock with error | ⟨result, after⟩
          · rw [hclose] at hended
            rw [hended]
            exact Or.inl ⟨⟨error, rfl⟩, .refl s⟩
          · rw [hclose] at hended
            right
            refine ⟨row, s, result, ⟨hrow, by simp, (closeSession_eq_ok hclose).2.2.2.2.1⟩,
              .refl s, ?_, ?_⟩
            · rw [hclose, hended]
            · rw [hended]
      | false =>
          have hasked := registers_provision config s closedBy
          simp only [Bool.false_eq_true, if_false] at hended
          cases hcloser : checkCloser row closedBy resolution with
          | error error =>
              rw [hcloser] at hended
              rw [hended]
              exact Or.inl ⟨⟨error, rfl⟩, .refl s⟩
          | ok =>
              rcases checkCloser_eq_ok.1 hcloser with ⟨hresolution, hby⟩
              simp only [hcloser, exec_transaction] at hended
              by_cases hpermitted : permits config s closedBy .conversationCloseOpener
              · rw [if_pos hpermitted] at hended
                rcases hhand : closeByHand config (provision config s closedBy) conversationId
                  row closedBy resolution summary clock with error | ⟨result, after⟩
                · rw [hhand] at hended
                  rw [hended]
                  exact Or.inl ⟨⟨_, rfl⟩, hasked⟩
                · rw [hhand] at hended
                  rcases closeByHand_eq_ok.1 hhand with ⟨gated, hgate, hsettled, hclose⟩
                  rcases checkClosePolicy_eq_ok hgate with ⟨hgated, hlets⟩
                  have hregisters := hasked.trans hgated
                  right
                  refine ⟨row, gated, result, ⟨hrow, fun _ => ⟨hresolution, hby, hpermitted,
                    hlets, hsettled.of_tasks hregisters.tasks.symm⟩, ?_⟩, hregisters, ?_, ?_⟩
                  · intro operationId hmirror
                    have hclosable := (closeSession_eq_ok hclose).2.2.2.2.1 operationId hmirror
                    exact hclosable.of_getOperation (hregisters.getOperation operationId).symm
                  · rw [hended]
                    exact hclose
                  · rw [hended]
              · rw [if_neg hpermitted] at hended
                rw [hended]
                exact Or.inl ⟨⟨_, rfl⟩, hasked⟩

theorem closeConversation_writes (conversationId : Id)
    (closedBy resolution : String) (summary : Option String) (bypass : Bool) (clock : Clock)
    (s : State)
    (hmay : ∀ row, ClosePasses config s conversationId closedBy resolution bypass row →
      may.close conversationId closedBy) :
    Writes config s₀ may s (exec (closeConversation config conversationId closedBy resolution
      summary bypass clock) s).2 := by
  rcases closeConversation_cases config conversationId closedBy resolution summary bypass
    clock s with ⟨_, hregisters⟩ | ⟨row, gated, result, hpasses, hregisters, hclose, _⟩
  · exact .one (.registers hregisters)
  · rcases requireClosable_eq_ok.1 hpasses.closable with ⟨hfound, _, hopen⟩
    have hgated : gated.conversations[conversationId]? = some row := by
      rw [hregisters.conversations]
      exact hfound
    exact Writes.andThen (.one (.registers hregisters))
      (.closes hgated hopen (hmay row hpasses) hclose)

/-! ## Opening -/

theorem openSession_writes {after : State} {threadId : Id} {request : OpenRequest}
    {policy : OperationPolicy} {boundTaskId : Option Id} {result : Summary}
    (hok : openSession s threadId request policy boundTaskId clock = .ok (result, after)) :
    Writes config s₀ may s after := by
  simp only [openSession, bind_eq_ok, require_eq_ok, pure_eq_ok, Prod.exists,
    Prod.mk.injEq] at hok
  rcases hok with ⟨_, _, posted, eventId, hadded, _, rfl⟩
  let base := ensureGeneral s threadId (clock 0)
  let row := { newConversation threadId request.kind request.title request.intent
      request.openerActor (clock 1) with
    ownerActor := some (Text.orElse request.ownerActor request.openerActor)
    expectedSpeaker := request.addressedTo
    parentConversationId := request.parentConversationId
    boundTaskId := boundTaskId }
  have hbase : Writes config s₀ may s base := by
    simp only [base]
    unfold ensureGeneral
    split
    · exact .refl s
    · exact .one (.opens _ (clock 0) rfl rfl rfl rfl rfl)
  have hsame : addMessage (governed base row policy (clock 2) (clock 3))
      { row with v2OperationId := some base.store.operations.length }
      (lifecycleMessage { row with v2OperationId := some base.store.operations.length }
        base.conversations.length row.openerActor eventConversationOpened row.expectedSpeaker
        (summaryPayload base.conversations.length
          { row with v2OperationId := some base.store.operations.length }) (clock 4)) {}
      (clock 5) = .ok (posted, eventId) := hadded
  exact hbase.andThen (.announces rfl rfl rfl rfl rfl rfl hsame)

theorem openConversation_writes (discordThreadId : String) (request : OpenRequest)
    (clock taskClock : Clock) (s : State) :
    Writes config s₀ may s
      (exec (openConversation config discordThreadId request clock taskClock) s).2 := by
  have hasked : Writes config s₀ may s (provision config s request.openerActor) :=
    .one (.registers (registers_provision config s request.openerActor))
  by_cases hadmitted : ∃ policy threadId,
      Admits config s discordThreadId request policy threadId
  · rcases hadmitted with ⟨policy, threadId, hadmits⟩
    let bound := bindTask (provision config s request.openerActor) threadId request policy
      taskClock
    have hbound : Writes config s₀ may s bound.2 := by
      simp only [bound, bindTask]
      split
      · exact hasked.andThen (.serves _)
      · exact hasked
    have hexec := exec_openConversation_of_admits clock taskClock hadmits
    simp only at hexec
    rw [hexec, exec_transaction]
    rcases hsession : openSession bound.2 threadId request policy bound.1 clock with
      error | ⟨result, after⟩
    · exact hbound
    · exact hbound.trans (openSession_writes hsession)
  · have hrefused : ∀ policy threadId,
        ¬ Admits config s discordThreadId request policy threadId := by
      intro policy threadId hadmits
      exact hadmitted ⟨policy, threadId, hadmits⟩
    rcases exec_openConversation_of_refused clock taskClock hrefused with ⟨error, hexec⟩
    rw [hexec]
    exact hasked

/-! ## The idle sweep -/

/-- The conversations of `t` are those of `s`, up to bookkeeping. -/
def SameCharters (s t : State) : Prop :=
  t.conversations.map Conversation.charter = s.conversations.map Conversation.charter

theorem SameCharters.row (hsame : SameCharters s t) {row : Conversation}
    (hrow : t.conversations[id]? = some row) :
    ∃ old, s.conversations[id]? = some old ∧ row.charter = old.charter := by
  have hcharter : (t.conversations.map Conversation.charter)[id]? = some row.charter := by
    rw [List.getElem?_map, hrow]
    rfl
  rw [hsame, List.getElem?_map] at hcharter
  rcases Option.map_eq_some_iff.mp hcharter with ⟨old, hold, hsame⟩
  exact ⟨old, hold, hsame.symm⟩

theorem SameCharters.setConversation (hsame : SameCharters s t) {row old : Conversation}
    (hold : t.conversations[id]? = some old) (hkept : row.charter = old.charter) :
    SameCharters s (t.setConversation id row) := by
  rw [SameCharters, ← hsame]
  apply List.ext_getElem?
  intro other
  rw [List.getElem?_map, List.getElem?_map]
  by_cases hother : id = other
  · subst hother
    have hnew : (t.setConversation id row).conversations[id]? = some row :=
      getElem?_update_self hold
    rw [hnew, hold, Option.map_some, Option.map_some, hkept]
  · have hnew : (t.setConversation id row).conversations[other]? = t.conversations[other]? :=
      getElem?_update_of_ne hother
    rw [hnew]

theorem warnIdle_writes {after : State} {now : Time} {level : Nat}
    (hmay : may.post conversationId "system" eventConversationIdleWarning)
    (hwrites : Writes config s₀ may s₀ t ∧ SameCharters s₀ t)
    (hok : warnIdle t conversationId threshold now clock level = .ok after) :
    Writes config s₀ may s₀ after ∧ SameCharters s₀ after := by
  simp only [warnIdle, getConversation, bind_eq_ok, orRaise_eq_ok, pure_eq_ok,
    Prod.exists] at hok
  rcases hok with ⟨row, hrow, posted, eventId, hadded, rfl⟩
  rcases hwrites.2.row hrow with ⟨old, hold, hsame⟩
  have hconversations := (addMessage_frame hadded).2.1
  have hposted : posted.conversations[conversationId]? = some row := by
    rw [hconversations]
    exact hrow
  have hstate : row.state = old.state := congrArg Prod.fst hsame
  constructor
  · exact (hwrites.1.andThen (.posts hold hrow hstate hmay hadded)).andThen
      (.notes hposted rfl (Or.inl rfl))
  · have hkept : SameCharters s₀ posted := by
      rw [SameCharters, hconversations]
      exact hwrites.2
    exact hkept.setConversation hposted rfl

theorem abandonIdle_writes (conversationId : Id) (summary : String) (clock : Clock)
    (s : State) (hmay : may.close conversationId "system") :
    Writes config s₀ may s (exec (abandonIdle config conversationId summary clock) s).2 := by
  have hclosed : Writes config s₀ may s (exec (closeConversation config conversationId
      "system" "abandoned" (some summary) true clock) s).2 :=
    closeConversation_writes conversationId "system" "abandoned" (some summary) true clock s
      fun _ _ => hmay
  simp only [abandonIdle, exec_bind, exec_transaction]
  rcases hclose : exec (closeConversation config conversationId "system" "abandoned"
    (some summary) true clock) s with ⟨error | result, closed⟩
  · rw [hclose] at hclosed
    exact hclosed
  · rw [hclose] at hclosed
    cases hrow : closed.conversations[conversationId]? with
    | none =>
        simp only [hrow]
        exact hclosed
    | some =>
        simp only [hrow]
        exact hclosed.andThen (.notes hrow rfl (Or.inl rfl))

theorem sweepSession_writes {config : Config} {after : State} {discordThreadId : String}
    {now : Time} {abandoned : List (Id × String)} {may : Gates}
    (hmay : ∀ threadId row, findThread s discordThreadId = some threadId →
      row ∈ idleRows config s threadId threshold now →
        may.post row.2 "system" eventConversationIdleWarning)
    (hsession : sweepSession config s discordThreadId threshold now clock =
      .ok (abandoned, after)) : Writes config s may s after := by
  simp only [sweepSession, bind_eq_ok, orRaise_eq_ok, pure_eq_ok, Prod.mk.injEq] at hsession
  rcases hsession with ⟨threadId, hthread, warned, hwarned, rfl, rfl⟩
  -- the rows are read before the first warning
  have hrows : ∀ rows : List (Conversation × Id),
      (∀ row ∈ rows, may.post row.2 "system" eventConversationIdleWarning) →
      ∀ t, Writes config s may s t ∧ SameCharters s t →
      rows.foldlM (fun t row => (warningLevels row.1 (targetTier config.policy threshold now
        row.1)).foldlM (fun t level => warnIdle t row.2 threshold now clock level) t) t =
        .ok warned → Writes config s may s warned ∧ SameCharters s warned := by
    intro rows
    induction rows with
    | nil =>
        intro _ t ht hok
        cases hok
        exact ht
    | cons row rows ih =>
        intro hmay t ht hok
        rw [List.foldlM_cons, bind_eq_ok] at hok
        rcases hok with ⟨between, hlevels, hrest⟩
        apply ih (fun other hother => hmay other (List.mem_cons_of_mem row hother))
          between _ hrest
        apply foldlM_keeps (P := fun t => Writes config s may s t ∧ SameCharters s t)
          _ ht hlevels
        intro u level v hu hwarn
        exact warnIdle_writes (hmay row List.mem_cons_self) hu hwarn
  exact (hrows _ (fun row hrow => hmay threadId row hthread hrow) s ⟨.refl s, rfl⟩ hwarned).1

theorem sweepIdle_writes (config : Config) (discordThreadId : String)
    (idleThresholdSeconds : Int) (now : Time) (clock : Clock) (closeClock : Nat → Clock)
    (s : State) :
    Writes config s (Move.gates config s
        (.sweepIdle discordThreadId idleThresholdSeconds now clock closeClock)) s
      (exec (sweepIdleConversations config discordThreadId idleThresholdSeconds now clock
        closeClock) s).2 := by
  let may := Move.gates config s
    (.sweepIdle discordThreadId idleThresholdSeconds now clock closeClock)
  unfold sweepIdleConversations
  simp only
  split
  · exact .refl s
  · rename_i hthreshold
    have hpos : 0 < idleThresholdSeconds := by
      by_contra hnot
      exact hthreshold (max_eq_left (not_lt.mp hnot))
    rw [exec_bind, exec_transaction]
    rcases hsession : sweepSession config s discordThreadId (max 0 idleThresholdSeconds) now
      clock with error | ⟨abandoned, after⟩
    · exact .refl s
    · have hmem := (sweepSession_ledger hsession).2
      have hafter : Writes config s may s after := by
        apply sweepSession_writes _ hsession
        intro threadId row hthread hrow
        exact MayPost.warned hpos hthread hrow
      apply keeps_forM (P := Writes config s may s) abandoned.zipIdx ?_ after hafter
      intro item hitem t ht
      have hin := hmem item.1 (List.fst_mem_of_mem_zipIdx hitem)
      exact ht.trans (abandonIdle_writes item.1.1 item.1.2 (closeClock item.2) t
        (.abandoned hpos hin))

/-! ## The coordinator -/

theorem marks_moveOperation {store after : Store} {row : Conversation}
    {target : Option OpState} {now : Time} (hopen : target ≠ some .closed)
    (hok : moveOperation store row target now = .ok after) : store.Marks after := by
  unfold moveOperation at hok
  split at hok
  · rw [mapError_eq_ok] at hok
    apply marks_transitionState _ hok
    intro hclosed
    rw [hclosed] at hopen
    exact hopen rfl
  · cases hok
    exact .refl _

theorem log_moveOperation {store after : Store} {row : Conversation}
    {target : Option OpState} {now : Time}
    (hok : moveOperation store row target now = .ok after) (id : Id) :
    after.log id = store.log id := by
  unfold moveOperation at hok
  split at hok
  · rw [mapError_eq_ok, transitionState] at hok
    split at hok
    · cases hok
      rfl
    · split at hok
      · cases hok
        rfl
      · simp only [bind_eq_ok, pure_eq_ok] at hok
        rcases hok with ⟨_, _, rfl⟩
        apply Store.log_modifyOperation
        exact fun _ => rfl
  · cases hok
    rfl

theorem marks_attachEchoed {config : Config} {store after : Store} {emission : Emission}
    {now : Time} (hok : attachEchoed config store eventId emission now = .ok after) :
    store.Marks after := by
  rcases attachEchoed_eq_ok hok with rfl | ⟨id, artifact, rfl⟩
  · exact .refl _
  · exact marks_insertArtifact store id artifact

theorem log_attachEchoed {config : Config} {store after : Store} {emission : Emission}
    {now : Time} (hok : attachEchoed config store eventId emission now = .ok after) (id : Id) :
    after.log id = store.log id := by
  rcases attachEchoed_eq_ok hok with rfl | ⟨operationId, artifact, rfl⟩
  · rfl
  · apply Store.log_modifyOperation
    exact fun _ => rfl

theorem echoSession_writes {after : State} {emission : Emission} {row : Conversation}
    {done : PUnit} (hknown : s₀.conversations[conversationId]? = some row₀)
    (hrow : s.conversations[conversationId]? = some row) (hstate : row.state = row₀.state)
    (hmay : may.post conversationId emission.actorName emission.eventKind)
    (hturn : may.turn conversationId row.gauge (echoRow row emission (clock 0)).gauge)
    (hopen : emission.targetState ≠ some .closed)
    (hok : echoSession config s conversationId emission clock = .ok (done, after)) :
    Writes config s₀ may s after ∧ ∃ echoed, after.conversations[conversationId]? =
      some echoed ∧ echoed.charter = row.charter := by
  simp only [echoSession, hrow, bind_eq_ok, pure_eq_ok, Prod.exists, Prod.mk.injEq] at hok
  rcases hok with ⟨posted, eventId, hadded, attached, hattached, store, hmoved, _, rfl⟩
  let echoed := echoRow row emission (clock 0)
  have hnoted : Writes config s₀ may s (s.setConversation conversationId echoed) :=
    .one (.notes hrow rfl (Or.inr hturn))
  have hwritten : (s.setConversation conversationId echoed).conversations[conversationId]? =
      some echoed := getElem?_update_self hrow
  constructor
  · refine (hnoted.andThen (.posts hknown hwritten hstate hmay hadded)).andThen
      (.marks store ?_ (Or.inr fun id => ?_))
    · exact (marks_attachEchoed hattached).trans (marks_moveOperation hopen hmoved)
    · rw [log_moveOperation hmoved, log_attachEchoed hattached]
  · refine ⟨echoed, ?_, rfl⟩
    change posted.conversations[conversationId]? = some echoed
    rw [(addMessage_frame hadded).2.1]
    exact hwritten

theorem closeSettled_state (config : Config) (conversationId : Id) (closing : Option Closing)
    (clock : Clock) (s : State) :
    (exec (closeSettled config conversationId closing clock) s).2 =
      match closing with
      | none => s
      | some closing => (exec (closeConversation config conversationId closing.closedBy
          closing.resolution closing.summary true clock) s).2 := by
  cases closing with
  | none => rfl
  | some closing =>
      simp only [closeSettled, exec_bind]
      rcases exec (closeConversation config conversationId closing.closedBy
        closing.resolution closing.summary true clock) s with ⟨error | result, after⟩
      · rfl
      · rfl

/-- An operation of the coordinator stops before its echo, having registered actors and
called the remote task service at most; or it has its echo, and goes on to close. -/
theorem perform_stages (config : Config) (conversationId : Id) (request : TaskRequest)
    (clocks : Clocks) (s : State) :
    let left := (exec (request.perform config conversationId clocks) s).2
    (∃ pre tasks, Registers s pre ∧ left = { pre with tasks := tasks }) ∨
      ∃ taskId row pre tasks task echoed,
        EchoPasses config s conversationId taskId request clocks row ∧ Registers s pre ∧
        echoSession config { pre with tasks := tasks } conversationId
          ((request.plan config taskId).emission task) clocks.echo = .ok (⟨⟩, echoed) ∧
        left = (exec (closeSettled config conversationId (request.plan config taskId).closing
          clocks.close) echoed).2 := by
  intro left
  have hleft : left = (exec (request.perform config conversationId clocks) s).2 := rfl
  rcases perform_cases config conversationId clocks request s with
    ⟨_, error, after, hexec, hregisters⟩ | ⟨taskId, pre, hpasses, hregisters, hexec⟩
  · rw [hexec] at hleft
    exact Or.inl ⟨after, after.tasks, hregisters, hleft⟩
  · let plan := request.plan config taskId
    let call : Call := ⟨plan.operation, clocks.remote⟩
    have htarget : call.operation.target pre.tasks = some taskId :=
      plan_target config taskId request pre.tasks
    rw [hexec, coordinate, exec_bind] at hleft
    by_cases haccepted : Accepts pre.tasks taskId call
    · rcases exec_remoteCall_of_accepted htarget haccepted with ⟨old, task, _, _, hcall⟩
      let between : State := { pre with tasks := RemoteTask.step pre.tasks call }
      rw [hcall] at hleft
      simp only [updateOwnerAndEmit, exec_bind, exec_transaction] at hleft
      rcases requireBoundTask_eq_ok.1 hpasses.bound with ⟨row, hrow, _, _⟩
      have hfound : between.conversations[conversationId]? = some row := by
        change pre.conversations[conversationId]? = some row
        rw [hregisters.conversations]
        exact hrow
      rcases hecho : echoSession config between conversationId (plan.emission task)
        clocks.echo with error | ⟨done, echoed⟩
      · rw [hecho] at hleft
        exact Or.inl ⟨pre, _, hregisters, hleft⟩
      · have hfollows := (echoSession_eq_ok hfound hecho).2.2.1
        rw [plan_targetState] at hfollows
        have hechoes : EchoPasses config s conversationId taskId request clocks row := by
          refine ⟨hpasses, ?_, hrow, ?_⟩
          · rw [← hregisters.tasks]
            exact haccepted
          · intro operationId kind state hmirror hstate
            apply hfollows operationId kind state hmirror
            change pre.store.kindState operationId = _
            rw [hregisters.grows.kindState]
            exact hstate
        right
        refine ⟨taskId, row, pre, _, task, echoed, hechoes, hregisters, hecho, ?_⟩
        rw [hecho] at hleft
        simp only [exec_query] at hleft
        rw [hleft]
        rcases hend : exec (closeSettled config conversationId plan.closing clocks.close)
          echoed with ⟨error | value, after⟩
        · rfl
        · cases hrow : getConversation after conversationId with
          | error => simp only [hrow]
          | ok => simp only [hrow, exec_pure]
    · rcases exec_remoteCall_of_refused htarget haccepted with ⟨error, hcall⟩
      rw [hcall] at hleft
      exact Or.inl ⟨pre, pre.tasks, hregisters, hleft⟩

theorem coordinate_writes (config : Config) (conversationId : Id) (request : TaskRequest)
    (clocks : Clocks) (s : State) :
    Writes config s (Move.gates config s (.coordinate conversationId request clocks)) s
      (exec (request.perform config conversationId clocks) s).2 := by
  let may := Move.gates config s (.coordinate conversationId request clocks)
  have hserved : ∀ pre tasks, Registers s pre →
      Writes config s may s { pre with tasks := tasks } := by
    intro pre tasks hregisters
    exact Writes.andThen (.one (.registers hregisters)) (.serves tasks)
  rcases perform_stages config conversationId request clocks s with
    ⟨pre, tasks, hregisters, hleft⟩ |
    ⟨taskId, row, pre, tasks, task, echoed, hechoes, hregisters, hecho, hleft⟩
  · rw [hleft]
    exact hserved pre tasks hregisters
  · let plan := request.plan config taskId
    let between : State := { pre with tasks := tasks }
    have hfound : between.conversations[conversationId]? = some row := by
      change pre.conversations[conversationId]? = some row
      rw [hregisters.conversations]
      exact hechoes.found
    have hturn : may.turn conversationId row.gauge
        (echoRow row (plan.emission task) (clocks.echo 0)).gauge := MayTurn.echoed hechoes
    have hmay : may.post conversationId (plan.emission task).actorName
        (plan.emission task).eventKind := MayPost.echoed hechoes
    have hopen : (plan.emission task).targetState ≠ some .closed := by
      rw [plan_targetState]
      exact target_ne_closed request
    rcases echoSession_writes hechoes.found hfound rfl hmay hturn hopen hecho with
      ⟨hwrites, row', hrow', hsame⟩
    have hechoed := (hserved pre tasks hregisters).trans hwrites
    rw [hleft, closeSettled_state]
    cases hclosing : (request.plan config taskId).closing with
    | none => exact hechoed
    | some =>
        refine hechoed.trans (closeConversation_writes conversationId _ _ _ true _ echoed ?_)
        intro row'' hcloses
        rcases requireClosable_eq_ok.1 hcloses.closable with ⟨hfound'', _, hopen⟩
        rw [hrow'] at hfound''
        cases hfound''
        apply MayClose.settled hechoes hclosing
        have hstate : row'.state = row.state := congrArg Prod.fst hsame
        rw [← hstate]
        exact hopen

end Sessions

/-! ## Acts -/

theorem serviceStep_writes (config : Config) (s : State) (move : Move) :
    Writes config s (move.gates config s) s (serviceStep config s move) := by
  cases move with
  | openConversation discordThreadId request clock taskClock =>
      exact openConversation_writes discordThreadId request clock taskClock s
  | closeConversation conversationId closedBy resolution summary bypass clock =>
      exact closeConversation_writes conversationId closedBy resolution summary bypass clock s
        fun _ hpasses => MayClose.closed hpasses
  | adminAbandon conversationId summary clock =>
      exact closeConversation_writes conversationId "system" "abandoned" _ true clock s
        fun _ hpasses => MayClose.adminAbandoned hpasses
  | sweepIdle discordThreadId idleThresholdSeconds now clock closeClock =>
      exact sweepIdle_writes config discordThreadId idleThresholdSeconds now clock closeClock s
  | submitSpeech conversationId request clock =>
      exact submitSpeech_writes config conversationId request clock s
  | transferOwner conversationId byActor newOwner reason clock =>
      exact transferOwner_writes config conversationId byActor newOwner reason clock s
  | emitSystemEvent conversationId kind addressedToHandle parent payload clock =>
      exact emitSystemEvent_writes config conversationId kind addressedToHandle parent payload
        clock s
  | coordinate conversationId request clocks =>
      exact coordinate_writes config conversationId request clocks s
  | remoteTask => exact .one (.serves _)

end OpsCure.Chat

namespace OpsCure.Api

open Fallible Chat Contract

/-- What an act may do; the session after an appended event posts and closes nothing, but
rewrites its event. -/
def Act.gates (api : ApiConfig) (s : State) : Act → Gates
  | .move taken => taken.gates api.chat s
  | .finishAppend _ _ _ _ =>
      ⟨fun _ _ _ => False, fun _ _ => False, fun _ _ _ => False, True⟩

theorem Act.closable {api : ApiConfig} {s : State} (act : Act) {conversationId : Id}
    {closedBy : String} (hmay : (act.gates api s).close conversationId closedBy) :
    ∃ row, s.conversations[conversationId]? = some row ∧ row.state ≠ .closed := by
  cases act with
  | move => exact MayClose.closable hmay
  | finishAppend => exact hmay.elim

theorem systemStep_writes (api : ApiConfig) (s : State) (act : Act) :
    Writes api.chat s (act.gates api s) s (systemStep api s act) := by
  cases act with
  | move move => exact serviceStep_writes api.chat s move
  | finishAppend conversationId eventId request clock =>
      have hstep : systemStep api s (.finishAppend conversationId eventId request clock) =
          committed s ((finishAppend api (Bridge.of s) conversationId (some eventId) request
            clock).map (·.2.chat)) := rfl
      rw [hstep]
      rcases hfinish : finishAppend api (Bridge.of s) conversationId (some eventId) request
        clock with error | ⟨body, after⟩
      · exact .refl s
      · rcases finishAppend_eq_ok.1 hfinish with
          ⟨id, store, event, posts, hid, hstore, _, _, _, rfl⟩
        exact .one (.marks store (marks_finishEvent hstore) (Or.inl trivial))

end OpsCure.Api
