/-
The policy engine (`kernel/v2/policy_engine.py`): the gates an operation's
policy puts before speech, membership and close.
-/
import OpsCure.Store

namespace OpsCure.PolicyEngine

open Fallible Contract V2

/-- Why a write violates the policy; the wire code and text are derived. -/
inductive PolicyViolation where
  | maxRoundsExhausted (maxRounds existing : Nat)
  | replyKindRejected (kind : String) (allowed : List String)
  | joinInviteOnly
  | inviteNeedsParticipant
  | closeNeedsArtifact
  | closeNeedsParticipant
  | closeNeedsOperator (role : String)
  | closeNeedsOperatorRatify (role : String)
  | closeNeedsQuorum (minRatifiers ratified : Nat)
deriving DecidableEq, Repr

def PolicyViolation.code : PolicyViolation → String
  | maxRoundsExhausted _ _ => "policy.max_rounds_exhausted"
  | replyKindRejected _ _ => "policy.reply_kind_rejected"
  | joinInviteOnly => "policy.join_invite_only"
  | inviteNeedsParticipant => "policy.invite_needs_participant"
  | closeNeedsArtifact => "policy.close_needs_artifact"
  | closeNeedsParticipant => "policy.close_needs_participant"
  | closeNeedsOperator _ | closeNeedsOperatorRatify _ => "policy.close_needs_operator_ratify"
  | closeNeedsQuorum _ _ => "policy.close_needs_quorum"

def PolicyViolation.detail : PolicyViolation → String
  | maxRoundsExhausted maxRounds existing =>
      s!"max_rounds={maxRounds} reached ({existing} speech events already recorded)"
  | replyKindRejected kind allowed =>
      s!"reply kind '{kind}' not in expected_response.kinds={Text.renderSorted allowed.dedup} declared by trigger event"
  | joinInviteOnly =>
      "join_policy=invite_only requires a prior speech.invite addressing this actor before they may join"
  | inviteNeedsParticipant => "speech.invite must come from an existing participant"
  | closeNeedsArtifact =>
      "policy.requires_artifact=true but no OperationArtifact is attached to this op; post a speech.evidence with payload.artifact before closing (or use a non-success resolution like 'abandoned'/'cancelled'/'failed' — the artifact gate is bypassed for those terminal-failure paths)"
  | closeNeedsParticipant =>
      "any_participant close requires the closer to be a participant"
  | closeNeedsOperator role =>
      s!"close_policy=operator_ratifies requires at least one participant with role='{role}' on the op"
  | closeNeedsOperatorRatify role =>
      s!"close_policy=operator_ratifies requires a chat.speech.ratify event from a participant with role='{role}'"
  | closeNeedsQuorum minRatifiers ratified =>
      s!"close_policy=quorum requires {minRatifiers} distinct ratifiers, only {ratified} have ratified"

/-- The speech kinds no reply whitelist excludes. -/
def universalKinds : List SpeechKind := [.defer, .evidence, .objection]

def nonSuccessResolutions : List String :=
  ["abandoned", "cancelled", "failed", "withdrawn", "superseded", "dropped"]

def checkMaxRounds (store : Store) (operationId : Id) (policy : OperationPolicy) :
    Except PolicyViolation Unit :=
  match policy.maxRounds with
  | none => .ok ()
  | some maxRounds =>
      let existing := store.countSpeechEvents operationId
      require (existing < maxRounds) (.maxRoundsExhausted maxRounds existing)

def replyWhitelist (trigger : Event) : Option (List String) :=
  (trigger.payload.expectedResponse.bind (·.kinds)).filter (· ≠ [])

/-- A whitelist lets a kind through by naming it or by the wildcard. -/
def whitelistAdmits (allowed : List String) (kind : SpeechKind) : Bool :=
  kindWildcard ∈ allowed ∨ kind.text ∈ allowed

def checkReplyKind (store : Store) (kind : SpeechKind)
    (repliesToEventId : Option EventId) : Except PolicyViolation Unit :=
  if kind ∈ universalKinds then .ok ()
  else
    match (repliesToEventId.bind store.getEvent).bind replyWhitelist with
    | none => .ok ()
    | some allowed =>
        require (whitelistAdmits allowed kind) (.replyKindRejected kind.text allowed)

def checkSpeechAdmissible (store : Store) (operationId : Id) (operation : Operation)
    (kind : SpeechKind) (repliesToEventId : Option EventId) :
    Except PolicyViolation Unit := do
  checkMaxRounds store operationId operation.operationPolicy
  checkReplyKind store kind repliesToEventId

def checkJoinAdmissible (operation : Operation) (isInvited : Bool) :
    Except PolicyViolation Unit :=
  match operation.operationPolicy.joinPolicy with
  | .anyone | .selfOrInvite => .ok ()
  | .inviteOnly => require isInvited .joinInviteOnly

def isParticipant (participants : List Participant) (actorId : String) : Bool :=
  participants.any (·.actorId = actorId)

def checkInviteAdmissible (operation : Operation) (inviterActorId : String) :
    Except PolicyViolation Unit :=
  require (isParticipant operation.participants inviterActorId) .inviteNeedsParticipant

/-- `_is_close_intent_ratify`, for an event at a position of the operation's
log: an explicit intent, a reply to a motion to close or to an event carrying an
artifact, or an artifact of the operation no later than the event. -/
def isCloseIntentRatify (store : Store) (operationId : Id) (event : Event) (index : Nat) :
    Bool :=
  let explicit := event.payload.intent.any fun intent => Text.lower intent = "close"
  let replied := event.repliesToEventId.any fun id =>
    (store.getEvent id).any fun trigger =>
      speechAction trigger.kind = some "move_close" ∨ store.listArtifactsForEvent id ≠ []
  let delivered := (store.listArtifactsForOperation operationId).any fun artifact =>
    (store.getEvent artifact.eventId).isSome ∧ artifact.eventId.index ≤ index
  explicit || replied || delivered

def isRatify (event : Event) : Bool :=
  speechAction event.kind = some "ratify"

def closeRatifies (store : Store) (operationId : Id) (events : List (Event × Nat)) :
    List (Event × Nat) :=
  events.filter fun row =>
    isRatify row.1 && isCloseIntentRatify store operationId row.1 row.2

/-- `_ratify_events_by_actor`: the latest close-intent ratify of each actor, over
the events `list_events(limit=1000)` returns. -/
def ratifyEventsByActor (store : Store) (operationId : Id) : List (String × Event) :=
  Dict.setAll [] <|
    (closeRatifies store operationId (store.listEvents operationId 0 1000).zipIdx).map
      fun row => (row.1.actorId, row.1)

def requireRoleRatify (store : Store) (operationId : Id) (operation : Operation)
    (role : String) : Except PolicyViolation Unit := do
  let roleActorIds := (operation.participants.filter (·.role = role)).map (·.actorId)
  require (roleActorIds ≠ []) (.closeNeedsOperator role)
  let ratifies := ratifyEventsByActor store operationId
  require (roleActorIds.any fun actorId => ratifies.any (·.1 = actorId))
    (.closeNeedsOperatorRatify role)

def requireQuorumRatify (store : Store) (operationId : Id) (minRatifiers : Nat) :
    Except PolicyViolation Unit :=
  if minRatifiers = 0 then .ok ()
  else
    let ratified := (ratifyEventsByActor store operationId).length
    require (minRatifiers ≤ ratified) (.closeNeedsQuorum minRatifiers ratified)

def checkArtifactGate (operation : Operation) (resolution : Option String) :
    Except PolicyViolation Unit :=
  require (operation.operationPolicy.requiresArtifact →
      resolution.all (· ∉ nonSuccessResolutions) → operation.artifacts ≠ [])
    .closeNeedsArtifact

def checkAnyParticipant (operation : Operation) (closerActorId : Option String) :
    Except PolicyViolation Unit :=
  match closerActorId with
  | none => .ok ()
  | some closer =>
      require (isParticipant operation.participants closer) .closeNeedsParticipant

/-- `check_close_admissible`: the artifact gate, then the close policy's own. -/
def checkCloseAdmissible (store : Store) (operationId : Id) (operation : Operation)
    (closerActorId : Option String) (resolution : Option String) :
    Except PolicyViolation Unit := do
  checkArtifactGate operation resolution
  match operation.operationPolicy.closePolicy with
  | .openerUnilateral => .ok ()
  | .anyParticipant => checkAnyParticipant operation closerActorId
  | .operatorRatifies => requireRoleRatify store operationId operation "operator"
  | .quorum =>
      requireQuorumRatify store operationId
        (operation.operationPolicy.minRatifiers.getD 0)

/-- A reply whitelist lets a kind through: by the wildcard, by name, or because
the kind is one no whitelist excludes. -/
def KindAdmitted (allowed : List String) (kind : SpeechKind) : Prop :=
  kind ∈ universalKinds ∨ whitelistAdmits allowed kind

variable {store : Store} {operationId : Id} {done : Unit}

theorem checkMaxRounds_eq_ok_iff {policy : OperationPolicy} :
    checkMaxRounds store operationId policy = .ok done ↔
      ∀ maxRounds ∈ policy.maxRounds, store.countSpeechEvents operationId < maxRounds := by
  unfold checkMaxRounds
  cases policy.maxRounds with
  | none => simp
  | some => simp

variable {kind : SpeechKind} {repliesToEventId : Option EventId}

theorem checkReplyKind_eq_ok_iff :
    checkReplyKind store kind repliesToEventId = .ok done ↔
      ∀ trigger allowed, repliesToEventId.bind store.getEvent = some trigger →
        replyWhitelist trigger = some allowed → KindAdmitted allowed kind := by
  unfold checkReplyKind KindAdmitted
  by_cases huniversal : kind ∈ universalKinds
  · simp [huniversal]
  · rw [if_neg huniversal]
    cases htrigger : repliesToEventId.bind store.getEvent with
    | none => simp
    | some trigger =>
        cases hwhitelist : replyWhitelist trigger with
        | none =>
            constructor
            · rintro - _ allowed ⟨⟩ hallowed
              rw [hwhitelist] at hallowed
              cases hallowed
            · exact fun _ => by simp [hwhitelist]
        | some allowed =>
            constructor
            · rintro hok _ _ ⟨⟩ hallowed
              rw [hwhitelist] at hallowed
              cases hallowed
              exact Or.inr (by simpa [hwhitelist] using hok)
            · intro hadmitted
              have hthis := hadmitted trigger allowed rfl hwhitelist
              simpa [hwhitelist, huniversal] using hthis

theorem checkSpeechAdmissible_eq_ok_iff {operation : Operation} :
    checkSpeechAdmissible store operationId operation kind repliesToEventId = .ok done ↔
      checkMaxRounds store operationId operation.operationPolicy = .ok () ∧
        checkReplyKind store kind repliesToEventId = .ok () := by
  simp only [checkSpeechAdmissible, bind_eq_ok]
  constructor
  · rintro ⟨_, hrounds, hkind⟩
    exact ⟨hrounds, hkind⟩
  · rintro ⟨hrounds, hkind⟩
    exact ⟨_, hrounds, hkind⟩

def closeRatifiers (store : Store) (operationId : Id) (events : List (Event × Nat)) :
    Finset String :=
  ((closeRatifies store operationId events).map (·.1.actorId)).toFinset

theorem length_ratifyEventsByActor (store : Store) (operationId : Id) :
    (ratifyEventsByActor store operationId).length =
      (closeRatifiers store operationId (((store.log operationId).zipIdx).take 1000)).card := by
  have hwindow : (store.listEvents operationId 0 1000).zipIdx =
      ((store.log operationId).zipIdx).take 1000 := by
    simp [Store.listEvents, clampLimit, Table.zipIdx_take]
  rw [ratifyEventsByActor, Dict.length_setAll_nil, hwindow, List.map_map]
  rfl

theorem requireQuorumRatify_eq_ok_iff {minRatifiers : Nat} :
    requireQuorumRatify store operationId minRatifiers = .ok done ↔
      minRatifiers ≤
        (closeRatifiers store operationId (((store.log operationId).zipIdx).take 1000)).card := by
  unfold requireQuorumRatify
  split
  · rename_i hzero
    simp [hzero]
  · simp [length_ratifyEventsByActor]

theorem closeRatifiers_mono {part whole : List (Event × Nat)} (hsub : part.Sublist whole) :
    closeRatifiers store operationId part ⊆ closeRatifiers store operationId whole := by
  intro actor hactor
  simp only [closeRatifiers, List.mem_toFinset, List.mem_map] at hactor ⊢
  obtain ⟨row, hrow, hname⟩ := hactor
  exact ⟨row, (hsub.filter _).subset hrow, hname⟩

end OpsCure.PolicyEngine
