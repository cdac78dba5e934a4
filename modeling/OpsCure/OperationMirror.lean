/-
The operation mirror (`kernel/v2/operation_mirror.py`): what the v1 chat
lifecycle writes into the v2 tables, inside the same session.
-/
import OpsCure.StateMachine
import OpsCure.Store

namespace OpsCure.OperationMirror

open Fallible Contract V2

/-- `_normalize_handle`: nothing for an empty name, else the name with its `@`. -/
def normalizeHandle (actor : Option String) : Option String :=
  (actor.filter (· ≠ "")).map withAt

def handleOrSystem (actor : Option String) : String :=
  (normalizeHandle actor).getD "@system"

/-- What `mirror_conversation_open` is told about the v1 conversation. -/
structure OpenRecord where
  v1ConversationId : Id
  threadId : Id
  kind : Kind
  title : String
  intent : Option String
  openerActor : String
  ownerActor : Option String
  addressedTo : Option String
  isGeneral : Bool

def openingParticipants (record : OpenRecord) : List (String × String) :=
  let opener := handleOrSystem (some record.openerActor)
  let owner := normalizeHandle record.ownerActor
  let addressed := normalizeHandle record.addressedTo
  [(opener, "opener")] ++
    ((owner.filter (· ≠ opener)).map fun handle => (handle, "owner")).toList ++
    ((addressed.filter fun handle => handle ≠ opener ∧ some handle ≠ owner).map
      fun handle => (handle, "addressed")).toList

def mirrorConversationOpen (store : Store) (record : OpenRecord) (now : Time) :
    Store × Id :=
  let opener := handleOrSystem (some record.openerActor)
  let registered := store.ensureActorByHandle opener
    (if opener = "@system" then .human else .ai)
  let roles := openingParticipants record
  let registered := roles.foldl
    (fun known role => known.ensureActorByHandle role.1 .ai) registered
  registered.insertOperation
    { spaceId := s!"chat:{record.threadId}"
      kind := record.kind
      state := .opened
      title := record.title
      intent := record.intent
      v1ConversationId := record.v1ConversationId
      isGeneral := record.isGeneral
      policy := none
      resolution := none
      resolutionSummary := none
      closedByActorId := none
      createdAt := now
      updatedAt := now
      closedAt := none
      participants := roles.map fun role =>
        { actorId := role.1, role := role.2, joinedAt := now }
      events := []
      artifacts := [] }

/-- What `mirror_message` is told about the v1 message. -/
structure MessageRecord where
  actorName : String
  eventKind : String
  content : Json
  addressedTo : Option String
  addressedToMany : List String
  repliesToV2EventId : Option EventId
  privateToActors : List String
  expectedResponse : Option ExpectedResponse

def addressedHandles (record : MessageRecord) : List String :=
  ((record.addressedTo :: record.addressedToMany.map some).filterMap
    normalizeHandle).eraseDups

def privateHandles (record : MessageRecord) : List String :=
  record.privateToActors.filterMap fun actor => normalizeHandle (some actor)

def registerActors (store : Store) (record : MessageRecord) : Store :=
  let speaker := store.ensureActorByHandle (handleOrSystem (some record.actorName))
    (if record.actorName = "system" then .human else .ai)
  (addressedHandles record ++ privateHandles record).foldl
    (fun known handle => known.ensureActorByHandle handle .ai) speaker

def joinAs (joinedAt : Time) (role : String) (participants : List Participant)
    (actorId : String) : List Participant :=
  if participants.any (·.actorId = actorId) then participants
  else participants ++ [{ actorId := actorId, role := role, joinedAt := joinedAt }]

def joinParticipants (participants : List Participant) (record : MessageRecord)
    (now : Time) : List Participant :=
  joinAs now "speaker" ((addressedHandles record).foldl (joinAs now "addressed") participants)
    (handleOrSystem (some record.actorName))

/-- The event a message becomes.  Only an event outside speech exposes its
parsed content as `lifecycle`. -/
def eventOf (record : MessageRecord) (now : Time) : Event :=
  { actorId := handleOrSystem (some record.actorName)
    kind := record.eventKind
    payload :=
      { text := record.content
        lifecycle :=
          if isSpeechKind record.eventKind ∨ !record.content.isObj then none
          else some record.content
        expectedResponse := record.expectedResponse
        intent := none }
    addressedToActorIds := addressedHandles record
    repliesToEventId := record.repliesToV2EventId
    privateToActorIds :=
      if privateHandles record = [] then none else some (privateHandles record)
    createdAt := now }

/-- The store a message's event is inserted into: everyone named is registered,
and the addressed and the speaker have joined. -/
def joinedStore (store : Store) (operationId : Id) (record : MessageRecord) (now : Time) :
    Store :=
  (registerActors store record).modifyOperation operationId fun row =>
    { row with participants := joinParticipants row.participants record now }

def mirrorMessage (store : Store) (operationId : Id) (record : MessageRecord)
    (now : Time) : Except StoreError (Store × EventId) :=
  (joinedStore store operationId record now).insertEvent operationId (eventOf record now)

/-- `transition_state`: nothing to do in the target state, else a legal move. -/
def transitionState (store : Store) (operationId : Id) (toState : OpState) (now : Time) :
    Except StateMachine.StateMachineError Store :=
  match store.getOperation operationId with
  | none => .ok store
  | some operation =>
      if operation.state = toState then .ok store
      else do
        StateMachine.assertTransition operation.kind operation.state toState
        return store.transitionOperationState operationId toState now

/-- An artifact object with the five fields it must carry, coerced as `str` and
`int` do; `render` is `str` on values that are not strings. -/
def artifactOf (render : Json → String) (fields : Json) (eventId : EventId) (now : Time) :
    Option Artifact := do
  let text (value : Json) : String := value.str?.getD (render value)
  let kind ← fields.get? "kind"
  let uri ← fields.get? "uri"
  let sha256 ← fields.get? "sha256"
  let mime ← fields.get? "mime"
  let size ← fields.get? "size_bytes"
  let sizeBytes ← size.toInt?
  return {
    eventId := eventId
    kind := text kind
    uri := text uri
    sha256 := text sha256
    mime := text mime
    sizeBytes := sizeBytes
    label := match fields.get "label" with
      | .null => none
      | label => some (text label)
    metadata := if (fields.get "metadata").isObj then fields.get "metadata" else .null
    createdAt := now }

/-- `attach_artifact`: an incomplete artifact is dropped silently, but one of a size the
database cannot hold raises. -/
def attachArtifact (render : Json → String) (store : Store) (eventId : EventId)
    (fields : Json) (now : Time) : Except StoreError Store :=
  match artifactOf render fields eventId now with
  | none => .ok store
  | some artifact => do
      require (isStorable artifact.sizeBytes) .integerOverflow
      return store.insertArtifact eventId.operation artifact

/-- An artifact object that can be attached: it is dropped, or its size can be held. -/
def isStorableArtifact (fields : Json) : Bool :=
  (["kind", "uri", "sha256", "mime"].all fun key => (fields.get? key).isSome) →
    ((fields.get? "size_bytes").bind Json.toInt?).all isStorable

variable {store : Store} {now : Time} {participants : List Participant} {participant : Participant}
  {record : MessageRecord}

variable {eventId : EventId} {fields : Json} {joinedAt : Time} {role : String} {operationId : Id}

theorem attachArtifact_isOk_iff {render : Json → String} :
    (∃ after, attachArtifact render store eventId fields now = .ok after) ↔
      isStorableArtifact fields := by
  unfold attachArtifact isStorableArtifact artifactOf
  cases hkind : fields.get? "kind" with
  | none => simp [hkind]
  | some =>
      cases huri : fields.get? "uri" with
      | none => simp [huri]
      | some =>
          cases hsha256 : fields.get? "sha256" with
          | none => simp [hsha256]
          | some =>
              cases hmime : fields.get? "mime" with
              | none => simp [hmime]
              | some =>
                  cases hsize : fields.get? "size_bytes" with
                  | none => simp
                  | some size =>
                      cases hint : size.toInt? <;>
                        simp [hkind, huri, hsha256, hmime, hint]

theorem attachArtifact_eq_ok {render : Json → String} {after : Store}
    (hok : attachArtifact render store eventId fields now = .ok after) :
    after = store ∨ ∃ artifact, after = store.insertArtifact eventId.operation artifact := by
  unfold attachArtifact at hok
  cases hartifact : artifactOf render fields eventId now with
  | none =>
      rw [hartifact] at hok
      cases hok
      exact Or.inl rfl
  | some artifact =>
      simp only [hartifact, bind_eq_ok, pure_eq_ok] at hok
      rcases hok with ⟨_, _, rfl⟩
      exact Or.inr ⟨artifact, rfl⟩

def closerOf (closedByActor : String) : Option String :=
  (normalizeHandle (some closedByActor)).filter (· ≠ "@system")

def registerCloser (store : Store) (closedByActor : String) : Store :=
  match closerOf closedByActor with
  | some closer => store.ensureActorByHandle closer .ai
  | none => store

def assertMirrorClose (store : Store) (operationId : Id) (resolution : String)
    (systemBypass : Bool) : Except StateMachine.StateMachineError Unit :=
  match store.getOperation operationId with
  | some operation =>
      StateMachine.assertClose operation.kind operation.state resolution systemBypass
  | none => .ok ()

def mirrorConversationClose (store : Store) (operationId : Id) (closedByActor : String)
    (resolution : String) (resolutionSummary : Option String) (systemBypass : Bool)
    (closedAt now : Time) : Except StateMachine.StateMachineError Store := do
  assertMirrorClose store operationId resolution systemBypass
  return (registerCloser store closedByActor).closeOperation operationId
    (closerOf closedByActor) resolution resolutionSummary closedAt now

@[simp]
theorem registerCloser_operations (store : Store) (closedByActor : String) :
    (registerCloser store closedByActor).operations = store.operations := by
  unfold registerCloser
  split
  · exact store.ensureActorByHandle_operations _ _
  · rfl

theorem actors_prefix_registerCloser (store : Store) (closedByActor : String) :
    store.actors <+: (registerCloser store closedByActor).actors := by
  unfold registerCloser
  split
  · exact store.actors_prefix_ensureActorByHandle _ _
  · exact List.prefix_rfl

theorem foldl_ensure_operations (handles : List String) (store : Store) :
    (handles.foldl (fun known handle => known.ensureActorByHandle handle .ai)
      store).operations = store.operations := by
  induction handles generalizing store with
  | nil => rfl
  | cons handle handles ih =>
      rw [List.foldl_cons, ih, Store.ensureActorByHandle_operations]

theorem actors_prefix_foldl_ensure (handles : List String) (store : Store) :
    store.actors <+: (handles.foldl (fun known handle =>
      known.ensureActorByHandle handle .ai) store).actors := by
  induction handles generalizing store with
  | nil => exact List.prefix_rfl
  | cons handle handles ih =>
      exact (store.actors_prefix_ensureActorByHandle handle .ai).trans (ih _)

@[simp]
theorem registerActors_operations (store : Store) (record : MessageRecord) :
    (registerActors store record).operations = store.operations := by
  rw [registerActors, foldl_ensure_operations, Store.ensureActorByHandle_operations]

theorem actors_prefix_registerActors (store : Store) (record : MessageRecord) :
    store.actors <+: (registerActors store record).actors :=
  (store.actors_prefix_ensureActorByHandle _ _).trans (actors_prefix_foldl_ensure _ _)

theorem isSome_speaker_registerActors (store : Store) (record : MessageRecord) :
    ((registerActors store record).getActorByHandle
      (handleOrSystem (some record.actorName))).isSome := by
  let speaker := store.ensureActorByHandle (handleOrSystem (some record.actorName))
    (if record.actorName = "system" then .human else .ai)
  have hspeaker : (speaker.getActorByHandle
      (handleOrSystem (some record.actorName))).isSome :=
    Store.isSome_getActorByHandle_ensure _ _ _
  rcases Option.isSome_iff_exists.mp hspeaker with ⟨actor, hactor⟩
  have hkept := Store.getActorByHandle_of_prefix (actors_prefix_foldl_ensure
    (addressedHandles record ++ privateHandles record) speaker) hactor
  rw [registerActors, hkept]
  rfl

theorem prefix_joinAs (joinedAt : Time) (role : String) (participants : List Participant)
    (actorId : String) : participants <+: joinAs joinedAt role participants actorId := by
  unfold joinAs
  split
  · exact List.prefix_rfl
  · exact List.prefix_append _ _

theorem prefix_foldl_joinAs (joinedAt : Time) (role : String) (actorIds : List String)
    (participants : List Participant) :
    participants <+: actorIds.foldl (joinAs joinedAt role) participants := by
  induction actorIds generalizing participants with
  | nil => exact List.prefix_rfl
  | cons actorId actorIds ih =>
      exact (prefix_joinAs joinedAt role participants actorId).trans (ih _)

theorem prefix_joinParticipants (participants : List Participant)
    (record : MessageRecord) (now : Time) :
    participants <+: joinParticipants participants record now :=
  (prefix_foldl_joinAs now "addressed" _ participants).trans (prefix_joinAs now "speaker" _ _)

theorem mem_joinAs {actorId : String}
    (hmem : participant ∈ joinAs joinedAt role participants actorId) :
    participant ∈ participants ∨ participant.actorId = actorId ∧ participant.role = role := by
  unfold joinAs at hmem
  split at hmem
  · exact Or.inl hmem
  · rcases List.mem_append.mp hmem with hold | hnew
    · exact Or.inl hold
    · right
      rw [List.mem_singleton.mp hnew]
      exact ⟨rfl, rfl⟩

theorem mem_foldl_joinAs {actorIds : List String}
    (hmem : participant ∈ actorIds.foldl (joinAs joinedAt role) participants) :
    participant ∈ participants ∨
      participant.actorId ∈ actorIds ∧ participant.role = role := by
  induction actorIds generalizing participants with
  | nil => exact Or.inl hmem
  | cons actorId actorIds ih =>
      rcases ih hmem with hfirst | ⟨hlater, hrole⟩
      · rcases mem_joinAs hfirst with hold | ⟨hthis, hrole⟩
        · exact Or.inl hold
        · exact Or.inr ⟨hthis ▸ List.mem_cons_self, hrole⟩
      · exact Or.inr ⟨List.mem_cons_of_mem actorId hlater, hrole⟩

theorem mem_joinParticipants (hmem : participant ∈ joinParticipants participants record now) :
    participant ∈ participants ∨
      participant.actorId ∈ addressedHandles record ∧ participant.role = "addressed" ∨
      participant.actorId = handleOrSystem (some record.actorName) ∧
        participant.role = "speaker" := by
  rcases mem_joinAs hmem with hbefore | hspeaker
  · rcases mem_foldl_joinAs hbefore with hold | haddressed
    · exact Or.inl hold
    · exact Or.inr (Or.inl haddressed)
  · exact Or.inr (Or.inr hspeaker)

@[simp]
theorem getOperation_registerActors (store : Store) (record : MessageRecord)
    (operationId : Id) :
    (registerActors store record).getOperation operationId =
      store.getOperation operationId := by
  rw [Store.getOperation, Store.getOperation, registerActors_operations]

theorem log_joinedStore (store : Store) (operationId other : Id) (record : MessageRecord)
    (now : Time) :
    (joinedStore store operationId record now).log other = store.log other := by
  rw [joinedStore, Store.log_modifyOperation]
  · rw [Store.log, Store.log, getOperation_registerActors]
  · exact fun _ => rfl

theorem getEvent_joinedStore (store : Store) (operationId : Id) (record : MessageRecord)
    (now : Time) (id : EventId) :
    (joinedStore store operationId record now).getEvent id = store.getEvent id := by
  rw [Store.getEvent, Store.getEvent, log_joinedStore]

def rowAfter (row : Operation) (record : MessageRecord) (now : Time) : Operation :=
  { row with
    participants := joinParticipants row.participants record now
    events := row.events ++ [eventOf record now] }

def mirroredStore (store : Store) (operationId : Id) (record : MessageRecord) (now : Time)
    (row : Operation) : Store :=
  { actors := (registerActors store record).actors
    operations := store.operations.set operationId (rowAfter row record now) }

theorem modifyOperation_joinedStore {row : Operation}
    (hrow : store.getOperation operationId = some row) :
    ((joinedStore store operationId record now).modifyOperation operationId fun joined =>
        { joined with events := joined.events ++ [eventOf record now] }) =
      mirroredStore store operationId record now row := by
  have hat : store.operations[operationId]? = some row := hrow
  have hset : (store.operations.modify operationId fun row => rowAfter row record now) =
      store.operations.set operationId (rowAfter row record now) := by
    rw [List.modify_eq_set_getElem?, hat]
    rfl
  simp only [joinedStore, Store.modifyOperation, registerActors_operations, mirroredStore]
  rw [List.modify_modify_eq, ← hset]
  rfl

theorem mirrorMessage_eq_ok {after : Store} {id : EventId} :
    mirrorMessage store operationId record now = .ok (after, id) ↔
      ∃ row, store.getOperation operationId = some row ∧
        (record.repliesToV2EventId.all fun id => (store.getEvent id).isSome) ∧
        after = mirroredStore store operationId record now row ∧
        id = { operation := operationId, index := row.events.length } := by
  have hspeaker : ((joinedStore store operationId record now).getActorByHandle
      (eventOf record now).actorId).isSome := isSome_speaker_registerActors store record
  have hreply : ((eventOf record now).repliesToEventId.all fun id =>
      ((joinedStore store operationId record now).getEvent id).isSome) =
        record.repliesToV2EventId.all fun id => (store.getEvent id).isSome := by
    simp only [getEvent_joinedStore]
    rfl
  rw [mirrorMessage, Store.insertEvent_eq_ok, hreply]
  simp only [joinedStore, Store.getOperation_modifyOperation_self, getOperation_registerActors,
    Option.map_eq_some_iff]
  constructor
  · rintro ⟨_, ⟨row, hrow, rfl⟩, _, hreplied, rfl, rfl⟩
    exact ⟨row, hrow, hreplied, modifyOperation_joinedStore hrow, rfl⟩
  · rintro ⟨row, hrow, hreplied, rfl, rfl⟩
    exact ⟨_, ⟨row, hrow, rfl⟩, hspeaker, hreplied,
      (modifyOperation_joinedStore hrow).symm, rfl⟩

end OpsCure.OperationMirror
