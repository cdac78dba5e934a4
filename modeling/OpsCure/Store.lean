/-
The v2 tables and their repository (`kernel/v2/models.py`,
`kernel/v2/repository.py`).  Events, participants and artifacts are kept with
their operation; the log of an operation is the list of its events, so that
`seq` is the position in the list plus one.
-/
import OpsCure.Contract
import OpsCure.Presence
import Mathlib.Algebra.Group.Int.Defs

namespace OpsCure.V2

open Fallible Table Contract

inductive ActorKind where
  | human
  | ai
deriving DecidableEq, Repr

/-- An actor; the handle is unique and serves as its identity. -/
structure Actor where
  handle : String
  displayName : String
  kind : ActorKind
  capabilities : List Capability
deriving DecidableEq, Repr

/-- An event's identity: its operation and its place in that log. -/
structure EventId where
  operation : Id
  index : Nat
deriving DecidableEq, Repr

/-- What an event's payload column can hold: the text (a dumped JSON value is
kept as the value), the parsed lifecycle object, the nested
`_meta.expected_response`, and the intent of a ratify. -/
structure EventPayload where
  text : Json
  lifecycle : Option Json
  expectedResponse : Option ExpectedResponse
  intent : Option String
deriving Repr

structure Event where
  actorId : String
  kind : String
  payload : EventPayload
  addressedToActorIds : List String
  repliesToEventId : Option EventId
  privateToActorIds : Option (List String)
  createdAt : Time
deriving Repr

structure Participant where
  actorId : String
  role : String
  joinedAt : Time
deriving DecidableEq, Repr

structure Artifact where
  eventId : EventId
  kind : String
  uri : String
  sha256 : String
  mime : String
  sizeBytes : Int
  label : Option String
  metadata : Json
  createdAt : Time
deriving Repr

structure Operation where
  spaceId : String
  kind : Kind
  state : OpState
  title : String
  intent : Option String
  v1ConversationId : Id
  isGeneral : Bool
  policy : Option OperationPolicy
  resolution : Option String
  resolutionSummary : Option String
  closedByActorId : Option String
  createdAt : Time
  updatedAt : Time
  closedAt : Option Time
  participants : List Participant
  events : List Event
  artifacts : List Artifact

structure Store where
  actors : List Actor
  operations : List Operation

inductive StoreError where
  /-- An insert names an operation, actor or event that is not there. -/
  | foreignKey
  /-- An integer is past what a column holds. -/
  | integerOverflow
deriving DecidableEq, Repr

def StoreError.text : StoreError → String
  | foreignKey => "FOREIGN KEY constraint failed"
  | integerOverflow => "Python int too large to convert to SQLite INTEGER"

/-- What an integer column of SQLite holds. -/
def isStorable (value : Int) : Bool := -2 ^ 63 ≤ value ∧ value < 2 ^ 63

/-- `operation_policy`: the stored policy, or the contract's default. -/
def Operation.operationPolicy (operation : Operation) : OperationPolicy :=
  operation.policy.getD defaultOperationPolicy

/-- `seq`: log positions start at one. -/
def EventId.seq (id : EventId) : Nat := id.index + 1

/-- SQLite's `LIKE '%.speech.%'` or `LIKE 'speech.%'`, which fold ASCII case. -/
def likeSpeech (kind : String) : Bool :=
  let folded := kind.toList.map Char.toLower
  ".speech.".toList <:+: folded ∨ "speech.".toList <+: folded

theorem likeSpeech_of_isSpeechKind {kind : String} (hspeech : isSpeechKind kind) :
    likeSpeech kind := by
  have hcategory : (kindTokens kind).dropLast.findSome? categoryOfToken = some .speech :=
    of_decide_eq_true hspeech
  rcases List.exists_of_findSome?_eq_some hcategory with ⟨token, htoken, hcategory⟩
  have hword : token = "speech".toList := by
    unfold categoryOfToken at hcategory
    split_ifs at hcategory with hword <;> first | exact hword | cases hcategory
  have hjoined : ['.'].intercalate (kindTokens kind) = kind.toList :=
    List.intercalate_splitOn '.'
  have hfound : token ++ ['.'] <+: ['.'].intercalate (kindTokens kind) ∨
      ['.'] ++ token ++ ['.'] <:+: ['.'].intercalate (kindTokens kind) :=
    Text.token_within htoken
  rw [hjoined, hword] at hfound
  have hopening : ("speech".toList ++ ['.']).map Char.toLower = "speech.".toList := by decide
  have hmiddle : (['.'] ++ "speech".toList ++ ['.']).map Char.toLower =
      ".speech.".toList := by decide
  refine decide_eq_true ?_
  rcases hfound with hopens | hbetween
  · right
    rw [← hopening]
    exact hopens.map Char.toLower
  · left
    rw [← hmiddle]
    exact hbetween.map Char.toLower

/-- `max(1, min(limit, 1000))`. -/
def clampLimit (limit : Nat) : Nat := max 1 (min limit 1000)

/-- The states `recent_active_ops` asks for. -/
def activeStates : List OpState :=
  [.opened, .claimed, .executing, .blockedApproval, .verifying]

namespace Store

def empty : Store := ⟨[], []⟩

def modifyOperation (store : Store) (operationId : Id) (change : Operation → Operation) :
    Store :=
  { store with operations := store.operations.modify operationId change }

def getActorByHandle (store : Store) (handle : String) : Option Actor :=
  store.actors.find? (·.handle = handle)

/-- `ensure_actor_by_handle`; the presence columns it refreshes are left out. -/
def ensureActorByHandle (store : Store) (handle : String) (kind : ActorKind) : Store :=
  match store.getActorByHandle handle with
  | some _ => store
  | none =>
      { store with actors := store.actors ++
          [{ handle := handle, displayName := handle, kind := kind, capabilities := [] }] }

def getOperation (store : Store) (operationId : Id) : Option Operation :=
  store.operations[operationId]?

def insertOperation (store : Store) (operation : Operation) : Store × Id :=
  ({ store with operations := store.operations ++ [operation] }, store.operations.length)

def setOperationPolicy (store : Store) (operationId : Id) (policy : OperationPolicy)
    (now : Time) : Store :=
  store.modifyOperation operationId fun row =>
    { row with policy := some policy, updatedAt := now }

def transitionOperationState (store : Store) (operationId : Id) (toState : OpState)
    (now : Time) : Store :=
  store.modifyOperation operationId fun row =>
    { row with state := toState, updatedAt := now }

def closeOperation (store : Store) (operationId : Id) (closedByActorId : Option String)
    (resolution : String) (resolutionSummary : Option String) (closedAt now : Time) :
    Store :=
  store.modifyOperation operationId fun row => { row with
    state := .closed
    resolution := some resolution
    resolutionSummary := resolutionSummary
    closedByActorId := closedByActorId
    closedAt := some closedAt
    updatedAt := now }

def listParticipants (store : Store) (operationId : Id) : List Participant :=
  ((store.getOperation operationId).map (·.participants)).getD []

/-- The whole event log of an operation, in `seq` order. -/
def log (store : Store) (operationId : Id) : List Event :=
  ((store.getOperation operationId).map (·.events)).getD []

def getEvent (store : Store) (id : EventId) : Option Event :=
  (store.log id.operation)[id.index]?

/-- `insert_event`: append to the log of an existing operation; the actor and
the event replied to must exist. -/
def insertEvent (store : Store) (operationId : Id) (event : Event) :
    Except StoreError (Store × EventId) := do
  let row ← orRaise (store.getOperation operationId) .foreignKey
  require (store.getActorByHandle event.actorId).isSome .foreignKey
  require (event.repliesToEventId.all fun id => (store.getEvent id).isSome) .foreignKey
  return (store.modifyOperation operationId fun row =>
      { row with events := row.events ++ [event] },
    { operation := operationId, index := row.events.length })

/-- `list_events(after_seq, limit)`: a window of the log, at most 1000 long. -/
def listEvents (store : Store) (operationId : Id) (afterSeq limit : Nat) : List Event :=
  ((store.log operationId).drop afterSeq).take (clampLimit limit)

def countSpeechEvents (store : Store) (operationId : Id) : Nat :=
  (store.log operationId).countP fun event => likeSpeech event.kind

def lastSpeechEventForOp (store : Store) (operationId : Id) : Option (Event × Nat) :=
  (selectWhere (fun event => likeSpeech event.kind) (store.log operationId)).getLast?

/-- `recent_active_ops`: the 200 latest updated operations that are not closed. -/
def recentActiveOps (store : Store) : List (Operation × Id) :=
  (orderBy (fun left right => right.updatedAt ≤ left.updatedAt)
    (selectWhere (fun row => row.state ∈ activeStates) store.operations)).take 200

theorem pairwise_recentActiveOps (store : Store) :
    store.recentActiveOps.Pairwise fun left right => left.2 ≠ right.2 :=
  (pairwise_orderBy (pairwise_selectWhere _ _)).sublist (List.take_sublist _ _)

def insertArtifact (store : Store) (operationId : Id) (artifact : Artifact) : Store :=
  store.modifyOperation operationId fun row =>
    { row with artifacts := row.artifacts ++ [artifact] }

def listArtifactsForOperation (store : Store) (operationId : Id) : List Artifact :=
  ((store.getOperation operationId).map (·.artifacts)).getD []

def listArtifactsForEvent (store : Store) (id : EventId) : List Artifact :=
  store.operations.flatMap fun row => row.artifacts.filter (·.eventId = id)

@[simp]
theorem ensureActorByHandle_operations (store : Store) (handle : String)
    (kind : ActorKind) :
    (store.ensureActorByHandle handle kind).operations = store.operations := by
  unfold ensureActorByHandle
  split <;> rfl

theorem actors_prefix_ensureActorByHandle (store : Store) (handle : String)
    (kind : ActorKind) :
    store.actors <+: (store.ensureActorByHandle handle kind).actors := by
  unfold ensureActorByHandle
  split
  · exact List.prefix_rfl
  · exact List.prefix_append _ _

theorem getActorByHandle_of_prefix {before after : Store} {handle : String}
    {actor : Actor} (hactors : before.actors <+: after.actors)
    (hknown : before.getActorByHandle handle = some actor) :
    after.getActorByHandle handle = some actor := by
  rcases hactors with ⟨added, hadded⟩
  unfold getActorByHandle at hknown ⊢
  rw [← hadded, List.find?_append, hknown]
  rfl

@[simp]
theorem isSome_getActorByHandle_ensure (store : Store) (handle : String)
    (kind : ActorKind) :
    ((store.ensureActorByHandle handle kind).getActorByHandle handle).isSome := by
  unfold ensureActorByHandle
  split
  · rename_i hknown
    simp [hknown]
  · rename_i hunknown
    have hnone : store.actors.find? (·.handle = handle) = none := hunknown
    simp [getActorByHandle, List.find?_append, hnone]

@[simp]
theorem getOperation_modifyOperation_self (store : Store) (operationId : Id)
    (change : Operation → Operation) :
    (store.modifyOperation operationId change).getOperation operationId =
      (store.getOperation operationId).map change := by
  simp [modifyOperation, getOperation]

variable {store : Store} {operationId : Id} {change : Operation → Operation}

theorem getOperation_modifyOperation_of_ne {other : Id} (hne : operationId ≠ other) :
    (store.modifyOperation operationId change).getOperation other =
      store.getOperation other := by
  simp [modifyOperation, getOperation, hne]

@[simp]
theorem isSome_getOperation_modifyOperation (store : Store) (operationId other : Id)
    (change : Operation → Operation) :
    ((store.modifyOperation operationId change).getOperation other).isSome =
      (store.getOperation other).isSome := by
  by_cases hsame : operationId = other
  · subst hsame
    simp
  · rw [getOperation_modifyOperation_of_ne hsame]

def kindState (store : Store) (operationId : Id) : Option (Kind × OpState) :=
  (store.getOperation operationId).map fun row => (row.kind, row.state)

@[simp]
theorem isSome_kindState (store : Store) (operationId : Id) :
    (store.kindState operationId).isSome = (store.getOperation operationId).isSome := by
  simp [kindState]

theorem kindState_modifyOperation
    (hkeep : ∀ row, (change row).kind = row.kind ∧ (change row).state = row.state) (other : Id) :
    (store.modifyOperation operationId change).kindState other = store.kindState other := by
  by_cases hsame : operationId = other
  · subst hsame
    simp [kindState, Function.comp_def, hkeep]
  · rw [kindState, getOperation_modifyOperation_of_ne hsame]
    rfl

theorem log_congr {other : Store} (hoperations : other.operations = store.operations)
    (operationId : Id) : other.log operationId = store.log operationId := by
  rw [log, log, getOperation, getOperation, hoperations]

theorem getEvent_congr {other : Store} (hoperations : other.operations = store.operations)
    (id : EventId) : other.getEvent id = store.getEvent id := by
  rw [getEvent, getEvent, log_congr hoperations]

theorem log_eq_of_getOperation {row : Operation}
    (hrow : store.getOperation operationId = some row) : store.log operationId = row.events := by
  simp [log, hrow]

theorem log_modifyOperation (hevents : ∀ row, (change row).events = row.events) (other : Id) :
    (store.modifyOperation operationId change).log other = store.log other := by
  by_cases hsame : operationId = other
  · subst hsame
    rw [log, getOperation_modifyOperation_self, Option.map_map]
    simp only [Function.comp_def, hevents]
    rfl
  · rw [log, getOperation_modifyOperation_of_ne hsame]
    rfl

theorem insertEvent_eq_ok {after : Store} {event : Event} {id : EventId} :
    store.insertEvent operationId event = .ok (after, id) ↔
      ∃ row, store.getOperation operationId = some row ∧
        (store.getActorByHandle event.actorId).isSome ∧
        (event.repliesToEventId.all fun id => (store.getEvent id).isSome) ∧
        after = (store.modifyOperation operationId fun row =>
          { row with events := row.events ++ [event] }) ∧
        id = { operation := operationId, index := row.events.length } := by
  simp only [insertEvent, bind_eq_ok, orRaise_eq_ok, require_eq_ok, pure_eq_ok, Prod.mk.injEq,
    exists_and_left]
  constructor
  · rintro ⟨row, hrow, hactor, hreply, rfl, _, _, rfl⟩
    exact ⟨row, hrow, hactor, hreply, rfl, rfl⟩
  · rintro ⟨row, hrow, hactor, hreply, rfl, rfl⟩
    exact ⟨row, hrow, hactor, hreply, rfl, ⟨⟩, ⟨⟩, rfl⟩

end Store

end OpsCure.V2
