/-
What a reader of recent events reads: the kinds filter of discovery (`_last_expected_kinds`), the
runner of the bridge's agents (`_build_context`) and the agent loop on the PC
(`_fetch_op_history`).  Each asks for the first events of a log, up to a limit, where the last ones
are meant.
-/
import OpsCure.ActorRoutes
import OpsCure.Library.Windows

namespace OpsCure.Api

open Table Contract V2 Windows

/-! ## The runner of the bridge -/

/-- An agent's runner: its handle, its actor, and how many events it gives to its brain. -/
structure AgentRunner where
  actorHandle : String
  actorId : String
  recentLimit : Nat

/-- One of the `recent_events`. -/
structure RecentEvent where
  seq : Nat
  kind : String
  actorId : String
  payload : EventPayload
deriving Repr

def recentEvent (row : Event × Nat) : RecentEvent :=
  { seq := row.2 + 1
    kind := row.1.kind
    actorId := row.1.actorId
    payload := row.1.payload }

/-- What the context tells of an operation that is there. -/
structure Scene where
  viewerActorHandle : String
  id : Id
  kind : Kind
  title : String
  intent : Option String
  state : OpState
  participants : List (String × String)
  recentEvents : List RecentEvent
deriving Repr

structure AgentContext where
  eventKind : String
  viewerActorId : String
  scene : Option Scene
deriving Repr

/-- The events a runner shows its brain, those that are not hidden from it. -/
def AgentRunner.recentEvents (runner : AgentRunner) (store : Store) (operationId : Id) :
    List RecentEvent :=
  let events := selectEvents store operationId 0 [] runner.recentLimit
  (events.filter fun row => visibleTo (some runner.actorId) row.1).map recentEvent

/-- `_build_context`. -/
def buildContext (runner : AgentRunner) (store : Store) (operationId : Id) (eventKind : String) :
    AgentContext :=
  { eventKind := eventKind
    viewerActorId := runner.actorId
    scene := (store.getOperation operationId).map fun operation =>
      { viewerActorHandle := runner.actorHandle
        id := operationId
        kind := operation.kind
        title := operation.title
        intent := operation.intent
        state := operation.state
        participants := (store.listParticipants operationId).map fun participant =>
          (participant.actorId, participant.role)
        recentEvents := runner.recentEvents store operationId } }

/-! ## The agent loop -/

/-- The agent loop of a PC: its handle, and how many events go into a prompt. -/
structure AgentLoop where
  actorHandle : String
  historyLimit : Nat

/-- `_fetch_op_history`; a fetch that fails has no page. -/
def AgentLoop.fetchOpHistory (loop : AgentLoop) (fetched : Option EventsPage) : List EventBody :=
  if loop.historyLimit = 0 then []
  else
    match fetched with
    | none => []
    | some page => page.events.rtake loop.historyLimit

/-- The page the bridge answers with: no limit is asked for, and the route's is two hundred. -/
def AgentLoop.fetch (loop : AgentLoop) (store : Store) (operationId : Id) : Option EventsPage :=
  (listEvents store operationId 0 [] (some loop.actorHandle) 200).toOption

/-! ## The tail of the log -/

def expectedKinds (event : Event) : Option (List String) :=
  (event.payload.expectedResponse.bind (·.kinds)).filter (· ≠ [])

def visibleRows (store : Store) (operationId : Id) (viewer : Option String) :
    List (Event × Nat) :=
  (store.log operationId).zipIdx.filter fun row => visibleTo viewer row.1

def eventBody (operationId : Id) (row : Event × Nat) : EventBody :=
  serializeEvent { operation := operationId, index := row.2 } row.1

structure ReadsTail (store : Store) (operationId : Id) (runner : AgentRunner)
    (loop : AgentLoop) : Prop where
  kinds : lastExpectedKinds store operationId =
    ((store.log operationId).rtake 20).reverse.findSome? expectedKinds
  recent : runner.recentEvents store operationId =
    ((visibleRows store operationId (some runner.actorId)).map recentEvent).rtake
      runner.recentLimit
  history : loop.fetchOpHistory (loop.fetch store operationId) =
    ((visibleRows store operationId (resolveActorId store (some loop.actorHandle))).map
      (eventBody operationId)).rtake loop.historyLimit

/-- The first twenty events and the last twenty have the same latest kinds. -/
def SameKinds (log : List Event) : Prop :=
  ∀ kinds, Latest expectedKinds (log.take 20) kinds ↔ Latest expectedKinds (log.rtake 20) kinds

/-- No event behind the first `limit` ones is shown to the viewer. -/
def HiddenBehind (log : List Event) (viewer : Option String) (limit : Nat) : Prop :=
  ∀ event ∈ log.drop limit, visibleTo viewer event = false

/-- What the readers look for lies within their windows. -/
structure WithinWindows (store : Store) (operationId : Id) (runner : AgentRunner)
    (loop : AgentLoop) : Prop where
  kinds : SameKinds (store.log operationId)
  recent : if runner.recentLimit = 0 then
      ∀ event ∈ (store.log operationId).take 1, visibleTo (some runner.actorId) event = false
    else HiddenBehind (store.log operationId) (some runner.actorId) (min runner.recentLimit 1000)
  history : loop.historyLimit = 0 ∨
    HiddenBehind (store.log operationId) (resolveActorId store (some loop.actorHandle)) 200

section Windows

variable {store : Store} {operationId : Id}

theorem lastExpectedKinds_iff :
    lastExpectedKinds store operationId =
        ((store.log operationId).rtake 20).reverse.findSome? expectedKinds ↔
      SameKinds (store.log operationId) :=
  findSome?_reverse_eq_iff

/-- The visible events within the first `limit` ones of a log. -/
def shownWithin (log : List Event) (viewer : Option String) (limit : Nat) : List (Event × Nat) :=
  (log.zipIdx.take limit).filter fun row => visibleTo viewer row.1

def shownBehind (log : List Event) (viewer : Option String) (limit : Nat) : List (Event × Nat) :=
  (log.zipIdx.drop limit).filter fun row => visibleTo viewer row.1

variable (log : List Event) (viewer : Option String) (limit : Nat)

theorem shown_append : shownWithin log viewer limit ++ shownBehind log viewer limit =
    log.zipIdx.filter fun row => visibleTo viewer row.1 := by
  rw [shownWithin, shownBehind, ← List.filter_append, List.take_append_drop]

theorem nodup_told {τ : Type} {tells : Event × Nat → τ} {place : τ → Nat}
    (hplace : ∀ row, place (tells row) = row.2 + 1) :
    ((log.zipIdx.filter fun row => visibleTo viewer row.1).map tells).Nodup := by
  apply List.Nodup.of_map place
  have hplaces : ((log.zipIdx.filter fun row => visibleTo viewer row.1).map tells).map place =
      ((log.zipIdx.filter fun row => visibleTo viewer row.1).map Prod.snd).map (· + 1) := by
    rw [List.map_map, List.map_map]
    apply List.map_congr_left
    intro row _
    exact hplace row
  rw [hplaces]
  apply List.Nodup.map (add_left_injective 1)
  have hall : (log.zipIdx.map Prod.snd).Nodup := by
    rw [List.zipIdx_map_snd]
    exact List.nodup_range'
  exact hall.sublist (List.filter_sublist.map Prod.snd)

theorem length_shownWithin_le : (shownWithin log viewer limit).length ≤ limit := by
  calc (shownWithin log viewer limit).length
      ≤ (log.zipIdx.take limit).length := List.length_filter_le _ _
    _ ≤ limit := List.length_take_le _ _

theorem shownWithin_eq_nil_iff : shownWithin log viewer limit = [] ↔
    ∀ event ∈ log.take limit, visibleTo viewer event = false := by
  rw [shownWithin, ← zipIdx_take, List.filter_eq_nil_iff]
  constructor
  · intro hhidden event hevent
    obtain ⟨place, hplace⟩ := List.mem_iff_getElem?.mp hevent
    have hrow := hhidden (event, place) (List.mem_zipIdx_iff_getElem?.mpr hplace)
    exact Bool.eq_false_iff.mpr hrow
  · intro hhidden row hrow
    have hevent : row.1 ∈ log.take limit :=
      List.mem_of_getElem? (List.mem_zipIdx_iff_getElem?.mp hrow)
    rw [hhidden row.1 hevent]
    decide

theorem shownBehind_eq_nil_iff : shownBehind log viewer limit = [] ↔
    HiddenBehind log viewer limit := by
  rw [shownBehind, List.filter_eq_nil_iff]
  constructor
  · intro hhidden event hevent
    obtain ⟨place, hplace⟩ := List.mem_iff_getElem?.mp hevent
    rw [List.getElem?_drop] at hplace
    have hrow : (event, limit + place) ∈ log.zipIdx.drop limit := by
      apply List.mem_iff_getElem?.mpr
      refine ⟨place, ?_⟩
      rw [List.getElem?_drop, List.getElem?_zipIdx, hplace]
      simp
    exact Bool.eq_false_iff.mpr (hhidden _ hrow)
  · intro hhidden row hrow
    obtain ⟨place, hplace⟩ := List.mem_iff_getElem?.mp hrow
    rw [List.getElem?_drop, List.getElem?_zipIdx] at hplace
    obtain ⟨event, hevent, rfl⟩ := Option.map_eq_some_iff.mp hplace
    have hmem : event ∈ log.drop limit := by
      apply List.mem_iff_getElem?.mpr
      exact ⟨place, by rw [List.getElem?_drop]; exact hevent⟩
    rw [hhidden event hmem]
    decide

theorem selectEvents_all (store : Store) (operationId : Id) :
    selectEvents store operationId 0 [] limit =
      (store.log operationId).zipIdx.take (clampLimit limit) := by
  simp [selectEvents]

end Windows

/-! ## The three readers -/

section Readers

variable {store : Store} {operationId : Id}

theorem recentEvents_iff {runner : AgentRunner} :
    runner.recentEvents store operationId =
        ((visibleRows store operationId (some runner.actorId)).map recentEvent).rtake
          runner.recentLimit ↔
      if runner.recentLimit = 0 then
        ∀ event ∈ (store.log operationId).take 1, visibleTo (some runner.actorId) event = false
      else HiddenBehind (store.log operationId) (some runner.actorId)
        (min runner.recentLimit 1000) := by
  let log := store.log operationId
  let viewer := some runner.actorId
  let limit := clampLimit runner.recentLimit
  have hread : runner.recentEvents store operationId =
      (shownWithin log viewer limit).map recentEvent := by
    rw [AgentRunner.recentEvents, selectEvents_all]
    rfl
  have hall : (visibleRows store operationId viewer).map recentEvent =
      (shownWithin log viewer limit).map recentEvent ++
        (shownBehind log viewer limit).map recentEvent := by
    rw [← List.map_append, shown_append]
    rfl
  have hnodup : ((shownWithin log viewer limit).map recentEvent ++
      (shownBehind log viewer limit).map recentEvent).Nodup := by
    rw [← hall]
    have hplace : ∀ row, (recentEvent row).seq = row.2 + 1 := fun _ => rfl
    exact nodup_told log viewer hplace
  have hfits : runner.recentLimit ≠ 0 →
      ((shownWithin log viewer limit).map recentEvent).length ≤ runner.recentLimit := by
    intro hsome
    have hlength := length_shownWithin_le log viewer limit
    have hlimit : limit = max 1 (min runner.recentLimit 1000) := rfl
    rw [List.length_map]
    omega
  rw [hread, hall, front_eq_rtake_iff hnodup hfits, List.map_eq_nil_iff, List.map_eq_nil_iff,
    shownWithin_eq_nil_iff, shownBehind_eq_nil_iff]
  by_cases hzero : runner.recentLimit = 0
  · have hlimit : limit = 1 := by
      change max 1 (min runner.recentLimit 1000) = 1
      rw [hzero]
      rfl
    rw [if_pos hzero, if_pos hzero, hlimit]
  · have hlimit : limit = min runner.recentLimit 1000 := by
      change max 1 (min runner.recentLimit 1000) = _
      omega
    rw [if_neg hzero, if_neg hzero, hlimit]

theorem opHistory_iff {loop : AgentLoop} {operation : V2.Operation}
    (hoperation : store.getOperation operationId = some operation) :
    loop.fetchOpHistory (loop.fetch store operationId) =
        ((visibleRows store operationId (resolveActorId store (some loop.actorHandle))).map
          (eventBody operationId)).rtake loop.historyLimit ↔
      loop.historyLimit = 0 ∨ HiddenBehind (store.log operationId)
        (resolveActorId store (some loop.actorHandle)) 200 := by
  let log := store.log operationId
  let viewer := resolveActorId store (some loop.actorHandle)
  have hread : loop.fetchOpHistory (loop.fetch store operationId) =
      ((shownWithin log viewer 200).map (eventBody operationId)).rtake loop.historyLimit := by
    have hpage : loop.fetch store operationId = some
        { operationId := operationId
          events := (shownWithin log viewer 200).map (eventBody operationId)
          redactedCount := (log.zipIdx.take 200).length - (shownWithin log viewer 200).length
          viewerActorId := viewer } := by
      rw [AgentLoop.fetch, listEvents, hoperation, selectEvents_all]
      rfl
    rw [hpage]
    unfold AgentLoop.fetchOpHistory
    by_cases hzero : loop.historyLimit = 0
    · rw [if_pos hzero, hzero, List.rtake_zero]
    · rw [if_neg hzero]
  have hall : (visibleRows store operationId viewer).map (eventBody operationId) =
      (shownWithin log viewer 200).map (eventBody operationId) ++
        (shownBehind log viewer 200).map (eventBody operationId) := by
    rw [← List.map_append, shown_append]
    rfl
  have hnodup : ((shownWithin log viewer 200).map (eventBody operationId) ++
      (shownBehind log viewer 200).map (eventBody operationId)).Nodup := by
    rw [← hall]
    have hplace : ∀ row, (eventBody operationId row).seq = row.2 + 1 := fun _ => rfl
    exact nodup_told log viewer hplace
  rw [hread, hall, rtake_front_iff hnodup, List.map_eq_nil_iff, shownBehind_eq_nil_iff]

/-- The three readers read the end of a log exactly when what they look for lies within the windows
they ask for. -/
theorem readsTail_iff {runner : AgentRunner} {loop : AgentLoop} {operation : V2.Operation}
    (hoperation : store.getOperation operationId = some operation) :
    ReadsTail store operationId runner loop ↔
      WithinWindows store operationId runner loop := by
  constructor
  · intro htail
    exact ⟨lastExpectedKinds_iff.mp htail.kinds, recentEvents_iff.mp htail.recent,
      (opHistory_iff hoperation).mp htail.history⟩
  · intro hwithin
    exact ⟨lastExpectedKinds_iff.mpr hwithin.kinds, recentEvents_iff.mpr hwithin.recent,
      (opHistory_iff hoperation).mpr hwithin.history⟩

end Readers

/-! ## A late question -/

/-- An event of `alice`'s that asks for these kinds. -/
def asking (kinds : Option (List String)) : Event where
  actorId := "@alice"
  kind := "chat.speech.question"
  payload :=
    { text := .str "which port?"
      lifecycle := none
      expectedResponse := kinds.map fun kinds => ⟨["@bob"], some kinds, none⟩
      intent := none }
  addressedToActorIds := []
  repliesToEventId := none
  privateToActorIds := none
  createdAt := 0

def openStore (events : List Event) : Store where
  actors := [⟨"@alice", "@alice", .human, []⟩, ⟨"@bob", "@bob", .ai, []⟩]
  operations :=
    [{ spaceId := "space"
       kind := .inquiry
       state := .opened
       title := "which port?"
       intent := none
       v1ConversationId := 0
       isGeneral := false
       policy := none
       resolution := none
       resolutionSummary := none
       closedByActorId := none
       createdAt := 0
       updatedAt := 0
       closedAt := none
       participants := []
       events := events
       artifacts := [] }]

def bobRunner : AgentRunner := ⟨"@bob", "@bob", 20⟩

def bobLoop : AgentLoop := ⟨"@bob", 20⟩

/-- A single question is within every window. -/
theorem question_read : ReadsTail (openStore [asking (some ["answer"])]) 0 bobRunner bobLoop := by
  refine (readsTail_iff rfl).mpr ⟨fun _ => Iff.rfl, ?_, Or.inr ?_⟩
  · rintro event hevent
    cases hevent
  · rintro event hevent
    cases hevent

/-- After two hundred other events, a question is behind every window. -/
theorem late_question_unread :
    ¬ ∀ store operationId runner loop, (∃ operation,
      store.getOperation operationId = some operation) →
        ReadsTail store operationId runner loop := by
  intro hall
  let remarks := List.replicate 200 (asking none)
  let question := asking (some ["answer"])
  have htail := hall (openStore (remarks ++ [question])) 0 bobRunner bobLoop ⟨_, rfl⟩
  have hlog : (openStore (remarks ++ [question])).log 0 = remarks ++ [question] := rfl
  have hkinds := htail.kinds
  rw [lastExpectedKinds, Store.listEvents, hlog, List.drop_zero,
    List.rtake_concat_succ, List.reverse_append] at hkinds
  have hfirst : (remarks ++ [question]).take (clampLimit 20) =
      List.replicate 20 (asking none) := by
    have hlength : clampLimit 20 ≤ remarks.length := by
      rw [List.length_replicate]
      decide
    rw [List.take_append_of_le_length hlength, List.take_replicate]
    rfl
  rw [hfirst] at hkinds
  have hnothing : (List.replicate 20 (asking none)).reverse.findSome? expectedKinds = none := by
    rw [List.findSome?_eq_none_iff]
    intro event hevent
    rw [List.eq_of_mem_replicate (List.mem_reverse.mp hevent)]
    rfl
  have hasked : ([question].reverse ++ (remarks.rtake 19).reverse).findSome? expectedKinds =
      some ["answer"] := rfl
  have habsurd : none = some ["answer"] := hnothing.symm.trans (hkinds.trans hasked)
  cases habsurd

end OpsCure.Api
