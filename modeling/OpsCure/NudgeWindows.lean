/-
Does the progression sweeper decide as section 18.1 of the protocol says (`tick`, `_classify_op`)?
A tick looks at the 200 operations that were updated last, and at the first 500 events after a
trigger: the reply, or the nudges, that come later it does not see.
-/
import OpsCure.NudgeLimit

namespace OpsCure.Progression

open Table V2

/-! ## Section 18.1 -/

/-- What is decided about an operation that is not skipped. -/
structure Verdict where
  decision : Decision
  targetHandle : String
  triggerId : EventId
deriving DecidableEq, Repr

def SweepAction.verdict (action : SweepAction) : Verdict :=
  ⟨action.action, action.targetHandle, action.repliesToEventId⟩

/-- The trigger of an operation, and the actor it waits for: it is idle, and the actor is known and
is not its own speaker. -/
def stalled (settings : Settings) (store : Store) (operationId : Id) (now : Time) :
    Option (EventId × String) := do
  let (event, id) ← trigger store operationId
  guard (event.createdAt ≤ now - settings.idle)
  let (target, _) ← responder store event
  guard (target.handle ≠ "")
  guard (target.handle ≠ event.actorId)
  return (id, target.handle)

/-- What the events after a trigger make of a wait for an actor. -/
def judge (settings : Settings) (id : EventId) (handle : String) (later : List Event) :
    Option Verdict :=
  if later.all (·.actorId ≠ handle) then
    some ⟨if settings.maxRetries ≤ priorNudges id later then .defer else .nudge, handle, id⟩
  else none

def eventsAfter (store : Store) (id : EventId) : List Event :=
  (store.log id.operation).drop id.seq

/-- What is to be decided about an operation, `none` standing for a skip. -/
def verdict (settings : Settings) (store : Store) (operationId : Id) (now : Time) :
    Option Verdict := do
  let (id, handle) ← stalled settings store operationId now
  judge settings id handle (eventsAfter store id)

def openOps (store : Store) : List (V2.Operation × Id) :=
  selectWhere (fun row => row.state ∈ activeStates) store.operations

/-- `tick`: the actions of a tick, `none` standing for a skip. -/
def tickActions (settings : Settings) (store : Store) (now : Time) :
    List (Id × Option SweepAction) :=
  store.recentActiveOps.map fun row => (row.2, classifyOp settings store row.2 now)

def DecidesAll (settings : Settings) (store : Store) (now : Time) : Prop :=
  ∀ row operationId, (row, operationId) ∈ openOps store →
    (operationId, verdict settings store operationId now) ∈
      (tickActions settings store now).map fun action => (action.1, action.2.map SweepAction.verdict)

/-! ## What a tick sees -/

/-- The first 500 events after a trigger tell what all of them tell: if the actor has posted since,
one of its events is among them; if it has not, they have enough nudges if there are enough. -/
structure Foretells (settings : Settings) (id : EventId) (handle : String) (later : List Event) :
    Prop where
  reply : (∃ event ∈ later, event.actorId = handle) →
    ∃ event ∈ later.take 500, event.actorId = handle
  nudges : (∀ event ∈ later, event.actorId ≠ handle) →
    settings.maxRetries ≤ priorNudges id later →
    settings.maxRetries ≤ priorNudges id (later.take 500)

/-- A tick sees enough: there are at most 200 open operations, and of each that waits for an actor
the first 500 later events tell what all of them tell. -/
structure SeesEnough (settings : Settings) (store : Store) (now : Time) : Prop where
  operations : (openOps store).length ≤ 200
  events : ∀ row operationId, (row, operationId) ∈ openOps store →
    ∀ id handle, stalled settings store operationId now = some (id, handle) →
      Foretells settings id handle (eventsAfter store id)

theorem verdict_classifyOp (settings : Settings) (store : Store) (operationId : Id) (now : Time) :
    (classifyOp settings store operationId now).map SweepAction.verdict =
      (stalled settings store operationId now).bind fun waits =>
        judge settings waits.1 waits.2 ((eventsAfter store waits.1).take 500) := by
  unfold classifyOp stalled judge
  rcases trigger store operationId with _ | ⟨event, id⟩
  · rfl
  · simp only [Option.bind_eq_bind, Option.bind_some, Option.pure_def]
    by_cases hidle : event.createdAt ≤ now - settings.idle
    · rcases responder store event with _ | ⟨target, channel⟩
      · simp only [guard, if_pos hidle]
        rfl
      · by_cases hnamed : target.handle ≠ ""
        · by_cases hother : target.handle ≠ event.actorId
          · simp only [guard, if_pos hidle, if_pos hnamed, if_pos hother, Option.pure_def,
              Option.bind_some]
            by_cases hsilent : (laterEvents store id).all (·.actorId ≠ target.handle) = true
            · have htold : ((eventsAfter store id).take 500).all (·.actorId ≠ target.handle) =
                  true := hsilent
              rw [if_pos hsilent, if_pos htold]
              rfl
            · have htold : ¬ ((eventsAfter store id).take 500).all (·.actorId ≠ target.handle) =
                  true := hsilent
              rw [if_neg hsilent, if_neg htold]
              rfl
          · simp only [guard, if_pos hidle, if_pos hnamed, if_neg hother, Option.pure_def,
              Option.bind_some]
            rfl
        · simp only [guard, if_pos hidle, if_neg hnamed, Option.pure_def, Option.bind_some]
          rfl
    · simp only [guard, if_neg hidle]
      rfl

theorem all_silent_iff {handle : String} {later : List Event} :
    later.all (·.actorId ≠ handle) = true ↔ ∀ event ∈ later, event.actorId ≠ handle := by
  simp

/-- The first 500 later events lead to the same judgement exactly when they tell what all tell. -/
theorem judge_take_iff (settings : Settings) (id : EventId) (handle : String)
    (later : List Event) :
    judge settings id handle (later.take 500) = judge settings id handle later ↔
      Foretells settings id handle later := by
  unfold judge
  by_cases hsilent : later.all (·.actorId ≠ handle) = true
  · have hall := all_silent_iff.1 hsilent
    have hfirst : (later.take 500).all (·.actorId ≠ handle) = true :=
      all_silent_iff.2 fun event hevent => hall event (List.mem_of_mem_take hevent)
    have hfewer : priorNudges id (later.take 500) ≤ priorNudges id later :=
      (List.take_sublist 500 later).countP_le
    rw [if_pos hsilent, if_pos hfirst]
    constructor
    · intro hsame
      constructor
      · rintro ⟨event, hevent, hauthor⟩
        exact absurd hauthor (hall event hevent)
      · intro _ hmany
        by_contra hfew
        rw [if_pos hmany, if_neg hfew] at hsame
        cases hsame
    · intro hforetells
      by_cases hmany : settings.maxRetries ≤ priorNudges id later
      · rw [if_pos hmany, if_pos (hforetells.nudges hall hmany)]
      · have hfew : ¬ settings.maxRetries ≤ priorNudges id (later.take 500) := by omega
        rw [if_neg hmany, if_neg hfew]
  · have hreplied : ∃ event ∈ later, event.actorId = handle := by
      by_contra hnone
      apply hsilent
      apply all_silent_iff.2
      intro event hevent hauthor
      exact hnone ⟨event, hevent, hauthor⟩
    rw [if_neg hsilent]
    constructor
    · intro hsame
      constructor
      · intro _
        by_contra hnone
        have hfirst : (later.take 500).all (·.actorId ≠ handle) = true :=
          all_silent_iff.2 fun event hevent hauthor => hnone ⟨event, hevent, hauthor⟩
        rw [if_pos hfirst] at hsame
        cases hsame
      · intro hall
        exact absurd (all_silent_iff.2 hall) hsilent
    · intro hforetells
      obtain ⟨event, hevent, hauthor⟩ := hforetells.reply hreplied
      apply if_neg
      intro hfirst
      exact all_silent_iff.1 hfirst event hevent hauthor

theorem verdict_eq_iff (settings : Settings) (store : Store) (operationId : Id) (now : Time) :
    (classifyOp settings store operationId now).map SweepAction.verdict =
        verdict settings store operationId now ↔
      ∀ id handle, stalled settings store operationId now = some (id, handle) →
        Foretells settings id handle (eventsAfter store id) := by
  rw [verdict_classifyOp, verdict]
  cases hstalled : stalled settings store operationId now with
  | none => simp
  | some waits =>
      rw [Option.bind_some, Option.bind_eq_bind, Option.bind_some]
      rw [judge_take_iff]
      constructor
      · intro hforetells id handle hwaits
        cases hwaits
        exact hforetells
      · intro hall
        exact hall waits.1 waits.2 rfl

/-! ## What a tick decides -/

theorem recentActiveOps_of_le {store : Store} (hfew : (openOps store).length ≤ 200)
    {row : V2.Operation × Id} (hrow : row ∈ openOps store) : row ∈ store.recentActiveOps := by
  have hlength : (orderBy (fun left right : V2.Operation => right.updatedAt ≤ left.updatedAt)
      (openOps store)).length ≤ 200 := by
    rw [orderBy, List.length_insertionSort]
    exact hfew
  have hall : store.recentActiveOps =
      orderBy (fun left right : V2.Operation => right.updatedAt ≤ left.updatedAt)
        (openOps store) := List.take_of_length_le hlength
  rw [hall]
  exact mem_orderBy.2 hrow

theorem mem_tickActions {settings : Settings} {store : Store} {now : Time} {operationId : Id}
    {action : Option Verdict}
    (haction : (operationId, action) ∈ (tickActions settings store now).map fun action =>
      (action.1, action.2.map SweepAction.verdict)) :
    (∃ row, (row, operationId) ∈ store.recentActiveOps) ∧
      action = (classifyOp settings store operationId now).map SweepAction.verdict := by
  obtain ⟨classified, hclassified, hsame⟩ := List.mem_map.mp haction
  obtain ⟨⟨row, id⟩, hrow, rfl⟩ := List.mem_map.mp hclassified
  cases hsame
  exact ⟨⟨row, hrow⟩, rfl⟩

theorem length_openOps_of_decides {settings : Settings} {store : Store} {now : Time}
    (hdecides : DecidesAll settings store now) : (openOps store).length ≤ 200 := by
  have hnodup : ((openOps store).map Prod.snd).Nodup :=
    List.pairwise_map.mpr (pairwise_selectWhere _ _)
  have hsubset : (openOps store).map Prod.snd ⊆ store.recentActiveOps.map Prod.snd := by
    intro operationId hoperation
    obtain ⟨⟨row, id⟩, hrow, rfl⟩ := List.mem_map.mp hoperation
    obtain ⟨⟨found, hfound⟩, _⟩ := mem_tickActions (hdecides row id hrow)
    exact List.mem_map.mpr ⟨(found, id), hfound, rfl⟩
  have hle := (hnodup.subperm hsubset).length_le
  rw [List.length_map, List.length_map] at hle
  exact hle.trans (List.length_take_le 200 _)

/-- A tick decides as section 18.1 says about every open operation exactly when it sees enough. -/
theorem decides_all_iff (settings : Settings) (store : Store) (now : Time) :
    DecidesAll settings store now ↔ SeesEnough settings store now := by
  constructor
  · intro hdecides
    refine ⟨length_openOps_of_decides hdecides, ?_⟩
    intro row operationId hrow
    have haction := (mem_tickActions (hdecides row operationId hrow)).2
    exact (verdict_eq_iff settings store operationId now).mp haction.symm
  · intro hsees row operationId hrow
    have hsame := (verdict_eq_iff settings store operationId now).mpr
      (hsees.events row operationId hrow)
    apply List.mem_map.mpr
    refine ⟨(operationId, classifyOp settings store operationId now), ?_, by rw [hsame]⟩
    exact List.mem_map.mpr ⟨(row, operationId), recentActiveOps_of_le hsees.operations hrow, rfl⟩

def remark (author kind : String) (createdAt : Time) : Event where
  actorId := author
  kind := kind
  payload := ⟨.str "", none, none, none⟩
  addressedToActorIds := []
  repliesToEventId := none
  privateToActorIds := none
  createdAt := createdAt

def question : Event :=
  { remark "@alice" "chat.speech.question" 0 with addressedToActorIds := ["@bob"] }

def report : Event := remark "@system" "chat.task.progress" 1

def acknowledgement : Event := remark "@bob" "chat.task.progress" 2

/-- A question to bob, five hundred reports of the system, and bob's acknowledgement. -/
def lateReply : List Event :=
  question :: (List.replicate 500 report ++ [acknowledgement])

def inquiryStore (events : List Event) : Store where
  actors := [⟨"@alice", "@alice", .human, []⟩, ⟨"@bob", "@bob", .ai, []⟩]
  operations :=
    [{ spaceId := "space"
       kind := .inquiry
       state := .opened
       title := "which port?"
       intent := none
       v1ConversationId := 0
       isGeneral := false
       policy := none
       resolution := none
       resolutionSummary := none
       closedByActorId := none
       createdAt := 0
       updatedAt := 0
       closedAt := none
       participants := []
       events := events
       artifacts := [] }]

theorem trigger_lateReply : trigger (inquiryStore lateReply) 0 = some (question, ⟨0, 0⟩) := by
  have hquestion : likeSpeech question.kind = true := by decide
  have hprogress : likeSpeech "chat.task.progress" = false := by decide
  have hsole : selectWhere (fun event : Event => likeSpeech event.kind) lateReply =
      [(question, 0)] := by
    refine selectWhere_unique rfl hquestion ?_
    intro other found hfound hkeep
    rcases other with _ | other
    · rfl
    · have hmem : found ∈ List.replicate 500 report ++ [acknowledgement] :=
        List.mem_of_getElem? hfound
      have hkind : found.kind = "chat.task.progress" := by
        rcases List.mem_append.mp hmem with hreport | hreply
        · rw [List.eq_of_mem_replicate hreport]
          rfl
        · rw [List.mem_singleton.mp hreply]
          rfl
      rw [hkind, hprogress] at hkeep
      cases hkeep
  have hlog : (inquiryStore lateReply).log 0 = lateReply := rfl
  rw [trigger, Store.lastSpeechEventForOp, hlog, hsole]
  rfl

theorem stalled_lateReply :
    stalled .usual (inquiryStore lateReply) 0 (seconds 60) = some (⟨0, 0⟩, "@bob") := by
  unfold stalled
  rw [trigger_lateReply]
  rfl

/-- Bob has replied, behind five hundred other events: the tick nudges him all the same. -/
theorem late_reply_nudged :
    ¬ ∀ settings store now, DecidesAll settings store now := by
  intro hall
  have hopen : ∃ row, (row, 0) ∈ openOps (inquiryStore lateReply) :=
    ⟨_, mem_selectWhere.mpr ⟨rfl, by decide⟩⟩
  obtain ⟨row, hrow⟩ := hopen
  have haction := (mem_tickActions (hall .usual (inquiryStore lateReply) (seconds 60) row 0 hrow)).2
  have hforetells := (verdict_eq_iff _ _ _ _).mp haction.symm _ _ stalled_lateReply
  have hlater : eventsAfter (inquiryStore lateReply) ⟨0, 0⟩ =
      List.replicate 500 report ++ [acknowledgement] := rfl
  rw [hlater] at hforetells
  obtain ⟨event, hevent, hauthor⟩ := hforetells.reply
    ⟨acknowledgement, List.mem_append_right _ List.mem_cons_self, rfl⟩
  rw [List.take_left' List.length_replicate] at hevent
  rw [List.eq_of_mem_replicate hevent] at hauthor
  revert hauthor
  decide

end OpsCure.Progression
