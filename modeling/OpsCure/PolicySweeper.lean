/-
The policy sweeper (`kernel/v2/policy_sweeper.py`): a defer on behalf of every
addressee whose `by_round_seq` has passed without a reply, posted through
`submit_speech` like any other act.
-/
import OpsCure.ConversationService

namespace OpsCure.PolicySweeper

open Session Table Contract V2 Chat

structure DeferPlan where
  conversationId : Id
  handle : String
  trigger : EventId
deriving DecidableEq, Repr

/-- Who has replied to which event, by a defer or by any other speech act. -/
def answered (events : List Event) : List (String × EventId) :=
  events.filterMap fun event => do
    let parent ← event.repliesToEventId
    let _ ← speechAction event.kind
    return (event.actorId, parent)

/-- The participants an event still expects, once its round has passed. -/
def overdue (participants : List Participant) (operationId maxSeq : Nat)
    (event : Event × Nat) : List (String × EventId) :=
  match event.1.payload.expectedResponse with
  | none => []
  | some expected =>
      if expected.byRoundSeq.any (· ≤ maxSeq) then
        (expected.fromActorHandles.filter (PolicyEngine.isParticipant participants)).map
          fun handle => (handle, { operation := operationId, index := event.2 })
      else []

/-- `_plan_defers_for_op`; `none` when two conversations share the operation, which
raises. -/
def planDefersForOp (s : State) (operationId : Id) : Option (List DeferPlan) :=
  match selectWhere (fun row => row.v2OperationId = some operationId) s.conversations with
  | [] => some []
  | [(_, conversationId)] =>
      let events := s.store.listEvents operationId 0 1000
      let due := events.zipIdx.flatMap
        (overdue (s.store.listParticipants operationId) operationId events.length)
      some <| ((due.filter (· ∉ answered events)).eraseDups).map fun key =>
        { conversationId := conversationId, handle := key.1, trigger := key.2 }
  | _ => none

def planDefers (s : State) : Option (List DeferPlan) := do
  let opened := selectWhere (fun row => row.state ≠ .closed) s.store.operations
  let plans ← opened.mapM fun row => planDefersForOp s row.2
  return plans.flatten

def deferRequest (plan : DeferPlan) : SpeechRequest :=
  { actorName := String.ofList (plan.handle.toList.dropWhile (· = '@'))
    actorKind := "ai"
    kind := .defer
    content := s!"(auto-defer: by_round_seq elapsed without reply from {plan.handle})"
    addressedTo := none
    addressedToMany := []
    repliesToSpeechId := none
    repliesToV2EventId := some plan.trigger
    privateToActors := []
    expectedResponse := none }

/-- `_emit_defer`: failures are logged, an empty name among them. -/
def emitDefer (config : Config) (plan : DeferPlan) (clock : Clock) :
    Program ChatError State PUnit :=
  if (deferRequest plan).actorName = "" then pure ⟨⟩
  else attempt (submitSpeech config plan.conversationId (deferRequest plan) clock)

/-- `_sweep_once`: plan in one reading session, then post defer by defer, the `i`-th
under `clock i`. -/
def sweepOnce (config : Config) (clock : Nat → Clock) : Program ChatError State PUnit := do
  let plans ← query fun s => .ok ((planDefers s).getD [])
  plans.zipIdx.forM fun plan => emitDefer config plan.1 (clock plan.2)

end OpsCure.PolicySweeper
