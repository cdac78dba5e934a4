/-
Runs of the chat service and the task coordinator, in any order and under any clocks.
Whatever the moves, the ledger stays sound.
-/
import OpsCure.Coordination
import OpsCure.ServiceLedger

namespace OpsCure.Chat

open Session Contract V2 RemoteTask

/-! ## The coordinator's part -/

variable {config : Config} {s : State} {conversationId : Id} {row : Conversation}

theorem echoSession_ledger {after : State} {emission : Emission} {clock : Clock} {done : PUnit}
    (hrow : s.conversations[conversationId]? = some row)
    (hok : echoSession config s conversationId emission clock = .ok (done, after)) :
    after.ledger = s.ledger.move conversationId emission.targetState := by
  rcases echoSession_eq_ok hrow hok with ⟨hconversations, htasks, _, hkinds⟩
  have hentries : after.conversations.map Conversation.entry =
      (s.ledger.move conversationId emission.targetState).entries := by
    rw [hconversations, Ledger.move_entries]
    exact map_entry_update hrow rfl
  have hoperations : after.ledger.operations =
      (s.ledger.move conversationId emission.targetState).operations := by
    apply List.ext_getElem?
    intro other
    rw [ledger_operation, hkinds, Ledger.move_operation (ledger_entry hrow), ledger_operation]
    rfl
  have hserved : after.tasks =
      (s.ledger.move conversationId emission.targetState).tasks := by
    rw [Ledger.move_tasks]
    exact htasks
  cases hmoved : s.ledger.move conversationId emission.targetState
  rw [hmoved] at hentries hoperations hserved
  rw [State.ledger, Ledger.mk.injEq]
  exact ⟨hentries, hoperations, hserved⟩

theorem closeSettled_ledger (config : Config) (conversationId : Id)
    (closing : Option Closing) (clock : Clock) (s : State) :
    let left := (exec (closeSettled config conversationId closing clock) s).2
    left.ledger = s.ledger ∨
      closing.isSome ∧ left.ledger = s.ledger.close conversationId := by
  intro left
  cases closing with
  | none => exact Or.inl rfl
  | some closing =>
      have hleft : left = (exec (closeConversation config conversationId closing.closedBy
          closing.resolution closing.summary true clock) s).2 := by
        simp only [left, closeSettled, exec_bind]
        rcases exec (closeConversation config conversationId closing.closedBy
          closing.resolution closing.summary true clock) s with ⟨error | result, after⟩
        · rfl
        · rfl
      rw [hleft]
      rcases closeConversation_ledger config conversationId closing.closedBy
        closing.resolution closing.summary true clock s with hsame | ⟨_, _, _, _, hclosed⟩
      · exact Or.inl hsame
      · exact Or.inr ⟨rfl, hclosed⟩

/-- What carrying out a plan can leave: nothing done, the remote call alone, the call and
its echo, or both and the close. -/
theorem coordinate_ledger (config : Config) {taskId : Id} {plan : Plan} (clocks : Clocks)
    (htarget : plan.operation.target s.tasks = some taskId)
    (hrow : s.conversations[conversationId]? = some row) :
    let call : Call := ⟨plan.operation, clocks.remote⟩
    let served := s.ledger.serve call
    let left := (exec (coordinate config conversationId taskId plan clocks) s).2
    left.ledger = s.ledger ∨
      ∃ old task, Rewrote s.tasks (step s.tasks call) taskId old task ∧
        Result call old task ∧ Accepts s.tasks taskId call ∧
        let target := (plan.emission task).targetState
        (left.ledger = served ∨
          OperationFollows s.store row target ∧
            (left.ledger = served.move conversationId target ∨
              plan.closing.isSome ∧
                left.ledger = (served.move conversationId target).close conversationId)) := by
  intro call served left
  by_cases haccepted : Accepts s.tasks taskId call
  · right
    rcases exec_remoteCall_of_accepted htarget haccepted with
      ⟨old, task, hwrote, hresult, hcall⟩
    refine ⟨old, task, hwrote, hresult, haccepted, ?_⟩
    intro target
    let between : State := { s with tasks := step s.tasks call }
    have hleft : left = (exec (coordinate config conversationId taskId plan clocks) s).2 := rfl
    rw [coordinate, exec_bind, hcall] at hleft
    simp only [updateOwnerAndEmit, exec_bind, exec_transaction] at hleft
    rcases hecho : echoSession config between conversationId (plan.emission task) clocks.echo
      with error | ⟨done, echoed⟩
    · rw [hecho] at hleft
      exact Or.inl (congrArg State.ledger hleft)
    · rw [hecho] at hleft
      right
      have hfound : between.conversations[conversationId]? = some row := hrow
      have hfollows : OperationFollows s.store row target :=
        (echoSession_eq_ok hfound hecho).2.2.1
      have hechoed : echoed.ledger = served.move conversationId target :=
        echoSession_ledger hfound hecho
      have hclosed : left =
          (exec (closeSettled config conversationId plan.closing clocks.close) echoed).2 := by
        rw [hleft]
        rcases hend : exec (closeSettled config conversationId plan.closing clocks.close)
          echoed with ⟨error | value, after⟩
        · simp only [hend]
        · simp only [hend, exec_query]
          cases getConversation after conversationId with
          | error => rfl
          | ok => rfl
      refine ⟨hfollows, ?_⟩
      rw [hclosed, ← hechoed]
      exact closeSettled_ledger config conversationId plan.closing clocks.close echoed
  · left
    rcases exec_remoteCall_of_refused htarget haccepted with ⟨error, hcall⟩
    change (exec (coordinate config conversationId taskId plan clocks) s).2.ledger = s.ledger
    rw [coordinate, exec_bind, hcall]

/-! ## Moves -/

/-- `admin_abandon_operation`, on the conversation of its operation. -/
def adminAbandon (config : Config) (conversationId : Id) (summary : Option String)
    (clock : Clock) : Program ChatError State Summary :=
  closeConversation config conversationId "system" "abandoned"
    (some (Text.orElse summary "admin abandon")) true clock

/-- A move of a run: an operation of the chat service or the coordinator, or a call of the
remote task service from elsewhere. -/
inductive Move where
  | openConversation (discordThreadId : String) (request : OpenRequest)
      (clock taskClock : Clock)
  | closeConversation (conversationId : Id) (closedBy resolution : String)
      (summary : Option String) (bypass : Bool) (clock : Clock)
  | adminAbandon (conversationId : Id) (summary : Option String) (clock : Clock)
  | sweepIdle (discordThreadId : String) (idleThresholdSeconds : Int) (now : Time)
      (clock : Clock) (closeClock : Nat → Clock)
  | submitSpeech (conversationId : Id) (request : SpeechRequest) (clock : Clock)
  | transferOwner (conversationId : Id) (byActor newOwner : String) (reason : Option String)
      (clock : Clock)
  | emitSystemEvent (conversationId : Id) (kind : String) (addressedToHandle : Option String)
      (repliesToV2EventId : Option EventId) (payload : List (String × Json)) (clock : Clock)
  | coordinate (conversationId : Id) (request : TaskRequest) (clocks : Clocks)
  | remoteTask (call : Call)

/-- The state a move leaves, whether it returns or raises. -/
def serviceStep (config : Config) (s : State) : Move → State
  | .openConversation discordThreadId request clock taskClock =>
      (exec (Chat.openConversation config discordThreadId request clock taskClock) s).2
  | .closeConversation conversationId closedBy resolution summary bypass clock =>
      (exec (Chat.closeConversation config conversationId closedBy resolution summary bypass
        clock) s).2
  | .adminAbandon conversationId summary clock =>
      (exec (Chat.adminAbandon config conversationId summary clock) s).2
  | .sweepIdle discordThreadId idleThresholdSeconds now clock closeClock =>
      (exec (sweepIdleConversations config discordThreadId idleThresholdSeconds now clock
        closeClock) s).2
  | .submitSpeech conversationId request clock =>
      (exec (Chat.submitSpeech config conversationId request clock) s).2
  | .transferOwner conversationId byActor newOwner reason clock =>
      (exec (Chat.transferOwner config conversationId byActor newOwner reason clock) s).2
  | .emitSystemEvent conversationId kind addressedToHandle parent payload clock =>
      (exec (Chat.emitSystemEvent conversationId kind addressedToHandle parent payload clock)
        s).2
  | .coordinate conversationId request clocks =>
      (exec (request.perform config conversationId clocks) s).2
  | .remoteTask call => { s with tasks := step s.tasks call }

def SoundState (config : Config) (s : State) : Prop :=
  s.ledger.Sound config.remoteTasks

theorem SoundState.of_ledger {t : State} (hsound : SoundState config s)
    (hsame : t.ledger = s.ledger) : SoundState config t := by
  rw [SoundState, hsame]
  exact hsound

theorem SoundState.of_close {t : State} (hsound : SoundState config s)
    (hclosed : t.ledger = s.ledger.close conversationId) : SoundState config t := by
  rw [SoundState, hclosed]
  exact hsound.close conversationId

theorem sound_of_funds {l base : Ledger} {boundTaskId : Option Id}
    (hsound : l.Sound config.remoteTasks) (hfunds : Funds config l base boundTaskId) :
    base.Sound config.remoteTasks ∧ ∀ taskId, boundTaskId = some taskId →
      taskId < base.tasks.tasks.length ∧ config.remoteTasks = true ∧ base.Unbound taskId := by
  rcases hfunds with ⟨rfl, rfl⟩ | ⟨hserved, rfl, payload, clock, rfl⟩
  · refine ⟨hsound, ?_⟩
    intro taskId habsurd
    cases habsurd
  · refine ⟨hsound.serve _, ?_⟩
    intro taskId hbound
    cases hbound
    refine ⟨?_, hserved, ?_⟩
    · simp [Ledger.serve, step, perform, createTask]
    · exact hsound.unbound Nat.le.refl

theorem openConversation_sound (config : Config) (discordThreadId : String)
    (request : OpenRequest) (clock taskClock : Clock) (hsound : SoundState config s) :
    SoundState config
      (exec (openConversation config discordThreadId request clock taskClock) s).2 := by
  rcases openConversation_ledger config discordThreadId request clock taskClock s with
    ⟨base, boundTaskId, hfunds, hleft⟩
  rcases sound_of_funds hsound hfunds with ⟨hbase, hbound⟩
  have hkind : false = true ↔ request.kind = .general := by
    simp [request.kind_ne_general]
  rw [SoundState]
  rcases hleft with hsame | ⟨l, rfl | rfl, hopened⟩
  · rw [hsame]
    exact hbase
  · rw [hopened]
    exact hbase.opened hkind hbound
  · rw [hopened]
    have hgeneral : (base.opened .general true none).Sound config.remoteTasks :=
      hbase.opened (by simp) (by simp)
    apply hgeneral.opened hkind
    intro taskId htask
    rcases hbound taskId htask with ⟨hlt, hserved, hunbound⟩
    exact ⟨hlt, hserved, hunbound.opened .general true⟩

theorem open_of_follows (hsound : SoundState config s) {target : Option OpState}
    (hrow : s.conversations[conversationId]? = some row)
    (hfollows : OperationFollows s.store row target) (htarget : target ≠ some .closed)
    (hsome : target ≠ none) : row.state ≠ .closed := by
  rcases hsound.linked conversationId row.entry (ledger_entry hrow) with
    ⟨state, hstate, hlinked⟩
  rw [ledger_operation] at hstate
  intro hclosed
  have hgone : state = .closed := hlinked.closed.mpr (by simpa [Conversation.entry] using hclosed)
  cases target with
  | none => exact hsome rfl
  | some toState =>
      rcases hfollows conversationId _ state hlinked.mirrored hstate toState rfl with
        hsame | ⟨targets, hallowed, _⟩
      · exact htarget (by rw [← hsame, hgone])
      · exact (allowedTransitions_closed hallowed).1 hgone

theorem coordinate_sound (config : Config) {taskId : Id} (request : TaskRequest) (clocks : Clocks)
    (hsound : SoundState config s) (hbound : requireBoundTask s conversationId = .ok taskId) :
    SoundState config (exec (coordinate config conversationId taskId
      (request.plan config taskId) clocks) s).2 := by
  rcases requireBoundTask_eq_ok.1 hbound with ⟨row, hrow, _, _⟩
  rw [SoundState]
  rcases coordinate_ledger config clocks (plan_target config taskId request s.tasks) hrow with
    hsame | ⟨old, task, _, _, _, hleft⟩
  · rw [hsame]
    exact hsound
  · simp only [plan_targetState] at hleft
    have hserved := hsound.serve ⟨(request.plan config taskId).operation, clocks.remote⟩
    rcases hleft with hserve | ⟨hfollows, hleft⟩
    · rw [hserve]
      exact hserved
    · have hmoved : ((s.ledger.serve ⟨(request.plan config taskId).operation,
          clocks.remote⟩).move conversationId request.target).Sound config.remoteTasks := by
        apply hserved.move (target_ne_closed request)
        intro entry hentry hsome
        have hsame : entry = row.entry := by
          rw [Ledger.serve, ledger_entry hrow] at hentry
          exact (Option.some.inj hentry).symm
        have hopen := open_of_follows hsound hrow hfollows (target_ne_closed request) hsome
        simp [hsame, Conversation.entry, hopen]
      rcases hleft with hmove | ⟨_, hclose⟩
      · rw [hmove]
        exact hmoved
      · rw [hclose]
        exact hmoved.close conversationId

theorem serviceStep_sound (config : Config) (s : State) (move : Move)
    (hsound : SoundState config s) : SoundState config (serviceStep config s move) := by
  cases move with
  | openConversation discordThreadId request clock taskClock =>
      exact openConversation_sound config discordThreadId request clock taskClock hsound
  | closeConversation conversationId closedBy resolution summary bypass clock =>
      rcases closeConversation_ledger config conversationId closedBy resolution summary bypass
        clock s with hsame | ⟨_, _, _, _, hclosed⟩
      · exact hsound.of_ledger hsame
      · exact hsound.of_close hclosed
  | adminAbandon conversationId summary clock =>
      rcases closeConversation_ledger config conversationId "system" "abandoned"
        (some (Text.orElse summary "admin abandon")) true clock s with
        hsame | ⟨_, _, _, _, hclosed⟩
      · exact hsound.of_ledger hsame
      · exact hsound.of_close hclosed
  | sweepIdle discordThreadId idleThresholdSeconds now clock closeClock =>
      apply sweepIdle_keeps config discordThreadId idleThresholdSeconds now clock closeClock
        hsound
      exact fun _ id _ l hl => hl.close id
  | submitSpeech conversationId request clock =>
      exact hsound.of_ledger (submitSpeech_ledger config conversationId request clock s)
  | transferOwner conversationId byActor newOwner reason clock =>
      exact hsound.of_ledger
        (transferOwner_ledger config conversationId byActor newOwner reason clock s)
  | emitSystemEvent conversationId kind addressedToHandle parent payload clock =>
      exact hsound.of_ledger
        (emitSystemEvent_ledger conversationId kind addressedToHandle parent payload clock s)
  | coordinate conversationId request clocks =>
      rcases perform_cases config conversationId clocks request s with
        ⟨_, error, left, hexec, hregisters⟩ | ⟨taskId, pre, hpasses, hregisters, hexec⟩
      · rw [serviceStep, hexec]
        exact hsound.of_ledger hregisters.ledger
      · rw [serviceStep, hexec]
        apply coordinate_sound config request clocks
        · exact hsound.of_ledger hregisters.ledger
        · rw [hregisters.requireBoundTask]
          exact hpasses.bound
  | remoteTask call => exact hsound.serve call

/-- A room without conversations, whatever its threads, actors and tasks. -/
structure Fresh (s : State) : Prop where
  no_conversations : s.conversations = []
  no_operations : s.store.operations = []

theorem Fresh.sound (hfresh : Fresh s) (config : Config) : SoundState config s := by
  constructor
  · simp [State.ledger, hfresh.no_conversations, hfresh.no_operations]
  · intro id entry hentry
    simp [State.ledger, hfresh.no_conversations] at hentry
  · intro id entry taskId hentry
    simp [State.ledger, hfresh.no_conversations] at hentry
  · intro id other entry entry' taskId hentry
    simp [State.ledger, hfresh.no_conversations] at hentry

theorem run_sound (config : Config) (hfresh : Fresh s) (moves : List Move) :
    Run.Throughout (serviceStep config) (SoundState config) s moves := by
  apply Run.throughout_of_preserved (hfresh.sound config)
  intro done move _ hsound
  exact serviceStep_sound config _ move hsound

/-! ## A task to follow -/

/-- `alice` opens a task conversation in the room, and `bob` claims its task. -/
def claimedTask : List Move :=
  [.openConversation "room" (openingOf .task (by decide) none) (fun _ => 0) (fun _ => 0),
    .coordinate 1 (.claim { actorId := "bob", leaseSeconds := 120 } "token")
      ⟨fun _ => 0, fun _ => 0, fun _ => 0⟩]

/-- `bob` gives evidence of the work, and completes the task. -/
def completedTask : List Move :=
  [.coordinate 1 (.addEvidence
      { actorName := "bob"
        leaseToken := "token"
        kind := "file_write"
        summary := "patched"
        payload := [] }) ⟨fun _ => 1, fun _ => 1, fun _ => 1⟩,
    .coordinate 1 (.complete { actorId := "bob", leaseToken := "token", summary := none })
      ⟨fun _ => 2, fun _ => 2, fun _ => 2⟩]

end OpsCure.Chat
