/-
Does a closed task conversation leave its remote task finished?  A close by hand asks
the task; the closes that bypass the guard do not, and the coordinator goes on serving a
conversation that is closed.  Short of these, no move orphans a task.
-/
import OpsCure.ServiceRuns

namespace OpsCure.Chat

open Session Table Contract V2 RemoteTask

def NoOrphans (s : State) : Prop :=
  ∀ (conversationId : Id) (row : Conversation) (taskId : Id),
    s.conversations[conversationId]? = some row → row.state = .closed →
      row.boundTaskId = some taskId → hasStatus isTerminal taskId s.tasks

theorem noOrphans_iff (s : State) : NoOrphans s ↔ s.ledger.Settled := by
  constructor
  · intro hnone id entry taskId hentry hclosed htask
    rw [State.ledger, List.getElem?_map, Option.map_eq_some_iff] at hentry
    rcases hentry with ⟨row, hrow, rfl⟩
    exact hnone id row taskId hrow (by simpa [Conversation.entry] using hclosed) htask
  · intro hsettled id row taskId hrow hclosed htask
    exact hsettled id row.entry taskId (ledger_entry hrow)
      (by simp [Conversation.entry, hclosed]) htask

/-- A close under this resolution would leave the conversation's task pending: it is open
and bound, its task is not finished, and the state machine admits the close. -/
def Abandons (s : State) (conversationId : Id) (resolution : String) : Prop :=
  ∃ row taskId, requireClosable s conversationId = .ok row ∧
    row.boundTaskId = some taskId ∧ ¬ hasStatus isTerminal taskId s.tasks ∧
    (resolution = "abandoned" ∨ resolution ∈ allowedResolutions row.kind)

def RevivesClosed (s : State) (call : Call) : Prop :=
  ∃ (conversationId : Id) (row : Conversation) (taskId : Id),
    s.conversations[conversationId]? = some row ∧ row.state = .closed ∧
      row.boundTaskId = some taskId ∧ call.operation.target s.tasks = some taskId ∧
      Revives s.tasks call

def Orphans (config : Config) (s : State) : Move → Prop
  | .closeConversation conversationId _ resolution _ bypass _ =>
      bypass = true ∧ Abandons s conversationId resolution
  | .adminAbandon conversationId _ _ => Abandons s conversationId "abandoned"
  | .sweepIdle discordThreadId idleThresholdSeconds now _ _ =>
      0 < idleThresholdSeconds ∧
        ∃ id ∈ abandonedBy config s discordThreadId (max 0 idleThresholdSeconds) now,
          Abandons s id "abandoned"
  | .coordinate conversationId request clocks =>
      ∃ taskId, request.Passes config s conversationId taskId ∧
        RevivesClosed s ⟨(request.plan config taskId).operation, clocks.remote⟩
  | .remoteTask call => RevivesClosed s call
  | _ => False

variable {config : Config} {s : State} {row : Conversation} {conversationId : Id}

theorem TaskSettled.ended {taskId : Id} (hsettled : TaskSettled config s row)
    (hserved : config.remoteTasks = true) (hbound : row.boundTaskId = some taskId) :
    hasStatus isTerminal taskId s.tasks := by
  rcases hsettled taskId hbound hserved with ⟨task, htask, hstatus⟩
  apply hasStatus_iff.2
  refine ⟨task, htask, ?_⟩
  cases hkind : task.status <;> simp_all [taskNonTerminalStatuses, isTerminal]

theorem taskEnded_of_not_abandons {resolution : String}
    (hrow : requireClosable s conversationId = .ok row)
    (hadmitted : resolution = "abandoned" ∨ resolution ∈ allowedResolutions row.kind)
    (hkept : ¬ Abandons s conversationId resolution) : s.ledger.TaskEnded conversationId := by
  have hfound := (requireClosable_eq_ok.1 hrow).1
  intro entry taskId hentry htask
  rw [ledger_entry hfound] at hentry
  cases hentry
  by_contra hpending
  exact hkept ⟨row, taskId, hrow, htask, hpending, hadmitted⟩

theorem admitted_of_closable {resolution : String} (hsound : SoundState config s)
    (hfound : s.conversations[conversationId]? = some row)
    (hclosable : ∀ operationId, row.v2OperationId = some operationId →
      Closable s.store operationId resolution true) :
    resolution = "abandoned" ∨ resolution ∈ allowedResolutions row.kind := by
  rcases hsound.linked conversationId row.entry (ledger_entry hfound) with
    ⟨state, hstate, hlinked⟩
  rcases hclosable conversationId hlinked.mirrored with
    ⟨operation, hoperation, _, _, hadmitted⟩
  have hkind : operation.kind = row.kind := by
    rw [ledger_operation, Store.kindState, hoperation] at hstate
    exact (Prod.mk.inj (Option.some.inj hstate)).1
  rw [hkind] at hadmitted
  exact hadmitted.imp And.right id

theorem closeConversation_settled (config : Config) (conversationId : Id)
    (closedBy resolution : String) (summary : Option String) (bypass : Bool) (clock : Clock)
    (hsound : SoundState config s) (hsettled : s.ledger.Settled)
    (hkept : bypass = true → ¬ Abandons s conversationId resolution) :
    (exec (closeConversation config conversationId closedBy resolution summary bypass clock)
      s).2.ledger.Settled := by
  rcases closeConversation_ledger config conversationId closedBy resolution summary bypass
    clock s with hsame | ⟨row, hrow, hguarded, hclosable, hclosed⟩
  · rw [hsame]
    exact hsettled
  · rw [hclosed]
    apply hsettled.close
    cases bypass with
    | true =>
        have hadmitted :=
          admitted_of_closable hsound (requireClosable_eq_ok.1 hrow).1 hclosable
        exact taskEnded_of_not_abandons hrow hadmitted (hkept rfl)
    | false =>
        have hfound := (requireClosable_eq_ok.1 hrow).1
        intro entry taskId hentry htask
        rw [ledger_entry hfound] at hentry
        cases hentry
        have hserved := (hsound.bound conversationId row.entry taskId (ledger_entry hfound)
          htask).2
        exact (hguarded rfl).ended hserved htask

theorem sweepIdle_settled (config : Config) (discordThreadId : String)
    (idleThresholdSeconds : Int) (now : Time) (clock : Clock) (closeClock : Nat → Clock)
    (hsettled : s.ledger.Settled) (hkept : 0 < idleThresholdSeconds →
      ∀ id ∈ abandonedBy config s discordThreadId (max 0 idleThresholdSeconds) now,
        ¬ Abandons s id "abandoned") :
    (exec (sweepIdleConversations config discordThreadId idleThresholdSeconds now clock
      closeClock) s).2.ledger.Settled := by
  let ids := abandonedBy config s discordThreadId (max 0 idleThresholdSeconds) now
  -- the tasks of the conversations to abandon have ended, and stay so close after close
  have hended : 0 < idleThresholdSeconds → ∀ id ∈ ids, s.ledger.TaskEnded id := by
    intro hpos id hid
    rcases closable_of_abandonedBy hid with ⟨row, hrow⟩
    exact taskEnded_of_not_abandons hrow (Or.inl rfl) (hkept hpos id hid)
  have hkeeps := sweepIdle_keeps (P := fun l => l.Settled ∧
    (0 < idleThresholdSeconds → ∀ id ∈ ids, l.TaskEnded id)) config discordThreadId
    idleThresholdSeconds now clock closeClock ⟨hsettled, hended⟩
  refine (hkeeps ?_).1
  intro hpos id hid l ⟨hl, hends⟩
  refine ⟨hl.close (hends hpos id hid), ?_⟩
  intro _ other hother
  exact (hends hpos other hother).close id

theorem coordinate_settled {taskId : Id} {request : TaskRequest} {clocks : Clocks}
    (hsettled : s.ledger.Settled) (hbound : requireBoundTask s conversationId = .ok taskId)
    (hkept : ¬ RevivesClosed s ⟨(request.plan config taskId).operation, clocks.remote⟩) :
    (exec (coordinate config conversationId taskId (request.plan config taskId) clocks)
      s).2.ledger.Settled := by
  rcases requireBoundTask_eq_ok.1 hbound with ⟨row, hrow, _, htask⟩
  let call : Call := ⟨(request.plan config taskId).operation, clocks.remote⟩
  rcases coordinate_ledger config clocks (plan_target config taskId request s.tasks) hrow with
    hsame | ⟨old, task, hwrote, hresult, _, hleft⟩
  · rw [hsame]
    exact hsettled
  · have hserved : (s.ledger.serve call).Settled := by
      apply hsettled.serve
      intro id entry other hentry hclosed hother htarget hrevives
      rw [State.ledger, List.getElem?_map, Option.map_eq_some_iff] at hentry
      rcases hentry with ⟨found, hfound, rfl⟩
      exact hkept ⟨id, found, other, hfound, by simpa [Conversation.entry] using hclosed,
        hother, htarget, hrevives⟩
    rcases hleft with hserve | ⟨_, hmove | ⟨hcloses, hclose⟩⟩
    · rw [hserve]
      exact hserved
    · rw [hmove]
      exact hserved.move conversationId _
    · rw [hclose]
      apply (hserved.move conversationId _).close
      rw [plan_closing_isSome] at hcloses
      intro entry other hentry hother
      rw [Ledger.move_entries, Ledger.serve, ledger_entry hrow] at hentry
      cases hentry
      have hsame : taskId = other := Option.some.inj (htask.symm.trans hother)
      subst hsame
      rw [Ledger.move_tasks]
      apply hasStatus_iff.2
      refine ⟨task, ?_, ?_⟩
      · change (step s.tasks call).tasks[taskId]? = some task
        rw [hwrote.wrote]
        exact getElem?_update_self hwrote.read
      · rw [hresult.status]
        exact decide_eq_true (statusAfter_of_closes hcloses old.status)

theorem RevivesClosed.of_registers {t : State} {call : Call} (hregisters : Registers s t)
    (hrevives : RevivesClosed t call) : RevivesClosed s call := by
  unfold RevivesClosed at hrevives
  rw [hregisters.conversations, hregisters.tasks] at hrevives
  exact hrevives

/-- A move that is none of those keeps the ledger settled. -/
theorem serviceStep_settled (config : Config) {move : Move} (hsound : SoundState config s)
    (hsettled : s.ledger.Settled) (hkept : ¬ Orphans config s move) :
    (serviceStep config s move).ledger.Settled := by
  cases move with
  | openConversation discordThreadId request clock taskClock =>
      rcases openConversation_ledger config discordThreadId request clock taskClock s with
        ⟨base, boundTaskId, hfunds, hleft⟩
      have hbase : base.Settled := by
        rcases hfunds with ⟨_, rfl⟩ | ⟨_, _, payload, taskClock, rfl⟩
        · exact hsettled
        · apply hsettled.serve
          intro _ _ _ _ _ _ habsurd
          cases habsurd
      rw [serviceStep]
      rcases hleft with hsame | ⟨l, rfl | rfl, hopened⟩
      · rw [hsame]
        exact hbase
      · rw [hopened]
        exact hbase.opened _ _ _
      · rw [hopened]
        exact (hbase.opened _ _ _).opened _ _ _
  | closeConversation conversationId closedBy resolution summary bypass clock =>
      apply closeConversation_settled config conversationId closedBy resolution summary bypass
        clock hsound hsettled
      exact fun hbypass habandons => hkept ⟨hbypass, habandons⟩
  | adminAbandon conversationId summary clock =>
      exact closeConversation_settled config conversationId "system" "abandoned" _ true clock
        hsound hsettled fun _ => hkept
  | sweepIdle discordThreadId idleThresholdSeconds now clock closeClock =>
      apply sweepIdle_settled config discordThreadId idleThresholdSeconds now clock closeClock
        hsettled
      exact fun hpos id hid habandons => hkept ⟨hpos, id, hid, habandons⟩
  | submitSpeech =>
      rw [serviceStep, submitSpeech_ledger]
      exact hsettled
  | transferOwner =>
      rw [serviceStep, transferOwner_ledger]
      exact hsettled
  | emitSystemEvent =>
      rw [serviceStep, emitSystemEvent_ledger]
      exact hsettled
  | coordinate conversationId request clocks =>
      rcases perform_cases config conversationId clocks request s with
        ⟨_, error, left, hexec, hregisters⟩ | ⟨taskId, pre, hpasses, hregisters, hexec⟩
      · rw [serviceStep, hexec, hregisters.ledger]
        exact hsettled
      · rw [serviceStep, hexec]
        apply coordinate_settled
        · rw [hregisters.ledger]
          exact hsettled
        · rw [hregisters.requireBoundTask]
          exact hpasses.bound
        · intro hrevives
          exact hkept ⟨taskId, hpasses, hrevives.of_registers hregisters⟩
  | remoteTask =>
      apply hsettled.serve
      intro id entry taskId hentry hclosed htask htarget hrevives
      rw [State.ledger, List.getElem?_map, Option.map_eq_some_iff] at hentry
      rcases hentry with ⟨row, hrow, rfl⟩
      exact hkept ⟨id, row, taskId, hrow, by simpa [Conversation.entry] using hclosed, htask,
        htarget, hrevives⟩

/-- In every run from a fresh room whose moves orphan no task, every closed task
conversation has its remote task in a terminal status, in every state. -/
theorem no_orphaned_task (config : Config) (s : State) (moves : List Move) (hfresh : Fresh s)
    (hmoves : Run.Along (serviceStep config) (fun t move => ¬ Orphans config t move) s
      moves) : Run.Throughout (serviceStep config) NoOrphans s moves := by
  have hboth : Run.Throughout (serviceStep config)
      (fun t => SoundState config t ∧ t.ledger.Settled) s moves := by
    apply Run.throughout_of_preserved
    · refine ⟨hfresh.sound config, (noOrphans_iff s).mp ?_⟩
      intro id row taskId hrow
      simp [hfresh.no_conversations] at hrow
    · intro done move hmove ⟨hsound, hsettled⟩
      exact ⟨serviceStep_sound config _ move hsound,
        serviceStep_settled config hsound hsettled (hmoves done move hmove)⟩
  intro done hdone
  exact (noOrphans_iff _).mpr (hboth done hdone).2

/-! ## Two lives of a task -/

theorem not_revivesClosed {call : Call} (hopen : ∀ row ∈ s.conversations, row.state ≠ .closed) :
    ¬ RevivesClosed s call := by
  rintro ⟨id, row, taskId, hrow, hclosed, _⟩
  exact hopen row (List.mem_of_getElem? hrow) hclosed

theorem worked_task_is_no_orphan :
    Run.Throughout (serviceStep plainConfig) NoOrphans emptyRoom
      (claimedTask ++ completedTask) := by
  apply no_orphaned_task plainConfig emptyRoom _ ⟨rfl, rfl⟩
  refine Run.along_cons id (Run.along_cons ?_ (Run.along_cons ?_ (Run.along_cons ?_
    (Run.along_nil _ _ _))))
  all_goals
    rintro ⟨taskId, _, hrevives⟩
    exact not_revivesClosed (by decide) hrevives

/-- The operator abandons the conversation while `bob` holds the task: the conversation is
closed, and the remote task is still claimed. -/
theorem abandoned_task_is_orphaned :
    ¬ Run.Throughout (serviceStep plainConfig) NoOrphans emptyRoom
      (claimedTask ++ [.adminAbandon 1 none fun _ => 2]) := by
  intro hall
  have hended := hall _ List.prefix_rfl 1 _ 0 rfl rfl rfl
  exact absurd hended (by decide)

end OpsCure.Chat
