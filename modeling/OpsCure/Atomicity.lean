/-
Is an operation of the task coordinator atomic across its two stores?  The remote task
service commits first; when the mirror then refuses, that commit stays.  An operation
that raises without having torn the stores so leaves all of them as they were.
-/
import OpsCure.ServiceRuns

namespace OpsCure.Chat

open Session Table Contract V2 RemoteTask

/-- The gates and the remote task service let an operation through which the v2 operation
cannot follow, which is to close a conversation that is closed already, or which adds
evidence with an artifact the database cannot hold. -/
def TaskRequest.Tears (request : TaskRequest) (config : Config) (s : State)
    (conversationId : Id) (clocks : Clocks) : Prop :=
  ∃ taskId row, request.Passes config s conversationId taskId ∧
    s.conversations[conversationId]? = some row ∧
    Accepts s.tasks taskId ⟨(request.plan config taskId).operation, clocks.remote⟩ ∧
    (¬ OperationFollows s.store row request.target ∨
      request.closes = true ∧ row.state = .closed ∨ ¬ request.Attachable)

variable {state : OpState} {conversationId : Id} {s : State} {config : Config}
  {request : TaskRequest} {clocks : Clocks}

theorem closable_of_kindState {store : Store} {operationId : Id} {kind : Kind}
    {resolution : String} {bypass : Bool}
    (hstate : store.kindState operationId = some (kind, state)) (hopen : state ≠ .closed)
    (hkind : kind ≠ .general) (hallowed : resolution ∈ allowedResolutions kind) :
    Closable store operationId resolution bypass := by
  rw [Store.kindState, Option.map_eq_some_iff] at hstate
  rcases hstate with ⟨operation, hoperation, hsame⟩
  cases hsame
  exact ⟨operation, hoperation, hopen, hkind, Or.inr hallowed⟩

theorem closeSettled_isOk (config : Config) {closing : Option Closing} (clock : Clock)
    {row : Conversation} (hrow : s.conversations[conversationId]? = some row)
    (hgeneral : row.isGeneral = false) (hmirror : row.v2OperationId = some conversationId)
    (hstate : s.store.kindState conversationId = some (.task, state))
    (hclosing : ∀ ending, closing = some ending →
      row.state ≠ .closed ∧ state ≠ .closed ∧ ending.resolution ∈ allowedResolutions .task) :
    ∃ after, exec (closeSettled config conversationId closing clock) s = (.ok ⟨⟩, after) ∧
      (after.conversations[conversationId]?).isSome := by
  cases closing with
  | none => exact ⟨s, rfl, by simp [hrow]⟩
  | some ending =>
      rcases hclosing ending rfl with ⟨hopen, hlive, hallowed⟩
      have hclosable := requireClosable_eq_ok.2 ⟨hrow, hgeneral, hopen⟩
      have hsession : ∃ result after, closeSession config s conversationId row ending.closedBy
          ending.resolution ending.summary true clock = .ok (result, after) := by
        apply closeSession_isOk_iff.2
        intro operationId hother
        rw [hmirror] at hother
        cases hother
        exact closable_of_kindState hstate hlive (by simp) hallowed
      rcases hsession with ⟨result, after, hsession⟩
      refine ⟨after, ?_, ?_⟩
      · simp only [closeSettled, exec_bind, exec_closeConversation, hclosable, if_true,
          exec_transaction, hsession]
        rfl
      · rw [(closeSession_eq_ok hsession).2.1, getElem?_update_self hrow]
        rfl

/-- In a sound state, a plan that the remote task service accepts, that the v2 operation
and the conversation follow, and whose artifact can be attached, is carried out to its
end. -/
theorem coordinate_isOk {taskId : Id} {row : Conversation} (hsound : SoundState config s)
    (hrow : s.conversations[conversationId]? = some row) (hkind : row.kind = .task)
    (haccepted : Accepts s.tasks taskId
      ⟨(request.plan config taskId).operation, clocks.remote⟩)
    (hfollows : OperationFollows s.store row request.target)
    (hopen : request.closes = true → row.state ≠ .closed) (hattachable : request.Attachable) :
    ∃ result after, exec (coordinate config conversationId taskId
      (request.plan config taskId) clocks) s = (.ok result, after) := by
  let plan := request.plan config taskId
  rcases hsound.linked conversationId row.entry (ledger_entry hrow) with
    ⟨state, hstate, hlinked⟩
  rw [ledger_operation] at hstate
  have hmirror : row.v2OperationId = some conversationId := hlinked.mirrored
  rcases exec_remoteCall_of_accepted (plan_target config taskId request s.tasks) haccepted with
    ⟨old, task, _, _, hcall⟩
  let served : State := { s with tasks := step s.tasks ⟨plan.operation, clocks.remote⟩ }
  have hserved : served.conversations[conversationId]? = some row := hrow
  -- the echo finds the operation where the call left it
  have hecho : ∃ after, echoSession config served conversationId (plan.emission task)
      clocks.echo = .ok (⟨⟩, after) := by
    apply echoSession_isOk hserved
    · intro operationId hother
      rw [hmirror] at hother
      cases hother
      change (s.store.getOperation conversationId).isSome
      rw [← Store.isSome_kindState, hstate]
      rfl
    · exact plan_attachable config taskId hattachable task
    · rw [plan_targetState]
      exact hfollows
  rcases hecho with ⟨echoed, hecho⟩
  rcases echoSession_eq_ok hserved hecho with ⟨hconversations, _, _, hkinds⟩
  have hechoed : echoed.conversations[conversationId]? =
      some (echoRow row (plan.emission task) (clocks.echo 0)) := by
    rw [hconversations]
    exact getElem?_update_self hserved
  have hmoved : echoed.store.kindState conversationId =
      some (.task, request.target.getD state) := by
    rw [hkinds, plan_targetState]
    change Option.map _ (s.store.kindState conversationId) = _
    rw [hstate]
    simp [movedKindState, hmirror, Conversation.entry, hkind]
  have hgeneral : row.isGeneral = false := by
    have hnot : ¬ row.isGeneral = true := fun hyes => by
      have habsurd : row.kind = .general := hlinked.general.mp hyes
      rw [hkind] at habsurd
      cases habsurd
    simpa using hnot
  have hclosing : ∀ ending, plan.closing = some ending →
      row.state ≠ .closed ∧ request.target.getD state ≠ .closed ∧
        ending.resolution ∈ allowedResolutions .task := by
    intro ending hending
    have hcloses : request.closes = true := by
      rw [← plan_closing_isSome config taskId request]
      exact Option.isSome_iff_exists.mpr ⟨ending, hending⟩
    have hlive := hopen hcloses
    refine ⟨hlive, ?_, plan_closing_allowed hending⟩
    rw [target_of_closes hcloses]
    intro hgone
    have hclosed := hlinked.closed.mp hgone
    simp [Conversation.entry, hlive] at hclosed
  rcases closeSettled_isOk config clocks.close hechoed hgeneral hmirror hmoved hclosing with
    ⟨after, hclose, hfound⟩
  rcases Option.isSome_iff_exists.mp hfound with ⟨found, hfound⟩
  refine ⟨((conversationId, found), task), after, ?_⟩
  rw [coordinate, exec_bind, hcall]
  simp only [updateOwnerAndEmit, exec_bind, exec_transaction]
  rw [hecho]
  simp only
  rw [hclose]
  simp only [exec_query, getConversation, hfound]
  rfl

theorem perform_atomic {left : State} {error : ChatError} (hsound : SoundState config s)
    (hkept : ¬ request.Tears config s conversationId clocks)
    (hraised : exec (request.perform config conversationId clocks) s = (.error error, left)) :
    Registers s left := by
  rcases perform_cases config conversationId clocks request s with
    ⟨_, other, pre, hexec, hregisters⟩ | ⟨taskId, pre, hpasses, hregisters, hexec⟩
  · rw [hexec] at hraised
    cases hraised
    exact hregisters
  · rw [hexec] at hraised
    by_cases haccepted : Accepts s.tasks taskId
        ⟨(request.plan config taskId).operation, clocks.remote⟩
    · -- accepted and not torn: the plan is carried out, and nothing raises
      exfalso
      rcases requireBoundTask_eq_ok.1 hpasses.bound with ⟨row, hrow, hkind, _⟩
      have hfollows : OperationFollows s.store row request.target := by
        by_contra hnot
        exact hkept ⟨taskId, row, hpasses, hrow, haccepted, Or.inl hnot⟩
      have hopen : request.closes = true → row.state ≠ .closed := by
        intro hcloses hclosed
        exact hkept ⟨taskId, row, hpasses, hrow, haccepted, Or.inr (Or.inl ⟨hcloses, hclosed⟩)⟩
      have hattachable : request.Attachable := by
        by_contra hnot
        exact hkept ⟨taskId, row, hpasses, hrow, haccepted, Or.inr (Or.inr hnot)⟩
      have hpre : SoundState config pre := hsound.of_ledger hregisters.ledger
      have hrow' : pre.conversations[conversationId]? = some row := by
        rw [hregisters.conversations]
        exact hrow
      have hfollows' : OperationFollows pre.store row request.target := by
        intro operationId kind state hmirror hstate
        rw [hregisters.grows.kindState] at hstate
        exact hfollows operationId kind state hmirror hstate
      rw [← hregisters.tasks] at haccepted
      rcases coordinate_isOk hpre hrow' hkind haccepted hfollows' hopen hattachable
        with ⟨result, after, hok⟩
      rw [hok] at hraised
      cases hraised
    · rw [← hregisters.tasks] at haccepted
      rcases exec_remoteCall_of_refused (plan_target config taskId request pre.tasks)
        haccepted with ⟨other, hcall⟩
      rw [coordinate, exec_bind, hcall] at hraised
      cases hraised
      exact hregisters

/-- An operation of the coordinator that raises leaves the remote tasks with their leases,
the conversations, the messages, and the v2 operations with their logs as they were. -/
def Atomic (config : Config) (s : State) : Move → Prop
  | .coordinate conversationId request clocks => ∀ error left,
      exec (request.perform config conversationId clocks) s = (.error error, left) →
        Registers s left
  | _ => True

def Tears (config : Config) (s : State) : Move → Prop
  | .coordinate conversationId request clocks => request.Tears config s conversationId clocks
  | _ => False

/-- In every run from a fresh room whose moves tear nothing, every operation of the
coordinator is atomic across the stores. -/
theorem coordinator_atomic (config : Config) (s : State) (moves : List Move)
    (hfresh : Fresh s)
    (hmoves : Run.Along (serviceStep config) (fun t move => ¬ Tears config t move) s moves) :
    Run.Along (serviceStep config) (Atomic config) s moves := by
  intro done move hmove
  have hsound : SoundState config (Run.run (serviceStep config) s done) :=
    run_sound config hfresh moves done ((List.prefix_append done [move]).trans hmove)
  have hkept := hmoves done move hmove
  cases move with
  | coordinate conversationId request clocks =>
      intro error left hraised
      exact perform_atomic hsound hkept hraised
  | _ => trivial

theorem not_tears {operationId : Id} {entry : Entry} {kind : Kind}
    (hentry : s.ledger.entries[conversationId]? = some entry) (hopen : entry.closed = false)
    (hmirror : entry.v2OperationId = some operationId)
    (hstate : s.store.kindState operationId = some (kind, state))
    (hfollows : Follows kind state request.target) (hattachable : request.Attachable) :
    ¬ request.Tears config s conversationId clocks := by
  rintro ⟨taskId, row, _, hrow, _, hrefused⟩
  rw [ledger_entry hrow] at hentry
  cases hentry
  rcases hrefused with hlost | ⟨_, hclosed⟩ | hunattachable
  · apply hlost
    intro other kind' state' hother hfound
    have hsame : other = operationId := Option.some.inj (hother.symm.trans hmirror)
    rw [hsame, hstate] at hfound
    cases hfound
    exact hfollows
  · simp [Conversation.entry, hclosed] at hopen
  · exact hunattachable hattachable

/-- A task that is claimed, worked on and completed. -/
theorem worked_task_is_atomic :
    Run.Along (serviceStep plainConfig) (Atomic plainConfig) emptyRoom
      (claimedTask ++ completedTask) := by
  apply coordinator_atomic plainConfig emptyRoom _ ⟨rfl, rfl⟩
  refine Run.along_cons id (Run.along_cons ?_ (Run.along_cons ?_ (Run.along_cons ?_
    (Run.along_nil _ _ _))))
  · refine not_tears rfl rfl rfl rfl ?_ trivial
    rintro toState ⟨⟩
    exact Or.inr ⟨_, rfl, by decide⟩
  · refine not_tears rfl rfl rfl rfl ?_ ?_
    · rintro toState ⟨⟩
      exact Or.inr ⟨_, rfl, by decide⟩
    · intro fields hfields
      cases hfields
  · refine not_tears rfl rfl rfl rfl ?_ trivial
    rintro toState ⟨⟩

/-- `bob` asks for approval right after his claim.  The remote task is blocked on it; the
v2 operation, still claimed, may not be, so the operation raises and the approval stays. -/
theorem early_approval_tears :
    ¬ Run.Along (serviceStep plainConfig) (Atomic plainConfig) emptyRoom
      (claimedTask ++ [.coordinate 1
        (.requestApproval
          { actorId := "bob", leaseToken := "token", reason := "push", note := none })
        ⟨fun _ => 1, fun _ => 1, fun _ => 1⟩]) := by
  intro hall
  have hregisters := hall claimedTask _ List.prefix_rfl _ _ rfl
  have hstatus := congrArg (fun db => db.tasks.map (·.status)) hregisters.tasks
  exact absurd hstatus (by decide)

end OpsCure.Chat
