/-
Is `open_conversation` all or nothing?  The remote task service commits the bound task in
a session of its own; when the opening then fails on its parent, that task stays.
-/
import OpsCure.ServiceLedger

namespace OpsCure.Chat

open Fallible Session Contract V2 OperationMirror RemoteTask

/-- The checks an opening passes before it writes anything. -/
structure Admits (config : Config) (s : State) (discordThreadId : String)
    (request : OpenRequest) (policy : OperationPolicy) (threadId : Id) : Prop where
  permitted : permits config s request.openerActor .conversationOpen
  policy_eq : validateOperationPolicy request.policy = .ok policy
  objective : request.kind = .task → Text.present request.objective
  served : request.kind = .task → policy.bindRemoteTask → config.remoteTasks
  thread : findThread s discordThreadId = some threadId

def ParentExists (s : State) (threadId : Id) (request : OpenRequest) (now : Time) : Prop :=
  request.parentConversationId.all (· < (ensureGeneral s threadId now).conversations.length)

variable {s : State} {threadId : Id} {request : OpenRequest}

theorem ParentExists.congr {t : State} {now : Time} (hsame : t.conversations = s.conversations) :
    ParentExists t threadId request now ↔ ParentExists s threadId request now := by
  have hlength : (ensureGeneral t threadId now).conversations.length =
      (ensureGeneral s threadId now).conversations.length := by
    unfold ensureGeneral
    rw [hsame]
    split
    · rw [hsame]
    · simp [addConversation, hsame]
  rw [ParentExists, ParentExists, hlength]

variable {policy : OperationPolicy} {config : Config} {discordThreadId : String}

def bindTask (s : State) (threadId : Id) (request : OpenRequest) (policy : OperationPolicy)
    (taskClock : Clock) : Option Id × State :=
  if request.kind = .task ∧ policy.bindRemoteTask then
    let (tasks, id) := createTask s.tasks
      (taskRequest threadId request (request.objective.getD "")) taskClock
    (some id, { s with tasks := tasks })
  else (none, s)

theorem exec_openConversation_of_admits (clock taskClock : Clock)
    (hadmits : Admits config s discordThreadId request policy threadId) :
    let bound := bindTask (provision config s request.openerActor) threadId request policy
      taskClock
    exec (openConversation config discordThreadId request clock taskClock) s =
      exec (transaction fun s => openSession s threadId request policy bound.1 clock)
        bound.2 := by
  let asked := provision config s request.openerActor
  have hthread : findThread asked discordThreadId = some threadId := by
    rw [findThread, (registers_provision config s request.openerActor).threads]
    exact hadmits.thread
  have hpolicy : (validateOperationPolicy request.policy).mapError ChatError.invalidPolicy =
      .ok policy := by
    rw [hadmits.policy_eq]
    rfl
  have hserved : (decide (request.kind = .task ∧ policy.bindRemoteTask = true)) = true →
      config.remoteTasks = true := by
    intro hbound
    exact hadmits.served (of_decide_eq_true hbound).1 (of_decide_eq_true hbound).2
  have hchecks : (do
      require (request.kind = Kind.task → Text.present request.objective)
        ChatError.taskNeedsObjective
      require (decide (request.kind = .task ∧ policy.bindRemoteTask = true) = true →
        config.remoteTasks = true) ChatError.remoteTasksNotConfigured
      orRaise (findThread asked discordThreadId)
        (ChatError.threadNotFound discordThreadId)) = Except.ok threadId := by
    simp only [bind_eq_ok, require_eq_ok, orRaise_eq_ok]
    exact ⟨⟨⟩, hadmits.objective, ⟨⟩, hserved, hthread⟩
  intro bound
  rw [openConversation, exec_bind, exec_checkCapability, if_pos hadmits.permitted]
  simp only [exec_bind, exec_query, hpolicy]
  rw [hchecks]
  simp only [exec_transaction]
  by_cases hbound : request.kind = .task ∧ policy.bindRemoteTask
  · simp only [bound, bindTask, hbound, decide_true, if_true, and_self]
  · simp only [bound, bindTask, hbound, decide_false, Bool.false_eq_true, if_false]

theorem exec_openConversation_of_refused (clock taskClock : Clock) (hrefused : ∀ policy threadId,
      ¬ Admits config s discordThreadId request policy threadId) :
    ∃ error, exec (openConversation config discordThreadId request clock taskClock) s =
      (.error error, provision config s request.openerActor) := by
  let asked := provision config s request.openerActor
  rw [openConversation, exec_bind, exec_checkCapability]
  by_cases hpermitted : permits config s request.openerActor .conversationOpen
  · simp only [if_pos hpermitted, exec_bind, exec_query]
    rcases hpolicy : validateOperationPolicy request.policy with error | policy
    · exact ⟨_, rfl⟩
    · simp only [Except.mapError]
      split
      · rename_i threadId after hthread
        rw [Prod.mk.injEq] at hthread
        rcases hthread with ⟨hchecks, rfl⟩
        simp only [bind_eq_ok, require_eq_ok, orRaise_eq_ok] at hchecks
        rcases hchecks with ⟨_, hobjective, _, hserved, hfound⟩
        exfalso
        refine hrefused policy threadId ⟨hpermitted, hpolicy, hobjective, ?_, ?_⟩
        · intro htask hbinds
          exact hserved (decide_eq_true ⟨htask, hbinds⟩)
        · rw [findThread, (registers_provision config s request.openerActor).threads] at hfound
          exact hfound
      · rename_i error after hthread
        rw [Prod.mk.injEq] at hthread
        rcases hthread with ⟨_, rfl⟩
        exact ⟨error, rfl⟩
  · rw [if_neg hpermitted]
    exact ⟨_, rfl⟩

end OpsCure.Chat
