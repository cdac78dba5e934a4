/-
What `close_conversation` asks for and what it leaves: the gates of a close by hand,
the state machine's part in every close, and the rows a close writes.
-/
import OpsCure.Speech

namespace OpsCure.Chat

open Fallible Session Table Contract V2 OperationMirror RemoteTask

variable {s after : State} {conversationId operationId : Id} {row : Conversation} {store : Store}
  {closedBy resolution : String} {summary : Option String} {bypass : Bool} {clock : Clock}
  {config : Config} {result : Summary}

theorem requireClosable_eq_ok :
    requireClosable s conversationId = .ok row ↔
      s.conversations[conversationId]? = some row ∧ row.isGeneral = false ∧
        row.state ≠ .closed := by
  simp only [requireClosable, getConversation, bind_eq_ok, orRaise_eq_ok, require_eq_ok,
    pure_eq_ok]
  constructor
  · rintro ⟨_, hrow, _, hgeneral, _, hopened, rfl⟩
    exact ⟨hrow, hgeneral, hopened⟩
  · rintro ⟨hrow, hgeneral, hopened⟩
    exact ⟨row, hrow, ⟨⟩, hgeneral, ⟨⟩, hopened, rfl⟩

def closedStore (store : Store) (operationId : Id) (closedBy resolution : String)
    (summary : Option String) (closedAt now : Time) : Store :=
  (registerCloser store closedBy).closeOperation operationId (closerOf closedBy) resolution
    summary closedAt now

theorem mirrorConversationClose_eq_ok {after : Store} {closedAt now : Time} :
    mirrorConversationClose store operationId closedBy resolution summary bypass closedAt now =
        .ok after ↔
      assertMirrorClose store operationId resolution bypass = .ok () ∧
        after = closedStore store operationId closedBy resolution summary closedAt now := by
  simp only [mirrorConversationClose, bind_eq_ok, pure_eq_ok]
  constructor
  · rintro ⟨_, hassert, rfl⟩
    exact ⟨hassert, rfl⟩
  · rintro ⟨hassert, rfl⟩
    exact ⟨⟨⟩, hassert, rfl⟩

theorem kindState_closedStore (store : Store) (operationId other : Id)
    (closedBy resolution : String) (summary : Option String) (closedAt now : Time) :
    (closedStore store operationId closedBy resolution summary closedAt now).kindState other =
      (store.kindState other).map fun found =>
        if operationId = other then (found.1, .closed) else found := by
  have hregistered : (registerCloser store closedBy).getOperation other =
      store.getOperation other := by
    rw [Store.getOperation, Store.getOperation, registerCloser_operations]
  by_cases hsame : operationId = other
  · subst hsame
    rw [closedStore, Store.closeOperation, Store.kindState,
      Store.getOperation_modifyOperation_self, hregistered, Store.kindState]
    simp [Function.comp_def]
  · rw [closedStore, Store.closeOperation, Store.kindState,
      Store.getOperation_modifyOperation_of_ne hsame, hregistered, Store.kindState]
    simp only [if_neg hsame]
    exact (Option.map_id_apply).symm

theorem recordClose_frame (config : Config) (s : State) (eventId : Option EventId) :
    (recordClose config s eventId).threads = s.threads ∧
      (recordClose config s eventId).conversations = s.conversations ∧
      (recordClose config s eventId).tasks = s.tasks ∧
      ∀ other, (recordClose config s eventId).store.kindState other =
        s.store.kindState other := by
  unfold recordClose
  split
  · exact ⟨rfl, rfl, rfl, fun _ => rfl⟩
  · exact ⟨rfl, rfl, rfl, Store.kindState_modifyOperation fun _ => ⟨rfl, rfl⟩⟩

def closedKindState (row : Conversation) (other : Id) (found : Kind × OpState) :
    Kind × OpState :=
  if row.v2OperationId = some other then (found.1, .closed) else found

theorem mirrorClose_eq_ok :
    mirrorClose s row closedBy resolution summary bypass clock = .ok store ↔
      (row.v2OperationId = none ∧ store = s.store) ∨
      ∃ operationId, row.v2OperationId = some operationId ∧
        assertMirrorClose s.store operationId resolution bypass = .ok () ∧
        store = closedStore s.store operationId closedBy resolution summary (clock 1)
          (clock 2) := by
  unfold mirrorClose
  cases row.v2OperationId with
  | none => simp [eq_comm]
  | some => simp [mirrorConversationClose_eq_ok]

theorem mirrorClose_kindState
    (hok : mirrorClose s row closedBy resolution summary bypass clock = .ok store) (other : Id) :
    store.kindState other = (s.store.kindState other).map (closedKindState row other) := by
  rcases mirrorClose_eq_ok.1 hok with ⟨hnone, rfl⟩ | ⟨operationId, hmirror, _, rfl⟩
  · have hsame : closedKindState row other = id := by
      funext found
      simp [closedKindState, hnone]
    rw [hsame, Option.map_id_fun, id]
  · have hsame : closedKindState row other = fun found =>
        if operationId = other then (found.1, .closed) else found := by
      funext found
      simp [closedKindState, hmirror]
    rw [hsame, kindState_closedStore]

theorem mirrorClose_isSome
    (hok : mirrorClose s row closedBy resolution summary bypass clock = .ok store) (other : Id) :
    (store.getOperation other).isSome = (s.store.getOperation other).isSome := by
  rw [← Store.isSome_kindState, ← Store.isSome_kindState, mirrorClose_kindState hok,
    Option.isSome_map]

def Closable (store : Store) (operationId : Id) (resolution : String) (bypass : Bool) :
    Prop :=
  ∃ operation, store.getOperation operationId = some operation ∧
    operation.state ≠ .closed ∧ operation.kind ≠ .general ∧
    (bypass ∧ resolution = "abandoned" ∨ resolution ∈ allowedResolutions operation.kind)

theorem Closable.of_getOperation {other : Store}
    (hclosable : Closable store operationId resolution bypass)
    (hsame : other.getOperation operationId = store.getOperation operationId) :
    Closable other operationId resolution bypass := by
  rw [Closable, hsame]
  exact hclosable

theorem closable_iff :
    Closable store operationId resolution bypass ↔
      (store.getOperation operationId).isSome ∧
        assertMirrorClose store operationId resolution bypass = .ok () := by
  unfold Closable assertMirrorClose
  cases store.getOperation operationId with
  | none => simp
  | some => simp [StateMachine.assertClose_eq_ok_iff]

theorem closeSession_eq_ok
    (hok : closeSession config s conversationId row closedBy resolution summary bypass clock =
      .ok (result, after)) :
    result = (conversationId, closedRow row closedBy resolution summary (clock 0)) ∧
      after.conversations = update s.conversations conversationId
        (closedRow row closedBy resolution summary (clock 0)) ∧
      after.threads = s.threads ∧ after.tasks = s.tasks ∧
      (∀ operationId, row.v2OperationId = some operationId →
        Closable s.store operationId resolution bypass) ∧
      ∀ other, after.store.kindState other =
        (s.store.kindState other).map (closedKindState row other) := by
  simp only [closeSession, bind_eq_ok, pure_eq_ok, Prod.exists, Prod.mk.injEq] at hok
  rcases hok with ⟨store, hstore, posted, eventId, hadded, rfl, rfl⟩
  rcases recordClose_frame config posted eventId with ⟨hthreads, hconversations, htasks, hkinds⟩
  rcases addMessage_frame hadded with ⟨hthreads', hconversations', htasks'⟩
  refine ⟨rfl, hconversations.trans hconversations', hthreads.trans hthreads',
    htasks.trans htasks', ?_, ?_⟩
  · intro operationId hmirror
    rcases mirrorClose_eq_ok.1 hstore with ⟨hnone, _⟩ | ⟨_, hsome, hassert, _⟩
    · rw [hnone] at hmirror
      cases hmirror
    · rw [hsome] at hmirror
      cases hmirror
      refine closable_iff.2 ⟨?_, hassert⟩
      -- the closing message was mirrored, so the operation was there before the close
      have hsame : (closedRow row closedBy resolution summary (clock 0)).v2OperationId =
          some operationId := hsome
      rw [← mirrorClose_isSome hstore]
      rcases addMessage_eq_ok.1 hadded with ⟨hnone, _⟩ | ⟨_, closed, hposted, hclosed, _⟩
      · rw [hsame] at hnone
        cases hnone
      · rw [hsame] at hposted
        cases hposted
        exact Option.isSome_iff_exists.mpr ⟨closed, hclosed⟩
  · intro other
    rw [hkinds, (addMessage_grows hadded).kindState]
    exact mirrorClose_kindState hstore other

theorem closeSession_isOk_iff :
    (∃ result after, closeSession config s conversationId row closedBy resolution summary
        bypass clock = .ok (result, after)) ↔
      ∀ operationId, row.v2OperationId = some operationId →
        Closable s.store operationId resolution bypass := by
  constructor
  · rintro ⟨result, after, hok⟩
    exact (closeSession_eq_ok hok).2.2.2.2.1
  · intro hclosable
    have hstore : ∃ store, mirrorClose s row closedBy resolution summary bypass clock =
        .ok store := by
      cases hmirror : row.v2OperationId with
      | none => exact ⟨_, mirrorClose_eq_ok.2 (Or.inl ⟨hmirror, rfl⟩)⟩
      | some operationId =>
          have hassert := (closable_iff.1 (hclosable operationId hmirror)).2
          exact ⟨_, mirrorClose_eq_ok.2 (Or.inr ⟨operationId, hmirror, hassert, rfl⟩)⟩
    rcases hstore with ⟨store, hstore⟩
    let closed := closedRow row closedBy resolution summary (clock 0)
    let written := { s with store := store }.setConversation conversationId closed
    have hadded : ∃ posted eventId, addMessage written closed
        (lifecycleMessage closed conversationId closedBy eventConversationClosed none
          (summaryPayload conversationId closed) (clock 3)) {} (clock 4) =
          .ok (posted, eventId) := by
      apply addMessage_isOk rfl
      intro operationId hmirror
      change (store.getOperation operationId).isSome
      rw [mirrorClose_isSome hstore]
      exact (closable_iff.1 (hclosable operationId hmirror)).1
    rcases hadded with ⟨posted, eventId, hadded⟩
    refine ⟨(conversationId, closed), recordClose config posted eventId, ?_⟩
    simp only [closeSession, bind_eq_ok, pure_eq_ok, Prod.exists, Prod.mk.injEq]
    exact ⟨store, hstore, posted, eventId, hadded, ⟨trivial, rfl⟩, rfl⟩

/-! ## The gates of a close by hand -/

def PolicyLets (s : State) (row : Conversation) (closedBy resolution : String) : Prop :=
  ∀ operationId operation, row.v2OperationId = some operationId →
    s.store.getOperation operationId = some operation →
    PolicyEngine.checkCloseAdmissible (s.store.ensureActorByHandle (withAt closedBy) .ai)
      operationId operation (some (withAt closedBy)) (some resolution) = .ok ()

theorem checkClosePolicy_eq_ok {gated : State}
    (hok : checkClosePolicy s row closedBy resolution = .ok gated) :
    Registers s gated ∧ PolicyLets s row closedBy resolution := by
  unfold checkClosePolicy at hok
  cases hmirror : row.v2OperationId with
  | none =>
      rw [hmirror] at hok
      cases hok
      exact ⟨.refl s, by simp [PolicyLets, hmirror]⟩
  | some operationId =>
      rw [hmirror] at hok
      cases hoperation : s.store.getOperation operationId with
      | none =>
          simp only [hoperation] at hok
          cases hok
          refine ⟨.refl s, ?_⟩
          intro other operation hother hfound
          rw [hmirror] at hother
          cases hother
          rw [hoperation] at hfound
          cases hfound
      | some =>
          simp only [hoperation, bind_eq_ok, mapError_eq_ok, pure_eq_ok] at hok
          rcases hok with ⟨_, hadmitted, rfl⟩
          refine ⟨.ensure s _ _, ?_⟩
          intro other found hother hfound
          rw [hmirror] at hother
          cases hother
          rw [hoperation] at hfound
          cases hfound
          exact hadmitted

theorem checkClosePolicy_isOk (hlets : PolicyLets s row closedBy resolution) :
    ∃ gated, checkClosePolicy s row closedBy resolution = .ok gated := by
  unfold checkClosePolicy
  cases hmirror : row.v2OperationId with
  | none => exact ⟨s, rfl⟩
  | some operationId =>
      cases hoperation : s.store.getOperation operationId with
      | none =>
          refine ⟨s, ?_⟩
          simp only [hoperation]
      | some operation =>
          refine ⟨{ s with store := s.store.ensureActorByHandle (withAt closedBy) .ai }, ?_⟩
          simp only [hoperation, bind_eq_ok, mapError_eq_ok, pure_eq_ok]
          exact ⟨⟨⟩, hlets operationId operation hmirror hoperation, trivial⟩

def TaskSettled (config : Config) (s : State) (row : Conversation) : Prop :=
  ∀ taskId, row.boundTaskId = some taskId → config.remoteTasks →
    ∃ task, s.tasks.tasks[taskId]? = some task ∧ task.status ∉ taskNonTerminalStatuses

theorem TaskSettled.of_tasks {t : State} (hsettled : TaskSettled config s row)
    (hsame : t.tasks = s.tasks) : TaskSettled config t row := by
  rw [TaskSettled, hsame]
  exact hsettled

theorem checkTaskSettled_eq_ok {done : Unit} :
    checkTaskSettled config s row = .ok done ↔ TaskSettled config s row := by
  unfold checkTaskSettled TaskSettled
  cases row.boundTaskId with
  | none => simp
  | some =>
      cases config.remoteTasks with
      | false => simp
      | true => simp [requireTask]

theorem checkCloser_eq_ok {done : Unit} :
    checkCloser row closedBy resolution = .ok done ↔
      isResolutionAllowed row.kind resolution ∧ isCloser row closedBy := by
  simp only [checkCloser, bind_eq_ok, require_eq_ok]
  constructor
  · rintro ⟨_, hresolution, hcloser⟩
    exact ⟨hresolution, hcloser⟩
  · rintro ⟨hresolution, hcloser⟩
    exact ⟨⟨⟩, hresolution, hcloser⟩

theorem closeByHand_eq_ok :
    closeByHand config s conversationId row closedBy resolution summary clock =
        .ok (result, after) ↔
      ∃ gated, checkClosePolicy s row closedBy resolution = .ok gated ∧
        TaskSettled config gated row ∧
        closeSession config gated conversationId row closedBy resolution summary false clock =
          .ok (result, after) := by
  simp only [closeByHand, bind_eq_ok, checkTaskSettled_eq_ok]
  constructor
  · rintro ⟨gated, hpolicy, _, hsettled, hsession⟩
    exact ⟨gated, hpolicy, hsettled, hsession⟩
  · rintro ⟨gated, hpolicy, hsettled, hsession⟩
    exact ⟨gated, hpolicy, ⟨⟩, hsettled, hsession⟩

/-- The two ways through `close_conversation`, from the row that was found. -/
theorem exec_closeConversation (config : Config) (conversationId : Id)
    (closedBy resolution : String) (summary : Option String) (bypass : Bool) (clock : Clock)
    (s : State) :
    exec (closeConversation config conversationId closedBy resolution summary bypass clock) s =
      match requireClosable s conversationId with
      | .error error => (.error error, s)
      | .ok row =>
          if bypass then
            exec (transaction fun s =>
              closeSession config s conversationId row closedBy resolution summary true clock) s
          else
            match checkCloser row closedBy resolution with
            | .error error => (.error error, s)
            | .ok _ =>
                if permits config s closedBy .conversationCloseOpener then
                  exec (transaction fun s => closeByHand config s conversationId row closedBy
                    resolution summary clock) (provision config s closedBy)
                else
                  (.error (denial config closedBy .conversationCloseOpener),
                    provision config s closedBy) := by
  rw [closeConversation, exec_bind, exec_query]
  cases requireClosable s conversationId with
  | error => rfl
  | ok row =>
      cases bypass with
      | true => rfl
      | false =>
          simp only [Bool.false_eq_true, if_false, exec_bind, exec_query]
          cases checkCloser row closedBy resolution with
          | error => rfl
          | ok =>
              simp only [exec_checkCapability]
              cases permits config s closedBy .conversationCloseOpener <;> rfl

theorem closeConversation_eq_ok :
    exec (closeConversation config conversationId closedBy resolution summary false clock) s =
        (.ok result, after) ↔
      ∃ row, requireClosable s conversationId = .ok row ∧
        isResolutionAllowed row.kind resolution ∧ isCloser row closedBy ∧
        permits config s closedBy .conversationCloseOpener ∧
        closeByHand config (provision config s closedBy) conversationId row closedBy resolution
          summary clock = .ok (result, after) := by
  rw [exec_closeConversation]
  cases hrow : requireClosable s conversationId with
  | error => simp
  | ok row =>
      simp only [Bool.false_eq_true, if_false, Except.ok.injEq]
      cases hcloser : checkCloser row closedBy resolution with
      | error =>
          constructor
          · rintro ⟨⟩
          · rintro ⟨_, rfl, hresolution, hby, _⟩
            have hok : checkCloser row closedBy resolution = .ok ⟨⟩ :=
              checkCloser_eq_ok.2 ⟨hresolution, hby⟩
            rw [hcloser] at hok
            cases hok
      | ok =>
          rcases checkCloser_eq_ok.1 hcloser with ⟨hresolution, hby⟩
          by_cases hpermitted : permits config s closedBy .conversationCloseOpener
          · simp only [hpermitted, if_true, exec_transaction_ok]
            constructor
            · exact fun hsession => ⟨row, rfl, hresolution, hby, trivial, hsession⟩
            · rintro ⟨_, rfl, _, _, _, hsession⟩
              exact hsession
          · simp [hpermitted]

end OpsCure.Chat
