/-
Is a close final?  The conversation and its operation close together, with one resolution.
The log is another matter: speech, hand-offs and closes ask whether the conversation is
open, while the coordinator's echoes and system events do not.
-/
import OpsCure.Histories

namespace OpsCure.Chat

open Table Run V2 OperationMirror RemoteTask Api

/-! ## The two records -/

structure ClosedTogether (row : Conversation) (operation : V2.Operation) : Prop where
  closed : row.state = .closed ↔ operation.state = .closed
  resolution : row.resolution = operation.resolution

variable {row : Conversation} {operation marked : V2.Operation} {s : State}

theorem ClosedTogether.of_open (hrow : row.state = .opened)
    (hoperation : operation.state = .opened) (hunresolved : row.resolution = none)
    (hunresolved' : operation.resolution = none) :
    ClosedTogether row operation where
  closed := by rw [hrow, hoperation]; exact ⟨nofun, nofun⟩
  resolution := by rw [hunresolved, hunresolved']

theorem closedTogether_wrote {s₀ : State} {may : Gates} {id : Id} {after : V2.Operation}
    (hbefore : ∀ old before, Mirror s id old before → ClosedTogether old before)
    (hwrote : Wrote s₀ may s id row after) : ClosedTogether row after := by
  cases hwrote with
  | kept old before hmirror hsame hturn hremains =>
      have htogether := hbefore old before hmirror
      have hstate : row.state = old.state := congrArg Prod.fst hsame
      have hresolution : row.resolution = old.resolution :=
        congrArg (fun charter => charter.2.1) hsame
      constructor
      · rw [hstate, hremains.closed]
        exact htogether.closed
      · rw [hresolution, hremains.resolution]
        exact htogether.resolution
  | founded now hid hopened hunresolved hunowned hunaddressed hquiet hfounded =>
      exact .of_open hopened hfounded.state hunresolved hfounded.resolution
  | announced policy now before record sent hid hopened hunresolved hquiet hfounded hauthor
      hkind haddressed hafter =>
      rw [hafter]
      exact .of_open hopened hfounded.state hunresolved hfounded.resolution
  | said before row₀ record now hmirror hknown hstate hmay hafter =>
      have htogether := hbefore row before hmirror
      rw [hafter]
      exact ⟨htogether.closed, htogether.resolution⟩
  | closed old before record now closedBy resolution summary closedAt operationClosedAt
      operationNow hmirror hopen hmay hkind hrow hremains =>
      rw [hrow]
      constructor
      · rw [hremains.closed]
        exact ⟨fun _ => rfl, fun _ => rfl⟩
      · rw [hremains.resolution]
        rfl

theorem run_closedTogether (api : ApiConfig) (hfresh : Fresh s) (acts : List Act) :
    Throughout (systemStep api) (fun t => Mirrored t ∧ Lawful (fun _ => ClosedTogether) t) s acts := by
  apply throughout_lawful api hfresh (C := fun _ _ => True)
  · exact fun _ _ _ => trivial
  · intro t act _ _ u id row after _ hbefore hwrote
    exact closedTogether_wrote hbefore hwrote

/-! ## The log -/

/-- No event has been appended after one that records the close. -/
def Final (operation : V2.Operation) : Prop :=
  ∀ event ∈ operation.events.dropLast, event.kind ≠ eventConversationClosed

instance (operation : V2.Operation) : Decidable (Final operation) :=
  inferInstanceAs (Decidable (∀ event ∈ operation.events.dropLast, _))

/-- Nothing in the log records a close. -/
def Unclosed (operation : V2.Operation) : Prop :=
  ∀ event ∈ operation.events, event.kind ≠ eventConversationClosed

theorem Unclosed.final (hunclosed : Unclosed operation) : Final operation :=
  fun event hevent => hunclosed event (List.dropLast_subset _ hevent)

theorem Unclosed.rowAfter (hunclosed : Unclosed operation) (record : MessageRecord) (now : Time) :
    Final (OperationMirror.rowAfter operation record now) := by
  intro event hevent
  change event ∈ (operation.events ++ [eventOf record now]).dropLast at hevent
  rw [List.dropLast_concat] at hevent
  exact hunclosed event hevent

theorem Unclosed.concat (hunclosed : Unclosed operation) {record : MessageRecord}
    (hkind : record.eventKind ≠ eventConversationClosed) (now : Time) :
    Unclosed (OperationMirror.rowAfter operation record now) := by
  intro event hevent
  rcases List.mem_append.mp hevent with hold | hlast
  · exact hunclosed event hold
  · rw [List.mem_singleton.mp hlast]
    exact hkind

theorem kinds_remains {row : V2.Operation} (hremains : row.Remains marked) :
    marked.events.map Event.kind = row.events.map Event.kind := by
  have hkinds := congrArg (List.map fun said => said.2.1) hremains.said
  rw [List.map_map, List.map_map] at hkinds
  exact hkinds

theorem Unclosed.remains {row : V2.Operation} (hremains : row.Remains marked)
    (hunclosed : Unclosed row) : Unclosed marked := by
  intro event hevent
  have hmem : event.kind ∈ row.events.map Event.kind := by
    rw [← kinds_remains hremains]
    exact List.mem_map_of_mem hevent
  rcases List.mem_map.mp hmem with ⟨other, hother, hkind⟩
  rw [← hkind]
  exact hunclosed other hother

theorem Final.remains {row : V2.Operation} (hremains : row.Remains marked) (hfinal : Final row) :
    Final marked := by
  intro event hevent
  have hmem : event.kind ∈ row.events.dropLast.map Event.kind := by
    rw [List.map_dropLast, ← kinds_remains hremains, ← List.map_dropLast]
    exact List.mem_map_of_mem hevent
  rcases List.mem_map.mp hmem with ⟨other, hother, hkind⟩
  rw [← hkind]
  exact hfinal other hother

structure ClosesLast (row : Conversation) (operation : V2.Operation) : Prop where
  final : Final operation
  unclosed : row.state ≠ .closed → Unclosed operation

def IsOpen (s : State) (conversationId : Id) : Prop :=
  ∀ row ∈ s.conversations[conversationId]?, row.state ≠ .closed

instance (s : State) (conversationId : Id) : Decidable (IsOpen s conversationId) :=
  inferInstanceAs (Decidable (∀ row ∈ s.conversations[conversationId]?, _))

def PostsOpen (api : ApiConfig) (s : State) (act : Act) : Prop :=
  ∀ (conversationId : Id) (author kind : String),
    (act.gates api s).post conversationId author kind →
      kind ≠ eventConversationClosed ∧ IsOpen s conversationId

theorem closesLast_wrote {api : ApiConfig} {t u : State} {act : Act} {id : Id}
    {after : V2.Operation} (hposts : PostsOpen api t act)
    (hbefore : ∀ old before, Mirror u id old before → ClosesLast old before)
    (hwrote : Wrote t (act.gates api t) u id row after) : ClosesLast row after := by
  cases hwrote with
  | kept old before hmirror hsame hturn hremains =>
      have hlast := hbefore old before hmirror
      have hstate : row.state = old.state := congrArg Prod.fst hsame
      constructor
      · exact hlast.final.remains hremains
      · intro hopen
        rw [hstate] at hopen
        exact (hlast.unclosed hopen).remains hremains
  | founded now hid hopened hunresolved hunowned hunaddressed hquiet hfounded =>
      have hunclosed : Unclosed after := by
        rw [Unclosed, hfounded.events]
        exact List.forall_mem_nil _
      exact ⟨hunclosed.final, fun _ => hunclosed⟩
  | announced policy now before record sent hid hopened hunresolved hquiet hfounded hauthor
      hkind haddressed hafter =>
      have hunclosed : Unclosed before := by
        rw [Unclosed, hfounded.events]
        exact List.forall_mem_nil _
      have hannounced : record.eventKind ≠ eventConversationClosed := by
        rw [hkind]
        decide
      rw [hafter]
      exact ⟨hunclosed.rowAfter record sent, fun _ => hunclosed.concat hannounced sent⟩
  | said before row₀ record now hmirror hknown hstate hmay hafter =>
      rcases hposts id _ _ hmay with ⟨hkind, hopen⟩
      have hnot : row.state ≠ .closed := by
        rw [hstate]
        exact hopen row₀ hknown
      have hunclosed := (hbefore row before hmirror).unclosed hnot
      rw [hafter]
      exact ⟨hunclosed.rowAfter record now, fun _ => hunclosed.concat hkind now⟩
  | closed old before record now closedBy resolution summary closedAt operationClosedAt
      operationNow hmirror hopen hmay hkind hrow hremains =>
      have hunclosed : Unclosed (closedOperation before closedBy resolution summary
          operationClosedAt operationNow) := (hbefore old before hmirror).unclosed hopen
      constructor
      · exact (hunclosed.rowAfter record now).remains hremains
      · intro hnot
        rw [hrow] at hnot
        exact absurd rfl hnot

theorem run_closesLast (api : ApiConfig) (hfresh : Fresh s) (acts : List Act)
    (hposts : Along (systemStep api) (PostsOpen api) s acts) :
    Throughout (systemStep api) (fun t => Mirrored t ∧ Lawful (fun _ => ClosesLast) t) s acts := by
  apply throughout_lawful api hfresh hposts
  intro t act _ hposts' u id row after _ hbefore hwrote
  exact closesLast_wrote hposts' hbefore hwrote

def CloseIsFinal (t : State) : Prop :=
  ∀ (conversationId : Id) (row : Conversation) (operationId : Id)
    (operation : V2.Operation),
    t.conversations[conversationId]? = some row → row.v2OperationId = some operationId →
    t.store.getOperation operationId = some operation →
    ClosedTogether row operation ∧ Final operation

/-- While nothing but a close is posted as one, and nothing into a closed conversation,
closing is final and the two records agree. -/
theorem close_is_final (api : ApiConfig) {s : State} (hfresh : Fresh s) (acts : List Act)
    (hposts : Along (systemStep api) (PostsOpen api) s acts) :
    Throughout (systemStep api) CloseIsFinal s acts := by
  intro done hdone conversationId row operationId operation hrow hmirror hoperation
  rcases run_closedTogether api hfresh acts done hdone with ⟨hmirrored, htogether⟩
  have hlast := (run_closesLast api hfresh acts hposts done hdone).2
  have hid : conversationId = operationId :=
    Option.some.inj ((hmirrored.linked conversationId row hrow).symm.trans hmirror)
  subst hid
  exact ⟨htogether conversationId row operation ⟨hrow, hoperation⟩,
    (hlast conversationId row operation ⟨hrow, hoperation⟩).final⟩

/-! ## Who asks whether the conversation is open -/

/-- What is left to ask of a move: of a system event its kind, and of it and of an operation
of the coordinator whether the conversation is open. -/
def LeavesClosed (s : State) : Move → Prop
  | .emitSystemEvent conversationId kind _ _ _ _ =>
      kind ≠ eventConversationClosed ∧ IsOpen s conversationId
  | .coordinate conversationId _ _ => IsOpen s conversationId
  | _ => True

theorem isOpen_of_found {conversationId : Id}
    (hfound : s.conversations[conversationId]? = some row) (hopen : row.state ≠ .closed) :
    IsOpen s conversationId := by
  intro other hother
  rw [Option.mem_def, hfound] at hother
  cases hother
  exact hopen

theorem postsOpen_of_leavesClosed (api : ApiConfig) {move : Move} (hleaves : LeavesClosed s move) :
    PostsOpen api s (.move move) := by
  intro conversationId author kind hmay
  change MayPost api.chat s move conversationId author kind at hmay
  cases hmay with
  | @spoke _ request _ _ _ hpasses =>
      refine ⟨?_, isOpen_of_found hpasses.found hpasses.opened⟩
      cases request.kind <;> decide
  | overSpoke hpasses =>
      exact ⟨by decide, isOpen_of_found hpasses.found hpasses.opened⟩
  | handedOff hpasses => exact ⟨by decide, isOpen_of_found hpasses.found hpasses.opened⟩
  | warned hthreshold hthread hidle =>
      simp only [idleRows, mem_selectWhere, decide_eq_true_eq] at hidle
      rcases hidle with ⟨hfound, _, hopened, _⟩
      refine ⟨by decide, isOpen_of_found hfound ?_⟩
      rw [hopened]
      decide
  | emitted => exact hleaves
  | @echoed _ taskId request _ _ task hpasses =>
      refine ⟨?_, hleaves⟩
      have hkinds : ∀ kind ∈ taskEventKinds, kind ≠ eventConversationClosed := by decide
      exact hkinds _ (plan_eventKind_mem api.chat taskId request task)

/-- A task that is claimed, worked on and completed. -/
theorem completed_task_is_final :
    Throughout (systemStep plainApi) CloseIsFinal emptyRoom
      ((claimedTask ++ completedTask).map Act.move) := by
  apply close_is_final plainApi ⟨rfl, rfl⟩
  refine along_cons (postsOpen_of_leavesClosed plainApi trivial) (along_cons ?_ (along_cons ?_
    (along_cons ?_ (along_nil _ _ _))))
  · exact postsOpen_of_leavesClosed plainApi (by decide : IsOpen _ 1)
  · exact postsOpen_of_leavesClosed plainApi (by decide : IsOpen _ 1)
  · exact postsOpen_of_leavesClosed plainApi (by decide : IsOpen _ 1)

/-- `carol` adds a note to the task that `bob` has completed. -/
def notedLate : List Act :=
  (claimedTask ++ completedTask ++
    [Move.coordinate 1 (.addNote { actorId := "carol", kind := "note", content := "late" })
      ⟨fun _ => 3, fun _ => 3, fun _ => 3⟩]).map Act.move

theorem note_follows_close :
    ¬ Throughout (systemStep plainApi) CloseIsFinal emptyRoom notedLate := by
  intro hfinal
  let noted := run (systemStep plainApi) emptyRoom notedLate
  have hfound : ∃ row operation, noted.conversations[1]? = some row ∧
      row.v2OperationId = some 1 ∧ noted.store.getOperation 1 = some operation ∧
      ¬ Final operation := by
    refine ⟨_, _, rfl, rfl, rfl, ?_⟩
    decide
  rcases hfound with ⟨row, operation, hrow, hmirror, hoperation, hnot⟩
  exact hnot (hfinal _ List.prefix_rfl 1 row 1 operation hrow hmirror hoperation).2

end OpsCure.Chat
