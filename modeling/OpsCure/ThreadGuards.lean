/-
Exclusive commands of a thread: one interrupt at a time, and no deletion while a command is under
way.  Both guards look at the twenty commands of the thread that were updated last, so an active
one that twenty others have been updated after is not seen.
-/
import OpsCure.RemoteCodexService

namespace OpsCure.RemoteCodex

open Fallible Table RemoteCommand Run

/-! ## What is to hold -/

def isOfType (commandType : Option String) (row : Command Address) : Bool :=
  ∀ type ∈ commandType, row.type = type

def Standing (table : CommandTable) (machineId threadId : String)
    (commandType : Option String) : Prop :=
  ∃ id row, table.get id = some row ∧ isOfThread machineId threadId row ∧
    isOfType commandType row ∧ active row

def interrupting (machineId threadId : String) (row : Command Address) : Bool :=
  isOfThread machineId threadId row ∧ row.type = turnInterrupt ∧ active row

def SoleInterrupt (table : CommandTable) : Prop :=
  ∀ (machineId threadId : String) (id other : Id) (row rival : Command Address),
    table.get id = some row → table.get other = some rival →
      interrupting machineId threadId row → interrupting machineId threadId rival → id = other

def DeletesIdle (render : Json → String) (service : Service) (call : Call) : Prop :=
  match call.operation with
  | .enqueueThreadDelete request =>
      (∃ answer, (enqueueThreadDelete render service request call.clock).2 = .ok answer) →
        ¬ Standing service.commands request.addressee.machineId request.addressee.threadId none
  | _ => True

/-! ## The window -/

def guardWindow (render : Json → String) (service : Service) (machineId threadId : String)
    (now : Time) : List (Command Address × Id) :=
  (threadRows (service.commands.prune render service.tasks machineId threadId now)
    machineId threadId).take 20

def Overlooked (render : Json → String) (service : Service) (machineId threadId : String)
    (commandType : Option String) (now : Time) : Prop :=
  Standing service.commands machineId threadId commandType ∧
    ∀ row ∈ guardWindow render service machineId threadId now,
      ¬ (isOfType commandType row.1 ∧ active row.1)

/-- The request passes its other checks, and the command its guard is to see is overlooked. -/
def Overlooks (render : Json → String) (service : Service) (call : Call) : Prop :=
  match call.operation with
  | .enqueueInterrupt request =>
      requireLiveThread request.addressee = .ok ⟨⟩ ∧
        Overlooked render service request.addressee.machineId request.addressee.threadId
          (some turnInterrupt) (call.clock 0) ∧
        ∃ turnId, (interruptedTurnId render service.tasks
          (service.commands.prune render service.tasks request.addressee.machineId
            request.addressee.threadId (call.clock 0)) request (call.clock 1)).2 = some turnId
  | .enqueueThreadDelete request =>
      requireThread request.addressee = .ok ⟨⟩ ∧
        Overlooked render service request.addressee.machineId request.addressee.threadId none
          (call.clock 0)
  | _ => False

section Guard

variable {render : Json → String} {service : Service} {machineId threadId : String}
  {commandType : Option String} {now : Time}

variable {tasks : RemoteTask.Db} {id : Id}

theorem not_stale_of_active {table : CommandTable} {row : Command Address}
    (hrow : table.get id = some row) (hactive : active row) :
    id ∉ (staleThreadCommandIds render tasks table machineId threadId now).1 := by
  intro hstale
  obtain ⟨found, hfound, hstatus⟩ := completed_of_stale hstale
  rw [hrow] at hfound
  rw [← Option.some.inj hfound] at hstatus
  rw [active_iff, hstatus] at hactive
  simp at hactive

theorem get_prune_of_active {table : CommandTable} {row : Command Address} (hactive : active row) :
    (table.prune render tasks machineId threadId now).get id = some row ↔
      table.get id = some row := by
  simp only [CommandTable.get_eq_some, CommandTable.prune, List.mem_append, not_or]
  constructor
  · rintro ⟨⟨hkept, _⟩, hrow⟩
    exact ⟨hkept, hrow⟩
  · rintro ⟨hkept, hrow⟩
    refine ⟨⟨hkept, ?_⟩, hrow⟩
    intro hdeletable
    have hget := CommandTable.get_eq_some.2 ⟨hkept, hrow⟩
    exact not_stale_of_active hget hactive (stale_of_deletable hdeletable)

theorem getActiveThreadCommand_eq_none :
    (getActiveThreadCommand render service.tasks service.commands machineId threadId commandType
      now).2 = none ↔ ∀ row ∈ guardWindow render service machineId threadId now,
        ¬ (isOfType commandType row.1 ∧ active row.1) := by
  have hlimit : (max 1 (min (20 : Int) 30)).toNat = 20 := by decide
  simp only [getActiveThreadCommand, listThreadCommands, List.find?_eq_none, hlimit,
    Bool.false_eq_true, if_false, List.mem_filter, decide_eq_true_eq, and_imp]
  constructor
  · rintro hnone ⟨row, id⟩ hrow hboth
    have hget := (mem_threadRows.1 (List.mem_of_mem_take hrow)).1
    have hstood := (get_prune_of_active hboth.2).mp hget
    refine hnone (row, id) hrow (not_stale_of_active hstood hboth.2) ⟨?_, hboth.2⟩
    simpa [isOfType] using hboth.1
  · rintro hnone ⟨row, id⟩ hrow _ hboth
    refine hnone (row, id) hrow ⟨?_, hboth.2⟩
    simpa [isOfType] using hboth.1

end Guard

/-! ## What a write does to the active commands -/

def SameActive (table after : CommandTable) : Prop :=
  ∀ id row, active row → (after.get id = some row ↔ table.get id = some row)

def Kept (table after : CommandTable) : Prop :=
  ∀ id row, after.get id = some row → active row →
    ∃ old, table.get id = some old ∧ active old ∧ old.type = row.type ∧
      old.machineId = row.machineId ∧ old.address.threadId = row.address.threadId

section Writes

variable {render : Json → String} {table between after : CommandTable}
  {machineId threadId : String}

theorem sameActive_prune (tasks : RemoteTask.Db) (now : Time) :
    SameActive table (table.prune render tasks machineId threadId now) :=
  fun _ _ hactive => get_prune_of_active hactive

theorem SameActive.trans (hfirst : SameActive table between) (hsecond : SameActive between after) :
    SameActive table after :=
  fun id row hactive => (hsecond id row hactive).trans (hfirst id row hactive)

theorem SameActive.kept (hsame : SameActive table after) : Kept table after :=
  fun id row hrow hactive => ⟨row, (hsame id row hactive).mp hrow, hactive, rfl, rfl, rfl⟩

theorem Kept.sole (hkept : Kept table after) (hsole : SoleInterrupt table) :
    SoleInterrupt after := by
  intro machineId threadId id other row rival hrow hrival hinterrupts hcompetes
  simp only [interrupting, isOfThread, decide_eq_true_eq] at hinterrupts hcompetes
  obtain ⟨old, hold, holdActive, htype, hmachine, hthread⟩ := hkept id row hrow hinterrupts.2.2
  obtain ⟨first, hfirst, hfirstActive, hfirstType, hfirstMachine, hfirstThread⟩ :=
    hkept other rival hrival hcompetes.2.2
  apply hsole machineId threadId id other old first hold hfirst
  · simp only [interrupting, isOfThread, decide_eq_true_eq, htype, hmachine, hthread]
    exact ⟨hinterrupts.1, hinterrupts.2.1, holdActive⟩
  · simp only [interrupting, isOfThread, decide_eq_true_eq, hfirstType, hfirstMachine,
      hfirstThread]
    exact ⟨hcompetes.1, hcompetes.2.1, hfirstActive⟩

theorem SameActive.standing_iff (hsame : SameActive table after) {commandType : Option String} :
    Standing after machineId threadId commandType ↔
      Standing table machineId threadId commandType := by
  constructor
  · rintro ⟨id, row, hrow, hthread, htype, hactive⟩
    exact ⟨id, row, (hsame id row hactive).mp hrow, hthread, htype, hactive⟩
  · rintro ⟨id, row, hrow, hthread, htype, hactive⟩
    exact ⟨id, row, (hsame id row hactive).mpr hrow, hthread, htype, hactive⟩

theorem sole_enqueue_other {payload : EnqueueRequest Address} (clock : Clock)
    (hsole : SoleInterrupt table) (htype : payload.commandType ≠ turnInterrupt) :
    SoleInterrupt (table.enqueueCommand render payload clock) := by
  have hold : ∀ (machineId threadId : String) (id : Id) (row : Command Address),
      (table.enqueueCommand render payload clock).get id = some row →
        interrupting machineId threadId row → table.get id = some row := by
    intro machineId threadId id row hrow hinterrupts
    rcases get_enqueueCommand.1 hrow with hstood | ⟨_, rfl⟩
    · exact hstood
    · simp only [interrupting, decide_eq_true_eq] at hinterrupts
      exact absurd hinterrupts.2.1 htype
  intro machineId threadId id other row rival hrow hrival hinterrupts hcompetes
  exact hsole machineId threadId id other row rival
    (hold machineId threadId id row hrow hinterrupts)
    (hold machineId threadId other rival hrival hcompetes) hinterrupts hcompetes

theorem sole_enqueue_interrupt {payload : EnqueueRequest Address} (clock : Clock)
    (hsole : SoleInterrupt table) (htype : payload.commandType = turnInterrupt) :
    SoleInterrupt (table.enqueueCommand render payload clock) ↔
      ¬ Standing table payload.machineId payload.address.threadId (some turnInterrupt) := by
  have hnew : (table.enqueueCommand render payload clock).get table.queue.commands.length =
      some (queuedRow payload clock) := get_enqueueCommand.2 (Or.inr ⟨rfl, rfl⟩)
  constructor
  · rintro hafter ⟨id, row, hrow, hthread, hofType, hactive⟩
    have hbound := (List.getElem?_eq_some_iff.mp (CommandTable.get_eq_some.1 hrow).2).1
    have hsame := hafter payload.machineId payload.address.threadId id _ row _
      (get_enqueueCommand.2 (Or.inl hrow)) hnew
      (by
        simp only [isOfType, Option.mem_def, Option.some.injEq, forall_eq',
          decide_eq_true_eq] at hofType
        simp only [interrupting, decide_eq_true_eq]
        exact ⟨hthread, hofType, hactive⟩)
      (by simp [interrupting, isOfThread, queuedRow, htype, active])
    exact Nat.ne_of_lt hbound hsame
  · intro hidle machineId threadId id other row rival hrow hrival hinterrupts hcompetes
    have hstands : ∀ (id : Id) (row : Command Address), table.get id = some row →
        interrupting machineId threadId row →
          Standing table machineId threadId (some turnInterrupt) := by
      intro id row hrow hinterrupts
      simp only [interrupting, decide_eq_true_eq] at hinterrupts
      exact ⟨id, row, hrow, hinterrupts.1, by simp [isOfType, hinterrupts.2.1], hinterrupts.2.2⟩
    have hhere : interrupting machineId threadId (queuedRow payload clock) →
        payload.machineId = machineId ∧ payload.address.threadId = threadId := by
      intro hadded
      simp only [interrupting, isOfThread, decide_eq_true_eq] at hadded
      exact hadded.1
    rcases get_enqueueCommand.1 hrow with hold | ⟨rfl, rfl⟩
    · rcases get_enqueueCommand.1 hrival with hrivalOld | ⟨rfl, rfl⟩
      · exact hsole machineId threadId id other row rival hold hrivalOld hinterrupts hcompetes
      · obtain ⟨rfl, rfl⟩ := hhere hcompetes
        exact absurd (hstands id row hold hinterrupts) hidle
    · rcases get_enqueueCommand.1 hrival with hrivalOld | ⟨rfl, rfl⟩
      · obtain ⟨rfl, rfl⟩ := hhere hinterrupts
        exact absurd (hstands other rival hrivalOld hcompetes) hidle
      · rfl

theorem kept_claimNextCommand {workerId : String} {clock : Clock} :
    Kept table (table.claimNextCommand render machineId workerId clock).1 := by
  intro id row hrow hactive
  obtain ⟨hkept, hrow⟩ := CommandTable.get_eq_some.1 hrow
  simp only [CommandTable.claimNextCommand, CommandTable.write, RemoteCodex.claimNextCommand,
    RemoteCommand.claimNext] at hkept hrow
  split at hrow
  · exact ⟨row, CommandTable.get_eq_some.2 ⟨hkept, hrow⟩, hactive, rfl, rfl, rfl⟩
  · rename_i found commandId hnext
    obtain ⟨hfound, hkeep⟩ := firstBy_selectWhere hnext
    have hqueued := (of_decide_eq_true hkeep).2
    rcases getElem?_update_eq_some hrow with ⟨rfl, rfl⟩ | hold
    · refine ⟨found, CommandTable.get_eq_some.2 ⟨hkept, hfound⟩, ?_, rfl, rfl, rfl⟩
      exact active_iff.2 (Or.inl hqueued)
    · exact ⟨row, CommandTable.get_eq_some.2 ⟨hkept, hold⟩, hactive, rfl, rfl, rfl⟩

theorem kept_recordCommand {report : Report} {clock : Clock}
    (hok : recordCommand render table report clock = .ok after) : Kept table after := by
  have hwritten : after.deleted = table.deleted ∧ ∃ row tasks, active row = false ∧
      after.queue = ⟨update table.queue.commands report.commandId row, tasks⟩ := by
    unfold recordCommand at hok
    split at hok
    · obtain ⟨_, hwritten, hdeleted⟩ := CommandTable.settle_eq_ok.1 hok
      obtain ⟨row, _, hafter⟩ := completeCommand_eq_ok.1 hwritten
      exact ⟨hdeleted, _, _, rfl, hafter⟩
    · obtain ⟨_, hwritten, hdeleted⟩ := CommandTable.settle_eq_ok.1 hok
      obtain ⟨row, _, hafter⟩ := failCommand_eq_ok.1 hwritten
      exact ⟨hdeleted, _, _, rfl, hafter⟩
  obtain ⟨hdeleted, settled, tasks, hsettled, hqueue⟩ := hwritten
  intro id row hrow hactive
  rw [CommandTable.get_eq_some, hdeleted, hqueue] at hrow
  obtain ⟨hkept, hrow⟩ := hrow
  rcases getElem?_update_eq_some hrow with ⟨_, rfl⟩ | hold
  · rw [hsettled] at hactive
    cases hactive
  · exact ⟨row, CommandTable.get_eq_some.2 ⟨hkept, hold⟩, hactive, rfl, rfl, rfl⟩

end Writes

/-! ## What a request does -/

section Requests

variable {render : Json → String} {service : Service} {clock : Clock}

def AdmitsInterrupt (render : Json → String) (service : Service) (request : InterruptRequest)
    (clock : Clock) : Prop :=
  requireLiveThread request.addressee = .ok ⟨⟩ ∧
    (∀ row ∈ guardWindow render service request.addressee.machineId request.addressee.threadId
      (clock 0), ¬ (isOfType (some turnInterrupt) row.1 ∧ active row.1)) ∧
    ∃ turnId, (interruptedTurnId render service.tasks
      (service.commands.prune render service.tasks request.addressee.machineId
        request.addressee.threadId (clock 0)) request (clock 1)).2 = some turnId

def AdmitsDelete (render : Json → String) (service : Service) (request : DeleteRequest)
    (clock : Clock) : Prop :=
  requireThread request.addressee = .ok ⟨⟩ ∧
    ∀ row ∈ guardWindow render service request.addressee.machineId request.addressee.threadId
      (clock 0), ¬ (isOfType none row.1 ∧ active row.1)

def Queues (render : Json → String) (table after : CommandTable)
    (addressee : Addressee) (commandType : String) : Prop :=
  ∃ between payload at_, SameActive table between ∧
    after = CommandTable.enqueueCommand render between payload at_ ∧
    payload.commandType = commandType ∧ payload.machineId = addressee.machineId ∧
    payload.address.threadId = addressee.threadId

theorem sameActive_interruptedTurnId (render : Json → String) (service : Service)
    (table : CommandTable) (request : InterruptRequest) (now : Time) :
    SameActive table (interruptedTurnId render service.tasks table request now).1 := by
  unfold interruptedTurnId
  dsimp only
  split
  · exact fun _ _ _ => Iff.rfl
  · exact sameActive_prune service.tasks now

/-- An interrupt is queued, with nothing else changed, exactly when its request goes through. -/
theorem enqueueInterrupt_spec (render : Json → String) (service : Service)
    (request : InterruptRequest) (clock : Clock) :
    (AdmitsInterrupt render service request clock ∧
        Queues render service.commands (enqueueInterrupt render service request clock).1.commands
          request.addressee turnInterrupt) ∨
      (¬ AdmitsInterrupt render service request clock ∧
        SameActive service.commands
          (enqueueInterrupt render service request clock).1.commands) := by
  unfold enqueueInterrupt
  cases hchecked : requireLiveThread request.addressee with
  | error =>
      right
      refine ⟨?_, fun _ _ _ => Iff.rfl⟩
      rintro ⟨hok, _⟩
      rw [hchecked] at hok
      cases hok
  | ok =>
      dsimp only
      have hpruned : SameActive service.commands
          (service.commands.prune render service.tasks request.addressee.machineId
            request.addressee.threadId (clock 0)) := sameActive_prune service.tasks (clock 0)
      have hnext := hpruned.trans
        (sameActive_interruptedTurnId render service _ request (clock 1))
      cases hguard : (getActiveThreadCommand render service.tasks service.commands
          request.addressee.machineId request.addressee.threadId (some turnInterrupt)
          (clock 0)).2 with
      | some =>
          right
          refine ⟨?_, hpruned⟩
          rintro ⟨_, hnone, _⟩
          rw [getActiveThreadCommand_eq_none.2 hnone] at hguard
          cases hguard
      | none =>
          have hnone := getActiveThreadCommand_eq_none.1 hguard
          cases hturn : (interruptedTurnId render service.tasks
              (getActiveThreadCommand render service.tasks service.commands
                request.addressee.machineId request.addressee.threadId (some turnInterrupt)
                (clock 0)).1 request (clock 1)).2 with
          | none =>
              right
              refine ⟨?_, hnext⟩
              rintro ⟨_, _, turnId, hfound⟩
              have hsame := hturn.symm.trans hfound
              cases hsame
          | some turnId =>
              left
              exact ⟨⟨hchecked, hnone, turnId, hturn⟩, _, _, _, hnext, rfl, rfl, rfl, rfl⟩

theorem enqueueThreadDelete_spec (render : Json → String) (service : Service)
    (request : DeleteRequest) (clock : Clock) :
    (AdmitsDelete render service request clock ∧
        (∃ answer, (enqueueThreadDelete render service request clock).2 = .ok answer) ∧
        Queues render service.commands
          (enqueueThreadDelete render service request clock).1.commands request.addressee
          threadDelete) ∨
      (¬ AdmitsDelete render service request clock ∧
        (¬ ∃ answer, (enqueueThreadDelete render service request clock).2 = .ok answer) ∧
        SameActive service.commands
          (enqueueThreadDelete render service request clock).1.commands) := by
  unfold enqueueThreadDelete
  cases hchecked : requireThread request.addressee with
  | error =>
      right
      refine ⟨?_, by simp, fun _ _ _ => Iff.rfl⟩
      rintro ⟨hok, _⟩
      rw [hchecked] at hok
      cases hok
  | ok =>
      dsimp only
      have hpruned : SameActive service.commands
          (service.commands.prune render service.tasks request.addressee.machineId
            request.addressee.threadId (clock 0)) := sameActive_prune service.tasks (clock 0)
      cases hguard : (getActiveThreadCommand render service.tasks service.commands
          request.addressee.machineId request.addressee.threadId none (clock 0)).2 with
      | some =>
          right
          refine ⟨?_, by simp, hpruned⟩
          rintro ⟨_, hnone⟩
          rw [getActiveThreadCommand_eq_none.2 hnone] at hguard
          cases hguard
      | none =>
          left
          have hnone := getActiveThreadCommand_eq_none.1 hguard
          exact ⟨⟨hchecked, hnone⟩, ⟨_, rfl⟩, _, _, _, hpruned, rfl, rfl, rfl, rfl⟩

variable {addressee : Addressee}

theorem Queues.sole_other {table after : CommandTable} {commandType : String}
    (hqueues : Queues render table after addressee commandType) (hsole : SoleInterrupt table)
    (htype : commandType ≠ turnInterrupt) : SoleInterrupt after := by
  obtain ⟨between, payload, at_, hsame, rfl, rfl, _, _⟩ := hqueues
  exact sole_enqueue_other at_ (hsame.kept.sole hsole) htype

theorem Queues.sole_interrupt {table after : CommandTable}
    (hqueues : Queues render table after addressee turnInterrupt) (hsole : SoleInterrupt table) :
    SoleInterrupt after ↔
      ¬ Standing table addressee.machineId addressee.threadId (some turnInterrupt) := by
  obtain ⟨between, payload, at_, hsame, rfl, htype, hmachine, hthread⟩ := hqueues
  rw [sole_enqueue_interrupt at_ (hsame.kept.sole hsole) htype, hmachine, hthread,
    hsame.standing_iff]

theorem sole_enqueueForMachine {commandType : String} (request : MachineRequest)
    (hsole : SoleInterrupt service.commands) (htype : commandType ≠ turnInterrupt) :
    SoleInterrupt (enqueueForMachine render commandType service request clock).1.commands := by
  unfold enqueueForMachine
  split
  · exact hsole
  · exact sole_enqueue_other clock hsole htype

theorem sole_enqueueTurn (request : TurnRequest) (hsole : SoleInterrupt service.commands) :
    SoleInterrupt (enqueueTurn render service request clock).1.commands := by
  unfold enqueueTurn
  dsimp only
  split
  · exact hsole
  · have htype : turnStart ≠ turnInterrupt := by decide
    exact sole_enqueue_other _ hsole htype

@[simp]
theorem callTask_commands (service : Service) (operation : RemoteTask.Operation) (clock : Clock) :
    (callTask service operation clock).1.commands = service.commands := by
  unfold callTask
  split <;> rfl

theorem claimNext_commands (render : Json → String) (service : Service)
    (machineId workerId drawn : String) (clock : Clock) :
    (claimNext render service machineId workerId drawn clock).1.commands =
      (service.commands.claimNextCommand render machineId workerId clock).1 := by
  unfold claimNext
  dsimp only
  split
  · rfl
  · split
    · rfl
    · split
      · rfl
      · exact callTask_commands _ _ _

@[simp]
theorem settleTask_commands (service : Service) (name : String)
    (settle : Id → String → RemoteTask.Operation) (clock : Clock) :
    (settleTask service name settle clock).1.commands = service.commands := by
  unfold settleTask
  split
  · rfl
  · split
    · rfl
    · exact callTask_commands _ _ _

theorem recordCommandResult_commands (report : Report) :
    (recordCommandResult render service report clock).1.commands =
      committed service.commands (recordCommand render service.commands report clock) := by
  unfold recordCommandResult
  cases recordCommand render service.commands report clock with
  | error => rfl
  | ok =>
      dsimp only
      split
      · rfl
      · split
        · exact settleTask_commands _ _ _ _
        · rfl

end Requests

/-! ## Runs -/

variable {render : Json → String} {service : Service}

/-- One request keeps the interrupts apart and deletes only an idle thread, exactly when it does
not overlook a command. -/
theorem step_exclusive_iff (call : Call) (hsole : SoleInterrupt service.commands) :
    (SoleInterrupt (step render service call).commands ∧ DeletesIdle render service call) ↔
      ¬ Overlooks render service call := by
  obtain ⟨operation, clock⟩ := call
  have hquiet : ∀ (operation : Operation),
      SoleInterrupt (step render service ⟨operation, clock⟩).commands →
        (DeletesIdle render service ⟨operation, clock⟩ ↔ True) →
          (Overlooks render service ⟨operation, clock⟩ ↔ False) →
            ((SoleInterrupt (step render service ⟨operation, clock⟩).commands ∧
              DeletesIdle render service ⟨operation, clock⟩) ↔
                ¬ Overlooks render service ⟨operation, clock⟩) := by
    intro operation hafter hdeletes hoverlooks
    rw [hdeletes, hoverlooks]
    exact iff_of_true ⟨hafter, trivial⟩ not_false
  cases operation with
  | enqueueTurn request => exact hquiet _ (sole_enqueueTurn request hsole) Iff.rfl Iff.rfl
  | enqueueThreadStart request =>
      exact hquiet _ (sole_enqueueForMachine request hsole (by decide)) Iff.rfl Iff.rfl
  | enqueueFsList request =>
      exact hquiet _ (sole_enqueueForMachine request hsole (by decide)) Iff.rfl Iff.rfl
  | enqueueFsMkdir request =>
      exact hquiet _ (sole_enqueueForMachine request hsole (by decide)) Iff.rfl Iff.rfl
  | claimNextCommand machineId workerId drawn =>
      refine hquiet _ ?_ Iff.rfl Iff.rfl
      have hcommands := claimNext_commands render service machineId workerId drawn clock
      rw [step, perform, hcommands]
      exact kept_claimNextCommand.sole hsole
  | recordCommandResult report =>
      refine hquiet _ ?_ Iff.rfl Iff.rfl
      rw [step, perform, recordCommandResult_commands]
      cases hrecorded : recordCommand render service.commands report clock with
      | error => exact hsole
      | ok => exact (kept_recordCommand hrecorded).sole hsole
  | listThreadCommands =>
      refine hquiet _ ?_ Iff.rfl Iff.rfl
      exact (sameActive_prune service.tasks (clock 0)).kept.sole hsole
  | task operation =>
      refine hquiet _ ?_ Iff.rfl Iff.rfl
      have hcommands := callTask_commands service operation clock
      rw [step, perform, hcommands]
      exact hsole
  | enqueueInterrupt request =>
      have hoverlooks : Overlooks render service ⟨.enqueueInterrupt request, clock⟩ ↔
          AdmitsInterrupt render service request clock ∧
            Standing service.commands request.addressee.machineId request.addressee.threadId
              (some turnInterrupt) := by
        constructor
        · rintro ⟨hlive, ⟨hstanding, hwindow⟩, hturn⟩
          exact ⟨⟨hlive, hwindow, hturn⟩, hstanding⟩
        · rintro ⟨⟨hlive, hwindow, hturn⟩, hstanding⟩
          exact ⟨hlive, ⟨hstanding, hwindow⟩, hturn⟩
      rw [hoverlooks, show DeletesIdle render service ⟨.enqueueInterrupt request, clock⟩ = True
        from rfl, and_true]
      rcases enqueueInterrupt_spec render service request clock with
        ⟨hadmits, hqueues⟩ | ⟨hrefused, hsame⟩
      · rw [step, perform, hqueues.sole_interrupt hsole]
        tauto
      · exact iff_of_true (hsame.kept.sole hsole) fun hboth => hrefused hboth.1
  | enqueueThreadDelete request =>
      have hoverlooks : Overlooks render service ⟨.enqueueThreadDelete request, clock⟩ ↔
          AdmitsDelete render service request clock ∧
            Standing service.commands request.addressee.machineId request.addressee.threadId
              none := by
        constructor
        · rintro ⟨hthread, hstanding, hwindow⟩
          exact ⟨⟨hthread, hwindow⟩, hstanding⟩
        · rintro ⟨⟨hthread, hwindow⟩, hstanding⟩
          exact ⟨hthread, hstanding, hwindow⟩
      rw [hoverlooks]
      rcases enqueueThreadDelete_spec render service request clock with
        ⟨hadmits, hok, hqueues⟩ | ⟨hrefused, hraised, hsame⟩
      · have hafter := hqueues.sole_other hsole (by decide)
        constructor
        · rintro ⟨_, hidle⟩ ⟨_, hstands⟩
          exact hidle hok hstands
        · intro hclear
          exact ⟨hafter, fun _ hstands => hclear ⟨hadmits, hstands⟩⟩
      · refine iff_of_true ⟨hsame.kept.sole hsole, ?_⟩ fun hboth => hrefused hboth.1
        exact fun hok => absurd hok hraised

/-- In every run the interrupts of a thread are apart, and a deletion that goes through finds its
thread idle, exactly when no request that goes through overlooks a command. -/
theorem exclusive_commands_iff (render : Json → String) (calls : List Call) :
    (Throughout (step render) (fun service => SoleInterrupt service.commands) .empty calls ∧
        Along (step render) (DeletesIdle render) .empty calls) ↔
      Along (step render) (fun service call => ¬ Overlooks render service call) .empty calls := by
  apply throughout_and_along_iff
  · intro machineId threadId id other row rival hrow
    cases hrow
  · intro service call hsole
    exact step_exclusive_iff call hsole

/-! ## A thread that is too busy for its guard -/

/-- A machine that is online, with a thread on it. -/
def desk : Addressee := ⟨"m", "t", some ⟨"online", true⟩, true⟩

def interruptDesk (at_ : Time) : Call := ⟨.enqueueInterrupt ⟨desk, some "u", []⟩, fun _ => at_⟩

def promptDesk (at_ : Time) : Call := ⟨.enqueueTurn ⟨desk, "p", [], []⟩, fun _ => at_⟩

def busyDesk : List Call :=
  interruptDesk 0 :: (List.range 20).map (fun n => promptDesk (n + 1)) ++ [interruptDesk 30]

/-- The second interrupt is accepted while the first waits behind the prompts. -/
theorem second_interrupt_accepted :
    ¬ (Throughout (step fun _ => "") (fun service => SoleInterrupt service.commands) .empty
        busyDesk ∧ Along (step fun _ => "") (DeletesIdle fun _ => "") .empty busyDesk) := by
  rintro ⟨hsole, _⟩
  have hend := hsole busyDesk List.prefix_rfl
  have hfirst : ∃ row, (run (step fun _ => "") .empty busyDesk).commands.get 0 = some row ∧
      interrupting "m" "t" row := by
    apply (Option.any_eq_true ..).mp
    decide
  have hsecond : ∃ row, (run (step fun _ => "") .empty busyDesk).commands.get 21 = some row ∧
      interrupting "m" "t" row := by
    apply (Option.any_eq_true ..).mp
    decide
  obtain ⟨row, hrow, hinterrupts⟩ := hfirst
  obtain ⟨rival, hrival, hcompetes⟩ := hsecond
  exact absurd (hend "m" "t" 0 21 row rival hrow hrival hinterrupts hcompetes) (by decide)

end OpsCure.RemoteCodex
