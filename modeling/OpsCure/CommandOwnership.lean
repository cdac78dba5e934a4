/-
Who settles a remote command?  A claim picks a queued command and marks it with its worker;
a report looks the command up by its id alone.
-/
import OpsCure.Library.Custody
import OpsCure.RemoteCommands

namespace OpsCure.RemoteCommand

open Fallible Table Run Custody

variable {α : Type}

/-! ## The queue in runs -/

inductive Operation (α : Type) where
  | enqueue (payload : EnqueueRequest α)
  | claim (machineId workerId : String)
  | complete (commandId : Id) (workerId : String) (result : Json)
  | fail (commandId : Id) (workerId : String) (error : Json)

structure Call (α : Type) where
  operation : Operation α
  clock : Clock

section Runs

variable (behavior : Behavior α)

def perform (queue : Queue α) (call : Call α) : Except CommandError (Queue α) :=
  match call.operation with
  | .enqueue payload => .ok (enqueue behavior queue payload call.clock)
  | .claim machineId workerId => .ok (claimNext behavior queue machineId workerId call.clock).1
  | .complete commandId workerId result =>
      complete behavior queue commandId workerId result call.clock
  | .fail commandId workerId error => fail behavior queue commandId workerId error call.clock

def step (queue : Queue α) (call : Call α) : Queue α :=
  committed queue (perform behavior queue call)

def deeds (queue : Queue α) (call : Call α) : List (Deed Id String) :=
  match call.operation with
  | .enqueue _ => []
  | .claim machineId workerId =>
      match nextQueued queue machineId with
      | some (_, commandId) => [.handed commandId (workerName behavior workerId)]
      | none => []
  | .complete commandId workerId _ | .fail commandId workerId _ =>
      match queue.commands[commandId]? with
      | some _ => [.settled commandId (workerName behavior workerId)]
      | none => []

/-- What a run hands out and settles, in order. -/
def history (queue : Queue α) : List (Call α) → List (Deed Id String)
  | [] => []
  | call :: calls => deeds behavior queue call ++ history (step behavior queue call) calls

def Ended (commandId : Id)
    (ending : CommandStatus × Option Json × Option Json × Option Time) (queue : Queue α) : Prop :=
  ∃ row, queue.commands[commandId]? = some row ∧
    (row.status = .completed ∨ row.status = .failed) ∧
    ending = (row.status, row.result, row.error, row.completedAt)

/-- A run hands each command to one worker, and lets that worker settle it once, for good. -/
structure Owned (calls : List (Call α)) : Prop where
  lawful : Lawful (history behavior (Queue.empty α) calls)
  final : ∀ commandId ending,
    Absorbs (step behavior) (Ended commandId ending) (Queue.empty α) calls

/-- A report on a command that does not run, or runs for another worker. -/
def Misreports (queue : Queue α) (call : Call α) : Prop :=
  match call.operation with
  | .complete commandId workerId _ | .fail commandId workerId _ =>
      ∃ row, queue.commands[commandId]? = some row ∧
        ¬(row.status = .running ∧ row.workerId = some (workerName behavior workerId))
  | _ => False

end Runs

/-! ## What the calls do -/

variable {behavior : Behavior α} {queue : Queue α}

theorem history_concat (calls : List (Call α)) (call : Call α) :
    history behavior queue (calls ++ [call]) =
      history behavior queue calls ++ deeds behavior (run (step behavior) queue calls) call := by
  induction calls generalizing queue with
  | nil => simp [history]
  | cons first calls ih => simp [history, ih]

/-- A call adds a queued command, hands a queued one out, settles one, or does nothing. -/
inductive Change (behavior : Behavior α) (queue after : Queue α) :
    List (Deed Id String) → Prop
  | none (hsame : after.commands = queue.commands) : Change behavior queue after []
  | added (row : Command α) (hstatus : row.status = .queued)
      (hcommands : after.commands = queue.commands ++ [row]) : Change behavior queue after []
  | handed (commandId : Id) (worker : String) (row claimed : Command α)
      (hrow : queue.commands[commandId]? = some row) (hstatus : row.status = .queued)
      (hclaimed : claimed.status = .running ∧ claimed.workerId = some worker)
      (hcommands : after.commands = update queue.commands commandId claimed) :
      Change behavior queue after [.handed commandId worker]
  | settled (commandId : Id) (worker : String) (row ended : Command α)
      (hrow : queue.commands[commandId]? = some row)
      (hended : ended.status = .completed ∨ ended.status = .failed)
      (hcommands : after.commands = update queue.commands commandId ended) :
      Change behavior queue after [.settled commandId worker]

theorem change_step (queue : Queue α) (call : Call α) :
    Change behavior queue (step behavior queue call) (deeds behavior queue call) := by
  obtain ⟨operation, clock⟩ := call
  cases operation with
  | enqueue => exact Change.added _ rfl rfl
  | claim machineId =>
      simp only [step, perform, deeds, claimNext, committed_ok]
      cases hnext : nextQueued queue machineId with
      | none => exact Change.none rfl
      | some found =>
          obtain ⟨row, commandId⟩ := found
          have hfound := firstBy_selectWhere hnext
          have hqueued := (of_decide_eq_true hfound.2).2
          exact Change.handed commandId _ row _ hfound.1 hqueued ⟨rfl, rfl⟩ rfl
  | complete commandId =>
      simp only [step, perform, deeds, complete]
      cases hrow : queue.commands[commandId]? with
      | none => exact Change.none rfl
      | some row => exact Change.settled commandId _ row _ hrow (Or.inl rfl) rfl
  | fail commandId =>
      simp only [step, perform, deeds, fail]
      cases hrow : queue.commands[commandId]? with
      | none => exact Change.none rfl
      | some row => exact Change.settled commandId _ row _ hrow (Or.inr rfl) rfl

/-! ## The rows beside the history -/

/-- What a row says of what happened to its command. -/
def Accounts (past : List (Deed Id String)) (commandId : Id) (row : Command α) : Prop :=
  match row.status with
  | .queued => commandId ∉ handedKeys past ∧ commandId ∉ settledKeys past
  | .running => (∃ worker, row.workerId = some worker ∧ .handed commandId worker ∈ past) ∧
      commandId ∉ settledKeys past
  | .completed | .failed => commandId ∈ settledKeys past

/-- Every row accounts for its command, and nothing happened to a command that is not
there. -/
structure Booked (queue : Queue α) (past : List (Deed Id String)) : Prop where
  accounts : ∀ (commandId : Id) (row : Command α), queue.commands[commandId]? = some row →
    Accounts past commandId row
  known : ∀ deed ∈ past, deed.key < queue.commands.length

theorem booked_empty : Booked (Queue.empty α) [] where
  accounts := by
    intro commandId row hrow
    cases hrow
  known := by
    intro deed hdeed
    cases hdeed

variable {past : List (Deed Id String)} {commandId : Id} {row : Command α} {after : Queue α}

variable {deed : Deed Id String} {happened : List (Deed Id String)} {done calls : List (Call α)}

theorem Accounts.other (haccounts : Accounts past commandId row) (hother : deed.key ≠ commandId) :
    Accounts (past ++ [deed]) commandId row := by
  have hhanded : commandId ∈ handedKeys (past ++ [deed]) → commandId ∈ handedKeys past := by
    intro hkey
    obtain ⟨worker, hworker⟩ := mem_handedKeys.1 hkey
    rcases List.mem_append.mp hworker with hearlier | hlast
    · exact mem_handedKeys.2 ⟨worker, hearlier⟩
    · rw [← List.mem_singleton.mp hlast] at hother
      exact absurd rfl hother
  have hsettled : commandId ∈ settledKeys (past ++ [deed]) ↔ commandId ∈ settledKeys past := by
    cases deed with
    | handed => rw [settledKeys_handed]
    | settled =>
        rw [settledKeys_settled, List.mem_append, List.mem_singleton]
        constructor
        · rintro (hearlier | hsame)
          · exact hearlier
          · exact absurd hsame.symm hother
        · exact Or.inl
  unfold Accounts at haccounts ⊢
  cases hstatus : row.status with
  | queued =>
      simp only [hstatus] at haccounts ⊢
      exact ⟨fun hkey => haccounts.1 (hhanded hkey), fun hkey => haccounts.2 (hsettled.mp hkey)⟩
  | running =>
      simp only [hstatus] at haccounts ⊢
      obtain ⟨⟨worker, hworker, hheld⟩, hfree⟩ := haccounts
      exact ⟨⟨worker, hworker, List.mem_append_left _ hheld⟩, fun hkey => hfree (hsettled.mp hkey)⟩
  | completed | failed =>
      simp only [hstatus] at haccounts ⊢
      exact hsettled.mpr haccounts

theorem Booked.update {queue : Queue α} {rewritten : Command α} (hbooked : Booked queue past)
    (hrow : queue.commands[commandId]? = some row) (hkey : deed.key = commandId)
    (hcommands : after.commands = update queue.commands commandId rewritten)
    (haccounts : Accounts (past ++ [deed]) commandId rewritten) :
    Booked after (past ++ [deed]) where
  accounts := by
    intro other found hfound
    rw [hcommands] at hfound
    by_cases hid : commandId = other
    · subst hid
      rw [getElem?_update_self hrow] at hfound
      rw [← Option.some.inj hfound]
      exact haccounts
    · rw [getElem?_update_of_ne hid] at hfound
      refine (hbooked.accounts other found hfound).other ?_
      rw [hkey]
      exact hid
  known := by
    intro one hone
    have hlength : after.commands.length = queue.commands.length := by
      rw [hcommands]
      exact List.length_set
    rw [hlength]
    rcases List.mem_append.mp hone with hearlier | hlast
    · exact hbooked.known one hearlier
    · rw [List.mem_singleton.mp hlast, hkey]
      exact (List.getElem?_eq_some_iff.mp hrow).1

theorem Booked.change {queue : Queue α} (hbooked : Booked queue past)
    (hchange : Change behavior queue after happened) : Booked after (past ++ happened) := by
  cases hchange with
  | none hsame =>
      rw [List.append_nil]
      constructor
      · rw [hsame]
        exact hbooked.accounts
      · rw [hsame]
        exact hbooked.known
  | added row hstatus hcommands =>
      rw [List.append_nil]
      constructor
      · intro commandId found hfound
        rw [hcommands] at hfound
        rcases getElem?_concat_eq_some hfound with hstood | ⟨hid, hsame⟩
        · exact hbooked.accounts commandId found hstood
        · have hfresh : ∀ deed ∈ past, deed.key ≠ commandId := by
            intro deed hdeed hkey
            have hknown := hbooked.known deed hdeed
            rw [hkey, hid] at hknown
            exact lt_irrefl _ hknown
          rw [hsame]
          simp only [Accounts, hstatus, handedKeys, settledKeys, List.mem_filterMap]
          constructor
          · rintro ⟨deed, hdeed, hkey⟩
            cases deed with
            | handed =>
                cases hkey
                exact hfresh _ hdeed rfl
            | settled => cases hkey
          · rintro ⟨deed, hdeed, hkey⟩
            cases deed with
            | handed => cases hkey
            | settled =>
                cases hkey
                exact hfresh _ hdeed rfl
      · intro deed hdeed
        rw [hcommands, List.length_append, List.length_singleton]
        exact Nat.lt_succ_of_lt (hbooked.known deed hdeed)
  | handed commandId worker row claimed hrow hstatus hclaimed hcommands =>
      refine hbooked.update hrow rfl hcommands ?_
      have hfree := hbooked.accounts commandId row hrow
      simp only [Accounts, hstatus] at hfree
      simp only [Accounts, hclaimed.1, settledKeys_handed]
      exact ⟨⟨worker, hclaimed.2, List.mem_concat_self⟩, hfree.2⟩
  | settled commandId worker row ended hrow hended hcommands =>
      refine hbooked.update hrow rfl hcommands ?_
      have hsettled : commandId ∈ settledKeys (past ++ [.settled commandId worker]) := by
        rw [settledKeys_settled]
        exact List.mem_concat_self
      unfold Accounts
      rcases hended with hstatus | hstatus
      · simp only [hstatus]
        exact hsettled
      · simp only [hstatus]
        exact hsettled

theorem Accounts.lawful_settled_iff (hlawful : Lawful past)
    (haccounts : Accounts past commandId row) (worker : String) :
    Lawful (past ++ [.settled commandId worker]) ↔
      row.status = .running ∧ row.workerId = some worker := by
  rw [Custody.lawful_settled_iff hlawful]
  unfold Accounts at haccounts
  cases hstatus : row.status with
  | queued =>
      simp only [hstatus] at haccounts
      constructor
      · rintro ⟨hheld, _⟩
        exact absurd (mem_handedKeys.2 ⟨worker, hheld⟩) haccounts.1
      · rintro ⟨hruns, _⟩
        cases hruns
  | running =>
      simp only [hstatus] at haccounts
      obtain ⟨⟨holder, hholder, hheld⟩, hfree⟩ := haccounts
      rw [hholder]
      constructor
      · rintro ⟨hclaimed, _⟩
        rw [hlawful.holder_eq hheld hclaimed]
        exact ⟨rfl, rfl⟩
      · rintro ⟨_, hsame⟩
        rw [← Option.some.inj hsame]
        exact ⟨hheld, hfree⟩
  | completed | failed =>
      simp only [hstatus] at haccounts
      constructor
      · rintro ⟨_, hfree⟩
        exact absurd haccounts hfree
      · rintro ⟨hruns, _⟩
        cases hruns

theorem lawful_deeds_iff (hlawful : Lawful past) (hbooked : Booked queue past) (call : Call α) :
    Lawful (past ++ deeds behavior queue call) ↔ ¬ Misreports behavior queue call := by
  have hreport : ∀ (commandId : Id) (workerId : String),
      Lawful (past ++ match queue.commands[commandId]? with
        | some _ => [.settled commandId (workerName behavior workerId)]
        | none => []) ↔
      ¬ ∃ row, queue.commands[commandId]? = some row ∧
        ¬(row.status = .running ∧ row.workerId = some (workerName behavior workerId)) := by
    intro commandId workerId
    cases hrow : queue.commands[commandId]? with
    | none => simp [hlawful]
    | some row =>
        simp only [(hbooked.accounts commandId row hrow).lawful_settled_iff hlawful,
          Option.some.injEq, exists_eq_left', not_not]
  obtain ⟨operation, clock⟩ := call
  cases operation with
  | enqueue => simp [deeds, Misreports, hlawful]
  | claim machineId =>
      simp only [deeds, Misreports, not_false_eq_true, iff_true]
      cases hnext : nextQueued queue machineId with
      | none =>
          rw [List.append_nil]
          exact hlawful
      | some found =>
          obtain ⟨row, commandId⟩ := found
          have hfound := firstBy_selectWhere hnext
          have hqueued : row.status = .queued := (of_decide_eq_true hfound.2).2
          have hfree := hbooked.accounts commandId row hfound.1
          simp only [Accounts, hqueued] at hfree
          exact hlawful.handed hfree.1
  | complete commandId workerId => exact hreport commandId workerId
  | fail commandId workerId => exact hreport commandId workerId

theorem Ended.change {queue : Queue α}
    {ending : CommandStatus × Option Json × Option Json × Option Time}
    (hended : Ended commandId ending queue) (hbooked : Booked queue past)
    (hchange : Change behavior queue after happened) (hlawful : Lawful (past ++ happened)) :
    Ended commandId ending after := by
  obtain ⟨row, hrow, hstatus, hending⟩ := hended
  refine ⟨row, ?_, hstatus, hending⟩
  cases hchange with
  | none hsame =>
      rw [hsame]
      exact hrow
  | added added _ hcommands =>
      rw [hcommands, List.getElem?_append_left (List.getElem?_eq_some_iff.mp hrow).1]
      exact hrow
  | handed other worker queued claimed hqueued hwaits hclaimed hcommands =>
      have hother : other ≠ commandId := by
        intro hsame
        rw [hsame, hrow] at hqueued
        rw [← Option.some.inj hqueued] at hwaits
        rw [hwaits] at hstatus
        rcases hstatus with hdone | hdone
        · cases hdone
        · cases hdone
      rw [hcommands, getElem?_update_of_ne hother]
      exact hrow
  | settled other worker settled ended hsettled _ hcommands =>
      have hother : other ≠ commandId := by
        intro hsame
        have haccounts := hbooked.accounts other settled hsettled
        have hruns := ((haccounts.lawful_settled_iff hlawful.earlier worker).mp hlawful).1
        rw [hsame, hrow] at hsettled
        rw [← Option.some.inj hsettled] at hruns
        rw [hruns] at hstatus
        rcases hstatus with hdone | hdone
        · cases hdone
        · cases hdone
      rw [hcommands, getElem?_update_of_ne hother]
      exact hrow

/-! ## The runs -/

theorem booked_run (behavior : Behavior α) (calls : List (Call α)) :
    Booked (run (step behavior) (Queue.empty α) calls)
      (history behavior (Queue.empty α) calls) := by
  induction calls using List.reverseRecOn with
  | nil => exact booked_empty
  | append_singleton calls call ih =>
      rw [run_concat, history_concat]
      exact ih.change (change_step _ call)

theorem history_prefix {behavior : Behavior α} {queue : Queue α} (hdone : done <+: calls) :
    history behavior queue done <+: history behavior queue calls := by
  obtain ⟨more, rfl⟩ := hdone
  induction more using List.reverseRecOn with
  | nil =>
      rw [List.append_nil]
  | append_singleton more call ih =>
      rw [← List.append_assoc, history_concat]
      exact ih.trans (List.prefix_append _ _)

theorem lawful_of_prefix {behavior : Behavior α} {queue : Queue α}
    (hlawful : Lawful (history behavior queue calls)) (hdone : done <+: calls) :
    Lawful (history behavior queue done) := by
  have hpart : history behavior queue done <+: history behavior queue calls :=
    history_prefix hdone
  obtain ⟨more, hmore⟩ := hpart
  rw [← hmore] at hlawful
  exact hlawful.earlier

theorem lawful_history_iff (behavior : Behavior α) (calls : List (Call α)) :
    Lawful (history behavior (Queue.empty α) calls) ↔
      Along (step behavior) (fun queue call => ¬ Misreports behavior queue call)
        (Queue.empty α) calls := by
  constructor
  · intro hlawful done call hcall
    have hpast := lawful_of_prefix hlawful hcall
    rw [history_concat] at hpast
    exact (lawful_deeds_iff hpast.earlier (booked_run behavior done) call).mp hpast
  · intro hfair
    induction calls using List.reverseRecOn with
    | nil => exact lawful_nil
    | append_singleton calls call ih =>
        have hearlier := ih fun done other hother =>
          hfair done other (hother.trans (List.prefix_append _ _))
        rw [history_concat]
        exact (lawful_deeds_iff hearlier (booked_run behavior calls) call).mpr
          (hfair calls call List.prefix_rfl)

theorem owned_iff (behavior : Behavior α) (calls : List (Call α)) :
    Owned behavior calls ↔
      Along (step behavior) (fun queue call => ¬ Misreports behavior queue call)
        (Queue.empty α) calls := by
  rw [← lawful_history_iff]
  constructor
  · exact fun howned => howned.lawful
  · intro hlawful
    refine ⟨hlawful, ?_⟩
    intro commandId ending
    rw [absorbs_iff_along]
    intro done call hcall hended
    have hpast := lawful_of_prefix hlawful hcall
    rw [history_concat] at hpast
    exact hended.change (booked_run behavior done) (change_step _ call) hpast

/-! ## The theorem -/

/-- On the codex queue and on the claude queue, from no commands and under any calls: every
command is handed to one worker, and settled once by that worker for good, exactly when every
report of a known command finds it running under the name of the reporting worker. -/
theorem commands_owned_iff (render : Json → String) (calls : List (Call RemoteCodex.Address))
    (claudeCalls : List (Call RemoteClaude.Address)) :
    (Owned (RemoteCodex.behavior render) calls ↔
      Along (step (RemoteCodex.behavior render))
        (fun queue call => ¬ Misreports (RemoteCodex.behavior render) queue call)
        (Queue.empty RemoteCodex.Address) calls) ∧
    (Owned RemoteClaude.behavior claudeCalls ↔
      Along (step RemoteClaude.behavior)
        (fun queue call => ¬ Misreports RemoteClaude.behavior queue call)
        (Queue.empty RemoteClaude.Address) claudeCalls) :=
  ⟨owned_iff (RemoteCodex.behavior render) calls, owned_iff RemoteClaude.behavior claudeCalls⟩

def strayRun (address : α) : List (Call α) :=
  [⟨.enqueue { commandType := "turn.start", machineId := "m", address := address
               prompt := none, requestedBy := .null }, fun _ => 0⟩,
    ⟨.claim "m" "first", fun _ => 1⟩,
    ⟨.complete 0 "second" (.obj []), fun _ => 2⟩,
    ⟨.fail 0 "first" .null, fun _ => 3⟩]

/-- The history of the stray run has the command settled by a worker it was not handed to,
and twice. -/
theorem stray_reports_settle :
    ¬ Owned (RemoteCodex.behavior fun _ => "") (strayRun ⟨"t", none, none⟩) ∧
      ¬ Owned RemoteClaude.behavior (strayRun ⟨"s", none⟩) := by
  have hcodex : history (RemoteCodex.behavior fun _ => "") (Queue.empty RemoteCodex.Address)
      (strayRun ⟨"t", none, none⟩) =
        [.handed 0 "first", .settled 0 "second", .settled 0 "first"] := by
    decide
  have hclaude : history RemoteClaude.behavior (Queue.empty RemoteClaude.Address)
      (strayRun ⟨"s", none⟩) =
        [.handed 0 "first", .settled 0 "second", .settled 0 "first"] := by
    decide
  have hstray : ¬ Lawful [Deed.handed 0 "first", .settled 0 "second", .settled (0 : Id) "first"] := by
    intro hlawful
    have htwice := hlawful.settled_once
    revert htwice
    decide
  constructor
  · intro howned
    have hlawful := howned.lawful
    rw [hcodex] at hlawful
    exact hstray hlawful
  · intro howned
    have hlawful := howned.lawful
    rw [hclaude] at hlawful
    exact hstray hlawful

end OpsCure.RemoteCommand
