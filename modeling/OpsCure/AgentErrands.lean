/-
The agent's calls and what they keep.  A request is harmless to a property when serving it keeps
the property; the agent's programs keep what their requests, and those of the others, are harmless
to.  Over a run of the desk, only commands that have begun leave an effect or a record.
-/
import OpsCure.BridgeChanges
import OpsCure.DeviceAgent

namespace OpsCure.RemoteCodex

open Fallible Session Lossy RemoteCommand

/-! ## Runs of a desk -/

/-- A turn of the desk: others visit the bridge, or the agent runs one errand. -/
inductive Turn where
  | visits (requests : List (Request × Arrival))
  | errand (errand : Errand)

section Agent

variable (render : Json → String) (refuse : ServiceError → String) (lost : String)

def Desk.served (desk : Desk) (request : Request) (arrival : Arrival) : Desk :=
  { desk with bridge := (serve render request arrival desk.bridge).1 }

def Desk.turn (config : AgentConfig) (desk : Desk) : Turn → Desk
  | .visits requests => { desk with bridge := serveAll render requests desk.bridge }
  | .errand errand => (exec (executeNextCommand render refuse lost config errand) desk).2

/-- Serving the request keeps the property, whenever it arrives. -/
def Harmless (P : Desk → Prop) (request : Request) : Prop :=
  ∀ arrival desk, P desk → P (desk.served render request arrival)

/-- What others ask in between keeps the property. -/
def Slot.Harmless (P : Desk → Prop) (slot : Slot) : Prop :=
  ∀ visit ∈ slot.others, RemoteCodex.Harmless render P visit.1

/-! ## One call -/

variable {render refuse lost} {P : Desk → Prop}

theorem served_others {requests : List (Request × Arrival)}
    (hothers : ∀ visit ∈ requests, Harmless render P visit.1) {desk : Desk} (hdesk : P desk) :
    P { desk with bridge := serveAll render requests desk.bridge } := by
  induction requests generalizing desk with
  | nil => exact hdesk
  | cons visit requests ih =>
      have hnext := hothers visit List.mem_cons_self visit.2 desk hdesk
      exact ih (fun other hother => hothers other (List.mem_cons_of_mem visit hother)) hnext

theorem exec_bridgeCall (slot : Slot) (request : Request) (desk : Desk) :
    exec (bridgeCall render refuse lost slot request) desk =
      exec (call lost slot.fate (sendRequest render refuse request slot.arrival))
        { desk with bridge := serveAll render slot.others desk.bridge } := by
  rw [bridgeCall, exec_bind, exec_transaction]

theorem bridgeCall_alone {slot : Slot} (halone : slot.others = []) (request : Request)
    (desk : Desk) :
    (exec (bridgeCall render refuse lost slot request) desk).2 =
      if slot.fate.arrives then desk.served render request slot.arrival else desk := by
  rw [exec_bridgeCall, halone, exec_call_state]
  rfl

theorem keeps_bridgeCall {slot : Slot} {request : Request} (hothers : slot.Harmless render P)
    (hrequest : Harmless render P request) :
    Keeps P (bridgeCall render refuse lost slot request) := by
  intro desk hdesk
  rw [exec_bridgeCall]
  have hbefore := served_others hothers hdesk
  apply keeps_call lost slot.fate _ _ hbefore
  intro middle hmiddle
  exact hrequest slot.arrival middle hmiddle

theorem keeps_callAll {calls : List (Slot × Request)}
    (hothers : ∀ next ∈ calls, next.1.Harmless render P)
    (hrequests : ∀ next ∈ calls, Harmless render P next.2) :
    Keeps P (callAll render refuse lost calls) := by
  apply keeps_forM
  intro next hnext
  apply keeps_bind (keeps_bridgeCall (hothers next hnext) (hrequests next hnext))
  intro answer desk hdesk
  exact hdesk

def SyncPlan.slots (plan : SyncPlan) : List Slot := plan.listings.map (·.2) ++ [plan.sync]

theorem keeps_closeSync {config : AgentConfig} {fault : Option String} {slot : Slot}
    {threadIds : List String} (hothers : slot.Harmless render P)
    (hsync : Harmless render P (.agentSync config.machineId threadIds))
    (hboot : ∀ desk, P desk → P { desk with hasBootstrapped := true }) :
    Keeps P (closeSync render refuse lost config fault slot threadIds) := by
  apply keeps_bind (keeps_query P _)
  intro _
  apply keeps_bind (keeps_bridgeCall hothers hsync)
  intro _
  apply keeps_transaction
  intro desk value after hdesk hafter
  cases hafter
  exact hboot desk hdesk

theorem keeps_performSync {config : AgentConfig} {plan : SyncPlan}
    (hothers : ∀ slot ∈ plan.slots, slot.Harmless render P)
    (hlist : ∀ threadId, Harmless render P
      (.call (.listThreadCommands config.machineId threadId config.pendingCommandSyncLimit false)))
    (hsync : ∀ threadIds, Harmless render P (.agentSync config.machineId threadIds))
    (hboot : ∀ desk, P desk → P { desk with hasBootstrapped := true }) :
    Keeps P (performSync render refuse lost config plan) := by
  apply keeps_bind
  · apply keeps_forM
    intro listing hlisting
    apply keeps_attempt
    apply keeps_bridgeCall _ (hlist listing.1)
    apply hothers
    exact List.mem_append_left _ (List.mem_map.mpr ⟨listing, hlisting, rfl⟩)
  · intro _
    apply keeps_closeSync _ (hsync _) hboot
    apply hothers
    exact List.mem_append_right _ List.mem_cons_self

/-! ## One errand -/

def Errand.slots (errand : Errand) : List Slot :=
  [errand.claim, errand.started, errand.evidence, errand.executing, errand.completedTask,
    errand.report, errand.failedTask, errand.failedReport] ++ errand.sync.slots ++
      errand.resync.slots

theorem mem_slots_sync {errand : Errand} {slot : Slot} (hslot : slot ∈ errand.sync.slots) :
    slot ∈ errand.slots :=
  List.mem_append_left _ (List.mem_append_right _ hslot)

theorem mem_slots_resync {errand : Errand} {slot : Slot} (hslot : slot ∈ errand.resync.slots) :
    slot ∈ errand.slots :=
  List.mem_append_right _ hslot

theorem announceStart_slot {config : AgentConfig} {errand : Errand} {row : Command Address}
    {next : Slot × Request} (hnext : next ∈ announceStart config errand row) :
    next.1 ∈ errand.slots ∧ next.2.ofTask := by
  obtain ⟨task, _, rfl⟩ := List.mem_map.mp hnext
  exact ⟨by simp [Errand.slots], rfl⟩

theorem mem_followUps {config : AgentConfig} {errand : Errand} {row : Command Address}
    {commandId : Id} {done : Done} {next : Slot × Request}
    (hnext : next ∈ followUps config errand row commandId done) :
    next.1 ∈ errand.slots ∧
      ((∃ task payload, next.2 = .agentAddEvidence task payload) ∨
        (∃ task beat, next.2 = .agentHeartbeatTask task beat) ∨
          ∃ task summary, next.2 = .agentCompleteTask task config.machineId summary) := by
  unfold followUps at hnext
  split at hnext
  · cases hnext
  · split at hnext
    · simp only [List.mem_cons, List.not_mem_nil, or_false] at hnext
      rcases hnext with rfl | rfl
      · exact ⟨by simp [Errand.slots], Or.inl ⟨_, _, rfl⟩⟩
      · exact ⟨by simp [Errand.slots], Or.inr (Or.inl ⟨_, _, rfl⟩)⟩
    · split at hnext
      · simp only [List.mem_cons, List.not_mem_nil, or_false] at hnext
        rcases hnext with rfl | rfl | rfl
        · exact ⟨by simp [Errand.slots], Or.inl ⟨_, _, rfl⟩⟩
        · exact ⟨by simp [Errand.slots], Or.inr (Or.inl ⟨_, _, rfl⟩)⟩
        · exact ⟨by simp [Errand.slots], Or.inr (Or.inr ⟨_, _, rfl⟩)⟩
      · cases hnext

theorem keeps_workOnMachine {errand : Errand} {row : Command Address} {commandId : Id}
    (hwork : ∀ desk (effects : List LocalEffect), P desk →
      P { desk with effects := desk.effects ++ effects.map fun effect => (commandId, effect) }) :
    Keeps P (workOnMachine errand row commandId) := by
  apply keeps_transaction
  intro desk value after hdesk hafter
  obtain ⟨done, _, hpair⟩ := map_eq_ok.1 hafter
  cases hpair
  exact hwork desk _ hdesk

/-- The property is kept by what an errand does before its handler. -/
structure Endures (render : Json → String) (P : Desk → Prop) (config : AgentConfig)
    (commandId : Id) : Prop where
  beats : ∀ task beat, Harmless render P (.agentHeartbeatTask task beat)
  evidence : ∀ task payload, Harmless render P (.agentAddEvidence task payload)
  completes : ∀ task summary, Harmless render P (.agentCompleteTask task config.machineId summary)
  reports : ∀ done, Harmless render P
    (.call (.recordCommandResult (completedReport config commandId done)))
  lists : ∀ threadId, Harmless render P
    (.call (.listThreadCommands config.machineId threadId config.pendingCommandSyncLimit false))
  syncs : ∀ threadIds, Harmless render P (.agentSync config.machineId threadIds)
  boots : ∀ desk, P desk → P { desk with hasBootstrapped := true }

section Errands

variable {config : AgentConfig} {errand : Errand} {row : Command Address} {commandId : Id}

theorem Endures.performSync (hendures : Endures render P config commandId) {plan : SyncPlan}
    (hothers : ∀ slot ∈ plan.slots, slot.Harmless render P) :
    Keeps P (performSync render refuse lost config plan) :=
  keeps_performSync hothers hendures.lists hendures.syncs hendures.boots

theorem Endures.announceStart (hendures : Endures render P config commandId)
    (hothers : ∀ slot ∈ errand.slots, slot.Harmless render P) :
    Keeps P (callAll render refuse lost (announceStart config errand row)) := by
  apply keeps_callAll
  · intro next hnext
    exact hothers _ (announceStart_slot hnext).1
  · intro next hnext
    obtain ⟨task, _, rfl⟩ := List.mem_map.mp hnext
    exact hendures.beats task _

theorem Endures.concludeCommand (hendures : Endures render P config commandId)
    (hothers : ∀ slot ∈ errand.slots, slot.Harmless render P) (done : Done) :
    Keeps P (concludeCommand render refuse lost config errand row commandId done) := by
  apply keeps_bind
  · apply keeps_callAll
    · intro next hnext
      exact hothers _ (mem_followUps hnext).1
    · intro next hnext
      rcases (mem_followUps hnext).2 with ⟨task, payload, hnext⟩ | ⟨task, beat, hnext⟩ |
        ⟨task, summary, hnext⟩
      · rw [hnext]
        exact hendures.evidence task payload
      · rw [hnext]
        exact hendures.beats task beat
      · rw [hnext]
        exact hendures.completes task summary
  · intro _
    apply keeps_bind
    · have hslot : errand.report ∈ errand.slots := by simp [Errand.slots]
      exact keeps_bridgeCall (hothers _ hslot) (hendures.reports done)
    · intro _
      exact hendures.performSync fun slot hslot => hothers slot (mem_slots_sync hslot)

theorem Endures.attemptCommand (hendures : Endures render P config commandId)
    (hothers : ∀ slot ∈ errand.slots, slot.Harmless render P)
    (hworks : ∀ desk (effects : List LocalEffect), P desk →
      P { desk with effects := desk.effects ++ effects.map fun effect => (commandId, effect) }) :
    Keeps P (attemptCommand render refuse lost config errand row commandId) := by
  apply keeps_bind (hendures.announceStart hothers)
  intro _
  apply keeps_bind (keeps_workOnMachine hworks)
  exact hendures.concludeCommand hothers

theorem Endures.reportFailure (hendures : Endures render P config commandId)
    (hothers : ∀ slot ∈ errand.slots, slot.Harmless render P)
    (hfails : ∀ task text, Harmless render P (.agentFailTask task config.machineId text))
    (hreports : ∀ text, Harmless render P
      (.call (.recordCommandResult (failedReport config commandId text)))) (raised : String) :
    Keeps P (reportFailure render refuse lost config errand row commandId raised) := by
  apply keeps_bind
  · apply keeps_forM
    intro task _
    have hslot : errand.failedTask ∈ errand.slots := by simp [Errand.slots]
    exact keeps_attempt (keeps_bridgeCall (hothers _ hslot) (hfails task _))
  · intro _
    apply keeps_bind
    · have hslot : errand.failedReport ∈ errand.slots := by simp [Errand.slots]
      exact keeps_attempt (keeps_bridgeCall (hothers _ hslot) (hreports _))
    · intro _
      apply keeps_attempt
      exact hendures.performSync fun slot hslot => hothers slot (mem_slots_resync hslot)

theorem exec_carryOut (desk : Desk) :
    exec (carryOut render refuse lost config errand row commandId) desk =
      match exec (attemptCommand render refuse lost config errand row commandId) desk with
      | (.ok _, after) => (.ok true, after)
      | (.error raised, after) => (.error raised,
          (exec (reportFailure render refuse lost config errand row commandId raised) after).2) :=
  rfl

/-- The property is kept by everything the agent does, and by everybody else. -/
structure Tolerates (render : Json → String) (P : Desk → Prop) : Prop where
  requests : ∀ request, Harmless render P request
  boots : ∀ desk, P desk → P { desk with hasBootstrapped := true }
  works : ∀ commandId desk (effects : List LocalEffect), P desk →
    P { desk with effects := desk.effects ++ effects.map fun effect => (commandId, effect) }

theorem Tolerates.endures (htolerates : Tolerates render P) (config : AgentConfig)
    (commandId : Id) : Endures render P config commandId where
  beats _ _ := htolerates.requests _
  evidence _ _ := htolerates.requests _
  completes _ _ := htolerates.requests _
  reports _ := htolerates.requests _
  lists _ := htolerates.requests _
  syncs _ := htolerates.requests _
  boots := htolerates.boots

theorem Tolerates.slot (htolerates : Tolerates render P) (slot : Slot) :
    slot.Harmless render P :=
  fun _ _ => htolerates.requests _

theorem Tolerates.bridgeCall (htolerates : Tolerates render P) (slot : Slot) (request : Request) :
    Keeps P (bridgeCall render refuse lost slot request) :=
  keeps_bridgeCall (htolerates.slot slot) (htolerates.requests request)

theorem Tolerates.carryOut (htolerates : Tolerates render P) :
    Keeps P (carryOut render refuse lost config errand row commandId) := by
  intro desk hdesk
  have hendures := htolerates.endures config commandId
  have hothers : ∀ slot ∈ errand.slots, slot.Harmless render P := fun slot _ => htolerates.slot slot
  have hattempt : Keeps P (attemptCommand render refuse lost config errand row commandId) :=
    hendures.attemptCommand hothers (htolerates.works commandId)
  have hafter := hattempt desk hdesk
  rw [exec_carryOut]
  rcases hresult : exec (RemoteCodex.attemptCommand render refuse lost config errand row commandId)
      desk with ⟨outcome, after⟩
  rw [hresult] at hafter
  cases outcome with
  | ok => exact hafter
  | error raised =>
      exact hendures.reportFailure hothers (fun _ _ => htolerates.requests _)
        (fun _ => htolerates.requests _) raised after hafter

theorem Tolerates.afterClaim (htolerates : Tolerates render P) (desk : Desk)
    (hclaimed : P (exec (RemoteCodex.bridgeCall render refuse lost errand.claim
      (.call (.claimNextCommand config.machineId config.workerId errand.drawn))) desk).2) :
    P (exec (executeNextCommand render refuse lost config errand) desk).2 := by
  rw [executeNextCommand, exec_bind]
  rcases hresult : exec (RemoteCodex.bridgeCall render refuse lost errand.claim
      (.call (.claimNextCommand config.machineId config.workerId errand.drawn))) desk with
    ⟨outcome, claimed⟩
  rw [hresult] at hclaimed
  cases outcome with
  | error => exact hclaimed
  | ok =>
      dsimp only
      split
      · exact htolerates.carryOut claimed hclaimed
      · exact hclaimed

theorem Tolerates.executeNextCommand (htolerates : Tolerates render P) :
    Keeps P (executeNextCommand render refuse lost config errand) := by
  intro desk hdesk
  exact htolerates.afterClaim desk (htolerates.bridgeCall _ _ desk hdesk)

end Errands

end Agent

/-! ## Commands that were carried out -/

/-- Only a command that has begun has left an effect or a completed report on record. -/
structure Desk.Fresh (desk : Desk) : Prop where
  recorded : ∀ id ∈ desk.bridge.recorded, Begun desk.bridge.service.commands id
  effects : ∀ id effect, (id, effect) ∈ desk.effects → Begun desk.bridge.service.commands id

structure Desk.Engaged (commandId : Id) (desk : Desk) : Prop where
  fresh : desk.Fresh
  begun : Begun desk.bridge.service.commands commandId

theorem fresh_empty : Desk.empty.Fresh where
  recorded _ hid := absurd hid List.not_mem_nil
  effects _ _ hid := absurd hid List.not_mem_nil

section Fresh

variable {render : Json → String} {refuse : ServiceError → String} {lost : String}
  {config : AgentConfig} {commandId : Id}

theorem begun_of_recordedBy {service : Service} {request : Request} {clock : Clock} {id : Id}
    (hid : id ∈ recordedBy render service request clock) :
    Begun (respond render service request clock).1.commands id := by
  unfold recordedBy at hid
  split at hid
  · rename_i report
    split at hid
    · rename_i hboth
      obtain rfl := List.mem_singleton.mp hid
      simp only [respond, perform, recordCommandResult_commands]
      cases hget : service.commands.get report.commandId with
      | none =>
          obtain ⟨raised, hraised⟩ := recordCommand_of_none render clock hget
          have hwritten := hboth.2
          rw [writtenBy, hraised] at hwritten
          cases hwritten
      | some row =>
          obtain ⟨after, hok, _, hrows⟩ := recordCommand_of_some render clock hget
          rw [hok, committed_ok]
          refine ⟨reportedRow render report row (clock 0), ?_, ?_⟩
          · rw [hrows]
            exact Table.getElem?_update_self (CommandTable.get_eq_some.1 hget).2
          · rw [reportedRow_status, Report.commandStatus, if_pos hboth.1]
            exact CommandStatus.noConfusion
    · cases hid
  · cases hid

theorem harmless_fresh (request : Request) : Harmless render Desk.Fresh request := by
  intro arrival desk hfresh
  have hchange := @change_respond render desk.bridge.service request arrival.clock
  constructor
  · intro id hid
    rcases List.mem_append.mp hid with hold | hnew
    · exact (hfresh.recorded id hold).change hchange
    · exact begun_of_recordedBy hnew
  · intro id effect heffect
    exact (hfresh.effects id effect heffect).change hchange

theorem harmless_engaged (request : Request) :
    Harmless render (Desk.Engaged commandId) request := by
  intro arrival desk hengaged
  exact ⟨harmless_fresh request arrival desk hengaged.fresh,
    hengaged.begun.change (change_respond desk.bridge.service request arrival.clock)⟩

theorem endures_engaged : Endures render (Desk.Engaged commandId) config commandId where
  beats _ _ := harmless_engaged _
  evidence _ _ := harmless_engaged _
  completes _ _ := harmless_engaged _
  reports _ := harmless_engaged _
  lists _ := harmless_engaged _
  syncs _ := harmless_engaged _
  boots _ hengaged := ⟨⟨hengaged.fresh.recorded, hengaged.fresh.effects⟩, hengaged.begun⟩

theorem engaged_work (desk : Desk) (effects : List LocalEffect)
    (hengaged : desk.Engaged commandId) :
    Desk.Engaged commandId
      { desk with effects := desk.effects ++ effects.map fun effect => (commandId, effect) } := by
  refine ⟨⟨hengaged.fresh.recorded, ?_⟩, hengaged.begun⟩
  intro id effect heffect
  rcases List.mem_append.mp heffect with hold | hnew
  · exact hengaged.fresh.effects id effect hold
  · obtain ⟨_, _, hpair⟩ := List.mem_map.mp hnew
    cases hpair
    exact hengaged.begun

theorem keeps_carryOut (errand : Errand) (row : Command Address) :
    Keeps (Desk.Engaged commandId)
      (carryOut render refuse lost config errand row commandId) := by
  intro desk hengaged
  have hothers : ∀ slot ∈ errand.slots, slot.Harmless render (Desk.Engaged commandId) :=
    fun _ _ _ _ => harmless_engaged _
  have hattempt : Keeps (Desk.Engaged commandId)
      (attemptCommand render refuse lost config errand row commandId) :=
    endures_engaged.attemptCommand hothers engaged_work
  have hafter := hattempt desk hengaged
  rw [exec_carryOut]
  rcases hresult : exec (attemptCommand render refuse lost config errand row commandId) desk with
    ⟨outcome, after⟩
  rw [hresult] at hafter
  cases outcome with
  | ok => exact hafter
  | error raised =>
      have hfailure : Keeps (Desk.Engaged commandId)
          (reportFailure render refuse lost config errand row commandId raised) :=
        endures_engaged.reportFailure hothers (fun _ _ => harmless_engaged _)
          (fun _ => harmless_engaged _) raised
      exact hfailure after hafter

theorem handedOut_of_claimed {slot : Slot} {machineId workerId drawn : String} {desk claimed : Desk}
    {row : Command Address}
    (hclaimed : exec (bridgeCall render refuse lost slot
      (.call (.claimNextCommand machineId workerId drawn))) desk =
        (.ok (.claimed (some (row, commandId))), claimed)) :
    HandedOut (serveAll render slot.others desk.bridge).service claimed.bridge.service machineId
      workerId slot.arrival.clock row commandId := by
  rw [exec_bridgeCall] at hclaimed
  obtain ⟨_, hserved⟩ := exec_call_ok.1 hclaimed
  simp only [sendRequest, Prod.mk.injEq, mapError_eq_ok] at hserved
  obtain ⟨rfl, hanswer⟩ := hserved
  exact handedOut_of_claimNext hanswer

/-- The invariant of a desk: one errand keeps it. -/
theorem keeps_executeNextCommand (errand : Errand) :
    Keeps Desk.Fresh (executeNextCommand render refuse lost config errand) := by
  intro desk hfresh
  have hclaim : Keeps Desk.Fresh (bridgeCall render refuse lost errand.claim
      (.call (.claimNextCommand config.machineId config.workerId errand.drawn))) :=
    keeps_bridgeCall (fun _ _ => harmless_fresh _) (harmless_fresh _)
  have hafter := hclaim desk hfresh
  rw [executeNextCommand, exec_bind]
  rcases hresult : exec (bridgeCall render refuse lost errand.claim
      (.call (.claimNextCommand config.machineId config.workerId errand.drawn))) desk with
    ⟨outcome, claimed⟩
  rw [hresult] at hafter
  cases outcome with
  | error => exact hafter
  | ok answer =>
      dsimp only
      split
      · rename_i row commandId
        have hruns := (handedOut_of_claimed hresult).runs
        have hbegun : Begun claimed.bridge.service.commands commandId := by
          obtain ⟨waiting, _, hrow⟩ := (handedOut_of_claimed hresult).waited
          refine ⟨row, (CommandTable.get_eq_some.1 hruns).2, ?_⟩
          rw [hrow]
          exact CommandStatus.noConfusion
        exact (keeps_carryOut errand row claimed ⟨hafter, hbegun⟩).fresh
      · exact hafter

theorem fresh_turn (desk : Desk) (turn : Turn) (hfresh : desk.Fresh) :
    (desk.turn render refuse lost config turn).Fresh := by
  cases turn with
  | visits => exact served_others (fun _ _ => harmless_fresh _) hfresh
  | errand errand => exact keeps_executeNextCommand errand desk hfresh

/-- The run lemma: the desk is fresh after every history. -/
theorem fresh_run (history : List Turn) :
    (Run.run (Desk.turn render refuse lost config) .empty history).Fresh := by
  have hall : Run.Throughout (Desk.turn render refuse lost config) Desk.Fresh .empty history := by
    apply Run.throughout_of_preserved fresh_empty
    intro done turn _ hhere
    exact fresh_turn _ turn hhere
  exact hall history List.prefix_rfl

end Fresh

/-! ## An errand on which every call goes through -/

def soloAgent : AgentConfig := ⟨"m", "w", 20⟩

def soloSlot (fate : Fate) (at_ : Time) : Slot := ⟨[], fate, ⟨fun _ => at_, at_⟩⟩

def willingRuntime : LocalRuntime where
  hasAttachments := false
  buildTurnInput := .ok ⟨⟩
  submitPromptViaDesktopUi := .ok (some "desktop-ipc")
  materializePrompt := .ok ⟨⟩
  startTurn := .ok (none, none)
  interruptTurn := .ok ⟨⟩
  deleteThread := .ok true
  createThread := .ok none
  listDirectory := .ok []
  makeDirectory := .ok []

def smoothErrand : Errand where
  claim := soloSlot .delivered 2
  drawn := "l"
  started := soloSlot .delivered 3
  runtime := willingRuntime
  evidence := soloSlot .delivered 4
  executing := soloSlot .delivered 5
  completedTask := soloSlot .delivered 6
  report := soloSlot .delivered 7
  sync := ⟨[], none, soloSlot .delivered 8⟩
  failedTask := soloSlot .delivered 9
  failedReport := soloSlot .delivered 10
  resync := ⟨[], none, soloSlot .delivered 11⟩

end OpsCure.RemoteCodex
