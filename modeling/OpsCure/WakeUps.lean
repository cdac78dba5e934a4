/-
Is a runner that waits on its stream ever left with work?  Commands are announced to the machine's
space and tasks to the thread's; a subscription replays nothing, and a cycle that is cut off leaves
what it has not looked at.
-/
import OpsCure.RunnerLoop

namespace OpsCure.RemoteCodex

open Session Lossy RemoteCommand Table Run

/-! ## What is to hold -/

/-- Every frame published to the subscription has been taken from it. -/
def Desk.Quiet (desk : Desk) : Prop :=
  ∃ listener, desk.bridge.listener = some listener ∧ listener.queue = []

/-- The runner waits for a frame, and none is on its way. -/
def Runner.Blocked (s : Runner) : Prop := s.phase = .listening ∧ s.desk.Quiet

/-- The runner's claims would find nothing. -/
structure NoWork (config : RunnerConfig) (service : Service) : Prop where
  commands : nextQueued service.commands.queue config.agent.machineId = none
  tasks : claimable config service = none

def NotLeftWaiting (config : RunnerConfig) (s : Runner) : Prop :=
  s.Blocked → NoWork config s.desk.bridge.service

/-! ## When it holds -/

def CreatesClaimable (config : RunnerConfig) (request : Request) : Prop :=
  ∃ payload, request = .call (.task (.createTask payload)) ∧
    payload.machineId = config.agent.machineId ∧
    payload.originSurface ∉ RemoteTask.excludedOriginSurfaces config.claim

/-- The call comes to nothing on the bridge. -/
def SyncCall.Silent (call : SyncCall) : Prop :=
  call.fault.isSome ∨ call.contact.fate.arrives = false

def ClaimCutOff (config : RunnerConfig) (s : Runner) (claim : Contact) : Prop :=
  claim.fate = .lostBefore ∨ (claim.fate = .lostAfter ∧
    nextQueued s.desk.bridge.service.commands.queue config.agent.machineId = none)

/-- The windows: a task that nobody announces to the machine, the subscription itself, a last frame
that does not wake, and a cycle cut off before anything was published. -/
def Meets (config : RunnerConfig) (s : Runner) : Event → Prop
  | .visit request _ => s.Blocked → ¬ CreatesClaimable config request
  | .connect => s.phase = .connecting → NoWork config s.desk.bridge.service
  | .frame => s.phase = .listening → ∀ listener, s.desk.bridge.listener = some listener →
      listener.read.2 = false → listener.read.1.queue = [] → NoWork config s.desk.bridge.service
  | .sync call => s.phase = .bootstrapping ∨ s.phase = .idling → s.desk.Quiet → call.Silent →
      NoWork config s.desk.bridge.service
  | .errand claim _ => (∃ processed, s.phase = .polling processed) → s.desk.Quiet →
      ClaimCutOff config s claim → NoWork config s.desk.bridge.service
  | _ => True

/-! ## What reaches the subscription -/

section Stream

variable {render : Json → String} {refuse : ServiceError → String} {lost : String}

theorem foldl_offer (items : List Envelope) (listener : Listener) :
    items.foldl Listener.offer listener = { listener with
      queue := listener.queue ++ items.filter fun item => item.spaceId = listener.spaceId } := by
  induction items generalizing listener with
  | nil => simp
  | cons item items ih =>
      rw [List.foldl_cons, ih]
      by_cases hspace : item.spaceId = listener.spaceId
      · simp [Listener.offer, hspace]
      · simp [Listener.offer, hspace]

theorem served_listener (desk : Desk) (request : Request) (arrival : Arrival) :
    (desk.served render request arrival).bridge.listener =
      desk.bridge.listener.map fun listener =>
        (envelopes render desk.bridge.service request arrival).foldl Listener.offer listener := by
  simp only [Desk.served, serve]

theorem quiet_served_iff {desk : Desk} {request : Request} {arrival : Arrival} {listener : Listener}
    (hlistener : desk.bridge.listener = some listener) :
    (desk.served render request arrival).Quiet ↔ listener.queue = [] ∧
      ∀ item ∈ envelopes render desk.bridge.service request arrival,
        item.spaceId ≠ listener.spaceId := by
  unfold Desk.Quiet
  rw [served_listener, hlistener]
  simp [foldl_offer]

def Tuned (config : RunnerConfig) (desk : Desk) : Prop :=
  ∀ listener, desk.bridge.listener = some listener →
    listener.spaceId = remoteCodexMachineSpaceId config.agent.machineId

theorem tolerates_tuned (config : RunnerConfig) : Tolerates render (Tuned config) where
  requests request arrival desk htuned := by
    intro listener hlistener
    rw [served_listener] at hlistener
    obtain ⟨before, hbefore, rfl⟩ := Option.map_eq_some_iff.mp hlistener
    rw [foldl_offer]
    exact htuned before hbefore
  boots _ htuned := htuned
  works _ _ _ htuned := htuned

theorem tolerates_not_quiet : Tolerates render fun desk => ¬ desk.Quiet where
  requests request arrival desk hwaits := by
    rintro ⟨listener, hlistener, hqueue⟩
    rw [served_listener] at hlistener
    obtain ⟨before, hbefore, rfl⟩ := Option.map_eq_some_iff.mp hlistener
    rw [foldl_offer, List.append_eq_nil_iff] at hqueue
    exact hwaits ⟨before, hbefore, hqueue.1⟩
  boots _ hwaits := hwaits
  works _ _ _ hwaits := hwaits

end Stream

/-! ## Where work comes from -/

section Work

variable {render : Json → String} {service : Service} {config : RunnerConfig}

variable {machineId : String}

theorem nextQueued_eq_none_iff {queue : Queue Address} :
    nextQueued queue machineId = none ↔ ∀ (id : Id) (row : Command Address),
      queue.commands[id]? = some row → ¬ (row.machineId = machineId ∧ row.status = .queued) := by
  rw [nextQueued, firstBy_eq_none_iff]
  simp

theorem noWork_congr {after : Service} (hqueue : after.commands.queue = service.commands.queue)
    (htasks : after.tasks = service.tasks) : NoWork config after ↔ NoWork config service := by
  have hclaims : claimable config after = claimable config service := by
    rw [claimable, claimable, htasks]
  constructor
  · intro hnone
    refine ⟨?_, ?_⟩
    · rw [← hqueue]
      exact hnone.commands
    · rw [← hclaims]
      exact hnone.tasks
  · intro hnone
    refine ⟨?_, ?_⟩
    · rw [hqueue]
      exact hnone.commands
    · rw [hclaims]
      exact hnone.tasks

theorem claimable_eq_none_iff : claimable config service = none ↔
    ∀ (task : Id) (row : RemoteTask.Task), service.tasks.tasks[task]? = some row →
      ¬ (row.machineId = config.agent.machineId ∧ row.status = .queued ∧
        row.originSurface ∉ RemoteTask.excludedOriginSurfaces config.claim) := by
  rw [claimable, Option.map_eq_none_iff, RemoteTask.nextQueuedTask, firstBy_eq_none_iff]
  simp

theorem RowChange.noneQueued {table after : CommandTable} (hchange : RowChange table after)
    (hnone : nextQueued table.queue machineId = none) :
    nextQueued after.queue machineId = none := by
  rw [nextQueued_eq_none_iff] at hnone ⊢
  have hwritten : ∀ (other : Id) (written : Command Address), written.status ≠ .queued →
      after.queue.commands = update table.queue.commands other written →
        ∀ (id : Id) (row : Command Address), after.queue.commands[id]? = some row →
          ¬ (row.machineId = machineId ∧ row.status = .queued) := by
    intro other written hnew hrows id row hrow
    rw [hrows] at hrow
    rcases getElem?_update_eq_some hrow with ⟨_, rfl⟩ | hold
    · exact fun hboth => hnew hboth.2
    · exact hnone id row hold
  cases hchange with
  | kept hqueue =>
      rw [hqueue]
      exact hnone
  | handed other old claimed _ _ hclaimed hrows =>
      apply hwritten other claimed _ hrows
      rw [hclaimed]
      exact CommandStatus.noConfusion
  | settled other old written _ hended hrows =>
      apply hwritten other written _ hrows
      rcases hended with hended | hended
      · rw [hended]
        exact CommandStatus.noConfusion
      · rw [hended]
        exact CommandStatus.noConfusion

theorem announced_of_queued {request : Request} {arrival : Arrival}
    (hnone : nextQueued service.commands.queue machineId = none)
    (hsome : nextQueued (respond render service request arrival.clock).1.commands.queue machineId ≠
      none) :
    ∃ item ∈ envelopes render service request arrival,
      item.spaceId = remoteCodexMachineSpaceId machineId := by
  by_cases henqueues : ∃ operation, request = .call operation ∧ operation.enqueues = true
  · obtain ⟨operation, rfl, henqueues⟩ := henqueues
    rcases enqueues_perform henqueues arrival.clock with hqueue | ⟨row, hannounced⟩
    · rw [respond, hqueue] at hsome
      exact absurd hnone hsome
    · have hmachine : row.machineId = machineId := by
        by_contra hother
        apply hsome
        rw [nextQueued_eq_none_iff] at hnone ⊢
        intro id found hfound
        rw [respond, hannounced.rows] at hfound
        rcases getElem?_concat_eq_some hfound with hold | ⟨_, rfl⟩
        · exact hnone id found hold
        · exact fun hboth => hother hboth.1
      rw [← hmachine]
      exact envelopes_of_announced henqueues hannounced
  · have hchange := @rowChange_respond render service request (by
      intro operation hcall
      cases hsame : operation.enqueues with
      | false => rfl
      | true => exact absurd ⟨operation, hcall, hsame⟩ henqueues) arrival.clock
    exact absurd (hchange.noneQueued hnone) hsome

theorem created_of_claimable {request : Request} {clock : Clock}
    (hnone : claimable config service = none)
    (hsome : claimable config (respond render service request clock).1 ≠ none) :
    CreatesClaimable config request := by
  by_contra hother
  apply hsome
  rw [claimable_eq_none_iff] at hnone ⊢
  rintro task row hrow ⟨hmachine, hqueued, horigin⟩
  rcases queuedBy_respond service request clock task row hrow hqueued with
    ⟨old, hold, hwas, hmachine', horigin'⟩ | hbrowser | ⟨payload, hrequest, hmachine', horigin'⟩
  · rw [hmachine'] at hmachine
    rw [horigin'] at horigin
    exact hnone task old hold ⟨hmachine, hwas, horigin⟩
  · have hexcluded : "browser" ∈ RemoteTask.excludedOriginSurfaces config.claim := by
      have hword : Text.lower (Text.strip "browser") = "browser" := by decide
      simp [RemoteTask.excludedOriginSurfaces, RunnerConfig.claim, hword]
    rw [hbrowser] at horigin
    exact horigin hexcluded
  · rw [hmachine'] at hmachine
    rw [horigin'] at horigin
    exact hother ⟨payload, hrequest, hmachine, horigin⟩

theorem claimable_of_created {request : Request} {arrival : Arrival}
    (hcreates : CreatesClaimable config request) :
    claimable config (respond render service request arrival.clock).1 ≠ none ∧
      ∀ item ∈ envelopes render service request arrival,
        item.spaceId ≠ remoteCodexMachineSpaceId config.agent.machineId := by
  obtain ⟨payload, rfl, hmachine, horigin⟩ := hcreates
  constructor
  · intro hnone
    rw [claimable_eq_none_iff] at hnone
    refine hnone service.tasks.tasks.length _ List.getElem?_concat_length ⟨hmachine, rfl, horigin⟩
  · intro item hitem
    have hpublished : published render service (.call (.task (.createTask payload)))
        arrival.clock = publishTask
          (respond render service (.call (.task (.createTask payload))) arrival.clock).1.tasks
          service.tasks.tasks.length := rfl
    simp only [envelopes, hpublished, publishTask, List.mem_filterMap] at hitem
    obtain ⟨publication, hpublication, hmirrored⟩ := hitem
    obtain ⟨row, _, rfl⟩ := List.mem_map.mp hpublication
    rw [mirror_task hmirrored]
    exact threadSpace_ne_machineSpace _ _

end Work

/-! ## What a call of the runner publishes -/

section Calls

variable {render : Json → String} {refuse : ServiceError → String} {lost : String}
  {config : RunnerConfig} {desk : Desk}

variable {arrival : Arrival}

theorem not_quiet_of_published {request : Request} (htuned : Tuned config desk)
    (hpublished : ∃ item ∈ envelopes render desk.bridge.service request arrival,
      item.spaceId = remoteCodexMachineSpaceId config.agent.machineId) :
    ¬ (desk.served render request arrival).Quiet := by
  rintro hquiet
  cases hlistener : desk.bridge.listener with
  | none =>
      obtain ⟨listener, hsome, _⟩ := hquiet
      rw [served_listener, hlistener] at hsome
      cases hsome
  | some listener =>
      obtain ⟨item, hitem, hspace⟩ := hpublished
      apply ((quiet_served_iff hlistener).mp hquiet).2 item hitem
      rw [hspace, htuned listener hlistener]

theorem envelopes_sync (service : Service) (machineId : String) (threadIds : List String)
    (arrival : Arrival) :
    ∃ item ∈ envelopes render service (.agentSync machineId threadIds) arrival,
      item.spaceId = remoteCodexMachineSpaceId machineId := by
  have hpublished : published render service (.agentSync machineId threadIds) arrival.clock =
      [⟨machineId, "*", .machine machineId⟩] := rfl
  simp only [envelopes, hpublished, List.filterMap_cons, mirrorToKernelBroker]
  exact ⟨_, List.mem_cons_self, rfl⟩

theorem published_claim (render : Json → String) (service : Service)
    (machineId workerId drawn : String) (clock : Clock) :
    ∃ told : Command Address → List Publication,
      published render service (.call (.claimNextCommand machineId workerId drawn)) clock =
        match (service.commands.claimNextCommand render machineId workerId clock).2 with
        | some (row, commandId) => commandPublication row commandId :: told row
        | none => [] :=
  ⟨_, rfl⟩

theorem envelopes_claim {service : Service} {machineId workerId drawn : String}
    {row : Command Address} {commandId : Id}
    (hnext : nextQueued service.commands.queue machineId = some (row, commandId)) :
    ∃ item ∈ envelopes render service (.call (.claimNextCommand machineId workerId drawn)) arrival,
      item.spaceId = remoteCodexMachineSpaceId machineId := by
  obtain ⟨_, _, hclaimed, _⟩ := claimNextCommand_of_some render workerId arrival.clock hnext
  obtain ⟨_, hkeep⟩ := firstBy_selectWhere hnext
  have hmachine : row.machineId = machineId := (of_decide_eq_true hkeep).1
  let claimed := claimedRow row workerId (arrival.clock 0)
  obtain ⟨item, hitem, hspace⟩ := mirror_command claimed commandId arrival.stamp
  refine ⟨item, ?_, hspace.trans (congrArg remoteCodexMachineSpaceId hmachine)⟩
  obtain ⟨told, hpublished⟩ := published_claim render service machineId workerId drawn
    arrival.clock
  simp only [envelopes, hpublished, hclaimed, List.mem_filterMap]
  exact ⟨_, List.mem_cons_self, hitem⟩

theorem claim_of_none {service : Service} {machineId workerId drawn : String} {arrival : Arrival}
    (hnone : nextQueued service.commands.queue machineId = none) :
    let outcome := respond render service (.call (.claimNextCommand machineId workerId drawn))
      arrival.clock
    outcome.2 = .ok (.claimed none) ∧ outcome.1.commands.queue = service.commands.queue ∧
      outcome.1.tasks = service.tasks ∧
      envelopes render service (.call (.claimNextCommand machineId workerId drawn)) arrival = [] := by
  obtain ⟨hclaimed, hqueue⟩ := claimNextCommand_of_none render workerId arrival.clock hnone
  have hpublished : published render service
      (.call (.claimNextCommand machineId workerId drawn)) arrival.clock = [] := by
    obtain ⟨told, htold⟩ := published_claim render service machineId workerId drawn arrival.clock
    rw [htold, hclaimed]
  have hmirrored : envelopes render service (.call (.claimNextCommand machineId workerId drawn))
      arrival = [] := by
    rw [envelopes, hpublished]
    · rfl
    · rintro _ ⟨⟩
  simp only [respond, perform, claimNext, hclaimed, hqueue]
  exact ⟨trivial, trivial, trivial, hmirrored⟩

theorem syncAgent_silent {call : SyncCall} (hsilent : call.Silent) (desk : Desk) :
    ∃ raised, exec (syncAgent render refuse lost config call) desk = (.error raised, desk) := by
  unfold syncAgent closeSync
  rw [exec_bind, exec_query]
  cases hfault : call.fault with
  | some text => exact ⟨text, rfl⟩
  | none =>
      rcases hsilent with hfaulty | hlost
      · rw [hfault] at hfaulty
        cases hfaulty
      · cases hfate : call.contact.fate with
        | delivered | lostAfter =>
            rw [hfate] at hlost
            cases hlost
        | lostBefore =>
            dsimp only
            rw [exec_bind, exec_bridgeCall, exec_call, Contact.slot, hfate]
            exact ⟨lost, rfl⟩

theorem syncAgent_heard {call : SyncCall} (hheard : ¬ call.Silent) (desk : Desk) :
    (exec (syncAgent render refuse lost config call) desk).2.bridge =
      (desk.served render (.agentSync config.agent.machineId call.threadIds)
        call.contact.arrival).bridge := by
  unfold syncAgent closeSync
  rw [exec_bind, exec_query]
  cases hfault : call.fault with
  | some =>
      refine absurd (Or.inl ?_) hheard
      rw [hfault]
      rfl
  | none =>
      dsimp only
      rw [exec_bind, exec_bridgeCall, exec_call, Contact.slot]
      cases hfate : call.contact.fate with
      | lostBefore =>
          refine absurd (Or.inr ?_) hheard
          rw [hfate]
          rfl
      | lostAfter => rfl
      | delivered => rfl

theorem quiet_congr {after : Desk} (hbridge : after.bridge = desk.bridge) :
    after.Quiet ↔ desk.Quiet := by
  unfold Desk.Quiet
  rw [hbridge]

theorem syncAgent_not_quiet {call : SyncCall} (htuned : Tuned config desk)
    (hheard : ¬ call.Silent) :
    ¬ (exec (syncAgent render refuse lost config call) desk).2.Quiet := by
  rw [quiet_congr (syncAgent_heard hheard desk)]
  exact not_quiet_of_published htuned (envelopes_sync _ _ _ _)

theorem heard_of_ok {call : SyncCall} {after : Desk} {value : PUnit.{1}}
    (hok : exec (syncAgent render refuse lost config call) desk = (.ok value, after)) :
    ¬ call.Silent := by
  intro hsilent
  obtain ⟨raised, hraised⟩ := @syncAgent_silent render refuse lost config call hsilent desk
  rw [hok] at hraised
  cases hraised

theorem keeps_syncAgent {P : Desk → Prop} (htolerates : Tolerates render P) (call : SyncCall) :
    Keeps P (syncAgent render refuse lost config call) :=
  keeps_closeSync (htolerates.slot _) (htolerates.requests _) htolerates.boots

/-! ## Errands -/

section Errands

variable {claim : Contact} {errand : Errand}

theorem errand_not_quiet (htuned : Tuned config desk) (harrives : claim.fate.arrives)
    (hnext : nextQueued desk.bridge.service.commands.queue config.agent.machineId ≠ none) :
    ¬ (exec (executeNextCommand render refuse lost config.agent (promptErrand claim errand))
      desk).2.Quiet := by
  obtain ⟨⟨row, commandId⟩, hnext⟩ := Option.ne_none_iff_exists'.mp hnext
  apply tolerates_not_quiet.afterClaim
  rw [bridgeCall_alone rfl]
  simp only [promptErrand, Contact.slot, harrives, if_true]
  exact not_quiet_of_published htuned (envelopes_claim hnext)

theorem errand_lostBefore (hfate : claim.fate = .lostBefore) (desk : Desk) :
    exec (executeNextCommand render refuse lost config.agent (promptErrand claim errand)) desk =
      (.error lost, desk) := by
  rw [executeNextCommand, exec_bind, exec_bridgeCall, exec_call]
  simp only [promptErrand, Contact.slot, hfate]
  rfl

theorem errand_of_none
    (hnone : nextQueued desk.bridge.service.commands.queue config.agent.machineId = none)
    (harrives : claim.fate.arrives) :
    ∃ after, exec (executeNextCommand render refuse lost config.agent (promptErrand claim errand))
        desk = (if claim.fate = .delivered then .ok false else .error lost, after) ∧
      (after.Quiet ↔ desk.Quiet) ∧
      (NoWork config after.bridge.service ↔ NoWork config desk.bridge.service) := by
  have hspec := @claim_of_none render desk.bridge.service config.agent.machineId
    config.agent.workerId errand.drawn claim.arrival hnone
  obtain ⟨hanswer, hqueue, htasks, hpublished⟩ := hspec
  refine ⟨desk.served render (.call (.claimNextCommand config.agent.machineId
    config.agent.workerId errand.drawn)) claim.arrival, ?_, ?_, ?_⟩
  · rw [executeNextCommand, exec_bind, exec_bridgeCall, exec_call]
    simp only [promptErrand, Contact.slot]
    cases hfate : claim.fate with
    | lostBefore =>
        rw [hfate] at harrives
        cases harrives
    | lostAfter => rfl
    | delivered =>
        have hsent : sendRequest render refuse (.call (.claimNextCommand config.agent.machineId
            config.agent.workerId errand.drawn)) claim.arrival
              { desk with bridge := serveAll render [] desk.bridge } =
            (desk.served render (.call (.claimNextCommand config.agent.machineId
              config.agent.workerId errand.drawn)) claim.arrival, .ok (.claimed none)) := by
          apply Prod.ext
          · rfl
          · simp only [sendRequest, serve, serveAll, List.foldl_nil, hanswer]
            rfl
        dsimp only
        rw [hsent]
        rfl
  · unfold Desk.Quiet
    rw [served_listener, hpublished]
    simp
  · exact noWork_congr hqueue htasks

theorem errand_processed {after : Desk}
    (hok : exec (executeNextCommand render refuse lost config.agent (promptErrand claim errand))
      desk = (.ok true, after)) :
    claim.fate.arrives ∧
      nextQueued desk.bridge.service.commands.queue config.agent.machineId ≠ none := by
  have harrives : claim.fate.arrives := by
    cases hfate : claim.fate with
    | lostBefore =>
        rw [errand_lostBefore hfate] at hok
        cases hok
    | lostAfter | delivered => rfl
  refine ⟨harrives, ?_⟩
  intro hnone
  obtain ⟨other, hresult, _⟩ := @errand_of_none render refuse lost config desk claim errand hnone
    harrives
  rw [hok] at hresult
  split at hresult <;> cases hresult

end Errands

end Calls

/-! ## Steps -/

/-- A cycle that has published something, as far as its phase tells. -/
def Phase.late : Phase → Bool
  | .polling true | .claiming | .executing _ => true
  | _ => false

/-- The invariant of the runner: its listener listens to the machine, and a late cycle has left
something in the queue, if there is one. -/
structure Running (config : RunnerConfig) (s : Runner) : Prop where
  tuned : Tuned config s.desk
  waits : s.phase.late → ¬ s.desk.Quiet

theorem running_empty (config : RunnerConfig) : Running config .empty where
  tuned listener hlistener := by cases hlistener
  waits hlate := by cases hlate

section Steps

variable {render : Json → String} {refuse : ServiceError → String} {lost : String}
  {config : RunnerConfig} {s : Runner} {desk : Desk}

theorem running_rest (htuned : Tuned config desk) : Running config (.rest desk) where
  tuned := htuned
  waits hlate := by
    unfold Runner.rest at hlate
    dsimp only at hlate
    split at hlate <;> cases hlate

theorem running_cycle (htuned : Tuned config desk) : Running config (.cycle desk) where
  tuned := htuned
  waits hlate := by
    unfold Runner.cycle at hlate
    dsimp only at hlate
    split at hlate <;> cases hlate

theorem running_listen_none (phase : Phase) : Running config ⟨desk.listen none, phase⟩ where
  tuned listener hlistener := by cases hlistener
  waits _ hquiet := by
    obtain ⟨listener, hlistener, _⟩ := hquiet
    cases hlistener

theorem read_spaceId (listener : Listener) : listener.read.1.spaceId = listener.spaceId := by
  unfold Listener.read
  split
  · rfl
  · split <;> rfl

theorem running_after (hrunning : Running config s) (call : SyncCall) (next : Phase) :
    Running config
      (.after next (exec (syncAgent render refuse lost config call) s.desk)) := by
  have hkeeps : Keeps (Tuned config) (syncAgent render refuse lost config call) :=
    keeps_syncAgent (tolerates_tuned config) call
  have htuned := hkeeps s.desk hrunning.tuned
  rcases hresult : exec (syncAgent render refuse lost config call) s.desk with ⟨outcome, after⟩
  rw [hresult] at htuned
  cases outcome with
  | error => exact running_rest htuned
  | ok =>
      have hwaits := @syncAgent_not_quiet render refuse lost config s.desk call hrunning.tuned
        (heard_of_ok hresult)
      rw [hresult] at hwaits
      exact ⟨htuned, fun _ => hwaits⟩

variable {processed : Bool}

theorem running_errand (hrunning : Running config s) (hphase : s.phase = .polling processed)
    (claim : Contact) (errand : Errand) :
    Running config (s.step render refuse lost config (.errand claim errand)) := by
  have hkeeps : Keeps (Tuned config) (executeNextCommand render refuse lost config.agent
      (promptErrand claim errand)) := (tolerates_tuned config).executeNextCommand
  have hstays : Keeps (fun desk => ¬ desk.Quiet) (executeNextCommand render refuse lost config.agent
      (promptErrand claim errand)) := tolerates_not_quiet.executeNextCommand
  have htuned := hkeeps s.desk hrunning.tuned
  have hwaits := hstays s.desk
  rcases hresult : exec (executeNextCommand render refuse lost config.agent
    (promptErrand claim errand)) s.desk with ⟨outcome, after⟩
  rw [hresult] at htuned hwaits
  simp only [Runner.step, hphase, hresult]
  cases outcome with
  | error => exact running_rest htuned
  | ok more =>
      cases more with
      | false =>
          refine ⟨htuned, ?_⟩
          cases processed with
          | false => exact fun hlate => by cases hlate
          | true =>
              intro _
              apply hwaits
              apply hrunning.waits
              rw [hphase]
              rfl
      | true =>
          refine ⟨htuned, ?_⟩
          intro _
          obtain ⟨harrives, hnext⟩ := errand_processed hresult
          have hpublished := @errand_not_quiet render refuse lost config s.desk claim errand
            hrunning.tuned harrives hnext
          rw [hresult] at hpublished
          exact hpublished

/-- The invariant rule for one step. -/
theorem running_step (hrunning : Running config s) (event : Event) :
    Running config (s.step render refuse lost config event) := by
  cases event with
  | visit request arrival =>
      exact ⟨(tolerates_tuned config).requests request arrival s.desk hrunning.tuned,
        fun hlate => tolerates_not_quiet.requests request arrival s.desk (hrunning.waits hlate)⟩
  | begin =>
      simp only [Runner.step]
      split
      · exact running_cycle hrunning.tuned
      · exact hrunning
  | sync call =>
      simp only [Runner.step]
      split
      · exact running_after hrunning call _
      · exact running_after hrunning call _
      · apply running_rest
        exact keeps_syncAgent (tolerates_tuned config) call s.desk hrunning.tuned
      · exact hrunning
  | errand claim errand =>
      by_cases hphase : ∃ processed, s.phase = .polling processed
      · obtain ⟨processed, hphase⟩ := hphase
        exact running_errand hrunning hphase claim errand
      · simp only [Runner.step]
        split
        · rename_i processed hpolling
          exact absurd ⟨processed, hpolling⟩ hphase
        · exact hrunning
  | claimTask contact drawn =>
      have hkeeps : Keeps (Tuned config) (bridgeCall render refuse lost contact.slot (.call (.task
          (.claimNextTask config.agent.machineId config.claim drawn)))) :=
        (tolerates_tuned config).bridgeCall _ _
      have hstays : Keeps (fun desk => ¬ desk.Quiet) (bridgeCall render refuse lost contact.slot
          (.call (.task (.claimNextTask config.agent.machineId config.claim drawn)))) :=
        tolerates_not_quiet.bridgeCall _ _
      have htuned := hkeeps s.desk hrunning.tuned
      have hwaits := hstays s.desk
      simp only [Runner.step]
      split
      · rename_i hphase
        have hlate : ¬ s.desk.Quiet := by
          apply hrunning.waits
          rw [hphase]
          rfl
        split
        · rename_i after hresult
          rw [hresult] at htuned hwaits
          split
          · exact ⟨htuned, fun _ => hwaits hlate⟩
          · exact running_rest htuned
        · rename_i after hresult
          rw [hresult] at htuned
          exact running_rest htuned
      · exact hrunning
  | work operation slot =>
      have hkeeps : Keeps (Tuned config) (bridgeCall render refuse lost slot
          (.call (.task operation))) := (tolerates_tuned config).bridgeCall _ _
      have hstays : Keeps (fun desk => ¬ desk.Quiet) (bridgeCall render refuse lost slot
          (.call (.task operation))) := tolerates_not_quiet.bridgeCall _ _
      simp only [Runner.step]
      split
      · split
        · exact ⟨hkeeps s.desk hrunning.tuned, fun hlate => hstays s.desk (hrunning.waits hlate)⟩
        · exact hrunning
      · exact hrunning
  | connect =>
      simp only [Runner.step]
      split
      · refine ⟨?_, fun hlate => by cases hlate⟩
        intro listener hlistener
        cases hlistener
        rfl
      · exact hrunning
  | frame =>
      simp only [Runner.step]
      split
      · rename_i listener hphase hlistener
        have htuned : Tuned config (s.desk.listen (some listener.read.1)) := by
          intro found hfound
          obtain rfl := Option.some.inj hfound
          rw [read_spaceId]
          exact hrunning.tuned listener hlistener
        split
        · exact running_cycle htuned
        · exact ⟨htuned, fun hlate => by cases hlate⟩
      · exact hrunning
  | beat maintenance =>
      simp only [Runner.step]
      split
      · rename_i listener call hphase hlistener
        split
        · have hkeeps : Keeps (Tuned config) (syncAgent render refuse lost config call) :=
            keeps_syncAgent (tolerates_tuned config) call
          have htuned := hkeeps s.desk hrunning.tuned
          split
          · rename_i after hresult
            rw [hresult] at htuned
            exact ⟨htuned, fun hlate => by cases hlate⟩
          · exact running_listen_none _
        · exact hrunning
      · exact hrunning
  | drop =>
      simp only [Runner.step]
      split
      · exact running_listen_none _
      · exact running_listen_none _
      · exact hrunning

theorem waiting_rest_iff (desk : Desk) : NotLeftWaiting config (.rest desk) ↔
    (desk.Quiet → NoWork config desk.bridge.service) := by
  unfold NotLeftWaiting Runner.Blocked Runner.rest
  dsimp only
  constructor
  · intro hnot hquiet
    obtain ⟨listener, hlistener, _⟩ := id hquiet
    refine hnot ⟨?_, hquiet⟩
    rw [hlistener]
    rfl
  · intro hnot hblocked
    exact hnot hblocked.2

theorem waiting_of_phase (hphase : s.phase ≠ .listening) : NotLeftWaiting config s :=
  fun hblocked => absurd hblocked.1 hphase

theorem waiting_of_not_quiet (hwaits : ¬ s.desk.Quiet) : NotLeftWaiting config s :=
  fun hblocked => absurd hblocked.2 hwaits

theorem cycle_not_listening (desk : Desk) : (Runner.cycle desk).phase ≠ .listening := by
  unfold Runner.cycle
  dsimp only
  split <;> exact Phase.noConfusion

theorem waiting_visit_iff (hrunning : Running config s) (hhere : NotLeftWaiting config s)
    (request : Request) (arrival : Arrival) :
    NotLeftWaiting config (s.step render refuse lost config (.visit request arrival)) ↔
      Meets config s (.visit request arrival) := by
  by_cases hblocked : s.Blocked
  · obtain ⟨hcommands, htasks⟩ := hhere hblocked
    obtain ⟨hphase, listener, hlistener, hqueue⟩ := id hblocked
    have hspace := hrunning.tuned listener hlistener
    constructor
    · intro hafter _ hcreates
      obtain ⟨hclaimable, helsewhere⟩ := @claimable_of_created render s.desk.bridge.service config
        request arrival hcreates
      have hquiet : (s.desk.served render request arrival).Quiet := by
        rw [quiet_served_iff hlistener, hspace]
        exact ⟨hqueue, helsewhere⟩
      exact hclaimable (hafter ⟨hphase, hquiet⟩).tasks
    · intro hmeets hblocked'
      have hquiet := (quiet_served_iff hlistener).mp hblocked'.2
      rw [hspace] at hquiet
      constructor
      · by_contra hsome
        obtain ⟨item, hitem, hannounced⟩ := announced_of_queued hcommands hsome
        exact hquiet.2 item hitem hannounced
      · by_contra hsome
        exact hmeets hblocked (created_of_claimable htasks hsome)
  · refine iff_of_true ?_ fun hblocked' => absurd hblocked' hblocked
    intro hblocked'
    refine absurd ⟨hblocked'.1, ?_⟩ hblocked
    by_contra hwaits
    exact tolerates_not_quiet.requests request arrival s.desk hwaits hblocked'.2

theorem waiting_after_iff (htuned : Tuned config s.desk) (call : SyncCall) {next : Phase}
    (hnext : next ≠ .listening) :
    NotLeftWaiting config
        (.after next (exec (syncAgent render refuse lost config call) s.desk)) ↔
      (s.desk.Quiet → call.Silent → NoWork config s.desk.bridge.service) := by
  by_cases hsilent : call.Silent
  · obtain ⟨raised, hraised⟩ := @syncAgent_silent render refuse lost config call hsilent s.desk
    rw [hraised]
    constructor
    · intro hafter hquiet _
      exact (waiting_rest_iff s.desk).mp hafter hquiet
    · intro hnot
      exact (waiting_rest_iff s.desk).mpr fun hquiet => hnot hquiet hsilent
  · refine iff_of_true ?_ fun _ hquiet => absurd hquiet hsilent
    have hwaits := @syncAgent_not_quiet render refuse lost config s.desk call htuned hsilent
    rcases hresult : exec (syncAgent render refuse lost config call) s.desk with ⟨outcome, after⟩
    rw [hresult] at hwaits
    cases outcome with
    | ok => exact waiting_of_phase hnext
    | error => exact waiting_of_not_quiet hwaits

/-- An errand whose claim finds a command leaves something in the queue; one whose claim finds none
goes on, or is cut off. -/
theorem waiting_errand_iff (hrunning : Running config s) (hphase : s.phase = .polling processed)
    (claim : Contact) (errand : Errand) :
    NotLeftWaiting config (s.step render refuse lost config (.errand claim errand)) ↔
      (s.desk.Quiet → ClaimCutOff config s claim → NoWork config s.desk.bridge.service) := by
  simp only [Runner.step, hphase]
  by_cases hfate : claim.fate = .lostBefore
  · rw [errand_lostBefore hfate]
    dsimp only
    rw [waiting_rest_iff]
    constructor
    · intro hnot hquiet _
      exact hnot hquiet
    · intro hnot hquiet
      exact hnot hquiet (Or.inl hfate)
  · have harrives : claim.fate.arrives := by
      cases hsame : claim.fate with
      | lostBefore => exact absurd hsame hfate
      | lostAfter | delivered => rfl
    by_cases hnone : nextQueued s.desk.bridge.service.commands.queue config.agent.machineId = none
    · obtain ⟨after, hresult, hquiet, hwork⟩ := @errand_of_none render refuse lost config s.desk
        claim errand hnone harrives
      rw [hresult]
      by_cases hdelivered : claim.fate = .delivered
      · rw [if_pos hdelivered]
        refine iff_of_true ?_ ?_
        · apply waiting_of_phase
          dsimp only
          split <;> exact Phase.noConfusion
        · rintro _ (hbefore | ⟨hafter, _⟩)
          · exact absurd hbefore hfate
          · rw [hdelivered] at hafter
            cases hafter
      · rw [if_neg hdelivered]
        dsimp only
        rw [waiting_rest_iff, hquiet, hwork]
        have hlost : claim.fate = .lostAfter := by
          cases hsame : claim.fate with
          | lostBefore => exact absurd hsame hfate
          | lostAfter => rfl
          | delivered => exact absurd hsame hdelivered
        constructor
        · intro hnot hstill _
          exact hnot hstill
        · intro hnot hstill
          exact hnot hstill (Or.inr ⟨hlost, hnone⟩)
    · have hwaits := @errand_not_quiet render refuse lost config s.desk claim errand
        hrunning.tuned harrives hnone
      refine iff_of_true ?_ ?_
      · rcases hresult : exec (executeNextCommand render refuse lost config.agent
          (promptErrand claim errand)) s.desk with ⟨outcome, after⟩
        rw [hresult] at hwaits
        cases outcome with
        | error => exact waiting_of_not_quiet hwaits
        | ok more =>
            cases more with
            | true => exact waiting_of_not_quiet hwaits
            | false => exact waiting_of_not_quiet hwaits
      · rintro _ (hbefore | ⟨_, hempty⟩)
        · exact absurd hbefore hfate
        · exact absurd hempty hnone

/-- The step lemma: a step leaves no work behind exactly when it opens none of the windows. -/
theorem waiting_step_iff (hrunning : Running config s) (hhere : NotLeftWaiting config s)
    (event : Event) :
    NotLeftWaiting config (s.step render refuse lost config event) ↔ Meets config s event := by
  cases event with
  | visit request arrival => exact waiting_visit_iff hrunning hhere request arrival
  | begin =>
      refine iff_of_true ?_ trivial
      simp only [Runner.step]
      split
      · exact waiting_of_phase (cycle_not_listening _)
      · exact hhere
  | sync call =>
      simp only [Runner.step]
      split
      · rename_i hphase
        rw [waiting_after_iff hrunning.tuned call Phase.noConfusion]
        constructor
        · intro hnot _
          exact hnot
        · intro hmeets
          exact hmeets (Or.inl hphase)
      · rename_i hphase
        rw [waiting_after_iff hrunning.tuned call Phase.noConfusion]
        constructor
        · intro hnot _
          exact hnot
        · intro hmeets
          exact hmeets (Or.inr hphase)
      · rename_i task hphase
        have hstays : Keeps (fun desk => ¬ desk.Quiet) (syncAgent render refuse lost config call) :=
          keeps_syncAgent tolerates_not_quiet call
        have hwaits : ¬ s.desk.Quiet := by
          apply hrunning.waits
          rw [hphase]
          rfl
        refine iff_of_true (waiting_of_not_quiet (hstays s.desk hwaits)) ?_
        rintro (hother | hother)
        · rw [hphase] at hother
          cases hother
        · rw [hphase] at hother
          cases hother
      · rename_i hfirst hsecond _
        refine iff_of_true hhere ?_
        rintro (hphase | hphase)
        · exact absurd hphase hfirst
        · exact absurd hphase hsecond
  | errand claim errand =>
      by_cases hphase : ∃ processed, s.phase = .polling processed
      · obtain ⟨processed, hpolling⟩ := id hphase
        rw [waiting_errand_iff hrunning hpolling]
        constructor
        · intro hnot _
          exact hnot
        · intro hmeets
          exact hmeets hphase
      · refine iff_of_true ?_ fun hpolling => absurd hpolling hphase
        simp only [Runner.step]
        split
        · rename_i processed hpolling
          exact absurd ⟨processed, hpolling⟩ hphase
        · exact hhere
  | claimTask contact drawn =>
      refine iff_of_true ?_ trivial
      have hstays : Keeps (fun desk => ¬ desk.Quiet) (bridgeCall render refuse lost contact.slot
          (.call (.task (.claimNextTask config.agent.machineId config.claim drawn)))) :=
        tolerates_not_quiet.bridgeCall _ _
      have hwaits := hstays s.desk
      simp only [Runner.step]
      split
      · rename_i hphase
        have hlate : ¬ s.desk.Quiet := by
          apply hrunning.waits
          rw [hphase]
          rfl
        split
        · rename_i after hresult
          rw [hresult] at hwaits
          split
          · exact waiting_of_not_quiet (hwaits hlate)
          · exact waiting_of_not_quiet (hwaits hlate)
        · rename_i after hresult
          rw [hresult] at hwaits
          exact waiting_of_not_quiet (hwaits hlate)
      · exact hhere
  | work operation slot =>
      refine iff_of_true ?_ trivial
      simp only [Runner.step]
      split
      · rename_i task hphase
        split
        · apply waiting_of_phase
          rw [hphase]
          exact Phase.noConfusion
        · exact hhere
      · exact hhere
  | connect =>
      simp only [Runner.step]
      split
      · rename_i hphase
        constructor
        · intro hafter _
          exact hafter ⟨rfl, _, rfl, rfl⟩
        · intro hmeets _
          exact hmeets hphase
      · rename_i hphase
        exact iff_of_true hhere fun hconnecting => absurd hconnecting hphase
  | frame =>
      simp only [Runner.step]
      split
      · rename_i listener hphase hlistener
        cases hread : listener.read.2 with
        | true =>
            simp only [if_true]
            refine iff_of_true (waiting_of_phase (cycle_not_listening _)) ?_
            intro _ found hfound hasleep
            obtain rfl := Option.some.inj (hlistener.symm.trans hfound)
            rw [hread] at hasleep
            cases hasleep
        | false =>
            simp only [Bool.false_eq_true, if_false]
            constructor
            · intro hafter _ found hfound _ hqueue
              obtain rfl := Option.some.inj (hlistener.symm.trans hfound)
              exact hafter ⟨rfl, _, rfl, hqueue⟩
            · rintro hmeets ⟨_, found, hfound, hqueue⟩
              obtain rfl := Option.some.inj hfound
              exact hmeets hphase listener hlistener hread hqueue
      · rename_i hother
        refine iff_of_true hhere ?_
        intro hphase listener hlistener
        exact absurd hlistener (hother listener hphase)
  | beat maintenance =>
      refine iff_of_true ?_ trivial
      simp only [Runner.step]
      split
      · rename_i listener call hphase hlistener
        split
        · split
          · rename_i after hresult
            have hwaits := @syncAgent_not_quiet render refuse lost config s.desk call
              hrunning.tuned (heard_of_ok hresult)
            rw [hresult] at hwaits
            exact waiting_of_not_quiet hwaits
          · exact waiting_of_phase Phase.noConfusion
        · exact hhere
      · exact hhere
  | drop =>
      refine iff_of_true ?_ trivial
      simp only [Runner.step]
      split
      · exact waiting_of_phase Phase.noConfusion
      · exact waiting_of_phase Phase.noConfusion
      · exact hhere

end Steps

/-! ## Runs -/

/-- Over every run, the runner is never left waiting beside work exactly when no step of the run
opens one of the windows. -/
theorem no_lost_wake_up_iff (render : Json → String) (refuse : ServiceError → String)
    (lost : String) (config : RunnerConfig) (events : List Event) :
    Throughout (Runner.step render refuse lost config) (NotLeftWaiting config) .empty events ↔
      Along (Runner.step render refuse lost config) (Meets config) .empty events := by
  apply throughout_iff_along_under (running_empty config)
  · intro s event hrunning
    exact running_step hrunning event
  · exact waiting_of_phase Phase.noConfusion
  · intro s event hrunning hhere
    exact waiting_step_iff hrunning hhere event

/-! ## Between the last poll and the subscription -/

def soloRunner : RunnerConfig := ⟨soloAgent, "a", 90⟩

def contactAt (at_ : Time) : Contact := ⟨.delivered, ⟨fun _ => at_, at_⟩⟩

/-- A cycle without work, in which every call goes through; then a prompt, and the subscription. -/
def promptBeforeSubscription : List Event :=
  [.begin, .sync ⟨none, contactAt 0, []⟩, .errand (contactAt 1) smoothErrand,
    .sync ⟨none, contactAt 2, []⟩, .claimTask (contactAt 3) "l",
    .visit (.call (.enqueueTurn ⟨desk, "p", [], []⟩)) ⟨fun _ => 4, 4⟩, .connect]

/-- The runner waits on a stream that will never tell it of the prompt. -/
theorem prompt_overlooked :
    ¬ Throughout (Runner.step (fun _ => "") ServiceError.text "lost" soloRunner)
      (NotLeftWaiting soloRunner) .empty promptBeforeSubscription := by
  intro hall
  have hend := hall promptBeforeSubscription List.prefix_rfl
  have hphase : (run (Runner.step (fun _ => "") ServiceError.text "lost" soloRunner) .empty
      promptBeforeSubscription).phase = .listening := by decide
  have hquiet : (run (Runner.step (fun _ => "") ServiceError.text "lost" soloRunner) .empty
      promptBeforeSubscription).desk.bridge.listener.any fun listener => listener.queue = [] := by
    decide
  obtain ⟨listener, hlistener, hempty⟩ := (Option.any_eq_true ..).mp hquiet
  have hnone := (hend ⟨hphase, listener, hlistener, of_decide_eq_true hempty⟩).commands
  have hwaits : (nextQueued (run (Runner.step (fun _ => "") ServiceError.text "lost" soloRunner)
      .empty promptBeforeSubscription).desk.bridge.service.commands.queue "m").isSome := by
    decide
  have hmachine : soloRunner.agent.machineId = "m" := rfl
  rw [hmachine] at hnone
  rw [hnone] at hwaits
  cases hwaits

end OpsCure.RemoteCodex
