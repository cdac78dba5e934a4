/-
What the operations do to a session beside its work: its row, the recoveries of it that are
under way, and who its agents are.
-/
import OpsCure.SessionChanges

namespace OpsCure.SessionService

open Fallible

/-! ## The roster -/

/-- The names and the roles of the agents. -/
def roster (agents : List AgentRow) : List (String × String) :=
  agents.map fun agent => (agent.agentName, agent.role)

theorem roster_map (agents : List AgentRow) {change : AgentRow → AgentRow}
    (hsame : ∀ agent, (change agent).agentName = agent.agentName ∧
      (change agent).role = agent.role) : roster (agents.map change) = roster agents := by
  unfold roster
  rw [List.map_map]
  apply List.map_congr_left
  intro agent _
  rw [Function.comp_apply, (hsame agent).1, (hsame agent).2]

theorem roster_changeAgent (agents : List AgentRow) (agentName : String)
    {change : AgentRow → AgentRow}
    (hsame : ∀ agent, (change agent).agentName = agent.agentName ∧
      (change agent).role = agent.role) :
    roster (changeAgent agents agentName change) = roster agents := by
  apply roster_map
  intro agent
  split
  · exact hsame agent
  · exact ⟨rfl, rfl⟩

theorem roster_markAgent (s : State) (agentName status : String) :
    roster (s.markAgent agentName status).agents = roster s.agents :=
  roster_changeAgent _ _ fun _ => ⟨rfl, rfl⟩

theorem roster_flushAgents (stored loaded : List AgentRow) (computed : AgentRow → AgentRow) :
    roster (flushAgents stored loaded computed) = roster stored := by
  unfold roster flushAgents
  apply List.ext_getElem
  · rw [List.length_map, List.length_mapIdx, List.length_map]
  · intro place _ _
    rw [List.getElem_map, List.getElem_mapIdx, List.getElem_map]
    split
    · rfl
    · rfl

variable {m s t : State} {agent : AgentRow} {workerId leaseToken : String} {policy : Option Nat}
  {now : Time} {outcome : State × Option Id} {deed : Deed}

theorem roster_claimWork (hok : claimWork m agent workerId leaseToken policy now = .ok outcome) :
    roster outcome.1.agents = roster m.agents := by
  unfold claimWork at hok
  split at hok
  · cases hok
    exact roster_markAgent _ _ _
  · split at hok
    · cases hok
      exact roster_markAgent _ _ _
    · split at hok
      · rename_i after jobId hclaimed
        cases hok
        unfold claimReadyTaskJob at hclaimed
        split at hclaimed
        · cases hclaimed
        · split at hclaimed
          · cases hclaimed
          · cases hclaimed
            exact roster_markAgent _ _ _
      · split at hok
        · rw [bind_eq_ok] at hok
          obtain ⟨swept, hsweep, hafter⟩ := hok
          unfold claimCuratorSweepJob at hsweep
          rw [bind_eq_ok] at hsweep
          obtain ⟨reason, _, hsweep⟩ := hsweep
          split at hsweep
          · cases hsweep
            cases hafter
            exact roster_markAgent _ _ _
          · cases hsweep
            cases hafter
            exact roster_markAgent _ _ _
        · cases hok
          exact roster_markAgent _ _ _

theorem roster_claimNextJob {agentName : String}
    (hok : claimNextJob s agentName workerId leaseToken policy now = .ok outcome) :
    roster outcome.1.agents = roster s.agents := by
  unfold claimNextJob at hok
  split at hok
  · cases hok
    rfl
  · rw [bind_eq_ok] at hok
    obtain ⟨agent, _, hok⟩ := hok
    split at hok
    · cases hok
      exact roster_markAgent _ _ _
    · split at hok
      · cases hok
        rfl
      · split at hok
        · exact roster_claimWork hok
        · split at hok
          · cases hok
            exact roster_markAgent _ _ _
          · exact (roster_claimWork hok).trans rfl

/-! ## What work leaves alone -/

structure SameFrame (s t : State) : Prop where
  session : t.session = s.session
  recoveries : t.recoveries = s.recoveries
  roster : roster t.agents = roster s.agents

theorem SameFrame.refl (s : State) : SameFrame s s := ⟨rfl, rfl, rfl⟩

theorem SameFrame.trans {u : State} (hfirst : SameFrame s t) (hsecond : SameFrame t u) :
    SameFrame s u :=
  ⟨hsecond.session.trans hfirst.session, hsecond.recoveries.trans hfirst.recoveries,
    hsecond.roster.trans hfirst.roster⟩

theorem SameFrame.names (hframe : SameFrame s t) :
    t.agents.map (·.agentName) = s.agents.map (·.agentName) := by
  have hnames := congrArg (List.map Prod.fst) hframe.roster
  rw [OpsCure.SessionService.roster, OpsCure.SessionService.roster, List.map_map,
    List.map_map] at hnames
  exact hnames

theorem Queues.frame (hqueues : Queues s t) : SameFrame s t := by
  obtain ⟨added, _, rfl⟩ := hqueues
  exact ⟨rfl, rfl, rfl⟩

theorem HandsOff.frame {request : HandoffRequest} (hturn : HandsOff s request t) :
    SameFrame s t := by
  cases hturn <;> exact ⟨rfl, rfl, rfl⟩

theorem Settles.frame {job : JobRow} {requests : List HandoffRequest} {state : HandoffState}
    (hsettles : Settles s job requests state t) : SameFrame s t := by
  cases hsettles <;> exact ⟨rfl, rfl, rfl⟩

theorem reported_frame (s : State) (report : JobReport) (job : JobRow) (status : JobStatus)
    (now : Time) : SameFrame s (s.reported report job status now) :=
  ⟨rfl, rfl, roster_changeAgent _ _ fun _ => ⟨rfl, rfl⟩⟩

theorem queueHandoffs_frame {sourceAgent : String} {requests : List HandoffRequest}
    (hok : queueHandoffs s sourceAgent requests now = .ok t) : SameFrame s t := by
  obtain ⟨u, hthere, hrest⟩ := queueHandoffs_keeps (SameFrame.refl s)
    (fun u v request _ hhere hturn => hhere.trans hturn.frame) hok
  exact hthere.trans hrest.frame

theorem completeJob_frame {report : JobReport} {output : ControlOutput}
    (hok : completeJob s report output now = .ok t) : SameFrame s t := by
  rcases completeJob_eq_ok hok with rfl | ⟨job, queued, _, hqueued, left, hqueues, rfl⟩
  · exact SameFrame.refl _
  · apply (reported_frame s report job .completed now).trans
    apply (queueHandoffs_frame hqueued).trans
    apply hqueues.frame.trans
    exact (synchronizeCompletedTask_settles _ _ _ _ _ _).frame

theorem failJob_frame {report : JobReport} {errorText : String}
    (hok : failJob s report errorText now = .ok t) : SameFrame s t := by
  rcases failJob_eq_ok hok with rfl | ⟨job, _, hqueues⟩
  · exact SameFrame.refl _
  · apply (reported_frame s report job .failed now).trans
    exact (synchronizeFailedTask_settles _ _ _ _).frame.trans hqueues.frame

theorem Freed.frame (hfreed : Freed s agent m) : SameFrame s m := by
  cases hfreed <;> exact ⟨rfl, rfl, rfl⟩

theorem Claims.session (hclaims : Claims m agent workerId leaseToken policy now t) :
    t.session = m.session := by
  cases hclaims <;> rfl

theorem Claims.recoveries (hclaims : Claims m agent workerId leaseToken policy now t) :
    t.recoveries = m.recoveries := by
  cases hclaims <;> rfl

theorem claimNextJob_frame {agentName : String}
    (hok : claimNextJob s agentName workerId leaseToken policy now = .ok outcome) :
    SameFrame s outcome.1 := by
  have hroster := roster_claimNextJob hok
  rcases claimNextJob_claims hok with ⟨agents, hsame⟩ | ⟨_, agent, m, _, _, hfreed, hclaims⟩
  · rw [hsame] at hroster ⊢
    exact ⟨rfl, rfl, hroster⟩
  · exact ⟨hclaims.session.trans hfreed.frame.session,
      hclaims.recoveries.trans hfreed.frame.recoveries, hroster⟩

/-! ## What a step does to the session row -/

def Operation.isWork : Operation → Bool
  | routeDiscordMessage _ | enqueueRestart _ | claimNextJob _ _ _ _ | completeJob _ _
  | failJob _ _ => true
  | _ => false

/-- The cases of a step, by what it does to the session row and the recoveries. -/
inductive Moves (s : State) (deed : Deed) : State → Prop
  | stays : Moves s deed s
  | works (t : State) (hwork : deed.operation.isWork)
      (hdone : perform s deed.operation deed.now = .ok t) (hframe : SameFrame s t) :
      Moves s deed t
  | registers (agentName workerId : String) (agent : AgentRow) (agents : List AgentRow)
      (hdeed : deed.operation = .registerWorker agentName workerId)
      (hagent : requireAgent s.agents agentName = .ok agent)
      (hroster : roster agents = roster s.agents) :
      Moves s deed { s with
        agents := agents
        session := refreshSessionStartupState { s.session with
          status := if s.session.desiredStatus = .paused then .paused else .launching }
          agents s.jobs deed.now }
  | beats (agents : List AgentRow) (hroster : roster agents = roster s.agents) :
      Moves s deed { s with
        agents := agents
        session := refreshSessionStartupState s.session agents s.jobs deed.now }
  | launches (hopen : s.session.closedAt = none) :
      Moves s deed { s with session := { s.session with status := .launching } }
  | resets (hdeed : deed.operation = .resetSession) : Moves s deed (resetSession s deed.now)
  | closes : Moves s deed (closeSessionRow s deed.now)
  | pauses (hdeed : deed.operation = .pause) : Moves s deed (pause s)
  | resumes : Moves s deed (resume s)
  | probes (hopen : s.session.closedAt = none) :
      Moves s deed { s with recoveries := s.recoveries ++ [⟨s.session, s.agents⟩] }
  | recovers (which : Nat) (readings : RecoveryReadings)
      (hdeed : deed.operation = .recoverFinish which readings) :
      Moves s deed (recoverFinish s which readings deed.now)

theorem perform_moves (hdone : perform s deed.operation deed.now = .ok t) : Moves s deed t := by
  have hperformed := hdone
  cases hdeed : deed.operation with
  | registerWorker agentName workerId =>
      rw [hdeed] at hdone
      obtain ⟨agent, hagent, hdone⟩ := bind_eq_ok.1 hdone
      rw [← pure_eq_ok.1 hdone]
      exact Moves.registers agentName workerId agent _ hdeed hagent
        (roster_changeAgent _ _ fun _ => ⟨rfl, rfl⟩)
  | heartbeat =>
      rw [hdeed] at hdone
      obtain ⟨agent, _, hdone⟩ := bind_eq_ok.1 hdone
      rw [← pure_eq_ok.1 hdone]
      exact Moves.beats _ (roster_changeAgent _ _ fun _ => ⟨rfl, rfl⟩)
  | routeDiscordMessage =>
      rw [hdeed] at hdone
      obtain ⟨_, _, hdone⟩ := bind_eq_ok.1 hdone
      obtain ⟨_, _, hdone⟩ := bind_eq_ok.1 hdone
      obtain ⟨decision, _, hdone⟩ := bind_eq_ok.1 hdone
      apply Moves.works t (by rw [hdeed]; rfl) hperformed
      rw [← pure_eq_ok.1 hdone]
      exact (Queues.addJob s _ _ _ _).frame
  | enqueueRestart =>
      rw [hdeed] at hdone
      obtain ⟨agent, _, hdone⟩ := bind_eq_ok.1 hdone
      apply Moves.works t (by rw [hdeed]; rfl) hperformed
      rw [← pure_eq_ok.1 hdone]
      exact (Queues.addJob s _ _ _ _).frame
  | claimLaunches restoreLastSession =>
      rw [hdeed] at hdone
      cases hdone
      unfold claimLaunches
      split
      · rename_i hlaunches
        exact Moves.launches hlaunches.2.2.1
      · exact Moves.stays
  | claimNextJob =>
      rw [hdeed] at hdone
      obtain ⟨outcome, houtcome, hdone⟩ := map_eq_ok.1 hdone
      apply Moves.works t (by rw [hdeed]; rfl) hperformed
      rw [← hdone]
      exact claimNextJob_frame houtcome
  | completeJob =>
      rw [hdeed] at hdone
      exact Moves.works t (by rw [hdeed]; rfl) hperformed (completeJob_frame hdone)
  | failJob =>
      rw [hdeed] at hdone
      exact Moves.works t (by rw [hdeed]; rfl) hperformed (failJob_frame hdone)
  | resetSession =>
      rw [hdeed] at hdone
      cases hdone
      exact Moves.resets hdeed
  | closeSession =>
      rw [hdeed] at hdone
      cases hdone
      exact Moves.closes
  | cleanupSessionThread =>
      rw [hdeed] at hdone
      cases hdone
      unfold cleanupSessionThread
      split
      · exact Moves.closes
      · exact Moves.stays
  | pause =>
      rw [hdeed] at hdone
      cases hdone
      exact Moves.pauses hdeed
  | resume =>
      rw [hdeed] at hdone
      cases hdone
      exact Moves.resumes
  | recoverBegin =>
      rw [hdeed] at hdone
      cases hdone
      unfold recoverBegin
      split
      · exact Moves.stays
      · rename_i hopen
        exact Moves.probes (Option.not_isSome_iff_eq_none.mp hopen)
  | recoverFinish which readings =>
      rw [hdeed] at hdone
      cases hdone
      exact Moves.recovers which readings hdeed

theorem step_moves (s : State) (deed : Deed) : Moves s deed (step s deed) := by
  unfold step
  cases hdone : perform s deed.operation deed.now with
  | error => exact Moves.stays
  | ok => exact perform_moves hdone

theorem Moves.roster (hmoves : Moves s deed t) : roster t.agents = roster s.agents := by
  cases hmoves with
  | stays => rfl
  | works _ hwork hdone hframe => exact hframe.roster
  | registers agentName workerId agent agents hdeed hagent hroster => exact hroster
  | beats agents hroster => exact hroster
  | launches => rfl
  | resets => rfl
  | closes => exact roster_map _ fun _ => ⟨rfl, rfl⟩
  | pauses => exact roster_map _ fun _ => ⟨rfl, rfl⟩
  | resumes => exact roster_map _ fun _ => ⟨rfl, rfl⟩
  | probes => rfl
  | recovers =>
      unfold recoverFinish
      split
      · rfl
      · exact roster_flushAgents _ _ _

theorem refreshSessionStartupState_closedAt (session : SessionRow) (agents : List AgentRow)
    (jobs : List JobRow) (now : Time) :
    (refreshSessionStartupState session agents jobs now).closedAt = session.closedAt := by
  unfold refreshSessionStartupState
  simp only
  repeat' split
  all_goals rfl

/-- A recovery that does not close the session keeps `closed_at`. -/
theorem recoverFinish_closedAt {which : Nat} {readings : RecoveryReadings}
    (hclosed : s.session.closedAt.isSome) :
    (recoverFinish s which readings now).session.closedAt.isSome := by
  unfold recoverFinish
  split
  · exact hclosed
  · rename_i recovery hrecovery
    change Option.isSome (writeBack _ _ _) = true
    unfold writeBack
    split
    · exact hclosed
    · rename_i hdiffers
      rcases recoverSession_closes recovery.session recovery.agents (hasLiveJob s.jobs) readings
        now with ⟨_, hclosedAt, _⟩ | ⟨_, hclosedAt⟩
      · unfold State.recovered
        rw [hclosedAt]
        rfl
      · exact absurd hclosedAt hdiffers

/-- `closed_at` is never taken back. -/
theorem Moves.closedAt (hmoves : Moves s deed t) (hclosed : s.session.closedAt.isSome) :
    t.session.closedAt.isSome := by
  cases hmoves with
  | stays => exact hclosed
  | works _ hwork hdone hframe =>
      rw [hframe.session]
      exact hclosed
  | registers =>
      rw [refreshSessionStartupState_closedAt]
      exact hclosed
  | beats =>
      rw [refreshSessionStartupState_closedAt]
      exact hclosed
  | launches => exact hclosed
  | resets => exact hclosed
  | closes => rfl
  | pauses => exact hclosed
  | resumes => exact hclosed
  | probes => exact hclosed
  | recovers => exact recoverFinish_closedAt hclosed

theorem Moves.recoveries (hmoves : Moves s deed t) {recovery : Recovery}
    (hmem : recovery ∈ t.recoveries) :
    recovery ∈ s.recoveries ∨ s.session.closedAt = none ∧ recovery.session = s.session := by
  cases hmoves with
  | stays => exact Or.inl hmem
  | works _ hwork hdone hframe =>
      rw [hframe.recoveries] at hmem
      exact Or.inl hmem
  | registers => exact Or.inl hmem
  | beats => exact Or.inl hmem
  | launches => exact Or.inl hmem
  | resets => exact Or.inl hmem
  | closes => exact Or.inl hmem
  | pauses => exact Or.inl hmem
  | resumes => exact Or.inl hmem
  | probes hopen =>
      rcases List.mem_append.mp hmem with hold | hnew
      · exact Or.inl hold
      · rw [List.mem_singleton.mp hnew]
        exact Or.inr ⟨hopen, rfl⟩
  | recovers =>
      unfold recoverFinish at hmem
      split at hmem
      · exact Or.inl hmem
      · exact Or.inl (List.mem_of_mem_eraseIdx hmem)

/-- No recovery under way has read a session that was closed. -/
def OpenSnapshots (s : State) : Prop :=
  ∀ recovery ∈ s.recoveries, recovery.session.closedAt = none

theorem OpenSnapshots.step (hopen : OpenSnapshots s) (deed : Deed) :
    OpenSnapshots (step s deed) := by
  intro recovery hmem
  rcases (step_moves s deed).recoveries hmem with hold | ⟨hnone, hsession⟩
  · exact hopen recovery hold
  · rw [hsession]
    exact hnone

end OpsCure.SessionService
