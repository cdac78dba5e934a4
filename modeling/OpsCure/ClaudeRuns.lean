/-
Does the run registry of the Claude executor name only live runs?  A resume registers its run before
it spawns it, a deletion takes out one name of a run that may have two, and a line that comes late
promotes the run it comes from, whatever became of it.
-/
import OpsCure.ClaudeExecutor
import OpsCure.Library.Run

namespace OpsCure.Claude

open Run

/-! ## What is asked of the registry -/

/-- The run's process was spawned, it was not closed, and its exit was not reported. -/
def Host.Live (h : Host) (r : RunId) : Prop :=
  ∃ run, h.processes[r]? = some run ∧
    run.spawned = true ∧ run.closed = false ∧ run.exited = false

/-- Every run registered under a session id is live, and the only one registered under it. -/
structure NamesLiveRuns (h : Host) : Prop where
  live : ∀ sessionId r, (sessionId, r) ∈ h.runs.rows → h.Live r
  only : ∀ sessionId r other, (sessionId, r) ∈ h.runs.rows → (sessionId, other) ∈ h.runs.rows →
    other = r

def ClaudeRun.Serves (run : ClaudeRun) (sessionId : SessionId) : Prop :=
  (run.sessionId = sessionId ∧ sessionId ≠ "") ∨ run.extraArgs = ["--resume", sessionId]

def Host.Idle (h : Host) (sessionId : SessionId) : Prop :=
  ∀ (r : RunId) (run : ClaudeRun), h.processes[r]? = some run → run.Serves sessionId →
    ¬ h.Live r

def Host.Resumed (h after : Host) (sessionId : SessionId) : Prop :=
  ∃ run, after.processes = h.processes ++ [run] ∧ run.spawned = true ∧
    run.extraArgs = ["--resume", sessionId] ∧
    after.runs.find sessionId = some h.processes.length

/-- A `run.input` for a session without a live process and with a transcript resumes it. -/
def Host.ResumesIdle (h : Host) : Act → Prop
  | .dispatch command outcome now =>
      command.type = .runInput → h.Idle command.sessionId →
        (findSessionJsonl h.transcripts command.sessionId).isSome = true →
        h.Resumed (h.dispatch command outcome now) command.sessionId
  | _ => True

/-- A resume that is tried spawns its process; a deletion meets a run that has no second name; and
a line that promotes its run comes before the run is closed and before its exit is reported. -/
def Host.Meets (h : Host) : Act → Prop
  | .dispatch command outcome _ =>
      match command.type with
      | .runInput => h.runs.find command.sessionId = none →
          (findSessionJsonl h.transcripts command.sessionId).isSome = true →
          outcome.spawnError = none
      | .sessionDelete => isSessionId command.sessionId = true →
          ∀ r, h.runs.find command.sessionId = some r →
            ∀ other, h.runs.find other = some r → other = command.sessionId
      | _ => True
  | .line r init _ =>
      ∀ run, h.spawnedRun r = some run → h.promotes (run.heard init) = true →
        run.closed = false ∧ run.exited = false
  | _ => True

/-! ## Registered runs -/

variable {h after : Host} {r : RunId} {sessionId : SessionId}

theorem namesLiveRuns_iff :
    NamesLiveRuns h ↔ ∀ sessionId r, h.runs.find sessionId = some r → h.Live r := by
  constructor
  · intro hnames sessionId r hfound
    exact hnames.live sessionId r (Registry.find_eq_some_iff.1 hfound)
  · intro hall
    constructor
    · intro sessionId r hrow
      exact hall sessionId r (Registry.find_eq_some_iff.2 hrow)
    · intro sessionId r other hrow hother
      exact Registry.value_unique hother hrow

def Host.Serving (h : Host) : Prop :=
  ∀ sessionId r, h.runs.find sessionId = some r →
    ∃ run, h.processes[r]? = some run ∧ run.Serves sessionId

theorem Host.Serving.isLt (hserving : h.Serving) (hfound : h.runs.find sessionId = some r) :
    r < h.processes.length := by
  obtain ⟨run, hrun, _⟩ := hserving sessionId r hfound
  exact (List.getElem?_eq_some_iff.mp hrun).1

/-- A run stays what it was, apart from the session id it may come to know. -/
structure ClaudeRun.Continues (run later : ClaudeRun) : Prop where
  extraArgs : later.extraArgs = run.extraArgs
  spawned : later.spawned = run.spawned
  sessionId : run.sessionId ≠ "" → later.sessionId = run.sessionId

variable {run : ClaudeRun} {more : List ClaudeRun}

theorem ClaudeRun.Continues.serves {later : ClaudeRun} (hcontinues : run.Continues later)
    (hserves : run.Serves sessionId) : later.Serves sessionId := by
  rcases hserves with ⟨hknown, hpresent⟩ | hresumes
  · left
    have hsome : run.sessionId ≠ "" := by
      rw [hknown]
      exact hpresent
    exact ⟨(hcontinues.sessionId hsome).trans hknown, hpresent⟩
  · right
    exact hcontinues.extraArgs.trans hresumes

/-- The runs that were there are there still. -/
def Host.Keeps (h after : Host) : Prop :=
  ∀ (r : RunId) (run : ClaudeRun), h.processes[r]? = some run →
    ∃ later, after.processes[r]? = some later ∧ run.Continues later

theorem Host.Serving.of_keeps (hserving : h.Serving) (hkeeps : h.Keeps after)
    (hruns : ∀ sessionId r, after.runs.find sessionId = some r → h.runs.find sessionId = some r) :
    after.Serving := by
  intro sessionId r hfound
  obtain ⟨run, hrun, hserves⟩ := hserving sessionId r (hruns sessionId r hfound)
  obtain ⟨later, hlater, hcontinues⟩ := hkeeps r run hrun
  exact ⟨later, hlater, hcontinues.serves hserves⟩

theorem keeps_append (hprocesses : after.processes = h.processes ++ more) : h.Keeps after := by
  intro r run hrun
  refine ⟨run, ?_, ⟨rfl, rfl, fun _ => rfl⟩⟩
  rw [hprocesses]
  exact List.getElem?_append_left (List.getElem?_eq_some_iff.mp hrun).1 ▸ hrun

theorem live_append (hprocesses : after.processes = h.processes ++ more) (hlive : h.Live r) :
    after.Live r := by
  obtain ⟨run, hrun, hstate⟩ := hlive
  refine ⟨run, ?_, hstate⟩
  rw [hprocesses]
  exact List.getElem?_append_left (List.getElem?_eq_some_iff.mp hrun).1 ▸ hrun

/-! ## One step -/

theorem continues_heard (run : ClaudeRun) (init : Option SessionId) :
    run.Continues (run.heard init) := by
  unfold ClaudeRun.heard
  split
  · split
    · rename_i hunknown
      exact ⟨rfl, rfl, fun hknown => absurd hunknown hknown⟩
    · exact ⟨rfl, rfl, fun _ => rfl⟩
  · exact ⟨rfl, rfl, fun _ => rfl⟩

theorem spawnedRun_eq_some_iff :
    h.spawnedRun r = some run ↔ h.processes[r]? = some run ∧ run.spawned = true := by
  unfold Host.spawnedRun
  rw [Option.filter_eq_some_iff]

theorem keeps_set {later : ClaudeRun} (hrun : h.processes[r]? = some run)
    (hcontinues : run.Continues later) (hprocesses : after.processes = h.processes.set r later) :
    h.Keeps after := by
  intro other stood hstood
  rw [hprocesses, List.getElem?_set]
  have hlt := (List.getElem?_eq_some_iff.mp hrun).1
  by_cases hsame : r = other
  · subst hsame
    rw [hrun] at hstood
    cases hstood
    rw [if_pos rfl, if_pos hlt]
    exact ⟨later, rfl, hcontinues⟩
  · rw [if_neg hsame]
    exact ⟨stood, hstood, rfl, rfl, fun _ => rfl⟩

theorem forwardEvent_processes (run : ClaudeRun) (now : Time) :
    (h.forwardEvent r run now).processes = h.processes := by
  unfold Host.forwardEvent
  split
  · rfl
  · rfl

theorem forwardEvent_runs (run : ClaudeRun) (now : Time) :
    (h.forwardEvent r run now).runs =
      if h.promotes run then h.runs.set run.sessionId r else h.runs := by
  unfold Host.forwardEvent
  split
  · rfl
  · rfl

theorem promotes_iff :
    h.promotes run = true ↔ run.sessionId ≠ "" ∧ h.runs.find run.sessionId = none := by
  simp [Host.promotes]

theorem serving_forwardEvent (hserving : h.Serving) (hrun : h.processes[r]? = some run)
    (now : Time) : (h.forwardEvent r run now).Serving := by
  intro sessionId other hfound
  rw [forwardEvent_processes]
  rw [forwardEvent_runs] at hfound
  by_cases hpromotes : h.promotes run = true
  · rw [if_pos hpromotes, Registry.find_set] at hfound
    by_cases hsame : sessionId = run.sessionId
    · rw [if_pos hsame] at hfound
      cases hfound
      have hpresent := (promotes_iff.1 hpromotes).1
      rw [← hsame] at hpresent
      exact ⟨run, hrun, Or.inl ⟨hsame.symm, hpresent⟩⟩
    · rw [if_neg hsame] at hfound
      exact hserving sessionId other hfound
  · rw [if_neg hpromotes] at hfound
    exact hserving sessionId other hfound

theorem closeRun_runs (sessionId : SessionId) (other : SessionId) :
    (h.closeRun sessionId).runs.find other =
      if other = sessionId then none else h.runs.find other := by
  unfold Host.closeRun
  split
  · rename_i hnone
    by_cases hsame : other = sessionId
    · rw [if_pos hsame, hsame, hnone]
    · rw [if_neg hsame]
  · exact Registry.find_pop _ _ _

theorem keeps_closeRun (sessionId : SessionId) : h.Keeps (h.closeRun sessionId) := by
  unfold Host.closeRun
  split
  · exact keeps_append (List.append_nil _).symm
  · rename_i r _
    intro other run hrun
    refine ⟨if r = other then run.close else run, ?_, ?_⟩
    · simp only
      rw [List.getElem?_modify, hrun]
      rfl
    · split
      · exact ⟨rfl, rfl, fun _ => rfl⟩
      · exact ⟨rfl, rfl, fun _ => rfl⟩

theorem resumeRun_serves (command : Command) (spawned : Bool) :
    ({ resumeRun command with spawned := spawned } : ClaudeRun).Serves command.sessionId :=
  Or.inr rfl

theorem serving_dispatch (hserving : h.Serving) (command : Command) (outcome : Outcome)
    (now : Time) : (h.dispatch command outcome now).Serving := by
  unfold Host.dispatch
  split
  · rcases handleRunStart_cases (h := h) command outcome with
      ⟨reports, hafter⟩ | ⟨run, pendingRuns, pendingPrompts, reports, _, _, hafter⟩
    · rw [hafter]
      exact hserving
    · rw [hafter]
      exact hserving.of_keeps (keeps_append rfl) fun _ _ hfound => hfound
  · rcases handleRunInput_cases (h := h) command outcome with
      ⟨⟨reports, hafter⟩, _⟩ | ⟨_, _, hresume⟩
    · rw [hafter]
      exact hserving
    · obtain ⟨reports, hafter⟩ := resume_eq (h := h) command outcome
      rw [hresume, hafter]
      intro sessionId r hfound
      simp only [Registry.find_set] at hfound ⊢
      by_cases hsame : sessionId = command.sessionId
      · rw [if_pos hsame] at hfound
        cases hfound
        rw [List.getElem?_concat_length]
        exact ⟨_, rfl, hsame ▸ resumeRun_serves command _⟩
      · rw [if_neg hsame] at hfound
        obtain ⟨run, hrun, hserves⟩ := hserving sessionId r hfound
        rw [List.getElem?_append_left (hserving.isLt hfound)]
        exact ⟨run, hrun, hserves⟩
  · obtain ⟨reports, hafter⟩ := handleRunInterrupt_eq (h := h) command outcome
    rw [hafter]
    exact hserving
  · rcases handleSessionDelete_cases (h := h) command outcome now with
      ⟨_, reports, hafter⟩ | ⟨_, reports, hafter⟩
    · rw [hafter]
      exact hserving
    · rw [hafter]
      apply hserving.of_keeps (keeps_closeRun command.sessionId)
      intro sessionId r hfound
      have hstood : (h.closeRun command.sessionId).runs.find sessionId = some r := hfound
      rw [closeRun_runs] at hstood
      split at hstood
      · cases hstood
      · exact hstood
  · exact hserving

theorem keeps_refl (h : Host) : h.Keeps h := keeps_append (List.append_nil _).symm

theorem keeps_dispatch (command : Command) (outcome : Outcome) (now : Time) :
    h.Keeps (h.dispatch command outcome now) := by
  unfold Host.dispatch
  split
  · rcases handleRunStart_cases (h := h) command outcome with
      ⟨reports, hafter⟩ | ⟨run, pendingRuns, pendingPrompts, reports, _, _, hafter⟩
    · rw [hafter]
      exact keeps_refl h
    · rw [hafter]
      exact keeps_append rfl
  · rcases handleRunInput_cases (h := h) command outcome with
      ⟨⟨reports, hafter⟩, _⟩ | ⟨_, _, hresume⟩
    · rw [hafter]
      exact keeps_refl h
    · obtain ⟨reports, hafter⟩ := resume_eq (h := h) command outcome
      rw [hresume, hafter]
      exact keeps_append rfl
  · obtain ⟨reports, hafter⟩ := handleRunInterrupt_eq (h := h) command outcome
    rw [hafter]
    exact keeps_refl h
  · rcases handleSessionDelete_cases (h := h) command outcome now with
      ⟨_, reports, hafter⟩ | ⟨_, reports, hafter⟩
    · rw [hafter]
      exact keeps_refl h
    · rw [hafter]
      exact keeps_closeRun command.sessionId
  · exact keeps_refl h

theorem keeps_readLine (hspawned : h.spawnedRun r = some run) (init : Option SessionId)
    (now : Time) : h.Keeps (h.readLine r run init now) :=
  keeps_set (spawnedRun_eq_some_iff.1 hspawned).1 (continues_heard run init)
    (forwardEvent_processes _ now)

theorem keeps_waitForExit (hspawned : h.spawnedRun r = some run) (now : Time) :
    h.Keeps (h.waitForExit r run now) := by
  have hcontinues : run.Continues { run with exited := true } := ⟨rfl, rfl, fun _ => rfl⟩
  have hprocesses : (h.waitForExit r run now).processes =
      h.processes.set r { run with exited := true } := by
    rw [← forwardEvent_processes (h := h) (r := r) run now]
    rfl
  exact keeps_set (spawnedRun_eq_some_iff.1 hspawned).1 hcontinues hprocesses

theorem keeps_step (act : Act) : h.Keeps (h.step act) := by
  cases act with
  | dispatch command outcome now => exact keeps_dispatch command outcome now
  | line r init now =>
      rcases step_line_cases (h := h) r init now with ⟨_, hafter⟩ | ⟨run, hspawned, hafter⟩
      · rw [hafter]
        exact keeps_refl h
      · rw [hafter]
        exact keeps_readLine hspawned init now
  | exit r now =>
      rcases step_exit_cases (h := h) r now with hafter | ⟨run, hspawned, hafter⟩
      · rw [hafter]
        exact keeps_refl h
      · rw [hafter]
        exact keeps_waitForExit hspawned now
  | sync => exact keeps_refl h
  | disk => exact keeps_refl h

theorem serving_step (hserving : h.Serving) (act : Act) : (h.step act).Serving := by
  cases act with
  | dispatch command outcome now => exact serving_dispatch hserving command outcome now
  | line r init now =>
      rcases step_line_cases (h := h) r init now with ⟨_, hafter⟩ | ⟨run, hspawned, hafter⟩
      · rw [hafter]
        exact hserving
      · rw [hafter]
        have hrun := (spawnedRun_eq_some_iff.1 hspawned).1
        have hlt := (List.getElem?_eq_some_iff.mp hrun).1
        have hheard : ({ h with processes := h.processes.set r (run.heard init) } : Host).Serving :=
          hserving.of_keeps (keeps_set hrun (continues_heard run init) rfl) fun _ _ hfound => hfound
        exact serving_forwardEvent hheard (List.getElem?_set_self hlt) now
  | exit r now =>
      rcases step_exit_cases (h := h) r now with hafter | ⟨run, hspawned, hafter⟩
      · rw [hafter]
        exact hserving
      · rw [hafter]
        have hrun := (spawnedRun_eq_some_iff.1 hspawned).1
        have htold := serving_forwardEvent hserving hrun now
        have hstood : (h.forwardEvent r run now).processes[r]? = some run := by
          rw [forwardEvent_processes]
          exact hrun
        have hcontinues : run.Continues { run with exited := true } := ⟨rfl, rfl, fun _ => rfl⟩
        apply htold.of_keeps (keeps_set hstood hcontinues rfl)
        intro sessionId other hfound
        exact (Registry.find_expel_eq_some_iff.1 hfound).1
  | sync => exact hserving
  | disk => exact hserving

/-! ## What keeps the registry right -/

theorem find_of_idle (hserving : h.Serving) (hnames : NamesLiveRuns h) (hidle : h.Idle sessionId) :
    h.runs.find sessionId = none := by
  cases hfound : h.runs.find sessionId with
  | none => rfl
  | some r =>
      obtain ⟨run, hrun, hserves⟩ := hserving sessionId r hfound
      exact absurd (namesLiveRuns_iff.1 hnames sessionId r hfound) (hidle r run hrun hserves)

theorem names_of_append (hnames : NamesLiveRuns h)
    (hprocesses : after.processes = h.processes ++ more) (hruns : after.runs = h.runs) :
    NamesLiveRuns after := by
  rw [namesLiveRuns_iff] at hnames ⊢
  intro sessionId r hfound
  rw [hruns] at hfound
  exact live_append hprocesses (hnames sessionId r hfound)

theorem names_of_same (hnames : NamesLiveRuns h) (hprocesses : after.processes = h.processes)
    (hruns : after.runs = h.runs) : NamesLiveRuns after := by
  have hnothing : after.processes = h.processes ++ [] := by
    rw [hprocesses, List.append_nil]
  exact names_of_append hnames hnothing hruns

theorem names_resume_iff (hnames : NamesLiveRuns h) (command : Command) (outcome : Outcome) :
    NamesLiveRuns (h.resume command outcome) ↔ outcome.spawnError = none := by
  obtain ⟨reports, hafter⟩ := resume_eq (h := h) command outcome
  rw [hafter, namesLiveRuns_iff]
  constructor
  · intro hall
    have hself := hall command.sessionId h.processes.length (by simp)
    obtain ⟨run, hrun, hspawned, _⟩ := hself
    simp only [List.getElem?_concat_length, Option.some.injEq] at hrun
    rw [← hrun] at hspawned
    exact Option.isNone_iff_eq_none.mp hspawned
  · intro hfine sessionId r hfound
    simp only [Registry.find_set] at hfound
    by_cases hsame : sessionId = command.sessionId
    · rw [if_pos hsame] at hfound
      cases hfound
      refine ⟨_, List.getElem?_concat_length, ?_, rfl, rfl⟩
      rw [hfine]
      rfl
    · rw [if_neg hsame] at hfound
      exact live_append rfl (namesLiveRuns_iff.1 hnames sessionId r hfound)

theorem resumed_resume {command : Command} {outcome : Outcome}
    (hfine : outcome.spawnError = none) :
    h.Resumed (h.resume command outcome) command.sessionId := by
  obtain ⟨reports, hafter⟩ := resume_eq (h := h) command outcome
  rw [hafter]
  refine ⟨_, rfl, ?_, rfl, ?_⟩
  · rw [hfine]
    rfl
  · simp

theorem not_live_closeRun {r : RunId} (hfound : h.runs.find sessionId = some r) :
    ¬ (h.closeRun sessionId).Live r := by
  rintro ⟨run, hrun, _, hopen, _⟩
  unfold Host.closeRun at hrun
  rw [hfound] at hrun
  simp only at hrun
  rw [List.getElem?_modify] at hrun
  obtain ⟨stood, _, hclosed⟩ := Option.map_eq_some_iff.mp hrun
  rw [if_pos rfl] at hclosed
  rw [← hclosed] at hopen
  cases hopen

theorem live_closeRun {other : RunId} (hother : h.runs.find sessionId ≠ some other)
    (hlive : h.Live other) : (h.closeRun sessionId).Live other := by
  unfold Host.closeRun
  cases hfound : h.runs.find sessionId with
  | none => exact hlive
  | some r =>
      obtain ⟨run, hrun, hstate⟩ := hlive
      refine ⟨run, ?_, hstate⟩
      have hne : r ≠ other := fun hsame => hother (hsame ▸ hfound)
      simp only
      rw [List.getElem?_modify, hrun, Option.map_eq_map, Option.map_some, if_neg hne]

theorem names_closeRun_iff (hnames : NamesLiveRuns h) (sessionId : SessionId) :
    NamesLiveRuns (h.closeRun sessionId) ↔
      ∀ r, h.runs.find sessionId = some r →
        ∀ other, h.runs.find other = some r → other = sessionId := by
  rw [namesLiveRuns_iff] at hnames ⊢
  constructor
  · intro hall r hfound other hother
    by_contra hdiffers
    have hstays : (h.closeRun sessionId).runs.find other = some r := by
      rw [closeRun_runs, if_neg hdiffers]
      exact hother
    exact not_live_closeRun hfound (hall other r hstays)
  · intro honly other r hfound
    rw [closeRun_runs] at hfound
    by_cases hsame : other = sessionId
    · rw [if_pos hsame] at hfound
      cases hfound
    · rw [if_neg hsame] at hfound
      have hother : h.runs.find sessionId ≠ some r :=
        fun hclosed => hsame (honly r hclosed other hfound)
      exact live_closeRun hother (hnames other r hfound)

/-- One step, from a state in which the registry is right. -/
theorem dispatch_meets_iff (hserving : h.Serving) (hnames : NamesLiveRuns h) (command : Command)
    (outcome : Outcome) (now : Time) :
    NamesLiveRuns (h.dispatch command outcome now) ∧
        h.ResumesIdle (.dispatch command outcome now) ↔
      h.Meets (.dispatch command outcome now) := by
  unfold Host.Meets Host.ResumesIdle Host.dispatch
  cases htype : command.type with
  | runStart =>
      simp only [htype, reduceCtorEq, false_implies, and_true, iff_true]
      rcases handleRunStart_cases (h := h) command outcome with
        ⟨reports, hafter⟩ | ⟨run, pendingRuns, pendingPrompts, reports, _, _, hafter⟩
      · rw [hafter]
        exact names_of_same hnames rfl rfl
      · rw [hafter]
        exact names_of_append hnames rfl rfl
  | runInput =>
      simp only [htype, true_implies]
      rcases handleRunInput_cases (h := h) command outcome with
        ⟨⟨reports, hafter⟩, hcase⟩ | ⟨hfree, htranscript, hresume⟩
      · have hskips : h.runs.find command.sessionId = none →
            (findSessionJsonl h.transcripts command.sessionId).isSome = true → False := by
          intro hnone hsome
          rcases hcase with hregistered | hmissing
          · rw [hnone] at hregistered
            cases hregistered
          · rw [hmissing] at hsome
            cases hsome
        constructor
        · intro _ hnone hsome
          exact absurd (hskips hnone hsome) not_false
        · intro _
          rw [hafter]
          refine ⟨names_of_same hnames rfl rfl, ?_⟩
          intro hidle hsome
          exact absurd (hskips (find_of_idle hserving hnames hidle) hsome) not_false
      · have hnone : h.runs.find command.sessionId = none := by
          cases hfound : h.runs.find command.sessionId with
          | none => rfl
          | some r =>
              obtain ⟨run, hrun, _⟩ := hserving command.sessionId r hfound
              rw [hfound, Option.bind_some, hrun] at hfree
              cases hfree
        rw [hresume, names_resume_iff hnames]
        constructor
        · intro hboth _ _
          exact hboth.1
        · intro hmeets
          have hfine := hmeets hnone htranscript
          exact ⟨hfine, fun _ _ => resumed_resume hfine⟩
  | runInterrupt =>
      simp only [htype, reduceCtorEq, false_implies, and_true, iff_true]
      obtain ⟨reports, hafter⟩ := handleRunInterrupt_eq (h := h) command outcome
      rw [hafter]
      exact names_of_same hnames rfl rfl
  | sessionDelete =>
      simp only [htype, reduceCtorEq, false_implies, and_true]
      rcases handleSessionDelete_cases (h := h) command outcome now with
        ⟨hmalformed, reports, hafter⟩ | ⟨hformed, reports, hafter⟩
      · rw [hafter]
        constructor
        · intro _ hformed
          rw [hmalformed] at hformed
          cases hformed
        · intro _
          exact names_of_same hnames rfl rfl
      · rw [hafter]
        have hsame : ∀ transcripts reports, NamesLiveRuns
            { (h.closeRun command.sessionId).forget command.sessionId now with
              transcripts := transcripts
              reports := reports } ↔ NamesLiveRuns (h.closeRun command.sessionId) := by
          intro transcripts reports
          rw [namesLiveRuns_iff, namesLiveRuns_iff]
          rfl
        rw [hsame, names_closeRun_iff hnames]
        constructor
        · intro honly _
          exact honly
        · intro hmeets
          exact hmeets hformed
  | other =>
      simp only [htype, reduceCtorEq, false_implies, and_true, iff_true]
      exact hnames

theorem live_set_of_ne {other : RunId} (hne : r ≠ other)
    (hprocesses : after.processes = h.processes.set r run) (hlive : h.Live other) :
    after.Live other := by
  obtain ⟨stood, hstood, hstate⟩ := hlive
  refine ⟨stood, ?_, hstate⟩
  rw [hprocesses, List.getElem?_set_ne hne]
  exact hstood

/-- A line promotes its run or leaves the registry as it is; what it changes of the run does not
touch its process. -/
theorem readLine_meets_iff (hnames : NamesLiveRuns h) (hspawned : h.spawnedRun r = some run)
    (init : Option SessionId) (now : Time) :
    NamesLiveRuns (h.readLine r run init now) ↔
      (h.promotes (run.heard init) = true → run.closed = false ∧ run.exited = false) := by
  obtain ⟨hrun, hlives⟩ := spawnedRun_eq_some_iff.1 hspawned
  have hlt := (List.getElem?_eq_some_iff.mp hrun).1
  let heard := run.heard init
  let told : Host := { h with processes := h.processes.set r heard }
  have hheard : heard.spawned = run.spawned ∧ heard.closed = run.closed ∧
      heard.exited = run.exited := by
    unfold heard ClaudeRun.heard
    split
    · split
      · exact ⟨rfl, rfl, rfl⟩
      · exact ⟨rfl, rfl, rfl⟩
    · exact ⟨rfl, rfl, rfl⟩
  have hlive : ∀ other, told.Live other ↔ h.Live other := by
    intro other
    by_cases hsame : r = other
    · subst hsame
      constructor
      · rintro ⟨stood, hstood, hspawned, hopen, hruns⟩
        rw [List.getElem?_set_self hlt] at hstood
        cases hstood
        rw [hheard.2.1] at hopen
        rw [hheard.2.2] at hruns
        exact ⟨run, hrun, hlives, hopen, hruns⟩
      · rintro ⟨stood, hstood, hspawned, hopen, hruns⟩
        rw [hrun] at hstood
        cases hstood
        exact ⟨heard, List.getElem?_set_self hlt, hheard.1.trans hspawned,
          hheard.2.1.trans hopen, hheard.2.2.trans hruns⟩
    · constructor
      · rintro ⟨stood, hstood, hstate⟩
        rw [List.getElem?_set_ne hsame] at hstood
        exact ⟨stood, hstood, hstate⟩
      · exact live_set_of_ne hsame rfl
  have hself : h.Live r ↔ run.closed = false ∧ run.exited = false := by
    constructor
    · rintro ⟨stood, hstood, _, hstate⟩
      rw [hrun] at hstood
      cases hstood
      exact hstate
    · intro hstate
      exact ⟨run, hrun, hlives, hstate⟩
  have hmeans : NamesLiveRuns (h.readLine r run init now) ↔
      ∀ sessionId other, (told.forwardEvent r heard now).runs.find sessionId = some other →
        h.Live other := by
    rw [namesLiveRuns_iff]
    have hprocesses : (h.readLine r run init now).processes = told.processes :=
      forwardEvent_processes heard now
    have hreads : ∀ other, (h.readLine r run init now).Live other ↔ told.Live other := by
      intro other
      unfold Host.Live
      rw [hprocesses]
    constructor
    · intro hall sessionId other hfound
      exact (hlive other).mp ((hreads other).mp (hall sessionId other hfound))
    · intro hall sessionId other hfound
      exact (hreads other).mpr ((hlive other).mpr (hall sessionId other hfound))
  rw [hmeans, forwardEvent_runs, ← hself]
  have hpromotes : told.promotes heard = h.promotes heard := rfl
  rw [hpromotes]
  rw [namesLiveRuns_iff] at hnames
  by_cases hcase : h.promotes heard = true
  · rw [if_pos hcase]
    constructor
    · intro hall _
      exact hall heard.sessionId r (by simp)
    · intro hmeets sessionId other hfound
      rw [Registry.find_set] at hfound
      by_cases hsame : sessionId = heard.sessionId
      · rw [if_pos hsame] at hfound
        cases hfound
        exact hmeets hcase
      · rw [if_neg hsame] at hfound
        exact hnames sessionId other hfound
  · rw [if_neg hcase]
    constructor
    · intro _ hpromoted
      exact absurd hpromoted hcase
    · intro _
      exact hnames

theorem names_waitForExit (hnames : NamesLiveRuns h) (run : ClaudeRun) (now : Time) :
    NamesLiveRuns (h.waitForExit r run now) := by
  rw [namesLiveRuns_iff] at hnames ⊢
  intro sessionId other hfound
  obtain ⟨hstood, hother⟩ := Registry.find_expel_eq_some_iff.1 hfound
  have hne : r ≠ other := by
    intro hsame
    rw [hsame] at hother
    simp at hother
  have hold : h.runs.find sessionId = some other := by
    have htold : (h.forwardEvent r run now).runs.find sessionId = some other := hstood
    rw [forwardEvent_runs] at htold
    split at htold
    · rw [Registry.find_set] at htold
      split at htold
      · exact absurd (Option.some.inj htold) hne
      · exact htold
    · exact htold
  have hlive : (h.forwardEvent r run now).Live other := by
    obtain ⟨stood, hstands, hstate⟩ := hnames sessionId other hold
    refine ⟨stood, ?_, hstate⟩
    rw [forwardEvent_processes]
    exact hstands
  exact live_set_of_ne hne rfl hlive

theorem step_meets_iff (hserving : h.Serving) (hnames : NamesLiveRuns h) (act : Act) :
    NamesLiveRuns (h.step act) ∧ h.ResumesIdle act ↔ h.Meets act := by
  cases act with
  | dispatch command outcome now => exact dispatch_meets_iff hserving hnames command outcome now
  | line r init now =>
      have hidle : h.ResumesIdle (.line r init now) := trivial
      rw [and_iff_left hidle]
      rcases step_line_cases (h := h) r init now with ⟨hnone, hafter⟩ | ⟨run, hspawned, hafter⟩
      · rw [hafter, iff_true_left hnames]
        intro run hspawned
        rw [hnone] at hspawned
        cases hspawned
      · rw [hafter, readLine_meets_iff hnames hspawned]
        constructor
        · intro hmeets other hother
          rw [hspawned] at hother
          cases hother
          exact hmeets
        · intro hmeets
          exact hmeets run hspawned
  | exit r now =>
      have hmeets : h.Meets (.exit r now) := trivial
      refine iff_of_true ⟨?_, trivial⟩ hmeets
      rcases step_exit_cases (h := h) r now with hafter | ⟨run, _, hafter⟩
      · rw [hafter]
        exact hnames
      · rw [hafter]
        exact names_waitForExit hnames run now
  | sync => exact iff_of_true ⟨names_of_same hnames rfl rfl, trivial⟩ trivial
  | disk => exact iff_of_true ⟨names_of_same hnames rfl rfl, trivial⟩ trivial

/-! ## Runs of the executor -/

/-- The registry names only live runs throughout, and every input for an idle session with a
transcript resumes it, exactly if every step meets the condition. -/
theorem names_live_runs_iff (transcripts : List Transcript) (acts : List Act) :
    Throughout Host.step NamesLiveRuns (Host.start transcripts) acts ∧
        Along Host.step Host.ResumesIdle (Host.start transcripts) acts ↔
      Along Host.step Host.Meets (Host.start transcripts) acts := by
  have hserves : (Host.start transcripts).Serving := by
    intro sessionId r hfound
    cases hfound
  have hnames : NamesLiveRuns (Host.start transcripts) := by
    rw [namesLiveRuns_iff]
    intro sessionId r hfound
    cases hfound
  have hserving : Throughout Host.step Host.Serving (Host.start transcripts) acts :=
    throughout_of_preserved hserves fun _ act _ hserving => serving_step hserving act
  have hboth : ∀ h act, h.Serving ∧ NamesLiveRuns h →
      (((h.step act).Serving ∧ NamesLiveRuns (h.step act)) ∧ h.ResumesIdle act ↔
        h.Meets act) := by
    rintro h act ⟨hserving, hnames⟩
    rw [← step_meets_iff hserving hnames act, and_iff_right (serving_step hserving act)]
  have hiff : Throughout Host.step (fun h => h.Serving ∧ NamesLiveRuns h) (Host.start transcripts) acts ∧
      Along Host.step Host.ResumesIdle (Host.start transcripts) acts ↔
        Along Host.step Host.Meets (Host.start transcripts) acts :=
    throughout_and_along_iff ⟨hserves, hnames⟩ hboth
  rw [← hiff]
  constructor
  · rintro ⟨hall, hresumes⟩
    exact ⟨fun done hdone => ⟨hserving done hdone, hall done hdone⟩, hresumes⟩
  · rintro ⟨hall, hresumes⟩
    exact ⟨fun done hdone => (hall done hdone).2, hresumes⟩

/-- A session is started, its process exits, and a line of it is read after the exit was reported:
the run is promoted a second time, and nothing takes it out any more. -/
def lateLine : List Act :=
  [.dispatch ⟨"c1", .runStart, "", "/work", "hello", none, none⟩ .fine 1, .line 0 (some "s1") 2,
    .exit 0 3, .line 0 none 4]

/-- The registry then names a run whose exit was reported. -/
theorem late_line_names_dead_run :
    ¬ (Throughout Host.step NamesLiveRuns (Host.start []) lateLine ∧
      Along Host.step Host.ResumesIdle (Host.start []) lateLine) := by
  rintro ⟨hall, _⟩
  have hnames := namesLiveRuns_iff.mp (hall lateLine List.prefix_rfl)
  have hfound : (run Host.step (Host.start []) lateLine).runs.find "s1" = some 0 := by
    decide
  have hexited : (run Host.step (Host.start []) lateLine).processes[0]?.map
      (·.exited) = some true := by
    decide
  obtain ⟨named, hrun, _, _, hruns⟩ := hnames "s1" 0 hfound
  rw [hrun] at hexited
  rw [Option.map_some, hruns] at hexited
  cases hexited

end OpsCure.Claude
