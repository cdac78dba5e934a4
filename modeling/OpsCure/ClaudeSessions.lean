/-
Does a deleted Claude session stay deleted?  The bridge (`behaviors/remote_claude`) drops the row
when the browser asks for the deletion, the executor removes the transcript when it carries the
command out, and every sync in between or after only inserts and updates rows.
-/
import OpsCure.ClaudeRuns

namespace OpsCure.Claude

open Run Text

/-! ## The rows of the bridge -/

structure SessionRow where
  title : String
  cwd : String
  jsonlPath : String
  updatedAtMs : Int
  createdAtMs : Int
  firstUserMessage : String
  eventCount : Nat
  fileSize : Nat
  via : Via
  syncedAt : Time
deriving DecidableEq, Repr

abbrev SessionRows := Registry SessionId SessionRow

def compactText (value fallback : String) : String :=
  if strip value = "" then fallback else strip value

/-- `upsert_session`: a row that came from the web stays so; an entry without an id raises, and the
sync goes on with the next one. -/
def upsertSession (rows : SessionRows) (now : Time) (reported : SessionEntry × Via) : SessionRows :=
  let entry := reported.1
  let sessionId := compactText entry.sessionId ""
  if sessionId = "" then rows
  else
    let wasWeb := (rows.find sessionId).any fun row => row.via = .web
    rows.set sessionId {
      title := compactText entry.title "(no preview)"
      cwd := compactText entry.cwd ""
      jsonlPath := compactText entry.jsonlPath ""
      updatedAtMs := entry.updatedAtMs
      createdAtMs := entry.createdAtMs
      firstUserMessage := compactText entry.firstUserMessage ""
      eventCount := entry.eventCount
      fileSize := entry.fileSize
      via := if wasWeb then .web else reported.2
      syncedAt := now }

/-- `agent_sync`. -/
def agentSync (rows : SessionRows) (sessions : List (SessionEntry × Via)) (now : Time) :
    SessionRows :=
  sessions.foldl (fun rows reported => upsertSession rows now reported) rows

/-! ## Bridge, agent and what is between them -/

structure Sync where
  host : Host
  madeAt : Time

def Sync.sessions (sync : Sync) : List (SessionEntry × Via) := sync.host.payload sync.madeAt

/-- The sync an act of the agent makes: on its schedule, or on the promotion of a run. -/
def Host.syncOf (h : Host) : Act → Option Sync
  | .sync now => some ⟨h, now⟩
  | .line r init now =>
      match h.spawnedRun r with
      | some run =>
          let heard := run.heard init
          let told := { h with processes := h.processes.set r heard }
          if told.promotes heard then some ⟨told.promote r heard now, now⟩ else none
      | none => none
  | .exit r now =>
      match (h.spawnedRun r).filter (! ·.exited) with
      | some run => if h.promotes run then some ⟨h.promote r run now, now⟩ else none
      | none => none
  | _ => none

/-- The machine's rows and commands on the bridge, the agent, and the syncs under way.  Noted beside
them: the sessions whose transcript a deletion removed, with the number of runs made before. -/
structure System where
  rows : SessionRows
  queue : List Command
  claimed : Option Command
  host : Host
  underWay : List Sync
  removed : List (SessionId × Nat)

def System.start (rows : SessionRows) (transcripts : List Transcript) : System where
  rows := rows
  queue := []
  claimed := none
  host := .start transcripts
  underWay := []
  removed := []

/-- The browser asks for something, the agent claims a command or carries out the one it claimed, a
process of it prints a line or exits, it makes a sync, a sync arrives, or the disk changes. -/
inductive Deed
  | request (command : Command)
  | claim
  | execute (outcome : Outcome) (now : Time)
  | line (r : RunId) (init : Option SessionId) (now : Time)
  | exit (r : RunId) (now : Time)
  | sync (now : Time)
  | arrive (place : Nat) (now : Time)
  | disk (transcripts : List Transcript)

variable (s : System)

/-- `enqueue_session_delete` drops the row, the other requests only queue their command. -/
def System.request (command : Command) : System :=
  { s with
    rows := if command.type = .sessionDelete then s.rows.pop command.sessionId else s.rows
    queue := s.queue ++ [command] }

def System.claim : System :=
  match s.claimed, s.queue with
  | none, command :: queue => { s with claimed := some command, queue := queue }
  | _, _ => s

def Host.Removes (h : Host) (command : Command) (outcome : Outcome) : Bool :=
  command.type = .sessionDelete && isSessionId command.sessionId &&
    (h.unlinked command outcome).isSome

def System.execute (outcome : Outcome) (now : Time) : System :=
  match s.claimed with
  | none => s
  | some command =>
      { s with
        claimed := none
        host := s.host.dispatch command outcome now
        removed :=
          if s.host.Removes command outcome then
            s.removed ++ [(command.sessionId, s.host.processes.length)]
          else s.removed }

def System.acts (act : Act) : System :=
  { s with
    host := s.host.step act
    underWay := s.underWay ++ (s.host.syncOf act).toList }

def System.arrive (place : Nat) (now : Time) : System :=
  match s.underWay[place]? with
  | none => s
  | some sync =>
      { s with
        rows := agentSync s.rows sync.sessions now
        underWay := s.underWay.eraseIdx place }

def System.step (s : System) : Deed → System
  | .request command => s.request command
  | .claim => s.claim
  | .execute outcome now => s.execute outcome now
  | .line r init now => s.acts (.line r init now)
  | .exit r now => s.acts (.exit r now)
  | .sync now => s.acts (.sync now)
  | .arrive place now => s.arrive place now
  | .disk transcripts => s.acts (.disk transcripts)

/-! ## What is asked of them -/

/-- A run made after the first `count` was spawned, and reported the session or resumes it. -/
def Host.StartedSince (h : Host) (count : Nat) (sessionId : SessionId) : Prop :=
  ∃ (r : RunId) (run : ClaudeRun), h.processes[r]? = some run ∧ count ≤ r ∧
    run.spawned = true ∧ run.Serves sessionId

/-- A deletion removed the session's transcript, and no run of it was started since. -/
def System.Gone (s : System) (sessionId : SessionId) : Prop :=
  ∃ count, (sessionId, count) ∈ s.removed ∧ ¬ s.host.StartedSince count sessionId

def StaysDeleted (s : System) : Prop :=
  ∀ sessionId, s.Gone sessionId → s.rows.find sessionId = none

/-- The agent knows the session when it makes a sync: not among those it remembers as deleted, and
one of the fifty newest transcripts or a synthetic entry. -/
def Host.Knows (h : Host) (now : Time) (sessionId : SessionId) : Prop :=
  ∃ name, strip name = sessionId ∧ sessionId ≠ "" ∧ (h.remembered now).find name = none ∧
    (name ∈ (scanSessions h.transcripts).map (·.sessionId) ∨
      (h.syntheticSessions.find name).isSome = true)

/-- A deletion that removes a transcript finds no row that a sync has brought back; and a sync that
arrives was not made while the agent knew a session that is gone. -/
def System.Meets (s : System) : Deed → Prop
  | .execute outcome _ => ∀ command, s.claimed = some command →
      s.host.Removes command outcome = true → s.rows.find command.sessionId = none
  | .arrive place _ => ∀ sync, s.underWay[place]? = some sync →
      ∀ sessionId, s.Gone sessionId → ¬ sync.host.Knows sync.madeAt sessionId
  | _ => True

/-! ## What a sync brings to the bridge -/

variable {s} {h after : Host} {sessionId : SessionId}

theorem compactText_empty (value : String) : compactText value "" = strip value := by
  unfold compactText
  split
  · rename_i hempty
    exact hempty.symm
  · rfl

def SessionEntry.FiledAs (entry : SessionEntry) (sessionId : SessionId) : Prop :=
  strip entry.sessionId = sessionId ∧ sessionId ≠ ""

theorem find_upsertSession_eq_none_iff (rows : SessionRows) (now : Time)
    (reported : SessionEntry × Via) :
    (upsertSession rows now reported).find sessionId = none ↔
      rows.find sessionId = none ∧ ¬ reported.1.FiledAs sessionId := by
  unfold upsertSession SessionEntry.FiledAs
  simp only [compactText_empty]
  by_cases hempty : strip reported.1.sessionId = ""
  · rw [if_pos hempty]
    constructor
    · intro hnone
      refine ⟨hnone, ?_⟩
      rintro ⟨hsame, hpresent⟩
      exact hpresent (hsame ▸ hempty)
    · exact And.left
  · rw [if_neg hempty, Registry.find_set]
    by_cases hsame : sessionId = strip reported.1.sessionId
    · rw [if_pos hsame]
      constructor
      · intro hnone
        cases hnone
      · rintro ⟨_, hother⟩
        rw [hsame] at hother
        exact absurd ⟨rfl, hempty⟩ hother
    · rw [if_neg hsame]
      constructor
      · intro hnone
        exact ⟨hnone, fun hfiled => hsame hfiled.1.symm⟩
      · exact And.left

theorem find_agentSync_eq_none_iff (rows : SessionRows) (sessions : List (SessionEntry × Via))
    (now : Time) :
    (agentSync rows sessions now).find sessionId = none ↔
      rows.find sessionId = none ∧ ∀ reported ∈ sessions, ¬ reported.1.FiledAs sessionId := by
  induction sessions generalizing rows with
  | nil => simp [agentSync]
  | cons reported sessions ih =>
      have hstep : agentSync rows (reported :: sessions) now =
          agentSync (upsertSession rows now reported) sessions now := by
        rw [agentSync, List.foldl_cons, agentSync]
      rw [hstep, ih, find_upsertSession_eq_none_iff, List.forall_mem_cons, and_assoc]

/-- A synthetic entry stands under its own session id. -/
def Host.WellNamed (h : Host) : Prop :=
  ∀ name entry, h.syntheticSessions.find name = some entry → entry.sessionId = name

theorem find_of_unscanned {now : Time} {name : SessionId} {entry : SessionEntry}
    (hfound : (h.unscanned now).find name = some entry) :
    h.syntheticSessions.find name = some entry := by
  rw [Registry.find_eq_some_iff] at hfound ⊢
  exact (List.mem_filter.mp hfound).1

theorem mem_scanned_iff {now : Time} {entry : SessionEntry} :
    entry ∈ h.scanned now ↔
      entry ∈ scanSessions h.transcripts ∧ (h.remembered now).find entry.sessionId = none := by
  unfold Host.scanned
  rw [List.mem_filter, Option.isNone_iff_eq_none]

/-- What a sync reports is what the agent knows when it makes it. -/
theorem reports_iff_knows (hnamed : h.WellNamed) (now : Time) :
    (∃ reported ∈ h.payload now, reported.1.FiledAs sessionId) ↔ h.Knows now sessionId := by
  have hpayload : (∃ reported ∈ h.payload now, reported.1.FiledAs sessionId) ↔
      ∃ entry ∈ h.scanned now ++ (h.unscanned now).rows.map (·.2),
        entry.FiledAs sessionId := by
    unfold Host.payload
    simp only [List.mem_map, exists_exists_and_eq_and]
  rw [hpayload]
  constructor
  · rintro ⟨entry, hentry, hname, hpresent⟩
    rcases List.mem_append.mp hentry with hscanned | hunscanned
    · obtain ⟨hdisk, hforgotten⟩ := mem_scanned_iff.1 hscanned
      exact ⟨entry.sessionId, hname, hpresent, hforgotten,
        Or.inl (List.mem_map.mpr ⟨entry, hdisk, rfl⟩)⟩
    · obtain ⟨⟨name, stood⟩, hrow, hsame⟩ := List.mem_map.mp hunscanned
      simp only at hsame
      subst hsame
      obtain ⟨hsynthetic, hstays⟩ := List.mem_filter.mp hrow
      have hfound := Registry.find_eq_some_iff.2 hsynthetic
      have hself := hnamed name stood hfound
      simp only [Bool.not_or, Bool.and_eq_true, Bool.not_eq_true', Option.isSome_eq_false_iff,
        Option.isNone_iff_eq_none] at hstays
      refine ⟨name, ?_, hpresent, hstays.1, Or.inr ?_⟩
      · rw [← hself]
        exact hname
      · rw [hfound]
        rfl
  · rintro ⟨name, hname, hpresent, hforgotten, hdisk | hsynthetic⟩
    · obtain ⟨entry, hentry, hsame⟩ := List.mem_map.mp hdisk
      rw [← hsame] at hname hforgotten
      refine ⟨entry, List.mem_append_left _ ?_, hname, hpresent⟩
      exact mem_scanned_iff.2 ⟨hentry, hforgotten⟩
    · obtain ⟨entry, hentry⟩ := Option.isSome_iff_exists.mp hsynthetic
      have hself := hnamed name entry hentry
      by_cases hscanned : ∃ scanned ∈ h.scanned now, scanned.sessionId = name
      · obtain ⟨scanned, hmem, hsame⟩ := hscanned
        rw [← hsame] at hname
        exact ⟨scanned, List.mem_append_left _ hmem, hname, hpresent⟩
      · refine ⟨entry, List.mem_append_right _ ?_, ?_, hpresent⟩
        · refine List.mem_map.mpr ⟨(name, entry), ?_, rfl⟩
          refine List.mem_filter.mpr ⟨Registry.find_eq_some_iff.1 hentry, ?_⟩
          have hunseen : ((h.scanned now).any fun scanned =>
              decide (scanned.sessionId = name ∧ scanned.sessionId ≠ "")) = false := by
            rw [List.any_eq_false]
            intro scanned hmem hboth
            exact hscanned ⟨scanned, hmem, (of_decide_eq_true hboth).1⟩
          simp only
          rw [hforgotten, hunseen]
          rfl
        · rw [hself]
          exact hname

/-! ## Synthetic entries stand under their own id -/

theorem wellNamed_of_find (hnamed : h.WellNamed)
    (hfind : ∀ name entry, after.syntheticSessions.find name = some entry →
      h.syntheticSessions.find name = some entry) : after.WellNamed :=
  fun name entry hfound => hnamed name entry (hfind name entry hfound)

theorem wellNamed_promote (hnamed : h.WellNamed) (r : RunId) (run : ClaudeRun) (now : Time) :
    (h.promote r run now).WellNamed := by
  intro name entry hfound
  have hset : (h.syntheticSessions.set run.sessionId (syntheticEntry run
      (((h.pendingRuns.nameOf (· == r)).bind h.pendingPrompts.find).getD "") now)).find name =
        some entry := hfound
  rw [Registry.find_set] at hset
  split at hset
  · rename_i hsame
    cases hset
    rw [hsame]
    rfl
  · exact hnamed name entry hset

theorem wellNamed_doSync (hnamed : h.WellNamed) (now : Time) : (h.doSync now).WellNamed :=
  wellNamed_of_find hnamed fun _ _ hfound => find_of_unscanned hfound

theorem wellNamed_forwardEvent (hnamed : h.WellNamed) (r : RunId) (run : ClaudeRun) (now : Time) :
    (h.forwardEvent r run now).WellNamed := by
  unfold Host.forwardEvent
  split
  · exact wellNamed_doSync (wellNamed_promote hnamed r run now) now
  · exact hnamed

theorem find_closeRun_synthetic (sessionId name : SessionId) :
    (h.closeRun sessionId).syntheticSessions.find name = h.syntheticSessions.find name := by
  unfold Host.closeRun
  split
  · rfl
  · rfl

theorem wellNamed_dispatch (hnamed : h.WellNamed) (command : Command) (outcome : Outcome)
    (now : Time) : (h.dispatch command outcome now).WellNamed := by
  unfold Host.dispatch
  split
  · rcases handleRunStart_cases (h := h) command outcome with
      ⟨reports, hafter⟩ | ⟨run, pendingRuns, pendingPrompts, reports, _, _, hafter⟩
    · rw [hafter]
      exact hnamed
    · rw [hafter]
      exact hnamed
  · rcases handleRunInput_cases (h := h) command outcome with
      ⟨⟨reports, hafter⟩, _⟩ | ⟨_, _, hresume⟩
    · rw [hafter]
      exact hnamed
    · obtain ⟨reports, hafter⟩ := resume_eq (h := h) command outcome
      rw [hresume, hafter]
      exact hnamed
  · obtain ⟨reports, hafter⟩ := handleRunInterrupt_eq (h := h) command outcome
    rw [hafter]
    exact hnamed
  · rcases handleSessionDelete_cases (h := h) command outcome now with
      ⟨_, reports, hafter⟩ | ⟨_, reports, hafter⟩
    · rw [hafter]
      exact hnamed
    · rw [hafter]
      apply wellNamed_of_find hnamed
      intro name entry hfound
      have hpopped : ((h.closeRun command.sessionId).syntheticSessions.pop command.sessionId).find
          name = some entry := hfound
      rw [Registry.find_pop] at hpopped
      split at hpopped
      · cases hpopped
      · rw [find_closeRun_synthetic] at hpopped
        exact hpopped
  · exact hnamed

theorem wellNamed_step (hnamed : h.WellNamed) (act : Act) : (h.step act).WellNamed := by
  cases act with
  | dispatch command outcome now => exact wellNamed_dispatch hnamed command outcome now
  | line r init now =>
      rcases step_line_cases (h := h) r init now with ⟨_, hafter⟩ | ⟨run, _, hafter⟩
      · rw [hafter]
        exact hnamed
      · rw [hafter]
        have htold : ({ h with processes := h.processes.set r (run.heard init) } : Host).WellNamed :=
          hnamed
        exact wellNamed_forwardEvent htold r _ now
  | exit r now =>
      rcases step_exit_cases (h := h) r now with hafter | ⟨run, _, hafter⟩
      · rw [hafter]
        exact hnamed
      · rw [hafter]
        exact wellNamed_forwardEvent hnamed r run now
  | sync now => exact wellNamed_doSync hnamed now
  | disk => exact hnamed

theorem wellNamed_syncOf (hnamed : h.WellNamed) {act : Act} {sync : Sync}
    (hsync : h.syncOf act = some sync) : sync.host.WellNamed := by
  unfold Host.syncOf at hsync
  split at hsync
  · cases hsync
    exact hnamed
  · split at hsync
    · simp only at hsync
      split at hsync
      · cases hsync
        exact wellNamed_promote (h := { h with processes := _ }) hnamed _ _ _
      · cases hsync
    · cases hsync
  · split at hsync
    · split at hsync
      · cases hsync
        exact wellNamed_promote hnamed _ _ _
      · cases hsync
    · cases hsync
  · cases hsync

structure System.WellNamed (s : System) : Prop where
  host : s.host.WellNamed
  underWay : ∀ sync ∈ s.underWay, sync.host.WellNamed

theorem wellNamed_acts (hnamed : s.WellNamed) (act : Act) : (s.acts act).WellNamed := by
  constructor
  · exact wellNamed_step hnamed.host act
  · intro sync hsync
    rcases List.mem_append.mp hsync with hold | hnew
    · exact hnamed.underWay sync hold
    · exact wellNamed_syncOf hnamed.host (Option.mem_toList.mp hnew)

theorem wellNamed_system (hnamed : s.WellNamed) (deed : Deed) : (s.step deed).WellNamed := by
  cases deed with
  | request => exact ⟨hnamed.host, hnamed.underWay⟩
  | claim =>
      unfold System.step System.claim
      simp only
      split
      · exact ⟨hnamed.host, hnamed.underWay⟩
      · exact hnamed
  | execute outcome now =>
      unfold System.step System.execute
      simp only
      split
      · exact hnamed
      · exact ⟨wellNamed_dispatch hnamed.host _ outcome now, hnamed.underWay⟩
  | line => exact wellNamed_acts hnamed _
  | exit => exact wellNamed_acts hnamed _
  | sync => exact wellNamed_acts hnamed _
  | arrive =>
      unfold System.step System.arrive
      simp only
      split
      · exact hnamed
      · refine ⟨hnamed.host, ?_⟩
        intro sync hsync
        exact hnamed.underWay sync (List.mem_of_mem_eraseIdx hsync)
  | disk => exact wellNamed_acts hnamed _

/-! ## One step -/

theorem startedSince_of_keeps (hkeeps : h.Keeps after) {count : Nat}
    (hstarted : h.StartedSince count sessionId) : after.StartedSince count sessionId := by
  obtain ⟨r, run, hrun, hcount, hspawned, hserves⟩ := hstarted
  obtain ⟨later, hlater, hcontinues⟩ := hkeeps r run hrun
  exact ⟨r, later, hlater, hcount, hcontinues.spawned.trans hspawned, hcontinues.serves hserves⟩

theorem stays_of_keeps {t : System} (hstays : StaysDeleted s) (hkeeps : s.host.Keeps t.host)
    (hremoved : t.removed = s.removed)
    (hrows : ∀ sessionId, s.rows.find sessionId = none → t.rows.find sessionId = none) :
    StaysDeleted t := by
  rintro sessionId ⟨count, hcount, hnever⟩
  apply hrows
  apply hstays
  rw [hremoved] at hcount
  exact ⟨count, hcount, fun hstarted => hnever (startedSince_of_keeps hkeeps hstarted)⟩

theorem stays_acts (hstays : StaysDeleted s) (act : Act) : StaysDeleted (s.acts act) :=
  stays_of_keeps hstays (keeps_step act) rfl fun _ hnone => hnone

theorem length_delete {command : Command} (hdelete : command.type = .sessionDelete)
    (outcome : Outcome) (now : Time) :
    (h.dispatch command outcome now).processes.length = h.processes.length := by
  have hclosed : (h.closeRun command.sessionId).processes.length = h.processes.length := by
    unfold Host.closeRun
    split
    · rfl
    · exact List.length_modify _ _ _
  unfold Host.dispatch
  simp only [hdelete]
  rcases handleSessionDelete_cases (h := h) command outcome now with
    ⟨_, reports, hafter⟩ | ⟨_, reports, hafter⟩
  · rw [hafter]
  · rw [hafter]
    exact hclosed

theorem execute_meets_iff (hstays : StaysDeleted s) (outcome : Outcome) (now : Time) :
    StaysDeleted (s.execute outcome now) ↔ s.Meets (.execute outcome now) := by
  unfold System.Meets System.execute
  cases hclaimed : s.claimed with
  | none =>
      refine iff_of_true hstays ?_
      intro command hcommand
      cases hcommand
  | some command =>
      simp only
      by_cases hremoves : s.host.Removes command outcome = true
      · simp only [if_pos hremoves]
        have hdelete : command.type = .sessionDelete := by
          unfold Host.Removes at hremoves
          simp only [Bool.and_eq_true, decide_eq_true_eq] at hremoves
          exact hremoves.1.1
        constructor
        · intro hall other hother _
          cases hother
          apply hall
          refine ⟨s.host.processes.length, List.mem_append_right _ List.mem_cons_self, ?_⟩
          rintro ⟨r, run, hrun, hcount, _⟩
          have hlt := (List.getElem?_eq_some_iff.mp hrun).1
          simp only [length_delete hdelete] at hlt
          omega
        · intro hmeets sessionId hgone
          obtain ⟨count, hcount, hnever⟩ := hgone
          rcases List.mem_append.mp hcount with hold | hnew
          · apply hstays
            exact ⟨count, hold,
              fun hstarted => hnever (startedSince_of_keeps (keeps_dispatch _ _ _) hstarted)⟩
          · cases List.mem_singleton.mp hnew
            exact hmeets command rfl hremoves
      · simp only [if_neg hremoves]
        constructor
        · intro _ other hother hremoved
          cases hother
          exact absurd hremoved hremoves
        · intro _
          exact stays_of_keeps hstays (keeps_dispatch _ _ _) rfl fun _ hnone => hnone

theorem arrive_meets_iff (hnamed : s.WellNamed) (hstays : StaysDeleted s) (place : Nat)
    (now : Time) : StaysDeleted (s.arrive place now) ↔ s.Meets (.arrive place now) := by
  unfold System.Meets System.arrive
  cases hsync : s.underWay[place]? with
  | none =>
      refine iff_of_true hstays ?_
      intro sync hother
      rw [hsync] at hother
      cases hother
  | some sync =>
      have hwell := hnamed.underWay sync (List.mem_of_getElem? hsync)
      have hgone : ∀ rows underWay sessionId,
          ({ s with rows := rows, underWay := underWay } : System).Gone sessionId ↔
            s.Gone sessionId := fun _ _ _ => Iff.rfl
      have hlisted : ∀ sessionId, (agentSync s.rows sync.sessions now).find sessionId = none ↔
          s.rows.find sessionId = none ∧ ¬ sync.host.Knows sync.madeAt sessionId := by
        intro sessionId
        rw [find_agentSync_eq_none_iff, ← reports_iff_knows hwell]
        have hnone : (∀ reported ∈ sync.sessions, ¬ reported.1.FiledAs sessionId) ↔
            ¬ ∃ reported ∈ sync.host.payload sync.madeAt, reported.1.FiledAs sessionId := by
          rw [not_exists]
          simp only [not_and, Sync.sessions]
        rw [hnone]
      constructor
      · intro hall other hother sessionId hremoved
        rw [hsync] at hother
        cases hother
        exact ((hlisted sessionId).mp (hall sessionId hremoved)).2
      · intro hmeets sessionId hremoved
        exact (hlisted sessionId).mpr ⟨hstays sessionId hremoved, hmeets sync hsync sessionId hremoved⟩

theorem deed_meets_iff (hnamed : s.WellNamed) (hstays : StaysDeleted s) (deed : Deed) :
    StaysDeleted (s.step deed) ↔ s.Meets deed := by
  cases deed with
  | request command =>
      refine iff_of_true ?_ trivial
      have hkeeps : s.host.Keeps (s.request command).host := keeps_refl s.host
      apply stays_of_keeps hstays hkeeps rfl
      intro sessionId hnone
      unfold System.request
      simp only
      split
      · rw [Registry.find_pop, hnone, ite_self]
      · exact hnone
  | claim =>
      refine iff_of_true ?_ trivial
      unfold System.step System.claim
      simp only
      split
      · exact stays_of_keeps hstays (keeps_refl s.host) rfl fun _ hnone => hnone
      · exact hstays
  | execute outcome now => exact execute_meets_iff hstays outcome now
  | line => exact iff_of_true (stays_acts hstays _) trivial
  | exit => exact iff_of_true (stays_acts hstays _) trivial
  | sync => exact iff_of_true (stays_acts hstays _) trivial
  | arrive place now => exact arrive_meets_iff hnamed hstays place now
  | disk => exact iff_of_true (stays_acts hstays _) trivial

/-! ## Runs of bridge and agent -/

/-- Every deleted session stays deleted throughout exactly if no sync brings its row back before
the agent removes the transcript, and none that arrives later was made with knowledge of it. -/
theorem stays_deleted_iff (rows : SessionRows) (transcripts : List Transcript)
    (deeds : List Deed) :
    Throughout System.step StaysDeleted (System.start rows transcripts) deeds ↔
      Along System.step System.Meets (System.start rows transcripts) deeds := by
  have hnamed : (System.start rows transcripts).WellNamed := by
    constructor
    · intro name entry hfound
      cases hfound
    · intro sync hsync
      cases hsync
  have hstays : StaysDeleted (System.start rows transcripts) := by
    rintro sessionId ⟨count, hcount, _⟩
    cases hcount
  apply throughout_iff_along_under hnamed (fun _ deed hnamed => wellNamed_system hnamed deed) hstays
  intro s deed hnamed hstays
  exact deed_meets_iff hnamed hstays deed

/-- A session on the disk that the browser deletes. -/
def oldTranscript : Transcript :=
  ⟨"p", "11111111-1111-1111-1111-111111111111", 0, "/work", "hello", "hello", 3, 200⟩

/-- The agent's next tick makes its sync before it claims the deletion. -/
def syncBetween : System :=
  run System.step (System.start Keyed.empty [oldTranscript])
    [.request ⟨"c1", .sessionDelete, oldTranscript.sessionId, "", "", none, none⟩,
      .sync 1, .arrive 0 1, .claim, .execute .fine 2]

/-- The transcript is removed, and the bridge lists the session for good. -/
theorem sync_between_brings_back :
    ¬ Throughout System.step StaysDeleted (System.start Keyed.empty [oldTranscript])
      [.request ⟨"c1", .sessionDelete, oldTranscript.sessionId, "", "", none, none⟩,
        .sync 1, .arrive 0 1, .claim, .execute .fine 2] := by
  intro hall
  have hstays : StaysDeleted syncBetween := hall _ List.prefix_rfl
  have hlisted : (syncBetween.rows.find oldTranscript.sessionId).isSome = true := by
    decide
  have hremoved : syncBetween.removed = [(oldTranscript.sessionId, 0)] := by
    decide
  have hprocesses : syncBetween.host.processes = [] := by
    decide
  have hgone : syncBetween.Gone oldTranscript.sessionId := by
    refine ⟨0, ?_, ?_⟩
    · rw [hremoved]
      exact List.mem_cons_self
    · rintro ⟨r, run, hrun, _⟩
      rw [hprocesses] at hrun
      cases hrun
  rw [hstays _ hgone] at hlisted
  cases hlisted

end OpsCure.Claude
