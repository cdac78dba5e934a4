/-
The briefs of a worker (`pc_launcher/worker_runtime.py`, `_load_thread_delta`): before each
job the worker polls the thread delta with the kinds and the task of the job.  All polls share
one cursor, and the bridge moves it over the entries that the job at hand did not ask for.
-/
import OpsCure.DeltaWalk

namespace OpsCure.ThreadDelta

open Fallible Keyset Run SessionService

/-- `_thread_delta_kinds_for_job`. -/
def threadDeltaKindsForJob (agentName jobType : String) : List String :=
  if Text.lower agentName = "curator" ∨ startsWith jobType "curation_" then
    ["user", "issue", "answer", "ops", "human", "status", "discuss_open", "discuss_reply",
      "discuss_resolve", "discuss_escalate", "done"]
  else
    ["user", "issue", "answer", "status", "discuss_open", "discuss_reply", "discuss_resolve",
      "discuss_escalate", "done"]

structure Job where
  jobType : Option String
  taskId : Option String
deriving DecidableEq, Repr

/-- What the worker asks for. -/
def Job.deltaRequest (agentName : String) (job : Job) : ThreadDeltaRequest where
  agentName := agentName
  kinds := threadDeltaKindsForJob agentName (Text.orElse job.jobType "message")
  taskId := some (upper (Text.strip (job.taskId.getD ""))) |>.filter (· ≠ "")
  limit := 12

/-- `_load_thread_delta`: the worker after it, and the brief.  A call that fails gives an empty
brief and leaves the cursor. -/
def loadThreadDelta (table : CharTable) (agents : List String) (agentName : String) (s : Walk)
    (job : Job) (reached : Bool) : Walk × List ThreadDeltaEntry :=
  match getThreadDelta table agents s.entries (job.deltaRequest agentName) s.cursor, reached with
  | .ok response, true =>
      ({ s with
          cursor := response.nextCursor.or s.cursor
          polled := true
          received := s.received ++ response.events },
        response.events)
  | _, _ => ({ s with polled := true }, [])

inductive WorkerDeed where
  | append (entry : TranscriptEntry)
  | brief (job : Job) (reached : Bool)
deriving DecidableEq

def workerStep (table : CharTable) (agents : List String) (agentName : String) (s : Walk) :
    WorkerDeed → Walk
  | .append entry => step table agents s (.append entry)
  | .brief job reached => (loadThreadDelta table agents agentName s job reached).1

def Timely (s : Walk) : WorkerDeed → Prop
  | .append entry => InOrder s.entries entry
  | .brief _ _ => True

instance (s : Walk) (deed : WorkerDeed) : Decidable (Timely s deed) :=
  match deed with
  | .append _ => inferInstanceAs (Decidable (InOrder _ _))
  | .brief _ _ => .isTrue trivial

/-- An entry appended after the first poll that the job asks for and no brief has had yet is in
the brief of the job, or lies after the cursor it leaves. -/
def BriefComplete (table : CharTable) (agents : List String) (agentName : String) (s : Walk) :
    WorkerDeed → Prop
  | .append _ => True
  | .brief job reached =>
      ∀ entry ∈ s.late, (job.deltaRequest agentName).accepts table entry →
        entry.toEvent table ∉ s.received →
        entry.toEvent table ∈ (loadThreadDelta table agents agentName s job reached).2 ∨
          isAfter encodeThreadCursor (loadThreadDelta table agents agentName s job reached).1.cursor
            entry

/-- The deed takes the entry out of reach: it is appended behind the cursor, or a poll goes past
it, because the job does not ask for it or because the first page begins after it. -/
def Loses (table : CharTable) (agents : List String) (agentName : String) (s : Walk) :
    WorkerDeed → TranscriptEntry → Prop
  | .append entry, lost => lost = entry ∧ s.polled ∧ ¬ isAfter encodeThreadCursor s.cursor entry
  | .brief job reached, lost => reached ∧ agentName ∈ agents ∧ lost ∈ s.late ∧
      (LeavesOut s.entries s.cursor lost ∨
        lost ∈ (job.deltaRequest agentName).passes table s.entries s.cursor ∧
          ¬ (job.deltaRequest agentName).accepts table lost)

/-- No job asks for an entry that it, or a deed before it, took out of reach. -/
def FiltersAgree (table : CharTable) (agents : List String) (agentName : String) (s : Walk)
    (deeds : List WorkerDeed) : Prop :=
  ∀ done deed more, done ++ deed :: more <+: deeds → ∀ lost,
    Loses table agents agentName (run (workerStep table agents agentName) s done) deed lost →
      ∀ job reached, .brief job reached ∈ deed :: more →
        ¬ (job.deltaRequest agentName).accepts table lost

/-! ## One brief -/

variable {table : CharTable} {agents : List String} {agentName : String}

variable {s : Walk} {deed : WorkerDeed} {entries : List TranscriptEntry} {entry : TranscriptEntry}
  {job : Job} {reached : Bool}

/-- A brief is the answer of a page, or empty, with the worker as it was. -/
theorem loadThreadDelta_cases (agents : List String) (agentName : String)
    (hwalking : Walking table s) (job : Job) (reached : Bool) :
    (∃ response, reached ∧ agentName ∈ agents ∧
        Page table (job.deltaRequest agentName) s.entries s.cursor response ∧
        loadThreadDelta table agents agentName s job reached =
          ({ s with
              cursor := response.nextCursor
              polled := true
              received := s.received ++ response.events },
            response.events)) ∨
      (¬ (reached ∧ agentName ∈ agents) ∧
        loadThreadDelta table agents agentName s job reached = ({ s with polled := true }, [])) := by
  unfold loadThreadDelta
  cases hdone : getThreadDelta table agents s.entries (job.deltaRequest agentName) s.cursor with
  | error =>
      right
      refine ⟨?_, rfl⟩
      intro hboth
      have hagent : (job.deltaRequest agentName).agentName ∈ agents := hboth.2
      unfold getThreadDelta require at hdone
      rw [if_pos hagent] at hdone
      cases hdone
  | ok response =>
      cases reached with
      | false =>
          right
          exact ⟨fun hboth => Bool.false_ne_true hboth.1, rfl⟩
      | true =>
          left
          have hpage := getThreadDelta_page hwalking.nodup hdone
          have hagent : agentName ∈ agents := by
            unfold getThreadDelta at hdone
            simp only [bind_eq_ok, require_eq_ok] at hdone
            obtain ⟨_, hagent, _⟩ := hdone
            exact hagent
          have hcursor : response.nextCursor.or s.cursor = response.nextCursor := by
            cases hnext : response.nextCursor with
            | some => rfl
            | none =>
                cases hplace : s.cursor with
                | none => rfl
                | some place =>
                    obtain ⟨later, hlater, _⟩ := hpage.advances place hplace
                    rw [hnext] at hlater
                    cases hlater
          refine ⟨response, rfl, hagent, hpage, ?_⟩
          simp only [hcursor]

theorem Walking.polled (hwalking : Walking table s) : Walking table { s with polled := true } :=
  ⟨hwalking.nodup, hwalking.late, nofun, hwalking.ordered, hwalking.behind, hwalking.read⟩

theorem Walking.workerStep (hwalking : Walking table s) (htimely : Timely s deed) :
    Walking table (workerStep table agents agentName s deed) := by
  cases deed with
  | append => exact hwalking.append agents htimely
  | brief job reached =>
      rcases loadThreadDelta_cases agents agentName hwalking job
        reached with ⟨response, _, _, hpage, hload⟩ | ⟨_, hload⟩
      · rw [ThreadDelta.workerStep, hload]
        exact hwalking.page hpage
      · rw [ThreadDelta.workerStep, hload]
        exact hwalking.polled

/-! ## Entries out of reach -/

/-- The entry is behind the cursor, and no brief had it. -/
def Gone (table : CharTable) (s : Walk) (entry : TranscriptEntry) : Prop :=
  entry ∈ s.late ∧ entry.toEvent table ∉ s.received ∧ ¬ isAfter encodeThreadCursor s.cursor entry

theorem entry_eq_of_event (hnodup : (entries.map encodeThreadCursor).Nodup)
    {left right : TranscriptEntry} (hleft : left ∈ entries) (hright : right ∈ entries)
    (hsame : left.toEvent table = right.toEvent table) : left = right :=
  List.inj_on_of_nodup_map hnodup hleft hright (congrArg ThreadDeltaEntry.cursor hsame)

variable {response : ThreadDeltaResponse} {lost : TranscriptEntry}

theorem Page.mem_events {request : ThreadDeltaRequest} {cursor : Option ThreadCursor}
    (hpage : Page table request entries cursor response)
    (hnodup : (entries.map encodeThreadCursor).Nodup) (hentry : entry ∈ entries) :
    entry.toEvent table ∈ response.events ↔
      entry ∈ request.passes table entries cursor ∧ request.accepts table entry := by
  rw [hpage.answers]
  constructor
  · intro hmem
    obtain ⟨found, hfound, hsame⟩ := List.mem_map.mp hmem
    obtain ⟨hpassed, haccepts⟩ := List.mem_filter.mp hfound
    rw [← entry_eq_of_event hnodup (hpage.reads found hpassed).1 hentry hsame]
    exact ⟨hpassed, haccepts⟩
  · intro hboth
    exact List.mem_map.mpr ⟨entry, List.mem_filter.mpr hboth, rfl⟩

theorem Page.keeps_behind {request : ThreadDeltaRequest} {cursor : Option ThreadCursor}
    (hpage : Page table request entries cursor response)
    (hbehind : ¬ isAfter encodeThreadCursor cursor entry) :
    ¬ isAfter encodeThreadCursor response.nextCursor entry := by
  intro hafter
  cases cursor with
  | none => exact hbehind rfl
  | some place =>
      obtain ⟨later, hlater, hle⟩ := hpage.advances place rfl
      rw [Option.mem_def.mp hlater] at hafter
      exact hbehind (decide_eq_true (lt_of_le_of_lt hle (of_decide_eq_true hafter)))

theorem Walking.not_received (hwalking : Walking table s)
    (hafter : isAfter encodeThreadCursor s.cursor entry) : entry.toEvent table ∉ s.received := by
  intro hreceived
  obtain ⟨place, hplace, hbehind⟩ := hwalking.behind _ hreceived
  rw [Option.mem_def.mp hplace] at hafter
  exact not_lt_of_ge hbehind (of_decide_eq_true hafter)

theorem Gone.step (hgone : Gone table s entry) (hwalking : Walking table s) :
    Gone table (workerStep table agents agentName s deed) entry := by
  obtain ⟨hlate, hunread, hbehind⟩ := hgone
  cases deed with
  | append added =>
      refine ⟨?_, hunread, hbehind⟩
      change entry ∈ (if s.polled then s.late ++ [added] else s.late)
      split
      · exact List.mem_append_left [added] hlate
      · exact hlate
  | brief job reached =>
      rw [workerStep]
      rcases loadThreadDelta_cases agents agentName hwalking job
        reached with ⟨response, _, _, hpage, hload⟩ | ⟨_, hload⟩
      · rw [hload]
        refine ⟨hlate, ?_, hpage.keeps_behind hbehind⟩
        intro hmem
        rcases List.mem_append.mp hmem with hstood | hnew
        · exact hunread hstood
        · obtain ⟨hpassed, _⟩ := (hpage.mem_events hwalking.nodup (hwalking.late entry hlate)).mp hnew
          exact hbehind (hpage.reads entry hpassed).2.1
      · rw [hload]
        exact ⟨hlate, hunread, hbehind⟩

/-- A deed that takes an entry out of reach leaves it behind the cursor, unread. -/
theorem Loses.gone (hloses : Loses table agents agentName s deed lost)
    (hwalking : Walking table s) (htimely : Timely s deed) :
    Gone table (workerStep table agents agentName s deed) lost := by
  cases deed with
  | append entry =>
      obtain ⟨hsame, hpolled, hbehind⟩ := hloses
      subst hsame
      refine ⟨?_, ?_, hbehind⟩
      · change lost ∈ (if s.polled then s.late ++ [lost] else s.late)
        rw [if_pos hpolled]
        exact List.mem_append_right s.late List.mem_cons_self
      · intro hreceived
        obtain ⟨entry, hentry, hevent⟩ := hwalking.read _ hreceived
        have hids : entry.id = lost.id :=
          (congrArg (fun event => (ofLex (ThreadDeltaEntry.cursor event)).2) hevent).symm
        exact htimely.2 (List.mem_map.mpr ⟨entry, hentry, hids⟩)
  | brief job reached =>
      obtain ⟨hreached, hagent, hlate, hlost⟩ := hloses
      rw [workerStep]
      rcases loadThreadDelta_cases agents agentName hwalking job
        reached with ⟨response, _, _, hpage, hload⟩ | ⟨hfailed, _⟩
      · rw [hload]
        have hentry := hwalking.late lost hlate
        have hafter : isAfter encodeThreadCursor s.cursor lost := by
          rcases hlost with hleft | hpassed
          · rw [hleft.1]
            rfl
          · exact (hpage.reads lost hpassed.1).2.1
        refine ⟨hlate, ?_, ?_⟩
        · intro hmem
          rcases List.mem_append.mp hmem with hstood | hnew
          · exact hwalking.not_received hafter hstood
          · obtain ⟨hpassed, haccepts⟩ := (hpage.mem_events hwalking.nodup hentry).mp hnew
            rcases hlost with hleft | hrejected
            · have hrow := passes_subset table _ hpassed
              rw [hleft.1] at hrow
              exact hleft.2 hrow
            · exact hrejected.2 haccepts
        · rcases hlost with hleft | hpassed
          · exact hpage.leaves lost hentry hleft
          · intro hahead
            obtain ⟨place, hplace, hle⟩ := (hpage.reads lost hpassed.1).2.2
            have hahead : isAfter encodeThreadCursor response.nextCursor lost := hahead
            rw [Option.mem_def.mp hplace] at hahead
            exact not_lt_of_ge hle (of_decide_eq_true hahead)
      · exact absurd ⟨hreached, hagent⟩ hfailed

theorem Gone.not_brief (hgone : Gone table s entry) (hwalking : Walking table s)
    (haccepts : (job.deltaRequest agentName).accepts table entry) :
    ¬ BriefComplete table agents agentName s (.brief job reached) := by
  intro hcomplete
  obtain ⟨hlate, hunread, hbehind⟩ := hgone
  have hfound := hcomplete entry hlate haccepts hunread
  rcases loadThreadDelta_cases agents agentName hwalking job
    reached with ⟨response, _, _, hpage, hload⟩ | ⟨_, hload⟩
  · rw [hload] at hfound
    rcases hfound with hmem | hafter
    · obtain ⟨hpassed, _⟩ := (hpage.mem_events hwalking.nodup (hwalking.late entry hlate)).mp hmem
      exact hbehind (hpage.reads entry hpassed).2.1
    · exact hpage.keeps_behind hbehind hafter
  · rw [hload] at hfound
    rcases hfound with hmem | hafter
    · cases hmem
    · exact hbehind hafter

theorem loadThreadDelta_received (hwalking : Walking table s) (job : Job) (reached : Bool) :
    (loadThreadDelta table agents agentName s job reached).1.received =
      s.received ++ (loadThreadDelta table agents agentName s job reached).2 := by
  rcases loadThreadDelta_cases agents agentName hwalking job
    reached with ⟨response, _, _, _, hload⟩ | ⟨_, hload⟩
  · rw [hload]
  · rw [hload, List.append_nil]

theorem Loses.not_brief (hloses : Loses table agents agentName s (.brief job reached) lost)
    (hwalking : Walking table s) (haccepts : (job.deltaRequest agentName).accepts table lost) :
    ¬ BriefComplete table agents agentName s (.brief job reached) := by
  intro hcomplete
  obtain ⟨_, hunread, hbehind⟩ := hloses.gone hwalking trivial
  rw [workerStep, loadThreadDelta_received hwalking, List.mem_append, not_or] at hunread
  rcases hcomplete lost hloses.2.2.1 haccepts hunread.1 with hmem | hafter
  · exact hunread.2 hmem
  · exact hbehind hafter

theorem brief_reaches (hwalking : Walking table s) (hlate : entry ∈ s.late)
    (hafter : isAfter encodeThreadCursor s.cursor entry)
    (hkept : ¬ Loses table agents agentName s (.brief job reached) entry) :
    entry.toEvent table ∈ (loadThreadDelta table agents agentName s job reached).2 ∨
      isAfter encodeThreadCursor (loadThreadDelta table agents agentName s job reached).1.cursor
        entry := by
  have hentry := hwalking.late entry hlate
  rcases loadThreadDelta_cases agents agentName hwalking job
    reached with ⟨response, hreached, hagent, hpage, hload⟩ | ⟨_, hload⟩
  · rw [hload]
    rcases hpage.covers entry hentry hafter with hleft | hpassed | hahead
    · exact absurd ⟨hreached, hagent, hlate, Or.inl hleft⟩ hkept
    · left
      rw [hpage.mem_events hwalking.nodup hentry]
      refine ⟨hpassed, ?_⟩
      by_contra hrejects
      exact hkept ⟨hreached, hagent, hlate, Or.inr ⟨hpassed, hrejects⟩⟩
    · exact Or.inr hahead
  · rw [hload]
    exact Or.inr hafter

/-! ## Whole runs -/

/-- What the jobs to come ask for has been delivered or lies ahead. -/
def Kept (table : CharTable) (agentName : String) (s : Walk) (rest : List WorkerDeed) : Prop :=
  ∀ entry ∈ s.late, ∀ job reached, .brief job reached ∈ rest →
    (job.deltaRequest agentName).accepts table entry →
    entry.toEvent table ∈ s.received ∨ isAfter encodeThreadCursor s.cursor entry

theorem Kept.step {rest : List WorkerDeed} (hkept : Kept table agentName s (deed :: rest))
    (hwalking : Walking table s)
    (hagree : ∀ lost, Loses table agents agentName s deed lost → ∀ job reached,
      .brief job reached ∈ deed :: rest → ¬ (job.deltaRequest agentName).accepts table lost) :
    Kept table agentName (workerStep table agents agentName s deed) rest := by
  intro entry hlate job reached hjob haccepts
  have hlater : .brief job reached ∈ deed :: rest := List.mem_cons_of_mem deed hjob
  have hnot : ¬ Loses table agents agentName s deed entry := by
    intro hloses
    exact hagree entry hloses job reached hlater haccepts
  cases deed with
  | append added =>
      change entry ∈ (if s.polled then s.late ++ [added] else s.late) at hlate
      change entry.toEvent table ∈ s.received ∨ isAfter encodeThreadCursor s.cursor entry
      split at hlate
      · rename_i hpolled
        rcases List.mem_append.mp hlate with hstood | hnew
        · exact hkept entry hstood job reached hlater haccepts
        · rw [List.mem_singleton] at hnew
          subst hnew
          right
          by_contra hbehind
          exact hnot ⟨rfl, hpolled, hbehind⟩
      · exact hkept entry hlate job reached hlater haccepts
  | brief asked answered =>
      have hbefore : entry ∈ s.late := by
        rw [workerStep] at hlate
        rcases loadThreadDelta_cases agents agentName hwalking asked
          answered with ⟨_, _, _, _, hload⟩ | ⟨_, hload⟩
        · rw [hload] at hlate
          exact hlate
        · rw [hload] at hlate
          exact hlate
      rw [workerStep, loadThreadDelta_received hwalking, List.mem_append]
      rcases hkept entry hbefore job reached hlater haccepts with hreceived | hafter
      · exact Or.inl (Or.inl hreceived)
      · rcases brief_reaches hwalking hbefore hafter hnot with hbrief | hahead
        · exact Or.inl (Or.inr hbrief)
        · exact Or.inr hahead

theorem Gone.run {deeds : List WorkerDeed} (hgone : Gone table s entry)
    (hwalking : Walking table s)
    (htimely : Along (workerStep table agents agentName) Timely s deeds) :
    Gone table (Run.run (workerStep table agents agentName) s deeds) entry := by
  induction deeds generalizing s with
  | nil => exact hgone
  | cons deed deeds ih =>
      rw [along_cons_iff] at htimely
      exact ih (hgone.step hwalking) (hwalking.workerStep htimely.1) htimely.2

/-- In every run of a worker the briefs miss nothing exactly when no job asks for an entry that
its poll, or a deed before it, took out of reach. -/
theorem worker_briefs_iff (table : CharTable) (agents : List String) (agentName : String)
    (deeds : List WorkerDeed)
    (htimely : Along (workerStep table agents agentName) Timely Walk.start deeds) :
    Along (workerStep table agents agentName) (BriefComplete table agents agentName) Walk.start
        deeds ↔
      FiltersAgree table agents agentName Walk.start deeds := by
  have hwalking : Throughout (workerStep table agents agentName) (Walking table) Walk.start
      deeds := by
    refine throughout_of_preserved (Walking.start table) ?_
    intro done deed hdeed hhere
    exact hhere.workerStep (htimely done deed hdeed)
  constructor
  · intro hcomplete done deed more hdone lost hloses job reached hjob haccepts
    have hnext : done ++ [deed] <+: deeds := by
      refine List.IsPrefix.trans ?_ hdone
      exact (List.prefix_append_right_inj done).mpr ⟨more, rfl⟩
    have hhere := hwalking done ((List.prefix_append done [deed]).trans hnext)
    rcases List.mem_cons.mp hjob with hsame | hlater
    · rw [← hsame] at hloses hnext
      exact hloses.not_brief hhere haccepts (hcomplete done _ hnext)
    · obtain ⟨between, after, hmore⟩ := List.append_of_mem hlater
      have hgone := hloses.gone hhere (htimely done deed hnext)
      have hsplit : done ++ deed :: more =
          (done ++ [deed]) ++ between ++ [WorkerDeed.brief job reached] ++ after := by
        rw [hmore]
        simp
      rw [hsplit] at hdone
      have hjobs := (List.prefix_append _ after).trans hdone
      have hbetween := (List.prefix_append _ [WorkerDeed.brief job reached]).trans hjobs
      have hlast : Gone table (run (workerStep table agents agentName) Walk.start
          ((done ++ [deed]) ++ between)) lost := by
        rw [run_append]
        apply Gone.run _ (hwalking _ hnext) (htimely.drop hbetween)
        rw [run_concat]
        exact hgone
      exact hlast.not_brief (hwalking _ hbetween) haccepts (hcomplete _ _ hjobs)
  · intro hagree
    have hkept : ∀ done rest, done ++ rest <+: deeds →
        Kept table agentName (run (workerStep table agents agentName) Walk.start done) rest := by
      intro done
      induction done using List.reverseRecOn with
      | nil =>
          intro rest _ entry hlate
          cases hlate
      | append_singleton done deed ih =>
          intro rest hdone
          rw [List.append_assoc] at hdone
          rw [run_concat]
          apply (ih (deed :: rest) hdone).step
          · exact hwalking done ((List.prefix_append done (deed :: rest)).trans hdone)
          · exact hagree done deed rest hdone
    intro done deed hdone
    cases deed with
    | append entry => trivial
    | brief job reached =>
        intro entry hlate haccepts hunread
        have hfirst : WorkerDeed.brief job reached ∈ [WorkerDeed.brief job reached] :=
          List.mem_singleton_self _
        rcases hkept done _ hdone entry hlate job reached hfirst haccepts with hreceived | hafter
        · exact absurd hreceived hunread
        · apply brief_reaches _ hlate hafter
          · intro hloses
            exact hagree done _ [] hdone entry hloses job reached hfirst haccepts
          · exact hwalking done ((List.prefix_append done _).trans hdone)

def twoTasks : List WorkerDeed :=
  [.brief ⟨none, some "T-001"⟩ true,
    .append (said "a" (by decide) "T-001 starts" 1),
    .append (said "b" (by decide) "T-002 starts" 2),
    .brief ⟨none, some "T-001"⟩ true]

theorem two_tasks_briefed_iff :
    Along (workerStep CharTable.ascii ["coder"] "coder")
        (BriefComplete CharTable.ascii ["coder"] "coder") Walk.start twoTasks ↔
      FiltersAgree CharTable.ascii ["coder"] "coder" Walk.start twoTasks :=
  worker_briefs_iff CharTable.ascii ["coder"] "coder" twoTasks (by decide)

/-- The poll for the first task goes past the entry on the second, whose job is not briefed. -/
theorem other_task_missed :
    Along (workerStep CharTable.ascii ["coder"] "coder") Timely Walk.start
        (twoTasks ++ [.brief ⟨none, some "T-002"⟩ true]) ∧
      ¬ Along (workerStep CharTable.ascii ["coder"] "coder")
        (BriefComplete CharTable.ascii ["coder"] "coder") Walk.start
        (twoTasks ++ [.brief ⟨none, some "T-002"⟩ true]) := by
  refine ⟨by decide, ?_⟩
  intro hcomplete
  have hlast := hcomplete twoTasks (.brief ⟨none, some "T-002"⟩ true) (List.prefix_refl _)
  have hfound := hlast (said "b" (by decide) "T-002 starts" 2) (by decide)
    (by decide) (by decide)
  revert hfound
  decide

end OpsCure.ThreadDelta
