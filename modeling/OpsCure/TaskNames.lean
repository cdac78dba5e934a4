/-
The names of tasks on both sides of a job (`session_service.py`, `_to_job_payload`;
`worker_runtime.py`, `_run_cli_for_job`).  The payload carries the id of the task's row, a uuid,
and the worker takes it for the task's key: it asks the thread delta for it, and names a card
after it that the next reader of the index drops.
-/
import Mathlib.Data.Bool.AllAny
import Mathlib.Data.List.DropRight
import OpsCure.SessionService
import OpsCure.TaskIndex

namespace OpsCure.Workspace

open SharedCell SharedCell.Program ThreadDelta SessionService

/-- The last `width` hexadecimal digits of a number. -/
def hexDigits : Nat → Nat → List Char
  | 0, _ => []
  | width + 1, value => hexDigits width (value / 16) ++ [Nat.digitChar (value % 16)]

/-- `str(uuid)`, of the number the uuid is. -/
def uuidText (value : Nat) : String :=
  String.ofList (hexDigits 8 (value / 2 ^ 96) ++ '-' :: hexDigits 4 (value / 2 ^ 80) ++
    '-' :: hexDigits 4 (value / 2 ^ 64) ++ '-' :: hexDigits 4 (value / 2 ^ 48) ++
    '-' :: hexDigits 12 value)

structure JobPayload extends ThreadDelta.Job where
  inputText : String
deriving DecidableEq, Repr

/-- `_to_job_payload`, with the uuids of the task rows. -/
def toJobPayload (uuids : Id → Nat) (job : JobRow) (inputText : String) : JobPayload where
  jobType := some job.jobType
  taskId := job.taskId.map fun id => uuidText (uuids id)
  inputText := inputText

/-- `str(job.get("task_id") or "").strip().upper() or None`. -/
def JobPayload.workerTaskId (payload : JobPayload) : Option String :=
  some (upper (Text.strip (payload.taskId.getD ""))) |>.filter (· ≠ "")

/-- How the tool of a worker ends. -/
inductive CliOutcome where
  | result (output : CliOutput)
  | failure (summary : String)
deriving DecidableEq, Repr

/-- What a worker leaves of a job: the task of its brief, and the files of the task whose result
it records. -/
structure Passage where
  brief : BriefedTask
  taskFiles : List WorkspaceFile
deriving DecidableEq, Repr

/-- The names the worker gives to the files of a job, and its clock at the brief and at the end. -/
structure JobStamps where
  briefName : String
  logName : String
  briefedAt : Time
  recordedAt : Time
deriving DecidableEq, Repr

/-- `_run_cli_for_job`, as far as it touches the index. -/
def runCliForJob (table : DigitTable) (rounds : Nat) (agentName : String) (payload : JobPayload)
    (outcome : CliOutcome) (stamps : JobStamps) : Program Index Passage := do
  let brief ← writeJobBrief table rounds agentName (Text.orElse payload.jobType "message")
    payload.inputText payload.workerTaskId stamps.briefName stamps.briefedAt
  let taskFiles ← match outcome with
    | .result output => do
        let recorded ← recordCliResult table rounds agentName payload.inputText output
          payload.workerTaskId stamps.logName stamps.recordedAt
        pure recorded.taskFiles
    | .failure summary =>
        recordCliFailure table rounds agentName payload.inputText summary payload.workerTaskId
          stamps.logName stamps.recordedAt
  return ⟨brief, taskFiles⟩

/-- A key of the bridge: `T-` and some digits. -/
def IsTaskKey (key : String) : Prop := ∃ digits, key.toList = 'T' :: '-' :: digits

/-- Worker and bridge mean the same task by a job.  The poll of the worker asks for the key and
gives what a poll for the key gives, the brief and the result are about the card of the key, and
no index the worker writes has the job's task under another name. -/
structure NamesAlike (table : DigitTable) (agents : List String) (agentName : String)
    (s : Walk) (reached : Bool) (payload : JobPayload) (key : String)
    (accesses : List (Access Index)) (passage : Passage) : Prop where
  asks : (payload.deltaRequest agentName).normalizedTaskId = some key
  answered : (loadThreadDelta table.toCharTable agents agentName s payload.toJob reached).2 =
    (loadThreadDelta table.toCharTable agents agentName s
      { payload.toJob with taskId := some key } reached).2
  briefs : passage.brief.taskPath = some (taskFile key)
  settles : taskFile key ∈ passage.taskFiles
  keeps : ∀ index, .write index ∈ accesses → ∀ name ∈ payload.workerTaskId,
    name ∈ index.names → name = key

/-! ## Ids of rows -/

/-- A text that starts with a hexadecimal digit, as the text of a uuid does. -/
def StartsHex (text : String) : Prop :=
  ∃ c rest, text.toList = c :: rest ∧ c ∈ "0123456789abcdefABCDEF".toList

theorem hexDigit_ne_tee {c : Char} (hhex : c ∈ "0123456789abcdefABCDEF".toList) :
    c ≠ 'T' ∧ c ≠ 't' ∧ Text.isSpace c = false ∧
      c.toUpper ∈ "0123456789abcdefABCDEF".toList := by
  have hall : ∀ c ∈ "0123456789abcdefABCDEF".toList, c ≠ 'T' ∧ c ≠ 't' ∧
      Text.isSpace c = false ∧ c.toUpper ∈ "0123456789abcdefABCDEF".toList :=
    List.all_iff_forall_prop.mp (by decide)
  exact hall c hhex

theorem strip_keeps {first last : Char} {front middle rest : List Char}
    (hfirst : front = first :: middle) (hlast : front.getLast? = some last)
    (hopens : Text.isSpace first = false) (hcloses : Text.isSpace last = false) :
    ∃ kept, (Text.strip (String.ofList (front ++ rest))).toList = front ++ kept := by
  have hleft : (front ++ rest).dropWhile Text.isSpace = front ++ rest := by
    rw [hfirst, List.cons_append, List.dropWhile_cons_of_neg]
    rw [hopens]
    exact Bool.false_ne_true
  have hright : front.reverse.dropWhile Text.isSpace = front.reverse := by
    cases hback : front.reverse with
    | nil => rfl
    | cons =>
        rw [List.getLast?_eq_head?_reverse, hback] at hlast
        cases hlast
        apply List.dropWhile_cons_of_neg
        rw [hcloses]
        exact Bool.false_ne_true
  unfold Text.strip
  rw [String.toList_ofList, String.toList_ofList, hleft, List.reverse_append,
    List.dropWhile_append]
  split
  · rw [hright, List.reverse_reverse]
    exact ⟨[], (List.append_nil front).symm⟩
  · rw [List.reverse_append, List.reverse_reverse]
    exact ⟨_, rfl⟩

variable {text key name : String}

theorem StartsHex.strip (hhex : StartsHex text) : StartsHex (Text.strip text) := by
  obtain ⟨c, rest, htext, hc⟩ := hhex
  have hspace := (hexDigit_ne_tee hc).2.2.1
  have hlast : [c].getLast? = some c := rfl
  obtain ⟨kept, hkept⟩ : ∃ kept,
      (Text.strip (String.ofList ([c] ++ rest))).toList = [c] ++ kept :=
    strip_keeps rfl hlast hspace hspace
  have hsame : text = String.ofList (c :: rest) := by rw [← htext, String.ofList_toList]
  rw [hsame]
  exact ⟨c, kept, hkept, hc⟩

theorem StartsHex.upper (hhex : StartsHex text) : StartsHex (upper text) := by
  obtain ⟨c, rest, htext, hc⟩ := hhex
  refine ⟨c.toUpper, rest.map Char.toUpper, ?_, (hexDigit_ne_tee hc).2.2.2⟩
  rw [ThreadDelta.upper, String.toList_ofList, htext, List.map_cons]

theorem StartsHex.ne_empty (hhex : StartsHex text) : text ≠ "" := by
  obtain ⟨c, rest, htext, _⟩ := hhex
  intro hempty
  rw [hempty] at htext
  cases htext

theorem StartsHex.not_task (hhex : StartsHex text) : ¬ IsTaskKey text := by
  obtain ⟨c, rest, htext, hc⟩ := hhex
  rintro ⟨digits, hkey⟩
  rw [htext] at hkey
  exact (hexDigit_ne_tee hc).1 (List.cons.inj hkey).1

theorem StartsHex.not_canonical (hhex : StartsHex text) (table : DigitTable) :
    ¬ isCanonical table text := by
  obtain ⟨c, rest, htext, hc⟩ := hhex
  intro hcanonical
  unfold isCanonical canonicalDigits at hcanonical
  rw [htext] at hcanonical
  split at hcanonical
  · rename_i t digits hsame
    rw [← (List.cons.inj hsame).1] at hcanonical
    rw [if_neg (by
      intro hall
      rcases hall.1 with hupper | hlower
      · exact (hexDigit_ne_tee hc).1 hupper
      · exact (hexDigit_ne_tee hc).2.1 hlower)] at hcanonical
    cases hcanonical
  · cases hcanonical

theorem hexDigits_ne_nil (width value : Nat) :
    ∃ c rest, hexDigits (width + 1) value = c :: rest ∧
      c ∈ "0123456789abcdefABCDEF".toList := by
  have hdigit : ∀ digit < 16,
      Nat.digitChar digit ∈ "0123456789abcdefABCDEF".toList := by decide
  induction width generalizing value with
  | zero => exact ⟨_, [], rfl, hdigit _ (Nat.mod_lt _ (by decide))⟩
  | succ width ih =>
      obtain ⟨c, rest, hdigits, hc⟩ := ih (value / 16)
      exact ⟨c, rest ++ [Nat.digitChar (value % 16)], by rw [hexDigits, hdigits]; rfl, hc⟩

theorem startsHex_uuidText (value : Nat) : StartsHex (uuidText value) := by
  obtain ⟨c, rest, hdigits, hc⟩ := hexDigits_ne_nil 7 (value / 2 ^ 96)
  unfold uuidText
  rw [hdigits]
  exact ⟨c, _, String.toList_ofList, hc⟩

/-! ## Keys -/

theorem isTaskKey_extract {table : CharTable} {content : String}
    (hkey : extractTranscriptTaskId table content = some key) : IsTaskKey key := by
  have hsearch : ∀ (text : List Char) (afterWord : Bool) (found : List Char),
      searchTaskCardId table afterWord text = some found →
        ∃ t rest, found = t :: '-' :: rest ∧ (t = 'T' ∨ t = 't') := by
    intro text
    induction text with
    | nil =>
        intro afterWord found hfound
        cases hfound
    | cons c rest ih =>
        intro afterWord found hfound
        rw [searchTaskCardId, Option.or_eq_some_iff] at hfound
        rcases hfound with hhere | ⟨_, hlater⟩
        · split at hhere
          · cases hhere
          · unfold taskCardIdAt at hhere
            split at hhere
            · split at hhere
              · rename_i hmatch
                cases hhere
                exact ⟨_, _, rfl, hmatch.1⟩
              · cases hhere
            · cases hhere
        · exact ih _ found hlater
  unfold extractTranscriptTaskId at hkey
  split at hkey
  · cases hkey
  · obtain ⟨found, hfound, rfl⟩ := Option.map_eq_some_iff.mp hkey
    obtain ⟨t, rest, rfl, ht⟩ := hsearch _ _ _ hfound
    have hspace : Text.isSpace t = false ∧ t.toUpper = 'T' := by
      rcases ht with rfl | rfl
      · decide
      · decide
    have hlast : [t, '-'].getLast? = some '-' := rfl
    obtain ⟨kept, hkept⟩ : ∃ kept,
        (Text.strip (String.ofList ([t, '-'] ++ rest))).toList = [t, '-'] ++ kept :=
      strip_keeps rfl hlast hspace.1 (by decide)
    refine ⟨kept.map Char.toUpper, ?_⟩
    unfold ThreadDelta.upper
    change ((Text.strip (String.ofList ([t, '-'] ++ rest))).toList.map Char.toUpper |>
      String.ofList).toList = _
    rw [String.toList_ofList, hkept, List.map_append, List.map_cons, hspace.2]
    rfl

/-! ## The poll -/

variable {table : DigitTable} {agents : List String} {agentName : String} {payload : JobPayload}

theorem loadThreadDelta_hex {job : ThreadDelta.Job} {taskId : String}
    (htask : job.taskId = some taskId) (hhex : StartsHex taskId) (s : Walk) (reached : Bool) :
    (∃ asked, (job.deltaRequest agentName).normalizedTaskId = some asked ∧ StartsHex asked) ∧
      (loadThreadDelta table.toCharTable agents agentName s job reached).2 = [] := by
  have hname := hhex.strip.upper
  have hasked : (job.deltaRequest agentName).normalizedTaskId =
      some (ThreadDelta.upper (Text.strip (ThreadDelta.upper (Text.strip taskId)))) := by
    unfold ThreadDeltaRequest.normalizedTaskId ThreadDelta.Job.deltaRequest
    rw [htask]
    simp [Option.filter_some, hname.ne_empty, hname.strip.upper.ne_empty]
  refine ⟨⟨_, hasked, hname.strip.upper⟩, ?_⟩
  have hrejects : ∀ entry,
      (job.deltaRequest agentName).accepts table.toCharTable entry = false := by
    intro entry
    unfold ThreadDeltaRequest.accepts
    rw [hasked, Option.all_some, Bool.and_eq_false_iff]
    right
    apply decide_eq_false
    intro hfound
    exact hname.strip.upper.not_task (isTaskKey_extract hfound)
  unfold loadThreadDelta
  cases hdone : getThreadDelta table.toCharTable agents s.entries (job.deltaRequest agentName)
    s.cursor with
  | error => rfl
  | ok =>
      cases reached with
      | false => rfl
      | true =>
          unfold getThreadDelta at hdone
          simp only [Fallible.bind_eq_ok, Fallible.pure_eq_ok] at hdone
          obtain ⟨_, _, hscan⟩ := hdone
          simp only [← hscan, scanRows_eq]
          simp [hrejects]

/-! ## The passage of a job -/

variable {rounds : Nat} {accesses : List (Access Index)}

theorem gives_writeJobBrief {agentName jobType userText briefName : String} {now : Time}
    {brief : BriefedTask} (hname : name ≠ "")
    (hgives : (writeJobBrief table rounds agentName jobType userText (some name) briefName
      now).Gives accesses brief) :
    brief.taskPath = some (taskFile name) ∧
      ∃ index, .write index ∈ accesses ∧ name ∈ index.names := by
  have hresolved : orOther (some name) (extractTaskId table userText) = some name := by
    simp [orOther, Text.present, hname]
  have hnone : ¬ (some name = none ∧ jobType = "orchestration") := by
    intro hboth
    cases hboth.1
  unfold writeJobBrief at hgives
  simp only [hresolved, if_neg hnone, gives_bind_iff, gives_pure] at hgives
  obtain ⟨_, _, _, rfl, ⟨rfl, rfl⟩, hrest⟩ := hgives
  simp only [gives_bind_iff, gives_pure] at hrest
  obtain ⟨_, _, _, rfl, hclaim, _, rfl⟩ := hrest
  obtain ⟨rfl, index, hwritten, hmem⟩ := gives_claimTaskForJob hclaim
  exact ⟨rfl, index, List.mem_append_right _ (List.mem_append_left _ hwritten), hmem⟩

theorem gives_runCliForJob {outcome : CliOutcome} {stamps : JobStamps} {passage : Passage}
    (hpayload : payload.workerTaskId = some name) (hname : name ≠ "")
    (hcanonical : ¬ isCanonical table name)
    (hgives : (runCliForJob table rounds agentName payload outcome stamps).Gives accesses
      passage) :
    passage.brief.taskPath = some (taskFile name) ∧
      passage.taskFiles ⊆ [taskFile name, .taskBoard] ∧
      ∃ index, .write index ∈ accesses ∧ name ∈ index.names := by
  have hresolved : orOther (some name) (extractTaskId table payload.inputText) = some name := by
    simp [orOther, Text.present, hname]
  unfold runCliForJob at hgives
  rw [hpayload] at hgives
  simp only [gives_bind_iff] at hgives
  obtain ⟨brief, front, _, rfl, hbrief, hrest⟩ := hgives
  obtain ⟨hpath, index, hwritten, hmem⟩ := gives_writeJobBrief hname hbrief
  cases outcome with
  | result =>
      unfold recordCliResult at hrest
      simp only [hresolved, gives_bind_iff, gives_pure] at hrest
      obtain ⟨_, _, _, rfl, ⟨_, _, _, rfl, _, _, _, _, rfl, hfiles, _, rfl⟩, _, _, _, rfl,
        ⟨_, rfl⟩, _, rfl⟩ := hrest
      refine ⟨hpath, ?_, index, List.mem_append_left _ hwritten, hmem⟩
      intro file hfile
      rw [gives_finalizeCurrentTask hcanonical hfiles, List.mem_singleton] at hfile
      rw [hfile]
      exact List.mem_cons_of_mem _ List.mem_cons_self
  | failure =>
      unfold recordCliFailure at hrest
      simp only [hresolved, gives_bind_iff, gives_pure] at hrest
      obtain ⟨_, _, _, rfl, hfiles, _, rfl⟩ := hrest
      refine ⟨hpath, ?_, index, List.mem_append_left _ hwritten, hmem⟩
      rw [gives_markTaskFailed hfiles]
      exact List.Subset.refl _

def BoundTo (s : State) (job : JobRow) (key : String) : Prop :=
  IsTaskKey key ∧ ∃ id task, job.taskId = some id ∧ s.tasks[id]? = some task ∧ task.taskKey = key

theorem toJobPayload_taskId {s : State} {job : JobRow} (hbound : BoundTo s job key)
    (uuids : Id → Nat) (inputText : String) :
    ∃ taskId, (toJobPayload uuids job inputText).taskId = some taskId ∧ StartsHex taskId := by
  obtain ⟨_, id, _, hid, _⟩ := hbound
  refine ⟨uuidText (uuids id), ?_, startsHex_uuidText _⟩
  unfold toJobPayload
  simp only [hid, Option.map_some]

theorem StartsHex.taskFile_ne (hhex : StartsHex name) (hkey : IsTaskKey key) :
    taskFile name ≠ taskFile key := by
  obtain ⟨digits, hdigits⟩ := hkey
  intro hsame
  have hupper : ThreadDelta.upper name = ThreadDelta.upper key := WorkspaceFile.taskCard.inj hsame
  apply hhex.upper.not_task
  rw [hupper]
  refine ⟨digits.map Char.toUpper, ?_⟩
  rw [ThreadDelta.upper, String.toList_ofList, hdigits]
  rfl

/-- Whatever is in the transcript and whatever other workers write to the index: of a job that is
bound to a task, the worker never asks for the key of the task and is told nothing; it briefs and
settles another card than that of the key, and writes the card of the row's id. -/
theorem tasks_never_named_alike {s : State} {job : JobRow} {key : String}
    (hbound : BoundTo s job key) (table : DigitTable) (uuids : Id → Nat) (inputText : String)
    (agents : List String) (agentName : String) (walk : Walk) (reached : Bool) {rounds : Nat}
    {outcome : CliOutcome} {stamps : JobStamps} {accesses : List (Access Index)}
    {passage : Passage}
    (hgives : (runCliForJob table rounds agentName (toJobPayload uuids job inputText) outcome
      stamps).Gives accesses passage) :
    ¬ NamesAlike table agents agentName walk reached (toJobPayload uuids job inputText) key
        accesses passage ∧
      ((toJobPayload uuids job inputText).deltaRequest agentName).normalizedTaskId ≠ some key ∧
      (loadThreadDelta table.toCharTable agents agentName walk
        (toJobPayload uuids job inputText).toJob reached).2 = [] ∧
      passage.brief.taskPath ≠ some (taskFile key) ∧
      taskFile key ∉ passage.taskFiles ∧
      ∃ index name, .write index ∈ accesses ∧
        name ∈ (toJobPayload uuids job inputText).workerTaskId ∧ name ∈ index.names ∧
          name ≠ key := by
  obtain ⟨taskId, htaskId, hhex⟩ := toJobPayload_taskId hbound uuids inputText
  have hname := hhex.strip.upper
  have hpayload : (toJobPayload uuids job inputText).workerTaskId =
      some (ThreadDelta.upper (Text.strip taskId)) := by
    unfold JobPayload.workerTaskId
    rw [htaskId]
    simp [Option.filter_some, hname.ne_empty]
  obtain ⟨⟨asked, hasked, haskedHex⟩, hevents⟩ :=
    @loadThreadDelta_hex table agents agentName _ _ htaskId hhex walk reached
  have hasks : ((toJobPayload uuids job inputText).deltaRequest agentName).normalizedTaskId ≠
      some key := by
    rw [hasked]
    intro hsame
    rw [Option.some.inj hsame] at haskedHex
    exact haskedHex.not_task hbound.1
  obtain ⟨hpath, hfiles, index, hwritten, hmem⟩ :=
    gives_runCliForJob hpayload hname.ne_empty (hname.not_canonical table) hgives
  refine ⟨fun halike => hasks halike.asks, hasks, hevents, ?_, ?_, index, _, hwritten, hpayload,
    hmem, ?_⟩
  · rw [hpath]
    intro hsame
    exact hname.taskFile_ne hbound.1 (Option.some.inj hsame)
  · intro hfile
    rcases List.mem_cons.mp (hfiles hfile) with hcard | hboard
    · exact hname.taskFile_ne hbound.1 hcard.symm
    · rw [List.mem_singleton] at hboard
      cases hboard
  · intro hsame
    rw [hsame] at hname
    exact hname.not_task hbound.1

def boundJob : JobRow where
  agentName := "coder"
  jobType := "handoff"
  status := .inProgress
  taskId := some 0
  handoffId := none
  sessionEpoch := 1
  taskRevision := 1
  leaseToken := some "lease"
  workerId := some "worker"
  createdAt := 0
  claimedAt := some 0

def boundState : State :=
  { State.start [("coder", "coding")] 0 with tasks := [blankTask "T-001"], jobs := [boundJob] }

theorem boundJob_bound : BoundTo boundState boundJob "T-001" :=
  ⟨⟨['0', '0', '1'], by decide⟩, 0, blankTask "T-001", rfl, rfl, rfl⟩

/-- The transcript of the session names the task. -/
def boundWalk : Walk where
  entries := [⟨⟨"e", by decide⟩, "inbound", "human", "T-001 is next", 0⟩]
  cursor := none
  polled := false
  late := []
  received := []

/-- The worker handles the job alone, from an index that has the card of the task. -/
def boundPassage : Passage × List (Access Index) :=
  (runCliForJob .ascii 1 "coder" (toJobPayload (fun _ => 7) boundJob "Go on")
    (.result ⟨["ok"], [], [], [], [], ""⟩) ⟨"brief", "log", 1, 2⟩).alone
    [("T-001", newJobCard .ascii "T-001" "planner" "Go on" "earlier" 0)]

theorem boundJob_misnamed :
    ¬ NamesAlike .ascii ["coder"] "coder" boundWalk true (toJobPayload (fun _ => 7) boundJob "Go on")
      "T-001" boundPassage.2 boundPassage.1 :=
  (tasks_never_named_alike boundJob_bound .ascii (fun _ => 7) "Go on" ["coder"] "coder" boundWalk
    true (gives_alone _ _)).1

/-- The worker is told nothing of the entry, briefs the card of another name, and settles none. -/
theorem bound_card_never_settled :
    (loadThreadDelta .ascii ["coder"] "coder" boundWalk
        (toJobPayload (fun _ => 7) boundJob "Go on").toJob true).2 = [] ∧
      (loadThreadDelta .ascii ["coder"] "coder" boundWalk ⟨"handoff", "T-001"⟩ true).2.length = 1 ∧
      boundPassage.1.taskFiles = [.taskBoard] ∧
      boundPassage.1.brief.taskPath = some (.taskCard "00000000-0000-0000-0000-000000000007") ∧
      ¬ NamesAlike .ascii ["coder"] "coder" boundWalk true
        (toJobPayload (fun _ => 7) boundJob "Go on") "T-001" boundPassage.2 boundPassage.1 := by
  have hfiles : boundPassage.1.taskFiles = [.taskBoard] := by decide
  refine ⟨by decide, by decide, hfiles, by decide, ?_⟩
  intro halike
  have hsettled := halike.settles
  rw [hfiles] at hsettled
  simp [taskFile] at hsettled

end OpsCure.Workspace
