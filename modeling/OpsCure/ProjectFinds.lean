/-
The queue of project finds (`session_service.py`): which launcher is handed a search, and
whose report counts.
-/
import OpsCure.Library.Fallible
import OpsCure.Library.Run
import OpsCure.Library.Table

namespace OpsCure.ProjectFinds

open Fallible Table Run

abbrev Id := Nat

abbrev Time := Int

/-! ## The rows -/

structure Candidate where
  path : String
  displayName : String
  rationale : Option String
  score : Option Rat
deriving DecidableEq

/-- What a launcher reports of a search. -/
structure FindReport where
  selectedPath : Option String
  selectedName : Option String
  reason : Option String
  confidence : Option Rat
  candidates : List Candidate
  errorText : Option String
deriving DecidableEq

/-- A row of `project_finds`. -/
structure FindRow where
  preset : String
  queryText : String
  requestedBy : String
  guildId : String
  parentChannelId : String
  status : String
  launcherId : Option String
  report : Option FindReport
  sessionId : Option String
  discordThreadId : Option String
  createdAt : Time
  claimedAt : Option Time
  completedAt : Option Time
deriving DecidableEq

inductive FindError where
  | notFound
  | ownedByAnother
deriving DecidableEq

def FindError.text : FindError → String
  | notFound => "Project find request not found."
  | ownedByAnother => "Project find request is owned by another launcher."

/-- What a launcher was handed, or has reported. -/
inductive Entry where
  | handed (id : Id) (launcherId : String)
  | reported (id : Id) (launcherId status : String)

def Entry.find : Entry → Id
  | handed id _ => id
  | reported id _ _ => id

def Entry.launcher : Entry → String
  | handed _ launcherId => launcherId
  | reported _ launcherId _ => launcherId

structure Board where
  rows : List FindRow
  history : List Entry

/-! ## The operations -/

/-- The finds a claim picks: the oldest that wait for one of the launcher's presets; the
request bounds the capacity. -/
def pickedFinds (rows : List FindRow) (presets : List String) (capacity : Int) : List Id :=
  let pending := selectWhere (fun row => row.preset ∈ presets ∧ row.status = "pending") rows
  ((orderBy (fun left right => left.createdAt ≤ right.createdAt) pending).take
    (max 1 (min capacity 10)).toNat).map (·.2)

/-- `claim_project_finds`, of a launcher whose manifests with finder roots are `presets`. -/
def claimProjectFinds (rows : List FindRow) (launcherId : String) (presets : List String)
    (capacity : Int) (clock : Nat → Time) : List FindRow :=
  let picked := pickedFinds rows presets capacity
  rows.mapIdx fun id row =>
    if id ∈ picked then { row with
      status := "claimed", launcherId := some launcherId,
      claimedAt := some (clock (picked.idxOf id)) }
    else row

/-- `_require_project_find`. -/
def requireProjectFind (rows : List FindRow) (findId : Id) : Except FindError FindRow :=
  orRaise rows[findId]? .notFound

/-- `complete_project_find`; the status is what the launcher says it is. -/
def completeProjectFind (rows : List FindRow) (findId : Id) (launcherId status : String)
    (report : FindReport) (now : Time) : Except FindError (List FindRow) := do
  let row ← requireProjectFind rows findId
  require (row.launcherId = none ∨ row.launcherId = some launcherId) .ownedByAnother
  return update rows findId { row with
    status := status, launcherId := some launcherId, report := some report,
    completedAt := some now }

/-- `mark_project_find_started`. -/
def markProjectFindStarted (rows : List FindRow) (findId : Id)
    (sessionId : String) (discordThreadId : Option String) (now : Time) :
    Except FindError (List FindRow) := do
  let row ← requireProjectFind rows findId
  return update rows findId { row with
    status := "started", sessionId := some sessionId, discordThreadId := discordThreadId,
    completedAt := row.completedAt.or (some now) }

inductive Deed where
  | enqueue (preset queryText requestedBy guildId parentChannelId : String) (now : Time)
  | claim (launcherId : String) (presets : List String) (capacity : Int) (clock : Nat → Time)
  | complete (findId : Id) (launcherId status : String) (report : FindReport) (now : Time)
  | started (findId : Id) (sessionId : String) (discordThreadId : Option String) (now : Time)

/-- The row `enqueue_project_find` adds once the manifest has been checked; the query comes
stripped. -/
def pendingFind (preset queryText requestedBy guildId parentChannelId : String) (now : Time) :
    FindRow :=
  { preset := preset, queryText := queryText, requestedBy := requestedBy, guildId := guildId,
    parentChannelId := parentChannelId, status := "pending", launcherId := none,
    report := none, sessionId := none, discordThreadId := none, createdAt := now,
    claimedAt := none, completedAt := none }

def step (b : Board) : Deed → Board
  | .enqueue preset queryText requestedBy guildId parentChannelId now =>
      { b with rows := b.rows ++
          [pendingFind preset queryText requestedBy guildId parentChannelId now] }
  | .claim launcherId presets capacity clock =>
      { rows := claimProjectFinds b.rows launcherId presets capacity clock
        history := b.history ++
          (pickedFinds b.rows presets capacity).map fun id => .handed id launcherId }
  | .complete findId launcherId status report now =>
      match completeProjectFind b.rows findId launcherId status report now with
      | .error _ => b
      | .ok rows => { rows := rows, history := b.history ++ [.reported findId launcherId status] }
  | .started findId sessionId discordThreadId now =>
      match markProjectFindStarted b.rows findId sessionId discordThreadId now with
      | .error _ => b
      | .ok rows => { b with rows := rows }

/-! ## What the history says of a find -/

/-- How often the find was handed out. -/
def handouts (id : Id) (history : List Entry) : Nat :=
  history.countP fun
    | .handed found _ => found = id
    | .reported _ _ _ => false

/-- How often a report has put the find back among those that wait. -/
def reopenings (id : Id) (history : List Entry) : Nat :=
  history.countP fun
    | .handed _ _ => false
    | .reported found _ status => found = id ∧ status = "pending"

/-- The launcher of the last that happened to the find. -/
def lastLauncher (id : Id) (history : List Entry) : Option String :=
  ((history.filter (·.find = id)).getLast?).map (·.launcher)

variable {id findId : Id} {history : List Entry} {entry : Entry} {b : Board} {row : FindRow}
  {launcherId status : String}

theorem lastLauncher_concat (id : Id) (history : List Entry) (entry : Entry) :
    lastLauncher id (history ++ [entry]) =
      if entry.find = id then some entry.launcher else lastLauncher id history := by
  unfold lastLauncher
  by_cases hthis : entry.find = id
  · simp [hthis]
  · simp [hthis]

theorem lastLauncher_handed (id : Id) (history : List Entry) (launcherId : String)
    (picked : List Id) : lastLauncher id (history ++ picked.map fun id => .handed id launcherId) =
      if id ∈ picked then some launcherId else lastLauncher id history := by
  induction picked using List.reverseRecOn with
  | nil => simp
  | append_singleton picked last ih =>
      rw [List.map_append, List.map_singleton, ← List.append_assoc, lastLauncher_concat, ih]
      by_cases hthis : last = id
      · simp [Entry.find, Entry.launcher, hthis]
      · simp [Entry.find, hthis, Ne.symm hthis]

theorem nodup_pickedFinds (rows : List FindRow) (presets : List String) (capacity : Int) :
    (pickedFinds rows presets capacity).Nodup := by
  rw [pickedFinds, List.Nodup, List.pairwise_map]
  exact (pairwise_orderBy (pairwise_selectWhere _ _)).sublist (List.take_sublist _ _)

theorem pending_of_mem_pickedFinds {rows : List FindRow} {presets : List String} {capacity : Int}
    (hmem : id ∈ pickedFinds rows presets capacity) :
    ∃ row, rows[id]? = some row ∧ row.status = "pending" := by
  rcases List.mem_map.mp hmem with ⟨found, hfound, rfl⟩
  have hselected := mem_orderBy.1 (List.mem_of_mem_take hfound)
  rcases mem_selectWhere.1 hselected with ⟨hrow, hkeep⟩
  simp only [decide_eq_true_eq] at hkeep
  exact ⟨found.1, hrow, hkeep.2⟩

theorem handouts_handed (id : Id) (launcherId : String) {picked : List Id} (hnodup : picked.Nodup) :
    handouts id (picked.map fun id => .handed id launcherId) = if id ∈ picked then 1 else 0 := by
  have hcount : handouts id (picked.map fun id => .handed id launcherId) = picked.count id := by
    rw [handouts, List.countP_map, List.count]
    apply List.countP_congr
    intro found _
    simp
  rw [hcount]
  by_cases hmem : id ∈ picked
  · rw [if_pos hmem, List.count_eq_one_of_mem hnodup hmem]
  · rw [if_neg hmem, List.count_eq_zero_of_not_mem hmem]

/-- Each report is from the launcher the find was last handed to or last reported by, if
there is one. -/
def Fenced (history : List Entry) : Prop :=
  ∀ place id launcherId status, history[place]? = some (.reported id launcherId status) →
    lastLauncher id (history.take place) = none ∨
      lastLauncher id (history.take place) = some launcherId

theorem Fenced.append {more : List Entry} (hfenced : Fenced history)
    (hmore : ∀ place id launcherId status,
      more[place]? = some (.reported id launcherId status) →
      lastLauncher id (history ++ more.take place) = none ∨
        lastLauncher id (history ++ more.take place) = some launcherId) :
    Fenced (history ++ more) := by
  intro place id launcherId status hplace
  by_cases hlt : place < history.length
  · rw [List.getElem?_append_left hlt] at hplace
    rw [List.take_append_of_le_length hlt.le]
    exact hfenced place id launcherId status hplace
  · have hle := not_lt.mp hlt
    rw [List.getElem?_append_right hle] at hplace
    rw [List.take_append, List.take_of_length_le hle]
    exact hmore _ id launcherId status hplace

/-- Every find accounts for its history. -/
structure Accounts (b : Board) : Prop where
  counted : ∀ id row, b.rows[id]? = some row →
    handouts id b.history + (if row.status = "pending" then 1 else 0) ≤
      1 + reopenings id b.history
  owned : ∀ id row, b.rows[id]? = some row → row.launcherId = lastLauncher id b.history
  known : ∀ entry ∈ b.history, entry.find < b.rows.length
  fenced : Fenced b.history

theorem unknown (hknown : ∀ entry ∈ history, entry.find < id) :
    handouts id history = 0 ∧ lastLauncher id history = none := by
  constructor
  · rw [handouts, List.countP_eq_zero]
    intro entry hentry
    have hlt := hknown entry hentry
    cases entry with
    | handed found =>
        have hne : found ≠ id := hlt.ne
        simpa using hne
    | reported => simp
  · have hnone : history.filter (·.find = id) = [] := by
      apply List.filter_eq_nil_iff.mpr
      intro entry hentry
      simpa using (hknown entry hentry).ne
    rw [lastLauncher, hnone]
    rfl

theorem Accounts.enqueue (haccounts : Accounts b)
    (preset queryText requestedBy guildId parentChannelId : String) (now : Time) :
    Accounts (step b (.enqueue preset queryText requestedBy guildId parentChannelId now)) := by
  rcases unknown haccounts.known with ⟨hnone, hfree⟩
  refine ⟨?_, ?_, ?_, haccounts.fenced⟩
  · intro id row hrow
    rcases getElem?_concat_eq_some hrow with hold | ⟨rfl, rfl⟩
    · exact haccounts.counted id row hold
    · change handouts b.rows.length b.history + 1 ≤ _
      rw [hnone]
      exact Nat.le_add_right 1 _
  · intro id row hrow
    rcases getElem?_concat_eq_some hrow with hold | ⟨rfl, rfl⟩
    · exact haccounts.owned id row hold
    · exact hfree.symm
  · intro entry hentry
    have hlt := haccounts.known entry hentry
    rw [step, List.length_append]
    exact Nat.lt_add_right _ hlt

theorem Accounts.claim (haccounts : Accounts b) (launcherId : String) (presets : List String)
    (capacity : Int) (clock : Nat → Time) :
    Accounts (step b (.claim launcherId presets capacity clock)) := by
  let picked := pickedFinds b.rows presets capacity
  have hrows : ∀ id row, (claimProjectFinds b.rows launcherId presets capacity clock)[id]? =
      some row → ∃ old, b.rows[id]? = some old ∧
        (if id ∈ picked then old.status = "pending" ∧ row.status = "claimed" ∧
          row.launcherId = some launcherId else row = old) := by
    intro id row hrow
    rw [claimProjectFinds, List.getElem?_mapIdx, Option.map_eq_some_iff] at hrow
    rcases hrow with ⟨old, hold, rfl⟩
    refine ⟨old, hold, ?_⟩
    by_cases hmem : id ∈ pickedFinds b.rows presets capacity
    · rcases pending_of_mem_pickedFinds hmem with ⟨found, hfound, hpending⟩
      rw [hold] at hfound
      cases hfound
      simp [picked, hmem, hpending]
    · simp [picked, hmem]
  have hreopened : ∀ id, reopenings id (picked.map fun id => .handed id launcherId) = 0 := by
    intro id
    simp [reopenings, List.countP_map, Function.comp_def]
  have hhanded := fun id => handouts_handed id launcherId
    (nodup_pickedFinds b.rows presets capacity)
  refine ⟨?_, ?_, ?_, ?_⟩
  · intro id row hrow
    rcases hrows id row hrow with ⟨old, hold, hchanged⟩
    have hcounted := haccounts.counted id old hold
    rw [step, handouts, reopenings, List.countP_append, List.countP_append]
    change handouts id b.history + handouts id (picked.map _) + _ ≤
      1 + (reopenings id b.history + reopenings id (picked.map _))
    rw [hreopened, hhanded]
    by_cases hmem : id ∈ picked
    · rw [if_pos hmem] at hchanged
      rw [if_pos hchanged.1] at hcounted
      rw [if_pos hmem, hchanged.2.1, if_neg (by decide)]
      exact hcounted
    · rw [if_neg hmem] at hchanged
      rw [if_neg hmem, hchanged]
      exact hcounted
  · intro id row hrow
    rcases hrows id row hrow with ⟨old, hold, hchanged⟩
    rw [step, lastLauncher_handed]
    by_cases hmem : id ∈ picked
    · rw [if_pos hmem] at hchanged
      rw [if_pos hmem]
      exact hchanged.2.2
    · rw [if_neg hmem] at hchanged
      rw [if_neg hmem, hchanged]
      exact haccounts.owned id old hold
  · intro entry hentry
    rw [step, claimProjectFinds, List.length_mapIdx]
    rcases List.mem_append.mp hentry with hold | hnew
    · exact haccounts.known entry hold
    · rcases List.mem_map.mp hnew with ⟨id, hmem, rfl⟩
      rcases pending_of_mem_pickedFinds hmem with ⟨row, hrow, _⟩
      exact (List.getElem?_eq_some_iff.mp hrow).1
  · apply haccounts.fenced.append
    intro place id reporter status hplace
    rw [List.getElem?_map, Option.map_eq_some_iff] at hplace
    rcases hplace with ⟨found, _, habsurd⟩
    cases habsurd

theorem completeProjectFind_eq_ok {rows after : List FindRow} {report : FindReport} {now : Time}
    (hok : completeProjectFind rows findId launcherId status report now = .ok after) :
    ∃ old row, rows[findId]? = some old ∧
      (old.launcherId = none ∨ old.launcherId = some launcherId) ∧ row.status = status ∧
      row.launcherId = some launcherId ∧ after = update rows findId row := by
  simp only [completeProjectFind, requireProjectFind, bind_eq_ok, orRaise_eq_ok, require_eq_ok,
    pure_eq_ok] at hok
  rcases hok with ⟨old, hold, _, howner, rfl⟩
  exact ⟨old, _, hold, howner, rfl, rfl, rfl⟩

/-- A report is counted as one, and puts the find back if it says so. -/
theorem Accounts.report (haccounts : Accounts b) {old : FindRow}
    (hold : b.rows[findId]? = some old)
    (howner : old.launcherId = none ∨ old.launcherId = some launcherId)
    (hstatus : row.status = status) (hlauncher : row.launcherId = some launcherId) :
    Accounts ⟨update b.rows findId row, b.history ++ [.reported findId launcherId status]⟩ := by
  have hhanded : ∀ id, handouts id (b.history ++ [.reported findId launcherId status]) =
      handouts id b.history := by
    intro id
    simp [handouts]
  have hreopened : ∀ id, reopenings id (b.history ++ [.reported findId launcherId status]) =
      reopenings id b.history + if findId = id ∧ status = "pending" then 1 else 0 := by
    intro id
    simp [reopenings]
  refine ⟨?_, ?_, ?_, ?_⟩
  · intro id found hfound
    rw [hhanded, hreopened]
    rcases getElem?_update_eq_some hfound with ⟨rfl, rfl⟩ | hother
    · have hcounted := haccounts.counted findId old hold
      rw [hstatus]
      by_cases hpending : status = "pending"
      · simp only [hpending, and_self, if_true]
        omega
      · simp only [hpending, and_false, if_false]
        omega
    · have hcounted := haccounts.counted id found hother
      omega
  · intro id found hfound
    rw [lastLauncher_concat]
    by_cases hthis : (Entry.reported findId launcherId status).find = id
    · rw [if_pos hthis]
      cases hthis
      rw [Entry.find, getElem?_update_self hold] at hfound
      cases hfound
      exact hlauncher
    · rw [if_neg hthis]
      rcases getElem?_update_eq_some hfound with ⟨hsame, _⟩ | hother
      · exact absurd hsame hthis
      · exact haccounts.owned id found hother
  · intro entry hentry
    rw [update, List.length_set]
    rcases List.mem_append.mp hentry with hbefore | hnew
    · exact haccounts.known entry hbefore
    · rw [List.mem_singleton.mp hnew]
      exact (List.getElem?_eq_some_iff.mp hold).1
  · apply haccounts.fenced.append
    intro place id reporter reported hplace
    rcases List.getElem?_eq_some_iff.mp hplace with ⟨hlt, hhere⟩
    have hfirst : place = 0 := Nat.lt_one_iff.mp hlt
    subst hfirst
    cases hhere
    rw [List.take_zero, List.append_nil, ← haccounts.owned findId old hold]
    exact howner

theorem Accounts.started (haccounts : Accounts b) (findId : Id) (sessionId : String)
    (discordThreadId : Option String) (now : Time) :
    Accounts (ProjectFinds.step b (.started findId sessionId discordThreadId now)) := by
  rw [ProjectFinds.step]
  cases hmarked : markProjectFindStarted b.rows findId sessionId discordThreadId now with
  | error => exact haccounts
  | ok rows =>
      simp only [markProjectFindStarted, requireProjectFind, bind_eq_ok, orRaise_eq_ok,
        pure_eq_ok] at hmarked
      rcases hmarked with ⟨old, hold, rfl⟩
      refine ⟨?_, ?_, ?_, haccounts.fenced⟩
      · intro id row hrow
        rcases getElem?_update_eq_some hrow with ⟨rfl, rfl⟩ | hother
        · have hcounted := haccounts.counted findId old hold
          simp only [show ¬ ("started" = "pending") by decide, if_false]
          omega
        · exact haccounts.counted id row hother
      · intro id row hrow
        rcases getElem?_update_eq_some hrow with ⟨rfl, rfl⟩ | hother
        · exact haccounts.owned findId old hold
        · exact haccounts.owned id row hother
      · intro entry hentry
        rw [update, List.length_set]
        exact haccounts.known entry hentry

theorem Accounts.step (haccounts : Accounts b) (deed : Deed) :
    Accounts (ProjectFinds.step b deed) := by
  cases deed with
  | enqueue preset queryText requestedBy guildId parentChannelId now =>
      exact haccounts.enqueue preset queryText requestedBy guildId parentChannelId now
  | claim launcherId presets capacity clock =>
      exact haccounts.claim launcherId presets capacity clock
  | complete findId launcherId status report now =>
      rw [ProjectFinds.step]
      cases hdone : completeProjectFind b.rows findId launcherId status report now with
      | error => exact haccounts
      | ok rows =>
          rcases completeProjectFind_eq_ok hdone with
            ⟨old, row, hold, howner, hstatus, hlauncher, rfl⟩
          exact haccounts.report hold howner hstatus hlauncher
  | started findId sessionId discordThreadId now =>
      exact haccounts.started findId sessionId discordThreadId now

/-- In every run, a find is handed out once, and once more for each report that puts it back
among those that wait; and a report on a find counts only if it comes from the launcher the
find was last handed to or last reported by. -/
theorem finds_handed_out_once (deeds : List Deed) :
    let b := run step ⟨[], []⟩ deeds
    (∀ id, handouts id b.history ≤ 1 + reopenings id b.history) ∧ Fenced b.history := by
  intro b
  have hrun : Throughout step Accounts ⟨[], []⟩ deeds := by
    apply throughout_of_preserved
    · refine ⟨?_, ?_, ?_, ?_⟩
      · intro id row hrow
        cases hrow
      · intro id row hrow
        cases hrow
      · intro entry hentry
        cases hentry
      · intro place id launcherId status hplace
        cases hplace
    · intro done deed _ hhere
      exact hhere.step deed
  have haccounts : Accounts b := hrun deeds List.prefix_rfl
  refine ⟨?_, haccounts.fenced⟩
  intro id
  by_cases hlt : id < b.rows.length
  · have hcounted := haccounts.counted id _ (List.getElem?_eq_getElem hlt)
    omega
  · have hunknown := unknown fun entry hentry =>
      (haccounts.known entry hentry).trans_le (not_lt.mp hlt)
    rw [hunknown.1]
    exact Nat.zero_le _

end OpsCure.ProjectFinds
