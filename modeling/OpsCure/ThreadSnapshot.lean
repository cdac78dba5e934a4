/-
The snapshot of a thread (`remote_codex/state_service.py`, `get_thread_snapshot`).  Prompts that
wait for their turn are shown behind the synced messages, unless a shown message says the same.
-/
import OpsCure.ThreadCommands

namespace OpsCure.RemoteCodex

open Table RemoteCommand

structure MessageRow where
  lineNumber : Int
  timestamp : Option String
  role : String
  phase : Option String
  text : String
  images : Json

/-- What the snapshot takes from elsewhere: `str`, `casefold` and `isoformat` of the library, and
the images that `normalize_command_attachments` finds in a request. -/
structure SnapshotLibrary where
  render : Json → String
  casefold : String → String
  isoformat : Time → String
  images : Json → Json

section
variable (library : SnapshotLibrary) (tasks : RemoteTask.Db) (now : Time)

def normalizeMessageText (text : String) : String := library.casefold (compactText text "")

def promptOf (row : Command Address) : String := compactText (row.prompt.getD "") ""

def saidBy (row : Command Address) : String := normalizeMessageText library (promptOf row)

/-- `is_fresh_pending`. -/
def isFreshPending (row : Command Address) : Bool :=
  max 0 (now - row.createdAt) ≤ seconds defaultPendingCommandVisibilitySeconds

/-- `should_surface`. -/
def shouldSurface (row : Command Address) : Bool :=
  (active row ∨ row.status = .completed ∧
      commandTurnStatusFromResult library.render row.result ∈ pendingCommandTurnStatuses) ∧
    (isFreshPending now row ∨ linkedTaskActive tasks row)

/-- `_command_row_to_pending_message`; what it shows is noted in the recent texts. -/
def commandRowToPendingMessage (recent : List String) (row : Command Address) :
    Option MessageRow :=
  if row.type ≠ turnStart then none
  else if promptOf row = "" then none
  else if saidBy library row ∈ recent then none
  else if ¬ shouldSurface library tasks now row then none
  else some
    { lineNumber := - max 1 (row.createdAt / 1000)
      timestamp := some (library.isoformat row.createdAt)
      role := "user"
      phase := none
      text := promptOf row
      images := library.images row.requestedBy }

def pendingMessages (recent : List String) :
    List (Command Address × Id) → List (Id × MessageRow)
  | [] => []
  | row :: rest =>
      match commandRowToPendingMessage library tasks now recent row.1 with
      | none => pendingMessages recent rest
      | some message => (row.2, message) :: pendingMessages (saidBy library row.1 :: recent) rest

/-- The commands of the thread that are not stale, the oldest first. -/
def snapshotRows (table : CommandTable) (machineId threadId : String) :
    List (Command Address × Id) :=
  let stale := (staleThreadCommandIds library.render tasks table machineId threadId now).1
  let pruned := table.prune library.render tasks machineId threadId now
  (orderBy (fun left right => left.createdAt ≤ right.createdAt)
    (selectWhere (isOfThread machineId threadId) pruned.queue.commands)).filter
      fun row => row.2 ∉ pruned.deleted ∧ row.2 ∉ stale

def shownMessages (messages : List MessageRow) (afterLineNumber : Int) : List MessageRow :=
  messages.filter fun message => max 0 afterLineNumber < message.lineNumber

def recentUserTexts (messages : List MessageRow) : List String :=
  (messages.filter fun message => compactText message.role "" = "user").map
    fun message => normalizeMessageText library message.text

/-- The last messages of a page; no limit cuts nothing. -/
def cutPage {α : Type} (limit : Int) (page : List α) : List α :=
  if limit ≤ 0 then page else page.drop (page.length - (min limit 200).toNat)

/-- `get_thread_snapshot`: the messages of the thread, in the order of their lines, and then the
pending ones, which are marked with their commands. -/
def getThreadSnapshot (table : CommandTable) (machineId threadId : String)
    (messages : List MessageRow) (limit afterLineNumber : Int) :
    CommandTable × List (Option Id × MessageRow) :=
  let shown := shownMessages messages afterLineNumber
  let pending := pendingMessages library tasks now (recentUserTexts library shown)
    (snapshotRows library tasks now table machineId threadId)
  (table.prune library.render tasks machineId threadId now,
    cutPage limit (shown.map (fun message => (none, message)) ++
      pending.map fun message => (some message.1, message.2)))

/-! ## What a reader is owed -/

/-- A message as it came about: when it was written, and the command whose prompt it is. -/
structure Synced where
  message : MessageRow
  writtenAt : Time
  copyOf : Option Id

/-- A prompt that waits, enqueued after all that is there was written. -/
structure Owed (history : List Synced) (row : Command Address) : Prop where
  turn : row.type = turnStart
  active : active row
  fresh : isFreshPending now row
  later : ∀ synced ∈ history, synced.writtenAt < row.createdAt

end

/-- A look at a thread: the tables it reads, its messages, and the line to go on from. -/
structure Look where
  library : SnapshotLibrary
  tasks : RemoteTask.Db
  table : CommandTable
  machineId : String
  threadId : String
  history : List Synced
  afterLineNumber : Int
  now : Time

namespace Look

variable (look : Look)

def page (limit : Int) : List (Option Id × MessageRow) :=
  (getThreadSnapshot look.library look.tasks look.now look.table look.machineId look.threadId
    (look.history.map Synced.message) limit look.afterLineNumber).2

def pendingOn (limit : Int) : List (Option Id) := (look.page limit).map Prod.fst

/-- The limit leaves room for everything. -/
def Sufficient (limit : Int) : Prop :=
  limit ≤ 0 ∨ ((look.page 0).length : Int) ≤ min limit 200

def Has (row : Command Address) (id : Id) : Prop :=
  look.table.get id = some row ∧ isOfThread look.machineId look.threadId row

/-- Under a sufficient limit each prompt that is owed is shown once, and none whose own copy has
been synced. -/
structure ShowsPending : Prop where
  owed : ∀ limit, look.Sufficient limit → ∀ row id, look.Has row id →
    Owed look.now look.history row → (look.pendingOn limit).count (some id) = 1
  copied : ∀ limit, look.Sufficient limit → ∀ synced ∈ look.history, ∀ id,
    synced.copyOf = some id → some id ∉ look.pendingOn limit

def rows : List (Command Address × Id) :=
  snapshotRows look.library look.tasks look.now look.table look.machineId look.threadId

/-- What the user messages behind the line say. -/
def recent : List String :=
  recentUserTexts look.library (shownMessages (look.history.map Synced.message)
    look.afterLineNumber)

end Look

/-- The command asks for a turn with a prompt that may still be shown. -/
def isCandidate (library : SnapshotLibrary) (tasks : RemoteTask.Db) (now : Time)
    (row : Command Address) : Bool :=
  row.type = turnStart ∧ promptOf row ≠ "" ∧ shouldSurface library tasks now row

/-- No user message behind the line says what the command says, and no candidate before it. -/
structure Unsaid (library : SnapshotLibrary) (tasks : RemoteTask.Db) (now : Time)
    (recent : List String) (rows : List (Command Address × Id)) (row : Command Address)
    (id : Id) : Prop where
  messages : saidBy library row ∉ recent
  commands : ∀ other ∈ rows.takeWhile (·.2 ≠ id), isCandidate library tasks now other.1 →
    saidBy library other.1 ≠ saidBy library row

/-- What is owed has a prompt that is not said elsewhere, and what was copied is. -/
structure Look.Unambiguous (look : Look) : Prop where
  owed : ∀ row id, look.Has row id → Owed look.now look.history row →
    promptOf row ≠ "" ∧
      Unsaid look.library look.tasks look.now look.recent look.rows row id
  copied : ∀ synced ∈ look.history, ∀ row id, synced.copyOf = some id → (row, id) ∈ look.rows →
    isCandidate look.library look.tasks look.now row →
    ¬Unsaid look.library look.tasks look.now look.recent look.rows row id

section
variable {library : SnapshotLibrary} {tasks : RemoteTask.Db} {now : Time} {recent : List String}
  {rows : List (Command Address × Id)} {row : Command Address} {id : Id}

theorem pending_iff : (commandRowToPendingMessage library tasks now recent row).isSome ↔
    isCandidate library tasks now row ∧ saidBy library row ∉ recent := by
  unfold commandRowToPendingMessage isCandidate
  split_ifs <;> simp_all

theorem sublist_pendingMessages (recent : List String) (rows : List (Command Address × Id)) :
    ((pendingMessages library tasks now recent rows).map Prod.fst).Sublist
      (rows.map Prod.snd) := by
  induction rows generalizing recent with
  | nil => exact .slnil
  | cons row rest ih =>
      rw [pendingMessages]
      split
      next => exact (ih recent).cons _
      next => exact (ih _).cons_cons _

/-- A command is shown exactly where it is a candidate whose prompt has not been said. -/
theorem mem_pendingMessages_iff (hunique : (rows.map Prod.snd).Nodup) (hrow : (row, id) ∈ rows) :
    id ∈ (pendingMessages library tasks now recent rows).map Prod.fst ↔
      isCandidate library tasks now row ∧ Unsaid library tasks now recent rows row id := by
  induction rows generalizing recent with
  | nil => cases hrow
  | cons first rest ih =>
      rw [List.map_cons, List.nodup_cons] at hunique
      have habsent (recent : List String) (hid : id = first.2) :
          id ∉ (pendingMessages library tasks now recent rest).map Prod.fst := by
        intro hmem
        rw [hid] at hmem
        exact hunique.1 ((sublist_pendingMessages recent rest).subset hmem)
      by_cases hid : first.2 = id
      · have hfirst : first = (row, id) := by
          rcases List.mem_cons.mp hrow with hhead | htail
          · exact hhead.symm
          · have hmem : id ∈ rest.map Prod.snd := List.mem_map.mpr ⟨(row, id), htail, rfl⟩
            rw [← hid] at hmem
            exact absurd hmem hunique.1
        have hfront : (first :: rest).takeWhile (·.2 ≠ id) = [] := by simp [hid]
        have hshown : id ∈ (pendingMessages library tasks now recent (first :: rest)).map Prod.fst ↔
            (commandRowToPendingMessage library tasks now recent row).isSome := by
          rw [pendingMessages, hfirst]
          cases commandRowToPendingMessage library tasks now recent row with
          | none => simpa using habsent recent hid.symm
          | some => simp
        rw [hshown, pending_iff]
        constructor
        · intro hboth
          refine ⟨hboth.1, hboth.2, ?_⟩
          rw [hfront]
          intro _ hmem
          cases hmem
        · intro hboth
          exact ⟨hboth.1, hboth.2.messages⟩
      · have hrest : (row, id) ∈ rest := by
          rcases List.mem_cons.mp hrow with hhead | htail
          · exact absurd (congrArg Prod.snd hhead).symm hid
          · exact htail
        have hfront : (first :: rest).takeWhile (·.2 ≠ id) =
            first :: rest.takeWhile (·.2 ≠ id) := by simp [hid]
        have hsplit : Unsaid library tasks now recent (first :: rest) row id ↔
            Unsaid library tasks now recent rest row id ∧
              (isCandidate library tasks now first.1 →
                saidBy library first.1 ≠ saidBy library row) := by
          constructor
          · intro ⟨hmessages, hcommands⟩
            rw [hfront, List.forall_mem_cons] at hcommands
            exact ⟨⟨hmessages, hcommands.2⟩, hcommands.1⟩
          · intro ⟨⟨hmessages, hcommands⟩, hfirst⟩
            refine ⟨hmessages, ?_⟩
            rw [hfront, List.forall_mem_cons]
            exact ⟨hfirst, hcommands⟩
        rw [hsplit, pendingMessages]
        have hpending := @pending_iff library tasks now recent first.1
        cases hmessage : commandRowToPendingMessage library tasks now recent first.1 with
        | none =>
            rw [hmessage] at hpending
            rw [ih hunique.2 hrest]
            constructor
            · intro ⟨hcandidate, hunsaid⟩
              refine ⟨hcandidate, hunsaid, ?_⟩
              intro hfirst hsame
              have hsaid := hunsaid.messages
              rw [← hsame] at hsaid
              exact absurd (hpending.mpr ⟨hfirst, hsaid⟩) (by simp)
            · intro ⟨hcandidate, hunsaid, _⟩
              exact ⟨hcandidate, hunsaid⟩
        | some =>
            rw [hmessage] at hpending
            have hfirst := hpending.mp rfl
            rw [List.map_cons, List.mem_cons, or_iff_right (Ne.symm hid), ih hunique.2 hrest]
            constructor
            · intro ⟨hcandidate, hmessages, hcommands⟩
              rw [List.mem_cons, not_or] at hmessages
              exact ⟨hcandidate, ⟨hmessages.2, hcommands⟩, fun _ => Ne.symm hmessages.1⟩
            · intro ⟨hcandidate, ⟨hmessages, hcommands⟩, hother⟩
              refine ⟨hcandidate, ?_, hcommands⟩
              rw [List.mem_cons, not_or]
              exact ⟨Ne.symm (hother hfirst.1), hmessages⟩

end

namespace Look

variable {look : Look} {limit : Int} {row : Command Address} {id : Id}

theorem pendingOn_zero : look.pendingOn 0 =
    (shownMessages (look.history.map Synced.message) look.afterLineNumber).map (fun _ => none) ++
      ((pendingMessages look.library look.tasks look.now look.recent look.rows).map
        Prod.fst).map some := by
  simp [pendingOn, page, getThreadSnapshot, cutPage, recent, rows, Function.comp_def]

theorem pendingOn_of_sufficient (hlimit : look.Sufficient limit) :
    look.pendingOn limit = look.pendingOn 0 := by
  unfold Sufficient pendingOn page getThreadSnapshot cutPage at *
  dsimp only at hlimit ⊢
  rw [if_pos le_rfl] at hlimit ⊢
  split
  next => rfl
  next hpositive =>
    have hroom := hlimit.resolve_left hpositive
    rw [Nat.sub_eq_zero_of_le (by omega), List.drop_zero]

theorem mem_pendingOn_zero : some id ∈ look.pendingOn 0 ↔
    id ∈ (pendingMessages look.library look.tasks look.now look.recent look.rows).map
      Prod.fst := by
  rw [pendingOn_zero]
  simp

theorem nodup_rows (look : Look) : (look.rows.map Prod.snd).Nodup :=
  List.pairwise_map.mpr ((pairwise_orderBy (pairwise_selectWhere _ _)).filter _)

theorem count_pendingOn (hmem : some id ∈ look.pendingOn 0) :
    (look.pendingOn 0).count (some id) = 1 := by
  have hpending := mem_pendingOn_zero.1 hmem
  have hnodup := look.nodup_rows.sublist
    (@sublist_pendingMessages look.library look.tasks look.now look.recent look.rows)
  have hnone : (some id) ∉ (shownMessages (look.history.map Synced.message)
      look.afterLineNumber).map fun _ => (none : Option Id) := by simp
  rw [pendingOn_zero, List.count_append, List.count_eq_zero_of_not_mem hnone, Nat.zero_add]
  exact List.count_eq_one_of_mem (hnodup.map (Option.some_injective _))
    (List.mem_map_of_mem hpending)

theorem mem_rows_of_active (hrow : look.Has row id) (hactive : active row) :
    (row, id) ∈ look.rows := by
  obtain ⟨hkept, hget⟩ := CommandTable.get_eq_some.1 hrow.1
  have hfresh : id ∉ (staleThreadCommandIds look.library.render look.tasks look.table
      look.machineId look.threadId look.now).1 := by
    intro hstale
    obtain ⟨other, hother, hstatus⟩ := completed_of_stale hstale
    obtain rfl : row = other := Option.some.inj (hrow.1.symm.trans hother)
    rw [active_iff, hstatus] at hactive
    simp at hactive
  have hselected : (row, id) ∈ selectWhere (isOfThread look.machineId look.threadId)
      look.table.queue.commands := mem_selectWhere.2 ⟨hget, hrow.2⟩
  refine List.mem_filter.mpr ⟨mem_orderBy.2 hselected, ?_⟩
  have hundeleted : id ∉ (look.table.prune look.library.render look.tasks look.machineId
      look.threadId look.now).deleted := by
    intro hdeleted
    rcases List.mem_append.mp hdeleted with hold | hnew
    · exact hkept hold
    · exact hfresh (stale_of_deletable hnew)
  exact decide_eq_true ⟨hundeleted, hfresh⟩

theorem shouldSurface_of_owed (howed : Owed look.now look.history row) :
    shouldSurface look.library look.tasks look.now row = true :=
  decide_eq_true ⟨Or.inl howed.active, Or.inl howed.fresh⟩

end Look

theorem showsPending_iff (look : Look) : look.ShowsPending ↔ look.Unambiguous := by
  constructor
  · intro hshows
    refine ⟨?_, ?_⟩
    · intro row id hrow howed
      have hcount := hshows.owed 0 (Or.inl le_rfl) row id hrow howed
      have hmem := Look.mem_pendingOn_zero.mp (List.count_pos_iff.mp (by rw [hcount]; decide))
      have hshown := (mem_pendingMessages_iff look.nodup_rows
        (Look.mem_rows_of_active hrow howed.active)).mp hmem
      exact ⟨(of_decide_eq_true hshown.1).2.1, hshown.2⟩
    · intro synced hsynced row id hcopy hrow hcandidate hunsaid
      have hmem := (mem_pendingMessages_iff look.nodup_rows hrow).mpr ⟨hcandidate, hunsaid⟩
      exact hshows.copied 0 (Or.inl le_rfl) synced hsynced id hcopy
        (Look.mem_pendingOn_zero.mpr hmem)
  · intro hclear
    refine ⟨?_, ?_⟩
    · intro limit hlimit row id hrow howed
      obtain ⟨hprompt, hunsaid⟩ := hclear.owed row id hrow howed
      have hcandidate : isCandidate look.library look.tasks look.now row = true :=
        decide_eq_true ⟨howed.turn, hprompt, Look.shouldSurface_of_owed howed⟩
      have hmem := (mem_pendingMessages_iff look.nodup_rows
        (Look.mem_rows_of_active hrow howed.active)).mpr ⟨hcandidate, hunsaid⟩
      rw [Look.pendingOn_of_sufficient hlimit]
      exact Look.count_pendingOn (Look.mem_pendingOn_zero.mpr hmem)
    · intro limit hlimit synced hsynced id hcopy hmem
      rw [Look.pendingOn_of_sufficient hlimit, Look.mem_pendingOn_zero] at hmem
      have hids := (sublist_pendingMessages look.recent look.rows).subset hmem
      obtain ⟨⟨row, found⟩, hrow, rfl⟩ := List.mem_map.mp hids
      have hshown := (mem_pendingMessages_iff look.nodup_rows hrow).mp hmem
      exact hclear.copied synced hsynced row found hcopy hrow hshown.1 hshown.2

/-! ## A prompt that is sent again -/

def goOn : Command Address where
  type := turnStart
  status := .queued
  machineId := "m"
  address := ⟨"t", none, none⟩
  prompt := some "go"
  requestedBy := .null
  workerId := none
  result := none
  error := none
  createdAt := 5
  updatedAt := 5
  startedAt := none
  completedAt := none

def askedAgain : Look where
  library := ⟨fun _ => "", id, fun _ => "", fun _ => .arr []⟩
  tasks := .empty
  table := ⟨⟨[goOn], .empty⟩, [], fun _ hid => absurd hid List.not_mem_nil⟩
  machineId := "m"
  threadId := "t"
  history := [⟨⟨1, none, "user", none, "go", .arr []⟩, 1, none⟩]
  afterLineNumber := 0
  now := 6

/-- The second prompt does not show, although nothing has been synced since it was sent. -/
theorem repeated_prompt_is_not_shown : ¬askedAgain.ShowsPending := by
  intro hshows
  have howed : Owed askedAgain.now askedAgain.history goOn :=
    ⟨rfl, rfl, by decide, by decide⟩
  have hrow : askedAgain.Has goOn 0 := ⟨rfl, rfl⟩
  have hcount := hshows.owed 0 (Or.inl le_rfl) goOn 0 hrow howed
  have hmem := Look.mem_pendingOn_zero.mp (List.count_pos_iff.mp (by rw [hcount]; decide))
  have hunsaid := ((mem_pendingMessages_iff askedAgain.nodup_rows
    (Look.mem_rows_of_active hrow rfl)).mp hmem).2
  exact hunsaid.messages (by decide)

end OpsCure.RemoteCodex
