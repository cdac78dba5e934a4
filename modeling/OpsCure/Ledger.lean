/-
The ledger beneath the messages: what a conversation is bound to and whether it is
closed, the kind and state of every v2 operation, and the remote tasks.  It is sound
when the tables keep in step, and settled when no closed conversation has left its
task pending.
-/
import OpsCure.TerminalStatuses
import OpsCure.Contract

namespace OpsCure

open Contract Table RemoteTask

structure Entry where
  kind : Kind
  closed : Bool
  isGeneral : Bool
  boundTaskId : Option Id
  v2OperationId : Option Id
deriving DecidableEq, Repr

structure Ledger where
  entries : List Entry
  operations : List (Kind × OpState)
  tasks : Db

namespace Ledger

def setState (operations : List (Kind × OpState)) (entry : Entry) (state : OpState) :
    List (Kind × OpState) :=
  match entry.v2OperationId with
  | none => operations
  | some operationId => operations.modify operationId fun found => (found.1, state)

theorem setState_operation (operations : List (Kind × OpState)) (entry : Entry)
    (state : OpState) (other : Id) :
    (setState operations entry state)[other]? = operations[other]?.map fun found =>
      if entry.v2OperationId = some other then (found.1, state) else found := by
  unfold setState
  cases entry.v2OperationId with
  | none => simp
  | some operationId =>
      rw [List.getElem?_modify]
      by_cases hsame : operationId = other
      · simp [hsame]
      · simp [hsame]

def opened (l : Ledger) (kind : Kind) (isGeneral : Bool) (boundTaskId : Option Id) : Ledger :=
  { l with
    entries := l.entries ++
      [{ kind := kind
         closed := false
         isGeneral := isGeneral
         boundTaskId := boundTaskId
         v2OperationId := some l.operations.length }]
    operations := l.operations ++ [(kind, .opened)] }

def close (l : Ledger) (id : Id) : Ledger :=
  match l.entries[id]? with
  | none => l
  | some entry =>
      { l with
        entries := update l.entries id { entry with closed := true }
        operations := setState l.operations entry .closed }

def move (l : Ledger) (id : Id) (target : Option OpState) : Ledger :=
  match l.entries[id]?, target with
  | some entry, some state => { l with operations := setState l.operations entry state }
  | _, _ => l

def serve (l : Ledger) (call : Call) : Ledger :=
  { l with tasks := step l.tasks call }

@[simp]
theorem close_tasks (l : Ledger) (id : Id) : (l.close id).tasks = l.tasks := by
  unfold close
  split <;> rfl

@[simp]
theorem move_tasks (l : Ledger) (id : Id) (target : Option OpState) :
    (l.move id target).tasks = l.tasks := by
  unfold move
  split <;> rfl

@[simp]
theorem move_entries (l : Ledger) (id : Id) (target : Option OpState) :
    (l.move id target).entries = l.entries := by
  unfold move
  split <;> rfl

variable {id : Id} {entry : Entry}

theorem close_operation {l : Ledger} (hentry : l.entries[id]? = some entry) (other : Id) :
    (l.close id).operations[other]? = l.operations[other]?.map fun found =>
      if entry.v2OperationId = some other then (found.1, .closed) else found := by
  rw [close, hentry]
  exact setState_operation l.operations entry .closed other

theorem move_operation {l : Ledger} (hentry : l.entries[id]? = some entry)
    (target : Option OpState) (other : Id) :
    (l.move id target).operations[other]? = l.operations[other]?.map fun found =>
      if entry.v2OperationId = some other then (found.1, target.getD found.2) else found := by
  cases target with
  | none => simp [move]
  | some state =>
      have hmove : (l.move id (some state)).operations =
          setState l.operations entry state := by
        simp only [move, hentry]
      rw [hmove]
      exact setState_operation l.operations entry state other

theorem close_entry (l : Ledger) (id other : Id) :
    (l.close id).entries[other]? = l.entries[other]?.map fun entry =>
      if id = other then { entry with closed := true } else entry := by
  unfold close
  cases hentry : l.entries[id]? with
  | none =>
      by_cases hsame : id = other
      · subst hsame
        simp [hentry]
      · simp [hsame]
  | some =>
      by_cases hsame : id = other
      · subst hsame
        rw [getElem?_update_self hentry, hentry]
        simp
      · rw [getElem?_update_of_ne hsame]
        simp [hsame]

/-! ## Soundness -/

/-- The operation of an entry, as the ledger should have it: of its kind, and closed
exactly when it is. -/
structure Linked (id : Id) (entry : Entry) (state : OpState) : Prop where
  mirrored : entry.v2OperationId = some id
  general : entry.isGeneral = true ↔ entry.kind = .general
  closed : state = .closed ↔ entry.closed = true

/-- Conversations and operations are in step, and every bound task is bound once, under
a service that minds tasks. -/
structure Sound (remoteTasks : Bool) (l : Ledger) : Prop where
  lengths : l.entries.length = l.operations.length
  linked : ∀ (id : Id) (entry : Entry), l.entries[id]? = some entry →
    ∃ state, l.operations[id]? = some (entry.kind, state) ∧ Linked id entry state
  bound : ∀ (id : Id) (entry : Entry) (taskId : Id), l.entries[id]? = some entry →
    entry.boundTaskId = some taskId → taskId < l.tasks.tasks.length ∧ remoteTasks = true
  once : ∀ (id other : Id) (entry entry' : Entry) (taskId : Id),
    l.entries[id]? = some entry → l.entries[other]? = some entry' →
    entry.boundTaskId = some taskId →
    entry'.boundTaskId = some taskId → id = other

variable {remoteTasks : Bool} {l : Ledger}

theorem Sound.setState_eq (hsound : Sound remoteTasks l) (hentry : l.entries[id]? = some entry)
    (state : OpState) :
    setState l.operations entry state =
      l.operations.modify id fun found => (found.1, state) := by
  rcases hsound.linked id entry hentry with ⟨_, _, hlinked⟩
  rw [setState, hlinked.mirrored]

variable {kind : Kind} {isGeneral : Bool} {boundTaskId : Option Id} {taskId : Id}

theorem opened_entry (hentry : (l.opened kind isGeneral boundTaskId).entries[id]? = some entry) :
    l.entries[id]? = some entry ∨ id = l.entries.length ∧ entry =
      { kind := kind, closed := false, isGeneral := isGeneral
        boundTaskId := boundTaskId, v2OperationId := some l.operations.length } := by
  simp only [Ledger.opened, List.getElem?_append] at hentry
  split at hentry
  · exact Or.inl hentry
  · rw [List.getElem?_singleton] at hentry
    split at hentry
    · rename_i hafter hlast
      cases hentry
      have hid : id = l.entries.length :=
        Nat.le_antisymm (Nat.sub_eq_zero_iff_le.mp hlast) (Nat.le_of_not_lt hafter)
      exact Or.inr ⟨hid, rfl⟩
    · cases hentry

def Unbound (l : Ledger) (taskId : Id) : Prop :=
  ∀ (id : Id) (entry : Entry), l.entries[id]? = some entry → entry.boundTaskId ≠ some taskId

theorem Unbound.opened (hunbound : l.Unbound taskId) (kind : Kind) (isGeneral : Bool) :
    (l.opened kind isGeneral none).Unbound taskId := by
  intro id entry hentry
  rcases opened_entry hentry with hold | ⟨_, rfl⟩
  · exact hunbound id entry hold
  · simp

theorem Sound.opened (hsound : Sound remoteTasks l)
    (hgeneral : isGeneral = true ↔ kind = .general)
    (hbound : ∀ taskId, boundTaskId = some taskId →
      taskId < l.tasks.tasks.length ∧ remoteTasks = true ∧ l.Unbound taskId) :
    Sound remoteTasks (l.opened kind isGeneral boundTaskId) := by
  constructor
  · simp [Ledger.opened, hsound.lengths]
  · intro id entry hentry
    rcases opened_entry hentry with hold | ⟨rfl, rfl⟩
    · rcases hsound.linked id entry hold with ⟨state, hstate, hlinked⟩
      refine ⟨state, ?_, hlinked⟩
      have hlt : id < l.operations.length := (List.getElem?_eq_some_iff.mp hstate).1
      simpa [Ledger.opened, List.getElem?_append_left hlt] using hstate
    · refine ⟨.opened, ?_, by rw [hsound.lengths], hgeneral, by simp⟩
      simp [Ledger.opened, hsound.lengths]
  · intro id entry taskId hentry htask
    rcases opened_entry hentry with hold | ⟨_, rfl⟩
    · exact hsound.bound id entry taskId hold htask
    · rcases hbound taskId htask with ⟨hlt, hserved, _⟩
      exact ⟨hlt, hserved⟩
  · intro id other entry entry' taskId hentry hentry' htask htask'
    rcases opened_entry hentry with hold | ⟨hid, rfl⟩
    · rcases opened_entry hentry' with hold' | ⟨_, rfl⟩
      · exact hsound.once id other entry entry' taskId hold hold' htask htask'
      · exact absurd htask ((hbound taskId htask').2.2 id entry hold)
    · rcases opened_entry hentry' with hold' | ⟨hother, _⟩
      · exact absurd htask' ((hbound taskId htask).2.2 other entry' hold')
      · exact hid.trans hother.symm

theorem Sound.close (hsound : Sound remoteTasks l) (id : Id) :
    Sound remoteTasks (l.close id) := by
  -- an entry of the new ledger is an old one, closed if it is the one
  have hcases : ∀ (other : Id) (entry : Entry), (l.close id).entries[other]? = some entry →
      ∃ old, l.entries[other]? = some old ∧
        entry = if id = other then { old with closed := true } else old := by
    intro other entry hentry
    rw [close_entry, Option.map_eq_some_iff] at hentry
    rcases hentry with ⟨old, hold, rfl⟩
    exact ⟨old, hold, rfl⟩
  have hbound : ∀ (other : Id) (entry : Entry), (l.close id).entries[other]? = some entry →
      ∃ old, l.entries[other]? = some old ∧ entry.boundTaskId = old.boundTaskId := by
    intro other entry hentry
    rcases hcases other entry hentry with ⟨old, hold, rfl⟩
    exact ⟨old, hold, by split <;> rfl⟩
  constructor
  · unfold Ledger.close
    split
    · exact hsound.lengths
    · rename_i entry hentry
      simp [hsound.setState_eq hentry, update, hsound.lengths]
  · intro other entry hentry
    rcases hcases other entry hentry with ⟨old, hold, rfl⟩
    rcases hsound.linked other old hold with ⟨state, hstate, hlinked⟩
    by_cases hsame : id = other
    · subst hsame
      refine ⟨.closed, ?_, by simpa using hlinked.mirrored, by simpa using hlinked.general,
        by simp⟩
      simp [Ledger.close, hold, hsound.setState_eq hold, hstate]
    · refine ⟨state, ?_, by simpa [hsame] using hlinked⟩
      unfold Ledger.close
      split
      · simpa [hsame] using hstate
      · rename_i closing hclosing
        simp [hsound.setState_eq hclosing, hsame, hstate]
  · intro other entry taskId hentry htask
    rcases hbound other entry hentry with ⟨old, hold, hsame⟩
    rw [close_tasks]
    exact hsound.bound other old taskId hold (hsame ▸ htask)
  · intro first second entry entry' taskId hentry hentry' htask htask'
    rcases hbound first entry hentry with ⟨old, hold, hsame⟩
    rcases hbound second entry' hentry' with ⟨old', hold', hsame'⟩
    exact hsound.once first second old old' taskId hold hold' (hsame ▸ htask) (hsame' ▸ htask')

theorem Sound.unbound (hsound : Sound remoteTasks l) (hnew : l.tasks.tasks.length ≤ taskId) :
    l.Unbound taskId := by
  intro id entry hentry htask
  have hlt := (hsound.bound id entry taskId hentry htask).1
  exact absurd hlt (Nat.not_lt.mpr hnew)

theorem Sound.move (hsound : Sound remoteTasks l) {target : Option OpState}
    (htarget : target ≠ some .closed)
    (hfrom : ∀ entry : Entry, l.entries[id]? = some entry → target ≠ none → entry.closed = false) :
    Sound remoteTasks (l.move id target) := by
  cases target with
  | none =>
      have hsame : l.move id none = l := by
        unfold Ledger.move
        split <;> simp_all
      rwa [hsame]
  | some state =>
      constructor
      · rw [move_entries]
        unfold Ledger.move
        split
        · rename_i entry target hentry htarget
          simp [hsound.setState_eq hentry, hsound.lengths]
        · exact hsound.lengths
      · intro other entry hentry
        rw [move_entries] at hentry
        rcases hsound.linked other entry hentry with ⟨old, hold, hlinked⟩
        by_cases hsame : id = other
        · subst hsame
          refine ⟨state, ?_, hlinked.mirrored, hlinked.general, ?_⟩
          · simp [Ledger.move, hentry, hsound.setState_eq hentry, hold]
          · have hopen := hfrom entry hentry (by simp)
            simp only [hopen, Bool.false_eq_true, iff_false]
            exact fun hclosed => htarget (by rw [hclosed])
        · refine ⟨old, ?_, hlinked⟩
          unfold Ledger.move
          split
          · rename_i moved target hmoved _
            simp [hsound.setState_eq hmoved, hsame, hold]
          · exact hold
      · rw [move_entries, move_tasks]
        exact hsound.bound
      · rw [move_entries]
        exact hsound.once

theorem length_le_step (db : Db) (call : Call) :
    db.tasks.length ≤ (step db call).tasks.length := by
  cases htarget : call.operation.target db with
  | none =>
      by_contra hlt
      have hshort : (step db call).tasks.length < db.tasks.length := by omega
      have hkept := step_keeps_of_no_target htarget (List.getElem?_eq_getElem hshort)
      have habsurd := (List.getElem?_eq_some_iff.mp hkept).1
      omega
  | some =>
      rcases step_of_target htarget with ⟨hsame, _⟩ | ⟨old, new, hwrote, _, _⟩
      · rw [hsame]
      · simp [hwrote.wrote, update]

theorem Sound.serve (hsound : Sound remoteTasks l) (call : Call) :
    Sound remoteTasks (l.serve call) where
  lengths := hsound.lengths
  linked := hsound.linked
  bound := fun id entry taskId hentry htask => by
    rcases hsound.bound id entry taskId hentry htask with ⟨hlt, hserved⟩
    exact ⟨hlt.trans_le (length_le_step l.tasks call), hserved⟩
  once := hsound.once

/-! ## Settled ledgers -/

def Settled (l : Ledger) : Prop :=
  ∀ (id : Id) (entry : Entry) (taskId : Id), l.entries[id]? = some entry →
    entry.closed = true → entry.boundTaskId = some taskId → hasStatus isTerminal taskId l.tasks

def TaskEnded (l : Ledger) (id : Id) : Prop :=
  ∀ (entry : Entry) (taskId : Id), l.entries[id]? = some entry → entry.boundTaskId = some taskId →
    hasStatus isTerminal taskId l.tasks

theorem Settled.close (hsettled : Settled l) (hended : TaskEnded l id) : Settled (l.close id) := by
  intro other entry taskId hentry hclosed htask
  rw [close_entry, Option.map_eq_some_iff] at hentry
  rcases hentry with ⟨old, hold, rfl⟩
  rw [close_tasks]
  by_cases hsame : id = other
  · subst hsame
    exact hended old taskId hold (by simpa using htask)
  · simp only [if_neg hsame] at hclosed htask
    exact hsettled other old taskId hold hclosed htask

theorem TaskEnded.close (hended : TaskEnded l id) (other : Id) : TaskEnded (l.close other) id := by
  intro entry taskId hentry htask
  rw [close_entry, Option.map_eq_some_iff] at hentry
  rcases hentry with ⟨old, hold, rfl⟩
  rw [close_tasks]
  refine hended old taskId hold ?_
  split at htask
  · exact htask
  · exact htask

theorem Settled.move (hsettled : Settled l) (id : Id) (target : Option OpState) :
    Settled (l.move id target) := by
  intro other entry taskId hentry hclosed htask
  rw [move_entries] at hentry
  rw [move_tasks]
  exact hsettled other entry taskId hentry hclosed htask

theorem Settled.opened (hsettled : Settled l) (kind : Kind) (isGeneral : Bool)
    (boundTaskId : Option Id) : Settled (l.opened kind isGeneral boundTaskId) := by
  intro id entry taskId hentry hclosed htask
  rcases opened_entry hentry with hold | ⟨_, rfl⟩
  · exact hsettled id entry taskId hold hclosed htask
  · cases hclosed

theorem hasStatus_step {db : Db} {call : Call} {task : Id}
    (hended : hasStatus isTerminal task db)
    (hkept : call.operation.target db = some task → ¬ Revives db call) :
    hasStatus isTerminal task (step db call) := by
  by_cases hrevives : Revives db call
  · rcases hrevives with ⟨other, row, htarget, hrest⟩
    have hne : other ≠ task := by
      intro hsame
      subst hsame
      exact hkept htarget ⟨other, row, htarget, hrest⟩
    rcases step_of_target htarget with ⟨hsame, _⟩ | ⟨old, new, hwrote, _, _⟩
    · rw [hsame]
      exact hended
    · rw [hasStatus, hwrote.wrote, getElem?_update_of_ne hne]
      exact hended
  · exact (step_keeps_terminal_iff db call).mpr hrevives task hended

theorem Settled.serve (hsettled : Settled l) {call : Call}
    (hkept : ∀ (id : Id) (entry : Entry) (taskId : Id), l.entries[id]? = some entry →
      entry.closed = true → entry.boundTaskId = some taskId → call.operation.target l.tasks = some taskId →
        ¬ Revives l.tasks call) :
    Settled (l.serve call) := by
  intro id entry taskId hentry hclosed htask
  exact hasStatus_step (hsettled id entry taskId hentry hclosed htask)
    (hkept id entry taskId hentry hclosed htask)

end Ledger

end OpsCure
