/-
Sequence numbers under concurrent writers (`insert_event` of `kernel/v2/repository.py`): one
operation's rows of the event table, transactions that see what was committed before and
their own rows, a unique index, savepoints and retries.  Are the numbers gapless?
-/
import OpsCure.Library.Json
import OpsCure.Library.Run
import OpsCure.Library.Table

namespace OpsCure.V2.Sequence

open Run Table

/-! ## The rows and the calls -/

/-- A row of `operation_events_v2`, of the one operation. -/
structure EventRow where
  seq : Nat
  actorId : String
  kind : String
  payload : Json
  addressedToActorIds : List String
  repliesToEventId : Option String
  privateToActorIds : Option (List String)

/-- The arguments of `insert_event`. -/
structure EventRequest where
  actorId : String
  kind : String
  payload : Option (List (String × Json))
  addressedToActorIds : Option (List String)
  repliesToEventId : Option String
  privateToActorIds : Option (List String)
  maxRetries : Int

def EventRequest.row (request : EventRequest) (seq : Nat) : EventRow where
  seq := seq
  actorId := request.actorId
  kind := request.kind
  payload := .obj (request.payload.getD [])
  addressedToActorIds := request.addressedToActorIds.getD []
  repliesToEventId := request.repliesToEventId
  privateToActorIds := request.privateToActorIds.filter (· ≠ [])

/-- `coalesce(max(seq), 0)` over the rows a transaction sees. -/
def maxSeq (rows : List EventRow) : Nat := (rows.map (·.seq)).foldr max 0

/-- An integrity error is worth another attempt when its text speaks of the number. -/
def isRetried (text : String) : Bool :=
  "seq".toList <:+: (Text.lower text).toList ∨ "unique".toList <:+: (Text.lower text).toList

inductive InsertError where
  | integrity (text : String)
  | retryExhausted
deriving DecidableEq, Repr

def InsertError.text : InsertError → String
  | integrity text => text
  | retryExhausted => "insert_event retry exhausted"

/-- Where a call of `insert_event` stands: none is open; an attempt has begun; it has computed
its number; its row is flushed. -/
inductive Progress where
  | idle
  | attempting (request : EventRequest) (attempt : Nat)
  | allocated (request : EventRequest) (attempt nextSeq : Nat)
  | flushed (row : EventRow)

/-- The open transaction of a writer: the rows it has added, those it goes back to when the
savepoint is rolled back, where its call stands, and the rows its calls have returned. -/
structure Transaction where
  own : List EventRow
  savepoint : List EventRow
  progress : Progress
  returned : List EventRow

def Transaction.empty : Transaction := ⟨[], [], .idle, []⟩

/-- The committed rows, the rows that calls of committed transactions returned, the errors
that calls raised, and the writers' transactions. -/
structure State where
  committed : List EventRow
  kept : List EventRow
  raised : List (Nat × InsertError)
  writers : List Transaction

def State.start (writers : Nat) : State := ⟨[], [], [], List.replicate writers .empty⟩

/-! ## What happens -/

/-- A move of a writer.  A read sees the first `seen` of the committed rows; an insert that
breaks the unique index, or is `refused` for another reason, fails with the text of the
database. -/
inductive Step where
  | call (writer : Nat) (request : EventRequest)
  | read (writer : Nat) (seen : Nat)
  | flush (writer : Nat) (refused : Bool) (text : String)
  | release (writer : Nat)
  | commit (writer : Nat)
  | rollback (writer : Nat)

def Step.writer : Step → Nat
  | call writer _ | read writer _ | flush writer _ _ | release writer | commit writer
  | rollback writer => writer

def State.setWriter (s : State) (writer : Nat) (transaction : Transaction) : State :=
  { s with writers := update s.writers writer transaction }

/-- A committed row, or one of the transaction's own, has the number. -/
def State.taken (s : State) (transaction : Transaction) (seq : Nat) : Bool :=
  (s.committed ++ transaction.own).any (·.seq = seq)

/-- A row of another open transaction has the number: an insert waits for its end. -/
def State.held (s : State) (writer seq : Nat) : Bool :=
  s.writers.zipIdx.any fun other => other.2 ≠ writer ∧ other.1.own.any (·.seq = seq)

/-- A failed attempt: the savepoint is rolled back, and the call goes on to the next attempt,
or raises. -/
def State.fail (s : State) (writer : Nat) (transaction : Transaction) (request : EventRequest)
    (attempt : Nat) (text : String) : State :=
  let restored := { transaction with own := transaction.savepoint }
  if isRetried text ∧ (attempt : Int) ≠ request.maxRetries - 1 then
    s.setWriter writer { restored with progress := .attempting request (attempt + 1) }
  else
    { s.setWriter writer { restored with progress := .idle } with
      raised := s.raised ++ [(writer, .integrity text)] }

def State.insert (s : State) (writer : Nat) (transaction : Transaction) (request : EventRequest)
    (attempt nextSeq : Nat) (refused : Bool) (text : String) : State :=
  if s.taken transaction nextSeq then s.fail writer transaction request attempt text
  else if s.held writer nextSeq then s
  else if refused then s.fail writer transaction request attempt text
  else s.setWriter writer { transaction with
    own := transaction.own ++ [request.row nextSeq]
    progress := .flushed (request.row nextSeq) }

def act (s : State) (transaction : Transaction) : Step → State
  | .call writer request =>
      match transaction.progress with
      | .idle =>
          if request.maxRetries ≤ 0 then
            { s with raised := s.raised ++ [(writer, .retryExhausted)] }
          else s.setWriter writer { transaction with
            savepoint := transaction.own, progress := .attempting request 0 }
      | _ => s
  | .read writer seen =>
      match transaction.progress with
      | .attempting request attempt =>
          s.setWriter writer { transaction with
            progress := .allocated request attempt
              (maxSeq (s.committed.take seen ++ transaction.own) + 1) }
      | _ => s
  | .flush writer refused text =>
      match transaction.progress with
      | .allocated request attempt nextSeq =>
          s.insert writer transaction request attempt nextSeq refused text
      | _ => s
  | .release writer =>
      match transaction.progress with
      | .flushed row =>
          s.setWriter writer { transaction with
            progress := .idle, returned := transaction.returned ++ [row] }
      | _ => s
  | .commit writer =>
      match transaction.progress with
      | .idle =>
          { s.setWriter writer .empty with
            committed := s.committed ++ transaction.own
            kept := s.kept ++ transaction.returned }
      | _ => s
  | .rollback writer => s.setWriter writer .empty

def step (s : State) (move : Step) : State :=
  match s.writers[move.writer]? with
  | some transaction => act s transaction move
  | none => s

/-! ## Gapless numbers -/

/-- The committed rows are numbered from one without a gap, in order; they are the rows the
calls of committed transactions returned; and between its calls an open transaction has added
the rows that its calls returned. -/
structure Gapless (s : State) : Prop where
  numbered : s.committed.map (·.seq) = List.range' 1 s.committed.length
  settled : s.committed = s.kept
  added : ∀ (writer : Nat) (transaction : Transaction), s.writers[writer]? = some transaction →
    transaction.progress = .idle → transaction.own = transaction.returned

/-- What a call has added to its transaction so far. -/
def Progress.rows : Progress → List EventRow
  | .flushed row => [row]
  | .idle | .attempting _ _ | .allocated _ _ _ => []

/-- A transaction goes on with the numbers after the committed ones; its rows are those its
calls have returned and the one of the open call; and an attempt's number is not past the
next one. -/
structure InStep (committed : List EventRow) (transaction : Transaction) : Prop where
  numbered : transaction.own.map (·.seq) =
    List.range' (committed.length + 1) transaction.own.length
  rows : transaction.own = transaction.returned ++ transaction.progress.rows
  restored : ∀ request attempt, transaction.progress = .attempting request attempt →
    transaction.savepoint = transaction.own
  allocated : ∀ request attempt nextSeq,
    transaction.progress = .allocated request attempt nextSeq →
    transaction.savepoint = transaction.own ∧ 0 < nextSeq ∧
      nextSeq ≤ committed.length + transaction.own.length + 1

/-- Every transaction is in step with the committed rows, and one at most has rows of its
own. -/
structure Consistent (s : State) : Prop where
  numbered : s.committed.map (·.seq) = List.range' 1 s.committed.length
  settled : s.committed = s.kept
  in_step : ∀ (writer : Nat) (transaction : Transaction),
    s.writers[writer]? = some transaction → InStep s.committed transaction
  alone : ∀ (writer other : Nat) (transaction rival : Transaction),
    s.writers[writer]? = some transaction → s.writers[other]? = some rival →
    transaction.own ≠ [] → rival.own ≠ [] → writer = other

theorem inStep_empty (committed : List EventRow) : InStep committed .empty where
  numbered := rfl
  rows := rfl
  restored := by
    intro request attempt hprogress
    cases hprogress
  allocated := by
    intro request attempt nextSeq hprogress
    cases hprogress

theorem consistent_start (writers : Nat) : Consistent (State.start writers) where
  numbered := rfl
  settled := rfl
  in_step := by
    intro writer transaction hwriter
    rw [List.eq_of_mem_replicate (List.mem_of_getElem? hwriter)]
    exact inStep_empty _
  alone := by
    intro writer other transaction rival hwriter _ hown _
    rw [List.eq_of_mem_replicate (List.mem_of_getElem? hwriter)] at hown
    exact absurd rfl hown

/-! ## What a move keeps -/

section Moves

variable {s : State} {writer : Nat} {transaction : Transaction}

theorem maxSeq_le {rows : List EventRow} {bound : Nat} (hrows : ∀ row ∈ rows, row.seq ≤ bound) :
    maxSeq rows ≤ bound := by
  induction rows with
  | nil => exact Nat.zero_le bound
  | cons row rows ih =>
      have hrest := ih fun other hother => hrows other (List.mem_cons_of_mem row hother)
      exact max_le (hrows row List.mem_cons_self) hrest

theorem seq_of_numbered {rows : List EventRow} {first : Nat}
    (hnumbered : rows.map (·.seq) = List.range' first rows.length) (seq : Nat) :
    (∃ row ∈ rows, row.seq = seq) ↔ first ≤ seq ∧ seq < first + rows.length := by
  have hmem : seq ∈ rows.map (·.seq) ↔ first ≤ seq ∧ seq < first + rows.length := by
    rw [hnumbered, List.mem_range'_1]
  rw [← hmem, List.mem_map]

theorem taken_iff (hconsistent : Consistent s) (hin : InStep s.committed transaction)
    (seq : Nat) : s.taken transaction seq ↔
      1 ≤ seq ∧ seq ≤ s.committed.length + transaction.own.length := by
  have hcommitted := seq_of_numbered hconsistent.numbered seq
  have hown := seq_of_numbered hin.numbered seq
  simp only [State.taken, List.any_append, Bool.or_eq_true, List.any_eq_true, decide_eq_true_eq]
  rw [hcommitted, hown]
  omega

variable {changed : Transaction} {nextSeq : Nat}

theorem Consistent.setWriter (hconsistent : Consistent s)
    (hwriter : s.writers[writer]? = some transaction) (hin : InStep s.committed changed)
    (halone : changed.own ≠ [] → ∀ (other : Nat) (rival : Transaction), other ≠ writer →
      s.writers[other]? = some rival → rival.own = []) :
    Consistent (s.setWriter writer changed) := by
  have hrows : ∀ (other : Nat) (found : Transaction),
      (update s.writers writer changed)[other]? = some found →
        other = writer ∧ found = changed ∨ other ≠ writer ∧ s.writers[other]? = some found := by
    intro other found hfound
    by_cases hsame : writer = other
    · subst hsame
      rw [getElem?_update_self hwriter] at hfound
      exact Or.inl ⟨rfl, (Option.some.inj hfound).symm⟩
    · rw [getElem?_update_of_ne hsame] at hfound
      exact Or.inr ⟨Ne.symm hsame, hfound⟩
  refine ⟨hconsistent.numbered, hconsistent.settled, ?_, ?_⟩
  · intro other found hfound
    rcases hrows other found hfound with ⟨_, rfl⟩ | ⟨_, hstood⟩
    · exact hin
    · exact hconsistent.in_step other found hstood
  · intro one other first second hone hother hfirst hsecond
    rcases hrows one first hone with ⟨rfl, rfl⟩ | ⟨hdifferent, hstood⟩
    · rcases hrows other second hother with ⟨rfl, _⟩ | ⟨hrival, hrivals⟩
      · rfl
      · exact absurd (halone hfirst other second hrival hrivals) hsecond
    · rcases hrows other second hother with ⟨rfl, rfl⟩ | ⟨_, hrivals⟩
      · exact absurd (halone hsecond one first hdifferent hstood) hfirst
      · exact hconsistent.alone one other first second hstood hrivals hfirst hsecond

theorem Consistent.alone_of_same (hconsistent : Consistent s)
    (hwriter : s.writers[writer]? = some transaction) (hown : changed.own = transaction.own)
    (hrows : changed.own ≠ []) (other : Nat) (rival : Transaction) (hother : other ≠ writer)
    (hrival : s.writers[other]? = some rival) : rival.own = [] := by
  by_contra hsome
  rw [hown] at hrows
  exact hother (hconsistent.alone other writer rival transaction hrival hwriter hsome hrows)

theorem Consistent.raising (hconsistent : Consistent s) (raised : List (Nat × InsertError)) :
    Consistent { s with raised := raised } :=
  ⟨hconsistent.numbered, hconsistent.settled, hconsistent.in_step, hconsistent.alone⟩

theorem Consistent.fail (hconsistent : Consistent s)
    (hwriter : s.writers[writer]? = some transaction) {request : EventRequest} {attempt : Nat}
    (hprogress : transaction.progress = .allocated request attempt nextSeq) (text : String) :
    Consistent (s.fail writer transaction request attempt text) := by
  have hin := hconsistent.in_step writer transaction hwriter
  have hrestored := (hin.allocated request attempt nextSeq hprogress).1
  have hreturned : transaction.own = transaction.returned := by
    have hrows := hin.rows
    rw [hprogress] at hrows
    rw [hrows]
    exact List.append_nil _
  have hchanged : ∀ progress : Progress, progress.rows = [] →
      (∀ other count seq, progress ≠ .allocated other count seq) →
      InStep s.committed
        { transaction with own := transaction.savepoint, progress := progress } := by
    intro progress hnone hnot
    refine ⟨?_, ?_, ?_, ?_⟩
    · simp only [hrestored]
      exact hin.numbered
    · simp only [hrestored, hnone, List.append_nil]
      exact hreturned
    · intro other count _
      rfl
    · intro other count seq hallocated
      exact absurd hallocated (hnot other count seq)
  unfold State.fail
  split
  · apply hconsistent.setWriter hwriter
    · apply hchanged
      · rfl
      · intro other count seq hsame
        cases hsame
    · exact hconsistent.alone_of_same hwriter hrestored
  · apply Consistent.raising
    apply hconsistent.setWriter hwriter
    · apply hchanged
      · rfl
      · intro other count seq hsame
        cases hsame
    · exact hconsistent.alone_of_same hwriter hrestored

/-- An insert that goes through takes the next number, and no other transaction has rows. -/
theorem Consistent.insert (hconsistent : Consistent s)
    (hwriter : s.writers[writer]? = some transaction) {request : EventRequest} {attempt : Nat}
    (hprogress : transaction.progress = .allocated request attempt nextSeq) (refused : Bool)
    (text : String) :
    Consistent (s.insert writer transaction request attempt nextSeq refused text) := by
  have hin := hconsistent.in_step writer transaction hwriter
  obtain ⟨_, hpositive, hbound⟩ := hin.allocated request attempt nextSeq hprogress
  unfold State.insert
  split
  · exact hconsistent.fail hwriter hprogress text
  · rename_i hfree
    split
    · exact hconsistent
    · rename_i hunheld
      split
      · exact hconsistent.fail hwriter hprogress text
      · have hnext : nextSeq = s.committed.length + transaction.own.length + 1 := by
          rw [taken_iff hconsistent hin] at hfree
          omega
        apply hconsistent.setWriter hwriter
        · refine ⟨?_, ?_, ?_, ?_⟩
          · rw [List.map_append, hin.numbered, List.length_append, List.length_singleton,
              List.range'_concat, hnext]
            simp only [List.map_singleton, EventRequest.row, Nat.one_mul]
            congr 2
            omega
          · have hrows := hin.rows
            rw [hprogress] at hrows
            rw [hrows]
            exact congrArg (· ++ [request.row nextSeq]) (List.append_nil _)
          · intro other count hsame
            cases hsame
          · intro other count seq hsame
            cases hsame
        · intro _ other rival hother hrival
          by_contra hsome
          by_cases hown : transaction.own = []
          · -- The other transaction holds the very next number.
            have hrivals := (hconsistent.in_step other rival hrival).numbered
            have hlength : 0 < rival.own.length := List.length_pos_iff.mpr hsome
            rw [hown, List.length_nil, Nat.add_zero] at hnext
            have hholds := (seq_of_numbered hrivals nextSeq).mpr ⟨by omega, by omega⟩
            apply hunheld
            obtain ⟨row, hrow, hseq⟩ := hholds
            rw [State.held, List.any_eq_true]
            refine ⟨(rival, other), ?_, ?_⟩
            · exact List.mem_zipIdx_iff_getElem?.mpr hrival
            · refine decide_eq_true ⟨hother, ?_⟩
              exact List.any_eq_true.mpr ⟨row, hrow, decide_eq_true hseq⟩
          · exact hother (hconsistent.alone other writer rival transaction hrival hwriter
              hsome hown)

theorem Consistent.commit (hconsistent : Consistent s)
    (hwriter : s.writers[writer]? = some transaction) (hprogress : transaction.progress = .idle) :
    Consistent { s.setWriter writer .empty with
      committed := s.committed ++ transaction.own
      kept := s.kept ++ transaction.returned } := by
  have hin := hconsistent.in_step writer transaction hwriter
  have hempty : Consistent (s.setWriter writer .empty) :=
    hconsistent.setWriter hwriter (inStep_empty _) fun hown => absurd rfl hown
  refine ⟨?_, ?_, ?_, hempty.alone⟩
  · simp only [List.map_append, hconsistent.numbered, hin.numbered, List.length_append]
    rw [Nat.add_comm s.committed.length 1, List.range'_append_1]
  · have hrows := hin.rows
    rw [hprogress] at hrows
    simp only [hconsistent.settled]
    rw [hrows]
    exact congrArg (s.kept ++ ·) (List.append_nil _)
  · intro other found hfound
    have hstood := hempty.in_step other found hfound
    by_cases hown : transaction.own = []
    · simp only [hown, List.append_nil]
      exact hstood
    · have hnone : found.own = [] := by
        by_cases hsame : writer = other
        · subst hsame
          have hwritten : (update s.writers writer .empty)[writer]? = some found := hfound
          rw [getElem?_update_self hwriter] at hwritten
          rw [← Option.some.inj hwritten]
          rfl
        · have hrival : (update s.writers writer .empty)[other]? = some found := hfound
          rw [getElem?_update_of_ne hsame] at hrival
          by_contra hsome
          exact hsame (hconsistent.alone writer other transaction found hwriter hrival hown hsome)
      refine ⟨?_, hstood.rows, hstood.restored, ?_⟩
      · rw [hnone]
        rfl
      · intro request attempt nextSeq hallocated
        obtain ⟨hrestored, hpositive, hbound⟩ := hstood.allocated request attempt nextSeq hallocated
        refine ⟨hrestored, hpositive, ?_⟩
        change nextSeq ≤ s.committed.length + _ + 1 at hbound
        rw [List.length_append]
        omega

theorem Consistent.nextSeq_le (hconsistent : Consistent s)
    (hin : InStep s.committed transaction) (seen : Nat) :
    maxSeq (s.committed.take seen ++ transaction.own) + 1 ≤
      s.committed.length + transaction.own.length + 1 := by
  apply Nat.succ_le_succ
  apply maxSeq_le
  intro row hrow
  rcases List.mem_append.mp hrow with hcommitted | hown
  · have hplace := (seq_of_numbered hconsistent.numbered row.seq).mp
      ⟨row, List.mem_of_mem_take hcommitted, rfl⟩
    omega
  · have hplace := (seq_of_numbered hin.numbered row.seq).mp ⟨row, hown, rfl⟩
    omega

theorem Consistent.advance (hconsistent : Consistent s)
    (hwriter : s.writers[writer]? = some transaction) (hown : changed.own = transaction.own)
    (hrows : changed.own = changed.returned ++ changed.progress.rows)
    (hrestored : ∀ request attempt, changed.progress = .attempting request attempt →
      changed.savepoint = changed.own)
    (hallocated : ∀ request attempt nextSeq, changed.progress = .allocated request attempt nextSeq →
      changed.savepoint = changed.own ∧ 0 < nextSeq ∧
        nextSeq ≤ s.committed.length + changed.own.length + 1) :
    Consistent (s.setWriter writer changed) := by
  have hin := hconsistent.in_step writer transaction hwriter
  apply hconsistent.setWriter hwriter
  · refine ⟨?_, hrows, hrestored, hallocated⟩
    rw [hown]
    exact hin.numbered
  · exact hconsistent.alone_of_same hwriter hown

theorem Consistent.act (hconsistent : Consistent s) {move : Step}
    (hwriter : s.writers[move.writer]? = some transaction) :
    Consistent (act s transaction move) := by
  have hin := hconsistent.in_step move.writer transaction hwriter
  have hrows := hin.rows
  cases move with
  | call =>
      cases hprogress : transaction.progress with
      | idle =>
          rw [hprogress] at hrows
          simp only [V2.Sequence.act, hprogress]
          split
          · exact hconsistent.raising _
          · apply hconsistent.advance hwriter
            · rfl
            · exact hrows
            · intro _ _ _
              rfl
            · intro _ _ _ hsame
              cases hsame
      | _ =>
          simp only [V2.Sequence.act, hprogress]
          exact hconsistent
  | read writer seen =>
      cases hprogress : transaction.progress with
      | attempting request attempt =>
          rw [hprogress] at hrows
          simp only [V2.Sequence.act, hprogress]
          apply hconsistent.advance hwriter
          · rfl
          · exact hrows
          · intro _ _ hsame
            cases hsame
          · intro _ _ nextSeq hsame
            cases hsame
            exact ⟨hin.restored request attempt hprogress, Nat.succ_pos _,
              hconsistent.nextSeq_le hin seen⟩
      | _ =>
          simp only [V2.Sequence.act, hprogress]
          exact hconsistent
  | flush writer refused text =>
      cases hprogress : transaction.progress with
      | allocated =>
          simp only [V2.Sequence.act, hprogress]
          exact hconsistent.insert hwriter hprogress refused text
      | _ =>
          simp only [V2.Sequence.act, hprogress]
          exact hconsistent
  | release =>
      cases hprogress : transaction.progress with
      | flushed =>
          rw [hprogress] at hrows
          simp only [V2.Sequence.act, hprogress]
          apply hconsistent.advance hwriter
          · rfl
          · exact hrows.trans (List.append_nil _).symm
          · intro _ _ hsame
            cases hsame
          · intro _ _ _ hsame
            cases hsame
      | _ =>
          simp only [V2.Sequence.act, hprogress]
          exact hconsistent
  | commit =>
      cases hprogress : transaction.progress with
      | idle =>
          simp only [V2.Sequence.act, hprogress]
          exact hconsistent.commit hwriter hprogress
      | _ =>
          simp only [V2.Sequence.act, hprogress]
          exact hconsistent
  | rollback =>
      exact hconsistent.setWriter hwriter (inStep_empty _) fun hown => absurd rfl hown

end Moves

theorem Consistent.step {s : State} (hconsistent : Consistent s) (move : Step) :
    Consistent (step s move) := by
  unfold V2.Sequence.step
  cases hwriter : s.writers[move.writer]? with
  | none => exact hconsistent
  | some => exact hconsistent.act hwriter

theorem Consistent.gapless {s : State} (hconsistent : Consistent s) : Gapless s where
  numbered := hconsistent.numbered
  settled := hconsistent.settled
  added := by
    intro writer transaction hwriter hidle
    have hrows := (hconsistent.in_step writer transaction hwriter).rows
    rw [hidle] at hrows
    exact hrows.trans (List.append_nil _)

/-- However the calls of any number of writers interleave, the committed numbers are at every
moment those from one to the number of rows, and each row is that of one returned call. -/
theorem sequence_numbers_gapless (writers : Nat) (moves : List Step) :
    Throughout step Gapless (State.start writers) moves := by
  have hrun : Throughout step Consistent (State.start writers) moves := by
    apply throughout_of_preserved
    · exact consistent_start writers
    · intro done move _ hhere
      exact hhere.step move
  intro done hdone
  exact (hrun done hdone).gapless

/-- Two writers compute the same number; the second one's insert fails and is tried again. -/
example :
    let request : EventRequest := ⟨"alice", "chat.note", none, none, none, none, 3⟩
    (run step (State.start 2)
      [.call 0 request, .call 1 request, .read 0 0, .read 1 0, .flush 0 false "", .release 0,
        .commit 0, .flush 1 false "UNIQUE constraint failed", .read 1 1, .flush 1 false "",
        .release 1, .commit 1]).committed.map (·.seq) = [1, 2] := by
  decide

end OpsCure.V2.Sequence
