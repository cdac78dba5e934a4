/-
The thread delta (`session_service.py`, `get_thread_delta`): an agent reads the transcript of
its session in pages, each from the cursor the one before gave.  The cursor is the time and
the random id of an entry.  Entries of one time come in the order of their ids, so that an
entry can be appended behind the cursor, and a page can be full of entries already read.
-/
import Mathlib.Data.Prod.Lex
import OpsCure.HandoffText
import OpsCure.Library.Keyset
import OpsCure.Library.Run
import OpsCure.Presence

namespace OpsCure.ThreadDelta

open Fallible Keyset SessionService

/-- The tables behind `\w` and `\d`. -/
structure CharTable where
  isAlnum : Char → Bool
  isDecimal : Char → Bool

def CharTable.isWord (table : CharTable) (c : Char) : Bool := table.isAlnum c || c = '_'

def CharTable.ascii : CharTable := ⟨Char.isAlphanum, Char.isDigit⟩

def maxRegexInputLen : Nat := 8192

/-- `TASK_CARD_ID_RE` at the first character, where a word may begin. -/
def taskCardIdAt (table : CharTable) : List Char → Option (List Char)
  | t :: '-' :: first :: second :: third :: rest =>
      if (t = 'T' ∨ t = 't') ∧ [first, second, third].all table.isDecimal ∧
          ! rest.head?.any table.isWord then
        some [t, '-', first, second, third]
      else none
  | _ => none

/-- The first match of `TASK_CARD_ID_RE`, from a place that may follow a word character. -/
def searchTaskCardId (table : CharTable) (afterWord : Bool) : List Char → Option (List Char)
  | [] => none
  | c :: rest =>
      (if afterWord then none else taskCardIdAt table (c :: rest)).or
        (searchTaskCardId table (table.isWord c) rest)

/-- `text.upper()`, for comparison with a task id. -/
def upper (text : String) : String := String.ofList (text.toList.map Char.toUpper)

/-- `_extract_transcript_task_id`. -/
def extractTranscriptTaskId (table : CharTable) (content : String) : Option String :=
  if maxRegexInputLen < content.length then none
  else (searchTaskCardId table false content.toList).map fun found =>
    upper (Text.strip (String.ofList found))

/-- A letter of a pattern matched without its case; the long s folds to `s`. -/
def sameLetter (letter c : Char) : Bool :=
  c.toLower = letter || (letter = 's' && c.toNat = 0x17F)

def dropWord : List Char → List Char → Option (List Char)
  | [], rest => some rest
  | _ :: _, [] => none
  | letter :: word, c :: rest => if sameLetter letter c then dropWord word rest else none

/-- `[A-Za-z0-9_-]` matched without case: four more letters fold into it. -/
def isTypeChar (c : Char) : Bool :=
  c.isAlphanum || c = '_' || c = '-' || c.toNat ∈ [0x130, 0x131, 0x17F, 0x212A]

/-- `OPS_TYPE_RE` at the start of a line. -/
def opsTypeAt (line : List Char) : Option (List Char) := do
  let rest ← dropWord "ops:".toList line
  let rest ← dropWord "type=".toList (rest.dropWhile Text.isSpace)
  let found := rest.takeWhile isTypeChar
  if found = [] then none else some found

/-- The first match of `OPS_TYPE_RE`. -/
def searchOpsType (atStart : Bool) : List Char → Option (List Char)
  | [] => none
  | c :: rest =>
      (if atStart then opsTypeAt (c :: rest) else none).or (searchOpsType (c = '\n') rest)

/-- A row of `transcripts`; its id is the text of a uuid. -/
structure TranscriptEntry where
  id : { text : String // text ≠ "" }
  direction : String
  actor : String
  content : String
  createdAt : Time
deriving DecidableEq

/-- `_classify_transcript_kind`. -/
def classifyTranscriptKind (entry : TranscriptEntry) : String :=
  let content := Text.strip entry.content
  let lines := ((splitlines content).map Text.strip).filter (· ≠ "")
  if entry.direction = "inbound" then "user"
  else if entry.direction = "system" then
    let lowered := Text.lower content
    if startsWith lowered "discussion queued" then "discuss_open"
    else if startsWith lowered "discussion reply queued" then "discuss_reply"
    else "status"
  else if lines.any (startsWith · "ISSUE:") then "issue"
  else if lines.any (startsWith · "ANSWER:") then "answer"
  else if lines.any (startsWith · "DONE:") then "done"
  else if lines.any (startsWith · "HUMAN:") then "human"
  else
    let found := if maxRegexInputLen < content.length then none
      else searchOpsType true content.toList
    match found with
    | some found => Text.lower (Text.strip (String.ofList found))
    | none => if lines.any (startsWith · "OPS:") then "ops" else "status"

/-! ## Cursors -/

/-- A cursor: the time and the id of an entry, as `_encode_thread_cursor` writes and
`_decode_thread_cursor` reads them. -/
abbrev ThreadCursor := Time ×ₗ { text : String // text ≠ "" }

/-- `_encode_thread_cursor`. -/
def encodeThreadCursor (entry : TranscriptEntry) : ThreadCursor := toLex (entry.createdAt, entry.id)

/-- `_thread_entry_after_cursor`. -/
def threadEntryAfterCursor (entry : TranscriptEntry) (cursor : Option ThreadCursor) : Bool :=
  match cursor with
  | none => true
  | some place =>
      if entry.createdAt > (ofLex place).1 then true
      else if entry.createdAt < (ofLex place).1 then false
      else entry.id > (ofLex place).2

theorem threadEntryAfterCursor_eq (entry : TranscriptEntry) (cursor : Option ThreadCursor) :
    threadEntryAfterCursor entry cursor = isAfter encodeThreadCursor cursor entry := by
  cases cursor with
  | none => rfl
  | some place =>
      unfold threadEntryAfterCursor isAfter encodeThreadCursor
      simp only [Prod.Lex.lt_iff, ofLex_toLex]
      rcases lt_trichotomy entry.createdAt (ofLex place).1 with hless | hsame | hmore
      · simp [hless, hless.ne', not_lt_of_gt hless]
      · simp [hsame]
      · simp [hmore]

/-! ## The query -/

/-- `THREAD_DELTA_FETCH_LIMIT`. -/
def threadDeltaFetchLimit : Nat := 120

inductive ThreadError where
  | agentNotFound
deriving DecidableEq, Repr

def ThreadError.text : ThreadError → String
  | agentNotFound => "Agent not found."

structure ThreadDeltaRequest where
  agentName : String
  kinds : List String
  taskId : Option String
  limit : Nat
deriving DecidableEq, Repr

structure ThreadDeltaEntry where
  cursor : ThreadCursor
  direction : String
  actor : String
  kind : String
  content : String
  taskId : Option String
  createdAt : Time
deriving DecidableEq

structure ThreadDeltaResponse where
  nextCursor : Option ThreadCursor
  events : List ThreadDeltaEntry
deriving DecidableEq

/-- `requested_kinds`. -/
def ThreadDeltaRequest.requestedKinds (request : ThreadDeltaRequest) : List String :=
  (request.kinds.filter (Text.strip · ≠ "")).map fun item => Text.lower (Text.strip item)

/-- `normalized_task_id`, where it filters. -/
def ThreadDeltaRequest.normalizedTaskId (request : ThreadDeltaRequest) : Option String :=
  (request.taskId.map fun taskId => upper (Text.strip taskId)).filter (· ≠ "")

def ThreadDeltaRequest.accepts (table : CharTable) (request : ThreadDeltaRequest)
    (entry : TranscriptEntry) : Bool :=
  (request.requestedKinds = [] || classifyTranscriptKind entry ∈ request.requestedKinds) &&
    request.normalizedTaskId.all fun taskId =>
      extractTranscriptTaskId table entry.content = some taskId

def TranscriptEntry.toEvent (table : CharTable) (entry : TranscriptEntry) : ThreadDeltaEntry where
  cursor := encodeThreadCursor entry
  direction := entry.direction
  actor := entry.actor
  kind := classifyTranscriptKind entry
  content := entry.content
  taskId := extractTranscriptTaskId table entry.content
  createdAt := entry.createdAt

/-- The rows that are fetched: the last ones without a cursor, else the first ones from the
time of the cursor on. -/
def transcriptRows (entries : List TranscriptEntry) (cursor : Option ThreadCursor) :
    List TranscriptEntry :=
  match cursor with
  | none => ((descending encodeThreadCursor entries).take threadDeltaFetchLimit).reverse
  | some place =>
      ((ascending encodeThreadCursor entries).filter fun entry =>
        (ofLex place).1 ≤ entry.createdAt).take threadDeltaFetchLimit

/-- The loop over the rows; the answer grows as it goes. -/
def scanRows (table : CharTable) (request : ThreadDeltaRequest) (cursor : Option ThreadCursor) :
    List TranscriptEntry → ThreadDeltaResponse → ThreadDeltaResponse
  | [], response => response
  | entry :: rest, response =>
      if ! threadEntryAfterCursor entry cursor then scanRows table request cursor rest response
      else if ! request.accepts table entry then
        scanRows table request cursor rest
          { response with nextCursor := some (encodeThreadCursor entry) }
      else
        let found : ThreadDeltaResponse :=
          ⟨some (encodeThreadCursor entry), response.events ++ [entry.toEvent table]⟩
        if request.limit ≤ found.events.length then found
        else scanRows table request cursor rest found

/-- `get_thread_delta`, on the transcript and the agents of the session. -/
def getThreadDelta (table : CharTable) (agents : List String) (entries : List TranscriptEntry)
    (request : ThreadDeltaRequest) (cursor : Option ThreadCursor) :
    Except ThreadError ThreadDeltaResponse := do
  require (request.agentName ∈ agents) .agentNotFound
  return scanRows table request cursor (transcriptRows entries cursor) ⟨cursor, []⟩

/-- The entries of a list a call goes through, with some found already: up to the one with
which the limit is reached. -/
def ThreadDeltaRequest.scanned (table : CharTable) (request : ThreadDeltaRequest) (found : Nat) :
    List TranscriptEntry → List TranscriptEntry
  | [] => []
  | entry :: rest =>
      if ! request.accepts table entry then entry :: request.scanned table found rest
      else if request.limit ≤ found + 1 then [entry]
      else entry :: request.scanned table (found + 1) rest

theorem scanned_isPrefix (table : CharTable) (request : ThreadDeltaRequest) (found : Nat)
    (rows : List TranscriptEntry) : request.scanned table found rows <+: rows := by
  induction rows generalizing found with
  | nil => exact List.prefix_refl _
  | cons entry rest ih =>
      rw [ThreadDeltaRequest.scanned]
      split
      · exact (List.prefix_cons_inj entry).mpr (ih found)
      · split
        · exact (List.prefix_cons_inj entry).mpr (List.nil_prefix)
        · exact (List.prefix_cons_inj entry).mpr (ih (found + 1))

variable {table : CharTable} {entries : List TranscriptEntry}

theorem scanned_eq_nil {request : ThreadDeltaRequest} {found : Nat} {rows : List TranscriptEntry}
    (hempty : request.scanned table found rows = []) : rows = [] := by
  cases rows with
  | nil => rfl
  | cons =>
      rw [ThreadDeltaRequest.scanned] at hempty
      split at hempty
      · cases hempty
      · split at hempty <;> cases hempty

theorem scanRows_eq (table : CharTable) (request : ThreadDeltaRequest)
    (cursor : Option ThreadCursor) (rows : List TranscriptEntry) (response : ThreadDeltaResponse) :
    scanRows table request cursor rows response =
      let front := request.scanned table response.events.length
        (rows.filter (isAfter encodeThreadCursor cursor))
      ⟨(front.getLast?.map encodeThreadCursor).or response.nextCursor,
        response.events ++ (front.filter (request.accepts table)).map (·.toEvent table)⟩ := by
  induction rows generalizing response with
  | nil => simp [scanRows, ThreadDeltaRequest.scanned]
  | cons entry rest ih =>
      have hkeep := threadEntryAfterCursor_eq entry cursor
      by_cases hafter : isAfter encodeThreadCursor cursor entry
      · rw [List.filter_cons_of_pos hafter]
        rw [hafter] at hkeep
        by_cases haccepts : request.accepts table entry
        · by_cases hlimit : request.limit ≤ response.events.length + 1
          · simp [scanRows, ThreadDeltaRequest.scanned, hkeep, haccepts, hlimit]
          · have hrest := ih ⟨some (encodeThreadCursor entry),
              response.events ++ [entry.toEvent table]⟩
            simp only [scanRows, ThreadDeltaRequest.scanned, hkeep, haccepts, hlimit, Bool.not_true,
              Bool.false_eq_true, if_false, List.length_append, List.length_singleton] at hrest ⊢
            rw [hrest, List.filter_cons_of_pos haccepts, List.getLast?_cons]
            cases (request.scanned table (response.events.length + 1)
              (rest.filter (isAfter encodeThreadCursor cursor))).getLast? <;> simp
        · have hrest := ih { response with nextCursor := some (encodeThreadCursor entry) }
          simp only [scanRows, ThreadDeltaRequest.scanned, hkeep, haccepts, Bool.not_true,
            Bool.not_false, Bool.false_eq_true, if_false, if_true] at hrest ⊢
          rw [hrest, List.filter_cons_of_neg haccepts, List.getLast?_cons]
          cases (request.scanned table response.events.length
            (rest.filter (isAfter encodeThreadCursor cursor))).getLast? <;> simp
      · rw [List.filter_cons_of_neg hafter]
        rw [Bool.eq_false_iff.mpr hafter] at hkeep
        rw [scanRows, hkeep]
        exact ih response

def freshRows (entries : List TranscriptEntry) (cursor : Option ThreadCursor) :
    List TranscriptEntry :=
  (transcriptRows entries cursor).filter (isAfter encodeThreadCursor cursor)

/-- The entries a call goes through. -/
def ThreadDeltaRequest.passes (table : CharTable) (request : ThreadDeltaRequest)
    (entries : List TranscriptEntry) (cursor : Option ThreadCursor) : List TranscriptEntry :=
  request.scanned table 0 (freshRows entries cursor)

/-- The entries that take a place in the page although the cursor has passed them. -/
def passedTies (entries : List TranscriptEntry) (place : ThreadCursor) : Nat :=
  entries.countP fun entry => decide ((ofLex place).1 ≤ entry.createdAt) &&
    ! isAfter encodeThreadCursor (some place) entry

def Reaches (entries : List TranscriptEntry) (cursor : Option ThreadCursor) : Prop :=
  ∀ place ∈ cursor, ahead encodeThreadCursor entries cursor = [] ∨
    passedTies entries place < threadDeltaFetchLimit

/-- What is fetched and not passed yet is the start of what lies ahead; without a cursor it is
the end of it. -/
theorem transcriptRows_ahead (hnodup : (entries.map encodeThreadCursor).Nodup)
    (cursor : Option ThreadCursor) :
    ∃ skipped rest, ahead encodeThreadCursor entries cursor =
        skipped ++ freshRows entries cursor ++ rest ∧
      (∀ entry ∈ skipped, cursor = none ∧ entry ∉ transcriptRows entries none) ∧
      (Reaches entries cursor → freshRows entries cursor = [] →
        ahead encodeThreadCursor entries cursor = []) := by
  unfold freshRows
  cases cursor with
  | none =>
      have hall : ∀ rows : List TranscriptEntry,
          rows.filter (isAfter encodeThreadCursor none) = rows := by
        intro rows
        exact List.filter_eq_self.mpr fun _ _ => rfl
      have hrows : transcriptRows entries none =
          (ascending encodeThreadCursor entries).drop (entries.length - threadDeltaFetchLimit) :=
        reverse_take_descending hnodup threadDeltaFetchLimit
      refine ⟨(ascending encodeThreadCursor entries).take
        (entries.length - threadDeltaFetchLimit), [], ?_, ?_, ?_⟩
      · rw [ahead, hall, hall, hrows, List.take_append_drop, List.append_nil]
      · intro entry hentry
        refine ⟨rfl, ?_⟩
        intro hrow
        have hpairwise := pairwise_ascending hnodup
        rw [← List.take_append_drop (entries.length - threadDeltaFetchLimit)
          (ascending encodeThreadCursor entries), ← hrows, List.pairwise_append] at hpairwise
        exact lt_irrefl _ (hpairwise.2.2 entry hentry entry hrow)
      · intro _ hempty
        rw [hall, hrows, List.drop_eq_nil_iff, length_ascending] at hempty
        have hnone : entries.length = 0 := by
          unfold threadDeltaFetchLimit at hempty
          omega
        rw [List.length_eq_zero_iff.mp hnone]
        rfl
  | some place =>
      have hcoarse : ∀ entry, isAfter encodeThreadCursor (some place) entry →
          decide ((ofLex place).1 ≤ entry.createdAt) := by
        intro entry hafter
        have hless := Prod.Lex.lt_iff.mp (of_decide_eq_true hafter)
        apply decide_eq_true
        rcases hless with hless | hsame
        · exact le_of_lt hless
        · exact le_of_eq hsame.1
      have hpage := page_after hnodup (some place) hcoarse threadDeltaFetchLimit
      refine ⟨[], (ahead encodeThreadCursor entries (some place)).drop
        (threadDeltaFetchLimit - passedTies entries place), ?_, List.forall_mem_nil _, ?_⟩
      · rw [transcriptRows, hpage, List.nil_append]
        exact (List.take_append_drop _ _).symm
      · intro hreaches hempty
        rw [transcriptRows, hpage, List.take_eq_nil_iff] at hempty
        rcases hempty with hfull | hnone
        · rcases hreaches place rfl with hnone | hroom
          · exact hnone
          · have hfull : threadDeltaFetchLimit - passedTies entries place = 0 := hfull
            omega
        · exact hnone

theorem getThreadDelta_spec {agents : List String} {request : ThreadDeltaRequest}
    {cursor : Option ThreadCursor} {response : ThreadDeltaResponse}
    (hnodup : (entries.map encodeThreadCursor).Nodup)
    (hdone : getThreadDelta table agents entries request cursor = .ok response) :
    ∃ skipped back, ahead encodeThreadCursor entries cursor =
        skipped ++ request.passes table entries cursor ++ back ∧
      (∀ entry ∈ skipped, cursor = none ∧ entry ∉ transcriptRows entries none) ∧
      (Reaches entries cursor → request.passes table entries cursor = [] →
        ahead encodeThreadCursor entries cursor = []) ∧
      response.nextCursor =
        ((request.passes table entries cursor).getLast?.map encodeThreadCursor).or cursor ∧
      response.events =
        ((request.passes table entries cursor).filter (request.accepts table)).map
          (·.toEvent table) := by
  unfold getThreadDelta at hdone
  simp only [bind_eq_ok, pure_eq_ok] at hdone
  obtain ⟨_, _, hscan⟩ := hdone
  obtain ⟨skipped, rest, hahead, hskipped, hreaches⟩ := transcriptRows_ahead hnodup cursor
  obtain ⟨left, hleft⟩ := scanned_isPrefix table request 0 (freshRows entries cursor)
  rw [← hscan, scanRows_eq]
  refine ⟨skipped, left ++ rest, ?_, hskipped, ?_, rfl, rfl⟩
  · rw [hahead, ← hleft]
    simp [ThreadDeltaRequest.passes]
  · intro hroom hempty
    exact hreaches hroom (scanned_eq_nil hempty)

end OpsCure.ThreadDelta
