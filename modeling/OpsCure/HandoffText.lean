/-
The texts of handoffs (`session_service.py`): what is read out of a handoff's body when its
task is made or handed off again.
-/
import OpsCure.Library.Text
import Mathlib.Data.List.Infix

namespace OpsCure.SessionService

open Text

/-- The characters `str.splitlines` breaks at. -/
def isLineBreak (c : Char) : Bool :=
  let n := c.toNat
  (10 ≤ n && n ≤ 13) || (28 ≤ n && n ≤ 30) || n == 0x85 || n == 0x2028 || n == 0x2029

/-- `text.splitlines()`, `line` being the characters of the open line, the last first. -/
def splitLines (line : List Char) : List Char → List String
  | [] => if line = [] then [] else [String.ofList line.reverse]
  | '\r' :: '\n' :: rest => String.ofList line.reverse :: splitLines [] rest
  | c :: rest =>
      if isLineBreak c then String.ofList line.reverse :: splitLines [] rest
      else splitLines (c :: line) rest

def splitlines (text : String) : List String := splitLines [] text.toList

def startsWith (text start : String) : Bool := start.toList.isPrefixOf text.toList

/-- `part in text`. -/
def mentions (text part : String) : Bool := part.toList <:+: text.toList

def dropStart (text start : String) : String :=
  strip (String.ofList (text.toList.drop start.length))

/-- `_extract_prefixed_line`. -/
def extractPrefixedLine (text start : String) : Option String :=
  ((splitlines text).find? fun rawLine => startsWith (lower (strip rawLine)) (lower start)).map
    fun rawLine =>
      if mentions rawLine ":" then
        strip (String.ofList ((rawLine.toList.dropWhile (· ≠ ':')).drop 1))
      else strip rawLine

/-- The rest of each line that opens with a word, where there is a rest. -/
def linesAfter (lines : List String) (start : String) : List String :=
  ((lines.filter (startsWith · start)).map (dropStart · start)).filter (· ≠ "")

/-- `_normalize_task_payload_text`. -/
def normalizeTaskPayloadText (text : String) : String :=
  let stripped := strip text
  let lines := ((splitlines stripped).map strip).filter (· ≠ "")
  if lines.any fun line =>
      ["Target summary:", "Files:", "Done condition:"].any (startsWith line) then stripped
  else if lines.any fun line =>
      ["OPS:", "HUMAN:", "ANSWER:", "ISSUE:", "DONE:"].any (startsWith line) then
    let preferred := linesAfter lines "ANSWER:" ++ linesAfter lines "HUMAN:" ++
      (linesAfter lines "ISSUE:").map ("Issue: " ++ ·)
    let nonOps := lines.filter (! startsWith · "OPS:")
    if preferred ≠ [] then "\n".intercalate preferred
    else if nonOps ≠ [] then "\n".intercalate nonOps
    else stripped
  else stripped

/-- `text.lower()` as far as it gives ASCII letters: the capital I with a dot gives two
characters, the first one `i`. -/
def lowerScope (text : String) : List Char :=
  text.toList.flatMap fun c => if c.toNat = 0x130 then ['i', Char.ofNat 0x307] else [lowerChar c]

/-- `re.sub(r"[^a-z0-9]+", "-", text)`, from a place that may follow a dash. -/
def dashed (afterDash : Bool) : List Char → List Char
  | [] => []
  | c :: rest =>
      if ('a' ≤ c ∧ c ≤ 'z') ∨ ('0' ≤ c ∧ c ≤ '9') then c :: dashed false rest
      else if afterDash then dashed true rest
      else '-' :: dashed true rest

/-- `_derive_semantic_scope`. -/
def deriveSemanticScope (text : String) : Option String :=
  let normalized := dashed false (lowerScope text)
  let trimmed := ((normalized.dropWhile (· = '-')).reverse.dropWhile (· = '-')).reverse
  if trimmed.take 64 = [] then none else some (String.ofList (trimmed.take 64))

/-- The items of a `Files:` line. -/
def fileItems (fileScope : String) : List String :=
  (((fileScope.toList.splitOn ',').map String.ofList).map strip).filter (· ≠ "")

/-- `_trim_context_text`. -/
def trimContextText (text : String) (limit : Nat) : String :=
  let normalized := collapse text
  if normalized.length ≤ limit then normalized
  else String.ofList (((normalized.toList.take (limit - 3)).reverse.dropWhile isSpace).reverse) ++
    "..."

/-- `_validate_handoff_body`, given the task id found in the body. -/
def validateHandoffBody (body : String) (taskId : Option String) : Option String :=
  if (collapse body).length < 40 then
    some "handoff is too short for a task-card-sized next step"
  else if taskId = none then some "handoff is missing a `T-###` task id"
  else if ¬ mentions body "TASK_BOARD.md" ∨ ¬ mentions body "CURRENT_STATE.md" then
    some "handoff must reference `TASK_BOARD.md` and `CURRENT_STATE.md`"
  else if ¬ mentions body "Target summary:" then
    some "handoff must include a compact target summary"
  else none

example :
    extractPrefixedLine "T-001\n files: a.py, b.py\nDone condition: tests" "Files:" =
      some "a.py, b.py" := by
  decide +kernel

end OpsCure.SessionService
