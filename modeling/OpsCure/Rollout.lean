/-
The rollout of a thread as the device agent handles it (`remote_executor/device_agent.py`).  Codex
appends JSON lines to it.  The agent appends the prompts that wait for their turn, notes them in a
registry, and withdraws them when the turn is there, or after a time.
-/
import OpsCure.Library.JsonText
import OpsCure.Library.Lines
import OpsCure.Library.Rows
import OpsCure.Library.Utf8
import OpsCure.RemoteCommands

namespace OpsCure.Rollout

open Lines Utf8 JsonText

/-! ## Messages -/

structure Image where
  src : String
  alt : String
  title : Option String
deriving DecidableEq, Repr

structure Message where
  lineNumber : Nat
  timestamp : Json
  role : String
  phase : Option String
  text : String
  images : List Image
deriving Repr

/-- What Python calls the type of a decoded value. -/
def typeName : Json → String
  | .null => "NoneType"
  | .bool _ => "bool"
  | .int _ => "int"
  | .float _ => "float"
  | .str _ => "str"
  | .arr _ => "list"
  | .obj _ => "dict"

/-- `a or b` on decoded values. -/
def orElse (value other : Json) : Json := if value.truthy then value else other

/-- What `datetime.fromisoformat` makes of a text: no time, one without a zone, or an instant. -/
inductive Stamp where
  | invalid
  | naive
  | aware (instant : Time)
deriving DecidableEq, Repr

/-- What the agent takes from Python's library: `str` of what is no text, `json.loads`, where
nothing stands for a `JSONDecodeError`, and `datetime.fromisoformat`. -/
structure Python where
  render : Json → String
  loads : String → Option Json
  fromisoformat : String → Stamp

section
variable (python : Python)

/-- `compact_text(value, fallback)` on a decoded value. -/
def compact (value : Json) (fallback : String) : String :=
  RemoteCodex.compactText (RemoteCodex.textOf python.render value) fallback

/-- `compact_text(value) or None`. -/
def compactOrNone (value : Json) : Option String :=
  if compact python value "" = "" then none else some (compact python value "")

/-- `preserve_message_text`. -/
def preserveMessageText (value : Json) : String :=
  match value with
  | .null => ""
  | .str text => String.ofList (universalNewlines text.toList)
  | value => String.ofList (universalNewlines (python.render value).toList)

/-- `_extract_message_image`. -/
def extractMessageImage (item : Json) (index : Nat) : Option Image :=
  let url := ["image_url", "url", "src"].findSome? fun key =>
    ((item.get key).str?.map Text.strip).filter (· ≠ "")
  url.map fun src =>
    let label := orElse (item.get "label") (item.get "name")
    { src := src
      alt := compact python (orElse (item.get "alt") (orElse (item.get "title") label))
        ("Uploaded image " ++ toString index)
      title := compactOrNone python (orElse (item.get "title") label) }

def addPart (parts : List String × List Image) (item : Json) : List String × List Image :=
  if ¬ item.isObj then parts
  else
    let itemType := Text.lower (compact python (item.get "type") "")
    if itemType ∈ ["input_text", "output_text", "text"] then
      match (item.get "text").str? with
      | none => parts
      | some text =>
          if Text.strip text = "" then parts else (parts.1 ++ [Text.strip text], parts.2)
    else if itemType ∈ ["input_image", "output_image", "image"] then
      match extractMessageImage python item (parts.2.length + 1) with
      | none => parts
      | some image => (parts.1, parts.2 ++ [image])
    else parts

/-- `extract_message_parts`. -/
def extractMessageParts (content : Json) : String × List Image :=
  match content with
  | .arr items =>
      let parts := items.foldl (addPart python) ([], [])
      let texts := if parts.2 = [] then parts.1
        else parts.1.filter fun part => RemoteCodex.compactText part "" ≠ "<image>"
      (Text.strip ("\n\n".intercalate ((texts.map Text.strip).filter (· ≠ ""))), parts.2)
  | _ => ("", [])

def hiddenPrefixes : List String :=
  ["<environment_context>", "<permissions instructions>", "<app-context>", "<collaboration_mode>",
    "<skills_instructions>"]

/-- `should_include_message`. -/
def shouldIncludeMessage (role : Option String) (text : String) (images : List Image) : Bool :=
  if role ∉ [some "user", some "assistant"] then false
  else if Text.strip text = "" then images ≠ []
  else ¬ hiddenPrefixes.any fun hidden => hidden.toList.isPrefixOf (Text.strip text).toList

/-- What a rollout entry says, before it is decided whether it shows. -/
structure Spoken where
  role : Option String
  phase : Option String
  text : String
  images : List Image

def spokenBy (entry : Json) : Spoken :=
  let entryType := compact python (entry.get "type") ""
  let payload := if (entry.get "payload").isObj then entry.get "payload" else .obj []
  let payloadType := compact python (payload.get "type") ""
  let said := preserveMessageText python (orElse (payload.get "message") (payload.get "text"))
  if entryType = "response_item" ∧ payloadType = "message" then
    let parts := extractMessageParts python (payload.get "content")
    ⟨some (compact python (payload.get "role") ""), compactOrNone python (payload.get "phase"),
      parts.1, parts.2⟩
  else if entryType = "event_msg" ∧ payloadType = "user_message" then ⟨some "user", none, said, []⟩
  else if entryType = "event_msg" ∧ payloadType = "agent_message" then
    ⟨some "assistant", compactOrNone python (payload.get "phase"), said, []⟩
  else ⟨none, none, "", []⟩

/-- `normalize_rollout_message`.  What is no object has no `get`. -/
def normalizeRolloutMessage (entry : Json) (lineNumber : Nat) : Except String (Option Message) :=
  if ¬ entry.isObj then .error ("'" ++ typeName entry ++ "' object has no attribute 'get'")
  else
    let spoken := spokenBy python entry
    if shouldIncludeMessage spoken.role spoken.text spoken.images then
      .ok (spoken.role.map fun role =>
        { lineNumber := lineNumber
          timestamp := entry.get "timestamp"
          role := role
          phase := spoken.phase
          text := spoken.text
          images := spoken.images })
    else .ok none

/-- The message of a line.  Blank lines and lines that are no JSON have none. -/
def lineMessage (line : List Char) (lineNumber : Nat) : Except String (Option Message) :=
  let stripped := Text.strip (String.ofList line)
  if stripped = "" then .ok none
  else match python.loads stripped with
    | none => .ok none
    | some entry => normalizeRolloutMessage python entry lineNumber

/-! ## Pending prompts -/

structure PendingEntry where
  timestamp : String
  commandId : String
  text : String
deriving DecidableEq, Repr

/-- A timestamp and a text. -/
abbrev Key := String × String

def PendingEntry.key (entry : PendingEntry) : Key := (entry.timestamp, entry.text)

def lineKey (line : List Char) : Except String (Option Key) :=
  (lineMessage python line 0).map fun message => message.bind fun message =>
    if RemoteCodex.compactText message.role "" = "user" then
      some (compact python message.timestamp "", RemoteCodex.compactText message.text "")
    else none

/-- `REMOTE_CODEX_PENDING_PROMPT_TTL_SECONDS`. -/
def pendingPromptTtl : Time := seconds (6 * 60 * 60)

/-- `datetime.fromisoformat(entry["timestamp"].replace("Z", "+00:00"))`. -/
def createdAt (entry : PendingEntry) : Stamp :=
  python.fromisoformat <| String.ofList <| entry.timestamp.toList.flatMap fun c =>
    if c = 'Z' then ['+', '0', '0', ':', '0', '0'] else [c]

def expired (now : Time) (entry : PendingEntry) : Bool :=
  match createdAt python entry with
  | .aware instant => pendingPromptTtl ≤ max 0 (now - instant)
  | _ => false

end

def pendingIndices (keys : List (Option Key)) (key : Key) : List Nat :=
  (keys.zipIdx.filter fun line => line.1 = some key).map (·.2)

/-- A message of the user that no entry is pending for has the text of the entry, and a time of its
own. -/
def resolved (entries : List PendingEntry) (keys : List (Option Key)) (entry : PendingEntry) :
    Bool :=
  (keys.filterMap id).any fun key =>
    key ∉ entries.map PendingEntry.key ∧ entry.text = key.2 ∧ key.1 ≠ "" ∧
      key.1 ≠ entry.timestamp

/-- What `_reconcile_pending_rollout_entries` leaves: the entries, which are saved if they changed,
and the lines. -/
structure Reconciled where
  entries : List PendingEntry
  registryChanged : Bool
  lines : List (List Char)
  changed : Bool
deriving DecidableEq, Repr

section
variable (python : Python)

def withdrawn (entries : List PendingEntry) (now : Time) (keys : List (Option Key)) :
    List PendingEntry :=
  entries.filter fun entry => resolved entries keys entry || expired python now entry

/-- `_reconcile_pending_rollout_entries`.  An entry without a time zone cannot be compared with the
clock. -/
def reconcilePendingRolloutEntries (entries : List PendingEntry) (now : Time)
    (lines : List (List Char)) : Except String Reconciled := do
  if entries = [] then
    return { entries, registryChanged := false, lines, changed := false }
  let keys ← lines.mapM (lineKey python)
  if ∃ entry ∈ entries, createdAt python entry = .naive then
    throw "can't subtract offset-naive and offset-aware datetimes"
  let leaving := withdrawn python entries now keys
  let dropIndices := leaving.flatMap fun entry => pendingIndices keys entry.key
  let nextEntries := entries.filter fun entry =>
    entry ∉ leaving ∧ pendingIndices keys entry.key ≠ []
  return {
    entries := nextEntries
    registryChanged := nextEntries.length < entries.length
    lines := (lines.zipIdx.filter fun line => line.2 ∉ dropIndices).map (·.1)
    changed := dropIndices ≠ [] }

/-! ## The file -/

/-- `rollout_path.read_text(encoding="utf-8", errors="replace").splitlines()`. -/
def readLines (content : Bytes) : List (List Char) :=
  splitLines (universalNewlines (decode content))

/-- `os.linesep`. -/
def linesep (windows : Bool) : List Char := if windows then ['\r', '\n'] else ['\n']

/-- `rollout_path.write_text("\n".join(lines) + ("\n" if lines else ""), encoding="utf-8")`. -/
def writeLines (windows : Bool) (lines : List (List Char)) : Bytes :=
  let text := ['\n'].intercalate lines ++ if lines = [] then [] else ['\n']
  encode (text.flatMap fun c => if c = '\n' then linesep windows else [c])

/-- What `read_thread_messages` writes back, if it writes. -/
def rewriteRollout (windows : Bool) (entries : List PendingEntry) (now : Time) (content : Bytes) :
    Except String (Option Bytes) :=
  (reconcilePendingRolloutEntries python entries now (readLines content)).map fun reconciled =>
    if reconciled.changed then some (writeLines windows reconciled.lines) else none

end

/-! ## Appending a prompt -/

structure Attachment where
  dataUrl : String
  title : String
deriving DecidableEq, Repr

/-- The two entries that `materialize_pending_browser_prompt` appends for a prompt. -/
def promptEntries (timestamp prompt : String) (attachments : List Attachment) : List Json :=
  let images := attachments.map fun attachment => Json.obj [
    ("type", .str "input_image"),
    ("image_url", .str attachment.dataUrl),
    ("detail", .str "high")]
  let shown := attachments.map fun attachment => Json.obj [
    ("src", .str attachment.dataUrl),
    ("alt", .str attachment.title),
    ("title", .str attachment.title)]
  let text := Json.obj [("type", .str "input_text"), ("text", .str prompt)]
  let response := Json.obj [
    ("type", .str "message"),
    ("role", .str "user"),
    ("content", .arr (text :: images))]
  let event := Json.obj [
    ("type", .str "user_message"),
    ("message", .str prompt),
    ("images", .arr shown),
    ("local_images", .arr []),
    ("text_elements", .arr [])]
  [.obj [("type", .str "response_item"), ("timestamp", .str timestamp), ("payload", response)],
    .obj [("type", .str "event_msg"), ("timestamp", .str timestamp), ("payload", event)]]

/-- What is appended: the entries a line each, in a file that is opened with `newline="\n"`. -/
def appendedBytes (floats : FloatText) (entries : List Json) : Bytes :=
  entries.flatMap fun entry => encode (dumps false floats entry ++ ['\n'])

end OpsCure.Rollout
