/-
What the device agent reads of a thread (`remote_executor/device_agent.py`): its record, its version,
and its messages, which come from the rollout, or from the last turns of the app server where there is
no rollout.
-/
import Mathlib.Logic.Function.Basic
import OpsCure.Rollout

namespace OpsCure.Rollout

open Utf8 JsonText
open RemoteCodex (compactText)

/-! ## Threads on the machine -/

/-- What stands at a path. -/
inductive Node where
  | file (content : Bytes) (mtimeNs : Int)
  | directory (size : Nat) (mtimeNs : Int)
deriving DecidableEq, Repr

/-- A thread, as the app server or the database of Codex tells of it. -/
structure ThreadRecord where
  title : String
  rolloutPath : String
  updatedAtMs : Int
  cliVersion : Option String
  status : Json

/-- What the agent finds on its machine: the threads of the database and which of them are archived,
those of the app server and their turns, the files, and the registry of pending prompts. -/
structure Machine where
  archived : String → Bool
  stored : String → Option ThreadRecord
  runtime : String → Option ThreadRecord
  turns : String → Option Json
  files : String → Option Node
  pending : String → List PendingEntry

/-- What an agent is set up with.  `desktopThreadId` is the thread that is open in the desktop
application, where prompts can be submitted to it. -/
structure Setup where
  python : Python
  floats : FloatText
  windows : Bool
  expanduser : String → String
  machineId : String
  appServer : Bool
  desktopThreadId : Option String
  messageLimit : Int
  pendingCommandSyncLimit : Int

/-- A reading of the clock, as an instant and a text, and the time that a file written then gets. -/
structure Moment where
  now : Time
  timestamp : String
  nowMs : Int
  mtimeNs : Int

/-- `normalize_windows_path`. -/
def normalizeWindowsPath (value : String) : String :=
  let text := (Text.strip value).toList
  if ['\\', '\\', '?', '\\'].isPrefixOf text then String.ofList (text.drop 4) else String.ofList text

/-- `Path(normalize_windows_path(thread.get("rolloutPath"))).expanduser()`. -/
def rolloutPathOf (setup : Setup) (record : ThreadRecord) : String :=
  setup.expanduser (normalizeWindowsPath record.rolloutPath)

/-- `merge_thread_snapshots`. -/
def mergeThreadSnapshots (primary fallback : Option ThreadRecord) : Option ThreadRecord :=
  match primary, fallback with
  | none, fallback => fallback
  | primary, none => primary
  | some primary, some fallback =>
      let kept (own other : String) := if compactText own "" = "" then other else own
      some {
        title := kept primary.title fallback.title
        rolloutPath := kept primary.rolloutPath fallback.rolloutPath
        updatedAtMs := if primary.updatedAtMs = 0 then fallback.updatedAtMs else primary.updatedAtMs
        cliVersion := if compactText (primary.cliVersion.getD "") "" = "" then fallback.cliVersion
          else primary.cliVersion
        status := match primary.status with
          | .null => fallback.status
          | status => status }

/-- `get_thread_by_id`. -/
def getThreadById (machine : Machine) (threadId : String) : Option ThreadRecord :=
  if machine.archived threadId then none
  else mergeThreadSnapshots (machine.runtime threadId) (machine.stored threadId)

/-- The time and the size of what stands at a path, as a version shows them. -/
def statText : Option Node → String
  | none => ""
  | some (.file content mtimeNs) => toString mtimeNs ++ ":" ++ toString content.length
  | some (.directory size mtimeNs) => toString mtimeNs ++ ":" ++ toString size

/-- `build_thread_version`. -/
def buildThreadVersion (setup : Setup) (files : String → Option Node) (record : ThreadRecord) :
    String :=
  let statusText := match record.status with
    | .obj fields => compact setup.python (Json.get "type" (.obj fields)) ""
    | status => compact setup.python status ""
  ":".intercalate [
    toString record.updatedAtMs,
    statusText,
    compactText record.rolloutPath "",
    statText (files (rolloutPathOf setup record)),
    compactText (record.cliVersion.getD "") "",
    compactText record.title ""]

/-! ## Messages in a row -/

/-- The images of a message, with those of a later one that it lacks. -/
def mergeImages (previous current : List Image) : List Image :=
  current.foldl (fun images image =>
    let source := compactText image.src ""
    if source = "" ∨ source ∈ images.map fun known => compactText known.src "" then images
    else images ++ [image]) previous

/-- `merge_adjacent_message`: the earlier message with what the later one adds to it, where the two
say the same. -/
def mergeAdjacentMessage (previous current : Message) : Option Message :=
  if previous.role ≠ current.role then none
  else if previous.phase ≠ current.phase then none
  else if compactText previous.text "" ≠ compactText current.text "" then none
  else if 2 < (Int.natAbs ((previous.lineNumber : Int) - current.lineNumber)) then none
  else some { previous with
    images := mergeImages previous.images current.images
    lineNumber := max previous.lineNumber current.lineNumber
    timestamp := orElse current.timestamp previous.timestamp }

def addMessage (messages : List Message) (message : Message) : List Message :=
  match messages.getLast?.bind fun previous => mergeAdjacentMessage previous message with
  | some merged => messages.dropLast ++ [merged]
  | none => messages ++ [message]

def rolloutMessages (python : Python) (lines : List (List Char)) : Except String (List Message) :=
  (lines.zipIdx 1).foldlM (fun messages line => do
    match ← lineMessage python line.1 line.2 with
    | none => return messages
    | some message => return addMessage messages message) []

/-! ## Messages of turns -/

section Turns

variable (python : Python)

/-- `_extract_turn_item_message_content`. -/
def turnItemContent (item : Json) : String × List Image :=
  let parts := extractMessageParts python (item.get "content")
  if parts.1 = "" then (preserveMessageText python (item.get "text"), parts.2) else parts

/-- `normalize_turn_item_message`. -/
def normalizeTurnItemMessage (item : Json) (sequenceNumber : Nat) (phase : Option String) :
    Option Message :=
  let itemType := compact python (item.get "type") ""
  let role := if itemType = "userMessage" then some "user"
    else if itemType = "agentMessage" then some "assistant" else none
  let content := turnItemContent python item
  let normalizedPhase := (compactOrNone python (item.get "phase")).or phase
  if ¬ shouldIncludeMessage role content.1 content.2 then none
  else role.map fun role =>
    { lineNumber := sequenceNumber
      timestamp := item.get "timestamp"
      role := role
      phase := if role = "assistant" then normalizedPhase else none
      text := content.1
      images := content.2 }

def turnItems (turn : Json) : Except String (List Json) :=
  match turn.get "items" with
  | .arr items => .ok (items.filter Json.isObj)
  | .str _ | .obj _ => .ok []
  | value =>
      if value.truthy then .error ("'" ++ typeName value ++ "' object is not iterable") else .ok []

/-- The messages so far, and the number of the next item. -/
def addTurn (state : List Message × Nat) (turn : Json) : Except String (List Message × Nat) := do
  if ¬ turn.isObj then
    return state
  let items ← turnItems turn
  return items.foldl (fun state item =>
    match normalizeTurnItemMessage python item state.2 (compactOrNone python (turn.get "status")) with
    | none => (state.1, state.2 + 1)
    | some message => (addMessage state.1 message, state.2 + 1)) state

/-- `DEFAULT_TURN_MESSAGE_LOOKBACK`. -/
def turnMessageLookback : Nat := 24

/-- `build_recent_turn_messages`. -/
def buildRecentTurnMessages (threadPayload : Option Json) : Except String (List Message) :=
  let turns := match ((threadPayload.getD .null).get "thread").get "turns" with
    | .arr turns => turns
    | _ => []
  let recentTurns := turns.drop (turns.length - turnMessageLookback)
  (recentTurns.foldlM (addTurn python) ([], 1000000)).map (·.1)

end Turns

/-! ## The registry -/

/-- `_normalize_pending_thread_entries`. -/
def normalizePendingThreadEntries (entries : List PendingEntry) : List PendingEntry :=
  (entries.map fun entry =>
    PendingEntry.mk (compactText entry.timestamp "") (compactText entry.commandId "")
      (compactText entry.text "")).filter fun entry =>
    entry.timestamp ≠ "" ∧ entry.commandId ≠ "" ∧ entry.text ≠ ""

/-- `_save_pending_thread_entries`. -/
def Machine.savePending (machine : Machine) (threadId : String) (entries : List PendingEntry) :
    Machine :=
  { machine with
    pending := Function.update machine.pending threadId (normalizePendingThreadEntries entries) }

def Machine.write (machine : Machine) (path : String) (content : Bytes) (mtimeNs : Int) : Machine :=
  { machine with files := Function.update machine.files path (some (.file content mtimeNs)) }

/-! ## Reading -/

/-- `values[-limit:]`, where there is a limit. -/
def lastOf {α : Type} (limit : Int) (values : List α) : List α :=
  if 0 < limit then values.drop (values.length - limit.toNat) else values

def Machine.withdraw (setup : Setup) (machine : Machine) (threadId path : String)
    (reconciled : Reconciled) (mtimeNs : Int) : Machine :=
  let saved := if reconciled.registryChanged then machine.savePending threadId reconciled.entries
    else machine
  if reconciled.changed then saved.write path (writeLines setup.windows reconciled.lines) mtimeNs
  else saved

/-- `read_thread_messages`, its messages. -/
def readThreadMessages (setup : Setup) (machine : Machine) (threadId : String) (moment : Moment) :
    Machine × Except String (Option (List Message)) :=
  match getThreadById machine threadId with
  | none => (machine, .ok none)
  | some record =>
      let path := rolloutPathOf setup record
      match machine.files path with
      | none =>
          (machine, (buildRecentTurnMessages setup.python (machine.turns threadId)).map fun messages =>
            some (lastOf setup.messageLimit messages))
      | some (.directory _ _) => (machine, .error "Is a directory")
      | some (.file content _) =>
          match reconcilePendingRolloutEntries setup.python (machine.pending threadId) moment.now
              (readLines content) with
          | .error raised => (machine, .error raised)
          | .ok reconciled =>
              (machine.withdraw setup threadId path reconciled moment.mtimeNs,
                (rolloutMessages setup.python reconciled.lines).map fun messages =>
                  some (lastOf setup.messageLimit messages))

/-! ## Prompts that wait -/

/-- `can_submit_prompt_via_desktop_ui`. -/
def canSubmitPromptViaDesktopUi (setup : Setup) (threadId : String) : Bool :=
  match setup.desktopThreadId with
  | none => false
  | some desktopThreadId => compactText threadId "" = compactText desktopThreadId ""

/-- `_touch_thread_updated_at`. -/
def Machine.touchThreadUpdatedAt (machine : Machine) (threadId : String) (nowMs : Int) : Machine :=
  { machine with
    stored := Function.update machine.stored threadId <| (machine.stored threadId).map fun record =>
      { record with updatedAtMs := max record.updatedAtMs nowMs } }

/-- `prompt.rstrip("\r\n")`. -/
def rstripEnds (prompt : String) : String :=
  String.ofList (prompt.toList.reverse.dropWhile fun c => c = '\r' ∨ c = '\n').reverse

/-- The prompt of a command goes to the app server, or behind the rollout. -/
def Machine.showPrompt (setup : Setup) (machine : Machine) (path prompt : String) (moment : Moment) :
    Except String Machine :=
  if setup.appServer then .ok machine
  else
    let appended := appendedBytes setup.floats (promptEntries moment.timestamp prompt [])
    match machine.files path with
    | none => .ok (machine.write path appended moment.mtimeNs)
    | some (.file content _) => .ok (machine.write path (content ++ appended) moment.mtimeNs)
    | some (.directory _ _) => .error "Is a directory"

/-- `materialize_pending_browser_prompt`, without attachments, and whether it has done so. -/
def materializePendingBrowserPrompt (setup : Setup) (machine : Machine)
    (threadId commandId prompt : String) (moment : Moment) : Except String (Machine × Bool) :=
  match getThreadById machine threadId with
  | none => .ok (machine, false)
  | some record =>
      let entries := machine.pending threadId
      if entries.any fun entry => compactText entry.commandId "" = compactText commandId "" then
        .ok (machine, false)
      else
        (machine.showPrompt setup (rolloutPathOf setup record) (rstripEnds prompt) moment).map
          fun shown =>
            let entry := PendingEntry.mk moment.timestamp (compactText commandId "") (rstripEnds prompt)
            ((shown.savePending threadId (entries ++ [entry])).touchThreadUpdatedAt threadId
              moment.nowMs, true)

end OpsCure.Rollout
