/-
The inbox stream of the bridge (`api/v2_inbox.py`) and the three readers of it: the SDK's
`_SseInboxIterator` (`agent_sdk/client.py`), the Python agent loop (`agent_loop.py`) and the
TypeScript `streamSSE` (`ts-agent-loop/src/http.ts`).  `loads` stands for `json.loads`, with `none`
where it raises.
-/
import OpsCure.Library.JsonText
import OpsCure.Library.Lines

namespace OpsCure.Sse

open JsonText Lines

/-! ## The stream -/

/-- `event:` -/
def eventKey : List Char := ['e', 'v', 'e', 'n', 't', ':']

/-- `data:` -/
def dataKey : List Char := ['d', 'a', 't', 'a', ':']

def openName : List Char := ['o', 'p', 'e', 'n']

def heartbeatName : List Char := ['h', 'e', 'a', 'r', 't', 'b', 'e', 'a', 't']

/-- `v2.event` -/
def eventName : List Char := ['v', '2', '.', 'e', 'v', 'e', 'n', 't']

structure Envelope where
  eventId : String
  kind : String
  actorName : String
  content : String
  createdAt : Option String
  cursor : String

section Stream

variable (floats : FloatText) (loads : List Char → Option Json)

/-- `_try_json`. -/
def tryJson (value : String) : Json := (loads value.toList).getD (.str value)

/-- The payload of a `v2.event`. -/
def eventPayload (envelope : Envelope) : Json :=
  let decoded := tryJson loads envelope.content
  let wrapped := if decoded.isObj then decoded else .obj [("payload", decoded)]
  .obj [("operation_id", wrapped.get "operation_id"),
    ("event_id", .str envelope.eventId),
    ("seq", wrapped.get "seq"),
    ("kind", .str envelope.kind),
    ("actor_id", .str envelope.actorName),
    ("payload", wrapped.get "payload"),
    ("addressed_to_actor_ids", (wrapped.get? "addressed_to_actor_ids").getD (.arr [])),
    ("private_to_actor_ids", wrapped.get "private_to_actor_ids"),
    ("replies_to_event_id", wrapped.get "replies_to_event_id"),
    ("expected_response", wrapped.get "expected_response"),
    ("created_at", (envelope.createdAt.map Json.str).getD .null),
    ("cursor", .str envelope.cursor)]

def eventText (envelope : Envelope) : List Char :=
  dumps false floats (eventPayload loads envelope)

/-- The data of the frame that opens a stream. -/
def openText (actorId : String) : List Char :=
  dumps true floats (.obj [("space_id", .str ("v2:inbox:" ++ actorId)), ("actor_id", .str actorId)])

def frame (event data : List Char) : List Char :=
  eventKey ++ ' ' :: event ++ '\n' :: (dataKey ++ ' ' :: data ++ ['\n', '\n'])

/-- What the generator yields over a stream, `none` being a wait that ran out. -/
def gen (actorId : String) (signals : List (Option Envelope)) : List Char :=
  frame openName (openText floats actorId) ++
    signals.flatMap fun
      | none => frame heartbeatName ['{', '}']
      | some envelope => frame eventName (eventText floats loads envelope)

end Stream

/-! ## The readers -/

/-- The fields of a frame that have been read so far; no event yet is an empty one. -/
structure Pending where
  event : List Char
  data : List (List Char)
deriving DecidableEq, Repr

def Pending.empty : Pending := ⟨[], []⟩

/-- What the three readers do alike: an empty line ends a frame, comments and other fields are
passed over.  They differ in how they trim a field and in what they make of a frame.  (The SDK has
no test for comments of its own: they are neither of its two fields.) -/
def readField {β : Type} (trimEvent trimData : List Char → List Char)
    (dispatch : List Char → List (List Char) → List β) (s : Pending) (line : List Char) :
    Pending × List β :=
  if line = [] then (.empty, if s.data = [] then [] else dispatch s.event s.data)
  else if line.head? = some ':' then (s, [])
  else if eventKey.isPrefixOf line then ({ s with event := trimEvent line }, [])
  else if dataKey.isPrefixOf line then ({ s with data := s.data ++ [trimData line] }, [])
  else (s, [])

/-- `text.lstrip()`. -/
def lstrip (text : List Char) : List Char := text.dropWhile Text.isSpace

/-- `text.strip()`. -/
def strip (text : List Char) : List Char :=
  ((lstrip text).reverse.dropWhile Text.isSpace).reverse

section Sdk

variable (loads : List Char → Option Json)

/-- `line.split(":", 1)[1]`. -/
def afterColon (line : List Char) : List Char := (line.dropWhile (· ≠ ':')).drop 1

/-- The SDK decodes the data of a `v2.event`, its lines put together with nothing in between. -/
def sdkDispatch (event : List Char) (data : List (List Char)) : List Json :=
  if event = eventName then (loads data.flatten).toList else []

def sdkReader : Reader Pending Json where
  start := .empty
  read := readField (fun line => strip (afterColon line)) (fun line => lstrip (afterColon line))
    (sdkDispatch loads)

/-- `_SseInboxIterator`: `iter_lines` splits like `str.splitlines`. -/
def sdkInbox (stream : List Char) : List Json :=
  (sdkReader loads).handsOut (splitLines stream)

end Sdk

section AgentLoop

variable (loads : List Char → Option Json)

/-- `line.rstrip("\r\n")`. -/
def rstripEnds (line : List Char) : List Char :=
  (line.reverse.dropWhile fun c => c = '\r' ∨ c = '\n').reverse

/-- `_dispatch_sse_frame`, with the payload it enqueues. -/
def dispatchSseFrame (event data : List Char) : List Json :=
  match loads data with
  | none => []
  | some payload =>
      if event = openName then []
      else if event = eventName then [payload]
      else []

def loopDispatch (event : List Char) (data : List (List Char)) : List Json :=
  if event = [] then [] else dispatchSseFrame loads event (['\n'].intercalate data)

def loopReader : Reader Pending Json where
  start := .empty
  read s raw := readField (fun line => strip (line.drop 6)) (fun line => lstrip (line.drop 5))
    (loopDispatch loads) s (rstripEnds raw)

/-- `_consume_one_sse_session`: the response is read a line at a time, lines ending in LF. -/
def agentLoop (stream : List Char) : List Json :=
  (loopReader loads).handsOut (readLines stream)

end AgentLoop

section StreamSse

/-- What `String.prototype.trim` removes. -/
def isJsSpace (c : Char) : Bool :=
  let n := c.toNat
  (9 ≤ n && n ≤ 13) || n == 0x20 || n == 0xA0 || n == 0x1680 || (0x2000 ≤ n && n ≤ 0x200A) ||
    n == 0x2028 || n == 0x2029 || n == 0x202F || n == 0x205F || n == 0x3000 || n == 0xFEFF

/-- `text.trim()`. -/
def jsTrim (text : List Char) : List Char :=
  ((text.dropWhile isJsSpace).reverse.dropWhile isJsSpace).reverse

/-- `text.replace(/^ /, "")`. -/
def dropSpace : List Char → List Char
  | ' ' :: rest => rest
  | text => text

/-- `if (line.endsWith("\r")) line = line.slice(0, -1)`. -/
def dropCr (line : List Char) : List Char :=
  if line.getLast? = some '\r' then line.dropLast else line

/-- A record `streamSSE` yields. -/
structure Record where
  event : List Char
  data : List Char
deriving DecidableEq, Repr

def tsDispatch (event : List Char) (data : List (List Char)) : List Record :=
  if event = [] then [] else [⟨event, ['\n'].intercalate data⟩]

def tsReader : Reader Pending Record where
  start := .empty
  read s line := readField (fun line => jsTrim (line.drop 6)) (fun line => dropSpace (line.drop 5))
    tsDispatch s (dropCr line)

/-- The loop over the chunks of the body, as the decoder hands them on: the complete lines of the
buffer are read, the rest waits for the next chunk. -/
def readChunks (buffer : List Char) (s : Pending) : List (List Char) → List Record
  | [] => []
  | chunk :: chunks =>
      let cut := cutLines [] (buffer ++ chunk)
      let fed := tsReader.feed s cut.1
      fed.2 ++ readChunks cut.2 fed.1 chunks

/-- `streamSSE`. -/
def streamSSE (chunks : List (List Char)) : List Record := readChunks [] .empty chunks

end StreamSse

end OpsCure.Sse
