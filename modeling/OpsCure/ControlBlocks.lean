/-
The control blocks of an output (`session_service.py`, `_extract_control_updates`): the handoffs
and then the discussions of an output are taken out of its text, each as a request or as a
rejection, and what is left is posted.  Each removal is skipped on a text that is too long, and
the second one reads the text the first one left.
-/
import OpsCure.Library.Blocks
import OpsCure.SessionService
import OpsCure.ThreadDelta

namespace OpsCure.ControlBlocks

open Blocks SessionService ThreadDelta

/-! ## The patterns -/

def foldCase (c : Char) : Char :=
  if c.toNat = 0x130 ∨ c.toNat = 0x131 then 'i'
  else if c.toNat = 0x17F then 's'
  else if c.toNat = 0x212A then 'k'
  else c.toLower

def dropFolded (word : String) (text : List Char) : Option (List Char) :=
  if (text.take word.length).map foldCase = word.toList then some (text.drop word.length)
  else none

/-- `['\"]`. -/
def isQuote (c : Char) : Bool := c.toNat = 34 || c.toNat = 39

/-- The name in the opening of `HANDOFF_RE`, between the quotes or without any. -/
def handoffAgent (piece : List Char) : Option (List Char) := do
  let spaced ← dropFolded "[[handoff" piece
  let value ← dropFolded "agent=" (spaced.dropWhile Text.isSpace)
  let quote := (value.take 1).filter isQuote
  let named := value.drop quote.length
  let rest := named.dropWhile isTypeChar
  if spaced.head?.any Text.isSpace ∧ named.takeWhile isTypeChar ≠ [] ∧ quote <+: rest ∧
      (rest.drop quote.length).dropWhile Text.isSpace = [']', ']'] then
    some (named.takeWhile isTypeChar)
  else none

/-- The attributes in the opening of `DISCUSS_RE`. -/
def discussAttrs (piece : List Char) : Option (List Char) := do
  let rest ← dropFolded "[[discuss" piece
  if rest.dropWhile (· ≠ ']') = [']', ']'] then some (rest.takeWhile (· ≠ ']')) else none

/-- `HANDOFF_RE`.  What it reads between its marks is the body, with the space around it. -/
def handoffRe : Marks Char where
  isOpening piece := (handoffAgent piece).isSome
  isClosing piece := piece.map foldCase = "[[/handoff]]".toList
  opening_nonempty := by decide +kernel
  closing_nonempty := by decide +kernel

/-- `DISCUSS_RE`. -/
def discussRe : Marks Char where
  isOpening piece := (discussAttrs piece).isSome
  isClosing piece := piece.map foldCase = "[[/discuss]]".toList
  opening_nonempty := by decide
  closing_nonempty := by decide

/-- A character of an output and where it stands in it. -/
abbrev Place := Char × Nat

def places (text : String) : List Place := text.toList.zipIdx

def spoken (text : List Place) : String := String.ofList (text.map Prod.fst)

def handoffMarks : Marks Place := handoffRe.along Prod.fst

def discussMarks : Marks Place := discussRe.along Prod.fst

/-- The matches `bounded_sub` replaces. -/
def boundedBlocks (marks : Marks Place) (text : List Place) : List (Block Place) :=
  if maxRegexInputLen < text.length then [] else blocks marks text

/-- `bounded_sub`, with replacements that are all empty. -/
def boundedSub (marks : Marks Place) (text : List Place) : List Place :=
  if maxRegexInputLen < text.length then text else without marks text

/-! ## The callbacks -/

/-- `_extract_task_id`. -/
def extractTaskId (table : CharTable) (text : String) : Option String :=
  if maxRegexInputLen < text.length then none
  else (searchTaskCardId table false text.toList).map fun found => upper (String.ofList found)

/-- The groups of a match of `HANDOFF_RE`. -/
def toHandoffBlock (table : CharTable) (block : Block Place) : HandoffBlock where
  agent := String.ofList ((handoffAgent (block.opening.map Prod.fst)).getD [])
  body := Text.strip (spoken block.inside)
  taskCardId := extractTaskId table (Text.strip (spoken block.inside))

def isAttrChar (c : Char) : Bool := c.isAlphanum || c = '_' || c = '-'

def attrAt (text : List Char) : Option ((List Char × List Char) × Nat) :=
  let name := text.takeWhile isAttrChar
  match (text.dropWhile isAttrChar).dropWhile Text.isSpace with
  | '=' :: rest =>
      match rest.dropWhile Text.isSpace with
      | quote :: quoted =>
          -- the point of the pattern stands for all but a line feed
          let value := quoted.takeWhile fun c => c ≠ quote ∧ c ≠ '\n'
          let after := quoted.drop value.length
          if name.head?.any (fun c => c.isAlpha || c = '_') ∧ isQuote quote ∧
              after.head? = some quote then
            some ((name, value), text.length - (after.length - 1))
          else none
      | [] => none
  | _ => none

/-- The matches of a text whose first characters belong to a match already. -/
def attrsFrom : Nat → List Char → List (String × String)
  | _, [] => []
  | skip + 1, _ :: rest => attrsFrom skip rest
  | 0, c :: rest =>
      match attrAt (c :: rest) with
      | some ((name, value), length) =>
          (Text.lower (String.ofList name), Text.strip (String.ofList value)) ::
            attrsFrom (length - 1) rest
      | none => attrsFrom 0 rest

/-- `_parse_discuss_attrs`, as the assignments to the dict in their order. -/
def parseDiscussAttrs (attrsText : List Char) : List (String × String) := attrsFrom 0 attrsText

/-- The groups of a match of `DISCUSS_RE`. -/
def toDiscussBlock (block : Block Place) : DiscussBlock where
  attrs := parseDiscussAttrs ((discussAttrs (block.opening.map Prod.fst)).getD [])
  body := Text.strip (spoken block.inside)

structure DiscussRequest where
  discussType : String
  body : String
  anomalyId : Option String
  taskId : Option String
  askAgents : Option (List String)
  toAgent : Option String
deriving DecidableEq, Repr

/-- `replace_discuss`, below the limit. -/
def replaceDiscuss (table : CharTable) (agents : List AgentRow) (sourceAgent : String)
    (block : DiscussBlock) : Except String DiscussRequest :=
  let body := Text.strip block.body
  let discussType := Text.lower (Text.strip (Text.orElse (block.attr "type") "open"))
  let shownType := Text.orElse (some discussType) "none"
  let anomaly := Text.strip (Text.orElse (block.attr "anomaly") (Text.orElse (block.attr "id") ""))
  let askRaw := Text.strip (Text.orElse (block.attr "ask") (Text.orElse (block.attr "with") ""))
  let askNames :=
    (((askRaw.toList.splitOn ',').map String.ofList).map Text.strip).filter (· ≠ "")
  let resolvedAsk := askNames.filterMap (availableAgent agents)
  let invalidAsk := askNames.filter fun name => availableAgent agents name = none
  let toName := Text.strip (Text.orElse (block.attr "to") "")
  let targetAgent := if toName = "" then none else availableAgent agents toName
  let request := fun (asked : List String) =>
    { discussType, body
      anomalyId := if anomaly = "" then none else some anomaly
      taskId := extractTaskId table body
      askAgents := if asked = [] then none else some asked
      toAgent := targetAgent : DiscussRequest }
  if discussType ∉ ["open", "reply", "resolve", "escalate"] then
    .error s!"unsupported discuss type `{shownType}`"
  else if body = "" then .error s!"empty discuss block for `{discussType}`"
  else if invalidAsk ≠ [] then
    .error ("discussion references unknown agent(s): " ++
      ", ".intercalate (invalidAsk.map fun name => s!"`{name}`"))
  else if toName ≠ "" ∧ targetAgent = none then
    .error s!"discussion target unknown agent `{toName}`"
  else if discussType = "open" then
    let others := resolvedAsk.filter (Text.lower · ≠ Text.lower sourceAgent)
    if others = [] then .error "discussion_open requires at least one other agent in `ask=`"
    else .ok (request others)
  else if discussType = "reply" ∧ targetAgent = none then
    .error "discussion_reply requires a valid `to=` target"
  else .ok (request resolvedAsk)

def takeBlock {β ρ : Type} (limit : Nat) (extra : String) (read : β → Except String ρ)
    (found : List ρ × List String) (block : β) : List ρ × List String :=
  if limit ≤ found.1.length then (found.1, found.2 ++ [extra])
  else match read block with
    | .ok request => (found.1 ++ [request], found.2)
    | .error rejection => (found.1, found.2 ++ [rejection])

def extraDiscuss : String := "extra discuss block ignored after reaching the per-completion limit"

def extractDiscussions (table : CharTable) (agents : List AgentRow) (sourceAgent : String)
    (blocks : List DiscussBlock) : List DiscussRequest × List String :=
  blocks.foldl (takeBlock maxDiscussionsPerCompletion extraDiscuss
    (replaceDiscuss table agents sourceAgent)) ([], [])

/-! ## The extraction -/

/-- The output as each step leaves it, and the matches each step replaces. -/
def handoffMatches (outputText : String) : List (Block Place) :=
  boundedBlocks handoffMarks (places outputText)

def afterHandoffs (outputText : String) : List Place :=
  boundedSub handoffMarks (places outputText)

def discussMatches (outputText : String) : List (Block Place) :=
  boundedBlocks discussMarks (afterHandoffs outputText)

def afterDiscussions (outputText : String) : List Place :=
  boundedSub discussMarks (afterHandoffs outputText)

def cutOutput (table : CharTable) (outputText : String) : ControlOutput where
  handoffBlocks := (handoffMatches outputText).map (toHandoffBlock table)
  discussBlocks := (discussMatches outputText).map toDiscussBlock
  visibleOutput := Text.strip (spoken (afterDiscussions outputText))
  questionPresent := mentions (Text.lower outputText) "[[question]]"

/-! ## What becomes of the blocks -/

def rejectionOf {ρ : Type} : Except String ρ → Option String
  | .ok _ => none
  | .error rejection => some rejection

/-- Each of the blocks that start at some places is met, and gives the request or the rejection
that is read from it, or the rejection of one too many. -/
structure Accounted {ρ : Type} (starts : List (Option Place)) (limit : Nat) (extra : String)
    (read : Block Place → Except String ρ) (met : List (Block Place))
    (found : List ρ × List String) : Prop where
  met_once : met.map Block.start = starts
  settled : ∃ outcomes : List (Except String ρ),
    List.Forall₂ (fun block outcome => outcome = read block ∨ outcome = .error extra)
      met outcomes ∧
    found.1 = outcomes.filterMap Except.toOption ∧ found.2 = outcomes.filterMap rejectionOf
  limited : found.1.length ≤ limit

structure Plain (outputText : String) : Prop where
  no_handoff : ¬ ∃ block, Spells handoffRe outputText.toList block
  no_discuss : ¬ ∃ block, Spells discussRe outputText.toList block

/-- An output whose discuss blocks start where they do without its handoffs, and what stands
around its blocks joins to no block of a mark that the output does not spell. -/
structure Untangled (text : List Place) : Prop where
  same_starts : (blocks discussMarks (without handoffMarks text)).map Block.start =
    (blocks discussMarks text).map Block.start
  no_handoff_joined : ¬ ∃ block,
    Joined handoffMarks text (without discussMarks (without handoffMarks text)) block
  no_discuss_joined : ¬ ∃ block,
    Joined discussMarks text (without discussMarks (without handoffMarks text)) block

/-- What an output has to be like for nothing of it to be lost. -/
def Readable (outputText : String) : Prop :=
  if maxRegexInputLen < outputText.length then Plain outputText
  else Untangled (places outputText)

/-! ### The callbacks -/

section
variable {β ρ : Type} {limit : Nat} {extra : String} {read : β → Except String ρ}

end

variable {c : Char} {rest front : List Char}

section
variable {outputText : String}

end

/-! ### The whole output -/

end OpsCure.ControlBlocks
