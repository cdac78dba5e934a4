/-
The prefix of a reply (`agent_loop.py`, `_parse_reply_prefix`; `agent.ts`, `parseReplyPrefix`):
the kind of a speech and whom it asks, written in brackets before its body.  The parser of the
TypeScript client mirrors the one of the Python executor.  The two languages differ in the
characters they take for spaces and in how they count a text.
-/
import Mathlib.Data.Bool.AllAny
import OpsCure.Library.Text
import OpsCure.Library.Trimming
import Mathlib.Algebra.GroupWithZero.Nat

namespace OpsCure.ReplyPrefix

open Trimming

/-! ## What the languages give -/

abbrev Chars := List Char

/-- The spaces of `String.prototype.trim` and of `\s` in TypeScript. -/
def jsIsSpace (c : Char) : Bool :=
  let n := c.toNat
  (9 ≤ n && n ≤ 13) || n == 32 || n == 0xA0 || n == 0x1680 || (0x2000 ≤ n && n ≤ 0x200A) ||
    n == 0x2028 || n == 0x2029 || n == 0x202F || n == 0x205F || n == 0x3000 || n == 0xFEFF

/-- `text.length` in TypeScript, in UTF-16 units. -/
def utf16Length (text : Chars) : Nat :=
  (text.map fun c => if c.toNat < 0x10000 then 1 else 2).sum

/-- `text.lower()` and `text.toLowerCase()`, for comparison with ASCII words. -/
def lowered (text : Chars) : Chars := text.map Text.lowerChar

/-- A text around the first place where another one stands in it. -/
def cutAt (sep : Chars) : Chars → Option (Chars × Chars)
  | [] => none
  | c :: rest =>
      if sep <+: c :: rest then some ([], (c :: rest).drop sep.length)
      else (cutAt sep rest).map fun found => (c :: found.1, found.2)

/-- The pieces of a text between spaces. -/
def wordsBy (p : Char → Bool) (text : Chars) : List Chars := (text.splitOnP p).filter (· ≠ [])

/-- A text without the commas and semicolons it ends with. -/
def dropTrailingMarks (text : Chars) : Chars :=
  (text.reverse.dropWhile fun c => c = ',' || c = ';').reverse

def replaceChar (old new : Char) (text : Chars) : Chars :=
  text.map fun c => if c = old then new else c

/-! ## The parsers -/

/-- `expected_response`; `kinds` is `none` where the field is not set. -/
structure ExpectedResponse where
  fromActorHandles : List Chars
  kinds : Option (List Chars)
deriving DecidableEq, Repr

/-- `_ALLOWED_SPEECH_KINDS`, and `ALLOWED_SPEECH_KINDS` of the mirror. -/
def allowedSpeechKinds : List Chars :=
  ["claim", "question", "answer", "propose", "agree", "object", "evidence", "block", "defer",
    "summarize", "react", "move_close", "ratify", "invite", "join"].map String.toList

/-- The marks that end the kind, in the order they are tried. -/
def separators : List Chars := ["→".toList, "->".toList, "@".toList]

/-- A header around the first mark of the first kind that it has, which stays with the tail where
it is the sign of a handle. -/
def splitKind (inside : Chars) : Option (Chars × Chars) :=
  separators.findSome? fun sep => (cutAt sep inside).map fun found =>
    (found.1, if sep = "@".toList then sep ++ found.2 else found.2)

namespace Python

/-- `text.strip()`. -/
def strip (text : Chars) : Chars := trimBy Text.isSpace text

/-- The handles of a tail, each once. -/
def addHandle (handles : List Chars) (token : Chars) : List Chars :=
  let t := dropTrailingMarks (strip token)
  if t.head? = some '@' ∧ 1 < t.length ∧ t ∉ handles then handles ++ [t] else handles

def readHandles (tail : Chars) : List Chars :=
  (wordsBy Text.isSpace (replaceChar ',' ' ' tail)).foldl addHandle []

def readKinds (kindsStr : Chars) : List Chars :=
  (((replaceChar ' ' ',' kindsStr).splitOn ',').map strip).filter (· ≠ [])

/-- `_parse_invite_tail`. -/
def parseInviteTail (tail : Chars) : List Chars × List Chars :=
  match cutAt "kinds=".toList tail with
  | some (head, kindsStr) => (readHandles head, readKinds kindsStr)
  | none => (readHandles tail, [])

def readInside (inside : Chars) : Option (Chars × Option ExpectedResponse) :=
  match splitKind inside with
  | some (kindRaw, tail) =>
      let kind := lowered (strip kindRaw)
      if kind ∉ allowedSpeechKinds then none
      else
        let (handles, allowedKinds) := parseInviteTail tail
        if handles = [] then some (kind, none)
        else some (kind, some ⟨handles, if allowedKinds = [] then none else some allowedKinds⟩)
  | none =>
      let kind := lowered inside
      if kind ∉ allowedSpeechKinds then none else some (kind, none)

structure Parsed where
  kind : Chars
  expectedResponse : Option ExpectedResponse
  body : Chars
deriving DecidableEq, Repr

/-- `cleaned.find("]", 1, 201)`. -/
def findEnd (cleaned : Chars) : Option Nat :=
  (((cleaned.take 201).drop 1).findIdx? (· = ']')).map (· + 1)

/-- `_parse_reply_prefix`. -/
def parseReplyPrefix (text : Chars) : Parsed :=
  let cleaned := strip text
  if cleaned.head? ≠ some '[' then ⟨"claim".toList, none, cleaned⟩
  else match findEnd cleaned with
    | none => ⟨"claim".toList, none, cleaned⟩
    | some end' =>
        match readInside (strip ((cleaned.take end').drop 1)) with
        | none => ⟨"claim".toList, none, cleaned⟩
        | some (kind, expectedResponse) =>
            ⟨kind, expectedResponse, (cleaned.drop (end' + 1)).dropWhile Text.isSpace⟩

end Python

namespace TypeScript

/-- `text.trim()`. -/
def trim (text : Chars) : Chars := trimBy jsIsSpace text

def addHandle (handles : List Chars) (tokRaw : Chars) : List Chars :=
  let t := trim (dropTrailingMarks tokRaw)
  if t.head? = some '@' ∧ 1 < utf16Length t ∧ t ∉ handles then handles ++ [t] else handles

/-- The handles of a tail.  An empty piece, which the split gives at an end, is none. -/
def readHandles (tail : Chars) : List Chars :=
  (wordsBy jsIsSpace (replaceChar ',' ' ' tail)).foldl addHandle []

/-- `text.replace(/\s+/g, ",")`, from a place that may follow a space. -/
def commasForSpaces (afterSpace : Bool) : Chars → Chars
  | [] => []
  | c :: rest =>
      if jsIsSpace c then
        if afterSpace then commasForSpaces true rest else ',' :: commasForSpaces true rest
      else c :: commasForSpaces false rest

def readKinds (kindsStr : Chars) : List Chars :=
  (((commasForSpaces false kindsStr).splitOn ',').map trim).filter (0 < ·.length)

/-- `parseInviteTail`. -/
def parseInviteTail (tail : Chars) : List Chars × List Chars :=
  match cutAt "kinds=".toList tail with
  | some (head, kindsStr) => (readHandles head, readKinds kindsStr)
  | none => (readHandles tail, [])

def readInside (inside : Chars) : Option (Chars × Option ExpectedResponse) :=
  match splitKind inside with
  | some (kindRaw, tail) =>
      let kind := lowered (trim kindRaw)
      if kind ∉ allowedSpeechKinds then none
      else
        let (handles, kinds) := parseInviteTail tail
        if handles.length = 0 then some (kind, none)
        else some (kind, some ⟨handles, if 0 < kinds.length then some kinds else none⟩)
  | none =>
      let kind := lowered inside
      if kind ∉ allowedSpeechKinds then none else some (kind, none)

/-- `ParsedPrefix`. -/
structure ParsedPrefix where
  kind : Option Chars
  expectedResponse : Option ExpectedResponse
  body : Chars
deriving DecidableEq, Repr

/-- `cleaned.indexOf("]", 1)`, in characters. -/
def indexOfEnd (cleaned : Chars) : Option Nat :=
  ((cleaned.drop 1).findIdx? (· = ']')).map (· + 1)

/-- `parseReplyPrefix`.  The bound is on the units before the bracket. -/
def parseReplyPrefix (text : Chars) : ParsedPrefix :=
  let cleaned := trim text
  if cleaned.head? ≠ some '[' then ⟨none, none, cleaned⟩
  else match indexOfEnd cleaned with
    | none => ⟨none, none, cleaned⟩
    | some end' =>
        if 200 < utf16Length (cleaned.take end') then ⟨none, none, cleaned⟩
        else match readInside (trim ((cleaned.take end').drop 1)) with
          | none => ⟨none, none, cleaned⟩
          | some (kind, expectedResponse) =>
              ⟨some kind, expectedResponse, (cleaned.drop (end' + 1)).dropWhile jsIsSpace⟩

end TypeScript

/-! ## Reading alike -/

/-- Two parses that mean the same, no prefix being a claim. -/
structure Same (python : Python.Parsed) (typeScript : TypeScript.ParsedPrefix) : Prop where
  kind : python.kind = typeScript.kind.getD "claim".toList
  expectedResponse : python.expectedResponse = typeScript.expectedResponse
  body : python.body = typeScript.body

/-- What stands before the first mark of a header, or all of it. -/
def kindWord (inside : Chars) : Chars := ((splitKind inside).map Prod.fst).getD inside

def tailOf (inside : Chars) : Chars := ((splitKind inside).map Prod.snd).getD []

/-- The parts of a tail before and behind its first `kinds=`. -/
def handlesPart (tail : Chars) : Chars := ((cutAt "kinds=".toList tail).map Prod.fst).getD tail

def kindsPart (tail : Chars) : Chars := ((cutAt "kinds=".toList tail).map Prod.snd).getD []

def PythonKnows (inside : Chars) : Prop :=
  lowered (Python.strip (kindWord (Python.strip inside))) ∈ allowedSpeechKinds

def TypeScriptKnows (inside : Chars) : Prop :=
  lowered (TypeScript.trim (kindWord (TypeScript.trim inside))) ∈ allowedSpeechKinds

def responseOf (handles kinds : List Chars) : Option ExpectedResponse :=
  if handles = [] then none else some ⟨handles, if kinds = [] then none else some kinds⟩

theorem parseInviteTail_python (tail : Chars) :
    Python.parseInviteTail tail =
      (Python.readHandles (handlesPart tail), Python.readKinds (kindsPart tail)) := by
  unfold Python.parseInviteTail handlesPart kindsPart
  cases cutAt "kinds=".toList tail with
  | none => rfl
  | some => rfl

theorem parseInviteTail_typeScript (tail : Chars) :
    TypeScript.parseInviteTail tail =
      (TypeScript.readHandles (handlesPart tail), TypeScript.readKinds (kindsPart tail)) := by
  unfold TypeScript.parseInviteTail handlesPart kindsPart
  cases cutAt "kinds=".toList tail with
  | none => rfl
  | some => rfl

theorem readInside_of_pythonKnows {inside : Chars} (hknows : PythonKnows inside) :
    Python.readInside (Python.strip inside) =
      some (lowered (Python.strip (kindWord (Python.strip inside))),
        responseOf (Python.readHandles (handlesPart (tailOf (Python.strip inside))))
          (Python.readKinds (kindsPart (tailOf (Python.strip inside))))) := by
  unfold PythonKnows kindWord at hknows
  unfold Python.readInside kindWord tailOf
  cases hsplit : splitKind (Python.strip inside) with
  | some =>
      simp only [hsplit, Option.map_some, Option.getD_some] at hknows
      simp only [Option.map_some, Option.getD_some, parseInviteTail_python, responseOf]
      rw [if_neg (not_not.mpr hknows)]
      split <;> rfl
  | none =>
      have htwice : Python.strip (Python.strip inside) = Python.strip inside :=
        trimBy_trimBy Text.isSpace inside
      simp only [hsplit, Option.map_none, Option.getD_none, htwice] at hknows
      simp only [Option.map_none, Option.getD_none, htwice]
      rw [if_neg (not_not.mpr hknows)]
      rfl

theorem readInside_of_not_pythonKnows {inside : Chars} (hknows : ¬ PythonKnows inside) :
    Python.readInside (Python.strip inside) = none := by
  unfold PythonKnows kindWord at hknows
  unfold Python.readInside
  cases hsplit : splitKind (Python.strip inside) with
  | some =>
      simp only [hsplit, Option.map_some, Option.getD_some] at hknows
      exact if_pos hknows
  | none =>
      have htwice : Python.strip (Python.strip inside) = Python.strip inside :=
        trimBy_trimBy Text.isSpace inside
      simp only [hsplit, Option.map_none, Option.getD_none, htwice] at hknows
      exact if_pos hknows

theorem readInside_of_typeScriptKnows {inside : Chars} (hknows : TypeScriptKnows inside) :
    TypeScript.readInside (TypeScript.trim inside) =
      some (lowered (TypeScript.trim (kindWord (TypeScript.trim inside))),
        responseOf (TypeScript.readHandles (handlesPart (tailOf (TypeScript.trim inside))))
          (TypeScript.readKinds (kindsPart (tailOf (TypeScript.trim inside))))) := by
  unfold TypeScriptKnows kindWord at hknows
  unfold TypeScript.readInside kindWord tailOf
  cases hsplit : splitKind (TypeScript.trim inside) with
  | some =>
      simp only [hsplit, Option.map_some, Option.getD_some] at hknows
      simp only [Option.map_some, Option.getD_some, parseInviteTail_typeScript, responseOf]
      rw [if_neg (not_not.mpr hknows)]
      simp only [List.length_eq_zero_iff, List.length_pos_iff, ne_eq, ite_not]
      split <;> rfl
  | none =>
      have htwice : TypeScript.trim (TypeScript.trim inside) = TypeScript.trim inside :=
        trimBy_trimBy jsIsSpace inside
      simp only [hsplit, Option.map_none, Option.getD_none, htwice] at hknows
      simp only [Option.map_none, Option.getD_none, htwice]
      rw [if_neg (not_not.mpr hknows)]
      rfl

theorem readInside_of_not_typeScriptKnows {inside : Chars} (hknows : ¬ TypeScriptKnows inside) :
    TypeScript.readInside (TypeScript.trim inside) = none := by
  unfold TypeScriptKnows kindWord at hknows
  unfold TypeScript.readInside
  cases hsplit : splitKind (TypeScript.trim inside) with
  | some =>
      simp only [hsplit, Option.map_some, Option.getD_some] at hknows
      exact if_pos hknows
  | none =>
      have htwice : TypeScript.trim (TypeScript.trim inside) = TypeScript.trim inside :=
        trimBy_trimBy jsIsSpace inside
      simp only [hsplit, Option.map_none, Option.getD_none, htwice] at hknows
      exact if_pos hknows

/-! ### Finding the bracket -/

/-- A trimmed text that opens with a header, as the first closing bracket ends it. -/
structure Header (cleaned inside rest : Chars) : Prop where
  text : cleaned = '[' :: inside ++ ']' :: rest
  first : ']' ∉ inside

theorem exists_header {cleaned : Chars} (hopens : cleaned.head? = some '[')
    (hcloses : ']' ∈ cleaned.drop 1) : ∃ inside rest, Header cleaned inside rest := by
  cases cleaned with
  | nil => cases hopens
  | cons c tail =>
      obtain rfl : c = '[' := Option.some.inj hopens
      obtain ⟨inside, rest, htail, hfirst⟩ := List.eq_append_cons_of_mem hcloses
      refine ⟨inside, rest, ?_, hfirst⟩
      have hdrop : tail = inside ++ ']' :: rest := htail
      rw [hdrop]
      rfl

theorem findIdx_bracket {inside : Chars} (hfirst : ']' ∉ inside) (rest : Chars) :
    (inside ++ ']' :: rest).findIdx? (· = ']') = some inside.length := by
  induction inside with
  | nil => rfl
  | cons c inside ih =>
      have hne : c ≠ ']' := fun heq => hfirst (heq ▸ List.mem_cons_self)
      have hrest : ']' ∉ inside := fun hmem => hfirst (List.mem_cons_of_mem c hmem)
      simp [List.findIdx?_cons, hne, ih hrest]

theorem findIdx_none {text : Chars} (hnone : ']' ∉ text) :
    text.findIdx? (· = ']') = none := by
  refine List.findIdx?_eq_none_iff.mpr fun c hc => ?_
  have hne : c ≠ ']' := fun heq => hnone (heq ▸ hc)
  simp [hne]

section
variable {cleaned inside rest : Chars}

theorem Header.take_drop (hheader : Header cleaned inside rest) :
    (cleaned.take (inside.length + 1)).drop 1 = inside ∧
      cleaned.drop (inside.length + 1 + 1) = rest := by
  rw [hheader.text]
  constructor
  · simp
  · have hcount : inside.length + 1 + 1 = ('[' :: inside ++ [']']).length := by simp
    have hsplit : '[' :: inside ++ ']' :: rest = ('[' :: inside ++ [']']) ++ rest := by simp
    rw [hcount, hsplit, List.drop_left]

theorem Header.indexOfEnd (hheader : Header cleaned inside rest) :
    TypeScript.indexOfEnd cleaned = some (inside.length + 1) := by
  rw [TypeScript.indexOfEnd, hheader.text]
  simp only [List.cons_append, List.drop_succ_cons, List.drop_zero]
  rw [findIdx_bracket hheader.first]
  rfl

theorem Header.findEnd (hheader : Header cleaned inside rest) :
    Python.findEnd cleaned = if inside.length < 200 then some (inside.length + 1) else none := by
  rw [Python.findEnd, hheader.text]
  simp only [List.cons_append, List.take_succ_cons, List.drop_succ_cons, List.drop_zero]
  rw [List.take_append]
  split
  · next hshort =>
      have hone : 200 - inside.length = (199 - inside.length) + 1 := by omega
      rw [List.take_of_length_le (by omega), hone, List.take_succ_cons,
        findIdx_bracket hheader.first]
      rfl
  · next hlong =>
      have hzero : 200 - inside.length = 0 := by omega
      rw [hzero, List.take_zero, List.append_nil, findIdx_none]
      · rfl
      · exact fun hmem => hheader.first (List.mem_of_mem_take hmem)

theorem utf16Length_cons (c : Char) (text : Chars) :
    utf16Length (c :: text) = (if c.toNat < 0x10000 then 1 else 2) + utf16Length text := by
  rw [utf16Length, List.map_cons, List.sum_cons]
  rfl

theorem Header.utf16Length_take (hheader : Header cleaned inside rest) :
    utf16Length (cleaned.take (inside.length + 1)) = 1 + utf16Length inside := by
  have htake : cleaned.take (inside.length + 1) = '[' :: inside := by
    rw [hheader.text]
    simp
  have hone : ('[').toNat < 0x10000 := by decide
  rw [htake, utf16Length_cons, if_pos hone]

end

/-! ### The two parses -/

structure PythonHeader (text inside rest : Chars) : Prop
    extends Header (Python.strip text) inside rest where
  short : inside.length < 200
  knows : PythonKnows inside

structure TypeScriptHeader (text inside rest : Chars) : Prop
    extends Header (TypeScript.trim text) inside rest where
  short : utf16Length inside < 200
  knows : TypeScriptKnows inside

section
variable {text cleaned inside rest : Chars}

theorem Header.opens (hheader : Header cleaned inside rest) : cleaned.head? = some '[' := by
  rw [hheader.text]
  rfl

theorem parse_pythonHeader (hheader : PythonHeader text inside rest) :
    Python.parseReplyPrefix text =
      ⟨lowered (Python.strip (kindWord (Python.strip inside))),
        responseOf (Python.readHandles (handlesPart (tailOf (Python.strip inside))))
          (Python.readKinds (kindsPart (tailOf (Python.strip inside)))),
        rest.dropWhile Text.isSpace⟩ := by
  obtain ⟨hinside, hrest⟩ := hheader.toHeader.take_drop
  have hfound := hheader.toHeader.findEnd
  rw [if_pos hheader.short] at hfound
  simp only [Python.parseReplyPrefix, hheader.toHeader.opens, hfound, hinside, hrest,
    readInside_of_pythonKnows hheader.knows, ne_eq, not_true_eq_false, if_false]

theorem parse_no_pythonHeader (hnone : ¬ ∃ inside rest, PythonHeader text inside rest) :
    Python.parseReplyPrefix text = ⟨"claim".toList, none, Python.strip text⟩ := by
  by_cases hopens : (Python.strip text).head? = some '['
  · by_cases hcloses : ']' ∈ (Python.strip text).drop 1
    · obtain ⟨inside, rest, hheader⟩ := exists_header hopens hcloses
      have hfound := hheader.findEnd
      by_cases hshort : inside.length < 200
      · rw [if_pos hshort] at hfound
        have hnot : ¬ PythonKnows inside :=
          fun hknows => hnone ⟨inside, rest, hheader, hshort, hknows⟩
        simp only [Python.parseReplyPrefix, hopens, hfound, hheader.take_drop.1,
          readInside_of_not_pythonKnows hnot, ne_eq, not_true_eq_false, if_false]
      · rw [if_neg hshort] at hfound
        simp only [Python.parseReplyPrefix, hopens, hfound, ne_eq, not_true_eq_false, if_false]
    · have hfound : Python.findEnd (Python.strip text) = none := by
        rw [Python.findEnd, List.drop_take, findIdx_none]
        · rfl
        · exact fun hmem => hcloses (List.mem_of_mem_take hmem)
      simp only [Python.parseReplyPrefix, hopens, hfound, ne_eq, not_true_eq_false, if_false]
  · simp only [Python.parseReplyPrefix, ne_eq, hopens, not_false_eq_true, if_true]

theorem parse_typeScriptHeader (hheader : TypeScriptHeader text inside rest) :
    TypeScript.parseReplyPrefix text =
      ⟨some (lowered (TypeScript.trim (kindWord (TypeScript.trim inside)))),
        responseOf (TypeScript.readHandles (handlesPart (tailOf (TypeScript.trim inside))))
          (TypeScript.readKinds (kindsPart (tailOf (TypeScript.trim inside)))),
        rest.dropWhile jsIsSpace⟩ := by
  obtain ⟨hinside, hrest⟩ := hheader.toHeader.take_drop
  have hlength := hheader.toHeader.utf16Length_take
  have hshort : ¬ 200 < 1 + utf16Length inside := by
    have := hheader.short
    omega
  simp only [TypeScript.parseReplyPrefix, hheader.toHeader.opens, hheader.toHeader.indexOfEnd,
    hlength, hshort, hinside, hrest, readInside_of_typeScriptKnows hheader.knows, ne_eq,
    not_true_eq_false, if_false]

theorem parse_no_typeScriptHeader (hnone : ¬ ∃ inside rest, TypeScriptHeader text inside rest) :
    TypeScript.parseReplyPrefix text = ⟨none, none, TypeScript.trim text⟩ := by
  by_cases hopens : (TypeScript.trim text).head? = some '['
  · by_cases hcloses : ']' ∈ (TypeScript.trim text).drop 1
    · obtain ⟨inside, rest, hheader⟩ := exists_header hopens hcloses
      have hlength := hheader.utf16Length_take
      by_cases hshort : utf16Length inside < 200
      · have hnot : ¬ TypeScriptKnows inside :=
          fun hknows => hnone ⟨inside, rest, hheader, hshort, hknows⟩
        simp only [TypeScript.parseReplyPrefix, hopens, hheader.indexOfEnd, hheader.take_drop.1,
          readInside_of_not_typeScriptKnows hnot, ne_eq, not_true_eq_false, ite_self]
      · have hlong : 200 < 1 + utf16Length inside := by omega
        simp only [TypeScript.parseReplyPrefix, hopens, hheader.indexOfEnd, hlength, hlong, ne_eq,
          not_true_eq_false, if_false, if_true]
    · have hfound : TypeScript.indexOfEnd (TypeScript.trim text) = none := by
        rw [TypeScript.indexOfEnd, findIdx_none hcloses]
        rfl
      simp only [TypeScript.parseReplyPrefix, hopens, hfound, ne_eq, not_true_eq_false, if_false]
  · simp only [TypeScript.parseReplyPrefix, ne_eq, hopens, not_false_eq_true, if_true]

end

/-! ### The kind -/

theorem cutAt_append_left {sep : Chars} {first : Char} {others before : Chars}
    (hsep : sep = first :: others) (hbefore : first ∉ before) (text : Chars) :
    cutAt sep (before ++ text) = (cutAt sep text).map fun found => (before ++ found.1, found.2) := by
  induction before with
  | nil => simp
  | cons c before ih =>
      have hne : first ≠ c := fun heq => hbefore (heq ▸ List.mem_cons_self)
      have hrest : first ∉ before := fun hmem => hbefore (List.mem_cons_of_mem c hmem)
      have hnot : ¬ sep <+: c :: (before ++ text) := by
        rw [hsep, List.cons_prefix_cons]
        exact fun hprefix => hne hprefix.1
      rw [List.cons_append, cutAt, if_neg hnot, ih hrest, Option.map_map]
      rfl

/-- What a parser leaves of a trimmed text: all of it, or what follows a header. -/
def LeavesBody (p : Char → Bool) (cleaned body : Chars) : Prop :=
  body = cleaned ∨ ∃ inside rest, Header cleaned inside rest ∧ body = rest.dropWhile p

theorem leavesBody_python (text : Chars) :
    LeavesBody Text.isSpace (Python.strip text) (Python.parseReplyPrefix text).body := by
  by_cases hheader : ∃ inside rest, PythonHeader text inside rest
  · obtain ⟨inside, rest, hfound⟩ := hheader
    rw [parse_pythonHeader hfound]
    exact Or.inr ⟨inside, rest, hfound.toHeader, rfl⟩
  · rw [parse_no_pythonHeader hheader]
    exact Or.inl rfl

theorem leavesBody_typeScript (text : Chars) :
    LeavesBody jsIsSpace (TypeScript.trim text) (TypeScript.parseReplyPrefix text).body := by
  by_cases hheader : ∃ inside rest, TypeScriptHeader text inside rest
  · obtain ⟨inside, rest, hfound⟩ := hheader
    rw [parse_typeScriptHeader hfound]
    exact Or.inr ⟨inside, rest, hfound.toHeader, rfl⟩
  · rw [parse_no_typeScriptHeader hheader]
    exact Or.inl rfl

section
variable {p q : Char → Bool} {text body : Chars}

theorem LeavesBody.ends (hbody : LeavesBody p (trimBy p text) body) :
    (∀ c ∈ body.head?, p c = false) ∧ ∀ c ∈ body.getLast?, p c = false := by
  rcases hbody with rfl | ⟨inside, rest, hheader, rfl⟩
  · exact ⟨fun c hc => head_trimBy hc, fun c hc => getLast_trimBy hc⟩
  · refine ⟨fun c hc => head_dropWhile hc, fun c hc => ?_⟩
    have hsuffix : rest <:+ trimBy p text := by
      rw [hheader.text]
      exact (List.suffix_cons _ rest).trans (List.suffix_append _ _)
    exact getLast_trimBy (getLast_dropWhile_of_suffix hsuffix hc)

theorem LeavesBody.whole_ends (hbody : LeavesBody p (trimBy p text) body)
    (hbrackets : q '[' = false ∧ q ']' = false)
    (hends : (∀ c ∈ body.head?, q c = false) ∧ ∀ c ∈ body.getLast?, q c = false) :
    (∀ c ∈ (trimBy p text).head?, q c = false) ∧
      ∀ c ∈ (trimBy p text).getLast?, q c = false := by
  rcases hbody with rfl | ⟨inside, rest, hheader, rfl⟩
  · exact hends
  · constructor
    · intro c hc
      rw [hheader.opens] at hc
      obtain rfl := Option.some.inj hc
      exact hbrackets.1
    · intro c hc
      have hkept : p c = false := getLast_trimBy hc
      rw [hheader.text, List.getLast?_append, List.getLast?_cons] at hc
      cases hlast : rest.getLast? with
      | none =>
          simp only [hlast, Option.getD_none] at hc
          obtain rfl := Option.some.inj hc
          exact hbrackets.2
      | some d =>
          simp only [hlast, Option.getD_some] at hc
          obtain rfl := Option.some.inj hc
          exact hends.2 d (getLast_dropWhile hlast hkept)

end

/-! ### Reading alike -/

section
variable {text inside rest : Chars}

theorem Same.ends (hsame : Same (Python.parseReplyPrefix text) (TypeScript.parseReplyPrefix text)) :
    Python.strip text = TypeScript.trim text := by
  have hpython := leavesBody_python text
  have htypeScript := leavesBody_typeScript text
  rw [← hsame.body] at htypeScript
  have hleft := hpython.whole_ends (by decide) htypeScript.ends
  have hright := htypeScript.whole_ends (by decide) hpython.ends
  exact trimBy_eq_of_ends hleft.1 hright.1 hleft.2 hright.2

end

end OpsCure.ReplyPrefix
