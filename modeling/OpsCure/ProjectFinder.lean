/-
The project finder (`project_finder.py`).  A scan comes up with candidates, a coding agent picks
among them in free text, and the pick becomes the working directory of a session.
-/
import OpsCure.ControlBlocks
import OpsCure.RemoteCommands
import Mathlib.Algebra.Order.Ring.Rat
import Mathlib.Data.List.ReduceOption
import Mathlib.Tactic.NormNum

namespace OpsCure.ProjectFinder

open Fallible

structure CandidateSummary where
  path : String
  displayName : String
  heuristicScore : ℚ
  rationale : String

/-- An exception, as far as the finder tells them apart. -/
inductive Raised where
  | jsonDecodeError
  | other
deriving DecidableEq

/-- What the finder takes from Python's library: `str` of what is no text, `json.loads`,
`Path.resolve`, the float of an integer, which overflows on a large one, and `round(_, 3)`. -/
structure Python where
  render : Json → String
  loads : String → Except Raised Json
  resolve : String → Except Raised String
  float : Int → Except Raised ℚ
  round : ℚ → ℚ

structure Shown where
  path : String
  displayName : String
  rationale : String
  score : ℚ

structure Decision where
  status : String
  selectedPath : Option String
  selectedName : Json
  reason : String
  confidence : ℚ
  candidates : List Shown

section
variable (python : Python)

def CandidateSummary.toBridgePayload (candidate : CandidateSummary) : Shown where
  path := candidate.path
  displayName := candidate.displayName
  rationale := candidate.rationale
  score := python.round candidate.heuristicScore

def Shown.toJson (shown : Shown) : Json :=
  .obj [("path", .str shown.path), ("display_name", .str shown.displayName),
    ("rationale", .str shown.rationale), ("score", .float shown.score)]

/-! ## Reading the output -/

/-- The text without the fence it may stand in. -/
def unfenced (text : List Char) : List Char :=
  let rest := text.drop 3
  let body := ((ControlBlocks.dropFolded "json" rest).getD rest).dropWhile Text.isSpace
  if "```".toList <:+ body then body.take (body.length - 3) else body

/-- `_parse_json_output`. -/
def parseJsonOutput (text : String) : Except Raised Json :=
  let bare := Text.strip text
  let stripped := if "```".toList <+: bare.toList
    then Text.strip (String.ofList (unfenced bare.toList)) else bare
  match python.loads stripped with
  | .error .jsonDecodeError =>
      let letters := stripped.toList
      let start := letters.findIdx (· = '{')
      let stop := letters.length - letters.reverse.findIdx (· = '}')
      -- a text without either brace, or with the last one before the first
      if stop ≤ start + 1 then .error .jsonDecodeError
      else python.loads (String.ofList ((letters.take stop).drop start))
  | read => read

/-! ## The decision -/

/-- The first candidate, if it scores enough and leads the next one by enough. -/
def dominant (score lead : ℚ) : List CandidateSummary → Option CandidateSummary
  | [] => none
  | top :: others =>
      let second := (others.head?.map CandidateSummary.heuristicScore).getD 0
      if score ≤ top.heuristicScore ∧ lead ≤ top.heuristicScore - second then some top else none

/-- `_fallback_decision`. -/
def fallbackDecision (candidates : List CandidateSummary) : Json :=
  let shown := Json.arr ((candidates.take 3).map fun c => (c.toBridgePayload python).toJson)
  match dominant 4 (3 / 2) candidates with
  | some top =>
      .obj [("status", .str "selected"), ("selected_path", .str top.path),
        ("selected_name", .str top.displayName),
        ("reason", .str ("Best heuristic match: " ++ top.rationale)),
        ("confidence", .float (min (17 / 20) (9 / 20 + top.heuristicScore / 10))),
        ("candidates", shown)]
  | none =>
      .obj [("status", .str "needs_clarification"), ("selected_path", .null),
        ("selected_name", .null),
        ("reason",
          .str "Several local folders look similar, so the result needs clarification."),
        ("confidence", .float (1 / 4)), ("candidates", shown)]

/-- `allowed_paths.get(path)`; the last of several candidates with one path holds it. -/
def allowed (candidates : List CandidateSummary) (path : String) : Option CandidateSummary :=
  candidates.reverse.find? fun candidate => candidate.path = path

/-- `float(value)` where `isinstance(value, (int, float))`. -/
def number? : Json → Option (Except Raised ℚ)
  | .int value => some (python.float value)
  | .bool value => some (.ok (if value then 1 else 0))
  | .float value => some (.ok value)
  | _ => none

/-- The status of the decision, before it is held against the path. -/
def statusOf (decision : Json) : String :=
  let value := decision.get "status"
  let status := Text.lower (Text.strip (RemoteCodex.textOf python.render
    (if value.truthy then value else .str "needs_clarification")))
  if status ∈ ["selected", "needs_clarification", "no_match"] then status
  else "needs_clarification"

def selectedPathOf (decision : Json) : Except Raised (Option String) :=
  match decision.get "selected_path" with
  | .str path => some <$> python.resolve path
  | _ => .ok none

def confidenceOf (decision : Json) : Except Raised ℚ :=
  (fun value => max 0 (min 1 value)) <$> (number? python (decision.get "confidence")).getD (.ok 0)

def reasonOf (decision : Json) : String :=
  match (decision.get "reason").str? with
  | some reason => if Text.strip reason = "" then "The finder could not explain the choice clearly."
      else Text.strip reason
  | none => "The finder could not explain the choice clearly."

/-- `raw_candidates[: max_candidates]`; a negative bound counts from the end. -/
def offeredItems (maxCandidates : Int) (decision : Json) : List Json :=
  match decision.get "candidates" with
  | .arr items => items.take
      (if 0 ≤ maxCandidates then maxCandidates.toNat else items.length - (-maxCandidates).toNat)
  | _ => []

variable (candidates : List CandidateSummary)

def shownAs (item : Json) (resolved : String) (candidate : CandidateSummary) :
    Except Raised (Option Shown) :=
  (fun score => some
    { path := resolved
      displayName := candidate.displayName
      rationale := (((item.get "rationale").str?).filter (Text.strip · ≠ "")).getD
        candidate.rationale
      score := score }) <$>
    (number? python (item.get "score")).getD (.ok (python.round candidate.heuristicScore))

/-- What is shown of an item of the decision, `none` where it is skipped. -/
def normalizeItem (item : Json) : Except Raised (Option Shown) :=
  match item.get "path" with
  | .str path => do
      let resolved ← python.resolve path
      match allowed candidates resolved with
      | none => .ok none
      | some candidate => shownAs python item resolved candidate
  | _ => .ok none

/-- The status and the path; a selection of something that was not offered is withdrawn. -/
def settled (decision : Json) (named : Option String) : String × Option String :=
  let status := statusOf python decision
  if status = "selected" ∧ named.bind (allowed candidates) = none then
    ("needs_clarification", none)
  else (status, named)

/-- The first candidate, where it is taken although the agent did not select. -/
def override (decision : Json) (named : Option String) : Option CandidateSummary :=
  if (settled python candidates decision named).1 = "selected" then none
  else dominant 5 2 candidates

def shownOf (listed : List (Option Shown)) : List Shown :=
  if listed.reduceOption = [] then
    (candidates.take 3).map (CandidateSummary.toBridgePayload python)
  else listed.reduceOption

/-- The decision, once everything in it has been read. -/
def concluded (decision : Json) (named : Option String) (listed : List (Option Shown))
    (confidence : ℚ) : Decision :=
  match override python candidates decision named with
  | some top =>
      { status := "selected"
        selectedPath := some top.path
        selectedName := .str top.displayName
        reason := reasonOf decision
        confidence := max confidence (min (9 / 10) (1 / 2 + top.heuristicScore / 12))
        candidates := shownOf python candidates listed }
  | none =>
      let path := (settled python candidates decision named).2
      { status := (settled python candidates decision named).1
        selectedPath := path
        selectedName :=
          match (path.filter (· ≠ "")).bind (allowed candidates) with
          | some candidate => .str candidate.displayName
          | none => decision.get "selected_name"
        reason := reasonOf decision
        confidence := confidence
        candidates := shownOf python candidates listed }

/-- `_normalize_decision`; only an object has a `get`. -/
def normalizeDecision (maxCandidates : Int) (decision : Json) : Except Raised Decision := do
  require (decision.isObj = true) .other
  let named ← selectedPathOf python decision
  let listed ← (offeredItems maxCandidates decision).mapM (normalizeItem python candidates)
  let confidence ← confidenceOf python decision
  .ok (concluded python candidates decision named listed confidence)

/-- The decision that is normalized: what the output of the agent says, or the heuristic one
where the agent failed or its output cannot be read. -/
def decisionOf (analysis : Option String) : Json :=
  match analysis with
  | none => fallbackDecision python candidates
  | some output =>
      match parseJsonOutput python output with
      | .ok decision => decision
      | .error _ => fallbackDecision python candidates

/-- `find`, on the candidates of the scan and the output of the agent, if it came to one. -/
def find (maxCandidates : Int) (analysis : Option String) : Except Raised Decision :=
  if candidates = [] then
    .ok
      { status := "no_match"
        selectedPath := none
        selectedName := .null
        reason := "No plausible project folders were found under the configured roots."
        confidence := 0
        candidates := [] }
  else normalizeDecision python candidates maxCandidates (decisionOf python candidates analysis)

/-! ## What a caller gets -/

/-- The decision is made of what the scan came up with, and agrees with itself. -/
structure OnlyOffered (decision : Decision) : Prop where
  selected : ∀ path, decision.selectedPath = some path → path ∈ candidates.map (·.path)
  shown : ∀ shown ∈ decision.candidates, shown.path ∈ candidates.map (·.path)
  agreed : decision.status = "selected" ↔ decision.selectedPath ≠ none
  confident : 0 ≤ decision.confidence ∧ decision.confidence ≤ 1

def ReadsAsObject (analysis : Option String) : Prop :=
  ∃ output decision, analysis = some output ∧ parseJsonOutput python output = .ok decision ∧
    decision.isObj = true

structure FindsOffered (maxCandidates : Int) (analysis : Option String) : Prop where
  returns : ∃ decision, find python candidates maxCandidates analysis = .ok decision ∧
    OnlyOffered candidates decision
  heuristic : ¬ReadsAsObject python analysis → find python candidates maxCandidates analysis =
    normalizeDecision python candidates maxCandidates (fallbackDecision python candidates)

def Resolves (path : String) : Prop := ∃ resolved, python.resolve path = .ok resolved

def Converts (value : Json) : Prop :=
  ∀ whole, value = .int whole → ∃ number, python.float whole = .ok number

structure ItemReads (item : Json) : Prop where
  path : ∀ path, item.get "path" = .str path → Resolves python path
  score : ∀ path resolved candidate, item.get "path" = .str path →
    python.resolve path = .ok resolved → allowed candidates resolved = some candidate →
    Converts python (item.get "score")

structure Readable (maxCandidates : Int) (decision : Json) : Prop where
  object : decision.isObj = true
  selected : ∀ path, decision.get "selected_path" = .str path → Resolves python path
  items : ∀ item ∈ offeredItems maxCandidates decision, ItemReads python candidates item
  confidence : Converts python (decision.get "confidence")

/-- A path comes with the status `selected` only, unless the first candidate takes over. -/
def PathAsSelected (decision : Json) : Prop :=
  (∃ path, decision.get "selected_path" = .str path) →
    statusOf python decision = "selected" ∨ dominant 5 2 candidates ≠ none

section
variable {python candidates}

variable {top : CandidateSummary} {item : Json} {maxCandidates : Int} {confidence : ℚ}

theorem mem_of_dominant {score lead : ℚ} (htop : dominant score lead candidates = some top) :
    top ∈ candidates := by
  cases candidates with
  | nil => cases htop
  | cons =>
      simp only [dominant, Option.ite_none_right_eq_some, Option.some.injEq] at htop
      rw [← htop.2]
      exact List.mem_cons_self

theorem mem_of_allowed {path : String} {candidate : CandidateSummary}
    (hallowed : allowed candidates path = some candidate) : path ∈ candidates.map (·.path) := by
  have hpath : candidate.path = path := by simpa using List.find?_some hallowed
  have hmem : candidate ∈ candidates := List.mem_reverse.mp (List.mem_of_find?_eq_some hallowed)
  exact List.mem_map.mpr ⟨candidate, hmem, hpath⟩

theorem number_reads_iff {value : Json} {fallback : ℚ} :
    (∃ number, (number? python value).getD (.ok fallback) = .ok number) ↔
      Converts python value := by
  cases value with
  | int whole =>
      constructor
      · intro hreads other hother
        cases hother
        exact hreads
      · intro hconverts
        exact hconverts whole rfl
  | _ => simp [number?, Converts]

variable {decision : Json} {named : Option String} {listed : List (Option Shown)}

theorem selectedPathOf_ok_iff :
    (∃ named, selectedPathOf python decision = .ok named) ↔
      ∀ path, decision.get "selected_path" = .str path → Resolves python path := by
  unfold selectedPathOf Resolves
  cases decision.get "selected_path" <;> simp

theorem named_iff (hnamed : selectedPathOf python decision = .ok named) :
    named ≠ none ↔ ∃ path, decision.get "selected_path" = .str path := by
  unfold selectedPathOf at hnamed
  split at hnamed
  next path hpath =>
    obtain ⟨resolved, -, hsome⟩ := map_eq_ok.1 hnamed
    simp [← hsome, hpath]
  next hother =>
    have hnone : named = none := (Except.ok.inj hnamed).symm
    simp only [hnone, ne_eq, not_true_eq_false, false_iff, not_exists]
    exact hother

theorem normalizeItem_ok_iff :
    (∃ listed, normalizeItem python candidates item = .ok listed) ↔
      ItemReads python candidates item := by
  unfold normalizeItem
  split
  next path hpath =>
    constructor
    · intro ⟨listed, hlisted⟩
      obtain ⟨resolved, hresolved, hlisted⟩ := bind_eq_ok.1 hlisted
      constructor
      · intro other hother
        obtain rfl : path = other := Json.str.inj (hpath.symm.trans hother)
        exact ⟨resolved, hresolved⟩
      · intro other resolved' candidate hother hresolved' hallowed
        obtain rfl : path = other := Json.str.inj (hpath.symm.trans hother)
        obtain rfl : resolved = resolved' := Except.ok.inj (hresolved.symm.trans hresolved')
        rw [hallowed] at hlisted
        obtain ⟨score, hscore, -⟩ := map_eq_ok.1 hlisted
        exact number_reads_iff.1 ⟨score, hscore⟩
    · intro hreads
      obtain ⟨resolved, hresolved⟩ := hreads.path path hpath
      simp only [bind_eq_ok, hresolved, Except.ok.injEq, exists_eq_left']
      split
      next => exact ⟨none, rfl⟩
      next candidate hallowed =>
        have hconverts := hreads.score path resolved candidate hpath hresolved hallowed
        obtain ⟨score, hscore⟩ := number_reads_iff.2 hconverts
        exact ⟨_, map_eq_ok.2 ⟨score, hscore, rfl⟩⟩
  next hother =>
    refine ⟨fun _ => ⟨fun path hpath => absurd hpath (hother path),
      fun path _ _ hpath => absurd hpath (hother path)⟩, fun _ => ⟨none, rfl⟩⟩

theorem path_of_normalizeItem {shown : Shown}
    (hitem : normalizeItem python candidates item = .ok (some shown)) :
    shown.path ∈ candidates.map (·.path) := by
  unfold normalizeItem at hitem
  split at hitem
  next path _ =>
    obtain ⟨resolved, -, hitem⟩ := bind_eq_ok.1 hitem
    split at hitem
    next => cases hitem
    next candidate hallowed =>
      obtain ⟨score, -, hshown⟩ := map_eq_ok.1 hitem
      have hsame : shown.path = resolved := (congrArg Shown.path (Option.some.inj hshown)).symm
      rw [hsame]
      exact mem_of_allowed hallowed
  next => cases hitem

theorem mapM_ok_iff {items : List Json} :
    (∃ listed, items.mapM (normalizeItem python candidates) = .ok listed) ↔
      ∀ item ∈ items, ItemReads python candidates item := by
  induction items with
  | nil => simp [List.mapM_nil, pure_eq_ok]
  | cons item items ih =>
      rw [List.forall_mem_cons, ← ih, ← normalizeItem_ok_iff]
      simp only [List.mapM_cons, bind_eq_ok, pure_eq_ok]
      constructor
      · rintro ⟨_, first, hfirst, rest, hrest, _⟩
        exact ⟨⟨first, hfirst⟩, rest, hrest⟩
      · rintro ⟨⟨first, hfirst⟩, rest, hrest⟩
        exact ⟨first :: rest, first, hfirst, rest, hrest, rfl⟩

theorem normalizeDecision_ok_iff :
    (∃ result, normalizeDecision python candidates maxCandidates decision = .ok result) ↔
      Readable python candidates maxCandidates decision := by
  unfold normalizeDecision
  constructor
  · intro ⟨result, hresult⟩
    obtain ⟨_, hobject, hresult⟩ := bind_eq_ok.1 hresult
    obtain ⟨named, hnamed, hresult⟩ := bind_eq_ok.1 hresult
    obtain ⟨listed, hlisted, hresult⟩ := bind_eq_ok.1 hresult
    obtain ⟨confidence, hconfidence, -⟩ := bind_eq_ok.1 hresult
    obtain ⟨number, hnumber, -⟩ := map_eq_ok.1 hconfidence
    exact ⟨require_eq_ok.1 hobject, selectedPathOf_ok_iff.1 ⟨named, hnamed⟩,
      mapM_ok_iff.1 ⟨listed, hlisted⟩, number_reads_iff.1 ⟨number, hnumber⟩⟩
  · intro hreads
    obtain ⟨named, hnamed⟩ := selectedPathOf_ok_iff.2 hreads.selected
    obtain ⟨listed, hlisted⟩ := mapM_ok_iff.2 hreads.items
    obtain ⟨number, hnumber⟩ :=
      (@number_reads_iff python (decision.get "confidence") 0).mpr hreads.confidence
    refine ⟨concluded python candidates decision named listed (max 0 (min 1 number)), ?_⟩
    simp [hreads.object, hnamed, hlisted, confidenceOf, hnumber, bind_eq_ok]

theorem eq_concluded_of_ok {result : Decision}
    (hok : normalizeDecision python candidates maxCandidates decision = .ok result) :
    ∃ named listed confidence,
      result = concluded python candidates decision named listed confidence ∧
        (named ≠ none ↔ ∃ path, decision.get "selected_path" = .str path) ∧
        (∀ shown, some shown ∈ listed → shown.path ∈ candidates.map (·.path)) ∧
        0 ≤ confidence ∧ confidence ≤ 1 := by
  obtain ⟨_, -, hok⟩ := bind_eq_ok.1 hok
  obtain ⟨named, hnamed, hok⟩ := bind_eq_ok.1 hok
  obtain ⟨listed, hlisted, hok⟩ := bind_eq_ok.1 hok
  obtain ⟨confidence, hconfidence, hok⟩ := bind_eq_ok.1 hok
  obtain ⟨number, -, hclamped⟩ := map_eq_ok.1 hconfidence
  have hshown : ∀ shown, some shown ∈ listed → shown.path ∈ candidates.map (·.path) := by
    intro shown hmem
    obtain ⟨item, -, hitem⟩ := exists_of_mem_mapM hlisted hmem
    exact path_of_normalizeItem hitem
  refine ⟨named, listed, confidence, (Except.ok.inj hok).symm, named_iff hnamed, hshown, ?_⟩
  rw [← hclamped]
  exact ⟨le_max_left _ _, max_le zero_le_one (min_le_left _ _)⟩

theorem path_of_shownOf
    (hlisted : ∀ shown, some shown ∈ listed → shown.path ∈ candidates.map (·.path)) :
    ∀ shown ∈ shownOf python candidates listed, shown.path ∈ candidates.map (·.path) := by
  intro shown hmem
  unfold shownOf at hmem
  split at hmem
  next =>
    obtain ⟨candidate, hcandidate, hshown⟩ := List.mem_map.mp hmem
    rw [← hshown]
    exact List.mem_map.mpr ⟨candidate, List.mem_of_mem_take hcandidate, rfl⟩
  next => exact hlisted shown (List.reduceOption_mem_iff.mp hmem)

theorem settled_of_withdrawn (hselected : statusOf python decision = "selected")
    (hmissing : named.bind (allowed candidates) = none) :
    settled python candidates decision named = ("needs_clarification", none) := by
  simp [settled, hselected, hmissing]

theorem settled_of_kept
    (hkept : statusOf python decision = "selected" → named.bind (allowed candidates) ≠ none) :
    settled python candidates decision named = (statusOf python decision, named) := by
  unfold settled
  dsimp only
  rw [if_neg]
  exact fun h => hkept h.1 h.2

theorem agreed_settled_iff (hoverride : override python candidates decision named = none) :
    ((settled python candidates decision named).1 = "selected" ↔
        (settled python candidates decision named).2 ≠ none) ↔
      (named ≠ none → statusOf python decision = "selected" ∨ dominant 5 2 candidates ≠ none) := by
  unfold override at hoverride
  by_cases hselected : statusOf python decision = "selected"
  · cases hfound : named.bind (allowed candidates) with
    | none =>
        rw [settled_of_withdrawn hselected hfound]
        simp [hselected]
    | some =>
        obtain ⟨path, hpath, -⟩ := Option.bind_eq_some_iff.mp hfound
        rw [settled_of_kept (by simp [hfound]), hpath]
        simp [hselected]
  · have hkept : settled python candidates decision named = (statusOf python decision, named) :=
      settled_of_kept (fun h => absurd h hselected)
    rw [hkept] at hoverride ⊢
    dsimp only at hoverride ⊢
    rw [if_neg hselected] at hoverride
    simp [hselected, hoverride]

theorem path_of_settled {decision : Json} {named : Option String} {path : String}
    (hselected : (settled python candidates decision named).1 = "selected")
    (hpath : (settled python candidates decision named).2 = some path) :
    path ∈ candidates.map (·.path) := by
  by_cases hkept : statusOf python decision = "selected" → named.bind (allowed candidates) ≠ none
  · rw [settled_of_kept hkept] at hselected hpath
    dsimp only at hselected hpath
    obtain ⟨candidate, hallowed⟩ := Option.ne_none_iff_exists'.mp (hkept hselected)
    rw [hpath] at hallowed
    exact mem_of_allowed hallowed
  · obtain ⟨hstatus, hmissing⟩ := Classical.not_imp.mp hkept
    rw [settled_of_withdrawn hstatus (not_not.mp hmissing)] at hpath
    cases hpath

theorem onlyOffered_of_override (hoverride : override python candidates decision named = some top)
    (htop : top ∈ candidates)
    (hlisted : ∀ shown, some shown ∈ listed → shown.path ∈ candidates.map (·.path))
    (hlow : 0 ≤ confidence) (hhigh : confidence ≤ 1) :
    OnlyOffered candidates (concluded python candidates decision named listed confidence) := by
  have hcap : min (9 / 10 : ℚ) (1 / 2 + top.heuristicScore / 12) ≤ 1 :=
    (min_le_left _ _).trans (by norm_num)
  unfold concluded
  rw [hoverride]
  constructor
  · intro path hpath
    rw [← Option.some.inj hpath]
    exact List.mem_map.mpr ⟨top, htop, rfl⟩
  · exact path_of_shownOf hlisted
  · simp
  · exact ⟨le_max_of_le_left hlow, max_le hhigh hcap⟩

theorem concluded_of_settled {decision : Json} {named : Option String}
    {listed : List (Option Shown)} {confidence : ℚ}
    (hoverride : override python candidates decision named = none) :
    ∃ name, concluded python candidates decision named listed confidence =
      ⟨(settled python candidates decision named).1, (settled python candidates decision named).2,
        name, reasonOf decision, confidence, shownOf python candidates listed⟩ := by
  unfold concluded
  rw [hoverride]
  exact ⟨_, rfl⟩

theorem onlyOffered_concluded_iff
    (hnamed : named ≠ none ↔ ∃ path, decision.get "selected_path" = .str path)
    (hlisted : ∀ shown, some shown ∈ listed → shown.path ∈ candidates.map (·.path))
    (hlow : 0 ≤ confidence) (hhigh : confidence ≤ 1) :
    OnlyOffered candidates (concluded python candidates decision named listed confidence) ↔
      PathAsSelected python candidates decision := by
  unfold PathAsSelected
  rw [← hnamed]
  cases hoverride : override python candidates decision named with
  | some top =>
      have htop : dominant 5 2 candidates = some top := (Option.ite_none_left_eq_some.mp hoverride).2
      constructor
      · intro _ _
        exact Or.inr (by simp [htop])
      · intro _
        exact onlyOffered_of_override hoverride (mem_of_dominant htop) hlisted hlow hhigh
  | none =>
      obtain ⟨name, hconcluded⟩ := @concluded_of_settled python candidates decision named listed
        confidence hoverride
      have hagree := agreed_settled_iff hoverride
      have hpaths := @path_of_settled python candidates decision named
      rw [hconcluded, ← hagree]
      generalize settled python candidates decision named = state at *
      constructor
      · intro hoffers
        exact hoffers.agreed
      · intro hagreed
        refine ⟨?_, path_of_shownOf hlisted, hagreed, hlow, hhigh⟩
        intro path hpath
        have hsome : state.2 = some path := hpath
        exact hpaths (hagreed.mpr (by simp [hsome])) hsome

theorem decisionOf_of_unread {analysis : Option String}
    (hunread : ¬ReadsAsObject python analysis)
    (hobject : (decisionOf python candidates analysis).isObj = true) :
    decisionOf python candidates analysis = fallbackDecision python candidates := by
  unfold decisionOf at hobject ⊢
  cases analysis with
  | none => rfl
  | some output =>
      dsimp only at hobject ⊢
      split at hobject
      next decision hread => exact absurd ⟨output, decision, rfl, hread, hobject⟩ hunread
      next => rfl

end

/-- The finder returns only what it offered exactly where the decision is an object that reads
throughout, and that names a path as selected or not at all. -/
theorem finds_offered_iff (top : CandidateSummary) (others : List CandidateSummary)
    (maxCandidates : Int) (analysis : Option String) :
    FindsOffered python (top :: others) maxCandidates analysis ↔
      Readable python (top :: others) maxCandidates (decisionOf python (top :: others) analysis) ∧
        PathAsSelected python (top :: others) (decisionOf python (top :: others) analysis) := by
  have hfind : find python (top :: others) maxCandidates analysis =
      normalizeDecision python (top :: others) maxCandidates
        (decisionOf python (top :: others) analysis) := if_neg (List.cons_ne_nil _ _)
  constructor
  · intro ⟨⟨decision, hdecision, hoffers⟩, _⟩
    rw [hfind] at hdecision
    refine ⟨normalizeDecision_ok_iff.mp ⟨decision, hdecision⟩, ?_⟩
    obtain ⟨named, listed, confidence, hsame, hnamed, hlisted, hlow, hhigh⟩ :=
      eq_concluded_of_ok hdecision
    rw [hsame] at hoffers
    exact (onlyOffered_concluded_iff hnamed hlisted hlow hhigh).mp hoffers
  · intro ⟨hreads, hpath⟩
    obtain ⟨decision, hdecision⟩ := normalizeDecision_ok_iff.mpr hreads
    obtain ⟨named, listed, confidence, hsame, hnamed, hlisted, hlow, hhigh⟩ :=
      eq_concluded_of_ok hdecision
    refine ⟨⟨decision, hfind.trans hdecision, ?_⟩, ?_⟩
    · rw [hsame]
      exact (onlyOffered_concluded_iff hnamed hlisted hlow hhigh).mpr hpath
    · intro hunread
      rw [hfind, decisionOf_of_unread hunread hreads.object]

end

/-! ## A path without a selection -/

def workshop : CandidateSummary where
  path := "/work/shop"
  displayName := "shop"
  heuristicScore := 3
  rationale := "query tokens matched: shop"

def noMatch : Json := .obj [("status", .str "no_match"), ("selected_path", .str "/etc")]

/-- Every text reads as the decision of an agent that rejects its own path. -/
def plainPython : Python where
  render := fun _ => ""
  loads := fun _ => .ok noMatch
  resolve := .ok
  float := fun whole => .ok whole
  round := id

/-- The path stays in the decision, although it is neither selected nor offered. -/
theorem rejected_path_is_kept :
    ¬FindsOffered plainPython [workshop] 12
      (some "\x7b\"status\": \"no_match\", \"selected_path\": \"/etc\"\x7d") := by
  intro ⟨⟨decision, hdecision, hoffers⟩, _⟩
  have hdecision : normalizeDecision plainPython [workshop] 12 noMatch = .ok decision := hdecision
  obtain ⟨named, listed, confidence, hsame, hnamed, hlisted, hlow, hhigh⟩ :=
    eq_concluded_of_ok hdecision
  rw [hsame] at hoffers
  have hpath := (onlyOffered_concluded_iff hnamed hlisted hlow hhigh).mp hoffers ⟨"/etc", rfl⟩
  rcases hpath with hstatus | hdominant
  · exact absurd hstatus (by decide)
  · exact hdominant (by decide +kernel)

end OpsCure.ProjectFinder
