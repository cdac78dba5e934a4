/-
The two validators of the contract on any JSON a caller hands in (`kernel/v2/contract.py`,
`validate_operation_policy` and `validate_expected_response`), with the values they return kept as
the dicts they are.  What comes out is accepted again, as it is.
-/
import OpsCure.Contract

namespace OpsCure.Contract.Values

open Fallible

/-! ## Checks -/

/-- What a validator raises: a `ValueError` of its own, or the `TypeError` of looking up a value
that has no hash. -/
inductive Refusal (ε : Type) where
  | invalid (error : ε)
  | notDict
  | unhashable (typeName : String)
deriving Repr

def Refusal.text {ε : Type} (name : String) (text : ε → String) : Refusal ε → String
  | invalid error => text error
  | notDict => s!"{name} must be a dict"
  | unhashable typeName => s!"unhashable type: '{typeName}'"

/-- `given in words`, for a set of words. -/
def oneOf {ε : Type} (words : List String) (unknown : Json → ε) (given : Json) :
    Except (Refusal ε) Unit :=
  match given with
  | .arr _ => .error (.unhashable "list")
  | .obj _ => .error (.unhashable "dict")
  | .str word => require (word ∈ words) (.invalid (unknown given))
  | _ => .error (.invalid (unknown given))

/-- `isinstance(given, int) and given > 0`. -/
def positive {ε : Type} (error : ε) (given : Json) : Except (Refusal ε) Unit := do
  let number ← orRaise given.int? (.invalid error)
  require (0 < number) (.invalid error)

def boolean {ε : Type} (error : ε) (given : Json) : Except (Refusal ε) Unit :=
  match given with
  | .bool _ => .ok ()
  | _ => .error (.invalid error)

/-! ## The operation policy -/

/-- `ALL_CLOSE_POLICIES`. -/
def allClosePolicies : List String :=
  ["opener_unilateral", "any_participant", "quorum", "operator_ratifies"]

/-- `ALL_JOIN_POLICIES`. -/
def allJoinPolicies : List String := ["invite_only", "self_or_invite", "open"]

/-- `ALL_CONTEXT_COMPACTIONS`. -/
def allContextCompactions : List String := ["none", "rolling_summary"]

/-- A key of the policy, its default, and the check a given value has to pass. -/
structure PolicyField where
  key : String
  default : Json
  check : Json → Except (Refusal PolicyError) Unit

/-- The keys of `DEFAULT_OPERATION_POLICY`, in its order, which is that of the checks. -/
def policyFields : List PolicyField :=
  [{ key := "close_policy"
     default := .str "opener_unilateral"
     check := oneOf allClosePolicies .unknownClosePolicy },
   { key := "join_policy"
     default := .str "self_or_invite"
     check := oneOf allJoinPolicies .unknownJoinPolicy },
   { key := "context_compaction"
     default := .str "none"
     check := oneOf allContextCompactions .unknownContextCompaction },
   { key := "max_rounds", default := .null, check := positive .maxRoundsNotPositive },
   { key := "min_ratifiers", default := .null, check := positive .minRatifiersNotPositive },
   { key := "bot_open", default := .bool true, check := boolean (.notBool "bot_open") },
   { key := "bind_remote_task"
     default := .bool true
     check := boolean (.notBool "bind_remote_task") },
   { key := "requires_artifact"
     default := .bool false
     check := boolean (.notBool "requires_artifact") }]

/-- `dict(DEFAULT_OPERATION_POLICY)`. -/
def defaultPolicy : List (String × Json) :=
  policyFields.map fun field => (field.key, field.default)

/-- One key of the base: a given value that passes its check replaces the default. -/
def PolicyField.choose (value : Json) (field : PolicyField) :
    Except (Refusal PolicyError) (String × Json) :=
  match value.get field.key with
  | .null => .ok (field.key, field.default)
  | given => do
      field.check given
      return (field.key, given)

/-- `base["close_policy"] == "quorum" and not base.get("min_ratifiers")`. -/
def lacksRatifiers (base : List (String × Json)) : Bool :=
  ((Json.obj base).get "close_policy").str? = some "quorum" &&
    !((Json.obj base).get "min_ratifiers").truthy

def chosenBase (value : Json) : Except (Refusal PolicyError) (List (String × Json)) :=
  if value.truthy then do
    require value.isObj .notDict
    policyFields.mapM (PolicyField.choose value)
  else .ok defaultPolicy

/-- `validate_operation_policy`. -/
def validateOperationPolicy (value : Json) : Except (Refusal PolicyError) Json := do
  let base ← chosenBase value
  require (¬ lacksRatifiers base) (.invalid .quorumNeedsMinRatifiers)
  return .obj base

/-! ## The expected response -/

/-- `value.get("from_actor_handles") or value.get("from") or []`. -/
def declaredHandles (value : Json) : Json :=
  if (value.get "from_actor_handles").truthy then value.get "from_actor_handles"
  else if (value.get "from").truthy then value.get "from"
  else .arr []

def listed (value : Json) (notList : ExpectedResponseError) :
    Except (Refusal ExpectedResponseError) (List Json) :=
  match value with
  | .str _ => .ok [value]
  | .arr items => .ok items
  | _ => .error (.invalid notList)

def normHandle (value : Json) : Except (Refusal ExpectedResponseError) Json := do
  let handle ← orRaise value.str? (.invalid .handleEmpty)
  require (handle ≠ "") (.invalid .handleEmpty)
  return .str (withAt handle)

def replyKind (value : Json) : Except (Refusal ExpectedResponseError) Json := do
  oneOf (kindWildcard :: speechKinds) .unknownKind value
  return value

/-- An optional key: absent or `null` leaves it out. -/
def optionalKey (value : Json) (key : String)
    (read : Json → Except (Refusal ExpectedResponseError) Json) :
    Except (Refusal ExpectedResponseError) (List (String × Json)) :=
  match value.get key with
  | .null => .ok []
  | given => do
      let kept ← read given
      return [(key, kept)]

def readKinds (given : Json) : Except (Refusal ExpectedResponseError) Json := do
  let kinds ← (← listed given .kindsNotList).mapM replyKind
  return .arr kinds

/-- `isinstance(by, int) and by >= 0`. -/
def readRoundSeq (given : Json) : Except (Refusal ExpectedResponseError) Json := do
  let seq ← orRaise given.int? (.invalid .byRoundSeqNegative)
  require (0 ≤ seq) (.invalid .byRoundSeqNegative)
  return given

/-- `value in (None, {})`. -/
def isBlank : Json → Bool
  | .null => true
  | .obj [] => true
  | _ => false

/-- `validate_expected_response`, `null` standing for `None`. -/
def validateExpectedResponse (value : Json) : Except (Refusal ExpectedResponseError) Json := do
  if isBlank value then return .null
  require value.isObj .notDict
  let handles ← (← listed (declaredHandles value) .handlesNotList).mapM normHandle
  let kinds ← optionalKey value "kinds" readKinds
  let byRoundSeq ← optionalKey value "by_round_seq" readRoundSeq
  return .obj (("from_actor_handles", .arr handles) :: (kinds ++ byRoundSeq))

/-! ## What is chosen is chosen again -/

/-- A default is `null`, or passes the check of its own key. -/
def PolicyField.Sound (field : PolicyField) : Prop :=
  field.default = .null ∨ field.check field.default = .ok ()

theorem policyFields_sound : ∀ field ∈ policyFields, field.Sound := by
  intro field hfield
  simp only [policyFields, List.mem_cons, List.not_mem_nil, or_false] at hfield
  rcases hfield with rfl | rfl | rfl | rfl | rfl | rfl | rfl | rfl
  · exact Or.inr rfl
  · exact Or.inr rfl
  · exact Or.inr rfl
  · exact Or.inl rfl
  · exact Or.inl rfl
  · exact Or.inr rfl
  · exact Or.inr rfl
  · exact Or.inr rfl

theorem policyFields_nodup : (policyFields.map PolicyField.key).Nodup := by decide

section

variable {value : Json} {field : PolicyField} {entry : String × Json}

theorem choose_of_null (hnone : value.get field.key = .null) :
    field.choose value = .ok (field.key, field.default) := by
  rw [PolicyField.choose, hnone]

theorem choose_of_given (hgiven : value.get field.key ≠ .null) :
    field.choose value = .ok entry ↔
      field.check (value.get field.key) = .ok () ∧ entry = (field.key, value.get field.key) := by
  have hchoose : field.choose value =
      (field.check (value.get field.key)).bind fun _ => .ok (field.key, value.get field.key) := by
    rw [PolicyField.choose]
    split
    · next hnone => exact absurd hnone hgiven
    · rfl
  rw [hchoose]
  cases field.check (value.get field.key) with
  | error => simp [Except.bind]
  | ok => simp [Except.bind, eq_comm]

theorem choose_eq_ok (hchoose : field.choose value = .ok entry) :
    entry.1 = field.key ∧ (entry.2 = field.default ∨ field.check entry.2 = .ok ()) := by
  by_cases hgiven : value.get field.key = .null
  · rw [choose_of_null hgiven, Except.ok.injEq] at hchoose
    rw [← hchoose]
    exact ⟨rfl, Or.inl rfl⟩
  · obtain ⟨hcheck, hentry⟩ := (choose_of_given hgiven).mp hchoose
    rw [hentry]
    exact ⟨rfl, Or.inr hcheck⟩

theorem choose_again {again : Json} (hsound : field.Sound)
    (hchoose : field.choose value = .ok entry) (hagain : again.get field.key = entry.2) :
    field.choose again = .ok entry := by
  obtain ⟨hkey, hvalue⟩ := choose_eq_ok hchoose
  have hentry : entry = (field.key, entry.2) := Prod.ext hkey rfl
  by_cases hgiven : again.get field.key = .null
  · have hnull : entry.2 = .null := hagain.symm.trans hgiven
    have hdefault : field.default = .null := by
      by_cases hasked : value.get field.key = .null
      · rw [choose_of_null hasked, Except.ok.injEq] at hchoose
        rw [← hnull, ← hchoose]
      · obtain ⟨-, hsame⟩ := (choose_of_given hasked).mp hchoose
        rw [hsame] at hnull
        exact absurd hnull hasked
    rw [choose_of_null hgiven, hdefault, hentry, hnull]
  · rw [choose_of_given hgiven, hagain]
    have hpasses : field.check entry.2 = .ok () := by
      rcases hvalue with hdefault | hcheck
      · rcases hsound with hnull | hcheck
        · exact absurd (hagain.trans (hdefault.trans hnull)) hgiven
        · rw [hdefault]
          exact hcheck
      · exact hcheck
    exact ⟨hpasses, hentry⟩

end

variable {base : List (String × Json)}

theorem keys_of_chosen {value : Json} {fields : List PolicyField}
    (hbase : fields.mapM (PolicyField.choose value) = .ok base) :
    base.map Prod.fst = fields.map PolicyField.key := by
  have hall := mapM_eq_ok.1 hbase
  clear hbase
  induction hall with
  | nil => rfl
  | cons hfirst _ ih => rw [List.map_cons, List.map_cons, ih, (choose_eq_ok hfirst).1]

theorem get_obj_of_lookup {fields : List (String × Json)} {key : String} {value : Json}
    (hfound : fields.lookup key = some value) : (Json.obj fields).get key = value := by
  rw [Json.get, Json.get?, hfound]
  rfl

theorem mapM_choose_again {value : Json}
    (hbase : policyFields.mapM (PolicyField.choose value) = .ok base) :
    policyFields.mapM (PolicyField.choose (.obj base)) = .ok base := by
  have hnodup : (base.map Prod.fst).Nodup := by
    rw [keys_of_chosen hbase]
    exact policyFields_nodup
  have hall := mapM_eq_ok.1 hbase
  apply mapM_eq_ok.2
  rw [List.forall₂_iff_zip] at hall ⊢
  refine ⟨hall.1, ?_⟩
  intro field entry hpair
  have hchoose := hall.2 hpair
  have hentry : entry ∈ base := (List.of_mem_zip hpair).2
  have hread : (Json.obj base).get field.key = entry.2 := by
    apply get_obj_of_lookup
    rw [← (choose_eq_ok hchoose).1]
    exact Dict.lookup_of_mem hnodup hentry
  exact choose_again (policyFields_sound field (List.of_mem_zip hpair).1) hchoose hread

theorem mapM_choose_default :
    policyFields.mapM (PolicyField.choose (.obj [])) = .ok defaultPolicy := rfl

theorem exists_request_of_base {value : Json} (hbase : chosenBase value = .ok base) :
    ∃ request, policyFields.mapM (PolicyField.choose request) = .ok base := by
  rw [chosenBase] at hbase
  split at hbase
  · obtain ⟨_, _, hchosen⟩ := bind_eq_ok.1 hbase
    exact ⟨value, hchosen⟩
  · rw [Except.ok.injEq] at hbase
    rw [← hbase]
    exact ⟨.obj [], mapM_choose_default⟩

theorem chosenBase_again {request : Json}
    (hbase : policyFields.mapM (PolicyField.choose request) = .ok base) :
    chosenBase (.obj base) = .ok base := by
  have hfilled : (Json.obj base).truthy = true := by
    have hkeys := keys_of_chosen hbase
    cases base with
    | nil => cases hkeys
    | cons => rfl
  rw [chosenBase, if_pos hfilled]
  exact mapM_choose_again hbase

theorem validateOperationPolicy_eq_ok {value policy : Json} :
    validateOperationPolicy value = .ok policy ↔
      ∃ base, chosenBase value = .ok base ∧ ¬ lacksRatifiers base ∧ policy = .obj base := by
  constructor
  · intro hpolicy
    obtain ⟨base, hbase, hrest⟩ := bind_eq_ok.1 hpolicy
    obtain ⟨_, hratifiers, hpure⟩ := bind_eq_ok.1 hrest
    rw [pure_eq_ok] at hpure
    exact ⟨base, hbase, require_eq_ok.1 hratifiers, hpure.symm⟩
  · intro ⟨base, hbase, hratifiers, hsame⟩
    apply bind_eq_ok.2
    refine ⟨base, hbase, ?_⟩
    apply bind_eq_ok.2
    exact ⟨(), require_eq_ok.2 hratifiers, congrArg Except.ok hsame.symm⟩

theorem validateOperationPolicy_again {value policy : Json}
    (hpolicy : validateOperationPolicy value = .ok policy) :
    validateOperationPolicy policy = .ok policy := by
  obtain ⟨base, hbase, hratifiers, hsame⟩ := validateOperationPolicy_eq_ok.1 hpolicy
  obtain ⟨request, hchosen⟩ := exists_request_of_base hbase
  rw [hsame]
  exact validateOperationPolicy_eq_ok.2 ⟨base, chosenBase_again hchosen, hratifiers, rfl⟩

/-! ## The expected response again -/

theorem normHandle_again {value handle : Json} (hhandle : normHandle value = .ok handle) :
    normHandle handle = .ok handle := by
  obtain ⟨name, hname, hrest⟩ := bind_eq_ok.1 hhandle
  obtain ⟨_, _, hpure⟩ := bind_eq_ok.1 hrest
  rw [pure_eq_ok] at hpure
  have hfilled : withAt name ≠ "" := by
    intro hempty
    have hhead := head?_withAt name
    rw [hempty] at hhead
    cases hhead
  rw [← hpure]
  simp [normHandle, Json.str?, hfilled, withAt_withAt, orRaise, require, bind, Except.bind, pure,
    Except.pure]

theorem replyKind_eq_ok {value kind : Json} (hkind : replyKind value = .ok kind) :
    kind = value := by
  obtain ⟨_, _, hpure⟩ := bind_eq_ok.1 hkind
  rw [pure_eq_ok] at hpure
  exact hpure.symm

theorem mapM_again {f : Json → Except (Refusal ExpectedResponseError) Json}
    (hagain : ∀ value result, f value = .ok result → f result = .ok result)
    {values results : List Json} (hresults : values.mapM f = .ok results) :
    results.mapM f = .ok results := by
  have hall := mapM_eq_ok.1 hresults
  clear hresults
  apply mapM_eq_ok.2
  induction hall with
  | nil => exact .nil
  | cons hfirst _ ih => exact .cons (hagain _ _ hfirst) ih

theorem readKinds_again {given kept : Json} (hkept : readKinds given = .ok kept) :
    kept ≠ .null ∧ readKinds kept = .ok kept := by
  obtain ⟨items, _, hrest⟩ := bind_eq_ok.1 hkept
  obtain ⟨kinds, hkinds, hpure⟩ := bind_eq_ok.1 hrest
  rw [pure_eq_ok] at hpure
  have hagain : kinds.mapM replyKind = .ok kinds := by
    apply mapM_again _ hkinds
    intro value kind hkind
    have hsame := replyKind_eq_ok hkind
    rw [hsame] at hkind ⊢
    exact hkind
  rw [← hpure]
  refine ⟨Json.noConfusion, ?_⟩
  apply bind_eq_ok.2
  refine ⟨kinds, rfl, ?_⟩
  rw [hagain]
  rfl

theorem readRoundSeq_again {given kept : Json} (hkept : readRoundSeq given = .ok kept) :
    kept ≠ .null ∧ readRoundSeq kept = .ok kept := by
  have hsame : given = kept := by
    obtain ⟨_, _, hrest⟩ := bind_eq_ok.1 hkept
    obtain ⟨_, _, hpure⟩ := bind_eq_ok.1 hrest
    rw [pure_eq_ok] at hpure
    exact hpure
  rw [hsame] at hkept
  refine ⟨?_, hkept⟩
  intro hnull
  rw [hnull] at hkept
  cases hkept

section

variable {value : Json} {key : String} {fields : List (String × Json)}
  {read : Json → Except (Refusal ExpectedResponseError) Json}

theorem optionalKey_eq_ok (hfields : optionalKey value key read = .ok fields) :
    fields = [] ∨ ∃ given kept, read given = .ok kept ∧ fields = [(key, kept)] := by
  rw [optionalKey] at hfields
  split at hfields
  · rw [Except.ok.injEq] at hfields
    exact Or.inl hfields.symm
  · obtain ⟨kept, hkept, hpure⟩ := bind_eq_ok.1 hfields
    rw [pure_eq_ok] at hpure
    exact Or.inr ⟨_, kept, hkept, hpure.symm⟩

theorem optionalKey_again {again : Json}
    (hread : ∀ given kept, read given = .ok kept → kept ≠ .null ∧ read kept = .ok kept)
    (hfields : optionalKey value key read = .ok fields)
    (hagain : again.get key = (Json.obj fields).get key) :
    optionalKey again key read = .ok fields := by
  rcases optionalKey_eq_ok hfields with hnone | ⟨given, kept, hkept, hsome⟩
  · have hnull : again.get key = .null := by
      rw [hagain, hnone]
      rfl
    rw [optionalKey, hnull, hnone]
  · obtain ⟨hvalue, hsame⟩ := hread given kept hkept
    have hgiven : again.get key = kept := by
      rw [hagain, hsome, Json.get, Json.get?, List.lookup_cons_self]
      rfl
    rw [optionalKey, hgiven]
    split
    · exact absurd rfl hvalue
    · rw [hsame, hsome]
      rfl

end

theorem get_expected {value : Json} {handles : List Json} {kinds byRoundSeq : List (String × Json)}
    (hkinds : optionalKey value "kinds" readKinds = .ok kinds)
    (hseq : optionalKey value "by_round_seq" readRoundSeq = .ok byRoundSeq) :
    let expected := Json.obj (("from_actor_handles", .arr handles) :: (kinds ++ byRoundSeq))
    declaredHandles expected = .arr handles ∧
      expected.get "kinds" = (Json.obj kinds).get "kinds" ∧
      expected.get "by_round_seq" = (Json.obj byRoundSeq).get "by_round_seq" := by
  intro expected
  have hhandles : expected.get "from_actor_handles" = .arr handles := rfl
  have hothers : expected.get "from" = .null ∧
      expected.get "kinds" = (Json.obj kinds).get "kinds" ∧
      expected.get "by_round_seq" = (Json.obj byRoundSeq).get "by_round_seq" := by
    rcases optionalKey_eq_ok hkinds with rfl | ⟨_, _, _, rfl⟩
    · rcases optionalKey_eq_ok hseq with rfl | ⟨_, _, _, rfl⟩
      · exact ⟨rfl, rfl, rfl⟩
      · exact ⟨rfl, rfl, rfl⟩
    · rcases optionalKey_eq_ok hseq with rfl | ⟨_, _, _, rfl⟩
      · exact ⟨rfl, rfl, rfl⟩
      · exact ⟨rfl, rfl, rfl⟩
  refine ⟨?_, hothers.2⟩
  rw [declaredHandles, hhandles, hothers.1]
  cases handles with
  | nil => rfl
  | cons => rfl

theorem validateExpectedResponse_again {value expected : Json}
    (hexpected : validateExpectedResponse value = .ok expected) :
    validateExpectedResponse expected = .ok expected := by
  rw [validateExpectedResponse] at hexpected
  split at hexpected
  · rw [pure_eq_ok] at hexpected
    rw [← hexpected]
    rfl
  · obtain ⟨_, _, hrest⟩ := bind_eq_ok.1 hexpected
    obtain ⟨items, _, hrest⟩ := bind_eq_ok.1 hrest
    obtain ⟨handles, hhandles, hrest⟩ := bind_eq_ok.1 hrest
    obtain ⟨kinds, hkinds, hrest⟩ := bind_eq_ok.1 hrest
    obtain ⟨byRoundSeq, hseq, hpure⟩ := bind_eq_ok.1 hrest
    rw [pure_eq_ok] at hpure
    have hagain : handles.mapM normHandle = .ok handles :=
      mapM_again (fun _ _ => normHandle_again) hhandles
    obtain ⟨hdeclared, hgetKinds, hgetSeq⟩ := @get_expected value handles kinds byRoundSeq hkinds hseq
    have hkindsAgain := optionalKey_again (fun _ _ => readKinds_again) hkinds hgetKinds
    have hseqAgain := optionalKey_again (fun _ _ => readRoundSeq_again) hseq hgetSeq
    rw [← hpure, validateExpectedResponse, if_neg (by simp [isBlank]), hdeclared]
    simp [listed, hagain, hkindsAgain, hseqAgain, Json.isObj, require, bind, Except.bind, pure,
      Except.pure]

end OpsCure.Contract.Values
