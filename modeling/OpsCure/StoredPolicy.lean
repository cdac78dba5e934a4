/-
The policy of an operation where it is stored (`kernel/v2/repository.py`, `set_operation_policy` and
`operation_policy`): a key of the JSON text in the row's metadata column, validated again on every
read.
-/
import OpsCure.Library.JsonReading
import OpsCure.Library.JsonTree
import OpsCure.PolicyProjection

namespace OpsCure.Contract.Values

open Fallible JsonText

/-! ## The row -/

structure OperationRow where
  metadataJson : String
deriving Repr

inductive ReadError where
  /-- `dict(…)` of a column that holds no object. -/
  | notMapping
  | refused (refusal : Refusal PolicyError)
deriving Repr

section

variable (floats : FloatCodec)

/-- `_dumps`. -/
def dumpsText (value : Json) : String :=
  String.ofList (dumps false floats.toFloatText value)

/-- `_loads(value, default)`. -/
def loadsText (text : String) (default : Json) : Json :=
  if text = "" then default else (loads floats text.toList).getD default

/-- `dict(value)`.  The column is written as an object only; what Python's `dict` makes of pairs in
a list is left out. -/
def asDict : Json → Except ReadError (List (String × Json))
  | .obj fields => .ok fields
  | .arr [] => .ok []
  | .str "" => .ok []
  | _ => .error .notMapping

def operationMetadata (row : OperationRow) : Except ReadError (List (String × Json)) :=
  asDict (loadsText floats row.metadataJson (.obj []))

/-- `operation_policy`. -/
def operationPolicy (row : OperationRow) : Except ReadError Json := do
  let metadata ← operationMetadata floats row
  (validateOperationPolicy ((Json.obj metadata).get "policy")).mapError .refused

/-- `set_operation_policy`, on the row it has found. -/
def setOperationPolicy (row : OperationRow) (policy : Json) : Except ReadError OperationRow := do
  let metadata ← operationMetadata floats row
  return { row with metadataJson := dumpsText floats (.obj (Dict.set metadata "policy" policy)) }

/-- `insert_operation`, as far as the metadata go. -/
def insertOperation (metadata : List (String × Json)) : OperationRow where
  metadataJson := dumpsText floats (.obj metadata)

end

/-! ## What is stored is well formed -/

theorem wellFormed_nil : WellFormed (.obj []) := ⟨List.nodup_nil, trivial⟩

theorem wellFormed_of_check {field : PolicyField} (hfield : field ∈ policyFields) {given : Json}
    (hcheck : field.check given = .ok ()) : WellFormed given := by
  have hscalar : given.isContainer = false → WellFormed given := by
    intro hnone
    cases given with
    | arr => cases hnone
    | obj => cases hnone
    | _ => trivial
  apply hscalar
  simp only [policyFields, List.mem_cons, List.not_mem_nil, or_false] at hfield
  cases given with
  | arr => rcases hfield with rfl | rfl | rfl | rfl | rfl | rfl | rfl | rfl <;> cases hcheck
  | obj => rcases hfield with rfl | rfl | rfl | rfl | rfl | rfl | rfl | rfl <;> cases hcheck
  | _ => rfl

theorem wellFormed_default : ∀ field ∈ policyFields, WellFormed field.default := by
  intro field hfield
  simp only [policyFields, List.mem_cons, List.not_mem_nil, or_false] at hfield
  rcases hfield with rfl | rfl | rfl | rfl | rfl | rfl | rfl | rfl <;> trivial

theorem wellFormed_policy {value policy : Json}
    (hpolicy : validateOperationPolicy value = .ok policy) : WellFormed policy := by
  obtain ⟨base, hbase, -, hsame⟩ := validateOperationPolicy_eq_ok.1 hpolicy
  obtain ⟨request, hchosen⟩ := exists_request_of_base hbase
  have hkeys := keys_of_chosen hchosen
  rw [hsame, WellFormed, wellFormedFields_iff, hkeys]
  refine ⟨policyFields_nodup, ?_⟩
  intro entry hentry
  obtain ⟨field, hfield, hchoose⟩ := exists_of_mem_mapM hchosen hentry
  rcases (choose_eq_ok hchoose).2 with hdefault | hcheck
  · rw [hdefault]
    exact wellFormed_default field hfield
  · exact wellFormed_of_check hfield hcheck

section

variable {floats : FloatCodec} {row stored : OperationRow} {metadata : List (String × Json)}

theorem loadsText_dumpsText {fields : List (String × Json)} (hwell : WellFormed (.obj fields))
    (default : Json) : loadsText floats (dumpsText floats (.obj fields)) default = .obj fields := by
  have hfilled : dumpsText floats (.obj fields) ≠ "" := by
    intro hempty
    have hchars := congrArg String.toList hempty
    rw [dumpsText, String.toList_ofList, dumps] at hchars
    cases hchars
  rw [loadsText, if_neg hfilled, dumpsText, String.toList_ofList, loads_dumps hwell]
  rfl

theorem wellFormed_metadata (hmetadata : operationMetadata floats row = .ok metadata) :
    WellFormed (.obj metadata) := by
  have hread : WellFormed (loadsText floats row.metadataJson (.obj [])) := by
    rw [loadsText]
    split
    · exact wellFormed_nil
    · cases hloads : loads floats row.metadataJson.toList with
      | none => exact wellFormed_nil
      | some => exact wellFormed_loads hloads
  rw [operationMetadata] at hmetadata
  unfold asDict at hmetadata
  split at hmetadata
  · next fields hfields =>
      cases hmetadata
      rw [hfields] at hread
      exact hread
  · cases hmetadata
    exact wellFormed_nil
  · cases hmetadata
    exact wellFormed_nil
  · cases hmetadata

theorem wellFormed_set {policy : Json} (hmetadata : WellFormed (.obj metadata))
    (hpolicy : WellFormed policy) : WellFormed (.obj (Dict.set metadata "policy" policy)) := by
  rw [WellFormed, wellFormedFields_iff] at hmetadata ⊢
  refine ⟨Dict.nodup_keys_set hmetadata.1 _ _, ?_⟩
  intro field hfield
  rcases Dict.mem_set hfield with hstood | hwritten
  · exact hmetadata.2 field hstood
  · rw [hwritten]
    exact hpolicy

/-! ## Reading back -/

theorem operationPolicy_of_set {value policy : Json}
    (hpolicy : validateOperationPolicy value = .ok policy)
    (hstored : setOperationPolicy floats row policy = .ok stored) :
    operationPolicy floats stored = .ok policy := by
  obtain ⟨metadata, hmetadata, hpure⟩ := bind_eq_ok.1 hstored
  rw [pure_eq_ok] at hpure
  have hwell := wellFormed_set (wellFormed_metadata hmetadata) (wellFormed_policy hpolicy)
  have hread : operationMetadata floats stored = .ok (Dict.set metadata "policy" policy) := by
    rw [operationMetadata, ← hpure]
    exact congrArg asDict (loadsText_dumpsText hwell _)
  have hkey : (Json.obj (Dict.set metadata "policy" policy)).get "policy" = policy := by
    apply get_obj_of_lookup
    rw [Dict.lookup_set, if_pos rfl]
  rw [operationPolicy, hread]
  change (validateOperationPolicy _).mapError _ = _
  rw [hkey, validateOperationPolicy_again hpolicy]
  rfl

theorem setOperationPolicy_insert (hwell : WellFormed (.obj metadata)) (policy : Json) :
    setOperationPolicy floats (insertOperation floats metadata) policy =
      .ok (insertOperation floats (Dict.set metadata "policy" policy)) := by
  have hread : operationMetadata floats (insertOperation floats metadata) = .ok metadata :=
    congrArg asDict (loadsText_dumpsText hwell _)
  rw [setOperationPolicy, hread]
  rfl

end

/-- The validators return what they accept again as it is, and a validated policy is read back from
whatever row it is stored in. -/
theorem validation_is_projection (floats : FloatCodec) :
    (∀ value policy, validateOperationPolicy value = .ok policy →
      validateOperationPolicy policy = .ok policy) ∧
    (∀ value expected, validateExpectedResponse value = .ok expected →
      validateExpectedResponse expected = .ok expected) ∧
    ∀ row stored value policy, validateOperationPolicy value = .ok policy →
      setOperationPolicy floats row policy = .ok stored →
        operationPolicy floats stored = .ok policy :=
  ⟨fun _ _ => validateOperationPolicy_again, fun _ _ => validateExpectedResponse_again,
    fun _ _ _ _ => operationPolicy_of_set⟩

def quorumOfTwo : Json :=
  .obj [("close_policy", .str "quorum"), ("join_policy", .str "self_or_invite"),
    ("context_compaction", .str "none"), ("max_rounds", .null), ("min_ratifiers", .int 2),
    ("bot_open", .bool true), ("bind_remote_task", .bool true), ("requires_artifact", .bool false)]

theorem quorum_of_two_reads_back :
    operationPolicy fractions (insertOperation fractions [("policy", quorumOfTwo)]) =
      .ok quorumOfTwo :=
  (validation_is_projection fractions).2.2 (insertOperation fractions []) _
    (.obj [("min_ratifiers", .int 2), ("close_policy", .str "quorum")]) quorumOfTwo rfl
    (setOperationPolicy_insert wellFormed_nil quorumOfTwo)

end OpsCure.Contract.Values
