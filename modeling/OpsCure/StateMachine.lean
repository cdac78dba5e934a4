/-
The operation state machine (`kernel/v2/state_machine.py`): which moves of an
operation's state are legal short of closing, and which closes are.
-/
import OpsCure.Contract

namespace OpsCure.StateMachine

open Contract

inductive StateMachineError where
  | unknownFromState (kind : Kind) (state : OpState)
  | notAllowed (kind : Kind) (fromState toState : OpState) (valid : List OpState)
  | alreadyClosed
  | generalNeverCloses
  | resolutionNotAllowed (kind : Kind) (resolution : String)
deriving DecidableEq, Repr

def StateMachineError.text : StateMachineError → String
  | unknownFromState kind state =>
      s!"unknown from_state '{state.text}' for kind={kind.text}"
  | notAllowed kind fromState toState valid =>
      let next := if valid = [] then ["<none>"] else valid.map OpState.text
      s!"{kind.text}: {fromState.text} -> {toState.text} not allowed; valid next states: {Text.renderSorted next}"
  | alreadyClosed => "operation already closed"
  | generalNeverCloses => "general operations cannot be closed"
  | resolutionNotAllowed kind resolution =>
      let valid := allowedResolutions kind
      let shown := if valid = [] then "<none>" else Text.renderSorted valid
      s!"resolution '{resolution}' not allowed for kind={kind.text}; valid: {shown}"

/-- `assert_transition`. -/
def assertTransition (kind : Kind) (fromState toState : OpState) :
    Except StateMachineError Unit :=
  match allowedTransitions kind fromState with
  | none => .error (.unknownFromState kind fromState)
  | some targets =>
      if toState ∈ targets then .ok ()
      else .error (.notAllowed kind fromState toState targets)

/-- `assert_close`; `system` lets `abandoned` through for every kind. -/
def assertClose (kind : Kind) (fromState : OpState) (resolution : String)
    (system : Bool) : Except StateMachineError Unit :=
  if fromState = .closed then .error .alreadyClosed
  else if kind = .general then .error .generalNeverCloses
  else if system ∧ resolution = "abandoned" then .ok ()
  else if resolution ∈ allowedResolutions kind then .ok ()
  else .error (.resolutionNotAllowed kind resolution)

theorem assertTransition_eq_ok_iff {kind : Kind} {fromState toState : OpState}
    {done : Unit} :
    assertTransition kind fromState toState = .ok done ↔
      ∃ targets, allowedTransitions kind fromState = some targets ∧ toState ∈ targets := by
  unfold assertTransition
  cases allowedTransitions kind fromState with
  | none => simp
  | some targets => by_cases hmem : toState ∈ targets <;> simp [hmem]

/-- A close is legal exactly from an open operation of a closing kind, under
one of its resolutions or the system's `abandoned`. -/
theorem assertClose_eq_ok_iff {kind : Kind} {fromState : OpState}
    {resolution : String} {system : Bool} {done : Unit} :
    assertClose kind fromState resolution system = .ok done ↔
      fromState ≠ .closed ∧ kind ≠ .general ∧
        (system ∧ resolution = "abandoned" ∨ resolution ∈ allowedResolutions kind) := by
  unfold assertClose
  split_ifs with hclosed hgeneral hsystem hallowed <;> simp_all

end OpsCure.StateMachine
