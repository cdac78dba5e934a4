/-
A JSON value as a tree: the values directly inside a container, those a number of levels further
down, and how deep the containers of a value nest.
-/
import OpsCure.Library.Json

namespace OpsCure.Json

/-! ## Children -/

def isContainer : Json → Bool
  | arr _ => true
  | obj _ => true
  | _ => false

/-- The items of an array, the values of an object. -/
def children : Json → List Json
  | arr items => items
  | obj fields => fields.map Prod.snd
  | _ => []

variable {value : Json} {level : Nat}

mutual

/-- How deep the containers of a value nest; a container without items counts one level. -/
def nesting : Json → Nat
  | arr items => nestingItems items + 1
  | obj fields => nestingFields fields + 1
  | _ => 0

def nestingItems : List Json → Nat
  | [] => 0
  | item :: items => max (nesting item) (nestingItems items)

def nestingFields : List (String × Json) → Nat
  | [] => 0
  | field :: fields => max (nestingField field) (nestingFields fields)

def nestingField : String × Json → Nat
  | (_, value) => nesting value

end

example : nesting (arr []) = 1 ∧ nesting (obj [("a", arr [int 1])]) = 2 := by decide

end OpsCure.Json
