/-
The cap on how deep a free-form JSON field may nest (`security/bounds.py`, `walk_json_depth`).  The
walk compares the level it stands on with the cap, so it sees a level only where a value stands.
-/
import OpsCure.Library.Fallible
import OpsCure.Library.JsonTree

namespace OpsCure.Bounds

open Fallible Json

/-! ## The walk -/

def depthError (maxDepth : Int) : String :=
  s!"json nesting depth > {maxDepth} (free-form fields must stay under the cap to keep parse cost bounded)"

mutual

/-- `walk_json_depth`, at the level `_current`. -/
def walkJsonDepthFrom (maxDepth : Int) (current : Int) : Json → Except String Unit
  | .arr items => do
      require (¬ maxDepth < current) (depthError maxDepth)
      walkItems maxDepth (current + 1) items
  | .obj fields => do
      require (¬ maxDepth < current) (depthError maxDepth)
      walkFields maxDepth (current + 1) fields
  | _ => require (¬ maxDepth < current) (depthError maxDepth)

def walkItems (maxDepth : Int) (current : Int) : List Json → Except String Unit
  | [] => .ok ()
  | item :: items => do
      walkJsonDepthFrom maxDepth current item
      walkItems maxDepth current items

def walkFields (maxDepth : Int) (current : Int) : List (String × Json) → Except String Unit
  | [] => .ok ()
  | field :: fields => do
      walkField maxDepth current field
      walkFields maxDepth current fields

def walkField (maxDepth : Int) (current : Int) : String × Json → Except String Unit
  | (_, value) => walkJsonDepthFrom maxDepth current value

end

variable {maxDepth current : Int}

end OpsCure.Bounds
