/-
JSON values as the payload columns hold them: the shape a request body has
after decoding, with Python's notion of a falsy value and of key lookup.
-/
import OpsCure.Library.Dict
import OpsCure.Library.Text
import Mathlib.Data.Rat.Defs
import Mathlib.Tactic.Common

namespace OpsCure

/-- A decoded JSON value; an object keeps its keys in insertion order. -/
inductive Json where
  | null
  | bool (value : Bool)
  | int (value : Int)
  | float (value : ℚ)
  | str (value : String)
  | arr (items : List Json)
  | obj (fields : List (String × Json))
deriving Repr

namespace Json

/-- Python's truth value of a decoded JSON value. -/
def truthy : Json → Bool
  | null => false
  | bool value => value
  | int value => value ≠ 0
  | float value => value ≠ 0
  | str value => value ≠ ""
  | arr items => !items.isEmpty
  | obj fields => !fields.isEmpty

/-- `value.get(key)` on an object, `none` standing for a missing key. -/
def get? (key : String) : Json → Option Json
  | obj fields => fields.lookup key
  | _ => none

/-- `value.get(key)` with Python's `None` for a missing key. -/
def get (key : String) (value : Json) : Json :=
  (value.get? key).getD null

/-- `{**base, **extra}`. -/
def mergeFields (base extra : List (String × Json)) : List (String × Json) :=
  Dict.setAll base extra

def isObj : Json → Bool
  | obj _ => true
  | _ => false

def str? : Json → Option String
  | str value => some value
  | _ => none

/-- `isinstance(value, int)`: a Python `bool` is an `int`. -/
def int? : Json → Option Int
  | int value => some value
  | bool value => some (if value then 1 else 0)
  | _ => none

/-- `int(value)`, or `none` where it raises: a float is truncated. -/
def toInt? : Json → Option Int
  | int value => some value
  | bool value => some (if value then 1 else 0)
  | float value => some (value.num.tdiv value.den)
  | str text => Text.parseInt text
  | _ => none

end Json

end OpsCure
