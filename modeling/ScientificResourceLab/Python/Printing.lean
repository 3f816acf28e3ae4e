import ScientificResourceLab.Python.Exceptions
import ScientificResourceLab.Python.Json

/-!
# Values in messages and conditions

`repr` and `str` of the values that `json.loads` returns, and of lists and
tuples of strings, as they stand inside the messages of the source, and
`bool` of a value as a condition takes it.
-/

namespace ScientificResourceLab.Python

def joinCommaBlank : List Text → Text
  | [] => []
  | [item] => item
  | item :: rest => item ++ text ", " ++ joinCommaBlank rest

/-- `repr` of a list of strings. -/
def quotedList (values : List Text) : Text :=
  text "[" ++ joinCommaBlank (values.map quoted) ++ text "]"

/-- `repr` of a tuple of at least two strings. -/
def quotedTuple (values : List Text) : Text :=
  text "(" ++ joinCommaBlank (values.map quoted) ++ text ")"

/-- `repr` of a string or `None`. -/
def quotedOption : Option Text → Text
  | none => text "None"
  | some value => quoted value

/-- `float.__repr__`, also on doubles that are not finite. -/
def floatText (value : Float64) : Text :=
  if value.isFinite then value.repr
  else if value = Float64.infinity false then text "inf"
  else if value = Float64.infinity true then text "-inf"
  else text "nan"

mutual

/-- `repr` of a decoded value. -/
def reprJson : Json → Text
  | .null => text "None"
  | .bool true => text "True"
  | .bool false => text "False"
  | .int value => intText value
  | .float value => floatText value
  | .str value => quoted value
  | .arr items =>
      text "[" ++ joinCommaBlank (reprItems items) ++ text "]"
  | .obj members =>
      text "\x7b" ++ joinCommaBlank (reprMembers members) ++ text "\x7d"

def reprItems : List Json → List Text
  | [] => []
  | item :: rest => reprJson item :: reprItems rest

def reprMembers : List (Text × Json) → List Text
  | [] => []
  | (key, value) :: rest =>
      (quoted key ++ text ": " ++ reprJson value) :: reprMembers rest

end

/-- `bool` of a decoded value. -/
def isTruthy : Json → Bool
  | .null => false
  | .bool value => value
  | .int value => value ≠ 0
  | .float value => !value.isZero
  | .str value => !value.isEmpty
  | .arr items => !items.isEmpty
  | .obj members => !members.isEmpty

/-- `dict.get` with `None` for an absent key. -/
def getOrNone (key : Text) (members : List (Text × Json)) : Json :=
  (Json.lookup key members).getD .null

/-- `str` of a decoded value. -/
def strJson : Json → Text
  | .str value => value
  | other => reprJson other

end ScientificResourceLab.Python
