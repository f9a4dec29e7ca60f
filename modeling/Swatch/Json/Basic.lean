import Swatch.Binary64.Decimal
import Swatch.Entries
import Swatch.Text.Quoted

/-!
# JSON values

The values that options are given as. An object keeps its members in order, and a whole number is
kept apart from a binary64 number even when they are equal.
-/

namespace Swatch

/-- A JSON value. -/
inductive Json where
  | null
  | bool (value : Bool)
  | int (value : Int)
  | real (value : Binary64)
  | string (value : String)
  | array (items : List Json)
  | object (members : List (String × Json))
  deriving Repr, Inhabited

namespace Json

/-- What a message calls the kind of a value. -/
def kindName : Json → String
  | null => "NoneType"
  | bool _ => "bool"
  | int _ => "int"
  | real _ => "float"
  | string _ => "str"
  | array _ => "list"
  | object _ => "dict"

/-- A value counts as true unless it is null, false, zero or empty. -/
def truthy : Json → Bool
  | null => false
  | bool b => b
  | int n => n != 0
  | real x => !x.same 0
  | string s => s != ""
  | array items => !items.isEmpty
  | object members => !members.isEmpty

/-- A value that is a text. -/
def string? : Json → Option String
  | string s => some s
  | _ => none

mutual

/-- A value inside another one as messages show it. -/
def nested : Json → String
  | null => "None"
  | bool true => "True"
  | bool false => "False"
  | int n => toString n
  | real x => x.text
  | string s => Text.quoted s
  | array items => "[" ++ ", ".intercalate (nestedItems items) ++ "]"
  | object members => "\x7b" ++ ", ".intercalate (nestedMembers members) ++ "\x7d"

/-- The items of an array as messages show them. -/
def nestedItems : List Json → List String
  | [] => []
  | item :: items => nested item :: nestedItems items

/-- The members of an object as messages show them. -/
def nestedMembers : List (String × Json) → List String
  | [] => []
  | (name, value) :: members =>
    (Text.quoted name ++ ": " ++ nested value) :: nestedMembers members

end

/-- A value as messages show it: a text as it is, anything else as inside another value. -/
def shown : Json → String
  | string s => s
  | value => nested value

end Json

/-- The members of an object once those with one name are merged: the first place, the last
value. -/
def Json.mergeMembers (members : List (String × Json)) : List (String × Json) :=
  Entries.ofList members

end Swatch
