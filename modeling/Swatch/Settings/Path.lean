import Swatch.Text.Quoted

/-!
# Paths

An absolute path is the list of names from the root on. A path text is found from a place: it is
relative to the directory one is in, and may start with the home of a user. Steps up cancel the
name before them, whether or not that name exists.
-/

namespace Swatch.Settings

/-- An absolute path. -/
structure Path where
  /-- The names from the root on. -/
  names : List String
  deriving DecidableEq, Repr

/-- Where paths are found from. -/
structure Place where
  /-- The directory one is in. -/
  here : Path
  /-- One's own home. -/
  home : String
  /-- The homes of users. -/
  homes : List (String × String)

/-- The steps of a path text, without the empty ones and those that stay. -/
def steps (text : String) : List String :=
  ((text.toList.splitOnP (· == '/')).map String.ofList).filter fun step =>
    step != "" && step != "."

/-- A path text that starts at the root. -/
def startsAtRoot (text : String) : Bool :=
  text.toList.head? == some '/'

namespace Path

/-- The path after one more step. -/
def step (path : Path) (name : String) : Path :=
  if name = ".." then ⟨path.names.dropLast⟩ else ⟨path.names ++ [name]⟩

/-- The root. -/
def root : Path := ⟨[]⟩

/-- Where the first step of a text starts. -/
def start (here : Path) (text : String) : Path :=
  if startsAtRoot text then root else here

/-- The path that a text leads to. -/
def resolve (here : Path) (text : String) : Path :=
  (steps text).foldl step (start here text)

/-- A path as text. -/
def shown (path : Path) : String :=
  "/" ++ "/".intercalate path.names

/-- The last name of a path; the root has none. -/
def name (path : Path) : String :=
  path.names.getLast?.getD ""

/-- The paths above a path. -/
def above (path : Path) : List Path :=
  (List.range path.names.length).map fun count => ⟨path.names.take count⟩

end Path

namespace Place

/-- The home that the first step of a path text names: one's own after a tilde, or that of a
user. An empty home is the root. -/
def homeOf? (place : Place) (step : List Char) : Option String :=
  match step with
  | ['~'] => some (if place.home = "" then "/" else place.home)
  | '~' :: user => place.homes.lookup (String.ofList user)
  | _ => none

/-- The path that a text leads to. A text whose first step is a tilde, perhaps with a user, starts
at a home; there is no such path if the user has none. -/
def locate? (place : Place) (text : String) : Option Path :=
  match steps text with
  | first :: rest =>
    if first.toList.head? = some '~' ∧ ¬startsAtRoot text then
      (place.homeOf? first.toList).map fun home =>
        place.here.resolve ("/".intercalate (home :: rest))
    else some (place.here.resolve text)
  | [] => some (place.here.resolve text)

/-- The path that the setting of a path leads to. A tilde counts only as the very first character,
and a user without a home is taken for a name. -/
def locateSetting (place : Place) (text : String) : Path :=
  let first := text.toList.takeWhile (· != '/')
  match place.homeOf? first with
  | some home => place.here.resolve (home ++ String.ofList (text.toList.drop first.length))
  | none => place.here.resolve text

end Place

end Swatch.Settings
