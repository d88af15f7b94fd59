/-!
The files that settings are looked for in.

A file is found by a path from the directory that the service runs in. Each step of a path leads on from a directory:
into it, to the directory around it, or nowhere.
-/
namespace AttemptLog

/-- texts by their places, which are names from the outermost directory on -/
structure FileTree where
  files : List (List String × String)
  /-- the place of the directory that the service runs in -/
  home : List String

namespace FileTree

def isDirectory (tree : FileTree) (place : List String) : Bool :=
  place.isPrefixOf tree.home || tree.files.any fun file => place.isPrefixOf file.1 && place != file.1

/-- the place that steps lead to; nothing is known about what lies around the outermost directory -/
def follow? (tree : FileTree) : List String → List String → Option (List String)
  | place, [] => some place
  | place, step :: rest =>
    if !tree.isDirectory place then none
    else if step = "" ∨ step = "." then tree.follow? place rest
    else if step = ".." then (if place = [] then none else tree.follow? place.dropLast rest)
    else tree.follow? (place ++ [step]) rest

/-- the text of the file that steps from the directory of the service lead to -/
def text? (tree : FileTree) (steps : List String) : Option String :=
  (tree.follow? tree.home steps).bind fun place => tree.files.lookup place

/-- the text of the file of this name in the nearest directory, from a place outwards; `up` is how far to go at most -/
def nearestFrom? (tree : FileTree) (name : String) : Nat → List String → Option String
  | 0, place => tree.files.lookup (place ++ [name])
  | up + 1, place => tree.files.lookup (place ++ [name]) <|> tree.nearestFrom? name up place.dropLast

/-- the text of the file of this name in the directory of the service, or else in the nearest one around it -/
def nearest? (tree : FileTree) (name : String) : Option String := tree.nearestFrom? name tree.home.length tree.home

/-- steps without those at the end that do not lead on -/
def trimSteps (steps : List String) : List String :=
  (steps.reverse.dropWhile fun step => step == "" || step == ".").reverse

/-- the text of the file that steps lead to, which must have this ending, or else of the file whose name has the ending
added -/
def withEnding? (tree : FileTree) (ending : String) (steps : List String) : Option String :=
  match (trimSteps steps).getLast? with
  | none => none
  | some name =>
    match tree.text? steps with
    | some text => if name.endsWith ending ∧ name ≠ ending then some text else none
    | none => if name = ".." then none else tree.text? ((trimSteps steps).dropLast ++ [name ++ ending])

end FileTree

end AttemptLog
