import AttemptLog.Settings.Setting
/-!
Tables of a settings file while it is being read.

A table knows how it came to be, since that decides what may still be added to it: a header begins a table that is not
there, or one that is known only from the header of a table below it. Names with points lead through tables that have no
header of their own and through the last tables of arrays; a table that they give a value to is theirs from then on.
-/
namespace AttemptLog.Toml

/-- how a table came to be -/
inductive Origin where
  /-- its header, or the file itself -/
  | header
  /-- the header of a table below it -/
  | path
  /-- a name with points -/
  | dotted
  deriving DecidableEq

/-- a table while a file is being read -/
inductive Node where
  | value (value : Setting)
  | table (origin : Origin) (members : List (String × Node))
  /-- tables in an array, the last one in front -/
  | tables (all : List (List (String × Node)))
  deriving Inhabited

abbrev Members := List (String × Node)

def Members.find? (name : String) (members : Members) : Option Node :=
  (List.find? (fun entry => entry.1 == name) members).map (·.2)

def Members.put (name : String) (node : Node) : Members → Members
  | [] => [(name, node)]
  | entry :: rest => if entry.1 = name then (name, node) :: rest else entry :: Members.put name node rest

/-- changes the table at a path of headers; tables on the way are made -/
def Members.under (change : Members → Option Members) : List String → Members → Option Members
  | [], members => change members
  | name :: path, members =>
    match members.find? name with
    | none => (Members.under change path []).map fun inner => members.put name (.table .path inner)
    | some (.table origin inner) =>
      (Members.under change path inner).map fun inner => members.put name (.table origin inner)
    | some (.tables (last :: others)) =>
      (Members.under change path last).map fun last => members.put name (.tables (last :: others))
    | some (.tables []) => none
    | some (.value _) => none

/-- gives a value to a name with points -/
def Members.assign (value : Setting) : List String → Members → Option Members
  | [], _ => none
  | [name], members => if (members.find? name).isSome then none else some (members.put name (.value value))
  | name :: next :: path, members =>
    match members.find? name with
    | none => (Members.assign value (next :: path) []).map fun inner => members.put name (.table .dotted inner)
    | some (.table .header _) => none
    | some (.table origin inner) =>
      (Members.assign value (next :: path) inner).map fun inner =>
        members.put name (.table (if path.isEmpty then .dotted else origin) inner)
    | some (.tables (last :: others)) =>
      if path.isEmpty then none
      else (Members.assign value (next :: path) last).map fun last => members.put name (.tables (last :: others))
    | some (.tables []) => none
    | some (.value _) => none

/-- begins a table; one that is there must have come from the header of a table below it -/
def Members.beginTable (name : String) (members : Members) : Option Members :=
  match members.find? name with
  | none => some (members.put name (.table .header []))
  | some (.table .path inner) => some (members.put name (.table .header inner))
  | some _ => none

def Members.beginItem (name : String) (members : Members) : Option Members :=
  match members.find? name with
  | none => some (members.put name (.tables [[]]))
  | some (.tables all) => some (members.put name (.tables ([] :: all)))
  | some _ => none

mutual

def Node.setting : Node → Setting
  | .value value => value
  | .table _ members => .table (memberSettings members)
  | .tables _ => .array

def memberSettings : List (String × Node) → List (String × Setting)
  | [] => []
  | (name, node) :: rest => (name, node.setting) :: memberSettings rest

end

end AttemptLog.Toml
