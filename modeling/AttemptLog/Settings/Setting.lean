import AttemptLog.Double.Shortest
import AttemptLog.Text.Lowercase
/-!
Trees of settings.

A setting is a text, a number, a truth value or a table of settings; of an array only that it is there is known, since
no setting that is asked for lies in one. Settings are addressed by paths of names, in which places of arrays may occur.
Setting a path makes tables and arrays on the way, also in place of settings that are none, and a table that is set is
merged into the table that is there. An array becomes as long as the place asks for; that there is memory for it is
taken for granted.
-/
namespace AttemptLog

/-- a setting, or a table of settings in the order in which they were made -/
inductive Setting where
  | text (value : String)
  | integer (value : Int)
  | fraction (value : Double)
  | truth (value : Bool)
  | array
  | table (members : List (String × Setting))
  deriving Inhabited

namespace Setting

def members : Setting → List (String × Setting)
  | .table members => members
  | _ => []

/-- the members after putting one in its place, or at the end -/
def putMember (name : String) (value : Setting) : List (String × Setting) → List (String × Setting)
  | [] => [(name, value)]
  | entry :: rest => if entry.1 = name then (name, value) :: rest else entry :: putMember name value rest

def member? (name : String) (setting : Setting) : Option Setting :=
  (setting.members.find? fun entry => entry.1 == name).map (·.2)

mutual

def merge (old : Option Setting) : Setting → Setting
  | .table incoming => .table (mergeMembers ((old.map members).getD []) incoming)
  | .text value => .text value
  | .integer value => .integer value
  | .fraction value => .fraction value
  | .truth value => .truth value
  | .array => .array

def mergeMembers (olds : List (String × Setting)) : List (String × Setting) → List (String × Setting)
  | [] => olds
  | (name, value) :: rest =>
    mergeMembers (putMember name (merge ((olds.find? fun entry => entry.1 == name).map (·.2)) value) olds) rest

end

/-- the tree after setting a path of names -/
def set : List String → Setting → Option Setting → Setting
  | [], value, old => merge old value
  | name :: path, value, old =>
    let olds := (old.map members).getD []
    .table (putMember name (set path value ((olds.find? fun entry => entry.1 == name).map (·.2))) olds)

def at? : List String → Setting → Option Setting
  | [], setting => some setting
  | name :: path, setting => (setting.member? name).bind (at? path)

def isPathChar (c : Char) : Bool := c.isAlphanum || c == '_' || c == '-'

/-- is this a blank that may stand around the number of a place -/
def isPlaceBlank (c : Char) : Bool := c == ' ' || c == '\t'

/-- what follows the number of a place in an array and its closing bracket; places may be counted from the end, and fit
into sixty-four bits -/
def afterPlace? (chars : List Char) : Option (List Char) :=
  let chars := chars.dropWhile isPlaceBlank
  let isNegative := chars.head? == some '-'
  let chars := if isNegative then chars.tail else chars
  let digits := chars.takeWhile Char.isDigit
  match (chars.dropWhile Char.isDigit).dropWhile isPlaceBlank with
  | ']' :: rest =>
    if digits ≠ [] ∧ Text.value digits < Nat.pow 2 63 + (if isNegative then 1 else 0) then some rest else none
  | _ => none

/-- the names on a path after its first one, up to the first place in an array, and whether there is such a place; the
length of the text bounds their number -/
def readPath? : Nat → List Char → Option (List String × Bool)
  | _, [] => some ([], false)
  | 0, _ => none
  | fuel + 1, '[' :: chars => (afterPlace? chars).bind fun rest => (readPath? fuel rest).map fun _ => ([], true)
  | fuel + 1, '.' :: chars =>
    if (chars.takeWhile isPathChar).isEmpty then none
    else
      (readPath? fuel (chars.dropWhile isPathChar)).map fun (names, hasPlace) =>
        (String.ofList (chars.takeWhile isPathChar) :: names, hasPlace)
  | _, _ => none

/-- the tree after setting what a name stands for: a path with points and places, of which an array takes all that it
leads to, or a name of another form by itself -/
def setNamed (tree : Setting) (name : String) (value : Setting) : Setting :=
  match readPath? (name.length + 1) ('.' :: name.toList) with
  | some (names, hasPlace) => set names (if hasPlace then .array else value) (some tree)
  | none => set [name] value (some tree)

/-- the tree after setting what names stand for, one after another -/
def addAll (members : List (String × Setting)) (tree : Setting) : Setting :=
  members.foldl (fun tree member => tree.setNamed member.1 member.2) tree

/-- the text of a setting, if it has one -/
def text? : Setting → Option String
  | .text value => some value
  | .integer value => some (toString value)
  | .fraction value => some value.render
  | .truth value => some (if value then "true" else "false")
  | .array | .table _ => none

/-- the truth value that a word stands for, in any letter case -/
def truthOfWord? (word : String) : Option Bool :=
  let lower := Text.lowercase word
  if lower ∈ ["1", "true", "on", "yes"] then some true
  else if lower ∈ ["0", "false", "off", "no"] then some false
  else none

def truth? : Setting → Option Bool
  | .truth value => some value
  | .integer value => some (value != 0)
  | .fraction value => some !value.isZero
  | .text value => truthOfWord? value
  | .array | .table _ => none

end Setting

end AttemptLog
