import AttemptLog.Settings.Toml.Moment
import AttemptLog.Settings.Toml.Number
import AttemptLog.Settings.Toml.Table
import AttemptLog.Settings.Toml.Text
/-!
Settings files in TOML.

A file is a list of lines: headers of tables and of tables in arrays, and names with values. The same table must not be
made twice, and no name may be given two values. Times are settings that are texts. Arrays and inline tables may run
over several lines and nest at most eighty deep.
-/
namespace AttemptLog.Toml

/-! ### Values -/

def isAtomChar (c : Char) : Bool := c.isAlphanum || c ∈ ['+', '-', '_', '.', ':']

/-- reads a number or a time; a blank belongs to it only between a day and a time -/
def readAtom : Reader Setting := do
  let atom ← spanOf isAtomChar
  let rest ← get
  let atom ← match rest with
    | ' ' :: c :: _ =>
      if isDay atom && c.isDigit then do
        advance 1
        let time ← spanOf isAtomChar
        pure (atom ++ ' ' :: time)
      else pure atom
    | _ => pure atom
  match (moment? atom).map Setting.text <|> number? atom with
  | some setting => pure setting
  | none => refuse

def readItems (item : Reader Setting) : Nat → Reader Setting
  | 0 => refuse
  | fuel + 1 => do
    skipVoid
    if ← skip "]" then pure .array
    else
      let _ ← item
      skipVoid
      if ← skip "," then readItems item fuel
      else
        expect "]"
        pure .array

/-- reads a name with points and its value; `gap` reads what may stand around the sign between them -/
def readPair (gap : Reader Unit) (value : Reader Setting) : Reader (List String × Setting) := do
  let path ← readPath
  gap
  expect "="
  gap
  return (path, ← value)

/-- reads the members of an inline table after its bracket or after a comma -/
def readInline (value : Reader Setting) : Nat → Members → Reader Setting
  | 0, _ => refuse
  | fuel + 1, members => do
    skipVoid
    if ← skip "\x7d" then pure (.table (memberSettings members))
    else
      let (path, setting) ← readPair skipVoid value
      match members.assign setting path with
      | none => refuse
      | some members => do
        skipVoid
        if ← skip "," then readInline value fuel members
        else
          expect "\x7d"
          pure (.table (memberSettings members))

/-- reads a value that has at most this many brackets around another -/
def readValue : Nat → Reader Setting
  | 0 => do
    match ← peek with
    | some '[' => refuse
    | some '\x7b' => refuse
    | _ => readScalar
  | depth + 1 => do
    match ← peek with
    | some '[' => do
      advance 1
      fueled (readItems (readValue depth))
    | some '\x7b' => do
      advance 1
      fueled fun fuel => readInline (readValue depth) fuel []
    | _ => readScalar
where
  readScalar : Reader Setting := do
    match ← peek with
    | some '"' => return .text (← readText)
    | some '\x27' => return .text (← readText)
    | some 't' => do
      expect "true"
      pure (.truth true)
    | some 'f' => do
      expect "false"
      pure (.truth false)
    | _ => readAtom

/-! ### Files -/

/-- a file while it is being read: its tables and the path of the one that names belong to -/
structure File where
  root : Members
  current : List String

def readHeader (file : File) : Reader File := do
  let isItem ← skip "[["
  if !isItem then expect "["
  let path ← readPath
  expect (if isItem then "]]" else "]")
  let name := path.getLast?.getD ""
  let change := if isItem then Members.beginItem name else Members.beginTable name
  match file.root.under change path.dropLast with
  | none => refuse
  | some root => pure ⟨root, path⟩

def readAssignment (file : File) : Reader File := do
  let (path, value) ← readPair skipSpaces (readValue maxDepth)
  match file.root.under (Members.assign value path) file.current with
  | none => refuse
  | some root => pure { file with root := root }

/-- reads lines to the end of the file -/
def readLines : Nat → File → Reader File
  | 0, _ => refuse
  | fuel + 1, file => do
    skipVoid
    match ← peek with
    | none => pure file
    | some c => do
      let file ← if c = '[' then readHeader file else readAssignment file
      skipSpaces
      skipComment
      if ← skipNewline then readLines fuel file
      else if (← peek).isNone then pure file
      else refuse

/-- a text without the marks of its byte order, of which there may be two -/
def dropMarks : List Char → List Char
  | '\ufeff' :: '\ufeff' :: rest => rest
  | '\ufeff' :: rest => rest
  | chars => chars

def read? (text : String) : Option (List (String × Setting)) :=
  let chars := dropMarks text.toList
  (readLines (chars.length + 1) ⟨[], []⟩ chars).map fun (file, _) => memberSettings file.root

end AttemptLog.Toml
