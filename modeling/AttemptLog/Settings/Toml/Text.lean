import AttemptLog.Settings.Toml.Source
import AttemptLog.Text.Digits
/-!
Texts and names of a settings file.

A text stands between quotes on one line, or between three quotes on several, whose ends belong to it as they stand.
Between double quotes a backslash begins an escape, between single quotes every character stands for itself. A name is a
short text, or letters, digits, hyphens and underscores without quotes; a path is names with points between them.
-/
namespace AttemptLog.Toml

def hexValue? (digits : List Char) : Option Nat :=
  digits.foldlM (fun value c => (Text.digitValue? c).map (value * 16 + ·)) 0

def charOf? (code : Nat) : Option Char := if code.isValidChar then some (.ofNat code) else none

def readEscape : Reader Char := fun chars =>
  match chars with
  | 'b' :: rest => some ('\x08', rest)
  | 't' :: rest => some ('\t', rest)
  | 'n' :: rest => some ('\n', rest)
  | 'f' :: rest => some ('\x0c', rest)
  | 'r' :: rest => some ('\r', rest)
  | 'e' :: rest => some ('\x1b', rest)
  | '"' :: rest => some ('"', rest)
  | '\\' :: rest => some ('\\', rest)
  | 'x' :: rest => code 2 rest
  | 'u' :: rest => code 4 rest
  | 'U' :: rest => code 8 rest
  | _ => none
where
  code (count : Nat) (rest : List Char) : Option (Char × List Char) :=
    if count ≤ rest.length then
      ((hexValue? (rest.take count)).bind charOf?).map fun c => (c, rest.drop count)
    else none

/-- reads a text after its first quote; `read` has the last character in front -/
def readBasic : Nat → List Char → Reader String
  | 0, _ => refuse
  | fuel + 1, read => do
    match ← peek with
    | some '"' => do
      advance 1
      pure (String.ofList read.reverse)
    | some '\\' => do
      advance 1
      readBasic fuel ((← readEscape) :: read)
    | some c => do
      if isShown c then
        advance 1
        readBasic fuel (c :: read)
      else refuse
    | none => refuse

/-- reads a text of several lines after its first quotes; two quotes may stand before the last three -/
def readLongBasic : Nat → List Char → Reader String
  | 0, _ => refuse
  | fuel + 1, read => do
    if ← startsWith "\"\"\"" then
      let quotes ← spanOf (· == '"')
      if 5 < quotes.length then refuse
      else pure (String.ofList (read.reverse ++ quotes.drop 3))
    else
      match ← peek with
      | some '\\' => do
        advance 1
        skipEscapedLine fuel read
      | some '\n' => do
        advance 1
        readLongBasic fuel ('\n' :: read)
      | some '\r' => do
        expect "\r\n"
        readLongBasic fuel ('\n' :: '\r' :: read)
      | some c => do
        if isShown c then
          advance 1
          readLongBasic fuel (c :: read)
        else refuse
      | none => refuse
where
  /-- a backslash at the end of a line takes away the blanks and line ends after it -/
  skipEscapedLine (fuel : Nat) (read : List Char) : Reader String := do
    let before ← get
    skipSpaces
    if ← skipNewline then
      skipBlankLines fuel
      readLongBasic fuel read
    else
      set before
      readLongBasic fuel ((← readEscape) :: read)

/-- reads a text without escapes after its first quote -/
def readLiteral : Reader String := do
  let read ← spanOf fun c => isShown c && c != '\x27'
  expect "'"
  pure (String.ofList read)

/-- reads a text of several lines without escapes after its first quotes -/
def readLongLiteral : Nat → List Char → Reader String
  | 0, _ => refuse
  | fuel + 1, read => do
    if ← startsWith "'''" then
      let quotes ← spanOf (· == '\x27')
      if 5 < quotes.length then refuse
      else pure (String.ofList (read.reverse ++ quotes.drop 3))
    else
      match ← peek with
      | some '\n' => do
        advance 1
        readLongLiteral fuel ('\n' :: read)
      | some '\r' => do
        expect "\r\n"
        readLongLiteral fuel ('\n' :: '\r' :: read)
      | some c => do
        if isShown c then
          advance 1
          readLongLiteral fuel (c :: read)
        else refuse
      | none => refuse

/-- reads a text of one line -/
def readShort : Reader String := do
  match ← peek with
  | some '"' => do
    advance 1
    fueled fun fuel => readBasic fuel []
  | some '\x27' => do
    advance 1
    readLiteral
  | _ => refuse

def readText : Reader String := do
  if ← skip "\"\"\"" then
    let _ ← skipNewline
    fueled fun fuel => readLongBasic fuel []
  else if ← skip "'''" then
    let _ ← skipNewline
    fueled fun fuel => readLongLiteral fuel []
  else readShort

def isNameChar (c : Char) : Bool := c.isAlphanum || c == '_' || c == '-'

def readName : Reader String := do
  match ← peek with
  | some '"' | some '\x27' => readShort
  | _ => do
    let name ← spanOf isNameChar
    if name.isEmpty then refuse else pure (String.ofList name)

/-- reads names with points between them -/
def readNames : Nat → Reader (List String)
  | 0 => refuse
  | fuel + 1 => do
    skipSpaces
    let name ← readName
    skipSpaces
    if ← skip "." then
      return name :: (← readNames fuel)
    else pure [name]

/-- the greatest number of names in a path, and of brackets around a value -/
def maxDepth : Nat := 80

/-- reads the path of a value or a table -/
def readPath : Reader (List String) := readNames maxDepth

end AttemptLog.Toml
