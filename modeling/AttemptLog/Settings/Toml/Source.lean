/-!
Settings files as characters in front of a reader.

A reader takes something in front and leaves what follows it, or refuses the whole file. Blanks, comments and ends of
lines between the parts of a file are left out here.
-/
namespace AttemptLog.Toml

/-- reads something in front and leaves what follows it -/
abbrev Reader (α : Type) := StateT (List Char) Option α

def refuse {α : Type} : Reader α := fun _ => none

def peek : Reader (Option Char) := fun chars => some (chars.head?, chars)

def advance (count : Nat) : Reader Unit := fun chars => some ((), chars.drop count)

/-- do these characters stand in front -/
def startsWith (word : String) : Reader Bool := fun chars => some (word.toList.isPrefixOf chars, chars)

/-- leaves out these characters, which must stand in front -/
def expect (word : String) : Reader Unit := do
  if ← startsWith word then advance word.length else refuse

/-- leaves out these characters if they stand in front -/
def skip (word : String) : Reader Bool := do
  if ← startsWith word then
    advance word.length
    pure true
  else pure false

/-- the characters of a class in front -/
def spanOf (isIn : Char → Bool) : Reader (List Char) := fun chars => some (chars.takeWhile isIn, chars.dropWhile isIn)

def isSpace (c : Char) : Bool := c == ' ' || c == '\t'

def skipSpaces : Reader Unit := do
  let _ ← spanOf isSpace

def isShown (c : Char) : Bool := c == '\t' || (' ' ≤ c && c != '\x7f')

def skipComment : Reader Unit := do
  if (← peek) = some '#' then
    let _ ← spanOf isShown

/-- leaves out the end of a line, if it is there -/
def skipNewline : Reader Bool := do
  if ← skip "\n" then pure true else skip "\r\n"

/-- leaves out blanks, comments and ends of lines; the length of the text bounds their number -/
def skipLines : Nat → Reader Unit
  | 0 => pure ()
  | fuel + 1 => do
    skipSpaces
    skipComment
    if ← skipNewline then skipLines fuel

/-- leaves out blanks, comments and ends of lines -/
def skipVoid : Reader Unit := fun chars => skipLines (chars.length + 1) chars

/-- leaves out blanks and ends of lines; the length of the text bounds their number -/
def skipBlankLines : Nat → Reader Unit
  | 0 => pure ()
  | fuel + 1 => do
    skipSpaces
    if ← skipNewline then skipBlankLines fuel

/-- runs a reader with the length of the text as its fuel -/
def fueled {α : Type} (reader : Nat → Reader α) : Reader α := fun chars => reader (chars.length + 1) chars

end AttemptLog.Toml
