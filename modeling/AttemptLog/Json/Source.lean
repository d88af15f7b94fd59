/-!
Texts that are read as values, symbol by symbol.

A text may have arrived as bytes, some of which belong to no character. Such a byte is a symbol of its own; it is
allowed only inside parts of a text that nobody asked for.
-/
namespace AttemptLog.Json

/-- a character, or a byte that belongs to none -/
abbrev Symbol := Option Char

abbrev Source := List Symbol

def Source.ofString (text : String) : Source := text.toList.map some

inductive Refusal where
  /-- the text is not of the format -/
  | malformed
  /-- the text is of the format, as far as it was read, and says something else than what is asked for -/
  | mismatched
  deriving DecidableEq

/-- reads a value in front and leaves the symbols after it -/
abbrev Reader (α : Type) := StateT Source (Except Refusal) α

/-- is this one of the four blanks of the format -/
def isSpace (symbol : Symbol) : Bool :=
  symbol == some ' ' || symbol == some '\n' || symbol == some '\t' || symbol == some '\r'

/-- what follows the blanks in front -/
def skipSpaces (source : Source) : Source := source.dropWhile isSpace

def isDigit : Symbol → Bool
  | some c => c.isDigit
  | none => false

/-- the character after the blanks in front, which is left in place -/
def peek : Reader Symbol := fun source =>
  match skipSpaces source with
  | [] => .ok (none, [])
  | symbol :: rest => .ok (symbol, symbol :: rest)

/-- leaves out one symbol -/
def advance : Reader Unit := fun source => .ok ((), source.tail)

def readWord : List Char → Reader Unit
  | [] => pure ()
  | c :: word => fun source =>
    match source with
    | symbol :: rest => if symbol = some c then readWord word rest else .error .malformed
    | [] => .error .malformed

def readMark (mark : Char) : Reader Unit := do
  if (← peek) = some mark then advance else throw .malformed

/-- the value of a whole text, which must have no more than blanks after the value -/
def Reader.whole {α : Type} (reader : Reader α) (source : Source) : Except Refusal α := do
  let (value, rest) ← reader source
  if (skipSpaces rest).isEmpty then pure value else throw .malformed

end AttemptLog.Json
