import AttemptLog.Json.Source
import AttemptLog.Text.Digits
/-!
Passing over a value that nobody asked for.

The value must look like one: brackets match, words and numerals have their form, and a text ends. It may nest to any
depth, numbers may have any size, and escapes in a text need not stand for a character. The work is done by a machine
that takes one symbol at a time and keeps the open brackets on a stack.
-/
namespace AttemptLog.Json

inductive Bracket where
  | array
  | object
  deriving DecidableEq

/-- what a numeral that is being passed over consists of so far -/
inductive NumeralPart where
  | minus
  | zero
  | whole
  | point
  | fraction
  | exponent
  | exponentSign
  | exponentDigits
  deriving DecidableEq

def NumeralPart.canEnd : NumeralPart → Bool
  | .zero | .whole | .fraction | .exponentDigits => true
  | .minus | .point | .exponent | .exponentSign => false

def NumeralPart.next? (part : NumeralPart) (c : Char) : Option NumeralPart :=
  match part with
  | .minus => if c = '0' then some .zero else if c.isDigit then some .whole else none
  | .zero => if c = '.' then some .point else if c = 'e' ∨ c = 'E' then some .exponent else none
  | .whole =>
    if c.isDigit then some .whole
    else if c = '.' then some .point
    else if c = 'e' ∨ c = 'E' then some .exponent
    else none
  | .point => if c.isDigit then some .fraction else none
  | .fraction => if c.isDigit then some .fraction else if c = 'e' ∨ c = 'E' then some .exponent else none
  | .exponent =>
    if c = '+' ∨ c = '-' then some .exponentSign else if c.isDigit then some .exponentDigits else none
  | .exponentSign | .exponentDigits => if c.isDigit then some .exponentDigits else none

inductive SkipPlace where
  /-- before a value -/
  | value
  /-- after the bracket that opens an array -/
  | firstItem
  /-- after the bracket that opens an object -/
  | firstKey
  /-- after a comma in an object -/
  | nextKey
  /-- after a name in an object -/
  | colon
  /-- after a value inside a bracket -/
  | after
  /-- inside a text, which is a name or a value -/
  | text (isKey : Bool)
  /-- after a backslash in a text -/
  | escape (isKey : Bool)
  /-- inside an escape that needs some more hexadecimal digits -/
  | hex (isKey : Bool) (missing : Nat)
  /-- inside a word that needs these characters more -/
  | word (rest : List Char)
  | numeral (part : NumeralPart)
  deriving DecidableEq

/-- the machine after one symbol: it goes on, or the value ended with this symbol or before it -/
inductive SkipStep where
  | next (place : SkipPlace) (stack : List Bracket)
  | endsWith
  | endsBefore

/-- the machine after the last symbol of a value -/
def SkipStep.ofEnd : List Bracket → SkipStep
  | [] => .endsWith
  | stack => .next .after stack

def SkipStep.ofText (isKey : Bool) (stack : List Bracket) : SkipStep :=
  if isKey then .next .colon stack else .ofEnd stack

def beginValue (stack : List Bracket) (symbol : Symbol) : Option SkipStep :=
  match symbol with
  | some '"' => some (.next (.text false) stack)
  | some '[' => some (.next .firstItem (.array :: stack))
  | some '\x7b' => some (.next .firstKey (.object :: stack))
  | some 't' => some (.next (.word ['r', 'u', 'e']) stack)
  | some 'f' => some (.next (.word ['a', 'l', 's', 'e']) stack)
  | some 'n' => some (.next (.word ['u', 'l', 'l']) stack)
  | some '-' => some (.next (.numeral .minus) stack)
  | some c => (NumeralPart.minus.next? c).map fun part => .next (.numeral part) stack
  | none => none

def afterValue (symbol : Symbol) : List Bracket → Option SkipStep
  | [] => some .endsBefore
  | .array :: stack =>
    if symbol = some ',' then some (.next .value (.array :: stack))
    else if symbol = some ']' then some (.ofEnd stack)
    else if isSpace symbol then some (.next .after (.array :: stack))
    else none
  | .object :: stack =>
    if symbol = some ',' then some (.next .nextKey (.object :: stack))
    else if symbol = some '\x7d' then some (.ofEnd stack)
    else if isSpace symbol then some (.next .after (.object :: stack))
    else none

def insideText (isKey : Bool) (stack : List Bracket) : Symbol → Option SkipStep
  | none => some (.next (.text isKey) stack)
  | some c =>
    if c = '"' then some (.ofText isKey stack)
    else if c = '\\' then some (.next (.escape isKey) stack)
    else if c.toNat < 0x20 then none
    else some (.next (.text isKey) stack)

def insideEscape (isKey : Bool) (stack : List Bracket) : Symbol → Option SkipStep
  | some 'u' => some (.next (.hex isKey 4) stack)
  | some c => if c ∈ ['"', '\\', '/', 'b', 'f', 'n', 'r', 't'] then some (.next (.text isKey) stack) else none
  | none => none

def skipStep (place : SkipPlace) (stack : List Bracket) (symbol : Symbol) : Option SkipStep :=
  match place with
  | .value => if isSpace symbol then some (.next .value stack) else beginValue stack symbol
  | .firstItem =>
    if isSpace symbol then some (.next .firstItem stack)
    else if symbol = some ']' then some (.ofEnd stack.tail)
    else beginValue stack symbol
  | .firstKey =>
    if isSpace symbol then some (.next .firstKey stack)
    else if symbol = some '\x7d' then some (.ofEnd stack.tail)
    else if symbol = some '"' then some (.next (.text true) stack)
    else none
  | .nextKey =>
    if isSpace symbol then some (.next .nextKey stack)
    else if symbol = some '"' then some (.next (.text true) stack)
    else none
  | .colon =>
    if isSpace symbol then some (.next .colon stack)
    else if symbol = some ':' then some (.next .value stack)
    else none
  | .after => afterValue symbol stack
  | .text isKey => insideText isKey stack symbol
  | .escape isKey => insideEscape isKey stack symbol
  | .hex isKey missing =>
    match symbol with
    | some c =>
      if !Text.isHexDigit c then none
      else if missing ≤ 1 then some (.next (.text isKey) stack)
      else some (.next (.hex isKey (missing - 1)) stack)
    | none => none
  | .word [] => afterValue symbol stack
  | .word [c] => if symbol = some c then some (.ofEnd stack) else none
  | .word (c :: rest) => if symbol = some c then some (.next (.word rest) stack) else none
  | .numeral part =>
    match symbol.bind part.next? with
    | some next => some (.next (.numeral next) stack)
    | none => if part.canEnd then afterValue symbol stack else none

/-- runs the machine to the end of a value -/
def skipFrom : SkipPlace → List Bracket → Reader Unit
  | .numeral part, [], [] => if part.canEnd then .ok ((), []) else .error .malformed
  | _, _, [] => .error .malformed
  | place, stack, symbol :: rest =>
    match skipStep place stack symbol with
    | none => .error .malformed
    | some .endsWith => .ok ((), rest)
    | some .endsBefore => .ok ((), symbol :: rest)
    | some (.next place stack) => skipFrom place stack rest

def skipValue : Reader Unit := skipFrom .value []

end AttemptLog.Json
