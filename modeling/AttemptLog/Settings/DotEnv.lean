import AttemptLog.Settings.Environment
import AttemptLog.Text.Alphanumeric
/-!
Files of variables.

Each line gives one variable. Values may be quoted, may run over several lines inside quotes and may refer to other
variables. A variable that has a value keeps it. Reading stops at the first line that is not well formed; the
variables before it count. A value with U+0000 in it can be written in a file, but no process takes it.
-/
namespace AttemptLog.DotEnv

open AttemptLog.Text

/-- where the end of a line would stand with regard to quotes -/
inductive LinePlace where
  | plain
  | afterSpace
  | escape
  | single
  | singleEscape
  | double
  | doubleEscape
  deriving DecidableEq

/-- the place after one more character; none if a comment begins with it -/
def LinePlace.next? (place : LinePlace) (c : Char) : Option LinePlace :=
  match place with
  | .plain =>
    if isBlank c && c != '\n' && c != '\r' then some .afterSpace
    else if c = '\\' then some .escape
    else if c = '"' then some .double
    else if c = '\x27' then some .single
    else some .plain
  | .afterSpace =>
    if c = '#' then none
    else if c = '\\' then some .escape
    else if c = '"' then some .double
    else if c = '\x27' then some .single
    else some .plain
  | .escape => some .plain
  | .single => if c = '\\' then some .singleEscape else if c = '\x27' then some .plain else some .single
  | .singleEscape => some .single
  | .double => if c = '\\' then some .doubleEscape else if c = '"' then some .plain else some .double
  | .doubleEscape => some .double

/-- the characters before a comment and the place at the end, which there is none of before a comment -/
def scanLine : LinePlace → List Char → List Char × Option LinePlace
  | place, [] => ([], some place)
  | place, c :: rest =>
    match place.next? c with
    | none => ([], none)
    | some place => (c :: (scanLine place rest).1, (scanLine place rest).2)

def splitLines : List Char → List (List Char)
  | [] => []
  | c :: rest =>
    if c = '\n' then [c] :: splitLines rest
    else
      match splitLines rest with
      | [] => [[c]]
      | line :: lines => (c :: line) :: lines

def dropLineEnd (line : List Char) : List Char :=
  match line.reverse with
  | '\n' :: '\r' :: rest => rest.reverse
  | '\n' :: rest => rest.reverse
  | _ => line

/-- joins the lines that quotes hold together, after those in `before`; none stands for a text that ends inside -/
def joinLines : LinePlace → List Char → List (List Char) → List (Option (List Char))
  | .plain, _, [] => []
  | _, _, [] => [none]
  | place, before, line :: rest =>
    let all := before ++ line
    if (skipBlanks all).head? = some '#' then some [] :: joinLines .plain [] rest
    else
      match scanLine place line with
      | (kept, none) => some (before ++ kept) :: joinLines .plain [] rest
      | (_, some .plain) => some (dropLineEnd all) :: joinLines .plain [] rest
      | (_, some place) => joinLines place all rest

inductive Quote where
  | bare
  | single
  | double
  deriving DecidableEq

inductive Part where
  | literal
  | escape
  /-- the name of a variable -/
  | reference
  /-- the name of a variable between braces -/
  | braced
  /-- blanks after the value -/
  | ending
  deriving DecidableEq

/-- a value that is being read; names and values are kept with the last character in front -/
structure ValueState where
  quote : Quote
  part : Part
  name : List Char
  value : List Char

namespace ValueState

/-- puts the value of the named variable into the text -/
def substitute (environment : Environment) (state : ValueState) : ValueState :=
  let found := (environment.get? (String.ofList state.name.reverse)).getD ""
  { state with part := .literal, name := [], value := found.toList.reverse ++ state.value }

def push (state : ValueState) (c : Char) : ValueState := { state with part := .literal, value := c :: state.value }

/-- one more character outside of names and escapes -/
def literal (state : ValueState) (c : Char) : ValueState :=
  match state.quote with
  | .single => if c = '\x27' then { state with quote := .bare } else state.push c
  | .double =>
    if c = '$' then { state with part := .reference }
    else if c = '"' then { state with quote := .bare }
    else if c = '\\' then { state with part := .escape }
    else state.push c
  | .bare =>
    if c = '$' then { state with part := .reference }
    else if c = '\x27' then { state with quote := .single }
    else if c = '"' then { state with quote := .double }
    else if c = '\\' then { state with part := .escape }
    else if c = ' ' ∨ c = '\t' then { state with part := .ending }
    else state.push c

/-- one more character of the name of a variable, or the one after it -/
def refer (environment : Environment) (state : ValueState) (c : Char) : ValueState :=
  if alphanumericRanges.has c.toNat then { state with name := c :: state.name }
  else if c = '\x7b' ∧ state.name = [] then { state with part := .braced }
  else if c = '$' then { state.substitute environment with part := .reference }
  else (state.substitute environment).push c

/-- one more character; none if it must not stand there -/
def next? (environment : Environment) (state : ValueState) (c : Char) : Option ValueState :=
  match state.part with
  | .literal => some (state.literal c)
  | .escape =>
    if c ∈ ['\\', '\x27', '"', '$', ' '] then some (state.push c)
    else if c = 'n' then some (state.push '\n')
    else none
  | .reference => some (state.refer environment c)
  | .braced =>
    if c = '\x7d' then some (state.substitute environment) else some { state with name := c :: state.name }
  | .ending => if c = ' ' ∨ c = '\t' then some state else none

/-- the value at the end of a line; none if quotes or braces are open -/
def finish? (environment : Environment) (state : ValueState) : Option String :=
  if state.part = .braced ∨ state.quote ≠ .bare then none
  else some (String.ofList (state.substitute environment).value.reverse)

end ValueState

/-- the value that characters stand for; a comment may follow blanks -/
def readValue? (environment : Environment) : ValueState → List Char → Option String
  | state, [] => state.finish? environment
  | state, c :: rest =>
    if state.part = .ending ∧ c = '#' then state.finish? environment
    else (state.next? environment c).bind fun state => readValue? environment state rest

def isNameStart (c : Char) : Bool := c.isAlpha || c == '_'

def isNameChar (c : Char) : Bool := c.isAlphanum || c == '_' || c == '.'

/-- a name in front and what follows it and blanks -/
def readName? (chars : List Char) : Option (String × List Char) :=
  match chars with
  | [] => none
  | c :: _ =>
    if isNameStart c then some (String.ofList (chars.takeWhile isNameChar), skipBlanks (chars.dropWhile isNameChar))
    else none

/-- what follows the sign between name and value -/
def readEqual? : List Char → Option (List Char)
  | '=' :: rest => some rest
  | _ => none

/-- the name of the variable of a line and what follows the sign; a word for export may stand before the name -/
def readHead? (chars : List Char) : Option (String × List Char) := do
  let (name, rest) ← readName? chars
  match readEqual? rest with
  | some rest => some (name, rest)
  | none =>
    if name = "export" then do
      let (name, rest) ← readName? rest
      some (name, ← readEqual? rest)
    else none

/-- is there nothing, or nothing but a comment -/
def isVoid (chars : List Char) : Bool := chars.isEmpty || chars.head? == some '#'

/-- the variable of a line, which may have none; none at all if the line is not well formed. Blanks at the end of a line
do not belong to it. -/
def readLine? (environment : Environment) (line : List Char) : Option (Option (String × String)) :=
  let chars := trim line
  if isVoid chars then some none
  else do
    let (name, rest) ← readHead? chars
    let rest := skipBlanks rest
    if isVoid rest then some (some (name, ""))
    else some (some (name, ← readValue? environment ⟨.bare, .literal, [], []⟩ rest))

/-- the variables after those of some lines, and whether all lines were well formed; none if one of them cannot be
set -/
def loadLines : Environment → List (Option (List Char)) → Option (Environment × Bool)
  | environment, [] => some (environment, true)
  | environment, none :: _ => some (environment, false)
  | environment, some line :: rest =>
    match readLine? environment line with
    | none => some (environment, false)
    | some none => loadLines environment rest
    | some (some (name, value)) =>
      (environment.define? name value).bind fun environment => loadLines environment rest

/-- a text without the mark of its byte order -/
def dropMark : List Char → List Char
  | '\ufeff' :: rest => rest
  | chars => chars

/-- the variables after those of a file, and whether all its lines were well formed; none if one of them cannot be
set -/
def load (environment : Environment) (file : String) : Option (Environment × Bool) :=
  loadLines environment (joinLines .plain [] (splitLines (dropMark file.toList)))

end AttemptLog.DotEnv
