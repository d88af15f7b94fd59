import AttemptLog.Json.Number
import AttemptLog.Json.Skip
import AttemptLog.Keyed
import AttemptLog.Spelling
/-!
Reading values of known types.

The first problem in the order of reading decides why a text is refused. Where a value of another kind stands, that
value is read to its end if it is a word, a numeral or a text, and is not looked into if it has brackets.
-/
namespace AttemptLog.Json

/-- the mode of reading a text, after its first quote -/
inductive TextMode where
  | plain
  | escape
  /-- an escape that needs some more hexadecimal digits; the first half of a pair may stand before it -/
  | hex (high : Option Nat) (missing code : Nat)
  /-- after the first half of a pair -/
  | pair (high : Nat)
  | pairEscape (high : Nat)

def surrogatePair (high low : Nat) : Char := .ofNat (0x10000 + (high - 0xD800) * 0x400 + (low - 0xDC00))

/-- what an escape of four hexadecimal digits does: it is a character or the first half of a pair -/
def endHex (high : Option Nat) (code : Nat) : Option (TextMode × Option Char) :=
  match high with
  | none =>
    if 0xD800 ≤ code ∧ code < 0xDC00 then some (.pair code, none)
    else if 0xDC00 ≤ code ∧ code < 0xE000 then none
    else some (.plain, some (.ofNat code))
  | some high => if 0xDC00 ≤ code ∧ code < 0xE000 then some (.plain, some (surrogatePair high code)) else none

/-- the character that a short escape stands for -/
def shortEscape? (c : Char) : Option Char :=
  match c with
  | '"' => some '"'
  | '\\' => some '\\'
  | '/' => some '/'
  | 'b' => some '\x08'
  | 'f' => some '\x0c'
  | 'n' => some '\n'
  | 'r' => some '\r'
  | 't' => some '\t'
  | _ => none

/-- the mode after one character and the character that this completes -/
def TextMode.next? (mode : TextMode) (c : Char) : Option (TextMode × Option Char) :=
  match mode with
  | .plain => if c = '\\' then some (.escape, none) else if c.toNat < 0x20 then none else some (.plain, some c)
  | .escape => if c = 'u' then some (.hex none 4 0, none) else (shortEscape? c).map fun c => (.plain, some c)
  | .hex high missing code =>
    (Text.digitValue? c).bind fun digit =>
      if missing ≤ 1 then endHex high (code * 16 + digit) else some (.hex high (missing - 1) (code * 16 + digit), none)
  | .pair high => if c = '\\' then some (.pairEscape high, none) else none
  | .pairEscape high => if c = 'u' then some (.hex (some high) 4 0, none) else none

/-- reads a text after its first quote; `read` holds the characters so far, the last one in front -/
def readText : TextMode → List Char → Reader String
  | .plain, read, some '"' :: rest => .ok (String.ofList read.reverse, rest)
  | mode, read, some c :: rest =>
    match mode.next? c with
    | some (mode, completed) => readText mode (completed.toList ++ read) rest
    | none => .error .malformed
  | _, _, none :: _ => .error .malformed
  | _, _, [] => .error .malformed

/-- refuses the value that comes next, which is not of the kind that is asked for -/
def refuse {α : Type} : Reader α := do
  match ← peek with
  | some 'n' => advance; readWord ['u', 'l', 'l']; throw .mismatched
  | some 't' => advance; readWord ['r', 'u', 'e']; throw .mismatched
  | some 'f' => advance; readWord ['a', 'l', 's', 'e']; throw .mismatched
  | some '"' => advance; let _ ← readText .plain []; throw .mismatched
  | some '[' => throw .mismatched
  | some '\x7b' => throw .mismatched
  | some '-' => let _ ← readNumeral; throw .mismatched
  | symbol => if isDigit symbol then let _ ← readNumeral; throw .mismatched else throw .malformed

def readString : Reader String := do
  if (← peek) = some '"' then advance; readText .plain [] else refuse

/-- reads a text that must have a meaning -/
def readMeaning {α : Type} (meaning : String → Option α) : Reader α := do
  match meaning (← readString) with
  | some value => pure value
  | none => throw .mismatched

def readBool : Reader Bool := do
  match ← peek with
  | some 't' => advance; readWord ['r', 'u', 'e']; pure true
  | some 'f' => advance; readWord ['a', 'l', 's', 'e']; pure false
  | _ => refuse

/-- reads a number from 0 to 2 ^ 32 - 1, which must be written without sign, fraction and exponent -/
def readUInt32 : Reader UInt32 := do
  let symbol ← peek
  if symbol = some '-' ∨ isDigit symbol then
    let numeral ← readNumeral
    let number := Text.value numeral.whole
    if numeral.isNegative ∨ numeral.fraction.isSome ∨ numeral.exponent.isSome ∨ UInt32.size ≤ number then
      throw .mismatched
    else pure (.ofNat number)
  else refuse

/-- reads the word for nothing -/
def readNull : Reader Unit := do
  if (← peek) = some 'n' then advance; readWord ['u', 'l', 'l'] else refuse

/-- reads a value or the word for nothing -/
def readOptional {α : Type} (reader : Reader α) : Reader (Option α) := do
  if (← peek) = some 'n' then advance; readWord ['u', 'l', 'l']; pure none else some <$> reader

/-- reads one of a closed set of values, as its spelling or as an object whose only name is its spelling; what is not a
text cannot be a name -/
def readSpelled {α : Type} [Spelled α] : Reader α := do
  match ← peek with
  | some '"' => readMeaning ofSpelling?
  | some '\x7b' =>
    advance
    if (← peek) ≠ some '"' then throw .malformed
    let value ← readMeaning ofSpelling?
    readMark ':'
    readNull
    readMark '\x7d'
    pure value
  | _ => throw .malformed

/-- reads the name of the next member of an object, or the end of the object -/
def readName (isFirst : Bool) : Reader (Option String) := do
  let symbol ← peek
  if symbol = some '\x7d' then advance; pure none
  else
    if !isFirst then readMark ','
    if (← peek) = some '"' then advance; some <$> readText .plain [] else throw .malformed

/-- reads the members of an object; `member` is given each name and reads what follows it -/
def readMembers {σ : Type} (member : σ → String → Reader σ) : Nat → Bool → σ → Reader σ
  | 0, _, _ => throw .malformed
  | fuel + 1, isFirst, state => do
    match ← readName isFirst with
    | none => pure state
    | some name =>
      let state ← member state name
      readMembers member fuel false state

/-- reads an object; each member takes at least one symbol, so the length of the text bounds their number -/
def readObject {σ : Type} (member : σ → String → Reader σ) (state : σ) : Reader σ := fun source =>
  readMembers member (source.length + 1) true state source

/-- reads a map from names to texts; of two members with one name the later counts -/
def readTextMap : Reader (Keyed String) := do
  if (← peek) = some '\x7b' then
    advance
    readObject (fun map name => do readMark ':'; return map.insert name (← readString)) Keyed.empty
  else refuse

/-- a field of a record that is read into a state with a place for each field -/
structure Member (σ : Type) where
  name : String
  /-- was the field read before -/
  isSet : σ → Bool
  read : σ → Reader σ
  /-- may a record that is written as an array end before this field -/
  canEnd : Bool

/-- a field that is kept at one place of the state -/
def Member.at {σ α : Type} (name : String) (get : σ → Option α) (set : σ → α → σ) (reader : Reader α) : Member σ where
  name := name
  isSet state := (get state).isSome
  read state := set state <$> reader
  canEnd := false

/-- the same field, which may be missing at the end of an array -/
def Member.endable {σ : Type} (field : Member σ) : Member σ := { field with canEnd := true }

/-- reads one member of a record: unknown names are passed over, known ones may occur once -/
def readMember {σ : Type} (fields : List (Member σ)) (state : σ) (name : String) : Reader σ :=
  match fields.find? fun field => field.name == name with
  | none => do
    readMark ':'
    skipValue
    pure state
  | some field => do
    if field.isSet state then throw .mismatched
    readMark ':'
    field.read state

/-- moves to the next item of an array, if there is one; the end of the array is left in place -/
def readComma (isFirst : Bool) : Reader Bool := do
  if (← peek) = some ']' then pure false
  else if isFirst then pure true
  else
    readMark ','
    if (← peek) = some ']' then throw .malformed else pure true

/-- reads a record as an array of its fields -/
def readFields {σ : Type} : List (Member σ) → Bool → σ → Reader σ
  | [], _, state => pure state
  | field :: rest, isFirst, state => do
    if ← readComma isFirst then readFields rest false (← field.read state)
    else if field.canEnd then readFields rest isFirst state
    else throw .mismatched

/-- reads a record, as an object or as an array of its fields; `finish` fails if a field is missing -/
def readRecord {σ α : Type} (fields : List (Member σ)) (blank : σ) (finish : σ → Option α) : Reader α := do
  let done (state : σ) : Reader α :=
    match finish state with
    | some record => pure record
    | none => throw .mismatched
  match ← peek with
  | some '\x7b' =>
    advance
    done (← readObject (readMember fields) blank)
  | some '[' =>
    advance
    let record ← done (← readFields fields true blank)
    readMark ']'
    pure record
  | _ => refuse

end AttemptLog.Json
