import AttemptLog.Text.Digits
/-!
Values of the data format that records and answers are written in, and their compact text.

The text of a value has no blanks. Members of an object stand in the order of its list, and characters that the
format does not oblige to escape stand for themselves.

Values are compared part by part (`Value.same`), and `same_iff` says that those are the same that have the same parts.
-/
namespace AttemptLog.Json

/-- a value; a number is its digits as an integer and how many of them stand behind the point -/
inductive Value where
  | null
  | bool (value : Bool)
  | number (digits : Int) (places : Nat)
  | string (value : String)
  | array (items : List Value)
  | object (members : List (String × Value))
  deriving Inhabited

mutual

/-- are two values the same; members of objects count in their order -/
def Value.same : Value → Value → Bool
  | .null, .null => true
  | .bool a, .bool b => a == b
  | .number a m, .number b n => a == b && m == n
  | .string a, .string b => a == b
  | .array as, .array bs => sameItems as bs
  | .object as, .object bs => sameMembers as bs
  | _, _ => false

def sameItems : List Value → List Value → Bool
  | [], [] => true
  | a :: as, b :: bs => a.same b && sameItems as bs
  | _, _ => false

def sameMembers : List (String × Value) → List (String × Value) → Bool
  | [], [] => true
  | (a, x) :: as, (b, y) :: bs => a == b && x.same y && sameMembers as bs
  | _, _ => false

end

mutual

theorem Value.same_iff : (a b : Value) → (a.same b = true ↔ a = b)
  | .null, b => by cases b <;> simp [Value.same]
  | .bool a, b => by cases b <;> simp [Value.same]
  | .number a m, b => by cases b <;> simp [Value.same]
  | .string a, b => by cases b <;> simp [Value.same]
  | .array as, b => by cases b <;> simp [Value.same, sameItems_iff]
  | .object as, b => by cases b <;> simp [Value.same, sameMembers_iff]

theorem sameItems_iff : (as bs : List Value) → (sameItems as bs = true ↔ as = bs)
  | [], bs => by cases bs <;> simp [sameItems]
  | a :: as, bs => by cases bs <;> simp [sameItems, Value.same_iff, sameItems_iff]

theorem sameMembers_iff : (as bs : List (String × Value)) → (sameMembers as bs = true ↔ as = bs)
  | [], bs => by cases bs <;> simp [sameMembers]
  | (a, x) :: as, bs => by
    rcases bs with - | ⟨⟨b, y⟩, bs⟩ <;> simp [sameMembers, Value.same_iff, sameMembers_iff]

end

instance : DecidableEq Value := fun a b => decidable_of_iff (a.same b = true) (Value.same_iff a b)

def Value.nat (n : Nat) : Value := .number n 0

/-- a text or nothing -/
def Value.optional : Option String → Value
  | none => .null
  | some text => .string text

/-- the member of an object with this name, the first one if there are more -/
def Value.member? (name : String) : Value → Option Value
  | .object members => (members.find? fun entry => entry.1 == name).map (·.2)
  | _ => none

/-- the escape of a control character that has no short one -/
def unicodeEscape (c : Char) : List Char := '\\' :: 'u' :: (Nat.toDigits 16 c.toNat).leftpad 4 '0'

def escaped (c : Char) : List Char :=
  if c = '"' then ['\\', '"']
  else if c = '\\' then ['\\', '\\']
  else if c = '\x08' then ['\\', 'b']
  else if c = '\x0c' then ['\\', 'f']
  else if c = '\n' then ['\\', 'n']
  else if c = '\r' then ['\\', 'r']
  else if c = '\t' then ['\\', 't']
  else if c.toNat < 0x20 then unicodeEscape c
  else [c]

def quoted (text : String) : List Char := '"' :: text.toList.flatMap escaped ++ ['"']

/-- a number with a point in front of its last digits -/
def decimal (digits : Int) (places : Nat) : List Char :=
  let all := Text.padded (places + 1) digits.natAbs
  let whole := all.take (all.length - places)
  let unsigned := if places = 0 then whole else whole ++ '.' :: all.drop (all.length - places)
  if digits < 0 then '-' :: unsigned else unsigned

mutual

/-- the compact text of a value -/
def Value.chars : Value → List Char
  | .null => "null".toList
  | .bool true => "true".toList
  | .bool false => "false".toList
  | .number digits places => decimal digits places
  | .string value => quoted value
  | .array items => '[' :: itemChars items ++ [']']
  | .object members => '\x7b' :: memberChars members ++ ['\x7d']

def itemChars : List Value → List Char
  | [] => []
  | [item] => item.chars
  | item :: next :: rest => item.chars ++ ',' :: itemChars (next :: rest)

def memberChars : List (String × Value) → List Char
  | [] => []
  | [(name, value)] => quoted name ++ ':' :: value.chars
  | (name, value) :: next :: rest => quoted name ++ ':' :: value.chars ++ ',' :: memberChars (next :: rest)

end

def Value.render (value : Value) : String := String.ofList value.chars

end AttemptLog.Json
