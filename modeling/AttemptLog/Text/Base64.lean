/-!
Bytes as texts of sixty-four characters.

Three bytes are four characters; one or two bytes at the end are padded. Reading accepts nothing but the written form:
padding must be there, and the bits that no byte uses must be zero.
-/
namespace AttemptLog.Text.Base64

def digit (bits : Nat) : Char :=
  if bits < 26 then .ofNat ('A'.toNat + bits)
  else if bits < 52 then .ofNat ('a'.toNat + (bits - 26))
  else if bits < 62 then .ofNat ('0'.toNat + (bits - 52))
  else if bits = 62 then '+'
  else '/'

def digit? (c : Char) : Option Nat :=
  if 'A' ≤ c ∧ c ≤ 'Z' then some (c.toNat - 'A'.toNat)
  else if 'a' ≤ c ∧ c ≤ 'z' then some (c.toNat - 'a'.toNat + 26)
  else if '0' ≤ c ∧ c ≤ '9' then some (c.toNat - '0'.toNat + 52)
  else if c = '+' then some 62
  else if c = '/' then some 63
  else none

def encode : List UInt8 → List Char
  | [] => []
  | [a] => [digit (a.toNat / 4), digit (a.toNat % 4 * 16), '=', '=']
  | [a, b] =>
    [digit (a.toNat / 4), digit (a.toNat % 4 * 16 + b.toNat / 16), digit (b.toNat % 16 * 4), '=']
  | a :: b :: c :: rest =>
    digit (a.toNat / 4) :: digit (a.toNat % 4 * 16 + b.toNat / 16) :: digit (b.toNat % 16 * 4 + c.toNat / 64) ::
      digit (c.toNat % 64) :: encode rest

/-- the last four characters, which may be padded -/
def decodeLast (a b c d : Char) : Option (List UInt8) := do
  let x ← digit? a
  let y ← digit? b
  let first := UInt8.ofNat (x * 4 + y / 16)
  if c = '=' ∧ d = '=' then
    if y % 16 = 0 then some [first] else none
  else
    let z ← digit? c
    let second := UInt8.ofNat (y % 16 * 16 + z / 4)
    if d = '=' then
      if z % 4 = 0 then some [first, second] else none
    else some [first, second, .ofNat (z % 4 * 64 + (← digit? d))]

/-- four characters that are not padded -/
def decodeFour (a b c d : Char) : Option (List UInt8) := do
  let x ← digit? a
  let y ← digit? b
  let z ← digit? c
  let w ← digit? d
  some [.ofNat (x * 4 + y / 16), .ofNat (y % 16 * 16 + z / 4), .ofNat (z % 4 * 64 + w)]

def decode? : List Char → Option (List UInt8)
  | [] => some []
  | [a, b, c, d] => decodeLast a b c d
  | a :: b :: c :: d :: rest => do
    let bytes ← decodeFour a b c d
    some (bytes ++ (← decode? rest))
  | _ => none

end AttemptLog.Text.Base64
