/-!
Reading bytes as characters.

Each well formed sequence of bytes is one character. A byte that belongs to no such sequence is kept as a symbol
without a character, so that a reader can decide what to do about it.
-/
namespace AttemptLog.Text.Utf8

/-- a sequence of bytes that has begun: how many bytes are missing, the bits so far and the range of the next byte -/
structure Pending where
  missing : Nat
  bits : Nat
  low : Nat
  high : Nat

/-- the first byte of a sequence of several bytes; the range of the second byte excludes forms that are not the
shortest, surrogates and code points that are too large -/
def begin? (byte : UInt8) : Option Pending :=
  let b := byte.toNat
  if 0xC2 ≤ b ∧ b ≤ 0xDF then some ⟨1, b - 0xC0, 0x80, 0xBF⟩
  else if b = 0xE0 then some ⟨2, 0, 0xA0, 0xBF⟩
  else if b = 0xED then some ⟨2, 0xD, 0x80, 0x9F⟩
  else if 0xE1 ≤ b ∧ b ≤ 0xEF then some ⟨2, b - 0xE0, 0x80, 0xBF⟩
  else if b = 0xF0 then some ⟨3, 0, 0x90, 0xBF⟩
  else if 0xF1 ≤ b ∧ b ≤ 0xF3 then some ⟨3, b - 0xF0, 0x80, 0xBF⟩
  else if b = 0xF4 then some ⟨3, 4, 0x80, 0x8F⟩
  else none

/-- one byte outside of a sequence: the sequence that it begins and the symbol that it is -/
def first (byte : UInt8) : Option Pending × List (Option Char) :=
  if byte.toNat < 0x80 then (none, [some (.ofNat byte.toNat)])
  else
    match begin? byte with
    | some pending => (some pending, [])
    | none => (none, [none])

/-- one byte, possibly inside of a sequence -/
def step (pending : Option Pending) (byte : UInt8) : Option Pending × List (Option Char) :=
  match pending with
  | none => first byte
  | some pending =>
    if pending.low ≤ byte.toNat ∧ byte.toNat ≤ pending.high then
      let bits := pending.bits * 64 + (byte.toNat - 0x80)
      if pending.missing ≤ 1 then (none, [some (.ofNat bits)]) else (some ⟨pending.missing - 1, bits, 0x80, 0xBF⟩, [])
    else ((first byte).1, none :: (first byte).2)

/-- the symbols of bytes, of which some sequence may have begun before -/
def symbolsFrom : Option Pending → List UInt8 → List (Option Char)
  | none, [] => []
  | some _, [] => [none]
  | pending, byte :: rest => (step pending byte).2 ++ symbolsFrom (step pending byte).1 rest

/-- the characters of bytes, and a symbol without a character for what is none -/
def symbols (bytes : List UInt8) : List (Option Char) := symbolsFrom none bytes

/-- the text that bytes stand for, if they are all well formed -/
def decode? (bytes : List UInt8) : Option String := ((symbols bytes).mapM id).map String.ofList

def encode (text : String) : List UInt8 := text.toList.flatMap String.utf8EncodeChar

end AttemptLog.Text.Utf8
