import AttemptLog.Text.GraphemeExtend
import AttemptLog.Text.Unprintable
/-!
Texts between quotes, as messages show them.

Every character of a quoted text can be seen: quotes, backslashes and line ends are escaped, and characters without a
glyph of their own are given by their code points.
-/
namespace AttemptLog.Text

/-- a character by its code point -/
def codeEscape (c : Char) : List Char := ['\\', 'u', '\x7b'] ++ Nat.toDigits 16 c.toNat ++ ['\x7d']

/-- a character inside a quoted text -/
def visible (c : Char) : List Char :=
  if c = '\x00' then ['\\', '0']
  else if c = '\t' then ['\\', 't']
  else if c = '\r' then ['\\', 'r']
  else if c = '\n' then ['\\', 'n']
  else if c = '"' then ['\\', '"']
  else if c = '\\' then ['\\', '\\']
  else if graphemeExtendRanges.has c.toNat || unprintableRanges.has c.toNat then codeEscape c
  else [c]

def quoted (text : String) : String := String.ofList ('"' :: text.toList.flatMap visible ++ ['"'])

end AttemptLog.Text
