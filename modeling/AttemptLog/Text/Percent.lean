import AttemptLog.Text.Digits
/-!
Bytes that are written by a percent sign and two hexadecimal digits.
-/
namespace AttemptLog.Text.Percent

/-- the value of a byte that is a hexadecimal digit -/
def hexValue? (byte : UInt8) : Option Nat := digitValue? (.ofNat byte.toNat)

/-- puts a byte in place of each percent sign with two hexadecimal digits; a percent sign without them stays -/
def decode : List UInt8 → List UInt8
  | [] => []
  | byte :: high :: low :: rest =>
    if byte = '%'.toUInt8 then
      match hexValue? high, hexValue? low with
      | some h, some l => .ofNat (h * 16 + l) :: decode rest
      | _, _ => byte :: decode (high :: low :: rest)
    else byte :: decode (high :: low :: rest)
  | byte :: rest => byte :: decode rest

end AttemptLog.Text.Percent
