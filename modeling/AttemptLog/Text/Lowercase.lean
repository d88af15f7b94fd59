import AttemptLog.Text.CaseTable
/-!
Lower case of a text.

Each character has a lower case form of its own, but for the capital sigma: at the end of a word it becomes the final
sigma. A word ends where no letter with case follows, other than after characters that case ignores.
-/
namespace AttemptLog.Text

/-- the lower case form of a character wherever it stands -/
def lowerChar (c : Char) : List Char :=
  if c.toNat < 0x80 then [c.toLower]
  else if c = '\u0130' then ['i', '\u0307']
  else
    match lowerRuns.find? fun (first, last, step, _) =>
      first ≤ c.toNat && c.toNat ≤ last && (c.toNat - first) % step == 0 with
    | some (_, _, _, shift) => [.ofNat (c.toNat + shift).toNat]
    | none => [c]

/-- is the first character that case does not ignore one with case -/
def meetsCased (chars : List Char) : Bool :=
  match chars.dropWhile fun c => caseIgnorableRanges.has c.toNat with
  | c :: _ => casedRanges.has c.toNat
  | [] => false

/-- the lower case of the characters after those in `before`, whose last one stands in front -/
def lowerAfter : List Char → List Char → List Char
  | _, [] => []
  | before, c :: rest =>
    let lower := if c = 'Σ' then (if meetsCased before && !meetsCased rest then ['ς'] else ['σ']) else lowerChar c
    lower ++ lowerAfter (c :: before) rest

def lowercase (text : String) : String := String.ofList (lowerAfter [] text.toList)

end AttemptLog.Text
