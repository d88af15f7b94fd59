import AttemptLog.Database.Command
import AttemptLog.Step
/-!
Attempts and steps as documents.

A document must have all members of the stored form, with values of their kinds; members beyond those do not count.
On the way to the database the end of a name is marked by U+0000, so names that hold it cannot be sent.
-/
namespace AttemptLog.Database

mutual

/-- can a document be sent: no name in it holds the mark of its end -/
def isSendable : Document → Bool
  | .array items => areSendable items
  | .object members => haveSendable members
  | .null | .bool _ | .number _ _ | .string _ => true

def areSendable : List Document → Bool
  | [] => true
  | item :: rest => isSendable item && areSendable rest

def haveSendable : List (String × Document) → Bool
  | [] => true
  | (name, value) :: rest => !name.toList.contains '\x00' && isSendable value && haveSendable rest

end

def Command.isSendable : Command → Bool
  | .insert _ document => Database.isSendable document
  | _ => true

def textMember? (name : String) (document : Document) : Option String :=
  match document.member? name with
  | some (.string text) => some text
  | _ => none

/-- a member that is the text of an instant -/
def timeMember? (name : String) (document : Document) : Option Instant :=
  (textMember? name document).bind fun text => Instant.read? text.toList

/-- a member that is a whole number of thirty-two bits -/
def numberMember? (name : String) (document : Document) : Option UInt32 :=
  match document.member? name with
  | some (.number digits 0) => if 0 ≤ digits ∧ digits < UInt32.size then some (.ofNat digits.toNat) else none
  | _ => none

/-- a member's name and its text -/
def textEntry? : String × Json.Value → Option (String × String)
  | (name, .string text) => some (name, text)
  | _ => none

def responseMember? (name : String) (document : Document) : Option Response :=
  match document.member? name with
  | some (.object members) => (members.mapM textEntry?).map Keyed.ofList
  | _ => none

/-- a member that is a truth value; false if it is missing -/
def flagMember? (name : String) (document : Document) : Option Bool :=
  match document.member? name with
  | none => some false
  | some (.bool value) => some value
  | some _ => none

def step? (document : Document) : Option Step := do
  some ⟨← textMember? "_id" document, ← textMember? "attempt_id" document, ← numberMember? "sequence_number" document,
    ← (textMember? "state" document).bind ofSpelling?, ← responseMember? "data" document,
    ← timeMember? "timestamp" document, ← flagMember? "autosave" document⟩

def attempt? (document : Document) : Option Attempt := do
  some ⟨← textMember? "_id" document, ← textMember? "question_id" document, ← textMember? "user_id" document,
    ← timeMember? "created_at" document⟩

end AttemptLog.Database
