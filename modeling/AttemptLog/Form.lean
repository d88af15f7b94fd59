import AttemptLog.History
import AttemptLog.Step.Reader
import AttemptLog.Text.Quoted
/-!
What clients send: the forms for beginning an attempt, for handing in a response, for a draft and for a verdict.

A form that can be read may still be refused. `Response.flaw?` says which responses are accepted: at most 256 fields,
each with a name that is not empty, is not longer than 128 bytes and does not begin with a colon. Such names are
reserved for the control of questions.
-/
namespace AttemptLog

open Json

inductive ResponseFlaw where
  | tooManyFields
  | badName (name : String)
  deriving DecidableEq

namespace Response

def maxFields : Nat := 256

def maxNameBytes : Nat := 128

def acceptsName (name : String) : Bool :=
  name != "" && name.utf8ByteSize ≤ maxNameBytes && name.toList.head? != some ':'

/-- why a response is refused, if it is: its size counts first, then the first name that is not accepted -/
def flaw? (response : Response) : Option ResponseFlaw :=
  if maxFields < response.size then some .tooManyFields
  else (response.names.find? fun name => !acceptsName name).map .badName

end Response

inductive Complaint where
  /-- an identifier is empty or longer than sixty-four characters -/
  | badLength (part : String)
  | badResponse (response : Response) (flaw : ResponseFlaw)

namespace Complaint

def part : Complaint → String
  | .badLength part => part
  | .badResponse _ _ => "data"

/-- the name of the rule that was broken -/
def code : Complaint → String
  | .badLength _ => "length"
  | .badResponse _ .tooManyFields => "too_many_fields"
  | .badResponse _ (.badName _) => "invalid_field_name"

def message? : Complaint → Option String
  | .badLength part => some (part ++ " must be between 1 and 64 characters")
  | .badResponse _ .tooManyFields => none
  | .badResponse _ (.badName name) => some ("Invalid response field name: " ++ Text.quoted name)

def shown (response : Response) : String :=
  let entries := response.entries.map fun (name, value) =>
    Text.quoted name ++ ": String(" ++ Text.quoted value ++ ")"
  "Object \x7b" ++ ", ".intercalate entries ++ "\x7d"

def line : Complaint → String
  | .badResponse response .tooManyFields =>
    "data: Validation error: too_many_fields [\x7b\"value\": " ++ shown response ++ "\x7d]"
  | complaint => complaint.part ++ ": " ++ complaint.message?.getD ""

/-- the text of several complaints, one line for each, in order -/
def text (complaints : List Complaint) : String :=
  "\n".intercalate ((complaints.map line).mergeSort fun a b => decide (a ≤ b))

end Complaint

def checkId (part id : String) : List Complaint :=
  if 1 ≤ id.length ∧ id.length ≤ 64 then [] else [.badLength part]

def checkResponse (response : Response) : List Complaint :=
  (response.flaw?.map (.badResponse response)).toList

/-- a learner begins with a question -/
structure StartForm where
  questionId : String
  userId : String

/-- a learner hands in a response; `expected` is the last step that the learner saw -/
structure SubmitForm where
  response : Response
  mode : Mode
  expected : Option String

/-- a draft is saved automatically -/
structure DraftForm where
  response : Response
  expected : Option String

/-- a grader decides -/
structure GradeForm where
  verdict : Verdict
  response : Option Response
  expected : Option String

namespace StartForm

def complaints (form : StartForm) : List Complaint :=
  checkId "question_id" form.questionId ++ checkId "user_id" form.userId

def reader : Reader StartForm :=
  readRecord
    [.at "question_id" Prod.fst (fun parts value => (some value, parts.2)) readString,
      .at "user_id" Prod.snd (fun parts value => (parts.1, some value)) readString]
    (none, none) fun parts => do some ⟨← parts.1, ← parts.2⟩

end StartForm

namespace SubmitForm

def complaints (form : SubmitForm) : List Complaint := checkResponse form.response

def submission (form : SubmitForm) : Submission :=
  match form.mode with
  | .save => .save form.response
  | .append => .append form.response
  | .finish => .finish form.response

structure Parts where
  response : Option Response
  mode : Option Mode
  expected : Option (Option String)

/-- reads the form; a form without a mode is a save -/
def reader : Reader SubmitForm :=
  readRecord
    [.at "data" Parts.response (fun parts value => { parts with response := some value }) readTextMap,
      (Member.at "mode" Parts.mode (fun parts value => { parts with mode := some value }) readSpelled).endable,
      .at "expected_last_step_id" Parts.expected (fun parts value => { parts with expected := some value })
        (readOptional readString)]
    ⟨none, none, none⟩ fun parts => do some ⟨← parts.response, parts.mode.getD .save, parts.expected.join⟩

end SubmitForm

namespace DraftForm

def complaints (form : DraftForm) : List Complaint := checkResponse form.response

def submission (form : DraftForm) : Submission := .autosave form.response

structure Parts where
  response : Option Response
  expected : Option (Option String)

def reader : Reader DraftForm :=
  readRecord
    [.at "data" Parts.response (fun parts value => { parts with response := some value }) readTextMap,
      .at "expected_last_step_id" Parts.expected (fun parts value => { parts with expected := some value })
        (readOptional readString)]
    ⟨none, none⟩ fun parts => do some ⟨← parts.response, parts.expected.join⟩

end DraftForm

namespace GradeForm

def complaints (form : GradeForm) : List Complaint :=
  match form.response with
  | some response => checkResponse response
  | none => []

def submission (form : GradeForm) : Submission := .grade form.verdict form.response

structure Parts where
  verdict : Option Verdict
  response : Option (Option Response)
  expected : Option (Option String)

def reader : Reader GradeForm :=
  readRecord
    [.at "state" Parts.verdict (fun parts value => { parts with verdict := some value }) readSpelled,
      .at "data" Parts.response (fun parts value => { parts with response := some value }) (readOptional readTextMap),
      .at "expected_last_step_id" Parts.expected (fun parts value => { parts with expected := some value })
        (readOptional readString)]
    ⟨none, none, none⟩ fun parts => do some ⟨← parts.verdict, parts.response.join, parts.expected.join⟩

end GradeForm

end AttemptLog
