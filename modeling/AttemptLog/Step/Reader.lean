import AttemptLog.Json.Reader
import AttemptLog.Step
/-!
Reading stored attempts and steps.
-/
namespace AttemptLog

open Json

def readInstant : Reader Instant := readMeaning fun text => Instant.read? text.toList

/-- the fields of a step that were read so far -/
structure Step.Parts where
  id : Option String
  attemptId : Option String
  number : Option UInt32
  state : Option State
  response : Option Response
  time : Option Instant
  isDraft : Option Bool

/-- the fields of a stored step; a step that does not say so is no draft -/
def Step.fields : List (Member Step.Parts) :=
  [.at "_id" Parts.id (fun parts value => { parts with id := some value }) readString,
    .at "attempt_id" Parts.attemptId (fun parts value => { parts with attemptId := some value }) readString,
    .at "sequence_number" Parts.number (fun parts value => { parts with number := some value }) readUInt32,
    .at "state" Parts.state (fun parts value => { parts with state := some value }) readSpelled,
    .at "data" Parts.response (fun parts value => { parts with response := some value }) readTextMap,
    .at "timestamp" Parts.time (fun parts value => { parts with time := some value }) readInstant,
    (Member.at "autosave" Parts.isDraft (fun parts value => { parts with isDraft := some value }) readBool).endable]

def Step.Parts.step? (parts : Step.Parts) : Option Step := do
  some ⟨← parts.id, ← parts.attemptId, ← parts.number, ← parts.state, ← parts.response, ← parts.time,
    parts.isDraft.getD false⟩

def Step.reader : Reader Step := readRecord Step.fields ⟨none, none, none, none, none, none, none⟩ Step.Parts.step?

structure Attempt.Parts where
  id : Option String
  questionId : Option String
  userId : Option String
  created : Option Instant

def Attempt.fields : List (Member Attempt.Parts) :=
  [.at "_id" Parts.id (fun parts value => { parts with id := some value }) readString,
    .at "question_id" Parts.questionId (fun parts value => { parts with questionId := some value }) readString,
    .at "user_id" Parts.userId (fun parts value => { parts with userId := some value }) readString,
    .at "created_at" Parts.created (fun parts value => { parts with created := some value }) readInstant]

def Attempt.Parts.attempt? (parts : Attempt.Parts) : Option Attempt := do
  some ⟨← parts.id, ← parts.questionId, ← parts.userId, ← parts.created⟩

def Attempt.reader : Reader Attempt :=
  readRecord Attempt.fields ⟨none, none, none, none⟩ Attempt.Parts.attempt?

def Step.read (text : String) : Except Refusal Step := Step.reader.whole (.ofString text)

def Attempt.read (text : String) : Except Refusal Attempt := Attempt.reader.whole (.ofString text)

end AttemptLog
