import AttemptLog.Json.Reader
import AttemptLog.Text.Class
import AttemptLog.Text.Lowercase
/-!
What the service is set up with.
-/
namespace AttemptLog

open Json

inductive Backend where
  | database
  | memory
  deriving DecidableEq

instance : Spelled Backend where
  all := [.database, .memory]
  spelling
    | .database => "mongo"
    | .memory => "memory"

inductive SettingsFault where
  | unknownBackend (name : String)
  /-- the credential that everybody knows must not be used in production -/
  | openCredential
  /-- the settings file is not of its format -/
  | badFile
  /-- a file of variables holds a value that no process takes; the program comes to its end there -/
  | unsettable
  deriving DecidableEq

/-- the text of a fault that the service words itself -/
def SettingsFault.message? : SettingsFault → Option String
  | .unknownBackend name => some ("Unknown storage backend: " ++ name)
  | .openCredential => some "METRICS_AUTH must be set in production"
  | .badFile | .unsettable => none

/-- the backend that a name stands for, whatever its letter case and the blanks around it -/
def Backend.parse (name : String) : Except SettingsFault Backend :=
  let lower := Text.lowercase (String.ofList (Text.trim name.toList))
  if lower = "mongo" ∨ lower = "mongodb" then .ok .database
  else if lower = "memory" then .ok .memory
  else .error (.unknownBackend lower)

/-- the credential for the counts that is used if none is set -/
def defaultCredential : String := "admin:changeme"

structure Settings where
  databaseUri : String
  databaseName : String
  backend : Backend
  address : String
  credential : String
  sendsTraces : Bool
  deriving DecidableEq

namespace Settings

/-- the settings without a database -/
def inMemory : Settings where
  databaseUri := ""
  databaseName := "questionengine"
  backend := .memory
  address := "127.0.0.1:0"
  credential := defaultCredential
  sendsTraces := false

structure Parts where
  databaseUri : Option String
  databaseName : Option String
  backend : Option Backend
  address : Option String
  credential : Option String
  sendsTraces : Option Bool

def fields : List (Member Parts) :=
  [.at "mongo_uri" Parts.databaseUri (fun parts value => { parts with databaseUri := some value }) readString,
    .at "mongo_database" Parts.databaseName (fun parts value => { parts with databaseName := some value }) readString,
    .at "storage_backend" Parts.backend (fun parts value => { parts with backend := some value }) readSpelled,
    .at "bind_addr" Parts.address (fun parts value => { parts with address := some value }) readString,
    .at "metrics_auth" Parts.credential (fun parts value => { parts with credential := some value }) readString,
    .at "otlp_enabled" Parts.sendsTraces (fun parts value => { parts with sendsTraces := some value }) readBool]

def Parts.settings? (parts : Parts) : Option Settings := do
  some ⟨← parts.databaseUri, ← parts.databaseName, ← parts.backend, ← parts.address, ← parts.credential,
    ← parts.sendsTraces⟩

def reader : Reader Settings := readRecord fields ⟨none, none, none, none, none, none⟩ Parts.settings?

end Settings

end AttemptLog
