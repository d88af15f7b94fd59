import AttemptLog.Settings
import AttemptLog.Settings.DotEnv
import AttemptLog.Settings.FileTree
import AttemptLog.Settings.Toml
/-!
Where settings come from.

First the variables of the process are completed from files of variables. The stage that the service runs in then
chooses a settings file. Each setting is taken from the variables with the service's mark, else from the settings
file, else from a plain variable, else it has a default. A setting that cannot be read as what is needed counts as
missing.

A library reads the file and puts its settings and those of the variables into one tree. What is not known of it is a
parameter, `SettingsLibrary`: it keeps members in hashed collections, which give them out in any order, and it knows
more formats than the one that the service uses.
-/
namespace AttemptLog

/-- the order in which a hashed collection gives out its members -/
structure Shuffle where
  of : List (String × Setting) → List (String × Setting)
  perm : ∀ members, (of members).Perm members

/-- what reads settings -/
structure SettingsLibrary where
  /-- the endings of files of its formats, in the order in which they are tried -/
  endings : List String
  knowsToml : ".toml" ∈ endings
  /-- the members in a text of the format with this ending, which is another one than TOML; none if it is not of it -/
  readOther? : String → String → Option (List (String × Setting))
  fileOrder : Shuffle
  variableOrder : Shuffle

/-- what settings are loaded from -/
structure Surroundings where
  environment : Environment
  tree : FileTree

namespace Surroundings

def variableFile : String := ".env"

/-- the variables after those of the nearest file of variables, if there is one -/
def completeNearest? (surroundings : Surroundings) (environment : Environment) : Option Environment :=
  match surroundings.tree.nearest? variableFile with
  | some file => (DotEnv.load environment file).map (·.1)
  | none => some environment

/-- the variables of the process, completed from the file of the installation, two directories out; the nearest file is
read if that one is not wanted, missing or not well formed. There are none if a variable of a file cannot be set. -/
def completed? (surroundings : Surroundings) : Option Environment :=
  if surroundings.environment.contains "SKIP_ROOT_ENV" then surroundings.completeNearest? surroundings.environment
  else
    match surroundings.tree.text? ["..", "..", variableFile] with
    | none => surroundings.completeNearest? surroundings.environment
    | some file =>
      (DotEnv.load surroundings.environment file).bind fun (environment, isWhole) =>
        if isWhole then some environment else surroundings.completeNearest? environment

end Surroundings

def stageName (environment : Environment) : String := (environment.get? "APP_ENV").getD "dev"

/-- a name with all double underscores made points -/
def dottedName : List Char → List Char
  | '_' :: '_' :: rest => '.' :: dottedName rest
  | c :: rest => c :: dottedName rest
  | [] => []

/-- the name that a variable with the service's mark has among the settings -/
def settingName? (name : String) : Option String :=
  let lower := (Text.lowercase name).toList
  let mark := "app__".toList
  if mark.isPrefixOf lower then some (String.ofList (dottedName (lower.drop mark.length))) else none

namespace Environment

/-- the names among the settings that variables with the mark have, with their values, in the order in which they were
set -/
def marks (environment : Environment) : List (String × String) :=
  environment.entries.filterMap fun entry => (settingName? entry.1).map fun name => (name, entry.2)

/-- the settings that the variables with the mark give; of two for one name the later one counts -/
def settings (environment : Environment) : List (String × Setting) :=
  environment.marks.foldl (fun members mark => Setting.putMember mark.1 (.text mark.2) members) []

end Environment

namespace SettingsLibrary

/-- a library that knows no other format than TOML and keeps members in order -/
def toml : SettingsLibrary where
  endings := [".toml"]
  knowsToml := List.mem_singleton_self _
  readOther? _ _ := none
  fileOrder := ⟨id, fun _ => .rfl⟩
  variableOrder := ⟨id, fun _ => .rfl⟩

variable (library : SettingsLibrary)

/-- the settings file of a stage, whose name may be a path from the directory of settings, with the ending that it was
found by -/
def stageFile? (tree : FileTree) (stage : String) : Option (String × String) :=
  library.endings.findSome? fun ending =>
    (tree.withEnding? ending ("config" :: (stage.toList.splitOn '/').map String.ofList)).map (ending, ·)

/-- the members that stand in a settings file, and none without a file; there is no result if it is not of its format -/
def members? : Option (String × String) → Option (List (String × Setting))
  | none => some []
  | some (ending, text) => if ending = ".toml" then Toml.read? text else library.readOther? ending text

/-- the tree of all settings, from the members that stand in the file -/
def settingTree (environment : Environment) (members : List (String × Setting)) : Setting :=
  Setting.addAll (library.variableOrder.of environment.settings)
    (Setting.addAll (library.fileOrder.of members) (.table []))

end SettingsLibrary

def isPlainYes (word : String) : Bool := word == "1" || word.toLower == "true"

namespace Settings

/-- the first of a setting and a plain variable that is there -/
def textFrom? (tree : Setting) (environment : Environment) (path : List String) (plain : String) : Option String :=
  ((tree.at? path).bind Setting.text?) <|> environment.get? plain

/-- the first of a setting and a plain variable that is there, as a truth value -/
def truthFrom? (tree : Setting) (environment : Environment) (path : List String) (plain : String) : Option Bool :=
  ((tree.at? path).bind Setting.truth?) <|> (environment.get? plain).map isPlainYes

def backendFrom (tree : Setting) (environment : Environment) : Except SettingsFault Backend :=
  match textFrom? tree environment ["storage", "backend"] "STORAGE_BACKEND" with
  | some name => Backend.parse name
  | none => .ok .database

def ofTree (tree : Setting) (environment : Environment) (stage : String) : Except SettingsFault Settings := do
  let text (path : List String) (plain default : String) : String :=
    (textFrom? tree environment path plain).getD default
  let backend ← backendFrom tree environment
  let credential := text ["metrics", "auth"] "METRICS_AUTH" defaultCredential
  if stage = "prod" ∧ credential = defaultCredential then throw .openCredential
  pure {
    databaseUri := text ["database", "mongo_uri"] "MONGO_URI" "mongodb://localhost:27017/?replicaSet=rs0"
    databaseName := text ["database", "mongo_database"] "MONGO_DATABASE" "questionengine"
    backend := backend
    address := text ["server", "bind_addr"] "BIND_ADDR" "0.0.0.0:8081"
    credential := credential
    sendsTraces := (truthFrom? tree environment ["telemetry", "otlp_enabled"] "OTEL_ENABLED").getD false }

def load (library : SettingsLibrary) (surroundings : Surroundings) : Except SettingsFault Settings := do
  let some environment := surroundings.completed? | throw .unsettable
  let stage := stageName environment
  let some members := library.members? (library.stageFile? surroundings.tree stage) | throw .badFile
  ofTree (library.settingTree environment members) environment stage

end Settings

end AttemptLog
