import AttemptLog.Settings.Load
import Mathlib.Tactic
/-!
Which variables files of variables give to a process.

A variable that has a value keeps it, so what the lines of a file give is a list of variables of which the first one
of a name counts, and only where the process has none (`get?_of_complete?`). `Surroundings.reading` is that list for
all files that are read; `get?_of_completed?` says what it adds to the variables of the process, and
`completed?_eq_none_iff` when it holds a value that no process takes.
-/
namespace AttemptLog

namespace Environment

/-- the variables after those of a list, each of which counts if its name has no value yet; none if one cannot be set -/
def complete? (environment : Environment) (pairs : List (String × String)) : Option Environment :=
  pairs.foldlM (fun environment pair => environment.define? pair.1 pair.2) environment

variable {environment after : Environment}

theorem complete?_cons (environment : Environment) (pair : String × String) (pairs : List (String × String)) :
    environment.complete? (pair :: pairs) =
      (environment.define? pair.1 pair.2).bind fun environment => environment.complete? pairs := rfl

theorem complete?_append (environment : Environment) (first second : List (String × String)) :
    environment.complete? (first ++ second) =
      (environment.complete? first).bind fun environment => environment.complete? second :=
  List.foldlM_append

theorem get?_of_complete? {pairs : List (String × String)} (h : environment.complete? pairs = some after)
    (name : String) : after.get? name = (environment.get? name <|> pairs.lookup name) := by
  induction pairs generalizing environment with
  | nil =>
    cases h
    simp
  | cons pair pairs ih =>
    rw [complete?_cons] at h
    obtain ⟨next, hnext, hafter⟩ := Option.bind_eq_some_iff.1 h
    rw [ih hafter, get?_of_define? hnext, List.lookup_cons]
    cases environment.get? name with
    | some value => rfl
    | none => by_cases hname : name = pair.1 <;> simp [hname, beq_eq_false_iff_ne.2]

/-- variables cannot be set if and only if the first value for a name that has none yet is no value for a process -/
theorem complete?_eq_none_iff {pairs : List (String × String)} :
    environment.complete? pairs = none ↔
      ∃ name value, environment.get? name = none ∧ pairs.lookup name = some value ∧ '\x00' ∈ value.toList := by
  induction pairs generalizing environment with
  | nil => simp [complete?]
  | cons pair pairs ih =>
    obtain ⟨name, value⟩ := pair
    rw [complete?_cons]
    cases hnext : environment.define? name value with
    | none =>
      obtain ⟨hold, hzero⟩ := define?_eq_none_iff.1 hnext
      exact iff_of_true rfl ⟨name, value, hold, by simp, hzero⟩
    | some next =>
      rw [Option.bind_some, ih]
      have hget (other : String) : next.get? other = none ↔ environment.get? other = none ∧ other ≠ name := by
        rw [get?_of_define? hnext]
        cases environment.get? other <;> simp
      constructor
      · rintro ⟨other, found, hnone, hfound, hzero⟩
        obtain ⟨hold, hother⟩ := (hget other).1 hnone
        exact ⟨other, found, hold, by rwa [List.lookup_cons, beq_eq_false_iff_ne.2 hother], hzero⟩
      · rintro ⟨other, found, hold, hfound, hzero⟩
        rw [List.lookup_cons] at hfound
        by_cases hother : other = name
        · -- the value of this name could be set, so it is not the one with U+0000
          subst hother
          rw [beq_self_eq_true, Option.some.injEq] at hfound
          subst hfound
          rw [define?_eq_none_iff.2 ⟨hold, hzero⟩] at hnext
          cases hnext
        · rw [beq_eq_false_iff_ne.2 hother] at hfound
          exact ⟨other, found, (hget other).2 ⟨hold, hother⟩, hfound, hzero⟩

end Environment

namespace DotEnv

/-- the variables that lines give to a process with these variables, up to the first line that is not well formed, or
to a value that cannot be set -/
def given : Environment → List (Option (List Char)) → List (String × String)
  | _, [] => []
  | _, none :: _ => []
  | environment, some line :: rest =>
    match readLine? environment line with
    | none => []
    | some none => given environment rest
    | some (some (name, value)) =>
      (name, value) :: (environment.define? name value).elim [] fun environment => given environment rest

theorem loadLines_fst (environment : Environment) (lines : List (Option (List Char))) :
    (loadLines environment lines).map (·.1) = environment.complete? (given environment lines) := by
  induction lines generalizing environment with
  | nil => rfl
  | cons line lines ih =>
    cases line with
    | none => rfl
    | some line =>
      rw [loadLines, given]
      rcases readLine? environment line with _ | _ | ⟨name, value⟩
      · rfl
      · exact ih environment
      · dsimp only
        rw [Environment.complete?_cons]
        cases hnext : environment.define? name value with
        | none => rfl
        | some next => exact ih next

/-- the variables that a file gives to a process with these variables -/
def reading (environment : Environment) (file : String) : List (String × String) :=
  given environment (joinLines .plain [] (splitLines (dropMark file.toList)))

def isWhole (environment : Environment) (file : String) : Bool := (load environment file).any (·.2)

theorem load_eq (environment : Environment) (file : String) :
    load environment file =
      (environment.complete? (reading environment file)).map fun after => (after, isWhole environment file) := by
  rw [reading, ← loadLines_fst, ← load, Option.map_map, isWhole]
  cases load environment file with
  | none => rfl
  | some after => rfl

end DotEnv

namespace Surroundings

variable (surroundings : Surroundings)

/-- the variables that the nearest file of variables gives, if there is one -/
def nearestReading (environment : Environment) : List (String × String) :=
  (surroundings.tree.nearest? variableFile).elim [] (DotEnv.reading environment)

/-- the file of variables of the installation, two directories out, if it is wanted -/
def rootFile? : Option String :=
  if surroundings.environment.contains "SKIP_ROOT_ENV" then none
  else surroundings.tree.text? ["..", "..", variableFile]

/-- the variables that files give, of which the first one of a name counts: those of the installation's file; and
those of the nearest file, if the installation's is not wanted, missing, or has a line that is not well formed -/
def reading : List (String × String) :=
  match surroundings.rootFile? with
  | none => surroundings.nearestReading surroundings.environment
  | some file =>
    let first := DotEnv.reading surroundings.environment file
    if DotEnv.isWhole surroundings.environment file then first
    else first ++ (surroundings.environment.complete? first).elim [] surroundings.nearestReading

theorem completeNearest?_eq (environment : Environment) :
    surroundings.completeNearest? environment = environment.complete? (surroundings.nearestReading environment) := by
  unfold completeNearest? nearestReading
  cases surroundings.tree.nearest? variableFile with
  | none => rfl
  | some file =>
    change (DotEnv.load environment file).map (·.1) = environment.complete? (DotEnv.reading environment file)
    rw [DotEnv.load_eq, Option.map_map]
    exact Option.map_id'

theorem completed?_eq : surroundings.completed? = surroundings.environment.complete? surroundings.reading := by
  unfold completed? reading rootFile?
  split_ifs with hskip
  · exact surroundings.completeNearest?_eq _
  · cases surroundings.tree.text? ["..", "..", variableFile] with
    | none => exact surroundings.completeNearest?_eq _
    | some file =>
      simp only [DotEnv.load_eq, Option.bind_map, Function.comp_def]
      cases hwhole : DotEnv.isWhole surroundings.environment file with
      | true => simp only [ite_true, Option.bind_fun_some]
      | false =>
        simp only [Bool.false_eq_true, ite_false, Environment.complete?_append]
        cases hfirst : surroundings.environment.complete? (DotEnv.reading surroundings.environment file) with
        | none => rfl
        | some after => exact surroundings.completeNearest?_eq after

/-- **A variable has the value that it has in the process,** or else the first one that the files give it. -/
theorem get?_of_completed? {surroundings : Surroundings} {environment : Environment}
    (h : surroundings.completed? = some environment) (name : String) :
    environment.get? name = (surroundings.environment.get? name <|> surroundings.reading.lookup name) :=
  Environment.get?_of_complete? (surroundings.completed?_eq.symm.trans h) name

theorem completed?_eq_none_iff {surroundings : Surroundings} :
    surroundings.completed? = none ↔
      ∃ name value, surroundings.environment.get? name = none ∧ surroundings.reading.lookup name = some value ∧
        '\x00' ∈ value.toList := by
  rw [completed?_eq, Environment.complete?_eq_none_iff]

end Surroundings

end AttemptLog
