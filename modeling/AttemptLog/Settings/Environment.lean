/-!
The variables of a process.

Variables stand in the order in which they were set, since of two names that differ only in letter case the one that
was set later counts. A variable that has a value keeps it.

`get?_of_define?` says what setting a variable changes, and `define?_eq_none_iff` when it cannot be set.
-/
namespace AttemptLog

/-- variables in the order in which they were set -/
structure Environment where
  entries : List (String × String)
  deriving DecidableEq

namespace Environment

def get? (environment : Environment) (name : String) : Option String := environment.entries.lookup name

def contains (environment : Environment) (name : String) : Bool := (environment.get? name).isSome

/-- gives a value to a variable that has none. A process takes no value with U+0000 in it: there is no result, and the
program comes to its end. -/
def define? (environment : Environment) (name value : String) : Option Environment :=
  if environment.contains name then some environment
  else if '\x00' ∈ value.toList then none
  else some ⟨environment.entries ++ [(name, value)]⟩

theorem get?_of_define? {environment after : Environment} {name value : String}
    (h : environment.define? name value = some after) (other : String) :
    after.get? other = (environment.get? other <|> if other = name then some value else none) := by
  unfold define? contains at h
  split at h
  · next hold =>
    obtain ⟨found, hfound⟩ := Option.isSome_iff_exists.1 hold
    cases h
    by_cases hname : other = name <;> simp [hname, hfound]
  · split at h
    · cases h
    · cases h
      unfold get?
      by_cases hname : other = name
      · simp [List.lookup_append, hname]
      · simp [List.lookup_append, List.lookup_cons, hname, beq_eq_false_iff_ne.2 hname]

theorem define?_eq_none_iff {environment : Environment} {name value : String} :
    environment.define? name value = none ↔ environment.get? name = none ∧ '\x00' ∈ value.toList := by
  unfold define? contains
  cases hold : environment.get? name with
  | some found => simp
  | none => by_cases hzero : '\x00' ∈ value.toList <;> simp [hzero]

end Environment

end AttemptLog
