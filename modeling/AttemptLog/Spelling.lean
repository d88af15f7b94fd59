/-!
Closed sets of named values.

Each value of such a set has one spelling, the one that stored records and requests use.

`ofSpelling?_eq_some` says that reading a spelling gives a value with that spelling and no other.
-/
namespace AttemptLog

/-- a finite set of values, each with its spelling -/
class Spelled (α : Type) where
  all : List α
  spelling : α → String

export Spelled (spelling)

def ofSpelling? {α : Type} [Spelled α] (text : String) : Option α :=
  Spelled.all.find? fun value => spelling value == text

theorem ofSpelling?_eq_some {α : Type} [Spelled α] {text : String} {value : α} (h : ofSpelling? text = some value) :
    spelling value = text := by
  simpa using List.find?_some h

end AttemptLog
