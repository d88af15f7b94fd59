/-!
Finite maps from names to values.

A map is the list of its entries in strictly increasing order of names (by code point), so each map has exactly
one form: two maps are equal when they hold the same entries, whatever the order of the insertions that built them.

`get?_insert` says what an insertion changes. A map can be built from pairs by insertions (`ofList`) or all at once
(`collect`).
-/
namespace AttemptLog

/-- a finite map from names to values, as its entries in increasing order of names -/
structure Keyed (α : Type) where
  entries : List (String × α)
  sorted : entries.Pairwise fun a b => a.1 < b.1
  deriving DecidableEq

namespace Keyed

variable {α β : Type}

/-- entries after setting one name; the place of the name is found by comparison, so sorted entries stay sorted -/
def setEntry (name : String) (value : α) : List (String × α) → List (String × α)
  | [] => [(name, value)]
  | entry :: rest =>
    if name < entry.1 then (name, value) :: entry :: rest
    else if entry.1 < name then entry :: setEntry name value rest
    else (name, value) :: rest

theorem mem_setEntry {name : String} {value : α} {entry : String × α} {entries : List (String × α)}
    (h : entry ∈ setEntry name value entries) : entry = (name, value) ∨ entry ∈ entries := by
  induction entries with
  | nil => simpa [setEntry] using h
  | cons head rest ih =>
    unfold setEntry at h
    split at h
    · simpa using h
    · split at h
      · rcases List.mem_cons.1 h with h | h
        · exact .inr (by simp [h])
        · exact (ih h).imp_right (List.mem_cons_of_mem _)
      · rcases List.mem_cons.1 h with h | h
        · exact .inl h
        · exact .inr (List.mem_cons_of_mem _ h)

theorem sorted_setEntry {entries : List (String × α)} (name : String) (value : α)
    (h : entries.Pairwise fun a b => a.1 < b.1) :
    (setEntry name value entries).Pairwise fun a b => a.1 < b.1 := by
  induction entries with
  | nil => simp [setEntry]
  | cons head rest ih =>
    have hhead : ∀ {entry}, entry ∈ rest → head.1 < entry.1 := fun hmem => List.rel_of_pairwise_cons h hmem
    have hrest := List.Pairwise.of_cons h
    unfold setEntry
    split
    · next hlt =>
      refine List.Pairwise.cons (fun entry hmem => ?_) h
      rcases List.mem_cons.1 hmem with rfl | hmem
      · exact hlt
      · exact String.lt_trans hlt (hhead hmem)
    · next hnot =>
      split
      · next hlt =>
        refine List.Pairwise.cons (fun entry hmem => ?_) (ih hrest)
        rcases mem_setEntry hmem with rfl | hmem
        · exact hlt
        · exact hhead hmem
      · next hnot' =>
        have heq : head.1 = name := String.le_antisymm (String.not_lt.1 hnot) (String.not_lt.1 hnot')
        exact List.Pairwise.cons (fun entry hmem => by simpa [heq] using hhead hmem) hrest

def empty : Keyed α := ⟨[], List.Pairwise.nil⟩

instance : Inhabited (Keyed α) := ⟨empty⟩

instance : EmptyCollection (Keyed α) := ⟨empty⟩

/-- sets the value of a name, in place of any value it had -/
def insert (m : Keyed α) (name : String) (value : α) : Keyed α :=
  ⟨setEntry name value m.entries, sorted_setEntry name value m.sorted⟩

/-- the value of a name in a list of entries, of the first entry with that name -/
def valueOf? (name : String) : List (String × α) → Option α
  | [] => none
  | entry :: rest => if entry.1 = name then some entry.2 else valueOf? name rest

def get? (m : Keyed α) (name : String) : Option α := valueOf? name m.entries

def contains (m : Keyed α) (name : String) : Bool := (m.get? name).isSome

def size (m : Keyed α) : Nat := m.entries.length

def isEmpty (m : Keyed α) : Bool := m.entries.isEmpty

/-- the map that a list of pairs builds from left to right: of two pairs with one name the later counts -/
def ofList (pairs : List (String × α)) : Keyed α :=
  pairs.foldl (fun m pair => m.insert pair.1 pair.2) empty

def byName (a b : String × α) : Bool := decide (a.1 ≤ b.1)

theorem byName_trans (a b c : String × α) (hab : byName a b = true) (hbc : byName b c = true) : byName a c = true :=
  decide_eq_true (String.le_trans (of_decide_eq_true hab) (of_decide_eq_true hbc))

theorem byName_total (a b : String × α) : (byName a b || byName b a) = true := by
  simpa [byName] using String.le_total a.1 b.1

/-- of neighbours with one name only the last -/
def keepLast : List (String × α) → List (String × α)
  | [] => []
  | [entry] => [entry]
  | entry :: next :: rest => if entry.1 = next.1 then keepLast (next :: rest) else entry :: keepLast (next :: rest)

theorem mem_of_mem_keepLast {entry : String × α} {entries : List (String × α)} (h : entry ∈ keepLast entries) :
    entry ∈ entries := by
  fun_induction keepLast entries with
  | case1 => exact h
  | case2 => exact h
  | case3 first next rest hname ih => exact List.mem_cons_of_mem _ (ih h)
  | case4 first next rest hname ih =>
    rcases List.mem_cons.1 h with rfl | hmem
    · exact List.mem_cons_self
    · exact List.mem_cons_of_mem _ (ih hmem)

theorem sorted_keepLast {entries : List (String × α)} (h : entries.Pairwise fun a b => byName a b = true) :
    (keepLast entries).Pairwise fun a b => a.1 < b.1 := by
  fun_induction keepLast entries with
  | case1 => exact List.Pairwise.nil
  | case2 entry => exact List.pairwise_singleton _ _
  | case3 first next rest hname ih => exact ih (List.Pairwise.of_cons h)
  | case4 first next rest hname ih =>
    have hrest := List.Pairwise.of_cons h
    have hless : first.1 < next.1 :=
      Std.lt_of_le_of_ne (of_decide_eq_true (List.rel_of_pairwise_cons h List.mem_cons_self)) hname
    refine List.Pairwise.cons (fun entry hmem => ?_) (ih hrest)
    rcases List.mem_cons.1 (mem_of_mem_keepLast hmem) with rfl | hmem
    · exact hless
    · exact Std.lt_of_lt_of_le hless (of_decide_eq_true (List.rel_of_pairwise_cons hrest hmem))

/-- the map that is collected from pairs at once: they are sorted by name, pairs with one name staying in their order,
and of those the last counts -/
def collect (pairs : List (String × α)) : Keyed α :=
  ⟨keepLast (pairs.mergeSort byName), sorted_keepLast (List.pairwise_mergeSort byName_trans byName_total pairs)⟩

/-- the names, in increasing order -/
def names (m : Keyed α) : List String := m.entries.map (·.1)

/-- the values, in order of their names -/
def values (m : Keyed α) : List α := m.entries.map (·.2)

theorem valueOf?_setEntry (name other : String) (value : α) (entries : List (String × α)) :
    valueOf? other (setEntry name value entries) = if other = name then some value else valueOf? other entries := by
  induction entries with
  | nil => simp [setEntry, valueOf?, eq_comm]
  | cons head rest ih =>
    unfold setEntry
    split
    · by_cases h : name = other <;> simp [valueOf?, h, eq_comm]
    · next hnot =>
      split
      · next hlt =>
        have hne : head.1 ≠ name := fun h => String.lt_irrefl name (h ▸ hlt)
        by_cases h : head.1 = other
        · simp [valueOf?, h, show other ≠ name from h ▸ hne]
        · simp [valueOf?, h, ih]
      · next hnot' =>
        have heq : head.1 = name := String.le_antisymm (String.not_lt.1 hnot) (String.not_lt.1 hnot')
        by_cases h : name = other <;> simp [valueOf?, heq, h, eq_comm]

@[simp]
theorem get?_empty (name : String) : (empty : Keyed α).get? name = none := rfl

@[simp]
theorem get?_insert (m : Keyed α) (name other : String) (value : α) :
    (m.insert name value).get? other = if other = name then some value else m.get? other :=
  valueOf?_setEntry name other value m.entries

end Keyed

end AttemptLog
