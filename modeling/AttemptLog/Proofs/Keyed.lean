import AttemptLog.Keyed
import Mathlib.Data.List.Sort
import Mathlib.Tactic
/-!
Finite maps are determined by what they answer.

`get?_eq_some_iff` reads a value off the entries, and `ext_get?` says that two maps with the same answers are the same
map. Setting a name to the value that it has already is therefore no change (`insert_of_get?`). A map that is built
from pairs answers the last value of a name (`get?_ofList`), in whatever way it is built (`collect_eq_ofList`), so it
can be built again from its entries (`ofList_entries`). `total` adds up a number over all values, and `total_insert`
says what an insertion adds to it.
-/
namespace AttemptLog.Keyed

variable {α : Type}

theorem valueOf?_eq_some_iff {name : String} {value : α} {entries : List (String × α)}
    (h : entries.Pairwise fun a b => a.1 < b.1) :
    valueOf? name entries = some value ↔ (name, value) ∈ entries := by
  induction entries with
  | nil => simp [valueOf?]
  | cons head rest ih =>
    have hhead : ∀ entry ∈ rest, head.1 < entry.1 := fun entry hmem => List.rel_of_pairwise_cons h hmem
    have hrest := ih (List.Pairwise.of_cons h)
    by_cases hname : head.1 = name
    · subst hname
      have hnot : (head.1, value) ∉ rest := fun hmem => String.lt_irrefl head.1 (hhead (head.1, value) hmem)
      simp only [valueOf?, ite_true, Option.some.injEq, List.mem_cons, hnot, or_false]
      constructor
      · rintro rfl
        rfl
      · intro heq
        rw [← heq]
    · have hne : (name, value) ≠ head := fun heq => hname (by rw [← heq])
      simp only [valueOf?, hname, ite_false, hrest, List.mem_cons, hne, false_or]

/-- **A map answers what its entries hold.** -/
theorem get?_eq_some_iff {m : Keyed α} {name : String} {value : α} :
    m.get? name = some value ↔ (name, value) ∈ m.entries :=
  valueOf?_eq_some_iff m.sorted

/-- **Maps with the same answers are the same map.** -/
theorem ext_get? {a b : Keyed α} (h : ∀ name, a.get? name = b.get? name) : a = b := by
  have hirrefl : Std.Irrefl fun a b : String × α => a.1 < b.1 := ⟨fun entry => String.lt_irrefl entry.1⟩
  have hantisymm : Std.Antisymm fun a b : String × α => a.1 < b.1 :=
    ⟨fun x y hxy hyx => absurd (String.lt_trans hxy hyx) (String.lt_irrefl x.1)⟩
  have hmem : ∀ entry, entry ∈ a.entries ↔ entry ∈ b.entries := by
    rintro ⟨name, value⟩
    rw [← get?_eq_some_iff, ← get?_eq_some_iff, h name]
  have hentries : a.entries = b.entries := List.Pairwise.eq_of_mem_iff a.sorted b.sorted hmem
  cases a
  cases b
  cases hentries
  rfl

theorem get?_insert_eq_some {m : Keyed α} {name other : String} {value found : α} :
    (m.insert name value).get? other = some found ↔
      (other = name ∧ value = found) ∨ (other ≠ name ∧ m.get? other = some found) := by
  rw [get?_insert]
  by_cases hother : other = name
  · simp [hother]
  · simp [hother]

theorem insert_of_get? {m : Keyed α} {name : String} {value : α} (h : m.get? name = some value) :
    m.insert name value = m := by
  apply ext_get?
  intro other
  rw [get?_insert]
  split
  · next heq => rw [heq, h]
  · rfl

theorem valueOf?_eq_none {name : String} {entries : List (String × α)} (h : ∀ entry ∈ entries, name < entry.1) :
    valueOf? name entries = none := by
  induction entries with
  | nil => rfl
  | cons head rest ih =>
    have hne : head.1 ≠ name := fun heq => String.lt_irrefl name (heq ▸ h head List.mem_cons_self)
    rw [valueOf?, if_neg hne]
    exact ih fun entry hmem => h entry (List.mem_cons_of_mem _ hmem)

/-! ## Maps from pairs -/

/-- the pairs with this name, in their order -/
def named (name : String) (pairs : List (String × α)) : List (String × α) := pairs.filter fun pair => pair.1 == name

def lastValue? (name : String) (pairs : List (String × α)) : Option α := (named name pairs).getLast?.map (·.2)

theorem lastValue?_cons (name : String) (pair : String × α) (pairs : List (String × α)) :
    lastValue? name (pair :: pairs) =
      (lastValue? name pairs).or (if name = pair.1 then some pair.2 else none) := by
  by_cases hname : name = pair.1
  · have hnamed : named name (pair :: pairs) = pair :: named name pairs := by simp [named, hname]
    rw [lastValue?, hnamed, List.getLast?_cons, if_pos hname, lastValue?]
    cases (named name pairs).getLast? <;> rfl
  · have hnamed : named name (pair :: pairs) = named name pairs := by simp [named, Ne.symm hname]
    rw [lastValue?, hnamed, if_neg hname, Option.or_none, lastValue?]

theorem isSome_lastValue? {name : String} {pairs : List (String × α)} :
    (lastValue? name pairs).isSome = true ↔ name ∈ pairs.map Prod.fst := by
  simp [lastValue?, named]

/-- a map that is built on another one answers what the pairs say, or what the other one answers -/
theorem get?_foldl_insert (pairs : List (String × α)) (m : Keyed α) (name : String) :
    (pairs.foldl (fun m pair => m.insert pair.1 pair.2) m).get? name = (lastValue? name pairs).or (m.get? name) := by
  induction pairs generalizing m with
  | nil => rfl
  | cons pair pairs ih =>
    rw [List.foldl_cons, ih, get?_insert, lastValue?_cons, Option.or_assoc]
    split <;> rfl

/-- **A map that is built from pairs answers the value of the last pair with a name.** -/
theorem get?_ofList (pairs : List (String × α)) (name : String) : (ofList pairs).get? name = lastValue? name pairs := by
  rw [ofList, get?_foldl_insert, get?_empty, Option.or_none]

/-- in entries no name stands twice, so the first value is the last one -/
theorem valueOf?_eq_lastValue? {entries : List (String × α)} (h : entries.Pairwise fun a b => a.1 < b.1)
    (name : String) : valueOf? name entries = lastValue? name entries := by
  induction entries with
  | nil => rfl
  | cons entry rest ih =>
    have hrest := ih (List.Pairwise.of_cons h)
    rw [valueOf?, lastValue?_cons, ← hrest]
    by_cases hname : name = entry.1
    · subst hname
      rw [valueOf?_eq_none fun other hmem => List.rel_of_pairwise_cons h hmem]
      simp
    · rw [if_neg (Ne.symm hname), if_neg hname, Option.or_none]

/-- **A map is built from its entries.** -/
theorem ofList_entries (m : Keyed α) : ofList m.entries = m := by
  apply ext_get?
  intro name
  rw [get?_ofList, get?, valueOf?_eq_lastValue? m.sorted]

theorem lastValue?_keepLast (name : String) (entries : List (String × α)) :
    lastValue? name (keepLast entries) = lastValue? name entries := by
  fun_induction keepLast entries with
  | case1 => rfl
  | case2 => rfl
  | case3 first next rest hname ih =>
    rw [ih, lastValue?_cons name first]
    split
    · next heq =>
      have hsome : (lastValue? name (next :: rest)).isSome = true := isSome_lastValue?.2 (by simp [heq, hname])
      obtain ⟨value, hvalue⟩ := Option.isSome_iff_exists.1 hsome
      rw [hvalue, Option.some_or]
    · rw [Option.or_none]
  | case4 first next rest hname ih => rw [lastValue?_cons name first, ih, lastValue?_cons name first]

theorem named_mergeSort (name : String) (pairs : List (String × α)) :
    named name (pairs.mergeSort byName) = named name pairs := by
  have hordered : (named name pairs).Pairwise fun a b => byName a b = true := by
    refine List.pairwise_of_forall_mem_list fun a ha b hb => decide_eq_true ?_
    have hsame : a.1 = b.1 := (eq_of_beq (List.mem_filter.1 ha).2).trans (eq_of_beq (List.mem_filter.1 hb).2).symm
    exact hsame ▸ String.le_refl a.1
  have hkept : (named name pairs).Sublist (pairs.mergeSort byName) :=
    List.sublist_mergeSort byName_trans byName_total hordered List.filter_sublist
  have hnamed : (named name pairs).Sublist (named name (pairs.mergeSort byName)) := by
    simpa [named] using hkept.filter fun pair => pair.1 == name
  exact (hnamed.eq_of_length ((List.mergeSort_perm pairs byName).symm.filter _).length_eq).symm

/-- **It makes no difference whether a map is collected at once or built by insertions.** -/
theorem collect_eq_ofList (pairs : List (String × α)) : collect pairs = ofList pairs := by
  apply ext_get?
  intro name
  calc (collect pairs).get? name = lastValue? name (keepLast (pairs.mergeSort byName)) :=
        valueOf?_eq_lastValue? (collect pairs).sorted name
    _ = lastValue? name (pairs.mergeSort byName) := lastValue?_keepLast name _
    _ = lastValue? name pairs := by rw [lastValue?, named_mergeSort, lastValue?]
    _ = (ofList pairs).get? name := (get?_ofList pairs name).symm

theorem contains_eq_false_iff {m : Keyed α} {name : String} : m.contains name = false ↔ m.get? name = none := by
  simp [contains]

theorem mem_values_iff {m : Keyed α} {value : α} : value ∈ m.values ↔ ∃ name, m.get? name = some value := by
  simp [values, get?_eq_some_iff]

theorem mem_names_iff {m : Keyed α} {name : String} : name ∈ m.names ↔ (m.get? name).isSome = true := by
  simp [names, Option.isSome_iff_exists, get?_eq_some_iff]

/-- **A map that is built from pairs has as many names as occur in them.** -/
theorem size_ofList (pairs : List (String × α)) : (ofList pairs).size = (pairs.map Prod.fst).dedup.length := by
  have hnodup : (ofList pairs).names.Nodup :=
    (List.pairwise_map.2 (ofList pairs).sorted).imp fun hless => Std.ne_of_lt hless
  have hperm : (ofList pairs).names.Perm (pairs.map Prod.fst).dedup := by
    refine (List.perm_ext_iff_of_nodup hnodup (List.nodup_dedup _)).2 fun name => ?_
    rw [mem_names_iff, get?_ofList, isSome_lastValue?, List.mem_dedup]
  calc (ofList pairs).size = (ofList pairs).names.length := (List.length_map _).symm
    _ = (pairs.map Prod.fst).dedup.length := hperm.length_eq

theorem names_eq {β : Type} {a : Keyed α} {b : Keyed β} (h : ∀ name, (a.get? name).isSome = (b.get? name).isSome) :
    a.names = b.names := by
  have hirrefl : Std.Irrefl fun a b : String => a < b := ⟨String.lt_irrefl⟩
  have hantisymm : Std.Antisymm fun a b : String => a < b :=
    ⟨fun x y hxy hyx => absurd (String.lt_trans hxy hyx) (String.lt_irrefl x)⟩
  have hmem : ∀ name, name ∈ a.names ↔ name ∈ b.names := fun name => by rw [mem_names_iff, mem_names_iff, h name]
  exact List.Pairwise.eq_of_mem_iff (List.pairwise_map.2 a.sorted) (List.pairwise_map.2 b.sorted) hmem

/-! ## Sums over all values -/

/-- the sum of a number over all values -/
def total (m : Keyed α) (measure : α → Nat) : Nat := (m.values.map measure).sum

theorem total_one (m : Keyed α) : (m.total fun _ => 1) = m.size := by
  simp [total, values, size, Function.comp_def]

theorem sum_setEntry (name : String) (value : α) (measure : α → Nat) {entries : List (String × α)}
    (h : entries.Pairwise fun a b => a.1 < b.1) :
    ((setEntry name value entries).map fun entry => measure entry.2).sum +
        ((valueOf? name entries).map measure).getD 0 =
      (entries.map fun entry => measure entry.2).sum + measure value := by
  induction entries with
  | nil => simp [setEntry, valueOf?]
  | cons head rest ih =>
    have hhead : ∀ entry ∈ rest, head.1 < entry.1 := fun entry hmem => List.rel_of_pairwise_cons h hmem
    have hrest := ih (List.Pairwise.of_cons h)
    unfold setEntry
    split
    · next hlt =>
      have hnone : valueOf? name (head :: rest) = none := by
        refine valueOf?_eq_none fun entry hmem => ?_
        rcases List.mem_cons.1 hmem with rfl | hmem
        · exact hlt
        · exact String.lt_trans hlt (hhead entry hmem)
      simp only [hnone, List.map_cons, List.sum_cons, Option.map_none, Option.getD_none]
      omega
    · next hnot =>
      split
      · next hlt =>
        have hne : head.1 ≠ name := fun heq => String.lt_irrefl name (heq ▸ hlt)
        simp only [valueOf?, hne, ite_false, List.map_cons, List.sum_cons]
        omega
      · next hnot' =>
        have heq : head.1 = name := String.le_antisymm (String.not_lt.1 hnot) (String.not_lt.1 hnot')
        simp only [valueOf?, heq, ite_true, List.map_cons, List.sum_cons, Option.map_some, Option.getD_some]
        omega

/-- **An insertion adds what the new value counts**, and takes away what the old one counted. -/
theorem total_insert (m : Keyed α) (name : String) (value : α) (measure : α → Nat) :
    (m.insert name value).total measure + ((m.get? name).map measure).getD 0 = m.total measure + measure value := by
  simpa [total, values, insert, get?, Function.comp_def] using sum_setEntry name value measure m.sorted

theorem total_eq_sum_names (m : Keyed α) (measure : α → Nat) {other : String → Nat}
    (h : ∀ name value, m.get? name = some value → other name = measure value) :
    m.total measure = (m.names.map other).sum := by
  rw [total, values, names, List.map_map, List.map_map]
  congr 1
  exact List.map_congr_left fun entry hmem => (h entry.1 entry.2 (get?_eq_some_iff.2 hmem)).symm

end AttemptLog.Keyed
