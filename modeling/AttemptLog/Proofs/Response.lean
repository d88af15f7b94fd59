import AttemptLog.History
import AttemptLog.Proofs.Json.Record
/-!
Responses are what their fields say, and nothing else.

A response can be built field by field, collected at once or read from a text, and the fields can come in any order:
as long as fields with one name keep their order it is the same response (`Rearranges.ofList_eq`), with the same text,
and no other response has this text (`Response.toJson_injective`). `response_canonical` puts this together, with what
a response answers and lists, and with what it means for a learner's fields, which can be sent in any order.
-/
namespace AttemptLog

/-! ## The order of names -/

def codePoints (text : String) : List Nat := text.toList.map Char.toNat

/-- texts stand in the order of their code points -/
theorem codePoints_lt_iff {a b : String} : codePoints a < codePoints b ↔ a < b := by
  have hchars : ∀ as bs : List Char, as.map Char.toNat < bs.map Char.toNat ↔ as < bs := by
    intro as
    induction as with
    | nil => intro bs; cases bs <;> simp
    | cons a as ih =>
      intro bs
      cases bs with
      | nil => simp
      | cons b bs =>
        rw [List.map_cons, List.map_cons, List.cons_lt_cons_iff, List.cons_lt_cons_iff, ih, Char.toNat_inj]
        rfl
  exact hchars a.toList b.toList

namespace Keyed

variable {α : Type}

/-- is a list of pairs another one in an order of its own, in which pairs with one name stay in their order -/
structure Rearranges (others pairs : List (String × α)) : Prop where
  perm : others.Perm pairs
  sameOrder : ∀ name, named name others = named name pairs

theorem Rearranges.ofList_eq {others pairs : List (String × α)} (h : Rearranges others pairs) :
    ofList others = ofList pairs := by
  apply ext_get?
  intro name
  rw [get?_ofList, get?_ofList, lastValue?, lastValue?, h.sameOrder name]

theorem mem_entries_ofList {pairs : List (String × α)} {name : String} {value : α} :
    (name, value) ∈ (ofList pairs).entries ↔ lastValue? name pairs = some value := by
  rw [← get?_eq_some_iff, get?_ofList]

end Keyed

namespace Response

open Json

/-! ## Texts -/

def sentText (pairs : List (String × String)) : String :=
  (Value.object (pairs.map fun pair => (pair.1, .string pair.2))).render

theorem read_sentText (pairs : List (String × String)) :
    readTextMap.whole (.ofString (sentText pairs)) = .ok (Keyed.ofList pairs) :=
  Reader.whole_render (reads_texts pairs [] nofun)

/-- **No two responses have one text**: a response is read back from its text. -/
theorem toJson_injective {a b : Response} (h : (toJson a).render = (toJson b).render) : a = b := by
  have hread : ∀ response : Response, readTextMap.whole (.ofString (toJson response).render) = .ok response :=
    fun response => Reader.whole_render (reads_response response [] nofun)
  have hsame := hread a
  rw [h, hread b] at hsame
  exact (Except.ok.inj hsame).symm

end Response

namespace History

open Keyed

/-! ## Decisions -/

variable (history : History) (pairs : List (String × String)) (stamp : Stamp)

theorem ofList_eq_iff (response : Response) :
    ofList pairs = response ↔ ∀ name, response.get? name = lastValue? name pairs := by
  constructor
  · rintro rfl name
    exact get?_ofList pairs name
  · intro hsame
    apply ext_get?
    intro name
    rw [get?_ofList, hsame name]

/-- a save is discarded exactly if each field has the value that it has in the last real step -/
theorem save_discarded_iff :
    (history.save (ofList pairs) stamp).change.outcome = .discarded ↔
      ∀ name, history.current.response.get? name = lastValue? name pairs := by
  rw [← ofList_eq_iff, save]
  split
  · next heq => exact iff_of_true rfl heq
  · next hne => exact iff_of_false (by simp [push]) hne

/-- no draft is left after an autosave exactly if each field has the value that it has in the last real step -/
theorem autosave_draft_iff :
    (history.autosave (ofList pairs) stamp).history.draft = none ↔
      ∀ name, history.current.response.get? name = lastValue? name pairs := by
  rw [← ofList_eq_iff, autosave]
  cases hdraft : history.draft with
  | none =>
    by_cases heq : ofList pairs = history.current.response
    · simp [heq, hdraft]
    · simp [heq]
  | some draft =>
    by_cases heq : ofList pairs = history.current.response
    · simp [heq, dropDraft]
    · by_cases hsame : draft.response = ofList pairs
      · simp [heq, hsame, hdraft]
      · simp [heq, hsame]

end History

namespace Response

open Json

/-- **A response is a map from names to values, however it came about.** Let `pairs` be any fields in any order.

- It makes no difference whether a response is collected from them at once or built by setting one after another.
- It answers the value of the last field with a name, and nothing for a name that no field has.
- It lists each name once with this value, in strictly increasing order of code points, and has as many as there are
  different names.
- Fields in another order, in which those with one name keep their order, give the same response with the same text. A
  client's text with the fields in such an order is read as this response, and saves and autosaves of it are decided
  alike.
- Responses are the same exactly if they answer the same, and exactly if they have the same text.
- A save of the fields is discarded, and an autosave of them leaves no draft, exactly if for each name the last value
  is the one in the last real step. -/
theorem response_canonical (pairs : List (String × String)) :
    Keyed.collect pairs = Keyed.ofList pairs ∧
      (∀ name, (Keyed.ofList pairs).get? name = Keyed.lastValue? name pairs) ∧
      ((Keyed.ofList pairs).entries.Pairwise fun a b => codePoints a.1 < codePoints b.1) ∧
      (∀ name value, (name, value) ∈ (Keyed.ofList pairs).entries ↔ Keyed.lastValue? name pairs = some value) ∧
      (Keyed.ofList pairs).size = (pairs.map Prod.fst).dedup.length ∧
      (∀ others, Keyed.Rearranges others pairs →
        Keyed.ofList others = Keyed.ofList pairs ∧
          (toJson (Keyed.ofList others)).render = (toJson (Keyed.ofList pairs)).render ∧
          readTextMap.whole (.ofString (sentText others)) = .ok (Keyed.ofList pairs) ∧
          ∀ (history : History) (stamp : Stamp),
            history.submit stamp (.save (Keyed.ofList others)) = history.submit stamp (.save (Keyed.ofList pairs)) ∧
              history.submit stamp (.autosave (Keyed.ofList others)) =
                history.submit stamp (.autosave (Keyed.ofList pairs))) ∧
      (∀ a b : Response, (a = b ↔ ∀ name, a.get? name = b.get? name) ∧
        (a = b ↔ (toJson a).render = (toJson b).render)) ∧
      ∀ (history : History) (stamp : Stamp),
        ((history.save (Keyed.ofList pairs) stamp).change.outcome = .discarded ↔
            ∀ name, history.current.response.get? name = Keyed.lastValue? name pairs) ∧
          ((history.autosave (Keyed.ofList pairs) stamp).history.draft = none ↔
            ∀ name, history.current.response.get? name = Keyed.lastValue? name pairs) := by
  refine ⟨Keyed.collect_eq_ofList pairs, Keyed.get?_ofList pairs, ?_, fun name value => Keyed.mem_entries_ofList,
    Keyed.size_ofList pairs, fun others hothers => ?_, fun a b => ⟨⟨?_, Keyed.ext_get?⟩, ⟨?_, toJson_injective⟩⟩,
    fun history stamp => ⟨history.save_discarded_iff pairs stamp, history.autosave_draft_iff pairs stamp⟩⟩
  · exact (Keyed.ofList pairs).sorted.imp codePoints_lt_iff.2
  · have hsame := hothers.ofList_eq
    have hread := read_sentText others
    rw [hsame] at hread
    refine ⟨hsame, by rw [hsame], hread, fun history stamp => ?_⟩
    rw [hsame]
    exact ⟨rfl, rfl⟩
  · rintro rfl name
    rfl
  · rintro rfl
    rfl

/-- fields of which one was filled in twice, and the same fields in another order -/
def doubled : List (String × String) := [("é", "1"), ("b", "2"), ("é", "3")]

def doubledApart : List (String × String) := [("b", "2"), ("é", "1"), ("é", "3")]

theorem rearranges_doubledApart : Keyed.Rearranges doubledApart doubled where
  perm := by decide
  sameOrder name := by
    by_cases hname : "b" = name
    · subst hname
      decide
    · simp [Keyed.named, doubled, doubledApart, List.filter_cons, hname]

theorem response_canonical_doubled :
    Keyed.Rearranges doubledApart doubled ∧ Keyed.ofList doubledApart = Keyed.ofList doubled ∧
      (Keyed.ofList doubled).entries = [("b", "2"), ("é", "3")] ∧
      readTextMap.whole (.ofString (sentText doubledApart)) = .ok (Keyed.ofList doubled) := by
  obtain ⟨-, -, -, -, -, hsame, -⟩ := response_canonical doubled
  have hrearranged := hsame doubledApart rearranges_doubledApart
  exact ⟨rearranges_doubledApart, hrearranged.1, by decide, hrearranged.2.2.1⟩

end Response

end AttemptLog
