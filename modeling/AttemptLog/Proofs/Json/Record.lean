import AttemptLog.Proofs.Json.Text
import AttemptLog.Proofs.Keyed
import AttemptLog.Response
/-!
Objects are read back member by member.

`Takes` follows a reader of members through the members of an object, each of which is read with the state that those
before have left. What it comes to is what is read from the text of the object (`readObject_takes`): of a map of texts
(`reads_response`), and of a record, whatever its fields (`readRecord_takes`).
-/
namespace AttemptLog.Json

variable {α σ : Type}

/-- members after others, with a comma in front of each -/
def tailChars (members : List (String × Value)) : List Char :=
  members.flatMap fun entry => ',' :: quoted entry.1 ++ ':' :: entry.2.chars

theorem memberChars_cons (name : String) (value : Value) (rest : List (String × Value)) :
    memberChars ((name, value) :: rest) = quoted name ++ ':' :: value.chars ++ tailChars rest := by
  induction rest generalizing name value with
  | nil => simp [memberChars, tailChars]
  | cons next rest ih => simp [memberChars, ih next.1 next.2, tailChars]

theorem inFront_tail (name : String) (value : Value) (others : List (String × Value)) (rest : Source) :
    inFront (tailChars ((name, value) :: others)) rest =
      some ',' :: inFront (quoted name) (inFront (':' :: value.chars) (inFront (tailChars others) rest)) := by
  simp [tailChars]

theorem length_le_memberChars (members : List (String × Value)) : members.length ≤ (memberChars members).length := by
  have htail : ∀ rest : List (String × Value), rest.length ≤ (tailChars rest).length := by
    intro rest
    induction rest with
    | nil => exact Nat.le_refl _
    | cons next rest ih =>
      simp only [tailChars, List.flatMap_cons, List.length_append, List.length_cons] at ih ⊢
      omega
  cases members with
  | nil => exact Nat.le_refl _
  | cons first rest =>
    have hrest := htail rest
    rw [memberChars_cons]
    simp only [List.length_append, List.length_cons]
    omega

theorem inFront_object (members : List (String × Value)) (rest : Source) :
    inFront (Value.object members).chars rest = some '\x7b' :: inFront (memberChars members) (some '\x7d' :: rest) := by
  simp [Value.chars]

/-- a reader of members takes members one after another and comes from one state to another -/
inductive Takes (member : σ → String → Reader σ) : σ → List (String × Value) → σ → Prop where
  | nil (state : σ) : Takes member state [] state
  | cons {state next final : σ} {name : String} {value : Value} {rest : List (String × Value)}
    (hmember : Reads (member state name) (':' :: value.chars) next) (hrest : Takes member next rest final) :
    Takes member state ((name, value) :: rest) final

theorem endsBefore_tail (members : List (String × Value)) (rest : Source) :
    EndsBefore (inFront (tailChars members) (some '\x7d' :: rest)) := by
  cases members with
  | nil =>
    rintro symbol ⟨⟩
    decide
  | cons first others =>
    rintro symbol ⟨⟩
    decide

/-! ## Names -/

theorem readName_end (isFirst : Bool) (rest : Source) : readName isFirst (some '\x7d' :: rest) = .ok (none, rest) := by
  rw [readName, Reader.bind_eq (peek_cons (by decide) _), if_pos rfl, Reader.bind_eq (advance_cons _ _)]
  rfl

theorem readName_first (name : String) (rest : Source) :
    readName true (inFront (quoted name) rest) = .ok (some name, rest) := by
  have hquote : some '"' ≠ some '\x7d' := by decide
  rw [inFront_quoted, readName, Reader.bind_eq (peek_cons (by decide) _), if_neg hquote]
  simp only [Bool.not_true, Bool.false_eq_true, ite_false]
  rw [Reader.bind_eq (peek_cons (by decide) _), if_pos rfl, Reader.bind_eq (advance_cons _ _)]
  exact Reader.map_eq (readText_quoted name rest)

theorem readName_next (name : String) (rest : Source) :
    readName false (some ',' :: inFront (quoted name) rest) = .ok (some name, rest) := by
  have hcomma : some ',' ≠ some '\x7d' := by decide
  rw [inFront_quoted, readName, Reader.bind_eq (peek_cons (by decide) _), if_neg hcomma]
  simp only [Bool.not_false, ite_true]
  rw [Reader.bind_eq (readMark_cons (by decide) _), Reader.bind_eq (peek_cons (by decide) _), if_pos rfl,
    Reader.bind_eq (advance_cons _ _)]
  exact Reader.map_eq (readText_quoted name rest)

/-! ## Members -/

section Members

variable {member : σ → String → Reader σ} {state next final : σ}

theorem readMembers_end (fuel : Nat) (isFirst : Bool) (rest : Source) :
    readMembers member (fuel + 1) isFirst state (some '\x7d' :: rest) = .ok (state, rest) := by
  rw [readMembers, Reader.bind_eq (readName_end isFirst rest)]
  rfl

theorem readMembers_cons {isFirst : Bool} {name : String} {source between rest : Source} (fuel : Nat)
    (hname : readName isFirst source = .ok (some name, between))
    (hmember : member state name between = .ok (next, rest)) :
    readMembers member (fuel + 1) isFirst state source = readMembers member fuel false next rest := by
  rw [readMembers, Reader.bind_eq hname]
  simp only
  rw [Reader.bind_eq hmember]

theorem readMembers_tail {members : List (String × Value)} (h : Takes member state members final) {fuel : Nat}
    (hfuel : members.length < fuel) (rest : Source) :
    readMembers member fuel false state (inFront (tailChars members) (some '\x7d' :: rest)) = .ok (final, rest) := by
  induction h generalizing fuel with
  | nil state =>
    obtain ⟨fuel, rfl⟩ := Nat.exists_eq_add_of_lt hfuel
    exact readMembers_end _ _ _
  | @cons state next final name value others hmember hrest ih =>
    obtain ⟨fuel, rfl⟩ := Nat.exists_eq_add_of_lt hfuel
    have hfuel' : others.length < ((name, value) :: others).length + fuel := by
      rw [List.length_cons]
      omega
    rw [inFront_tail, readMembers_cons _ (readName_next name _) (hmember _ (endsBefore_tail others rest))]
    exact ih hfuel'

/-- **An object is read back member by member.** -/
theorem readObject_takes {members : List (String × Value)} (h : Takes member state members final) (rest : Source) :
    readObject member state (inFront (memberChars members) (some '\x7d' :: rest)) = .ok (final, rest) := by
  have hfuel : members.length ≤ (inFront (memberChars members) (some '\x7d' :: rest)).length := by
    simp only [inFront, List.length_append, List.length_map]
    exact Nat.le_add_right_of_le (length_le_memberChars members)
  unfold readObject
  generalize (inFront (memberChars members) (some '\x7d' :: rest)).length = fuel at hfuel
  cases h with
  | nil => exact readMembers_end _ _ _
  | @cons _ next _ name value others hmember hrest =>
    rw [memberChars_cons, List.append_assoc, inFront_append,
      readMembers_cons fuel (readName_first name _) (by
        rw [inFront_append]
        exact hmember _ (endsBefore_tail others rest))]
    exact readMembers_tail hrest (by simpa using hfuel) rest

end Members

theorem Reads.after_colon {reader : Reader α} {chars : List Char} {value : α} (h : Reads reader chars value) :
    Reads (do readMark ':'; reader) (':' :: chars) value := by
  intro rest hrest
  rw [inFront_cons, Reader.bind_eq (readMark_cons (by decide) _)]
  exact h rest hrest

/-! ## Maps of texts -/

/-- **A map of texts is read from any pairs**, of which the last with a name counts. -/
theorem reads_texts (pairs : List (String × String)) :
    Reads readTextMap (Value.object (pairs.map fun pair => (pair.1, .string pair.2))).chars (Keyed.ofList pairs) := by
  have htakes : ∀ (pairs : List (String × String)) (m : Keyed String),
      Takes (fun map name => do readMark ':'; return map.insert name (← readString)) m
        (pairs.map fun pair => (pair.1, .string pair.2)) (pairs.foldl (fun m pair => m.insert pair.1 pair.2) m) := by
    intro pairs
    induction pairs with
    | nil => exact fun m => .nil m
    | cons pair pairs ih =>
      intro m
      have hpair := (reads_string pair.2).map fun value => m.insert pair.1 value
      rw [map_eq_pure_bind] at hpair
      exact .cons hpair.after_colon (ih _)
  intro rest _
  rw [inFront_object, readTextMap, Reader.bind_eq (peek_cons (by decide) _), if_pos rfl,
    Reader.bind_eq (advance_cons _ _), readObject_takes (htakes pairs Keyed.empty)]
  rfl

/-- **A response is read back from its text.** -/
theorem reads_response (response : Response) : Reads readTextMap (Response.toJson response).chars response := by
  have hreads := reads_texts response.entries
  rwa [Keyed.ofList_entries] at hreads

/-! ## Records -/

section Records

variable {fields : List (Member σ)} {state : σ}

theorem reads_field {field : Member σ} {name : String} {chars : List Char} {next : σ}
    (hfind : (fields.find? fun field => field.name == name) = some field) (hset : field.isSet state = false)
    (hread : Reads (field.read state) chars next) : Reads (readMember fields state name) (':' :: chars) next := by
  have hmember := hread.after_colon
  intro rest hrest
  simp only [readMember, hfind, hset, Bool.false_eq_true, ite_false]
  exact hmember rest hrest

/-- **A record is read back from its members.** -/
theorem readRecord_takes {blank final : σ} {finish : σ → Option α} {members : List (String × Value)} {record : α}
    (h : Takes (readMember fields) blank members final) (hfinish : finish final = some record) (rest : Source) :
    readRecord fields blank finish (inFront (Value.object members).chars rest) = .ok (record, rest) := by
  rw [inFront_object, readRecord, Reader.bind_eq (peek_cons (by decide) _)]
  simp only
  rw [Reader.bind_eq (advance_cons _ _), Reader.bind_eq (readObject_takes h rest)]
  simp only [hfinish]
  rfl

end Records

theorem Reader.whole_render {reader : Reader α} {value : Value} {result : α}
    (h : reader (inFront value.chars []) = .ok (result, [])) : reader.whole (.ofString value.render) = .ok result := by
  have hsource : Source.ofString value.render = inFront value.chars [] := by
    simp [Source.ofString, Value.render, inFront]
  rw [hsource, Reader.whole, h]
  rfl

end AttemptLog.Json
