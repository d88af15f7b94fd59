import AttemptLog.Proofs.Database.Bodies
import AttemptLog.Proofs.Database.Document
import AttemptLog.Proofs.History.Collision
import AttemptLog.Proofs.History.Version
/-!
The steps of attempts in the tables of a database.

The steps of all attempts stand in one table, in the order in which they were inserted. `Tables.Holds` says which
steps the table holds for each attempt. What a client reads are these steps, in order of their numbers
(`Holds.steps?_eq`), and the last one of them (`Holds.lastStep?_eq`). The writes of a change take the steps of its
attempt from those that it was decided on to those that were decided on, and leave all other attempts alone
(`Holds.change`).
-/
namespace AttemptLog.Database

/-- the steps of an attempt as a client reads them -/
def Tables.steps? (tables : Tables) (id : String) : Option (List Step) :=
  (found (tables.documents stepTable) [("attempt_id", id)] (some ⟨"sequence_number", false⟩) none).mapM step?

/-- do tables hold these steps for each attempt -/
def Tables.Holds (tables : Tables) (stepsOf : String → List Step) : Prop :=
  ∃ all : List Step, tables.documents stepTable = all.map Step.toJson ∧
    ∀ id, all.filter (fun step => decide (step.attemptId = id)) = stepsOf id

theorem Tables.holds_of_documents {tables : Tables} {all : List Step}
    (h : tables.documents stepTable = all.map Step.toJson) :
    tables.Holds fun id => all.filter fun step => decide (step.attemptId = id) :=
  ⟨all, h, fun _ => rfl⟩

/-! ## Orders -/

theorem scaled_trans {x y z p q r : Int} (hp : 0 < p) (hq : 0 < q) (hr : 0 < r) (hxy : x * q ≤ y * p)
    (hyz : y * r ≤ z * q) : x * r ≤ z * p := by
  refine Int.le_of_mul_le_mul_right ?_ hq
  calc x * r * q = x * q * r := by ring
    _ ≤ y * p * r := Int.mul_le_mul_of_nonneg_right hxy hr.le
    _ = y * r * p := by ring
    _ ≤ z * q * p := Int.mul_le_mul_of_nonneg_right hyz hp.le
    _ = z * p * q := by ring

theorem Order.le_trans (order : Order) (a b c : Document) (hab : order.le a b = true) (hbc : order.le b c = true) :
    order.le a c = true := by
  have hpos : ∀ n, (0 : Int) < (Nat.pow 10 n : Nat) := fun n => by exact_mod_cast Nat.pow_pos (by decide)
  unfold Order.le at *
  cases hdescending : order.isDescending with
  | false =>
    simp only [hdescending, Bool.false_eq_true, ite_false, decide_eq_true_eq] at *
    exact scaled_trans (hpos _) (hpos _) (hpos _) hab hbc
  | true =>
    simp only [hdescending, ite_true, decide_eq_true_eq] at *
    exact scaled_trans (hpos _) (hpos _) (hpos _) hbc hab

theorem Order.le_total (order : Order) (a b : Document) : (order.le a b || order.le b a) = true := by
  unfold Order.le
  cases order.isDescending <;>
    simp only [Bool.false_eq_true, ite_false, ite_true, Bool.or_eq_true, decide_eq_true_eq] <;>
    exact Int.le_total _ _

theorem le_toJson (isDescending : Bool) (s t : Step) :
    Order.le ⟨"sequence_number", isDescending⟩ s.toJson t.toJson =
      decide (if isDescending then t.number ≤ s.number else s.number ≤ t.number) := by
  cases isDescending <;>
    simp [Order.le, orderKey, member?_number, UInt32.le_iff_toNat_le]

/-! ## What is read -/

theorem mapM_toJson (steps : List Step) : (steps.map Step.toJson).mapM step? = some steps := by
  induction steps with
  | nil => rfl
  | cons step rest ih => simp [step?_toJson, ih]

section Reading

variable {tables : Tables} {stepsOf : String → List Step}

theorem Tables.Holds.filter_eq (h : tables.Holds stepsOf) (id : String) :
    (tables.documents stepTable).filter (Filter.fits [("attempt_id", id)]) = (stepsOf id).map Step.toJson := by
  obtain ⟨all, hall, hsteps⟩ := h
  rw [hall, List.filter_map, ← hsteps id]
  congr 2
  funext step
  exact fits_owner id step

/-- **The steps of an attempt are read** in the order in which they were stored. -/
theorem Tables.Holds.steps?_eq (h : tables.Holds stepsOf) {id : String} (hnumbered : Numbered (stepsOf id)) :
    tables.steps? id = some (stepsOf id) := by
  have hsorted : ((stepsOf id).map Step.toJson).mergeSort (Order.le ⟨"sequence_number", false⟩) =
      (stepsOf id).map Step.toJson := by
    refine List.mergeSort_of_pairwise (List.pairwise_map.2 (hnumbered.pairwise.imp fun {a b} hlt => ?_))
    rw [le_toJson]
    simpa using UInt32.le_of_lt hlt
  simp only [Tables.steps?, found, h.filter_eq, hsorted, mapM_toJson]

/-- the steps of an attempt are read in some order, whatever their numbers are -/
theorem Tables.Holds.steps?_perm (h : tables.Holds stepsOf) (id : String) :
    ∃ steps, tables.steps? id = some steps ∧ steps.Perm (stepsOf id) := by
  let le (s t : Step) : Bool := Order.le ⟨"sequence_number", false⟩ s.toJson t.toJson
  have hsorted : ((stepsOf id).mergeSort le).map Step.toJson =
      ((stepsOf id).map Step.toJson).mergeSort (Order.le ⟨"sequence_number", false⟩) :=
    List.map_mergeSort fun _ _ _ _ => rfl
  refine ⟨(stepsOf id).mergeSort le, ?_, List.mergeSort_perm _ _⟩
  simp only [Tables.steps?, found, h.filter_eq, ← hsorted, mapM_toJson]

theorem mergeSort_reverse {steps : List Step} (h : Numbered steps) :
    (steps.map Step.toJson).mergeSort (Order.le ⟨"sequence_number", true⟩) = (steps.map Step.toJson).reverse := by
  refine List.Perm.eq_of_pairwise ?_ (List.pairwise_mergeSort (Order.le_trans _) (Order.le_total _) _) ?_
    ((List.mergeSort_perm _ _).trans (List.reverse_perm _).symm)
  · intro a b ha hb hab hba
    obtain ⟨s, hs, rfl⟩ := List.mem_map.1 ((List.mergeSort_perm _ _).mem_iff.1 ha)
    obtain ⟨t, ht, rfl⟩ := List.mem_map.1 (List.mem_reverse.1 hb)
    rw [le_toJson] at hab hba
    simp only [ite_true, decide_eq_true_eq] at hab hba
    have hnumbers : (steps.map Step.number).Nodup := List.pairwise_map.2 (h.pairwise.imp fun hlt => UInt32.ne_of_lt hlt)
    rw [List.inj_on_of_nodup_map hnumbers hs ht (UInt32.le_antisymm hba hab)]
  · rw [List.pairwise_reverse, List.pairwise_map]
    refine h.pairwise.imp fun {a b} hlt => ?_
    rw [le_toJson]
    simpa using UInt32.le_of_lt hlt

/-- **The last step of an attempt is read** by its number. -/
theorem Tables.Holds.lastStep?_eq (h : tables.Holds stepsOf) {id : String} (hnumbered : Numbered (stepsOf id)) :
    tables.lastStep? id = (stepsOf id).getLast? := by
  have hfound : found (tables.documents stepTable) [("attempt_id", id)] (some ⟨"sequence_number", true⟩) (some 1) =
      ((stepsOf id).map Step.toJson).reverse.take 1 := by
    rw [← mergeSort_reverse hnumbered, ← h.filter_eq]
    rfl
  rw [Tables.lastStep?, hfound, List.head?_take, if_neg Nat.one_ne_zero, List.head?_reverse, List.getLast?_map]
  cases (stepsOf id).getLast? with
  | none => rfl
  | some last => exact (Option.bind_some _ _).trans (step?_toJson last)

end Reading

/-! ## What is written -/

theorem documents_insert (tables : Tables) {table other : String} (document : Document) (hother : other ≠ table) :
    (tables.after (.insert table document)).documents other = tables.documents other := by
  simp only [Tables.after, execute]
  split
  · rfl
  · simp [Tables.documents, hother]

theorem documents_insert_self {tables : Tables} {table : String} {document : Document}
    (h : (tables.documents table).any (collide document) = false) :
    (tables.after (.insert table document)).documents table = tables.documents table ++ [document] := by
  rw [Tables.after, execute, if_neg (by simp [h])]
  simp [Tables.documents]

/-- an attempt that is created comes to the end of its table, and its first step to that of the steps -/
theorem documents_created {tables : Tables} {attempt : Attempt} {first : Step}
    (hattempt : (tables.documents attemptTable).any (collide attempt.toJson) = false)
    (hfirst : (tables.documents stepTable).any (collide first.toJson) = false) :
    ((writesOf (.create attempt first)).foldl Tables.after tables).documents attemptTable =
        tables.documents attemptTable ++ [attempt.toJson] ∧
      ((writesOf (.create attempt first)).foldl Tables.after tables).documents stepTable =
        tables.documents stepTable ++ [first.toJson] := by
  have hother : stepTable ≠ attemptTable := by simp [attemptTable, stepTable]
  have hsteps := documents_insert tables attempt.toJson hother
  constructor
  · exact (documents_insert _ _ hother.symm).trans (documents_insert_self hattempt)
  · rw [← hsteps] at hfirst ⊢
    exact documents_insert_self hfirst

theorem deleteFirst_eq (filter : Filter) (documents : List Document) :
    (deleteFirst filter documents).1 = documents.eraseP filter.fits := by
  induction documents with
  | nil => rfl
  | cons document rest ih =>
    rw [deleteFirst, List.eraseP_cons]
    cases filter.fits document <;> simp [ih]

theorem deleteFirst_eq_of_zero {filter : Filter} {documents : List Document}
    (h : (deleteFirst filter documents).2 = 0) : (deleteFirst filter documents).1 = documents := by
  induction documents with
  | nil => rfl
  | cons document rest ih =>
    rw [deleteFirst] at h ⊢
    cases hfits : filter.fits document with
    | true => simp [hfits] at h
    | false =>
      simp only [hfits, Bool.false_eq_true, ite_false] at h ⊢
      rw [ih h]

theorem delete_ok {tables : Tables} {table : String} {filter : Filter} {document : Document}
    (h : (tables.documents table).find? filter.fits = some document) :
    (execute tables (.delete table filter)).1 = .ok (1 : Nat) := by
  have hone : ∀ documents : List Document, documents.find? filter.fits = some document →
      (deleteFirst filter documents).2 = 1 := by
    intro documents hfind
    induction documents with
    | nil => cases hfind
    | cons other rest ih =>
      rw [List.find?_cons] at hfind
      cases hfits : filter.fits other with
      | true => simp [deleteFirst, hfits]
      | false => simpa [deleteFirst, hfits] using ih (by simpa [hfits] using hfind)
  exact congrArg Except.ok (hone _ h)

theorem documents_delete (tables : Tables) (table : String) (filter : Filter) :
    (tables.after (.delete table filter)).documents table = (tables.documents table).eraseP filter.fits := by
  rw [← deleteFirst_eq]
  simp only [Tables.after, execute]
  split
  · next hzero => exact (deleteFirst_eq_of_zero hzero).symm
  · simp [Tables.documents]

theorem documents_delete_other (tables : Tables) {table other : String} (filter : Filter) (hother : other ≠ table) :
    (tables.after (.delete table filter)).documents other = tables.documents other := by
  simp only [Tables.after, execute]
  split
  · rfl
  · simp [Tables.documents, hother]

/-- what is taken away was none of those that are looked for -/
theorem filter_eraseP {α : Type} {gone sought : α → Bool} (h : ∀ element, gone element = true → sought element = false)
    (list : List α) : (list.eraseP gone).filter sought = list.filter sought := by
  induction list with
  | nil => rfl
  | cons element rest ih =>
    rw [List.eraseP_cons]
    cases hgone : gone element with
    | true => simp [h element hgone]
    | false => simp [List.filter_cons, ih]

section Writing

variable {tables : Tables} {stepsOf : String → List Step}

theorem Tables.Holds.insert_other (h : tables.Holds stepsOf) {table : String} (document : Document)
    (hother : stepTable ≠ table) : (tables.after (.insert table document)).Holds stepsOf := by
  obtain ⟨all, hall, hsteps⟩ := h
  exact ⟨all, (documents_insert tables document hother).trans hall, hsteps⟩

/-- nothing stands in the way of a step whose identity is new, and whose number is new in its attempt -/
theorem Tables.Holds.free (h : tables.Holds stepsOf) {step : Step}
    (hid : ∀ id, ∀ other ∈ stepsOf id, other.id ≠ step.id)
    (hnumber : ∀ other ∈ stepsOf step.attemptId, other.number ≠ step.number) :
    (tables.documents stepTable).any (collide step.toJson) = false := by
  obtain ⟨all, hall, hsteps⟩ := h
  have hmem : ∀ other ∈ all, other ∈ stepsOf other.attemptId := fun other hother => by
    rw [← hsteps]
    simpa using hother
  rw [hall, List.any_eq_false]
  rintro document hdocument
  obtain ⟨other, hother, rfl⟩ := List.mem_map.1 hdocument
  have hstored := hmem other hother
  rw [collide_toJson, decide_eq_true_eq]
  rintro (hsame | ⟨howner, hsame⟩)
  · exact hid _ other hstored hsame.symm
  · exact hnumber other (howner ▸ hstored) hsame.symm

/-- a step that nothing stands in the way of becomes the last one of its attempt -/
theorem Tables.Holds.insert (h : tables.Holds stepsOf) (step : Step)
    (hid : ∀ id, ∀ other ∈ stepsOf id, other.id ≠ step.id)
    (hnumber : ∀ other ∈ stepsOf step.attemptId, other.number ≠ step.number) :
    (tables.after (.insert stepTable step.toJson)).Holds
      (Function.update stepsOf step.attemptId (stepsOf step.attemptId ++ [step])) := by
  have hfree := h.free hid hnumber
  obtain ⟨all, hall, hsteps⟩ := h
  refine ⟨all ++ [step], by rw [documents_insert_self hfree, hall]; simp, fun id => ?_⟩
  rw [List.filter_append, hsteps]
  by_cases howner : id = step.attemptId
  · subst howner
    simp
  · simp [Function.update_of_ne howner, Ne.symm howner]

/-- a step that is taken away was the last one of its attempt -/
theorem Tables.Holds.delete (h : tables.Holds stepsOf) {id removed : String} {front : List Step} {last : Step}
    (hsteps : stepsOf id = front ++ [last]) (hlast : last.id = removed) (hfront : ∀ step ∈ front, step.id ≠ removed) :
    (tables.after (.delete stepTable [("_id", removed), ("attempt_id", id)])).Holds
      (Function.update stepsOf id front) := by
  obtain ⟨all, hall, hfilter⟩ := h
  let gone : Step → Bool := fun step => decide (step.id = removed) && decide (step.attemptId = id)
  have hfits : Filter.fits [("_id", removed), ("attempt_id", id)] ∘ Step.toJson = gone :=
    funext fun step => by simp [fits_step, gone]
  refine ⟨all.eraseP gone, by rw [documents_delete, hall, List.eraseP_map, hfits], fun other => ?_⟩
  by_cases hother : other = id
  · subst hother
    rw [Function.update_self, ← List.eraseP_filter, hfilter, hsteps, List.eraseP_append_right _ (by simpa using hfront)]
    simp [hlast]
  · rw [Function.update_of_ne hother, ← hfilter, filter_eraseP]
    intro step hgone
    simp only [gone, Bool.and_eq_true, decide_eq_true_eq] at hgone
    simp [hgone.2, Ne.symm hother]

theorem Tables.Holds.withoutDraft (h : tables.Holds stepsOf) {history : History}
    (hsteps : stepsOf history.attemptId = history.steps) (hdistinct : (history.steps.map Step.id).Nodup) :
    (((history.draft.map (·.id)).map fun removed =>
        Command.delete stepTable [("_id", removed), ("attempt_id", history.attemptId)]).toList.foldl Tables.after
          tables).Holds (Function.update stepsOf history.attemptId history.realSteps) := by
  cases hdraft : history.draft with
  | none =>
    have hreal : stepsOf history.attemptId = history.realSteps := by rw [hsteps, History.steps, hdraft]; simp
    rw [← hreal, Function.update_eq_self]
    exact h
  | some draft =>
    have hend : stepsOf history.attemptId = history.realSteps ++ [draft] := by
      rw [hsteps, History.steps, hdraft]
      rfl
    exact h.delete hend rfl (History.draft_id_notMem hdistinct hdraft)

/-- a step that is added is apart from the steps that are left then: its identity is new, and its number is new in its
attempt -/
theorem appended_apart {history : History} {stamp : Stamp} {decision : Decision}
    (heffect : History.Effect history stamp decision) {step : Step} (happended : decision.change.appended = some step)
    (hsteps : stepsOf history.attemptId = history.steps) (hnumbered : Numbered history.steps)
    (hroom : history.realSteps.length < 2 ^ 32) (hnew : ∀ id, ∀ step ∈ stepsOf id, step.id ≠ stamp.id) :
    (∀ id, ∀ other ∈ Function.update stepsOf history.attemptId history.realSteps id, other.id ≠ step.id) ∧
      ∀ other ∈ Function.update stepsOf history.attemptId history.realSteps step.attemptId,
        other.number ≠ step.number := by
  obtain ⟨hid, howner, hnumber, -⟩ := heffect.appended_spec happended
  have hreal : Numbered history.realSteps := hnumbered.of_prefix (List.prefix_append _ _)
  constructor
  · intro id other hother
    rw [hid]
    by_cases hsame : id = history.attemptId
    · subst hsame
      rw [Function.update_self] at hother
      exact hnew _ other (by rw [hsteps]; exact List.mem_append_left _ hother)
    · rw [Function.update_of_ne hsame] at hother
      exact hnew id other hother
  · intro other hother
    rw [howner, Function.update_self] at hother
    rw [hnumber]
    exact History.number_ne_following hreal hroom hother

/-- **The writes of a change lead from the steps that it was decided on to those that were decided on**, and they change
nothing for other attempts. -/
theorem Tables.Holds.change (h : tables.Holds stepsOf) {history : History} {stamp : Stamp} {decision : Decision}
    (heffect : History.Effect history stamp decision) (hsteps : stepsOf history.attemptId = history.steps)
    (hdistinct : (history.steps.map Step.id).Nodup) (hnumbered : Numbered history.steps)
    (hroom : history.realSteps.length < 2 ^ 32) (hnew : ∀ id, ∀ step ∈ stepsOf id, step.id ≠ stamp.id) (last : String) :
    ((writesOf (.commit history.attemptId last decision.change)).foldl Tables.after tables).Holds
      (Function.update stepsOf history.attemptId decision.history.steps) := by
  rcases heffect.steps_eq with ⟨hremoved, happended, hhistory⟩ | ⟨hremoved, hafter⟩
  · rw [writesOf, hremoved, happended, hhistory, ← hsteps, Function.update_eq_self]
    exact h
  · have hbetween := h.withoutDraft hsteps hdistinct
    rw [writesOf, hremoved, hafter, List.foldl_append]
    cases happended : decision.change.appended with
    | none => simpa using hbetween
    | some step =>
      obtain ⟨hid, hnumber⟩ := appended_apart heffect happended hsteps hnumbered hroom hnew
      have hinserted := hbetween.insert step hid hnumber
      rw [(heffect.appended_spec happended).2.1, Function.update_self, Function.update_idem] at hinserted
      exact hinserted

end Writing

end AttemptLog.Database
