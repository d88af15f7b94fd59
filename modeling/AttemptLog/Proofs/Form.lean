import AttemptLog.Form
import Mathlib.Tactic
/-!
Which responses are accepted, and what is said about the others.

The size of a response counts first, then its names in their order, and only the first flaw is reported
(`flawed_of_flaw?`). How long a name may be depends on how its length is measured, so the rules are stated for any
measure (`Fits`, `Flawed`, `Checked`). They are kept with the number of bytes, while the identifiers in other forms
are measured in characters. `responses_checked` says where the two come to the same; `checked_wide` is a response
where they do not.
-/
namespace AttemptLog

/-! ## Bytes and characters -/

theorem utf8ByteSize_eq_sum (text : String) : text.utf8ByteSize = (text.toList.map Char.utf8Size).sum := by
  rw [← String.ofList_toList (s := text), String.toList_ofList]
  induction text.toList with
  | nil => rfl
  | cons first rest ih =>
    have hsplit : String.ofList (first :: rest) = String.singleton first ++ String.ofList rest := by
      rw [String.singleton_eq_ofList, ← String.ofList_append, List.singleton_append]
    rw [hsplit, String.utf8ByteSize_append, String.utf8ByteSize_singleton, ih, List.map_cons, List.sum_cons]

theorem length_le_utf8ByteSize (text : String) : text.length ≤ text.utf8ByteSize := by
  have hpositive : ∀ size ∈ text.toList.map Char.utf8Size, 1 ≤ size := by
    intro size hmem
    obtain ⟨c, -, rfl⟩ := List.mem_map.1 hmem
    exact c.utf8Size_pos
  calc text.length = (text.toList.map Char.utf8Size).length := by rw [List.length_map, String.length_toList]
    _ ≤ (text.toList.map Char.utf8Size).sum := List.length_le_sum_of_one_le _ hpositive
    _ = text.utf8ByteSize := (utf8ByteSize_eq_sum text).symm

theorem utf8ByteSize_eq_length {text : String} (h : ∀ c ∈ text.toList, c.val ≤ 127) :
    text.utf8ByteSize = text.length := by
  have hone : text.toList.map Char.utf8Size = text.toList.map fun _ => 1 :=
    List.map_congr_left fun c hmem => Char.utf8Size_eq_one_iff.2 (h c hmem)
  rw [utf8ByteSize_eq_sum, hone, List.map_const', List.sum_replicate, String.length_toList, smul_eq_mul, mul_one]

namespace Response

/-! ## The rules for a measure of names -/

structure NameFits (measure : String → Nat) (name : String) : Prop where
  nonempty : name ≠ ""
  short : measure name ≤ 128
  unreserved : name.toList.head? ≠ some ':'

structure Fits (measure : String → Nat) (response : Response) : Prop where
  size : response.size ≤ 256
  names : ∀ name ∈ response.names, NameFits measure name

/-- the flaw of a response: it has too many fields, or else the smallest name that no field may have -/
inductive Flawed (measure : String → Nat) (response : Response) : ResponseFlaw → Prop where
  | tooManyFields (hsize : 256 < response.size) : Flawed measure response .tooManyFields
  | badName {name : String} (hsize : response.size ≤ 256) (hmem : name ∈ response.names)
    (hname : ¬NameFits measure name)
      (hbefore : ∀ other ∈ response.names, other < name → NameFits measure other) :
      Flawed measure response (.badName name)

/-- are the complaints about a response those that the rules ask for -/
structure Checked (measure : String → Nat) (response : Response) : Prop where
  accepted : checkResponse response = [] ↔ Fits measure response
  single : ∀ complaint ∈ checkResponse response, checkResponse response = [complaint]
  tooMany : ∀ complaint ∈ checkResponse response, complaint.code = "too_many_fields" ↔ 256 < response.size
  badName : ∀ complaint ∈ checkResponse response, response.size ≤ 256 →
    complaint.code = "invalid_field_name" ∧
      ∃ name ∈ response.names, ¬NameFits measure name ∧
        (∀ other ∈ response.names, other < name → NameFits measure other) ∧
          complaint.message? = some ("Invalid response field name: " ++ Text.quoted name)

theorem acceptsName_iff {name : String} : acceptsName name = true ↔ NameFits String.utf8ByteSize name := by
  simp only [acceptsName, Bool.and_eq_true, bne_iff_ne, ne_eq, decide_eq_true_eq]
  constructor
  · rintro ⟨⟨hnonempty, hshort⟩, hunreserved⟩
    exact ⟨hnonempty, hshort, hunreserved⟩
  · rintro ⟨hnonempty, hshort, hunreserved⟩
    exact ⟨⟨hnonempty, hshort⟩, hunreserved⟩

theorem flaw?_eq_none_iff {response : Response} : response.flaw? = none ↔ Fits String.utf8ByteSize response := by
  unfold flaw?
  split
  · next hsize => exact iff_of_false (by simp) fun hfits => absurd hfits.size (Nat.not_le_of_lt hsize)
  · next hsize =>
    simp only [Option.map_eq_none_iff, List.find?_eq_none, Bool.not_eq_true', Bool.not_eq_false, acceptsName_iff]
    exact ⟨fun hnames => ⟨Nat.le_of_not_lt hsize, hnames⟩, fun hfits => hfits.names⟩

instance (response : Response) : Decidable (response.Fits String.utf8ByteSize) :=
  decidable_of_iff _ flaw?_eq_none_iff

/-- **The flaw that is found is the first one**: the names are looked at in their order. -/
theorem flawed_of_flaw? {response : Response} {flaw : ResponseFlaw} (h : response.flaw? = some flaw) :
    Flawed String.utf8ByteSize response flaw := by
  unfold flaw? at h
  split at h
  · next hsize =>
    cases h
    exact .tooManyFields hsize
  next hsize =>
  obtain ⟨name, hfind, rfl⟩ := Option.map_eq_some_iff.1 h
  obtain ⟨hname, before, after, hnames, hbefore⟩ := List.find?_eq_some_iff_append.1 hfind
  have hsorted : (before ++ name :: after).Pairwise (· < ·) := by
    rw [← hnames]
    exact List.pairwise_map.2 response.sorted
  refine .badName (Nat.le_of_not_lt hsize) (by simp [hnames]) (fun hfits => ?_) fun other hmem hless => ?_
  · rw [acceptsName_iff.2 hfits] at hname
    cases hname
  · -- a smaller name stands before, and all names before were accepted
    rw [hnames, List.mem_append, List.mem_cons] at hmem
    rcases hmem with hmem | rfl | hmem
    · exact acceptsName_iff.1 (by simpa using hbefore other hmem)
    · exact absurd hless (String.lt_irrefl other)
    · have hgreater := List.rel_of_pairwise_cons (List.pairwise_append.1 hsorted).2.1 hmem
      exact absurd (String.lt_trans hless hgreater) (String.lt_irrefl other)

/-- a response is accepted, or there is one complaint about it -/
theorem checkResponse_cases (response : Response) :
    (checkResponse response = [] ∧ Fits String.utf8ByteSize response) ∨
      ∃ flaw, checkResponse response = [.badResponse response flaw] ∧ ¬Fits String.utf8ByteSize response ∧
        Flawed String.utf8ByteSize response flaw := by
  cases hflaw : response.flaw? with
  | none => exact .inl ⟨by simp [checkResponse, hflaw], flaw?_eq_none_iff.1 hflaw⟩
  | some flaw =>
    refine .inr ⟨flaw, by simp [checkResponse, hflaw], fun hfits => ?_, flawed_of_flaw? hflaw⟩
    rw [flaw?_eq_none_iff.2 hfits] at hflaw
    cases hflaw

theorem checked_bytes (response : Response) : Checked String.utf8ByteSize response := by
  rcases checkResponse_cases response with ⟨hnone, hfits⟩ | ⟨flaw, hone, hnot, hflawed⟩
  · exact ⟨by simp [hnone, hfits], by simp [hnone], by simp [hnone], by simp [hnone]⟩
  · have hlisted : ∀ complaint ∈ checkResponse response, complaint = .badResponse response flaw := by simp [hone]
    refine ⟨by simp [hone, hnot], fun complaint hmem => ?_, fun complaint hmem => ?_, fun complaint hmem hfew => ?_⟩
    · rw [hlisted complaint hmem, hone]
    · rw [hlisted complaint hmem]
      cases hflawed with
      | tooManyFields hsize => exact iff_of_true rfl hsize
      | badName hsize => exact iff_of_false (by simp [Complaint.code]) (Nat.not_lt_of_le hsize)
    · rw [hlisted complaint hmem]
      cases hflawed with
      | tooManyFields hsize => exact absurd hfew (Nat.not_le_of_lt hsize)
      | @badName name hsize hname hunfit hbefore => exact ⟨rfl, name, hname, hunfit, hbefore, rfl⟩

/-- the rules are the same for two measures that make no difference to the names of the response -/
theorem Checked.congr {a b : String → Nat} {response : Response} (h : Checked a response)
    (hsame : ∀ name ∈ response.names, (NameFits a name ↔ NameFits b name)) : Checked b response where
  accepted := by
    rw [h.accepted]
    constructor
    · exact fun hfits => ⟨hfits.size, fun name hmem => (hsame name hmem).1 (hfits.names name hmem)⟩
    · exact fun hfits => ⟨hfits.size, fun name hmem => (hsame name hmem).2 (hfits.names name hmem)⟩
  single := h.single
  tooMany := h.tooMany
  badName complaint hmem hfew := by
    obtain ⟨hcode, name, hname, hunfit, hbefore, hmessage⟩ := h.badName complaint hmem hfew
    exact ⟨hcode, name, hname, fun hfits => hunfit ((hsame name hname).2 hfits),
      fun other hother hless => (hsame other hother).1 (hbefore other hother hless), hmessage⟩

theorem NameFits.length {name : String} (h : NameFits String.utf8ByteSize name) : NameFits String.length name :=
  ⟨h.nonempty, (length_le_utf8ByteSize name).trans h.short, h.unreserved⟩

/-- **Responses are checked by the rules, with names measured in bytes.**

- A response is accepted if and only if it has at most 256 fields, and each name of a field is not empty, has at most
  128 bytes and does not begin with a colon.
- There is at most one complaint. It is about the number of fields if and only if there are more than 256, and else it
  gives the smallest name that no field may have.
- What is accepted has no name of more than 128 characters.
- If no name of at most 128 characters has more than 128 bytes, the rules are kept with characters in place of
  bytes. -/
theorem responses_checked (response : Response) :
    Checked String.utf8ByteSize response ∧
      (checkResponse response = [] → Fits String.length response) ∧
      ((∀ name ∈ response.names, name.length ≤ 128 → name.utf8ByteSize ≤ 128) → Checked String.length response) := by
  have hbytes := checked_bytes response
  refine ⟨hbytes, fun hnone => ?_, fun hnarrow => hbytes.congr fun name hmem => ?_⟩
  · have hfits := hbytes.accepted.1 hnone
    exact ⟨hfits.size, fun name hmem => (hfits.names name hmem).length⟩
  · exact ⟨NameFits.length, fun hfits => ⟨hfits.nonempty, hnarrow name hmem hfits.short, hfits.unreserved⟩⟩

/-- a response with an accepted name and two names that no field may have -/
def reserved : Response := Keyed.ofList [("answer", "4"), (":hint", "1"), (":flag", "1")]

theorem responses_checked_reserved :
    Checked String.length reserved ∧
      (checkResponse reserved).map Complaint.message? = [some "Invalid response field name: \":flag\""] ∧
      Fits String.length (Keyed.empty.insert "answer" "4") := by
  have hnone : checkResponse (Keyed.empty.insert "answer" "4") = [] := List.isEmpty_iff.1 (by decide)
  have hall : (reserved.names.all fun name => name.toList.all fun c => decide (c.val ≤ 127)) = true := by decide
  have hascii : ∀ name ∈ reserved.names, ∀ c ∈ name.toList, c.val ≤ 127 := by simpa using hall
  refine ⟨(responses_checked reserved).2.2 fun name hmem hshort => ?_, by decide +kernel,
    (responses_checked _).2.1 hnone⟩
  rwa [utf8ByteSize_eq_length (hascii name hmem)]

/-- a response with a name of sixty-five characters and twice as many bytes -/
def wide : Response := Keyed.empty.insert (String.ofList (List.replicate 65 'é')) "v"

/-- **The rules are not kept with characters**: a name of sixty-five characters is found too long. -/
theorem checked_wide : ¬Checked String.length wide := by
  intro hlaw
  have hnames : wide.names = [String.ofList (List.replicate 65 'é')] := rfl
  have hfits : Fits String.length wide := by
    refine ⟨by decide, fun name hmem => ?_⟩
    rw [hnames, List.mem_singleton] at hmem
    subst hmem
    refine ⟨fun hempty => ?_, ?_, by rw [String.toList_ofList]; decide⟩
    · simpa using congrArg String.length hempty
    · rw [String.length_ofList, List.length_replicate]
      decide
  have haccepted := (checked_bytes wide).accepted.1 (hlaw.accepted.2 hfits)
  have hshort := (haccepted.names _ (hnames ▸ List.mem_singleton_self _)).short
  rw [utf8ByteSize_eq_sum, String.toList_ofList, List.map_replicate, List.sum_replicate] at hshort
  exact absurd hshort (by decide)

end Response

end AttemptLog
