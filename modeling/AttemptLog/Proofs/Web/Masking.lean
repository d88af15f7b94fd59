import AttemptLog.Proofs.Form
import AttemptLog.Web.Route
/-!
Which segments of a path are masked.

The segments of a path are texts without slashes that give the path when slashes are put between them, and there is
one way only to have them (`isSegments_iff`). `isMasked_iff` says which segments are masked: those that look like
identities, and all other texts of thirty-six hexadecimal digits and hyphens. `path_masked` puts this together: a
masked path has the segments of the path in their order, each of them masked or as it was, and masking it again
changes nothing. `unhyphenated_masked` is a segment that is masked although it looks like no identity.
-/
namespace AttemptLog

theorem Text.isHexDigit_iff {c : Char} :
    Text.isHexDigit c = true ↔ ('0' ≤ c ∧ c ≤ '9') ∨ ('a' ≤ c ∧ c ≤ 'f') ∨ ('A' ≤ c ∧ c ≤ 'F') := by
  unfold isHexDigit digitValue?
  split_ifs <;> simp_all

namespace Web

/-! ## Segments -/

/-- are these the segments of a path, in their order -/
structure IsSegments (parts : List String) (path : String) : Prop where
  nonempty : parts ≠ []
  slashFree : ∀ part ∈ parts, '/' ∉ part.toList
  joins : joined parts = path

theorem toList_joined (parts : List String) : (joined parts).toList = ['/'].intercalate (parts.map String.toList) := by
  rw [joined, String.toList_intercalate]
  rfl

theorem not_mem_of_mem_splitOn {chars part : List Char} (h : part ∈ chars.splitOn '/') : '/' ∉ part := by
  induction chars generalizing part with
  | nil =>
    rw [List.splitOn_nil, List.mem_singleton] at h
    rw [h]
    exact List.not_mem_nil
  | cons first rest ih =>
    rw [List.splitOn_cons_eq_if_modifyHead] at h
    obtain ⟨next, later, hrest⟩ := List.exists_cons_of_ne_nil (List.splitOn_ne_nil '/' rest)
    rw [hrest] at h ih
    split_ifs at h with hslash
    · rcases List.mem_cons.1 h with rfl | hpart
      · exact List.not_mem_nil
      · exact ih hpart
    · rcases List.mem_cons.1 h with rfl | hpart
      · exact List.not_mem_cons_of_ne_of_not_mem (fun heq => hslash (by rw [← heq]; rfl)) (ih List.mem_cons_self)
      · exact ih (List.mem_cons_of_mem _ hpart)

theorem isSegments_segments (path : String) : IsSegments (segments path) path where
  nonempty := by simp [segments]
  slashFree part hpart := by
    obtain ⟨chars, hchars, rfl⟩ := List.mem_map.1 hpart
    rw [String.toList_ofList]
    exact not_mem_of_mem_splitOn hchars
  joins := by
    rw [← String.toList_inj, toList_joined, segments, List.map_map]
    simp

theorem isSegments_iff {parts : List String} {path : String} : IsSegments parts path ↔ parts = segments path := by
  constructor
  · rintro ⟨hnonempty, hslash, rfl⟩
    have hchars : ∀ chars ∈ parts.map String.toList, '/' ∉ chars := by
      intro chars hmem
      obtain ⟨part, hpart, rfl⟩ := List.mem_map.1 hmem
      exact hslash part hpart
    rw [segments, toList_joined, List.splitOn_intercalate '/' hchars (by simpa using hnonempty), List.map_map]
    simp
  · rintro rfl
    exact isSegments_segments path

/-! ## Identities -/

/-- is a segment of so many characters, all of one kind -/
structure Consists (segment : String) (count : Nat) (kind : Char → Bool) : Prop where
  length : segment.length = count
  all : ∀ c ∈ segment.toList, kind c = true

instance (segment : String) (count : Nat) (kind : Char → Bool) : Decidable (Consists segment count kind) :=
  decidable_of_iff (segment.length = count ∧ segment.toList.all kind = true)
    ⟨fun ⟨hlength, hall⟩ => ⟨hlength, List.all_eq_true.1 hall⟩, fun h => ⟨h.length, List.all_eq_true.2 h.all⟩⟩

def isHexOrHyphen (c : Char) : Bool := Text.isHexDigit c || c == '-'

/-- is a segment one of 8, 4, 4, 4 and 12 hexadecimal digits with hyphens between them -/
def IsUuid (segment : String) : Prop :=
  ∃ groups : List (List Char), groups.map List.length = [8, 4, 4, 4, 12] ∧
    (∀ group ∈ groups, ∀ c ∈ group, Text.isHexDigit c = true) ∧ segment.toList = ['-'].intercalate groups

/-- does a segment look like an identity -/
inductive IsIdentity (segment : String) : Prop where
  | uuid (h : IsUuid segment)
  | object (h : Consists segment 24 Text.isHexDigit)
  | number (hsome : segment ≠ "") (hall : ∀ c ∈ segment.toList, c.isDigit = true)

theorem ascii_of_isHexDigit {c : Char} (h : Text.isHexDigit c = true) : c.val ≤ 127 := by
  rcases Text.isHexDigit_iff.1 h with ⟨-, hle⟩ | ⟨-, hle⟩ | ⟨-, hle⟩ <;>
    exact UInt32.le_trans hle (by decide)

theorem ascii_of_isHexOrHyphen {c : Char} (h : isHexOrHyphen c = true) : c.val ≤ 127 := by
  rcases Bool.or_eq_true_iff.1 h with hdigit | hhyphen
  · exact ascii_of_isHexDigit hdigit
  · rw [beq_iff_eq.1 hhyphen]
    decide

/-- bytes can be counted in place of characters where all of them are in ASCII -/
theorem consists_iff {segment : String} {count : Nat} {kind : Char → Bool} (hascii : ∀ c, kind c = true → c.val ≤ 127) :
    (segment.utf8ByteSize == count && segment.toList.all kind) = true ↔ Consists segment count kind := by
  rw [Bool.and_eq_true, beq_iff_eq, List.all_eq_true]
  constructor
  · rintro ⟨hsize, hall⟩
    exact ⟨(utf8ByteSize_eq_length fun c hc => hascii c (hall c hc)).symm.trans hsize, hall⟩
  · rintro ⟨hlength, hall⟩
    exact ⟨(utf8ByteSize_eq_length fun c hc => hascii c (hall c hc)).trans hlength, hall⟩

theorem isUuidLike_iff {segment : String} : isUuidLike segment = true ↔ Consists segment 36 isHexOrHyphen :=
  consists_iff fun _ => ascii_of_isHexOrHyphen

theorem isObjectId_iff {segment : String} : isObjectId segment = true ↔ Consists segment 24 Text.isHexDigit :=
  consists_iff fun _ => ascii_of_isHexDigit

theorem isNumericId_iff {segment : String} :
    isNumericId segment = true ↔ segment ≠ "" ∧ ∀ c ∈ segment.toList, c.isDigit = true := by
  rw [isNumericId, Bool.and_eq_true, bne_iff_ne, List.all_eq_true]

theorem length_intercalate_hyphen {groups : List (List Char)} (h : groups ≠ []) :
    (['-'].intercalate groups).length + 1 = (groups.map List.length).sum + groups.length := by
  induction groups with
  | nil => exact absurd rfl h
  | cons first rest ih =>
    cases rest with
    | nil => simp
    | cons second others =>
      have hrest := ih (List.cons_ne_nil second others)
      simp only [List.intercalate_cons_cons, List.length_append, List.map_cons, List.sum_cons, List.length_cons,
        List.length_nil] at hrest ⊢
      omega

theorem forall_mem_intercalate_hyphen {kind : Char → Bool} {groups : List (List Char)} (hhyphen : kind '-' = true)
    (h : ∀ group ∈ groups, ∀ c ∈ group, kind c = true) : ∀ c ∈ ['-'].intercalate groups, kind c = true := by
  induction groups with
  | nil => exact nofun
  | cons first rest ih =>
    intro c hc
    cases rest with
    | nil => exact h first List.mem_cons_self c (by simpa using hc)
    | cons second others =>
      rw [List.intercalate_cons_cons, List.mem_append, List.mem_append, List.mem_singleton] at hc
      rcases hc with (hfirst | rfl) | hrest
      · exact h first List.mem_cons_self c hfirst
      · exact hhyphen
      · exact ih (fun group hgroup => h group (List.mem_cons_of_mem _ hgroup)) c hrest

theorem IsUuid.consists {segment : String} (h : IsUuid segment) : Consists segment 36 isHexOrHyphen := by
  obtain ⟨groups, hlengths, hdigits, hchars⟩ := h
  have hfive : groups.length = 5 := by
    rw [← List.length_map (f := List.length), hlengths]
    rfl
  have hlength := length_intercalate_hyphen (List.ne_nil_of_length_eq_add_one hfive)
  rw [← hchars, String.length_toList, hlengths, hfive] at hlength
  have hkind : ∀ group ∈ groups, ∀ c ∈ group, isHexOrHyphen c = true :=
    fun group hgroup c hc => Bool.or_eq_true_iff.2 (.inl (hdigits group hgroup c hc))
  exact ⟨Nat.succ.inj hlength, hchars ▸ forall_mem_intercalate_hyphen rfl hkind⟩

/-- a UUID falls into its groups at its hyphens -/
theorem isUuid_iff {segment : String} :
    IsUuid segment ↔ (segment.toList.splitOn '-').map List.length = [8, 4, 4, 4, 12] ∧
      ((segment.toList.splitOn '-').all fun group => group.all Text.isHexDigit) = true := by
  simp only [List.all_eq_true]
  constructor
  · rintro ⟨groups, hlengths, hdigits, hchars⟩
    have hhyphen : ∀ group ∈ groups, '-' ∉ group :=
      fun group hgroup hmem => absurd (hdigits group hgroup '-' hmem) (by decide)
    have hsplit : segment.toList.splitOn '-' = groups := by
      rw [hchars]
      refine List.splitOn_intercalate '-' hhyphen ?_
      rintro rfl
      cases hlengths
    rw [hsplit]
    exact ⟨hlengths, hdigits⟩
  · rintro ⟨hlengths, hdigits⟩
    exact ⟨_, hlengths, hdigits, (List.intercalate_splitOn '-').symm⟩

instance (segment : String) : Decidable (IsUuid segment) := decidable_of_iff _ isUuid_iff.symm

theorem isIdentity_iff {segment : String} :
    IsIdentity segment ↔ IsUuid segment ∨ isObjectId segment = true ∨ isNumericId segment = true := by
  rw [isObjectId_iff, isNumericId_iff]
  constructor
  · rintro (huuid | hobject | ⟨hsome, hdigits⟩)
    · exact .inl huuid
    · exact .inr (.inl hobject)
    · exact .inr (.inr ⟨hsome, hdigits⟩)
  · rintro (huuid | hobject | ⟨hsome, hdigits⟩)
    · exact .uuid huuid
    · exact .object hobject
    · exact .number hsome hdigits

instance (segment : String) : Decidable (IsIdentity segment) := decidable_of_iff _ isIdentity_iff.symm

/-- **The segments that are masked** are those that look like identities, and the texts of thirty-six hexadecimal
digits and hyphens. -/
theorem isMasked_iff {segment : String} :
    (isUuidLike segment || isObjectId segment || isNumericId segment) = true ↔
      IsIdentity segment ∨ Consists segment 36 isHexOrHyphen := by
  rw [Bool.or_eq_true, Bool.or_eq_true, isIdentity_iff, ← isUuidLike_iff]
  constructor
  · rintro ((hlike | hobject) | hnumber)
    · exact .inr hlike
    · exact .inl (.inr (.inl hobject))
    · exact .inl (.inr (.inr hnumber))
  · rintro ((huuid | hobject | hnumber) | hlike)
    · exact .inl (.inl (isUuidLike_iff.2 huuid.consists))
    · exact .inl (.inr hobject)
    · exact .inr hnumber
    · exact .inl (.inl hlike)

/-! ## Masked paths -/

def idMark : String := "\x7bid\x7d"

theorem maskSegment_of_masked {segment : String} (h : IsIdentity segment ∨ Consists segment 36 isHexOrHyphen) :
    maskSegment segment = idMark := by
  rw [maskSegment, if_pos (isMasked_iff.2 h)]
  rfl

theorem maskSegment_of_kept {segment : String} (h : ¬ IsIdentity segment)
    (hlike : ¬ Consists segment 36 isHexOrHyphen) : maskSegment segment = segment := by
  rw [maskSegment, if_neg fun hmasked => (isMasked_iff.1 hmasked).elim h hlike]

theorem maskSegment_idMark : maskSegment idMark = idMark := ite_self _

theorem maskSegment_maskSegment (segment : String) : maskSegment (maskSegment segment) = maskSegment segment := by
  by_cases hmasked : IsIdentity segment ∨ Consists segment 36 isHexOrHyphen
  · rw [maskSegment_of_masked hmasked, maskSegment_idMark]
  · obtain ⟨hidentity, hlike⟩ := not_or.1 hmasked
    rw [maskSegment_of_kept hidentity hlike, maskSegment_of_kept hidentity hlike]

theorem slash_not_mem_maskSegment {segment : String} (h : '/' ∉ segment.toList) :
    '/' ∉ (maskSegment segment).toList := by
  unfold maskSegment
  split_ifs
  · decide
  · exact h

theorem isSegments_maskPath (path : String) : IsSegments ((segments path).map maskSegment) (maskPath path) where
  nonempty := by simpa using (isSegments_segments path).nonempty
  slashFree part hpart := by
    obtain ⟨segment, hsegment, rfl⟩ := List.mem_map.1 hpart
    exact slash_not_mem_maskSegment ((isSegments_segments path).slashFree segment hsegment)
  joins := rfl

theorem maskPath_maskPath (path : String) : maskPath (maskPath path) = maskPath path := by
  have hsegments := isSegments_iff.1 (isSegments_maskPath path)
  calc maskPath (maskPath path) = joined (((segments path).map maskSegment).map maskSegment) := by
        rw [maskPath, ← hsegments]
    _ = joined ((segments path).map maskSegment) := by
        rw [List.map_map]
        exact congrArg joined (List.map_congr_left fun segment _ => maskSegment_maskSegment segment)

/-- **Segments that look like identities are masked, and nothing else is**, apart from the texts of thirty-six
hexadecimal digits and hyphens in another order than that of a UUID.

- The masked path has as many segments as the path, in their order: each one is that of the path, masked.
- A segment is masked if it is a UUID in its usual form, if it is twenty-four hexadecimal digits, or if it is decimal
  digits and not empty. Any other segment stays as it is, if it is no text of thirty-six hexadecimal digits and
  hyphens; such a text is masked all the same.
- Masking a masked path changes nothing. -/
theorem path_masked (path : String) :
    ∃ parts, (∀ others, IsSegments others path ↔ others = parts) ∧
      (∀ others, IsSegments others (maskPath path) ↔ others = parts.map maskSegment) ∧
      (∀ part ∈ parts,
        (IsIdentity part → maskSegment part = idMark) ∧
          (¬ IsIdentity part →
            maskSegment part = if Consists part 36 isHexOrHyphen then idMark else part)) ∧
      maskPath (maskPath path) = maskPath path := by
  refine ⟨segments path, fun others => isSegments_iff, fun others => ?_, fun part hpart => ⟨fun hidentity => ?_,
    fun hidentity => ?_⟩, maskPath_maskPath path⟩
  · rw [isSegments_iff, ← isSegments_iff.1 (isSegments_maskPath path)]
  · exact maskSegment_of_masked (.inl hidentity)
  · split_ifs with hlike
    · exact maskSegment_of_masked (.inr hlike)
    · exact maskSegment_of_kept hidentity hlike

/-- a segment that is empty and one beyond ASCII are kept, and twenty-four hexadecimal digits are masked -/
theorem path_masked_object :
    maskPath "/é/65A1F0c2e4b0a1b2c3d4e5f6" = "/é/\x7bid\x7d" ∧
      maskPath (maskPath "/é/65A1F0c2e4b0a1b2c3d4e5f6") = "/é/\x7bid\x7d" := by
  obtain ⟨parts, hparts, hmasked, hrule, htwice⟩ := path_masked "/é/65A1F0c2e4b0a1b2c3d4e5f6"
  have hthree : IsSegments ["", "é", "65A1F0c2e4b0a1b2c3d4e5f6"] "/é/65A1F0c2e4b0a1b2c3d4e5f6" :=
    ⟨by decide, by decide, by decide⟩
  obtain rfl := (hparts _).1 hthree
  have hempty : maskSegment "" = "" := (hrule "" (by simp)).2 (by decide)
  have hkept : maskSegment "é" = "é" := (hrule "é" (by simp)).2 (by decide)
  have hobject : maskSegment "65A1F0c2e4b0a1b2c3d4e5f6" = idMark := (hrule _ (by simp)).1 (by decide)
  have hpath := ((hmasked _).2 rfl).joins
  rw [List.map_cons, List.map_cons, List.map_cons, hempty, hkept, hobject] at hpath
  exact ⟨hpath.symm, htwice.trans hpath.symm⟩

/-- thirty-six hexadecimal digits without a hyphen are masked, although they look like no identity -/
theorem unhyphenated_masked :
    ¬ ∀ segment, maskSegment segment = idMark → segment = idMark ∨ IsIdentity segment := by
  intro hlaw
  exact absurd (hlaw "0123456789abcdef0123456789abcdef0123" (by decide)) (by decide)

end Web

end AttemptLog
