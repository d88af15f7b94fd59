import AttemptLog.Instant.Text
import Mathlib.Tactic
/-!
The text of an instant is read as that instant.

Each part of the text is followed by a character that ends it, so a reader takes what the writer of this part has
written and leaves the rest. `read?_chars` puts the parts together; a leap second, which is written as the sixtieth
second of its minute, comes back as it was.
-/
namespace AttemptLog

namespace Text

theorem isDigit_of_mem_padded {width n : Nat} {c : Char} (h : c ∈ padded width n) : c.isDigit = true := by
  rcases List.mem_append.1 h with hzero | hdigit
  · obtain ⟨-, rfl⟩ := List.mem_replicate.1 hzero
    rfl
  · exact Nat.isDigit_of_mem_toDigits (by decide) (Nat.le_refl 10) hdigit

theorem padded_ne_nil (width n : Nat) : padded width n ≠ [] := by
  simp [padded, List.leftpad, numeral, Nat.toDigits_ne_nil]

theorem value_padded (width n : Nat) : value (padded width n) = n := by
  have hnumeral := value_numeral n
  simp only [value] at hnumeral
  simp [padded, List.leftpad, value, Nat.ofDigitChars_append, Nat.ofDigitChars_replicate_zero, hnumeral]

theorem length_padded {width n : Nat} (hwidth : 0 < width) (h : n < 10 ^ width) : (padded width n).length = width := by
  have hlength : (numeral n).length ≤ width := (Nat.length_toDigits_le_iff (by decide) hwidth).2 h
  simp [padded, hlength]

theorem isBlank_eq_false_of_isDigit {c : Char} (h : c.isDigit = true) : isBlank c = false := by
  simp only [Char.isDigit, Bool.and_eq_true, decide_eq_true_eq, UInt32.le_iff_toNat_le] at h
  change 48 ≤ c.toNat ∧ c.toNat ≤ 57 at h
  simp only [isBlank, Ranges.has, blankRanges, List.any_cons, List.any_nil, Bool.or_false, Bool.or_eq_false_iff,
    Bool.and_eq_false_iff, decide_eq_false_iff_not]
  omega

theorem skipBlanks_of_isDigit {c : Char} (h : c.isDigit = true) (rest : List Char) :
    skipBlanks (c :: rest) = c :: rest := by
  simp [skipBlanks, isBlank_eq_false_of_isDigit h]

theorem skipBlanks_padded (width n : Nat) (rest : List Char) :
    skipBlanks (padded width n ++ rest) = padded width n ++ rest := by
  obtain ⟨first, others, hpadded⟩ := List.exists_cons_of_ne_nil (padded_ne_nil width n)
  rw [hpadded]
  have hmem : first ∈ padded width n := by simp [hpadded]
  exact skipBlanks_of_isDigit (isDigit_of_mem_padded hmem) _

end Text

namespace Instant

open Text

theorem spanDigits_append {width : Nat} {digits rest : List Char} (hdigits : ∀ c ∈ digits, c.isDigit = true)
    (hwidth : digits.length ≤ width) (hends : digits.length = width ∨ ∀ c ∈ rest.head?, c.isDigit = false) :
    spanDigits width (digits ++ rest) = (digits, rest) := by
  induction digits generalizing width with
  | nil =>
    cases width with
    | zero => rfl
    | succ width =>
      cases rest with
      | nil => rfl
      | cons c rest =>
        have hc : c.isDigit = false := hends.resolve_left (by simp) c rfl
        simp [spanDigits, hc]
  | cons digit digits ih =>
    cases width with
    | zero => simp at hwidth
    | succ width =>
      have hlength : digits.length ≤ width := by simpa using hwidth
      have hrest := ih (fun c hmem => hdigits c (List.mem_cons_of_mem _ hmem)) hlength (hends.imp_left (by simp))
      simp [spanDigits, hdigits digit List.mem_cons_self, hrest]

theorem readNumber?_padded {most width n : Nat} {rest : List Char} (hwidth : (padded width n).length ≤ most)
    (hends : (padded width n).length = most ∨ ∀ c ∈ rest.head?, c.isDigit = false) :
    readNumber? most (padded width n ++ rest) = some (n, rest) := by
  unfold readNumber?
  rw [spanDigits_append (fun c hmem => isDigit_of_mem_padded hmem) hwidth hends]
  have hvalue := value_padded width n
  obtain ⟨first, others, hpadded⟩ := List.exists_cons_of_ne_nil (padded_ne_nil width n)
  rw [hpadded] at hvalue ⊢
  simp [hvalue]

theorem readField?_padded {n : Nat} (h : n < 100) (rest : List Char) :
    readField? 2 (padded 2 n ++ rest) = some (n, rest) := by
  have hlength : (padded 2 n).length = 2 := length_padded (by decide) h
  rw [readField?, skipBlanks_padded]
  exact readNumber?_padded (Nat.le_of_eq hlength) (.inl hlength)

theorem readMark?_cons {mark : Char} (h : isBlank mark = false) (rest : List Char) :
    readMark? mark (mark :: rest) = some rest := by
  simp [readMark?, skipBlanks, h]

theorem readYear?_padded {n : Nat} (h : n < 10000) (rest : List Char) :
    readYear? (padded 4 n ++ '-' :: rest) = some ((n : Int), '-' :: rest) := by
  have hlength : (padded 4 n).length = 4 := length_padded (by decide) h
  have hread : readNumber? 4 (padded 4 n ++ '-' :: rest) = some (n, '-' :: rest) :=
    readNumber?_padded (Nat.le_of_eq hlength) (.inl hlength)
  obtain ⟨first, others, hpadded⟩ := List.exists_cons_of_ne_nil (padded_ne_nil 4 n)
  have hmem : first ∈ padded 4 n := by simp [hpadded]
  have hfirst : first.isDigit = true := isDigit_of_mem_padded hmem
  unfold readYear?
  rw [skipBlanks_padded]
  rw [hpadded, List.cons_append] at hread ⊢
  split
  · next heq =>
    cases heq
    cases hfirst
  · next heq =>
    cases heq
    cases hfirst
  · rw [hread]
    rfl

theorem readYear?_signed {sign : Char} (hsign : sign = '-' ∨ sign = '+') (n : Nat) (rest : List Char) :
    readYear? (sign :: padded 4 n ++ '-' :: rest) = some (if sign = '-' then -(n : Int) else n, '-' :: rest) := by
  have hread : readNumber? (padded 4 n ++ '-' :: rest).length (padded 4 n ++ '-' :: rest) = some (n, '-' :: rest) :=
    readNumber?_padded (by simp) (.inr (by simp))
  rcases hsign with rfl | rfl
  · change (readNumber? (padded 4 n ++ '-' :: rest).length (padded 4 n ++ '-' :: rest)).map _ = _
    rw [hread]
    rfl
  · change (readNumber? (padded 4 n ++ '-' :: rest).length (padded 4 n ++ '-' :: rest)).map _ = _
    rw [hread]
    rfl

theorem readYear?_yearChars (year : Int) (rest : List Char) :
    readYear? (yearChars year ++ '-' :: rest) = some (year, '-' :: rest) := by
  unfold yearChars
  split
  · next hshort =>
    rw [readYear?_padded (by omega)]
    simp [hshort.1]
  · next hlong =>
    by_cases hnegative : year < 0
    · rw [if_pos hnegative, readYear?_signed (.inl rfl), if_pos rfl]
      simp [abs_of_neg hnegative]
    · rw [if_neg hnegative, readYear?_signed (.inr rfl), if_neg (by decide)]
      simp [abs_of_nonneg (Int.not_lt.1 hnegative)]

theorem readFraction?_padded {width n : Nat} (hwidth : 0 < width) (hmost : width ≤ 9) (hn : n < 10 ^ width)
    (rest : List Char) :
    readFraction? ('.' :: padded width n ++ 'Z' :: rest) = some (n * Nat.pow 10 (9 - width), 'Z' :: rest) := by
  have hlength : (padded width n).length = width := length_padded hwidth hn
  have hspan : spanDigits 9 (padded width n ++ 'Z' :: rest) = (padded width n, 'Z' :: rest) :=
    spanDigits_append (fun c hmem => isDigit_of_mem_padded hmem) (by omega) (.inr (by simp))
  have hvalue := value_padded width n
  simp only [List.cons_append, readFraction?, hspan]
  obtain ⟨first, others, hpadded⟩ := List.exists_cons_of_ne_nil (padded_ne_nil width n)
  rw [hpadded] at hlength hvalue ⊢
  simp only [hvalue, hlength]
  rfl

/-- a fraction is read back, whatever number of digits it is written with -/
theorem readFraction?_fractionChars {nanos : Nat} (h : nanos < secondNanos) (rest : List Char) :
    readFraction? (fractionChars nanos ++ 'Z' :: rest) = some (nanos, 'Z' :: rest) := by
  unfold secondNanos at h
  unfold fractionChars
  split_ifs with hzero hmillis hmicros
  · subst hzero
    rfl
  · rw [readFraction?_padded (by decide) (by decide) (by omega)]
    simp only [Nat.pow_eq, Nat.reduceSub, Nat.reducePow, Option.some.injEq, Prod.mk.injEq, and_true]
    omega
  · rw [readFraction?_padded (by decide) (by decide) (by omega)]
    simp only [Nat.pow_eq, Nat.reduceSub, Nat.reducePow, Option.some.injEq, Prod.mk.injEq, and_true]
    omega
  · rw [readFraction?_padded (by decide) (by decide) (by omega)]
    simp

/-! ## The parts together -/

theorem date_of?_self (date : Date) : Date.of? date.year date.month date.day = some date := dif_pos date.isDate

theorem of?_self (instant : Instant) : of? instant.date instant.second instant.nano = some instant :=
  dif_pos instant.isClock

theorem ofLocal?_zero (date : Date) {second : Nat} (h : second < daySeconds) (nano : Nat) :
    ofLocal? date second nano 0 = of? date second nano := by
  simp only [ofLocal?, Int.zero_mul, Int.sub_zero]
  rw [if_neg (by omega), if_pos (by omega), Int.toNat_natCast]

theorem parts_lt (instant : Instant) :
    instant.date.month < 100 ∧ instant.date.day < 100 ∧ instant.second / 3600 < 24 ∧ instant.second / 60 % 60 < 60 ∧
      instant.secondOfMinute ≤ 60 := by
  obtain ⟨-, -, -, hmonth, -, hday⟩ := instant.date.isDate
  have hdays : daysIn instant.date.year instant.date.month ≤ 31 := by
    unfold daysIn
    split_ifs <;> omega
  obtain ⟨hsecond, -, -⟩ := instant.isClock
  unfold daySeconds at hsecond
  refine ⟨by omega, by omega, by omega, by omega, ?_⟩
  unfold secondOfMinute
  split <;> omega

/-- the hour, the minute and the second give the instant, with a leap second as the second before it -/
theorem ofLocal?_parts (instant : Instant) :
    (if instant.secondOfMinute = 60 then
        ofLocal? instant.date ((instant.second / 3600 * 60 + instant.second / 60 % 60) * 60 + 59)
          (secondNanos + instant.nano % secondNanos) 0
      else
        ofLocal? instant.date ((instant.second / 3600 * 60 + instant.second / 60 % 60) * 60 + instant.secondOfMinute)
          (instant.nano % secondNanos) 0) = some instant := by
  obtain ⟨hsecond, hnano, hleap⟩ := instant.isClock
  have hself := of?_self instant
  by_cases hlong : secondNanos ≤ instant.nano
  · have hminute : instant.secondOfMinute = 60 := if_pos hlong
    have hlast := hleap hlong
    have hnanos : secondNanos + instant.nano % secondNanos = instant.nano := by
      unfold secondNanos at hnano hlong ⊢
      omega
    rw [if_pos hminute, show (instant.second / 3600 * 60 + instant.second / 60 % 60) * 60 + 59 =
      instant.second by omega, hnanos, ofLocal?_zero _ hsecond]
    exact hself
  · have hminute : instant.secondOfMinute = instant.second % 60 := if_neg hlong
    rw [hminute, if_neg (by omega),
      show (instant.second / 3600 * 60 + instant.second / 60 % 60) * 60 + instant.second % 60 = instant.second by omega,
      Nat.mod_eq_of_lt (Nat.lt_of_not_le hlong), ofLocal?_zero _ hsecond]
    exact hself

/-- **The text of an instant is read as that instant.** -/
theorem read?_chars (instant : Instant) : read? instant.chars = some instant := by
  obtain ⟨hmonth, hday, hhour, hminute, hsecond⟩ := instant.parts_lt
  have hfraction : instant.nano % secondNanos < secondNanos := Nat.mod_lt _ (by decide)
  have hdash : ∀ rest, readMark? '-' ('-' :: rest) = some rest := readMark?_cons (by decide)
  have hcolon : ∀ rest, readMark? ':' (':' :: rest) = some rest := readMark?_cons (by decide)
  have hchars : instant.chars = yearChars instant.date.year ++ '-' :: (padded 2 instant.date.month ++
      '-' :: (padded 2 instant.date.day ++ 'T' :: (padded 2 (instant.second / 3600) ++
      ':' :: (padded 2 (instant.second / 60 % 60) ++ ':' :: (padded 2 instant.secondOfMinute ++
      (fractionChars (instant.nano % secondNanos) ++ ['Z'])))))) := by
    simp only [chars, List.append_assoc, List.cons_append]
  rw [hchars]
  refine Option.bind_eq_some_iff.2 ⟨_, readYear?_yearChars _ _, ?_⟩
  refine Option.bind_eq_some_iff.2 ⟨_, hdash _, ?_⟩
  refine Option.bind_eq_some_iff.2 ⟨_, readField?_padded hmonth _, ?_⟩
  refine Option.bind_eq_some_iff.2 ⟨_, hdash _, ?_⟩
  refine Option.bind_eq_some_iff.2 ⟨_, readField?_padded hday _, ?_⟩
  refine Option.bind_eq_some_iff.2 ⟨_, rfl, ?_⟩
  refine Option.bind_eq_some_iff.2 ⟨_, readField?_padded (Nat.lt_trans hhour (by decide)) _, ?_⟩
  refine Option.bind_eq_some_iff.2 ⟨_, hcolon _, ?_⟩
  refine Option.bind_eq_some_iff.2 ⟨_, readField?_padded (Nat.lt_trans hminute (by decide)) _, ?_⟩
  refine Option.bind_eq_some_iff.2 ⟨_, hcolon _, ?_⟩
  refine Option.bind_eq_some_iff.2 ⟨_, readField?_padded (Nat.lt_of_le_of_lt hsecond (by decide)) _, ?_⟩
  refine Option.bind_eq_some_iff.2 ⟨_, readFraction?_fractionChars hfraction _, ?_⟩
  refine Option.bind_eq_some_iff.2 ⟨((0 : Int), []), rfl, ?_⟩
  refine Option.bind_eq_some_iff.2 ⟨_, date_of?_self instant.date, ?_⟩
  exact (if_pos ⟨rfl, hhour, hminute, hsecond⟩).trans (ofLocal?_parts instant)

theorem read?_render (instant : Instant) : read? instant.render.toList = some instant := by
  rw [render, String.toList_ofList, read?_chars]

end Instant

end AttemptLog
