import AttemptLog.Json.Reader
import AttemptLog.Json.Value
import AttemptLog.Proofs.Instant.Text
/-!
Texts, numbers and words are read back from how they are written.

`Reads` says that a reader finds a value in front of whatever follows it, as long as that does not continue a numeral.
Each character is read back from its escape (`readText_escaped`), so texts are (`reads_string`), and numbers are read
back from their digits (`reads_uint32`).
-/
namespace AttemptLog.Json

def inFront (chars : List Char) (rest : Source) : Source := chars.map some ++ rest

@[simp]
theorem inFront_nil (rest : Source) : inFront [] rest = rest := rfl

@[simp]
theorem inFront_cons (c : Char) (chars : List Char) (rest : Source) :
    inFront (c :: chars) rest = some c :: inFront chars rest := rfl

@[simp]
theorem inFront_append (chars more : List Char) (rest : Source) :
    inFront (chars ++ more) rest = inFront chars (inFront more rest) := by
  simp [inFront]

/-- can a value end before this: nothing follows, or something that continues no numeral -/
def EndsBefore (rest : Source) : Prop :=
  ∀ symbol ∈ rest.head?, isDigit symbol = false ∧ symbol ≠ some '.' ∧ symbol ≠ some 'e' ∧ symbol ≠ some 'E'

/-- is a value read from some characters, whatever follows them -/
def Reads {α : Type} (reader : Reader α) (chars : List Char) (value : α) : Prop :=
  ∀ rest, EndsBefore rest → reader (inFront chars rest) = .ok (value, rest)

variable {α β : Type}

/-! ## Readers -/

theorem Reader.bind_eq {reader : Reader α} {go : α → Reader β} {source rest : Source} {value : α}
    (h : reader source = .ok (value, rest)) : (reader >>= go) source = go value rest := by
  change StateT.bind reader go source = _
  simp only [StateT.bind, h]
  rfl

theorem Reader.map_eq {reader : Reader α} {change : α → β} {source rest : Source} {value : α}
    (h : reader source = .ok (value, rest)) : (change <$> reader) source = .ok (change value, rest) := by
  change StateT.map change reader source = _
  simp only [StateT.map, h]
  rfl

theorem Reads.map {reader : Reader α} {chars : List Char} {value : α} (h : Reads reader chars value) (change : α → β) :
    Reads (change <$> reader) chars (change value) := fun rest hrest => Reader.map_eq (h rest hrest)

theorem peek_cons {c : Char} (hspace : isSpace (some c) = false) (rest : Source) :
    peek (some c :: rest) = .ok (some c, some c :: rest) := by
  simp [peek, skipSpaces, List.dropWhile, hspace]

theorem advance_cons (symbol : Symbol) (rest : Source) : advance (symbol :: rest) = .ok ((), rest) := rfl

theorem readMark_cons {mark : Char} (hspace : isSpace (some mark) = false) (rest : Source) :
    readMark mark (some mark :: rest) = .ok ((), rest) := by
  rw [readMark, Reader.bind_eq (peek_cons hspace rest), if_pos rfl, advance_cons]

theorem readWord_inFront (word : List Char) (rest : Source) : readWord word (inFront word rest) = .ok ((), rest) := by
  induction word with
  | nil => rfl
  | cons c word ih => simpa only [inFront_cons, readWord, ite_true] using ih

/-! ## Texts -/

/-- the mode and the characters so far after one more character, which does not end the text -/
theorem readText_cons {mode next : TextMode} {c : Char} {completed : Option Char}
    (h : mode.next? c = some (next, completed)) (hgoes : mode = .plain → c ≠ '"') (read : List Char) (rest : Source) :
    readText mode read (some c :: rest) = readText next (completed.toList ++ read) rest := by
  rw [readText.eq_def]
  split
  · next hsource =>
    cases hsource
    exact absurd rfl (hgoes rfl)
  · next hsource =>
    cases hsource
    simp only [h]
  · next hsource => cases hsource
  · next hsource => cases hsource

/-- the characters so far after a short escape, or the mode in which a long one is read -/
theorem readText_escape {next : TextMode} {c : Char} {completed : Option Char}
    (h : TextMode.escape.next? c = some (next, completed)) (read : List Char) (rest : Source) :
    readText .plain read (some '\\' :: some c :: rest) = readText next (completed.toList ++ read) rest := by
  have hfirst : TextMode.plain.next? '\\' = some (.escape, none) := rfl
  have hgoes : TextMode.plain = .plain → '\\' ≠ '"' := fun _ => by decide
  rw [readText_cons hfirst hgoes, readText_cons h nofun]
  rfl

theorem unicodeEscape_of_lt : ∀ code < 0x20,
    unicodeEscape (Char.ofNat code) =
        ['\\', 'u', '0', '0', Nat.digitChar (code / 16), Nat.digitChar (code % 16)] ∧
      Text.digitValue? (Nat.digitChar (code / 16)) = some (code / 16) ∧
      Text.digitValue? (Nat.digitChar (code % 16)) = some (code % 16) := by
  decide

theorem readText_unicodeEscape {c : Char} (h : c.toNat < 0x20) (read : List Char) (rest : Source) :
    readText .plain read (inFront (unicodeEscape c) rest) = readText .plain (c :: read) rest := by
  obtain ⟨hescape, hhigh, hlow⟩ := unicodeEscape_of_lt c.toNat h
  rw [Char.ofNat_toNat] at hescape
  have hcode : ((0 * 16 + 0) * 16 + 0) * 16 + c.toNat / 16 = c.toNat / 16 := by omega
  have hlast : TextMode.next? (.hex none 1 (c.toNat / 16)) (Nat.digitChar (c.toNat % 16)) = some (.plain, some c) := by
    have hvalue : c.toNat / 16 * 16 + c.toNat % 16 = c.toNat := by omega
    have hplain : ¬ (0xD800 ≤ c.toNat ∧ c.toNat < 0xDC00) ∧ ¬ (0xDC00 ≤ c.toNat ∧ c.toNat < 0xE000) := by omega
    simp only [TextMode.next?, hlow, Option.bind_some, Nat.le_refl, ite_true, endHex, hvalue, if_neg hplain.1,
      if_neg hplain.2, Char.ofNat_toNat]
  have hthird : TextMode.next? (.hex none 2 0) (Nat.digitChar (c.toNat / 16)) =
      some (.hex none 1 (c.toNat / 16), none) := by
    simp [TextMode.next?, hhigh]
  have hzero : ∀ missing, 1 < missing → TextMode.next? (.hex none missing 0) '0' =
      some (.hex none (missing - 1) 0, none) := by
    intro missing hmissing
    have hvalue : Text.digitValue? '0' = some 0 := by decide
    simp [TextMode.next?, hvalue, Nat.not_le.2 hmissing]
  rw [hescape]
  simp only [inFront_cons, inFront_nil]
  rw [readText_escape rfl, readText_cons (hzero 4 (by omega)) nofun, readText_cons (hzero 3 (by omega)) nofun,
    readText_cons hthird nofun, readText_cons hlast nofun]
  rfl

theorem readText_shortEscape {letter c : Char} (h : shortEscape? letter = some c) (hletter : letter ≠ 'u')
    (read : List Char) (rest : Source) :
    readText .plain read (inFront ['\\', letter] rest) = readText .plain (c :: read) rest := by
  have hnext : TextMode.escape.next? letter = some (.plain, some c) := by simp [TextMode.next?, hletter, h]
  rw [inFront_cons, inFront_cons, inFront_nil, readText_escape hnext]
  rfl

/-- **A character is read back from how it stands in a text.** -/
theorem readText_escaped (c : Char) (read : List Char) (rest : Source) :
    readText .plain read (inFront (escaped c) rest) = readText .plain (c :: read) rest := by
  unfold escaped
  split_ifs with hquote hbackslash hbackspace hfeed hline hreturn htab hcontrol
  · subst hquote
    exact readText_shortEscape rfl (by decide) read rest
  · subst hbackslash
    exact readText_shortEscape rfl (by decide) read rest
  · subst hbackspace
    exact readText_shortEscape rfl (by decide) read rest
  · subst hfeed
    exact readText_shortEscape rfl (by decide) read rest
  · subst hline
    exact readText_shortEscape rfl (by decide) read rest
  · subst hreturn
    exact readText_shortEscape rfl (by decide) read rest
  · subst htab
    exact readText_shortEscape rfl (by decide) read rest
  · exact readText_unicodeEscape hcontrol read rest
  · have hnext : TextMode.plain.next? c = some (.plain, some c) := by simp [TextMode.next?, hbackslash, hcontrol]
    rw [inFront_cons, inFront_nil, readText_cons hnext fun _ => hquote]
    rfl

theorem readText_flatMap (chars read : List Char) (rest : Source) :
    readText .plain read (inFront (chars.flatMap escaped) (some '"' :: rest)) =
      .ok (String.ofList (read.reverse ++ chars), rest) := by
  induction chars generalizing read with
  | nil => simp [readText]
  | cons c chars ih => rw [List.flatMap_cons, inFront_append, readText_escaped, ih]; simp

theorem readText_quoted (text : String) (rest : Source) :
    readText .plain [] (inFront (quoted text).tail rest) = .ok (text, rest) := by
  rw [quoted, List.cons_append, List.tail_cons, inFront_append, inFront_cons, inFront_nil, readText_flatMap]
  simp

theorem inFront_quoted (text : String) (rest : Source) :
    inFront (quoted text) rest = some '"' :: inFront (quoted text).tail rest := rfl

/-- **A text is read back from its quotes.** -/
theorem readString_quoted (text : String) (rest : Source) :
    readString (inFront (quoted text) rest) = .ok (text, rest) := by
  rw [inFront_quoted, readString, Reader.bind_eq (peek_cons (by decide) _), if_pos rfl,
    Reader.bind_eq (advance_cons _ _), readText_quoted]

theorem reads_string (text : String) : Reads readString (quoted text) text := fun rest _ => readString_quoted text rest

theorem reads_meaning {meaning : String → Option α} {text : String} {value : α} (h : meaning text = some value) :
    Reads (readMeaning meaning) (quoted text) value := by
  intro rest _
  rw [readMeaning, Reader.bind_eq (readString_quoted text rest)]
  simp only [h]
  rfl

theorem reads_spelled [Spelled α] {value : α} (h : ofSpelling? (spelling value) = some value) :
    Reads readSpelled (quoted (spelling value)) value := by
  intro rest hrest
  have hpeek := peek_cons (c := '"') (by decide) (inFront (quoted (spelling value)).tail rest)
  rw [readSpelled, inFront_quoted, Reader.bind_eq hpeek]
  exact reads_meaning h rest hrest

theorem reads_bool (value : Bool) : Reads readBool (Value.bool value).chars value := by
  intro rest _
  cases value with
  | true =>
    have hchars : inFront (Value.bool true).chars rest = some 't' :: inFront ['r', 'u', 'e'] rest := rfl
    rw [hchars, readBool, Reader.bind_eq (peek_cons (by decide) _)]
    simp only
    rw [Reader.bind_eq (advance_cons _ _), Reader.bind_eq (readWord_inFront _ rest)]
    rfl
  | false =>
    have hchars : inFront (Value.bool false).chars rest = some 'f' :: inFront ['a', 'l', 's', 'e'] rest := rfl
    rw [hchars, readBool, Reader.bind_eq (peek_cons (by decide) _)]
    simp only
    rw [Reader.bind_eq (advance_cons _ _), Reader.bind_eq (readWord_inFront _ rest)]
    rfl

/-! ## Numbers -/

theorem chars_nat (n : Nat) : (Value.nat n).chars = Text.numeral n := by
  have hlength : 1 ≤ (Text.numeral n).length := List.length_pos_iff.2 Nat.toDigits_ne_nil
  have hpadded : Text.padded 1 n = Text.numeral n := by simp [Text.padded, List.leftpad, Nat.sub_eq_zero_of_le hlength]
  have hsign : ¬ (n : Int) < 0 := by omega
  simp [Value.nat, Value.chars, decimal, hpadded, hsign]

theorem isDigit_of_mem_numeral {n : Nat} {c : Char} (h : c ∈ Text.numeral n) : c.isDigit = true :=
  Nat.isDigit_of_mem_toDigits (by decide) (Nat.le_refl 10) h

theorem exists_numeral_eq_cons (n : Nat) :
    ∃ first others, Text.numeral n = first :: others ∧ first.isDigit = true := by
  obtain ⟨first, others, hnumeral⟩ := List.exists_cons_of_ne_nil (l := Text.numeral n) Nat.toDigits_ne_nil
  exact ⟨first, others, hnumeral, isDigit_of_mem_numeral (by rw [hnumeral]; exact List.mem_cons_self)⟩

theorem isSpace_of_isDigit {c : Char} (h : c.isDigit = true) : isSpace (some c) = false := by
  by_contra hspace
  simp only [isSpace, Bool.not_eq_false, Bool.or_eq_true, beq_iff_eq, Option.some.injEq] at hspace
  rcases hspace with ((rfl | rfl) | rfl) | rfl <;> cases h

theorem eq_zero_of_head?_numeral {n : Nat} (h : (Text.numeral n).head? = some '0') : n = 0 := by
  induction n using Nat.strongRecOn with
  | ind n ih =>
    rcases Nat.lt_or_ge n 10 with hsmall | hlarge
    · rw [Text.numeral, Nat.toDigits_of_lt_base hsmall, List.head?_cons, Option.some.injEq] at h
      interval_cases n <;> first | rfl | exact absurd h (by decide)
    · rw [Text.numeral, Nat.toDigits_of_base_le (by decide) hlarge,
        List.head?_append_of_ne_nil _ Nat.toDigits_ne_nil] at h
      have hfront := ih (n / 10) (by omega) h
      omega

theorem readSomeDigits_inFront {digits : List Char} (hdigits : ∀ c ∈ digits, c.isDigit = true) (hne : digits ≠ [])
    {rest : Source} (hrest : EndsBefore rest) : readSomeDigits (inFront digits rest) = .ok (digits, rest) := by
  have hall : ∀ symbol ∈ digits.map some, isDigit symbol = true := by simpa [isDigit] using hdigits
  have hstop : rest.takeWhile isDigit = [] ∧ rest.dropWhile isDigit = rest := by
    cases rest with
    | nil => exact ⟨rfl, rfl⟩
    | cons symbol rest =>
      have hsymbol := (hrest symbol rfl).1
      simp [List.takeWhile, List.dropWhile, hsymbol]
  have hread : readDigits (inFront digits rest) = .ok (digits, rest) := by
    simp only [readDigits, inFront]
    rw [List.takeWhile_append_of_pos hall, List.dropWhile_append_of_pos hall, hstop.1, hstop.2]
    simp
  rw [readSomeDigits, Reader.bind_eq hread, if_neg (by simpa using hne)]
  rfl

theorem le_ofDigitChars (digits : List Char) (value : Nat) : value ≤ Nat.ofDigitChars 10 digits value := by
  induction digits generalizing value with
  | nil => exact Nat.le_refl _
  | cons digit digits ih =>
    rw [Nat.ofDigitChars_cons]
    have hmore := ih (10 * value + (digit.toNat - '0'.toNat))
    omega

/-- the digits of a number that fits into sixty-four bits are all taken -/
theorem takeSignificand_eq {digits : List Char} {value : Nat} (h : Nat.ofDigitChars 10 digits value < UInt64.size) :
    takeSignificand value digits = (Nat.ofDigitChars 10 digits value, []) := by
  induction digits generalizing value with
  | nil => rfl
  | cons digit digits ih =>
    rw [Nat.ofDigitChars_cons] at h
    have hnext : value * 10 + Text.value [digit] = 10 * value + (digit.toNat - '0'.toNat) := by
      simp [Text.value, Nat.ofDigitChars_cons, Nat.mul_comm]
    have hfits : 10 * value + (digit.toNat - '0'.toNat) < UInt64.size := Nat.lt_of_le_of_lt (le_ofDigitChars digits _) h
    simp only [takeSignificand, hnext, if_pos hfits]
    rw [ih h, Nat.ofDigitChars_cons]

theorem isOutOfRange_numeral {n : Nat} (h : n < UInt64.size) :
    (Numeral.mk false (Text.numeral n) none none).isOutOfRange = false := by
  have hvalue : Nat.ofDigitChars 10 (Text.numeral n) 0 = n := Text.value_numeral n
  have htaken : takeSignificand 0 (Text.numeral n) = (n, []) := by
    rw [takeSignificand_eq (by rwa [hvalue]), hvalue]
  simp [Numeral.isOutOfRange, htaken, takeSignificand, Numeral.isOutOfRange.tooLarge]

/-- a numeral that is followed by nothing that continues it has no fraction and no exponent -/
theorem readFractionAndExponent_none {n : Nat} (h : n < UInt64.size) {rest : Source} (hrest : EndsBefore rest) :
    readFractionAndExponent false (Text.numeral n) rest = .ok (⟨false, Text.numeral n, none, none⟩, rest) := by
  unfold readFractionAndExponent
  refine (Reader.bind_eq (?_ : _ = Except.ok (none, rest))).trans
    ((Reader.bind_eq (?_ : _ = Except.ok (none, rest))).trans ?_)
  · split
    · exact absurd rfl (hrest _ rfl).2.1
    · rfl
  · split
    · exact absurd rfl (hrest _ rfl).2.2.1
    · exact absurd rfl (hrest _ rfl).2.2.2
    · rfl
  · simp only [isOutOfRange_numeral h, Bool.false_eq_true, ite_false]
    rfl

theorem readNumeral_numeral {n : Nat} (h : n < UInt64.size) {rest : Source} (hrest : EndsBefore rest) :
    readNumeral (inFront (Text.numeral n) rest) = .ok (⟨false, Text.numeral n, none, none⟩, rest) := by
  have hdigits : ∀ c ∈ Text.numeral n, c.isDigit = true := fun c hmem => isDigit_of_mem_numeral hmem
  have hzero : ¬ ((Text.numeral n).head? = some '0' ∧ (Text.numeral n).length ≠ 1) := by
    rintro ⟨hhead, hlength⟩
    obtain rfl := eq_zero_of_head?_numeral hhead
    exact hlength rfl
  unfold readNumeral
  refine (Reader.bind_eq (?_ : _ = Except.ok (false, inFront (Text.numeral n) rest))).trans
    ((Reader.bind_eq (readSomeDigits_inFront hdigits Nat.toDigits_ne_nil hrest)).trans ?_)
  · split
    · next hsource =>
      obtain ⟨first, others, hnumeral, hfirst⟩ := exists_numeral_eq_cons n
      rw [hnumeral, inFront_cons] at hsource
      cases hsource
      exact absurd hfirst (by decide)
    · rfl
  · rw [if_neg hzero]
    exact readFractionAndExponent_none h hrest

/-- **A number of thirty-two bits is read back from its digits.** -/
theorem reads_uint32 (number : UInt32) : Reads readUInt32 (Value.nat number.toNat).chars number := by
  intro rest hrest
  rw [chars_nat]
  have hsize : number.toNat < UInt32.size := number.toNat_lt
  have hfits : number.toNat < UInt64.size := Nat.lt_trans hsize (by decide)
  obtain ⟨first, others, hnumeral, hfirst⟩ := exists_numeral_eq_cons number.toNat
  have hpeek : peek (inFront (Text.numeral number.toNat) rest) =
      .ok (some first, inFront (Text.numeral number.toNat) rest) := by
    rw [hnumeral]
    exact peek_cons (isSpace_of_isDigit hfirst) _
  have hkind : some first = some '-' ∨ isDigit (some first) = true := .inr hfirst
  rw [readUInt32, Reader.bind_eq hpeek, if_pos hkind, Reader.bind_eq (readNumeral_numeral hfits hrest)]
  simp only [Text.value_numeral, Option.isSome_none, Bool.false_eq_true, false_or, if_neg (Nat.not_le.2 hsize)]
  rw [UInt32.ofNat_toNat]
  rfl

end AttemptLog.Json
