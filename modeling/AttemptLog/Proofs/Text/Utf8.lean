import AttemptLog.Text.Utf8
import Mathlib.Tactic
/-!
Characters and their bytes.

A sequence that has begun awaits the codes that its bytes are the front of (`Pending.Awaits`). A first byte awaits
exactly the codes whose bytes begin with it (`encode_of_awaits`, `exists_begin?`), and further bytes lead to one of
the awaited codes (`read_tail`, `exists_of_reads`). So bytes are read as a text exactly if they are its bytes
(`decode?_eq_some_iff`).
-/
namespace AttemptLog.Text.Utf8

/-! ## The bytes of a code -/

/-- the last bytes of a code, each with six bits -/
def tailBytes : Nat → Nat → List UInt8
  | 0, _ => []
  | count + 1, code => UInt8.ofNat (code / 64 ^ count % 64 + 0x80) :: tailBytes count code

theorem tailBytes_succ (count code : Nat) :
    tailBytes (count + 1) code = UInt8.ofNat (code / 64 ^ count % 64 + 0x80) :: tailBytes count code := rfl

/-- can the sequence end as this code -/
structure Pending.Awaits (pending : Pending) (code : Nat) : Prop where
  bits : pending.bits = code / 64 ^ pending.missing
  low : pending.low ≤ code / 64 ^ (pending.missing - 1) % 64 + 0x80
  high : code / 64 ^ (pending.missing - 1) % 64 + 0x80 ≤ pending.high

theorem toNat_ofNat_of_isValidChar {code : Nat} (h : code.isValidChar) : (Char.ofNat code).toNat = code := by
  rw [Char.ofNat, dif_pos h]
  rfl

theorem encodeChar_ascii {c : Char} (h : c.toNat < 0x80) : String.utf8EncodeChar c = [UInt8.ofNat c.toNat] := by
  have hcode : c.val.toNat ≤ 127 := Nat.le_of_lt_succ h
  simp only [String.utf8EncodeChar, hcode, ite_true]
  rfl

/-! The first byte of a character says how many follow. -/

section Encoding

variable {byte : UInt8} {code : Nat}

theorem val_ofNat (h : code.isValidChar) : (Char.ofNat code).val.toNat = code := toNat_ofNat_of_isValidChar h

theorem encode_two (hlow : 0x80 ≤ code) (hhigh : code < 0x800) (hlead : code / 64 + 0xC0 = byte.toNat) :
    String.utf8EncodeChar (.ofNat code) = byte :: tailBytes 1 code := by
  have hvalid : code.isValidChar := .inl (by omega)
  have hrange : ¬code ≤ 127 ∧ code ≤ 2047 := by omega
  have hfirst : code / 64 % 32 + 192 = byte.toNat := by omega
  simp only [String.utf8EncodeChar, val_ofNat hvalid, hrange, ite_true, ite_false, hfirst, tailBytes,
    pow_zero, Nat.div_one, UInt8.ofNat_toNat]

theorem encode_three (hvalid : code.isValidChar) (hlow : 0x800 ≤ code) (hhigh : code < 0x10000)
    (hlead : code / 4096 + 0xE0 = byte.toNat) : String.utf8EncodeChar (.ofNat code) = byte :: tailBytes 2 code := by
  have hrange : ¬code ≤ 127 ∧ ¬code ≤ 2047 ∧ code ≤ 65535 := by omega
  have hfirst : code / 4096 % 16 + 224 = byte.toNat := by omega
  simp only [String.utf8EncodeChar, val_ofNat hvalid, hrange, ite_true, ite_false, hfirst, tailBytes, pow_zero, pow_one,
    Nat.div_one, UInt8.ofNat_toNat]

theorem encode_four (hlow : 0x10000 ≤ code) (hhigh : code < 0x110000) (hlead : code / 262144 + 0xF0 = byte.toNat) :
    String.utf8EncodeChar (.ofNat code) = byte :: tailBytes 3 code := by
  have hpower : (64 : Nat) ^ 2 = 4096 := rfl
  have hvalid : code.isValidChar := .inr (by omega)
  have hrange : ¬code ≤ 127 ∧ ¬code ≤ 2047 ∧ ¬code ≤ 65535 := by omega
  have hfirst : code / 262144 % 8 + 240 = byte.toNat := by omega
  simp only [String.utf8EncodeChar, val_ofNat hvalid, hrange, ite_false, hfirst, tailBytes, pow_zero,
    pow_one, hpower, Nat.div_one, UInt8.ofNat_toNat]

/-- the bytes of an awaited code begin with the first byte: this and the range of the second byte keep the code within
the range of that many bytes -/
theorem encode_of_awaits {pending : Pending} (h : begin? byte = some pending) (hawaits : pending.Awaits code) :
    String.utf8EncodeChar (.ofNat code) = byte :: tailBytes pending.missing code := by
  have hpowers : (64 : Nat) ^ 2 = 4096 ∧ (64 : Nat) ^ 3 = 262144 := ⟨rfl, rfl⟩
  obtain ⟨hbits, hlow, hhigh⟩ := hawaits
  unfold begin? at h
  simp only at h
  repeat' split at h
  all_goals cases h
  all_goals simp only [pow_one, hpowers, Nat.add_one_sub_one] at hbits hlow hhigh
  · exact encode_two (by omega) (by omega) (by omega)
  · exact encode_three (.inl (by omega)) (by omega) (by omega) (by omega)
  · exact encode_three (.inl (by omega)) (by omega) (by omega) (by omega)
  · have hvalid : code.isValidChar := by
      rcases Nat.lt_or_ge code 55296 with hless | hgreater
      · exact .inl hless
      · exact .inr (by omega)
    exact encode_three hvalid (by omega) (by omega) (by omega)
  · exact encode_four (by omega) (by omega) (by omega)
  · exact encode_four (by omega) (by omega) (by omega)
  · exact encode_four (by omega) (by omega) (by omega)

/-- a code is awaited by the first byte that begins a sequence with its first bits, if it may go on with the next
ones -/
theorem exists_begin?_of (n missing low high : Nat) (hrange : 0x80 ≤ n ∧ n < 256)
    (hbegin : ∀ byte : UInt8, byte.toNat = n → begin? byte = some ⟨missing, code / 64 ^ missing, low, high⟩)
    (hnext : low ≤ code / 64 ^ (missing - 1) % 64 + 0x80 ∧ code / 64 ^ (missing - 1) % 64 + 0x80 ≤ high) :
    ∃ byte pending, begin? byte = some pending ∧ pending.Awaits code ∧ 0x80 ≤ byte.toNat := by
  have hbyte : (UInt8.ofNat n).toNat = n := UInt8.toNat_ofNat_of_lt' hrange.2
  exact ⟨.ofNat n, _, hbegin _ hbyte, ⟨rfl, hnext.1, hnext.2⟩, by rw [hbyte]; exact hrange.1⟩

theorem exists_begin? (hvalid : code.isValidChar) (h : 0x80 ≤ code) :
    ∃ byte pending, begin? byte = some pending ∧ pending.Awaits code ∧ 0x80 ≤ byte.toNat := by
  have hpowers : (64 : Nat) ^ 1 = 64 ∧ (64 : Nat) ^ 2 = 4096 ∧ (64 : Nat) ^ 3 = 262144 := ⟨rfl, rfl, rfl⟩
  have hends : code < 0xD800 ∨ 0xDFFF < code ∧ code < 0x110000 := hvalid
  -- the ranges of the second byte are those of `begin?`
  rcases Nat.lt_or_ge code 0x800 with htwo | htwo
  · refine exists_begin?_of (code / 64 + 0xC0) 1 0x80 0xBF (by omega) (fun byte hbyte => ?_) ?_
    · rw [begin?, hbyte, if_pos (by omega), Nat.add_sub_cancel, hpowers.1]
    · simp only [Nat.sub_self, pow_zero, Nat.div_one]
      omega
  rcases Nat.lt_or_ge code 0x1000 with hfirst | hfirst
  · refine exists_begin?_of 0xE0 2 0xA0 0xBF (by omega) (fun byte hbyte => ?_) ?_
    · rw [begin?, hbyte, if_neg (by omega), if_pos rfl, hpowers.2.1, Nat.div_eq_of_lt hfirst]
    · simp only [Nat.add_one_sub_one, pow_one]
      omega
  rcases Nat.lt_or_ge code 0x10000 with hthree | hthree
  · by_cases hsurrogate : code / 4096 = 0xD
    · refine exists_begin?_of 0xED 2 0x80 0x9F (by omega) (fun byte hbyte => ?_) ?_
      · rw [begin?, hbyte, if_neg (by omega), if_neg (by omega), if_pos rfl, hpowers.2.1, hsurrogate]
      · simp only [Nat.add_one_sub_one, pow_one]
        omega
    · refine exists_begin?_of (code / 4096 + 0xE0) 2 0x80 0xBF (by omega) (fun byte hbyte => ?_) ?_
      · rw [begin?, hbyte, if_neg (by omega), if_neg (by omega), if_neg (by omega), if_pos (by omega),
          Nat.add_sub_cancel, hpowers.2.1]
      · simp only [Nat.add_one_sub_one, pow_one]
        omega
  rcases Nat.lt_or_ge code 0x40000 with hfirst | hfirst
  · refine exists_begin?_of 0xF0 3 0x90 0xBF (by omega) (fun byte hbyte => ?_) ?_
    · rw [begin?, hbyte, if_neg (by omega), if_neg (by omega), if_neg (by omega), if_neg (by omega), if_pos rfl,
        hpowers.2.2, Nat.div_eq_of_lt hfirst]
    · simp only [Nat.add_one_sub_one, hpowers]
      omega
  · by_cases hlast : code / 262144 = 4
    · refine exists_begin?_of 0xF4 3 0x80 0x8F (by omega) (fun byte hbyte => ?_) ?_
      · rw [begin?, hbyte, if_neg (by omega), if_neg (by omega), if_neg (by omega), if_neg (by omega),
          if_neg (by omega), if_neg (by omega), if_pos rfl, hpowers.2.2, hlast]
      · simp only [Nat.add_one_sub_one, hpowers]
        omega
    · refine exists_begin?_of (code / 262144 + 0xF0) 3 0x80 0xBF (by omega) (fun byte hbyte => ?_) ?_
      · rw [begin?, hbyte, if_neg (by omega), if_neg (by omega), if_neg (by omega), if_neg (by omega),
          if_neg (by omega), if_pos (by omega), Nat.add_sub_cancel, hpowers.2.2]
      · simp only [Nat.add_one_sub_one, hpowers]
        omega

end Encoding

/-- what is the same for all sequences that have begun: a byte is missing, and bytes with six bits follow -/
structure Pending.GoesOn (pending : Pending) (count : Nat) : Prop where
  missing : pending.missing = count + 1
  low : 0x80 ≤ pending.low
  high : pending.high ≤ 0xBF

theorem begin?_goesOn {byte : UInt8} {pending : Pending} (h : begin? byte = some pending) :
    ∃ count, pending.GoesOn count := by
  unfold begin? at h
  simp only at h
  repeat' split at h
  all_goals cases h
  all_goals exact ⟨_, rfl, by simp, by simp⟩

/-! ## One byte inside of a sequence -/

section Steps

variable {pending : Pending} {byte : UInt8}

theorem step_last (hlow : pending.low ≤ byte.toNat) (hhigh : byte.toNat ≤ pending.high)
    (hmissing : pending.missing ≤ 1) :
    step (some pending) byte = (none, [some (.ofNat (pending.bits * 64 + (byte.toNat - 0x80)))]) := by
  simp only [step, hlow, hhigh, hmissing, and_self, ite_true]

theorem step_more (hlow : pending.low ≤ byte.toNat) (hhigh : byte.toNat ≤ pending.high)
    (hmissing : 1 < pending.missing) :
    step (some pending) byte =
      (some ⟨pending.missing - 1, pending.bits * 64 + (byte.toNat - 0x80), 0x80, 0xBF⟩, []) := by
  simp only [step, hlow, hhigh, Nat.not_le.2 hmissing, and_self, ite_true, ite_false]

theorem step_stray (h : ¬(pending.low ≤ byte.toNat ∧ byte.toNat ≤ pending.high)) :
    step (some pending) byte = ((first byte).1, none :: (first byte).2) := by
  simp only [step, h, ite_false]

end Steps

theorem toNat_tailByte (n : Nat) : (UInt8.ofNat (n % 64 + 0x80)).toNat = n % 64 + 0x80 := by
  have hbits := Nat.mod_lt n (show 0 < 64 by decide)
  have hbyte : n % 64 + 0x80 < 256 := by omega
  exact UInt8.toNat_ofNat_of_lt' hbyte

theorem awaits_bits (count code : Nat) : Pending.Awaits ⟨count + 1, code / 64 ^ (count + 1), 0x80, 0xBF⟩ code := by
  have hbits := Nat.mod_lt (code / 64 ^ count) (show 0 < 64 by decide)
  refine ⟨rfl, Nat.le_add_left _ _, ?_⟩
  simp only [Nat.add_sub_cancel]
  omega

/-! ## Reading -/

theorem read_tail {pending : Pending} {code count : Nat} (hcount : pending.missing = count + 1)
    (hawaits : pending.Awaits code) (rest : List UInt8) :
    symbolsFrom (some pending) (tailBytes (count + 1) code ++ rest) = some (.ofNat code) :: symbolsFrom none rest := by
  induction count generalizing pending with
  | zero =>
    obtain ⟨hbits, hlow, hhigh⟩ := hawaits
    simp only [hcount, Nat.zero_add, Nat.sub_self, pow_zero, pow_one, Nat.div_one] at hbits hlow hhigh
    rw [← toNat_tailByte] at hlow hhigh
    have hcode : pending.bits * 64 + ((UInt8.ofNat (code % 64 + 0x80)).toNat - 0x80) = code := by
      rw [toNat_tailByte]
      omega
    simp only [tailBytes, pow_zero, Nat.div_one, List.cons_append, List.nil_append, symbolsFrom,
      step_last hlow hhigh hcount.le, hcode]
  | succ count ih =>
    obtain ⟨hbits, hlow, hhigh⟩ := hawaits
    rw [hcount, Nat.add_sub_cancel, ← toNat_tailByte] at hlow hhigh
    have hmore : 1 < pending.missing := by omega
    have hcode : pending.bits * 64 + ((UInt8.ofNat (code / 64 ^ (count + 1) % 64 + 0x80)).toNat - 0x80) =
        code / 64 ^ (count + 1) := by
      rw [toNat_tailByte, hbits, hcount, pow_succ _ (count + 1), ← Nat.div_div_eq_div_mul]
      omega
    rw [tailBytes, List.cons_append, symbolsFrom, step_more hlow hhigh hmore, hcode, hcount, Nat.add_sub_cancel]
    exact ih rfl (awaits_bits count code)

theorem none_cons_ne_map_some {chars : List Char} {symbols : List (Option Char)} :
    none :: symbols ≠ chars.map some := by
  cases chars <;> simp

theorem exists_next_byte {pending : Pending} {bytes : List UInt8} {chars : List Char}
    (h : symbolsFrom (some pending) bytes = chars.map some) :
    ∃ byte rest, bytes = byte :: rest ∧ pending.low ≤ byte.toNat ∧ byte.toNat ≤ pending.high := by
  cases bytes with
  | nil => exact absurd h none_cons_ne_map_some
  | cons byte rest =>
    by_cases hrange : pending.low ≤ byte.toNat ∧ byte.toNat ≤ pending.high
    · exact ⟨byte, rest, rfl, hrange⟩
    · rw [symbolsFrom, step_stray hrange] at h
      exact absurd h none_cons_ne_map_some

/-- a code is awaited if the next byte may follow and has the next bits of the code -/
theorem awaits_of_next {pending : Pending} {count code : Nat} {byte : UInt8} (hgoes : pending.GoesOn count)
    (hlow : pending.low ≤ byte.toNat) (hhigh : byte.toNat ≤ pending.high)
    (hcode : pending.bits * 64 + (byte.toNat - 0x80) = code / 64 ^ count) :
    pending.Awaits code ∧ byte = UInt8.ofNat (code / 64 ^ count % 64 + 0x80) := by
  obtain ⟨hcount, hleast, hgreatest⟩ := hgoes
  have hbyte : 0x80 ≤ byte.toNat := hleast.trans hlow
  have hsix : code / 64 ^ count % 64 + 0x80 = byte.toNat := by omega
  refine ⟨⟨?_, ?_, ?_⟩, by rw [hsix, UInt8.ofNat_toNat]⟩
  · rw [hcount, pow_succ, ← Nat.div_div_eq_div_mul, ← hcode]
    omega
  · rwa [hcount, Nat.add_sub_cancel, hsix]
  · rwa [hcount, Nat.add_sub_cancel, hsix]

/-- a sequence in which everything is read ends as one of the codes that it awaits -/
theorem exists_of_reads {pending : Pending} {count : Nat} (hgoes : pending.GoesOn count) {bytes : List UInt8}
    {chars : List Char} (h : symbolsFrom (some pending) bytes = chars.map some) :
    ∃ code rest others, pending.Awaits code ∧ bytes = tailBytes (count + 1) code ++ rest ∧
      chars = .ofNat code :: others ∧ symbolsFrom none rest = others.map some := by
  induction count generalizing pending bytes with
  | zero =>
    obtain ⟨byte, rest, rfl, hlow, hhigh⟩ := exists_next_byte h
    rw [symbolsFrom, step_last hlow hhigh hgoes.missing.le] at h
    have hcode : pending.bits * 64 + (byte.toNat - 0x80) = (pending.bits * 64 + (byte.toNat - 0x80)) / 64 ^ 0 := by
      rw [pow_zero, Nat.div_one]
    obtain ⟨hawaits, hbyte⟩ := awaits_of_next hgoes hlow hhigh hcode
    cases chars with
    | nil => cases h
    | cons c others =>
      obtain ⟨hc, hothers⟩ := List.cons.inj h
      exact ⟨_, rest, others, hawaits, by rw [tailBytes_succ, ← hbyte]; rfl, by rw [Option.some.inj hc], hothers⟩
  | succ count ih =>
    obtain ⟨byte, rest, rfl, hlow, hhigh⟩ := exists_next_byte h
    have hmore : 1 < pending.missing := by
      rw [hgoes.missing]
      omega
    rw [symbolsFrom, step_more hlow hhigh hmore, hgoes.missing, Nat.add_sub_cancel] at h
    obtain ⟨code, rest, others, hnext, rfl, hchars, hothers⟩ := ih ⟨rfl, le_rfl, le_rfl⟩ h
    obtain ⟨hawaits, hbyte⟩ := awaits_of_next hgoes hlow hhigh hnext.bits
    exact ⟨code, rest, others, hawaits, by rw [tailBytes_succ (count + 1), ← hbyte, List.cons_append], hchars, hothers⟩

/-! ## Whole texts -/

theorem symbolsFrom_ascii {byte : UInt8} (h : byte.toNat < 0x80) (rest : List UInt8) :
    symbolsFrom none (byte :: rest) = some (.ofNat byte.toNat) :: symbolsFrom none rest := by
  rw [symbolsFrom, step, first, if_pos h]
  rfl

theorem symbolsFrom_first {byte : UInt8} (h : 0x80 ≤ byte.toNat) (rest : List UInt8) :
    symbolsFrom none (byte :: rest) =
      match begin? byte with
      | some pending => symbolsFrom (some pending) rest
      | none => none :: symbolsFrom none rest := by
  rw [symbolsFrom, step, first, if_neg (Nat.not_lt.2 h)]
  cases begin? byte <;> rfl

theorem symbolsFrom_encodeChar (c : Char) (rest : List UInt8) :
    symbolsFrom none (String.utf8EncodeChar c ++ rest) = some c :: symbolsFrom none rest := by
  by_cases hascii : c.toNat < 0x80
  · have hbyte : (UInt8.ofNat c.toNat).toNat = c.toNat := UInt8.toNat_ofNat_of_lt' (hascii.trans (by decide))
    rw [encodeChar_ascii hascii, List.singleton_append, symbolsFrom_ascii (by rwa [hbyte]), hbyte, Char.ofNat_toNat]
  · have hvalid : c.toNat.isValidChar := c.valid
    obtain ⟨byte, pending, hbegin, hawaits, hlead⟩ := exists_begin? hvalid (Nat.le_of_not_lt hascii)
    obtain ⟨count, hgoes⟩ := begin?_goesOn hbegin
    have hbytes := encode_of_awaits hbegin hawaits
    rw [Char.ofNat_toNat, hgoes.missing] at hbytes
    rw [hbytes, List.cons_append, symbolsFrom_first hlead, hbegin]
    simp only [read_tail hgoes.missing hawaits, Char.ofNat_toNat]

theorem symbols_encode (chars : List Char) : symbols (chars.flatMap String.utf8EncodeChar) = chars.map some := by
  induction chars with
  | nil => rfl
  | cons c chars ih =>
    rw [List.flatMap_cons, symbols, symbolsFrom_encodeChar, List.map_cons, ← ih, symbols]

theorem exists_first_char {byte : UInt8} {rest : List UInt8} {chars : List Char}
    (h : symbolsFrom none (byte :: rest) = chars.map some) :
    ∃ c others after, chars = c :: others ∧ byte :: rest = String.utf8EncodeChar c ++ after ∧
      symbolsFrom none after = others.map some := by
  by_cases hascii : byte.toNat < 0x80
  · rw [symbolsFrom_ascii hascii] at h
    cases chars with
    | nil => cases h
    | cons c others =>
      obtain ⟨hc, hothers⟩ := List.cons.inj h
      have hcode : c.toNat = byte.toNat := by
        rw [← Option.some.inj hc]
        exact toNat_ofNat_of_isValidChar (.inl (hascii.trans (by decide)))
      refine ⟨c, others, rest, rfl, ?_, hothers⟩
      rw [encodeChar_ascii (by rwa [hcode]), hcode, UInt8.ofNat_toNat, List.singleton_append]
  · rw [symbolsFrom_first (Nat.le_of_not_lt hascii)] at h
    cases hbegin : begin? byte with
    | none =>
      rw [hbegin] at h
      exact absurd h none_cons_ne_map_some
    | some pending =>
      rw [hbegin] at h
      obtain ⟨count, hgoes⟩ := begin?_goesOn hbegin
      obtain ⟨code, after, others, hawaits, rfl, hchars, hothers⟩ := exists_of_reads hgoes h
      refine ⟨.ofNat code, others, after, hchars, ?_, hothers⟩
      rw [encode_of_awaits hbegin hawaits, hgoes.missing, List.cons_append]

/-- bytes of which all are read are those of the characters -/
theorem eq_encode_of_symbols {bytes : List UInt8} {chars : List Char} (h : symbolsFrom none bytes = chars.map some) :
    bytes = chars.flatMap String.utf8EncodeChar := by
  induction chars generalizing bytes with
  | nil =>
    cases bytes with
    | nil => rfl
    | cons byte rest =>
      obtain ⟨c, others, after, hchars, -⟩ := exists_first_char h
      cases hchars
  | cons c chars ih =>
    cases bytes with
    | nil => cases h
    | cons byte rest =>
      obtain ⟨c, others, after, hchars, hbytes, hothers⟩ := exists_first_char h
      cases hchars
      rw [hbytes, List.flatMap_cons, ih hothers]

theorem mapM_id_eq_some_iff {symbols : List (Option Char)} {chars : List Char} :
    symbols.mapM id = some chars ↔ symbols = chars.map some := by
  induction symbols generalizing chars with
  | nil => cases chars <;> simp
  | cons symbol symbols ih =>
    cases symbol with
    | none => simp [List.mapM_cons, none_cons_ne_map_some]
    | some c => cases chars <;> simp [List.mapM_cons, Option.bind_eq_some_iff, ih, and_comm]

/-- **Bytes are read as a text exactly if they are its bytes.** -/
theorem decode?_eq_some_iff {bytes : List UInt8} {text : String} : decode? bytes = some text ↔ bytes = encode text := by
  simp only [decode?, Option.map_eq_some_iff, mapM_id_eq_some_iff]
  constructor
  · rintro ⟨chars, hchars, rfl⟩
    rw [encode, String.toList_ofList]
    exact eq_encode_of_symbols hchars
  · rintro rfl
    exact ⟨text.toList, symbols_encode text.toList, String.ofList_toList⟩

end AttemptLog.Text.Utf8
