import AttemptLog.Text.Base64
import Mathlib.Tactic
/-!
Bytes have one written form each.

Each group of three bytes is read back from its four characters, and a shorter group at the end from its padded ones. No
other characters are read as the same bytes, since padding must be there and the bits that no byte uses must be zero. So
reading accepts exactly the written forms (`decode?_eq_some_iff`).
-/
namespace AttemptLog.Text.Base64

/-! ## Single characters -/

theorem digit?_digit : ∀ bits < 64, digit? (digit bits) = some bits := by decide

theorem digit_ne_pad : ∀ bits < 64, digit bits ≠ '=' := by decide

theorem eq_digit_of_digit? {c : Char} {bits : Nat} (h : digit? c = some bits) : bits < 64 ∧ c = digit bits := by
  have hupper : 'A'.toNat = 65 ∧ 'Z'.toNat = 90 := ⟨rfl, rfl⟩
  have hlower : 'a'.toNat = 97 ∧ 'z'.toNat = 122 := ⟨rfl, rfl⟩
  have hdigit : '0'.toNat = 48 ∧ '9'.toNat = 57 := ⟨rfl, rfl⟩
  unfold digit? at h
  split at h
  · next hrange =>
    have hfirst : 'A'.toNat ≤ c.toNat := hrange.1
    have hlast : c.toNat ≤ 'Z'.toNat := hrange.2
    cases h
    have hplace : c.toNat - 'A'.toNat < 26 := by omega
    exact ⟨by omega, by rw [digit, if_pos hplace, Nat.add_sub_cancel' hfirst, Char.ofNat_toNat]⟩
  split at h
  · next hrange =>
    have hfirst : 'a'.toNat ≤ c.toNat := hrange.1
    have hlast : c.toNat ≤ 'z'.toNat := hrange.2
    cases h
    have hplace : ¬c.toNat - 'a'.toNat + 26 < 26 ∧ c.toNat - 'a'.toNat + 26 < 52 := by omega
    have hcode : 'a'.toNat + (c.toNat - 'a'.toNat + 26 - 26) = c.toNat := by omega
    exact ⟨by omega, by rw [digit, if_neg hplace.1, if_pos hplace.2, hcode, Char.ofNat_toNat]⟩
  split at h
  · next hrange =>
    have hfirst : '0'.toNat ≤ c.toNat := hrange.1
    have hlast : c.toNat ≤ '9'.toNat := hrange.2
    cases h
    have hplace : ¬c.toNat - '0'.toNat + 52 < 26 ∧ ¬c.toNat - '0'.toNat + 52 < 52 ∧ c.toNat - '0'.toNat + 52 < 62 := by
      omega
    have hcode : '0'.toNat + (c.toNat - '0'.toNat + 52 - 52) = c.toNat := by omega
    exact ⟨by omega, by rw [digit, if_neg hplace.1, if_neg hplace.2.1, if_pos hplace.2.2, hcode, Char.ofNat_toNat]⟩
  split at h
  · next hplus =>
    cases h
    exact ⟨by omega, hplus⟩
  split at h
  · next hslash =>
    cases h
    exact ⟨by omega, hslash⟩
  · cases h

/-! ## Groups of characters -/

theorem ofNat_eq {n : Nat} {byte : UInt8} (h : n = byte.toNat) : UInt8.ofNat n = byte := by
  rw [h, UInt8.ofNat_toNat]

theorem decodeFour_digits (a b c : UInt8) :
    decodeFour (digit (a.toNat / 4)) (digit (a.toNat % 4 * 16 + b.toNat / 16)) (digit (b.toNat % 16 * 4 + c.toNat / 64))
      (digit (c.toNat % 64)) = some [a, b, c] := by
  have ha := a.toNat_lt
  have hb := b.toNat_lt
  have hc := c.toNat_lt
  have hfirst : UInt8.ofNat (a.toNat / 4 * 4 + (a.toNat % 4 * 16 + b.toNat / 16) / 16) = a := ofNat_eq (by omega)
  have hsecond :
      UInt8.ofNat ((a.toNat % 4 * 16 + b.toNat / 16) % 16 * 16 + (b.toNat % 16 * 4 + c.toNat / 64) / 4) = b :=
    ofNat_eq (by omega)
  have hthird : UInt8.ofNat ((b.toNat % 16 * 4 + c.toNat / 64) % 4 * 64 + c.toNat % 64) = c := ofNat_eq (by omega)
  simp only [decodeFour, digit?_digit _ (show a.toNat / 4 < 64 by omega),
    digit?_digit _ (show a.toNat % 4 * 16 + b.toNat / 16 < 64 by omega),
    digit?_digit _ (show b.toNat % 16 * 4 + c.toNat / 64 < 64 by omega),
    digit?_digit _ (show c.toNat % 64 < 64 by omega),
    Option.bind_eq_bind, Option.bind_some, hfirst, hsecond, hthird]

theorem decodeLast_eq_decodeFour {a b c d : Char} (hd : d ≠ '=') : decodeLast a b c d = decodeFour a b c d := by
  simp [decodeLast, decodeFour, hd]

theorem decodeLast_one (a : UInt8) :
    decodeLast (digit (a.toNat / 4)) (digit (a.toNat % 4 * 16)) '=' '=' = some [a] := by
  have ha := a.toNat_lt
  have hfirst : UInt8.ofNat (a.toNat / 4 * 4 + a.toNat % 4 * 16 / 16) = a := ofNat_eq (by omega)
  have hunused : a.toNat % 4 * 16 % 16 = 0 := by omega
  simp only [decodeLast, digit?_digit _ (show a.toNat / 4 < 64 by omega),
    digit?_digit _ (show a.toNat % 4 * 16 < 64 by omega), Option.bind_eq_bind, Option.bind_some, and_self, ite_true,
    hfirst, hunused]

theorem decodeLast_two (a b : UInt8) :
    decodeLast (digit (a.toNat / 4)) (digit (a.toNat % 4 * 16 + b.toNat / 16)) (digit (b.toNat % 16 * 4)) '=' =
      some [a, b] := by
  have ha := a.toNat_lt
  have hb := b.toNat_lt
  have hfirst : UInt8.ofNat (a.toNat / 4 * 4 + (a.toNat % 4 * 16 + b.toNat / 16) / 16) = a := ofNat_eq (by omega)
  have hsecond : UInt8.ofNat ((a.toNat % 4 * 16 + b.toNat / 16) % 16 * 16 + b.toNat % 16 * 4 / 4) = b :=
    ofNat_eq (by omega)
  have hunused : b.toNat % 16 * 4 % 4 = 0 := by omega
  have hthird : b.toNat % 16 * 4 < 64 := by omega
  simp only [decodeLast, digit?_digit _ (show a.toNat / 4 < 64 by omega),
    digit?_digit _ (show a.toNat % 4 * 16 + b.toNat / 16 < 64 by omega), digit?_digit _ hthird, digit_ne_pad _ hthird,
    Option.bind_eq_bind, Option.bind_some, false_and, ite_false, ite_true, hfirst, hsecond, hunused]

theorem eq_digits_of_decodeFour {a b c d : Char} {bytes : List UInt8} (h : decodeFour a b c d = some bytes)
    (rest : List UInt8) : a :: b :: c :: d :: encode rest = encode (bytes ++ rest) := by
  simp only [decodeFour, Option.bind_eq_bind, Option.bind_eq_some_iff, Option.some.injEq] at h
  obtain ⟨x, hx, y, hy, z, hz, w, hw, rfl⟩ := h
  obtain ⟨hx, rfl⟩ := eq_digit_of_digit? hx
  obtain ⟨hy, rfl⟩ := eq_digit_of_digit? hy
  obtain ⟨hz, rfl⟩ := eq_digit_of_digit? hz
  obtain ⟨hw, rfl⟩ := eq_digit_of_digit? hw
  have hfirst : (UInt8.ofNat (x * 4 + y / 16)).toNat = x * 4 + y / 16 :=
    UInt8.toNat_ofNat_of_lt' (by change _ < 256; omega)
  have hsecond : (UInt8.ofNat (y % 16 * 16 + z / 4)).toNat = y % 16 * 16 + z / 4 :=
    UInt8.toNat_ofNat_of_lt' (by change _ < 256; omega)
  have hthird : (UInt8.ofNat (z % 4 * 64 + w)).toNat = z % 4 * 64 + w :=
    UInt8.toNat_ofNat_of_lt' (by change _ < 256; omega)
  simp only [List.cons_append, List.nil_append, encode, hfirst, hsecond, hthird]
  rw [show (x * 4 + y / 16) / 4 = x by omega, show (x * 4 + y / 16) % 4 * 16 + (y % 16 * 16 + z / 4) / 16 = y by omega,
    show (y % 16 * 16 + z / 4) % 16 * 4 + (z % 4 * 64 + w) / 64 = z by omega, show (z % 4 * 64 + w) % 64 = w by omega]

theorem eq_encode_of_decodeLast {a b c d : Char} {bytes : List UInt8} (h : decodeLast a b c d = some bytes) :
    [a, b, c, d] = encode bytes := by
  by_cases hd : d = '='
  · subst hd
    simp only [decodeLast, Option.bind_eq_bind, Option.bind_eq_some_iff, and_true] at h
    obtain ⟨x, hx, y, hy, h⟩ := h
    obtain ⟨hx, rfl⟩ := eq_digit_of_digit? hx
    obtain ⟨hy, rfl⟩ := eq_digit_of_digit? hy
    have hfirst : (UInt8.ofNat (x * 4 + y / 16)).toNat = x * 4 + y / 16 :=
      UInt8.toNat_ofNat_of_lt' (by change _ < 256; omega)
    split at h
    · next hc =>
      split at h
      · next hunused =>
        cases h
        subst hc
        simp only [encode, hfirst]
        rw [show (x * 4 + y / 16) / 4 = x by omega, show (x * 4 + y / 16) % 4 * 16 = y by omega]
      · cases h
    · simp only [ite_true, Option.bind_eq_some_iff] at h
      obtain ⟨z, hz, h⟩ := h
      obtain ⟨hz, rfl⟩ := eq_digit_of_digit? hz
      split at h
      · next hunused =>
        cases h
        have hsecond : (UInt8.ofNat (y % 16 * 16 + z / 4)).toNat = y % 16 * 16 + z / 4 :=
          UInt8.toNat_ofNat_of_lt' (by change _ < 256; omega)
        simp only [encode, hfirst, hsecond]
        rw [show (x * 4 + y / 16) / 4 = x by omega,
          show (x * 4 + y / 16) % 4 * 16 + (y % 16 * 16 + z / 4) / 16 = y by omega,
          show (y % 16 * 16 + z / 4) % 16 * 4 = z by omega]
      · cases h
  · rw [decodeLast_eq_decodeFour hd] at h
    have hfour := eq_digits_of_decodeFour h []
    rwa [encode, List.append_nil] at hfour

/-! ## Whole texts -/

theorem decode?_four {a b c d : Char} {rest : List Char} {bytes more : List UInt8} (hd : d ≠ '=')
    (hfour : decodeFour a b c d = some bytes) (hrest : decode? rest = some more) :
    decode? (a :: b :: c :: d :: rest) = some (bytes ++ more) := by
  cases rest with
  | nil =>
    cases hrest
    rw [decode?, decodeLast_eq_decodeFour hd, hfour, List.append_nil]
  | cons next rest => simp [decode?, hfour, hrest]

/-- **Bytes are read back from their written form.** -/
theorem decode?_encode (bytes : List UInt8) : decode? (encode bytes) = some bytes := by
  fun_induction encode bytes with
  | case1 => rfl
  | case2 a => exact decodeLast_one a
  | case3 a b => exact decodeLast_two a b
  | case4 a b c rest ih =>
    have hlast : digit (c.toNat % 64) ≠ '=' := digit_ne_pad _ (Nat.mod_lt _ (by decide))
    exact decode?_four hlast (decodeFour_digits a b c) ih

/-- **Only the written form of bytes is read as them.** -/
theorem eq_encode_of_decode? {chars : List Char} {bytes : List UInt8} (h : decode? chars = some bytes) :
    chars = encode bytes := by
  fun_induction decode? chars generalizing bytes with
  | case1 =>
    cases h
    rfl
  | case2 a b c d => exact eq_encode_of_decodeLast h
  | case3 a b c d rest hrest ih =>
    simp only [Option.bind_eq_bind, Option.bind_eq_some_iff, Option.some.injEq] at h
    obtain ⟨first, hfirst, more, hmore, rfl⟩ := h
    rw [ih hmore]
    exact eq_digits_of_decodeFour hfirst more
  | case4 => cases h

/-- **Characters are read as bytes exactly if they are their written form.** -/
theorem decode?_eq_some_iff {chars : List Char} {bytes : List UInt8} :
    decode? chars = some bytes ↔ chars = encode bytes :=
  ⟨eq_encode_of_decode?, fun h => h ▸ decode?_encode bytes⟩

end AttemptLog.Text.Base64
