import Mathlib.Tactic.IntervalCases
import Linkshelf.Text.Utf8

/-! Written characters are read back as they were. -/
namespace Linkshelf.Utf8

variable {bs : Bytes} {p : Pending} {k r : Nat}

theorem toNat_toUInt8 (h : k < 256) : k.toUInt8.toNat = k := by
  simpa using Nat.mod_eq_of_lt h

theorem glyphsFrom_first {b : UInt8} (h : first b = .ok p) (bs : Bytes) :
    glyphsFrom none (b :: bs) = glyphsFrom (some p) bs := by
  simp [glyphsFrom, h]

theorem first_two (hk : 2 ≤ k) (hk' : k < 32) :
    first (0xC0 + k).toUInt8 = .ok ⟨k, 1, 1, 0x80, 0xBF⟩ := by
  interval_cases k <;> rfl

/-- The bounds leave out overlong forms and surrogates. -/
theorem first_three (hk : k < 16) :
    first (0xE0 + k).toUInt8 =
      .ok ⟨k, 1, 2, if k = 0 then 0xA0 else 0x80, if k = 13 then 0x9F else 0xBF⟩ := by
  interval_cases k <;> rfl

theorem first_four (hk : k < 5) :
    first (0xF0 + k).toUInt8 =
      .ok ⟨k, 1, 3, if k = 0 then 0x90 else 0x80, if k = 4 then 0x8F else 0xBF⟩ := by
  interval_cases k <;> rfl

theorem Pending.accepts_tail {b : UInt8} (hb : b.toNat = 0x80 + r) (hl : p.low ≤ 0x80 + r)
    (hh : 0x80 + r ≤ p.high) : p.accepts b = true := by
  simp only [Pending.accepts, hb, Bool.and_eq_true, decide_eq_true_eq]
  exact ⟨hl, hh⟩

theorem glyphsFrom_more (hm : p.missing ≠ 1) (hr : r < 64) (hl : p.low ≤ 0x80 + r)
    (hh : 0x80 + r ≤ p.high) (bs : Bytes) :
    glyphsFrom (some p) ((0x80 + r).toUInt8 :: bs) =
      glyphsFrom (some ⟨p.code * 64 + r, p.width + 1, p.missing - 1, 0x80, 0xBF⟩) bs := by
  have hb : (0x80 + r).toUInt8.toNat = 0x80 + r := toNat_toUInt8 (by omega)
  generalize (0x80 + r).toUInt8 = b at hb
  have hcode : p.code * 64 + (0x80 + r) % 64 = p.code * 64 + r := by omega
  simp [glyphsFrom, Pending.accepts_tail hb hl hh, Pending.next, hm, hb, hcode]

theorem glyphsFrom_last (hm : p.missing = 1) (hr : r < 64) (hl : p.low ≤ 0x80 + r)
    (hh : 0x80 + r ≤ p.high) (bs : Bytes) :
    glyphsFrom (some p) ((0x80 + r).toUInt8 :: bs) =
      .char (Char.ofNat (p.code * 64 + r)) :: glyphsFrom none bs := by
  have hb : (0x80 + r).toUInt8.toNat = 0x80 + r := toNat_toUInt8 (by omega)
  generalize (0x80 + r).toUInt8 = b at hb
  have hcode : p.code * 64 + (0x80 + r) % 64 = p.code * 64 + r := by omega
  simp [glyphsFrom, Pending.accepts_tail hb hl hh, Pending.next, hm, hb, hcode]

theorem toNat_range (c : Char) : c.toNat < 0xD800 ∨ (0xDFFF < c.toNat ∧ c.toNat < 0x110000) :=
  c.valid

theorem glyphsFrom_encodeChar (c : Char) (bs : Bytes) :
    glyphsFrom none (encodeChar c ++ bs) = .char c :: glyphsFrom none bs := by
  have hrange := toNat_range c
  have hofNat : Char.ofNat c.toNat = c := Char.ofNat_toNat c
  generalize hn : c.toNat = n at hrange hofNat
  by_cases h1 : n < 0x80
  · have hfirst : first n.toUInt8 = .error (.char c) := by
      simp [first, toNat_toUInt8 (k := n) (by omega), h1, hofNat]
    simp [encodeChar, hn, h1, glyphsFrom, hfirst]
  by_cases h2 : n < 0x800
  · have hn2 : n / 64 * 64 + n % 64 = n := by omega
    simp only [encodeChar, hn, h1, h2, if_true, if_false, List.cons_append, List.nil_append]
    rw [glyphsFrom_first (first_two (by omega) (by omega)),
      glyphsFrom_last rfl (by omega) (by simp) (by simp; omega)]
    simp [hn2, hofNat]
  by_cases h3 : n < 0x10000
  · have hn3 : (n / 4096 * 64 + n / 64 % 64) * 64 + n % 64 = n := by omega
    simp only [encodeChar, hn, h1, h2, h3, if_true, if_false, List.cons_append, List.nil_append]
    rw [glyphsFrom_first (first_three (by omega)),
      glyphsFrom_more (by simp) (by omega) (by simp; split <;> omega) (by simp; split <;> omega),
      glyphsFrom_last rfl (by omega) (by simp) (by simp; omega)]
    simp [hn3, hofNat]
  · have hn4 : ((n / 262144 * 64 + n / 4096 % 64) * 64 + n / 64 % 64) * 64 + n % 64 = n := by omega
    simp only [encodeChar, hn, h1, h2, h3, if_false, List.cons_append, List.nil_append]
    rw [glyphsFrom_first (first_four (by omega)),
      glyphsFrom_more (by simp) (by omega) (by simp; split <;> omega) (by simp; split <;> omega),
      glyphsFrom_more (by simp) (by omega) (by simp) (by simp; omega),
      glyphsFrom_last rfl (by omega) (by simp) (by simp; omega)]
    simp [hn4, hofNat]

theorem glyphs_encode (s : String) : glyphs (encode s) = Glyph.ofString s := by
  simp only [glyphs, encode, Glyph.ofString]
  induction s.toList with
  | nil => rfl
  | cons c cs ih => rw [List.flatMap_cons, glyphsFrom_encodeChar, ih, List.map_cons]

theorem decode?_encode (s : String) : decode? (encode s) = some s := by
  have hchars (cs : List Char) : (cs.map Glyph.char).mapM Glyph.char? = some cs := by
    induction cs with
    | nil => rfl
    | cons c cs ih => simp [ih, Glyph.char?]
  rw [decode?, glyphs_encode, Glyph.ofString, hchars, Option.map_some, String.ofList_toList]

end Linkshelf.Utf8
