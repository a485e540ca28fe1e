import Mathlib.Tactic.IntervalCases
import Linkshelf.Json.Basic
import Linkshelf.Json.Text

/-! Quoted text is read back as it was, whatever is escaped in it. -/
namespace Linkshelf.Json

variable {c : Char} {read cs : List Char} {s : List Glyph} {d code missing : Nat}

theorem hexDigit_facts (hd : d < 16) :
    Hex.value? (Hex.digit d) = some d ∧ (Glyph.char (Hex.digit d)).width = 1 := by
  interval_cases d <;> decide

theorem readStringFrom_hex (hd : d < 16) (hm : 1 < missing) (lead : Option Nat)
    (done : Option (List Char)) (s : List Glyph) :
    readStringFrom false (.hex missing code true lead) done (.char (Hex.digit d) :: s) =
      readStringFrom false (.hex (missing - 1) (code * 16 + d) true lead) done s := by
  obtain ⟨hv, hw⟩ := hexDigit_facts hd
  simp [readStringFrom, Glyph.char?, hv, hw, hm]

theorem readStringFrom_hex_last (hd : d < 16) (hc : code * 16 + d < 0xD800)
    (done : Option (List Char)) (s : List Glyph) :
    readStringFrom false (.hex 1 code true none) done (.char (Hex.digit d) :: s) =
      readStringFrom false .plain (done.map (Char.ofNat (code * 16 + d) :: ·)) s := by
  obtain ⟨hv, hw⟩ := hexDigit_facts hd
  have hlow : ¬ 0xDC00 ≤ code * 16 + d := by omega
  have hlead : ¬ 0xD800 ≤ code * 16 + d := by omega
  simp [readStringFrom, Glyph.char?, hv, hw, HexCode.of, hlow, hlead]

theorem readStringFrom_control (hc : c.toNat < 32) (done : Option (List Char)) (s : List Glyph) :
    readStringFrom false .plain done
        (.char '\\' :: .char 'u' :: .char '0' :: .char '0' ::
          .char (Hex.digit (c.toNat / 16)) :: .char (Hex.digit (c.toNat % 16)) :: s) =
      readStringFrom false .plain (done.map (c :: ·)) s := by
  have hzero : '0' = Hex.digit 0 := rfl
  have hcode : c.toNat / 16 * 16 + c.toNat % 16 = c.toNat := by omega
  rw [readStringFrom, readStringFrom, hzero,
    readStringFrom_hex (by omega) (by omega), readStringFrom_hex (by omega) (by omega),
    readStringFrom_hex (by omega) (by omega), readStringFrom_hex_last (by omega) (by omega)]
  simp only [Nat.zero_mul, Nat.zero_add, hcode, Char.ofNat_toNat]

theorem readStringFrom_escapeChar (c : Char) (read : List Char) (s : List Glyph) :
    readStringFrom false .plain (some read) ((escapeChar c).map .char ++ s) =
      readStringFrom false .plain (some (c :: read)) s := by
  unfold escapeChar
  split_ifs with h1 h2 h3 h4 h5 h6 h7 h8
  case pos => simp [readStringFrom, simpleEscape?, h1]
  case pos => simp [readStringFrom, simpleEscape?, h2]
  case pos => simp [readStringFrom, simpleEscape?, h3]
  case pos => simp [readStringFrom, simpleEscape?, h4]
  case pos => simp [readStringFrom, simpleEscape?, h5]
  case pos => simp [readStringFrom, simpleEscape?, h6]
  case pos => simp [readStringFrom, simpleEscape?, h7]
  case pos => simpa using readStringFrom_control h8 (some read) s
  case neg => simp [readStringFrom, h8]

theorem readStringFrom_escaped (cs read : List Char) (s : List Glyph) :
    readStringFrom false .plain (some read)
        ((cs.flatMap escapeChar).map .char ++ .char '"' :: s) =
      .ok (.ofList (read.reverse ++ cs), s) := by
  induction cs generalizing read with
  | nil => simp [readStringFrom]
  | cons c cs ih =>
    rw [List.flatMap_cons, List.map_append, List.append_assoc, readStringFrom_escapeChar, ih]
    simp

theorem readString_quote (text : String) (s : List Glyph) :
    ∃ body, (quote text).map Glyph.char ++ s = .char '"' :: body ∧
      readString false body = .ok (text, s) := by
  refine ⟨(text.toList.flatMap escapeChar).map .char ++ .char '"' :: s, by simp [quote], ?_⟩
  simpa [readString] using readStringFrom_escaped text.toList [] s

end Linkshelf.Json
