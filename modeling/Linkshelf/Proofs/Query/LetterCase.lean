import Linkshelf.Proofs.Bookmark.SearchText
import Linkshelf.Proofs.Query.Lexeme
import Linkshelf.Query.Basic

/-! The case of ASCII letters does not matter, neither in a query nor in the texts of a bookmark. -/
namespace Linkshelf

theorem Chars.trim_map_toLower (cs : List Char) :
    trim (cs.map Char.toLower) = (trim cs).map Char.toLower := by
  have hblank : isBlank ∘ Char.toLower = isBlank := funext Text.isBlank_toLower
  simp only [trim, List.dropWhile_map, ← List.map_reverse, hblank]

namespace Query

variable {q r : String} {b other : Bookmark}

theorem lower_ofList_map_toLower (cs : List Char) :
    Text.lower (.ofList (cs.map Char.toLower)) = Text.lower (.ofList cs) := by
  have hlower := Text.lower_asciiLower (.ofList cs)
  rwa [Text.asciiLower, String.toList_ofList] at hlower

theorem ofWord_map_toLower (word : List Char) :
    Token.ofWord (word.map Char.toLower) = Token.ofWord word := by
  have hkey : (word.map Char.toLower).map Char.toLower = word.map Char.toLower := by
    rw [List.map_map]
    exact List.map_congr_left fun c _ => Text.toLower_toLower c
  rw [Token.ofWord, Token.ofWord, hkey, lower_ofList_map_toLower]

theorem ofPhrase_map_toLower (phrase : List Char) :
    Token.ofPhrase (phrase.map Char.toLower) = Token.ofPhrase phrase := by
  rw [Token.ofPhrase, Token.ofPhrase, lower_ofList_map_toLower]

namespace Scan

/-- What the scanner has read, with its ASCII letters in lower case. -/
def asciiLower : Scan → Scan
  | gap => gap
  | word read => word (read.map Char.toLower)
  | phrase read => phrase (read.map Char.toLower)

/-- The scanner takes one step for a letter of either case and gives the same tokens. -/
theorem step_asciiLower (s : Scan) (c : Char) :
    s.asciiLower.step c.toLower = ((s.step c).1.asciiLower, (s.step c).2) := by
  cases s with
  | gap =>
    simp only [asciiLower, step, stepGap, Text.isBlank_toLower, toLower_eq_lparen_iff,
      toLower_eq_rparen_iff, toLower_eq_quote_iff]
    split_ifs <;> rfl
  | word read =>
    simp only [asciiLower, step, Text.isBlank_toLower, toLower_eq_lparen_iff,
      toLower_eq_rparen_iff, ← List.map_reverse, ofWord_map_toLower]
    split_ifs <;> rfl
  | phrase read =>
    simp only [asciiLower, step, toLower_eq_quote_iff, ← List.map_reverse, ofPhrase_map_toLower]
    split_ifs <;> rfl

theorem finish_asciiLower (s : Scan) : s.asciiLower.finish = s.finish := by
  cases s with
  | gap => rfl
  | word read => simp only [asciiLower, finish, ← List.map_reverse, ofWord_map_toLower]
  | phrase read => simp only [asciiLower, finish, ← List.map_reverse, ofPhrase_map_toLower]

theorem run_asciiLower (s : Scan) (cs : List Char) :
    s.asciiLower.run (cs.map Char.toLower) = s.run cs := by
  induction cs generalizing s with
  | nil => exact finish_asciiLower s
  | cons c cs ih => rw [List.map_cons, run, run, step_asciiLower, ih]

end Scan

theorem tokenize_asciiLower (q : String) : tokenize (Text.asciiLower q) = tokenize q := by
  have hrun : Scan.gap.run (q.toList.map Char.toLower) = Scan.gap.run q.toList :=
    Scan.run_asciiLower .gap q.toList
  rw [tokenize, tokenize, Text.asciiLower, String.toList_ofList, hrun]

theorem parse_asciiLower (q : String) : parse (Text.asciiLower q) = parse q := by
  have htrim : Text.trim (Text.asciiLower q) = Text.asciiLower (Text.trim q) := by
    simp only [Text.trim, Text.asciiLower, String.toList_ofList, Chars.trim_map_toLower]
  rw [parse, parse, htrim, tokenize_asciiLower]

/-- Queries that differ at most in the case of ASCII letters are one query, and it matches both or
neither of two bookmarks whose texts differ at most in this way. -/
theorem matches_sameLetters (hq : Text.SameLetters q r) (hb : b.SameLetters other) :
    parse q = parse r ∧ (parse q).matchesBookmark b = (parse r).matchesBookmark other := by
  have hparse : parse q = parse r := by
    rw [← parse_asciiLower q, ← parse_asciiLower r, hq]
  constructor
  · exact hparse
  · rw [hparse, matchesBookmark, matchesBookmark, hb.searchText]

/-- Keywords, words and phrases in another case, and a letter beside a sigma that ends a word. -/
theorem matches_sameLetters_sigma :
    ∃ (q r : String) (b other : Bookmark),
      Text.SameLetters q r ∧ b.SameLetters other ∧ q ≠ r ∧ b ≠ other ∧
      parse q = parse r ∧ (parse q).matchesBookmark b = true ∧
      (parse r).matchesBookmark other = true := by
  let q : String := "\"kAΣ b\" aNd NOT(x Or Y)"
  let r : String := "\"KaΣ B\" And not(X oR y)"
  let b : Bookmark := { id := "1", title := "KAΣ B", tags := ["Lean", "é"] }
  let other : Bookmark := { id := "2", title := "kaΣ b", tags := ["lEAN", "é"] }
  have hq : Text.SameLetters q r := by
    rw [Text.SameLetters]
    decide +kernel
  have hb : b.SameLetters other := by
    constructor
    · rw [Text.SameLetters]
      decide +kernel
    · rw [Text.SameLetters]
    · rw [Text.SameLetters]
    · exact .cons (by rw [Text.SameLetters]; decide +kernel) (.cons rfl .nil)
  have hmatch : (parse q).matchesBookmark b = true := by decide +kernel
  obtain ⟨hparse, hsame⟩ := matches_sameLetters hq hb
  exact ⟨q, r, b, other, hq, hb, by decide, by decide, hparse, hmatch, hsame ▸ hmatch⟩

end Query
end Linkshelf
