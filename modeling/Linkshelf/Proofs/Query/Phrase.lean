import Linkshelf.Proofs.Bookmark.SearchText
import Linkshelf.Proofs.Query.Spelling

/-! A phrase that is taken from a text of a bookmark finds the bookmark, as long as each capital
sigma of it ends a word in the phrase just when it ends one in the text. -/
namespace Linkshelf.Query

variable {s text : String} {before after : List Char} {b : Bookmark}

/-- The query that is one phrase. -/
def inQuotes (s : String) : String := "\"" ++ s ++ "\""

theorem parse_inQuotes (h : '"' ∉ s.toList) : parse (inQuotes s) = ⟨[.term (Text.lower s)]⟩ := by
  have hnone : IsGap [] := by simp [IsGap]
  have hwritten : Written [.phrase s.toList h] (inQuotes s).toList := by
    have hchars : (inQuotes s).toList = [] ++ (Lexeme.phrase s.toList h).chars ++ [] := by
      simp [inQuotes, Lexeme.chars]
    rw [hchars]
    exact .cons hnone (by simp [Lexeme.isOpen]) (.nil hnone)
  have htokens : tokenize (Text.trim (inQuotes s)) = [.term (Text.lower s)] := by
    rw [tokenize_trim hwritten, List.map_singleton, insertAnds_singleton, Lexeme.token,
      String.ofList_toList]
  rw [parse, htokens]
  rfl

/-- A phrase matches where its lower-case form is a part of the text of the bookmark. -/
theorem matches_inQuotes_iff (h : '"' ∉ s.toList) (b : Bookmark) :
    (parse (inQuotes s)).matchesBookmark b = true ↔
      (Text.lower s).toList <:+: b.searchText.toList := by
  have hvalue (term full : String) : value [.term term] full = meets full term := by
    rw [meets_eq]
    rfl
  have hmatches : (parse (inQuotes s)).matchesBookmark b = meets b.searchText (Text.lower s) := by
    rw [matchesBookmark, parse_inQuotes h, ← hvalue]
    rfl
  rw [hmatches, meets, decide_eq_true_eq, or_iff_right_of_imp]
  intro hempty
  rw [hempty]
  exact List.nil_infix

/-- A phrase without quotes that stands somewhere in a text of a bookmark finds the bookmark. If it
has capital sigmas, they have to be lower-cased there as they are in the phrase. -/
theorem matches_phrase (htext : text ∈ b.texts) (hplace : text.toList = before ++ s.toList ++ after)
    (hquote : '"' ∉ s.toList)
    (hsigma : 'Σ' ∈ s.toList → Text.KeepsSigmas before s.toList after) :
    (parse (inQuotes s)).matchesBookmark b = true := by
  have hkeeps : Text.KeepsSigmas before s.toList after := by
    by_cases hmem : 'Σ' ∈ s.toList
    · exact hsigma hmem
    · exact Text.keepsSigmas_of_notMem hmem
  obtain ⟨left, right, hfull, hl, hr⟩ := Bookmark.exists_surroundings htext
  have hchars : left ++ before ++ s.toList ++ (after ++ right) = b.fullText.toList := by
    rw [hfull, hplace]
    simp only [List.append_assoc]
  rw [matches_inQuotes_iff hquote, Bookmark.searchText_eq, Text.lower, Text.lower,
    String.toList_ofList, String.toList_ofList, ← hchars]
  exact (hkeeps.widen hl hr).part_of_whole

/-- A whole word of a tag, although an apostrophe follows its sigma. -/
theorem matches_phrase_whole_word :
    ∃ (b : Bookmark) (text s : String) (before after : List Char),
      text ∈ b.texts ∧ text.toList = before ++ s.toList ++ after ∧ '"' ∉ s.toList ∧
      'Σ' ∈ s.toList ∧ Text.KeepsSigmas before s.toList after ∧
      (parse (inQuotes s)).matchesBookmark b = true := by
  let b : Bookmark := { id := "1", url := "https://a", tags := ["lean", "Η ΟΔΟΣ' 5"] }
  have htext : "Η ΟΔΟΣ' 5" ∈ b.texts := by decide +kernel
  have hplace : "Η ΟΔΟΣ' 5".toList = ['Η', ' '] ++ "ΟΔΟΣ".toList ++ ['\'', ' ', '5'] := by
    decide +kernel
  have hquote : '"' ∉ "ΟΔΟΣ".toList := by decide +kernel
  have hmem : 'Σ' ∈ "ΟΔΟΣ".toList := by decide +kernel
  have hkeeps : Text.KeepsSigmas ['Η', ' '] "ΟΔΟΣ".toList ['\'', ' ', '5'] :=
    Text.keepsSigmas_of_apart (by decide +kernel) (by decide +kernel)
  exact ⟨b, _, _, _, _, htext, hplace, hquote, hmem, hkeeps,
    matches_phrase htext hplace hquote fun _ => hkeeps⟩

/-- A phrase that ends in a capital sigma is not found in a word that goes on after it. -/
theorem phrase_misses_longer_word :
    ∃ (b : Bookmark) (s : String) (after : List Char),
      b.title ∈ b.texts ∧ b.title.toList = [] ++ s.toList ++ after ∧ '"' ∉ s.toList ∧
      ¬ Text.KeepsSigmas [] s.toList after ∧
      (parse (inQuotes s)).matchesBookmark b = false := by
  let b : Bookmark := { id := "1", title := "ΟΔΟΣΤΡΩΜΑ" }
  have hplace : b.title.toList = [] ++ "ΟΔΟΣ".toList ++ ['Τ', 'Ρ', 'Ω', 'Μ', 'Α'] := by
    decide +kernel
  have hmatch : (parse (inQuotes "ΟΔΟΣ")).matchesBookmark b = false := by decide +kernel
  refine ⟨b, "ΟΔΟΣ", _, List.mem_cons_self, hplace, by decide +kernel, fun hkeeps => ?_, hmatch⟩
  -- The last letter ends a word in the phrase, and does not end one in the title.
  have hlast := hkeeps ['Ο', 'Δ', 'Ο'] [] (by decide +kernel)
  revert hlast
  decide +kernel

end Linkshelf.Query
