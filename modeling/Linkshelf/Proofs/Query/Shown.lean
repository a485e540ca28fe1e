import Linkshelf.Proofs.Query.Lexeme
import Linkshelf.Proofs.Query.UnderstoodAnd
import Linkshelf.Proofs.Text.Pieces

/-! Tokens as they are shown, with blanks between them, read back as the same tokens. -/
namespace Linkshelf

/-- Every character is shown between quotes as it is. -/
def Text.IsVerbatim (s : String) : Prop := ∀ c ∈ s.toList, Text.quotedChar c = [c]

instance (s : String) : Decidable (Text.IsVerbatim s) :=
  List.decidableBAll (fun c => Text.quotedChar c = [c]) s.toList

theorem Text.IsVerbatim.toList_quoted {s : String} (h : Text.IsVerbatim s) :
    (Text.quoted s).toList = '"' :: (s.toList ++ ['"']) := by
  have hchars : s.toList.flatMap Text.quotedChar = s.toList := by
    rw [List.flatMap_congr h]
    exact List.flatMap_singleton' s.toList
  rw [Text.quoted, String.toList_ofList, hchars]
  rfl

theorem Text.IsVerbatim.quote_notMem {s : String} (h : Text.IsVerbatim s) : '"' ∉ s.toList := by
  intro hmem
  have hquote := h '"' hmem
  simp [Text.quotedChar] at hquote

/-- What is read of the token as it is shown is the token. -/
def Token.IsLegible : Token → Prop
  | .term text => Text.lower text = text ∧ Text.IsVerbatim text
  | _ => True

namespace Query

variable {t : Token} {ts : List Token} {xs : List Lexeme} {cs : List Char}

theorem exists_lexeme (h : t.IsLegible) :
    ∃ x : Lexeme, x.chars = t.shown.toList ∧ x.token = t := by
  cases t with
  | term text =>
    obtain ⟨hlower, hverbatim⟩ := h
    refine ⟨.phrase text.toList hverbatim.quote_notMem, hverbatim.toList_quoted.symm, ?_⟩
    rw [Lexeme.token, String.ofList_toList, hlower]
  | and => exact ⟨.keyword .and ['A', 'N', 'D'] (by decide), rfl, rfl⟩
  | or => exact ⟨.keyword .or ['O', 'R'] (by decide), rfl, rfl⟩
  | not => exact ⟨.keyword .not ['N', 'O', 'T'] (by decide), rfl, rfl⟩
  | lparen => exact ⟨.lparen, rfl, rfl⟩
  | rparen => exact ⟨.rparen, rfl, rfl⟩

theorem Written.blank (h : Written xs cs) : Written xs (' ' :: cs) := by
  have hgap {gap : List Char} (hg : IsGap gap) : IsGap (' ' :: gap) := by
    intro c hc
    rcases List.mem_cons.mp hc with rfl | hc
    · decide
    · exact hg c hc
  cases h with
  | nil hg => exact .nil (hgap hg)
  | cons hg ho hr => exact .cons (hgap hg) ho hr

theorem exists_written (h : ∀ t ∈ ts, t.IsLegible) :
    ∃ xs : List Lexeme, xs.map Lexeme.token = ts ∧
      Written xs (Chars.join [' '] (ts.map (·.shown.toList))) := by
  have hnone : IsGap [] := by simp [IsGap]
  induction ts with
  | nil => exact ⟨[], rfl, .nil hnone⟩
  | cons t ts ih =>
    obtain ⟨x, hchars, rfl⟩ := exists_lexeme (h t (by simp))
    obtain ⟨xs, rfl, hwritten⟩ := ih fun u hu => h u (by simp [hu])
    refine ⟨x :: xs, rfl, ?_⟩
    cases xs with
    | nil =>
      have hend : Breaks [] := trivial
      simpa [Chars.join, ← hchars] using Written.cons hnone (fun _ => hend) (.nil hnone)
    | cons y xs =>
      have hbreaks := breaks_cons (c := ' ') (by decide)
      have hrest := Written.cons hnone (x := x) (fun _ => hbreaks _) hwritten.blank
      simpa [Chars.join_cons_cons, ← hchars] using hrest

/-- The tokens as they are shown, with blanks between them, are scanned as they are. -/
theorem tokenize_join_shown (h : ∀ t ∈ ts, t.IsLegible) :
    tokenize (Text.join " " (ts.map Token.shown)) = insertAnds ts := by
  obtain ⟨xs, htokens, hwritten⟩ := exists_written h
  have hchars : (Text.join " " (ts.map Token.shown)).toList =
      Chars.join [' '] (ts.map (·.shown.toList)) := by
    simp [Text.join, Function.comp_def]
  rw [tokenize, hchars, Scan.run_written hwritten, htokens]

/-- Tokens whose terms are in lower case, with no character that is escaped, read back from the way
they are shown just when no operand ends before another one starts. -/
theorem tokenize_shown_iff
    (hterms : ∀ text, .term text ∈ ts → Text.lower text = text ∧ Text.IsVerbatim text) :
    tokenize (Text.join " " (ts.map Token.shown)) = ts ↔ ts.IsChain Apart := by
  have hlegible : ∀ t ∈ ts, t.IsLegible := by
    intro t ht
    cases t with
    | term text => exact hterms text ht
    | _ => trivial
  rw [tokenize_join_shown hlegible, insertAnds_eq_self_iff]

/-- Terms that look like an operator or a group, that are blank or empty. -/
theorem tokenize_shown_iff_quoted :
    ∃ ts : List Token, ts = [.not, .term "and (or", .and, .lparen, .term "", .or, .term " ",
        .rparen] ∧
      (∀ text, .term text ∈ ts → Text.lower text = text ∧ Text.IsVerbatim text) ∧
      ts.IsChain Apart ∧
      Text.join " " (ts.map Token.shown) = "NOT \"and (or\" AND ( \"\" OR \" \" )" ∧
      tokenize (Text.join " " (ts.map Token.shown)) = ts := by
  let ts : List Token := [.not, .term "and (or", .and, .lparen, .term "", .or, .term " ", .rparen]
  have hterms : ∀ text, .term text ∈ ts → Text.lower text = text ∧ Text.IsVerbatim text := by
    intro text hmem
    have htext : text ∈ ["and (or", "", " "] := by simpa [ts] using hmem
    have hall : ∀ s ∈ ["and (or", "", " "], Text.lower s = s ∧ Text.IsVerbatim s := by
      decide +kernel
    exact hall text htext
  have hapart : ts.IsChain Apart := by simp [ts, Apart, Token.closes, Token.opens]
  exact ⟨ts, rfl, hterms, hapart, by decide +kernel, (tokenize_shown_iff hterms).mpr hapart⟩

end Query
end Linkshelf
