import Linkshelf.Proofs.Query.Conservation
import Linkshelf.Proofs.Query.Parts

/-! Missing delimiters count as supplied at the ends: opening parentheses in front, closing ones and
a closing quote at the end. -/
namespace Linkshelf.Query

theorem span_append_singleton {α : Type} {p : α → Bool} {x : α} (hx : p x = false) (xs : List α) :
    (xs ++ [x]).takeWhile p = xs.takeWhile p ∧
      (xs ++ [x]).dropWhile p = xs.dropWhile p ++ [x] := by
  induction xs with
  | nil => simp [hx]
  | cons y xs ih => by_cases hy : p y = true <;> simp [hy, ih]

/-- An opening parenthesis below all that waits stays there, or an unmatched closing one takes it
away in place of nothing. -/
theorem advance_append_lparen (waiting : List Token) (t : Token) :
    (advance (waiting ++ [.lparen]) t).2 = (advance waiting t).2 ∧
      ((advance (waiting ++ [.lparen]) t).1 = (advance waiting t).1 ++ [.lparen] ∨
        (advance (waiting ++ [.lparen]) t).1 = (advance waiting t).1) := by
  by_cases ht : 0 < rank t
  · obtain ⟨htake, hdrop⟩ := span_append_singleton (yields_lparen ht) waiting
    simp [advance_operator ht, htake, hdrop]
  · cases t with
    | term text => simp [advance]
    | lparen => simp [advance]
    | rparen =>
      obtain ⟨htake, hdrop⟩ :=
        span_append_singleton (p := (· != Token.lparen)) (x := .lparen) (by simp) waiting
      simp only [advance, htake, hdrop, true_and]
      cases waiting.dropWhile (· != Token.lparen) with
      | nil => exact Or.inr rfl
      | cons x rest => exact Or.inl rfl
    | _ => simp [rank] at ht

/-- An opening parenthesis below all that waits stops nothing. -/
theorem polishFrom_append_lparen (waiting ts : List Token) :
    polishFrom (waiting ++ [.lparen]) ts = polishFrom waiting ts := by
  induction ts generalizing waiting with
  | nil => simp [polishFrom]
  | cons t ts ih =>
    obtain ⟨hplaced, hwaits⟩ := advance_append_lparen waiting t
    rw [polishFrom_cons, polishFrom_cons, hplaced]
    rcases hwaits with hwaits | hwaits
    · rw [hwaits, ih]
    · rw [hwaits]

theorem polishFrom_rparen (waiting : List Token) :
    polishFrom waiting [.rparen] = polishFrom waiting [] := by
  simp only [polishFrom]
  induction waiting with
  | nil => rfl
  | cons x waiting ih => by_cases hx : x = .lparen <;> simp_all

/-- A closing parenthesis at the end places what is placed there anyway. -/
theorem polishFrom_append_rparen (waiting ts : List Token) :
    polishFrom waiting (ts ++ [.rparen]) = polishFrom waiting ts := by
  induction ts generalizing waiting with
  | nil => exact polishFrom_rparen waiting
  | cons t ts ih => rw [List.cons_append, polishFrom_cons, polishFrom_cons, ih]

theorem polish_lparens (m : Nat) (ts : List Token) :
    polish (List.replicate m .lparen ++ ts) = polish ts := by
  induction m with
  | zero => rfl
  | succ m ih =>
    have hopen := polishFrom_append_lparen [] (List.replicate m .lparen ++ ts)
    rw [List.replicate_succ, List.cons_append, polish, polishFrom]
    exact hopen.trans ih

/-- Opening parentheses in front and closing ones at the end change nothing. -/
theorem polish_bracket (m n : Nat) (ts : List Token) :
    polish (List.replicate m .lparen ++ ts ++ List.replicate n .rparen) = polish ts := by
  induction n with
  | zero => simpa using polish_lparens m ts
  | succ n ih =>
    rw [List.replicate_succ', ← List.append_assoc, polish, polishFrom_append_rparen]
    exact ih

/-- Any tokens have the polish order that they have with more parentheses supplied at their ends,
and a query that ends inside a phrase has the tokens that it has with the quote supplied. -/
theorem supply_delimiters :
    (∀ (m n : Nat) (ts : List Token),
      polish (List.replicate m .lparen ++ ts ++ List.replicate n .rparen) = polish ts) ∧
    ∀ q, EndsInPhrase q → tokenize (q ++ "\"") = tokenize q :=
  ⟨polish_bracket, fun _ h => tokenize_append_quote h⟩

/-- A closing parenthesis that matches nothing places what waits, whatever is open below; a quote
inside a word opens no phrase. -/
theorem supply_delimiters_stray :
    polish ([.lparen, .lparen] ++
        [.not, .term "a", .rparen, .or, .lparen, .term "b", .rparen, .rparen, .and, .term "c"] ++
        [.rparen]) =
      [.term "a", .not, .term "b", .or, .term "c", .and] ∧
    EndsInPhrase "it\"s \"A (or" ∧
    tokenize ("it\"s \"A (or" ++ "\"") = [.term "it\"s", .and, .term "a (or"] := by
  have hends : EndsInPhrase "it\"s \"A (or" := by decide +kernel
  obtain ⟨hparens, hquote⟩ := supply_delimiters
  refine ⟨?_, hends, ?_⟩
  · have hsame := hparens 2 1
      [.not, .term "a", .rparen, .or, .lparen, .term "b", .rparen, .rparen, .and, .term "c"]
    exact hsame.trans (by decide)
  · rw [hquote _ hends]
    decide +kernel

end Linkshelf.Query
