import Mathlib.Data.List.TakeWhile
import Linkshelf.Proofs.Query.Polish

/-! What polish order keeps of the tokens: each operator as often as it was there, the terms in
their order, and no parenthesis. -/
namespace Linkshelf.Query

variable {p : Token → Bool} {t op : Token} {ts waiting : List Token}

def isTerm : Token → Bool
  | .term _ => true
  | _ => false

/-- An operator that takes two values and leaves one. -/
def joins : Token → Bool
  | .and | .or => true
  | _ => false

section Number

theorem countP_takeWhile_dropWhile {α : Type} (p q : α → Bool) (xs : List α) :
    (xs.takeWhile q).countP p + (xs.dropWhile q).countP p = xs.countP p := by
  rw [← List.countP_append, List.takeWhile_append_dropWhile]

/-- The opening parenthesis that a closing one takes away does not count. -/
theorem countP_drop_lparen (hl : p .lparen = false) (waiting : List Token) :
    ((waiting.dropWhile (· != Token.lparen)).drop 1).countP p =
      (waiting.dropWhile (· != Token.lparen)).countP p := by
  have hhead := List.head?_dropWhile_not (· != Token.lparen) waiting
  cases hd : waiting.dropWhile (· != Token.lparen) with
  | nil => rfl
  | cons x rest =>
    obtain rfl : x = .lparen := by simpa [hd] using hhead
    simp [hl]

/-- A token goes to what is placed or to what waits, and so does all that waited before. -/
theorem countP_advance (hl : p .lparen = false) (hr : p .rparen = false) (waiting : List Token)
    (t : Token) :
    (advance waiting t).2.countP p + (advance waiting t).1.countP p =
      waiting.countP p + [t].countP p := by
  by_cases ht : 0 < rank t
  · have hw := countP_takeWhile_dropWhile p (yields t) waiting
    simp only [advance_operator ht, List.countP_cons, List.countP_nil]
    omega
  · cases t with
    | term text => simp only [advance, Nat.add_comm]
    | lparen => simp [advance, hl]
    | rparen =>
      have hw := countP_takeWhile_dropWhile p (· != Token.lparen) waiting
      simp only [advance, countP_drop_lparen hl, List.countP_singleton, hr]
      simpa using hw
    | _ => simp [rank] at ht

/-- Nothing but parentheses is lost or added. -/
theorem countP_polishFrom (hl : p .lparen = false) (hr : p .rparen = false)
    (waiting ts : List Token) :
    (polishFrom waiting ts).countP p = waiting.countP p + ts.countP p := by
  induction ts generalizing waiting with
  | nil =>
    rw [polishFrom, List.countP_filter, List.countP_nil, Nat.add_zero]
    apply List.countP_congr
    intro t _
    cases t <;> simp [hl]
  | cons t ts ih =>
    have hstep := countP_advance hl hr waiting t
    rw [polishFrom_cons, List.countP_append, ih, ← List.singleton_append, List.countP_append]
    omega

end Number

section Order

theorem not_isTerm_of_rank (h : 0 < rank t) : isTerm t = false := by
  cases t <;> simp_all [rank, isTerm]

/-- Operators and open parentheses wait, and nothing else does. -/
def Waits (waiting : List Token) : Prop := ∀ t ∈ waiting, t = .lparen ∨ 0 < rank t

theorem waits_nil : Waits [] := by simp [Waits]

theorem Waits.cons (h : Waits waiting) (ht : t = .lparen ∨ 0 < rank t) : Waits (t :: waiting) := by
  intro x hx
  rcases List.mem_cons.mp hx with rfl | hx
  · exact ht
  · exact h x hx

theorem Waits.suffix {rest : List Token} (h : Waits waiting) (hs : rest <:+ waiting) :
    Waits rest := by
  intro x hx
  exact h x (hs.subset hx)

/-- What is placed of that which waited: operators. -/
theorem Waits.takeWhile (h : Waits waiting) (hp : p .lparen = false) :
    ∀ t ∈ waiting.takeWhile p, 0 < rank t := by
  intro t ht
  rcases h t (List.takeWhile_subset p ht) with rfl | hrank
  · rw [List.mem_takeWhile_imp ht] at hp
    cases hp
  · exact hrank

/-- The tokens placed have the terms of those read, in their order, and no parenthesis. -/
structure Places (read placed : List Token) : Prop where
  noParens : ∀ t ∈ placed, t ≠ .lparen ∧ t ≠ .rparen
  terms : placed.filter isTerm = read.filter isTerm

theorem Places.append {as bs xs ys : List Token} (hx : Places as xs) (hy : Places bs ys) :
    Places (as ++ bs) (xs ++ ys) where
  noParens t ht := by
    rcases List.mem_append.mp ht with ht | ht
    · exact hx.noParens t ht
    · exact hy.noParens t ht
  terms := by rw [List.filter_append, List.filter_append, hx.terms, hy.terms]

/-- Operators alone are placed where no term is read. -/
theorem places_operators {read placed : List Token} (hread : ∀ t ∈ read, isTerm t = false)
    (h : ∀ t ∈ placed, 0 < rank t) : Places read placed where
  noParens t ht := by
    have hrank := h t ht
    constructor <;> rintro rfl <;> simp [rank] at hrank
  terms := by
    have hplaced : placed.filter isTerm = [] := by
      apply List.filter_eq_nil_iff.mpr
      intro t ht
      simp [not_isTerm_of_rank (h t ht)]
    have hnone : read.filter isTerm = [] := by
      apply List.filter_eq_nil_iff.mpr
      intro t ht
      simp [hread t ht]
    rw [hplaced, hnone]

theorem Waits.advance (h : Waits waiting) (t : Token) :
    Places [t] (advance waiting t).2 ∧ Waits (advance waiting t).1 := by
  by_cases ht : 0 < rank t
  · have hterm : ∀ x ∈ [t], isTerm x = false := by
      intro x hx
      obtain rfl := List.mem_singleton.mp hx
      exact not_isTerm_of_rank ht
    rw [advance_operator ht]
    constructor
    · exact places_operators hterm (h.takeWhile (yields_lparen ht))
    · exact (h.suffix (List.dropWhile_suffix _)).cons (Or.inr ht)
  · cases t with
    | term text => exact ⟨⟨by simp [Query.advance], rfl⟩, h⟩
    | lparen => exact ⟨⟨by simp [Query.advance], rfl⟩, h.cons (Or.inl rfl)⟩
    | rparen =>
      have hrest : (waiting.dropWhile (· != Token.lparen)).drop 1 <:+ waiting :=
        (List.drop_suffix 1 _).trans (List.dropWhile_suffix _)
      constructor
      · exact places_operators (by simp [isTerm]) (h.takeWhile (by simp))
      · exact h.suffix hrest
    | _ => simp [rank] at ht

/-- Read to the end, tokens are placed so as long as operators and parentheses alone wait. -/
theorem Waits.polishFrom (h : Waits waiting) (ts : List Token) :
    Places ts (polishFrom waiting ts) := by
  induction ts generalizing waiting with
  | nil =>
    apply places_operators (by simp)
    intro t ht
    obtain ⟨hmem, hne⟩ := List.mem_filter.mp ht
    rcases h t hmem with rfl | hrank
    · simp at hne
    · exact hrank
  | cons t ts ih =>
    obtain ⟨hplaces, hwaits⟩ := h.advance t
    rw [polishFrom_cons]
    exact hplaces.append (ih hwaits)

end Order

theorem count_polish (hl : op ≠ .lparen) (hr : op ≠ .rparen) (ts : List Token) :
    (polish ts).count op = ts.count op := by
  have hcount := countP_polishFrom (p := (· == op)) (by simpa using hl.symm)
    (by simpa using hr.symm) [] ts
  simpa [polish, List.count] using hcount

/-- Whatever the tokens, their polish order has no parenthesis, the same terms in the same order,
and each operator as many times. -/
theorem polish_conserves (ts : List Token) :
    .lparen ∉ polish ts ∧ .rparen ∉ polish ts ∧
      (polish ts).filter isTerm = ts.filter isTerm ∧
      (polish ts).count .and = ts.count .and ∧ (polish ts).count .or = ts.count .or ∧
      (polish ts).count .not = ts.count .not := by
  obtain ⟨hparens, hterms⟩ := waits_nil.polishFrom ts
  refine ⟨fun h => (hparens _ h).1 rfl, fun h => (hparens _ h).2 rfl, hterms, ?_, ?_, ?_⟩
  · exact count_polish (by simp) (by simp) ts
  · exact count_polish (by simp) (by simp) ts
  · exact count_polish (by simp) (by simp) ts

end Linkshelf.Query
