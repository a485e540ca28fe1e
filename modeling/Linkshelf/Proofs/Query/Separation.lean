import Mathlib.Data.List.Induction
import Linkshelf.Proofs.Query.Conservation
import Linkshelf.Proofs.Query.UnderstoodAnd

/-! The understood ANDs, once they are there: in which places they stand, whether they are supplied
token by token or all at once, and that they keep terms apart. -/
namespace Linkshelf.Query

variable {a b t : Token} {ts ys zs : List Token}

/-- One token more on the tokens put out so far, whose last one decides whether an AND goes before
it. -/
def supply (out : List Token) (t : Token) : List Token := out ++ (joint out [t] ++ [t])

theorem supply_insertAnds (ts : List Token) (t : Token) :
    supply (insertAnds ts) t = insertAnds (ts ++ [t]) := by
  have hjoint := joint_insertAnds ts [t]
  rw [insertAnds_singleton] at hjoint
  rw [supply, hjoint, insertAnds_join, insertAnds_singleton]

/-- An AND that was supplied neither hides the place of a later one nor makes one. -/
theorem foldl_supply (ts : List Token) : ts.foldl supply [] = insertAnds ts := by
  induction ts using List.reverseRecOn with
  | nil => rfl
  | append_singleton ts t ih =>
    rw [List.foldl_append, ih, List.foldl_cons, List.foldl_nil, supply_insertAnds]

theorem cons_joint (a : Token) (ts : List Token) :
    a :: joint [a] ts = if a.closes && ts[0]?.any Token.opens then [a, .and] else [a] := by
  rw [joint, List.getLast?_singleton, Option.any_some, List.head?_eq_getElem?]
  split <;> rfl

theorem insertAnds_eq_flatten (ts : List Token) :
    insertAnds ts = (ts.mapIdx fun i t =>
      if t.closes && ts[i + 1]?.any Token.opens then [t, .and] else [t]).flatten := by
  induction ts with
  | nil => rfl
  | cons a ts ih =>
    have hjoin := insertAnds_join [a] ts
    rw [insertAnds_singleton, List.singleton_append, List.singleton_append] at hjoin
    rw [hjoin, List.mapIdx_cons, List.flatten_cons]
    simp only [List.getElem?_cons_succ, ← cons_joint, ← ih, List.cons_append]

theorem joins_iff : joins t = true ↔ t = .and ∨ t = .or := by
  cases t <;> simp [joins]

/-- After the end of an operand, and as long as operands are apart, closing parentheses alone come
before an AND or OR. -/
theorem exists_joins_between (h : (a :: (ys ++ b :: zs)).IsChain Apart) (ha : a.closes = true)
    (hb : b.opens = true) : ∃ t ∈ ys, joins t = true := by
  induction ys generalizing a with
  | nil =>
    obtain ⟨hab, -⟩ := List.isChain_cons_cons.mp h
    simp [Apart, ha, hb] at hab
  | cons y ys ih =>
    obtain ⟨hay, hrest⟩ := List.isChain_cons_cons.mp h
    have hopens : y.opens = false := by simpa [Apart, ha] using hay
    cases y with
    | and => exact ⟨.and, List.mem_cons_self, rfl⟩
    | or => exact ⟨.or, List.mem_cons_self, rfl⟩
    | rparen =>
      -- it ends an operand again, so the rest of the way starts as this one did
      obtain ⟨t, ht, hjoins⟩ := ih hrest rfl
      exact ⟨t, List.mem_cons_of_mem _ ht, hjoins⟩
    | term | lparen | not => cases hopens

/-- The tokens with one AND after each that ends an operand where the next one starts one, and no
other. The pass from the left that looks at the end of its own output gives the same, and a second
pass changes nothing. Between any two terms there is an AND or OR then. -/
theorem insertAnds_separates (ts : List Token) :
    insertAnds ts = (ts.mapIdx fun i t =>
      if t.closes && ts[i + 1]?.any Token.opens then [t, .and] else [t]).flatten ∧
    ts.foldl supply [] = insertAnds ts ∧
    insertAnds (insertAnds ts) = insertAnds ts ∧
    ∀ xs a ys b zs, insertAnds ts = xs ++ .term a :: (ys ++ .term b :: zs) →
      ∃ t ∈ ys, t = .and ∨ t = .or := by
  have hapart := insertAnds_apart ts
  refine ⟨insertAnds_eq_flatten ts, foldl_supply ts, insertAnds_of_apart hapart, ?_⟩
  intro xs a ys b zs hts
  rw [hts] at hapart
  obtain ⟨t, ht, hjoins⟩ := exists_joins_between hapart.right_of_append rfl rfl
  exact ⟨t, ht, joins_iff.mp hjoins⟩

/-- A closing parenthesis that matches nothing ends an operand, and a NOT in a group starts one. -/
theorem insertAnds_separates_crowded :
    insertAnds [.not, .term "a", .rparen, .lparen, .not, .term "b"] =
      [.not] ++ .term "a" :: ([.rparen, .and, .lparen, .not] ++ .term "b" :: []) ∧
    ∃ t ∈ [Token.rparen, .and, .lparen, .not], t = .and ∨ t = .or := by
  have hts : insertAnds [.not, .term "a", .rparen, .lparen, .not, .term "b"] =
      [.not] ++ .term "a" :: ([.rparen, .and, .lparen, .not] ++ .term "b" :: []) := by decide
  obtain ⟨-, -, -, hbetween⟩ :=
    insertAnds_separates [.not, .term "a", .rparen, .lparen, .not, .term "b"]
  exact ⟨hts, hbetween _ _ _ _ _ hts⟩

end Linkshelf.Query
