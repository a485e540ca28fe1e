import Mathlib.Data.List.Chain
import Linkshelf.Query.Token

/-! Where an AND is understood between two tokens. -/
namespace Linkshelf.Query

variable {a b t : Token} {ts xs ys : List Token}

/-- The AND understood between two neighbours. -/
def between (a b : Token) : List Token := if a.closes && b.opens then [.and] else []

theorem insertAnds_cons_cons (a b : Token) (ts : List Token) :
    insertAnds (a :: b :: ts) = a :: (between a b ++ insertAnds (b :: ts)) := by
  by_cases h : (a.closes && b.opens) = true <;> simp [insertAnds, between, h]

theorem insertAnds_singleton (a : Token) : insertAnds [a] = [a] := rfl

theorem insertAnds_append (xs : List Token) (a b : Token) (ys : List Token) :
    insertAnds (xs ++ a :: b :: ys) =
      insertAnds (xs ++ [a]) ++ (between a b ++ insertAnds (b :: ys)) := by
  induction xs with
  | nil => exact insertAnds_cons_cons a b ys
  | cons x xs ih =>
    cases xs with
    | nil => simp [insertAnds_cons_cons, insertAnds_singleton]
    | cons y xs => simpa [insertAnds_cons_cons] using ih

/-- The AND understood where tokens go on with others. -/
def joint (xs ys : List Token) : List Token :=
  if xs.getLast?.any Token.closes && ys.head?.any Token.opens then [.and] else []

theorem insertAnds_join (xs ys : List Token) :
    insertAnds (xs ++ ys) = insertAnds xs ++ (joint xs ys ++ insertAnds ys) := by
  rcases List.eq_nil_or_concat xs with rfl | ⟨xs, a, rfl⟩
  · rfl
  · cases ys with
    | nil => simp [joint, insertAnds]
    | cons b ys => simpa [joint, between] using insertAnds_append xs a b ys

theorem head?_insertAnds (ts : List Token) : (insertAnds ts).head? = ts.head? := by
  rcases ts with _ | ⟨a, _ | ⟨b, ts⟩⟩
  · rfl
  · rfl
  · rw [insertAnds_cons_cons, List.head?_cons, List.head?_cons]

theorem getLast?_insertAnds (ts : List Token) : (insertAnds ts).getLast? = ts.getLast? := by
  rcases List.eq_nil_or_concat ts with rfl | ⟨ts, a, rfl⟩
  · rfl
  · rw [List.concat_eq_append, insertAnds_join, insertAnds_singleton]
    simp

/-- The ANDs inside of two lists do not decide about the one between them. -/
theorem joint_insertAnds (xs ys : List Token) :
    joint (insertAnds xs) (insertAnds ys) = joint xs ys := by
  rw [joint, getLast?_insertAnds, head?_insertAnds, joint]

theorem insertAnds_cons (h : a.closes = false) (ts : List Token) :
    insertAnds (a :: ts) = a :: insertAnds ts := by
  simpa [joint, h, insertAnds_singleton] using insertAnds_join [a] ts

theorem insertAnds_concat (h : b.opens = false) (ts : List Token) :
    insertAnds (ts ++ [b]) = insertAnds ts ++ [b] := by
  simpa [joint, h, insertAnds_singleton] using insertAnds_join ts [b]

/-- A token with which an operand neither ends nor starts keeps both sides apart. -/
theorem insertAnds_operator (hc : t.closes = false) (ho : t.opens = false) (xs ys : List Token) :
    insertAnds (xs ++ t :: ys) = insertAnds xs ++ t :: insertAnds ys := by
  simpa [joint, ho, insertAnds_cons hc] using insertAnds_join xs (t :: ys)

/-- Tokens that read as an operand from the first to the last. -/
structure IsOperand (ts : List Token) : Prop where
  starts : ∃ t rest, ts = t :: rest ∧ t.opens = true
  ends : ∃ rest t, ts = rest ++ [t] ∧ t.closes = true

theorem isOperand_term (text : String) : IsOperand [.term text] :=
  ⟨⟨_, [], rfl, rfl⟩, ⟨[], _, rfl, rfl⟩⟩

theorem isOperand_group (ts : List Token) : IsOperand (.lparen :: (ts ++ [.rparen])) :=
  ⟨⟨_, _, rfl, rfl⟩, ⟨.lparen :: ts, _, rfl, rfl⟩⟩

theorem IsOperand.not (h : IsOperand ts) : IsOperand (.not :: ts) := by
  obtain ⟨rest, t, rfl, ht⟩ := h.ends
  exact ⟨⟨_, _, rfl, rfl⟩, ⟨.not :: rest, t, rfl, ht⟩⟩

theorem IsOperand.append (hx : IsOperand xs) (hy : IsOperand ys) (ts : List Token) :
    IsOperand (xs ++ (ts ++ ys)) := by
  obtain ⟨a, xs, rfl, ha⟩ := hx.starts
  obtain ⟨ys, b, rfl, hb⟩ := hy.ends
  exact ⟨⟨a, xs ++ (ts ++ (ys ++ [b])), rfl, ha⟩, ⟨a :: (xs ++ (ts ++ ys)), b, by simp, hb⟩⟩

/-- Between two operands an AND is understood. -/
theorem insertAnds_operands (hx : IsOperand xs) (hy : IsOperand ys) :
    insertAnds (xs ++ ys) = insertAnds xs ++ .and :: insertAnds ys := by
  obtain ⟨xs, a, rfl, ha⟩ := hx.ends
  obtain ⟨b, ys, rfl, hb⟩ := hy.starts
  simpa [joint, ha, hb] using insertAnds_join (xs ++ [a]) (b :: ys)

/-- No operand ends just before another one starts. -/
def Apart (a b : Token) : Prop := (a.closes && b.opens) = false

theorem insertAnds_apart (ts : List Token) : (insertAnds ts).IsChain Apart := by
  induction ts with
  | nil => exact .nil
  | cons a ts ih =>
    cases ts with
    | nil => exact .singleton a
    | cons b ts =>
      have hhead := head?_insertAnds (b :: ts)
      rw [insertAnds_cons_cons]
      by_cases h : (a.closes && b.opens) = true
      · have hand : ∀ y ∈ (insertAnds (b :: ts)).head?, Apart .and y := by
          simp [Apart, Token.closes]
        simp only [between, h, if_true, List.singleton_append, List.isChain_cons_cons]
        exact ⟨by simp [Apart, Token.opens], List.isChain_cons.mpr ⟨hand, ih⟩⟩
      · have hab : Apart a b := by simpa [Apart] using h
        simp only [between, h, if_false, List.nil_append, Bool.false_eq_true]
        exact List.isChain_cons.mpr ⟨by simpa [hhead] using hab, ih⟩

theorem insertAnds_of_apart (h : ts.IsChain Apart) : insertAnds ts = ts := by
  induction ts with
  | nil => rfl
  | cons a ts ih =>
    cases ts with
    | nil => rfl
    | cons b ts =>
      obtain ⟨hab, hts⟩ := List.isChain_cons_cons.mp h
      have hnone : (a.closes && b.opens) = false := hab
      rw [insertAnds_cons_cons, ih hts, between, hnone]
      rfl

/-- No AND is understood just where operands are kept apart. -/
theorem insertAnds_eq_self_iff : insertAnds ts = ts ↔ ts.IsChain Apart := by
  constructor
  · intro h
    have hapart := insertAnds_apart ts
    rwa [h] at hapart
  · exact insertAnds_of_apart

end Linkshelf.Query
