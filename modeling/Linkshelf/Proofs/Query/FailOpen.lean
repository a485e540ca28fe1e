import Linkshelf.Proofs.Query.Balance
import Linkshelf.Proofs.Query.Conservation
import Linkshelf.Proofs.Query.Delimiters
import Linkshelf.Proofs.Query.UnderstoodAnd
import Linkshelf.Query.Basic

/-! Which queries have a value of their own; any other matches every text. -/
namespace Linkshelf.Query

variable {text : String} {ts : List Token} {stack rest : List Bool}

theorem length_push {t : Token} (h : push text t stack = some rest) :
    rest.length + [t].countP joins = stack.length + [t].countP isTerm := by
  revert h
  fun_cases push text t stack <;> intro h <;> cases h <;> simp [joins, isTerm]

/-- Every term adds a value to the stack and every AND and OR takes one away. -/
theorem length_stackAfter (h : stackAfter text stack ts = some rest) :
    rest.length + ts.countP joins = stack.length + ts.countP isTerm := by
  induction ts generalizing stack with
  | nil =>
    obtain rfl : stack = rest := by simpa [stackAfter] using h
    rfl
  | cons t ts ih =>
    obtain ⟨next, hpush, hnext⟩ := Option.bind_eq_some_iff.mp h
    have hlen := ih hnext
    have hstep := length_push hpush
    rw [← List.singleton_append, List.countP_append, List.countP_append]
    omega

/-- Where no operand follows another one directly, there are at most as many terms as operators
and one more, and then only if every token is in its place. -/
theorem inPlace_of_countP (h : ts.IsChain Apart) :
    (ts.countP isTerm ≤ ts.countP joins + 1 ∧
      (ts.countP isTerm = ts.countP joins + 1 → inPlace true ts = true)) ∧
    ((∀ t ∈ ts.head?, t.opens = false) → ts.countP isTerm ≤ ts.countP joins ∧
      (ts.countP isTerm = ts.countP joins → inPlace false ts = true)) := by
  -- A token leaves the count open to what follows it; a misplaced one makes it fall short for good.
  induction ts with
  | nil => simp [inPlace]
  | cons t ts ih =>
    obtain ⟨hnext, hts⟩ := List.isChain_cons.mp h
    obtain ⟨hdue, hdone⟩ := ih hts
    have hclosed (hc : t.closes = true) := hdone fun u hu => by simpa [Apart, hc] using hnext u hu
    cases t with
    | term s =>
      obtain ⟨hle, hin⟩ := hclosed rfl
      refine ⟨⟨?_, ?_⟩, fun ho => by simp [Token.opens] at ho⟩
      · simpa [List.countP_cons, isTerm, joins] using hle
      · simpa [List.countP_cons, isTerm, joins, inPlace] using hin
    | rparen =>
      obtain ⟨hle, hin⟩ := hclosed rfl
      simp only [List.countP_cons, isTerm, joins, inPlace, Bool.false_eq_true, if_false]
      exact ⟨⟨by omega, fun heq => by omega⟩, fun _ => ⟨by omega, hin⟩⟩
    | lparen | not => simpa [isTerm, joins, inPlace, Token.opens] using hdue
    | and | or =>
      obtain ⟨hle, hin⟩ := hdue
      simp only [List.countP_cons, isTerm, joins, inPlace, Bool.false_eq_true, if_false, if_true]
      exact ⟨⟨by omega, fun heq => by omega⟩, fun _ => ⟨by omega, fun heq => hin (by omega)⟩⟩

/-- A value that is left on the stack is that of an expression. -/
theorem complete_of_stackAfter {v : Bool} (hts : ts.IsChain Apart)
    (h : stackAfter text [] (polish ts) = some (v :: rest)) : Complete (balanced ts) := by
  have hlen := length_stackAfter h
  have hterm := countP_polishFrom (p := isTerm) rfl rfl [] ts
  have hjoin := countP_polishFrom (p := joins) rfl rfl [] ts
  rw [polish, hterm, hjoin] at hlen
  simp only [List.length_cons, List.length_nil, List.countP_nil] at hlen
  obtain ⟨⟨hle, hin⟩, _⟩ := inPlace_of_countP hts
  exact complete_balanced (hin (by omega))

theorem Derives.isOperand {l : Level} {e : Expr} (h : Derives l e ts) : IsOperand ts := by
  induction h with
  | term text => exact isOperand_term text
  | @group e ts _ _ => exact isOperand_group ts
  | atom _ ih | single _ ih | branch _ ih => exact ih
  | not _ ih => exact ih.not
  | and _ _ iha ihb => exact iha.append ihb [.and]
  | or _ _ iha ihb => exact iha.append ihb [.or]

theorem evaluate_eq_value (q text : String) :
    evaluate q text = value (polish (tokenize (Text.trim q))) text := by
  rw [evaluate, matchesText, parse]

/-- A query that the grammar derives, once its missing parentheses are there, has its value alone
on the stack; any other one matches. -/
theorem evaluate_balanced (q : String) :
    (∀ e, Derives .or e (balanced (tokenize (Text.trim q))) → ∀ text,
      stackAfter text [] (parse q).tokens = some [e.value (meets text)] ∧
        evaluate q text = e.value (meets text)) ∧
    ((¬ ∃ e, Derives .or e (balanced (tokenize (Text.trim q)))) →
      ∀ text, evaluate q text = true) := by
  have hapart : (tokenize (Text.trim q)).IsChain Apart := insertAnds_apart _
  have htokens : (parse q).tokens = polish (tokenize (Text.trim q)) := by
    rw [parse]
  simp only [evaluate_eq_value, htokens]
  generalize tokenize (Text.trim q) = ts at hapart
  constructor
  · intro e he text
    have hstack := he.stackAfter_polish text
    rw [balanced, polish_bracket] at hstack
    exact ⟨hstack, by rw [value, hstack]⟩
  · intro hno text
    have hopen : ∀ v rest, stackAfter text [] (polish ts) ≠ some (v :: rest) :=
      fun v rest h => hno (complete_of_stackAfter hapart h)
    cases hstack : stackAfter text [] (polish ts) with
    | none => rw [value, hstack]
    | some stack =>
      cases stack with
      | nil => rw [value, hstack]
      | cons v rest => exact absurd hstack (hopen v rest)

/-- Parentheses are supplied on both sides, and an operator without its operand matches. -/
theorem evaluate_balanced_unmatched :
    Derives .or (.and (.term "a") (.term "b")) (balanced (tokenize (Text.trim "a) (b"))) ∧
      evaluate "a) (b" "only a" = false ∧
      (¬ ∃ e, Derives .or e (balanced (tokenize (Text.trim "zzz OR")))) ∧
      evaluate "zzz OR" "text" = true := by
  have hand : balanced (tokenize (Text.trim "a) (b")) =
      [.lparen, .term "a", .rparen, .and, .lparen, .term "b", .rparen] := by decide +kernel
  have hor : balanced (tokenize (Text.trim "zzz OR")) = [.term "zzz"] ++ [.or] := by
    decide +kernel
  have ha := Derives.group (.branch (.single (.atom (.term "a"))))
  have hb := Derives.group (.branch (.single (.atom (.term "b"))))
  have hderives : Derives .or (.and (.term "a") (.term "b"))
      (balanced (tokenize (Text.trim "a) (b"))) := by
    rw [hand]
    exact .branch (.and (.single (.atom ha)) (.atom hb))
  have hno : ¬ ∃ e, Derives .or e (balanced (tokenize (Text.trim "zzz OR"))) := by
    rintro ⟨e, he⟩
    obtain ⟨rest, t, heq, ht⟩ := he.isOperand.ends
    obtain ⟨-, hlast⟩ := List.append_inj' (hor.symm.trans heq) rfl
    obtain rfl : .or = t := by simpa using hlast
    simp [Token.closes] at ht
  refine ⟨hderives, ?_, hno, (evaluate_balanced "zzz OR").2 hno "text"⟩
  rw [((evaluate_balanced "a) (b").1 _ hderives "only a").2]
  decide +kernel

end Linkshelf.Query
