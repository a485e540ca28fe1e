import Mathlib.Data.List.Infix
import Linkshelf.Query.Polish

/-! Boolean expressions, their value on a text and the grammar of the tokens that name them. -/
namespace Linkshelf.Query

inductive Expr where
  | term (text : String)
  | not (e : Expr)
  | and (a b : Expr)
  | or (a b : Expr)
  deriving DecidableEq, Repr

/-- The value of an expression, once it is known which terms hold. -/
def Expr.value (holds : String → Bool) : Expr → Bool
  | term text => holds text
  | not e => !e.value holds
  | and a b => a.value holds && b.value holds
  | or a b => a.value holds || b.value holds

/-- A term holds on a text when it is empty or a contiguous part of the text. -/
def meets (text term : String) : Bool := decide (term = "" ∨ term.toList <:+: text.toList)

inductive Level where
  | or
  | and
  | not
  | atom
  deriving DecidableEq, Repr

/-- NOT binds tightest, then AND, then OR. AND and OR join any number of operands, the first two
first; parentheses make an atom of any expression. -/
inductive Derives : Level → Expr → List Token → Prop
  | term (text : String) : Derives .atom (.term text) [.term text]
  | group {e ts} : Derives .or e ts → Derives .atom e (.lparen :: (ts ++ [.rparen]))
  | atom {e ts} : Derives .atom e ts → Derives .not e ts
  | not {e ts} : Derives .not e ts → Derives .not (.not e) (.not :: ts)
  | single {e ts} : Derives .not e ts → Derives .and e ts
  | and {a b as bs} : Derives .and a as → Derives .not b bs →
      Derives .and (.and a b) (as ++ .and :: bs)
  | branch {e ts} : Derives .and e ts → Derives .or e ts
  | or {a b as bs} : Derives .or a as → Derives .and b bs → Derives .or (.or a b) (as ++ .or :: bs)

theorem occurs_iff_infix {needle text : List Char} :
    Chars.occurs needle text = true ↔ needle <:+: text := by
  induction text with
  | nil => simp [Chars.occurs]
  | cons c text ih => simp [Chars.occurs, ih, List.infix_cons_iff]

theorem meets_eq (text term : String) :
    meets text term = (term.isEmpty || Text.occurs term text) := by
  have hocc : Text.occurs term text = true ↔ term.toList <:+: text.toList := occurs_iff_infix
  rw [Bool.eq_iff_iff]
  simp [meets, hocc]

variable {e a b : Expr} {ts as bs : List Token}

/-- An AND goes to the last operand of an OR. -/
theorem Derives.or_and (ha : Derives .or a as) (hb : Derives .not b bs) :
    ∃ e, Derives .or e (as ++ .and :: bs) := by
  cases ha with
  | branch ha => exact ⟨_, .branch (.and ha hb)⟩
  | @or _ c _ cs hx hc =>
    have h := Derives.or hx (.and hc hb)
    exact ⟨_, by simpa using h⟩

/-- Operands may be grouped to the right as well: the value is the same. -/
theorem Derives.and_and (ha : Derives .and a as) (hb : Derives .and b bs) :
    ∃ e, Derives .and e (as ++ .and :: bs) ∧
      ∀ holds, e.value holds = (a.value holds && b.value holds) := by
  generalize hl : Level.and = l at hb
  induction hb with
  | single hb => exact ⟨_, .and ha hb, fun _ => rfl⟩
  | @and c d cs ds hc hd ihc _ =>
    obtain ⟨e, he, hv⟩ := ihc hl
    have h := Derives.and he hd
    refine ⟨.and e d, by simpa using h, fun holds => ?_⟩
    simp [Expr.value, hv, Bool.and_assoc]
  | _ => cases hl

theorem Derives.or_or (ha : Derives .or a as) (hb : Derives .or b bs) :
    ∃ e, Derives .or e (as ++ .or :: bs) ∧
      ∀ holds, e.value holds = (a.value holds || b.value holds) := by
  generalize hl : Level.or = l at hb
  induction hb with
  | branch hb => exact ⟨_, .or ha hb, fun _ => rfl⟩
  | @or c d cs ds hc hd ihc _ =>
    obtain ⟨e, he, hv⟩ := ihc hl
    have h := Derives.or he hd
    refine ⟨.or e d, by simpa using h, fun holds => ?_⟩
    simp [Expr.value, hv, Bool.or_assoc]
  | _ => cases hl

end Linkshelf.Query
