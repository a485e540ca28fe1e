import Linkshelf.Proofs.Query.UnderstoodAnd

/-! A query scanned part by part: what the scanner gives out on the way through one part, and how
its tokens go on with those of the next part. -/
namespace Linkshelf.Query

variable {q : String} {c : Char}

namespace Scan

variable {s : Scan} {cs : List Char}

/-- The tokens given out on the way through the characters. -/
def given (s : Scan) : List Char → List Token
  | [] => []
  | c :: cs => (s.step c).2 ++ given (s.step c).1 cs

theorem run_append (s : Scan) (cs ds : List Char) :
    s.run (cs ++ ds) = s.given cs ++ (s.after cs).run ds := by
  induction cs generalizing s with
  | nil => rfl
  | cons c cs ih => rw [List.cons_append, run, given, after, ih, List.append_assoc]

theorem run_eq (s : Scan) (cs : List Char) : s.run cs = s.given cs ++ (s.after cs).finish := by
  have h := run_append s cs []
  rwa [List.append_nil] at h

/-- Whether a phrase is open. -/
def isInPhrase : Scan → Bool
  | phrase _ => true
  | _ => false

/-- A blank ends a word, and it is scanned on as from the start. -/
theorem run_blank (hs : s.isInPhrase = false) (hc : isBlank c = true) (cs : List Char) :
    s.run (c :: cs) = s.finish ++ gap.run cs := by
  cases s with
  | gap => simp [run, step, stepGap, finish, hc]
  | word read => simp [run, step, finish, hc]
  | phrase read => cases hs

/-- A quote ends an open phrase as the end of the query does. -/
theorem run_quote (hs : s.isInPhrase = true) : s.run ['"'] = s.finish := by
  cases s with
  | gap | word read => cases hs
  | phrase read => simp [run, step, finish]

theorem run_append_blank (hs : (s.after cs).isInPhrase = false) (hc : isBlank c = true)
    (ds : List Char) : s.run (cs ++ c :: ds) = s.run cs ++ gap.run ds := by
  rw [run_append, run_blank hs hc, run_eq s cs, List.append_assoc]

theorem run_append_quote (hs : (s.after cs).isInPhrase = true) :
    s.run (cs ++ ['"']) = s.run cs := by
  rw [run_append, run_quote hs, run_eq s cs]

end Scan

/-- The query ends inside a phrase, its closing quote missing. -/
def EndsInPhrase (q : String) : Prop := (Scan.gap.after q.toList).isInPhrase = true

instance (q : String) : Decidable (EndsInPhrase q) := inferInstanceAs (Decidable (_ = _))

theorem tokenize_append_quote (h : EndsInPhrase q) : tokenize (q ++ "\"") = tokenize q := by
  have hrun := Scan.run_append_quote h
  simp only [tokenize, String.toList_append]
  exact congrArg insertAnds hrun

/-- The tokens of two queries with a blank between them are those of the first and of the second,
with an AND between them just when an operand ends the first and one starts the second. -/
theorem tokenize_append_blank (a b : String) (h : ¬ EndsInPhrase a) :
    tokenize (a ++ " " ++ b) = tokenize a ++ joint (tokenize a) (tokenize b) ++ tokenize b := by
  have hphrase : (Scan.gap.after a.toList).isInPhrase = false := by simpa [EndsInPhrase] using h
  have hrun := Scan.run_append_blank hphrase (c := ' ') (by decide) b.toList
  have hchars : (a ++ " " ++ b).toList = a.toList ++ ' ' :: b.toList := by simp
  rw [tokenize, hchars, hrun, insertAnds_join, tokenize, tokenize, joint_insertAnds,
    List.append_assoc]

/-- An AND comes between a word with a quote inside, which opens no phrase, and a phrase that looks
like an operator. -/
theorem tokenize_append_blank_quoted :
    ¬ EndsInPhrase "(it\"s" ∧
      tokenize ("(it\"s" ++ " " ++ "\"NOT\" x)") =
        [.lparen, .term "it\"s"] ++ [.and] ++ [.term "not", .and, .term "x", .rparen] := by
  have hends : ¬ EndsInPhrase "(it\"s" := by decide +kernel
  refine ⟨hends, ?_⟩
  rw [tokenize_append_blank _ _ hends]
  decide +kernel

end Linkshelf.Query
