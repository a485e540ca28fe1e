import Linkshelf.Proofs.Query.FailOpen
import Linkshelf.Proofs.Query.Lexeme

/-! Every way to spell an expression as a query has the expression's value. -/
namespace Linkshelf.Query

/-- The ways to spell an expression where a level is asked for: an AND may be left out,
parentheses may enclose anything, and equal operators may be grouped either way. -/
inductive Spells : Level → Expr → List Lexeme → Prop
  | word (cs : List Char) (h : IsWord cs) : Spells .atom (.term (.ofList cs)) [.word cs h]
  | phrase (cs : List Char) (h : '"' ∉ cs) : Spells .atom (.term (.ofList cs)) [.phrase cs h]
  | group {e xs} : Spells .or e xs → Spells .atom e (.lparen :: (xs ++ [.rparen]))
  | atom {e xs} : Spells .atom e xs → Spells .not e xs
  | not {e xs} (cs : List Char) (h : Keyword.not.IsSpelled cs) :
      Spells .not e xs → Spells .not (.not e) (.keyword .not cs h :: xs)
  | single {e xs} : Spells .not e xs → Spells .and e xs
  | and {a b xs ys} (cs : List Char) (h : Keyword.and.IsSpelled cs) :
      Spells .and a xs → Spells .and b ys → Spells .and (.and a b) (xs ++ .keyword .and cs h :: ys)
  | understood {a b xs ys} :
      Spells .and a xs → Spells .and b ys → Spells .and (.and a b) (xs ++ ys)
  | branch {e xs} : Spells .and e xs → Spells .or e xs
  | or {a b xs ys} (cs : List Char) (h : Keyword.or.IsSpelled cs) :
      Spells .or a xs → Spells .or b ys → Spells .or (.or a b) (xs ++ .keyword .or cs h :: ys)

variable {e : Expr} {l : Level} {xs : List Lexeme} {q : String}

theorem Spells.isOperand (h : Spells l e xs) : IsOperand (xs.map Lexeme.token) := by
  induction h with
  | word cs h | phrase cs h => exact isOperand_term _
  | @group e xs _ _ => simpa [Lexeme.token] using isOperand_group (xs.map Lexeme.token)
  | atom _ ih | single _ ih | branch _ ih => exact ih
  | not cs h _ ih => exact ih.not
  | and cs h _ _ iha ihb => simpa [Lexeme.token, Keyword.token] using iha.append ihb [.and]
  | understood _ _ iha ihb => simpa using iha.append ihb []
  | or cs h _ _ iha ihb => simpa [Lexeme.token, Keyword.token] using iha.append ihb [.or]

/-- With the understood ANDs, the tokens of a spelling derive an expression of the same value. -/
theorem Spells.derives (h : Spells l e xs) :
    ∃ c, Derives l c (insertAnds (xs.map Lexeme.token)) ∧
      ∀ holds, c.value holds = e.value fun t => holds (Text.lower t) := by
  induction h with
  | word cs h => exact ⟨_, .term _, fun _ => rfl⟩
  | phrase cs h => exact ⟨_, .term _, fun _ => rfl⟩
  | @group e xs _ ih =>
    obtain ⟨c, hc, hv⟩ := ih
    refine ⟨c, ?_, hv⟩
    have htokens : insertAnds (Token.lparen :: (xs.map Lexeme.token ++ [.rparen])) =
        .lparen :: (insertAnds (xs.map Lexeme.token) ++ [.rparen]) := by
      rw [insertAnds_cons rfl, insertAnds_concat rfl]
    simpa [Lexeme.token, htokens] using hc.group
  | atom _ ih =>
    obtain ⟨c, hc, hv⟩ := ih
    exact ⟨c, .atom hc, hv⟩
  | @not e xs cs h _ ih =>
    obtain ⟨c, hc, hv⟩ := ih
    refine ⟨.not c, ?_, fun holds => by simp [Expr.value, hv]⟩
    simpa [Lexeme.token, Keyword.token, insertAnds_cons (a := .not) rfl] using hc.not
  | single _ ih =>
    obtain ⟨c, hc, hv⟩ := ih
    exact ⟨c, .single hc, hv⟩
  | @and a b xs ys cs h _ _ iha ihb =>
    obtain ⟨ca, hca, hva⟩ := iha
    obtain ⟨cb, hcb, hvb⟩ := ihb
    obtain ⟨c, hc, hv⟩ := hca.and_and hcb
    refine ⟨c, ?_, fun holds => by simp [Expr.value, hv, hva, hvb]⟩
    simpa [Lexeme.token, Keyword.token, insertAnds_operator (t := .and) rfl rfl] using hc
  | @understood a b xs ys ha hb iha ihb =>
    obtain ⟨ca, hca, hva⟩ := iha
    obtain ⟨cb, hcb, hvb⟩ := ihb
    obtain ⟨c, hc, hv⟩ := hca.and_and hcb
    refine ⟨c, ?_, fun holds => by simp [Expr.value, hv, hva, hvb]⟩
    rwa [List.map_append, insertAnds_operands ha.isOperand hb.isOperand]
  | branch _ ih =>
    obtain ⟨c, hc, hv⟩ := ih
    exact ⟨c, .branch hc, hv⟩
  | @or a b xs ys cs h _ _ iha ihb =>
    obtain ⟨ca, hca, hva⟩ := iha
    obtain ⟨cb, hcb, hvb⟩ := ihb
    obtain ⟨c, hc, hv⟩ := hca.or_or hcb
    refine ⟨c, ?_, fun holds => by simp [Expr.value, hv, hva, hvb]⟩
    simpa [Lexeme.token, Keyword.token, insertAnds_operator (t := .or) rfl rfl] using hc

theorem tokenize_trim (h : Written xs q.toList) :
    tokenize (Text.trim q) = insertAnds (xs.map Lexeme.token) := by
  have htrim : (Text.trim q).toList = Chars.trim q.toList := by simp [Text.trim]
  rw [tokenize, htrim, Scan.run_written h.trim]

/-- A query has the value of the expression it spells, a term holding when its lower-case form is
empty or a part of the text. -/
theorem evaluate_spelling (h : Spells .or e xs) (hq : Written xs q.toList) (text : String) :
    evaluate q text = e.value fun t => meets text (Text.lower t) := by
  obtain ⟨c, hc, hv⟩ := h.derives
  have hstack := hc.stackAfter_polish text
  rw [evaluate_eq_value, tokenize_trim hq, value, hstack]
  exact hv (meets text)

/-- A phrase before a keyword needs no blank, nor does a keyword before a parenthesis. -/
theorem evaluate_spelling_mixed :
    ∃ xs, Spells .or (.and (.or (.term "A b") (.term "go")) (.not (.term "x"))) xs ∧
      Written xs "(\"A b\"oR go )NOT(x)".toList ∧
      evaluate "(\"A b\"oR go )NOT(x)" "say a b" = true := by
  have hor : Keyword.or.IsSpelled ['o', 'R'] := by decide
  have hnot : Keyword.not.IsSpelled ['N', 'O', 'T'] := by decide
  have hphrase : '"' ∉ ['A', ' ', 'b'] := by decide
  have hgo : IsWord ['g', 'o'] := by decide
  have hx : IsWord ['x'] := by decide
  have hleft := Spells.group (.or _ hor (.branch (.single (.atom (.phrase _ hphrase))))
    (.branch (.single (.atom (.word _ hgo)))))
  have hright := Spells.not _ hnot (.atom (.group (.branch (.single (.atom (.word _ hx))))))
  have hs := Spells.branch (.understood (.single (.atom hleft)) (.single hright))
  have hnone : IsGap [] := by simp [IsGap]
  have hblank : IsGap [' '] := by simp [IsGap, isBlank]
  have h1 := Written.cons (x := .rparen) hnone (by simp [Lexeme.isOpen]) (.nil hnone)
  have h2 := Written.cons (x := .word _ hx) hnone (fun _ => breaks_cons (by decide) _) h1
  have h3 := Written.cons (x := .lparen) hnone (by simp [Lexeme.isOpen]) h2
  have h4 := Written.cons (x := .keyword _ _ hnot) hnone (fun _ => breaks_cons (by decide) _) h3
  have h5 := Written.cons (x := .rparen) hblank (by simp [Lexeme.isOpen]) h4
  have h6 := Written.cons (x := .word _ hgo) hblank (fun _ => breaks_cons (by decide) _) h5
  have h7 := Written.cons (x := .keyword _ _ hor) hnone (fun _ => breaks_cons (by decide) _) h6
  have h8 := Written.cons (x := .phrase _ hphrase) hnone (by simp [Lexeme.isOpen]) h7
  have hw : Written _ "(\"A b\"oR go )NOT(x)".toList :=
    Written.cons (x := .lparen) hnone (by simp [Lexeme.isOpen]) h8
  refine ⟨_, hs, hw, ?_⟩
  rw [evaluate_spelling hs hw]
  decide +kernel

end Linkshelf.Query
