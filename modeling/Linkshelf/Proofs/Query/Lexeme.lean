import Mathlib.Data.List.DropRight
import Linkshelf.Proofs.Text.Lowercase
import Linkshelf.Query.Token

/-! How a query is written, character by character, and that the scanner reads what was written. -/
namespace Linkshelf.Query

inductive Keyword where
  | and
  | or
  | not
  deriving DecidableEq, Repr

namespace Keyword

def token : Keyword → Token
  | and => .and
  | or => .or
  | not => .not

def chars : Keyword → List Char
  | and => ['a', 'n', 'd']
  | or => ['o', 'r']
  | not => ['n', 'o', 't']

/-- The keyword in any ASCII case. -/
def IsSpelled (k : Keyword) (cs : List Char) : Prop := cs.map Char.toLower = k.chars

instance (k : Keyword) (cs : List Char) : Decidable (k.IsSpelled cs) :=
  inferInstanceAs (Decidable (_ = _))

end Keyword

@[simp] theorem isBlank_lparen : isBlank '(' = false := by decide

@[simp] theorem isBlank_rparen : isBlank ')' = false := by decide

@[simp] theorem isBlank_quote : isBlank '"' = false := by decide

/-- A character that goes on with a word. -/
def IsPlain (c : Char) : Prop := isBlank c = false ∧ c ≠ '(' ∧ c ≠ ')'

instance (c : Char) : Decidable (IsPlain c) := inferInstanceAs (Decidable (_ ∧ _))

/-- What may stand for a term without quotes. -/
structure IsWord (cs : List Char) : Prop where
  nonempty : cs ≠ []
  plain : ∀ c ∈ cs, IsPlain c
  unquoted : cs.head? ≠ some '"'
  noKeyword : ∀ k : Keyword, ¬ k.IsSpelled cs

theorem isWord_iff {cs : List Char} :
    IsWord cs ↔ cs ≠ [] ∧ (∀ c ∈ cs, IsPlain c) ∧ cs.head? ≠ some '"' ∧
      ∀ k ∈ [Keyword.and, .or, .not], ¬ k.IsSpelled cs := by
  constructor
  · rintro ⟨hne, hp, hq, hk⟩
    exact ⟨hne, hp, hq, fun k _ => hk k⟩
  · rintro ⟨hne, hp, hq, hk⟩
    exact ⟨hne, hp, hq, fun k => hk k (by cases k <;> simp)⟩

instance (cs : List Char) : Decidable (IsWord cs) :=
  -- Not the instance that goes through all characters there are.
  have : Decidable (∀ c ∈ cs, IsPlain c) := List.decidableBAll IsPlain cs
  decidable_of_iff' _ isWord_iff

theorem toLower_eq_lparen_iff (c : Char) : c.toLower = '(' ↔ c = '(' :=
  Text.toLower_eq_iff (by decide +kernel) c

theorem toLower_eq_rparen_iff (c : Char) : c.toLower = ')' ↔ c = ')' :=
  Text.toLower_eq_iff (by decide +kernel) c

theorem toLower_eq_quote_iff (c : Char) : c.toLower = '"' ↔ c = '"' :=
  Text.toLower_eq_iff (by decide +kernel) c

theorem isPlain_toLower_iff (c : Char) : IsPlain c.toLower ↔ IsPlain c := by
  rw [IsPlain, IsPlain, Text.isBlank_toLower, ne_eq, ne_eq, toLower_eq_lparen_iff,
    toLower_eq_rparen_iff]

theorem Keyword.IsSpelled.plain {k : Keyword} {cs : List Char} (h : k.IsSpelled cs) :
    ∀ c ∈ cs, IsPlain c ∧ c ≠ '"' := by
  intro c hc
  have hmem : c.toLower ∈ k.chars := by
    rw [← show cs.map Char.toLower = k.chars from h]
    exact List.mem_map_of_mem hc
  have hk : ∀ d ∈ k.chars, IsPlain d ∧ d ≠ '"' := by
    cases k <;> simp [Keyword.chars, IsPlain, isBlank]
  obtain ⟨hplain, hquote⟩ := hk _ hmem
  exact ⟨(isPlain_toLower_iff c).mp hplain, mt (toLower_eq_quote_iff c).mpr hquote⟩

theorem Keyword.IsSpelled.ne_nil {k : Keyword} {cs : List Char} (h : k.IsSpelled cs) : cs ≠ [] := by
  rintro rfl
  cases k <;> simp [Keyword.IsSpelled, Keyword.chars] at h

theorem ofWord_keyword {k : Keyword} {cs : List Char} (h : k.IsSpelled cs) :
    Token.ofWord cs = k.token := by
  cases k <;> simp_all [Keyword.IsSpelled, Token.ofWord, Keyword.chars, Keyword.token]

theorem ofWord_term {cs : List Char} (h : ∀ k : Keyword, ¬ k.IsSpelled cs) :
    Token.ofWord cs = .term (Text.lower (.ofList cs)) := by
  have hand := h .and
  have hor := h .or
  have hnot := h .not
  simp_all [Keyword.IsSpelled, Keyword.chars, Token.ofWord]

/-- The pieces a query is written of. -/
inductive Lexeme where
  | word (cs : List Char) (proper : IsWord cs)
  | phrase (cs : List Char) (proper : '"' ∉ cs)
  | keyword (k : Keyword) (cs : List Char) (proper : k.IsSpelled cs)
  | lparen
  | rparen

namespace Lexeme

def chars : Lexeme → List Char
  | word cs _ | keyword _ cs _ => cs
  | phrase cs _ => '"' :: (cs ++ ['"'])
  | lparen => ['(']
  | rparen => [')']

def token : Lexeme → Token
  | word cs _ | phrase cs _ => .term (Text.lower (.ofList cs))
  | keyword k _ _ => k.token
  | lparen => .lparen
  | rparen => .rparen

/-- Whether a blank or a parenthesis has to end the lexeme. -/
def isOpen : Lexeme → Bool
  | word .. | keyword .. => true
  | _ => false

end Lexeme

/-- What may follow an open lexeme: the end, a blank or a parenthesis. -/
def Breaks : List Char → Prop
  | [] => True
  | c :: _ => ¬ IsPlain c

theorem breaks_cons {c : Char} (h : ¬ IsPlain c) (cs : List Char) : Breaks (c :: cs) := h

def IsGap (cs : List Char) : Prop := ∀ c ∈ cs, isBlank c = true

/-- The lexemes with any blanks before, between and after them, and with one where it is needed. -/
inductive Written : List Lexeme → List Char → Prop
  | nil {gap} : IsGap gap → Written [] gap
  | cons {gap x xs rest} : IsGap gap → (x.isOpen = true → Breaks rest) → Written xs rest →
      Written (x :: xs) (gap ++ x.chars ++ rest)

namespace Scan

variable {s : Scan} {read cs gap rest : List Char}

theorem run_gap_append (h : IsGap gap) (cs : List Char) :
    Scan.gap.run (gap ++ cs) = Scan.gap.run cs := by
  induction gap with
  | nil => rfl
  | cons c gap ih =>
    have hc : isBlank c = true := h c (by simp)
    have hgap : IsGap gap := fun d hd => h d (by simp [hd])
    simp [run, step, stepGap, hc, ih hgap]

theorem run_word_append (h : ∀ c ∈ cs, IsPlain c) (read rest : List Char) :
    (word read).run (cs ++ rest) = (word (cs.reverse ++ read)).run rest := by
  induction cs generalizing read with
  | nil => rfl
  | cons c cs ih =>
    obtain ⟨hb, hl, hr⟩ := h c (by simp)
    have hcs : ∀ d ∈ cs, IsPlain d := fun d hd => h d (by simp [hd])
    simp [run, step, hb, hl, hr, ih hcs]

/-- A word ends where its characters do, and what ends it is read again. -/
theorem run_word (h : Breaks rest) (read : List Char) :
    (word read).run rest = .ofWord read.reverse :: Scan.gap.run rest := by
  cases rest with
  | nil => rfl
  | cons c rest =>
    by_cases hb : isBlank c = true
    · simp [run, step, stepGap, hb]
    · by_cases hl : c = '('
      · simp [run, step, stepGap, hl]
      · have hr : c = ')' := by
          by_contra hr
          exact h ⟨by simpa using hb, hl, hr⟩
        simp [run, step, stepGap, hr]

theorem run_phrase (h : '"' ∉ cs) (read rest : List Char) :
    (phrase read).run (cs ++ '"' :: rest) =
      .ofPhrase (read.reverse ++ cs) :: Scan.gap.run rest := by
  induction cs generalizing read with
  | nil => simp [run, step]
  | cons c cs ih =>
    obtain ⟨hc, hcs⟩ : '"' ≠ c ∧ '"' ∉ cs := by simpa using h
    simp [run, step, hc.symm, ih hcs]

/-- Between lexemes, plain characters that do not start with a quote are scanned as one word. -/
theorem run_gap_word (hne : cs ≠ []) (hp : ∀ c ∈ cs, IsPlain c) (hq : cs.head? ≠ some '"')
    (hrest : Breaks rest) :
    Scan.gap.run (cs ++ rest) = .ofWord cs :: Scan.gap.run rest := by
  obtain ⟨c, cs, rfl⟩ := List.exists_cons_of_ne_nil hne
  obtain ⟨hb, hl, hr⟩ := hp c (by simp)
  have hcq : c ≠ '"' := by simpa using hq
  have hcs : ∀ d ∈ cs, IsPlain d := fun d hd => hp d (by simp [hd])
  have hstart : Scan.gap.run (c :: cs ++ rest) = (word [c]).run (cs ++ rest) := by
    simp [run, step, stepGap, hb, hl, hr, hcq]
  rw [hstart, run_word_append hcs, run_word hrest]
  simp

theorem run_lexeme (x : Lexeme) (h : x.isOpen = true → Breaks rest) :
    Scan.gap.run (x.chars ++ rest) = x.token :: Scan.gap.run rest := by
  cases x with
  | word cs proper =>
    rw [Lexeme.chars, run_gap_word proper.nonempty proper.plain proper.unquoted (h rfl),
      ofWord_term proper.noKeyword, Lexeme.token]
  | phrase cs proper =>
    have hstart : Scan.gap.run ('"' :: (cs ++ '"' :: rest)) =
        (phrase []).run (cs ++ '"' :: rest) := by
      simp [run, step, stepGap]
    simpa [Lexeme.chars, Lexeme.token, Token.ofPhrase, run_phrase proper] using hstart
  | keyword k cs proper =>
    have hplain := proper.plain
    have hq : cs.head? ≠ some '"' := fun hhead => (hplain '"' (List.mem_of_head? hhead)).2 rfl
    rw [Lexeme.chars, run_gap_word proper.ne_nil (fun c hc => (hplain c hc).1) hq (h rfl),
      ofWord_keyword proper, Lexeme.token]
  | lparen => simp [Lexeme.chars, Lexeme.token, run, step, stepGap]
  | rparen => simp [Lexeme.chars, Lexeme.token, run, step, stepGap]

/-- The scanner gives one token for each lexeme. -/
theorem run_written {xs : List Lexeme} (h : Written xs cs) :
    Scan.gap.run cs = xs.map Lexeme.token := by
  induction h with
  | @nil gap hg => simpa [run, finish] using run_gap_append hg []
  | @cons gap x xs rest hg ho _ ih =>
    rw [List.append_assoc, run_gap_append hg, run_lexeme x ho, ih, List.map_cons]

end Scan

variable {cs rest : List Char} {xs : List Lexeme}

theorem Lexeme.chars_plain_or_quoted (x : Lexeme) :
    (x.chars ≠ [] ∧ ∀ c ∈ x.chars, isBlank c = false) ∨ ∃ cs, x.chars = '"' :: (cs ++ ['"']) := by
  cases x with
  | word cs proper => exact Or.inl ⟨proper.nonempty, fun c hc => (proper.plain c hc).1⟩
  | phrase cs proper => exact Or.inr ⟨cs, rfl⟩
  | keyword k cs proper => exact Or.inl ⟨proper.ne_nil, fun c hc => (proper.plain c hc).1.1⟩
  | lparen | rparen => exact Or.inl (by simp [Lexeme.chars])

theorem Lexeme.exists_first (x : Lexeme) : ∃ c cs, x.chars = c :: cs ∧ isBlank c = false := by
  rcases x.chars_plain_or_quoted with ⟨hne, hb⟩ | ⟨cs, hcs⟩
  · obtain ⟨c, cs, hcs⟩ := List.exists_cons_of_ne_nil hne
    exact ⟨c, cs, hcs, hb c (by simp [hcs])⟩
  · exact ⟨_, _, hcs, by decide⟩

theorem Lexeme.exists_last (x : Lexeme) : ∃ cs c, x.chars = cs ++ [c] ∧ isBlank c = false := by
  rcases x.chars_plain_or_quoted with ⟨hne, hb⟩ | ⟨cs, hcs⟩
  · have hcs := (List.dropLast_append_getLast hne).symm
    exact ⟨_, _, hcs, hb _ (List.getLast_mem hne)⟩
  · exact ⟨'"' :: cs, '"', hcs, by decide⟩

theorem Written.dropWhile (h : Written xs cs) : Written xs (cs.dropWhile isBlank) := by
  cases h with
  | nil hg =>
    have hnil : cs.dropWhile isBlank = [] := List.dropWhile_eq_nil_iff.mpr hg
    rw [hnil]
    exact .nil (by simp [IsGap])
  | @cons gap x xs rest hg ho hr =>
    obtain ⟨c, chars, hx, hc⟩ := x.exists_first
    have hdrop : (gap ++ x.chars ++ rest).dropWhile isBlank = [] ++ x.chars ++ rest := by
      simp [List.dropWhile_append_of_pos hg, hx, hc]
    rw [hdrop]
    exact .cons (by simp [IsGap]) ho hr

/-- Blanks at the end may be left out, as every lexeme ends with another character. -/
theorem Written.of_append (h : Written xs cs) :
    ∀ kept gap, cs = kept ++ gap → IsGap gap → Written xs kept := by
  induction h with
  | nil hg =>
    intro kept gap hcs _
    exact .nil fun c hc => hg c (by simp [hcs, hc])
  | @cons before x xs rest hb ho hr ih =>
    intro kept gap hcs hg
    -- The cut is behind the lexeme, or at its end: no blank is cut off inside it.
    rcases List.append_eq_append_iff.mp hcs with ⟨mid, hkept, hrest⟩ | ⟨mid, hx, hgap⟩
    · rw [hkept]
      refine .cons hb (fun hopen => ?_) (ih mid gap hrest hg)
      have hbreaks := ho hopen
      cases mid with
      | nil => trivial
      | cons c mid => simpa [hrest, Breaks] using hbreaks
    · have hmid : mid = [] := by
        rcases List.eq_nil_or_concat mid with hmid | ⟨mid, c, rfl⟩
        · exact hmid
        · obtain ⟨chars, d, hd, hblank⟩ := x.exists_last
          have hlast := congrArg List.getLast? hx
          obtain rfl : d = c := by simpa [hd] using hlast
          have hc := hg d (by simp [hgap])
          simp [hblank] at hc
      obtain rfl : kept = before ++ x.chars := by simpa [hmid] using hx.symm
      have hall : IsGap rest := by simpa [hgap, hmid] using hg
      have hend : Breaks [] := trivial
      simpa using Written.cons hb (fun _ => hend) (ih [] rest rfl hall)

theorem Written.trim (h : Written xs cs) : Written xs (Chars.trim cs) := by
  have hgap : IsGap ((cs.dropWhile isBlank).rtakeWhile isBlank) :=
    fun c hc => List.mem_rtakeWhile_imp hc
  exact h.dropWhile.of_append _ _ (List.rdropWhile_append_rtakeWhile ..).symm hgap

end Linkshelf.Query
