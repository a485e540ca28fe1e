import Mathlib.Data.List.Basic
import Linkshelf.Yaml.Reader
import Linkshelf.Yaml.Spelling

/-! Plain scalars are read as the text they are: no character of it ends the scalar, and what comes
after it does. -/
namespace Linkshelf.Yaml

variable {c d : Char} {s tail blanks left : List Char} {oneLine : Bool} {min column fuel : Nat}

theorem isBreak_lineFeed : isBreak '\n' = true := by decide

theorem isBreak_ne (h : isBreak c = true) (hd : isBreak d = false) : c ≠ d := by
  rintro rfl
  simp [h] at hd

theorem isSpacing_iff (h : isPrintable c = true) : isSpacing c = true ↔ c = ' ' := by
  have htab : c ≠ '\t' := by
    rintro rfl
    exact absurd h (by decide)
  simp [isSpacing, htab]

theorem isApart_append (h : isApart s = false) (tail : List Char) :
    isApart (s ++ tail) = false := by
  cases s with
  | nil => cases h
  | cons d s => exact h

theorem isColon_append (h : isColon c s = false) (tail : List Char) :
    isColon c (s ++ tail) = false := by
  by_cases hc : c = ':'
  · have hapart : isApart s = false := by simpa [isColon, hc] using h
    simp [isColon, isApart_append hapart]
  · simp [isColon, hc]

theorem isTightColon_block (c : Char) (s : List Char) : isTightColon false c s = false := by
  cases s <;> simp [isTightColon]

/-- Characters that a plain scalar may have after its first one. -/
structure IsPlain (s : List Char) : Prop where
  printable : ∀ c ∈ s, isPrintable c = true
  unbroken : ∀ c ∈ s, isBreak c = false
  colon : hasColon s = false
  hash : hasPair isSpace (· = '#') s = false
  last : s.getLast? ≠ some ' '

theorem hasPair_tail {p q : Char → Bool} (h : hasPair p q (c :: s) = false) :
    hasPair p q s = false := by
  cases s with
  | nil => rfl
  | cons d s => exact (Bool.or_eq_false_iff.mp h).2

theorem IsPlain.of_cons (h : IsPlain (c :: s)) : IsPlain s where
  printable d hd := h.printable d (List.mem_cons_of_mem c hd)
  unbroken d hd := h.unbroken d (List.mem_cons_of_mem c hd)
  colon := (Bool.or_eq_false_iff.mp h.colon).2
  hash := hasPair_tail h.hash
  last := by
    cases s with
    | nil => simp
    | cons d s => simpa using h.last

/-- A scalar ends here, after a visible character. -/
def EndsPlain (oneLine : Bool) (min : Nat) (tail : List Char) : Prop :=
  ∀ column, readPlain false oneLine min .none column tail tail = some ([], tail)

theorem readPlain_append (h : IsPlain s) (htail : EndsPlain oneLine min tail)
    (hblanks : blanks ≠ [] → s ≠ [] ∧ s.head? ≠ some '#') (hleft : blanks = [] → left = s ++ tail) :
    readPlain false oneLine min (.spacing blanks) column left (s ++ tail) =
      some (blanks ++ s, tail) := by
  induction s generalizing blanks left column with
  | nil =>
    obtain rfl : blanks = [] := by
      by_contra hne
      exact (hblanks hne).1 rfl
    simpa [hleft rfl, Gap.none] using htail column
  | cons c s ih =>
    have hbreak := h.unbroken c List.mem_cons_self
    have hspacing := isSpacing_iff (h.printable c List.mem_cons_self)
    have hcolon := isColon_append (Bool.or_eq_false_iff.mp h.colon).1 tail
    by_cases hc : c = ' '
    · subst c
      have hne : s ≠ [] := by
        rintro rfl
        exact h.last rfl
      have hhash : s.head? ≠ some '#' := by
        intro hhead
        obtain ⟨t, rfl⟩ := List.head?_eq_some_iff.mp hhead
        exact absurd h.hash (by simp [hasPair, isSpace])
      have hrest : readPlain false oneLine min (.spacing (blanks ++ [' '])) (column + 1) left
          (s ++ tail) = some (blanks ++ [' '] ++ s, tail) :=
        ih h.of_cons (fun _ => ⟨hne, hhash⟩) (by simp)
      simpa [readPlain, hbreak, Gap.isFolded, isSpacing, Gap.add] using hrest
    · have hnone : isSpacing c = false := by simpa [hc] using hspacing
      have hhash : (c = '#' && Gap.spacing blanks != .none) = false := by
        by_cases hne : blanks = []
        · simp [hne, Gap.none]
        · have hc : c ≠ '#' := fun hc => (hblanks hne).2 (by rw [hc]; rfl)
          simp [hc]
      have hrest : readPlain false oneLine min .none (column + 1) (s ++ tail) (s ++ tail) =
          some (s, tail) :=
        @ih [] (s ++ tail) (column + 1) h.of_cons (by simp) (fun _ => rfl)
      simp [readPlain, hbreak, hnone, hcolon, hhash, hrest, Gap.isFolded, Gap.text, followed,
        isTightColon_block]

theorem startsPlain_append (h : startsPlain false s = true) (tail : List Char) :
    startsPlain false (s ++ tail) = true := by
  cases s with
  | nil => cases h
  | cons c s =>
    rw [List.cons_append, startsPlain] at *
    split at h
    · cases h
    · next hfirst =>
      rw [if_neg hfirst]
      split at h
      · next hc =>
        rw [if_pos hc, isApart_append (by simpa using h)]
        rfl
      · next hc =>
        rw [if_neg hc]
        split at h
        · next hc' =>
          rw [if_pos hc', isApart_append (by simpa using h)]
          rfl
        · next hc' => rw [if_neg hc']

theorem readFlow_startsPlain (h : startsPlain false s = true) :
    readFlow false oneLine min (fuel + 1) s = (readPlain false oneLine min .none 0 s s).map
      fun (text, rest) => (scalar true text, rest) := by
  cases s with
  | nil => cases h
  | cons c s =>
    have hfirst : isIndicator c = false := by
      by_contra hc
      simp [startsPlain, hc] at h
    simp only [isIndicator, isFlowSign, Bool.or_eq_false_iff, decide_eq_false_iff_not] at hfirst
    have hskip : skipProperties false 2 (c :: s) = c :: s := by
      simp [skipProperties, hfirst]
    rw [readFlow, hskip]
    split
    all_goals simp_all

theorem readFlow_plain (h : IsPlain s) (hstart : startsPlain false s = true)
    (htail : EndsPlain oneLine min tail) :
    readFlow false oneLine min (fuel + 1) (s ++ tail) = some (scalar true s, tail) := by
  have hread : readPlain false oneLine min (.spacing []) 0 (s ++ tail) (s ++ tail) =
      some ([] ++ s, tail) := readPlain_append h htail (by simp) (fun _ => rfl)
  rw [readFlow_startsPlain (startsPlain_append hstart tail)]
  rw [Gap.none, hread]
  rfl

/-- The text is over, or it goes on with a key in the first column. -/
def IsNextLine (s : List Char) : Prop :=
  ∀ c ∈ s.head?, isBreak c = false ∧ isSpacing c = false ∧ c ≠ '#' ∧ c ≠ '-' ∧ c ≠ '.'

/-- The end of a line ends a scalar that has to stand further in than the next line. -/
theorem endsPlain_lineEnd (oneLine : Bool) (h : IsNextLine tail) :
    EndsPlain oneLine 1 ('\n' :: tail) := by
  intro column
  cases tail with
  | nil => simp [readPlain, isBreak]
  | cons c s =>
    obtain ⟨hbreak, hspacing, -⟩ := h c rfl
    have hspace : c ≠ ' ' := by
      rintro rfl
      cases hspacing
    simp [readPlain, hbreak, hspace, isBreak_lineFeed, Gap.add, Gap.none, Gap.isFolded]

theorem endsPlain_oneLine (min : Nat) (tail : List Char) : EndsPlain true min ('\n' :: tail) := by
  intro column
  simp [readPlain, isBreak_lineFeed]

theorem endsPlain_colon (oneLine : Bool) (min : Nat) (tail : List Char) :
    EndsPlain oneLine min (':' :: ' ' :: tail) := by
  intro column
  have hbreak : isBreak ':' = false := by decide
  simp [readPlain, hbreak, isSpacing, isColon, isApart, Gap.none, Gap.isFolded]

end Linkshelf.Yaml
