import Linkshelf.Proofs.Yaml.Block
import Linkshelf.Proofs.Yaml.Quoted

/-! The value of a key is read as the text that was spelled, in whatever style. -/
namespace Linkshelf.Yaml

variable {c d : Char} {s rest : List Char} {min column fuel : Nat} {v : Yaml}

theorem nextSpot_visible (hbreak : isBreak c = false) (hspacing : isSpacing c = false)
    (hhash : c ≠ '#') (isFresh : Bool) (column : Nat) (s : List Char) :
    nextSpot isFresh false column (c :: s) = some ⟨isFresh, column, c :: s⟩ := by
  simp only [isSpacing, Bool.or_eq_false_iff, decide_eq_false_iff_not] at hspacing
  simp [nextSpot, hbreak, hspacing, hhash]

theorem IsNextLine.nextSpot_eq (h : IsNextLine s) (isFresh : Bool) (column : Nat) :
    nextSpot isFresh false column s = some ⟨isFresh, column, s⟩ := by
  cases s with
  | nil => rfl
  | cons c s =>
    obtain ⟨hbreak, hspacing, hhash, -⟩ := h c rfl
    exact nextSpot_visible hbreak hspacing hhash isFresh column s

theorem IsNextLine.isEdge_eq (h : IsNextLine s) : isEdge s = false := by
  cases s with
  | nil => rfl
  | cons c s =>
    obtain ⟨-, -, -, hdash, hdot⟩ := h c rfl
    exact isEdge_of_ne hdash hdot s

theorem afterColon?_lineEnd (s rest : List Char) : afterColon? false s ('\n' :: rest) = none := by
  have hspacing : isSpacing '\n' = false := by decide
  simp [afterColon?, hspacing]

/-- What ends with its line is no key. -/
theorem readKey?_value (hread : ∀ fuel, readFlow false true 0 (fuel + 1) s = some (v, '\n' :: rest))
    (hcolon : s.head? = some ':' → isApart s.tail = false) : readKey? s = none := by
  rw [readKey?]
  split
  · next hhead =>
    obtain ⟨t, rfl⟩ := List.head?_eq_some_iff.mp hhead
    have hspacing : isSpacing ':' = false := by decide
    have hapart : isApart t = false := hcolon rfl
    simp [afterColon?, hspacing, hapart]
  · have henough : enough s = 4 * s.length + 7 + 1 := rfl
    rw [henough, hread]
    simp [afterColon?_lineEnd]

/-- A value that stands on the line of its key is read in the flow. -/
theorem readNode_flow (hentry : isEntry s = false) (hliteral : s.head? ≠ some '|')
    (hfolded : s.head? ≠ some '>') (hkey : readKey? s = none) :
    readNode true min column (fuel + 1) s = readFlow false false min (enough s) s := by
  rw [readNode]
  · simp [hentry, hkey]
  · rintro t rfl
    exact hliteral rfl
  · rintro t rfl
    exact hfolded rfl

theorem readNode_literal (hs : s ≠ []) (htab : s.head? ≠ some '\t') (hrest : IsNextLine rest) :
    readNode true 1 column (fuel + 1) (literalBlock s ++ rest) =
      some (scalar false s, '\n' :: rest) := by
  have hread := readBlock_written hs htab hrest
  have hsign : literalBlock s ++ rest = '|' :: ((literalBlock s).tail ++ rest) := rfl
  rw [hsign, readNode]
  simp [isEntry, hread]

/-- A value is read that reads both as it stands and within a line, and is followed by a line
end. -/
theorem readNode_value (hread : ∀ oneLine min fuel, (oneLine = true ∨ min = 1) →
      readFlow false oneLine min (fuel + 1) s = some (v, '\n' :: rest))
    (hentry : isEntry s = false) (hliteral : s.head? ≠ some '|') (hfolded : s.head? ≠ some '>')
    (hcolon : s.head? = some ':' → isApart s.tail = false) :
    readNode true 1 column (fuel + 1) s = some (v, '\n' :: rest) := by
  have hkey : readKey? s = none :=
    readKey?_value (fun fuel => hread true 0 fuel (Or.inl rfl)) hcolon
  rw [readNode_flow hentry hliteral hfolded hkey]
  exact hread false 1 _ (Or.inr rfl)

theorem startsPlain_cons (h : startsPlain false (c :: s) = true) :
    isIndicator c = false ∧ isSpacing c = false ∧ isBreak c = false ∧
      (c = '-' ∨ c = ':' → isApart s = false) := by
  have hfirst : (isIndicator c || isSpacing c || isBreak c) = false := by
    by_contra hc
    simp only [Bool.not_eq_false] at hc
    rw [startsPlain, if_pos hc] at h
    cases h
  rw [startsPlain, if_neg (by simp [hfirst])] at h
  simp only [Bool.or_eq_false_iff] at hfirst
  refine ⟨hfirst.1.1, hfirst.1.2, hfirst.2, ?_⟩
  rintro (rfl | rfl) <;> simpa using h

/-- Which texts are spelled in which style. Double quotes are for all of them. -/
theorem style_cases (s : List Char) :
    (style s = .plain ∧ isQuotable s = true ∧ isAmbiguous s = false ∧ isPlainText s = true) ∨
    (style s = .single ∧ isQuotable s = true ∧ s.contains '\n' = false ∧
      hasPair isBreak isSpace s = false) ∨
    (style s = .literal ∧ isQuotable s = true ∧ s.contains '\n' = true) ∨
    style s = .double := by
  unfold style
  split
  · split <;> simp_all
  · split
    · simp_all
    · split
      · simp_all
      · split <;> simp_all

theorem isQuotable_iff : isQuotable s = true ↔
    (∀ c ∈ s, isPrintable c = true) ∧ hasPair isSpace isBreak s = false := by
  simp [isQuotable]

theorem isPlain_of_isPlainText (hquotable : isQuotable s = true) (h : isPlainText s = true) :
    IsPlain s ∧ startsPlain false s = true := by
  simp only [isPlainText, Bool.and_eq_true, Bool.not_eq_true', bne_iff_ne, ne_eq,
    List.any_eq_false, Bool.not_eq_true] at h
  obtain ⟨⟨⟨⟨⟨hstart, -⟩, hlast⟩, hbreak⟩, hcolon⟩, hhash⟩ := h
  exact ⟨⟨(isQuotable_iff.mp hquotable).1, hbreak, hcolon, hhash, hlast⟩, hstart⟩

theorem readNode_plain (hplain : IsPlain s) (hstart : startsPlain false s = true)
    (hrest : IsNextLine rest) :
    readNode true 1 column (fuel + 1) (s ++ '\n' :: rest) = some (scalar true s, '\n' :: rest) := by
  cases s with
  | nil => cases hstart
  | cons c s =>
    obtain ⟨hindicator, -, -, hapart⟩ := startsPlain_cons hstart
    simp only [isIndicator, Bool.or_eq_false_iff, decide_eq_false_iff_not] at hindicator
    have hafter (h : c = '-' ∨ c = ':') := isApart_append (hapart h) ('\n' :: rest)
    refine readNode_value (fun oneLine min fuel h => ?_) ?_ ?_ ?_ ?_
    · refine readFlow_plain hplain hstart ?_
      rcases h with rfl | rfl
      · exact endsPlain_oneLine min rest
      · exact endsPlain_lineEnd oneLine hrest
    · by_cases hc : c = '-'
      · subst c
        exact hafter (Or.inl rfl)
      · rw [List.cons_append, isEntry]
        rintro t h
        exact absurd (List.cons.inj h).1 hc
    · simp [hindicator]
    · simp [hindicator]
    · intro hc
      exact hafter (Or.inr (by simpa using hc))

theorem readNode_singleQuoted (hs : IsSingle s) (rest : List Char) :
    readNode true 1 column (fuel + 1) (singleQuoted s ++ '\n' :: rest) =
      some (scalar false s, '\n' :: rest) := by
  refine readNode_value (fun oneLine min fuel _ => ?_) rfl ?_ ?_ ?_
  · exact readFlow_singleQuoted hs (by simp)
  all_goals simp [singleQuoted]

theorem readNode_doubleQuoted (s rest : List Char) :
    readNode true 1 column (fuel + 1) (doubleQuoted s ++ '\n' :: rest) =
      some (scalar false s, '\n' :: rest) := by
  refine readNode_value (fun oneLine min fuel _ => readFlow_doubleQuoted s _) rfl ?_ ?_ ?_
  all_goals simp [doubleQuoted]

/-- The value of a key is read as the text that was spelled, whatever line comes next. -/
theorem readNode_spelled (hrest : IsNextLine rest) (s : List Char) (column fuel : Nat) :
    readNode true 1 column (fuel + 1) (spelled s ++ rest) =
      some (scalar (style s = .plain) s, '\n' :: rest) := by
  rw [spelled]
  rcases style_cases s with ⟨hstyle, hquotable, -, hplain⟩ | ⟨hstyle, hquotable, hfeed, hpair⟩ |
    ⟨hstyle, hquotable, hfeed⟩ | hstyle
  · obtain ⟨hplain, hstart⟩ := isPlain_of_isPlainText hquotable hplain
    simpa [hstyle] using readNode_plain hplain hstart hrest
  · obtain ⟨hprint, hspace⟩ := isQuotable_iff.mp hquotable
    have hsingle : IsSingle s := by
      refine ⟨hprint, ?_, hspace, hpair⟩
      rintro c hc rfl
      simp [hc] at hfeed
    simpa [hstyle] using readNode_singleQuoted hsingle rest
  · have hs : s ≠ [] := by
      rintro rfl
      cases hfeed
    have htab : s.head? ≠ some '\t' := fun hhead =>
      absurd ((isQuotable_iff.mp hquotable).1 '\t' (List.mem_of_head? hhead)) (by decide)
    simpa [hstyle] using readNode_literal hs htab hrest
  · simpa [hstyle] using readNode_doubleQuoted s rest

/-- A value starts with a visible character. -/
theorem exists_spelled_cons (s : List Char) : ∃ c t, spelled s = c :: t ∧
    isBreak c = false ∧ isSpacing c = false ∧ c ≠ '#' := by
  rw [spelled]
  rcases style_cases s with ⟨hstyle, hquotable, -, hplain⟩ | ⟨hstyle, -⟩ | ⟨hstyle, -⟩ | hstyle
  · obtain ⟨-, hstart⟩ := isPlain_of_isPlainText hquotable hplain
    rw [hstyle]
    cases s with
    | nil => cases hstart
    | cons c s =>
      obtain ⟨hindicator, hspacing, hbreak, -⟩ := startsPlain_cons hstart
      have hhash : c ≠ '#' := by
        rintro rfl
        cases hindicator
      exact ⟨c, s ++ ['\n'], rfl, hbreak, hspacing, hhash⟩
  · rw [hstyle]
    exact ⟨'\'', _, rfl, by decide⟩
  · rw [hstyle]
    exact ⟨'|', _, rfl, by decide⟩
  · rw [hstyle]
    exact ⟨'"', _, rfl, by decide⟩

theorem readValue_spelled (hrest : IsNextLine rest) (s : List Char) (fuel : Nat) :
    readValue 0 (fuel + 2) (' ' :: spelled s ++ rest) =
      some (scalar (style s = .plain) s, '\n' :: rest) := by
  obtain ⟨c, t, hspelled, hbreak, hspacing, hhash⟩ := exists_spelled_cons s
  have hspot : nextSpot false false 0 (' ' :: spelled s ++ rest) =
      some ⟨false, 1, spelled s ++ rest⟩ := by
    have hspace : isBreak ' ' = false := by decide
    have hvisible := nextSpot_visible hbreak hspacing hhash false 1 (t ++ rest)
    simpa [nextSpot, hspace, hspelled] using hvisible
  have hnode := readNode_spelled hrest s 0 fuel
  have hne : (spelled s ++ rest).isEmpty = false := by rw [hspelled]; rfl
  simp only [readValue, hspot, Option.bind_eq_bind, Option.bind_some, hne, Bool.not_false,
    Bool.false_eq_true, if_false, if_true]
  exact hnode

theorem mem_indentLines {atStart : Bool} (h : c ∈ indentLines atStart s) : c ∈ s ∨ c = ' ' := by
  induction s generalizing atStart with
  | nil => simp [indentLines] at h
  | cons d s ih =>
    rw [indentLines] at h
    split at h
    · rcases List.mem_cons.mp h with rfl | h
      · simp
      · rcases ih h with h | h <;> simp [h]
    · rcases List.mem_append.mp h with h | h
      · right
        cases atStart <;> simp at h
        exact h
      · rcases List.mem_cons.mp h with rfl | h
        · simp
        · rcases ih h with h | h <;> simp [h]

theorem isPrintable_of_value? {n : Nat} (h : Hex.value? c = some n) : isPrintable c = true := by
  have hcode := Hex.toNat_of_value? h
  simp [isPrintable]
  omega

theorem isPrintable_hexEscape {mark : Char} {width code : Nat} (hmark : isPrintable mark = true)
    (h : c ∈ hexEscape mark width code) : isPrintable c = true := by
  simp only [hexEscape, List.mem_cons, List.mem_append] at h
  rcases h with rfl | rfl | h | h
  · decide
  · exact hmark
  · rw [List.eq_of_mem_replicate h]
    decide
  · obtain ⟨n, hn⟩ := Option.isSome_iff_exists.mp ((Hex.code_toDigits code).2 c h)
    exact isPrintable_of_value? hn

theorem isPrintable_doubleQuotedChar (h : d ∈ doubleQuotedChar c) : isPrintable d = true := by
  rw [doubleQuotedChar] at h
  split at h
  · next name hname =>
    have hprint : isPrintable name = true := by
      unfold escapeName? at hname
      split at hname <;> cases hname <;> decide
    simp only [List.mem_cons, List.not_mem_nil, or_false] at h
    rcases h with rfl | rfl
    · decide
    · exact hprint
  · split at h
    · next hc =>
      obtain rfl : d = c := by simpa using h
      exact hc
    · split at h
      · exact isPrintable_hexEscape (by decide) h
      · split at h
        · exact isPrintable_hexEscape (by decide) h
        · exact isPrintable_hexEscape (by decide) h

theorem isPrintable_singleQuoted (hs : ∀ d ∈ s, isPrintable d = true) (h : c ∈ singleQuoted s) :
    isPrintable c = true := by
  simp only [singleQuoted, List.mem_cons, List.mem_append, List.not_mem_nil, or_false] at h
  have hspace : isPrintable ' ' = true := by decide
  have hquote : isPrintable '\'' = true := by decide
  rcases h with rfl | (h | h) | rfl
  · exact hquote
  · rcases mem_indentLines h with h | rfl
    · obtain ⟨d, hd, h⟩ := List.mem_flatMap.mp h
      split at h
      · obtain rfl : c = '\'' := by simpa using h
        exact hquote
      · obtain rfl : c = d := by simpa using h
        exact hs c hd
    · exact hspace
  · obtain rfl : c = ' ' := by
      split at h <;> simp at h
      exact h
    exact hspace
  · exact hquote

theorem isPrintable_literalBlock (hs : ∀ d ∈ s, isPrintable d = true) (h : c ∈ literalBlock s) :
    isPrintable c = true := by
  have hsigns : ∀ d ∈ ['|', '2', '-', '+', '\n', ' '], isPrintable d = true :=
    List.all_eq_true.mp (by decide)
  simp only [literalBlock, List.mem_cons, List.mem_append] at h
  rcases h with rfl | (((h | h) | (rfl | h)) | h)
  · decide
  · cases s with
    | nil => cases h
    | cons d s =>
      rw [indentHint] at h
      split at h <;> simp at h
      exact hsigns c (by simp [h])
  · rw [chompHint] at h
    split at h
    · exact hsigns c (by simp_all)
    · split at h <;> simp at h
      exact hsigns c (by simp [h])
  · decide
  · rcases mem_indentLines h with h | rfl
    · exact hs c h
    · decide
  · split at h <;> simp at h
    exact hsigns c (by simp [h])

theorem isPrintable_spelled (h : c ∈ spelled s) : isPrintable c = true := by
  have hfeed : isPrintable '\n' = true := by decide
  rw [spelled] at h
  rcases style_cases s with ⟨hstyle, hquotable, -⟩ | ⟨hstyle, hquotable, -⟩ |
    ⟨hstyle, hquotable, -⟩ | hstyle
  · have hs := (isQuotable_iff.mp hquotable).1
    simp only [hstyle, List.mem_append, List.mem_singleton] at h
    rcases h with h | rfl
    · exact hs c h
    · exact hfeed
  · have hs := (isQuotable_iff.mp hquotable).1
    simp only [hstyle, List.mem_append, List.mem_singleton] at h
    rcases h with h | rfl
    · exact isPrintable_singleQuoted hs h
    · exact hfeed
  · have hs := (isQuotable_iff.mp hquotable).1
    simp only [hstyle] at h
    exact isPrintable_literalBlock hs h
  · simp only [hstyle, doubleQuoted, List.mem_append, List.mem_cons, List.mem_flatMap,
      List.not_mem_nil, or_false] at h
    rcases h with (rfl | ⟨d, -, h⟩ | rfl) | rfl
    · decide
    · exact isPrintable_doubleQuotedChar h
    · decide
    · exact hfeed

end Linkshelf.Yaml
