import Mathlib.Data.List.DropRight
import Mathlib.Data.List.TakeDrop
import Linkshelf.Proofs.Yaml.Plain

/-! Blocks of lines. The lines of a text are indented when it is written and read without their
indentation, and what is kept of the line ends after the last one is what the text had. -/
namespace Linkshelf.Yaml

variable {c b : Char} {s t l rest last empty : List Char} {ls : List (List Char)} {chomp : Chomp}
  {atStart wasBlank : Bool}

/-- A line with its end. -/
def IsLine (l : List Char) : Prop :=
  ∃ t b, l = t ++ [b] ∧ (∀ c ∈ t, isBreak c = false) ∧ isBreak b = true

theorem flatten_lines (s : List Char) : (lines s).flatten = s := by
  induction s with
  | nil => rfl
  | cons c s ih =>
    rw [lines]
    split
    · simp [ih]
    · split
      · next h => simpa [h] using ih
      · next h => simpa [h] using ih

theorem lines_append (h : IsLine l) (rest : List Char) : lines (l ++ rest) = l :: lines rest := by
  obtain ⟨t, b, rfl, ht, hb⟩ := h
  induction t with
  | nil => simp [lines, hb]
  | cons c t ih =>
    have hc := ht c List.mem_cons_self
    have hrest := ih fun d hd => ht d (List.mem_cons_of_mem c hd)
    simp only [List.cons_append, lines, hc, hrest, Bool.false_eq_true, if_false]

theorem lines_flatten (h : ∀ l ∈ ls, IsLine l) (rest : List Char) :
    lines (ls.flatten ++ rest) = ls ++ lines rest := by
  induction ls with
  | nil => rfl
  | cons l ls ih =>
    have hrest := ih fun m hm => h m (List.mem_cons_of_mem l hm)
    rw [List.flatten_cons, List.append_assoc, lines_append (h l List.mem_cons_self), hrest]
    rfl

/-- A text whose last character ends a line is made of lines. -/
theorem isLine_of_mem_lines (h : ∀ c ∈ s.getLast?, isBreak c = true) :
    ∀ l ∈ lines s, IsLine l := by
  induction s with
  | nil => simp [lines]
  | cons c s ih =>
    have hs : ∀ l ∈ lines s, IsLine l := ih fun d hd => h d (by rw [List.getLast?_cons, hd]; rfl)
    rw [lines]
    split
    · next hc =>
      intro l hl
      rcases List.mem_cons.mp hl with rfl | hl
      · exact ⟨[], c, rfl, by simp, hc⟩
      · exact hs l hl
    · next hc =>
      split
      · next hnil =>
        obtain rfl : s = [] := by rw [← flatten_lines s, hnil]; rfl
        exact absurd (h c rfl) hc
      · next first others hlines =>
        rw [hlines] at hs
        intro l hl
        rcases List.mem_cons.mp hl with rfl | hl
        · obtain ⟨t, b, rfl, ht, hb⟩ := hs first List.mem_cons_self
          exact ⟨c :: t, b, rfl, List.forall_mem_cons.mpr ⟨by simpa using hc, ht⟩, hb⟩
        · exact hs l (List.mem_cons_of_mem first hl)

/-- A line of a block. Empty lines are not indented. -/
def indented (l : List Char) : List Char :=
  match l with
  | [] => []
  | c :: _ => if isBreak c then l else ' ' :: ' ' :: l

theorem indentLines_unbroken (ht : ∀ c ∈ t, isBreak c = false) (rest : List Char) :
    indentLines false (t ++ rest) = t ++ indentLines false rest := by
  induction t with
  | nil => rfl
  | cons c t ih =>
    have hrest := ih fun d hd => ht d (List.mem_cons_of_mem c hd)
    simp [indentLines, ht c List.mem_cons_self, hrest]

theorem indentLines_line (h : IsLine l) (rest : List Char) :
    indentLines true (l ++ rest) = indented l ++ indentLines true rest := by
  obtain ⟨t, b, rfl, ht, hb⟩ := h
  cases t with
  | nil => simp [indentLines, indented, hb]
  | cons c t =>
    have hrest := indentLines_unbroken (fun d hd => ht d (List.mem_cons_of_mem c hd)) (b :: rest)
    simp [indentLines, indented, ht c List.mem_cons_self, hrest, hb]

theorem indentLines_flatten (h : ∀ l ∈ ls, IsLine l) :
    indentLines true ls.flatten = (ls.map indented).flatten := by
  induction ls with
  | nil => rfl
  | cons l ls ih =>
    have hrest := ih fun m hm => h m (List.mem_cons_of_mem l hm)
    rw [List.flatten_cons, indentLines_line (h l List.mem_cons_self), hrest]
    rfl

theorem isLine_indented (h : IsLine l) : IsLine (indented l) := by
  obtain ⟨t, b, rfl, ht, hb⟩ := h
  cases t with
  | nil => exact ⟨[], b, by simp [indented, hb], by simp, hb⟩
  | cons c t =>
    have hspace : isBreak ' ' = false := by decide
    refine ⟨' ' :: ' ' :: c :: t, b, ?_, ?_, hb⟩
    · simp [indented, ht c List.mem_cons_self]
    · simpa [hspace] using ht

/-- The lines of a text that is written as a block, and of what comes after it. -/
theorem lines_indentLines (h : ∀ c ∈ s.getLast?, isBreak c = true) (rest : List Char) :
    lines (indentLines true s ++ rest) = (lines s).map indented ++ lines rest := by
  have hlines := isLine_of_mem_lines h
  conv_lhs => rw [← flatten_lines s]
  rw [indentLines_flatten hlines, lines_flatten]
  intro l hl
  obtain ⟨m, hm, rfl⟩ := List.mem_map.mp hl
  exact isLine_indented (hlines m hm)

theorem readBlockLines_blank (hb : isBreak b = true) (ls : List (List Char)) :
    readBlockLines true chomp 2 last wasBlank empty (indented [b] :: ls) =
      readBlockLines true chomp 2 last wasBlank (empty ++ [b]) ls := by
  have hspace : b ≠ ' ' := isBreak_ne hb (by decide)
  simp [readBlockLines, indented, hb, hspace]

theorem readBlockLines_visible (ht : ∀ c ∈ t, isBreak c = false) (hne : t ≠ [])
    (hb : isBreak b = true) (ls : List (List Char)) :
    readBlockLines true chomp 2 last wasBlank empty (indented (t ++ [b]) :: ls) =
      (readBlockLines true chomp 2 [b] (isSpacing (t.headD ' ')) [] ls).map fun (more, rest) =>
        (last ++ empty ++ t ++ more, rest) := by
  cases t with
  | nil => exact (hne rfl).elim
  | cons c t =>
    have hc := ht c List.mem_cons_self
    have hspan : (c :: t ++ [b]).span (!isBreak ·) = (c :: t, [b]) := by
      have hall : ∀ d ∈ c :: t, (!isBreak d) = true := by simpa using ht
      rw [List.span_eq_takeWhile_dropWhile, List.takeWhile_append_of_pos hall,
        List.dropWhile_append_of_pos hall]
      simp [hb]
    have hindented : indented (c :: t ++ [b]) = ' ' :: ' ' :: c :: (t ++ [b]) := by
      simp [indented, hc]
    have hmargin : Nat.min 2 ((' ' :: ' ' :: c :: (t ++ [b])).takeWhile (· = ' ')).length = 2 := by
      simp
    rw [List.cons_append] at hspan
    simp only [hindented, readBlockLines, hmargin, List.drop, hc, hspan]
    simp

theorem lines_visible (hc : isBreak c = false) (s : List Char) :
    ∃ l ls, lines (c :: s) = (c :: l) :: ls := by
  rw [lines, if_neg (by simp [hc])]
  split
  · exact ⟨[], [], rfl⟩
  · exact ⟨_, _, rfl⟩

/-- A block ends before a line that is not indented. -/
theorem readBlockLines_end (h : IsNextLine rest) :
    readBlockLines true chomp 2 last wasBlank empty (lines rest) =
      some (chomp.text last empty, lines rest) := by
  cases rest with
  | nil => rfl
  | cons c s =>
    obtain ⟨hbreak, hspacing, -⟩ := h c rfl
    obtain ⟨l, ls, hlines⟩ := lines_visible hbreak s
    have hspace : c ≠ ' ' := by
      rintro rfl
      cases hspacing
    have htab : c ≠ '\t' := by
      rintro rfl
      cases hspacing
    rw [hlines]
    simp [readBlockLines, hspace, hbreak, htab]

/-- A block that keeps all its line ends is read as its lines. -/
theorem readBlockLines_keep (h : ∀ l ∈ ls, IsLine l) (hrest : IsNextLine rest) :
    readBlockLines true .keep 2 last wasBlank empty (ls.map indented ++ lines rest) =
      some (last ++ empty ++ ls.flatten, lines rest) := by
  induction ls generalizing last wasBlank empty with
  | nil => simpa [Chomp.text] using readBlockLines_end hrest
  | cons l ls ih =>
    have hls := fun m hm => h m (List.mem_cons_of_mem l hm)
    obtain ⟨t, b, rfl, ht, hb⟩ := h l List.mem_cons_self
    rw [List.map_cons, List.cons_append]
    by_cases hne : t = []
    · subst t
      rw [List.nil_append, readBlockLines_blank hb, ih hls]
      simp
    · rw [readBlockLines_visible ht hne hb, ih hls]
      simp

/-- With a visible last line, only the end of that line may be kept or not. -/
theorem readBlockLines_chomp (h : ∀ l ∈ ls, IsLine l) (ht : ∀ c ∈ t, isBreak c = false)
    (hne : t ≠ []) (hb : isBreak b = true) (hrest : IsNextLine rest) :
    readBlockLines true chomp 2 last wasBlank empty
        (ls.map indented ++ indented (t ++ [b]) :: lines rest) =
      some (last ++ empty ++ ls.flatten ++ t ++ chomp.text [b] [], lines rest) := by
  induction ls generalizing last wasBlank empty with
  | nil =>
    rw [List.map_nil, List.nil_append, readBlockLines_visible ht hne hb, readBlockLines_end hrest]
    simp
  | cons l ls ih =>
    have hls := fun m hm => h m (List.mem_cons_of_mem l hm)
    obtain ⟨u, e, rfl, hu, he⟩ := h l List.mem_cons_self
    rw [List.map_cons, List.cons_append]
    by_cases hune : u = []
    · subst u
      rw [List.nil_append, readBlockLines_blank he, ih hls]
      simp
    · rw [readBlockLines_visible hu hune he, ih hls]
      simp

theorem endsInBreak_eq (hs : s ≠ []) : endsInBreak s = isBreak (s.getLast hs) := by
  rw [endsInBreak, List.getLast?_eq_some_getLast hs]

/-- The last line of a text that ends in one line end. -/
theorem lines_concat (hs : s ≠ []) (hlast : endsInBreak s = false) (hb : isBreak b = true) :
    ∃ ls t, lines (s ++ [b]) = ls ++ [t ++ [b]] ∧ s = ls.flatten ++ t ∧ (∀ l ∈ ls, IsLine l) ∧
      t ≠ [] ∧ ∀ c ∈ t, isBreak c = false := by
  rw [endsInBreak_eq hs] at hlast
  let t := s.rtakeWhile (!isBreak ·)
  let front := s.rdropWhile (!isBreak ·)
  have hsplit : front ++ t = s := List.rdropWhile_append_rtakeWhile ..
  have ht : ∀ c ∈ t, isBreak c = false := fun c hc => by simpa using List.mem_rtakeWhile_imp hc
  have hne : t ≠ [] := by
    intro hnil
    have hbreak := List.rtakeWhile_eq_nil_iff.mp hnil hs
    simp [hlast] at hbreak
  have hfront : ∀ c ∈ front.getLast?, isBreak c = true := by
    intro c hc
    by_cases hnil : front = []
    · simp [hnil] at hc
    · have hbreak := List.rdropWhile_last_not (p := (!isBreak ·)) (l := s) hnil
      obtain rfl : front.getLast hnil = c := by
        simpa [List.getLast?_eq_some_getLast hnil] using hc
      simpa using hbreak
  have hlines := isLine_of_mem_lines hfront
  refine ⟨lines front, t, ?_, ?_, hlines, hne, ht⟩
  · have hall := lines_flatten hlines (t ++ [b])
    have hline := lines_append ⟨t, b, rfl, ht, hb⟩ []
    rw [List.append_nil] at hline
    rw [← hsplit, List.append_assoc]
    rw [flatten_lines, hline] at hall
    exact hall
  · rw [flatten_lines, hsplit]

theorem indentLines_concat (hb : isBreak b = true) (atStart : Bool) (s : List Char) :
    indentLines atStart (s ++ [b]) = indentLines atStart s ++ [b] := by
  induction s generalizing atStart with
  | nil => simp [indentLines, hb]
  | cons c s ih =>
    simp only [List.cons_append, indentLines, ih]
    split <;> simp

/-- How the sign of a block says that its line ends are kept. -/
def chompOf (s : List Char) : Chomp :=
  if !endsInBreak s then .strip
  else if s.length = 1 || endsInBreak s.dropLast then .keep
  else .clip

/-- A text that does not end its last line gets a line feed, which is not kept. -/
theorem readBlockLines_open (hs : s ≠ []) (hend : endsInBreak s = false) (hrest : IsNextLine rest) :
    readBlockLines true .strip 2 [] false [] (lines (indentLines true s ++ ['\n'] ++ rest)) =
      some (s, lines rest) := by
  obtain ⟨ls, t, hlines, hsplit, hls, hne, ht⟩ := lines_concat hs hend isBreak_lineFeed
  have hwritten : lines (indentLines true s ++ ['\n'] ++ rest) =
      ls.map indented ++ indented (t ++ ['\n']) :: lines rest := by
    rw [← indentLines_concat isBreak_lineFeed, lines_indentLines (by simp [isBreak_lineFeed]),
      hlines]
    simp
  rw [hwritten, readBlockLines_chomp hls ht hne isBreak_lineFeed hrest, hsplit]
  simp [Chomp.text]

/-- One line end after a visible character is kept. -/
theorem readBlockLines_closed (hs : s ≠ []) (hlast : isBreak (s.getLast hs) = true)
    (hlength : s.length ≠ 1) (hbefore : endsInBreak s.dropLast = false) (hrest : IsNextLine rest) :
    readBlockLines true .clip 2 [] false [] (lines (indentLines true s ++ rest)) =
      some (s, lines rest) := by
  have hfront : s.dropLast ≠ [] := by
    intro hnil
    have hzero := congrArg List.length hnil
    have hpos := List.length_pos_of_ne_nil hs
    simp at hzero
    omega
  obtain ⟨ls, t, hlines, hsplit, hls, hne, ht⟩ := lines_concat hfront hbefore hlast
  have hwhole := List.dropLast_append_getLast hs
  rw [hwhole] at hlines
  have hwritten : lines (indentLines true s ++ rest) =
      ls.map indented ++ indented (t ++ [s.getLast hs]) :: lines rest := by
    rw [lines_indentLines (by simpa [List.getLast?_eq_some_getLast hs] using hlast), hlines]
    simp
  rw [hsplit] at hwhole
  rw [hwritten, readBlockLines_chomp hls ht hne hlast hrest]
  simpa [Chomp.text] using hwhole

theorem readBlockLines_written (hs : s ≠ []) (hrest : IsNextLine rest) :
    readBlockLines true (chompOf s) 2 [] false []
        (lines (indentLines true s ++ (if endsInBreak s then [] else ['\n']) ++ rest)) =
      some (s, lines rest) := by
  cases hend : endsInBreak s with
  | false =>
    simp only [chompOf, hend, Bool.not_false, if_true, Bool.false_eq_true, if_false]
    exact readBlockLines_open hs hend hrest
  | true =>
    have hlast : isBreak (s.getLast hs) = true := by rw [← endsInBreak_eq hs, hend]
    have hbreak : ∀ c ∈ s.getLast?, isBreak c = true := by
      simpa [List.getLast?_eq_some_getLast hs] using hlast
    simp only [chompOf, hend, Bool.not_true, Bool.false_eq_true, if_false, if_true, List.append_nil]
    split
    · rw [lines_indentLines hbreak, readBlockLines_keep (isLine_of_mem_lines hbreak) hrest,
        flatten_lines]
      rfl
    · next hone =>
      simp only [Bool.or_eq_true, decide_eq_true_eq, not_or, Bool.not_eq_true] at hone
      exact readBlockLines_closed hs hlast hone.1 hone.2 hrest

/-- The indentation is named before a line that does not show it. -/
def hintOf (s : List Char) : Option Nat :=
  s.head?.bind fun c => if c = ' ' || isBreak c then some 2 else none

theorem hintOf_cases (s : List Char) : hintOf s = some 2 ∨ hintOf s = none := by
  cases s with
  | nil => exact Or.inr rfl
  | cons c s => by_cases hc : c = ' ' ∨ isBreak c = true <;> simp [hintOf, hc]

theorem readHints_written (s rest : List Char) :
    readHints (indentHint s ++ chompHint s ++ '\n' :: rest) =
      (chompOf s, hintOf s, '\n' :: rest) := by
  have hhint : indentHint s = if hintOf s = some 2 then ['2'] else [] := by
    cases s with
    | nil => rfl
    | cons c s => by_cases hc : c = ' ' ∨ isBreak c = true <;> simp [indentHint, hintOf, hc]
  have hchomp : chompHint s = match chompOf s with
      | .strip => ['-']
      | .keep => ['+']
      | .clip => [] := by
    rw [chompHint, chompOf]
    split
    · rfl
    · split <;> rfl
  rw [hhint, hchomp]
  rcases hintOf_cases s with h | h <;> rw [h] <;> cases chompOf s <;> rfl

/-- The first line that is written shows how far a block stands in. -/
theorem findIndent_written (hs : s ≠ []) (htab : s.head? ≠ some '\t') (hhint : hintOf s = none)
    (rest : List Char) : findIndent 1 (lines (indentLines true s ++ rest)) = some 2 := by
  cases s with
  | nil => exact (hs rfl).elim
  | cons c s =>
    have hc : ¬ (c = ' ' ∨ isBreak c = true) := by
      intro hc
      simp [hintOf, hc] at hhint
    simp only [not_or, Bool.not_eq_true] at hc
    have htab : c ≠ '\t' := by simpa using htab
    have hspace : isBreak ' ' = false := by decide
    obtain ⟨l, ls, hlines⟩ := lines_visible hc.2 (indentLines false s ++ rest)
    have hwritten : indentLines true (c :: s) ++ rest =
        ' ' :: ' ' :: c :: (indentLines false s ++ rest) := by
      simp [indentLines, hc.2]
    have hfirst : lines (indentLines true (c :: s) ++ rest) = (' ' :: ' ' :: c :: l) :: ls := by
      rw [hwritten, lines, if_neg (by simp [hspace]), lines, if_neg (by simp [hspace]), hlines]
    simp [hfirst, findIndent, hc.1, hc.2, htab]

theorem readBlock_written (hs : s ≠ []) (htab : s.head? ≠ some '\t') (hrest : IsNextLine rest) :
    readBlock true 1 ((literalBlock s).tail ++ rest) = some (s, '\n' :: rest) := by
  have hsign : (literalBlock s).tail ++ rest = indentHint s ++ chompHint s ++ '\n' ::
      (indentLines true s ++ (if endsInBreak s then [] else ['\n']) ++ rest) := by
    simp [literalBlock]
  have hread := readBlockLines_written hs hrest
  have hindent : hintOf s = none → findIndent 1
      (lines (indentLines true s ++ (if endsInBreak s then [] else ['\n']) ++ rest)) = some 2 := by
    intro hhint
    rw [List.append_assoc]
    exact findIndent_written hs htab hhint _
  have hspacing : isSpacing '\n' = false := by decide
  rw [hsign, readBlock, readHints_written]
  generalize indentLines true s ++ _ ++ rest = body at hread hindent
  rcases hintOf_cases s with hhint | hhint
  · simp [hhint, hspacing, isBreak_lineFeed, hread, flatten_lines]
  · simp [hhint, hspacing, isBreak_lineFeed, hindent hhint, hread, flatten_lines]

end Linkshelf.Yaml
