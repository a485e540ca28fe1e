import Linkshelf.Proofs.Text.Hex
import Linkshelf.Proofs.Text.Utf8
import Linkshelf.Proofs.Yaml.Plain

/-! Text in quotes is read as the text that was quoted. -/
namespace Linkshelf.Yaml

variable {c d mark name : Char} {s tail pending ds : List Char} {atStart oneLine : Bool} {gap : Gap}
  {code n width min fuel : Nat}

theorem isEdge_of_ne (hdash : c ≠ '-') (hdot : c ≠ '.') (s : List Char) :
    isEdge (c :: s) = false := by
  cases s with
  | nil => rfl
  | cons a s =>
    cases s with
    | nil => rfl
    | cons b s => simp [isEdge, isMark, hdash, hdot]

theorem hasPair_head {p q : Char → Bool} (h : hasPair p q (c :: s) = false) (hc : p c = true) :
    ∀ d ∈ s.head?, q d = false := by
  intro d hd
  obtain ⟨t, rfl⟩ := List.head?_eq_some_iff.mp hd
  simpa [hc] using (Bool.or_eq_false_iff.mp h).1

/-- What has been read in single quotes since the last visible character: spaces, or line ends of
which the first is no line feed. -/
inductive Pending : Bool → Gap → List Char → Prop
  | spacing (blanks : List Char) : Pending false (.spacing blanks) blanks
  | folded (first : Char) (more : List Char) : first ≠ '\n' →
      Pending true (.folded [first] more) (first :: more)

theorem Pending.text_eq (h : Pending atStart gap pending) : gap.text = pending := by
  cases h with
  | spacing => rfl
  | folded first more hfirst => simp [Gap.text, hfirst]

theorem Pending.add_break (h : Pending atStart gap pending) (hc : isBreak c = true)
    (hfeed : c ≠ '\n') (hbare : atStart = true ∨ pending = []) :
    Pending true (gap.add c) (pending ++ [c]) := by
  cases h with
  | spacing =>
    obtain rfl : pending = [] := by simpa using hbare
    simpa [Gap.add, hc] using Pending.folded c [] hfeed
  | folded first more hfirst => simpa [Gap.add, hc] using Pending.folded first (more ++ [c]) hfirst

theorem Pending.add_space (h : Pending false gap pending) :
    Pending false (gap.add ' ') (pending ++ [' ']) := by
  cases h with
  | spacing => exact .spacing (pending ++ [' '])

/-- The indentation of a line that is not the first. -/
def indentation (atStart : Bool) : List Char := if atStart then [' ', ' '] else []

def doubled (c : Char) : List Char := if c = '\'' then ['\'', '\''] else [c]

/-- The text of single quotes from a character on, at the start of a line or within it. -/
def quotedFrom (atStart : Bool) : List Char → List Char
  | [] => indentation atStart ++ ['\'']
  | c :: s =>
    if isBreak c then c :: quotedFrom true s
    else indentation atStart ++ doubled c ++ quotedFrom false s

theorem indentLines_doubled (hc : isBreak c = false) (s : List Char) :
    indentLines atStart (doubled c ++ s) =
      indentation atStart ++ doubled c ++ indentLines false s := by
  have hquote : isBreak '\'' = false := by decide
  by_cases hq : c = '\''
  · simp [doubled, hq, indentLines, indentation, hquote]
  · simp [doubled, hq, indentLines, indentation, hc]

theorem quotedFrom_eq (atStart : Bool) (s : List Char) :
    quotedFrom atStart s = indentLines atStart (s.flatMap doubled) ++
      indentation ((s.getLast?.map isBreak).getD atStart) ++ ['\''] := by
  induction s generalizing atStart with
  | nil => simp [quotedFrom, indentLines]
  | cons c s ih =>
    have hlast : ((c :: s).getLast?.map isBreak).getD atStart =
        (s.getLast?.map isBreak).getD (isBreak c) := by
      rw [List.getLast?_cons, Option.map_some, Option.getD_some, Option.getD_map]
    rw [hlast, quotedFrom, List.flatMap_cons]
    by_cases hc : isBreak c = true
    · have hdoubled : doubled c = [c] := by
        have hquote : c ≠ '\'' := isBreak_ne hc (by decide)
        simp [doubled, hquote]
      simp [hc, hdoubled, indentLines, ih]
    · have hc : isBreak c = false := by simpa using hc
      simp [hc, indentLines_doubled hc, ih]

theorem singleQuoted_eq (s : List Char) : singleQuoted s = '\'' :: quotedFrom false s := by
  have hlast : (s.getLast?.map isBreak).getD false = endsInBreak s := by
    rw [endsInBreak]
    cases s.getLast? <;> rfl
  rw [quotedFrom_eq, hlast]
  rfl

/-- May stand in single quotes: no line feed, and no space next to a line end. -/
structure IsSingle (s : List Char) : Prop where
  printable : ∀ c ∈ s, isPrintable c = true
  noFeed : ∀ c ∈ s, c ≠ '\n'
  spaceBreak : hasPair isSpace isBreak s = false
  breakSpace : hasPair isBreak isSpace s = false

theorem IsSingle.of_cons (h : IsSingle (c :: s)) : IsSingle s where
  printable d hd := h.printable d (List.mem_cons_of_mem c hd)
  noFeed d hd := h.noFeed d (List.mem_cons_of_mem c hd)
  spaceBreak := hasPair_tail h.spaceBreak
  breakSpace := hasPair_tail h.breakSpace

/-- An indentation adds nothing to the line ends before it. -/
theorem readSingle_indentation (h : Pending atStart gap pending) (s : List Char) :
    readSingle gap (indentation atStart ++ s) = readSingle gap s := by
  cases h with
  | spacing => rfl
  | folded first more hfirst =>
    have hspace : isBreak ' ' = false := by decide
    simp [indentation, readSingle, hspace, isSpacing, Gap.add]

theorem isEdge_quotedFrom (s tail : List Char) : isEdge (quotedFrom true s ++ tail) = false := by
  cases s with
  | nil => exact isEdge_of_ne (by decide) (by decide) _
  | cons c s =>
    rw [quotedFrom]
    split
    · next hc => exact isEdge_of_ne (isBreak_ne hc (by decide)) (isBreak_ne hc (by decide)) _
    · exact isEdge_of_ne (by decide) (by decide) _

theorem readSingle_quotedFrom (h : IsSingle s) (hp : Pending atStart gap pending)
    (hbreak : ∀ c ∈ s.head?, isBreak c = true → atStart = true ∨ pending = [])
    (hspace : ∀ c ∈ s.head?, c = ' ' → atStart = false) (htail : tail.head? ≠ some '\'') :
    readSingle gap (quotedFrom atStart s ++ tail) = some (pending ++ s, tail) := by
  induction s generalizing atStart gap pending with
  | nil =>
    rw [quotedFrom, List.append_assoc, readSingle_indentation hp, ← hp.text_eq]
    cases tail with
    | nil => simp [readSingle]
    | cons d tail =>
      have hd : d ≠ '\'' := by simpa using htail
      simp [readSingle, hd]
  | cons c s ih =>
    by_cases hc : isBreak c = true
    · have hquote : c ≠ '\'' := isBreak_ne hc (by decide)
      have hnext := hp.add_break hc (h.noFeed c List.mem_cons_self) (hbreak c rfl hc)
      have hrest := ih h.of_cons hnext (fun _ _ _ => Or.inl rfl) fun d hd hspace => by
        have hpair := hasPair_head h.breakSpace hc d hd
        simp [isSpace, hspace] at hpair
      simp [quotedFrom, readSingle, hc, hquote, isEdge_quotedFrom, hrest]
    · have hc : isBreak c = false := by simpa using hc
      have hspacing := isSpacing_iff (h.printable c List.mem_cons_self)
      have hnone : Pending false Gap.none [] := .spacing []
      by_cases hsp : c = ' '
      · subst c
        obtain rfl := hspace ' ' rfl rfl
        have hrest := ih h.of_cons hp.add_space (fun d hd hbreak => by
          have hpair := hasPair_head h.spaceBreak (by rfl) d hd
          simp [hpair] at hbreak) (by simp)
        simpa [quotedFrom, indentation, doubled, readSingle, hc, isSpacing] using hrest
      · have hrest := ih h.of_cons hnone (fun _ _ _ => Or.inr rfl) (by simp)
        simp only [quotedFrom, hc, List.append_assoc, if_false, Bool.false_eq_true,
          readSingle_indentation hp]
        have hvisible : isSpacing c = false := by simpa [hsp] using hspacing
        by_cases hquote : c = '\''
        · simp [doubled, hquote, readSingle, hrest, followed, hp.text_eq]
        · simp [doubled, hquote, readSingle, hc, hvisible, hrest, followed, hp.text_eq]

theorem readDouble_hex (hdigits : ∀ d ∈ ds, (Hex.value? d).isSome) (hne : ds ≠ [])
    (hvalid : (Hex.code code ds).isValidChar) (gap : Gap) (s : List Char) :
    readDouble (.hex ds.length code) gap (ds ++ s) =
      followed [Char.ofNat (Hex.code code ds)] (readDouble .plain .none s) := by
  induction ds generalizing code with
  | nil => exact (hne rfl).elim
  | cons d ds ih =>
    obtain ⟨v, hv⟩ := Option.isSome_iff_exists.mp (hdigits d List.mem_cons_self)
    have hcode : Hex.code code (d :: ds) = Hex.code (code * 16 + v) ds := by simp [Hex.code, hv]
    rw [hcode] at hvalid ⊢
    cases ds with
    | nil =>
      have hvalid : (code * 16 + v).isValidChar := hvalid
      simp [readDouble, hv, hvalid, Hex.code]
    | cons e ds =>
      have hrest := ih (fun x hx => hdigits x (List.mem_cons_of_mem d hx)) (by simp) hvalid
      simpa [readDouble, hv] using hrest

/-- Reading a text in double quotes gives the character. -/
def Escapes (text : List Char) (c : Char) : Prop :=
  ∀ gap s, readDouble .plain gap (text ++ s) =
    followed gap.text (followed [c] (readDouble .plain .none s))

theorem escapes_hex (hmark : hexWidth? mark = some width) (hname : namedEscape? mark = none)
    (hbreak : isBreak mark = false) (hwidth : 0 < width) (hc : c.toNat < 16 ^ width) :
    Escapes (hexEscape mark width c.toNat) c := by
  intro gap s
  obtain ⟨hcode, hdigits⟩ := Hex.code_toDigits c.toNat
  have hlength : (Nat.toDigits 16 c.toNat).length ≤ width :=
    (Nat.length_toDigits_le_iff (by decide) hwidth).mpr hc
  generalize hds : (Nat.toDigits 16 c.toNat).map Char.toUpper = ds at hcode hdigits
  have hlen : ds.length ≤ width := by simpa [← hds] using hlength
  have hpos : ds ≠ [] := by
    rintro rfl
    simp [Nat.toDigits_ne_nil] at hds
  let all := List.replicate (width - ds.length) '0' ++ ds
  have hall : all.length = width := by simp [all]; omega
  have hvalue : Hex.code 0 all = c.toNat := by rw [Hex.code_append, Hex.code_zeros, hcode]
  have hdigit : ∀ d ∈ all, (Hex.value? d).isSome := by
    intro d hd
    rcases List.mem_append.mp hd with hd | hd
    · rw [List.eq_of_mem_replicate hd]
      decide
    · exact hdigits d hd
  have hread : readDouble (.hex all.length 0) .none (all ++ s) =
      followed [Char.ofNat (Hex.code 0 all)] (readDouble .plain .none s) :=
    readDouble_hex hdigit (by simp [all, hpos]) (hvalue ▸ c.valid) .none s
  rw [hall, hvalue, Char.ofNat_toNat] at hread
  simpa [hexEscape, hds, readDouble, hbreak, hname, hmark, all] using
    congrArg (followed gap.text) hread

theorem escapes_name (h : escapeName? c = some name) : Escapes ['\\', name] c := by
  have hname : namedEscape? name = some c ∧ isBreak name = false := by
    unfold escapeName? at h
    split at h <;> cases h <;> decide
  intro gap s
  simp [readDouble, hname]

theorem escapes_doubleQuotedChar (h : escapeName? c ≠ none ∨ isPrintable c = false) :
    Escapes (doubleQuotedChar c) c := by
  rw [doubleQuotedChar]
  cases hname : escapeName? c with
  | some name => exact escapes_name hname
  | none =>
    have hprint : isPrintable c = false := by simpa [hname] using h
    have hvalid : c.toNat < 0x110000 := by
      have hrange := Utf8.toNat_range c
      omega
    simp only [hprint, if_false, Bool.false_eq_true]
    split
    · next hc => exact escapes_hex (by decide) (by decide) (by decide) (by decide) hc
    · split
      · next hc => exact escapes_hex (by decide) (by decide) (by decide) (by decide) hc
      · exact escapes_hex (by decide) (by decide) (by decide) (by decide) (by omega)

theorem readDouble_quoted (s tail blanks : List Char) :
    readDouble .plain (.spacing blanks) (s.flatMap doubleQuotedChar ++ '"' :: tail) =
      some (blanks ++ s, tail) := by
  induction s generalizing blanks with
  | nil => simp [readDouble, Gap.text]
  | cons c s ih =>
    have hrest := ih []
    rw [List.flatMap_cons, List.append_assoc]
    by_cases h : escapeName? c ≠ none ∨ isPrintable c = false
    · rw [escapes_doubleQuotedChar h, Gap.none, hrest]
      simp [followed, Gap.text]
    · simp only [ne_eq, not_or, not_not, Bool.not_eq_false] at h
      obtain ⟨hname, hprint⟩ := h
      have hne (d : Char) (hd : escapeName? d ≠ none) : c ≠ d := by
        rintro rfl
        exact hd hname
      have hbreak : isBreak c = false := by
        simp [isBreak, hne '\n' (by decide), hne lineSeparator (by decide),
          hne paragraphSeparator (by decide)]
      have hspacing := isSpacing_iff hprint
      have hchar : doubleQuotedChar c = [c] := by simp [doubleQuotedChar, hname, hprint]
      by_cases hc : c = ' '
      · subst c
        simpa [hchar, readDouble, hbreak, isSpacing, Gap.add] using ih (blanks ++ [' '])
      · have hvisible : isSpacing c = false := by simpa [hc] using hspacing
        simp [hchar, readDouble, hne '"' (by decide), hne '\\' (by decide), hbreak, hvisible,
          Gap.text, followed, Gap.none, hrest]

theorem readFlow_singleQuoted (h : IsSingle s) (htail : tail.head? ≠ some '\'') :
    readFlow false oneLine min (fuel + 1) (singleQuoted s ++ tail) =
      some (scalar false s, tail) := by
  have hread := readSingle_quotedFrom h (.spacing []) (fun _ _ _ => Or.inr rfl) (by simp) htail
  rw [singleQuoted_eq]
  simp [readFlow, skipProperties, Gap.none, hread]

theorem readFlow_doubleQuoted (s tail : List Char) :
    readFlow false oneLine min (fuel + 1) (doubleQuoted s ++ tail) =
      some (scalar false s, tail) := by
  have hread := readDouble_quoted s tail []
  simp [doubleQuoted, readFlow, skipProperties, Gap.none, hread]

end Linkshelf.Yaml
