import Linkshelf.Proofs.Yaml.Spelled

/-! Fields are read as they were written: all of them, in their order, and each with its value. -/
namespace Linkshelf.Yaml

variable {c d : Char} {s key rest : List Char} {fuel : Nat} {fields : List (String × String)}

theorem ne_of_isPrintable (hc : isPrintable c = true) (hd : isPrintable d = false) : c ≠ d := by
  rintro rfl
  simp [hc] at hd

theorem unifyBreaks_eq_self (h : ∀ c ∈ s, isPrintable c = true) : unifyBreaks s = s := by
  induction s with
  | nil => rfl
  | cons c s ih =>
    have hc := h c List.mem_cons_self
    have hreturn : c ≠ '\r' := ne_of_isPrintable hc (by decide)
    have hnext : c ≠ '\x85' := ne_of_isPrintable hc (by decide)
    have hrest := ih fun d hd => h d (List.mem_cons_of_mem c hd)
    simp [unifyBreaks, hreturn, hnext, hrest]

theorem clean?_eq_self (h : ∀ c ∈ s, isPrintable c = true) : clean? s = some s := by
  have hmark : s.head? ≠ some '\ufeff' := by
    intro hhead
    exact absurd (h _ (List.mem_of_head? hhead)) (by decide)
  have hall : s.all isAllowed = true := by
    rw [List.all_eq_true]
    intro c hc
    simp [isAllowed, h c hc]
  rw [clean?]
  · rw [if_pos hall, unifyBreaks_eq_self h]
  · rintro t rfl
    exact hmark rfl

/-- Lower-case letters and low lines. -/
def isNameChar (c : Char) : Bool := ('a' ≤ c && c ≤ 'z') || c = '_'

/-- A name that stands as a key. -/
def IsName (key : List Char) : Prop := key ≠ [] ∧ ∀ c ∈ key, isNameChar c = true

theorem isNameChar_facts (h : isNameChar c = true) :
    isPrintable c = true ∧ isBreak c = false ∧ isSpacing c = false ∧ isIndicator c = false ∧
      c ∉ [' ', ':', '#', '-', '.', '?', '|', '>'] := by
  have hcode : c.toNat < 128 := by
    simp only [isNameChar, Bool.or_eq_true, Bool.and_eq_true, decide_eq_true_eq] at h
    rcases h with ⟨-, h⟩ | rfl
    · have hle : c.toNat ≤ 122 := h
      omega
    · decide
  have hall : ∀ n, n < 128 → isNameChar (Char.ofNat n) = true →
      isPrintable (Char.ofNat n) = true ∧ isBreak (Char.ofNat n) = false ∧
        isSpacing (Char.ofNat n) = false ∧ isIndicator (Char.ofNat n) = false ∧
        Char.ofNat n ∉ [' ', ':', '#', '-', '.', '?', '|', '>'] := by decide +kernel
  have hc := hall c.toNat hcode
  rw [Char.ofNat_toNat] at hc
  exact hc h

theorem hasPair_eq_false {p q : Char → Bool} (h : ∀ c ∈ s, p c = false) :
    hasPair p q s = false := by
  induction s with
  | nil => rfl
  | cons c s ih =>
    have hrest := ih fun d hd => h d (List.mem_cons_of_mem c hd)
    cases s with
    | nil => rfl
    | cons d s => simp [hasPair, h c List.mem_cons_self, hrest]

theorem hasColon_eq_false (h : ∀ c ∈ s, c ≠ ':') : hasColon s = false := by
  induction s with
  | nil => rfl
  | cons c s ih =>
    have hrest := ih fun d hd => h d (List.mem_cons_of_mem c hd)
    simp [hasColon, isColon, h c List.mem_cons_self, hrest]

theorem IsName.isPlain (h : IsName key) : IsPlain key where
  printable c hc := (isNameChar_facts (h.2 c hc)).1
  unbroken c hc := (isNameChar_facts (h.2 c hc)).2.1
  colon := hasColon_eq_false fun c hc => by
    have hfacts := (isNameChar_facts (h.2 c hc)).2.2.2.2
    rintro rfl
    exact hfacts (by decide)
  hash := hasPair_eq_false fun c hc => by
    have hfacts := (isNameChar_facts (h.2 c hc)).2.2.2.2
    simp only [isSpace, decide_eq_false_iff_not]
    rintro rfl
    exact hfacts (by decide)
  last hlast := by
    have hfacts := (isNameChar_facts (h.2 ' ' (List.mem_of_getLast? hlast))).2.2.2.2
    exact hfacts (by decide)

theorem IsName.exists_cons (h : IsName key) : ∃ c s, key = c :: s ∧ isNameChar c = true := by
  obtain ⟨c, s, rfl⟩ := List.exists_cons_of_ne_nil h.1
  exact ⟨c, s, rfl, h.2 c List.mem_cons_self⟩

theorem IsName.startsPlain (h : IsName key) : Yaml.startsPlain false key = true := by
  obtain ⟨c, s, rfl, hc⟩ := h.exists_cons
  obtain ⟨-, hbreak, hspacing, hindicator, hnone⟩ := isNameChar_facts hc
  simp only [List.mem_cons, List.not_mem_nil, or_false, not_or] at hnone
  simp [Yaml.startsPlain, hbreak, hspacing, hindicator, hnone]

theorem IsName.isNextLine (h : IsName key) (rest : List Char) : IsNextLine (key ++ rest) := by
  obtain ⟨c, s, rfl, hc⟩ := h.exists_cons
  obtain ⟨-, hbreak, hspacing, -, hnone⟩ := isNameChar_facts hc
  simp only [List.mem_cons, List.not_mem_nil, or_false, not_or] at hnone
  intro d hd
  obtain rfl : c = d := by simpa using hd
  exact ⟨hbreak, hspacing, hnone.2.2.1, hnone.2.2.2.1, hnone.2.2.2.2.1⟩

theorem readKey?_name (h : IsName key) (rest : List Char) :
    readKey? (key ++ ':' :: ' ' :: rest) = some (scalar true key, ' ' :: rest) := by
  have hread : readFlow false true 0 (enough (key ++ ':' :: ' ' :: rest))
      (key ++ ':' :: ' ' :: rest) = some (scalar true key, ':' :: ' ' :: rest) :=
    readFlow_plain h.isPlain h.startsPlain (endsPlain_colon true 0 rest)
  have hcolon : (key ++ ':' :: ' ' :: rest).head? ≠ some ':' := by
    obtain ⟨c, s, rfl, hc⟩ := h.exists_cons
    intro hhead
    obtain rfl : c = ':' := by simpa using hhead
    cases hc
  have hsame : isSameLine (key ++ ':' :: ' ' :: rest) (':' :: ' ' :: rest) = true := by
    have hkey : ∀ c ∈ key, (!isBreak c) = true := fun c hc => by simp [h.isPlain.unbroken c hc]
    rw [isSameLine, List.takeWhile_append_of_pos hkey]
    simp
  rw [readKey?, if_neg hcolon]
  simp only [hread]
  simp [afterColon?, hsame, isApart, isSpacing]

/-- A field as it is read. -/
def member (f : String × String) : Yaml × Yaml :=
  (scalar true f.1.toList, scalar (style f.2.toList = .plain) f.2.toList)

theorem isNextLine_fieldsText (h : ∀ f ∈ fields, IsName f.1.toList) :
    IsNextLine (fieldsText fields) := by
  cases fields with
  | nil => simp [fieldsText, IsNextLine]
  | cons f fields =>
    have hname := (h f List.mem_cons_self).isNextLine
      (':' :: ' ' :: spelled f.2.toList ++ fieldsText fields)
    simpa [fieldsText, field] using hname

theorem readMembers_fieldsText (hne : fields ≠ []) (h : ∀ f ∈ fields, IsName f.1.toList)
    (hfuel : fields.length + 2 ≤ fuel) :
    readMembers 0 fuel (fieldsText fields) = some (fields.map member, ['\n']) := by
  induction fields generalizing fuel with
  | nil => exact (hne rfl).elim
  | cons f fields ih =>
    obtain ⟨fuel, rfl⟩ : ∃ m, fuel = m + 3 := ⟨fuel - 3, by simp at hfuel; omega⟩
    have hrest := fun g hg => h g (List.mem_cons_of_mem f hg)
    have hnext := isNextLine_fieldsText hrest
    have htext : fieldsText (f :: fields) = f.1.toList ++ ':' :: ' ' ::
        (spelled f.2.toList ++ fieldsText fields) := by
      simp [fieldsText, field]
    have hkey := readKey?_name (h f List.mem_cons_self) (spelled f.2.toList ++ fieldsText fields)
    have hvalue := readValue_spelled hnext f.2.toList fuel
    have hspot : nextSpot false false 0 ('\n' :: fieldsText fields) =
        some ⟨true, 0, fieldsText fields⟩ := by
      rw [nextSpot, if_pos isBreak_lineFeed, hnext.nextSpot_eq]
    rw [htext, readMembers]
    rw [List.cons_append] at hvalue
    simp only [hkey, hvalue, hspot, Option.bind_eq_bind, Option.bind_some]
    cases fields with
    | nil => rfl
    | cons g fields =>
      have hmore : (fieldsText (g :: fields)).isEmpty = false := by
        obtain ⟨c, s, hc, -⟩ := (hrest g List.mem_cons_self).exists_cons
        simp [fieldsText, field, hc]
      have hmembers : readMembers 0 (fuel + 2) (fieldsText (g :: fields)) =
          some ((g :: fields).map member, ['\n']) :=
        ih (by simp) hrest (by simp at hfuel ⊢; omega)
      simp [hmore, hnext.isEdge_eq, hmembers, member]

theorem isPrintable_fieldsText (h : ∀ f ∈ fields, IsName f.1.toList) (hc : c ∈ fieldsText fields) :
    isPrintable c = true := by
  obtain ⟨f, hf, hc⟩ := List.mem_flatMap.mp hc
  simp only [field, List.mem_append, List.mem_cons] at hc
  rcases hc with hc | rfl | rfl | hc
  · exact (isNameChar_facts ((h f hf).2 c hc)).1
  · decide
  · decide
  · exact isPrintable_spelled hc

theorem length_le_fieldsText (fields : List (String × String)) :
    fields.length ≤ (fieldsText fields).length := by
  induction fields with
  | nil => rfl
  | cons f fields ih =>
    have hlength : (fieldsText (f :: fields)).length =
        (field f.1 f.2).length + (fieldsText fields).length := by simp [fieldsText]
    have hfield : 1 ≤ (field f.1 f.2).length := by simp [field]; omega
    rw [hlength, List.length_cons]
    omega

theorem fieldsText_cons (f : String × String) (fields : List (String × String)) :
    fieldsText (f :: fields) =
      f.1.toList ++ ':' :: ' ' :: (spelled f.2.toList ++ fieldsText fields) := by
  simp [fieldsText, field]

theorem readNode_fieldsText (hne : fields ≠ []) (h : ∀ f ∈ fields, IsName f.1.toList) :
    readNode false 0 0 (enough (fieldsText fields)) (fieldsText fields) =
      some (mapping (fields.map member), ['\n']) := by
  have hlength := length_le_fieldsText fields
  have hmembers : readMembers 0 (4 * (fieldsText fields).length + 7) (fieldsText fields) =
      some (fields.map member, ['\n']) := readMembers_fieldsText hne h (by omega)
  obtain ⟨f, others, rfl⟩ := List.exists_cons_of_ne_nil hne
  have hname := h f List.mem_cons_self
  have hkey := readKey?_name hname (spelled f.2.toList ++ fieldsText others)
  rw [← fieldsText_cons] at hkey
  obtain ⟨c, s, hfirst, hc⟩ := hname.exists_cons
  obtain ⟨-, -, -, -, hnone⟩ := isNameChar_facts hc
  simp only [List.mem_cons, List.not_mem_nil, or_false, not_or] at hnone
  have htext : fieldsText (f :: others) =
      c :: (s ++ ':' :: ' ' :: (spelled f.2.toList ++ fieldsText others)) := by
    rw [fieldsText_cons, hfirst, List.cons_append]
  have hentry : isEntry (fieldsText (f :: others)) = false := by
    rw [htext, isEntry]
    rintro t ht
    exact hnone.2.2.2.1 (List.cons.inj ht).1
  rw [enough, readNode]
  · simp [hentry, hkey, hmembers]
  · rintro t ht
    rw [htext] at ht
    exact hnone.2.2.2.2.2.2.1 (List.cons.inj ht).1
  · rintro t ht
    rw [htext] at ht
    exact hnone.2.2.2.2.2.2.2 (List.cons.inj ht).1

/-- A text of fields is read as the mapping of the fields. -/
theorem read?_fieldsText (hne : fields ≠ []) (h : ∀ f ∈ fields, IsName f.1.toList) :
    read? (fieldsText fields) = some (mapping (fields.map member)) := by
  have hclean := clean?_eq_self fun c hc => isPrintable_fieldsText h hc
  have hspot := (isNextLine_fieldsText h).nextSpot_eq true 0
  have hedge := (isNextLine_fieldsText h).isEdge_eq
  simp only [isEdge, Bool.or_eq_false_iff] at hedge
  have hsome : fieldsText fields ≠ [] := by
    have hlength := length_le_fieldsText fields
    have hpos := List.length_pos_of_ne_nil hne
    exact List.ne_nil_of_length_pos (by omega)
  have hover : isOver ['\n'] = true := by decide
  simp [read?, hclean, hspot, hsome, hedge, readNode_fieldsText hne h, hover]

end Linkshelf.Yaml
