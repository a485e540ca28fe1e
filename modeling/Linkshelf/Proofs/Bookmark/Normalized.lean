import Mathlib.Data.List.Chain
import Linkshelf.Proofs.Bookmark.Tags

/-! What normalizing makes of tags: the segments of each item with single spaces in them, joined by
slashes. Nothing is left to normalize. -/
namespace Linkshelf

namespace Chars

variable {c : Char} {cs ds : List Char} {ps : List (List Char)}

section Squeeze

/-- Each run of blanks becomes one space. -/
def squeeze : List Char → List Char
  | [] => []
  | c :: cs =>
    if isBlank c then
      if cs.head?.any isBlank then squeeze cs else ' ' :: squeeze cs
    else c :: squeeze cs

theorem words_cons_blank (hc : isBlank c = true) (cs : List Char) : words (c :: cs) = words cs := by
  simp [words, split, hc]

/-- A character that is not blank is a word of its own before a blank, and starts the word that is
there before any other. -/
theorem words_cons (hc : isBlank c = false) (cs : List Char) :
    words (c :: cs) =
      if cs.head?.all isBlank then [c] :: words cs else (words cs).modifyHead (c :: ·) := by
  cases cs with
  | nil => simp [words, split, hc]
  | cons d cs =>
    by_cases hd : isBlank d = true
    · simp [words, split, hc, hd]
    · obtain ⟨p, ps, hsplit⟩ := List.exists_cons_of_ne_nil (split_ne_nil isBlank cs)
      simp [words, split, hc, hd, hsplit]

theorem words_append_blanks (h : ∀ c ∈ ds, isBlank c = true) (cs : List Char) :
    words (cs ++ ds) = words cs := by
  induction cs with
  | nil =>
    induction ds with
    | nil => rfl
    | cons d ds ih =>
      have hrest := ih fun c hc => h c (List.mem_cons_of_mem d hc)
      rw [List.nil_append, words_cons_blank (h d List.mem_cons_self)]
      exact hrest
  | cons c cs ih =>
    rw [List.cons_append]
    by_cases hc : isBlank c = true
    · rw [words_cons_blank hc, words_cons_blank hc, ih]
    · have hhead : (cs ++ ds).head?.all isBlank = cs.head?.all isBlank := by
        cases cs with
        | nil =>
          cases ds with
          | nil => rfl
          | cons d ds => simpa using h d List.mem_cons_self
        | cons d cs => rfl
      rw [words_cons (by simpa using hc), words_cons (by simpa using hc), ih, hhead]

theorem words_trim (cs : List Char) : words (trim cs) = words cs := by
  obtain ⟨left, right, hcs, hleft, hright⟩ := exists_eq_append_trim cs
  have hskip : ∀ rest, words (left ++ rest) = words rest := by
    intro rest
    clear hcs
    induction left with
    | nil => rfl
    | cons c left ih =>
      rw [List.cons_append, words_cons_blank (hleft c List.mem_cons_self)]
      exact ih fun d hd => hleft d (List.mem_cons_of_mem c hd)
  conv_rhs => rw [hcs]
  rw [hskip, words_append_blanks hright]

theorem isBlank_of_words_eq_nil (h : words cs = []) : ∀ c ∈ cs, isBlank c = true := by
  induction cs with
  | nil => simp
  | cons d cs ih =>
    by_cases hd : isBlank d = true
    · rw [words_cons_blank hd] at h
      exact List.forall_mem_cons.mpr ⟨hd, ih h⟩
    · rw [words_cons (by simpa using hd)] at h
      split at h
      · cases h
      · next hhead =>
        refine (hhead ?_).elim
        rw [Option.all_eq_true]
        intro c hc
        exact ih (by simpa using h) c (List.mem_of_head? hc)

theorem join_modifyHead_cons (c : Char) (sep : List Char) (h : ps ≠ []) :
    join sep (ps.modifyHead (c :: ·)) = c :: join sep ps := by
  match ps, h with
  | [p], _ => rfl
  | p :: q :: ps, _ => rfl

/-- Up to a last character that is not blank, runs of blanks are what is between the words. -/
theorem squeeze_eq (h : ∀ c ∈ cs.getLast?, isBlank c = false) :
    squeeze cs = (if cs.head?.any isBlank then [' '] else []) ++ join [' '] (words cs) := by
  induction cs with
  | nil => rfl
  | cons c cs ih =>
    cases cs with
    | nil =>
      have hc : isBlank c = false := h c rfl
      simp [squeeze, words, split, hc, join]
    | cons d cs =>
      have hlast : ∀ e ∈ (d :: cs).getLast?, isBlank e = false := by
        rwa [List.getLast?_cons_cons] at h
      have hwords : words (d :: cs) ≠ [] := by
        intro hnil
        have hblank := isBlank_of_words_eq_nil hnil _ (List.getLast_mem (List.cons_ne_nil d cs))
        rw [hlast _ (List.getLast_mem_getLast? _)] at hblank
        cases hblank
      have hrest := ih hlast
      rw [List.head?_cons, Option.any_some] at hrest
      rw [squeeze, List.head?_cons, List.head?_cons, Option.any_some, Option.any_some]
      by_cases hc : isBlank c = true
      · rw [if_pos hc, if_pos hc, words_cons_blank hc]
        by_cases hd : isBlank d = true
        · rw [if_pos hd, hrest, if_pos hd]
        · rw [if_neg hd, hrest, if_neg hd]
          rfl
      · rw [if_neg hc, if_neg hc, words_cons (by simpa using hc), List.head?_cons, Option.all_some,
          hrest]
        by_cases hd : isBlank d = true
        · obtain ⟨w, ws, hw⟩ := List.exists_cons_of_ne_nil hwords
          rw [if_pos hd, if_pos hd, hw, join_cons_cons]
          rfl
        · rw [if_neg hd, if_neg hd, join_modifyHead_cons c _ hwords]
          rfl

theorem squeeze_eq_nil_iff : squeeze cs = [] ↔ cs = [] := by
  induction cs with
  | nil => rfl
  | cons c cs ih =>
    rw [squeeze]
    split
    · split
      · next hhead =>
        have hne : cs ≠ [] := by
          rintro rfl
          cases hhead
        simpa [ih] using hne
      · simp
    · simp

theorem isEmpty_squeeze (cs : List Char) : (squeeze cs).isEmpty = cs.isEmpty := by
  rw [Bool.eq_iff_iff, List.isEmpty_iff, List.isEmpty_iff, squeeze_eq_nil_iff]

theorem join_words (cs : List Char) : join [' '] (words cs) = squeeze (trim cs) := by
  by_cases h : trim cs = []
  · rw [← words_trim, h]
    rfl
  · have hsolid := isSolid_trim h
    have hhead : (trim cs).head?.any isBlank = false := by
      rw [Option.any_eq_false]
      exact hsolid.first
    rw [squeeze_eq hsolid.last, hhead, words_trim]
    rfl

end Squeeze

section Spacing

/-- A blank or a slash. -/
def divides (c : Char) : Bool := isBlank c || c == '/'

/-- The only blanks are spaces, and each space and each slash stands between two other characters. -/
structure IsSpaced (cs : List Char) : Prop where
  nonempty : cs ≠ []
  first : ∀ c ∈ cs.head?, divides c = false
  last : ∀ c ∈ cs.getLast?, divides c = false
  apart : cs.IsChain fun c d => divides c = false ∨ divides d = false
  blank : ∀ c ∈ cs, isBlank c = true → c = ' '

theorem isSpaced_of_forall (hne : cs ≠ []) (h : ∀ c ∈ cs, divides c = false) : IsSpaced cs where
  nonempty := hne
  first c hc := h c (List.mem_of_head? hc)
  last c hc := h c (List.mem_of_getLast? hc)
  apart := by
    apply List.Pairwise.isChain
    apply List.pairwise_of_forall_mem_list
    intro c hc d _
    exact Or.inl (h c hc)
  blank c hc hblank := by
    have hdivides := h c hc
    simp [divides, hblank] at hdivides

theorem IsSpaced.append (hcs : IsSpaced cs) (hds : IsSpaced ds) (hc : isBlank c = true → c = ' ') :
    IsSpaced (cs ++ [c] ++ ds) where
  nonempty := by simp [hcs.nonempty]
  first := by
    rw [List.append_assoc, List.head?_append_of_ne_nil _ hcs.nonempty]
    exact hcs.first
  last := by
    rw [List.getLast?_append_of_ne_nil _ hds.nonempty]
    exact hds.last
  apart := by
    rw [List.append_assoc, List.singleton_append, List.isChain_append, List.isChain_cons]
    refine ⟨hcs.apart, ⟨?_, hds.apart⟩, ?_⟩
    · intro d hd
      exact Or.inr (hds.first d hd)
    · intro d hd _ _
      exact Or.inl (hcs.last d hd)
  blank d hd hblank := by
    rw [List.mem_append, List.mem_append, List.mem_singleton] at hd
    rcases hd with (hd | rfl) | hd
    · exact hcs.blank d hd hblank
    · exact hc hblank
    · exact hds.blank d hd hblank

theorem isSpaced_join (hc : isBlank c = true → c = ' ') (hne : ps ≠ [])
    (h : ∀ p ∈ ps, IsSpaced p) : IsSpaced (join [c] ps) := by
  induction ps with
  | nil => exact (hne rfl).elim
  | cons p ps ih =>
    have hp := h p List.mem_cons_self
    cases ps with
    | nil => exact hp
    | cons q ps =>
      have hrest := ih (List.cons_ne_nil q ps) fun r hr => h r (List.mem_cons_of_mem p hr)
      exact hp.append hrest hc

theorem IsSegment.isSpaced (h : IsSegment cs) (hslash : '/' ∉ cs) : IsSpaced cs := by
  have hwords : words cs ≠ [] := by
    intro hnil
    have hspaced := h.spaced
    rw [hnil] at hspaced
    exact h.nonempty hspaced.symm
  rw [← h.spaced]
  apply isSpaced_join (fun _ => rfl) hwords
  intro w hw
  obtain ⟨hne, hchars⟩ := mem_words hw
  apply isSpaced_of_forall hne
  intro c hc
  obtain ⟨hmem, hblank⟩ := hchars c hc
  have hne : c ≠ '/' := by
    rintro rfl
    exact hslash hmem
  simp [divides, hblank, hne]

end Spacing

end Chars

/-- The text with one space for each run of blanks. -/
def Text.squeeze (s : String) : String := .ofList (Chars.squeeze s.toList)

variable {tag : String}

theorem IsCanonical.isSpaced (h : IsCanonical tag) : Chars.IsSpaced tag.toList := by
  rw [← Chars.join_split '/' tag.toList]
  apply Chars.isSpaced_join (by decide) (Chars.split_ne_nil _ _)
  intro p hp
  apply (h p hp).isSpaced
  intro hslash
  simpa using (Chars.mem_of_mem_split hp hslash).2

theorem ne_empty_of_mem_segments {name : String} (h : name ∈ TagPath.segments tag) :
    name ≠ "" := by
  obtain ⟨p, hp, rfl⟩ := List.mem_map.mp h
  simpa using (List.mem_filter.mp hp).2

/-- A tag is normalized segment by segment. -/
theorem normalizeTag_eq (tag : String) :
    normalizeTag tag = Text.join "/" ((TagPath.segments tag).map Text.squeeze) := by
  have hwords : (fun part => Chars.join [' '] (Chars.words part)) = Chars.squeeze ∘ Chars.trim :=
    funext Chars.join_words
  have hkept : (fun part : List Char => !part.isEmpty) ∘ Chars.squeeze = (!·.isEmpty) := by
    funext part
    rw [Function.comp_apply, Chars.isEmpty_squeeze]
  have hparts : ((TagPath.segments tag).map Text.squeeze).map String.toList =
      (((Chars.split (· == '/') tag.toList).map Chars.trim).filter (!·.isEmpty)).map
        Chars.squeeze := by
    simp [TagPath.segments, Text.squeeze, Function.comp_def]
  have hslash : "/".toList = ['/'] := rfl
  rw [normalizeTag, Text.join, hparts, hslash, hwords, ← List.map_map, List.filter_map, hkept]

theorem normalizeTag_eq_empty_iff : normalizeTag tag = "" ↔ TagPath.segments tag = [] := by
  rw [normalizeTag_eq, Text.join, String.ofList_eq_empty_iff]
  constructor
  · intro hjoin
    by_contra hne
    obtain ⟨name, names, hnames⟩ := List.exists_cons_of_ne_nil hne
    have hname : name ≠ "" := ne_empty_of_mem_segments (hnames ▸ List.mem_cons_self)
    have hchars : Chars.squeeze name.toList ≠ [] := by
      simpa [Chars.squeeze_eq_nil_iff] using hname
    rw [hnames] at hjoin
    cases names with
    | nil => exact hchars (by simpa [Chars.join, Text.squeeze] using hjoin)
    | cons other names => simp [Chars.join_cons_cons] at hjoin
  · intro hnil
    rw [hnil]
    rfl

/-- Items without segments are dropped, and each other item gives one tag. -/
theorem normalizeTags_eq (tags : TagList) :
    normalizeTags tags = ((tags.items.map TagPath.segments).filter (· ≠ [])).map fun names =>
      Text.join "/" (names.map Text.squeeze) := by
  rw [normalizeTags]
  induction tags.items with
  | nil => rfl
  | cons item items ih =>
    rw [List.map_cons, List.map_cons, List.filter_cons, List.filter_cons, ih, normalizeTag_eq]
    by_cases hnone : TagPath.segments item = []
    · simp [hnone, Text.join, Chars.join]
    · have hkept : normalizeTag item ≠ "" := mt normalizeTag_eq_empty_iff.mp hnone
      rw [normalizeTag_eq] at hkept
      simp [hnone, hkept]

/-- Normalized tags are normal: they stay as they are. Each is its own segments with slashes between
them, and has no blanks but single spaces inside segments. They are the items with segments, in
their order, with the segments squeezed and joined. -/
theorem normalizeTags_normal (tags : TagList) :
    normalizeTags (.list (normalizeTags tags)) = normalizeTags tags ∧
    (∀ tag ∈ normalizeTags tags,
      tag ≠ "" ∧ tag = Text.join "/" (TagPath.segments tag) ∧ Chars.IsSpaced tag.toList) ∧
    normalizeTags tags = ((tags.items.map TagPath.segments).filter (· ≠ [])).map fun names =>
      Text.join "/" (names.map Text.squeeze) := by
  refine ⟨?_, ?_, ?_⟩
  · apply normalizeTags_of_isCanonical
    intro tag htag
    exact isCanonical_of_mem_normalizeTags htag
  · intro tag htag
    have hcanonical := isCanonical_of_mem_normalizeTags htag
    exact ⟨hcanonical.ne_empty, hcanonical.join_segments.symm, hcanonical.isSpaced⟩
  · exact normalizeTags_eq tags

/-- Three items, one of them without segments, with blanks of two kinds. -/
theorem normalizeTags_normal_csv :
    ∃ tags, tags = TagList.csv " a /\t b  c ,/ ,x//y" ∧ normalizeTags tags = ["a/b c", "x/y"] ∧
      normalizeTags (.list ["a/b c", "x/y"]) = ["a/b c", "x/y"] ∧
      "a/b c" = Text.join "/" (TagPath.segments "a/b c") ∧ Chars.IsSpaced "a/b c".toList := by
  have htags : normalizeTags (.csv " a /\t b  c ,/ ,x//y") = ["a/b c", "x/y"] := by decide +kernel
  obtain ⟨hstays, hcanonical, -⟩ := normalizeTags_normal (.csv " a /\t b  c ,/ ,x//y")
  rw [htags] at hstays hcanonical
  obtain ⟨-, hjoin, hspaced⟩ := hcanonical "a/b c" (by decide)
  exact ⟨_, rfl, htags, hstays, hjoin, hspaced⟩

end Linkshelf
