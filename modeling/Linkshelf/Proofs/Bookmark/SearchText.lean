import Linkshelf.Bookmark.Basic
import Linkshelf.Proofs.Text.Lowercase
import Linkshelf.Proofs.Text.Pieces

/-! The text that queries run against: where the texts of a bookmark stand in it, and that the case
of ASCII letters does not change it. -/
namespace Linkshelf

variable {text : String} {b other : Bookmark}

section Joining

variable {p : List Char} {ps : List (List Char)}

/-- Among pieces with spaces between them, each stands apart from what is before and after it. -/
theorem Chars.exists_surroundings (h : p ∈ ps) :
    ∃ left right, join [' '] ps = left ++ p ++ right ∧
      Text.meetsCased left.reverse = false ∧ Text.meetsCased right = false := by
  induction ps with
  | nil => cases h
  | cons q ps ih =>
    cases ps with
    | nil =>
      obtain rfl := List.mem_singleton.mp h
      exact ⟨[], [], by simp [join], rfl, rfl⟩
    | cons r ps =>
      rw [join_cons_cons, List.append_assoc, List.singleton_append]
      rcases List.mem_cons.mp h with rfl | hmem
      · exact ⟨[], ' ' :: join [' '] (r :: ps), rfl, rfl, Text.meetsCased_blank _⟩
      · obtain ⟨left, right, hjoin, hl, hr⟩ := ih hmem
        refine ⟨q ++ ' ' :: left, right, by simp [hjoin], ?_, hr⟩
        rw [List.reverse_append, List.reverse_cons, List.append_assoc, List.singleton_append,
          Text.meetsCased_append (Text.meetsCased_blank _)]
        exact hl

theorem Chars.map_toLower_join (sep : List Char) (ps : List (List Char)) :
    (join sep ps).map Char.toLower =
      join (sep.map Char.toLower) (ps.map (·.map Char.toLower)) := by
  induction ps with
  | nil => rfl
  | cons p ps ih =>
    cases ps with
    | nil => rfl
    | cons q ps =>
      rw [List.map_cons, List.map_cons, join_cons_cons, join_cons_cons, List.map_append,
        List.map_append, ih, List.map_cons]

theorem Text.asciiLower_join (sep : String) (parts : List String) :
    asciiLower (join sep parts) = join (asciiLower sep) (parts.map asciiLower) := by
  rw [asciiLower, join, join, String.toList_ofList, Chars.map_toLower_join]
  simp [asciiLower, Function.comp_def]

theorem Text.map_asciiLower_eq {ss ts : List String} (h : List.Forall₂ SameLetters ss ts) :
    ss.map asciiLower = ts.map asciiLower := by
  induction h with
  | nil => rfl
  | cons hsame _ ih => rw [List.map_cons, List.map_cons, hsame, ih]

end Joining

namespace Bookmark

/-- The texts of a bookmark in which a query looks for a phrase. -/
def texts (b : Bookmark) : List String := [b.title, b.url, b.description] ++ b.tags

/-- All texts in one, as they are. -/
def fullText (b : Bookmark) : String :=
  Text.join " " [b.title, b.url, b.description, Text.join " " b.tags]

theorem searchText_eq (b : Bookmark) : b.searchText = Text.lower b.fullText := rfl

theorem exists_surroundings (h : text ∈ b.texts) :
    ∃ left right, b.fullText.toList = left ++ text.toList ++ right ∧
      Text.meetsCased left.reverse = false ∧ Text.meetsCased right = false := by
  have hfull : b.fullText.toList = Chars.join [' ']
      ([b.title, b.url, b.description, Text.join " " b.tags].map String.toList) :=
    String.toList_ofList
  have hjoined : (Text.join " " b.tags).toList = Chars.join [' '] (b.tags.map String.toList) :=
    String.toList_ofList
  rw [hfull]
  rcases List.mem_append.mp h with hfield | htag
  · apply Chars.exists_surroundings
    apply List.mem_map_of_mem
    exact List.mem_append_left [Text.join " " b.tags] hfield
  · -- A tag stands apart among the tags, and they stand apart from the other texts.
    have htags := List.mem_map_of_mem (f := String.toList) htag
    obtain ⟨left, right, htext, hl, hr⟩ := Chars.exists_surroundings htags
    have hlast : (Text.join " " b.tags).toList ∈
        [b.title, b.url, b.description, Text.join " " b.tags].map String.toList := by simp
    obtain ⟨front, back, hall, hf, hb⟩ := Chars.exists_surroundings hlast
    rw [hjoined, htext] at hall
    refine ⟨front ++ left, right ++ back, ?_, ?_, ?_⟩
    · rw [hall]
      simp only [List.append_assoc]
    · rw [List.reverse_append, Text.meetsCased_append hf]
      exact hl
    · rw [Text.meetsCased_append hb]
      exact hr

theorem fullText_eq (b : Bookmark) :
    b.fullText.toList = Chars.join [' '] ([b.title, b.url, b.description].map String.toList) ++
      ' ' :: Chars.join [' '] (b.tags.map String.toList) := by
  have hjoined : (Text.join " " b.tags).toList = Chars.join [' '] (b.tags.map String.toList) :=
    String.toList_ofList
  have hfull : b.fullText.toList = Chars.join [' ']
      ([b.title, b.url, b.description].map String.toList ++ [(Text.join " " b.tags).toList]) :=
    String.toList_ofList
  have hsplit : Chars.join [' '] ([b.title, b.url, b.description].map String.toList ++
        [(Text.join " " b.tags).toList]) =
      Chars.join [' '] ([b.title, b.url, b.description].map String.toList) ++ [' '] ++
        (Text.join " " b.tags).toList :=
    Chars.join_append [' '] (List.cons_ne_nil _ _) (List.cons_ne_nil _ _)
  rw [hfull, hsplit, hjoined, List.append_assoc, List.singleton_append]

/-- One more tag comes after a space, so that it only adds to the text. -/
theorem searchText_append_tag (b : Bookmark) (tag : String) :
    b.searchText.toList <+: { b with tags := b.tags ++ [tag] }.searchText.toList := by
  have hfull := fullText_eq b
  have hmore := fullText_eq { b with tags := b.tags ++ [tag] }
  simp only [List.map_append, List.map_cons, List.map_nil] at hmore hfull
  rw [searchText_eq, searchText_eq, Text.lower, Text.lower, String.toList_ofList,
    String.toList_ofList]
  by_cases hnone : b.tags = []
  · -- The text ended in the space already.
    rw [hmore, hfull, hnone, Text.lowerFrom_append_blank, Text.lowerFrom_append_blank]
    exact (List.prefix_append_right_inj _).mpr (List.cons_prefix_cons.mpr ⟨rfl, List.nil_prefix⟩)
  · have htags : b.tags.map String.toList ≠ [] := by simpa using hnone
    have htext : { b with tags := b.tags ++ [tag] }.fullText.toList =
        b.fullText.toList ++ ' ' :: tag.toList := by
      rw [hmore, hfull, Chars.join_append [' '] htags (List.cons_ne_nil _ _)]
      simp [Chars.join]
    rw [htext, Text.lowerFrom_append_blank]
    exact List.prefix_append _ _

/-- The texts that queries look at differ at most in the case of ASCII letters. -/
structure SameLetters (b other : Bookmark) : Prop where
  title : Text.SameLetters b.title other.title
  url : Text.SameLetters b.url other.url
  description : Text.SameLetters b.description other.description
  tags : List.Forall₂ Text.SameLetters b.tags other.tags

theorem SameLetters.searchText (h : b.SameLetters other) : b.searchText = other.searchText := by
  have htags := Text.map_asciiLower_eq h.tags
  have hfull : Text.SameLetters b.fullText other.fullText := by
    rw [Text.SameLetters, fullText, fullText, Text.asciiLower_join, Text.asciiLower_join]
    simp only [List.map_cons, List.map_nil, Text.asciiLower_join, htags]
    rw [h.title, h.url, h.description]
  rw [searchText_eq, searchText_eq, ← Text.lower_asciiLower, hfull, Text.lower_asciiLower]

end Bookmark
end Linkshelf
