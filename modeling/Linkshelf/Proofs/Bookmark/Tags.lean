import Linkshelf.Bookmark.Tags
import Linkshelf.Proofs.Text.Pieces
import Linkshelf.TagPath

/-! Tags in the form in which they are kept: they stay as they are, and the paths that hold them are
the starts of their segments. -/
namespace Linkshelf

namespace Chars

variable {cs : List Char}

/-- Words with one space between them. -/
structure IsSegment (cs : List Char) : Prop where
  nonempty : cs ≠ []
  spaced : join [' '] (words cs) = cs

theorem isSegment_join_words (h : join [' '] (words cs) ≠ []) :
    IsSegment (join [' '] (words cs)) where
  nonempty := h
  spaced := by
    rw [words_join]
    intro w hw
    exact ⟨(mem_words hw).1, fun c hc => ((mem_words hw).2 c hc).2⟩

theorem IsSegment.solid (h : IsSegment cs) : IsSolid cs := by
  have hwords : words cs ≠ [] := by
    intro hnil
    have hcs := h.spaced
    rw [hnil] at hcs
    exact h.nonempty hcs.symm
  rw [← h.spaced]
  refine isSolid_join [' '] hwords fun w hw => ?_
  exact isSolid_of_forall (mem_words hw).1 fun c hc => ((mem_words hw).2 c hc).2

end Chars

/-- The form of a tag that is kept: segments between single slashes. -/
def IsCanonical (tag : String) : Prop :=
  ∀ p ∈ Chars.split (· == '/') tag.toList, Chars.IsSegment p

variable {tag path : String} {route : List String}

theorem isCanonical_normalizeTag (h : normalizeTag tag ≠ "") : IsCanonical (normalizeTag tag) := by
  let ps := ((Chars.split (· == '/') tag.toList).map fun part =>
    Chars.join [' '] (Chars.words part)).filter (!·.isEmpty)
  have hsegment : ∀ p ∈ ps, Chars.IsSegment p ∧ '/' ∉ p := by
    intro p hp
    obtain ⟨hmap, hne⟩ := List.mem_filter.mp hp
    obtain ⟨part, hpart, rfl⟩ := List.mem_map.mp hmap
    refine ⟨Chars.isSegment_join_words (by simpa using hne), fun hslash => ?_⟩
    rcases Chars.mem_join hslash with hspace | ⟨w, hw, hc⟩
    · simp at hspace
    · have hmem := ((Chars.mem_words hw).2 '/' hc).1
      simpa using (Chars.mem_of_mem_split hpart hmem).2
  have hps : ps ≠ [] := by
    intro hnil
    apply h
    change String.ofList (Chars.join ['/'] ps) = ""
    rw [hnil]
    rfl
  have hsplit : Chars.split (· == '/') (Chars.join ['/'] ps) = ps := by
    refine Chars.split_join (by decide) hps fun p hp c hc => ?_
    simp only [beq_eq_false_iff_ne]
    rintro rfl
    exact (hsegment p hp).2 hc
  intro p hp
  change p ∈ Chars.split (· == '/') (String.ofList (Chars.join ['/'] ps)).toList at hp
  rw [String.toList_ofList, hsplit] at hp
  exact (hsegment p hp).1

theorem isCanonical_of_mem_normalizeTags {tags : TagList} (h : tag ∈ normalizeTags tags) :
    IsCanonical tag := by
  obtain ⟨hmap, hne⟩ := List.mem_filter.mp h
  obtain ⟨item, -, rfl⟩ := List.mem_map.mp hmap
  exact isCanonical_normalizeTag (by simpa using hne)

namespace IsCanonical

variable (h : IsCanonical tag)

include h

/-- What keeps every segment, with the empty pieces dropped, keeps all pieces. -/
theorem pieces {f : List Char → List Char} (hf : ∀ p, Chars.IsSegment p → f p = p) :
    ((Chars.split (· == '/') tag.toList).map f).filter (!·.isEmpty) =
      Chars.split (· == '/') tag.toList := by
  apply Chars.filter_map_eq_self
  intro p hp
  exact ⟨hf p (h p hp), (h p hp).nonempty⟩

theorem normalizeTag : normalizeTag tag = tag := by
  rw [Linkshelf.normalizeTag, h.pieces fun p hp => hp.spaced, Chars.join_split,
    String.ofList_toList]

theorem solid : Chars.IsSolid tag.toList := by
  rw [← Chars.join_split '/' tag.toList]
  exact Chars.isSolid_join ['/'] (Chars.split_ne_nil _ _) fun p hp => (h p hp).solid

theorem trim : Text.trim tag = tag := by
  rw [Text.trim, h.solid.trim, String.ofList_toList]

theorem ne_empty : tag ≠ "" := by
  rintro rfl
  exact h.solid.nonempty rfl

/-- The segments are the pieces between slashes as they stand. -/
theorem segments : TagPath.segments tag = (Chars.split (· == '/') tag.toList).map .ofList := by
  rw [TagPath.segments, h.pieces fun p hp => hp.solid.trim]

theorem join_segments : Text.join "/" (TagPath.segments tag) = tag := by
  have hparts : (TagPath.segments tag).map String.toList = Chars.split (· == '/') tag.toList := by
    rw [h.segments, List.map_map]
    simp
  have hslash : "/".toList = ['/'] := rfl
  rw [Text.join, hparts, hslash, Chars.join_split, String.ofList_toList]

end IsCanonical

theorem normalizeTags_of_isCanonical {tags : List String} (h : ∀ tag ∈ tags, IsCanonical tag) :
    normalizeTags (.list tags) = tags := by
  have hmap : tags.map normalizeTag = tags :=
    (List.map_congr_left fun tag htag => (h tag htag).normalizeTag).trans (List.map_id _)
  rw [normalizeTags, TagList.items, hmap, List.filter_eq_self]
  intro tag htag
  simpa using (h tag htag).ne_empty

namespace TagPath

theorem segments_of_blank (h : Text.isBlankText tag = true) : segments tag = [] := by
  have hpieces : ((Chars.split (· == '/') tag.toList).map Chars.trim).filter (!·.isEmpty) = [] := by
    refine List.filter_eq_nil_iff.mpr fun p hp => ?_
    obtain ⟨piece, hpiece, rfl⟩ := List.mem_map.mp hp
    have hblank : ∀ c ∈ piece, isBlank c = true := fun c hc =>
      List.all_eq_true.mp h c (Chars.mem_of_mem_split hpiece hc).1
    simp [Chars.trim_eq_nil_iff.mpr hblank]
  rw [segments, hpieces, List.map_nil]

/-- No segment of any tag holds a slash. -/
theorem slash_notMem_of_mem_segments {segment : String} (h : segment ∈ segments tag) :
    '/' ∉ segment.toList := by
  obtain ⟨p, hp, rfl⟩ := List.mem_map.mp h
  obtain ⟨hmap, -⟩ := List.mem_filter.mp hp
  obtain ⟨part, hpart, rfl⟩ := List.mem_map.mp hmap
  intro hslash
  rw [String.toList_ofList] at hslash
  have hmem : '/' ∈ part := by
    rw [Chars.trim_eq] at hslash
    exact (List.dropWhile_sublist _).subset ((List.rdropWhile_prefix _ _).subset hslash)
  simpa using (Chars.mem_of_mem_split hpart hmem).2

/-- The names of a path whose names hold no slash are found again. -/
theorem split_join_route (hne : route ≠ []) (h : ∀ name ∈ route, '/' ∉ name.toList) :
    (Chars.split (· == '/') (Text.join "/" route).toList).map .ofList = route := by
  have hsplit : Chars.split (· == '/') (Chars.join ['/'] (route.map String.toList)) =
      route.map String.toList := by
    refine Chars.split_join (by decide) (by simpa using hne) fun p hp c hc => ?_
    obtain ⟨name, hname, rfl⟩ := List.mem_map.mp hp
    simp only [beq_eq_false_iff_ne]
    rintro rfl
    exact h name hname hc
  have hjoin : (Text.join "/" route).toList = Chars.join ['/'] (route.map String.toList) := by
    rw [Text.join, String.toList_ofList]
    rfl
  rw [hjoin, hsplit, List.map_map]
  simp

/-- A kept tag is held by the paths that its segments start with, and by no other. -/
theorem holds_iff (h : IsCanonical tag) :
    holds path tag = true ↔
      ∃ route, route ≠ [] ∧ route <+: segments tag ∧ path = Text.join "/" route := by
  have hjoin (ps : List (List Char)) :
      Text.join "/" (ps.map .ofList) = .ofList (Chars.join ['/'] ps) := by
    rw [Text.join, List.map_map]
    simp
  rw [holds, h.trim, h.segments, Text.startsWith]
  simp only [Bool.or_eq_true, beq_iff_eq, List.isPrefixOf_iff_prefix, String.toList_append]
  constructor
  · rintro (rfl | ⟨rest, hrest⟩)
    · refine ⟨_, by simpa using Chars.split_ne_nil _ _, List.prefix_rfl, ?_⟩
      rw [hjoin, Chars.join_split, String.ofList_toList]
    · have htag : tag.toList = path.toList ++ '/' :: rest := by
        rw [← hrest]
        simp
      refine ⟨(Chars.split (· == '/') path.toList).map .ofList,
        by simpa using Chars.split_ne_nil _ _, ?_, ?_⟩
      · rw [htag, Chars.split_append_separator, List.map_append]
        exact List.prefix_append _ _
      · rw [hjoin, Chars.join_split, String.ofList_toList]
  · rintro ⟨route, hne, ⟨rest, hrest⟩, rfl⟩
    obtain ⟨ps, qs, hsplit, rfl, rfl⟩ := List.map_eq_append_iff.mp hrest.symm
    have hps : ps ≠ [] := by simpa using hne
    have htag : tag.toList = Chars.join ['/'] (ps ++ qs) := by
      rw [← hsplit, Chars.join_split]
    rw [hjoin]
    by_cases hqs : qs = []
    · refine Or.inl ?_
      rw [← String.toList_inj, htag, hqs, List.append_nil, String.toList_ofList]
    · refine Or.inr ⟨Chars.join ['/'] qs, ?_⟩
      rw [htag, Chars.join_append _ hps hqs, String.toList_ofList]
      simp

theorem holds_join_iff (h : IsCanonical tag) (hne : route ≠ [])
    (hslash : ∀ name ∈ route, '/' ∉ name.toList) :
    holds (Text.join "/" route) tag = true ↔ route <+: segments tag := by
  rw [holds_iff h]
  constructor
  · rintro ⟨other, hother, hstart, hpath⟩
    have hotherSlash : ∀ name ∈ other, '/' ∉ name.toList := fun name hname =>
      slash_notMem_of_mem_segments (hstart.subset hname)
    have hsame := congrArg
      (fun path : String => (Chars.split (· == '/') path.toList).map String.ofList) hpath
    simp only [split_join_route hne hslash, split_join_route hother hotherSlash] at hsame
    rwa [hsame]
  · intro hstart
    exact ⟨route, hne, hstart, rfl⟩

theorem join_cons_cons (name other : String) (names : List String) :
    Text.join "/" (name :: other :: names) = name ++ "/" ++ Text.join "/" (other :: names) := by
  simp only [Text.join, List.map_cons, Chars.join_cons_cons, String.ofList_append,
    String.ofList_toList]

theorem join_append_cons (parent name : String) (names : List String) :
    Text.join "/" ((parent ++ "/" ++ name) :: names) = Text.join "/" (parent :: name :: names) := by
  cases names with
  | nil => simp [Text.join, Chars.join]
  | cons other names => simp only [join_cons_cons, String.append_assoc]

theorem slash_mem_append (name other : String) : '/' ∈ (name ++ "/" ++ other).toList := by
  simp

/-- A route that starts with another name does not join to one without a slash. -/
theorem join_ne (hroute : route ≠ []) (hhead : route.head? ≠ some path)
    (hpath : '/' ∉ path.toList) : Text.join "/" route ≠ path := by
  intro hjoin
  match route, hroute with
  | [name], _ =>
    apply hhead
    rw [← hjoin]
    simp [Text.join, Chars.join]
  | name :: other :: names, _ =>
    rw [← hjoin, join_cons_cons] at hpath
    exact hpath (slash_mem_append _ _)

theorem slash_notMem_all : '/' ∉ all.toList := by decide +kernel

theorem slash_notMem_untagged : '/' ∉ untagged.toList := by decide +kernel

theorem untagged_ne_all : untagged ≠ all := by decide +kernel

theorem segments_untagged : segments untagged = [untagged] := by decide +kernel

theorem join_singleton (name : String) : Text.join "/" [name] = name := by
  simp [Text.join, Chars.join]

end TagPath
end Linkshelf
