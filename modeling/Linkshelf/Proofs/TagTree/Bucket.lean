import Linkshelf.Proofs.TagTree.Membership

/-! The bucket for bookmarks without tags. It stands among the nodes that tags make, so that a tag
with its name leads into it. -/
namespace Linkshelf

variable {tag segment : String} {b : Bookmark} {bs : List Bookmark} {n : TagTree} {f : Forest}

theorem Bookmark.isUntagged_iff_nil (h : ∀ tag ∈ b.tags, IsCanonical tag) :
    b.isUntagged = true ↔ b.tags = [] := by
  rw [isUntagged_iff_trim]
  constructor
  · intro hblank
    apply List.eq_nil_iff_forall_not_mem.mpr
    intro tag htag
    have hempty := hblank tag htag
    rw [(h tag htag).trim] at hempty
    exact (h tag htag).ne_empty hempty
  · intro hnil tag htag
    rw [hnil] at htag
    cases htag

namespace TagPath

/-- The filter at the bucket's name gives the bookmarks without tags. -/
theorem mem_filter_untagged (h : ∀ b ∈ bs, ∀ tag ∈ b.tags, IsCanonical tag) (id : String) :
    id ∈ (filter untagged bs).map (·.id) ↔ ∃ b ∈ bs, b.id ≠ "" ∧ b.id = id ∧ b.tags = [] := by
  simp only [filter, List.mem_map, List.mem_filter]
  apply exists_congr
  intro b
  rw [and_assoc]
  apply and_congr_right
  intro hb
  rw [holdsBookmark, if_neg untagged_ne_all, if_pos rfl, Bool.and_eq_true, Bookmark.hasId_iff,
    Bookmark.isUntagged_iff_nil (h b hb)]
  constructor
  · rintro ⟨⟨hid, htags⟩, hsame⟩
    exact ⟨hid, hsame, htags⟩
  · rintro ⟨hid, hsame, htags⟩
    exact ⟨⟨hid, htags⟩, hsame⟩

theorem holds_untagged_iff (h : IsCanonical tag) :
    holds untagged tag = true ↔ [untagged] <+: segments tag := by
  have hslash : ∀ name ∈ [untagged], '/' ∉ name.toList := by
    intro name hname
    rw [List.mem_singleton.mp hname]
    exact slash_notMem_untagged
  have hiff := holds_join_iff h (List.cons_ne_nil untagged []) hslash
  rwa [join_singleton] at hiff

/-- A kept tag at the bucket's name either is the name or goes on below it. -/
theorem eq_untagged_iff (h : IsCanonical tag) (hstart : [untagged] <+: segments tag) :
    tag = untagged ↔ ∀ segment, ¬ [untagged, segment] <+: segments tag := by
  obtain ⟨rest, hrest⟩ := hstart
  constructor
  · rintro rfl segment hlong
    have hlength := hlong.length_le
    rw [segments_untagged] at hlength
    simp at hlength
  · intro hshort
    cases rest with
    | nil => rw [← h.join_segments, ← hrest, List.append_nil, join_singleton]
    | cons segment rest => exact (hshort segment ⟨rest, by simpa using hrest⟩).elim

end TagPath

theorem Forest.eq_empty_iff : f = .empty ↔ ∀ segment, f.get? segment = none := by
  constructor
  · rintro rfl segment
    rfl
  · intro hnone
    cases f with
    | empty => rfl
    | node name path ids below beside =>
      have hname := hnone name
      rw [get?, if_pos rfl] at hname
      cases hname

namespace TagTree

theorem exists_bucket (bs : List Bookmark) :
    ∃ n, (build bs).child? TagPath.untagged = some n ∧
      (build bs).walk? [TagPath.untagged] = some n := by
  have hsome := (isSome_walk?_build bs (List.cons_ne_nil TagPath.untagged [])).mpr (Or.inl rfl)
  obtain ⟨n, hwalk⟩ := Option.isSome_iff_exists.mp hsome
  obtain ⟨c, hc, hn⟩ := walk?_cons_eq_some.mp hwalk
  obtain rfl := Option.some.inj hn
  exact ⟨c, hc, hwalk⟩

section Bucket

variable (h : ∀ b ∈ bs, ∀ tag ∈ b.tags, IsCanonical tag)
  (hwalk : (build bs).walk? [TagPath.untagged] = some n)

include h hwalk

/-- The bucket has the ids of the bookmarks without tags and of those with a tag at its name. -/
theorem mem_bucket_iff (id : String) :
    id ∈ n.ids ↔ ∃ b ∈ bs, b.id ≠ "" ∧ b.id = id ∧
      (b.tags = [] ∨ ∃ tag ∈ b.tags, TagPath.holds TagPath.untagged tag = true) := by
  have hroute : [TagPath.untagged] ≠ [] := List.cons_ne_nil _ _
  rw [mem_ids_of_walk? hroute hwalk]
  apply exists_congr
  intro b
  apply and_congr_right
  intro hb
  rw [Bookmark.prefix_routes_iff hroute, and_iff_right rfl, Bookmark.hasId_iff,
    Bookmark.isUntagged_iff_nil (h b hb)]
  have htags : (∃ tag ∈ b.tags, [TagPath.untagged] <+: TagPath.segments tag) ↔
      ∃ tag ∈ b.tags, TagPath.holds TagPath.untagged tag = true := by
    apply exists_congr
    intro tag
    apply and_congr_right
    intro htag
    exact (TagPath.holds_untagged_iff (h b hb tag htag)).symm
  rw [htags]

/-- Nodes below the bucket come from tags that go on below its name. -/
theorem children_bucket_iff :
    n.children = .empty ↔ ∀ b ∈ bs, b.id ≠ "" → ∀ tag ∈ b.tags,
      TagPath.holds TagPath.untagged tag = true → tag = TagPath.untagged := by
  have hchild (segment : String) : n.children.get? segment = none ↔
      ¬ ∃ b ∈ bs, b.hasId = true ∧
        ∃ tag ∈ b.tags, [TagPath.untagged, segment] <+: TagPath.segments tag := by
    obtain ⟨c, hc, hn⟩ := walk?_cons_eq_some.mp hwalk
    obtain rfl := Option.some.inj hn
    have hstep : (build bs).walk? [TagPath.untagged, segment] = c.children.get? segment := by
      rw [walk?_cons, hc, Option.bind_some, walk?_cons, child?]
      cases c.children.get? segment <;> rfl
    have hsome := isSome_walk?_build bs (List.cons_ne_nil TagPath.untagged [segment])
    rw [hstep, or_iff_right (by simp)] at hsome
    rw [← hsome, Option.not_isSome_iff_eq_none]
  rw [Forest.eq_empty_iff]
  constructor
  · intro hnone b hb hid tag htag hholds
    have hcanonical := h b hb tag htag
    have hstart := (TagPath.holds_untagged_iff hcanonical).mp hholds
    refine (TagPath.eq_untagged_iff hcanonical hstart).mpr fun segment hlong => ?_
    exact (hchild segment).mp (hnone segment) ⟨b, hb, Bookmark.hasId_iff.mpr hid, tag, htag, hlong⟩
  · intro hshort segment
    refine (hchild segment).mpr ?_
    rintro ⟨b, hb, hid, tag, htag, hlong⟩
    have hcanonical := h b hb tag htag
    have hstart : [TagPath.untagged] <+: TagPath.segments tag :=
      List.IsPrefix.trans ⟨[segment], rfl⟩ hlong
    have htagged := hshort b hb (Bookmark.hasId_iff.mp hid) tag htag
      ((TagPath.holds_untagged_iff hcanonical).mpr hstart)
    exact (TagPath.eq_untagged_iff hcanonical hstart).mp htagged segment hlong

end Bucket

/-- A node with the ids of the bookmarks without tags, which are those that the filter finds, and
with no node below it. -/
structure IsBucket (bs : List Bookmark) (n : TagTree) : Prop where
  ids : ∀ id, id ∈ n.ids ↔ ∃ b ∈ bs, b.id ≠ "" ∧ b.id = id ∧ b.tags = []
  filtered : ∀ id, id ∈ n.ids ↔ id ∈ (TagPath.filter TagPath.untagged bs).map (·.id)
  children : n.children = .empty

/-- The tree of bookmarks with normalized tags has a node for those without tags. It is their bucket
just when no tag of a bookmark with an id goes on below the name of the bucket, and each such
bookmark tagged with the name itself has the id of one without tags. -/
theorem isBucket_iff (h : ∀ b ∈ bs, ∃ tags : TagList, b.tags = normalizeTags tags) :
    ∃ n, (build bs).child? TagPath.untagged = some n ∧
      (IsBucket bs n ↔ ∀ b ∈ bs, b.id ≠ "" → ∀ tag ∈ b.tags,
        TagPath.holds TagPath.untagged tag = true →
          tag = TagPath.untagged ∧ ∃ other ∈ bs, other.id = b.id ∧ other.tags = []) := by
  have hcanonical : ∀ b ∈ bs, ∀ tag ∈ b.tags, IsCanonical tag := by
    intro b hb tag htag
    obtain ⟨tags, htags⟩ := h b hb
    rw [htags] at htag
    exact isCanonical_of_mem_normalizeTags htag
  obtain ⟨n, hchild, hwalk⟩ := exists_bucket bs
  have hids := mem_bucket_iff hcanonical hwalk
  have hchildren := children_bucket_iff hcanonical hwalk
  refine ⟨n, hchild, fun hbucket b hb hid tag htag hholds => ⟨?_, ?_⟩, fun hshared => ?_⟩
  · exact hchildren.mp hbucket.children b hb hid tag htag hholds
  · have hmem := (hids b.id).mpr ⟨b, hb, hid, rfl, Or.inr ⟨tag, htag, hholds⟩⟩
    obtain ⟨other, hother, -, hsame, hnone⟩ := (hbucket.ids b.id).mp hmem
    exact ⟨other, hother, hsame, hnone⟩
  · have hexact : ∀ id, id ∈ n.ids ↔ ∃ b ∈ bs, b.id ≠ "" ∧ b.id = id ∧ b.tags = [] := by
      intro id
      rw [hids]
      constructor
      · rintro ⟨b, hb, hid, rfl, hnone | ⟨tag, htag, hholds⟩⟩
        · exact ⟨b, hb, hid, rfl, hnone⟩
        · obtain ⟨-, other, hother, hsame, hnone⟩ := hshared b hb hid tag htag hholds
          exact ⟨other, hother, hsame ▸ hid, hsame, hnone⟩
      · rintro ⟨b, hb, hid, hsame, hnone⟩
        exact ⟨b, hb, hid, hsame, Or.inl hnone⟩
    exact {
      ids := hexact
      filtered := fun id => (hexact id).trans (TagPath.mem_filter_untagged hcanonical id).symm
      children := hchildren.mpr fun b hb hid tag htag hholds =>
        (hshared b hb hid tag htag hholds).1 }

/-- A tag may start with the letters of the name, or have it further down. -/
theorem isBucket_iff_letters :
    ∃ (bs : List Bookmark) (n : TagTree),
      (∀ b ∈ bs, ∃ tags : TagList, b.tags = normalizeTags tags) ∧
      (build bs).child? TagPath.untagged = some n ∧ n.ids = ["b"] ∧ IsBucket bs n := by
  let bs : List Bookmark := [
    { id := "a", tags := normalizeTags (.csv "Untagged  books, lean / Untagged") },
    { id := "b", tags := normalizeTags (.list ["/"]) }, { tags := normalizeTags (.csv "Untagged") }]
  have htags : ∀ b ∈ bs, ∃ tags : TagList, b.tags = normalizeTags tags := by
    intro b hb
    simp only [bs, List.mem_cons, List.not_mem_nil, or_false] at hb
    rcases hb with rfl | rfl | rfl
    · exact ⟨_, rfl⟩
    · exact ⟨_, rfl⟩
    · exact ⟨_, rfl⟩
  have hnone : ∀ b ∈ bs, b.id ≠ "" → ∀ tag ∈ b.tags,
      ¬ TagPath.holds TagPath.untagged tag = true := by decide +kernel
  obtain ⟨n, hchild, hiff⟩ := isBucket_iff htags
  have hids : ((build bs).child? TagPath.untagged).map (·.ids) = some ["b"] := by decide +kernel
  rw [hchild] at hids
  refine ⟨bs, n, htags, hchild, Option.some.inj hids, hiff.mpr ?_⟩
  intro b hb hid tag htag hholds
  exact (hnone b hb hid tag htag hholds).elim

/-- A bookmark tagged with the bucket's name is in the bucket, although the filter does not find it
there. -/
theorem bucket_holds_tagged :
    ∃ (b : Bookmark) (n : TagTree), b.id ≠ "" ∧ b.tags = normalizeTags (.list ["Untagged"]) ∧
      (build [b]).child? TagPath.untagged = some n ∧ b.id ∈ n.ids ∧ b.tags ≠ [] ∧
      TagPath.filter TagPath.untagged [b] = [] ∧ ¬ IsBucket [b] n := by
  let b : Bookmark := { id := "a", tags := ["Untagged"] }
  let n : TagTree := ⟨"Untagged", "Untagged", ["a"], .empty⟩
  have htags : b.tags = normalizeTags (.list ["Untagged"]) := by decide +kernel
  have hchild : (build [b]).child? TagPath.untagged = some n := by decide +kernel
  have hfilter : TagPath.filter TagPath.untagged [b] = [] := by decide +kernel
  have hmem : b.id ∈ n.ids := List.mem_singleton_self "a"
  refine ⟨b, n, by decide, htags, hchild, hmem, List.cons_ne_nil _ _, hfilter, fun hbucket => ?_⟩
  have hfound := (hbucket.filtered b.id).mp hmem
  rw [hfilter] at hfound
  cases hfound

end TagTree
end Linkshelf
