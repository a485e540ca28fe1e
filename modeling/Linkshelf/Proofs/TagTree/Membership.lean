import Linkshelf.Proofs.TagTree.Build

/-! Who is where in the tree of tags. A node stands at the end of each route along which some tag
leads. It is named for the last step, and it holds the ids of the bookmarks with such a tag. -/
namespace Linkshelf

variable {segment : String} {route segments : List String} {b : Bookmark} {bs : List Bookmark}
  {t n : TagTree}

theorem Text.isBlankText_iff {s : String} : isBlankText s = true ↔ trim s = "" := by
  rw [isBlankText, List.all_eq_true, ← Chars.trim_eq_nil_iff, trim, String.ofList_eq_empty_iff]

namespace Bookmark

theorem head?_eq_of_start {segments : List String} (hroute : route ≠ [])
    (h : route <+: segments) : route.head? = segments.head? := by
  obtain ⟨rest, rfl⟩ := h
  rw [List.head?_append_of_ne_nil _ hroute]

/-- Along a route lie the tags that start with it, and the bookmark without tags in its bucket. -/
theorem prefix_routes_iff (hroute : route ≠ []) :
    (∃ r ∈ b.routes, route <+: r) ↔
      route = [TagPath.untagged] ∧ b.isUntagged = true ∨
        ∃ tag ∈ b.tags, route <+: TagPath.segments tag := by
  rw [routes]
  split
  · next huntagged =>
    have hnone : ¬ ∃ tag ∈ b.tags, route <+: TagPath.segments tag := by
      rintro ⟨tag, htag, hstart⟩
      rw [TagPath.segments_of_blank (List.all_eq_true.mp huntagged tag htag)] at hstart
      exact hroute (List.prefix_nil.mp hstart)
    simp [huntagged, hnone, List.prefix_cons_iff, hroute]
  · next htagged => simp [htagged]

theorem isUntagged_iff_trim : b.isUntagged = true ↔ ∀ tag ∈ b.tags, Text.trim tag = "" := by
  rw [isUntagged, List.all_eq_true]
  exact forall₂_congr fun _ _ => Text.isBlankText_iff

theorem hasId_iff : b.hasId = true ↔ b.id ≠ "" := by
  simp [hasId]

end Bookmark

theorem Forest.name_of_get? {f : Forest} (h : f.get? segment = some n) : n.name = segment := by
  induction f with
  | empty => cases h
  | node name path ids below beside _ ih =>
    rw [get?] at h
    split at h
    · next hname =>
      obtain rfl := Option.some.inj h
      exact hname.symm
    · exact ih h

namespace TagTree

theorem name_of_walk?_concat (h : t.walk? (segments ++ [segment]) = some n) :
    n.name = segment := by
  induction segments generalizing t with
  | nil =>
    obtain ⟨c, hc, hwalk⟩ := walk?_cons_eq_some.mp h
    obtain rfl := Option.some.inj hwalk
    exact Forest.name_of_get? hc
  | cons s segments ih =>
    obtain ⟨c, -, hwalk⟩ := walk?_cons_eq_some.mp h
    exact ih hwalk

/-- A node is named for the last step of the route that leads to it. -/
theorem getLast?_of_walk? (hroute : route ≠ []) (h : t.walk? route = some n) :
    route.getLast? = some n.name := by
  rw [← List.dropLast_append_getLast hroute] at h ⊢
  rw [name_of_walk?_concat h, List.getLast?_concat]

/-- Below the root lead the way to the bucket and the ways along the tags. -/
theorem isSome_walk?_build (bs : List Bookmark) (hroute : route ≠ []) :
    ((build bs).walk? route).isSome = true ↔
      route = [TagPath.untagged] ∨
        ∃ b ∈ bs, b.hasId = true ∧ ∃ tag ∈ b.tags, route <+: TagPath.segments tag := by
  have hsome := isSome_idsAt?_build bs hroute
  rw [idsAt?, Option.isSome_map] at hsome
  simp only [hsome, Bookmark.prefix_routes_iff hroute]
  constructor
  · rintro (hbucket | ⟨b, hb, hid, ⟨hbucket, -⟩ | htag⟩)
    · exact Or.inl hbucket
    · exact Or.inl hbucket
    · exact Or.inr ⟨b, hb, hid, htag⟩
  · rintro (hbucket | ⟨b, hb, hid, htag⟩)
    · exact Or.inl hbucket
    · exact Or.inr ⟨b, hb, hid, Or.inr htag⟩

theorem WellFormed.nodup_ids (h : t.WellFormed) : t.ids.Nodup := h.ids.imp ne_of_lt

theorem mem_ids_of_walk? (hroute : route ≠ []) (h : (build bs).walk? route = some n) (id : String) :
    id ∈ n.ids ↔ ∃ b ∈ bs, b.hasId = true ∧ b.id = id ∧ ∃ r ∈ b.routes, route <+: r := by
  have hids : n.ids = ((build bs).idsAt? route).getD [] := by
    rw [idsAt?, h, Option.map_some, Option.getD_some]
  rw [hids, mem_idsAt?_build bs hroute]
  constructor
  · rintro ⟨b, hb, hid, r, hr, rfl, hstart⟩
    exact ⟨b, hb, hid, rfl, r, hr, hstart⟩
  · rintro ⟨b, hb, hid, rfl, r, hr, hstart⟩
    exact ⟨b, hb, hid, r, hr, rfl, hstart⟩

/-- A route leads to a node just when it leads to the bucket for bookmarks without tags or when a
tag of a bookmark with an id starts with it. The node has the name of the last step and the ids of
those bookmarks, and the bucket those of the bookmarks whose tags are all blank as well. The root
has all ids. -/
theorem membership_build (bs : List Bookmark) (hroute : route ≠ []) :
    (((build bs).walk? route).isSome = true ↔
      route = [TagPath.untagged] ∨
        ∃ b ∈ bs, b.id ≠ "" ∧ ∃ tag ∈ b.tags, route <+: TagPath.segments tag) ∧
    (∀ n, (build bs).walk? route = some n →
      route.getLast? = some n.name ∧ n.ids.Nodup ∧
        ∀ id, id ∈ n.ids ↔ ∃ b ∈ bs, b.id ≠ "" ∧ b.id = id ∧
          ((∃ tag ∈ b.tags, route <+: TagPath.segments tag) ∨
            route = [TagPath.untagged] ∧ ∀ tag ∈ b.tags, Text.trim tag = "")) ∧
    (build bs).ids.Nodup ∧ ∀ id, id ∈ (build bs).ids ↔ ∃ b ∈ bs, b.id ≠ "" ∧ b.id = id := by
  have hformed := wellFormed_build bs
  refine ⟨?_, fun n hwalk => ⟨getLast?_of_walk? hroute hwalk, (hformed.walk? hwalk).1.nodup_ids,
    fun id => ?_⟩, hformed.nodup_ids, fun id => ?_⟩
  · have hsome := isSome_idsAt?_build bs hroute
    rw [idsAt?, Option.isSome_map] at hsome
    simp only [hsome, Bookmark.prefix_routes_iff hroute, Bookmark.hasId_iff]
    constructor
    · rintro (hbucket | ⟨b, hb, hid, ⟨hbucket, -⟩ | htag⟩)
      · exact Or.inl hbucket
      · exact Or.inl hbucket
      · exact Or.inr ⟨b, hb, hid, htag⟩
    · rintro (hbucket | ⟨b, hb, hid, htag⟩)
      · exact Or.inl hbucket
      · exact Or.inr ⟨b, hb, hid, Or.inr htag⟩
  · simp only [mem_ids_of_walk? hroute hwalk, Bookmark.prefix_routes_iff hroute, Bookmark.hasId_iff,
      Bookmark.isUntagged_iff_trim]
    refine exists_congr fun b => and_congr_right fun _ => and_congr_right fun _ =>
      and_congr_right fun _ => ?_
    exact or_comm
  · simp only [mem_ids_build, Bookmark.hasId_iff, eq_comm (a := id)]

/-- A tag with the bucket's own name leads into it. A tag of slashes leads nowhere, and a bookmark
without an id has no place. -/
theorem membership_build_bucket :
    ∃ (bs : List Bookmark) (n : TagTree), [TagPath.untagged] ≠ [] ∧
      (build bs).walk? [TagPath.untagged] = some n ∧ n.ids = ["a", "b"] ∧
      (build bs).ids = ["a", "b", "c"] ∧ some TagPath.untagged = some n.name ∧
      ("c" ∈ n.ids ↔ ∃ b ∈ bs, b.id ≠ "" ∧ b.id = "c" ∧
        ((∃ tag ∈ b.tags, [TagPath.untagged] <+: TagPath.segments tag) ∨
          [TagPath.untagged] = [TagPath.untagged] ∧ ∀ tag ∈ b.tags, Text.trim tag = "")) := by
  let bs : List Bookmark := [{ id := "a", tags := [" Untagged // x "] },
    { id := "b", tags := [" ", ""] }, { id := "c", tags := ["//"] }, { tags := ["Untagged"] }]
  have hroute : [TagPath.untagged] ≠ [] := List.cons_ne_nil _ _
  let n : TagTree := ⟨"Untagged", "Untagged", ["a", "b"], .node "x" "Untagged/x" ["a"] .empty .empty⟩
  have hwalk : (build bs).walk? [TagPath.untagged] = some n := by decide +kernel
  have hids : (build bs).ids = ["a", "b", "c"] := by decide +kernel
  obtain ⟨hname, -, hmem⟩ := (membership_build bs hroute).2.1 n hwalk
  exact ⟨bs, n, hroute, hwalk, rfl, hids, hname, hmem "c"⟩

end TagTree
end Linkshelf
