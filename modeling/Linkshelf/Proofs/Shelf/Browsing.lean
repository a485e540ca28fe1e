import Linkshelf.Proofs.Shelf.Distinct
import Linkshelf.Proofs.TagTree.Membership

/-! Browsing: on a shelf, a node of the tree of tags has the ids of the bookmarks that a search at
its path finds, as long as no tag starts with one of the two names that the tree has for itself. -/
namespace Linkshelf

variable {path i : String} {route : List String} {b : Bookmark} {bs : List Bookmark}
  {n : TagTree}

namespace Bookmark

/-- The tags are in the form that is kept, and none is below a name of the tree's own. -/
structure IsPlain (b : Bookmark) : Prop where
  canonical : ∀ tag ∈ b.tags, IsCanonical tag
  ne_untagged : ∀ tag ∈ b.tags, (TagPath.segments tag).head? ≠ some TagPath.untagged
  ne_all : ∀ tag ∈ b.tags, (TagPath.segments tag).head? ≠ some TagPath.all

/-- Routes that lead through a tree of plain bookmarks: to the bucket, or along a tag. -/
def IsRoute (bs : List Bookmark) (route : List String) : Prop :=
  route = [TagPath.untagged] ∨ ∃ b ∈ bs, ∃ tag ∈ b.tags, route <+: TagPath.segments tag

theorem holdsBookmark_join (h : ∀ tag ∈ b.tags, IsCanonical tag) (hroute : route ≠ [])
    (hslash : ∀ name ∈ route, '/' ∉ name.toList) (hall : route.head? ≠ some TagPath.all)
    (huntagged : route.head? ≠ some TagPath.untagged) :
    TagPath.holdsBookmark (Text.join "/" route) b = true ↔
      b.hasId = true ∧ ∃ tag ∈ b.tags, route <+: TagPath.segments tag := by
  rw [TagPath.holdsBookmark, if_neg (TagPath.join_ne hroute hall TagPath.slash_notMem_all),
    if_neg (TagPath.join_ne hroute huntagged TagPath.slash_notMem_untagged), Bool.and_eq_true,
    List.any_eq_true]
  refine and_congr_right fun _ => exists_congr fun tag => and_congr_right fun htag => ?_
  exact TagPath.holds_join_iff (h tag htag) hroute hslash

/-- At the end of a route, the filter holds the bookmarks that are planted along it. -/
theorem holdsBookmark_route (hplain : ∀ b ∈ bs, b.IsPlain) (hroute : route ≠ [])
    (h : IsRoute bs route) (hb : b ∈ bs) :
    TagPath.holdsBookmark (route.foldl Forest.childPath TagPath.all) b = true ↔
      b.hasId = true ∧ ∃ r ∈ b.routes, route <+: r := by
  have hbplain := hplain b hb
  rw [prefix_routes_iff hroute]
  rcases h with rfl | ⟨other, hother, tag, htag, hstart⟩
  · have hnone : ¬ ∃ tag ∈ b.tags, [TagPath.untagged] <+: TagPath.segments tag := by
      rintro ⟨tag, htag, hstart⟩
      exact hbplain.ne_untagged tag htag (head?_eq_of_start hroute hstart).symm
    change TagPath.holdsBookmark TagPath.untagged b = true ↔ _
    rw [TagPath.holdsBookmark, if_neg TagPath.untagged_ne_all, if_pos rfl, or_iff_left hnone,
      and_iff_right rfl, Bool.and_eq_true]
  · have hhead := head?_eq_of_start hroute hstart
    have hall : route.head? ≠ some TagPath.all := by
      rw [hhead]
      exact (hplain other hother).ne_all tag htag
    have huntagged : route.head? ≠ some TagPath.untagged := by
      rw [hhead]
      exact (hplain other hother).ne_untagged tag htag
    have hslash : ∀ name ∈ route, '/' ∉ name.toList := fun name hname =>
      TagPath.slash_notMem_of_mem_segments (hstart.subset hname)
    have hbucket : ¬ (route = [TagPath.untagged] ∧ b.isUntagged = true) := by
      rintro ⟨rfl, -⟩
      exact huntagged rfl
    rw [Forest.foldl_childPath_all hroute hall, or_iff_right hbucket,
      holdsBookmark_join hbplain.canonical hroute hslash hall huntagged]

end Bookmark

namespace TagTree

open Bookmark

theorem isRoute_of_walk? (hroute : route ≠ []) (hwalk : (build bs).walk? route = some n) :
    IsRoute bs route := by
  have hsome : ((build bs).walk? route).isSome = true := by
    rw [hwalk]
    rfl
  rcases (isSome_walk?_build bs hroute).mp hsome with hbucket | ⟨b, hb, -, tag, htag, hstart⟩
  · exact Or.inl hbucket
  · exact Or.inr ⟨b, hb, tag, htag, hstart⟩

/-- A node has the ids of the bookmarks at its path. -/
theorem mem_ids_iff (hplain : ∀ b ∈ bs, b.IsPlain) (hn : n ∈ (build bs).nodes) :
    i ∈ n.ids ↔ ∃ b ∈ bs, TagPath.holdsBookmark n.path b = true ∧ i = b.id := by
  obtain ⟨route, hwalk⟩ := (wellFormed_build bs).mem_nodes.mp hn
  by_cases hroute : route = []
  · subst hroute
    obtain rfl := Option.some.inj hwalk
    simp only [mem_ids_build, path_build, TagPath.holdsBookmark, if_true, Bool.and_true]
  · have hpath := ((wellFormed_build bs).walk? hwalk).2
    rw [mem_ids_of_walk? hroute hwalk, hpath, path_build]
    refine exists_congr fun b => and_congr_right fun hb => ?_
    rw [holdsBookmark_route hplain hroute (isRoute_of_walk? hroute hwalk) hb]
    constructor
    · rintro ⟨hid, hi, hr⟩
      exact ⟨⟨hid, hr⟩, hi.symm⟩
    · rintro ⟨⟨hid, hr⟩, hi⟩
      exact ⟨hid, hi.symm, hr⟩

theorem exists_node (h : ((build bs).idsAt? route).isSome = true) :
    ∃ n ∈ (build bs).nodes, n.path = route.foldl Forest.childPath TagPath.all := by
  rw [idsAt?, Option.isSome_map] at h
  obtain ⟨n, hwalk⟩ := Option.isSome_iff_exists.mp h
  refine ⟨n, (wellFormed_build bs).mem_nodes.mpr ⟨route, hwalk⟩, ?_⟩
  rw [((wellFormed_build bs).walk? hwalk).2, path_build]

/-- Where a bookmark is found, there is a node. -/
theorem exists_node_of_holdsBookmark (hplain : b.IsPlain) (hb : b ∈ bs)
    (hpath : TagPath.holdsBookmark path b = true) : ∃ n ∈ (build bs).nodes, n.path = path := by
  rw [TagPath.holdsBookmark, Bool.and_eq_true] at hpath
  obtain ⟨hid, hpath⟩ := hpath
  split at hpath
  · next hall =>
    exact ⟨build bs, List.mem_cons_self, (path_build bs).trans hall.symm⟩
  · split at hpath
    · next huntagged =>
      rw [huntagged]
      exact exists_node ((isSome_idsAt?_build bs (List.cons_ne_nil _ _)).mpr (Or.inl rfl))
    · obtain ⟨tag, htag, hholds⟩ := List.any_eq_true.mp hpath
      obtain ⟨route, hroute, hstart, rfl⟩ :=
        (TagPath.holds_iff (hplain.canonical tag htag)).mp hholds
      have hall : route.head? ≠ some TagPath.all := by
        rw [head?_eq_of_start hroute hstart]
        exact hplain.ne_all tag htag
      rw [← Forest.foldl_childPath_all hroute hall]
      refine exists_node ((isSome_idsAt?_build bs hroute).mpr (Or.inr ⟨b, hb, hid, ?_⟩))
      exact (prefix_routes_iff hroute).mpr (Or.inr ⟨tag, htag, hstart⟩)

theorem nodup_ids (hn : n ∈ (build bs).nodes) : n.ids.Nodup := by
  obtain ⟨route, hwalk⟩ := (wellFormed_build bs).mem_nodes.mp hn
  exact ((wellFormed_build bs).walk? hwalk).1.nodup_ids

end TagTree

namespace Shelf

variable {place : Place} {ident : String} {s : Shelf}

/-- A blank query matches all that is at the path. -/
theorem search_blank (s : Shelf) (path : String) :
    (s.search "" path).bookmarks = TagPath.filter path s.list := by
  have hall : (Query.parse "").isMatchAll = true := by decide +kernel
  rw [search, Query.filter]
  refine List.filter_eq_self.mpr fun b _ => ?_
  rw [Query.matchesBookmark, hall, Bool.true_or]

theorem mem_search_blank (s : Shelf) (path i : String) :
    i ∈ (s.search "" path).bookmarks.map (·.id) ↔
      ∃ b ∈ s.list, TagPath.holdsBookmark path b = true ∧ i = b.id := by
  rw [search_blank, TagPath.filter]
  simp only [List.mem_map, List.mem_filter, and_assoc, eq_comm]

/-- On a shelf that began without a file, no tag of which starts with a name of the tree's own, each
node of the tree has the ids that a search at its path finds, and a search that finds something is
at the path of a node. -/
theorem search_tagTree (h : Grown place ident s)
    (hnames : ∀ b ∈ s.list, ∀ tag ∈ b.tags,
      (TagPath.segments tag).head? ≠ some TagPath.untagged ∧
        (TagPath.segments tag).head? ≠ some TagPath.all) :
    (∀ n ∈ s.tagTree.nodes,
      (∀ id, id ∈ (s.search "" n.path).bookmarks.map (·.id) ↔ id ∈ n.ids) ∧
        (s.Distinct → (s.search "" n.path).count = n.count)) ∧
    ∀ path, (s.search "" path).bookmarks ≠ [] → ∃ n ∈ s.tagTree.nodes, n.path = path := by
  have hplain : ∀ b ∈ s.list, b.IsPlain := fun b hb =>
    ⟨(h.isTidy b hb).tags, fun tag htag => (hnames b hb tag htag).1,
      fun tag htag => (hnames b hb tag htag).2⟩
  refine ⟨fun n hn => ?_, fun path hfound => ?_⟩
  · have hsame : ∀ id, id ∈ (s.search "" n.path).bookmarks.map (·.id) ↔ id ∈ n.ids := by
      intro id
      rw [mem_search_blank, TagTree.mem_ids_iff hplain hn]
    refine ⟨hsame, fun hdistinct => ?_⟩
    have hfound : ((s.search "" n.path).bookmarks.map (·.id)).Nodup := by
      rw [search_blank]
      exact hdistinct.sublist (List.filter_sublist.map _)
    have hperm := (List.perm_ext_iff_of_nodup hfound (TagTree.nodup_ids hn)).mpr hsame
    rw [Findings.count, TagTree.count, ← hperm.length_eq, List.length_map]
  · obtain ⟨b, hb⟩ := List.exists_mem_of_ne_nil _ hfound
    rw [search_blank, TagPath.filter, List.mem_filter] at hb
    exact TagTree.exists_node_of_holdsBookmark (hplain b hb.1) hb.1 hb.2

/-- One bookmark with two tags, one of them below the other, and one without tags. -/
theorem search_tagTree_nested :
    ∃ s : Shelf, Grown [] "data.json" s ∧
      s.tagTree.nodes.map (fun n => (n.path, n.ids)) =
        [("__ALL__", ["a", "b"]), ("Untagged", ["b"]), ("lean", ["a"]), ("lean/logic", ["a"])] ∧
      ∀ n ∈ s.tagTree.nodes, (s.search "" n.path).count = n.count := by
  let start : Shelf := ⟨[], "data.json", .empty "dawn"⟩
  let tags : TagList := .csv "lean/ logic, lean"
  let run : List Step := [
    ⟨growing, .empty, .create { id := some "a", url := some "https://a", tags := some tags }⟩,
    ⟨growing, .empty, .create { id := some "b", url := some "https://b" }⟩]
  have hgrown : Grown [] "data.json" (start.after run) :=
    ⟨"dawn", .empty, start, run, by decide +kernel, by decide +kernel, rfl⟩
  have hnames : ∀ b ∈ (start.after run).list, ∀ tag ∈ b.tags,
      (TagPath.segments tag).head? ≠ some TagPath.untagged ∧
        (TagPath.segments tag).head? ≠ some TagPath.all := by decide +kernel
  have hnodes : (start.after run).tagTree.nodes.map (fun n => (n.path, n.ids)) =
      [("__ALL__", ["a", "b"]), ("Untagged", ["b"]), ("lean", ["a"]), ("lean/logic", ["a"])] := by
    decide +kernel
  have hdistinct : (start.after run).Distinct := by
    rw [Distinct]
    decide +kernel
  exact ⟨_, hgrown, hnodes, fun n hn => ((search_tagTree hgrown hnames).1 n hn).2 hdistinct⟩

end Shelf
end Linkshelf
