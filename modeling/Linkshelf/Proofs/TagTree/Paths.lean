import Mathlib.Data.List.Nodup
import Linkshelf.Proofs.TagTree.Membership

/-! The path of a node. It is the way to the node, and the node is found by it, as long as no tag
starts with the name that the tree has for its root. -/
namespace Linkshelf

variable {name parent lower path tag : String} {route : List String} {f : Forest}
  {t n : TagTree} {bs : List Bookmark}

namespace TagPath

/-- What may stand between slashes: no outer blanks, and no slash of its own. -/
structure IsName (name : String) : Prop where
  solid : Chars.IsSolid name.toList
  slash : '/' ∉ name.toList

theorem isName_of_mem_segments (h : name ∈ segments tag) : IsName name where
  slash := slash_notMem_of_mem_segments h
  solid := by
    obtain ⟨p, hp, rfl⟩ := List.mem_map.mp h
    obtain ⟨hmap, hne⟩ := List.mem_filter.mp hp
    obtain ⟨piece, -, rfl⟩ := List.mem_map.mp hmap
    rw [String.toList_ofList]
    exact Chars.isSolid_trim (by simpa using hne)

theorem isName_untagged : IsName untagged := by
  have hmem : untagged ∈ segments untagged := by
    rw [segments_untagged]
    exact List.mem_singleton_self untagged
  exact isName_of_mem_segments hmem

/-- Names with slashes between them are the segments of what they make. -/
theorem segments_join (hne : route ≠ []) (h : ∀ name ∈ route, IsName name) :
    segments (Text.join "/" route) = route := by
  have hsplit := split_join_route hne fun name hname => (h name hname).slash
  have hpieces : ∀ p ∈ Chars.split (· == '/') (Text.join "/" route).toList,
      Chars.trim p = p ∧ p ≠ [] := by
    intro p hp
    have hmem : String.ofList p ∈ route := by
      rw [← hsplit]
      exact List.mem_map_of_mem hp
    have hsolid : Chars.IsSolid p := by simpa using (h _ hmem).solid
    exact ⟨hsolid.trim, hsolid.nonempty⟩
  rw [segments, Chars.filter_map_eq_self hpieces, hsplit]

end TagPath

namespace Forest

/-- The ways to the nodes of a forest, in the order of the nodes. -/
def routes : Forest → List (List String)
  | empty => []
  | node name _ _ below beside => [name] :: (below.routes.map (name :: ·) ++ beside.routes)

theorem Above.lt_of_mem_routes (h : f.Above lower) (hroute : route ∈ f.routes) :
    ∃ s rest, route = s :: rest ∧ lower < s := by
  induction f with
  | empty => cases hroute
  | node name path ids below beside _ ih =>
    rw [routes, List.mem_cons, List.mem_append, List.mem_map] at hroute
    rcases hroute with rfl | ⟨rest, -, rfl⟩ | hbeside
    · exact ⟨name, [], rfl, h.1⟩
    · exact ⟨name, rest, rfl, h.1⟩
    · exact ih h.2 hbeside

namespace WellFormed

theorem ne_nil_of_mem_routes (h : f.WellFormed parent) (hroute : route ∈ f.routes) :
    route ≠ [] := by
  rintro rfl
  induction h with
  | empty => cases hroute
  | node _ _ _ _ _ ih => exact ih (by simpa [routes] using hroute)

/-- Siblings have different names, so no way is there twice. -/
theorem nodup_routes (h : f.WellFormed parent) : f.routes.Nodup := by
  induction h with
  | empty => exact List.nodup_nil
  | @node parent name ids below beside _ hbelow _ habove ihbelow ihbeside =>
    have hapart : ∀ rest, name :: rest ∉ beside.routes := by
      intro rest hmem
      obtain ⟨s, rest', heq, hlt⟩ := habove.lt_of_mem_routes hmem
      obtain ⟨rfl, -⟩ := List.cons.inj heq
      exact lt_irrefl _ hlt
    have hnames : (below.routes.map (name :: ·)).Nodup :=
      ihbelow.map (List.cons_injective)
    rw [routes, List.nodup_cons, List.nodup_append]
    refine ⟨?_, hnames, ihbeside, ?_⟩
    · intro hmem
      rcases List.mem_append.mp hmem with hmem | hmem
      · obtain ⟨rest, hrest, heq⟩ := List.mem_map.mp hmem
        exact hbelow.ne_nil_of_mem_routes hrest (List.cons.inj heq).2
      · exact hapart [] hmem
    · rintro r hr r' hr' rfl
      obtain ⟨rest, -, rfl⟩ := List.mem_map.mp hr
      exact hapart rest hr'

/-- The paths of the nodes are made along the ways to them. -/
theorem map_path_nodes (h : f.WellFormed parent) :
    f.nodes.map (·.path) = f.routes.map (·.foldl childPath parent) := by
  induction h with
  | empty => rfl
  | node _ _ _ _ ihbelow ihbeside =>
    simp only [nodes, routes, List.map_cons, List.map_append, ihbelow, ihbeside, List.map_map]
    rfl

theorem isSome_walk?_of_mem_routes (h : f.WellFormed parent) (hroute : route ∈ f.routes) :
    ∃ s rest c, route = s :: rest ∧ f.get? s = some c ∧ (c.walk? rest).isSome = true := by
  induction h generalizing route with
  | empty => cases hroute
  | @node parent name ids below beside _ _ _ habove ihbelow ihbeside =>
    rw [routes, List.mem_cons, List.mem_append, List.mem_map] at hroute
    rcases hroute with rfl | ⟨rest, hrest, rfl⟩ | hbeside
    · exact ⟨name, [], _, rfl, by rw [get?, if_pos rfl], rfl⟩
    · obtain ⟨s, rest', c, rfl, hget, hwalk⟩ := ihbelow hrest
      refine ⟨name, _, _, rfl, by rw [get?, if_pos rfl], ?_⟩
      obtain ⟨n, hn⟩ := Option.isSome_iff_exists.mp hwalk
      exact Option.isSome_iff_exists.mpr ⟨n, TagTree.walk?_cons_eq_some.mpr ⟨c, hget, hn⟩⟩
    · obtain ⟨s, rest, c, rfl, hget, hwalk⟩ := ihbeside hbeside
      have hne : s ≠ name := (habove.lt_of_get? hget).ne'
      exact ⟨s, rest, c, rfl, by rw [get?, if_neg hne, hget], hwalk⟩

end WellFormed
end Forest

namespace TagTree

theorem WellFormed.isSome_walk?_of_mem_routes (h : t.WellFormed)
    (hroute : route ∈ t.children.routes) : (t.walk? route).isSome = true := by
  obtain ⟨s, rest, c, rfl, hget, hwalk⟩ := h.children.isSome_walk?_of_mem_routes hroute
  obtain ⟨n, hn⟩ := Option.isSome_iff_exists.mp hwalk
  exact Option.isSome_iff_exists.mpr ⟨n, walk?_cons_eq_some.mpr ⟨c, hget, hn⟩⟩

/-- The names on the way to a node are segments of tags, or the name of the bucket. -/
theorem isName_of_walk? (hwalk : (build bs).walk? route = some n) (hname : name ∈ route) :
    TagPath.IsName name := by
  have hroute : route ≠ [] := List.ne_nil_of_mem hname
  have hsome := Option.isSome_iff_exists.mpr ⟨n, hwalk⟩
  rcases (isSome_walk?_build bs hroute).mp hsome with rfl | ⟨b, -, -, tag, -, hstart⟩
  · rw [List.mem_singleton.mp hname]
    exact TagPath.isName_untagged
  · exact TagPath.isName_of_mem_segments (hstart.subset hname)

theorem path_of_walk? (hroute : route ≠ []) (hall : route.head? ≠ some TagPath.all)
    (hwalk : (build bs).walk? route = some n) : n.path = Text.join "/" route := by
  rw [((wellFormed_build bs).walk? hwalk).2, path_build, Forest.foldl_childPath_all hroute hall]

/-- Also for the bucket the look-up goes down by the segments. -/
theorem find?_eq_walk? (t : TagTree) (hpath : path ≠ TagPath.all) :
    t.find? path = t.walk? (TagPath.segments path) := by
  rw [find?, if_neg hpath]
  split
  · next huntagged =>
    rw [huntagged, TagPath.segments_untagged, walk?_cons]
    cases t.child? TagPath.untagged <;> rfl
  · rfl

theorem find?_path (hroute : route ≠ []) (hall : route.head? ≠ some TagPath.all)
    (hwalk : (build bs).walk? route = some n) : (build bs).find? n.path = some n := by
  have hnames : ∀ name ∈ route, TagPath.IsName name := fun name => isName_of_walk? hwalk
  have hpath := path_of_walk? hroute hall hwalk
  have hne : n.path ≠ TagPath.all := by
    rw [hpath]
    exact TagPath.join_ne hroute hall TagPath.slash_notMem_all
  rw [find?_eq_walk? _ hne, hpath, TagPath.segments_join hroute hnames, hwalk]

/-- Each node below the root is at the way to it, no two nodes are at one path, and who looks up the
path of a node finds the node. -/
structure KnownByPath (t : TagTree) : Prop where
  way : ∀ route n, route ≠ [] → t.walk? route = some n → n.path = Text.join "/" route
  unique : (t.nodes.map (·.path)).Nodup
  found : ∀ n ∈ t.nodes, t.find? n.path = some n

/-- Only a tag leads to a node with the name of the root. -/
theorem isSome_walk?_all_iff (bs : List Bookmark) :
    ((build bs).walk? [TagPath.all]).isSome = true ↔
      ∃ b ∈ bs, b.id ≠ "" ∧ ∃ tag ∈ b.tags, (TagPath.segments tag).head? = some TagPath.all := by
  have hbucket : [TagPath.all] ≠ [TagPath.untagged] := by decide +kernel
  have hstart (tag : String) : [TagPath.all] <+: TagPath.segments tag ↔
      (TagPath.segments tag).head? = some TagPath.all := by
    cases TagPath.segments tag with
    | nil => simp
    | cons name names => simp [List.cons_prefix_cons, eq_comm]
  rw [isSome_walk?_build bs (List.cons_ne_nil _ _), or_iff_right hbucket]
  simp only [Bookmark.hasId_iff, hstart]

section NoneAtAll

variable (h : (build bs).walk? [TagPath.all] = none)

include h

theorem head?_ne_all (hroute : route ≠ []) (hwalk : (build bs).walk? route = some n) :
    route.head? ≠ some TagPath.all := by
  obtain ⟨s, rest, rfl⟩ := List.exists_cons_of_ne_nil hroute
  intro hall
  obtain rfl : s = TagPath.all := by simpa using hall
  obtain ⟨c, hc, -⟩ := walk?_cons_eq_some.mp hwalk
  rw [walk?_cons, hc] at h
  cases h

theorem path_of_mem_routes (hmem : route ∈ (build bs).children.routes) :
    (∀ name ∈ route, TagPath.IsName name) ∧ route ≠ [] ∧
      route.foldl Forest.childPath (build bs).path = Text.join "/" route ∧
      Text.join "/" route ≠ TagPath.all := by
  have hformed := wellFormed_build bs
  have hroute := hformed.children.ne_nil_of_mem_routes hmem
  obtain ⟨n, hwalk⟩ := Option.isSome_iff_exists.mp (hformed.isSome_walk?_of_mem_routes hmem)
  have hall := head?_ne_all h hroute hwalk
  refine ⟨fun name => isName_of_walk? hwalk, hroute, ?_, ?_⟩
  · rw [path_build, Forest.foldl_childPath_all hroute hall]
  · exact TagPath.join_ne hroute hall TagPath.slash_notMem_all

/-- Ways that differ make different paths, since the names on them are found again. -/
theorem nodup_paths : ((build bs).nodes.map (·.path)).Nodup := by
  have hformed := wellFormed_build bs
  have hpaths : (build bs).children.nodes.map (·.path) =
      (build bs).children.routes.map (Text.join "/") := by
    rw [hformed.children.map_path_nodes]
    apply List.map_congr_left
    intro route hmem
    exact (path_of_mem_routes h hmem).2.2.1
  rw [nodes, List.map_cons, List.nodup_cons, hpaths, path_build]
  constructor
  · intro hmem
    obtain ⟨route, hroute, hjoin⟩ := List.mem_map.mp hmem
    exact (path_of_mem_routes h hroute).2.2.2 hjoin
  · apply List.Nodup.map_on _ hformed.children.nodup_routes
    intro route hroute other hother hjoin
    obtain ⟨hnames, hne, -⟩ := path_of_mem_routes h hroute
    obtain ⟨hnames', hne', -⟩ := path_of_mem_routes h hother
    rw [← TagPath.segments_join hne hnames, hjoin, TagPath.segments_join hne' hnames']

theorem knownByPath_of_none : (build bs).KnownByPath where
  way route n hroute hwalk := path_of_walk? hroute (head?_ne_all h hroute hwalk) hwalk
  unique := nodup_paths h
  found n hn := by
    obtain ⟨route, hwalk⟩ := (wellFormed_build bs).mem_nodes.mp hn
    by_cases hroute : route = []
    · subst hroute
      obtain rfl := Option.some.inj hwalk
      rw [path_build, find?, if_pos rfl]
    · exact find?_path hroute (head?_ne_all h hroute hwalk) hwalk

end NoneAtAll

/-- A node at the name of the root has the root's path. -/
theorem KnownByPath.walk?_all (h : (build bs).KnownByPath) :
    (build bs).walk? [TagPath.all] = none := by
  cases hwalk : (build bs).walk? [TagPath.all] with
  | none => rfl
  | some n =>
    obtain ⟨c, hc, hn⟩ := walk?_cons_eq_some.mp hwalk
    obtain rfl := Option.some.inj hn
    have hmem : c ∈ (build bs).children.nodes :=
      (wellFormed_build bs).children.mem_nodes.mpr ⟨TagPath.all, c, [], hc, rfl⟩
    have hpath : c.path = (build bs).path := by
      rw [((wellFormed_build bs).child? hc).2, path_build, Forest.childPath, if_pos rfl]
    have hunique := h.unique
    rw [nodes, List.map_cons, List.nodup_cons] at hunique
    refine (hunique.1 ?_).elim
    rw [← hpath]
    exact List.mem_map_of_mem hmem

/-- A node on a way that does not start with the name of the root is at that way and is found by its
path. All nodes are known by their paths just when no tag of a bookmark with an id starts with the
name of the root. -/
theorem knownByPath_build (bs : List Bookmark) :
    (∀ route n, route ≠ [] → route.head? ≠ some TagPath.all → (build bs).walk? route = some n →
      n.path = Text.join "/" route ∧ (build bs).find? n.path = some n) ∧
    ((build bs).KnownByPath ↔
      ∀ b ∈ bs, b.id ≠ "" → ∀ tag ∈ b.tags, (TagPath.segments tag).head? ≠ some TagPath.all) := by
  refine ⟨fun route n hroute hall hwalk => ?_, fun h b hb hid tag htag hhead => ?_, fun h => ?_⟩
  · exact ⟨path_of_walk? hroute hall hwalk, find?_path hroute hall hwalk⟩
  · have hsome := (isSome_walk?_all_iff bs).mpr ⟨b, hb, hid, tag, htag, hhead⟩
    rw [h.walk?_all] at hsome
    cases hsome
  · apply knownByPath_of_none
    rw [← Option.not_isSome_iff_eq_none, isSome_walk?_all_iff]
    rintro ⟨b, hb, hid, tag, htag, hhead⟩
    exact h b hb hid tag htag hhead

/-- The root's name further down a tag is a name like any other, and a bookmark without an id may
have it at the start of a tag. -/
theorem knownByPath_build_inside :
    ∃ (bs : List Bookmark) (n : TagTree),
      (build bs).nodes.map (·.path) =
        ["__ALL__", "Untagged", "Untagged/a", "a", "a/__ALL__", "a/__ALL__/b"] ∧
      (build bs).walk? ["a", "__ALL__"] = some n ∧ ["a", "__ALL__"] ≠ [] ∧
      ["a", "__ALL__"].head? ≠ some TagPath.all ∧
      (build bs).find? n.path = some n ∧ (build bs).KnownByPath := by
  let bs : List Bookmark := [{ id := "x", tags := [" a // __ALL__/b", "Untagged/a"] },
    { tags := ["__ALL__/b"] }]
  let n : TagTree := ⟨"__ALL__", "a/__ALL__", ["x"], .node "b" "a/__ALL__/b" ["x"] .empty .empty⟩
  have hpaths : (build bs).nodes.map (·.path) =
      ["__ALL__", "Untagged", "Untagged/a", "a", "a/__ALL__", "a/__ALL__/b"] := by decide +kernel
  have hwalk : (build bs).walk? ["a", "__ALL__"] = some n := by decide +kernel
  have hhead : ["a", "__ALL__"].head? ≠ some TagPath.all := by decide +kernel
  have htags : ∀ b ∈ bs, b.id ≠ "" → ∀ tag ∈ b.tags,
      (TagPath.segments tag).head? ≠ some TagPath.all := by decide +kernel
  obtain ⟨hnode, hall⟩ := knownByPath_build bs
  exact ⟨bs, n, hpaths, hwalk, List.cons_ne_nil _ _, hhead,
    (hnode _ n (List.cons_ne_nil _ _) hhead hwalk).2, hall.mpr htags⟩

/-- Below a node with the root's name the paths start anew: there are two nodes at one path, and the
look-up finds only one of them. -/
theorem path_below_all :
    ∃ (bs : List Bookmark) (inner outer : TagTree),
      (build bs).walk? ["__ALL__", "x"] = some inner ∧ (build bs).walk? ["x"] = some outer ∧
      inner.path = "x" ∧ outer.path = "x" ∧ inner ≠ outer ∧
      (build bs).find? inner.path = some outer ∧ ¬ (build bs).KnownByPath := by
  let bs : List Bookmark := [{ id := "a", tags := ["__ALL__/x"] }, { id := "b", tags := ["x"] }]
  let inner : TagTree := ⟨"x", "x", ["a"], .empty⟩
  let outer : TagTree := ⟨"x", "x", ["b"], .empty⟩
  have hinner : (build bs).walk? ["__ALL__", "x"] = some inner := by decide +kernel
  have houter : (build bs).walk? ["x"] = some outer := by decide +kernel
  have hne : inner ≠ outer := by decide +kernel
  have hfind : (build bs).find? inner.path = some outer := by decide +kernel
  have hmem : inner ∈ (build bs).nodes := (wellFormed_build bs).mem_nodes.mpr ⟨_, hinner⟩
  refine ⟨bs, inner, outer, hinner, houter, rfl, rfl, hne, hfind, fun h => hne ?_⟩
  rw [h.found inner hmem] at hfind
  exact Option.some.inj hfind

end TagTree
end Linkshelf
