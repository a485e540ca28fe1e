import Mathlib.Data.List.Sort
import Linkshelf.Proofs.TagTree.Membership

/-! A tree of tags is known by the ids along its routes. So it depends on which bookmarks there are
with which tags, and not on their order or on how often they are there. -/
namespace Linkshelf

variable {parent : String} {route ids : List String} {f g : Forest} {t other : TagTree}
  {b c : Bookmark} {bs cs : List Bookmark}

namespace Forest

theorem idsAt?_get?_node (name path segment : String) (ids : List String) (below beside : Forest)
    (route : List String) :
    ((node name path ids below beside).get? segment).bind (·.idsAt? route) =
      if segment = name then (TagTree.mk name path ids below).idsAt? route
      else (beside.get? segment).bind (·.idsAt? route) := by
  rw [get?]
  split <;> rfl

/-- Siblings are sorted, so forests with the same ids along all routes agree from the first on. -/
theorem WellFormed.ext (hf : f.WellFormed parent) (hg : g.WellFormed parent)
    (h : ∀ segment route,
      (f.get? segment).bind (·.idsAt? route) = (g.get? segment).bind (·.idsAt? route)) : f = g := by
  induction hf generalizing g with
  | empty =>
    cases hg with
    | empty => rfl
    | @node _ name ids below beside =>
      have hname := h name []
      rw [idsAt?_get?_node, if_pos rfl] at hname
      cases hname
  | @node parent name ids below beside _ hbelow hbeside habove ihbelow ihbeside =>
    cases hg with
    | empty =>
      have hname := h name []
      rw [idsAt?_get?_node, if_pos rfl] at hname
      cases hname
    | @node _ name' ids' below' beside' _ hbelow' hbeside' habove' =>
      simp only [idsAt?_get?_node] at h
      -- The lesser of two different names would be a sibling in one of the forests alone.
      have hname : name = name' := by
        rcases lt_trichotomy name name' with hlt | heq | hlt
        · have hnone := h name []
          rw [if_pos rfl, if_neg hlt.ne, habove'.get?_eq_none hlt.le] at hnone
          cases hnone
        · exact heq
        · have hnone := h name' []
          rw [if_pos rfl, if_neg hlt.ne, habove.get?_eq_none hlt.le] at hnone
          cases hnone
      subst hname
      have hids : ids = ids' := by
        have hsame := h name []
        rw [if_pos rfl, if_pos rfl] at hsame
        exact Option.some.inj hsame
      have hsameBelow : below = below' := by
        apply ihbelow hbelow'
        intro segment route
        have hsame := h name (segment :: route)
        rwa [if_pos rfl, if_pos rfl, TagTree.idsAt?_cons, TagTree.idsAt?_cons] at hsame
      have hsameBeside : beside = beside' := by
        apply ihbeside hbeside'
        intro segment route
        by_cases hs : segment = name
        · rw [hs, habove.get?_eq_none le_rfl, habove'.get?_eq_none le_rfl]
        · have hsame := h segment route
          rwa [if_neg hs, if_neg hs] at hsame
      rw [hids, hsameBelow, hsameBeside]

end Forest

namespace TagTree

theorem WellFormed.ext (ht : t.WellFormed) (hother : other.WellFormed) (hname : t.name = other.name)
    (hpath : t.path = other.path) (h : ∀ route, t.idsAt? route = other.idsAt? route) :
    t = other := by
  obtain ⟨name, path, ids, children⟩ := t
  obtain ⟨name', path', ids', children'⟩ := other
  obtain rfl : name = name' := hname
  obtain rfl : path = path' := hpath
  have hids : ids = ids' := Option.some.inj (h [])
  have hchildren : children = children' := by
    apply ht.children.ext hother.children
    intro segment route
    have hsame := h (segment :: route)
    rwa [idsAt?_cons, idsAt?_cons] at hsame
  rw [hids, hchildren]

theorem WellFormed.ascending_idsAt? (ht : t.WellFormed) (h : t.idsAt? route = some ids) :
    ids.Pairwise (· < ·) := by
  obtain ⟨n, hwalk, rfl⟩ := Option.map_eq_some_iff.mp h
  exact (ht.walk? hwalk).1.ids

/-- Ids ascend, so it is enough that each is in both trees or in neither. -/
theorem WellFormed.idsAt?_congr (ht : t.WellFormed) (hother : other.WellFormed)
    (hsome : (t.idsAt? route).isSome ↔ (other.idsAt? route).isSome)
    (hmem : ∀ i, i ∈ (t.idsAt? route).getD [] ↔ i ∈ (other.idsAt? route).getD []) :
    t.idsAt? route = other.idsAt? route := by
  cases hids : t.idsAt? route with
  | none =>
    have hnone : other.idsAt? route = none := by simpa [hids] using hsome
    rw [hnone]
  | some ids =>
    cases hids' : other.idsAt? route with
    | none => simp [hids, hids'] at hsome
    | some ids' =>
      simp only [hids, hids', Option.getD_some] at hmem
      rw [(ht.ascending_idsAt? hids).eq_of_mem_iff (hother.ascending_idsAt? hids') hmem]

end TagTree

/-- The same id, and the same tags in any order and any number. -/
structure Bookmark.SameTags (b c : Bookmark) : Prop where
  id : b.id = c.id
  tags : ∀ tag, tag ∈ b.tags ↔ tag ∈ c.tags

namespace Bookmark.SameTags

instance (b c : Bookmark) : Decidable (b.SameTags c) :=
  decidable_of_iff
    (b.id = c.id ∧ (∀ tag ∈ b.tags, tag ∈ c.tags) ∧ ∀ tag ∈ c.tags, tag ∈ b.tags)
    ⟨fun h => ⟨h.1, fun tag => ⟨h.2.1 tag, h.2.2 tag⟩⟩,
      fun h => ⟨h.id, fun tag => (h.tags tag).mp, fun tag => (h.tags tag).mpr⟩⟩

variable (h : b.SameTags c)

include h

theorem hasId : b.hasId = c.hasId := by
  rw [Bookmark.hasId, Bookmark.hasId, h.id]

theorem mem_routes : route ∈ b.routes ↔ route ∈ c.routes := by
  have huntagged : b.isUntagged = c.isUntagged := by
    rw [Bool.eq_iff_iff, isUntagged, isUntagged, List.all_eq_true, List.all_eq_true]
    simp only [h.tags]
  rw [routes, routes, huntagged]
  split
  · rfl
  · simp only [List.mem_map, h.tags]

end Bookmark.SameTags

/-- The same bookmarks, in any order and any number, each with the same tags. -/
structure SameContent (bs cs : List Bookmark) : Prop where
  left : ∀ b ∈ bs, ∃ c ∈ cs, b.SameTags c
  right : ∀ c ∈ cs, ∃ b ∈ bs, b.SameTags c

namespace SameContent

variable (h : SameContent bs cs)

include h

theorem exists_iff {P : Bookmark → Prop} (hP : ∀ b c : Bookmark, b.SameTags c → (P b ↔ P c)) :
    (∃ b ∈ bs, P b) ↔ ∃ c ∈ cs, P c := by
  constructor
  · rintro ⟨b, hb, hp⟩
    obtain ⟨c, hc, hsame⟩ := h.left b hb
    exact ⟨c, hc, (hP b c hsame).mp hp⟩
  · rintro ⟨c, hc, hp⟩
    obtain ⟨b, hb, hsame⟩ := h.right c hc
    exact ⟨b, hb, (hP b c hsame).mpr hp⟩

theorem exists_route_iff (P : String → List String → Prop) :
    (∃ b ∈ bs, b.hasId = true ∧ ∃ r ∈ b.routes, P b.id r) ↔
      ∃ c ∈ cs, c.hasId = true ∧ ∃ r ∈ c.routes, P c.id r := by
  apply h.exists_iff
  intro b c hsame
  rw [hsame.hasId, hsame.id]
  simp only [hsame.mem_routes]

end SameContent

namespace TagTree

theorem name_build (bs : List Bookmark) : (build bs).name = start.name :=
  (build_gains (P := fun t => t.name = start.name) (Q := fun _ _ => False) (fun _ _ => Iff.rfl)
    (fun _ _ _ _ => (or_iff_left id).symm) bs).mpr (Or.inl rfl)

theorem build_congr (h : SameContent bs cs) : build bs = build cs := by
  have hbs := wellFormed_build bs
  have hcs := wellFormed_build cs
  apply hbs.ext hcs
  · rw [name_build, name_build]
  · rw [path_build, path_build]
  · intro route
    apply hbs.idsAt?_congr hcs
    · by_cases hroute : route = []
      · rw [hroute, idsAt?_nil, idsAt?_nil]
        simp
      · rw [isSome_idsAt?_build bs hroute, isSome_idsAt?_build cs hroute]
        exact or_congr_right (h.exists_route_iff fun _ r => route <+: r)
    · intro i
      by_cases hroute : route = []
      · rw [hroute, idsAt?_nil, idsAt?_nil, Option.getD_some, Option.getD_some, mem_ids_build,
          mem_ids_build]
        apply h.exists_iff
        intro b c hsame
        rw [hsame.hasId, hsame.id]
      · rw [mem_idsAt?_build bs hroute, mem_idsAt?_build cs hroute]
        exact h.exists_route_iff fun id r => i = id ∧ route <+: r

end TagTree
end Linkshelf
