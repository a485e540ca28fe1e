import Linkshelf.Proofs.Bookmark.Tags
import Linkshelf.Proofs.TagTree.Plant

/-! The tree that bookmarks make: each bookmark puts its id at every node along its routes, and no
other nodes are there. -/
namespace Linkshelf

variable {id i parent : String} {route : List String} {f : Forest} {t n : TagTree} {b : Bookmark}
  {bs : List Bookmark}

/-- The routes along which a bookmark is planted: one for each tag, or one without tags. -/
def Bookmark.routes (b : Bookmark) : List (List String) :=
  if b.isUntagged then [[TagPath.untagged]] else b.tags.map TagPath.segments

/-- A forest node by node. -/
def Forest.nodes : Forest → List TagTree
  | .empty => []
  | .node name path ids below beside => ⟨name, path, ids, below⟩ :: (below.nodes ++ beside.nodes)

namespace TagTree

/-- The root and all nodes below it. -/
def nodes (t : TagTree) : List TagTree := t :: t.children.nodes

theorem WellFormed.isSome_idsAt?_plant (h : t.WellFormed) (id : String) (segments : List String)
    (hroute : route ≠ []) :
    ((t.plant id segments).idsAt? route).isSome ↔
      (t.idsAt? route).isSome ∨ route <+: segments := by
  rw [h.idsAt?_plant id segments hroute]
  split
  · next hstart => simp [hstart]
  · next hstart => simp [hstart]

theorem WellFormed.mem_idsAt?_plant (h : t.WellFormed) (id : String) (segments : List String)
    (hroute : route ≠ []) :
    i ∈ ((t.plant id segments).idsAt? route).getD [] ↔
      i ∈ (t.idsAt? route).getD [] ∨ i = id ∧ route <+: segments := by
  rw [h.idsAt?_plant id segments hroute]
  split
  · next hstart => simp [hstart, mem_insertId, or_comm]
  · next hstart => simp [hstart]

theorem insert_eq (t : TagTree) (b : Bookmark) :
    t.insert b =
      if b.hasId then b.routes.foldl (fun t route => t.plant b.id route) (t.mark b.id) else t := by
  rw [insert, Bookmark.routes]
  cases b.hasId with
  | false => rfl
  | true =>
    cases b.isUntagged with
    | true => rfl
    | false =>
      simp only [Bool.not_true, Bool.false_eq_true, if_false, if_true, List.foldl_map]
      rfl

theorem wellFormed_start : start.WellFormed where
  ids := .nil
  children := .node .nil .empty .empty trivial

theorem WellFormed.plants (h : t.WellFormed) (id : String) (routes : List (List String)) :
    (routes.foldl (fun t route => t.plant id route) t).WellFormed := by
  induction routes generalizing t with
  | nil => exact h
  | cons route routes ih => exact ih (h.plant id route)

theorem WellFormed.insert (h : t.WellFormed) (b : Bookmark) : (t.insert b).WellFormed := by
  rw [insert_eq]
  split
  · exact (h.mark b.id).plants b.id b.routes
  · exact h

theorem WellFormed.inserts (h : t.WellFormed) (bs : List Bookmark) :
    (bs.foldl TagTree.insert t).WellFormed := by
  induction bs generalizing t with
  | nil => exact h
  | cons b bs ih => exact ih (h.insert b)

theorem wellFormed_build (bs : List Bookmark) : (build bs).WellFormed :=
  wellFormed_start.inserts bs

section Gains

variable {P : TagTree → Prop} {Q : String → List String → Prop}
  (hmark : ∀ (t : TagTree) (id : String), P (t.mark id) ↔ P t)
  (hplant : ∀ (t : TagTree) (id : String) (route : List String), t.WellFormed →
    (P (t.plant id route) ↔ P t ∨ Q id route))

include hplant

theorem plants_gain (h : t.WellFormed) (id : String) (routes : List (List String)) :
    P (routes.foldl (fun t route => t.plant id route) t) ↔ P t ∨ ∃ route ∈ routes, Q id route := by
  induction routes generalizing t with
  | nil => simp
  | cons route routes ih =>
    rw [List.foldl_cons, ih (h.plant id route), hplant t id route h, or_assoc]
    simp

include hmark

/-- What the tree gains with each planted route it gains with the routes of its bookmarks. -/
theorem build_gains (bs : List Bookmark) :
    P (build bs) ↔
      P start ∨ ∃ b ∈ bs, b.hasId = true ∧ ∃ route ∈ b.routes, Q b.id route := by
  have hinsert (t : TagTree) (b : Bookmark) (h : t.WellFormed) :
      P (t.insert b) ↔ P t ∨ b.hasId = true ∧ ∃ route ∈ b.routes, Q b.id route := by
    rw [insert_eq]
    split
    · next hid => rw [plants_gain hplant (h.mark b.id), hmark, and_iff_right hid]
    · next hid => simp [hid]
  -- From any tree on, as the bookmarks go in one after the other.
  have hinserts (t : TagTree) (h : t.WellFormed) :
      P (bs.foldl TagTree.insert t) ↔
        P t ∨ ∃ b ∈ bs, b.hasId = true ∧ ∃ route ∈ b.routes, Q b.id route := by
    induction bs generalizing t with
    | nil => simp
    | cons b bs ih =>
      rw [List.foldl_cons, ih (t.insert b) (h.insert b), hinsert t b h, or_assoc]
      simp
  exact hinserts start wellFormed_start

end Gains

theorem idsAt?_start (hroute : route ≠ []) :
    start.idsAt? route = if route = [TagPath.untagged] then some [] else none := by
  obtain ⟨s, rest, rfl⟩ := List.exists_cons_of_ne_nil hroute
  rw [idsAt?_cons, child?, start, Forest.get?]
  by_cases hs : s = TagPath.untagged
  · cases rest with
    | nil => simp [hs, idsAt?_nil]
    | cons s' rest => simp [hs, idsAt?_cons, child?, Forest.get?]
  · simp [hs, Forest.get?]

/-- The nodes of the tree: the bucket for bookmarks without tags, and all that lies on a route. -/
theorem isSome_idsAt?_build (bs : List Bookmark) (hroute : route ≠ []) :
    ((build bs).idsAt? route).isSome ↔
      route = [TagPath.untagged] ∨
        ∃ b ∈ bs, b.hasId = true ∧ ∃ r ∈ b.routes, route <+: r := by
  rw [build_gains (P := fun t => (t.idsAt? route).isSome) (Q := fun _ r => route <+: r)
    (fun t id => by rw [idsAt?_mark t id hroute])
    (fun t id r h => h.isSome_idsAt?_plant id r hroute), idsAt?_start hroute]
  split
  · next h => simp [h]
  · next h => simp [h]

/-- The ids at a node are those of the bookmarks with a route through it. -/
theorem mem_idsAt?_build (bs : List Bookmark) (hroute : route ≠ []) :
    i ∈ ((build bs).idsAt? route).getD [] ↔
      ∃ b ∈ bs, b.hasId = true ∧ ∃ r ∈ b.routes, i = b.id ∧ route <+: r := by
  rw [build_gains (P := fun t => i ∈ (t.idsAt? route).getD [])
    (Q := fun id r => i = id ∧ route <+: r)
    (fun t id => by rw [idsAt?_mark t id hroute])
    (fun t id r h => h.mem_idsAt?_plant id r hroute), idsAt?_start hroute, or_iff_right]
  split <;> simp

theorem path_build (bs : List Bookmark) : (build bs).path = TagPath.all :=
  (build_gains (P := fun t => t.path = TagPath.all) (Q := fun _ _ => False) (fun _ _ => Iff.rfl)
    (fun _ _ _ _ => (or_iff_left id).symm) bs).mpr (Or.inl rfl)

theorem ids_plants (t : TagTree) (id : String) (routes : List (List String)) :
    (routes.foldl (fun t route => t.plant id route) t).ids = t.ids := by
  induction routes generalizing t with
  | nil => rfl
  | cons route routes ih => exact ih (t.plant id route)

theorem mem_ids_insert : i ∈ (t.insert b).ids ↔ i ∈ t.ids ∨ b.hasId = true ∧ i = b.id := by
  rw [insert_eq]
  split
  · next hid =>
    rw [ids_plants, TagTree.mark, mem_insertId, and_iff_right hid]
    exact or_comm
  · next hid => simp [hid]

theorem mem_ids_build (bs : List Bookmark) :
    i ∈ (build bs).ids ↔ ∃ b ∈ bs, b.hasId = true ∧ i = b.id := by
  have hinserts (t : TagTree) :
      i ∈ (bs.foldl TagTree.insert t).ids ↔ i ∈ t.ids ∨ ∃ b ∈ bs, b.hasId = true ∧ i = b.id := by
    induction bs generalizing t with
    | nil => simp
    | cons b bs ih =>
      rw [List.foldl_cons, ih (t.insert b), mem_ids_insert, or_assoc]
      simp
  exact (hinserts start).trans (or_iff_right List.not_mem_nil)

end TagTree

namespace Forest

theorem foldl_childPath (h : parent ≠ TagPath.all) (route : List String) :
    route.foldl childPath parent = Text.join "/" (parent :: route) := by
  induction route generalizing parent with
  | nil => simp [Text.join, Chars.join]
  | cons name route ih =>
    have hchild : parent ++ "/" ++ name ≠ TagPath.all := by
      intro heq
      exact TagPath.slash_notMem_all (heq ▸ TagPath.slash_mem_append parent name)
    rw [List.foldl_cons, childPath, if_neg h, ih hchild, TagPath.join_append_cons]

/-- The path of a node is its route with slashes, unless that starts at the place of everything. -/
theorem foldl_childPath_all (hne : route ≠ []) (h : route.head? ≠ some TagPath.all) :
    route.foldl childPath TagPath.all = Text.join "/" route := by
  obtain ⟨name, rest, rfl⟩ := List.exists_cons_of_ne_nil hne
  have hname : name ≠ TagPath.all := by
    rintro rfl
    exact h rfl
  rw [List.foldl_cons, childPath, if_pos rfl, foldl_childPath hname]

end Forest

/-- The nodes of a forest are those that a route reaches. -/
theorem Forest.WellFormed.mem_nodes (h : f.WellFormed parent) :
    n ∈ f.nodes ↔ ∃ s c route, f.get? s = some c ∧ c.walk? route = some n := by
  induction h with
  | empty => simp [nodes, get?]
  | @node parent name ids below beside _ _ _ habove ihbelow ihbeside =>
    rw [nodes, List.mem_cons, List.mem_append, ihbelow, ihbeside]
    constructor
    · rintro (rfl | ⟨s, c, route, hget, hwalk⟩ | ⟨s, c, route, hget, hwalk⟩)
      · exact ⟨name, _, [], by rw [get?, if_pos rfl], rfl⟩
      · refine ⟨name, _, s :: route, by rw [get?, if_pos rfl], ?_⟩
        exact TagTree.walk?_cons_eq_some.mpr ⟨c, hget, hwalk⟩
      · have hne : s ≠ name := (habove.lt_of_get? hget).ne'
        exact ⟨s, c, route, by rw [get?, if_neg hne, hget], hwalk⟩
    · rintro ⟨s, c, route, hget, hwalk⟩
      rw [get?] at hget
      split at hget
      · obtain rfl := Option.some.inj hget
        cases route with
        | nil => exact Or.inl (Option.some.inj hwalk).symm
        | cons s' route =>
          obtain ⟨c, hc, hwalk⟩ := TagTree.walk?_cons_eq_some.mp hwalk
          exact Or.inr (Or.inl ⟨s', c, route, hc, hwalk⟩)
      · exact Or.inr (Or.inr ⟨s, c, route, hget, hwalk⟩)

theorem TagTree.WellFormed.mem_nodes (h : t.WellFormed) :
    n ∈ t.nodes ↔ ∃ route, t.walk? route = some n := by
  rw [nodes, List.mem_cons, h.children.mem_nodes]
  constructor
  · rintro (rfl | ⟨s, c, route, hget, hwalk⟩)
    · exact ⟨[], rfl⟩
    · exact ⟨s :: route, walk?_cons_eq_some.mpr ⟨c, hget, hwalk⟩⟩
  · rintro ⟨route, hwalk⟩
    cases route with
    | nil => exact Or.inl (Option.some.inj hwalk).symm
    | cons s route =>
      obtain ⟨c, hc, hwalk⟩ := walk?_cons_eq_some.mp hwalk
      exact Or.inr ⟨s, c, route, hc, hwalk⟩

end Linkshelf
