import Mathlib.Data.String.Basic
import Linkshelf.TagTree.Basic

/-! What it does to the tree of tags to plant an id. A node is known by its route, the names that
lead to it from the root. -/
namespace Linkshelf

variable {id i name parent lower segment : String} {ids segments route : List String}
  {f : Forest} {t n : TagTree}

theorem mem_insertId : i ∈ insertId id ids ↔ i = id ∨ i ∈ ids := by
  induction ids with
  | nil => simp [insertId]
  | cons j ids ih =>
    rw [insertId]
    split
    · next hid =>
      subst hid
      simp
    · split
      · exact List.mem_cons
      · rw [List.mem_cons, ih, List.mem_cons]
        exact or_left_comm

theorem ascending_insertId (id : String) (h : ids.Pairwise (· < ·)) :
    (insertId id ids).Pairwise (· < ·) := by
  induction ids with
  | nil => simp [insertId]
  | cons j ids ih =>
    obtain ⟨hj, hids⟩ := List.pairwise_cons.mp h
    rw [insertId]
    split
    · exact h
    · next hne =>
      split
      · next hlt =>
        refine List.pairwise_cons.mpr ⟨fun k hk => ?_, h⟩
        rcases List.mem_cons.mp hk with rfl | hk
        · exact hlt
        · exact lt_trans hlt (hj k hk)
      · next hge =>
        have hlt : j < id := lt_of_le_of_ne (not_lt.mp hge) (Ne.symm hne)
        refine List.pairwise_cons.mpr ⟨fun k hk => ?_, ih hids⟩
        rcases mem_insertId.mp hk with rfl | hk
        · exact hlt
        · exact hj k hk

namespace Forest

/-- All siblings have greater names. -/
def Above (lower : String) : Forest → Prop
  | empty => True
  | node name _ _ _ beside => lower < name ∧ beside.Above lower

/-- Siblings by ascending names, ids that ascend, and every node at the path that its parent's path
and its own name make. -/
inductive WellFormed : String → Forest → Prop
  | empty {parent : String} : WellFormed parent empty
  | node {parent name : String} {ids : List String} {below beside : Forest} :
      ids.Pairwise (· < ·) → below.WellFormed (childPath parent name) →
      beside.WellFormed parent → beside.Above name →
      WellFormed parent (node name (childPath parent name) ids below beside)

theorem Above.mono (h : f.Above name) (hlt : lower < name) : f.Above lower := by
  induction f with
  | empty => exact trivial
  | node other path ids below beside _ ih => exact ⟨lt_trans hlt h.1, ih h.2⟩

theorem Above.lt_of_get? (h : f.Above lower) (hget : f.get? segment = some n) :
    lower < segment := by
  induction f with
  | empty => cases hget
  | node name path ids below beside _ ih =>
    rw [get?] at hget
    split at hget
    · next hname =>
      subst hname
      exact h.1
    · exact ih h.2 hget

theorem Above.get?_eq_none (h : f.Above name) (hle : segment ≤ name) : f.get? segment = none := by
  cases hget : f.get? segment with
  | none => rfl
  | some n => exact (not_lt.mpr hle (h.lt_of_get? hget)).elim

theorem chain_eq_plant (parent id : String) (segments : List String) :
    chain parent id segments = empty.plant parent id segments := by
  cases segments with
  | nil => simp only [chain, plant]
  | cons s segments => simp only [plant]

theorem wellFormed_chain (parent id : String) (segments : List String) :
    (chain parent id segments).WellFormed parent := by
  induction segments generalizing parent with
  | nil => exact .empty
  | cons s segments ih => exact .node (List.pairwise_singleton _ _) (ih _) .empty trivial

theorem Above.plant (h : f.Above lower) (hlt : lower < segment) :
    (f.plant parent id (segment :: segments)).Above lower := by
  induction f with
  | empty => exact ⟨hlt, trivial⟩
  | node name path ids below beside _ ih =>
    rw [Forest.plant]
    split
    · exact h
    · split
      · exact ⟨hlt, h⟩
      · exact ⟨h.1, ih h.2⟩

theorem WellFormed.plant (h : f.WellFormed parent) (id : String) (segments : List String) :
    (f.plant parent id segments).WellFormed parent := by
  induction h generalizing segments with
  | empty =>
    rw [← chain_eq_plant]
    exact wellFormed_chain _ _ _
  | @node parent name ids below beside hids hbelow hbeside habove ihbelow ihbeside =>
    cases segments with
    | nil =>
      rw [Forest.plant]
      exact .node hids hbelow hbeside habove
    | cons s segments =>
      rw [Forest.plant]
      split
      · exact .node (ascending_insertId id hids) (ihbelow segments) hbeside habove
      · next hne =>
        split
        · next hlt =>
          exact .node (List.pairwise_singleton _ _) (wellFormed_chain _ _ _)
            (.node hids hbelow hbeside habove) ⟨hlt, habove.mono hlt⟩
        · next hge =>
          have hlt : name < s := lt_of_le_of_ne (not_lt.mp hge) (Ne.symm hne)
          exact .node hids hbelow (ihbeside _) (habove.plant hlt)

end Forest

namespace TagTree

structure WellFormed (t : TagTree) : Prop where
  ids : t.ids.Pairwise (· < ·)
  children : t.children.WellFormed t.path

def mark (t : TagTree) (id : String) : TagTree := { t with ids := insertId id t.ids }

/-- A node without ids and without nodes below it. -/
def bare (parent name : String) : TagTree := ⟨name, Forest.childPath parent name, [], .empty⟩

end TagTree

/-- Planting reaches one of the siblings, or makes it. -/
theorem Forest.WellFormed.get?_plant (h : f.WellFormed parent) (id s : String)
    (segments : List String) (s' : String) :
    (f.plant parent id (s :: segments)).get? s' =
      if s' = s then some ((((f.get? s).getD (.bare parent s)).mark id).plant id segments)
      else f.get? s' := by
  induction h with
  | empty =>
    rw [Forest.plant, chain]
    simp only [get?, Option.getD_none, TagTree.bare, TagTree.mark, TagTree.plant, chain_eq_plant,
      insertId]
  | @node parent name ids below beside hids hbelow hbeside habove ihbelow ihbeside =>
    rw [Forest.plant]
    split
    · next hname =>
      subst hname
      simp only [get?, if_true, Option.getD_some, TagTree.mark, TagTree.plant]
      split <;> rfl
    · next hne =>
      split
      · next hlt =>
        have hnone : beside.get? s = none := habove.get?_eq_none (le_of_lt hlt)
        simp only [get?, if_neg hne, hnone, Option.getD_none, TagTree.bare, TagTree.mark,
          TagTree.plant, chain_eq_plant, insertId]
      · simp only [get?, if_neg hne]
        rw [ihbeside]
        by_cases hs : s' = name
        · have hs' : s' ≠ s := fun h => hne (h ▸ hs)
          simp only [if_pos hs, if_neg hs']
        · simp only [if_neg hs]

namespace TagTree

theorem WellFormed.plant (h : t.WellFormed) (id : String) (segments : List String) :
    (t.plant id segments).WellFormed := ⟨h.ids, h.children.plant id segments⟩

theorem WellFormed.mark (h : t.WellFormed) (id : String) : (t.mark id).WellFormed :=
  ⟨ascending_insertId id h.ids, h.children⟩

theorem wellFormed_bare (parent name : String) : (bare parent name).WellFormed :=
  ⟨List.Pairwise.nil, .empty⟩

theorem WellFormed.child? (h : t.WellFormed) (hchild : t.child? segment = some n) :
    n.WellFormed ∧ n.path = Forest.childPath t.path segment := by
  obtain ⟨root, path, ids, children⟩ := t
  have hf : children.WellFormed path := h.children
  change children.get? segment = some n at hchild
  change n.WellFormed ∧ n.path = Forest.childPath path segment
  induction hf with
  | empty => cases hchild
  | @node parent name ids below beside hids hbelow hbeside habove _ ih =>
    rw [Forest.get?] at hchild
    split at hchild
    · next hname =>
      subst hname
      obtain rfl := Option.some.inj hchild
      exact ⟨⟨hids, hbelow⟩, rfl⟩
    · exact ih ⟨h.ids, hbeside⟩ hchild

theorem walk?_cons (t : TagTree) (s : String) (route : List String) :
    t.walk? (s :: route) = (t.child? s).bind (·.walk? route) := by
  rw [walk?]

theorem walk?_cons_eq_some :
    t.walk? (segment :: route) = some n ↔
      ∃ c, t.child? segment = some c ∧ c.walk? route = some n := by
  rw [walk?_cons, Option.bind_eq_some_iff]

theorem WellFormed.walk? (h : t.WellFormed) (hwalk : t.walk? route = some n) :
    n.WellFormed ∧ n.path = route.foldl Forest.childPath t.path := by
  induction route generalizing t with
  | nil =>
    obtain rfl := Option.some.inj hwalk
    exact ⟨h, rfl⟩
  | cons s route ih =>
    obtain ⟨c, hc, hwalk⟩ := walk?_cons_eq_some.mp hwalk
    obtain ⟨hchild, hpath⟩ := h.child? hc
    rw [List.foldl_cons, ← hpath]
    exact ih hchild hwalk

/-- The ids at the end of a route, if it leads to a node. -/
def idsAt? (t : TagTree) (route : List String) : Option (List String) :=
  (t.walk? route).map (·.ids)

theorem idsAt?_cons (t : TagTree) (s : String) (route : List String) :
    t.idsAt? (s :: route) = (t.child? s).bind (·.idsAt? route) := by
  rw [idsAt?, walk?_cons, Option.map_bind]
  rfl

theorem plant_nil (t : TagTree) (id : String) : t.plant id [] = t := by
  rw [plant, Forest.plant]

theorem WellFormed.child?_plant (h : t.WellFormed) (id s : String) (segments : List String)
    (s' : String) :
    (t.plant id (s :: segments)).child? s' =
      if s' = s then some ((((t.child? s).getD (bare t.path s)).mark id).plant id segments)
      else t.child? s' := h.children.get?_plant id s segments s'

theorem idsAt?_nil (t : TagTree) : t.idsAt? [] = some t.ids := rfl

theorem idsAt?_mark (t : TagTree) (id : String) (hroute : route ≠ []) :
    (t.mark id).idsAt? route = t.idsAt? route := by
  cases route with
  | nil => exact (hroute rfl).elim
  | cons s route => rfl

theorem WellFormed.getD_bare (h : t.WellFormed) (s : String) :
    ((t.child? s).getD (bare t.path s)).WellFormed := by
  cases hc : t.child? s with
  | none => exact wellFormed_bare t.path s
  | some c => exact (h.child? hc).1

/-- Below a node that is missing there is nothing, as there is below a bare one. -/
theorem idsAt?_getD_bare (t : TagTree) (s : String) (hroute : route ≠ []) :
    ((t.child? s).getD (bare t.path s)).idsAt? route =
      (t.child? s).bind (·.idsAt? route) := by
  cases t.child? s with
  | some c => rfl
  | none =>
    cases route with
    | nil => exact (hroute rfl).elim
    | cons s' route => rfl

/-- The ids change along the segments and nowhere else. -/
theorem WellFormed.idsAt?_plant (h : t.WellFormed) (id : String) (segments : List String)
    (hroute : route ≠ []) :
    (t.plant id segments).idsAt? route =
      if route <+: segments then some (insertId id ((t.idsAt? route).getD []))
      else t.idsAt? route := by
  induction route generalizing t segments with
  | nil => exact (hroute rfl).elim
  | cons s' route ih =>
    cases segments with
    | nil => rw [plant_nil, if_neg (by simp)]
    | cons s segments =>
      rw [idsAt?_cons, idsAt?_cons, h.child?_plant]
      by_cases hs : s' = s
      · subst hs
        rw [if_pos rfl, Option.bind_some]
        cases route with
        | nil =>
          rw [if_pos (by simp)]
          cases t.child? s' <;> rfl
        | cons s'' rest =>
          -- A child that is missing is planted as a bare one, and nothing is below either.
          have hrest : s'' :: rest ≠ [] := List.cons_ne_nil _ _
          rw [ih ((h.getD_bare s').mark id) segments hrest, idsAt?_mark _ _ hrest,
            idsAt?_getD_bare _ _ hrest]
          simp only [List.cons_prefix_cons, true_and]
      · have hstart : ¬ s' :: route <+: s :: segments := by simp [hs]
        rw [if_neg hs, if_neg hstart]

end TagTree
end Linkshelf
