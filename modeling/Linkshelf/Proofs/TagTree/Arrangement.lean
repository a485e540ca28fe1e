import Linkshelf.Proofs.TagTree.Content
import Linkshelf.TagTree.View

/-! The tree of tags as it is shown, whatever the order in which siblings are kept: they are sorted,
and no two of them have one name. -/
namespace Linkshelf

variable {parent lower : String} {f g : Forest} {t other : TagTree} {bs cs : List Bookmark}

namespace Forest

/-- The same nodes, with siblings in another order on any level. -/
inductive Rearranged : Forest → Forest → Prop
  | empty : Rearranged empty empty
  | node {name path : String} {ids : List String} {below below' beside beside' : Forest} :
      Rearranged below below' → Rearranged beside beside' →
      Rearranged (node name path ids below beside) (node name path ids below' beside')
  | swap {name path name' path' : String} {ids ids' : List String}
      {below below' beside : Forest} :
      Rearranged (node name path ids below (node name' path' ids' below' beside))
        (node name' path' ids' below' (node name path ids below beside))
  | trans {f g h : Forest} : Rearranged f g → Rearranged g h → Rearranged f h

/-- The names of siblings. -/
def names : Forest → List String
  | empty => []
  | node name _ _ _ beside => name :: beside.names

/-- Siblings have different names, on all levels. -/
def Distinct : Forest → Prop
  | empty => True
  | node name _ _ below beside => name ∉ beside.names ∧ below.Distinct ∧ beside.Distinct

theorem Above.lt_of_mem_names (h : f.Above lower) : ∀ name ∈ f.names, lower < name := by
  induction f with
  | empty => simp [names]
  | node name path ids below beside _ ih => exact List.forall_mem_cons.mpr ⟨h.1, ih h.2⟩

theorem WellFormed.ascending_names (h : f.WellFormed parent) : f.names.Pairwise (· < ·) := by
  induction h with
  | empty => exact .nil
  | node _ _ _ habove _ ihbeside => exact .cons habove.lt_of_mem_names ihbeside

theorem WellFormed.distinct (h : f.WellFormed parent) : f.Distinct := by
  induction h with
  | empty => exact trivial
  | node _ _ _ habove ihbelow ihbeside =>
    refine ⟨fun hmem => ?_, ihbelow, ihbeside⟩
    exact lt_irrefl _ (habove.lt_of_mem_names _ hmem)

theorem Distinct.nodup_names (h : f.Distinct) : f.names.Nodup := by
  induction f with
  | empty => exact List.nodup_nil
  | node name path ids below beside _ ih => exact List.nodup_cons.mpr ⟨h.1, ih h.2.2⟩

theorem Rearranged.names_perm (h : f.Rearranged g) : f.names.Perm g.names := by
  induction h with
  | empty => exact .nil
  | node _ _ _ ihbeside => exact ihbeside.cons _
  | swap => exact .swap _ _ _
  | trans _ _ ih ih' => exact ih.trans ih'

theorem Rearranged.distinct (h : f.Rearranged g) (hf : f.Distinct) : g.Distinct := by
  induction h with
  | empty => exact trivial
  | node _ hbeside ihbelow ihbeside =>
    obtain ⟨hname, hbelow, hrest⟩ := hf
    exact ⟨mt hbeside.names_perm.mem_iff.mpr hname, ihbelow hbelow, ihbeside hrest⟩
  | swap =>
    obtain ⟨hname, hbelow, hname', hbelow', hbeside⟩ := hf
    rw [names, List.mem_cons, not_or] at hname
    refine ⟨?_, hbelow', hname.2, hbelow, hbeside⟩
    rw [names, List.mem_cons, not_or]
    exact ⟨Ne.symm hname.1, hname'⟩
  | trans _ _ ih ih' => exact ih' (ih hf)

end Forest

/-- Sorting gives one result for all orders if no two entries are equal to the sorting alone. -/
theorem mergeSort_congr {α : Type} {le : α → α → Bool} {xs ys : List α}
    (htrans : ∀ a b c, le a b = true → le b c = true → le a c = true)
    (htotal : ∀ a b, (le a b || le b a) = true)
    (hanti : ∀ a ∈ xs, ∀ b ∈ xs, le a b = true → le b a = true → a = b) (h : xs.Perm ys) :
    xs.mergeSort le = ys.mergeSort le := by
  have hxs := List.pairwise_mergeSort htrans htotal xs
  have hys := List.pairwise_mergeSort htrans htotal ys
  have hperm : (xs.mergeSort le).Perm (ys.mergeSort le) :=
    (List.mergeSort_perm xs le).trans (h.trans (List.mergeSort_perm ys le).symm)
  refine List.Perm.eq_of_pairwise (fun a b ha hb => ?_) hxs hys hperm
  have hmem : b ∈ xs := h.mem_iff.mpr ((List.mergeSort_perm ys le).mem_iff.mp hb)
  exact hanti a ((List.mergeSort_perm xs le).mem_iff.mp ha) b hmem

namespace TagTree

section Lines

variable {a b c : Line} {xs ys : List (Line × List Line)}

theorem Line.precedes_iff :
    a.precedes b = true ↔ b.count < a.count ∨ b.count = a.count ∧ a.name ≤ b.name := by
  simp [precedes]

theorem Line.precedes_trans (hab : a.precedes b = true) (hbc : b.precedes c = true) :
    a.precedes c = true := by
  rw [precedes_iff] at hab hbc ⊢
  rcases hab with hab | ⟨hab, hle⟩
  · rcases hbc with hbc | ⟨hbc, -⟩ <;> left <;> omega
  · rcases hbc with hbc | ⟨hbc, hle'⟩
    · left
      omega
    · exact Or.inr ⟨hbc.trans hab, hle.trans hle'⟩

theorem Line.precedes_total (a b : Line) : (a.precedes b || b.precedes a) = true := by
  rw [Bool.or_eq_true, precedes_iff, precedes_iff]
  rcases lt_trichotomy a.count b.count with hlt | heq | hlt
  · exact Or.inr (Or.inl hlt)
  · rcases le_total a.name b.name with hle | hle
    · exact Or.inl (Or.inr ⟨heq.symm, hle⟩)
    · exact Or.inr (Or.inr ⟨heq, hle⟩)
  · exact Or.inl (Or.inl hlt)

theorem Line.name_eq_of_precedes (hab : a.precedes b = true) (hba : b.precedes a = true) :
    a.name = b.name := by
  rw [precedes_iff] at hab hba
  rcases hab with hab | ⟨hab, hle⟩
  · rcases hba with hba | ⟨hba, -⟩ <;> omega
  · rcases hba with hba | ⟨-, hle'⟩
    · omega
    · exact le_antisymm hle hle'

/-- Blocks under different names are stacked in one way. -/
theorem stack_congr (h : xs.Perm ys) (hnames : (xs.map (·.1.name)).Nodup) :
    stack xs = stack ys := by
  rw [stack, stack]
  congr 1
  apply mergeSort_congr _ _ _ h
  · intro x y z hxy hyz
    exact Line.precedes_trans hxy hyz
  · intro x y
    exact Line.precedes_total x.1 y.1
  · intro x hx y hy hxy hyx
    exact List.inj_on_of_nodup_map hnames hx hy (Line.name_eq_of_precedes hxy hyx)

theorem map_name_blocks (depth : Nat) (f : Forest) :
    (blocks depth f).map (·.1.name) = f.names := by
  induction f with
  | empty => rfl
  | node name path ids below beside _ ih =>
    rw [blocks, List.map_cons, ih]
    rfl

theorem blocks_perm (h : f.Rearranged g) (hf : f.Distinct) (depth : Nat) :
    (blocks depth f).Perm (blocks depth g) := by
  induction h generalizing depth with
  | empty => exact .nil
  | node _ _ ihbelow ihbeside =>
    obtain ⟨-, hbelow, hbeside⟩ := hf
    have hnames := hbelow.nodup_names
    rw [← map_name_blocks (depth + 1)] at hnames
    rw [blocks, blocks, stack_congr (ihbelow hbelow _) hnames]
    exact (ihbeside hbeside depth).cons _
  | swap => exact .swap _ _ _
  | trans h _ ih ih' => exact (ih hf depth).trans (ih' (h.distinct hf) depth)

end Lines

end TagTree

section View

variable {xs ys : List (String × Json)}

/-- Members by ascending names. -/
def byName (members : List (String × Json)) : List (String × Json) :=
  members.mergeSort fun a b => a.1 ≤ b.1

theorem byName_congr (h : xs.Perm ys) (hnames : (xs.map (·.1)).Nodup) : byName xs = byName ys := by
  apply mergeSort_congr _ _ _ h
  · intro a b c hab hbc
    simp only [decide_eq_true_eq] at hab hbc ⊢
    exact hab.trans hbc
  · intro a b
    simpa using le_total a.1 b.1
  · intro a ha b hb hab hba
    simp only [decide_eq_true_eq] at hab hba
    exact List.inj_on_of_nodup_map hnames ha hb (le_antisymm hab hba)

namespace Forest

/-- The members of a view in the order of the forest, each with the members below it sorted. -/
def entries : Forest → List (String × Json)
  | empty => []
  | node name path ids below beside =>
    (name, .object [("name", .string name), ("path", .string path),
      ("count", .natural ids.length), ("children", .object (byName (entries below)))]) ::
      entries beside

theorem map_fst_entries (f : Forest) : f.entries.map (·.1) = f.names := by
  induction f with
  | empty => rfl
  | node name path ids below beside _ ih => rw [entries, List.map_cons, ih, names]

theorem Rearranged.entries_perm (h : f.Rearranged g) (hf : f.Distinct) :
    f.entries.Perm g.entries := by
  induction h with
  | empty => exact .nil
  | node _ _ ihbelow ihbeside =>
    obtain ⟨-, hbelow, hbeside⟩ := hf
    have hnames := hbelow.nodup_names
    rw [← map_fst_entries] at hnames
    rw [entries, entries, byName_congr (ihbelow hbelow) hnames]
    exact (ihbeside hbeside).cons _
  | swap => exact .swap _ _ _
  | trans h _ ih ih' => exact (ih hf).trans (ih' (h.distinct hf))

theorem map_fst_members (f : Forest) : f.members.map (·.1) = f.names := by
  induction f with
  | empty => rfl
  | node name path ids below beside _ ih => rw [members, List.map_cons, ih, names]

theorem WellFormed.byName_members (h : f.WellFormed parent) : byName f.members = f.members := by
  apply List.mergeSort_of_pairwise
  have hnames := h.ascending_names
  rw [← map_fst_members, List.pairwise_map] at hnames
  exact hnames.imp fun hlt => by simpa using hlt.le

/-- A forest that is sorted has its members sorted as they are. -/
theorem WellFormed.entries_eq (h : f.WellFormed parent) : f.entries = f.members := by
  induction h with
  | empty => rfl
  | node _ hbelow _ _ ihbelow ihbeside =>
    rw [entries, members, ihbelow, ihbeside, hbelow.byName_members]

end Forest
end View

namespace TagTree

/-- The same tree, with siblings in another order on any level. Ids are only counted when the tree is
shown. -/
structure Rearranged (t other : TagTree) : Prop where
  name : other.name = t.name
  path : other.path = t.path
  ids : other.ids = t.ids
  children : t.children.Rearranged other.children

/-- The view of a tree that has its siblings in any order. -/
def sortedView (t : TagTree) : Json :=
  .object [("name", .string t.name), ("path", .string t.path), ("count", .natural t.count),
    ("children", .object (byName t.children.entries))]

namespace Rearranged

theorem lines_eq (h : t.Rearranged other) (ht : t.WellFormed) : other.lines = t.lines := by
  have hdistinct := ht.children.distinct
  have hnames := hdistinct.nodup_names
  rw [← map_name_blocks 1] at hnames
  rw [lines, lines, h.name, h.path, h.ids, stack_congr (blocks_perm h.children hdistinct 1) hnames]

theorem sortedView_eq (h : t.Rearranged other) (ht : t.WellFormed) : other.sortedView = t.view := by
  have hdistinct := ht.children.distinct
  have hnames := hdistinct.nodup_names
  rw [← Forest.map_fst_entries] at hnames
  rw [sortedView, view, count, count, h.name, h.path, h.ids,
    ← byName_congr (h.children.entries_perm hdistinct) hnames, ht.children.entries_eq,
    ht.children.byName_members]

end Rearranged

/-- Bookmarks in any order and number, each with its tags in any order and number, make one tree. In
whatever order siblings come, it is rendered and viewed in one way. -/
theorem build_sameContent (h : SameContent bs cs) :
    build bs = build cs ∧
    ∀ t, (build bs).Rearranged t →
      t.render = (build cs).render ∧ t.sortedView = (build cs).view := by
  have hsame := build_congr h
  refine ⟨hsame, fun t ht => ⟨?_, ?_⟩⟩
  · rw [render, render, ht.lines_eq (wellFormed_build bs), hsame]
  · rw [ht.sortedView_eq (wellFormed_build bs), hsame]

/-- Two bookmarks change places, one of them is there twice, and tags change places or are repeated.
Two siblings with one count come in the order of their names. -/
theorem build_sameContent_twice :
    ∃ (bs cs : List Bookmark) (t : TagTree), SameContent bs cs ∧ bs.length ≠ cs.length ∧
      build bs = build cs ∧ (build bs).Rearranged t ∧ t ≠ build bs ∧
      t.render = "All (3)\n  x (2)\n    y (1)\n  z (2)\n  Untagged (1)\n" ∧
      t.sortedView = (build cs).view := by
  let bs : List Bookmark := [{ id := "a", tags := ["x/y", "z"] }, { id := "b", tags := ["z", "x"] },
    { id := "c" }]
  let cs : List Bookmark := [{ id := "c" }, { id := "b", tags := ["x", "z", "x"] },
    { id := "a", tags := ["z", "x/y"] }, { id := "b", tags := ["z", "x"] }]
  let y : Forest := .node "y" "x/y" ["a"] .empty .empty
  let t : TagTree := ⟨"All", "__ALL__", ["a", "b", "c"], .node "Untagged" "Untagged" ["c"] .empty
    (.node "z" "z" ["a", "b"] .empty (.node "x" "x" ["a", "b"] y .empty))⟩
  have hcontent : SameContent bs cs := by
    constructor
    · decide +kernel
    · decide +kernel
  have hbuild : build bs = ⟨"All", "__ALL__", ["a", "b", "c"], .node "Untagged" "Untagged" ["c"]
      .empty (.node "x" "x" ["a", "b"] y (.node "z" "z" ["a", "b"] .empty .empty))⟩ := by
    decide +kernel
  have harranged : (build bs).Rearranged t := by
    rw [hbuild]
    exact ⟨rfl, rfl, rfl, .node .empty .swap⟩
  obtain ⟨hsame, hshown⟩ := build_sameContent hcontent
  have hlines : (build cs).lines = [⟨0, "All", "__ALL__", ["a", "b", "c"]⟩,
      ⟨1, "x", "x", ["a", "b"]⟩, ⟨2, "y", "x/y", ["a"]⟩, ⟨1, "z", "z", ["a", "b"]⟩,
      ⟨1, "Untagged", "Untagged", ["c"]⟩] := by
    rw [← hsame, hbuild]
    simp [lines, blocks, y, stack, List.mergeSort, List.MergeSort.Internal.splitInTwo,
      Line.precedes, Line.count]
  have hrender : (build cs).render =
      "All (3)\n  x (2)\n    y (1)\n  z (2)\n  Untagged (1)\n" := by
    rw [render, hlines]
    decide +kernel
  obtain ⟨hsorted, hview⟩ := hshown t harranged
  refine ⟨bs, cs, t, hcontent, by decide, hsame, harranged, ?_, hsorted.trans hrender, hview⟩
  rw [hbuild]
  decide +kernel

end TagTree
end Linkshelf
