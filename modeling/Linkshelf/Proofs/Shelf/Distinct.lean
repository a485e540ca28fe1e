import Linkshelf.Proofs.Shelf.Import
import Linkshelf.Proofs.Shelf.Run

/-! Ids on a shelf: none is empty, and they stay distinct as long as no import asks for one of them
twice. Where they are distinct, an id addresses one bookmark. -/
namespace Linkshelf

namespace Shelf

/-- No id stands twice. -/
def Distinct (s : Shelf) : Prop := (s.list.map (·.id)).Nodup

end Shelf

/-- The new ids are new: no two are the same, and an import does not ask for any of them. -/
structure Step.IsFresh (x : Step) : Prop where
  ne_empty : ∀ k, x.supply.newId k ≠ ""
  injective : Function.Injective x.supply.newId
  unasked : ∀ items, x.change = .replaceAll items → ∀ k, x.supply.newId k ∉ Shelf.askedIds items

/-- The step is no import that succeeds though its items ask for one id twice. -/
def Step.IsApart (x : Step) (s : Shelf) : Prop :=
  ∀ items, x.change = .replaceAll items → (∃ a, (x.outcome s).result = .ok a) →
    (Shelf.askedIds items).Nodup

namespace Shelf

variable {place : Place} {ident now id : String} {u : Supply} {s start : Shelf} {d : Disk}
  {b : Bookmark} {bs : List Bookmark} {c : Change} {x : Step} {run : List Step} {draft : Draft}

theorem ids_ne_empty_next (hs : ∀ b ∈ s.list, b.id ≠ "") (hx : x.IsFresh) :
    ∀ b ∈ (x.next s).list, b.id ≠ "" := by
  intro b hb
  rcases mem_next hb with hmem | hmade
  · exact hs b hmem
  · cases hmade with
    | created _ =>
      rw [id_toBookmark]
      exact getD_cleanId_ne_empty hx.ne_empty _ 0
    | updated hold _ =>
      rw [id_toBookmark]
      exact hs _ hold
    | imported k _ =>
      rw [id_imported]
      exact getD_cleanId_ne_empty hx.ne_empty _ k

theorem Writes.eq_importedFrom {items : List Json} (h : Writes u s (.replaceAll items) bs) :
    bs = importedFrom u 0 items := by
  cases h
  rfl

/-- Of all that a change can write, only an import can hold an id twice. -/
theorem Writes.distinct (hs : s.Distinct) (h : Writes u s c bs)
    (hc : ∀ items, c ≠ .replaceAll items) : (bs.map (·.id)).Nodup := by
  cases h with
  | create hf hfree =>
    rw [List.map_cons, List.nodup_cons]
    refine ⟨fun hmem => ?_, hs⟩
    obtain ⟨b, hb, hid⟩ := List.mem_map.mp hmem
    rw [id_toBookmark] at hid
    simpa [hid] using List.any_eq_false.mp hfree b hb
  | @update id draft fields i old hi hold hf =>
    have hid : old.id = id := by simpa using List.find?_some hold
    rw [set_findIdx?_eq_map hs hi, List.map_map]
    have hsame : (·.id) ∘ (fun x : Bookmark =>
        if x.id = id then fields.toBookmark old.id old.createdAt u.now else x) = (·.id) := by
      funext x
      by_cases hx : x.id = id <;> simp [hx, hid]
    rw [hsame]
    exact hs
  | delete hold => exact hs.sublist (List.eraseP_sublist.map _)
  | replaceAll => exact (hc _ rfl).elim

/-- Distinct ids stay distinct unless an import succeeds that brings in one of its ids twice. -/
theorem Distinct.next (hs : s.Distinct)
    (himport : ∀ items, x.change = .replaceAll items → (∃ a, (x.outcome s).result = .ok a) →
      ((importedFrom x.supply 0 items).map (·.id)).Nodup) : (x.next s).Distinct := by
  rcases perform_writes x.supply s x.disk x.change with ⟨-, hsame⟩ | ⟨hok, hwrites⟩
  · rw [Step.next, Step.outcome, hsame]
    exact hs
  · by_cases h : ∃ items, x.change = .replaceAll items
    · obtain ⟨items, hitems⟩ := h
      rw [hitems] at hwrites
      rw [Distinct, Step.next, Step.outcome, hitems, hwrites.eq_importedFrom]
      exact himport items hitems hok
    · exact hwrites.distinct hs fun items hitems => h ⟨items, hitems⟩

theorem distinct_next_iff (hs : s.Distinct) (hx : x.IsFresh) :
    (x.next s).Distinct ↔ x.IsApart s := by
  constructor
  · rintro h items hitems ⟨a, ha⟩
    rcases perform_writes x.supply s x.disk x.change with ⟨⟨e, he⟩, -⟩ | ⟨-, hwrites⟩
    · rw [Step.outcome, he] at ha
      cases ha
    · rw [hitems] at hwrites
      rw [Distinct, Step.next, Step.outcome, hitems, hwrites.eq_importedFrom] at h
      exact (nodup_importedFrom_iff hx.injective (hx.unasked items hitems) 0).mp h
  · intro h
    refine hs.next fun items hitems hok => ?_
    rw [nodup_importedFrom_iff hx.injective (hx.unasked items hitems)]
    exact h items hitems hok

theorem get_of_mem (hs : s.Distinct) (hb : b ∈ s.list) : s.get b.id = .ok b := by
  rw [get, find?_id_of_mem hs hb]

theorem get_of_forall_ne (h : ∀ b ∈ s.list, b.id ≠ id) : s.get id = .error .notFound := by
  have hnone : s.list.find? (·.id == id) = none := by
    rw [List.find?_eq_none]
    simpa using h
  rw [get, hnone]

/-- What a change that succeeds answers and puts on a shelf with distinct ids, one bookmark at a
time. -/
theorem update_ok (hs : s.Distinct) (h : (s.update u d id draft).result = .ok b) :
    ∃ old fields, old ∈ s.list ∧ old.id = id ∧ (draft.onto old).check true = .ok fields ∧
      b = fields.toBookmark old.id old.createdAt u.now ∧
      (s.update u d id draft).shelf.list = s.list.map fun x => if x.id = id then b else x := by
  obtain ⟨i, old, fields, hi, hold, hcheck, hb, hlist⟩ := update_found h
  refine ⟨old, fields, List.mem_of_find?_eq_some hold, by simpa using List.find?_some hold,
    hcheck, hb, ?_⟩
  rw [hlist, set_findIdx?_eq_map hs hi]

theorem delete_ok (hs : s.Distinct) (h : (s.delete u d id).result = .ok b) :
    b ∈ s.list ∧ b.id = id ∧ (s.delete u d id).shelf.list = s.list.filter (·.id != id) := by
  obtain ⟨hold, hlist⟩ := delete_found h
  refine ⟨List.mem_of_find?_eq_some hold, by simpa using List.find?_some hold, ?_⟩
  rw [hlist, eraseP_id_eq_filter hs]

/-- Every id addresses one bookmark: it is the one that is found, changed and removed. -/
structure Addresses (s : Shelf) : Prop where
  get : ∀ b ∈ s.list, s.get b.id = .ok b
  update : ∀ u d id draft b, (s.update u d id draft).result = .ok b →
    b.id = id ∧ (s.update u d id draft).shelf.list = s.list.map fun x => if x.id = id then b else x
  delete : ∀ u d id b, (s.delete u d id).result = .ok b →
    b.id = id ∧ (s.delete u d id).shelf.list = s.list.filter (·.id != id) ∧
      (s.delete u d id).shelf.get id = .error .notFound

theorem Distinct.addresses (hs : s.Distinct) : s.Addresses where
  get _ hb := get_of_mem hs hb
  update u d id draft b h := by
    obtain ⟨old, fields, -, hid, -, rfl, hlist⟩ := update_ok hs h
    exact ⟨hid, hlist⟩
  delete u d id b h := by
    obtain ⟨-, hid, hlist⟩ := delete_ok hs h
    refine ⟨hid, hlist, get_of_forall_ne ?_⟩
    rw [hlist]
    intro x hx
    simpa using (List.mem_filter.mp hx).2

/-- From a place without its file on, no id is ever empty, and ids stay distinct through a run if
and only if no import in it succeeds with items that ask for one id twice. -/
theorem distinct_iff_apart (hmissing : d.has place ident = false)
    (hload : load now place ident d = .ok start) (hfresh : ∀ x ∈ run, x.IsFresh) :
    (∀ past, past <+: run → ∀ b ∈ (start.after past).list, b.id ≠ "") ∧
    ((∀ past, past <+: run → (start.after past).Distinct) ↔
      ∀ past x, past ++ [x] <+: run → x.IsApart (start.after past)) ∧
    ∀ past, past <+: run → (start.after past).Distinct → (start.after past).Addresses := by
  obtain rfl := load_of_missing hmissing hload
  have hmem {past : List Step} {x : Step} (h : past ++ [x] <+: run) : x.IsFresh :=
    hfresh x (h.subset (by simp))
  -- Up to the first import that asks twice, each step decides on the distinctness of the next.
  refine ⟨?_, ⟨?_, ?_⟩, fun _ _ h => h.addresses⟩
  · refine after_keeps (P := fun _ s => ∀ b ∈ s.list, b.id ≠ "") ?_ ?_
    · intro b hb
      simp [list, Collection.empty] at hb
    · intro past x hpast hs
      exact ids_ne_empty_next hs (hmem hpast)
  · intro hdistinct past x hpast
    have hs := hdistinct past ((List.prefix_append past [x]).trans hpast)
    rw [← distinct_next_iff hs (hmem hpast), ← after_concat]
    exact hdistinct _ hpast
  · intro hapart
    refine after_keeps (P := fun _ => Distinct) ?_ ?_
    · exact List.nodup_nil
    · intro past x hpast hs
      exact (distinct_next_iff hs (hmem hpast)).mpr (hapart past x hpast)

theorem isFresh_growing (d : Disk) {c : Change}
    (h : ∀ items, c = .replaceAll items → ∀ id ∈ askedIds items, id.toList.head? ≠ some 'n') :
    Step.IsFresh ⟨growing, d, c⟩ where
  ne_empty k := by simp [growing]
  injective j k h := by
    have hlength := congrArg String.length h
    simpa [growing] using hlength
  unasked items hitems k hmem := by
    apply h items hitems _ hmem
    simp [growing, List.replicate_succ]

/-- An import that asks for two ids, and a bookmark with a new one. -/
theorem distinct_iff_apart_import :
    ∃ (start : Shelf) (run : List Step), load "dawn" [] "data.json" .empty = .ok start ∧
      (∀ x ∈ run, x.IsFresh) ∧ (start.after run).list.map (·.id) = ["n", "a", "b"] ∧
      ((∀ past, past <+: run → (start.after past).Distinct) ↔
        ∀ past x, past ++ [x] <+: run → x.IsApart (start.after past)) := by
  let start : Shelf := ⟨[], "data.json", .empty "dawn"⟩
  let items : List Json := [.object [("id", .string "a"), ("url", .string "https://a")],
    .object [("id", .string " b "), ("url", .string "https://b")]]
  let run : List Step := [⟨growing, .empty, .replaceAll items⟩,
    ⟨growing, .empty, .create { url := some "https://c" }⟩]
  have hmissing : Disk.empty.has [] "data.json" = false := by decide +kernel
  have hload : load "dawn" [] "data.json" .empty = .ok start := by decide +kernel
  have hids : (start.after run).list.map (·.id) = ["n", "a", "b"] := by decide +kernel
  have hasked : askedIds items = ["a", "b"] := by decide +kernel
  have hfresh : ∀ x ∈ run, x.IsFresh := by
    intro x hx
    simp only [run, List.mem_cons, List.not_mem_nil, or_false] at hx
    rcases hx with rfl | rfl
    · refine isFresh_growing .empty fun items' hitems => ?_
      obtain rfl : items = items' := by simpa using hitems
      rw [hasked]
      decide
    · exact isFresh_growing .empty fun items' hitems => nomatch hitems
  exact ⟨start, run, hload, hfresh, hids, (distinct_iff_apart hmissing hload hfresh).2.1⟩

/-- An import takes in two bookmarks with one id. When the first is removed, the second is found. -/
theorem get_removed_asked_twice :
    ∃ (start : Shelf) (x : Step) (first second : Bookmark),
      Disk.empty.has [] "data.json" = false ∧ load "dawn" [] "data.json" .empty = .ok start ∧
      x.IsFresh ∧ ¬ (start.after [x]).Distinct ∧
      ((start.after [x]).delete growing .empty "a").result = .ok first ∧
      ((start.after [x]).delete growing .empty "a").shelf.get "a" = .ok second := by
  let start : Shelf := ⟨[], "data.json", .empty "dawn"⟩
  let items : List Json := [.object [("id", .string "a"), ("url", .string "https://a.com")],
    .object [("id", .string " a "), ("url", .string "https://b.com")]]
  let x : Step := ⟨growing, .empty, .replaceAll items⟩
  let first : Bookmark := ⟨"a", "noon", "noon", "https://a.com", "https://a.com", "", "", []⟩
  let second : Bookmark := ⟨"a", "noon", "noon", "https://b.com", "https://b.com", "", "", []⟩
  have hload : load "dawn" [] "data.json" .empty = .ok start := by decide +kernel
  have hasked : askedIds items = ["a", "a"] := by decide +kernel
  have hfresh : x.IsFresh := by
    refine isFresh_growing .empty fun items' hitems => ?_
    obtain rfl : items = items' := by simpa using hitems
    rw [hasked]
    decide
  have hlist : (start.after [x]).list = [first, second] := by decide +kernel
  have hdelete : ((start.after [x]).delete growing .empty "a").result = .ok first := by
    decide +kernel
  have hget : ((start.after [x]).delete growing .empty "a").shelf.get "a" = .ok second := by
    decide +kernel
  have hmissing : Disk.empty.has [] "data.json" = false := by decide +kernel
  refine ⟨start, x, first, second, hmissing, hload, hfresh, ?_, hdelete, hget⟩
  rw [Distinct, hlist]
  decide

end Shelf
end Linkshelf
