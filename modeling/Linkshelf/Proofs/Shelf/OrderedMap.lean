import Mathlib.Logic.Function.Basic
import Linkshelf.Proofs.Shelf.Distinct

/-! Over storage that works, a shelf with distinct ids answers and holds what an ordered map of
bookmarks does. -/
namespace Linkshelf

/-- Bookmarks under their ids, and the order of the ids. -/
structure OrderedMap where
  ids : List String
  entry : String → Option Bookmark

namespace OrderedMap

variable {bs : List Bookmark} {b : Bookmark} {id : String}

def ofList (bs : List Bookmark) : OrderedMap := ⟨bs.map (·.id), fun id => bs.find? (·.id == id)⟩

def toList (m : OrderedMap) : List Bookmark := m.ids.filterMap m.entry

/-- In front of all others. -/
def putFirst (m : OrderedMap) (b : Bookmark) : OrderedMap :=
  ⟨b.id :: m.ids, Function.update m.entry b.id (some b)⟩

/-- Where the bookmark with its id was. -/
def put (m : OrderedMap) (b : Bookmark) : OrderedMap :=
  ⟨m.ids, Function.update m.entry b.id (some b)⟩

def drop (m : OrderedMap) (id : String) : OrderedMap :=
  ⟨m.ids.filter (· != id), Function.update m.entry id none⟩

/-- What a map answers to a change, and the map after it. An import puts its bookmarks in place of
all others. -/
def perform (u : Supply) (m : OrderedMap) : Change → Except ShelfError Reply × OrderedMap
  | .create draft =>
    match draft.check true with
    | .error e => (.error (.invalid e), m)
    | .ok fields =>
      let b := fields.toBookmark (draft.cleanId.getD (u.newId 0)) u.now u.now
      match m.entry b.id with
      | some _ => (.error (.alreadyExists b.id), m)
      | none => (.ok (.bookmark b), m.putFirst b)
  | .update id draft =>
    match m.entry id with
    | none => (.error .notFound, m)
    | some old =>
      match (draft.onto old).check true with
      | .error e => (.error (.invalid e), m)
      | .ok fields =>
        let b := fields.toBookmark id old.createdAt u.now
        (.ok (.bookmark b), m.put b)
  | .delete id =>
    match m.entry id with
    | none => (.error .notFound, m)
    | some old => (.ok (.bookmark old), m.drop id)
  | .replaceAll items =>
    (.ok (.count (Shelf.importedFrom u 0 items).length), ofList (Shelf.importedFrom u 0 items))

/-- The map after a run. -/
def after (m : OrderedMap) (run : List Step) : OrderedMap :=
  run.foldl (fun m x => (m.perform x.supply x.change).2) m

theorem after_concat (m : OrderedMap) (run : List Step) (x : Step) :
    m.after (run ++ [x]) = ((m.after run).perform x.supply x.change).2 := by
  simp [after]

theorem entry_ofList (bs : List Bookmark) (id : String) :
    (ofList bs).entry id = bs.find? (·.id == id) := rfl

theorem entry_eq_some (h : (ofList bs).entry id = some b) : b ∈ bs ∧ b.id = id :=
  ⟨List.mem_of_find?_eq_some h, by simpa using List.find?_some h⟩

theorem toList_ofList (h : (bs.map (·.id)).Nodup) : (ofList bs).toList = bs := by
  have hfound : ∀ b ∈ bs, (ofList bs).entry b.id = some b := fun b hb => find?_id_of_mem h hb
  change (bs.map (·.id)).filterMap (ofList bs).entry = bs
  rw [List.filterMap_map]
  conv_rhs => rw [← List.filterMap_some (l := bs)]
  exact List.filterMap_congr hfound

theorem ofList_cons (b : Bookmark) (bs : List Bookmark) :
    ofList (b :: bs) = (ofList bs).putFirst b := by
  have hentry : (ofList (b :: bs)).entry = Function.update (ofList bs).entry b.id (some b) := by
    funext id
    by_cases hid : id = b.id
    · subst hid
      simp [entry_ofList]
    · have hne : b.id ≠ id := Ne.symm hid
      simp [entry_ofList, hid, hne]
  exact congrArg (OrderedMap.mk (b.id :: bs.map (·.id))) hentry

theorem ofList_map (hb : b.id = id) (hold : ∃ old ∈ bs, old.id = id) :
    ofList (bs.map fun x => if x.id = id then b else x) = (ofList bs).put b := by
  have hids : (bs.map fun x => if x.id = id then b else x).map (·.id) = bs.map (·.id) := by
    rw [List.map_map]
    refine List.map_congr_left fun x _ => ?_
    by_cases hx : x.id = id <;> simp [hx, hb]
  have hentry : (ofList (bs.map fun x => if x.id = id then b else x)).entry =
      Function.update (ofList bs).entry b.id (some b) := by
    funext other
    -- The new bookmark has the id of the one it stands for, so every search stops where it did.
    have hsame : (fun x : Bookmark => x.id == other) ∘ (fun x => if x.id = id then b else x) =
        fun x => x.id == other := by
      funext x
      by_cases hx : x.id = id <;> simp [hx, hb]
    rw [entry_ofList, List.find?_map, hsame, hb]
    by_cases ho : other = id
    · subst ho
      rw [Function.update_self]
      cases hf : bs.find? (·.id == other) with
      | none =>
        obtain ⟨old, hmem, hid⟩ := hold
        simpa [hid] using List.find?_eq_none.mp hf old hmem
      | some x =>
        have hx : x.id = other := by simpa using List.find?_some hf
        simp [hx]
    · rw [Function.update_of_ne ho, entry_ofList]
      cases hf : bs.find? (·.id == other) with
      | none => rfl
      | some x =>
        have hx : x.id = other := by simpa using List.find?_some hf
        simp [hx, ho]
  rw [put, ← hentry]
  exact congrArg (OrderedMap.mk · _) hids

theorem ofList_filter (bs : List Bookmark) (id : String) :
    ofList (bs.filter (·.id != id)) = (ofList bs).drop id := by
  have hids : (bs.filter (·.id != id)).map (·.id) = (bs.map (·.id)).filter (· != id) := by
    rw [List.filter_map]
    rfl
  have hentry : (ofList (bs.filter (·.id != id))).entry =
      Function.update (ofList bs).entry id none := by
    funext other
    rw [entry_ofList, List.find?_filter]
    by_cases ho : other = id
    · subst ho
      rw [Function.update_self, List.find?_eq_none]
      intro x _
      simp
    · rw [Function.update_of_ne ho, entry_ofList]
      congr 1
      funext x
      by_cases hx : x.id = other <;> simp [hx, ho]
  rw [drop, ← hentry]
  exact congrArg (OrderedMap.mk · _) hids

end OrderedMap

/-- The storage works when the step writes. -/
def Step.Works (x : Step) (s : Shelf) : Prop := x.disk.Works x.supply.mark s.place s.ident

namespace Shelf

open OrderedMap

variable {u : Supply} {s : Shelf} {d : Disk} {id : String} {draft : Draft} {b : Bookmark}
  {x : Step} {run : List Step}

/-- Answers and bookmarks after a change, as a map gives them. -/
def Follows (o : Outcome Reply) (r : Except ShelfError Reply × OrderedMap) : Prop :=
  o.result = r.1 ∧ ofList o.shelf.list = r.2

theorem follows_fail (s : Shelf) (d : Disk) (e : ShelfError) :
    Follows (s.fail d e) (.error e, ofList s.list) := ⟨rfl, rfl⟩

theorem follows_commit (h : d.Works u.mark s.place s.ident) {next : Collection}
    {m : OrderedMap} (hm : ofList next.bookmarks = m) (a : Reply) :
    Follows (s.commit u d next a) (.ok a, m) := by
  obtain ⟨hok, hlist⟩ := commit_of_works h next a
  exact ⟨hok, by rw [hlist, hm]⟩

theorem create_follows (h : d.Works u.mark s.place s.ident) (draft : Draft) :
    Follows (Change.perform u s d (.create draft))
      ((ofList s.list).perform u (.create draft)) := by
  rw [Change.perform]
  rcases create_cases u s d draft with
    ⟨e, hc, hs⟩ | ⟨f, id, b, hc, hid, hb, ⟨htaken, hs⟩ | ⟨hfree, hs⟩⟩
  · rw [hs, map_fail]
    simp only [perform, hc]
    exact follows_fail s d _
  · have hentry : ∃ old, (ofList s.list).entry id = some old := by
      rw [entry_ofList, ← Option.isSome_iff_exists, List.find?_isSome]
      simpa using htaken
    obtain ⟨old, hold⟩ := hentry
    rw [hs, map_fail]
    simp only [perform, hc, id_toBookmark, ← hid, hold]
    exact follows_fail s d _
  · have hentry : (ofList s.list).entry id = none := by
      rw [entry_ofList, List.find?_eq_none]
      simpa using hfree
    have hbid : b.id = id := by rw [hb, id_toBookmark]
    rw [hs, map_commit]
    simp only [perform, hc, ← hid, ← hb, hbid, hentry]
    refine follows_commit h ?_ _
    rw [keeping, ofList_cons]

theorem update_follows (hs : s.Distinct) (h : d.Works u.mark s.place s.ident) (id : String)
    (draft : Draft) :
    Follows (Change.perform u s d (.update id draft))
      ((ofList s.list).perform u (.update id draft)) := by
  rw [Change.perform]
  rcases update_cases u s d id draft with
    ⟨hnone, hs⟩ | ⟨i, old, hi, hold, ⟨e, hc, hs⟩ | ⟨f, b, hc, hb, hcommit⟩⟩
  · rw [hs, map_fail]
    simp only [perform, entry_ofList, hnone]
    exact follows_fail s d _
  · rw [hs, map_fail]
    simp only [perform, entry_ofList, hold, hc]
    exact follows_fail s d _
  · obtain ⟨hmem, hid⟩ := entry_eq_some hold
    rw [hid] at hb
    rw [hcommit, map_commit]
    simp only [perform, entry_ofList, hold, hc, ← hb]
    refine follows_commit h ?_ _
    rw [keeping, set_findIdx?_eq_map hs hi]
    exact ofList_map (by rw [hb, id_toBookmark]) ⟨old, hmem, hid⟩

theorem delete_follows (hs : s.Distinct) (h : d.Works u.mark s.place s.ident) (id : String) :
    Follows (Change.perform u s d (.delete id)) ((ofList s.list).perform u (.delete id)) := by
  rw [Change.perform]
  rcases delete_cases u s d id with ⟨hnone, hs⟩ | ⟨old, hold, hcommit⟩
  · rw [hs, map_fail]
    simp only [perform, entry_ofList, hnone]
    exact follows_fail s d _
  · rw [hcommit, map_commit]
    simp only [perform, entry_ofList, hold]
    refine follows_commit h ?_ _
    rw [keeping, eraseP_id_eq_filter hs]
    exact ofList_filter s.list id

theorem replaceAll_follows (h : d.Works u.mark s.place s.ident) (items : List Json) :
    Follows (Change.perform u s d (.replaceAll items))
      ((ofList s.list).perform u (.replaceAll items)) := by
  rw [Change.perform, replaceAll_eq, map_commit]
  simp only [perform]
  exact follows_commit h rfl _

/-- One step of a shelf is one step of the map that its list makes. -/
theorem outcome_follows (hs : s.Distinct) (h : x.Works s) :
    Follows (x.outcome s) ((ofList s.list).perform x.supply x.change) := by
  rw [Step.outcome]
  cases x.change with
  | create draft => exact create_follows h draft
  | update id draft => exact update_follows hs h id draft
  | delete id => exact delete_follows hs h id
  | replaceAll items => exact replaceAll_follows h items

theorem get_eq_ok (hs : s.Distinct) : s.get id = .ok b ↔ b ∈ s.list ∧ b.id = id := by
  constructor
  · intro h
    rw [get] at h
    split at h
    · next hfound =>
      obtain rfl := Except.ok.inj h
      exact entry_eq_some hfound
    · cases h
  · rintro ⟨hb, rfl⟩
    exact get_of_mem hs hb

theorem find?_id_eq_none : s.list.find? (·.id == id) = none ↔ ∀ b ∈ s.list, b.id ≠ id := by
  simp [List.find?_eq_none]

theorem get_missing : s.get id = .error .notFound ↔ ∀ b ∈ s.list, b.id ≠ id := by
  constructor
  · intro h
    rw [get] at h
    split at h
    · cases h
    · next hnone => exact find?_id_eq_none.mp hnone
  · exact get_of_forall_ne

/-- A commit fails for no other reason than the disk. -/
theorem commit_ne {next : Collection} {α : Type} {a : α} {e : ShelfError}
    (he : ∀ cause, e ≠ .disk cause) : (s.commit u d next a).result ≠ .error e := by
  intro h
  rcases commit_cases u s d next a with ⟨cause, after, -, hfail⟩ | ⟨after, -, hok⟩
  · rw [hfail] at h
    exact he cause (Except.error.inj h).symm
  · rw [hok] at h
    cases h

theorem create_taken (hnew : ∀ b ∈ s.list, b.id ≠ u.newId 0) :
    (s.create u d draft).result = .error (.alreadyExists id) ↔
      (∃ fields, draft.check true = .ok fields) ∧ draft.cleanId = some id ∧
        ∃ b ∈ s.list, b.id = id := by
  rcases create_cases u s d draft with
    ⟨e, hcheck, hfail⟩ | ⟨fields, used, b', hcheck, hused, -, ⟨htaken, hfail⟩ | ⟨hfree, hcommit⟩⟩
  · rw [hfail, hcheck]
    simp [fail]
  · -- The id in use is one that was asked for, as the new one is not in use.
    obtain ⟨old, hold, hid⟩ : ∃ b ∈ s.list, b.id = used := by simpa using htaken
    have hclean : draft.cleanId = some used := by
      cases hclean : draft.cleanId with
      | none =>
        rw [hclean] at hused
        exact (hnew old hold (hid.trans hused)).elim
      | some asked =>
        rw [hclean] at hused
        rw [hused, Option.getD_some]
    rw [hfail, hclean, hcheck]
    constructor
    · intro h
      obtain rfl : used = id := by simpa [fail] using h
      exact ⟨⟨fields, rfl⟩, rfl, old, hold, hid⟩
    · rintro ⟨-, hasked, -⟩
      obtain rfl := Option.some.inj hasked
      rfl
  · rw [hcommit]
    refine iff_of_false (commit_ne (by simp)) ?_
    rintro ⟨-, hasked, old, hold, hid⟩
    rw [hasked, Option.getD_some] at hused
    have hne := List.any_eq_false.mp hfree old hold
    simp [hid, hused] at hne

theorem update_missing :
    (s.update u d id draft).result = .error .notFound ↔ ∀ b ∈ s.list, b.id ≠ id := by
  rw [← find?_id_eq_none]
  rcases update_cases u s d id draft with
    ⟨hnone, hfail⟩ | ⟨i, old, -, hold, ⟨e, -, hfail⟩ | ⟨fields, b, -, -, hcommit⟩⟩
  · simp [hfail, hnone, fail]
  · simp [hfail, hold, fail]
  · rw [hcommit, hold]
    exact iff_of_false (commit_ne (by simp)) (by simp)

theorem delete_missing :
    (s.delete u d id).result = .error .notFound ↔ ∀ b ∈ s.list, b.id ≠ id := by
  rw [← find?_id_eq_none]
  rcases delete_cases u s d id with ⟨hnone, hfail⟩ | ⟨old, hold, hcommit⟩
  · simp [hfail, hnone, fail]
  · rw [hcommit, hold]
    exact iff_of_false (commit_ne (by simp)) (by simp)

/-- In which order the bookmarks stand, and when an id is taken or missing. -/
structure IsOrdered (s : Shelf) : Prop where
  get_ok : ∀ id b, s.get id = .ok b ↔ b ∈ s.list ∧ b.id = id
  get_missing : ∀ id, s.get id = .error .notFound ↔ ∀ b ∈ s.list, b.id ≠ id
  create_ok : ∀ u d draft b, (s.create u d draft).result = .ok b →
    (s.create u d draft).shelf.list = b :: s.list
  create_taken : ∀ u d draft id, (∀ b ∈ s.list, b.id ≠ u.newId 0) →
    ((s.create u d draft).result = .error (.alreadyExists id) ↔
      (∃ fields, draft.check true = .ok fields) ∧ draft.cleanId = some id ∧
        ∃ b ∈ s.list, b.id = id)
  update_ok : ∀ u d id draft b, (s.update u d id draft).result = .ok b →
    ∃ old ∈ s.list, old.id = id ∧ b.id = id ∧ b.createdAt = old.createdAt ∧
      (s.update u d id draft).shelf.list = s.list.map fun x => if x.id = id then b else x
  update_missing : ∀ u d id draft,
    (s.update u d id draft).result = .error .notFound ↔ ∀ b ∈ s.list, b.id ≠ id
  delete_ok : ∀ u d id b, (s.delete u d id).result = .ok b →
    b ∈ s.list ∧ b.id = id ∧ (s.delete u d id).shelf.list = s.list.filter (·.id != id)
  delete_missing : ∀ u d id,
    (s.delete u d id).result = .error .notFound ↔ ∀ b ∈ s.list, b.id ≠ id

theorem Distinct.isOrdered (hs : s.Distinct) : s.IsOrdered where
  get_ok _ _ := get_eq_ok hs
  get_missing _ := get_missing
  create_ok _ _ _ _ := create_made
  create_taken _ _ _ _ := create_taken
  update_ok u d id draft b h := by
    obtain ⟨old, fields, hold, hid, -, hb, hlist⟩ := update_ok hs h
    refine ⟨old, hold, hid, ?_, ?_, hlist⟩
    · rw [hb, id_toBookmark, hid]
    · rw [hb, CheckedFields.toBookmark]
  update_missing _ _ _ _ := update_missing
  delete_ok _ _ _ _ := delete_ok hs
  delete_missing _ _ _ := delete_missing

/-- Over storage that works, each part of a run leaves the bookmarks that the ordered map holds
then, and the next step answers what the map answers. Creating, updating and deleting need no more
than ids that are distinct at the beginning; an import has to bring distinct ones. -/
theorem after_orderedMap (hs : s.Distinct) (hworks : ∀ x ∈ run, x.Works s)
    (himports : ∀ x ∈ run, ∀ items, x.change = .replaceAll items →
      ((importedFrom x.supply 0 items).map (·.id)).Nodup) :
    ∀ past, past <+: run →
      (s.after past).Distinct ∧ (s.after past).IsOrdered ∧
      (s.after past).list = ((ofList s.list).after past).toList ∧
      ∀ x, past ++ [x] <+: run →
        (x.outcome (s.after past)).result =
          (((ofList s.list).after past).perform x.supply x.change).1 := by
  have hmem {past : List Step} {x : Step} (h : past ++ [x] <+: run) : x ∈ run :=
    h.subset (by simp)
  have hfollows {past : List Step} {x : Step} (h : past ++ [x] <+: run)
      (hdistinct : (s.after past).Distinct) :
      Follows (x.outcome (s.after past))
        ((ofList (s.after past).list).perform x.supply x.change) := by
    refine outcome_follows hdistinct ?_
    obtain ⟨hplace, hident⟩ := after_home s past
    rw [Step.Works, hplace, hident]
    exact hworks x (hmem h)
  have hsame : ∀ past, past <+: run →
      (s.after past).Distinct ∧ ofList (s.after past).list = (ofList s.list).after past := by
    refine after_keeps (P := fun past t => t.Distinct ∧ ofList t.list = (ofList s.list).after past)
      ⟨hs, rfl⟩ ?_
    rintro past x hpast ⟨hdistinct, hmap⟩
    refine ⟨hdistinct.next fun items hitems _ => himports x (hmem hpast) items hitems, ?_⟩
    rw [OrderedMap.after_concat, ← hmap]
    exact (hfollows hpast hdistinct).2
  intro past hpast
  obtain ⟨hdistinct, hmap⟩ := hsame past hpast
  refine ⟨hdistinct, hdistinct.isOrdered, ?_, ?_⟩
  · rw [← hmap, toList_ofList hdistinct]
  · intro x hx
    rw [← hmap]
    exact (hfollows hx hdistinct).1

/-- A bookmark is updated, a new one is put in front of all others and an old one is removed. -/
theorem after_orderedMap_edits :
    ∃ (s : Shelf) (run : List Step), s.Distinct ∧ (∀ x ∈ run, x.Works s) ∧
      (s.after run).list.map (·.title) = ["third", "second"] ∧
      (s.after run).list = ((ofList s.list).after run).toList := by
  let s : Shelf := ⟨[], "data.json", ⟨Collection.currentVersion, "dawn",
    [{ id := "a", url := "https://a", title := "first" },
      { id := "b", url := "https://b", title := "other" }]⟩⟩
  let run : List Step := [
    ⟨growing, .empty, .update "b" { title := some "second" }⟩,
    ⟨growing, .empty, .create { url := some "https://c", title := some "third" }⟩,
    ⟨growing, .empty, .delete "a"⟩]
  have hdistinct : s.Distinct := by
    rw [Distinct]
    decide
  have hworks : ∀ x ∈ run, x.Works s := by
    intro x hx
    simp only [run, List.mem_cons, List.not_mem_nil, or_false] at hx
    rcases hx with rfl | rfl | rfl <;> exact works_empty
  have himports : ∀ x ∈ run, ∀ items, x.change = .replaceAll items →
      ((importedFrom x.supply 0 items).map (·.id)).Nodup := by
    intro x hx items hitems
    simp only [run, List.mem_cons, List.not_mem_nil, or_false] at hx
    rcases hx with rfl | rfl | rfl <;> cases hitems
  have htitles : (s.after run).list.map (·.title) = ["third", "second"] := by decide +kernel
  exact ⟨s, run, hdistinct, hworks, htitles,
    (after_orderedMap hdistinct hworks himports run List.prefix_rfl).2.2.1⟩

end Shelf
end Linkshelf
