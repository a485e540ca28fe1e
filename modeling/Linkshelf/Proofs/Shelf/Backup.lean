import Linkshelf.Program
import Linkshelf.Proofs.Bookmark.Record
import Linkshelf.Proofs.Shelf.Clean
import Linkshelf.Proofs.Shelf.Durability
import Linkshelf.Web.Router

/-! Backups. The bookmarks of an exported collection, imported on any shelf, stand there as they were
exported, if none of their titles is longer than the title of a draft can be. -/
namespace Linkshelf

open Draft

namespace Bookmark

variable {b : Bookmark}

/-- A bookmark as it is exported is read as the draft that keeps all of it. -/
theorem draft_toJson (b : Bookmark) : Draft.ofJson? b.toJson = some (onto {} b) := by
  have htags : TagList.ofJson? (.array (b.tags.map .string)) = some (.list b.tags) :=
    TagList.ofJson?_toJson (.list b.tags)
  simp [Draft.ofJson?, toJson, Json.record?, Json.get?, keptField, clearedField, Draft.tagsField,
    Json.string?, htags, onto]

/-- The fields of a bookmark that a check gives. -/
def fields (b : Bookmark) : CheckedFields := ⟨b.title, b.url, b.iconUrl, b.description, b.tags⟩

theorem IsClean.check_onto (h : b.IsClean) (htitle : b.title.length ≤ maxTitle) :
    (onto {} b).check false = .ok b.fields := by
  have hkept : tidy maxTitle b.title = b.title := tidy_eq_self htitle h.title_trimmed
  refine Yields.check ⟨(tidy_eq_iff.mpr h.url).symm, h.url_ne, nofun, ?_,
    (tidy_eq_iff.mpr h.iconUrl).symm, (tidy_eq_iff.mpr h.description).symm, h.tags.symm⟩
  have hne : ¬ b.title.isEmpty := by simpa using h.title_ne
  change b.title = if (tidy maxTitle b.title).isEmpty then b.url else tidy maxTitle b.title
  rw [hkept, if_neg hne]

theorem IsClean.cleanId_onto (h : b.IsClean) : (onto {} b).cleanId = some b.id := by
  have hid : tidy maxId b.id = b.id := tidy_eq_iff.mpr h.id
  have hne : ¬ b.id.isEmpty := by simpa using h.id_ne
  rw [cleanId, onto, Option.getD_some, hid, if_neg hne]

theorem IsClean.imported_onto (h : b.IsClean) (u : Supply) (k : Nat) :
    Shelf.imported u k (onto {} b) b.fields = b := by
  have hclip {time : String} (htime : time.length ≤ maxTimestamp) :
      Text.clip maxTimestamp time = time := by
    rw [Text.clip, List.take_of_length_le (by rwa [String.length_toList]), String.ofList_toList]
  rw [Shelf.imported, h.cleanId_onto, Option.getD_some]
  simp only [onto, Option.map_some, Option.getD_some, hclip h.createdAt, hclip h.updatedAt]
  rfl

end Bookmark

namespace Shelf

variable {place : Place} {ident now : String} {u : Supply} {s t start : Shelf} {d disk : Disk}
  {run : List Step} {bs : List Bookmark}

theorem taken?_toJson {b : Bookmark} (h : b.IsClean) (htitle : b.title.length ≤ maxTitle) :
    taken? b.toJson = some (onto {} b, b.fields) := by
  have hobject : b.toJson.isObject = true := rfl
  simp only [taken?, hobject, if_true, Bookmark.draft_toJson, h.check_onto htitle]

/-- What is exported is imported as it is, whatever new ids are at hand. -/
theorem importedFrom_toJson (hclean : ∀ b ∈ bs, b.IsClean)
    (htitle : ∀ b ∈ bs, b.title.length ≤ maxTitle) (u : Supply) (k : Nat) :
    importedFrom u k (bs.map Bookmark.toJson) = bs := by
  induction bs generalizing k with
  | nil => rfl
  | cons b bs ih =>
    have hb := hclean b List.mem_cons_self
    have hrest := ih (fun c hc => hclean c (List.mem_cons_of_mem b hc))
      (fun c hc => htitle c (List.mem_cons_of_mem b hc))
    rw [List.map_cons, importedFrom_cons, taken?_toJson hb (htitle b List.mem_cons_self)]
    simp only [hb.imported_onto, hrest]

theorem storable_after (hload : load now place ident d = .ok start) (run : List Step) :
    Storable place ident (start.after run) := by
  refine after_keeps (P := fun _ => Storable place ident) (storable_load hload) ?_ run
    List.prefix_rfl
  intro past x _ hs
  exact storable_perform hs x.supply x.disk x.change

/-- The items that are read from an exported file are the bookmarks of the collection. -/
theorem importItems_bytes (h : s.collection.HasVersion) (file : String) :
    Surroundings.importItems file s.collection.bytes = .ok (s.list.map Bookmark.toJson) := by
  have hpage : Json.ofBytes s.collection.bytes = .ok s.collection.toJson :=
    Json.ofBytes_page (Collection.fits_toJson h) (by decide)
  rw [Surroundings.importItems, hpage]
  rfl

/-- From a place without its file on, and as long as no title is too long: the exported file and the
exported record give items whose import, on any shelf over storage that works, takes in all of them
and leaves the bookmarks that were exported, in their order and with all their fields. -/
theorem restore_backup (hmissing : d.has place ident = false)
    (hload : load now place ident d = .ok start) (hrun : ∀ x ∈ run, x.supply.IsClean)
    (htitle : ∀ b ∈ (start.after run).list, b.title.length ≤ 120)
    (hworks : disk.Works u.mark t.place t.ident) (file : String) :
    ∃ items, Surroundings.importItems file (start.after run).collection.bytes = .ok items ∧
      Web.items? (start.after run).collection.toJson = some items ∧
      (t.replaceAll u disk items).result = .ok (start.after run).total ∧
      (t.replaceAll u disk items).shelf.list = (start.after run).list := by
  have hclean : ∀ b ∈ (start.after run).list, b.IsClean := fun b hb =>
    (isTidy_after hmissing hload run b hb).isClean (isStamped_after hmissing hload hrun b hb)
  have hitems := importedFrom_toJson hclean htitle u 0
  refine ⟨(start.after run).list.map Bookmark.toJson,
    importItems_bytes (storable_after hload run).version file, rfl, ?_⟩
  rw [replaceAll_eq, hitems]
  exact commit_of_works hworks _ _

/-- Two bookmarks, one of them changed after it was made, take the place of another one. -/
theorem restore_backup_elsewhere :
    ∃ (start t : Shelf) (run : List Step) (items : List Json) (first second : Bookmark),
      load "dawn" [] "data.json" .empty = .ok start ∧
      (start.after run).list = [first, second] ∧ second.title = "new" ∧ t.list.length = 1 ∧
      Surroundings.importItems "backup.json" (start.after run).collection.bytes = .ok items ∧
      (t.replaceAll growing .empty items).result = .ok 2 ∧
      (t.replaceAll growing .empty items).shelf.list = [first, second] := by
  let start : Shelf := ⟨[], "data.json", .empty "dawn"⟩
  let t : Shelf := ⟨[], "data.json", ⟨7, "dusk", [{ id := "z", url := "https://z" }]⟩⟩
  let run : List Step := [
    ⟨dated, .empty, .create { id := some "a", url := some "https://a", tags := some (.csv "x, y") }⟩,
    ⟨dated, .empty, .create { url := some "https://b" }⟩,
    ⟨dated, .empty, .update "a" { title := some "new" }⟩]
  let first : Bookmark := ⟨Ulid.bookmarkId 0 0, dated.now, dated.now, "https://b", "https://b", "",
    "", []⟩
  let second : Bookmark := ⟨"a", dated.now, dated.now, "new", "https://a", "", "", ["x", "y"]⟩
  have hmissing : Disk.empty.has [] "data.json" = false := by decide +kernel
  have hload : load "dawn" [] "data.json" .empty = .ok start := by decide +kernel
  have hrun : ∀ x ∈ run, x.supply.IsClean := by
    intro x hx
    simp only [run, List.mem_cons, List.not_mem_nil, or_false] at hx
    rcases hx with rfl | rfl | rfl <;> exact isClean_dated
  have hlist : (start.after run).list = [first, second] := by decide +kernel
  have htitle : ∀ b ∈ (start.after run).list, b.title.length ≤ 120 := by
    rw [hlist]
    decide +kernel
  obtain ⟨items, hread, -, hcount, hrestored⟩ :=
    restore_backup hmissing hload hrun htitle (t := t) works_empty "backup.json"
  rw [total, hlist] at hcount
  rw [hlist] at hrestored
  exact ⟨start, t, run, items, first, second, hload, hlist, rfl, rfl, hread, hcount, hrestored⟩

end Shelf
end Linkshelf
