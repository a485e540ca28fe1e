import Linkshelf.Proofs.Disk.Names
import Linkshelf.Proofs.Shelf.Durability
import Linkshelf.Proofs.Shelf.Run

/-! Saving a shelf where it was opened. A new bookmark is saved just when the shelf's ident is a
single name that leaves room for a mark; any other ident can be opened, but nothing is ever saved
there. -/
namespace Linkshelf.Shelf

open Disk (IsSavable)

variable {place : Place} {ident now : String} {u : Supply} {s : Shelf} {d : Disk} {draft : Draft}
  {fields : CheckedFields} {content : Bytes} {next : Collection} {b : Bookmark}

theorem find_commit {α : Type} {a answer : α} (h : (s.commit u d next a).result = .ok answer) :
    (s.commit u d next a).disk.find s.place s.ident =
      .ok (.file (s.commit u d next a).shelf.collection.bytes) := by
  rcases commit_cases u s d next a with ⟨e, after, -, hfail⟩ | ⟨after, hreplace, hdone⟩
  · simp [hfail, fail] at h
  · rw [hdone]
    exact Disk.find_replace hreplace

theorem load_commit {α : Type} {a answer : α} (hversion : next.HasVersion)
    (h : (s.commit u d next a).result = .ok answer) (now : String) :
    load now s.place s.ident (s.commit u d next a).disk = .ok (s.commit u d next a).shelf := by
  have hfile := find_commit h
  rcases commit_cases u s d next a with ⟨e, after, -, hfail⟩ | ⟨after, -, hdone⟩
  · simp [hfail, fail] at h
  · have hstamped : { next with exportedAt := u.now }.HasVersion := hversion.congr rfl
    rw [hdone] at hfile ⊢
    exact load_of_find hstamped hfile now

/-- A commit that fails keeps the shelf and what is at its place. -/
theorem commit_failed {α : Type} {a : α} {e : ShelfError}
    (h : (s.commit u d next a).result = .error e) :
    (s.commit u d next a).shelf = s ∧ (d.IsTree →
      ((s.commit u d next a).disk.find s.place s.ident).toOption =
        (d.find s.place s.ident).toOption) := by
  rcases commit_cases u s d next a with ⟨x, after, hreplace, hfail⟩ | ⟨after, -, hdone⟩
  · rw [hfail]
    exact ⟨rfl, fun htree => Disk.find_replace_error htree hreplace⟩
  · simp [hdone] at h

theorem commit_of_unsavable {α : Type} (hmark : d.IsNewMark s.place u.mark)
    (h : ¬ IsSavable u.mark s.ident) (next : Collection) (a : α) :
    ∃ e, s.commit u d next a = s.fail d (.disk e) := by
  obtain ⟨e, he⟩ := hmark.replace_unsavable h { next with exportedAt := u.now }.bytes
  exact ⟨e, by rw [commit, he]⟩

/-- A shelf that was opened from a file takes a new bookmark, and opening it again shows the
bookmark before all others, when its ident is savable. Otherwise no bookmark is ever taken. -/
theorem create_loaded (htree : d.IsTree) (hmark : d.IsNewMark place u.mark)
    (hfile : d.find place ident = .ok (.file content)) (hload : load now place ident d = .ok s)
    (hcheck : draft.check true = .ok fields)
    (hfree : ∀ b ∈ s.list, b.id ≠ draft.cleanId.getD (u.newId 0))
    (hb : b = fields.toBookmark (draft.cleanId.getD (u.newId 0)) u.now u.now) :
    (IsSavable u.mark ident → (s.create u d draft).result = .ok b ∧
      ∀ later, ∃ t, load later place ident (s.create u d draft).disk = .ok t ∧
        t.list = b :: s.list) ∧
    (¬ IsSavable u.mark ident →
      ∃ e, (s.create u d draft).result = .error (.disk e) ∧ (s.create u d draft).shelf = s ∧
        (s.create u d draft).disk = d) := by
  obtain ⟨rfl, rfl, hversion⟩ := storable_load hload
  rw [create_eq_commit hcheck hfree hb]
  constructor
  · intro hsavable
    obtain ⟨hok, hlist⟩ := commit_of_works (hmark.works_of_savable htree hsavable hfile)
      (s.keeping (b :: s.list)) b
    have hkeeping : (s.keeping (b :: s.list)).HasVersion := hversion.congr rfl
    exact ⟨hok, fun later => ⟨_, load_commit hkeeping hok later, hlist⟩⟩
  · intro hunsavable
    obtain ⟨e, he⟩ := commit_of_unsavable hmark hunsavable (s.keeping (b :: s.list)) b
    rw [he]
    exact ⟨e, rfl, rfl, rfl⟩

/-- A supply with a mark as the program makes it. -/
def marked : Supply := { growing with mark := Ulid.text 0 0 }

/-- A file with one bookmark takes a second one. -/
theorem create_loaded_second :
    ∃ (d : Disk) (content : Bytes) (s : Shelf) (old b : Bookmark),
      d.find ["home"] "data.json" = .ok (.file content) ∧
      load "dawn" ["home"] "data.json" d = .ok s ∧ s.list = [old] ∧
      (s.create marked d { url := some "https://b" }).result = .ok b ∧
      ∃ t, load "dusk" ["home"] "data.json" (s.create marked d { url := some "https://b" }).disk =
        .ok t ∧ t.list = [b, old] := by
  let old : Bookmark := { id := "z", url := "https://z", title := "z" }
  let c : Collection := ⟨7, "dawn", [old]⟩
  let d : Disk := ⟨[(["home"], .folder), (["home", "data.json"], .file c.bytes)]⟩
  let s : Shelf := ⟨["home"], "data.json", c⟩
  have htree : d.IsTree := by decide +kernel
  have hmark : d.IsNewMark ["home"] marked.mark :=
    Disk.isNewMark_text (Disk.unused_of_forall (by decide +kernel) _)
  have hplace : d.locate ["home"] "data.json" = .ok ["home", "data.json"] := by decide +kernel
  have hfile : d.find ["home"] "data.json" = .ok (.file c.bytes) := by
    rw [Disk.find, hplace]
    rfl
  have hversion : c.HasVersion := by simp [Collection.HasVersion, c]
  have hload : load "dawn" ["home"] "data.json" d = .ok s := load_of_find hversion hfile "dawn"
  have hcheck : ({ url := some "https://b" } : Draft).check true =
      .ok ⟨"https://b", "https://b", "", "", []⟩ := by decide +kernel
  have hsavable : IsSavable marked.mark "data.json" :=
    Disk.isSavable_text_iff.mpr ⟨by decide +kernel, by decide +kernel⟩
  obtain ⟨hok, hreload⟩ :=
    (create_loaded htree hmark hfile hload hcheck (by decide +kernel) rfl).1 hsavable
  exact ⟨d, c.bytes, s, old, _, hfile, hload, rfl, hok, hreload "dusk"⟩

/-- A file whose ident goes by a dot is opened, but no new bookmark is saved there. -/
theorem create_loaded_dotted :
    ∃ (d : Disk) (content : Bytes) (s : Shelf) (draft : Draft) (fields : CheckedFields),
      d.IsTree ∧ d.IsNewMark [] marked.mark ∧ d.find [] "./data.json" = .ok (.file content) ∧
      load "dawn" [] "./data.json" d = .ok s ∧ draft.check true = .ok fields ∧ s.list = [] ∧
      (s.create marked d draft).result = .error (.disk .notFound) := by
  let content : Bytes := Utf8.encode "[]"
  let d : Disk := ⟨[(["data.json"], .file content)]⟩
  have hmark : d.IsNewMark [] marked.mark :=
    Disk.isNewMark_text (Disk.unused_of_forall (by decide +kernel) _)
  exact ⟨d, content, ⟨[], "./data.json", .empty "dawn"⟩,
    { id := some "a", url := some "https://a.com" },
    ⟨"https://a.com", "https://a.com", "", "", []⟩,
    by decide +kernel, hmark, by decide +kernel, by decide +kernel, by decide +kernel, rfl,
    by decide +kernel⟩

end Linkshelf.Shelf
