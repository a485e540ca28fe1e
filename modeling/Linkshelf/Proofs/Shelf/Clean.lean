import Linkshelf.Proofs.Shelf.Run
import Linkshelf.Proofs.Text.Ulid

/-! Clean bookmarks. A check bounds and trims what a client sends; ids and times are bounded as they
are taken in. So every bookmark of a shelf that began without a file is clean in all its fields. -/
namespace Linkshelf

open Draft

/-- No outer blanks, and not too long. -/
structure IsWithin (max : Nat) (s : String) : Prop where
  trimmed : Text.trim s = s
  short : s.length ≤ max

theorem tidy_eq_iff {max : Nat} {s : String} : tidy max s = s ↔ IsWithin max s := by
  constructor
  · intro h
    rw [← h]
    exact ⟨trim_tidy max s, length_tidy_le max s⟩
  · rintro ⟨htrim, hlength⟩
    exact tidy_eq_self hlength htrim

/-- What a supply gives can be kept as it is. -/
structure Supply.IsClean (u : Supply) : Prop where
  now : u.now.length ≤ maxTimestamp
  newId : ∀ k, IsWithin maxId (u.newId k)
  newId_ne : ∀ k, u.newId k ≠ ""

theorem isWithin_bookmarkId (millis random : Nat) :
    IsWithin maxId (Ulid.bookmarkId millis random) where
  trimmed := by rw [Text.trim, (Ulid.isSolid_bookmarkId millis random).trim, String.ofList_toList]
  short := by
    rw [Ulid.length_bookmarkId]
    decide

/-- New ids as the program makes them are clean. -/
theorem Supply.isClean_bookmarkId {now : String} (hnow : now.length ≤ maxTimestamp)
    (mark : String) (millis random : Nat → Nat) :
    Supply.IsClean ⟨now, mark, fun k => Ulid.bookmarkId (millis k) (random k)⟩ where
  now := hnow
  newId _ := isWithin_bookmarkId _ _
  newId_ne k hempty := by
    have hlength := Ulid.length_bookmarkId (millis k) (random k)
    dsimp only at hempty
    rw [hempty] at hlength
    cases hlength

namespace Bookmark

/-- The id and the times are as they are taken in. -/
structure IsStamped (b : Bookmark) : Prop where
  id : IsWithin maxId b.id
  id_ne : b.id ≠ ""
  createdAt : b.createdAt.length ≤ maxTimestamp
  updatedAt : b.updatedAt.length ≤ maxTimestamp

/-- All fields are as they are kept. -/
structure IsClean (b : Bookmark) : Prop where
  id : IsWithin 80 b.id
  id_ne : b.id ≠ ""
  url : IsWithin 2048 b.url
  url_ne : b.url ≠ ""
  title_trimmed : Text.trim b.title = b.title
  title_short : b.title.length ≤ 120 ∨ b.title = b.url
  title_ne : b.title ≠ ""
  iconUrl : IsWithin 2048 b.iconUrl
  description : IsWithin 600 b.description
  tags : normalizeTags (.list b.tags) = b.tags
  createdAt : b.createdAt.length ≤ 64
  updatedAt : b.updatedAt.length ≤ 64

theorem isStamped_toBookmark {id createdAt updatedAt : String} (hid : IsWithin maxId id)
    (hne : id ≠ "") (hcreated : createdAt.length ≤ maxTimestamp)
    (hupdated : updatedAt.length ≤ maxTimestamp) (f : CheckedFields) :
    (f.toBookmark id createdAt updatedAt).IsStamped := ⟨hid, hne, hcreated, hupdated⟩

theorem IsTidy.isClean {b : Bookmark} (h : b.IsTidy) (hb : b.IsStamped) : b.IsClean where
  id := hb.id
  id_ne := hb.id_ne
  url := tidy_eq_iff.mp h.url
  url_ne := h.url_ne
  title_trimmed := h.trim_title
  title_short := h.title.imp_left fun htitle => (tidy_eq_iff.mp htitle).short
  title_ne := h.title_ne
  iconUrl := tidy_eq_iff.mp h.iconUrl
  description := tidy_eq_iff.mp h.description
  tags := normalizeTags_of_isCanonical h.tags
  createdAt := hb.createdAt
  updatedAt := hb.updatedAt

end Bookmark

namespace Shelf

open Bookmark

variable {place : Place} {ident now id : String} {u : Supply} {s start : Shelf} {d : Disk}
  {b : Bookmark} {x : Step} {run : List Step} {draft : Draft}

theorem isWithin_cleanId (h : draft.cleanId = some id) : IsWithin maxId id := by
  rw [cleanId] at h
  split at h
  · cases h
  · obtain rfl := Option.some.inj h
    exact ⟨trim_tidy _ _, length_tidy_le _ _⟩

theorem isWithin_getD_cleanId (hu : u.IsClean) (draft : Draft) (k : Nat) :
    IsWithin maxId (draft.cleanId.getD (u.newId k)) := by
  cases hid : draft.cleanId with
  | none => exact hu.newId k
  | some id => exact isWithin_cleanId hid

theorem length_stamp_le (hu : u.IsClean) (time : Option String) :
    ((time.map (Text.clip maxTimestamp)).getD u.now).length ≤ maxTimestamp := by
  cases time with
  | none => exact hu.now
  | some t =>
    rw [Option.map_some, Option.getD_some, Text.clip, String.length_ofList]
    exact List.length_take_le _ _

/-- Of the id and the times, a new bookmark takes what the supply gives, a changed one keeps its own,
and an imported one has them clipped. -/
theorem Made.isStamped (h : Made u s b) (hu : u.IsClean) (hs : ∀ b ∈ s.list, b.IsStamped) :
    b.IsStamped := by
  cases h with
  | @created draft fields _ =>
    exact isStamped_toBookmark (isWithin_getD_cleanId hu draft 0)
      (getD_cleanId_ne_empty hu.newId_ne draft 0) hu.now hu.now fields
  | @updated draft fields old hold _ =>
    have hstamped := hs old hold
    exact isStamped_toBookmark hstamped.id hstamped.id_ne hstamped.createdAt hu.now fields
  | @imported draft fields k _ =>
    rw [Shelf.imported]
    exact isStamped_toBookmark (isWithin_getD_cleanId hu draft k)
      (getD_cleanId_ne_empty hu.newId_ne draft k) (length_stamp_le hu _) (length_stamp_le hu _)
      fields

theorem isStamped_next (hx : x.supply.IsClean) (hs : ∀ b ∈ s.list, b.IsStamped) :
    ∀ b ∈ (x.next s).list, b.IsStamped := by
  intro b hb
  rcases mem_next hb with hmem | hmade
  · exact hs b hmem
  · exact hmade.isStamped hx hs

theorem isStamped_after (hmissing : d.has place ident = false)
    (hload : load now place ident d = .ok start) (hrun : ∀ x ∈ run, x.supply.IsClean) :
    ∀ b ∈ (start.after run).list, b.IsStamped := by
  obtain rfl := load_of_missing hmissing hload
  refine after_keeps (P := fun _ s => ∀ b ∈ s.list, b.IsStamped) ?_ ?_ run List.prefix_rfl
  · intro b hb
    simp [list, Collection.empty] at hb
  · intro past x hpast hs
    exact isStamped_next (hrun x (hpast.subset (by simp))) hs

/-- From a place without its file on, every bookmark is clean, whatever drafts and items come in. -/
theorem isClean_after (hmissing : d.has place ident = false)
    (hload : load now place ident d = .ok start) (hrun : ∀ x ∈ run, x.supply.IsClean) :
    ∀ b ∈ (start.after run).list, b.IsClean := by
  intro b hb
  have htidy := isTidy_after hmissing hload run b hb
  exact htidy.isClean (isStamped_after hmissing hload hrun b hb)

/-- A time as the program writes it, and new ids as it makes them. -/
def dated : Supply := ⟨"2024-02-29T12:30:05.007Z", "mark", fun k => Ulid.bookmarkId 0 k⟩

theorem isClean_dated : dated.IsClean :=
  Supply.isClean_bookmarkId (by decide) "mark" (fun _ => 0) fun k => k

/-- An item is imported with a time that is too long, and a bookmark gets a new id. -/
theorem isClean_after_clipped :
    ∃ (start : Shelf) (run : List Step) (made imported : Bookmark),
      Disk.empty.has [] "data.json" = false ∧ load "dawn" [] "data.json" .empty = .ok start ∧
      (∀ x ∈ run, x.supply.IsClean) ∧ (start.after run).list = [made, imported] ∧
      made.id = "e-00000000000000000000000000" ∧ imported.createdAt.length = 64 ∧
      made.IsClean ∧ imported.IsClean := by
  let start : Shelf := ⟨[], "data.json", .empty "dawn"⟩
  let time : String := .ofList (List.replicate 70 '1')
  let items : List Json := [.object [("id", .string " a "), ("url", .string "mailto:a"),
    ("createdAt", .string time)]]
  let run : List Step := [⟨dated, .empty, .replaceAll items⟩,
    ⟨dated, .empty,
      .create { url := some " https://b ", title := some " ", tags := some (.csv "x//y,") }⟩]
  let imported : Bookmark := ⟨"a", .ofList (List.replicate 64 '1'), dated.now, "mailto:a",
    "mailto:a", "", "", []⟩
  let made : Bookmark := ⟨"e-00000000000000000000000000", dated.now, dated.now, "https://b",
    "https://b", "", "", ["x/y"]⟩
  have hmissing : Disk.empty.has [] "data.json" = false := by decide +kernel
  have hload : load "dawn" [] "data.json" .empty = .ok start := by decide +kernel
  have hrun : ∀ x ∈ run, x.supply.IsClean := by
    intro x hx
    simp only [run, List.mem_cons, List.not_mem_nil, or_false] at hx
    rcases hx with rfl | rfl <;> exact isClean_dated
  have hlist : (start.after run).list = [made, imported] := by decide +kernel
  have hclean := isClean_after hmissing hload hrun
  rw [hlist] at hclean
  have hlength : imported.createdAt.length = 64 := by decide +kernel
  exact ⟨start, run, made, imported, hmissing, hload, hrun, hlist, rfl, hlength,
    hclean made (by simp), hclean imported (by simp)⟩

end Shelf
end Linkshelf
