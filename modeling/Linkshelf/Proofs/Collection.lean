import Linkshelf.Collection
import Linkshelf.Proofs.Json.RoundTrip

/-! A collection is read from its file as it was written. -/
namespace Linkshelf

theorem stringList?_array (texts : List String) :
    stringList? (.array (texts.map .string)) = some texts := by
  rw [stringList?, Json.array?, Option.bind_some]
  induction texts with
  | nil => rfl
  | cons t texts ih =>
    rw [List.map_cons, List.mapM_cons, ih]
    rfl

theorem fits_stringList (texts : List String) : Json.Fits 1 (.array (texts.map .string)) := by
  refine .array fun v hv => ?_
  obtain ⟨t, -, rfl⟩ := List.mem_map.mp hv
  exact .string t

namespace Bookmark

theorem ofJson?_toJson (b : Bookmark) : ofJson? b.toJson = some b := by
  simp [ofJson?, toJson, Json.record?, Json.get?, textField, tagsField, Json.string?,
    stringList?_array]

theorem fits_toJson (b : Bookmark) : Json.Fits 2 b.toJson := by
  refine .object fun m hm => ?_
  simp only [List.mem_cons, List.not_mem_nil, or_false] at hm
  rcases hm with rfl | rfl | rfl | rfl | rfl | rfl | rfl | rfl
  iterate 7 exact .string _
  exact fits_stringList b.tags

end Bookmark

namespace Collection

variable {c : Collection}

/-- A file can hold the version: 32 bits without a sign. -/
def HasVersion (c : Collection) : Prop := c.version < 0x100000000

theorem HasVersion.congr {c next : Collection} (h : c.HasVersion)
    (hversion : next.version = c.version) : next.HasVersion := by
  rw [HasVersion, hversion]
  exact h

theorem hasVersion_empty (now : String) : (empty now).HasVersion := by
  simp [HasVersion, empty, currentVersion]

/-- Whatever is read, its version is one that a file can hold. -/
theorem hasVersion_ofJson (now : String) (v : Json) : (ofJson now v).HasVersion := by
  have hversion (o : Option Json) : (o.bind version?).getD currentVersion < 0x100000000 := by
    cases hv : o.bind version? with
    | none => simp [currentVersion]
    | some n =>
      obtain ⟨j, -, hj⟩ := Option.bind_eq_some_iff.mp hv
      cases j <;> simp [version?] at hj
      simpa [hj.2] using hj.1
  cases v with
  | object members => exact hversion _
  | _ => simp [HasVersion, ofJson, empty, currentVersion]

theorem ofJson_toJson (h : c.HasVersion) (now : String) : ofJson now c.toJson = c := by
  have hbookmarks : (c.bookmarks.map Bookmark.toJson).filterMap Bookmark.ofJson? = c.bookmarks := by
    rw [List.filterMap_map]
    have hid : Bookmark.ofJson? ∘ Bookmark.toJson = some := funext Bookmark.ofJson?_toJson
    rw [hid, List.filterMap_some]
  have hversion : c.version < 0x100000000 := h
  simp [ofJson, toJson, Json.get?, version?, Json.string?, Json.array?, hversion, hbookmarks]

theorem fits_toJson (h : c.HasVersion) : Json.Fits 4 c.toJson := by
  have hentries : Json.Fits 3 (.array (c.bookmarks.map Bookmark.toJson)) := by
    refine .array fun v hv => ?_
    obtain ⟨b, -, rfl⟩ := List.mem_map.mp hv
    exact b.fits_toJson
  have hversion : c.version < Nat.pow 2 64 := Nat.lt_trans h (by decide)
  refine .object fun m hm => ?_
  simp only [List.mem_cons, List.not_mem_nil, or_false] at hm
  rcases hm with rfl | rfl | rfl
  · exact .natural hversion
  · exact .string _
  · exact hentries

theorem ofBytes_bytes (h : c.HasVersion) (now : String) : ofBytes now c.bytes = .ok c := by
  have hpage := Json.ofBytes_page (fits_toJson h) (by decide)
  rw [ofBytes, bytes, hpage]
  exact congrArg Except.ok (ofJson_toJson h now)

end Collection
end Linkshelf
