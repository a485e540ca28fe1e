import Mathlib.Data.List.Forall2
import Linkshelf.Collection

/-! The two readings of a collection: the strict one, which takes a record as a whole or not at all,
and the tolerant one, which takes what it can. Where the strict one takes a record, nothing is
replaced or skipped by the other. -/
namespace Linkshelf

section Lists

variable {α β : Type} {f : α → Option β} {xs : List α} {ys : List β}

theorem mapM_eq_some_iff :
    xs.mapM f = some ys ↔ (∀ x ∈ xs, (f x).isSome) ∧ xs.filterMap f = ys := by
  induction xs generalizing ys with
  | nil => simp
  | cons x xs ih =>
    rw [List.mapM_cons, List.forall_mem_cons, List.filterMap_cons]
    cases hx : f x with
    | none => simp
    | some y =>
      have hrest : (∃ zs, xs.mapM f = some zs ∧ y :: zs = ys) ↔
          (∀ z ∈ xs, (f z).isSome) ∧ y :: xs.filterMap f = ys := by
        simp [ih, and_assoc]
      simpa [Option.bind_eq_some_iff] using hrest

theorem forall₂_filterMap (f : α → Option β) (xs : List α) :
    List.Forall₂ (fun x y => f x = some y) (xs.filter fun x => (f x).isSome) (xs.filterMap f) := by
  induction xs with
  | nil => exact .nil
  | cons x xs ih =>
    cases hx : f x with
    | none => simpa [hx] using ih
    | some y => simpa [hx] using ih

end Lists

theorem Json.exists_string {v : Json} (h : v.string?.isSome) : ∃ s, v = .string s := by
  cases v with
  | string s => exact ⟨s, rfl⟩
  | _ => cases h

namespace Collection

variable {now later : String} {members : List (String × Json)} {c : Collection}

/-- Every field that is there has its proper form, and so has every item of the list. -/
structure IsProper (members : List (String × Json)) : Prop where
  version : ∀ v, Json.get? "version" members = some v → (version? v).isSome
  exportedAt : ∀ v, Json.get? "exportedAt" members = some v → v.string?.isSome
  entries : ∀ v, Json.get? "entries" members = some v →
    ∃ items, v = .array items ∧ ∀ x ∈ items, (Bookmark.ofJson? x).isSome

/-- A field that the strict reading takes is the one that the tolerant reading finds. -/
theorem elim_eq_some_iff {α : Type} {f : Json → Option α} {a x : α} {field : Option Json} :
    field.elim (some a) f = some x ↔
      (∀ v, field = some v → (f v).isSome) ∧ (field.bind f).getD a = x := by
  cases field with
  | none => simp
  | some v => cases hv : f v <;> simp [hv]

theorem bookmarks_eq_some_iff {bs : List Bookmark} {field : Option Json} :
    field.elim (some []) (fun v => v.array?.bind (·.mapM Bookmark.ofJson?)) = some bs ↔
      (∀ v, field = some v → ∃ items, v = .array items ∧ ∀ x ∈ items, (Bookmark.ofJson? x).isSome) ∧
      ((field.bind Json.array?).getD []).filterMap Bookmark.ofJson? = bs := by
  cases field with
  | none => simp
  | some v => cases v <;> simp [Json.array?, mapM_eq_some_iff]

/-- The strict reading takes a record when it takes each field of it. -/
theorem ofRecord?_object :
    ofRecord? now (.object members) = some c ↔
      (Json.get? "version" members).elim (some currentVersion) version? = some c.version ∧
      (Json.get? "exportedAt" members).elim (some now) Json.string? = some c.exportedAt ∧
      (Json.get? "entries" members).elim (some [])
        (fun v => v.array?.bind (·.mapM Bookmark.ofJson?)) = some c.bookmarks := by
  have hfields : ofRecord? now (.object members) =
      ((Json.get? "version" members).elim (some currentVersion) version?).bind fun version =>
        ((Json.get? "exportedAt" members).elim (some now) Json.string?).bind fun exportedAt =>
          ((Json.get? "entries" members).elim (some [])
            (fun v => v.array?.bind (·.mapM Bookmark.ofJson?))).bind fun bookmarks =>
              some ⟨version, exportedAt, bookmarks⟩ := by
    cases hversion : Json.get? "version" members <;>
      cases hexported : Json.get? "exportedAt" members <;>
        cases hentries : Json.get? "entries" members <;>
          simp [ofRecord?, Json.record?, hversion, hexported, hentries]
  rw [hfields]
  constructor
  · intro h
    simp only [Option.bind_eq_some_iff, Option.some.injEq] at h
    obtain ⟨version, hversion, exportedAt, hexported, bookmarks, hbookmarks, rfl⟩ := h
    exact ⟨hversion, hexported, hbookmarks⟩
  · rintro ⟨hversion, hexported, hbookmarks⟩
    rw [hversion, hexported, hbookmarks]
    rfl

/-- The strict reading takes just the proper records, and as the tolerant one reads them. -/
theorem ofRecord?_eq_some_iff :
    ofRecord? now (.object members) = some c ↔
      IsProper members ∧ ofJson now (.object members) = c := by
  rw [ofRecord?_object, elim_eq_some_iff, elim_eq_some_iff, bookmarks_eq_some_iff]
  constructor
  · rintro ⟨⟨hversion, hv⟩, ⟨hexported, he⟩, hentries, hb⟩
    exact ⟨⟨hversion, hexported, hentries⟩, by rw [ofJson, hv, he, hb]⟩
  · rintro ⟨⟨hversion, hexported, hentries⟩, rfl⟩
    exact ⟨⟨hversion, rfl⟩, ⟨hexported, rfl⟩, hentries, rfl⟩

/-- Where the strict reading takes a record, the tolerant one gives the same version, the same
bookmarks and the same time, or each its own present if the record has none. Of a list, bare or in a
record, the tolerant one gives the items that are bookmarks, each once and in their order. -/
theorem readings_agree (now later : String) :
    (∀ members c, ofRecord? now (.object members) = some c →
      (ofJson later (.object members)).version = c.version ∧
      (ofJson later (.object members)).bookmarks = c.bookmarks ∧
      ((∃ time, Json.get? "exportedAt" members = some (.string time) ∧ c.exportedAt = time ∧
          (ofJson later (.object members)).exportedAt = time) ∨
        Json.get? "exportedAt" members = none ∧ c.exportedAt = now ∧
          (ofJson later (.object members)).exportedAt = later)) ∧
    ∀ items, (ofJson now (.array items)).bookmarks =
        (ofJson later (.object [("entries", .array items)])).bookmarks ∧
      List.Forall₂ (fun v b => Bookmark.ofJson? v = some b)
        (items.filter fun v => (Bookmark.ofJson? v).isSome)
        (ofJson now (.array items)).bookmarks := by
  constructor
  · intro members c h
    obtain ⟨hproper, rfl⟩ := ofRecord?_eq_some_iff.mp h
    refine ⟨rfl, rfl, ?_⟩
    cases hfield : Json.get? "exportedAt" members with
    | none => exact Or.inr ⟨rfl, by simp [ofJson, hfield], by simp [ofJson, hfield]⟩
    | some v =>
      obtain ⟨time, rfl⟩ := Json.exists_string (hproper.exportedAt v hfield)
      exact Or.inl ⟨time, rfl, by simp [ofJson, hfield, Json.string?],
        by simp [ofJson, hfield, Json.string?]⟩
  · intro items
    exact ⟨rfl, forall₂_filterMap Bookmark.ofJson? items⟩

/-- The largest version, a field given twice, an unknown one, no time, and a bookmark as a list. -/
theorem readings_agree_undated :
    ∃ (items : List Json) (members : List (String × Json)),
      items = [.array [.string "a"], .object [("url", .string "u"), ("tags", .null)]] ∧
      members = [("entries", .array items), ("version", .natural 0), ("note", .bool true),
        ("version", .natural 4294967295)] ∧
      ofRecord? "dawn" (.object members) =
        some ⟨4294967295, "dawn", [{ id := "a" }, { url := "u" }]⟩ ∧
      (ofJson "dusk" (.object members)).version = 4294967295 ∧
      (ofJson "dusk" (.object members)).bookmarks = [{ id := "a" }, { url := "u" }] ∧
      (ofJson "dusk" (.object members)).exportedAt = "dusk" := by
  let items : List Json := [.array [.string "a"], .object [("url", .string "u"), ("tags", .null)]]
  let members : List (String × Json) := [("entries", .array items), ("version", .natural 0),
    ("note", .bool true), ("version", .natural 4294967295)]
  have hstrict : ofRecord? "dawn" (.object members) =
      some ⟨4294967295, "dawn", [{ id := "a" }, { url := "u" }]⟩ := by decide +kernel
  obtain ⟨hversion, hbookmarks, htime⟩ := (readings_agree "dawn" "dusk").1 members _ hstrict
  have hnone : Json.get? "exportedAt" members = none := rfl
  obtain ⟨time, hsome, -⟩ | ⟨-, -, hdusk⟩ := htime
  · rw [hnone] at hsome
    cases hsome
  · exact ⟨items, members, rfl, rfl, hstrict, hversion, hbookmarks, hdusk⟩

end Collection
end Linkshelf
