import Linkshelf.Proofs.Collection

/-! Drafts as JSON records: written and read again, a draft has the fields it had, and what it does
to a stored bookmark is told by the record it was read from. -/
namespace Linkshelf

theorem Json.get?_append (key : String) (xs ys : List (String × Json)) :
    Json.get? key (xs ++ ys) = (Json.get? key ys).or (Json.get? key xs) := by
  rw [Json.get?, List.reverse_append, List.find?_append, Option.map_or]
  rfl

theorem TagList.ofJson?_toJson (tags : TagList) : TagList.ofJson? tags.toJson = some tags := by
  cases tags with
  | csv text => rfl
  | list tags =>
    rw [TagList.toJson, TagList.ofJson?, stringList?_array, Option.map_some]
    intro text htext
    cases htext

theorem TagList.fits_toJson (tags : TagList) : Json.Fits 1 tags.toJson := by
  cases tags with
  | csv text => exact .string text
  | list tags => exact fits_stringList tags

namespace Draft

variable {d : Draft} {v : Json}

/-- The fields of a draft as they are written, in their order. -/
def fields (d : Draft) : List (String × Option Json) :=
  [("id", d.id.map .string), ("title", d.title.map .string), ("url", d.url.map .string),
    ("iconUrl", d.iconUrl.map .string), ("description", d.description.map .string),
    ("tags", d.tags.map TagList.toJson), ("createdAt", d.createdAt.map .string),
    ("updatedAt", d.updatedAt.map .string)]

def members (d : Draft) : List (String × Json) :=
  d.fields.flatMap fun (name, value) => member name value

theorem toJson_eq (d : Draft) : d.toJson = .object d.members := by
  simp [toJson, members, fields]

theorem names_flatMap_sublist (fields : List (String × Option Json)) :
    ((fields.flatMap fun (name, value) => member name value).map Prod.fst).Sublist
      (fields.map Prod.fst) := by
  induction fields with
  | nil => exact .slnil
  | cons field fields ih =>
    obtain ⟨name, value⟩ := field
    cases value with
    | none => exact ih.cons name
    | some v => exact ih.cons_cons name

/-- Each member is a field, and no field is there twice. -/
theorem names_sublist (d : Draft) : (d.members.map Prod.fst).Sublist fieldNames :=
  names_flatMap_sublist _

theorem get?_member (key name : String) (value : Option Json) :
    Json.get? key (member name value) = if name = key then value else none := by
  cases value <;> by_cases h : name = key <;> simp [member, Json.get?, h]

theorem keptField_map (text : Option String) : keptField (text.map .string) = some text := by
  cases text <;> rfl

theorem clearedField_map (text : Option String) : clearedField (text.map .string) = some text := by
  cases text <;> rfl

theorem tagsField_of_ne_null (h : v ≠ .null) :
    tagsField (some v) = (TagList.ofJson? v).map some := by
  cases v with
  | null => exact absurd rfl h
  | _ => rfl

theorem tagsField_some (tags : TagList) : tagsField (some tags.toJson) = some (some tags) := by
  have hne : tags.toJson ≠ .null := by cases tags <;> simp [TagList.toJson]
  rw [tagsField_of_ne_null hne, tags.ofJson?_toJson, Option.map_some]

theorem tagsField_map (tags : Option TagList) :
    tagsField (tags.map TagList.toJson) = some tags := by
  cases tags with
  | none => rfl
  | some tags => exact tagsField_some tags

theorem ofJson?_toJson (d : Draft) : ofJson? d.toJson = some d := by
  simp [ofJson?, toJson, Json.record?, Json.get?_append, get?_member, keptField_map,
    clearedField_map, tagsField_map]

theorem fits_fields (d : Draft) : ∀ field ∈ d.fields, ∀ v, field.2 = some v → Json.Fits 1 v := by
  have htext (text : Option String) (v : Json) (hv : text.map Json.string = some v) :
      Json.Fits 1 v := by
    obtain ⟨s, -, rfl⟩ := Option.map_eq_some_iff.mp hv
    exact .string s
  have htags (v : Json) (hv : d.tags.map TagList.toJson = some v) : Json.Fits 1 v := by
    obtain ⟨tags, -, rfl⟩ := Option.map_eq_some_iff.mp hv
    exact tags.fits_toJson
  simp only [fields, List.forall_mem_cons]
  exact ⟨htext _, htext _, htext _, htext _, htext _, htags, htext _, htext _, by simp⟩

theorem fits_toJson (d : Draft) : Json.Fits 2 d.toJson := by
  rw [toJson_eq]
  refine .object fun m hm => ?_
  obtain ⟨field, hfield, hm⟩ := List.mem_flatMap.mp hm
  obtain ⟨v, hv, rfl⟩ : ∃ v, field.2 = some v ∧ (field.1, v) = m := by
    simpa [member, Option.map_eq_some_iff] using hm
  exact d.fits_fields field hfield v hv

/-- A stored text under a field as it was sent: an absent one leaves it, `null` empties it. -/
def textUnder (stored : String) : Option Json → String
  | none => stored
  | some v => v.string?.getD ""

/-- Stored tags under a field as it was sent. -/
def tagsUnder (stored : List String) : Option Json → TagList
  | none => .list stored
  | some v => (TagList.ofJson? v).getD (.list [])

/-- A stored bookmark under the fields of a record as it was sent. -/
def under (field : String → Option Json) (b : Bookmark) : Draft where
  id := some b.id
  title := some (textUnder b.title (field "title"))
  url := some (textUnder b.url (field "url"))
  iconUrl := some (textUnder b.iconUrl (field "iconUrl"))
  description := some (textUnder b.description (field "description"))
  tags := some (tagsUnder b.tags (field "tags"))
  createdAt := some b.createdAt
  updatedAt := some b.updatedAt

variable {field : Option Json}

theorem getD_clearedField {text : Option String} (h : clearedField field = some text)
    (stored : String) : text.getD stored = textUnder stored field := by
  cases field with
  | none =>
    cases h
    rfl
  | some v =>
    cases v with
    | null | string s =>
      cases h
      rfl
    | _ => cases h

theorem getD_tagsField {tags : Option TagList} (h : tagsField field = some tags)
    (stored : List String) : tags.getD (.list stored) = tagsUnder stored field := by
  cases field with
  | none =>
    cases h
    rfl
  | some v =>
    by_cases hv : v = .null
    · subst hv
      cases h
      rfl
    · rw [tagsField_of_ne_null hv] at h
      obtain ⟨read, hread, rfl⟩ := Option.map_eq_some_iff.mp h
      rw [tagsUnder, hread, Option.getD_some, Option.getD_some]

theorem eq_of_keptField {text : Option String} (h : keptField field = some text) :
    text = field.bind Json.string? := by
  cases field with
  | none =>
    cases h
    rfl
  | some v =>
    cases v with
    | null | string s =>
      cases h
      rfl
    | _ => cases h

/-- A draft is read from a record field by field. -/
structure ReadFrom (field : String → Option Json) (d : Draft) : Prop where
  id : keptField (field "id") = some d.id
  title : clearedField (field "title") = some d.title
  url : clearedField (field "url") = some d.url
  iconUrl : clearedField (field "iconUrl") = some d.iconUrl
  description : clearedField (field "description") = some d.description
  tags : tagsField (field "tags") = some d.tags
  createdAt : keptField (field "createdAt") = some d.createdAt
  updatedAt : keptField (field "updatedAt") = some d.updatedAt

theorem exists_readFrom (h : ofJson? v = some d) :
    ∃ field, v.record? fieldNames = some field ∧ d.ReadFrom field := by
  simp only [ofJson?, Option.bind_eq_bind, Option.bind_eq_some_iff] at h
  obtain ⟨field, hrecord, id, hid, title, htitle, url, hurl, iconUrl, hicon, description,
    hdescription, tags, htags, createdAt, hcreated, updatedAt, hupdated, hd⟩ := h
  cases hd
  exact ⟨field, hrecord, hid, htitle, hurl, hicon, hdescription, htags, hcreated, hupdated⟩

theorem ReadFrom.onto {field : String → Option Json} (h : d.ReadFrom field) (b : Bookmark) :
    d.onto b = under field b := by
  simp only [Draft.onto, under, getD_clearedField h.title, getD_clearedField h.url,
    getD_clearedField h.iconUrl, getD_clearedField h.description, getD_tagsField h.tags]

end Draft
end Linkshelf
