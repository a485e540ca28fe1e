import Linkshelf.Proofs.Bookmark.Record
import Linkshelf.Web.Body

/-! A draft that is printed and sent as the body of a request is the draft that is read there, and
what a draft does to a stored bookmark survives the writing. -/
namespace Linkshelf.Web.Body

open Json

/-- What reading a field does with its value, however it is printed and whatever follows. -/
def Puts (name : String) (v : Json) (d d' : Draft) : Prop :=
  ∀ indent s, EndsNumber s →
    readField d name (.char ' ' :: ((pretty indent v).map .char ++ s)) = .ok (d', s)

/-- Reading the members one by one makes the one draft of the other. -/
inductive Fills : Draft → List (String × Json) → Draft → Prop
  | nil {d} : Fills d [] d
  | cons {d d' d'' name v ms} : Puts name v d d' → Fills d' ms d'' → Fills d ((name, v) :: ms) d''

variable {d d' d'' : Draft} {v : Json} {name : String} {s : List Glyph} {seen : List String}
  {ms ns : List (String × Json)} {k : Nat}

section Fields

theorem readAny_pretty (h : Fits k v) (hk : k < innerDepth) (indent : Nat) (hs : EndsNumber s) :
    readAny (.char ' ' :: ((pretty indent v).map .char ++ s)) = .ok (v, s) := by
  have hread := h.readsBack innerDepth hk indent
    (enough ((pretty indent v).map .char ++ s) + 2) s (by simp [enough]; omega) hs
  have henough : enough (.char ' ' :: ((pretty indent v).map .char ++ s)) =
      enough ((pretty indent v).map .char ++ s) + 1 + 1 := by
    simp only [enough, List.length_cons]
    omega
  rw [readAny, henough, readValue_blank, hread]
  rfl

theorem readText_pretty (text : String) (indent : Nat) (hs : EndsNumber s) :
    readText (.char ' ' :: ((pretty indent (.string text)).map .char ++ s)) =
      .ok (some text, s) := by
  have hany := readAny_pretty (Fits.string (d := 0) text) (by decide) indent hs
  have hhead : (skipGap (.char ' ' :: ((pretty indent (.string text)).map .char ++ s))).head? =
      some (.char '"') := by
    simp [pretty, quote, skipGap, isGap]
  simp [readText, hhead, hany]

theorem readTags_pretty (tags : TagList) (indent : Nat) (hs : EndsNumber s) :
    readTags (.char ' ' :: ((pretty indent tags.toJson).map .char ++ s)) =
      .ok (some tags, s) := by
  rw [readTags, readAny_pretty tags.fits_toJson (by decide) indent hs]
  simp only [Draft.tagsField_some]

theorem Fills.append (h : Fills d ms d') (h' : Fills d' ns d'') : Fills d (ms ++ ns) d'' := by
  induction h with
  | nil => exact h'
  | cons hputs _ ih => exact .cons hputs (ih h')

/-- A field that is absent leaves the draft as it is. -/
theorem fills_member {α : Type} (name : String) (set : Option α → Draft) (toJson : α → Json)
    (hputs : ∀ a, Puts name (toJson a) (set none) (set (some a))) (value : Option α) :
    Fills (set none) (Draft.member name (value.map toJson)) (set value) := by
  cases value with
  | none => exact .nil
  | some a => exact .cons (hputs a) .nil

theorem fills_text (name : String) (set : Option String → Draft)
    (hread : ∀ text s t, readText s = .ok (some text, t) →
      readField (set none) name s = .ok (set (some text), t)) (value : Option String) :
    Fills (set none) (Draft.member name (value.map .string)) (set value) := by
  refine fills_member name set .string (fun text indent s hs => ?_) value
  exact hread text _ _ (readText_pretty text indent hs)

theorem fills_tags (d : Draft) (tags : Option TagList) :
    Fills { d with tags := none } (Draft.member "tags" (tags.map TagList.toJson))
      { d with tags } := by
  refine fills_member "tags" ({ d with tags := · }) TagList.toJson ?_ tags
  intro tags indent s hs
  rw [readField, if_pos rfl, readTags_pretty tags indent hs]
  rfl

/-- The members of a draft fill the empty one, field by field. -/
theorem fills_members (d : Draft) : Fills {} d.members d := by
  simp only [Draft.members, Draft.fields, List.flatMap_cons, List.flatMap_nil, List.append_nil]
  -- the drafts in between have the fields up to the one that was read last
  refine (fills_text "id" (⟨·, none, none, none, none, none, none, none⟩) ?_ d.id).append <|
    (fills_text "title" (⟨d.id, ·, none, none, none, none, none, none⟩) ?_ d.title).append <|
    (fills_text "url" (⟨d.id, d.title, ·, none, none, none, none, none⟩) ?_ d.url).append <|
    (fills_text "iconUrl" (⟨d.id, d.title, d.url, ·, none, none, none, none⟩) ?_ _).append <|
    (fills_text "description" (⟨d.id, d.title, d.url, d.iconUrl, ·, none, none, none⟩)
      ?_ _).append <|
    (fills_tags { d with createdAt := none, updatedAt := none } d.tags).append <|
    (fills_text "createdAt" ({ d with createdAt := ·, updatedAt := none }) ?_ d.createdAt).append <|
    fills_text "updatedAt" ({ d with updatedAt := · }) ?_ d.updatedAt
  all_goals
    intro text s t hread
    simp [readField, hread, Except.map]

end Fields

section Members

theorem readMember_pretty (hname : name ∈ Draft.fieldNames) (hnew : name ∉ seen)
    (hputs : Puts name v d d') (indent : Nat) (hs : EndsNumber s) :
    readMember d seen name (.char ':' :: .char ' ' :: ((pretty indent v).map .char ++ s)) =
      .ok (d', name :: seen, s) := by
  have hput := hputs indent s hs
  simp [readMember, hname, hnew, readColon_char, hput, Except.map]

theorem readMembers_step (hname : name ∈ Draft.fieldNames) (hnew : name ∉ seen)
    (hputs : Puts name v d d') (isFirst : Bool) (indent fuel : Nat) (hs : EndsNumber s) :
    readMembers d seen isFirst (fuel + 1)
        ((comma isFirst ++ newline indent).map .char ++ ((quote name).map .char ++
          (.char ':' :: .char ' ' :: ((pretty indent v).map .char ++ s)))) =
      readMembers d' (name :: seen) false fuel s := by
  obtain ⟨body, hbody, hkey⟩ := readString_quote name
    (.char ':' :: .char ' ' :: ((pretty indent v).map .char ++ s))
  have hmember := readMember_pretty hname hnew hputs indent hs
  rw [hbody, readMembers, followingMember_item]
  simp only [hkey, hmember]

theorem Fills.readMembers_pretty (h : Fills d ms d') (hne : ms ≠ [])
    (hnames : ∀ m ∈ ms, m.1 ∈ Draft.fieldNames) (hnodup : (ms.map Prod.fst).Nodup)
    (hnew : ∀ m ∈ ms, m.1 ∉ seen) (isFirst : Bool) (indent last fuel : Nat) (s : List Glyph)
    (hfuel : ms.length < fuel) :
    readMembers d seen isFirst fuel
        ((comma isFirst ++ prettyMembers indent ms).map .char ++
          ((newline last).map .char ++ .char '\x7d' :: s)) = .ok d' := by
  induction h generalizing seen isFirst fuel with
  | nil => exact absurd rfl hne
  | @cons d e d' name v ms hputs hrest ih =>
    obtain ⟨hname, hnames⟩ := List.forall_mem_cons.mp hnames
    obtain ⟨hfirst, hnodup⟩ := List.nodup_cons.mp hnodup
    obtain ⟨hseen, hnew⟩ := List.forall_mem_cons.mp hnew
    obtain ⟨rest, rfl⟩ := Nat.exists_eq_add_of_le' (show 1 ≤ fuel by omega)
    have hfuel : ms.length < rest := by simpa using hfuel
    have hstep {t : List Glyph} (ht : EndsNumber t) :=
      readMembers_step hname hseen hputs isFirst indent rest ht
    cases ms with
    | nil =>
      cases hrest
      -- one unit of fuel for each member, and the last one for the closing brace
      have hclose : readMembers e (name :: seen) false rest
          ((newline last).map .char ++ .char '\x7d' :: s) = .ok e := by
        obtain ⟨more, rfl⟩ := Nat.exists_eq_add_of_le' (show 1 ≤ rest from hfuel)
        rw [readMembers, followingMember_close]
      have hone := hstep (endsNumber_newline last (.char '\x7d' :: s))
      rw [hclose] at hone
      simpa [prettyMembers] using hone
    | cons m ms =>
      have htail : prettyMembers indent ((name, v) :: m :: ms) =
          newline indent ++ quote name ++ ':' :: ' ' ::
            (pretty indent v ++ ',' :: prettyMembers indent (m :: ms)) := by
        simp [prettyMembers]
      have hnewer : ∀ n ∈ m :: ms, n.1 ∉ name :: seen := by
        intro n hn hmem
        rcases List.mem_cons.mp hmem with rfl | hmem
        · have hagain := List.mem_map_of_mem (f := Prod.fst) hn
          exact hfirst hagain
        · exact hnew n hn hmem
      have hmore := ih (by simp) hnames hnodup hnewer false rest hfuel
      have hone := hstep (endsNumber_comma ((prettyMembers indent (m :: ms)).map .char ++
        ((newline last).map .char ++ .char '\x7d' :: s)))
      simp only [comma, Bool.false_eq_true, if_false, List.cons_append, List.nil_append,
        List.map_cons] at hmore
      rw [hmore] at hone
      simpa [htail] using hone

theorem length_le_prettyMembers (indent : Nat) (ms : List (String × Json)) :
    ms.length ≤ (prettyMembers indent ms).length := by
  induction ms with
  | nil => exact Nat.zero_le _
  | cons m ms ih =>
    cases ms with
    | nil => simp [prettyMembers, newline]
    | cons n ms =>
      simp only [prettyMembers, List.length_append, List.length_cons] at ih ⊢
      omega

/-- A body that is the page of a draft is read as the draft. -/
theorem draft_page (d : Draft) : draft (Utf8.encode d.toJson.page) = .ok d := by
  have hfills := fills_members d
  have hnames := d.names_sublist
  rw [draft, Utf8.glyphs_encode, d.toJson_eq]
  generalize d.members = ms at hfills hnames
  cases ms with
  | nil =>
    cases hfills
    rfl
  | cons m ms =>
    have hpage : Glyph.ofString (object (m :: ms)).page = .char '\x7b' ::
        ((prettyMembers 1 (m :: ms)).map .char ++ ((newline 0).map .char ++ [.char '\x7d'])) := by
      simp [Glyph.ofString, page, pretty]
    have hknown : ∀ n ∈ m :: ms, n.1 ∈ Draft.fieldNames := by
      intro n hn
      exact hnames.subset (List.mem_map_of_mem hn)
    have hunseen : ∀ n ∈ m :: ms, n.1 ∉ ([] : List String) := by simp
    have hlength := length_le_prettyMembers 1 (m :: ms)
    have hread := hfills.readMembers_pretty (by simp) hknown (hnames.nodup (by decide)) hunseen
      true 1 0
      (enough ((prettyMembers 1 (m :: ms)).map .char ++ ((newline 0).map .char ++ [.char '\x7d'])))
      [] (by simp only [enough, List.length_append, List.length_map]; omega)
    have hskip := skipGap_cons (g := .char '\x7b') rfl
      ((prettyMembers 1 (m :: ms)).map .char ++ ((newline 0).map .char ++ [.char '\x7d']))
    simp only [comma, if_true, List.nil_append] at hread
    rw [hpage]
    simp only [hskip, hread]

end Members

end Linkshelf.Web.Body

namespace Linkshelf.Draft

/-- A draft is read as it was written, from its record, its page in a file and its page as a body.
From whatever a draft was read, what it is written as makes the same of every stored bookmark. That
is told by the fields as they were sent: an absent one keeps what is stored and a `null` clears it,
while the id and the times are absent for a `null` too. -/
theorem wire_roundTrip :
    (∀ d : Draft, ofJson? d.toJson = some d ∧
      Json.ofBytes (Utf8.encode d.toJson.page) = .ok d.toJson ∧
      Web.Body.draft (Utf8.encode d.toJson.page) = .ok d) ∧
    ∀ v d, ofJson? v = some d → ofJson? d.toJson = some d ∧
      (∀ b : Bookmark, (ofJson? d.toJson).map (·.onto b) = some (d.onto b)) ∧
      ∃ field, v.record? fieldNames = some field ∧ (∀ b, d.onto b = under field b) ∧
        d.id = (field "id").bind Json.string? ∧
        d.createdAt = (field "createdAt").bind Json.string? ∧
        d.updatedAt = (field "updatedAt").bind Json.string? := by
  constructor
  · intro d
    exact ⟨ofJson?_toJson d, Json.ofBytes_page d.fits_toJson (by decide), Web.Body.draft_page d⟩
  · intro v d h
    have hagain := ofJson?_toJson d
    obtain ⟨field, hrecord, hread⟩ := exists_readFrom h
    refine ⟨hagain, fun b => by rw [hagain, Option.map_some], field, hrecord, hread.onto, ?_⟩
    exact ⟨eq_of_keptField hread.id, eq_of_keptField hread.createdAt,
      eq_of_keptField hread.updatedAt⟩

/-- A list of fields with `null` in four places, of which that of the id clears nothing; the times
are absent. -/
theorem wire_roundTrip_nulls :
    ∃ (v : Json) (d : Draft) (b : Bookmark),
      v = .array [.null, .null, .string "https://b", .string "", .null, .null] ∧
      ofJson? v = some d ∧
      d = ⟨none, some "", some "https://b", some "", some "", some (.list []), none, none⟩ ∧
      b = ⟨"a", "then", "now", "A", "https://a", "icon", "text", ["x"]⟩ ∧
      (ofJson? d.toJson).map (·.onto b) = some ⟨some "a", some "", some "https://b", some "",
        some "", some (.list []), some "then", some "now"⟩ := by
  let v : Json := .array [.null, .null, .string "https://b", .string "", .null, .null]
  let d : Draft := ⟨none, some "", some "https://b", some "", some "", some (.list []), none, none⟩
  let b : Bookmark := ⟨"a", "then", "now", "A", "https://a", "icon", "text", ["x"]⟩
  have hread : ofJson? v = some d := by decide +kernel
  obtain ⟨-, hmerge, -⟩ := wire_roundTrip.2 v d hread
  exact ⟨v, d, b, rfl, hread, rfl, rfl, hmerge b⟩

end Linkshelf.Draft
