import Linkshelf.Json.Reader
import Linkshelf.Proofs.Json.Number
import Linkshelf.Proofs.Json.Text
import Linkshelf.Proofs.Text.Utf8

/-! A printed value is read back as it was. -/
namespace Linkshelf.Json

/-- At most so many levels deep, and with numbers below 2^64 only. -/
inductive Fits : Nat → Json → Prop
  | null {d} : Fits d null
  | bool {d} (b : Bool) : Fits d (bool b)
  | natural {d n} : n < Nat.pow 2 64 → Fits d (natural n)
  | string {d} (text : String) : Fits d (string text)
  | array {d items} : (∀ v ∈ items, Fits d v) → Fits (d + 1) (array items)
  | object {d members} : (∀ m ∈ members, Fits d m.2) → Fits (d + 1) (object members)

variable {d depth fuel indent n : Nat} {g : Glyph} {s : List Glyph} {v : Json}

theorem skipGap_cons (h : isGap g = false) (s : List Glyph) : skipGap (g :: s) = g :: s := by
  simp [skipGap, h]

theorem skipGap_newline (n : Nat) (s : List Glyph) :
    skipGap ((newline n).map .char ++ s) = skipGap s := by
  have hgap : ∀ g ∈ (newline n).map Glyph.char, isGap g = true := by
    intro g hg
    obtain ⟨c, hc, rfl⟩ := List.mem_map.mp hg
    rcases List.mem_cons.mp hc with rfl | hc
    · rfl
    · rw [List.eq_of_mem_replicate hc]
      rfl
  exact List.dropWhile_append_of_pos hgap

theorem isGap_digit {c : Char} (h : c.isDigit = true) : isGap (.char c) = false := by
  unfold isGap
  split <;> simp_all

/-- A value starts with no gap, and not as a list ends. -/
theorem Fits.exists_head (h : Fits d v) (indent : Nat) :
    ∃ c cs, pretty indent v = c :: cs ∧ isGap (.char c) = false ∧ c ≠ ']' := by
  cases h with
  | null => exact ⟨'n', ['u', 'l', 'l'], by simp [pretty], by decide, by decide⟩
  | bool b => cases b <;> simp only [pretty] <;> exact ⟨_, _, rfl, by decide, by decide⟩
  | @natural _ n hn =>
    obtain ⟨c, cs, hcs, hc⟩ := exists_digit n
    refine ⟨c, cs, by simp [pretty, hcs], isGap_digit hc, ?_⟩
    rintro rfl
    simp at hc
  | string text => exact ⟨'"', _, by rw [pretty, quote], by decide, by decide⟩
  | @array _ items _ => cases items <;> rw [pretty] <;> exact ⟨_, _, rfl, by decide, by decide⟩
  | @object _ members _ =>
    cases members <;> rw [pretty] <;> exact ⟨_, _, rfl, by decide, by decide⟩

/-- What stands before the gap in front of an item: a comma, except before the first. -/
def comma (isFirst : Bool) : List Char := if isFirst then [] else [',']

theorem followingItem_item {c : Char} (hc : isGap (.char c) = false) (hclose : c ≠ ']')
    (isFirst : Bool) (n : Nat) (s : List Glyph) :
    followingItem isFirst ((comma isFirst ++ newline n).map .char ++ .char c :: s) =
      .ok (.item (.char c :: s)) := by
  have hskip : skipGap ((newline n).map .char ++ .char c :: s) = .char c :: s := by
    rw [skipGap_newline, skipGap_cons hc]
  cases isFirst with
  | true => simp [comma, followingItem, hskip, hclose]
  | false =>
    have hcomma := skipGap_cons (g := .char ',') rfl ((newline n).map .char ++ .char c :: s)
    simp [comma, followingItem, hcomma, hskip, hclose]

theorem followingItem_close (isFirst : Bool) (n : Nat) (s : List Glyph) :
    followingItem isFirst ((newline n).map .char ++ .char ']' :: s) = .ok (.close s) := by
  have hskip := skipGap_cons (g := .char ']') rfl s
  simp [followingItem, skipGap_newline, hskip]

theorem followingMember_item (isFirst : Bool) (n : Nat) (s : List Glyph) :
    followingMember isFirst ((comma isFirst ++ newline n).map .char ++ .char '"' :: s) =
      .ok (.item s) := by
  have hskip : skipGap ((newline n).map .char ++ .char '"' :: s) = .char '"' :: s := by
    rw [skipGap_newline, skipGap_cons rfl]
  cases isFirst with
  | true => simp [comma, followingMember, hskip]
  | false =>
    have hcomma := skipGap_cons (g := .char ',') rfl ((newline n).map .char ++ .char '"' :: s)
    simp [comma, followingMember, hcomma, hskip]

theorem followingMember_close (isFirst : Bool) (n : Nat) (s : List Glyph) :
    followingMember isFirst ((newline n).map .char ++ .char '\x7d' :: s) = .ok (.close s) := by
  have hskip := skipGap_cons (g := .char '\x7d') rfl s
  simp [followingMember, skipGap_newline, hskip]

theorem endsNumber_newline (n : Nat) (s : List Glyph) :
    EndsNumber ((newline n).map .char ++ s) := by
  intro g hg
  obtain rfl : .char '\n' = g := by simpa [newline] using hg
  decide

theorem endsNumber_comma (s : List Glyph) : EndsNumber (.char ',' :: s) := by
  intro g hg
  obtain rfl : .char ',' = g := by simpa using hg
  decide

/-- What reading does with the value, wherever it is printed and whatever follows. -/
def ReadsBack (depth : Nat) (v : Json) : Prop :=
  ∀ indent fuel s, (pretty indent v).length ≤ fuel → EndsNumber s →
    readValue false depth fuel ((pretty indent v).map .char ++ s) = .ok (v, s)

/-- One item, and then the others. -/
theorem readItems_step (hfits : Fits d v) (hread : ReadsBack depth v) (isFirst : Bool)
    (indent fuel : Nat) (s : List Glyph) (hfuel : (pretty indent v).length ≤ fuel)
    (hs : EndsNumber s) :
    readItems false depth isFirst (fuel + 1)
        ((comma isFirst ++ newline indent).map .char ++ ((pretty indent v).map .char ++ s)) =
      (readItems false depth false fuel s).map fun (vs, s) => (v :: vs, s) := by
  obtain ⟨c, cs, hcs, hgap, hclose⟩ := hfits.exists_head indent
  have hv := hread indent fuel s hfuel hs
  have hitem := followingItem_item hgap hclose isFirst indent (cs.map .char ++ s)
  simp only [hcs, List.map_cons, List.cons_append] at hv ⊢
  rw [readItems, hitem]
  simp only [hv]

theorem readItems_pretty {items : List Json} (hne : items ≠ [])
    (hfits : ∀ v ∈ items, Fits d v) (hread : ∀ v ∈ items, ReadsBack depth v)
    (isFirst : Bool) (indent last fuel : Nat) (s : List Glyph)
    (hfuel : (prettyItems indent items).length ≤ fuel) :
    readItems false depth isFirst fuel ((comma isFirst ++ prettyItems indent items).map .char ++
        ((newline last).map .char ++ .char ']' :: s)) = .ok (items, s) := by
  induction items generalizing isFirst fuel with
  | nil => exact absurd rfl hne
  | cons v vs ih =>
    have hv := hfits v (by simp)
    have hstep := readItems_step hv (hread v (by simp)) isFirst indent
    obtain ⟨c, cs, hcs, -⟩ := hv.exists_head indent
    have hpos : 0 < (pretty indent v).length := by simp [hcs]
    have hline : 0 < (newline indent).length := by simp [newline]
    cases vs with
    | nil =>
      simp only [prettyItems, List.length_append] at hfuel
      obtain ⟨rest, rfl⟩ := Nat.exists_eq_add_of_le' (show 2 ≤ fuel by omega)
      have hclose : readItems false depth false (rest + 1)
          ((newline last).map .char ++ .char ']' :: s) = .ok ([], s) := by
        rw [readItems, followingItem_close]
      have hone := hstep (rest + 1) ((newline last).map .char ++ .char ']' :: s) (by omega)
        (endsNumber_newline last _)
      rw [hclose] at hone
      simpa [prettyItems, Except.map] using hone
    | cons w vs =>
      have htail : prettyItems indent (v :: w :: vs) =
          newline indent ++ pretty indent v ++ ',' :: prettyItems indent (w :: vs) := by
        simp [prettyItems]
      simp only [htail, List.length_append, List.length_cons] at hfuel
      obtain ⟨rest, rfl⟩ := Nat.exists_eq_add_of_le' (show 1 ≤ fuel by omega)
      have hmore := ih (by simp) (fun x hx => hfits x (by simp [hx]))
        (fun x hx => hread x (by simp [hx])) false rest (by omega)
      have hone := hstep rest _ (by omega) (endsNumber_comma
        ((prettyItems indent (w :: vs)).map .char ++ ((newline last).map .char ++ .char ']' :: s)))
      simp only [comma, Bool.false_eq_true, if_false, List.cons_append, List.nil_append,
        List.map_cons] at hmore
      rw [hmore] at hone
      simpa [htail, Except.map] using hone

theorem readValue_blank (depth fuel : Nat) (s : List Glyph) :
    readValue false depth (fuel + 1) (.char ' ' :: s) = readValue false depth (fuel + 1) s := by
  have hskip : skipGap (.char ' ' :: s) = skipGap s := by simp [skipGap, isGap]
  rw [readValue, readValue, hskip]

theorem readColon_char (s : List Glyph) : readColon (.char ':' :: s) = .ok s := by
  have hskip := skipGap_cons (g := .char ':') rfl s
  simp [readColon, hskip]

/-- One member, and then the others. -/
theorem readMembers_step (hread : ReadsBack depth v) (isFirst : Bool) (key : String)
    (indent fuel : Nat) (s : List Glyph) (hfuel : (pretty indent v).length ≤ fuel)
    (hpos : 0 < fuel) (hs : EndsNumber s) :
    readMembers false depth isFirst (fuel + 1)
        ((comma isFirst ++ newline indent).map .char ++ ((quote key).map .char ++
          (.char ':' :: .char ' ' :: ((pretty indent v).map .char ++ s)))) =
      (readMembers false depth false fuel s).map fun (ms, s) => ((key, v) :: ms, s) := by
  obtain ⟨body, hbody, hkey⟩ := readString_quote key
    (.char ':' :: .char ' ' :: ((pretty indent v).map .char ++ s))
  obtain ⟨rest, rfl⟩ := Nat.exists_eq_add_of_le' (show 1 ≤ fuel by omega)
  have hv := hread indent (rest + 1) s hfuel hs
  rw [hbody, readMembers, followingMember_item]
  simp only [hkey, readColon_char, readValue_blank, hv]

theorem readMembers_pretty {members : List (String × Json)} (hne : members ≠ [])
    (hfits : ∀ m ∈ members, Fits d m.2) (hread : ∀ m ∈ members, ReadsBack depth m.2)
    (isFirst : Bool) (indent last fuel : Nat) (s : List Glyph)
    (hfuel : (prettyMembers indent members).length ≤ fuel) :
    readMembers false depth isFirst fuel
        ((comma isFirst ++ prettyMembers indent members).map .char ++
          ((newline last).map .char ++ .char '\x7d' :: s)) = .ok (members, s) := by
  induction members generalizing isFirst fuel with
  | nil => exact absurd rfl hne
  | cons m ms ih =>
    obtain ⟨key, v⟩ := m
    have hv : ReadsBack depth v := hread (key, v) (by simp)
    have hstep := readMembers_step hv isFirst key indent
    have hline : 0 < (newline indent).length := by simp [newline]
    cases ms with
    | nil =>
      simp only [prettyMembers, List.length_append, List.length_cons] at hfuel
      obtain ⟨rest, rfl⟩ := Nat.exists_eq_add_of_le' (show 2 ≤ fuel by omega)
      have hclose : readMembers false depth false (rest + 1)
          ((newline last).map .char ++ .char '\x7d' :: s) = .ok ([], s) := by
        rw [readMembers, followingMember_close]
      have hone := hstep (rest + 1) ((newline last).map .char ++ .char '\x7d' :: s) (by omega)
        (by omega) (endsNumber_newline last _)
      rw [hclose] at hone
      simpa [prettyMembers, Except.map] using hone
    | cons w ms =>
      have htail : prettyMembers indent ((key, v) :: w :: ms) =
          newline indent ++ quote key ++ ':' :: ' ' ::
            (pretty indent v ++ ',' :: prettyMembers indent (w :: ms)) := by
        simp [prettyMembers]
      simp only [htail, List.length_append, List.length_cons] at hfuel
      obtain ⟨rest, rfl⟩ := Nat.exists_eq_add_of_le' (show 1 ≤ fuel by omega)
      have hmore := ih (by simp) (fun x hx => hfits x (by simp [hx]))
        (fun x hx => hread x (by simp [hx])) false rest (by omega)
      have hone := hstep rest _ (by omega) (by omega) (endsNumber_comma
        ((prettyMembers indent (w :: ms)).map .char ++
          ((newline last).map .char ++ .char '\x7d' :: s)))
      simp only [comma, Bool.false_eq_true, if_false, List.cons_append, List.nil_append,
        List.map_cons] at hmore
      rw [hmore] at hone
      simpa [htail, Except.map] using hone

theorem readValue_digit {c : Char} (hc : c.isDigit = true) (depth fuel : Nat) (s : List Glyph) :
    readValue false depth (fuel + 1) (.char c :: s) = readNumber false false (.char c :: s) := by
  have hne (x : Char) (hx : x.isDigit = false) : c ≠ x := by
    rintro rfl
    simp [hc] at hx
  have hdigit : (digit? (.char c)).isSome = true := by simp [digit?, hc]
  simp [readValue, skipGap_cons (isGap_digit hc), hne 'n' rfl, hne 't' rfl, hne 'f' rfl,
    hne '"' rfl, hne '-' rfl, hne '[' rfl, hne '\x7b' rfl, hdigit]

theorem readsBack_keyword {v : Json} {text : List Char} (hp : ∀ indent, pretty indent v = text)
    (hpos : 0 < text.length)
    (hread : ∀ depth fuel s, readValue false depth (fuel + 1) (text.map .char ++ s) = .ok (v, s)) :
    ReadsBack depth v := by
  intro indent fuel s hfuel _
  rw [hp] at hfuel ⊢
  obtain ⟨rest, rfl⟩ := Nat.exists_eq_add_of_le' (show 1 ≤ fuel by omega)
  exact hread depth rest s

theorem readsBack_natural (hn : n < Nat.pow 2 64) (depth : Nat) : ReadsBack depth (natural n) := by
  intro indent fuel s hfuel hs
  obtain ⟨c, cs, hcs, hc⟩ := exists_digit n
  have hnum := readNumber_natural hn hs
  simp only [pretty, Nat.toString_eq_repr, Nat.toList_repr, hcs, List.length_cons, List.map_cons,
    List.cons_append] at hfuel hnum ⊢
  obtain ⟨rest, rfl⟩ := Nat.exists_eq_add_of_le' (show 1 ≤ fuel by omega)
  rw [readValue_digit hc, hnum]

theorem readsBack_string (text : String) (depth : Nat) : ReadsBack depth (string text) := by
  intro indent fuel s hfuel _
  obtain ⟨body, hbody, hread⟩ := readString_quote text s
  simp only [pretty, quote, List.length_cons] at hfuel
  obtain ⟨rest, rfl⟩ := Nat.exists_eq_add_of_le' (show 1 ≤ fuel by omega)
  have hskip := skipGap_cons (g := .char '"') rfl body
  rw [pretty, hbody]
  simp [readValue, hskip, hread, Except.map]

theorem readsBack_array {items : List Json} (hfits : ∀ v ∈ items, Fits d v) (hdepth : 1 < depth)
    (hread : ∀ v ∈ items, ReadsBack (depth - 1) v) : ReadsBack depth (array items) := by
  intro indent fuel s hfuel _
  have hlevel : ¬ depth ≤ 1 := by omega
  cases items with
  | nil =>
    simp only [pretty, List.length_cons] at hfuel
    obtain ⟨rest, rfl⟩ := Nat.exists_eq_add_of_le' (show 2 ≤ fuel by omega)
    simp [pretty, readValue, skipGap, isGap, hlevel, readItems, followingItem, Except.map]
  | cons v vs =>
    simp only [pretty, List.length_cons, List.length_append] at hfuel
    obtain ⟨rest, rfl⟩ := Nat.exists_eq_add_of_le' (show 1 ≤ fuel by omega)
    have hitems := readItems_pretty (by simp) hfits hread true (indent + 1) indent rest s (by omega)
    have hskip := skipGap_cons (g := .char '[') rfl
      ((prettyItems (indent + 1) (v :: vs)).map .char ++
        ((newline indent).map .char ++ .char ']' :: s))
    simp only [comma, if_true, List.nil_append] at hitems
    simp [pretty, readValue, hskip, hlevel, hitems, Except.map]

theorem readsBack_object {members : List (String × Json)} (hfits : ∀ m ∈ members, Fits d m.2)
    (hdepth : 1 < depth) (hread : ∀ m ∈ members, ReadsBack (depth - 1) m.2) :
    ReadsBack depth (object members) := by
  intro indent fuel s hfuel _
  have hlevel : ¬ depth ≤ 1 := by omega
  cases members with
  | nil =>
    simp only [pretty, List.length_cons] at hfuel
    obtain ⟨rest, rfl⟩ := Nat.exists_eq_add_of_le' (show 2 ≤ fuel by omega)
    simp [pretty, readValue, skipGap, isGap, hlevel, readMembers, followingMember, Except.map]
  | cons m ms =>
    simp only [pretty, List.length_cons, List.length_append] at hfuel
    obtain ⟨rest, rfl⟩ := Nat.exists_eq_add_of_le' (show 1 ≤ fuel by omega)
    have hmembers :=
      readMembers_pretty (by simp) hfits hread true (indent + 1) indent rest s (by omega)
    have hskip := skipGap_cons (g := .char '\x7b') rfl
      ((prettyMembers (indent + 1) (m :: ms)).map .char ++
        ((newline indent).map .char ++ .char '\x7d' :: s))
    simp only [comma, if_true, List.nil_append] at hmembers
    simp [pretty, readValue, hskip, hlevel, hmembers, Except.map]

/-- A value is read back where more levels may open than it has. -/
theorem Fits.readsBack (h : Fits d v) : ∀ depth, d < depth → ReadsBack depth v := by
  induction h with
  | null =>
    intro depth _
    refine readsBack_keyword (fun _ => by rw [pretty]) (by decide) fun depth fuel s => ?_
    simp [readValue, skipGap, isGap, readKeyword, Except.map]
  | bool b =>
    intro depth _
    refine readsBack_keyword (fun _ => by rw [pretty]) (by cases b <;> decide) ?_
    intro depth fuel s
    cases b <;> simp [readValue, skipGap, isGap, readKeyword, Except.map]
  | natural hn =>
    intro depth _
    exact readsBack_natural hn depth
  | string text =>
    intro depth _
    exact readsBack_string text depth
  | array hfits ih =>
    intro depth hdepth
    exact readsBack_array hfits (by omega) fun x hx => ih x hx (depth - 1) (by omega)
  | object hfits ih =>
    intro depth hdepth
    exact readsBack_object hfits (by omega) fun x hx => ih x hx (depth - 1) (by omega)

/-- A value that is not too deep is what its page is read as. -/
theorem ofBytes_page (h : Fits d v) (hd : d < maxDepth) : ofBytes (Utf8.encode v.page) = .ok v := by
  have hread := h.readsBack maxDepth hd 0 (enough (Glyph.ofString v.page)) []
    (by simp [enough, Glyph.ofString, page]; omega) (by simp [EndsNumber])
  have hpage : Glyph.ofString v.page = (pretty 0 v).map .char := by simp [Glyph.ofString, page]
  rw [hpage, List.append_nil] at hread
  rw [ofBytes, Utf8.glyphs_encode, hpage, read, readFirst, hread]
  rfl

end Linkshelf.Json
