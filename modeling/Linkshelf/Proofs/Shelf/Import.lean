import Linkshelf.Proofs.Bookmark.Ids
import Linkshelf.Shelf

/-! What an import takes in, and the ids it gives: those that the items ask for, and new ones for
the other items. -/
namespace Linkshelf.Shelf

variable {b : Bookmark} {id : String} {u : Supply} {draft : Draft} {k : Nat} {items : List Json}

/-- What an import takes from an item, if it takes it in. -/
def taken? (v : Json) : Option (Draft × CheckedFields) :=
  match if v.isObject then Draft.ofJson? v else none with
  | none => none
  | some draft =>
    match draft.check false with
    | .error _ => none
    | .ok fields => some (draft, fields)

theorem check_of_taken? {v : Json} {fields : CheckedFields} (h : taken? v = some (draft, fields)) :
    draft.check false = .ok fields := by
  rw [taken?] at h
  split at h
  · cases h
  · split at h
    · cases h
    · next hcheck =>
      obtain ⟨rfl, rfl⟩ := Prod.mk.inj (Option.some.inj h)
      exact hcheck

/-- The ids that the items taken in ask for. -/
def askedIds (items : List Json) : List String :=
  items.filterMap fun v => (taken? v).bind (·.1.cleanId)

theorem importedFrom_cons (u : Supply) (k : Nat) (v : Json) (items : List Json) :
    importedFrom u k (v :: items) =
      match taken? v with
      | none => importedFrom u k items
      | some (draft, fields) => imported u k draft fields ::
          importedFrom u (if draft.cleanId.isSome then k else k + 1) items := by
  cases hdraft : if v.isObject then Draft.ofJson? v else none with
  | none => simp only [importedFrom, taken?, hdraft]
  | some draft =>
    cases hcheck : draft.check false <;> simp only [importedFrom, taken?, hdraft, hcheck]

/-- What an import brings in it took from one of the items. -/
theorem exists_taken_of_mem_importedFrom (h : b ∈ importedFrom u k items) :
    ∃ v ∈ items, ∃ j draft fields, taken? v = some (draft, fields) ∧ b = imported u j draft fields := by
  induction items generalizing k with
  | nil => simp [importedFrom] at h
  | cons v items ih =>
    have hrest {k : Nat} (h : b ∈ importedFrom u k items) :
        ∃ w ∈ v :: items, ∃ j draft fields, taken? w = some (draft, fields) ∧
          b = imported u j draft fields := by
      obtain ⟨w, hw, hfrom⟩ := ih h
      exact ⟨w, List.mem_cons_of_mem v hw, hfrom⟩
    rw [importedFrom_cons] at h
    cases htaken : taken? v with
    | none => exact hrest (by simpa [htaken] using h)
    | some t =>
      obtain ⟨draft, fields⟩ := t
      simp only [htaken, List.mem_cons] at h
      rcases h with hb | hmem
      · exact ⟨v, List.mem_cons_self, k, draft, fields, htaken, hb⟩
      · exact hrest hmem

theorem mem_importedFrom (h : b ∈ importedFrom u k items) :
    ∃ j draft fields, draft.check false = .ok fields ∧ b = imported u j draft fields := by
  obtain ⟨v, -, j, draft, fields, htaken, hb⟩ := exists_taken_of_mem_importedFrom h
  exact ⟨j, draft, fields, check_of_taken? htaken, hb⟩

theorem askedIds_cons (v : Json) (items : List Json) :
    askedIds (v :: items) =
      match (taken? v).bind (·.1.cleanId) with
      | none => askedIds items
      | some id => id :: askedIds items := by
  simp only [askedIds, List.filterMap_cons]
  cases (taken? v).bind (·.1.cleanId) <;> rfl

theorem id_imported (u : Supply) (k : Nat) (draft : Draft) (fields : CheckedFields) :
    (imported u k draft fields).id = draft.cleanId.getD (u.newId k) := by
  rw [imported, id_toBookmark]

theorem id_imported_of_asked (h : draft.cleanId = some id) (u : Supply) (k : Nat)
    (fields : CheckedFields) : (imported u k draft fields).id = id := by
  rw [id_imported, h, Option.getD_some]

theorem id_imported_of_unasked (h : draft.cleanId = none) (u : Supply) (k : Nat)
    (fields : CheckedFields) : (imported u k draft fields).id = u.newId k := by
  rw [id_imported, h, Option.getD_none]

/-- An imported bookmark has an id that was asked for or one of the new ones still at hand. -/
theorem id_of_mem_importedFrom (h : b ∈ importedFrom u k items) :
    b.id ∈ askedIds items ∨ ∃ j, k ≤ j ∧ b.id = u.newId j := by
  induction items generalizing k with
  | nil => simp [importedFrom] at h
  | cons v items ih =>
    rw [importedFrom_cons] at h
    rw [askedIds_cons]
    cases htaken : taken? v with
    | none => simpa [htaken] using ih (by simpa [htaken] using h)
    | some t =>
      obtain ⟨draft, fields⟩ := t
      simp only [htaken, List.mem_cons] at h
      cases hid : draft.cleanId with
      | none =>
        simp only [Option.bind_some, hid]
        rcases h with rfl | h
        · exact Or.inr ⟨k, Nat.le_refl k, id_imported_of_unasked hid u k fields⟩
        · rcases ih h with hasked | ⟨j, hj, hnew⟩
          · exact Or.inl hasked
          · exact Or.inr ⟨j, by simp [hid] at hj; omega, hnew⟩
      | some id =>
        simp only [Option.bind_some, hid, List.mem_cons]
        rcases h with rfl | h
        · exact Or.inl (Or.inl (id_imported_of_asked hid u k fields))
        · rcases ih h with hasked | ⟨j, hj, hnew⟩
          · exact Or.inl (Or.inr hasked)
          · exact Or.inr ⟨j, by simpa [hid] using hj, hnew⟩

theorem exists_mem_importedFrom (h : id ∈ askedIds items) (u : Supply) (k : Nat) :
    ∃ b ∈ importedFrom u k items, b.id = id := by
  induction items generalizing k with
  | nil => simp [askedIds] at h
  | cons v items ih =>
    rw [askedIds_cons] at h
    rw [importedFrom_cons]
    cases htaken : taken? v with
    | none => exact ih (by simpa [htaken] using h) k
    | some t =>
      obtain ⟨draft, fields⟩ := t
      have hrest (h : id ∈ askedIds items) :
          ∃ b ∈ imported u k draft fields ::
            importedFrom u (if draft.cleanId.isSome then k else k + 1) items, b.id = id := by
        obtain ⟨b, hb, hid⟩ := ih h (if draft.cleanId.isSome then k else k + 1)
        exact ⟨b, List.mem_cons_of_mem _ hb, hid⟩
      cases hclean : draft.cleanId with
      | none => simpa [hclean] using hrest (by simpa [htaken, hclean] using h)
      | some asked =>
        simp only [htaken, Option.bind_some, hclean, List.mem_cons] at h
        rcases h with rfl | h
        · exact ⟨_, List.mem_cons_self, id_imported_of_asked hclean u k fields⟩
        · simpa [hclean] using hrest h

/-- The new ids of an import are those from the number at hand on. -/
theorem newId_notMem_importedFrom {j k : Nat} (hinjective : Function.Injective u.newId)
    (hunasked : u.newId j ∉ askedIds items) (hjk : j < k) :
    u.newId j ∉ (importedFrom u k items).map (·.id) := by
  intro hmem
  obtain ⟨b, hb, hid⟩ := List.mem_map.mp hmem
  rcases id_of_mem_importedFrom hb with hasked | ⟨i, hi, hnewId⟩
  · exact hunasked (hid ▸ hasked)
  · have hij := hinjective (hid.symm.trans hnewId)
    omega

/-- An id that is not a new one comes with an import just when it is asked for. -/
theorem mem_ids_importedFrom_iff (hnew : ∀ j, u.newId j ≠ id) (k : Nat) :
    id ∈ (importedFrom u k items).map (·.id) ↔ id ∈ askedIds items := by
  constructor
  · intro hmem
    obtain ⟨b, hb, hid⟩ := List.mem_map.mp hmem
    rcases id_of_mem_importedFrom hb with hasked | ⟨j, -, hnewId⟩
    · exact hid ▸ hasked
    · exact (hnew j (hnewId.symm.trans hid)).elim
  · intro hasked
    obtain ⟨b, hb, hid⟩ := exists_mem_importedFrom hasked u k
    exact List.mem_map.mpr ⟨b, hb, hid⟩

/-- With new ids that differ from each other and from all that is asked for, the ids of an import
are distinct when those asked for are. -/
theorem nodup_importedFrom_iff (hinjective : Function.Injective u.newId)
    (hunasked : ∀ j, u.newId j ∉ askedIds items) (k : Nat) :
    ((importedFrom u k items).map (·.id)).Nodup ↔ (askedIds items).Nodup := by
  induction items generalizing k with
  | nil => simp [importedFrom, askedIds]
  | cons v items ih =>
    rw [askedIds_cons] at hunasked ⊢
    rw [importedFrom_cons]
    cases htaken : taken? v with
    | none =>
      simp only [htaken, Option.bind_none] at hunasked
      simpa [htaken] using ih hunasked k
    | some t =>
      obtain ⟨draft, fields⟩ := t
      cases hclean : draft.cleanId with
      | none =>
        simp only [htaken, Option.bind_some, hclean] at hunasked
        -- The new id is taken from those at hand, and none of the others is as early.
        have hnew := newId_notMem_importedFrom hinjective (hunasked k) (Nat.lt_succ_self k)
        simp only [Option.bind_some, hclean, Option.isSome_none, Bool.false_eq_true, if_false,
          List.map_cons, List.nodup_cons, id_imported_of_unasked hclean]
        rw [ih hunasked (k + 1)]
        exact ⟨fun h => h.2, fun h => ⟨hnew, h⟩⟩
      | some asked =>
        simp only [htaken, Option.bind_some, hclean, List.mem_cons, not_or] at hunasked
        have hsame : asked ∈ (importedFrom u k items).map (·.id) ↔ asked ∈ askedIds items :=
          mem_ids_importedFrom_iff (fun j => (hunasked j).1) k
        simp only [Option.bind_some, hclean, Option.isSome_some, if_true, List.map_cons,
          List.nodup_cons, id_imported_of_asked hclean]
        rw [ih (fun j => (hunasked j).2) k, hsame]

theorem cleanId_ne_empty (h : draft.cleanId = some id) : id ≠ "" := by
  rw [Draft.cleanId] at h
  split at h
  · cases h
  · next hne =>
    obtain rfl := Option.some.inj h
    simpa using hne

theorem getD_cleanId_ne_empty (h : ∀ k, u.newId k ≠ "") (draft : Draft) (k : Nat) :
    draft.cleanId.getD (u.newId k) ≠ "" := by
  cases hid : draft.cleanId with
  | none => exact h k
  | some id => exact cleanId_ne_empty hid

end Linkshelf.Shelf
