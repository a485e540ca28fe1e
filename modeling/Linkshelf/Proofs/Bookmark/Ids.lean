import Mathlib.Data.List.Nodup
import Linkshelf.Bookmark.Draft

/-! Bookmarks in a list with distinct ids: an id finds, changes and removes the one that has it. -/
namespace Linkshelf

@[simp] theorem id_toBookmark (f : CheckedFields) (id createdAt updatedAt : String) :
    (f.toBookmark id createdAt updatedAt).id = id := rfl

variable {bs : List Bookmark} {b c : Bookmark} {id : String} {i : Nat}

theorem nodup_ids_cons :
    ((c :: bs).map (·.id)).Nodup ↔ (∀ x ∈ bs, x.id ≠ c.id) ∧ (bs.map (·.id)).Nodup := by
  simp

theorem find?_id_of_mem (h : (bs.map (·.id)).Nodup) (hb : b ∈ bs) :
    bs.find? (·.id == b.id) = some b := by
  induction bs with
  | nil => simp at hb
  | cons c bs ih =>
    obtain ⟨hc, hbs⟩ := nodup_ids_cons.mp h
    rcases List.mem_cons.mp hb with rfl | hb
    · simp
    · have hne : c.id ≠ b.id := (hc b hb).symm
      simpa [hne] using ih hbs hb

/-- Setting the first bookmark with an id changes the one bookmark that has it. -/
theorem set_findIdx?_eq_map (h : (bs.map (·.id)).Nodup) (hi : bs.findIdx? (·.id == id) = some i)
    (b : Bookmark) : bs.set i b = bs.map fun x => if x.id = id then b else x := by
  induction bs generalizing i with
  | nil => simp at hi
  | cons c bs ih =>
    obtain ⟨hc, hbs⟩ := nodup_ids_cons.mp h
    rw [List.findIdx?_cons] at hi
    split at hi
    · next hid =>
      obtain rfl := Option.some.inj hi
      have hcid : c.id = id := by simpa using hid
      have hrest : bs.map (fun x => if x.id = id then b else x) = bs :=
        (List.map_congr_left fun x hx => if_neg (hcid ▸ hc x hx)).trans (List.map_id _)
      rw [List.set_cons_zero, List.map_cons, if_pos hcid, hrest]
    · next hid =>
      obtain ⟨j, hj, rfl⟩ := Option.map_eq_some_iff.mp hi
      have hcid : c.id ≠ id := by simpa using hid
      rw [List.set_cons_succ, List.map_cons, if_neg hcid, ih hbs hj]

theorem find?_set_findIdx? (hi : bs.findIdx? (·.id == id) = some i) (hb : b.id = id) :
    (bs.set i b).find? (·.id == id) = some b := by
  induction bs generalizing i with
  | nil => simp at hi
  | cons c bs ih =>
    rw [List.findIdx?_cons] at hi
    split at hi
    · obtain rfl := Option.some.inj hi
      simp [hb]
    · next hid =>
      obtain ⟨j, hj, rfl⟩ := Option.map_eq_some_iff.mp hi
      have hcid : c.id ≠ id := by simpa using hid
      simpa [hcid] using ih hj

theorem eraseP_id_eq_filter (h : (bs.map (·.id)).Nodup) (id : String) :
    bs.eraseP (·.id == id) = bs.filter (·.id != id) := by
  induction bs with
  | nil => rfl
  | cons c bs ih =>
    obtain ⟨hc, hbs⟩ := nodup_ids_cons.mp h
    by_cases hid : c.id = id
    · have hrest : bs.filter (·.id != id) = bs := by
        refine List.filter_eq_self.mpr fun x hx => ?_
        simpa [hid] using hc x hx
      simp [hid, hrest]
    · simp [hid, ih hbs]

end Linkshelf
