import Mathlib.Data.List.Basic
import Linkshelf.Disk.Replace

/-! What replacing a file does to the disk, when it succeeds and when it fails. -/
namespace Linkshelf.Disk

variable {d after : Disk} {p q base : Place} {n : Node} {path mark ident name : String}
  {names : List String} {content : Bytes} {e : DiskError}

theorem lookup_filter_ne (h : q ≠ p) (nodes : List (Place × Node)) :
    (nodes.filter (·.1 != p)).lookup q = nodes.lookup q := by
  induction nodes with
  | nil => rfl
  | cons m nodes ih =>
    obtain ⟨r, n⟩ := m
    by_cases hr : r = p
    · subst r
      have hqp : (q == p) = false := by simpa using h
      simpa [List.lookup_cons, hqp] using ih
    · simp [hr, List.lookup_cons, ih]

theorem node?_root (d : Disk) : d.node? [] = some .folder := by simp [node?]

theorem node?_erase_of_ne (h : q ≠ p) (d : Disk) : (d.erase p).node? q = d.node? q := by
  simp [node?, erase, lookup_filter_ne h]

theorem node?_insert_of_ne (h : q ≠ p) (d : Disk) (n : Node) :
    (d.insert p n).node? q = d.node? q := by
  have hqp : (q == p) = false := by simpa using h
  simp [node?, insert, erase, List.lookup_cons, hqp, lookup_filter_ne h]

theorem node?_insert_self (hp : p ≠ []) (d : Disk) (n : Node) :
    (d.insert p n).node? p = some n := by
  simp [node?, insert, hp]

/-- A file does not come in the way of the folders that are there. -/
theorem folder_insert_file (hp : d.node? p ≠ some .folder) (content : Bytes) (r : Place) :
    (d.insert p (.file content)).node? r = some .folder ↔ d.node? r = some .folder := by
  have hroot : p ≠ [] := by
    rintro rfl
    exact hp d.node?_root
  by_cases hr : r = p
  · subst r
    simp [node?_insert_self hroot, hp]
  · rw [node?_insert_of_ne hr]

theorem node?_erase_self (hp : p ≠ []) (d : Disk) : (d.erase p).node? p = none := by
  rw [node?, if_neg hp, List.lookup_eq_none_iff]
  intro m hm
  have hne : m.1 ≠ p := by simpa using (List.mem_filter.mp hm).2
  simpa using hne.symm

theorem folder_erase (hp : d.node? p ≠ some .folder) (r : Place) :
    (d.erase p).node? r = some .folder ↔ d.node? r = some .folder := by
  have hroot : p ≠ [] := by
    rintro rfl
    exact hp d.node?_root
  by_cases hr : r = p
  · subst r
    simp [node?_erase_self hroot, hp]
  · rw [node?_erase_of_ne hr]

theorem step_eq_ok (h : d.step p name = .ok q) : d.node? p = some .folder := by
  unfold step at h
  split at h <;> simp_all

theorem step_congr (h : d.node? p = after.node? p) (name : String) :
    d.step p name = after.step p name := by
  simp only [step, h]

/-- A way leads through folders only, so it is there as long as they are. -/
theorem follow_of_folders (h : ∀ r, d.node? r = some .folder → after.node? r = some .folder)
    (hf : d.follow p names = .ok q) : after.follow p names = .ok q := by
  induction names generalizing p with
  | nil => exact hf
  | cons name names ih =>
    cases hs : d.step p name with
    | error e => simp [follow, hs] at hf
    | ok r =>
      have hfolder := step_eq_ok hs
      have hafter : after.step p name = .ok r := by
        rw [← step_congr (hfolder.trans (h p hfolder).symm), hs]
      simp only [follow, hs] at hf
      simpa only [follow, hafter] using ih hf

theorem locate_of_folders (h : ∀ r, d.node? r = some .folder → after.node? r = some .folder)
    (hl : d.locate base path = .ok p) : after.locate base path = .ok p := by
  by_cases hnul : path.toList.contains '\x00' = true
  · simp only [locate, hnul, if_true] at hl
    cases hl
  · simp only [locate, hnul, if_false, Bool.false_eq_true] at hl ⊢
    exact follow_of_folders h hl

theorem goal_eq_ok (h : d.goal base ident = .ok p) :
    d.locate base ident = .ok p ∧ d.node? p ≠ some .folder := by
  unfold goal at h
  split at h
  iterate 3 cases h
  split at h
  · cases h
  · next r hl =>
    split at h
    · cases h
    · next hn =>
      obtain rfl : r = p := by simpa using h
      exact ⟨hl, hn⟩

theorem write_eq_ok (h : d.write base path content = .ok after) :
    ∃ p, d.locate base path = .ok p ∧ d.node? p ≠ some .folder ∧
      after = d.insert p (.file content) := by
  unfold write at h
  split at h
  · cases h
  · next p hl =>
    split at h
    · cases h
    · next hn =>
      obtain rfl : d.insert p (.file content) = after := by simpa using h
      exact ⟨p, hl, hn, rfl⟩

/-- A replacement fails with the disk as it was, or with the temporary file left on it, or it
succeeds. -/
theorem replace_cases (d : Disk) (mark : String) (base : Place) (ident : String) (content : Bytes) :
    (∃ e, d.replace mark base ident content = (.error e, d)) ∨
    ∃ source, d.locate base (temporaryName mark ident) = .ok source ∧
      d.node? source ≠ some .folder ∧
      ((∃ e, d.replace mark base ident content = (.error e, d.insert source (.file content))) ∨
      ∃ p, (d.insert source (.file content)).locate base ident = .ok p ∧
        (d.insert source (.file content)).node? p ≠ some .folder ∧
        d.replace mark base ident content =
          (.ok (), ((d.insert source (.file content)).erase source).insert p (.file content))) := by
  cases hl : d.locate base (temporaryName mark ident) with
  | error e => exact Or.inl ⟨e, by simp [replace, hl]⟩
  | ok source =>
    cases hw : d.write base (temporaryName mark ident) content with
    | error e => exact Or.inl ⟨e, by simp [replace, hl, hw]⟩
    | ok written =>
      obtain ⟨r, hr, hfolder, rfl⟩ := write_eq_ok hw
      obtain rfl : source = r := by simpa [hl] using hr
      refine Or.inr ⟨source, rfl, hfolder, ?_⟩
      cases hg : (d.insert source (.file content)).goal base ident with
      | error e => exact Or.inl ⟨e, by simp [replace, hl, hw, hg]⟩
      | ok p =>
        obtain ⟨hp, hn⟩ := goal_eq_ok hg
        exact Or.inr ⟨p, hp, hn, by simp [replace, hl, hw, hg]⟩

/-- After a replacement the file is found and holds the new content. -/
theorem find_replace (h : d.replace mark base ident content = (.ok (), after)) :
    after.find base ident = .ok (.file content) := by
  rcases replace_cases d mark base ident content with
    ⟨e, he⟩ | ⟨source, -, hsource, ⟨e, he⟩ | ⟨p, hl, hn, hok⟩⟩
  · simp [he] at h
  · simp [he] at h
  · obtain rfl :
        ((d.insert source (.file content)).erase source).insert p (.file content) = after := by
      simpa [hok] using h
    have hp : p ≠ [] := by
      rintro rfl
      exact hn (node?_root _)
    -- Neither file was a folder, so the way that led to the goal still leads there.
    have hfile : (d.insert source (.file content)).node? source ≠ some .folder := fun hfolder =>
      hsource ((folder_insert_file hsource content source).mp hfolder)
    have herased : ((d.insert source (.file content)).erase source).node? p ≠ some .folder :=
      fun hfolder => hn ((folder_erase hfile p).mp hfolder)
    have hfolders : ∀ r, (d.insert source (.file content)).node? r = some .folder →
        (((d.insert source (.file content)).erase source).insert p (.file content)).node? r =
          some .folder := fun r hr =>
      (folder_insert_file herased content r).mpr ((folder_erase hfile r).mpr hr)
    simp [find, locate_of_folders hfolders hl, node?_insert_self hp]

/-- Nothing is lost or changed, and nothing is new but a file of one name. -/
structure GainsAtMost (before after : Disk) (base : Place) (name : String) : Prop where
  kept : ∀ p n, before.node? p = some n → after.node? p = some n
  gained : ∀ p n, before.node? p = none → after.node? p = some n →
    before.locate base name = .ok p ∧ ∃ content, n = .file content

theorem GainsAtMost.refl (d : Disk) (base : Place) (name : String) : d.GainsAtMost d base name where
  kept _ _ h := h
  gained p n hnone hsome := by simp [hnone] at hsome

theorem GainsAtMost.insert (hl : d.locate base name = .ok p) (hp : d.node? p = none)
    (content : Bytes) : d.GainsAtMost (d.insert p (.file content)) base name := by
  have hroot : p ≠ [] := by
    rintro rfl
    simp [node?_root] at hp
  constructor
  · intro q n hq
    have hne : q ≠ p := by
      rintro rfl
      simp [hp] at hq
    rw [node?_insert_of_ne hne, hq]
  · intro q n hnone hsome
    by_cases hq : q = p
    · subst q
      rw [node?_insert_self hroot] at hsome
      exact ⟨hl, content, by simpa using hsome.symm⟩
    · simp [node?_insert_of_ne hq, hnone] at hsome

/-- A name that is free is that of nothing. -/
theorem node?_of_not_has (h : d.has base name = false) (hl : d.locate base name = .ok p) :
    d.node? p = none := by
  cases hn : d.node? p with
  | none => rfl
  | some n => simp [has, find, hl, hn] at h

theorem replace_error (hfree : d.has base (temporaryName mark ident) = false)
    (h : d.replace mark base ident content = (.error e, after)) :
    d.GainsAtMost after base (temporaryName mark ident) := by
  rcases replace_cases d mark base ident content with
    ⟨x, hx⟩ | ⟨source, hl, -, ⟨x, hx⟩ | ⟨p, -, -, hok⟩⟩
  · obtain ⟨-, rfl⟩ : x = e ∧ d = after := by simpa [hx] using h
    exact .refl d base _
  · obtain ⟨-, rfl⟩ : x = e ∧ d.insert source (.file content) = after := by simpa [hx] using h
    exact .insert hl (node?_of_not_has hfree hl) content
  · simp [hok] at h

/-- The storage works: its folder is there, and neither the temporary file nor the goal has the name
of a folder. -/
structure Works (d : Disk) (mark : String) (base : Place) (ident : String) : Prop where
  temporary : ∃ p, d.locate base (temporaryName mark ident) = .ok p ∧ d.node? p ≠ some .folder
  goal : ∃ p, d.goal base ident = .ok p

theorem Works.replace (h : d.Works mark base ident) (content : Bytes) :
    ∃ after, d.replace mark base ident content = (.ok (), after) := by
  obtain ⟨source, hsource, hfile⟩ := h.temporary
  obtain ⟨p, hp⟩ := h.goal
  obtain ⟨hl, hn⟩ := goal_eq_ok hp
  have hwrite : d.write base (temporaryName mark ident) content =
      .ok (d.insert source (.file content)) := by
    simp only [write, hsource]
  have hfolders : ∀ r, d.node? r = some .folder →
      (d.insert source (.file content)).node? r = some .folder := fun r =>
    (folder_insert_file hfile content r).mpr
  have hnode : (d.insert source (.file content)).node? p ≠ some .folder := fun hfolder =>
    hn ((folder_insert_file hfile content p).mp hfolder)
  have hgoal : (d.insert source (.file content)).goal base ident = .ok p := by
    rw [Disk.goal] at hp ⊢
    split at hp
    iterate 3 cases hp
    simp only [locate_of_folders hfolders hl]
  rw [Disk.replace, hsource]
  simp only [hwrite, hgoal]
  exact ⟨_, rfl⟩

end Linkshelf.Disk
