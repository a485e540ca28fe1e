import Linkshelf.Proofs.Collection
import Linkshelf.Proofs.Shelf.Change

/-! What a change leaves in the file and in memory, when it succeeds and when it fails. -/
namespace Linkshelf.Shelf

variable {place : Place} {ident now : String} {u : Supply} {s : Shelf} {d : Disk} {c : Change}
  {a : Reply} {e : ShelfError}

/-- Opened at a place, with a version that its file can hold. -/
structure Storable (place : Place) (ident : String) (s : Shelf) : Prop where
  place_eq : s.place = place
  ident_eq : s.ident = ident
  version : s.collection.HasVersion

theorem storable_load (h : load now place ident d = .ok s) : Storable place ident s := by
  unfold load at h
  split at h
  · split at h
    · cases h
    · next bytes _ =>
      split at h
      · cases h
      · next c hc =>
        obtain rfl : ⟨place, ident, c⟩ = s := by simpa using h
        cases hj : Json.ofBytes bytes with
        | error f => simp [Collection.ofBytes, hj, Except.map] at hc
        | ok v =>
          obtain rfl : Collection.ofJson now v = c := by
            simpa [Collection.ofBytes, hj, Except.map] using hc
          exact ⟨rfl, rfl, Collection.hasVersion_ofJson now v⟩
  · obtain rfl : ⟨place, ident, .empty now⟩ = s := by simpa using h
    exact ⟨rfl, rfl, Collection.hasVersion_empty now⟩

theorem storable_perform (h : Storable place ident s) (u : Supply) (d : Disk) (c : Change) :
    Storable place ident (c.perform u s d).shelf := by
  rcases perform_cases u s d c with ⟨e, hfail⟩ | ⟨next, a, hversion, hcommit⟩
  · rw [hfail]
    exact h
  · rw [hcommit]
    rcases commit_cases u s d next a with ⟨e, after, -, hfail⟩ | ⟨after, -, hok⟩
    · rw [hfail]
      exact h
    · rw [hok]
      refine ⟨h.place_eq, h.ident_eq, ?_⟩
      rcases hversion with hv | hv
      · exact h.version.congr hv
      · simp [Collection.HasVersion, hv, Collection.currentVersion]

theorem storable_reached (h : Reached place ident s) : Storable place ident s := by
  induction h with
  | load h => exact storable_load h
  | change u d c _ ih => exact storable_perform ih u d c

theorem load_of_find {c : Collection} (h : c.HasVersion)
    (hf : d.find place ident = .ok (.file c.bytes)) (now : String) :
    load now place ident d = .ok ⟨place, ident, c⟩ := by
  simp [load, Disk.has, Disk.read, hf, Collection.ofBytes_bytes h]

/-- After a change that succeeds, opening the place again gives the shelf that is in memory. -/
theorem load_perform (h : Reached place ident s) (hok : (c.perform u s d).result = .ok a)
    (now : String) :
    load now place ident (c.perform u s d).disk = .ok (c.perform u s d).shelf := by
  have hafter := storable_perform (storable_reached h) u d c
  rcases perform_cases u s d c with ⟨e, hfail⟩ | ⟨next, b, -, hcommit⟩
  · simp [hfail, fail] at hok
  · rw [hcommit] at hok hafter ⊢
    rcases commit_cases u s d next b with ⟨e, after, -, hfail⟩ | ⟨after, hreplace, hdone⟩
    · simp [hfail, fail] at hok
    · rw [hdone] at hafter ⊢
      obtain ⟨rfl, rfl, hversion⟩ := hafter
      exact load_of_find hversion (Disk.find_replace hreplace) now

/-- The first bookmark of a place, with a quote and a line break in its title. -/
theorem load_perform_create :
    ∃ (u : Supply) (s : Shelf) (c : Change) (b : Bookmark), Reached [] "data.json" s ∧
      (c.perform u s .empty).result = .ok (.bookmark b) ∧
      load "dusk" [] "data.json" (c.perform u s .empty).disk =
        .ok (c.perform u s .empty).shelf := by
  let u : Supply := ⟨"noon", "mark", fun _ => "new"⟩
  let s : Shelf := ⟨[], "data.json", .empty "dawn"⟩
  let c := Change.create { url := some "https://a", title := some "say \"ä\"\n b" }
  let b : Bookmark := ⟨"new", "noon", "noon", "say \"ä\"\n b", "https://a", "", "", []⟩
  have hload : load "dawn" [] "data.json" .empty = .ok s := by decide +kernel
  have hok : (c.perform u s .empty).result = .ok (.bookmark b) := by decide +kernel
  exact ⟨u, s, c, b, .load hload, hok, load_perform (.load hload) hok "dusk"⟩

/-- After a change that fails, the shelf is as it was. So is all that was on the disk, as long as
the temporary name is a new one; there may be one new file, with that name. -/
theorem perform_error (herr : (c.perform u s d).result = .error e) :
    (c.perform u s d).shelf = s ∧
      (d.has s.place (Disk.temporaryName u.mark s.ident) = false →
        d.GainsAtMost (c.perform u s d).disk s.place (Disk.temporaryName u.mark s.ident)) := by
  rcases perform_cases u s d c with ⟨x, hfail⟩ | ⟨next, b, -, hcommit⟩
  · rw [hfail]
    exact ⟨rfl, fun _ => .refl d _ _⟩
  · rw [hcommit] at herr ⊢
    rcases commit_cases u s d next b with ⟨x, after, hreplace, hfail⟩ | ⟨after, -, hdone⟩
    · rw [hfail]
      exact ⟨rfl, fun hfree => Disk.replace_error hfree hreplace⟩
    · simp [hdone] at herr

/-- A folder with the file's name fails the renaming, and the temporary file stays. -/
theorem perform_error_folder :
    ∃ (u : Supply) (s : Shelf) (d : Disk) (c : Change),
      d.has s.place (Disk.temporaryName u.mark s.ident) = false ∧
      (c.perform u s d).result = .error (.disk .isADirectory) ∧ (c.perform u s d).disk ≠ d ∧
      (c.perform u s d).shelf = s ∧
      d.GainsAtMost (c.perform u s d).disk s.place (Disk.temporaryName u.mark s.ident) := by
  let u : Supply := ⟨"noon", "mark", fun _ => "new"⟩
  let s : Shelf := ⟨[], "data.json", .empty "dawn"⟩
  let d : Disk := ⟨[(["data.json"], .folder)]⟩
  have hfree : d.has s.place (Disk.temporaryName u.mark s.ident) = false := by decide +kernel
  have herr : ((Change.replaceAll []).perform u s d).result = .error (.disk .isADirectory) := by
    decide +kernel
  have hnew : ((Change.replaceAll []).perform u s d).disk ≠ d := by decide +kernel
  obtain ⟨hshelf, hdisk⟩ := perform_error herr
  exact ⟨u, s, d, .replaceAll [], hfree, herr, hnew, hshelf, hdisk hfree⟩

end Linkshelf.Shelf
