import Linkshelf.Proofs.Disk.Names

/-! Writing to one place of a disk. Folders stay as they are, and so does whatever other paths lead
to. -/
namespace Linkshelf.Disk

variable {d after later : Disk} {p base base' source : Place} {path path' mark ident : String}
  {content : Bytes}

/-- There may be another file at one place; all else is as it was. -/
structure OneFile (before after : Disk) (p : Place) : Prop where
  folders : ∀ r, before.node? r = some .folder ↔ after.node? r = some .folder
  others : ∀ q, q ≠ p → after.node? q = before.node? q

theorem OneFile.refl (d : Disk) (p : Place) : d.OneFile d p where
  folders _ := Iff.rfl
  others _ _ := rfl

theorem OneFile.trans (h : d.OneFile after p) (h' : after.OneFile later p) : d.OneFile later p where
  folders r := (h.folders r).trans (h'.folders r)
  others q hq := (h'.others q hq).trans (h.others q hq)

theorem oneFile_insert (hp : d.node? p ≠ some .folder) (content : Bytes) :
    d.OneFile (d.insert p (.file content)) p where
  folders r := (folder_insert_file hp content r).symm
  others _ hq := node?_insert_of_ne hq d _

theorem OneFile.locate (h : d.OneFile after p) (hl : d.locate base path = .ok source) :
    after.locate base path = .ok source :=
  locate_of_folders (fun r => (h.folders r).mp) hl

/-- Under a new mark a temporary file is in the folder itself, and so is the file it is for. -/
theorem IsNewMark.name_of_locate (hmark : d.IsNewMark base mark)
    (hl : d.locate base (temporaryName mark ident) = .ok source) :
    '/' ∉ ident.toList ∧ '\x00' ∉ ident.toList ∧ source = base ++ [temporaryName mark ident] := by
  have hslash : '/' ∉ ident.toList := by
    intro hslash
    obtain ⟨e, he⟩ := hmark.locate_temporary_nested hslash
    rw [he] at hl
    cases hl
  have hnul : '\x00' ∉ (temporaryName mark ident).toList := by
    intro hnul
    rw [locate_nul hnul] at hl
    cases hl
  rw [locate_name hnul (hmark.slash_notMem_temporaryName hslash)] at hl
  have hdash : '-' ∈ (temporaryName mark ident).toList := by simp [toList_temporaryName]
  refine ⟨hslash, fun hmem => hnul ?_, step_undotted (not_isDotted_of_dash hdash) hl⟩
  simp [toList_temporaryName, hmem]

theorem IsNewMark.node?_temporary (hmark : d.IsNewMark base mark) (ident : String) :
    d.node? (base ++ [temporaryName mark ident]) = none :=
  hmark.unused _ (by simp [toList_temporaryName])

theorem IsNewMark.node?_of_locate (hmark : d.IsNewMark base mark)
    (hl : d.locate base (temporaryName mark ident) = .ok source) : d.node? source = none := by
  obtain ⟨-, -, rfl⟩ := hmark.name_of_locate hl
  exact hmark.node?_temporary ident

/-- Under a new mark a replacement is as good as writing the file itself: the temporary file comes
and goes. -/
theorem IsNewMark.oneFile_replace (hmark : d.IsNewMark base mark)
    (h : d.replace mark base ident content = (.ok (), after)) :
    ∃ p, d.locate base ident = .ok p ∧ d.OneFile after p := by
  rcases replace_cases d mark base ident content with
    ⟨e, he⟩ | ⟨source, hl, hsource, ⟨e, he⟩ | ⟨p, hp, hn, hok⟩⟩
  · simp [he] at h
  · simp [he] at h
  · obtain rfl :
        ((d.insert source (.file content)).erase source).insert p (.file content) = after := by
      simpa [hok] using h
    have hwritten := oneFile_insert hsource content
    have hfile : (d.insert source (.file content)).node? source ≠ some .folder := fun hfolder =>
      hsource ((hwritten.folders source).mpr hfolder)
    have hroot : source ≠ [] := by
      rintro rfl
      exact hsource d.node?_root
    -- The temporary file was not there before, and it is not there after it was moved.
    have herased : d.OneFile ((d.insert source (.file content)).erase source) p := by
      constructor
      · intro r
        rw [folder_erase hfile, hwritten.folders]
      · intro q hq
        by_cases hqs : q = source
        · rw [hqs, node?_erase_self hroot, hmark.node?_of_locate hl]
        · rw [node?_erase_of_ne hqs, hwritten.others q hqs]
    refine ⟨p, locate_of_folders (fun r => (hwritten.folders r).mpr) hp, herased.trans ?_⟩
    exact oneFile_insert (fun hfolder => hn ((folder_erase hfile p).mp hfolder)) content

/-- Two paths, each seen from its folder, lead to one place. -/
def SamePlace (d : Disk) (base : Place) (path : String) (base' : Place) (path' : String) : Prop :=
  ∃ p, d.locate base path = .ok p ∧ d.locate base' path' = .ok p

/-- What another path leads to is as it was. -/
theorem OneFile.find_toOption (h : d.OneFile after p) (hp : d.locate base' path' = .ok p)
    (hother : ¬ d.SamePlace base path base' path') :
    (after.find base path).toOption = (d.find base path).toOption := by
  refine find_congr h.folders fun q hq => h.others q ?_
  rintro rfl
  exact hother ⟨q, hq, hp⟩

theorem OneFile.samePlace (h : d.OneFile after p) (hsame : d.SamePlace base path base' path') :
    after.SamePlace base path base' path' := by
  obtain ⟨q, hq, hq'⟩ := hsame
  exact ⟨q, h.locate hq, h.locate hq'⟩

end Linkshelf.Disk
