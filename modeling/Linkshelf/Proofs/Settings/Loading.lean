import Linkshelf.Proofs.Disk.Folders
import Linkshelf.Proofs.Disk.OneFile
import Linkshelf.Proofs.Settings.Yaml

/-! Loading settings settles them in one step: what is loaded can be used, and the file then holds
just that, so that loading again gives the same and writes nothing. -/
namespace Linkshelf

namespace SocketAddress

variable {s : String} {cs : List Char}

theorem readNumber_blank (hblank : ∀ c ∈ cs, isBlank c = true) (base : Nat)
    (fits : List Char → Bool) (limit : Nat) : readNumber base fits limit cs = none := by
  have hdigits : (cs.takeWhile fun c => (digit? base c).isSome) = [] := by
    cases cs with
    | nil => rfl
    | cons c cs => simp [digit?, Hex.value?_blank (hblank c List.mem_cons_self)]
  simp [readNumber, hdigits]

theorem ofString?_blank (h : Text.isBlankText s = true) : ofString? s = none := by
  have hblank : ∀ c ∈ s.toList, isBlank c = true := List.all_eq_true.mp h
  have hfour : readFour s.toList = none := by
    simp [readFour, readOctets, skipBetween, readOctet, readNumber_blank hblank]
  have hsix : readSix s.toList = none := by
    have hskip : skip '[' s.toList = none := by
      cases hs : s.toList with
      | nil => rfl
      | cons c cs =>
        have hc : c ≠ '[' := by
          rintro rfl
          exact absurd (hblank '[' (by simp [hs])) (by decide)
        rw [skip, if_neg hc]
    simp [readSix, hskip]
  simp [ofString?, hfour, hsix]

end SocketAddress

namespace Settings

variable {f : Format} {s : Settings} {d after made : Disk} {base : Place} {mark : String}
  {content : Bytes} {e : SettingsError} {n : Node}

/-- Settings that can be used: an address to listen at, and no blank where a place is named. -/
structure IsSound (s : Settings) : Prop where
  address : s.hasAddress = true
  dataFile : Text.isBlankText s.dataFile = false
  defaultPath : Text.isBlankText s.defaultPath = false

theorem orDefault_of_not_blank {default given : String} (h : Text.isBlankText given = false) :
    orDefault default given = given := by
  simp [orDefault, h]

theorem orDefault_not_blank {default : String} (h : Text.isBlankText default = false)
    (given : String) : Text.isBlankText (orDefault default given) = false := by
  unfold orDefault
  split
  · exact h
  · next hgiven => simpa using hgiven

theorem isSound_filled (h : s.filled.hasAddress = true) : s.filled.IsSound where
  address := h
  dataFile := orDefault_not_blank (by decide +kernel) s.dataFile
  defaultPath := orDefault_not_blank (by decide +kernel) s.defaultPath

/-- Nothing is left to fill in: an address is never blank either. -/
theorem IsSound.filled_eq (h : s.IsSound) : s.filled = s := by
  have haddress : Text.isBlankText s.listenAddress = false := by
    by_contra hblank
    have hnone := SocketAddress.ofString?_blank (Bool.not_eq_false _ ▸ hblank)
    simpa [hasAddress, hnone] using h.address
  rw [filled, orDefault_of_not_blank haddress, orDefault_of_not_blank h.dataFile,
    orDefault_of_not_blank h.defaultPath]

theorem isSound_ofBytes (h : ofBytes f content = .ok s) : s.IsSound := by
  unfold ofBytes at h
  split at h
  · cases h
  · split at h
    · cases h
    · dsimp only at h
      split at h
      · next haddress =>
        obtain rfl := Except.ok.inj h
        exact isSound_filled haddress
      · cases h

theorem IsSound.ofBytes_bytes (h : s.IsSound) (hfaithful : f.IsFaithful) :
    ofBytes f (s.bytes f) = .ok s := by
  obtain ⟨given, hread, hgiven⟩ := Option.map_eq_some_iff.mp (hfaithful s)
  simp only [ofBytes, bytes, Utf8.decode?_encode, hread, hgiven, h.filled_eq, h.address, if_true]

/-- The file holds the settings, and loading gives them and leaves the disk as it is. -/
def Settled (f : Format) (s : Settings) (base : Place) (d : Disk) : Prop :=
  d.find base fileName = .ok (.file (s.bytes f)) ∧ ∀ mark, load f mark base d = (.ok s, d)

theorem isSound_default : default.IsSound :=
  isSound_filled (s := default) (by decide +kernel)

theorem contentOrDefault_of_find (h : d.find base fileName = .ok (.file content)) (mark : String) :
    contentOrDefault f mark base d = (.ok content, d) := by
  simp [contentOrDefault, Disk.has, Disk.read, h]

theorem isFolder_of_find (h : d.find base fileName = .ok n) : d.node? base = some .folder := by
  obtain ⟨p, hp, -⟩ := Disk.find_eq_ok h
  rw [Disk.locate_name (by decide +kernel) (by decide +kernel)] at hp
  exact Disk.step_eq_ok hp

/-- A file that holds sound settings as they are written gives them, and is not written again. -/
theorem IsSound.load_of_written (h : s.IsSound) (hfaithful : f.IsFaithful)
    (hmade : d.makeFolder base = .ok made)
    (hcontent : contentOrDefault f mark base made = (.ok (s.bytes f), after)) :
    load f mark base d = (.ok s, after) := by
  simp only [load, hmade, hcontent, h.ofBytes_bytes hfaithful, if_true]

theorem IsSound.settled (h : s.IsSound) (hfaithful : f.IsFaithful) (htree : d.IsTree)
    (hfile : d.find base fileName = .ok (.file (s.bytes f))) : s.Settled f base d := by
  refine ⟨hfile, fun mark => ?_⟩
  have hmade := htree.makeFolder_eq_self (isFolder_of_find hfile)
  exact h.load_of_written hfaithful hmade (contentOrDefault_of_find hfile mark)

theorem save_eq_ok (h : s.save f mark base d = (.ok (), after)) :
    ∃ made, d.makeFolder base = .ok made ∧
      made.replace mark base fileName (s.bytes f) = (.ok (), after) := by
  unfold save at h
  split at h
  · simp at h
  · next made hmade =>
    split at h
    · next later hreplace =>
      obtain rfl : later = after := by simpa using h
      exact ⟨made, hmade, hreplace⟩
    · simp at h

theorem find_save (h : s.save f mark base d = (.ok (), after)) :
    after.find base fileName = .ok (.file (s.bytes f)) := by
  obtain ⟨made, -, hreplace⟩ := save_eq_ok h
  exact Disk.find_replace hreplace

theorem isTree_save (htree : d.IsTree) (h : s.save f mark base d = (.ok (), after)) :
    after.IsTree := by
  obtain ⟨made, hmade, hreplace⟩ := save_eq_ok h
  exact (htree.makeFolder hmade).replace hreplace

/-- A save that fails keeps what there is in the place of the file. -/
theorem find_save_error (htree : d.IsTree) (h : s.save f mark base d = (.error e, after))
    (hn : d.find base fileName = .ok n) : after.find base fileName = .ok n := by
  simp only [save, htree.makeFolder_eq_self (isFolder_of_find hn)] at h
  split at h
  · simp at h
  · next x later hreplace =>
    obtain ⟨-, rfl⟩ : SettingsError.disk x = e ∧ later = after := by simpa using h
    exact Disk.find_of_toOption_eq (Disk.find_replace_error htree hreplace) hn

theorem save_of_works (hmade : d.makeFolder base = .ok made)
    (hworks : made.Works mark base fileName) (s : Settings) :
    (s.save f mark base d).1 = .ok () := by
  obtain ⟨after, hreplace⟩ := hworks.replace (s.bytes f)
  simp [save, hmade, hreplace]

theorem find_of_read (h : d.read base fileName = .ok content) :
    d.find base fileName = .ok (.file content) := by
  unfold Disk.read at h
  split at h
  · cases h
  · cases h
  · next hfile =>
    obtain rfl := Except.ok.inj h
    exact hfile

theorem contentOrDefault_of_has (hn : d.find base fileName = .ok n) (f : Format) (mark : String) :
    (contentOrDefault f mark base d).2 = d := by
  simp only [contentOrDefault, Disk.has, hn, if_true]
  cases d.read base fileName <;> rfl

theorem contentOrDefault_ok (htree : d.IsTree)
    (h : contentOrDefault f mark base d = (.ok content, after)) :
    after.find base fileName = .ok (.file content) ∧ after.IsTree := by
  unfold contentOrDefault at h
  split at h
  next result made hresult =>
    have hmade : made.IsTree := by
      split at hresult
      · obtain ⟨-, rfl⟩ := Prod.mk.inj hresult
        exact htree
      · exact htree.replace hresult
    split at h
    · simp at h
    · split at h
      · simp at h
      · next found hread =>
        obtain ⟨rfl, rfl⟩ : found = content ∧ made = after := by simpa using h
        exact ⟨find_of_read hread, hmade⟩

/-- Settings are only given when the file holds them in the end. -/
theorem load_ok (htree : d.IsTree) (h : load f mark base d = (.ok s, after)) :
    s.IsSound ∧ after.find base fileName = .ok (.file (s.bytes f)) ∧ after.IsTree := by
  unfold load at h
  split at h
  · simp at h
  · next made hmade =>
    split at h
    · simp at h
    · next content kept hcontent =>
      obtain ⟨hfile, hkept⟩ := contentOrDefault_ok (htree.makeFolder hmade) hcontent
      split at h
      · simp at h
      · next given hgiven =>
        have hsound := isSound_ofBytes hgiven
        split at h
        · next hsame =>
          obtain ⟨rfl, rfl⟩ : given = s ∧ kept = after := by simpa using h
          exact ⟨hsound, hsame ▸ hfile, hkept⟩
        · split at h
          · simp at h
          · next later hsave =>
            obtain ⟨rfl, rfl⟩ : given = s ∧ later = after := by simpa using h
            exact ⟨hsound, find_save hsave, isTree_save hkept hsave⟩

/-- A load that fails keeps what there is in the place of the file. -/
theorem find_load_error (htree : d.IsTree) (h : load f mark base d = (.error e, after))
    (hn : d.find base fileName = .ok n) : after.find base fileName = .ok n := by
  simp only [load, htree.makeFolder_eq_self (isFolder_of_find hn)] at h
  have hkept := contentOrDefault_of_has hn f mark
  split at h
  · next hcontent =>
    obtain ⟨-, rfl⟩ := Prod.mk.inj h
    simp only [hcontent] at hkept
    rw [hkept, hn]
  · next content kept hcontent =>
    obtain rfl : kept = d := by simpa [hcontent] using hkept
    split at h
    · obtain ⟨-, rfl⟩ := Prod.mk.inj h
      exact hn
    · split at h
      · simp at h
      · split at h
        · next hsave =>
          obtain ⟨-, rfl⟩ := Prod.mk.inj h
          exact find_save_error htree hsave hn
        · simp at h

theorem not_isDotted_fileName : ¬ Disk.IsDotted fileName := Disk.not_isDotted (by decide +kernel)

theorem locate_fileName (hbase : d.node? base = some .folder) :
    d.locate base fileName = .ok (base ++ [fileName]) := by
  rw [Disk.locate_name (by decide +kernel) (by decide +kernel)]
  exact Disk.step_eq_append not_isDotted_fileName (by decide +kernel) hbase

section Writes

variable (hmark : d.IsNewMark base mark) (hsavable : Disk.IsSavable mark fileName)

include hmark

theorem oneFile_replace_fileName (hbase : d.node? base = some .folder)
    (h : d.replace mark base fileName content = (.ok (), after)) :
    d.OneFile after (base ++ [fileName]) := by
  obtain ⟨p, hp, hone⟩ := hmark.oneFile_replace h
  rw [locate_fileName hbase] at hp
  exact Except.ok.inj hp ▸ hone

include hsavable

/-- With a file there, a load writes nothing but that file, and only if it succeeds. -/
theorem load_of_find (htree : d.IsTree) (hn : d.find base fileName = .ok n) :
    (∃ e, load f mark base d = (.error e, d)) ∨
    ∃ s after, load f mark base d = (.ok s, after) ∧ d.OneFile after (base ++ [fileName]) := by
  have hbase := isFolder_of_find hn
  have hmade := htree.makeFolder_eq_self hbase
  cases hread : d.read base fileName with
  | error e => exact Or.inl ⟨.disk e, by simp [load, hmade, contentOrDefault, Disk.has, hn, hread]⟩
  | ok content =>
    have hfile := find_of_read hread
    cases hgiven : ofBytes f content with
    | error e =>
      exact Or.inl ⟨e, by simp [load, hmade, contentOrDefault_of_find hfile, hgiven]⟩
    | ok s =>
      by_cases hsame : content = s.bytes f
      · refine Or.inr ⟨s, d, ?_, .refl d _⟩
        simp [load, hmade, contentOrDefault_of_find hfile, hgiven, hsame.symm]
      · obtain ⟨after, hreplace⟩ :=
          (hmark.works_of_savable htree hsavable hfile).replace (s.bytes f)
        refine Or.inr ⟨s, after, ?_, oneFile_replace_fileName hmark hbase hreplace⟩
        simp [load, hmade, contentOrDefault_of_find hfile, hgiven, hsame, save, hreplace]

/-- Without a file, the defaults are loaded and written. -/
theorem load_of_free (hfaithful : f.IsFaithful) (htree : d.IsTree)
    (hbase : d.node? base = some .folder) (hfree : d.node? (base ++ [fileName]) = none) :
    ∃ after, load f mark base d = (.ok default, after) ∧ d.OneFile after (base ++ [fileName]) := by
  have hworks : d.Works mark base fileName :=
    hmark.works_of_folder hsavable (by decide +kernel) not_isDotted_fileName hbase (by simp [hfree])
  obtain ⟨after, hreplace⟩ := hworks.replace (default.bytes f)
  have hhas : d.has base fileName = false := by
    simp [Disk.has, Disk.find, locate_fileName hbase, hfree]
  have hcontent : contentOrDefault f mark base d = (.ok (default.bytes f), after) := by
    simp [contentOrDefault, hhas, hreplace, Disk.read, Disk.find_replace hreplace]
  have hload := isSound_default.load_of_written hfaithful (htree.makeFolder_eq_self hbase) hcontent
  exact ⟨after, hload, oneFile_replace_fileName hmark hbase hreplace⟩

/-- What a load writes: nothing when it fails, else at most the one file. Where the folder is not
there, it is made and the defaults are all there is in it. -/
theorem load_cases (hfaithful : f.IsFaithful) (htree : d.IsTree) :
    (∃ e, load f mark base d = (.error e, d)) ∨
    (∃ s after, load f mark base d = (.ok s, after) ∧ d.OneFile after (base ++ [fileName])) ∨
    ∃ made after, d.node? base ≠ some .folder ∧ d.GainsFolders made base ∧
      load f mark base d = (.ok default, after) ∧ made.OneFile after (base ++ [fileName]) := by
  cases hmake : d.makeFolder base with
  | error e => exact Or.inl ⟨.noFolder (pathText base), by simp [load, hmake]⟩
  | ok made =>
    obtain ⟨hgains, hfolders⟩ := Disk.makeFolder_ok hmake
    have hmade := htree.makeFolder hmake
    have hfolder := hfolders base (List.prefix_refl base)
    by_cases hbase : d.node? base = some .folder
    · cases hn : d.node? (base ++ [fileName]) with
      | none =>
        obtain ⟨after, hload, hone⟩ := load_of_free hmark hsavable hfaithful htree hbase hn
        exact Or.inr (Or.inl ⟨default, after, hload, hone⟩)
      | some n =>
        have hfind : d.find base fileName = .ok n := by simp [Disk.find, locate_fileName hbase, hn]
        exact (load_of_find hmark hsavable htree hfind).imp_right Or.inl
    · have hnew := hmark.makeFolder hgains
      have hfree : made.node? (base ++ [fileName]) = none :=
        hgains.node?_below (htree.node?_below hbase (List.cons_ne_nil _ _))
      obtain ⟨after, hload, hone⟩ := load_of_free hnew hsavable hfaithful hmade hfolder hfree
      have hsame : load f mark base d = load f mark base made := by
        simp only [load, hmake, hmade.makeFolder_eq_self hfolder]
      exact Or.inr (Or.inr ⟨made, after, hbase, hgains, hsame.trans hload, hone⟩)

end Writes

/-- Whatever the file says, or if there is none: a load that fails keeps it, and a load that gives
settings gives sound ones and settles them, as does saving sound settings, which succeeds where
the storage works. The format may be any that reads back what it writes. -/
theorem load_settles (hfaithful : f.IsFaithful) (htree : d.IsTree) (mark : String) (base : Place) :
    (∀ e after n, load f mark base d = (.error e, after) → d.find base fileName = .ok n →
      after.find base fileName = .ok n) ∧
    (∀ s after, load f mark base d = (.ok s, after) → s.IsSound ∧ s.Settled f base after) ∧
    (∀ (s : Settings) after, s.IsSound → s.save f mark base d = (.ok (), after) →
      s.Settled f base after) ∧
    ∀ (s : Settings) made, d.makeFolder base = .ok made → made.Works mark base fileName →
      (s.save f mark base d).1 = .ok () := by
  refine ⟨?_, ?_, ?_, ?_⟩
  · intro e after n h hn
    exact find_load_error htree h hn
  · intro s after h
    obtain ⟨hsound, hfile, hafter⟩ := load_ok htree h
    exact ⟨hsound, hsound.settled hfaithful hafter hfile⟩
  · intro s after hsound h
    exact hsound.settled hfaithful (isTree_save htree h) (find_save h)
  · intro s made hmade hworks
    exact save_of_works hmade hworks s

/-- A blank setting gets its default, and the file is written anew; other settings are saved over
them. -/
theorem load_settles_blank :
    let d : Disk := ⟨[([fileName], .file (Utf8.encode "data_file: ' '"))]⟩
    let s : Settings :=
      { default with dataFile := "no", staticFolder := some "0x1F", defaultPath := " lead" }
    yaml.IsFaithful ∧ d.IsTree ∧
    (∃ after, load yaml "mark" [] d = (.ok default, after) ∧ default.IsSound ∧
      default.Settled yaml [] after ∧ after ≠ d) ∧
    ∃ after, s.save yaml "mark" [] d = (.ok (), after) ∧ s.Settled yaml [] after := by
  let d : Disk := ⟨[([fileName], .file (Utf8.encode "data_file: ' '"))]⟩
  let s : Settings :=
    { default with dataFile := "no", staticFolder := some "0x1F", defaultPath := " lead" }
  have htree : d.IsTree := by decide +kernel
  have hload : load yaml "mark" [] d = (.ok default, (load yaml "mark" [] d).2) := by decide +kernel
  have hchanged : (load yaml "mark" [] d).2 ≠ d := by decide +kernel
  have hsave : s.save yaml "mark" [] d = (.ok (), (s.save yaml "mark" [] d).2) := by decide +kernel
  have haddress : s.hasAddress = true := by decide +kernel
  have hfile : Text.isBlankText s.dataFile = false := by decide +kernel
  have hpath : Text.isBlankText s.defaultPath = false := by decide +kernel
  obtain ⟨-, hloaded, hsaved, -⟩ := load_settles isFaithful_yaml htree "mark" []
  obtain ⟨hsound, hsettled⟩ := hloaded default _ hload
  have hsettles := hsaved s _ ⟨haddress, hfile, hpath⟩ hsave
  exact ⟨isFaithful_yaml, htree, ⟨_, hload, hsound, hsettled, hchanged⟩, _, hsave, hsettles⟩

end Settings
end Linkshelf
