import Linkshelf.Program
import Linkshelf.Proofs.Settings.Loading
import Linkshelf.Proofs.Shelf.Saving

/-! What a run of the program does to the data file. Only an import that succeeds changes it, and
the file then has as many bookmarks as the import tells. -/
namespace Linkshelf

variable {f : Settings.Format} {d after settled : Disk} {base : Place} {mark : String}
  {s : Settings}

/-- Loading settings does nothing to any other file that they name. -/
theorem Settings.find_dataFile_load (hfaithful : f.IsFaithful) (htree : d.IsTree)
    (hmark : d.IsNewMark base mark) (hsavable : Disk.IsSavable mark fileName)
    (hload : load f mark base d = (.ok s, after))
    (hother : ¬ after.SamePlace base s.dataFile base fileName) :
    (after.find base s.dataFile).toOption = (d.find base s.dataFile).toOption := by
  obtain ⟨-, hfile, -⟩ := load_ok htree hload
  have hbase := isFolder_of_find hfile
  rcases load_cases hmark hsavable hfaithful htree with
    ⟨e, he⟩ | ⟨given, later, hgiven, hone⟩ | ⟨made, later, hmissing, hgains, hdefault, hone⟩
  · simp [he] at hload
  · obtain ⟨rfl, rfl⟩ : given = s ∧ later = after := by simpa [hgiven] using hload
    have hfolder := (hone.folders base).mpr hbase
    exact hone.find_toOption (locate_fileName hfolder) fun hsame => hother (hone.samePlace hsame)
  · obtain ⟨rfl, rfl⟩ : default = s ∧ later = after := by simpa [hdefault] using hload
    -- There is nothing in a folder that was not there but the file of the settings.
    have hne : base ++ [default.dataFile] ≠ base ++ [fileName] := by
      intro hsame
      exact absurd (List.append_cancel_left hsame) (by decide +kernel)
    have hbefore : d.node? (base ++ [default.dataFile]) = none :=
      htree.node?_below hmissing (List.cons_ne_nil _ _)
    have hafter : later.node? (base ++ [default.dataFile]) = none := by
      rw [hone.others _ hne]
      exact hgains.node?_below hbefore
    have hname : ¬ Disk.IsDotted default.dataFile := Disk.not_isDotted (by decide +kernel)
    rw [Disk.find_name_of_none (by decide +kernel) (by decide +kernel) hname hafter,
      Disk.find_name_of_none (by decide +kernel) (by decide +kernel) hname hbefore]

/-- Puts other bookmarks in the place of those there. -/
def Command.isImport : Command → Bool
  | importFile _ _ => true
  | _ => false

namespace Surroundings

variable {w : Surroundings} {shelf : Shelf} {command : Command} {arguments : List String}
  {output : Option String}

/-- What an import tells of the shelf that it leaves. -/
def imported (t : Shelf) : Ending := .done (toString t.total ++ " entries imported\n")

/-- The data file holds what is on a shelf, and the shelf is what it loads to. -/
def Holds (w : Surroundings) (s : Settings) (t : Shelf) (d : Disk) : Prop :=
  d.find w.base s.dataFile = .ok (.file t.collection.bytes) ∧
    ∀ now, Shelf.load now w.base s.dataFile d = .ok t

theorem withShelf_cases (w : Surroundings) (s : Settings) (d : Disk) (use : Shelf → Ending × Disk) :
    (∃ message, w.withShelf s d use = (.failed message, d)) ∨
    ∃ shelf, Shelf.load w.supply.now w.base s.dataFile d = .ok shelf ∧
      w.withShelf s d use = use shelf := by
  cases hload : Shelf.load w.supply.now w.base s.dataFile d with
  | error e => exact Or.inl ⟨"cannot load " ++ s.dataFile, by simp only [withShelf, hload]⟩
  | ok shelf => exact Or.inr ⟨shelf, rfl, by simp only [withShelf, hload]⟩

theorem runImport_cases (w : Surroundings) (s : Settings) (d : Disk) (file : String)
    (isConfirmed : Bool) :
    (∃ message, w.runImport s d file isConfirmed = (.failed message, d)) ∨
    ∃ shelf items, Shelf.load w.supply.now w.base s.dataFile d = .ok shelf ∧
      w.runImport s d file isConfirmed = w.replaceAll d shelf items := by
  cases hread : d.read w.working file with
  | error e => exact Or.inl ⟨"cannot read " ++ file, by simp only [runImport, hread]⟩
  | ok content =>
    cases hitems : importItems file content with
    | error message => exact Or.inl ⟨message, by simp only [runImport, hread, hitems]⟩
    | ok items =>
      simp only [runImport, hread, hitems]
      rcases withShelf_cases w s d
        (fun shelf => if isConfirmed then w.replaceAll d shelf items else (.failed unconfirmed, d))
        with hfailed | ⟨shelf, hload, hshelf⟩
      · exact Or.inl hfailed
      · rw [hshelf]
        cases isConfirmed with
        | false => exact Or.inl ⟨unconfirmed, rfl⟩
        | true => exact Or.inr ⟨shelf, items, hload, rfl⟩

theorem replaceAll_cases (w : Surroundings)
    (hload : Shelf.load w.supply.now w.base s.dataFile d = .ok shelf) (items : List Json) :
    (∃ message after, w.replaceAll d shelf items = (.failed message, after) ∧
      (d.IsTree → (after.find w.base s.dataFile).toOption =
        (d.find w.base s.dataFile).toOption)) ∨
    ∃ t after, w.replaceAll d shelf items = (imported t, after) ∧ w.Holds s t after := by
  obtain ⟨hplace, hident, -⟩ := Shelf.storable_load hload
  have houtcome := Shelf.replaceAll_eq w.supply shelf d items
  have hversion : Collection.HasVersion
      ⟨Collection.currentVersion, w.supply.now, Shelf.importedFrom w.supply 0 items⟩ := by
    simp [Collection.HasVersion, Collection.currentVersion]
  cases hresult : (shelf.replaceAll w.supply d items).result with
  | error e =>
    refine Or.inl ⟨e.message, (shelf.replaceAll w.supply d items).disk, ?_, fun htree => ?_⟩
    · simp only [replaceAll, hresult]
    · rw [houtcome] at hresult ⊢
      rw [← hplace, ← hident]
      exact (Shelf.commit_failed hresult).2 htree
  | ok n =>
    refine Or.inr ⟨(shelf.replaceAll w.supply d items).shelf,
      (shelf.replaceAll w.supply d items).disk, ?_, ?_⟩
    · simp only [replaceAll, hresult]
      rw [houtcome] at hresult ⊢
      obtain ⟨rfl, hlist⟩ := Shelf.commit_ok hresult
      rw [imported, Shelf.total, hlist]
    · rw [houtcome] at hresult ⊢
      rw [Holds, ← hplace, ← hident]
      exact ⟨Shelf.find_commit hresult, Shelf.load_commit hversion hresult⟩

theorem withShelf_disk (w : Surroundings) (s : Settings) (d : Disk) (ending : Shelf → Ending) :
    (w.withShelf s d fun shelf => (ending shelf, d)).2 = d := by
  rcases withShelf_cases w s d (fun shelf => (ending shelf, d)) with
    ⟨message, hfailed⟩ | ⟨shelf, -, hshelf⟩
  · rw [hfailed]
  · rw [hshelf]

theorem runExport_kept (hexport : ∀ path, output = some path →
      ¬ d.SamePlace w.base s.dataFile w.working path) (shelf : Shelf) :
    ((w.runExport d shelf output).2.find w.base s.dataFile).toOption =
      (d.find w.base s.dataFile).toOption := by
  cases output with
  | none => rfl
  | some path =>
    rw [runExport]
    cases hwrite : d.write w.working path shelf.collection.bytes with
    | error e => rfl
    | ok after =>
      obtain ⟨p, hp, hn, rfl⟩ := Disk.write_eq_ok hwrite
      exact (Disk.oneFile_insert hn _).find_toOption hp (hexport path rfl)

theorem runImport_kept {file : String} {isConfirmed : Bool} (htree : d.IsTree)
    (hfailed : (w.runImport s d file isConfirmed).1.exitCode ≠ 0) :
    ((w.runImport s d file isConfirmed).2.find w.base s.dataFile).toOption =
      (d.find w.base s.dataFile).toOption := by
  rcases runImport_cases w s d file isConfirmed with ⟨message, h⟩ | ⟨shelf, items, hload, h⟩
  · rw [h]
  · rw [h] at hfailed ⊢
    rcases replaceAll_cases w hload items with ⟨message, after, h, hkept⟩ | ⟨t, after, h, -⟩
    · rw [h]
      exact hkept htree
    · rw [h] at hfailed
      exact absurd rfl hfailed

/-- A command that is no import that succeeds keeps what is at any place that it does not write
to. -/
theorem carryOut_kept (htree : d.IsTree)
    (hexport : ∀ path, command = .exportTo (some path) →
      ¬ d.SamePlace w.base s.dataFile w.working path)
    (hfailed : command.isImport = true → (w.carryOut s d command).1.exitCode ≠ 0) :
    ((w.carryOut s d command).2.find w.base s.dataFile).toOption =
      (d.find w.base s.dataFile).toOption := by
  cases command with
  | search query path countOnly => simp only [carryOut, withShelf_disk]
  | tree asJson => simp only [carryOut, withShelf_disk]
  | serve address => simp only [carryOut, withShelf_disk]
  | importFile file isConfirmed => exact runImport_kept htree (hfailed rfl)
  | exportTo output =>
    rw [carryOut]
    rcases withShelf_cases w s d (fun shelf => w.runExport d shelf output) with
      ⟨message, h⟩ | ⟨shelf, -, h⟩
    · rw [h]
    · rw [h]
      exact runExport_kept (fun path hpath => hexport path (by rw [hpath])) shelf

/-- An import that succeeds tells how many bookmarks its file now holds. -/
theorem carryOut_imported (hcommand : command.isImport = true)
    (hdone : (w.carryOut s d command).1.exitCode = 0) :
    ∃ t after, w.carryOut s d command = (imported t, after) ∧ w.Holds s t after := by
  cases command with
  | importFile file isConfirmed =>
    rw [carryOut] at hdone ⊢
    rcases runImport_cases w s d file isConfirmed with ⟨message, h⟩ | ⟨shelf, items, hload, h⟩
    · rw [h] at hdone
      cases hdone
    · rw [h] at hdone ⊢
      rcases replaceAll_cases w hload items with ⟨message, after, h, -⟩ | hdone
      · rw [h] at hdone
        cases hdone
      · exact hdone
  | search _ _ _ | tree _ | exportTo _ | serve _ => cases hcommand

/-- A run that cannot load its settings changes nothing at all. Where the data file is another file
than that of the settings, and another than any that is exported to, a run keeps it as it is or
absent, unless it is an import that succeeds; and then the file holds as many bookmarks as the run
tells. -/
theorem run_dataFile (hfaithful : w.format.IsFaithful) (htree : d.IsTree)
    (hmark : d.IsNewMark w.base w.supply.mark)
    (hsavable : Disk.IsSavable w.supply.mark Settings.fileName)
    (hcommand : Command.ofArguments arguments = .ok command) :
    (∀ e settled, Settings.load w.format w.supply.mark w.base d = (.error e, settled) →
      w.run d arguments = (.failed e.message, d)) ∧
    ∀ s settled, Settings.load w.format w.supply.mark w.base d = (.ok s, settled) →
      ¬ settled.SamePlace w.base s.dataFile w.base Settings.fileName →
      (∀ path, command = .exportTo (some path) →
        ¬ settled.SamePlace w.base s.dataFile w.working path) →
      (command.isImport = true ∧ (w.run d arguments).1.exitCode = 0 →
        ∃ t, (w.run d arguments).1 = imported t ∧ w.Holds s t (w.run d arguments).2) ∧
      (¬ (command.isImport = true ∧ (w.run d arguments).1.exitCode = 0) →
        ((w.run d arguments).2.find w.base s.dataFile).toOption =
          (d.find w.base s.dataFile).toOption) := by
  constructor
  · intro e settled hload
    rcases Settings.load_cases hmark hsavable hfaithful htree with
      ⟨x, hx⟩ | ⟨s, after, hok, -⟩ | ⟨made, after, -, -, hok, -⟩
    · obtain ⟨rfl, rfl⟩ : x = e ∧ d = settled := by simpa [hx] using hload
      simp only [run, hcommand, hload]
    · simp [hok] at hload
    · simp [hok] at hload
  · intro s settled hload hconfig hexport
    have hsettled := (Settings.load_ok htree hload).2.2
    have hrun : w.run d arguments = w.carryOut s settled command := by
      simp only [run, hcommand, hload]
    rw [hrun]
    constructor
    · rintro ⟨himport, hdone⟩
      obtain ⟨t, after, h, hholds⟩ := carryOut_imported himport hdone
      rw [h]
      exact ⟨t, rfl, hholds⟩
    · intro hfailed
      rw [carryOut_kept hsettled hexport fun himport hdone => hfailed ⟨himport, hdone⟩]
      exact Settings.find_dataFile_load hfaithful htree hmark hsavable hload hconfig

/-- An import that is not confirmed keeps a data file that is no collection, while the settings get
their defaults; a confirmed one of two items, one of which is none, puts one bookmark there. -/
theorem run_dataFile_import :
    ∃ (w : Surroundings) (d : Disk), w.format.IsFaithful ∧ d.IsTree ∧
      (w.run d ["import", "new.json"]).2 ≠ d ∧
      ((w.run d ["import", "new.json"]).2.find w.base "kept.json").toOption =
        (d.find w.base "kept.json").toOption ∧
      ∃ t, imported t = .done "1 entries imported\n" ∧
        w.Holds { Settings.default with dataFile := "kept.json" } t
          (w.run d ["import", "new.json", "-y"]).2 := by
  let w : Surroundings := ⟨["home"], ["work"], Shelf.marked, Settings.yaml,
    fun _ => .error "Permission denied (os error 13)"⟩
  let s : Settings := { Settings.default with dataFile := "kept.json" }
  let d : Disk := ⟨[(["home"], .folder), (["work"], .folder),
    (["home", "config.yaml"], .file (Utf8.encode "data_file: kept.json")),
    (["home", "kept.json"], .file (Utf8.encode "\"a\"")),
    (["work", "new.json"], .file (Utf8.encode "[1, \x7b\"url\": \"https://b\"\x7d]"))]⟩
  have hfaithful : w.format.IsFaithful := Settings.isFaithful_yaml
  have htree : d.IsTree := by decide +kernel
  have hmark : d.IsNewMark w.base w.supply.mark :=
    Disk.isNewMark_text (Disk.unused_of_forall (by decide +kernel) _)
  have hsavable : Disk.IsSavable w.supply.mark Settings.fileName :=
    Disk.isSavable_text_iff.mpr ⟨by decide +kernel, by decide +kernel⟩
  let settled : Disk := (Settings.load w.format w.supply.mark w.base d).2
  have hload : Settings.load w.format w.supply.mark w.base d = (.ok s, settled) := by decide +kernel
  have hconfig : ¬ settled.SamePlace w.base s.dataFile w.base Settings.fileName := by
    have hplace : settled.locate w.base s.dataFile = .ok ["home", "kept.json"] := by decide +kernel
    have hother : settled.locate w.base Settings.fileName = .ok ["home", "config.yaml"] := by
      decide +kernel
    rintro ⟨p, hp, hp'⟩
    rw [hplace] at hp
    rw [hother] at hp'
    exact absurd (Except.ok.inj (hp.trans hp'.symm)) (by decide +kernel)
  have hasked : Command.ofArguments ["import", "new.json"] =
      .ok (.importFile "new.json" false) := by decide +kernel
  have hconfirmed : Command.ofArguments ["import", "new.json", "-y"] =
      .ok (.importFile "new.json" true) := by decide +kernel
  have hrefused : (w.run d ["import", "new.json"]).1.exitCode ≠ 0 := by decide +kernel
  have htold : (w.run d ["import", "new.json", "-y"]).1 = .done "1 entries imported\n" := by
    decide +kernel
  have hexport (file : String) (isConfirmed : Bool) (path : String)
      (h : Command.importFile file isConfirmed = .exportTo (some path)) :
      ¬ settled.SamePlace w.base s.dataFile w.working path := by cases h
  obtain ⟨-, hconfirmedRun⟩ := run_dataFile hfaithful htree hmark hsavable hconfirmed
  obtain ⟨-, haskedRun⟩ := run_dataFile hfaithful htree hmark hsavable hasked
  obtain ⟨himported, -⟩ := hconfirmedRun s settled hload hconfig (hexport "new.json" true)
  obtain ⟨-, hrest⟩ := haskedRun s settled hload hconfig (hexport "new.json" false)
  have hkept := hrest fun h => hrefused h.2
  obtain ⟨t, ht, hholds⟩ := himported ⟨rfl, by rw [htold]; rfl⟩
  exact ⟨w, d, hfaithful, htree, by decide +kernel, hkept, t, ht.symm.trans htold, hholds⟩

end Surroundings
end Linkshelf
