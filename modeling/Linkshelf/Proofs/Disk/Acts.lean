import Linkshelf.Proofs.Disk.Folders
import Linkshelf.Proofs.Disk.Stored

/-! Runs of writes and new folders. After a run each file reads as what was last written to it: the
disk is a map from names to contents. -/
namespace Linkshelf.Disk

variable {d : Disk} {p r base : Place} {n : Node} {ident : String} {content : Bytes}

/-- One thing that is done to a disk. -/
inductive Act where
  | write (mark : String) (base : Place) (ident : String) (content : Bytes)
  | makeFolder (goal : Place)

namespace Act

variable {x : Act}

/-- When a folder cannot be made, the disk stays as it is. -/
def perform (d : Disk) : Act → Except DiskError Unit × Disk
  | write mark base ident content => d.replace mark base ident content
  | makeFolder goal =>
    match d.makeFolder goal with
    | .error e => (.error e, d)
    | .ok after => (.ok (), after)

def next (d : Disk) (x : Act) : Disk := (x.perform d).2

/-- The mark of a write is new where it is made. -/
def IsNew (d : Disk) : Act → Prop
  | write mark base _ _ => d.IsNewMark base mark
  | makeFolder _ => True

/-- What is written to a place, by a write that succeeds. -/
def written? (d : Disk) (p : Place) : Act → Option Bytes
  | write mark base ident content =>
    if base ++ [ident] = p ∧ (d.replace mark base ident content).1 = .ok () then some content
    else none
  | makeFolder _ => none

/-- A place has the temporary file of a write that fails. -/
def Leaves (d : Disk) (p : Place) (content : Bytes) : Act → Prop
  | write mark base ident given =>
    (∃ e, (d.replace mark base ident given).1 = .error e) ∧
      p = base ++ [temporaryName mark ident] ∧ given = content
  | makeFolder _ => False

/-- All that an act can do: it writes one file, or it leaves at most one file where there was
nothing, or it makes folders. -/
theorem next_cases (h : x.IsNew d) :
    (∃ p content, d.OneFile (x.next d) p ∧ (x.next d).node? p = some (.file content) ∧
      ∀ q, x.written? d q = if p = q then some content else none) ∨
    (∃ p, d.OneFile (x.next d) p ∧ d.node? p = none ∧
      (∀ content, (x.next d).node? p = some (.file content) → x.Leaves d p content) ∧
      ∀ q, x.written? d q = none) ∨
    ∃ goal, d.GainsFolders (x.next d) goal ∧ ∀ q, x.written? d q = none := by
  cases x with
  | write mark base ident content =>
    rcases hr : d.replace mark base ident content with ⟨result, after⟩
    have hmark : d.IsNewMark base mark := h
    simp only [next, perform, written?, Leaves, hr]
    cases result with
    | ok =>
      refine Or.inl ⟨base ++ [ident], content, hmark.oneFile_of_replace hr,
        hmark.node?_of_replace hr, fun q => ?_⟩
      simp
    | error e =>
      have hfree := hmark.node?_temporary ident
      refine Or.inr (Or.inl ⟨base ++ [temporaryName mark ident], ?_, hfree, ?_, by simp⟩)
      · rcases hmark.replace_error_cases hr with rfl | rfl
        · exact .refl _ _
        · exact hmark.oneFile_temporary ident content
      · intro given hgiven
        refine ⟨⟨e, rfl⟩, rfl, ?_⟩
        rcases hmark.replace_error_cases hr with rfl | rfl
        · simp [hfree] at hgiven
        · rw [node?_insert_self (by simp)] at hgiven
          simpa using hgiven
  | makeFolder goal =>
    refine Or.inr (Or.inr ⟨goal, ?_, fun _ => rfl⟩)
    cases hm : d.makeFolder goal with
    | error e => simpa only [next, perform, hm] using .refl d goal
    | ok after => simpa only [next, perform, hm] using (makeFolder_ok hm).1

theorem folder_next (h : x.IsNew d) (hr : d.node? r = some .folder) :
    (x.next d).node? r = some .folder := by
  rcases next_cases h with ⟨p, content, hone, -, -⟩ | ⟨p, hone, -, -, -⟩ | ⟨goal, hgains, -⟩
  · exact (hone.folders r).mp hr
  · exact (hone.folders r).mp hr
  · exact hgains.kept r _ hr

theorem node?_next_of_written (h : x.IsNew d) (hw : x.written? d p = some content) :
    (x.next d).node? p = some (.file content) := by
  rcases next_cases h with ⟨q, given, -, hfile, hwrites⟩ | ⟨q, -, -, -, hnone⟩ | ⟨goal, -, hnone⟩
  · rw [hwrites] at hw
    split at hw
    · next heq =>
      subst q
      rw [hfile, Option.some.inj hw]
    · cases hw
  · simp [hnone] at hw
  · simp [hnone] at hw

/-- What is not written to is kept. -/
theorem node?_next_of_some (h : x.IsNew d) (hw : x.written? d p = none)
    (hn : d.node? p = some n) : (x.next d).node? p = some n := by
  rcases next_cases h with ⟨q, given, hone, -, hwrites⟩ | ⟨q, hone, hfree, -, -⟩ | ⟨goal, hgains, -⟩
  · have hpq : p ≠ q := by
      rintro rfl
      simp [hwrites] at hw
    rw [hone.others p hpq, hn]
  · have hpq : p ≠ q := by
      rintro rfl
      simp [hfree] at hn
    rw [hone.others p hpq, hn]
  · exact hgains.kept p n hn

/-- A file that is new without being written to is one that a failed write leaves. -/
theorem leaves_of_node?_next (h : x.IsNew d) (hw : x.written? d p = none) (hnone : d.node? p = none)
    (hfile : (x.next d).node? p = some (.file content)) : x.Leaves d p content := by
  rcases next_cases h with
    ⟨q, given, hone, -, hwrites⟩ | ⟨q, hone, -, hleaves, -⟩ | ⟨goal, hgains, -⟩
  · have hpq : p ≠ q := by
      rintro rfl
      simp [hwrites] at hw
    simp [hone.others p hpq, hnone] at hfile
  · by_cases hpq : p = q
    · subst q
      exact hleaves content hfile
    · simp [hone.others p hpq, hnone] at hfile
  · obtain ⟨hfolder, -⟩ := hgains.gained p _ hnone hfile
    cases hfolder

theorem locate_of_written (h : x.IsNew d) (hw : x.written? d (base ++ [ident]) = some content) :
    d.locate base ident = .ok (base ++ [ident]) := by
  cases x with
  | makeFolder goal => simp [written?] at hw
  | write mark base' ident' given =>
    rcases hr : d.replace mark base' ident' given with ⟨result, after⟩
    have hmark : d.IsNewMark base' mark := h
    simp only [written?, hr] at hw
    split at hw
    · next hboth =>
      obtain ⟨hplace, rfl⟩ := hboth
      obtain ⟨rfl, rfl⟩ : base' = base ∧ ident' = ident := by simpa using hplace
      exact hmark.locate_of_replace hr
    · cases hw

end Act

variable {acts : List Act}

def afterAll (d : Disk) : List Act → Disk
  | [] => d
  | x :: acts => (x.next d).afterAll acts

/-- Every mark of a run is new when it is used. -/
def AreNew (d : Disk) : List Act → Prop
  | [] => True
  | x :: acts => x.IsNew d ∧ (x.next d).AreNew acts

/-- What the last write to a place has written, of those that succeeded. -/
def lastWritten? (d : Disk) (p : Place) : List Act → Option Bytes
  | [] => none
  | x :: acts => ((x.next d).lastWritten? p acts).or (x.written? d p)

/-- A place has a temporary file because some write of a run failed. -/
def IsLeft (d : Disk) (p : Place) (content : Bytes) : List Act → Prop
  | [] => False
  | x :: acts => x.Leaves d p content ∨ (x.next d).IsLeft p content acts

theorem folder_afterAll (h : d.AreNew acts) (hr : d.node? r = some .folder) :
    (d.afterAll acts).node? r = some .folder := by
  induction acts generalizing d with
  | nil => exact hr
  | cons x acts ih => exact ih h.2 (Act.folder_next h.1 hr)

theorem node?_afterAll_of_some (h : d.AreNew acts) (hw : d.lastWritten? p acts = none)
    (hn : d.node? p = some n) : (d.afterAll acts).node? p = some n := by
  induction acts generalizing d with
  | nil => exact hn
  | cons x acts ih =>
    obtain ⟨hlater, hx⟩ := Option.or_eq_none_iff.mp hw
    exact ih h.2 hlater (Act.node?_next_of_some h.1 hx hn)

theorem node?_afterAll_of_lastWritten (h : d.AreNew acts)
    (hw : d.lastWritten? p acts = some content) :
    (d.afterAll acts).node? p = some (.file content) := by
  induction acts generalizing d with
  | nil => cases hw
  | cons x acts ih =>
    rcases Option.or_eq_some_iff.mp hw with hlater | ⟨hnone, hx⟩
    · exact ih h.2 hlater
    · have hnext := Act.node?_next_of_written h.1 hx
      exact node?_afterAll_of_some (d := x.next d) h.2 hnone hnext

theorem file_of_not_written (h : d.AreNew acts) (hw : d.lastWritten? p acts = none)
    (hfile : (d.afterAll acts).node? p = some (.file content)) :
    d.node? p = some (.file content) ∨ d.IsLeft p content acts := by
  induction acts generalizing d with
  | nil => exact Or.inl hfile
  | cons x acts ih =>
    obtain ⟨hlater, hx⟩ := Option.or_eq_none_iff.mp hw
    rcases ih h.2 hlater hfile with hnext | hleft
    · cases hn : d.node? p with
      | none => exact Or.inr (Or.inl (Act.leaves_of_node?_next h.1 hx hn hnext))
      | some n =>
        -- What was there is what is there now.
        have hkept := Act.node?_next_of_some h.1 hx hn
        exact Or.inl (hkept.symm.trans hnext)
    · exact Or.inr (Or.inr hleft)

theorem locate_of_lastWritten (h : d.AreNew acts)
    (hw : d.lastWritten? (base ++ [ident]) acts = some content) :
    (d.afterAll acts).locate base ident = .ok (base ++ [ident]) := by
  induction acts generalizing d with
  | nil => cases hw
  | cons x acts ih =>
    rcases Option.or_eq_some_iff.mp hw with hlater | ⟨-, hx⟩
    · exact ih h.2 hlater
    · have hlocate := Act.locate_of_written h.1 hx
      exact locate_of_folders (fun _ hr => folder_afterAll h hr) hlocate

/-- Each file reads as what was last written to it. One that was not written to is as it was at the
start, or it was left by a write that failed. -/
structure ReadsLast (d : Disk) (acts : List Act) : Prop where
  written : ∀ base ident content, d.lastWritten? (base ++ [ident]) acts = some content →
    (d.afterAll acts).read base ident = .ok content ∧ (d.afterAll acts).has base ident = true
  file : ∀ base path content, (d.afterAll acts).read base path = .ok content →
    ∃ p, (d.afterAll acts).locate base path = .ok p ∧
      (d.lastWritten? p acts = some content ∨ d.lastWritten? p acts = none ∧
        (d.node? p = some (.file content) ∨ d.IsLeft p content acts))
  kept : ∀ base path content, d.read base path = .ok content →
    ∃ p, d.locate base path = .ok p ∧
      (d.afterAll acts).read base path = .ok ((d.lastWritten? p acts).getD content)

theorem AreNew.readsLast (h : d.AreNew acts) : d.ReadsLast acts where
  written base ident content hw := by
    have hread : (d.afterAll acts).read base ident = .ok content := by
      rw [read_eq_ok_iff, find, locate_of_lastWritten h hw]
      simp only [node?_afterAll_of_lastWritten h hw]
    exact ⟨hread, has_of_read hread⟩
  file base path content hread := by
    obtain ⟨p, hp, hn⟩ := find_eq_ok (read_eq_ok_iff.mp hread)
    refine ⟨p, hp, ?_⟩
    cases hw : d.lastWritten? p acts with
    | none => exact Or.inr ⟨rfl, file_of_not_written h hw hn⟩
    | some given =>
      have hgiven := node?_afterAll_of_lastWritten h hw
      rw [hn] at hgiven
      simp_all
  kept base path content hread := by
    obtain ⟨p, hp, hn⟩ := find_eq_ok (read_eq_ok_iff.mp hread)
    have hlater := locate_of_folders (fun _ => folder_afterAll h) hp
    refine ⟨p, hp, ?_⟩
    rw [read_eq_ok_iff, find, hlater]
    cases hw : d.lastWritten? p acts with
    | none => simp only [node?_afterAll_of_some h hw hn, Option.getD_none]
    | some given => simp only [node?_afterAll_of_lastWritten h hw, Option.getD_some]

/-- A write that succeeds sets one file. One that fails changes nothing, but for a temporary file
that it may leave. So after any run each file reads as what was last written to it. -/
theorem behaves_as_map (d : Disk) (acts : List Act) :
    (∀ mark base ident content after, d.IsNewMark base mark →
      d.replace mark base ident content = (.ok (), after) →
        d.Stored after mark base ident content) ∧
    (∀ mark base ident content e after, d.IsNewMark base mark →
      d.replace mark base ident content = (.error e, after) →
        d.Refused after mark base ident content) ∧
    (d.AreNew acts → d.ReadsLast acts) := by
  refine ⟨?_, ?_, ?_⟩
  · intro mark base ident content after hmark hok
    exact hmark.stored hok
  · intro mark base ident content e after hmark herror
    exact hmark.refused herror
  · intro hnew
    exact hnew.readsLast

/-- A run on a disk with a file and a folder: the file is written twice, and in between a write to
the name of a folder fails and leaves its temporary file. -/
theorem behaves_as_map_twice :
    ∃ (d : Disk) (acts : List Act) (written refused : Disk),
      d.replace (Ulid.text 0 0) ["data"] "a" [1] = (.ok (), written) ∧
      d.Stored written (Ulid.text 0 0) ["data"] "a" [1] ∧
      d.replace (Ulid.text 0 0) ["data"] "b" [2] = (.error .isADirectory, refused) ∧
      refused ≠ d ∧ d.Refused refused (Ulid.text 0 0) ["data"] "b" [2] ∧
      (d.afterAll acts).read ["data"] "a" = .ok [3] ∧ d.ReadsLast acts := by
  let d : Disk := ⟨[(["data"], .folder), (["data", "b"], .folder), (["data", "a"], .file [0])]⟩
  let first := Act.write (Ulid.text 0 0) ["data"] "a" [1]
  let second := Act.write (Ulid.text 0 1) ["data"] "b" [2]
  let third := Act.makeFolder ["data", "c"]
  let last := Act.write (Ulid.text 0 2) ["data"] "a" [3]
  let acts := [first, second, third, last]
  have hmark : d.IsNewMark ["data"] (Ulid.text 0 0) :=
    isNewMark_text (unused_of_forall (by decide +kernel) ["data"])
  have hnew : d.AreNew acts := by
    refine ⟨hmark, ?_, trivial, ?_, trivial⟩
    · exact isNewMark_text (unused_of_forall (by decide +kernel) ["data"])
    · exact isNewMark_text (unused_of_forall (by decide +kernel) ["data"])
  have hok : d.replace (Ulid.text 0 0) ["data"] "a" [1] =
      (.ok (), (d.replace (Ulid.text 0 0) ["data"] "a" [1]).2) := by decide +kernel
  have herror : d.replace (Ulid.text 0 0) ["data"] "b" [2] =
      (.error .isADirectory, (d.replace (Ulid.text 0 0) ["data"] "b" [2]).2) := by decide +kernel
  have hchanged : (d.replace (Ulid.text 0 0) ["data"] "b" [2]).2 ≠ d := by decide +kernel
  have hlast : d.lastWritten? ["data", "a"] acts = some [3] := by decide +kernel
  obtain ⟨hstored, hrefused, hreads⟩ := behaves_as_map d acts
  have hrun := hreads hnew
  exact ⟨d, acts, _, _, hok, hstored _ _ _ _ _ hmark hok, herror, hchanged,
    hrefused _ _ _ _ _ _ hmark herror, (hrun.written ["data"] "a" [3] hlast).1, hrun⟩

end Linkshelf.Disk
