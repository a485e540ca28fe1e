import Linkshelf.Proofs.Disk.OneFile

/-! One write among all the files there are. Whether it succeeds or fails, a single place of the disk
is concerned, and a path that does not lead there finds what it found before. -/
namespace Linkshelf.Disk

variable {d after : Disk} {p base : Place} {path mark ident name : String}
  {content : Bytes} {e : DiskError}

theorem read_eq_ok_iff :
    d.read base path = .ok content ↔ d.find base path = .ok (.file content) := by
  cases hf : d.find base path with
  | error e => simp [read, hf]
  | ok n =>
    cases n with
    | file bytes => simp [read, hf]
    | folder => simp [read, hf]

theorem has_of_read (h : d.read base path = .ok content) : d.has base path = true := by
  simp only [has, read_eq_ok_iff.mp h]

/-- Where a path begins. -/
def start (base : Place) (path : String) : Place := if Text.startsWith "/" path then [] else base

theorem locate_eq_follow (hnul : '\x00' ∉ path.toList) (d : Disk) (base : Place) :
    d.locate base path = d.follow (start base path) (Text.split '/' path) := by
  have hfalse : path.toList.contains '\x00' = false := by simpa using hnul
  simp only [locate, hfalse, Bool.false_eq_true, if_false, start]

/-- Where there is a new file or a file with new content, a way that led through nothing now ends at
the file. All other ways lead where they led. -/
theorem OneFile.follow_cases (h : d.OneFile after p) (hfile : after.node? p = some (.file content))
    (r : Place) (names : List String) :
    after.follow r names = d.follow r names ∨
      (∃ front name rest, names = front ++ name :: rest ∧ after.follow r front = .ok p) ∧
        d.follow r names = .error .notFound ∧ after.follow r names = .error .notADirectory := by
  induction names generalizing r with
  | nil => exact Or.inl rfl
  | cons name names ih =>
    by_cases hr : r = p
    · subst r
      have hclosed : after.step p name = .error .notADirectory := by simp only [step, hfile]
      cases hp : d.node? p with
      | none =>
        have hnothing : d.step p name = .error .notFound := by simp only [step, hp]
        refine Or.inr ⟨⟨[], name, names, rfl, rfl⟩, ?_, ?_⟩
        · simp only [follow, hnothing]
        · simp only [follow, hclosed]
      | some n =>
        cases n with
        | file old =>
          have hbefore : d.step p name = .error .notADirectory := by simp only [step, hp]
          exact Or.inl (by simp only [follow, hbefore, hclosed])
        | folder =>
          have hfolder := (h.folders p).mp hp
          simp [hfile] at hfolder
    · have hstep : after.step r name = d.step r name := step_congr (h.others r hr) name
      cases hs : d.step r name with
      | error e => exact Or.inl (by simp only [follow, hstep, hs])
      | ok q =>
        simp only [follow, hstep, hs]
        rcases ih q with hsame | ⟨⟨front, next, rest, rfl, hfront⟩, herrors⟩
        · exact Or.inl hsame
        · refine Or.inr ⟨⟨name :: front, next, rest, rfl, ?_⟩, herrors⟩
          simp only [follow, hstep, hs, hfront]

/-- A path goes on below a place. -/
def GoesBelow (d : Disk) (p base : Place) (path : String) : Prop :=
  ∃ front name rest, Text.split '/' path = front ++ name :: rest ∧
    d.follow (start base path) front = .ok p

/-- A path is answered as before. Only if it goes on below a place where there was nothing and where
there is a file, it fails with another error. -/
structure AnswersAlike (before after : Disk) (p base : Place) (path : String) : Prop where
  has : after.has base path = before.has base path
  read : after.read base path = before.read base path ∨
    after.GoesBelow p base path ∧ before.read base path = .error .notFound ∧
      after.read base path = .error .notADirectory

theorem AnswersAlike.of_find (h : after.find base path = d.find base path) (p : Place) :
    d.AnswersAlike after p base path where
  has := by simp only [Disk.has, h]
  read := Or.inl (by simp only [Disk.read, h])

theorem OneFile.answers (h : d.OneFile after p) (hfile : after.node? p = some (.file content))
    (base : Place) (path : String) :
    after.locate base path = .ok p ∨ d.AnswersAlike after p base path := by
  by_cases hnul : '\x00' ∈ path.toList
  · refine Or.inr (.of_find ?_ p)
    simp only [find, locate_nul hnul]
  · rcases h.follow_cases hfile (start base path) (Text.split '/' path) with
      hsame | ⟨hbelow, hbefore, hafter⟩
    · rw [← locate_eq_follow hnul, ← locate_eq_follow hnul] at hsame
      cases hl : d.locate base path with
      | error e =>
        refine Or.inr (.of_find ?_ p)
        simp only [find, hsame, hl]
      | ok q =>
        by_cases hq : q = p
        · subst q
          exact Or.inl (hsame.trans hl)
        · refine Or.inr (.of_find ?_ p)
          simp only [find, hsame, hl, h.others q hq]
    · rw [← locate_eq_follow hnul] at hbefore hafter
      refine Or.inr ⟨?_, Or.inr ⟨hbelow, ?_, ?_⟩⟩
      · simp only [has, find, hbefore, hafter]
      · simp only [read, find, hbefore]
      · simp only [read, find, hafter]

/-- The file holds the content, there is no temporary file, and all else is as it was. -/
structure Stored (before after : Disk) (mark : String) (base : Place) (ident : String)
    (content : Bytes) : Prop where
  read : after.read base ident = .ok content
  has : after.has base ident = true
  moved : after.node? (base ++ [temporaryName mark ident]) = none
  kept : ∀ p, p ≠ base ++ [ident] → after.node? p = before.node? p
  answers : ∀ base' path, after.locate base' path = .ok (base ++ [ident]) ∨
    before.AnswersAlike after (base ++ [ident]) base' path

/-- All is as it was, except that there may be the temporary file, where there was nothing. -/
structure Refused (before after : Disk) (mark : String) (base : Place) (ident : String)
    (content : Bytes) : Prop where
  free : before.node? (base ++ [temporaryName mark ident]) = none
  left : after = before ∨
    after.node? (base ++ [temporaryName mark ident]) = some (.file content)
  kept : ∀ p, p ≠ base ++ [temporaryName mark ident] → after.node? p = before.node? p
  answers : ∀ base' path,
    after.locate base' path = .ok (base ++ [temporaryName mark ident]) ∧
      before.has base' path = false ∨
    before.AnswersAlike after (base ++ [temporaryName mark ident]) base' path

theorem temporaryName_ne (mark ident : String) : temporaryName mark ident ≠ ident := by
  intro h
  have hlength := congrArg List.length (congrArg String.toList h)
  simp [toList_temporaryName] at hlength
  omega

theorem replace_eq_ok (h : d.replace mark base ident content = (.ok (), after)) :
    ∃ source p, d.locate base (temporaryName mark ident) = .ok source ∧
      (d.insert source (.file content)).goal base ident = .ok p := by
  rw [replace] at h
  split at h
  · cases h
  · next source hl =>
    split at h
    · cases h
    · next written hw =>
      split at h
      · cases h
      · next p hg =>
        obtain ⟨r, hr, -, rfl⟩ := write_eq_ok hw
        obtain rfl : source = r := by simpa [hl] using hr
        exact ⟨source, p, hl, hg⟩

theorem not_isDotted_of_goal (hslash : '/' ∉ name.toList) (h : d.goal base name = .ok p) :
    ¬ IsDotted name := by
  rw [goal, split_name hslash, List.getLast?_singleton] at h
  rintro (rfl | rfl | rfl)
  all_goals cases h

namespace IsNewMark

variable (hmark : d.IsNewMark base mark)

include hmark

/-- What can be replaced is a file in the folder itself. -/
theorem locate_of_replace (h : d.replace mark base ident content = (.ok (), after)) :
    d.locate base ident = .ok (base ++ [ident]) := by
  obtain ⟨source, p, hl, hg⟩ := replace_eq_ok h
  obtain ⟨hslash, hnul, -⟩ := hmark.name_of_locate hl
  obtain ⟨q, hq, -⟩ := hmark.oneFile_replace h
  have hstep : d.step base ident = .ok q := by rw [← locate_name hnul hslash, hq]
  rw [hq, step_undotted (not_isDotted_of_goal hslash hg) hstep]

theorem oneFile_of_replace (h : d.replace mark base ident content = (.ok (), after)) :
    d.OneFile after (base ++ [ident]) := by
  obtain ⟨p, hp, hone⟩ := hmark.oneFile_replace h
  obtain rfl : base ++ [ident] = p := Except.ok.inj ((hmark.locate_of_replace h).symm.trans hp)
  exact hone

theorem node?_of_replace (h : d.replace mark base ident content = (.ok (), after)) :
    after.node? (base ++ [ident]) = some (.file content) := by
  obtain ⟨p, hp, hn⟩ := find_eq_ok (find_replace h)
  have hlocate := (hmark.oneFile_of_replace h).locate (hmark.locate_of_replace h)
  obtain rfl : base ++ [ident] = p := Except.ok.inj (hlocate.symm.trans hp)
  exact hn

theorem stored (h : d.replace mark base ident content = (.ok (), after)) :
    d.Stored after mark base ident content := by
  have hone := hmark.oneFile_of_replace h
  have hread : after.read base ident = .ok content := read_eq_ok_iff.mpr (find_replace h)
  have hne : base ++ [temporaryName mark ident] ≠ base ++ [ident] := by
    simpa using temporaryName_ne mark ident
  refine ⟨hread, has_of_read hread, ?_, hone.others, hone.answers (hmark.node?_of_replace h)⟩
  rw [hone.others _ hne, hmark.node?_temporary]

/-- A replacement that fails has done nothing, or has made the temporary file and no more. -/
theorem replace_error_cases (h : d.replace mark base ident content = (.error e, after)) :
    after = d ∨ after = d.insert (base ++ [temporaryName mark ident]) (.file content) := by
  rcases replace_cases d mark base ident content with
    ⟨x, hx⟩ | ⟨source, hl, -, ⟨x, hx⟩ | ⟨p, -, -, hok⟩⟩
  · obtain ⟨-, rfl⟩ : x = e ∧ d = after := by simpa [hx] using h
    exact Or.inl rfl
  · obtain ⟨-, rfl⟩ : x = e ∧ d.insert source (.file content) = after := by simpa [hx] using h
    obtain ⟨-, -, rfl⟩ := hmark.name_of_locate hl
    exact Or.inr rfl
  · simp [hok] at h

theorem oneFile_temporary (ident : String) (content : Bytes) :
    d.OneFile (d.insert (base ++ [temporaryName mark ident]) (.file content))
      (base ++ [temporaryName mark ident]) := by
  apply oneFile_insert
  simp [hmark.node?_temporary]

theorem refused (h : d.replace mark base ident content = (.error e, after)) :
    d.Refused after mark base ident content := by
  have hfree := hmark.node?_temporary ident
  rcases hmark.replace_error_cases h with rfl | rfl
  · exact ⟨hfree, Or.inl rfl, fun _ _ => rfl, fun _ _ => Or.inr (.of_find rfl _)⟩
  · have hone := hmark.oneFile_temporary ident content
    have hfile := node?_insert_self (p := base ++ [temporaryName mark ident]) (by simp) d
      (.file content)
    refine ⟨hfree, Or.inr hfile, hone.others, ?_⟩
    intro base' path
    rcases hone.answers hfile base' path with hlocate | halike
    · -- The folders are the same, so the path led to the same place, and nothing was there.
      have hbefore := locate_of_folders (fun r => (hone.folders r).mpr) hlocate
      exact Or.inl ⟨hlocate, by simp only [has, find, hbefore, hfree]⟩
    · exact Or.inr halike

end IsNewMark
end Linkshelf.Disk
