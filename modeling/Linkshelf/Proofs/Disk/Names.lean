import Linkshelf.Proofs.Disk.Replace
import Linkshelf.Proofs.Text.Ulid

/-! Names on a disk. A path leads to a place of its last name, so a temporary file is never the file
that it is to replace. It can be written at all just when the path is a single name and leaves room
for a mark. -/
namespace Linkshelf.Disk

variable {d after : Disk} {p q base source : Place} {n : Node} {path mark ident name : String}
  {names : List String} {content : Bytes} {e : DiskError}

theorem mem_of_node? (hp : p ≠ []) (h : d.node? p = some n) : (p, n) ∈ d.nodes := by
  rw [node?, if_neg hp] at h
  obtain ⟨before, rest, hnodes, -⟩ := List.lookup_eq_some_iff.mp h
  rw [hnodes]
  simp

theorem find_eq_ok (h : d.find base path = .ok n) :
    ∃ p, d.locate base path = .ok p ∧ d.node? p = some n := by
  cases hp : d.locate base path with
  | error e => simp [find, hp] at h
  | ok p =>
    cases hn : d.node? p with
    | none => simp [find, hp, hn] at h
    | some m =>
      obtain rfl : m = n := by simpa [find, hp, hn] using h
      exact ⟨p, rfl, hn⟩

/-- Whatever is on the disk is in a folder. -/
def IsTree (d : Disk) : Prop := ∀ m ∈ d.nodes, d.node? m.1.dropLast = some .folder

instance (d : Disk) : Decidable d.IsTree :=
  inferInstanceAs (Decidable (∀ m ∈ d.nodes, d.node? m.1.dropLast = some .folder))

theorem IsTree.parent (h : d.IsTree) (hp : d.node? p = some n) :
    d.node? p.dropLast = some .folder := by
  by_cases hroot : p = []
  · subst p
    exact d.node?_root
  · exact h (p, n) (mem_of_node? hroot hp)

/-- A name that leads to no new place: it stays, or it goes back. -/
def IsDotted (name : String) : Prop := name = "" ∨ name = "." ∨ name = ".."

theorem not_isDotted (h : 2 < name.length) : ¬ IsDotted name := by
  rintro (rfl | rfl | rfl) <;> exact absurd h (by decide)

theorem step_dotted (htree : d.IsTree) (hname : IsDotted name) (h : d.step p name = .ok q) :
    d.node? q = some .folder := by
  have hfolder := step_eq_ok h
  rw [step, hfolder] at h
  rcases hname with rfl | rfl | rfl
  · obtain rfl : p = q := by simpa using h
    exact hfolder
  · obtain rfl : p = q := by simpa using h
    exact hfolder
  · obtain rfl : p.dropLast = q := by simpa using h
    exact htree.parent hfolder

theorem step_undotted (hname : ¬ IsDotted name) (h : d.step p name = .ok q) : q = p ++ [name] := by
  have hfolder := step_eq_ok h
  simp only [IsDotted, not_or] at hname
  rw [step, hfolder] at h
  simp only [hname, Bool.or_self, decide_false, if_false, Bool.false_eq_true] at h
  split at h
  · cases h
  · exact (Except.ok.inj h).symm

theorem follow_concat (h : d.follow p (names ++ [name]) = .ok q) :
    ∃ r, d.step r name = .ok q := by
  induction names generalizing p with
  | nil =>
    cases hs : d.step p name with
    | error e => simp [follow, hs] at h
    | ok r =>
      obtain rfl : r = q := by simpa [follow, hs] using h
      exact ⟨p, hs⟩
  | cons first names ih =>
    cases hs : d.step p first with
    | error e => simp [follow, hs] at h
    | ok r => exact ih (by simpa [follow, hs] using h)

def lastName (path : String) : String := .ofList (path.toList.rtakeWhile (· != '/'))

theorem split_eq_concat (path : String) :
    ∃ names, Text.split '/' path = names ++ [lastName path] := by
  have hlast : (Text.split '/' path).getLast? = some (lastName path) := by
    rw [Text.split, List.getLast?_map, Chars.getLast?_split, Option.map_some, lastName]
  obtain ⟨names, hnames⟩ := List.getLast?_eq_some_iff.mp hlast
  exact ⟨names, hnames⟩

theorem locate_last (h : d.locate base path = .ok p) :
    ∃ r, d.step r (lastName path) = .ok p := by
  obtain ⟨names, hnames⟩ := split_eq_concat path
  rw [locate] at h
  split at h
  · cases h
  · rw [hnames] at h
    exact follow_concat h

theorem length_rtakeWhile_le {p : Char → Bool} (xs cs ds : List Char) (hds : ∀ c ∈ ds, p c = true) :
    (cs.rtakeWhile p).length + ds.length ≤ ((xs ++ cs ++ ds).rtakeWhile p).length := by
  have hall : ∀ c ∈ ds.reverse, p c = true := fun c hc => hds c (List.mem_reverse.mp hc)
  have hlonger : (cs.reverse.takeWhile p).length ≤
      ((cs.reverse ++ xs.reverse).takeWhile p).length := by
    rw [List.takeWhile_append]
    split
    · next hlength => rw [hlength, List.length_append]; omega
    · exact Nat.le_refl _
  rw [List.rtakeWhile, List.rtakeWhile, List.reverse_append, List.reverse_append,
    List.takeWhile_append_of_pos hall]
  simp only [List.length_append, List.length_reverse]
  omega

theorem length_lastName_temporaryName (mark ident : String) :
    (lastName ident).length + 4 ≤ (lastName (temporaryName mark ident)).length := by
  have htmp : ".tmp".toList.all (· != '/') = true := by decide +kernel
  have hlength : ".tmp".toList.length = 4 := by decide +kernel
  have hle := length_rtakeWhile_le (mark ++ "-").toList ident.toList ".tmp".toList
    (List.all_eq_true.mp htmp)
  rw [hlength] at hle
  rw [lastName, lastName, temporaryName, String.length_ofList, String.length_ofList,
    String.toList_append, String.toList_append]
  exact hle

theorem locate_ne_temporary (htree : d.IsTree) (hp : d.locate base ident = .ok p)
    (hsource : d.locate base (temporaryName mark ident) = .ok source)
    (hfile : d.node? source ≠ some .folder) : p ≠ source := by
  rintro rfl
  have hlength := length_lastName_temporaryName mark ident
  obtain ⟨r, hr⟩ := locate_last hp
  obtain ⟨t, ht⟩ := locate_last hsource
  have htemporary := step_undotted (not_isDotted (by omega)) ht
  by_cases hdotted : IsDotted (lastName ident)
  · exact hfile (step_dotted htree hdotted hr)
  · have hident := step_undotted hdotted hr
    have hlast : lastName ident = lastName (temporaryName mark ident) := by
      have hsame := congrArg List.getLast? (hident.symm.trans htemporary)
      simpa using hsame
    rw [← hlast] at hlength
    omega

/-- Where the folders are the same, a path leads to the same place, and to the same node if that was
left alone. -/
theorem find_congr (hfolders : ∀ r, d.node? r = some .folder ↔ after.node? r = some .folder)
    (hsame : ∀ p, d.locate base path = .ok p → after.node? p = d.node? p) :
    (after.find base path).toOption = (d.find base path).toOption := by
  cases hp : d.locate base path with
  | ok p =>
    rw [find, find, hp, locate_of_folders (fun r => (hfolders r).mp) hp]
    simp only [hsame p hp]
  | error x =>
    cases hafter : after.locate base path with
    | ok p =>
      rw [locate_of_folders (fun r => (hfolders r).mpr) hafter] at hp
      cases hp
    | error y =>
      rw [find, find, hp, hafter]
      rfl

theorem find_of_toOption_eq (h : (after.find base path).toOption = (d.find base path).toOption)
    (hn : d.find base path = .ok n) : after.find base path = .ok n := by
  rw [hn] at h
  cases hafter : after.find base path with
  | error e => simp [hafter, Except.toOption] at h
  | ok m => simpa [hafter, Except.toOption] using h

/-- A replacement that fails keeps what the path leads to. -/
theorem find_replace_error (htree : d.IsTree)
    (h : d.replace mark base ident content = (.error e, after)) :
    (after.find base ident).toOption = (d.find base ident).toOption := by
  rcases replace_cases d mark base ident content with
    ⟨x, hx⟩ | ⟨source, hl, hsource, ⟨x, hx⟩ | ⟨p, -, -, hok⟩⟩
  · obtain ⟨-, rfl⟩ : x = e ∧ d = after := by simpa [hx] using h
    rfl
  · obtain ⟨-, rfl⟩ : x = e ∧ d.insert source (.file content) = after := by simpa [hx] using h
    refine find_congr (fun r => (folder_insert_file hsource content r).symm) fun p hp => ?_
    rw [node?_insert_of_ne (locate_ne_temporary htree hp hl hsource)]
  · simp [hok] at h

/-- The mark is a part of a name, and a new one: no name in the folder starts with it. -/
structure IsNewMark (d : Disk) (base : Place) (mark : String) : Prop where
  slash_notMem : '/' ∉ mark.toList
  nul_notMem : '\x00' ∉ mark.toList
  unused : ∀ name, mark.toList <+: name.toList → d.node? (base ++ [name]) = none

theorem unused_of_forall (h : ∀ m ∈ d.nodes, ∀ name ∈ m.1, ¬ mark.toList <+: name.toList)
    (base : Place) (name : String) (hname : mark.toList <+: name.toList) :
    d.node? (base ++ [name]) = none := by
  cases hn : d.node? (base ++ [name]) with
  | none => rfl
  | some n =>
    have hmem : (base ++ [name], n) ∈ d.nodes := mem_of_node? (by simp) hn
    exact absurd hname (h _ hmem name (by simp))

theorem isNewMark_text {millis random : Nat}
    (h : ∀ name, (Ulid.text millis random).toList <+: name.toList →
      d.node? (base ++ [name]) = none) : d.IsNewMark base (Ulid.text millis random) where
  slash_notMem hmem := absurd (Ulid.mem_text hmem) (by decide +kernel)
  nul_notMem hmem := absurd (Ulid.mem_text hmem) (by decide +kernel)
  unused := h

/-- A single name that leaves room for a mark in the name of a temporary file. -/
structure IsSavable (mark ident : String) : Prop where
  slash_notMem : '/' ∉ ident.toList
  short : (temporaryName mark ident).utf8ByteSize ≤ maxName

theorem isSavable_text_iff {millis random : Nat} :
    IsSavable (Ulid.text millis random) ident ↔
      '/' ∉ ident.toList ∧ ident.utf8ByteSize ≤ 224 := by
  have hdash : "-".utf8ByteSize = 1 := by decide +kernel
  have htmp : ".tmp".utf8ByteSize = 4 := by decide +kernel
  have hsize : (temporaryName (Ulid.text millis random) ident).utf8ByteSize =
      ident.utf8ByteSize + 31 := by
    rw [temporaryName, String.utf8ByteSize_append, String.utf8ByteSize_append,
      String.utf8ByteSize_append, Ulid.utf8ByteSize_text, hdash, htmp]
    omega
  constructor
  · rintro ⟨hslash, hshort⟩
    rw [hsize, maxName] at hshort
    exact ⟨hslash, by omega⟩
  · rintro ⟨hslash, hshort⟩
    refine ⟨hslash, ?_⟩
    rw [hsize, maxName]
    omega

theorem toList_temporaryName (mark ident : String) :
    (temporaryName mark ident).toList =
      mark.toList ++ '-' :: (ident.toList ++ ['.', 't', 'm', 'p']) := by
  have hdash : "-".toList = ['-'] := by decide +kernel
  have htmp : ".tmp".toList = ['.', 't', 'm', 'p'] := by decide +kernel
  simp only [temporaryName, String.toList_append, hdash, htmp, List.append_assoc,
    List.cons_append, List.nil_append]

theorem not_isDotted_of_dash (h : '-' ∈ name.toList) : ¬ IsDotted name := by
  rintro (rfl | rfl | rfl) <;> exact absurd h (by decide +kernel)

theorem startsWith_slash_eq_false (h : name.toList.head? ≠ some '/') :
    Text.startsWith "/" name = false := by
  have hslash : "/".toList = ['/'] := by decide +kernel
  rw [Text.startsWith, hslash]
  cases hname : name.toList with
  | nil => rfl
  | cons c cs =>
    have hc : c ≠ '/' := by simpa [hname] using h
    simpa [List.isPrefixOf] using hc.symm

theorem locate_relative (hnul : '\x00' ∉ path.toList) (h : path.toList.head? ≠ some '/') :
    d.locate base path = d.follow base (Text.split '/' path) := by
  have hfalse : path.toList.contains '\x00' = false := by simpa using hnul
  rw [locate, hfalse, startsWith_slash_eq_false h]
  rfl

theorem split_name (hslash : '/' ∉ name.toList) : Text.split '/' name = [name] := by
  have hchars : ∀ c ∈ name.toList, (c == '/') = false := by
    rintro c hc
    simp only [beq_eq_false_iff_ne]
    rintro rfl
    exact hslash hc
  rw [Text.split, Chars.split_eq_splitOnP, List.splitOnP_eq_singleton hchars, List.map_singleton,
    String.ofList_toList]

/-- A single name is looked up in the folder itself. -/
theorem locate_name (hnul : '\x00' ∉ name.toList) (hslash : '/' ∉ name.toList) :
    d.locate base name = d.step base name := by
  rw [locate_relative hnul fun h => hslash (List.mem_of_head? h), split_name hslash, follow]
  cases d.step base name <;> rfl

theorem goal_name (hslash : '/' ∉ name.toList) (hname : ¬ IsDotted name)
    (hp : d.locate base name = .ok p) (hn : d.node? p ≠ some .folder) :
    d.goal base name = .ok p := by
  simp only [IsDotted, not_or] at hname
  obtain ⟨hempty, hdot, hdots⟩ := hname
  rw [goal, split_name hslash, List.getLast?_singleton]
  split
  · next h => exact absurd (Option.some.inj h) hdot
  · next h => exact absurd (Option.some.inj h) hdots
  · next h => exact absurd (Option.some.inj h) hempty
  · simp only [hp]

theorem step_eq_append (hname : ¬ IsDotted name) (hshort : name.utf8ByteSize ≤ maxName)
    (hbase : d.node? base = some .folder) : d.step base name = .ok (base ++ [name]) := by
  simp only [IsDotted, not_or] at hname
  simp [step, hbase, hname, Nat.not_lt.mpr hshort]

/-- A single name is not found where there is nothing in the folder, or no folder. -/
theorem find_name_of_none (hnul : '\x00' ∉ name.toList) (hslash : '/' ∉ name.toList)
    (hname : ¬ IsDotted name) (hnone : d.node? (base ++ [name]) = none) :
    (d.find base name).toOption = none := by
  rw [find, locate_name hnul hslash]
  cases hstep : d.step base name with
  | error e => rfl
  | ok p =>
    obtain rfl := step_undotted hname hstep
    simp only [hnone]
    rfl

theorem locate_nul (h : '\x00' ∈ path.toList) : d.locate base path = .error .nulInName := by
  have htrue : path.toList.contains '\x00' = true := by simpa using h
  rw [locate, htrue, if_pos rfl]

namespace IsNewMark

variable (hmark : d.IsNewMark base mark)

include hmark

theorem head?_temporaryName (ident : String) :
    (temporaryName mark ident).toList.head? ≠ some '/' := by
  rw [toList_temporaryName, List.head?_append]
  cases hm : mark.toList with
  | nil => simp
  | cons c cs =>
    have hc : c ≠ '/' := by
      rintro rfl
      exact hmark.slash_notMem (by simp [hm])
    simpa using hc

theorem slash_notMem_temporaryName (hslash : '/' ∉ ident.toList) :
    '/' ∉ (temporaryName mark ident).toList := by
  simp [toList_temporaryName, hmark.slash_notMem, hslash]

theorem nul_notMem_temporaryName (hnul : '\x00' ∉ ident.toList) :
    '\x00' ∉ (temporaryName mark ident).toList := by
  simp [toList_temporaryName, hmark.nul_notMem, hnul]

/-- Beside a path of several names, the temporary file would be in a folder of its own, which is not
there. -/
theorem locate_temporary_nested (hslash : '/' ∈ ident.toList) :
    ∃ e, d.locate base (temporaryName mark ident) = .error e := by
  by_cases hnul : '\x00' ∈ (temporaryName mark ident).toList
  · exact ⟨_, locate_nul hnul⟩
  · obtain ⟨front, rest, hident, hfront⟩ := List.eq_append_cons_of_mem hslash
    let first : String := .ofList (mark.toList ++ '-' :: front)
    have hchars : ∀ c ∈ mark.toList ++ '-' :: front, (c == '/') = false := by
      rintro c hc
      simp only [beq_eq_false_iff_ne]
      rintro rfl
      simp [hmark.slash_notMem, hfront] at hc
    have hlist : (temporaryName mark ident).toList =
        (mark.toList ++ '-' :: front) ++ '/' :: (rest ++ ['.', 't', 'm', 'p']) := by
      simp [toList_temporaryName, hident]
    obtain ⟨second, others, hothers⟩ := List.exists_cons_of_ne_nil
      (Chars.split_ne_nil (· == '/') (rest ++ ['.', 't', 'm', 'p']))
    have hsplit : Text.split '/' (temporaryName mark ident) =
        first :: .ofList second :: others.map .ofList := by
      rw [Text.split, hlist, Chars.split_append_separator, hothers, Chars.split_eq_splitOnP,
        List.splitOnP_eq_singleton hchars]
      rfl
    rw [locate_relative hnul (hmark.head?_temporaryName ident), hsplit, follow]
    cases hstep : d.step base first with
    | error e => exact ⟨e, rfl⟩
    | ok r =>
      obtain rfl := step_undotted (not_isDotted_of_dash (by simp [first])) hstep
      have hnone : d.node? (base ++ [first]) = none :=
        hmark.unused first (by simp [first])
      exact ⟨.notFound, by simp [follow, step, hnone]⟩

theorem locate_temporary_long (hslash : '/' ∉ ident.toList)
    (hlong : maxName < (temporaryName mark ident).utf8ByteSize) :
    ∃ e, d.locate base (temporaryName mark ident) = .error e := by
  by_cases hnul : '\x00' ∈ (temporaryName mark ident).toList
  · exact ⟨_, locate_nul hnul⟩
  · rw [locate_name hnul (hmark.slash_notMem_temporaryName hslash)]
    have hdash : '-' ∈ (temporaryName mark ident).toList := by simp [toList_temporaryName]
    have hundotted := not_isDotted_of_dash hdash
    simp only [IsDotted, not_or] at hundotted
    cases hbase : d.node? base with
    | none => exact ⟨.notFound, by simp [step, hbase]⟩
    | some node =>
      cases node with
      | file content => exact ⟨.notADirectory, by simp [step, hbase]⟩
      | folder => exact ⟨.nameTooLong, by simp [step, hbase, hundotted, hlong]⟩

/-- Beside any other path there is no temporary file, and nothing is written. -/
theorem replace_unsavable (h : ¬ IsSavable mark ident) (content : Bytes) :
    ∃ e, d.replace mark base ident content = (.error e, d) := by
  have herror : ∃ e, d.locate base (temporaryName mark ident) = .error e := by
    by_cases hslash : '/' ∈ ident.toList
    · exact hmark.locate_temporary_nested hslash
    · refine hmark.locate_temporary_long hslash ?_
      by_contra hshort
      exact h ⟨hslash, Nat.le_of_not_lt hshort⟩
  obtain ⟨e, he⟩ := herror
  exact ⟨e, by simp [replace, he]⟩

/-- In a folder that is there, what is no folder can be replaced by its name. -/
theorem works_of_folder (h : IsSavable mark ident) (hnul : '\x00' ∉ ident.toList)
    (hname : ¬ IsDotted ident) (hbase : d.node? base = some .folder)
    (hfile : d.node? (base ++ [ident]) ≠ some .folder) : d.Works mark base ident := by
  constructor
  · have hdash : '-' ∈ (temporaryName mark ident).toList := by simp [toList_temporaryName]
    refine ⟨base ++ [temporaryName mark ident], ?_, ?_⟩
    · rw [locate_name (hmark.nul_notMem_temporaryName hnul)
        (hmark.slash_notMem_temporaryName h.slash_notMem)]
      exact step_eq_append (not_isDotted_of_dash hdash) h.short hbase
    · rw [hmark.unused _ (by simp [toList_temporaryName])]
      exact (Option.some_ne_none Node.folder).symm
  · have hshort : ident.utf8ByteSize ≤ maxName := by
      have hle := h.short
      simp only [temporaryName, String.utf8ByteSize_append] at hle
      omega
    have hlocate : d.locate base ident = .ok (base ++ [ident]) := by
      rw [locate_name hnul h.slash_notMem]
      exact step_eq_append hname hshort hbase
    exact ⟨_, goal_name h.slash_notMem hname hlocate hfile⟩

/-- A file that a savable name leads to can be replaced. -/
theorem works_of_savable (htree : d.IsTree) (h : IsSavable mark ident)
    (hfile : d.find base ident = .ok (.file content)) : d.Works mark base ident := by
  obtain ⟨p, hp, hn⟩ := find_eq_ok hfile
  have hnul : '\x00' ∉ ident.toList := by
    intro hmem
    rw [locate_nul hmem] at hp
    cases hp
  have hstep : d.step base ident = .ok p := by rw [← hp, locate_name hnul h.slash_notMem]
  have hundotted : ¬ IsDotted ident := by
    intro hdotted
    rw [step_dotted htree hdotted hstep] at hn
    cases hn
  obtain rfl := step_undotted hundotted hstep
  refine hmark.works_of_folder h hnul hundotted (step_eq_ok hstep) ?_
  simp [hn]

end IsNewMark
end Linkshelf.Disk
