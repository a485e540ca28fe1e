import Linkshelf.Proofs.Disk.Names

/-! Folders on a disk. Making a folder adds what is missing on the way to it and nothing else, and
what is on the disk stays in folders whatever is written. -/
namespace Linkshelf.Disk

variable {d after later : Disk} {p q r base done goal source : Place} {n : Node}
  {path mark ident name : String} {names rest : List String} {content : Bytes}
  {result : Except DiskError Unit}

/-- Nothing is lost, and all that is new are folders on the way to a place. -/
structure GainsFolders (before after : Disk) (goal : Place) : Prop where
  kept : ∀ p n, before.node? p = some n → after.node? p = some n
  gained : ∀ p n, before.node? p = none → after.node? p = some n → n = .folder ∧ p <+: goal

theorem GainsFolders.refl (d : Disk) (goal : Place) : d.GainsFolders d goal where
  kept _ _ h := h
  gained p n hnone hsome := by simp [hnone] at hsome

theorem GainsFolders.insert (hp : d.node? p = none) (hgoal : p <+: goal) :
    d.GainsFolders (d.insert p .folder) goal := by
  have hroot : p ≠ [] := by
    rintro rfl
    simp [node?_root] at hp
  constructor
  · intro q n hq
    have hne : q ≠ p := by
      rintro rfl
      simp [hp] at hq
    rw [node?_insert_of_ne hne, hq]
  · intro q n hnone hsome
    by_cases hq : q = p
    · subst q
      rw [node?_insert_self hroot] at hsome
      exact ⟨(Option.some.inj hsome).symm, hgoal⟩
    · simp [node?_insert_of_ne hq, hnone] at hsome

theorem GainsFolders.trans (h : d.GainsFolders after goal) (h' : after.GainsFolders later goal) :
    d.GainsFolders later goal := by
  constructor
  · intro p n hp
    exact h'.kept p n (h.kept p n hp)
  · intro p n hnone hsome
    cases hp : after.node? p with
    | none => exact h'.gained p n hp hsome
    | some m =>
      obtain ⟨rfl, hgoal⟩ := h.gained p m hnone hp
      rw [h'.kept p _ hp] at hsome
      exact ⟨(Option.some.inj hsome).symm, hgoal⟩

/-- What is made on the way to a place is not in it. -/
theorem GainsFolders.node?_below (h : d.GainsFolders after goal)
    (hnone : d.node? (goal ++ [name]) = none) : after.node? (goal ++ [name]) = none := by
  cases hn : after.node? (goal ++ [name]) with
  | none => rfl
  | some n =>
    obtain ⟨-, hprefix⟩ := h.gained _ n hnone hn
    have hle := hprefix.length_le
    simp at hle

theorem IsNewMark.makeFolder (hmark : d.IsNewMark goal mark) (h : d.GainsFolders after goal) :
    after.IsNewMark goal mark where
  slash_notMem := hmark.slash_notMem
  nul_notMem := hmark.nul_notMem
  unused name hname := h.node?_below (hmark.unused name hname)

/-- What can be made is made step by step, each folder in the one before it. -/
theorem makeFoldersFrom_ok (hdone : d.node? done = some .folder)
    (h : d.makeFoldersFrom done names = .ok after) :
    d.GainsFolders after (done ++ names) ∧
      ∀ rest, rest <+: names → after.node? (done ++ rest) = some .folder := by
  induction names generalizing d done with
  | nil =>
    obtain rfl := Except.ok.inj h
    refine ⟨.refl d _, fun rest hrest => ?_⟩
    rw [List.prefix_nil.mp hrest, List.append_nil, hdone]
  | cons name names ih =>
    -- Either way the next folder is there, and the others are made from there on.
    have hnext {start : Disk} (hgains : d.GainsFolders start (done ++ name :: names))
        (hstep : start.node? (done ++ [name]) = some .folder)
        (hmake : start.makeFoldersFrom (done ++ [name]) names = .ok after) :
        d.GainsFolders after (done ++ name :: names) ∧
          ∀ rest, rest <+: name :: names → after.node? (done ++ rest) = some .folder := by
      obtain ⟨hmore, hfolders⟩ := ih hstep hmake
      rw [List.append_assoc, List.singleton_append] at hmore
      refine ⟨hgains.trans hmore, fun rest hrest => ?_⟩
      rcases List.prefix_cons_iff.mp hrest with rfl | ⟨others, rfl, hothers⟩
      · rw [List.append_nil, hmore.kept _ _ (hgains.kept _ _ hdone)]
      · simpa using hfolders others hothers
    rw [makeFoldersFrom] at h
    split at h
    · next hfolder => exact hnext (.refl d _) hfolder h
    · cases h
    · next hnone =>
      have hroot : done ++ [name] ≠ [] := by simp
      have hgoal : done ++ [name] <+: done ++ name :: names := ⟨names, by simp⟩
      exact hnext (.insert hnone hgoal) (node?_insert_self hroot d _) h

theorem makeFolder_ok (h : d.makeFolder goal = .ok after) :
    d.GainsFolders after goal ∧ ∀ p, p <+: goal → after.node? p = some .folder :=
  makeFoldersFrom_ok d.node?_root h

theorem makeFoldersFrom_of_folders
    (h : ∀ rest, rest <+: names → d.node? (done ++ rest) = some .folder) :
    d.makeFoldersFrom done names = .ok d := by
  induction names generalizing done with
  | nil => rfl
  | cons name names ih =>
    have hnext : d.node? (done ++ [name]) = some .folder := h [name] ⟨names, rfl⟩
    rw [makeFoldersFrom]
    simp only [hnext]
    refine ih fun rest hrest => ?_
    rw [List.append_assoc, List.singleton_append]
    exact h (name :: rest) (List.cons_prefix_cons.mpr ⟨rfl, hrest⟩)

/-- Where all folders are there, none is made. -/
theorem makeFolder_of_folders (h : ∀ p, p <+: goal → d.node? p = some .folder) :
    d.makeFolder goal = .ok d := makeFoldersFrom_of_folders h

namespace IsTree

variable (h : d.IsTree)

include h

theorem folder_of_prefix (hq : d.node? q = some n) (hp : p <+: q) (hne : p ≠ q) :
    d.node? p = some .folder := by
  induction q using List.reverseRecOn generalizing n with
  | nil => exact (hne (List.prefix_nil.mp hp)).elim
  | append_singleton q name ih =>
    have hparent : d.node? q = some .folder := by simpa using h.parent hq
    rcases List.prefix_concat_iff.mp hp with hsame | hp
    · exact (hne hsame).elim
    · by_cases hpq : p = q
      · rw [hpq, hparent]
      · exact ih hparent hp hpq

theorem makeFolder_eq_self (hgoal : d.node? goal = some .folder) : d.makeFolder goal = .ok d := by
  refine makeFolder_of_folders fun p hp => ?_
  by_cases hne : p = goal
  · rw [hne, hgoal]
  · exact h.folder_of_prefix hgoal hp hne

/-- Nothing is below a place that is no folder. -/
theorem node?_below (hp : d.node? p ≠ some .folder) (hrest : rest ≠ []) :
    d.node? (p ++ rest) = none := by
  cases hn : d.node? (p ++ rest) with
  | none => rfl
  | some n =>
    have hne : p ≠ p ++ rest := by simpa using hrest
    exact (hp (h.folder_of_prefix hn (List.prefix_append p rest) hne)).elim

theorem parent_of_locate (hl : d.locate base path = .ok p) (hp : d.node? p ≠ some .folder) :
    d.node? p.dropLast = some .folder := by
  obtain ⟨r, hr⟩ := locate_last hl
  by_cases hdotted : IsDotted (lastName path)
  · exact (hp (step_dotted h hdotted hr)).elim
  · rw [step_undotted hdotted hr, List.dropLast_concat]
    exact step_eq_ok hr

theorem insert (hp : d.node? p ≠ some .folder) (hparent : d.node? p.dropLast = some .folder)
    (n : Node) : (d.insert p n).IsTree := by
  have hkept {r : Place} (hr : d.node? r = some .folder) :
      (d.insert p n).node? r = some .folder := by
    have hne : r ≠ p := by
      rintro rfl
      exact hp hr
    rw [node?_insert_of_ne hne, hr]
  intro m hm
  rcases List.mem_cons.mp hm with rfl | hm
  · exact hkept hparent
  · exact hkept (h m (List.mem_filter.mp hm).1)

theorem erase (hp : d.node? p ≠ some .folder) : (d.erase p).IsTree := fun m hm =>
  (folder_erase hp _).mpr (h m (List.mem_filter.mp hm).1)

theorem replace (hreplace : d.replace mark base ident content = (result, after)) :
    after.IsTree := by
  rcases replace_cases d mark base ident content with
    ⟨e, he⟩ | ⟨source, hl, hsource, hwritten⟩
  · obtain ⟨-, rfl⟩ := Prod.mk.inj (he.symm.trans hreplace)
    exact h
  · have htree := h.insert hsource (h.parent_of_locate hl hsource) (.file content)
    have hfile : (d.insert source (.file content)).node? source ≠ some .folder := fun hfolder =>
      hsource ((folder_insert_file hsource content source).mp hfolder)
    rcases hwritten with ⟨e, he⟩ | ⟨p, hp, hn, hok⟩
    · obtain ⟨-, rfl⟩ := Prod.mk.inj (he.symm.trans hreplace)
      exact htree
    · obtain ⟨-, rfl⟩ := Prod.mk.inj (hok.symm.trans hreplace)
      refine (htree.erase hfile).insert ?_ ?_ _
      · exact fun hfolder => hn ((folder_erase hfile p).mp hfolder)
      · exact (folder_erase hfile _).mpr (htree.parent_of_locate hp hn)

theorem makeFoldersFrom (hdone : d.node? done = some .folder)
    (hmake : d.makeFoldersFrom done names = .ok after) : after.IsTree := by
  induction names generalizing d done with
  | nil =>
    obtain rfl := Except.ok.inj hmake
    exact h
  | cons name names ih =>
    rw [Disk.makeFoldersFrom] at hmake
    split at hmake
    · next hfolder => exact ih h hfolder hmake
    · cases hmake
    · next hnone =>
      have hroot : done ++ [name] ≠ [] := by simp
      refine ih (h.insert ?_ ?_ _) (node?_insert_self hroot d _) hmake
      · simp [hnone]
      · rw [List.dropLast_concat, hdone]

theorem makeFolder (hmake : d.makeFolder goal = .ok after) : after.IsTree :=
  h.makeFoldersFrom d.node?_root hmake

end IsTree
end Linkshelf.Disk
