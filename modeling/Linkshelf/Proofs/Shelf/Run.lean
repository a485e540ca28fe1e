import Linkshelf.Proofs.Bookmark.Tidy
import Linkshelf.Proofs.Shelf.Change
import Linkshelf.Proofs.Shelf.Import

/-! Runs of changes, and the bookmarks they can bring onto a shelf that began without a file. -/
namespace Linkshelf

/-- One change, with what it takes from outside and the disk it finds. -/
structure Step where
  supply : Supply
  disk : Disk
  change : Change

namespace Step

def outcome (x : Step) (s : Shelf) : Outcome Reply := x.change.perform x.supply s x.disk

def next (x : Step) (s : Shelf) : Shelf := (x.outcome s).shelf

end Step

namespace Shelf

variable {place : Place} {ident now : String} {u : Supply} {s : Shelf} {d : Disk} {c : Change}
  {b : Bookmark} {bs : List Bookmark} {x : Step} {run : List Step} {start : Shelf}

/-- The shelf after a run. -/
def after (s : Shelf) (run : List Step) : Shelf := run.foldl (fun s x => x.next s) s

/-- A shelf that was opened at a place without its file and then changed by some run. -/
def Grown (place : Place) (ident : String) (s : Shelf) : Prop :=
  ∃ now d start run, d.has place ident = false ∧ load now place ident d = .ok start ∧
    s = start.after run

theorem after_concat (s : Shelf) (run : List Step) (x : Step) :
    s.after (run ++ [x]) = x.next (s.after run) := by
  simp [after]

theorem after_singleton (s : Shelf) (x : Step) : s.after [x] = x.next s := rfl

theorem next_create (u : Supply) (s : Shelf) (d : Disk) (draft : Draft) :
    Step.next ⟨u, d, .create draft⟩ s = (s.create u d draft).shelf := by
  rw [Step.next, Step.outcome, Change.perform, Outcome.map]

/-- What each step of a run keeps holds after each of its parts. -/
theorem after_keeps {P : List Step → Shelf → Prop} (h : P [] s)
    (hstep : ∀ past x, past ++ [x] <+: run → P past (s.after past) →
      P (past ++ [x]) (x.next (s.after past))) :
    ∀ past, past <+: run → P past (s.after past) := by
  intro past
  induction past using List.reverseRecOn with
  | nil =>
    intro _
    exact h
  | append_singleton past x ih =>
    intro hpast
    rw [after_concat]
    exact hstep past x hpast (ih ((List.prefix_append past [x]).trans hpast))

theorem perform_home (u : Supply) (s : Shelf) (d : Disk) (c : Change) :
    (c.perform u s d).shelf.place = s.place ∧ (c.perform u s d).shelf.ident = s.ident := by
  rcases perform_cases u s d c with ⟨e, hfail⟩ | ⟨next, a, -, hcommit⟩
  · rw [hfail]
    exact ⟨rfl, rfl⟩
  · rw [hcommit]
    rcases commit_cases u s d next a with ⟨cause, after, -, h⟩ | ⟨after, -, h⟩
    all_goals
      rw [h]
      exact ⟨rfl, rfl⟩

theorem after_home (s : Shelf) (run : List Step) :
    (s.after run).place = s.place ∧ (s.after run).ident = s.ident := by
  refine after_keeps (P := fun _ t => t.place = s.place ∧ t.ident = s.ident) ⟨rfl, rfl⟩ ?_ run
    List.prefix_rfl
  rintro past x - ⟨hplace, hident⟩
  obtain ⟨hp, hi⟩ := perform_home x.supply (s.after past) x.disk x.change
  exact ⟨hp.trans hplace, hi.trans hident⟩

theorem load_of_missing (hmissing : d.has place ident = false)
    (hload : load now place ident d = .ok s) : s = ⟨place, ident, .empty now⟩ := by
  simpa [load, hmissing, eq_comm] using hload

theorem Grown.keeps {P : Shelf → Prop} (hempty : ∀ now, P ⟨place, ident, .empty now⟩)
    (hstep : ∀ (s : Shelf) (x : Step), P s → P (x.next s)) (h : Grown place ident s) :
    P s := by
  obtain ⟨now, d, start, run, hmissing, hload, rfl⟩ := h
  obtain rfl := load_of_missing hmissing hload
  exact after_keeps (P := fun _ => P) (hempty now) (fun _ _ _ => hstep _ _) run
    List.prefix_rfl

/-- The bookmarks that a change writes, if it writes any. -/
inductive Writes (u : Supply) (s : Shelf) : Change → List Bookmark → Prop
  | create {draft : Draft} {fields} : draft.check true = .ok fields →
      s.list.any (·.id == draft.cleanId.getD (u.newId 0)) = false →
      Writes u s (.create draft)
        (fields.toBookmark (draft.cleanId.getD (u.newId 0)) u.now u.now :: s.list)
  | update {id : String} {draft : Draft} {fields i} {old : Bookmark} :
      s.list.findIdx? (·.id == id) = some i → s.list.find? (·.id == id) = some old →
      (draft.onto old).check true = .ok fields →
      Writes u s (.update id draft) (s.list.set i (fields.toBookmark old.id old.createdAt u.now))
  | delete {id : String} {old : Bookmark} : s.list.find? (·.id == id) = some old →
      Writes u s (.delete id) (s.list.eraseP (·.id == id))
  | replaceAll {items} : Writes u s (.replaceAll items) (importedFrom u 0 items)

theorem commit_list (u : Supply) (s : Shelf) (d : Disk) (next : Collection) {α : Type} (a : α) :
    ((∃ e, (s.commit u d next a).result = .error e) ∧ (s.commit u d next a).shelf = s) ∨
    (s.commit u d next a).result = .ok a ∧ (s.commit u d next a).shelf.list = next.bookmarks := by
  simp only [commit]
  split
  · exact Or.inr ⟨rfl, rfl⟩
  · exact Or.inl ⟨⟨_, rfl⟩, rfl⟩

/-- A commit that succeeds answers what it was given and puts the next bookmarks on the shelf. -/
theorem commit_ok {next : Collection} {α : Type} {a answer : α}
    (h : (s.commit u d next a).result = .ok answer) :
    answer = a ∧ (s.commit u d next a).shelf.list = next.bookmarks := by
  rcases commit_list u s d next a with ⟨⟨e, he⟩, -⟩ | ⟨hok, hlist⟩
  · rw [he] at h
    cases h
  · rw [hok] at h
    exact ⟨(Except.ok.inj h).symm, hlist⟩

theorem create_made {draft : Draft} (h : (s.create u d draft).result = .ok b) :
    (s.create u d draft).shelf.list = b :: s.list := by
  rcases create_cases u s d draft with
    ⟨e, -, hfail⟩ | ⟨fields, id, made, -, -, -, ⟨-, hfail⟩ | ⟨-, hcommit⟩⟩
  · simp [hfail, fail] at h
  · simp [hfail, fail] at h
  · rw [hcommit] at h ⊢
    obtain ⟨rfl, hlist⟩ := commit_ok h
    exact hlist

/-- An update that succeeds changes the first bookmark with the id. -/
theorem update_found {id : String} {draft : Draft}
    (h : (s.update u d id draft).result = .ok b) :
    ∃ i old fields, s.list.findIdx? (·.id == id) = some i ∧
      s.list.find? (·.id == id) = some old ∧ (draft.onto old).check true = .ok fields ∧
      b = fields.toBookmark old.id old.createdAt u.now ∧
      (s.update u d id draft).shelf.list = s.list.set i b := by
  rcases update_cases u s d id draft with
    ⟨-, hfail⟩ | ⟨i, old, hi, hold, ⟨e, -, hfail⟩ | ⟨fields, made, hcheck, hmade, hcommit⟩⟩
  · simp [hfail, fail] at h
  · simp [hfail, fail] at h
  · rw [hcommit] at h ⊢
    obtain ⟨rfl, hlist⟩ := commit_ok h
    exact ⟨i, old, fields, hi, hold, hcheck, hmade, hlist⟩

/-- A removal that succeeds takes away the first bookmark with the id. -/
theorem delete_found {id : String} (h : (s.delete u d id).result = .ok b) :
    s.list.find? (·.id == id) = some b ∧
      (s.delete u d id).shelf.list = s.list.eraseP (·.id == id) := by
  rcases delete_cases u s d id with ⟨-, hfail⟩ | ⟨old, hold, hcommit⟩
  · simp [hfail, fail] at h
  · rw [hcommit] at h ⊢
    obtain ⟨rfl, hlist⟩ := commit_ok h
    exact ⟨hold, hlist⟩

theorem commit_of_works (h : d.Works u.mark s.place s.ident) (next : Collection) {α : Type}
    (a : α) : (s.commit u d next a).result = .ok a ∧
      (s.commit u d next a).shelf.list = next.bookmarks := by
  obtain ⟨after, hafter⟩ := h.replace { next with exportedAt := u.now }.bytes
  simp only [commit, hafter, true_and]
  rfl

/-- A draft that passes its check, with an id that is not taken, goes before all others. -/
theorem create_eq_commit {draft : Draft} {fields : CheckedFields}
    (hcheck : draft.check true = .ok fields)
    (hfree : ∀ b ∈ s.list, b.id ≠ draft.cleanId.getD (u.newId 0))
    (hb : b = fields.toBookmark (draft.cleanId.getD (u.newId 0)) u.now u.now) :
    s.create u d draft = s.commit u d (s.keeping (b :: s.list)) b := by
  rcases create_cases u s d draft with
    ⟨e, hfail, -⟩ | ⟨f, id, made, hok, hid, hmade, ⟨htaken, -⟩ | ⟨-, hcommit⟩⟩
  · rw [hcheck] at hfail
    cases hfail
  · obtain ⟨old, hold, hsame⟩ : ∃ b ∈ s.list, b.id = id := by simpa using htaken
    exact (hfree old hold (hsame.trans hid)).elim
  · rw [hcheck] at hok
    obtain rfl := Except.ok.inj hok
    have hbmade : made = b := by rw [hmade, hid, hb]
    rw [hcommit, hbmade]

theorem create_of_works {draft : Draft} {fields : CheckedFields}
    (h : d.Works u.mark s.place s.ident) (hcheck : draft.check true = .ok fields)
    (hfree : ∀ b ∈ s.list, b.id ≠ draft.cleanId.getD (u.newId 0))
    (hb : b = fields.toBookmark (draft.cleanId.getD (u.newId 0)) u.now u.now) :
    (s.create u d draft).result = .ok b ∧ (s.create u d draft).shelf.list = b :: s.list := by
  rw [create_eq_commit hcheck hfree hb]
  exact commit_of_works h _ _

theorem update_of_works {id : String} {draft : Draft} {old : Bookmark} {fields : CheckedFields}
    (h : d.Works u.mark s.place s.ident) (hget : s.get id = .ok old)
    (hcheck : (draft.onto old).check true = .ok fields) :
    (s.update u d id draft).result = .ok (fields.toBookmark old.id old.createdAt u.now) := by
  rcases update_cases u s d id draft with
    ⟨hnone, -⟩ | ⟨i, found, -, hfound, ⟨e, hfail, -⟩ | ⟨f, made, hmade, rfl, hcommit⟩⟩
  · rw [get, hnone] at hget
    cases hget
  all_goals
    rw [get, hfound] at hget
    obtain rfl := Except.ok.inj hget
  · rw [hcheck] at hfail
    cases hfail
  · rw [hcheck] at hmade
    obtain rfl := Except.ok.inj hmade
    rw [hcommit]
    exact (commit_of_works h _ _).1

/-- A change that fails keeps the shelf; one that succeeds puts on it what it writes. -/
theorem perform_writes (u : Supply) (s : Shelf) (d : Disk) (c : Change) :
    ((∃ e, (c.perform u s d).result = .error e) ∧ (c.perform u s d).shelf = s) ∨
    (∃ a, (c.perform u s d).result = .ok a) ∧ Writes u s c (c.perform u s d).shelf.list := by
  have hcommit {next : Collection} {a : Reply} (h : c.perform u s d = s.commit u d next a)
      (hw : Writes u s c next.bookmarks) :
      ((∃ e, (c.perform u s d).result = .error e) ∧ (c.perform u s d).shelf = s) ∨
      (∃ a, (c.perform u s d).result = .ok a) ∧ Writes u s c (c.perform u s d).shelf.list := by
    rw [h]
    rcases commit_list u s d next a with hfail | ⟨hok, hlist⟩
    · exact Or.inl hfail
    · exact Or.inr ⟨⟨a, hok⟩, by rwa [hlist]⟩
  have hfail {e : ShelfError} (h : c.perform u s d = s.fail d e) :
      ((∃ e, (c.perform u s d).result = .error e) ∧ (c.perform u s d).shelf = s) := by
    rw [h]
    exact ⟨⟨e, rfl⟩, rfl⟩
  cases c with
  | create draft =>
    rcases create_cases u s d draft with ⟨e, -, h⟩ | ⟨f, id, b, hf, hid, rfl, ⟨-, h⟩ | ⟨hfree, h⟩⟩
    · exact Or.inl (hfail (by rw [Change.perform, h, map_fail]))
    · exact Or.inl (hfail (by rw [Change.perform, h, map_fail]))
    · rw [hid] at hfree h
      exact hcommit (by rw [Change.perform, h, map_commit]) (.create hf hfree)
  | update id draft =>
    rcases update_cases u s d id draft with
      ⟨-, h⟩ | ⟨i, old, hi, hold, ⟨e, -, h⟩ | ⟨f, b, hf, rfl, h⟩⟩
    · exact Or.inl (hfail (by rw [Change.perform, h, map_fail]))
    · exact Or.inl (hfail (by rw [Change.perform, h, map_fail]))
    · exact hcommit (by rw [Change.perform, h, map_commit]) (.update hi hold hf)
  | delete id =>
    rcases delete_cases u s d id with ⟨-, h⟩ | ⟨old, hold, h⟩
    · exact Or.inl (hfail (by rw [Change.perform, h, map_fail]))
    · exact hcommit (by rw [Change.perform, h, map_commit]) (.delete hold)
  | replaceAll items =>
    exact hcommit (by rw [Change.perform, replaceAll_eq, map_commit]) .replaceAll

/-- A bookmark as a change makes it: a new one, a changed one or an imported one. -/
inductive Made (u : Supply) (s : Shelf) : Bookmark → Prop
  | created {draft : Draft} {fields} : draft.check true = .ok fields →
      Made u s (fields.toBookmark (draft.cleanId.getD (u.newId 0)) u.now u.now)
  | updated {draft : Draft} {fields} {old : Bookmark} : old ∈ s.list →
      (draft.onto old).check true = .ok fields →
      Made u s (fields.toBookmark old.id old.createdAt u.now)
  | imported {draft : Draft} {fields} (k : Nat) : draft.check false = .ok fields →
      Made u s (imported u k draft fields)

theorem Writes.mem (h : Writes u s c bs) (hb : b ∈ bs) : b ∈ s.list ∨ Made u s b := by
  cases h with
  | create hf hfree =>
    rcases List.mem_cons.mp hb with rfl | hmem
    · exact Or.inr (.created hf)
    · exact Or.inl hmem
  | update hi hold hf =>
    rcases List.mem_or_eq_of_mem_set hb with hmem | rfl
    · exact Or.inl hmem
    · exact Or.inr (.updated (List.mem_of_find?_eq_some hold) hf)
  | delete hold => exact Or.inl (List.mem_of_mem_eraseP hb)
  | replaceAll =>
    obtain ⟨j, draft, fields, hf, rfl⟩ := mem_importedFrom hb
    exact Or.inr (.imported j hf)

theorem mem_next (hb : b ∈ (x.next s).list) : b ∈ s.list ∨ Made x.supply s b := by
  rcases perform_writes x.supply s x.disk x.change with ⟨-, hsame⟩ | ⟨-, hwrites⟩
  · rw [Step.next, Step.outcome, hsame] at hb
    exact Or.inl hb
  · exact hwrites.mem hb

theorem Made.isTidy (h : Made u s b) : b.IsTidy := by
  cases h with
  | created hf => exact Bookmark.isTidy_of_check hf _ _ _
  | updated _ hf => exact Bookmark.isTidy_of_check hf _ _ _
  | imported k hf => exact Bookmark.isTidy_of_check hf _ _ _

theorem Grown.isTidy (h : Grown place ident s) : ∀ b ∈ s.list, b.IsTidy := by
  refine h.keeps (P := fun s => ∀ b ∈ s.list, b.IsTidy) ?_ ?_
  · intro now b hb
    simp [list, Collection.empty] at hb
  · intro s x hs b hb
    rcases mem_next hb with hmem | hmade
    · exact hs b hmem
    · exact hmade.isTidy

theorem isTidy_after (hmissing : d.has place ident = false)
    (hload : load now place ident d = .ok start) (run : List Step) :
    ∀ b ∈ (start.after run).list, b.IsTidy :=
  Grown.isTidy ⟨now, d, start, run, hmissing, hload, rfl⟩

/-- New ids that grow longer and longer. -/
def growing : Supply := ⟨"noon", "mark", fun k => .ofList (List.replicate (k + 1) 'n')⟩

theorem works_empty : Disk.empty.Works growing.mark [] "data.json" where
  temporary := ⟨[Disk.temporaryName "mark" "data.json"], by decide +kernel, by decide +kernel⟩
  goal := ⟨["data.json"], by decide +kernel⟩

end Shelf
end Linkshelf
