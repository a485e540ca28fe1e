import Linkshelf.Proofs.Disk.Replace
import Linkshelf.Shelf

/-! The changes of a shelf as one operation, and the shelves they lead to. -/
namespace Linkshelf

inductive Change where
  | create (draft : Draft)
  | update (id : String) (draft : Draft)
  | delete (id : String)
  | replaceAll (items : List Json)
  deriving Repr

/-- What a change answers: the bookmark it was about, or how many were taken in. -/
inductive Reply where
  | bookmark (b : Bookmark)
  | count (n : Nat)
  deriving DecidableEq, Repr

def Outcome.map {α β : Type} (f : α → β) (o : Outcome α) : Outcome β :=
  ⟨o.result.map f, o.shelf, o.disk⟩

def Change.perform (u : Supply) (s : Shelf) (d : Disk) : Change → Outcome Reply
  | create draft => (s.create u d draft).map .bookmark
  | update id draft => (s.update u d id draft).map .bookmark
  | delete id => (s.delete u d id).map .bookmark
  | replaceAll items => (s.replaceAll u d items).map .count

namespace Shelf

variable {α β : Type}

theorem map_fail (f : α → β) (s : Shelf) (d : Disk) (e : ShelfError) :
    (s.fail d e : Outcome α).map f = s.fail d e := rfl

theorem map_commit (f : α → β) (u : Supply) (s : Shelf) (d : Disk) (next : Collection) (a : α) :
    (s.commit u d next a).map f = s.commit u d next (f a) := by
  simp only [commit]
  split <;> rfl

theorem create_cases (u : Supply) (s : Shelf) (d : Disk) (draft : Draft) :
    (∃ e, draft.check true = .error e ∧ s.create u d draft = s.fail d (.invalid e)) ∨
    ∃ fields id b, draft.check true = .ok fields ∧ id = draft.cleanId.getD (u.newId 0) ∧
      b = fields.toBookmark id u.now u.now ∧
      (s.list.any (·.id == id) = true ∧ s.create u d draft = s.fail d (.alreadyExists id) ∨
        s.list.any (·.id == id) = false ∧
          s.create u d draft = s.commit u d (s.keeping (b :: s.list)) b) := by
  cases hc : draft.check true with
  | error e => exact Or.inl ⟨e, rfl, by simp only [create, hc]⟩
  | ok fields =>
    refine Or.inr ⟨fields, _, _, rfl, rfl, rfl, ?_⟩
    cases ha : s.list.any (·.id == draft.cleanId.getD (u.newId 0)) with
    | true => exact Or.inl ⟨rfl, by simp only [create, hc, ha, if_true]⟩
    | false => exact Or.inr ⟨rfl, by simp only [create, hc, ha, if_false, Bool.false_eq_true]⟩

theorem update_cases (u : Supply) (s : Shelf) (d : Disk) (id : String) (draft : Draft) :
    (s.list.find? (·.id == id) = none ∧ s.update u d id draft = s.fail d .notFound) ∨
    ∃ i old, s.list.findIdx? (·.id == id) = some i ∧ s.list.find? (·.id == id) = some old ∧
      ((∃ e, (draft.onto old).check true = .error e ∧
          s.update u d id draft = s.fail d (.invalid e)) ∨
        ∃ fields b, (draft.onto old).check true = .ok fields ∧
          b = fields.toBookmark old.id old.createdAt u.now ∧
          s.update u d id draft = s.commit u d (s.keeping (s.list.set i b)) b) := by
  cases hi : s.list.findIdx? (·.id == id) with
  | none =>
    have hf : s.list.find? (·.id == id) = none := by
      rw [List.findIdx?_eq_none_iff] at hi
      exact List.find?_eq_none.mpr fun b hb => by simp [hi b hb]
    exact Or.inl ⟨hf, by simp only [update, hi, hf]⟩
  | some i =>
    cases hf : s.list.find? (·.id == id) with
    | none => exact Or.inl ⟨rfl, by simp only [update, hi, hf]⟩
    | some old =>
      refine Or.inr ⟨i, old, rfl, rfl, ?_⟩
      cases hc : (draft.onto old).check true with
      | error e => exact Or.inl ⟨e, rfl, by simp only [update, hi, hf, hc]⟩
      | ok fields => exact Or.inr ⟨fields, _, rfl, rfl, by simp only [update, hi, hf, hc]⟩

theorem delete_cases (u : Supply) (s : Shelf) (d : Disk) (id : String) :
    (s.list.find? (·.id == id) = none ∧ s.delete u d id = s.fail d .notFound) ∨
    ∃ old, s.list.find? (·.id == id) = some old ∧
      s.delete u d id = s.commit u d (s.keeping (s.list.eraseP (·.id == id))) old := by
  cases hf : s.list.find? (·.id == id) with
  | none => exact Or.inl ⟨rfl, by simp only [delete, hf]⟩
  | some old => exact Or.inr ⟨old, rfl, by simp only [delete, hf]⟩

theorem replaceAll_eq (u : Supply) (s : Shelf) (d : Disk) (items : List Json) :
    s.replaceAll u d items =
      s.commit u d ⟨Collection.currentVersion, u.now, importedFrom u 0 items⟩
        (importedFrom u 0 items).length := by
  rw [replaceAll]

/-- A change fails before anything is written, or it commits one collection, of the version there
was or of the current one. -/
theorem perform_cases (u : Supply) (s : Shelf) (d : Disk) (c : Change) :
    (∃ e, c.perform u s d = s.fail d e) ∨
    ∃ next a, (next.version = s.collection.version ∨ next.version = Collection.currentVersion) ∧
      c.perform u s d = s.commit u d next a := by
  cases c with
  | create draft =>
    rcases create_cases u s d draft with ⟨e, -, h⟩ | ⟨fields, id, b, -, -, -, ⟨-, h⟩ | ⟨-, h⟩⟩
    · exact Or.inl ⟨.invalid e, by rw [Change.perform, h, map_fail]⟩
    · exact Or.inl ⟨.alreadyExists id, by rw [Change.perform, h, map_fail]⟩
    · exact Or.inr ⟨s.keeping (b :: s.list), .bookmark b, Or.inl rfl,
        by rw [Change.perform, h, map_commit]⟩
  | update id draft =>
    rcases update_cases u s d id draft with
      ⟨-, h⟩ | ⟨i, old, -, -, ⟨e, -, h⟩ | ⟨fields, b, -, -, h⟩⟩
    · exact Or.inl ⟨.notFound, by rw [Change.perform, h, map_fail]⟩
    · exact Or.inl ⟨.invalid e, by rw [Change.perform, h, map_fail]⟩
    · exact Or.inr ⟨s.keeping (s.list.set i b), .bookmark b, Or.inl rfl,
        by rw [Change.perform, h, map_commit]⟩
  | delete id =>
    rcases delete_cases u s d id with ⟨-, h⟩ | ⟨old, -, h⟩
    · exact Or.inl ⟨.notFound, by rw [Change.perform, h, map_fail]⟩
    · exact Or.inr ⟨s.keeping (s.list.eraseP (·.id == id)), .bookmark old, Or.inl rfl,
        by rw [Change.perform, h, map_commit]⟩
  | replaceAll items =>
    exact Or.inr ⟨⟨Collection.currentVersion, u.now, importedFrom u 0 items⟩,
      .count (importedFrom u 0 items).length, Or.inr rfl,
      by rw [Change.perform, replaceAll_eq, map_commit]⟩

/-- A commit keeps the shelf when the file cannot be replaced; else the shelf holds what it wrote. -/
theorem commit_cases (u : Supply) (s : Shelf) (d : Disk) (next : Collection) (a : α) :
    (∃ e after, d.replace u.mark s.place s.ident { next with exportedAt := u.now }.bytes =
        (.error e, after) ∧ s.commit u d next a = s.fail after (.disk e)) ∨
    ∃ after, d.replace u.mark s.place s.ident { next with exportedAt := u.now }.bytes =
        (.ok (), after) ∧
      s.commit u d next a =
        ⟨.ok a, { s with collection := { next with exportedAt := u.now } }, after⟩ := by
  cases h : d.replace u.mark s.place s.ident { next with exportedAt := u.now }.bytes with
  | mk result after =>
    cases result with
    | error e => exact Or.inl ⟨e, after, rfl, by simp only [commit, h]⟩
    | ok _ => exact Or.inr ⟨after, rfl, by simp only [commit, h]⟩

/-- The shelves of a place and ident: opened there, and then changed in any order. The disk may be
another one at each change, as others write to it too. -/
inductive Reached (place : Place) (ident : String) : Shelf → Prop
  | load {now d s} : load now place ident d = .ok s → Reached place ident s
  | change {s} (u : Supply) (d : Disk) (c : Change) :
      Reached place ident s → Reached place ident (c.perform u s d).shelf

end Shelf
end Linkshelf
