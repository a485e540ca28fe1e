import Linkshelf.Proofs.Shelf.Run

/-! Editing what is stored. A draft that brings no url of its own passes its check over a stored
bookmark unless the url kept there is not one of the web, and only an import lets such a url in. -/
namespace Linkshelf

open Draft

variable {url id now ident : String} {place : Place} {u : Supply} {s start : Shelf} {d : Disk}
  {draft : Draft} {b : Bookmark} {x : Step} {past run : List Step} {e : DraftError}

theorem Bookmark.IsTidy.check_onto_error (h : b.IsTidy) (hurl : draft.url = none) :
    (draft.onto b).check true = .error e ↔ e = .urlScheme ∧ hasWebScheme b.url = false := by
  have hkept : tidy maxUrl ((draft.onto b).url.getD "") = b.url := by
    simp only [onto, hurl, Option.getD_none, Option.getD_some, h.url]
  have hne : b.url.isEmpty = false := by simpa using h.url_ne
  rw [check]
  dsimp only
  rw [hkept, hne, if_neg Bool.false_ne_true, Bool.true_and]
  cases hasWebScheme b.url with
  | true => simp
  | false =>
    rw [Bool.not_false, if_pos rfl]
    exact ⟨fun h => ⟨(Except.error.inj h).symm, rfl⟩, fun h => congrArg Except.error h.1.symm⟩

/-- Some import of the run takes in an item with the url. -/
def Imports (run : List Step) (url : String) : Prop :=
  ∃ x ∈ run, ∃ items, x.change = .replaceAll items ∧
    ∃ v ∈ items, ∃ draft fields, Shelf.taken? v = some (draft, fields) ∧ fields.url = url

theorem Imports.mono {more : List Step} (h : Imports past url) (hmore : past ⊆ more) :
    Imports more url := by
  obtain ⟨x, hx, hitems⟩ := h
  exact ⟨x, hmore hx, hitems⟩

namespace Shelf

/-- After a step a url is one of the web, or it was there, or the step imports it. -/
theorem hasWebScheme_next (hb : b ∈ (x.next s).list) :
    b ∈ s.list ∨ hasWebScheme b.url = true ∨ Imports [x] b.url := by
  rcases perform_writes x.supply s x.disk x.change with ⟨-, hsame⟩ | ⟨-, hwrites⟩
  · rw [Step.next, Step.outcome, hsame] at hb
    exact Or.inl hb
  · change b ∈ (x.change.perform x.supply s x.disk).shelf.list at hb
    generalize hc : x.change = c at hb hwrites
    generalize (c.perform x.supply s x.disk).shelf.list = bs at hb hwrites
    cases hwrites with
    | create hf _ =>
      rcases List.mem_cons.mp hb with rfl | hmem
      · exact Or.inr (Or.inl ((yields_of_check hf).scheme rfl))
      · exact Or.inl hmem
    | update _ _ hf =>
      rcases List.mem_or_eq_of_mem_set hb with hmem | rfl
      · exact Or.inl hmem
      · exact Or.inr (Or.inl ((yields_of_check hf).scheme rfl))
    | delete _ => exact Or.inl (List.mem_of_mem_eraseP hb)
    | @replaceAll items =>
      obtain ⟨v, hv, j, draft, fields, htaken, rfl⟩ := exists_taken_of_mem_importedFrom hb
      exact Or.inr (Or.inr ⟨x, List.mem_singleton_self x, items, hc, v, hv, draft, fields, htaken,
        rfl⟩)

/-- After a run a url is one of the web unless the run imports it. -/
theorem hasWebScheme_after (hmissing : d.has place ident = false)
    (hload : load now place ident d = .ok start) (run : List Step) :
    ∀ b ∈ (start.after run).list, hasWebScheme b.url = true ∨ Imports run b.url := by
  obtain rfl := load_of_missing hmissing hload
  refine after_keeps
    (P := fun past s => ∀ b ∈ s.list, hasWebScheme b.url = true ∨ Imports past b.url)
    ?_ ?_ run List.prefix_rfl
  · intro b hb
    simp [list, Collection.empty] at hb
  · intro past x _ hs b hb
    rcases hasWebScheme_next hb with hmem | hweb | himports
    · exact (hs b hmem).imp_right fun h => h.mono (List.subset_append_left past [x])
    · exact Or.inl hweb
    · exact Or.inr (himports.mono (List.subset_append_right past [x]))

theorem mem_of_get (h : s.get id = .ok b) : b ∈ s.list := by
  rw [get] at h
  split at h
  · next hfound =>
    obtain rfl := Except.ok.inj h
    exact List.mem_of_find?_eq_some hfound
  · cases h

/-- An update is refused just when the check of the draft over the bookmark found fails. -/
theorem update_eq_invalid :
    (s.update u d id draft).result = .error (.invalid e) ↔
      ∃ b, s.get id = .ok b ∧ (draft.onto b).check true = .error e := by
  rcases update_cases u s d id draft with
    ⟨hnone, hfail⟩ | ⟨i, old, -, hold, ⟨x, hx, hfail⟩ | ⟨f, b, hf, -, hcommit⟩⟩
  · simp [hfail, fail, get, hnone]
  · simp [hfail, fail, get, hold, hx]
  · have hresult : (s.update u d id draft).result ≠ .error (.invalid e) := by
      rw [hcommit]
      rcases commit_cases u s d (s.keeping (s.list.set i b)) b with
        ⟨cause, after, -, h⟩ | ⟨after, -, h⟩
      · simp [h, fail]
      · simp [h]
    simp [hresult, get, hold, hf]

/-- From a place without its file on, a draft without a url of its own is refused over a stored
bookmark just when the bookmark's url is not one of the web, and then for its scheme. Every such url
is one that the run imports. -/
theorem update_invalid_iff (hmissing : d.has place ident = false)
    (hload : load now place ident d = .ok start) (run : List Step) (hurl : draft.url = none) :
    (∀ u disk id e, ((start.after run).update u disk id draft).result = .error (.invalid e) ↔
      e = .urlScheme ∧ ∃ b, (start.after run).get id = .ok b ∧ hasWebScheme b.url = false) ∧
    ∀ b ∈ (start.after run).list, hasWebScheme b.url = false → Imports run b.url := by
  constructor
  · intro u disk id e
    have htidy : ∀ b, (start.after run).get id = .ok b → b.IsTidy := fun b hb =>
      isTidy_after hmissing hload run b (mem_of_get hb)
    rw [update_eq_invalid]
    constructor
    · rintro ⟨b, hget, hcheck⟩
      obtain ⟨he, hscheme⟩ := ((htidy b hget).check_onto_error hurl).mp hcheck
      exact ⟨he, b, hget, hscheme⟩
    · rintro ⟨he, b, hget, hscheme⟩
      exact ⟨b, hget, ((htidy b hget).check_onto_error hurl).mpr ⟨he, hscheme⟩⟩
  · intro b hb hscheme
    rcases hasWebScheme_after hmissing hload run b hb with hweb | himports
    · rw [hscheme] at hweb
      cases hweb
    · exact himports

/-- An import brings in two bookmarks, of which one can be described anew and the other cannot. -/
theorem update_invalid_iff_described :
    ∃ (start : Shelf) (run : List Step) (draft : Draft) (other : Bookmark),
      Disk.empty.has [] "data.json" = false ∧ load "dawn" [] "data.json" .empty = .ok start ∧
      draft.url = none ∧ (start.after run).get "b" = .ok other ∧
      (∀ e, ((start.after run).update growing .empty "a" draft).result ≠ .error (.invalid e)) ∧
      ((start.after run).update growing .empty "b" draft).result = .error (.invalid .urlScheme) ∧
      Imports run other.url := by
  let start : Shelf := ⟨[], "data.json", .empty "dawn"⟩
  let items : List Json := [.object [("id", .string "a"), ("url", .string "https://a.com")],
    .object [("id", .string "b"), ("url", .string " ftp://b.org ")]]
  let run : List Step := [⟨growing, .empty, .replaceAll items⟩]
  let draft : Draft := { description := some "new" }
  let first : Bookmark := ⟨"a", "noon", "noon", "https://a.com", "https://a.com", "", "", []⟩
  let other : Bookmark := ⟨"b", "noon", "noon", "ftp://b.org", "ftp://b.org", "", "", []⟩
  have hmissing : Disk.empty.has [] "data.json" = false := by decide +kernel
  have hload : load "dawn" [] "data.json" .empty = .ok start := by decide +kernel
  have hlist : (start.after run).list = [first, other] := by decide +kernel
  have hfirst : (start.after run).get "a" = .ok first := by decide +kernel
  have hother : (start.after run).get "b" = .ok other := by decide +kernel
  have hscheme : hasWebScheme other.url = false := by decide +kernel
  have hweb : hasWebScheme first.url = true := by decide +kernel
  have hurl : draft.url = none := rfl
  obtain ⟨hiff, himports⟩ := update_invalid_iff hmissing hload run hurl
  refine ⟨start, run, draft, other, hmissing, hload, hurl, hother, fun e h => ?_, ?_, ?_⟩
  · obtain ⟨-, b, hb, hnone⟩ := (hiff growing .empty "a" e).mp h
    rw [hfirst] at hb
    obtain rfl := Except.ok.inj hb
    rw [hweb] at hnone
    cases hnone
  · exact (hiff growing .empty "b" .urlScheme).mpr ⟨rfl, other, hother, hscheme⟩
  · exact himports other (by simp [hlist]) hscheme

/-- A bookmark that an import brought in is refused when its description alone is changed. -/
theorem update_refuses_imported :
    ∃ (start : Shelf) (x : Step) (draft : Draft) (b : Bookmark),
      Disk.empty.has [] "data.json" = false ∧ load "dawn" [] "data.json" .empty = .ok start ∧
      (start.after [x]).get "a" = .ok b ∧ draft.url = none ∧
      ((start.after [x]).update growing .empty "a" draft).result = .error (.invalid .urlScheme) := by
  let items : List Json := [.object [("id", .string "a"), ("url", .string "ftp://files.org")]]
  exact ⟨⟨[], "data.json", .empty "dawn"⟩, ⟨growing, .empty, .replaceAll items⟩,
    { description := some "d" },
    ⟨"a", "noon", "noon", "ftp://files.org", "ftp://files.org", "", "", []⟩,
    by decide +kernel, by decide +kernel, by decide +kernel, rfl, by decide +kernel⟩

end Shelf
end Linkshelf
