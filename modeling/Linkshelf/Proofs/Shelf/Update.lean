import Linkshelf.Proofs.Shelf.Run

/-! What an update keeps. A field that its draft leaves out stays, save for a title that is longer
than the title of a draft can be: such a title is a url that stands in for a blank one. -/
namespace Linkshelf

open Draft

/-- The fields that a draft leaves out stay, the title if it is not too long. -/
structure Draft.Keeps (draft : Draft) (old b : Bookmark) : Prop where
  title : draft.title = none → (b.title = old.title ↔ old.title.length ≤ maxTitle)
  url : draft.url = none → b.url = old.url
  iconUrl : draft.iconUrl = none → b.iconUrl = old.iconUrl
  description : draft.description = none → b.description = old.description
  tags : draft.tags = none → b.tags = old.tags

namespace Shelf

variable {place : Place} {ident id : String} {u : Supply} {s : Shelf} {d : Disk} {draft : Draft}
  {old b : Bookmark} {webOnly : Bool} {f : CheckedFields}

theorem keeps_of_check (hold : old.IsTidy) (hf : (draft.onto old).check webOnly = .ok f)
    (id createdAt updatedAt : String) : draft.Keeps old (f.toBookmark id createdAt updatedAt) := by
  have hyields := yields_of_check hf
  constructor
  · exact hold.title_onto hyields
  · intro hnone
    change f.url = old.url
    rw [hyields.url]
    simpa [onto, hnone] using hold.url
  · intro hnone
    change f.iconUrl = old.iconUrl
    rw [hyields.iconUrl]
    simpa [onto, hnone] using hold.iconUrl
  · intro hnone
    change f.description = old.description
    rw [hyields.description]
    simpa [onto, hnone] using hold.description
  · exact hold.tags_onto hyields

/-- From a place without its file on, an update that succeeds keeps all that its draft leaves out of
the bookmark found, unless that is a title too long for a draft, and then it is the url. -/
theorem update_keeps (hs : Grown place ident s) (hget : s.get id = .ok old)
    (h : (s.update u d id draft).result = .ok b) :
    draft.Keeps old b ∧ (maxTitle < old.title.length → old.title = old.url) ∧
      (s.update u d id draft).shelf.get id = .ok b := by
  obtain ⟨i, found, f, hi, hfound, hcheck, rfl, hlist⟩ := update_found h
  obtain rfl : found = old := by
    rw [get, hfound] at hget
    exact Except.ok.inj hget
  have htidy : found.IsTidy := hs.isTidy found (List.mem_of_find?_eq_some hfound)
  have hid : found.id = id := by simpa using List.find?_some hfound
  refine ⟨keeps_of_check htidy hcheck _ _ _, ?_, ?_⟩
  · intro hlong
    rcases htidy.title with hshort | hurl
    · have hle := length_tidy_le maxTitle found.title
      rw [hshort] at hle
      omega
    · exact hurl
  · rw [get, hlist, find?_set_findIdx? hi (by rw [id_toBookmark, hid])]

/-- A bookmark made and then described anew. -/
theorem update_keeps_described :
    ∃ (s : Shelf) (draft : Draft) (old b : Bookmark),
      Grown [] "data.json" s ∧ s.get "a" = .ok old ∧
      (s.update growing .empty "a" draft).result = .ok b ∧ draft.Keeps old b ∧
      b = { old with description := "new" } := by
  let made : Draft := { id := some "a", url := some "https://a.com", tags := some (.csv "x/y") }
  let draft : Draft := { description := some "new" }
  let start : Shelf := ⟨[], "data.json", .empty "dawn"⟩
  let run : List Step := [⟨growing, .empty, .create made⟩]
  let old : Bookmark := ⟨"a", "noon", "noon", "https://a.com", "https://a.com", "", "", ["x/y"]⟩
  have hgrown : Grown [] "data.json" (start.after run) :=
    ⟨"dawn", .empty, start, run, by decide +kernel, by decide +kernel, rfl⟩
  have hget : (start.after run).get "a" = .ok old := by decide +kernel
  have hupdate : ((start.after run).update growing .empty "a" draft).result =
      .ok { old with description := "new" } := by decide +kernel
  exact ⟨_, draft, old, _, hgrown, hget, hupdate, (update_keeps hgrown hget hupdate).1, rfl⟩

/-- The characters of a url that is longer than a title can be. -/
def longUrl : List Char :=
  ['h', 't', 't', 'p', ':', '/', '/', 'a', '.', 'c', 'o', 'm', '/'] ++ List.replicate 120 'x'

theorem tidy_longUrl (max : Nat) :
    tidy max (.ofList longUrl) = .ofList (Chars.trim (longUrl.take max)) := by
  simp only [tidy, Text.trim, Text.clip, String.toList_ofList]

/-- What a check makes of a draft with the long url. -/
def checkedLong (title description : String) : CheckedFields :=
  ⟨title, .ofList longUrl, "", description, []⟩

theorem yields_longUrl {title description : String} (hurl : draft.url = some (.ofList longUrl))
    (htitle : title = if (tidy maxTitle (draft.title.getD (.ofList longUrl))).isEmpty
      then .ofList longUrl else tidy maxTitle (draft.title.getD (.ofList longUrl)))
    (hicon : tidy maxUrl (draft.iconUrl.getD "") = "")
    (hdescription : tidy maxDescription (draft.description.getD "") = description)
    (htags : (draft.tags.map normalizeTags).getD [] = []) :
    draft.Yields true (checkedLong title description) where
  url := by
    have htrim : Chars.trim (longUrl.take maxUrl) = longUrl := by decide +kernel
    rw [hurl, Option.getD_some, tidy_longUrl, htrim, checkedLong]
  url_ne := by simp [checkedLong, longUrl]
  scheme _ := by
    simp only [checkedLong, hasWebScheme, Text.startsWith, String.toList_ofList]
    decide +kernel
  title := htitle
  iconUrl := hicon.symm
  description := hdescription.symm
  tags := htags.symm

/-- A url of 133 characters stands in for a blank title. When the bookmark is described anew, 120
characters of its title are left. -/
theorem update_cuts_title :
    ∃ (s : Shelf) (draft : Draft) (old b : Bookmark),
      Grown [] "data.json" s ∧ s.get "a" = .ok old ∧
      (s.update growing .empty "a" draft).result = .ok b ∧ draft.title = none ∧
      old.title.length = 133 ∧ b.title.length = 120 := by
  let start : Shelf := ⟨[], "data.json", .empty "dawn"⟩
  let made : Draft := { id := some "a", url := some (.ofList longUrl), title := some "" }
  let draft : Draft := { description := some "d" }
  let old : Bookmark := (checkedLong (.ofList longUrl) "").toBookmark "a" "noon" "noon"
  let run : List Step := [⟨growing, .empty, .create made⟩]
  have hblank : (tidy maxTitle "").isEmpty = true := by decide +kernel
  have hmade : made.Yields true (checkedLong (.ofList longUrl) "") :=
    yields_longUrl rfl (if_pos hblank).symm (by decide +kernel) (by decide +kernel) rfl
  have hid : made.cleanId.getD (growing.newId 0) = "a" := by decide +kernel
  have hold : old = (checkedLong (.ofList longUrl) "").toBookmark
      (made.cleanId.getD (growing.newId 0)) growing.now growing.now := by
    rw [hid, growing]
  have hcreate := create_of_works (u := growing) (s := start) works_empty hmade.check
    (fun b hb => nomatch hb) hold
  have hempty : start.list = [] := rfl
  have hlist : (start.after run).list = [old] := by
    rw [after_singleton, next_create, hcreate.2, hempty]
  have hget : (start.after run).get "a" = .ok old := by
    rw [get, hlist]
    rfl
  have hgrown : Grown [] "data.json" (start.after run) :=
    ⟨"dawn", .empty, start, run, by decide +kernel, by decide +kernel, rfl⟩
  have hlength : (tidy maxTitle (.ofList longUrl)).length = 120 := by
    rw [tidy_longUrl, String.length_ofList]
    decide +kernel
  have hne : ¬ (tidy maxTitle (.ofList longUrl)).isEmpty := by
    intro hempty
    rw [String.isEmpty_iff.mp hempty] at hlength
    cases hlength
  have hdraft : (draft.onto old).Yields true (checkedLong (tidy maxTitle (.ofList longUrl)) "d") :=
    yields_longUrl rfl (if_neg hne).symm (by decide +kernel) (by decide +kernel) rfl
  have hworks : Disk.empty.Works growing.mark (start.after run).place (start.after run).ident := by
    obtain ⟨hplace, hident⟩ := after_home start run
    rw [hplace, hident]
    exact works_empty
  have hupdate := update_of_works hworks hget hdraft.check
  refine ⟨_, draft, old, _, hgrown, hget, hupdate, rfl, ?_, hlength⟩
  change (String.ofList longUrl).length = 133
  rw [String.length_ofList]
  decide +kernel

end Shelf
end Linkshelf
