import Linkshelf.Bookmark.Draft
import Linkshelf.Proofs.Bookmark.Tags

/-! A bookmark that passed a check passes the next one with its fields unchanged, save for a title
longer than a draft's may be. -/
namespace Linkshelf

namespace Draft

variable {s : String} {max : Nat} {draft : Draft} {webOnly : Bool} {f : CheckedFields}

theorem length_tidy_le (max : Nat) (s : String) : (tidy max s).length ≤ max := by
  have hclip : (s.toList.take max).length ≤ max := List.length_take_le max s.toList
  rw [tidy, Text.trim, Text.clip, String.length_ofList, String.toList_ofList]
  exact (Chars.length_trim_le _).trans hclip

theorem trim_tidy (max : Nat) (s : String) : Text.trim (tidy max s) = tidy max s := by
  simp only [tidy, Text.trim, String.toList_ofList, Chars.trim_trim]

theorem tidy_eq_self (hlength : s.length ≤ max) (htrim : Text.trim s = s) : tidy max s = s := by
  rw [tidy, Text.clip, List.take_of_length_le (by rwa [String.length_toList]),
    String.ofList_toList, htrim]

theorem tidy_tidy (max : Nat) (s : String) : tidy max (tidy max s) = tidy max s :=
  tidy_eq_self (length_tidy_le max s) (trim_tidy max s)

/-- A text that starts with more than a blank is not clipped to nothing. -/
theorem tidy_ne_empty (hmax : 0 < max) (hne : s ≠ "") (htrim : Text.trim s = s) :
    tidy max s ≠ "" := by
  have hchars : Chars.trim s.toList = s.toList := by
    rw [← String.toList_ofList (l := Chars.trim s.toList)]
    exact congrArg String.toList htrim
  have hsolid : Chars.IsSolid s.toList := by
    rw [← hchars]
    exact Chars.isSolid_trim (by simpa [hchars] using hne)
  obtain ⟨c, cs, hcs⟩ := List.exists_cons_of_ne_nil hsolid.nonempty
  have hc : isBlank c = false := hsolid.first c (by simp [hcs])
  obtain ⟨n, rfl⟩ := Nat.exists_eq_succ_of_ne_zero hmax.ne'
  intro hempty
  have hnil : Chars.trim (c :: cs.take n) = [] := by
    simpa [tidy, Text.trim, Text.clip, hcs] using hempty
  rw [Chars.trim_eq, List.dropWhile_cons_of_neg (by simp [hc]), List.rdropWhile_eq_nil_iff] at hnil
  simpa [hc] using hnil c List.mem_cons_self

/-- What a check that succeeds makes of a draft. -/
structure Yields (draft : Draft) (webOnly : Bool) (f : CheckedFields) : Prop where
  url : f.url = tidy maxUrl (draft.url.getD "")
  url_ne : f.url ≠ ""
  scheme : webOnly = true → hasWebScheme f.url = true
  title : f.title = if (tidy maxTitle (draft.title.getD f.url)).isEmpty then f.url
    else tidy maxTitle (draft.title.getD f.url)
  iconUrl : f.iconUrl = tidy maxUrl (draft.iconUrl.getD "")
  description : f.description = tidy maxDescription (draft.description.getD "")
  tags : f.tags = (draft.tags.map normalizeTags).getD []

theorem yields_of_check (h : draft.check webOnly = .ok f) : draft.Yields webOnly f := by
  simp only [check] at h
  split at h
  · cases h
  · next hurl =>
    split at h
    · cases h
    · next hscheme =>
      obtain rfl := Except.ok.inj h
      have hne : tidy maxUrl (draft.url.getD "") ≠ "" := by simpa using hurl
      have hweb : webOnly = true → hasWebScheme (tidy maxUrl (draft.url.getD "")) = true := by
        simpa using hscheme
      refine ⟨?_, hne, hweb, ?_, ?_, ?_, ?_⟩ <;> dsimp only

theorem Yields.check (h : draft.Yields webOnly f) : draft.check webOnly = .ok f := by
  have hne : (tidy maxUrl (draft.url.getD "")).isEmpty = false := by
    simpa [← h.url] using h.url_ne
  have hscheme : (webOnly && !hasWebScheme f.url) = false := by
    cases webOnly with
    | false => rfl
    | true => simp [h.scheme rfl]
  rw [h.url] at hscheme
  rw [Draft.check, hne, hscheme, if_neg Bool.false_ne_true, if_neg Bool.false_ne_true, ← h.url]
  dsimp only
  rw [← h.title, ← h.iconUrl, ← h.description, ← h.tags]

end Draft

namespace Bookmark

open Draft

variable {b : Bookmark} {draft : Draft} {webOnly : Bool} {f : CheckedFields}

/-- The fields are as a check leaves them. -/
structure IsTidy (b : Bookmark) : Prop where
  url : tidy maxUrl b.url = b.url
  url_ne : b.url ≠ ""
  title : tidy maxTitle b.title = b.title ∨ b.title = b.url
  title_ne : b.title ≠ ""
  iconUrl : tidy maxUrl b.iconUrl = b.iconUrl
  description : tidy maxDescription b.description = b.description
  tags : ∀ tag ∈ b.tags, IsCanonical tag

theorem isTidy_of_check (h : draft.check webOnly = .ok f) (id createdAt updatedAt : String) :
    (f.toBookmark id createdAt updatedAt).IsTidy := by
  have hf := yields_of_check h
  constructor
  · change tidy maxUrl f.url = f.url
    rw [hf.url, tidy_tidy]
  · exact hf.url_ne
  · change tidy maxTitle f.title = f.title ∨ f.title = f.url
    rw [hf.title]
    split
    · exact Or.inr rfl
    · exact Or.inl (tidy_tidy _ _)
  · change f.title ≠ ""
    rw [hf.title]
    split
    · exact hf.url_ne
    · next hne => simpa using hne
  · change tidy maxUrl f.iconUrl = f.iconUrl
    rw [hf.iconUrl, tidy_tidy]
  · change tidy maxDescription f.description = f.description
    rw [hf.description, tidy_tidy]
  · intro tag htag
    change tag ∈ f.tags at htag
    rw [hf.tags] at htag
    cases htags : draft.tags with
    | none => simp [htags] at htag
    | some tags => exact isCanonical_of_mem_normalizeTags (by simpa [htags] using htag)

theorem IsTidy.trim_title (h : b.IsTidy) : Text.trim b.title = b.title := by
  rcases h.title with htitle | htitle
  · rw [← htitle, trim_tidy]
  · rw [htitle, ← h.url, trim_tidy]

/-- Where a draft leaves a title out, the bookmark keeps its own if the title is not too long. -/
theorem IsTidy.title_onto (h : b.IsTidy) (hf : (draft.onto b).Yields webOnly f)
    (hnone : draft.title = none) : f.title = b.title ↔ b.title.length ≤ maxTitle := by
  have hne : tidy maxTitle b.title ≠ "" := tidy_ne_empty (by decide) h.title_ne h.trim_title
  have htitle : f.title = tidy maxTitle b.title := by
    rw [hf.title]
    simp [onto, hnone, hne]
  rw [htitle]
  constructor
  · intro hsame
    rw [← hsame]
    exact length_tidy_le _ _
  · intro hlength
    exact tidy_eq_self hlength h.trim_title

theorem IsTidy.tags_onto (h : b.IsTidy) (hf : (draft.onto b).Yields webOnly f)
    (hnone : draft.tags = none) : f.tags = b.tags := by
  rw [hf.tags]
  simpa [onto, hnone] using normalizeTags_of_isCanonical h.tags

end Bookmark
end Linkshelf
