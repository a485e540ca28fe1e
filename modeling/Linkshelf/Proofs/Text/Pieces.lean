import Mathlib.Data.List.DropRight
import Linkshelf.Text.Basic

/-! Splitting and joining undo each other, and a trimmed text stays as it is. -/
namespace Linkshelf.Chars

variable {isSeparator : Char → Bool} {sep : Char} {cs ds : List Char} {ps qs : List (List Char)}

theorem split_eq_splitOnP (isSeparator : Char → Bool) (cs : List Char) :
    split isSeparator cs = cs.splitOnP isSeparator := by
  induction cs with
  | nil => rfl
  | cons c cs ih => rw [split, ih, List.splitOnP_cons_eq_if_modifyHead]

theorem join_cons_cons (sep p q : List Char) (ps : List (List Char)) :
    join sep (p :: q :: ps) = p ++ sep ++ join sep (q :: ps) := rfl

theorem join_eq_intercalate (sep : List Char) (ps : List (List Char)) :
    join sep ps = sep.intercalate ps := by
  induction ps with
  | nil => rfl
  | cons p ps ih =>
    cases ps with
    | nil => simp [join]
    | cons q ps => rw [join_cons_cons, ih, List.intercalate_cons_cons]

theorem split_ne_nil (isSeparator : Char → Bool) (cs : List Char) : split isSeparator cs ≠ [] := by
  rw [split_eq_splitOnP]
  exact List.splitOnP_ne_nil isSeparator cs

/-- Pieces without a separator are found again. -/
theorem split_join (hsep : isSeparator sep = true) (hne : ps ≠ [])
    (h : ∀ p ∈ ps, ∀ c ∈ p, isSeparator c = false) : split isSeparator (join [sep] ps) = ps := by
  induction ps with
  | nil => exact (hne rfl).elim
  | cons p ps ih =>
    have hp := List.splitOnP_eq_singleton (h p List.mem_cons_self)
    cases ps with
    | nil => rw [join, split_eq_splitOnP, hp]
    | cons q ps =>
      have hrest := ih (List.cons_ne_nil q ps) fun r hr => h r (List.mem_cons_of_mem p hr)
      rw [split_eq_splitOnP] at hrest ⊢
      rw [join_cons_cons, List.append_assoc, List.singleton_append,
        List.splitOnP_append_cons _ _ hsep, hp, hrest, List.singleton_append]

theorem join_split (sep : Char) (cs : List Char) : join [sep] (split (· == sep) cs) = cs := by
  rw [split_eq_splitOnP, join_eq_intercalate]
  exact List.intercalate_splitOn sep

theorem split_append_separator (sep : Char) (cs ds : List Char) :
    split (· == sep) (cs ++ sep :: ds) = split (· == sep) cs ++ split (· == sep) ds := by
  simp only [split_eq_splitOnP]
  exact List.splitOnP_append_cons cs ds (by simp)

theorem join_append (sep : List Char) (hp : ps ≠ []) (hq : qs ≠ []) :
    join sep (ps ++ qs) = join sep ps ++ sep ++ join sep qs := by
  induction ps with
  | nil => exact (hp rfl).elim
  | cons p ps ih =>
    cases ps with
    | nil =>
      obtain ⟨q, qs, rfl⟩ := List.exists_cons_of_ne_nil hq
      rfl
    | cons r ps =>
      have hrest := ih (List.cons_ne_nil r ps)
      rw [List.cons_append] at hrest
      simp only [List.cons_append, join_cons_cons, hrest, List.append_assoc]

theorem mem_join {c : Char} {sep : List Char} (h : c ∈ join sep ps) :
    c ∈ sep ∨ ∃ p ∈ ps, c ∈ p := by
  induction ps with
  | nil => simp [join] at h
  | cons p ps ih =>
    cases ps with
    | nil => exact Or.inr ⟨p, List.mem_cons_self, h⟩
    | cons q ps =>
      rw [join_cons_cons, List.mem_append, List.mem_append] at h
      rcases h with (hp | hsep) | hrest
      · exact Or.inr ⟨p, List.mem_cons_self, hp⟩
      · exact Or.inl hsep
      · rcases ih hrest with hsep | ⟨r, hr, hc⟩
        · exact Or.inl hsep
        · exact Or.inr ⟨r, List.mem_cons_of_mem p hr, hc⟩

/-- A piece has the text's characters, but no separator. -/
theorem mem_of_mem_split {p : List Char} {c : Char} (hp : p ∈ split isSeparator cs) (hc : c ∈ p) :
    c ∈ cs ∧ isSeparator c = false := by
  induction cs generalizing p with
  | nil => simp_all [split]
  | cons d cs ih =>
    rw [split] at hp
    split at hp
    · rcases List.mem_cons.mp hp with rfl | hp
      · simp at hc
      · exact ⟨List.mem_cons_of_mem d (ih hp hc).1, (ih hp hc).2⟩
    · next hd =>
      obtain ⟨q, qs, hq⟩ := List.exists_cons_of_ne_nil (split_ne_nil isSeparator cs)
      rw [hq, List.modifyHead_cons] at hp
      rcases List.mem_cons.mp hp with rfl | hp
      · rcases List.mem_cons.mp hc with rfl | hc
        · exact ⟨List.mem_cons_self, by simpa using hd⟩
        · have hcs := ih (hq ▸ List.mem_cons_self) hc
          exact ⟨List.mem_cons_of_mem d hcs.1, hcs.2⟩
      · have hcs := ih (hq ▸ List.mem_cons_of_mem q hp) hc
        exact ⟨List.mem_cons_of_mem d hcs.1, hcs.2⟩

/-- The last piece is what follows the last separator. -/
theorem getLast?_split (sep : Char) (cs : List Char) :
    (split (· == sep) cs).getLast? = some (cs.rtakeWhile (· != sep)) := by
  have hlast : ∀ c ∈ cs.rtakeWhile (· != sep), (c == sep) = false := fun c hc => by
    simpa using List.mem_rtakeWhile_imp hc
  have hsplit := List.splitOnP_eq_singleton hlast
  have hparts := List.rdropWhile_append_rtakeWhile (p := (· != sep)) (l := cs)
  by_cases hfront : cs.rdropWhile (· != sep) = []
  · rw [hfront, List.nil_append] at hparts
    rw [← split_eq_splitOnP, hparts] at hsplit
    rw [hsplit, hparts]
    rfl
  · have hsep : (cs.rdropWhile (· != sep)).getLast hfront = sep := by
      simpa using List.rdropWhile_last_not (· != sep) cs hfront
    have hconcat := List.dropLast_append_getLast hfront
    rw [hsep] at hconcat
    rw [← hconcat, List.append_assoc, List.singleton_append] at hparts
    conv_lhs => rw [← hparts]
    rw [split_append_separator, split_eq_splitOnP _ (cs.rtakeWhile _), hsplit]
    simp

/-- Not empty, and without a blank at either end. -/
structure IsSolid (cs : List Char) : Prop where
  nonempty : cs ≠ []
  first : ∀ c ∈ cs.head?, isBlank c = false
  last : ∀ c ∈ cs.getLast?, isBlank c = false

theorem isSolid_of_forall (hne : cs ≠ []) (h : ∀ c ∈ cs, isBlank c = false) : IsSolid cs where
  nonempty := hne
  first c hc := h c (List.mem_of_head? hc)
  last c hc := h c (List.mem_of_getLast? hc)

theorem IsSolid.append (hc : IsSolid cs) (hd : IsSolid ds) (between : List Char) :
    IsSolid (cs ++ between ++ ds) where
  nonempty := by simp [hc.nonempty]
  first := by
    rw [List.append_assoc, List.head?_append_of_ne_nil _ hc.nonempty]
    exact hc.first
  last := by
    rw [List.getLast?_append_of_ne_nil _ hd.nonempty]
    exact hd.last

theorem isSolid_join (sep : List Char) (hne : ps ≠ []) (h : ∀ p ∈ ps, IsSolid p) :
    IsSolid (join sep ps) := by
  induction ps with
  | nil => exact (hne rfl).elim
  | cons p ps ih =>
    have hp := h p List.mem_cons_self
    cases ps with
    | nil => exact hp
    | cons q ps =>
      exact hp.append (ih (List.cons_ne_nil q ps) fun r hr => h r (List.mem_cons_of_mem p hr)) sep

theorem trim_eq (cs : List Char) : trim cs = (cs.dropWhile isBlank).rdropWhile isBlank := rfl

theorem IsSolid.trim (h : IsSolid cs) : trim cs = cs := by
  obtain ⟨c, rest, rfl⟩ := List.exists_cons_of_ne_nil h.nonempty
  have hc : isBlank c = false := h.first c (by simp)
  have hdrop : (c :: rest).dropWhile isBlank = c :: rest := by simp [hc]
  rw [trim_eq, hdrop, List.rdropWhile_eq_self_iff]
  intro hne
  simpa using h.last _ (List.getLast_mem_getLast? hne)

theorem isSolid_trim (h : trim cs ≠ []) : IsSolid (trim cs) := by
  rw [trim_eq] at h ⊢
  have hkept : (cs.dropWhile isBlank).rdropWhile isBlank <+: cs.dropWhile isBlank :=
    List.rdropWhile_prefix isBlank _
  refine ⟨h, fun c hc => ?_, fun c hc => ?_⟩
  · have hfirst := List.head?_dropWhile_not isBlank cs
    obtain ⟨rest, hrest⟩ := hkept
    rw [← hrest, List.head?_append_of_ne_nil _ h, hc] at hfirst
    exact hfirst
  · have hlast := List.rdropWhile_last_not isBlank _ h
    rw [List.getLast?_eq_some_getLast h] at hc
    obtain rfl := Option.some.inj hc
    simpa using hlast

theorem trim_trim (cs : List Char) : trim (trim cs) = trim cs := by
  by_cases h : trim cs = []
  · rw [h]
    rfl
  · exact (isSolid_trim h).trim

theorem trim_eq_nil_iff : trim cs = [] ↔ ∀ c ∈ cs, isBlank c = true := by
  rw [trim_eq, List.rdropWhile_eq_nil_iff]
  constructor
  · intro h
    rw [← List.dropWhile_eq_nil_iff]
    by_contra hne
    have hfirst := List.head_dropWhile_not isBlank hne
    rw [h _ (List.head_mem hne)] at hfirst
    cases hfirst
  · intro h
    rw [List.dropWhile_eq_nil_iff.mpr h]
    simp

theorem length_trim_le (cs : List Char) : (trim cs).length ≤ cs.length := by
  rw [trim_eq]
  exact (List.rdropWhile_prefix isBlank _).length_le.trans (List.length_dropWhile_le isBlank cs)

theorem exists_eq_append_trim (cs : List Char) :
    ∃ left right, cs = left ++ (trim cs ++ right) ∧
      (∀ c ∈ left, isBlank c = true) ∧ ∀ c ∈ right, isBlank c = true := by
  refine ⟨cs.takeWhile isBlank, (cs.dropWhile isBlank).rtakeWhile isBlank, ?_, ?_, ?_⟩
  · rw [trim_eq, List.rdropWhile_append_rtakeWhile, List.takeWhile_append_dropWhile]
  · intro c hc
    exact List.mem_takeWhile_imp hc
  · intro c hc
    exact List.mem_rtakeWhile_imp hc

/-- What changes no piece, with the empty pieces dropped, keeps pieces none of which is empty. -/
theorem filter_map_eq_self {f : List Char → List Char} (h : ∀ p ∈ ps, f p = p ∧ p ≠ []) :
    (ps.map f).filter (!·.isEmpty) = ps := by
  have hmap : ps.map f = ps := (List.map_congr_left fun p hp => (h p hp).1).trans (List.map_id _)
  rw [hmap, List.filter_eq_self]
  intro p hp
  simpa using (h p hp).2

/-- Words with one space between them are found again. -/
theorem words_join (h : ∀ w ∈ ps, w ≠ [] ∧ ∀ c ∈ w, isBlank c = false) :
    words (join [' '] ps) = ps := by
  by_cases hne : ps = []
  · subst ps
    rfl
  · rw [words, split_join (by decide) hne fun w hw => (h w hw).2, List.filter_eq_self]
    intro w hw
    simpa using (h w hw).1

theorem mem_words {w : List Char} (h : w ∈ words cs) :
    w ≠ [] ∧ ∀ c ∈ w, c ∈ cs ∧ isBlank c = false := by
  obtain ⟨hsplit, hne⟩ := List.mem_filter.mp h
  exact ⟨by simpa using hne, fun c hc => mem_of_mem_split hsplit hc⟩

end Linkshelf.Chars
