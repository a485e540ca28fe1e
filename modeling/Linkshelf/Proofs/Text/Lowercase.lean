import Linkshelf.Text.Basic
import Linkshelf.Text.Lowercase

/-! Lower-casing part by part. What surrounds a part of a text decides only about its capital sigmas,
and the case of ASCII letters decides about nothing. -/
namespace Linkshelf.Text

variable {c d : Char} {cs ds read before part after left right : List Char}

section Surroundings

/-- What becomes of a part of a text. `before` stands before it, the nearest first. -/
def lowerBetween (before after : List Char) : List Char → List Char
  | [] => []
  | c :: cs =>
    (if c = 'Σ' then [lowerSigma before (cs ++ after)] else lowerChar c) ++
      lowerBetween (c :: before) after cs

theorem lowerFrom_append (before cs after : List Char) :
    lowerFrom before (cs ++ after) =
      lowerBetween before after cs ++ lowerFrom (cs.reverse ++ before) after := by
  induction cs generalizing before with
  | nil => rfl
  | cons c cs ih =>
    rw [List.cons_append, lowerFrom, lowerBetween, ih, List.reverse_cons, List.append_assoc,
      List.append_assoc, List.singleton_append]

/-- Each capital sigma of the part ends a word where the part stands just when it ends a word in the
part alone. -/
def KeepsSigmas (before part after : List Char) : Prop :=
  ∀ read rest, part = read ++ 'Σ' :: rest →
    lowerSigma (read.reverse ++ before.reverse) (rest ++ after) = lowerSigma read.reverse rest

theorem forall_cons_eq_append {P : List Char → List Char → Prop} :
    (∀ read rest, c :: cs = read ++ d :: rest → P read rest) ↔
      (c = d → P [] cs) ∧ ∀ read rest, cs = read ++ d :: rest → P (c :: read) rest := by
  constructor
  · intro h
    refine ⟨fun hc => h [] cs (by rw [hc]; rfl), fun read rest hcs => h (c :: read) rest ?_⟩
    rw [hcs, List.cons_append]
  · rintro ⟨hhead, htail⟩ read rest hcs
    cases read with
    | nil =>
      obtain ⟨hc, rfl⟩ := List.cons.inj hcs
      exact hhead hc
    | cons e read =>
      obtain ⟨rfl, hrest⟩ := List.cons.inj hcs
      exact htail read rest hrest

theorem lowerBetween_append_eq_iff (read : List Char) :
    lowerBetween (read ++ before) after cs = lowerFrom read cs ↔
      ∀ more rest, cs = more ++ 'Σ' :: rest →
        lowerSigma (more.reverse ++ (read ++ before)) (rest ++ after) =
          lowerSigma (more.reverse ++ read) rest := by
  induction cs generalizing read with
  | nil => simp [lowerBetween, lowerFrom]
  | cons c cs ih =>
    have hnext := ih (c :: read)
    rw [List.cons_append] at hnext
    rw [lowerBetween, lowerFrom, forall_cons_eq_append]
    simp only [List.reverse_nil, List.nil_append, List.reverse_cons, List.append_assoc,
      List.singleton_append]
    rw [← hnext]
    by_cases hc : c = 'Σ'
    · simp only [hc, if_true, List.singleton_append, List.cons.injEq, true_imp_iff]
    · simp only [hc, if_false, List.append_cancel_left_eq, false_imp_iff, true_and]

/-- A part is lower-cased as if it stood alone just when its sigmas are. -/
theorem lowerBetween_eq_iff :
    lowerBetween before.reverse after part = lowerFrom [] part ↔ KeepsSigmas before part after := by
  have hiff : lowerBetween ([] ++ before.reverse) after part = lowerFrom [] part ↔ _ :=
    lowerBetween_append_eq_iff []
  simpa [KeepsSigmas] using hiff

theorem keepsSigmas_of_notMem (h : 'Σ' ∉ part) : KeepsSigmas before part after := by
  rintro read rest rfl
  exact (h (by simp)).elim

/-- Beyond characters that meet no cased one, none is met. -/
theorem meetsCased_append (h : meetsCased ds = false) (cs : List Char) :
    meetsCased (cs ++ ds) = meetsCased cs := by
  induction cs with
  | nil => exact h
  | cons c cs ih => rw [List.cons_append, meetsCased, meetsCased, ih]

theorem meetsCased_blank (cs : List Char) : meetsCased (' ' :: cs) = false := by
  have hignorable : isCaseIgnorable ' ' = false := by decide +kernel
  have hcased : isCased ' ' = false := by decide +kernel
  simp [meetsCased, hignorable, hcased]

theorem lowerSigma_append (hl : meetsCased left = false) (hr : meetsCased right = false)
    (before after : List Char) :
    lowerSigma (before ++ left) (after ++ right) = lowerSigma before after := by
  rw [lowerSigma, lowerSigma, meetsCased_append hl, meetsCased_append hr]

/-- What stands apart on both sides is lower-cased as if it stood alone. -/
theorem keepsSigmas_of_apart (hl : meetsCased before.reverse = false)
    (hr : meetsCased after = false) : KeepsSigmas before part after := by
  intro read rest _
  exact lowerSigma_append hl hr read.reverse rest

theorem KeepsSigmas.widen (h : KeepsSigmas before part after) (hl : meetsCased left.reverse = false)
    (hr : meetsCased right = false) : KeepsSigmas (left ++ before) part (after ++ right) := by
  intro read rest hpart
  rw [List.reverse_append, ← List.append_assoc, ← List.append_assoc, lowerSigma_append hl hr]
  exact h read rest hpart

theorem KeepsSigmas.part_of_whole (h : KeepsSigmas before part after) :
    lowerFrom [] part <:+: lowerFrom [] (before ++ part ++ after) := by
  have hpart := lowerBetween_eq_iff.mpr h
  refine ⟨lowerBetween [] (part ++ after) before,
    lowerFrom (part.reverse ++ before.reverse) after, ?_⟩
  rw [List.append_assoc, List.append_assoc, lowerFrom_append, List.append_nil, lowerFrom_append,
    hpart]

/-- What follows a space does not change what is before it. -/
theorem lowerFrom_append_blank (cs ds : List Char) :
    lowerFrom [] (cs ++ ' ' :: ds) = lowerFrom [] cs ++ ' ' :: lowerFrom (' ' :: cs.reverse) ds := by
  have hkeeps : KeepsSigmas [] cs (' ' :: ds) := keepsSigmas_of_apart rfl (meetsCased_blank ds)
  have hfront : lowerBetween [] (' ' :: ds) cs = lowerFrom [] cs := lowerBetween_eq_iff.mpr hkeeps
  have hblank : lowerChar ' ' = [' '] := by decide
  rw [lowerFrom_append, hfront, List.append_nil, lowerFrom, if_neg (by decide), hblank,
    List.singleton_append]

end Surroundings

section Ascii

/-- A character is an ASCII capital, with a small letter that belongs to it, or stays as it is. -/
theorem toLower_cases {P : Char → Char → Prop} (hsame : ∀ c, P c c)
    (hcapital : ∀ k < 26, P (Char.ofNat (65 + k)) (Char.ofNat (97 + k))) (c : Char) :
    P c c.toLower := by
  by_cases hc : c.val ≥ 'A'.val ∧ c.val ≤ 'Z'.val
  · have hA : 65 ≤ c.toNat := hc.1
    have hZ : c.toNat ≤ 90 := hc.2
    have hletter := hcapital (c.toNat - 65) (by omega)
    have hsmall : ∀ k < 26, (Char.ofNat (65 + k)).toLower = Char.ofNat (97 + k) := by
      decide +kernel
    rwa [← hsmall _ (by omega), Nat.add_sub_cancel' hA, Char.ofNat_toNat] at hletter
  · have hself : c.toLower = c := dif_neg hc
    rw [hself]
    exact hsame c

theorem toLower_toLower (c : Char) : c.toLower.toLower = c.toLower :=
  toLower_cases (P := fun c d => d.toLower = c.toLower) (fun _ => rfl) (by decide +kernel) c

theorem isBlank_toLower (c : Char) : isBlank c.toLower = isBlank c :=
  toLower_cases (P := fun c d => isBlank d = isBlank c) (fun _ => rfl) (by decide +kernel) c

theorem isCased_toLower (c : Char) : isCased c.toLower = isCased c :=
  toLower_cases (P := fun c d => isCased d = isCased c) (fun _ => rfl) (by decide +kernel) c

/-- The code of an ASCII letter. -/
def IsLetterCode (n : Nat) : Prop := (65 ≤ n ∧ n ≤ 90) ∨ (97 ≤ n ∧ n ≤ 122)

instance (n : Nat) : Decidable (IsLetterCode n) := inferInstanceAs (Decidable (_ ∨ _))

/-- Case does not ignore an ASCII letter. -/
theorem isCaseIgnorable_letter (h : IsLetterCode c.toNat) : isCaseIgnorable c = false := by
  have hranges : ∀ r ∈ caseIgnorableRanges, r.2 < 65 ∨ 122 < r.1 ∨ (90 < r.1 ∧ r.2 < 97) := by
    decide +kernel
  rw [isCaseIgnorable, inRanges, List.any_eq_false]
  intro r hr hin
  have hapart := hranges r hr
  simp only [Bool.and_eq_true, decide_eq_true_eq] at hin
  rcases h with h | h <;> omega

theorem isCaseIgnorable_toLower (c : Char) : isCaseIgnorable c.toLower = isCaseIgnorable c := by
  refine toLower_cases (P := fun c d => isCaseIgnorable d = isCaseIgnorable c) (fun _ => rfl) ?_ c
  intro k hk
  have hcodes : ∀ k < 26, IsLetterCode (Char.ofNat (65 + k)).toNat ∧
      IsLetterCode (Char.ofNat (97 + k)).toNat := by decide +kernel
  obtain ⟨hcapital, hsmall⟩ := hcodes k hk
  rw [isCaseIgnorable_letter hcapital, isCaseIgnorable_letter hsmall]

theorem lowerChar_toLower (c : Char) : lowerChar c.toLower = lowerChar c :=
  toLower_cases (P := fun c d => lowerChar d = lowerChar c) (fun _ => rfl) (by decide +kernel) c

/-- A character that is no ASCII letter comes from itself only. -/
theorem toLower_eq_iff (h : ∀ k < 26, Char.ofNat (65 + k) ≠ d ∧ Char.ofNat (97 + k) ≠ d)
    (c : Char) : c.toLower = d ↔ c = d := by
  refine toLower_cases (P := fun c e => e = d ↔ c = d) (fun _ => Iff.rfl) ?_ c
  intro k hk
  obtain ⟨hcapital, hsmall⟩ := h k hk
  exact iff_of_false hsmall hcapital

theorem meetsCased_map_toLower (cs : List Char) :
    meetsCased (cs.map Char.toLower) = meetsCased cs := by
  induction cs with
  | nil => rfl
  | cons c cs ih =>
    rw [List.map_cons, meetsCased, meetsCased, ih, isCaseIgnorable_toLower, isCased_toLower]

theorem lowerFrom_map_toLower (before cs : List Char) :
    lowerFrom (before.map Char.toLower) (cs.map Char.toLower) = lowerFrom before cs := by
  induction cs generalizing before with
  | nil => rfl
  | cons c cs ih =>
    have hsigma : c.toLower = 'Σ' ↔ c = 'Σ' := toLower_eq_iff (by decide +kernel) c
    have hrest := ih (c :: before)
    rw [List.map_cons] at hrest
    rw [List.map_cons, lowerFrom, lowerFrom, hrest, lowerChar_toLower, lowerSigma, lowerSigma,
      meetsCased_map_toLower, meetsCased_map_toLower]
    simp only [hsigma]

/-- The text with its ASCII letters in lower case, and all else as it is. -/
def asciiLower (s : String) : String := .ofList (s.toList.map Char.toLower)

/-- The texts differ at most in the case of ASCII letters. -/
def SameLetters (s t : String) : Prop := asciiLower s = asciiLower t

theorem lower_asciiLower (s : String) : lower (asciiLower s) = lower s := by
  have hlower := lowerFrom_map_toLower [] s.toList
  rw [List.map_nil] at hlower
  rw [lower, asciiLower, String.toList_ofList, hlower, lower]

end Ascii
end Linkshelf.Text
