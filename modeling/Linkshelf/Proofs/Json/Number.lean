import Mathlib.Tactic.IntervalCases
import Linkshelf.Json.Number

/-! A printed natural number is read back. -/
namespace Linkshelf.Json

variable {n : Nat} {ds : List Char} {s : List Glyph}

/-- What may follow a whole number: no digit, and nothing that a fraction or an exponent starts
with. -/
def EndsNumber (s : List Glyph) : Prop :=
  ∀ g ∈ s.head?, digit? g = none ∧ g ≠ .char '.' ∧ g ≠ .char 'e' ∧ g ≠ .char 'E'

theorem takeDigits_append (hd : ∀ d ∈ ds, d.isDigit = true) (hs : EndsNumber s) :
    takeDigits (ds.map .char ++ s) = (ds, s) := by
  induction ds with
  | nil =>
    cases s with
    | nil => rfl
    | cons g s => simp [takeDigits, (hs g (by simp)).1]
  | cons d ds ih =>
    have hdigit : digit? (.char d) = some d := by simp [digit?, hd d (by simp)]
    have hrest : ∀ x ∈ ds, x.isDigit = true := fun x hx => hd x (by simp [hx])
    simp [takeDigits, hdigit, ih hrest]

theorem digitsValue_eq (ds : List Char) : digitsValue ds = Nat.ofDigitChars 10 ds 0 := by
  rw [Nat.ofDigitChars_eq_foldl, digitsValue]
  simp only [Nat.mul_comm]

theorem digitsValue_toDigits (n : Nat) : digitsValue (Nat.toDigits 10 n) = n := by
  rw [digitsValue_eq, Nat.ofDigitChars_ten_toDigits]

theorem exists_digit (n : Nat) : ∃ d ds, Nat.toDigits 10 n = d :: ds ∧ d.isDigit = true := by
  have hne : Nat.toDigits 10 n ≠ [] := Nat.toDigits_ne_nil
  obtain ⟨d, ds, hds⟩ := List.exists_cons_of_ne_nil hne
  have hmem : d ∈ Nat.toDigits 10 n := by simp [hds]
  exact ⟨d, ds, hds, Nat.isDigit_of_mem_toDigits (by omega) le_rfl hmem⟩

/-- Only the number zero starts with the digit zero. -/
theorem toDigits_head (hn : 0 < n) : (Nat.toDigits 10 n).head? ≠ some '0' := by
  induction n using Nat.strongRecOn with
  | ind n ih =>
    by_cases hlt : n < 10
    · rw [Nat.toDigits_of_lt_base hlt]
      interval_cases n <;> decide
    · rw [Nat.toDigits_of_base_le (by omega) (by omega), List.head?_append]
      obtain ⟨d, ds, hds, -⟩ := exists_digit (n / 10)
      have h := ih (n / 10) (by omega) (by omega)
      simpa [hds] using h

theorem readWhole_natural (hs : EndsNumber s) (n : Nat) :
    readWhole ((Nat.toDigits 10 n).map .char ++ s) = .ok (Nat.toDigits 10 n, s) := by
  have hdigits : ∀ d ∈ Nat.toDigits 10 n, d.isDigit = true :=
    fun d hd => Nat.isDigit_of_mem_toDigits (by omega) le_rfl hd
  have hne : Nat.toDigits 10 n ≠ [] := Nat.toDigits_ne_nil
  rw [readWhole, takeDigits_append hdigits hs]
  rcases Nat.eq_zero_or_pos n with rfl | hn
  · rfl
  · have hhead := toDigits_head hn
    split <;> simp_all

theorem readFraction_none (hs : EndsNumber s) : readFraction s = .ok (none, s) := by
  unfold readFraction
  split
  · next rest => exact absurd rfl (hs _ rfl).2.1
  · rfl

theorem readExponent_none (hs : EndsNumber s) : readExponent s = .ok (none, s) := by
  have hlower : ∀ rest, s ≠ .char 'e' :: rest := by
    rintro rest rfl
    exact (hs _ rfl).2.2.1 rfl
  have hupper : ∀ rest, s ≠ .char 'E' :: rest := by
    rintro rest rfl
    exact (hs _ rfl).2.2.2 rfl
  unfold readExponent
  split <;> simp_all

theorem readNumber_natural (hn : n < Nat.pow 2 64) (hs : EndsNumber s) :
    readNumber false false ((toString n).toList.map .char ++ s) = .ok (natural n, s) := by
  have htext : (toString n).toList = Nat.toDigits 10 n := by simp
  simp only [readNumber, htext, readWhole_natural hs, readFraction_none hs, readExponent_none hs,
    digitsValue_toDigits, bind, Except.bind, hn]
  rfl

end Linkshelf.Json
