import Linkshelf.Text.Basic
import Linkshelf.Text.Hex

/-! Hexadecimal digits and the numbers that several of them name. -/
namespace Linkshelf.Hex

variable {c : Char} {n : Nat}

theorem toNat_of_value? (h : value? c = some n) : 0x30 ≤ c.toNat ∧ c.toNat ≤ 0x66 := by
  have hle (a b : Char) : a ≤ b ↔ a.toNat ≤ b.toNat := Iff.rfl
  have hisDigit : c.isDigit = true ↔ '0' ≤ c ∧ c ≤ '9' := by simp [Char.isDigit, Char.le_def]
  simp only [value?, hisDigit, decide_eq_true_eq, Bool.and_eq_true, hle] at h
  split at h
  · next hc => simp at hc; omega
  · split at h
    · next hc => simp at hc; omega
    · split at h
      · next hc => simp at hc; omega
      · cases h

theorem value?_blank (h : isBlank c = true) : value? c = none := by
  cases hv : value? c with
  | none => rfl
  | some n =>
    have hcode := toNat_of_value? hv
    simp [isBlank] at h
    omega

/-- The number that digits go on to name. -/
def code (start : Nat) (ds : List Char) : Nat :=
  ds.foldl (fun n d => n * 16 + (value? d).getD 0) start

theorem code_append (start : Nat) (ds es : List Char) :
    code start (ds ++ es) = code (code start ds) es := List.foldl_append

theorem value?_toUpper_digitChar (h : n < 16) : value? (Nat.digitChar n).toUpper = some n := by
  revert n
  decide

theorem code_toDigits (n : Nat) :
    code 0 ((Nat.toDigits 16 n).map Char.toUpper) = n ∧
      ∀ d ∈ (Nat.toDigits 16 n).map Char.toUpper, (value? d).isSome := by
  induction n using Nat.strongRecOn with
  | ind n ih =>
    by_cases hlt : n < 16
    · rw [Nat.toDigits_of_lt_base hlt]
      simp [code, value?_toUpper_digitChar hlt]
    · obtain ⟨hcode, hdigits⟩ := ih (n / 16) (by omega)
      have hlast := value?_toUpper_digitChar (Nat.mod_lt n (by decide : 0 < 16))
      rw [Nat.toDigits_of_base_le (by decide) (by omega), List.map_append, code_append, hcode]
      constructor
      · simp only [List.map_singleton, code, List.foldl_cons, hlast, Option.getD_some,
          List.foldl_nil]
        omega
      · intro d hd
        rcases List.mem_append.mp hd with hd | hd
        · exact hdigits d hd
        · obtain rfl : d = (Nat.digitChar (n % 16)).toUpper := by simpa using hd
          simp [hlast]

theorem code_zeros (k : Nat) : code 0 (List.replicate k '0') = 0 := by
  induction k with
  | zero => rfl
  | succ k ih =>
    have hzero : value? '0' = some 0 := by decide
    simpa [code, List.replicate_succ, hzero] using ih

end Linkshelf.Hex
