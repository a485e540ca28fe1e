import Mathlib.Data.List.Forall2
import Mathlib.Order.BooleanAlgebra.Basic
import Linkshelf.Proofs.Bookmark.SearchText
import Linkshelf.Proofs.Query.Conservation
import Linkshelf.Proofs.Query.Lexeme
import Linkshelf.Proofs.Query.Parts
import Linkshelf.Query.Basic

/-! A query without NOT goes on matching when there is more text to match. -/
namespace Linkshelf.Query

variable {q : String} {t : Token} {ts : List Token} {text more : String}
  {stack above : List Bool}

section Stacks

/-- As many values on either stack, and none that holds on the left alone. -/
def Below (stack above : List Bool) : Prop := List.Forall₂ (· ≤ ·) stack above

theorem meets_mono (h : text.toList <:+: more.toList) (term : String) :
    meets text term ≤ meets more term := by
  rw [Bool.le_iff_imp, meets, meets, decide_eq_true_eq, decide_eq_true_eq]
  rintro (hempty | hpart)
  · exact Or.inl hempty
  · exact Or.inr (hpart.trans h)

/-- One token other than NOT keeps the values in this order, and lacks an operand on both stacks or
on neither. -/
theorem push_mono (h : text.toList <:+: more.toList) (ht : t ≠ .not) (hs : Below stack above) :
    Option.Rel Below (push text t stack) (push more t above) := by
  cases t with
  | term term =>
    simp only [push, ← meets_eq]
    exact .some (.cons (meets_mono h term) hs)
  | not => exact (ht rfl).elim
  | lparen | rparen => exact .some hs
  | and =>
    cases hs with
    | nil => exact .none
    | cons hb hs =>
      cases hs with
      | nil => exact .none
      | cons ha hs => exact .some (.cons (inf_le_inf ha hb) hs)
  | or =>
    cases hs with
    | nil => exact .none
    | cons hb hs =>
      cases hs with
      | nil => exact .none
      | cons ha hs => exact .some (.cons (sup_le_sup ha hb) hs)

theorem stackAfter_mono (h : text.toList <:+: more.toList) (hts : .not ∉ ts)
    (hs : Below stack above) :
    Option.Rel Below (stackAfter text stack ts) (stackAfter more above ts) := by
  induction ts generalizing stack above with
  | nil => exact .some hs
  | cons t ts ih =>
    rw [List.mem_cons, not_or] at hts
    obtain ⟨ht, hrest⟩ := hts
    have hpush := push_mono h (Ne.symm ht) hs
    rw [stackAfter, stackAfter]
    generalize push text t stack = left at hpush
    generalize push more t above = right at hpush
    cases hpush with
    | none => exact .none
    | some hnext => exact ih hrest hnext

theorem value_mono (h : text.toList <:+: more.toList) (hts : .not ∉ ts)
    (hvalue : value ts text = true) : value ts more = true := by
  have hstacks : Option.Rel Below (stackAfter text [] ts) (stackAfter more [] ts) :=
    stackAfter_mono h hts .nil
  rw [value] at hvalue ⊢
  generalize stackAfter text [] ts = left at hstacks hvalue
  generalize stackAfter more [] ts = right at hstacks
  cases hstacks with
  | none => rfl
  | some hbelow =>
    cases hbelow with
    | nil => rfl
    | cons hle _ => exact Bool.le_iff_imp.mp hle hvalue

end Stacks

section Tokens

theorem not_mem_insertAnds_iff : .not ∈ insertAnds ts ↔ .not ∈ ts := by
  induction ts with
  | nil => rfl
  | cons a ts ih =>
    cases ts with
    | nil => rfl
    | cons b ts =>
      have hbetween : .not ∉ between a b := by
        rw [between]
        split <;> simp
      rw [insertAnds_cons_cons, List.mem_cons, List.mem_append, or_iff_right hbetween, ih,
        ← List.mem_cons]

theorem not_mem_polish_iff : .not ∈ polish ts ↔ .not ∈ ts := by
  rw [← List.count_pos_iff, ← List.count_pos_iff, count_polish (by simp) (by simp)]

/-- Blanks at the end complete a word, or go on with a phrase. -/
theorem Scan.not_mem_run_blanks {cs : List Char} (s : Scan) (h : ∀ c ∈ cs, isBlank c = true) :
    .not ∈ s.run cs ↔ .not ∈ s.finish := by
  induction cs generalizing s with
  | nil => rfl
  | cons c cs ih =>
    have hc := h c List.mem_cons_self
    have hrest := fun s => ih s fun d hd => h d (List.mem_cons_of_mem c hd)
    cases s with
    | gap => simpa [run, step, stepGap, hc] using hrest gap
    | word read =>
      have hgap : Token.not ∉ gap.run cs := fun h => List.not_mem_nil ((hrest gap).mp h)
      simp [run, step, hc, finish, hgap]
    | phrase read =>
      have hquote : c ≠ '"' := by
        rintro rfl
        cases hc
      simpa [run, step, hquote, finish, Token.ofPhrase] using hrest (phrase (c :: read))

/-- Outer blanks add no NOT to a query and take none away. -/
theorem not_mem_tokenize_trim_iff (q : String) :
    .not ∈ tokenize (Text.trim q) ↔ .not ∈ tokenize q := by
  obtain ⟨left, right, hq, hleft, hright⟩ := Chars.exists_eq_append_trim q.toList
  have hrun : Scan.gap.run q.toList = Scan.gap.run (Chars.trim q.toList ++ right) := by
    conv_lhs => rw [hq]
    exact Scan.run_gap_append hleft _
  rw [tokenize, tokenize, not_mem_insertAnds_iff, not_mem_insertAnds_iff, Text.trim,
    String.toList_ofList, hrun, Scan.run_append, Scan.run_eq, List.mem_append, List.mem_append,
    Scan.not_mem_run_blanks _ hright]

theorem not_mem_parse_iff (q : String) : .not ∈ (parse q).tokens ↔ .not ∈ tokenize q := by
  rw [parse, not_mem_polish_iff, not_mem_tokenize_trim_iff]

end Tokens

/-- A query without NOT that holds of a text holds of every text with that text in it, malformed or
not. So one more tag does not lose a bookmark that it matched. -/
theorem evaluate_mono (hq : .not ∉ tokenize q) :
    (∀ text more : String, text.toList <:+: more.toList →
      evaluate q text = true → evaluate q more = true) ∧
    ∀ (b : Bookmark) (tag : String), (parse q).matchesBookmark b = true →
      (parse q).matchesBookmark { b with tags := b.tags ++ [tag] } = true := by
  have htokens : .not ∉ (parse q).tokens := mt (not_mem_parse_iff q).mp hq
  constructor
  · intro text more h hvalue
    rw [evaluate, matchesText] at hvalue ⊢
    exact value_mono h htokens hvalue
  · intro b tag hmatch
    rw [matchesBookmark, matchesText, Bool.or_eq_true] at hmatch ⊢
    rcases hmatch with hall | hmatch
    · exact Or.inl hall
    · have hpart := (b.searchText_append_tag tag).isInfix
      exact Or.inr (value_mono hpart htokens hmatch)

/-- The word NOT as a phrase, in a parenthesis that stays open, and a tag after a title that ends in
a sigma. -/
theorem evaluate_mono_phrase :
    ∃ (q : String) (b : Bookmark), .not ∉ tokenize q ∧
      "οδος".toList <:+: "η οδος μου".toList ∧ evaluate q "οδος" = true ∧
      evaluate q "η οδος μου" = true ∧ evaluate q "οδοσ" = false ∧
      (parse q).matchesBookmark b = true ∧
      (parse q).matchesBookmark { b with tags := b.tags ++ ["ΜΟΥ"] } = true := by
  let q : String := "ΟΔΟΣ or (\"Not\" lean"
  let b : Bookmark := { id := "1", description := "Η ΟΔΟΣ" }
  have hq : Token.not ∉ tokenize q := by decide +kernel
  have hpart : "οδος".toList <:+: "η οδος μου".toList :=
    ⟨['η', ' '], [' ', 'μ', 'ο', 'υ'], by decide +kernel⟩
  have hvalue : evaluate q "οδος" = true := by decide +kernel
  have hother : evaluate q "οδοσ" = false := by decide +kernel
  have hmatch : (parse q).matchesBookmark b = true := by decide +kernel
  obtain ⟨htexts, htags⟩ := evaluate_mono hq
  exact ⟨q, b, hq, hpart, hvalue, htexts _ _ hpart hvalue, hother, hmatch, htags b "ΜΟΥ" hmatch⟩

end Linkshelf.Query
