import Linkshelf.Proofs.Query.Grammar

/-! Polish order token by token, and that it computes the value of an expression. -/
namespace Linkshelf.Query

variable {text : String} {e : Expr} {l : Level} {op top : Token} {ts waiting : List Token}
  {stack : List Bool} {m n : Nat}

theorem rank_le_three (t : Token) : rank t ≤ 3 := by cases t <;> simp [rank]

theorem yields_lparen (h : 0 < rank op) : yields op .lparen = false := by
  cases op <;> simp_all [yields, rank]

theorem yields_of_rank_le (h : rank op ≤ rank top) (hop : rank op < 3) : yields op top = true := by
  have hne : op ≠ .not := by rintro rfl; simp [rank] at hop
  rcases Nat.lt_or_eq_of_le h with hlt | heq
  · simp [yields, hlt]
  · simp [yields, heq, hne]

/-- What waits once a token is read, and what the token places. -/
def advance (waiting : List Token) : Token → List Token × List Token
  | .term text => (waiting, [.term text])
  | .lparen => (.lparen :: waiting, [])
  | .rparen => ((waiting.dropWhile (· != .lparen)).drop 1, waiting.takeWhile (· != .lparen))
  | op => (op :: waiting.dropWhile (yields op), waiting.takeWhile (yields op))

theorem advance_operator (h : 0 < rank op) (waiting : List Token) :
    advance waiting op = (op :: waiting.dropWhile (yields op), waiting.takeWhile (yields op)) := by
  cases op <;> simp_all [advance, rank]

theorem polishFrom_cons (waiting : List Token) (t : Token) (ts : List Token) :
    polishFrom waiting (t :: ts) =
      (advance waiting t).2 ++ polishFrom (advance waiting t).1 ts := by
  cases t <;> rfl

theorem polishFrom_operator (h : 0 < rank op) :
    polishFrom waiting (op :: ts) = waiting.takeWhile (yields op) ++
      polishFrom (op :: waiting.dropWhile (yields op)) ts := by
  rw [polishFrom_cons, advance_operator h]

/-- No operator from this rank on moves the one that waits on top. -/
def Rests (n : Nat) (waiting : List Token) : Prop :=
  ∀ op, n ≤ rank op → ∀ top ∈ waiting.head?, yields op top = false

theorem rests_nil : Rests n [] := by simp [Rests]

theorem rests_lparen (hn : 0 < n) : Rests n (.lparen :: waiting) := by
  intro op hop top htop
  obtain rfl : .lparen = top := by simpa using htop
  exact yields_lparen (by omega)

theorem rests_three : Rests 3 waiting := by
  intro op hop top _
  have hnot : op = .not := by cases op <;> simp_all [rank]
  have htop : ¬ 3 < rank top := by have := rank_le_three top; omega
  simp [hnot, yields, show rank .not = 3 from rfl, htop]

theorem rests_operator (h : rank top < n) : Rests n (top :: waiting) := by
  intro op hop x hx
  obtain rfl : top = x := by simpa using hx
  have hlt : ¬ rank op < rank top := by omega
  have hne : rank op ≠ rank top := by omega
  simp [yields, hne]
  omega

theorem Rests.mono (h : Rests m waiting) (hmn : m ≤ n) : Rests n waiting :=
  fun op hop => h op (by omega)

theorem Rests.takeWhile (h : Rests n waiting) (hop : n ≤ rank op) :
    waiting.takeWhile (yields op) = [] := by
  cases waiting with
  | nil => rfl
  | cons top waiting => simp [h op hop top (by simp)]

theorem Rests.dropWhile (h : Rests n waiting) (hop : n ≤ rank op) :
    waiting.dropWhile (yields op) = waiting := by
  cases waiting with
  | nil => rfl
  | cons top waiting => simp [h op hop top (by simp)]

theorem stackAfter_append (xs ys : List Token) :
    stackAfter text stack (xs ++ ys) =
      (stackAfter text stack xs).bind (stackAfter text · ys) := by
  induction xs generalizing stack with
  | nil => rfl
  | cons t xs ih => simp only [List.cons_append, stackAfter, Option.bind_assoc, ih]

def Level.rank : Level → Nat
  | or => 1
  | and => 2
  | not | atom => 3

/-- `placed` is given out at once and `kept` waits, each of it as tight as the level; together
they compute the value. -/
structure Computes (l : Level) (e : Expr) (placed kept : List Token) : Prop where
  tight : ∀ op ∈ kept, l.rank ≤ rank op
  value : ∀ text stack,
    stackAfter text stack (placed ++ kept) = some (e.value (meets text) :: stack)

/-- Operators that all yield are placed before the next one, and nothing below them. -/
theorem polishFrom_kept (op : Token) (ts : List Token) {kept : List Token}
    (hk : ∀ top ∈ kept, rank op ≤ rank top) (hop : 0 < rank op) (hop' : rank op < 3)
    (hw : Rests (rank op) waiting) :
    polishFrom (kept ++ waiting) (op :: ts) = kept ++ polishFrom (op :: waiting) ts := by
  have hy : ∀ top ∈ kept, yields op top = true := fun top ht => yields_of_rank_le (hk top ht) hop'
  rw [polishFrom_operator hop, List.takeWhile_append_of_pos hy, List.dropWhile_append_of_pos hy,
    hw.takeWhile le_rfl, hw.dropWhile le_rfl, List.append_nil]

/-- The tokens before an opening parenthesis are those that its closing one places. -/
theorem polishFrom_group {kept : List Token} (hk : ∀ top ∈ kept, 0 < rank top) :
    polishFrom (kept ++ .lparen :: waiting) (.rparen :: ts) = kept ++ polishFrom waiting ts := by
  have hy : ∀ top ∈ kept, (top != .lparen) = true := by
    intro top ht
    have hr := hk top ht
    cases top <;> simp_all [rank]
  simp only [polishFrom, List.takeWhile_append_of_pos hy, List.dropWhile_append_of_pos hy]
  simp

theorem Computes.weaken {k : Level} {placed kept : List Token} (h : Computes l e placed kept)
    (hk : k.rank ≤ l.rank) : Computes k e placed kept where
  tight op hop := Nat.le_trans hk (h.tight op hop)
  value := h.value

/-- With nothing left to wait, an expression is complete at any level. -/
theorem Computes.settle {k : Level} {placed kept : List Token} (h : Computes l e placed kept) :
    Computes k e (placed ++ kept) [] where
  tight := by simp
  value text stack := by simpa using h.value text stack

theorem Computes.not {placed kept : List Token} (h : Computes .not e placed kept) :
    Computes .not (.not e) placed (kept ++ [.not]) where
  tight op hop := by
    rcases List.mem_append.mp hop with hop | hop
    · exact h.tight op hop
    · obtain rfl : op = .not := by simpa using hop
      exact le_rfl
  value text stack := by
    rw [← List.append_assoc, stackAfter_append, h.value]
    rfl

/-- A left operand is placed whole before the operator waits; the right one comes on top of it. -/
theorem Computes.join {a b c : Expr} {k : Level} {pa ka pb kb : List Token}
    (ha : Computes l a pa ka) (hb : Computes k b pb kb) (hkl : l.rank ≤ k.rank)
    (hop : l.rank ≤ rank op)
    (hpush : ∀ text stack, push text op (b.value (meets text) :: a.value (meets text) :: stack) =
      some (c.value (meets text) :: stack)) :
    Computes l c (pa ++ ka ++ pb) (kb ++ [op]) where
  tight x hx := by
    rcases List.mem_append.mp hx with hx | hx
    · exact Nat.le_trans hkl (hb.tight x hx)
    · obtain rfl : x = op := by simpa using hx
      exact hop
  value text stack := by
    have hassoc : pa ++ ka ++ pb ++ (kb ++ [op]) = (pa ++ ka) ++ ((pb ++ kb) ++ [op]) := by simp
    rw [hassoc, stackAfter_append, ha.value, Option.bind_some, stackAfter_append, hb.value]
    simp [stackAfter, hpush]

/-- Before whatever rest, the tokens add to the output and to what waits just what computes the
value of the expression. -/
def Contributes (l : Level) (e : Expr) (waiting ts : List Token) : Prop :=
  ∃ placed kept, Computes l e placed kept ∧
    ∀ rest, polishFrom waiting (ts ++ rest) = placed ++ polishFrom (kept ++ waiting) rest

theorem contributes_term (t : String) (waiting : List Token) :
    Contributes .atom (.term t) waiting [.term t] := by
  refine ⟨[.term t], [], ⟨by simp, fun text stack => ?_⟩, fun rest => rfl⟩
  simp [stackAfter, push, Expr.value, meets_eq]

theorem Contributes.weaken {k : Level} (h : Contributes l e waiting ts) (hk : k.rank ≤ l.rank) :
    Contributes k e waiting ts := by
  obtain ⟨placed, kept, hc, hp⟩ := h
  exact ⟨placed, kept, hc.weaken hk, hp⟩

theorem Contributes.group (h : Contributes .or e (.lparen :: waiting) ts) :
    Contributes .atom e waiting (.lparen :: (ts ++ [.rparen])) := by
  obtain ⟨placed, kept, hc, hp⟩ := h
  have hk : ∀ top ∈ kept, 0 < rank top := fun top ht => hc.tight top ht
  refine ⟨placed ++ kept, [], hc.settle, fun rest => ?_⟩
  calc polishFrom waiting (.lparen :: (ts ++ [.rparen]) ++ rest)
      = polishFrom (.lparen :: waiting) (ts ++ .rparen :: rest) := by simp [polishFrom]
    _ = placed ++ polishFrom (kept ++ .lparen :: waiting) (.rparen :: rest) := hp _
    _ = placed ++ kept ++ polishFrom waiting rest := by simp [polishFrom_group hk]

theorem Contributes.not (h : Contributes .not e (.not :: waiting) ts) (hw : Rests 3 waiting) :
    Contributes .not (.not e) waiting (.not :: ts) := by
  obtain ⟨placed, kept, hc, hp⟩ := h
  refine ⟨placed, kept ++ [.not], hc.not, fun rest => ?_⟩
  rw [List.cons_append, polishFrom_operator (by simp [rank]), hw.takeWhile le_rfl,
    hw.dropWhile le_rfl, List.nil_append, hp]
  simp

theorem Contributes.join {a b c : Expr} {k : Level} {as bs : List Token}
    (ha : Contributes l a waiting as) (hb : Contributes k b (op :: waiting) bs)
    (hw : Rests l.rank waiting) (hop : rank op = l.rank) (hpos : 0 < l.rank) (hlk : l.rank < k.rank)
    (hpush : ∀ text stack, push text op (b.value (meets text) :: a.value (meets text) :: stack) =
      some (c.value (meets text) :: stack)) :
    Contributes l c waiting (as ++ op :: bs) := by
  obtain ⟨pa, ka, hca, hpa⟩ := ha
  obtain ⟨pb, kb, hcb, hpb⟩ := hb
  have hthree : k.rank ≤ 3 := by cases k <;> simp [Level.rank]
  have hk : ∀ top ∈ ka, rank op ≤ rank top := fun top ht => hop ▸ hca.tight top ht
  refine ⟨pa ++ ka ++ pb, kb ++ [op], hca.join hcb hlk.le hop.ge hpush, fun rest => ?_⟩
  calc polishFrom waiting (as ++ op :: bs ++ rest)
      = polishFrom waiting (as ++ op :: (bs ++ rest)) := by simp
    _ = pa ++ polishFrom (ka ++ waiting) (op :: (bs ++ rest)) := hpa _
    _ = pa ++ (ka ++ polishFrom (op :: waiting) (bs ++ rest)) := by
      rw [polishFrom_kept op _ hk (by omega) (by omega) (hop ▸ hw)]
    _ = pa ++ ka ++ pb ++ polishFrom (kb ++ [op] ++ waiting) rest := by simp [hpb]

/-- So does every expression wherever its operators leave what waits alone. -/
theorem Derives.contributes (h : Derives l e ts) :
    ∀ waiting, Rests l.rank waiting → Contributes l e waiting ts := by
  induction h with
  | term t =>
    intro waiting _
    exact contributes_term t waiting
  | group _ ih =>
    intro waiting _
    exact (ih (.lparen :: waiting) (rests_lparen (by simp [Level.rank]))).group
  | atom _ ih =>
    intro waiting hw
    exact (ih waiting hw).weaken le_rfl
  | not _ ih =>
    intro waiting hw
    exact (ih (.not :: waiting) rests_three).not hw
  | single _ ih =>
    intro waiting _
    exact (ih waiting rests_three).weaken (by simp [Level.rank])
  | and _ _ iha ihb =>
    intro waiting hw
    have hb := ihb (.and :: waiting) rests_three
    exact (iha waiting hw).join hb hw rfl (by decide) (by decide) fun _ _ => rfl
  | branch _ ih =>
    intro waiting hw
    have h := ih waiting (hw.mono (by simp [Level.rank]))
    exact h.weaken (by simp [Level.rank])
  | or _ _ iha ihb =>
    intro waiting hw
    have hb := ihb (.or :: waiting) (rests_operator (by decide))
    exact (iha waiting hw).join hb hw rfl (by decide) (by decide) fun _ _ => rfl

/-- The polish order of an expression leaves its value, and nothing else, on the stack. -/
theorem Derives.stackAfter_polish (h : Derives .or e ts) (text : String) :
    stackAfter text [] (polish ts) = some [e.value (meets text)] := by
  obtain ⟨placed, kept, hc, hp⟩ := h.contributes [] rests_nil
  have hkeep : kept.filter (· != .lparen) = kept := by
    apply List.filter_eq_self.mpr
    intro op hop
    have hr : 1 ≤ rank op := hc.tight op hop
    cases op <;> simp_all [rank]
  have hall : polish ts = placed ++ kept := by simpa [polish, polishFrom, hkeep] using hp []
  rw [hall, hc.value]

end Linkshelf.Query
