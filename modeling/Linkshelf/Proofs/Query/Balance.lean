import Linkshelf.Proofs.Query.Grammar

/-! Missing parentheses, and how tokens in their places and with those parentheses are derived. -/
namespace Linkshelf.Query

variable {e : Expr} {m n : Nat} {ts as inner : List Token} {outer : List (List Token)}

/-- The closing parentheses that close nothing when `n` are open before the tokens. -/
def unopened : Nat → List Token → Nat
  | _, [] => 0
  | n, .lparen :: ts => unopened (n + 1) ts
  | 0, .rparen :: ts => unopened 0 ts + 1
  | n + 1, .rparen :: ts => unopened n ts
  | n, _ :: ts => unopened n ts

/-- The parentheses still open after the tokens when `n` are open before them. -/
def unclosed : Nat → List Token → Nat
  | n, [] => n
  | n, .lparen :: ts => unclosed (n + 1) ts
  | n, .rparen :: ts => unclosed (n - 1) ts
  | n, _ :: ts => unclosed n ts

/-- The tokens with the missing opening parentheses in front and the missing closing ones at the
end. -/
def balanced (ts : List Token) : List Token :=
  List.replicate (unopened 0 ts) .lparen ++ ts ++ List.replicate (unclosed 0 ts) .rparen

theorem unopened_add (n : Nat) (ts : List Token) : unopened (n + unopened n ts) ts = 0 := by
  fun_induction unopened n ts with
  | case1 => rfl
  | case2 n ts ih => simpa [unopened, Nat.add_right_comm] using ih
  | case3 ts ih => simpa [unopened, ← Nat.add_assoc] using ih
  | case4 n ts ih =>
    rw [Nat.succ_add]
    exact ih
  | case5 n t ts hl h0 hr ih => cases n <;> cases t <;> simp_all [unopened]

theorem unclosed_add (n : Nat) (ts : List Token) :
    unclosed (n + unopened n ts) ts = unclosed n ts := by
  fun_induction unopened n ts with
  | case1 => rfl
  | case2 n ts ih => simpa [unclosed, Nat.add_right_comm] using ih
  | case3 ts ih => simpa [unclosed] using ih
  | case4 n ts ih =>
    have hpred : n + 1 + unopened n ts - 1 = n + unopened n ts := by omega
    simpa [unclosed, hpred] using ih
  | case5 n t ts hl h0 hr ih => cases n <;> cases t <;> simp_all [unclosed]

/-- Whether every token stands where it may: an operand starts where one is `due`, and operators
and closing parentheses stand elsewhere. -/
def inPlace : Bool → List Token → Bool
  | due, [] => !due
  | true, .term _ :: ts => inPlace false ts
  | true, .lparen :: ts | true, .not :: ts => inPlace true ts
  | false, .rparen :: ts => inPlace false ts
  | false, .and :: ts | false, .or :: ts => inPlace true ts
  | _, _ => false

/-- Tokens that any operand completes to an expression. -/
def Awaits (ts : List Token) : Prop :=
  ∀ e as, Derives .not e as → ∃ e, Derives .or e (ts ++ as)

def Complete (ts : List Token) : Prop := ∃ e, Derives .or e ts

theorem awaits_nil : Awaits [] := fun e _ h => ⟨e, .branch (.single h)⟩

theorem Awaits.not (h : Awaits ts) : Awaits (ts ++ [.not]) := by
  intro e as has
  obtain ⟨c, hc⟩ := h _ _ (.not has)
  exact ⟨c, by simpa using hc⟩

theorem Awaits.term (h : Awaits ts) (text : String) : Complete (ts ++ [.term text]) :=
  h _ _ (.atom (.term text))

theorem Awaits.group (h : Awaits ts) (hi : Complete inner) :
    Complete (ts ++ .lparen :: (inner ++ [.rparen])) := by
  obtain ⟨e, he⟩ := hi
  exact h _ _ (.atom (.group he))

theorem Complete.and (h : Complete ts) : Awaits (ts ++ [.and]) := by
  intro e as has
  obtain ⟨a, ha⟩ := h
  obtain ⟨c, hc⟩ := ha.or_and has
  exact ⟨c, by simpa using hc⟩

theorem Complete.or (h : Complete ts) : Awaits (ts ++ [.or]) := by
  intro e as has
  obtain ⟨a, ha⟩ := h
  have hc := Derives.or ha (.single has)
  exact ⟨_, by simpa using hc⟩

/-- The tokens read so far, cut where parentheses are still open, the innermost part first. -/
def nested : List (List Token) → List Token
  | [] => []
  | [ts] => ts
  | ts :: outer => nested outer ++ .lparen :: ts

theorem nested_append (ts as : List Token) (outer : List (List Token)) :
    nested (ts :: outer) ++ as = nested ((ts ++ as) :: outer) := by
  cases outer <;> simp [nested]

theorem nested_cons_cons (ts as : List Token) (outer : List (List Token)) :
    nested (ts :: as :: outer) = nested ((as ++ .lparen :: ts) :: outer) := by
  rw [← nested_append]
  rfl

theorem nested_replicate (n : Nat) :
    nested (List.replicate (n + 1) []) = List.replicate n .lparen := by
  induction n with
  | zero => rfl
  | succ n ih =>
    rw [List.replicate_succ, List.replicate_succ, nested_cons_cons, List.nil_append]
    have happ := nested_append [] [.lparen] (List.replicate n [])
    rw [← List.replicate_succ, ih, List.nil_append] at happ
    rw [← happ, List.replicate_succ']

/-- Closing what is open completes a complete part. -/
theorem Complete.close (h : Complete inner) (ho : ∀ ts ∈ outer, Awaits ts) :
    Complete (nested (inner :: outer) ++ List.replicate outer.length .rparen) := by
  induction outer generalizing inner with
  | nil => simpa [nested] using h
  | cons ts outer ih =>
    have hgroup := (ho ts (by simp)).group h
    have hrest := ih hgroup fun as has => ho as (by simp [has])
    rw [nested_cons_cons, List.length_cons, List.replicate_succ, List.append_cons, nested_append]
    simpa using hrest

/-- Tokens in their places complete what was read before them. -/
theorem complete_of_inPlace {due : Bool} (hp : inPlace due ts = true)
    (hn : unopened outer.length ts = 0) (hd : due = true → Awaits inner)
    (hc : due = false → Complete inner) (ho : ∀ as ∈ outer, Awaits as) :
    Complete (nested (inner :: outer) ++ ts ++
      List.replicate (unclosed outer.length ts) .rparen) := by
  induction ts generalizing due inner outer with
  | nil =>
    have hdue : due = false := by simpa [inPlace] using hp
    simpa [unclosed] using (hc hdue).close ho
  | cons t ts ih =>
    cases due with
    | true =>
      have ha := hd rfl
      cases t with
      | term text =>
        have h := ih hp hn (by simp) (fun _ => ha.term text) ho
        simpa [unclosed, ← nested_append] using h
      | lparen =>
        have hall : ∀ as ∈ inner :: outer, Awaits as := by simpa using ⟨ha, ho⟩
        have h := @ih [] (inner :: outer) true hp hn (fun _ => awaits_nil) (by simp) hall
        simpa [unclosed, nested_cons_cons, ← nested_append] using h
      | not =>
        have h := ih hp hn (fun _ => ha.not) (by simp) ho
        simpa [unclosed, ← nested_append] using h
      | _ => simp [inPlace] at hp
    | false =>
      have hi := hc rfl
      cases t with
      | rparen =>
        cases outer with
        | nil => simp [unopened] at hn
        | cons as outer =>
          have hall : ∀ as ∈ outer, Awaits as := fun x hx => ho x (by simp [hx])
          have h := ih hp hn (by simp) (fun _ => (ho as (by simp)).group hi) hall
          simpa [unclosed, nested_cons_cons, ← nested_append] using h
      | and =>
        have h := ih hp hn (fun _ => hi.and) (by simp) ho
        simpa [unclosed, ← nested_append] using h
      | or =>
        have h := ih hp hn (fun _ => hi.or) (by simp) ho
        simpa [unclosed, ← nested_append] using h
      | _ => simp [inPlace] at hp

theorem complete_balanced (h : inPlace true ts = true) : Complete (balanced ts) := by
  have hn := unopened_add 0 ts
  have hu := unclosed_add 0 ts
  rw [Nat.zero_add] at hn hu
  have hawaits : ∀ as ∈ List.replicate (unopened 0 ts) [], Awaits as := by
    intro as has
    rw [List.eq_of_mem_replicate has]
    exact awaits_nil
  have hc := complete_of_inPlace h (by simpa using hn) (fun _ => awaits_nil) (by simp) hawaits
  rw [← List.replicate_succ, nested_replicate, List.length_replicate, hu] at hc
  exact hc

end Linkshelf.Query
