import Reckoner.Proofs.Reading.Alternation
import Reckoner.Proofs.Reading.Descent
import Reckoner.Token.Cursor

/-!
# Cursors: where a run of steps leaves the index

A reading takes tokens off the front of its list, and its result tells which (`Reading.Accounts`): as many as go with the
result, or those up to the token that it fails at, or all of them where the list is exhausted. So a step moves its cursor
forward within the tokens by a known number, and the token that a failed step is about stands right before the cursor
(`Cursor.Moves`). This holds of every step of a run, whichever steps have failed before; and a run that is exhausted once stays
so (`Cursor.run_moves`).
-/

namespace Reckoner

/-! ## What a reading takes -/

namespace Reading

section

variable {α β : Type} {counts : α → Nat → Prop} {counts' : β → Nat → Prop} {taken rest : List Token}

/-- The tokens that a reading has taken, and those it has left, told by its result: if it succeeds, a number of tokens that
goes with the result is taken; if it fails at a token, that token is taken last; if the list is exhausted, none is left. -/
inductive Accounts (counts : α → Nat → Prop) (taken rest : List Token) : Except Halt α → Prop where
  | ok {a : α} (h : counts a taken.length) : Accounts counts taken rest (.ok a)
  | refused {e : SyntaxError} (h : taken.getLast? = some e.token) : Accounts counts taken rest (.error (.refused e))
  | noBits {t : Token} (h : taken.getLast? = some t) : Accounts counts taken rest (.error (.noBits t))
  | exhausted (h : rest = []) : Accounts counts taken rest (.error .exhausted)

/-- A reading takes tokens off the front of every list as its result tells. -/
def Takes (counts : α → Nat → Prop) (r : Reading α) : Prop :=
  ∀ ts, ∃ taken, ts = taken ++ (r ts).2 ∧ Accounts counts taken (r ts).2 (r ts).1

/-- A failure tells the same of more tokens that were taken before, whatever goes with a result. -/
theorem Accounts.error {h : Halt} (hacc : Accounts counts taken rest (.error h)) (before : List Token) :
    Accounts counts' (before ++ taken) rest (.error h) := by
  cases hacc with
  | refused hlast => exact .refused (by simp [hlast])
  | noBits hlast => exact .noBits (by simp [hlast])
  | exhausted hrest => exact .exhausted hrest

/-- A function of the result counts the tokens that were taken before as well. -/
theorem Accounts.map {x : Except Halt α} {f : α → β} (hacc : Accounts counts taken rest x) (before : List Token)
    (hf : ∀ a k, counts a k → counts' (f a) (before.length + k)) : Accounts counts' (before ++ taken) rest (x.map f) := by
  cases x with
  | error h => exact hacc.error before
  | ok a =>
    cases hacc with
    | ok hcount => exact .ok (by rw [List.length_append]; exact hf a _ hcount)

/-- A token that is no number is taken. -/
theorem accounts_number_error {w : Width} {t : Token} {h : Halt} (ht : t.number w = .error h) (before rest : List Token) :
    Accounts counts (before ++ [t]) rest (.error h) := by
  rcases number_eq_error ht with ⟨-, rfl⟩ | ⟨-, -, rfl | ⟨n, rfl⟩ | rfl⟩
  · exact .refused List.getLast?_concat
  · exact .refused List.getLast?_concat
  · exact .refused List.getLast?_concat
  · exact .noBits List.getLast?_concat

/-- A function after a reading counts what the reading counts. -/
theorem Takes.map {r : Reading α} (hr : Takes counts r) {f : α → β} (hf : ∀ a k, counts a k → counts' (f a) k) :
    Takes counts' (r.map f) := by
  intro ts
  obtain ⟨taken, hts, hacc⟩ := hr ts
  refine ⟨taken, hts, hacc.map [] ?_⟩
  intro a k hk
  simpa using hf a k hk

/-- One reading after another takes what both take. -/
theorem Takes.bind {r : Reading α} {g : α → Reading β} {countsAfter : α → β → Nat → Prop} (hr : Takes counts r)
    (hg : ∀ a, Takes (countsAfter a) (g a))
    (hsum : ∀ a b j k, counts a j → countsAfter a b k → counts' b (j + k)) : Takes counts' (r.bind g) := by
  intro ts
  obtain ⟨taken, hts, hacc⟩ := hr ts
  rcases hres : r ts with ⟨h | a, rest⟩
  · rw [hres] at hts hacc
    rw [bind_error hres]
    exact ⟨taken, hts, by simpa using hacc.error []⟩
  · rw [hres] at hts hacc
    rw [bind_ok hres]
    obtain ⟨takenAfter, hrest, haccAfter⟩ := hg a rest
    refine ⟨taken ++ takenAfter, by rw [List.append_assoc, ← hrest]; exact hts, ?_⟩
    cases hacc with
    | ok hcount =>
      cases hx : (g a rest).1 with
      | error h =>
        rw [hx] at haccAfter
        exact haccAfter.error taken
      | ok b =>
        rw [hx] at haccAfter
        cases haccAfter with
        | ok hcountAfter => exact .ok (by rw [List.length_append]; exact hsum a b _ _ hcount hcountAfter)

end

/-! ## Each reading -/

/-- To look at the next token takes none. -/
theorem takes_peek : Takes (fun _ k => k = 0) peek := by
  intro ts
  cases ts with
  | nil => exact ⟨[], rfl, .exhausted rfl⟩
  | cons t ts => exact ⟨[], rfl, .ok rfl⟩

theorem takes_advance : Takes (fun _ k => k = 1) advance := by
  intro ts
  cases ts with
  | nil => exact ⟨[], rfl, .exhausted rfl⟩
  | cons t ts => exact ⟨[t], rfl, .ok rfl⟩

/-- A token of another kind is taken as well. -/
theorem takes_eat (kind : Token.Kind) : Takes (fun t k => t.kind = kind ∧ k = 1) (eat kind) := by
  intro ts
  cases ts with
  | nil => exact ⟨[], rfl, .exhausted rfl⟩
  | cons t ts =>
    by_cases hk : t.kind = kind
    · have heat : eat kind (t :: ts) = (.ok t, ts) := if_pos hk
      rw [heat]
      exact ⟨[t], rfl, .ok ⟨hk, rfl⟩⟩
    · have heat : eat kind (t :: ts) = (.error (.refused ⟨.unexpected kind, t⟩), ts) := if_neg hk
      rw [heat]
      exact ⟨[t], rfl, .refused rfl⟩

/-- A number takes one token, and so does a failed one. -/
theorem takes_number (w : Width) : Takes (fun _ k => k = 1) (number w) := by
  intro ts
  cases ts with
  | nil => exact ⟨[], rfl, .exhausted rfl⟩
  | cons t ts =>
    have hnumber : number w (t :: ts) = (t.number w, ts) := rfl
    rw [hnumber]
    refine ⟨[t], rfl, ?_⟩
    cases hn : t.number w with
    | error h => exact accounts_number_error hn [] ts
    | ok n => exact .ok rfl

/-- Each operation is two tokens. -/
theorem takes_operations (w : Width) (continues : Operator → Bool) :
    Takes (fun ops k => k = 2 * ops.length) (operations w continues) := by
  intro ts
  fun_induction operations w continues ts with
  | case1 => exact ⟨[], rfl, .exhausted rfl⟩
  | case2 t ts ho => exact ⟨[], rfl, .ok rfl⟩
  | case3 t o ho hc => exact ⟨[t], rfl, .exhausted rfl⟩
  | case4 t o ho hc u us h hu => exact ⟨[t, u], rfl, accounts_number_error hu [t] us⟩
  | case5 t o ho hc u us n hn result rest hr ih =>
    obtain ⟨taken, hus, hacc⟩ := ih
    rw [hr] at hus hacc
    refine ⟨[t, u] ++ taken, by rw [hus]; rfl, hacc.map [t, u] ?_⟩
    intro ops k hk
    simp only [hk, List.length_cons, List.length_nil]
    omega
  | case6 t ts o ho hc => exact ⟨[], rfl, .ok rfl⟩

/-- A chain takes two tokens for each operation and one for its first number. -/
theorem takes_chain (w : Width) (continues : Operator → Bool) :
    Takes (fun c k => k = 2 * c.2.length + 1) (chain w continues) := by
  have hafter : ∀ n : Int, Takes (fun c k => k = 2 * c.2.length) ((operations w continues).map (n, ·)) :=
    fun n => (takes_operations w continues).map fun ops k hk => hk
  rw [chain_eq_bind]
  refine (takes_number w).bind hafter ?_
  intro n c j k hj hk
  omega

/-- A term takes its factors, and an operator between each two. -/
theorem takes_term (w : Width) : Takes (fun r k => k = 2 * r.factors.length - 1) (term w) := by
  rw [term_eq_map]
  refine (takes_chain w joinsFactors).map ?_
  intro c k hk
  simp only [Term.factors, List.length_cons, List.length_map]
  omega

/-- An expression takes its integers, and an operator between each two. -/
theorem takes_expr (w : Width) : Takes (fun e k => k = 2 * e.leaves.length - 1) (expr w) := by
  rw [expr_eq_map]
  refine (takes_chain w fun _ => true).map ?_
  intro c k hk
  rw [leaves_eq, Expr.operations_ofOperations, List.length_cons, List.length_map]
  omega

end Reading

/-! ## Steps -/

/-- A step that succeeds has an answer of its own sort, and takes a number of tokens that goes with it: none, one, or the
integers of the answer with an operator between each two. -/
inductive Step.Takes : Step → Step.Answer → Nat → Prop where
  | peek (t : Token) : Takes .peek (.token t) 0
  | advance (t : Token) : Takes .advance (.token t) 1
  | eat (t : Token) : Takes (.eat t.kind) (.token t) 1
  | number (n : Int) : Takes .number (.number n) 1
  | term (r : Term) : Takes .term (.term r) (2 * r.factors.length - 1)
  | expr (e : Expr) : Takes .expr (.expr e) (2 * e.leaves.length - 1)

/-- Each step takes as many tokens as it says. -/
theorem Step.takes_reading (w : Width) (s : Step) : (s.reading w).Takes s.Takes := by
  cases s with
  | peek =>
    refine Reading.takes_peek.map ?_
    rintro t k rfl
    exact .peek t
  | advance =>
    refine Reading.takes_advance.map ?_
    rintro t k rfl
    exact .advance t
  | eat kind =>
    refine (Reading.takes_eat kind).map ?_
    rintro t k ⟨rfl, rfl⟩
    exact .eat t
  | number =>
    refine (Reading.takes_number w).map ?_
    rintro n k rfl
    exact .number n
  | term =>
    refine (Reading.takes_term w).map ?_
    rintro r k rfl
    exact .term r
  | expr =>
    refine (Reading.takes_expr w).map ?_
    rintro e k rfl
    exact .expr e

namespace Cursor

/-- A cursor that is not past the end of its tokens. -/
def Within (c : Cursor) : Prop := c.index ≤ c.tokens.length

/-- How a step that gives a result moves a cursor. It stays within the same tokens and never goes back; looking leaves it
where it is. What a successful step takes goes with its answer. A step that fails at a token leaves that token right before
the cursor; one that is exhausted leaves the cursor at the end. -/
structure Moves (s : Step) (c : Cursor) (result : Except Halt Step.Answer) (c' : Cursor) : Prop where
  tokens : c'.tokens = c.tokens
  within : c'.Within
  forward : c.index ≤ c'.index
  peek : s = .peek → c'.index = c.index
  taken : ∀ a, result = .ok a → ∃ k, s.Takes a k ∧ c'.index = c.index + k
  refused : ∀ e, result = .error (.refused e) →
    c.index < c'.index ∧ c'.tokens[c'.index - 1]? = some e.token ∧ e.diagnostic.position = some e.token.position
  noBits : ∀ t, result = .error (.noBits t) → c.index < c'.index ∧ c'.tokens[c'.index - 1]? = some t
  exhausted : result = .error .exhausted → c'.index = c'.tokens.length

section

variable {w : Width} {c c' : Cursor} {s : Step} {steps : List Step} {taken rest : List Token} {t : Token}

/-- The last of the tokens that were taken stands right before the cursor. -/
theorem getElem?_before (hts : c.tokens.drop c.index = taken ++ rest) (hlast : taken.getLast? = some t) :
    c.index < c.index + taken.length ∧ c.tokens[c.index + taken.length - 1]? = some t := by
  obtain ⟨before, rfl⟩ := List.getLast?_eq_some_iff.1 hlast
  have hindex : c.index + (before ++ [t]).length - 1 = c.index + before.length := by simp
  refine ⟨by simp, ?_⟩
  rw [hindex, ← List.getElem?_drop, hts]
  simp

/-- Every step moves a cursor as its result tells. -/
theorem step_moves (hc : c.Within) (s : Step) : Moves s c (c.step w s).1 (c.step w s).2 := by
  obtain ⟨taken, hts, hacc⟩ := s.takes_reading w c.remaining
  have hlen : taken.length + (s.reading w c.remaining).2.length = c.tokens.length - c.index := by
    rw [← List.length_append, ← hts, remaining, List.length_drop]
  unfold Within at hc
  have hindex : (c.step w s).2.index = c.index + taken.length := by
    simp only [step]
    omega
  have hresult : (c.step w s).1 = (s.reading w c.remaining).1 := rfl
  have htokens : (c.step w s).2.tokens = c.tokens := rfl
  constructor
  case tokens => exact htokens
  case within =>
    rw [Within, hindex, htokens]
    omega
  case forward => omega
  case peek =>
    rintro rfl
    have hpeek : (Step.peek.reading w c.remaining).2 = c.remaining := by cases c.remaining <;> rfl
    rw [hpeek, remaining, List.length_drop] at hlen
    omega
  case taken =>
    intro a ha
    rw [← hresult, ha] at hacc
    cases hacc with
    | ok hcount => exact ⟨_, hcount, hindex⟩
  case refused =>
    intro e he
    rw [← hresult, he] at hacc
    cases hacc with
    | refused hlast =>
      obtain ⟨hlt, hbefore⟩ := getElem?_before hts hlast
      rw [hindex, htokens]
      exact ⟨hlt, hbefore, rfl⟩
  case noBits =>
    intro t ht
    rw [← hresult, ht] at hacc
    cases hacc with
    | noBits hlast =>
      rw [hindex, htokens]
      exact getElem?_before hts hlast
  case exhausted =>
    intro he
    rw [← hresult, he] at hacc
    cases hacc with
    | exhausted hrest =>
      rw [hrest, List.length_nil] at hlen
      rw [hindex, htokens]
      omega

/-- At the end of the tokens every step is exhausted and leaves the cursor where it is. -/
theorem step_at_end (hc : c.index = c.tokens.length) (s : Step) : c.step w s = (.error .exhausted, c) := by
  have hnone : c.remaining = [] := by rw [remaining, hc, List.drop_length]
  have hreading : s.reading w [] = (.error .exhausted, []) := by cases s <;> rfl
  unfold step
  rw [hnone, hreading]
  simp only [List.length_nil, Nat.sub_zero, ← hc]

end

/-! ## Runs -/

/-- The cursors of a run: the one that it starts at, and the one after each step. -/
def trail (w : Width) (steps : List Step) (c : Cursor) : List Cursor := c :: (run w steps c).map Prod.snd

section

variable {w : Width} {c c' : Cursor} {s : Step} {steps : List Step} {i j : Nat}

theorem run_cons (s : Step) (steps : List Step) (c : Cursor) :
    run w (s :: steps) c = c.step w s :: run w steps (c.step w s).2 := rfl

/-- Each step of a run moves the cursor before it as its result tells. -/
theorem exists_moves (hc : c.Within) (hs : steps[i]? = some s) : ∃ c₁ result c₂, (trail w steps c)[i]? = some c₁ ∧
    (run w steps c)[i]? = some (result, c₂) ∧ c₂.tokens = c.tokens ∧ Moves s c₁ result c₂ := by
  induction steps generalizing c i with
  | nil => simp at hs
  | cons first steps ih =>
    have hfirst := step_moves (w := w) hc first
    cases i with
    | zero =>
      obtain rfl : first = s := by simpa using hs
      exact ⟨c, _, _, rfl, rfl, hfirst.tokens, hfirst⟩
    | succ i =>
      obtain ⟨c₁, result, c₂, hbefore, hafter, htokens, hmoves⟩ := ih hfirst.within (by simpa using hs)
      exact ⟨c₁, result, c₂, hbefore, hafter, htokens.trans hfirst.tokens, hmoves⟩

/-- A run that starts at the end of the tokens is exhausted at every step. -/
theorem run_at_end (hc : c.index = c.tokens.length) : run w steps c = steps.map fun _ => (.error .exhausted, c) := by
  induction steps with
  | nil => rfl
  | cons s steps ih => rw [run_cons, step_at_end hc, ih, List.map_cons]

/-- Once a run is exhausted, all its further steps are, and leave the cursor where it is. -/
theorem run_stays_exhausted (hc : c.Within) (hi : (run w steps c)[i]? = some (.error .exhausted, c')) (hij : i ≤ j)
    (hj : j < steps.length) : (run w steps c)[j]? = some (.error .exhausted, c') := by
  induction steps generalizing c i j with
  | nil => simp at hj
  | cons s steps ih =>
    have hmoves := step_moves (w := w) hc s
    rw [run_cons] at hi ⊢
    cases j with
    | zero =>
      obtain rfl : i = 0 := by omega
      exact hi
    | succ j =>
      simp only [List.length_cons, Nat.add_lt_add_iff_right] at hj
      rw [List.getElem?_cons_succ]
      cases i with
      | zero =>
        have hstep : c.step w s = (.error .exhausted, c') := by simpa using hi
        rw [hstep] at hmoves ⊢
        rw [run_at_end (hmoves.exhausted rfl), List.getElem?_map, List.getElem?_eq_getElem hj]
        rfl
      | succ i => exact ih hmoves.within (by simpa using hi) (by omega) hj

end

/-- In every run of steps over a list of tokens, failed steps included, each step moves the cursor as its result tells; and
once a step is exhausted, so are all the steps after it, and the cursor stays where it is. -/
theorem run_moves (w : Width) (ts : List Token) (steps : List Step) :
    (∀ (i : Nat) (s : Step), steps[i]? = some s → ∃ c result c', (trail w steps (.start ts))[i]? = some c ∧
        (run w steps (.start ts))[i]? = some (result, c') ∧ c'.tokens = ts ∧ Moves s c result c') ∧
      ∀ (i : Nat) (c : Cursor), (run w steps (.start ts))[i]? = some (.error .exhausted, c) →
        ∀ j, i ≤ j → j < steps.length → (run w steps (.start ts))[j]? = some (.error .exhausted, c) := by
  have hstart : (start ts).Within := Nat.zero_le _
  refine ⟨fun i s hs => exists_moves hstart hs, ?_⟩
  intro i c hi j hij hj
  exact run_stays_exhausted hstart hi hij hj

/-- A term that is refused at its second factor, and two steps at the end after it. -/
theorem run_moves_refused :
    (run .unbounded [.peek, .term, .eat .plus, .expr]
        (.start [⟨.number, "2", 0⟩, ⟨.times, "*", 2⟩, ⟨.word, "x", 4⟩]))[2]? =
      some (.error .exhausted, ⟨[⟨.number, "2", 0⟩, ⟨.times, "*", 2⟩, ⟨.word, "x", 4⟩], 3⟩) ∧
    (run .unbounded [.peek, .term, .eat .plus, .expr]
        (.start [⟨.number, "2", 0⟩, ⟨.times, "*", 2⟩, ⟨.word, "x", 4⟩]))[3]? =
      some (.error .exhausted, ⟨[⟨.number, "2", 0⟩, ⟨.times, "*", 2⟩, ⟨.word, "x", 4⟩], 3⟩) ∧
    Moves .term ⟨[⟨.number, "2", 0⟩, ⟨.times, "*", 2⟩, ⟨.word, "x", 4⟩], 0⟩
      (.error (.refused ⟨.unexpected .number, ⟨.word, "x", 4⟩⟩))
      ⟨[⟨.number, "2", 0⟩, ⟨.times, "*", 2⟩, ⟨.word, "x", 4⟩], 3⟩ := by
  obtain ⟨hmoves, hexhausted⟩ := run_moves .unbounded [⟨.number, "2", 0⟩, ⟨.times, "*", 2⟩, ⟨.word, "x", 4⟩]
    [.peek, .term, .eat .plus, .expr]
  refine ⟨rfl, hexhausted 2 _ rfl 3 (by decide) (by decide), ?_⟩
  obtain ⟨c, result, c', hbefore, hafter, -, hsecond⟩ := hmoves 1 .term rfl
  obtain rfl : ⟨[⟨.number, "2", 0⟩, ⟨.times, "*", 2⟩, ⟨.word, "x", 4⟩], 0⟩ = c := Option.some.inj hbefore
  obtain ⟨rfl, rfl⟩ := Prod.mk.inj (Option.some.inj hafter)
  exact hsecond

end Cursor

end Reckoner
