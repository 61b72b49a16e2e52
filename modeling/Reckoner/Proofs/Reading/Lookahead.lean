import Reckoner.Proofs.Reading.Cursor

/-!
# Lookahead: a reading sees one token past those that it takes

A reading that is not exhausted decides by the tokens that it takes and by the first one it leaves. What follows that one may
be left out, or be anything (`Reading.SeesOne`). So it is with every step of a run: nothing counts but the tokens from the
cursor on, up to the one that the cursor then stands at (`Cursor.run_sees_one`). No state besides the cursor is kept, also
where a step fails.
-/

namespace Reckoner

/-! ## What a reading sees -/

namespace Reading

/-- A reading that is not exhausted sees what it takes and the first token that it leaves: whatever else follows these, it
gives the same result and leaves what follows. -/
def SeesOne {α : Type} (r : Reading α) : Prop :=
  ∀ ts, (r ts).1 ≠ .error .exhausted → ∃ taken, ts = taken ++ (r ts).2 ∧
    ∀ others, (r ts).2.take 1 <+: others → r (taken ++ others) = ((r ts).1, others)

section

variable {α β : Type} {w : Width} {ts rest : List Token} {result : Except Halt α}

/-- A function after a reading does not change whether the tokens are exhausted. -/
theorem map_eq_exhausted_iff {f : α → β} : result.map f = .error .exhausted ↔ result = .error .exhausted := by
  cases result with
  | ok a => exact iff_of_false (fun h => by cases h) (fun h => by cases h)
  | error h => exact ⟨fun heq => congrArg _ (Except.error.inj heq), fun heq => congrArg _ (Except.error.inj heq)⟩

/-- The first token of some tokens is the first one of whatever they are put in front of. -/
theorem take_one_isPrefix {others : List Token} (between : List Token) (h : rest.take 1 <+: others) :
    (between ++ rest).take 1 <+: between ++ others := by
  cases between with
  | nil => exact h
  | cons t between => simp

/-- A list that begins with the first token of another begins as the other does. -/
theorem exists_cons_of_take_one {t : Token} {others : List Token} (h : (t :: ts).take 1 <+: others) :
    ∃ more, others = t :: more := by
  obtain ⟨more, rfl⟩ := h
  exact ⟨more, rfl⟩

/-- With more tokens at the end, a reading that is not exhausted gives the same result and leaves these as well. -/
theorem SeesOne.append {r : Reading α} (hr : r.SeesOne) (hts : r ts = (result, rest))
    (hresult : result ≠ .error .exhausted) (more : List Token) : r (ts ++ more) = (result, rest ++ more) := by
  have hsame := hr ts
  rw [hts] at hsame
  obtain ⟨taken, rfl, hothers⟩ := hsame hresult
  rw [List.append_assoc]
  exact hothers _ ((List.take_prefix 1 rest).trans (List.prefix_append rest more))

/-- A function after a reading sees no further token. -/
theorem SeesOne.map {r : Reading α} (hr : r.SeesOne) (f : α → β) : (r.map f).SeesOne := by
  intro ts hresult
  obtain ⟨taken, hts, hothers⟩ := hr ts fun h => hresult (map_eq_exhausted_iff.2 h)
  refine ⟨taken, hts, ?_⟩
  intro others hfirst
  have hsame := hothers others hfirst
  unfold Reading.map
  rw [hsame]

/-- One reading after another sees no more than the second sees. -/
theorem SeesOne.bind {r : Reading α} {g : α → Reading β} (hr : r.SeesOne) (hg : ∀ a, (g a).SeesOne) :
    (r.bind g).SeesOne := by
  intro ts hresult
  rcases hres : r ts with ⟨h | a, rest⟩
  · have hsame := hr ts
    rw [bind_error hres] at hresult ⊢
    rw [hres] at hsame
    obtain ⟨taken, hts, hothers⟩ := hsame fun heq => hresult (congrArg _ (Except.error.inj heq))
    refine ⟨taken, hts, ?_⟩
    intro others hfirst
    exact bind_error (hothers others hfirst)
  · have hsame := hr ts
    rw [bind_ok hres] at hresult ⊢
    rw [hres] at hsame
    obtain ⟨taken, hts, hothers⟩ := hsame (by simp)
    obtain ⟨between, hrest, hafter⟩ := hg a rest hresult
    refine ⟨taken ++ between, by rw [List.append_assoc, ← hrest]; exact hts, ?_⟩
    intro others hfirst
    have hbetween : rest.take 1 <+: between ++ others := by
      rw [hrest]
      exact take_one_isPrefix between hfirst
    rw [List.append_assoc, bind_ok (hothers _ hbetween)]
    exact hafter others hfirst

end

/-! ## Each reading -/

/-- A reading of one token sees no other. -/
theorem seesOne_of_cons {α : Type} {r : Reading α} {f : Token → Except Halt α} (hnil : r [] = (.error .exhausted, []))
    (hcons : ∀ t ts, r (t :: ts) = (f t, ts)) : r.SeesOne := by
  intro ts hresult
  cases ts with
  | nil => exact absurd (congrArg Prod.fst hnil) hresult
  | cons t ts =>
    rw [hcons]
    exact ⟨[t], rfl, fun others _ => hcons t others⟩

/-- To look at the next token sees that token. -/
theorem seesOne_peek : peek.SeesOne := by
  intro ts hresult
  cases ts with
  | nil => exact absurd rfl hresult
  | cons t ts =>
    refine ⟨[], rfl, ?_⟩
    intro others hfirst
    obtain ⟨more, rfl⟩ := exists_cons_of_take_one hfirst
    rfl

theorem seesOne_advance : advance.SeesOne := seesOne_of_cons (f := .ok) rfl fun _ _ => rfl

/-- To want a kind sees the token that is taken. -/
theorem seesOne_eat (kind : Token.Kind) : (eat kind).SeesOne := by
  refine seesOne_of_cons (f := fun t => if t.kind = kind then .ok t else .error (.refused ⟨.unexpected kind, t⟩)) rfl ?_
  intro t ts
  by_cases hk : t.kind = kind
  · rw [if_pos hk]
    exact if_pos hk
  · rw [if_neg hk]
    exact if_neg hk

/-- A number sees its own token. -/
theorem seesOne_number (w : Width) : (number w).SeesOne := seesOne_of_cons (f := Token.number w) rfl fun _ _ => rfl

/-- The token after operations is looked at, to see whether they go on. -/
theorem seesOne_operations (w : Width) (continues : Operator → Bool) : (operations w continues).SeesOne := by
  intro ts hresult
  fun_induction operations w continues ts with
  | case1 => exact absurd rfl hresult
  | case2 t ts ho =>
    refine ⟨[], rfl, ?_⟩
    intro others hfirst
    obtain ⟨more, rfl⟩ := exists_cons_of_take_one hfirst
    rw [List.nil_append, operations]
    simp only [ho]
  | case3 t o ho hc => exact absurd rfl hresult
  | case4 t o ho hc u us h hu =>
    refine ⟨[t, u], rfl, ?_⟩
    intro others _
    rw [List.cons_append, List.cons_append, List.nil_append, operations]
    simp only [ho, hc, hu, if_true]
  | case5 t o ho hc u us n hn result rest hr ih =>
    rw [hr] at ih
    obtain ⟨taken, hus, hothers⟩ := ih fun h => hresult (map_eq_exhausted_iff.2 h)
    refine ⟨t :: u :: taken, by rw [hus]; rfl, ?_⟩
    intro others hfirst
    rw [List.cons_append, List.cons_append, operations]
    simp only [ho, hc, hn, hothers others hfirst, if_true]
  | case6 t ts o ho hc =>
    refine ⟨[], rfl, ?_⟩
    intro others hfirst
    obtain ⟨more, rfl⟩ := exists_cons_of_take_one hfirst
    rw [List.nil_append, operations]
    simp only [ho, hc, Bool.false_eq_true, if_false]

/-- A chain sees one token past its last number. -/
theorem seesOne_chain (w : Width) (continues : Operator → Bool) : (chain w continues).SeesOne := by
  rw [chain_eq_bind]
  exact (seesOne_number w).bind fun n => (seesOne_operations w continues).map (n, ·)

theorem seesOne_term (w : Width) : (term w).SeesOne := by
  rw [term_eq_map]
  exact (seesOne_chain w joinsFactors).map _

/-- An expression sees one token past its last number. -/
theorem seesOne_expr (w : Width) : (expr w).SeesOne := by
  rw [expr_eq_map]
  exact (seesOne_chain w fun _ => true).map _

end Reading

/-- Tokens at the end change nothing of what a list comes to, unless the list was exhausted without them. -/
theorem ofTokens_append {w : Width} {ts : List Token} (h : Expr.ofTokens w ts ≠ .error .exhausted) (more : List Token) :
    Expr.ofTokens w (ts ++ more) = Expr.ofTokens w ts := by
  rcases hread : Reading.expr w ts with ⟨e | e, rest⟩
  · have hresult : Expr.ofTokens w ts = .error e := by rw [Expr.ofTokens, hread]
    rw [hresult] at h ⊢
    have hmore := (Reading.seesOne_expr w).append hread (fun heq => h (congrArg _ (Except.error.inj heq))) more
    rw [Expr.ofTokens, hmore]
  · have hmore := (Reading.seesOne_expr w).append hread (by simp) more
    cases rest with
    | nil => exact absurd (by rw [Expr.ofTokens, hread]) h
    | cons t rest => rw [Expr.ofTokens, Expr.ofTokens, hread, hmore, List.cons_append]

/-! ## Steps -/

/-- No step sees more than one token past those it takes. -/
theorem Step.seesOne_reading (w : Width) (s : Step) : (s.reading w).SeesOne := by
  cases s with
  | peek => exact Reading.seesOne_peek.map _
  | advance => exact Reading.seesOne_advance.map _
  | eat kind => exact (Reading.seesOne_eat kind).map _
  | number => exact (Reading.seesOne_number w).map _
  | term => exact (Reading.seesOne_term w).map _
  | expr => exact (Reading.seesOne_expr w).map _

namespace Cursor

section

variable {w : Width} {c c' : Cursor} {s : Step} {steps : List Step} {result : Except Halt Step.Answer}
  {taken rest ts' : List Token}

/-- A step at a cursor that stands before some tokens takes the first of these. -/
theorem step_of_reading (before : List Token) (htokens : c.tokens = before ++ (taken ++ rest))
    (hindex : c.index = before.length) (hread : s.reading w (taken ++ rest) = (result, rest)) :
    c.step w s = (result, ⟨c.tokens, c.index + taken.length⟩) := by
  have hremaining : c.remaining = taken ++ rest := by rw [remaining, htokens, hindex, List.drop_left]
  have hmoved : c.tokens.length - rest.length = c.index + taken.length := by
    rw [htokens, hindex]
    simp only [List.length_append]
    omega
  unfold step
  rw [hremaining, hread]
  simp only [hmoved]

/-- A cursor within its tokens stands between those before it and those from it on. -/
theorem Within.exists_before (hc : c.Within) : ∃ before, c.tokens = before ++ c.remaining ∧ c.index = before.length :=
  ⟨c.tokens.take c.index, (List.take_append_drop c.index c.tokens).symm, (List.length_take_of_le hc).symm⟩

/-- A step gives what it gives at the start of the tokens from the cursor on, and moves the cursor as far. -/
theorem step_eq_fresh (hc : c.Within) (s : Step) : c.step w s =
    (((start c.remaining).step w s).1, ⟨c.tokens, c.index + ((start c.remaining).step w s).2.index⟩) := by
  obtain ⟨before, htokens, hindex⟩ := hc.exists_before
  obtain ⟨taken, hts, -⟩ := s.takes_reading w c.remaining
  rcases hres : s.reading w c.remaining with ⟨result, rest⟩
  rw [hres] at hts
  have hread : s.reading w (taken ++ rest) = (result, rest) := by rw [← hts, hres]
  have hfresh : (start c.remaining).step w s = (result, ⟨c.remaining, 0 + taken.length⟩) :=
    step_of_reading [] hts rfl hread
  have hthere : c.step w s = (result, ⟨c.tokens, c.index + taken.length⟩) :=
    step_of_reading before (by rw [← hts]; exact htokens) hindex hread
  rw [hthere, hfresh, Nat.zero_add]

/-- A step that is not exhausted gives the same among any tokens that agree with those of the cursor up to the one that the
cursor stands at afterwards, and moves the cursor as far. -/
theorem step_of_agree (hc : c.Within) (hstep : c.step w s = (result, c')) (hresult : result ≠ .error .exhausted)
    (hagree : c.tokens.take (c'.index + 1) <+: ts') : (⟨ts', c.index⟩ : Cursor).step w s = (result, ⟨ts', c'.index⟩) := by
  obtain ⟨before, htokens, hindex⟩ := hc.exists_before
  have hsees := s.seesOne_reading w c.remaining
  rcases hres : s.reading w c.remaining with ⟨res, rest⟩
  rw [hres] at hsees
  obtain rfl : res = result := by
    rw [step, hres] at hstep
    exact congrArg Prod.fst hstep
  obtain ⟨taken, hts, hothers⟩ := hsees hresult
  have hread : s.reading w (taken ++ rest) = (res, rest) := by rw [← hts, hres]
  have hthere : c.step w s = (res, ⟨c.tokens, c.index + taken.length⟩) :=
    step_of_reading before (by rw [← hts]; exact htokens) hindex hread
  obtain rfl : ⟨c.tokens, c.index + taken.length⟩ = c' := congrArg Prod.snd (hthere.symm.trans hstep)
  have hsplit : c.tokens.take (c.index + taken.length + 1) = before ++ (taken ++ rest.take 1) := by
    rw [htokens, hts, hindex, Nat.add_assoc, List.take_length_add_append, List.take_length_add_append]
  obtain ⟨more, rfl⟩ := hagree
  refine step_of_reading before ?_ hindex (hothers (rest.take 1 ++ more) (List.prefix_append _ more))
  rw [hsplit]
  simp only [List.append_assoc]

/-! ## Runs -/

/-- No cursor of a run is before the one that the run starts at. -/
theorem index_le_of_mem_run (hc : c.Within) (h : (result, c') ∈ run w steps c) : c.index ≤ c'.index := by
  induction steps generalizing c with
  | nil => cases h
  | cons s steps ih =>
    have hmoves := step_moves (w := w) hc s
    rw [run_cons] at h
    rcases List.mem_cons.1 h with hfirst | hrest
    · have hle := hmoves.forward
      rwa [← hfirst] at hle
    · exact Nat.le_trans hmoves.forward (ih hmoves.within hrest)

/-- The cursors of a run stay within the tokens that it starts with. -/
theorem within_of_mem_trail (hc : c.Within) (h : c' ∈ trail w steps c) : c'.Within ∧ c'.tokens = c.tokens := by
  induction steps generalizing c with
  | nil =>
    obtain rfl := List.mem_singleton.1 h
    exact ⟨hc, rfl⟩
  | cons s steps ih =>
    have hmoves := step_moves (w := w) hc s
    rcases List.mem_cons.1 h with rfl | hrest
    · exact ⟨hc, rfl⟩
    · obtain ⟨hwithin, htokens⟩ := ih hmoves.within hrest
      exact ⟨hwithin, htokens.trans hmoves.tokens⟩

/-- A run whose first step is exhausted is exhausted at its last step. -/
theorem eq_exhausted_of_getLast? (hc : c.Within) (hfirst : (c.step w s).1 = .error .exhausted)
    (hlast : (run w (s :: steps) c).getLast? = some (result, c')) : result = .error .exhausted := by
  have hend := (step_moves hc s).exhausted hfirst
  have hmem := List.mem_of_getLast? hlast
  rw [run_cons, run_at_end hend, List.mem_cons, List.mem_map] at hmem
  rcases hmem with hfirst' | ⟨s', -, hrest⟩
  · rw [← hfirst, ← hfirst']
  · exact (congrArg Prod.fst hrest).symm

/-- A run that is not exhausted at its last step gives the same among any tokens that agree with its own up to the one that
the cursor stands at in the end, and moves the cursor as it does. -/
theorem run_of_agree (hc : c.Within) (hlast : (run w steps c).getLast? = some (result, c'))
    (hresult : result ≠ .error .exhausted) (hagree : c.tokens.take (c'.index + 1) <+: ts') :
    run w steps ⟨ts', c.index⟩ = (run w steps c).map fun r => (r.1, ⟨ts', r.2.index⟩) := by
  induction steps generalizing c with
  | nil => rfl
  | cons s steps ih =>
    have hmoves := step_moves (w := w) hc s
    have hfirst : (c.step w s).1 ≠ .error .exhausted := fun h => hresult (eq_exhausted_of_getLast? hc h hlast)
    have hle : (c.step w s).2.index ≤ c'.index := by
      have hmem := List.mem_of_getLast? hlast
      rw [run_cons] at hmem
      rcases List.mem_cons.1 hmem with hstep | hrest
      · exact Nat.le_of_eq (congrArg (·.2.index) hstep.symm)
      · exact index_le_of_mem_run hmoves.within hrest
    have hstep : (⟨ts', c.index⟩ : Cursor).step w s = ((c.step w s).1, ⟨ts', (c.step w s).2.index⟩) :=
      step_of_agree hc rfl hfirst ((List.take_prefix_take_left (Nat.succ_le_succ hle)).trans hagree)
    rw [run_cons, run_cons, hstep, List.map_cons]
    cases steps with
    | nil => rfl
    | cons s' steps =>
      have hrest : (run w (s' :: steps) (c.step w s).2).getLast? = some (result, c') := by
        rw [run_cons, run_cons, List.getLast?_cons_cons] at hlast
        rw [run_cons]
        exact hlast
      rw [ih hmoves.within hrest (by rw [hmoves.tokens]; exact hagree)]

end

/-- Whatever steps have brought a cursor to its index, failed ones included, a further step is what it is at the start of the
tokens from there on, with the index moved. If the step is not exhausted, nothing counts behind the token that the cursor then
stands at; and so for a whole run. A list of tokens that is not exhausted comes to the same with more tokens at its end. -/
theorem run_sees_one (w : Width) (ts : List Token) (steps : List Step) :
    (∀ c ∈ trail w steps (.start ts), ∀ s : Step,
      c.step w s = (((start (ts.drop c.index)).step w s).1,
          ⟨ts, c.index + ((start (ts.drop c.index)).step w s).2.index⟩) ∧
        ∀ result c', c.step w s = (result, c') → result ≠ .error .exhausted → ∀ ts', ts.take (c'.index + 1) <+: ts' →
          (⟨ts', c.index⟩ : Cursor).step w s = (result, ⟨ts', c'.index⟩)) ∧
      (∀ result c', (run w steps (.start ts)).getLast? = some (result, c') → result ≠ .error .exhausted →
        ∀ ts', ts.take (c'.index + 1) <+: ts' →
          run w steps (.start ts') = (run w steps (.start ts)).map fun r => (r.1, ⟨ts', r.2.index⟩)) ∧
      (Expr.ofTokens w ts ≠ .error .exhausted → ∀ more, Expr.ofTokens w (ts ++ more) = Expr.ofTokens w ts) := by
  have hstart : (start ts).Within := Nat.zero_le _
  refine ⟨?_, ?_, fun h more => ofTokens_append h more⟩
  · intro c hc s
    obtain ⟨hwithin, rfl⟩ := within_of_mem_trail hstart hc
    refine ⟨step_eq_fresh hwithin s, ?_⟩
    intro result c' hstep hresult ts' hagree
    exact step_of_agree hwithin hstep hresult hagree
  · intro result c' hlast hresult ts' hagree
    exact run_of_agree hstart hlast hresult hagree

/-- A term that is refused at its second factor, a look at the token after it, and the same without the last token. -/
theorem run_sees_one_refused :
    ⟨[⟨.number, "2", 0⟩, ⟨.times, "*", 1⟩, ⟨.word, "x", 2⟩, ⟨.plus, "+", 3⟩, ⟨.number, "7", 4⟩], 3⟩ ∈
        trail .unbounded [.term]
          (.start [⟨.number, "2", 0⟩, ⟨.times, "*", 1⟩, ⟨.word, "x", 2⟩, ⟨.plus, "+", 3⟩, ⟨.number, "7", 4⟩]) ∧
      (⟨[⟨.number, "2", 0⟩, ⟨.times, "*", 1⟩, ⟨.word, "x", 2⟩, ⟨.plus, "+", 3⟩], 3⟩ : Cursor).step .unbounded .peek =
        (.ok (.token ⟨.plus, "+", 3⟩),
          ⟨[⟨.number, "2", 0⟩, ⟨.times, "*", 1⟩, ⟨.word, "x", 2⟩, ⟨.plus, "+", 3⟩], 3⟩) ∧
      run .unbounded [.term]
          (.start [⟨.number, "2", 0⟩, ⟨.times, "*", 1⟩, ⟨.word, "x", 2⟩, ⟨.plus, "+", 3⟩, ⟨.endMark, "<EOF>", 4⟩]) =
        [(.error (.refused ⟨.unexpected .number, ⟨.word, "x", 2⟩⟩),
          ⟨[⟨.number, "2", 0⟩, ⟨.times, "*", 1⟩, ⟨.word, "x", 2⟩, ⟨.plus, "+", 3⟩, ⟨.endMark, "<EOF>", 4⟩], 3⟩)] ∧
      Expr.ofTokens .unbounded [⟨.number, "2", 0⟩, ⟨.times, "*", 1⟩, ⟨.word, "x", 2⟩, ⟨.plus, "+", 3⟩, ⟨.number, "7", 4⟩,
          ⟨.endMark, "<EOF>", 5⟩] = .error (.refused ⟨.unexpected .number, ⟨.word, "x", 2⟩⟩) := by
  obtain ⟨hstep, hrun, hwhole⟩ := run_sees_one .unbounded
    [⟨.number, "2", 0⟩, ⟨.times, "*", 1⟩, ⟨.word, "x", 2⟩, ⟨.plus, "+", 3⟩, ⟨.number, "7", 4⟩] [.term]
  have hmem : ⟨[⟨.number, "2", 0⟩, ⟨.times, "*", 1⟩, ⟨.word, "x", 2⟩, ⟨.plus, "+", 3⟩, ⟨.number, "7", 4⟩], 3⟩ ∈
      trail .unbounded [.term]
        (.start [⟨.number, "2", 0⟩, ⟨.times, "*", 1⟩, ⟨.word, "x", 2⟩, ⟨.plus, "+", 3⟩, ⟨.number, "7", 4⟩]) :=
    List.mem_cons_of_mem _ List.mem_cons_self
  refine ⟨hmem, ?_, ?_, ?_⟩
  · exact (hstep _ hmem .peek).2 (.ok (.token ⟨.plus, "+", 3⟩)) _ rfl (by simp) _ ⟨[], rfl⟩
  · exact hrun (.error (.refused ⟨.unexpected .number, ⟨.word, "x", 2⟩⟩)) _ rfl (by simp) _
      ⟨[⟨.endMark, "<EOF>", 4⟩], rfl⟩
  · have hrefused : Expr.ofTokens .unbounded
        [⟨.number, "2", 0⟩, ⟨.times, "*", 1⟩, ⟨.word, "x", 2⟩, ⟨.plus, "+", 3⟩, ⟨.number, "7", 4⟩] =
        .error (.refused ⟨.unexpected .number, ⟨.word, "x", 2⟩⟩) := rfl
    rw [hrefused] at hwhole
    exact hwhole (by simp) [⟨.endMark, "<EOF>", 5⟩]

end Cursor

end Reckoner
