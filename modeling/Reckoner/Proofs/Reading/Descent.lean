import Reckoner.Token.Reading

/-!
# Descent: reading an expression term by term

An expression can be read on two levels: a term takes the multiplications after its first number, and the expression takes the
signs, each with a term after it (`Reading.descent`). The flat reading and the grouping of its operations give the same result
and leave the same tokens, whatever the tokens are (`expr_eq_descent`). So a list of tokens is read as an expression term by term
up to an end mark (`ofTokens_eq_descent`).
-/

namespace Reckoner

namespace Reading

section

variable {α β : Type} {f : α → β} {r : Reading α} {g : α → Reading β} {a : α} {b : β} {h : Halt} {ts rest : List Token}

/-- A reading whose result is put into a function. -/
def map (f : α → β) (r : Reading α) : Reading β := fun ts => ((r ts).1.map f, (r ts).2)

/-- A reading and then another one, of the tokens that the first leaves. -/
def bind (r : Reading α) (g : α → Reading β) : Reading β := fun ts =>
  match r ts with
  | (.error h, rest) => (.error h, rest)
  | (.ok a, rest) => g a rest

/-- A function is put after a reading that succeeds. -/
theorem map_ok (hr : r ts = (.ok a, rest)) : r.map f ts = (.ok (f a), rest) := by
  rw [map, hr]
  rfl

/-- A function after a reading that fails does not count. -/
theorem map_error (hr : r ts = (.error h, rest)) : r.map f ts = (.error h, rest) := by
  rw [map, hr]
  rfl

/-- After a reading that succeeds, the next one goes on with what it leaves. -/
theorem bind_ok (hr : r ts = (.ok a, rest)) : r.bind g ts = g a rest := by
  rw [bind, hr]

/-- A reading after one that fails is not begun. -/
theorem bind_error (hr : r ts = (.error h, rest)) : r.bind g ts = (.error h, rest) := by
  rw [bind, hr]

/-- A reading with a function after it succeeds where the reading does. -/
theorem exists_of_map (hr : r.map f ts = (.ok b, rest)) : ∃ a, r ts = (.ok a, rest) ∧ f a = b := by
  rcases hs : r ts with ⟨e | a, us⟩
  · rw [map_error hs] at hr
    exact absurd hr (by simp)
  · rw [map_ok hs, Prod.mk.injEq, Except.ok.injEq] at hr
    obtain ⟨hb, rfl⟩ := hr
    exact ⟨a, rfl, hb⟩

/-- A reading with a function after it fails where the reading does. -/
theorem error_of_map (hr : r.map f ts = (.error h, rest)) : r ts = (.error h, rest) := by
  rcases hs : r ts with ⟨e | a, us⟩
  · rw [map_error hs] at hr
    obtain ⟨he, rfl⟩ := Prod.mk.inj hr
    rw [Except.error.inj he]
  · rw [map_ok hs] at hr
    exact absurd hr (by simp)

/-- One reading after another succeeds where both do. -/
theorem exists_of_bind (hr : r.bind g ts = (.ok b, rest)) : ∃ a us, r ts = (.ok a, us) ∧ g a us = (.ok b, rest) := by
  rcases hs : r ts with ⟨e | a, us⟩
  · rw [bind_error hs] at hr
    exact absurd hr (by simp)
  · rw [bind_ok hs] at hr
    exact ⟨a, us, rfl, hr⟩

end

/-- The operations that follow a number, whatever the operators. -/
abbrev anyOperations (w : Width) : Reading (List Operation) := operations w fun _ => true

/-- A chain is a number, and after it the operations that continue it. -/
theorem chain_eq_bind (w : Width) (continues : Operator → Bool) :
    chain w continues = (number w).bind fun n => (operations w continues).map (n, ·) := by
  funext ts
  rcases hn : number w ts with ⟨e | n, rest⟩
  · rw [bind_error hn, chain, hn]
  · rw [bind_ok hn, chain, hn]
    rfl

theorem term_eq_map (w : Width) : term w = (chain w joinsFactors).map fun c => ⟨c.1, c.2.map Prod.snd⟩ := rfl

theorem expr_eq_map (w : Width) : expr w = (chain w fun _ => true).map fun c => .ofOperations c.1 c.2 := rfl

end Reading

section

variable {w : Width} {continues : Operator → Bool} {ts rest : List Token} {ops : List Operation} {t : Token} {o : Operator}

/-! ## Where operations end -/

/-- Operations that were read continue their chain, and the token after them does not. -/
structure EndAt (continues : Operator → Bool) (ts : List Token) (ops : List Operation) (rest : List Token) : Prop where
  continued : ∀ op ∈ ops, continues op.1 = true
  ended : ∀ t ∈ rest.head?, ∀ o, t.kind.operator? = some o → continues o = false
  shorter : rest.length ≤ ts.length

/-- Operations are read as long as they continue their chain. -/
theorem endAt_of_operations (h : Reading.operations w continues ts = (.ok ops, rest)) : EndAt continues ts ops rest := by
  fun_induction Reading.operations w continues ts generalizing ops rest with
  | case1 | case3 | case4 => exact absurd h (by simp)
  | case2 t ts ho =>
    obtain ⟨hops, rfl⟩ := Prod.mk.inj h
    obtain rfl := Except.ok.inj hops
    refine ⟨nofun, fun u hu o ho' => ?_, Nat.le_refl _⟩
    obtain rfl := Option.some.inj hu
    exact absurd (ho.symm.trans ho') nofun
  | case5 t o ho hc u us n hn result rest' hr ih =>
    obtain ⟨hops, rfl⟩ := Prod.mk.inj h
    cases result with
    | error e => exact absurd hops nofun
    | ok ops' =>
      obtain rfl := Except.ok.inj hops
      obtain ⟨hcont, hend, hlen⟩ := ih hr
      refine ⟨List.forall_mem_cons.2 ⟨hc, hcont⟩, hend, ?_⟩
      simp only [List.length_cons]
      omega
  | case6 t ts o ho hc =>
    obtain ⟨hops, rfl⟩ := Prod.mk.inj h
    obtain rfl := Except.ok.inj hops
    refine ⟨nofun, fun u hu o' ho' => ?_, Nat.le_refl _⟩
    obtain rfl := Option.some.inj hu
    obtain rfl := Option.some.inj (ho.symm.trans ho')
    exact Bool.eq_false_iff.2 hc

/-- A chain that any operator continues goes on where one that only some continue ends, and fails where it fails. -/
theorem operations_split (continues : Operator → Bool) (ts : List Token) :
    Reading.anyOperations w ts =
      (Reading.operations w continues).bind (fun ops => (Reading.anyOperations w).map (ops ++ ·)) ts := by
  have hid : ∀ x : Except Halt (List Operation), x.map (fun ops => ops) = x := fun x => by cases x <;> rfl
  unfold Reading.bind Reading.map Reading.anyOperations
  fun_induction Reading.operations w continues ts with
  | case1 => rw [Reading.operations]
  | case2 t ts ho => simp only [List.nil_append, hid]
  | case3 t o ho hc =>
    rw [Reading.operations]
    simp only [ho, if_true]
  | case4 t o ho hc u us h hu =>
    rw [Reading.operations]
    simp only [ho, hu, if_true]
  | case5 t o ho hc u us n hn result rest hr ih =>
    rw [Reading.operations]
    simp only [ho, hn, if_true, ih, hr]
    cases result with
    | error h => rfl
    | ok ops =>
      simp only [Except.map]
      cases (Reading.operations w (fun _ => true) rest).1 <;> rfl
  | case6 t ts o ho hc => simp only [List.nil_append, hid]

/-- The same of a number and the operations after it. -/
theorem chain_split (continues : Operator → Bool) (ts : List Token) :
    Reading.chain w (fun _ => true) ts =
      (Reading.chain w continues).bind (fun c => (Reading.anyOperations w).map fun ops => (c.1, c.2 ++ ops)) ts := by
  rw [Reading.chain_eq_bind, Reading.chain_eq_bind]
  rcases hn : Reading.number w ts with ⟨e | n, us⟩
  · rw [Reading.bind_error hn, Reading.bind_error (Reading.bind_error hn)]
  have hsplit := operations_split (w := w) continues us
  rcases hops : Reading.operations w continues us with ⟨e | ops, rest⟩
  · rw [Reading.bind_error hops] at hsplit
    rw [Reading.bind_ok hn, Reading.map_error hsplit, Reading.bind_error]
    rw [Reading.bind_ok hn, Reading.map_error hops]
  · rw [Reading.bind_ok hops] at hsplit
    rw [Reading.bind_ok hn, Reading.bind_ok ((Reading.bind_ok hn).trans (Reading.map_ok hops))]
    simp only [Reading.map, hsplit]
    cases (Reading.anyOperations w rest).1 <;> rfl

/-! ## Terms, one at a time -/

/-- A term takes multiplications up to a token that is none. -/
theorem chain_of_term {r : Term} (h : Reading.term w ts = (.ok r, rest)) :
    Reading.chain w Reading.joinsFactors ts = (.ok (r.head, r.operations), rest) ∧ rest.length ≤ ts.length ∧
      ∀ t ∈ rest.head?, t.kind.operator? ≠ some .times := by
  rw [Reading.term_eq_map] at h
  obtain ⟨⟨n, ops⟩, hchain, rfl⟩ := Reading.exists_of_map h
  have hbind := hchain
  rw [Reading.chain_eq_bind] at hbind
  obtain ⟨m, us, hn, hmap⟩ := Reading.exists_of_bind hbind
  obtain ⟨ops', hops, hc⟩ := Reading.exists_of_map hmap
  obtain ⟨rfl, rfl⟩ := Prod.mk.inj hc
  obtain ⟨hcont, hend, hlen⟩ := endAt_of_operations hops
  have htimes : (ops'.map Prod.snd).map (fun n => ((.times, n) : Operation)) = ops' := by
    rw [List.map_map]
    refine (List.map_congr_left fun op hop => ?_).trans (List.map_id ops')
    obtain ⟨_ | _, n⟩ := op
    · cases hcont _ hop
    · rfl
  refine ⟨?_, Nat.le_trans hlen ?_, fun t ht ho => by cases hend t ht .times ho⟩
  · rw [hchain, Term.operations, htimes]
  · cases ts with
    | nil => cases hn
    | cons t ts =>
      obtain ⟨-, rfl⟩ := Prod.mk.inj hn
      exact Nat.le_succ _

/-- A chain of any operations begins with those of a term. -/
theorem chain_eq_term_bind (ts : List Token) :
    Reading.chain w (fun _ => true) ts =
      (Reading.term w).bind (fun r => (Reading.anyOperations w).map fun ops => (r.head, r.operations ++ ops)) ts := by
  rw [chain_split Reading.joinsFactors]
  rcases hterm : Reading.term w ts with ⟨e | r, rest⟩
  · rw [Reading.bind_error hterm]
    rw [Reading.term_eq_map] at hterm
    rw [Reading.bind_error (Reading.error_of_map hterm)]
  · rw [Reading.bind_ok hterm, Reading.bind_ok (chain_of_term hterm).1]

/-- The signs that follow a term, each with the term after it. -/
def Reading.summands (w : Width) : Reading (List (Sign × Term))
  | [] => (.error .exhausted, [])
  | t :: ts =>
    match t.kind.operator? with
    | some (.join s) =>
      match hterm : term w ts with
      | (.error h, rest) => (.error h, rest)
      | (.ok r, rest) =>
        have : rest.length < (t :: ts).length := Nat.lt_succ_of_le (chain_of_term hterm).2.1
        let (result, left) := summands w rest
        (result.map ((s, r) :: ·), left)
    | _ => (.ok [], t :: ts)
termination_by ts => ts.length
decreasing_by assumption

/-- A sign comes with a term after it. -/
theorem summands_cons {s : Sign} (ho : t.kind.operator? = some (.join s)) (ts : List Token) :
    Reading.summands w (t :: ts) =
      (Reading.term w).bind (fun r => (Reading.summands w).map ((s, r) :: ·)) ts := by
  rw [Reading.summands]
  split
  · rename_i s' hs
    obtain rfl := Operator.join.inj (Option.some.inj (ho.symm.trans hs))
    split
    · rename_i hterm
      rw [Reading.bind_error hterm]
    · rename_i hterm
      rw [Reading.bind_ok hterm]
      rfl
  · rename_i hnone
    exact absurd ho (hnone s)

/-- A token that is no sign is left. -/
theorem summands_stop (ho : ∀ s, t.kind.operator? ≠ some (.join s)) (ts : List Token) :
    Reading.summands w (t :: ts) = (.ok [], t :: ts) := by
  rw [Reading.summands]
  split
  · rename_i s hs
    exact absurd hs (ho s)
  · rfl

/-- An expression, term by term. -/
def Reading.descent (w : Width) : Reading Expr := (term w).bind fun r => (summands w).map (⟨r, ·⟩)

/-! ## Both readings agree -/

/-- The operations of signed terms. -/
def operationsOf (tail : List (Sign × Term)) : List Operation :=
  tail.flatMap fun st => (.join st.1, st.2.head) :: st.2.operations

/-- An operator comes with a chain after it. -/
theorem operations_cons (ho : t.kind.operator? = some o) (ts : List Token) :
    Reading.anyOperations w (t :: ts) = (Reading.chain w fun _ => true).map (fun c => (o, c.1) :: c.2) ts := by
  rw [Reading.chain_eq_bind, Reading.anyOperations, Reading.operations, Reading.map]
  simp only [ho, if_true]
  cases ts with
  | nil => rfl
  | cons u us =>
    cases hn : u.number w with
    | error e =>
      have hnumber : Reading.number w (u :: us) = (.error e, us) := by rw [Reading.number, hn]
      rw [Reading.bind_error hnumber]
      simp only [hn]
      rfl
    | ok n =>
      have hnumber : Reading.number w (u :: us) = (.ok n, us) := by rw [Reading.number, hn]
      rw [Reading.bind_ok hnumber]
      simp only [hn, Reading.map]
      cases (Reading.operations w (fun _ => true) us).1 <;> rfl

/-- Where no multiplication comes first, the operations are those of signed terms. -/
theorem operations_eq_summands (ts : List Token) (hts : ∀ t ∈ ts.head?, t.kind.operator? ≠ some .times) :
    Reading.anyOperations w ts = (Reading.summands w).map operationsOf ts := by
  induction ts using Reading.summands.induct w with
  | case1 => rw [Reading.map, Reading.summands]; rfl
  | case2 t ts s ho h rest hterm =>
    rw [operations_cons ho, Reading.map_error ((chain_eq_term_bind ts).trans (Reading.bind_error hterm)),
      Reading.map_error ((summands_cons ho ts).trans (Reading.bind_error hterm))]
  | case3 t ts s ho r rest hterm hlt result left hsummands ih =>
    obtain ⟨hchain, -, hend⟩ := chain_of_term hterm
    rw [operations_cons ho, Reading.map, Reading.map, chain_eq_term_bind, summands_cons ho, Reading.bind_ok hterm,
      Reading.bind_ok hterm]
    simp only [Reading.map, ih hend]
    cases (Reading.summands w rest).1 <;> rfl
  | case4 t ts hnone =>
    have ho : t.kind.operator? = none := by
      cases ho : t.kind.operator? with
      | none => rfl
      | some o =>
        cases o with
        | join s => exact absurd ho (hnone s)
        | times => exact absurd ho (hts t rfl)
    rw [Reading.map_ok (summands_stop hnone ts), Reading.anyOperations, Reading.operations]
    simp only [ho]
    rfl

/-- The flat reading, grouped into terms, and the reading term by term have the same result and leave the same tokens. -/
theorem expr_eq_descent (w : Width) (ts : List Token) : Reading.expr w ts = Reading.descent w ts := by
  rw [Reading.expr_eq_map, Reading.descent, Reading.map, chain_eq_term_bind]
  rcases hterm : Reading.term w ts with ⟨e | r, rest⟩
  · rw [Reading.bind_error hterm, Reading.bind_error hterm]
    rfl
  · obtain ⟨-, -, hend⟩ := chain_of_term hterm
    rw [Reading.bind_ok hterm, Reading.bind_ok hterm]
    simp only [Reading.map, operations_eq_summands rest hend]
    cases (Reading.summands w rest).1 with
    | error e => rfl
    | ok tail =>
      have hgroup : Expr.ofOperations r.head (r.operations ++ operationsOf tail) = ⟨r, tail⟩ :=
        Expr.ofOperations_operations ⟨r, tail⟩
      simp only [Except.map, hgroup]

/-- A reading and an end mark after it. What follows the end mark does not count. -/
def Reading.upToEnd {α : Type} (r : Reading α) (ts : List Token) : Except Halt α :=
  match r ts with
  | (.error h, _) => .error h
  | (.ok _, []) => .error .exhausted
  | (.ok a, t :: _) => if t.kind = .endMark then .ok a else .error (.refused ⟨.leftover, t⟩)

/-- A list of tokens comes to what the reading term by term makes of it up to an end mark. -/
theorem ofTokens_eq_descent (w : Width) (ts : List Token) : Expr.ofTokens w ts = (Reading.descent w).upToEnd ts := by
  rw [Expr.ofTokens, Reading.upToEnd, expr_eq_descent]
  rcases Reading.descent w ts with ⟨_ | _, _ | _⟩ <;> rfl

end

end Reckoner
