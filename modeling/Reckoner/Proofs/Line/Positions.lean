import Mathlib.Logic.Relation
import Reckoner.Proofs.Line.Spelling
import Reckoner.Proofs.Line.Stages

/-!
# Positions: they say where an error is, and nothing else

Two lists of tokens that agree in kinds and texts come to the same, however their positions differ: to the same expression, or
to errors that say the same of the tokens at one index (`Alike`). So do two lines whose scans agree in this way, as those of lines
that differ in nothing but gaps do (`DifferInGap`). An error has its position in its text, so the one who reads a list gets to see
it only if that position can be written out; for hand-made positions that are too long the two lists may fail in different ways
(`long_positions_count`).
-/

namespace Reckoner

/-- A token without its position. -/
def Token.bare (t : Token) : Token.Kind × String := (t.kind, t.text)

/-- Two errors say the same, each about a token of its own. -/
structure SyntaxError.SaysSame (e e' : SyntaxError) : Prop where
  category : e.category = e'.category
  message : e.message = e'.message
  text : e.token.text = e'.token.text
  wanted : e.wanted? = e'.wanted?
  met : e.met? = e'.met?

/-- Two errors are about the tokens at one index of two lists, and say the same. -/
structure SyntaxError.AlikeIn (ts us : List Token) (e e' : SyntaxError) : Prop where
  place : ∃ (k : Nat) (t u : Token), ts[k]? = some t ∧ us[k]? = some u ∧ e.diagnostic.position = some t.position ∧
    e'.diagnostic.position = some u.position
  same : e.SaysSame e'

/-- Two lists of tokens come to the same, positions apart. Two syntax errors are about the tokens at one index. -/
inductive Alike (ts us : List Token) : Except Halt Expr → Except Halt Expr → Prop where
  | expr (e : Expr) : Alike ts us (.ok e) (.ok e)
  | exhausted : Alike ts us (.error .exhausted) (.error .exhausted)
  | noBits (t u : Token) : Alike ts us (.error (.noBits t)) (.error (.noBits u))
  | refused {e e' : SyntaxError} (h : e.AlikeIn ts us e') : Alike ts us (.error (.refused e)) (.error (.refused e'))

/-- Two lists of tokens come to the same for the one who reads them, positions apart. Each syntax error has its own text. -/
inductive ReadAlike (ts us : List Token) : Except Raised Expr → Except Raised Expr → Prop where
  | expr (e : Expr) : ReadAlike ts us (.ok e) (.ok e)
  | exhausted : ReadAlike ts us (.error .exhausted) (.error .exhausted)
  | noBits (t u : Token) : ReadAlike ts us (.error (.noBits t)) (.error (.noBits u))
  | error {e e' : SyntaxError} (h : e.AlikeIn ts us e') :
      ReadAlike ts us (.error (.error e e.diagnostic.text)) (.error (.error e' e'.diagnostic.text))

/-- The same failure, about another token. -/
def Halt.about (t : Token) : Halt → Halt
  | .refused e => .refused ⟨e.cause, t⟩
  | .exhausted => .exhausted
  | .noBits _ => .noBits t

/-! ## Tokens without their positions -/

section

variable {w : Width} {i : Nat} {t u : Token} {ts us s rest : List Token}

/-- Number tokens of the same text denote the same integer, or fail to in the same way. -/
theorem literal_congr (h : t.bare = u.bare) : u.literal w = (t.literal w).mapError (Halt.about u) := by
  have htext : t.text = u.text := congrArg Prod.snd h
  unfold Token.literal
  rw [htext]
  split <;> rfl

/-- Tokens of the same kind and text denote the same integer, or fail to in the same way. -/
theorem number_congr (h : t.bare = u.bare) : u.number w = (t.number w).mapError (Halt.about u) := by
  have hkind : t.kind = u.kind := congrArg Prod.fst h
  unfold Token.number
  rw [hkind]
  split
  · exact literal_congr h
  · rfl

theorem item?_congr (h : t.bare = u.bare) : t.item? w = u.item? w := by
  have hkind : t.kind = u.kind := congrArg Prod.fst h
  have htext : t.text = u.text := congrArg Prod.snd h
  rw [Token.item?, Token.item?, toOption_literal, toOption_literal, hkind, htext]

theorem mayStandAt_congr (h : t.bare = u.bare) : t.MayStandAt w i ↔ u.MayStandAt w i := by
  have hkind : t.kind = u.kind := congrArg Prod.fst h
  unfold Token.MayStandAt
  split
  · rw [isOperand_iff, isOperand_iff, number_congr h]
    cases t.number w with
    | error x => exact iff_of_false (fun ⟨n, hn⟩ => by cases hn) (fun ⟨n, hn⟩ => by cases hn)
    | ok n => exact Iff.rfl
  · rw [Token.IsOperator, Token.IsOperator, hkind]

/-- Lists that agree in kinds and texts are as long as each other, and stand for the same items. -/
theorem length_eq_of_bare (h : ts.map Token.bare = us.map Token.bare) : ts.length = us.length := by
  have hlen := congrArg List.length h
  rwa [List.length_map, List.length_map] at hlen

theorem map_item?_congr (h : ts.map Token.bare = us.map Token.bare) : ts.map (Token.item? w) = us.map (Token.item? w) := by
  induction ts generalizing us with
  | nil => rw [List.map_eq_nil_iff.1 h.symm]
  | cons t ts ih =>
    obtain ⟨u, us, rfl, hu, hus⟩ := List.map_eq_cons_iff.1 h.symm
    rw [List.map_cons, List.map_cons, ih hus.symm, item?_congr hu.symm]

/-- A list that agrees in kinds and texts with one that alternates does so as well. -/
theorem alternates_of_bare (h : ts.map Token.bare = us.map Token.bare) (hts : Alternates w i ts) : Alternates w i us := by
  induction ts generalizing us i with
  | nil =>
    rw [List.map_eq_nil_iff.1 h.symm]
    exact alternates_nil
  | cons t ts ih =>
    obtain ⟨u, us, rfl, hu, hus⟩ := List.map_eq_cons_iff.1 h.symm
    obtain ⟨ht, hts⟩ := alternates_cons_iff.1 hts
    exact alternates_cons_iff.2 ⟨(mayStandAt_congr hu.symm).1 ht, ih hus.symm hts⟩

/-- A list that agrees with another one splits where the other does. -/
theorem exists_split_of_bare (h : (s ++ t :: rest).map Token.bare = us.map Token.bare) :
    ∃ s' u rest', us = s' ++ u :: rest' ∧ s.map Token.bare = s'.map Token.bare ∧ t.bare = u.bare := by
  rw [List.map_append] at h
  obtain ⟨s', us', rfl, hs, hus'⟩ := List.map_eq_append_iff.1 h.symm
  obtain ⟨u, rest', rfl, hu, -⟩ := List.map_eq_cons_iff.1 hus'
  exact ⟨s', u, rest', rfl, hs.symm, hu.symm⟩

/-! ## Lists that agree -/

/-- For one cause, the same is said of tokens of the same kind and text. -/
theorem saysSame_of_bare (h : t.bare = u.bare) (c : SyntaxError.Cause) : SyntaxError.SaysSame ⟨c, t⟩ ⟨c, u⟩ := by
  have hkind : t.kind = u.kind := congrArg Prod.fst h
  have htext : t.text = u.text := congrArg Prod.snd h
  refine ⟨rfl, ?_, htext, rfl, ?_⟩
  · unfold SyntaxError.message
    rw [hkind, htext]
  · unfold SyntaxError.met?
    rw [hkind]

/-- Errors for one cause, about two tokens that agree and stand at one index. -/
theorem alike_refused (hlen : s.length = us.length) (h : t.bare = u.bare) (c : SyntaxError.Cause) {rest' : List Token} :
    Alike (s ++ t :: rest) (us ++ u :: rest') (.error (.refused ⟨c, t⟩)) (.error (.refused ⟨c, u⟩)) := by
  have hleft : (s ++ t :: rest)[s.length]? = some t := by simp
  have hright : (us ++ u :: rest')[s.length]? = some u := by rw [hlen]; simp
  exact .refused ⟨⟨s.length, t, u, hleft, hright, rfl, rfl⟩, saysSame_of_bare h c⟩

/-- Lists of tokens that agree in kinds and texts come to the same, positions apart: what the first comes to is told by its first
misplaced token, and the second has that token at the same index. -/
theorem alike_of_bare (h : ts.map Token.bare = us.map Token.bare) : Alike ts us (Expr.ofTokens w ts) (Expr.ofTokens w us) := by
  have hts := comesTo_ofTokens w ts
  generalize Expr.ofTokens w ts = result at hts
  cases hts with
  | exhausted hs =>
    rw [ofTokens_exhausted (alternates_of_bare h hs)]
    exact .exhausted
  | expr hs hlen ht he =>
    obtain ⟨s', u, rest', rfl, hs', hu⟩ := exists_split_of_bare h
    have hkind : u.kind = .endMark := (congrArg Prod.fst hu).symm.trans ht
    obtain ⟨e', he', hyield⟩ := ofTokens_complete rest' (alternates_of_bare hs' hs) (length_eq_of_bare hs' ▸ hlen) hkind
    rw [he', eq_of_yield_eq he (hyield.trans (map_item?_congr hs').symm)]
    exact .expr _
  | leftover hs hlen ht hm =>
    obtain ⟨s', u, rest', rfl, hs', hu⟩ := exists_split_of_bare h
    have hkind := congrArg Prod.fst hu
    have hlen' := length_eq_of_bare hs'
    rw [ofTokens_leftover (alternates_of_bare hs' hs) (hlen' ▸ hlen) ?_ (fun hm' => hm (hkind.trans hm'))]
    · exact alike_refused hlen' hu .leftover
    · rw [← mayStandAt_odd (w := w) (i := 1) rfl] at ht ⊢
      rwa [← mayStandAt_congr hu]
  | @misplaced s rest t x hs hlen ht =>
    obtain ⟨s', u, rest', rfl, hs', hu⟩ := exists_split_of_bare h
    have hlen' := length_eq_of_bare hs'
    have hnumber : u.number w = .error (x.about u) := by
      rw [number_congr hu, ht]
      rfl
    rw [ofTokens_misplaced (alternates_of_bare hs' hs) (hlen' ▸ hlen) hnumber]
    rcases number_eq_error ht with ⟨-, rfl⟩ | ⟨-, -, rfl | ⟨n, rfl⟩ | rfl⟩
    · exact alike_refused hlen' hu _
    · exact alike_refused hlen' hu _
    · exact alike_refused hlen' hu _
    · exact .noBits t u

end

/-! ## Errors and their texts -/

section

variable {w : Width} {ts us : List Token} {e : SyntaxError} {r r' : Except Halt Expr}

/-- The position that is written into the text of an error is that of its token. -/
theorem forall_mem_position : (∀ p ∈ e.diagnostic.position, Numeral.Writable p) ↔ Numeral.Writable e.token.position :=
  ⟨fun h => h _ rfl, fun h _ hp => Option.mem_some_iff.1 hp ▸ h⟩

/-- An error shows itself if its position can be written out. -/
theorem raised_of_writable (h : Numeral.Writable e.token.position) :
    (Halt.refused e).raised = .error e e.diagnostic.text := by
  have htext : e.diagnostic.text? = some e.diagnostic.text :=
    Diagnostic.text?_eq_some_iff.2 ⟨forall_mem_position.2 h, rfl⟩
  rw [Halt.raised, htext, Option.elim_some]

/-- An error does not show itself if its position is too long to be written out. -/
theorem raised_of_not_writable (h : ¬Numeral.Writable e.token.position) : (Halt.refused e).raised = .unwritable e := by
  have htext : e.diagnostic.text? = none :=
    Option.eq_none_iff_forall_not_mem.2 fun text hmem =>
      h (forall_mem_position.1 (Diagnostic.text?_eq_some_iff.1 hmem).1)
  rw [Halt.raised, htext, Option.elim_none]

/-- A failure is lost over a position exactly if it is an error whose position is too long to be written out. -/
theorem raised_eq_unwritable_iff {h : Halt} :
    h.raised = .unwritable e ↔ h = .refused e ∧ ¬Numeral.Writable e.token.position := by
  cases h with
  | exhausted => exact iff_of_false nofun fun h => absurd h.1 nofun
  | noBits t => exact iff_of_false nofun fun h => absurd h.1 nofun
  | refused e' =>
    rw [Halt.refused.injEq]
    by_cases hposition : Numeral.Writable e'.token.position
    · rw [raised_of_writable hposition]
      refine iff_of_false nofun ?_
      rintro ⟨rfl, hlong⟩
      exact hlong hposition
    · rw [raised_of_not_writable hposition, Raised.unwritable.injEq]
      constructor
      · rintro rfl
        exact ⟨rfl, hposition⟩
      · exact And.left

/-- The reading of a list fails over a position exactly if there is an error whose position is too long to be written out. -/
theorem read_eq_unwritable_iff :
    Expr.read w ts = .error (.unwritable e) ↔
      Expr.ofTokens w ts = .error (.refused e) ∧ ¬Numeral.Writable e.token.position := by
  rw [Expr.read]
  cases Expr.ofTokens w ts with
  | ok x => exact iff_of_false nofun fun h => absurd h.1 nofun
  | error h =>
    rw [Except.mapError, Except.error.injEq, Except.error.injEq]
    exact raised_eq_unwritable_iff

/-- Where all positions can be written out, what is the same apart from positions is so for the one who reads it. -/
theorem Alike.read (h : Alike ts us r r') (hts : ∀ t ∈ ts, Numeral.Writable t.position)
    (hus : ∀ u ∈ us, Numeral.Writable u.position) : ReadAlike ts us (r.mapError Halt.raised) (r'.mapError Halt.raised) := by
  cases h with
  | expr x => exact .expr x
  | exhausted => exact .exhausted
  | noBits t u => exact .noBits t u
  | @refused e e' halike =>
    obtain ⟨k, t, u, ht, hu, hp, hp'⟩ := halike.place
    have hshown : Numeral.Writable e.token.position := Option.some.inj hp ▸ hts t (List.mem_of_getElem? ht)
    have hshown' : Numeral.Writable e'.token.position := Option.some.inj hp' ▸ hus u (List.mem_of_getElem? hu)
    have hleft := raised_of_writable hshown
    have hright := raised_of_writable hshown'
    rw [Except.mapError, Except.mapError, hleft, hright]
    exact .error halike

/-- A reading that is lost over a position is like no other. -/
theorem not_readAlike_unwritable {r : Except Raised Expr} : ¬ReadAlike ts us r (.error (.unwritable e)) := by
  intro h
  generalize hlost : (Except.error (.unwritable e) : Except Raised Expr) = lost at h
  cases h <;> cases hlost

end

/-! ## Gaps -/

/-- Two lines differ in one gap: any other gap stands in its place, and none at all only where no run goes on without it. -/
def DifferInGap (s s' : String) : Prop :=
  ∃ (u v : List Char) (g g' : Gap), s.toList = u ++ (g.chars ++ v) ∧ s'.toList = u ++ (g'.chars ++ v) ∧
    (g.chars = [] ∨ g'.chars = [] → Border u v)

section

variable {u v : List Char} {xs : List (Token.Kind × String)} {s s' : String} {ts : List Token}

/-- A gap in a line makes a border on each side, unless it is empty. -/
theorem border_gap (g : Gap) (h : g.chars = [] → Border u v) : Border u (g.chars ++ v) ∧ Border g.chars v := by
  obtain ⟨cs, hcs⟩ := g
  cases cs with
  | nil => exact ⟨h rfl, fun c hc => by cases hc⟩
  | cons c cs =>
    constructor
    · refine border_of_divides fun _ _ d hd => ?_
      obtain rfl : c = d := Option.some.inj hd
      exact .inr (.inl (hcs c List.mem_cons_self))
    · exact border_of_divides fun d hd _ _ => .inl (.inl (hcs d (List.mem_of_mem_getLast? hd)))

/-- A gap between two texts shows nothing among the tokens without their positions. -/
theorem exists_bare_gap_iff (g : Gap) (h : g.chars = [] → Border u v) :
    (∃ ts, LaysOut 0 (u ++ (g.chars ++ v)) ts ∧ ts.map Token.bare = xs) ↔
      ∃ us vs, xs = us.map Token.bare ++ vs.map Token.bare ∧ LaysOut 0 u us ∧ LaysOut 0 v vs := by
  have hmoved : ∀ (n : Nat) (t : Token), (t.moved n).bare = t.bare := fun _ _ => rfl
  have hgap : ∀ us, LaysOut 0 g.chars us ↔ us = [] := fun us => by
    rw [← List.append_nil g.chars, laysOut_gap_iff, laysOut_nil_iff]
  obtain ⟨hbefore, hafter⟩ := border_gap g h
  rw [exists_map_laysOut_append_iff hmoved hbefore]
  simp only [exists_map_laysOut_append_iff hmoved hafter, hgap, exists_eq_left]
  constructor
  · rintro ⟨_, _, rfl, ⟨us, hus, rfl⟩, _, _, rfl, rfl, vs, hvs, rfl⟩
    exact ⟨us, vs, rfl, hus, hvs⟩
  · rintro ⟨us, vs, rfl, hus, hvs⟩
    exact ⟨_, _, rfl, ⟨us, hus, rfl⟩, _, _, rfl, rfl, vs, hvs, rfl⟩

/-- Lines that differ in a gap have the same tokens, positions apart. -/
theorem DifferInGap.exists_scan (h : DifferInGap s s') (hs : Reckoner.scan s = .ok ts) :
    ∃ us, Reckoner.scan s' = .ok us ∧ ts.map Token.bare = us.map Token.bare := by
  obtain ⟨u, v, g, g', htext, htext', hborder⟩ := h
  obtain ⟨us, rfl, hus⟩ := scan_eq_ok_iff.1 hs
  rw [htext] at hus
  have hboth := (exists_bare_gap_iff g fun hg => hborder (.inl hg)).1 ⟨us, hus, rfl⟩
  obtain ⟨us', hus', hbare⟩ := (exists_bare_gap_iff g' fun hg => hborder (.inr hg)).2 hboth
  refine ⟨us' ++ [Token.endOfLine s'.toList.length], scan_eq_ok_iff.2 ⟨us', rfl, htext' ▸ hus'⟩, ?_⟩
  rw [List.map_append, List.map_append, hbare]
  rfl

/-- So have lines that differ in any number of gaps. -/
theorem scan_of_differInGaps (h : Relation.ReflTransGen DifferInGap s s') (hs : Reckoner.scan s = .ok ts) :
    ∃ us, Reckoner.scan s' = .ok us ∧ ts.map Token.bare = us.map Token.bare := by
  induction h with
  | refl => exact ⟨ts, hs, rfl⟩
  | tail _ hstep ih =>
    obtain ⟨us, hus, hbare⟩ := ih
    obtain ⟨vs, hvs, hbare'⟩ := hstep.exists_scan hus
    exact ⟨vs, hvs, hbare.trans hbare'⟩

end

/-! ## Lines whose tokens agree -/

/-- Two outcomes of lines are the same, positions apart: expression and value are, or the lines are refused alike. -/
inductive Line.Alike (ts us : List Token) : Except Line.Refusal Line.Evaluation → Except Line.Refusal Line.Evaluation → Prop where
  | value {r r' : Line.Evaluation} (he : r.expr = r'.expr) (hv : r.value = r'.value) : Line.Alike ts us (.ok r) (.ok r')
  | refused {h h' : Halt} (hh : Reckoner.Alike ts us (.error h) (.error h')) :
      Line.Alike ts us (.error (.reading h)) (.error (.reading h'))

/-- Lines whose scans agree in kinds and texts come to the same, positions apart. -/
theorem evaluate_alike {w : Width} {s s' : String} {ts us : List Token} (hs : scan s = .ok ts) (hs' : scan s' = .ok us)
    (h : ts.map Token.bare = us.map Token.bare) : Line.Alike ts us (Line.evaluate w s) (Line.evaluate w s') := by
  have halike := alike_of_bare (w := w) h
  cases hr : Expr.ofTokens w ts with
  | ok e =>
    cases hr' : Expr.ofTokens w us with
    | ok e' =>
      rw [hr, hr'] at halike
      cases halike
      rw [evaluate_of_expr hs hr, evaluate_of_expr hs' hr']
      exact .value rfl rfl
    | error x' =>
      rw [hr, hr'] at halike
      cases halike
  | error x =>
    cases hr' : Expr.ofTokens w us with
    | ok e' =>
      rw [hr, hr'] at halike
      cases halike
    | error x' =>
      rw [hr, hr'] at halike
      rw [evaluate_of_halt hs hr, evaluate_of_halt hs' hr']
      exact .refused halike

/-- Positions do not count. Lists of tokens that agree in kinds and texts are read as the same expression, or end in errors that
say the same, each about the token of its own list at one index; and so they do for the one who reads them, if all positions can
be written out. Only an error at a position that cannot be is lost. Lines whose scans agree in kinds and texts come to the same as
well, and the scans of lines that differ in gaps alone do agree. -/
theorem positions_do_not_count (w : Width) :
    (∀ ts us : List Token, ts.map Token.bare = us.map Token.bare →
        Alike ts us (Expr.ofTokens w ts) (Expr.ofTokens w us)) ∧
      (∀ ts us : List Token, ts.map Token.bare = us.map Token.bare → (∀ t ∈ ts, Numeral.Writable t.position) →
        (∀ u ∈ us, Numeral.Writable u.position) → ReadAlike ts us (Expr.read w ts) (Expr.read w us)) ∧
      (∀ ts e, Expr.read w ts = .error (.unwritable e) ↔
        Expr.ofTokens w ts = .error (.refused e) ∧ ¬Numeral.Writable e.token.position) ∧
      (∀ s s' ts us, scan s = .ok ts → scan s' = .ok us → ts.map Token.bare = us.map Token.bare →
        Line.Alike ts us (Line.evaluate w s) (Line.evaluate w s')) ∧
      ∀ s s' ts, Relation.ReflTransGen DifferInGap s s' → scan s = .ok ts →
        ∃ us, scan s' = .ok us ∧ ts.map Token.bare = us.map Token.bare := by
  refine ⟨fun ts us h => alike_of_bare h, fun ts us h hts hus => (alike_of_bare h).read hts hus,
    fun ts e => read_eq_unwritable_iff, fun s s' ts us hs hs' h => evaluate_alike hs hs' h, fun s s' ts h hs => ?_⟩
  exact scan_of_differInGaps h hs

/-- Two tokens where only one may stand, at positions that are not in order; and lines with different gaps. -/
theorem positions_do_not_count_gaps :
    ReadAlike [⟨.number, "4", 0⟩, ⟨.number, "2", 2⟩] [⟨.number, "4", -7⟩, ⟨.number, "2", -9⟩]
        (.error (.error ⟨.leftover, ⟨.number, "2", 2⟩⟩ "Unknown token `2` at position: 2"))
        (.error (.error ⟨.leftover, ⟨.number, "2", -9⟩⟩ "Unknown token `2` at position: -9")) ∧
      scan "5+ 2" = .ok [⟨.number, "5", 0⟩, ⟨.plus, "+", 1⟩, ⟨.number, "2", 3⟩, Token.endOfLine 4] ∧
      scan "5\t+2" = .ok [⟨.number, "5", 0⟩, ⟨.plus, "+", 2⟩, ⟨.number, "2", 3⟩, Token.endOfLine 4] ∧
      Line.Alike [⟨.number, "5", 0⟩, ⟨.plus, "+", 1⟩, ⟨.number, "2", 3⟩, Token.endOfLine 4]
        [⟨.number, "5", 0⟩, ⟨.plus, "+", 2⟩, ⟨.number, "2", 3⟩, Token.endOfLine 4]
        (Line.evaluate (.bits 8) "5+ 2") (Line.evaluate (.bits 8) "5\t+2") ∧
      Relation.ReflTransGen DifferInGap "5+ 2" "5+2" ∧
      ∃ us, scan "5+2" = .ok us ∧
        [Token.mk .number "5" 0, ⟨.plus, "+", 1⟩, ⟨.number, "2", 3⟩, Token.endOfLine 4].map Token.bare = us.map Token.bare := by
  obtain ⟨-, htokens, -, hlines, hgaps⟩ := positions_do_not_count (.bits 8)
  have hread := htokens [⟨.number, "4", 0⟩, ⟨.number, "2", 2⟩] [⟨.number, "4", -7⟩, ⟨.number, "2", -9⟩] rfl
    (by decide +kernel) (by decide +kernel)
  have hfirst : Expr.read (.bits 8) [⟨.number, "4", 0⟩, ⟨.number, "2", 2⟩] =
      .error (.error ⟨.leftover, ⟨.number, "2", 2⟩⟩ "Unknown token `2` at position: 2") := by decide +kernel
  have hsecond : Expr.read (.bits 8) [⟨.number, "4", -7⟩, ⟨.number, "2", -9⟩] =
      .error (.error ⟨.leftover, ⟨.number, "2", -9⟩⟩ "Unknown token `2` at position: -9") := by decide +kernel
  rw [hfirst, hsecond] at hread
  have hleft : scan "5+ 2" = .ok [⟨.number, "5", 0⟩, ⟨.plus, "+", 1⟩, ⟨.number, "2", 3⟩, Token.endOfLine 4] := by decide +kernel
  have hright : scan "5\t+2" = .ok [⟨.number, "5", 0⟩, ⟨.plus, "+", 2⟩, ⟨.number, "2", 3⟩, Token.endOfLine 4] := by decide +kernel
  have hgap : DifferInGap "5+ 2" "5+2" := by
    refine ⟨['5', '+'], ['2'], ⟨[' '], fun c hc => List.mem_singleton.1 hc ▸ rfl⟩, .none, rfl, rfl, fun _ => ?_⟩
    exact border_of_meet rfl rfl (by decide +kernel)
  have hsteps := Relation.ReflTransGen.single hgap
  exact ⟨hread, hleft, hright, hlines _ _ _ _ hleft hright rfl, hsteps, hgaps _ _ _ hsteps hleft⟩

/-- A sign where a number is wanted: an error at the position 0, and at a position of 4301 digits none that could be written. And
two lines that differ in blanks alone, of which one is a number and the other is refused, since without the blank the digits run
together. -/
theorem long_positions_count :
    Expr.read .unbounded [⟨.plus, "+", 0⟩] = .error (.error ⟨.unexpected .number, ⟨.plus, "+", 0⟩⟩
        "Expected: `number`, got: `plus` at position: 0") ∧
      Expr.read .unbounded [⟨.plus, "+", 10 ^ 4300⟩] = .error (.unwritable ⟨.unexpected .number, ⟨.plus, "+", 10 ^ 4300⟩⟩) ∧
      (¬∀ ts us : List Token, ts.map Token.bare = us.map Token.bare →
        ReadAlike ts us (Expr.read .unbounded ts) (Expr.read .unbounded us)) ∧
      "12".toList.filter (!isBlank ·) = "1 2".toList.filter (!isBlank ·) ∧
      Line.value (.bits 32) "12" = .ok 12 ∧
      Line.value (.bits 32) "1 2" = .error (.reading (.refused ⟨.leftover, ⟨.number, "2", 2⟩⟩)) := by
  have hshort : Expr.read .unbounded [⟨.plus, "+", 0⟩] = .error (.error ⟨.unexpected .number, ⟨.plus, "+", 0⟩⟩
      "Expected: `number`, got: `plus` at position: 0") := by decide +kernel
  have hlong : Expr.read .unbounded [⟨.plus, "+", 10 ^ 4300⟩] =
      .error (.unwritable ⟨.unexpected .number, ⟨.plus, "+", 10 ^ 4300⟩⟩) :=
    read_eq_unwritable_iff.2 ⟨rfl, by decide +kernel⟩
  refine ⟨hshort, hlong, fun h => ?_, by decide +kernel, by decide +kernel, by decide +kernel⟩
  have halike := h [⟨.plus, "+", 0⟩] [⟨.plus, "+", 10 ^ 4300⟩] rfl
  rw [hlong] at halike
  exact not_readAlike_unwritable halike

end Reckoner
