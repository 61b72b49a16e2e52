import Reckoner.Proofs.Line.Magnitude
import Reckoner.Proofs.Session.Ending

/-!
# Digits: a line of few digits that is accepted can be shown

The value of an accepted line and the values of its terms have no more digits than the line (`evaluate_lt`). So no integer of
a line with at most as many digits as the longest numeral is too long to be written out, and its session ends in its result,
whatever is to be shown of it (`run_of_few_digits`). Nothing else keeps a session from breaking down there.
-/

namespace Reckoner

section

variable {w : Width} {source : String} {r : Line.Evaluation} {n : Int} {k : Nat}

/-- The value of an accepted line has no more digits than the line, and neither have those of its terms. -/
theorem evaluate_lt (hw : w.Proper) (hr : Line.evaluate w source = .ok r) :
    r.value.natAbs < 10 ^ lineDigits source ∧
      ∀ t ∈ r.expr.terms, 0 ≤ t.value ∧ t.value.natAbs < 10 ^ lineDigits source := by
  obtain ⟨hparse, hvalue⟩ := parse_of_evaluate hr
  have hdigits := digitCount_le_of_parse hw hparse
  have hmore : ∀ {m : Nat}, m ≤ r.expr.digitCount → 10 ^ m ≤ 10 ^ lineDigits source :=
    fun hm => Nat.pow_le_pow_right (by decide) (hm.trans hdigits)
  constructor
  · rw [hvalue]
    exact r.expr.natAbs_value_lt.trans_le (hmore (Nat.le_refl _))
  · intro t ht
    have hlegible : ∀ n ∈ t.factors, 0 ≤ n :=
      fun n hn => (legible_of_parse hw hparse n (List.mem_flatMap.2 ⟨t, ht, hn⟩)).2.1
    exact ⟨Term.value_nonneg hlegible, t.natAbs_value_lt.trans_le (hmore (Term.digitCount_le ht))⟩

/-- An integer below a power of ten can be written out if the power has few zeros. The proof holds for a limit of any size, so the
power is not worked out. -/
theorem writable_of_lt (h : n.natAbs < 10 ^ k) (hk : k ≤ Numeral.digitLimit) : Numeral.Writable n := by
  unfold Numeral.Writable
  generalize Numeral.digitLimit = limit at hk
  exact h.trans_le (Nat.pow_le_pow_right (by decide) hk)

/-- Every event of an accepted line has a record if its value can be written out. -/
theorem isSome_record? (hr : Line.evaluate w source = .ok r) (h : Numeral.Writable r.value) :
    ∀ event ∈ (Line.run w source).1, event.record?.isSome := by
  obtain ⟨us, e, hus, hyield, rfl⟩ := evaluate_eq_ok_iff.1 hr
  have hevents : (Line.run w source).1 = [.running source, .scanned (us ++ [Token.endOfLine source.toList.length]).length source,
      .parsed e, .evaluated e e.value] := by
    rw [Line.run, scan_eq_ok_iff.2 ⟨us, rfl, hus⟩]
    simp only [(ofTokens_append_endOfLine_iff hus).2 hyield]
  rw [hevents]
  intro event hevent
  simp only [List.mem_cons, List.not_mem_nil, or_false] at hevent
  rcases hevent with rfl | rfl | rfl | rfl
  · rfl
  · rfl
  · rfl
  · rw [Line.Event.record?, if_pos h]
    rfl

end

namespace Session

/-- The value of an accepted line lies below the power of ten with a zero for each digit of the line, in magnitude, and so do
the values of its terms, which are not negative. So with settings that are loaded, where a line of at most 4300 digits is
accepted, all integers of it can be written out, every event has a record, and the session ends in the result, whatever is to
be shown. -/
theorem run_of_few_digits :
    (∀ w : Width, w.Proper → ∀ source r, Line.evaluate w source = .ok r →
      |r.value| < 10 ^ lineDigits source ∧ ∀ t ∈ r.expr.terms, 0 ≤ t.value ∧ t.value < 10 ^ lineDigits source) ∧
    ∀ (files : Files) (environment config : Option String) (s : Settings),
      Settings.resolve files (namedPath environment config) = .ok s →
      ∀ (input : String) (line : Option String) (r : Line.Evaluation), Line.evaluate s.width (lineOf input line) = .ok r →
        lineDigits (lineOf input line) ≤ 4300 →
        (∀ n ∈ r.expr.leaves, Numeral.Writable n) ∧ (∀ t ∈ r.expr.terms, Numeral.Writable t.value) ∧
          Numeral.Writable r.value ∧ (∀ event ∈ (Line.run s.width (lineOf input line)).1, event.record?.isSome) ∧
          ∀ tokens tree verbose, (run files environment input (.evaluate line ⟨tokens, tree, verbose, config⟩)).ShowsResult
            (writtenBefore s line) (r.tokenLines tokens ++ r.termLines tree) r.value := by
  constructor
  · intro w hw source r hr
    obtain ⟨hvalue, hterms⟩ := evaluate_lt hw hr
    refine ⟨?_, fun t ht => ?_⟩
    · rw [Int.abs_eq_natAbs]
      exact_mod_cast hvalue
    · obtain ⟨hnonneg, hlt⟩ := hterms t ht
      refine ⟨hnonneg, ?_⟩
      rw [← Int.natAbs_of_nonneg hnonneg]
      exact_mod_cast hlt
  · intro files environment config s hs input line r hr hdigits
    have hw := (Settings.inRange_of_resolve hs).proper
    obtain ⟨hvalue, hterms⟩ := evaluate_lt hw hr
    have hterms' : ∀ t ∈ r.expr.terms, Numeral.Writable t.value := fun t ht => writable_of_lt (hterms t ht).2 hdigits
    have hvalue' : Numeral.Writable r.value := writable_of_lt hvalue hdigits
    refine ⟨fun n hn => (legible_of_parse hw (parse_of_evaluate hr).1 n hn).1, hterms', hvalue', isSome_record? hr hvalue', ?_⟩
    intro tokens tree verbose
    exact run_showsResult hs hr ⟨fun _ => hterms', hvalue'⟩

/-- A product and a difference below zero, under the settings where nothing is set. -/
theorem run_of_few_digits_difference :
    Width.Proper .unbounded ∧
      Line.evaluate .unbounded "7 - 12*034" = .ok ⟨[⟨.number, "7", 0⟩, ⟨.minus, "-", 2⟩, ⟨.number, "12", 4⟩, ⟨.times, "*", 6⟩,
        ⟨.number, "034", 7⟩, ⟨.endMark, "<EOF>", 10⟩], ⟨⟨7, []⟩, [(.minus, ⟨12, [34]⟩)]⟩, -401⟩ ∧
      |(-401 : Int)| < 10 ^ lineDigits "7 - 12*034" ∧
      Settings.resolve (fun _ => .nowhere) (namedPath none none) = .ok .default ∧
      lineDigits (lineOf "7 - 12*034\n" none) ≤ 4300 ∧
      ∃ r, Line.evaluate Settings.default.width (lineOf "7 - 12*034\n" none) = .ok r ∧
        (run (fun _ => .nowhere) none "7 - 12*034\n" (.evaluate none ⟨true, true, true, none⟩)).ShowsResult
          (writtenBefore .default none) (r.tokenLines true ++ r.termLines true) r.value := by
  obtain ⟨hbounds, hruns⟩ := run_of_few_digits
  have hr : Line.evaluate .unbounded "7 - 12*034" = .ok ⟨[⟨.number, "7", 0⟩, ⟨.minus, "-", 2⟩, ⟨.number, "12", 4⟩,
      ⟨.times, "*", 6⟩, ⟨.number, "034", 7⟩, ⟨.endMark, "<EOF>", 10⟩], ⟨⟨7, []⟩, [(.minus, ⟨12, [34]⟩)]⟩, -401⟩ := by
    decide +kernel
  have hs : Settings.resolve (fun _ => .nowhere) (namedPath none none) = .ok .default := rfl
  have hdigits : lineDigits (lineOf "7 - 12*034\n" none) ≤ 4300 := by decide +kernel
  have hr' : Line.evaluate Settings.default.width (lineOf "7 - 12*034\n" none) = .ok ⟨[⟨.number, "7", 0⟩, ⟨.minus, "-", 2⟩,
      ⟨.number, "12", 4⟩, ⟨.times, "*", 6⟩, ⟨.number, "034", 7⟩, ⟨.endMark, "<EOF>", 10⟩],
      ⟨⟨7, []⟩, [(.minus, ⟨12, [34]⟩)]⟩, -401⟩ := by
    decide +kernel
  obtain ⟨-, -, -, -, hshows⟩ := hruns _ _ _ _ hs _ _ _ hr' hdigits
  exact ⟨trivial, hr, (hbounds .unbounded trivial _ _ hr).1, hs, hdigits, _, hr', hshows true true true⟩

end Session

end Reckoner
