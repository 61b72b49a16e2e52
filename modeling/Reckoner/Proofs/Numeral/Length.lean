import Reckoner.Proofs.Line.Form
import Reckoner.Proofs.Reading.Alternation

/-!
# The length of a literal

A scan puts runs of ASCII digits of any length into its number tokens. A run of at most 4300 digits is a literal exactly if its
value lies below the bound of the width; a longer one is none under any width, however small its value, and is refused as
malformed (`literal_digitRun`). So zeros in front of a run do not change its value but may still cost it its acceptance
(`not_literal_of_zeros`).
-/

namespace Reckoner

namespace DigitRun

/-- The number token of a run of digits. -/
def token (d : DigitRun) (position : Int) : Token := ⟨.number, String.ofList d.chars, position⟩

theorem toList_text_token (d : DigitRun) (position : Int) : (d.token position).text.toList = d.chars :=
  String.toList_ofList

/-- A run of digits with zeros in front. -/
def withZeros (d : DigitRun) (k : Nat) : DigitRun where
  chars := List.replicate k '0' ++ d.chars
  ne_nil := List.append_ne_nil_of_right_ne_nil _ d.ne_nil
  digit := by
    intro c hc
    rcases List.mem_append.1 hc with hzero | hmem
    · rw [List.eq_of_mem_replicate hzero]
      rfl
    · exact d.digit c hmem

/-- Leading zeros make a run of digits as much longer. -/
theorem length_withZeros (d : DigitRun) (k : Nat) : (d.withZeros k).chars.length = k + d.chars.length := by
  simp [withZeros]

/-- Zeros in front do not change the value. -/
theorem value_withZeros (d : DigitRun) (k : Nat) : (d.withZeros k).value = d.value := by
  have hdecimal : decimal (List.replicate k '0' ++ d.chars) = decimal d.chars := by
    induction k with
    | zero => rfl
    | succ k ih =>
      rw [List.replicate_succ, List.cons_append, decimal, Nat.ofDigitChars_cons]
      exact ih
  exact congrArg Nat.cast hdecimal

end DigitRun

section

variable {w : Width} {d : DigitRun}

/-- A run of digits is a literal exactly if it is not too long and its value lies below the bound of the width. -/
theorem literal_token_iff (hw : w.Proper) (d : DigitRun) (position v : Int) :
    (d.token position).literal w = .ok v ↔
      d.chars.length ≤ 4300 ∧ v = d.value ∧ ∀ n, w = .bits n → d.value < 2 ^ (n - 1).toNat := by
  have hbound : (∀ n, w = .bits n → decimal d.chars < 2 ^ (n - 1).toNat) ↔
      ∀ n, w = .bits n → d.value < 2 ^ (n - 1).toNat := by
    refine forall_congr' fun n => imp_congr_right fun _ => ?_
    rw [DigitRun.value]
    exact_mod_cast Iff.rfl
  rw [literal_eq_ok_iff, d.toList_text_token, literal_digits_iff hw d.ne_nil d.digit, IsLiteral, hbound]
  exact ⟨fun h => ⟨h.1.1, h.2, h.1.2⟩, fun h => ⟨⟨h.1, h.2.2⟩, h.2.1⟩⟩

/-- A run of digits that is not too long, but whose value does not lie below the bound of the width, is too wide. -/
theorem exists_tooWide_token (hw : w.Proper) (hlen : d.chars.length ≤ 4300)
    (hwide : ¬∀ n, w = .bits n → d.value < 2 ^ (n - 1).toNat) (position : Int) :
    ∃ n, w = .bits n ∧ (d.token position).literal w = .error (.refused ⟨.tooWide n, d.token position⟩) := by
  have hvalue : Numeral.integer? d.chars = some d.value := by
    rw [integer?_digits d.ne_nil d.digit]
    exact if_pos hlen
  have hrange : ¬InWidth w d.value := fun h => hwide fun n hn => (h n hn).2
  obtain ⟨n, hn, hlit⟩ := exists_tooWide hw hvalue hrange
  refine ⟨n, hn, ?_⟩
  rw [Token.literal, d.toList_text_token, hlit]

/-- A run of digits that is too long is refused as malformed. -/
theorem malformed_of_long (hlen : 4300 < d.chars.length) (position : Int) :
    (d.token position).literal w = .error (.refused ⟨.malformed, d.token position⟩) := by
  have hnone : Numeral.integer? d.chars = none := by
    rw [integer?_digits d.ne_nil d.digit]
    exact if_neg (Nat.not_le.2 hlen)
  rw [Token.literal, d.toList_text_token, literal, hnone]

end

/-- What a run of ASCII digits comes to as a literal. Of at most 4300 digits, it is its value, or too wide if the value does not
lie below the bound of the width. A longer run is malformed, whatever its value is and whatever the width. Zeros in front of a
run count for its length only. -/
theorem literal_digitRun {w : Width} (hw : w.Proper) (d : DigitRun) (position : Int) :
    (∀ v, (d.token position).literal w = .ok v ↔
        d.chars.length ≤ 4300 ∧ v = d.value ∧ ∀ n, w = .bits n → d.value < 2 ^ (n - 1).toNat) ∧
      (d.chars.length ≤ 4300 → (¬∀ n, w = .bits n → d.value < 2 ^ (n - 1).toNat) →
        ∃ n, w = .bits n ∧ (d.token position).literal w = .error (.refused ⟨.tooWide n, d.token position⟩)) ∧
      (4300 < d.chars.length → (d.token position).literal w = .error (.refused ⟨.malformed, d.token position⟩)) ∧
      ∀ k v, ((d.withZeros k).token position).literal w = .ok v ↔
        k + d.chars.length ≤ 4300 ∧ v = d.value ∧ ∀ n, w = .bits n → d.value < 2 ^ (n - 1).toNat := by
  refine ⟨literal_token_iff hw d position, fun hlen hwide => exists_tooWide_token hw hlen hwide position,
    fun hlen => malformed_of_long hlen position, fun k v => ?_⟩
  rw [literal_token_iff hw, DigitRun.length_withZeros, DigitRun.value_withZeros]

/-- The run of the one digit `1`. -/
def DigitRun.one : DigitRun := ⟨['1'], List.cons_ne_nil _ _, by simp⟩

/-- One with as many zeros in front as it may have. -/
theorem literal_digitRun_zeros :
    (Width.bits 8).Proper ∧
      ((DigitRun.one.withZeros 4299).token 0).literal (.bits 8) = .ok 1 ∧
      ∀ v, ((DigitRun.one.withZeros 4300).token 0).literal (.bits 8) ≠ .ok v := by
  have hw : (Width.bits 8).Proper := by decide
  obtain ⟨-, -, -, hzeros⟩ := literal_digitRun hw DigitRun.one 0
  refine ⟨hw, (hzeros 4299 1).2 ⟨by decide, by decide, ?_⟩, ?_⟩
  · rintro n ⟨⟩
    decide
  · intro v hv
    exact absurd ((hzeros 4300 v).1 hv).1 (by decide)

/-- A run of digits with the value one that is no literal, even of unbounded width. -/
theorem not_literal_of_zeros :
    (DigitRun.one.withZeros 4300).value = 1 ∧ (DigitRun.one.token 0).literal .unbounded = .ok 1 ∧
      ((DigitRun.one.withZeros 4300).token 0).literal .unbounded =
        .error (.refused ⟨.malformed, (DigitRun.one.withZeros 4300).token 0⟩) := by
  have hlong : 4300 < (DigitRun.one.withZeros 4300).chars.length := by
    rw [DigitRun.length_withZeros]
    decide
  have hw : Width.unbounded.Proper := trivial
  have hone : (DigitRun.one.token 0).literal .unbounded = .ok 1 :=
    (literal_token_iff hw DigitRun.one 0 1).2 ⟨by decide, rfl, nofun⟩
  exact ⟨DigitRun.value_withZeros _ _, hone, malformed_of_long hlong 0⟩

end Reckoner
