import Mathlib
import Reckoner.Proofs.Plain.Check

/-!
# Integers in plain data

Which plain values are read as which integer (`Plain.reads_integer`). A floating-point number is read as the integer that it
is exactly, if that is within the limit (`Binary64.integer?_eq_some_iff`); so what is read does not depend on how a number is
split into significand and exponent.
-/

namespace Reckoner

/-- A floating-point number is an integer exactly if its value is. -/
theorem Binary64.integer?_eq_some_iff {significand exponent n : Int} :
    (Binary64.finite significand exponent).integer? = some n ↔ (significand : ℚ) * 2 ^ exponent = n := by
  rcases le_or_gt 0 exponent with hexponent | hexponent
  · obtain ⟨k, rfl⟩ := Int.eq_ofNat_of_zero_le hexponent
    rw [integer?, if_pos hexponent, Option.some.injEq, Int.toNat_natCast, Nat.one_shiftLeft, zpow_natCast]
    exact ⟨fun h => by rw [← h]; push_cast; rfl, fun h => by exact_mod_cast h⟩
  · obtain ⟨k, hk⟩ := Int.eq_ofNat_of_zero_le (show 0 ≤ -exponent by omega)
    obtain rfl : exponent = -k := by omega
    have hmultiple : (significand : ℚ) * 2 ^ (-(k : Int)) = n ↔ significand = n * (2 ^ k : Nat) := by
      rw [zpow_neg, zpow_natCast, mul_inv_eq_iff_eq_mul₀ (pow_ne_zero k two_ne_zero)]
      exact ⟨fun h => by exact_mod_cast h, fun h => by rw [h]; push_cast; rfl⟩
    have hunit : ((2 ^ k : Nat) : Int) ≠ 0 := by positivity
    rw [hmultiple, integer?, if_neg (by omega), neg_neg, Int.toNat_natCast, Nat.one_shiftLeft]
    generalize ((2 ^ k : Nat) : Int) = unit at hunit
    dsimp only
    split_ifs with hmod
    · rw [Option.some.injEq]
      exact Int.ediv_eq_iff_eq_mul_left hunit (Int.dvd_of_emod_eq_zero hmod)
    · exact iff_of_false (by simp) fun h => hmod (h ▸ Int.mul_emod_left n unit)

namespace Plain

/-- A plain value stands for an integer: one itself, a truth value for one or zero, a floating-point number for its value if that
is an integer below the limit, and a text for what it denotes leniently. -/
inductive IsInteger : Plain → Int → Prop where
  | int (n : Int) : IsInteger (.int n) n
  | truth (b : Bool) : IsInteger (.bool b) (if b then 1 else 0)
  | float {significand exponent n : Int} (hvalue : (significand : ℚ) * 2 ^ exponent = n) (hlimit : n.natAbs < 2 ^ 63) :
      IsInteger (.float (.finite significand exponent)) n
  | text {s : String} {n : Int} (h : Numeral.Lenient.integer s.toList = .ok n) : IsInteger (.text s) n

/-- A plain value is read as the integer that it stands for. -/
theorem reads_integer : Check.Reads integer IsInteger := by
  intro p n
  constructor
  · intro h
    cases p with
    | int m =>
      obtain rfl := Except.ok.inj h
      exact .int m
    | bool b =>
      obtain rfl := Except.ok.inj h
      exact .truth b
    | float x =>
      cases x with
      | finite significand exponent =>
        simp only [integer] at h
        split at h
        · rename_i m hm
          split_ifs at h with hlimit
          · obtain rfl := Except.ok.inj h
            rw [floatLimit, Nat.one_shiftLeft] at hlimit
            exact .float (Binary64.integer?_eq_some_iff.1 hm) hlimit
          · exact absurd h Check.fail_ne_ok
        · exact absurd h Check.fail_ne_ok
      | infinite => exact absurd h Check.fail_ne_ok
      | notANumber => exact absurd h Check.fail_ne_ok
    | text s =>
      simp only [integer] at h
      split at h
      · rename_i m hm
        obtain rfl := Except.ok.inj h
        exact .text hm
      · exact absurd h Check.fail_ne_ok
      · exact absurd h Check.fail_ne_ok
    | _ => exact absurd h Check.fail_ne_ok
  · intro h
    cases h with
    | int | truth => rfl
    | float hvalue hlimit =>
      have hlimit' : n.natAbs < floatLimit := by rwa [floatLimit, Nat.one_shiftLeft]
      simp only [integer, Binary64.integer?_eq_some_iff.2 hvalue, if_pos hlimit']
    | text h => simp only [integer, h]

end Plain

end Reckoner
