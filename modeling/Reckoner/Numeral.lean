import Reckoner.Text.Blank
import Reckoner.Text.Digit

/-!
# Numerals: integers as text, and the width they must fit

The text of an integer may be padded at both ends and signed once; its digits may be of any script and may be separated by
single low lines. Numerals of more than `digitLimit` digits are neither read nor written. A literal has to fit a width,
the number of bits of a two's complement word, unless the width is unbounded.
-/

namespace Reckoner

namespace Numeral

/-- The longest numeral, in digits, that is read or written. -/
def digitLimit : Nat := 4300

/-- The number that a sequence of decimal digits denotes. -/
def positional (ds : List Nat) : Nat := ds.foldl (fun n d => 10 * n + d) 0

/-- The values of the digits of a text. A low line may stand between two digits. The flag says whether the character before
the text was a digit. -/
def digits? (afterDigit : Bool) : List Char → Option (List Nat)
  | [] => if afterDigit then some [] else none
  | c :: cs =>
    match digitValue? c with
    | some d => (digits? true cs).map (d :: ·)
    | none => if afterDigit && c = '_' then digits? false cs else none

/-- Whether a text begins with a minus sign, and the text after its sign. -/
def splitSign : List Char → Bool × List Char
  | '+' :: cs => (false, cs)
  | '-' :: cs => (true, cs)
  | cs => (false, cs)

/-- A natural number, negated or not. -/
def signed (negative : Bool) (n : Nat) : Int := if negative then -(n : Int) else n

/-- The integer that a text denotes. -/
def integer? (text : List Char) : Option Int :=
  let (negative, body) := splitSign (stripPadding text)
  match digits? false body with
  | some ds => if ds.length ≤ digitLimit then some (signed negative (positional ds)) else none
  | none => none

/-- Whether an integer can be written out: it has no more digits than the longest numeral. -/
def Writable (n : Int) : Prop := n.natAbs < Nat.pow 10 digitLimit

instance (n : Int) : Decidable (Writable n) := inferInstanceAs (Decidable (_ < _))

/-- An integer as it is written out, if it can be. -/
def written? (n : Int) : Option String := if Writable n then some n.repr else none

/-- What is written of an integer is its decimal text, and something is if it is not too long. -/
theorem written?_eq_some_iff {n : Int} {s : String} : written? n = some s ↔ Writable n ∧ s = n.repr := by
  rw [written?]
  split
  · rename_i h
    rw [Option.some.injEq]
    exact ⟨fun hs => ⟨h, hs.symm⟩, fun hs => hs.2.symm⟩
  · rename_i h
    exact iff_of_false nofun fun hs => h hs.1

end Numeral

/-! ## Widths -/

/-- The width of integer literals: a number of bits, or unbounded. -/
inductive Width where
  | unbounded
  | bits (n : Int)
  deriving DecidableEq, Repr

namespace Width

/-- A width that some integer fits. -/
def Proper : Width → Prop
  | .unbounded => True
  | .bits n => 1 ≤ n

/-- The least natural number that does not fit a word of `n` bits: `2^(n-1)`. -/
def bound (n : Int) : Nat := 1 <<< (n - 1).toNat

/-- Whether an integer fits a width: a word of `n` bits holds the integers from `-2^(n-1)` up to but not including
`2^(n-1)`. That the bound itself has to be stored is left out: the program forms the power, and has no memory for it from
about `2^66` bits on. -/
def Holds : Width → Int → Prop
  | .unbounded, _ => True
  | .bits n, v => -(bound n : Int) ≤ v ∧ v < bound n

instance (w : Width) : Decidable w.Proper :=
  match w with
  | .unbounded => isTrue trivial
  | .bits n => inferInstanceAs (Decidable (1 ≤ n))

/-- What an integer has in a two's complement word besides its sign bit: of a negative one the complement. -/
def magnitude : Int → Nat
  | .ofNat m => m
  | .negSucc m => m

/-- An integer fits a word if its magnitude fits the bits other than the sign bit. -/
theorem holds_bits_iff {n v : Int} : (bits n).Holds v ↔ magnitude v < bound n := by
  rw [Holds]
  cases v with
  | ofNat m =>
    simp only [magnitude, Int.ofNat_eq_natCast]
    omega
  | negSucc m =>
    simp only [magnitude]
    omega

/-- Whether an integer fits a width is decided by the number of its bits, without forming a power, so for widths of any size. -/
instance (w : Width) (v : Int) : Decidable (w.Holds v) :=
  match w with
  | .unbounded => isTrue trivial
  | .bits n =>
    decidable_of_iff (magnitude v = 0 ∨ (magnitude v).log2 < (n - 1).toNat) <| by
      rw [holds_bits_iff, bound, Nat.one_shiftLeft]
      by_cases h : magnitude v = 0
      · exact ⟨fun _ => h ▸ Nat.two_pow_pos _, fun _ => .inl h⟩
      · simp [h, Nat.log2_lt h]

end Width

/-- Why a text is no literal of a width. -/
inductive LiteralError where
  /-- The text denotes no integer. -/
  | malformed
  /-- The integer does not fit the bits. -/
  | tooWide (bits : Int)
  /-- There are no bits that an integer could fit. -/
  | noBits
  deriving DecidableEq, Repr

/-- The integer that a text denotes, if it fits the width. A width is never too great to be compared with (`Width.Holds`). -/
def literal (w : Width) (text : List Char) : Except LiteralError Int :=
  match Numeral.integer? text with
  | none => .error .malformed
  | some v =>
    match w with
    | .unbounded => .ok v
    | .bits n =>
      if n ≤ 0 then .error .noBits else if (Width.bits n).Holds v then .ok v else .error (.tooWide n)

end Reckoner
