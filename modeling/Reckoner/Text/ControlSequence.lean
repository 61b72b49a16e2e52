/-!
# Control sequences of a terminal

A control sequence is the escape character and an opening bracket, then any number of digits, semicolons and question marks,
then a letter. Output that goes to no terminal is written without them.
-/

namespace Reckoner

/-- Whether a character may stand between the bracket and the letter of a control sequence. -/
def isSequenceParameter (c : Char) : Bool := c.isDigit || c = ';' || c = '?'

/-- The text after the control sequence at its front, if there is one. -/
def afterControlSequence? : List Char → Option (List Char)
  | '\x1B' :: '[' :: body =>
    match body.dropWhile isSequenceParameter with
    | c :: rest => if c.isAlpha then some rest else none
    | [] => none
  | _ => none

/-- A control sequence has at least one character. -/
theorem length_afterControlSequence? {s rest : List Char} (h : afterControlSequence? s = some rest) :
    rest.length < s.length := by
  unfold afterControlSequence? at h
  split at h
  · rename_i body
    have hle := (List.dropWhile_sublist (l := body) isSequenceParameter).length_le
    split at h
    · rename_i c r hs
      rw [hs, List.length_cons] at hle
      split at h
      · cases h
        simp only [List.length_cons]
        omega
      · exact absurd h (by simp)
    · exact absurd h (by simp)
  · exact absurd h (by simp)

/-- A text without its control sequences. -/
def dropControlSequences : List Char → List Char
  | [] => []
  | c :: cs =>
    match _h : afterControlSequence? (c :: cs) with
    | some rest => dropControlSequences rest
    | none => c :: dropControlSequences cs
termination_by s => s.length
decreasing_by
  · exact length_afterControlSequence? _h
  · simp

end Reckoner
