import Reckoner.Text.Quoted

/-!
# Tokens: the words a line is made of

A token is a kind, the text it was read from and the position of its first character. Words are told apart from the two
reserved words `true` and `false`, though no expression uses any of them. The last token of a scanned line is its end mark.
Nothing ties the text of a hand-made token to its kind, and its position may be any integer.
-/

namespace Reckoner

/-- What a token is. -/
inductive Token.Kind where
  | number | word | trueWord | falseWord | plus | minus | times | endMark
  deriving DecidableEq, Repr

/-- The name of a kind in messages. -/
def Token.Kind.name : Token.Kind → String
  | .number => "number"
  | .word => "ident"
  | .trueWord => "true"
  | .falseWord => "false"
  | .plus => "plus"
  | .minus => "minus"
  | .times => "times"
  | .endMark => "eof"

/-- A token: its kind, its text, and the position of its first character in the line. -/
structure Token where
  kind : Token.Kind
  text : String
  position : Int
  deriving DecidableEq, Repr

namespace Token

/-- All kinds. -/
def Kind.all : List Kind := [.number, .word, .trueWord, .falseWord, .plus, .minus, .times, .endMark]

/-- The kind with a given name. -/
def Kind.ofName? (s : String) : Option Kind := Kind.all.find? fun k => k.name == s

/-- The end mark of a line of `n` characters. -/
def endOfLine (n : Nat) : Token := ⟨.endMark, "<EOF>", n⟩

/-- A token on one line, for a reader who looks into a list of tokens: kind, quoted text and position. The program has no
description of a hand-made token whose position is too long to be written out. -/
def describe (t : Token) : String :=
  "Token(" ++ t.kind.name ++ ", " ++ quoted t.text ++ ", pos=" ++ t.position.repr ++ ")"

theorem Kind.mem_all (k : Kind) : k ∈ Kind.all := by cases k <;> decide

/-- Kinds are told by their names. -/
theorem Kind.name_injective {k l : Kind} (h : k.name = l.name) : k = l := by
  cases k <;> cases l <;> first | rfl | exact absurd h (by decide)

end Token

end Reckoner
