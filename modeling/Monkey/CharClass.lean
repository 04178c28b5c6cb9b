import Monkey.Token.Operator
import Monkey.Unicode.Source

/-
  The class of a character, which is all that the scan of a source looks at.
  `of` gives every character exactly one class, so no character is two things at once; an
  operator character has a class of its own.
-/

namespace Monkey

/-- What a character can begin or continue. -/
inductive CharClass where
  | space
  | letter
  | digit
  | operator (o : Operator)
  | other
deriving DecidableEq, Repr

namespace CharClass

def of (c : Char) : CharClass :=
  match Operator.ofChar? c with
  | some o => operator o
  | none =>
    if Unicode.blanks.contains c.toNat then space
    else if Unicode.letters.contains c.toNat then letter
    else if Unicode.digits.contains c.toNat then digit
    else other

theorem of_eq_operator_iff {c : Char} {o : Operator} :
    of c = operator o ↔ Operator.ofChar? c = some o := by
  unfold of
  cases Operator.ofChar? c with
  | none => simp only; split <;> (try split) <;> (try split) <;> simp
  | some p => simp

end CharClass

/-- The white space of Unicode. -/
def isSpace (c : Char) : Bool := CharClass.of c == .space

/-- The letters of every script. -/
def isLetter (c : Char) : Bool := CharClass.of c == .letter

/-- The decimal digits of every script. -/
def isDigit (c : Char) : Bool := CharClass.of c == .digit

/-- One of the fourteen characters that are an operator or a punctuation mark by themselves. -/
def isOperator (c : Char) : Bool := (Operator.ofChar? c).isSome

/-- No part of the language: neither white space, nor a letter, a digit or an operator. -/
def isForeign (c : Char) : Bool := CharClass.of c == .other

theorem isSpace_iff {c : Char} : isSpace c = true ↔ CharClass.of c = .space := by
  simp [isSpace]

theorem isLetter_iff {c : Char} : isLetter c = true ↔ CharClass.of c = .letter := by
  simp [isLetter]

theorem isDigit_iff {c : Char} : isDigit c = true ↔ CharClass.of c = .digit := by
  simp [isDigit]

theorem isOperator_iff {c : Char} : isOperator c = true ↔ ∃ o, CharClass.of c = .operator o := by
  simp only [isOperator, Option.isSome_iff_exists, CharClass.of_eq_operator_iff]

theorem isForeign_iff {c : Char} : isForeign c = true ↔ CharClass.of c = .other := by
  simp [isForeign]

end Monkey
