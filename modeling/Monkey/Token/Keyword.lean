/-
  The reserved words of the language.
  `ofWord?` finds the keyword of a spelling, and only of that spelling (`ofWord?_eq_some_iff`):
  a word that merely contains a reserved one, or differs from it in case, is not reserved.
-/

namespace Monkey

/-- A reserved word. -/
inductive Keyword where
  | fnKw | letKw | trueKw | falseKw | ifKw | elseKw | returnKw
deriving DecidableEq, Repr

namespace Keyword

def all : List Keyword := [fnKw, letKw, trueKw, falseKw, ifKw, elseKw, returnKw]

def spelling : Keyword → String
  | fnKw => "fn"
  | letKw => "let"
  | trueKw => "true"
  | falseKw => "false"
  | ifKw => "if"
  | elseKw => "else"
  | returnKw => "return"

/-- The name that a printed token carries. -/
def tag : Keyword → String
  | fnKw => "FUNCTION"
  | letKw => "LET"
  | trueKw => "TRUE"
  | falseKw => "FALSE"
  | ifKw => "IF"
  | elseKw => "ELSE"
  | returnKw => "RETURN"

/-- The keyword with this spelling. -/
def ofWord? (word : String) : Option Keyword := all.find? (·.spelling == word)

theorem spelling_injective {k l : Keyword} (h : k.spelling = l.spelling) : k = l := by
  revert h
  cases k <;> cases l <;> decide

theorem ofWord?_eq_some_iff {word : String} {k : Keyword} :
    ofWord? word = some k ↔ k.spelling = word := by
  constructor
  · intro h
    simpa using List.find?_some h
  · rintro rfl
    cases k <;> decide

end Keyword

end Monkey
