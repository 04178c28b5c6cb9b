/-
  The operators and punctuation marks of the language.
  Fourteen of them are one character long (`ofChar?`), and two more are one of those with an
  equals sign behind it (`withEquals?`): `==` and `!=`.
-/

namespace Monkey

/-- An operator or a punctuation mark. -/
inductive Operator where
  | assign | plus | minus | bang | slash | asterisk
  | less | greater | equal | notEqual
  | semicolon | comma | leftBrace | rightBrace | leftParen | rightParen
deriving DecidableEq, Repr

namespace Operator

def all : List Operator :=
  [assign, plus, minus, bang, slash, asterisk, less, greater, equal, notEqual,
   semicolon, comma, leftBrace, rightBrace, leftParen, rightParen]

def spelling : Operator → String
  | assign => "="
  | plus => "+"
  | minus => "-"
  | bang => "!"
  | slash => "/"
  | asterisk => "*"
  | less => "<"
  | greater => ">"
  | equal => "=="
  | notEqual => "!="
  | semicolon => ";"
  | comma => ","
  | leftBrace => "\x7b"
  | rightBrace => "\x7d"
  | leftParen => "("
  | rightParen => ")"

/-- The name that a printed token carries. -/
def tag : Operator → String
  | assign => "ASSIGN"
  | plus => "PLUS"
  | minus => "MINUS"
  | bang => "BANG"
  | slash => "SLASH"
  | asterisk => "ASTERISK"
  | less => "LT"
  | greater => "GT"
  | equal => "EQ"
  | notEqual => "NOT_EQ"
  | semicolon => "SEMICOLON"
  | comma => "COMMA"
  | leftBrace => "LBRACE"
  | rightBrace => "RBRACE"
  | leftParen => "LPAREN"
  | rightParen => "RPAREN"

/-- The operator that a character alone stands for. -/
def ofChar? (c : Char) : Option Operator :=
  match c with
  | '=' => some assign
  | '+' => some plus
  | '-' => some minus
  | '!' => some bang
  | '/' => some slash
  | '*' => some asterisk
  | '<' => some less
  | '>' => some greater
  | ';' => some semicolon
  | ',' => some comma
  | '{' => some leftBrace
  | '}' => some rightBrace
  | '(' => some leftParen
  | ')' => some rightParen
  | _ => none

/-- The operator that the addition of an equals sign makes of this one. -/
def withEquals? : Operator → Option Operator
  | assign => some equal
  | bang => some notEqual
  | _ => none

theorem ofChar?_eq_some_iff {c : Char} {o : Operator} :
    ofChar? c = some o ↔ o.spelling.toList = [c] := by
  constructor
  · intro h
    unfold ofChar? at h
    split at h <;> simp at h <;> subst h <;> rfl
  · intro h
    cases o <;> simp [spelling] at h <;> subst h <;> rfl

theorem withEquals?_eq_some_iff {o p : Operator} :
    o.withEquals? = some p ↔ p.spelling.toList = o.spelling.toList ++ ['='] := by
  cases o <;> cases p <;> decide

theorem spelling_injective {o p : Operator} (h : o.spelling = p.spelling) : o = p := by
  revert h
  cases o <;> cases p <;> decide

end Operator

end Monkey
