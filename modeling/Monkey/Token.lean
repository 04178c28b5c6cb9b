import Monkey.Token.Keyword
import Monkey.Token.Operator

/-
  Tokens: what kind of thing was read, and the text that it was read from.
  Every kind has a tag of its own (`tag_injective`), and a token is shown as its tag and its
  literal between braces.
-/

namespace Monkey

/-- What a token is. -/
inductive Kind where
  | endOfInput
  | illegal
  | identifier
  | integer
  | operator (o : Operator)
  | keyword (k : Keyword)
deriving DecidableEq, Repr

namespace Kind

/-- The name that a printed token carries. -/
def tag : Kind → String
  | endOfInput => "EOF"
  | illegal => "ILLEGAL"
  | identifier => "IDENT"
  | integer => "INT"
  | operator o => o.tag
  | keyword k => k.tag

def all : List Kind :=
  [endOfInput, illegal, identifier, integer] ++ Operator.all.map operator ++
    Keyword.all.map keyword

/-- The kind that has this tag. -/
def ofTag? (tag : String) : Option Kind := all.find? (·.tag == tag)

/-- A reserved word has its keyword, and any other word is an identifier. -/
def ofWord (word : String) : Kind :=
  match Keyword.ofWord? word with
  | some k => keyword k
  | none => identifier

def isKeyword : Kind → Bool
  | keyword _ => true
  | _ => false

/-- Identifiers and keywords. -/
def isWord : Kind → Bool
  | identifier => true
  | keyword _ => true
  | _ => false

theorem isWord_ofWord (word : String) : (ofWord word).isWord = true := by
  unfold ofWord
  split <;> rfl

theorem ofTag?_tag (k : Kind) : ofTag? k.tag = some k := by
  cases k with
  | operator o => cases o <;> decide
  | keyword w => cases w <;> decide
  | _ => decide

theorem tag_injective {j k : Kind} (h : j.tag = k.tag) : j = k :=
  Option.some.inj (by rw [← ofTag?_tag j, ← ofTag?_tag k, h])

end Kind

/-- A kind and the literal text of the source that has it. -/
structure Token where
  kind : Kind
  literal : String
deriving DecidableEq, Repr

namespace Token

/-- The token that follows the last one of a source. -/
def endOfInput : Token := ⟨.endOfInput, ""⟩

/-- Looks at the kind only. -/
def isEndOfInput (t : Token) : Bool := t.kind == .endOfInput

def isIllegal (t : Token) : Bool := t.kind == .illegal

/-- The token on paper: its tag and its literal, between braces. -/
def render (t : Token) : String :=
  "\x7bType:" ++ t.kind.tag ++ " Literal:" ++ t.literal ++ "\x7d"

end Token

end Monkey
