import Monkey.Text.Quoted
import Monkey.Token

/-
  What the library reports of its work. An event says what happened; its level, its message and
  its fields follow from that. Which events are shown, and how, is decided elsewhere, so a filter
  is any choice among events.
-/

namespace Monkey.Log

/-- The importance of an event, the most important first. -/
inductive Level where
  | error | warn | info | debug | trace
deriving DecidableEq, Repr

/-- Something that happened. -/
inductive Event where
  | illegalCharacter (c : Char) (index : Nat)
  | token (t : Token)
  | scannedSource (count : Nat)
  | readSource (path : Bytes) (chars : Nat)
  | answeredLine (tokens : Nat)
deriving DecidableEq, Repr

/-- The value of a field of an event. -/
inductive Value where
  | text (s : String)
  | number (n : Nat)
deriving DecidableEq, Repr

namespace Event

def level : Event → Level
  | token _ => .trace
  | _ => .debug

def message : Event → String
  | illegalCharacter _ _ => "illegal character"
  | token _ => "token"
  | scannedSource _ => "tokenized source"
  | readSource _ _ => "read source"
  | answeredLine _ => "lexed repl line"

def fields : Event → List (String × Value)
  | illegalCharacter c index => [("character", .text (Quoted.ofChar c)), ("index", .number index)]
  | token t => [("kind", .text t.kind.tag), ("literal", .text t.literal)]
  | scannedSource count => [("count", .number count)]
  | readSource path chars => [("path", .text (Utf8.lossy path)), ("chars", .number chars)]
  | answeredLine tokens => [("tokens", .number tokens)]

end Event

/-- Tells of each event whether it is shown. -/
abbrev Filter := Event → Bool

/-- A value, and the events on the way to it. -/
structure Told (α : Type) where
  events : List Event
  value : α
deriving DecidableEq, Repr

end Monkey.Log
