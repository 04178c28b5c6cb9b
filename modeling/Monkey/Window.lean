import Monkey.TokenStream

/-
  A window on a source shows one character. Beside the character it keeps its own position and the
  position of the character behind it, so each of the three could be told from the others, as long
  as all moves keep them in step. A run is cut out of the source between two positions, and that
  fails if they are out of order or if the second one is behind the end (`slice?`). So a move that
  cuts something out may fail. `stream` forgets all but what a stream knows: the position, and
  the characters from there on.
-/

namespace Monkey

/-- A source with the character that is shown of it. The end of a source shows no character. -/
structure Window where
  source : List Char
  position : Nat
  nextPosition : Nat
  current? : Option Char
  /-- The end of the input has been pulled. -/
  exhausted : Bool
deriving DecidableEq, Repr

namespace Window

/-- Shows the next character. Behind the last one the window is parked, its position at the end
    of the source and the next position one further, wherever they were before. -/
def advance (w : Window) : Window :=
  match w.source[w.nextPosition]? with
  | some c =>
    { w with position := w.nextPosition, nextPosition := w.nextPosition + 1, current? := some c }
  | none =>
    { w with position := w.source.length, nextPosition := w.source.length + 1, current? := none }

def ofSource (source : String) : Window := advance ⟨source.toList, 0, 0, none, false⟩

/-- The character behind the one that is shown. -/
def peek? (w : Window) : Option Char := w.source[w.nextPosition]?

/-- How often a window can advance before it shows nothing, at most. -/
def left (w : Window) : Nat := w.current?.toList.length + (w.source.length + 1 - w.nextPosition)

theorem left_advance_lt {w : Window} {c : Char} (h : w.current? = some c) :
    w.advance.left < w.left := by
  unfold advance
  split
  · next d hd =>
    have hlt : w.nextPosition < w.source.length := (List.getElem?_eq_some_iff.1 hd).1
    simp only [left, h, Option.toList_some, List.length_singleton]
    omega
  · simp only [left, h, Option.toList_some, Option.toList_none, List.length_singleton,
      List.length_nil]
    omega

/-- Advances as long as the character that is shown satisfies a predicate. -/
def passWhile (p : Char → Bool) (w : Window) : Window :=
  match _h : w.current? with
  | some c => if p c then w.advance.passWhile p else w
  | none => w
termination_by w.left
decreasing_by exact left_advance_lt _h

def skipSpaces (w : Window) : Window := w.passWhile isSpace

/-- The characters of the source from one position up to another. -/
def slice? (w : Window) (first last : Nat) : Option (List Char) :=
  if first ≤ last ∧ last ≤ w.source.length then some (w.source.extract first last) else none

/-- Passes the characters that satisfy a predicate and cuts out what has been passed. -/
def run (p : Char → Bool) (w : Window) : Option (String × Window) := do
  let w' := w.passWhile p
  let text ← w'.slice? w.position w'.position
  return (String.ofList text, w')

/-- This character as a token. -/
def single (current : Char) (kind : Kind) (w : Window) : Token × Window :=
  (⟨kind, String.singleton current⟩, w.advance)

/-- This character and a second one as a token, if the second one comes next, and otherwise this
    character alone. -/
def either (current second : Char) (alone paired : Kind) (w : Window) : Token × Window :=
  if w.peek? = some second then
    (⟨paired, String.ofList [current, second]⟩, w.advance.advance)
  else w.single current alone

/-- Takes a token at a character `ch` that is not white space. -/
def munch (ch : Char) (w : Window) : Option (Token × Window) :=
  match CharClass.of ch with
  | .letter => do
    let (letters, w') ← w.run isLetter
    return (⟨.ofWord letters, letters⟩, w')
  | .digit => do
    let (digits, w') ← w.run isDigit
    return (⟨.integer, digits⟩, w')
  | .operator o =>
    match o.withEquals? with
    | some p => some (w.either ch '=' (.operator o) (.operator p))
    | none => some (w.single ch (.operator o))
  | .space | .other => some (w.single ch .illegal)

def read (w : Window) : Option (Token × Window) :=
  let w := w.skipSpaces
  match w.current? with
  | none => some (.endOfInput, w)
  | some ch => w.munch ch

def pull (w : Window) : Option (Option Token × Window) :=
  if w.exhausted then some (none, w)
  else do
    let (t, w') ← w.read
    return (some t, { w' with exhausted := t.isEndOfInput })

/-- What can be done to a window. -/
inductive Move where
  | advance
  | skipSpaces
  | run (p : Char → Bool)
  | either (current second : Char) (alone paired : Kind)
  | single (current : Char) (kind : Kind)
  | read
  | pull

/-- The window behind a move. -/
def move (w : Window) : Move → Option Window
  | .advance => some w.advance
  | .skipSpaces => some w.skipSpaces
  | .run p => (w.run p).map Prod.snd
  | .either current second alone paired => some (w.either current second alone paired).2
  | .single current kind => some (w.single current kind).2
  | .read => w.read.map Prod.snd
  | .pull => w.pull.map Prod.snd

/-- The window behind one move after the other. -/
def moves (w : Window) : List Move → Option Window
  | [] => some w
  | m :: ms => do
    let w' ← w.move m
    w'.moves ms

/-- The cursor that has the characters from here on. -/
def cursor (w : Window) : Cursor := ⟨w.position, w.source.drop w.position⟩

def stream (w : Window) : TokenStream := ⟨w.cursor, w.exhausted⟩

/-- The stream behind a move, which has only its cursor to move. -/
def Move.onStream (s : TokenStream) : Move → TokenStream
  | .advance => ⟨s.cursor.advance, s.exhausted⟩
  | .skipSpaces => ⟨s.cursor.skipSpaces, s.exhausted⟩
  | .run p => ⟨(s.cursor.run p).2, s.exhausted⟩
  | .either _ second _ _ =>
    ⟨if s.cursor.peek? = some second then s.cursor.advance.advance else s.cursor.advance,
      s.exhausted⟩
  | .single _ _ => ⟨s.cursor.advance, s.exhausted⟩
  | .read => s.read.2
  | .pull => s.pull.2

end Window

end Monkey
