import Monkey.CharClass
import Monkey.Log

/-
  A cursor walks over a source and reads one token at a time. `read` skips white space and then
  takes the longest run of letters or digits, the longest operator, or one foreign character.
  It never looks further than one character beyond the token that it takes, and each token
  takes at least one character (`read_shortens`), so reading a source comes to an end.

  Reading tells of each token, and of a foreign character also before it is passed. What is told
  depends on nothing but the reading (`readTold_eq`), so `scan` and `tokenize`, which read a whole
  source, tell of its lexemes one after the other (`collect_eq`).
-/

namespace Monkey

open Log (Event Told)

/-- A place in a source: the number of characters passed, and the characters to come. -/
structure Cursor where
  position : Nat
  rest : List Char
deriving DecidableEq, Repr

/-- A token and the position in its source at which it begins, counted in characters. -/
structure Lexeme where
  token : Token
  start : Nat
deriving DecidableEq, Repr

/-- The position just behind the last character. -/
def Lexeme.stop (l : Lexeme) : Nat := l.start + l.token.literal.length

/-- What a cursor finds: the next lexeme, or white space only. -/
inductive Reading where
  | lexeme (l : Lexeme)
  | endOfInput
deriving DecidableEq, Repr

namespace Reading

def token : Reading → Token
  | lexeme l => l.token
  | endOfInput => .endOfInput

def isEndOfInput : Reading → Bool
  | lexeme _ => false
  | endOfInput => true

end Reading

namespace Cursor

def start (source : String) : Cursor := ⟨0, source.toList⟩

def current? (c : Cursor) : Option Char := c.rest.head?

/-- The character behind the current one. -/
def peek? (c : Cursor) : Option Char := c.rest[1]?

def atEnd (c : Cursor) : Bool := c.rest.isEmpty

/-- Passes one character, and stays where it is at the end. -/
def advance (c : Cursor) : Cursor :=
  match c.rest with
  | [] => c
  | _ :: rest => ⟨c.position + 1, rest⟩

/-- Passes the longest run of characters that satisfy a predicate. -/
def run (p : Char → Bool) (c : Cursor) : List Char × Cursor :=
  (c.rest.takeWhile p, ⟨c.position + (c.rest.takeWhile p).length, c.rest.dropWhile p⟩)

def skipSpaces (c : Cursor) : Cursor := (c.run isSpace).2

/-- A run of letters: a reserved word or an identifier. -/
def word (c : Cursor) : Token × Cursor :=
  let (letters, c') := c.run isLetter
  (⟨.ofWord (String.ofList letters), String.ofList letters⟩, c')

def number (c : Cursor) : Token × Cursor :=
  let (digits, c') := c.run isDigit
  (⟨.integer, String.ofList digits⟩, c')

/-- The operator that the current character stands for, or the longer one that it makes with
    an equals sign behind it. -/
def operator (o : Operator) (c : Cursor) : Token × Cursor :=
  match o.withEquals? with
  | some p =>
    if c.peek? = some '=' then (⟨.operator p, p.spelling⟩, c.advance.advance)
    else (⟨.operator o, o.spelling⟩, c.advance)
  | none => (⟨.operator o, o.spelling⟩, c.advance)

/-- The current character as a token that the language does not have. -/
def foreign (ch : Char) (c : Cursor) : Token × Cursor :=
  (⟨.illegal, String.singleton ch⟩, c.advance)

/-- Reads a token from a cursor whose current character `ch` is not white space. A foreign
    character is told with the place at which it stands. -/
def munchTold (ch : Char) (c : Cursor) : Told (Token × Cursor) :=
  match CharClass.of ch with
  | .letter => ⟨[], c.word⟩
  | .digit => ⟨[], c.number⟩
  | .operator o => ⟨[], c.operator o⟩
  | .space | .other => ⟨[.illegalCharacter ch c.position], c.foreign ch⟩

def munch (ch : Char) (c : Cursor) : Token × Cursor := (c.munchTold ch).value

/-- Skips white space and reads a token, which is told when it has been read. The end of the input
    is read in silence. -/
def readTold (c : Cursor) : Told (Reading × Cursor) :=
  let c := c.skipSpaces
  match c.current? with
  | none => ⟨[], .endOfInput, c⟩
  | some ch =>
    let ⟨events, t, c'⟩ := c.munchTold ch
    ⟨events ++ [.token t], .lexeme ⟨t, c.position⟩, c'⟩

def read (c : Cursor) : Reading × Cursor := c.readTold.value

theorem munch_eq (ch : Char) (c : Cursor) :
    c.munch ch =
      match CharClass.of ch with
      | .letter => c.word
      | .digit => c.number
      | .operator o => c.operator o
      | .space | .other => c.foreign ch := by
  unfold munch munchTold
  split <;> rfl

theorem read_eq (c : Cursor) :
    c.read =
      match c.skipSpaces.current? with
      | none => (.endOfInput, c.skipSpaces)
      | some ch =>
        (.lexeme ⟨(c.skipSpaces.munch ch).1, c.skipSpaces.position⟩,
          (c.skipSpaces.munch ch).2) := by
  unfold read readTold
  dsimp only
  split <;> rfl

/-- A lexeme begins behind the white space that is skipped. -/
theorem start_of_read {c : Cursor} {l : Lexeme} (h : c.read.1 = .lexeme l) :
    l.start = c.skipSpaces.position := by
  rw [read_eq] at h
  split at h
  · exact absurd h (by simp)
  · rw [← Reading.lexeme.inj h]

theorem length_rest_advance (c : Cursor) : c.advance.rest.length = c.rest.length - 1 := by
  unfold advance
  split <;> simp_all

theorem length_rest_run (p : Char → Bool) (c : Cursor) :
    (c.run p).2.rest.length ≤ c.rest.length :=
  (List.dropWhile_sublist p).length_le

theorem length_rest_run_lt {p : Char → Bool} {c : Cursor} {ch : Char}
    (hc : c.current? = some ch) (hp : p ch = true) :
    (c.run p).2.rest.length < c.rest.length := by
  obtain ⟨position, rest⟩ := c
  cases rest with
  | nil => simp [current?] at hc
  | cons a rest =>
    simp only [current?, List.head?_cons, Option.some.injEq] at hc
    subst hc
    have := (List.dropWhile_sublist p (l := rest)).length_le
    simp only [run, List.dropWhile_cons, hp, if_true, List.length_cons]
    omega

theorem length_rest_pos {c : Cursor} {ch : Char} (hc : c.current? = some ch) :
    0 < c.rest.length := by
  obtain ⟨position, rest⟩ := c
  cases rest with
  | nil => simp [current?] at hc
  | cons a rest => simp

theorem length_rest_munch {c : Cursor} {ch : Char} (hc : c.current? = some ch) :
    (c.munch ch).2.rest.length < c.rest.length := by
  have hpos := length_rest_pos hc
  have h1 := length_rest_advance c
  have h2 := length_rest_advance c.advance
  rw [munch_eq]
  split
  · next h => exact length_rest_run_lt hc (by simp [isLetter, h])
  · next h => exact length_rest_run_lt hc (by simp [isDigit, h])
  · unfold operator
    split
    · split <;> simp only <;> omega
    · simp only; omega
  all_goals simp only [foreign]; omega

/-- A lexeme takes at least one character. -/
theorem read_shortens {c c' : Cursor} {l : Lexeme} (h : c.read = (.lexeme l, c')) :
    c'.rest.length < c.rest.length := by
  have hskip : c.skipSpaces.rest.length ≤ c.rest.length := length_rest_run isSpace c
  rw [read_eq] at h
  split at h
  · simp at h
  · next ch hc =>
    have := length_rest_munch hc
    simp only [Prod.mk.injEq] at h
    rw [← h.2]
    omega

theorem read_of_readTold {c c' : Cursor} {events : List Event} {r : Reading}
    (h : c.readTold = ⟨events, r, c'⟩) : c.read = (r, c') := by
  rw [read, h]

/-- Each reading comes with what is told of it. -/
theorem exists_readTold {c c' : Cursor} {r : Reading} (h : c.read = (r, c')) :
    ∃ events, c.readTold = ⟨events, r, c'⟩ := by
  refine ⟨c.readTold.events, ?_⟩
  rw [← h]
  rfl

/-- The lexemes from here to the end of the source. -/
def lexemesTold (c : Cursor) : Told (List Lexeme) :=
  match _h : c.readTold with
  | ⟨events, .lexeme l, c'⟩ => ⟨events ++ c'.lexemesTold.events, l :: c'.lexemesTold.value⟩
  | ⟨events, .endOfInput, _⟩ => ⟨events, []⟩
termination_by c.rest.length
decreasing_by all_goals exact read_shortens (read_of_readTold _h)

def lexemes (c : Cursor) : List Lexeme := c.lexemesTold.value

theorem lexemes_of_read_lexeme {c c' : Cursor} {l : Lexeme} (h : c.read = (.lexeme l, c')) :
    c.lexemes = l :: c'.lexemes := by
  obtain ⟨events, htold⟩ := exists_readTold h
  rw [lexemes, lexemesTold, htold]
  rfl

theorem lexemes_of_read_endOfInput {c c' : Cursor} (h : c.read = (.endOfInput, c')) :
    c.lexemes = [] := by
  obtain ⟨events, htold⟩ := exists_readTold h
  rw [lexemes, lexemesTold, htold]

end Cursor

/-! ### Whole sources -/

/-- The lexemes of a source, each with its place in it. -/
def lexemes (source : String) : List Lexeme := (Cursor.start source).lexemes

/-- The tokens of a source, the end of the input among them. -/
def scan (source : String) : List Token :=
  (lexemes source).map Lexeme.token ++ [.endOfInput]

/-- The tokens of a source with all that is told while they are read one by one. -/
def collect (source : String) : Told (List Token) :=
  let ⟨events, ls⟩ := (Cursor.start source).lexemesTold
  ⟨events, ls.map Lexeme.token ++ [.endOfInput]⟩

/-- The tokens of a source, and at last their number is told. -/
def tokenize (source : String) : Told (List Token) :=
  let ⟨events, ts⟩ := collect source
  ⟨events ++ [.scannedSource ts.length], ts⟩

/-! ### What is told -/

namespace Log.Event

/-- The events of reading a lexeme: each character of an illegal one, and the token. -/
def ofLexeme (l : Lexeme) : List Event :=
  match l.token.kind with
  | .illegal => l.token.literal.toList.map (illegalCharacter · l.start) ++ [token l.token]
  | _ => [token l.token]

/-- The end of the input is read in silence. -/
def ofReading : Reading → List Event
  | .lexeme l => ofLexeme l
  | .endOfInput => []

/-- The events of the scan of a whole source. -/
def ofSource (source : String) : List Event := (tokenize source).events

theorem ofLexeme_of_kind_ne {t : Token} (h : t.kind ≠ .illegal) (n : Nat) :
    ofLexeme ⟨t, n⟩ = [token t] := by
  unfold ofLexeme
  split
  · next hkind => exact absurd hkind h
  · rfl

end Log.Event

namespace Cursor

theorem kind_operator_ne (o : Operator) (c : Cursor) : (c.operator o).1.kind ≠ .illegal := by
  unfold operator
  split
  · split <;> simp
  · simp

theorem kind_word_ne (c : Cursor) : c.word.1.kind ≠ .illegal := by
  intro h
  have hword : c.word.1.kind.isWord = true := Kind.isWord_ofWord _
  rw [h] at hword
  exact absurd hword (by decide)

/-- Only a foreign character is told before its token. -/
theorem events_munchTold (ch : Char) (c : Cursor) :
    (c.munchTold ch).events ++ [.token (c.munch ch).1] =
      Event.ofLexeme ⟨(c.munch ch).1, c.position⟩ := by
  unfold munch munchTold
  split
  · exact (Event.ofLexeme_of_kind_ne c.kind_word_ne _).symm
  · rfl
  · exact (Event.ofLexeme_of_kind_ne (c.kind_operator_ne _) _).symm
  all_goals simp [foreign, Event.ofLexeme]

/-- What is told follows from what is read. -/
theorem readTold_eq (c : Cursor) : c.readTold = ⟨Event.ofReading c.read.1, c.read⟩ := by
  rw [read_eq]
  unfold readTold
  dsimp only
  split
  · rfl
  · next ch _ =>
    rw [Event.ofReading, ← events_munchTold]
    rfl

theorem lexemesTold_eq (c : Cursor) :
    c.lexemesTold = ⟨c.lexemes.flatMap Event.ofLexeme, c.lexemes⟩ := by
  have htold := c.readTold_eq
  rcases hread : c.read with ⟨l | _, c'⟩
  · rw [hread] at htold
    rw [lexemes_of_read_lexeme hread, lexemesTold, htold]
    simp only [lexemesTold_eq c']
    rfl
  · rw [hread] at htold
    rw [lexemes_of_read_endOfInput hread, lexemesTold, htold]
    rfl
termination_by c.rest.length
decreasing_by exact read_shortens hread

end Cursor

theorem collect_eq (source : String) :
    collect source = ⟨(lexemes source).flatMap Event.ofLexeme, scan source⟩ := by
  rw [collect, Cursor.lexemesTold_eq]
  rfl

end Monkey
