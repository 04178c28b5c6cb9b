import Monkey.Cursor

/-
  A source that hands out its tokens on demand. `read` always gives an answer, the end of the
  input over and over once all is read. `pull` gives the end of the input once and then nothing,
  and so do `take` and `drain`, which pull several times. Both ways move one cursor, but only
  pulling decides whether the stream is exhausted.
-/

namespace Monkey

/-- A cursor, and whether the end of the input has been pulled. -/
structure TokenStream where
  cursor : Cursor
  exhausted : Bool
deriving DecidableEq, Repr

namespace TokenStream

def ofSource (source : String) : TokenStream := ⟨.start source, false⟩

def read (s : TokenStream) : Reading × TokenStream :=
  let (r, c) := s.cursor.read
  (r, ⟨c, s.exhausted⟩)

def pull (s : TokenStream) : Option Reading × TokenStream :=
  if s.exhausted then (none, s)
  else
    let (r, c) := s.cursor.read
    (some r, ⟨c, r.isEndOfInput⟩)

/-- Pulls until nothing comes, but not more often than this. -/
def take : Nat → TokenStream → List Reading × TokenStream
  | 0, s => ([], s)
  | n + 1, s =>
    match s.pull with
    | (none, s') => ([], s')
    | (some r, s') =>
      let (rs, s'') := take n s'
      (r :: rs, s'')

/-- Pulls until nothing comes. Each token has at least one of the remaining characters, and the
    end of the input is one reading more. -/
def drain (s : TokenStream) : List Reading × TokenStream :=
  s.take (s.cursor.rest.length + 1)

/-- No character is left, not even white space. -/
def atEnd (s : TokenStream) : Bool := s.cursor.atEnd

/-- A question that a stream answers. -/
inductive Call where
  | read
  | pull
  | take (n : Nat)
  | drain
  | atEnd
deriving DecidableEq, Repr

inductive Answer where
  | reading (r : Reading)
  | pulled (r : Option Reading)
  | readings (rs : List Reading)
  | flag (b : Bool)
deriving DecidableEq, Repr

/-- What an answer hands out. -/
def Answer.handedOut : Answer → List Reading
  | reading r => [r]
  | pulled r => r.toList
  | readings rs => rs
  | flag _ => []

def answer (s : TokenStream) : Call → Answer × TokenStream
  | .read => let (r, s') := s.read; (.reading r, s')
  | .pull => let (r, s') := s.pull; (.pulled r, s')
  | .take n => let (rs, s') := s.take n; (.readings rs, s')
  | .drain => let (rs, s') := s.drain; (.readings rs, s')
  | .atEnd => (.flag s.atEnd, s)

/-- Asks one question after the other. -/
def answers (s : TokenStream) : List Call → List Answer × TokenStream
  | [] => ([], s)
  | call :: calls =>
    let (a, s') := s.answer call
    let (as, s'') := s'.answers calls
    (a :: as, s'')

end TokenStream

end Monkey
