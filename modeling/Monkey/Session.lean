import Monkey.Cursor
import Monkey.Listing

/-
  An interactive session: a prompt, a line of input, the tokens of that line, and so on until
  the input ends. Each line is read by itself. A line that is no text ends the session, and so
  does a fault of the input, which also swallows a last line that has no end.

  A session can also be held on input that comes piece by piece: `hear` answers the lines that a
  piece ends, and keeps what is behind them for the next piece.
-/

namespace Monkey

/-- The input broke off. -/
def IoFailure.readFailed : IoFailure := described .connectionReset "read failed"

/-- The bytes of an input, and whether reading fails behind the last of them. -/
structure Input where
  bytes : Bytes
  faulty : Bool
deriving DecidableEq, Repr

namespace Input

/-- The text of a line, given without the mark at its end. -/
def text (line : Bytes) : Except IoFailure String :=
  match Utf8.decode? line with
  | some s => .ok s
  | none => .error .notText

/-- What the reads give behind the last end of a line. -/
def lastReads (faulty : Bool) (rest : Bytes) : List (Except IoFailure String) :=
  if faulty then [.error .readFailed]
  else if rest.isEmpty then []
  else [text rest]

/-- What the reads give, one after the other, until there is nothing more. -/
def reads (input : Input) : List (Except IoFailure String) :=
  let (lines, rest) := Lines.cut 0x0A input.bytes
  lines.map (fun line => text (Lines.withoutReturn 0x0D line)) ++ lastReads input.faulty rest

end Input

namespace Session

def prompt : String := ">> "

def ask : Action Unit := do
  Action.write (Utf8.encode prompt)
  Action.flush

/-- Answers one line with its tokens. -/
def answer (line : String) : Action Unit := do
  let ⟨events, ts⟩ := collect line
  Action.report events
  let n ← Action.list ts
  Action.report [.answeredLine n]

/-- The tokens are told before they are listed, and their number behind. -/
theorem answer_eq (line : String) :
    answer line = (do
      Action.report ((lexemes line).flatMap Log.Event.ofLexeme)
      Action.writeAll ((listed (scan line)).map Token.line)
      Action.report [.answeredLine (listed (scan line)).length]) := by
  rw [answer, collect_eq]
  simp only [Action.list_eq_writeAll, bind_assoc, pure_bind]

/-- Turns to what one read gives. -/
def turn : Except IoFailure String → Action Unit
  | .ok line => answer line
  | .error cause => throw (.io cause)

/-- The end of the input gives the last prompt its line end. -/
def close : Action Unit := Action.write (Utf8.encode "\n")

/-- The session on what the reads give. -/
def converse : List (Except IoFailure String) → Action Unit
  | [] => do
    ask
    close
  | r :: later => do
    ask
    turn r
    converse later

def run (input : Input) : Action Unit := converse input.reads

/-! ### Input that comes piece by piece -/

/-- Turns to one read after the other, and asks again behind each. -/
def turns : List (Except IoFailure String) → Action Unit
  | [] => pure ()
  | r :: later => do
    turn r
    ask
    turns later

/-- Answers the lines that a piece of input ends, and gives the bytes that are pending behind
    them. -/
def hear (pending piece : Bytes) : Action Bytes := do
  let (lines, rest) := Lines.cut 0x0A (pending ++ piece)
  turns (lines.map fun line => Input.text (Lines.withoutReturn 0x0D line))
  return rest

/-- What remains to be done behind the last piece. -/
def hearEnd (faulty : Bool) (pending : Bytes) : Action Unit := do
  turns (Input.lastReads faulty pending)
  close

/-- Hears one piece after the other, and then the end. -/
def hearAll (faulty : Bool) (pending : Bytes) : List Bytes → Action Unit
  | [] => hearEnd faulty pending
  | piece :: later => do
    let rest ← hear pending piece
    hearAll faulty rest later

end Session

end Monkey
