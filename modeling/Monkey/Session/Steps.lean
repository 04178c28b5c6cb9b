import Monkey.Session

/-
  A session seen as a list of steps. `steps` lists what a session does on an input if nothing
  stands in its way: prompts and listings are written, flushes made and lines read. `course`
  walks along such a list to the first read or flush that fails, and keeps what is written
  before it.
-/

namespace Monkey.Session

/-- One thing that a session does. -/
inductive Step where
  | write (bytes : Bytes)
  | flush
  | read (fault : Option IoFailure)

/-- The steps of a prompt. -/
def askSteps : List Step := [.write (Utf8.encode ">> "), .flush]

/-- The steps of a line, given without the mark at its end. -/
def lineSteps (line : Bytes) : List Step :=
  match Utf8.decode? line with
  | some text => askSteps ++ [.read none, .write (listing (scan text))]
  | none => askSteps ++ [.read (some .notText)]

/-- The steps behind the last end of a line. -/
def lastSteps (faulty : Bool) (rest : Bytes) : List Step :=
  if faulty then askSteps ++ [.read (some .readFailed)]
  else (if rest.isEmpty then [] else lineSteps rest) ++
    askSteps ++ [.read none, .write (Utf8.encode "\n")]

def steps (input : Input) : List Step :=
  let (lines, rest) := Lines.cut 0x0A input.bytes
  lines.flatMap (fun line => lineSteps (Lines.withoutReturn 0x0D line)) ++
    lastSteps input.faulty rest

/-- What is written before the first fault, the flushes till then, and the fault. -/
structure Course where
  written : Bytes
  flushes : Nat
  fault : Option IoFailure

/-- The course of these steps after `n` flushes, if flush number `failing` is to fail. -/
def course (failing : Option Nat) (n : Nat) : List Step → Course
  | [] => ⟨[], n, none⟩
  | .write bytes :: later =>
    let c := course failing n later
    { c with written := bytes ++ c.written }
  | .flush :: later =>
    if failing = some n then ⟨[], n + 1, some .flushFailed⟩ else course failing (n + 1) later
  | .read (some fault) :: _ => ⟨[], n, some fault⟩
  | .read none :: later => course failing n later

end Monkey.Session
