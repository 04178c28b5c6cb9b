import Monkey.Session
import Monkey.SourceFile

/-
  A run of the program with options that have been accepted, and what it leaves behind: the exit
  code, the bytes of its output, the events that its log shows, and the line that tells of a
  failure. With a path it lists the tokens of that source, and only then, if it is to be strict,
  fails on illegal ones. Without a path it greets and holds a session.

  How a command line is taken apart, which filters there are for the log, and how an event looks
  on a line are not decided here.
-/

namespace Monkey.Command

/-- What a command line asks for. -/
structure Options where
  path? : Option Bytes
  strict : Bool
  verbose : Bool
deriving DecidableEq, Repr

/-- What a run finds around it. -/
structure Surroundings where
  /-- The bytes under a path. -/
  contents : Bytes → Except IoFailure Bytes
  input : Input
  /-- The filter that a text stands for. -/
  filterOf : String → Log.Filter
  /-- The filter that the environment asks for, if it does and can be understood. -/
  environmentFilter? : Option Log.Filter

/-- What a run leaves behind. -/
structure Outcome where
  code : Nat
  output : Bytes
  log : List Log.Event
  /-- What is told of a failure, behind the log. -/
  error : String
deriving DecidableEq, Repr

def greeting : String :=
  "Hello! This is the Monkey programming language!\nFeel free to type in commands\n"

/-- Goes on with a value, or fails. -/
def orFail {α : Type} : Except Failure α → Action α
  | .ok a => pure a
  | .error e => throw e

/-- Lists the tokens of a source file. -/
def listFile (contents : Bytes → Except IoFailure Bytes) (path : Bytes) (strict : Bool) :
    Action Unit := do
  let ⟨events, ts⟩ ← orFail (SourceFile.tokenize contents path)
  Action.report events
  let _ ← Action.list ts
  if strict then orFail (checkLegal ts)

def greet : Action Unit := Action.write (Utf8.encode greeting)

def act (s : Surroundings) (o : Options) : Action Unit :=
  match o.path? with
  | some path => listFile s.contents path o.strict
  | none => do
    greet
    Session.run s.input

/-- The filter of the log. Verbosity overrides the environment. -/
def filter (s : Surroundings) (o : Options) : Log.Filter :=
  if o.verbose then s.filterOf "debug" else s.environmentFilter?.getD (s.filterOf "warn")

def run (s : Surroundings) (o : Options) : Outcome :=
  match (act s o).run (Console.fresh none none) with
  | .ok () c => ⟨0, c.sink.kept.toList, c.events.toList.filter (filter s o), ""⟩
  | .error e c =>
    ⟨1, c.sink.kept.toList, c.events.toList.filter (filter s o), e.line ++ "\n"⟩

end Monkey.Command
