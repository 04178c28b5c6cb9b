import Monkey.Command

/-
  The program on a real system. What it does is said by `Command` and `Session`; this module brings
  in the files and the input, and carries out what has been decided. It is given the options of an
  accepted command line, the filter of the log, and what is to be done with an event that is shown.

  A session is heard piece by piece, as the input comes, so that each line is answered when it has
  been typed. By `Session.run_eq_hearAll` the pieces do not show.
-/

namespace Monkey.Program

open Monkey.Command

/-- What the system reports, by its number. -/
def ofSystem (e : IO.Error) : IoFailure :=
  match e with
  | .noFileOrDirectory _ _ _ => .described .notFound (toString e)
  | .permissionDenied _ _ _ => .described .permissionDenied (toString e)
  | .inappropriateType _ 21 _ => .described .isDirectory (toString e)
  | .inappropriateType _ _ _ => .described .notDirectory (toString e)
  | .invalidArgument _ 36 _ => .described .invalidFilename (toString e)
  | .invalidArgument _ _ _ => .described .invalidInput (toString e)
  | _ => .described .other (toString e)

/-- Where the events go that are shown. -/
structure Log where
  filter : Monkey.Log.Filter
  write : Monkey.Log.Event → IO Unit

/-- Carries out an action: writes its output, shows its events, and tells how it ended. -/
def perform {α : Type} (log : Log) (act : Action α) : IO (Except Failure α) := do
  let (result, console) : Except Failure α × Console :=
    match act.run (.fresh none none) with
    | .ok a c => (.ok a, c)
    | .error e c => (.error e, c)
  let out ← IO.getStdout
  out.write ⟨console.sink.kept⟩
  out.flush
  for e in console.events do
    if log.filter e then log.write e
  return result

/-- Hears the input to its end. -/
partial def converse (log : Log) (input : IO.FS.Stream) (pending : Bytes) :
    IO (Except Failure Unit) := do
  let piece ← input.read 4096
  if piece.isEmpty then perform log (Session.hearEnd false pending)
  else
    match ← perform log (Session.hear pending piece.data.toList) with
    | .ok rest => converse log input rest
    | .error e => return .error e

/-- Greets and holds a session. -/
def hold (log : Log) : IO (Except Failure Unit) := do
  let _ ← perform log (do greet; Session.ask)
  try converse log (← IO.getStdin) []
  catch e => perform log (Session.turn (.error (ofSystem e)))

/-- Lists a source file, whose path has to be a text here. -/
def list (log : Log) (path : Bytes) (strict : Bool) : IO (Except Failure Unit) := do
  let contents : Except IoFailure Bytes ←
    match Utf8.decode? path with
    | none => pure (.error (.bare .invalidFilename))
    | some name =>
      try
        let bytes ← IO.FS.readBinFile name
        pure (.ok bytes.data.toList)
      catch e => pure (.error (ofSystem e))
  perform log (listFile (fun _ => contents) path strict)

/-- Runs the program and gives the exit code. -/
def run (log : Log) (o : Options) : IO UInt32 := do
  let result ← match o.path? with
    | some path => list log path o.strict
    | none => hold log
  match result with
  | .ok () => return 0
  | .error e =>
    IO.eprintln e.line
    return 1

end Monkey.Program
