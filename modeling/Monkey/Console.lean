import Monkey.Failure
import Monkey.Log

/-
  Where output goes, with all that may go wrong on the way. A sink keeps at most a given number
  of bytes; a write that does not fit leaves what fits and fails. A console is a sink whose
  flushes are counted, of which one may fail, beside a record of events. An action on it ends
  well or with a failure, and in both cases leaves the console as it then is.
-/

namespace Monkey

namespace IoFailure

/-- There is no room for what is written. -/
def pipeClosed : IoFailure := described .brokenPipe "pipe closed"

/-- What was written could not be passed on. -/
def flushFailed : IoFailure := described .timedOut "flush failed"

end IoFailure

/-- The bytes that were written, never more than the limit if there is one. -/
structure Sink where
  limit : Option Nat
  kept : Array UInt8
deriving DecidableEq, Repr

/-- Appends as much as there is room for, and tells whether that was all. -/
def Sink.write (s : Sink) (bytes : Bytes) : Bool × Sink :=
  match s.limit with
  | none => (true, { s with kept := s.kept ++ bytes.toArray })
  | some limit =>
    (decide (s.kept.size + bytes.length ≤ limit),
      { s with kept := s.kept ++ (bytes.take (limit - s.kept.size)).toArray })

/-- Only the sum of what is written counts, not the pieces in which it comes. -/
theorem Sink.write_append {s : Sink} {a : Bytes} (h : (s.write a).1 = true) (b : Bytes) :
    s.write (a ++ b) = (s.write a).2.write b := by
  obtain ⟨limit, kept⟩ := s
  cases limit with
  | none => simp [write, List.append_toArray]
  | some limit =>
    have hfit : kept.size + a.length ≤ limit := by simpa [write] using h
    have htake : a.take (limit - kept.size) = a := List.take_of_length_le (by omega)
    have hrest : limit - kept.size - a.length = limit - (kept.size + a.length) := by omega
    simp only [write, List.length_append, htake, List.take_append, hrest, Array.size_append,
      List.size_toArray, List.append_toArray, Array.append_assoc, Nat.add_assoc]

/-- A sink, the number of flushes so far, the number of the flush that fails, and the events. -/
structure Console where
  sink : Sink
  flushes : Nat
  failingFlush : Option Nat
  events : Array Log.Event

/-- A console on which nothing has been done. -/
def Console.fresh (limit failingFlush : Option Nat) : Console :=
  ⟨⟨limit, #[]⟩, 0, failingFlush, #[]⟩

/-- What is done on a console. -/
abbrev Action := EStateM Failure Console

namespace Action

def write (bytes : Bytes) : Action Unit := fun c =>
  match c.sink.write bytes with
  | (true, sink) => .ok () { c with sink := sink }
  | (false, sink) => .error (.io .pipeClosed) { c with sink := sink }

/-- Writes one piece after the other. -/
def writeAll : List Bytes → Action Unit
  | [] => pure ()
  | bytes :: later => do
    write bytes
    writeAll later

def flush : Action Unit := fun c =>
  let flushed := { c with flushes := c.flushes + 1 }
  if c.failingFlush = some c.flushes then
    .error (.io .flushFailed) flushed
  else .ok () flushed

def report (events : List Log.Event) : Action Unit := fun c =>
  .ok () { c with events := c.events ++ events.toArray }

end Action

end Monkey
