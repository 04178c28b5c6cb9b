import Monkey.TokenStream

/-
  A script drives any number of streams, in any order. Streams are numbered as they come to be,
  each from a source or as a copy of another. A step changes at most the stream that it names.

  The history of a stream is the source that it began with and the calls that have led to its
  place. A copy takes over the history of what it was copied from. `histories` reads the histories
  off a script without running it.
-/

namespace Monkey.TokenStream

/-- A step of a script; `on` is the number of the stream that it uses. -/
inductive Step where
  | fresh (source : String)
  | copy (on : Nat)
  | call (on : Nat) (c : Call)
deriving DecidableEq, Repr

/-- What comes of a step: the number of the new stream, or the answer of the one that was asked. -/
inductive Outcome where
  | made (number : Nat)
  | answered (a : Answer)
deriving DecidableEq, Repr

/-- One step over the streams made so far. A step on a number that no stream has is refused. -/
def step (streams : List TokenStream) : Step → Option (Outcome × List TokenStream)
  | .fresh source => some (.made streams.length, streams ++ [ofSource source])
  | .copy on => do
    let s ← streams[on]?
    some (.made streams.length, streams ++ [s])
  | .call on c => do
    let s ← streams[on]?
    let (a, s') := s.answer c
    some (.answered a, streams.set on s')

def script (streams : List TokenStream) : List Step → Option (List Outcome × List TokenStream)
  | [] => some ([], streams)
  | first :: later => do
    let (o, streams') ← step streams first
    let (os, streams'') ← script streams' later
    some (o :: os, streams'')

/-! ### Histories -/

/-- A source, and the calls on a stream over it. -/
structure History where
  source : String
  calls : List Call
deriving DecidableEq, Repr

namespace History

/-- The stream that these calls lead to. -/
def stream (h : History) : TokenStream := ((ofSource h.source).answers h.calls).2

/-- The answer to one call more. -/
def nextAnswer (h : History) (c : Call) : Answer := (h.stream.answer c).1

end History

/-- The histories after one more step. -/
def record (hs : List History) : Step → List History
  | .fresh source => hs ++ [⟨source, []⟩]
  | .copy on => hs ++ hs[on]?.toList
  | .call on c => hs.modify on fun h => { h with calls := h.calls ++ [c] }

/-- The histories of the streams of a script. -/
def histories (steps : List Step) : List History := steps.foldl record []

end Monkey.TokenStream
