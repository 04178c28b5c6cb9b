import Monkey.Text.Quoted

/-
  What can go wrong, and how it is told. An input or output failure may itself hold a failure;
  it then speaks with the voice of what it holds, and a failure that is nothing but one of input
  or output is transparent in the same way. `causes` follows what lies behind a failure to
  the end, which comes because a cause is part of what it causes (`sizeOf_cause_lt`). `layers`
  takes the failure apart instead: on the way down each failure in it is met once, the outermost
  first.
-/

namespace Monkey

/-- The sort of an input or output failure. -/
inductive IoKind where
  | notFound | permissionDenied | connectionReset | brokenPipe | alreadyExists
  | invalidInput | invalidData | timedOut | writeZero | interrupted | unexpectedEnd
  | isDirectory | notDirectory | invalidFilename | other
deriving DecidableEq, Repr

def IoKind.description : IoKind → String
  | notFound => "entity not found"
  | permissionDenied => "permission denied"
  | connectionReset => "connection reset"
  | brokenPipe => "broken pipe"
  | alreadyExists => "entity already exists"
  | invalidInput => "invalid input parameter"
  | invalidData => "invalid data"
  | timedOut => "timed out"
  | writeZero => "write zero"
  | interrupted => "operation interrupted"
  | unexpectedEnd => "unexpected end of file"
  | isDirectory => "is a directory"
  | notDirectory => "not a directory"
  | invalidFilename => "invalid filename"
  | other => "other error"

mutual

/-- A failure of the library. -/
inductive Failure where
  | unreadableSource (path : Bytes) (cause : IoFailure)
  | io (cause : IoFailure)
  | illegalCharacters (count : Nat) (first : String)

/-- A failure of input or output: of a sort, and perhaps with words of its own, or with
    another failure inside. -/
inductive IoFailure where
  | bare (kind : IoKind)
  | described (kind : IoKind) (text : String)
  | wrapping (kind : IoKind) (inner : Failure)

end

namespace IoFailure

def kind : IoFailure → IoKind
  | bare k => k
  | described k _ => k
  | wrapping k _ => k

/-- Bytes that should have been a text are none. -/
def notText : IoFailure := described .invalidData "stream did not contain valid UTF-8"

end IoFailure

mutual

def Failure.message : Failure → String
  | .unreadableSource path _ => "failed to read source file " ++ Quoted.ofBytes path
  | .io cause => cause.message
  | .illegalCharacters count _ => toString count ++ " illegal character(s) in source"

def IoFailure.message : IoFailure → String
  | .bare kind => kind.description
  | .described _ text => text
  | .wrapping _ inner => inner.message

end

mutual

/-- What lies directly behind a failure. -/
def Failure.cause? : Failure → Option IoFailure
  | .unreadableSource _ cause => some cause
  | .io cause => cause.cause?
  | .illegalCharacters _ _ => none

def IoFailure.cause? : IoFailure → Option IoFailure
  | .bare _ => none
  | .described _ _ => none
  | .wrapping _ inner => inner.cause?

end

mutual

theorem Failure.sizeOf_cause_lt {c : IoFailure} :
    ∀ {f : Failure}, f.cause? = some c → sizeOf c < sizeOf f
  | .unreadableSource _ cause, h => by
    simp only [Failure.cause?, Option.some.injEq] at h
    subst h
    simp only [Failure.unreadableSource.sizeOf_spec]
    omega
  | .io cause, h => by
    have := IoFailure.sizeOf_cause_lt (f := cause) h
    simp only [Failure.io.sizeOf_spec]
    omega
  | .illegalCharacters _ _, h => by simp [Failure.cause?] at h

theorem IoFailure.sizeOf_cause_lt {c : IoFailure} :
    ∀ {f : IoFailure}, f.cause? = some c → sizeOf c < sizeOf f
  | .bare _, h => by simp [IoFailure.cause?] at h
  | .described _ _, h => by simp [IoFailure.cause?] at h
  | .wrapping _ inner, h => by
    have := Failure.sizeOf_cause_lt (f := inner) h
    simp only [IoFailure.wrapping.sizeOf_spec]
    omega

end

/-- This failure and all that lies behind it, one behind the other. -/
def IoFailure.chain (f : IoFailure) : List IoFailure :=
  match _h : f.cause? with
  | some c => f :: c.chain
  | none => [f]
termination_by sizeOf f
decreasing_by exact IoFailure.sizeOf_cause_lt _h

namespace Failure

/-- All that lies behind a failure, the nearest first. -/
def causes (f : Failure) : List IoFailure :=
  match f.cause? with
  | some c => c.chain
  | none => []

def name : Failure → String
  | unreadableSource _ _ => "SourceRead"
  | io _ => "Io"
  | illegalCharacters _ _ => "IllegalCharacters"

/-- What the user may look into. -/
def tip? : Failure → Option String
  | unreadableSource path _ =>
    some ("Could not read `" ++ Utf8.lossy path ++
      "`, does the file exist and contain UTF-8 text?")
  | io _ => none
  | illegalCharacters count first =>
    some ("Found " ++ toString count ++ " illegal character(s), the first being `" ++ first ++
      "`")

/-- A failure on one line: its name, and the tip if there is one, else the message. -/
def line (f : Failure) : String :=
  "Error: " ++ f.name ++ " (" ++ f.tip?.getD f.message ++ ")"

end Failure

/-! ### Layers -/

mutual

/-- The failures met on the way down, this one included. -/
def Failure.layers : Failure → List Failure
  | .unreadableSource path cause => .unreadableSource path cause :: cause.layers
  | .io cause => .io cause :: cause.layers
  | .illegalCharacters count first => [.illegalCharacters count first]

def IoFailure.layers : IoFailure → List Failure
  | .bare _ => []
  | .described _ _ => []
  | .wrapping _ inner => inner.layers

end

/-- The cause that a layer adds to those behind it. -/
def Failure.ownCause? : Failure → Option IoFailure
  | .unreadableSource _ cause => some cause
  | .io _ => none
  | .illegalCharacters _ _ => none

end Monkey
