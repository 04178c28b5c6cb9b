import Monkey.Cursor
import Monkey.Failure

/-
  Sources from files. How the bytes of a path are found is a parameter; bytes that are no text make
  the source as unreadable as bytes that cannot be had. Whether a source is legal is asked of its
  tokens: all of them count, and the first illegal one is the one that is told.
-/

namespace Monkey

namespace SourceFile

/-- The text under a path. -/
def read (contents : Bytes → Except IoFailure Bytes) (path : Bytes) : Except Failure String :=
  match contents path with
  | .error cause => .error (.unreadableSource path cause)
  | .ok bytes =>
    match Utf8.decode? bytes with
    | none => .error (.unreadableSource path .notText)
    | some text => .ok text

/-- The tokens of the text under a path, with all that is told of reading and scanning it. -/
def tokenize (contents : Bytes → Except IoFailure Bytes) (path : Bytes) :
    Except Failure (Log.Told (List Token)) := do
  let text ← read contents path
  let ⟨events, ts⟩ := Monkey.tokenize text
  return ⟨.readSource path text.length :: events, ts⟩

variable {contents : Bytes → Except IoFailure Bytes} {path : Bytes}

theorem tokenize_of_text {text : String} (h : contents path = .ok (Utf8.encode text)) :
    tokenize contents path =
      .ok ⟨.readSource path text.length :: Log.Event.ofSource text, scan text⟩ := by
  have hread : read contents path = .ok text := by simp only [read, h, Utf8.decode?_encode]
  rw [tokenize, hread]
  rfl

theorem tokenize_of_not_text {bytes : Bytes} (h : contents path = .ok bytes)
    (hnone : Utf8.decode? bytes = none) :
    tokenize contents path = .error (.unreadableSource path .notText) := by
  have hread : read contents path = .error (.unreadableSource path .notText) := by
    simp only [read, h, hnone]
  rw [tokenize, hread]
  rfl

/-- What is no text makes the source unreadable, whether its bytes can be had or not. -/
theorem tokenize_of_no_text
    (h : ∀ text, contents path ≠ .ok (Utf8.encode text)) :
    ∃ cause, tokenize contents path = .error (.unreadableSource path cause) := by
  rcases hbytes : contents path with cause | bytes
  · have hread : read contents path = .error (.unreadableSource path cause) := by
      simp only [read, hbytes]
    refine ⟨cause, ?_⟩
    rw [tokenize, hread]
    rfl
  · rcases htext : Utf8.decode? bytes with _ | text
    · exact ⟨.notText, tokenize_of_not_text hbytes htext⟩
    · rw [Utf8.decode?_eq_some_iff] at htext
      exact absurd (htext ▸ hbytes) (h text)

end SourceFile

/-- Fails if there are illegal tokens, with their number and the literal of the first. -/
def checkLegal (ts : List Token) : Except Failure Unit :=
  match ts.filter Token.isIllegal with
  | [] => .ok ()
  | first :: later => .error (.illegalCharacters (later.length + 1) first.literal)

end Monkey
