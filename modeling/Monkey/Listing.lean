import Monkey.Console
import Monkey.Text.Lines

/-
  The tokens of a source on paper: one line for each, up to the end of the input, which has no
  line. A line is taken apart again at the first space, which no tag has, and at the brace that
  ends it, so whatever a literal holds comes back as it was (`ofLine?_render`), the end of a line
  alone excepted.
-/

namespace Monkey

/-- The tokens before the first end of the input. -/
def listed (ts : List Token) : List Token := ts.takeWhile fun t => !t.isEndOfInput

/-- The bytes of the line that shows a token. -/
def Token.line (t : Token) : Bytes := Utf8.encode (t.render ++ "\n")

/-- The bytes of the lines of all listed tokens. -/
def listing (ts : List Token) : Bytes := (listed ts).flatMap Token.line

namespace Action

/-- Writes one line after the other up to the end of the input, and goes on counting them. -/
def listFrom (written : Nat) : List Token → Action Nat
  | [] => return written
  | t :: later =>
    if t.isEndOfInput then return written
    else do
      write t.line
      listFrom (written + 1) later

/-- Writes the listing line by line, and gives the number of lines. -/
def list (ts : List Token) : Action Nat := listFrom 0 ts

theorem listFrom_eq (written : Nat) (ts : List Token) :
    listFrom written ts = do
      writeAll ((listed ts).map Token.line)
      return written + (listed ts).length := by
  induction ts generalizing written with
  | nil => rfl
  | cons t later ih =>
    rcases hend : t.isEndOfInput with _ | _
    · have hlisted : listed (t :: later) = t :: listed later := by simp [listed, hend]
      have hcount : written + 1 + (listed later).length =
          written + (t :: listed later).length := by
        rw [List.length_cons]
        omega
      rw [listFrom, hend, if_neg Bool.false_ne_true, ih, hlisted, List.map_cons, writeAll, hcount,
        bind_assoc]
    · have hlisted : listed (t :: later) = [] := by simp [listed, hend]
      rw [listFrom, hend, if_pos rfl, hlisted]
      rfl

/-- The lines are counted as they are written, and in the end that is their number. -/
theorem list_eq_writeAll (ts : List Token) :
    list ts = do
      writeAll ((listed ts).map Token.line)
      return (listed ts).length := by
  rw [list, listFrom_eq, Nat.zero_add]

end Action

/-! ### Reading a listing back -/

/-- A tag is one word on one line. -/
theorem Kind.not_isWhitespace_of_mem_tag {k : Kind} {c : Char} (h : c ∈ k.tag.toList) :
    c.isWhitespace = false := by
  have hall : k.tag.toList.all (!·.isWhitespace) = true := by
    cases k with
    | operator o => cases o <;> decide
    | keyword w => cases w <;> decide
    | _ => decide
  simpa using List.all_eq_true.1 hall c h

namespace Token

/-- What follows a given start. -/
def behind? (start line : List Char) : Option (List Char) :=
  if start.isPrefixOf line then some (line.drop start.length) else none

theorem behind?_append (start rest : List Char) : behind? start (start ++ rest) = some rest := by
  simp [behind?]

/-- The token that a line shows, given without the end of the line. -/
def ofLine? (line : List Char) : Option Token := do
  let body ← behind? "\x7bType:".toList line
  let kind ← Kind.ofTag? (String.ofList (body.takeWhile (· != ' ')))
  let literal ← behind? " Literal:".toList (body.dropWhile (· != ' '))
  if literal.getLast? = some '\x7d' then some ⟨kind, String.ofList literal.dropLast⟩ else none

theorem toList_render (t : Token) :
    t.render.toList = "\x7bType:".toList ++ (t.kind.tag.toList ++ (" Literal:".toList ++
      (t.literal.toList ++ ['\x7d']))) := by
  simp [render]

theorem ofLine?_render (t : Token) : ofLine? t.render.toList = some t := by
  obtain ⟨kind, literal⟩ := t
  have htag : ∀ c ∈ kind.tag.toList, (c != ' ') = true := by
    intro c hc
    have hne : c ≠ ' ' := by
      rintro rfl
      exact absurd (Kind.not_isWhitespace_of_mem_tag hc) (by decide)
    simpa using hne
  have hspace : " Literal:".toList = ' ' :: "Literal:".toList := rfl
  have htake : (kind.tag.toList ++ (" Literal:".toList ++ (literal.toList ++ ['\x7d']))).takeWhile
      (· != ' ') = kind.tag.toList := by
    rw [List.takeWhile_append_of_pos htag, hspace]
    simp
  have hdrop : (kind.tag.toList ++ (" Literal:".toList ++ (literal.toList ++ ['\x7d']))).dropWhile
      (· != ' ') = " Literal:".toList ++ (literal.toList ++ ['\x7d']) := by
    rw [List.dropWhile_append_of_pos htag, hspace]
    simp
  rw [toList_render]
  simp only [ofLine?, behind?_append, Option.bind_eq_bind, Option.bind_some, htake, hdrop,
    String.ofList_toList, Kind.ofTag?_tag]
  simp

end Token

/-- The tokens that a listing shows. Its last line has to be ended like the others. -/
def tokensOfListing? (text : List Char) : Option (List Token) :=
  match Lines.cut '\n' text with
  | (lines, []) => lines.mapM Token.ofLine?
  | _ => none

end Monkey
