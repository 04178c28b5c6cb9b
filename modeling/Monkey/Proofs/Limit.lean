import Monkey.Proofs.Faults

/-
  A listing where there is little room. What is written piece by piece is written as one
  (`writeAll_eq_write`), so a listing fits as a whole, or is cut where the room ends, in the
  middle of a line or of a character if need be (`list_of_hasRoom`, `list_of_lt`). Nothing behind
  the first end of the input counts (`listed_append`). `listing_to_limit` says so of any list of
  tokens and any limit.
-/

namespace Monkey

namespace Token

/-- The pieces in which the line of a token may be written: its form, its tag and its literal. -/
def pieces (t : Token) : List Bytes :=
  ["\x7bType:", t.kind.tag, " Literal:", t.literal, "\x7d", "\n"].map Utf8.encode

theorem flatten_pieces (t : Token) : t.pieces.flatten = t.line := by
  rw [line, render]
  simp only [pieces, Utf8.encode_append, List.map_cons, List.map_nil, List.flatten_cons,
    List.flatten_nil, List.append_assoc, List.append_nil]

end Token

/-- The listed tokens are those in front of the first end of the input. -/
theorem listed_append {before behind : List Token} (hbefore : ∀ t ∈ before, t.kind ≠ .endOfInput)
    (hbehind : ∀ t ∈ behind.head?, t.kind = .endOfInput) : listed (before ++ behind) = before := by
  have hall : ∀ t ∈ before, (!t.isEndOfInput) = true := by
    intro t ht
    simp [Token.isEndOfInput, hbefore t ht]
  have hnone : behind.takeWhile (fun t => !t.isEndOfInput) = [] := by
    cases behind with
    | nil => rfl
    | cons t later => simp [Token.isEndOfInput, hbehind t rfl]
  rw [listed, List.takeWhile_append_of_pos hall, hnone, List.append_nil]

theorem exists_listed (ts : List Token) :
    ∃ behind, ts = listed ts ++ behind ∧ (∀ t ∈ listed ts, t.kind ≠ .endOfInput) ∧
      ∀ t ∈ behind.head?, t.kind = .endOfInput := by
  refine ⟨ts.dropWhile fun t => !t.isEndOfInput, List.takeWhile_append_dropWhile.symm, ?_, ?_⟩
  · intro t ht
    have hall : (listed ts).all (fun t => !t.isEndOfInput) = true := List.all_takeWhile
    simpa [Token.isEndOfInput] using List.all_eq_true.1 hall t ht
  · intro t ht
    have hnot := List.head?_dropWhile_not (fun t : Token => !t.isEndOfInput) ts
    rw [Option.mem_def.1 ht] at hnot
    simpa [Token.isEndOfInput] using hnot

namespace Action

/-! ### Pieces -/

theorem writeAll_append (ps qs : List Bytes) :
    writeAll (ps ++ qs) = (do writeAll ps; writeAll qs) := by
  rw [writeAll_eq, List.map_append, Effect.perform_append, ← writeAll_eq, ← writeAll_eq]

/-- It makes no difference that the line of a token comes in pieces. -/
theorem writeAll_pieces (ts : List Token) :
    writeAll (ts.flatMap Token.pieces) = writeAll (ts.map Token.line) := by
  induction ts with
  | nil => rfl
  | cons t ts ih =>
    have hline : writeAll t.pieces = write t.line := by
      rw [← t.flatten_pieces]
      exact writeAll_cons_eq_write _ _
    rw [List.flatMap_cons, writeAll_append, hline, ih, List.map_cons, writeAll]

/-! ### Room -/

variable {c : Console} {ts : List Token}

theorem writeAll_lines (hc : c.sink.HasRoom 0) (ts : List Token) :
    writeAll ((listed ts).map Token.line) c = write (listing ts) c := by
  rw [writeAll_eq_write hc, listing, List.flatMap_def]

theorem list_of_hasRoom (h : c.sink.HasRoom (listing ts).length) :
    list ts c = .ok (listed ts).length { c with sink := c.sink.keep (listing ts) } := by
  have hwrite := Sink.write_of_hasRoom h
  have hlines : writeAll ((listed ts).map Token.line) c =
      .ok () { c with sink := c.sink.keep (listing ts) } := by
    rw [writeAll_lines (h.mono (Nat.zero_le _)), write_of_fits (by rw [hwrite]), hwrite]
  rw [list_eq_writeAll]
  exact andThen_of_ok hlines

/-- A listing that is too long is cut where the room ends, and no lines are counted. -/
theorem list_of_lt {limit : Nat} (hlimit : c.sink.limit = some limit) (hc : c.sink.HasRoom 0)
    (h : limit < c.sink.kept.size + (listing ts).length) :
    list ts c = .error (.io .pipeClosed)
      { c with sink := c.sink.keep ((listing ts).take (limit - c.sink.kept.size)) } := by
  have hwrite := Sink.write_of_lt hlimit h
  have hlines : writeAll ((listed ts).map Token.line) c = .error (.io .pipeClosed)
      { c with sink := c.sink.keep ((listing ts).take (limit - c.sink.kept.size)) } := by
    rw [writeAll_lines hc, write_of_full (by rw [hwrite]), hwrite]
  rw [list_eq_writeAll]
  exact andThen_of_error hlines

/-- How an action ends on a fresh console that keeps no more bytes than this, and what it has
    written by then. -/
def outcomeWithin {α : Type} (limit : Nat) (act : Action α) : Except Failure α × Bytes :=
  match act.run (Console.fresh (some limit) none) with
  | .ok a c => (.ok a, c.sink.kept.toList)
  | .error e c => (.error e, c.sink.kept.toList)

/-- Of any list of tokens, those in front of the first end of the input are listed, and no others
    matter. If there is room for their lines, they are written and counted, and else as many bytes
    are kept as there is room for, and the listing fails. To write the lines in pieces would be
    the same. -/
theorem listing_to_limit (ts : List Token) (limit : Nat) :
    ∃ before behind lines, ts = before ++ behind ∧ (∀ t ∈ before, t.kind ≠ .endOfInput) ∧
      (∀ t ∈ behind.head?, t.kind = .endOfInput) ∧
      lines = (before.flatMap fun t =>
        Utf8.encode ("\x7bType:" ++ t.kind.tag ++ " Literal:" ++ t.literal ++ "\x7d" ++ "\n")) ∧
      (lines.length ≤ limit → (list ts).outcomeWithin limit = (.ok before.length, lines)) ∧
      (limit < lines.length →
        (list ts).outcomeWithin limit = (.error (.io .pipeClosed), lines.take limit)) ∧
      IoFailure.pipeClosed.kind = .brokenPipe ∧
      (∀ behind', (∀ t ∈ behind'.head?, t.kind = .endOfInput) →
        list (before ++ behind') = list ts) ∧
      list ts = (do
        writeAll (before.flatMap Token.pieces)
        return before.length) := by
  obtain ⟨behind, hts, hbefore, hbehind⟩ := exists_listed ts
  have hempty : (Console.fresh (some limit) none).sink.HasRoom 0 := fun _ _ => Nat.zero_le _
  refine ⟨listed ts, behind, listing ts, hts, hbefore, hbehind, rfl, ?_, ?_, rfl, ?_, ?_⟩
  · intro hle
    have hroom : (Console.fresh (some limit) none).sink.HasRoom (listing ts).length := by
      intro l hl
      obtain rfl : limit = l := Option.some.inj hl
      simpa [Console.fresh] using hle
    simp only [outcomeWithin, EStateM.run, list_of_hasRoom hroom]
    simp [Console.fresh, Sink.keep]
  · intro hlt
    have hfull : limit <
        (Console.fresh (some limit) none).sink.kept.size + (listing ts).length := by
      simpa [Console.fresh] using hlt
    simp only [outcomeWithin, EStateM.run, list_of_lt rfl hempty hfull]
    simp [Console.fresh, Sink.keep]
  · intro behind' hbehind'
    rw [list_eq_writeAll, list_eq_writeAll, listed_append hbefore hbehind']
  · rw [writeAll_pieces, list_eq_writeAll]

/-- A limit may fall into the middle of a character. -/
example : (list [⟨.identifier, "é"⟩]).outcomeWithin 21 =
    (.error (.io .pipeClosed), Utf8.encode "\x7bType:IDENT Literal:" ++ [0xC3]) := rfl

end Action

end Monkey
