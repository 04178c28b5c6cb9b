import Monkey.Proofs.Fragments

/-
  What the tokens leave out of a source. One reading passes white space and then the literal of
  its token, and stops right behind it (`read_passes`). From this, by induction on the number of
  readings, the literals together are all that was passed, without the white space in it
  (`exists_covered`): the literal of a token has none, whatever its kind, and between two tokens
  there is nothing else. `coverage` says it of a stream, however it is driven.
-/

namespace Monkey

/-- The text without its white space. -/
def inked (s : List Char) : List Char := s.filter fun c => !isSpace c

theorem inked_append (s t : List Char) : inked (s ++ t) = inked s ++ inked t :=
  List.filter_append s t

theorem inked_eq_nil {s : List Char} (hs : ∀ c ∈ s, isSpace c = true) : inked s = [] := by
  unfold inked
  rw [List.filter_eq_nil_iff]
  intro c hc
  simp [hs c hc]

theorem inked_eq_self {s : List Char} (hs : ∀ c ∈ s, isSpace c = false) : inked s = s := by
  unfold inked
  rw [List.filter_eq_self]
  intro c hc
  simp [hs c hc]

/-- The literals of these readings, one behind the other. -/
def literals (rs : List Reading) : List Char := rs.flatMap fun r => r.token.literal.toList

namespace Cursor

/-- From the one cursor to the other, the white space `gap` is passed and then `text`, which has
    none in it. -/
structure Passes (c : Cursor) (gap text : List Char) (c' : Cursor) : Prop where
  rest : c.rest = gap ++ (text ++ c'.rest)
  position : c'.position = c.position + gap.length + text.length
  blank : ∀ a ∈ gap, isSpace a = true
  solid : ∀ a ∈ text, isSpace a = false

/-- A reading passes the literal of its token, and no more than white space in front of it. -/
theorem read_passes (c : Cursor) :
    ∃ gap, c.Passes gap c.read.1.token.literal.toList c.read.2 := by
  obtain ⟨n, s⟩ := c
  rcases blank_or_lexeme s with hs | ⟨gap, w, rest, k, rfl, hgap, hk⟩
  · refine ⟨s, ?_⟩
    rw [read_blank n hs]
    exact ⟨by simp [Reading.token, Token.endOfInput], rfl, hs, by simp [Reading.token,
      Token.endOfInput]⟩
  · refine ⟨gap, ?_⟩
    have hliteral : (Reading.lexeme ⟨⟨k, String.ofList w⟩, n + gap.length⟩).token.literal.toList =
        w := String.toList_ofList
    rw [read_lexeme n hgap hk, hliteral]
    exact ⟨rfl, rfl, hgap, fun a ha => Kind.not_isSpace_of_admits (hk.spells.admits a ha)⟩

/-- All that is passed by reading is white space and literals. -/
theorem exists_covered (n : Nat) (c : Cursor) :
    ∃ text, c.rest = text ++ (c.after n).rest ∧
      (c.after n).position = c.position + text.length ∧
      literals (c.readings n) = inked text := by
  induction n generalizing c with
  | zero => exact ⟨[], rfl, rfl, rfl⟩
  | succ n ih =>
    obtain ⟨gap, hpasses⟩ := c.read_passes
    obtain ⟨text, hrest, hposition, hliterals⟩ := ih c.read.2
    refine ⟨gap ++ (c.read.1.token.literal.toList ++ text), ?_, ?_, ?_⟩
    · rw [after, hpasses.rest, hrest, List.append_assoc, List.append_assoc]
    · rw [after, hposition, hpasses.position, List.length_append, List.length_append]
      omega
    · rw [inked_append, inked_append, inked_eq_nil hpasses.blank, inked_eq_self hpasses.solid,
        ← hliterals]
      rfl

end Cursor

namespace TokenStream

/-- A call for one token hands out one reading at most, the next one. -/
theorem answer_single {s : TokenStream} {call : Call} {r : Reading}
    (hcall : call = .read ∨ call = .pull) (hr : r ∈ (s.answer call).1.handedOut) :
    r = s.cursor.read.1 ∧ (s.answer call).2.cursor = s.cursor.read.2 := by
  rcases hcall with rfl | rfl
  · exact ⟨List.mem_singleton.1 hr, rfl⟩
  · change r ∈ s.pull.1.toList at hr
    show r = _ ∧ s.pull.2.cursor = _
    rcases hflag : s.exhausted with _ | _
    · rw [pull_of_not_exhausted hflag] at hr ⊢
      exact ⟨List.mem_singleton.1 hr, rfl⟩
    · rw [pull_of_exhausted hflag] at hr
      exact absurd hr (by simp)

namespace History

/-- A stream stands in its source at its position, and what lies behind it has been handed out. -/
theorem exists_covered (h : History) :
    ∃ text, h.source.toList = text ++ h.stream.cursor.rest ∧
      h.stream.cursor.position = text.length ∧ literals h.given = inked text := by
  obtain ⟨text, hrest, hposition, hliterals⟩ :=
    Cursor.exists_covered h.given.length (Cursor.start h.source)
  rw [← h.moves_given.2] at hrest hposition
  rw [← h.moves_given.1] at hliterals
  refine ⟨text, hrest, ?_, hliterals⟩
  rw [hposition]
  exact Nat.zero_add _

end History

/-- What the tokens that a history has given say of its source. -/
structure Coverage (h : History) : Prop where
  /-- The cursor stands in the source. -/
  position_le : h.stream.cursor.position ≤ h.source.length
  /-- Without white space, the text up to the cursor is all literals so far. -/
  literals_eq : (String.join (h.given.map fun r => r.token.literal)).toList =
    (h.source.toList.take h.stream.cursor.position).filter fun c => !isSpace c
  /-- The next literal ends where the cursor then stands, and only white space is between the
      place where it has stood and the literal. -/
  next : ∀ call, call = .read ∨ call = .pull → ∀ r ∈ (h.stream.answer call).1.handedOut,
    ∃ first, h.stream.cursor.position ≤ first ∧
      first + r.token.literal.length = (h.stream.answer call).2.cursor.position ∧
      (h.stream.answer call).2.cursor.position ≤ h.source.length ∧
      between h.source first (h.stream.answer call).2.cursor.position = r.token.literal ∧
      ∀ c ∈ (between h.source h.stream.cursor.position first).toList, isSpace c = true
  /-- Once the end has been given, the literals are the whole source without white space. -/
  all : (∃ r ∈ h.given, r.token.isEndOfInput = true) →
    (String.join (h.given.map fun r => r.token.literal)).toList =
      h.source.toList.filter fun c => !isSpace c

theorem toList_join_literals (rs : List Reading) :
    (String.join (rs.map fun r => r.token.literal)).toList = literals rs := by
  rw [String.toList_join, List.flatMap_map]
  rfl

/-- However a stream is driven, its tokens lie in the source one behind the other, and nothing
    but white space is left out. -/
theorem coverage (h : History) : Coverage h := by
  obtain ⟨text, hsource, hposition, hliterals⟩ := h.exists_covered
  have hlength : h.source.length = text.length + h.stream.cursor.rest.length := by
    rw [← String.length_toList, hsource, List.length_append]
  have htake : h.source.toList.take h.stream.cursor.position = text := by
    rw [hsource, hposition, List.take_left]
  refine ⟨?_, ?_, ?_, ?_⟩
  · rw [hlength, hposition]
    exact Nat.le_add_right _ _
  · rw [toList_join_literals, hliterals, htake]
    rfl
  · intro call hcall r hr
    obtain ⟨rfl, hcursor⟩ := answer_single hcall hr
    obtain ⟨gap, hrest, hstop, hblank, -⟩ := h.stream.cursor.read_passes
    rw [hcursor]
    generalize h.stream.cursor.read = read at *
    rw [hrest, List.length_append, List.length_append] at hlength
    have hlit : read.1.token.literal.length = read.1.token.literal.toList.length :=
      String.length_toList.symm
    refine ⟨text.length + gap.length, ?_, ?_, ?_, ?_, ?_⟩
    · omega
    · omega
    · omega
    · have hdrop : h.source.toList.drop (text.length + gap.length) =
          read.1.token.literal.toList ++ read.2.rest := by
        rw [hsource, hrest, ← List.append_assoc, ← List.length_append, List.drop_left]
      have hwidth : read.2.position - (text.length + gap.length) =
          read.1.token.literal.toList.length := by omega
      rw [between, hdrop, hwidth, List.take_left, String.ofList_toList]
    · rw [between, String.toList_ofList, hposition, hsource, hrest, List.drop_left,
        Nat.add_sub_cancel_left, List.take_left]
      exact hblank
  · intro hend
    rw [h.exists_end_given_iff, h.endOfInput_mem_given_iff] at hend
    have hnil : h.stream.cursor.rest = [] := by
      rw [h.moves_given.2]
      exact Cursor.rest_after_of_lt hend
    rw [toList_join_literals, hliterals, hsource, hnil, List.append_nil]
    rfl

/-- Two ways to ask for a token, up to the end of a source that begins and ends in white space. -/
theorem coverage_to_end :
    (∃ r ∈ History.given ⟨"\t!==x \n", [.read, .pull, .read, .pull]⟩,
      r.token.isEndOfInput = true) ∧
    (String.join ((History.given ⟨"\t!==x \n", [.read, .pull, .read, .pull]⟩).map
      fun r => r.token.literal)).toList = "!==x".toList := by
  have hend : ∃ r ∈ History.given ⟨"\t!==x \n", [.read, .pull, .read, .pull]⟩,
      r.token.isEndOfInput = true := ⟨.endOfInput, by decide +kernel, rfl⟩
  refine ⟨hend, ?_⟩
  rw [(coverage ⟨"\t!==x \n", [.read, .pull, .read, .pull]⟩).all hend]
  decide

end TokenStream

end Monkey
